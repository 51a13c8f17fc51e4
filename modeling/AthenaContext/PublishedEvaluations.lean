import AthenaContext.EvaluationRuns

/-!
# Published evaluations

What holds over every run of evaluations: the requests that are known were opened by a
preparation, a capability leads to one commit, evaluations have one key and one snapshot each,
and an answer under a key is the evaluation that is stored under it.
-/

namespace AthenaContext.EvaluationRuns

open Dictionaries
open Histories
open EvaluationRecords
open EvaluationAuthority EvaluationPublication

variable {γ δ : Type} {E : EvidenceTypes} {S : EvaluationService γ δ E}
  {s t : EvaluationState γ δ E} {event : EvaluationEvent γ E}

/-! ## Stored evaluations -/

/-- Every evaluation is stored under its key and its snapshot, and no key of an actor twice. -/
structure Recorded (store : EvaluationStore γ δ E) : Prop where
  byKey : ∀ {key a}, store.others.evaluationReceipts.get? key = some a →
    key = (a.actorId, a.workloadId, a.idempotencyKey) ∧
      store.others.evaluationArtifacts.get? a.snapshotId = some a
  bySnapshot : ∀ {id a}, store.others.evaluationArtifacts.get? id = some a → id = a.snapshotId ∧
    store.others.evaluationReceipts.get? (a.actorId, a.workloadId, a.idempotencyKey) = some a
  oneKey : ∀ {key key' a b}, store.others.evaluationReceipts.get? key = some a →
    store.others.evaluationReceipts.get? key' = some b → key.1 = key'.1 → key.2.2 = key'.2.2 →
      key = key'

/-- The evaluations of a store are those of another. -/
structure SameEvaluations (s t : EvaluationStore γ δ E) : Prop where
  receipts : t.others.evaluationReceipts = s.others.evaluationReceipts
  artifacts : t.others.evaluationArtifacts = s.others.evaluationArtifacts

theorem Recorded.of_same {s t : EvaluationStore γ δ E} (h : Recorded s)
    (hsame : SameEvaluations s t) : Recorded t where
  byKey hkey := by
    rw [hsame.receipts] at hkey
    rw [hsame.artifacts]
    exact h.byKey hkey
  bySnapshot hid := by
    rw [hsame.artifacts] at hid
    rw [hsame.receipts]
    exact h.bySnapshot hid
  oneKey hkey hkey' := by
    rw [hsame.receipts] at hkey hkey'
    exact h.oneKey hkey hkey'

theorem recorded_withEvaluation {store : EvaluationStore γ δ E} {request : DemoEvaluationRequest}
    {artifact : StoredEvaluation E} (h : Recorded store)
    (hnew : NewEvaluation S store request artifact) : Recorded (withEvaluation store artifact) := by
  have hfree : ∀ {key a}, store.others.evaluationReceipts.get? key = some a →
      ¬ (key.1 = artifact.actorId ∧ key.2.2 = artifact.idempotencyKey) := by
    intro key a hkey
    exact hnew.freeKey key (Dictionary.mem_keys.mpr (by simp [hkey]))
  constructor
  · intro key a hkey
    simp only [withEvaluation, Dictionary.get?_set] at hkey ⊢
    split at hkey
    · next heq =>
      cases hkey
      exact ⟨heq, if_pos rfl⟩
    · obtain ⟨hown, hsnapshot⟩ := h.byKey hkey
      refine ⟨hown, ?_⟩
      rw [if_neg]
      · exact hsnapshot
      · intro heq
        rw [heq, hnew.freeSnapshot] at hsnapshot
        cases hsnapshot
  · intro id a hid
    simp only [withEvaluation, Dictionary.get?_set] at hid ⊢
    split at hid
    · next heq =>
      cases hid
      exact ⟨heq, if_pos rfl⟩
    · obtain ⟨hown, hkey⟩ := h.bySnapshot hid
      refine ⟨hown, ?_⟩
      rw [if_neg]
      · exact hkey
      · intro heq
        exact hfree hkey ⟨congrArg Prod.fst heq, congrArg (·.2.2) heq⟩
  · intro key key' a b hkey hkey' hactor hkeys
    simp only [withEvaluation, Dictionary.get?_set] at hkey hkey'
    split at hkey
    · next heq =>
      subst heq
      split at hkey'
      · next heq' => exact heq'.symm
      · exact absurd ⟨hactor.symm, hkeys.symm⟩ (hfree hkey')
    · split at hkey'
      · next heq' =>
        subst heq'
        exact absurd ⟨hactor, hkeys⟩ (hfree hkey)
      · exact h.oneKey hkey hkey' hactor hkeys

/-- An event leaves the evaluations, or stores one under a free key and a free snapshot. -/
theorem EventStep.evaluations (h : EventStep S s event t) :
    SameEvaluations s.store t.store ∨ ∃ n capability request evidence clock artifact,
      event = .commit n clock ∧ s.phase n = some (.taken capability request evidence) ∧
        t = { s.setPhase n (.finished (resultOf S artifact)) with
              store := withEvaluation s.store artifact } ∧
        NewEvaluation S s.store request artifact ∧
        commitEvaluation S s.store request evidence clock =
          .ok (artifact, withEvaluation s.store artifact) := by
  cases h with
  | stored n capability request evidence clock artifact taken new committed =>
    exact .inr ⟨n, capability, request, evidence, clock, artifact, rfl, taken, rfl, new, committed⟩
  | authority _ store step => exact .inl ⟨step.receipts, step.artifacts⟩
  | _ => exact .inl ⟨rfl, rfl⟩

theorem recorded_of_reachable (h : (evaluationSystem S).Reachable s) : Recorded s.store := by
  refine h.invariant (P := fun s => Recorded s.store) ?_ ?_
  · rintro s ⟨hreceipts, hartifacts, -⟩
    constructor
    · intro key a hkey
      rw [hreceipts] at hkey
      cases hkey
    · intro id a hid
      rw [hartifacts] at hid
      cases hid
    · intro key key' a b hkey
      rw [hreceipts] at hkey
      cases hkey
  · rintro s event _ - hrecorded rfl
    rcases (after_eventStep (S := S) (s := s) event).evaluations with hsame | ⟨_, _, _, _, _, _, -, -,
      ht, hnew, -⟩
    · exact hrecorded.of_same hsame
    · rw [ht]
      exact recorded_withEvaluation hrecorded hnew

/-- Evaluations are neither removed nor replaced. -/
theorem receipt_kept (h : (evaluationSystem S).step s event t) {key : String × String × String}
    {a : StoredEvaluation E} (hkey : s.store.others.evaluationReceipts.get? key = some a) :
    t.store.others.evaluationReceipts.get? key = some a := by
  obtain rfl := h
  rcases (after_eventStep (S := S) (s := s) event).evaluations with hsame | ⟨_, _, _, _, _, artifact,
    -, -, ht, hnew, -⟩
  · rw [hsame.receipts]
    exact hkey
  · rw [ht]
    have hne : key ≠ (artifact.actorId, artifact.workloadId, artifact.idempotencyKey) := by
      intro heq
      refine hnew.freeKey key (Dictionary.mem_keys.mpr (by simp [hkey])) ?_
      exact ⟨congrArg Prod.fst heq, congrArg (·.2.2) heq⟩
    exact (Dictionary.get?_set_of_ne hne).trans hkey

/-! ## Authority -/

theorem EventStep.authorityChange (h : EventStep S s event t) : AuthorityChange s.store t.store := by
  cases h with
  | stored n capability request evidence clock artifact => exact authorityChange_withEvaluation _
  | authority _ store step => exact step.change
  | _ => exact AuthorityStep.refl.change

/-! ## Requests -/

/-- A request that is prepared, registered or taken. -/
def Known (request : DemoEvaluationRequest) (s : EvaluationState γ δ E) : Prop :=
  (∃ n, s.phase n = some (.prepared request)) ∨
    (∃ capability, s.requests.get? capability = some request) ∨
      ∃ n capability evidence, s.phase n = some (.taken capability request evidence)

/-- A phase of a state in which one phase was set. -/
theorem phase_setPhase {n m : ℕ} {p q : Phase E} (h : (s.setPhase n p).phase m = some q) :
    p = q ∧ m = n ∨ s.phase m = some q := by
  rw [EvaluationState.setPhase_eq] at h
  split at h
  · next heq => exact .inl ⟨Option.some.inj h, heq⟩
  · exact .inr h

/-- A request that a state did not know was opened by a preparation. -/
theorem EventStep.known {request : DemoEvaluationRequest} (h : EventStep S s event t)
    (ht : Known request t) : Known request s ∨ ∃ n call asOf,
      event = .prepare n call (.ok asOf) ∧ OpenedBy S s.store call request := by
  have hphases : ∀ {n : ℕ} {p : Phase E}, (∀ r, p ≠ .prepared r) → (∀ c r e, p ≠ .taken c r e) →
      (∃ m, (s.setPhase n p).phase m = some (.prepared request)) ∨
        (∃ m c e, (s.setPhase n p).phase m = some (.taken c request e)) → Known request s := by
    rintro n p hprepared htaken (⟨m, hm⟩ | ⟨m, c, e, hm⟩)
    · rcases phase_setPhase hm with ⟨rfl, -⟩ | hm
      · exact absurd rfl (hprepared request)
      · exact .inl ⟨m, hm⟩
    · rcases phase_setPhase hm with ⟨rfl, -⟩ | hm
      · exact absurd rfl (htaken c request e)
      · exact .inr (.inr ⟨m, c, e, hm⟩)
  cases h with
  | idle => exact .inl ht
  | authority _ store step => exact .inl ht
  | opened n call asOf request' new opened =>
    rcases ht with ⟨m, hm⟩ | hc | ⟨m, c, e, hm⟩
    · rcases phase_setPhase hm with ⟨heq, -⟩ | hm
      · cases heq
        exact .inr ⟨n, call, asOf, rfl, opened⟩
      · exact .inl (.inl ⟨m, hm⟩)
    · exact .inl (.inr (.inl hc))
    · rcases phase_setPhase hm with ⟨heq, -⟩ | hm
      · cases heq
      · exact .inl (.inr (.inr ⟨m, c, e, hm⟩))
  | registered n request' prepared =>
    rcases ht with hm | ⟨c, hc⟩ | hm
    · exact .inl (hphases (by simp) (by simp) (.inl hm))
    · simp only [Dictionary.get?_set] at hc
      split at hc
      · cases hc
        exact .inl (.inl ⟨n, prepared⟩)
      · exact .inl (.inr (.inl ⟨c, hc⟩))
    · exact .inl (hphases (by simp) (by simp) (.inr hm))
  | collected _ n capability evidence unfinished =>
    rcases ht with hm | hc | hm
    · exact .inl (hphases (by simp) (by simp) (.inl hm))
    · exact .inl (.inr (.inl hc))
    · exact .inl (hphases (by simp) (by simp) (.inr hm))
  | taken n capability request' evidence collected found =>
    rcases ht with ⟨m, hm⟩ | ⟨c, hc⟩ | ⟨m, c, e, hm⟩
    · rcases phase_setPhase hm with ⟨heq, -⟩ | hm
      · cases heq
      · exact .inl (.inl ⟨m, hm⟩)
    · exact .inl (.inr (.inl ⟨c, erase_fewer hc⟩))
    · rcases phase_setPhase hm with ⟨heq, -⟩ | hm
      · cases heq
        exact .inl (.inr (.inl ⟨capability, found⟩))
      · exact .inl (.inr (.inr ⟨m, c, e, hm⟩))
  | finished _ n answer requests unfinished fewer =>
    rcases ht with hm | ⟨c, hc⟩ | hm
    · exact .inl (hphases (by simp) (by simp) (.inl hm))
    · exact .inl (.inr (.inl ⟨c, fewer c request hc⟩))
    · exact .inl (hphases (by simp) (by simp) (.inr hm))
  | stored n capability request' evidence clock artifact =>
    rcases ht with hm | hc | hm
    · exact .inl (hphases (by simp) (by simp) (.inl hm))
    · exact .inl (.inr (.inl hc))
    · exact .inl (hphases (by simp) (by simp) (.inr hm))

/-- A known request was opened by an earlier preparation. -/
theorem exists_preparation {H : History (evaluationSystem S)} {j : ℕ} (hj : j ≤ H.length)
    {request : DemoEvaluationRequest} (h : Known request (H.state j)) :
    ∃ i < j, ∃ n call asOf, H.event i = .prepare n call (.ok asOf) ∧
      OpenedBy S (H.state i).store call request := by
  have hstart : ∀ s, (evaluationSystem S).init s → ¬ Known request s := by
    rintro s ⟨-, -, hrequests, hphase⟩ (⟨n, hn⟩ | ⟨c, hc⟩ | ⟨n, c, e, hn⟩)
    · rw [hphase] at hn
      cases hn
    · rw [hrequests] at hc
      cases hc
    · rw [hphase] at hn
      cases hn
  obtain ⟨i, hi, hunknown, hknown⟩ := H.entered hstart hj h
  have hstep := after_eventStep (S := S) (s := H.state i) (H.event i)
  rw [← H.steps i (by omega)] at hstep
  rcases hstep.known hknown with hbefore | hopened
  · exact absurd hbefore hunknown
  · exact ⟨i, hi, hopened⟩

end AthenaContext.EvaluationRuns
