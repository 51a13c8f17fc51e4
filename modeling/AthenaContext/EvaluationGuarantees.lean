import AthenaContext.PublishedEvaluations

/-!
# Guarantees of demo evaluations

The answers of evaluations over a run. A capability leads to one commit, an answer under a key
is the evaluation that is stored under it, and an evaluation that raised has stored nothing.
-/

namespace AthenaContext.EvaluationRuns

open JsonText DocumentDigests Dictionaries
open Histories FallibleResults
open ContextRecords ContextCalls EvaluationRecords EvaluationResults
open EvaluationAuthority EvaluationPublication

variable {γ δ : Type} {E : EvidenceTypes} {S : EvaluationService γ δ E}
  {s t : EvaluationState γ δ E} {event : EvaluationEvent γ E}

/-! ## Capabilities -/

/-- Every capability in use was issued, a taken one is in the table no more, and one evaluation
has taken it. -/
structure Issued (s : EvaluationState γ δ E) : Prop where
  requests : ∀ {c r}, s.requests.get? c = some r → c < s.issued
  taken : ∀ {n c r e}, s.phase n = some (.taken c r e) → c < s.issued ∧ s.requests.get? c = none
  once : ∀ {n m c r e r' e'}, s.phase n = some (.taken c r e) → s.phase m = some (.taken c r' e') →
    n = m

/-- A capability that no evaluation can commit with any more. -/
def Spent (c : ℕ) (s : EvaluationState γ δ E) : Prop :=
  c < s.issued ∧ s.requests.get? c = none ∧ ∀ n r e, s.phase n ≠ some (.taken c r e)

/-- Phases that are taken after another phase was set. -/
theorem taken_setPhase {n m c : ℕ} {p : Phase E} {r : DemoEvaluationRequest}
    {e : CollectedSnapshot E} (hp : ∀ c r e, p ≠ .taken c r e)
    (h : (s.setPhase n p).phase m = some (.taken c r e)) : s.phase m = some (.taken c r e) := by
  rcases phase_setPhase h with ⟨rfl, -⟩ | h
  · exact absurd rfl (hp c r e)
  · exact h

theorem get?_none_of_fewer {d d' : Dictionary ℕ DemoEvaluationRequest} {c : ℕ}
    (hfewer : ∀ c r, d'.get? c = some r → d.get? c = some r) (h : d.get? c = none) :
    d'.get? c = none := by
  cases hc : d'.get? c with
  | none => rfl
  | some r =>
    rw [hfewer c r hc] at h
    cases h

/-- Setting a phase other than a taken one, with at most the requests of before. -/
theorem Issued.setPhase {n : ℕ} {p : Phase E} {requests : Dictionary ℕ DemoEvaluationRequest}
    {store : EvaluationStore γ δ E} (h : Issued s) (hp : ∀ c r e, p ≠ .taken c r e)
    (hfewer : ∀ c r, requests.get? c = some r → s.requests.get? c = some r) :
    Issued { s.setPhase n p with requests := requests, store := store } where
  requests hc := h.requests (hfewer _ _ hc)
  taken hm := by
    obtain ⟨hissued, hnone⟩ := h.taken (taken_setPhase hp hm)
    exact ⟨hissued, get?_none_of_fewer hfewer hnone⟩
  once hn hm := h.once (taken_setPhase hp hn) (taken_setPhase hp hm)

theorem EventStep.issued (h : EventStep S s event t) (hs : Issued s) : Issued t := by
  cases h with
  | idle => exact hs
  | opened n call asOf request new opened => exact hs.setPhase (by simp) fun _ _ h => h
  | registered n request prepared =>
    constructor
    · intro c r hc
      simp only [Dictionary.get?_set] at hc
      split at hc
      · next heq => exact heq ▸ Nat.lt_succ_self _
      · have hbefore := hs.requests hc
        exact Nat.lt_succ_of_lt hbefore
    · intro m c r e hm
      obtain ⟨hissued, hnone⟩ := hs.taken (taken_setPhase (by simp) hm)
      refine ⟨Nat.lt_succ_of_lt hissued, ?_⟩
      simp only [Dictionary.get?_set]
      rw [if_neg (by omega)]
      exact hnone
    · intro m m' c r e r' e' hm hm'
      exact hs.once (taken_setPhase (by simp) hm) (taken_setPhase (by simp) hm')
  | collected _ n capability evidence unfinished => exact hs.setPhase (by simp) fun _ _ h => h
  | taken n capability request evidence collected found =>
    have hfresh : ∀ {m r e}, s.phase m ≠ some (.taken capability r e) := by
      intro m r e hm
      have hnone := (hs.taken hm).2
      rw [found] at hnone
      cases hnone
    constructor
    · intro c r hc
      exact hs.requests (erase_fewer hc)
    · intro m c r e hm
      simp only [Dictionary.get?_erase]
      rcases phase_setPhase hm with ⟨heq, -⟩ | hm
      · cases heq
        exact ⟨hs.requests found, if_pos rfl⟩
      · obtain ⟨hissued, hnone⟩ := hs.taken hm
        refine ⟨hissued, ?_⟩
        split
        · rfl
        · exact hnone
    · intro m m' c r e r' e' hm hm'
      rcases phase_setPhase hm with ⟨heq, rfl⟩ | hm
      · cases heq
        rcases phase_setPhase hm' with ⟨-, rfl⟩ | hm'
        · rfl
        · exact absurd hm' hfresh
      · rcases phase_setPhase hm' with ⟨heq, -⟩ | hm'
        · cases heq
          exact absurd hm hfresh
        · exact hs.once hm hm'
  | finished _ n answer requests unfinished fewer => exact hs.setPhase (by simp) fewer
  | stored n capability request evidence clock artifact => exact hs.setPhase (by simp) fun _ _ h => h
  | authority _ store step => exact ⟨hs.requests, hs.taken, hs.once⟩

theorem issued_of_reachable (h : (evaluationSystem S).Reachable s) : Issued s := by
  refine h.invariant (P := Issued) ?_ ?_
  · rintro s ⟨-, -, hrequests, hphase⟩
    constructor
    · intro c r hc
      rw [hrequests] at hc
      cases hc
    · intro n c r e hn
      rw [hphase] at hn
      cases hn
    · intro n m c r e r' e' hn
      rw [hphase] at hn
      cases hn
  · rintro s event _ - hissued rfl
    exact (after_eventStep event).issued hissued

theorem Spent.setPhase {n c : ℕ} {p : Phase E} {requests : Dictionary ℕ DemoEvaluationRequest}
    {store : EvaluationStore γ δ E} (h : Spent c s) (hp : ∀ c r e, p ≠ .taken c r e)
    (hfewer : ∀ c r, requests.get? c = some r → s.requests.get? c = some r) :
    Spent c { s.setPhase n p with requests := requests, store := store } :=
  ⟨h.1, get?_none_of_fewer hfewer h.2.1, fun m r e hm => h.2.2 m r e (taken_setPhase hp hm)⟩

/-- A spent capability is not issued again. -/
theorem EventStep.spent {c : ℕ} (h : EventStep S s event t) (hs : Spent c s) : Spent c t := by
  cases h with
  | idle => exact hs
  | opened n call asOf request new opened => exact hs.setPhase (by simp) fun _ _ h => h
  | registered n request prepared =>
    obtain ⟨hissued, hnone, hfree⟩ := hs
    refine ⟨Nat.lt_succ_of_lt hissued, ?_, fun m r e hm => hfree m r e (taken_setPhase (by simp) hm)⟩
    simp only [Dictionary.get?_set]
    rw [if_neg (by omega)]
    exact hnone
  | collected _ n capability evidence unfinished => exact hs.setPhase (by simp) fun _ _ h => h
  | taken n capability request evidence collected found =>
    obtain ⟨hissued, hnone, hfree⟩ := hs
    refine ⟨hissued, ?_, fun m r e hm => ?_⟩
    · simp only [Dictionary.get?_erase]
      split
      · rfl
      · exact hnone
    · rcases phase_setPhase hm with ⟨heq, -⟩ | hm
      · cases heq
        rw [hnone] at found
        cases found
      · exact hfree m r e hm
  | finished _ n answer requests unfinished fewer => exact hs.setPhase (by simp) fewer
  | stored n capability request evidence clock artifact => exact hs.setPhase (by simp) fun _ _ h => h
  | authority _ store step => exact hs

/-- A commit finishes its evaluation. -/
theorem after_commit {n capability : ℕ} {request : DemoEvaluationRequest}
    {evidence : CollectedSnapshot E} {clock : CommitClock}
    (htaken : s.phase n = some (.taken capability request evidence)) :
    after S s (.commit n clock) =
      { s.setPhase n (.finished (commitPrepared S s.store request evidence clock).1) with
        store := (commitPrepared S s.store request evidence clock).2 } := by
  simp only [after, htaken]

/-- The capability of a commit is spent after it. -/
theorem spent_after_commit {n capability : ℕ} {request : DemoEvaluationRequest}
    {evidence : CollectedSnapshot E} {clock : CommitClock} (hissued : Issued s)
    (htaken : s.phase n = some (.taken capability request evidence)) :
    Spent capability (after S s (.commit n clock)) := by
  obtain ⟨hlt, hnone⟩ := hissued.taken htaken
  rw [after_commit htaken]
  refine ⟨hlt, hnone, fun m r e hm => ?_⟩
  rcases phase_setPhase hm with ⟨heq, -⟩ | hbefore
  · cases heq
  · have hsame := hissued.once htaken hbefore
    subst hsame
    rw [EvaluationState.setPhase_self] at hm
    cases hm

/-! ## Finished evaluations -/

theorem EventStep.finished_kept {n : ℕ} {answer : Outcome (DemoEvaluationResult E)}
    (h : EventStep S s event t) (hs : s.phase n = some (.finished answer)) :
    t.phase n = some (.finished answer) := by
  have hother : ∀ {m : ℕ} {p : Phase E}, (∀ answer, s.phase m ≠ some (.finished answer)) →
      (s.setPhase m p).phase n = some (.finished answer) := by
    intro m p hopen
    have hne : n ≠ m := by
      rintro rfl
      exact hopen answer hs
    exact (EvaluationState.setPhase_of_ne hne).trans hs
  cases h with
  | idle => exact hs
  | authority _ store step => exact hs
  | opened m call asOf request new opened => exact hother (by simp [new])
  | registered m request prepared => exact hother (by simp [prepared])
  | collected _ m capability evidence unfinished => exact hother unfinished
  | taken m capability request evidence collected found => exact hother (by simp [collected])
  | finished _ m answer requests unfinished fewer => exact hother unfinished
  | stored m capability request evidence clock artifact taken => exact hother (by simp [taken])

/-! ## Answers -/

/-- An event finishes an evaluation of a command under a key. -/
inductive Answered (S : EvaluationService γ δ E) (s : EvaluationState γ δ E) :
    EvaluationEvent γ E → Actor → String → DemoEvaluationCommand →
      Outcome (DemoEvaluationResult E) → Prop
  | prepared (n : ℕ) (call : EvaluationCall) (asOf : Outcome Timestamp)
      (answer : Outcome (DemoEvaluationResult E)) (new : s.phase n = none)
      (finished : (after S s (.prepare n call asOf)).phase n = some (.finished answer)) :
      Answered S s (.prepare n call asOf) call.actor call.idempotencyKey call.command answer
  | committed (n capability : ℕ) (request : DemoEvaluationRequest) (evidence : CollectedSnapshot E)
      (clock : CommitClock) (answer : Outcome (DemoEvaluationResult E))
      (taken : s.phase n = some (.taken capability request evidence))
      (finished : (after S s (.commit n clock)).phase n = some (.finished answer)) :
      Answered S s (.commit n clock) request.actor request.idempotencyKey request.command answer

/-- The evaluation of a key, for a command of its digest. -/
structure AnsweredBy (S : EvaluationService γ δ E) (store : EvaluationStore γ δ E) (actor : Actor)
    (key : String) (command : DemoEvaluationCommand) (authority : EvaluationCollectionAuthority)
    (artifact : StoredEvaluation E) : Prop where
  stored : store.others.evaluationReceipts.get? (actor.actorId, command.manifestId, key) =
    some artifact
  workloadId : artifact.workloadId = command.manifestId
  collection : S.buildCollectionAuthority command.authorizedScope = .ok authority
  requestDigest : EvaluationPublication.requestDigest S actor command authority =
    .ok artifact.requestDigest

theorem prepared_answer {n : ℕ} {call : EvaluationCall} {asOf : Outcome Timestamp}
    {answer : Outcome (DemoEvaluationResult E)} (hnew : s.phase n = none)
    (h : (after S s (.prepare n call asOf)).phase n = some (.finished answer)) :
    (∃ artifact, (asOf >>= prepareRequest S s.store call) = .ok (.replay artifact) ∧
        answer = resultOf S artifact) ∨
      ∃ e, (asOf >>= prepareRequest S s.store call) = .error e ∧ answer = .error e := by
  simp only [after, hnew, prepareStep] at h
  split at h
  · next e he =>
    rw [EvaluationState.setPhase_self] at h
    cases h
    exact .inr ⟨e, he, rfl⟩
  · next artifact hartifact =>
    rw [EvaluationState.setPhase_self] at h
    cases h
    exact .inl ⟨artifact, hartifact, rfl⟩
  · rw [EvaluationState.setPhase_self] at h
    cases h

theorem after_prepare_store {n : ℕ} {call : EvaluationCall} {asOf : Outcome Timestamp} :
    (after S s (.prepare n call asOf)).store = s.store := by
  simp only [after]
  split
  · rw [prepareStep]
    split <;> rfl
  · rfl

theorem commit_answer {n capability : ℕ} {request : DemoEvaluationRequest}
    {evidence : CollectedSnapshot E} {clock : CommitClock}
    {answer : Outcome (DemoEvaluationResult E)}
    (htaken : s.phase n = some (.taken capability request evidence))
    (h : (after S s (.commit n clock)).phase n = some (.finished answer)) :
    answer = (commitPrepared S s.store request evidence clock).1 := by
  rw [after_commit htaken] at h
  have hself := Option.some.inj (EvaluationState.setPhase_self.symm.trans h)
  exact (Phase.finished.inj hself).symm

/-- A successful answer is the stored evaluation of its key, whose request has the digest of the
command. -/
theorem answered_ok {actor : Actor} {key : String} {command : DemoEvaluationCommand}
    {result : DemoEvaluationResult E} (h : Answered S s event actor key command (.ok result))
    (hknown : ∀ request, Known request s → EvaluationPublication.requestDigest S request.actor
        request.command request.collectionAuthority = .ok request.requestDigest ∧
      S.buildCollectionAuthority request.command.authorizedScope = .ok request.collectionAuthority) :
    ∃ authority artifact, AnsweredBy S (after S s event).store actor key command authority artifact ∧
      resultOf S artifact = .ok result := by
  cases h with
  | prepared n call asOf _ new finished =>
    rw [after_prepare_store]
    rcases prepared_answer new finished with ⟨artifact, hprepare, hanswer⟩ | ⟨_, -, hanswer⟩
    · obtain ⟨t, -, hprepare⟩ := bind_ok_iff.mp hprepare
      obtain ⟨authority, digest, hcollection, hcases⟩ := prepareRequest_ok hprepare
      obtain ⟨hauthority, hdigest⟩ := collectionRequest_ok hcollection
      rcases hcases with ⟨_, heq, rfl, hworkload, hstored⟩ | ⟨_, _, _, heq, -⟩
      · cases heq
        exact ⟨authority, artifact, ⟨hstored, hworkload, hauthority, hdigest⟩, hanswer.symm⟩
      · cases heq
    · cases hanswer
  | committed n capability request evidence clock _ taken finished =>
    have hanswer := commit_answer taken finished
    have hrequest := hknown request (.inr (.inr ⟨n, capability, evidence, taken⟩))
    rw [after_commit taken]
    rw [commitPrepared] at hanswer ⊢
    split at hanswer
    · next artifact store hcommit =>
      refine ⟨request.collectionAuthority, artifact, ?_, hanswer.symm⟩
      rcases commitEvaluation_ok hcommit with ⟨rfl, hdigest, hworkload, hstored⟩ | ⟨rfl, hnew⟩
      · exact ⟨hstored, hworkload, hrequest.2, hdigest ▸ hrequest.1⟩
      · refine ⟨?_, hnew.workloadId, hrequest.2, hnew.requestDigest⟩
        rw [← hnew.actorId, ← hnew.workloadId, ← hnew.idempotencyKey]
        exact Dictionary.get?_set_self
    · cases hanswer

/-! ## Digests -/

/-- What an event digests: the request of a preparation, and the result of a commit at the time
of its snapshot, as it is built and as it is read again. -/
inductive Digested (S : EvaluationService γ δ E) (s : EvaluationState γ δ E) :
    EvaluationEvent γ E → Json → Prop
  | request (n : ℕ) (call : EvaluationCall) (asOf : Outcome Timestamp)
      (authority : EvaluationCollectionAuthority)
      (collection : S.buildCollectionAuthority call.command.authorizedScope = .ok authority) :
      Digested S s (.prepare n call asOf)
        (.object (requestMembers call.actor call.command authority))
  | result (n capability : ℕ) (request : DemoEvaluationRequest) (evidence : CollectedSnapshot E)
      (clock : CommitClock) (artifact : StoredEvaluation E) (store : EvaluationStore γ δ E)
      (built result : DemoEvaluationResult E)
      (taken : s.phase n = some (.taken capability request evidence))
      (committed : commitEvaluation S s.store request evidence clock = .ok (artifact, store))
      (builds : S.renderer.buildResult artifact.material artifact.material.snapshot.collectedAt =
        some built)
      (rendered : result = built ∨ S.renderer.reparse built = some result) :
      Digested S s (.commit n clock) (S.renderer.digestPayload result)

/-- The digests of a run tell the payloads that it digests apart. -/
def DistinguishesPayloads (H : History (evaluationSystem S)) : Prop :=
  ∀ i < H.length, ∀ j < H.length, ∀ a b, Digested S (H.state i) (H.event i) a →
    Digested S (H.state j) (H.event j) b →
      Distinguishes S.renderer.runtime S.renderer.tables S.renderer.sha256 a b

/-- Requests of one digest have one canonical text. -/
theorem sameDump_of_requestDigest {actor actor' : Actor} {command command' : DemoEvaluationCommand}
    {authority authority' : EvaluationCollectionAuthority} {digest : String}
    (hdistinct : Distinguishes S.renderer.runtime S.renderer.tables S.renderer.sha256
      (.object (requestMembers actor command authority))
      (.object (requestMembers actor' command' authority')))
    (h : EvaluationPublication.requestDigest S actor command authority = .ok digest)
    (h' : EvaluationPublication.requestDigest S actor' command' authority' = .ok digest) :
    SameDump S.renderer.runtime S.renderer.tables (.object (requestMembers actor command authority))
      (.object (requestMembers actor' command' authority')) := by
  have htext : ∀ {payload : Json}, S.artifactDigest payload = .ok digest →
      S.renderer.artifactDigest payload = some digest.toList := by
    intro payload hpayload
    rw [EvaluationService.artifactDigest] at hpayload
    split at hpayload
    · next text hfound =>
      cases hpayload
      rw [hfound, String.toList_ofList]
    · cases hpayload
  exact hdistinct _ (htext h) (htext h')

/-! ## Over a run -/

section Run

variable {H : History (evaluationSystem S)} {i j : ℕ}

theorem eventStep_at (hj : j < H.length) :
    EventStep S (H.state j) (H.event j) (H.state (j + 1)) := by
  rw [H.steps j hj]
  exact after_eventStep _

/-- A known request has the digest of its command. -/
theorem known_digest (hj : j ≤ H.length) (request : DemoEvaluationRequest)
    (h : Known request (H.state j)) : EvaluationPublication.requestDigest S request.actor
        request.command request.collectionAuthority = .ok request.requestDigest ∧
      S.buildCollectionAuthority request.command.authorizedScope =
        .ok request.collectionAuthority := by
  obtain ⟨i, -, n, call, asOf, -, hopened⟩ := exists_preparation hj h
  rw [hopened.actor, hopened.command]
  exact ⟨hopened.requestDigest, hopened.collectionAuthority⟩

/-- The answers of a run are evaluations of its store, from then on. -/
theorem answered_kept {actor : Actor} {key : String} {command : DemoEvaluationCommand}
    {result : DemoEvaluationResult E} (hij : i < j) (hj : j ≤ H.length)
    (h : Answered S (H.state i) (H.event i) actor key command (.ok result)) :
    ∃ authority artifact, AnsweredBy S (H.state j).store actor key command authority artifact ∧
      resultOf S artifact = .ok result := by
  obtain ⟨authority, artifact, hanswered, hresult⟩ :=
    answered_ok h (known_digest (H := H) (j := i) (by omega))
  rw [← H.steps i (by omega)] at hanswered
  have hstored := H.kept (P := fun s => s.store.others.evaluationReceipts.get?
      (actor.actorId, command.manifestId, key) = some artifact) (i := i + 1)
    (fun _ _ _ _ hstep hkey => receipt_kept hstep hkey) (by omega) hj hanswered.stored
  exact ⟨authority, artifact, ⟨hstored, hanswered.workloadId, hanswered.collection,
    hanswered.requestDigest⟩, hresult⟩

/-- The request of an answer is among the digested payloads. -/
theorem answered_digested {actor : Actor} {key : String} {command : DemoEvaluationCommand}
    {answer : Outcome (DemoEvaluationResult E)} {authority : EvaluationCollectionAuthority}
    (hj : j < H.length) (h : Answered S (H.state j) (H.event j) actor key command answer)
    (hauthority : S.buildCollectionAuthority command.authorizedScope = .ok authority) :
    ∃ i < H.length, Digested S (H.state i) (H.event i)
      (.object (requestMembers actor command authority)) := by
  generalize hevent : H.event j = event at h
  cases h with
  | prepared n call asOf _ new finished =>
    refine ⟨j, hj, ?_⟩
    rw [hevent]
    exact .request n call asOf authority hauthority
  | committed n capability request evidence clock _ taken finished =>
    obtain ⟨i, hi, m, call, asOf, hprepare, hopened⟩ :=
      exists_preparation (by omega) (.inr (.inr ⟨n, capability, evidence, taken⟩))
    refine ⟨i, by omega, ?_⟩
    rw [hprepare, hopened.actor, hopened.command]
    rw [hopened.command] at hauthority
    exact .request m call (.ok asOf) authority hauthority

end Run

end AthenaContext.EvaluationRuns
