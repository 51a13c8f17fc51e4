import AthenaContext.ReviewedPublication

/-!
# The content of a rollback

A draft that names a rollback source is created with the content of an older published
version. Only creation compares the two: a replacement may hand in any content, and the
finalization of a candidate sorts the keyed collections. Where every replacement of such
a draft keeps its content, and it is submitted in canonical order, every rollback draft
and every version published from it still has the content of its source.
-/

namespace AthenaContext.RollbackContent

open ContextRecords ContextStorage ContextMutations ContextTransitions ContextCalls
open ReviewedPublication Dictionaries Transactions TransitionSystems
open ContextMutations.ContextService

variable {γ δ R : Type} {S : ContextService γ δ R} {s t : Store γ δ R}

/-- Both manifests have a rollback content digest, and it is the same. -/
def SameContent (S : ContextService γ δ R) (manifest other : Manifest γ) : Prop :=
  ∃ digest, S.contract.rollbackContentDigest manifest = .ok digest ∧
    S.contract.rollbackContentDigest other = .ok digest

theorem SameContent.trans {a b c : Manifest γ} (h : SameContent S a b) (k : SameContent S b c) :
    SameContent S a c := by
  obtain ⟨digest, ha, hb⟩ := h
  obtain ⟨digest', hb', hc⟩ := k
  have he : digest = digest' := Except.ok.inj (hb.symm.trans hb')
  exact ⟨digest, ha, he ▸ hc⟩

/-- The draft has the content of its rollback source, which is older than the previous
version of the draft. -/
def RollbackHolds (S : ContextService γ δ R) (s : Store γ δ R) (draft : Draft γ) : Prop :=
  ∀ version, draft.rollbackSourceVersion = some version →
    ∃ source previous, s.published.get? (draft.manifestId, version) = some source ∧
      draft.previousVersion = some previous ∧ version.versionKey < previous.versionKey ∧
      SameContent S draft.manifest source.manifest

/-- A manifest that is read back from the content it was dumped to has the content it
had: the digest leaves out the version, the audit block and the two digests, and reading
keeps all other fields. -/
def ReadsContentBack (C : ManifestContract γ δ) : Prop :=
  ∀ (manifest : Manifest γ) (payload : Manifest δ) (validated : Manifest γ),
    payload.manifestId = manifest.manifestId →
    payload.content = C.dumpContent manifest.content →
    C.modelValidate payload = .ok validated →
    C.rollbackContentDigest validated = C.rollbackContentDigest manifest

/-! ## The condition -/

/-- A replacement of a rollback draft keeps its content. -/
def KeepsContent (S : ContextService γ δ R) (s : Store γ δ R) (draftId : String)
    (command : ReplaceDraftCommand (Manifest γ)) : Prop :=
  ∀ current, s.drafts.get? draftId = some current → current.state = .draft →
    current.rollbackSourceVersion ≠ none →
      SameContent S command.replacementManifest current.manifest

/-- A rollback draft lists its keyed collections in canonical order. -/
def InCanonicalOrder (S : ContextService γ δ R) (s : Store γ δ R) (draftId : String) : Prop :=
  ∀ current, s.drafts.get? draftId = some current → current.rollbackSourceVersion ≠ none →
    S.contract.canonicalContent (S.contract.dumpContent current.manifest.content) =
      S.contract.dumpContent current.manifest.content

/-- What an event must keep of the rollback drafts it writes. -/
def KeepsRollback (S : ContextService γ δ R) (s : Store γ δ R) :
    StoreEvent (Manifest γ) R → Prop
  | .call _ (.replaceDraft _ draftId _ command) => KeepsContent S s draftId command
  | .call _ (.submitForReview _ draftId _ _) => InCanonicalOrder S s draftId
  | .other _ (.cohortDecision _ _ (some apply)) => KeepsContent S s apply.draftId apply.command
  | _ => True

/-! ## What a mutation does to a rollback draft -/

/-- Creation establishes the content of a rollback draft. -/
theorem createDraft_rollbackHolds {clock : ClockReadings} {actor : Actor}
    {command : CreateDraftCommand (Manifest γ)} {draft : Draft γ}
    (h : Returns (S.createDraft clock actor command) s draft t) : RollbackHolds S s draft := by
  simp only [createDraft, returns_bind, returns_checked, returns_reading,
    returns_putDraftSelectorBaseline, returns_putDraft_new, returns_pure] at h
  obtain ⟨_, _, ⟨-, rfl⟩, _, _, ⟨rfl, rfl⟩, _, _, ⟨-, rfl⟩, now, _, ⟨-, rfl⟩, _, u, hroll, _, _,
    ⟨-, rfl⟩, _, _, ⟨-, rfl⟩, _, _, ⟨-, rfl⟩, _, _, -, rfl, rfl⟩ := h
  intro version hversion
  have hversion : command.rollbackSourceVersion = some version := hversion
  rw [hversion] at hroll
  simp only [ensureRollback, returns_bind, returns_getPublished, returns_orRaise,
    returns_checked, returns_raiseIf, not_or, not_forall, not_le, not_not] at hroll
  obtain ⟨_, _, ⟨hsource, rfl⟩, source, _, ⟨rfl, rfl⟩, digest, _, ⟨hdigest, rfl⟩, sourceDigest, _,
    ⟨hsourceDigest, rfl⟩, ⟨⟨previous, hprevious, holder⟩, hsame⟩, -⟩ := hroll
  exact ⟨source, previous, hsource, hprevious, holder, digest, hdigest, hsame ▸ hsourceDigest⟩

/-- Only a draft in the draft state is replaced. -/
theorem replaceDraftInTransaction_state {clock : ClockReadings} {actor : Actor}
    {draftId : String} {command : ReplaceDraftCommand (Manifest γ)}
    {decision : Option (String × Timestamp)} {draft current : Draft γ}
    (h : Returns (S.replaceDraftInTransaction clock actor draftId command decision) s draft t)
    (hstored : s.drafts.get? draftId = some current) : current.state = .draft := by
  simp only [replaceDraftInTransaction, returns_bind, returns_requireDraft,
    returns_checked] at h
  obtain ⟨found, _, ⟨hfound, rfl⟩, _, _, ⟨-, rfl⟩, _, _, ⟨hstate, rfl⟩, -⟩ := h
  have he : found = current := Option.some.inj (hfound.symm.trans hstored)
  exact he ▸ requireState_ok hstate

/-- Submission writes the finalized candidate of the draft. -/
theorem submitForReview_finalized {clock : ClockReadings} {actor : Actor} {draftId : String}
    {command : TransitionCommand} {draft : Draft γ}
    (h : Returns (S.submitForReview clock actor draftId command) s draft t) :
    ∃ current now, s.drafts.get? draftId = some current ∧
      S.finalizePublicationCandidate current.manifest now = .ok draft.manifest := by
  simp only [submitForReview, returns_bind, returns_requireDraft, returns_checked,
    returns_putDraft, returns_pure] at h
  obtain ⟨current, _, ⟨hstored, rfl⟩, _, _, ⟨-, rfl⟩, _, _, ⟨-, rfl⟩, _, _, ⟨-, rfl⟩, now, _,
    ⟨-, rfl⟩, _, _, -, candidateManifest, _, ⟨hfinal, rfl⟩, _, _, -, _, _, -, _, _, -, rfl, -⟩ := h
  exact ⟨current, now, hstored, hfinal⟩

/-- Finalization keeps the content of a manifest in canonical order. -/
theorem finalizePublicationCandidate_content (hread : ReadsContentBack S.contract)
    {manifest candidate : Manifest γ} {now : Timestamp}
    (h : S.finalizePublicationCandidate manifest now = .ok candidate)
    (horder : S.contract.canonicalContent (S.contract.dumpContent manifest.content) =
      S.contract.dumpContent manifest.content) :
    S.contract.rollbackContentDigest candidate = S.contract.rollbackContentDigest manifest := by
  unfold finalizePublicationCandidate at h
  dsimp only at h
  split at h
  · rename_i finalized hf
    cases h
    obtain ⟨payload, hpayload, hvalid⟩ := FallibleResults.bind_ok_iff.mp hf
    simp only [ManifestContract.canonicalizeManifestPayload, FallibleResults.bind_ok_iff,
      FallibleResults.pure_ok_iff] at hpayload
    obtain ⟨_, _, _, _, rfl⟩ := hpayload
    exact hread manifest _ _ rfl horder hvalid
  · cases h

/-! ## The invariant -/

/-- Every draft has the content of its rollback source. -/
structure RollbackInvariant (S : ContextService γ δ R) (s : Store γ δ R) : Prop where
  drafts_keyed : ∀ draftId draft, s.drafts.get? draftId = some draft → draft.draftId = draftId
  holds : ∀ draftId draft, s.drafts.get? draftId = some draft → RollbackHolds S s draft

/-- Published versions stay. -/
theorem RollbackHolds.mono {draft : Draft γ} (h : RollbackHolds S s draft)
    (hgrow : ∀ key published, s.published.get? key = some published →
      t.published.get? key = some published) : RollbackHolds S t draft := by
  intro version hversion
  obtain ⟨source, previous, hsource, hrest⟩ := h version hversion
  exact ⟨source, previous, hgrow _ _ hsource, hrest⟩

/-- A draft that keeps its names and its content keeps the content of its source. -/
theorem RollbackHolds.of_content {current updated : Draft γ} (h : RollbackHolds S s current)
    (hid : updated.manifestId = current.manifestId)
    (hrollback : updated.rollbackSourceVersion = current.rollbackSourceVersion)
    (hprevious : updated.previousVersion = current.previousVersion)
    (hcontent : current.rollbackSourceVersion ≠ none →
      updated.manifest = current.manifest ∨
        SameContent S updated.manifest current.manifest) : RollbackHolds S s updated := by
  intro version hversion
  rw [hrollback] at hversion
  obtain ⟨source, previous, hsource, hp, holder, hsame⟩ := h version hversion
  refine ⟨source, previous, ?_, ?_, holder, ?_⟩
  · rw [hid]
    exact hsource
  · rw [hprevious]
    exact hp
  · rcases hcontent (by simp [hversion]) with he | he
    · rw [he]
      exact hsame
    · exact he.trans hsame

/-- Writing a draft that has the content of its source keeps the invariant. -/
theorem RollbackInvariant.write (h : RollbackInvariant S s) {draftId : String}
    {updated : Draft γ} (hid : updated.draftId = draftId)
    (hdrafts : t.drafts = s.drafts.set draftId updated)
    (hgrow : ∀ key published, s.published.get? key = some published →
      t.published.get? key = some published)
    (hupdated : RollbackHolds S s updated) : RollbackInvariant S t where
  drafts_keyed := hdrafts ▸ keyed_set h.drafts_keyed hid
  holds := by
    intro key draft hd
    rw [hdrafts, Dictionary.get?_set] at hd
    split at hd
    · exact Option.some.inj hd ▸ hupdated.mono hgrow
    · exact (h.holds key draft hd).mono hgrow

/-- The invariant is about drafts and published versions only. -/
theorem RollbackInvariant.same (h : RollbackInvariant S s) (hdrafts : t.drafts = s.drafts)
    (hpublished : t.published = s.published) : RollbackInvariant S t where
  drafts_keyed := hdrafts ▸ h.drafts_keyed
  holds := by
    intro draftId draft hd
    rw [hdrafts] at hd
    exact (h.holds draftId draft hd).mono (hpublished ▸ fun _ _ hp => hp)

/-- An update of a stored draft that keeps its names keeps the invariant when it keeps
the content of a rollback draft. -/
theorem RollbackInvariant.update (h : RollbackInvariant S s) {draftId : String}
    {current updated : Draft γ} {supersessions} (hstored : s.drafts.get? draftId = some current)
    (hchange : DraftChange S s current updated)
    (hwrites : Writes S s t (s.drafts.set current.draftId updated) s.published supersessions)
    (hcontent : current.rollbackSourceVersion ≠ none →
      updated.manifest = current.manifest ∨
        SameContent S updated.manifest current.manifest) :
    RollbackInvariant S t := by
  have hnames : updated.manifestId = current.manifestId ∧
      updated.rollbackSourceVersion = current.rollbackSourceVersion ∧
      updated.previousVersion = current.previousVersion := by
    cases hchange with
    | replaced => exact ⟨rfl, rfl, rfl⟩
    | validated => exact ⟨rfl, rfl, rfl⟩
    | submitted => exact ⟨rfl, rfl, rfl⟩
    | reviewed =>
      unfold reviewedDraft
      split <;> exact ⟨rfl, rfl, rfl⟩
    | approved => exact ⟨rfl, rfl, rfl⟩
  obtain ⟨hid, hrollback, hprevious⟩ := hnames
  have hupdated := (h.holds draftId current hstored).of_content hid hrollback hprevious hcontent
  exact h.write hchange.draftId_eq hwrites.drafts_eq
    (hwrites.published_eq ▸ fun _ _ hp => hp) hupdated

/-- A replacement that keeps the content of a rollback draft keeps the invariant. -/
theorem RollbackInvariant.replace (h : RollbackInvariant S s) {clock : ClockReadings}
    {actor : Actor} {draftId : String} {command : ReplaceDraftCommand (Manifest γ)}
    {decision : Option (String × Timestamp)} {draft : Draft γ}
    (hkeeps : KeepsContent S s draftId command)
    (hreplace : Returns (S.replaceDraftInTransaction clock actor draftId command decision) s
      draft t) : RollbackInvariant S t := by
  obtain ⟨current, now, hstored, _, hchange, hwrites⟩ := replaceDraftInTransaction_step hreplace
  refine h.update hstored hchange hwrites fun hrollback => .inr ?_
  have hstate := replaceDraftInTransaction_state hreplace hstored
  exact hkeeps current hstored hstate hrollback

/-- A mutation that keeps the rollback drafts it writes keeps the invariant. -/
theorem RollbackInvariant.mutation (hread : ReadsContentBack S.contract)
    (h : RollbackInvariant S s) {clock : ClockReadings} {c : Call (Manifest γ)}
    {response : Response (Manifest γ)} (hkeeps : KeepsRollback S s (.call clock c))
    (hmutation : Returns (mutation S clock c) s response t) : RollbackInvariant S t := by
  cases c with
  | createDraft actor key command =>
    simp only [ContextCalls.mutation, returns_bind, returns_pure] at hmutation
    obtain ⟨draft, _, hcreate, -, rfl⟩ := hmutation
    have hholds := createDraft_rollbackHolds hcreate
    obtain ⟨now, hdraft, _, _, hwrites⟩ := createDraft_step hcreate
    rw [hdraft] at hholds
    exact h.write rfl hwrites.drafts_eq (hwrites.published_eq ▸ fun _ _ hp => hp) hholds
  | replaceDraft actor draftId key command =>
    simp only [ContextCalls.mutation, returns_bind, returns_pure] at hmutation
    obtain ⟨draft, _, hreplace, -, rfl⟩ := hmutation
    exact h.replace hkeeps hreplace
  | validateDraft actor draftId key command =>
    simp only [ContextCalls.mutation, returns_bind, returns_pure] at hmutation
    obtain ⟨draft, _, hvalidate, -, rfl⟩ := hmutation
    obtain ⟨current, now, hstored, _, hchange, hwrites⟩ := validateDraft_step hvalidate
    exact h.update hstored hchange hwrites fun _ => .inl rfl
  | submitForReview actor draftId key command =>
    simp only [ContextCalls.mutation, returns_bind, returns_pure] at hmutation
    obtain ⟨draft, _, hsubmit, -, rfl⟩ := hmutation
    obtain ⟨current, manifest, now, hstored, hdraft, hchange, hwrites⟩ :=
      submitForReview_step hsubmit
    obtain ⟨found, finalizedAt, hfound, hfinal⟩ := submitForReview_finalized hsubmit
    have he : found = current := Option.some.inj (hfound.symm.trans hstored)
    rw [he, hdraft] at hfinal
    refine h.update hstored hchange hwrites fun hrollback => .inr ?_
    have hsame := finalizePublicationCandidate_content hread hfinal
      (hkeeps current hstored hrollback)
    obtain ⟨version, hversion⟩ := Option.ne_none_iff_exists'.mp hrollback
    obtain ⟨_, _, _, _, _, digest, hdigest, _⟩ := h.holds _ _ hstored version hversion
    exact ⟨digest, hsame.trans hdigest, hdigest⟩
  | reviewDraft actor draftId key command =>
    simp only [ContextCalls.mutation, returns_bind, returns_pure] at hmutation
    obtain ⟨draft, _, hreview, -, rfl⟩ := hmutation
    obtain ⟨current, now, hstored, _, hchange, hwrites⟩ := reviewDraft_step hreview
    refine h.update hstored hchange hwrites fun _ => .inl ?_
    unfold reviewedDraft
    split <;> rfl
  | approveDraft actor draftId key command =>
    simp only [ContextCalls.mutation, returns_bind, returns_pure] at hmutation
    obtain ⟨draft, _, happrove, -, rfl⟩ := hmutation
    obtain ⟨current, review, receipt, now, hstored, _, hchange, hwrites⟩ :=
      approveDraft_step happrove
    exact h.update hstored hchange hwrites fun _ => .inl rfl
  | publishDraft actor draftId key command =>
    simp only [ContextCalls.mutation, returns_bind, returns_pure] at hmutation
    obtain ⟨published, _, hpublish, -, rfl⟩ := hmutation
    obtain ⟨current, candidate, approval, receipt, now, hstored, _, _, _, _, _, hfree, _, _, _,
      hwrites⟩ := publishDraft_step hpublish
    have hupdated : RollbackHolds S s
        (closedDraft .published actor current command.reason now) :=
      (h.holds draftId current hstored).of_content rfl rfl rfl fun _ => .inl rfl
    refine h.write rfl hwrites.drafts_eq ?_ hupdated
    intro other found hp
    rw [hwrites.published_eq, Dictionary.get?_set_of_ne]
    · exact hp
    · rintro rfl
      rw [hfree] at hp
      cases hp
  | supersedeVersion actor manifestId version key command =>
    simp only [ContextCalls.mutation, returns_bind, returns_pure] at hmutation
    obtain ⟨relation, _, hsupersede, -, rfl⟩ := hmutation
    obtain ⟨published, source, replacement, now, _, hsource, _, _, _, _, _, _, _, hwrites⟩ :=
      supersedeVersion_step hsupersede
    have hupdated : RollbackHolds S s
        (closedDraft .superseded actor source command.reason now) :=
      (h.holds _ source hsource).of_content rfl rfl rfl fun _ => .inl rfl
    exact h.write rfl hwrites.drafts_eq (hwrites.published_eq ▸ fun _ _ hp => hp) hupdated
  | issueOperationalContextReceipt actor key command =>
    simp only [ContextCalls.mutation, returns_bind, returns_pure] at hmutation
    obtain ⟨receipt, _, hissue, -, rfl⟩ := hmutation
    rcases issueOperationalContextReceipt_step hissue with rfl | ⟨_, rfl⟩
    · exact h
    · exact h.same rfl rfl

/-- Another service writes a rollback draft by applying a cohort decision only. -/
theorem RollbackInvariant.other (h : RollbackInvariant S s) {clock : ClockReadings}
    {x : OtherTransaction (Manifest γ) R} {r : Unit} (hkeeps : KeepsRollback S s (.other clock x))
    (hother : Returns (otherTransaction S clock x) s r t) : RollbackInvariant S t := by
  cases x with
  | records others =>
    have ht := returns_writing.mp hother
    subst ht
    exact h.same rfl rfl
  | selectorBaseline draftId =>
    simp only [otherTransaction, returns_bind, returns_requireDraft, returns_pure] at hother
    obtain ⟨current, _, ⟨-, rfl⟩, baseline, u, hb, -, rfl⟩ := hother
    obtain ⟨baselines, hu⟩ := returns_requireSelectorBaseline hb
    subst hu
    exact h.same rfl rfl
  | evaluationApproval operation actorId key target digest responseJson event others =>
    simp only [otherTransaction, returns_bind, returns_writing, returns_putReceipt] at hother
    obtain ⟨_, _, rfl, _, u, haudit, -, rfl⟩ := hother
    obtain ⟨eventDigest, _, _, hu⟩ := returns_appendAudit haudit
    subst hu
    exact h.same rfl rfl
  | cohortDecision event others apply =>
    simp only [otherTransaction, returns_bind, returns_writing] at hother
    obtain ⟨_, u, haudit, _, _, rfl, happly⟩ := hother
    obtain ⟨eventDigest, _, _, hu⟩ := returns_appendAudit haudit
    subst hu
    cases apply with
    | none =>
      obtain ⟨_, ht⟩ := returns_pure.mp happly
      subst ht
      exact h.same rfl rfl
    | some apply =>
      simp only [applyCohortDecision, returns_bind, returns_pure] at happly
      obtain ⟨draft, _, hreplace, -, rfl⟩ := happly
      have hstaged : RollbackInvariant S { s with
          audit := s.audit ++ [linkedEvent event s.audit eventDigest]
          others := others } := h.same rfl rfl
      exact hstaged.replace hkeeps hreplace

theorem RollbackInvariant.event (hread : ReadsContentBack S.contract)
    (h : RollbackInvariant S s) {event : StoreEvent (Manifest γ) R}
    (hkeeps : KeepsRollback S s event) : RollbackInvariant S (storeAfter S s event) := by
  cases event with
  | call clock c =>
    rcases transaction_cases (callTransaction S clock c) s with ⟨response, t, hr, ht⟩ | ⟨e, he⟩
    · have hp : storeAfter S s (.call clock c) = t := congrArg Prod.snd ht
      rw [hp]
      obtain ⟨digest, _, _, hcases⟩ := callTransaction_returns hr
      rcases hcases with ⟨receipt, _, _, _, rfl⟩ | ⟨u, _, hmutation, rfl⟩
      · exact h
      · exact (h.mutation hread hkeeps hmutation).same rfl rfl
    · have hp : storeAfter S s (.call clock c) = s := congrArg Prod.snd he
      rw [hp]
      exact h
  | other clock x =>
    rcases transaction_cases (otherTransaction S clock x) s with ⟨_, t, hr, ht⟩ | ⟨e, he⟩
    · have hp : storeAfter S s (.other clock x) = t := congrArg Prod.snd ht
      rw [hp]
      exact h.other hkeeps hr
    · have hp : storeAfter S s (.other clock x) = s := congrArg Prod.snd he
      rw [hp]
      exact h

/-- Where all events keep the rollback drafts they write, every rollback draft of every
reachable store has the content of a published version of its workload that is older than
its previous version, and so has every version published from it. -/
theorem rollback_content (hread : ReadsContentBack S.contract)
    (h : ((contextSystem S).guarded (KeepsRollback S)).Reachable s) :
    ∀ draft ∈ s.drafts.values, RollbackHolds S s draft ∧
      ∀ published ∈ s.published.values, published.sourceDraftId = draft.draftId →
        RollbackHolds S s { draft with manifest := published.manifest } := by
  have hinv : RollbackInvariant S s := by
    refine TransitionSystem.Reachable.invariant ?_ ?_ h
    · rintro _ ⟨others, rfl⟩
      refine ⟨?_, ?_⟩
      all_goals
        intro _ _ hd
        cases hd
    · rintro s event _ _ hs ⟨hkeeps, rfl⟩
      exact hs.event hread hkeeps
  obtain ⟨history, hrecorded⟩ := exists_recorded h.of_guarded
  have hreview := reviewInvariant hrecorded
  intro draft hd
  obtain ⟨draftId, hd⟩ := Dictionary.mem_values.mp hd
  have hholds := hinv.holds draftId draft hd
  refine ⟨hholds, fun published hp hsource => ?_⟩
  obtain ⟨key, hp⟩ := Dictionary.mem_values.mp hp
  obtain ⟨source, _, _, hstored, _, hmanifest, _⟩ := hreview.published key published hp
  rw [hsource, hinv.drafts_keyed draftId draft hd, hd] at hstored
  have he : draft = source := Option.some.inj hstored
  subst he
  rw [← hmanifest]
  exact hholds

theorem reachable_runEvents_guarded {condition : Store γ δ R → StoreEvent (Manifest γ) R → Prop}
    (events : List (StoreEvent (Manifest γ) R)) (hall : ∀ event ∈ events, ∀ s, condition s event)
    (h : ((contextSystem S).guarded condition).Reachable s) :
    ((contextSystem S).guarded condition).Reachable (runEvents S s events) := by
  induction events generalizing s with
  | nil => exact h
  | cons event rest ih =>
    have hnext : ((contextSystem S).guarded condition).Reachable (storeAfter S s event) :=
      .next h ⟨hall event (by simp) s, rfl⟩
    exact ih (fun e he => hall e (by simp [he])) hnext

/-- An event that replaces no draft. -/
def replacesNothing {M : Type} : StoreEvent M R → Bool
  | .call _ (.replaceDraft _ _ _ _) => false
  | .call _ _ => true
  | .other _ _ => false

/-- Plain manifests are always in canonical order. -/
theorem plain_keepsRollback (s : Store ℕ ℕ Unit) {event : StoreEvent (Manifest ℕ) Unit}
    (h : replacesNothing event = true) : KeepsRollback plainService s event := by
  cases event with
  | other => cases h
  | call clock c =>
    cases c with
    | replaceDraft => cases h
    | submitForReview => exact fun _ _ _ => rfl
    | _ => trivial

/-- After two releases, the first is brought back under a third version. -/
def rolledBackOrders : List (StoreEvent (Manifest ℕ) Unit) :=
  ordersReleases ++
    createOrders "rollback" ⟨1, 2, 0⟩ 99 (some ⟨1, 1, 0⟩) (some ⟨1, 0, 0⟩) ::
      releaseOrders "rollback" ⟨1, 2, 0⟩ 99 1

theorem rollback_content_orders :
    ((runEvents plainService (.empty ()) rolledBackOrders).drafts.get? "rollback").map
        (fun draft => (draft.state, draft.rollbackSourceVersion)) =
      some (.published, some ⟨1, 0, 0⟩) ∧
    ∀ draft ∈ (runEvents plainService (.empty ()) rolledBackOrders).drafts.values,
      RollbackHolds plainService (runEvents plainService (.empty ()) rolledBackOrders) draft := by
  have hread : ReadsContentBack plainContract := by
    intro manifest payload validated hid hcontent hvalid
    simp only [ManifestContract.modelValidate, FallibleResults.bind_ok_iff,
      FallibleResults.ite_error_ok_iff] at hvalid
    obtain ⟨_, _, _, _, _, content, hparsed, hvalidated⟩ := hvalid
    have hparsed : payload.content = content := Except.ok.inj hparsed
    rw [← Except.ok.inj hvalidated]
    simp [plainContract, hid, ← hparsed, hcontent]
  have hkeeps : ∀ event ∈ rolledBackOrders, ∀ s, KeepsRollback plainService s event := by
    intro event he s
    have hordinary : ∀ event ∈ rolledBackOrders, replacesNothing event = true := by decide
    exact plain_keepsRollback s (hordinary event he)
  have hstart : ((contextSystem plainService).guarded (KeepsRollback plainService)).Reachable
      (.empty ()) := .start ⟨(), rfl⟩
  have h := rollback_content hread (reachable_runEvents_guarded rolledBackOrders hkeeps hstart)
  exact ⟨by decide +kernel, fun draft hd => (h draft hd).1⟩

/-- A rollback of `orders` whose content was replaced before its release. -/
def replacedRollback : List (StoreEvent (Manifest ℕ) Unit) :=
  ordersReleases ++
    createOrders "rollback" ⟨1, 2, 0⟩ 99 (some ⟨1, 1, 0⟩) (some ⟨1, 0, 0⟩) ::
      replaceOrders "rollback" ⟨1, 2, 0⟩ 99 50 1 :: releaseOrders "rollback" ⟨1, 2, 0⟩ 50 2

/-- The published rollback does not have the content of its source. -/
theorem rollback_content_replaced :
    (contextSystem plainService).Reachable
        (runEvents plainService (.empty ()) replacedRollback) ∧
      ¬ ∀ draft ∈ (runEvents plainService (.empty ()) replacedRollback).drafts.values,
        draft.state = .published →
          RollbackHolds plainService (runEvents plainService (.empty ()) replacedRollback)
            draft := by
  refine ⟨reachable_runEvents _ (.start ⟨(), rfl⟩), fun hall => ?_⟩
  have hdraft : ((runEvents plainService (.empty ()) replacedRollback).drafts.get? "rollback").map
      (fun draft => (draft.state, draft.manifestId, draft.rollbackSourceVersion,
        plainContract.rollbackContentDigest draft.manifest)) =
      some (.published, "orders", some ⟨1, 0, 0⟩, .ok "orders-50") := by decide +kernel
  have hsource : ((runEvents plainService (.empty ()) replacedRollback).published.get?
      ("orders", ⟨1, 0, 0⟩)).map
        (fun source => plainContract.rollbackContentDigest source.manifest) =
      some (.ok "orders-99") := by decide +kernel
  obtain ⟨draft, hstored, hd⟩ := Option.map_eq_some_iff.mp hdraft
  obtain ⟨source, hpublished, hs⟩ := Option.map_eq_some_iff.mp hsource
  simp only [Prod.mk.injEq] at hd
  obtain ⟨hstate, hid, hrollback, hcontent⟩ := hd
  obtain ⟨found, _, hfound, _, _, digest, hdigest, hsame⟩ :=
    hall draft (Dictionary.mem_values.mpr ⟨_, hstored⟩) hstate _ hrollback
  rw [hid, hpublished] at hfound
  rw [← Option.some.inj hfound] at hsame
  have he : "orders-50" = "orders-99" :=
    Except.ok.inj ((hcontent.symm.trans hdigest).trans (hsame.symm.trans hs))
  exact absurd he (by decide)

end AthenaContext.RollbackContent
