import AthenaContext.FallibleResults
import AthenaContext.PublishedLineage

/-!
# Replayable mutations

A call that raises leaves the store as it was. A draft mutation that runs for the first
time raises the revision of its draft by one, appends one event to an intact audit
history, and records one receipt. Later the key refuses every other request, and answers
the same request from the receipt, which holds the response as JSON: reading it back goes
through the manifest contract, so a call is replayable when the manifest it carries
survives its own serialization.
-/

namespace AthenaContext.ReplayableMutations

open ContextRecords ContextStorage ContextMutations ContextTransitions ContextCalls
open PublishedLineage Dictionaries Transactions TransitionSystems
open ContextMutations.ContextService

variable {γ δ R : Type} {S : ContextService γ δ R} {s t : Store γ δ R}

/-! ## Manifests that survive their serialization -/

/-- The JSON dump of the manifest is accepted by its contract. -/
def Survives (S : ContextService γ δ R) (manifest : Manifest γ) : Prop :=
  ∃ validated, S.contract.modelValidate (S.contract.modelDump manifest) = .ok validated

/-- A manifest that is read from a dump has that dump. -/
def ReadsDumps (C : ManifestContract γ δ) : Prop :=
  ∀ manifest validated, C.modelValidate (C.modelDump manifest) = .ok validated →
    C.modelDump validated = C.modelDump manifest

/-- Equal responses: their fields have the same JSON form. -/
def SameResponse (S : ContextService γ δ R) (response other : Response (Manifest γ)) : Prop :=
  dumpResponse S response = dumpResponse S other

/-- The stored form of the response reads back as an equal response. -/
def ReadsBack (S : ContextService γ δ R) (response : Response (Manifest γ)) : Prop :=
  ∃ again, readResponse S (.inl (dumpResponse S response)) = .ok again ∧
    SameResponse S again response

/-- What the lifecycle re-validates survives. -/
theorem survives_of_revalidateManifest {manifest : Manifest γ} {digest : String}
    {validated : Manifest γ} (h : S.revalidateManifest manifest digest = .ok validated) :
    Survives S manifest := by
  unfold revalidateManifest at h
  split at h
  · cases h
  · rename_i found hfound
    exact ⟨found, hfound⟩

theorem readsBack_draftRecord (hread : ReadsDumps S.contract) {draft : Draft γ}
    (h : Survives S draft.manifest) : ReadsBack S (.draftRecord draft) := by
  obtain ⟨validated, hvalid⟩ := h
  refine ⟨.draftRecord (draft.withManifest validated), ?_, ?_⟩
  · simp only [readResponse, dumpResponse, Response.map, Response.traverse,
      DraftRecord.withManifest, hvalid]
    rfl
  · simp only [SameResponse, dumpResponse, Response.map, DraftRecord.withManifest,
      hread _ _ hvalid]

theorem readsBack_publishedManifest (hread : ReadsDumps S.contract)
    {published : PublishedManifest (Manifest γ)} (h : Survives S published.manifest) :
    ReadsBack S (.publishedManifest published) := by
  obtain ⟨validated, hvalid⟩ := h
  refine ⟨.publishedManifest (published.withManifest validated), ?_, ?_⟩
  · simp only [readResponse, dumpResponse, Response.map, Response.traverse,
      PublishedManifest.withManifest, hvalid]
    rfl
  · simp only [SameResponse, dumpResponse, Response.map, PublishedManifest.withManifest,
      hread _ _ hvalid]

/-- The manifest of every draft in review was read back when it was submitted. -/
theorem survives_inReview (h : (contextSystem S).Reachable s) :
    ∀ draftId draft, s.drafts.get? draftId = some draft → draft.state = .inReview →
      Survives S draft.manifest := by
  have hset : ∀ {s : Store γ δ R} {draftId : String} {updated : Draft γ},
      (∀ draftId draft, s.drafts.get? draftId = some draft → draft.state = .inReview →
        Survives S draft.manifest) →
      (updated.state = .inReview → Survives S updated.manifest) →
      ∀ key draft, (s.drafts.set draftId updated).get? key = some draft →
        draft.state = .inReview → Survives S draft.manifest := by
    intro s draftId updated hs hupdated key draft hd
    rw [Dictionary.get?_set] at hd
    split at hd
    · exact Option.some.inj hd ▸ hupdated
    · exact hs key draft hd
  refine lifecycle_invariant (P := fun s => ∀ draftId draft, s.drafts.get? draftId = some draft →
    draft.state = .inReview → Survives S draft.manifest) ?_ ?_ ?_ h
  · intro others _ _ hd
    cases hd
  · intro s t hsame hs
    rw [hsame.drafts_eq]
    exact hs
  · intro s t hs hstep
    cases hstep with
    | created actor command now fresh digest writes =>
      rw [writes.drafts_eq]
      exact hset hs (by simp [createdDraft])
    | changed draftId current updated stored change writes =>
      rw [writes.drafts_eq]
      refine hset hs fun hstate => ?_
      cases change with
      | replaced actor command now state => simp [replacedDraft, state] at hstate
      | validated actor command now state => simp [validatedDraft] at hstate
      | submitted actor command now manifest state finalized revalidated =>
        obtain ⟨validated, hvalidated⟩ := revalidated
        exact survives_of_revalidateManifest hvalidated
      | reviewed actor command now state candidate =>
        cases hd : command.decision with
        | approved =>
          have hm : (reviewedDraft actor current command now).manifest = current.manifest := by
            simp [reviewedDraft, hd, withReview]
          rw [hm]
          exact hs draftId current stored state
        | changesRequested => simp [reviewedDraft, hd] at hstate
      | approved => simp [approvedDraft] at hstate
    | published draftId current actor command candidate approval receipt now stored state
        isCandidate authoritative receiptStored authorizes free lineage writes =>
      rw [writes.drafts_eq]
      exact hset hs (by simp [closedDraft])
    | superseded actor manifestId supersededVersion replacementVersion published replacement
        source reason relation now stored sourceStored state unsuperseded replacementStored
        successor relates writes =>
      rw [writes.drafts_eq]
      exact hset hs (by simp [closedDraft])
    | receiptIssued receipt fresh issued =>
      subst issued
      exact hs
    | unchanged drafts_eq published_eq supersessions_eq operational_eq =>
      rw [drafts_eq]
      exact hs

/-! ## What a first call does -/

/-- The draft that a draft mutation changes. -/
def mutatedDraftId (s : Store γ δ R) : Call (Manifest γ) → Option String
  | .createDraft _ _ command => some command.draftId
  | .replaceDraft _ draftId _ _ => some draftId
  | .validateDraft _ draftId _ _ => some draftId
  | .submitForReview _ draftId _ _ => some draftId
  | .reviewDraft _ draftId _ _ => some draftId
  | .approveDraft _ draftId _ _ => some draftId
  | .publishDraft _ draftId _ _ => some draftId
  | .supersedeVersion _ manifestId version _ _ =>
    (s.published.get? (manifestId, version)).map (·.sourceDraftId)
  | .issueOperationalContextReceipt _ _ _ => none

/-- The revision of a draft; a draft that is not there has none yet. -/
def revisionOf (s : Store γ δ R) (draftId : String) : ℕ :=
  ((s.drafts.get? draftId).map (·.revision)).getD 0

/-- One draft is raised by one revision, and no other draft is touched. -/
def RaisesDraft (s t : Store γ δ R) (draftId : String) : Prop :=
  revisionOf t draftId = revisionOf s draftId + 1 ∧
    ∀ other, other ≠ draftId → t.drafts.get? other = s.drafts.get? other

/-- One event is appended to an intact history. -/
def AppendsEvent (S : ContextService γ δ R) (s t : Store γ δ R) : Prop :=
  ∃ event, t.audit = s.audit ++ [event] ∧
    verifyAuditChain S.auditEventDigest s.audit = .ok () ∧
    verifyAuditChain S.auditEventDigest t.audit = .ok ()

/-- A change of a draft raises its revision by one. -/
theorem revision_of_change {current updated : Draft γ} (h : DraftChange S s current updated) :
    updated.revision = current.revision + 1 := by
  cases h with
  | replaced => rfl
  | validated => rfl
  | submitted => rfl
  | reviewed =>
    unfold reviewedDraft
    split <;> rfl
  | approved => rfl

theorem raisesDraft_set {draftId : String} {updated : Draft γ}
    (hdrafts : t.drafts = s.drafts.set draftId updated)
    (hrevision : updated.revision = revisionOf s draftId + 1) : RaisesDraft s t draftId := by
  constructor
  · rw [revisionOf, hdrafts, Dictionary.get?_set_self]
    exact hrevision
  · intro other hne
    rw [hdrafts, Dictionary.get?_set_of_ne hne]

/-- What is left of a first call: the draft raised, the audit event, and receipts that
only the call itself records. -/
structure FirstRun (S : ContextService γ δ R) (s t : Store γ δ R) (draftId : String) : Prop where
  raises : RaisesDraft s t draftId
  audits : AppendsEvent S s t
  receipts_eq : t.receipts = s.receipts

theorem firstRun_of_change {draftId : String} {current updated : Draft γ} {supersessions}
    (hkeyed : ∀ draftId draft, s.drafts.get? draftId = some draft → draft.draftId = draftId)
    (hstored : s.drafts.get? draftId = some current)
    (hrevision : updated.revision = current.revision + 1) {published}
    (hwrites : Writes S s t (s.drafts.set current.draftId updated) published supersessions) :
    FirstRun S s t draftId := by
  have hid := hkeyed draftId current hstored
  have hdrafts := hwrites.drafts_eq
  rw [hid] at hdrafts
  refine ⟨raisesDraft_set hdrafts ?_, hwrites.audit_eq, hwrites.receipts_eq⟩
  rw [hrevision, revisionOf, hstored]
  rfl

/-- A draft mutation raises its draft, appends one audit event and leaves the receipts. -/
theorem mutation_firstRun {clock : ClockReadings} {c : Call (Manifest γ)}
    {response : Response (Manifest γ)} {draftId : String}
    (hkeyed : ∀ draftId draft, s.drafts.get? draftId = some draft → draft.draftId = draftId)
    (h : Returns (mutation S clock c) s response t) (hdraft : mutatedDraftId s c = some draftId) :
    FirstRun S s t draftId := by
  cases c with
  | createDraft actor key command =>
    have hid : command.draftId = draftId := Option.some.inj hdraft
    subst hid
    simp only [mutation, returns_bind, returns_pure] at h
    obtain ⟨draft, _, hcreate, -, rfl⟩ := h
    obtain ⟨now, _, hfresh, _, hwrites⟩ := createDraft_step hcreate
    refine ⟨raisesDraft_set hwrites.drafts_eq ?_, hwrites.audit_eq, hwrites.receipts_eq⟩
    rw [revisionOf, hfresh]
    rfl
  | replaceDraft actor draftId key command =>
    obtain rfl := Option.some.inj hdraft
    simp only [mutation, returns_bind, returns_pure] at h
    obtain ⟨draft, _, hreplace, -, rfl⟩ := h
    obtain ⟨current, now, hstored, _, hchange, hwrites⟩ := replaceDraftInTransaction_step hreplace
    exact firstRun_of_change hkeyed hstored (revision_of_change hchange) hwrites
  | validateDraft actor draftId key command =>
    obtain rfl := Option.some.inj hdraft
    simp only [mutation, returns_bind, returns_pure] at h
    obtain ⟨draft, _, hvalidate, -, rfl⟩ := h
    obtain ⟨current, now, hstored, _, hchange, hwrites⟩ := validateDraft_step hvalidate
    exact firstRun_of_change hkeyed hstored (revision_of_change hchange) hwrites
  | submitForReview actor draftId key command =>
    obtain rfl := Option.some.inj hdraft
    simp only [mutation, returns_bind, returns_pure] at h
    obtain ⟨draft, _, hsubmit, -, rfl⟩ := h
    obtain ⟨current, manifest, now, hstored, _, hchange, hwrites⟩ := submitForReview_step hsubmit
    exact firstRun_of_change hkeyed hstored (revision_of_change hchange) hwrites
  | reviewDraft actor draftId key command =>
    obtain rfl := Option.some.inj hdraft
    simp only [mutation, returns_bind, returns_pure] at h
    obtain ⟨draft, _, hreview, -, rfl⟩ := h
    obtain ⟨current, now, hstored, _, hchange, hwrites⟩ := reviewDraft_step hreview
    exact firstRun_of_change hkeyed hstored (revision_of_change hchange) hwrites
  | approveDraft actor draftId key command =>
    obtain rfl := Option.some.inj hdraft
    simp only [mutation, returns_bind, returns_pure] at h
    obtain ⟨draft, _, happrove, -, rfl⟩ := h
    obtain ⟨current, review, receipt, now, hstored, _, hchange, hwrites⟩ :=
      approveDraft_step happrove
    exact firstRun_of_change hkeyed hstored (revision_of_change hchange) hwrites
  | publishDraft actor draftId key command =>
    obtain rfl := Option.some.inj hdraft
    simp only [mutation, returns_bind, returns_pure] at h
    obtain ⟨published, _, hpublish, -, rfl⟩ := h
    obtain ⟨current, candidate, approval, receipt, now, hstored, _, _, _, _, _, _, _, _, _,
      hwrites⟩ := publishDraft_step hpublish
    exact firstRun_of_change hkeyed hstored rfl hwrites
  | supersedeVersion actor manifestId version key command =>
    simp only [mutation, returns_bind, returns_pure] at h
    obtain ⟨relation, _, hsupersede, -, rfl⟩ := h
    obtain ⟨published, source, replacement, now, hstored, hsource, _, _, _, _, _, _, _, hwrites⟩ :=
      supersedeVersion_step hsupersede
    have hid : published.sourceDraftId = draftId := by
      simpa [mutatedDraftId, hstored] using hdraft
    exact firstRun_of_change hkeyed (hid ▸ hsource) rfl hwrites
  | issueOperationalContextReceipt actor key command => cases hdraft

/-- The manifest of a response survives, when the call does not hand in one that does
not. -/
def HandsInSurviving (S : ContextService γ δ R) (s : Store γ δ R) :
    StoreEvent (Manifest γ) R → Prop
  | .call clock (.createDraft actor _ command) =>
    (∃ draft t, Returns (S.createDraft clock actor command) s draft t) →
      Survives S command.manifest
  | .call clock (.replaceDraft actor draftId _ command) =>
    (∃ draft t, Returns (S.replaceDraftInTransaction clock actor draftId command none) s draft
      t) → Survives S command.replacementManifest
  | _ => True

theorem reviewDraft_state {clock : ClockReadings} {actor : Actor} {draftId : String}
    {command : ReviewCommand} {draft current : Draft γ}
    (h : Returns (S.reviewDraft clock actor draftId command) s draft t)
    (hstored : s.drafts.get? draftId = some current) : current.state = .inReview := by
  simp only [reviewDraft, returns_bind, returns_requireDraft, returns_checked] at h
  obtain ⟨found, _, ⟨hfound, rfl⟩, _, _, ⟨-, rfl⟩, _, _, ⟨hstate, rfl⟩, -⟩ := h
  have he : found = current := Option.some.inj (hfound.symm.trans hstored)
  exact he ▸ requireState_ok hstate

theorem validateDraft_survives {clock : ClockReadings} {actor : Actor} {draftId : String}
    {command : TransitionCommand} {draft : Draft γ}
    (h : Returns (S.validateDraft clock actor draftId command) s draft t) :
    Survives S draft.manifest := by
  simp only [validateDraft, returns_bind, returns_requireDraft, returns_checked,
    returns_putDraft, returns_pure, and_assoc, exists_and_left, exists_eq_left'] at h
  obtain ⟨current, -, _, -, _, -, _, -, now, -, _, _, hlifecycle, -, _, _, _, -, rfl, -⟩ := h
  obtain ⟨⟨_, hvalidated⟩, _⟩ := returns_validateLifecycleManifest hlifecycle
  exact survives_of_revalidateManifest hvalidated

theorem submitForReview_survives {clock : ClockReadings} {actor : Actor} {draftId : String}
    {command : TransitionCommand} {draft : Draft γ}
    (h : Returns (S.submitForReview clock actor draftId command) s draft t) :
    Survives S draft.manifest := by
  simp only [submitForReview, returns_bind, returns_requireDraft, returns_checked,
    returns_putDraft, returns_pure, and_assoc, exists_and_left, exists_eq_left'] at h
  obtain ⟨current, -, _, -, _, -, _, -, now, -, _, _, -, candidateManifest, -, _, _, hcandidate, -, _,
    _, _, -, rfl, -⟩ := h
  obtain ⟨⟨_, hvalidated⟩, _⟩ := returns_validateLifecycleManifest hcandidate
  exact survives_of_revalidateManifest hvalidated

theorem approveDraft_survives {clock : ClockReadings} {actor : Actor} {draftId : String}
    {command : ApproveCommand} {draft : Draft γ}
    (h : Returns (S.approveDraft clock actor draftId command) s draft t) :
    Survives S draft.manifest := by
  simp only [approveDraft, returns_bind, returns_requireDraft, returns_checked,
    returns_putDraft, returns_pure, and_assoc, exists_and_left, exists_eq_left'] at h
  obtain ⟨current, -, _, -, _, -, _, -, candidate, -, review, -, now, -, receipt, _, -, _, _,
    hlifecycle, _, -, -, _, _, _, -, rfl, -⟩ := h
  obtain ⟨⟨_, hvalidated⟩, _⟩ := returns_validateLifecycleManifest hlifecycle
  exact survives_of_revalidateManifest hvalidated

/-- The response of a mutation that was handed a surviving manifest reads back. -/
theorem mutation_readsBack (hread : ReadsDumps S.contract) (hs : (contextSystem S).Reachable s)
    {clock : ClockReadings} {c : Call (Manifest γ)} {response : Response (Manifest γ)}
    (hcondition : HandsInSurviving S s (.call clock c))
    (h : Returns (mutation S clock c) s response t) : ReadsBack S response := by
  cases c with
  | createDraft actor key command =>
    simp only [mutation, returns_bind, returns_pure] at h
    obtain ⟨draft, u, hcreate, rfl, rfl⟩ := h
    obtain ⟨now, hdraft, _⟩ := createDraft_step hcreate
    have hsurvives := hcondition ⟨draft, u, hcreate⟩
    subst hdraft
    exact readsBack_draftRecord hread hsurvives
  | replaceDraft actor draftId key command =>
    simp only [mutation, returns_bind, returns_pure] at h
    obtain ⟨draft, u, hreplace, rfl, rfl⟩ := h
    obtain ⟨current, now, _, hdraft, _⟩ := replaceDraftInTransaction_step hreplace
    have hsurvives := hcondition ⟨draft, u, hreplace⟩
    subst hdraft
    exact readsBack_draftRecord hread hsurvives
  | validateDraft actor draftId key command =>
    simp only [mutation, returns_bind, returns_pure] at h
    obtain ⟨draft, _, hvalidate, rfl, rfl⟩ := h
    exact readsBack_draftRecord hread (validateDraft_survives hvalidate)
  | submitForReview actor draftId key command =>
    simp only [mutation, returns_bind, returns_pure] at h
    obtain ⟨draft, _, hsubmit, rfl, rfl⟩ := h
    exact readsBack_draftRecord hread (submitForReview_survives hsubmit)
  | reviewDraft actor draftId key command =>
    simp only [mutation, returns_bind, returns_pure] at h
    obtain ⟨draft, _, hreview, rfl, rfl⟩ := h
    obtain ⟨current, now, hstored, hdraft, _⟩ := reviewDraft_step hreview
    have hstate := reviewDraft_state hreview hstored
    have hsurvives := survives_inReview hs draftId current hstored hstate
    have hmanifest : draft.manifest = current.manifest := by
      rw [hdraft]
      unfold reviewedDraft
      split <;> rfl
    exact readsBack_draftRecord hread (hmanifest.symm ▸ hsurvives)
  | approveDraft actor draftId key command =>
    simp only [mutation, returns_bind, returns_pure] at h
    obtain ⟨draft, _, happrove, rfl, rfl⟩ := h
    exact readsBack_draftRecord hread (approveDraft_survives happrove)
  | publishDraft actor draftId key command =>
    simp only [mutation, returns_bind, returns_pure] at h
    obtain ⟨published, _, hpublish, rfl, rfl⟩ := h
    obtain ⟨current, candidate, approval, receipt, now, _, _, _, _, _, _, _, _, ⟨validated, hv⟩,
      hpublished, _⟩ := publishDraft_step hpublish
    subst hpublished
    exact readsBack_publishedManifest hread (survives_of_revalidateManifest hv)
  | supersedeVersion actor manifestId version key command =>
    simp only [mutation, returns_bind, returns_pure] at h
    obtain ⟨relation, _, _, rfl, rfl⟩ := h
    exact ⟨.supersession relation, rfl, rfl⟩
  | issueOperationalContextReceipt actor key command =>
    simp only [mutation, returns_bind, returns_pure] at h
    obtain ⟨receipt, _, _, rfl, rfl⟩ := h
    exact ⟨.operationalContextReceipt receipt, rfl, rfl⟩

/-! ## What every event keeps -/

/-- Drafts stay under their workload, and receipts stay. -/
structure Keeps (s t : Store γ δ R) : Prop where
  drafts : ∀ draftId draft, s.drafts.get? draftId = some draft →
    ∃ kept, t.drafts.get? draftId = some kept ∧ kept.manifestId = draft.manifestId
  receipts : ∀ key receipt, s.receipts.get? key = some receipt →
    t.receipts.get? key = some receipt

theorem drafts_kept_set {drafts : Dictionary String (Draft γ)} {draftId : String}
    {updated : Draft γ}
    (h : ∀ current, drafts.get? draftId = some current →
      updated.manifestId = current.manifestId) :
    ∀ key draft, drafts.get? key = some draft →
      ∃ kept, (drafts.set draftId updated).get? key = some kept ∧
        kept.manifestId = draft.manifestId := by
  intro key draft hd
  rw [Dictionary.get?_set]
  by_cases hkey : key = draftId
  · subst hkey
    exact ⟨updated, by simp, h draft hd⟩
  · exact ⟨draft, by simp [hkey, hd], rfl⟩

theorem lifecycleStep_drafts_kept
    (hkeyed : ∀ draftId draft, s.drafts.get? draftId = some draft → draft.draftId = draftId)
    (h : LifecycleStep S s t) :
    ∀ draftId draft, s.drafts.get? draftId = some draft →
      ∃ kept, t.drafts.get? draftId = some kept ∧ kept.manifestId = draft.manifestId := by
  have hwritten : ∀ {draftId : String} {current updated : Draft γ},
      s.drafts.get? draftId = some current → updated.manifestId = current.manifestId →
      ∀ found, s.drafts.get? current.draftId = some found →
        updated.manifestId = found.manifestId := by
    intro draftId current updated hstored hid found hfound
    rw [hkeyed draftId current hstored, hstored] at hfound
    exact Option.some.inj hfound ▸ hid
  cases h with
  | created actor command now fresh digest writes =>
    rw [writes.drafts_eq]
    refine drafts_kept_set fun found hfound => ?_
    rw [fresh] at hfound
    cases hfound
  | changed draftId current updated stored change writes =>
    rw [writes.drafts_eq]
    refine drafts_kept_set (hwritten stored ?_)
    cases change with
    | replaced => rfl
    | validated => rfl
    | submitted => rfl
    | reviewed =>
      unfold reviewedDraft
      split <;> rfl
    | approved => rfl
  | published draftId current actor command candidate approval receipt now stored state
      isCandidate authoritative receiptStored authorizes free lineage writes =>
    rw [writes.drafts_eq]
    exact drafts_kept_set (hwritten stored rfl)
  | superseded actor manifestId supersededVersion replacementVersion published replacement
      source reason relation now stored sourceStored state unsuperseded replacementStored
      successor relates writes =>
    rw [writes.drafts_eq]
    exact drafts_kept_set (hwritten sourceStored rfl)
  | receiptIssued receipt fresh issued =>
    subst issued
    exact fun _ draft hd => ⟨draft, hd, rfl⟩
  | unchanged drafts_eq published_eq supersessions_eq operational_eq =>
    rw [drafts_eq]
    exact fun _ draft hd => ⟨draft, hd, rfl⟩

/-- A mutation leaves the receipts to its call, and the audit history intact. -/
theorem mutation_receipts_audit {clock : ClockReadings} {c : Call (Manifest γ)}
    {response : Response (Manifest γ)}
    (hkeyed : ∀ draftId draft, s.drafts.get? draftId = some draft → draft.draftId = draftId)
    (h : Returns (mutation S clock c) s response t) :
    t.receipts = s.receipts ∧ (verifyAuditChain S.auditEventDigest s.audit = .ok () →
      verifyAuditChain S.auditEventDigest t.audit = .ok ()) ∧
    (c.operation ≠ "issue_operational_context_receipt" →
      ∃ draftId, mutatedDraftId s c = some draftId ∧ FirstRun S s t draftId) := by
  cases hdraft : mutatedDraftId s c with
  | some draftId =>
    have hfirst := mutation_firstRun hkeyed h hdraft
    obtain ⟨_, _, _, haudit⟩ := hfirst.audits
    exact ⟨hfirst.receipts_eq, fun _ => haudit, fun _ => ⟨draftId, rfl, hfirst⟩⟩
  | none =>
    cases c with
    | supersedeVersion actor manifestId version key command =>
      simp only [mutation, returns_bind, returns_pure] at h
      obtain ⟨relation, _, hsupersede, -, rfl⟩ := h
      obtain ⟨published, _, _, _, hstored, _⟩ := supersedeVersion_step hsupersede
      simp [mutatedDraftId, hstored] at hdraft
    | issueOperationalContextReceipt actor key command =>
      simp only [mutation, returns_bind, returns_pure] at h
      obtain ⟨receipt, _, hissue, -, rfl⟩ := h
      rcases issueOperationalContextReceipt_step hissue with rfl | ⟨_, rfl⟩
      · exact ⟨rfl, id, fun hne => absurd rfl hne⟩
      · exact ⟨rfl, id, fun hne => absurd rfl hne⟩
    | _ => cases hdraft

theorem receipts_kept_set {receipts : Dictionary (String × String)
      (MutationReceipt (CanonicalWorkloadManifest δ))} {key : String × String}
    (hnone : receipts.get? key = none) (receipt : MutationReceipt (CanonicalWorkloadManifest δ)) :
    ∀ other found, receipts.get? other = some found →
      (receipts.set key receipt).get? other = some found := by
  intro other found hfound
  rw [Dictionary.get?_set_of_ne]
  · exact hfound
  · rintro rfl
    rw [hnone] at hfound
    cases hfound

/-- Another service keeps receipts and an intact audit history. -/
theorem otherTransaction_receipts_audit {clock : ClockReadings}
    {x : OtherTransaction (Manifest γ) R} {r : Unit}
    (h : Returns (otherTransaction S clock x) s r t) :
    (∀ key receipt, s.receipts.get? key = some receipt →
      t.receipts.get? key = some receipt) ∧
    (verifyAuditChain S.auditEventDigest s.audit = .ok () →
      verifyAuditChain S.auditEventDigest t.audit = .ok ()) := by
  cases x with
  | records others =>
    have ht := returns_writing.mp h
    subst ht
    exact ⟨fun _ _ hr => hr, id⟩
  | selectorBaseline draftId =>
    simp only [otherTransaction, returns_bind, returns_requireDraft, returns_pure] at h
    obtain ⟨current, _, ⟨-, rfl⟩, baseline, u, hb, -, rfl⟩ := h
    obtain ⟨baselines, hu⟩ := returns_requireSelectorBaseline hb
    subst hu
    exact ⟨fun _ _ hr => hr, id⟩
  | evaluationApproval operation actorId key target digest responseJson event others =>
    simp only [otherTransaction, returns_bind, returns_writing, returns_putReceipt] at h
    obtain ⟨_, _, rfl, _, u, haudit, hnone, rfl⟩ := h
    obtain ⟨eventDigest, _, hchain, hu⟩ := returns_appendAudit haudit
    subst hu
    exact ⟨receipts_kept_set hnone _, fun _ => hchain⟩
  | cohortDecision event others apply =>
    simp only [otherTransaction, returns_bind, returns_writing] at h
    obtain ⟨_, u, haudit, _, _, rfl, happly⟩ := h
    obtain ⟨eventDigest, _, hchain, hu⟩ := returns_appendAudit haudit
    subst hu
    cases apply with
    | none =>
      obtain ⟨_, ht⟩ := returns_pure.mp happly
      subst ht
      exact ⟨fun _ _ hr => hr, fun _ => hchain⟩
    | some apply =>
      simp only [applyCohortDecision, returns_bind, returns_pure] at happly
      obtain ⟨draft, _, hreplace, -, rfl⟩ := happly
      obtain ⟨_, _, _, _, _, hwrites⟩ := replaceDraftInTransaction_step hreplace
      obtain ⟨_, _, _, hreplaced⟩ := hwrites.audit_eq
      rw [hwrites.receipts_eq]
      exact ⟨fun _ _ hr => hr, fun _ => hreplaced⟩

theorem storeAfter_keeps (hs : (contextSystem S).Reachable s)
    (event : StoreEvent (Manifest γ) R) :
    Keeps s (storeAfter S s event) ∧ (verifyAuditChain S.auditEventDigest s.audit = .ok () →
      verifyAuditChain S.auditEventDigest (storeAfter S s event).audit = .ok ()) := by
  have hkeyed := (lineageInvariant hs).drafts_keyed
  have hdrafts : ∀ draftId draft, s.drafts.get? draftId = some draft →
      ∃ kept, (storeAfter S s event).drafts.get? draftId = some kept ∧
        kept.manifestId = draft.manifestId := by
    obtain ⟨v, u, hv, hvu, hu⟩ := storeAfter_lifecycleChange (S := S) (s := s) event
    rw [hu.drafts_eq, ← hv.drafts_eq]
    rw [← hv.drafts_eq] at hkeyed
    rcases hvu with hstep | rfl
    · exact lifecycleStep_drafts_kept hkeyed hstep
    · exact fun _ draft hd => ⟨draft, hd, rfl⟩
  suffices h : (∀ key receipt, s.receipts.get? key = some receipt →
      (storeAfter S s event).receipts.get? key = some receipt) ∧
      (verifyAuditChain S.auditEventDigest s.audit = .ok () →
        verifyAuditChain S.auditEventDigest (storeAfter S s event).audit = .ok ()) from
    ⟨⟨hdrafts, h.1⟩, h.2⟩
  cases event with
  | call clock c =>
    rcases transaction_cases (callTransaction S clock c) s with ⟨response, t, hr, ht⟩ | ⟨e, he⟩
    · have hp : storeAfter S s (.call clock c) = t := congrArg Prod.snd ht
      rw [hp]
      obtain ⟨digest, _, _, hcases⟩ := callTransaction_returns hr
      rcases hcases with ⟨receipt, _, _, _, rfl⟩ | ⟨u, hnone, hmutation, rfl⟩
      · exact ⟨fun _ _ hk => hk, id⟩
      · obtain ⟨hreceipts, haudit, _⟩ := mutation_receipts_audit hkeyed hmutation
        dsimp only
        rw [hreceipts]
        exact ⟨receipts_kept_set hnone _, haudit⟩
    · have hp : storeAfter S s (.call clock c) = s := congrArg Prod.snd he
      rw [hp]
      exact ⟨fun _ _ hk => hk, id⟩
  | other clock x =>
    rcases transaction_cases (otherTransaction S clock x) s with ⟨_, t, hr, ht⟩ | ⟨e, he⟩
    · have hp : storeAfter S s (.other clock x) = t := congrArg Prod.snd ht
      rw [hp]
      exact otherTransaction_receipts_audit hr
    · have hp : storeAfter S s (.other clock x) = s := congrArg Prod.snd he
      rw [hp]
      exact ⟨fun _ _ hk => hk, id⟩

/-! ## Runs with their answers -/

/-- A store with the calls that were answered for the first time, and their responses. -/
structure LoggedStore (γ δ R : Type) where
  store : Store γ δ R
  log : List (Call (Manifest γ) × Response (Manifest γ))

/-- The call of an event, when it succeeds under a key without a receipt. -/
def firstAnswer (S : ContextService γ δ R) (s : Store γ δ R) :
    StoreEvent (Manifest γ) R → List (Call (Manifest γ) × Response (Manifest γ))
  | .call clock c =>
    match s.receipts.get? (c.actor.actorId, c.idempotencyKey), (perform S clock c s).1 with
    | none, .ok response => [(c, response)]
    | _, _ => []
  | .other _ _ => []

/-- The runs of the service with a log of first answers. -/
def loggedSystem (S : ContextService γ δ R) :
    TransitionSystem (LoggedStore γ δ R) (StoreEvent (Manifest γ) R) where
  init x := (∃ others, x.store = .empty others) ∧ x.log = []
  step x event y := y.store = storeAfter S x.store event ∧
    y.log = x.log ++ firstAnswer S x.store event

/-- The runs in which no call that succeeds hands in a manifest that does not survive its
serialization. -/
def survivingSystem (S : ContextService γ δ R) :
    TransitionSystem (LoggedStore γ δ R) (StoreEvent (Manifest γ) R) :=
  (loggedSystem S).guarded fun x event => HandsInSurviving S x.store event

theorem reachable_store {x : LoggedStore γ δ R} (h : (loggedSystem S).Reachable x) :
    (contextSystem S).Reachable x.store := by
  induction h with
  | start hinit => exact .start hinit.1
  | next _ hstep ih => exact .next ih hstep.1

/-- What the store keeps of an answered call: its receipt, its authorization, and a
response that reads back. -/
structure Answered (S : ContextService γ δ R) (s : Store γ δ R) (c : Call (Manifest γ))
    (response : Response (Manifest γ)) : Prop where
  receipt : ∃ digest, requestDigest S c = .ok digest ∧
    s.receipts.get? (c.actor.actorId, c.idempotencyKey) =
      some (mutationReceipt S c digest response)
  authorized : Returns (authorize S c) s () s
  readsBack : ReadsBack S response

/-- An authorization stays, as its draft stays under its workload. -/
theorem authorize_keeps {c : Call (Manifest γ)} (hkeeps : Keeps s t)
    (h : Returns (authorize S c) s () s) : Returns (authorize S c) t () t := by
  have hdraft : ∀ {actor : Actor} {draftId : String} {permission : Permission},
      Returns (authorizeDraft S actor draftId permission) s () s →
        Returns (authorizeDraft S actor draftId permission) t () t := by
    intro actor draftId permission h
    obtain ⟨⟨draft, hstored, hrequire⟩, _⟩ := authorizeDraft_same h
    obtain ⟨kept, hkept, hid⟩ := hkeeps.drafts draftId draft hstored
    simp only [authorizeDraft, returns_bind, returns_requireDraft, returns_checked]
    exact ⟨kept, t, ⟨hkept, rfl⟩, hid ▸ hrequire, rfl⟩
  cases c with
  | createDraft actor key command =>
    exact returns_checked.mpr ⟨(returns_checked.mp h).1, rfl⟩
  | replaceDraft => exact hdraft h
  | validateDraft => exact hdraft h
  | submitForReview => exact hdraft h
  | reviewDraft => exact hdraft h
  | approveDraft => exact hdraft h
  | publishDraft => exact hdraft h
  | supersedeVersion actor manifestId version key command =>
    exact returns_checked.mpr ⟨(returns_checked.mp h).1, rfl⟩
  | issueOperationalContextReceipt actor key command =>
    simp only [authorize, returns_bind, returns_raiseIf, returns_checked] at h ⊢
    obtain ⟨_, _, ⟨hkind, rfl⟩, hrequire, -⟩ := h
    exact ⟨(), t, ⟨hkind, rfl⟩, hrequire, rfl⟩

theorem Answered.keeps {c : Call (Manifest γ)} {response : Response (Manifest γ)}
    (h : Answered S s c response) (hkeeps : Keeps s t) : Answered S t c response where
  receipt := by
    obtain ⟨digest, hdigest, hstored⟩ := h.receipt
    exact ⟨digest, hdigest, hkeeps.receipts _ _ hstored⟩
  authorized := authorize_keeps hkeeps h.authorized
  readsBack := h.readsBack

/-- A call that succeeds for the first time is answered from then on. -/
theorem answered_first (hread : ReadsDumps S.contract) (hs : (contextSystem S).Reachable s)
    {clock : ClockReadings} {c : Call (Manifest γ)} {response : Response (Manifest γ)}
    (hcondition : HandsInSurviving S s (.call clock c))
    (hnone : s.receipts.get? (c.actor.actorId, c.idempotencyKey) = none)
    (h : perform S clock c s = (.ok response, t)) : Answered S t c response := by
  have hreturns := transaction_ok_iff.mp h
  have hkeeps : Keeps s t := by
    have hafter : storeAfter S s (.call clock c) = t := congrArg Prod.snd h
    exact hafter ▸ (storeAfter_keeps hs (.call clock c)).1
  obtain ⟨digest, hauthorized, hdigest, hcases⟩ := callTransaction_returns hreturns
  rcases hcases with ⟨receipt, hfound, _⟩ | ⟨u, _, hmutation, ht⟩
  · rw [hnone] at hfound
    cases hfound
  · refine ⟨⟨digest, hdigest, ?_⟩, authorize_keeps hkeeps hauthorized,
      mutation_readsBack hread hs hcondition hmutation⟩
    rw [ht]
    exact Dictionary.get?_set_self

/-- Every logged call is answered. -/
theorem logged_answered (hread : ReadsDumps S.contract) {x : LoggedStore γ δ R}
    (h : (survivingSystem S).Reachable x) : ∀ p ∈ x.log, Answered S x.store p.1 p.2 := by
  induction h with
  | start hinit => simp [hinit.2]
  | @next x y event hreach hstep ih =>
    obtain ⟨hcondition, hstore, hlog⟩ := hstep
    have hs := reachable_store (TransitionSystem.Reachable.of_guarded hreach)
    have hkeeps := (storeAfter_keeps hs event).1
    rw [← hstore] at hkeeps
    intro p hp
    rw [hlog] at hp
    rcases List.mem_append.mp hp with hp | hp
    · exact (ih p hp).keeps hkeeps
    · cases event with
      | other clock other => cases hp
      | call clock c =>
        simp only [firstAnswer] at hp
        split at hp
        · rename_i response hnone hresponse
          have hp := List.mem_singleton.mp hp
          subst hp
          have hperform : perform S clock c x.store = (.ok response, y.store) := by
            rw [hstore]
            exact Prod.ext hresponse rfl
          exact answered_first hread hs hcondition hnone hperform
        · cases hp

theorem audit_verified {x : LoggedStore γ δ R} (h : (loggedSystem S).Reachable x) :
    verifyAuditChain S.auditEventDigest x.store.audit = .ok () := by
  induction h with
  | start hinit =>
    obtain ⟨⟨others, hempty⟩, _⟩ := hinit
    rw [hempty]
    rfl
  | next hreach hstep ih =>
    rw [hstep.1]
    exact (storeAfter_keeps (reachable_store hreach) _).2 ih

/-! ## Replay -/

/-- The same request again is answered from the receipt. -/
theorem Answered.replay {c : Call (Manifest γ)} {response : Response (Manifest γ)}
    (h : Answered S s c response) (clock : ClockReadings) :
    ∃ again, perform S clock c s = (.ok again, s) ∧ SameResponse S again response := by
  obtain ⟨digest, hdigest, hstored⟩ := h.receipt
  obtain ⟨again, hread, hsame⟩ := h.readsBack
  refine ⟨again, transaction_ok_iff.mpr ?_, hsame⟩
  simp only [callTransaction, mutate, returns_bind, returns_checked, returns_getReceipt]
  refine ⟨(), s, h.authorized, digest, s, ⟨hdigest, rfl⟩, _, s, ⟨hstored, rfl⟩, ?_⟩
  simp only [mutateWith, returns_bind, returns_raiseIf, returns_checked, not_not]
  exact ⟨(), s, ⟨⟨rfl, rfl, rfl, rfl⟩, rfl⟩, hread, rfl⟩

/-- The digests of the same canonical request. -/
def SameRequest (S : ContextService γ δ R) (c c' : Call (Manifest γ)) : Prop :=
  c.operation = c'.operation ∧ c.target = c'.target ∧
    S.canonicalRequest (requestOf S c) = S.canonicalRequest (requestOf S c')

/-- Another request under the key of an answered call is refused. -/
theorem Answered.refuse (hsha : Function.Injective S.sha256) {c c' : Call (Manifest γ)}
    {response : Response (Manifest γ)} (h : Answered S s c response)
    (hactor : c.actor.actorId = c'.actor.actorId)
    (hkey : c.idempotencyKey = c'.idempotencyKey) (hother : ¬ SameRequest S c c')
    (clock : ClockReadings) : ∃ e, perform S clock c' s = (.error e, s) := by
  rcases transaction_cases (callTransaction S clock c') s with ⟨again, t, hr, -⟩ | herror
  · obtain ⟨digest, hdigest, hstored⟩ := h.receipt
    rw [hactor, hkey] at hstored
    obtain ⟨digest', _, hdigest', hcases⟩ := callTransaction_returns hr
    rcases hcases with ⟨receipt, hfound, hanswers, _⟩ | ⟨_, hnone, _⟩
    · rw [hstored] at hfound
      have hreceipt := Option.some.inj hfound
      subst hreceipt
      obtain ⟨hoperation, htarget, hsame, _⟩ := hanswers
      have hsame : digest = digest' := hsame
      subst hsame
      have htexts : S.canonicalRequest (requestOf S c) = S.canonicalRequest (requestOf S c') := by
        unfold requestDigest at hdigest hdigest'
        cases hc : S.canonicalRequest (requestOf S c) with
        | error e =>
          rw [hc] at hdigest
          cases hdigest
        | ok text =>
          cases hc' : S.canonicalRequest (requestOf S c') with
          | error e =>
            rw [hc'] at hdigest'
            cases hdigest'
          | ok text' =>
            rw [hc] at hdigest
            rw [hc'] at hdigest'
            have he : S.sha256 text = S.sha256 text' :=
              Except.ok.inj (hdigest.trans hdigest'.symm)
            rw [hsha he]
      exact absurd ⟨hoperation, htarget, htexts⟩ hother
    · rw [hstored] at hnone
      cases hnone
  · exact herror

/-- In every run in which no accepted call hands in a manifest that does not survive its
serialization, and for every next call: a call that raises changes nothing; a draft
mutation that succeeds for the first time raises its draft by one revision, appends one
event to an intact history and records one receipt; an answered call is answered again by
an equal response, and nothing changes; another request under its key is refused, and
nothing changes. -/
theorem mutations_replayable (hread : ReadsDumps S.contract)
    (hsha : Function.Injective S.sha256) {x : LoggedStore γ δ R}
    (h : (survivingSystem S).Reachable x) (clock : ClockReadings) (c : Call (Manifest γ)) :
    verifyAuditChain S.auditEventDigest x.store.audit = .ok () ∧
    (∀ e t, perform S clock c x.store = (.error e, t) → t = x.store) ∧
    (∀ response t, perform S clock c x.store = (.ok response, t) →
      x.store.receipts.get? (c.actor.actorId, c.idempotencyKey) = none →
      c.operation ≠ "issue_operational_context_receipt" →
        ∃ draftId receipt, mutatedDraftId x.store c = some draftId ∧
          RaisesDraft x.store t draftId ∧ AppendsEvent S x.store t ∧
          t.receipts = x.store.receipts.set (c.actor.actorId, c.idempotencyKey) receipt) ∧
    (∀ response, (c, response) ∈ x.log →
      ∃ again, perform S clock c x.store = (.ok again, x.store) ∧
        SameResponse S again response) ∧
    (∀ c' response, (c', response) ∈ x.log → c'.actor.actorId = c.actor.actorId →
      c'.idempotencyKey = c.idempotencyKey → ¬ SameRequest S c' c →
        ∃ e, perform S clock c x.store = (.error e, x.store)) := by
  have hlogged := TransitionSystem.Reachable.of_guarded h
  have hs := reachable_store hlogged
  refine ⟨audit_verified hlogged, fun e t => transaction_error, ?_, ?_, ?_⟩
  · intro response t ht hnone hdraft
    obtain ⟨digest, _, _, hcases⟩ := callTransaction_returns (transaction_ok_iff.mp ht)
    rcases hcases with ⟨receipt, hfound, _⟩ | ⟨u, _, hmutation, rfl⟩
    · rw [hnone] at hfound
      cases hfound
    · obtain ⟨hreceipts, _, hfirst⟩ :=
        mutation_receipts_audit (lineageInvariant hs).drafts_keyed hmutation
      obtain ⟨draftId, hid, hrun⟩ := hfirst hdraft
      refine ⟨draftId, mutationReceipt S c digest response, hid, hrun.raises, hrun.audits, ?_⟩
      dsimp only
      rw [hreceipts]
  · intro response hlog
    exact (logged_answered hread h _ hlog).replay clock
  · intro c' response hlog hactor hkey hother
    exact (logged_answered hread h _ hlog).refuse hsha hactor hkey hother clock

/-- A logged run through a list of events. -/
def logEvents (S : ContextService γ δ R) (x : LoggedStore γ δ R)
    (events : List (StoreEvent (Manifest γ) R)) : LoggedStore γ δ R :=
  events.foldl (fun x event => { store := storeAfter S x.store event
                                 log := x.log ++ firstAnswer S x.store event }) x

/-- The manifests that an event hands in. -/
def handedIn {M : Type} : StoreEvent M R → List M
  | .call _ (.createDraft _ _ command) => [command.manifest]
  | .call _ (.replaceDraft _ _ _ command) => [command.replacementManifest]
  | _ => []

theorem handsInSurviving_of_handedIn {event : StoreEvent (Manifest γ) R}
    (h : ∀ manifest ∈ handedIn event, Survives S manifest) (s : Store γ δ R) :
    HandsInSurviving S s event := by
  cases event with
  | other => trivial
  | call clock c =>
    cases c with
    | createDraft => exact fun _ => h _ (by simp [handedIn])
    | replaceDraft => exact fun _ => h _ (by simp [handedIn])
    | _ => trivial

theorem reachable_logEvents {x : LoggedStore γ δ R} (events : List (StoreEvent (Manifest γ) R))
    (hevents : ∀ event ∈ events, ∀ manifest ∈ handedIn event, Survives S manifest)
    (h : (survivingSystem S).Reachable x) :
    (survivingSystem S).Reachable (logEvents S x events) := by
  induction events generalizing x with
  | nil => exact h
  | cons event rest ih =>
    have hcondition := handsInSurviving_of_handedIn (hevents event (by simp)) x.store
    exact ih (fun e he => hevents e (by simp [he])) (.next h ⟨hcondition, rfl, rfl⟩)

/-- Two releases of `orders` with the answers to their calls. -/
def loggedOrders : LoggedStore ℕ ℕ Unit := logEvents plainService ⟨.empty (), []⟩ ordersReleases

theorem mutations_replayable_orders :
    loggedOrders.log.length = 17 ∧ ∀ p ∈ loggedOrders.log,
      ∃ again, perform plainService ⟨.ok 9, .ok 9⟩ p.1 loggedOrders.store =
        (.ok again, loggedOrders.store) ∧ SameResponse plainService again p.2 := by
  have hread : ReadsDumps plainContract := by
    intro manifest validated hvalid
    simp only [ManifestContract.modelValidate, FallibleResults.bind_ok_iff,
      FallibleResults.ite_error_ok_iff] at hvalid
    obtain ⟨_, _, _, _, _, content, hparsed, hvalidated⟩ := hvalid
    have hparsed : manifest.content = content := Except.ok.inj hparsed
    rw [← Except.ok.inj hvalidated, ← hparsed]
    rfl
  have hevents : ∀ event ∈ ordersReleases, ∀ manifest ∈ handedIn event,
      Survives plainService manifest := by
    intro event he manifest hm
    have hall : ordersReleases.flatMap handedIn =
        [ordersManifest ⟨1, 0, 0⟩ 99 "editor" 0, ordersManifest ⟨1, 1, 0⟩ 95 "editor" 0] := rfl
    have hmem : manifest ∈ ordersReleases.flatMap handedIn :=
      List.mem_flatMap.mpr ⟨event, he, hm⟩
    rw [hall] at hmem
    rcases List.mem_pair.mp hmem with rfl | rfl
    · exact ⟨ordersManifest ⟨1, 0, 0⟩ 99 "editor" 0, by decide⟩
    · exact ⟨ordersManifest ⟨1, 1, 0⟩ 95 "editor" 0, by decide⟩
  have hreach : (survivingSystem plainService).Reachable loggedOrders :=
    reachable_logEvents ordersReleases hevents (.start ⟨⟨(), rfl⟩, rfl⟩)
  refine ⟨by decide +kernel, fun p hp => ?_⟩
  exact (mutations_replayable hread Function.injective_id hreach ⟨.ok 9, .ok 9⟩ p.1).2.2.2.1 p.2 hp

/-! ## A manifest with an explicit null -/

/-- The fields of an object, some written as null, as one text. -/
def fieldsText : List (String × Option String) → String
  | [] => ""
  | (name, value) :: rest => name ++ ":" ++ value.getD "null" ++ ";" ++ fieldsText rest

/-- Manifests whose content is one object. The digests cover the fields that are written,
nulls among them; the dump leaves nulls out. -/
def fieldsContract :
    ManifestContract (List (String × Option String)) (List (String × Option String)) where
  dumpContent fields := fields.filter fun field => field.2.isSome
  canonicalContent := id
  payloadDigest _ payload := .ok (payload.manifestId ++ fieldsText payload.content)
  parseContent payload := .ok payload.content
  computeArtifactDigestValue manifest := .ok (manifest.manifestId ++ fieldsText manifest.content)
  rollbackContentDigest manifest := .ok (fieldsText manifest.content)
  manifestSelectorProvenance _ := []
  productionProfile _ := some "production"

/-- A profile that extends none, and says so. -/
def createWithNull : Call (Manifest (List (String × Option String))) :=
  .createDraft editor "create"
    { draftId := "draft"
      manifest :=
        { manifestId := "orders"
          manifestVersion := ⟨1, 0, 0⟩
          artifactDigest := "ordersprofileId:production;extends:null;"
          semanticDigest := "ordersprofileId:production;extends:null;"
          audit := { publishedBy := "editor", publishedAt := 0 }
          content := [("profileId", some "production"), ("extends", none)] }
      manifestDigest := "ordersprofileId:production;extends:null;"
      reason := "release" }

/-- The manifest is read from its own JSON, so its payload is well formed, and the draft
is created and logged; the repeated call raises. -/
theorem mutations_replayable_null :
    ∃ (x : LoggedStore (List (String × Option String)) (List (String × Option String)) Unit),
      (loggedSystem (openService fieldsContract)).Reachable x ∧
      x.log.map Prod.fst = [createWithNull] ∧
      ¬ ∀ response, (createWithNull, response) ∈ x.log →
        ∃ again, perform (openService fieldsContract) ⟨.ok 1, .ok 1⟩ createWithNull x.store =
          (.ok again, x.store) ∧ SameResponse (openService fieldsContract) again response := by
  have hlog : (logEvents (openService fieldsContract) ⟨.empty (), []⟩
      [.call ⟨.ok 0, .ok 0⟩ createWithNull]).log.map Prod.fst = [createWithNull] := by
    decide
  have hraises : (perform (openService fieldsContract) ⟨.ok 1, .ok 1⟩ createWithNull
      (logEvents (openService fieldsContract) ⟨.empty (), []⟩
        [.call ⟨.ok 0, .ok 0⟩ createWithNull]).store).1.toOption.isSome = false := by
    decide
  refine ⟨_, .next (.start ⟨⟨(), rfl⟩, rfl⟩) ⟨rfl, rfl⟩, hlog, fun hall => ?_⟩
  have hfirst : createWithNull ∈ (logEvents (openService fieldsContract) ⟨.empty (), []⟩
      [.call ⟨.ok 0, .ok 0⟩ createWithNull]).log.map Prod.fst := by
    rw [hlog]
    exact List.mem_singleton_self _
  obtain ⟨p, hp, hc⟩ := List.mem_map.mp hfirst
  obtain ⟨again, hagain, _⟩ := hall p.2 (hc ▸ hp)
  have hsome := congrArg (fun result => result.1.toOption.isSome) hagain
  exact absurd (hraises.symm.trans hsome) (by simp [Except.toOption])

end AthenaContext.ReplayableMutations
