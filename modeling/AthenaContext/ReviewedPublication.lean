import AthenaContext.ContextCalls
import AthenaContext.FallibleResults

/-!
# Reviewed publications

In every store that calls reach, the state of a draft agrees with the records it
carries, and every published version was submitted, approved in review, approved for
publication and covered by two operational context receipts, all for the digest that was
published. The history of the draft records that the store has held says that no
revision between submission and publication carried another manifest.
-/

namespace AthenaContext.ReviewedPublication

open ContextRecords ContextMutations ContextTransitions ContextCalls
open Dictionaries TransitionSystems
open ContextMutations.ContextService

variable {γ δ R : Type} {S : ContextService γ δ R}

/-! ## Runs with their draft records -/

/-- A store with the draft records it has held. -/
structure RecordedStore (γ δ R : Type) where
  store : Store γ δ R
  history : List (Draft γ)

/-- The runs of the service, recording the drafts of every store they pass. -/
def recordedSystem (S : ContextService γ δ R) :
    TransitionSystem (RecordedStore γ δ R) (StoreEvent (Manifest γ) R) where
  init x := (∃ others, x.store = .empty others) ∧ x.history = []
  step x event y := y.store = storeAfter S x.store event ∧
    y.history = x.history ++ y.store.drafts.values

/-! ## What the records of a draft say -/

/-- The validation is of the current revision and digest. -/
def ValidatedAgrees (draft : Draft γ) : Prop :=
  ∃ validation, draft.validation = some validation ∧
    validation.validatedRevision = draft.revision ∧
    validation.manifestDigest = draft.manifestDigest

/-- A submission and a publication candidate carry the current digest, and the candidate
the audit block of the manifest. -/
def InReviewAgrees (draft : Draft γ) : Prop :=
  ∃ submission candidate, draft.review = some submission ∧
    draft.publicationCandidate = some candidate ∧
    submission.publicationCandidateDigest = draft.manifestDigest ∧
    candidate.manifestDigest = draft.manifestDigest ∧
    draft.manifest.audit.publishedBy = candidate.finalizedBy.actorId ∧
    draft.manifest.audit.publishedAt = candidate.finalizedAt ∧
    draft.manifest.audit.approvalStatus = candidate.approvalStatus

/-- The approval is of the current revision, on the strength of an approved review of
the revision before, with the same digest. -/
def ApprovedAgrees (draft : Draft γ) : Prop :=
  ∃ approval, draft.approval = some approval ∧
    approval.approvedRevision = draft.revision ∧
    approval.manifestDigest = draft.manifestDigest ∧
    ∃ review ∈ draft.reviewDecisions, approval.reviewDecisionId = some review.decisionId ∧
      review.decision = .approved ∧ review.reviewedRevision + 1 = draft.revision ∧
      review.manifestDigest = draft.manifestDigest

/-- The state of a draft agrees with its records. -/
structure StateAgrees (draft : Draft γ) : Prop where
  validated : draft.state = .validated → ValidatedAgrees draft
  inReview : draft.state = .inReview → InReviewAgrees draft
  approved : draft.state = .approved → ApprovedAgrees draft

/-- A draft in one of the two final states. -/
def IsClosed (draft : Draft γ) : Prop :=
  draft.state = .published ∨ draft.state = .superseded

/-- The identifier is of a stored operational context receipt for exactly this revision
and digest of the draft. -/
def ReceiptIssued (receipts : Dictionary String OperationalContextReceipt)
    (receiptId : Option String) (draftId : String) (revision : ℕ) (digest : String) : Prop :=
  ∃ key receipt, receiptId = some key ∧ receipts.get? key = some receipt ∧
    receipt.draftId = draftId ∧ receipt.draftRevision = revision ∧
    receipt.manifestDigest = digest

/-- Receipts are stored under their identifiers. -/
def ReceiptsKeyed (receipts : Dictionary String OperationalContextReceipt) : Prop :=
  ∀ key receipt, receipts.get? key = some receipt → receipt.receiptId = key

/-- A published version was submitted, approved in review two revisions before, approved
one revision before, and covered by a receipt for each of these two revisions. -/
def PublicationReviewed (x : RecordedStore γ δ R) (published : PublishedManifest (Manifest γ)) :
    Prop :=
  ∃ source submission review, x.store.drafts.get? published.sourceDraftId = some source ∧
    source.review = some submission ∧
    submission.publicationCandidateDigest = published.manifestDigest ∧
    submission.submittedRevision ≤ review.reviewedRevision ∧
    review ∈ source.reviewDecisions ∧ review.decision = .approved ∧
    review.reviewedRevision + 2 = published.sourceDraftRevision ∧
    review.manifestDigest = published.manifestDigest ∧
    published.approval.approvedRevision + 1 = published.sourceDraftRevision ∧
    published.approval.manifestDigest = published.manifestDigest ∧
    published.approval.reviewDecisionId = some review.decisionId ∧
    ReceiptIssued x.store.operationalContextReceipts
      published.approval.operationalContextReceiptId published.sourceDraftId
      review.reviewedRevision published.manifestDigest ∧
    ReceiptIssued x.store.operationalContextReceipts published.operationalContextReceiptId
      published.sourceDraftId published.approval.approvedRevision published.manifestDigest ∧
    ∀ record ∈ x.history, record.draftId = published.sourceDraftId →
      submission.submittedRevision ≤ record.revision →
      record.revision ≤ published.sourceDraftRevision → record.manifest = published.manifest

/-! ## The invariant of one draft -/

/-- What is kept of a draft, given the stored receipts and the records held so far. -/
structure DraftInvariant (receipts : Dictionary String OperationalContextReceipt)
    (history : List (Draft γ)) (draft : Draft γ) : Prop where
  agrees : StateAgrees draft
  approvalReceipt : draft.state = .approved → ∀ approval, draft.approval = some approval →
    ∃ revision, revision + 1 = draft.revision ∧
      ReceiptIssued receipts approval.operationalContextReceiptId draft.draftId revision
        draft.manifestDigest
  unreviewed : draft.state = .draft ∨ draft.state = .validated → draft.review = none
  submitted_le : ∀ submission, draft.review = some submission →
    submission.submittedRevision ≤ draft.revision
  submitted_lt : draft.state = .approved → ∀ submission, draft.review = some submission →
    submission.submittedRevision < draft.revision
  latest : ∀ record ∈ history, record.draftId = draft.draftId →
    record.revision ≤ draft.revision
  carried : ∀ submission, draft.review = some submission → ∀ record ∈ history,
    record.draftId = draft.draftId → submission.submittedRevision ≤ record.revision →
      record.manifest = draft.manifest

section Draft

variable {receipts receipts' : Dictionary String OperationalContextReceipt}
  {history : List (Draft γ)} {draft current updated : Draft γ} {s t : Store γ δ R}

theorem ReceiptIssued.mono {receiptId : Option String} {draftId : String} {revision : ℕ}
    {digest : String} (h : ReceiptIssued receipts receiptId draftId revision digest)
    (hgrow : ∀ key receipt, receipts.get? key = some receipt →
      receipts'.get? key = some receipt) :
    ReceiptIssued receipts' receiptId draftId revision digest := by
  obtain ⟨key, receipt, hid, hstored, hrest⟩ := h
  exact ⟨key, receipt, hid, hgrow key receipt hstored, hrest⟩

/-- New receipts do not disturb a draft. -/
theorem DraftInvariant.add_receipts (h : DraftInvariant receipts history draft)
    (hgrow : ∀ key receipt, receipts.get? key = some receipt →
      receipts'.get? key = some receipt) :
    DraftInvariant receipts' history draft where
  agrees := h.agrees
  approvalReceipt := by
    intro hstate approval happroval
    obtain ⟨revision, hrevision, hissued⟩ := h.approvalReceipt hstate approval happroval
    exact ⟨revision, hrevision, hissued.mono hgrow⟩
  unreviewed := h.unreviewed
  submitted_le := h.submitted_le
  submitted_lt := h.submitted_lt
  latest := h.latest
  carried := h.carried

/-- Recording a draft itself and other drafts does not disturb it. -/
theorem DraftInvariant.add_records {records : List (Draft γ)}
    (h : DraftInvariant receipts history draft)
    (hrecords : ∀ record ∈ records, record.draftId = draft.draftId → record = draft) :
    DraftInvariant receipts (history ++ records) draft where
  agrees := h.agrees
  approvalReceipt := h.approvalReceipt
  unreviewed := h.unreviewed
  submitted_le := h.submitted_le
  submitted_lt := h.submitted_lt
  latest := by
    intro record hr hid
    rcases List.mem_append.mp hr with hr | hr
    · exact h.latest record hr hid
    · rw [hrecords record hr hid]
  carried := by
    intro submission hs record hr hid hle
    rcases List.mem_append.mp hr with hr | hr
    · exact h.carried submission hs record hr hid hle
    · rw [hrecords record hr hid]

/-- A draft with the next revision either keeps submission and manifest, or is submitted
by this very revision; then the records held so far stay in step. -/
theorem DraftInvariant.carried_next (h : DraftInvariant receipts history current)
    (updated : Draft γ) (hid : updated.draftId = current.draftId)
    (hrevision : updated.revision = current.revision + 1)
    (hreview : ∀ submission, updated.review = some submission →
      (current.review = some submission ∧ updated.manifest = current.manifest) ∨
        submission.submittedRevision = current.revision + 1) :
    (∀ record ∈ history, record.draftId = updated.draftId →
      record.revision ≤ updated.revision) ∧
    ∀ submission, updated.review = some submission → ∀ record ∈ history,
      record.draftId = updated.draftId → submission.submittedRevision ≤ record.revision →
        record.manifest = updated.manifest := by
  constructor
  · intro record hr hsame
    have hle := h.latest record hr (hsame.trans hid)
    omega
  · intro submission hs record hr hsame hle
    have hlatest := h.latest record hr (hsame.trans hid)
    rcases hreview submission hs with ⟨hs', hmanifest⟩ | hnew
    · rw [hmanifest]
      exact h.carried submission hs' record hr (hsame.trans hid) hle
    · omega

/-- The finalized manifest carries the audit block of the finalization. -/
theorem finalizePublicationCandidate_audit {manifest candidate : Manifest γ} {now : Timestamp}
    (h : S.finalizePublicationCandidate manifest now = .ok candidate) :
    candidate.audit = { publishedBy := S.publicationActor.actorId, publishedAt := now } := by
  unfold finalizePublicationCandidate at h
  dsimp only at h
  split at h
  · rename_i finalized hf
    cases h
    obtain ⟨payload, hpayload, hvalid⟩ := FallibleResults.bind_ok_iff.mp hf
    have haudit : payload.audit =
        { publishedBy := S.publicationActor.actorId, publishedAt := now } := by
      simp only [ManifestContract.canonicalizeManifestPayload, FallibleResults.bind_ok_iff,
        FallibleResults.pure_ok_iff] at hpayload
      obtain ⟨_, _, _, _, rfl⟩ := hpayload
      rfl
    simp only [ManifestContract.modelValidate, FallibleResults.bind_ok_iff] at hvalid
    obtain ⟨_, _, _, _, hvalid⟩ := hvalid
    rw [FallibleResults.ite_error_ok_iff, FallibleResults.bind_ok_iff] at hvalid
    obtain ⟨-, _, -, hvalid⟩ := hvalid
    cases hvalid
    exact haudit
  · cases h

/-- What `_require_current_publication_candidate` found. -/
theorem requireCurrentPublicationCandidate_ok {candidate : PublicationCandidate}
    (h : S.requireCurrentPublicationCandidate current = .ok candidate) :
    ∃ review, current.publicationCandidate = some candidate ∧ current.review = some review ∧
      S.isCurrentCandidate current candidate review := by
  unfold requireCurrentPublicationCandidate at h
  split at h
  · rename_i found review hc hr
    split at h
    · rename_i hcurrent
      obtain ⟨_, _, he⟩ := FallibleResults.bind_ok_iff.mp h
      cases he
      exact ⟨review, hc, hr, hcurrent⟩
    · cases h
  · cases h

theorem authoritativeReview_ok {review : ReviewDecision}
    (h : authoritativeReview current = .ok review) :
    review ∈ current.reviewDecisions ∧ approvesCurrent current review := by
  unfold authoritativeReview at h
  split at h
  · rename_i found hlast
    split at h
    · rename_i happroves
      cases h
      exact ⟨List.mem_of_getLast? hlast, happroves⟩
    · cases h
  · cases h

theorem authoritativeApproval_ok {command : PublishCommand} {approval : ApprovalDecision}
    (h : authoritativeApproval current command = .ok approval) :
    current.approval = some approval ∧ ∃ review ∈ current.reviewDecisions,
      approval.reviewDecisionId = some review.decisionId ∧
      authorizesPublication current command approval review := by
  unfold authoritativeApproval at h
  split at h
  · rename_i found hfound
    split at h
    · rename_i review hreview
      split at h
      · rename_i hauthorizes
        cases h
        have hmem := List.mem_of_find?_eq_some hreview
        have hid := List.find?_some hreview
        exact ⟨hfound, review, hmem, (of_decide_eq_true hid).symm, hauthorizes⟩
      · cases h
    · cases h
  · cases h

/-- A draft changes before it is closed only. -/
theorem not_closed_of_change (h : DraftChange S s current updated) : ¬ IsClosed current := by
  cases h with
  | replaced actor command now state => simp [IsClosed, state]
  | validated actor command now state => simp [IsClosed, state]
  | submitted actor command now manifest state => simp [IsClosed, state]
  | reviewed actor command now state => simp [IsClosed, state]
  | approved actor command review receipt now state => simp [IsClosed, state]

/-- Each change of a draft keeps its invariant. -/
theorem DraftInvariant.change (h : DraftInvariant s.operationalContextReceipts history current)
    (hreceipts : ReceiptsKeyed s.operationalContextReceipts)
    (hchange : DraftChange S s current updated) :
    DraftInvariant s.operationalContextReceipts history updated := by
  cases hchange with
  | replaced actor command now state sameManifest sameVersion digest =>
    have hnext := h.carried_next (replacedDraft actor current command now) rfl rfl
      (by simp [replacedDraft])
    refine ⟨⟨?_, ?_, ?_⟩, ?_, ?_, ?_, ?_, hnext.1, hnext.2⟩ <;> simp [replacedDraft, state]
  | validated actor command now state revalidated =>
    have hnone := h.unreviewed (.inl state)
    have hnext := h.carried_next (validatedDraft actor current command now) rfl rfl
      (by simp [validatedDraft, hnone])
    refine ⟨⟨?_, ?_, ?_⟩, ?_, ?_, ?_, ?_, hnext.1, hnext.2⟩ <;>
      simp [validatedDraft, ValidatedAgrees, hnone]
  | submitted actor command now manifest state finalized revalidated =>
    have haudit := finalizePublicationCandidate_audit finalized
    have hnext := h.carried_next
      (S.submittedDraft actor current command manifest now) rfl rfl (by
        intro submission hs
        right
        rw [← Option.some.inj hs])
    refine ⟨⟨?_, ?_, ?_⟩, ?_, ?_, ?_, ?_, hnext.1, hnext.2⟩ <;>
      simp [submittedDraft, InReviewAgrees, haudit]
  | reviewed actor command now state candidate =>
    cases hd : command.decision with
    | approved =>
      have he : reviewedDraft actor current command now = withReview actor current command now := by
        simp [reviewedDraft, hd]
      rw [he]
      have hnext := h.carried_next (withReview actor current command now) rfl rfl
        (fun submission hs => .inl ⟨hs, rfl⟩)
      refine ⟨⟨?_, ?_, ?_⟩, ?_, ?_, ?_, ?_, hnext.1, hnext.2⟩
      · simp [withReview, state]
      · exact fun _ => h.agrees.inReview state
      · simp [withReview, state]
      · simp [withReview, state]
      · simp [withReview, state]
      · intro submission hs
        exact (h.submitted_le submission hs).trans (Nat.le_succ _)
      · simp [withReview, state]
    | changesRequested =>
      have hnext := h.carried_next (reviewedDraft actor current command now)
        (by simp [reviewedDraft, hd, withReview]) (by simp [reviewedDraft, hd, withReview])
        (by simp [reviewedDraft, hd])
      refine ⟨⟨?_, ?_, ?_⟩, ?_, ?_, ?_, ?_, hnext.1, hnext.2⟩ <;> simp [reviewedDraft, hd]
  | approved actor command review receipt now state candidate authoritative stored authorizes =>
    obtain ⟨hmem, hdecision, hrevision, hversion, hdigest⟩ := authoritativeReview_ok authoritative
    obtain ⟨_, _, _, hdraft, hreceiptRevision, hreceiptDigest, _⟩ := authorizes
    have hnext := h.carried_next (approvedDraft actor current command
      (approvalDecision actor current command review receipt now) now) rfl rfl
      (fun submission hs => .inl ⟨hs, rfl⟩)
    refine ⟨⟨?_, ?_, ?_⟩, ?_, ?_, ?_, ?_, hnext.1, hnext.2⟩
    · simp [approvedDraft]
    · simp [approvedDraft]
    · intro _
      refine ⟨_, rfl, rfl, rfl, review, hmem, rfl, hdecision, ?_, hdigest⟩
      simp [approvedDraft, hrevision]
    · intro _ approval happroval
      have happroval := Option.some.inj happroval
      subst happroval
      have hkey := hreceipts _ _ stored
      exact ⟨current.revision, rfl, receipt.receiptId, receipt, rfl, hkey.symm ▸ stored, hdraft,
        hreceiptRevision, hreceiptDigest⟩
    · simp [approvedDraft]
    · intro submission hs
      exact (h.submitted_le submission hs).trans (Nat.le_succ _)
    · intro _ submission hs
      exact Nat.lt_succ_of_le (h.submitted_le submission hs)

end Draft

/-! ## The invariant of the store -/

/-- What a closed draft keeps of the records that led to its publication. -/
structure KeepsReview (source kept : Draft γ) : Prop where
  closed : IsClosed kept
  manifest : kept.manifest = source.manifest
  review : kept.review = source.review
  reviewDecisions : kept.reviewDecisions = source.reviewDecisions

/-- What the store says about a published version and the draft behind it. -/
def PublicationHolds (s : Store γ δ R) (published : PublishedManifest (Manifest γ)) : Prop :=
  ∃ source submission review, s.drafts.get? published.sourceDraftId = some source ∧
    IsClosed source ∧ source.manifest = published.manifest ∧
    source.review = some submission ∧
    submission.publicationCandidateDigest = published.manifestDigest ∧
    submission.submittedRevision ≤ review.reviewedRevision ∧
    review ∈ source.reviewDecisions ∧ review.decision = .approved ∧
    review.reviewedRevision + 2 = published.sourceDraftRevision ∧
    review.manifestDigest = published.manifestDigest ∧
    published.approval.approvedRevision + 1 = published.sourceDraftRevision ∧
    published.approval.manifestDigest = published.manifestDigest ∧
    published.approval.reviewDecisionId = some review.decisionId ∧
    ReceiptIssued s.operationalContextReceipts published.approval.operationalContextReceiptId
      published.sourceDraftId review.reviewedRevision published.manifestDigest ∧
    ReceiptIssued s.operationalContextReceipts published.operationalContextReceiptId
      published.sourceDraftId published.approval.approvedRevision published.manifestDigest

/-- What every reachable store keeps, given the draft records held so far. -/
structure ReviewInvariant (s : Store γ δ R) (history : List (Draft γ)) : Prop where
  drafts_keyed : ∀ draftId draft, s.drafts.get? draftId = some draft → draft.draftId = draftId
  receipts_keyed : ReceiptsKeyed s.operationalContextReceipts
  known : ∀ record ∈ history, s.drafts.get? record.draftId ≠ none
  drafts : ∀ draftId draft, s.drafts.get? draftId = some draft →
    DraftInvariant s.operationalContextReceipts history draft
  published : ∀ key published, s.published.get? key = some published →
    PublicationHolds s published

section Store

variable {s t : Store γ δ R} {history : List (Draft γ)}

/-- Closed drafts keep their review, and receipts stay. -/
theorem PublicationHolds.mono {published : PublishedManifest (Manifest γ)}
    (h : PublicationHolds s published)
    (hkept : ∀ draftId source, s.drafts.get? draftId = some source → IsClosed source →
      ∃ kept, t.drafts.get? draftId = some kept ∧ KeepsReview source kept)
    (hgrow : ∀ key receipt, s.operationalContextReceipts.get? key = some receipt →
      t.operationalContextReceipts.get? key = some receipt) :
    PublicationHolds t published := by
  obtain ⟨source, submission, review, hsource, hclosed, hmanifest, hreview, hdigest, hle, hmem,
    hdecision, hrevision, hreviewDigest, happroved, happroval, hid, hfirst, hsecond⟩ := h
  obtain ⟨kept, hstored, hkeeps⟩ := hkept _ source hsource hclosed
  refine ⟨kept, submission, review, hstored, hkeeps.closed, ?_, ?_, hdigest, hle, ?_, hdecision,
    hrevision, hreviewDigest, happroved, happroval, hid, hfirst.mono hgrow, hsecond.mono hgrow⟩
  · rw [hkeeps.manifest, hmanifest]
  · rw [hkeeps.review, hreview]
  · rw [hkeeps.reviewDecisions]
    exact hmem

/-- Writing a draft keeps the closed ones, when it keeps what it replaces. -/
theorem keepsReview_set {drafts : Dictionary String (Draft γ)} {draftId : String}
    {draft : Draft γ}
    (h : ∀ current, drafts.get? draftId = some current → IsClosed current →
      KeepsReview current draft) :
    ∀ key source, drafts.get? key = some source → IsClosed source →
      ∃ kept, (drafts.set draftId draft).get? key = some kept ∧ KeepsReview source kept := by
  intro key source hsource hclosed
  rw [Dictionary.get?_set]
  by_cases hkey : key = draftId
  · subst hkey
    exact ⟨draft, by simp, h source hsource hclosed⟩
  · exact ⟨source, by simp [hkey, hsource], hclosed, rfl, rfl, rfl⟩

/-- A step that writes one draft keeps the invariant, when that draft keeps its own and
every published version is still accounted for. -/
theorem ReviewInvariant.write (h : ReviewInvariant s history) {updated : Draft γ}
    (hdrafts : t.drafts = s.drafts.set updated.draftId updated)
    (hreceipts : t.operationalContextReceipts = s.operationalContextReceipts)
    (hupdated : DraftInvariant s.operationalContextReceipts history updated)
    (hpublished : ∀ key published, t.published.get? key = some published →
      PublicationHolds t published) :
    ReviewInvariant t history where
  drafts_keyed := hdrafts ▸ keyed_set h.drafts_keyed rfl
  receipts_keyed := hreceipts ▸ h.receipts_keyed
  known := by
    intro record hr
    have hk := h.known record hr
    rw [hdrafts, Dictionary.get?_set]
    split
    · simp
    · exact hk
  drafts := by
    intro draftId draft hd
    rw [hdrafts, Dictionary.get?_set] at hd
    rw [hreceipts]
    split at hd
    · exact Option.some.inj hd ▸ hupdated
    · exact h.drafts draftId draft hd
  published := hpublished

/-- The invariant is about drafts, published versions and receipts only. -/
theorem ReviewInvariant.same (h : ReviewInvariant s history) (hdrafts : t.drafts = s.drafts)
    (hpublished : t.published = s.published)
    (hreceipts : t.operationalContextReceipts = s.operationalContextReceipts) :
    ReviewInvariant t history where
  drafts_keyed := hdrafts ▸ h.drafts_keyed
  receipts_keyed := hreceipts ▸ h.receipts_keyed
  known := hdrafts ▸ h.known
  drafts := by
    rw [hdrafts, hreceipts]
    exact h.drafts
  published := by
    intro key published hp
    rw [hpublished] at hp
    refine (h.published key published hp).mono ?_ (hreceipts ▸ fun _ _ hr => hr)
    rw [hdrafts]
    exact fun _ source hs hc => ⟨source, hs, hc, rfl, rfl, rfl⟩

/-- A new draft has no records yet. -/
theorem ReviewInvariant.created (h : ReviewInvariant s history) {draft : Draft γ}
    (hfresh : s.drafts.get? draft.draftId = none) (hstate : draft.state = .draft)
    (hreview : draft.review = none) :
    DraftInvariant s.operationalContextReceipts history draft where
  agrees := by
    refine ⟨?_, ?_, ?_⟩ <;> simp [hstate]
  approvalReceipt := by simp [hstate]
  unreviewed := fun _ => hreview
  submitted_le := by simp [hreview]
  submitted_lt := by simp [hreview]
  latest := by
    intro record hr hid
    have hk := h.known record hr
    rw [hid] at hk
    exact absurd hfresh hk
  carried := by simp [hreview]

/-- Publication and supersession leave the records of a draft to its final states. -/
theorem DraftInvariant.close {receipts : Dictionary String OperationalContextReceipt}
    {current : Draft γ} {state : DraftState} {actor : Actor} {reason : String} {now : Timestamp}
    (h : DraftInvariant receipts history current)
    (hclosed : state = .published ∨ state = .superseded) :
    DraftInvariant receipts history (closedDraft state actor current reason now) := by
  have hnext := h.carried_next (closedDraft state actor current reason now) rfl rfl
    (fun submission hs => .inl ⟨hs, rfl⟩)
  have hle : ∀ submission, current.review = some submission →
      submission.submittedRevision ≤ current.revision + 1 := by
    intro submission hs
    have := h.submitted_le submission hs
    omega
  rcases hclosed with rfl | rfl
  · refine ⟨⟨?_, ?_, ?_⟩, ?_, ?_, hle, ?_, hnext.1, hnext.2⟩ <;> simp [closedDraft]
  · refine ⟨⟨?_, ?_, ?_⟩, ?_, ?_, hle, ?_, hnext.1, hnext.2⟩ <;> simp [closedDraft]

/-- A version that is published now is accounted for. -/
theorem ReviewInvariant.publicationHolds (h : ReviewInvariant s history) {current : Draft γ}
    {actor : Actor} {command : PublishCommand} {candidate : PublicationCandidate}
    {approval : ApprovalDecision} {receipt : OperationalContextReceipt} {now : Timestamp}
    (stored : s.drafts.get? current.draftId = some current) (state : current.state = .approved)
    (isCandidate : S.requireCurrentPublicationCandidate current = .ok candidate)
    (authoritative : authoritativeApproval current command = .ok approval)
    (receiptStored : s.operationalContextReceipts.get? command.operationalContextReceiptId =
      some receipt)
    (authorizes : receiptAuthorizes receipt current now)
    (hdrafts : t.drafts = s.drafts.set current.draftId
      (closedDraft .published actor current command.reason now))
    (hreceipts : t.operationalContextReceipts = s.operationalContextReceipts) :
    PublicationHolds t
      (S.publishedVersion actor current command candidate approval receipt now) := by
  have hdraft := h.drafts _ _ stored
  obtain ⟨submission, _, hsubmission, hcurrent⟩ :=
    requireCurrentPublicationCandidate_ok isCandidate
  obtain ⟨_, _, _, _, _, hsubmitted, _⟩ := hcurrent
  obtain ⟨happroval, review, hmem, hid, hauthorizes⟩ := authoritativeApproval_ok authoritative
  obtain ⟨_, hrevision, _, hdigest, hdecision, hreviewed, hreviewDigest⟩ := hauthorizes
  have hlt := hdraft.submitted_lt state submission hsubmission
  obtain ⟨revision, hnext, hissued⟩ := hdraft.approvalReceipt state approval happroval
  have hrevisions : review.reviewedRevision + 1 = current.revision := by omega
  have hsame : revision = review.reviewedRevision := by omega
  obtain ⟨_, _, _, hreceiptDraft, hreceiptRevision, hreceiptDigest, _⟩ := authorizes
  have hkey : receipt.receiptId = command.operationalContextReceiptId :=
    h.receipts_keyed _ _ receiptStored
  refine ⟨closedDraft .published actor current command.reason now, submission, review, ?_,
    .inl rfl, rfl, hsubmission, hsubmitted, ?_, hmem, hdecision, ?_, hreviewDigest.trans hdigest,
    ?_, hdigest, hid, ?_, ?_⟩
  · rw [hdrafts]
    exact Dictionary.get?_set_self
  · omega
  · simp only [publishedVersion]
    omega
  · simp [publishedVersion, hrevision]
  · rw [hreceipts, ← hsame]
    exact hissued
  · rw [hreceipts]
    exact ⟨receipt.receiptId, receipt, rfl, hkey.symm ▸ receiptStored, hreceiptDraft,
      hreceiptRevision.trans hrevision.symm, hreceiptDigest⟩

theorem ReviewInvariant.step (h : ReviewInvariant s history) (hstep : LifecycleStep S s t) :
    ReviewInvariant t history := by
  cases hstep with
  | created actor command now fresh digest writes =>
    have hcreated : DraftInvariant s.operationalContextReceipts history
        (createdDraft actor command now) := h.created fresh rfl rfl
    refine h.write writes.drafts_eq writes.operational_eq hcreated ?_
    rw [writes.published_eq]
    intro key published hp
    refine (h.published key published hp).mono ?_ (writes.operational_eq ▸ fun _ _ hr => hr)
    rw [writes.drafts_eq]
    refine keepsReview_set fun current hc _ => ?_
    rw [fresh] at hc
    cases hc
  | changed draftId current updated stored change writes =>
    have hid := h.drafts_keyed _ _ stored
    have hupdated := (h.drafts _ _ stored).change h.receipts_keyed change
    rw [← change.draftId_eq] at writes
    refine h.write writes.drafts_eq writes.operational_eq hupdated ?_
    rw [writes.published_eq]
    intro key published hp
    refine (h.published key published hp).mono ?_ (writes.operational_eq ▸ fun _ _ hr => hr)
    rw [writes.drafts_eq]
    refine keepsReview_set fun found hfound hclosed => ?_
    rw [change.draftId_eq, hid, stored] at hfound
    rw [← Option.some.inj hfound] at hclosed
    exact absurd hclosed (not_closed_of_change change)
  | published draftId current actor command candidate approval receipt now stored state
      isCandidate authoritative receiptStored authorizes free lineage writes =>
    have hid := h.drafts_keyed _ _ stored
    subst hid
    refine h.write writes.drafts_eq writes.operational_eq
      ((h.drafts _ _ stored).close (.inl rfl)) ?_
    intro key published hp
    rw [writes.published_eq, Dictionary.get?_set] at hp
    split at hp
    · rw [← Option.some.inj hp]
      exact h.publicationHolds stored state isCandidate authoritative receiptStored authorizes
        writes.drafts_eq writes.operational_eq
    · refine (h.published key published hp).mono ?_ (writes.operational_eq ▸ fun _ _ hr => hr)
      rw [writes.drafts_eq]
      refine keepsReview_set fun found hfound hclosed => ?_
      rw [stored] at hfound
      rw [← Option.some.inj hfound] at hclosed
      simp [IsClosed, state] at hclosed
  | superseded actor manifestId supersededVersion replacementVersion published replacement
      source reason relation now stored sourceStored state unsuperseded replacementStored
      successor relates writes =>
    refine h.write writes.drafts_eq writes.operational_eq
      ((h.drafts _ _ sourceStored).close (.inr rfl)) ?_
    rw [writes.published_eq]
    intro key version hp
    refine (h.published key version hp).mono ?_ (writes.operational_eq ▸ fun _ _ hr => hr)
    rw [writes.drafts_eq]
    refine keepsReview_set fun found hfound hclosed => ?_
    rw [h.drafts_keyed _ _ sourceStored, sourceStored] at hfound
    rw [← Option.some.inj hfound]
    exact ⟨.inr rfl, rfl, rfl, rfl⟩
  | receiptIssued receipt fresh issued =>
    subst issued
    have hgrow : ∀ key found, s.operationalContextReceipts.get? key = some found →
        (s.operationalContextReceipts.set receipt.receiptId receipt).get? key = some found := by
      intro key found hf
      rw [Dictionary.get?_set_of_ne]
      · exact hf
      · rintro rfl
        rw [fresh] at hf
        cases hf
    refine ⟨h.drafts_keyed, ?_, h.known, ?_, ?_⟩
    · intro key found hf
      rw [Dictionary.get?_set] at hf
      split at hf
      · rename_i hkey
        rw [← Option.some.inj hf, hkey]
      · exact h.receipts_keyed key found hf
    · intro draftId draft hd
      exact (h.drafts draftId draft hd).add_receipts hgrow
    · intro key published hp
      exact (h.published key published hp).mono
        (fun _ source hs hc => ⟨source, hs, hc, rfl, rfl, rfl⟩) hgrow
  | unchanged drafts_eq published_eq supersessions_eq operational_eq =>
    exact h.same drafts_eq published_eq operational_eq

/-- Recording the drafts of the store keeps the invariant. -/
theorem ReviewInvariant.record (h : ReviewInvariant s history) :
    ReviewInvariant s (history ++ s.drafts.values) where
  drafts_keyed := h.drafts_keyed
  receipts_keyed := h.receipts_keyed
  known := by
    intro record hr
    rcases List.mem_append.mp hr with hr | hr
    · exact h.known record hr
    · obtain ⟨draftId, hd⟩ := Dictionary.mem_values.mp hr
      rw [h.drafts_keyed draftId record hd, hd]
      simp
  drafts := by
    intro draftId draft hd
    refine (h.drafts draftId draft hd).add_records fun record hr hid => ?_
    obtain ⟨key, hk⟩ := Dictionary.mem_values.mp hr
    have hkey := h.drafts_keyed key record hk
    rw [← hkey, hid, h.drafts_keyed draftId draft hd, hd] at hk
    exact (Option.some.inj hk).symm
  published := h.published

/-- Every state of a recorded run keeps the invariant. -/
theorem reviewInvariant {x : RecordedStore γ δ R} (h : (recordedSystem S).Reachable x) :
    ReviewInvariant x.store x.history := by
  refine TransitionSystem.Reachable.invariant (P := fun x => ReviewInvariant x.store x.history)
    ?_ ?_ h
  · rintro ⟨store, history⟩ ⟨⟨others, rfl⟩, rfl⟩
    refine ⟨?_, ?_, by simp, ?_, ?_⟩
    all_goals
      intro _ _ hd
      cases hd
  · rintro x event y _ hx ⟨hstore, hhistory⟩
    obtain ⟨v, u, hv, hvu, hu⟩ := storeAfter_lifecycleChange (S := S) (s := x.store) event
    have hx := hx.same hv.drafts_eq hv.published_eq hv.operational_eq
    have hx : ReviewInvariant u x.history := by
      rcases hvu with hstep | rfl
      · exact hx.step hstep
      · exact hx
    rw [← hstore] at hu
    rw [hhistory]
    exact (hx.same hu.drafts_eq hu.published_eq hu.operational_eq).record

/-- Every draft of every reachable store agrees with its records, and every published
version was reviewed: it was submitted, approved in review two revisions and approved one
revision before it, each under a receipt for that revision, all for the published digest,
and no revision of its draft from the submission on carried another manifest. -/
theorem published_reviewed {x : RecordedStore γ δ R} (h : (recordedSystem S).Reachable x) :
    (∀ draft ∈ x.store.drafts.values, StateAgrees draft) ∧
      ∀ published ∈ x.store.published.values, PublicationReviewed x published := by
  have hinv := reviewInvariant h
  constructor
  · intro draft hd
    obtain ⟨draftId, hd⟩ := Dictionary.mem_values.mp hd
    exact (hinv.drafts draftId draft hd).agrees
  · intro published hp
    obtain ⟨key, hp⟩ := Dictionary.mem_values.mp hp
    obtain ⟨source, submission, review, hsource, _, hmanifest, hreview, hdigest, hle, hmem,
      hdecision, hrevision, hreviewDigest, happroved, happroval, hid, hfirst, hsecond⟩ :=
      hinv.published key published hp
    refine ⟨source, submission, review, hsource, hreview, hdigest, hle, hmem, hdecision,
      hrevision, hreviewDigest, happroved, happroval, hid, hfirst, hsecond, ?_⟩
    intro record hr hrecord hfrom _
    have hsame : record.draftId = source.draftId := by
      rw [hrecord, hinv.drafts_keyed _ _ hsource]
    rw [(hinv.drafts _ _ hsource).carried submission hreview record hr hsame hfrom, hmanifest]

end Store

/-- Every reachable store is reached with some record. -/
theorem exists_recorded {s : Store γ δ R} (h : (contextSystem S).Reachable s) :
    ∃ history, (recordedSystem S).Reachable ⟨s, history⟩ := by
  induction h with
  | start hinit => exact ⟨[], .start ⟨hinit, rfl⟩⟩
  | @next s t event _ hstep ih =>
    obtain ⟨history, hr⟩ := ih
    have hnext : (recordedSystem S).step ⟨s, history⟩ event ⟨t, history ++ t.drafts.values⟩ :=
      ⟨hstep, rfl⟩
    exact ⟨_, .next hr hnext⟩

/-- A recorded run through a list of events. -/
def recordEvents (S : ContextService γ δ R) (x : RecordedStore γ δ R)
    (events : List (StoreEvent (Manifest γ) R)) : RecordedStore γ δ R :=
  events.foldl (fun x event => { store := storeAfter S x.store event
                                 history := x.history ++ (storeAfter S x.store event).drafts.values }) x

theorem reachable_recordEvents (events : List (StoreEvent (Manifest γ) R))
    {x : RecordedStore γ δ R} (h : (recordedSystem S).Reachable x) :
    (recordedSystem S).Reachable (recordEvents S x events) := by
  induction events generalizing x with
  | nil => exact h
  | cons event rest ih => exact ih (.next h ⟨rfl, rfl⟩)

/-- Two releases of `orders`, recorded. -/
def recordedOrders : RecordedStore ℕ ℕ Unit :=
  recordEvents plainService ⟨.empty (), []⟩ ordersReleases

theorem published_reviewed_orders :
    recordedOrders.store.published.values.length = 2 ∧
      (∀ draft ∈ recordedOrders.store.drafts.values, StateAgrees draft) ∧
      ∀ published ∈ recordedOrders.store.published.values,
        PublicationReviewed recordedOrders published := by
  have h := published_reviewed
    (reachable_recordEvents _ (.start ⟨⟨(), rfl⟩, rfl⟩) :
      (recordedSystem plainService).Reachable recordedOrders)
  exact ⟨by decide +kernel, h⟩

end AthenaContext.ReviewedPublication
