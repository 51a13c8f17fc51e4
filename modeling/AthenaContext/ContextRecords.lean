import Mathlib

/-!
# Context records

The records of the context API: actors, drafts with their validation, review,
publication candidate and approval, published versions, supersessions, audit
events, mutation receipts, operational context receipts, and the commands that
ask for changes. A record that carries a manifest takes its type as a parameter,
so that the same record describes a stored value and its JSON dump. Texts that
the contracts bound only by a pattern or a length are plain strings here; time is
counted in milliseconds.
-/

namespace AthenaContext.ContextRecords

/-- A UTC instant in milliseconds. -/
abbrev Timestamp := ℤ

/-! ## Actors and permissions -/

inductive ActorKind
  | human
  | agent
  | service
  deriving DecidableEq, Repr

structure Actor where
  actorId : String
  kind : ActorKind
  deriving DecidableEq, Repr

inductive Permission
  | createDraft
  | read
  | list
  | updateDraft
  | validate
  | submit
  | review
  | approve
  | publish
  | supersede
  | audit
  | issueOperationalContext
  deriving DecidableEq, Repr

/-! ## Manifests -/

/-- A version text of the pattern `major.minor.patch`, without leading zeros. -/
structure ManifestVersion where
  major : ℕ
  minor : ℕ
  patch : ℕ
  deriving DecidableEq, Repr

/-- `_version_key`. -/
def ManifestVersion.versionKey (v : ManifestVersion) : ℕ ×ₗ ℕ ×ₗ ℕ :=
  toLex (v.major, toLex (v.minor, v.patch))

/-- The text of a version. -/
def ManifestVersion.text (v : ManifestVersion) : String :=
  toString v.major ++ "." ++ toString v.minor ++ "." ++ toString v.patch

/-- `CanonicalManifestAudit`; its approval status can only be `approved`. -/
structure CanonicalManifestAudit where
  publishedBy : String
  publishedAt : Timestamp
  approvalStatus : String := "approved"
  deriving DecidableEq, Repr

/-- `CanonicalWorkloadManifest`: the fields the context service reads, and the rest
of its content. -/
structure CanonicalWorkloadManifest (γ : Type) where
  manifestId : String
  manifestVersion : ManifestVersion
  artifactDigest : String
  semanticDigest : String
  audit : CanonicalManifestAudit
  content : γ
  deriving DecidableEq, Repr

/-! ## Drafts -/

inductive DraftState
  | draft
  | validated
  | inReview
  | approved
  | published
  | superseded
  deriving DecidableEq, Repr

/-- The value of a state. -/
def DraftState.value : DraftState → String
  | .draft => "draft"
  | .validated => "validated"
  | .inReview => "in_review"
  | .approved => "approved"
  | .published => "published"
  | .superseded => "superseded"

structure ValidationRecord where
  validatedBy : Actor
  validatedAt : Timestamp
  validatedRevision : ℕ
  manifestDigest : String
  deriving DecidableEq, Repr

structure ReviewSubmission where
  submittedBy : Actor
  submittedAt : Timestamp
  submittedRevision : ℕ
  publicationCandidateDigest : String
  reason : String
  deriving DecidableEq, Repr

structure PublicationCandidate where
  finalizedBy : Actor
  finalizedAt : Timestamp
  manifestVersion : ManifestVersion
  manifestDigest : String
  semanticDigest : String
  approvalStatus : String := "approved"
  deriving DecidableEq, Repr

inductive ReviewDecisionKind
  | approved
  | changesRequested
  deriving DecidableEq, Repr

structure ReviewDecision where
  decisionId : String
  decision : ReviewDecisionKind
  reviewedBy : Actor
  reviewedAt : Timestamp
  reviewedRevision : ℕ
  manifestVersion : ManifestVersion
  manifestDigest : String
  comments : String
  rejectedFields : List String
  requiredCorrections : List String
  deriving DecidableEq, Repr

structure ApprovalDecision where
  decisionId : String
  approvedBy : Actor
  approvedAt : Timestamp
  approvedRevision : ℕ
  manifestVersion : ManifestVersion
  manifestDigest : String
  reviewDecisionId : Option String
  operationalContextReceiptId : Option String
  reason : String
  deriving DecidableEq, Repr

structure DraftRecord (M : Type) where
  draftId : String
  manifestId : String
  state : DraftState
  revision : ℕ
  manifest : M
  manifestDigest : String
  previousVersion : Option ManifestVersion
  rollbackSourceVersion : Option ManifestVersion
  createdBy : Actor
  createdAt : Timestamp
  updatedBy : Actor
  updatedAt : Timestamp
  reason : String
  validation : Option ValidationRecord := none
  review : Option ReviewSubmission := none
  publicationCandidate : Option PublicationCandidate := none
  reviewDecisions : List ReviewDecision := []
  approval : Option ApprovalDecision := none
  deriving DecidableEq, Repr

/-! ## Published versions -/

structure PublishedManifest (M : Type) where
  manifestId : String
  manifestVersion : ManifestVersion
  manifestDigest : String
  manifest : M
  sourceDraftId : String
  sourceDraftRevision : ℕ
  previousVersion : Option ManifestVersion
  approval : ApprovalDecision
  publishedBy : Actor
  publishedAt : Timestamp
  publicationAuthorizedBy : Actor
  publicationAuthorizedAt : Timestamp
  operationalContextReceiptId : Option String
  reason : String
  deriving DecidableEq, Repr

structure Supersession where
  manifestId : String
  supersededVersion : ManifestVersion
  replacementVersion : ManifestVersion
  supersededBy : Actor
  supersededAt : Timestamp
  reason : String
  deriving DecidableEq, Repr

/-! ## Selector baselines -/

/-- `SelectorProvenanceEntry`. -/
structure SelectorProvenanceEntry where
  profileId : Option String
  roleId : String
  selectorPath : List String
  selectorId : String
  selectorVariant : String
  semanticDigest : String
  deriving DecidableEq, Repr

/-- `DraftSelectorBaselineReference`. -/
structure DraftSelectorBaselineReference where
  draftId : String
  manifestId : String
  manifestVersion : ManifestVersion
  sourceManifestDigest : String
  selectorProvenanceDigest : String
  capturedBy : Actor
  capturedAt : Timestamp
  deriving DecidableEq, Repr

/-- `DraftSelectorBaseline`: the selectors of a draft at its creation. -/
structure DraftSelectorBaseline where
  draftId : String
  manifestId : String
  manifestVersion : ManifestVersion
  sourceManifestDigest : String
  selectorProvenanceDigest : String
  inferredPredecessor : Option DraftSelectorBaselineReference
  entries : List SelectorProvenanceEntry
  capturedBy : Actor
  capturedAt : Timestamp
  deriving DecidableEq, Repr

/-! ## Audit -/

inductive AuditAction
  | draftCreated
  | draftReplaced
  | draftValidated
  | reviewSubmitted
  | reviewRecorded
  | draftApproved
  | versionPublished
  | versionSuperseded
  | demoEvaluationApprovalCreated
  | demoEvaluationApprovalRevoked
  | cohortDecisionRecorded
  deriving DecidableEq, Repr

structure PendingAuditEvent where
  occurredAt : Timestamp
  actor : Actor
  action : AuditAction
  manifestId : String
  draftId : Option String := none
  revision : Option ℕ := none
  previousRevision : Option ℕ := none
  manifestVersion : Option ManifestVersion := none
  previousVersion : Option ManifestVersion := none
  replacementVersion : Option ManifestVersion := none
  publicationActor : Option Actor := none
  publicationTimestamp : Option Timestamp := none
  manifestDigest : String
  reason : String
  deriving DecidableEq, Repr

/-- `AuditEvent`: a pending event with its place in the history. -/
structure AuditEvent extends PendingAuditEvent where
  sequence : ℕ
  eventId : String
  previousEventDigest : Option String
  eventDigest : String
  deriving DecidableEq, Repr

/-! ## Operational context receipts -/

structure OperationalEvidenceInventoryItem where
  evidenceRef : String
  evidenceDigest : String
  deriving DecidableEq, Repr

structure IssueOperationalContextReceiptCommand where
  manifestId : String
  manifestVersion : ManifestVersion
  profileId : String
  draftId : String
  draftRevision : ℕ
  manifestDigest : String
  profileDigest : String
  snapshotId : String
  collectedAt : Timestamp
  expiresAt : Timestamp
  evidenceInventory : List OperationalEvidenceInventoryItem
  evidenceInventoryDigest : String
  contentDigest : String
  bindingDigest : String
  deriving DecidableEq, Repr

structure OperationalContextReceipt where
  receiptId : String
  issuedBy : Actor
  issuedAt : Timestamp
  manifestId : String
  manifestVersion : ManifestVersion
  profileId : String
  draftId : String
  draftRevision : ℕ
  manifestDigest : String
  profileDigest : String
  snapshotId : String
  collectedAt : Timestamp
  expiresAt : Timestamp
  evidenceCount : ℕ
  evidenceInventoryDigest : String
  contentDigest : String
  bindingDigest : String
  receiptDigest : String
  deriving DecidableEq, Repr

/-! ## Commands -/

structure CreateDraftCommand (M : Type) where
  draftId : String
  manifest : M
  manifestDigest : String
  previousVersion : Option ManifestVersion := none
  rollbackSourceVersion : Option ManifestVersion := none
  reason : String
  deriving DecidableEq, Repr

structure ReplaceDraftCommand (M : Type) where
  expectedRevision : ℕ
  expectedManifestVersion : ManifestVersion
  expectedDigest : String
  replacementManifest : M
  replacementDigest : String
  reason : String
  deriving DecidableEq, Repr

structure TransitionCommand where
  expectedRevision : ℕ
  expectedManifestVersion : ManifestVersion
  expectedDigest : String
  reason : String
  deriving DecidableEq, Repr

structure ReviewCommand extends TransitionCommand where
  decision : ReviewDecisionKind
  comments : String
  rejectedFields : List String := []
  requiredCorrections : List String := []
  deriving DecidableEq, Repr

structure ApproveCommand extends TransitionCommand where
  operationalContextReceiptId : String
  deriving DecidableEq, Repr

structure PublishCommand extends TransitionCommand where
  approvalId : String
  operationalContextReceiptId : String
  deriving DecidableEq, Repr

structure SupersedeCommand where
  expectedRevision : ℕ
  expectedManifestVersion : ManifestVersion
  expectedDigest : String
  replacementVersion : ManifestVersion
  replacementDigest : String
  reason : String
  deriving DecidableEq, Repr

/-- A command, with the manifest it may carry. -/
inductive Command (M : Type)
  | createDraft (command : CreateDraftCommand M)
  | replaceDraft (command : ReplaceDraftCommand M)
  | transition (command : TransitionCommand)
  | review (command : ReviewCommand)
  | approve (command : ApproveCommand)
  | publish (command : PublishCommand)
  | supersede (command : SupersedeCommand)
  | issue (command : IssueOperationalContextReceiptCommand)
  deriving DecidableEq, Repr

/-! ## Mutations -/

structure MutationTarget where
  draftId : Option String := none
  manifestId : Option String := none
  manifestVersion : Option ManifestVersion := none
  deriving DecidableEq, Repr

/-- What a mutation answers. -/
inductive Response (M : Type)
  | draftRecord (draft : DraftRecord M)
  | publishedManifest (published : PublishedManifest M)
  | supersession (relation : Supersession)
  | operationalContextReceipt (receipt : OperationalContextReceipt)
  deriving DecidableEq, Repr

/-- What `_mutate` digests. -/
structure MutationRequest (M : Type) where
  operation : String
  actorId : String
  target : MutationTarget
  command : Command M
  deriving DecidableEq, Repr

/-- `MutationReceipt`; its response is kept as the dump of a response, or as the
text of a response of another service. -/
structure MutationReceipt (M : Type) where
  actorId : String
  idempotencyKey : String
  operation : String
  target : MutationTarget
  requestDigest : String
  responseType : String
  responseJson : Response M ⊕ String
  deriving DecidableEq, Repr

/-! ## Manifests inside records -/

section Map

variable {M N : Type}

/-- The record with another manifest in place of its own. -/
def DraftRecord.withManifest (draft : DraftRecord M) (manifest : N) : DraftRecord N :=
  { draft with manifest := manifest }

/-- The published version with another manifest in place of its own. -/
def PublishedManifest.withManifest (published : PublishedManifest M) (manifest : N) :
    PublishedManifest N :=
  { published with manifest := manifest }

/-- A response with its manifest translated. -/
def Response.map (f : M → N) : Response M → Response N
  | .draftRecord draft => .draftRecord (draft.withManifest (f draft.manifest))
  | .publishedManifest published =>
    .publishedManifest (published.withManifest (f published.manifest))
  | .supersession relation => .supersession relation
  | .operationalContextReceipt receipt => .operationalContextReceipt receipt

/-- A response with its manifest read, where that can fail. -/
def Response.traverse {ε : Type} (f : M → Except ε N) : Response M → Except ε (Response N)
  | .draftRecord draft => do return .draftRecord (draft.withManifest (← f draft.manifest))
  | .publishedManifest published => do
    return .publishedManifest (published.withManifest (← f published.manifest))
  | .supersession relation => pure (.supersession relation)
  | .operationalContextReceipt receipt => pure (.operationalContextReceipt receipt)

/-- A command with its manifest translated. -/
def Command.map (f : M → N) : Command M → Command N
  | .createDraft command => .createDraft { command with manifest := f command.manifest }
  | .replaceDraft command =>
    .replaceDraft { command with replacementManifest := f command.replacementManifest }
  | .transition command => .transition command
  | .review command => .review command
  | .approve command => .approve command
  | .publish command => .publish command
  | .supersede command => .supersede command
  | .issue command => .issue command

end Map

end AthenaContext.ContextRecords
