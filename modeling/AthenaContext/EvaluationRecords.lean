import AthenaContext.ContextMutations
import AthenaContext.JsonText

/-!
# Records of demo evaluations

What the publication of a demo evaluation reads and stores: role grants, approvals, the
trusted signing key, published versions with their resolved profile, and the stored
evaluations. Each authority is pinned by a token of its revision and its digest. The parts of
evidence and policy that only their own contracts look into are types of the parameter `E`.
-/

namespace AthenaContext.EvaluationRecords

open ContextRecords ContextStorage ContextMutations Dictionaries

/-! ## Errors -/

/-- The error classes of an evaluation: those of the context API, and its own. -/
inductive EvaluationErrorCode
  | context (code : ErrorCode)
  | demoEvaluationApproval
  | demoEvaluationConfiguration
  | evaluationFailedClosed
  | evidenceCollectionRejected
  deriving DecidableEq, Repr

structure EvaluationError where
  code : EvaluationErrorCode
  message : String
  deriving DecidableEq, Repr

/-- An error of the context API. -/
def ofContext (e : ContextError) : EvaluationError := ⟨.context e.code, e.message⟩

/-! ## Grants -/

inductive Role
  | proposer | reviewer | approver | publisher | reader | auditor | operationalContextIssuer
  deriving DecidableEq, Repr

/-- `_ROLE_PERMISSIONS` -/
def Role.permissions : Role → List Permission
  | .proposer => [.createDraft, .read, .list, .updateDraft, .validate, .submit]
  | .reviewer => [.read, .list, .audit, .review]
  | .approver => [.read, .list, .audit, .approve]
  | .publisher => [.read, .list, .audit, .publish, .supersede]
  | .reader => [.read, .list]
  | .auditor => [.read, .list, .audit]
  | .operationalContextIssuer => [.read, .issueOperationalContext]

/-- `_HUMAN_ONLY` -/
def humanOnly : List Permission := [.review, .approve, .publish, .supersede]

/-- The value of a permission. -/
def permissionValue : Permission → String
  | .createDraft => "create_draft"
  | .read => "read"
  | .list => "list"
  | .updateDraft => "update_draft"
  | .validate => "validate"
  | .submit => "submit"
  | .review => "review"
  | .approve => "approve"
  | .publish => "publish"
  | .supersede => "supersede"
  | .audit => "audit"
  | .issueOperationalContext => "issue_operational_context"

inductive GrantScope
  | allWorkloads
  | workload (workloadId : String)
  deriving DecidableEq, Repr

structure RoleGrant where
  actorId : String
  role : Role
  scope : GrantScope := .allWorkloads
  deriving DecidableEq, Repr

/-! ## Approvals and commands -/

/-- `EvidenceScope`, as the object that it dumps to. -/
structure EvidenceScope where
  dump : JsonText.Json

/-- `EvidenceResponseBounds` -/
structure EvidenceResponseBounds where
  maxResponseBytes : ℕ
  maxItems : ℕ
  maxRecordBytes : ℕ
  freshnessSeconds : ℕ
  timeoutMilliseconds : ℕ
  deriving DecidableEq, Repr

structure DemoEvaluationCommand where
  approvalDecisionId : String
  attemptId : String
  snapshotId : String
  manifestId : String
  manifestVersion : ManifestVersion
  expectedManifestDigest : String
  profileId : String
  expectedResolvedProfileDigest : String
  authorizedScope : EvidenceScope
  bounds : EvidenceResponseBounds
  reason : String

inductive ApprovalStatus
  | authorized | revoked
  deriving DecidableEq, Repr

structure DemoEvaluationApproval where
  decisionId : String
  status : ApprovalStatus
  revision : ℕ
  revokedAt : Option Timestamp
  approvedBy : Actor
  approvedAt : Timestamp
  expiresAt : Timestamp
  manifestId : String
  manifestVersion : ManifestVersion
  manifestDigest : String
  profileId : String
  authorizedScope : EvidenceScope
  privateMcpEndpoint : String
  evidenceIdentityObjectId : String
  reason : String

/-- `DemoEvaluationApproval.validate_human_decision` -/
def validateHumanDecision (approval : DemoEvaluationApproval) : Except EvaluationError Unit :=
  let refuse := fun message => Except.error ⟨.context .validation, message⟩
  if approval.approvedBy.kind ≠ .human then
    refuse "demo evaluation approval must be a human decision"
  else if approval.expiresAt ≤ approval.approvedAt then
    refuse "demo evaluation approval must expire after approval"
  else if approval.status = .authorized ∧ approval.revokedAt ≠ none then
    refuse "an authorized demo evaluation approval cannot be revoked"
  else if approval.status = .revoked ∧ ¬ approval.revokedAt.any (approval.approvedAt ≤ ·) then
    refuse "a revoked demo evaluation approval requires revokedAt"
  else .ok ()

structure CreateDemoEvaluationApprovalCommand where
  decisionId : String
  expiresAt : Timestamp
  manifestId : String
  manifestVersion : ManifestVersion
  manifestDigest : String
  profileId : String
  authorizedScope : EvidenceScope
  reason : String

structure RevokeDemoEvaluationApprovalCommand where
  expectedRevision : ℕ
  reason : String
  deriving DecidableEq, Repr

/-! ## The trusted key -/

structure TrustedKeyAnchor where
  keyVaultKeyId : String
  keyName : String
  keyVersion : String
  publicKeyFingerprint : String
  deriving DecidableEq, Repr

/-- `TrustedKeyRecord`; the fingerprint of its anchor is that of its public key. -/
structure TrustedKeyRecord where
  anchor : TrustedKeyAnchor
  enabled : Bool
  activatedAt : Timestamp
  retiredAt : Option Timestamp
  expiresAt : Option Timestamp
  deriving DecidableEq, Repr

structure EvaluationTrustedKeyAuthority where
  record : TrustedKeyRecord
  revision : ℕ
  revokedAt : Option Timestamp
  deriving DecidableEq, Repr

/-! ## Authority tokens -/

/-- `PublishedContextAuthorityToken`; its selection mode can only be `exactVersion`. -/
structure PublishedContextAuthorityToken where
  manifestId : String
  manifestVersion : ManifestVersion
  manifestDigest : String
  sourceDraftId : String
  revision : ℕ
  etag : String
  profileId : String
  resolvedProfileDigest : String
  deriving DecidableEq, Repr

structure ApprovalAuthorityToken where
  decisionId : String
  revision : ℕ
  decisionDigest : String
  deriving DecidableEq, Repr

structure AuthorizationGrantToken where
  actorId : String
  permission : Permission
  manifestId : String
  grantRevision : ℕ
  grantDigest : String
  deriving DecidableEq, Repr

structure TrustedKeyAuthorityToken where
  keyVaultKeyId : String
  keyVersion : String
  publicKeyFingerprint : String
  revision : ℕ
  authorityDigest : String
  deriving DecidableEq, Repr

/-- `EvaluationAuthorityToken`, which the code compares field by field. -/
structure EvaluationAuthorityToken where
  context : PublishedContextAuthorityToken
  approval : ApprovalAuthorityToken
  authorization : AuthorizationGrantToken
  contextReaderAuthorization : AuthorizationGrantToken
  trustedKey : TrustedKeyAuthorityToken
  deriving DecidableEq, Repr

/-! ## Evidence and policy -/

/-- The contents that evidence and policy contracts look into, and nothing here does. -/
structure EvidenceTypes where
  SnapshotContent : Type
  RequestContent : Type
  Payload : Type
  FindingContent : Type
  ProfileContent : Type

variable {E : EvidenceTypes}

structure EvidenceSnapshot (E : EvidenceTypes) where
  snapshotId : String
  artifactDigest : String
  semanticDigest : String
  schemaVersion : String
  semanticContractVersion : String
  collectedAt : Timestamp
  expiresAt : Timestamp
  content : E.SnapshotContent

structure EvidenceTransportRequest (E : EvidenceTypes) where
  attemptId : String
  content : E.RequestContent

structure ValidatedEnvelope (E : EvidenceTypes) where
  kind : String
  digest : String
  payload : E.Payload

/-- What `_commit_prepared_demo_evaluation` reads of a `CollectedEvidence`. -/
structure CollectedEvidence (E : EvidenceTypes) where
  request : EvidenceTransportRequest E
  envelope : Option (ValidatedEnvelope E)

/-- `ManifestFinding`; `citations` counts its evidence references. -/
structure ManifestFinding (E : EvidenceTypes) where
  clauseId : String
  verdict : String
  citations : ℕ
  content : E.FindingContent

/-- A constraint whose proof requirement is an `EvidenceFreshnessProof`. -/
structure FreshnessConstraint where
  constraintId : String
  successVerdict : String
  maximumAgeSeconds : ℕ
  deriving DecidableEq, Repr

structure ResolvedManifestProfile (E : EvidenceTypes) where
  manifestId : String
  manifestVersion : ManifestVersion
  profileId : String
  resolvedProfileDigest : String
  freshnessConstraints : List FreshnessConstraint
  content : E.ProfileContent

/-- `ResolvedPublishedContext`: a published version with its supersession, the profile at
the time of the call, and the token of both. -/
structure ResolvedPublishedContext (γ : Type) (E : EvidenceTypes) where
  published : PublishedManifest (Manifest γ)
  supersession : Option Supersession
  profile : ResolvedManifestProfile E
  authorityToken : PublishedContextAuthorityToken

/-- `EvaluationCollectionAuthority`, as far as an evaluation reads it; the scope is that of its
reader assignment, in canonical JSON. -/
structure EvaluationCollectionAuthority where
  readerAssignmentRevision : String
  authorityDigest : String
  privateMcpEndpoint : String
  evidenceIdentityObjectId : String
  authorizedScopeJson : String
  deriving DecidableEq, Repr

/-- `EvaluationTemporalValidity` -/
structure EvaluationTemporalValidity where
  approvalActiveFrom : Timestamp
  approvalExpiresAt : Timestamp
  snapshotActiveFrom : Timestamp
  snapshotExpiresAt : Timestamp
  governanceActiveFrom : Option Timestamp
  governanceExpiresAt : Option Timestamp
  riskActiveFrom : Option Timestamp
  riskExpiresAt : Option Timestamp
  evidenceFreshUntil : Option Timestamp
  deriving DecidableEq, Repr

/-- `PreparedEvaluationArtifact` -/
structure PreparedEvaluationArtifact (E : EvidenceTypes) where
  snapshot : EvidenceSnapshot E
  approval : DemoEvaluationApproval
  resolvedProfileDigest : String
  findings : List (ManifestFinding E)
  collectionRequest : EvidenceTransportRequest E
  envelope : ValidatedEnvelope E
  temporalValidity : EvaluationTemporalValidity

/-- `_DemoEvaluationRequestRecord`: a prepared request, which its capability stands for. -/
structure DemoEvaluationRequest where
  readerActor : Actor
  actor : Actor
  idempotencyKey : String
  command : DemoEvaluationCommand
  expectedAuthority : EvaluationAuthorityToken
  collectionAuthority : EvaluationCollectionAuthority
  requestDigest : String

/-! ## Stored evaluations -/

structure StoredEvaluationMaterial (E : EvidenceTypes) where
  snapshot : EvidenceSnapshot E
  approval : DemoEvaluationApproval
  actor : Actor
  publicationActor : Actor
  resolvedProfileDigest : String
  privateMcpEndpoint : String
  authorizedScope : EvidenceScope
  reason : String
  findings : List (ManifestFinding E)

structure StoredEvaluation (E : EvidenceTypes) where
  actorId : String
  workloadId : String
  idempotencyKey : String
  requestDigest : String
  candidateDigest : String
  snapshotId : String
  publishedAt : Timestamp
  material : StoredEvaluationMaterial E
  envelopeAttemptId : String
  envelope : ValidatedEnvelope E

/-- The tables of the store that only evaluations use. -/
structure EvaluationTables (E : EvidenceTypes) where
  demoEvaluationApprovals : Dictionary String DemoEvaluationApproval
  evaluationGrants : List RoleGrant
  evaluationGrantRevision : ℕ
  evaluationReceipts : Dictionary (String × String × String) (StoredEvaluation E)
  evaluationArtifacts : Dictionary String (StoredEvaluation E)
  demoEvaluationTrustedKeys : Dictionary String EvaluationTrustedKeyAuthority

/-- The store of a service with evaluations. -/
abbrev EvaluationStore (γ δ : Type) (E : EvidenceTypes) := Store γ δ (EvaluationTables E)

end AthenaContext.EvaluationRecords
