import AthenaContext.EvaluationResults

/-!
# Authority of demo evaluations

The authority of an evaluation, read from one state of the store: the publisher's and the
reader's grants, the human approval, the published version with its supersession and its
resolved profile, and the trusted key. Each is pinned by a token, and all tokens of a request
are compared with those of its preparation.
-/

namespace AthenaContext.EvaluationAuthority

open JsonText TextNormalization ContractDocuments OrdinalCollections EventTimes
open ContextRecords ContextStorage ContextMutations EvaluationRecords EvaluationResults
open FallibleResults

variable {γ δ : Type} {E : EvidenceTypes}

/-- What an evaluation answers, or the error that it raises. -/
abbrev Outcome (α : Type) := Except EvaluationError α

def failedClosed (message : String) : EvaluationError := ⟨.evaluationFailedClosed, message⟩

def approvalError (message : String) : EvaluationError := ⟨.demoEvaluationApproval, message⟩

/-- A `ValueError` of a contract. -/
def valueError (message : String) : EvaluationError := ⟨.context .validation, message⟩

/-- The message of a profile that cannot authorize an evaluation. -/
def inactiveContext : EvaluationError :=
  failedClosed "published context/profile is missing, ambiguous, a superseded context, or has inactive governance"

/-! ## The service -/

/-- The arguments of `verify_and_evaluate_snapshot_for_publication`. -/
structure SnapshotVerification (γ : Type) (E : EvidenceTypes) where
  snapshot : EvidenceSnapshot E
  approval : DemoEvaluationApproval
  publisher : Actor
  publicationActor : Actor
  resolved : ResolvedPublishedContext γ E
  privateMcpEndpoint : String
  authorizedScope : EvidenceScope
  reason : String
  envelopeAttemptId : String
  envelope : ValidatedEnvelope E
  trustedKey : EvaluationTrustedKeyAuthority
  trustedKeyAnchor : TrustedKeyAnchor
  asOf : Timestamp

/-- A context service with evaluations: its configuration, and what it leaves to profiles,
policy and evidence. -/
structure EvaluationService (γ δ : Type) (E : EvidenceTypes) where
  contextService : ContextService γ δ (EvaluationTables E)
  renderer : Renderer E
  /-- `AuthorizationPort.require` for all workloads. -/
  requireAllWorkloads : Actor → Permission → Except ContextError Unit
  /-- `_demo_evaluation_trust` -/
  trustedKeyAnchor : Option TrustedKeyAnchor
  /-- `build_evaluation_collection_authority` on the bound configuration. -/
  buildCollectionAuthority : EvidenceScope → Except String EvaluationCollectionAuthority
  /-- `resolve_manifest_profile` -/
  resolveManifestProfile :
    Manifest γ → String → Timestamp → Except String (ResolvedManifestProfile E)
  /-- `require_active_manifest_governance` -/
  requireActiveManifestGovernance :
    Manifest γ → ResolvedManifestProfile E → Timestamp → Except String Unit
  /-- `normalize_nfc_text(profile_id).casefold()` -/
  normalizeProfileId : String → Except String String
  /-- The bounds of overrides, exceptions and risk acceptances in
  `build_evaluation_temporal_validity`: governance from and until, risk from and until. -/
  governanceBounds : Manifest γ → ResolvedManifestProfile E → Timestamp →
    (Option Timestamp × Option Timestamp) × (Option Timestamp × Option Timestamp)
  /-- `validate_evaluation_collection_binding` -/
  validateCollectionBinding : DemoEvaluationCommand → EvidenceSnapshot E →
    EvidenceTransportRequest E → ValidatedEnvelope E → EvaluationCollectionAuthority → Outcome Unit
  /-- `verify_and_evaluate_snapshot_for_publication` -/
  verifyAndEvaluateSnapshot : SnapshotVerification γ E → Outcome (List (ManifestFinding E))
  /-- `_EVIDENCE_SCOPE_ADAPTER.validate_json` -/
  readScope : String → Except String EvidenceScope
  /-- `ValidatedEnvelope.from_payload` and the JSON round trip of a request. -/
  normalizeEnvelope : ValidatedEnvelope E → Except String (ValidatedEnvelope E)
  normalizeRequest : EvidenceTransportRequest E → Except String (EvidenceTransportRequest E)
  /-- `build_evaluation_evidence_binding_digest` -/
  evidenceBindingDigest : EvidenceSnapshot E → EvidenceTransportRequest E → ValidatedEnvelope E →
    Except String String
  /-- `model_dump_json` and `model_validate_json` of an approval. -/
  writeApproval : DemoEvaluationApproval → String
  readApproval : String → Except String DemoEvaluationApproval

/-! ## Dumps -/

def textJson (text : String) : Json := .string text.toList

/-- A `datetime` in a dump; it is always inside the calendar. -/
def timeJson (t : Timestamp) : Json :=
  match eventTimeAt t with
  | some e => .string (eventText e)
  | none => .null

def optionalJson {α : Type} (dump : α → Json) : Option α → Json
  | some a => dump a
  | none => .null

def actorJson (actor : Actor) : Json :=
  .object [("actor_id".toList, textJson actor.actorId),
    ("kind".toList, textJson (actorKindText actor.kind))]

/-- The value of a role. -/
def roleValue : Role → String
  | .proposer => "proposer"
  | .reviewer => "reviewer"
  | .approver => "approver"
  | .publisher => "publisher"
  | .reader => "reader"
  | .auditor => "auditor"
  | .operationalContextIssuer => "operational_context_issuer"

def grantScopeJson : GrantScope → Json
  | .allWorkloads => .object [("scope_type".toList, textJson "all_workloads")]
  | .workload workloadId => .object [("scope_type".toList, textJson "workload"),
      ("workload_id".toList, textJson workloadId)]

def grantJson (grant : RoleGrant) : Json :=
  .object [("actor_id".toList, textJson grant.actorId), ("role".toList, textJson (roleValue grant.role)),
    ("scope".toList, grantScopeJson grant.scope)]

/-- `Supersession.model_dump(mode="json")` -/
def supersessionJson (s : Supersession) : Json :=
  .object [("manifest_id".toList, textJson s.manifestId),
    ("superseded_version".toList, textJson s.supersededVersion.text),
    ("replacement_version".toList, textJson s.replacementVersion.text),
    ("superseded_by".toList, actorJson s.supersededBy),
    ("superseded_at".toList, timeJson s.supersededAt), ("reason".toList, textJson s.reason)]

/-- The value of an approval status. -/
def approvalStatusValue : ApprovalStatus → String
  | .authorized => "authorized"
  | .revoked => "revoked"

/-- `DemoEvaluationApproval.model_dump`, without what is none. -/
def approvalJson (a : DemoEvaluationApproval) : Json :=
  .object ([("decision_id".toList, textJson a.decisionId),
      ("status".toList, textJson (approvalStatusValue a.status)),
      ("revision".toList, .number a.revision)] ++
    (a.revokedAt.toList.map fun t => ("revoked_at".toList, timeJson t)) ++
    [("approved_by".toList, actorJson a.approvedBy), ("approved_at".toList, timeJson a.approvedAt),
      ("expires_at".toList, timeJson a.expiresAt), ("manifest_id".toList, textJson a.manifestId),
      ("manifest_version".toList, textJson a.manifestVersion.text),
      ("manifest_digest".toList, textJson a.manifestDigest),
      ("profile_id".toList, textJson a.profileId),
      ("authorized_scope".toList, a.authorizedScope.dump),
      ("private_mcp_endpoint".toList, textJson a.privateMcpEndpoint),
      ("evidence_identity_object_id".toList, textJson a.evidenceIdentityObjectId),
      ("reason".toList, textJson a.reason)])

def boundsJson (b : EvidenceResponseBounds) : Json :=
  .object [("maxResponseBytes".toList, .number b.maxResponseBytes),
    ("maxItems".toList, .number b.maxItems), ("maxRecordBytes".toList, .number b.maxRecordBytes),
    ("freshnessSeconds".toList, .number b.freshnessSeconds),
    ("timeoutMilliseconds".toList, .number b.timeoutMilliseconds)]

/-- `DemoEvaluationCommand.model_dump` -/
def commandMembers (c : DemoEvaluationCommand) : List (Text × Json) :=
  [("approval_decision_id".toList, textJson c.approvalDecisionId),
    ("attempt_id".toList, textJson c.attemptId), ("snapshot_id".toList, textJson c.snapshotId),
    ("manifest_id".toList, textJson c.manifestId),
    ("manifest_version".toList, textJson c.manifestVersion.text),
    ("expected_manifest_digest".toList, textJson c.expectedManifestDigest),
    ("profile_id".toList, textJson c.profileId),
    ("expected_resolved_profile_digest".toList, textJson c.expectedResolvedProfileDigest),
    ("authorized_scope".toList, c.authorizedScope.dump), ("bounds".toList, boundsJson c.bounds),
    ("reason".toList, textJson c.reason)]

/-! ## Tokens -/

namespace EvaluationService

variable (S : EvaluationService γ δ E)

/-- `compute_artifact_digest` -/
def artifactDigest (payload : Json) : Outcome String :=
  match S.renderer.artifactDigest payload with
  | some digest => .ok (String.ofList digest)
  | none => .error (valueError "value has no canonical JSON")

/-- `canonical_json()` of a scope. -/
def scopeText (scope : EvidenceScope) : Outcome Text :=
  match canonicalDump S.renderer.runtime S.renderer.tables scope.dump with
  | some text => .ok text
  | none => .error (valueError "scope has no canonical JSON")

/-- Whether a grant gives an actor a permission for a workload. -/
def grantMatches (actor : Actor) (permission : Permission) (manifestId : String)
    (grant : RoleGrant) : Bool :=
  grant.actorId = actor.actorId && grant.role.permissions.contains permission &&
    (grant.scope = .allWorkloads || grant.scope = .workload manifestId)

/-- `authorize_role_grants` -/
def authorizeRoleGrants (actor : Actor) (permission : Permission) (manifestId : String)
    (grants : List RoleGrant) (grantRevision : ℕ) : Outcome AuthorizationGrantToken := do
  let denied := fun message => EvaluationError.mk (.context .authorizationDenied) message
  if humanOnly.contains permission ∧ actor.kind ≠ .human then
    throw (denied (permissionValue permission ++ " requires a human actor"))
  if manifestId = "*" then throw (denied "'*' is not a workload identifier")
  let matching := grants.filter (grantMatches actor permission manifestId)
  if matching = [] then
    throw (denied ("actor '" ++ actor.actorId ++ "' is not authorized for " ++
      permissionValue permission))
  let keyed ← matching.mapM fun grant => do
    let key ← S.artifactDigest (grantJson grant)
    pure (key, grantJson grant)
  let grantDigest ← S.artifactDigest (.object
    [("actorId".toList, textJson actor.actorId),
      ("permission".toList, textJson (permissionValue permission)),
      ("manifestId".toList, textJson manifestId),
      ("grants".toList, .array ((sortOn Prod.fst keyed).map Prod.snd))])
  pure ⟨actor.actorId, permission, manifestId, grantRevision, grantDigest⟩

/-- `DemoEvaluationApproval.authority_token` -/
def approvalToken (approval : DemoEvaluationApproval) : Outcome ApprovalAuthorityToken := do
  let decisionDigest ← S.artifactDigest (approvalJson approval)
  pure ⟨approval.decisionId, approval.revision, decisionDigest⟩

/-- The token of `seal_evaluation_trusted_key_authority`. -/
def trustedKeyToken (authority : EvaluationTrustedKeyAuthority) :
    Outcome TrustedKeyAuthorityToken := do
  let record := authority.record
  let anchor := record.anchor
  let authorityDigest ← S.artifactDigest (.object
    [("keyVaultKeyId".toList, textJson anchor.keyVaultKeyId),
      ("keyName".toList, textJson anchor.keyName),
      ("keyVersion".toList, textJson anchor.keyVersion),
      ("publicKeyFingerprint".toList, textJson anchor.publicKeyFingerprint),
      ("enabled".toList, .boolean record.enabled),
      ("activatedAt".toList, timeJson record.activatedAt),
      ("retiredAt".toList, optionalJson timeJson record.retiredAt),
      ("expiresAt".toList, optionalJson timeJson record.expiresAt),
      ("revokedAt".toList, optionalJson timeJson authority.revokedAt),
      ("revision".toList, .number authority.revision)])
  pure ⟨anchor.keyVaultKeyId, anchor.keyVersion, anchor.publicKeyFingerprint, authority.revision,
    authorityDigest⟩

/-- `build_published_context_authority_token` -/
def publishedContextToken (published : PublishedManifest (Manifest γ))
    (supersession : Option Supersession) (profile : ResolvedManifestProfile E)
    (requestedManifestVersion : ManifestVersion) : Outcome PublishedContextAuthorityToken := do
  if requestedManifestVersion ≠ published.manifestVersion then
    throw (valueError "explicit context selection does not match the resolved version")
  let revision := published.sourceDraftRevision + if supersession.isSome then 1 else 0
  let etag ← S.artifactDigest (.object
    [("selectionMode".toList, textJson "exactVersion"),
      ("requestedManifestVersion".toList, textJson requestedManifestVersion.text),
      ("manifestId".toList, textJson published.manifestId),
      ("manifestVersion".toList, textJson published.manifestVersion.text),
      ("manifestDigest".toList, textJson published.manifestDigest),
      ("sourceDraftId".toList, textJson published.sourceDraftId),
      ("revision".toList, .number revision),
      ("supersession".toList, optionalJson supersessionJson supersession),
      ("profileId".toList, textJson profile.profileId),
      ("resolvedProfileDigest".toList, textJson profile.resolvedProfileDigest)])
  pure ⟨published.manifestId, published.manifestVersion, published.manifestDigest,
    published.sourceDraftId, revision, etag, profile.profileId, profile.resolvedProfileDigest⟩

/-- `ResolvedPublishedContext` of a version: its token is built from it, and the profile is its
own. -/
def resolvedContext (published : PublishedManifest (Manifest γ)) (supersession : Option Supersession)
    (profile : ResolvedManifestProfile E) (requestedManifestVersion : ManifestVersion) :
    Outcome (ResolvedPublishedContext γ E) := do
  let token ← S.publishedContextToken published supersession profile requestedManifestVersion
  if profile.manifestId ≠ published.manifestId ∨
      profile.manifestVersion ≠ published.manifestVersion then
    throw (valueError "resolved profile or authority token does not match the publication")
  pure ⟨published, supersession, profile, token⟩

end EvaluationService

/-! ## The unit of work -/

/-- `TransactionEvaluationAuthorityUnitOfWork` over one state of the store. -/
structure UnitOfWork (γ δ : Type) (E : EvidenceTypes) where
  service : EvaluationService γ δ E
  store : EvaluationStore γ δ E
  readerActor : Actor

namespace UnitOfWork

variable (W : UnitOfWork γ δ E)

/-- `authorize` -/
def authorize (actor : Actor) (permission : Permission) (manifestId : String) :
    Outcome AuthorizationGrantToken :=
  W.service.authorizeRoleGrants actor permission manifestId W.store.others.evaluationGrants
    W.store.others.evaluationGrantRevision

/-- `resolve_context` of an exact version. -/
def resolveContext (manifestId : String) (manifestVersion : ManifestVersion) (profileId : String)
    (asOf : Timestamp) : Outcome (ResolvedPublishedContext γ E × AuthorizationGrantToken) := do
  match W.store.published.get? (manifestId, manifestVersion) with
  | none => throw ⟨.context .resourceNotFound, "manifest version " ++ manifestId ++ "/" ++
      manifestVersion.text ++ " was not found"⟩
  | some published =>
    let readerAuthorization ← W.authorize W.readerActor .read manifestId
    let supersession :=
      W.store.supersessions.get? (published.manifestId, published.manifestVersion)
    let profile ← (W.service.resolveManifestProfile published.manifest profileId asOf).mapError
      valueError
    let resolved ← W.service.resolvedContext published supersession profile manifestVersion
    pure (resolved, readerAuthorization)

/-- `load_receipt`: a receipt, unless the key is one of another workload. -/
def loadReceipt (actorId workloadId idempotencyKey : String) :
    Outcome (Option (StoredEvaluation E)) :=
  let receipts := W.store.others.evaluationReceipts
  match receipts.get? (actorId, workloadId, idempotencyKey) with
  | some artifact => .ok (some artifact)
  | none =>
    if ∃ key ∈ receipts.keys, key.1 = actorId ∧ key.2.2 = idempotencyKey then
      .error ⟨.context .idempotencyConflict,
        "evaluation idempotency key belongs to a different workload"⟩
    else .ok none

/-- `resolve_trusted_key`: the key of exactly this anchor. -/
def resolveTrustedKey (anchor : TrustedKeyAnchor) : Option EvaluationTrustedKeyAuthority :=
  (W.store.others.demoEvaluationTrustedKeys.get? anchor.keyVaultKeyId).filter fun authority =>
    authority.record.anchor = anchor

end UnitOfWork

/-! ## Validation -/

/-- Whether an approval is active at an instant. -/
def approvalIsActive (approval : DemoEvaluationApproval) (asOf : Timestamp) : Prop :=
  approval.status = .authorized ∧ approval.approvedAt ≤ asOf ∧ asOf < approval.expiresAt ∧
    approval.revokedAt = none

instance (approval : DemoEvaluationApproval) (asOf : Timestamp) :
    Decidable (approvalIsActive approval asOf) := by
  unfold approvalIsActive
  infer_instance

/-- `validate_trusted_key_authority`, as the condition that it checks. -/
def trustedKeyIsActive (authority : EvaluationTrustedKeyAuthority) (anchor : TrustedKeyAnchor)
    (asOf : Timestamp) : Prop :=
  authority.record.anchor = anchor ∧ authority.record.enabled = true ∧
    authority.record.activatedAt ≤ asOf ∧ (∀ t ∈ authority.record.retiredAt, asOf < t) ∧
    (∀ t ∈ authority.record.expiresAt, asOf < t) ∧ ∀ t ∈ authority.revokedAt, asOf < t

instance (authority : EvaluationTrustedKeyAuthority) (anchor : TrustedKeyAnchor)
    (asOf : Timestamp) : Decidable (trustedKeyIsActive authority anchor asOf) := by
  unfold trustedKeyIsActive
  infer_instance

/-- Where evidence is collected: the endpoint and the identity of the configuration. -/
structure CollectionEndpoint where
  privateMcpEndpoint : String
  evidenceIdentityObjectId : String
  deriving DecidableEq, Repr

def collectionEndpoint (authority : EvaluationCollectionAuthority) : CollectionEndpoint :=
  ⟨authority.privateMcpEndpoint, authority.evidenceIdentityObjectId⟩

namespace EvaluationService

variable (S : EvaluationService γ δ E)

/-- `validate_demo_evaluation_approval` -/
def validateDemoEvaluationApproval (actor : Actor) (command : DemoEvaluationCommand)
    (approval : DemoEvaluationApproval) (asOf : Timestamp) (endpoint : CollectionEndpoint) :
    Outcome Unit := do
  let mismatch := approvalError
    "approval does not authorize this exact endpoint, identity, context, and scope"
  if ¬ approvalIsActive approval asOf then
    throw (approvalError "demo evaluation approval is not active at the trusted evaluation time")
  if approval.decisionId ≠ command.approvalDecisionId ∨ approval.manifestId ≠ command.manifestId ∨
      approval.manifestVersion ≠ command.manifestVersion ∨
      approval.manifestDigest ≠ command.expectedManifestDigest ∨
      approval.profileId ≠ command.profileId then
    throw mismatch
  let approvedScope ← S.scopeText approval.authorizedScope
  let commandScope ← S.scopeText command.authorizedScope
  if approvedScope ≠ commandScope ∨
      approval.privateMcpEndpoint ≠ endpoint.privateMcpEndpoint ∨
      approval.evidenceIdentityObjectId ≠ endpoint.evidenceIdentityObjectId then
    throw mismatch
  if actor.kind ≠ .human then
    throw (approvalError "only an authorized human publisher may execute an approval")

/-- `resolve_active_manifest_profile` -/
def resolveActiveManifestProfile (manifest : Manifest γ) (profileId : String) (asOf : Timestamp) :
    Except String (ResolvedManifestProfile E) := do
  let profile ← S.resolveManifestProfile manifest profileId asOf
  S.requireActiveManifestGovernance manifest profile asOf
  pure profile

/-- `validate_published_context_binding` -/
def validatePublishedContextBinding (command : DemoEvaluationCommand)
    (approval : DemoEvaluationApproval) (context : ResolvedPublishedContext γ E) : Outcome Unit := do
  let published := context.published
  let profile := context.profile
  let mismatch := failedClosed
    "resolved published context/profile does not match the approved immutable selection"
  if published.manifestId ≠ command.manifestId ∨
      published.manifestVersion ≠ command.manifestVersion ∨
      published.manifestVersion ≠ approval.manifestVersion ∨
      published.manifestDigest ≠ command.expectedManifestDigest ∨
      published.manifestDigest ≠ approval.manifestDigest ∨
      profile.manifestId ≠ command.manifestId ∨
      profile.manifestVersion ≠ published.manifestVersion then
    throw mismatch
  let profileId ← (S.normalizeProfileId profile.profileId).mapError valueError
  if profileId ≠ command.profileId then throw mismatch
  if profile.resolvedProfileDigest ≠ command.expectedResolvedProfileDigest then
    throw (failedClosed
      "resolved profile digest does not match the requested authoritative context")

/-- What is loaded of one state before it is validated. -/
structure LoadedAuthority (γ : Type) (E : EvidenceTypes) where
  approval : DemoEvaluationApproval
  resolved : ResolvedPublishedContext γ E
  authorization : AuthorizationGrantToken
  contextReaderAuthorization : AuthorizationGrantToken
  trustedKey : EvaluationTrustedKeyAuthority

/-- What is known of a validated authority. -/
structure ValidatedAuthority (γ : Type) (E : EvidenceTypes) where
  approval : DemoEvaluationApproval
  resolved : ResolvedPublishedContext γ E
  token : EvaluationAuthorityToken

/-- The profile at the time of the check; its exceptions say the context is not active. -/
def currentProfile (resolved : ResolvedPublishedContext γ E) (profileId : String)
    (asOf : Timestamp) : Outcome (ResolvedManifestProfile E) :=
  if resolved.supersession ≠ none then .error inactiveContext
  else
    match S.resolveActiveManifestProfile resolved.published.manifest profileId asOf with
    | .ok profile => .ok profile
    | .error _ => .error inactiveContext

/-- `validate_loaded_evaluation_authority` -/
def validateLoadedEvaluationAuthority (actor : Actor) (command : DemoEvaluationCommand)
    (loaded : LoadedAuthority γ E) (asOf : Timestamp) (endpoint : CollectionEndpoint)
    (trustedKeyAnchor : TrustedKeyAnchor) (expectedAuthority : Option EvaluationAuthorityToken) :
    Outcome (ValidatedAuthority γ E) := do
  S.validateDemoEvaluationApproval actor command loaded.approval asOf endpoint
  if ¬ trustedKeyIsActive loaded.trustedKey trustedKeyAnchor asOf then
    throw (failedClosed
      "trusted signing key is disabled, retired, expired, revoked, or not active at publication time")
  let profile ← S.currentProfile loaded.resolved command.profileId asOf
  let context ← S.resolvedContext loaded.resolved.published loaded.resolved.supersession profile
    command.manifestVersion
  S.validatePublishedContextBinding command loaded.approval context
  let approvalToken ← S.approvalToken loaded.approval
  let trustedKeyToken ← S.trustedKeyToken loaded.trustedKey
  let authority : EvaluationAuthorityToken :=
    { context := context.authorityToken
      approval := approvalToken
      authorization := loaded.authorization
      contextReaderAuthorization := loaded.contextReaderAuthorization
      trustedKey := trustedKeyToken }
  if ∃ expected ∈ expectedAuthority, authority ≠ expected then
    throw (failedClosed "evaluation authority revision changed before publication")
  pure ⟨loaded.approval, context, authority⟩

end EvaluationService

/-- The errors of a lookup that say the context is not active. -/
def contextLookupError (e : EvaluationError) : EvaluationError :=
  match e.code with
  | .context .ambiguousLookup => inactiveContext
  | .context .resourceNotFound => inactiveContext
  | .context .validation => inactiveContext
  | _ => e

/-- What `resolve_transaction_evaluation_authority` loads of one state. -/
def UnitOfWork.loadAuthority (W : UnitOfWork γ δ E) (actor : Actor)
    (command : DemoEvaluationCommand) (asOf : Timestamp) (trustedKeyAnchor : TrustedKeyAnchor) :
    Outcome (EvaluationService.LoadedAuthority γ E) := do
  let authorization ← W.authorize actor .publish command.manifestId
  match W.store.others.demoEvaluationApprovals.get? command.approvalDecisionId with
  | none => throw (approvalError "trusted demo evaluation approval decision was not found")
  | some approval =>
    let (resolved, readerAuthorization) ←
      (W.resolveContext command.manifestId command.manifestVersion command.profileId asOf).mapError
        contextLookupError
    match W.resolveTrustedKey trustedKeyAnchor with
    | none => throw (failedClosed "authoritative demo evaluation signing key was not found")
    | some trustedKey => pure ⟨approval, resolved, authorization, readerAuthorization, trustedKey⟩

/-- `resolve_transaction_evaluation_authority` -/
def UnitOfWork.resolveAuthority (W : UnitOfWork γ δ E) (actor : Actor)
    (command : DemoEvaluationCommand) (asOf : Timestamp) (endpoint : CollectionEndpoint)
    (trustedKeyAnchor : TrustedKeyAnchor) (expectedAuthority : Option EvaluationAuthorityToken) :
    Outcome (EvaluationService.ValidatedAuthority γ E) := do
  let loaded ← W.loadAuthority actor command asOf trustedKeyAnchor
  W.service.validateLoadedEvaluationAuthority actor command loaded asOf endpoint trustedKeyAnchor
    expectedAuthority

/-! ## What a resolution has read -/

/-- A guard that throws and is followed by the rest of a computation. -/
theorem ite_throw_ok_iff {ε α β : Type} {p : Prop} [Decidable p] {e : ε} {f : β → Except ε α}
    {x : Except ε α} {a : α} :
    (if p then (throw e : Except ε β) >>= f else x) = .ok a ↔ ¬p ∧ x = .ok a :=
  ite_error_ok_iff

namespace EvaluationService

variable {S : EvaluationService γ δ E}

theorem authorizeRoleGrants_ok {actor : Actor} {permission : Permission} {manifestId : String}
    {grants : List RoleGrant} {revision : ℕ} {token : AuthorizationGrantToken}
    (h : S.authorizeRoleGrants actor permission manifestId grants revision = .ok token) :
    token.grantRevision = revision := by
  simp only [authorizeRoleGrants, ite_throw_ok_iff, bind_ok_iff, pure_ok_iff] at h
  obtain ⟨-, -, -, -, -, digest, -, rfl⟩ := h
  rfl

theorem approvalToken_ok {approval : DemoEvaluationApproval} {token : ApprovalAuthorityToken}
    (h : S.approvalToken approval = .ok token) : token.revision = approval.revision := by
  simp only [approvalToken, bind_ok_iff, pure_ok_iff] at h
  obtain ⟨digest, -, rfl⟩ := h
  rfl

theorem trustedKeyToken_ok {authority : EvaluationTrustedKeyAuthority}
    {token : TrustedKeyAuthorityToken} (h : S.trustedKeyToken authority = .ok token) :
    token.revision = authority.revision := by
  simp only [trustedKeyToken, bind_ok_iff, pure_ok_iff] at h
  obtain ⟨digest, -, rfl⟩ := h
  rfl

theorem resolvedContext_ok {published : PublishedManifest (Manifest γ)}
    {supersession : Option Supersession} {profile : ResolvedManifestProfile E}
    {version : ManifestVersion} {context : ResolvedPublishedContext γ E}
    (h : S.resolvedContext published supersession profile version = .ok context) :
    context.published = published ∧ context.supersession = supersession ∧
      published.manifestVersion = version := by
  simp only [resolvedContext, publishedContextToken, ite_throw_ok_iff, bind_ok_iff, pure_ok_iff,
    not_not, ne_eq] at h
  obtain ⟨token, ⟨hversion, -⟩, -, rfl⟩ := h
  exact ⟨rfl, rfl, hversion.symm⟩

theorem currentProfile_ok {resolved : ResolvedPublishedContext γ E} {profileId : String}
    {asOf : Timestamp} {profile : ResolvedManifestProfile E}
    (h : S.currentProfile resolved profileId asOf = .ok profile) : resolved.supersession = none := by
  rw [currentProfile, ite_error_ok_iff, ne_eq, not_not] at h
  exact h.1

theorem validatePublishedContextBinding_ok {command : DemoEvaluationCommand}
    {approval : DemoEvaluationApproval} {context : ResolvedPublishedContext γ E}
    (h : S.validatePublishedContextBinding command approval context = .ok ()) :
    context.published.manifestId = command.manifestId ∧
      context.published.manifestVersion = command.manifestVersion := by
  simp only [validatePublishedContextBinding, ite_throw_ok_iff, not_or, ne_eq, not_not] at h
  exact ⟨h.1.1, h.1.2.1⟩

/-- What a validated authority takes from what was loaded. -/
structure TakenFrom (loaded : LoadedAuthority γ E) (command : DemoEvaluationCommand)
    (v : ValidatedAuthority γ E) : Prop where
  approval : v.approval = loaded.approval
  published : v.resolved.published = loaded.resolved.published
  supersession : loaded.resolved.supersession = none
  manifestId : loaded.resolved.published.manifestId = command.manifestId
  manifestVersion : loaded.resolved.published.manifestVersion = command.manifestVersion
  approvalRevision : v.token.approval.revision = loaded.approval.revision
  authorization : v.token.authorization = loaded.authorization
  readerAuthorization : v.token.contextReaderAuthorization = loaded.contextReaderAuthorization
  trustedKeyRevision : v.token.trustedKey.revision = loaded.trustedKey.revision

theorem validateLoadedEvaluationAuthority_ok {actor : Actor} {command : DemoEvaluationCommand}
    {loaded : LoadedAuthority γ E} {asOf : Timestamp} {endpoint : CollectionEndpoint}
    {anchor : TrustedKeyAnchor} {expected : Option EvaluationAuthorityToken}
    {v : ValidatedAuthority γ E}
    (h : S.validateLoadedEvaluationAuthority actor command loaded asOf endpoint anchor expected =
      .ok v) :
    TakenFrom loaded command v ∧ ∀ e ∈ expected, v.token = e := by
  simp only [validateLoadedEvaluationAuthority, bind_ok_iff, ite_throw_ok_iff, pure_ok_iff] at h
  obtain ⟨_, happroval, -, profile, hprofile, context, hcontext, _, hbinding, approvalToken,
    happrovalToken, keyToken, hkeyToken, hexpected, rfl⟩ := h
  obtain ⟨hpublished, -, -⟩ := resolvedContext_ok hcontext
  obtain ⟨hid, hversion⟩ := validatePublishedContextBinding_ok hbinding
  rw [hpublished] at hid hversion
  refine ⟨⟨rfl, hpublished, currentProfile_ok hprofile, hid, hversion,
    approvalToken_ok happrovalToken, rfl, rfl, trustedKeyToken_ok hkeyToken⟩, fun e he => ?_⟩
  by_contra hne
  exact hexpected ⟨e, he, hne⟩

end EvaluationService

open EvaluationService

namespace UnitOfWork

variable {W : UnitOfWork γ δ E}

/-- What a resolution has read of the store, and its versions in the tokens. -/
structure AuthorityRead (W : UnitOfWork γ δ E) (command : DemoEvaluationCommand)
    (anchor : TrustedKeyAnchor) (v : ValidatedAuthority γ E) : Prop where
  approval : W.store.others.demoEvaluationApprovals.get? command.approvalDecisionId = some v.approval
  approvalRevision : v.token.approval.revision = v.approval.revision
  grantRevision : v.token.authorization.grantRevision = W.store.others.evaluationGrantRevision
  readerGrantRevision :
    v.token.contextReaderAuthorization.grantRevision = W.store.others.evaluationGrantRevision
  published :
    W.store.published.get? (command.manifestId, command.manifestVersion) = some v.resolved.published
  manifestId : v.resolved.published.manifestId = command.manifestId
  supersession : W.store.supersessions.get? (command.manifestId, command.manifestVersion) = none
  trustedKey : ∃ key, W.store.others.demoEvaluationTrustedKeys.get? anchor.keyVaultKeyId = some key ∧
    v.token.trustedKey.revision = key.revision

theorem resolveContext_ok {manifestId profileId : String} {version : ManifestVersion}
    {asOf : Timestamp} {resolved : ResolvedPublishedContext γ E} {reader : AuthorizationGrantToken}
    (h : W.resolveContext manifestId version profileId asOf = .ok (resolved, reader)) :
    W.store.published.get? (manifestId, version) = some resolved.published ∧
      resolved.supersession = W.store.supersessions.get?
        (resolved.published.manifestId, resolved.published.manifestVersion) ∧
      reader.grantRevision = W.store.others.evaluationGrantRevision := by
  rw [resolveContext] at h
  split at h
  · cases h
  · next published hpublished =>
    simp only [bind_ok_iff, pure_ok_iff, Prod.mk.injEq] at h
    obtain ⟨token, htoken, profile, -, context, hcontext, rfl, rfl⟩ := h
    obtain ⟨rfl, hsupersession, -⟩ := resolvedContext_ok hcontext
    exact ⟨hpublished, hsupersession, authorizeRoleGrants_ok htoken⟩

theorem resolveAuthority_ok {actor : Actor} {command : DemoEvaluationCommand} {asOf : Timestamp}
    {endpoint : CollectionEndpoint} {anchor : TrustedKeyAnchor}
    {expected : Option EvaluationAuthorityToken} {v : ValidatedAuthority γ E}
    (h : W.resolveAuthority actor command asOf endpoint anchor expected = .ok v) :
    W.AuthorityRead command anchor v ∧ ∀ e ∈ expected, v.token = e := by
  rw [resolveAuthority, bind_ok_iff] at h
  obtain ⟨loaded, hload, hvalidate⟩ := h
  obtain ⟨htaken, hexpected⟩ := validateLoadedEvaluationAuthority_ok hvalidate
  refine ⟨?_, hexpected⟩
  simp only [loadAuthority, bind_ok_iff] at hload
  obtain ⟨authorization, hauthorization, hload⟩ := hload
  split at hload
  · cases hload
  · next approval happroval =>
    simp only [bind_ok_iff, mapError_ok_iff] at hload
    obtain ⟨⟨resolved, reader⟩, hresolved, hload⟩ := hload
    split at hload
    · cases hload
    · next key hkey =>
      rw [pure_ok_iff] at hload
      subst hload
      obtain ⟨hpublished, hsupersession, hreader⟩ := resolveContext_ok hresolved
      have hid := htaken.manifestId
      have hversion := htaken.manifestVersion
      have hnone := htaken.supersession
      rw [hsupersession, hid, hversion] at hnone
      exact
        { approval := htaken.approval ▸ happroval
          approvalRevision := htaken.approval ▸ htaken.approvalRevision
          grantRevision := htaken.authorization ▸ authorizeRoleGrants_ok hauthorization
          readerGrantRevision := htaken.readerAuthorization ▸ hreader
          published := htaken.published ▸ hpublished
          manifestId := htaken.published ▸ hid
          supersession := hnone
          trustedKey := ⟨key, (Option.filter_eq_some_iff.mp hkey).1, htaken.trustedKeyRevision⟩ }

end UnitOfWork

end AthenaContext.EvaluationAuthority
