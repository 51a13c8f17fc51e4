import AthenaContext.EvaluationAuthority

/-!
# Publication of demo evaluations

The two transactions of an evaluation. The first loads the authority of a request, or the
evaluation that its key already has. The second loads the authority three times more, evaluates
the collected evidence and stores the result, where every authority is still the one of the
first. The lock of the store is held throughout a transaction, so that the generation of the
store and the capability of the transaction, which both transactions also check, cannot change.
-/

namespace AthenaContext.EvaluationPublication

open JsonText TextNormalization ContractDocuments
open ContextRecords ContextMutations EvaluationRecords EvaluationResults
open EvaluationAuthority EvaluationAuthority.EvaluationService

variable {γ δ : Type} {E : EvidenceTypes}

def idempotencyConflict (message : String) : EvaluationError :=
  ⟨.context .idempotencyConflict, message⟩

def staleRevision (message : String) : EvaluationError := ⟨.context .staleRevision, message⟩

/-! ## Requests -/

/-- What `build_demo_evaluation_request_digest` digests. -/
def requestMembers (actor : Actor) (command : DemoEvaluationCommand)
    (collectionAuthority : EvaluationCollectionAuthority) : List (Text × Json) :=
  [("operation".toList, textJson "evaluate_demo_workload"), ("actor".toList, actorJson actor),
    ("command".toList, .object (commandMembers command)),
    ("collectionAuthorityDigest".toList, textJson collectionAuthority.authorityDigest),
    ("readerAssignmentRevision".toList, textJson collectionAuthority.readerAssignmentRevision)]

/-- What a preparation gives: the stored evaluation of the key, or a request to collect for. -/
inductive Prepared (γ : Type) (E : EvidenceTypes)
  | replay (artifact : StoredEvaluation E)
  | opened (approval : DemoEvaluationApproval) (resolved : ResolvedPublishedContext γ E)
      (request : DemoEvaluationRequest)

/-- The arguments of `DemoEvaluationService.evaluate`, with the reader of its service. -/
structure EvaluationCall where
  readerActor : Actor
  actor : Actor
  idempotencyKey : String
  command : DemoEvaluationCommand

section Requests

variable (S : EvaluationService γ δ E)

/-- `build_demo_evaluation_request_digest` -/
def requestDigest (actor : Actor) (command : DemoEvaluationCommand)
    (collectionAuthority : EvaluationCollectionAuthority) : Outcome String :=
  S.artifactDigest (.object (requestMembers actor command collectionAuthority))

/-- `_require_demo_evaluation_trust` -/
def requireTrust : Outcome TrustedKeyAnchor :=
  match S.trustedKeyAnchor with
  | some anchor => .ok anchor
  | none => .error (failedClosed "ContextService has no authoritative demo evaluation trust")

/-- The checks of a stored evaluation that answers a request. -/
def checkReplay (W : UnitOfWork γ δ E) (actor : Actor) (manifestId digest conflict : String)
    (replay : StoredEvaluation E) : Outcome Unit := do
  if replay.workloadId ≠ manifestId then
    throw (failedClosed "evaluation receipt workload does not match the authorized command")
  let _ ← W.authorize actor .publish replay.workloadId
  if replay.requestDigest ≠ digest then throw (idempotencyConflict conflict)

/-- The collection authority of a call, and the digest of its request. -/
def collectionRequest (call : EvaluationCall) : Outcome (EvaluationCollectionAuthority × String) := do
  let collectionAuthority ← (S.buildCollectionAuthority call.command.authorizedScope).mapError
    fun _ => approvalError ("approval does not authorize an exact configured WC-008 " ++
      "Reader assignment for this evaluation command")
  let digest ← requestDigest S call.actor call.command collectionAuthority
  pure (collectionAuthority, digest)

/-- The authority of a request that no evaluation answers. -/
def openRequest (W : UnitOfWork γ δ E) (call : EvaluationCall) (asOf : Timestamp)
    (collectionAuthority : EvaluationCollectionAuthority) (digest : String) :
    Outcome (Prepared γ E) := do
  let anchor ← requireTrust W.service
  let authority ← W.resolveAuthority call.actor call.command asOf
    (collectionEndpoint collectionAuthority) anchor none
  pure (.opened authority.approval authority.resolved
    { readerActor := call.readerActor
      actor := call.actor
      idempotencyKey := call.idempotencyKey
      command := call.command
      expectedAuthority := authority.token
      collectionAuthority := collectionAuthority
      requestDigest := digest })

/-- `_prepare_demo_evaluation_request`, up to the registration of its capability. -/
def prepareRequest (store : EvaluationStore γ δ E) (call : EvaluationCall) (asOf : Timestamp) :
    Outcome (Prepared γ E) := do
  let (collectionAuthority, digest) ← collectionRequest S call
  let W : UnitOfWork γ δ E := ⟨S, store, call.readerActor⟩
  let _ ← W.authorize call.actor .publish call.command.manifestId
  match ← W.loadReceipt call.actor.actorId call.command.manifestId call.idempotencyKey with
  | some replay =>
    checkReplay W call.actor call.command.manifestId digest
      "idempotency key was used for a different demo evaluation" replay
    pure (.replay replay)
  | none => openRequest W call asOf collectionAuthority digest

end Requests

/-! ## Preparation of an artifact -/

/-- The readings of the clocks in one commit. -/
structure CommitClock where
  initialTime : Outcome Timestamp
  authorityReadAt : Outcome Timestamp
  authorityCheckedAt : Outcome Timestamp
  publishedAt : Timestamp

/-- What was collected for a request, and signed. -/
structure CollectedSnapshot (E : EvidenceTypes) where
  snapshot : EvidenceSnapshot E
  collected : CollectedEvidence E

/-- The least of some bounds. -/
def minOption : List Timestamp → Option Timestamp
  | [] => none
  | t :: rest => some (rest.foldl min t)

section Artifacts

variable (S : EvaluationService γ δ E)

/-- `build_evaluation_temporal_validity` -/
def temporalValidity (snapshot : EvidenceSnapshot E) (approval : DemoEvaluationApproval)
    (profile : ResolvedManifestProfile E) (manifest : Manifest γ) (asOf : Timestamp) :
    EvaluationTemporalValidity :=
  let bounds := S.governanceBounds manifest profile asOf
  { approvalActiveFrom := approval.approvedAt
    approvalExpiresAt := approval.expiresAt
    snapshotActiveFrom := snapshot.collectedAt
    snapshotExpiresAt := snapshot.expiresAt
    governanceActiveFrom := bounds.1.1
    governanceExpiresAt := bounds.1.2
    riskActiveFrom := bounds.2.1
    riskExpiresAt := bounds.2.2
    evidenceFreshUntil := minOption (profile.freshnessConstraints.map fun constraint =>
      snapshot.collectedAt + constraint.maximumAgeSeconds * 1000) }

/-- `_validate_precomputed_finding_time_bounds` -/
def validateFindingTimeBounds (snapshot : EvidenceSnapshot E) (profile : ResolvedManifestProfile E)
    (findings : List (ManifestFinding E)) (asOf : Timestamp) : Outcome Unit := do
  let proves := fun constraint : FreshnessConstraint =>
    (findings.find? fun finding => finding.clauseId = constraint.constraintId).any fun finding =>
      finding.verdict = constraint.successVerdict
  if ¬ (findings.map (·.clauseId)).Nodup then
    throw (failedClosed "prepared policy findings contain duplicate clauses")
  if ∃ constraint ∈ profile.freshnessConstraints, ¬ (proves constraint = true ∧
      asOf - snapshot.collectedAt ≤ (constraint.maximumAgeSeconds : ℤ) * 1000) then
    throw (failedClosed "policy evidence freshness failed at the authoritative publication time")

/-- The arguments of the verification of a snapshot. -/
def verification (request : DemoEvaluationRequest) (endpoint : CollectionEndpoint)
    (snapshot : EvidenceSnapshot E) (approval : DemoEvaluationApproval)
    (resolved : ResolvedPublishedContext γ E) (attemptId : String) (envelope : ValidatedEnvelope E)
    (trustedKey : EvaluationTrustedKeyAuthority) (anchor : TrustedKeyAnchor) (asOf : Timestamp) :
    SnapshotVerification γ E where
  snapshot := snapshot
  approval := approval
  publisher := request.actor
  publicationActor := S.contextService.publicationActor
  resolved := resolved
  privateMcpEndpoint := endpoint.privateMcpEndpoint
  authorizedScope := request.command.authorizedScope
  reason := request.command.reason
  envelopeAttemptId := attemptId
  envelope := envelope
  trustedKey := trustedKey
  trustedKeyAnchor := anchor
  asOf := asOf

/-- `prepare_before_persistence_time`, of the authority that was read last. -/
def prepareArtifact (request : DemoEvaluationRequest) (evidence : CollectedSnapshot E)
    (envelope : ValidatedEnvelope E) (authority : ValidatedAuthority γ E)
    (anchor : TrustedKeyAnchor) (authorityReadAt : Timestamp)
    (trustedKey : EvaluationTrustedKeyAuthority) : Outcome (PreparedEvaluationArtifact E) := do
  let snapshot := evidence.snapshot
  let endpoint := collectionEndpoint request.collectionAuthority
  let loaded : LoadedAuthority γ E :=
    { approval := authority.approval
      resolved := authority.resolved
      authorization := authority.token.authorization
      contextReaderAuthorization := authority.token.contextReaderAuthorization
      trustedKey := trustedKey }
  let prepared ← S.validateLoadedEvaluationAuthority request.actor request.command loaded
    authorityReadAt endpoint anchor (some request.expectedAuthority)
  if snapshot.expiresAt ≤ authorityReadAt then
    throw (failedClosed "snapshot became stale before publication")
  S.validateCollectionBinding request.command snapshot evidence.collected.request envelope
    request.collectionAuthority
  let verificationMaterial : StoredEvaluationMaterial E :=
    { snapshot := snapshot
      approval := prepared.approval
      actor := request.actor
      publicationActor := S.contextService.publicationActor
      resolvedProfileDigest := prepared.resolved.profile.resolvedProfileDigest
      privateMcpEndpoint := endpoint.privateMcpEndpoint
      authorizedScope := request.command.authorizedScope
      reason := request.command.reason
      findings := [] }
  if S.renderer.buildAuthorizedPublication verificationMaterial authorityReadAt = none then
    throw (valueError "publication record is not valid")
  let findings ← S.verifyAndEvaluateSnapshot (verification S request endpoint snapshot
    prepared.approval prepared.resolved evidence.collected.request.attemptId envelope trustedKey
    anchor authorityReadAt)
  validateFindingTimeBounds snapshot prepared.resolved.profile findings authorityReadAt
  pure
    { snapshot := snapshot
      approval := prepared.approval
      resolvedProfileDigest := prepared.resolved.profile.resolvedProfileDigest
      findings := findings
      collectionRequest := evidence.collected.request
      envelope := envelope
      temporalValidity := temporalValidity S snapshot prepared.approval prepared.resolved.profile
        prepared.resolved.published.manifest authorityReadAt }

/-! ## Normalization -/

/-- `_NormalizedEvaluationPreparation` -/
structure NormalizedPreparation (E : EvidenceTypes) where
  prepared : PreparedEvaluationArtifact E
  material : StoredEvaluationMaterial E
  evidenceBindingDigest : String
  authorizedScopeText : Text
  findingTexts : List Text

/-- `_published_datetime`, which raises outside the calendar. -/
def publishedDatetime (t : Timestamp) : Except String Timestamp :=
  if (eventTimeAt t).isSome then .ok t else .error "date value out of range"

def publishedDatetimes (v : EvaluationTemporalValidity) : Except String Unit := do
  let bounds := [v.approvalActiveFrom, v.approvalExpiresAt, v.snapshotActiveFrom,
    v.snapshotExpiresAt] ++ v.governanceActiveFrom.toList ++ v.governanceExpiresAt.toList ++
    v.riskActiveFrom.toList ++ v.riskExpiresAt.toList ++ v.evidenceFreshUntil.toList
  let _ ← bounds.mapM publishedDatetime
  pure ()

/-- A value, or the exception of the contract that did not accept it. -/
def accepted {α : Type} (value : Option α) : Except String α :=
  match value with
  | some a => .ok a
  | none => .error "value is not valid"

/-- `EvidenceSnapshot.model_validate_json` of its canonical JSON. -/
def reparseSnapshot (snapshot : EvidenceSnapshot E) : Except String (EvidenceSnapshot E) :=
  accepted ((canonicalValue S.renderer.runtime S.renderer.tables
    (S.renderer.contracts.dumpSnapshot snapshot)).bind fun value =>
      S.renderer.contracts.readSnapshot (inOrder value))

/-- `ManifestFinding.model_validate_json` of its canonical JSON. -/
def reparseFinding (finding : ManifestFinding E) : Except String (ManifestFinding E) :=
  accepted ((canonicalValue S.renderer.runtime S.renderer.tables
    (S.renderer.contracts.dumpFinding finding)).bind fun value =>
      S.renderer.contracts.readFinding (inOrder value))

def findingText (finding : ManifestFinding E) : Except String Text :=
  accepted (canonicalDump S.renderer.runtime S.renderer.tables
    (S.renderer.contracts.dumpFinding finding))

/-- The result of the material at the time of its snapshot, which has to be readable, and to
agree with the snapshot and the publication record that are read on their own. -/
def exerciseResult (material : StoredEvaluationMaterial E) : Except String Unit := do
  let validationTime := material.snapshot.collectedAt
  let publication ← accepted (S.renderer.buildAuthorizedPublication material validationTime)
  let storedResult ← accepted (S.renderer.renderedResult material validationTime)
  let storedSnapshot ← reparseSnapshot S material.snapshot
  let publicationValue ← accepted (canonicalValue S.renderer.runtime S.renderer.tables
    (S.renderer.publicationForm.write publication))
  let storedPublication ← accepted (S.renderer.publicationForm.read (inOrder publicationValue))
  let resultSnapshotText ← accepted (canonicalDump S.renderer.runtime S.renderer.tables
    (S.renderer.contracts.dumpSnapshot storedResult.snapshot))
  let snapshotText ← accepted (canonicalDump S.renderer.runtime S.renderer.tables
    (S.renderer.contracts.dumpSnapshot storedSnapshot))
  if resultSnapshotText ≠ snapshotText ∨ storedResult.publication ≠ storedPublication ∨
      storedResult.publication.header.snapshotId ≠ material.snapshot.snapshotId.toList then
    throw "stored evaluation components are not canonically identical"

/-- `_normalize_evaluation_preparation`. Plain records are what their JSON reads as. -/
def normalizePreparation (prepared : PreparedEvaluationArtifact E) (request : DemoEvaluationRequest)
    (collectionAuthority : EvaluationCollectionAuthority) :
    Except String (NormalizedPreparation E) := do
  let snapshot ← reparseSnapshot S prepared.snapshot
  let authorizedScope ← S.readScope collectionAuthority.authorizedScopeJson
  let findings ← prepared.findings.mapM (reparseFinding S)
  let envelope ← S.normalizeEnvelope prepared.envelope
  let collectionRequest ← S.normalizeRequest prepared.collectionRequest
  publishedDatetimes prepared.temporalValidity
  let evidenceBindingDigest ← S.evidenceBindingDigest snapshot collectionRequest envelope
  let material : StoredEvaluationMaterial E :=
    { snapshot := snapshot
      approval := prepared.approval
      actor := request.actor
      publicationActor := S.contextService.publicationActor
      resolvedProfileDigest := prepared.resolvedProfileDigest
      privateMcpEndpoint := collectionAuthority.privateMcpEndpoint
      authorizedScope := authorizedScope
      reason := request.command.reason
      findings := findings }
  exerciseResult S material
  let authorizedScopeText ← (S.scopeText authorizedScope).mapError EvaluationError.message
  let findingTexts ← findings.mapM (findingText S)
  pure
    { prepared :=
        { prepared with
          snapshot := snapshot
          findings := findings
          collectionRequest := collectionRequest
          envelope := envelope }
      material := material
      evidenceBindingDigest := evidenceBindingDigest
      authorizedScopeText := authorizedScopeText
      findingTexts := findingTexts }

end Artifacts

/-! ## Insertion -/

/-- `EvaluationAuthorityToken.model_dump` -/
def authorityTokenJson (token : EvaluationAuthorityToken) : Json :=
  let grant := fun t : AuthorizationGrantToken => Json.object
    [("actor_id".toList, textJson t.actorId),
      ("permission".toList, textJson (permissionValue t.permission)),
      ("manifest_id".toList, textJson t.manifestId),
      ("grant_revision".toList, .number t.grantRevision),
      ("grant_digest".toList, textJson t.grantDigest)]
  .object
    [("context".toList, .object
        [("selection_mode".toList, textJson "exactVersion"),
          ("manifest_id".toList, textJson token.context.manifestId),
          ("manifest_version".toList, textJson token.context.manifestVersion.text),
          ("manifest_digest".toList, textJson token.context.manifestDigest),
          ("source_draft_id".toList, textJson token.context.sourceDraftId),
          ("revision".toList, .number token.context.revision),
          ("etag".toList, textJson token.context.etag),
          ("profile_id".toList, textJson token.context.profileId),
          ("resolved_profile_digest".toList, textJson token.context.resolvedProfileDigest)]),
      ("approval".toList, .object
        [("decision_id".toList, textJson token.approval.decisionId),
          ("revision".toList, .number token.approval.revision),
          ("decision_digest".toList, textJson token.approval.decisionDigest)]),
      ("authorization".toList, grant token.authorization),
      ("context_reader_authorization".toList, grant token.contextReaderAuthorization),
      ("trusted_key".toList, .object
        [("key_vault_key_id".toList, textJson token.trustedKey.keyVaultKeyId),
          ("key_version".toList, textJson token.trustedKey.keyVersion),
          ("public_key_fingerprint".toList, textJson token.trustedKey.publicKeyFingerprint),
          ("revision".toList, .number token.trustedKey.revision),
          ("authority_digest".toList, textJson token.trustedKey.authorityDigest)])]

/-- `_SealedEvaluationInsertion` -/
structure SealedInsertion (E : EvidenceTypes) where
  actorId : String
  workloadId : String
  idempotencyKey : String
  requestDigest : String
  candidateDigest : String
  snapshotId : String
  temporalValidity : EvaluationTemporalValidity
  trustedKey : EvaluationTrustedKeyAuthority
  material : StoredEvaluationMaterial E
  envelopeAttemptId : String
  envelope : ValidatedEnvelope E

/-- Whether an instant is from a bound on, and before another; an absent bound does not bound. -/
def withinBounds (activeFrom expiresAt : Option Timestamp) (t : Timestamp) : Prop :=
  (∀ a ∈ activeFrom, a ≤ t) ∧ ∀ b ∈ expiresAt, t < b

instance (a b : Option Timestamp) (t : Timestamp) : Decidable (withinBounds a b t) := by
  unfold withinBounds
  infer_instance

/-- `_finalize_prepared_evaluation` -/
def finalizeEvaluation (insertion : SealedInsertion E) (publishedAt : Timestamp) :
    Outcome (StoredEvaluation E) := do
  let validity := insertion.temporalValidity
  let approval := insertion.material.approval
  let key := insertion.trustedKey
  if ¬ (approval.status = .authorized ∧ approval.revokedAt = none ∧
      withinBounds (some validity.approvalActiveFrom) (some validity.approvalExpiresAt)
        publishedAt) then
    throw (approvalError "demo evaluation approval is not active at the trusted evaluation time")
  if ¬ trustedKeyIsActive key key.record.anchor publishedAt then
    throw (failedClosed
      "trusted signing key is disabled, retired, expired, revoked, or not active at publication time")
  if ¬ withinBounds (some validity.snapshotActiveFrom) (some validity.snapshotExpiresAt)
      publishedAt then
    throw (failedClosed "snapshot became stale before publication")
  if ¬ withinBounds validity.governanceActiveFrom validity.governanceExpiresAt publishedAt then
    throw inactiveContext
  if ¬ withinBounds validity.riskActiveFrom validity.riskExpiresAt publishedAt then
    throw inactiveContext
  if ∃ t ∈ validity.evidenceFreshUntil, t < publishedAt then
    throw (failedClosed "policy evidence freshness failed at the authoritative publication time")
  pure
    { actorId := insertion.actorId
      workloadId := insertion.workloadId
      idempotencyKey := insertion.idempotencyKey
      requestDigest := insertion.requestDigest
      candidateDigest := insertion.candidateDigest
      snapshotId := insertion.snapshotId
      publishedAt := publishedAt
      material := insertion.material
      envelopeAttemptId := insertion.envelopeAttemptId
      envelope := insertion.envelope }

/-- The store with a further evaluation, under its key and its snapshot. -/
def withEvaluation (store : EvaluationStore γ δ E) (artifact : StoredEvaluation E) :
    EvaluationStore γ δ E :=
  { store with
    others := { store.others with
      evaluationReceipts := store.others.evaluationReceipts.set
        (artifact.actorId, artifact.workloadId, artifact.idempotencyKey) artifact
      evaluationArtifacts := store.others.evaluationArtifacts.set artifact.snapshotId artifact } }

/-- The last checks of an insertion: the key and the snapshot have no evaluation yet. -/
def checkNew (store : EvaluationStore γ δ E) (insertion : SealedInsertion E) : Outcome Unit := do
  if ∃ key ∈ store.others.evaluationReceipts.keys,
      key.1 = insertion.actorId ∧ key.2.2 = insertion.idempotencyKey then
    throw (idempotencyConflict "evaluation idempotency key has already been recorded")
  if (store.others.evaluationArtifacts.get? insertion.snapshotId).isSome then
    throw ⟨.context .duplicateVersion,
      "evidence snapshot '" ++ insertion.snapshotId ++ "' is already published"⟩

section Insertion

variable (S : EvaluationService γ δ E)

/-- A `ValueError` while an artifact is normalized fails the publication. -/
def normalizationError (e : EvaluationError) : EvaluationError :=
  if e.code = .context .validation then
    failedClosed "prepared evaluation artifact failed canonical validation"
  else e

/-- The collection authority of the configuration, and the artifact in canonical form. -/
def normalizeForInsertion (request : DemoEvaluationRequest)
    (prepared : PreparedEvaluationArtifact E) :
    Outcome (EvaluationCollectionAuthority × NormalizedPreparation E) := do
  let collectionAuthority ←
    (S.buildCollectionAuthority request.command.authorizedScope).mapError valueError
  if collectionAuthority ≠ request.collectionAuthority then
    throw (valueError "configured Reader assignment revision does not match")
  let normalized ← (normalizePreparation S prepared request collectionAuthority).mapError valueError
  S.validateCollectionBinding request.command normalized.prepared.snapshot
    normalized.prepared.collectionRequest normalized.prepared.envelope collectionAuthority
  pure (collectionAuthority, normalized)

/-- The authority at the time of the last check, and the artifact that it agrees with. -/
structure CheckedInsertion (γ : Type) (E : EvidenceTypes) where
  collectionAuthority : EvaluationCollectionAuthority
  normalized : NormalizedPreparation E
  authority : ValidatedAuthority γ E
  trustedKey : EvaluationTrustedKeyAuthority

/-- The checks of `_put_context_service_evaluation` on a normalized artifact, with everything
that time decides resolved once more. -/
def checkInsertion (W : UnitOfWork γ δ E) (request : DemoEvaluationRequest)
    (anchor : TrustedKeyAnchor) (collectionAuthority : EvaluationCollectionAuthority)
    (normalized : NormalizedPreparation E) (authorityCheckedAt : Timestamp) :
    Outcome (CheckedInsertion γ E) := do
  let S := W.service
  let prepared := normalized.prepared
  let endpoint := collectionEndpoint collectionAuthority
  let changed := staleRevision
    "complete evaluation authority or evidence binding changed before publication"
  let commandScope ← S.scopeText request.command.authorizedScope
  let authority ← W.resolveAuthority request.actor request.command authorityCheckedAt endpoint anchor
    (some request.expectedAuthority)
  let validity := temporalValidity S prepared.snapshot authority.approval
    authority.resolved.profile authority.resolved.published.manifest authorityCheckedAt
  if prepared.snapshot.expiresAt ≤ authorityCheckedAt then
    throw (failedClosed "snapshot became stale before publication")
  match W.resolveTrustedKey anchor with
  | none => throw changed
  | some trustedKey =>
    let findings ← S.verifyAndEvaluateSnapshot (verification S request endpoint prepared.snapshot
      authority.approval authority.resolved prepared.collectionRequest.attemptId prepared.envelope
      trustedKey anchor authorityCheckedAt)
    let findingTexts ← (findings.mapM (findingText S)).mapError valueError
    let trustedKeyToken ← S.trustedKeyToken trustedKey
    let approvalToken ← S.approvalToken prepared.approval
    if trustedKeyToken ≠ request.expectedAuthority.trustedKey ∨
        authority.token ≠ request.expectedAuthority ∨
        approvalToken ≠ authority.token.approval ∨
        prepared.resolvedProfileDigest ≠ authority.resolved.profile.resolvedProfileDigest ∨
        normalized.authorizedScopeText ≠ commandScope ∨
        prepared.temporalValidity ≠ validity ∨ normalized.findingTexts ≠ findingTexts then
      throw changed
    pure ⟨collectionAuthority, normalized, authority, trustedKey⟩

/-- The insertion of a checked artifact. -/
def sealInsertion (request : DemoEvaluationRequest) (checked : CheckedInsertion γ E) :
    Outcome (SealedInsertion E) := do
  let digest ← requestDigest S request.actor request.command checked.collectionAuthority
  let candidateDigest ← S.artifactDigest (.object
    [("requestDigest".toList, textJson digest),
      ("evaluationAuthority".toList, authorityTokenJson checked.authority.token),
      ("collectionAuthorityDigest".toList, textJson checked.collectionAuthority.authorityDigest),
      ("readerAssignmentRevision".toList,
        textJson checked.collectionAuthority.readerAssignmentRevision),
      ("evidenceBindingDigest".toList, textJson checked.normalized.evidenceBindingDigest)])
  pure
    { actorId := checked.normalized.material.actor.actorId
      workloadId := checked.authority.resolved.published.manifestId
      idempotencyKey := request.idempotencyKey
      requestDigest := digest
      candidateDigest := candidateDigest
      snapshotId := checked.normalized.material.snapshot.snapshotId
      temporalValidity := checked.normalized.prepared.temporalValidity
      trustedKey := checked.trustedKey
      material := checked.normalized.material
      envelopeAttemptId := checked.normalized.prepared.collectionRequest.attemptId
      envelope := checked.normalized.prepared.envelope }

/-- `_put_context_service_evaluation` -/
def putEvaluation (W : UnitOfWork γ δ E) (request : DemoEvaluationRequest)
    (anchor : TrustedKeyAnchor)
    (artifactPreparation : EvaluationTrustedKeyAuthority → Outcome (PreparedEvaluationArtifact E))
    (clock : CommitClock) : Outcome (StoredEvaluation E × EvaluationStore γ δ E) := do
  let S := W.service
  let keyChanged :=
    staleRevision "trusted signing-key authority changed before publication"
  match W.resolveTrustedKey anchor with
  | none => throw keyChanged
  | some trustedKey =>
    let trustedKeyToken ← S.trustedKeyToken trustedKey
    if trustedKeyToken ≠ request.expectedAuthority.trustedKey then throw keyChanged
    let prepared ← artifactPreparation trustedKey
    let (collectionAuthority, normalized) ←
      (normalizeForInsertion S request prepared).mapError normalizationError
    let authorityCheckedAt ← clock.authorityCheckedAt
    let checked ← checkInsertion W request anchor collectionAuthority normalized authorityCheckedAt
    let insertion ← sealInsertion S request checked
    checkNew W.store insertion
    let artifact ← finalizeEvaluation insertion clock.publishedAt
    pure (artifact, withEvaluation W.store artifact)

/-- The part of `_commit_demo_evaluation` for a key without an evaluation. -/
def commitNew (W : UnitOfWork γ δ E) (request : DemoEvaluationRequest)
    (evidence : CollectedSnapshot E) (envelope : ValidatedEnvelope E) (clock : CommitClock) :
    Outcome (StoredEvaluation E × EvaluationStore γ δ E) := do
  let endpoint := collectionEndpoint request.collectionAuthority
  let initialTime ← clock.initialTime
  let anchor ← requireTrust W.service
  let _ ← W.resolveAuthority request.actor request.command initialTime endpoint anchor
    (some request.expectedAuthority)
  if evidence.snapshot.expiresAt ≤ initialTime then
    throw (failedClosed "snapshot became stale before publication")
  let authorityReadAt ← clock.authorityReadAt
  let authority ← W.resolveAuthority request.actor request.command authorityReadAt endpoint anchor
    (some request.expectedAuthority)
  putEvaluation W request anchor
    (prepareArtifact W.service request evidence envelope authority anchor authorityReadAt) clock

/-- `_commit_demo_evaluation`: the stored evaluation, and the store after it. -/
def commitEvaluation (store : EvaluationStore γ δ E) (request : DemoEvaluationRequest)
    (evidence : CollectedSnapshot E) (clock : CommitClock) :
    Outcome (StoredEvaluation E × EvaluationStore γ δ E) := do
  let W : UnitOfWork γ δ E := ⟨S, store, request.readerActor⟩
  match evidence.collected.envelope with
  | none => throw (failedClosed
      "successful evidence publication requires a validated source envelope")
  | some envelope =>
    match ← W.loadReceipt request.actor.actorId request.command.manifestId
        request.idempotencyKey with
    | some replay =>
      checkReplay W request.actor request.command.manifestId request.requestDigest
        "idempotency key was concurrently used for a different evaluation" replay
      pure (replay, store)
    | none => commitNew W request evidence envelope clock

/-- `DemoEvaluationResult.model_validate_json(artifact.result_json)` -/
def resultOf (artifact : StoredEvaluation E) : Outcome (DemoEvaluationResult E) :=
  match S.renderer.renderedResult artifact.material artifact.publishedAt with
  | some result => .ok result
  | none => .error (valueError "stored result is not valid")

/-- A stale revision while an evaluation is published fails the publication. -/
def publicationError (e : EvaluationError) : EvaluationError :=
  if e.code = .context .staleRevision then
    failedClosed "authority changed during the publication transaction"
  else e

/-- `_commit_prepared_demo_evaluation` on the request that it has taken: its answer, and the
store after it. The result is read after the transaction has committed. -/
def commitPrepared (store : EvaluationStore γ δ E) (request : DemoEvaluationRequest)
    (evidence : CollectedSnapshot E) (clock : CommitClock) :
    Outcome (DemoEvaluationResult E) × EvaluationStore γ δ E :=
  match commitEvaluation S store request evidence clock with
  | .ok (artifact, after) => (resultOf S artifact, after)
  | .error e => (.error (publicationError e), store)

end Insertion

end AthenaContext.EvaluationPublication
