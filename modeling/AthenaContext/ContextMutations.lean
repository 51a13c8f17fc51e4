import AthenaContext.ContextStorage

/-!
# Mutations of the context service

The operations that create, replace, validate, submit, review, approve, publish and
supersede drafts, and the issue of operational context receipts, each inside one
transaction of the store under an idempotency key. What the service leaves to its
dependencies (authorization, clock, digests) or to the manifest contract and the
selector provenance checks is a field of the service record; those checks read the
store and decide, and never write it.
-/

namespace AthenaContext.ContextMutations

open ContextRecords ContextStorage Transactions

variable {γ δ R : Type}

/-! ## The manifest contract -/

/-- What the service uses of the manifest contract: `γ` is the content of a manifest
beyond the fields the service reads, `δ` its JSON form. -/
structure ManifestContract (γ δ : Type) where
  /-- The content in `model_dump(by_alias=True, exclude_none=True)`. -/
  dumpContent : γ → δ
  /-- `canonicalize_manifest_payload` on the content. -/
  canonicalContent : δ → δ
  /-- `compute_artifact_digest(_manifest_digest_payload(payload, semantic=…))`. -/
  payloadDigest : Bool → CanonicalWorkloadManifest δ → Except ContextError String
  /-- The content of the model when the payload passes the field contracts and
  `validate_manifest_ids`. -/
  parseContent : CanonicalWorkloadManifest δ → Except ContextError γ
  /-- `compute_artifact_digest_value`. -/
  computeArtifactDigestValue : CanonicalWorkloadManifest γ → Except ContextError String
  /-- `_rollback_content_digest`. -/
  rollbackContentDigest : CanonicalWorkloadManifest γ → Except ContextError String
  /-- `manifest_selector_provenance`. -/
  manifestSelectorProvenance : CanonicalWorkloadManifest γ → List SelectorProvenanceEntry
  /-- The id of the profile that is named and typed `production`. -/
  productionProfile : γ → Option String

namespace ManifestContract

variable (C : ManifestContract γ δ)

/-- `manifest.model_dump(by_alias=True, exclude_none=True)`. -/
def modelDump (manifest : CanonicalWorkloadManifest γ) : CanonicalWorkloadManifest δ :=
  { manifest with content := C.dumpContent manifest.content }

/-- `CanonicalWorkloadManifest.model_validate`: the supplied digests are those of the
payload, and the payload passes the contract. -/
def modelValidate (payload : CanonicalWorkloadManifest δ) :
    Except ContextError (CanonicalWorkloadManifest γ) := do
  let artifactDigest ← C.payloadDigest false payload
  let semanticDigest ← C.payloadDigest true payload
  if payload.artifactDigest ≠ artifactDigest ∨ payload.semanticDigest ≠ semanticDigest then
    .error ⟨.validation, "manifest compatibility digests do not match canonical preimages"⟩
  else
    let content ← C.parseContent payload
    pure { payload with content := content }

/-- `canonicalize_manifest_payload`. -/
def canonicalizeManifestPayload (payload : CanonicalWorkloadManifest δ) :
    Except ContextError (CanonicalWorkloadManifest δ) := do
  let canonical := { payload with content := C.canonicalContent payload.content }
  let artifactDigest ← C.payloadDigest false canonical
  let semanticDigest ← C.payloadDigest true canonical
  pure { canonical with artifactDigest := artifactDigest, semanticDigest := semanticDigest }

end ManifestContract

/-! ## The service -/

/-- A service: its dependencies, and the checks that only read the store. -/
structure ContextService (γ δ R : Type) where
  contract : ManifestContract γ δ
  publicationActor : Actor
  /-- `AuthorizationPort.require`. -/
  require : Actor → Permission → String → Except ContextError Unit
  auditEventDigest : AuditEventDigest
  /-- The canonical JSON text of what `_mutate` digests. -/
  canonicalRequest :
    MutationRequest (CanonicalWorkloadManifest δ) → Except ContextError String
  sha256 : String → String
  selectorProvenanceDigest : List SelectorProvenanceEntry → String
  operationalContextReceiptId : Actor → IssueOperationalContextReceiptCommand → String
  operationalContextReceiptDigest : OperationalContextReceipt → String
  /-- `_new_draft_selector_reference` and the selector and profile checks of a new
  draft; the inferred predecessor of its baseline. -/
  newDraftSelectorReference :
    ContextStore (CanonicalWorkloadManifest γ) (CanonicalWorkloadManifest δ) R →
      CreateDraftCommand (CanonicalWorkloadManifest γ) → Timestamp →
        Except ContextError (Option DraftSelectorBaselineReference)
  /-- Whether `_require_selector_baseline` may capture a missing baseline. -/
  mayBackfillSelectorBaseline :
    ContextStore (CanonicalWorkloadManifest γ) (CanonicalWorkloadManifest δ) R →
      DraftRecord (CanonicalWorkloadManifest γ) → Except ContextError Unit
  /-- `_validate_inferred_selector_baseline`. -/
  validateInferredSelectorBaseline :
    ContextStore (CanonicalWorkloadManifest γ) (CanonicalWorkloadManifest δ) R →
      DraftSelectorBaseline → Except ContextError Unit
  /-- The selector provenance and profile checks of `_validate_lifecycle_manifest`. -/
  validateLifecycleSelectors :
    ContextStore (CanonicalWorkloadManifest γ) (CanonicalWorkloadManifest δ) R →
      DraftRecord (CanonicalWorkloadManifest γ) → CanonicalWorkloadManifest γ →
        DraftSelectorBaseline → Timestamp → Except ContextError Unit
  /-- `_validate_replacement_profiles` of an ordinary replacement. -/
  validateReplacementProfiles :
    ContextStore (CanonicalWorkloadManifest γ) (CanonicalWorkloadManifest δ) R →
      DraftRecord (CanonicalWorkloadManifest γ) →
        ReplaceDraftCommand (CanonicalWorkloadManifest γ) → DraftSelectorBaseline →
          Timestamp → Except ContextError Unit
  /-- `_require_persisted_cohort_apply` and the profile checks of a replacement by the
  named cohort decision; the expiry of its evidence. -/
  requirePersistedCohortApply :
    ContextStore (CanonicalWorkloadManifest γ) (CanonicalWorkloadManifest δ) R →
      Actor → DraftRecord (CanonicalWorkloadManifest γ) →
        ReplaceDraftCommand (CanonicalWorkloadManifest γ) → DraftSelectorBaseline →
          Timestamp → String → Except ContextError Timestamp
  /-- The identifier and digest of a resolved profile of the draft's manifest. -/
  resolveDraftProfile :
    ContextStore (CanonicalWorkloadManifest γ) (CanonicalWorkloadManifest δ) R →
      DraftRecord (CanonicalWorkloadManifest γ) → String → Timestamp →
        Except ContextError (String × String)

abbrev Manifest (γ : Type) := CanonicalWorkloadManifest γ
abbrev Draft (γ : Type) := DraftRecord (CanonicalWorkloadManifest γ)
abbrev Store (γ δ R : Type) :=
  ContextStore (CanonicalWorkloadManifest γ) (CanonicalWorkloadManifest δ) R
abbrev ServiceTransaction (γ δ R : Type) :=
  ContextTransaction (CanonicalWorkloadManifest γ) (CanonicalWorkloadManifest δ) R

/-- The clock readings of one call: `_now()`, and the reading that closes a
replacement by a cohort decision. A reading without a timezone or finer than a
millisecond raises. -/
structure ClockReadings where
  now : Except ContextError Timestamp
  finalApplyAt : Except ContextError Timestamp

/-- `_ID_PATTERN`, which bounds the identifiers that the service composes. -/
def matchesIdPattern (text : String) : Bool :=
  match text.toList with
  | [] => false
  | first :: rest =>
    first.isAlphanum && decide (rest.length ≤ 127) &&
      rest.all fun c => c.isAlphanum || c == '.' || c == '_' || c == '-'

/-- A record whose identifier does not match the pattern is refused. -/
def requireId (text : String) : Except ContextError Unit :=
  if matchesIdPattern text then .ok ()
  else .error ⟨.validation, "String should match pattern '^[A-Za-z0-9][A-Za-z0-9._-]\x7b0,127\x7d$'"⟩

/-! ## Checks -/

def requireDraft (draftId : String) : ServiceTransaction γ δ R (Draft γ) := do
  let draft ← getDraft draftId
  orRaise draft ⟨.resourceNotFound, "draft '" ++ draftId ++ "' was not found"⟩

def requirePublished (manifestId : String) (manifestVersion : ManifestVersion) :
    ServiceTransaction γ δ R (PublishedManifest (Manifest γ)) := do
  let published ← getPublished manifestId manifestVersion
  orRaise published ⟨.resourceNotFound, "manifest version " ++ manifestId ++ "/" ++
    manifestVersion.text ++ " was not found"⟩

def requireState (draft : Draft γ) (required : DraftState) : Except ContextError Unit :=
  if draft.state ≠ required then
    .error ⟨.invalidTransition, "draft state '" ++ draft.state.value ++
      "' cannot perform transition requiring '" ++ required.value ++ "'"⟩
  else .ok ()

def ensureExpected (draft : Draft γ) (expectedRevision : ℕ)
    (expectedManifestVersion : ManifestVersion) (expectedDigest : String) :
    Except ContextError Unit :=
  if draft.revision ≠ expectedRevision then
    .error ⟨.staleRevision, "expected draft revision " ++ toString expectedRevision ++
      ", found " ++ toString draft.revision⟩
  else if draft.manifest.manifestVersion ≠ expectedManifestVersion then
    .error ⟨.versionMismatch, "expected manifest version does not match the draft"⟩
  else if draft.manifestDigest ≠ expectedDigest then
    .error ⟨.digestMismatch, "expected manifest digest does not match the draft"⟩
  else .ok ()

def ensureExpectedCommand (draft : Draft γ) (command : TransitionCommand) :
    Except ContextError Unit :=
  ensureExpected draft command.expectedRevision command.expectedManifestVersion
    command.expectedDigest

/-- The published versions of a workload without a supersession. -/
def activeVersions (store : Store γ δ R) (manifestId : String) :
    List (PublishedManifest (Manifest γ)) :=
  (store.listPublished manifestId).filter fun item =>
    store.supersessions.get? (manifestId, item.manifestVersion) = none

/-- `_ensure_lineage`. -/
def ensureLineage (store : Store γ δ R) (manifestId : String) (newVersion : ManifestVersion)
    (previousVersion : Option ManifestVersion) : Except ContextError Unit :=
  match activeVersions store manifestId with
  | _ :: _ :: _ =>
    .error ⟨.ambiguousLookup, "published version lineage has multiple active versions"⟩
  | [current] =>
    if previousVersion ≠ some current.manifestVersion then
      .error ⟨.versionMismatch, "previous_version must identify the active published version"⟩
    else if newVersion.versionKey ≤ current.manifestVersion.versionKey then
      .error ⟨.versionMismatch, "new manifest version must be greater than previous_version"⟩
    else .ok ()
  | [] =>
    if previousVersion ≠ none then
      .error ⟨.versionMismatch, "previous_version does not identify an active version"⟩
    else .ok ()

/-- `_audit_event`. -/
def auditEvent (now : Timestamp) (actor : Actor) (action : AuditAction) (draft : Draft γ)
    (previousRevision : Option ℕ) (reason : String)
    (replacementVersion : Option ManifestVersion) (publicationActor : Option Actor)
    (publicationTimestamp : Option Timestamp) : PendingAuditEvent where
  occurredAt := now
  actor := actor
  action := action
  manifestId := draft.manifestId
  draftId := some draft.draftId
  revision := some draft.revision
  previousRevision := previousRevision
  manifestVersion := some draft.manifest.manifestVersion
  previousVersion := draft.previousVersion
  replacementVersion := replacementVersion
  publicationActor := publicationActor
  publicationTimestamp := publicationTimestamp
  manifestDigest := draft.manifestDigest
  reason := reason

namespace ContextService

variable (S : ContextService γ δ R)

/-- `_ensure_manifest_digest`. -/
def ensureManifestDigest (manifest : Manifest γ) (suppliedDigest : String) :
    Except ContextError Unit := do
  let computed ← S.contract.computeArtifactDigestValue manifest
  if manifest.artifactDigest ≠ computed ∨ suppliedDigest ≠ computed then
    .error ⟨.digestMismatch, "manifest digest does not match the canonical manifest"⟩
  else .ok ()

/-- `DraftSelectorBaseline.capture`. -/
def captureBaseline (draftId : String) (manifest : Manifest γ) (manifestDigest : String)
    (inferredPredecessor : Option DraftSelectorBaselineReference) (actor : Actor)
    (capturedAt : Timestamp) : DraftSelectorBaseline where
  draftId := draftId
  manifestId := manifest.manifestId
  manifestVersion := manifest.manifestVersion
  sourceManifestDigest := manifestDigest
  selectorProvenanceDigest :=
    S.selectorProvenanceDigest (S.contract.manifestSelectorProvenance manifest)
  inferredPredecessor := inferredPredecessor
  entries := S.contract.manifestSelectorProvenance manifest
  capturedBy := actor
  capturedAt := capturedAt

/-- The stored baseline of a draft, or the one that is captured for a draft from
before there were baselines. -/
def storedOrBackfilledBaseline (current : Draft γ) :
    Option DraftSelectorBaseline → ServiceTransaction γ δ R DraftSelectorBaseline
  | some baseline => pure baseline
  | none => do
    let store ← reading id
    checked (S.mayBackfillSelectorBaseline store current)
    let baseline := S.captureBaseline current.draftId current.manifest current.manifestDigest
      none current.createdBy current.createdAt
    putDraftSelectorBaseline baseline
    pure baseline

/-- `_require_selector_baseline`. -/
def requireSelectorBaseline (current : Draft γ) :
    ServiceTransaction γ δ R DraftSelectorBaseline := do
  let stored ← getDraftSelectorBaseline current.draftId
  let baseline ← S.storedOrBackfilledBaseline current stored
  raiseIf (baseline.manifestId ≠ current.manifestId ∨
      baseline.manifestVersion ≠ current.manifest.manifestVersion)
    ⟨.persistenceConflict, "draft selector baseline is missing or inconsistent"⟩
  let store ← reading id
  checked (S.validateInferredSelectorBaseline store baseline)
  pure baseline

/-- The re-validation of `_validate_lifecycle_manifest`: the dump of the manifest is
accepted, and the accepted manifest has the given digest. -/
def revalidateManifest (manifest : Manifest γ) (manifestDigest : String) :
    Except ContextError (Manifest γ) :=
  match S.contract.modelValidate (S.contract.modelDump manifest) with
  | .error _ => .error ⟨.manifestValidationFailed, "the draft manifest is not valid"⟩
  | .ok validated => do
    S.ensureManifestDigest validated manifestDigest
    pure validated

/-- `_validate_lifecycle_manifest`. -/
def validateLifecycleManifest (current : Draft γ) (manifest : Manifest γ)
    (manifestDigest : String) (asOf : Timestamp) : ServiceTransaction γ δ R Unit := do
  let validated ← checked (S.revalidateManifest manifest manifestDigest)
  let baseline ← S.requireSelectorBaseline current
  let store ← reading id
  checked (S.validateLifecycleSelectors store current validated baseline asOf)

/-- `_finalize_publication_candidate`. -/
def finalizePublicationCandidate (manifest : Manifest γ) (finalizedAt : Timestamp) :
    Except ContextError (Manifest γ) :=
  let payload := { S.contract.modelDump manifest with
    audit := { publishedBy := S.publicationActor.actorId, publishedAt := finalizedAt } }
  match S.contract.canonicalizeManifestPayload payload >>= S.contract.modelValidate with
  | .ok finalized => .ok finalized
  | .error _ => .error ⟨.manifestValidationFailed,
      "the server could not finalize the publication candidate"⟩

/-- Whether the publication candidate is the draft's own, as finalized by the service. -/
def isCurrentCandidate (draft : Draft γ) (candidate : PublicationCandidate)
    (review : ReviewSubmission) : Prop :=
  candidate.finalizedBy = S.publicationActor ∧
  candidate.manifestVersion = draft.manifest.manifestVersion ∧
  candidate.manifestDigest = draft.manifestDigest ∧
  candidate.semanticDigest = draft.manifest.semanticDigest ∧
  candidate.approvalStatus = "approved" ∧
  review.publicationCandidateDigest = draft.manifestDigest ∧
  draft.manifest.audit.publishedBy = S.publicationActor.actorId ∧
  draft.manifest.audit.publishedAt = candidate.finalizedAt ∧
  draft.manifest.audit.approvalStatus = candidate.approvalStatus

instance (draft : Draft γ) (candidate : PublicationCandidate) (review : ReviewSubmission) :
    Decidable (S.isCurrentCandidate draft candidate review) := by
  unfold isCurrentCandidate
  infer_instance

/-- `_require_current_publication_candidate`. -/
def requireCurrentPublicationCandidate (draft : Draft γ) :
    Except ContextError PublicationCandidate :=
  match draft.publicationCandidate, draft.review with
  | some candidate, some review =>
    if S.isCurrentCandidate draft candidate review then do
      S.ensureManifestDigest draft.manifest draft.manifestDigest
      pure candidate
    else .error ⟨.staleApproval,
      "the publication candidate provenance does not match this draft"⟩
  | _, _ => .error ⟨.staleApproval,
      "the publication candidate provenance does not match this draft"⟩

/-- Whether a receipt was issued by a service for exactly this revision of the draft,
and its evidence is valid at the instant. -/
def receiptAuthorizes (receipt : OperationalContextReceipt) (current : Draft γ)
    (asOf : Timestamp) : Prop :=
  receipt.issuedBy.kind = .service ∧
  receipt.manifestId = current.manifestId ∧
  receipt.manifestVersion = current.manifest.manifestVersion ∧
  receipt.draftId = current.draftId ∧
  receipt.draftRevision = current.revision ∧
  receipt.manifestDigest = current.manifestDigest ∧
  receipt.issuedAt ≤ asOf ∧
  receipt.collectedAt ≤ receipt.issuedAt ∧
  asOf < receipt.expiresAt

instance (receipt : OperationalContextReceipt) (current : Draft γ) (asOf : Timestamp) :
    Decidable (receiptAuthorizes receipt current asOf) := by
  unfold receiptAuthorizes
  infer_instance

/-- `_require_operational_context_receipt`. -/
def requireOperationalContextReceipt (current : Draft γ) (receiptId : String)
    (asOf : Timestamp) : ServiceTransaction γ δ R OperationalContextReceipt := do
  let found ← getOperationalContextReceipt receiptId
  let receipt ← orRaise found ⟨.operationalContextReceiptInvalid,
    "operational context receipt was not found"⟩
  raiseIf (¬ receiptAuthorizes receipt current asOf) ⟨.operationalContextReceiptInvalid,
    "operational context receipt does not authorize this draft"⟩
  raiseIf (S.contract.productionProfile current.manifest.content ≠ some receipt.profileId)
    ⟨.operationalContextReceiptInvalid,
      "operational context receipt is not bound to the active environment profile"⟩
  let store ← reading id
  let resolved ← checked (S.resolveDraftProfile store current receipt.profileId asOf)
  raiseIf (resolved.2 ≠ receipt.profileDigest) ⟨.operationalContextReceiptInvalid,
    "operational context receipt profile digest is stale"⟩
  pure receipt

/-! ## Mutations -/

/-- The rollback check of `create_draft`. -/
def ensureRollback (command : CreateDraftCommand (Manifest γ)) :
    Option ManifestVersion → ServiceTransaction γ δ R Unit
  | none => pure ()
  | some rollbackSourceVersion => do
    let found ← getPublished command.manifest.manifestId rollbackSourceVersion
    let source ← orRaise found ⟨.resourceNotFound, "rollback source version was not found"⟩
    let digest ← checked (S.contract.rollbackContentDigest command.manifest)
    let sourceDigest ← checked (S.contract.rollbackContentDigest source.manifest)
    raiseIf ((∀ previous ∈ command.previousVersion,
        previous.versionKey ≤ rollbackSourceVersion.versionKey) ∨ digest ≠ sourceDigest)
      ⟨.manifestValidationFailed,
        "rollback draft must clone the exact semantic content of an older published version"⟩

/-- The draft that `create_draft` writes. -/
def createdDraft (actor : Actor) (command : CreateDraftCommand (Manifest γ))
    (now : Timestamp) : Draft γ where
  draftId := command.draftId
  manifestId := command.manifest.manifestId
  state := .draft
  revision := 1
  manifest := command.manifest
  manifestDigest := command.manifestDigest
  previousVersion := command.previousVersion
  rollbackSourceVersion := command.rollbackSourceVersion
  createdBy := actor
  createdAt := now
  updatedBy := actor
  updatedAt := now
  reason := command.reason

/-- `create_draft`. -/
def createDraft (clock : ClockReadings) (actor : Actor)
    (command : CreateDraftCommand (Manifest γ)) : ServiceTransaction γ δ R (Draft γ) := do
  checked (S.ensureManifestDigest command.manifest command.manifestDigest)
  let store ← reading id
  checked (ensureLineage store command.manifest.manifestId command.manifest.manifestVersion
    command.previousVersion)
  let now ← checked clock.now
  S.ensureRollback command command.rollbackSourceVersion
  let inferredPredecessor ← checked (S.newDraftSelectorReference store command now)
  let baseline := S.captureBaseline command.draftId command.manifest command.manifestDigest
    inferredPredecessor actor now
  let draft := createdDraft actor command now
  putDraftSelectorBaseline baseline
  putDraft draft none
  appendAudit S.auditEventDigest
    (auditEvent now actor .draftCreated draft none command.reason none none none)
  pure draft

/-- The draft that a replacement writes. -/
def replacedDraft (actor : Actor) (current : Draft γ)
    (command : ReplaceDraftCommand (Manifest γ)) (now : Timestamp) : Draft γ :=
  { current with
    revision := current.revision + 1
    manifest := command.replacementManifest
    manifestDigest := command.replacementDigest
    updatedBy := actor
    updatedAt := now
    reason := command.reason
    validation := none
    review := none
    approval := none }

/-- The checks of a replacement against the selector authority: an ordinary one keeps
the selectors; one by a cohort decision needs its persisted authorization, whose
evidence must not have expired when the replacement is written. -/
def ensureReplacement (clock : ClockReadings) (actor : Actor) (current : Draft γ)
    (command : ReplaceDraftCommand (Manifest γ)) (baseline : DraftSelectorBaseline)
    (now : Timestamp) : Option String → ServiceTransaction γ δ R Unit
  | none => do
    let store ← reading id
    checked (S.validateReplacementProfiles store current command baseline now)
  | some decisionId => do
    let store ← reading id
    let expiresAt ← checked
      (S.requirePersistedCohortApply store actor current command baseline now decisionId)
    let finalApplyAt ← checked clock.finalApplyAt
    raiseIf (finalApplyAt < now ∨ expiresAt ≤ finalApplyAt)
      ⟨.staleEvidenceSnapshot, "cohort evidence expired before the atomic draft mutation"⟩

/-- `replace_draft_in_transaction`; `cohortDecision` is the decision that is applied and
the instant it occurred at. -/
def replaceDraftInTransaction (clock : ClockReadings) (actor : Actor) (draftId : String)
    (command : ReplaceDraftCommand (Manifest γ)) (cohortDecision : Option (String × Timestamp)) :
    ServiceTransaction γ δ R (Draft γ) := do
  let current ← requireDraft draftId
  checked (S.require actor .updateDraft current.manifestId)
  checked (requireState current .draft)
  checked (ensureExpected current command.expectedRevision command.expectedManifestVersion
    command.expectedDigest)
  raiseIf (command.replacementManifest.manifestId ≠ current.manifestId)
    ⟨.versionMismatch, "a replacement cannot change manifestId"⟩
  raiseIf (command.replacementManifest.manifestVersion ≠ current.manifest.manifestVersion)
    ⟨.versionMismatch, "a replacement cannot change the draft manifestVersion"⟩
  checked (S.ensureManifestDigest command.replacementManifest command.replacementDigest)
  let store ← reading id
  checked (ensureLineage store current.manifestId command.replacementManifest.manifestVersion
    current.previousVersion)
  let now ← checked ((cohortDecision.map fun decision => .ok decision.2).getD clock.now)
  let baseline ← S.requireSelectorBaseline current
  S.ensureReplacement clock actor current command baseline now (cohortDecision.map Prod.fst)
  let replacement := replacedDraft actor current command now
  putDraft replacement (some current.revision)
  appendAudit S.auditEventDigest
    (auditEvent now actor .draftReplaced replacement (some current.revision) command.reason
      none none none)
  pure replacement

/-- The draft that `validate_draft` writes. -/
def validatedDraft (actor : Actor) (current : Draft γ) (command : TransitionCommand)
    (now : Timestamp) : Draft γ :=
  { current with
    state := .validated
    revision := current.revision + 1
    updatedBy := actor
    updatedAt := now
    reason := command.reason
    validation := some
      { validatedBy := actor
        validatedAt := now
        validatedRevision := current.revision + 1
        manifestDigest := current.manifestDigest } }

/-- `validate_draft`. -/
def validateDraft (clock : ClockReadings) (actor : Actor) (draftId : String)
    (command : TransitionCommand) : ServiceTransaction γ δ R (Draft γ) := do
  let current ← requireDraft draftId
  checked (S.require actor .validate current.manifestId)
  checked (requireState current .draft)
  checked (ensureExpectedCommand current command)
  let now ← checked clock.now
  S.validateLifecycleManifest current current.manifest current.manifestDigest now
  let updated := validatedDraft actor current command now
  putDraft updated (some current.revision)
  appendAudit S.auditEventDigest
    (auditEvent now actor .draftValidated updated (some current.revision) command.reason
      none none none)
  pure updated

/-- The draft that `submit_for_review` writes. -/
def submittedDraft (actor : Actor) (current : Draft γ) (command : TransitionCommand)
    (candidateManifest : Manifest γ) (now : Timestamp) : Draft γ :=
  { current with
    state := .inReview
    revision := current.revision + 1
    manifest := candidateManifest
    manifestDigest := candidateManifest.artifactDigest
    updatedBy := actor
    updatedAt := now
    reason := command.reason
    review := some
      { submittedBy := actor
        submittedAt := now
        submittedRevision := current.revision + 1
        publicationCandidateDigest := candidateManifest.artifactDigest
        reason := command.reason }
    publicationCandidate := some
      { finalizedBy := S.publicationActor
        finalizedAt := now
        manifestVersion := candidateManifest.manifestVersion
        manifestDigest := candidateManifest.artifactDigest
        semanticDigest := candidateManifest.semanticDigest } }

/-- `submit_for_review`. -/
def submitForReview (clock : ClockReadings) (actor : Actor) (draftId : String)
    (command : TransitionCommand) : ServiceTransaction γ δ R (Draft γ) := do
  let current ← requireDraft draftId
  checked (S.require actor .submit current.manifestId)
  checked (requireState current .validated)
  checked (ensureExpectedCommand current command)
  let now ← checked clock.now
  S.validateLifecycleManifest current current.manifest current.manifestDigest now
  let candidateManifest ← checked (S.finalizePublicationCandidate current.manifest now)
  S.validateLifecycleManifest current candidateManifest candidateManifest.artifactDigest now
  let updated := S.submittedDraft actor current command candidateManifest now
  putDraft updated (some current.revision)
  appendAudit S.auditEventDigest
    (auditEvent now actor .reviewSubmitted updated (some current.revision) command.reason
      none (some S.publicationActor) (some now))
  pure updated

/-- The decision that `review_draft` records. -/
def reviewDecision (actor : Actor) (current : Draft γ) (command : ReviewCommand)
    (now : Timestamp) : ReviewDecision where
  decisionId := current.draftId ++ "-r" ++ toString (current.revision + 1) ++ "-review"
  decision := command.decision
  reviewedBy := actor
  reviewedAt := now
  reviewedRevision := current.revision + 1
  manifestVersion := current.manifest.manifestVersion
  manifestDigest := current.manifestDigest
  comments := command.comments
  rejectedFields := command.rejectedFields
  requiredCorrections := command.requiredCorrections

/-- The draft with a further review decision. -/
def withReview (actor : Actor) (current : Draft γ) (command : ReviewCommand)
    (now : Timestamp) : Draft γ :=
  { current with
    revision := current.revision + 1
    updatedBy := actor
    updatedAt := now
    reason := command.reason
    reviewDecisions := current.reviewDecisions ++ [reviewDecision actor current command now] }

/-- The draft that `review_draft` writes: requested changes send it back to the draft
state and clear what later states had added. -/
def reviewedDraft (actor : Actor) (current : Draft γ) (command : ReviewCommand)
    (now : Timestamp) : Draft γ :=
  match command.decision with
  | .approved => withReview actor current command now
  | .changesRequested =>
    { withReview actor current command now with
      state := .draft
      validation := none
      review := none
      publicationCandidate := none
      approval := none }

/-- `review_draft`. -/
def reviewDraft (clock : ClockReadings) (actor : Actor) (draftId : String)
    (command : ReviewCommand) : ServiceTransaction γ δ R (Draft γ) := do
  let current ← requireDraft draftId
  checked (S.require actor .review current.manifestId)
  checked (requireState current .inReview)
  checked (ensureExpectedCommand current command.toTransitionCommand)
  let _ ← checked (S.requireCurrentPublicationCandidate current)
  raiseIf (100 ≤ current.reviewDecisions.length)
    ⟨.invalidTransition, "draft review decision history is full"⟩
  let now ← checked clock.now
  checked (requireId (reviewDecision actor current command now).decisionId)
  let updated := reviewedDraft actor current command now
  putDraft updated (some current.revision)
  appendAudit S.auditEventDigest
    (auditEvent now actor .reviewRecorded updated (some current.revision) command.reason
      none none none)
  pure updated

/-- Whether a review decision approves exactly the current revision. -/
def approvesCurrent (current : Draft γ) (review : ReviewDecision) : Prop :=
  review.decision = .approved ∧
  review.reviewedRevision = current.revision ∧
  review.manifestVersion = current.manifest.manifestVersion ∧
  review.manifestDigest = current.manifestDigest

instance (current : Draft γ) (review : ReviewDecision) :
    Decidable (approvesCurrent current review) := by
  unfold approvesCurrent
  infer_instance

/-- The latest review, when it approves the current revision. -/
def authoritativeReview (current : Draft γ) : Except ContextError ReviewDecision :=
  match current.reviewDecisions.getLast? with
  | some review =>
    if approvesCurrent current review then .ok review
    else .error ⟨.invalidTransition, "approval requires a current authoritative approved review"⟩
  | none =>
    .error ⟨.invalidTransition, "approval requires a current authoritative approved review"⟩

/-- The approval that `approve_draft` records. -/
def approvalDecision (actor : Actor) (current : Draft γ) (command : ApproveCommand)
    (review : ReviewDecision) (receipt : OperationalContextReceipt) (now : Timestamp) :
    ApprovalDecision where
  decisionId := current.draftId ++ "-r" ++ toString (current.revision + 1) ++ "-approval"
  approvedBy := actor
  approvedAt := now
  approvedRevision := current.revision + 1
  manifestVersion := current.manifest.manifestVersion
  manifestDigest := current.manifestDigest
  reviewDecisionId := some review.decisionId
  operationalContextReceiptId := some receipt.receiptId
  reason := command.reason

/-- The draft that `approve_draft` writes. -/
def approvedDraft (actor : Actor) (current : Draft γ) (command : ApproveCommand)
    (decision : ApprovalDecision) (now : Timestamp) : Draft γ :=
  { current with
    state := .approved
    revision := current.revision + 1
    updatedBy := actor
    updatedAt := now
    reason := command.reason
    approval := some decision }

/-- `approve_draft`. -/
def approveDraft (clock : ClockReadings) (actor : Actor) (draftId : String)
    (command : ApproveCommand) : ServiceTransaction γ δ R (Draft γ) := do
  let current ← requireDraft draftId
  checked (S.require actor .approve current.manifestId)
  checked (requireState current .inReview)
  checked (ensureExpectedCommand current command.toTransitionCommand)
  let _ ← checked (S.requireCurrentPublicationCandidate current)
  let review ← checked (authoritativeReview current)
  let now ← checked clock.now
  let receipt ← S.requireOperationalContextReceipt current
    command.operationalContextReceiptId now
  S.validateLifecycleManifest current current.manifest current.manifestDigest now
  let decision := approvalDecision actor current command review receipt now
  checked (requireId decision.decisionId)
  let updated := approvedDraft actor current command decision now
  putDraft updated (some current.revision)
  appendAudit S.auditEventDigest
    (auditEvent now actor .draftApproved updated (some current.revision) command.reason
      none none none)
  pure updated

/-- Whether an approval, on the strength of a review, authorizes the publication of the
current revision. -/
def authorizesPublication (current : Draft γ) (command : PublishCommand)
    (approval : ApprovalDecision) (review : ReviewDecision) : Prop :=
  approval.decisionId = command.approvalId ∧
  approval.approvedRevision = current.revision ∧
  approval.manifestVersion = current.manifest.manifestVersion ∧
  approval.manifestDigest = current.manifestDigest ∧
  review.decision = .approved ∧
  (review.reviewedRevision : ℤ) = (approval.approvedRevision : ℤ) - 1 ∧
  review.manifestDigest = approval.manifestDigest

instance (current : Draft γ) (command : PublishCommand) (approval : ApprovalDecision)
    (review : ReviewDecision) :
    Decidable (authorizesPublication current command approval review) := by
  unfold authorizesPublication
  infer_instance

/-- The first review with the identifier that the approval names. -/
def approvedReview? (current : Draft γ) (approval : ApprovalDecision) : Option ReviewDecision :=
  current.reviewDecisions.find? fun review => some review.decisionId = approval.reviewDecisionId

/-- The approval of the current revision. -/
def authoritativeApproval (current : Draft γ) (command : PublishCommand) :
    Except ContextError ApprovalDecision :=
  match current.approval with
  | some approval =>
    match approvedReview? current approval with
    | some review =>
      if authorizesPublication current command approval review then .ok approval
      else .error ⟨.staleApproval, "the approval does not authorize this draft revision"⟩
    | none => .error ⟨.staleApproval, "the approval does not authorize this draft revision"⟩
  | none => .error ⟨.staleApproval, "the approval does not authorize this draft revision"⟩

/-- The version that `publish_draft` writes. -/
def publishedVersion (actor : Actor) (current : Draft γ) (command : PublishCommand)
    (candidate : PublicationCandidate) (approval : ApprovalDecision)
    (receipt : OperationalContextReceipt) (now : Timestamp) :
    PublishedManifest (Manifest γ) where
  manifestId := current.manifestId
  manifestVersion := current.manifest.manifestVersion
  manifestDigest := current.manifestDigest
  manifest := current.manifest
  sourceDraftId := current.draftId
  sourceDraftRevision := current.revision + 1
  previousVersion := current.previousVersion
  approval := approval
  publishedBy := S.publicationActor
  publishedAt := candidate.finalizedAt
  publicationAuthorizedBy := actor
  publicationAuthorizedAt := now
  operationalContextReceiptId := some receipt.receiptId
  reason := command.reason

/-- The draft in a final state. -/
def closedDraft (state : DraftState) (actor : Actor) (current : Draft γ) (reason : String)
    (now : Timestamp) : Draft γ :=
  { current with
    state := state
    revision := current.revision + 1
    updatedBy := actor
    updatedAt := now
    reason := reason }

/-- `publish_draft`. -/
def publishDraft (clock : ClockReadings) (actor : Actor) (draftId : String)
    (command : PublishCommand) :
    ServiceTransaction γ δ R (PublishedManifest (Manifest γ)) := do
  let current ← requireDraft draftId
  checked (S.require actor .publish current.manifestId)
  checked (requireState current .approved)
  checked (ensureExpectedCommand current command.toTransitionCommand)
  let candidate ← checked (S.requireCurrentPublicationCandidate current)
  let approval ← checked (authoritativeApproval current command)
  let now ← checked clock.now
  let receipt ← S.requireOperationalContextReceipt current
    command.operationalContextReceiptId now
  S.validateLifecycleManifest current current.manifest current.manifestDigest now
  let existing ← getPublished current.manifestId current.manifest.manifestVersion
  raiseIf (existing.isSome = true)
    ⟨.duplicateVersion, "the manifest version is already published"⟩
  let store ← reading id
  checked (ensureLineage store current.manifestId current.manifest.manifestVersion
    current.previousVersion)
  let published := S.publishedVersion actor current command candidate approval receipt now
  let updated := closedDraft .published actor current command.reason now
  putPublished published
  putDraft updated (some current.revision)
  appendAudit S.auditEventDigest
    (auditEvent now actor .versionPublished updated (some current.revision) command.reason
      none (some S.publicationActor) (some candidate.finalizedAt))
  pure published

/-- `supersede_version`. -/
def supersedeVersion (clock : ClockReadings) (actor : Actor) (manifestId : String)
    (supersededVersion : ManifestVersion) (command : SupersedeCommand) :
    ServiceTransaction γ δ R Supersession := do
  let published ← requirePublished manifestId supersededVersion
  let source ← requireDraft published.sourceDraftId
  checked (requireState source .published)
  checked (ensureExpected source command.expectedRevision command.expectedManifestVersion
    command.expectedDigest)
  raiseIf (command.expectedManifestVersion ≠ supersededVersion)
    ⟨.versionMismatch, "expected version does not match the superseded version"⟩
  let existing ← getSupersession manifestId supersededVersion
  raiseIf (existing.isSome = true)
    ⟨.alreadySuperseded, "the manifest version is already superseded"⟩
  let replacement ← requirePublished manifestId command.replacementVersion
  raiseIf (replacement.manifestDigest ≠ command.replacementDigest)
    ⟨.digestMismatch, "replacement manifest digest does not match"⟩
  raiseIf (replacement.previousVersion ≠ some supersededVersion)
    ⟨.versionMismatch, "replacement previous_version does not reference the superseded version"⟩
  raiseIf (replacement.manifestVersion = supersededVersion)
    ⟨.versionMismatch, "a version cannot supersede itself"⟩
  let now ← checked clock.now
  let relation : Supersession :=
    { manifestId := manifestId
      supersededVersion := supersededVersion
      replacementVersion := replacement.manifestVersion
      supersededBy := actor
      supersededAt := now
      reason := command.reason }
  let updated := closedDraft .superseded actor source command.reason now
  putSupersession relation
  putDraft updated (some source.revision)
  appendAudit S.auditEventDigest
    (auditEvent now actor .versionSuperseded updated (some source.revision) command.reason
      (some replacement.manifestVersion) none none)
  pure relation

/-- `build_operational_context_receipt`. -/
def buildOperationalContextReceipt (issuer : Actor)
    (command : IssueOperationalContextReceiptCommand) (issuedAt : Timestamp) :
    Except ContextError OperationalContextReceipt :=
  let payload : OperationalContextReceipt :=
    { receiptId := S.operationalContextReceiptId issuer command
      issuedBy := issuer
      issuedAt := issuedAt
      manifestId := command.manifestId
      manifestVersion := command.manifestVersion
      profileId := command.profileId
      draftId := command.draftId
      draftRevision := command.draftRevision
      manifestDigest := command.manifestDigest
      profileDigest := command.profileDigest
      snapshotId := command.snapshotId
      collectedAt := command.collectedAt
      expiresAt := command.expiresAt
      evidenceCount := command.evidenceInventory.length
      evidenceInventoryDigest := command.evidenceInventoryDigest
      contentDigest := command.contentDigest
      bindingDigest := command.bindingDigest
      receiptDigest := "" }
  if command.collectedAt ≤ issuedAt ∧ issuedAt < command.expiresAt then
    .ok { payload with receiptDigest := S.operationalContextReceiptDigest payload }
  else .error ⟨.validation, "operational receipt time is outside its evidence validity"⟩

/-- Whether a stored receipt is the one that the command asks for. -/
def sameReceipt (issuer : Actor) (command : IssueOperationalContextReceiptCommand)
    (existing : OperationalContextReceipt) : Prop :=
  existing.issuedBy = issuer ∧ existing.manifestId = command.manifestId ∧
  existing.manifestVersion = command.manifestVersion ∧
  existing.profileId = command.profileId ∧ existing.draftId = command.draftId ∧
  existing.draftRevision = command.draftRevision ∧
  existing.manifestDigest = command.manifestDigest ∧
  existing.profileDigest = command.profileDigest ∧ existing.snapshotId = command.snapshotId ∧
  existing.collectedAt = command.collectedAt ∧ existing.expiresAt = command.expiresAt ∧
  existing.evidenceCount = command.evidenceInventory.length ∧
  existing.evidenceInventoryDigest = command.evidenceInventoryDigest ∧
  existing.contentDigest = command.contentDigest ∧
  existing.bindingDigest = command.bindingDigest

instance (issuer : Actor) (command : IssueOperationalContextReceiptCommand)
    (existing : OperationalContextReceipt) : Decidable (sameReceipt issuer command existing) := by
  unfold sameReceipt
  infer_instance

/-- The stored receipt under the candidate's identifier, or the candidate itself. -/
def storedOrNewReceipt (issuer : Actor) (command : IssueOperationalContextReceiptCommand)
    (candidate : OperationalContextReceipt) :
    Option OperationalContextReceipt → ServiceTransaction γ δ R OperationalContextReceipt
  | some existing => do
    raiseIf (¬ sameReceipt issuer command existing)
      ⟨.persistenceConflict, "operational context receipt identifier collision"⟩
    pure existing
  | none => do
    putOperationalContextReceipt candidate
    pure candidate

/-- `issue_operational_context_receipt`. -/
def issueOperationalContextReceipt (clock : ClockReadings) (actor : Actor)
    (command : IssueOperationalContextReceiptCommand) :
    ServiceTransaction γ δ R OperationalContextReceipt := do
  let current ← requireDraft command.draftId
  checked (S.require actor .issueOperationalContext current.manifestId)
  raiseIf (current.manifestId ≠ command.manifestId)
    ⟨.operationalContextReceiptInvalid,
      "operational context workload does not match its draft"⟩
  checked (ensureExpected current command.draftRevision command.manifestVersion
    command.manifestDigest)
  let now ← checked clock.now
  raiseIf (now < command.collectedAt ∨ command.expiresAt ≤ now)
    ⟨.staleEvidenceSnapshot, "operational context is future-dated or expired"⟩
  let store ← reading id
  let profile ← checked (S.resolveDraftProfile store current command.profileId now)
  raiseIf (profile.1 ≠ command.profileId ∨ profile.2 ≠ command.profileDigest)
    ⟨.operationalContextReceiptInvalid,
      "operational context profile digest is not authoritative"⟩
  let candidate ← checked (S.buildOperationalContextReceipt actor command now)
  let existing ← getOperationalContextReceipt candidate.receiptId
  storedOrNewReceipt actor command candidate existing

end ContextService

end AthenaContext.ContextMutations
