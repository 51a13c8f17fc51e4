import AthenaContext.EvaluationPublication

/-!
# Administration of evaluation authority

The transactions that change what an evaluation reads: approvals are created and revoked,
grants and the trusted key replaced. An approval and a key are replaced under the next revision
only, and grants under a revision that counts their replacements.
-/

namespace AthenaContext.EvaluationAdministration

open JsonText Transactions
open ContextRecords ContextStorage ContextMutations EvaluationRecords
open EvaluationAuthority EvaluationPublication

variable {γ δ : Type} {E : EvidenceTypes}

abbrev EvaluationTransaction (γ δ : Type) (E : EvidenceTypes) :=
  Transaction (EvaluationStore γ δ E) EvaluationError

/-! ## Writes -/

/-- The store with other evaluation tables. -/
def withTables (store : EvaluationStore γ δ E) (tables : EvaluationTables E) :
    EvaluationStore γ δ E :=
  { store with others := tables }

/-- Whether `put_demo_evaluation_approval` may write over the present approval. -/
def putApprovalCheck (decisionId : String) (current : Option DemoEvaluationApproval)
    (expectedRevision : Option ℕ) : Outcome Unit :=
  match expectedRevision, current with
  | none, some _ => .error ⟨.context .duplicateVersion,
      "demo evaluation approval '" ++ decisionId ++ "' exists"⟩
  | none, none => .ok ()
  | some _, none => .error ⟨.context .resourceNotFound,
      "demo evaluation approval '" ++ decisionId ++ "' was not found"⟩
  | some expected, some approval =>
    if approval.revision ≠ expected then
      .error (staleRevision ("expected approval revision " ++ toString expected ++ ", found " ++
        toString approval.revision))
    else .ok ()

/-- `put_demo_evaluation_approval` -/
def putApproval (approval : DemoEvaluationApproval) (expectedRevision : Option ℕ) :
    EvaluationTransaction γ δ E Unit := do
  let store ← reading id
  let approvals := store.others.demoEvaluationApprovals
  checked (putApprovalCheck approval.decisionId (approvals.get? approval.decisionId) expectedRevision)
  writing fun store => withTables store { store.others with
    demoEvaluationApprovals := store.others.demoEvaluationApprovals.set approval.decisionId approval }

section Administration

variable (S : EvaluationService γ δ E)

/-! ## Approvals -/

/-- The target of a mutation of an approval. -/
def approvalTarget (manifestId : String) (manifestVersion : ManifestVersion) : MutationTarget :=
  { manifestId := some manifestId, manifestVersion := some manifestVersion }

def approvalTargetJson (manifestId : String) (manifestVersion : ManifestVersion) : Json :=
  .object [("manifest_id".toList, textJson manifestId),
    ("manifest_version".toList, textJson manifestVersion.text)]

/-- Whether a receipt is of a mutation of an approval, with its digest. -/
def answersApproval (receipt : MutationReceipt (CanonicalWorkloadManifest δ)) (operation : String)
    (target : MutationTarget) (digest : String) : Prop :=
  receipt.operation = operation ∧ receipt.target = target ∧ receipt.requestDigest = digest ∧
    receipt.responseType = "DemoEvaluationApproval"

instance (receipt : MutationReceipt (CanonicalWorkloadManifest δ)) (operation : String)
    (target : MutationTarget) (digest : String) :
    Decidable (answersApproval receipt operation target digest) := by
  unfold answersApproval
  infer_instance

/-- The approval that a receipt answers with. -/
def replayApproval (receipt : MutationReceipt (CanonicalWorkloadManifest δ)) (operation : String)
    (target : MutationTarget) (digest : String) : Outcome DemoEvaluationApproval :=
  if ¬ answersApproval receipt operation target digest then
    .error (idempotencyConflict "idempotency key was used for a different mutation")
  else
    match receipt.responseJson with
    | .inr text => (S.readApproval text).mapError valueError
    | .inl _ => .error (valueError "the stored response is of another service")

/-- The audit event and the receipt of a written approval. -/
def recordApproval (actor : Actor) (idempotencyKey operation digest reason : String)
    (action : AuditAction) (previousRevision : Option ℕ) (occurredAt : Timestamp)
    (approval : DemoEvaluationApproval) : EvaluationTransaction γ δ E Unit := do
  adapting ofContext (appendAudit S.contextService.auditEventDigest
    { occurredAt := occurredAt
      actor := actor
      action := action
      manifestId := approval.manifestId
      revision := some approval.revision
      previousRevision := previousRevision
      manifestVersion := some approval.manifestVersion
      manifestDigest := approval.manifestDigest
      reason := reason })
  adapting ofContext (putReceipt
    { actorId := actor.actorId
      idempotencyKey := idempotencyKey
      operation := operation
      target := approvalTarget approval.manifestId approval.manifestVersion
      requestDigest := digest
      responseType := "DemoEvaluationApproval"
      responseJson := .inr (S.writeApproval approval) })

/-- The digest of a request for an approval. -/
def createDigest (actor : Actor) (command : CreateDemoEvaluationApprovalCommand) : Outcome String :=
  S.artifactDigest (.object
    [("operation".toList, textJson "create_demo_evaluation_approval"),
      ("actorId".toList, textJson actor.actorId),
      ("target".toList, approvalTargetJson command.manifestId command.manifestVersion),
      ("command".toList, .object
        [("decision_id".toList, textJson command.decisionId),
          ("expires_at".toList, timeJson command.expiresAt),
          ("manifest_id".toList, textJson command.manifestId),
          ("manifest_version".toList, textJson command.manifestVersion.text),
          ("manifest_digest".toList, textJson command.manifestDigest),
          ("profile_id".toList, textJson command.profileId),
          ("authorized_scope".toList, command.authorizedScope.dump),
          ("reason".toList, textJson command.reason)])])

/-- The approval that a command asks for, where it matches one active version. -/
def newApproval (W : UnitOfWork γ δ E) (actor : Actor)
    (command : CreateDemoEvaluationApprovalCommand) (approvedAt : Timestamp)
    (collectionAuthority : EvaluationCollectionAuthority) : Outcome DemoEvaluationApproval := do
  let (resolved, _) ← W.resolveContext command.manifestId command.manifestVersion command.profileId
    approvedAt
  let published := resolved.published
  if resolved.supersession ≠ none ∨ published.manifestId ≠ command.manifestId ∨
      published.manifestVersion ≠ command.manifestVersion ∨
      published.manifestDigest ≠ command.manifestDigest ∨
      resolved.profile.profileId ≠ command.profileId then
    throw (approvalError
      "approval intent does not match one exact active published manifest profile")
  if command.expiresAt ≤ approvedAt then
    throw (approvalError
      "demo evaluation approval expiry must be after the authoritative approval time")
  let approval : DemoEvaluationApproval :=
    { decisionId := command.decisionId
      status := .authorized
      revision := 1
      revokedAt := none
      approvedBy := actor
      approvedAt := approvedAt
      expiresAt := command.expiresAt
      manifestId := published.manifestId
      manifestVersion := published.manifestVersion
      manifestDigest := published.manifestDigest
      profileId := resolved.profile.profileId
      authorizedScope := command.authorizedScope
      privateMcpEndpoint := collectionAuthority.privateMcpEndpoint
      evidenceIdentityObjectId := collectionAuthority.evidenceIdentityObjectId
      reason := command.reason }
  validateHumanDecision approval
  pure approval

/-- The write of a new approval. -/
def createNewApproval (clock : Outcome Timestamp) (actor : Actor) (idempotencyKey digest : String)
    (command : CreateDemoEvaluationApprovalCommand) :
    EvaluationTransaction γ δ E DemoEvaluationApproval := do
  let collectionAuthority ← checked ((S.buildCollectionAuthority command.authorizedScope).mapError
    fun _ => approvalError
      "approval scope does not match one exact configured WC-008 Reader assignment")
  let approvedAt ← checked clock
  let store ← reading id
  let approval ← checked (newApproval ⟨S, store, actor⟩ actor command approvedAt collectionAuthority)
  putApproval approval none
  recordApproval S actor idempotencyKey "create_demo_evaluation_approval" digest command.reason
    .demoEvaluationApprovalCreated none approvedAt approval
  pure approval

/-- `create_demo_evaluation_approval` -/
def createApproval (clock : Outcome Timestamp) (actor : Actor) (idempotencyKey : String)
    (command : CreateDemoEvaluationApprovalCommand) :
    EvaluationTransaction γ δ E DemoEvaluationApproval := do
  let digest ← checked (createDigest S actor command)
  let store ← reading id
  let W : UnitOfWork γ δ E := ⟨S, store, actor⟩
  let _ ← checked (W.authorize actor .approve command.manifestId)
  match store.receipts.get? (actor.actorId, idempotencyKey) with
  | some receipt => checked (replayApproval S receipt "create_demo_evaluation_approval"
      (approvalTarget command.manifestId command.manifestVersion) digest)
  | none => createNewApproval S clock actor idempotencyKey digest command

/-- The digest of a request to revoke an approval. -/
def revokeDigest (actor : Actor) (decisionId : String) (current : DemoEvaluationApproval)
    (command : RevokeDemoEvaluationApprovalCommand) : Outcome String :=
  S.artifactDigest (.object
    [("operation".toList, textJson "revoke_demo_evaluation_approval"),
      ("actorId".toList, textJson actor.actorId), ("decisionId".toList, textJson decisionId),
      ("target".toList, approvalTargetJson current.manifestId current.manifestVersion),
      ("command".toList, .object
        [("expected_revision".toList, .number command.expectedRevision),
          ("reason".toList, textJson command.reason)])])

/-- The revoked approval, at its next revision. -/
def revokedApproval (current : DemoEvaluationApproval) (revokedAt : Timestamp) :
    DemoEvaluationApproval :=
  { current with
    status := .revoked
    revision := current.revision + 1
    revokedAt := some revokedAt }

/-- The write of a revocation. -/
def revokeCurrentApproval (clock : Outcome Timestamp) (actor : Actor)
    (idempotencyKey digest : String) (current : DemoEvaluationApproval)
    (command : RevokeDemoEvaluationApprovalCommand) :
    EvaluationTransaction γ δ E DemoEvaluationApproval := do
  raiseIf (current.revision ≠ command.expectedRevision)
    (staleRevision "demo evaluation approval revision changed before revocation")
  let revokedAt ← checked clock
  raiseIf (revokedAt < current.approvedAt)
    (approvalError "authoritative approval clock moved backwards")
  checked (validateHumanDecision (revokedApproval current revokedAt))
  putApproval (revokedApproval current revokedAt) (some current.revision)
  recordApproval S actor idempotencyKey "revoke_demo_evaluation_approval" digest command.reason
    .demoEvaluationApprovalRevoked (some current.revision) revokedAt (revokedApproval current revokedAt)
  pure (revokedApproval current revokedAt)

/-- `revoke_demo_evaluation_approval` -/
def revokeApproval (clock : Outcome Timestamp) (actor : Actor) (decisionId idempotencyKey : String)
    (command : RevokeDemoEvaluationApprovalCommand) :
    EvaluationTransaction γ δ E DemoEvaluationApproval := do
  let store ← reading id
  let W : UnitOfWork γ δ E := ⟨S, store, actor⟩
  let current ← orRaise (store.others.demoEvaluationApprovals.get? decisionId)
    ⟨.context .resourceNotFound, "demo evaluation approval '" ++ decisionId ++ "' was not found"⟩
  let _ ← checked (W.authorize actor .approve current.manifestId)
  let digest ← checked (revokeDigest S actor decisionId current command)
  match store.receipts.get? (actor.actorId, idempotencyKey) with
  | some receipt => checked (replayApproval S receipt "revoke_demo_evaluation_approval"
      (approvalTarget current.manifestId current.manifestVersion) digest)
  | none => revokeCurrentApproval S clock actor idempotencyKey digest current command

/-! ## Grants and the trusted key -/

/-- `replace_demo_evaluation_grants` -/
def replaceGrants (actor : Actor) (grants : List RoleGrant) (expectedRevision : ℕ) :
    EvaluationTransaction γ δ E Unit := do
  checked ((S.requireAllWorkloads actor .publish).mapError ofContext)
  let store ← reading id
  raiseIf (store.others.evaluationGrantRevision ≠ expectedRevision)
    (staleRevision ("expected evaluation grant revision " ++ toString expectedRevision ++ ", found " ++
      toString store.others.evaluationGrantRevision))
  writing fun store => withTables store { store.others with
    evaluationGrants := grants
    evaluationGrantRevision := store.others.evaluationGrantRevision + 1 }

/-- Whether `put_demo_evaluation_trusted_key` may write over the present key. -/
def putTrustedKeyCheck (current : Option EvaluationTrustedKeyAuthority)
    (authority : EvaluationTrustedKeyAuthority) (expectedRevision : ℕ) : Outcome Unit :=
  match current with
  | none => .error ⟨.context .resourceNotFound, "demo evaluation trusted key was not found"⟩
  | some key =>
    if key.revision ≠ expectedRevision then
      .error (staleRevision ("expected trusted key revision " ++ toString expectedRevision ++
        ", found " ++ toString key.revision))
    else if authority.revision ≠ expectedRevision + 1 then
      .error (staleRevision "trusted key replacement must use the next revision")
    else .ok ()

/-- `put_demo_evaluation_trusted_key` -/
def putTrustedKey (actor : Actor) (authority : EvaluationTrustedKeyAuthority)
    (expectedRevision : ℕ) : EvaluationTransaction γ δ E Unit := do
  checked ((S.requireAllWorkloads actor .approve).mapError ofContext)
  let anchor ← checked (requireTrust S)
  raiseIf (authority.record.anchor ≠ anchor) ⟨.demoEvaluationConfiguration,
    "trusted key replacement does not match this ContextService anchor"⟩
  let store ← reading id
  let keyId := authority.record.anchor.keyVaultKeyId
  checked (putTrustedKeyCheck (store.others.demoEvaluationTrustedKeys.get? keyId) authority
    expectedRevision)
  writing fun store => withTables store { store.others with
    demoEvaluationTrustedKeys := store.others.demoEvaluationTrustedKeys.set keyId authority }

end Administration

end AthenaContext.EvaluationAdministration
