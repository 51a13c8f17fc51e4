import AthenaContext.CohortDecisionRecords
import AthenaContext.ContextMutations
import AthenaContext.ResourceIdentifiers

/-!
# The cohort decision service

`decide`: the replay of a decision from its receipt, the selector baseline that is
captured before it, and the one transaction that arbitrates the overlap, records the
decision, and replaces the draft. What other services answer during a call (the
clock, the reviewed batch, the candidate) is an input of the call, so it may be
different at every call. The checks of a candidate and the selector edit read
their arguments only and are fields of the service.
-/

namespace AthenaContext.CohortDecisions

open ContextRecords ContextStorage ContextMutations CohortDecisionRecords OrdinalCollections
open Dictionaries Transactions TextNormalization

variable {γ δ : Type}

/-! ## Errors -/

/-- The error classes of the cohort API beside those of the context API. -/
inductive CohortErrorCode
  | context (code : ErrorCode)
  | cohortBoundary
  | cohortContract
  | cohortDecisionConflict
  | cohortProfileMismatch
  | evidenceSnapshotMismatch
  | rejectedProposalSet
  deriving DecidableEq, Repr

structure CohortError where
  code : CohortErrorCode
  message : String
  deriving DecidableEq, Repr

/-- An error of the context API. -/
def contextError (error : ContextError) : CohortError := ⟨.context error.code, error.message⟩

abbrev DecisionTransaction (γ δ : Type) := Transaction (Store γ δ CohortRecords) CohortError

/-- An operation of the context API inside a decision. -/
def inContext {α : Type} (x : ServiceTransaction γ δ CohortRecords α) :
    DecisionTransaction γ δ α :=
  adapting contextError x

/-! ## The reviewed batch -/

/-- `CohortProposal`: the role, its selectors as canonical JSON text, and the members. -/
structure CohortProposal where
  proposalId : String
  roleId : String
  selectors : List String
  members : List String
  deriving DecidableEq, Repr

/-- `ResolvedCohortReview`: the immutable batch and the expiry of its snapshot. -/
structure ResolvedCohortReview where
  scope : ProposalScope
  sourceDraft : CohortDraftBinding
  inputDigest : String
  proposalSetDigest : String
  snapshotArtifactDigest : String
  snapshotExpiresAt : Timestamp
  proposals : List CohortProposal
  deriving DecidableEq, Repr

/-- `CohortReviewCandidate`: its canonical JSON text and the fields that a decision
reads. -/
structure CohortReviewCandidate where
  text : String
  candidateId : String
  expiresAt : Timestamp
  deriving DecidableEq, Repr

/-- What other services answer during one call. -/
structure DecisionReadings where
  /-- The first reading of the clock. -/
  validationTime : Except CohortError Timestamp
  /-- `resolve_for_decision`. -/
  review : Except CohortError ResolvedCohortReview
  /-- `_resolve_candidate` on a candidate that was submitted for an apply. -/
  candidate : Except CohortError CohortReviewCandidate
  /-- The second reading of the clock. -/
  decidedAt : Except CohortError Timestamp
  /-- The reading that closes the replacement of the draft. -/
  finalApplyAt : Except ContextError Timestamp

/-- The clock of the replacement. -/
def DecisionReadings.clock (readings : DecisionReadings) : ClockReadings where
  now := readings.finalApplyAt
  finalApplyAt := readings.finalApplyAt

/-- A decision service: the context service it applies decisions through, its digests,
and the checks that only read their arguments. -/
structure CohortDecisionService (γ δ : Type) where
  contextService : ContextService γ δ CohortRecords
  unicode : UnicodeTables
  normalizedIdentifier : String → String
  /-- `ExplicitWorkloadAuthorizationPort.require_explicit`. -/
  requireExplicit : Actor → Permission → String → Except CohortError Unit
  /-- The digest of the operation, the actor and the command. -/
  requestDigest : Actor → CohortDecisionRequest → Except CohortError String
  /-- The digest of a canonical JSON text. -/
  textDigest : String → String
  /-- The digest of the authority of a workload, a profile, a role and its selectors. -/
  authorityDigest : String → String → String → List String → String
  /-- `_stable_selector_payload`. -/
  stableSelectorPayload : String → String
  /-- `_member_rejection_fingerprint` of a normalized member. -/
  memberDigest : Text → String
  /-- `CohortDecisionApplyAuthorization.issue`: the mutation digest. -/
  mutationDigest : CohortDecisionApplyBinding → ReplaceDraftCommand (Manifest γ) → String
  /-- The digest of the dump of a decision record. -/
  recordDigest : CohortDecisionRecord → String
  /-- `_validate_candidate`. -/
  validateCandidate : CohortDecisionRequest → ResolvedCohortReview → List CohortProposal →
    Option CohortReviewCandidate → Timestamp → Except CohortError Unit
  /-- `_selector_only_replacement`: the command, and the binding that authorizes it. -/
  selectorOnlyReplacement : Draft γ → CohortDecisionRequest → CohortReviewCandidate →
    List CohortProposal → Actor → String → String → Timestamp → String →
      Except CohortError (ReplaceDraftCommand (Manifest γ) × CohortDecisionApplyBinding)

/-! ## Operations of the store -/

/-- The keys of the selected proposal-set versions are comparable. -/
instance : DecidableEq
    ((String × ManifestVersion × String × String × String × String) × List String) :=
  instDecidableEqProd

def getCohortDecision (manifestId decisionId : String) :
    DecisionTransaction γ δ (Option CohortDecisionRecord) :=
  reading fun store => store.others.decisions.get? (manifestId, decisionId)

/-- The order in which the store lists decisions. -/
def decisionOrder (decision : CohortDecisionRecord) : Lex (Timestamp × String) :=
  toLex (decision.decidedAt, decision.decisionId)

/-- `list_cohort_decisions` with every filter given. -/
def listCohortDecisions (manifestId profileId draftId proposalSetDigest : String) :
    DecisionTransaction γ δ (List CohortDecisionRecord) :=
  reading fun store => sortOn decisionOrder (store.others.decisions.values.filter fun decision =>
    decision.manifestId = manifestId ∧ decision.profileId = profileId ∧
      decision.sourceDraft.draftId = draftId ∧ decision.proposalSetDigest = proposalSetDigest)

/-- `list_overlapping_cohort_decisions`. -/
def overlappingDecisions (normalizedIdentifier : String → String) (records : CohortRecords)
    (version : CohortProposalSetVersion) : List CohortDecisionRecord :=
  sortOn decisionOrder (records.decisions.values.filter (overlaps normalizedIdentifier version))

/-- `put_cohort_decision`. -/
def putCohortDecision (normalizedIdentifier : String → String) (decision : CohortDecisionRecord) :
    DecisionTransaction γ δ Unit := do
  let store ← reading id
  let decisionKey := (decision.manifestId, decision.decisionId)
  let version := decision.proposalSetVersion
  let versionKey := version.authoritySelectedIdentity normalizedIdentifier
  raiseIf ((store.others.decisions.get? decisionKey).isSome = true)
    ⟨.context .persistenceConflict, "cohort decision identifier already exists"⟩
  raiseIf ((store.others.decisionVersions.get? versionKey).isSome = true)
    ⟨.context .persistenceConflict,
      "the proposal-set version already has an authoritative decision"⟩
  raiseIf (overlappingDecisions normalizedIdentifier store.others version ≠ [])
    ⟨.context .persistenceConflict,
      "an overlapping selected proposal already has an authoritative decision"⟩
  writing fun store => { store with others :=
    { store.others with
      decisions := store.others.decisions.set decisionKey decision
      decisionVersions := store.others.decisionVersions.set versionKey decisionKey } }

def getCohortDecisionReceipt (actorId idempotencyKey : String) :
    DecisionTransaction γ δ (Option CohortDecisionReceipt) :=
  reading fun store => store.others.decisionReceipts.get? (actorId, idempotencyKey)

/-- `put_cohort_decision_receipt`. -/
def putCohortDecisionReceipt (receipt : CohortDecisionReceipt) : DecisionTransaction γ δ Unit := do
  let existing ← getCohortDecisionReceipt receipt.actorId receipt.idempotencyKey
  raiseIf (existing.isSome = true) ⟨.context .idempotencyConflict,
    "cohort decision idempotency key has already been recorded"⟩
  writing fun store => { store with others :=
    { store.others with
      decisionReceipts := store.others.decisionReceipts.set
        (receipt.actorId, receipt.idempotencyKey) receipt } }

/-! ## The selector baseline -/

/-- `ensure_selector_baseline_for_decision`: a draft without a baseline must be the one
that the decision was made for. -/
def ensureSelectorBaselineForDecision (S : ContextService γ δ CohortRecords) (actor : Actor)
    (request : CohortDecisionRequest) :
    ServiceTransaction γ δ CohortRecords DraftSelectorBaseline := do
  let current ← requireDraft request.draftId
  checked (S.require actor .updateDraft current.manifestId)
  let existing ← getDraftSelectorBaseline request.draftId
  checked (if existing.isSome then .ok ()
    else ensureExpected current request.expectedRevision request.manifestVersion
      request.expectedDigest)
  S.requireSelectorBaseline current

/-! ## The selected proposals -/

/-- The first 32 digits of a digest behind its algorithm. -/
def decisionSeed (digest : String) : String :=
  let text := digest.toList
  let algorithm := "sha256:".toList
  String.ofList ((if algorithm.isPrefixOf text then text.drop algorithm.length else text).take 32)

/-- The identifier of the decision that a request leads to. -/
def cohortDecisionId (requestDigest : String) : String :=
  "cohort-decision-" ++ decisionSeed requestDigest

/-- The proposals of the batch under the requested identifiers; of two proposals with one
identifier, the later one. -/
def selectProposals (batch : List CohortProposal) :
    List String → Except CohortError (List CohortProposal)
  | [] => .ok []
  | proposalId :: rest =>
    match batch.reverse.find? fun proposal => proposal.proposalId == proposalId with
    | none => .error ⟨.cohortContract, "decision references a proposal outside the exact batch"⟩
    | some proposal => do
      let proposals ← selectProposals batch rest
      pure (proposal :: proposals)

namespace CohortDecisionService

variable (P : CohortDecisionService γ δ)

/-- `_validate_request_binding`. -/
def validateRequestBinding (request : CohortDecisionRequest) (review : ResolvedCohortReview) :
    Except CohortError (List CohortProposal) :=
  if request.scope ≠ review.scope ∨ request.proposalSetDigest ≠ review.proposalSetDigest ∨
      request.snapshotArtifactDigest ≠ review.snapshotArtifactDigest ∨
      review.sourceDraft ≠ ⟨request.draftId, request.expectedRevision, request.expectedDigest⟩ then
    .error ⟨.cohortContract, "decision bindings do not match the exact batch, profile, snapshot, " ++
      "or source draft"⟩
  else do
    let proposals ← selectProposals review.proposals request.proposalIds
    let sourceRoles := (proposals.map fun proposal => P.normalizedIdentifier proposal.roleId).dedup
    if request.action ≠ .reject ∧ sourceRoles.length ≠ 1 then
      .error ⟨.cohortContract, "approve, split, and merge require one exact source role"⟩
    else pure proposals

/-- The walk of `_source_union` over the members of the proposals. -/
def sourceUnionFrom (seen : List Text) : List String → Except CohortError (List Text)
  | [] => .ok seen
  | member :: rest =>
    match ResourceIdentifiers.normalizeResourceId P.unicode member.toList with
    | .error _ => .error ⟨.cohortContract, "source proposal contains an invalid Azure resource ID"⟩
    | .ok normalized =>
      if normalized ∈ seen then
        .error ⟨.cohortContract, "source proposals contain overlapping normalized members"⟩
      else sourceUnionFrom (seen ++ [normalized]) rest

/-- `_source_union`. -/
def sourceUnion (proposals : List CohortProposal) (allowEmpty : Bool) :
    Except CohortError (List Text) := do
  let members ← P.sourceUnionFrom [] (proposals.flatMap CohortProposal.members)
  if (members = [] ∧ allowEmpty = false) ∨ 1000 < members.length then
    .error ⟨.cohortBoundary, "decision source union must contain between 1 and 1,000 members"⟩
  else pure members

/-- `_selector_role_rejection_fingerprint`. -/
def selectorRoleRejectionFingerprint (manifestId profileId : String) (proposal : CohortProposal) :
    String :=
  P.authorityDigest (P.normalizedIdentifier manifestId) (P.normalizedIdentifier profileId)
    (P.normalizedIdentifier proposal.roleId)
    (sortOn P.textDigest (proposal.selectors.map P.stableSelectorPayload))

/-- `_member_rejection_fingerprint`. -/
def memberRejectionFingerprint (member : String) : Except CohortError String :=
  match ResourceIdentifiers.normalizeResourceId P.unicode member.toList with
  | .error message => .error ⟨.context .validation, message⟩
  | .ok normalized => .ok (P.memberDigest normalized)

/-- The fingerprints of the members of the proposals with a fingerprint, each once and in
order. -/
def membersGroupedUnder (request : CohortDecisionRequest) (proposals : List CohortProposal)
    (fingerprint : String) : Except CohortError (List String) := do
  let members ← ((proposals.filter fun proposal => P.selectorRoleRejectionFingerprint
    request.manifestId request.profileId proposal = fingerprint).flatMap
      CohortProposal.members).mapM P.memberRejectionFingerprint
  pure (sortOn id members.dedup)

/-- `_rejection_authorities`: the selected proposals by their fingerprint; one without
members has no authority. -/
def rejectionAuthorities (request : CohortDecisionRequest) (proposals : List CohortProposal) :
    Except CohortError (List CohortRejectionAuthority) := do
  let _ ← P.sourceUnion proposals (request.action = .reject)
  let fingerprints := sortOn id (proposals.map (P.selectorRoleRejectionFingerprint
    request.manifestId request.profileId)).dedup
  let authorities ← fingerprints.mapM fun fingerprint => do
    let members ← P.membersGroupedUnder request proposals fingerprint
    pure ⟨fingerprint, members⟩
  pure (authorities.filter fun authority => authority.memberFingerprints ≠ [])

end CohortDecisionService

/-- `_proposal_set_version`. -/
def proposalSetVersion (request : CohortDecisionRequest)
    (authorities : List CohortRejectionAuthority) : Except CohortError CohortProposalSetVersion :=
  if AuthoritiesValid authorities then
    .ok
      { manifestId := request.manifestId
        manifestVersion := request.manifestVersion
        profileId := request.profileId
        resolvedProfileDigest := request.scope.resolvedProfileDigest
        sourceDraft := ⟨request.draftId, request.expectedRevision, request.expectedDigest⟩
        proposalSetDigest := request.proposalSetDigest
        snapshotArtifactDigest := request.snapshotArtifactDigest
        sourceProposalIds := request.proposalIds
        sourceRejectionAuthorities := authorities }
  else .error ⟨.context .validation,
    "selected rejection authority members must be globally unique and bounded"⟩

/-- `_arbitrate_overlap`. -/
def arbitrateOverlap (request : CohortDecisionRequest) (existing : List CohortDecisionRecord) :
    Except CohortError Unit :=
  if existing = [] then .ok ()
  else if request.action ≠ .reject ∧ ∃ decision ∈ existing, decision.decision = .reject then
    .error ⟨.rejectedProposalSet,
      "a durable reject permanently blocks apply for an overlapping selected proposal"⟩
  else .error ⟨.cohortDecisionConflict,
    "an overlapping selected proposal already has an authoritative decision"⟩

/-! ## The current draft -/

/-- The binding of a proposal-set version, without its proposals and authorities. -/
def bindingOf (version : CohortProposalSetVersion) : CohortProposalSetVersion :=
  { version with sourceProposalIds := [], sourceRejectionAuthorities := [] }

/-- The applied drafts of the decisions on one binding; `seen` are those found so far. -/
def appliedDrafts (version : CohortProposalSetVersion) (seen : List CohortDraftBinding) :
    List CohortDecisionRecord → Except CohortError (List CohortDraftBinding)
  | [] => .ok seen
  | decision :: rest =>
    match decision.appliedDraft with
    | none => appliedDrafts version seen rest
    | some applied =>
      if bindingOf decision.proposalSetVersion ≠ bindingOf version then
        appliedDrafts version seen rest
      else if applied.draftId ≠ version.sourceDraft.draftId ∨
          applied.revision ≤ version.sourceDraft.revision ∨
          applied.revision ∈ seen.map CohortDraftBinding.revision then
        .error ⟨.context .staleRevision,
          "cohort decision apply history is not a valid revision chain"⟩
      else appliedDrafts version (seen ++ [applied]) rest

/-- The revision and digest that the applied drafts lead to, when each follows the one
before it. -/
def applyChain (draftRevision expectedRevision : ℕ) (expectedDigest : String) :
    List CohortDraftBinding → Except CohortError (ℕ × String)
  | [] => .ok (expectedRevision, expectedDigest)
  | applied :: rest =>
    if applied.revision ≠ expectedRevision ∨ draftRevision < applied.revision then
      .error ⟨.context .staleRevision,
        "draft advanced outside this immutable cohort decision batch"⟩
    else applyChain draftRevision (expectedRevision + 1) applied.manifestDigest rest

/-- The check of `_require_current_draft` on a draft that has moved on from its source. -/
def requireApplyChain (draft : Draft γ) (version : CohortProposalSetVersion)
    (decisions : List CohortDecisionRecord) : Except CohortError Unit := do
  let applied ← appliedDrafts version [] decisions
  let chain ← applyChain draft.revision (version.sourceDraft.revision + 1)
    version.sourceDraft.manifestDigest (sortOn CohortDraftBinding.revision applied)
  if chain.1 ≠ draft.revision + 1 ∨ draft.manifestDigest ≠ chain.2 then
    .error ⟨.context .staleRevision,
      "draft digest does not match the atomic cohort decision apply chain"⟩
  else pure ()

/-- The revision check of `_require_current_draft`. -/
def requireSourceRevision (draft : Draft γ) (version : CohortProposalSetVersion)
    (decisions : List CohortDecisionRecord) : Except CohortError Unit :=
  if draft.revision = version.sourceDraft.revision then
    if draft.manifestDigest ≠ version.sourceDraft.manifestDigest then
      .error ⟨.context .digestMismatch, "expected manifest digest does not match the draft"⟩
    else .ok ()
  else if draft.revision < version.sourceDraft.revision then
    .error ⟨.context .staleRevision, "expected draft revision " ++
      toString version.sourceDraft.revision ++ ", found " ++ toString draft.revision⟩
  else requireApplyChain draft version decisions

/-- `_resolve_candidate`. -/
def resolveCandidate (readings : DecisionReadings) (request : CohortDecisionRequest) :
    Except CohortError (Option CohortReviewCandidate) :=
  if request.action = .reject then .ok none
  else
    match request.candidate with
    | none => .error ⟨.cohortContract, "apply decision is missing its candidate"⟩
    | some _ => readings.candidate.map some

/-- The decision that the checks of the transaction lead to. -/
structure PreparedDecision (γ : Type) where
  review : ResolvedCohortReview
  proposals : List CohortProposal
  authorities : List CohortRejectionAuthority
  current : Draft γ
  decidedAt : Timestamp
  candidate : Option CohortReviewCandidate
  apply : Option (ReplaceDraftCommand (Manifest γ) × CohortDecisionApplyAuthorization)

/-- The draft that the decision leads to, when it is applied. -/
def PreparedDecision.appliedBinding (prepared : PreparedDecision γ) : Option CohortDraftBinding :=
  prepared.apply.map fun apply => apply.2.binding.resultingDraft

/-- The audit event of a decision. -/
def decisionAuditEvent (actor : Actor) (request : CohortDecisionRequest) (decisionId : String)
    (prepared : PreparedDecision γ) : PendingAuditEvent where
  occurredAt := prepared.decidedAt
  actor := actor
  action := .cohortDecisionRecorded
  manifestId := request.manifestId
  draftId := some request.draftId
  revision := some ((prepared.appliedBinding.map CohortDraftBinding.revision).getD
    prepared.current.revision)
  previousRevision := prepared.appliedBinding.map fun _ => prepared.current.revision
  manifestVersion := some request.manifestVersion
  previousVersion := prepared.current.previousVersion
  manifestDigest := (prepared.appliedBinding.map CohortDraftBinding.manifestDigest).getD
    prepared.current.manifestDigest
  reason := "Recorded cohort " ++ request.action.value ++ " decision " ++ decisionId ++
    "; full rationale retained in decision record."

namespace CohortDecisionService

variable (P : CohortDecisionService γ δ)

/-- `_require_current_draft`. -/
def requireCurrentDraft (request : CohortDecisionRequest) (version : CohortProposalSetVersion) :
    DecisionTransaction γ δ (Draft γ) := do
  let draft ← inContext (requireDraft request.draftId)
  raiseIf (draft.manifestId ≠ request.manifestId)
    ⟨.context .versionMismatch, "draft belongs to a different workload"⟩
  raiseIf (draft.manifest.manifestVersion ≠ request.manifestVersion)
    ⟨.context .versionMismatch, "expected manifest version does not match the draft"⟩
  raiseIf (draft.state ≠ .draft)
    ⟨.context .invalidTransition, "cohort decisions require an active draft state"⟩
  let digest ← inContext (checked
    (P.contextService.contract.computeArtifactDigestValue draft.manifest))
  raiseIf (digest ≠ draft.manifestDigest)
    ⟨.context .digestMismatch, "draft manifest digest is not canonical"⟩
  let decisions ← listCohortDecisions request.manifestId request.profileId request.draftId
    request.proposalSetDigest
  checked (requireSourceRevision draft version decisions)
  pure draft

/-- The replacement that applies a candidate, authorized at the instant of the
decision. -/
def authorizeReplacement (current : Draft γ) (request : CohortDecisionRequest)
    (proposals : List CohortProposal) (actor : Actor) (decisionId : String)
    (validationTime : Timestamp) : Option CohortReviewCandidate → Except CohortError
      (Option (ReplaceDraftCommand (Manifest γ) × CohortDecisionApplyBinding))
  | none => .ok none
  | some candidate => (P.selectorOnlyReplacement current request candidate proposals actor
      decisionId (P.textDigest candidate.text) validationTime
      ("Applied cohort " ++ request.action.value ++ " decision " ++ decisionId ++
        "; selector-only draft update. Full rationale retained in decision.")).map some

/-- The authorization of a replacement, issued again at the instant of the decision. -/
def issueAt (decidedAt : Timestamp)
    (replacement : ReplaceDraftCommand (Manifest γ) × CohortDecisionApplyBinding) :
    ReplaceDraftCommand (Manifest γ) × CohortDecisionApplyAuthorization :=
  let binding := { replacement.2 with decidedAt := decidedAt }
  (replacement.1, ⟨binding, P.mutationDigest binding replacement.1⟩)

/-- The checks of the transaction, which write nothing. -/
def prepareDecision (readings : DecisionReadings) (actor : Actor)
    (request : CohortDecisionRequest) (decisionId : String) :
    DecisionTransaction γ δ (PreparedDecision γ) := do
  let validationTime ← checked readings.validationTime
  let review ← checked readings.review
  let proposals ← checked (P.validateRequestBinding request review)
  let authorities ← checked (P.rejectionAuthorities request proposals)
  let version ← checked (proposalSetVersion request authorities)
  let store ← reading id
  checked (arbitrateOverlap request
    (overlappingDecisions P.normalizedIdentifier store.others version))
  raiseIf (review.snapshotExpiresAt ≤ validationTime) ⟨.context .staleEvidenceSnapshot,
    "the exact decision snapshot expired before atomic apply"⟩
  let candidate ← checked (resolveCandidate readings request)
  let current ← P.requireCurrentDraft request version
  checked (P.validateCandidate request review proposals candidate validationTime)
  let replacement ← checked (P.authorizeReplacement current request proposals actor decisionId
    validationTime candidate)
  let decidedAt ← checked readings.decidedAt
  raiseIf (decidedAt < validationTime ∨ review.snapshotExpiresAt ≤ decidedAt ∨
      ∃ submitted ∈ candidate, submitted.expiresAt ≤ decidedAt)
    ⟨.context .staleEvidenceSnapshot,
      "the exact decision evidence expired before atomic persistence"⟩
  pure
    { review := review
      proposals := proposals
      authorities := authorities
      current := current
      decidedAt := decidedAt
      candidate := candidate
      apply := replacement.map (P.issueAt decidedAt) }

/-- `_record`. -/
def decisionRecord (actor : Actor) (request : CohortDecisionRequest) (decisionId auditId : String)
    (prepared : PreparedDecision γ) : CohortDecisionRecord where
  decisionId := decisionId
  decision := request.action
  manifestId := request.manifestId
  manifestVersion := request.manifestVersion
  profileId := request.profileId
  profileType := prepared.review.scope.profileType
  resolvedProfileDigest := request.scope.resolvedProfileDigest
  sourceDraft := prepared.review.sourceDraft
  appliedDraft := prepared.appliedBinding
  batchInputDigest := prepared.review.inputDigest
  proposalSetDigest := request.proposalSetDigest
  sourceProposalIds := request.proposalIds
  sourceRoleRefs := ((prepared.review.proposals.filter fun proposal =>
    proposal.proposalId ∈ request.proposalIds).map CohortProposal.roleId).reverse.dedup.reverse
  sourceRejectionAuthorities := prepared.authorities
  snapshotArtifactDigest := prepared.review.snapshotArtifactDigest
  candidateId := prepared.candidate.map CohortReviewCandidate.candidateId
  candidateDigest := prepared.candidate.map fun candidate => P.textDigest candidate.text
  applyAuthorization := prepared.apply.map Prod.snd
  rationale := request.rationale
  decidedBy := actor
  decidedAt := prepared.decidedAt
  audit :=
    { auditId := auditId
      decisionId := decisionId
      actor := actor
      occurredAt := prepared.decidedAt
      sourceRevision := request.expectedRevision
      sourceProposalIds := request.proposalIds
      resultingRevision := prepared.appliedBinding.map CohortDraftBinding.revision
      draftMutated := prepared.appliedBinding.isSome }

/-- The replacement of the draft by an applied decision, which must lead to the draft
that was authorized. -/
def applyDecision (readings : DecisionReadings) (actor : Actor) (request : CohortDecisionRequest)
    (decisionId : String) (prepared : PreparedDecision γ) : DecisionTransaction γ δ Unit :=
  match prepared.apply with
  | none => pure ()
  | some (command, authorization) => do
    let applied ← inContext (P.contextService.replaceDraftInTransaction readings.clock actor
      request.draftId command (some (decisionId, prepared.decidedAt)))
    raiseIf (authorization.binding.resultingDraft ≠
        ⟨applied.draftId, applied.revision, applied.manifestDigest⟩)
      ⟨.context .persistenceConflict, "atomic cohort decision result differs from its " ++
        "persisted apply authorization"⟩

/-- The receipt of a decision. -/
def decisionReceipt (actor : Actor) (idempotencyKey requestDigest : String)
    (record : CohortDecisionRecord) : CohortDecisionReceipt where
  actorId := actor.actorId
  idempotencyKey := idempotencyKey
  requestDigest := requestDigest
  manifestId := record.manifestId
  decisionId := record.decisionId
  decisionDigest := P.recordDigest record

/-- The writes of the transaction. -/
def recordDecision (readings : DecisionReadings) (actor : Actor) (idempotencyKey : String)
    (request : CohortDecisionRequest) (requestDigest decisionId : String)
    (prepared : PreparedDecision γ) : DecisionTransaction γ δ CohortDecisionRecord := do
  inContext (appendAudit P.contextService.auditEventDigest
    (decisionAuditEvent actor request decisionId prepared))
  let audit ← reading fun store => store.audit
  let record := P.decisionRecord actor request decisionId (auditEventId audit.length) prepared
  raiseIf (¬ record.Valid P.normalizedIdentifier)
    ⟨.context .validation, "cohort decision record is inconsistent"⟩
  putCohortDecision P.normalizedIdentifier record
  P.applyDecision readings actor request decisionId prepared
  inContext (checked (requireId idempotencyKey))
  putCohortDecisionReceipt (P.decisionReceipt actor idempotencyKey requestDigest record)
  pure record

/-! ## A call -/

/-- `_replay_from_receipt`. -/
def replayFromReceipt (receipt : CohortDecisionReceipt) (decision : Option CohortDecisionRecord)
    (requestDigest manifestId : String) : Except CohortError CohortDecisionRecord :=
  if receipt.requestDigest ≠ requestDigest then
    .error ⟨.context .idempotencyConflict,
      "idempotency key was used for a different cohort decision"⟩
  else
    match decision with
    | none => .error ⟨.context .persistenceConflict,
        "stored cohort decision receipt does not resolve exactly"⟩
    | some record =>
      if receipt.manifestId ≠ manifestId ∨ record.manifestId ≠ receipt.manifestId ∨
          record.decisionId ≠ receipt.decisionId ∨
          P.recordDigest record ≠ receipt.decisionDigest then
        .error ⟨.context .persistenceConflict,
          "stored cohort decision receipt does not resolve exactly"⟩
      else .ok record

/-- The decision that a receipt under the key names. -/
def replayed (actor : Actor) (idempotencyKey requestDigest manifestId : String) :
    DecisionTransaction γ δ (Option CohortDecisionRecord) := do
  let found ← getCohortDecisionReceipt actor.actorId idempotencyKey
  match found with
  | none => pure none
  | some receipt => do
    let decision ← getCohortDecision receipt.manifestId receipt.decisionId
    let record ← checked (P.replayFromReceipt receipt decision requestDigest manifestId)
    pure (some record)

/-- The decision from the receipt, or else from the computation. -/
def unlessReplayed (x : DecisionTransaction γ δ CohortDecisionRecord) :
    Option CohortDecisionRecord → DecisionTransaction γ δ CohortDecisionRecord
  | some record => pure record
  | none => x

/-- The transaction that records a decision. -/
def decideTransaction (readings : DecisionReadings) (actor : Actor) (idempotencyKey : String)
    (request : CohortDecisionRequest) (requestDigest : String) :
    DecisionTransaction γ δ CohortDecisionRecord := do
  let replay ← P.replayed actor idempotencyKey requestDigest request.manifestId
  unlessReplayed (do
    let decisionId := cohortDecisionId requestDigest
    let prepared ← P.prepareDecision readings actor request decisionId
    P.recordDecision readings actor idempotencyKey request requestDigest decisionId prepared)
    replay

/-- `decide`: its transactions one after the other. -/
def decide (readings : DecisionReadings) (actor : Actor) (idempotencyKey : String)
    (request : CohortDecisionRequest) : DecisionTransaction γ δ CohortDecisionRecord := do
  raiseIf (actor.kind ≠ .human) ⟨.context .authorizationDenied,
    "cohort decision APIs require a verified human actor"⟩
  checked (P.requireExplicit actor .updateDraft request.manifestId)
  let requestDigest ← checked (P.requestDigest actor request)
  let replay ← atomically (P.replayed actor idempotencyKey requestDigest request.manifestId)
  unlessReplayed (do
    let _ ← atomically (inContext
      (ensureSelectorBaselineForDecision P.contextService actor request))
    let again ← atomically (P.replayed actor idempotencyKey requestDigest request.manifestId)
    unlessReplayed
      (atomically (P.decideTransaction readings actor idempotencyKey request requestDigest)) again)
    replay

end CohortDecisionService

/-! ## What the operations of the store did -/

variable {s t : Store γ δ CohortRecords}

theorem returns_inContext {α : Type} {x : ServiceTransaction γ δ CohortRecords α} {a : α} :
    Returns (inContext x) s a t ↔ Returns x s a t :=
  returns_adapting

/-- The scan of the store finds nothing when no stored decision overlaps. -/
theorem overlappingDecisions_eq_nil {normalizedIdentifier : String → String}
    {records : CohortRecords} {version : CohortProposalSetVersion} :
    overlappingDecisions normalizedIdentifier records version = [] ↔
      ∀ key decision, records.decisions.get? key = some decision →
        ¬ overlaps normalizedIdentifier version decision = true := by
  rw [overlappingDecisions, sortOn_eq_nil, List.filter_eq_nil_iff]
  constructor
  · intro h key decision hd
    exact h decision (Dictionary.mem_values.mpr ⟨key, hd⟩)
  · intro h decision hd
    obtain ⟨key, hkey⟩ := Dictionary.mem_values.mp hd
    exact h key decision hkey

/-- A decision is put where no decision has its identifier or overlaps with it. -/
theorem returns_putCohortDecision {normalizedIdentifier : String → String}
    {decision : CohortDecisionRecord} {r : Unit}
    (h : Returns (putCohortDecision normalizedIdentifier decision) s r t) :
    s.others.decisions.get? (decision.manifestId, decision.decisionId) = none ∧
      overlappingDecisions normalizedIdentifier s.others decision.proposalSetVersion = [] ∧
      ∃ versions, t = { s with others :=
        { decisions := s.others.decisions.set (decision.manifestId, decision.decisionId) decision
          decisionVersions := versions
          decisionReceipts := s.others.decisionReceipts } } := by
  simp only [putCohortDecision, returns_bind, returns_reading, returns_raiseIf,
    returns_writing, ne_eq, not_not] at h
  obtain ⟨store, _, ⟨hstore, rfl⟩, _, _, ⟨hfresh, rfl⟩, _, _, ⟨-, rfl⟩, _, _, ⟨hfree, rfl⟩, rfl⟩ := h
  have hstore : s = store := hstore
  subst hstore
  exact ⟨by simpa using hfresh, hfree, _, rfl⟩

/-- A receipt is put under a key that has none. -/
theorem returns_putCohortDecisionReceipt {receipt : CohortDecisionReceipt} {r : Unit}
    (h : Returns (putCohortDecisionReceipt receipt) s r t) :
    s.others.decisionReceipts.get? (receipt.actorId, receipt.idempotencyKey) = none ∧
      t = { s with others :=
        { s.others with
          decisionReceipts := s.others.decisionReceipts.set
            (receipt.actorId, receipt.idempotencyKey) receipt } } := by
  simp only [putCohortDecisionReceipt, getCohortDecisionReceipt, returns_bind, returns_reading,
    returns_raiseIf, returns_writing] at h
  obtain ⟨_, _, ⟨rfl, rfl⟩, _, _, ⟨hfresh, rfl⟩, rfl⟩ := h
  exact ⟨by simpa using hfresh, rfl⟩

end AthenaContext.CohortDecisions
