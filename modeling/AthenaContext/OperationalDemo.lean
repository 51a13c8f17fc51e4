import AthenaContext.IncidentRecords
import AthenaContext.PortPrograms
import Mathlib

/-!
# The operational demonstration

The operator stops a web node, has the phase job evaluate the workload before, while and
after the node is down, and starts the node again. Its ports may answer anything of their
declared types or raise any exception. The parsers, the canonical JSON of a snapshot, and
the verification of a result are parameters that may raise whatever they like: of each
result only the fields which the operator reads are kept. The scenario has one value and is
left out. A wait is bounded by a number of polls.
-/

namespace AthenaContext.OperationalDemo

open PortPrograms PortPrograms.Run
open IncidentRecords (Digest UtcDateTime VersionPinnedBlobReference)

/-! ## Exceptions -/

/-- The exceptions which the operator tells apart. A class stands for its subclasses: the
validation errors and the decoding errors are value errors. -/
inductive ExceptionClass
  | operatorError | valueError | typeError | liveAcceptanceError | recursionError | other
  deriving DecidableEq, Repr

/-- An exception in flight. -/
structure Raised where
  cls : ExceptionClass
  message : String
  deriving DecidableEq, Repr

/-- `OperationalDemoOperatorError`. -/
def operatorError (message : String) : Raised := ⟨.operatorError, message⟩

/-! ## Phases, receipts and their references -/

/-- `ArgusPresentationPhase`. -/
inductive Phase
  | baseline | faulted | recovered
  deriving DecidableEq, Repr

/-- Wire text of a phase. -/
def Phase.text : Phase → String
  | .baseline => "baseline"
  | .faulted => "faulted"
  | .recovered => "recovered"

/-- `ReceiptAction`. -/
inductive ReceiptAction
  | status | inject | reset
  deriving DecidableEq, Repr

/-- Wire text of an action. -/
def ReceiptAction.text : ReceiptAction → String
  | .status => "status"
  | .inject => "inject"
  | .reset => "reset"

/-- `phase_by_action`. -/
def ReceiptAction.phase : ReceiptAction → Phase
  | .status => .baseline
  | .inject => .faulted
  | .reset => .recovered

/-- `ReceiptPowerState`. -/
inductive PowerState
  | running | stopped | deallocated
  deriving DecidableEq, Repr

/-- `DemoFaultRunReceipt`. -/
structure DemoFaultRunReceipt where
  faultRunId : String
  action : ReceiptAction
  resourceGroup : String
  namePrefix : String
  targetVmName : String
  targetVmResourceId : String
  eligibleWebVmNames : List String
  beforePowerState : PowerState
  afterPowerState : PowerState
  startedAt : UtcDateTime
  completedAt : UtcDateTime
  deriving DecidableEq, Repr

/-- What the lineage digest of a receipt covers. -/
structure FaultLineage where
  faultRunId : String
  resourceGroup : String
  namePrefix : String
  targetVmName : String
  targetVmResourceId : String
  eligibleWebVmNames : List String
  deriving DecidableEq, Repr

/-- Name of the receipt of a phase. -/
def receiptName (runId : String) (phase : Phase) : String :=
  "runs/" ++ runId ++ "/inputs/" ++ phase.text ++ "/fault-receipt.json"

/-- The fifth of `operational_phase_artifact_names`. -/
def completionIndexName (runId : String) (phase : Phase) : String :=
  "runs/" ++ runId ++ "/" ++ phase.text ++ "/phase-completion-index.json"

/-- `OperationalDemoWorkloadActionReport`. -/
structure WorkloadActionReport where
  runId : String
  action : ReceiptAction
  receipt : DemoFaultRunReceipt
  receiptReference : VersionPinnedBlobReference
  receipt_action : receipt.action = action
  reference_name : receiptReference.name = receiptName runId action.phase
  deriving DecidableEq

/-- `OperationalPhaseInputs`. -/
structure OperationalPhaseInputs where
  runId : String
  bundleDigest : Digest
  phase : Phase
  receipt : VersionPinnedBlobReference
  previousPhaseIndex : Option VersionPinnedBlobReference
  deriving DecidableEq, Repr

/-- `validate_available_inputs`; the operator gives no lineage reference. -/
def OperationalPhaseInputs.valid (i : OperationalPhaseInputs) : Prop :=
  i.receipt.name = receiptName i.runId i.phase ∧
    match i.phase with
    | .baseline => i.previousPhaseIndex = none
    | .faulted => ∃ r ∈ i.previousPhaseIndex, r.name = completionIndexName i.runId .baseline
    | .recovered => ∃ r ∈ i.previousPhaseIndex, r.name = completionIndexName i.runId .faulted

instance (i : OperationalPhaseInputs) : Decidable i.valid := by
  unfold OperationalPhaseInputs.valid
  cases i.phase <;> infer_instance

/-- `OperationalPhaseExecutionRequest`. -/
structure OperationalPhaseExecutionRequest where
  runId : String
  phase : Phase
  bundleFile : String
  phaseInputs : OperationalPhaseInputs
  deriving DecidableEq, Repr

/-- `_validate_fixed_text`, where `strip` is the text without blanks at its ends. -/
def fixedText (strip : String → String) (value : String) : Prop :=
  value ≠ "" ∧ value.length ≤ 2048 ∧ value = strip value ∧
    ∀ c ∈ value.toList, c ≠ '\x00' ∧ c ≠ '\r' ∧ c ≠ '\n'

instance (strip : String → String) (value : String) : Decidable (fixedText strip value) := by
  unfold fixedText
  have : Decidable (∀ c ∈ value.toList, c ≠ '\x00' ∧ c ≠ '\r' ∧ c ≠ '\n') :=
    List.decidableBAll _ _
  infer_instance

/-! ## Answers of the ports -/

/-- `OperationalPhaseExecutionRecord`. -/
structure ExecutionRecord where
  runId : String
  phase : Phase
  executionId : String
  deriving DecidableEq, Repr

/-- `OperationalPhaseExecutionState`. -/
inductive ExecutionState
  | running | succeeded | failed | unknown
  deriving DecidableEq, Repr

/-- `OperationalPhaseExecutionStatus`. -/
structure ExecutionStatus where
  runId : String
  phase : Phase
  executionId : String
  state : ExecutionState
  deriving DecidableEq, Repr

/-- `OperationalPhaseReferenceHandoff`. -/
structure ReferenceHandoff where
  runId : String
  phase : Phase
  bundleDigest : Digest
  completionIndex : VersionPinnedBlobReference
  index_name : completionIndex.name = completionIndexName runId phase
  deriving DecidableEq

/-- `ArtifactReadResult`. -/
structure ArtifactReadResult (Payload : Type) where
  blobName : String
  versionId : String
  payloadSha256 : Digest
  payload : Payload
  deriving DecidableEq, Repr

/-- `PresentationPublicationReceipt`. -/
structure PublicationReceipt where
  runId : String
  manifestBlobName : String
  manifestSha256 : Digest
  deriving DecidableEq, Repr

/-- The answers of the ports and of the clock in one run. Every phase starts at most once;
within a phase the polls, the reads and the clock readings are numbered. -/
structure Ports (Payload : Type) where
  workload : ReceiptAction → Except Raised WorkloadActionReport
  startPhase : Phase → Except Raised ExecutionRecord
  readStatus : Phase → ℕ → Except Raised ExecutionStatus
  readHandoff : Phase → Except Raised ReferenceHandoff
  readArtifact : Phase → ℕ → Except Raised (ArtifactReadResult Payload)
  publish : Except Raised PublicationReceipt
  monotonic : Phase → ℕ → ℤ
  utcNow : UtcDateTime

/-- A call of a port. -/
inductive PortCall
  | workload (action : ReceiptAction)
  | startPhase (request : OperationalPhaseExecutionRequest)
  | readStatus (execution : ExecutionRecord)
  | readHandoff (execution : ExecutionRecord)
  | readArtifact (phase : Phase) (reference : VersionPinnedBlobReference)
  | publish
  deriving DecidableEq, Repr

/-! ## Artifacts of a phase -/

/-- `OperationalPhaseCompletionIndex`. -/
structure CompletionIndex where
  runId : String
  phase : Phase
  bundleDigest : Digest
  configurationDigest : Digest
  receipt : VersionPinnedBlobReference
  previousPhaseIndex : Option VersionPinnedBlobReference
  previousPhaseIndexDigest : Option Digest
  lineageDigest : Digest
  attemptId : String
  snapshotId : String
  idempotencyKeyDigest : Digest
  receiptAction : ReceiptAction
  receiptStartedAt : UtcDateTime
  receiptCompletedAt : UtcDateTime
  receiptBeforePowerState : PowerState
  receiptAfterPowerState : PowerState
  resultDigest : Digest
  snapshotArtifactDigest : Digest
  snapshotSemanticDigest : Digest
  presentationDigest : Digest
  artifacts : List VersionPinnedBlobReference
  indexDigest : Digest
  deriving DecidableEq, Repr

/-- `EvidenceSnapshot`: its compatibility digests and the rest of it. -/
structure EvidenceSnapshot (Body : Type) where
  artifactDigest : Digest
  semanticDigest : Digest
  body : Body
  deriving DecidableEq, Repr

/-- `DemoEvaluationResult`. -/
structure DemoEvaluationResult (Body : Type) where
  resultDigest : Digest
  snapshot : EvidenceSnapshot Body
  publishedAt : UtcDateTime
  body : Body
  deriving DecidableEq, Repr

/-- `ArgusPresentationPayload`: its digest, its snapshot, the verdict of its first finding
and the state of its web tier. -/
structure ArgusPresentationPayload (Body : Type) where
  resultDigest : Digest
  snapshotId : String
  verdict : String
  serviceState : String
  body : Body
  deriving DecidableEq, Repr

/-- `OperationalPhaseConfiguration`. -/
structure PhaseConfiguration where
  wc013ConfigurationDigest : Digest
  attemptId : String
  snapshotId : String
  idempotencyKey : String
  deriving DecidableEq, Repr

/-- `PreparedOperationalDemoOperator`: what the operator reads of its configuration and of
the reviewed bundle. -/
structure PreparedOperator where
  runId : String
  bundlePath : String
  bundleDigest : Digest
  configurations : Phase → PhaseConfiguration
  pollTimeoutSeconds : ℕ
  confirmationPhrase : String
  publisherConfigured : Bool

/-- `OperationalDemoPhaseSummary`. -/
structure PhaseSummary where
  phase : Phase
  syntheticSnapshotId : String
  resultDigest : Digest
  presentationDigest : Digest
  verdict : String
  serviceState : String
  completionIndexDigest : Digest
  deriving DecidableEq, Repr

/-- `_VerifiedPhaseArtifacts`. -/
structure VerifiedPhaseArtifacts (Payload : Type) where
  receiptReport : WorkloadActionReport
  completionIndex : CompletionIndex
  completionIndexReference : VersionPinnedBlobReference
  summary : PhaseSummary
  presentationPayload : Payload
  presentationAttestation : Payload
  targetResourceGroup : String
  evaluatedAt : UtcDateTime

/-- `OperationalDemoPublicationSummary`. -/
structure PublicationSummary where
  targetResourceGroup : String
  evaluatedAt : UtcDateTime
  publishedAt : UtcDateTime
  manifestDigest : Digest
  deriving DecidableEq, Repr

/-- `OperationalDemoOperatorResult`. -/
structure OperatorResult where
  runId : String
  baseline : PhaseSummary
  faulted : PhaseSummary
  recovered : PhaseSummary
  publication : Option PublicationSummary
  deriving DecidableEq, Repr

/-- What the operator computes with: text functions and digests, which always have a value,
and parsers and verifications, also those of this repository, which may raise anything. -/
structure Library (Payload Body : Type) where
  casefold : String → String
  strip : String → String
  lineageDigest : FaultLineage → Digest
  keyDigest : String → Digest
  size : Payload → ℕ
  completionIndex : Payload → Except Raised CompletionIndex
  evaluationResult : Payload → Except Raised (DemoEvaluationResult Body)
  evidenceSnapshot : Payload → Except Raised (EvidenceSnapshot Body)
  presentation : Payload → Except Raised (ArgusPresentationPayload Body)
  attestation : Payload → Except Raised Body
  /-- `json.loads`, with nothing for a value that is no object. -/
  loads : Payload → Except Raised (Option Body)
  snapshotJson : EvidenceSnapshot Body → Except Raised String
  /-- The verification of a result and its source envelope, and the presentation which it
  projects. -/
  expectedPresentation : Phase → CompletionIndex → DemoFaultRunReceipt →
    DemoEvaluationResult Body → Body → Except Raised (ArgusPresentationPayload Body)
  presentationJson : ArgusPresentationPayload Body → Except Raised String
  verifyAttestation : ArgusPresentationPayload Body → Body → Except Raised Bool
  /-- The publication request of the three phases, with its manifest digest. -/
  publicationRequest : PreparedOperator → VerifiedPhaseArtifacts Payload →
    VerifiedPhaseArtifacts Payload → VerifiedPhaseArtifacts Payload → UtcDateTime →
    Except Raised PublicationSummary

/-! ## Calls and checks -/

variable {Payload Body α : Type}

/-- A run of the operator. -/
abbrev Operation (α : Type) := Run PortCall Raised α

/-- A port call: an operator error passes, every other exception becomes one. -/
def guardedCall (c : PortCall) (answer : Except Raised α) (message : String) : Operation α :=
  translate (fun e => if e.cls = .operatorError then e else operatorError message) (call c answer)

/-- A computation under `except`: the named classes become an operator error. -/
def attempt (caught : List ExceptionClass) (message : String) (x : Except Raised α) :
    Operation α :=
  translate (fun e => if e.cls ∈ caught then operatorError message else e) (ofExcept x)

/-- What `_parse_model` and `_parse_json_object` catch. -/
def parseErrors : List ExceptionClass := [.valueError, .typeError]

/-- What the integrity verification catches. -/
def integrityErrors : List ExceptionClass := [.valueError, .typeError, .liveAcceptanceError]

variable (lib : Library Payload Body) (prepared : PreparedOperator) (ports : Ports Payload)

/-- `{action} action failed closed`. -/
def actionFailed (action : ReceiptAction) : String := action.text ++ " action failed closed"

/-- `_invoke_workload_action`. -/
def invokeWorkloadAction (action : ReceiptAction) : Operation WorkloadActionReport := do
  let report ← guardedCall (.workload action) (ports.workload action) (actionFailed action)
  ensure (report.runId = prepared.runId ∧ report.action = action)
    (operatorError (actionFailed action))
  return report

/-- What `compute_fault_lineage_digest` is computed from. -/
def faultLineage (r : DemoFaultRunReceipt) : FaultLineage where
  faultRunId := r.faultRunId
  resourceGroup := lib.casefold r.resourceGroup
  namePrefix := lib.casefold r.namePrefix
  targetVmName := lib.casefold r.targetVmName
  targetVmResourceId := lib.casefold r.targetVmResourceId
  eligibleWebVmNames := OrdinalCollections.sortOn id (r.eligibleWebVmNames.map lib.casefold)

/-- `compute_fault_lineage_digest`. -/
def faultLineageDigest (r : DemoFaultRunReceipt) : Digest := lib.lineageDigest (faultLineage lib r)

/-- The power states which an action demands of its receipt. -/
def powerStatesValid (action : ReceiptAction) (r : DemoFaultRunReceipt) : Prop :=
  match action with
  | .status => r.beforePowerState = .running ∧ r.afterPowerState = .running
  | .inject => r.beforePowerState = .running ∧ r.afterPowerState ≠ .running
  | .reset => r.beforePowerState ≠ .running ∧ r.afterPowerState = .running

/-- A receipt continues another one: the same lineage, and not before it is complete. -/
def receiptContinues (previous current : DemoFaultRunReceipt) : Prop :=
  faultLineageDigest lib previous = faultLineageDigest lib current ∧
    previous.completedAt ≤ current.startedAt

/-- The checks of `_validate_receipt_transition`, which all raise the same error. -/
def receiptTransitionValid (previous : Option WorkloadActionReport)
    (current : WorkloadActionReport) (expectedAction : ReceiptAction)
    (allowMissingStateContinuity : Bool) : Prop :=
  current.receipt.action = expectedAction ∧ powerStatesValid expectedAction current.receipt ∧
    ∀ p ∈ previous, receiptContinues lib p.receipt current.receipt ∧
      (allowMissingStateContinuity ∨
        current.receipt.beforePowerState = p.receipt.afterPowerState)

instance (action : ReceiptAction) (r : DemoFaultRunReceipt) :
    Decidable (powerStatesValid action r) := by
  unfold powerStatesValid
  cases action <;> infer_instance

instance (previous current : DemoFaultRunReceipt) :
    Decidable (receiptContinues lib previous current) := by
  unfold receiptContinues
  infer_instance

instance (previous : Option WorkloadActionReport) (current : WorkloadActionReport)
    (expectedAction : ReceiptAction) (allow : Bool) :
    Decidable (receiptTransitionValid lib previous current expectedAction allow) := by
  unfold receiptTransitionValid
  infer_instance

/-- `_validate_receipt_transition`. -/
def validateReceiptTransition (previous : Option WorkloadActionReport)
    (current : WorkloadActionReport) (expectedAction : ReceiptAction)
    (allowMissingStateContinuity : Bool) : Operation Unit :=
  ensure (receiptTransitionValid lib previous current expectedAction allowMissingStateContinuity)
    (operatorError (actionFailed expectedAction))

/-- What the models raise when their checks fail. -/
def validationError : Raised := ⟨.valueError, "validation error"⟩

/-- `_build_phase_inputs`. -/
def phaseInputs (phase : Phase) (receipt : VersionPinnedBlobReference)
    (previous : Option VersionPinnedBlobReference) : OperationalPhaseInputs :=
  ⟨prepared.runId, prepared.bundleDigest, phase, receipt, previous⟩

/-- The request of `_start_phase_job`. -/
def executionRequest (phase : Phase) (inputs : OperationalPhaseInputs) :
    OperationalPhaseExecutionRequest :=
  ⟨prepared.runId, phase, prepared.bundlePath, inputs⟩

/-- `_start_phase_job` with the inputs of `_build_phase_inputs`. The two models check their
fields outside every `try`. -/
def startPhaseJob (phase : Phase) (receipt : VersionPinnedBlobReference)
    (previous : Option VersionPinnedBlobReference) : Operation ExecutionRecord := do
  let inputs := phaseInputs prepared phase receipt previous
  ensure inputs.valid validationError
  ensure (fixedText lib.strip prepared.bundlePath) validationError
  let execution ← guardedCall (.startPhase (executionRequest prepared phase inputs))
    (ports.startPhase phase) (phase.text ++ " phase start failed closed")
  ensure (execution.runId = prepared.runId ∧ execution.phase = phase)
    (operatorError (phase.text ++ " phase start failed closed"))
  return execution

/-- The loop of `_wait_for_phase_success`, from the poll `n` on. -/
def pollPhase (execution : ExecutionRecord) (deadline : ℤ) : ℕ → ℕ → Operation Unit
  | 0, _ => unfinished
  | polls + 1, n => do
    let status ← guardedCall (.readStatus execution) (ports.readStatus execution.phase n)
      (execution.phase.text ++ " phase status failed closed")
    ensure (status.runId = execution.runId ∧ status.phase = execution.phase ∧
        status.executionId = execution.executionId)
      (operatorError (execution.phase.text ++ " phase status failed closed"))
    match status.state with
    | .succeeded => return ()
    | .failed => raise (operatorError (execution.phase.text ++ " phase failed closed"))
    | .unknown =>
      raise (operatorError (execution.phase.text ++ " phase reached an unknown terminal state"))
    | .running =>
      if deadline ≤ ports.monotonic execution.phase (n + 1) then
        raise (operatorError (execution.phase.text ++ " phase timed out"))
      else pollPhase execution deadline polls (n + 1)

/-- `_wait_for_phase_success`, within a number of polls. -/
def waitForPhaseSuccess (polls : ℕ) (execution : ExecutionRecord) : Operation Unit :=
  pollPhase ports execution
    (ports.monotonic execution.phase 0 + prepared.pollTimeoutSeconds) polls 0

/-- `_read_phase_handoff`. -/
def readPhaseHandoff (execution : ExecutionRecord) : Operation ReferenceHandoff := do
  let handoff ← guardedCall (.readHandoff execution) (ports.readHandoff execution.phase)
    (execution.phase.text ++ " phase handoff failed closed")
  ensure (handoff.runId = execution.runId ∧ handoff.phase = execution.phase ∧
      handoff.bundleDigest = prepared.bundleDigest)
    (operatorError (execution.phase.text ++ " phase handoff failed closed"))
  return handoff

/-- `_MAX_PHASE_ARTIFACT_BYTES`. -/
def maxPhaseArtifactBytes : ℕ := 1024 * 1024

/-- A read result is of exactly the reference, and neither empty nor too long. -/
def readExact (reference : VersionPinnedBlobReference) (r : ArtifactReadResult Payload) : Prop :=
  r.blobName = reference.name ∧ r.versionId = reference.version ∧
    r.payloadSha256 = reference.contentDigest ∧ 0 < lib.size r.payload ∧
    lib.size r.payload ≤ maxPhaseArtifactBytes

instance (reference : VersionPinnedBlobReference) (r : ArtifactReadResult Payload) :
    Decidable (readExact lib reference r) := by
  unfold readExact
  infer_instance

/-- `_read_exact_artifact`, the read `n` of its phase. Every exception is caught. -/
def readExactArtifact (phase : Phase) (n : ℕ) (reference : VersionPinnedBlobReference)
    (message : String) : Operation Payload := do
  let result ← translate (fun _ => operatorError message)
    (call (.readArtifact phase reference) (ports.readArtifact phase n))
  ensure (readExact lib reference result) (operatorError message)
  return result.payload

/-- The completion index is about exactly this run, phase and receipt. -/
@[mk_iff] structure IndexMatches (phase : Phase) (report : WorkloadActionReport)
    (index : CompletionIndex) : Prop where
  run : index.runId = prepared.runId ∧ index.phase = phase
  bundle : index.bundleDigest = prepared.bundleDigest
  configuration : index.configurationDigest =
      (prepared.configurations phase).wc013ConfigurationDigest ∧
    index.attemptId = (prepared.configurations phase).attemptId ∧
    index.snapshotId = (prepared.configurations phase).snapshotId ∧
    index.idempotencyKeyDigest = lib.keyDigest (prepared.configurations phase).idempotencyKey
  receipt : index.receipt = report.receiptReference
  lineage : index.lineageDigest = faultLineageDigest lib report.receipt
  action : index.receiptAction = report.receipt.action
  interval : index.receiptStartedAt = report.receipt.startedAt ∧
    index.receiptCompletedAt = report.receipt.completedAt
  power : index.receiptBeforePowerState = report.receipt.beforePowerState ∧
    index.receiptAfterPowerState = report.receipt.afterPowerState

/-- The completion index continues that of the previous phase. -/
@[mk_iff] structure IndexContinues (previous : VerifiedPhaseArtifacts Payload)
    (report : WorkloadActionReport) (index : CompletionIndex) : Prop where
  reference : index.previousPhaseIndex = some previous.completionIndexReference
  digest : index.previousPhaseIndexDigest = some previous.completionIndex.indexDigest
  lineage : previous.completionIndex.lineageDigest = faultLineageDigest lib report.receipt
  order : previous.completionIndex.receiptCompletedAt ≤ report.receipt.startedAt
  power : previous.completionIndex.receiptAfterPowerState = report.receipt.beforePowerState

/-- The checks on a completion index. -/
def indexAccepted (phase : Phase) (report : WorkloadActionReport)
    (previous : Option (VerifiedPhaseArtifacts Payload)) (index : CompletionIndex) : Prop :=
  IndexMatches lib prepared phase report index ∧
    match previous with
    | none => index.previousPhaseIndex = none
    | some p => IndexContinues lib p report index

instance (phase : Phase) (report : WorkloadActionReport) (index : CompletionIndex) :
    Decidable (IndexMatches lib prepared phase report index) :=
  decidable_of_iff' _ (indexMatches_iff lib prepared phase report index)

instance (previous : VerifiedPhaseArtifacts Payload) (report : WorkloadActionReport)
    (index : CompletionIndex) : Decidable (IndexContinues lib previous report index) :=
  decidable_of_iff' _ (indexContinues_iff lib previous report index)

instance (phase : Phase) (report : WorkloadActionReport)
    (previous : Option (VerifiedPhaseArtifacts Payload)) (index : CompletionIndex) :
    Decidable (indexAccepted lib prepared phase report previous index) := by
  unfold indexAccepted
  cases previous <;> infer_instance

/-! ## The artifacts of a phase -/

/-- The reads of the artifacts which an index names, from the read `n` of the phase on. -/
def readArtifacts (phase : Phase) (message : String) :
    ℕ → List VersionPinnedBlobReference → Operation (List Payload)
  | _, [] => return []
  | n, reference :: references => do
    let payload ← readExactArtifact lib ports phase n reference message
    let payloads ← readArtifacts phase message (n + 1) references
    return payload :: payloads

/-- The documents of a phase are those which its index names. -/
def documentsMatch (index : CompletionIndex) (result : DemoEvaluationResult Body)
    (presentation : ArgusPresentationPayload Body) : Prop :=
  result.resultDigest = index.resultDigest ∧
    result.snapshot.artifactDigest = index.snapshotArtifactDigest ∧
    result.snapshot.semanticDigest = index.snapshotSemanticDigest ∧
    presentation.resultDigest = index.presentationDigest

instance (index : CompletionIndex) (result : DemoEvaluationResult Body)
    (presentation : ArgusPresentationPayload Body) :
    Decidable (documentsMatch index result presentation) := by
  unfold documentsMatch
  infer_instance

/-- `{phase} phase artifact verification failed closed`. -/
def artifactFailed (phase : Phase) : String :=
  phase.text ++ " phase artifact verification failed closed"

/-- `{phase} phase integrity verification failed closed`. -/
def integrityFailed (phase : Phase) : String :=
  phase.text ++ " phase integrity verification failed closed"

/-- `{phase} completion index failed closed verification`. -/
def indexFailed (phase : Phase) : String :=
  phase.text ++ " completion index failed closed verification"

/-- A computation outside every `try`. -/
def unguarded (x : Except Raised α) : Operation α := ofExcept x

/-- The checks on the parsed documents of a phase, from their digests to the attestation of
the presentation. -/
def verifyIntegrity (phase : Phase) (report : WorkloadActionReport) (index : CompletionIndex)
    (result : DemoEvaluationResult Body) (snapshot : EvidenceSnapshot Body)
    (presentation : ArgusPresentationPayload Body) (attestation envelope : Body) :
    Operation Unit := do
  ensure (documentsMatch index result presentation) (operatorError (artifactFailed phase))
  let stored ← unguarded (lib.snapshotJson snapshot)
  let embedded ← unguarded (lib.snapshotJson result.snapshot)
  ensure (stored = embedded) (operatorError (artifactFailed phase))
  let expected ← attempt integrityErrors (integrityFailed phase)
    (lib.expectedPresentation phase index report.receipt result envelope)
  let expectedJson ← unguarded (lib.presentationJson expected)
  let presentationJson ← unguarded (lib.presentationJson presentation)
  ensure (expectedJson = presentationJson) (operatorError (integrityFailed phase))
  let attested ← unguarded (lib.verifyAttestation presentation attestation)
  ensure (attested = true) (operatorError (integrityFailed phase))

/-- The documents of a phase, parsed one after another and verified. -/
def verifyDocuments (phase : Phase) (report : WorkloadActionReport) (index : CompletionIndex)
    (resultPayload snapshotPayload presentationPayload attestationPayload envelopePayload :
      Payload) :
    Operation (DemoEvaluationResult Body × ArgusPresentationPayload Body) := do
  let result ← attempt parseErrors (artifactFailed phase) (lib.evaluationResult resultPayload)
  let snapshot ← attempt parseErrors (artifactFailed phase) (lib.evidenceSnapshot snapshotPayload)
  let presentation ← attempt parseErrors (artifactFailed phase)
    (lib.presentation presentationPayload)
  let attestation ← attempt parseErrors (artifactFailed phase) (lib.attestation attestationPayload)
  let loaded ← attempt parseErrors (artifactFailed phase) (lib.loads envelopePayload)
  match loaded with
  | none => raise (operatorError (artifactFailed phase))
  | some envelope =>
    verifyIntegrity lib phase report index result snapshot presentation attestation envelope
    return (result, presentation)

/-- The record of a verified phase. -/
def verifiedArtifacts (phase : Phase) (report : WorkloadActionReport)
    (handoff : ReferenceHandoff) (index : CompletionIndex) (result : DemoEvaluationResult Body)
    (presentation : ArgusPresentationPayload Body) (presentationPayload attestationPayload :
      Payload) : VerifiedPhaseArtifacts Payload where
  receiptReport := report
  completionIndex := index
  completionIndexReference := handoff.completionIndex
  summary :=
    { phase
      syntheticSnapshotId := presentation.snapshotId
      resultDigest := result.resultDigest
      presentationDigest := presentation.resultDigest
      verdict := presentation.verdict
      serviceState := presentation.serviceState
      completionIndexDigest := index.indexDigest }
  presentationPayload
  presentationAttestation := attestationPayload
  targetResourceGroup := report.receipt.resourceGroup
  evaluatedAt := result.publishedAt

/-- `_verify_phase_artifacts`. -/
def verifyPhaseArtifacts (phase : Phase) (report : WorkloadActionReport)
    (previous : Option (VerifiedPhaseArtifacts Payload)) (handoff : ReferenceHandoff) :
    Operation (VerifiedPhaseArtifacts Payload) := do
  let indexPayload ← readExactArtifact lib ports phase 0 handoff.completionIndex (indexFailed phase)
  let index ← attempt parseErrors (indexFailed phase) (lib.completionIndex indexPayload)
  ensure (indexAccepted lib prepared phase report previous index)
    (operatorError (indexFailed phase))
  let payloads ← readArtifacts lib ports phase (artifactFailed phase) 1 index.artifacts
  match payloads with
  | [resultPayload, snapshotPayload, presentationPayload, attestationPayload, envelopePayload] =>
    let (result, presentation) ← verifyDocuments lib phase report index resultPayload
      snapshotPayload presentationPayload attestationPayload envelopePayload
    return verifiedArtifacts phase report handoff index result presentation presentationPayload
      attestationPayload
  | _ => raise (operatorError (artifactFailed phase))

/-- `_run_verified_phase`. -/
def runVerifiedPhase (polls : ℕ) (phase : Phase) (report : WorkloadActionReport)
    (previous : Option (VerifiedPhaseArtifacts Payload)) :
    Operation (VerifiedPhaseArtifacts Payload) := do
  let execution ← startPhaseJob lib prepared ports phase report.receiptReference
    (previous.map VerifiedPhaseArtifacts.completionIndexReference)
  waitForPhaseSuccess prepared ports polls execution
  let handoff ← readPhaseHandoff prepared ports execution
  verifyPhaseArtifacts lib prepared ports phase report previous handoff

/-! ## The run -/

/-- The baseline: a status receipt and its phase. -/
def baselinePhase (polls : ℕ) : Operation (VerifiedPhaseArtifacts Payload) := do
  let report ← invokeWorkloadAction prepared ports .status
  validateReceiptTransition lib none report .status false
  runVerifiedPhase lib prepared ports polls .baseline report none

/-- What the `try` around the injection leaves in its variables. -/
structure FaultAttempt (Payload : Type) where
  injectReport : Option WorkloadActionReport
  faulted : Option (VerifiedPhaseArtifacts Payload)
  primaryMessage : Option String

/-- The faulted phase after the injection. -/
def faultedPhase (polls : ℕ) (baseline : VerifiedPhaseArtifacts Payload)
    (report : WorkloadActionReport) : Operation (VerifiedPhaseArtifacts Payload) := do
  validateReceiptTransition lib (some baseline.receiptReport) report .inject false
  runVerifiedPhase lib prepared ports polls .faulted report (some baseline)

/-- `except OperationalDemoOperatorError as exc: primary_message = str(exc)`. -/
def keepMessage (injectReport : Option WorkloadActionReport) (e : Raised) :
    Option (Operation (FaultAttempt Payload)) :=
  if e.cls = .operatorError then some (return ⟨injectReport, none, some e.message⟩) else none

/-- The `try` around the injection and the faulted phase. -/
def attemptFault (polls : ℕ) (baseline : VerifiedPhaseArtifacts Payload) :
    Operation (FaultAttempt Payload) :=
  handle (do
      let report ← invokeWorkloadAction prepared ports .inject
      handle (do
          let faulted ← faultedPhase lib prepared ports polls baseline report
          return ⟨some report, some faulted, none⟩)
        (keepMessage (some report)))
    (keepMessage none)

/-- The message of a failed reset. -/
def resetFailed (primaryMessage : Option String) : String :=
  match primaryMessage with
  | some message => message ++ "; reset action failed closed; recovery not run"
  | none => "reset action failed closed; recovery not run"

/-- An operator error gets another message; every other exception passes. -/
def rename (f : String → String) (e : Raised) : Raised :=
  if e.cls = .operatorError then operatorError (f e.message) else e

/-- The reset after an attempt. -/
def resetFault (baseline : VerifiedPhaseArtifacts Payload) (attempt : FaultAttempt Payload) :
    Operation WorkloadActionReport :=
  translate (rename fun _ => resetFailed attempt.primaryMessage) (do
    let report ← invokeWorkloadAction prepared ports .reset
    validateReceiptTransition lib
      (some (attempt.injectReport.getD baseline.receiptReport)) report .reset
      attempt.injectReport.isNone
    return report)

/-- `_build_presentation_publication`: the phases are of one resource group. -/
def buildPresentationPublication (baseline faulted recovered : VerifiedPhaseArtifacts Payload)
    (publishedAt : UtcDateTime) : Except Raised PublicationSummary :=
  if lib.casefold faulted.targetResourceGroup = lib.casefold baseline.targetResourceGroup ∧
      lib.casefold recovered.targetResourceGroup = lib.casefold baseline.targetResourceGroup then
    lib.publicationRequest prepared baseline faulted recovered publishedAt
  else .error (operatorError "verified phase receipts do not target one resource group")

/-- The publication of the three presentations. -/
def publishPresentation (baseline faulted recovered : VerifiedPhaseArtifacts Payload) :
    Operation PublicationSummary :=
  translate (fun _ => operatorError "presentation publication failed closed; reset succeeded") (do
    let summary ← unguarded (buildPresentationPublication lib prepared baseline faulted recovered
      (max ports.utcNow recovered.evaluatedAt))
    let receipt ← call .publish ports.publish
    ensure (receipt.runId = prepared.runId ∧ receipt.manifestBlobName = "runtime-manifest.json" ∧
        receipt.manifestSha256 = summary.manifestDigest)
      (operatorError "presentation publisher returned an invalid receipt")
    return summary)

/-- The publication, where a publisher is configured. -/
def publishIfConfigured (baseline faulted recovered : VerifiedPhaseArtifacts Payload) :
    Operation (Option PublicationSummary) :=
  if prepared.publisherConfigured then
    some <$> publishPresentation lib prepared ports baseline faulted recovered
  else pure none

/-- The recovered phase and the publication after a reset. -/
def finishRun (polls : ℕ) (baseline faulted : VerifiedPhaseArtifacts Payload)
    (resetReport : WorkloadActionReport) : Operation OperatorResult := do
  let recovered ← translate (rename (· ++ "; reset succeeded"))
    (runVerifiedPhase lib prepared ports polls .recovered resetReport (some faulted))
  let publication ← publishIfConfigured lib prepared ports baseline faulted recovered
  return ⟨prepared.runId, baseline.summary, faulted.summary, recovered.summary, publication⟩

/-- What follows the baseline. -/
def demonstrateFault (polls : ℕ) (baseline : VerifiedPhaseArtifacts Payload) :
    Operation OperatorResult := do
  let attempt ← attemptFault lib prepared ports polls baseline
  let resetReport ← resetFault lib prepared ports baseline attempt
  match attempt.primaryMessage with
  | some message => raise (operatorError (message ++ "; reset succeeded; recovery not run"))
  | none =>
    match attempt.faulted with
    | none => raise (operatorError "reset action failed closed; recovery not run")
    | some faulted => finishRun lib prepared ports polls baseline faulted resetReport

/-- `run_operational_demo_operator` of a prepared operator. -/
def runOperationalDemoOperator (confirmationPhrase : Option String) (polls : ℕ) :
    Operation OperatorResult := do
  ensure (confirmationPhrase = some prepared.confirmationPhrase)
    (operatorError "confirmation phrase did not match the reviewed run")
  let baseline ← translate (rename (· ++ "; reset not attempted; recovery not run"))
    (baselinePhase lib prepared ports polls)
  demonstrateFault lib prepared ports polls baseline

end AthenaContext.OperationalDemo
