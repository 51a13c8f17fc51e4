import AthenaContext.OperationalDemo

/-!
# The phases of the demonstration

A phase raises anything but an operator error only through what it computes from the answers
of its ports. It makes only calls of its own, it ends when the clock reaches its deadline,
and the record it returns is that of a verified phase, which follows the phase before it.
-/

namespace AthenaContext.OperationalPhases

open PortPrograms PortPrograms.Run OperationalDemo
open IncidentRecords (Digest UtcDateTime VersionPinnedBlobReference)

variable {Payload Body α β : Type}

/-! ## Operator errors -/

/-- The exception is an operator error. -/
def isOperatorError (e : Raised) : Prop := e.cls = .operatorError

/-- Only operator errors leave the operation. -/
abbrev Contained (m : Operation α) : Prop := Confined isOperatorError m

/-- The exceptions of a computation are of the given classes. -/
def RaisesOnly (classes : List ExceptionClass) (x : Except Raised α) : Prop :=
  ∀ e, x = .error e → e.cls ∈ classes

theorem contained_ensure {q : Prop} [Decidable q] {message : String} :
    Contained (ensure q (operatorError message)) :=
  confined_ensure rfl

theorem contained_guardedCall {c : PortCall} {answer : Except Raised α} {message : String} :
    Contained (guardedCall c answer message) := by
  refine confined_translate.mpr ?_
  intro e _
  by_cases h : e.cls = .operatorError
  · rw [if_pos h]
    exact h
  · rw [if_neg h]
    exact rfl

/-- An attempt is contained when the computation raises what is caught. -/
theorem contained_attempt_iff {caught : List ExceptionClass} {message : String}
    {x : Except Raised α} :
    Contained (attempt caught message x) ↔ RaisesOnly (.operatorError :: caught) x := by
  refine confined_translate.trans ?_
  unfold RaisesOnly
  simp only [ofExcept_raised_iff]
  refine forall_congr' fun e => imp_congr_right fun _ => ?_
  by_cases h : e.cls ∈ caught
  · simp [h, isOperatorError, operatorError]
  · simp [h, isOperatorError]

theorem contained_unguarded_iff {x : Except Raised α} :
    Contained (unguarded x) ↔ RaisesOnly [.operatorError] x := by
  simp [unguarded, RaisesOnly, isOperatorError]

@[simp] theorem guardedCall_returned_iff {c : PortCall} {answer : Except Raised α}
    {message : String} {a : α} :
    (guardedCall c answer message).outcome = .returned a ↔ answer = .ok a := by
  simp [guardedCall]

@[simp] theorem ends_guardedCall {c : PortCall} {answer : Except Raised α} {message : String} :
    Ends (guardedCall c answer message) :=
  ends_translate.mpr ends_call

@[simp] theorem guardedCall_calls {c : PortCall} {answer : Except Raised α} {message : String} :
    (guardedCall c answer message).calls = [c] := by
  simp [guardedCall]

@[simp] theorem attempt_returned_iff {caught : List ExceptionClass} {message : String}
    {x : Except Raised α} {a : α} :
    (attempt caught message x).outcome = .returned a ↔ x = .ok a := by
  simp [attempt]

@[simp] theorem ends_attempt {caught : List ExceptionClass} {message : String}
    {x : Except Raised α} : Ends (attempt caught message x) :=
  ends_translate.mpr ends_ofExcept

@[simp] theorem attempt_calls {caught : List ExceptionClass} {message : String}
    {x : Except Raised α} : (attempt caught message x).calls = [] := by
  simp [attempt]

@[simp] theorem unguarded_returned_iff {x : Except Raised α} {a : α} :
    (unguarded x).outcome = .returned a ↔ x = .ok a := by
  simp [unguarded]

@[simp] theorem ends_unguarded {x : Except Raised α} : Ends (unguarded x) :=
  ends_ofExcept

@[simp] theorem unguarded_calls {x : Except Raised α} : (unguarded x).calls = [] := by
  simp [unguarded]

theorem contained_attempt_bind {caught : List ExceptionClass} {message : String}
    {x : Except Raised α} {f : α → Operation β} :
    Contained (attempt caught message x >>= f) ↔
      RaisesOnly (.operatorError :: caught) x ∧ ∀ a, x = .ok a → Contained (f a) := by
  refine confined_bind.trans (and_congr contained_attempt_iff ?_)
  simp only [attempt_returned_iff]

theorem contained_unguarded_bind {x : Except Raised α} {f : α → Operation β} :
    Contained (unguarded x >>= f) ↔
      RaisesOnly [.operatorError] x ∧ ∀ a, x = .ok a → Contained (f a) := by
  refine confined_bind.trans (and_congr contained_unguarded_iff ?_)
  simp only [unguarded_returned_iff]

theorem contained_ensure_bind {q : Prop} [Decidable q] {message : String}
    {f : Unit → Operation β} :
    Contained (ensure q (operatorError message) >>= f) ↔ (q → Contained (f ())) := by
  rw [Contained, confined_bind]
  constructor
  · intro h hq
    exact h.2 () (ensure_returned_iff.mpr hq)
  · intro h
    exact ⟨contained_ensure, fun u hu => h (ensure_returned_iff.mp hu)⟩

theorem contained_guardedCall_bind {c : PortCall} {answer : Except Raised α} {message : String}
    {f : α → Operation β} :
    Contained (guardedCall c answer message >>= f) ↔ ∀ a, answer = .ok a → Contained (f a) := by
  rw [Contained, confined_bind]
  simp only [guardedCall_returned_iff]
  exact ⟨fun h => h.2, fun h => ⟨contained_guardedCall, h⟩⟩

theorem contained_raise {message : String} :
    Contained (raise (operatorError message) : Operation α) :=
  confined_raise.mpr rfl

/-! ## Documents of a phase -/

variable (lib : Library Payload Body) (prepared : PreparedOperator) (ports : Ports Payload)

/-- What the parsers of a phase may raise. -/
abbrev parseClasses : List ExceptionClass := .operatorError :: parseErrors

/-- The computations on the parsed documents of a phase, up to the first check that fails,
raise only what is caught there. -/
def IntegrityContained (phase : Phase) (report : WorkloadActionReport) (index : CompletionIndex)
    (result : DemoEvaluationResult Body) (snapshot : EvidenceSnapshot Body)
    (presentation : ArgusPresentationPayload Body) (attestation envelope : Body) : Prop :=
  documentsMatch index result presentation →
  RaisesOnly [.operatorError] (lib.snapshotJson snapshot) ∧
  ∀ stored, lib.snapshotJson snapshot = .ok stored →
  RaisesOnly [.operatorError] (lib.snapshotJson result.snapshot) ∧
  ∀ embedded, lib.snapshotJson result.snapshot = .ok embedded → stored = embedded →
  RaisesOnly (.operatorError :: integrityErrors)
    (lib.expectedPresentation phase index report.receipt result envelope) ∧
  ∀ expected,
  lib.expectedPresentation phase index report.receipt result envelope = .ok expected →
  RaisesOnly [.operatorError] (lib.presentationJson expected) ∧
  ∀ expectedJson, lib.presentationJson expected = .ok expectedJson →
  RaisesOnly [.operatorError] (lib.presentationJson presentation) ∧
  ∀ json, lib.presentationJson presentation = .ok json → expectedJson = json →
  RaisesOnly [.operatorError] (lib.verifyAttestation presentation attestation)

/-- The parsers of the documents of a phase, up to the first that fails, raise only what is
caught there, and so do the computations on what they return. -/
def DocumentsContained (phase : Phase) (report : WorkloadActionReport) (index : CompletionIndex)
    (resultPayload snapshotPayload presentationPayload attestationPayload envelopePayload :
      Payload) : Prop :=
  RaisesOnly parseClasses (lib.evaluationResult resultPayload) ∧
  ∀ result, lib.evaluationResult resultPayload = .ok result →
  RaisesOnly parseClasses (lib.evidenceSnapshot snapshotPayload) ∧
  ∀ snapshot, lib.evidenceSnapshot snapshotPayload = .ok snapshot →
  RaisesOnly parseClasses (lib.presentation presentationPayload) ∧
  ∀ presentation, lib.presentation presentationPayload = .ok presentation →
  RaisesOnly parseClasses (lib.attestation attestationPayload) ∧
  ∀ attestation, lib.attestation attestationPayload = .ok attestation →
  RaisesOnly parseClasses (lib.loads envelopePayload) ∧
  ∀ envelope, lib.loads envelopePayload = .ok (some envelope) →
  IntegrityContained lib phase report index result snapshot presentation attestation envelope

theorem verifyIntegrity_contained_iff {phase : Phase} {report : WorkloadActionReport}
    {index : CompletionIndex} {result : DemoEvaluationResult Body}
    {snapshot : EvidenceSnapshot Body} {presentation : ArgusPresentationPayload Body}
    {attestation envelope : Body} :
    Contained (verifyIntegrity lib phase report index result snapshot presentation attestation
      envelope) ↔
      IntegrityContained lib phase report index result snapshot presentation attestation
        envelope := by
  unfold verifyIntegrity IntegrityContained
  have hlast : Contained (do
      let attested ← unguarded (lib.verifyAttestation presentation attestation)
      ensure (attested = true) (operatorError (integrityFailed phase))) ↔
      RaisesOnly [.operatorError] (lib.verifyAttestation presentation attestation) :=
    contained_unguarded_bind.trans (and_iff_left fun _ _ => contained_ensure)
  simp only [contained_ensure_bind, contained_unguarded_bind, contained_attempt_bind, hlast]

theorem verifyDocuments_contained_iff {phase : Phase} {report : WorkloadActionReport}
    {index : CompletionIndex} {p0 p1 p2 p3 p4 : Payload} :
    Contained (verifyDocuments lib phase report index p0 p1 p2 p3 p4) ↔
      DocumentsContained lib phase report index p0 p1 p2 p3 p4 := by
  unfold verifyDocuments DocumentsContained
  simp only [contained_attempt_bind]
  refine and_congr_right fun _ => forall₂_congr fun result _ => ?_
  refine and_congr_right fun _ => forall₂_congr fun snapshot _ => ?_
  refine and_congr_right fun _ => forall₂_congr fun presentation _ => ?_
  refine and_congr_right fun _ => forall₂_congr fun attestation _ => ?_
  refine and_congr_right fun _ => ?_
  constructor
  · intro h envelope hloaded
    exact (verifyIntegrity_contained_iff lib).mp (confined_bind.mp (h _ hloaded)).1
  · intro h loaded hloaded
    cases loaded with
    | none => exact contained_raise
    | some envelope =>
      exact confined_bind.mpr ⟨(verifyIntegrity_contained_iff lib).mpr (h envelope hloaded),
        fun _ _ => confined_pure⟩

/-! ## Reads of a phase -/

/-- A read answers a payload of exactly the reference. -/
def Reads (phase : Phase) (n : ℕ) (reference : VersionPinnedBlobReference) (payload : Payload) :
    Prop :=
  ∃ r, ports.readArtifact phase n = .ok r ∧ readExact lib reference r ∧ r.payload = payload

/-- The reads of a phase, from the read `n` on, answer payloads of exactly the references. -/
def ReadsAll (phase : Phase) : ℕ → List VersionPinnedBlobReference → List Payload → Prop
  | _, [], payloads => [] = payloads
  | n, reference :: references, payloads =>
    ∃ payload rest, Reads lib ports phase n reference payload ∧
      ReadsAll phase (n + 1) references rest ∧ payload :: rest = payloads

@[simp] theorem readExactArtifact_returned_iff {phase : Phase} {n : ℕ}
    {reference : VersionPinnedBlobReference} {message : String} {payload : Payload} :
    (readExactArtifact lib ports phase n reference message).outcome = .returned payload ↔
      Reads lib ports phase n reference payload := by
  simp [readExactArtifact, Reads]

theorem contained_readExactArtifact {phase : Phase} {n : ℕ}
    {reference : VersionPinnedBlobReference} {message : String} :
    Contained (readExactArtifact lib ports phase n reference message) := by
  refine confined_bind.mpr ⟨confined_translate.mpr fun _ _ => rfl, fun r _ => ?_⟩
  exact contained_ensure_bind.mpr fun _ => confined_pure

@[simp] theorem readArtifacts_returned_iff {phase : Phase} {message : String} {n : ℕ}
    {references : List VersionPinnedBlobReference} {payloads : List Payload} :
    (readArtifacts lib ports phase message n references).outcome = .returned payloads ↔
      ReadsAll lib ports phase n references payloads := by
  induction references generalizing n payloads with
  | nil => simp [readArtifacts, ReadsAll]
  | cons reference references ih => simp [readArtifacts, ReadsAll, ih]

theorem contained_readArtifacts {phase : Phase} {message : String} {n : ℕ}
    {references : List VersionPinnedBlobReference} :
    Contained (readArtifacts lib ports phase message n references) := by
  induction references generalizing n with
  | nil => exact confined_pure
  | cons reference references ih =>
    refine confined_bind.mpr ⟨contained_readExactArtifact lib ports, fun payload _ => ?_⟩
    exact confined_bind.mpr ⟨ih, fun _ _ => confined_pure⟩

/-- What the verification of a phase computes from what it reads, up to the first check that
fails, raises only what is caught there. -/
def VerificationContained (phase : Phase) (report : WorkloadActionReport)
    (previous : Option (VerifiedPhaseArtifacts Payload)) (handoff : ReferenceHandoff) : Prop :=
  ∀ payload, Reads lib ports phase 0 handoff.completionIndex payload →
  RaisesOnly parseClasses (lib.completionIndex payload) ∧
  ∀ index, lib.completionIndex payload = .ok index →
  indexAccepted lib prepared phase report previous index →
  ∀ p0 p1 p2 p3 p4, ReadsAll lib ports phase 1 index.artifacts [p0, p1, p2, p3, p4] →
  DocumentsContained lib phase report index p0 p1 p2 p3 p4

theorem verifyPhaseArtifacts_contained_iff {phase : Phase} {report : WorkloadActionReport}
    {previous : Option (VerifiedPhaseArtifacts Payload)} {handoff : ReferenceHandoff} :
    Contained (verifyPhaseArtifacts lib prepared ports phase report previous handoff) ↔
      VerificationContained lib prepared ports phase report previous handoff := by
  unfold verifyPhaseArtifacts VerificationContained
  refine confined_bind.trans ((and_iff_right (contained_readExactArtifact lib ports)).trans ?_)
  simp only [readExactArtifact_returned_iff]
  refine forall₂_congr fun payload _ => contained_attempt_bind.trans (and_congr_right fun _ => ?_)
  refine forall₂_congr fun index _ => contained_ensure_bind.trans (forall_congr' fun _ => ?_)
  refine confined_bind.trans ((and_iff_right (contained_readArtifacts lib ports)).trans ?_)
  simp only [readArtifacts_returned_iff]
  constructor
  · intro h p0 p1 p2 p3 p4 hread
    exact (verifyDocuments_contained_iff lib).mp (confined_bind.mp (h _ hread)).1
  · intro h payloads hread
    -- only five payloads are parsed; every other number of them is refused
    rcases payloads with _ | ⟨p0, _ | ⟨p1, _ | ⟨p2, _ | ⟨p3, _ | ⟨p4, _ | ⟨p5, rest⟩⟩⟩⟩⟩⟩
    case cons.cons.cons.cons.cons.nil =>
      exact confined_bind.mpr ⟨(verifyDocuments_contained_iff lib).mpr (h _ _ _ _ _ hread),
        fun _ _ => confined_pure⟩
    all_goals exact contained_raise

/-! ## The wait for a phase -/

/-- The poll `n` answers a status of the execution, in the state. -/
def Polled (execution : ExecutionRecord) (n : ℕ) (state : ExecutionState) : Prop :=
  ∃ s, ports.readStatus execution.phase n = .ok s ∧
    (s.runId = execution.runId ∧ s.phase = execution.phase ∧
      s.executionId = execution.executionId) ∧ s.state = state

/-- From the poll `n` on the execution runs until it succeeds, every time before the
deadline, and within the number of polls. -/
def SucceedsFrom (execution : ExecutionRecord) (deadline : ℤ) (polls n : ℕ) : Prop :=
  ∃ k < polls, Polled ports execution (n + k) .succeeded ∧
    ∀ i < k, Polled ports execution (n + i) .running ∧
      ports.monotonic execution.phase (n + i + 1) < deadline

theorem succeedsFrom_succ {execution : ExecutionRecord} {deadline : ℤ} {polls n : ℕ} :
    SucceedsFrom ports execution deadline (polls + 1) n ↔
      Polled ports execution n .succeeded ∨ Polled ports execution n .running ∧
        ports.monotonic execution.phase (n + 1) < deadline ∧
        SucceedsFrom ports execution deadline polls (n + 1) := by
  constructor
  · rintro ⟨k, hk, hlast, hbefore⟩
    cases k with
    | zero => exact Or.inl hlast
    | succ k =>
      have hfirst := hbefore 0 (by omega)
      refine Or.inr ⟨hfirst.1, hfirst.2, k, by omega, ?_, fun i hi => ?_⟩
      · rwa [Nat.add_assoc, Nat.add_comm 1 k]
      · have hstep := hbefore (i + 1) (by omega)
        rwa [show n + 1 + i = n + (i + 1) by omega]
  · rintro (hlast | ⟨hfirst, htime, k, hk, hlast, hbefore⟩)
    · exact ⟨0, by omega, hlast, fun i hi => absurd hi (by omega)⟩
    · refine ⟨k + 1, by omega, ?_, fun i hi => ?_⟩
      · rwa [show n + (k + 1) = n + 1 + k by omega]
      · cases i with
        | zero => exact ⟨hfirst, htime⟩
        | succ i =>
          rw [show n + (i + 1) = n + 1 + i by omega]
          exact hbefore i (by omega)

/-- What a poll does after its status was read. -/
theorem pollPhase_succ_returned_iff {execution : ExecutionRecord} {deadline : ℤ} {polls n : ℕ}
    {u : Unit} :
    (pollPhase ports execution deadline (polls + 1) n).outcome = .returned u ↔
      Polled ports execution n .succeeded ∨ Polled ports execution n .running ∧
        ports.monotonic execution.phase (n + 1) < deadline ∧
        (pollPhase ports execution deadline polls (n + 1)).outcome = .returned u := by
  rw [pollPhase]
  unfold Polled
  simp only [bind_returned_iff, guardedCall_returned_iff, ensure_returned_iff]
  constructor
  · rintro ⟨s, hs, -, hmatch, hrest⟩
    cases hstate : s.state with
    | succeeded => exact Or.inl ⟨s, hs, hmatch, hstate⟩
    | failed => simp [hstate] at hrest
    | unknown => simp [hstate] at hrest
    | running =>
      simp only [hstate] at hrest
      by_cases htime : deadline ≤ ports.monotonic execution.phase (n + 1)
      · simp [htime] at hrest
      · rw [if_neg htime] at hrest
        exact Or.inr ⟨⟨s, hs, hmatch, hstate⟩, by omega, hrest⟩
  · rintro (⟨s, hs, hmatch, hstate⟩ | ⟨⟨s, hs, hmatch, hstate⟩, htime, hrest⟩)
    · exact ⟨s, hs, (), hmatch, by simp [hstate]⟩
    · refine ⟨s, hs, (), hmatch, ?_⟩
      simp only [hstate]
      rwa [if_neg (by omega)]

theorem pollPhase_returned_iff {execution : ExecutionRecord} {deadline : ℤ} {polls n : ℕ}
    {u : Unit} :
    (pollPhase ports execution deadline polls n).outcome = .returned u ↔
      SucceedsFrom ports execution deadline polls n := by
  induction polls generalizing n with
  | zero => simp [pollPhase, unfinished, SucceedsFrom]
  | succ polls ih => rw [pollPhase_succ_returned_iff, succeedsFrom_succ, ih]

theorem contained_pollPhase {execution : ExecutionRecord} {deadline : ℤ} {polls n : ℕ} :
    Contained (pollPhase ports execution deadline polls n) := by
  induction polls generalizing n with
  | zero => exact confined_unfinished
  | succ polls ih =>
    refine contained_guardedCall_bind.mpr fun s _ => contained_ensure_bind.mpr fun _ => ?_
    cases hstate : s.state with
    | succeeded => exact confined_pure
    | failed => exact contained_raise
    | unknown => exact contained_raise
    | running =>
      by_cases htime : deadline ≤ ports.monotonic execution.phase (n + 1)
      · simp only [if_pos htime]
        exact contained_raise
      · simp only [if_neg htime]
        exact ih

/-- A wait ends when the clock reaches the deadline within the polls. -/
theorem pollPhase_ends {execution : ExecutionRecord} {deadline : ℤ} {polls n k : ℕ}
    (hk : k < polls) (htime : deadline ≤ ports.monotonic execution.phase (n + k + 1)) :
    Ends (pollPhase ports execution deadline polls n) := by
  induction polls generalizing n k with
  | zero => omega
  | succ polls ih =>
    have hcall : Ends (guardedCall (.readStatus execution) (ports.readStatus execution.phase n)
        (execution.phase.text ++ " phase status failed closed")) := ends_guardedCall
    refine hcall.bind fun s _ => ends_ensure.bind fun _ _ => ?_
    cases hstate : s.state with
    | succeeded => exact ends_pure
    | failed => exact ends_raise
    | unknown => exact ends_raise
    | running =>
      by_cases hreached : deadline ≤ ports.monotonic execution.phase (n + 1)
      · simp only [if_pos hreached]
        exact ends_raise
      · simp only [if_neg hreached]
        cases k with
        | zero => exact absurd htime hreached
        | succ k =>
          refine ih (k := k) (by omega) ?_
          rwa [show n + 1 + k + 1 = n + (k + 1) + 1 by omega]

/-! ## A phase -/

/-- The inputs of a phase job pass the checks of their models. -/
def Startable (phase : Phase) (receipt : VersionPinnedBlobReference)
    (previous : Option VersionPinnedBlobReference) : Prop :=
  (phaseInputs prepared phase receipt previous).valid ∧ fixedText lib.strip prepared.bundlePath

/-- The job of a phase starts, succeeds in time, and hands over a completion index. -/
def HandsOver (polls : ℕ) (phase : Phase) (handoff : ReferenceHandoff) : Prop :=
  ∃ execution, ports.startPhase phase = .ok execution ∧
    (execution.runId = prepared.runId ∧ execution.phase = phase) ∧
    SucceedsFrom ports execution
      (ports.monotonic execution.phase 0 + prepared.pollTimeoutSeconds) polls 0 ∧
    ports.readHandoff execution.phase = .ok handoff ∧
    handoff.runId = execution.runId ∧ handoff.phase = execution.phase ∧
    handoff.bundleDigest = prepared.bundleDigest

/-- The clock reaches the deadline of every phase within the number of polls. -/
def ClockReaches (polls : ℕ) : Prop :=
  ∀ phase, ∃ k < polls,
    ports.monotonic phase 0 + prepared.pollTimeoutSeconds ≤ ports.monotonic phase (k + 1)

/-- The phase which a call is about. -/
def callPhase : PortCall → Option Phase
  | .workload _ => none
  | .startPhase request => some request.phase
  | .readStatus execution => some execution.phase
  | .readHandoff execution => some execution.phase
  | .readArtifact phase _ => some phase
  | .publish => none

/-- The call is about the phase. -/
def InPhase (phase : Phase) (c : PortCall) : Prop := callPhase c = some phase

variable {lib prepared ports}

theorem startPhaseJob_returned_iff {phase : Phase} {receipt : VersionPinnedBlobReference}
    {previous : Option VersionPinnedBlobReference} {execution : ExecutionRecord} :
    (startPhaseJob lib prepared ports phase receipt previous).outcome = .returned execution ↔
      Startable lib prepared phase receipt previous ∧ ports.startPhase phase = .ok execution ∧
        execution.runId = prepared.runId ∧ execution.phase = phase := by
  unfold startPhaseJob Startable
  simp [and_assoc]

theorem readPhaseHandoff_returned_iff {execution : ExecutionRecord} {handoff : ReferenceHandoff} :
    (readPhaseHandoff prepared ports execution).outcome = .returned handoff ↔
      ports.readHandoff execution.phase = .ok handoff ∧ handoff.runId = execution.runId ∧
        handoff.phase = execution.phase ∧ handoff.bundleDigest = prepared.bundleDigest := by
  simp [readPhaseHandoff]

theorem runVerifiedPhase_returned_iff {polls : ℕ} {phase : Phase} {report : WorkloadActionReport}
    {previous : Option (VerifiedPhaseArtifacts Payload)}
    {artifacts : VerifiedPhaseArtifacts Payload} :
    (runVerifiedPhase lib prepared ports polls phase report previous).outcome =
        .returned artifacts ↔
      Startable lib prepared phase report.receiptReference
          (previous.map VerifiedPhaseArtifacts.completionIndexReference) ∧
        ∃ handoff, HandsOver prepared ports polls phase handoff ∧
          (verifyPhaseArtifacts lib prepared ports phase report previous handoff).outcome =
            .returned artifacts := by
  unfold runVerifiedPhase HandsOver waitForPhaseSuccess
  simp only [bind_returned_iff, startPhaseJob_returned_iff, pollPhase_returned_iff,
    readPhaseHandoff_returned_iff]
  constructor
  · rintro ⟨execution, ⟨hstart, hrun⟩, -, hwait, handoff, hhandoff, hverify⟩
    exact ⟨hstart, handoff, ⟨execution, hrun.1, hrun.2, hwait, hhandoff⟩, hverify⟩
  · rintro ⟨hstart, handoff, ⟨execution, hanswer, hrun, hwait, hhandoff⟩, hverify⟩
    exact ⟨execution, ⟨hstart, hanswer, hrun⟩, (), hwait, handoff, hhandoff, hverify⟩

theorem contained_startPhaseJob {phase : Phase} {receipt : VersionPinnedBlobReference}
    {previous : Option VersionPinnedBlobReference}
    (hstart : Startable lib prepared phase receipt previous) :
    Contained (startPhaseJob lib prepared ports phase receipt previous) := by
  refine confined_bind.mpr ⟨confined_ensure_of hstart.1, fun _ _ => ?_⟩
  refine confined_bind.mpr ⟨confined_ensure_of hstart.2, fun _ _ => ?_⟩
  exact contained_guardedCall_bind.mpr fun _ _ => contained_ensure_bind.mpr fun _ => confined_pure

theorem contained_readPhaseHandoff {execution : ExecutionRecord} :
    Contained (readPhaseHandoff prepared ports execution) :=
  contained_guardedCall_bind.mpr fun _ _ => contained_ensure_bind.mpr fun _ => confined_pure

/-- A phase that can start is contained when its verification is. -/
theorem runVerifiedPhase_contained_iff {polls : ℕ} {phase : Phase}
    {report : WorkloadActionReport} {previous : Option (VerifiedPhaseArtifacts Payload)}
    (hstart : Startable lib prepared phase report.receiptReference
      (previous.map VerifiedPhaseArtifacts.completionIndexReference)) :
    Contained (runVerifiedPhase lib prepared ports polls phase report previous) ↔
      ∀ handoff, HandsOver prepared ports polls phase handoff →
        VerificationContained lib prepared ports phase report previous handoff := by
  unfold runVerifiedPhase
  refine confined_bind.trans ((and_iff_right (contained_startPhaseJob hstart)).trans ?_)
  constructor
  · rintro h handoff ⟨execution, hanswer, hrun, hwait, hhandoff⟩
    have hexecution := h execution (startPhaseJob_returned_iff.mpr ⟨hstart, hanswer, hrun⟩)
    have hread := (confined_bind.mp hexecution).2 () ((pollPhase_returned_iff ports).mpr hwait)
    have hverify := (confined_bind.mp hread).2 handoff
      (readPhaseHandoff_returned_iff.mpr hhandoff)
    exact (verifyPhaseArtifacts_contained_iff lib prepared ports).mp hverify
  · intro h execution hexecution
    obtain ⟨-, hanswer, hrun⟩ := startPhaseJob_returned_iff.mp hexecution
    refine confined_bind.mpr ⟨contained_pollPhase ports, fun _ hwait => ?_⟩
    refine confined_bind.mpr ⟨contained_readPhaseHandoff, fun handoff hhandoff => ?_⟩
    refine (verifyPhaseArtifacts_contained_iff lib prepared ports).mpr (h handoff ?_)
    exact ⟨execution, hanswer, hrun, (pollPhase_returned_iff ports).mp hwait,
      readPhaseHandoff_returned_iff.mp hhandoff⟩

/-! ### Calls and the end of a phase -/

theorem straight_guardedCall {p : PortCall → Prop} {c : PortCall} {answer : Except Raised α}
    {message : String} (h : p c) : Straight p (guardedCall c answer message) :=
  (straight_call h).translate

theorem straight_attempt {p : PortCall → Prop} {caught : List ExceptionClass}
    {message : String} {x : Except Raised α} : Straight p (attempt caught message x) :=
  straight_ofExcept.translate

theorem straight_unguarded {p : PortCall → Prop} {x : Except Raised α} :
    Straight p (unguarded x) :=
  straight_ofExcept

theorem straight_startPhaseJob {phase : Phase} {receipt : VersionPinnedBlobReference}
    {previous : Option VersionPinnedBlobReference} :
    Straight (InPhase phase) (startPhaseJob lib prepared ports phase receipt previous) := by
  refine Straight.bind straight_ensure fun _ _ => ?_
  refine Straight.bind straight_ensure fun _ _ => ?_
  refine Straight.bind (straight_guardedCall rfl) fun _ _ => ?_
  exact Straight.bind straight_ensure fun _ _ => straight_pure

theorem straight_readPhaseHandoff {execution : ExecutionRecord} :
    Straight (InPhase execution.phase) (readPhaseHandoff prepared ports execution) := by
  refine Straight.bind (straight_guardedCall rfl) fun _ _ => ?_
  exact Straight.bind straight_ensure fun _ _ => straight_pure

theorem straight_readExactArtifact {phase : Phase} {n : ℕ}
    {reference : VersionPinnedBlobReference} {message : String} :
    Straight (InPhase phase) (readExactArtifact lib ports phase n reference message) := by
  have hcall : Straight (InPhase phase)
      (call (.readArtifact phase reference) (ports.readArtifact phase n)) := straight_call rfl
  refine Straight.bind hcall.translate fun _ _ => ?_
  exact Straight.bind straight_ensure fun _ _ => straight_pure

theorem straight_readArtifacts {phase : Phase} {message : String} {n : ℕ}
    {references : List VersionPinnedBlobReference} :
    Straight (InPhase phase) (readArtifacts lib ports phase message n references) := by
  induction references generalizing n with
  | nil => exact straight_pure
  | cons reference references ih =>
    refine Straight.bind straight_readExactArtifact fun _ _ => ?_
    exact Straight.bind ih fun _ _ => straight_pure

theorem straight_verifyIntegrity {p : PortCall → Prop} {phase : Phase}
    {report : WorkloadActionReport} {index : CompletionIndex} {result : DemoEvaluationResult Body}
    {snapshot : EvidenceSnapshot Body} {presentation : ArgusPresentationPayload Body}
    {attestation envelope : Body} :
    Straight p (verifyIntegrity lib phase report index result snapshot presentation attestation
      envelope) := by
  refine Straight.bind straight_ensure fun _ _ => ?_
  refine Straight.bind straight_unguarded fun _ _ => ?_
  refine Straight.bind straight_unguarded fun _ _ => ?_
  refine Straight.bind straight_ensure fun _ _ => ?_
  refine Straight.bind straight_attempt fun _ _ => ?_
  refine Straight.bind straight_unguarded fun _ _ => ?_
  refine Straight.bind straight_unguarded fun _ _ => ?_
  refine Straight.bind straight_ensure fun _ _ => ?_
  exact Straight.bind straight_unguarded fun _ _ => straight_ensure

theorem straight_verifyDocuments {p : PortCall → Prop} {phase : Phase}
    {report : WorkloadActionReport} {index : CompletionIndex} {p0 p1 p2 p3 p4 : Payload} :
    Straight p (verifyDocuments lib phase report index p0 p1 p2 p3 p4) := by
  refine Straight.bind straight_attempt fun _ _ => ?_
  refine Straight.bind straight_attempt fun _ _ => ?_
  refine Straight.bind straight_attempt fun _ _ => ?_
  refine Straight.bind straight_attempt fun _ _ => ?_
  refine Straight.bind straight_attempt fun loaded _ => ?_
  cases loaded with
  | none => exact straight_raise
  | some envelope => exact Straight.bind straight_verifyIntegrity fun _ _ => straight_pure

theorem straight_verifyPhaseArtifacts {phase : Phase} {report : WorkloadActionReport}
    {previous : Option (VerifiedPhaseArtifacts Payload)} {handoff : ReferenceHandoff} :
    Straight (InPhase phase)
      (verifyPhaseArtifacts lib prepared ports phase report previous handoff) := by
  refine Straight.bind straight_readExactArtifact fun _ _ => ?_
  refine Straight.bind straight_attempt fun index _ => ?_
  refine Straight.bind straight_ensure fun _ _ => ?_
  refine Straight.bind straight_readArtifacts fun payloads _ => ?_
  match payloads with
  | [p0, p1, p2, p3, p4] => exact Straight.bind straight_verifyDocuments fun _ _ => straight_pure
  | [] | [_] | [_, _] | [_, _, _] | [_, _, _, _] | _ :: _ :: _ :: _ :: _ :: _ :: _ =>
    exact straight_raise

theorem pollPhase_calls {execution : ExecutionRecord} {deadline : ℤ} {polls n : ℕ} :
    CallsOnly (InPhase execution.phase) (pollPhase ports execution deadline polls n) := by
  induction polls generalizing n with
  | zero => exact callsOnly_unfinished
  | succ polls ih =>
    have hcall : Straight (InPhase execution.phase)
        (guardedCall (.readStatus execution) (ports.readStatus execution.phase n)
          (execution.phase.text ++ " phase status failed closed")) := straight_guardedCall rfl
    refine CallsOnly.bind hcall.calls fun s _ => ?_
    refine CallsOnly.bind callsOnly_ensure fun _ _ => ?_
    cases hstate : s.state with
    | succeeded => exact callsOnly_pure
    | failed => exact callsOnly_raise
    | unknown => exact callsOnly_raise
    | running =>
      by_cases htime : deadline ≤ ports.monotonic execution.phase (n + 1)
      · simp only [if_pos htime]
        exact callsOnly_raise
      · simp only [if_neg htime]
        exact ih

/-- A verified phase makes only calls of its phase. -/
theorem runVerifiedPhase_calls {polls : ℕ} {phase : Phase} {report : WorkloadActionReport}
    {previous : Option (VerifiedPhaseArtifacts Payload)} :
    CallsOnly (InPhase phase)
      (runVerifiedPhase lib prepared ports polls phase report previous) := by
  refine CallsOnly.bind straight_startPhaseJob.calls fun execution hexecution => ?_
  obtain ⟨-, -, -, rfl⟩ := startPhaseJob_returned_iff.mp hexecution
  refine CallsOnly.bind pollPhase_calls fun _ _ => ?_
  exact (straight_readPhaseHandoff.bind fun _ _ => straight_verifyPhaseArtifacts).calls

/-- A phase ends when the clock reaches its deadline within the polls. -/
theorem ends_runVerifiedPhase {polls : ℕ} {phase : Phase} {report : WorkloadActionReport}
    {previous : Option (VerifiedPhaseArtifacts Payload)}
    (hclock : ClockReaches prepared ports polls) :
    Ends (runVerifiedPhase lib prepared ports polls phase report previous) := by
  refine Ends.bind straight_startPhaseJob.ends fun execution hexecution => ?_
  obtain ⟨-, -, -, rfl⟩ := startPhaseJob_returned_iff.mp hexecution
  obtain ⟨k, hk, htime⟩ := hclock execution.phase
  have hwait : Ends (waitForPhaseSuccess prepared ports polls execution) :=
    pollPhase_ends ports hk (by rwa [Nat.zero_add])
  refine Ends.bind hwait fun _ _ => ?_
  exact (straight_readPhaseHandoff.bind fun _ _ => straight_verifyPhaseArtifacts).ends

/-! ## Verified phases -/

/-- The documents of a phase parse, are those which the index names, and are verified. -/
structure DocumentsVerified (lib : Library Payload Body) (phase : Phase)
    (report : WorkloadActionReport) (index : CompletionIndex) (p0 p1 p2 p3 p4 : Payload)
    (result : DemoEvaluationResult Body) (presentation : ArgusPresentationPayload Body) :
    Prop where
  result_parsed : lib.evaluationResult p0 = .ok result
  presentation_parsed : lib.presentation p2 = .ok presentation
  named : documentsMatch index result presentation
  snapshot_embedded : ∃ snapshot json, lib.evidenceSnapshot p1 = .ok snapshot ∧
    lib.snapshotJson snapshot = .ok json ∧ lib.snapshotJson result.snapshot = .ok json
  presentation_expected : ∃ envelope expected json, lib.loads p4 = .ok (some envelope) ∧
    lib.expectedPresentation phase index report.receipt result envelope = .ok expected ∧
    lib.presentationJson expected = .ok json ∧ lib.presentationJson presentation = .ok json
  attested : ∃ attestation, lib.attestation p3 = .ok attestation ∧
    lib.verifyAttestation presentation attestation = .ok true

/-- The phase was verified: its job succeeded, its completion index was read from exactly the
reference of the handoff and accepted, and so were the five documents it names. -/
inductive PhaseVerified (lib : Library Payload Body) (prepared : PreparedOperator)
    (ports : Ports Payload) (polls : ℕ) (phase : Phase) (report : WorkloadActionReport)
    (previous : Option (VerifiedPhaseArtifacts Payload)) : VerifiedPhaseArtifacts Payload → Prop
  | intro {handoff : ReferenceHandoff} {payload p0 p1 p2 p3 p4 : Payload}
      {index : CompletionIndex} {result : DemoEvaluationResult Body}
      {presentation : ArgusPresentationPayload Body}
      (started : Startable lib prepared phase report.receiptReference
        (previous.map VerifiedPhaseArtifacts.completionIndexReference))
      (handed : HandsOver prepared ports polls phase handoff)
      (index_read : Reads lib ports phase 0 handoff.completionIndex payload)
      (index_parsed : lib.completionIndex payload = .ok index)
      (index_accepted : indexAccepted lib prepared phase report previous index)
      (documents_read : ReadsAll lib ports phase 1 index.artifacts [p0, p1, p2, p3, p4])
      (documents : DocumentsVerified lib phase report index p0 p1 p2 p3 p4 result presentation) :
      PhaseVerified lib prepared ports polls phase report previous
        (verifiedArtifacts phase report handoff index result presentation p2 p3)

theorem verifyDocuments_returned_iff {phase : Phase} {report : WorkloadActionReport}
    {index : CompletionIndex} {p0 p1 p2 p3 p4 : Payload} {result : DemoEvaluationResult Body}
    {presentation : ArgusPresentationPayload Body} :
    (verifyDocuments lib phase report index p0 p1 p2 p3 p4).outcome =
        .returned (result, presentation) ↔
      DocumentsVerified lib phase report index p0 p1 p2 p3 p4 result presentation := by
  unfold verifyDocuments verifyIntegrity
  simp only [bind_returned_iff, attempt_returned_iff]
  constructor
  · rintro ⟨result', hresult, snapshot, hsnapshot, presentation', hpresentation, attestation,
      hattestation, loaded, hloaded, hrest⟩
    cases loaded with
    | none => simp at hrest
    | some envelope =>
      simp only [bind_returned_iff, ensure_returned_iff, unguarded_returned_iff,
        attempt_returned_iff, pure_outcome, Outcome.returned.injEq, Prod.mk.injEq] at hrest
      obtain ⟨-, ⟨-, hnamed, stored, hstored, embedded, hembedded, -, hsame, expected, hexpected,
        expectedJson, hexpectedJson, json, hjson, -, hjsons, attested, hattested, hattest⟩, hr,
        hp⟩ := hrest
      subst hr hp hsame hjsons hattest
      exact ⟨hresult, hpresentation, hnamed, ⟨snapshot, stored, hsnapshot, hstored, hembedded⟩,
        ⟨envelope, expected, expectedJson, hloaded, hexpected, hexpectedJson, hjson⟩,
        ⟨attestation, hattestation, hattested⟩⟩
  · rintro ⟨hresult, hpresentation, hnamed, ⟨snapshot, stored, hsnapshot, hstored, hembedded⟩,
      ⟨envelope, expected, json, hloaded, hexpected, hexpectedJson, hjson⟩,
      ⟨attestation, hattestation, hattested⟩⟩
    refine ⟨result, hresult, snapshot, hsnapshot, presentation, hpresentation, attestation,
      hattestation, some envelope, hloaded, ?_⟩
    simp only [bind_returned_iff, ensure_returned_iff, unguarded_returned_iff,
      attempt_returned_iff, pure_outcome, and_true]
    exact ⟨(), (), hnamed, stored, hstored, stored, hembedded, (), rfl, expected, hexpected,
      json, hexpectedJson, json, hjson, (), rfl, true, hattested, rfl⟩

theorem verifyPhaseArtifacts_returned_iff {phase : Phase} {report : WorkloadActionReport}
    {previous : Option (VerifiedPhaseArtifacts Payload)} {handoff : ReferenceHandoff}
    {artifacts : VerifiedPhaseArtifacts Payload} :
    (verifyPhaseArtifacts lib prepared ports phase report previous handoff).outcome =
        .returned artifacts ↔
      ∃ payload index p0 p1 p2 p3 p4 result presentation,
        Reads lib ports phase 0 handoff.completionIndex payload ∧
        lib.completionIndex payload = .ok index ∧
        indexAccepted lib prepared phase report previous index ∧
        ReadsAll lib ports phase 1 index.artifacts [p0, p1, p2, p3, p4] ∧
        DocumentsVerified lib phase report index p0 p1 p2 p3 p4 result presentation ∧
        verifiedArtifacts phase report handoff index result presentation p2 p3 = artifacts := by
  unfold verifyPhaseArtifacts
  simp only [bind_returned_iff, readExactArtifact_returned_iff, attempt_returned_iff,
    ensure_returned_iff, readArtifacts_returned_iff]
  constructor
  · rintro ⟨payload, hread, index, hindex, -, haccepted, payloads, hpayloads, hrest⟩
    rcases payloads with _ | ⟨p0, _ | ⟨p1, _ | ⟨p2, _ | ⟨p3, _ | ⟨p4, _ | ⟨p5, rest⟩⟩⟩⟩⟩⟩
    case cons.cons.cons.cons.cons.nil =>
      simp only [bind_returned_iff, Prod.exists, verifyDocuments_returned_iff] at hrest
      obtain ⟨result, presentation, hdocuments, hartifacts⟩ := hrest
      exact ⟨payload, index, p0, p1, p2, p3, p4, result, presentation, hread, hindex, haccepted,
        hpayloads, hdocuments, by simpa using hartifacts⟩
    all_goals simp at hrest
  · rintro ⟨payload, index, p0, p1, p2, p3, p4, result, presentation, hread, hindex, haccepted,
      hpayloads, hdocuments, rfl⟩
    refine ⟨payload, hread, index, hindex, (), haccepted, _, hpayloads, ?_⟩
    simp only [bind_returned_iff, Prod.exists, verifyDocuments_returned_iff]
    exact ⟨result, presentation, hdocuments, rfl⟩

/-- A phase returns exactly the record of a verified phase. -/
theorem phaseVerified_iff {polls : ℕ} {phase : Phase} {report : WorkloadActionReport}
    {previous : Option (VerifiedPhaseArtifacts Payload)}
    {artifacts : VerifiedPhaseArtifacts Payload} :
    (runVerifiedPhase lib prepared ports polls phase report previous).outcome =
        .returned artifacts ↔
      PhaseVerified lib prepared ports polls phase report previous artifacts := by
  rw [runVerifiedPhase_returned_iff]
  simp only [verifyPhaseArtifacts_returned_iff]
  constructor
  · rintro ⟨hstart, handoff, hhanded, payload, index, p0, p1, p2, p3, p4, result, presentation,
      hread, hindex, haccepted, hpayloads, hdocuments, rfl⟩
    exact .intro hstart hhanded hread hindex haccepted hpayloads hdocuments
  · rintro ⟨hstart, hhanded, hread, hindex, haccepted, hpayloads, hdocuments⟩
    exact ⟨hstart, _, hhanded, _, _, _, _, _, _, _, _, _, hread, hindex, haccepted, hpayloads,
      hdocuments, rfl⟩

namespace PhaseVerified

variable {polls : ℕ} {phase : Phase} {report : WorkloadActionReport}
  {previous : Option (VerifiedPhaseArtifacts Payload)} {artifacts : VerifiedPhaseArtifacts Payload}

theorem startable (h : PhaseVerified lib prepared ports polls phase report previous artifacts) :
    Startable lib prepared phase report.receiptReference
      (previous.map VerifiedPhaseArtifacts.completionIndexReference) := by
  cases h
  assumption

theorem receiptReport_eq
    (h : PhaseVerified lib prepared ports polls phase report previous artifacts) :
    artifacts.receiptReport = report := by
  cases h
  rfl

theorem indexAccepted
    (h : PhaseVerified lib prepared ports polls phase report previous artifacts) :
    indexAccepted lib prepared phase report previous artifacts.completionIndex := by
  cases h
  assumption

/-- The index of a verified phase was read under its name. -/
theorem reference_name
    (h : PhaseVerified lib prepared ports polls phase report previous artifacts) :
    artifacts.completionIndexReference.name = completionIndexName prepared.runId phase := by
  obtain @⟨handoff, -, -, -, -, -, -, -, -, -, -, ⟨execution, -, hrun, -, -, hhandoff⟩, -⟩ := h
  have hname := handoff.index_name
  rwa [hhandoff.1, hhandoff.2.1, hrun.1, hrun.2] at hname

end PhaseVerified

/-- One verified phase continues another: one lineage, receipts one after another with the
power state of the first at the start of the second, and an index that names the exact
reference and digest of the previous one. -/
structure Follows (lib : Library Payload Body) (previous current : VerifiedPhaseArtifacts Payload) :
    Prop where
  lineage : faultLineageDigest lib previous.receiptReport.receipt =
    faultLineageDigest lib current.receiptReport.receipt
  order : previous.receiptReport.receipt.completedAt ≤ current.receiptReport.receipt.startedAt
  power : previous.receiptReport.receipt.afterPowerState =
    current.receiptReport.receipt.beforePowerState
  reference : current.completionIndex.previousPhaseIndex = some previous.completionIndexReference
  digest : current.completionIndex.previousPhaseIndexDigest =
    some previous.completionIndex.indexDigest

/-- A phase verified after another one follows it. -/
theorem PhaseVerified.follows {polls : ℕ} {phase phase' : Phase}
    {report report' : WorkloadActionReport} {previous : Option (VerifiedPhaseArtifacts Payload)}
    {p current : VerifiedPhaseArtifacts Payload}
    (hprevious : PhaseVerified lib prepared ports polls phase report previous p)
    (hcurrent : PhaseVerified lib prepared ports polls phase' report' (some p) current) :
    Follows lib p current := by
  have hmatches := hprevious.indexAccepted.1
  have hcontinues : IndexContinues lib p report' current.completionIndex :=
    hcurrent.indexAccepted.2
  rw [← hprevious.receiptReport_eq] at hmatches
  rw [← hcurrent.receiptReport_eq] at hcontinues
  exact
    { lineage := hmatches.lineage.symm.trans hcontinues.lineage
      order := hmatches.interval.2 ▸ hcontinues.order
      power := hmatches.power.2.symm.trans hcontinues.power
      reference := hcontinues.reference
      digest := hcontinues.digest }

end AthenaContext.OperationalPhases
