import AthenaContext.OperationalPhases

/-!
# The reset after a fault

Only operator errors are caught around the injection and the faulted phase. The reset
follows the injection exactly when nothing which the faulted phase computes from the answers
of its ports raises any other exception. A result is there only when the three phases were
verified one after another, on one chain of receipts and completion indexes.
-/

namespace AthenaContext.FaultReset

open PortPrograms PortPrograms.Run OperationalDemo OperationalPhases
open IncidentRecords (Digest UtcDateTime VersionPinnedBlobReference)

variable {Payload Body α β : Type}
variable {lib : Library Payload Body} {prepared : PreparedOperator} {ports : Ports Payload}

/-! ## The workload actions -/

theorem invokeWorkloadAction_returned_iff {action : ReceiptAction}
    {report : WorkloadActionReport} :
    (invokeWorkloadAction prepared ports action).outcome = .returned report ↔
      ports.workload action = .ok report ∧ report.runId = prepared.runId ∧
        report.action = action := by
  simp [invokeWorkloadAction]

theorem contained_invokeWorkloadAction {action : ReceiptAction} :
    Contained (invokeWorkloadAction prepared ports action) :=
  contained_guardedCall_bind.mpr fun _ _ => contained_ensure_bind.mpr fun _ => confined_pure

theorem ends_invokeWorkloadAction {action : ReceiptAction} :
    Ends (invokeWorkloadAction prepared ports action) :=
  Ends.bind ends_guardedCall fun _ _ => Ends.bind ends_ensure fun _ _ => ends_pure

/-- A computation without calls adds none. -/
theorem bind_calls_of_silent {m : Operation α} {f : α → Operation β} (h : ∀ a, (f a).calls = []) :
    (m >>= f).calls = m.calls := by
  obtain ⟨rest, hcalls, rfl | ⟨a, -, rfl⟩⟩ := exists_bind_calls m f
  · rw [hcalls, List.append_nil]
  · rw [hcalls, h, List.append_nil]

@[simp] theorem invokeWorkloadAction_calls {action : ReceiptAction} :
    (invokeWorkloadAction prepared ports action).calls = [.workload action] := by
  unfold invokeWorkloadAction
  rw [bind_calls_of_silent, guardedCall_calls]
  intro report
  rw [bind_calls_of_silent fun _ => pure_calls _, ensure_calls]

variable (lib prepared ports) in
/-- The reset calls the reset and nothing else. -/
theorem resetFault_calls (baseline : VerifiedPhaseArtifacts Payload)
    (attempt : FaultAttempt Payload) :
    (resetFault lib prepared ports baseline attempt).calls = [.workload .reset] := by
  unfold resetFault validateReceiptTransition
  rw [translate_calls, bind_calls_of_silent, invokeWorkloadAction_calls]
  intro report
  rw [bind_calls_of_silent fun _ => pure_calls _, ensure_calls]

theorem ends_resetFault {baseline : VerifiedPhaseArtifacts Payload}
    {attempt : FaultAttempt Payload} : Ends (resetFault lib prepared ports baseline attempt) := by
  refine ends_translate.mpr (Ends.bind ends_invokeWorkloadAction fun _ _ => ?_)
  exact Ends.bind ends_ensure fun _ _ => ends_pure

theorem resetFault_returned_iff {baseline : VerifiedPhaseArtifacts Payload}
    {attempt : FaultAttempt Payload} {report : WorkloadActionReport} :
    (resetFault lib prepared ports baseline attempt).outcome = .returned report ↔
      (ports.workload .reset = .ok report ∧ report.runId = prepared.runId ∧
        report.action = .reset) ∧
      receiptTransitionValid lib (some (attempt.injectReport.getD baseline.receiptReport)) report
        .reset attempt.injectReport.isNone := by
  simp [resetFault, validateReceiptTransition, invokeWorkloadAction_returned_iff]

/-! ## The try around the injection -/

theorem keepMessage_of_operatorError {report : Option WorkloadActionReport} {e : Raised}
    (he : isOperatorError e) :
    (keepMessage report e : Option (Operation (FaultAttempt Payload))) =
      some (return ⟨report, none, some e.message⟩) :=
  if_pos he

theorem keepMessage_of_other {report : Option WorkloadActionReport} {e : Raised}
    (he : ¬ isOperatorError e) :
    (keepMessage report e : Option (Operation (FaultAttempt Payload))) = none :=
  if_neg he

/-- The handler takes exactly the operator errors. -/
theorem confined_handle_keepMessage {p : Raised → Prop} (hp : ∀ e, p e → isOperatorError e)
    {m : Operation (FaultAttempt Payload)} {report : Option WorkloadActionReport} :
    Confined p (handle m (keepMessage report)) ↔ Contained m := by
  refine confined_handle.trans (forall₂_congr fun e _ => ?_)
  by_cases he : isOperatorError e
  · rw [keepMessage_of_operatorError he]
    exact iff_of_true confined_pure he
  · rw [keepMessage_of_other he]
    exact iff_of_false (fun h => he (hp e h)) he

theorem handle_keepMessage_calls {m : Operation (FaultAttempt Payload)}
    {report : Option WorkloadActionReport} :
    (handle m (keepMessage report)).calls = m.calls := by
  cases h : m.outcome with
  | returned a => rw [handle_of_returned h]
  | unfinished => rw [handle_of_unfinished h]
  | raised e =>
    rw [handle_of_raised h]
    by_cases he : isOperatorError e
    · rw [keepMessage_of_operatorError he]
      exact List.append_nil _
    · rw [keepMessage_of_other he]
      rfl

theorem ends_handle_keepMessage {m : Operation (FaultAttempt Payload)}
    {report : Option WorkloadActionReport} (h : Ends m) : Ends (handle m (keepMessage report)) := by
  refine h.handle fun e _ r hr => ?_
  by_cases he : isOperatorError e
  · rw [keepMessage_of_operatorError he] at hr
    cases hr
    exact ends_pure
  · rw [keepMessage_of_other he] at hr
    cases hr

/-- An attempt with a verified phase comes from a run without any exception. -/
theorem handle_keepMessage_returned {m : Operation (FaultAttempt Payload)}
    {report : Option WorkloadActionReport} {a : FaultAttempt Payload}
    (h : (handle m (keepMessage report)).outcome = .returned a) (hfaulted : a.faulted ≠ none) :
    m.outcome = .returned a := by
  cases hm : m.outcome with
  | returned b =>
    rw [handle_of_returned hm, hm] at h
    exact h
  | unfinished => simp [handle_of_unfinished hm, hm] at h
  | raised e =>
    rw [handle_of_raised hm] at h
    by_cases he : isOperatorError e
    · rw [keepMessage_of_operatorError he] at h
      cases h
      exact absurd rfl hfaulted
    · rw [keepMessage_of_other he] at h
      simp [hm] at h

/-- The baseline was verified on the answer of the status action. -/
structure BaselineVerified (lib : Library Payload Body) (prepared : PreparedOperator)
    (ports : Ports Payload) (polls : ℕ) (baseline : VerifiedPhaseArtifacts Payload) : Prop where
  answered : ports.workload .status = .ok baseline.receiptReport
  run : baseline.receiptReport.runId = prepared.runId
  action : baseline.receiptReport.action = .status
  receipt : receiptTransitionValid lib none baseline.receiptReport .status false
  verified : PhaseVerified lib prepared ports polls .baseline baseline.receiptReport none baseline

/-- Whatever the faulted phase computes from the answers of its ports, up to the first check
that fails, raises only what is caught there. -/
def FaultedContained (lib : Library Payload Body) (prepared : PreparedOperator)
    (ports : Ports Payload) (polls : ℕ) (baseline : VerifiedPhaseArtifacts Payload) : Prop :=
  ∀ report, ports.workload .inject = .ok report →
  report.runId = prepared.runId ∧ report.action = .inject →
  receiptTransitionValid lib (some baseline.receiptReport) report .inject false →
  ∀ handoff, HandsOver prepared ports polls .faulted handoff →
  VerificationContained lib prepared ports .faulted report (some baseline) handoff

section Attempt

variable {polls : ℕ} {baseline : VerifiedPhaseArtifacts Payload}

theorem baselinePhase_returned_iff :
    (baselinePhase lib prepared ports polls).outcome = .returned baseline ↔
      BaselineVerified lib prepared ports polls baseline := by
  unfold baselinePhase validateReceiptTransition
  simp only [bind_returned_iff, invokeWorkloadAction_returned_iff, ensure_returned_iff,
    phaseVerified_iff]
  constructor
  · rintro ⟨report, ⟨hanswer, hrun, haction⟩, -, hvalid, hverified⟩
    obtain rfl := hverified.receiptReport_eq
    exact ⟨hanswer, hrun, haction, hvalid, hverified⟩
  · intro h
    exact ⟨_, ⟨h.answered, h.run, h.action⟩, (), h.receipt, h.verified⟩

/-- The faulted phase can start on the answer of the injection: its inputs have the names
which their models demand. -/
theorem BaselineVerified.startable (h : BaselineVerified lib prepared ports polls baseline)
    {report : WorkloadActionReport} (hrun : report.runId = prepared.runId)
    (haction : report.action = .inject) :
    Startable lib prepared .faulted report.receiptReference
      (some baseline.completionIndexReference) := by
  refine ⟨⟨?_, baseline.completionIndexReference, rfl, h.verified.reference_name⟩,
    h.verified.startable.2⟩
  have hname := report.reference_name
  rwa [hrun, haction] at hname

/-- No exception leaves the attempt exactly when the faulted phase is contained. -/
theorem attemptFault_confined_iff (h : BaselineVerified lib prepared ports polls baseline) :
    Confined (fun _ => False) (attemptFault lib prepared ports polls baseline) ↔
      FaultedContained lib prepared ports polls baseline := by
  unfold attemptFault FaultedContained
  refine (confined_handle_keepMessage fun _ => False.elim).trans ?_
  refine confined_bind.trans ((and_iff_right contained_invokeWorkloadAction).trans ?_)
  simp only [invokeWorkloadAction_returned_iff, and_imp]
  refine forall₂_congr fun report _ => forall₂_congr fun hrun haction => ?_
  refine (confined_handle_keepMessage fun _ => id).trans ?_
  have hkeep : ∀ m : Operation (VerifiedPhaseArtifacts Payload),
      Contained (do let faulted ← m; return (⟨some report, some faulted, none⟩ : FaultAttempt _)) ↔
        Contained m := fun m => confined_bind.trans (and_iff_left fun _ _ => confined_pure)
  refine (hkeep _).trans (contained_ensure_bind.trans (forall_congr' fun _ => ?_))
  exact runVerifiedPhase_contained_iff (h.startable hrun haction)

variable (lib prepared ports polls baseline) in
/-- The injection comes first, and then only calls of the faulted phase. -/
theorem attemptFault_calls :
    ∃ between, (attemptFault lib prepared ports polls baseline).calls =
      .workload .inject :: between ∧ ∀ c ∈ between, InPhase .faulted c := by
  unfold attemptFault
  rw [handle_keepMessage_calls]
  obtain ⟨rest, hcalls, hrest⟩ := exists_bind_calls (invokeWorkloadAction prepared ports .inject)
    fun report => handle (do
        let faulted ← faultedPhase lib prepared ports polls baseline report
        return ⟨some report, some faulted, none⟩)
      (keepMessage (some report))
  refine ⟨rest, by rw [hcalls, invokeWorkloadAction_calls, List.singleton_append], ?_⟩
  rcases hrest with rfl | ⟨report, -, rfl⟩
  · exact fun c hc => absurd hc List.not_mem_nil
  · rw [handle_keepMessage_calls, bind_calls_of_silent fun _ => pure_calls _]
    exact CallsOnly.bind callsOnly_ensure fun _ _ => runVerifiedPhase_calls

theorem ends_attemptFault (hclock : ClockReaches prepared ports polls) :
    Ends (attemptFault lib prepared ports polls baseline) := by
  refine ends_handle_keepMessage (Ends.bind ends_invokeWorkloadAction fun report _ => ?_)
  refine ends_handle_keepMessage (Ends.bind ?_ fun _ _ => ends_pure)
  exact Ends.bind ends_ensure fun _ _ => ends_runVerifiedPhase hclock

/-- An attempt which has a verified phase has it on the answer of the injection. -/
theorem attemptFault_returned {a : FaultAttempt Payload} {faulted : VerifiedPhaseArtifacts Payload}
    (h : (attemptFault lib prepared ports polls baseline).outcome = .returned a)
    (hfaulted : a.faulted = some faulted) :
    ports.workload .inject = .ok faulted.receiptReport ∧
      a.injectReport = some faulted.receiptReport ∧
      PhaseVerified lib prepared ports polls .faulted faulted.receiptReport (some baseline)
        faulted := by
  have hne : a.faulted ≠ none := by simp [hfaulted]
  have hbody := handle_keepMessage_returned h hne
  obtain ⟨report, hreport, hrest⟩ := bind_returned_iff.mp hbody
  obtain ⟨verified, hverified, hpure⟩ :=
    bind_returned_iff.mp (handle_keepMessage_returned hrest hne)
  cases hpure
  cases hfaulted
  obtain ⟨-, -, hphase⟩ := bind_returned_iff.mp hverified
  have hphase := phaseVerified_iff.mp hphase
  obtain rfl := hphase.receiptReport_eq
  exact ⟨(invokeWorkloadAction_returned_iff.mp hreport).1, rfl, hphase⟩

end Attempt

/-! ## The run -/

/-- The call neither stops nor starts the machine. -/
def Quiet (c : PortCall) : Prop := c ≠ .workload .inject ∧ c ≠ .workload .reset

/-- An injection is followed by one reset, and a reset stands after an injection only. -/
structure FaultAlwaysReset (calls : List PortCall) : Prop where
  reset_follows : .workload .inject ∈ calls → ∃ before after,
    calls = before ++ .workload .reset :: after ∧ .workload .inject ∈ before ∧
      .workload .inject ∉ after ∧ .workload .reset ∉ before ∧ .workload .reset ∉ after
  reset_only_after : .workload .reset ∈ calls → .workload .inject ∈ calls

/-- The three actions in order, each followed by the calls of its phase, and the publication
at the end. -/
def CallsInOrder (calls : List PortCall) : Prop :=
  ∃ b f r, calls = (.workload .status :: b) ++ (.workload .inject :: f) ++ .workload .reset :: r ∧
    (∀ c ∈ b, InPhase .baseline c) ∧ (∀ c ∈ f, InPhase .faulted c) ∧
    ∀ c ∈ r, InPhase .recovered c ∨ c = .publish

/-- What stands behind a result. -/
structure ResultVerified (lib : Library Payload Body) (prepared : PreparedOperator)
    (ports : Ports Payload) (polls : ℕ) (calls : List PortCall) (r : OperatorResult)
    (baseline faulted recovered : VerifiedPhaseArtifacts Payload) : Prop where
  baseline_verified : BaselineVerified lib prepared ports polls baseline
  inject_answered : ports.workload .inject = .ok faulted.receiptReport
  faulted_verified : PhaseVerified lib prepared ports polls .faulted faulted.receiptReport
    (some baseline) faulted
  reset_answered : ports.workload .reset = .ok recovered.receiptReport
  recovered_verified : PhaseVerified lib prepared ports polls .recovered recovered.receiptReport
    (some faulted) recovered
  faulted_follows : Follows lib baseline faulted
  recovered_follows : Follows lib faulted recovered
  summaries : r.baseline = baseline.summary ∧ r.faulted = faulted.summary ∧
    r.recovered = recovered.summary
  in_order : CallsInOrder calls

/-- A run which leaves no fault behind. It ends when the clock reaches the deadlines; when it
ends, every injection was reset; and what it returns was verified. -/
structure FaultRunSafe (lib : Library Payload Body) (prepared : PreparedOperator)
    (ports : Ports Payload) (polls : ℕ) (run : Operation OperatorResult) : Prop where
  ends : ClockReaches prepared ports polls → Ends run
  reset : Ends run → FaultAlwaysReset run.calls
  verified : ∀ r, run.outcome = .returned r → ∃ baseline faulted recovered,
    ResultVerified lib prepared ports polls run.calls r baseline faulted recovered

/-- In a confirmed run with a verified baseline, the faulted phase is contained. -/
def FaultContained (lib : Library Payload Body) (prepared : PreparedOperator)
    (ports : Ports Payload) (confirmationPhrase : Option String) (polls : ℕ) : Prop :=
  confirmationPhrase = some prepared.confirmationPhrase →
  ∀ baseline, BaselineVerified lib prepared ports polls baseline →
  FaultedContained lib prepared ports polls baseline

theorem quiet_of_inPhase {phase : Phase} {c : PortCall} (h : InPhase phase c) : Quiet c := by
  constructor <;> rintro rfl <;> cases h

theorem quiet_publish : Quiet .publish := by
  constructor <;> intro h <;> cases h

theorem faultAlwaysReset_of_quiet {calls : List PortCall} (h : ∀ c ∈ calls, Quiet c) :
    FaultAlwaysReset calls where
  reset_follows := fun hinject => absurd rfl (h _ hinject).1
  reset_only_after := fun hreset => absurd rfl (h _ hreset).2

theorem faultAlwaysReset_of_split {before between after : List PortCall}
    (hbefore : ∀ c ∈ before, Quiet c) (hbetween : ∀ c ∈ between, Quiet c)
    (hafter : ∀ c ∈ after, Quiet c) :
    FaultAlwaysReset
      (before ++ ((.workload .inject :: between) ++ .workload .reset :: after)) where
  reset_follows := by
    intro _
    refine ⟨before ++ .workload .inject :: between, after, by simp, by simp, ?_, ?_, ?_⟩
    · exact fun hinject => (hafter _ hinject).1 rfl
    · intro hreset
      rcases List.mem_append.mp hreset with hmem | hmem
      · exact (hbefore _ hmem).2 rfl
      · rcases List.mem_cons.mp hmem with hmem | hmem
        · cases hmem
        · exact (hbetween _ hmem).2 rfl
    · exact fun hreset => (hafter _ hreset).2 rfl
  reset_only_after := by simp

/-- An injection at the end of the calls, with no reset after it, is not reset. -/
theorem not_faultAlwaysReset {before between : List PortCall}
    (hbefore : ∀ c ∈ before, Quiet c) (hbetween : ∀ c ∈ between, Quiet c) :
    ¬ FaultAlwaysReset (before ++ .workload .inject :: between) := by
  intro h
  obtain ⟨first, after, hcalls, -⟩ := h.reset_follows (by simp)
  have hreset : .workload .reset ∈ before ++ .workload .inject :: between := by simp [hcalls]
  rcases List.mem_append.mp hreset with hmem | hmem
  · exact (hbefore _ hmem).2 rfl
  · rcases List.mem_cons.mp hmem with hmem | hmem
    · cases hmem
    · exact (hbetween _ hmem).2 rfl

section Run

variable {polls : ℕ} {baseline faulted : VerifiedPhaseArtifacts Payload}

variable (lib prepared ports polls) in
theorem baselinePhase_calls :
    ∃ b, (baselinePhase lib prepared ports polls).calls = .workload .status :: b ∧
      ∀ c ∈ b, InPhase .baseline c := by
  obtain ⟨rest, hcalls, hrest⟩ := exists_bind_calls (invokeWorkloadAction prepared ports .status)
    fun report => do
      validateReceiptTransition lib none report .status false
      runVerifiedPhase lib prepared ports polls .baseline report none
  refine ⟨rest, ?_, ?_⟩
  · rw [invokeWorkloadAction_calls, List.singleton_append] at hcalls
    exact hcalls
  · rcases hrest with rfl | ⟨report, -, rfl⟩
    · exact fun c hc => absurd hc List.not_mem_nil
    · exact CallsOnly.bind callsOnly_ensure fun _ _ => runVerifiedPhase_calls

theorem baselinePhase_quiet :
    ∀ c ∈ (baselinePhase lib prepared ports polls).calls, Quiet c := by
  obtain ⟨b, hcalls, hb⟩ :=
    baselinePhase_calls lib prepared ports polls
  intro c hc
  rw [hcalls] at hc
  rcases List.mem_cons.mp hc with rfl | hc
  · constructor <;> intro heq <;> cases heq
  · exact quiet_of_inPhase (hb c hc)

theorem ends_baselinePhase (hclock : ClockReaches prepared ports polls) :
    Ends (baselinePhase lib prepared ports polls) := by
  refine Ends.bind ends_invokeWorkloadAction fun report _ => ?_
  exact Ends.bind ends_ensure fun _ _ => ends_runVerifiedPhase hclock

theorem straight_publishPresentation {recovered : VerifiedPhaseArtifacts Payload} :
    Straight (· = .publish) (publishPresentation lib prepared ports baseline faulted recovered) := by
  refine Straight.translate (Straight.bind straight_unguarded fun _ _ => ?_)
  refine Straight.bind (straight_call rfl) fun _ _ => ?_
  exact Straight.bind straight_ensure fun _ _ => straight_pure

theorem straight_publishIfConfigured {recovered : VerifiedPhaseArtifacts Payload} :
    Straight (· = .publish)
      (publishIfConfigured lib prepared ports baseline faulted recovered) := by
  unfold publishIfConfigured
  by_cases h : prepared.publisherConfigured
  · rw [if_pos h]
    exact Straight.bind straight_publishPresentation fun _ _ => straight_pure
  · rw [if_neg h]
    exact straight_pure

theorem finishRun_calls {report : WorkloadActionReport} :
    ∀ c ∈ (finishRun lib prepared ports polls baseline faulted report).calls,
      InPhase .recovered c ∨ c = .publish := by
  refine CallsOnly.bind ?_ fun recovered _ => CallsOnly.bind ?_ fun _ _ => callsOnly_pure
  · exact callsOnly_translate.mpr fun c hc => Or.inl (runVerifiedPhase_calls c hc)
  · exact fun c hc => Or.inr (straight_publishIfConfigured.calls c hc)

theorem ends_finishRun {report : WorkloadActionReport} (hclock : ClockReaches prepared ports polls) :
    Ends (finishRun lib prepared ports polls baseline faulted report) := by
  refine Ends.bind (ends_translate.mpr (ends_runVerifiedPhase hclock)) fun recovered _ => ?_
  exact Ends.bind straight_publishIfConfigured.ends fun _ _ => ends_pure

/-- A result has the summaries of the phases. -/
theorem finishRun_returned {report : WorkloadActionReport} {r : OperatorResult}
    (h : (finishRun lib prepared ports polls baseline faulted report).outcome = .returned r) :
    ∃ recovered, PhaseVerified lib prepared ports polls .recovered report (some faulted) recovered ∧
      r.baseline = baseline.summary ∧ r.faulted = faulted.summary ∧
      r.recovered = recovered.summary := by
  obtain ⟨recovered, hphase, hrest⟩ := bind_returned_iff.mp h
  obtain ⟨publication, -, hpure⟩ := bind_returned_iff.mp hrest
  cases hpure
  exact ⟨recovered, phaseVerified_iff.mp (translate_returned_iff.mp hphase), rfl, rfl, rfl⟩

variable (lib prepared ports polls baseline) in
/-- What a demonstration does once its reset has succeeded. -/
def afterReset (attempt : FaultAttempt Payload) (resetReport : WorkloadActionReport) :
    Operation OperatorResult :=
  match attempt.primaryMessage with
  | some message => raise (operatorError (message ++ "; reset succeeded; recovery not run"))
  | none =>
    match attempt.faulted with
    | none => raise (operatorError "reset action failed closed; recovery not run")
    | some faulted => finishRun lib prepared ports polls baseline faulted resetReport

variable (lib prepared ports polls baseline) in
/-- What follows a verified baseline: the injection, the calls of the faulted phase, and, if
no exception left the attempt, the reset. -/
theorem demonstrateFault_calls :
    ∃ between, (∀ c ∈ between, InPhase .faulted c) ∧
      ((∃ a after, (attemptFault lib prepared ports polls baseline).outcome = .returned a ∧
          (demonstrateFault lib prepared ports polls baseline).calls =
            (.workload .inject :: between) ++ .workload .reset :: after ∧
          ∀ c ∈ after, InPhase .recovered c ∨ c = .publish) ∨
        (∀ a, (attemptFault lib prepared ports polls baseline).outcome ≠ .returned a) ∧
          (demonstrateFault lib prepared ports polls baseline).calls =
            .workload .inject :: between) := by
  obtain ⟨between, hattempt, hbetween⟩ :=
    attemptFault_calls lib prepared ports polls baseline
  refine ⟨between, hbetween, ?_⟩
  cases houtcome : (attemptFault lib prepared ports polls baseline).outcome with
  | raised e =>
    refine Or.inr ⟨by simp, ?_⟩
    rw [← hattempt]
    exact congrArg Run.calls (bind_of_raised houtcome)
  | unfinished =>
    refine Or.inr ⟨by simp, ?_⟩
    rw [← hattempt]
    exact congrArg Run.calls (bind_of_unfinished houtcome)
  | returned a =>
    obtain ⟨after, hcalls, hafter⟩ := exists_bind_calls (resetFault lib prepared ports baseline a)
      (afterReset lib prepared ports polls baseline a)
    refine Or.inl ⟨a, after, rfl, ?_, ?_⟩
    · rw [← hattempt, ← List.singleton_append, ← resetFault_calls lib prepared ports baseline a, ← hcalls]
      exact congrArg Run.calls (bind_of_returned houtcome)
    · rcases hafter with rfl | ⟨report, -, rfl⟩
      · exact fun c hc => absurd hc List.not_mem_nil
      · unfold afterReset
        cases a.primaryMessage with
        | some message => exact fun c hc => absurd hc List.not_mem_nil
        | none =>
          cases a.faulted with
          | none => exact fun c hc => absurd hc List.not_mem_nil
          | some faulted => exact finishRun_calls

theorem ends_demonstrateFault (hclock : ClockReaches prepared ports polls) :
    Ends (demonstrateFault lib prepared ports polls baseline) := by
  refine Ends.bind (ends_attemptFault hclock) fun a _ => Ends.bind ends_resetFault fun report _ => ?_
  cases a.primaryMessage with
  | some message => exact ends_raise
  | none =>
    cases a.faulted with
    | none => exact ends_raise
    | some faulted => exact ends_finishRun hclock

/-- A result comes from a verified faulted phase, the reset of it, and a verified recovery. -/
theorem demonstrateFault_returned {r : OperatorResult}
    (h : (demonstrateFault lib prepared ports polls baseline).outcome = .returned r) :
    ∃ faulted recovered,
      ports.workload .inject = .ok faulted.receiptReport ∧
      PhaseVerified lib prepared ports polls .faulted faulted.receiptReport (some baseline)
        faulted ∧
      ports.workload .reset = .ok recovered.receiptReport ∧
      PhaseVerified lib prepared ports polls .recovered recovered.receiptReport (some faulted)
        recovered ∧
      r.baseline = baseline.summary ∧ r.faulted = faulted.summary ∧
      r.recovered = recovered.summary := by
  obtain ⟨a, hattempt, hrest⟩ := bind_returned_iff.mp h
  obtain ⟨report, hreset, hrest⟩ := bind_returned_iff.mp hrest
  cases hmessage : a.primaryMessage with
  | some message => simp [hmessage] at hrest
  | none =>
    cases hfaulted : a.faulted with
    | none => simp [hmessage, hfaulted] at hrest
    | some faulted =>
      simp only [hmessage, hfaulted] at hrest
      obtain ⟨hinject, -, hphase⟩ := attemptFault_returned hattempt hfaulted
      obtain ⟨recovered, hrecovered, hsummaries⟩ := finishRun_returned hrest
      obtain rfl := hrecovered.receiptReport_eq
      exact ⟨faulted, recovered, hinject, hphase, (resetFault_returned_iff.mp hreset).1.1,
        hrecovered, hsummaries⟩

variable {confirmationPhrase : Option String}

/-- The run of a confirmed operator with a verified baseline. -/
theorem run_of_baselineVerified (hphrase : confirmationPhrase = some prepared.confirmationPhrase)
    (h : BaselineVerified lib prepared ports polls baseline) :
    runOperationalDemoOperator lib prepared ports confirmationPhrase polls =
      ⟨(demonstrateFault lib prepared ports polls baseline).outcome,
        (baselinePhase lib prepared ports polls).calls ++
          (demonstrateFault lib prepared ports polls baseline).calls⟩ := by
  have hensure : (ensure (confirmationPhrase = some prepared.confirmationPhrase)
      (operatorError "confirmation phrase did not match the reviewed run") :
        Operation Unit).outcome = .returned () := ensure_returned_iff.mpr hphrase
  have hbaseline := translate_returned_iff
    (t := rename (· ++ "; reset not attempted; recovery not run")) |>.mpr
    (baselinePhase_returned_iff.mpr h)
  unfold runOperationalDemoOperator
  rw [bind_of_returned hensure, bind_of_returned hbaseline]
  simp

/-- Every other run makes only the status call and calls of the baseline, and returns
nothing. -/
theorem run_of_not_baselineVerified
    (h : confirmationPhrase = some prepared.confirmationPhrase →
      ∀ b, ¬ BaselineVerified lib prepared ports polls b) :
    (∀ c ∈ (runOperationalDemoOperator lib prepared ports confirmationPhrase polls).calls,
        Quiet c) ∧
      ∀ r, (runOperationalDemoOperator lib prepared ports confirmationPhrase polls).outcome ≠
        .returned r := by
  unfold runOperationalDemoOperator
  constructor
  · refine CallsOnly.bind callsOnly_ensure fun _ hphrase => ?_
    have hnone := h (ensure_returned_iff.mp hphrase)
    refine CallsOnly.bind (callsOnly_translate.mpr baselinePhase_quiet) fun b hb => ?_
    exact absurd (baselinePhase_returned_iff.mp (translate_returned_iff.mp hb)) (hnone b)
  · intro r hr
    obtain ⟨_, hphrase, hr⟩ := bind_returned_iff.mp hr
    obtain ⟨b, hb, -⟩ := bind_returned_iff.mp hr
    exact h (ensure_returned_iff.mp hphrase) b
      (baselinePhase_returned_iff.mp (translate_returned_iff.mp hb))

theorem ends_run (hclock : ClockReaches prepared ports polls) :
    Ends (runOperationalDemoOperator lib prepared ports confirmationPhrase polls) := by
  refine Ends.bind ends_ensure fun _ _ => ?_
  exact Ends.bind (ends_translate.mpr (ends_baselinePhase hclock)) fun _ _ =>
    ends_demonstrateFault hclock

/-- An exception that leaves the attempt leaves the run, with the fault in place. -/
theorem run_not_reset (hphrase : confirmationPhrase = some prepared.confirmationPhrase)
    (h : BaselineVerified lib prepared ports polls baseline) {e : Raised}
    (he : (attemptFault lib prepared ports polls baseline).outcome = .raised e) :
    Ends (runOperationalDemoOperator lib prepared ports confirmationPhrase polls) ∧
      ¬ FaultAlwaysReset
        (runOperationalDemoOperator lib prepared ports confirmationPhrase polls).calls := by
  have hrun : demonstrateFault lib prepared ports polls baseline = ⟨.raised e, _⟩ :=
    bind_of_raised he
  obtain ⟨between, hcalls, hbetween⟩ :=
    attemptFault_calls lib prepared ports polls baseline
  rw [run_of_baselineVerified hphrase h, hrun, hcalls]
  exact ⟨by simp [Ends],
    not_faultAlwaysReset baselinePhase_quiet fun c hc => quiet_of_inPhase (hbetween c hc)⟩

/-- A contained fault is reset before the run ends. -/
theorem run_reset (hphrase : confirmationPhrase = some prepared.confirmationPhrase)
    (h : BaselineVerified lib prepared ports polls baseline)
    (hcontained : FaultedContained lib prepared ports polls baseline)
    (hends : Ends (runOperationalDemoOperator lib prepared ports confirmationPhrase polls)) :
    FaultAlwaysReset
      (runOperationalDemoOperator lib prepared ports confirmationPhrase polls).calls := by
  rw [run_of_baselineVerified hphrase h] at hends ⊢
  have hattempt : Ends (attemptFault lib prepared ports polls baseline) := by
    intro hunfinished
    exact hends (congrArg Run.outcome (bind_of_unfinished hunfinished))
  obtain ⟨a, ha⟩ := hattempt.returned ((attemptFault_confined_iff h).mpr hcontained)
  obtain ⟨between, hbetween, ⟨_, after, -, hcalls, hafter⟩ | ⟨hnone, -⟩⟩ :=
    demonstrateFault_calls lib prepared ports polls baseline
  · simp only [hcalls]
    refine faultAlwaysReset_of_split baselinePhase_quiet (fun c hc => quiet_of_inPhase (hbetween c hc)) ?_
    intro c hc
    rcases hafter c hc with hphase | rfl
    · exact quiet_of_inPhase hphase
    · exact quiet_publish
  · exact absurd ha (hnone a)

/-- What a run returns was verified. -/
theorem run_verified (hphrase : confirmationPhrase = some prepared.confirmationPhrase)
    (h : BaselineVerified lib prepared ports polls baseline) {r : OperatorResult}
    (hr : (runOperationalDemoOperator lib prepared ports confirmationPhrase polls).outcome =
      .returned r) :
    ∃ faulted recovered, ResultVerified lib prepared ports polls
      (runOperationalDemoOperator lib prepared ports confirmationPhrase polls).calls r baseline
      faulted recovered := by
  rw [run_of_baselineVerified hphrase h] at hr ⊢
  obtain ⟨faulted, recovered, hinject, hfaulted, hreset, hrecovered, hsummaries⟩ :=
    demonstrateFault_returned hr
  refine ⟨faulted, recovered, h, hinject, hfaulted, hreset, hrecovered,
    h.verified.follows hfaulted, hfaulted.follows hrecovered, hsummaries, ?_⟩
  obtain ⟨b, hbaseline, hb⟩ :=
    baselinePhase_calls lib prepared ports polls
  obtain ⟨a, ha, -⟩ := bind_returned_iff.mp hr
  obtain ⟨between, hbetween, ⟨_, after, -, hcalls, hafter⟩ | ⟨hnone, -⟩⟩ :=
    demonstrateFault_calls lib prepared ports polls baseline
  · refine ⟨b, between, after, ?_, hb, hbetween, hafter⟩
    rw [hbaseline, hcalls, List.append_assoc]
  · exact absurd ha (hnone a)

/-- A run leaves no fault behind exactly when nothing that its faulted phase computes from the
answers of the ports raises an exception which is not caught there. -/
theorem fault_reset_iff (confirmationPhrase : Option String) (polls : ℕ) :
    FaultRunSafe lib prepared ports polls
        (runOperationalDemoOperator lib prepared ports confirmationPhrase polls) ↔
      FaultContained lib prepared ports confirmationPhrase polls := by
  constructor
  · intro hsafe hphrase baseline hbaseline
    refine (attemptFault_confined_iff hbaseline).mp fun e he => ?_
    obtain ⟨hends, hfault⟩ := run_not_reset hphrase hbaseline he
    exact hfault (hsafe.reset hends)
  · intro hcontained
    by_cases hrun : confirmationPhrase = some prepared.confirmationPhrase ∧
        ∃ b, BaselineVerified lib prepared ports polls b
    · obtain ⟨hphrase, baseline, hbaseline⟩ := hrun
      exact
        { ends := ends_run
          reset := run_reset hphrase hbaseline (hcontained hphrase baseline hbaseline)
          verified := fun r hr => ⟨baseline, run_verified hphrase hbaseline hr⟩ }
    · obtain ⟨hquiet, hnothing⟩ := @run_of_not_baselineVerified _ _ lib prepared ports polls
        confirmationPhrase fun hphrase b hb => hrun ⟨hphrase, b, hb⟩
      exact
        { ends := ends_run
          reset := fun _ => faultAlwaysReset_of_quiet hquiet
          verified := fun r hr => absurd hr (hnothing r) }

end Run

/-! ## A fault that stays -/

namespace NestedEnvelope

/-- The artifacts of the run: the faulted phase has a source envelope which nests arrays. -/
inductive Document
  | completionIndex (phase : Phase) | evaluationResult | evidenceSnapshot | presentation
  | attestation | envelope | nestedArrays (depth : ℕ)
  deriving DecidableEq, Repr

/-- Bytes of a document; nested arrays are an object with one member. -/
def Document.size : Document → ℕ
  | .nestedArrays depth => 6 + 2 * depth
  | _ => 512

def digest : Digest := "digest"

def artifact (name : String) : VersionPinnedBlobReference := ⟨name, "version", digest⟩

def receipt (action : ReceiptAction) : DemoFaultRunReceipt where
  faultRunId := "fault"
  action
  resourceGroup := "rg"
  namePrefix := "demo"
  targetVmName := "web1"
  targetVmResourceId := "/web1"
  eligibleWebVmNames := ["web1", "web2"]
  beforePowerState := if action = .reset then .deallocated else .running
  afterPowerState := if action = .inject then .deallocated else .running
  startedAt := match action with | .status => 0 | .inject => 2 | .reset => 4
  completedAt := match action with | .status => 1 | .inject => 3 | .reset => 5

def report (action : ReceiptAction) : WorkloadActionReport where
  runId := "run"
  action
  receipt := receipt action
  receiptReference := artifact (receiptName "run" action.phase)
  receipt_action := rfl
  reference_name := rfl

def handoff (phase : Phase) : ReferenceHandoff where
  runId := "run"
  phase
  bundleDigest := digest
  completionIndex := artifact (completionIndexName "run" phase)
  index_name := rfl

/-- The phase before another one. -/
def before : Phase → Option Phase
  | .baseline => none
  | .faulted => some .baseline
  | .recovered => some .faulted

def action : Phase → ReceiptAction
  | .baseline => .status
  | .faulted => .inject
  | .recovered => .reset

def index (phase : Phase) : CompletionIndex where
  runId := "run"
  phase
  bundleDigest := digest
  configurationDigest := digest
  receipt := (report (action phase)).receiptReference
  previousPhaseIndex := (before phase).map fun p => (handoff p).completionIndex
  previousPhaseIndexDigest := (before phase).map fun _ => digest
  lineageDigest := digest
  attemptId := "attempt"
  snapshotId := "snapshot"
  idempotencyKeyDigest := digest
  receiptAction := action phase
  receiptStartedAt := (receipt (action phase)).startedAt
  receiptCompletedAt := (receipt (action phase)).completedAt
  receiptBeforePowerState := (receipt (action phase)).beforePowerState
  receiptAfterPowerState := (receipt (action phase)).afterPowerState
  resultDigest := digest
  snapshotArtifactDigest := digest
  snapshotSemanticDigest := digest
  presentationDigest := digest
  artifacts := ["result", "snapshot", "presentation", "attestation", "envelope"].map artifact
  indexDigest := digest

def evidence : EvidenceSnapshot Unit := ⟨digest, digest, ()⟩

def presentation : ArgusPresentationPayload Unit := ⟨digest, "snapshot", "impacted", "degraded", ()⟩

/-- The error of a parser on a document of another kind. -/
def invalid : Raised := ⟨.valueError, "invalid"⟩

/-- Depth up to which `json.loads` descends. -/
def recursionLimit : ℕ := 1000

/-- `json.loads` on a document. -/
def loads : Document → Except Raised (Option Unit)
  | .nestedArrays depth =>
    if depth < recursionLimit then .ok (some ())
    else .error ⟨.recursionError, "maximum recursion depth exceeded"⟩
  | _ => .ok (some ())

/-- A library that raises in `json.loads` only; the verifications of the other documents pass. -/
def library : Library Document Unit where
  casefold := id
  strip := id
  lineageDigest := fun _ => digest
  keyDigest := fun _ => digest
  size := Document.size
  completionIndex := fun d => match d with
    | .completionIndex phase => .ok (index phase)
    | _ => .error invalid
  evaluationResult := fun d =>
    if d = .evaluationResult then .ok ⟨digest, evidence, 6, ()⟩ else .error invalid
  evidenceSnapshot := fun d => if d = .evidenceSnapshot then .ok evidence else .error invalid
  presentation := fun d => if d = .presentation then .ok presentation else .error invalid
  attestation := fun d => if d = .attestation then .ok () else .error invalid
  loads := loads
  snapshotJson := fun _ => .ok "snapshot"
  expectedPresentation := fun _ _ _ _ _ => .ok presentation
  presentationJson := fun _ => .ok "presentation"
  verifyAttestation := fun _ _ => .ok true
  publicationRequest := fun _ _ _ _ _ => .ok ⟨"rg", 6, 6, digest⟩

def reviewed : PreparedOperator where
  runId := "run"
  bundlePath := "/bundle"
  bundleDigest := digest
  configurations := fun _ => ⟨digest, "attempt", "snapshot", "key"⟩
  pollTimeoutSeconds := 60
  confirmationPhrase := "confirm"
  publisherConfigured := false

/-- The artifacts of a phase in the order of their reads. -/
def documents (depth : ℕ) (phase : Phase) : List (String × Document) :=
  [(completionIndexName "run" phase, .completionIndex phase), ("result", .evaluationResult),
    ("snapshot", .evidenceSnapshot), ("presentation", .presentation),
    ("attestation", .attestation),
    ("envelope", if phase = .faulted then .nestedArrays depth else .envelope)]

/-- Every port answers what the operator asked for. -/
def answers (depth : ℕ) : Ports Document where
  workload := fun action => .ok (report action)
  startPhase := fun phase => .ok ⟨"run", phase, "execution"⟩
  readStatus := fun phase _ => .ok ⟨"run", phase, "execution", .succeeded⟩
  readHandoff := fun phase => .ok (handoff phase)
  readArtifact := fun phase n => match (documents depth phase)[n]? with
    | some (name, document) => .ok ⟨name, "version", digest, document⟩
    | none => .error ⟨.other, "not found"⟩
  publish := .error ⟨.other, "not configured"⟩
  monotonic := fun _ n => n
  utcNow := 7

def run (depth : ℕ) : Operation OperatorResult :=
  runOperationalDemoOperator library reviewed (answers depth) (some "confirm") 1

/-- With a shallow envelope the same run recovers. -/
example : (run 10).calls.filter (callPhase · = none) =
    [.workload .status, .workload .inject, .workload .reset] := by decide

/-- The deep envelope fits into an artifact, and the recursion error which it causes leaves the
run without a reset. -/
theorem nested_envelope_not_reset :
    (Document.nestedArrays 500000).size ≤ maxPhaseArtifactBytes ∧ Ends (run 500000) ∧
      .workload .inject ∈ (run 500000).calls ∧ .workload .reset ∉ (run 500000).calls ∧
      ¬ FaultAlwaysReset (run 500000).calls := by
  have hcalls : .workload .inject ∈ (run 500000).calls ∧
      .workload .reset ∉ (run 500000).calls := by
    decide
  have hends : Ends (run 500000) := by
    unfold Ends
    decide
  refine ⟨by decide, hends, hcalls.1, hcalls.2, fun h => ?_⟩
  obtain ⟨first, after, hsplit, -⟩ := h.reset_follows hcalls.1
  exact hcalls.2 (by simp [hsplit])

end NestedEnvelope

end AthenaContext.FaultReset
