import AthenaContext.AuthorityHistory
import AthenaContext.Histories

/-!
# Runs of demo evaluations

Any number of evaluations over one store, each a sequence of steps of its own: it prepares a
request, registers it under a new capability, collects evidence, takes the request from the
table and commits. Between the steps of one evaluation come those of others, commits with a
capability of another evaluation, and every transaction that changes the authority.
-/

namespace AthenaContext.EvaluationRuns

open Dictionaries Transactions TransitionSystems
open ContextRecords ContextMutations ContextCalls EvaluationRecords EvaluationResults
open EvaluationAuthority EvaluationAdministration EvaluationPublication

variable {γ δ : Type} {E : EvidenceTypes}

/-- Where an evaluation stands. -/
inductive Phase (E : EvidenceTypes)
  | prepared (request : DemoEvaluationRequest)
  | registered (capability : ℕ)
  | collected (capability : ℕ) (evidence : CollectedSnapshot E)
  | taken (capability : ℕ) (request : DemoEvaluationRequest) (evidence : CollectedSnapshot E)
  | finished (answer : Outcome (DemoEvaluationResult E))

/-- The store, the table of requests by their capabilities, and the evaluations under way. -/
structure EvaluationState (γ δ : Type) (E : EvidenceTypes) where
  store : EvaluationStore γ δ E
  requests : Dictionary ℕ DemoEvaluationRequest
  issued : ℕ
  phase : ℕ → Option (Phase E)

namespace EvaluationState

def setPhase (s : EvaluationState γ δ E) (n : ℕ) (p : Phase E) : EvaluationState γ δ E :=
  { s with phase := fun m => if m = n then some p else s.phase m }

variable {s : EvaluationState γ δ E} {n m : ℕ} {p : Phase E}

@[simp] theorem setPhase_store : (s.setPhase n p).store = s.store := rfl

@[simp] theorem setPhase_requests : (s.setPhase n p).requests = s.requests := rfl

@[simp] theorem setPhase_issued : (s.setPhase n p).issued = s.issued := rfl

@[simp] theorem setPhase_self : (s.setPhase n p).phase n = some p := if_pos rfl

theorem setPhase_of_ne (h : m ≠ n) : (s.setPhase n p).phase m = s.phase m := if_neg h

theorem setPhase_eq : (s.setPhase n p).phase m = if m = n then some p else s.phase m := rfl

end EvaluationState

/-- A step of an evaluation, or a transaction that changes what evaluations read. -/
inductive EvaluationEvent (γ : Type) (E : EvidenceTypes)
  | prepare (n : ℕ) (call : EvaluationCall) (asOf : Outcome Timestamp)
  | register (n : ℕ)
  | collect (n : ℕ) (outcome : Outcome (CollectedSnapshot E))
  | present (n capability : ℕ) (evidence : CollectedSnapshot E)
  | take (n : ℕ)
  | commit (n : ℕ) (clock : CommitClock)
  | createApproval (clock : Outcome Timestamp) (actor : Actor) (idempotencyKey : String)
      (command : CreateDemoEvaluationApprovalCommand)
  | revokeApproval (clock : Outcome Timestamp) (actor : Actor) (decisionId idempotencyKey : String)
      (command : RevokeDemoEvaluationApprovalCommand)
  | replaceGrants (actor : Actor) (grants : List RoleGrant) (expectedRevision : ℕ)
  | putTrustedKey (actor : Actor) (authority : EvaluationTrustedKeyAuthority)
      (expectedRevision : ℕ)
  | context (clock : ClockReadings) (call : Call (Manifest γ))

section Steps

variable (S : EvaluationService γ δ E) (s : EvaluationState γ δ E)

/-- The preparation of an evaluation. -/
def prepareStep (n : ℕ) (call : EvaluationCall) (asOf : Outcome Timestamp) :
    EvaluationState γ δ E :=
  match asOf >>= prepareRequest S s.store call with
  | .error e => s.setPhase n (.finished (.error e))
  | .ok (.replay artifact) => s.setPhase n (.finished (resultOf S artifact))
  | .ok (.opened _ _ request) => s.setPhase n (.prepared request)

/-- A collection that fails discards its request. -/
def collectStep (n capability : ℕ) : Outcome (CollectedSnapshot E) → EvaluationState γ δ E
  | .ok evidence => s.setPhase n (.collected capability evidence)
  | .error e =>
    { s.setPhase n (.finished (.error e)) with requests := s.requests.erase capability }

/-- A request is taken from the table once. -/
def takeStep (n capability : ℕ) (evidence : CollectedSnapshot E) : EvaluationState γ δ E :=
  match s.requests.get? capability with
  | none => s.setPhase n (.finished (.error (failedClosed
      "demo evaluation request was fabricated, reused, or not service-issued")))
  | some request =>
    { s.setPhase n (.taken capability request evidence) with
      requests := s.requests.erase capability }

/-- The state after an event; an event that is not due changes nothing. -/
def after : EvaluationEvent γ E → EvaluationState γ δ E
  | .prepare n call asOf =>
    match s.phase n with
    | none => prepareStep S s n call asOf
    | some _ => s
  | .register n =>
    match s.phase n with
    | some (.prepared request) =>
      { s.setPhase n (.registered s.issued) with
        requests := s.requests.set s.issued request
        issued := s.issued + 1 }
    | _ => s
  | .collect n outcome =>
    match s.phase n with
    | some (.registered capability) => collectStep s n capability outcome
    | _ => s
  | .present n capability evidence =>
    match s.phase n with
    | none => s.setPhase n (.collected capability evidence)
    | some _ => s
  | .take n =>
    match s.phase n with
    | some (.collected capability evidence) => takeStep s n capability evidence
    | _ => s
  | .commit n clock =>
    match s.phase n with
    | some (.taken _ request evidence) =>
      { s.setPhase n (.finished (commitPrepared S s.store request evidence clock).1) with
        store := (commitPrepared S s.store request evidence clock).2 }
    | _ => s
  | .createApproval clock actor key command =>
    { s with store := (transaction (createApproval S clock actor key command) s.store).2 }
  | .revokeApproval clock actor decisionId key command =>
    { s with store := (transaction (revokeApproval S clock actor decisionId key command) s.store).2 }
  | .replaceGrants actor grants expected =>
    { s with store := (transaction (replaceGrants S actor grants expected) s.store).2 }
  | .putTrustedKey actor authority expected =>
    { s with store := (transaction (putTrustedKey S actor authority expected) s.store).2 }
  | .context clock call => { s with store := (perform S.contextService clock call s.store).2 }

end Steps

/-- The runs over a store that starts without evaluations. -/
def evaluationSystem (S : EvaluationService γ δ E) :
    TransitionSystem (EvaluationState γ δ E) (EvaluationEvent γ E) where
  init s := s.store.others.evaluationReceipts = .empty ∧
    s.store.others.evaluationArtifacts = .empty ∧ s.requests = .empty ∧ ∀ n, s.phase n = none
  step s event t := t = after S s event

/-! ## What an event does -/

/-- What one event does to evaluations, requests and phases. -/
inductive EventStep (S : EvaluationService γ δ E) (s : EvaluationState γ δ E) :
    EvaluationEvent γ E → EvaluationState γ δ E → Prop
  | idle (event : EvaluationEvent γ E) : EventStep S s event s
  | opened (n : ℕ) (call : EvaluationCall) (asOf : Timestamp) (request : DemoEvaluationRequest)
      (new : s.phase n = none) (opened : OpenedBy S s.store call request) :
      EventStep S s (.prepare n call (.ok asOf)) (s.setPhase n (.prepared request))
  | registered (n : ℕ) (request : DemoEvaluationRequest)
      (prepared : s.phase n = some (.prepared request)) :
      EventStep S s (.register n)
        { s.setPhase n (.registered s.issued) with
          requests := s.requests.set s.issued request
          issued := s.issued + 1 }
  | collected (event : EvaluationEvent γ E) (n capability : ℕ) (evidence : CollectedSnapshot E)
      (unfinished : ∀ answer, s.phase n ≠ some (.finished answer)) :
      EventStep S s event (s.setPhase n (.collected capability evidence))
  | taken (n capability : ℕ) (request : DemoEvaluationRequest) (evidence : CollectedSnapshot E)
      (collected : s.phase n = some (.collected capability evidence))
      (found : s.requests.get? capability = some request) :
      EventStep S s (.take n)
        { s.setPhase n (.taken capability request evidence) with
          requests := s.requests.erase capability }
  | finished (event : EvaluationEvent γ E) (n : ℕ) (answer : Outcome (DemoEvaluationResult E))
      (requests : Dictionary ℕ DemoEvaluationRequest)
      (unfinished : ∀ answer, s.phase n ≠ some (.finished answer))
      (fewer : ∀ c request, requests.get? c = some request → s.requests.get? c = some request) :
      EventStep S s event { s.setPhase n (.finished answer) with requests := requests }
  | stored (n capability : ℕ) (request : DemoEvaluationRequest) (evidence : CollectedSnapshot E)
      (clock : CommitClock) (artifact : StoredEvaluation E)
      (taken : s.phase n = some (.taken capability request evidence))
      (new : NewEvaluation S s.store request artifact)
      (committed : commitEvaluation S s.store request evidence clock =
        .ok (artifact, withEvaluation s.store artifact)) :
      EventStep S s (.commit n clock)
        { s.setPhase n (.finished (resultOf S artifact)) with
          store := withEvaluation s.store artifact }
  | authority (event : EvaluationEvent γ E) (store : EvaluationStore γ δ E)
      (step : AuthorityStep s.store store) :
      EventStep S s event { s with store := store }

section Inversion

variable {S : EvaluationService γ δ E} {s : EvaluationState γ δ E}

/-- A phase that is set without other changes to the requests. -/
theorem EventStep.finished_same {event : EvaluationEvent γ E} {n : ℕ}
    {answer : Outcome (DemoEvaluationResult E)}
    (unfinished : ∀ answer, s.phase n ≠ some (.finished answer)) :
    EventStep S s event (s.setPhase n (.finished answer)) :=
  .finished event n answer s.requests unfinished fun _ _ h => h

theorem erase_fewer {d : Dictionary ℕ DemoEvaluationRequest} {capability c : ℕ}
    {request : DemoEvaluationRequest} (h : (d.erase capability).get? c = some request) :
    d.get? c = some request := by
  rw [Dictionary.get?_erase] at h
  split at h
  · cases h
  · exact h

theorem prepareStep_eventStep {n : ℕ} {call : EvaluationCall} {asOf : Outcome Timestamp}
    (hnew : s.phase n = none) :
    EventStep S s (.prepare n call asOf) (prepareStep S s n call asOf) := by
  have hunfinished : ∀ answer, s.phase n ≠ some (.finished answer) := by
    intro answer h
    rw [hnew] at h
    cases h
  rw [prepareStep]
  split
  · exact .finished_same hunfinished
  · exact .finished_same hunfinished
  · next approval resolved request hprepared =>
    obtain ⟨t, rfl, hprepared⟩ := FallibleResults.bind_ok_iff.mp hprepared
    obtain ⟨_, _, -, hcases⟩ := prepareRequest_ok hprepared
    rcases hcases with ⟨_, heq, -⟩ | ⟨_, _, request', heq, hopened⟩
    · cases heq
    · cases heq
      exact .opened n call t request hnew hopened

theorem commitPrepared_eventStep {n capability : ℕ} {request : DemoEvaluationRequest}
    {evidence : CollectedSnapshot E} {clock : CommitClock}
    (htaken : s.phase n = some (.taken capability request evidence)) :
    EventStep S s (.commit n clock)
      { s.setPhase n (.finished (commitPrepared S s.store request evidence clock).1) with
        store := (commitPrepared S s.store request evidence clock).2 } := by
  have hunfinished : ∀ answer, s.phase n ≠ some (.finished answer) := by
    intro answer h
    rw [htaken] at h
    cases h
  rw [commitPrepared]
  split
  · next artifact store hcommit =>
    rcases commitEvaluation_ok hcommit with ⟨rfl, -⟩ | ⟨rfl, hnew⟩
    · exact .finished_same hunfinished
    · exact .stored n capability request evidence clock artifact htaken hnew hcommit
  · exact .finished_same hunfinished

/-- Every event is one of these steps. -/
theorem after_eventStep (event : EvaluationEvent γ E) : EventStep S s event (after S s event) := by
  have hunfinished : ∀ {n : ℕ} {p : Phase E}, s.phase n = some p →
      (∀ answer, p ≠ .finished answer) → ∀ answer, s.phase n ≠ some (.finished answer) := by
    intro n p hp hne answer h
    rw [hp] at h
    exact hne answer (Option.some.inj h)
  cases event with
  | prepare n call asOf =>
    simp only [after]
    split
    · next hnew => exact prepareStep_eventStep hnew
    · exact .idle _
  | register n =>
    simp only [after]
    split
    · next request hprepared => exact .registered n request hprepared
    · exact .idle _
  | collect n outcome =>
    simp only [after]
    split
    · next capability hregistered =>
      have hopen := hunfinished hregistered (by simp)
      cases outcome with
      | ok evidence => exact .collected _ n capability evidence hopen
      | error e => exact .finished _ n _ _ hopen fun _ _ => erase_fewer
    · exact .idle _
  | present n capability evidence =>
    simp only [after]
    split
    · next hnew => exact .collected _ n capability evidence (by simp [hnew])
    · exact .idle _
  | take n =>
    simp only [after]
    split
    · next capability evidence hcollected =>
      rw [takeStep]
      split
      · exact .finished_same (hunfinished hcollected (by simp))
      · next request hfound => exact .taken n capability request evidence hcollected hfound
    · exact .idle _
  | commit n clock =>
    simp only [after]
    split
    · next capability request evidence htaken => exact commitPrepared_eventStep htaken
    · exact .idle _
  | createApproval clock actor key command =>
    exact .authority _ _ (.of_transaction fun _ _ => authorityStep_createApproval)
  | revokeApproval clock actor decisionId key command =>
    exact .authority _ _ (.of_transaction fun _ _ => authorityStep_revokeApproval)
  | replaceGrants actor grants expected =>
    exact .authority _ _ (.of_transaction fun _ _ => authorityStep_replaceGrants)
  | putTrustedKey actor authority expected =>
    exact .authority _ _ (.of_transaction fun _ _ => authorityStep_putTrustedKey)
  | context clock call => exact .authority _ _ (authorityStep_perform clock call)

end Inversion

end AthenaContext.EvaluationRuns
