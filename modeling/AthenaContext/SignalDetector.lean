import AthenaContext.ReassessmentRequests

/-!
# The scheduled signal detector

One detector run as a program over the calls that it makes: loads, sends,
observations and the three writes of the state store. A run first replays
pending requests, then observes every other resource, stages the changes,
records healthy baselines, and sends and completes what it staged. How a call is
carried out, and whether it returns, is left to the systems that run it.
-/

namespace AthenaContext.SignalDetector

open IncidentRecords ReassessmentRequests

/-- `SignalCheckpoint`; health and request of a pending transition go together. -/
structure SignalCheckpoint where
  committedHealth : Option Bool
  pending : Option (Bool × ReassessmentRequest)
  deriving DecidableEq, Repr

/-- The checkpoint of a resource that was never written. -/
def emptyCheckpoint : SignalCheckpoint := ⟨none, none⟩

/-- The arguments of a run, and the digests behind its identifiers. -/
structure DetectorConfig where
  digests : SignalDigests
  roles : ApprovedRoles
  alertRules : List String
  observedAt : UtcDateTime

/-- The kind of resource that a role is bound to. -/
def kindOfRole : WorkloadRole → ResourceKind
  | .loadBalancer => .loadBalancer
  | .databasePrimary => .virtualMachine
  | .web => .virtualMachine

/-- `validate_approved_resource_roles`. -/
def validateApprovedResourceRoles (roles : ApprovedRoles) : Except String ApprovedRoles :=
  if roles.length < 3 ∨ 18 < roles.length then
    .error "detector requires one database, one or more web VMs, and one load balancer"
  else if (∃ entry ∈ roles, entry.1.kind ≠ kindOfRole entry.2 ∨ entry.1.name = "") ∨
      ¬ (roles.map Prod.fst).Nodup then
    .error "approved resource role binding is invalid or ambiguous"
  else if (roles.map Prod.snd).count .databasePrimary ≠ 1 ∨
      (roles.map Prod.snd).count .loadBalancer ≠ 1 ∨
      (roles.map Prod.snd).count .web < 1 ∨ 16 < (roles.map Prod.snd).count .web then
    .error "approved resource roles have invalid cardinality"
  else if ((roles.map fun entry => (entry.1.subscriptionId, entry.1.resourceGroup)).dedup).length
      ≠ 1 then
    .error "approved resources must share one subscription and resource group"
  else .ok roles

/-- Distinct approved resources. -/
theorem validateApprovedResourceRoles_ok {roles validated : ApprovedRoles}
    (h : validateApprovedResourceRoles roles = .ok validated) :
    (validated.map Prod.fst).Nodup := by
  unfold validateApprovedResourceRoles at h
  split at h
  · cases h
  · split at h
    · cases h
    · rename_i hvalid
      split at h
      · cases h
      · split at h
        · cases h
        · cases h
          by_contra hn
          exact hvalid (Or.inr hn)

/-- The calls of a run. -/
inductive Call
  | load (resource : ResourceId)
  | send (request : ReassessmentRequest)
  | observe (resource : ResourceId) (role : WorkloadRole)
  | complete (resource : ResourceId) (requestId : String)
  | stage (resource : ResourceId) (healthy : Bool) (request : ReassessmentRequest)
  | recordInitial (resource : ResourceId)
  deriving DecidableEq, Repr

/-- What a call returns. -/
abbrev Call.Reply : Call → Type
  | .load _ => SignalCheckpoint
  | .observe _ _ => Bool
  | _ => Unit

/-- Loaded checkpoints without a pending transition. -/
abbrev Loaded := List (ResourceId × SignalCheckpoint)

/-- Requests staged by the run that are still to be sent. -/
abbrev Staged := List (ResourceId × ReassessmentRequest)

/-- Where a run stands: its next call and what its local variables hold. -/
inductive RunPhase
  | replay (todo : ApprovedRoles) (loaded : Loaded)
  | bind (resource : ResourceId) (role : WorkloadRole) (healthy : Bool)
      (request : ReassessmentRequest) (todo : ApprovedRoles) (loaded : Loaded)
  | resend (resource : ResourceId) (request : ReassessmentRequest) (todo : ApprovedRoles)
      (loaded : Loaded)
  | recommit (resource : ResourceId) (request : ReassessmentRequest) (todo : ApprovedRoles)
      (loaded : Loaded)
  | observe (todo : ApprovedRoles) (loaded : Loaded)
      (observations : List ApprovedSignalObservation)
  | stage (observations : List ApprovedSignalObservation) (loaded : Loaded)
      (initialHealthy : List ResourceId) (pending : Staged)
  | record (initialHealthy : List ResourceId) (pending : Staged)
  | send (pending : Staged)
  | commit (resource : ResourceId) (request : ReassessmentRequest) (pending : Staged)
  deriving DecidableEq, Repr

/-- A run: the requests it counts as sent, and its phase. -/
structure Run where
  sent : List ReassessmentRequest
  phase : RunPhase
  deriving DecidableEq, Repr

/-- What a run does next. -/
inductive Instruction
  | call (c : Call) (next : c.Reply → Run)
  | silent (next : Run)
  | raise (message : String)
  | return (sent : List ReassessmentRequest)

/-- The loaded checkpoint of a resource. -/
def loadedCheckpoint (loaded : Loaded) (resource : ResourceId) : Option SignalCheckpoint :=
  (loaded.find? fun entry => entry.1 == resource).map Prod.snd

/-- The binding check of a replayed request: its health is its lifecycle's, and
routing its event anew gives the same request under the same rule. -/
def pendingBound (config : DetectorConfig) (role : WorkloadRole) (healthy : Bool)
    (request : ReassessmentRequest) : Except String Bool :=
  match buildReassessmentRequest config.digests request.triggerEvent config.roles with
  | .error message => .error message
  | .ok expected =>
    .ok (decide (healthy = decide (request.lifecycle = .resolved) ∧ request = expected ∧
      request.triggerEvent.operationName = signalRuleName role))

/-- An observation is emitted when the health differs from the committed one, a
missing one counting as healthy. -/
def emits (previous : Option Bool) (healthy : Bool) : Bool :=
  (previous.isNone && !healthy) || (previous.isSome && previous != some healthy)

/-- `_detect_signal_requests_with_lease`, one call at a time. -/
def instruction (config : DetectorConfig) (run : Run) : Instruction :=
  match run.phase with
  | .replay [] loaded => .silent ⟨run.sent, .observe config.roles loaded []⟩
  | .replay ((resource, role) :: todo) loaded =>
    if signalRuleName role ∉ config.alertRules then
      .raise "detector signal rule is not in the exact approved allowlist"
    else
      .call (.load resource) fun checkpoint =>
        match checkpoint.pending with
        | none => ⟨run.sent, .replay todo (loaded ++ [(resource, checkpoint)])⟩
        | some (healthy, request) =>
          ⟨run.sent, .bind resource role healthy request todo loaded⟩
  | .bind resource role healthy request todo loaded =>
    match pendingBound config role healthy request with
    | .error message => .raise message
    | .ok false => .raise "pending detector transition lost its binding"
    | .ok true => .silent ⟨run.sent, .resend resource request todo loaded⟩
  | .resend resource request todo loaded =>
    .call (.send request) fun _ => ⟨run.sent, .recommit resource request todo loaded⟩
  | .recommit resource request todo loaded =>
    .call (.complete resource request.requestId) fun _ =>
      ⟨run.sent ++ [request], .replay todo loaded⟩
  | .observe [] loaded observations => .silent ⟨run.sent, .stage observations loaded [] []⟩
  | .observe ((resource, role) :: todo) loaded observations =>
    if (loadedCheckpoint loaded resource).isNone then
      .silent ⟨run.sent, .observe todo loaded observations⟩
    else
      .call (.observe resource role) fun healthy =>
        ⟨run.sent, .observe todo loaded
          (observations ++ [⟨resource, role, healthy, config.observedAt⟩])⟩
  | .stage [] _ initialHealthy pending => .silent ⟨run.sent, .record initialHealthy pending⟩
  | .stage (observation :: rest) loaded initialHealthy pending =>
    match loadedCheckpoint loaded observation.resourceId with
    | none => .raise "observation without a checkpoint"
    | some checkpoint =>
      if emits checkpoint.committedHealth observation.healthy then
        match buildSignalReassessmentRequest config.digests observation config.roles
            config.alertRules with
        | .error message => .raise message
        | .ok request =>
          .call (.stage observation.resourceId observation.healthy request) fun _ =>
            ⟨run.sent, .stage rest loaded initialHealthy
              (pending ++ [(observation.resourceId, request)])⟩
      else if checkpoint.committedHealth.isNone then
        .silent ⟨run.sent, .stage rest loaded (initialHealthy ++ [observation.resourceId]) pending⟩
      else .silent ⟨run.sent, .stage rest loaded initialHealthy pending⟩
  | .record [] pending => .silent ⟨run.sent, .send pending⟩
  | .record (resource :: rest) pending =>
    .call (.recordInitial resource) fun _ => ⟨run.sent, .record rest pending⟩
  | .send [] => .return run.sent
  | .send ((resource, request) :: rest) =>
    .call (.send request) fun _ => ⟨run.sent, .commit resource request rest⟩
  | .commit resource request rest =>
    .call (.complete resource request.requestId) fun _ => ⟨run.sent ++ [request], .send rest⟩

/-- Where a run makes a call, and where each reply leads. -/
inductive Calls (config : DetectorConfig) (sent : List ReassessmentRequest) :
    RunPhase → (c : Call) → (c.Reply → Run) → Prop
  | load (resource : ResourceId) (role : WorkloadRole) (todo : ApprovedRoles) (loaded : Loaded) :
    Calls config sent (.replay ((resource, role) :: todo) loaded) (.load resource)
      fun checkpoint =>
        match checkpoint.pending with
        | none => ⟨sent, .replay todo (loaded ++ [(resource, checkpoint)])⟩
        | some (healthy, request) => ⟨sent, .bind resource role healthy request todo loaded⟩
  | resend (resource : ResourceId) (request : ReassessmentRequest) (todo : ApprovedRoles)
      (loaded : Loaded) :
    Calls config sent (.resend resource request todo loaded) (.send request)
      fun _ => ⟨sent, .recommit resource request todo loaded⟩
  | recommit (resource : ResourceId) (request : ReassessmentRequest) (todo : ApprovedRoles)
      (loaded : Loaded) :
    Calls config sent (.recommit resource request todo loaded)
      (.complete resource request.requestId)
      fun _ => ⟨sent ++ [request], .replay todo loaded⟩
  | observe (resource : ResourceId) (role : WorkloadRole) (todo : ApprovedRoles) (loaded : Loaded)
      (observations : List ApprovedSignalObservation) :
    Calls config sent (.observe ((resource, role) :: todo) loaded observations)
      (.observe resource role)
      fun healthy => ⟨sent, .observe todo loaded
        (observations ++ [⟨resource, role, healthy, config.observedAt⟩])⟩
  | stage (o : ApprovedSignalObservation) (rest : List ApprovedSignalObservation)
      (loaded : Loaded) (initialHealthy : List ResourceId) (pending : Staged)
      (request : ReassessmentRequest) :
    Calls config sent (.stage (o :: rest) loaded initialHealthy pending)
      (.stage o.resourceId o.healthy request)
      fun _ => ⟨sent, .stage rest loaded initialHealthy (pending ++ [(o.resourceId, request)])⟩
  | record (resource : ResourceId) (rest : List ResourceId) (pending : Staged) :
    Calls config sent (.record (resource :: rest) pending) (.recordInitial resource)
      fun _ => ⟨sent, .record rest pending⟩
  | send (resource : ResourceId) (request : ReassessmentRequest) (rest : Staged) :
    Calls config sent (.send ((resource, request) :: rest)) (.send request)
      fun _ => ⟨sent, .commit resource request rest⟩
  | commit (resource : ResourceId) (request : ReassessmentRequest) (rest : Staged) :
    Calls config sent (.commit resource request rest) (.complete resource request.requestId)
      fun _ => ⟨sent ++ [request], .send rest⟩

/-- Where a run goes on without a call. -/
inductive Silent (config : DetectorConfig) : RunPhase → RunPhase → Prop
  | replayed (loaded : Loaded) :
    Silent config (.replay [] loaded) (.observe config.roles loaded [])
  | bound (resource : ResourceId) (role : WorkloadRole) (healthy : Bool)
      (request : ReassessmentRequest) (todo : ApprovedRoles) (loaded : Loaded) :
    Silent config (.bind resource role healthy request todo loaded)
      (.resend resource request todo loaded)
  | observed (loaded : Loaded) (observations : List ApprovedSignalObservation) :
    Silent config (.observe [] loaded observations) (.stage observations loaded [] [])
  | skipped (resource : ResourceId) (role : WorkloadRole) (todo : ApprovedRoles)
      (loaded : Loaded) (observations : List ApprovedSignalObservation) :
    Silent config (.observe ((resource, role) :: todo) loaded observations)
      (.observe todo loaded observations)
  | staged (loaded : Loaded) (initialHealthy : List ResourceId) (pending : Staged) :
    Silent config (.stage [] loaded initialHealthy pending) (.record initialHealthy pending)
  | baseline (o : ApprovedSignalObservation) (rest : List ApprovedSignalObservation)
      (loaded : Loaded) (initialHealthy : List ResourceId) (pending : Staged)
      (checkpoint : SignalCheckpoint) :
    loadedCheckpoint loaded o.resourceId = some checkpoint → checkpoint.committedHealth = none →
    o.healthy = true →
    Silent config (.stage (o :: rest) loaded initialHealthy pending)
      (.stage rest loaded (initialHealthy ++ [o.resourceId]) pending)
  | unchanged (o : ApprovedSignalObservation) (rest : List ApprovedSignalObservation)
      (loaded : Loaded) (initialHealthy : List ResourceId) (pending : Staged) :
    Silent config (.stage (o :: rest) loaded initialHealthy pending)
      (.stage rest loaded initialHealthy pending)
  | recorded (pending : Staged) : Silent config (.record [] pending) (.send pending)

theorem instruction_calls {config : DetectorConfig} {run : Run} {c : Call} {next : c.Reply → Run}
    (h : instruction config run = .call c next) : Calls config run.sent run.phase c next := by
  obtain ⟨sent, phase⟩ := run
  cases phase with
  | replay todo loaded =>
    rcases todo with _ | ⟨⟨resource, role⟩, todo⟩
    · cases h
    · simp only [instruction] at h
      split at h
      · cases h
      · cases h
        exact .load resource role todo loaded
  | bind resource role healthy request todo loaded =>
    simp only [instruction] at h
    split at h <;> cases h
  | resend resource request todo loaded =>
    cases h
    exact .resend resource request todo loaded
  | recommit resource request todo loaded =>
    cases h
    exact .recommit resource request todo loaded
  | observe todo loaded observations =>
    rcases todo with _ | ⟨⟨resource, role⟩, todo⟩
    · cases h
    · simp only [instruction] at h
      split at h
      · cases h
      · cases h
        exact .observe resource role todo loaded observations
  | stage observations loaded initialHealthy pending =>
    rcases observations with _ | ⟨o, rest⟩
    · cases h
    · simp only [instruction] at h
      split at h
      · cases h
      · split at h
        · split at h
          · cases h
          · rename_i request hrequest
            cases h
            exact .stage o rest loaded initialHealthy pending request
        · split at h <;> cases h
  | record initialHealthy pending =>
    rcases initialHealthy with _ | ⟨resource, rest⟩
    · cases h
    · cases h
      exact .record resource rest pending
  | send pending =>
    rcases pending with _ | ⟨⟨resource, request⟩, rest⟩
    · cases h
    · cases h
      exact .send resource request rest
  | commit resource request rest =>
    cases h
    exact .commit resource request rest

theorem instruction_silent {config : DetectorConfig} {run next : Run}
    (h : instruction config run = .silent next) : Silent config run.phase next.phase := by
  obtain ⟨sent, phase⟩ := run
  cases phase with
  | replay todo loaded =>
    rcases todo with _ | ⟨⟨resource, role⟩, todo⟩
    · cases h
      exact .replayed loaded
    · simp only [instruction] at h
      split at h <;> cases h
  | bind resource role healthy request todo loaded =>
    simp only [instruction] at h
    split at h
    · cases h
    · cases h
    · cases h
      exact .bound resource role healthy request todo loaded
  | resend resource request todo loaded => cases h
  | recommit resource request todo loaded => cases h
  | commit resource request rest => cases h
  | observe todo loaded observations =>
    rcases todo with _ | ⟨⟨resource, role⟩, todo⟩
    · cases h
      exact .observed loaded observations
    · simp only [instruction] at h
      split at h
      · cases h
        exact .skipped resource role todo loaded observations
      · cases h
  | stage observations loaded initialHealthy pending =>
    rcases observations with _ | ⟨o, rest⟩
    · cases h
      exact .staged loaded initialHealthy pending
    · simp only [instruction] at h
      split at h
      · cases h
      · rename_i checkpoint hc
        split at h
        · split at h <;> cases h
        · rename_i hemits
          split at h
          · rename_i hnone
            have hcommitted := Option.isNone_iff_eq_none.mp hnone
            -- not emitted and never committed: the observation was healthy
            rw [hcommitted] at hemits
            cases h
            exact .baseline o rest loaded initialHealthy pending checkpoint hc hcommitted
              (by simpa [emits] using hemits)
          · cases h
            exact .unchanged o rest loaded initialHealthy pending
  | record initialHealthy pending =>
    rcases initialHealthy with _ | ⟨resource, rest⟩
    · cases h
      exact .recorded pending
    · cases h
  | send pending => rcases pending with _ | ⟨⟨resource, request⟩, rest⟩ <;> cases h

/-! ## A workload for sample runs -/

/-- Digests that tell requests apart by lifecycle and instant. -/
def sampleDigests : SignalDigests where
  sourceHex _ _ _ _ := "s"
  deduplicationHex _ _ lifecycle observedAt :=
    (if lifecycle = .resolved then "r" else "a") ++ observedAt.repr
  eventHex key := key
  incidentHex resource := resource.name

def sampleDatabase : ResourceId := ⟨"s", "g", .virtualMachine, "db"⟩

def sampleConfig (observedAt : UtcDateTime) : DetectorConfig where
  digests := sampleDigests
  roles := [(sampleDatabase, .databasePrimary), (⟨"s", "g", .virtualMachine, "web"⟩, .web),
    (⟨"s", "g", .loadBalancer, "lb"⟩, .loadBalancer)]
  alertRules := [signalRuleName .databasePrimary, signalRuleName .web,
    signalRuleName .loadBalancer]
  observedAt := observedAt

end AthenaContext.SignalDetector
