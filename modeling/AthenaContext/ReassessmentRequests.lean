import AthenaContext.IncidentRecords

/-!
# Reassessment requests

Monitor events of approved resources, the routing of an event to a request, and
the requests which the scheduled detector builds from its own observations.
Resource identifiers are canonical. The digests behind identifiers and keys are
parameters, each over the fields that its text is joined from.
-/

namespace AthenaContext.ReassessmentRequests

open IncidentRecords

/-- Provider and type of an approved resource. -/
inductive ResourceKind
  | virtualMachine | loadBalancer
  deriving DecidableEq, Repr

/-- A canonical resource identifier. -/
structure ResourceId where
  subscriptionId : String
  resourceGroup : String
  kind : ResourceKind
  name : String
  deriving DecidableEq, Repr

/-- `EventLifecycle`. -/
inductive EventLifecycle
  | activated | resolved | changed | unknown
  deriving DecidableEq, Repr

/-- What routing and detection use of `NormalizedMonitorEvent`. -/
structure NormalizedMonitorEvent where
  eventId : String
  deduplicationKey : Digest
  lifecycle : EventLifecycle
  targetResourceId : ResourceId
  operationName : String
  observedAt : UtcDateTime
  deriving DecidableEq, Repr

/-- `ReassessmentRequest`. -/
structure ReassessmentRequest where
  requestId : String
  incidentId : String
  triggerEventId : String
  triggerEvent : NormalizedMonitorEvent
  scenario : IncidentScenario
  workloadRole : WorkloadRole
  targetResourceId : ResourceId
  lifecycle : EventLifecycle
  idempotencyKey : String
  deriving DecidableEq, Repr

/-- Hexadecimal digests: of a synthetic source, of a deduplication seed, of a
deduplication key and of a resource identifier. -/
structure SignalDigests where
  sourceHex : ResourceId → String → EventLifecycle → UtcDateTime → String
  deduplicationHex : String → ResourceId → EventLifecycle → UtcDateTime → String
  eventHex : Digest → String
  incidentHex : ResourceId → String

/-- The first characters of a text. -/
def textTake (s : String) (n : ℕ) : String := String.ofList (s.toList.take n)

/-- `_SCENARIOS`. -/
def scenarioOf : WorkloadRole → IncidentScenario
  | .databasePrimary => .singletonDatabaseFailure
  | .web => .webServerFailure
  | .loadBalancer => .loadBalancerFailure

/-- Approved resources with their roles, a dictionary in insertion order. -/
abbrev ApprovedRoles := List (ResourceId × WorkloadRole)

/-- `approved_resource_roles.get`. -/
def roleOf (roles : ApprovedRoles) (resource : ResourceId) : Option WorkloadRole :=
  (roles.find? fun entry => entry.1 == resource).map Prod.snd

/-- `build_reassessment_request`. -/
def buildReassessmentRequest (digests : SignalDigests) (event : NormalizedMonitorEvent)
    (roles : ApprovedRoles) : Except String ReassessmentRequest :=
  match roleOf roles event.targetResourceId with
  | none => .error "event target is not bound to one approved workload role"
  | some role =>
    if event.targetResourceId.kind = .loadBalancer ∧ role ≠ .loadBalancer then
      .error "load balancer event has an inconsistent workload role"
    else if event.targetResourceId.kind = .virtualMachine ∧ role = .loadBalancer then
      .error "virtual machine event has an inconsistent workload role"
    else if event.lifecycle ≠ .activated ∧ event.lifecycle ≠ .resolved then
      .error "event lifecycle is not actionable"
    else
      let seed := removePrefix event.deduplicationKey "sha256:"
      .ok
        { requestId := "reassess-" ++ textTake seed 12
          incidentId := "inc-" ++ textTake (digests.incidentHex event.targetResourceId) 12
          triggerEventId := event.eventId
          triggerEvent := event
          scenario := scenarioOf role
          workloadRole := role
          targetResourceId := event.targetResourceId
          lifecycle := event.lifecycle
          idempotencyKey := "wc016-" ++ seed }

/-- `_signal_rule_name`. -/
def signalRuleName : WorkloadRole → String
  | .databasePrimary => "wc016-scheduled-database-primary-power-state"
  | .web => "wc016-scheduled-web-power-state"
  | .loadBalancer => "wc016-scheduled-load-balancer-availability"

/-- `ApprovedSignalObservation`, without its evidence and summary. -/
structure ApprovedSignalObservation where
  resourceId : ResourceId
  workloadRole : WorkloadRole
  healthy : Bool
  observedAt : UtcDateTime
  deriving DecidableEq, Repr

/-- The normalized event of `_synthetic_monitor_event`. -/
def syntheticMonitorEvent (digests : SignalDigests) (resource : ResourceId) (ruleName : String)
    (lifecycle : EventLifecycle) (observedAt : UtcDateTime) : NormalizedMonitorEvent :=
  let sourceId := "scheduled-" ++ textTake (digests.sourceHex resource ruleName lifecycle observedAt) 24
  let key := "sha256:" ++ digests.deduplicationHex sourceId resource lifecycle observedAt
  { eventId := "evt-" ++ textTake (digests.eventHex key) 12
    deduplicationKey := key
    lifecycle
    targetResourceId := resource
    operationName := ruleName
    observedAt }

/-- The lifecycle that an observed health is reported under. -/
def lifecycleOf (healthy : Bool) : EventLifecycle :=
  if healthy then .resolved else .activated

/-- `build_signal_reassessment_request`; the approved rules are casefolded. -/
def buildSignalReassessmentRequest (digests : SignalDigests)
    (observation : ApprovedSignalObservation) (roles : ApprovedRoles) (alertRules : List String) :
    Except String ReassessmentRequest :=
  if roleOf roles observation.resourceId ≠ some observation.workloadRole then
    .error "signal observation is outside the approved resource roles"
  else if signalRuleName observation.workloadRole ∉ alertRules then
    .error "detector signal rule is not in the exact approved allowlist"
  else
    match buildReassessmentRequest digests
        (syntheticMonitorEvent digests observation.resourceId
          (signalRuleName observation.workloadRole) (lifecycleOf observation.healthy)
          observation.observedAt) roles with
    | .ok request => .ok request
    | .error _ => .error "detected signal failed exact normalization or routing"

/-- A routed request is about its event. -/
theorem buildReassessmentRequest_ok {digests : SignalDigests} {event : NormalizedMonitorEvent}
    {roles : ApprovedRoles} {request : ReassessmentRequest}
    (h : buildReassessmentRequest digests event roles = .ok request) :
    request.triggerEvent = event ∧ request.targetResourceId = event.targetResourceId ∧
      request.lifecycle = event.lifecycle := by
  unfold buildReassessmentRequest at h
  split at h
  · cases h
  · split at h
    · cases h
    · split at h
      · cases h
      · split at h
        · cases h
        · rw [← Except.ok.inj h]
          exact ⟨rfl, rfl, rfl⟩

/-- A detected request carries resource, health and instant of its observation. -/
theorem buildSignalReassessmentRequest_ok {digests : SignalDigests}
    {observation : ApprovedSignalObservation} {roles : ApprovedRoles} {alertRules : List String}
    {request : ReassessmentRequest}
    (h : buildSignalReassessmentRequest digests observation roles alertRules = .ok request) :
    request.targetResourceId = observation.resourceId ∧
      request.lifecycle = lifecycleOf observation.healthy ∧
      request.triggerEvent.observedAt = observation.observedAt := by
  unfold buildSignalReassessmentRequest at h
  split at h
  · cases h
  · split at h
    · cases h
    · split at h
      · rename_i built hbuilt
        obtain ⟨hevent, htarget, hlifecycle⟩ := buildReassessmentRequest_ok hbuilt
        rw [← Except.ok.inj h, htarget, hlifecycle, hevent]
        exact ⟨rfl, rfl, rfl⟩
      · cases h

end AthenaContext.ReassessmentRequests
