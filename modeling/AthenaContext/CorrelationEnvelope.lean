import AthenaContext.CorrelationEvidence

/-!
# Correlation request envelope

The request envelope, the evidence index derived from it, and the checks of
`MonitoringEvidenceBundle`, `IncidentHealthTransition` and
`CorrelationRequest` on the data that the engine and the contract read. The
index of an accepted request holds exactly one citation for each observation,
coverage record and change, so the engine's dictionary lookups are total.
-/

namespace AthenaContext.CorrelationEnvelope

open OrdinalCollections CorrelationEvidence

/-- The two bundle schemas; a request's own schema version follows its bundle's. -/
inductive BundleSchema
  | legacy | wc028
  deriving DecidableEq

/-- `MonitoringEvidenceBundle`. -/
structure MonitoringEvidenceBundle where
  schemaVersion : BundleSchema
  observedStart : UtcDateTime
  observedEnd : UtcDateTime
  observations : List MonitoringObservation
  coverage : List EvidenceCoverage
  deriving DecidableEq

/-- `IncidentHealthTransition`. -/
structure IncidentHealthTransition where
  affectedResourceId : ResourceId
  previousState : HealthState
  currentState : HealthState
  observedStart : UtcDateTime
  observedEnd : UtcDateTime
  previousStateEvidence : List CorrelationEvidenceCitation
  currentStateEvidence : List CorrelationEvidenceCitation
  deriving DecidableEq

/-- The governed context of a request. -/
structure CorrelationContextBinding where
  bindingMode : BindingMode
  bindingDigest : Digest
  dependencyPaths : List DependencyPath
  deriving DecidableEq

/-- `CorrelationRequest`. The transition, inventory and request digests are
opaque values which the report repeats. -/
structure CorrelationRequest where
  requestDigest : Digest
  ruleCatalogDigest : Digest
  transitionDigest : Digest
  inventoryDigest : Digest
  issuedAt : UtcDateTime
  trustedAsOf : UtcDateTime
  expiresAt : UtcDateTime
  contextBinding : CorrelationContextBinding
  incidentAnchor : IncidentHealthTransition
  monitoringEvidence : VersionPinnedBlobReference
  monitoringBundle : MonitoringEvidenceBundle
  changeArtifacts : List ChangeEvidenceArtifact
  deriving DecidableEq

variable (request : CorrelationRequest)

/-- The observations of a request. -/
abbrev CorrelationRequest.observations : List MonitoringObservation :=
  request.monitoringBundle.observations

/-- The coverage records of a request. -/
abbrev CorrelationRequest.coverage : List EvidenceCoverage := request.monitoringBundle.coverage

/-- The governed dependency paths of a request. -/
abbrev CorrelationRequest.paths : List DependencyPath := request.contextBinding.dependencyPaths

/-- Start of the incident interval. -/
abbrev CorrelationRequest.incidentStart : UtcDateTime := request.incidentAnchor.observedStart

/-- End of the incident interval. -/
abbrev CorrelationRequest.incidentEnd : UtcDateTime := request.incidentAnchor.observedEnd

/-- The resource the incident is about. -/
abbrev CorrelationRequest.affectedResourceId : ResourceId :=
  request.incidentAnchor.affectedResourceId

/-- Citation of an observation in `_monitoring_evidence_index`. -/
def CorrelationRequest.observationCitation (o : MonitoringObservation) :
    CorrelationEvidenceCitation :=
  { evidenceId := o.base.observationId
    family := o.family
    evidenceDigest := o.base.observationId
    sourceReference := request.monitoringEvidence
    observedStart := o.base.observedStart
    observedEnd := o.base.observedEnd
    sourceRootReference := o.base.sourceRootReference
    resourceIds := o.resourceIds
    summaryCode := o.base.summaryCode }

/-- Citation of a coverage record in `_monitoring_evidence_index`. -/
def CorrelationRequest.coverageCitation (c : EvidenceCoverage) : CorrelationEvidenceCitation :=
  { evidenceId := c.coverageId
    family := c.family
    evidenceDigest := c.coverageId
    sourceReference := request.monitoringEvidence
    observedStart := c.coverageStart
    observedEnd := c.coverageEnd
    sourceRootReference := c.sourceRootReference
    resourceIds := c.scope.resourceIds
    summaryCode := "coverage." ++ c.family.text ++ "." ++ c.status.text }

/-- Citation of a change artifact, `change_evidence_index`. -/
def changeCitation (a : ChangeEvidenceArtifact) : CorrelationEvidenceCitation :=
  { evidenceId := a.evidence.evidenceId
    family := .resourceChange
    evidenceDigest := a.artifactDigest
    sourceReference := a.handoffArtifact
    observedStart := a.evidence.occurredAt
    observedEnd := a.evidence.occurredAt
    sourceRootReference := a.evidence.sourceRecordReference
    resourceIds := {a.evidence.targetResourceId}
    summaryCode := "change." ++ a.evidence.operation.text ++ "." ++ a.evidence.result.text }

/-- `expected_evidence_index`, to which the request's index must be equal. -/
def CorrelationRequest.evidenceIndex : List CorrelationEvidenceCitation :=
  sortOn CorrelationEvidenceCitation.evidenceId
    (request.observations.map request.observationCitation ++
      request.coverage.map request.coverageCitation ++
      request.changeArtifacts.map changeCitation)

/-- Lookup in the evidence index by identifier. -/
def CorrelationRequest.evidence? (evidenceId : String) : Option CorrelationEvidenceCitation :=
  request.evidenceIndex.find? fun c => c.evidenceId == evidenceId

/-- `observation_index.get`. -/
def CorrelationRequest.observation? (evidenceId : String) : Option MonitoringObservation :=
  request.observations.find? fun o => o.base.observationId == evidenceId

/-- `coverage_index.get`. -/
def CorrelationRequest.coverage? (evidenceId : String) : Option EvidenceCoverage :=
  request.coverage.find? fun c => c.coverageId == evidenceId

/-- `change_index.get`. -/
def CorrelationRequest.change? (evidenceId : String) : Option ChangeEvidenceArtifact :=
  request.changeArtifacts.find? fun a => a.evidence.evidenceId == evidenceId

/-- `paths.get`. -/
def CorrelationRequest.path? (pathId : String) : Option DependencyPath :=
  request.paths.find? fun p => p.pathId == pathId

/-- `_strict_overlap` of the engine and `_intervals_overlap` of the contract. -/
def strictOverlap (start finish incidentStart incidentEnd : UtcDateTime) : Bool :=
  start < incidentEnd && finish > incidentStart

/-- `_overlaps_incident`. -/
def CorrelationRequest.overlapsIncident (o : ObservationBase) : Bool :=
  strictOverlap o.observedStart o.observedEnd request.incidentStart request.incidentEnd

/-- Sorting key of a coverage record within its bundle. -/
def coverageKey (c : EvidenceCoverage) : String ×ₗ UtcDateTime ×ₗ UtcDateTime ×ₗ Digest :=
  toLex (c.family.text, toLex (c.coverageStart, toLex (c.coverageEnd, c.scope.scopeDigest)))

/-- A coverage record that accounts for a query observation must have the
observation's control, family, window, resources, path and tuple. -/
def coverageCompatible (c : EvidenceCoverage) (o : MonitoringObservation) : Prop :=
  c.controlProvenance = o.base.controlProvenance ∧ c.family = o.family ∧
    c.coverageStart ≤ o.base.observedStart ∧ o.base.observedEnd ≤ c.coverageEnd ∧
    o.coverageResourceIds ⊆ c.scope.resourceIds ∧
    (∀ p ∈ o.pathId?, c.scope.pathId = some p) ∧
    ∀ t ∈ o.tuple?, c.scope.direction = some t.1 ∧ c.scope.fiveTupleDigest = some t.2

instance (c : EvidenceCoverage) (o : MonitoringObservation) :
    Decidable (coverageCompatible c o) := by
  unfold coverageCompatible
  infer_instance

/-- The WC028 branch of `validate_bundle`: every query observation has an
execution digest of its own and exactly one compatible coverage record. -/
@[mk_iff] structure MonitoringEvidenceBundle.Bound (b : MonitoringEvidenceBundle) : Prop where
  observationControls : ∀ o ∈ b.observations, o.base.controlProvenance ≠ none
  coverageControls : ∀ c ∈ b.coverage, c.controlProvenance ≠ none
  executed : ∀ o ∈ b.observations, o.isQuery →
    o.base.queryExecutionDigest ≠ none
  unique : ((b.observations.filter MonitoringObservation.isQuery).map
    fun o => o.base.queryExecutionDigest).Nodup
  accounted : ∀ c ∈ b.coverage, ∀ d ∈ c.executions,
    ∃ o ∈ b.observations, o.isQuery ∧ o.base.queryExecutionDigest = some d
  coveredOnce : ∀ o ∈ b.observations, o.isQuery →
    ∀ d ∈ o.base.queryExecutionDigest,
      (b.coverage.filter fun c => d ∈ c.executions).length = 1
  compatible : ∀ o ∈ b.observations, o.isQuery →
    ∀ d ∈ o.base.queryExecutionDigest, ∀ c ∈ b.coverage, d ∈ c.executions →
      coverageCompatible c o

instance (b : MonitoringEvidenceBundle) : Decidable b.Bound :=
  decidable_of_iff' _ (MonitoringEvidenceBundle.bound_iff b)

/-- The legacy branch of `validate_bundle`: no WC028 provenance anywhere. -/
@[mk_iff] structure MonitoringEvidenceBundle.Unbound (b : MonitoringEvidenceBundle) : Prop where
  observations : ∀ o ∈ b.observations,
    o.base.controlProvenance = none ∧ o.base.queryExecutionDigest = none
  coverage : ∀ c ∈ b.coverage, c.controlProvenance = none ∧ c.queryExecutionDigests = none

instance (b : MonitoringEvidenceBundle) : Decidable b.Unbound :=
  decidable_of_iff' _ (MonitoringEvidenceBundle.unbound_iff b)

/-- `MonitoringEvidenceBundle.validate_bundle`. -/
@[mk_iff] structure MonitoringEvidenceBundle.Valid (b : MonitoringEvidenceBundle) : Prop where
  interval : b.observedStart ≤ b.observedEnd
  observations : ∀ o ∈ b.observations, o.Valid
  observationOrder : strictlyOrdered (fun o : MonitoringObservation => o.base.observationId)
    b.observations
  observationCount : b.observations.length ≤ 1000
  coverage : ∀ c ∈ b.coverage, c.Valid
  coverageOrder : strictlyOrdered coverageKey b.coverage
  coverageCount : 1 ≤ b.coverage.length ∧ b.coverage.length ≤ 100
  contained : ∀ o ∈ b.observations,
    b.observedStart ≤ o.base.observedStart ∧ o.base.observedEnd ≤ b.observedEnd
  coverageContained : ∀ c ∈ b.coverage,
    b.observedStart ≤ c.coverageStart ∧ c.coverageEnd ≤ b.observedEnd
  provenance : if b.schemaVersion = .legacy then b.Unbound else b.Bound

instance (b : MonitoringEvidenceBundle) : Decidable b.Valid :=
  decidable_of_iff' _ (MonitoringEvidenceBundle.valid_iff b)

/-- `IncidentHealthTransition.validate_transition`. -/
@[mk_iff] structure IncidentHealthTransition.Valid (t : IncidentHealthTransition) : Prop where
  resource : canonicalResourceId t.affectedResourceId
  changed : t.previousState ≠ t.currentState
  previousOrder : strictlyOrdered CorrelationEvidenceCitation.evidenceId t.previousStateEvidence
  currentOrder : strictlyOrdered CorrelationEvidenceCitation.evidenceId t.currentStateEvidence
  previousCount : 1 ≤ t.previousStateEvidence.length ∧ t.previousStateEvidence.length ≤ 32
  currentCount : 1 ≤ t.currentStateEvidence.length ∧ t.currentStateEvidence.length ≤ 32
  separate : ∀ p ∈ t.previousStateEvidence, ∀ c ∈ t.currentStateEvidence,
    p.evidenceId ≠ c.evidenceId
  start : (t.currentStateEvidence.map fun c => c.observedStart).min? = some t.observedStart
  finish : (t.currentStateEvidence.map fun c => c.observedEnd).max? = some t.observedEnd
  interval : t.observedStart ≤ t.observedEnd
  onset : ∀ p ∈ t.previousStateEvidence, p.observedEnd ≤ t.observedStart
  affected : ∀ c ∈ t.previousStateEvidence ++ t.currentStateEvidence,
    t.affectedResourceId ∈ c.resourceIds

instance (t : IncidentHealthTransition) : Decidable t.Valid :=
  decidable_of_iff' _ (IncidentHealthTransition.valid_iff t)

/-- `matches_health_state`. -/
def CorrelationRequest.matchesHealthState (reference : CorrelationEvidenceCitation)
    (state : HealthState) : Prop :=
  ∃ o ∈ request.observation? reference.evidenceId,
    o.base.subjectResourceId = request.affectedResourceId ∧
      o.healthState = some state

instance (reference : CorrelationEvidenceCitation) (state : HealthState) :
    Decidable (request.matchesHealthState reference state) := by
  unfold CorrelationRequest.matchesHealthState
  infer_instance

/-- An attributed flow names one change of the request, its stored artifact,
its key and its rule, and only properties which that change changed. -/
def CorrelationRequest.attributionBound (flow : NetworkFlowObservation) : Prop :=
  ∃ a ∈ request.changeArtifacts, flow.matchedChangeEvidenceId = some a.evidence.evidenceId ∧
    flow.matchedChangeArtifactDigest = some a.artifactDigest ∧
    flow.matchedChangeKey = some a.evidence.changeKey ∧
    flow.ruleResourceId = some a.evidence.targetResourceId ∧
    a.evidence.isSecurityRule ∧
    ∀ p ∈ flow.matchedPropertyPaths, p ∈ a.evidence.changedProperties.map ChangedProperty.path

instance (flow : NetworkFlowObservation) : Decidable (request.attributionBound flow) := by
  unfold CorrelationRequest.attributionBound
  infer_instance

/-- The network flows among a list of observations. -/
def networkFlows (observations : List MonitoringObservation) : List NetworkFlowObservation :=
  observations.filterMap fun
    | .networkFlow o => some o
    | _ => none

@[simp] theorem mem_networkFlows {observations : List MonitoringObservation}
    {flow : NetworkFlowObservation} :
    flow ∈ networkFlows observations ↔ .networkFlow flow ∈ observations := by
  simp only [networkFlows, List.mem_filterMap]
  constructor
  · rintro ⟨o, ho, h⟩
    cases o <;> simp_all
  · exact fun h => ⟨_, h, rfl⟩

/-- The connection tests among a list of observations. -/
def connectionMonitors (observations : List MonitoringObservation) :
    List ConnectionMonitorObservation :=
  observations.filterMap fun
    | .connectionMonitor o => some o
    | _ => none

@[simp] theorem mem_connectionMonitors {observations : List MonitoringObservation}
    {monitor : ConnectionMonitorObservation} :
    monitor ∈ connectionMonitors observations ↔ .connectionMonitor monitor ∈ observations := by
  simp only [connectionMonitors, List.mem_filterMap]
  constructor
  · rintro ⟨o, ho, h⟩
    cases o <;> simp_all
  · exact fun h => ⟨_, h, rfl⟩

/-- The endpoint observations among a list of observations. -/
def endpointObservations (observations : List MonitoringObservation) :
    List EndpointHealthObservation :=
  observations.filterMap fun
    | .endpointHealth o => some o
    | _ => none

@[simp] theorem mem_endpointObservations {observations : List MonitoringObservation}
    {endpoint : EndpointHealthObservation} :
    endpoint ∈ endpointObservations observations ↔ .endpointHealth endpoint ∈ observations := by
  simp only [endpointObservations, List.mem_filterMap]
  constructor
  · rintro ⟨o, ho, h⟩
    cases o <;> simp_all
  · exact fun h => ⟨_, h, rfl⟩

/-- `CorrelationRequest.validate_request`. -/
@[mk_iff] structure CorrelationRequest.Accepted (request : CorrelationRequest) : Prop where
  window : request.issuedAt ≤ request.trustedAsOf ∧ request.trustedAsOf ≤ request.expiresAt ∧
    request.expiresAt - request.issuedAt ≤ 15 * 60 * 1000
  bundle : request.monitoringBundle.Valid
  transition : request.incidentAnchor.Valid
  notNewer : request.incidentEnd ≤ request.trustedAsOf ∧
    request.monitoringBundle.observedEnd ≤ request.trustedAsOf
  changes : ∀ a ∈ request.changeArtifacts, a.evidence.Valid
  changeOrder : strictlyOrdered ChangeEvidenceArtifact.artifactDigest request.changeArtifacts
  changeCount : request.changeArtifacts.length ≤ 256
  changesNotNewer : ∀ a ∈ request.changeArtifacts, a.evidence.receivedAt ≤ request.trustedAsOf
  attribution : ∀ f ∈ networkFlows request.observations, f.effectiveRuleAttribution →
    request.attributionBound f
  indexIds : (request.evidenceIndex.map CorrelationEvidenceCitation.evidenceId).Nodup
  indexCount : request.evidenceIndex.length ≤ 2048
  indexResources : ∀ c ∈ request.evidenceIndex, c.resourceIds.card ≤ 128
  incidentEvidence : ∀ c ∈ request.incidentAnchor.previousStateEvidence ++
    request.incidentAnchor.currentStateEvidence, c ∈ request.evidenceIndex
  previousHealth : ∀ c ∈ request.incidentAnchor.previousStateEvidence,
    request.matchesHealthState c request.incidentAnchor.previousState
  currentHealth : ∀ c ∈ request.incidentAnchor.currentStateEvidence,
    request.matchesHealthState c request.incidentAnchor.currentState
  pathOrder : strictlyOrdered DependencyPath.pathId request.paths
  pathCount : 1 ≤ request.paths.length ∧ request.paths.length ≤ 256
  pathResources : ∀ p ∈ request.paths, p.resourceIds ≠ ∅ ∧ p.resourceIds.card ≤ 128
  governed : ∀ o ∈ request.observations, ∀ pid ∈ o.pathId?,
    ∃ p ∈ request.paths, p.pathId = pid ∧ o.pathResourceIds ⊆ p.resourceIds
  coverageGoverned : ∀ c ∈ request.coverage, ∀ pid ∈ c.scope.pathId,
    ∃ p ∈ request.paths, p.pathId = pid ∧ c.scope.resourceIds ⊆ p.resourceIds

instance : Decidable request.Accepted :=
  decidable_of_iff' _ (CorrelationRequest.accepted_iff request)

end AthenaContext.CorrelationEnvelope
