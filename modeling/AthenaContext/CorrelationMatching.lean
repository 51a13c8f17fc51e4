import AthenaContext.CorrelationEnvelope

/-!
# Evidence matching of the correlation engine

The engine's predicates over one request: which flow an attribution binds to
which change, which coverage record vouches for which observation, which
paths and citations are relevant, what counts as independent corroboration
and what counts as a recovery. A dictionary lookup `citations[id]` is
modelled by the citation which the index holds for that record.
-/

namespace AthenaContext.CorrelationMatching

open OrdinalCollections CorrelationRules CorrelationEvidence CorrelationEnvelope

variable (request : CorrelationRequest)

/-- Citation of a flow. -/
abbrev flowCitation (f : NetworkFlowObservation) : CorrelationEvidenceCitation :=
  request.observationCitation (.networkFlow f)

/-- Citation of a connection test. -/
abbrev monitorCitation (m : ConnectionMonitorObservation) : CorrelationEvidenceCitation :=
  request.observationCitation (.connectionMonitor m)

/-- Citation of an endpoint observation. -/
abbrev endpointCitation (e : EndpointHealthObservation) : CorrelationEvidenceCitation :=
  request.observationCitation (.endpointHealth e)

/-- `_coverage_binds_query_observation`. -/
def coverageBindsQueryObservation (c : EvidenceCoverage) (o : MonitoringObservation) : Prop :=
  request.monitoringBundle.schemaVersion = .legacy ∨ o.isQuery = false ∨
    ∃ d ∈ o.base.queryExecutionDigest, d ∈ c.executions

/-- The coverage window contains the whole incident interval. -/
def spansIncident (c : EvidenceCoverage) : Prop :=
  c.coverageStart ≤ request.incidentStart ∧ request.incidentEnd ≤ c.coverageEnd

/-- The coverage window contains the whole observation. -/
def spansObservation (c : EvidenceCoverage) (o : ObservationBase) : Prop :=
  c.coverageStart ≤ o.observedStart ∧ o.observedEnd ≤ c.coverageEnd

/-- Family, status and scope under which a coverage record vouches for a flow. -/
def flowScopeMatches (c : EvidenceCoverage) (f : NetworkFlowObservation) : Prop :=
  c.family = .networkFlow ∧ c.status = .complete ∧ c.scope.pathId = some f.pathId ∧
    c.scope.direction = some f.direction ∧ c.scope.fiveTupleDigest = some f.fiveTupleDigest ∧
    f.resourceIds ⊆ c.scope.resourceIds

/-- Family, status and scope under which a coverage record vouches for a test. -/
def monitorScopeMatches (c : EvidenceCoverage) (m : ConnectionMonitorObservation) : Prop :=
  c.family = .connectionMonitor ∧ c.status = .complete ∧ c.scope.pathId = some m.pathId ∧
    c.scope.direction = some m.direction ∧ c.scope.fiveTupleDigest = some m.fiveTupleDigest ∧
    c.scope.endpointTestReference = some m.testConfigurationReference ∧
    c.scope.endpointTestDigest = some m.testConfigurationDigest ∧
    m.coverageResourceIds ⊆ c.scope.resourceIds

/-- Family, status and scope under which a coverage record vouches for an endpoint. -/
def endpointScopeMatches (c : EvidenceCoverage) (e : EndpointHealthObservation) : Prop :=
  c.family = .endpointHealth ∧ c.status = .complete ∧ c.scope.pathId = some e.pathId ∧
    e.resourceIds ⊆ c.scope.resourceIds

instance (c : EvidenceCoverage) (o : MonitoringObservation) :
    Decidable (coverageBindsQueryObservation request c o) := by
  unfold coverageBindsQueryObservation
  infer_instance

instance (c : EvidenceCoverage) : Decidable (spansIncident request c) := by
  unfold spansIncident
  infer_instance

instance (c : EvidenceCoverage) (o : ObservationBase) : Decidable (spansObservation c o) := by
  unfold spansObservation
  infer_instance

instance (c : EvidenceCoverage) (f : NetworkFlowObservation) : Decidable (flowScopeMatches c f) := by
  unfold flowScopeMatches
  infer_instance

instance (c : EvidenceCoverage) (m : ConnectionMonitorObservation) :
    Decidable (monitorScopeMatches c m) := by
  unfold monitorScopeMatches
  infer_instance

instance (c : EvidenceCoverage) (e : EndpointHealthObservation) :
    Decidable (endpointScopeMatches c e) := by
  unfold endpointScopeMatches
  infer_instance

/-- `_matching_flow_coverage`: the first record by identifier. -/
def matchingFlowCoverage (f : NetworkFlowObservation) : Option EvidenceCoverage :=
  (sortOn EvidenceCoverage.coverageId (request.coverage.filter fun c =>
    coverageBindsQueryObservation request c (.networkFlow f) ∧ flowScopeMatches c f ∧
      spansIncident request c ∧ spansObservation c f.toObservationBase)).head?

/-- `_matching_monitor_coverage`. -/
def matchingMonitorCoverage (m : ConnectionMonitorObservation) : Option EvidenceCoverage :=
  (sortOn EvidenceCoverage.coverageId (request.coverage.filter fun c =>
    coverageBindsQueryObservation request c (.connectionMonitor m) ∧ monitorScopeMatches c m ∧
      spansIncident request c ∧ spansObservation c m.toObservationBase)).head?

/-- `_matching_endpoint_coverage`. -/
def matchingEndpointCoverage (e : EndpointHealthObservation) : Option EvidenceCoverage :=
  (sortOn EvidenceCoverage.coverageId (request.coverage.filter fun c =>
    coverageBindsQueryObservation request c (.endpointHealth e) ∧ endpointScopeMatches c e ∧
      spansIncident request c ∧ spansObservation c e.toObservationBase)).head?

/-- `_has_complete_coverage` of a guest, endpoint or platform observation. -/
def hasCompleteCoverage (o : MonitoringObservation) (path : Option DependencyPath) : Bool :=
  request.coverage.any fun c =>
    c.family = o.family ∧ c.status = .complete ∧ coverageBindsQueryObservation request c o ∧
      o.base.subjectResourceId ∈ c.scope.resourceIds ∧
      (∀ p ∈ path, c.scope.pathId = none ∨ c.scope.pathId = some p.pathId) ∧
      spansIncident request c

/-- Wire text of an optional port within a key. -/
def portKey : Option ℕ → String
  | none => ""
  | some p => toString p

/-- `_network_tuple_key` of a flow. -/
def flowTupleKey (f : NetworkFlowObservation) : List String :=
  [f.pathId, f.direction.text, f.fiveTupleDigest, f.sourceResourceId, f.destinationResourceId,
    f.sourceAddress, f.destinationAddress, f.protocol.text, portKey f.sourcePort,
    portKey f.destinationPort]

/-- `_network_tuple_key` of a connection test. -/
def monitorTupleKey (m : ConnectionMonitorObservation) : List String :=
  [m.pathId, m.direction.text, m.fiveTupleDigest, m.sourceResourceId, m.destinationResourceId,
    m.sourceAddress, m.destinationAddress, m.protocol.text, portKey m.sourcePort,
    portKey m.destinationPort]

/-- `_nsg_chain_key`. -/
def nsgChainKey (f : NetworkFlowObservation) : List String :=
  flowTupleKey f ++ [f.enforcementResourceId, f.ruleResourceId.getD ""]

/-- `_same_flow`, in the engine and in the contract. -/
def sameFlow (a b : NetworkFlowObservation) : Prop :=
  a.pathId = b.pathId ∧ a.direction = b.direction ∧ a.fiveTupleDigest = b.fiveTupleDigest ∧
    a.sourceResourceId = b.sourceResourceId ∧ a.destinationResourceId = b.destinationResourceId ∧
    a.sourceAddress = b.sourceAddress ∧ a.destinationAddress = b.destinationAddress ∧
    a.protocol = b.protocol ∧ a.sourcePort = b.sourcePort ∧
    a.destinationPort = b.destinationPort ∧ a.enforcementResourceId = b.enforcementResourceId ∧
    a.ruleResourceId = b.ruleResourceId

/-- `_same_monitor`, in the engine and in the contract. -/
def sameMonitor (a b : ConnectionMonitorObservation) : Prop :=
  a.pathId = b.pathId ∧ a.direction = b.direction ∧ a.fiveTupleDigest = b.fiveTupleDigest ∧
    a.sourceResourceId = b.sourceResourceId ∧ a.destinationResourceId = b.destinationResourceId ∧
    a.sourceAddress = b.sourceAddress ∧ a.destinationAddress = b.destinationAddress ∧
    a.protocol = b.protocol ∧ a.sourcePort = b.sourcePort ∧
    a.destinationPort = b.destinationPort ∧
    a.testConfigurationReference = b.testConfigurationReference ∧
    a.testConfigurationDigest = b.testConfigurationDigest

/-- A flow and a connection test on one path with one network tuple. -/
def sameNetworkTuple (f : NetworkFlowObservation) (m : ConnectionMonitorObservation) : Prop :=
  m.pathId = f.pathId ∧ m.direction = f.direction ∧ m.fiveTupleDigest = f.fiveTupleDigest ∧
    m.sourceResourceId = f.sourceResourceId ∧ m.destinationResourceId = f.destinationResourceId ∧
    m.sourceAddress = f.sourceAddress ∧ m.destinationAddress = f.destinationAddress ∧
    m.protocol = f.protocol ∧ m.sourcePort = f.sourcePort ∧ m.destinationPort = f.destinationPort

instance (a b : NetworkFlowObservation) : Decidable (sameFlow a b) := by
  unfold sameFlow
  infer_instance

instance (a b : ConnectionMonitorObservation) : Decidable (sameMonitor a b) := by
  unfold sameMonitor
  infer_instance

instance (f : NetworkFlowObservation) (m : ConnectionMonitorObservation) :
    Decidable (sameNetworkTuple f m) := by
  unfold sameNetworkTuple
  infer_instance

/-- `_flow_binds_change`. -/
def flowBindsChange (f : NetworkFlowObservation) (a : ChangeEvidenceArtifact) : Prop :=
  f.effectiveRuleAttribution = true ∧ f.decision = .denied ∧
    f.ruleResourceId = some a.evidence.targetResourceId ∧
    some f.enforcementResourceId = parentNsgId a.evidence.targetResourceId ∧
    f.matchedChangeEvidenceId = some a.evidence.evidenceId ∧
    f.matchedChangeKey = some a.evidence.changeKey ∧
    f.matchedChangeArtifactDigest = some a.artifactDigest ∧
    ∀ p ∈ f.matchedPropertyPaths, p ∈ a.evidence.changedProperties.map ChangedProperty.path

/-- `_flow_matches_changed_nsg`. -/
def flowMatchesChangedNsg (f : NetworkFlowObservation) (a : ChangeEvidenceArtifact) : Prop :=
  (∀ r ∈ f.ruleResourceId, r = a.evidence.targetResourceId) ∧
    some f.enforcementResourceId = parentNsgId a.evidence.targetResourceId

instance (f : NetworkFlowObservation) (a : ChangeEvidenceArtifact) :
    Decidable (flowBindsChange f a) := by
  unfold flowBindsChange
  infer_instance

instance (f : NetworkFlowObservation) (a : ChangeEvidenceArtifact) :
    Decidable (flowMatchesChangedNsg f a) := by
  unfold flowMatchesChangedNsg
  infer_instance

/-- The observation started no later than the incident and overlaps it. -/
def concurrent (o : ObservationBase) : Prop :=
  o.observedStart ≤ request.incidentStart ∧ request.overlapsIncident o = true

instance (o : ObservationBase) : Decidable (concurrent request o) := by
  unfold concurrent
  infer_instance

/-- A denied flow during the incident which the change may explain. -/
def nsgCandidateFlow (a : ChangeEvidenceArtifact) (f : NetworkFlowObservation) : Prop :=
  f.decision = .denied ∧ concurrent request f.toObservationBase ∧
    (flowBindsChange f a ∨ f.effectiveRuleAttribution = false ∧ flowMatchesChangedNsg f a)

instance (a : ChangeEvidenceArtifact) (f : NetworkFlowObservation) :
    Decidable (nsgCandidateFlow request a f) := by
  unfold nsgCandidateFlow
  infer_instance

/-- `_matching_failed_monitors`. -/
def matchingFailedMonitors (f : NetworkFlowObservation) : List ConnectionMonitorObservation :=
  sortOn (fun m => m.observationId) ((connectionMonitors request.observations).filter fun m =>
    m.status = .failed ∧ sameNetworkTuple f m ∧ concurrent request m.toObservationBase)

/-- `_matching_degraded_endpoints`. -/
def matchingDegradedEndpoints (destination : ResourceId) (path : DependencyPath) :
    List EndpointHealthObservation :=
  sortOn (fun e => e.observationId) ((endpointObservations request.observations).filter fun e =>
    e.pathId = path.pathId ∧ e.subjectResourceId = request.affectedResourceId ∧
      (e.subjectResourceId = destination ∨ destination ∈ e.backendResourceIds) ∧
      e.status.adverse ∧ concurrent request e.toObservationBase)

/-- `_chain_has_hard_conflict`. -/
def chainHasHardConflict (f : NetworkFlowObservation)
    (monitor : Option ConnectionMonitorObservation) : Bool :=
  ((networkFlows request.observations).any fun o =>
    o.decision = .allowed ∧ sameFlow o f ∧ request.overlapsIncident o.toObservationBase ∧
      (matchingFlowCoverage request o).isSome) ||
  monitor.any fun m => (connectionMonitors request.observations).any fun o =>
    o.status = .succeeded ∧ sameMonitor o m ∧ request.overlapsIncident o.toObservationBase ∧
      (matchingMonitorCoverage request o).isSome

/-- `_has_complete_nsg_coverage`. -/
def hasCompleteNsgCoverage (flow : Option NetworkFlowObservation)
    (monitor : Option ConnectionMonitorObservation) (endpoint : Option EndpointHealthObservation)
    (path : Option DependencyPath) : Bool :=
  match flow, monitor, endpoint, path with
  | some f, some m, some e, some _ =>
    (matchingFlowCoverage request f).isSome && (matchingMonitorCoverage request m).isSome &&
      (matchingEndpointCoverage request e).isSome
  | _, _, _, _ => false

/-- `_independent_citations`: greedily in identifier order, one citation of
each family and of each provenance root, coverage records aside. -/
def independentCitations (citations : List CorrelationEvidenceCitation) :
    List CorrelationEvidenceCitation :=
  (sortOn CorrelationEvidenceCitation.evidenceId citations).foldl (fun kept c =>
    if c.isCoverage ∨ ∃ k ∈ kept, k.family = c.family ∨
        k.provenanceRootDigest = c.provenanceRootDigest then kept
    else kept ++ [c]) []

/-- `_path_for_resources`: the first path by identifier that contains both. -/
def pathForResources (affected cause : ResourceId) : Option DependencyPath :=
  (sortOn DependencyPath.pathId (request.paths.filter fun p =>
    affected ∈ p.resourceIds ∧ cause ∈ p.resourceIds)).head?

/-- `_citation_matches_path`. -/
def citationMatchesPath (c : CorrelationEvidenceCitation) (path : DependencyPath) : Prop :=
  (∃ r ∈ c.resourceIds, r ∈ path.resourceIds) ∧
    ∀ o ∈ request.observation? c.evidenceId, ∀ pid ∈ o.pathId?, pid = path.pathId

instance (c : CorrelationEvidenceCitation) (path : DependencyPath) :
    Decidable (citationMatchesPath request c path) := by
  unfold citationMatchesPath
  infer_instance

/-- `_citation_relevant`. -/
def citationRelevant (c : CorrelationEvidenceCitation) (path : Option DependencyPath) : Prop :=
  c.observedStart ≤ request.incidentStart ∧
    strictOverlap c.observedStart c.observedEnd request.incidentStart request.incidentEnd ∧
    match path with
    | none => request.affectedResourceId ∈ c.resourceIds
    | some p => citationMatchesPath request c p

instance (c : CorrelationEvidenceCitation) (path : Option DependencyPath) :
    Decidable (citationRelevant request c path) := by
  unfold citationRelevant
  cases path <;> infer_instance

/-- The citation is of one of the three families that name a path. -/
def pathFamily (f : EvidenceFamily) : Bool :=
  f == .networkFlow || f == .connectionMonitor || f == .endpointHealth

/-- `_first_path_citation`. -/
def firstPathCitation (citations : List CorrelationEvidenceCitation)
    (path : Option DependencyPath) : Option CorrelationEvidenceCitation :=
  path.bind fun p => (sortOn CorrelationEvidenceCitation.evidenceId (citations.filter fun c =>
    pathFamily c.family ∧ c.isCoverage = false ∧ c.resourceIds ⊆ p.resourceIds ∧
      citationMatchesPath request c p)).head?

/-- `_path_gate_citation`. -/
def pathGateCitation (path : Option DependencyPath) (flow : Option NetworkFlowObservation)
    (endpoint : Option EndpointHealthObservation) : Option CorrelationEvidenceCitation :=
  path.bind fun p => ((flow.map (flowCitation request)).toList ++
    (endpoint.map (endpointCitation request)).toList).find? fun c => c.resourceIds ⊆ p.resourceIds

/-- `_topology_score`. -/
def topologyScore (path : Option DependencyPath) (cause affected : ResourceId) : ℕ :=
  match path with
  | none => 0
  | some p =>
    if cause ∈ p.resourceIds ∧ affected ∈ p.resourceIds then 25
    else if affected ∈ p.resourceIds then 18
    else 10

theorem topologyScore_le (path : Option DependencyPath) (cause affected : ResourceId) :
    topologyScore path cause affected ≤ 25 := by
  unfold topologyScore
  split
  · omega
  · split_ifs <;> omega

/-- `_change_semantic_score`. -/
def changeSemanticScore (a : ChangeEvidenceArtifact) (category : RootCauseCategory) : ℕ :=
  let paths := a.evidence.changedProperties.map fun p => p.path.toLower
  if category = .routingChange then
    if paths.any (fun p => routingPropertyPaths.contains p) then 20 else 0
  else if paths.any (fun p => !p.startsWith "tags." && p != "tags") then 8 else 0

/-- Casefolded path, references and truncation of every changed property, as
`_is_exact_corrective_change` sorts them. -/
def propertyRows (a : ChangeEvidenceArtifact) :
    List (String × Option String × Option String × Bool) :=
  sortOn Prod.fst (a.evidence.changedProperties.map fun p =>
    (p.path.toLower, p.beforeEvidenceReference, p.afterEvidenceReference, p.isTruncated))

/-- `_is_exact_corrective_change`: the same paths, each put back. Distinct
casefolded paths make the sort by path the sort by the whole row. -/
def isExactCorrectiveChange (candidate corrective : ChangeEvidenceArtifact) : Prop :=
  propertyRows candidate ≠ [] ∧ ((propertyRows candidate).map Prod.fst).Nodup ∧
    ((propertyRows corrective).map Prod.fst).Nodup ∧
    (propertyRows candidate).map Prod.fst = (propertyRows corrective).map Prod.fst ∧
    ∀ rows ∈ (propertyRows candidate).zip (propertyRows corrective),
      rows.1.2.2.2 = false ∧ rows.2.2.2.2 = false ∧ rows.1.2.1 ≠ none ∧ rows.1.2.2.1 ≠ none ∧
        rows.2.2.1 = rows.1.2.2.1 ∧ rows.2.2.2.1 = rows.1.2.1

instance (candidate corrective : ChangeEvidenceArtifact) :
    Decidable (isExactCorrectiveChange candidate corrective) := by
  unfold isExactCorrectiveChange
  infer_instance

/-- The observation reports recovery of the candidate's own signal. -/
def recoversCandidate (candidate o : MonitoringObservation) : Bool :=
  match candidate, o with
  | .guestSignal c, .guestSignal r =>
    r.state == .recovered && r.subjectResourceId == c.subjectResourceId && r.signal == c.signal &&
      r.serviceReference == c.serviceReference
  | .endpointHealth c, .endpointHealth r =>
    r.status == .recovered && r.subjectResourceId == c.subjectResourceId &&
      r.pathId == c.pathId && r.backendResourceIds == c.backendResourceIds
  | _, _ => false

/-- Score, added support and gate evidence of a recovery. -/
structure RecoveryAssessment where
  score : ℕ
  support : List CorrelationEvidenceCitation
  evidenceIds : List String

/-- No recovery was assessed. -/
def noRecovery : RecoveryAssessment := ⟨0, [], []⟩

/-- The first recovery after the incident and after the candidate itself. -/
def firstRecovery (candidate : MonitoringObservation) : Option MonitoringObservation :=
  (sortOn (fun o : MonitoringObservation =>
      toLex (o.base.observedStart, o.base.observationId))
    (request.observations.filter fun o =>
      recoversCandidate candidate o ∧ request.incidentEnd ≤ o.base.observedStart ∧
        candidate.base.observedEnd ≤ o.base.observedStart)).head?

/-- The first change that put back the candidate change before the recovery. -/
def correctiveChange (cause : ResourceId) (candidate : Option ChangeEvidenceArtifact)
    (recovery : MonitoringObservation) : Option ChangeEvidenceArtifact :=
  (sortOn (fun a : ChangeEvidenceArtifact => toLex (a.evidence.occurredAt, a.evidence.evidenceId))
    (request.changeArtifacts.filter fun a =>
      a.evidence.targetResourceId = cause ∧ a.evidence.result = .succeeded ∧
        request.incidentStart < a.evidence.occurredAt ∧
        a.evidence.occurredAt ≤ recovery.base.observedStart ∧
        ∃ c ∈ candidate, isExactCorrectiveChange c a)).head?

/-- `_recovery_assessment`. -/
def recoveryAssessment (cause : ResourceId) (candidateArtifact : Option ChangeEvidenceArtifact)
    (candidateObservation : Option MonitoringObservation) : RecoveryAssessment :=
  match candidateObservation.bind (firstRecovery request) with
  | none => noRecovery
  | some recovery =>
    let citation := request.observationCitation recovery
    match correctiveChange request cause candidateArtifact recovery with
    | some a => ⟨10, [citation], sortOn id [a.evidence.evidenceId, citation.evidenceId]⟩
    | none => ⟨4, [citation], [citation.evidenceId]⟩

end AthenaContext.CorrelationMatching
