import AthenaContext.CorrelationEngine

/-!
# The correlation contract

What `RootCauseHypothesis`, `CorrelationReport` and
`validate_correlation_report_binding` demand, written from the contract
module alone. The contract never asks the engine: it derives every
requirement again from gates, citations and the request. Each check is a
proposition that holds exactly when the source does not raise there.
-/

namespace AthenaContext.CorrelationContract

open OrdinalCollections CorrelationRules CorrelationEvidence CorrelationEnvelope
  CorrelationMatching CorrelationEngine

/-- `CorrelationGate` field checks. -/
def gateValid (g : CorrelationGate) : Prop :=
  strictlyOrdered id g.evidenceIds ∧ g.evidenceIds.length ≤ maximumGateEvidenceIds

/-- `CorrelationContradiction` checks. -/
def contradictionValid (c : CorrelationContradiction) : Prop :=
  strictlyOrdered id c.evidenceIds ∧ c.evidenceIds ≠ [] ∧
    c.evidenceIds.length ≤ maximumContradictionEvidenceIds ∧ 1 ≤ c.detail.length ∧
    c.detail.length ≤ 1000 ∧ c.hardConflict = c.code.hard

/-- `MissingCorrelationEvidence` field checks. -/
def missingValid (m : MissingCorrelationEvidence) : Prop :=
  1 ≤ m.detail.length ∧ m.detail.length ≤ 1000

/-- The codes of a hypothesis's missing evidence contain the omission code. -/
def declaresOmission (h : RootCauseHypothesis) : Prop :=
  ∃ m ∈ h.missingEvidence, m.code = .omittedCandidates

/-- Field checks and `RootCauseHypothesis.validate_hypothesis`. The digest
checks hold by construction, the digest being a function of the record. -/
structure HypothesisValid (h : RootCauseHypothesis) : Prop where
  rank : 1 ≤ h.rank ∧ h.rank ≤ maximumHypotheses
  cause : ∀ r ∈ h.causeResourceId, canonicalResourceId r
  score : h.score.Valid
  supportBound : h.supportingEvidence.length ≤ maximumSupportingEvidence
  contradictionBound : h.contradictions.length ≤ maximumContradictions
  missingBound : h.missingEvidence.length ≤ maximumMissingEvidence
  gateBound : h.gates.length ≤ maximumGates
  capBound : h.caps.length ≤ maximumCaps
  gates : ∀ g ∈ h.gates, gateValid g
  contradictions : ∀ c ∈ h.contradictions, contradictionValid c
  missing : ∀ m ∈ h.missingEvidence, missingValid m
  omissionCount : ∀ n ∈ h.omittedCandidateCount, 1 ≤ n ∧ n ≤ maximumCandidateHypotheses
  omissionPaired : h.omittedCandidateCount.isSome = h.omittedCandidateDigest.isSome
  omission : h.omittedCandidateCount.isSome → h.category = .unknown ∧ h.confidence = .unknown ∧
    h.causeResourceId = none ∧ h.affectedPathId = none ∧ h.candidateCausalAt = none ∧
    h.supportingEvidence = [] ∧ declaresOmission h
  noOmission : h.omittedCandidateCount = none → ¬ declaresOmission h
  supportOrder : strictlyOrdered CorrelationEvidenceCitation.evidenceId h.supportingEvidence
  gateOrder : strictlyOrdered (fun g : CorrelationGate => g.code.text) h.gates
  capOrder : strictlyOrdered (fun c : ConfidenceCap => c.code.text) h.caps
  contradictionOrder : strictlyOrdered contradictionKey h.contradictions
  missingOrder : strictlyOrdered missingKey h.missingEvidence
  hardConflict : (∃ c ∈ h.contradictions, c.hardConflict) → h.confidence = .unknown
  threshold : h.confidence.minimumScore ≤ h.score.rawScore
  capped : ∀ c ∈ h.caps, h.confidence.rank ≤ c.maximumConfidence.rank
  confirmedGates : h.confidence = .confirmed → h.gates ≠ [] ∧ ∀ g ∈ h.gates, g.satisfied
  confirmedSupport : h.confidence = .confirmed → h.supportingEvidence ≠ []
  confirmedGateSet : h.confidence = .confirmed → h.category = .networkSecurityChange →
    ∀ code, (∃ g ∈ h.gates, g.code = code) ↔ code ∈ networkSecurityConfirmedGates

variable (request : CorrelationRequest) (h : RootCauseHypothesis)

/-- Evidence identifiers of a satisfied gate. -/
def gateIds (code : CorrelationGateCode) : Option (List String) :=
  ((h.gates.find? fun g => g.code == code).filter fun g => g.satisfied).map
    CorrelationGate.evidenceIds

/-- `_intervals_overlap` of an observation and the incident. -/
abbrev overlaps (o : ObservationBase) : Prop := request.overlapsIncident o = true

/-- `require_cap`. -/
def requireCap (code : ConfidenceCapCode) : Prop :=
  ∃ c ∈ h.caps, c.code = code ∧ c.maximumConfidence.rank ≤ (requiredCap code).rank

/-- The change evidence among a list of identifiers. -/
def citedChanges (ids : List String) : List NormalizedChangeEvidence :=
  ids.filterMap fun i => (request.change? i).map ChangeEvidenceArtifact.evidence

/-- The observations among a list of identifiers. -/
def citedObservations (ids : List String) : List MonitoringObservation :=
  ids.filterMap request.observation?

/-- The coverage records among a list of identifiers. -/
def citedCoverage (ids : List String) : List EvidenceCoverage := ids.filterMap request.coverage?

/-- The path of the hypothesis. -/
def affectedPath : Option DependencyPath := h.affectedPathId.bind request.path?

/-- The change is on the hypothesis's cause, when it names one. -/
def onCause (c : NormalizedChangeEvidence) : Prop :=
  ∀ r ∈ h.causeResourceId, c.targetResourceId = r

/-- `affectedPath` gate. -/
def affectedPathBound (ids : List String) : Prop :=
  ∃ path ∈ affectedPath request h,
    (∃ o ∈ citedObservations request ids, o.pathId?.isSome) ∧
    (∀ o ∈ citedObservations request ids, ∀ p ∈ o.pathId?, h.affectedPathId = some p) ∧
    ∃ i ∈ ids, ∃ c ∈ request.evidence? i, c.resourceIds ⊆ path.resourceIds

/-- `successfulChange` gate. -/
def successfulChangeBound (ids : List String) : Prop :=
  citedChanges request ids ≠ [] ∧
    ∀ c ∈ citedChanges request ids, c.result = .succeeded ∧ onCause h c

/-- `semanticMatch` gate. -/
def semanticMatchBound (ids : List String) : Prop :=
  citedChanges request ids ≠ [] ∧ ∀ c ∈ citedChanges request ids, c.changedProperties ≠ [] ∧
    (h.category = .networkSecurityChange → c.causal)

/-- A flow of the affected path that overlaps the incident and is attributed
to the hypothesis's cause. -/
def attributedFlow (f : NetworkFlowObservation) : Prop :=
  f.effectiveRuleAttribution = true ∧ f.ruleResourceId ≠ none ∧
    f.ruleResourceId = h.causeResourceId ∧ h.affectedPathId = some f.pathId ∧
    overlaps request f.toObservationBase

/-- `effectiveRuleAttribution` gate. -/
def attributionBound (ids : List String) : Prop :=
  ∃ f, .networkFlow f ∈ citedObservations request ids ∧ attributedFlow request h f

/-- `matchingDeniedFlow` gate. -/
def deniedFlowBound (ids : List String) : Prop :=
  ∃ f, .networkFlow f ∈ citedObservations request ids ∧ f.decision = .denied ∧
    h.affectedPathId = some f.pathId ∧ overlaps request f.toObservationBase

/-- `connectionMonitorFailure` gate. -/
def monitorFailureBound (ids : List String) : Prop :=
  ∃ m, .connectionMonitor m ∈ citedObservations request ids ∧ m.status = .failed ∧
    h.affectedPathId = some m.pathId ∧ overlaps request m.toObservationBase

/-- `endpointDegradation` gate. -/
def endpointDegradationBound (ids : List String) : Prop :=
  ∃ e, .endpointHealth e ∈ citedObservations request ids ∧ e.status.adverse ∧
    h.affectedPathId = some e.pathId ∧ overlaps request e.toObservationBase

/-- Citations of a gate that are not coverage records. -/
def positiveCitations (ids : List String) : List CorrelationEvidenceCitation :=
  (ids.filterMap request.evidence?).filter fun c => (request.coverage? c.evidenceId).isNone

/-- Observation kinds and states that may corroborate a network change. -/
def corroboratesNetworkChange : MonitoringObservation → Bool
  | .networkFlow o => o.decision == .denied
  | .connectionMonitor o => o.status == .failed || o.status == .degraded
  | .endpointHealth o => o.status.adverse
  | _ => false

/-- A cited observation that is relevant corroboration on the path. -/
def relevantCorroboration (path : DependencyPath) (c : CorrelationEvidenceCitation)
    (o : MonitoringObservation) : Prop :=
  (h.category = .networkSecurityChange → corroboratesNetworkChange o) ∧
    (∃ r ∈ c.resourceIds, r ∈ path.resourceIds) ∧
    strictOverlap c.observedStart c.observedEnd request.incidentStart request.incidentEnd ∧
    ∀ p ∈ o.pathId?, h.affectedPathId = some p

/-- `independentCorroboration` gate. -/
def corroborationBound (ids : List String) : Prop :=
  ∃ path ∈ affectedPath request h,
    let monitoring := (positiveCitations request ids).filter fun c => c.family ≠ .resourceChange
    (∀ c ∈ monitoring, ∀ o ∈ request.observation? c.evidenceId,
      relevantCorroboration request h path c o) ∧
    2 ≤ (monitoring.map CorrelationEvidenceCitation.family).dedup.length ∧
    2 ≤ (monitoring.map CorrelationEvidenceCitation.provenanceRootDigest).dedup.length

/-- `correctChronology` gate. -/
def chronologyBound (ids : List String) : Prop :=
  ∃ i, ids = [i] ∧ ∃ a ∈ request.change? i, h.candidateCausalAt = some a.evidence.occurredAt ∧
    a.evidence.occurredAt ≤ request.incidentStart ∧ onCause h a.evidence

/-- The observation reports a recovered guest or endpoint. -/
def reportsRecovery : MonitoringObservation → Bool
  | .guestSignal o => o.state == .recovered
  | .endpointHealth o => o.status == .recovered
  | _ => false

/-- The check of one satisfied gate. -/
def gateBound (g : CorrelationGate) : Prop :=
  match g.code with
  | .affectedPath => affectedPathBound request h g.evidenceIds
  | .successfulChange => successfulChangeBound request h g.evidenceIds
  | .semanticMatch => semanticMatchBound request h g.evidenceIds
  | .effectiveRuleAttribution => attributionBound request h g.evidenceIds
  | .matchingDeniedFlow => deniedFlowBound request h g.evidenceIds
  | .connectionMonitorFailure => monitorFailureBound request h g.evidenceIds
  | .endpointDegradation => endpointDegradationBound request h g.evidenceIds
  | .independentCorroboration => corroborationBound request h g.evidenceIds
  | .correctChronology => chronologyBound request h g.evidenceIds
  | .recoveryEvidence => ∃ o ∈ citedObservations request g.evidenceIds, reportsRecovery o
  | .noHardConflict => True

/-- Attribution and denial of a network change use one exact flow. -/
def exactMatchingFlow : Prop :=
  ∀ attributed ∈ gateIds h .effectiveRuleAttribution, ∀ denied ∈ gateIds h .matchingDeniedFlow,
    ∃ i ∈ attributed, i ∈ denied ∧ ∃ f, request.observation? i = some (.networkFlow f) ∧
      attributedFlow request h f ∧ f.decision = .denied

/-- The caps which the contract requires of every hypothesis. -/
structure CapsRequired : Prop where
  recentChangeOnly :
    ((h.supportingEvidence.filter fun c => (request.coverage? c.evidenceId).isNone) ≠ [] ∧
      ∀ c ∈ h.supportingEvidence, (request.coverage? c.evidenceId).isNone →
        c.family = .resourceChange) → requireCap h .recentChangeOnly
  missingAffectedPath : h.affectedPathId = none ∨ gateIds h .affectedPath = none →
    requireCap h .missingAffectedPath
  missingIndependentSupport : gateIds h .independentCorroboration = none →
    requireCap h .missingIndependentSupport
  missingDirectAttribution : h.category = .networkSecurityChange →
    gateIds h .effectiveRuleAttribution = none → requireCap h .missingDirectAttribution

/-- The change which a high network security confidence must name. -/
def highChange (a : ChangeEvidenceArtifact) : Prop :=
  a.evidence.result = .succeeded ∧ h.causeResourceId = some a.evidence.targetResourceId ∧
    a.evidence.isSecurityRule ∧ a.evidence.causal ∧
    h.candidateCausalAt = some a.evidence.occurredAt ∧
    a.evidence.occurredAt ≤ request.incidentStart

/-- A denied flow attributed to exactly this change. -/
def attributedTo (a : ChangeEvidenceArtifact) (f : NetworkFlowObservation) : Prop :=
  f.effectiveRuleAttribution = true ∧ f.decision = .denied ∧
    f.ruleResourceId = h.causeResourceId ∧ h.affectedPathId = some f.pathId ∧
    overlaps request f.toObservationBase ∧
    f.matchedChangeEvidenceId = some a.evidence.evidenceId ∧
    f.matchedChangeKey = some a.evidence.changeKey ∧
    f.matchedChangeArtifactDigest = some a.artifactDigest ∧
    ∀ p ∈ f.matchedPropertyPaths, p ∈ a.evidence.changedProperties.map ChangedProperty.path

/-- The one change cited by the three change gates. -/
def exactChange (a : ChangeEvidenceArtifact) : Prop :=
  ∃ i, request.change? i = some a ∧ gateIds h .successfulChange = some [i] ∧
    gateIds h .semanticMatch = some [i] ∧ gateIds h .correctChronology = some [i]

/-- Requirements of a high or confirmed network security change. -/
structure HighRequirements : Prop where
  gates : ∀ code ∈ [CorrelationGateCode.affectedPath, .matchingDeniedFlow,
    .independentCorroboration, .successfulChange, .semanticMatch, .correctChronology],
    (gateIds h code).isSome
  change : ∃ a, exactChange request h a ∧ highChange request h a ∧
    ∀ attributed ∈ gateIds h .effectiveRuleAttribution, ∃ i ∈ attributed,
      (∃ denied ∈ gateIds h .matchingDeniedFlow, i ∈ denied) ∧
      ∃ f, request.observation? i = some (.networkFlow f) ∧ attributedTo request h a f

/-- A satisfied chronology gate caps evidence that precedes its change. -/
def chronologyCapped : Prop :=
  ∀ ids ∈ gateIds h .correctChronology, ∀ i ∈ ids.head?, ∀ a ∈ request.change? i,
    (∃ g ∈ h.gates, g.satisfied ∧ ∃ o ∈ citedObservations request g.evidenceIds,
      o.base.observedStart < a.evidence.occurredAt) → requireCap h .ambiguousObservationWindow

/-- `claimed_flows`: overlapping flows cited by the denied-flow gate. -/
def contractClaimedFlows : List NetworkFlowObservation :=
  (networkFlows (citedObservations request ((gateIds h .matchingDeniedFlow).getD []))).filter
    fun f => overlaps request f.toObservationBase

/-- `claimed_failed_tests`. -/
def contractClaimedTests : List ConnectionMonitorObservation :=
  (connectionMonitors (citedObservations request
    ((gateIds h .connectionMonitorFailure).getD []))).filter fun m =>
      m.status = .failed ∧ h.affectedPathId = some m.pathId ∧ overlaps request m.toObservationBase

/-- `_flow_coverage_matches`. -/
def flowCoverageMatches (c : EvidenceCoverage) (f : NetworkFlowObservation) : Prop :=
  h.affectedPathId = c.scope.pathId ∧ flowScopeMatches c f ∧ spansIncident request c ∧
    spansObservation c f.toObservationBase ∧ overlaps request f.toObservationBase

/-- `_monitor_coverage_matches`. -/
def monitorCoverageMatches (c : EvidenceCoverage) (m : ConnectionMonitorObservation) : Prop :=
  h.affectedPathId = c.scope.pathId ∧ monitorScopeMatches c m ∧ spansIncident request c ∧
    spansObservation c m.toObservationBase ∧ overlaps request m.toObservationBase

/-- `candidate_changes`: changes cited as support on the cause, and changes
which a claimed flow is attributed to. -/
def candidateChanges : List NormalizedChangeEvidence :=
  (request.changeArtifacts.filter fun a =>
    (∃ c ∈ h.supportingEvidence, c.family = .resourceChange ∧
      c.evidenceId = a.evidence.evidenceId ∧
      ∀ r ∈ h.causeResourceId, a.evidence.targetResourceId = r) ∨
    ∃ f ∈ contractClaimedFlows request h,
      f.matchedChangeEvidenceId = some a.evidence.evidenceId).map
    ChangeEvidenceArtifact.evidence

instance (c : EvidenceCoverage) (f : NetworkFlowObservation) :
    Decidable (flowCoverageMatches request h c f) := by
  unfold flowCoverageMatches
  infer_instance

instance (c : EvidenceCoverage) (m : ConnectionMonitorObservation) :
    Decidable (monitorCoverageMatches request h c m) := by
  unfold monitorCoverageMatches
  infer_instance

/-- `mandatory_hard_conflicts`. -/
def mandatoryHardConflict : ContradictionCode → Prop
  | .changeFailed => ∃ c ∈ candidateChanges request h, c.result = .failed
  | .changeAfterDegradation => ∃ c ∈ candidateChanges request h,
      request.incidentStart < c.occurredAt
  | .completeAllowedFlow => ∃ f ∈ networkFlows request.observations, f.decision = .allowed ∧
      (∃ d ∈ contractClaimedFlows request h, sameFlow f d) ∧
      ∃ c ∈ request.coverage, flowCoverageMatches request h c f
  | .completeHealthyConnectionMonitor => ∃ t ∈ connectionMonitors request.observations,
      t.status = .succeeded ∧ (∃ m ∈ contractClaimedTests request h, sameMonitor t m) ∧
      ∃ c ∈ request.coverage, monitorCoverageMatches request h c t
  | _ => False

instance (code : ContradictionCode) : Decidable (mandatoryHardConflict request h code) := by
  cases code <;> unfold mandatoryHardConflict <;> infer_instance

/-- The check of one declared contradiction. -/
def contradictionBound (k : CorrelationContradiction) : Prop :=
  match k.code with
  | .changeFailed => citedChanges request k.evidenceIds ≠ [] ∧
      ∀ c ∈ citedChanges request k.evidenceIds, c.result = .failed ∧ onCause h c
  | .changeAfterDegradation => citedChanges request k.evidenceIds ≠ [] ∧
      ∀ c ∈ citedChanges request k.evidenceIds,
        request.incidentStart < c.occurredAt ∧ onCause h c
  | .completeAllowedFlow => ∃ c ∈ citedCoverage request k.evidenceIds,
      ∃ f, .networkFlow f ∈ citedObservations request k.evidenceIds ∧ f.decision = .allowed ∧
        (∃ d ∈ contractClaimedFlows request h, sameFlow f d) ∧ flowCoverageMatches request h c f
  | .completeHealthyConnectionMonitor => ∃ c ∈ citedCoverage request k.evidenceIds,
      ∃ t, .connectionMonitor t ∈ citedObservations request k.evidenceIds ∧
        t.status = .succeeded ∧ (∃ m ∈ contractClaimedTests request h, sameMonitor t m) ∧
        monitorCoverageMatches request h c t
  | .recoveryBeforeCorrection => ∃ o ∈ citedObservations request k.evidenceIds,
      reportsRecovery o ∧ ∃ c ∈ citedChanges request k.evidenceIds, c.result = .succeeded ∧
        o.base.observedEnd < c.occurredAt
  | .competingCause => True

/-- A flow that carries a confirmed cause. -/
def validFlow (a : ChangeEvidenceArtifact) (path : DependencyPath) (f : NetworkFlowObservation) :
    Prop :=
  attributedTo request h a f ∧
    {f.sourceResourceId, f.destinationResourceId, f.enforcementResourceId} ⊆ path.resourceIds ∧
    a.evidence.occurredAt ≤ f.observedStart ∧
    ∃ c ∈ request.coverage, flowCoverageMatches request h c f

/-- A failed test that carries a confirmed cause. -/
def validTest (a : ChangeEvidenceArtifact) (path : DependencyPath)
    (m : ConnectionMonitorObservation) : Prop :=
  m.status = .failed ∧ h.affectedPathId = some m.pathId ∧
    {m.sourceResourceId, m.destinationResourceId} ⊆ path.resourceIds ∧
    a.evidence.occurredAt ≤ m.observedStart ∧ overlaps request m.toObservationBase ∧
    ∃ c ∈ request.coverage, monitorCoverageMatches request h c m

/-- A degraded endpoint that carries a confirmed cause. -/
def validEndpoint (a : ChangeEvidenceArtifact) (path : DependencyPath)
    (e : EndpointHealthObservation) : Prop :=
  e.status.adverse ∧ h.affectedPathId = some e.pathId ∧
    e.subjectResourceId ∈ path.resourceIds ∧ a.evidence.occurredAt ≤ e.observedStart ∧
    overlaps request e.toObservationBase ∧
    ∃ c ∈ request.coverage, c.family = .endpointHealth ∧ c.status = .complete ∧
      c.scope.pathId = some e.pathId ∧ e.subjectResourceId ∈ c.scope.resourceIds ∧
      spansIncident request c

instance (o : ObservationBase) : Decidable (overlaps request o) := by
  unfold overlaps
  infer_instance

instance (a : ChangeEvidenceArtifact) (f : NetworkFlowObservation) :
    Decidable (attributedTo request h a f) := by
  unfold attributedTo
  infer_instance

instance (a : ChangeEvidenceArtifact) (path : DependencyPath) (f : NetworkFlowObservation) :
    Decidable (validFlow request h a path f) := by
  unfold validFlow
  infer_instance

instance (a : ChangeEvidenceArtifact) (path : DependencyPath) (m : ConnectionMonitorObservation) :
    Decidable (validTest request h a path m) := by
  unfold validTest
  infer_instance

instance (a : ChangeEvidenceArtifact) (path : DependencyPath) (e : EndpointHealthObservation) :
    Decidable (validEndpoint request h a path e) := by
  unfold validEndpoint
  infer_instance

/-- Identifiers of a gate, none when it is absent or unsatisfied. -/
def gateIdList (code : CorrelationGateCode) : List String := (gateIds h code).getD []

/-- `valid_flow_ids`, as the flows themselves. -/
def confirmedFlows (a : ChangeEvidenceArtifact) (path : DependencyPath) :
    List NetworkFlowObservation :=
  (networkFlows (citedObservations request ((gateIdList h .effectiveRuleAttribution).filter
    fun i => i ∈ gateIdList h .matchingDeniedFlow))).filter fun f => validFlow request h a path f

/-- `valid_failed_test_ids`, as the tests themselves. -/
def confirmedTests (a : ChangeEvidenceArtifact) (path : DependencyPath) :
    List ConnectionMonitorObservation :=
  (connectionMonitors (citedObservations request
    (gateIdList h .connectionMonitorFailure))).filter fun m => validTest request h a path m ∧
      ∃ f ∈ confirmedFlows request h a path, sameNetworkTuple f m

/-- `valid_endpoint_ids`, as the endpoints themselves. -/
def confirmedEndpoints (a : ChangeEvidenceArtifact) (path : DependencyPath) :
    List EndpointHealthObservation :=
  (endpointObservations (citedObservations request
    (gateIdList h .endpointDegradation))).filter fun e => validEndpoint request h a path e

/-- `causal_corroboration`. -/
def causalCorroboration (a : ChangeEvidenceArtifact) (path : DependencyPath) :
    List CorrelationEvidenceCitation :=
  (positiveCitations request (gateIdList h .independentCorroboration)).filter fun c =>
    (∃ f ∈ confirmedFlows request h a path, f.observationId = c.evidenceId) ∨
      (∃ m ∈ confirmedTests request h a path, m.observationId = c.evidenceId) ∨
      ∃ e ∈ confirmedEndpoints request h a path, e.observationId = c.evidenceId

/-- Requirements of a confirmed network security change: one change, and
flows, tests and endpoints which corroborate it independently. -/
def ConfirmedRequirements : Prop :=
  ∃ a, exactChange request h a ∧ highChange request h a ∧ ∃ path ∈ affectedPath request h,
    3 ≤ ((causalCorroboration request h a path).map
      CorrelationEvidenceCitation.family).dedup.length ∧
    3 ≤ ((causalCorroboration request h a path).map
      CorrelationEvidenceCitation.provenanceRootDigest).dedup.length ∧
    (∃ f ∈ confirmedFlows request h a path,
      f.observationId ∈ gateIdList h .independentCorroboration) ∧
    (∃ m ∈ confirmedTests request h a path,
      m.observationId ∈ gateIdList h .independentCorroboration) ∧
    ∃ e ∈ confirmedEndpoints request h a path,
      e.observationId ∈ gateIdList h .independentCorroboration

/-- The body of `validate_correlation_report_binding` for one hypothesis. -/
structure HypothesisBound : Prop where
  path : ∀ p ∈ h.affectedPathId, ∃ path ∈ request.path? p,
    request.affectedResourceId ∈ path.resourceIds
  support : ∀ c ∈ h.supportingEvidence, request.evidence? c.evidenceId = some c
  gateReferences : ∀ g ∈ h.gates, ∀ i ∈ g.evidenceIds, (request.evidence? i).isSome
  contradictionReferences : ∀ k ∈ h.contradictions, ∀ i ∈ k.evidenceIds,
    (request.evidence? i).isSome
  declaredConflict : (gateIds h .noHardConflict).isSome →
    ∀ k ∈ h.contradictions, k.hardConflict = false
  cited : ∀ g ∈ h.gates, g.satisfied → g.code ≠ .noHardConflict → g.evidenceIds ≠ []
  gates : ∀ g ∈ h.gates, g.satisfied → gateBound request h g
  exactFlow : h.category = .networkSecurityChange → exactMatchingFlow request h
  missing : ∀ m ∈ h.missingEvidence, h.confidence.rank < m.requiredForConfidence.rank
  caps : CapsRequired request h
  high : h.category = .networkSecurityChange → ConfidenceLevel.high.rank ≤ h.confidence.rank →
    HighRequirements request h
  chronology : chronologyCapped request h
  mandatory : ∀ code, mandatoryHardConflict request h code → ∃ k ∈ h.contradictions, k.code = code
  mandatoryGate : (gateIds h .noHardConflict).isSome →
    ∀ code, ¬ mandatoryHardConflict request h code
  contradictions : ∀ k ∈ h.contradictions, contradictionBound request h k
  confirmed : h.confidence = .confirmed → h.category = .networkSecurityChange ∧
    ConfirmedRequirements request h

/-- `CorrelationReport`; its digest and identifier are functions of it. -/
structure CorrelationReport where
  requestDigest : Digest
  transitionDigest : Digest
  contextBindingDigest : Digest
  inputInventoryDigest : Digest
  ruleCatalogDigest : Digest
  asOf : UtcDateTime
  bindingMode : BindingMode
  previewOnly : Bool
  incidentAnchorObservedStart : UtcDateTime
  incidentAnchorObservedEnd : UtcDateTime
  hypotheses : List RootCauseHypothesis

/-- Field checks and `CorrelationReport.validate_report`, byte budget aside. -/
structure ReportValid (sha : HypothesisDigest) (r : CorrelationReport) : Prop where
  interval : r.incidentAnchorObservedStart ≤ r.incidentAnchorObservedEnd
  preview : r.previewOnly = (r.bindingMode == .draftPreview)
  count : 1 ≤ r.hypotheses.length ∧ r.hypotheses.length ≤ maximumHypotheses
  hypotheses : ∀ h ∈ r.hypotheses, HypothesisValid h
  ranks : r.hypotheses.map RootCauseHypothesis.rank = List.range' 1 r.hypotheses.length
  distinct : (r.hypotheses.map sha.digest).Nodup
  omission : ∀ h ∈ r.hypotheses, h.omittedCandidateCount.isSome →
    2 ≤ r.hypotheses.length ∧ h.rank = r.hypotheses.length
  causalTime : ∀ h ∈ r.hypotheses, ∀ t ∈ h.candidateCausalAt, t ≤ r.incidentAnchorObservedStart

/-- `validate_correlation_report_binding`. -/
structure ReportBound (r : CorrelationReport) : Prop where
  requestDigest : r.requestDigest = request.requestDigest
  transitionDigest : r.transitionDigest = request.transitionDigest
  contextBindingDigest : r.contextBindingDigest = request.contextBinding.bindingDigest
  inputInventoryDigest : r.inputInventoryDigest = request.inventoryDigest
  ruleCatalogDigest : r.ruleCatalogDigest = request.ruleCatalogDigest
  asOf : r.asOf = request.trustedAsOf
  bindingMode : r.bindingMode = request.contextBinding.bindingMode
  preview : r.previewOnly = (request.contextBinding.bindingMode == .draftPreview)
  anchor : r.incidentAnchorObservedStart = request.incidentStart ∧
    r.incidentAnchorObservedEnd = request.incidentEnd
  hypotheses : ∀ h ∈ r.hypotheses, HypothesisBound request h

end AthenaContext.CorrelationContract
