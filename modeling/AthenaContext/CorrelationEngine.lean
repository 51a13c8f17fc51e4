import AthenaContext.CorrelationMatching

/-!
# Hypotheses of the correlation engine

The chain search of a network security change, the five hypothesis builders
and `_compute_hypotheses`. Each builder is cut at the source's own stages
(selection, support, gates, contradictions, missing evidence, caps), so that
a later property of one stage never unfolds another. The digest of a
hypothesis is a parameter: it ignores the rank and is injective on the rest.
-/

namespace AthenaContext.CorrelationEngine

open OrdinalCollections CorrelationRules CorrelationEvidence CorrelationEnvelope
  CorrelationMatching

/-- `CorrelationGate`. -/
structure CorrelationGate where
  code : CorrelationGateCode
  satisfied : Bool
  evidenceIds : List String
  deriving DecidableEq

/-- A rendered detail. A digest inside it is kept apart from the text, since
its rendering has the fixed length of 71 characters. -/
structure Detail where
  text : String
  digest : Option Digest
  deriving DecidableEq

/-- Length of the rendered detail. -/
def Detail.length (d : Detail) : ℕ := d.text.length + if d.digest.isSome then 71 else 0

/-- `CorrelationContradiction`. -/
structure CorrelationContradiction where
  code : ContradictionCode
  detail : Detail
  evidenceIds : List String
  hardConflict : Bool
  deriving DecidableEq

/-- `MissingCorrelationEvidence`. -/
structure MissingCorrelationEvidence where
  code : MissingEvidenceCode
  family : EvidenceFamily
  detail : Detail
  requiredForConfidence : ConfidenceLevel
  deriving DecidableEq

/-- `RootCauseHypothesis`; its digest and identifier are functions of it. -/
structure RootCauseHypothesis where
  rank : ℕ
  category : RootCauseCategory
  causeResourceId : Option ResourceId
  affectedPathId : Option String
  candidateCausalAt : Option UtcDateTime
  score : CorrelationScoreComponents
  confidence : ConfidenceLevel
  supportingEvidence : List CorrelationEvidenceCitation
  contradictions : List CorrelationContradiction
  missingEvidence : List MissingCorrelationEvidence
  omittedCandidateCount : Option ℕ
  omittedCandidateDigest : Option Digest
  gates : List CorrelationGate
  caps : List ConfidenceCap
  deriving DecidableEq

/-- The hypothesis digest: blind to the rank, injective on everything else. -/
structure HypothesisDigest where
  digest : RootCauseHypothesis → Digest
  rank_blind : ∀ h n, digest { h with rank := n } = digest h
  injective : ∀ h h', digest h = digest h' → { h with rank := 1 } = { h' with rank := 1 }

/-- `_gate`. -/
def gate (code : CorrelationGateCode) (citation : CorrelationEvidenceCitation) : CorrelationGate :=
  ⟨code, true, [citation.evidenceId]⟩

/-- `_missing`. -/
def missing (code : MissingEvidenceCode) (family : EvidenceFamily) (detail : String)
    (required : ConfidenceLevel) : MissingCorrelationEvidence :=
  ⟨code, family, ⟨detail, none⟩, required⟩

/-- `_contradiction`. -/
def contradiction (code : ContradictionCode) (detail : Detail)
    (citations : List CorrelationEvidenceCitation) : CorrelationContradiction :=
  ⟨code, detail, sortOn id (citations.map CorrelationEvidenceCitation.evidenceId), code.hard⟩

/-- Sorting key of a contradiction. -/
def contradictionKey (c : CorrelationContradiction) : String ×ₗ List String ×ₗ String ×ₗ Bool :=
  toLex (c.code.text, toLex (c.evidenceIds, toLex (c.detail.text, c.hardConflict)))

/-- Sorting key of a missing-evidence entry. -/
def missingKey (m : MissingCorrelationEvidence) : String ×ₗ String ×ₗ String ×ₗ ℕ :=
  toLex (m.code.text, toLex (m.family.text, toLex (m.detail.text, m.requiredForConfidence.rank)))

/-- The strongest cap of each code, in order of first appearance. -/
def strongestCaps (caps : List ConfidenceCap) : List ConfidenceCap :=
  caps.foldl (fun kept c =>
    match kept.find? (fun k => k.code == c.code) with
    | none => kept ++ [c]
    | some current =>
      if c.maximumConfidence.rank < current.maximumConfidence.rank then
        dictInsert (fun k : ConfidenceCap => k.code.text) kept c
      else kept) []

/-- What a builder hands to `_make_hypothesis`. -/
structure HypothesisDraft where
  category : RootCauseCategory
  causeResourceId : Option ResourceId
  pathId : Option String
  candidateCausalAt : Option UtcDateTime
  score : CorrelationScoreComponents
  confidence : ConfidenceLevel
  support : List CorrelationEvidenceCitation
  contradictions : List CorrelationContradiction
  missing : List MissingCorrelationEvidence
  gates : List CorrelationGate
  caps : List ConfidenceCap
  omittedCandidateCount : Option ℕ := none
  omittedCandidateDigest : Option Digest := none

/-- `_make_hypothesis`, up to the contract validation of its result. -/
def makeHypothesis (d : HypothesisDraft) : RootCauseHypothesis where
  rank := 1
  category := d.category
  causeResourceId := d.causeResourceId
  affectedPathId := d.pathId
  candidateCausalAt := d.candidateCausalAt
  score := d.score
  confidence := d.confidence
  supportingEvidence := canonicalTuple CorrelationEvidenceCitation.evidenceId d.support
  contradictions := sortOn contradictionKey d.contradictions
  missingEvidence := sortOn missingKey d.missing
  omittedCandidateCount := d.omittedCandidateCount
  omittedCandidateDigest := d.omittedCandidateDigest
  gates := canonicalTuple (fun g => g.code.text) d.gates
  caps := sortOn (fun c => c.code.text) (strongestCaps d.caps)

variable (request : CorrelationRequest)

/-! ## Network security changes -/

/-- The evidence chain selected for one network security change. -/
structure NsgChain where
  flow : Option NetworkFlowObservation
  monitor : Option ConnectionMonitorObservation
  endpoint : Option EndpointHealthObservation
  path : Option DependencyPath

/-- Citations of a chain's flow, connection test and endpoint. -/
def NsgChain.citations (chain : NsgChain) : List CorrelationEvidenceCitation :=
  (chain.flow.map (flowCitation request)).toList ++
    (chain.monitor.map (monitorCitation request)).toList ++
    (chain.endpoint.map (endpointCitation request)).toList

/-- Common fields of a chain's observations. -/
def NsgChain.observations (chain : NsgChain) : List ObservationBase :=
  (chain.flow.map fun f => f.toObservationBase).toList ++
    (chain.monitor.map fun m => m.toObservationBase).toList ++
    (chain.endpoint.map fun e => e.toObservationBase).toList

/-- A condition as a leading sort component: met sorts before unmet. -/
def met (condition : Bool) : ℕ := if condition then 0 else 1

/-- Monitors of a flow, best first, one for each provenance root. -/
def monitorOptions (a : ChangeEvidenceArtifact) (f : NetworkFlowObservation) :
    List (Option ConnectionMonitorObservation) :=
  let ranked := sortOn (fun m : ConnectionMonitorObservation =>
    toLex (met (!chainHasHardConflict request f (some m)),
      toLex (met (decide (a.evidence.occurredAt ≤ m.observedStart)),
        toLex (met (matchingMonitorCoverage request m).isSome,
          toLex (request.incidentStart - m.observedStart, m.observationId)))))
    (matchingFailedMonitors request f)
  match firstOfKey (fun m => m.provenanceRootDigest) ranked with
  | [] => [none]
  | best => best.map some

/-- Degraded endpoints of a flow, best first, one for each provenance root. -/
def endpointRoots (a : ChangeEvidenceArtifact) (f : NetworkFlowObservation)
    (path : Option DependencyPath) : List EndpointHealthObservation :=
  firstOfKey (fun e => e.provenanceRootDigest)
    (sortOn (fun e : EndpointHealthObservation =>
      toLex (met (decide (a.evidence.occurredAt ≤ e.observedStart)),
        toLex (met (matchingEndpointCoverage request e).isSome,
          toLex (request.incidentStart - e.observedStart, e.observationId))))
      (path.elim [] fun p => matchingDegradedEndpoints request f.destinationResourceId p))

/-- Endpoints tried with a flow and a monitor: none, the best one, those that
share a root with the flow or the monitor, and the best that does not. -/
def endpointOptions (roots : List EndpointHealthObservation) (f : NetworkFlowObservation)
    (monitor : Option ConnectionMonitorObservation) : List (Option EndpointHealthObservation) :=
  let excluded (e : EndpointHealthObservation) : Bool :=
    e.provenanceRootDigest = f.provenanceRootDigest ∨
      ∃ m ∈ monitor, e.provenanceRootDigest = m.provenanceRootDigest
  none :: (roots.head?.toList ++ roots.filter excluded ++
    (roots.find? fun e => !excluded e).toList).map some

/-- The chains which the search compares, in loop order. -/
def chainCandidates (a : ChangeEvidenceArtifact) (flows : List NetworkFlowObservation) :
    List NsgChain :=
  (sortOn (fun f : NetworkFlowObservation => f.observationId) flows).flatMap fun f =>
    let path := request.path? f.pathId
    (monitorOptions request a f).flatMap fun m =>
      (endpointOptions (endpointRoots request a f path) f m).map fun e =>
        ⟨some f, m, e, path⟩

/-- Chronology of a chain: nothing in it starts before the change. -/
def NsgChain.chronologyValid (chain : NsgChain) (a : ChangeEvidenceArtifact) : Bool :=
  chain.observations.all fun o => a.evidence.occurredAt ≤ o.observedStart

/-- The chain's flow is attributed to the change. -/
def NsgChain.attributed (chain : NsgChain) (a : ChangeEvidenceArtifact) : Bool :=
  chain.flow.any fun f => flowBindsChange f a

/-- The chain's flow or connection test meets hard contrary evidence. -/
def NsgChain.hardConflict (chain : NsgChain) : Bool :=
  chain.flow.any fun f => chainHasHardConflict request f chain.monitor

/-- Rank key of a chain, smaller is better. -/
def NsgChain.rankKey (a : ChangeEvidenceArtifact) (chain : NsgChain) :
    ℕ ×ₗ ℕ ×ₗ ℕ ×ₗ ℕ ×ₗ ℤ ×ₗ ℕ ×ₗ String ×ₗ String ×ₗ String :=
  toLex (met (!chain.hardConflict request),
    toLex (met (chain.chronologyValid a),
      toLex (met (hasCompleteNsgCoverage request chain.flow chain.monitor chain.endpoint chain.path),
        toLex (met (chain.monitor.isSome && chain.endpoint.isSome),
          toLex (-((independentCitations (chain.citations request)).length : ℤ),
            toLex (met (chain.attributed a),
              toLex (chain.flow.elim "" (fun f => f.observationId),
                toLex (chain.monitor.elim "" (fun m => m.observationId),
                  chain.endpoint.elim "" (fun e => e.observationId)))))))))

/-- `_select_nsg_chain`: the first chain of least rank key, or the bare path. -/
def selectNsgChain (a : ChangeEvidenceArtifact) (flows : List NetworkFlowObservation) : NsgChain :=
  ((sortOn (NsgChain.rankKey request a) (chainCandidates request a flows)).head?).getD
    ⟨none, none, none,
      pathForResources request request.affectedResourceId a.evidence.targetResourceId⟩

/-- Concurrent flows with the selected flow's chain key that the change is
attributed in, contradicted ones first. -/
def attributedCandidates (a : ChangeEvidenceArtifact) (denied : Option NetworkFlowObservation) :
    List NetworkFlowObservation :=
  sortOn (fun f : NetworkFlowObservation =>
      toLex (met (chainHasHardConflict request f none), f.observationId))
    ((networkFlows request.observations).filter fun f =>
      concurrent request f.toObservationBase ∧ flowBindsChange f a ∧
        ∃ d ∈ denied, nsgChainKey f = nsgChainKey d)

/-- `claimed_flows`: the selected flow and the attributed ones, up to the
number of identifiers a gate may hold. -/
def claimedFlows (a : ChangeEvidenceArtifact) (denied : Option NetworkFlowObservation) :
    List NetworkFlowObservation :=
  (attributedCandidates request a denied).foldl (fun claimed f =>
    if maximumGateEvidenceIds ≤ claimed.length then claimed
    else if claimed.any (fun c => c.observationId = f.observationId) then claimed
    else claimed ++ [f]) denied.toList

/-- Sum of the weights of citations whose provenance root is new. -/
def distinctRootScore : List (CorrelationEvidenceCitation × ℕ) → List Digest → ℕ
  | [], _ => 0
  | (c, weight) :: rest, used =>
    if c.provenanceRootDigest ∈ used then distinctRootScore rest used
    else weight + distinctRootScore rest (c.provenanceRootDigest :: used)

/-- Score of `_nsg_corroboration`; its support is the chain's citations. -/
def nsgCorroboration (chain : NsgChain) : ℕ :=
  min 25 (distinctRootScore
    ((chain.flow.map fun f => (flowCitation request f, 10)).toList ++
      (chain.monitor.map fun m => (monitorCitation request m, 8)).toList ++
      (chain.endpoint.map fun e => (endpointCitation request e, 7)).toList) [])

/-- JSON array of the identifier pairs which an omitted-set digest covers. -/
def pairsText (pairs : List (String × String)) : String :=
  "[" ++ ",".intercalate (pairs.map fun p => "[\"" ++ p.1 ++ "\",\"" ++ p.2 ++ "\"]") ++ "]"

/-- Complete allowed flows on a claimed chain, with their coverage. -/
def allowedMatches (claimed : List NetworkFlowObservation) :
    List (EvidenceCoverage × NetworkFlowObservation) :=
  sortOn (fun m : EvidenceCoverage × NetworkFlowObservation =>
      toLex (m.2.observationId, m.1.coverageId))
    ((networkFlows request.observations).filterMap fun f =>
      if f.decision = .allowed ∧ (∃ d ∈ claimed, nsgChainKey f = nsgChainKey d) ∧
          request.overlapsIncident f.toObservationBase then
        (matchingFlowCoverage request f).map fun c => (c, f)
      else none)

/-- Complete healthy tests of a claimed connection monitor, with their coverage. -/
def healthyMatches (claimed : List ConnectionMonitorObservation) :
    List (EvidenceCoverage × ConnectionMonitorObservation) :=
  sortOn (fun m : EvidenceCoverage × ConnectionMonitorObservation =>
      toLex (m.2.observationId, m.1.coverageId))
    ((connectionMonitors request.observations).filterMap fun t =>
      if t.status = .succeeded ∧ (∃ m ∈ claimed, sameMonitor t m) ∧
          request.overlapsIncident t.toObservationBase then
        (matchingMonitorCoverage request t).map fun c => (c, t)
      else none)

/-- `_network_observation_contradictions`. -/
def networkObservationContradictions (flows : List NetworkFlowObservation)
    (monitors : List ConnectionMonitorObservation) : List CorrelationContradiction :=
  (match allowedMatches request flows with
    | [] => []
    | (c, f) :: rest =>
      [contradiction .completeAllowedFlow
        ⟨"Complete incident-window evidence contains " ++ toString (rest.length + 1) ++
            " exact allowed flow record(s); evidence-set digest .",
          some (sha256Hex (pairsText ((allowedMatches request flows).map fun m =>
            (m.1.coverageId, m.2.observationId))))⟩
        [request.coverageCitation c, flowCitation request f]]) ++
  (match healthyMatches request monitors with
    | [] => []
    | (c, t) :: rest =>
      [contradiction .completeHealthyConnectionMonitor
        ⟨"Complete incident-window monitoring contains " ++ toString (rest.length + 1) ++
            " exact healthy test record(s); evidence-set digest .",
          some (sha256Hex (pairsText ((healthyMatches request monitors).map fun m =>
            (m.1.coverageId, m.2.observationId))))⟩
        [request.coverageCitation c, monitorCitation request t]])

/-- Contradictions drawn from the change itself. -/
def changeContradictions (a : ChangeEvidenceArtifact) (failed late : String) :
    List CorrelationContradiction :=
  (if a.evidence.result = .failed then
    [contradiction .changeFailed ⟨failed, none⟩ [changeCitation a]] else []) ++
  (if request.incidentStart < a.evidence.occurredAt then
    [contradiction .changeAfterDegradation ⟨late, none⟩ [changeCitation a]] else [])

/-- `_network_contradictions`. -/
def networkContradictions (a : ChangeEvidenceArtifact) (flows : List NetworkFlowObservation)
    (monitor : Option ConnectionMonitorObservation) : List CorrelationContradiction :=
  changeContradictions request a "The candidate NSG change did not succeed."
      "The candidate NSG change occurred after degradation began." ++
    networkObservationContradictions request flows monitor.toList

/-- Some contradiction is a hard conflict. -/
def hasHardConflict (contradictions : List CorrelationContradiction) : Bool :=
  contradictions.any fun c => c.hardConflict

/-- The gate of the absence of hard conflicts. -/
def noHardConflictGate (contradictions : List CorrelationContradiction) : List CorrelationGate :=
  if hasHardConflict contradictions then [] else [⟨.noHardConflict, true, []⟩]

/-- A gate for a piece of evidence, when it is there. -/
def optionalGate (code : CorrelationGateCode) (citation : Option CorrelationEvidenceCitation) :
    List CorrelationGate :=
  (citation.map (gate code)).toList

/-- A gate guarded by a condition. -/
def guardedGate (condition : Bool) (g : CorrelationGate) : List CorrelationGate :=
  if condition then [g] else []

/-- Citation of the observation that shows the affected path. -/
def NsgChain.pathObservation (chain : NsgChain) : Option CorrelationEvidenceCitation :=
  chain.path.bind fun _ =>
    (chain.endpoint.map (endpointCitation request)).or
      ((chain.flow.map (flowCitation request)).or (chain.monitor.map (monitorCitation request)))

/-- Everything `_network_security_hypothesis` derives from change and chain. -/
structure NsgAssessment where
  chain : NsgChain
  claimed : List NetworkFlowObservation
  semanticMatch : Bool
  attributedFlow : Option NetworkFlowObservation
  recovery : RecoveryAssessment
  contradictions : List CorrelationContradiction

/-- Selection, claimed flows, recovery and contradictions of a change. -/
def assessNsg (a : ChangeEvidenceArtifact) (flows : List NetworkFlowObservation) : NsgAssessment :=
  let chain := selectNsgChain request a flows
  let claimed := claimedFlows request a chain.flow
  let semanticMatch := a.evidence.changedProperties.any fun p => isNsgProperty p.path
  { chain, claimed, semanticMatch
    attributedFlow := chain.flow.filter fun f => flowBindsChange f a
    recovery :=
      if semanticMatch then
        recoveryAssessment request a.evidence.targetResourceId (some a)
          (chain.endpoint.map MonitoringObservation.endpointHealth)
      else noRecovery
    contradictions := networkContradictions request a claimed chain.monitor }

/-- Independent citations of the selected chain. -/
def NsgAssessment.independent (s : NsgAssessment) : List CorrelationEvidenceCitation :=
  independentCitations (s.chain.citations request)

/-- Supporting citations before recovery evidence. -/
def NsgAssessment.causalSupport (s : NsgAssessment) (a : ChangeEvidenceArtifact) :
    List CorrelationEvidenceCitation :=
  changeCitation a :: (s.claimed.map (flowCitation request) ++
    (s.chain.monitor.map (monitorCitation request)).toList ++
    (s.chain.endpoint.map (endpointCitation request)).toList)

/-- Score components with a given recovery score. -/
def NsgAssessment.score (s : NsgAssessment) (a : ChangeEvidenceArtifact) (recovery : ℕ) :
    CorrelationScoreComponents :=
  CorrelationRules.score
    (topologyScore s.chain.path a.evidence.targetResourceId request.affectedResourceId)
    (temporalScore a.evidence.occurredAt request.incidentStart)
    (if s.attributedFlow.isSome then 20 else if s.semanticMatch then 14 else 0)
    (nsgCorroboration request s.chain) recovery

/-- Gates before the recovery gate. -/
def NsgAssessment.gates (s : NsgAssessment) (a : ChangeEvidenceArtifact) : List CorrelationGate :=
  let change := changeCitation a
  let independent := s.independent request
  guardedGate (a.evidence.result = .succeeded) (gate .successfulChange change) ++
    optionalGate .affectedPath (s.chain.pathObservation request) ++
    guardedGate s.semanticMatch (gate .semanticMatch change) ++
    guardedGate (s.claimed ≠ []) ⟨.matchingDeniedFlow, true,
      sortOn id (s.claimed.map fun f => f.observationId)⟩ ++
    optionalGate .effectiveRuleAttribution (s.attributedFlow.map (flowCitation request)) ++
    optionalGate .connectionMonitorFailure (s.chain.monitor.map (monitorCitation request)) ++
    optionalGate .endpointDegradation (s.chain.endpoint.map (endpointCitation request)) ++
    guardedGate (2 ≤ independent.length ∧ (s.chain.pathObservation request).isSome)
      ⟨.independentCorroboration, true, independent.map CorrelationEvidenceCitation.evidenceId⟩ ++
    guardedGate (a.evidence.result = .succeeded ∧
        a.evidence.occurredAt ≤ request.incidentStart) (gate .correctChronology change) ++
    noHardConflictGate s.contradictions

/-- Missing evidence. -/
def NsgAssessment.missing (s : NsgAssessment) : List MissingCorrelationEvidence :=
  (if (s.chain.pathObservation request).isNone then
    [CorrelationEngine.missing .affectedPath .declaredContext
      "No governed dependency path binds the change to the incident resource." .medium] else []) ++
  (if s.attributedFlow.isNone then
    [CorrelationEngine.missing .effectiveRuleAttribution .networkFlow
      "No direct effective-rule or IP Flow Verify attribution is available." .confirmed] else []) ++
  (if s.chain.flow.isNone then
    [CorrelationEngine.missing .deniedFlow .networkFlow
      "No incident-overlapping denied flow matches the changed rule." .high] else []) ++
  (if s.chain.monitor.isNone then
    [CorrelationEngine.missing .connectionMonitorResult .connectionMonitor
      "No matching failed Connection Monitor result is available." .confirmed] else []) ++
  (if s.chain.endpoint.isNone then
    [CorrelationEngine.missing .endpointHealth .endpointHealth
      "No matching endpoint degradation is available." .confirmed] else []) ++
  (if hasCompleteNsgCoverage request s.chain.flow s.chain.monitor s.chain.endpoint
      s.chain.path then []
    else [CorrelationEngine.missing .completeObservationWindow .networkFlow
      "Complete path and test coverage is not available for the incident interval." .confirmed])

/-- Confidence caps. -/
def NsgAssessment.caps (s : NsgAssessment) (a : ChangeEvidenceArtifact) : List ConfidenceCap :=
  let support := s.causalSupport request a ++ s.recovery.support
  (if support.all (fun c => c.family = .resourceChange) then [cap .recentChangeOnly] else []) ++
  (if (s.chain.pathObservation request).isNone then [cap .missingAffectedPath] else []) ++
  (if (s.independent request).length < 2 ∨ (s.chain.pathObservation request).isNone then
    [cap .missingIndependentSupport] else []) ++
  (if s.attributedFlow.isNone then [⟨.missingDirectAttribution, .high⟩] else []) ++
  (if support.any (fun c => c.family ≠ .resourceChange ∧ c.observedStart < a.evidence.occurredAt)
    then [cap .ambiguousObservationWindow] else [])

/-- `confirmed`: every requirement of the top level, recovery points aside. -/
def NsgAssessment.confirmed (s : NsgAssessment) (a : ChangeEvidenceArtifact) : Bool :=
  ConfidenceLevel.confirmed.minimumScore ≤ (s.score request a 0).rawScore ∧
    a.evidence.result = .succeeded ∧ s.semanticMatch ∧ s.chain.path.isSome ∧
    (∃ f ∈ s.chain.flow, f.effectiveRuleAttribution = true) ∧ s.chain.monitor.isSome ∧
    s.chain.endpoint.isSome ∧ 3 ≤ (s.independent request).length ∧
    hasHardConflict s.contradictions = false ∧
    ∀ m ∈ s.missing request, m.requiredForConfidence ≠ .confirmed

/-- The recovery that counts: a confirmed cause gives its recovery up. -/
def NsgAssessment.countedRecovery (s : NsgAssessment) (a : ChangeEvidenceArtifact) :
    RecoveryAssessment :=
  if s.confirmed request a then noRecovery else s.recovery

/-- Support after a confirmed cause dropped its recovery citations. -/
def NsgAssessment.support (s : NsgAssessment) (a : ChangeEvidenceArtifact) :
    List CorrelationEvidenceCitation :=
  let support := s.causalSupport request a ++ s.recovery.support
  if s.confirmed request a then
    support.filter fun c => s.recovery.support.all fun r => r.evidenceId ≠ c.evidenceId
  else support

/-- Gates after a confirmed cause kept the required ones, or with recovery. -/
def NsgAssessment.finalGates (s : NsgAssessment) (a : ChangeEvidenceArtifact) :
    List CorrelationGate :=
  if s.confirmed request a then
    (s.gates request a).filter fun g => networkSecurityConfirmedGates.contains g.code
  else s.gates request a ++
    guardedGate (s.recovery.evidenceIds ≠ []) ⟨.recoveryEvidence, true, s.recovery.evidenceIds⟩

/-- Classified confidence. -/
def NsgAssessment.confidence (s : NsgAssessment) (a : ChangeEvidenceArtifact) : ConfidenceLevel :=
  classifyConfidence (s.score request a (s.countedRecovery request a).score).rawScore
    (s.caps request a) (hasHardConflict s.contradictions) (s.confirmed request a)

/-- `_network_security_hypothesis`. -/
def networkSecurityHypothesis (a : ChangeEvidenceArtifact) (flows : List NetworkFlowObservation) :
    RootCauseHypothesis :=
  let s := assessNsg request a flows
  makeHypothesis
    { category := .networkSecurityChange
      causeResourceId := some a.evidence.targetResourceId
      pathId := s.chain.path.map DependencyPath.pathId
      candidateCausalAt := some a.evidence.occurredAt
      score := s.score request a (s.countedRecovery request a).score
      confidence := s.confidence request a
      support := s.support request a
      contradictions := s.contradictions
      missing := s.missing request
      gates := s.finalGates request a
      caps := s.caps request a }

/-- Candidate flows on a governed path that reaches the incident resource. -/
def nsgGroupedFlows (a : ChangeEvidenceArtifact) : List NetworkFlowObservation :=
  (networkFlows request.observations).filter fun f =>
    nsgCandidateFlow request a f ∧
      ∃ p ∈ request.path? f.pathId, request.affectedResourceId ∈ p.resourceIds ∧
        (request.affectedResourceId = f.subjectResourceId ∨
          request.affectedResourceId = f.sourceResourceId ∨
          request.affectedResourceId = f.destinationResourceId ∨
          matchingDegradedEndpoints request f.destinationResourceId p ≠ [])

/-- The groups of candidate flows; without any, the change stands alone. -/
def nsgFlowGroups (a : ChangeEvidenceArtifact) : List (List NetworkFlowObservation) :=
  match groupsOn nsgChainKey (nsgGroupedFlows request a) with
  | [] => [[]]
  | groups => groups.map (sortOn fun f => f.observationId)

/-- `_network_security_hypotheses`. -/
def networkSecurityHypotheses (a : ChangeEvidenceArtifact) : List RootCauseHypothesis :=
  (nsgFlowGroups request a).map (networkSecurityHypothesis request a)

/-! ## Other changes -/

/-- Category of a change that is not on a network security rule. -/
def changeCategory (a : ChangeEvidenceArtifact) : RootCauseCategory :=
  if "routetables/routes".toList <:+: ("/".intercalate (resourceType
      a.evidence.targetResourceId)).toList then .routingChange
  else .deploymentChange

/-- Adverse observation citations relevant to a path, in index order. -/
def relevantMonitoring (path : Option DependencyPath) : List CorrelationEvidenceCitation :=
  request.evidenceIndex.filter fun c =>
    (∃ o ∈ request.observations, o.adverse ∧ o.base.observationId = c.evidenceId) ∧
      citationRelevant request c path

/-- Gate of a recovery, when one was assessed. -/
def recoveryGate (recovery : RecoveryAssessment) : List CorrelationGate :=
  guardedGate (recovery.evidenceIds ≠ []) ⟨.recoveryEvidence, true, recovery.evidenceIds⟩

/-- Gate of independent corroboration on a shown path. -/
def corroborationGate (independent : List CorrelationEvidenceCitation) (pathShown : Bool) :
    List CorrelationGate :=
  guardedGate (2 ≤ independent.length ∧ pathShown)
    ⟨.independentCorroboration, true, independent.map CorrelationEvidenceCitation.evidenceId⟩

/-- `_change_hypothesis`. Without a candidate observation the recovery
assessment is empty, so no recovery evidence enters. -/
def changeHypothesis (a : ChangeEvidenceArtifact) : RootCauseHypothesis :=
  let citation := changeCitation a
  let category := changeCategory a
  let path := pathForResources request request.affectedResourceId a.evidence.targetResourceId
  let monitoring := relevantMonitoring request path
  let contradictions := changeContradictions request a "The candidate change did not succeed."
    "The candidate change occurred after degradation began."
  let independent := independentCitations monitoring
  let semanticScore := changeSemanticScore a category
  let recovery := recoveryAssessment request a.evidence.targetResourceId (some a) none
  let score := CorrelationRules.score
    (topologyScore path a.evidence.targetResourceId request.affectedResourceId)
    (temporalScore a.evidence.occurredAt request.incidentStart) semanticScore
    (min 25 (8 * independent.length)) recovery.score
  let pathEvidence := firstPathCitation request monitoring path
  let hardConflict := hasHardConflict contradictions
  let caps :=
    (if monitoring = [] then [cap .recentChangeOnly] else []) ++
    (if pathEvidence.isNone then [cap .missingAffectedPath] else []) ++
    (if independent.length < 2 ∨ pathEvidence.isNone then [cap .missingIndependentSupport]
      else []) ++
    [⟨.missingDirectAttribution, .medium⟩] ++
    (if monitoring.any (fun c => c.observedStart < a.evidence.occurredAt) then
      [cap .ambiguousObservationWindow] else [])
  makeHypothesis
    { category
      causeResourceId := some a.evidence.targetResourceId
      pathId := path.map DependencyPath.pathId
      candidateCausalAt := some a.evidence.occurredAt
      score
      confidence := classifyConfidence score.rawScore caps hardConflict false
      support := citation :: monitoring.take 4 ++ recovery.support
      contradictions
      missing := []
      gates :=
        guardedGate (a.evidence.result = .succeeded) (gate .successfulChange citation) ++
        guardedGate (0 < semanticScore) (gate .semanticMatch citation) ++
        guardedGate (a.evidence.occurredAt ≤ request.incidentStart)
          (gate .correctChronology citation) ++
        optionalGate .affectedPath pathEvidence ++
        corroborationGate independent pathEvidence.isSome ++
        recoveryGate recovery ++ noHardConflictGate contradictions
      caps }

/-! ## Dependency failures -/

/-- The evidence selected for one dependency hypothesis. -/
structure DependencySelection where
  flow : Option NetworkFlowObservation
  monitor : Option ConnectionMonitorObservation
  endpoint : Option EndpointHealthObservation
  path : DependencyPath

/-- Best denied flow of a network tuple. -/
def dependencyFlow (key : List String) : Option NetworkFlowObservation :=
  (sortOn (fun f : NetworkFlowObservation =>
      toLex (met (matchingFlowCoverage request f).isSome,
        toLex (request.incidentStart - f.observedStart, f.observationId)))
    ((networkFlows request.observations).filter fun f =>
      concurrent request f.toObservationBase ∧ f.decision = .denied ∧
        flowTupleKey f = key)).head?

/-- Best failed connection test of a network tuple. -/
def dependencyMonitor (key : List String) : Option ConnectionMonitorObservation :=
  (sortOn (fun m : ConnectionMonitorObservation =>
      toLex (met (matchingMonitorCoverage request m).isSome,
        toLex (request.incidentStart - m.observedStart, m.observationId)))
    ((connectionMonitors request.observations).filter fun m =>
      concurrent request m.toObservationBase ∧ m.status = .failed ∧
        monitorTupleKey m = key)).head?

/-- `_best_dependency_endpoint`. -/
def bestDependencyEndpoint (destination : ResourceId) (path : DependencyPath) :
    Option EndpointHealthObservation :=
  (sortOn (fun e : EndpointHealthObservation =>
      toLex (met (matchingEndpointCoverage request e).isSome,
        toLex (request.incidentStart - e.observedStart, e.observationId)))
    (matchingDegradedEndpoints request destination path)).head?

/-- Network tuples of the concurrent denied flows and failed tests. -/
def dependencyKeys : List (List String) :=
  sortOn id ((((networkFlows request.observations).filter fun f =>
      concurrent request f.toObservationBase ∧ f.decision = .denied).map flowTupleKey ++
    ((connectionMonitors request.observations).filter fun m =>
      concurrent request m.toObservationBase ∧ m.status = .failed).map monitorTupleKey).dedup)

/-- Path, source and destination named by the selected flow or, without one,
by the selected test. -/
def dependencyTuple (flow : Option NetworkFlowObservation)
    (monitor : Option ConnectionMonitorObservation) : Option (String × ResourceId × ResourceId) :=
  (flow.map fun f => (f.pathId, f.sourceResourceId, f.destinationResourceId)).or
    (monitor.map fun m => (m.pathId, m.sourceResourceId, m.destinationResourceId))

/-- The iteration of `_dependency_hypotheses` for one network tuple. -/
def dependencySelection (key : List String) : Option DependencySelection :=
  let flow := dependencyFlow request key
  let monitor := dependencyMonitor request key
  (dependencyTuple flow monitor).bind fun (pathId, source, destination) =>
    (request.path? pathId).bind fun path =>
      let endpoint := bestDependencyEndpoint request destination path
      let affected := request.affectedResourceId
      let bridge := endpoint.any fun e => e.subjectResourceId = affected ∧
        (e.subjectResourceId = destination ∨ destination ∈ e.backendResourceIds)
      if affected ∈ path.resourceIds ∧ (affected = source ∨ affected = destination ∨ bridge) then
        some ⟨flow, monitor, endpoint, path⟩
      else none

/-- Citations of the selected evidence. -/
def DependencySelection.citations (s : DependencySelection) : List CorrelationEvidenceCitation :=
  (s.flow.map (flowCitation request)).toList ++
    (s.monitor.map (monitorCitation request)).toList ++
    (s.endpoint.map (endpointCitation request)).toList

/-- Start instants of the selected evidence. -/
def DependencySelection.starts (s : DependencySelection) : List UtcDateTime :=
  (s.flow.map fun f => f.observedStart).toList ++
    (s.monitor.map fun m => m.observedStart).toList ++
    (s.endpoint.map fun e => e.observedStart).toList

/-- Destination of the selected flow or, without one, of the selected test. -/
def DependencySelection.cause (s : DependencySelection) : Option ResourceId :=
  (s.flow.map fun f => f.destinationResourceId).or
    (s.monitor.map fun m => m.destinationResourceId)

/-- Every selected observation has complete matching coverage. -/
def DependencySelection.completeWindow (s : DependencySelection) : Bool :=
  s.flow.all (fun f => (matchingFlowCoverage request f).isSome) &&
    s.monitor.all (fun m => (matchingMonitorCoverage request m).isSome) &&
    s.endpoint.all (fun e => (matchingEndpointCoverage request e).isSome)

/-- Contradictions of a dependency hypothesis. -/
def DependencySelection.contradictions (s : DependencySelection) :
    List CorrelationContradiction :=
  networkObservationContradictions request s.flow.toList
    (s.monitor.toList.filter fun m => m.status = .failed)

/-- `_dependency_hypothesis`. -/
def dependencyHypothesis (s : DependencySelection) : RootCauseHypothesis :=
  let citations := s.citations request
  let independent := independentCitations citations
  let recovery := s.cause.elim noRecovery fun cause =>
    recoveryAssessment request cause none (s.endpoint.map MonitoringObservation.endpointHealth)
  let score := CorrelationRules.score
    (s.cause.elim 0 fun cause => topologyScore (some s.path) cause request.affectedResourceId)
    ((s.starts.map fun t => temporalScore t request.incidentStart).foldr max 0) 20
    (min 25 (8 * (independent.length - 1))) recovery.score
  let pathCitation := pathGateCitation request (some s.path) s.flow s.endpoint
  let contradictions := s.contradictions request
  let caps :=
    [⟨.missingDirectAttribution, .medium⟩] ++
    (if pathCitation.isNone then [cap .missingAffectedPath] else []) ++
    (if independent.length < 2 ∨ pathCitation.isNone then [cap .missingIndependentSupport]
      else []) ++
    (if s.completeWindow request then [] else [cap .ambiguousObservationWindow])
  makeHypothesis
    { category := .dependencyFailure
      causeResourceId := s.cause
      pathId := some s.path.pathId
      candidateCausalAt := s.starts.min?
      score
      confidence := classifyConfidence score.rawScore caps (hasHardConflict contradictions) false
      support := citations ++ recovery.support
      contradictions
      missing :=
        (if pathCitation.isNone then
          [missing .affectedPath .declaredContext
            "No governed dependency path binds the failed connection." .medium] else []) ++
        (if s.flow.isNone then
          [missing .deniedFlow .networkFlow
            "No matching denied flow is available for the failed dependency." .high] else []) ++
        (if s.monitor.isNone then
          [missing .connectionMonitorResult .connectionMonitor
            "No matching failed Connection Monitor result is available." .high] else []) ++
        (if s.endpoint.isNone then
          [missing .endpointHealth .endpointHealth
            "No matching endpoint degradation is available." .high] else []) ++
        (if s.completeWindow request then [] else
          [missing .completeObservationWindow
            (if s.flow.isSome then .networkFlow else .connectionMonitor)
            "Complete incident-window dependency evidence is unavailable." .high])
      gates :=
        optionalGate .affectedPath pathCitation ++
        optionalGate .matchingDeniedFlow (s.flow.map (flowCitation request)) ++
        optionalGate .connectionMonitorFailure
          ((s.monitor.filter fun m => m.status = .failed).map (monitorCitation request)) ++
        optionalGate .endpointDegradation (s.endpoint.map (endpointCitation request)) ++
        corroborationGate independent pathCitation.isSome ++
        recoveryGate recovery ++ noHardConflictGate contradictions
      caps }

/-- `_dependency_hypotheses`. -/
def dependencyHypotheses : List RootCauseHypothesis :=
  (dependencyKeys request).filterMap fun key =>
    (dependencySelection request key).map (dependencyHypothesis request)

/-! ## Observations -/

/-- `_observation_hypothesis`. -/
def observationHypothesis (o : MonitoringObservation) (category : RootCauseCategory) :
    RootCauseHypothesis :=
  let citation := request.observationCitation o
  let path :=
    match o with
    | .endpointHealth e => request.path? e.pathId
    | _ => pathForResources request request.affectedResourceId o.base.subjectResourceId
  let related := (relevantMonitoring request path).filter fun c =>
    c.evidenceId ≠ citation.evidenceId ∧ c.family ≠ .resourceChange
  let causal := citation :: related.take 4
  let independent := independentCitations causal
  let pathEvidence := firstPathCitation request causal path
  let recovery := recoveryAssessment request o.base.subjectResourceId none
    (match o with
      | .guestSignal _ => some o
      | .endpointHealth _ => some o
      | _ => none)
  let score := CorrelationRules.score
    (if pathEvidence.isSome then 25
      else if o.base.subjectResourceId = request.affectedResourceId then 10 else 0)
    (temporalScore o.base.observedStart request.incidentStart) 20
    (min 25 (8 * (independent.length - 1))) recovery.score
  let complete := hasCompleteCoverage request o path
  let caps :=
    [⟨.missingDirectAttribution, .medium⟩] ++
    (if pathEvidence.isNone then [cap .missingAffectedPath] else []) ++
    (if independent.length < 2 ∨ pathEvidence.isNone then [cap .missingIndependentSupport]
      else []) ++
    (if complete then [] else [cap .ambiguousObservationWindow])
  makeHypothesis
    { category
      causeResourceId := some o.base.subjectResourceId
      pathId := if pathEvidence.isNone then none else path.map DependencyPath.pathId
      candidateCausalAt := some o.base.observedStart
      score
      confidence := classifyConfidence score.rawScore caps false false
      support := causal ++ recovery.support
      contradictions := []
      missing :=
        if complete then [] else
          [missing .completeObservationWindow citation.family
            "Complete incident-window coverage is unavailable for this signal." .high]
      gates :=
        optionalGate .affectedPath pathEvidence ++
        corroborationGate independent pathEvidence.isSome ++
        recoveryGate recovery ++ [⟨.noHardConflict, true, []⟩]
      caps }

/-- `_observation_has_governed_connection`. -/
def hasGovernedConnection (subject : ResourceId) : Bool :=
  subject = request.affectedResourceId ∨
    (pathForResources request request.affectedResourceId subject).isSome

/-- Category of a guest signal in `_guest_hypothesis`. -/
def guestCategory : GuestSignal → RootCauseCategory
  | .heartbeatLoss | .serviceFailure => .guestServiceFailure
  | _ => .guestResourcePressure

/-- The category under which an observation is a cause of its own, if it is. -/
def observationCategory (o : MonitoringObservation) : Option RootCauseCategory :=
  match o with
  | .guestSignal g =>
    if g.state.adverse ∧ hasGovernedConnection request g.subjectResourceId then
      some (guestCategory g.signal) else none
  | .platformHealth p =>
    if p.status.adverse ∧ hasGovernedConnection request p.subjectResourceId then
      some .platformHealth else none
  | .endpointHealth e =>
    if e.status.adverse ∧
        ∃ p ∈ request.path? e.pathId, request.affectedResourceId ∈ p.resourceIds then
      some .backendHealth else none
  | _ => none

/-- Hypotheses of single observations. -/
def observationHypotheses : List RootCauseHypothesis :=
  (request.observations.filter fun o => concurrent request o.base).filterMap fun o =>
    (observationCategory request o).map (observationHypothesis request o)

/-! ## The engine -/

/-- `_unknown_hypothesis`. -/
def unknownHypothesis : RootCauseHypothesis :=
  makeHypothesis
    { category := .unknown
      causeResourceId := none
      pathId := none
      candidateCausalAt := none
      score := CorrelationRules.score 0 0 0 0 0
      confidence := .unknown
      support := request.incidentAnchor.currentStateEvidence
      contradictions := []
      missing := [missing .changeDetails .resourceChange
        "No sufficiently bound causal evidence produced a ranked explanation." .low]
      gates := []
      caps := [cap .missingAffectedPath, cap .missingIndependentSupport] }

/-- Changes that occurred no later than the incident start. -/
def timelyChanges : List ChangeEvidenceArtifact :=
  request.changeArtifacts.filter fun a => a.evidence.occurredAt ≤ request.incidentStart

/-- Hypotheses of one change. -/
def changeHypotheses (a : ChangeEvidenceArtifact) : List RootCauseHypothesis :=
  if a.evidence.isSecurityRule then networkSecurityHypotheses request a
  else [changeHypothesis request a]

/-- Hypotheses in construction order, before deduplication. -/
def candidateHypotheses : List RootCauseHypothesis :=
  (timelyChanges request).flatMap (changeHypotheses request) ++
    dependencyHypotheses request ++ observationHypotheses request

/-- `_hypothesis_sort_key`. -/
def hypothesisSortKey (sha : HypothesisDigest) (h : RootCauseHypothesis) :
    ℤ ×ₗ ℤ ×ₗ ℕ ×ₗ ℕ ×ₗ ℕ ×ₗ WithTop ℤ ×ₗ ℕ ×ₗ String ×ₗ Digest :=
  toLex (-(h.confidence.rank : ℤ),
    toLex (-(h.score.rawScore : ℤ),
      toLex ((h.contradictions.filter fun c => c.hardConflict).length,
        toLex (h.contradictions.length,
          toLex (h.missingEvidence.length,
            toLex (h.candidateCausalAt.elim ⊤ (fun t => ((-t : ℤ) : WithTop ℤ)),
              toLex (h.category.order,
                toLex (h.causeResourceId.getD "", sha.digest h))))))))

/-- `_deduplicate_hypotheses` followed by the fallback hypothesis. The
dictionary key contains the digest, which covers every other part of it. -/
def deduplicatedHypotheses (sha : HypothesisDigest) : List RootCauseHypothesis :=
  match dictOf sha.digest (candidateHypotheses request) with
  | [] => [unknownHypothesis request]
  | hypotheses => hypotheses

/-- `_compute_hypotheses`, up to the contract validation of each hypothesis. -/
def computeHypotheses (sha : HypothesisDigest) : List RootCauseHypothesis :=
  sortOn (hypothesisSortKey sha) (deduplicatedHypotheses request sha)

end AthenaContext.CorrelationEngine
