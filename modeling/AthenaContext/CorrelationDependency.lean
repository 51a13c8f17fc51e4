import AthenaContext.CorrelationNetworkChange

/-!
# The dependency and change hypotheses

The evidence selected for a dependency hypothesis, and the gates, claims and
support of dependency and change hypotheses as the contract reads them.
-/

namespace AthenaContext.CorrelationDependency

open OrdinalCollections CorrelationRules CorrelationEvidence CorrelationEnvelope
  CorrelationMatching CorrelationEngine CorrelationContract CorrelationIndex
  CorrelationSelection CorrelationRecords CorrelationNetworkChange

variable {request : CorrelationRequest} {key : List String} {s : DependencySelection}

/-! ## The selected evidence -/

theorem dependencyFlow_some {f : NetworkFlowObservation} (h : dependencyFlow request key = some f) :
    .networkFlow f ∈ request.observations ∧ concurrent request f.toObservationBase ∧
      f.decision = .denied ∧ flowTupleKey f = key := by
  have hm := List.mem_filter.mp (sortOn_head h).1
  exact ⟨mem_networkFlows.mp hm.1, of_decide_eq_true hm.2⟩

theorem dependencyMonitor_some {m : ConnectionMonitorObservation}
    (h : dependencyMonitor request key = some m) :
    .connectionMonitor m ∈ request.observations ∧ concurrent request m.toObservationBase ∧
      m.status = .failed ∧ monitorTupleKey m = key := by
  have hm := List.mem_filter.mp (sortOn_head h).1
  exact ⟨mem_connectionMonitors.mp hm.1, of_decide_eq_true hm.2⟩

/-- What the selection of one network tuple consists of. -/
structure DependencySelected (request : CorrelationRequest) (key : List String)
    (s : DependencySelection) : Prop where
  flow : s.flow = dependencyFlow request key
  monitor : s.monitor = dependencyMonitor request key
  path : ∃ pathId source destination,
    dependencyTuple s.flow s.monitor = some (pathId, source, destination) ∧
    request.path? pathId = some s.path ∧
    s.endpoint = bestDependencyEndpoint request destination s.path
  affected : request.affectedResourceId ∈ s.path.resourceIds

theorem dependencySelection_selected (h : s ∈ dependencySelection request key) :
    DependencySelected request key s := by
  unfold dependencySelection at h
  obtain ⟨⟨pathId, source, destination⟩, ht, h⟩ := Option.bind_eq_some_iff.mp h
  obtain ⟨path, hp, h⟩ := Option.bind_eq_some_iff.mp h
  dsimp only at h
  split at h
  · rename_i hc
    cases h
    exact ⟨rfl, rfl, ⟨pathId, source, destination, ht, hp, rfl⟩, hc.1⟩
  · cases h

section Selected

variable (hs : DependencySelected request key s)
include hs

theorem selected_flow {f : NetworkFlowObservation} (hf : f ∈ s.flow) :
    .networkFlow f ∈ request.observations ∧ concurrent request f.toObservationBase ∧
      f.decision = .denied ∧ flowTupleKey f = key :=
  dependencyFlow_some (hs.flow ▸ hf)

theorem selected_monitor {m : ConnectionMonitorObservation} (hm : m ∈ s.monitor) :
    .connectionMonitor m ∈ request.observations ∧ concurrent request m.toObservationBase ∧
      m.status = .failed ∧ monitorTupleKey m = key :=
  dependencyMonitor_some (hs.monitor ▸ hm)

theorem selected_endpoint {e : EndpointHealthObservation} (he : e ∈ s.endpoint) :
    .endpointHealth e ∈ request.observations ∧ e.pathId = s.path.pathId ∧
      e.status.adverse = true ∧ concurrent request e.toObservationBase := by
  obtain ⟨_, _, destination, -, -, hend⟩ := hs.path
  rw [Option.mem_def, hend] at he
  obtain ⟨ho, hid, -, -, hadv, hc⟩ :=
    mem_matchingDegradedEndpoints.mp (sortOn_head he).1
  exact ⟨ho, hid, hadv, hc⟩

/-- Flow and test of a selection lie on its path. -/
theorem selected_path :
    (∀ f ∈ s.flow, f.pathId = s.path.pathId) ∧ ∀ m ∈ s.monitor, m.pathId = s.path.pathId := by
  have hkey : ∀ f ∈ s.flow, key.head? = some f.pathId := by
    intro f hf
    rw [← (selected_flow hs hf).2.2.2]
    rfl
  have hkey' : ∀ m ∈ s.monitor, key.head? = some m.pathId := by
    intro m hm
    rw [← (selected_monitor hs hm).2.2.2]
    rfl
  obtain ⟨pathId, _, _, ht, hp, -⟩ := hs.path
  have hid : key.head? = some s.path.pathId := by
    rw [(path?_some hp).2]
    cases hf : s.flow with
    | some f =>
      rw [hkey f hf]
      rw [hf] at ht
      cases ht
      rfl
    | none =>
      rw [hf] at ht
      cases hm : s.monitor with
      | some m =>
        rw [hkey' m hm]
        rw [hm] at ht
        cases ht
        rfl
      | none =>
        rw [hm] at ht
        cases ht
  exact ⟨fun f hf => Option.some.inj ((hkey f hf).symm.trans hid),
    fun m hm => Option.some.inj ((hkey' m hm).symm.trans hid)⟩

end Selected

/-! ## Gates -/

/-- Gates of a dependency hypothesis. -/
def dependencyGates (request : CorrelationRequest) (s : DependencySelection) :
    List CorrelationGate :=
  let citations := s.citations request
  let independent := independentCitations citations
  let recovery := s.cause.elim noRecovery fun cause =>
    recoveryAssessment request cause none (s.endpoint.map MonitoringObservation.endpointHealth)
  let pathCitation := pathGateCitation request (some s.path) s.flow s.endpoint
  optionalGate .affectedPath pathCitation ++
    optionalGate .matchingDeniedFlow (s.flow.map (flowCitation request)) ++
    optionalGate .connectionMonitorFailure
      ((s.monitor.filter fun m => m.status = .failed).map (monitorCitation request)) ++
    optionalGate .endpointDegradation (s.endpoint.map (endpointCitation request)) ++
    corroborationGate independent pathCitation.isSome ++
    recoveryGate recovery ++ noHardConflictGate (s.contradictions request)

theorem dependencyGates_nodup :
    ((dependencyGates request s).map CorrelationGate.code).Nodup := by
  unfold dependencyGates recoveryGate corroborationGate
  simp only [List.map_append]
  have hn : ([CorrelationGateCode.affectedPath] ++ [CorrelationGateCode.matchingDeniedFlow] ++
      [CorrelationGateCode.connectionMonitorFailure] ++ [CorrelationGateCode.endpointDegradation] ++
      [CorrelationGateCode.independentCorroboration] ++ [CorrelationGateCode.recoveryEvidence] ++
      [CorrelationGateCode.noHardConflict]).Nodup := by
    decide
  refine List.Nodup.sublist ?_ hn
  refine List.Sublist.append ?_ (noHardConflictGate_codes _)
  refine List.Sublist.append ?_ (guardedGate_codes _ _)
  refine List.Sublist.append ?_ (guardedGate_codes _ _)
  refine List.Sublist.append ?_ (optionalGate_codes _ _)
  refine List.Sublist.append ?_ (optionalGate_codes _ _)
  refine List.Sublist.append ?_ (optionalGate_codes _ _)
  exact optionalGate_codes _ _

variable {code : CorrelationGateCode} {ids : List String}

theorem dependency_gateIds : gateIds (dependencyHypothesis request s) code = some ids ↔
    ⟨code, true, ids⟩ ∈ dependencyGates request s :=
  gateIds_made dependencyGates_nodup

theorem dependency_gateIds_deniedFlow :
    gateIds (dependencyHypothesis request s) .matchingDeniedFlow = some ids ↔
      ∃ f ∈ s.flow, ids = [f.observationId] := by
  rw [dependency_gateIds]
  simp [dependencyGates, gate, corroborationGate, recoveryGate]
  rfl

theorem dependency_gateIds_monitor :
    gateIds (dependencyHypothesis request s) .connectionMonitorFailure = some ids ↔
      ∃ m ∈ s.monitor, m.status = .failed ∧ ids = [m.observationId] := by
  rw [dependency_gateIds]
  simp [dependencyGates, gate, corroborationGate, recoveryGate, Option.filter_eq_some_iff,
    and_assoc]
  rfl

theorem dependency_gateIds_noHardConflict :
    gateIds (dependencyHypothesis request s) .noHardConflict = some ids ↔
      hasHardConflict (s.contradictions request) = false ∧ ids = [] := by
  rw [dependency_gateIds]
  simp [dependencyGates, gate, corroborationGate, recoveryGate]

/-- The denied-flow gate cites the selected flow. -/
theorem mem_dependencyFlow_ids {i : String} :
    i ∈ gateIdList (dependencyHypothesis request s) .matchingDeniedFlow ↔
      ∃ f ∈ s.flow.toList, f.observationId = i := by
  unfold gateIdList
  cases h : gateIds (dependencyHypothesis request s) .matchingDeniedFlow with
  | some ids =>
    obtain ⟨f, hf, rfl⟩ := dependency_gateIds_deniedFlow.mp h
    rw [Option.mem_def] at hf
    simp [hf, eq_comm]
  | none =>
    have hnone : s.flow = none := by
      by_contra hn
      obtain ⟨f, hf⟩ := Option.ne_none_iff_exists'.mp hn
      rw [dependency_gateIds_deniedFlow.mpr ⟨f, hf, rfl⟩] at h
      cases h
    simp [hnone]

/-- The connection test gate cites the selected test. -/
theorem mem_dependencyMonitor_ids (hs : DependencySelected request key s) {i : String} :
    i ∈ gateIdList (dependencyHypothesis request s) .connectionMonitorFailure ↔
      ∃ m ∈ s.monitor.toList, m.observationId = i := by
  unfold gateIdList
  cases h : gateIds (dependencyHypothesis request s) .connectionMonitorFailure with
  | some ids =>
    obtain ⟨m, hm, -, rfl⟩ := dependency_gateIds_monitor.mp h
    rw [Option.mem_def] at hm
    simp [hm, eq_comm]
  | none =>
    have hnone : s.monitor = none := by
      by_contra hn
      obtain ⟨m, hm⟩ := Option.ne_none_iff_exists'.mp hn
      rw [dependency_gateIds_monitor.mpr ⟨m, hm, (selected_monitor hs hm).2.2.1, rfl⟩] at h
      cases h
    simp [hnone]

/-- The support of a dependency hypothesis cites observations only. -/
theorem dependency_support (hs : DependencySelected request key s)
    {c : CorrelationEvidenceCitation}
    (h : c ∈ (dependencyHypothesis request s).supportingEvidence) :
    ∃ o ∈ request.observations, c = request.observationCitation o := by
  rcases List.mem_append.mp (mem_of_mem_canonicalTuple h) with h | h
  · unfold DependencySelection.citations at h
    rcases List.mem_append.mp h with h | h
    · rcases List.mem_append.mp h with h | h
      · obtain ⟨f, hf, rfl⟩ := Option.map_eq_some_iff.mp (Option.mem_toList.mp h)
        exact ⟨_, (selected_flow hs hf).1, rfl⟩
      · obtain ⟨m, hm, rfl⟩ := Option.map_eq_some_iff.mp (Option.mem_toList.mp h)
        exact ⟨_, (selected_monitor hs hm).1, rfl⟩
    · obtain ⟨e, he, rfl⟩ := Option.map_eq_some_iff.mp (Option.mem_toList.mp h)
      exact ⟨_, (selected_endpoint hs he).1, rfl⟩
  · cases hc : s.cause with
    | none => simp [hc, noRecovery] at h
    | some cause =>
      rw [hc] at h
      obtain ⟨o, ho, -, -, he, -⟩ := recoveryAssessment_support h
      exact ⟨o, ho, he⟩

section Accepted

variable (hr : request.Accepted) (hs : DependencySelected request key s)
include hr hs

theorem dependency_claimedFlows {f : NetworkFlowObservation} :
    f ∈ contractClaimedFlows request (dependencyHypothesis request s) ↔ f ∈ s.flow.toList :=
  mem_contractClaimedFlows hr
    (fun _ hf => ⟨(selected_flow hs (Option.mem_toList.mp hf)).1,
      (selected_flow hs (Option.mem_toList.mp hf)).2.1⟩)
    (fun _ => mem_dependencyFlow_ids)

theorem dependency_claimedTests {m : ConnectionMonitorObservation} :
    m ∈ contractClaimedTests request (dependencyHypothesis request s) ↔ m ∈ s.monitor.toList := by
  refine mem_contractClaimedTests hr (fun m hm => ?_) (fun _ => mem_dependencyMonitor_ids hs)
  obtain ⟨ho, hc, hf, -⟩ := selected_monitor hs (Option.mem_toList.mp hm)
  exact ⟨ho, hf, congrArg some ((selected_path hs).2 m (Option.mem_toList.mp hm)).symm, hc⟩

/-- The contract's candidate changes of a dependency hypothesis: those which
the selected flow is attributed to. -/
theorem dependency_candidateChanges {c : NormalizedChangeEvidence} :
    c ∈ candidateChanges request (dependencyHypothesis request s) ↔
      ∃ b ∈ request.changeArtifacts, b.evidence = c ∧
        ∃ f ∈ s.flow, f.matchedChangeEvidenceId = some b.evidence.evidenceId := by
  unfold candidateChanges
  rw [List.mem_map]
  simp only [List.mem_filter, decide_eq_true_eq]
  constructor
  · rintro ⟨b, ⟨hb, hwhy⟩, hc⟩
    rcases hwhy with ⟨k, hk, -, hid, -⟩ | ⟨f, hf, hid⟩
    · obtain ⟨o, ho, rfl⟩ := dependency_support hs hk
      exact absurd hid (observationId_ne_changeId hr ho hb)
    · exact ⟨b, hb, hc, f, Option.mem_toList.mp ((dependency_claimedFlows hr hs).mp hf), hid⟩
  · rintro ⟨b, hb, hc, f, hf, hid⟩
    exact ⟨b, ⟨hb, Or.inr ⟨f, (dependency_claimedFlows hr hs).mpr (Option.mem_toList.mpr hf),
      hid⟩⟩, hc⟩

end Accepted

/-! ## Changes outside network security -/

/-- Evidence of a change hypothesis. -/
abbrev changeMonitoring (request : CorrelationRequest) (a : ChangeEvidenceArtifact) :
    List CorrelationEvidenceCitation :=
  relevantMonitoring request
    (pathForResources request request.affectedResourceId a.evidence.targetResourceId)

/-- Contradictions of a change hypothesis. -/
abbrev plainChangeContradictions (request : CorrelationRequest) (a : ChangeEvidenceArtifact) :
    List CorrelationContradiction :=
  changeContradictions request a "The candidate change did not succeed."
    "The candidate change occurred after degradation began."

/-- Gates of a change hypothesis. -/
def changeGates (request : CorrelationRequest) (a : ChangeEvidenceArtifact) :
    List CorrelationGate :=
  let monitoring := changeMonitoring request a
  let pathEvidence := firstPathCitation request monitoring
    (pathForResources request request.affectedResourceId a.evidence.targetResourceId)
  guardedGate (a.evidence.result = .succeeded) (gate .successfulChange (changeCitation a)) ++
    guardedGate (0 < changeSemanticScore a (changeCategory a))
      (gate .semanticMatch (changeCitation a)) ++
    guardedGate (a.evidence.occurredAt ≤ request.incidentStart)
      (gate .correctChronology (changeCitation a)) ++
    optionalGate .affectedPath pathEvidence ++
    corroborationGate (independentCitations monitoring) pathEvidence.isSome ++
    recoveryGate (recoveryAssessment request a.evidence.targetResourceId (some a) none) ++
    noHardConflictGate (plainChangeContradictions request a)

variable {a : ChangeEvidenceArtifact}

theorem changeGates_nodup : ((changeGates request a).map CorrelationGate.code).Nodup := by
  unfold changeGates recoveryGate corroborationGate
  simp only [List.map_append]
  have hn : ([CorrelationGateCode.successfulChange] ++ [CorrelationGateCode.semanticMatch] ++
      [CorrelationGateCode.correctChronology] ++ [CorrelationGateCode.affectedPath] ++
      [CorrelationGateCode.independentCorroboration] ++ [CorrelationGateCode.recoveryEvidence] ++
      [CorrelationGateCode.noHardConflict]).Nodup := by
    decide
  refine List.Nodup.sublist ?_ hn
  refine List.Sublist.append ?_ (noHardConflictGate_codes _)
  refine List.Sublist.append ?_ (guardedGate_codes _ _)
  refine List.Sublist.append ?_ (guardedGate_codes _ _)
  refine List.Sublist.append ?_ (optionalGate_codes _ _)
  refine List.Sublist.append ?_ (guardedGate_codes _ _)
  refine List.Sublist.append ?_ (guardedGate_codes _ _)
  exact guardedGate_codes _ _

theorem change_gateIds : gateIds (changeHypothesis request a) code = some ids ↔
    ⟨code, true, ids⟩ ∈ changeGates request a :=
  gateIds_made changeGates_nodup

theorem change_gateIds_noHardConflict :
    gateIds (changeHypothesis request a) .noHardConflict = some ids ↔
      hasHardConflict (plainChangeContradictions request a) = false ∧ ids = [] := by
  rw [change_gateIds]
  simp [changeGates, gate, corroborationGate, recoveryGate]

/-- A change hypothesis claims no flow and no test. -/
theorem change_claims :
    contractClaimedFlows request (changeHypothesis request a) = [] ∧
      contractClaimedTests request (changeHypothesis request a) = [] := by
  have hd : gateIds (changeHypothesis request a) .matchingDeniedFlow = none := by
    rw [Option.eq_none_iff_forall_ne_some]
    intro ids h
    rw [change_gateIds] at h
    simp [changeGates, gate, corroborationGate, recoveryGate] at h
  have hm : gateIds (changeHypothesis request a) .connectionMonitorFailure = none := by
    rw [Option.eq_none_iff_forall_ne_some]
    intro ids h
    rw [change_gateIds] at h
    simp [changeGates, gate, corroborationGate, recoveryGate] at h
  constructor
  · simp [contractClaimedFlows, hd, citedObservations, networkFlows]
  · simp [contractClaimedTests, hm, citedObservations, connectionMonitors]

theorem relevantMonitoring_mem {path : Option DependencyPath} {c : CorrelationEvidenceCitation}
    (h : c ∈ relevantMonitoring request path) :
    c ∈ request.evidenceIndex ∧
      (∃ o ∈ request.observations, o.adverse = true ∧ o.base.observationId = c.evidenceId) ∧
      citationRelevant request c path := by
  simpa only [relevantMonitoring, List.mem_filter, decide_eq_true_eq, Bool.decide_and,
    Bool.and_eq_true] using h

/-- The support of a change hypothesis is its change and relevant adverse
observations. -/
theorem change_support (hr : request.Accepted) (ha : a ∈ request.changeArtifacts)
    {c : CorrelationEvidenceCitation} :
    c ∈ (changeHypothesis request a).supportingEvidence ↔
      c = changeCitation a ∨ c ∈ (changeMonitoring request a).take 4 := by
  have hsupport : (changeHypothesis request a).supportingEvidence =
      canonicalTuple CorrelationEvidenceCitation.evidenceId
        (changeCitation a :: (changeMonitoring request a).take 4) := by
    show canonicalTuple _ (changeCitation a :: (changeMonitoring request a).take 4 ++ []) = _
    rw [List.append_nil]
  rw [hsupport, mem_canonicalCitations hr, List.mem_cons]
  intro k hk
  rcases List.mem_cons.mp hk with rfl | hk
  · exact changeCitation_mem ha
  · exact (relevantMonitoring_mem (List.mem_of_mem_take hk)).1

/-- The contract's candidate changes of a change hypothesis. -/
theorem change_candidateChanges (hr : request.Accepted) (ha : a ∈ request.changeArtifacts)
    {c : NormalizedChangeEvidence} :
    c ∈ candidateChanges request (changeHypothesis request a) ↔ c = a.evidence := by
  unfold candidateChanges
  rw [List.mem_map, change_claims.1]
  simp only [List.mem_filter, decide_eq_true_eq, List.not_mem_nil, false_and, exists_false,
    or_false]
  constructor
  · rintro ⟨b, ⟨hb, k, hk, -, hid, -⟩, rfl⟩
    rcases (change_support hr ha).mp hk with rfl | hk
    · rw [change_inj hr hb ha hid.symm]
    · obtain ⟨-, ⟨o, ho, -, hoid⟩, -⟩ := relevantMonitoring_mem (List.mem_of_mem_take hk)
      exact absurd (hoid.trans hid) (observationId_ne_changeId hr ho hb)
  · rintro rfl
    refine ⟨a, ⟨ha, changeCitation a, (change_support hr ha).mpr (Or.inl rfl), rfl, rfl, ?_⟩, rfl⟩
    rintro r ⟨⟩
    rfl

end AthenaContext.CorrelationDependency
