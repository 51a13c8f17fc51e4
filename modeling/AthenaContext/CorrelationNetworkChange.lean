import AthenaContext.CorrelationRecords

/-!
# The network security hypothesis

Facts about the chain that an accepted request gives to a network security
change, and the gates, claims and contradictions of the resulting hypothesis
as the contract reads them.
-/

namespace AthenaContext.CorrelationNetworkChange

open OrdinalCollections CorrelationRules CorrelationEvidence CorrelationEnvelope
  CorrelationMatching CorrelationEngine CorrelationContract CorrelationIndex
  CorrelationSelection CorrelationRecords

variable {request : CorrelationRequest} {a : ChangeEvidenceArtifact}
  {flows : List NetworkFlowObservation}

/-! ## The selected chain -/

section Chain

variable (hr : request.Accepted) (hg : flows ∈ nsgFlowGroups request a)

include hg in
/-- The selected flow is a candidate of the request. -/
theorem chain_candidate {f : NetworkFlowObservation}
    (hf : f ∈ (selectNsgChain request a flows).flow) :
    .networkFlow f ∈ request.observations ∧ nsgCandidateFlow request a f := by
  have hm := ((selectNsgChain_selected a flows).flow f hf).1
  have hc := mem_nsgGroupedFlows.mp ((nsgFlowGroups_spec hg).1 f hm)
  exact ⟨hc.1, hc.2.1⟩

include hr hg

/-- The chain's path is the governed path of its flow and reaches the
incident resource. -/
theorem chain_path {f : NetworkFlowObservation}
    (hf : f ∈ (selectNsgChain request a flows).flow) :
    ∃ p, (selectNsgChain request a flows).path = some p ∧ p ∈ request.paths ∧
      p.pathId = f.pathId ∧ request.affectedResourceId ∈ p.resourceIds ∧
      f.resourceIds ⊆ p.resourceIds := by
  obtain ⟨hm, hpath⟩ := (selectNsgChain_selected a flows).flow f hf
  obtain ⟨ho, -, p, hp, haffected, -⟩ := mem_nsgGroupedFlows.mp ((nsgFlowGroups_spec hg).1 f hm)
  obtain ⟨p', hp', hmem, hsub⟩ := governed_path hr ho rfl
  have hsame : p' = p := by
    rw [Option.mem_def, hp'] at hp
    exact Option.some.inj hp
  exact ⟨p, hpath.trans hp, hsame ▸ hmem, (path?_some hp).2, haffected, hsame ▸ hsub⟩

/-- The chain's connection test failed on the tuple of the flow. -/
theorem chain_monitor {m : ConnectionMonitorObservation}
    (hm : m ∈ (selectNsgChain request a flows).monitor) :
    .connectionMonitor m ∈ request.observations ∧ m.status = .failed ∧
      concurrent request m.toObservationBase ∧
      ∃ f ∈ (selectNsgChain request a flows).flow, sameNetworkTuple f m ∧
        ∃ p, (selectNsgChain request a flows).path = some p ∧ p.pathId = m.pathId := by
  obtain ⟨f, hf, hm⟩ := (selectNsgChain_selected a flows).monitor m hm
  obtain ⟨ho, hs, ht, hc⟩ := mem_matchingFailedMonitors.mp hm
  obtain ⟨p, hp, -, hid, -⟩ := chain_path hr hg hf
  exact ⟨ho, hs, hc, f, hf, ht, p, hp, hid.trans ht.1.symm⟩

/-- The chain's endpoint is the degraded incident resource on the path. -/
theorem chain_endpoint {e : EndpointHealthObservation}
    (he : e ∈ (selectNsgChain request a flows).endpoint) :
    .endpointHealth e ∈ request.observations ∧ e.status.adverse = true ∧
      concurrent request e.toObservationBase ∧
      e.subjectResourceId = request.affectedResourceId ∧
      ∃ f ∈ (selectNsgChain request a flows).flow,
        ∃ p, (selectNsgChain request a flows).path = some p ∧ p.pathId = e.pathId ∧
          f.pathId = e.pathId := by
  obtain ⟨f, hf, p, hp, he⟩ := (selectNsgChain_selected a flows).endpoint e he
  obtain ⟨ho, hid, hsub, -, hadv, hc⟩ := mem_matchingDegradedEndpoints.mp he
  obtain ⟨p', hp', -, hid', -⟩ := chain_path hr hg hf
  have hsame : p' = p := Option.some.inj (hp'.symm.trans hp)
  exact ⟨ho, hadv, hc, hsub, f, hf, p, hp, hid.symm, by rw [← hid', hsame, hid]⟩

end Chain

/-! ## Claimed flows -/

theorem claimed_none (h : (selectNsgChain request a flows).flow = none) :
    (assessNsg request a flows).claimed = [] := by
  show claimedFlows request a (selectNsgChain request a flows).flow = []
  rw [h, claimedFlows_none]

theorem chain_flow_claimed {f : NetworkFlowObservation}
    (hf : f ∈ (selectNsgChain request a flows).flow) :
    f ∈ (assessNsg request a flows).claimed :=
  (claimedFlows_spec a _).2.2.1 f hf

/-- Claimed flows exist exactly when the chain has a flow. -/
theorem claimed_ne_nil :
    (assessNsg request a flows).claimed ≠ [] ↔ (selectNsgChain request a flows).flow.isSome := by
  constructor
  · intro h
    by_contra hn
    exact h (claimed_none (by simpa using hn))
  · intro h
    obtain ⟨f, hf⟩ := Option.isSome_iff_exists.mp h
    exact List.ne_nil_of_mem (chain_flow_claimed hf)

/-- Every claimed flow is a candidate with the selected flow's chain key. -/
theorem claimed_candidate (hg : flows ∈ nsgFlowGroups request a) {f : NetworkFlowObservation}
    (hf : f ∈ (assessNsg request a flows).claimed) :
    .networkFlow f ∈ request.observations ∧ nsgCandidateFlow request a f ∧
      ∃ d ∈ (selectNsgChain request a flows).flow, nsgChainKey f = nsgChainKey d := by
  obtain ⟨d, hd⟩ := Option.isSome_iff_exists.mp (claimed_ne_nil.mp (List.ne_nil_of_mem hf))
  have hf' : f ∈ claimedFlows request a (some d) := hd ▸ hf
  obtain ⟨ho, hc, hk⟩ := claimedFlows_candidate (chain_candidate hg hd) hf'
  exact ⟨ho, hc, d, hd, hk⟩

theorem claimed_sameFlow (hr : request.Accepted) (hg : flows ∈ nsgFlowGroups request a)
    {f : NetworkFlowObservation} (hf : f ∈ (assessNsg request a flows).claimed) :
    ∃ d ∈ (selectNsgChain request a flows).flow, sameFlow f d := by
  obtain ⟨ho, -, d, hd, hk⟩ := claimed_candidate hg hf
  have hod := (chain_candidate hg hd).1
  exact ⟨d, hd, (nsgChainKey_eq_iff (ruleResourceId_ne_empty hr (mem_networkFlows.mpr ho))
    (ruleResourceId_ne_empty hr (mem_networkFlows.mpr hod))).mp hk⟩

/-- A claimed flow is attributed to the change or to no change at all. -/
theorem claimed_attribution (hr : request.Accepted) (hg : flows ∈ nsgFlowGroups request a)
    {f : NetworkFlowObservation} (hf : f ∈ (assessNsg request a flows).claimed) :
    f.matchedChangeEvidenceId = some a.evidence.evidenceId ∨ f.matchedChangeEvidenceId = none := by
  obtain ⟨ho, ⟨-, -, hc⟩, -⟩ := claimed_candidate hg hf
  rcases hc with hb | ⟨hu, -⟩
  · exact Or.inl hb.2.2.2.2.1
  · have hv : f.Valid := hr.bundle.observations _ ho
    exact Or.inr (hv.unattributed hu).2.2.2.2.1

/-! ## Gates -/

/-- Codes of the gates in construction order. -/
def nsgGateCodes : List CorrelationGateCode :=
  [.successfulChange, .affectedPath, .semanticMatch, .matchingDeniedFlow,
    .effectiveRuleAttribution, .connectionMonitorFailure, .endpointDegradation,
    .independentCorroboration, .correctChronology, .noHardConflict]

theorem nsgGates_codes (request : CorrelationRequest) (a : ChangeEvidenceArtifact)
    (s : NsgAssessment) :
    ((s.gates request a).map CorrelationGate.code).Sublist nsgGateCodes := by
  unfold NsgAssessment.gates
  simp only [List.map_append]
  exact (((((((((guardedGate_codes _ _).append (optionalGate_codes _ _)).append
    (guardedGate_codes _ _)).append (guardedGate_codes _ _)).append
    (optionalGate_codes _ _)).append (optionalGate_codes _ _)).append
    (optionalGate_codes _ _)).append (guardedGate_codes _ _)).append
    (guardedGate_codes _ _)).append (noHardConflictGate_codes _)

/-- A confirmed cause keeps all of its gates: each of them is required. -/
theorem finalGates_eq (s : NsgAssessment) :
    s.finalGates request a = s.gates request a ++
      guardedGate (!s.confirmed request a && decide (s.recovery.evidenceIds ≠ []))
        ⟨.recoveryEvidence, true, s.recovery.evidenceIds⟩ := by
  have hall : ∀ g ∈ s.gates request a, networkSecurityConfirmedGates.contains g.code = true := by
    intro g hg
    have hm := (nsgGates_codes request a s).subset (List.mem_map_of_mem hg)
    have hsub : ∀ code ∈ nsgGateCodes, networkSecurityConfirmedGates.contains code = true := by
      decide
    exact hsub _ hm
  unfold NsgAssessment.finalGates
  cases hc : s.confirmed request a
  · simp
  · simp only [if_true, Bool.not_true, Bool.false_and]
    rw [List.filter_eq_self.mpr hall]
    simp [guardedGate]

theorem finalGates_nodup (s : NsgAssessment) :
    ((s.finalGates request a).map CorrelationGate.code).Nodup := by
  rw [finalGates_eq, List.map_append]
  have hsub := (nsgGates_codes request a s).append
    (guardedGate_codes (!s.confirmed request a && decide (s.recovery.evidenceIds ≠ []))
      ⟨.recoveryEvidence, true, s.recovery.evidenceIds⟩)
  have hn : (nsgGateCodes ++ [CorrelationGateCode.recoveryEvidence]).Nodup := by decide
  exact hsub.nodup hn

variable {code : CorrelationGateCode} {ids : List String}

/-- The contract reads the gates of the assessment. -/
theorem nsg_gateIds : gateIds (networkSecurityHypothesis request a flows) code = some ids ↔
    ⟨code, true, ids⟩ ∈ (assessNsg request a flows).finalGates request a :=
  gateIds_made (finalGates_nodup _)

theorem nsg_gateIds_deniedFlow :
    gateIds (networkSecurityHypothesis request a flows) .matchingDeniedFlow = some ids ↔
      (assessNsg request a flows).claimed ≠ [] ∧
        ids = sortOn id ((assessNsg request a flows).claimed.map fun f => f.observationId) := by
  rw [nsg_gateIds, finalGates_eq]
  simp [NsgAssessment.gates, gate]

theorem nsg_gateIds_monitor :
    gateIds (networkSecurityHypothesis request a flows) .connectionMonitorFailure = some ids ↔
      ∃ m ∈ (selectNsgChain request a flows).monitor, ids = [m.observationId] := by
  rw [nsg_gateIds, finalGates_eq]
  simp [NsgAssessment.gates, gate, assessNsg]
  rfl

theorem nsg_gateIds_noHardConflict :
    gateIds (networkSecurityHypothesis request a flows) .noHardConflict = some ids ↔
      hasHardConflict (assessNsg request a flows).contradictions = false ∧ ids = [] := by
  rw [nsg_gateIds, finalGates_eq]
  simp [NsgAssessment.gates, gate]

/-- The denied-flow gate cites the claimed flows. -/
theorem mem_deniedFlow_ids {i : String} :
    i ∈ gateIdList (networkSecurityHypothesis request a flows) .matchingDeniedFlow ↔
      ∃ f ∈ (assessNsg request a flows).claimed, f.observationId = i := by
  unfold gateIdList
  cases h : gateIds (networkSecurityHypothesis request a flows) .matchingDeniedFlow with
  | some ids =>
    rw [Option.getD_some, (nsg_gateIds_deniedFlow.mp h).2, mem_sortOn, List.mem_map]
  | none =>
    have hnil : (assessNsg request a flows).claimed = [] := by
      by_contra hn
      rw [nsg_gateIds_deniedFlow.mpr ⟨hn, rfl⟩] at h
      cases h
    simp [hnil]

/-- The connection test gate cites the chain's test. -/
theorem mem_monitor_ids {i : String} :
    i ∈ gateIdList (networkSecurityHypothesis request a flows) .connectionMonitorFailure ↔
      ∃ m ∈ (selectNsgChain request a flows).monitor.toList, m.observationId = i := by
  unfold gateIdList
  cases h : gateIds (networkSecurityHypothesis request a flows) .connectionMonitorFailure with
  | some ids =>
    obtain ⟨m, hm, rfl⟩ := nsg_gateIds_monitor.mp h
    rw [Option.mem_def] at hm
    simp [hm, eq_comm]
  | none =>
    have hnone : (selectNsgChain request a flows).monitor = none := by
      by_contra hn
      obtain ⟨m, hm⟩ := Option.ne_none_iff_exists'.mp hn
      rw [nsg_gateIds_monitor.mpr ⟨m, hm, rfl⟩] at h
      cases h
    simp [hnone]

theorem nsg_claimedFlows (hr : request.Accepted) (hg : flows ∈ nsgFlowGroups request a)
    {f : NetworkFlowObservation} :
    f ∈ contractClaimedFlows request (networkSecurityHypothesis request a flows) ↔
      f ∈ (assessNsg request a flows).claimed :=
  mem_contractClaimedFlows hr
    (fun _ hf => ⟨(claimed_candidate hg hf).1, (claimed_candidate hg hf).2.1.2.1⟩)
    (fun _ => mem_deniedFlow_ids)

theorem nsg_claimedTests (hr : request.Accepted) (hg : flows ∈ nsgFlowGroups request a)
    {m : ConnectionMonitorObservation} :
    m ∈ contractClaimedTests request (networkSecurityHypothesis request a flows) ↔
      m ∈ (selectNsgChain request a flows).monitor.toList := by
  refine mem_contractClaimedTests hr (fun m hm => ?_) (fun _ => mem_monitor_ids)
  obtain ⟨ho, hs, hc, f, -, -, p, hp, hid⟩ := chain_monitor hr hg (Option.mem_toList.mp hm)
  refine ⟨ho, hs, ?_, hc⟩
  show (selectNsgChain request a flows).path.map DependencyPath.pathId = some m.pathId
  rw [hp, Option.map_some, hid]

/-! ## Support -/

theorem recoveryAssessment_support {cause : ResourceId} {artifact : Option ChangeEvidenceArtifact}
    {candidate : Option MonitoringObservation} {c : CorrelationEvidenceCitation}
    (h : c ∈ (recoveryAssessment request cause artifact candidate).support) :
    ∃ o ∈ request.observations, ∃ k ∈ candidate, c = request.observationCitation o ∧
      recoversCandidate k o = true ∧ request.incidentEnd ≤ o.base.observedStart ∧
      k.base.observedEnd ≤ o.base.observedStart := by
  unfold recoveryAssessment at h
  split at h
  · simp [noRecovery] at h
  · rename_i recovery hrec
    obtain ⟨k, hk, hf⟩ := Option.bind_eq_some_iff.mp hrec
    have hm := List.mem_filter.mp (sortOn_head hf).1
    have hp := of_decide_eq_true hm.2
    have hc : c = request.observationCitation recovery := by
      dsimp only at h
      split at h <;> simpa using h
    exact ⟨recovery, hm.1, k, hk, hc, hp⟩

/-- Every recovery citation of an assessment is one of an observation. -/
theorem nsg_recovery_support {c : CorrelationEvidenceCitation}
    (h : c ∈ (assessNsg request a flows).recovery.support) :
    ∃ o ∈ request.observations, c = request.observationCitation o ∧
      request.incidentEnd ≤ o.base.observedStart := by
  unfold assessNsg at h
  dsimp only at h
  split at h
  · obtain ⟨o, ho, -, -, hc, -, he, -⟩ := recoveryAssessment_support h
    exact ⟨o, ho, hc, he⟩
  · simp [noRecovery] at h

/-- A citation of the causal support is of the change or of an observation. -/
theorem causalSupport_mem (hr : request.Accepted) (hg : flows ∈ nsgFlowGroups request a)
    {c : CorrelationEvidenceCitation}
    (h : c ∈ (assessNsg request a flows).causalSupport request a) :
    c = changeCitation a ∨ ∃ o ∈ request.observations, c = request.observationCitation o := by
  unfold NsgAssessment.causalSupport at h
  rcases List.mem_cons.mp h with rfl | h
  · exact Or.inl rfl
  refine Or.inr ?_
  rcases List.mem_append.mp h with h | h
  · rcases List.mem_append.mp h with h | h
    · obtain ⟨f, hf, rfl⟩ := List.mem_map.mp h
      exact ⟨_, (claimed_candidate hg hf).1, rfl⟩
    · obtain ⟨m, hm, rfl⟩ := Option.map_eq_some_iff.mp (Option.mem_toList.mp h)
      exact ⟨_, (chain_monitor hr hg hm).1, rfl⟩
  · obtain ⟨e, he, rfl⟩ := Option.map_eq_some_iff.mp (Option.mem_toList.mp h)
    exact ⟨_, (chain_endpoint hr hg he).1, rfl⟩

theorem support_subset {s : NsgAssessment} {c : CorrelationEvidenceCitation}
    (h : c ∈ s.support request a) : c ∈ s.causalSupport request a ++ s.recovery.support := by
  unfold NsgAssessment.support at h
  dsimp only at h
  split at h
  · exact (List.mem_filter.mp h).1
  · exact h

theorem nsg_support_mem (hr : request.Accepted) (hg : flows ∈ nsgFlowGroups request a)
    {c : CorrelationEvidenceCitation} (h : c ∈ (assessNsg request a flows).support request a) :
    c = changeCitation a ∨ ∃ o ∈ request.observations, c = request.observationCitation o := by
  rcases List.mem_append.mp (support_subset h) with h | h
  · exact causalSupport_mem hr hg h
  · obtain ⟨o, ho, hc, -⟩ := nsg_recovery_support h
    exact Or.inr ⟨o, ho, hc⟩

/-- The hypothesis always cites its change. -/
theorem change_supported (hr : request.Accepted) (ha : a ∈ request.changeArtifacts) :
    changeCitation a ∈ (assessNsg request a flows).support request a := by
  unfold NsgAssessment.support
  dsimp only
  have hm : changeCitation a ∈ (assessNsg request a flows).causalSupport request a :=
    List.mem_cons_self
  split
  · refine List.mem_filter.mpr ⟨List.mem_append_left _ hm, ?_⟩
    rw [List.all_eq_true]
    intro r hrec
    obtain ⟨o, ho, rfl, -⟩ := nsg_recovery_support hrec
    exact decide_eq_true (observationId_ne_changeId hr ho ha)
  · exact List.mem_append_left _ hm

theorem nsg_support_index (hr : request.Accepted) (ha : a ∈ request.changeArtifacts)
    (hg : flows ∈ nsgFlowGroups request a) {c : CorrelationEvidenceCitation}
    (h : c ∈ (assessNsg request a flows).support request a) : c ∈ request.evidenceIndex := by
  rcases nsg_support_mem hr hg h with rfl | ⟨o, ho, rfl⟩
  · exact changeCitation_mem ha
  · exact observationCitation_mem ho

/-- The supporting evidence of the hypothesis is the assessment's support. -/
theorem mem_nsg_support (hr : request.Accepted) (ha : a ∈ request.changeArtifacts)
    (hg : flows ∈ nsgFlowGroups request a) {c : CorrelationEvidenceCitation} :
    c ∈ (networkSecurityHypothesis request a flows).supportingEvidence ↔
      c ∈ (assessNsg request a flows).support request a :=
  mem_canonicalCitations hr fun _ hc => nsg_support_index hr ha hg hc

/-- The contract's candidate changes of a network security hypothesis are
its own change alone. -/
theorem nsg_candidateChanges (hr : request.Accepted) (ha : a ∈ request.changeArtifacts)
    (hg : flows ∈ nsgFlowGroups request a) {c : NormalizedChangeEvidence} :
    c ∈ candidateChanges request (networkSecurityHypothesis request a flows) ↔ c = a.evidence := by
  unfold candidateChanges
  rw [List.mem_map]
  simp only [List.mem_filter, decide_eq_true_eq]
  constructor
  · rintro ⟨b, ⟨hb, hwhy⟩, rfl⟩
    rcases hwhy with ⟨k, hk, -, hid, -⟩ | ⟨f, hf, hid⟩
    · rcases nsg_support_mem hr hg ((mem_nsg_support hr ha hg).mp hk) with rfl | ⟨o, ho, rfl⟩
      · rw [change_inj hr hb ha hid.symm]
      · exact absurd hid (observationId_ne_changeId hr ho hb)
    · rcases claimed_attribution hr hg ((nsg_claimedFlows hr hg).mp hf) with h | h
      · rw [h] at hid
        rw [change_inj hr hb ha (Option.some.inj hid).symm]
      · rw [h] at hid
        cases hid
  · rintro rfl
    refine ⟨a, ⟨ha, Or.inl ⟨changeCitation a,
      (mem_nsg_support hr ha hg).mpr (change_supported hr ha), rfl, rfl, ?_⟩⟩, rfl⟩
    rintro r ⟨⟩
    rfl

end AthenaContext.CorrelationNetworkChange
