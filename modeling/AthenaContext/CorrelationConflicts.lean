import AthenaContext.CorrelationDependency
import AthenaContext.CorrelationDigests

/-!
# Hard conflicts: engine against contract

The engine draws hard contradictions from complete coverage that is bound to
the query execution of the contrary observation; the contract demands a
contradiction wherever complete coverage matches the scope, and for every
change that a claimed flow is attributed to. The two sets of codes are equal
on a request exactly when its contrary evidence is bound and the changes
behind its dependency flows are sound.
-/

namespace AthenaContext.CorrelationConflicts

open OrdinalCollections CorrelationRules CorrelationEvidence CorrelationEnvelope
  CorrelationMatching CorrelationEngine CorrelationContract CorrelationIndex
  CorrelationSelection CorrelationRecords CorrelationNetworkChange CorrelationDependency
  CorrelationDigests

variable (request : CorrelationRequest)

/-! ## Contrary evidence -/

/-- An overlapping allowed flow that is the same flow as a claimed one. -/
def contraryFlow (flows : List NetworkFlowObservation) (f : NetworkFlowObservation) : Prop :=
  .networkFlow f ∈ request.observations ∧ f.decision = .allowed ∧ (∃ d ∈ flows, sameFlow f d) ∧
    request.overlapsIncident f.toObservationBase = true

/-- An overlapping healthy run of a claimed connection test. -/
def contraryTest (tests : List ConnectionMonitorObservation) (t : ConnectionMonitorObservation) :
    Prop :=
  .connectionMonitor t ∈ request.observations ∧ t.status = .succeeded ∧
    (∃ m ∈ tests, sameMonitor t m) ∧ request.overlapsIncident t.toObservationBase = true

/-- Complete coverage of the whole incident that matches a flow's scope. -/
def coversFlow (c : EvidenceCoverage) (f : NetworkFlowObservation) : Prop :=
  c ∈ request.coverage ∧ flowScopeMatches c f ∧ spansIncident request c ∧
    spansObservation c f.toObservationBase

/-- Complete coverage of the whole incident that matches a test's scope. -/
def coversTest (c : EvidenceCoverage) (t : ConnectionMonitorObservation) : Prop :=
  c ∈ request.coverage ∧ monitorScopeMatches c t ∧ spansIncident request c ∧
    spansObservation c t.toObservationBase

/-- When a contrary flow is covered at all, one is covered by a record that
accounts for the very query execution which observed it. -/
def flowConflictBound (flows : List NetworkFlowObservation) : Prop :=
  (∃ f c, contraryFlow request flows f ∧ coversFlow request c f) →
    ∃ f c, contraryFlow request flows f ∧ coversFlow request c f ∧
      coverageBindsQueryObservation request c (.networkFlow f)

/-- The same of contrary test runs. -/
def testConflictBound (tests : List ConnectionMonitorObservation) : Prop :=
  (∃ t c, contraryTest request tests t ∧ coversTest request c t) →
    ∃ t c, contraryTest request tests t ∧ coversTest request c t ∧
      coverageBindsQueryObservation request c (.connectionMonitor t)

/-- A change which a flow may be attributed to without a conflict. -/
def attributionSound (f : NetworkFlowObservation) : Prop :=
  ∀ a ∈ request.changeArtifacts, f.matchedChangeEvidenceId = some a.evidence.evidenceId →
    a.evidence.result ≠ .failed ∧ a.evidence.occurredAt ≤ request.incidentStart

/-- The evidence selected for every change and every network tuple of the
request is free of conflicts that only the contract would see. -/
structure ConflictEvidenceBound : Prop where
  changeFlows : ∀ a ∈ timelyChanges request, a.evidence.isSecurityRule = true →
    ∀ flows ∈ nsgFlowGroups request a,
      flowConflictBound request (selectNsgChain request a flows).flow.toList
  changeTests : ∀ a ∈ timelyChanges request, a.evidence.isSecurityRule = true →
    ∀ flows ∈ nsgFlowGroups request a,
      testConflictBound request (selectNsgChain request a flows).monitor.toList
  dependencyFlows : ∀ key ∈ dependencyKeys request, ∀ s ∈ dependencySelection request key,
    flowConflictBound request s.flow.toList
  dependencyTests : ∀ key ∈ dependencyKeys request, ∀ s ∈ dependencySelection request key,
    testConflictBound request s.monitor.toList
  dependencyChanges : ∀ key ∈ dependencyKeys request, ∀ s ∈ dependencySelection request key,
    ∀ f ∈ s.flow, attributionSound request f

/-! ## The two verdicts -/

/-- The hard contradiction codes which the engine attached. -/
def attachedHardConflict (h : RootCauseHypothesis) (code : ContradictionCode) : Prop :=
  ∃ k ∈ h.contradictions, k.hardConflict = true ∧ k.code = code

/-- Categories whose conflicts the contract derives again. -/
def conflictCategory : RootCauseCategory → Bool
  | .networkSecurityChange | .dependencyFailure | .routingChange | .deploymentChange => true
  | _ => false

/-- Engine and contract agree on the hard conflicts of a hypothesis. -/
def conflictsAgree (h : RootCauseHypothesis) : Prop :=
  (∀ code, attachedHardConflict h code ↔ mandatoryHardConflict request h code) ∧
    ((gateIds h .noHardConflict).isSome ↔ ∀ code, ¬ mandatoryHardConflict request h code)

variable {request}

section Accepted

variable (hr : request.Accepted) {flows : List NetworkFlowObservation}
  {tests : List ConnectionMonitorObservation}

variable (flows) in
include hr in
/-- The engine sees an allowed flow exactly when bound coverage vouches for
a contrary flow. -/
theorem allowedMatches_iff (hflows : ∀ d ∈ flows, .networkFlow d ∈ request.observations) :
    allowedMatches request flows ≠ [] ↔ ∃ f c, contraryFlow request flows f ∧
      coversFlow request c f ∧ coverageBindsQueryObservation request c (.networkFlow f) := by
  have hkey : ∀ f, .networkFlow f ∈ request.observations →
      ((∃ d ∈ flows, nsgChainKey f = nsgChainKey d) ↔ ∃ d ∈ flows, sameFlow f d) := by
    intro f hf
    refine exists_congr fun d => and_congr_right fun hd => ?_
    exact nsgChainKey_eq_iff (ruleResourceId_ne_empty hr (mem_networkFlows.mpr hf))
      (ruleResourceId_ne_empty hr (mem_networkFlows.mpr (hflows d hd)))
  constructor
  · intro h
    obtain ⟨⟨c, f⟩, hm⟩ := List.exists_mem_of_ne_nil _ h
    obtain ⟨ho, hd, hk, hover, hcov⟩ := mem_allowedMatches.mp hm
    obtain ⟨hc, hb, hscope, hinc, hobs⟩ := matchingFlowCoverage_some hcov
    exact ⟨f, c, ⟨ho, hd, (hkey f ho).mp hk, hover⟩, ⟨hc, hscope, hinc, hobs⟩, hb⟩
  · rintro ⟨f, c, ⟨ho, hd, hk, hover⟩, ⟨hc, hscope, hinc, hobs⟩, hb⟩
    obtain ⟨c', hc'⟩ := Option.isSome_iff_exists.mp
      (matchingFlowCoverage_isSome.mpr ⟨c, hc, hb, hscope, hinc, hobs⟩)
    exact List.ne_nil_of_mem
      (mem_allowedMatches.mpr ⟨ho, hd, (hkey f ho).mpr hk, hover, hc'⟩ :
        (c', f) ∈ allowedMatches request flows)

/-- The engine sees a healthy test exactly when bound coverage vouches for
a contrary run. -/
theorem healthyMatches_iff :
    healthyMatches request tests ≠ [] ↔ ∃ t c, contraryTest request tests t ∧
      coversTest request c t ∧ coverageBindsQueryObservation request c (.connectionMonitor t) := by
  constructor
  · intro h
    obtain ⟨⟨c, t⟩, hm⟩ := List.exists_mem_of_ne_nil _ h
    obtain ⟨ho, hd, hk, hover, hcov⟩ := mem_healthyMatches.mp hm
    obtain ⟨hc, hb, hscope, hinc, hobs⟩ := matchingMonitorCoverage_some hcov
    exact ⟨t, c, ⟨ho, hd, hk, hover⟩, ⟨hc, hscope, hinc, hobs⟩, hb⟩
  · rintro ⟨t, c, ⟨ho, hd, hk, hover⟩, ⟨hc, hscope, hinc, hobs⟩, hb⟩
    obtain ⟨c', hc'⟩ := Option.isSome_iff_exists.mp
      (matchingMonitorCoverage_isSome.mpr ⟨c, hc, hb, hscope, hinc, hobs⟩)
    exact List.ne_nil_of_mem
      (mem_healthyMatches.mpr ⟨ho, hd, hk, hover, hc'⟩ : (c', t) ∈ healthyMatches request tests)

/-- Codes drawn from observations, as far as the engine sees them. -/
theorem attached_observation_iff {code : ContradictionCode} :
    (∃ k ∈ networkObservationContradictions request flows tests,
        k.hardConflict = true ∧ k.code = code) ↔
      (code = .completeAllowedFlow ∧ allowedMatches request flows ≠ []) ∨
        code = .completeHealthyConnectionMonitor ∧ healthyMatches request tests ≠ [] := by
  constructor
  · rintro ⟨k, hk, -, rfl⟩
    rcases (networkObservationContradictions_mem hk).2 with ⟨hc, p, hp, -⟩ | ⟨hc, p, hp, -⟩
    · exact Or.inl ⟨hc, List.ne_nil_of_mem hp⟩
    · exact Or.inr ⟨hc, List.ne_nil_of_mem hp⟩
  · rintro (⟨rfl, h⟩ | ⟨rfl, h⟩)
    · obtain ⟨k, hk, hc⟩ := allowed_contradiction_iff.mpr h
      exact ⟨k, hk, (networkObservationContradictions_mem hk).1, hc⟩
    · obtain ⟨k, hk, hc⟩ := healthy_contradiction_iff.mpr h
      exact ⟨k, hk, (networkObservationContradictions_mem hk).1, hc⟩

/-- Codes drawn from a change, as the engine sees them. -/
theorem attached_change_iff (a : ChangeEvidenceArtifact) (failed late : String)
    {code : ContradictionCode} :
    (∃ k ∈ changeContradictions request a failed late, k.hardConflict = true ∧ k.code = code) ↔
      (code = .changeFailed ∧ a.evidence.result = .failed) ∨
        code = .changeAfterDegradation ∧ request.incidentStart < a.evidence.occurredAt := by
  constructor
  · rintro ⟨k, hk, -, rfl⟩
    rcases (changeContradictions_mem hk).2.2.2 with ⟨hc, hf, -⟩ | ⟨hc, hl, -⟩
    · exact Or.inl ⟨hc, hf⟩
    · exact Or.inr ⟨hc, hl⟩
  · rintro (⟨rfl, h⟩ | ⟨rfl, h⟩)
    · obtain ⟨k, hk, hc⟩ := (failed_contradiction_iff a failed late).mpr h
      exact ⟨k, hk, (changeContradictions_mem hk).1, hc⟩
    · obtain ⟨k, hk, hc⟩ := (late_contradiction_iff a failed late).mpr h
      exact ⟨k, hk, (changeContradictions_mem hk).1, hc⟩

/-- The contract's allowed-flow demand, in terms of the claimed flows. -/
theorem mandatory_allowed_iff {h : RootCauseHypothesis}
    (hclaimed : ∀ f, f ∈ contractClaimedFlows request h ↔ f ∈ flows)
    (hpath : ∀ d ∈ flows, h.affectedPathId = some d.pathId) :
    mandatoryHardConflict request h .completeAllowedFlow ↔
      ∃ f c, contraryFlow request flows f ∧ coversFlow request c f := by
  constructor
  · rintro ⟨f, hf, hd, ⟨d, hdm, hsame⟩, c, hc, -, hscope, hinc, hobs, hover⟩
    exact ⟨f, c, ⟨mem_networkFlows.mp hf, hd, ⟨d, (hclaimed d).mp hdm, hsame⟩, hover⟩,
      hc, hscope, hinc, hobs⟩
  · rintro ⟨f, c, ⟨hf, hd, ⟨d, hdm, hsame⟩, hover⟩, hc, hscope, hinc, hobs⟩
    refine ⟨f, mem_networkFlows.mpr hf, hd, ⟨d, (hclaimed d).mpr hdm, hsame⟩, c, hc, ?_,
      hscope, hinc, hobs, hover⟩
    rw [hpath d hdm, hscope.2.2.1, hsame.1]

/-- The contract's healthy-test demand, in terms of the claimed tests. -/
theorem mandatory_healthy_iff {h : RootCauseHypothesis}
    (hclaimed : ∀ m, m ∈ contractClaimedTests request h ↔ m ∈ tests)
    (hpath : ∀ m ∈ tests, h.affectedPathId = some m.pathId) :
    mandatoryHardConflict request h .completeHealthyConnectionMonitor ↔
      ∃ t c, contraryTest request tests t ∧ coversTest request c t := by
  constructor
  · rintro ⟨t, ht, hs, ⟨m, hm, hsame⟩, c, hc, -, hscope, hinc, hobs, hover⟩
    exact ⟨t, c, ⟨mem_connectionMonitors.mp ht, hs, ⟨m, (hclaimed m).mp hm, hsame⟩, hover⟩,
      hc, hscope, hinc, hobs⟩
  · rintro ⟨t, c, ⟨ht, hs, ⟨m, hm, hsame⟩, hover⟩, hc, hscope, hinc, hobs⟩
    refine ⟨t, mem_connectionMonitors.mpr ht, hs, ⟨m, (hclaimed m).mpr hm, hsame⟩, c, hc, ?_,
      hscope, hinc, hobs, hover⟩
    rw [hpath m hm, hscope.2.2.1, hsame.1]

/-- Agreement on codes settles the gate: it is stated exactly when the engine
attached nothing hard. -/
theorem conflictsAgree_of_codes {h : RootCauseHypothesis}
    (hgate : (gateIds h .noHardConflict).isSome ↔ ¬ ∃ k ∈ h.contradictions, k.hardConflict = true) :
    conflictsAgree request h ↔
      ∀ code, attachedHardConflict h code ↔ mandatoryHardConflict request h code := by
  refine ⟨And.left, fun hcodes => ⟨hcodes, ?_⟩⟩
  rw [hgate]
  constructor
  · intro hn code hm
    obtain ⟨k, hk, hhard, -⟩ := (hcodes code).mpr hm
    exact hn ⟨k, hk, hhard⟩
  · rintro hn ⟨k, hk, hhard⟩
    exact hn k.code ((hcodes k.code).mp ⟨k, hk, hhard, rfl⟩)

/-- The gate of a hypothesis and its contradictions exclude each other. -/
theorem noHardConflict_gate {h : RootCauseHypothesis} {contradictions : List CorrelationContradiction}
    (hk : ∀ k, k ∈ h.contradictions ↔ k ∈ contradictions)
    (hg : ∀ ids, gateIds h .noHardConflict = some ids ↔
      hasHardConflict contradictions = false ∧ ids = []) :
    (gateIds h .noHardConflict).isSome ↔ ¬ ∃ k ∈ h.contradictions, k.hardConflict = true := by
  have hex : (∃ k ∈ h.contradictions, k.hardConflict = true) ↔
      hasHardConflict contradictions = true := by
    rw [hasHardConflict_iff]
    exact exists_congr fun k => and_congr_left fun _ => hk k
  rw [Option.isSome_iff_exists, hex, Bool.not_eq_true]
  constructor
  · rintro ⟨ids, h⟩
    exact ((hg ids).mp h).1
  · exact fun h => ⟨[], (hg []).mpr ⟨h, rfl⟩⟩

end Accepted

/-! ## Network security changes -/

section NetworkChange

variable {a : ChangeEvidenceArtifact} {flows : List NetworkFlowObservation}

/-- Claimed flows and the chain's flow have the same contrary flows. -/
theorem contraryFlow_claimed (hr : request.Accepted) (hg : flows ∈ nsgFlowGroups request a)
    {f : NetworkFlowObservation} :
    contraryFlow request (assessNsg request a flows).claimed f ↔
      contraryFlow request (selectNsgChain request a flows).flow.toList f := by
  unfold contraryFlow
  refine and_congr_right fun _ => and_congr_right fun _ => and_congr_left fun _ => ?_
  constructor
  · rintro ⟨d, hd, hs⟩
    obtain ⟨d', hd', hs'⟩ := claimed_sameFlow hr hg hd
    exact ⟨d', Option.mem_toList.mpr hd', sameFlow.trans hs hs'⟩
  · rintro ⟨d, hd, hs⟩
    exact ⟨d, chain_flow_claimed (Option.mem_toList.mp hd), hs⟩

theorem nsg_attached_iff {code : ContradictionCode} :
    attachedHardConflict (networkSecurityHypothesis request a flows) code ↔
      ((code = .changeFailed ∧ a.evidence.result = .failed) ∨
        code = .changeAfterDegradation ∧ request.incidentStart < a.evidence.occurredAt) ∨
      (code = .completeAllowedFlow ∧
        allowedMatches request (assessNsg request a flows).claimed ≠ []) ∨
        code = .completeHealthyConnectionMonitor ∧
          healthyMatches request (selectNsgChain request a flows).monitor.toList ≠ [] := by
  rw [← attached_observation_iff, ← attached_change_iff a
    "The candidate NSG change did not succeed."
    "The candidate NSG change occurred after degradation began."]
  have hmem : ∀ k, k ∈ (networkSecurityHypothesis request a flows).contradictions ↔
      k ∈ networkContradictions request a (assessNsg request a flows).claimed
        (selectNsgChain request a flows).monitor := fun k => mem_made_contradictions
  constructor
  · rintro ⟨k, hk, hw⟩
    rcases List.mem_append.mp ((hmem k).mp hk) with hk | hk
    · exact Or.inl ⟨k, hk, hw⟩
    · exact Or.inr ⟨k, hk, hw⟩
  · rintro (⟨k, hk, hw⟩ | ⟨k, hk, hw⟩)
    · exact ⟨k, (hmem k).mpr (List.mem_append_left _ hk), hw⟩
    · exact ⟨k, (hmem k).mpr (List.mem_append_right _ hk), hw⟩

theorem nsg_path {f : NetworkFlowObservation} (hr : request.Accepted)
    (hg : flows ∈ nsgFlowGroups request a) (hf : f ∈ (selectNsgChain request a flows).flow) :
    (networkSecurityHypothesis request a flows).affectedPathId = some f.pathId := by
  obtain ⟨p, hp, -, hid, -⟩ := chain_path hr hg hf
  show (selectNsgChain request a flows).path.map DependencyPath.pathId = some f.pathId
  rw [hp, Option.map_some, hid]

/-- A network security hypothesis agrees exactly when its contrary flows and
tests are bound. -/
theorem nsg_conflictsAgree_iff (hr : request.Accepted) (ha : a ∈ request.changeArtifacts)
    (hg : flows ∈ nsgFlowGroups request a) :
    conflictsAgree request (networkSecurityHypothesis request a flows) ↔
      flowConflictBound request (selectNsgChain request a flows).flow.toList ∧
        testConflictBound request (selectNsgChain request a flows).monitor.toList := by
  have hgate := noHardConflict_gate (h := networkSecurityHypothesis request a flows)
    (fun k => mem_made_contradictions) (fun ids => nsg_gateIds_noHardConflict)
  have hchange : ∀ p : NormalizedChangeEvidence → Prop,
      (∃ c ∈ candidateChanges request (networkSecurityHypothesis request a flows), p c) ↔
        p a.evidence := by
    intro p
    simp only [nsg_candidateChanges hr ha hg, exists_eq_left]
  have hallowed := mandatory_allowed_iff (fun f => nsg_claimedFlows hr hg (f := f)) (by
    intro d hd
    obtain ⟨d', hd', hs⟩ := claimed_sameFlow hr hg hd
    rw [hs.1]
    exact nsg_path hr hg hd')
  have hhealthy := mandatory_healthy_iff (fun m => nsg_claimedTests hr hg (m := m)) (by
    intro m hm
    obtain ⟨-, -, -, f, hf, hs, -⟩ := chain_monitor hr hg (Option.mem_toList.mp hm)
    rw [hs.1]
    exact nsg_path hr hg hf)
  have hseen := allowedMatches_iff hr (assessNsg request a flows).claimed
    (fun d hd => (claimed_candidate hg hd).1)
  have hseenTests := @healthyMatches_iff request
    (selectNsgChain request a flows).monitor.toList
  simp only [contraryFlow_claimed hr hg] at hallowed hseen
  rw [conflictsAgree_of_codes hgate]
  constructor
  · intro h
    refine ⟨fun hc => ?_, fun hc => ?_⟩
    · have hk := nsg_attached_iff.mp ((h .completeAllowedFlow).mpr (hallowed.mpr hc))
      simpa [hseen] using hk
    · have hk := nsg_attached_iff.mp ((h .completeHealthyConnectionMonitor).mpr (hhealthy.mpr hc))
      simpa [hseenTests] using hk
  · rintro ⟨hflow, htest⟩ code
    rw [nsg_attached_iff]
    cases code with
    | changeFailed => simp [mandatoryHardConflict, hchange]
    | changeAfterDegradation => simp [mandatoryHardConflict, hchange]
    | completeAllowedFlow =>
      rw [hallowed]
      simp only [reduceCtorEq, false_and, or_false, false_or, true_and, hseen]
      exact ⟨fun ⟨f, c, hf, hc, _⟩ => ⟨f, c, hf, hc⟩, hflow⟩
    | completeHealthyConnectionMonitor =>
      rw [hhealthy]
      simp only [reduceCtorEq, false_and, false_or, true_and, hseenTests]
      exact ⟨fun ⟨t, c, ht, hc, _⟩ => ⟨t, c, ht, hc⟩, htest⟩
    | recoveryBeforeCorrection => simp [mandatoryHardConflict]
    | competingCause => simp [mandatoryHardConflict]

end NetworkChange

/-! ## Dependencies -/

section Dependency

variable {key : List String} {s : DependencySelection}

/-- A dependency hypothesis agrees exactly when its contrary evidence is
bound and the change behind its flow neither failed nor came too late. -/
theorem dependency_conflictsAgree_iff (hr : request.Accepted)
    (hs : DependencySelected request key s) :
    conflictsAgree request (dependencyHypothesis request s) ↔
      flowConflictBound request s.flow.toList ∧ testConflictBound request s.monitor.toList ∧
        ∀ f ∈ s.flow, attributionSound request f := by
  have hfailed : (s.monitor.toList.filter fun m => m.status = .failed) = s.monitor.toList := by
    rw [List.filter_eq_self]
    intro m hm
    exact decide_eq_true (selected_monitor hs (Option.mem_toList.mp hm)).2.2.1
  have hcontradictions : s.contradictions request =
      networkObservationContradictions request s.flow.toList s.monitor.toList := by
    unfold DependencySelection.contradictions
    rw [hfailed]
  have hgate := noHardConflict_gate (h := dependencyHypothesis request s)
    (fun k => mem_made_contradictions) (fun ids => dependency_gateIds_noHardConflict)
  have hattached : ∀ code, attachedHardConflict (dependencyHypothesis request s) code ↔
      (code = .completeAllowedFlow ∧ allowedMatches request s.flow.toList ≠ []) ∨
        code = .completeHealthyConnectionMonitor ∧
          healthyMatches request s.monitor.toList ≠ [] := by
    intro code
    rw [← attached_observation_iff, ← hcontradictions]
    exact exists_congr fun k => and_congr_left fun _ => mem_made_contradictions
  have hallowed := mandatory_allowed_iff (fun f => dependency_claimedFlows hr hs (f := f))
    (fun d hd => congrArg some ((selected_path hs).1 d (Option.mem_toList.mp hd)).symm)
  have hhealthy := mandatory_healthy_iff (fun m => dependency_claimedTests hr hs (m := m))
    (fun m hm => congrArg some ((selected_path hs).2 m (Option.mem_toList.mp hm)).symm)
  have hseen := allowedMatches_iff hr s.flow.toList
    (fun d hd => (selected_flow hs (Option.mem_toList.mp hd)).1)
  have hseenTests := @healthyMatches_iff request s.monitor.toList
  have hsound : (∀ f ∈ s.flow, attributionSound request f) ↔
      ¬ mandatoryHardConflict request (dependencyHypothesis request s) .changeFailed ∧
        ¬ mandatoryHardConflict request (dependencyHypothesis request s)
          .changeAfterDegradation := by
    constructor
    · intro h
      constructor
      · rintro ⟨c, hc, hbad⟩
        obtain ⟨b, hb, rfl, f, hf, hid⟩ := (dependency_candidateChanges hr hs).mp hc
        exact (h f hf b hb hid).1 hbad
      · rintro ⟨c, hc, hbad⟩
        obtain ⟨b, hb, rfl, f, hf, hid⟩ := (dependency_candidateChanges hr hs).mp hc
        exact absurd hbad (not_lt.mpr (h f hf b hb hid).2)
    · rintro ⟨hnf, hnl⟩ f hf b hb hid
      have hc := (dependency_candidateChanges hr hs).mpr ⟨b, hb, rfl, f, hf, hid⟩
      exact ⟨fun hbad => hnf ⟨_, hc, hbad⟩, not_lt.mp fun hbad => hnl ⟨_, hc, hbad⟩⟩
  rw [conflictsAgree_of_codes hgate, hsound]
  constructor
  · intro h
    refine ⟨fun hc => ?_, fun hc => ?_, fun hm => ?_, fun hm => ?_⟩
    · have hk := (hattached _).mp ((h .completeAllowedFlow).mpr (hallowed.mpr hc))
      simpa [hseen] using hk
    · have hk := (hattached _).mp ((h .completeHealthyConnectionMonitor).mpr (hhealthy.mpr hc))
      simpa [hseenTests] using hk
    · simpa using (hattached _).mp ((h .changeFailed).mpr hm)
    · simpa using (hattached _).mp ((h .changeAfterDegradation).mpr hm)
  · rintro ⟨hflow, htest, hnf, hnl⟩ code
    rw [hattached]
    cases code with
    | changeFailed => simp [hnf]
    | changeAfterDegradation => simp [hnl]
    | completeAllowedFlow =>
      rw [hallowed]
      simp only [reduceCtorEq, false_and, or_false, true_and, hseen]
      exact ⟨fun ⟨f, c, hf, hc, _⟩ => ⟨f, c, hf, hc⟩, hflow⟩
    | completeHealthyConnectionMonitor =>
      rw [hhealthy]
      simp only [reduceCtorEq, false_and, false_or, true_and, hseenTests]
      exact ⟨fun ⟨t, c, ht, hc, _⟩ => ⟨t, c, ht, hc⟩, htest⟩
    | recoveryBeforeCorrection => simp [mandatoryHardConflict]
    | competingCause => simp [mandatoryHardConflict]

end Dependency

/-! ## Other changes -/

/-- A change hypothesis always agrees: it claims no flow and no test. -/
theorem change_conflictsAgree (hr : request.Accepted) {a : ChangeEvidenceArtifact}
    (ha : a ∈ request.changeArtifacts) : conflictsAgree request (changeHypothesis request a) := by
  have hgate := noHardConflict_gate (h := changeHypothesis request a)
    (fun k => mem_made_contradictions) (fun ids => change_gateIds_noHardConflict)
  rw [conflictsAgree_of_codes hgate]
  have hattached : ∀ code, attachedHardConflict (changeHypothesis request a) code ↔
      (code = .changeFailed ∧ a.evidence.result = .failed) ∨
        code = .changeAfterDegradation ∧ request.incidentStart < a.evidence.occurredAt := by
    intro code
    rw [← attached_change_iff a "The candidate change did not succeed."
      "The candidate change occurred after degradation began."]
    exact exists_congr fun k => and_congr_left fun _ => mem_made_contradictions
  intro code
  rw [hattached]
  cases code <;>
    simp [mandatoryHardConflict, change_candidateChanges hr ha, change_claims]

/-! ## Agreement over a whole request -/

theorem mem_timelyChanges {a : ChangeEvidenceArtifact} : a ∈ timelyChanges request ↔
    a ∈ request.changeArtifacts ∧ a.evidence.occurredAt ≤ request.incidentStart := by
  simp [timelyChanges]

theorem observationHypotheses_category {h : RootCauseHypothesis}
    (hh : h ∈ observationHypotheses request) : conflictCategory h.category = false := by
  unfold observationHypotheses at hh
  obtain ⟨o, -, hh⟩ := List.mem_filterMap.mp hh
  obtain ⟨category, hc, rfl⟩ := Option.map_eq_some_iff.mp hh
  show conflictCategory category = false
  unfold observationCategory at hc
  split at hc
  · rename_i g
    split at hc
    · cases hc
      unfold guestCategory
      split <;> rfl
    · cases hc
  · split at hc
    · cases hc
      rfl
    · cases hc
  · split at hc
    · cases hc
      rfl
    · cases hc
  · cases hc

/-- Engine and contract agree on the hard conflicts of all hypotheses of a
request exactly when its conflict evidence is bound. -/
theorem computeHypotheses_conflictsAgree_iff (request : CorrelationRequest)
    (sha : HypothesisDigest) (hr : request.Accepted) :
    (∀ h ∈ computeHypotheses request sha, conflictCategory h.category = true →
      conflictsAgree request h) ↔ ConflictEvidenceBound request := by
  constructor
  · intro hall
    have hcandidate : ∀ h ∈ candidateHypotheses request, conflictCategory h.category = true →
        conflictsAgree request h := fun h hh => hall h (candidate_computed sha hh)
    have hnsg : ∀ a ∈ timelyChanges request, a.evidence.isSecurityRule = true →
        ∀ flows ∈ nsgFlowGroups request a,
          flowConflictBound request (selectNsgChain request a flows).flow.toList ∧
            testConflictBound request (selectNsgChain request a flows).monitor.toList := by
      intro a ha hrule flows hg
      refine (nsg_conflictsAgree_iff hr (mem_timelyChanges.mp ha).1 hg).mp ?_
      exact hcandidate _ (mem_candidateHypotheses.mpr (Or.inl ⟨a, ha, hrule, flows, hg, rfl⟩)) rfl
    have hdependency : ∀ key ∈ dependencyKeys request, ∀ s ∈ dependencySelection request key,
        flowConflictBound request s.flow.toList ∧ testConflictBound request s.monitor.toList ∧
          ∀ f ∈ s.flow, attributionSound request f := by
      intro key hkey s hs
      refine (dependency_conflictsAgree_iff hr (dependencySelection_selected hs)).mp ?_
      exact hcandidate _ (mem_candidateHypotheses.mpr
        (Or.inr (Or.inr (Or.inl ⟨key, hkey, s, hs, rfl⟩)))) rfl
    exact ⟨fun a ha hrule flows hg => (hnsg a ha hrule flows hg).1,
      fun a ha hrule flows hg => (hnsg a ha hrule flows hg).2,
      fun key hkey s hs => (hdependency key hkey s hs).1,
      fun key hkey s hs => (hdependency key hkey s hs).2.1,
      fun key hkey s hs => (hdependency key hkey s hs).2.2⟩
  · intro hb h hh hcat
    rcases computed_cases hh with hh | rfl
    · rcases mem_candidateHypotheses.mp hh with ⟨a, ha, hrule, flows, hg, rfl⟩ |
        ⟨a, ha, -, rfl⟩ | ⟨key, hkey, s, hs, rfl⟩ | ho
      · exact (nsg_conflictsAgree_iff hr (mem_timelyChanges.mp ha).1 hg).mpr
          ⟨hb.changeFlows a ha hrule flows hg, hb.changeTests a ha hrule flows hg⟩
      · exact change_conflictsAgree hr (mem_timelyChanges.mp ha).1
      · exact (dependency_conflictsAgree_iff hr (dependencySelection_selected hs)).mpr
          ⟨hb.dependencyFlows key hkey s hs, hb.dependencyTests key hkey s hs,
            hb.dependencyChanges key hkey s hs⟩
      · rw [observationHypotheses_category ho] at hcat
        cases hcat
    · cases hcat

/-! ## A denied flow attributed to a failed change -/

/-- Virtual machine of the incident. -/
def sampleVm : ResourceId :=
  "/subscriptions/s/resourcegroups/g/providers/compute/vms/vm"

/-- Database which the virtual machine depends on. -/
def sampleDb : ResourceId :=
  "/subscriptions/s/resourcegroups/g/providers/sql/servers/db"

/-- Network security group on the path between them. -/
def sampleNsg : ResourceId :=
  "/subscriptions/s/resourcegroups/g/providers/microsoft.network/networksecuritygroups/nsg"

/-- Rule of the network security group. -/
def sampleRule : ResourceId := sampleNsg ++ "/securityrules/deny"

/-- Blob of the monitoring bundle. -/
def sampleBlob : VersionPinnedBlobReference := ⟨"bundle.json", "v1", "sha256:bundle"⟩

/-- The change of the rule. -/
def sampleChange (result : ChangeResult) : ChangeEvidenceArtifact where
  evidence :=
    { evidenceId := "c1"
      changeKey := "sha256:key"
      sourceRecordReference := "record-1"
      targetResourceId := sampleRule
      operation := .update
      result
      changedProperties := [⟨"properties.access", some "before", some "after", false⟩]
      occurredAt := 1000
      receivedAt := 1000 }
  artifactDigest := "sha256:artifact"
  handoffArtifact := ⟨"change.json", "v1", "sha256:change"⟩

/-- Common fields of a sample observation. -/
def sampleBase (id : String) (subject : ResourceId) (start finish : UtcDateTime) :
    ObservationBase :=
  ⟨id, subject, start, finish, "root-" ++ id, "observation", none, none⟩

/-- Health of the virtual machine as its endpoint reports it. -/
def sampleEndpoint (id : String) (status : HealthState) (start finish : UtcDateTime) :
    EndpointHealthObservation where
  toObservationBase := sampleBase id sampleVm start finish
  pathId := "p1"
  status
  backendResourceIds := {sampleDb}

/-- A denied connection from the virtual machine to the database, attributed
to the change of the rule. -/
def sampleFlow : NetworkFlowObservation where
  toObservationBase := sampleBase "f1" sampleVm 2000 3000
  pathId := "p1"
  decision := .denied
  direction := .outbound
  protocol := .tcp
  sourceResourceId := sampleVm
  destinationResourceId := sampleDb
  sourceAddress := "10.0.0.4"
  destinationAddress := "10.0.0.5"
  sourcePort := some 50000
  destinationPort := some 1433
  enforcementResourceId := sampleNsg
  ruleResourceId := some sampleRule
  fiveTupleDigest := sha256Hex (tupleText .outbound .tcp sampleVm sampleDb "10.0.0.4" "10.0.0.5"
    (some 50000) (some 1433))
  effectiveRuleAttribution := true
  attributionMethod := some .ipFlowVerify
  causalEffect := some .introducedDenyForTuple
  attributionProofDigest := some "sha256:proof"
  matchedChangeKey := some "sha256:key"
  matchedChangeEvidenceId := some "c1"
  matchedChangeArtifactDigest := some "sha256:artifact"
  matchedPropertyPaths := ["properties.access"]

/-- Coverage of the endpoint, whose detail no flow needs. -/
def sampleCoverage : EvidenceCoverage where
  coverageId := "k1"
  family := .endpointHealth
  scope := ⟨{sampleVm, sampleDb}, some "p1", none, none, none, none, "sha256:scope"⟩
  sourceRootReference := "root-k1"
  coverageStart := 0
  coverageEnd := 3000
  controlProvenance := none
  queryExecutionDigests := none
  status := .complete
  detail := none

/-- Monitoring evidence of the incident. -/
def sampleBundle : MonitoringEvidenceBundle where
  schemaVersion := .legacy
  observedStart := 0
  observedEnd := 3000
  observations := [.endpointHealth (sampleEndpoint "e0" .healthy 0 1000),
    .endpointHealth (sampleEndpoint "e1" .unavailable 2000 3000), .networkFlow sampleFlow]
  coverage := [sampleCoverage]

/-- An incident of the virtual machine after a change of the rule. -/
def sampleRequest (result : ChangeResult) : CorrelationRequest :=
  let bare : CorrelationRequest :=
    { requestDigest := "sha256:request"
      ruleCatalogDigest := "sha256:rules"
      transitionDigest := "sha256:transition"
      inventoryDigest := "sha256:inventory"
      issuedAt := 3000
      trustedAsOf := 3000
      expiresAt := 4000
      contextBinding := ⟨.publishedRuntime, "sha256:binding",
        [⟨"p1", {sampleVm, sampleDb, sampleNsg, sampleRule}⟩]⟩
      incidentAnchor := ⟨sampleVm, .healthy, .unavailable, 2000, 3000, [], []⟩
      monitoringEvidence := sampleBlob
      monitoringBundle := sampleBundle
      changeArtifacts := [sampleChange result] }
  { bare with
    incidentAnchor := ⟨sampleVm, .healthy, .unavailable, 2000, 3000,
      [endpointCitation bare (sampleEndpoint "e0" .healthy 0 1000)],
      [endpointCitation bare (sampleEndpoint "e1" .unavailable 2000 3000)]⟩ }

theorem segments_vm : resourceSegments sampleVm =
    ["", "subscriptions", "s", "resourcegroups", "g", "providers", "compute", "vms", "vm"] :=
  rfl

theorem segments_db : resourceSegments sampleDb =
    ["", "subscriptions", "s", "resourcegroups", "g", "providers", "sql", "servers", "db"] :=
  rfl

theorem segments_nsg : resourceSegments sampleNsg = ["", "subscriptions", "s", "resourcegroups", "g",
    "providers", "microsoft.network", "networksecuritygroups", "nsg"] :=
  rfl

theorem segments_rule : resourceSegments sampleRule = ["", "subscriptions", "s", "resourcegroups",
    "g", "providers", "microsoft.network", "networksecuritygroups", "nsg", "securityrules",
    "deny"] := by
  decide +kernel

theorem canonical_vm : canonicalResourceId sampleVm = true := by
  rw [canonicalResourceId, segments_vm]
  decide

theorem canonical_db : canonicalResourceId sampleDb = true := by
  rw [canonicalResourceId, segments_db]
  decide

theorem canonical_nsg : canonicalResourceId sampleNsg = true := by
  rw [canonicalResourceId, segments_nsg]
  decide

theorem canonical_rule : canonicalResourceId sampleRule = true := by
  rw [canonicalResourceId, segments_rule]
  decide

theorem sampleFlow_valid : sampleFlow.Valid where
  base := ⟨canonical_vm, by decide⟩
  resources := ⟨canonical_vm, canonical_db, canonical_nsg, fun r hr => by
    cases hr
    exact canonical_rule⟩
  ports := by decide
  tuple := rfl
  rule := fun r hr => by
    cases hr
    have hnsg : resourceSegments sampleFlow.enforcementResourceId = _ := segments_nsg
    rw [ruleBelongsTo, hnsg, segments_rule]
    decide
  attributed := by decide
  unattributed := by decide
  orderedPaths := by decide
  causalPaths := by decide +kernel

theorem sampleEndpoint_valid (id : String) (status : HealthState) {start finish : UtcDateTime}
    (h : start ≤ finish) :
    (MonitoringObservation.endpointHealth (sampleEndpoint id status start finish)).Valid := by
  have hone : (sampleEndpoint id status start finish).backendResourceIds.card = 1 :=
    Finset.card_singleton sampleDb
  refine ⟨⟨canonical_vm, h⟩, by omega, fun r hr => ?_⟩
  rw [Finset.mem_singleton.mp hr]
  exact canonical_db

theorem sampleCoverage_valid : sampleCoverage.Valid where
  monitoringFamily := by decide
  resources := by
    refine ⟨by decide, by decide, fun r hr => ?_⟩
    rcases Finset.mem_insert.mp hr with rfl | hr
    · exact canonical_vm
    · rw [Finset.mem_singleton.mp hr]
      exact canonical_db
  interval := by decide
  executions := by decide
  detail := by decide
  flowScope := by decide
  monitorScope := by decide

theorem sampleBundle_valid : sampleBundle.Valid where
  interval := by decide
  observations := List.forall_mem_cons.mpr ⟨sampleEndpoint_valid _ _ (by decide),
    List.forall_mem_cons.mpr ⟨sampleEndpoint_valid _ _ (by decide),
      List.forall_mem_singleton.mpr sampleFlow_valid⟩⟩
  observationOrder := by decide
  observationCount := by decide
  coverage := List.forall_mem_singleton.mpr sampleCoverage_valid
  coverageOrder := by decide
  coverageCount := by decide
  contained := by decide
  coverageContained := by decide
  provenance := by decide

theorem sampleChange_valid (result : ChangeResult) : (sampleChange result).evidence.Valid where
  target := canonical_rule
  received := le_refl _
  references := List.forall_mem_singleton.mpr (.inl nofun)
  ordered := List.pairwise_singleton _ _
  folded := List.nodup_singleton _
  bounded := Nat.le_add_left 1 63

theorem sampleChange_rule (result : ChangeResult) :
    (sampleChange result).evidence.isSecurityRule = true := by
  rw [NormalizedChangeEvidence.isSecurityRule, resourceType]
  have hrule : resourceSegments (sampleChange result).evidence.targetResourceId = _ := segments_rule
  rw [hrule]
  decide

theorem sampleTransition_valid (result : ChangeResult) :
    (sampleRequest result).incidentAnchor.Valid where
  resource := canonical_vm
  changed := nofun
  previousOrder := List.pairwise_singleton _ _
  currentOrder := List.pairwise_singleton _ _
  previousCount := ⟨le_refl 1, Nat.le_add_left 1 31⟩
  currentCount := ⟨le_refl 1, Nat.le_add_left 1 31⟩
  separate := by cases result <;> decide
  start := by cases result <;> decide
  finish := by cases result <;> decide
  interval := by cases result <;> decide
  onset := by cases result <;> decide
  affected := by cases result <;> decide

/-- The sample request passes its validators whatever the change's result. -/
theorem sampleRequest_accepted (result : ChangeResult) : (sampleRequest result).Accepted where
  window := by cases result <;> decide
  bundle := sampleBundle_valid
  transition := sampleTransition_valid result
  notNewer := by cases result <;> decide
  changes := List.forall_mem_singleton.mpr (sampleChange_valid result)
  changeOrder := List.pairwise_singleton _ _
  changeCount := Nat.le_add_left 1 255
  changesNotNewer := by cases result <;> decide
  attribution := List.forall_mem_singleton.mpr fun _ =>
    ⟨sampleChange result, List.mem_cons_self, rfl, rfl, rfl, rfl,
      sampleChange_rule result, by simp [sampleFlow, sampleChange]⟩
  indexIds := by cases result <;> decide
  indexCount := by cases result <;> decide
  indexResources := by cases result <;> decide
  incidentEvidence := by cases result <;> decide
  previousHealth := by cases result <;> decide
  currentHealth := by cases result <;> decide
  pathOrder := by cases result <;> decide
  pathCount := by cases result <;> decide
  pathResources := by cases result <;> decide
  governed := by cases result <;> decide
  coverageGoverned := by cases result <;> decide

theorem parent_rule : parentNsgId sampleRule = some sampleNsg := by
  rw [parentNsgId, segments_rule]
  rfl

/-- The attributed flow is a group of its own. -/
theorem sampleFlow_group (result : ChangeResult) :
    [sampleFlow] ∈ nsgFlowGroups (sampleRequest result) (sampleChange result) := by
  have hflows : networkFlows (sampleRequest result).observations = [sampleFlow] := rfl
  have hbinds : flowBindsChange sampleFlow (sampleChange result) :=
    ⟨rfl, rfl, rfl, parent_rule.symm, rfl, rfl, rfl, by simp [sampleFlow, sampleChange]⟩
  have hconcurrent : concurrent (sampleRequest result) sampleFlow.toObservationBase := by
    cases result <;> decide
  have hgrouped : nsgGroupedFlows (sampleRequest result) (sampleChange result) = [sampleFlow] := by
    rw [nsgGroupedFlows, hflows]
    refine List.filter_eq_self.mpr (List.forall_mem_singleton.mpr (decide_eq_true ?_))
    exact ⟨⟨rfl, hconcurrent, .inl hbinds⟩, _, rfl, Finset.mem_insert_self _ _, .inl rfl⟩
  rw [nsgFlowGroups, hgrouped, groupsOn_singleton]
  exact List.mem_singleton_self _

/-- Agreement at a change that succeeded. -/
theorem computeHypotheses_conflictsAgree_succeeded :
    (∀ h ∈ computeHypotheses (sampleRequest .succeeded) enumerationDigest,
      conflictCategory h.category = true → conflictsAgree (sampleRequest .succeeded) h) ↔
        ConflictEvidenceBound (sampleRequest .succeeded) :=
  computeHypotheses_conflictsAgree_iff (sampleRequest .succeeded) enumerationDigest
    (sampleRequest_accepted .succeeded)

/-- At a change that failed, the dependency hypothesis of the flow which is
attributed to it carries no `changeFailed`, which the contract demands. -/
theorem failedAttribution_disagrees :
    (sampleRequest .failed).Accepted ∧
      ∃ h ∈ computeHypotheses (sampleRequest .failed) enumerationDigest,
        conflictCategory h.category = true ∧ ¬ conflictsAgree (sampleRequest .failed) h := by
  have hr := sampleRequest_accepted .failed
  have hsel : ∃ key ∈ dependencyKeys (sampleRequest .failed),
      ∃ s ∈ dependencySelection (sampleRequest .failed) key,
        ∃ f ∈ s.flow, f.matchedChangeEvidenceId = some "c1" := by decide +kernel
  obtain ⟨key, hkey, s, hs, f, hf, hid⟩ := hsel
  refine ⟨hr, dependencyHypothesis (sampleRequest .failed) s, ?_, rfl, ?_⟩
  · exact candidate_computed enumerationDigest (mem_candidateHypotheses.mpr
      (Or.inr (Or.inr (Or.inl ⟨key, hkey, s, hs, rfl⟩))))
  · intro h
    have hsound := ((dependency_conflictsAgree_iff hr (dependencySelection_selected hs)).mp h).2.2
    exact (hsound f hf (sampleChange .failed) List.mem_cons_self hid).1 rfl

end AthenaContext.CorrelationConflicts
