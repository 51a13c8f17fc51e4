import AthenaContext.CorrelationIndex

/-!
# What the engine selects

Specifications of the engine's searches: coverage matching, the chain of a
network security change, its flow groups and claimed flows, dependency
selections, recoveries and contradictions. Later proofs about a hypothesis
use these statements and never open a search again.
-/

namespace AthenaContext.CorrelationSelection

open OrdinalCollections CorrelationRules CorrelationEvidence CorrelationEnvelope CorrelationMatching
  CorrelationEngine

variable {request : CorrelationRequest}

/-! ## Coverage -/

theorem matchingFlowCoverage_some {f : NetworkFlowObservation} {c : EvidenceCoverage}
    (h : matchingFlowCoverage request f = some c) :
    c ∈ request.coverage ∧ coverageBindsQueryObservation request c (.networkFlow f) ∧
      flowScopeMatches c f ∧ spansIncident request c ∧ spansObservation c f.toObservationBase := by
  have hm := List.mem_filter.mp (sortOn_head h).1
  exact ⟨hm.1, of_decide_eq_true hm.2⟩

theorem matchingFlowCoverage_isSome {f : NetworkFlowObservation} :
    (matchingFlowCoverage request f).isSome ↔
      ∃ c ∈ request.coverage, coverageBindsQueryObservation request c (.networkFlow f) ∧
        flowScopeMatches c f ∧ spansIncident request c ∧
        spansObservation c f.toObservationBase := by
  rw [matchingFlowCoverage, sortOn_head_isSome]
  simp only [List.mem_filter, decide_eq_true_eq]

theorem matchingMonitorCoverage_some {m : ConnectionMonitorObservation} {c : EvidenceCoverage}
    (h : matchingMonitorCoverage request m = some c) :
    c ∈ request.coverage ∧ coverageBindsQueryObservation request c (.connectionMonitor m) ∧
      monitorScopeMatches c m ∧ spansIncident request c ∧
      spansObservation c m.toObservationBase := by
  have hm := List.mem_filter.mp (sortOn_head h).1
  exact ⟨hm.1, of_decide_eq_true hm.2⟩

theorem matchingMonitorCoverage_isSome {m : ConnectionMonitorObservation} :
    (matchingMonitorCoverage request m).isSome ↔
      ∃ c ∈ request.coverage, coverageBindsQueryObservation request c (.connectionMonitor m) ∧
        monitorScopeMatches c m ∧ spansIncident request c ∧
        spansObservation c m.toObservationBase := by
  rw [matchingMonitorCoverage, sortOn_head_isSome]
  simp only [List.mem_filter, decide_eq_true_eq]

theorem matchingEndpointCoverage_isSome {e : EndpointHealthObservation} :
    (matchingEndpointCoverage request e).isSome ↔
      ∃ c ∈ request.coverage, coverageBindsQueryObservation request c (.endpointHealth e) ∧
        endpointScopeMatches c e ∧ spansIncident request c ∧
        spansObservation c e.toObservationBase := by
  rw [matchingEndpointCoverage, sortOn_head_isSome]
  simp only [List.mem_filter, decide_eq_true_eq]

/-! ## Chains -/

theorem mem_matchingFailedMonitors {f : NetworkFlowObservation}
    {m : ConnectionMonitorObservation} :
    m ∈ matchingFailedMonitors request f ↔
      .connectionMonitor m ∈ request.observations ∧ m.status = .failed ∧ sameNetworkTuple f m ∧
        concurrent request m.toObservationBase := by
  simp only [matchingFailedMonitors, mem_sortOn, List.mem_filter, mem_connectionMonitors,
    decide_eq_true_eq]

theorem mem_matchingDegradedEndpoints {destination : ResourceId} {p : DependencyPath}
    {e : EndpointHealthObservation} :
    e ∈ matchingDegradedEndpoints request destination p ↔
      .endpointHealth e ∈ request.observations ∧ e.pathId = p.pathId ∧
        e.subjectResourceId = request.affectedResourceId ∧
        (e.subjectResourceId = destination ∨ destination ∈ e.backendResourceIds) ∧
        e.status.adverse = true ∧ concurrent request e.toObservationBase := by
  simp only [matchingDegradedEndpoints, mem_sortOn, List.mem_filter, mem_endpointObservations,
    decide_eq_true_eq]

/-- What every compared chain consists of. -/
structure ChainSelected (request : CorrelationRequest) (a : ChangeEvidenceArtifact)
    (flows : List NetworkFlowObservation) (chain : NsgChain) : Prop where
  bare : chain.flow = none → chain.monitor = none ∧ chain.endpoint = none ∧
    chain.path = pathForResources request request.affectedResourceId a.evidence.targetResourceId
  flow : ∀ f ∈ chain.flow, f ∈ flows ∧ chain.path = request.path? f.pathId
  monitor : ∀ m ∈ chain.monitor, ∃ f ∈ chain.flow, m ∈ matchingFailedMonitors request f
  endpoint : ∀ e ∈ chain.endpoint, ∃ f ∈ chain.flow, ∃ p ∈ chain.path,
    e ∈ matchingDegradedEndpoints request f.destinationResourceId p

theorem monitorOptions_mem {a : ChangeEvidenceArtifact} {f : NetworkFlowObservation}
    {m : ConnectionMonitorObservation} (h : some m ∈ monitorOptions request a f) :
    m ∈ matchingFailedMonitors request f := by
  unfold monitorOptions at h
  dsimp only at h
  split at h
  · simp at h
  · obtain ⟨m', hm', he⟩ := List.mem_map.mp h
    cases he
    exact mem_sortOn.mp (mem_of_mem_firstOfKey hm')

theorem endpointRoots_mem {a : ChangeEvidenceArtifact} {f : NetworkFlowObservation}
    {path : Option DependencyPath} {e : EndpointHealthObservation}
    (h : e ∈ endpointRoots request a f path) :
    ∃ p ∈ path, e ∈ matchingDegradedEndpoints request f.destinationResourceId p := by
  have hm := mem_sortOn.mp (mem_of_mem_firstOfKey h)
  cases path with
  | none => simp at hm
  | some p => exact ⟨p, rfl, hm⟩

theorem endpointOptions_mem {roots : List EndpointHealthObservation} {f : NetworkFlowObservation}
    {m : Option ConnectionMonitorObservation} {e : EndpointHealthObservation}
    (h : some e ∈ endpointOptions roots f m) : e ∈ roots := by
  unfold endpointOptions at h
  dsimp only at h
  rcases List.mem_cons.mp h with hn | hm
  · cases hn
  · obtain ⟨e', he', heq⟩ := List.mem_map.mp hm
    cases heq
    rcases List.mem_append.mp he' with hl | hl
    · rcases List.mem_append.mp hl with hh | hf
      · exact List.mem_of_mem_head? (Option.mem_toList.mp hh)
      · exact (List.mem_filter.mp hf).1
    · exact List.mem_of_find?_eq_some (Option.mem_toList.mp hl)

theorem chainCandidates_selected {a : ChangeEvidenceArtifact}
    {flows : List NetworkFlowObservation} {chain : NsgChain}
    (h : chain ∈ chainCandidates request a flows) :
    ChainSelected request a flows chain ∧ chain.flow.isSome := by
  unfold chainCandidates at h
  obtain ⟨f, hf, h⟩ := List.mem_flatMap.mp h
  obtain ⟨m, hm, h⟩ := List.mem_flatMap.mp h
  obtain ⟨e, he, rfl⟩ := List.mem_map.mp h
  refine ⟨⟨by simp, ?_, ?_, ?_⟩, rfl⟩
  · rintro f' ⟨⟩
    exact ⟨mem_sortOn.mp hf, rfl⟩
  · rintro m' rfl
    exact ⟨f, rfl, monitorOptions_mem hm⟩
  · rintro e' rfl
    obtain ⟨p, hp, hmem⟩ := endpointRoots_mem (endpointOptions_mem he)
    exact ⟨f, rfl, p, hp, hmem⟩

/-- The specification of `_select_nsg_chain`. -/
theorem selectNsgChain_selected (a : ChangeEvidenceArtifact)
    (flows : List NetworkFlowObservation) :
    ChainSelected request a flows (selectNsgChain request a flows) := by
  unfold selectNsgChain
  cases h : (sortOn (NsgChain.rankKey request a) (chainCandidates request a flows)).head? with
  | none =>
    refine ⟨fun _ => ⟨rfl, rfl, rfl⟩, ?_, ?_, ?_⟩ <;> rintro _ ⟨⟩
  | some chain => exact (chainCandidates_selected (sortOn_head h).1).1

theorem mem_nsgGroupedFlows {a : ChangeEvidenceArtifact} {f : NetworkFlowObservation} :
    f ∈ nsgGroupedFlows request a ↔
      .networkFlow f ∈ request.observations ∧ nsgCandidateFlow request a f ∧
      ∃ p ∈ request.path? f.pathId, request.affectedResourceId ∈ p.resourceIds ∧
        (request.affectedResourceId = f.subjectResourceId ∨
          request.affectedResourceId = f.sourceResourceId ∨
          request.affectedResourceId = f.destinationResourceId ∨
          matchingDegradedEndpoints request f.destinationResourceId p ≠ []) := by
  simp only [nsgGroupedFlows, List.mem_filter, mem_networkFlows, decide_eq_true_eq]

/-- Every flow of a group is a candidate, and a group has one chain key. -/
theorem nsgFlowGroups_spec {a : ChangeEvidenceArtifact} {flows : List NetworkFlowObservation}
    (h : flows ∈ nsgFlowGroups request a) :
    (∀ f ∈ flows, f ∈ nsgGroupedFlows request a) ∧
      ∀ f ∈ flows, ∀ g ∈ flows, nsgChainKey f = nsgChainKey g := by
  unfold nsgFlowGroups at h
  split at h
  · simp only [List.mem_singleton] at h
    subst h
    simp
  · obtain ⟨group, hg, rfl⟩ := List.mem_map.mp h
    obtain ⟨x, -, rfl⟩ := mem_groupsOn hg
    simp only [mem_sortOn, List.mem_filter, decide_eq_true_eq]
    exact ⟨fun f hf => hf.1, fun f hf g hg => hf.2.trans hg.2.symm⟩

/-! ## Claimed flows -/

theorem mem_attributedCandidates {a : ChangeEvidenceArtifact}
    {denied : Option NetworkFlowObservation} {f : NetworkFlowObservation} :
    f ∈ attributedCandidates request a denied ↔
      .networkFlow f ∈ request.observations ∧ concurrent request f.toObservationBase ∧
        flowBindsChange f a ∧ ∃ d ∈ denied, nsgChainKey f = nsgChainKey d := by
  simp only [attributedCandidates, mem_sortOn, List.mem_filter, mem_networkFlows,
    decide_eq_true_eq]

/-- One claim keeps the claimed flows, stays within the gate's bound, keeps
identifiers distinct and adds nothing but the candidate. -/
theorem claim_fold (candidates : List NetworkFlowObservation) :
    ∀ claimed : List NetworkFlowObservation, claimed.length ≤ maximumGateEvidenceIds →
      (claimed.map fun f => f.observationId).Nodup →
      let result := candidates.foldl (fun claimed f =>
        if maximumGateEvidenceIds ≤ claimed.length then claimed
        else if claimed.any (fun c => c.observationId = f.observationId) then claimed
        else claimed ++ [f]) claimed
      result.length ≤ maximumGateEvidenceIds ∧ (result.map fun f => f.observationId).Nodup ∧
        (∀ f ∈ claimed, f ∈ result) ∧ ∀ f ∈ result, f ∈ claimed ∨ f ∈ candidates := by
  induction candidates with
  | nil => intro claimed hl hn; exact ⟨hl, hn, fun _ h => h, fun _ h => Or.inl h⟩
  | cons g candidates ih =>
    intro claimed hl hn
    simp only [List.foldl_cons]
    have weaken : ∀ {kept : List NetworkFlowObservation},
        (∀ f ∈ kept, f ∈ claimed ∨ f ∈ candidates) →
        ∀ f ∈ kept, f ∈ claimed ∨ f ∈ g :: candidates :=
      fun hk f hf => (hk f hf).imp_right (List.mem_cons_of_mem g)
    split
    · obtain ⟨h₁, h₂, h₃, h₄⟩ := ih claimed hl hn
      exact ⟨h₁, h₂, h₃, weaken h₄⟩
    · rename_i hlt
      split
      · obtain ⟨h₁, h₂, h₃, h₄⟩ := ih claimed hl hn
        exact ⟨h₁, h₂, h₃, weaken h₄⟩
      · rename_i hnew
        have hl' : (claimed ++ [g]).length ≤ maximumGateEvidenceIds := by
          simp only [List.length_append, List.length_singleton]
          omega
        have hn' : ((claimed ++ [g]).map fun f => f.observationId).Nodup := by
          rw [List.map_append, List.nodup_append]
          refine ⟨hn, List.nodup_singleton _, ?_⟩
          intro i hi j hj hij
          obtain ⟨c, hc, rfl⟩ := List.mem_map.mp hi
          rw [List.map_singleton, List.mem_singleton] at hj
          exact hnew (List.any_eq_true.mpr ⟨c, hc, by simp [hij.trans hj]⟩)
        obtain ⟨h₁, h₂, h₃, h₄⟩ := ih (claimed ++ [g]) hl' hn'
        refine ⟨h₁, h₂, fun f hf => h₃ f (List.mem_append_left _ hf), fun f hf => ?_⟩
        rcases h₄ f hf with hm | hm
        · rcases List.mem_append.mp hm with hc | hc
          · exact Or.inl hc
          · exact Or.inr (List.mem_singleton.mp hc ▸ List.mem_cons_self)
        · exact Or.inr (List.mem_cons_of_mem g hm)

/-- The specification of `claimed_flows`. -/
theorem claimedFlows_spec (a : ChangeEvidenceArtifact) (denied : Option NetworkFlowObservation) :
    (claimedFlows request a denied).length ≤ maximumGateEvidenceIds ∧
      ((claimedFlows request a denied).map fun f => f.observationId).Nodup ∧
      (∀ f ∈ denied, f ∈ claimedFlows request a denied) ∧
      ∀ f ∈ claimedFlows request a denied,
        denied = some f ∨ f ∈ attributedCandidates request a denied := by
  have hl : denied.toList.length ≤ maximumGateEvidenceIds := by
    cases denied <;> simp [maximumGateEvidenceIds]
  have hn : (denied.toList.map fun f => f.observationId).Nodup := by
    cases denied <;> simp
  obtain ⟨h₁, h₂, h₃, h₄⟩ := claim_fold (attributedCandidates request a denied) denied.toList hl hn
  refine ⟨h₁, h₂, fun f hf => h₃ f (Option.mem_toList.mpr hf), fun f hf => ?_⟩
  exact (h₄ f hf).imp_left fun hm => Option.mem_toList.mp hm

theorem claimedFlows_none (a : ChangeEvidenceArtifact) : claimedFlows request a none = [] := by
  have hc : attributedCandidates request a none = [] := by
    rw [List.eq_nil_iff_forall_not_mem]
    intro f hf
    obtain ⟨-, -, -, d, hd, -⟩ := mem_attributedCandidates.mp hf
    cases hd
  simp [claimedFlows, hc]

/-- A claimed flow is a concurrent denied flow of the request with the chain
key of the selected flow, and it is attributed to no other change. -/
theorem claimedFlows_candidate {a : ChangeEvidenceArtifact} {d f : NetworkFlowObservation}
    (hd : .networkFlow d ∈ request.observations ∧ nsgCandidateFlow request a d)
    (hf : f ∈ claimedFlows request a (some d)) :
    .networkFlow f ∈ request.observations ∧ nsgCandidateFlow request a f ∧
      nsgChainKey f = nsgChainKey d := by
  rcases (claimedFlows_spec a (some d)).2.2.2 f hf with he | hm
  · cases he
    exact ⟨hd.1, hd.2, rfl⟩
  · obtain ⟨ho, hc, hb, d', hd', hk⟩ := mem_attributedCandidates.mp hm
    cases hd'
    exact ⟨ho, ⟨hb.2.1, hc, Or.inl hb⟩, hk⟩

/-! ## Contradictions -/

theorem mem_allowedMatches {claimed : List NetworkFlowObservation}
    {p : EvidenceCoverage × NetworkFlowObservation} :
    p ∈ allowedMatches request claimed ↔
      .networkFlow p.2 ∈ request.observations ∧ p.2.decision = .allowed ∧
        (∃ d ∈ claimed, nsgChainKey p.2 = nsgChainKey d) ∧
        request.overlapsIncident p.2.toObservationBase = true ∧
        matchingFlowCoverage request p.2 = some p.1 := by
  obtain ⟨c, f⟩ := p
  simp only [allowedMatches, mem_sortOn, List.mem_filterMap, mem_networkFlows]
  constructor
  · rintro ⟨g, hg, h⟩
    split at h
    · rename_i hc
      obtain ⟨c', hc', he⟩ := Option.map_eq_some_iff.mp h
      cases he
      exact ⟨hg, hc.1, hc.2.1, hc.2.2, hc'⟩
    · cases h
  · rintro ⟨hf, hd, hk, ho, hc⟩
    refine ⟨f, hf, ?_⟩
    rw [if_pos ⟨hd, hk, ho⟩, hc]
    rfl

theorem mem_healthyMatches {claimed : List ConnectionMonitorObservation}
    {p : EvidenceCoverage × ConnectionMonitorObservation} :
    p ∈ healthyMatches request claimed ↔
      .connectionMonitor p.2 ∈ request.observations ∧ p.2.status = .succeeded ∧
        (∃ m ∈ claimed, sameMonitor p.2 m) ∧
        request.overlapsIncident p.2.toObservationBase = true ∧
        matchingMonitorCoverage request p.2 = some p.1 := by
  obtain ⟨c, t⟩ := p
  simp only [healthyMatches, mem_sortOn, List.mem_filterMap, mem_connectionMonitors]
  constructor
  · rintro ⟨g, hg, h⟩
    split at h
    · rename_i hc
      obtain ⟨c', hc', he⟩ := Option.map_eq_some_iff.mp h
      cases he
      exact ⟨hg, hc.1, hc.2.1, hc.2.2, hc'⟩
    · cases h
  · rintro ⟨hf, hd, hk, ho, hc⟩
    refine ⟨t, hf, ?_⟩
    rw [if_pos ⟨hd, hk, ho⟩, hc]
    rfl

/-- A contradiction drawn from observations has one of two codes, is hard,
and cites one match: a coverage record and the observation it vouches for. -/
theorem networkObservationContradictions_mem {flows : List NetworkFlowObservation}
    {monitors : List ConnectionMonitorObservation} {k : CorrelationContradiction}
    (h : k ∈ networkObservationContradictions request flows monitors) :
    k.hardConflict = true ∧
      ((k.code = .completeAllowedFlow ∧ ∃ p ∈ allowedMatches request flows,
          k.evidenceIds = sortOn id [p.1.coverageId, p.2.observationId] ∧
          ∃ text digest, k.detail = ⟨text, some digest⟩ ∧ text.length ≤ 105 +
            (toString (allowedMatches request flows).length).length) ∨
        k.code = .completeHealthyConnectionMonitor ∧ ∃ p ∈ healthyMatches request monitors,
          k.evidenceIds = sortOn id [p.1.coverageId, p.2.observationId] ∧
          ∃ text digest, k.detail = ⟨text, some digest⟩ ∧ text.length ≤ 105 +
            (toString (healthyMatches request monitors).length).length) := by
  unfold networkObservationContradictions at h
  rcases List.mem_append.mp h with h | h
  · split at h
    · simp at h
    · rename_i c f rest hm
      rw [List.mem_singleton] at h
      subst h
      refine ⟨rfl, Or.inl ⟨rfl, (c, f), hm ▸ List.mem_cons_self, rfl, _, _, rfl, ?_⟩⟩
      rw [hm]
      simp only [String.length_append, List.length_cons]
      have h₁ : "Complete incident-window evidence contains ".length = 43 := by decide
      have h₂ : " exact allowed flow record(s); evidence-set digest .".length = 52 := by decide
      omega
  · split at h
    · simp at h
    · rename_i c t rest hm
      rw [List.mem_singleton] at h
      subst h
      refine ⟨rfl, Or.inr ⟨rfl, (c, t), hm ▸ List.mem_cons_self, rfl, _, _, rfl, ?_⟩⟩
      rw [hm]
      simp only [String.length_append, List.length_cons]
      have h₁ : "Complete incident-window monitoring contains ".length = 45 := by decide
      have h₂ : " exact healthy test record(s); evidence-set digest .".length = 52 := by decide
      omega

/-- An allowed-flow contradiction is drawn exactly when there is a match. -/
theorem allowed_contradiction_iff {flows : List NetworkFlowObservation}
    {monitors : List ConnectionMonitorObservation} :
    (∃ k ∈ networkObservationContradictions request flows monitors,
        k.code = .completeAllowedFlow) ↔ allowedMatches request flows ≠ [] := by
  constructor
  · rintro ⟨k, hk, hc⟩
    rcases (networkObservationContradictions_mem hk).2 with ⟨-, p, hp, -⟩ | ⟨hh, -⟩
    · exact List.ne_nil_of_mem hp
    · rw [hc] at hh
      cases hh
  · intro hne
    cases hm : allowedMatches request flows with
    | nil => exact absurd hm hne
    | cons p rest =>
      unfold networkObservationContradictions
      rw [hm]
      exact ⟨_, List.mem_append_left _ (List.mem_singleton.mpr rfl), rfl⟩

/-- A healthy-test contradiction is drawn exactly when there is a match. -/
theorem healthy_contradiction_iff {flows : List NetworkFlowObservation}
    {monitors : List ConnectionMonitorObservation} :
    (∃ k ∈ networkObservationContradictions request flows monitors,
        k.code = .completeHealthyConnectionMonitor) ↔ healthyMatches request monitors ≠ [] := by
  constructor
  · rintro ⟨k, hk, hc⟩
    rcases (networkObservationContradictions_mem hk).2 with ⟨hh, -⟩ | ⟨-, p, hp, -⟩
    · rw [hc] at hh
      cases hh
    · exact List.ne_nil_of_mem hp
  · intro hne
    cases hm : healthyMatches request monitors with
    | nil => exact absurd hm hne
    | cons p rest =>
      unfold networkObservationContradictions
      rw [hm]
      exact ⟨_, List.mem_append_right _ (List.mem_singleton.mpr rfl), rfl⟩

/-- The contradictions drawn from a change. -/
theorem changeContradictions_mem {a : ChangeEvidenceArtifact} {failed late : String}
    {k : CorrelationContradiction} (h : k ∈ changeContradictions request a failed late) :
    k.hardConflict = true ∧ k.evidenceIds = [a.evidence.evidenceId] ∧ k.detail.digest = none ∧
      (k.code = .changeFailed ∧ a.evidence.result = .failed ∧ k.detail.text = failed ∨
        k.code = .changeAfterDegradation ∧ request.incidentStart < a.evidence.occurredAt ∧
          k.detail.text = late) := by
  unfold changeContradictions at h
  rcases List.mem_append.mp h with h | h
  · split at h
    · rename_i hf
      rw [List.mem_singleton] at h
      subst h
      exact ⟨rfl, rfl, rfl, Or.inl ⟨rfl, hf, rfl⟩⟩
    · simp at h
  · split at h
    · rename_i hl
      rw [List.mem_singleton] at h
      subst h
      exact ⟨rfl, rfl, rfl, Or.inr ⟨rfl, hl, rfl⟩⟩
    · simp at h

theorem failed_contradiction_iff (a : ChangeEvidenceArtifact) (failed late : String) :
    (∃ k ∈ changeContradictions request a failed late, k.code = .changeFailed) ↔
      a.evidence.result = .failed := by
  constructor
  · rintro ⟨k, hk, hc⟩
    rcases (changeContradictions_mem hk).2.2.2 with h | h
    · exact h.2.1
    · rw [hc] at h
      cases h.1
  · intro hf
    unfold changeContradictions
    rw [if_pos hf]
    exact ⟨_, List.mem_append_left _ (List.mem_singleton.mpr rfl), rfl⟩

theorem late_contradiction_iff (a : ChangeEvidenceArtifact) (failed late : String) :
    (∃ k ∈ changeContradictions request a failed late, k.code = .changeAfterDegradation) ↔
      request.incidentStart < a.evidence.occurredAt := by
  constructor
  · rintro ⟨k, hk, hc⟩
    rcases (changeContradictions_mem hk).2.2.2 with h | h
    · rw [hc] at h
      cases h.1
    · exact h.2.1
  · intro hl
    unfold changeContradictions
    rw [if_pos hl]
    exact ⟨_, List.mem_append_right _ (List.mem_singleton.mpr rfl), rfl⟩

end AthenaContext.CorrelationSelection
