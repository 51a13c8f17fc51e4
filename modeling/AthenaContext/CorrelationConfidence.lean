import AthenaContext.CorrelationConflicts
import AthenaContext.IndependentCorroboration

/-!
# Earned confidence of network security changes

What a high or confirmed verdict on a network security change rests on. The
classifier refuses the high level through caps and hard conflicts; every
requirement of the contract follows from what is left, except that the change
succeeded: a change of unknown result is neither capped nor contradicted.
-/

namespace AthenaContext.CorrelationConfidence

open OrdinalCollections CorrelationRules CorrelationEvidence CorrelationEnvelope CorrelationMatching
  CorrelationEngine CorrelationContract CorrelationSelection CorrelationRecords
  CorrelationNetworkChange CorrelationConflicts IndependentCorroboration

/-! ## Causal properties -/

/-- Prefix, suffix and slice of the engine describe a bracketed index. -/
theorem bracketedIndex_of_slice {item normalized : List Char}
    (hp : (item ++ ['[']).isPrefixOf normalized = true) (hs : [']'].isSuffixOf normalized = true)
    (hne : ((normalized.drop (item.length + 1)).dropLast).isEmpty = false)
    (hd : ((normalized.drop (item.length + 1)).dropLast).all Char.isDigit = true) :
    bracketedIndex (normalized.drop item.length) = true := by
  obtain ⟨rest, rfl⟩ := List.isPrefixOf_iff_prefix.mp hp
  have hdrop : (item ++ ['['] ++ rest).drop item.length = '[' :: rest := by
    rw [List.append_assoc, List.drop_left]
    rfl
  have hindex : (item ++ ['['] ++ rest).drop (item.length + 1) = rest := by
    rw [← List.drop_drop, hdrop]
    rfl
  rw [hindex] at hne hd
  rw [hdrop]
  rcases List.eq_nil_or_concat rest with rfl | ⟨digits, last, rfl⟩
  · simp at hne
  · have hlast : last = ']' := by
      obtain ⟨front, hf⟩ := List.isSuffixOf_iff_suffix.mp hs
      rw [List.concat_eq_append, ← List.append_assoc] at hf
      exact (List.cons.inj (List.append_inj' hf rfl).2).1.symm
    subst hlast
    rw [List.concat_eq_append, List.dropLast_concat] at hne hd
    simp only [bracketedIndex, List.concat_eq_append, List.reverse_append, List.reverse_cons,
      List.reverse_nil, List.nil_append, List.cons_append]
    simp_all

/-- A property that the engine accepts is causal for the contract. -/
theorem isNsgProperty_causal {path : String} (h : isNsgProperty path = true) :
    isNsgCausalProperty path = true := by
  unfold isNsgProperty at h
  unfold isNsgCausalProperty
  simp only [Bool.or_eq_true, List.any_eq_true] at h ⊢
  rcases h with ⟨item, hi, he⟩ | ⟨item, hi, hslice⟩
  · exact ⟨item, hi, Or.inl he⟩
  · simp only [Bool.and_eq_true, Bool.not_eq_true'] at hslice
    obtain ⟨⟨hp, hs⟩, hne, hd⟩ := hslice
    refine ⟨item, hi, Or.inr ?_⟩
    rw [Bool.and_eq_true]
    refine ⟨?_, bracketedIndex_of_slice hp hs hne hd⟩
    exact List.isPrefixOf_iff_prefix.mpr
      ((List.prefix_append item.toList ['[']).trans (List.isPrefixOf_iff_prefix.mp hp))

variable {request : CorrelationRequest} {a : ChangeEvidenceArtifact}
  {flows : List NetworkFlowObservation}

theorem semanticMatch_causal (h : (assessNsg request a flows).semanticMatch = true) :
    a.evidence.causal = true := by
  obtain ⟨p, hp, hn⟩ := List.any_eq_true.mp h
  exact List.any_eq_true.mpr ⟨p, hp, isNsgProperty_causal hn⟩

/-! ## The high level -/

/-- No monitoring citation of a hypothesis starts before the change. -/
def windowUnambiguous (request : CorrelationRequest) (a : ChangeEvidenceArtifact)
    (s : NsgAssessment) : Prop :=
  ∀ c ∈ s.causalSupport request a ++ s.recovery.support, c.family ≠ .resourceChange →
    a.evidence.occurredAt ≤ c.observedStart

theorem mem_if_singleton {α : Type*} {p : Prop} [Decidable p] {x y : α} :
    x ∈ (if p then [y] else []) ↔ p ∧ x = y := by
  split <;> simp_all

/-- The supporting citations which the caps look at. -/
abbrev cappedSupport (request : CorrelationRequest) (a : ChangeEvidenceArtifact)
    (s : NsgAssessment) : List CorrelationEvidenceCitation :=
  s.causalSupport request a ++ s.recovery.support

/-- The caps of an assessment, each with its reason. -/
theorem mem_nsgCaps {s : NsgAssessment} {k : ConfidenceCap} :
    k ∈ s.caps request a ↔
      (∀ c ∈ cappedSupport request a s, c.family = .resourceChange) ∧ k = cap .recentChangeOnly ∨
      s.chain.pathObservation request = none ∧ k = cap .missingAffectedPath ∨
      ((s.independent request).length < 2 ∨ s.chain.pathObservation request = none) ∧
        k = cap .missingIndependentSupport ∨
      s.attributedFlow = none ∧ k = ⟨.missingDirectAttribution, .high⟩ ∨
      (∃ c ∈ cappedSupport request a s,
        c.family ≠ .resourceChange ∧ c.observedStart < a.evidence.occurredAt) ∧
        k = cap .ambiguousObservationWindow := by
  unfold NsgAssessment.caps
  simp only [List.mem_append, mem_if_singleton, List.all_eq_true, List.any_eq_true,
    decide_eq_true_eq, Option.isNone_iff_eq_none, or_assoc]

/-- A high verdict meets none of the four caps below it and no conflict. -/
theorem high_iff (s : NsgAssessment) :
    ConfidenceLevel.high.rank ≤ (s.confidence request a).rank ↔
      hasHardConflict s.contradictions = false ∧
      ConfidenceLevel.high.minimumScore ≤
        (s.score request a (s.countedRecovery request a).score).rawScore ∧
      s.chain.pathObservation request ≠ none ∧ 2 ≤ (s.independent request).length ∧
      windowUnambiguous request a s ∧
      ∃ c ∈ cappedSupport request a s, c.family ≠ .resourceChange := by
  constructor
  · intro h
    have hlow : ∀ code, capLevel code ≠ .high → cap code ∉ s.caps request a := by
      intro code hcode hm
      have hle := h.trans (classify_rank_le_cap hm)
      cases code <;> simp_all [cap, capLevel, ConfidenceLevel.rank]
    have hhard : hasHardConflict s.contradictions = false := by
      by_contra hn
      rw [Bool.not_eq_false] at hn
      rw [NsgAssessment.confidence, hn, classify_hardConflict] at h
      exact absurd h (by decide)
    have hscore : ConfidenceLevel.high.minimumScore ≤
        (s.score request a (s.countedRecovery request a).score).rawScore :=
      (minimumScore_mono h).trans (classify_minimumScore _ _ _ _)
    refine ⟨hhard, hscore, fun hn => ?_, ?_, fun c hc hf => ?_, ?_⟩
    · exact hlow .missingAffectedPath (by decide) (mem_nsgCaps.mpr (Or.inr (Or.inl ⟨hn, rfl⟩)))
    · by_contra hn
      exact hlow .missingIndependentSupport (by decide)
        (mem_nsgCaps.mpr (Or.inr (Or.inr (Or.inl ⟨Or.inl (not_le.mp hn), rfl⟩))))
    · by_contra hlt
      exact hlow .ambiguousObservationWindow (by decide) (mem_nsgCaps.mpr
        (Or.inr (Or.inr (Or.inr (Or.inr ⟨⟨c, hc, hf, not_le.mp hlt⟩, rfl⟩)))))
    · by_contra hn
      refine hlow .recentChangeOnly (by decide) (mem_nsgCaps.mpr (Or.inl ⟨fun c hc => ?_, rfl⟩))
      by_contra hf
      exact hn ⟨c, hc, hf⟩
  · rintro ⟨hhard, hscore, hpath, hind, hwindow, c, hc, hf⟩
    have hcaps : ∀ k ∈ s.caps request a,
        ConfidenceLevel.high.rank ≤ k.maximumConfidence.rank := by
      intro k hk
      rcases mem_nsgCaps.mp hk with ⟨hall, -⟩ | ⟨hn, -⟩ | ⟨hn | hn, -⟩ | ⟨-, rfl⟩ |
        ⟨⟨x, hx, hfx, hlt⟩, -⟩
      · exact absurd (hall c hc) hf
      · exact absurd hn hpath
      · omega
      · exact absurd hn hpath
      · exact le_rfl
      · exact absurd (hwindow x hx hfx) (not_le.mpr hlt)
    have hrank : ConfidenceLevel.high.rank ≤ capRank (s.caps request a) :=
      le_capRank (by decide) hcaps
    have hlevel : ConfidenceLevel.high.rank ≤ (scoreLevel
        (s.score request a (s.countedRecovery request a).score).rawScore
        (s.confirmed request a)).rank := by
      unfold scoreLevel
      split_ifs
      · decide
      · decide
    have hbase : ¬ (hasHardConflict s.contradictions = true ∨
        (s.score request a (s.countedRecovery request a).score).rawScore <
          ConfidenceLevel.low.minimumScore) := by
      rw [hhard]
      simp only [Bool.false_eq_true, false_or, not_lt]
      exact le_trans (by decide) hscore
    have hle := capRank_le_confirmed (s.caps request a)
    unfold NsgAssessment.confidence classifyConfidence
    rw [if_neg hbase, rank_confidenceByRank (by omega)]
    exact le_min hlevel hrank

/-- The missing evidence of an assessment, each entry with its reason. -/
theorem mem_nsgMissing {s : NsgAssessment} {k : MissingCorrelationEvidence} :
    k ∈ s.missing request ↔
      s.chain.pathObservation request = none ∧ k = missing .affectedPath .declaredContext
        "No governed dependency path binds the change to the incident resource." .medium ∨
      s.attributedFlow = none ∧ k = missing .effectiveRuleAttribution .networkFlow
        "No direct effective-rule or IP Flow Verify attribution is available." .confirmed ∨
      s.chain.flow = none ∧ k = missing .deniedFlow .networkFlow
        "No incident-overlapping denied flow matches the changed rule." .high ∨
      s.chain.monitor = none ∧ k = missing .connectionMonitorResult .connectionMonitor
        "No matching failed Connection Monitor result is available." .confirmed ∨
      s.chain.endpoint = none ∧ k = missing .endpointHealth .endpointHealth
        "No matching endpoint degradation is available." .confirmed ∨
      ¬ hasCompleteNsgCoverage request s.chain.flow s.chain.monitor s.chain.endpoint
          s.chain.path = true ∧ k = missing .completeObservationWindow .networkFlow
        "Complete path and test coverage is not available for the incident interval."
        .confirmed := by
  unfold NsgAssessment.missing
  simp only [List.mem_append, mem_if_singleton, Option.isNone_iff_eq_none, or_assoc]
  refine or_congr Iff.rfl (or_congr Iff.rfl (or_congr Iff.rfl (or_congr Iff.rfl
    (or_congr Iff.rfl ?_))))
  split <;> simp_all

/-! ## What the level rests on -/

@[simp] theorem observationCitation_family (o : MonitoringObservation) :
    (request.observationCitation o).family ≠ .resourceChange := by
  cases o <;> simp [CorrelationRequest.observationCitation, MonitoringObservation.family]

theorem mem_chainCitations {chain : NsgChain} {c : CorrelationEvidenceCitation} :
    c ∈ chain.citations request ↔ (∃ f ∈ chain.flow, flowCitation request f = c) ∨
      (∃ m ∈ chain.monitor, monitorCitation request m = c) ∨
      ∃ e ∈ chain.endpoint, endpointCitation request e = c := by
  simp only [NsgChain.citations, List.mem_append, Option.mem_toList, Option.map_eq_some_iff,
    or_assoc, Option.mem_def]

section Accepted

variable (hr : request.Accepted) (hg : flows ∈ nsgFlowGroups request a)
include hr hg

/-- A chain's citations are causal support of concurrent observations. -/
theorem chainCitation_causal {c : CorrelationEvidenceCitation}
    (h : c ∈ (selectNsgChain request a flows).citations request) :
    c ∈ (assessNsg request a flows).causalSupport request a ∧
      ∃ o ∈ request.observations, c = request.observationCitation o ∧
        concurrent request o.base := by
  unfold NsgAssessment.causalSupport
  rcases mem_chainCitations.mp h with ⟨f, hf, rfl⟩ | ⟨m, hm, rfl⟩ | ⟨e, he, rfl⟩
  · obtain ⟨ho, hc⟩ := chain_candidate hg hf
    refine ⟨List.mem_cons_of_mem _ (List.mem_append_left _ (List.mem_append_left _ ?_)),
      _, ho, rfl, hc.2.1⟩
    exact List.mem_map_of_mem (chain_flow_claimed hf)
  · obtain ⟨ho, -, hc, -⟩ := chain_monitor hr hg hm
    refine ⟨List.mem_cons_of_mem _ (List.mem_append_left _ (List.mem_append_right _ ?_)),
      _, ho, rfl, hc⟩
    exact Option.mem_toList.mpr (Option.map_eq_some_iff.mpr ⟨m, hm, rfl⟩)
  · obtain ⟨ho, -, hc, -⟩ := chain_endpoint hr hg he
    refine ⟨List.mem_cons_of_mem _ (List.mem_append_right _ ?_), _, ho, rfl, hc⟩
    exact Option.mem_toList.mpr (Option.map_eq_some_iff.mpr ⟨e, he, rfl⟩)

omit hg in
/-- Dropping the recovery of a confirmed cause keeps every concurrent
observation: a recovery starts no earlier than the incident ends. -/
theorem concurrent_supported {o : MonitoringObservation}
    (ho : o ∈ request.observations) (hc : concurrent request o.base)
    (h : request.observationCitation o ∈ (assessNsg request a flows).causalSupport request a) :
    request.observationCitation o ∈ (assessNsg request a flows).support request a := by
  unfold NsgAssessment.support
  dsimp only
  split
  · refine List.mem_filter.mpr ⟨List.mem_append_left _ h, List.all_eq_true.mpr fun r hrec => ?_⟩
    obtain ⟨o', ho', rfl, hend⟩ := nsg_recovery_support hrec
    refine decide_eq_true fun hid => ?_
    cases observation_inj hr ho' ho hid
    have hover := hc.2
    simp only [CorrelationRequest.overlapsIncident, strictOverlap, Bool.and_eq_true,
      decide_eq_true_eq] at hover
    exact absurd hover.1 (not_lt.mpr hend)
  · exact List.mem_append_left _ h

/-- The chain's citations support the hypothesis. -/
theorem chainCitation_supported (ha : a ∈ request.changeArtifacts)
    {c : CorrelationEvidenceCitation}
    (h : c ∈ (selectNsgChain request a flows).citations request) :
    c ∈ (networkSecurityHypothesis request a flows).supportingEvidence := by
  obtain ⟨hcausal, o, ho, rfl, hc⟩ := chainCitation_causal hr hg h
  exact (mem_nsg_support hr ha hg).mpr (concurrent_supported hr ho hc hcausal)

/-- The path is shown by an observation exactly when the chain has a flow. -/
theorem pathObservation_ne_none :
    (selectNsgChain request a flows).pathObservation request ≠ none ↔
      (selectNsgChain request a flows).flow ≠ none := by
  constructor
  · intro h hn
    obtain ⟨hm, he, -⟩ := (selectNsgChain_selected a flows).bare hn
    refine h ?_
    unfold NsgChain.pathObservation
    rw [hn, hm, he]
    cases (selectNsgChain request a flows).path <;> rfl
  · intro h
    obtain ⟨f, hf⟩ := Option.ne_none_iff_exists'.mp h
    obtain ⟨p, hp, -⟩ := chain_path hr hg hf
    unfold NsgChain.pathObservation
    rw [hp, hf]
    cases (selectNsgChain request a flows).endpoint <;> simp

omit hg in
/-- An attributed flow names causal properties of its change. -/
theorem flowBindsChange_causal {f : NetworkFlowObservation}
    (ho : .networkFlow f ∈ request.observations) (h : flowBindsChange f a) :
    a.evidence.causal = true := by
  have hv : f.Valid := hr.bundle.observations _ ho
  obtain ⟨-, -, -, -, -, -, -, hne⟩ := hv.attributed h.1
  obtain ⟨path, hpath⟩ := List.exists_mem_of_ne_nil _ hne
  obtain ⟨p, hp, rfl⟩ := List.mem_map.mp (h.2.2.2.2.2.2.2 path hpath)
  exact List.any_eq_true.mpr ⟨p, hp, hv.causalPaths _ hpath⟩

/-- Without a causal property the points end below the high level. -/
theorem causal_of_points
    (h : ConfidenceLevel.high.minimumScore ≤ ((assessNsg request a flows).score request a
      ((assessNsg request a flows).countedRecovery request a).score).rawScore) :
    a.evidence.causal = true := by
  by_contra hn
  have hsem : (assessNsg request a flows).semanticMatch = false := by
    by_contra hs
    exact hn (semanticMatch_causal (Bool.not_eq_false _ ▸ hs))
  have hatt : (assessNsg request a flows).attributedFlow = none := by
    rw [Option.eq_none_iff_forall_ne_some]
    intro f hf
    obtain ⟨hf, hb⟩ := Option.filter_eq_some_iff.mp hf
    exact hn (flowBindsChange_causal hr (chain_candidate hg hf).1 (of_decide_eq_true hb))
  have hrec : (assessNsg request a flows).recovery = noRecovery := by
    show (if (assessNsg request a flows).semanticMatch then _ else noRecovery) = noRecovery
    rw [hsem]
    rfl
  have hzero : ((assessNsg request a flows).countedRecovery request a).score = 0 := by
    unfold NsgAssessment.countedRecovery
    rw [hrec, ite_self]
    rfl
  have htop := topologyScore_le (assessNsg request a flows).chain.path
    a.evidence.targetResourceId request.affectedResourceId
  have htemp := temporalScore_le a.evidence.occurredAt request.incidentStart
  have hcor : nsgCorroboration request (assessNsg request a flows).chain ≤ 25 := min_le_left _ _
  rw [hzero] at h
  simp only [NsgAssessment.score, score, hatt, hsem, ConfidenceLevel.minimumScore,
    Option.isSome_none, Bool.false_eq_true, if_false] at h
  omega

end Accepted

/-- The requirements of the high level. -/
structure HighEarned (request : CorrelationRequest) (a : ChangeEvidenceArtifact)
    (h : RootCauseHypothesis) : Prop where
  cited : changeCitation a ∈ h.supportingEvidence
  onlyChange : ∀ c ∈ h.supportingEvidence, c.family = .resourceChange → c = changeCitation a
  succeeded : a.evidence.result = .succeeded
  timely : a.evidence.occurredAt ≤ request.incidentStart
  causal : a.evidence.causal = true
  deniedFlow : ∃ f, .networkFlow f ∈ request.observations ∧ f.decision = .denied ∧
    h.affectedPathId = some f.pathId ∧ request.overlapsIncident f.toObservationBase = true ∧
    flowCitation request f ∈ h.supportingEvidence
  independent : ∃ kept : List CorrelationEvidenceCitation, 2 ≤ kept.length ∧
    kept.Pairwise independentPair ∧
    ∀ c ∈ kept, c ∈ h.supportingEvidence ∧ c.family ≠ .resourceChange

/-- An observation is cited, started no earlier than the change, and has
complete coverage of the whole incident that matches it. -/
structure Carries (request : CorrelationRequest) (a : ChangeEvidenceArtifact)
    (h : RootCauseHypothesis) (o : MonitoringObservation)
    (scopeMatches : EvidenceCoverage → Prop) : Prop where
  observed : o ∈ request.observations
  cited : request.observationCitation o ∈ h.supportingEvidence
  chronology : a.evidence.occurredAt ≤ o.base.observedStart
  covered : ∃ c ∈ request.coverage, scopeMatches c ∧ spansIncident request c ∧
    spansObservation c o.base

/-- The requirements of the confirmed level beyond the high one. -/
structure ConfirmedEarned (request : CorrelationRequest) (a : ChangeEvidenceArtifact)
    (h : RootCauseHypothesis) : Prop where
  evidence : ∃ f m e,
    Carries request a h (.networkFlow f) (flowScopeMatches · f) ∧
    Carries request a h (.connectionMonitor m) (monitorScopeMatches · m) ∧
    Carries request a h (.endpointHealth e) (endpointScopeMatches · e) ∧
    f.decision = .denied ∧ flowBindsChange f a ∧ h.affectedPathId = some f.pathId ∧
    m.status = .failed ∧ sameNetworkTuple f m ∧ e.status.adverse = true ∧ e.pathId = f.pathId ∧
    [f.provenanceRootDigest, m.provenanceRootDigest, e.provenanceRootDigest].Nodup
  noConflict : ∀ k ∈ h.contradictions, k.hardConflict = false

/-- High and confirmed levels are earned. -/
def confidenceEarned (request : CorrelationRequest) (a : ChangeEvidenceArtifact)
    (h : RootCauseHypothesis) : Prop :=
  (ConfidenceLevel.high.rank ≤ h.confidence.rank → HighEarned request a h) ∧
    (h.confidence = .confirmed → ConfirmedEarned request a h)

/-- Complete coverage of a chain needs all four parts of it. -/
theorem completeNsgCoverage_some {flow : Option NetworkFlowObservation}
    {monitor : Option ConnectionMonitorObservation} {endpoint : Option EndpointHealthObservation}
    {path : Option DependencyPath}
    (h : hasCompleteNsgCoverage request flow monitor endpoint path = true) :
    ∃ f m e p, flow = some f ∧ monitor = some m ∧ endpoint = some e ∧ path = some p ∧
      (matchingFlowCoverage request f).isSome ∧ (matchingMonitorCoverage request m).isSome ∧
        (matchingEndpointCoverage request e).isSome := by
  unfold hasCompleteNsgCoverage at h
  split at h
  · simp only [Bool.and_eq_true] at h
    exact ⟨_, _, _, _, rfl, rfl, rfl, rfl, h.1.1, h.1.2, h.2⟩
  · cases h

/-- Three independent citations of a chain of three have distinct roots. -/
theorem chain_roots_nodup {chain : NsgChain} {f : NetworkFlowObservation}
    {m : ConnectionMonitorObservation} {e : EndpointHealthObservation}
    (hf : chain.flow = some f) (hm : chain.monitor = some m) (he : chain.endpoint = some e)
    (h : 3 ≤ (independentCitations (chain.citations request)).length) :
    [f.provenanceRootDigest, m.provenanceRootDigest, e.provenanceRootDigest].Nodup := by
  have hall : chain.citations request =
      [flowCitation request f, monitorCitation request m, endpointCitation request e] := by
    simp [NsgChain.citations, hf, hm, he]
  rw [hall] at h
  have hperm := @independentCitations_perm
    [flowCitation request f, monitorCitation request m, endpointCitation request e] h
  have hpair := (independentCitations_spec
    [flowCitation request f, monitorCitation request m, endpointCitation request e]).1
  have hnodup : ((independentCitations
      [flowCitation request f, monitorCitation request m, endpointCitation request e]).map
        CorrelationEvidenceCitation.provenanceRootDigest).Nodup :=
    List.pairwise_map.mpr (hpair.imp And.right)
  exact (hperm.map CorrelationEvidenceCitation.provenanceRootDigest).nodup_iff.mp hnodup

section Earned

variable (hr : request.Accepted) (ha : a ∈ request.changeArtifacts)
  (hg : flows ∈ nsgFlowGroups request a)
include hr ha hg

/-- A high verdict is earned by a change that succeeded. -/
theorem highEarned_of_succeeded (hs : a.evidence.result = .succeeded)
    (h : ConfidenceLevel.high.rank ≤ ((assessNsg request a flows).confidence request a).rank) :
    HighEarned request a (networkSecurityHypothesis request a flows) := by
  obtain ⟨hhard, hscore, hpath, hind, -, -⟩ := (high_iff _).mp h
  have hflow : (selectNsgChain request a flows).flow ≠ none :=
    (pathObservation_ne_none hr hg).mp hpath
  obtain ⟨f, hf⟩ := Option.ne_none_iff_exists'.mp hflow
  obtain ⟨ho, hd, hc, -⟩ := chain_candidate hg hf
  refine
    { cited := (mem_nsg_support hr ha hg).mpr (change_supported hr ha)
      onlyChange := fun c hcs hfam => ?_
      succeeded := hs
      timely := ?_
      causal := causal_of_points hr hg hscore
      deniedFlow := ⟨f, ho, hd, nsg_path hr hg hf, hc.2, chainCitation_supported hr hg ha
        (mem_chainCitations.mpr (Or.inl ⟨f, hf, rfl⟩))⟩
      independent := ⟨(assessNsg request a flows).independent request, hind,
        (independentCitations_spec _).1, fun c hci => ?_⟩ }
  · rcases nsg_support_mem hr hg ((mem_nsg_support hr ha hg).mp hcs) with hcc | ⟨o, -, rfl⟩
    · exact hcc
    · exact absurd hfam (observationCitation_family o)
  · by_contra hlate
    obtain ⟨k, hk, hcode⟩ := (@late_contradiction_iff request a
      "The candidate NSG change did not succeed."
      "The candidate NSG change occurred after degradation began.").mpr
        (not_le.mp hlate)
    have hany : hasHardConflict (assessNsg request a flows).contradictions = true :=
      hasHardConflict_iff.mpr ⟨k, List.mem_append_left _ hk, (changeContradictions_mem hk).1⟩
    rw [hhard] at hany
    cases hany
  · have hm := mem_independentCitations hci
    obtain ⟨-, o, -, rfl, -⟩ := chainCitation_causal hr hg hm
    exact ⟨chainCitation_supported hr hg ha hm, observationCitation_family o⟩

/-- A confirmed verdict is earned. -/
theorem confirmedEarned_of_confirmed
    (h : (assessNsg request a flows).confidence request a = .confirmed) :
    ConfirmedEarned request a (networkSecurityHypothesis request a flows) := by
  have hconf : (assessNsg request a flows).confirmed request a = true := by
    by_contra hn
    rw [Bool.not_eq_true] at hn
    unfold NsgAssessment.confidence at h
    rw [hn] at h
    exact classify_unconfirmed _ _ _ h
  have hhigh : ConfidenceLevel.high.rank ≤ ((assessNsg request a flows).confidence request a).rank
      := by
    rw [h]
    decide
  obtain ⟨hhard, -, -, -, hwindow, -⟩ := (high_iff _).mp hhigh
  obtain ⟨-, -, -, -, -, -, -, hthree, -, hmissing⟩ := of_decide_eq_true hconf
  have hattributed : (assessNsg request a flows).attributedFlow ≠ none := by
    intro hn
    exact hmissing _ (mem_nsgMissing.mpr (Or.inr (Or.inl ⟨hn, rfl⟩))) rfl
  have hcoverage : hasCompleteNsgCoverage request (selectNsgChain request a flows).flow
      (selectNsgChain request a flows).monitor (selectNsgChain request a flows).endpoint
      (selectNsgChain request a flows).path = true := by
    by_contra hn
    exact hmissing _ (mem_nsgMissing.mpr
      (Or.inr (Or.inr (Or.inr (Or.inr (Or.inr ⟨hn, rfl⟩)))))) rfl
  obtain ⟨f, m, e, p, hf, hm, he, hp, hcf, hcm, hce⟩ := completeNsgCoverage_some hcoverage
  obtain ⟨f', hf'⟩ := Option.ne_none_iff_exists'.mp hattributed
  obtain ⟨hf', hbinds⟩ := Option.filter_eq_some_iff.mp hf'
  cases Option.some.inj (hf.symm.trans hf')
  obtain ⟨kf, hkf, -, hsf, hif, hof⟩ := matchingFlowCoverage_isSome.mp hcf
  obtain ⟨km, hkm, -, hsm, him, hom⟩ := matchingMonitorCoverage_isSome.mp hcm
  obtain ⟨ke, hke, -, hse, hie, hoe⟩ := matchingEndpointCoverage_isSome.mp hce
  obtain ⟨hobsf, hcand⟩ := chain_candidate hg hf
  obtain ⟨hobsm, hstatus, -, fm, hfm, htuple, -⟩ := chain_monitor hr hg hm
  obtain ⟨hobse, hadverse, -, -, fe, hfe, -, -, -, hpath⟩ := chain_endpoint hr hg he
  cases Option.some.inj (hf.symm.trans hfm)
  cases Option.some.inj (hf.symm.trans hfe)
  have hcitf : flowCitation request f ∈ (selectNsgChain request a flows).citations request :=
    mem_chainCitations.mpr (Or.inl ⟨f, hf, rfl⟩)
  have hcitm : monitorCitation request m ∈ (selectNsgChain request a flows).citations request :=
    mem_chainCitations.mpr (Or.inr (Or.inl ⟨m, hm, rfl⟩))
  have hcite : endpointCitation request e ∈ (selectNsgChain request a flows).citations request :=
    mem_chainCitations.mpr (Or.inr (Or.inr ⟨e, he, rfl⟩))
  have hstart : ∀ o, request.observationCitation o ∈
      (selectNsgChain request a flows).citations request →
      a.evidence.occurredAt ≤ o.base.observedStart := fun o hc =>
    hwindow _ (List.mem_append_left _ (chainCitation_causal hr hg hc).1)
      (observationCitation_family o)
  refine ⟨⟨f, m, e, ?_, ?_, ?_, hcand.1, of_decide_eq_true hbinds, nsg_path hr hg hf,
    hstatus, htuple, hadverse, hpath.symm, chain_roots_nodup hf hm he hthree⟩, ?_⟩
  · exact ⟨hobsf, chainCitation_supported hr hg ha hcitf, hstart _ hcitf, kf, hkf, hsf, hif, hof⟩
  · exact ⟨hobsm, chainCitation_supported hr hg ha hcitm, hstart _ hcitm, km, hkm, hsm, him, hom⟩
  · exact ⟨hobse, chainCitation_supported hr hg ha hcite, hstart _ hcite, ke, hke, hse, hie, hoe⟩
  · intro k hk
    by_contra hn
    have hany := hasHardConflict_iff.mpr ⟨k, mem_made_contradictions.mp hk,
      Bool.not_eq_false _ ▸ hn⟩
    rw [hhard] at hany
    cases hany

end Earned

/-! ## The exact condition -/

section Evidence

variable (request : CorrelationRequest) (a : ChangeEvidenceArtifact)
  (flows : List NetworkFlowObservation)

/-- Some changed property is one that an NSG rule decides by. -/
def changesNsgRule : Bool := a.evidence.changedProperties.any fun p => isNsgProperty p.path

/-- The selected flow is attributed to the change. -/
def attributed : Bool := (selectNsgChain request a flows).flow.any fun f => flowBindsChange f a

/-- The changed resource lies on the path of the selected flow. -/
def targetOnPath : Bool :=
  (selectNsgChain request a flows).path.any fun p =>
    decide (a.evidence.targetResourceId ∈ p.resourceIds)

/-- The selected connection test has another provenance root than the flow. -/
def monitorApart : Bool :=
  (selectNsgChain request a flows).flow.any fun f =>
    (selectNsgChain request a flows).monitor.any fun m =>
      decide (m.provenanceRootDigest ≠ f.provenanceRootDigest)

/-- The selected endpoint has another provenance root than the flow. -/
def endpointApart : Bool :=
  (selectNsgChain request a flows).flow.any fun f =>
    (selectNsgChain request a flows).endpoint.any fun e =>
      decide (e.provenanceRootDigest ≠ f.provenanceRootDigest)

/-- Flow, connection test and endpoint have three provenance roots. -/
def allApart : Bool :=
  (selectNsgChain request a flows).flow.any fun f =>
    (selectNsgChain request a flows).monitor.any fun m =>
      (selectNsgChain request a flows).endpoint.any fun e =>
        decide [f.provenanceRootDigest, m.provenanceRootDigest, e.provenanceRootDigest].Nodup

/-- The observations of a chain. -/
def chainObservations (chain : NsgChain) : List MonitoringObservation :=
  (chain.flow.map .networkFlow).toList ++ (chain.monitor.map .connectionMonitor).toList ++
    (chain.endpoint.map .endpointHealth).toList

/-- Two selected observations that are no coverage records have two provenance roots. -/
def twoRoots : Prop :=
  ∃ o ∈ chainObservations (selectNsgChain request a flows),
    ∃ o' ∈ chainObservations (selectNsgChain request a flows),
      o.base.provenanceRootDigest ≠ o'.base.provenanceRootDigest ∧
      (request.observationCitation o).isCoverage = false ∧
      (request.observationCitation o').isCoverage = false

/-- The observations after the incident in which an endpoint is well again. -/
def recoveriesOf (e : EndpointHealthObservation) : List MonitoringObservation :=
  request.observations.filter fun o => recoversCandidate (.endpointHealth e) o ∧
    request.incidentEnd ≤ o.base.observedStart ∧ e.observedEnd ≤ o.base.observedStart

/-- The selected endpoint was well again after the incident. -/
def recovered : Bool :=
  changesNsgRule a && (selectNsgChain request a flows).endpoint.any fun e =>
    !(recoveriesOf request e).isEmpty

/-- A later change put the properties back before the endpoint was well again. -/
def putBack : Bool :=
  recovered request a flows && (selectNsgChain request a flows).endpoint.any fun e =>
    request.changeArtifacts.any fun c =>
      decide (c.evidence.targetResourceId = a.evidence.targetResourceId ∧
        c.evidence.result = .succeeded ∧ request.incidentStart < c.evidence.occurredAt ∧
        (∀ r ∈ recoveriesOf request e, c.evidence.occurredAt ≤ r.base.observedStart) ∧
        isExactCorrectiveChange a c)

/-- What the evidence lacks, in points: the changed resource on the path, the
attribution, three provenance roots, and a recovery by a corrective change. -/
def shortfall : ℕ :=
  (if targetOnPath request a flows then 0 else 7) + (if attributed request a flows then 0 else 6) +
    (if allApart request a flows then 0 else if monitorApart request a flows then 7 else 8) +
    (if putBack request a flows then 0 else if recovered request a flows then 6 else 10)

end Evidence

/-- How long before the incident a change may lie, by what its evidence lacks. -/
def nearEnough (lacking : ℕ) (delay : ℤ) : Prop :=
  lacking ≤ 5 ∨ lacking ≤ 10 ∧ delay ≤ 3600000 ∨ lacking ≤ 15 ∧ delay ≤ 1800000 ∨
    lacking ≤ 20 ∧ delay ≤ 900000 ∨ lacking ≤ 25 ∧ delay ≤ 300000

/-- The evidence selected for a change carries it to the high level: a flow and
a second provenance root, nothing before the change, no complete record to the
contrary, a rule that changed, and little missing for its distance in time. -/
structure ReachesHigh (request : CorrelationRequest) (a : ChangeEvidenceArtifact)
    (flows : List NetworkFlowObservation) : Prop where
  timely : a.evidence.occurredAt ≤ request.incidentStart
  roots : twoRoots request a flows
  flowsAfter : ∀ f ∈ claimedFlows request a (selectNsgChain request a flows).flow,
    a.evidence.occurredAt ≤ f.observedStart
  monitorAfter : ∀ m ∈ (selectNsgChain request a flows).monitor,
    a.evidence.occurredAt ≤ m.observedStart
  endpointAfter : ∀ e ∈ (selectNsgChain request a flows).endpoint,
    a.evidence.occurredAt ≤ e.observedStart
  noneAllowed : ∀ f, .networkFlow f ∈ request.observations → f.decision = .allowed →
    (∃ d ∈ (selectNsgChain request a flows).flow, nsgChainKey f = nsgChainKey d) →
    request.overlapsIncident f.toObservationBase = true → matchingFlowCoverage request f = none
  noneHealthy : ∀ t, .connectionMonitor t ∈ request.observations → t.status = .succeeded →
    (∃ m ∈ (selectNsgChain request a flows).monitor, sameMonitor t m) →
    request.overlapsIncident t.toObservationBase = true → matchingMonitorCoverage request t = none
  causal : attributed request a flows = true ∨ changesNsgRule a = true
  near : nearEnough (shortfall request a flows)
    (request.incidentStart - a.evidence.occurredAt)

/-! ## Points of the evidence -/

theorem nearEnough_iff {lacking : ℕ} {candidate degradation : ℤ} (h : candidate ≤ degradation) :
    nearEnough lacking (degradation - candidate) ↔
      lacking ≤ 5 + temporalScore candidate degradation := by
  unfold nearEnough temporalScore
  rw [if_neg (by omega)]
  simp only [temporalScoreWindows, List.find?_cons, List.find?_nil]
  split
  · rename_i h300
    simp only [decide_eq_true_eq] at h300
    simp only [Option.map_some, Option.getD_some]
    omega
  · rename_i h300
    simp only [decide_eq_false_iff_not] at h300
    split
    · rename_i h900
      simp only [decide_eq_true_eq] at h900
      simp only [Option.map_some, Option.getD_some]
      omega
    · rename_i h900
      simp only [decide_eq_false_iff_not] at h900
      split
      · rename_i h1800
        simp only [decide_eq_true_eq] at h1800
        simp only [Option.map_some, Option.getD_some]
        omega
      · rename_i h1800
        simp only [decide_eq_false_iff_not] at h1800
        split
        · rename_i h3600
          simp only [decide_eq_true_eq] at h3600
          simp only [Option.map_some, Option.getD_some]
          omega
        · rename_i h3600
          simp only [decide_eq_false_iff_not] at h3600
          simp only [Option.map_none, Option.getD_none]
          omega

/-- A chain apart in two provenance roots has a flow. -/
theorem flow_of_apart
    (h : monitorApart request a flows = true ∨ endpointApart request a flows = true) :
    ∃ f, (selectNsgChain request a flows).flow = some f := by
  rcases h with h | h
  · obtain ⟨f, hf, -⟩ := (Option.any_eq_true _ _).mp h
    exact ⟨f, hf⟩
  · obtain ⟨f, hf, -⟩ := (Option.any_eq_true _ _).mp h
    exact ⟨f, hf⟩

theorem topology_points (hr : request.Accepted) (hg : flows ∈ nsgFlowGroups request a)
    {f : NetworkFlowObservation} (hf : (selectNsgChain request a flows).flow = some f) :
    topologyScore (selectNsgChain request a flows).path a.evidence.targetResourceId
        request.affectedResourceId + (if targetOnPath request a flows then 0 else 7) = 25 := by
  obtain ⟨p, hp, -, -, haffected, -⟩ := chain_path hr hg hf
  by_cases htarget : a.evidence.targetResourceId ∈ p.resourceIds
  · simp [targetOnPath, topologyScore, hp, htarget, haffected]
  · simp [targetOnPath, topologyScore, hp, htarget, haffected]

/-- The points of corroboration are those of the provenance roots. -/
theorem corroboration_points
    (h : monitorApart request a flows = true ∨ endpointApart request a flows = true) :
    nsgCorroboration request (selectNsgChain request a flows) +
      (if allApart request a flows then 0 else if monitorApart request a flows then 7 else 8) =
        25 := by
  obtain ⟨f, hf⟩ := flow_of_apart h
  have hroots : ∀ o : MonitoringObservation, (request.observationCitation o).provenanceRootDigest =
      o.base.provenanceRootDigest := fun _ => rfl
  unfold monitorApart endpointApart at h
  unfold allApart monitorApart nsgCorroboration
  cases hm : (selectNsgChain request a flows).monitor with
  | none =>
    cases he : (selectNsgChain request a flows).endpoint with
    | none => simp [hm, he] at h
    | some e =>
      have hroot : e.provenanceRootDigest ≠ f.provenanceRootDigest := by
        simpa [hf, hm, he] using h
      simp [hf, distinctRootScore, hroots, MonitoringObservation.base, hroot]
  | some m =>
    cases he : (selectNsgChain request a flows).endpoint with
    | none =>
      have hroot : m.provenanceRootDigest ≠ f.provenanceRootDigest := by
        simpa [hf, hm, he] using h
      simp [hf, distinctRootScore, hroots, MonitoringObservation.base, hroot]
    | some e =>
      by_cases hmf : m.provenanceRootDigest = f.provenanceRootDigest
      · have hroot : e.provenanceRootDigest ≠ f.provenanceRootDigest := by
          simpa [hf, hm, he, hmf] using h
        simp [hf, distinctRootScore, hroots, MonitoringObservation.base, hmf, hroot]
      · by_cases hef : e.provenanceRootDigest = f.provenanceRootDigest
        · simp [hf, distinctRootScore, hroots, MonitoringObservation.base, hmf, hef]
        · by_cases hem : e.provenanceRootDigest = m.provenanceRootDigest
          · simp [hf, distinctRootScore, hroots, MonitoringObservation.base, hmf, hem]
          · simp [hf, distinctRootScore, hroots, MonitoringObservation.base, hmf, hef, hem,
              Ne.symm hmf, Ne.symm hef, Ne.symm hem]

/-- The first recovery is the earliest one. -/
theorem firstRecovery_endpoint (request : CorrelationRequest) (e : EndpointHealthObservation) :
    (firstRecovery request (.endpointHealth e) = none ↔ recoveriesOf request e = []) ∧
      ∀ r ∈ firstRecovery request (.endpointHealth e), r ∈ recoveriesOf request e ∧
        ∀ o ∈ recoveriesOf request e, r.base.observedStart ≤ o.base.observedStart := by
  refine ⟨sortOn_head_none, fun r hr => ?_⟩
  obtain ⟨hmem, hleast⟩ := sortOn_head hr
  exact ⟨hmem, fun o ho => (Prod.Lex.le_iff.mp (hleast o ho)).elim le_of_lt fun h => h.1.le⟩

/-- The points of recovery are those of an endpoint that is well again, and of a
change that put the properties back before. -/
theorem recovery_points (request : CorrelationRequest) (a : ChangeEvidenceArtifact)
    (flows : List NetworkFlowObservation) :
    (assessNsg request a flows).recovery.score +
      (if putBack request a flows then 0 else if recovered request a flows then 6 else 10) = 10 := by
  have hunfold : (assessNsg request a flows).recovery =
      if changesNsgRule a then recoveryAssessment request a.evidence.targetResourceId (some a)
        ((selectNsgChain request a flows).endpoint.map MonitoringObservation.endpointHealth)
      else noRecovery := rfl
  rw [hunfold]
  cases hrule : changesNsgRule a with
  | false => simp [putBack, recovered, hrule, noRecovery]
  | true =>
    cases he : (selectNsgChain request a flows).endpoint with
    | none => simp [putBack, recovered, he, recoveryAssessment, noRecovery]
    | some e =>
      obtain ⟨hnone, hfirst⟩ := firstRecovery_endpoint request e
      cases hr : firstRecovery request (.endpointHealth e) with
      | none =>
        simp [putBack, recovered, he, recoveryAssessment, hr, hnone.mp hr, noRecovery]
      | some r =>
        obtain ⟨hmem, hleast⟩ := hfirst r hr
        have hwell : recovered request a flows = true := by
          have hne : recoveriesOf request e ≠ [] := List.ne_nil_of_mem hmem
          simp [recovered, hrule, he, hne]
        have hback : putBack request a flows =
            (correctiveChange request a.evidence.targetResourceId (some a) r).isSome := by
          rw [Bool.eq_iff_iff, correctiveChange, sortOn_head_isSome]
          simp only [putBack, hwell, he, Bool.true_and, Option.any_some, List.any_eq_true,
            decide_eq_true_eq, List.mem_filter, Option.mem_some_iff, exists_eq_left']
          constructor
          · rintro ⟨c, hc, ht, hs, hlt, hall, hexact⟩
            exact ⟨c, hc, ht, hs, hlt, hall r hmem, hexact⟩
          · rintro ⟨c, hc, ht, hs, hlt, hle, hexact⟩
            exact ⟨c, hc, ht, hs, hlt, fun o ho => hle.trans (hleast o ho), hexact⟩
        rw [hback, hwell]
        cases hc : correctiveChange request a.evidence.targetResourceId (some a) r with
        | none => simp [recoveryAssessment, hr, hc]
        | some c => simp [recoveryAssessment, hr, hc]

/-- The points reach the high level exactly when the change touched a rule, or
is what the flow is attributed to, and little is missing for its distance. -/
theorem points_iff (hr : request.Accepted) (hg : flows ∈ nsgFlowGroups request a)
    (ht : a.evidence.occurredAt ≤ request.incidentStart)
    (h : monitorApart request a flows = true ∨ endpointApart request a flows = true) :
    ConfidenceLevel.high.minimumScore ≤
        ((assessNsg request a flows).score request a
          (assessNsg request a flows).recovery.score).rawScore ↔
      (attributed request a flows = true ∨ changesNsgRule a = true) ∧
        nearEnough (shortfall request a flows)
          (request.incidentStart - a.evidence.occurredAt) := by
  obtain ⟨f, hf⟩ := flow_of_apart h
  have htopology := topology_points hr hg hf
  have hcorroboration := corroboration_points h
  have hrecovery := recovery_points request a flows
  have htemporal := temporalScore_le a.evidence.occurredAt request.incidentStart
  have hsemantic : (assessNsg request a flows).attributedFlow.isSome = attributed request a flows := by
    show ((selectNsgChain request a flows).flow.filter _).isSome = _
    unfold attributed
    rw [hf]
    by_cases hb : flowBindsChange f a
    · simp [hb]
    · simp [hb]
  have hrule : (assessNsg request a flows).semanticMatch = changesNsgRule a := rfl
  have hscore : ((assessNsg request a flows).score request a
      (assessNsg request a flows).recovery.score).rawScore =
        topologyScore (selectNsgChain request a flows).path a.evidence.targetResourceId
            request.affectedResourceId +
          temporalScore a.evidence.occurredAt request.incidentStart +
          (if attributed request a flows then 20 else if changesNsgRule a then 14 else 0) +
          nsgCorroboration request (selectNsgChain request a flows) +
          (assessNsg request a flows).recovery.score := by
    rw [← hsemantic, ← hrule]
    rfl
  rw [nearEnough_iff ht, hscore]
  simp only [shortfall, ConfidenceLevel.minimumScore]
  cases hattributed : attributed request a flows with
  | true =>
    simp only [if_true, true_or, true_and]
    omega
  | false =>
    cases hchanges : changesNsgRule a with
    | true =>
      simp only [Bool.false_eq_true, if_true, if_false, or_true, true_and]
      omega
    | false =>
      have hzero : (assessNsg request a flows).recovery = noRecovery := by
        show (if (assessNsg request a flows).semanticMatch then _ else noRecovery) = noRecovery
        rw [hrule, hchanges]
        rfl
      rw [hzero]
      simp only [Bool.false_eq_true, if_false, or_self, false_and, iff_false, noRecovery]
      omega

/-! ## Roots, window and contrary records -/

/-- A chain cites one observation of each family. -/
theorem chainCitation_family_inj {chain : NsgChain} {c d : CorrelationEvidenceCitation}
    (hc : c ∈ chain.citations request) (hd : d ∈ chain.citations request)
    (h : c.family = d.family) : c = d := by
  rcases mem_chainCitations.mp hc with ⟨f, hf, rfl⟩ | ⟨m, hm, rfl⟩ | ⟨e, he, rfl⟩ <;>
    rcases mem_chainCitations.mp hd with ⟨f', hf', rfl⟩ | ⟨m', hm', rfl⟩ | ⟨e', he', rfl⟩
  · rw [Option.some.inj (hf.symm.trans hf')]
  · cases h
  · cases h
  · cases h
  · rw [Option.some.inj (hm.symm.trans hm')]
  · cases h
  · cases h
  · cases h
  · rw [Option.some.inj (he.symm.trans he')]

theorem mem_chainObservations {chain : NsgChain} {c : CorrelationEvidenceCitation} :
    c ∈ chain.citations request ↔
      ∃ o ∈ chainObservations chain, request.observationCitation o = c := by
  simp only [NsgChain.citations, chainObservations, List.mem_append, Option.mem_toList,
    Option.map_eq_some_iff, or_and_right, exists_or]
  refine or_congr (or_congr ?_ ?_) ?_ <;>
  · constructor
    · rintro ⟨x, hx, hc⟩
      exact ⟨_, ⟨x, hx, rfl⟩, hc⟩
    · rintro ⟨_, ⟨x, hx, rfl⟩, hc⟩
      exact ⟨x, hx, hc⟩

/-- Two citations of a chain with different roots make two independent ones. -/
theorem independent_of_roots {chain : NsgChain} {c d : CorrelationEvidenceCitation}
    (hc : c ∈ substantive (chain.citations request))
    (hd : d ∈ substantive (chain.citations request))
    (h : c.provenanceRootDigest ≠ d.provenanceRootDigest) :
    2 ≤ (independentCitations (chain.citations request)).length := by
  have hmaximal : GreedyMatchings.IsMaximal family provenanceRoot
      (substantive (chain.citations request)) (independentCitations (chain.citations request)) :=
    independentCitations_maximal
  -- a kept citation that meets a citation of the chain has its root
  have hroot : ∀ x ∈ substantive (chain.citations request), ∃ k ∈ independentCitations
      (chain.citations request), k.provenanceRootDigest = x.provenanceRootDigest := by
    intro x hx
    obtain ⟨k, hk, hmeets | hmeets⟩ := hmaximal.blocked x hx
    · exact ⟨k, hk, by rw [chainCitation_family_inj (mem_independentCitations hk)
        (mem_substantive.mp hx).1 hmeets]⟩
    · exact ⟨k, hk, hmeets⟩
  obtain ⟨k, hk, hkc⟩ := hroot c hc
  obtain ⟨l, hl, hld⟩ := hroot d hd
  by_contra hshort
  rcases hkept : independentCitations (chain.citations request) with _ | ⟨x, _ | ⟨y, rest⟩⟩
  · rw [hkept] at hk
    cases hk
  · rw [hkept, List.mem_singleton] at hk hl
    exact h (by rw [← hkc, ← hld, hk, hl])
  · rw [hkept] at hshort
    simp at hshort

/-- Two independent citations of a chain are two provenance roots of it. -/
theorem independent_iff_twoRoots :
    2 ≤ (independentCitations ((selectNsgChain request a flows).citations request)).length ↔
      twoRoots request a flows := by
  obtain ⟨hpair, hreal, -⟩ :=
    independentCitations_spec ((selectNsgChain request a flows).citations request)
  constructor
  · intro h
    rcases hkept : independentCitations ((selectNsgChain request a flows).citations request) with
      _ | ⟨x, _ | ⟨y, rest⟩⟩
    · rw [hkept] at h
      simp at h
    · rw [hkept] at h
      simp at h
    · have hx : x ∈ independentCitations ((selectNsgChain request a flows).citations request) :=
        hkept ▸ List.mem_cons_self
      have hy : y ∈ independentCitations ((selectNsgChain request a flows).citations request) :=
        hkept ▸ List.mem_cons_of_mem x List.mem_cons_self
      rw [hkept] at hpair
      have hxy := (List.pairwise_cons.mp hpair).1 y List.mem_cons_self
      have hcx := hreal x hx
      have hcy := hreal y hy
      obtain ⟨o, ho, rfl⟩ := mem_chainObservations.mp (mem_independentCitations hx)
      obtain ⟨o', ho', rfl⟩ := mem_chainObservations.mp (mem_independentCitations hy)
      exact ⟨o, ho, o', ho', hxy.2, hcx, hcy⟩
  · rintro ⟨o, ho, o', ho', hne, hc, hc'⟩
    exact independent_of_roots (mem_substantive.mpr ⟨mem_chainObservations.mpr ⟨o, ho, rfl⟩, hc⟩)
      (mem_substantive.mpr ⟨mem_chainObservations.mpr ⟨o', ho', rfl⟩, hc'⟩) hne

/-- Of two roots of a chain one is not the flow's. -/
theorem apart_of_twoRoots (h : twoRoots request a flows) :
    monitorApart request a flows = true ∨ endpointApart request a flows = true := by
  obtain ⟨o, ho, o', ho', hne, -, -⟩ := h
  by_contra hn
  rw [not_or] at hn
  cases hf : (selectNsgChain request a flows).flow with
  | none =>
    obtain ⟨hm, he, -⟩ := (selectNsgChain_selected a flows).bare hf
    simp [chainObservations, hf, hm, he] at ho
  | some f =>
    have hroot : ∀ x ∈ chainObservations (selectNsgChain request a flows),
        x.base.provenanceRootDigest = f.provenanceRootDigest := by
      intro x hx
      simp only [chainObservations, hf, List.mem_append, Option.mem_toList,
        Option.map_eq_some_iff] at hx
      rcases hx with (⟨f', hf', rfl⟩ | ⟨m, hm, rfl⟩) | ⟨e, he, rfl⟩
      · rw [← Option.some.inj hf']
        rfl
      · by_contra hne
        exact hn.1 ((Option.any_eq_true _ _).mpr ⟨f, hf, (Option.any_eq_true _ _).mpr
          ⟨m, hm, decide_eq_true hne⟩⟩)
      · by_contra hne
        exact hn.2 ((Option.any_eq_true _ _).mpr ⟨f, hf, (Option.any_eq_true _ _).mpr
          ⟨e, he, decide_eq_true hne⟩⟩)
    exact hne ((hroot o ho).trans (hroot o' ho').symm)

/-- No cited observation starts before a timely change exactly when none of the
claimed flows, the connection test and the endpoint does. -/
theorem window_iff (hr : request.Accepted)
    (ht : a.evidence.occurredAt ≤ request.incidentStart) :
    windowUnambiguous request a (assessNsg request a flows) ↔
      (∀ f ∈ claimedFlows request a (selectNsgChain request a flows).flow,
        a.evidence.occurredAt ≤ f.observedStart) ∧
      (∀ m ∈ (selectNsgChain request a flows).monitor, a.evidence.occurredAt ≤ m.observedStart) ∧
      ∀ e ∈ (selectNsgChain request a flows).endpoint,
        a.evidence.occurredAt ≤ e.observedStart := by
  have hsupport : ∀ c, c ∈ (assessNsg request a flows).causalSupport request a ↔
      c = changeCitation a ∨
        (∃ f ∈ claimedFlows request a (selectNsgChain request a flows).flow,
          flowCitation request f = c) ∨
        (∃ m ∈ (selectNsgChain request a flows).monitor, monitorCitation request m = c) ∨
        ∃ e ∈ (selectNsgChain request a flows).endpoint, endpointCitation request e = c := by
    intro c
    simp only [NsgAssessment.causalSupport, assessNsg, List.mem_cons, List.mem_append,
      List.mem_map, Option.mem_toList, Option.map_eq_some_iff, or_assoc, Option.mem_def]
  constructor
  · intro h
    refine ⟨fun f hf => ?_, fun m hm => ?_, fun e he => ?_⟩
    · exact h (flowCitation request f) (List.mem_append_left _ ((hsupport _).mpr
        (.inr (.inl ⟨f, hf, rfl⟩)))) (observationCitation_family _)
    · exact h (monitorCitation request m) (List.mem_append_left _ ((hsupport _).mpr
        (.inr (.inr (.inl ⟨m, hm, rfl⟩))))) (observationCitation_family _)
    · exact h (endpointCitation request e) (List.mem_append_left _ ((hsupport _).mpr
        (.inr (.inr (.inr ⟨e, he, rfl⟩))))) (observationCitation_family _)
  · rintro ⟨hflows, hmonitor, hendpoint⟩ c hc hfamily
    rcases List.mem_append.mp hc with hc | hc
    · rcases (hsupport c).mp hc with rfl | ⟨f, hf, rfl⟩ | ⟨m, hm, rfl⟩ | ⟨e, he, rfl⟩
      · exact absurd rfl hfamily
      · exact hflows f hf
      · exact hmonitor m hm
      · exact hendpoint e he
    · -- a recovery starts no earlier than the incident ends
      obtain ⟨o, -, rfl, hend⟩ := nsg_recovery_support hc
      exact ht.trans (hr.transition.interval.trans hend)

/-- No complete record to the contrary, observation by observation. -/
theorem contrary_iff (hg : flows ∈ nsgFlowGroups request a) :
    (allowedMatches request (claimedFlows request a (selectNsgChain request a flows).flow) = [] ↔
      ∀ f, .networkFlow f ∈ request.observations → f.decision = .allowed →
        (∃ d ∈ (selectNsgChain request a flows).flow, nsgChainKey f = nsgChainKey d) →
        request.overlapsIncident f.toObservationBase = true →
          matchingFlowCoverage request f = none) ∧
    (healthyMatches request (selectNsgChain request a flows).monitor.toList = [] ↔
      ∀ t, .connectionMonitor t ∈ request.observations → t.status = .succeeded →
        (∃ m ∈ (selectNsgChain request a flows).monitor, sameMonitor t m) →
        request.overlapsIncident t.toObservationBase = true →
          matchingMonitorCoverage request t = none) := by
  constructor
  · have hkeys : ∀ f : NetworkFlowObservation,
        (∃ d ∈ claimedFlows request a (selectNsgChain request a flows).flow,
          nsgChainKey f = nsgChainKey d) ↔
        ∃ d ∈ (selectNsgChain request a flows).flow, nsgChainKey f = nsgChainKey d := by
      intro f
      constructor
      · rintro ⟨d, hd, hk⟩
        obtain ⟨-, -, d', hd', hk'⟩ := claimed_candidate hg hd
        exact ⟨d', hd', hk.trans hk'⟩
      · rintro ⟨d, hd, hk⟩
        exact ⟨d, chain_flow_claimed hd, hk⟩
    simp only [allowedMatches, sortOn_eq_nil, List.filterMap_eq_nil_iff, mem_networkFlows, hkeys]
    refine forall₂_congr fun f hf => ?_
    by_cases hd : f.decision = .allowed <;> simp [hd]
  · simp only [healthyMatches, sortOn_eq_nil, List.filterMap_eq_nil_iff, mem_connectionMonitors,
      Option.mem_toList]
    refine forall₂_congr fun t ht => ?_
    by_cases hs : t.status = .succeeded <;> simp [hs]

/-- Conflicts of an assessment, by their sources. -/
theorem nsg_hardConflict_iff : hasHardConflict (assessNsg request a flows).contradictions = false ↔
    a.evidence.result ≠ .failed ∧ a.evidence.occurredAt ≤ request.incidentStart ∧
      allowedMatches request (claimedFlows request a (selectNsgChain request a flows).flow) = [] ∧
      healthyMatches request (selectNsgChain request a flows).monitor.toList = [] := by
  have hiff : hasHardConflict (assessNsg request a flows).contradictions = true ↔
      ∃ code, attachedHardConflict (networkSecurityHypothesis request a flows) code := by
    rw [hasHardConflict_iff]
    constructor
    · rintro ⟨k, hk, hh⟩
      exact ⟨k.code, k, mem_made_contradictions.mpr hk, hh, rfl⟩
    · rintro ⟨code, k, hk, hh, -⟩
      exact ⟨k, mem_made_contradictions.mp hk, hh⟩
  rw [← Bool.not_eq_true, hiff]
  simp only [nsg_attached_iff, not_exists, not_or, not_and]
  constructor
  · intro h
    refine ⟨(h .changeFailed).1.1 rfl, not_lt.mp ((h .changeAfterDegradation).1.2 rfl), ?_, ?_⟩
    · exact not_not.mp ((h .completeAllowedFlow).2.1 rfl)
    · exact not_not.mp ((h .completeHealthyConnectionMonitor).2.2 rfl)
  · rintro ⟨hf, ht, hallowed, hhealthy⟩ code
    exact ⟨⟨fun _ => hf, fun _ => not_lt.mpr ht⟩, fun _ => not_not.mpr hallowed,
      fun _ => not_not.mpr hhealthy⟩

/-- A change of unknown result reaches the high level on its evidence alone. -/
theorem high_iff_of_unknown (hr : request.Accepted) (hg : flows ∈ nsgFlowGroups request a)
    (hu : a.evidence.result = .unknown) :
    ConfidenceLevel.high.rank ≤ ((assessNsg request a flows).confidence request a).rank ↔
      ReachesHigh request a flows := by
  have hconf : (assessNsg request a flows).confirmed request a = false := by
    simp [NsgAssessment.confirmed, hu]
  have hrec : (assessNsg request a flows).countedRecovery request a =
      (assessNsg request a flows).recovery := by
    unfold NsgAssessment.countedRecovery
    rw [hconf]
    rfl
  obtain ⟨hallowed_iff, hhealthy_iff⟩ := contrary_iff hg
  rw [high_iff, nsg_hardConflict_iff, hrec]
  constructor
  · rintro ⟨⟨-, ht, hallowed, hhealthy⟩, hscore, hpath, hind, hwindow, -⟩
    have hroots := independent_iff_twoRoots.mp hind
    have hapart := apart_of_twoRoots hroots
    obtain ⟨hcausal, hnear⟩ := (points_iff hr hg ht hapart).mp hscore
    obtain ⟨hflows, hmonitor, hendpoint⟩ := (window_iff hr ht).mp hwindow
    exact
      { timely := ht
        roots := hroots
        flowsAfter := hflows
        monitorAfter := hmonitor
        endpointAfter := hendpoint
        noneAllowed := hallowed_iff.mp hallowed
        noneHealthy := hhealthy_iff.mp hhealthy
        causal := hcausal
        near := hnear }
  · intro h
    have hapart := apart_of_twoRoots h.roots
    obtain ⟨f, hf⟩ := flow_of_apart hapart
    refine ⟨⟨by simp [hu], h.timely, hallowed_iff.mpr h.noneAllowed,
      hhealthy_iff.mpr h.noneHealthy⟩, (points_iff hr hg h.timely hapart).mpr ⟨h.causal, h.near⟩,
      (pathObservation_ne_none hr hg).mpr (by simp [hf]), independent_iff_twoRoots.mpr h.roots,
      (window_iff hr h.timely).mpr ⟨h.flowsAfter, h.monitorAfter, h.endpointAfter⟩,
      flowCitation request f, ?_, observationCitation_family _⟩
    exact List.mem_append_left _
      (chainCitation_causal hr hg (mem_chainCitations.mpr (Or.inl ⟨f, hf, rfl⟩))).1

/-- The levels of a network security hypothesis are earned exactly unless the
change's result is unknown and its evidence reaches the high level. -/
theorem networkSecurity_confidenceEarned_iff (request : CorrelationRequest)
    (a : ChangeEvidenceArtifact) (flows : List NetworkFlowObservation) (hr : request.Accepted)
    (ha : a ∈ request.changeArtifacts) (hg : flows ∈ nsgFlowGroups request a) :
    confidenceEarned request a (networkSecurityHypothesis request a flows) ↔
      ¬ (a.evidence.result = .unknown ∧ ReachesHigh request a flows) := by
  constructor
  · rintro ⟨hhigh, -⟩ ⟨hu, hreach⟩
    have hs := (hhigh ((high_iff_of_unknown hr hg hu).mpr hreach)).succeeded
    rw [hu] at hs
    cases hs
  · intro hn
    have hsucceeded : ConfidenceLevel.high.rank ≤
        ((assessNsg request a flows).confidence request a).rank →
        a.evidence.result = .succeeded := by
      intro h
      cases hres : a.evidence.result with
      | succeeded => rfl
      | failed => exact absurd hres (nsg_hardConflict_iff.mp ((high_iff _).mp h).1).1
      | unknown => exact absurd ⟨hres, (high_iff_of_unknown hr hg hres).mp h⟩ hn
    exact ⟨fun h => highEarned_of_succeeded hr ha hg (hsucceeded h) h,
      fun h => confirmedEarned_of_confirmed hr ha hg h⟩

/-- The levels of the sample change that succeeded are earned. -/
theorem networkSecurity_confidenceEarned_succeeded :
    confidenceEarned (sampleRequest .succeeded) (sampleChange .succeeded)
        (networkSecurityHypothesis (sampleRequest .succeeded) (sampleChange .succeeded)
          [sampleFlow]) ↔
      ¬ ((sampleChange .succeeded).evidence.result = .unknown ∧
        ReachesHigh (sampleRequest .succeeded) (sampleChange .succeeded) [sampleFlow]) :=
  networkSecurity_confidenceEarned_iff (sampleRequest .succeeded) (sampleChange .succeeded)
    [sampleFlow] (sampleRequest_accepted .succeeded) List.mem_cons_self (sampleFlow_group .succeeded)

/-- A change of unknown result is given the high level. -/
theorem unknownResult_not_earned :
    (sampleRequest .unknown).Accepted ∧
      ∃ a ∈ (sampleRequest .unknown).changeArtifacts,
        ∃ h ∈ networkSecurityHypotheses (sampleRequest .unknown) a,
          h.confidence = .high ∧ ¬ confidenceEarned (sampleRequest .unknown) a h := by
  have hlevel : (networkSecurityHypothesis (sampleRequest .unknown) (sampleChange .unknown)
      [sampleFlow]).confidence = .high := by
    decide +kernel
  refine ⟨sampleRequest_accepted .unknown, sampleChange .unknown, List.mem_cons_self, _,
    List.mem_map_of_mem (sampleFlow_group .unknown), hlevel, fun he => ?_⟩
  have hs := (he.1 (by rw [hlevel])).succeeded
  cases hs

end AthenaContext.CorrelationConfidence
