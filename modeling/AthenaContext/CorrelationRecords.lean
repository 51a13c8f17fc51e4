import AthenaContext.CorrelationSelection

/-!
# Records of a made hypothesis

What `_make_hypothesis` puts into a hypothesis, seen through the contract's
own lookups: the identifiers of a gate, the citations of the support, and the
observations which a gate cites. A draft states each gate at most once, so a
gate of the draft is exactly what the contract finds under its code.
-/

namespace AthenaContext.CorrelationRecords

open OrdinalCollections CorrelationRules CorrelationEvidence CorrelationEnvelope CorrelationMatching
  CorrelationEngine CorrelationContract CorrelationIndex

variable {request : CorrelationRequest}

/-! ## Gates -/

theorem gateText_inj {a b : CorrelationGateCode} (h : a.text = b.text) : a = b := by
  cases a <;> cases b <;> first | rfl | exact absurd h (by decide)

@[simp] theorem mem_guardedGate {condition : Bool} {g x : CorrelationGate} :
    x ∈ guardedGate condition g ↔ condition = true ∧ x = g := by
  cases condition <;> simp [guardedGate]

@[simp] theorem mem_optionalGate {code : CorrelationGateCode}
    {citation : Option CorrelationEvidenceCitation} {x : CorrelationGate} :
    x ∈ optionalGate code citation ↔ ∃ c ∈ citation, x = gate code c := by
  cases citation <;> simp [optionalGate]

@[simp] theorem mem_noHardConflictGate {contradictions : List CorrelationContradiction}
    {x : CorrelationGate} :
    x ∈ noHardConflictGate contradictions ↔
      hasHardConflict contradictions = false ∧ x = ⟨.noHardConflict, true, []⟩ := by
  unfold noHardConflictGate
  cases hasHardConflict contradictions <;> simp

theorem guardedGate_codes (condition : Bool) (g : CorrelationGate) :
    ((guardedGate condition g).map CorrelationGate.code).Sublist [g.code] := by
  cases condition <;> simp [guardedGate]

theorem optionalGate_codes (code : CorrelationGateCode)
    (citation : Option CorrelationEvidenceCitation) :
    ((optionalGate code citation).map CorrelationGate.code).Sublist [code] := by
  cases citation <;> simp [optionalGate, gate]

theorem noHardConflictGate_codes (contradictions : List CorrelationContradiction) :
    ((noHardConflictGate contradictions).map CorrelationGate.code).Sublist [.noHardConflict] := by
  unfold noHardConflictGate
  cases hasHardConflict contradictions <;> simp

/-- The gates of a draft with distinct codes are the gates of its hypothesis. -/
theorem mem_made_gates {d : HypothesisDraft} (hn : (d.gates.map CorrelationGate.code).Nodup)
    {g : CorrelationGate} : g ∈ (makeHypothesis d).gates ↔ g ∈ d.gates :=
  mem_canonicalTuple_iff fun _ hx _ hy hk =>
    List.inj_on_of_nodup_map hn hy hx (gateText_inj hk)

/-- The contract finds a satisfied gate exactly as the draft states it. -/
theorem gateIds_made {d : HypothesisDraft} (hn : (d.gates.map CorrelationGate.code).Nodup)
    {code : CorrelationGateCode} {ids : List String} :
    gateIds (makeHypothesis d) code = some ids ↔ ⟨code, true, ids⟩ ∈ d.gates := by
  have hcodes : ((makeHypothesis d).gates.map CorrelationGate.code).Nodup := by
    refine List.Nodup.of_map CorrelationGateCode.text ?_
    rw [List.map_map]
    exact (canonicalTuple_strictlyOrdered (fun g : CorrelationGate => g.code.text) d.gates).nodup
  unfold gateIds
  constructor
  · intro h
    obtain ⟨g, hg, rfl⟩ := Option.map_eq_some_iff.mp h
    obtain ⟨hf, hs⟩ := Option.filter_eq_some_iff.mp hg
    obtain ⟨hm, rfl⟩ := find_key_some CorrelationGate.code hf
    have hmem := (mem_made_gates hn).mp hm
    have hgate : g = ⟨g.code, true, g.evidenceIds⟩ := by
      rw [← hs]
    rwa [hgate] at hmem
  · intro h
    have hf := find_key hcodes ((mem_made_gates hn).mpr h)
    simp only at hf
    rw [hf]
    rfl

/-! ## Cited observations -/

section Accepted

variable (hr : request.Accepted)
include hr

/-- An identifier belongs to one observation. -/
theorem observation_inj {o o' : MonitoringObservation} (ho : o ∈ request.observations)
    (ho' : o' ∈ request.observations) (h : o.base.observationId = o'.base.observationId) :
    o = o' :=
  List.inj_on_of_nodup_map (observationIds_nodup hr) ho ho' h

/-- An identifier belongs to one change. -/
theorem change_inj {a a' : ChangeEvidenceArtifact} (ha : a ∈ request.changeArtifacts)
    (ha' : a' ∈ request.changeArtifacts) (h : a.evidence.evidenceId = a'.evidence.evidenceId) :
    a = a' :=
  List.inj_on_of_nodup_map (changeIds_nodup hr) ha ha' h

theorem mem_citedObservations {ids : List String} {o : MonitoringObservation} :
    o ∈ citedObservations request ids ↔
      o ∈ request.observations ∧ o.base.observationId ∈ ids := by
  unfold citedObservations
  rw [List.mem_filterMap]
  constructor
  · rintro ⟨i, hi, h⟩
    obtain ⟨hm, rfl⟩ := observation?_some h
    exact ⟨hm, hi⟩
  · rintro ⟨hm, hi⟩
    exact ⟨_, hi, observation?_mem hr hm⟩

/-- The claimed flows of the contract, when the denied-flow gate cites
exactly the given concurrent flows. -/
theorem mem_contractClaimedFlows {h : RootCauseHypothesis} {flows : List NetworkFlowObservation}
    (hflows : ∀ f ∈ flows, .networkFlow f ∈ request.observations ∧
      concurrent request f.toObservationBase)
    (hids : ∀ i, i ∈ gateIdList h .matchingDeniedFlow ↔ ∃ f ∈ flows, f.observationId = i)
    {f : NetworkFlowObservation} : f ∈ contractClaimedFlows request h ↔ f ∈ flows := by
  have hcited : f ∈ contractClaimedFlows request h ↔ (.networkFlow f ∈ request.observations ∧
      f.observationId ∈ gateIdList h .matchingDeniedFlow) ∧
        request.overlapsIncident f.toObservationBase = true := by
    rw [contractClaimedFlows, List.mem_filter, mem_networkFlows, mem_citedObservations hr,
      decide_eq_true_eq]
    rfl
  rw [hcited, hids]
  constructor
  · rintro ⟨⟨hf, g, hg, hid⟩, -⟩
    cases observation_inj hr (hflows g hg).1 hf hid
    exact hg
  · intro hf
    exact ⟨⟨(hflows f hf).1, f, hf, rfl⟩, (hflows f hf).2.2⟩

/-- The claimed failed tests of the contract, likewise. -/
theorem mem_contractClaimedTests {h : RootCauseHypothesis}
    {tests : List ConnectionMonitorObservation}
    (htests : ∀ m ∈ tests, .connectionMonitor m ∈ request.observations ∧ m.status = .failed ∧
      h.affectedPathId = some m.pathId ∧ concurrent request m.toObservationBase)
    (hids : ∀ i, i ∈ gateIdList h .connectionMonitorFailure ↔ ∃ m ∈ tests, m.observationId = i)
    {m : ConnectionMonitorObservation} : m ∈ contractClaimedTests request h ↔ m ∈ tests := by
  have hcited : m ∈ contractClaimedTests request h ↔
      (.connectionMonitor m ∈ request.observations ∧
        m.observationId ∈ gateIdList h .connectionMonitorFailure) ∧ m.status = .failed ∧
        h.affectedPathId = some m.pathId ∧
        request.overlapsIncident m.toObservationBase = true := by
    rw [contractClaimedTests, List.mem_filter, mem_connectionMonitors, mem_citedObservations hr,
      decide_eq_true_eq]
    rfl
  rw [hcited, hids]
  constructor
  · rintro ⟨⟨hm, g, hg, hid⟩, -⟩
    cases observation_inj hr (htests g hg).1 hm hid
    exact hg
  · intro hm
    obtain ⟨ho, hs, hp, hc⟩ := htests m hm
    exact ⟨⟨ho, m, hm, rfl⟩, hs, hp, hc.2⟩

end Accepted

/-! ## Support -/

/-- A citation of the index is determined by its identifier. -/
theorem citation_inj (hr : request.Accepted) {c c' : CorrelationEvidenceCitation}
    (hc : c ∈ request.evidenceIndex) (hc' : c' ∈ request.evidenceIndex)
    (h : c.evidenceId = c'.evidenceId) : c = c' :=
  List.inj_on_of_nodup_map hr.indexIds hc hc' h

/-- A canonical tuple of citations of the index keeps every citation. -/
theorem mem_canonicalCitations (hr : request.Accepted) {support : List CorrelationEvidenceCitation}
    (hs : ∀ c ∈ support, c ∈ request.evidenceIndex) {c : CorrelationEvidenceCitation} :
    c ∈ canonicalTuple CorrelationEvidenceCitation.evidenceId support ↔ c ∈ support :=
  mem_canonicalTuple_iff fun _ hx _ hy hk => citation_inj hr (hs _ hy) (hs _ hx) hk

@[simp] theorem mem_made_contradictions {d : HypothesisDraft} {k : CorrelationContradiction} :
    k ∈ (makeHypothesis d).contradictions ↔ k ∈ d.contradictions :=
  mem_sortOn

theorem hasHardConflict_iff {contradictions : List CorrelationContradiction} :
    hasHardConflict contradictions = true ↔ ∃ k ∈ contradictions, k.hardConflict = true :=
  List.any_eq_true

/-! ## Independent citations -/

/-- Of different families and provenance roots. -/
def independentPair (x y : CorrelationEvidenceCitation) : Prop :=
  x.family ≠ y.family ∧ x.provenanceRootDigest ≠ y.provenanceRootDigest

/-- One greedy step keeps the kept citations, and adds at most the citation at
hand, which is then no coverage record and independent of all kept ones. -/
theorem independent_fold (citations : List CorrelationEvidenceCitation) :
    ∀ kept : List CorrelationEvidenceCitation, kept.Pairwise independentPair →
      (∀ c ∈ kept, c.isCoverage = false) →
      let result := citations.foldl (fun kept c =>
        if c.isCoverage ∨ ∃ k ∈ kept, k.family = c.family ∨
            k.provenanceRootDigest = c.provenanceRootDigest then kept
        else kept ++ [c]) kept
      result.Pairwise independentPair ∧ (∀ c ∈ result, c.isCoverage = false) ∧
        ∃ added : List CorrelationEvidenceCitation, result = kept ++ added ∧
          added.Sublist citations := by
  induction citations with
  | nil => exact fun kept hp hc => ⟨hp, hc, [], by simp, List.Sublist.refl _⟩
  | cons c citations ih =>
    intro kept hp hcov
    simp only [List.foldl_cons]
    split
    · obtain ⟨h₁, h₂, added, h₃, h₄⟩ := ih kept hp hcov
      exact ⟨h₁, h₂, added, h₃, h₄.cons c⟩
    · rename_i hnew
      obtain ⟨hplain, hfree⟩ := not_or.mp hnew
      have hp' : (kept ++ [c]).Pairwise independentPair := by
        rw [List.pairwise_append]
        refine ⟨hp, List.pairwise_singleton _ _, fun k hk x hx => ?_⟩
        rw [List.mem_singleton] at hx
        subst hx
        exact ⟨fun hf => hfree ⟨k, hk, Or.inl hf⟩, fun hd => hfree ⟨k, hk, Or.inr hd⟩⟩
      have hcov' : ∀ x ∈ kept ++ [c], x.isCoverage = false := by
        intro x hx
        rcases List.mem_append.mp hx with hx | hx
        · exact hcov x hx
        · rw [List.mem_singleton.mp hx]
          exact Bool.not_eq_true _ ▸ hplain
      obtain ⟨h₁, h₂, added, h₃, h₄⟩ := ih (kept ++ [c]) hp' hcov'
      exact ⟨h₁, h₂, c :: added, by rw [h₃]; simp, h₄.cons_cons c⟩

/-- The specification of `_independent_citations`. -/
theorem independentCitations_spec (citations : List CorrelationEvidenceCitation) :
    (independentCitations citations).Pairwise independentPair ∧
      (∀ c ∈ independentCitations citations, c.isCoverage = false) ∧
      (independentCitations citations).Sublist
        (sortOn CorrelationEvidenceCitation.evidenceId citations) := by
  obtain ⟨h₁, h₂, added, h₃, h₄⟩ := independent_fold
    (sortOn CorrelationEvidenceCitation.evidenceId citations) [] List.Pairwise.nil (by simp)
  refine ⟨h₁, h₂, ?_⟩
  rw [List.nil_append] at h₃
  unfold independentCitations
  rw [h₃]
  exact h₄

theorem mem_independentCitations {citations : List CorrelationEvidenceCitation}
    {c : CorrelationEvidenceCitation} (h : c ∈ independentCitations citations) : c ∈ citations :=
  mem_sortOn.mp ((independentCitations_spec citations).2.2.subset h)

/-- When every citation is independent of the others, none is left out. -/
theorem independentCitations_perm {citations : List CorrelationEvidenceCitation}
    (h : citations.length ≤ (independentCitations citations).length) :
    (independentCitations citations).Perm citations := by
  have hsub := (independentCitations_spec citations).2.2
  have heq := hsub.eq_of_length_le (by rwa [length_sortOn])
  rw [heq]
  exact sortOn_perm _ _

/-! ## Hypotheses of the report -/

/-- Every candidate has rank one, as `_make_hypothesis` sets it. -/
theorem candidate_rank {h : RootCauseHypothesis} (hh : h ∈ candidateHypotheses request) :
    h.rank = 1 := by
  unfold candidateHypotheses at hh
  rcases List.mem_append.mp hh with hh | hh
  · rcases List.mem_append.mp hh with hh | hh
    · obtain ⟨a, -, hh⟩ := List.mem_flatMap.mp hh
      unfold changeHypotheses at hh
      split at hh
      · obtain ⟨flows, -, rfl⟩ := List.mem_map.mp hh
        rfl
      · rw [List.mem_singleton] at hh
        rw [hh]
        rfl
    · obtain ⟨key, -, hk⟩ := List.mem_filterMap.mp hh
      obtain ⟨s, -, rfl⟩ := Option.map_eq_some_iff.mp hk
      rfl
  · obtain ⟨o, -, ho⟩ := List.mem_filterMap.mp hh
    obtain ⟨category, -, rfl⟩ := Option.map_eq_some_iff.mp ho
    rfl

/-- Deduplication by an injective digest loses no candidate. -/
theorem candidate_computed (sha : HypothesisDigest) {h : RootCauseHypothesis}
    (hh : h ∈ candidateHypotheses request) : h ∈ computeHypotheses request sha := by
  have hkept : h ∈ dictOf sha.digest (candidateHypotheses request) := by
    refine mem_dictOf_of_unique hh fun h' hh' hd => ?_
    have hsame := sha.injective h' h hd
    have hid : ∀ x ∈ candidateHypotheses request, { x with rank := 1 } = x := by
      intro x hx
      rw [← candidate_rank hx]
    rwa [hid h' hh', hid h hh] at hsame
  unfold computeHypotheses deduplicatedHypotheses
  rw [mem_sortOn]
  cases hd : dictOf sha.digest (candidateHypotheses request) with
  | nil => simp [hd] at hkept
  | cons x rest => rwa [hd] at hkept

/-- A computed hypothesis is a candidate or the fallback. -/
theorem computed_cases {sha : HypothesisDigest} {h : RootCauseHypothesis}
    (hh : h ∈ computeHypotheses request sha) :
    h ∈ candidateHypotheses request ∨ h = unknownHypothesis request := by
  unfold computeHypotheses deduplicatedHypotheses at hh
  rw [mem_sortOn] at hh
  split at hh
  · exact Or.inr (List.mem_singleton.mp hh)
  · exact Or.inl (mem_of_mem_dictOf hh)

/-- The four builders of candidates. -/
theorem mem_candidateHypotheses {h : RootCauseHypothesis} :
    h ∈ candidateHypotheses request ↔
      (∃ a ∈ timelyChanges request, a.evidence.isSecurityRule = true ∧
        ∃ flows ∈ nsgFlowGroups request a, networkSecurityHypothesis request a flows = h) ∨
      (∃ a ∈ timelyChanges request, a.evidence.isSecurityRule = false ∧
        changeHypothesis request a = h) ∨
      (∃ key ∈ dependencyKeys request, ∃ s ∈ dependencySelection request key,
        dependencyHypothesis request s = h) ∨
      h ∈ observationHypotheses request := by
  have hchange : h ∈ (timelyChanges request).flatMap (changeHypotheses request) ↔
      (∃ a ∈ timelyChanges request, a.evidence.isSecurityRule = true ∧
        ∃ flows ∈ nsgFlowGroups request a, networkSecurityHypothesis request a flows = h) ∨
      ∃ a ∈ timelyChanges request, a.evidence.isSecurityRule = false ∧
        changeHypothesis request a = h := by
    rw [List.mem_flatMap, ← exists_or]
    refine exists_congr fun a => ?_
    rw [← and_or_left]
    refine and_congr_right fun _ => ?_
    unfold changeHypotheses networkSecurityHypotheses
    cases a.evidence.isSecurityRule <;> simp [eq_comm]
  have hdependency : h ∈ dependencyHypotheses request ↔ ∃ key ∈ dependencyKeys request,
      ∃ s ∈ dependencySelection request key, dependencyHypothesis request s = h := by
    unfold dependencyHypotheses
    rw [List.mem_filterMap]
    refine exists_congr fun key => and_congr_right fun _ => ?_
    rw [Option.map_eq_some_iff]
    rfl
  rw [candidateHypotheses, List.mem_append, List.mem_append, hchange, hdependency, or_assoc,
    or_assoc]

end AthenaContext.CorrelationRecords
