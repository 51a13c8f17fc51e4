import AthenaContext.CorrelationContract

/-!
# The evidence index of an accepted request

Identifiers of observations, coverage records and changes are distinct
within and across the three kinds. Hence every lookup by an identifier finds
exactly the record it names, and none of another kind.
-/

namespace AthenaContext.CorrelationIndex

open OrdinalCollections CorrelationEvidence CorrelationEnvelope CorrelationMatching

variable {request : CorrelationRequest}

theorem mem_evidenceIndex {c : CorrelationEvidenceCitation} :
    c ∈ request.evidenceIndex ↔
      (∃ o ∈ request.observations, request.observationCitation o = c) ∨
      (∃ k ∈ request.coverage, request.coverageCitation k = c) ∨
      ∃ a ∈ request.changeArtifacts, changeCitation a = c := by
  simp only [CorrelationRequest.evidenceIndex, mem_sortOn, List.mem_append, List.mem_map, or_assoc]

theorem observationCitation_mem {o : MonitoringObservation} (h : o ∈ request.observations) :
    request.observationCitation o ∈ request.evidenceIndex :=
  mem_evidenceIndex.mpr (Or.inl ⟨o, h, rfl⟩)

theorem changeCitation_mem {a : ChangeEvidenceArtifact} (h : a ∈ request.changeArtifacts) :
    changeCitation a ∈ request.evidenceIndex :=
  mem_evidenceIndex.mpr (Or.inr (Or.inr ⟨a, h, rfl⟩))

section Accepted

variable (hr : request.Accepted)
include hr

/-- The identifiers of the three kinds, in supply order, are distinct. -/
theorem ids_nodup :
    (request.observations.map (fun o => o.base.observationId) ++
      request.coverage.map EvidenceCoverage.coverageId ++
      request.changeArtifacts.map (fun a => a.evidence.evidenceId)).Nodup := by
  have hn := hr.indexIds
  have hp := (sortOn_perm CorrelationEvidenceCitation.evidenceId
    (request.observations.map request.observationCitation ++
      request.coverage.map request.coverageCitation ++
      request.changeArtifacts.map changeCitation)).map CorrelationEvidenceCitation.evidenceId
  have h := hp.nodup_iff.mp hn
  rw [List.map_append, List.map_append, List.map_map, List.map_map, List.map_map] at h
  exact h

theorem observationIds_nodup :
    (request.observations.map fun o => o.base.observationId).Nodup :=
  ((List.nodup_append.mp (List.nodup_append.mp (ids_nodup hr)).1)).1

theorem changeIds_nodup :
    (request.changeArtifacts.map fun a => a.evidence.evidenceId).Nodup :=
  (List.nodup_append.mp (ids_nodup hr)).2.1

theorem observationId_ne_changeId {o : MonitoringObservation} {a : ChangeEvidenceArtifact}
    (ho : o ∈ request.observations) (ha : a ∈ request.changeArtifacts) :
    o.base.observationId ≠ a.evidence.evidenceId :=
  (List.nodup_append.mp (ids_nodup hr)).2.2 _
    (List.mem_append_left _ (List.mem_map.mpr ⟨o, ho, rfl⟩)) _ (List.mem_map.mpr ⟨a, ha, rfl⟩)

theorem observation?_mem {o : MonitoringObservation} (ho : o ∈ request.observations) :
    request.observation? o.base.observationId = some o :=
  find_key (observationIds_nodup hr) ho

theorem path?_mem {p : DependencyPath} (hp : p ∈ request.paths) :
    request.path? p.pathId = some p :=
  find_key hr.pathOrder.nodup hp

end Accepted

theorem path?_some {pid : String} {p : DependencyPath} (h : request.path? pid = some p) :
    p ∈ request.paths ∧ p.pathId = pid :=
  find_key_some DependencyPath.pathId h

theorem observation?_some {i : String} {o : MonitoringObservation}
    (h : request.observation? i = some o) : o ∈ request.observations ∧ o.base.observationId = i :=
  find_key_some (fun o : MonitoringObservation => o.base.observationId) h

/-- The governed path of an observation that names one. -/
theorem governed_path (hr : request.Accepted) {o : MonitoringObservation} {pid : String}
    (ho : o ∈ request.observations) (hp : o.pathId? = some pid) :
    ∃ p, request.path? pid = some p ∧ p ∈ request.paths ∧ o.pathResourceIds ⊆ p.resourceIds := by
  obtain ⟨p, hm, rfl, hs⟩ := hr.governed o ho pid hp
  exact ⟨p, path?_mem hr hm, hm, hs⟩

/-- Decimal texts of distinct numbers are distinct. -/
theorem repr_inj {m n : ℕ} : m.repr = n.repr ↔ m = n := by
  constructor
  · intro h
    have hl : Nat.toDigits 10 m = Nat.toDigits 10 n := by
      rw [← Nat.toList_repr, ← Nat.toList_repr, h]
    rw [← Nat.ofDigitChars_ten_toDigits (n := m), hl, Nat.ofDigitChars_ten_toDigits]
  · rintro rfl
    rfl

/-- Two flows have one chain key exactly when they are the same flow. A rule
identifier of an accepted flow is never empty, so its key part is faithful. -/
theorem nsgChainKey_eq_iff {a b : NetworkFlowObservation}
    (ha : a.ruleResourceId ≠ some "") (hb : b.ruleResourceId ≠ some "") :
    nsgChainKey a = nsgChainKey b ↔ sameFlow a b := by
  have hdir : ∀ x y : FlowDirection, x.text = y.text ↔ x = y := by
    intro x y
    cases x <;> cases y <;> simp [FlowDirection.text]
  have hproto : ∀ x y : NetworkProtocol, x.text = y.text ↔ x = y := by
    intro x y
    cases x <;> cases y <;> simp [NetworkProtocol.text]
  have hport : ∀ x y : Option ℕ, portKey x = portKey y ↔ x = y := by
    intro x y
    cases x <;> cases y <;> simp [portKey]
  have hrule : a.ruleResourceId.getD "" = b.ruleResourceId.getD "" ↔
      a.ruleResourceId = b.ruleResourceId := by
    cases hra : a.ruleResourceId <;> cases hrb : b.ruleResourceId <;> simp_all [eq_comm]
  simp only [nsgChainKey, flowTupleKey, sameFlow, List.cons_append, List.nil_append,
    List.cons.injEq, and_true, hdir, hproto, hport, hrule]

theorem sameFlow.trans {a b c : NetworkFlowObservation} (h : sameFlow a b) (k : sameFlow b c) :
    sameFlow a c := by
  simp only [sameFlow] at *
  simp_all

/-- Canonical resource identifiers are not empty. -/
theorem canonicalResourceId_ne_empty {r : ResourceId} (h : canonicalResourceId r) : r ≠ "" := by
  rintro rfl
  exact absurd h (by decide)

theorem ruleResourceId_ne_empty (hr : request.Accepted) {f : NetworkFlowObservation}
    (hf : f ∈ networkFlows request.observations) : f.ruleResourceId ≠ some "" := by
  intro he
  have hv : f.Valid := hr.bundle.observations _ (mem_networkFlows.mp hf)
  exact canonicalResourceId_ne_empty (hv.resources.2.2.2 "" he) rfl

end AthenaContext.CorrelationIndex
