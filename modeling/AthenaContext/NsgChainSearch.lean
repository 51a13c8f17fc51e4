import AthenaContext.CorrelationConflicts
import AthenaContext.IndependentCorroboration
import AthenaContext.RankedRepresentatives

/-!
# The search for an NSG chain

What the pruned search for the chain of a network security change loses. It keeps one failed
test of each provenance root of a flow and a few degraded endpoints, the first by ranks of their
own. The chain found is never worse in hard conflicts and chronology than another, and it is
never worse at all exactly when some best chain has a test and an endpoint that the ones kept in
their places stand in for.
-/

namespace AthenaContext.NsgChainSearch

open OrdinalCollections CorrelationRules CorrelationEvidence CorrelationEnvelope CorrelationMatching
  CorrelationEngine CorrelationSelection CorrelationIndex GreedyMatchings IndependentCorroboration
  RankedRepresentatives

variable (request : CorrelationRequest) (a : ChangeEvidenceArtifact)

/-! ## The unpruned product -/

/-- The degraded endpoints of a flow's destination. -/
def degradedEndpoints (f : NetworkFlowObservation) : List EndpointHealthObservation :=
  (request.path? f.pathId).elim [] fun p => matchingDegradedEndpoints request f.destinationResourceId p

/-- A failed test of the flow, or none where there are none. -/
def IsMonitor (f : NetworkFlowObservation) : Option ConnectionMonitorObservation → Prop
  | none => matchingFailedMonitors request f = []
  | some m => m ∈ matchingFailedMonitors request f

/-- The chain of a flow, a test and an endpoint. -/
def chainOf (f : NetworkFlowObservation) (monitor : Option ConnectionMonitorObservation)
    (endpoint : Option EndpointHealthObservation) : NsgChain :=
  ⟨some f, monitor, endpoint, request.path? f.pathId⟩

/-- Any candidate flow with any of its failed tests and any of its degraded endpoints or none. -/
inductive InProduct (flows : List NetworkFlowObservation) : NsgChain → Prop
  | chain {f : NetworkFlowObservation} {monitor : Option ConnectionMonitorObservation}
      {endpoint : Option EndpointHealthObservation} : f ∈ flows → IsMonitor request f monitor →
      (∀ e ∈ endpoint, e ∈ degradedEndpoints request f) →
      InProduct flows (chainOf request f monitor endpoint)

/-- Complete coverage of a chain. -/
def isComplete (chain : NsgChain) : Bool :=
  hasCompleteNsgCoverage request chain.flow chain.monitor chain.endpoint chain.path

/-- Number of independent citations of a chain. -/
def support (chain : NsgChain) : ℕ := (independentCitations (chain.citations request)).length

/-- Hard conflict and chronology, the first two components of the rank key. -/
def leadKey (chain : NsgChain) : ℕ ×ₗ ℕ :=
  toLex (met (!chain.hardConflict request), met (chain.chronologyValid a))

/-- The first six components of the rank key, smaller is better. -/
def headKey (chain : NsgChain) : ℕ ×ₗ ℕ ×ₗ ℕ ×ₗ ℕ ×ₗ ℤ ×ₗ ℕ :=
  toLex (met (!chain.hardConflict request),
    toLex (met (chain.chronologyValid a),
      toLex (met (isComplete request chain),
        toLex (met (chain.monitor.isSome && chain.endpoint.isSome),
          toLex (-(support request chain : ℤ), met (chain.attributed a))))))

/-! ## Representatives -/

/-- The rank of a failed test of a flow. -/
def monitorRank (f : NetworkFlowObservation) (m : ConnectionMonitorObservation) :
    ℕ ×ₗ ℕ ×ₗ ℕ ×ₗ ℤ ×ₗ String :=
  toLex (met (!chainHasHardConflict request f (some m)),
    toLex (met (decide (a.evidence.occurredAt ≤ m.observedStart)),
      toLex (met (matchingMonitorCoverage request m).isSome,
        toLex (request.incidentStart - m.observedStart, m.observationId))))

/-- The rank of a degraded endpoint. -/
def endpointRank (e : EndpointHealthObservation) : ℕ ×ₗ ℕ ×ₗ ℤ ×ₗ String :=
  toLex (met (decide (a.evidence.occurredAt ≤ e.observedStart)),
    toLex (met (matchingEndpointCoverage request e).isSome,
      toLex (request.incidentStart - e.observedStart, e.observationId)))

/-- An endpoint has the provenance root of the flow or of the test. -/
def sharesRoot (f : NetworkFlowObservation) (monitor : Option ConnectionMonitorObservation)
    (e : EndpointHealthObservation) : Bool :=
  e.provenanceRootDigest = f.provenanceRootDigest ∨
    ∃ m ∈ monitor, e.provenanceRootDigest = m.provenanceRootDigest

/-- Endpoints that compete for one place beside a flow and a test: those of one root that is
shared, or all whose roots are not. -/
def Rivals (f : NetworkFlowObservation) (monitor : Option ConnectionMonitorObservation)
    (e e' : EndpointHealthObservation) : Prop :=
  if sharesRoot f monitor e then e'.provenanceRootDigest = e.provenanceRootDigest
  else sharesRoot f monitor e' = false

/-- The first failed test of its root. -/
def FirstMonitor (f : NetworkFlowObservation) (m : ConnectionMonitorObservation) : Prop :=
  m ∈ matchingFailedMonitors request f ∧ ∀ m' ∈ matchingFailedMonitors request f,
    m'.provenanceRootDigest = m.provenanceRootDigest → monitorRank request a f m ≤ monitorRank request a f m'

/-- The first endpoint of those that compete for its place. -/
def FirstEndpoint (f : NetworkFlowObservation) (monitor : Option ConnectionMonitorObservation)
    (e : EndpointHealthObservation) : Prop :=
  e ∈ degradedEndpoints request f ∧ ∀ e' ∈ degradedEndpoints request f,
    Rivals f monitor e e' → endpointRank request a e ≤ endpointRank request a e'

/-- The citation counts as corroboration. -/
def Counts (o : MonitoringObservation) : Prop :=
  (request.observationCitation o).isCoverage = false

/-- The first test of the root of the chain's test is covered if that is and counts if that
does, and likewise the first endpoint of those that compete for the place of the chain's. -/
structure StoodFor (f : NetworkFlowObservation) (monitor : Option ConnectionMonitorObservation)
    (endpoint : Option EndpointHealthObservation) : Prop where
  test : ∀ m ∈ monitor, ∃ m', FirstMonitor request a f m' ∧
    m'.provenanceRootDigest = m.provenanceRootDigest ∧
    ((matchingMonitorCoverage request m).isSome = true →
      (matchingMonitorCoverage request m').isSome = true) ∧
    (Counts request (.connectionMonitor m) → Counts request (.connectionMonitor m'))
  place : ∀ e ∈ endpoint, ∃ e', FirstEndpoint request a f monitor e' ∧ Rivals f monitor e e' ∧
    ((matchingEndpointCoverage request e).isSome = true →
      (matchingEndpointCoverage request e').isSome = true) ∧
    (Counts request (.endpointHealth e) → Counts request (.endpointHealth e'))

variable {request a} {f : NetworkFlowObservation} {flows : List NetworkFlowObservation}
  {monitor : Option ConnectionMonitorObservation} {endpoint : Option EndpointHealthObservation}
  {m m' : ConnectionMonitorObservation} {e e' : EndpointHealthObservation} {chain x y : NsgChain}

theorem sharesRoot_congr (h : e.provenanceRootDigest = e'.provenanceRootDigest) :
    sharesRoot f monitor e = sharesRoot f monitor e' := by
  rw [sharesRoot, sharesRoot, h]

variable (request a f) in
/-- The options are the first tests of their roots, or none where no test failed. -/
theorem monitorOptions_cases :
    (representatives (fun m : ConnectionMonitorObservation => m.provenanceRootDigest)
        (monitorRank request a f) (matchingFailedMonitors request f) = [] ∧
      monitorOptions request a f = [none]) ∨
    monitorOptions request a f = (representatives (fun m => m.provenanceRootDigest)
      (monitorRank request a f) (matchingFailedMonitors request f)).map some := by
  unfold monitorOptions
  dsimp only
  split
  · next hnone => exact .inl ⟨hnone, rfl⟩
  · exact .inr rfl

/-- Every failed test has a first one of its root. -/
theorem exists_firstMonitor (hm : m ∈ matchingFailedMonitors request f) :
    ∃ m', some m' ∈ monitorOptions request a f ∧ FirstMonitor request a f m' ∧
      m'.provenanceRootDigest = m.provenanceRootDigest := by
  obtain ⟨-, hall, hfirst⟩ := representatives_spec (fun m => m.provenanceRootDigest)
    (monitorRank request a f) (matchingFailedMonitors request f)
  obtain ⟨m', hm', hroot⟩ := hall m hm
  refine ⟨m', ?_, hfirst m' hm', hroot⟩
  rcases monitorOptions_cases request a f with ⟨hnone, -⟩ | hoptions
  · rw [hnone] at hm'
    cases hm'
  · rw [hoptions]
    exact List.mem_map_of_mem hm'

/-- The tests kept are the first ones of their roots. -/
theorem firstMonitor_of_option (hm : some m ∈ monitorOptions request a f) :
    FirstMonitor request a f m := by
  obtain ⟨-, -, hfirst⟩ := representatives_spec (fun m => m.provenanceRootDigest)
    (monitorRank request a f) (matchingFailedMonitors request f)
  rcases monitorOptions_cases request a f with ⟨-, hnone⟩ | hoptions
  · rw [hnone] at hm
    cases List.mem_singleton.mp hm
  · rw [hoptions] at hm
    obtain ⟨m', hm', heq⟩ := List.mem_map.mp hm
    cases heq
    exact hfirst m hm'

/-- Without failed tests the only option is none. -/
theorem none_mem_monitorOptions (h : matchingFailedMonitors request f = []) :
    none ∈ monitorOptions request a f := by
  unfold monitorOptions
  rw [h]
  exact List.mem_singleton_self none

theorem isMonitor_of_option (h : monitor ∈ monitorOptions request a f) :
    IsMonitor request f monitor := by
  cases monitor with
  | some m => exact (firstMonitor_of_option h).1
  | none =>
    by_contra hne
    obtain ⟨m, hm⟩ := List.exists_mem_of_ne_nil _ hne
    obtain ⟨m', hm', -⟩ := exists_firstMonitor (a := a) hm
    unfold monitorOptions at h hm'
    dsimp only at h hm'
    split at h
    · rename_i hnil
      rw [hnil] at hm'
      simp at hm'
    · simp at h

/-! ### Endpoints -/

theorem endpointRoots_eq : endpointRoots request a f (request.path? f.pathId) =
    representatives (fun e => e.provenanceRootDigest) (endpointRank request a)
      (degradedEndpoints request f) :=
  rfl

theorem endpointOptions_eq (roots : List EndpointHealthObservation) :
    endpointOptions roots f monitor = none :: (roots.head?.toList ++
      roots.filter (fun e => sharesRoot f monitor e) ++
      (roots.find? fun e => !sharesRoot f monitor e).toList).map some :=
  rfl

/-- Every degraded endpoint has a first one of those that compete for its place. -/
theorem exists_firstEndpoint (he : e ∈ degradedEndpoints request f) :
    ∃ e', some e' ∈ endpointOptions (endpointRoots request a f (request.path? f.pathId)) f monitor ∧
      FirstEndpoint request a f monitor e' ∧ Rivals f monitor e e' := by
  obtain ⟨-, hall, hfirst⟩ := representatives_spec (fun e => e.provenanceRootDigest)
    (endpointRank request a) (degradedEndpoints request f)
  rw [endpointRoots_eq, endpointOptions_eq]
  cases hshares : sharesRoot f monitor e with
  | true =>
    obtain ⟨e', he', hroot⟩ := hall e he
    have hshares' : sharesRoot f monitor e' = true := (sharesRoot_congr hroot).trans hshares
    refine ⟨e', ?_, ⟨(hfirst e' he').1, fun e'' he'' hrival => ?_⟩, ?_⟩
    · refine List.mem_cons_of_mem _ (List.mem_map_of_mem ?_)
      exact List.mem_append_left _ (List.mem_append_right _ (List.mem_filter.mpr ⟨he', hshares'⟩))
    · rw [Rivals, if_pos hshares'] at hrival
      exact (hfirst e' he').2 e'' he'' hrival
    · rw [Rivals, if_pos hshares]
      exact hroot
  | false =>
    have hkey : ∀ x y : EndpointHealthObservation, x.provenanceRootDigest = y.provenanceRootDigest →
        (!sharesRoot f monitor x) = !sharesRoot f monitor y := fun x y h => by
      rw [sharesRoot_congr h]
    have hsome : ((representatives (fun e => e.provenanceRootDigest) (endpointRank request a)
        (degradedEndpoints request f)).find? fun e => !sharesRoot f monitor e).isSome = true :=
      find_representative_isSome hkey he (by rw [hshares]; rfl)
    obtain ⟨e', hfind⟩ := Option.isSome_iff_exists.mp hsome
    obtain ⟨hmem, hfree, hleast⟩ := find_representative hkey hfind
    have hfree' : sharesRoot f monitor e' = false := by simpa using hfree
    refine ⟨e', ?_, ⟨hmem, fun e'' he'' hrival => ?_⟩, ?_⟩
    · refine List.mem_cons_of_mem _ (List.mem_map_of_mem ?_)
      exact List.mem_append_right _ (by rw [hfind]; exact List.mem_singleton_self e')
    · rw [Rivals, if_neg (by rw [hfree']; exact Bool.false_ne_true)] at hrival
      exact hleast e'' he'' (by rw [hrival]; rfl)
    · rw [Rivals, if_neg (by rw [hshares]; exact Bool.false_ne_true)]
      exact hfree'

/-- The endpoints kept are the first of those that compete for their places. -/
theorem firstEndpoint_of_option
    (he : some e ∈ endpointOptions (endpointRoots request a f (request.path? f.pathId)) f monitor) :
    FirstEndpoint request a f monitor e := by
  obtain ⟨hsorted, hall, hfirst⟩ := representatives_spec (fun e => e.provenanceRootDigest)
    (endpointRank request a) (degradedEndpoints request f)
  rw [endpointRoots_eq, endpointOptions_eq] at he
  rcases List.mem_cons.mp he with hnone | he
  · cases hnone
  · obtain ⟨x, hx, heq⟩ := List.mem_map.mp he
    cases heq
    rcases List.mem_append.mp hx with hx | hx
    · rcases List.mem_append.mp hx with hx | hx
      · -- the first of all
        have hhead := Option.mem_toList.mp hx
        obtain ⟨rest, hsplit⟩ := List.head?_eq_some_iff.mp hhead
        have hmem := List.mem_of_mem_head? hhead
        refine ⟨(hfirst e hmem).1, fun e' he' _ => ?_⟩
        obtain ⟨z, hz, hroot⟩ := hall e' he'
        have hze : endpointRank request a z ≤ endpointRank request a e' :=
          (hfirst z hz).2 e' he' hroot.symm
        rw [hsplit] at hz hsorted
        rcases List.mem_cons.mp hz with rfl | hz
        · exact hze
        · exact ((List.pairwise_cons.mp hsorted).1 z hz).trans hze
      · obtain ⟨hmem, hshares⟩ := List.mem_filter.mp hx
        refine ⟨(hfirst e hmem).1, fun e' he' hrival => ?_⟩
        rw [Rivals, if_pos hshares] at hrival
        exact (hfirst e hmem).2 e' he' hrival
    · have hfind := Option.mem_toList.mp hx
      have hkey : ∀ x y : EndpointHealthObservation, x.provenanceRootDigest = y.provenanceRootDigest →
          (!sharesRoot f monitor x) = !sharesRoot f monitor y := fun x y h => by
        rw [sharesRoot_congr h]
      obtain ⟨hmem, hfree, hleast⟩ := find_representative hkey hfind
      have hfree' : sharesRoot f monitor e = false := by simpa using hfree
      refine ⟨hmem, fun e' he' hrival => ?_⟩
      rw [Rivals, if_neg (by rw [hfree']; exact Bool.false_ne_true)] at hrival
      exact hleast e' he' (by rw [hrival]; rfl)

/-! ## The candidates -/

theorem inProduct_chainOf (h : InProduct request flows (chainOf request f monitor endpoint)) :
    IsMonitor request f monitor ∧ ∀ e ∈ endpoint, e ∈ degradedEndpoints request f := by
  generalize hchain : chainOf request f monitor endpoint = chain at h
  obtain ⟨-, hmonitor, hendpoint⟩ := h
  obtain ⟨hflow, rfl, rfl, -⟩ := NsgChain.mk.inj hchain
  cases hflow
  exact ⟨hmonitor, hendpoint⟩

theorem mem_chainCandidates : chain ∈ chainCandidates request a flows ↔
    ∃ f ∈ flows, ∃ monitor ∈ monitorOptions request a f,
      ∃ endpoint ∈ endpointOptions (endpointRoots request a f (request.path? f.pathId)) f monitor,
        chainOf request f monitor endpoint = chain := by
  unfold chainCandidates
  simp only [List.mem_flatMap, List.mem_map, mem_sortOn, chainOf]

/-- Every candidate is a chain of the product. -/
theorem inProduct_of_candidate (h : chain ∈ chainCandidates request a flows) :
    InProduct request flows chain := by
  obtain ⟨f, hf, monitor, hmonitor, endpoint, hendpoint, rfl⟩ := mem_chainCandidates.mp h
  refine .chain hf (isMonitor_of_option hmonitor) fun e he => ?_
  rw [Option.mem_def.mp he] at hendpoint
  exact (firstEndpoint_of_option hendpoint).1

/-- The chain selected is a candidate, and no candidate ranks before it. -/
theorem selectNsgChain_least (hflows : flows ≠ []) :
    selectNsgChain request a flows ∈ chainCandidates request a flows ∧
      ∀ y ∈ chainCandidates request a flows,
        (selectNsgChain request a flows).rankKey request a ≤ y.rankKey request a := by
  have hsorted := sortOn_pairwise (NsgChain.rankKey request a) (chainCandidates request a flows)
  have hmem : ∀ y, y ∈ sortOn (NsgChain.rankKey request a) (chainCandidates request a flows) ↔
      y ∈ chainCandidates request a flows := fun _ => mem_sortOn
  unfold selectNsgChain
  cases hcandidates : sortOn (NsgChain.rankKey request a) (chainCandidates request a flows) with
  | nil =>
    obtain ⟨f, hf⟩ := List.exists_mem_of_ne_nil _ hflows
    obtain ⟨monitor, hmonitor⟩ : ∃ monitor, monitor ∈ monitorOptions request a f := by
      cases hfailed : matchingFailedMonitors request f with
      | nil => exact ⟨none, none_mem_monitorOptions hfailed⟩
      | cons m rest =>
        obtain ⟨m', hm', -⟩ := exists_firstMonitor (a := a) (hfailed ▸ List.mem_cons_self)
        exact ⟨some m', hm'⟩
    have hchain : chainOf request f monitor none ∈ chainCandidates request a flows :=
      mem_chainCandidates.mpr ⟨f, hf, monitor, hmonitor, none, List.mem_cons_self, rfl⟩
    rw [← hmem, hcandidates] at hchain
    cases hchain
  | cons first rest =>
    rw [hcandidates] at hsorted hmem
    refine ⟨(hmem first).mp List.mem_cons_self, fun y hy => ?_⟩
    replace hy := (hmem y).mpr hy
    rcases List.mem_cons.mp hy with rfl | hy
    · exact le_refl _
    · exact (List.pairwise_cons.mp hsorted).1 y hy

/-! ## Keys -/

theorem lex_map {α β γ : Type*} [PartialOrder α] [PartialOrder β] [PartialOrder γ] {p q : α}
    {b b' : β} {c c' : γ} (h : toLex (p, b) ≤ toLex (q, b')) (hrest : b ≤ b' → c ≤ c') :
    toLex (p, c) ≤ toLex (q, c') := by
  rw [Prod.Lex.toLex_le_toLex'] at h ⊢
  exact ⟨h.1, fun heq => hrest (h.2 heq)⟩

theorem lex_fst {α β : Type*} [PartialOrder α] [PartialOrder β] {p q : α} {b b' : β}
    (h : toLex (p, b) ≤ toLex (q, b')) : p ≤ q :=
  (Prod.Lex.toLex_le_toLex'.mp h).1

theorem headKey_le_of_rankKey (h : x.rankKey request a ≤ y.rankKey request a) :
    headKey request a x ≤ headKey request a y :=
  lex_map h fun h => lex_map h fun h => lex_map h fun h => lex_map h fun h => lex_map h lex_fst

theorem leadKey_le_of_headKey (h : headKey request a x ≤ headKey request a y) :
    leadKey request a x ≤ leadKey request a y :=
  lex_map h lex_fst

theorem met_le {p q : Bool} (h : q = true → p = true) : met p ≤ met q := by
  unfold met
  split
  · exact Nat.zero_le _
  · rename_i hp
    rw [if_neg fun hq => hp (h hq)]

theorem of_met_le {p q : Bool} (h : met p ≤ met q) (hq : q = true) : p = true := by
  unfold met at h
  rw [if_pos hq] at h
  by_contra hp
  rw [if_neg hp] at h
  omega

/-- A chain that is no worse in conflicts and chronology, and keeps what else the other has. -/
theorem headKey_le (hlead : leadKey request a y ≤ leadKey request a x)
    (hcomplete : isComplete request x = true → isComplete request y = true)
    (hboth : (x.monitor.isSome && x.endpoint.isSome) = true →
      (y.monitor.isSome && y.endpoint.isSome) = true)
    (hsupport : support request x ≤ support request y)
    (hattributed : y.attributed a = x.attributed a) : headKey request a y ≤ headKey request a x := by
  refine lex_map hlead fun hchronology => ?_
  refine Prod.Lex.toLex_mono ⟨hchronology, Prod.Lex.toLex_mono ⟨met_le hcomplete, ?_⟩⟩
  refine Prod.Lex.toLex_mono ⟨met_le hboth, Prod.Lex.toLex_mono ⟨?_, ?_⟩⟩
  · exact neg_le_neg (Int.ofNat_le.mpr hsupport)
  · exact le_of_eq (congrArg met hattributed)

/-! ## Independent citations of a chain -/

/-- The root of an observation that counts. -/
def countedRoot (request : CorrelationRequest) (o : MonitoringObservation) : Finset Digest :=
  if (request.observationCitation o).isCoverage then ∅ else {o.base.provenanceRootDigest}

/-- The roots of an optional observation that counts. -/
def countedRoots (request : CorrelationRequest) : Option MonitoringObservation → Finset Digest
  | none => ∅
  | some o => countedRoot request o

/-- As many citations of distinct families are independent as they have roots. -/
theorem independentCitations_length {citations : List CorrelationEvidenceCitation}
    (h : (citations.map family).Nodup) : (independentCitations citations).length =
      ((substantive citations).map provenanceRoot).toFinset.card := by
  have hmaximal : IsMaximal family provenanceRoot (substantive citations)
      (independentCitations citations) := independentCitations_maximal
  obtain ⟨hmatching, hblocked⟩ := hmaximal
  have hroots : ((substantive citations).map provenanceRoot).toFinset =
      ((independentCitations citations).map provenanceRoot).toFinset := by
    ext root
    rw [List.mem_toFinset, List.mem_toFinset, List.mem_map, List.mem_map]
    constructor
    · rintro ⟨c, hc, rfl⟩
      obtain ⟨k, hk, hmeets⟩ := hblocked c hc
      rcases hmeets with hfamily | hroot
      · have hsame : k = c := List.inj_on_of_nodup_map h
          (mem_substantive.mp (hmatching.subset hk)).1 (mem_substantive.mp hc).1 hfamily
        exact ⟨k, hk, by rw [hsame]⟩
      · exact ⟨k, hk, hroot⟩
    · rintro ⟨k, hk, rfl⟩
      exact ⟨k, hmatching.subset hk, rfl⟩
  rw [hroots, List.toFinset_card_of_nodup hmatching.keys_nodup.2, List.length_map]

theorem countedRoots_eq (o : Option MonitoringObservation) :
    ((substantive (o.map request.observationCitation).toList).map provenanceRoot).toFinset =
      countedRoots request o := by
  cases o with
  | none => rfl
  | some o =>
    rw [countedRoots, countedRoot, substantive, Option.map_some, Option.toList_some]
    cases hcoverage : (request.observationCitation o).isCoverage with
    | true => simp [hcoverage]
    | false =>
      simp only [List.filter_cons, hcoverage, List.filter_nil]
      rfl

/-- The independent citations of a chain are one for each root that counts. -/
theorem support_chainOf : support request (chainOf request f monitor endpoint) =
    (countedRoots request (some (.networkFlow f)) ∪
      countedRoots request (monitor.map .connectionMonitor) ∪
      countedRoots request (endpoint.map .endpointHealth)).card := by
  have hcitations : (chainOf request f monitor endpoint).citations request =
      ((some (.networkFlow f)).map request.observationCitation).toList ++
        ((monitor.map .connectionMonitor).map request.observationCitation).toList ++
        ((endpoint.map .endpointHealth).map request.observationCitation).toList := by
    rw [Option.map_map, Option.map_map]
    rfl
  have hfamilies : (((chainOf request f monitor endpoint).citations request).map family).Nodup := by
    have hall : [EvidenceFamily.networkFlow, .connectionMonitor, .endpointHealth].Nodup := by decide
    refine hall.sublist ?_
    cases monitor with
    | none => cases endpoint with
      | none => exact List.sublist_append_left [EvidenceFamily.networkFlow] _
      | some e => exact (List.sublist_cons_self _ _).cons_cons _
    | some m => cases endpoint with
      | none => exact List.sublist_append_left [EvidenceFamily.networkFlow, .connectionMonitor] _
      | some e => exact List.Sublist.refl _
  rw [support, independentCitations_length hfamilies, hcitations, substantive, List.filter_append,
    List.filter_append, List.map_append, List.map_append, List.toFinset_append, List.toFinset_append]
  simp only [← countedRoots_eq]
  rfl

theorem countedRoots_subset {o o' : MonitoringObservation}
    (hroot : o'.base.provenanceRootDigest = o.base.provenanceRootDigest)
    (hcounts : Counts request o → Counts request o') :
    countedRoot request o ⊆ countedRoot request o' := by
  unfold countedRoot
  cases hcoverage : (request.observationCitation o).isCoverage with
  | true => exact Finset.empty_subset _
  | false =>
    have hcoverage' : (request.observationCitation o').isCoverage = false := hcounts hcoverage
    rw [hcoverage', hroot]

/-! ## The chain kept in the place of another -/

/-- The test kept for a failed test. -/
def KeptTest (request : CorrelationRequest) (a : ChangeEvidenceArtifact) (f : NetworkFlowObservation)
    (m m' : ConnectionMonitorObservation) : Prop :=
  m ∈ matchingFailedMonitors request f ∧ FirstMonitor request a f m' ∧
    m'.provenanceRootDigest = m.provenanceRootDigest

/-- The endpoint kept for a degraded endpoint. -/
def KeptPlace (request : CorrelationRequest) (a : ChangeEvidenceArtifact) (f : NetworkFlowObservation)
    (monitor : Option ConnectionMonitorObservation) (e e' : EndpointHealthObservation) : Prop :=
  e ∈ degradedEndpoints request f ∧ FirstEndpoint request a f monitor e' ∧ Rivals f monitor e e'

/-- A test and an endpoint, and the ones kept for them. -/
structure Kept (request : CorrelationRequest) (a : ChangeEvidenceArtifact) (f : NetworkFlowObservation)
    (monitor monitor' : Option ConnectionMonitorObservation)
    (endpoint endpoint' : Option EndpointHealthObservation) : Prop where
  test : Option.Rel (KeptTest request a f) monitor monitor'
  place : Option.Rel (KeptPlace request a f monitor) endpoint endpoint'

variable {monitor' : Option ConnectionMonitorObservation}
  {endpoint' : Option EndpointHealthObservation}

/-- Which endpoints share a root is the same beside the test kept. -/
theorem sharesRoot_kept (h : Option.Rel (KeptTest request a f) monitor monitor') :
    sharesRoot f monitor' = sharesRoot f monitor := by
  funext e
  cases h with
  | none => rfl
  | some hkept =>
    obtain ⟨-, -, hroot⟩ := hkept
    simp only [sharesRoot, Option.mem_some_iff, exists_eq_left', hroot]

theorem firstEndpoint_kept (h : Option.Rel (KeptTest request a f) monitor monitor') :
    FirstEndpoint request a f monitor' e ↔ FirstEndpoint request a f monitor e := by
  unfold FirstEndpoint Rivals
  rw [sharesRoot_kept h]

/-- Every chain of the product has a candidate that was kept in its place. -/
theorem exists_kept (hf : f ∈ flows) (hmonitor : IsMonitor request f monitor)
    (hendpoint : ∀ e ∈ endpoint, e ∈ degradedEndpoints request f) : ∃ monitor' endpoint',
      chainOf request f monitor' endpoint' ∈ chainCandidates request a flows ∧
        Kept request a f monitor monitor' endpoint endpoint' := by
  obtain ⟨monitor', hoption, htest⟩ : ∃ monitor' ∈ monitorOptions request a f,
      Option.Rel (KeptTest request a f) monitor monitor' := by
    cases monitor with
    | none => exact ⟨none, none_mem_monitorOptions hmonitor, .none⟩
    | some m =>
      obtain ⟨m', hm', hfirst, hroot⟩ := exists_firstMonitor (a := a) hmonitor
      exact ⟨some m', hm', .some ⟨hmonitor, hfirst, hroot⟩⟩
  obtain ⟨endpoint', hplaceOption, hplace⟩ : ∃ endpoint' ∈ endpointOptions
      (endpointRoots request a f (request.path? f.pathId)) f monitor',
      Option.Rel (KeptPlace request a f monitor) endpoint endpoint' := by
    cases endpoint with
    | none => exact ⟨none, List.mem_cons_self, .none⟩
    | some e =>
      have he := hendpoint e rfl
      obtain ⟨e', he', hfirst, hrivals⟩ : ∃ e', some e' ∈ endpointOptions
          (endpointRoots request a f (request.path? f.pathId)) f monitor' ∧
          FirstEndpoint request a f monitor' e' ∧ Rivals f monitor' e e' := exists_firstEndpoint he
      refine ⟨some e', he', .some ⟨he, (firstEndpoint_kept htest).mp hfirst, ?_⟩⟩
      rwa [Rivals, sharesRoot_kept htest] at hrivals
  exact ⟨monitor', endpoint',
    mem_chainCandidates.mpr ⟨f, hf, monitor', hoption, endpoint', hplaceOption, rfl⟩, htest, hplace⟩

theorem chronologyValid_chainOf : (chainOf request f monitor endpoint).chronologyValid a = true ↔
    a.evidence.occurredAt ≤ f.observedStart ∧
      (∀ m ∈ monitor, a.evidence.occurredAt ≤ m.observedStart) ∧
      ∀ e ∈ endpoint, a.evidence.occurredAt ≤ e.observedStart := by
  cases monitor <;> cases endpoint <;>
    simp [NsgChain.chronologyValid, NsgChain.observations, chainOf]

/-! ### What the chain kept preserves -/

theorem Rivals.symm (h : Rivals f monitor e e') : Rivals f monitor e' e := by
  unfold Rivals at h ⊢
  split at h
  · rename_i hshares
    rw [if_pos ((sharesRoot_congr h).trans hshares)]
    exact h.symm
  · rename_i hfree
    rw [if_neg (by rw [h]; exact Bool.false_ne_true)]
    exact Bool.eq_false_of_not_eq_true hfree

theorem KeptTest.rank_le (h : KeptTest request a f m m') :
    monitorRank request a f m' ≤ monitorRank request a f m :=
  h.2.1.2 m h.1 h.2.2.symm

theorem KeptPlace.rank_le (h : KeptPlace request a f monitor e e') :
    endpointRank request a e' ≤ endpointRank request a e :=
  h.2.1.2 e h.1 h.2.2.symm

/-- Conflict and chronology of a test alone. -/
theorem KeptTest.lead_le (h : Option.Rel (KeptTest request a f) monitor monitor') :
    toLex (met (!chainHasHardConflict request f monitor'),
        met (decide (∀ m ∈ monitor', a.evidence.occurredAt ≤ m.observedStart))) ≤
      toLex (met (!chainHasHardConflict request f monitor),
        met (decide (∀ m ∈ monitor, a.evidence.occurredAt ≤ m.observedStart))) := by
  cases h with
  | none => exact le_refl _
  | some hkept =>
    simp only [Option.mem_some_iff, forall_eq']
    exact lex_map hkept.rank_le lex_fst

/-- The chain kept is no worse in conflicts and chronology. -/
theorem Kept.leadKey_le (h : Kept request a f monitor monitor' endpoint endpoint') :
    leadKey request a (chainOf request f monitor' endpoint') ≤
      leadKey request a (chainOf request f monitor endpoint) := by
  obtain ⟨htest, hplace⟩ := h
  refine lex_map (KeptTest.lead_le htest) fun htimely => met_le fun hvalid => ?_
  obtain ⟨hflow, htests, hplaces⟩ := chronologyValid_chainOf.mp hvalid
  refine chronologyValid_chainOf.mpr ⟨hflow, ?_, ?_⟩
  · exact of_decide_eq_true (of_met_le htimely (decide_eq_true htests))
  · cases hplace with
    | none => exact hplaces
    | some hkept =>
      intro e' he'
      cases he'
      exact of_decide_eq_true (of_met_le (lex_fst hkept.rank_le) (decide_eq_true (hplaces _ rfl)))

theorem isComplete_chainOf : isComplete request (chainOf request f monitor endpoint) = true ↔
    (request.path? f.pathId).isSome = true ∧ (matchingFlowCoverage request f).isSome = true ∧
      (∃ m ∈ monitor, (matchingMonitorCoverage request m).isSome = true) ∧
      ∃ e ∈ endpoint, (matchingEndpointCoverage request e).isSome = true := by
  unfold isComplete hasCompleteNsgCoverage chainOf
  cases monitor <;> cases endpoint <;> cases request.path? f.pathId <;> simp [and_assoc]

/-- The roots of an endpoint that shares none are apart from those of the flow and the test. -/
theorem countedRoots_disjoint (h : sharesRoot f monitor e = false) :
    Disjoint (countedRoots request (some (.networkFlow f)) ∪
      countedRoots request (monitor.map .connectionMonitor))
      (countedRoots request (some (.endpointHealth e))) := by
  have hcounted : ∀ o : MonitoringObservation, ∀ root ∈ countedRoots request (some o),
      root = o.base.provenanceRootDigest := by
    intro o root hroot
    rw [countedRoots, countedRoot] at hroot
    split at hroot
    · cases Finset.notMem_empty _ hroot
    · exact Finset.mem_singleton.mp hroot
  rw [sharesRoot, decide_eq_false_iff_not, not_or] at h
  rw [Finset.disjoint_left]
  intro root hroot hplace
  have hroot' : root = e.provenanceRootDigest := hcounted _ root hplace
  rcases Finset.mem_union.mp hroot with hflow | htest
  · exact h.1 (hroot'.symm.trans (hcounted _ root hflow))
  · cases monitor with
    | none => cases Finset.notMem_empty _ htest
    | some m => exact h.2 ⟨m, rfl, hroot'.symm.trans (hcounted _ root htest)⟩

/-- The chain kept has no fewer independent citations. -/
theorem Kept.support_le (h : Kept request a f monitor monitor' endpoint endpoint')
    (htest : ∀ m ∈ monitor, ∀ m' ∈ monitor',
      Counts request (.connectionMonitor m) → Counts request (.connectionMonitor m'))
    (hplace : ∀ e ∈ endpoint, ∀ e' ∈ endpoint',
      Counts request (.endpointHealth e) → Counts request (.endpointHealth e')) :
    support request (chainOf request f monitor endpoint) ≤
      support request (chainOf request f monitor' endpoint') := by
  obtain ⟨hkept, hkeptPlace⟩ := h
  have htests : countedRoots request (some (.networkFlow f)) ∪
        countedRoots request (monitor.map .connectionMonitor) ⊆
      countedRoots request (some (.networkFlow f)) ∪
        countedRoots request (monitor'.map .connectionMonitor) := by
    refine Finset.union_subset_union_right ?_
    cases hkept with
    | none => exact Finset.Subset.refl _
    | some hkept => exact countedRoots_subset hkept.2.2 (htest _ rfl _ rfl)
  have hshares := sharesRoot_kept hkept
  rw [support_chainOf, support_chainOf]
  cases hkeptPlace with
  | none => exact Finset.card_le_card (Finset.union_subset_union_left htests)
  | @some e e' hkeptPlace =>
    obtain ⟨-, -, hrivals⟩ := hkeptPlace
    have hcounts := hplace e rfl e' rfl
    rw [Rivals] at hrivals
    cases hshared : sharesRoot f monitor e with
    | true =>
      rw [if_pos hshared] at hrivals
      exact Finset.card_le_card (Finset.union_subset_union htests
        (countedRoots_subset hrivals hcounts))
    | false =>
      -- neither endpoint shares a root, so that each adds one if it counts
      rw [if_neg (by rw [hshared]; exact Bool.false_ne_true)] at hrivals
      rw [← hshares] at hrivals
      have hone : (countedRoots request (some (.endpointHealth e))).card ≤
          (countedRoots request (some (.endpointHealth e'))).card := by
        simp only [countedRoots, countedRoot]
        cases hcoverage : (request.observationCitation (.endpointHealth e)).isCoverage with
        | true => exact Nat.zero_le _
        | false =>
          have hcoverage' : (request.observationCitation (.endpointHealth e')).isCoverage = false :=
            hcounts hcoverage
          rw [hcoverage']
          exact le_refl 1
      calc _ ≤ _ := Finset.card_union_le _ _
        _ ≤ _ := Nat.add_le_add (Finset.card_le_card htests) hone
        _ = _ := (Finset.card_union_of_disjoint (countedRoots_disjoint hrivals)).symm

/-- Where the ones kept are covered and count if those they stand for do, the chain kept is no
worse at all. -/
theorem Kept.headKey_le (h : Kept request a f monitor monitor' endpoint endpoint')
    (htest : ∀ m ∈ monitor, ∀ m' ∈ monitor',
      ((matchingMonitorCoverage request m).isSome = true →
        (matchingMonitorCoverage request m').isSome = true) ∧
      (Counts request (.connectionMonitor m) → Counts request (.connectionMonitor m')))
    (hplace : ∀ e ∈ endpoint, ∀ e' ∈ endpoint',
      ((matchingEndpointCoverage request e).isSome = true →
        (matchingEndpointCoverage request e').isSome = true) ∧
      (Counts request (.endpointHealth e) → Counts request (.endpointHealth e'))) :
    headKey request a (chainOf request f monitor' endpoint') ≤
      headKey request a (chainOf request f monitor endpoint) := by
  have hsupport := h.support_le (fun m hm m' hm' => (htest m hm m' hm').2)
    fun e he e' he' => (hplace e he e' he').2
  refine NsgChainSearch.headKey_le h.leadKey_le (fun hcomplete => ?_) (fun hboth => ?_) hsupport rfl
  · obtain ⟨hpath, hflow, htests, hplaces⟩ := isComplete_chainOf.mp hcomplete
    refine isComplete_chainOf.mpr ⟨hpath, hflow, ?_, ?_⟩
    · obtain ⟨m, hm, hcovered⟩ := htests
      obtain ⟨hkept, -⟩ := h
      cases hkept with
      | none => cases hm
      | some => exact ⟨_, rfl, (htest m hm _ rfl).1 hcovered⟩
    · obtain ⟨e, he, hcovered⟩ := hplaces
      obtain ⟨-, hkeptPlace⟩ := h
      cases hkeptPlace with
      | none => cases he
      | some => exact ⟨_, rfl, (hplace e he _ rfl).1 hcovered⟩
  · obtain ⟨hkept, hkeptPlace⟩ := h
    cases hkept <;> cases hkeptPlace <;> exact hboth

/-! ## The search -/

theorem monitorRank_id (h : monitorRank request a f m = monitorRank request a f m') :
    m.observationId = m'.observationId := by
  simp only [monitorRank, EmbeddingLike.apply_eq_iff_eq, Prod.mk.injEq] at h
  exact h.2.2.2.2

theorem endpointRank_id (h : endpointRank request a e = endpointRank request a e') :
    e.observationId = e'.observationId := by
  simp only [endpointRank, EmbeddingLike.apply_eq_iff_eq, Prod.mk.injEq] at h
  exact h.2.2.2

theorem observation_mem_of_failed (h : m ∈ matchingFailedMonitors request f) :
    .connectionMonitor m ∈ request.observations :=
  (mem_matchingFailedMonitors.mp h).1

theorem observation_mem_of_degraded (h : e ∈ degradedEndpoints request f) :
    .endpointHealth e ∈ request.observations := by
  unfold degradedEndpoints at h
  cases hpath : request.path? f.pathId with
  | none =>
    rw [hpath] at h
    cases h
  | some p =>
    rw [hpath] at h
    exact (mem_matchingDegradedEndpoints.mp h).1

/-- A root has one first test. -/
theorem firstMonitor_unique (hr : request.Accepted) (h : FirstMonitor request a f m)
    (h' : FirstMonitor request a f m') (hroot : m'.provenanceRootDigest = m.provenanceRootDigest) :
    m = m' := by
  have hrank := le_antisymm (h.2 m' h'.1 hroot) (h'.2 m h.1 hroot.symm)
  have hm := observation?_mem hr (observation_mem_of_failed h.1)
  have hm' := observation?_mem hr (observation_mem_of_failed h'.1)
  have hid : (MonitoringObservation.connectionMonitor m).base.observationId =
      (MonitoringObservation.connectionMonitor m').base.observationId := monitorRank_id hrank
  rw [hid, hm'] at hm
  simpa using hm.symm

/-- A place has one first endpoint. -/
theorem firstEndpoint_unique (hr : request.Accepted) (h : FirstEndpoint request a f monitor e)
    (h' : FirstEndpoint request a f monitor e') (hrivals : Rivals f monitor e e') : e = e' := by
  have hrank := le_antisymm (h.2 e' h'.1 hrivals) (h'.2 e h.1 hrivals.symm)
  have he := observation?_mem hr (observation_mem_of_degraded h.1)
  have he' := observation?_mem hr (observation_mem_of_degraded h'.1)
  have hid : (MonitoringObservation.endpointHealth e).base.observationId =
      (MonitoringObservation.endpointHealth e').base.observationId := endpointRank_id hrank
  rw [hid, he'] at he
  simpa using he.symm

theorem Rivals.trans {e'' : EndpointHealthObservation} (h : Rivals f monitor e e')
    (h' : Rivals f monitor e e'') : Rivals f monitor e' e'' := by
  have hsymm := h.symm
  unfold Rivals at h h' hsymm ⊢
  split at h
  · rename_i hshares
    rw [if_pos hshares] at h'
    rw [if_pos ((sharesRoot_congr h).trans hshares)]
    exact h'.trans h.symm
  · rename_i hfree
    rw [if_neg hfree] at h'
    rwa [if_neg (by rw [h]; exact Bool.false_ne_true)]

/-- A chain whose test and endpoint are stood for is no better than a candidate. -/
theorem exists_headKey_le (hr : request.Accepted) (hf : f ∈ flows)
    (hmonitor : IsMonitor request f monitor)
    (hendpoint : ∀ e ∈ endpoint, e ∈ degradedEndpoints request f)
    (h : StoodFor request a f monitor endpoint) : ∃ y ∈ chainCandidates request a flows,
      headKey request a y ≤ headKey request a (chainOf request f monitor endpoint) := by
  obtain ⟨monitor', endpoint', hmem, hkept⟩ := exists_kept (a := a) hf hmonitor hendpoint
  refine ⟨_, hmem, hkept.headKey_le (fun m hm m' hm' => ?_) fun e he e' he' => ?_⟩
  · obtain ⟨m'', hfirst, hroot, hcovered, hcounts⟩ := h.test m hm
    obtain ⟨hkept, -⟩ := hkept
    cases hkept with
    | none => cases hm
    | some hkept =>
      cases hm
      cases hm'
      have hsame := firstMonitor_unique hr hfirst hkept.2.1 (hkept.2.2.trans hroot.symm)
      exact hsame ▸ ⟨hcovered, hcounts⟩
  · obtain ⟨e'', hfirst, hrivals, hcovered, hcounts⟩ := h.place e he
    obtain ⟨-, hkeptPlace⟩ := hkept
    cases hkeptPlace with
    | none => cases he
    | some hkept =>
      cases he
      cases he'
      have hsame := firstEndpoint_unique hr hfirst hkept.2.1 (hrivals.trans hkept.2.2)
      exact hsame ▸ ⟨hcovered, hcounts⟩

/-- A candidate's test and endpoint stand for themselves. -/
theorem stoodFor_of_candidate (h : chain ∈ chainCandidates request a flows) :
    ∃ f ∈ flows, ∃ monitor endpoint, chain = chainOf request f monitor endpoint ∧
      StoodFor request a f monitor endpoint := by
  obtain ⟨f, hf, monitor, hmonitor, endpoint, hendpoint, rfl⟩ := mem_chainCandidates.mp h
  refine ⟨f, hf, monitor, endpoint, rfl, fun m hm => ?_, fun e he => ?_⟩
  · rw [Option.mem_def.mp hm] at hmonitor
    exact ⟨m, firstMonitor_of_option hmonitor, rfl, id, id⟩
  · rw [Option.mem_def.mp he] at hendpoint
    refine ⟨e, firstEndpoint_of_option hendpoint, ?_, id, id⟩
    unfold Rivals
    split
    · rfl
    · exact Bool.eq_false_of_not_eq_true ‹_›

/-- What the pruned search finds. Its chain is no worse in hard conflicts and chronology than any
chain of the product, and no worse in all six components exactly when the test and the endpoint
of some best chain are stood for. -/
theorem nsg_chain_search (request : CorrelationRequest) (a : ChangeEvidenceArtifact)
    (flows : List NetworkFlowObservation) (hr : request.Accepted) (hflows : flows ≠ []) :
    InProduct request flows (selectNsgChain request a flows) ∧
    (∀ x, InProduct request flows x →
      leadKey request a (selectNsgChain request a flows) ≤ leadKey request a x) ∧
    ((∀ x, InProduct request flows x →
        headKey request a (selectNsgChain request a flows) ≤ headKey request a x) ↔
      ∃ f ∈ flows, ∃ monitor endpoint, StoodFor request a f monitor endpoint ∧
        InProduct request flows (chainOf request f monitor endpoint) ∧
        ∀ x, InProduct request flows x →
          headKey request a (chainOf request f monitor endpoint) ≤ headKey request a x) := by
  obtain ⟨hmem, hleast⟩ : selectNsgChain request a flows ∈ chainCandidates request a flows ∧
      ∀ y ∈ chainCandidates request a flows,
        (selectNsgChain request a flows).rankKey request a ≤ y.rankKey request a :=
    selectNsgChain_least hflows
  refine ⟨inProduct_of_candidate hmem, fun x hx => ?_, fun hbest => ?_, fun hbest => ?_⟩
  · obtain ⟨hf, hmonitor, hendpoint⟩ := hx
    obtain ⟨monitor', endpoint', hmem', hkept⟩ := exists_kept (a := a) hf hmonitor hendpoint
    exact (leadKey_le_of_headKey (headKey_le_of_rankKey (hleast _ hmem'))).trans hkept.leadKey_le
  · obtain ⟨f, hf, monitor, endpoint, hchain, hstood⟩ := stoodFor_of_candidate hmem
    rw [hchain] at hbest
    refine ⟨f, hf, monitor, endpoint, hstood, ?_, hbest⟩
    rw [← hchain]
    exact inProduct_of_candidate hmem
  · obtain ⟨f, hf, monitor, endpoint, hstood, hproduct, hbest⟩ := hbest
    obtain ⟨hmonitor, hendpoint⟩ := inProduct_chainOf hproduct
    obtain ⟨y, hy, hle⟩ := exists_headKey_le hr hf hmonitor hendpoint hstood
    intro x hx
    exact ((headKey_le_of_rankKey (hleast y hy)).trans hle).trans (hbest x hx)

/-! ## A covered test that is not kept -/

open CorrelationConflicts

/-- A denied flow from before the change. -/
def earlyFlow : NetworkFlowObservation :=
  { sampleFlow with
    toObservationBase := sampleBase "f1" sampleVm 500 3000
    effectiveRuleAttribution := false
    attributionMethod := none
    causalEffect := none
    attributionProofDigest := none
    matchedChangeKey := none
    matchedChangeEvidenceId := none
    matchedChangeArtifactDigest := none
    matchedPropertyPaths := [] }

/-- A failed test of the flow's connection, of one root whatever its configuration. -/
def failedRun (id configuration : String) (start : UtcDateTime) : ConnectionMonitorObservation where
  toObservationBase := ⟨id, sampleVm, start, 3000, "root-test", "observation", none, none⟩
  pathId := "p1"
  monitorResourceId := "/subscriptions/s/resourcegroups/g/providers/microsoft.network/monitors/m"
  sourceResourceId := sampleVm
  destinationResourceId := sampleDb
  sourceAddress := "10.0.0.4"
  destinationAddress := "10.0.0.5"
  direction := .outbound
  protocol := .tcp
  sourcePort := some 50000
  destinationPort := some 1433
  fiveTupleDigest := earlyFlow.fiveTupleDigest
  status := .failed
  testConfigurationReference := configuration
  testConfigurationDigest := "sha256:" ++ configuration

/-- Coverage of the early test. -/
def runCoverage : EvidenceCoverage :=
  { sampleCoverage with
    coverageId := "k3"
    family := .connectionMonitor
    scope := ⟨(failedRun "m1" "covered" 500).coverageResourceIds, some "p1", some .outbound,
      some earlyFlow.fiveTupleDigest, some "covered", some "sha256:covered", "sha256:scope-test"⟩
    sourceRootReference := "root-k3" }

/-- Coverage of the early flow. -/
def earlyCoverage : EvidenceCoverage :=
  { sampleCoverage with
    coverageId := "k2"
    family := .networkFlow
    scope := ⟨earlyFlow.resourceIds, some "p1", some .outbound, some earlyFlow.fiveTupleDigest,
      none, none, "sha256:flow"⟩
    sourceRootReference := "root-k2" }

/-- The incident with the early flow, an early test that is covered and a later one that is not. -/
def earlyRequest : CorrelationRequest :=
  { sampleRequest .succeeded with
    monitoringBundle :=
      { sampleBundle with
        observations := [.endpointHealth (sampleEndpoint "e0" .healthy 0 1000),
          .endpointHealth (sampleEndpoint "e1" .unavailable 2000 3000), .networkFlow earlyFlow,
          .connectionMonitor (failedRun "m1" "covered" 500),
          .connectionMonitor (failedRun "m2" "uncovered" 1500)]
        coverage := [runCoverage, sampleCoverage, earlyCoverage] } }

theorem earlyFlow_valid : earlyFlow.Valid where
  base := ⟨canonical_vm, by decide⟩
  resources := sampleFlow_valid.resources
  ports := sampleFlow_valid.ports
  tuple := sampleFlow_valid.tuple
  rule := sampleFlow_valid.rule
  attributed := by decide
  unattributed := fun _ => ⟨rfl, rfl, rfl, rfl, rfl, rfl, rfl⟩
  orderedPaths := List.Pairwise.nil
  causalPaths := by simp [earlyFlow]

theorem failedRun_valid (id configuration : String) {start : UtcDateTime} (h : start ≤ 3000) :
    (failedRun id configuration start).Valid where
  base := ⟨earlyFlow_valid.base.1, h⟩
  resources :=
    have hmonitor : canonicalResourceId
      "/subscriptions/s/resourcegroups/g/providers/microsoft.network/monitors/m" = true := by decide
    ⟨hmonitor, earlyFlow_valid.resources.1, earlyFlow_valid.resources.2.1⟩
  ports := fun _ => ⟨nofun, nofun⟩
  tuple := rfl

theorem canonical_earlyFlow : ∀ r ∈ earlyFlow.resourceIds, canonicalResourceId r := by
  obtain ⟨hsource, hdestination, henforcement, hrule⟩ := earlyFlow_valid.resources
  intro r hr
  simp only [NetworkFlowObservation.resourceIds, Finset.mem_union, Finset.mem_insert,
    Finset.mem_singleton] at hr
  rcases hr with (rfl | rfl | rfl | rfl) | hr
  · exact earlyFlow_valid.base.1
  · exact hsource
  · exact hdestination
  · exact henforcement
  · exact hrule r (Option.mem_def.mpr (congrArg some (List.mem_singleton.mp hr).symm))

theorem canonical_failedRun (id configuration : String) (start : UtcDateTime) :
    ∀ r ∈ (failedRun id configuration start).coverageResourceIds, canonicalResourceId r := by
  obtain ⟨hsource, hdestination, -⟩ := earlyFlow_valid.resources
  intro r hr
  simp only [ConnectionMonitorObservation.coverageResourceIds, Finset.mem_insert,
    Finset.mem_singleton] at hr
  rcases hr with rfl | rfl | rfl
  · exact earlyFlow_valid.base.1
  · exact hsource
  · exact hdestination

theorem earlyRequest_bundle : earlyRequest.monitoringBundle.Valid := by
  have hcoverage : ∀ c ∈ earlyRequest.coverage, c.Valid := by
    refine List.forall_mem_cons.mpr ⟨?_, List.forall_mem_cons.mpr
      ⟨sampleCoverage_valid, List.forall_mem_singleton.mpr ?_⟩⟩
    · exact ⟨by decide, ⟨by decide, by decide, canonical_failedRun _ _ _⟩, by decide, by decide,
        by decide, by decide, by decide⟩
    · exact ⟨by decide, ⟨by decide, by decide, canonical_earlyFlow⟩, by decide, by decide,
        by decide, by decide, by decide⟩
  have hobservations : ∀ o ∈ earlyRequest.observations, o.Valid := by
    refine List.forall_mem_cons.mpr ⟨sampleEndpoint_valid _ _ (by decide),
      List.forall_mem_cons.mpr ⟨sampleEndpoint_valid _ _ (by decide), ?_⟩⟩
    exact List.forall_mem_cons.mpr ⟨earlyFlow_valid, List.forall_mem_cons.mpr
      ⟨failedRun_valid _ _ (by decide), List.forall_mem_singleton.mpr
        (failedRun_valid _ _ (by decide))⟩⟩
  exact ⟨by decide, hobservations, by decide, by decide, hcoverage, by decide, by decide,
    by decide, by decide, by decide⟩

theorem earlyRequest_accepted : earlyRequest.Accepted :=
  { sampleRequest_accepted .succeeded with
    bundle := earlyRequest_bundle
    notNewer := by decide
    attribution := by decide
    indexIds := by decide
    indexCount := by decide
    indexResources := by decide
    incidentEvidence := by decide
    previousHealth := by decide
    currentHealth := by decide
    governed := by decide
    coverageGoverned := by decide }

/-- The early flow is a group of its own. -/
theorem earlyFlow_group : [earlyFlow] ∈ nsgFlowGroups earlyRequest (sampleChange .succeeded) := by
  have hflows : networkFlows earlyRequest.observations = [earlyFlow] := rfl
  have hmatches : flowMatchesChangedNsg earlyFlow (sampleChange .succeeded) := by
    refine ⟨fun r hr => ?_, parent_rule.symm⟩
    cases hr
    rfl
  have hgrouped : nsgGroupedFlows earlyRequest (sampleChange .succeeded) = [earlyFlow] := by
    rw [nsgGroupedFlows, hflows]
    refine List.filter_eq_self.mpr (List.forall_mem_singleton.mpr (decide_eq_true ?_))
    exact ⟨⟨rfl, by decide, .inr ⟨rfl, hmatches⟩⟩, _, rfl, Finset.mem_insert_self _ _, .inl rfl⟩
  rw [nsgFlowGroups, hgrouped, groupsOn_singleton]
  exact List.mem_singleton_self _

/-- The chain of the covered test. -/
def coveredChain : NsgChain :=
  chainOf earlyRequest earlyFlow (some (failedRun "m1" "covered" 500))
    (some (sampleEndpoint "e1" .unavailable 2000 3000))

/-- The later test is kept for its root, and its chain is not completely covered. -/
theorem covered_chain_lost : earlyRequest.Accepted ∧
    [earlyFlow] ∈ nsgFlowGroups earlyRequest (sampleChange .succeeded) ∧
    InProduct earlyRequest [earlyFlow] coveredChain ∧
    headKey earlyRequest (sampleChange .succeeded) coveredChain <
      headKey earlyRequest (sampleChange .succeeded)
        (selectNsgChain earlyRequest (sampleChange .succeeded) [earlyFlow]) := by
  have htest : failedRun "m1" "covered" 500 ∈ matchingFailedMonitors earlyRequest earlyFlow := by
    decide +kernel
  have hplace : sampleEndpoint "e1" .unavailable 2000 3000 ∈
      degradedEndpoints earlyRequest earlyFlow := by
    decide
  have hworse : ∀ y ∈ chainCandidates earlyRequest (sampleChange .succeeded) [earlyFlow],
      headKey earlyRequest (sampleChange .succeeded) coveredChain <
        headKey earlyRequest (sampleChange .succeeded) y := by
    decide +kernel
  refine ⟨earlyRequest_accepted, earlyFlow_group, ?_, ?_⟩
  · refine .chain List.mem_cons_self htest fun e he => ?_
    cases he
    exact hplace
  · exact hworse _ (selectNsgChain_least (List.cons_ne_nil _ _)).1

/-- The search among the flows of the sample incident. -/
theorem nsg_chain_search_early : InProduct earlyRequest [earlyFlow]
    (selectNsgChain earlyRequest (sampleChange .succeeded) [earlyFlow]) :=
  (nsg_chain_search earlyRequest (sampleChange .succeeded) [earlyFlow] earlyRequest_accepted
    (List.cons_ne_nil _ _)).1

end AthenaContext.NsgChainSearch
