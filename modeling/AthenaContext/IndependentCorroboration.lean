import AthenaContext.CorrelationRecords
import AthenaContext.GreedyMatchings
import Mathlib

/-!
# Independent corroboration

How many independent citations the greedy count finds. It keeps a maximal selection of distinct
families and provenance roots, at least half as large as any other. The count is the largest
possible, and the same for all evidence identifiers, exactly when all maximal selections have
one size.
-/

namespace AthenaContext.IndependentCorroboration

open OrdinalCollections CorrelationRules CorrelationEvidence CorrelationMatching GreedyMatchings

/-- Family and provenance root of a citation. -/
abbrev family (c : CorrelationEvidenceCitation) : EvidenceFamily := c.family

abbrev provenanceRoot (c : CorrelationEvidenceCitation) : Digest := c.provenanceRootDigest

/-- The citations that are no coverage records. -/
def substantive (citations : List CorrelationEvidenceCitation) : List CorrelationEvidenceCitation :=
  citations.filter fun c => !c.isCoverage

/-- A citation without its identifier. -/
def anonymous (c : CorrelationEvidenceCitation) : CorrelationEvidenceCitation :=
  { c with evidenceId := "" }

/-- The same citations under other, distinct identifiers. -/
structure IsRelabelling (citations relabelled : List CorrelationEvidenceCitation) : Prop where
  same : (relabelled.map anonymous).Perm (citations.map anonymous)
  distinct : (relabelled.map CorrelationEvidenceCitation.evidenceId).Nodup

/-- A largest selection of citations of pairwise distinct families and roots. -/
abbrev IsLargest (citations kept : List CorrelationEvidenceCitation) : Prop :=
  IsMaximum family provenanceRoot (substantive citations) kept

/-- All selections that cannot be extended have one size. -/
abbrev SelectionsOfOneSize (citations : List CorrelationEvidenceCitation) : Prop :=
  OneSize family provenanceRoot (substantive citations)

variable {citations relabelled kept : List CorrelationEvidenceCitation}
  {c : CorrelationEvidenceCitation}

theorem mem_substantive : c ∈ substantive citations ↔ c ∈ citations ∧ c.isCoverage = false := by
  rw [substantive, List.mem_filter, Bool.not_eq_true']

/-- `_independent_citations` is the greedy pass in identifier order. -/
theorem independentCitations_eq_greedy : independentCitations citations =
    greedy family provenanceRoot
      (substantive (sortOn CorrelationEvidenceCitation.evidenceId citations)) := by
  rw [greedy, substantive, List.foldl_filter, independentCitations]
  refine congrArg (fun step => List.foldl step [] _) ?_
  funext kept c
  cases hcoverage : c.isCoverage with
  | true => simp
  | false =>
    by_cases hmeets : ∃ k ∈ kept, Meets family provenanceRoot k c
    · rw [keepApart, if_pos hmeets]
      exact if_pos (.inr hmeets)
    · rw [keepApart, if_neg hmeets]
      exact if_neg fun h => h.elim Bool.false_ne_true hmeets

/-- What the count keeps cannot be extended. -/
theorem independentCitations_maximal :
    IsMaximal family provenanceRoot (substantive citations) (independentCitations citations) := by
  rw [independentCitations_eq_greedy]
  refine (greedy_maximal _).of_mem_iff fun c => ?_
  rw [mem_substantive, mem_substantive, mem_sortOn]

/-! ## Other identifiers -/

/-- A relabelled citation has the family, root and kind of one of the citations. -/
theorem IsRelabelling.original (h : (relabelled.map anonymous).Perm (citations.map anonymous)) :
    ∀ r ∈ substantive relabelled, ∃ c ∈ substantive citations,
      family r = family c ∧ provenanceRoot r = provenanceRoot c := by
  intro r hr
  obtain ⟨hmem, hplain⟩ := mem_substantive.mp hr
  obtain ⟨c, hc, heq⟩ := List.mem_map.mp (h.mem_iff.mp (List.mem_map_of_mem hmem))
  have hfamily : (anonymous c).family = (anonymous r).family := by rw [heq]
  have hroot : (anonymous c).provenanceRootDigest = (anonymous r).provenanceRootDigest := by rw [heq]
  have hcoverage : (anonymous c).isCoverage = (anonymous r).isCoverage := by rw [heq]
  exact ⟨c, mem_substantive.mpr ⟨hc, hcoverage.trans hplain⟩, hfamily.symm, hroot.symm⟩

theorem IsRelabelling.oneSize (h : IsRelabelling citations relabelled)
    (hone : SelectionsOfOneSize citations) : SelectionsOfOneSize relabelled := by
  refine OneSize.transfer (fun c hc => ?_) (IsRelabelling.original h.same) hone
  obtain ⟨r, hr, hfamily, hroot⟩ := IsRelabelling.original h.same.symm c hc
  exact ⟨r, hr, hfamily.symm, hroot.symm⟩

/-- The identifier of a position. -/
def label (n : ℕ) : String := String.ofList (List.replicate (n + 1) 'a')

/-- The citations under the identifiers of the positions from `n` on. -/
def relabel : ℕ → List CorrelationEvidenceCitation → List CorrelationEvidenceCitation
  | _, [] => []
  | n, c :: rest => { c with evidenceId := label n } :: relabel (n + 1) rest

theorem label_lt {m n : ℕ} (h : m < n) : label m < label n := by
  have hmarks : ∀ m n : ℕ, m < n → List.replicate m 'a' < List.replicate n 'a' := by
    intro m
    induction m with
    | zero =>
      intro n hn
      obtain ⟨k, rfl⟩ := Nat.exists_eq_add_of_lt hn
      exact List.nil_lt_cons _ _
    | succ m ih =>
      intro n hn
      obtain ⟨k, rfl⟩ : ∃ k, n = k + 1 := ⟨n - 1, by omega⟩
      rw [List.replicate_succ, List.replicate_succ, List.cons_lt_cons_self]
      exact ih k (by omega)
  rw [label, label, String.lt_iff_toList_lt, String.toList_ofList, String.toList_ofList]
  exact hmarks _ _ (by omega)

theorem relabel_ids {n : ℕ} (h : c ∈ relabel n citations) : ∃ m, n ≤ m ∧ c.evidenceId = label m := by
  induction citations generalizing n with
  | nil => cases h
  | cons d rest ih =>
    rcases List.mem_cons.mp h with rfl | hrest
    · exact ⟨n, le_refl n, rfl⟩
    · obtain ⟨m, hm, hid⟩ := ih hrest
      exact ⟨m, by omega, hid⟩

theorem relabel_ordered (n : ℕ) (citations : List CorrelationEvidenceCitation) :
    (relabel n citations).Pairwise fun a b => a.evidenceId < b.evidenceId := by
  induction citations generalizing n with
  | nil => exact List.Pairwise.nil
  | cons d rest ih =>
    refine List.pairwise_cons.mpr ⟨fun b hb => ?_, ih (n + 1)⟩
    obtain ⟨m, hm, hid⟩ := relabel_ids hb
    rw [hid]
    exact label_lt (by omega)

theorem relabel_anonymous (n : ℕ) (citations : List CorrelationEvidenceCitation) :
    (relabel n citations).map anonymous = citations.map anonymous := by
  induction citations generalizing n with
  | nil => rfl
  | cons d rest ih => rw [relabel, List.map_cons, List.map_cons, ih, anonymous, anonymous]

theorem relabel_append (n : ℕ) (first rest : List CorrelationEvidenceCitation) :
    relabel n (first ++ rest) = relabel n first ++ relabel (n + first.length) rest := by
  induction first generalizing n with
  | nil => rfl
  | cons d first ih =>
    rw [List.cons_append, relabel, relabel, ih, List.cons_append, List.length_cons]
    congr 3
    omega

theorem length_relabel (n : ℕ) (citations : List CorrelationEvidenceCitation) :
    (relabel n citations).length = citations.length := by
  induction citations generalizing n with
  | nil => rfl
  | cons d rest ih => rw [relabel, List.length_cons, List.length_cons, ih]

theorem sortOn_relabel (n : ℕ) (citations : List CorrelationEvidenceCitation) :
    sortOn CorrelationEvidenceCitation.evidenceId (relabel n citations) = relabel n citations :=
  List.Pairwise.insertionSort_eq ((relabel_ordered n citations).imp le_of_lt)

/-- Apart without their identifiers, and with them. -/
theorem pairwise_anonymous : (citations.map anonymous).Pairwise (Apart family provenanceRoot) ↔
    citations.Pairwise (Apart family provenanceRoot) :=
  List.pairwise_map

/-- Every selection that cannot be extended is what the count finds under some identifiers. -/
theorem exists_relabelling (h : IsMaximal family provenanceRoot (substantive citations) kept) :
    ∃ relabelled, IsRelabelling citations relabelled ∧
      (independentCitations relabelled).length = kept.length := by
  have hnodup : kept.Nodup := List.Nodup.of_map family h.keys_nodup.1
  have hmem : ∀ k ∈ kept, k ∈ citations ∧ k.isCoverage = false := fun k hk =>
    mem_substantive.mp (h.subset hk)
  have hperm : (kept ++ citations.diff kept).Perm citations :=
    List.subperm_append_diff_self_of_count_le fun k hk => by
      rw [List.count_eq_one_of_mem hnodup hk]
      exact List.count_pos_iff.mpr (hmem k hk).1
  have hrelabelling : IsRelabelling citations (relabel 0 (kept ++ citations.diff kept)) := by
    constructor
    · rw [relabel_anonymous]
      exact hperm.map anonymous
    · exact List.pairwise_map.mpr ((relabel_ordered 0 _).imp ne_of_lt)
  refine ⟨_, hrelabelling, ?_⟩
  have hfirst : substantive (relabel 0 kept) = relabel 0 kept := by
    refine List.filter_eq_self.mpr fun r hr => ?_
    obtain ⟨k, hk, heq⟩ := List.mem_map.mp
      (relabel_anonymous 0 kept ▸ List.mem_map_of_mem (f := anonymous) hr)
    have hcoverage : (anonymous k).isCoverage = (anonymous r).isCoverage := by rw [heq]
    rw [Bool.not_eq_true']
    exact hcoverage.symm.trans (hmem k hk).2
  have hsplit : substantive (relabel 0 (kept ++ citations.diff kept)) =
      relabel 0 kept ++ substantive (relabel (0 + kept.length) (citations.diff kept)) := by
    rw [relabel_append, substantive, List.filter_append]
    exact congrArg (· ++ _) hfirst
  have hmaximal : IsMaximal family provenanceRoot
      (relabel 0 kept ++ substantive (relabel (0 + kept.length) (citations.diff kept)))
      (relabel 0 kept) := by
    refine ⟨⟨List.subset_append_left _ _, ?_⟩, fun e he => ?_⟩
    · rw [← pairwise_anonymous, relabel_anonymous, pairwise_anonymous]
      exact h.apart
    · rw [← hsplit] at he
      obtain ⟨c, hc, hfamily, hroot⟩ := IsRelabelling.original hrelabelling.same e he
      obtain ⟨k, hk, hmeets⟩ := h.blocked c hc
      obtain ⟨r, hr, heq⟩ := List.mem_map.mp
        (relabel_anonymous 0 kept ▸ List.mem_map_of_mem (f := anonymous) hk)
      have hrfamily : (anonymous r).family = (anonymous k).family := by rw [heq]
      have hrroot : (anonymous r).provenanceRootDigest = (anonymous k).provenanceRootDigest := by
        rw [heq]
      refine ⟨r, hr, hmeets.imp (fun hkey => ?_) fun hkey => ?_⟩
      · exact hrfamily.trans (hkey.trans hfamily.symm)
      · exact hrroot.trans (hkey.trans hroot.symm)
  rw [independentCitations_eq_greedy, sortOn_relabel, hsplit, greedy_append hmaximal, length_relabel]

/-- Where the count is the largest under all identifiers, no selection exceeds one that cannot
be extended. -/
theorem length_le_of_largest {other : List CorrelationEvidenceCitation}
    (hall : ∀ relabelled, IsRelabelling citations relabelled →
      IsLargest relabelled (independentCitations relabelled))
    (hkept : IsMaximal family provenanceRoot (substantive citations) kept)
    (hother : IsMatching family provenanceRoot (substantive citations) other) :
    other.length ≤ kept.length := by
  obtain ⟨relabelled, hrelabelling, hlength⟩ := exists_relabelling hkept
  have hcounterparts : ∀ c ∈ substantive citations, ∃ r ∈ substantive relabelled,
      family r = family c ∧ provenanceRoot r = provenanceRoot c := by
    intro c hc
    obtain ⟨r, hr, hfamily, hroot⟩ := IsRelabelling.original hrelabelling.same.symm c hc
    exact ⟨r, hr, hfamily.symm, hroot.symm⟩
  obtain ⟨other', hother', hkeys, -⟩ := hother.transfer hcounterparts
  have hle := (hall relabelled hrelabelling).largest other' hother'
  have hsame := congrArg List.length hkeys
  rw [List.length_map, List.length_map] at hsame
  omega

/-- What the independent citations are. They are pairwise of distinct families and roots, none
is a coverage record, and every other citation that is none shares a family or a root with one
of them, so that they are at least half as many as any selection has. They are a largest
selection whatever the identifiers exactly when all selections that cannot be extended have one
size, and exactly then their number is independent of the identifiers. -/
theorem independent_corroboration (citations : List CorrelationEvidenceCitation) :
    (IsMaximal family provenanceRoot (substantive citations) (independentCitations citations) ∧
      ∀ other, IsMatching family provenanceRoot (substantive citations) other →
        other.length ≤ 2 * (independentCitations citations).length) ∧
    (SelectionsOfOneSize citations → IsLargest citations (independentCitations citations)) ∧
    ((∀ relabelled, IsRelabelling citations relabelled →
        IsLargest relabelled (independentCitations relabelled)) ↔
      SelectionsOfOneSize citations) ∧
    ((∀ relabelled, IsRelabelling citations relabelled →
        (independentCitations relabelled).length = (independentCitations citations).length) ↔
      SelectionsOfOneSize citations) := by
  have hlargest : SelectionsOfOneSize citations → ∀ relabelled, IsRelabelling citations relabelled →
      IsLargest relabelled (independentCitations relabelled) := fun hone relabelled h =>
    independentCitations_maximal.maximum (h.oneSize hone)
  have hback : ∀ relabelled, IsRelabelling citations relabelled →
      ∃ kept, IsMaximal family provenanceRoot (substantive citations) kept ∧
        kept.length = (independentCitations relabelled).length := by
    intro relabelled h
    refine independentCitations_maximal.transfer (fun r hr => ?_) (IsRelabelling.original h.same.symm)
    obtain ⟨c, hc, hfamily, hroot⟩ := IsRelabelling.original h.same r hr
    exact ⟨c, hc, hfamily.symm, hroot.symm⟩
  refine ⟨⟨independentCitations_maximal, fun other hother =>
      independentCitations_maximal.length_le hother⟩,
    fun hone => independentCitations_maximal.maximum hone,
    ⟨fun hall => ?_, hlargest⟩, ⟨fun hall => ?_, fun hone relabelled h => ?_⟩⟩
  · intro kept other hkept hother
    exact le_antisymm (length_le_of_largest hall hother hkept.toIsMatching)
      (length_le_of_largest hall hkept hother.toIsMatching)
  · intro kept other hkept hother
    obtain ⟨first, hfirst, hkeptLength⟩ := exists_relabelling hkept
    obtain ⟨second, hsecond, hotherLength⟩ := exists_relabelling hother
    rw [← hkeptLength, ← hotherLength, hall first hfirst, hall second hsecond]
  · obtain ⟨kept, hkept, hlength⟩ := hback relabelled h
    rw [← hlength]
    exact hone kept _ hkept independentCitations_maximal

/-- A citation of an observation from 12:00 to 12:05. -/
def sampleCitation (evidenceId sourceRoot summaryCode : String) (family : EvidenceFamily) :
    CorrelationEvidenceCitation where
  evidenceId := evidenceId
  family := family
  evidenceDigest := sha256Hex evidenceId
  sourceReference := ⟨"monitoring.json", "1", sha256Hex "monitoring"⟩
  observedStart := 43200000
  observedEnd := 43500000
  sourceRootReference := sourceRoot
  resourceIds := {"/subscriptions/s/resourcegroups/r/providers/microsoft.compute/virtualmachines/vm"}
  summaryCode := summaryCode

/-- The source record of a digest of one digit. -/
def sourceRoot (digit : Char) : String :=
  "law:sha256:" ++ String.ofList (List.replicate 64 digit)

/-- A flow that shares its root with a connection test and its family with a second flow. -/
def sharedCitations : List CorrelationEvidenceCitation :=
  [sampleCitation "obs-1" (sourceRoot 'a') "networkFlow.denied" .networkFlow,
    sampleCitation "obs-2" (sourceRoot 'b') "networkFlow.denied" .networkFlow,
    sampleCitation "obs-3" (sourceRoot 'a') "connectionMonitor.failed" .connectionMonitor]

/-- The count finds the first flow only, and the test and the second flow are independent. -/
theorem shared_undercounted : ¬ (∀ citations, IsLargest citations (independentCitations citations)) ∧
    (independentCitations sharedCitations).length = 1 ∧
    IsMatching family provenanceRoot (substantive sharedCitations) (sharedCitations.drop 1) := by
  have hone : (independentCitations sharedCitations).length = 1 := by decide +kernel
  have htwo : IsMatching family provenanceRoot (substantive sharedCitations)
      (sharedCitations.drop 1) := by
    have hplain : substantive sharedCitations = sharedCitations := by decide +kernel
    rw [hplain]
    refine ⟨List.drop_subset 1 _, List.pairwise_pair.mpr ⟨?_, ?_⟩⟩
    · decide
    · exact sha256Hex_injective.ne (by decide)
  refine ⟨fun hall => ?_, hone, htwo⟩
  have hle := (hall sharedCitations).largest _ htwo
  rw [hone] at hle
  exact absurd hle (by decide)

end AthenaContext.IndependentCorroboration
