import Mathlib

/-!
# Greedy matchings

Items with two keys are the edges of a bipartite graph, and items of distinct keys on both
sides a matching. One greedy pass finds a maximal matching, at least half as large as any
other. It finds a maximum one in every order exactly when all maximal matchings have one size.
-/

namespace AthenaContext.GreedyMatchings

variable {α φ ψ : Type*} (f : α → φ) (g : α → ψ)

/-- Neither key is shared. -/
def Apart (a b : α) : Prop := f a ≠ f b ∧ g a ≠ g b

/-- Some key is shared. -/
def Meets (a b : α) : Prop := f a = f b ∨ g a = g b

instance [DecidableEq φ] [DecidableEq ψ] (a b : α) : Decidable (Meets f g a b) :=
  inferInstanceAs (Decidable (_ ∨ _))

/-- Items of pairwise distinct keys among the edges. -/
structure IsMatching (edges kept : List α) : Prop where
  subset : kept ⊆ edges
  apart : kept.Pairwise (Apart f g)

/-- A matching that no further edge extends. -/
structure IsMaximal (edges kept : List α) : Prop extends IsMatching f g edges kept where
  blocked : ∀ e ∈ edges, ∃ k ∈ kept, Meets f g k e

/-- A matching of the largest size. -/
structure IsMaximum (edges kept : List α) : Prop extends IsMatching f g edges kept where
  largest : ∀ other, IsMatching f g edges other → other.length ≤ kept.length

/-- All maximal matchings have one size. -/
def OneSize (edges : List α) : Prop :=
  ∀ kept other, IsMaximal f g edges kept → IsMaximal f g edges other → kept.length = other.length

/-- One step of the greedy pass. -/
def keepApart [DecidableEq φ] [DecidableEq ψ] (kept : List α) (e : α) : List α :=
  if ∃ k ∈ kept, Meets f g k e then kept else kept ++ [e]

/-- The greedy pass: every edge that meets no kept one is kept. -/
def greedy [DecidableEq φ] [DecidableEq ψ] (edges : List α) : List α :=
  edges.foldl (keepApart f g) []

variable {f g} {edges kept other : List α} {a b e : α}

theorem meets_self : Meets f g a a := .inl rfl

theorem not_meets : ¬ Meets f g a b ↔ Apart f g a b := not_or

theorem Apart.symm (h : Apart f g a b) : Apart f g b a := ⟨h.1.symm, h.2.symm⟩

/-! ## Sizes -/

theorem IsMatching.keys_nodup (h : IsMatching f g edges kept) :
    (kept.map f).Nodup ∧ (kept.map g).Nodup := by
  constructor
  · exact List.pairwise_map.mpr (h.apart.imp fun hab => hab.1)
  · exact List.pairwise_map.mpr (h.apart.imp fun hab => hab.2)

/-- The items of a matching whose key some kept item has are no more than those. -/
theorem length_filter_le {χ : Type*} [DecidableEq χ] {key : α → χ} (kept : List α)
    (h : (other.map key).Nodup) :
    (other.filter fun e => key e ∈ kept.map key).length ≤ kept.length := by
  have hnodup : ((other.filter fun e => key e ∈ kept.map key).map key).Nodup :=
    h.sublist (List.filter_sublist.map key)
  have hsubset : (other.filter fun e => key e ∈ kept.map key).map key ⊆ kept.map key := by
    intro k hk
    obtain ⟨e, he, rfl⟩ := List.mem_map.mp hk
    exact of_decide_eq_true (List.mem_filter.mp he).2
  have hle := (List.subperm_of_subset hnodup hsubset).length_le
  rwa [List.length_map, List.length_map] at hle

/-- A maximal matching is at least half as large as any matching. -/
theorem IsMaximal.length_le [DecidableEq φ] [DecidableEq ψ] (h : IsMaximal f g edges kept)
    (ho : IsMatching f g edges other) : other.length ≤ 2 * kept.length := by
  have hleft := length_filter_le kept ho.keys_nodup.1
  have hright := length_filter_le kept ho.keys_nodup.2
  have hrest : other.filter (fun e => !decide (f e ∈ kept.map f)) ⊆
      other.filter fun e => g e ∈ kept.map g := by
    intro e he
    obtain ⟨hother, hf⟩ := List.mem_filter.mp he
    rw [Bool.not_eq_true', decide_eq_false_iff_not] at hf
    obtain ⟨k, hk, hmeets⟩ := h.blocked e (ho.subset hother)
    refine List.mem_filter.mpr ⟨hother, decide_eq_true ?_⟩
    rcases hmeets with hkey | hkey
    · exact absurd (hkey ▸ List.mem_map_of_mem hk) hf
    · exact hkey ▸ List.mem_map_of_mem hk
  have hrestNodup : (other.filter fun e => !decide (f e ∈ kept.map f)).Nodup :=
    (List.Nodup.of_map f ho.keys_nodup.1).sublist List.filter_sublist
  have hrestLe := (List.subperm_of_subset hrestNodup hrest).length_le
  have hsplit := List.length_eq_length_filter_add (l := other) fun e => decide (f e ∈ kept.map f)
  omega

/-- A matching of the largest size is maximal. -/
theorem IsMaximum.maximal (h : IsMaximum f g edges kept) : IsMaximal f g edges kept := by
  refine ⟨h.toIsMatching, fun e he => ?_⟩
  by_contra hfree
  push Not at hfree
  have hlonger : IsMatching f g edges (e :: kept) := by
    refine ⟨List.cons_subset.mpr ⟨he, h.subset⟩, List.pairwise_cons.mpr ⟨fun k hk => ?_, h.apart⟩⟩
    exact (not_meets.mp (hfree k hk)).symm
  have hle := h.largest _ hlonger
  rw [List.length_cons] at hle
  omega

open Classical in
/-- Every list of edges has a matching of the largest size. -/
theorem exists_maximum (edges : List α) : ∃ kept, IsMaximum f g edges kept := by
  have hbounded : ∀ kept, IsMatching f g edges kept → kept.length ≤ edges.length := fun kept h =>
    (List.subperm_of_subset (List.Nodup.of_map f h.keys_nodup.1) h.subset).length_le
  have hempty : IsMatching f g edges [] := ⟨List.nil_subset _, List.Pairwise.nil⟩
  let Missing (n : ℕ) : Prop := ∃ kept, IsMatching f g edges kept ∧ kept.length + n = edges.length
  have hmissing : ∃ n, Missing n := ⟨edges.length, [], hempty, Nat.zero_add _⟩
  obtain ⟨kept, hkept, hsize⟩ := Nat.find_spec hmissing
  refine ⟨kept, hkept, fun other hother => ?_⟩
  have hother' := hbounded other hother
  have hleast := Nat.find_min' hmissing (m := edges.length - other.length)
    ⟨other, hother, by omega⟩
  omega

/-- When all maximal matchings have one size, each of them is of the largest. -/
theorem IsMaximal.maximum (h : IsMaximal f g edges kept) (hone : OneSize f g edges) :
    IsMaximum f g edges kept := by
  obtain ⟨best, hbest⟩ := exists_maximum (f := f) (g := g) edges
  refine ⟨h.toIsMatching, fun other hother => ?_⟩
  rw [hone kept best h hbest.maximal]
  exact hbest.largest other hother

/-! ## Edges of the same keys -/

/-- A matching has a counterpart of the same keys among edges that have all these keys. -/
theorem IsMatching.transfer {edges' : List α}
    (h : ∀ e ∈ edges, ∃ e' ∈ edges', f e' = f e ∧ g e' = g e) (hkept : IsMatching f g edges kept) :
    ∃ kept', IsMatching f g edges' kept' ∧ kept'.map f = kept.map f ∧ kept'.map g = kept.map g := by
  obtain ⟨hsubset, hapart⟩ := hkept
  induction kept with
  | nil => exact ⟨[], ⟨List.nil_subset _, List.Pairwise.nil⟩, rfl, rfl⟩
  | cons k kept ih =>
    obtain ⟨hk, hrest⟩ := List.cons_subset.mp hsubset
    obtain ⟨hfirst, hpairs⟩ := List.pairwise_cons.mp hapart
    obtain ⟨kept', hkept', hf, hg⟩ := ih hrest hpairs
    obtain ⟨k', hk', hkf, hkg⟩ := h k hk
    refine ⟨k' :: kept', ⟨List.cons_subset.mpr ⟨hk', hkept'.subset⟩, ?_⟩, ?_, ?_⟩
    · refine List.pairwise_cons.mpr ⟨fun x hx => ?_, hkept'.apart⟩
      constructor
      · have hxf : f x ∈ kept.map f := hf ▸ List.mem_map_of_mem hx
        obtain ⟨y, hy, hyx⟩ := List.mem_map.mp hxf
        rw [hkf, ← hyx]
        exact (hfirst y hy).1
      · have hxg : g x ∈ kept.map g := hg ▸ List.mem_map_of_mem hx
        obtain ⟨y, hy, hyx⟩ := List.mem_map.mp hxg
        rw [hkg, ← hyx]
        exact (hfirst y hy).2
    · rw [List.map_cons, List.map_cons, hkf, hf]
    · rw [List.map_cons, List.map_cons, hkg, hg]

/-- Only which edges there are counts, not their order. -/
theorem IsMaximal.of_mem_iff {edges' : List α} (h : ∀ e, e ∈ edges ↔ e ∈ edges')
    (hkept : IsMaximal f g edges kept) : IsMaximal f g edges' kept where
  subset e he := (h e).mp (hkept.subset he)
  apart := hkept.apart
  blocked e he := hkept.blocked e ((h e).mpr he)

/-- A maximal matching has a maximal counterpart among edges of the same keys. -/
theorem IsMaximal.transfer {edges' : List α}
    (h : ∀ e ∈ edges, ∃ e' ∈ edges', f e' = f e ∧ g e' = g e)
    (h' : ∀ e' ∈ edges', ∃ e ∈ edges, f e' = f e ∧ g e' = g e) (hkept : IsMaximal f g edges kept) :
    ∃ kept', IsMaximal f g edges' kept' ∧ kept'.length = kept.length := by
  obtain ⟨kept', hmatching, hf, hg⟩ := hkept.toIsMatching.transfer h
  refine ⟨kept', ⟨hmatching, fun e' he' => ?_⟩, ?_⟩
  · obtain ⟨e, he, hef, heg⟩ := h' e' he'
    obtain ⟨k, hk, hmeets⟩ := hkept.blocked e he
    rcases hmeets with hkey | hkey
    · have hmem : f k ∈ kept'.map f := hf ▸ List.mem_map_of_mem hk
      obtain ⟨k', hk', hkk⟩ := List.mem_map.mp hmem
      exact ⟨k', hk', .inl (by rw [hkk, hkey, hef])⟩
    · have hmem : g k ∈ kept'.map g := hg ▸ List.mem_map_of_mem hk
      obtain ⟨k', hk', hkk⟩ := List.mem_map.mp hmem
      exact ⟨k', hk', .inr (by rw [hkk, hkey, heg])⟩
  · have hlength := congrArg List.length hf
    rwa [List.length_map, List.length_map] at hlength

theorem OneSize.transfer {edges' : List α}
    (h : ∀ e ∈ edges, ∃ e' ∈ edges', f e' = f e ∧ g e' = g e)
    (h' : ∀ e' ∈ edges', ∃ e ∈ edges, f e' = f e ∧ g e' = g e) (hone : OneSize f g edges) :
    OneSize f g edges' := by
  have hback : ∀ e' ∈ edges', ∃ e ∈ edges, f e = f e' ∧ g e = g e' := by
    intro e' he'
    obtain ⟨e, he, hf, hg⟩ := h' e' he'
    exact ⟨e, he, hf.symm, hg.symm⟩
  have hforth : ∀ e ∈ edges, ∃ e' ∈ edges', f e = f e' ∧ g e = g e' := by
    intro e he
    obtain ⟨e', he', hf, hg⟩ := h e he
    exact ⟨e', he', hf.symm, hg.symm⟩
  intro kept other hkept hother
  obtain ⟨kept', hkept', hlength⟩ := hkept.transfer hback hforth
  obtain ⟨other', hother', hlength'⟩ := hother.transfer hback hforth
  rw [← hlength, ← hlength']
  exact hone kept' other' hkept' hother'

/-! ## The greedy pass -/

variable [DecidableEq φ] [DecidableEq ψ]

/-- What the greedy pass from some kept items keeps. -/
theorem keepApart_fold (edges : List α) : ∀ kept : List α, kept.Pairwise (Apart f g) →
    (edges.foldl (keepApart f g) kept).Pairwise (Apart f g) ∧
      (∀ k ∈ kept, k ∈ edges.foldl (keepApart f g) kept) ∧
      (∀ k ∈ edges.foldl (keepApart f g) kept, k ∈ kept ∨ k ∈ edges) ∧
      ∀ e ∈ edges, ∃ k ∈ edges.foldl (keepApart f g) kept, Meets f g k e := by
  induction edges with
  | nil => exact fun kept h => ⟨h, fun _ hk => hk, fun _ hk => .inl hk, by simp⟩
  | cons e edges ih =>
    intro kept h
    have hstep : (keepApart f g kept e).Pairwise (Apart f g) ∧
        (∀ k ∈ kept, k ∈ keepApart f g kept e) ∧
        (∀ k ∈ keepApart f g kept e, k ∈ kept ∨ k = e) ∧
        ∃ k ∈ keepApart f g kept e, Meets f g k e := by
      unfold keepApart
      split
      · rename_i hmeets
        exact ⟨h, fun _ hk => hk, fun _ hk => .inl hk, hmeets⟩
      · rename_i hfree
        push Not at hfree
        refine ⟨List.pairwise_append.mpr ⟨h, List.pairwise_singleton _ _, fun k hk x hx => ?_⟩,
          fun k hk => List.mem_append_left _ hk, fun k hk => ?_, e, by simp, meets_self⟩
        · rw [List.mem_singleton.mp hx]
          exact not_meets.mp (hfree k hk)
        · simpa using hk
    obtain ⟨hpair, hkeeps, honly, k, hk, hmeets⟩ := hstep
    obtain ⟨hpair', hkeeps', honly', hblocked'⟩ := ih _ hpair
    rw [List.foldl_cons]
    refine ⟨hpair', fun k hk => hkeeps' k (hkeeps k hk), fun k hk => ?_, fun x hx => ?_⟩
    · rcases honly' k hk with hk | hk
      · rcases honly k hk with hk | rfl
        · exact .inl hk
        · exact .inr List.mem_cons_self
      · exact .inr (List.mem_cons_of_mem e hk)
    · rcases List.mem_cons.mp hx with rfl | hx
      · exact ⟨k, hkeeps' k hk, hmeets⟩
      · exact hblocked' x hx

/-- The greedy pass finds a maximal matching. -/
theorem greedy_maximal (edges : List α) : IsMaximal f g edges (greedy f g edges) := by
  obtain ⟨hpair, -, honly, hblocked⟩ := keepApart_fold (f := f) (g := g) edges [] List.Pairwise.nil
  refine ⟨⟨fun k hk => ?_, hpair⟩, hblocked⟩
  rcases honly k hk with hnil | hmem
  · cases hnil
  · exact hmem

/-- Edges that all meet a kept one add nothing. -/
theorem keepApart_fold_blocked (h : ∀ e ∈ edges, ∃ k ∈ kept, Meets f g k e) :
    edges.foldl (keepApart f g) kept = kept := by
  induction edges with
  | nil => rfl
  | cons e edges ih =>
    rw [List.foldl_cons, keepApart, if_pos (h e List.mem_cons_self)]
    exact ih fun x hx => h x (List.mem_cons_of_mem e hx)

/-- A matching is kept whole. -/
theorem keepApart_fold_apart (h : (kept ++ edges).Pairwise (Apart f g)) :
    edges.foldl (keepApart f g) kept = kept ++ edges := by
  induction edges generalizing kept with
  | nil => simp
  | cons e edges ih =>
    have hfree : ¬ ∃ k ∈ kept, Meets f g k e := by
      rintro ⟨k, hk, hmeets⟩
      exact not_meets.mpr ((List.pairwise_append.mp h).2.2 k hk e List.mem_cons_self) hmeets
    rw [List.foldl_cons, keepApart, if_neg hfree]
    rw [ih (by simpa using h)]
    simp

/-- A maximal matching that comes first is what the greedy pass finds. -/
theorem greedy_append (h : IsMaximal f g (kept ++ edges) kept) : greedy f g (kept ++ edges) = kept := by
  have hfirst : kept.foldl (keepApart f g) [] = kept := by
    have hnone : ([] ++ kept).Pairwise (Apart f g) := h.apart
    exact keepApart_fold_apart hnone
  rw [greedy, List.foldl_append, hfirst]
  exact keepApart_fold_blocked fun e he => h.blocked e (List.mem_append_right kept he)

end AthenaContext.GreedyMatchings
