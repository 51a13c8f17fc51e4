import Mathlib

/-!
# Linear lineages

Elements that carry a name and the name of their parent, listed so that the first
has no parent and each next one names the element before it, under a strictly
increasing key. Elements are closed from the front: what is still open is a tail of
at most two. Appending a child of the last element and closing an element that has a
child both keep this shape. Nothing here refers to a particular kind of element.
-/

namespace AthenaContext.LinearLineages

variable {α ν κ : Type*} [LinearOrder κ]

/-- How elements are named, which parent they name, and how names are ordered. -/
structure Naming (α ν κ : Type*) where
  name : α → ν
  parent : α → Option ν
  key : ν → κ

/-- The second element names the first and has the greater key. -/
def Naming.Succeeds (N : Naming α ν κ) (a b : α) : Prop :=
  N.parent b = some (N.name a) ∧ N.key (N.name a) < N.key (N.name b)

/-- A single chain by parent, under strictly increasing keys, from one root. -/
structure Linear (N : Naming α ν κ) (elements : List α) : Prop where
  root : ∀ x ∈ elements.head?, N.parent x = none
  chain : elements.IsChain N.Succeeds

namespace Linear

variable {N : Naming α ν κ} {elements : List α} {x y : α} {n : ν}

theorem nil : Linear N [] where
  root := by simp
  chain := .nil

/-- A child of the last element prolongs the chain. -/
theorem append (h : Linear N elements) (hroot : elements = [] → N.parent x = none)
    (hlast : ∀ y ∈ elements.getLast?, N.Succeeds y x) : Linear N (elements ++ [x]) where
  root := by
    cases elements with
    | nil => simpa using hroot rfl
    | cons first rest => simpa using h.root first rfl
  chain := by
    rw [List.isChain_append]
    refine ⟨h.chain, .singleton x, fun y hy z hz => ?_⟩
    have hz : z = x := by simpa using hz.symm
    exact hz ▸ hlast y hy

/-- Keys increase along the chain. -/
theorem pairwise (h : Linear N elements) :
    elements.Pairwise fun a b => N.key (N.name a) < N.key (N.name b) := by
  have : Trans (fun a b => N.key (N.name a) < N.key (N.name b))
      (fun a b => N.key (N.name a) < N.key (N.name b))
      (fun a b => N.key (N.name a) < N.key (N.name b)) := ⟨fun hab hbc => lt_trans hab hbc⟩
  have hchain : elements.IsChain fun a b => N.key (N.name a) < N.key (N.name b) :=
    h.chain.imp fun a b hab => hab.2
  exact List.isChain_iff_pairwise.mp hchain

/-- An element is the head, or succeeds the element before it. -/
theorem head_or_succeeds (h : Linear N elements) (hx : x ∈ elements) :
    elements.head? = some x ∨ ∃ y ∈ elements, N.Succeeds y x := by
  obtain ⟨l, r, hs⟩ := List.append_of_mem hx
  subst hs
  rcases List.eq_nil_or_concat l with rfl | ⟨l', y, rfl⟩
  · exact .inl rfl
  · right
    have hchain := h.chain
    rw [List.concat_eq_append, List.append_assoc, List.isChain_append] at hchain
    have hyx : ([y] ++ x :: r).IsChain N.Succeeds := hchain.2.1
    refine ⟨y, by simp, ?_⟩
    exact (List.isChain_cons_cons.mp hyx).1

/-- A named parent has the smaller key. -/
theorem parent_lt (h : Linear N elements) (hx : x ∈ elements) (hp : N.parent x = some n) :
    N.key n < N.key (N.name x) := by
  rcases h.head_or_succeeds hx with hhead | ⟨y, _, hy⟩
  · rw [h.root x hhead] at hp
    cases hp
  · have hn : N.name y = n := Option.some.inj (hy.1.symm.trans hp)
    exact hn ▸ hy.2

/-- The root is the only element without a parent. -/
theorem parent_eq_none_iff (h : Linear N elements) (hx : x ∈ elements) :
    N.parent x = none ↔ elements.head? = some x := by
  constructor
  · intro hp
    rcases h.head_or_succeeds hx with hhead | ⟨y, _, hy⟩
    · exact hhead
    · have hparent := hy.1
      rw [hp] at hparent
      cases hparent
  · exact h.root x

end Linear

/-! ## Closing from the front -/

/-- A linear lineage of a closed front and an open tail of at most two elements, which
is empty only when the lineage is. -/
structure Frontier (N : Naming α ν κ) (closed : α → Prop) (front active : List α) : Prop where
  linear : Linear N (front ++ active)
  closed_front : ∀ x ∈ front, closed x
  open_active : ∀ x ∈ active, ¬ closed x
  short : active.length ≤ 2
  live : active = [] → front = []

namespace Frontier

variable {N : Naming α ν κ} {closed closed' : α → Prop} {front active : List α} {x old new : α}

/-- The open elements are the tail. -/
theorem filter_open [DecidablePred closed] (h : Frontier N closed front active) :
    (front ++ active).filter (fun x => ¬ closed x) = active := by
  have hfront : front.filter (fun x => ¬ closed x) = [] := by
    rw [List.filter_eq_nil_iff]
    intro x hx
    simp [h.closed_front x hx]
  have hactive : active.filter (fun x => ¬ closed x) = active := by
    rw [List.filter_eq_self]
    intro x hx
    simp [h.open_active x hx]
  rw [List.filter_append, hfront, hactive, List.nil_append]

/-- An open child of the only open element, or a root of an empty lineage, is appended. -/
theorem extend (h : Frontier N closed front active) (hopen : ¬ closed x)
    (hshort : active.length ≤ 1) (hroot : active = [] → N.parent x = none)
    (hnext : ∀ c, active = [c] → N.Succeeds c x) :
    Frontier N closed front (active ++ [x]) where
  linear := by
    rw [← List.append_assoc]
    refine h.linear.append (fun he => hroot (List.append_eq_nil_iff.mp he).2) fun y hy => ?_
    cases active with
    | nil =>
      rw [h.live rfl] at hy
      simp at hy
    | cons c rest =>
      have hrest : rest = [] := by
        have hlen : rest.length = 0 := by
          simp only [List.length_cons] at hshort
          omega
        exact List.length_eq_zero_iff.mp hlen
      subst hrest
      have hy : y = c := by simpa using hy.symm
      exact hy ▸ hnext c rfl
  closed_front := h.closed_front
  open_active := by
    intro y hy
    rcases List.mem_append.mp hy with hy | hy
    · exact h.open_active y hy
    · have hy : y = x := by simpa using hy
      exact hy ▸ hopen
  short := by
    simp only [List.length_append, List.length_singleton]
    omega
  live := by simp

/-- An open element with a child is the first of two open ones, and the child is the
second. -/
theorem active_eq (h : Frontier N closed front active) (hold : old ∈ front ++ active)
    (hopen : ¬ closed old) (hnew : new ∈ front ++ active)
    (hparent : N.parent new = some (N.name old)) : active = [old, new] := by
  have hlt : N.key (N.name old) < N.key (N.name new) := h.linear.parent_lt hnew hparent
  have hsorted := List.pairwise_append.mp h.linear.pairwise
  have holdActive : old ∈ active := by
    rcases List.mem_append.mp hold with hf | ha
    · exact absurd (h.closed_front old hf) hopen
    · exact ha
  have hnewActive : new ∈ active := by
    rcases List.mem_append.mp hnew with hf | ha
    · exact absurd (hsorted.2.2 new hf old holdActive) (not_lt_of_gt hlt)
    · exact ha
  have hshort := h.short
  have hordered := hsorted.2.1
  rcases active with _ | ⟨a, _ | ⟨b, _ | ⟨c, rest⟩⟩⟩
  · exact absurd holdActive List.not_mem_nil
  · have ho : old = a := by simpa using holdActive
    have hn : new = a := by simpa using hnewActive
    rw [ho, hn] at hlt
    exact absurd hlt (lt_irrefl _)
  · have hab : N.key (N.name a) < N.key (N.name b) := by simpa using hordered
    have ho : old = a ∨ old = b := by simpa using holdActive
    have hn : new = a ∨ new = b := by simpa using hnewActive
    rcases ho with rfl | rfl
    · rcases hn with rfl | rfl
      · exact absurd hlt (lt_irrefl _)
      · rfl
    · rcases hn with rfl | rfl
      · exact absurd hab (not_lt_of_gt hlt)
      · exact absurd hlt (lt_irrefl _)
  · simp only [List.length_cons] at hshort
    omega

/-- Closing an open element that has a child leaves the child open. -/
theorem close (h : Frontier N closed front active) (hold : old ∈ front ++ active)
    (hopen : ¬ closed old) (hnew : new ∈ front ++ active)
    (hparent : N.parent new = some (N.name old))
    (hclosed : ∀ x ∈ front ++ active, closed' x ↔ closed x ∨ x = old) :
    Frontier N closed' (front ++ [old]) [new] := by
  have hactive := h.active_eq hold hopen hnew hparent
  have hne : new ≠ old := by
    rintro rfl
    exact lt_irrefl _ (h.linear.parent_lt hnew hparent)
  have hnewOpen : ¬ closed new := h.open_active new (by simp [hactive])
  refine ⟨?_, ?_, ?_, by simp, by simp⟩
  · have hlinear := h.linear
    rw [hactive] at hlinear
    simpa using hlinear
  · intro x hx
    rcases List.mem_append.mp hx with hf | he
    · exact (hclosed x (List.mem_append_left _ hf)).mpr (.inl (h.closed_front x hf))
    · have he : x = old := by simpa using he
      exact (hclosed x (he ▸ hold)).mpr (.inr he)
  · intro x hx
    have hx : x = new := by simpa using hx
    subst hx
    rw [hclosed x hnew]
    rintro (hc | he)
    · exact hnewOpen hc
    · exact hne he

end Frontier

end AthenaContext.LinearLineages
