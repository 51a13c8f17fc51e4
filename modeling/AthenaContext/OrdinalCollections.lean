import Mathlib

/-!
# Deterministic collections over a linear key order

Stable key sorting, dictionaries that keep the position of a key's first
insertion and the value of its last, and the strict key order which the
contracts demand of a canonical tuple. Nothing here refers to a particular
record type: the element type and the key are parameters throughout.
-/

namespace AthenaContext.OrdinalCollections

variable {α κ : Type*} [LinearOrder κ]

/-- Stable ascending sort by a key. -/
def sortOn (key : α → κ) (items : List α) : List α :=
  items.insertionSort (fun a b => key a ≤ key b)

instance keyOrder_total (key : α → κ) : Std.Total (fun a b => key a ≤ key b) :=
  ⟨fun a b => le_total (key a) (key b)⟩

instance keyOrder_trans (key : α → κ) : IsTrans α (fun a b => key a ≤ key b) :=
  ⟨fun _ _ _ h₁ h₂ => h₁.trans h₂⟩

@[simp] theorem mem_sortOn {key : α → κ} {items : List α} {x : α} :
    x ∈ sortOn key items ↔ x ∈ items :=
  List.mem_insertionSort _

theorem sortOn_perm (key : α → κ) (items : List α) : (sortOn key items).Perm items :=
  List.perm_insertionSort _ _

@[simp] theorem length_sortOn (key : α → κ) (items : List α) :
    (sortOn key items).length = items.length :=
  (sortOn_perm key items).length_eq

@[simp] theorem sortOn_eq_nil {key : α → κ} {items : List α} :
    sortOn key items = [] ↔ items = [] := by
  rw [← List.length_eq_zero_iff, length_sortOn, List.length_eq_zero_iff]

theorem sortOn_pairwise (key : α → κ) (items : List α) :
    (sortOn key items).Pairwise (fun a b => key a ≤ key b) :=
  List.pairwise_insertionSort _ _

theorem sortOn_nodup {key : α → κ} {items : List α} (h : items.Nodup) :
    (sortOn key items).Nodup :=
  (sortOn_perm key items).nodup_iff.mpr h

/-- An element that is no smaller than any other stays at the end. -/
theorem sortOn_append {key : α → κ} {items : List α} {x : α} (h : ∀ y ∈ items, key y ≤ key x) :
    sortOn key (items ++ [x]) = sortOn key items ++ [x] := by
  have hinsert : ∀ (y : α) (sorted : List α), key y ≤ key x →
      (sorted ++ [x]).orderedInsert (fun a b => key a ≤ key b) y =
        sorted.orderedInsert (fun a b => key a ≤ key b) y ++ [x] := by
    intro y sorted hy
    induction sorted with
    | nil => simp [hy]
    | cons z rest ih =>
      by_cases hz : key y ≤ key z
      · simp [hz]
      · simp [hz, ih]
  induction items with
  | nil => rfl
  | cons y rest ih =>
    have hrest := ih fun z hz => h z (List.mem_cons_of_mem _ hz)
    simp only [sortOn] at hrest ⊢
    rw [List.cons_append, List.insertionSort_cons, hrest, List.insertionSort_cons]
    exact hinsert y _ (h y List.mem_cons_self)

/-- The first element of a sorted list belongs to the input and has the
least key of all its elements. -/
theorem sortOn_head {key : α → κ} {items : List α} {x : α}
    (h : (sortOn key items).head? = some x) :
    x ∈ items ∧ ∀ y ∈ items, key x ≤ key y := by
  obtain ⟨rest, hr⟩ := List.head?_eq_some_iff.mp h
  have hp := sortOn_pairwise key items
  rw [hr] at hp
  refine ⟨mem_sortOn.mp (hr ▸ List.mem_cons_self), fun y hy => ?_⟩
  rcases List.mem_cons.mp (hr ▸ mem_sortOn.mpr hy : y ∈ x :: rest) with rfl | hm
  · exact le_rfl
  · exact (List.pairwise_cons.mp hp).1 y hm

@[simp] theorem sortOn_head_none {key : α → κ} {items : List α} :
    (sortOn key items).head? = none ↔ items = [] := by
  rw [List.head?_eq_none_iff, sortOn_eq_nil]

@[simp] theorem sortOn_head_isSome {key : α → κ} {items : List α} :
    (sortOn key items).head?.isSome = true ↔ ∃ x, x ∈ items := by
  rw [Option.isSome_iff_ne_none, ne_eq, sortOn_head_none, List.eq_nil_iff_forall_not_mem]
  push Not
  exact Iff.rfl

/-- A tuple in strictly increasing key order: sorted and free of duplicates. -/
def strictlyOrdered (key : α → κ) (items : List α) : Prop :=
  (items.map key).Pairwise (· < ·)

instance (key : α → κ) (items : List α) : Decidable (strictlyOrdered key items) := by
  unfold strictlyOrdered
  infer_instance

/-- Sorting distinct keys gives the canonical strictly ordered tuple. -/
theorem sortOn_strictlyOrdered {key : α → κ} {items : List α}
    (h : (items.map key).Nodup) : strictlyOrdered key (sortOn key items) := by
  have hn : ((sortOn key items).map key).Nodup :=
    ((sortOn_perm key items).map key).nodup_iff.mpr h
  have hs : ((sortOn key items).map key).Pairwise (· ≤ ·) :=
    List.pairwise_map.mpr (sortOn_pairwise key items)
  exact (hs.and hn).imp fun ⟨hle, hne⟩ => lt_of_le_of_ne hle hne

theorem strictlyOrdered.nodup {key : α → κ} {items : List α}
    (h : strictlyOrdered key items) : (items.map key).Nodup :=
  List.Pairwise.imp (fun hlt => ne_of_lt hlt) h

/-- A key of a strictly ordered tuple names at most one element. -/
theorem strictlyOrdered.eq_of_key {key : α → κ} {items : List α}
    (h : strictlyOrdered key items) {x y : α} (hx : x ∈ items) (hy : y ∈ items)
    (hk : key x = key y) : x = y :=
  List.inj_on_of_nodup_map h.nodup hx hy hk

/-- One dictionary write: an existing key keeps its position and takes the
new value; a new key goes to the end. -/
def dictInsert (key : α → κ) (entries : List α) (x : α) : List α :=
  if entries.any (fun y => key y = key x) then
    entries.map (fun y => if key y = key x then x else y)
  else entries ++ [x]

/-- The values of the dictionary built from a list of items by key. -/
def dictOf (key : α → κ) (items : List α) : List α :=
  items.foldl (dictInsert key) []

theorem mem_dictInsert {key : α → κ} {entries : List α} {x y : α}
    (h : y ∈ dictInsert key entries x) : y ∈ entries ∨ y = x := by
  unfold dictInsert at h
  split at h
  · obtain ⟨z, hz, rfl⟩ := List.mem_map.mp h
    split
    · exact Or.inr rfl
    · exact Or.inl hz
  · simpa using h

theorem keys_dictInsert (key : α → κ) (entries : List α) (x : α) (k : κ) :
    k ∈ (dictInsert key entries x).map key ↔ k ∈ entries.map key ∨ k = key x := by
  unfold dictInsert
  split
  · rename_i hany
    obtain ⟨z, hz, hzk⟩ := List.any_eq_true.mp hany
    have hzk : key z = key x := by simpa using hzk
    have hkeys : (entries.map (fun y => if key y = key x then x else y)).map key =
        entries.map key := by
      rw [List.map_map]
      refine List.map_congr_left fun y _ => ?_
      by_cases hy : key y = key x <;> simp [hy]
    rw [hkeys]
    constructor
    · exact Or.inl
    · rintro (hk | rfl)
      · exact hk
      · exact hzk ▸ List.mem_map_of_mem hz
  · simp

theorem nodup_keys_dictInsert {key : α → κ} {entries : List α} (x : α)
    (h : (entries.map key).Nodup) : ((dictInsert key entries x).map key).Nodup := by
  unfold dictInsert
  split
  · have hkeys : (entries.map (fun y => if key y = key x then x else y)).map key =
        entries.map key := by
      rw [List.map_map]
      refine List.map_congr_left fun y _ => ?_
      by_cases hy : key y = key x <;> simp [hy]
    rwa [hkeys]
  · rename_i hany
    rw [List.map_append, List.nodup_append]
    refine ⟨h, List.nodup_singleton _, ?_⟩
    rintro a ha b hb rfl
    obtain ⟨z, hz, hzk⟩ := List.mem_map.mp ha
    have hb : a = key x := by simpa using hb
    exact hany (List.any_eq_true.mpr ⟨z, hz, by simp [hzk, hb]⟩)

/-- What a fold of dictionary writes keeps: values come from the items or
from the start, the keys are those seen so far, and they stay distinct. -/
theorem dict_fold {key : α → κ} (items : List α) :
    ∀ entries : List α, (entries.map key).Nodup →
      (∀ y ∈ items.foldl (dictInsert key) entries, y ∈ entries ∨ y ∈ items) ∧
      (∀ k, k ∈ (items.foldl (dictInsert key) entries).map key ↔
        k ∈ entries.map key ∨ k ∈ items.map key) ∧
      ((items.foldl (dictInsert key) entries).map key).Nodup := by
  induction items with
  | nil => intro entries h; simpa using h
  | cons x items ih =>
    intro entries h
    obtain ⟨hm, hk, hn⟩ := ih (dictInsert key entries x) (nodup_keys_dictInsert x h)
    refine ⟨fun y hy => ?_, fun k => ?_, hn⟩
    · rcases hm y hy with he | he
      · rcases mem_dictInsert he with hin | rfl
        · exact Or.inl hin
        · exact Or.inr List.mem_cons_self
      · exact Or.inr (List.mem_cons_of_mem x he)
    · rw [List.foldl_cons, hk k, keys_dictInsert, List.map_cons, List.mem_cons, or_assoc]

theorem mem_of_mem_dictOf {key : α → κ} {items : List α} {x : α}
    (h : x ∈ dictOf key items) : x ∈ items := by
  rcases (dict_fold items [] (by simp)).1 x h with hn | hm
  · simp at hn
  · exact hm

theorem keys_dictOf (key : α → κ) (items : List α) (k : κ) :
    k ∈ (dictOf key items).map key ↔ k ∈ items.map key := by
  have hk := (@dict_fold α κ _ key items [] (by simp)).2.1 k
  rwa [List.map_nil, or_iff_right List.not_mem_nil] at hk

theorem nodup_keys_dictOf (key : α → κ) (items : List α) : ((dictOf key items).map key).Nodup :=
  (dict_fold items [] (by simp)).2.2

/-- An item whose key no other item carries is a value of the dictionary. -/
theorem mem_dictOf_of_unique {key : α → κ} {items : List α} {x : α} (hx : x ∈ items)
    (hu : ∀ y ∈ items, key y = key x → y = x) : x ∈ dictOf key items := by
  obtain ⟨y, hy, hk⟩ := List.mem_map.mp
    ((keys_dictOf key items (key x)).mpr (List.mem_map_of_mem hx))
  rw [hu y (mem_of_mem_dictOf hy) hk] at hy
  exact hy

/-- The canonical tuple of a dictionary: its values in key order. -/
def canonicalTuple (key : α → κ) (items : List α) : List α :=
  sortOn key (dictOf key items)

theorem canonicalTuple_strictlyOrdered (key : α → κ) (items : List α) :
    strictlyOrdered key (canonicalTuple key items) :=
  sortOn_strictlyOrdered (nodup_keys_dictOf key items)

theorem mem_of_mem_canonicalTuple {key : α → κ} {items : List α} {x : α}
    (h : x ∈ canonicalTuple key items) : x ∈ items :=
  mem_of_mem_dictOf (mem_sortOn.mp h)

theorem mem_canonicalTuple_of_unique {key : α → κ} {items : List α} {x : α} (hx : x ∈ items)
    (hu : ∀ y ∈ items, key y = key x → y = x) : x ∈ canonicalTuple key items :=
  mem_sortOn.mpr (mem_dictOf_of_unique hx hu)

/-- When distinct items have distinct keys the dictionary loses nothing. -/
theorem mem_canonicalTuple_iff {key : α → κ} {items : List α}
    (hu : ∀ x ∈ items, ∀ y ∈ items, key y = key x → y = x) {x : α} :
    x ∈ canonicalTuple key items ↔ x ∈ items :=
  ⟨mem_of_mem_canonicalTuple, fun hx => mem_canonicalTuple_of_unique hx (hu x hx)⟩

/-- The values of a dictionary filled by `setdefault`: the first item of
every key, in order of first appearance. -/
def firstOfKey {α κ : Type*} [DecidableEq κ] (key : α → κ) (items : List α) : List α :=
  items.foldl (fun kept x => if kept.any (fun y => key y = key x) then kept else kept ++ [x]) []

theorem firstOfKey_fold {α κ : Type*} [DecidableEq κ] (key : α → κ) (items : List α) :
    ∀ kept : List α,
      (∀ y ∈ items.foldl
          (fun kept x => if kept.any (fun y => key y = key x) then kept else kept ++ [x]) kept,
        y ∈ kept ∨ y ∈ items) ∧
      ∀ y ∈ kept, y ∈ items.foldl
        (fun kept x => if kept.any (fun y => key y = key x) then kept else kept ++ [x]) kept := by
  induction items with
  | nil => intro kept; simp
  | cons x items ih =>
    intro kept
    simp only [List.foldl_cons]
    split
    · obtain ⟨hm, hk⟩ := ih kept
      refine ⟨fun y hy => ?_, hk⟩
      rcases hm y hy with h | h
      · exact Or.inl h
      · exact Or.inr (List.mem_cons_of_mem x h)
    · obtain ⟨hm, hk⟩ := ih (kept ++ [x])
      refine ⟨fun y hy => ?_, fun y hy => hk y (List.mem_append_left [x] hy)⟩
      rcases hm y hy with h | h
      · rcases List.mem_append.mp h with h | h
        · exact Or.inl h
        · exact Or.inr (List.mem_singleton.mp h ▸ List.mem_cons_self)
      · exact Or.inr (List.mem_cons_of_mem x h)

theorem mem_of_mem_firstOfKey {α κ : Type*} [DecidableEq κ] {key : α → κ} {items : List α} {x : α}
    (h : x ∈ firstOfKey key items) : x ∈ items := by
  rcases (firstOfKey_fold key items []).1 x h with hn | hm
  · simp at hn
  · exact hm

/-- Lookup by key in a list of distinct keys finds exactly the element. -/
theorem find_key {α κ : Type*} [DecidableEq κ] {key : α → κ} {items : List α}
    (hn : (items.map key).Nodup) {x : α} (hx : x ∈ items) :
    items.find? (fun y => key y == key x) = some x := by
  cases hf : items.find? (fun y => key y == key x) with
  | none => exact absurd (List.find?_eq_none.mp hf x hx) (by simp)
  | some y =>
    have hk : key y = key x := by simpa using List.find?_some hf
    rw [List.inj_on_of_nodup_map hn (List.mem_of_find?_eq_some hf) hx hk]

/-- Lookup of a key that no element carries fails. -/
theorem find_key_none {α κ : Type*} [DecidableEq κ] {key : α → κ} {items : List α} {k : κ}
    (h : ∀ x ∈ items, key x ≠ k) : items.find? (fun y => key y == k) = none :=
  List.find?_eq_none.mpr fun x hx => by simpa using h x hx

/-- What a successful lookup by key returns. -/
theorem find_key_some {α κ : Type*} [DecidableEq κ] (key : α → κ) {items : List α} {k : κ} {x : α}
    (h : items.find? (fun y => key y == k) = some x) : x ∈ items ∧ key x = k :=
  ⟨List.mem_of_find?_eq_some h, by simpa using List.find?_some h⟩

/-- Two lists of distinct keys that hold the same elements under a key give the
same lookup. -/
theorem find_key_congr {α κ : Type*} [DecidableEq κ] {key : α → κ} {items others : List α} {k : κ}
    (hi : (items.map key).Nodup) (ho : (others.map key).Nodup)
    (h : ∀ x, key x = k → (x ∈ items ↔ x ∈ others)) :
    items.find? (fun y => key y == k) = others.find? (fun y => key y == k) := by
  by_cases hx : ∃ x ∈ items, key x = k
  · obtain ⟨x, hx, rfl⟩ := hx
    have hx' : x ∈ others := (h x rfl).mp hx
    rw [find_key hi hx, find_key ho hx']
  · have hnone : ∀ x ∈ items, key x ≠ k := fun x hm hk => hx ⟨x, hm, hk⟩
    have hnone' : ∀ x ∈ others, key x ≠ k := fun x hm hk => hx ⟨x, (h x hk).mpr hm, hk⟩
    rw [find_key_none hnone, find_key_none hnone']

/-- The value a dictionary built from the items by key holds under a key: the last one. -/
def lastOfKey {α κ : Type*} [DecidableEq κ] (key : α → κ) (items : List α) (k : κ) : Option α :=
  items.reverse.find? fun x => key x == k

theorem lastOfKey_some {α κ : Type*} [DecidableEq κ] {key : α → κ} {items : List α} {k : κ} {x : α}
    (h : lastOfKey key items k = some x) : x ∈ items ∧ key x = k := by
  have hs := find_key_some key h
  exact ⟨List.mem_reverse.mp hs.1, hs.2⟩

/-- With distinct keys, each item is the value under its key. -/
theorem lastOfKey_of_mem {α κ : Type*} [DecidableEq κ] {key : α → κ} {items : List α}
    (hn : (items.map key).Nodup) {x : α} (hx : x ∈ items) :
    lastOfKey key items (key x) = some x := by
  have hr : (items.reverse.map key).Nodup := by
    rw [List.map_reverse]
    exact List.nodup_reverse.mpr hn
  exact find_key hr (List.mem_reverse.mpr hx)

/-- Python's grouping by `setdefault(key, []).append(item)`: the distinct
keys in ascending order, each with its items in input order. -/
def groupsOn (key : α → κ) (items : List α) : List (List α) :=
  (sortOn id (items.map key).dedup).map fun k => items.filter (fun x => key x = k)

theorem mem_groupsOn {key : α → κ} {items : List α} {group : List α}
    (h : group ∈ groupsOn key items) :
    ∃ x ∈ items, group = items.filter (fun y => key y = key x) := by
  obtain ⟨k, hk, rfl⟩ := List.mem_map.mp h
  obtain ⟨x, hx, rfl⟩ := List.mem_map.mp (List.mem_dedup.mp (mem_sortOn.mp hk))
  exact ⟨x, hx, rfl⟩

theorem groupsOn_singleton (key : α → κ) (x : α) : groupsOn key [x] = [[x]] := by
  simp [groupsOn, sortOn]

/-- A sorted list stays as it is. -/
theorem sortOn_of_pairwise {key : α → κ} {items : List α} (h : items.Pairwise fun a b => key a ≤ key b) :
    sortOn key items = items :=
  List.Pairwise.insertionSort_eq h

theorem map_sortOn {β : Type*} {f : α → β} {key : β → κ} (items : List α) :
    (sortOn (fun x => key (f x)) items).map f = sortOn key (items.map f) :=
  List.map_insertionSort _ _ _ _ fun _ _ _ _ => Iff.rfl

end AthenaContext.OrdinalCollections
