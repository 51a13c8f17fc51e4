import AthenaContext.OrdinalCollections

/-!
# Ranked representatives

The first item of every key of a list sorted by a rank: the least of the items of that key, and
in the order of the ranks.
-/

namespace AthenaContext.RankedRepresentatives

open OrdinalCollections

variable {α κ ρ : Type*} [DecidableEq κ] [LinearOrder ρ] {key : α → κ} {rank : α → ρ}
  {items kept : List α} {x y : α}

omit [LinearOrder ρ] in
/-- What a fold adds to the items kept: some of the items, in their order, of new keys, each
before the others of its key. -/
theorem firstOfKey_adds (key : α → κ) {r : α → α → Prop} (items : List α) (h : items.Pairwise r) :
    ∀ kept : List α, ∃ added, items.foldl (fun kept x =>
        if kept.any (fun y => key y = key x) then kept else kept ++ [x]) kept = kept ++ added ∧
      added.Sublist items ∧ (∀ x ∈ added, key x ∉ kept.map key) ∧
      (∀ y ∈ items, ∃ x ∈ kept ++ added, key x = key y) ∧
      ∀ x ∈ added, ∀ y ∈ items, key y = key x → y = x ∨ r x y := by
  induction items with
  | nil => exact fun kept => ⟨[], by simp, List.Sublist.refl _, by simp, by simp, by simp⟩
  | cons z items ih =>
    intro kept
    obtain ⟨hz, hrest⟩ := List.pairwise_cons.mp h
    rw [List.foldl_cons]
    split
    · rename_i hseen
      obtain ⟨k, hk, hkey⟩ := List.any_eq_true.mp hseen
      have hkey : key k = key z := of_decide_eq_true hkey
      obtain ⟨added, hfold, hsub, hnew, hall, hfirst⟩ := ih hrest kept
      refine ⟨added, hfold, hsub.cons z, hnew, fun y hy => ?_, fun x hx y hy hyx => ?_⟩
      · rcases List.mem_cons.mp hy with rfl | hy
        · exact ⟨k, List.mem_append_left _ hk, hkey⟩
        · exact hall y hy
      · rcases List.mem_cons.mp hy with rfl | hy
        · exact absurd (List.mem_map.mpr ⟨k, hk, hkey.trans hyx⟩) (hnew x hx)
        · exact hfirst x hx y hy hyx
    · rename_i hunseen
      obtain ⟨added, hfold, hsub, hnew, hall, hfirst⟩ := ih hrest (kept ++ [z])
      have happend : kept ++ [z] ++ added = kept ++ z :: added := by simp
      refine ⟨z :: added, hfold.trans happend, hsub.cons_cons z, fun x hx => ?_, fun y hy => ?_,
        fun x hx y hy hyx => ?_⟩
      · rcases List.mem_cons.mp hx with rfl | hx
        · intro hmem
          obtain ⟨k, hk, hkey⟩ := List.mem_map.mp hmem
          exact hunseen (List.any_eq_true.mpr ⟨k, hk, decide_eq_true hkey⟩)
        · exact fun hmem => hnew x hx (by rw [List.map_append]; exact List.mem_append_left _ hmem)
      · rw [← happend]
        rcases List.mem_cons.mp hy with rfl | hy
        · exact ⟨y, by simp, rfl⟩
        · exact hall y hy
      · rcases List.mem_cons.mp hx with hxz | hx
        · rw [hxz]
          rcases List.mem_cons.mp hy with hyz | hy
          · exact .inl hyz
          · exact .inr (hz y hy)
        · rcases List.mem_cons.mp hy with hyz | hy
          · refine absurd ?_ (hnew x hx)
            rw [← hyx, hyz]
            simp
          · exact hfirst x hx y hy hyx

/-- The representatives of the items: of every key the first by rank. -/
def representatives (key : α → κ) (rank : α → ρ) (items : List α) : List α :=
  firstOfKey key (sortOn rank items)

/-- No item of its key ranks before a representative, and the representatives are sorted. -/
theorem representatives_spec (key : α → κ) (rank : α → ρ) (items : List α) :
    (representatives key rank items).Pairwise (fun x y => rank x ≤ rank y) ∧
    (∀ y ∈ items, ∃ x ∈ representatives key rank items, key x = key y) ∧
    ∀ x ∈ representatives key rank items, x ∈ items ∧
      ∀ y ∈ items, key y = key x → rank x ≤ rank y := by
  have hsorted := sortOn_pairwise rank items
  obtain ⟨added, hfold, hsub, -, hall, hfirst⟩ :=
    firstOfKey_adds key (sortOn rank items) hsorted []
  have hreps : representatives key rank items = added := hfold
  rw [hreps]
  refine ⟨hsorted.sublist hsub, fun y hy => hall y (mem_sortOn.mpr hy), fun x hx => ?_⟩
  refine ⟨mem_sortOn.mp (hsub.subset hx), fun y hy hyx => ?_⟩
  rcases hfirst x hx y (mem_sortOn.mpr hy) hyx with rfl | hle
  · exact le_refl _
  · exact hle

/-- The first representative with a property that depends on the key only is the first of all
items with it. -/
theorem find_representative {p : α → Bool} (hp : ∀ x y, key x = key y → p x = p y)
    (h : (representatives key rank items).find? p = some x) :
    x ∈ items ∧ p x = true ∧ ∀ y ∈ items, p y = true → rank x ≤ rank y := by
  obtain ⟨hsorted, hall, hleast⟩ := representatives_spec key rank items
  have hpx : p x = true := List.find?_some h
  refine ⟨(hleast x (List.mem_of_find?_eq_some h)).1, hpx, fun y hy hpy => ?_⟩
  obtain ⟨z, hz, hkey⟩ := hall y hy
  have hpz : p z = true := by rw [hp z y hkey, hpy]
  have hzy : rank z ≤ rank y := (hleast z hz).2 y hy hkey.symm
  obtain ⟨before, after, hsplit, hbefore⟩ := List.find?_eq_some_iff_append.mp h |>.2
  rw [hsplit] at hz hsorted
  rcases List.mem_append.mp hz with hz | hz
  · exact absurd hpz (by simpa using hbefore z hz)
  · rcases List.mem_cons.mp hz with rfl | hz
    · exact hzy
    · exact ((List.pairwise_cons.mp (List.pairwise_append.mp hsorted).2.1).1 z hz).trans hzy

/-- Some item has the property exactly when a representative has. -/
theorem find_representative_isSome {p : α → Bool} (hp : ∀ x y, key x = key y → p x = p y)
    (hy : y ∈ items) (hpy : p y = true) : ((representatives key rank items).find? p).isSome = true := by
  obtain ⟨-, hall, -⟩ := representatives_spec key rank items
  obtain ⟨z, hz, hkey⟩ := hall y hy
  exact List.find?_isSome.mpr ⟨z, hz, by rw [hp z y hkey, hpy]⟩

end AthenaContext.RankedRepresentatives
