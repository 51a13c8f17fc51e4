import Mathlib

/-!
# Dictionaries

A dictionary as the list of its entries in the order of first insertion, with
distinct keys. Assigning to a present key replaces its value in place; assigning
to an absent key appends. Nothing here refers to a particular key or value type.
-/

namespace AthenaContext.Dictionaries

variable {κ α : Type*} [DecidableEq κ]

/-! ## Entry lists -/

/-- The value of a key's entry. -/
def lookup (k : κ) : List (κ × α) → Option α
  | [] => none
  | (key, value) :: rest => if key = k then some value else lookup k rest

/-- `entries[k] = v`. -/
def assign (k : κ) (v : α) : List (κ × α) → List (κ × α)
  | [] => [(k, v)]
  | (key, value) :: rest =>
    if key = k then (k, v) :: rest else (key, value) :: assign k v rest

attribute [local simp] lookup assign

variable {k j : κ} {v : α} {entries : List (κ × α)}

theorem lookup_eq_none_iff : lookup k entries = none ↔ k ∉ entries.map Prod.fst := by
  induction entries with
  | nil => simp
  | cons entry rest ih =>
    by_cases h : entry.1 = k
    · simp [h]
    · simp [h, ih, Ne.symm h]

theorem mem_of_lookup (h : lookup k entries = some v) : (k, v) ∈ entries := by
  induction entries with
  | nil => simp at h
  | cons entry rest ih =>
    by_cases he : entry.1 = k
    · have hv : entry.2 = v := by simpa [he] using h
      have hp : (k, v) = entry := Prod.ext he.symm hv.symm
      simp [hp]
    · have hr : lookup k rest = some v := by simpa [he] using h
      exact List.mem_cons_of_mem _ (ih hr)

/-- With distinct keys every entry is found under its key. -/
theorem lookup_of_mem (hd : (entries.map Prod.fst).Nodup) (h : (k, v) ∈ entries) :
    lookup k entries = some v := by
  induction entries with
  | nil => simp at h
  | cons entry rest ih =>
    have hn := List.nodup_cons.mp hd
    rcases List.mem_cons.mp h with he | hm
    · simp [← he]
    · have hne : entry.1 ≠ k := by
        intro he
        exact hn.1 (he ▸ List.mem_map_of_mem (f := Prod.fst) hm)
      simp only [lookup, hne, if_false]
      exact ih hn.2 hm

theorem lookup_assign_self : lookup k (assign k v entries) = some v := by
  induction entries with
  | nil => simp
  | cons entry rest ih =>
    by_cases h : entry.1 = k
    · simp [h]
    · simp [h, ih]

theorem lookup_assign_of_ne (h : j ≠ k) : lookup j (assign k v entries) = lookup j entries := by
  induction entries with
  | nil => simp [Ne.symm h]
  | cons entry rest ih =>
    by_cases he : entry.1 = k
    · have hj : entry.1 ≠ j := by
        rw [he]
        exact h.symm
      simp [he, Ne.symm h]
    · simp [he, ih]

/-- An entry after an assignment is the new one or an old one. -/
theorem mem_assign {entry : κ × α} (h : entry ∈ assign k v entries) :
    entry = (k, v) ∨ entry ∈ entries := by
  induction entries with
  | nil => exact .inl (List.mem_singleton.mp h)
  | cons head rest ih =>
    by_cases he : head.1 = k
    · obtain hnew | hold := List.mem_cons.mp (by simpa [he] using h)
      · exact .inl hnew
      · exact .inr (List.mem_cons_of_mem _ hold)
    · obtain hhead | hrest := List.mem_cons.mp (by simpa [he] using h)
      · exact .inr (hhead ▸ List.mem_cons_self)
      · exact (ih hrest).imp_right (List.mem_cons_of_mem _)

/-- An absent key is appended. -/
theorem assign_of_lookup_none (h : lookup k entries = none) :
    assign k v entries = entries ++ [(k, v)] := by
  induction entries with
  | nil => rfl
  | cons entry rest ih =>
    by_cases he : entry.1 = k
    · simp [he] at h
    · have hr : lookup k rest = none := by simpa [he] using h
      simp [he, ih hr]

/-- A present key stays where it is. -/
theorem keys_assign_of_lookup_some {w : α} (h : lookup k entries = some w) :
    (assign k v entries).map Prod.fst = entries.map Prod.fst := by
  induction entries with
  | nil => simp at h
  | cons entry rest ih =>
    by_cases he : entry.1 = k
    · simp [he]
    · have hr : lookup k rest = some w := by simpa [he] using h
      simp [he, ih hr]

theorem nodup_assign (hd : (entries.map Prod.fst).Nodup) :
    ((assign k v entries).map Prod.fst).Nodup := by
  cases h : lookup k entries with
  | none =>
    have hk := lookup_eq_none_iff.mp h
    rw [assign_of_lookup_none h, List.map_append, List.nodup_append]
    refine ⟨hd, by simp, fun a ha b hb he => hk ?_⟩
    have hb : b = k := by simpa using hb
    exact hb ▸ he ▸ ha
  | some w => rw [keys_assign_of_lookup_some h]; exact hd

/-- `del entries[k]`. -/
def erase (k : κ) (entries : List (κ × α)) : List (κ × α) :=
  entries.filter fun entry => entry.1 ≠ k

theorem keys_erase : (erase k entries).map Prod.fst = (entries.map Prod.fst).filter (· ≠ k) := by
  rw [erase, List.filter_map]
  rfl

theorem lookup_erase : lookup j (erase k entries) = if j = k then none else lookup j entries := by
  induction entries with
  | nil => simp [erase]
  | cons entry rest ih =>
    simp only [erase, ne_eq, decide_not] at ih ⊢
    by_cases he : entry.1 = k
    · by_cases hj : j = k
      · simpa [he, hj] using ih
      · have hne : entry.1 ≠ j := fun h => hj (h.symm.trans he)
        simpa [he, hj, Ne.symm hj] using ih
    · by_cases hj : entry.1 = j
      · have hne : j ≠ k := fun h => he (hj.trans h)
        simp [hj, hne]
      · simp [he, hj, ih]

/-! ## Dictionaries -/

/-- A dictionary: entries with distinct keys. -/
structure Dictionary (κ α : Type*) where
  entries : List (κ × α)
  distinct : (entries.map Prod.fst).Nodup

namespace Dictionary

variable {d : Dictionary κ α}

instance [DecidableEq α] : DecidableEq (Dictionary κ α) := fun a b =>
  decidable_of_iff (a.entries = b.entries) ⟨fun h => by cases a; cases b; cases h; rfl,
    fun h => h ▸ rfl⟩

/-- The dictionary without entries. -/
def empty : Dictionary κ α := ⟨[], by simp⟩

/-- `d.get(k)`. -/
def get? (d : Dictionary κ α) (k : κ) : Option α := lookup k d.entries

/-- `d[k] = v`. -/
def set (d : Dictionary κ α) (k : κ) (v : α) : Dictionary κ α :=
  ⟨assign k v d.entries, nodup_assign d.distinct⟩

/-- `del d[k]`. -/
def erase (d : Dictionary κ α) (k : κ) : Dictionary κ α :=
  ⟨Dictionaries.erase k d.entries, by rw [keys_erase]; exact d.distinct.filter _⟩

/-- The dictionary with its values mapped. -/
def mapValues {β : Type*} (d : Dictionary κ α) (f : α → β) : Dictionary κ β :=
  ⟨d.entries.map fun entry => (entry.1, f entry.2), by
    rw [List.map_map]
    exact d.distinct⟩

/-- `d.update(other)`. -/
def update (d other : Dictionary κ α) : Dictionary κ α :=
  other.entries.foldl (fun d entry => d.set entry.1 entry.2) d

/-- `d.keys()`. -/
def keys (d : Dictionary κ α) : List κ := d.entries.map Prod.fst

/-- `d.values()`. -/
def values (d : Dictionary κ α) : List α := d.entries.map Prod.snd

@[simp] theorem get?_empty : (empty : Dictionary κ α).get? k = none := rfl

omit [DecidableEq κ] in
@[simp] theorem values_empty : (empty : Dictionary κ α).values = [] := rfl

@[simp] theorem get?_set_self : (d.set k v).get? k = some v := lookup_assign_self

theorem get?_set_of_ne (h : j ≠ k) : (d.set k v).get? j = d.get? j := lookup_assign_of_ne h

theorem get?_set : (d.set k v).get? j = if j = k then some v else d.get? j := by
  by_cases h : j = k
  · simp [h]
  · simp [h, get?_set_of_ne h]

theorem get?_erase : (d.erase k).get? j = if j = k then none else d.get? j := lookup_erase

theorem mem_keys : k ∈ d.keys ↔ (d.get? k).isSome = true := by
  have hn : d.get? k = none ↔ k ∉ d.keys := lookup_eq_none_iff
  cases h : d.get? k with
  | none => simpa using hn.mp h
  | some v =>
    have hk : k ∈ d.keys := by
      by_contra hk
      rw [hn.mpr hk] at h
      cases h
    simpa using hk

/-- A new key is added at the end. -/
theorem keys_set_new (h : d.get? k = none) : (d.set k v).keys = d.keys ++ [k] := by
  have he : assign k v d.entries = d.entries ++ [(k, v)] := assign_of_lookup_none h
  simp [keys, set, he]

/-- Assigning to a present key keeps the keys. -/
theorem keys_set_present {w : α} (h : d.get? k = some w) : (d.set k v).keys = d.keys :=
  keys_assign_of_lookup_some h

theorem keys_erase_present : (d.erase k).keys = d.keys.erase k := by
  have hd : d.keys.Nodup := d.distinct
  have hk : (d.erase k).keys = d.keys.filter (· ≠ k) := keys_erase
  rw [hk, hd.erase_eq_filter]
  exact List.filter_congr fun j _ => by simp [bne, BEq.beq]

theorem get?_mapValues {β : Type*} {f : α → β} : (d.mapValues f).get? k = (d.get? k).map f := by
  have h : ∀ entries : List (κ × α), lookup k (entries.map fun entry => (entry.1, f entry.2)) =
      (lookup k entries).map f := by
    intro entries
    induction entries with
    | nil => rfl
    | cons entry rest ih =>
      by_cases he : entry.1 = k
      · simp [lookup, he]
      · simpa [lookup, he] using ih
  exact h d.entries

/-- An updated dictionary answers from the update first. -/
theorem get?_update {other : Dictionary κ α} :
    (d.update other).get? k = (other.get? k).or (d.get? k) := by
  have h : ∀ (entries : List (κ × α)) (d : Dictionary κ α), (entries.map Prod.fst).Nodup →
      (entries.foldl (fun d entry => d.set entry.1 entry.2) d).get? k =
        (lookup k entries).or (d.get? k) := by
    intro entries
    induction entries with
    | nil =>
      intro d _
      rfl
    | cons entry rest ih =>
      intro d hd
      rw [List.map_cons] at hd
      obtain ⟨hnew, hd⟩ := List.nodup_cons.mp hd
      rw [List.foldl_cons, ih _ hd]
      by_cases he : entry.1 = k
      · have hnone : lookup k rest = none := lookup_eq_none_iff.mpr (he ▸ hnew)
        rw [hnone, he, get?_set_self]
        simp [lookup, he]
      · rw [get?_set_of_ne (Ne.symm he)]
        simp [lookup, he]
  exact h other.entries d other.distinct

/-- The values are what the keys are assigned to. -/
theorem mem_values : v ∈ d.values ↔ ∃ k, d.get? k = some v := by
  constructor
  · intro h
    obtain ⟨entry, hm, he⟩ := List.mem_map.mp h
    exact ⟨entry.1, lookup_of_mem d.distinct (he ▸ hm)⟩
  · rintro ⟨k, h⟩
    exact List.mem_map.mpr ⟨(k, v), mem_of_lookup h, rfl⟩

/-- A new key adds its value at the end. -/
theorem values_set_new (h : d.get? k = none) : (d.set k v).values = d.values ++ [v] := by
  have he : assign k v d.entries = d.entries ++ [(k, v)] := assign_of_lookup_none h
  simp [values, set, he]

end Dictionary

end AthenaContext.Dictionaries
