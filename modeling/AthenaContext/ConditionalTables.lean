import AthenaContext.ConditionalStores
import AthenaContext.Dictionaries
import Mathlib

/-!
# Tables with conditional batches

A partition of a table: rows under version tokens. A batch of writes to
distinct rows takes effect as a whole or not at all, each write under its own
condition. A scan is not atomic: every row comes back as it was at some moment.
The history of a partition keeps its earlier states, so that what a scan can
return is stated without a clock; any row it returns is remembered, which is
what conditional batches rest on.
-/

namespace AthenaContext.ConditionalTables

open Dictionaries ConditionalStores

variable {κ ρ : Type*} [DecidableEq κ]

/-- A partition: rows with their tokens, and the next unused token. -/
structure Table (κ ρ : Type*) where
  rows : Dictionary κ (ρ × ℕ)
  next : ℕ

/-- A conditional write of one row. -/
inductive TableWrite (κ ρ : Type*)
  | create (key : κ) (row : ρ)
  | replace (key : κ) (etag : ℕ) (row : ρ)
  | delete (key : κ) (etag : ℕ)
  deriving DecidableEq

namespace TableWrite

/-- The row key of a write. -/
def key : TableWrite κ ρ → κ
  | create key _ => key
  | replace key _ _ => key
  | delete key _ => key

/-- The row that a write leaves. -/
def row? : TableWrite κ ρ → Option ρ
  | create _ row => some row
  | replace _ _ row => some row
  | delete _ _ => none

/-- A write on the cell of its row. -/
def onCell (c : Cell ρ) : TableWrite κ ρ → Option (Cell ρ)
  | create _ row => c.create row
  | replace _ etag row => c.replace etag row
  | delete _ etag => c.delete etag

/-- What a write demands of the row it finds. -/
def Accepts (content : Option (ρ × ℕ)) : TableWrite κ ρ → Prop
  | create _ _ => content = none
  | replace _ etag _ => ∃ row, content = some (row, etag)
  | delete _ etag => ∃ row, content = some (row, etag)

end TableWrite

namespace Table

/-- The row under a key, with its token. -/
def content (t : Table κ ρ) (k : κ) : Option (ρ × ℕ) := t.rows.get? k

/-- The cell of a row. -/
def cell (t : Table κ ρ) (k : κ) : Cell ρ := ⟨t.content k, t.next⟩

/-- The keys of the rows that are there. -/
def keys (t : Table κ ρ) : List κ := t.rows.keys

/-- The number of rows whose key meets a condition. -/
def rowCount (p : κ → Bool) (t : Table κ ρ) : ℕ := t.keys.countP p

/-- Put the cell of a row back. -/
def setCell (t : Table κ ρ) (k : κ) (c : Cell ρ) : Table κ ρ :=
  match c.content with
  | some copy => ⟨t.rows.set k copy, c.next⟩
  | none => ⟨t.rows.erase k, c.next⟩

/-- One conditional write. -/
def write (t : Table κ ρ) (w : TableWrite κ ρ) : Option (Table κ ρ) :=
  (w.onCell (t.cell w.key)).map (t.setCell w.key)

/-- The writes of a batch, one after another. -/
def writeAll : Table κ ρ → List (TableWrite κ ρ) → Option (Table κ ρ)
  | t, [] => some t
  | t, w :: rest => (t.write w).bind fun u => u.writeAll rest

/-- A batch: at most one write to a row, and all of them or none. -/
def submit (t : Table κ ρ) (batch : List (TableWrite κ ρ)) : Option (Table κ ρ) :=
  if (batch.map TableWrite.key).Nodup then t.writeAll batch else none

/-- Every token was drawn before the next unused one. -/
def Valid (t : Table κ ρ) : Prop := ∀ k, (t.cell k).Valid

/-- The rows of an earlier state are remembered. -/
def Recalls (t past : Table κ ρ) : Prop :=
  ∀ k copy, past.content k = some copy → (t.cell k).Remembers copy

variable {t u past : Table κ ρ} {w : TableWrite κ ρ} {c : Cell ρ} {k j : κ} {p : κ → Bool}
  {batch : List (TableWrite κ ρ)}

theorem mem_keys : k ∈ t.keys ↔ (t.content k).isSome = true := Dictionary.mem_keys

theorem content_setCell :
    (t.setCell k c).content j = if j = k then c.content else t.content j := by
  unfold setCell content
  cases h : c.content with
  | none => exact Dictionary.get?_erase
  | some copy => exact Dictionary.get?_set

@[simp] theorem next_setCell : (t.setCell k c).next = c.next := by
  unfold setCell
  cases c.content <;> rfl

/-- The number of rows after a row is put back: the row is counted anew. -/
theorem rowCount_setCell :
    (t.setCell k c).rowCount p + (if p k ∧ (t.content k).isSome then 1 else 0) =
      t.rowCount p + (if p k ∧ c.content.isSome then 1 else 0) := by
  cases hc : c.content with
  | none =>
    have hkeys : (t.setCell k c).keys = t.keys.erase k := by
      unfold setCell
      rw [hc]
      exact Dictionary.keys_erase_present
    by_cases hk : k ∈ t.keys
    · have hsome : (t.content k).isSome = true := mem_keys.mp hk
      have hcount : t.keys.countP p = (t.keys.erase k).countP p + if p k then 1 else 0 := by
        rw [(List.perm_cons_erase hk).countP_eq p, List.countP_cons]
      unfold rowCount
      rw [hkeys, hcount, hsome]
      simp
    · have hnone : (t.content k).isSome = false := by
        have hn := fun h => hk (mem_keys.mpr h)
        simpa using hn
      unfold rowCount
      rw [hkeys, List.erase_of_not_mem hk, hnone]
      simp
  | some copy =>
    cases ht : t.content k with
    | none =>
      have hkeys : (t.setCell k c).keys = t.keys ++ [k] := by
        unfold setCell
        rw [hc]
        exact Dictionary.keys_set_new ht
      unfold rowCount
      rw [hkeys, List.countP_append, List.countP_singleton]
      simp
    | some old =>
      have hkeys : (t.setCell k c).keys = t.keys := by
        unfold setCell
        rw [hc]
        exact Dictionary.keys_set_present ht
      unfold rowCount
      rw [hkeys]
      simp

end Table

/-! ## What a write does -/

namespace TableWrite

variable {w : TableWrite κ ρ} {c d : Cell ρ}

omit [DecidableEq κ] in
theorem onCell_evolves (h : w.onCell c = some d) : Cell.Evolves c d := by
  cases w with
  | create key row => exact .created h
  | replace key etag row => exact .replaced h
  | delete key etag => exact .deleted h

omit [DecidableEq κ] in
/-- An accepted write finds what it demands and leaves its row under a new token. -/
theorem onCell_some (h : w.onCell c = some d) :
    w.Accepts c.content ∧ d.content = w.row?.map fun row => (row, c.next) := by
  cases w with
  | create key row =>
    obtain ⟨hc, rfl⟩ := Cell.create_some h
    exact ⟨hc, rfl⟩
  | replace key etag row =>
    obtain ⟨hc, rfl⟩ := Cell.replace_some h
    exact ⟨hc, rfl⟩
  | delete key etag =>
    obtain ⟨hc, rfl⟩ := Cell.delete_some h
    exact ⟨hc, rfl⟩

end TableWrite

namespace Table

variable {t u past : Table κ ρ} {w : TableWrite κ ρ} {c : Cell ρ} {k j : κ} {p : κ → Bool}
  {batch : List (TableWrite κ ρ)} {copy : ρ × ℕ}

/-- What an accepted write did. -/
structure Written (t u : Table κ ρ) (w : TableWrite κ ρ) : Prop where
  accepted : w.Accepts (t.content w.key)
  row : u.content w.key = w.row?.map fun row => (row, t.next)
  frame : ∀ k, k ≠ w.key → u.content k = t.content k
  next : t.next ≤ u.next
  evolves : Cell.Evolves (t.cell w.key) (u.cell w.key)

theorem write_some (h : t.write w = some u) : Written t u w := by
  obtain ⟨d, hd, rfl⟩ := Option.map_eq_some_iff.mp h
  obtain ⟨haccepts, hcontent⟩ := TableWrite.onCell_some hd
  have hevolves := TableWrite.onCell_evolves hd
  have hcell : (t.setCell w.key d).cell w.key = d := by
    unfold cell
    rw [content_setCell, if_pos rfl, next_setCell]
  refine ⟨haccepts, ?_, fun k hk => ?_, ?_, ?_⟩
  · rw [content_setCell, if_pos rfl]
    exact hcontent
  · rw [content_setCell, if_neg hk]
  · rw [next_setCell]
    exact hevolves.next_le
  · rw [hcell]
    exact hevolves

/-- A remembered row stays remembered. -/
theorem Written.remembers (h : Written t u w) (hr : (t.cell k).Remembers copy) :
    (u.cell k).Remembers copy := by
  by_cases hk : k = w.key
  · subst hk
    exact h.evolves.remembers hr
  · refine ⟨Nat.lt_of_lt_of_le hr.1 h.next, fun q hq => hr.2 q ?_⟩
    have hq : u.content k = some q := hq
    rw [h.frame k hk] at hq
    exact hq

theorem Written.valid (h : Written t u w) (hv : t.Valid) : u.Valid := by
  intro k
  by_cases hk : k = w.key
  · subst hk
    exact h.evolves.valid (hv w.key)
  · intro q hq
    have hq : u.content k = some q := hq
    rw [h.frame k hk] at hq
    exact Nat.lt_of_lt_of_le (hv k q hq) h.next

/-- How many rows of a kind a write adds and removes. -/
def added (p : κ → Bool) : TableWrite κ ρ → ℕ
  | .create key _ => if p key then 1 else 0
  | _ => 0

def removed (p : κ → Bool) : TableWrite κ ρ → ℕ
  | .delete key _ => if p key then 1 else 0
  | _ => 0

theorem rowCount_write (h : t.write w = some u) :
    u.rowCount p + removed p w = t.rowCount p + added p w := by
  obtain ⟨d, hd, rfl⟩ := Option.map_eq_some_iff.mp h
  obtain ⟨haccepts, hcontent⟩ := TableWrite.onCell_some hd
  have hcount := rowCount_setCell (t := t) (k := w.key) (c := d) (p := p)
  cases w with
  | create key row =>
    have hold : t.content key = none := haccepts
    rw [TableWrite.key, hold, hcontent] at hcount
    simpa [added, removed, TableWrite.row?, TableWrite.key] using hcount
  | replace key etag row =>
    obtain ⟨old, hold⟩ := haccepts
    have hold : t.content key = some (old, etag) := hold
    rw [TableWrite.key, hold, hcontent] at hcount
    simpa [added, removed, TableWrite.row?, TableWrite.key] using hcount
  | delete key etag =>
    obtain ⟨old, hold⟩ := haccepts
    have hold : t.content key = some (old, etag) := hold
    rw [TableWrite.key, hold, hcontent] at hcount
    simpa [added, removed, TableWrite.row?, TableWrite.key] using hcount

/-! ## What a batch does -/

/-- What single writes keep, a batch keeps. -/
theorem writeAll_keeps {P : Table κ ρ → Prop}
    (hwrite : ∀ t w u, P t → t.write w = some u → P u) :
    ∀ {t u : Table κ ρ}, P t → t.writeAll batch = some u → P u := by
  induction batch with
  | nil =>
    intro t u ht h
    cases h
    exact ht
  | cons w rest ih =>
    intro t u ht h
    obtain ⟨v, hv, h⟩ := Option.bind_eq_some_iff.mp h
    exact ih (hwrite t w v ht hv) h

theorem submit_writeAll (h : t.submit batch = some u) :
    (batch.map TableWrite.key).Nodup ∧ t.writeAll batch = some u := by
  unfold submit at h
  split at h
  · exact ⟨‹_›, h⟩
  · cases h

theorem submit_valid (hv : t.Valid) (h : t.submit batch = some u) : u.Valid :=
  writeAll_keeps (P := Valid) (fun _ _ _ ht hw => (write_some hw).valid ht) hv
    (submit_writeAll h).2

theorem submit_remembers (hr : (t.cell k).Remembers copy) (h : t.submit batch = some u) :
    (u.cell k).Remembers copy :=
  writeAll_keeps (P := fun v => (v.cell k).Remembers copy)
    (fun _ _ _ ht hw => (write_some hw).remembers ht) hr (submit_writeAll h).2

theorem submit_recalls (hr : t.Recalls past) (h : t.submit batch = some u) : u.Recalls past :=
  fun k copy hcopy => submit_remembers (hr k copy hcopy) h

/-- A valid table remembers its own rows. -/
theorem recalls_self (hv : t.Valid) : t.Recalls t :=
  fun k _ hcopy => Cell.remembers_read (hv k) hcopy

theorem writeAll_frame {t u : Table κ ρ} (h : t.writeAll batch = some u)
    (hk : k ∉ batch.map TableWrite.key) : u.content k = t.content k := by
  induction batch generalizing t with
  | nil =>
    cases h
    rfl
  | cons w rest ih =>
    obtain ⟨v, hv, h⟩ := Option.bind_eq_some_iff.mp h
    rw [List.map_cons, List.mem_cons, not_or] at hk
    rw [ih h hk.2]
    exact (write_some hv).frame k hk.1

theorem submit_frame (h : t.submit batch = some u) (hk : k ∉ batch.map TableWrite.key) :
    u.content k = t.content k :=
  writeAll_frame (submit_writeAll h).2 hk

theorem writeAll_written {t u : Table κ ρ} (hd : (batch.map TableWrite.key).Nodup)
    (h : t.writeAll batch = some u) (hw : w ∈ batch) :
    w.Accepts (t.content w.key) ∧
      ∃ etag, t.next ≤ etag ∧ u.content w.key = w.row?.map fun row => (row, etag) := by
  induction batch generalizing t with
  | nil => cases hw
  | cons v rest ih =>
    obtain ⟨m, hm, hrest⟩ := Option.bind_eq_some_iff.mp h
    rw [List.map_cons] at hd
    obtain ⟨hv, hd⟩ := List.nodup_cons.mp hd
    have hwritten := write_some hm
    rcases List.mem_cons.mp hw with rfl | hw
    · refine ⟨hwritten.accepted, t.next, Nat.le_refl _, ?_⟩
      rw [writeAll_frame hrest hv]
      exact hwritten.row
    · have hne : w.key ≠ v.key := fun he => hv (he ▸ List.mem_map_of_mem (f := TableWrite.key) hw)
      have hrest := ih hd hrest hw
      rw [hwritten.frame _ hne] at hrest
      obtain ⟨haccepts, etag, hle, hrow⟩ := hrest
      exact ⟨haccepts, etag, Nat.le_trans hwritten.next hle, hrow⟩

/-- Every write of an accepted batch found what it demands and left its row
under a token drawn by the batch. -/
theorem submit_written (h : t.submit batch = some u) (hw : w ∈ batch) :
    w.Accepts (t.content w.key) ∧
      ∃ etag, t.next ≤ etag ∧ u.content w.key = w.row?.map fun row => (row, etag) :=
  writeAll_written (submit_writeAll h).1 (submit_writeAll h).2 hw

theorem rowCount_writeAll {t u : Table κ ρ} (h : t.writeAll batch = some u) :
    u.rowCount p + (batch.map (removed p)).sum = t.rowCount p + (batch.map (added p)).sum := by
  induction batch generalizing t with
  | nil =>
    cases h
    rfl
  | cons w rest ih =>
    obtain ⟨v, hv, h⟩ := Option.bind_eq_some_iff.mp h
    have hw := rowCount_write (p := p) hv
    have hrest := ih h
    simp only [List.map_cons, List.sum_cons]
    omega

/-- A batch changes the number of rows by what its writes add and remove. -/
theorem rowCount_submit (h : t.submit batch = some u) :
    u.rowCount p + (batch.map (removed p)).sum = t.rowCount p + (batch.map (added p)).sum :=
  rowCount_writeAll (submit_writeAll h).2

end Table

/-! ## Histories, scans and unreliable batches -/

/-- A partition with its earlier states. -/
structure TableHistory (κ ρ : Type*) where
  now : Table κ ρ
  past : List (Table κ ρ)

/-- How a batch request ends for its caller. -/
inductive BatchOutcome
  | done
  | refused
  | uncertain
  deriving DecidableEq, Repr

namespace TableHistory

variable {h : TableHistory κ ρ} {t : Table κ ρ} {k : κ} {copy : ρ × ℕ}
  {rows : List (κ × ρ × ℕ)} {batch : List (TableWrite κ ρ)} {fault : Cell.Fault}

/-- The partition moves on. -/
def advance (h : TableHistory κ ρ) (t : Table κ ρ) : TableHistory κ ρ := ⟨t, h.now :: h.past⟩

/-- The table after a batch request, if the batch takes effect. -/
def effect (h : TableHistory κ ρ) (batch : List (TableWrite κ ρ)) (fault : Cell.Fault) :
    Option (Table κ ρ) :=
  if fault.applies then h.now.submit batch else none

/-- A batch request: an accepted batch takes effect unless the request is lost. -/
def attempt (h : TableHistory κ ρ) (batch : List (TableWrite κ ρ)) (fault : Cell.Fault) :
    TableHistory κ ρ :=
  match h.effect batch fault with
  | some t => h.advance t
  | none => h

/-- What the caller of a batch request learns. -/
def outcome (h : TableHistory κ ρ) (batch : List (TableWrite κ ρ)) : Cell.Fault → BatchOutcome
  | .answered => if (h.now.submit batch).isSome then .done else .refused
  | .failed _ => .uncertain
  | .repeated => .refused

/-- What a scan may return: every row as it was at some moment, every key once,
and no key left out whose row was there at every moment. -/
structure Scans (h : TableHistory κ ρ) (rows : List (κ × ρ × ℕ)) : Prop where
  distinct : (rows.map Prod.fst).Nodup
  seen : ∀ row ∈ rows, ∃ t ∈ h.now :: h.past, t.content row.1 = some row.2
  complete : ∀ key ∈ h.now.keys, key ∈ rows.map Prod.fst ∨ ∃ t ∈ h.past, key ∉ t.keys

instance [DecidableEq ρ] : Decidable (h.Scans rows) :=
  decidable_of_iff
    ((rows.map Prod.fst).Nodup ∧
      (∀ row ∈ rows, ∃ t ∈ h.now :: h.past, t.content row.1 = some row.2) ∧
      ∀ key ∈ h.now.keys, key ∈ rows.map Prod.fst ∨ ∃ t ∈ h.past, key ∉ t.keys)
    ⟨fun ⟨hd, hs, hc⟩ => ⟨hd, hs, hc⟩, fun ⟨hd, hs, hc⟩ => ⟨hd, hs, hc⟩⟩

/-- Tokens are drawn in order and never used twice. -/
structure Sound (h : TableHistory κ ρ) : Prop where
  valid : h.now.Valid
  recalls : ∀ t ∈ h.past, h.now.Recalls t

/-- A batch that takes effect was accepted. -/
theorem effect_some (he : h.effect batch fault = some t) : h.now.submit batch = some t := by
  unfold effect at he
  split at he
  · exact he
  · cases he

theorem attempt_none (he : h.effect batch fault = none) : h.attempt batch fault = h := by
  unfold attempt
  rw [he]

theorem attempt_some (he : h.effect batch fault = some t) :
    h.attempt batch fault = h.advance t := by
  unfold attempt
  rw [he]

/-- A batch request without effect is not reported done. -/
theorem outcome_of_effect_none (he : h.effect batch fault = none) :
    h.outcome batch fault ≠ .done := by
  intro hdone
  cases fault with
  | answered =>
    have hnone : h.now.submit batch = none := he
    simp [outcome, hnone] at hdone
  | failed applied => cases hdone
  | repeated => cases hdone

theorem Sound.advance (hs : h.Sound) (ht : h.now.submit batch = some t) : (h.advance t).Sound := by
  refine ⟨Table.submit_valid hs.valid ht, fun past hp => ?_⟩
  rcases List.mem_cons.mp hp with rfl | hp
  · exact Table.submit_recalls (Table.recalls_self hs.valid) ht
  · exact Table.submit_recalls (hs.recalls past hp) ht

/-- Whatever a scan returned is remembered. -/
theorem Sound.remembers_scan (hs : h.Sound) (hscan : h.Scans rows) (hrow : (k, copy) ∈ rows) :
    (h.now.cell k).Remembers copy := by
  obtain ⟨t, ht, hcopy⟩ := hscan.seen (k, copy) hrow
  rcases List.mem_cons.mp ht with rfl | ht
  · exact Table.recalls_self hs.valid k copy hcopy
  · exact hs.recalls t ht k copy hcopy

end TableHistory

end AthenaContext.ConditionalTables
