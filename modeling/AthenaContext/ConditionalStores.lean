import Mathlib

/-!
# Stores with conditional writes

A cell that holds a value under a version token. A creation succeeds on an
empty cell only; a replacement or a deletion succeeds only under the token of
the value it replaces. Tokens are never used twice, so a copy read earlier
either carries a stale token, which every conditional write refuses, or is
still exactly what the cell holds.
-/

namespace AthenaContext.ConditionalStores

variable {α : Type*}

/-- A cell: its value with a version token, and the next unused token. -/
structure Cell (α : Type*) where
  content : Option (α × ℕ)
  next : ℕ
  deriving DecidableEq

namespace Cell

/-- The cell that was never written. -/
def empty : Cell α := ⟨none, 0⟩

/-- The value a reader sees. -/
def value (c : Cell α) : Option α := c.content.map Prod.fst

/-- Conditional creation, `If-None-Match: *`. -/
def create (c : Cell α) (x : α) : Option (Cell α) :=
  match c.content with
  | none => some ⟨some (x, c.next), c.next + 1⟩
  | some _ => none

/-- Conditional replacement, `If-Match: etag`. -/
def replace (c : Cell α) (etag : ℕ) (x : α) : Option (Cell α) :=
  if c.content.map Prod.snd = some etag then some ⟨some (x, c.next), c.next + 1⟩ else none

/-- Conditional deletion, `If-Match: etag`. -/
def delete (c : Cell α) (etag : ℕ) : Option (Cell α) :=
  if c.content.map Prod.snd = some etag then some ⟨none, c.next⟩ else none

/-- The token of the value was drawn before the next unused one. -/
def Valid (c : Cell α) : Prop := ∀ p ∈ c.content, p.2 < c.next

/-- A copy with its token that was read from the cell at some time: the token
is drawn, and the cell holds it with no other value. -/
def Remembers (c : Cell α) (copy : α × ℕ) : Prop :=
  copy.2 < c.next ∧ ∀ p ∈ c.content, p.2 = copy.2 → p = copy

variable {c d : Cell α} {x : α} {etag : ℕ} {copy : α × ℕ}

theorem valid_empty : (empty : Cell α).Valid := by
  intro p hp
  cases hp

/-- What a successful creation did. -/
theorem create_some (h : c.create x = some d) :
    c.content = none ∧ d = ⟨some (x, c.next), c.next + 1⟩ := by
  unfold create at h
  cases hc : c.content with
  | none =>
    rw [hc] at h
    exact ⟨rfl, (Option.some.inj h).symm⟩
  | some p =>
    rw [hc] at h
    cases h

/-- What a successful replacement did. -/
theorem replace_some (h : c.replace etag x = some d) :
    (∃ y, c.content = some (y, etag)) ∧ d = ⟨some (x, c.next), c.next + 1⟩ := by
  unfold replace at h
  split at h
  · rename_i he
    obtain ⟨p, hp, rfl⟩ := Option.map_eq_some_iff.mp he
    exact ⟨⟨p.1, hp⟩, (Option.some.inj h).symm⟩
  · cases h

/-- What a successful deletion did. -/
theorem delete_some (h : c.delete etag = some d) :
    (∃ y, c.content = some (y, etag)) ∧ d = ⟨none, c.next⟩ := by
  unfold delete at h
  split at h
  · rename_i he
    obtain ⟨p, hp, rfl⟩ := Option.map_eq_some_iff.mp he
    exact ⟨⟨p.1, hp⟩, (Option.some.inj h).symm⟩
  · cases h

theorem Valid.create (h : c.create x = some d) : d.Valid := by
  obtain ⟨-, rfl⟩ := create_some h
  intro p hp
  cases hp
  exact Nat.lt_succ_self _

theorem Valid.replace (h : c.replace etag x = some d) : d.Valid := by
  obtain ⟨-, rfl⟩ := replace_some h
  intro p hp
  cases hp
  exact Nat.lt_succ_self _

theorem Valid.delete (h : c.delete etag = some d) : d.Valid := by
  obtain ⟨-, rfl⟩ := delete_some h
  intro p hp
  cases hp

/-- What a reader just read is remembered. -/
theorem remembers_read (hv : c.Valid) (h : c.content = some copy) : c.Remembers copy := by
  refine ⟨hv copy h, fun p hp _ => ?_⟩
  rw [Option.mem_def, h] at hp
  exact (Option.some.inj hp).symm

/-- A write never brings an old token back. -/
theorem remembers_written (hr : c.Remembers copy) :
    (⟨some (x, c.next), c.next + 1⟩ : Cell α).Remembers copy := by
  refine ⟨Nat.lt_succ_of_lt hr.1, fun p hp he => ?_⟩
  cases hp
  exact absurd he (Nat.ne_of_gt hr.1)

theorem Remembers.create (hr : c.Remembers copy) (h : c.create x = some d) :
    d.Remembers copy := by
  obtain ⟨-, rfl⟩ := create_some h
  exact remembers_written hr

theorem Remembers.replace (hr : c.Remembers copy) (h : c.replace etag x = some d) :
    d.Remembers copy := by
  obtain ⟨-, rfl⟩ := replace_some h
  exact remembers_written hr

theorem Remembers.delete (hr : c.Remembers copy) (h : c.delete etag = some d) :
    d.Remembers copy := by
  obtain ⟨-, rfl⟩ := delete_some h
  refine ⟨hr.1, fun p hp _ => ?_⟩
  cases hp

/-- A conditional replacement under a remembered token replaces exactly the
remembered copy. -/
theorem Remembers.replaced (hr : c.Remembers copy) (h : c.replace copy.2 x = some d) :
    c.content = some copy := by
  obtain ⟨⟨y, hy⟩, -⟩ := replace_some h
  rw [hy, hr.2 (y, copy.2) hy rfl]

/-- A conditional deletion under a remembered token deletes exactly the
remembered copy. -/
theorem Remembers.deleted (hr : c.Remembers copy) (h : c.delete copy.2 = some d) :
    c.content = some copy := by
  obtain ⟨⟨y, hy⟩, -⟩ := delete_some h
  rw [hy, hr.2 (y, copy.2) hy rfl]

/-- A cell that was left as it is, created, replaced or deleted. -/
inductive Evolves (c : Cell α) : Cell α → Prop
  | same : Evolves c c
  | created {x : α} {d : Cell α} (h : c.create x = some d) : Evolves c d
  | replaced {etag : ℕ} {x : α} {d : Cell α} (h : c.replace etag x = some d) : Evolves c d
  | deleted {etag : ℕ} {d : Cell α} (h : c.delete etag = some d) : Evolves c d

theorem Evolves.valid (hv : c.Valid) (he : Evolves c d) : d.Valid := by
  cases he with
  | same => exact hv
  | created h => exact Valid.create h
  | replaced h => exact Valid.replace h
  | deleted h => exact Valid.delete h

theorem Evolves.remembers (hr : c.Remembers copy) (he : Evolves c d) : d.Remembers copy := by
  cases he with
  | same => exact hr
  | created h => exact hr.create h
  | replaced h => exact hr.replace h
  | deleted h => exact hr.delete h

/-- Tokens are drawn in order. -/
theorem Evolves.next_le (he : Evolves c d) : c.next ≤ d.next := by
  cases he with
  | same => exact Nat.le_refl _
  | created h =>
    rw [(create_some h).2]
    exact Nat.le_succ _
  | replaced h =>
    rw [(replace_some h).2]
    exact Nat.le_succ _
  | deleted h =>
    have hd := (delete_some h).2
    subst hd
    exact Nat.le_refl _

/-! ## Merging and unreliable writes -/

/-- Conditional update that merges into the stored value. -/
def merge (c : Cell α) (etag : ℕ) (f : α → α) : Option (Cell α) :=
  match c.content with
  | none => none
  | some (y, _) => c.replace etag (f y)

/-- What a successful merge did. -/
theorem merge_some {f : α → α} (h : c.merge etag f = some d) :
    ∃ y, c.content = some (y, etag) ∧ d = ⟨some (f y, c.next), c.next + 1⟩ ∧
      c.replace etag (f y) = some d := by
  unfold merge at h
  cases hc : c.content with
  | none =>
    rw [hc] at h
    cases h
  | some p =>
    rw [hc] at h
    obtain ⟨⟨y, hy⟩, hd⟩ := replace_some h
    have hp : p = (y, etag) := Option.some.inj (hc.symm.trans hy)
    rw [hp] at hd h ⊢
    exact ⟨y, rfl, hd, h⟩

/-- How a write request goes: it is answered; it fails, and may or may not have
taken effect; or the client repeats it after its first attempt took effect, and
is refused. -/
inductive Fault
  | answered
  | failed (applied : Bool)
  | repeated
  deriving DecidableEq, Repr

/-- What the caller of a write learns. -/
inductive Answer
  | written (etag : ℕ)
  | refused
  | failed
  deriving DecidableEq, Repr

/-- Whether an accepted write takes effect. -/
def Fault.applies : Fault → Bool
  | .answered => true
  | .failed applied => applied
  | .repeated => true

/-- The cell after a write request. -/
def attempt (c : Cell α) (written : Option (Cell α)) (fault : Fault) : Cell α :=
  if fault.applies then written.getD c else c

/-- The answer to a write request. -/
def answer (c : Cell α) (written : Option (Cell α)) : Fault → Answer
  | .answered => if written.isSome then .written c.next else .refused
  | .failed _ => .failed
  | .repeated => .refused

/-- A write request takes full effect or none. -/
theorem attempt_cases (c : Cell α) (written : Option (Cell α)) (fault : Fault) :
    (c.attempt written fault = c ∧ ∀ etag, c.answer written fault ≠ .written etag) ∨
      (written = some (c.attempt written fault) ∧
        ∀ etag, c.answer written fault = .written etag → etag = c.next) := by
  cases written with
  | none =>
    left
    refine ⟨?_, fun etag h => ?_⟩
    · unfold attempt
      split <;> rfl
    · cases fault <;> cases h
  | some d =>
    cases fault with
    | answered =>
      right
      refine ⟨rfl, fun etag h => ?_⟩
      exact (Answer.written.inj h).symm
    | failed applied =>
      cases applied with
      | false =>
        left
        refine ⟨rfl, fun etag h => ?_⟩
        cases h
      | true =>
        right
        refine ⟨rfl, fun etag h => ?_⟩
        cases h
    | repeated =>
      right
      refine ⟨rfl, fun etag h => ?_⟩
      cases h

end Cell

end AthenaContext.ConditionalStores
