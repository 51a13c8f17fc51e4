import Mathlib

/-!
# Bounds of thresholds

A value between two limits of a linear order, each open or closed or missing. Tightening a
limit by a threshold leaves exactly the values that pass the threshold too, and the two
limits are uncrossed exactly when some value is between them.
-/

namespace AthenaContext.ThresholdBounds

open OrderDual

/-- A limit: its value, and whether the value itself is allowed. -/
structure Limit (α : Type*) where
  value : Option α
  inclusive : Bool

namespace Limit

/-- No limit. -/
def free {α : Type*} : Limit α := ⟨none, true⟩

variable {α : Type*} [LinearOrder α]

/-- A value above a threshold, or at it where it is inclusive. -/
def Passes (threshold : α) (inclusive : Bool) (x : α) : Prop :=
  threshold < x ∨ (inclusive = true ∧ threshold = x)

/-- A value that a limit from below allows. -/
def Allows (l : Limit α) (x : α) : Prop := ∀ v, l.value = some v → Passes v l.inclusive x

/-- A limit and a further threshold. -/
def tighten (l : Limit α) (threshold : α) (inclusive : Bool) : Limit α :=
  match l.value with
  | none => ⟨some threshold, inclusive⟩
  | some v =>
    if v < threshold then ⟨some threshold, inclusive⟩
    else if threshold = v then ⟨some v, l.inclusive && inclusive⟩
    else l

variable {l : Limit α} {threshold x : α} {inclusive : Bool}

theorem allows_free : (free : Limit α).Allows x := by
  intro v hv
  cases hv

theorem allows_of_none (h : l.value = none) : l.Allows x := by
  intro v hv
  rw [h] at hv
  cases hv

theorem allows_of_some {v : α} (h : l.value = some v) : l.Allows x ↔ Passes v l.inclusive x := by
  constructor
  · intro hall
    exact hall v h
  · intro hpass w hw
    rw [h] at hw
    cases hw
    exact hpass

/-- A threshold that a value passes lies below it. -/
theorem Passes.le (h : Passes threshold inclusive x) : threshold ≤ x := by
  rcases h with hlt | ⟨-, heq⟩
  · exact hlt.le
  · exact heq.le

/-- A value above a higher threshold passes a lower one. -/
theorem Passes.of_lt {v : α} {other : Bool} (h : Passes threshold inclusive x) (hv : v < threshold) :
    Passes v other x := .inl (hv.trans_le h.le)

/-- Two thresholds at one value are inclusive together. -/
theorem passes_and {other : Bool} : Passes threshold (inclusive && other) x ↔
    Passes threshold inclusive x ∧ Passes threshold other x := by
  unfold Passes
  rw [Bool.and_eq_true]
  constructor
  · rintro (hlt | ⟨⟨hinclusive, hother⟩, heq⟩)
    · exact ⟨.inl hlt, .inl hlt⟩
    · exact ⟨.inr ⟨hinclusive, heq⟩, .inr ⟨hother, heq⟩⟩
  · rintro ⟨hlt | ⟨hinclusive, heq⟩, hpass⟩
    · exact .inl hlt
    · rcases hpass with hlt | ⟨hother, -⟩
      · exact .inl hlt
      · exact .inr ⟨⟨hinclusive, hother⟩, heq⟩

/-- A tightened limit allows what the limit allows and the threshold passes. -/
theorem allows_tighten :
    (l.tighten threshold inclusive).Allows x ↔ l.Allows x ∧ Passes threshold inclusive x := by
  unfold tighten
  cases hvalue : l.value with
  | none =>
    have hnew := allows_of_some (l := ⟨some threshold, inclusive⟩) (x := x) rfl
    exact hnew.trans ⟨fun h => ⟨allows_of_none hvalue, h⟩, fun h => h.2⟩
  | some v =>
    rw [allows_of_some hvalue]
    dsimp only
    split
    · rename_i hlt
      have hnew := allows_of_some (l := ⟨some threshold, inclusive⟩) (x := x) rfl
      exact hnew.trans ⟨fun h => ⟨h.of_lt hlt, h⟩, fun h => h.2⟩
    · rename_i hge
      split
      · rename_i heq
        subst heq
        exact (allows_of_some rfl).trans passes_and
      · rename_i hne
        have hlt : threshold < v := lt_of_le_of_ne (not_lt.mp hge) hne
        exact (allows_of_some hvalue).trans ⟨fun h => ⟨h, h.of_lt hlt⟩, fun h => h.1⟩

end Limit

/-- A limit from below, and one from above. -/
structure Bounds (α : Type*) where
  lower : Limit α
  upper : Limit αᵒᵈ

namespace Bounds

/-- No bounds. -/
def free {α : Type*} : Bounds α := ⟨.free, .free⟩

variable {α : Type*} [LinearOrder α]

/-- A value between the limits. -/
def Contains (b : Bounds α) (x : α) : Prop := b.lower.Allows x ∧ b.upper.Allows (toDual x)

/-- The limits leave nothing between them. -/
def isCrossed (b : Bounds α) : Bool :=
  match b.lower.value, b.upper.value with
  | some lower, some upper =>
    decide (ofDual upper < lower) ||
      (decide (lower = ofDual upper) && !(b.lower.inclusive && b.upper.inclusive))
  | _, _ => false

variable {b : Bounds α}

theorem contains_free {x : α} : (free : Bounds α).Contains x :=
  ⟨Limit.allows_free, Limit.allows_free⟩

/-- In a dense order without ends, uncrossed limits have a value between them. -/
theorem isCrossed_eq_false_iff [DenselyOrdered α] [NoMinOrder α] [NoMaxOrder α] [Nonempty α] :
    b.isCrossed = false ↔ ∃ x, b.Contains x := by
  unfold isCrossed
  cases hlower : b.lower.value with
  | none =>
    refine iff_of_true rfl ?_
    cases hupper : b.upper.value with
    | none =>
      obtain ⟨x⟩ := ‹Nonempty α›
      exact ⟨x, Limit.allows_of_none hlower, Limit.allows_of_none hupper⟩
    | some upper =>
      obtain ⟨x, hx⟩ := exists_lt (ofDual upper)
      exact ⟨x, Limit.allows_of_none hlower, (Limit.allows_of_some hupper).mpr (.inl hx)⟩
  | some lower =>
    cases hupper : b.upper.value with
    | none =>
      obtain ⟨x, hx⟩ := exists_gt lower
      exact iff_of_true rfl
        ⟨x, (Limit.allows_of_some hlower).mpr (.inl hx), Limit.allows_of_none hupper⟩
    | some upper =>
      dsimp only
      rw [Bool.or_eq_false_iff, decide_eq_false_iff_not, not_lt, Bool.and_eq_false_iff,
        decide_eq_false_iff_not, Bool.not_eq_false', Bool.and_eq_true]
      constructor
      · rintro ⟨hle, hends⟩
        rcases hends with hne | ⟨hleft, hright⟩
        · obtain ⟨x, hleft, hright⟩ := exists_between (lt_of_le_of_ne hle hne)
          exact ⟨x, (Limit.allows_of_some hlower).mpr (.inl hleft),
            (Limit.allows_of_some hupper).mpr (.inl hright)⟩
        · rcases hle.lt_or_eq with hlt | heq
          · obtain ⟨x, hleft, hright⟩ := exists_between hlt
            exact ⟨x, (Limit.allows_of_some hlower).mpr (.inl hleft),
              (Limit.allows_of_some hupper).mpr (.inl hright)⟩
          · exact ⟨lower, (Limit.allows_of_some hlower).mpr (.inr ⟨hleft, rfl⟩),
              (Limit.allows_of_some hupper).mpr (.inr ⟨hright, congrArg toDual heq.symm⟩)⟩
      · rintro ⟨x, hx, hx'⟩
        have hleft := (Limit.allows_of_some hlower).mp hx
        have hright := (Limit.allows_of_some hupper).mp hx'
        have hbelow : x ≤ ofDual upper := hright.le
        refine ⟨hleft.le.trans hbelow, ?_⟩
        by_cases heq : lower = ofDual upper
        · right
          have hxlower : lower = x := le_antisymm hleft.le (heq ▸ hbelow)
          have hxupper : ofDual upper = x := heq ▸ hxlower
          constructor
          · rcases hleft with hlt | ⟨hinclusive, -⟩
            · exact absurd hxlower hlt.ne
            · exact hinclusive
          · rcases hright with hlt | ⟨hinclusive, -⟩
            · exact absurd hxupper (ne_of_gt hlt)
            · exact hinclusive
        · exact .inl heq

end Bounds

end AthenaContext.ThresholdBounds
