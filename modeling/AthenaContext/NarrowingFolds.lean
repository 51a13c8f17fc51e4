import AthenaContext.FallibleResults
import Mathlib

/-!
# Folds that narrow

A fold over requirements whose state stands for the values that each of several variables
may still take, and which fails when a variable is left without one. Such a fold succeeds
exactly when every variable has a value that meets all its requirements, so the order of the
requirements does not matter.
-/

namespace AthenaContext.NarrowingFolds


variable {σ ι ε κ : Type} {V : κ → Type}

/-- Each step keeps what holds of the states, narrows every variable to what the requirement
admits, and succeeds exactly when every variable keeps a value. -/
structure Narrows (step : σ → ι → Except ε σ) (holds : σ → Prop) (proper : ι → Prop)
    (allowed : σ → (k : κ) → Set (V k)) (admitted : ι → (k : κ) → Set (V k)) : Prop where
  keeps : ∀ s i s', holds s → proper i → step s i = .ok s' →
    holds s' ∧ ∀ k, allowed s' k = allowed s k ∩ admitted i k
  succeeds : ∀ s i, holds s → proper i → (∀ k, (allowed s k).Nonempty) →
    ((∃ s', step s i = .ok s') ↔ ∀ k, (allowed s k ∩ admitted i k).Nonempty)

/-- The values that meet all requirements. -/
def admittedByAll (admitted : ι → (k : κ) → Set (V k)) (items : List ι) (k : κ) : Set (V k) :=
  { v | ∀ i ∈ items, v ∈ admitted i k }

variable {step : σ → ι → Except ε σ} {holds : σ → Prop} {proper : ι → Prop}
  {allowed : σ → (k : κ) → Set (V k)} {admitted : ι → (k : κ) → Set (V k)}

theorem admittedByAll_cons {i : ι} {items : List ι} {k : κ} :
    admittedByAll admitted (i :: items) k = admitted i k ∩ admittedByAll admitted items k := by
  ext v
  exact List.forall_mem_cons

/-- The fold succeeds exactly when every variable keeps a value that meets all requirements. -/
theorem Narrows.foldlM_ok_iff (h : Narrows step holds proper allowed admitted) {items : List ι}
    {s : σ} (hs : holds s) (hitems : ∀ i ∈ items, proper i) (hne : ∀ k, (allowed s k).Nonempty) :
    (∃ s', items.foldlM step s = .ok s') ↔
      ∀ k, (allowed s k ∩ admittedByAll admitted items k).Nonempty := by
  induction items generalizing s with
  | nil =>
    refine iff_of_true ⟨s, rfl⟩ fun k => ?_
    obtain ⟨v, hv⟩ := hne k
    exact ⟨v, hv, fun i hi => absurd hi List.not_mem_nil⟩
  | cons i items ih =>
    obtain ⟨hi, hrest⟩ := List.forall_mem_cons.mp hitems
    simp only [List.foldlM_cons, admittedByAll_cons, ← Set.inter_assoc]
    cases hstep : step s i with
    | error e =>
      refine iff_of_false ?_ fun hall => ?_
      · rintro ⟨s', hs'⟩
        cases hs'
      · have hnone : ¬ ∃ s', step s i = .ok s' := by
          rintro ⟨s', hs'⟩
          rw [hstep] at hs'
          cases hs'
        refine hnone ((h.succeeds s i hs hi hne).mpr fun k => ?_)
        obtain ⟨v, hv, -⟩ := hall k
        exact ⟨v, hv⟩
    | ok s' =>
      obtain ⟨hs', hallowed⟩ := h.keeps s i s' hs hi hstep
      have hne' : ∀ k, (allowed s' k).Nonempty := by
        intro k
        rw [hallowed]
        exact (h.succeeds s i hs hi hne).mp ⟨s', hstep⟩ k
      refine (ih hs' hrest hne').trans (forall_congr' fun k => ?_)
      rw [hallowed]

end AthenaContext.NarrowingFolds
