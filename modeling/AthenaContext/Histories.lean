import AthenaContext.TransitionSystems
import Mathlib

/-!
# Histories

A run of a transition system with all its states and labels, counted from the start. A
property of a reachable state is an invariant; what relates two states of one run, or a state
to the step that led to it, is stated over a history.
-/

namespace AthenaContext.Histories

open TransitionSystems

variable {σ α β : Type*}

/-- The states and labels of a run of some length. -/
structure History (T : TransitionSystem σ α) where
  length : ℕ
  state : ℕ → σ
  event : ℕ → α
  starts : T.init (state 0)
  steps : ∀ i < length, T.step (state i) (event i) (state (i + 1))

/-- The states that a function goes through with the labels of a run. -/
def states (next : σ → α → σ) (s : σ) (event : ℕ → α) : ℕ → σ
  | 0 => s
  | i + 1 => next (states next s event i) (event i)

namespace History

variable {T : TransitionSystem σ α} {H : History T} {i j : ℕ}

theorem reachable (H : History T) (hi : i ≤ H.length) : T.Reachable (H.state i) := by
  induction i with
  | zero => exact .start H.starts
  | succ i ih => exact .next (ih (by omega)) (H.steps i (by omega))

/-- Every two states are joined by the steps between them. -/
theorem path {R : β → β → Prop} {f : σ → β} (hstep : ∀ s a t, T.step s a t → R (f s) (f t))
    (hij : i ≤ j) (hj : j ≤ H.length) : Relation.ReflTransGen R (f (H.state i)) (f (H.state j)) := by
  induction j, hij using Nat.le_induction with
  | base => exact .refl
  | succ j hij ih =>
    have hlast := hstep _ _ _ (H.steps j (by omega))
    exact (ih (by omega)).tail hlast

/-- What every step of a run keeps holds from a state on. -/
theorem kept {P : σ → Prop} (hstep : ∀ s a t, T.Reachable s → T.step s a t → P s → P t)
    (hij : i ≤ j) (hj : j ≤ H.length) (h : P (H.state i)) : P (H.state j) := by
  induction j, hij using Nat.le_induction with
  | base => exact h
  | succ j hij ih =>
    have hbefore := ih (by omega)
    exact hstep _ _ _ (H.reachable (by omega)) (H.steps j (by omega)) hbefore

/-- What does not hold at the start entered at some step. -/
theorem entered {P : σ → Prop} (hstart : ∀ s, T.init s → ¬ P s) (hj : j ≤ H.length)
    (h : P (H.state j)) : ∃ i < j, ¬ P (H.state i) ∧ P (H.state (i + 1)) := by
  induction j with
  | zero => exact absurd h (hstart _ H.starts)
  | succ j ih =>
    by_cases hbefore : P (H.state j)
    · obtain ⟨i, hi, hentered⟩ := ih (by omega) hbefore
      exact ⟨i, by omega, hentered⟩
    · exact ⟨j, by omega, hbefore, h⟩

end History

end AthenaContext.Histories
