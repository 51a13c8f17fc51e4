import Mathlib

/-!
# Transition systems

Labelled transition systems over arbitrary states and labels, their reachable
states, and the induction rule that every safety property below rests on: what
holds initially and is kept by every step holds of every reachable state. A
guard on the labels gives the runs all of whose steps meet a condition.
-/

namespace AthenaContext.TransitionSystems

variable {σ α : Type*}

/-- Initial states and labelled steps. -/
structure TransitionSystem (σ α : Type*) where
  init : σ → Prop
  step : σ → α → σ → Prop

namespace TransitionSystem

variable (T : TransitionSystem σ α)

/-- States that some run from an initial state ends in. -/
inductive Reachable : σ → Prop
  | start {s : σ} : T.init s → Reachable s
  | next {s t : σ} {a : α} : Reachable s → T.step s a t → Reachable t

variable {T}

/-- What holds initially and is kept by every step from a reachable state
holds of every reachable state. -/
theorem Reachable.invariant {P : σ → Prop} (hinit : ∀ s, T.init s → P s)
    (hstep : ∀ s a t, T.Reachable s → P s → T.step s a t → P t) {s : σ} (h : T.Reachable s) :
    P s := by
  induction h with
  | start h => exact hinit _ h
  | next hr hs ih => exact hstep _ _ _ hr ih hs

/-- The runs of a system whose steps all meet a condition. -/
def guarded (T : TransitionSystem σ α) (condition : σ → α → Prop) : TransitionSystem σ α where
  init := T.init
  step s a t := condition s a ∧ T.step s a t

/-- A guard removes runs and adds none. -/
theorem Reachable.of_guarded {condition : σ → α → Prop} {s : σ}
    (h : (T.guarded condition).Reachable s) : T.Reachable s := by
  induction h with
  | start h => exact .start h
  | next _ hs ih => exact .next ih hs.2

/-- A guard that every step meets removes no run. -/
theorem Reachable.guarded_of_forall {condition : σ → α → Prop} (hall : ∀ s a, condition s a)
    {s : σ} (h : T.Reachable s) : (T.guarded condition).Reachable s := by
  induction h with
  | start h => exact .start h
  | next _ hs ih => exact .next ih ⟨hall _ _, hs⟩

end TransitionSystem

/-- A system whose steps are computed: `none` refuses the label. -/
def ofStep (init : σ) (step : σ → α → Option σ) : TransitionSystem σ α where
  init s := s = init
  step s a t := step s a = some t

/-- The state after a list of labels, when none of them is refused. -/
def runSteps (step : σ → α → Option σ) : σ → List α → Option σ
  | s, [] => some s
  | s, a :: rest => (step s a).bind fun t => runSteps step t rest

/-- A computed run from a reachable state ends in a reachable state. -/
theorem reachable_runSteps {init : σ} {step : σ → α → Option σ} (labels : List α) :
    ∀ {s t : σ}, (ofStep init step).Reachable s → runSteps step s labels = some t →
      (ofStep init step).Reachable t := by
  induction labels with
  | nil =>
    intro s t hs ht
    cases ht
    exact hs
  | cons a rest ih =>
    intro s t hs ht
    obtain ⟨u, hu, ht⟩ := Option.bind_eq_some_iff.mp ht
    exact ih (.next hs hu) ht

/-- A computed run all of whose labels meet the condition ends in a state that
the guarded system reaches. -/
theorem reachable_runSteps_guarded {init : σ} {step : σ → α → Option σ} {condition : σ → α → Bool}
    (labels : List α) :
    ∀ {s t : σ}, ((ofStep init step).guarded fun s a => condition s a = true).Reachable s →
      runSteps (fun s a => if condition s a then step s a else none) s labels = some t →
      ((ofStep init step).guarded fun s a => condition s a = true).Reachable t := by
  induction labels with
  | nil =>
    intro s t hs ht
    cases ht
    exact hs
  | cons a rest ih =>
    intro s t hs ht
    obtain ⟨u, hu, ht⟩ := Option.bind_eq_some_iff.mp ht
    dsimp only at hu
    split at hu
    · rename_i hc
      exact ih (.next hs ⟨hc, hu⟩) ht
    · cases hu

/-- The state after a list of labels, when none of them is refused and all meet the
condition. -/
def runGuarded (step : σ → α → Option σ) (condition : σ → α → Prop)
    [∀ s a, Decidable (condition s a)] : σ → List α → Option σ
  | s, [] => some s
  | s, a :: rest =>
    if condition s a then (step s a).bind fun t => runGuarded step condition t rest else none

/-- A computed run under a condition ends in a state that the guarded system reaches. -/
theorem reachable_runGuarded {init : σ} {step : σ → α → Option σ} {condition : σ → α → Prop}
    [∀ s a, Decidable (condition s a)] (labels : List α) :
    ∀ {s t : σ}, ((ofStep init step).guarded condition).Reachable s →
      runGuarded step condition s labels = some t →
      ((ofStep init step).guarded condition).Reachable t := by
  induction labels with
  | nil =>
    intro s t hs ht
    cases ht
    exact hs
  | cons a rest ih =>
    intro s t hs ht
    unfold runGuarded at ht
    split at ht
    · rename_i hc
      obtain ⟨u, hu, ht⟩ := Option.bind_eq_some_iff.mp ht
      exact ih (.next hs ⟨hc, hu⟩) ht
    · cases ht

end AthenaContext.TransitionSystems
