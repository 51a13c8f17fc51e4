import Mathlib

/-!
# Programs that call ports

A run of a program leaves an outcome and the port calls it made, in order. The outcome is a
value, an exception, or nothing where a bounded loop did not come to its end. Every port
call has its own answer, whatever that answer depended on.
-/

namespace AthenaContext.PortPrograms

/-- What is left of a run. -/
inductive Outcome (E α : Type)
  | returned (a : α)
  | raised (e : E)
  | unfinished
  deriving DecidableEq, Repr

/-- A run: its outcome and its port calls. -/
structure Run (C E α : Type) where
  outcome : Outcome E α
  calls : List C
  deriving DecidableEq, Repr

variable {C E α β : Type}

namespace Run

/-- A computation without port calls. -/
def ofExcept : Except E α → Run C E α
  | .ok a => ⟨.returned a, []⟩
  | .error e => ⟨.raised e, []⟩

/-- A loop that did not end within its bound. -/
def unfinished : Run C E α := ⟨.unfinished, []⟩

/-- One call of a port. -/
def call (c : C) (answer : Except E α) : Run C E α := ⟨(ofExcept (C := C) answer).outcome, [c]⟩

/-- The second program runs on the value of the first one. -/
def bind (m : Run C E α) (f : α → Run C E β) : Run C E β :=
  match m.outcome with
  | .returned a => ⟨(f a).outcome, m.calls ++ (f a).calls⟩
  | .raised e => ⟨.raised e, m.calls⟩
  | .unfinished => ⟨.unfinished, m.calls⟩

instance : Monad (Run C E) where
  pure a := ⟨.returned a, []⟩
  bind := Run.bind

/-- `raise`. -/
def raise (e : E) : Run C E α := ofExcept (.error e)

/-- `if not p: raise`. -/
def ensure (p : Prop) [Decidable p] (e : E) : Run C E Unit := if p then pure () else raise e

/-- `try: m except: raise`, with another exception in the place of the one that was raised. -/
def translate (t : E → E) (m : Run C E α) : Run C E α :=
  match m.outcome with
  | .raised e => ⟨.raised (t e), m.calls⟩
  | _ => m

/-- `try: m except: handler`, where the handler answers the exceptions it knows. -/
def handle (m : Run C E α) (handler : E → Option (Run C E α)) : Run C E α :=
  match m.outcome with
  | .raised e => (handler e).elim m fun r => ⟨r.outcome, m.calls ++ r.calls⟩
  | _ => m

/-! ## Outcomes -/

@[simp] theorem pure_outcome (a : α) : (pure a : Run C E α).outcome = .returned a := rfl

@[simp] theorem pure_calls (a : α) : (pure a : Run C E α).calls = [] := rfl

@[simp] theorem raise_outcome (e : E) : (raise e : Run C E α).outcome = .raised e := rfl

@[simp] theorem ofExcept_calls (x : Except E α) : (ofExcept x : Run C E α).calls = [] := by
  cases x <;> rfl

@[simp] theorem call_calls (c : C) (x : Except E α) : (call c x).calls = [c] := rfl

theorem bind_of_returned {m : Run C E α} {f : α → Run C E β} {a : α}
    (h : m.outcome = .returned a) :
    m >>= f = ⟨(f a).outcome, m.calls ++ (f a).calls⟩ := by
  change Run.bind m f = _
  rw [Run.bind, h]

theorem bind_of_raised {m : Run C E α} {f : α → Run C E β} {e : E}
    (h : m.outcome = .raised e) : m >>= f = ⟨.raised e, m.calls⟩ := by
  change Run.bind m f = _
  rw [Run.bind, h]

theorem bind_of_unfinished {m : Run C E α} {f : α → Run C E β}
    (h : m.outcome = .unfinished) : m >>= f = ⟨.unfinished, m.calls⟩ := by
  change Run.bind m f = _
  rw [Run.bind, h]

@[simp] theorem ofExcept_returned_iff {x : Except E α} {a : α} :
    (ofExcept x : Run C E α).outcome = .returned a ↔ x = .ok a := by
  cases x <;> simp [ofExcept]

@[simp] theorem ofExcept_raised_iff {x : Except E α} {e : E} :
    (ofExcept x : Run C E α).outcome = .raised e ↔ x = .error e := by
  cases x <;> simp [ofExcept]

@[simp] theorem call_returned_iff {c : C} {x : Except E α} {a : α} :
    (call c x).outcome = .returned a ↔ x = .ok a := by
  simp [call]

@[simp] theorem call_raised_iff {c : C} {x : Except E α} {e : E} :
    (call c x).outcome = .raised e ↔ x = .error e := by
  simp [call]

@[simp] theorem bind_returned_iff {m : Run C E α} {f : α → Run C E β} {b : β} :
    (m >>= f).outcome = .returned b ↔
      ∃ a, m.outcome = .returned a ∧ (f a).outcome = .returned b := by
  cases h : m.outcome with
  | returned a => simp [bind_of_returned h]
  | raised e => simp [bind_of_raised h]
  | unfinished => simp [bind_of_unfinished h]

theorem bind_raised_iff {m : Run C E α} {f : α → Run C E β} {e : E} :
    (m >>= f).outcome = .raised e ↔
      m.outcome = .raised e ∨ ∃ a, m.outcome = .returned a ∧ (f a).outcome = .raised e := by
  cases h : m.outcome with
  | returned a => simp [bind_of_returned h]
  | raised e => simp [bind_of_raised h]
  | unfinished => simp [bind_of_unfinished h]

@[simp] theorem ensure_returned_iff {p : Prop} [Decidable p] {e : E} {u : Unit} :
    (ensure p e : Run C E Unit).outcome = .returned u ↔ p := by
  unfold ensure
  by_cases h : p <;> simp [h]

@[simp] theorem ensure_calls {p : Prop} [Decidable p] {e : E} :
    (ensure p e : Run C E Unit).calls = [] := by
  unfold ensure
  by_cases h : p <;> simp [h, raise]

@[simp] theorem translate_calls (t : E → E) (m : Run C E α) : (translate t m).calls = m.calls := by
  unfold translate
  cases m.outcome <;> rfl

@[simp] theorem translate_returned_iff {t : E → E} {m : Run C E α} {a : α} :
    (translate t m).outcome = .returned a ↔ m.outcome = .returned a := by
  unfold translate
  cases h : m.outcome <;> simp [h]

theorem translate_raised_iff {t : E → E} {m : Run C E α} {e : E} :
    (translate t m).outcome = .raised e ↔ ∃ e', m.outcome = .raised e' ∧ t e' = e := by
  unfold translate
  cases h : m.outcome <;> simp [h]

theorem handle_of_returned {m : Run C E α} {handler : E → Option (Run C E α)} {a : α}
    (h : m.outcome = .returned a) : handle m handler = m := by
  rw [handle, h]

theorem handle_of_unfinished {m : Run C E α} {handler : E → Option (Run C E α)}
    (h : m.outcome = .unfinished) : handle m handler = m := by
  rw [handle, h]

theorem handle_of_raised {m : Run C E α} {handler : E → Option (Run C E α)} {e : E}
    (h : m.outcome = .raised e) :
    handle m handler = (handler e).elim m fun r => ⟨r.outcome, m.calls ++ r.calls⟩ := by
  rw [handle, h]

/-! ## Calls of a run -/

/-- After the calls of the first program come those of the second, if it runs. -/
theorem exists_bind_calls (m : Run C E α) (f : α → Run C E β) :
    ∃ rest, (m >>= f).calls = m.calls ++ rest ∧
      (rest = [] ∨ ∃ a, m.outcome = .returned a ∧ rest = (f a).calls) := by
  cases h : m.outcome with
  | returned a => exact ⟨(f a).calls, by rw [bind_of_returned h], Or.inr ⟨a, rfl, rfl⟩⟩
  | raised e => exact ⟨[], by rw [bind_of_raised h, List.append_nil], Or.inl rfl⟩
  | unfinished => exact ⟨[], by rw [bind_of_unfinished h, List.append_nil], Or.inl rfl⟩

/-- Every call of the run has the property. -/
def CallsOnly (p : C → Prop) (m : Run C E α) : Prop := ∀ c ∈ m.calls, p c

@[simp] theorem callsOnly_pure {p : C → Prop} {a : α} : CallsOnly p (pure a : Run C E α) := by
  simp [CallsOnly]

@[simp] theorem callsOnly_ofExcept {p : C → Prop} {x : Except E α} :
    CallsOnly p (ofExcept x : Run C E α) := by
  simp [CallsOnly]

@[simp] theorem callsOnly_raise {p : C → Prop} {e : E} : CallsOnly p (raise e : Run C E α) :=
  callsOnly_ofExcept

@[simp] theorem callsOnly_unfinished {p : C → Prop} : CallsOnly p (unfinished : Run C E α) := by
  simp [CallsOnly, unfinished]

@[simp] theorem callsOnly_ensure {p : C → Prop} {q : Prop} [Decidable q] {e : E} :
    CallsOnly p (ensure q e : Run C E Unit) := by
  simp [CallsOnly]

@[simp] theorem callsOnly_call {p : C → Prop} {c : C} {x : Except E α} :
    CallsOnly p (call c x) ↔ p c := by
  simp [CallsOnly]

@[simp] theorem callsOnly_translate {p : C → Prop} {t : E → E} {m : Run C E α} :
    CallsOnly p (translate t m) ↔ CallsOnly p m := by
  simp [CallsOnly]

theorem CallsOnly.bind {p : C → Prop} {m : Run C E α} {f : α → Run C E β} (hm : CallsOnly p m)
    (hf : ∀ a, m.outcome = .returned a → CallsOnly p (f a)) : CallsOnly p (m >>= f) := by
  cases h : m.outcome with
  | returned a =>
    rw [bind_of_returned h]
    exact List.forall_mem_append.mpr ⟨hm, hf a h⟩
  | raised e =>
    rw [bind_of_raised h]
    exact hm
  | unfinished =>
    rw [bind_of_unfinished h]
    exact hm

/-! ## Confined exceptions -/

/-- Every exception that leaves the run has the property. -/
def Confined (p : E → Prop) (m : Run C E α) : Prop := ∀ e, m.outcome = .raised e → p e

variable {p : E → Prop}

@[simp] theorem confined_pure {a : α} : Confined p (pure a : Run C E α) := by
  simp [Confined]

@[simp] theorem confined_unfinished : Confined p (unfinished : Run C E α) := by
  simp [Confined, unfinished]

@[simp] theorem confined_raise {e : E} : Confined p (raise e : Run C E α) ↔ p e := by
  simp [Confined]

@[simp] theorem confined_ofExcept {x : Except E α} :
    Confined p (ofExcept x : Run C E α) ↔ ∀ e, x = .error e → p e := by
  simp [Confined]

@[simp] theorem confined_call {c : C} {x : Except E α} :
    Confined p (call c x) ↔ ∀ e, x = .error e → p e := by
  simp [Confined]

theorem confined_ensure_of {q : Prop} [Decidable q] {e : E} (h : q) :
    Confined p (ensure q e : Run C E Unit) := by
  rw [ensure, if_pos h]
  exact confined_pure

theorem confined_ensure {q : Prop} [Decidable q] {e : E} (h : p e) :
    Confined p (ensure q e : Run C E Unit) := by
  unfold ensure
  by_cases hq : q <;> simp [hq, h]

theorem confined_translate {t : E → E} {m : Run C E α} :
    Confined p (translate t m) ↔ ∀ e, m.outcome = .raised e → p (t e) := by
  unfold Confined
  simp only [translate_raised_iff]
  constructor
  · intro h e he
    exact h (t e) ⟨e, he, rfl⟩
  · rintro h e ⟨e', he', rfl⟩
    exact h e' he'

theorem confined_handle {m : Run C E α} {handler : E → Option (Run C E α)} :
    Confined p (handle m handler) ↔
      ∀ e, m.outcome = .raised e → (handler e).elim (p e) (Confined p) := by
  cases h : m.outcome with
  | returned a => simp [handle_of_returned h, Confined, h]
  | unfinished => simp [handle_of_unfinished h, Confined, h]
  | raised e =>
    rw [handle_of_raised h]
    cases hk : handler e <;> simp [hk, Confined, h]

theorem confined_bind {m : Run C E α} {f : α → Run C E β} :
    Confined p (m >>= f) ↔
      Confined p m ∧ ∀ a, m.outcome = .returned a → Confined p (f a) := by
  unfold Confined
  constructor
  · intro h
    exact ⟨fun e he => h e (bind_raised_iff.mpr (Or.inl he)),
      fun a ha e he => h e (bind_raised_iff.mpr (Or.inr ⟨a, ha, he⟩))⟩
  · rintro ⟨hm, hf⟩ e he
    rcases bind_raised_iff.mp he with he | ⟨a, ha, he⟩
    · exact hm e he
    · exact hf a ha e he

/-! ## Runs that end -/

/-- No bounded loop of the run is left before its end. -/
def Ends (m : Run C E α) : Prop := m.outcome ≠ .unfinished

@[simp] theorem ends_pure {a : α} : Ends (pure a : Run C E α) := by
  simp [Ends]

@[simp] theorem ends_ofExcept {x : Except E α} : Ends (ofExcept x : Run C E α) := by
  cases x <;> simp [Ends, ofExcept]

@[simp] theorem ends_raise {e : E} : Ends (raise e : Run C E α) := ends_ofExcept

@[simp] theorem ends_call {c : C} {x : Except E α} : Ends (call c x) :=
  ends_ofExcept (C := C)

@[simp] theorem ends_ensure {q : Prop} [Decidable q] {e : E} :
    Ends (ensure q e : Run C E Unit) := by
  unfold ensure
  by_cases hq : q <;> simp [hq]

@[simp] theorem ends_translate {t : E → E} {m : Run C E α} : Ends (translate t m) ↔ Ends m := by
  unfold Ends translate
  cases h : m.outcome <;> simp [h]

theorem Ends.bind {m : Run C E α} {f : α → Run C E β} (hm : Ends m)
    (hf : ∀ a, m.outcome = .returned a → Ends (f a)) : Ends (m >>= f) := by
  cases h : m.outcome with
  | returned a =>
    rw [bind_of_returned h]
    exact hf a h
  | raised e => simp [bind_of_raised h, Ends]
  | unfinished => exact absurd h hm

theorem Ends.handle {m : Run C E α} {handler : E → Option (Run C E α)} (hm : Ends m)
    (hhandler : ∀ e, m.outcome = .raised e → ∀ r ∈ handler e, Ends r) :
    Ends (handle m handler) := by
  cases h : m.outcome with
  | returned a => rwa [handle_of_returned h]
  | unfinished => exact absurd h hm
  | raised e =>
    rw [handle_of_raised h]
    cases hk : handler e with
    | none => exact hm
    | some r => exact hhandler e h r hk

/-- A run that ends and raises nothing returns. -/
theorem Ends.returned {m : Run C E α} (hends : Ends m) (h : Confined (fun _ => False) m) :
    ∃ a, m.outcome = .returned a := by
  cases hm : m.outcome with
  | returned a => exact ⟨a, rfl⟩
  | raised e => exact absurd hm (h e)
  | unfinished => exact absurd hm hends

/-- The run ends, and every call of it has the property. -/
structure Straight (p : C → Prop) (m : Run C E α) : Prop where
  calls : CallsOnly p m
  ends : Ends m

section Straight

variable {p : C → Prop}

theorem straight_pure {a : α} : Straight p (pure a : Run C E α) := ⟨callsOnly_pure, ends_pure⟩

theorem straight_raise {e : E} : Straight p (raise e : Run C E α) := ⟨callsOnly_raise, ends_raise⟩

theorem straight_ofExcept {x : Except E α} : Straight p (ofExcept x : Run C E α) :=
  ⟨callsOnly_ofExcept, ends_ofExcept⟩

theorem straight_ensure {q : Prop} [Decidable q] {e : E} :
    Straight p (ensure q e : Run C E Unit) :=
  ⟨callsOnly_ensure, ends_ensure⟩

theorem straight_call {c : C} {x : Except E α} (h : p c) : Straight p (call c x) :=
  ⟨callsOnly_call.mpr h, ends_call⟩

theorem Straight.translate {t : E → E} {m : Run C E α} (h : Straight p m) :
    Straight p (translate t m) :=
  ⟨callsOnly_translate.mpr h.calls, ends_translate.mpr h.ends⟩

theorem Straight.bind {m : Run C E α} {f : α → Run C E β} (hm : Straight p m)
    (hf : ∀ a, m.outcome = .returned a → Straight p (f a)) : Straight p (m >>= f) :=
  ⟨hm.calls.bind fun a h => (hf a h).calls, hm.ends.bind fun a h => (hf a h).ends⟩

end Straight

end Run

end AthenaContext.PortPrograms
