import Mathlib

/-!
# Transactions

Computations that read and write a staged state and may raise, and the unit of
work around them: it runs on a copy of the store, which replaces the store when
the computation returns and is dropped when it raises. The lemmas say what a
computation that returned did, one for each way of building it.
-/

namespace AthenaContext.Transactions

variable {σ ε α β : Type}

/-- A computation over a staged state that may raise. -/
abbrev Transaction (σ ε : Type) := ExceptT ε (StateM σ)

/-- Run the computation from a staged state. -/
def runFrom (x : Transaction σ ε α) (s : σ) : Except ε α × σ := x.run.run s

/-- The computation returns `a` from the staged state `s` and leaves `t`. -/
def Returns (x : Transaction σ ε α) (s : σ) (a : α) (t : σ) : Prop :=
  runFrom x s = (.ok a, t)

/-- The unit of work: commit on return, drop the staged state on an exception. -/
def transaction (x : Transaction σ ε α) (s : σ) : Except ε α × σ :=
  match runFrom x s with
  | (.ok a, t) => (.ok a, t)
  | (.error e, _) => (.error e, s)

/-- Raise when the condition holds. -/
def raiseIf (p : Prop) [Decidable p] (e : ε) : Transaction σ ε Unit :=
  if p then throw e else pure ()

/-- Read the staged state. -/
def reading (f : σ → α) : Transaction σ ε α := fun s => (.ok (f s), s)

/-- Change the staged state. -/
def writing (f : σ → σ) : Transaction σ ε Unit := fun s => (.ok (), f s)

/-- A check that does not touch the staged state. -/
def checked : Except ε α → Transaction σ ε α
  | .ok a => pure a
  | .error e => throw e

/-- The computation with its errors in another type. -/
def adapting {ε' : Type} (f : ε → ε') (x : Transaction σ ε α) : Transaction σ ε' α := fun s =>
  match runFrom x s with
  | (.ok a, t) => (.ok a, t)
  | (.error e, t) => (.error (f e), t)

/-- The value, or the error when there is none. -/
def orRaise (x : Option α) (e : ε) : Transaction σ ε α :=
  match x with
  | some a => pure a
  | none => throw e

/-- A unit of work as one step of a longer computation, which sees the store between
its units of work. -/
def atomically (x : Transaction σ ε α) : Transaction σ ε α := fun s => transaction x s

/-- The computation raises `e` from the staged state `s` and leaves `t`. -/
def Raises (x : Transaction σ ε α) (s : σ) (e : ε) (t : σ) : Prop :=
  runFrom x s = (.error e, t)

variable {s t : σ} {a a' : α} {b : β} {e : ε}

theorem returns_pure : Returns (pure a : Transaction σ ε α) s a' t ↔ a = a' ∧ s = t := by
  constructor
  · intro h
    have hp : ((.ok a : Except ε α), s) = (.ok a', t) := h
    simpa using hp
  · rintro ⟨rfl, rfl⟩
    rfl

theorem not_returns_throw : ¬ Returns (throw e : Transaction σ ε α) s a t := by
  intro h
  have hp : ((.error e : Except ε α), s) = (.ok a, t) := h
  simp at hp

/-- A sequence runs its second part where the first one returned. -/
theorem runFrom_bind {x : Transaction σ ε α} {f : α → Transaction σ ε β} :
    runFrom (x >>= f) s = match runFrom x s with
      | (.ok a, u) => runFrom (f a) u
      | (.error e, u) => (.error e, u) := by
  change (ExceptT.bindCont f (runFrom x s).1).run (runFrom x s).2 = _
  cases h : runFrom x s with
  | mk r u => cases r <;> rfl

/-- A sequence returns when its first part does and the rest does from there. -/
theorem returns_bind {x : Transaction σ ε α} {f : α → Transaction σ ε β} :
    Returns (x >>= f) s b t ↔ ∃ a u, Returns x s a u ∧ Returns (f a) u b t := by
  unfold Returns
  rw [runFrom_bind]
  cases h : runFrom x s with
  | mk r u =>
    cases r with
    | error e => simp
    | ok a =>
      constructor
      · intro hb
        exact ⟨a, u, rfl, hb⟩
      · rintro ⟨a', u', hp, hb⟩
        obtain ⟨ha, hu⟩ := Prod.mk.inj hp
        have ha : a = a' := Except.ok.inj ha
        subst ha hu
        exact hb

theorem returns_reading {f : σ → α} : Returns (reading f : Transaction σ ε α) s a t ↔
    f s = a ∧ s = t := by
  constructor
  · intro h
    have hp : ((.ok (f s) : Except ε α), s) = (.ok a, t) := h
    simpa using hp
  · rintro ⟨rfl, rfl⟩
    rfl

theorem returns_writing {f : σ → σ} {r : Unit} :
    Returns (writing f : Transaction σ ε Unit) s r t ↔ f s = t := by
  constructor
  · intro h
    have hp : ((.ok () : Except ε Unit), f s) = (.ok r, t) := h
    exact (Prod.mk.inj hp).2
  · rintro rfl
    rfl

theorem returns_raiseIf {p : Prop} [Decidable p] {r : Unit} :
    Returns (raiseIf p e) s r t ↔ ¬p ∧ s = t := by
  by_cases h : p
  · simp [raiseIf, h, not_returns_throw]
  · simp [raiseIf, h, returns_pure]

theorem returns_checked {x : Except ε α} : Returns (checked x) s a t ↔ x = .ok a ∧ s = t := by
  cases x with
  | error e => simp [checked, not_returns_throw]
  | ok b => simp [checked, returns_pure]

theorem returns_orRaise {x : Option α} : Returns (orRaise x e) s a t ↔ x = some a ∧ s = t := by
  cases x with
  | none => simp [orRaise, not_returns_throw]
  | some b => simp [orRaise, returns_pure]

theorem returns_adapting {ε' : Type} {f : ε → ε'} {x : Transaction σ ε α} :
    Returns (adapting f x) s a t ↔ Returns x s a t := by
  have hx : runFrom (adapting f x) s = match runFrom x s with
      | (.ok a, t) => (.ok a, t)
      | (.error e, t) => (.error (f e), t) := rfl
  unfold Returns
  rw [hx]
  cases h : runFrom x s with
  | mk r u => cases r <;> simp

/-- A unit of work returns what its computation returns, and commits it. -/
theorem transaction_ok_iff {x : Transaction σ ε α} :
    transaction x s = (.ok a, t) ↔ Returns x s a t := by
  unfold transaction Returns
  cases h : runFrom x s with
  | mk r u => cases r <;> simp

theorem returns_atomically {x : Transaction σ ε α} :
    Returns (atomically x) s a t ↔ Returns x s a t :=
  transaction_ok_iff

/-- A unit of work that raises leaves the store as it was. -/
theorem transaction_error {x : Transaction σ ε α} (h : transaction x s = (.error e, t)) :
    t = s := by
  unfold transaction at h
  cases hx : runFrom x s with
  | mk r u =>
    rw [hx] at h
    cases r with
    | error e' => exact (Prod.mk.inj h).2.symm
    | ok a => cases (Prod.mk.inj h).1

/-- A unit of work returns and commits, or raises and leaves the store alone. -/
theorem transaction_cases (x : Transaction σ ε α) (s : σ) :
    (∃ a t, Returns x s a t ∧ transaction x s = (.ok a, t)) ∨
      ∃ e, transaction x s = (.error e, s) := by
  unfold transaction Returns
  cases h : runFrom x s with
  | mk r u =>
    cases r with
    | error e => exact .inr ⟨e, rfl⟩
    | ok a => exact .inl ⟨a, u, rfl, rfl⟩

/-! ## What a computation that raised did -/

/-- A sequence raises where its first part does, or where the rest does after it. -/
theorem raises_bind {x : Transaction σ ε α} {f : α → Transaction σ ε β} :
    Raises (x >>= f) s e t ↔
      Raises x s e t ∨ ∃ a u, Returns x s a u ∧ Raises (f a) u e t := by
  unfold Raises Returns
  rw [runFrom_bind]
  cases h : runFrom x s with
  | mk r u =>
    cases r with
    | error e' => simp
    | ok a =>
      constructor
      · intro hr
        exact .inr ⟨a, u, rfl, hr⟩
      · rintro (hp | ⟨a', u', hp, hr⟩)
        · cases (Prod.mk.inj hp).1
        · obtain ⟨ha, hu⟩ := Prod.mk.inj hp
          have ha : a = a' := Except.ok.inj ha
          subst ha hu
          exact hr

theorem not_raises_pure : ¬ Raises (pure a : Transaction σ ε α) s e t := by
  intro h
  have hp : ((.ok a : Except ε α), s) = (.error e, t) := h
  simp at hp

/-- A check that raises has not touched the staged state. -/
theorem raises_checked {x : Except ε α} (h : Raises (checked x) s e t) : t = s := by
  cases x with
  | error e' =>
    have hp : ((.error e' : Except ε α), s) = (.error e, t) := h
    exact (Prod.mk.inj hp).2.symm
  | ok a => exact absurd h not_raises_pure

theorem raises_raiseIf {p : Prop} [Decidable p] {e' : ε} (h : Raises (raiseIf p e) s e' t) :
    t = s := by
  unfold raiseIf at h
  split at h
  · have hp : ((.error e : Except ε Unit), s) = (.error e', t) := h
    exact (Prod.mk.inj hp).2.symm
  · exact absurd h not_raises_pure

theorem raises_atomically {x : Transaction σ ε α} (h : Raises (atomically x) s e t) : t = s :=
  transaction_error h

end AthenaContext.Transactions
