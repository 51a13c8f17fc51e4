import Mathlib

/-!
# Fallible results

What a successful computation in `Except` or `Option` says of its steps. Nothing here refers
to a particular error or value type.
-/

namespace AthenaContext.FallibleResults

variable {ε α β : Type*}

/-- A sequence succeeds exactly when its first step does and the rest does on its value. -/
theorem bind_ok_iff {ε α β : Type _} {x : Except ε α} {f : α → Except ε β} {b : β} :
    (x >>= f) = .ok b ↔ ∃ a, x = .ok a ∧ f a = .ok b := by
  cases x with
  | error e => simp [bind, Except.bind]
  | ok a => simp [bind, Except.bind]

theorem pure_ok_iff {a b : α} : (pure a : Except ε α) = .ok b ↔ a = b := by
  simp [pure, Except.pure]

theorem map_ok_iff {f : α → β} {x : Except ε α} {b : β} :
    x.map f = .ok b ↔ ∃ a, x = .ok a ∧ f a = b := by
  cases x with
  | error e => simp [Except.map]
  | ok a => simp [Except.map]

/-- A guard followed by a computation succeeds when the guard does not raise. -/
theorem ite_error_ok_iff {p : Prop} [Decidable p] {x : Except ε α} {e : ε} {a : α} :
    (if p then .error e else x) = .ok a ↔ ¬p ∧ x = .ok a := by
  by_cases h : p
  · simp [h]
  · simp [h]

/-- A traversal succeeds exactly when it does at each element, in order. -/
theorem mapM_ok_iff {ε : Type _} {α β : Type _} {f : α → Except ε β} {xs : List α} {ys : List β} :
    xs.mapM f = .ok ys ↔ List.Forall₂ (fun x y => f x = .ok y) xs ys := by
  induction xs generalizing ys with
  | nil =>
    rw [List.mapM_nil, pure_ok_iff]
    cases ys with
    | nil => simp
    | cons y rest => simp
  | cons x xs ih =>
    rw [List.mapM_cons, bind_ok_iff]
    constructor
    · rintro ⟨y, hy, h⟩
      obtain ⟨rest, hrest, he⟩ := bind_ok_iff.mp h
      rw [pure_ok_iff] at he
      subst he
      exact .cons hy (ih.mp hrest)
    · intro h
      cases h with
      | cons hy hrest =>
        exact ⟨_, hy, bind_ok_iff.mpr ⟨_, ih.mpr hrest, rfl⟩⟩

/-- Each result of a traversal comes from an element. -/
theorem mapM_ok_right {ε : Type _} {α β : Type _} {f : α → Except ε β} {xs : List α} {ys : List β}
    (h : xs.mapM f = .ok ys) {y : β} (hy : y ∈ ys) : ∃ x ∈ xs, f x = .ok y := by
  have hall := mapM_ok_iff.mp h
  induction hall with
  | nil => simp at hy
  | cons hx hrest ih =>
    rcases List.mem_cons.mp hy with rfl | hy
    · exact ⟨_, by simp, hx⟩
    · obtain ⟨x, hm, hf⟩ := ih (mapM_ok_iff.mpr hrest) hy
      exact ⟨x, List.mem_cons_of_mem _ hm, hf⟩

/-- Each element of a traversal has a result. -/
theorem mapM_ok_left {ε : Type _} {α β : Type _} {f : α → Except ε β} {xs : List α} {ys : List β}
    (h : xs.mapM f = .ok ys) {x : α} (hx : x ∈ xs) : ∃ y ∈ ys, f x = .ok y := by
  have hall := mapM_ok_iff.mp h
  induction hall with
  | nil => simp at hx
  | cons hy hrest ih =>
    rcases List.mem_cons.mp hx with rfl | hx
    · exact ⟨_, by simp, hy⟩
    · obtain ⟨y, hm, hf⟩ := ih (mapM_ok_iff.mpr hrest) hx
      exact ⟨y, List.mem_cons_of_mem _ hm, hf⟩

/-- A traversal that fails does so at one element, behind elements that succeed. -/
theorem mapM_error {ε : Type _} {α β : Type _} {f : α → Except ε β} {xs : List α} {e : ε}
    (h : xs.mapM f = .error e) : ∃ earlier x later, xs = earlier ++ x :: later ∧
      (∀ y ∈ earlier, ∃ b, f y = .ok b) ∧ f x = .error e := by
  induction xs with
  | nil => cases h
  | cons x xs ih =>
    rw [List.mapM_cons] at h
    cases hx : f x with
    | error e' =>
      rw [hx] at h
      cases h
      exact ⟨[], x, xs, rfl, fun y hy => absurd hy List.not_mem_nil, hx⟩
    | ok b =>
      rw [hx] at h
      cases hxs : xs.mapM f with
      | ok bs =>
        rw [hxs] at h
        cases h
      | error e' =>
        rw [hxs] at h
        cases h
        obtain ⟨earlier, y, later, rfl, hearlier, hy⟩ := ih hxs
        refine ⟨x :: earlier, y, later, rfl, fun z hz => ?_, hy⟩
        rcases List.mem_cons.mp hz with rfl | hz
        · exact ⟨b, hx⟩
        · exact hearlier z hz

/-- A traversal in `Option` succeeds exactly when it does at each element, in order. -/
theorem mapM_some_iff {α β : Type _} {f : α → Option β} {xs : List α} {ys : List β} :
    xs.mapM f = some ys ↔ List.Forall₂ (fun x y => f x = some y) xs ys := by
  induction xs generalizing ys with
  | nil =>
    rw [List.mapM_nil, List.forall₂_nil_left_iff]
    exact ⟨fun h => (Option.some.inj h).symm, fun h => h ▸ rfl⟩
  | cons x xs ih =>
    rw [List.mapM_cons]
    simp only [Option.bind_eq_bind, Option.bind_eq_some_iff, Option.pure_def, Option.some.injEq, ih]
    constructor
    · rintro ⟨y, hy, rest, hrest, rfl⟩
      exact .cons hy hrest
    · rintro (_ | ⟨hy, hrest⟩)
      exact ⟨_, hy, _, hrest, rfl⟩

/-- What is paired with an element of the second list. -/
theorem forall₂_mem_right {α β : Type _} {r : α → β → Prop} {xs : List α} {ys : List β}
    (h : List.Forall₂ r xs ys) {y : β} (hy : y ∈ ys) : ∃ x ∈ xs, r x y := by
  induction h with
  | nil => cases hy
  | cons hx _ ih =>
    rcases List.mem_cons.mp hy with rfl | hmem
    · exact ⟨_, List.mem_cons_self, hx⟩
    · obtain ⟨x, hmem, hr⟩ := ih hmem
      exact ⟨x, List.mem_cons_of_mem _ hmem, hr⟩

/-- A loop of checks passes exactly when each check does. -/
theorem forM_ok_iff {ε : Type _} {α : Type _} {f : α → Except ε Unit} {xs : List α} :
    xs.forM f = .ok () ↔ ∀ x ∈ xs, f x = .ok () := by
  induction xs with
  | nil => simp [List.forM, pure, Except.pure]
  | cons x xs ih =>
    change (f x >>= fun _ => xs.forM f) = .ok () ↔ _
    rw [bind_ok_iff, List.forall_mem_cons]
    constructor
    · rintro ⟨_, hx, hrest⟩
      exact ⟨hx, ih.mp hrest⟩
    · intro h
      exact ⟨(), h.1, ih.mpr h.2⟩

/-- A fold keeps what each of its steps keeps. -/
theorem foldlM_invariant {ε : Type _} {α β : Type _} {f : β → α → Except ε β} {P : β → Prop}
    {xs : List α} (step : ∀ b, ∀ x ∈ xs, ∀ b', P b → f b x = .ok b' → P b') {start result : β}
    (hstart : P start) (h : xs.foldlM f start = .ok result) : P result := by
  induction xs generalizing start with
  | nil =>
    have he : start = result := by simpa [pure, Except.pure] using h
    exact he ▸ hstart
  | cons x xs ih =>
    rw [List.foldlM_cons, bind_ok_iff] at h
    obtain ⟨next, hx, hrest⟩ := h
    exact ih (fun b y hy => step b y (List.mem_cons_of_mem _ hy))
      (step start x (by simp) next hstart hx) hrest

/-- Each element of a fold that succeeds has been folded in. -/
theorem foldlM_ok_mem {ε : Type _} {α β : Type _} {f : β → α → Except ε β} {xs : List α}
    {start result : β} (h : xs.foldlM f start = .ok result) {x : α} (hx : x ∈ xs) :
    ∃ b b', f b x = .ok b' := by
  induction xs generalizing start with
  | nil => cases hx
  | cons y xs ih =>
    rw [List.foldlM_cons, bind_ok_iff] at h
    obtain ⟨next, hy, hrest⟩ := h
    rcases List.mem_cons.mp hx with rfl | hmem
    · exact ⟨start, next, hy⟩
    · exact ih hrest hmem

/-- An error that is renamed does not make a success. -/
theorem mapError_ok_iff {ε ε' α : Type _} {f : ε → ε'} {x : Except ε α} {a : α} :
    x.mapError f = .ok a ↔ x = .ok a := by
  cases x with
  | error e => simp [Except.mapError]
  | ok b => simp [Except.mapError]

end AthenaContext.FallibleResults
