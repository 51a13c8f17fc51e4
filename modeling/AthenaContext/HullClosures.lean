import Mathlib

/-!
# Closing intervals under their hull

Some of the intervals of a list are selected, and the hull of the selected ones grows by every
interval that it touches, at most one of each stream. In whatever order the intervals are
visited, the passes end; they end with the least selection that touches nothing else, or fail
because that selection has two intervals of one stream.
-/

namespace AthenaContext.HullClosures

variable {γ τ σ : Type*} [LinearOrder τ] (first last : γ → τ) (stream : γ → σ)

/-- The selected intervals and their hull. -/
structure Hull (γ τ : Type*) where
  selected : List γ
  low : τ
  high : τ

/-- What a selection grows to. -/
inductive Reached (intervals seeds : List γ) : γ → Prop
  | seed {c : γ} : c ∈ seeds → Reached intervals seeds c
  | touched {a b c : γ} : Reached intervals seeds a → Reached intervals seeds b → c ∈ intervals →
      first a ≤ last c → first c ≤ last b → Reached intervals seeds c

/-- An interval touches the hull. -/
def Hull.Touches (h : Hull γ τ) (c : γ) : Prop := first c ≤ h.high ∧ h.low ≤ last c

instance (h : Hull γ τ) (c : γ) : Decidable (h.Touches first last c) :=
  inferInstanceAs (Decidable (_ ∧ _))

/-- The hull and a further interval. -/
def Hull.add (h : Hull γ τ) (c : γ) : Hull γ τ :=
  ⟨h.selected ++ [c], min h.low (first c), max h.high (last c)⟩

variable [DecidableEq γ] [DecidableEq σ]

/-- One interval of a pass, and whether the hull grew. -/
def visit (s : Hull γ τ × Bool) (c : γ) : Option (Hull γ τ × Bool) :=
  if c ∈ s.1.selected then some s
  else if s.1.Touches first last c then
    if stream c ∈ s.1.selected.map stream then none else some (s.1.add first last c, true)
  else some s

/-- One pass over the intervals. -/
def pass (intervals : List γ) (h : Hull γ τ) : Option (Hull γ τ × Bool) :=
  intervals.foldlM (visit first last stream) (h, false)

/-- Passes until one changes nothing: `none` where the passes are not enough, `some none` where
one fails. -/
def close (intervals : List γ) : ℕ → Hull γ τ → Option (Option (Hull γ τ))
  | 0, _ => none
  | passes + 1, h =>
    match pass first last stream intervals h with
    | none => some none
    | some (h', true) => close intervals passes h'
    | some (h', false) => some (some h')

variable {first last stream} {intervals seeds : List γ} {h h' : Hull γ τ} {c : γ}

/-! ## One pass -/

/-- The branches of a visit. -/
theorem visit_cases {s t : Hull γ τ × Bool} (hv : visit first last stream s c = some t) :
    (t = s ∧ (c ∈ s.1.selected ∨ ¬ s.1.Touches first last c)) ∨
    (t = (s.1.add first last c, true) ∧ c ∉ s.1.selected ∧ s.1.Touches first last c ∧
      stream c ∉ s.1.selected.map stream) := by
  unfold visit at hv
  split at hv
  · rename_i hsel
    exact .inl ⟨(Option.some.inj hv).symm, .inl hsel⟩
  · rename_i hnew
    split at hv
    · rename_i htouch
      split at hv
      · cases hv
      · rename_i hstream
        exact .inr ⟨(Option.some.inj hv).symm, hnew, htouch, hstream⟩
    · rename_i hapart
      exact .inl ⟨(Option.some.inj hv).symm, .inr hapart⟩

theorem visit_none {s : Hull γ τ × Bool} (hv : visit first last stream s c = none) :
    c ∉ s.1.selected ∧ s.1.Touches first last c ∧ stream c ∈ s.1.selected.map stream := by
  unfold visit at hv
  split at hv
  · cases hv
  · rename_i hnew
    split at hv
    · rename_i htouch
      split at hv
      · rename_i hstream
        exact ⟨hnew, htouch, hstream⟩
      · cases hv
    · cases hv

/-- The number of intervals outside the selection. -/
def missing (intervals : List γ) (h : Hull γ τ) : ℕ :=
  (intervals.filter fun c => c ∉ h.selected).length

/-- A pass selects no less, and it changes something exactly when it selects more. -/
theorem fold_grows (visited : List γ) : ∀ s t : Hull γ τ × Bool,
    visited.foldlM (visit first last stream) s = some t →
      (∀ c ∈ s.1.selected, c ∈ t.1.selected) ∧
      ((t.2 = s.2 ∧ t.1 = s.1 ∧ ∀ c ∈ visited, c ∈ s.1.selected ∨ ¬ s.1.Touches first last c) ∨
        (t.2 = true ∧ ∃ c ∈ visited, c ∉ s.1.selected ∧ c ∈ t.1.selected)) := by
  induction visited with
  | nil =>
    intro s t hfold
    cases hfold
    exact ⟨fun _ hc => hc, .inl ⟨rfl, rfl, by simp⟩⟩
  | cons c visited ih =>
    intro s t hfold
    rw [List.foldlM_cons, Option.bind_eq_bind, Option.bind_eq_some_iff] at hfold
    obtain ⟨u, hvisit, hrest⟩ := hfold
    obtain ⟨hkeeps, hchange⟩ := ih u t hrest
    rcases visit_cases hvisit with ⟨rfl, hc⟩ | ⟨rfl, hnew, -, -⟩
    · refine ⟨hkeeps, ?_⟩
      rcases hchange with ⟨hflag, hsame, hall⟩ | ⟨hflag, x, hx, hout, hin⟩
      · exact .inl ⟨hflag, hsame, List.forall_mem_cons.mpr ⟨hc, hall⟩⟩
      · exact .inr ⟨hflag, x, List.mem_cons_of_mem c hx, hout, hin⟩
    · have hadded : c ∈ t.1.selected :=
        hkeeps c (List.mem_append_right _ (List.mem_singleton_self c))
      refine ⟨fun x hx => hkeeps x (List.mem_append_left _ hx), .inr ⟨?_, c, List.mem_cons_self, hnew,
        hadded⟩⟩
      rcases hchange with ⟨hflag, -, -⟩ | ⟨hflag, -⟩
      · exact hflag
      · exact hflag

/-- A pass that changes something leaves fewer intervals outside the selection. -/
theorem pass_missing (hp : pass first last stream intervals h = some (h', true)) :
    missing intervals h' < missing intervals h := by
  obtain ⟨hkeeps, hchange⟩ := fold_grows intervals _ _ hp
  rcases hchange with ⟨hflag, -⟩ | ⟨-, c, hc, hout, hin⟩
  · cases hflag
  · have hsub : (intervals.filter fun c => c ∉ h'.selected).Sublist
        (intervals.filter fun c => c ∉ h.selected) := by
      refine List.monotone_filter_right intervals fun x hx => ?_
      rw [decide_eq_true_eq] at hx ⊢
      exact fun hmem => hx (hkeeps x hmem)
    refine lt_of_le_of_ne hsub.length_le fun heq => ?_
    have hsame := hsub.eq_of_length heq
    have hmem : c ∈ intervals.filter fun c => c ∉ h.selected :=
      List.mem_filter.mpr ⟨hc, decide_eq_true hout⟩
    rw [← hsame] at hmem
    exact (of_decide_eq_true (List.mem_filter.mp hmem).2) hin

/-- The passes end: as many as there are intervals, and one, are enough from every hull. -/
theorem close_isSome (intervals : List γ) : ∀ passes (h : Hull γ τ), missing intervals h < passes →
    (close first last stream intervals passes h).isSome = true := by
  intro passes
  induction passes with
  | zero => exact fun h hlt => absurd hlt (Nat.not_lt_zero _)
  | succ passes ih =>
    intro h hlt
    rw [close]
    cases hp : pass first last stream intervals h with
    | none => rfl
    | some result =>
      obtain ⟨h', changed⟩ := result
      cases changed with
      | false => rfl
      | true =>
        have hless := pass_missing hp
        exact ih h' (by omega)

omit [LinearOrder τ] [DecidableEq σ] in
theorem missing_le (intervals : List γ) (h : Hull γ τ) : missing intervals h ≤ intervals.length :=
  List.length_filter_le _ _

/-! ## What the passes select -/

/-- The selection of a hull: it has the seeds, only what they grow to, one interval of a stream
at most, and the bounds of the hull. -/
structure Sound (first last : γ → τ) (stream : γ → σ) (intervals seeds : List γ)
    (h : Hull γ τ) : Prop where
  seeds_selected : ∀ c ∈ seeds, c ∈ h.selected
  reached : ∀ c ∈ h.selected, Reached first last intervals seeds c
  streams : (h.selected.map stream).Nodup
  low : ∀ c ∈ h.selected, h.low ≤ first c
  low_attained : ∃ c ∈ h.selected, first c = h.low
  high : ∀ c ∈ h.selected, last c ≤ h.high
  high_attained : ∃ c ∈ h.selected, last c = h.high

omit [DecidableEq γ] [DecidableEq σ] in
/-- An interval that touches a sound hull is reached. -/
theorem Sound.touched (hs : Sound first last stream intervals seeds h) (hc : c ∈ intervals)
    (ht : h.Touches first last c) : Reached first last intervals seeds c := by
  obtain ⟨a, ha, hlow⟩ := hs.low_attained
  obtain ⟨b, hb, hhigh⟩ := hs.high_attained
  refine .touched (hs.reached a ha) (hs.reached b hb) hc ?_ ?_
  · rw [hlow]
    exact ht.2
  · rw [hhigh]
    exact ht.1

omit [DecidableEq γ] [DecidableEq σ] in
theorem Sound.add (hs : Sound first last stream intervals seeds h) (hc : c ∈ intervals)
    (ht : h.Touches first last c) (hstream : stream c ∉ h.selected.map stream) :
    Sound first last stream intervals seeds (h.add first last c) := by
  have hmem : ∀ x ∈ (h.add first last c).selected, x ∈ h.selected ∨ x = c := by
    intro x hx
    simpa [Hull.add] using hx
  have hold : ∀ x ∈ h.selected, x ∈ (h.add first last c).selected := fun x hx =>
    List.mem_append_left _ hx
  have hnew : c ∈ (h.add first last c).selected :=
    List.mem_append_right _ (List.mem_singleton_self c)
  constructor
  · exact fun x hx => hold x (hs.seeds_selected x hx)
  · intro x hx
    rcases hmem x hx with hx | rfl
    · exact hs.reached x hx
    · exact hs.touched hc ht
  · rw [Hull.add, List.map_append, List.map_singleton]
    exact List.nodup_append.mpr ⟨hs.streams, List.nodup_singleton _, fun x hx y hy hxy =>
      hstream (by rwa [← List.mem_singleton.mp hy, ← hxy])⟩
  · intro x hx
    rcases hmem x hx with hx | rfl
    · exact (min_le_left _ _).trans (hs.low x hx)
    · exact min_le_right _ _
  · rcases min_choice h.low (first c) with hmin | hmin
    · obtain ⟨a, ha, hlow⟩ := hs.low_attained
      exact ⟨a, hold a ha, hlow.trans hmin.symm⟩
    · exact ⟨c, hnew, hmin.symm⟩
  · intro x hx
    rcases hmem x hx with hx | rfl
    · exact (hs.high x hx).trans (le_max_left _ _)
    · exact le_max_right _ _
  · rcases max_choice h.high (last c) with hmax | hmax
    · obtain ⟨b, hb, hhigh⟩ := hs.high_attained
      exact ⟨b, hold b hb, hhigh.trans hmax.symm⟩
    · exact ⟨c, hnew, hmax.symm⟩

/-- Two reached intervals of one stream. -/
def Collides (first last : γ → τ) (stream : γ → σ) (intervals seeds : List γ) : Prop :=
  ∃ a b, Reached first last intervals seeds a ∧ Reached first last intervals seeds b ∧ a ≠ b ∧
    stream a = stream b

/-- A pass keeps a sound hull sound, or fails because two reached intervals collide. -/
theorem fold_sound (visited : List γ) (hvisited : ∀ c ∈ visited, c ∈ intervals) :
    ∀ s : Hull γ τ × Bool, Sound first last stream intervals seeds s.1 →
      (∀ t, visited.foldlM (visit first last stream) s = some t →
        Sound first last stream intervals seeds t.1) ∧
      (visited.foldlM (visit first last stream) s = none →
        Collides first last stream intervals seeds) := by
  induction visited with
  | nil =>
    intro s hs
    constructor
    · intro t ht
      cases ht
      exact hs
    · exact nofun
  | cons c visited ih =>
    intro s hs
    have hc : c ∈ intervals := hvisited c List.mem_cons_self
    have hrest := ih fun x hx => hvisited x (List.mem_cons_of_mem c hx)
    rw [List.foldlM_cons, Option.bind_eq_bind]
    cases hvisit : visit first last stream s c with
    | none =>
      refine ⟨nofun, fun _ => ?_⟩
      obtain ⟨hnew, htouch, hstream⟩ := visit_none hvisit
      obtain ⟨a, ha, hsame⟩ := List.mem_map.mp hstream
      exact ⟨a, c, hs.reached a ha, hs.touched hc htouch, fun heq => hnew (heq ▸ ha), hsame⟩
    | some u =>
      rw [Option.bind_some]
      rcases visit_cases hvisit with ⟨rfl, -⟩ | ⟨rfl, -, htouch, hstream⟩
      · exact hrest u hs
      · exact hrest _ (hs.add hc htouch hstream)

omit [DecidableEq γ] [DecidableEq σ] in
/-- A sound hull that nothing outside its selection touches has selected all that is reached. -/
theorem Sound.closed (hs : Sound first last stream intervals seeds h)
    (hclosed : ∀ c ∈ intervals, c ∈ h.selected ∨ ¬ h.Touches first last c) :
    ∀ c, c ∈ h.selected ↔ Reached first last intervals seeds c := by
  refine fun c => ⟨hs.reached c, fun hc => ?_⟩
  induction hc with
  | seed hseed => exact hs.seeds_selected _ hseed
  | touched _ _ hmem hfirst hlast iha ihb =>
    rcases hclosed _ hmem with hsel | hapart
    · exact hsel
    · exact absurd ⟨hlast.trans (hs.high _ ihb), (hs.low _ iha).trans hfirst⟩ hapart

/-- What the passes end with. -/
theorem close_spec (intervals : List γ) : ∀ passes (h : Hull γ τ),
    Sound first last stream intervals seeds h →
      (∀ h', close first last stream intervals passes h = some (some h') →
        Sound first last stream intervals seeds h' ∧
        ∀ c, c ∈ h'.selected ↔ Reached first last intervals seeds c) ∧
      (close first last stream intervals passes h = some none →
        Collides first last stream intervals seeds) := by
  intro passes
  induction passes with
  | zero => exact fun h _ => ⟨nofun, nofun⟩
  | succ passes ih =>
    intro h hs
    obtain ⟨hsound, hfails⟩ := fold_sound intervals (fun _ hc => hc) (h, false) hs
    rw [close]
    cases hp : pass first last stream intervals h with
    | none => exact ⟨nofun, fun _ => hfails hp⟩
    | some result =>
      obtain ⟨h', changed⟩ := result
      have hs' := hsound _ hp
      cases changed with
      | true => exact ih h' hs'
      | false =>
        refine ⟨fun h'' hclose => ?_, nofun⟩
        cases hclose
        obtain ⟨-, ⟨-, hsame, hclosed⟩ | ⟨hflag, -⟩⟩ := fold_grows intervals _ _ hp
        · have hback : h' = h := hsame
          rw [hback]
          exact ⟨hs, hs.closed hclosed⟩
        · cases hflag

/-- The passes succeed, with all that is reached, exactly when no two reached intervals are of
one stream. -/
theorem close_succeeds_iff (hs : Sound first last stream intervals seeds h) {passes : ℕ}
    (hpasses : intervals.length < passes) :
    (∃ h', close first last stream intervals passes h = some (some h') ∧
        ∀ c, c ∈ h'.selected ↔ Reached first last intervals seeds c) ↔
      ¬ Collides first last stream intervals seeds := by
  obtain ⟨hsucceeds, hfails⟩ := close_spec intervals passes h hs
  constructor
  · rintro ⟨h', hclose, -⟩ ⟨a, b, ha, hb, hne, hstream⟩
    obtain ⟨hs', hselected⟩ := hsucceeds h' hclose
    exact hne (List.inj_on_of_nodup_map hs'.streams ((hselected a).mpr ha) ((hselected b).mpr hb)
      hstream)
  · intro hfree
    have hend : (close first last stream intervals passes h).isSome = true :=
      close_isSome intervals passes h ((missing_le intervals h).trans_lt hpasses)
    obtain ⟨result, hresult⟩ := Option.isSome_iff_exists.mp hend
    cases result with
    | none => exact absurd (hfails hresult) hfree
    | some h' => exact ⟨h', hresult, (hsucceeds h' hresult).2⟩

end AthenaContext.HullClosures
