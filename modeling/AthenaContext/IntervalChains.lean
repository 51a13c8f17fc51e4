import Mathlib

/-!
# Chains of touching intervals

Items with a start and a finish. Merging a list sorted by its starts puts two items into one
span exactly when a chain of touching items leads from one to the other, and a sweep over the
list succeeds exactly when all of it is one chain.
-/

namespace AthenaContext.IntervalChains

variable {α τ : Type*} [LinearOrder τ] (start finish : α → τ)

/-- Two items share an instant. -/
def Touches (a b : α) : Prop := start a ≤ finish b ∧ start b ≤ finish a

/-- A chain of touching items with a property leads from one to the other. -/
def Linked (P : α → Prop) : α → α → Prop :=
  Relation.ReflTransGen fun a b => P a ∧ P b ∧ Touches start finish a b

/-- A span of merged items. -/
structure Span (α τ : Type*) where
  first : τ
  last : τ
  members : List α
  deriving DecidableEq

/-- The span of one item. -/
def Span.single (a : α) : Span α τ := ⟨start a, finish a, [a]⟩

/-- A span and one further item. -/
def Span.extend (span : Span α τ) (a : α) : Span α τ :=
  ⟨span.first, max span.last (finish a), span.members ++ [a]⟩

/-- The spans from an open one on. -/
def mergeFrom : Span α τ → List α → List (Span α τ)
  | span, [] => [span]
  | span, a :: rest =>
    if start a ≤ span.last then mergeFrom (span.extend finish a) rest
    else span :: mergeFrom (.single start finish a) rest

/-- The spans of a sorted list. -/
def merge : List α → List (Span α τ)
  | [] => []
  | a :: rest => mergeFrom start finish (.single start finish a) rest

/-- The last finish of a list that is one chain. -/
def sweep : τ → List α → Option τ
  | last, [] => some last
  | last, a :: rest => if start a ≤ last then sweep (max last (finish a)) rest else none

/-- The bounds of a span are those of its members, which leave no gap between them. -/
structure IsSpan (P : α → Prop) (span : Span α τ) : Prop where
  low : ∀ a ∈ span.members, span.first ≤ start a
  low_attained : ∃ a ∈ span.members, start a = span.first
  high : ∀ a ∈ span.members, finish a ≤ span.last
  covered : ∀ t, span.first ≤ t → t ≤ span.last → ∃ a ∈ span.members, start a ≤ t ∧ t ≤ finish a
  linked : ∀ a ∈ span.members, ∀ b ∈ span.members, Linked start finish P a b

variable {start finish} {P Q : α → Prop} {span : Span α τ} {a b c : α} {items rest : List α}

theorem Touches.symm (h : Touches start finish a b) : Touches start finish b a := ⟨h.2, h.1⟩

theorem Linked.symm (h : Linked start finish P a b) : Linked start finish P b a := by
  induction h with
  | refl => exact Relation.ReflTransGen.refl
  | tail _ hstep ih =>
    exact Relation.ReflTransGen.head ⟨hstep.2.1, hstep.1, hstep.2.2.symm⟩ ih

theorem Linked.single (ha : P a) (hb : P b) (h : Touches start finish a b) :
    Linked start finish P a b :=
  Relation.ReflTransGen.single ⟨ha, hb, h⟩

/-- The other end of a chain has the property too. -/
theorem Linked.right (h : Linked start finish P a b) (ha : P a) : P b := by
  cases h with
  | refl => exact ha
  | tail _ hstep => exact hstep.2.1

/-- What no touching item leaves, no chain leaves. -/
theorem Linked.stays (inside : α → Prop) (h : Linked start finish P a b) (ha : inside a)
    (hstays : ∀ x y, P x → P y → inside x → Touches start finish x y → inside y) : inside b := by
  induction h with
  | refl => exact ha
  | tail _ hstep ih => exact hstays _ _ hstep.1 hstep.2.1 ih hstep.2.2

/-! ## Spans -/

theorem IsSpan.ordered (h : IsSpan start finish P span) (hvalid : ∀ a ∈ span.members, start a ≤ finish a) :
    span.first ≤ span.last := by
  obtain ⟨a, ha, hlow⟩ := h.low_attained
  rw [← hlow]
  exact (hvalid a ha).trans (h.high a ha)

/-- The last instant of a span is the finish of a member. -/
theorem IsSpan.high_attained (h : IsSpan start finish P span)
    (hvalid : ∀ a ∈ span.members, start a ≤ finish a) : ∃ a ∈ span.members, finish a = span.last := by
  obtain ⟨a, ha, -, hlast⟩ := h.covered span.last (h.ordered hvalid) (le_refl _)
  exact ⟨a, ha, le_antisymm (h.high a ha) hlast⟩

theorem isSpan_single (a : α) : IsSpan start finish P (Span.single start finish a) where
  low b hb := by rw [List.mem_singleton.mp hb]; exact le_refl _
  low_attained := ⟨a, List.mem_singleton_self a, rfl⟩
  high b hb := by rw [List.mem_singleton.mp hb]; exact le_refl _
  covered t hlow hhigh := ⟨a, List.mem_singleton_self a, hlow, hhigh⟩
  linked b hb c hc := by
    rw [List.mem_singleton.mp hb, List.mem_singleton.mp hc]
    exact Relation.ReflTransGen.refl

/-- An item that starts within a span extends it. -/
theorem IsSpan.extend (h : IsSpan start finish P span) (hP : ∀ m ∈ span.members, P m) (ha : P a)
    (hvalid : start a ≤ finish a) (hafter : span.first ≤ start a) (hwithin : start a ≤ span.last) :
    IsSpan start finish P (span.extend finish a) := by
  obtain ⟨m, hm, hmstart, hmfinish⟩ := h.covered (start a) hafter hwithin
  have htouch : Linked start finish P m a :=
    Linked.single (hP m hm) ha ⟨hmstart.trans hvalid, hmfinish⟩
  have hmem : ∀ x ∈ (span.extend finish a).members, x ∈ span.members ∨ x = a := by
    intro x hx
    simpa [Span.extend] using hx
  have hold : ∀ x ∈ span.members, x ∈ (span.extend finish a).members := fun x hx =>
    List.mem_append_left _ hx
  have hnew : a ∈ (span.extend finish a).members :=
    List.mem_append_right _ (List.mem_singleton_self a)
  have hfrom : ∀ x ∈ (span.extend finish a).members, Linked start finish P m x := by
    intro x hx
    rcases hmem x hx with hx | rfl
    · exact h.linked m hm x hx
    · exact htouch
  constructor
  · intro x hx
    rcases hmem x hx with hx | rfl
    · exact h.low x hx
    · exact hafter
  · obtain ⟨x, hx, hlow⟩ := h.low_attained
    exact ⟨x, hold x hx, hlow⟩
  · intro x hx
    rcases hmem x hx with hx | rfl
    · exact (h.high x hx).trans (le_max_left _ _)
    · exact le_max_right _ _
  · intro t hlow hhigh
    by_cases hbefore : t ≤ span.last
    · obtain ⟨x, hx, hcovers⟩ := h.covered t hlow hbefore
      exact ⟨x, hold x hx, hcovers⟩
    · have hafter' : span.last < t := not_le.mp hbefore
      refine ⟨a, hnew, hwithin.trans hafter'.le, ?_⟩
      exact (le_max_iff.mp hhigh).resolve_left hbefore
  · intro x hx y hy
    exact (hfrom x hx).symm.trans (hfrom y hy)

/-- What merging makes of a sorted list: spans of linked members, in order and apart. -/
theorem mergeFrom_spec (rest : List α) : ∀ span : Span α τ, IsSpan start finish P span →
    (∀ m ∈ span.members ++ rest, P m ∧ start m ≤ finish m) →
    (∀ a ∈ rest, span.first ≤ start a) → rest.Pairwise (fun a b => start a ≤ start b) →
    (∀ s ∈ mergeFrom start finish span rest, IsSpan start finish P s) ∧
      (mergeFrom start finish span rest).flatMap Span.members = span.members ++ rest ∧
      (mergeFrom start finish span rest).Pairwise (fun s t => s.last < t.first) ∧
      ∀ s ∈ mergeFrom start finish span rest, span.first ≤ s.first := by
  induction rest with
  | nil =>
    intro span hspan _ _ _
    refine ⟨fun s hs => ?_, by simp [mergeFrom], List.pairwise_singleton _ _, fun s hs => ?_⟩
    · rw [List.mem_singleton.mp hs]
      exact hspan
    · rw [List.mem_singleton.mp hs]
  | cons a rest ih =>
    intro span hspan hP hafter hsorted
    obtain ⟨hfirst, hrest⟩ := List.pairwise_cons.mp hsorted
    have ha : P a ∧ start a ≤ finish a := hP a (List.mem_append_right _ List.mem_cons_self)
    have hmembers : ∀ m ∈ span.members, P m := fun m hm => (hP m (List.mem_append_left _ hm)).1
    rw [mergeFrom]
    split
    · rename_i hwithin
      have hextended := hspan.extend hmembers ha.1 ha.2 (hafter a List.mem_cons_self) hwithin
      have happend : (span.extend finish a).members ++ rest = span.members ++ a :: rest := by
        simp [Span.extend]
      obtain ⟨hspans, hflat, hapart, hlow⟩ := ih (span.extend finish a) hextended
        (by rwa [happend]) (fun x hx => hafter x (List.mem_cons_of_mem a hx)) hrest
      exact ⟨hspans, hflat.trans happend, hapart, hlow⟩
    · rename_i hbeyond
      have hlast : span.last < start a := not_le.mp hbeyond
      obtain ⟨hspans, hflat, hapart, hlow⟩ := ih (.single start finish a) (isSpan_single a)
        (fun m hm => hP m (List.mem_append_right _ hm)) hfirst hrest
      refine ⟨fun s hs => ?_, ?_, List.pairwise_cons.mpr ⟨fun s hs => ?_, hapart⟩, fun s hs => ?_⟩
      · rcases List.mem_cons.mp hs with rfl | hs
        · exact hspan
        · exact hspans s hs
      · rw [List.flatMap_cons, hflat]
        rfl
      · exact hlast.trans_le (hlow s hs)
      · rcases List.mem_cons.mp hs with rfl | hs
        · exact le_refl _
        · exact (hafter a List.mem_cons_self).trans (hlow s hs)

/-- The spans of a sorted list. -/
theorem merge_spec (hP : ∀ a ∈ items, P a ∧ start a ≤ finish a)
    (hsorted : items.Pairwise fun a b => start a ≤ start b) :
    (∀ s ∈ merge start finish items, IsSpan start finish P s) ∧
      (merge start finish items).flatMap Span.members = items ∧
      (merge start finish items).Pairwise fun s t => s.last < t.first := by
  cases items with
  | nil => simp [merge]
  | cons a rest =>
    obtain ⟨hfirst, hrest⟩ := List.pairwise_cons.mp hsorted
    obtain ⟨hspans, hflat, hapart, -⟩ := mergeFrom_spec rest (.single start finish a)
      (isSpan_single a) hP hfirst hrest
    exact ⟨hspans, hflat, hapart⟩

/-- Of two spans of a merged list, one ends before the other starts. -/
theorem spans_apart {spans : List (Span α τ)} {s t : Span α τ}
    (hapart : spans.Pairwise fun s t => s.last < t.first) (hs : s ∈ spans) (ht : t ∈ spans)
    (hne : s ≠ t) : s.last < t.first ∨ t.last < s.first := by
  let Apart (s t : Span α τ) : Prop := s.last < t.first ∨ t.last < s.first
  have hsymm : Std.Symm Apart := ⟨fun _ _ h => h.symm⟩
  have hpairs : spans.Pairwise Apart := hapart.imp .inl
  exact hpairs.forall hs ht hne

/-- Touching items are in one span. -/
theorem touching_same_span {spans : List (Span α τ)} {s t : Span α τ}
    (hspans : ∀ s ∈ spans, IsSpan start finish P s)
    (hapart : spans.Pairwise fun s t => s.last < t.first) (hs : s ∈ spans) (ht : t ∈ spans)
    (ha : a ∈ s.members) (hb : b ∈ t.members) (htouch : Touches start finish a b) : s = t := by
  by_contra hne
  have halast := (hspans s hs).high a ha
  have hafirst := (hspans s hs).low a ha
  have hblast := (hspans t ht).high b hb
  have hbfirst := (hspans t ht).low b hb
  rcases spans_apart hapart hs ht hne with hbefore | hafter
  · exact absurd htouch.2 (not_le.mpr (halast.trans_lt (hbefore.trans_le hbfirst)))
  · exact absurd htouch.1 (not_le.mpr (hblast.trans_lt (hafter.trans_le hafirst)))

/-- A chain from a member of a span leads to its members exactly. -/
theorem linked_iff_mem_span {spans : List (Span α τ)} {s : Span α τ}
    (hspans : ∀ s ∈ spans, IsSpan start finish P s)
    (hall : ∀ a, P a → ∃ s ∈ spans, a ∈ s.members)
    (hapart : spans.Pairwise fun s t => s.last < t.first) (hs : s ∈ spans) (ha : a ∈ s.members) :
    Linked start finish P a b ↔ b ∈ s.members := by
  constructor
  · intro h
    refine h.stays (fun x => x ∈ s.members) ha fun x y _ hy hx htouch => ?_
    obtain ⟨t, ht, hyt⟩ := hall y hy
    rwa [touching_same_span hspans hapart hs ht hx hyt htouch]
  · intro hb
    exact (hspans s hs).linked a ha b hb

/-! ## Sweeps -/

/-- A chain from before a gap ends before it. -/
theorem Linked.before_gap {t : τ} (h : Linked start finish P a b) (ha : finish a ≤ t)
    (hgap : ∀ x, P x → finish x ≤ t ∨ t < start x) : finish b ≤ t := by
  refine h.stays (fun x => finish x ≤ t) ha fun x y _ hy hx htouch => ?_
  rcases hgap y hy with hbefore | hafter
  · exact hbefore
  · exact absurd (htouch.2.trans hx) (not_le.mpr hafter)

/-- The sweep from a span on succeeds exactly when its members and the rest are one chain. -/
theorem sweep_isSome (rest : List α) : ∀ span : Span α τ, IsSpan start finish P span →
    (∀ m ∈ span.members ++ rest, P m ∧ start m ≤ finish m) →
    (∀ m, P m → m ∈ span.members ++ rest) →
    (∀ a ∈ rest, span.first ≤ start a) → rest.Pairwise (fun a b => start a ≤ start b) →
    ((sweep start finish span.last rest).isSome = true ↔
      ∀ a ∈ span.members ++ rest, ∀ b ∈ span.members ++ rest, Linked start finish P a b) := by
  induction rest with
  | nil =>
    intro span hspan _ _ _ _
    rw [List.append_nil]
    exact iff_of_true rfl hspan.linked
  | cons a rest ih =>
    intro span hspan hP hall hafter hsorted
    obtain ⟨hfirst, hrest⟩ := List.pairwise_cons.mp hsorted
    have ha : P a ∧ start a ≤ finish a := hP a (List.mem_append_right _ List.mem_cons_self)
    have hmembers : ∀ m ∈ span.members, P m := fun m hm => (hP m (List.mem_append_left _ hm)).1
    rw [sweep]
    split
    · rename_i hwithin
      have hextended := hspan.extend hmembers ha.1 ha.2 (hafter a List.mem_cons_self) hwithin
      have happend : (span.extend finish a).members ++ rest = span.members ++ a :: rest := by
        simp [Span.extend]
      have hnext := ih (span.extend finish a) hextended (by rwa [happend]) (by rwa [happend])
        (fun x hx => hafter x (List.mem_cons_of_mem a hx)) hrest
      rwa [happend] at hnext
    · rename_i hbeyond
      have hlast : span.last < start a := not_le.mp hbeyond
      refine iff_of_false (by simp) fun hlinked => ?_
      obtain ⟨m, hm, -⟩ := hspan.low_attained
      have hcross := hlinked m (List.mem_append_left _ hm) a
        (List.mem_append_right _ List.mem_cons_self)
      have hgap : ∀ x, P x → finish x ≤ span.last ∨ span.last < start x := by
        intro x hx
        rcases List.mem_append.mp (hall x hx) with hx | hx
        · exact .inl (hspan.high x hx)
        · rcases List.mem_cons.mp hx with rfl | hx
          · exact .inr hlast
          · exact .inr (hlast.trans_le (hfirst x hx))
      have hbefore := hcross.before_gap (hspan.high m hm) hgap
      exact absurd (ha.2.trans hbefore) (not_le.mpr hlast)

/-- A sweep ends with the latest finish. -/
theorem sweep_spec {t high : τ} (h : sweep start finish t rest = some high) :
    t ≤ high ∧ (∀ a ∈ rest, finish a ≤ high) ∧ (high = t ∨ ∃ a ∈ rest, finish a = high) := by
  induction rest generalizing t with
  | nil =>
    cases h
    exact ⟨le_refl _, by simp, .inl rfl⟩
  | cons a rest ih =>
    rw [sweep] at h
    split at h
    · obtain ⟨hle, hall, hattained⟩ := ih h
      refine ⟨(le_max_left _ _).trans hle,
        List.forall_mem_cons.mpr ⟨(le_max_right _ _).trans hle, hall⟩, ?_⟩
      rcases hattained with heq | ⟨x, hx, hfinish⟩
      · rcases max_choice t (finish a) with hmax | hmax
        · exact .inl (heq.trans hmax)
        · exact .inr ⟨a, List.mem_cons_self, (heq.trans hmax).symm⟩
      · exact .inr ⟨x, List.mem_cons_of_mem a hx, hfinish⟩
    · cases h

end AthenaContext.IntervalChains
