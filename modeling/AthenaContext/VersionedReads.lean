import Mathlib

/-!
# Versioned reads

A part of a state that changes only under a new version, and an order of the versions in
which no step goes back. Two reads that see one version then saw one value, and so did every
state between them: a change that was undone would have left a later version behind.
-/

namespace AthenaContext.VersionedReads

variable {σ α β V W : Type*}

/-- No step goes back in the versions, and a step that keeps the version keeps the value. -/
structure ChangesUnder [PartialOrder V] (step : σ → σ → Prop) (version : σ → V) (value : σ → α) :
    Prop where
  mono : ∀ {s t}, step s t → version s ≤ version t
  kept : ∀ {s t}, step s t → version s = version t → value s = value t

namespace ChangesUnder

variable [PartialOrder V] [PartialOrder W] {step : σ → σ → Prop} {version : σ → V} {value : σ → α}
  {other : σ → W} {part : σ → β} {s t u : σ}

/-- A run does not go back in the versions. -/
theorem le_of_run (h : ChangesUnder step version value) (hrun : Relation.ReflTransGen step s t) :
    version s ≤ version t := by
  induction hrun with
  | refl => exact le_refl _
  | tail _ hstep ih => exact ih.trans (h.mono hstep)

/-- A run that ends in the version that it began with keeps the value. -/
theorem eq_of_run (h : ChangesUnder step version value) (hrun : Relation.ReflTransGen step s t)
    (hversion : version s = version t) : value s = value t := by
  induction hrun with
  | refl => rfl
  | tail hrun hstep ih =>
    have hback := hversion.ge.trans' (h.mono hstep)
    have hmiddle := le_antisymm (h.le_of_run hrun) hback
    have hlast := hmiddle.symm.trans hversion
    exact (ih hmiddle).trans (h.kept hstep hlast)

/-- Between two states of one version every state has their value. -/
theorem eq_between (h : ChangesUnder step version value) (hsu : Relation.ReflTransGen step s u)
    (hut : Relation.ReflTransGen step u t) (hversion : version s = version t) :
    value u = value s := by
  have hback := hversion.ge.trans' (h.le_of_run hut)
  have hmiddle := le_antisymm (h.le_of_run hsu) hback
  exact (h.eq_of_run hsu hmiddle).symm

end ChangesUnder

/-- The version of a record that is written once: none, or some. -/
def presence (value : Option α) : WithBot Unit := value.map fun _ => ()

/-- A record that is never removed nor replaced changes under its presence. -/
theorem changesUnder_presence {step : σ → σ → Prop} {value : σ → Option α}
    (h : ∀ {s t a}, step s t → value s = some a → value t = some a) :
    ChangesUnder step (fun s => presence (value s)) value where
  mono {s t} hstep := by
    cases hs : value s with
    | none => exact bot_le
    | some a =>
      rw [h hstep hs]
  kept {s t} hstep hversion := by
    cases hs : value s with
    | none =>
      cases ht : value t with
      | none => rfl
      | some b =>
        rw [hs, ht] at hversion
        cases hversion
    | some a => exact (h hstep hs).symm

/-- The revision of a record that may be absent. -/
def revisionOf (revision : α → ℕ) (value : Option α) : WithBot ℕ := value.map revision

/-- A record that is never removed, and replaced only under a higher revision, changes under
its revision. -/
theorem changesUnder_revision {step : σ → σ → Prop} {value : σ → Option α} {revision : α → ℕ}
    (h : ∀ {s t a}, step s t → value s = some a →
      ∃ b, value t = some b ∧ (b = a ∨ revision a < revision b)) :
    ChangesUnder step (fun s => revisionOf revision (value s)) value where
  mono {s t} hstep := by
    cases hs : value s with
    | none => exact bot_le
    | some a =>
      obtain ⟨b, hb, hor⟩ := h hstep hs
      rw [hb]
      refine WithBot.coe_le_coe.mpr ?_
      rcases hor with rfl | hlt
      · exact le_refl _
      · exact le_of_lt hlt
  kept {s t} hstep hversion := by
    cases hs : value s with
    | none =>
      cases ht : value t with
      | none => rfl
      | some b =>
        rw [hs, ht] at hversion
        cases hversion
    | some a =>
      obtain ⟨b, hb, hor⟩ := h hstep hs
      rw [hs, hb] at hversion
      have hrevision : revision a = revision b := WithBot.coe_injective hversion
      rcases hor with rfl | hlt
      · exact hb.symm
      · omega

end AthenaContext.VersionedReads
