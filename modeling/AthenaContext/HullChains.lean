import AthenaContext.HullClosures
import AthenaContext.IntervalChains
import Mathlib

/-!
# Chains and hulls

A chain of touching intervals that begins before an interval and ends after it touches the
interval on its way. So what a hull grows to has all of every chain that it touches, and it is one
chain exactly when its seeds are linked in it.
-/

namespace AthenaContext.HullChains

open HullClosures IntervalChains

variable {γ τ : Type*} [LinearOrder τ] {first last : γ → τ} {intervals others seeds : List γ}
  {P : γ → Prop} {a b c p q : γ}

/-- A chain does not jump over an interval. -/
theorem linked_meets {low high : τ} (horder : low ≤ high) (h : Linked first last P a b)
    (ha : first a ≤ high) (hb : low ≤ last b) :
    ∃ x, Linked first last P a x ∧ Linked first last P x b ∧ first x ≤ high ∧ low ≤ last x := by
  have hwalk : (∃ x, Linked first last P a x ∧ Linked first last P x b ∧ first x ≤ high ∧ low ≤ last x) ∨
      last b < low := by
    clear hb
    induction h with
    | refl =>
      rcases le_or_gt low (last a) with hmeets | hbefore
      · exact .inl ⟨a, Relation.ReflTransGen.refl, Relation.ReflTransGen.refl, ha, hmeets⟩
      · exact .inr hbefore
    | @tail b c hchain hstep ih =>
      rcases ih with ⟨x, hax, hxb, hfirst, hlast⟩ | hbefore
      · exact .inl ⟨x, hax, hxb.tail hstep, hfirst, hlast⟩
      · rcases le_or_gt low (last c) with hmeets | hbefore'
        · exact .inl ⟨c, hchain.tail hstep, Relation.ReflTransGen.refl,
            hstep.2.2.2.trans (hbefore.le.trans horder), hmeets⟩
        · exact .inr hbefore'
  exact hwalk.resolve_right (not_lt.mpr hb)

/-- What is reached depends on the intervals and the seeds alone. -/
theorem reached_congr {seeds' : List γ} (hintervals : ∀ x, x ∈ intervals → x ∈ others)
    (hseeds : ∀ x, x ∈ seeds → x ∈ seeds') (h : Reached first last intervals seeds c) :
    Reached first last others seeds' c := by
  induction h with
  | seed hseed => exact .seed (hseeds _ hseed)
  | touched _ _ hmem hfirst hlast iha ihb => exact .touched iha ihb (hintervals _ hmem) hfirst hlast

/-- A reached interval is a seed or one of the intervals. -/
theorem reached_mem (h : Reached first last intervals seeds c) (hseeds : ∀ x ∈ seeds, x ∈ intervals) :
    c ∈ intervals := by
  cases h with
  | seed hseed => exact hseeds c hseed
  | touched _ _ hmem _ _ => exact hmem

/-- Nothing grows from nothing. -/
theorem reached_empty (h : Reached first last intervals [] c) : False := by
  induction h with
  | seed hseed => cases hseed
  | touched _ _ _ _ _ iha _ => exact iha

/-- A reached interval brings its chains. -/
theorem reached_chain (hP : ∀ x, P x → x ∈ intervals) (h : Reached first last intervals seeds a)
    (hchain : Linked first last P a b) : Reached first last intervals seeds b :=
  hchain.stays (fun x => Reached first last intervals seeds x) h
    fun _ y _ hy hx htouch => .touched hx hx (hP y hy) htouch.1 htouch.2

/-- A chain that goes from before the end of a reached interval to after the start of another one is
reached. -/
theorem reached_spanned (hvalid : ∀ x, Reached first last intervals seeds x → first x ≤ last x)
    (hP : ∀ x, P x → x ∈ intervals) (ha : Reached first last intervals seeds a)
    (hb : Reached first last intervals seeds b) (hq : P q) (hchain : Linked first last P q p)
    (hfirst : first a ≤ last p) (hlast : first q ≤ last b) : Reached first last intervals seeds q := by
  have hmeeting : ∀ {a b : γ}, Reached first last intervals seeds a → Reached first last intervals seeds b →
      first a ≤ last b → first a ≤ last p → first q ≤ last b → Reached first last intervals seeds q := by
    intro a b ha hb horder hfirst hlast
    obtain ⟨x, hqx, -, hbefore, hafter⟩ := linked_meets horder hchain hlast hfirst
    have hx : Reached first last intervals seeds x :=
      .touched ha hb (hP x (hqx.right hq)) hafter hbefore
    exact reached_chain hP hx hqx.symm
  rcases le_or_gt (first a) (last b) with horder | happart
  · exact hmeeting ha hb horder hfirst hlast
  · -- the two reached intervals are the other way round
    have hab : first b ≤ last a := (hvalid b hb).trans (happart.le.trans (hvalid a ha))
    exact hmeeting hb ha hab ((hvalid b hb).trans (happart.le.trans hfirst))
      (hlast.trans (happart.le.trans (hvalid a ha)))

/-- What is reached is one chain when its seeds are linked in it. -/
theorem linked_of_seeds (hvalid : ∀ x, Reached first last intervals seeds x → first x ≤ last x)
    (hseeds : ∀ x ∈ seeds, ∀ y ∈ seeds, Linked first last (Reached first last intervals seeds) x y)
    (ha : Reached first last intervals seeds a) (hb : Reached first last intervals seeds b) :
    Linked first last (Reached first last intervals seeds) a b := by
  have hfrom : ∀ c, Reached first last intervals seeds c →
      ∃ s ∈ seeds, Linked first last (Reached first last intervals seeds) s c := by
    intro c hc
    induction hc with
    | seed hseed => exact ⟨_, hseed, Relation.ReflTransGen.refl⟩
    | @touched a b c hra hrb hmem hfirst hlast iha ihb =>
      obtain ⟨s, hs, hsa⟩ := iha
      obtain ⟨t, ht, htb⟩ := ihb
      have hab : Linked first last (Reached first last intervals seeds) a b :=
        (hsa.symm.trans (hseeds s hs t ht)).trans htb
      have hc : Reached first last intervals seeds c := .touched hra hrb hmem hfirst hlast
      obtain ⟨x, hax, -, hbefore, hafter⟩ := linked_meets (hvalid c hc) hab hfirst hlast
      exact ⟨s, hs, (hsa.trans hax).tail ⟨hax.right hra, hc, hbefore, hafter⟩⟩
  obtain ⟨s, hs, hsa⟩ := hfrom a ha
  obtain ⟨t, ht, htb⟩ := hfrom b hb
  exact (hsa.symm.trans (hseeds s hs t ht)).trans htb

end AthenaContext.HullChains
