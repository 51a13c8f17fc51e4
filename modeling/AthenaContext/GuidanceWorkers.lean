import AthenaContext.TransitionSystems
import Mathlib

/-!
# Workers over a list of values

The workers of the browser take the values of a list one by one, each the next one when its
mapper has answered. Mappers answer in any order or fail; a worker whose mapper fails takes no
further value, and the others go on.
-/

namespace AthenaContext.GuidanceWorkers

open TransitionSystems

variable {α β ε : Type} (values : List α) (maximumConcurrency : ℕ) (mapper : α → β → Prop)

/-! ## The pool -/

/-- `nextIndex` and `output` of a pool, the indexes that the mapper was called with so far, those it
has not answered, those it has failed at, and what `Promise.all` rejects with. -/
structure State (β ε : Type) where
  nextIndex : ℕ
  called : List ℕ
  inFlight : List ℕ
  failed : List ℕ
  output : List (Option β)
  rejected : Option ε

/-- The head of the loop of a worker, up to its `await`. -/
def takeNext (s : State β ε) : State β ε :=
  if s.nextIndex < values.length then
    { s with
      nextIndex := s.nextIndex + 1
      called := s.called ++ [s.nextIndex]
      inFlight := s.inFlight ++ [s.nextIndex] }
  else s

/-- The pool before its workers start. -/
def idle : State β ε := ⟨0, [], [], [], List.replicate values.length none, none⟩

/-- `mapWithGuidanceConcurrency` up to its `await`. -/
def start : State β ε := (takeNext values)^[min maximumConcurrency values.length] (idle values)

inductive Event (β ε : Type)
  | resolve (index : ℕ) (value : β)
  | reject (index : ℕ) (error : ε)

/-- A mapper answers. -/
inductive Step (s : State β ε) : Event β ε → State β ε → Prop
  | resolve {i a v} (hi : i ∈ s.inFlight) (ha : values[i]? = some a) (hv : mapper a v) :
    Step s (.resolve i v)
      (takeNext values { s with inFlight := s.inFlight.erase i, output := s.output.set i (some v) })
  | reject {i e} (hi : i ∈ s.inFlight) :
    Step s (.reject i e)
      { s with
        inFlight := s.inFlight.erase i
        failed := s.failed ++ [i]
        rejected := s.rejected <|> some e }

def system : TransitionSystem (State β ε) (Event β ε) where
  init s := s = start values maximumConcurrency
  step := Step values mapper

/-- What the promise of the pool is settled with. -/
def State.settled (s : State β ε) : Option (Except ε (List (Option β))) :=
  match s.rejected with
  | some e => some (.error e)
  | none => if s.inFlight = [] then some (.ok s.output) else none

/-! ## The invariant -/

/-- A pool of workers, of which some may be between two calls. -/
structure Valid (workers : ℕ) (s : State β ε) : Prop where
  called : s.called = List.range s.nextIndex
  bounded : s.nextIndex ≤ values.length
  size : s.output.length = values.length
  fresh : ∀ i : ℕ, s.nextIndex ≤ i → i < values.length → s.output[i]? = some none
  pending : ∀ i ∈ s.inFlight ++ s.failed, i < s.nextIndex ∧ s.output[i]? = some none
  distinct : (s.inFlight ++ s.failed).Nodup
  waiting : ∀ i : ℕ, s.output[i]? = some none → s.nextIndex ≤ i ∨ i ∈ s.inFlight ++ s.failed
  mapped : ∀ (i : ℕ) (v : β), s.output[i]? = some (some v) → ∃ a, values[i]? = some a ∧ mapper a v
  counted : s.nextIndex = s.inFlight.length + s.failed.length + s.output.countP (·.isSome)
  crowded : s.inFlight.length + s.failed.length ≤ workers
  busy : workers ≤ s.inFlight.length + s.failed.length ∨ s.nextIndex = values.length
  quiet : s.rejected = none → s.failed = []

variable {values maximumConcurrency mapper} {workers : ℕ} {s t : State β ε}

theorem valid_idle : Valid values mapper 0 (idle values : State β ε) where
  called := rfl
  bounded := Nat.zero_le _
  size := List.length_replicate
  fresh i _ hi := List.getElem?_replicate_of_lt hi
  pending _ hi := absurd hi List.not_mem_nil
  distinct := List.nodup_nil
  waiting _ _ := .inl (Nat.zero_le _)
  mapped i v hv := by
    have hmem := List.mem_of_getElem? hv
    cases List.eq_of_mem_replicate hmem
  counted := by
    rw [idle, List.countP_replicate]
    rfl
  crowded := Nat.zero_le _
  busy := .inl (Nat.zero_le _)
  quiet _ := rfl

/-- A worker that looks for its next value is busy again, or there is none left. -/
theorem Valid.takeNext (h : Valid values mapper workers s) :
    Valid values mapper (workers + 1) (takeNext values s) := by
  rw [GuidanceWorkers.takeNext]
  split
  · next hmore =>
    have hfresh : s.nextIndex ∉ s.inFlight ++ s.failed := fun hmem =>
      absurd (h.pending _ hmem).1 (lt_irrefl _)
    have hperm : (s.inFlight ++ [s.nextIndex] ++ s.failed).Perm
        (s.nextIndex :: (s.inFlight ++ s.failed)) := by
      rw [List.append_assoc]
      exact List.perm_middle
    have hcounted := h.counted
    have hcrowded := h.crowded
    have hbusy := h.busy
    refine ⟨?_, hmore, h.size, fun i hle => h.fresh i (Nat.le_of_succ_le hle), fun i hi => ?_,
      hperm.nodup_iff.mpr (List.nodup_cons.mpr ⟨hfresh, h.distinct⟩),
      fun i hi => ?_, h.mapped, ?_, ?_, ?_, h.quiet⟩
    · dsimp only
      rw [List.range_succ, h.called]
    · rcases List.mem_cons.mp (hperm.mem_iff.mp hi) with rfl | hi
      · exact ⟨Nat.lt_succ_self _, h.fresh _ le_rfl hmore⟩
      · obtain ⟨hlt, hcell⟩ := h.pending i hi
        exact ⟨hlt.trans (Nat.lt_succ_self _), hcell⟩
    · dsimp only
      rw [hperm.mem_iff, List.mem_cons]
      rcases h.waiting i hi with hle | hmem
      · rcases Nat.eq_or_lt_of_le hle with heq | hlt
        · exact .inr (.inl heq.symm)
        · exact .inl hlt
      · exact .inr (.inr hmem)
    · dsimp only
      rw [List.length_append, List.length_singleton]
      omega
    · dsimp only
      rw [List.length_append, List.length_singleton]
      omega
    · dsimp only
      rw [List.length_append, List.length_singleton]
      omega
  · next hdone =>
    have hbounded := h.bounded
    exact ⟨h.called, h.bounded, h.size, h.fresh, h.pending, h.distinct, h.waiting, h.mapped, h.counted,
      h.crowded.trans (Nat.le_succ _), .inr (by omega), h.quiet⟩

/-- An index leaves the calls in flight. -/
theorem Valid.erase (h : Valid values mapper workers s) {i : ℕ} (hi : i ∈ s.inFlight) :
    (s.inFlight ++ s.failed).Perm (i :: (s.inFlight.erase i ++ s.failed)) ∧
      i ∉ s.inFlight.erase i ++ s.failed ∧ s.inFlight.length = (s.inFlight.erase i).length + 1 := by
  have hperm : (s.inFlight ++ s.failed).Perm (i :: (s.inFlight.erase i ++ s.failed)) :=
    (List.perm_cons_erase hi).append_right s.failed
  exact ⟨hperm, (List.nodup_cons.mp (hperm.nodup_iff.mp h.distinct)).1,
    (List.perm_cons_erase hi).length_eq⟩

theorem Valid.resolve (h : Valid values mapper (workers + 1) s) {i : ℕ} {a : α} {v : β}
    (hi : i ∈ s.inFlight) (ha : values[i]? = some a) (hv : mapper a v) :
    Valid values mapper workers
      { s with inFlight := s.inFlight.erase i, output := s.output.set i (some v) } := by
  obtain ⟨hperm, hnew, hlength⟩ := h.erase hi
  obtain ⟨hlt, hcell⟩ := h.pending i (List.mem_append_left _ hi)
  obtain ⟨hsize, hvalue⟩ := List.getElem?_eq_some_iff.mp hcell
  have hother : ∀ {j : ℕ}, j ≠ i → (s.output.set i (some v))[j]? = s.output[j]? :=
    fun hne => List.getElem?_set_ne hne.symm
  have hsame : (s.output.set i (some v))[i]? = some (some v) := List.getElem?_set_self hsize
  have hcounted := h.counted
  have hcrowded := h.crowded
  have hbusy := h.busy
  refine ⟨h.called, h.bounded, List.length_set.trans h.size, fun j hle hj => ?_, fun j hj => ?_,
    (List.nodup_cons.mp (hperm.nodup_iff.mp h.distinct)).2, fun j hj => ?_, fun j w hj => ?_, ?_, ?_, ?_,
    h.quiet⟩
  · dsimp only at hle ⊢
    rw [hother (by omega)]
    exact h.fresh j hle hj
  · dsimp only at hj ⊢
    obtain ⟨hlt', hcell'⟩ := h.pending j (hperm.mem_iff.mpr (List.mem_cons_of_mem _ hj))
    have hne : j ≠ i := by
      rintro rfl
      exact hnew hj
    rw [hother hne]
    exact ⟨hlt', hcell'⟩
  · dsimp only at hj ⊢
    rcases eq_or_ne j i with rfl | hne
    · rw [hsame] at hj
      cases hj
    · rw [hother hne] at hj
      refine (h.waiting j hj).imp_right fun hmem => ?_
      exact (List.mem_cons.mp (hperm.mem_iff.mp hmem)).resolve_left hne
  · dsimp only at hj
    rcases eq_or_ne j i with rfl | hne
    · rw [hsame] at hj
      cases hj
      exact ⟨a, ha, hv⟩
    · rw [hother hne] at hj
      exact h.mapped j w hj
  · dsimp only
    rw [List.countP_set hsize, hvalue]
    simp only [Option.isSome_none, Option.isSome_some, Bool.false_eq_true, if_false, if_true]
    omega
  · dsimp only
    omega
  · dsimp only
    omega

theorem Valid.reject (h : Valid values mapper workers s) {i : ℕ} {e : ε} (hi : i ∈ s.inFlight) :
    Valid values mapper workers
      { s with
        inFlight := s.inFlight.erase i
        failed := s.failed ++ [i]
        rejected := s.rejected <|> some e } := by
  obtain ⟨hperm, _, hlength⟩ := h.erase hi
  have hmoved : (s.inFlight.erase i ++ (s.failed ++ [i])).Perm (s.inFlight ++ s.failed) := by
    rw [← List.append_assoc]
    exact (List.perm_append_singleton i _).trans hperm.symm
  have hcounted := h.counted
  have hcrowded := h.crowded
  have hbusy := h.busy
  have hlast : (s.failed ++ [i]).length = s.failed.length + 1 := List.length_append
  refine ⟨h.called, h.bounded, h.size, h.fresh, fun j hj => h.pending j (hmoved.mem_iff.mp hj),
    hmoved.nodup_iff.mpr h.distinct, fun j hj => (h.waiting j hj).imp_right hmoved.mem_iff.mpr,
    h.mapped, ?_, ?_, ?_, fun hnone => ?_⟩
  · dsimp only
    omega
  · dsimp only
    omega
  · dsimp only
    omega
  · dsimp only at hnone
    cases hrejected : s.rejected with
    | none =>
      rw [hrejected] at hnone
      cases hnone
    | some first =>
      rw [hrejected] at hnone
      cases hnone

/-! ## Runs -/

theorem valid_started (k : ℕ) : Valid values mapper k ((takeNext values)^[k] (idle values) : State β ε) := by
  induction k with
  | zero => exact valid_idle
  | succ k ih =>
    rw [Function.iterate_succ_apply']
    exact ih.takeNext

theorem valid_of_reachable (h : (system values maximumConcurrency mapper).Reachable s) :
    Valid values mapper (min maximumConcurrency values.length) s := by
  induction h with
  | start hinit =>
    rw [show _ = start values maximumConcurrency from hinit]
    exact valid_started _
  | next _ hstep ih =>
    cases hstep with
    | resolve hi ha hv =>
      -- a worker that answers was busy, so there is one
      have hpositive : 0 < min maximumConcurrency values.length :=
        (List.length_pos_of_mem hi).trans_le ((Nat.le_add_right _ _).trans ih.crowded)
      obtain ⟨k, hk⟩ := Nat.exists_eq_succ_of_ne_zero hpositive.ne'
      rw [hk] at ih ⊢
      exact (ih.resolve hi ha hv).takeNext
    | reject hi => exact ih.reject hi

/-- Slots that all hold values of the mapper are its values in order. -/
theorem exists_results {values : List α} {output : List (Option β)} (hlength : output.length = values.length)
    (hfull : ∀ i : ℕ, output[i]? ≠ some none)
    (hmapped : ∀ (i : ℕ) (v : β), output[i]? = some (some v) → ∃ a, values[i]? = some a ∧ mapper a v) :
    ∃ results, output = results.map some ∧ List.Forall₂ mapper values results := by
  induction values generalizing output with
  | nil => exact ⟨[], List.length_eq_zero_iff.mp hlength, .nil⟩
  | cons a rest ih =>
    cases output with
    | nil => cases hlength
    | cons slot slots =>
      cases slot with
      | none => exact absurd rfl (hfull 0)
      | some v =>
        obtain ⟨a', ha, hv⟩ := hmapped 0 v rfl
        cases ha
        obtain ⟨results, hresults, hall⟩ := ih (Nat.succ.inj hlength) (fun i => hfull (i + 1))
          fun i w hw => hmapped (i + 1) w hw
        exact ⟨v :: results, by rw [List.map_cons, hresults], .cons hv hall⟩

/-- In whatever order the mappers answer: the values are called one after the other and each once,
with no more calls unanswered than there are workers, and every call is in flight, has failed or
has its value in its slot. A pool that is settled without a rejection has the values of the mapper in
the order of the list. A rejection does not stop the pool: unless every worker has failed, it goes
on to the last value. -/
theorem pool_maps_in_order (h : (system values maximumConcurrency mapper).Reachable s) :
    s.called = List.range s.nextIndex ∧ s.nextIndex ≤ values.length ∧
      s.inFlight.length + s.failed.length ≤ min maximumConcurrency values.length ∧
      s.nextIndex = s.inFlight.length + s.failed.length + s.output.countP (·.isSome) ∧
      (∀ output, 0 < maximumConcurrency → s.settled = some (.ok output) →
        s.nextIndex = values.length ∧
          ∃ results, output = results.map some ∧ List.Forall₂ mapper values results) ∧
      (s.inFlight = [] → s.failed.length < min maximumConcurrency values.length →
        s.nextIndex = values.length) := by
  have hvalid := valid_of_reachable h
  have hbusy := hvalid.busy
  have hbounded := hvalid.bounded
  refine ⟨hvalid.called, hbounded, hvalid.crowded, hvalid.counted, fun output hpositive hsettled => ?_,
    fun hdone hworker => ?_⟩
  · rw [State.settled] at hsettled
    split at hsettled
    · cases hsettled
    · next hrejected =>
      obtain ⟨hdone, houtput⟩ := Option.ite_none_right_eq_some.mp hsettled
      cases houtput
      have hfailed := hvalid.quiet hrejected
      rw [hdone, hfailed] at hbusy
      have hlast : s.nextIndex = values.length := by
        rcases hbusy with hnone | hlast
        · rw [List.length_nil] at hnone
          omega
        · exact hlast
      refine ⟨hlast, exists_results hvalid.size (fun i hi => ?_) hvalid.mapped⟩
      rcases hvalid.waiting i hi with hle | hmem
      · have hlt := (List.getElem?_eq_some_iff.mp hi).1
        have hsize := hvalid.size
        omega
      · rw [hdone, hfailed] at hmem
        exact absurd hmem List.not_mem_nil
  · rw [hdone, List.length_nil] at hbusy
    omega

/-- Two workers over three values. -/
def exampleSystem : TransitionSystem (State ℕ Unit) (Event ℕ Unit) :=
  system [1, 2, 3] 2 fun a v => v = a * 10

/-- The values are answered last to first, and the results are in the order of the list. -/
theorem pool_maps_in_order_swapped : ∃ s, exampleSystem.Reachable s ∧
    s.settled = some (.ok [some 10, some 20, some 30]) ∧
      ∃ results, [some 10, some 20, some 30] = results.map some ∧
        List.Forall₂ (fun a v => v = a * 10) [1, 2, 3] results := by
  have hstart : exampleSystem.Reachable (start [1, 2, 3] 2) := .start rfl
  have hsecond := hstart.next (.resolve (i := 1) (by decide) rfl rfl)
  have hthird := hsecond.next (.resolve (i := 2) (by decide) rfl rfl)
  have hlast := hthird.next (.resolve (i := 0) (by decide) rfl rfl)
  exact ⟨_, hlast, rfl, ((pool_maps_in_order hlast).2.2.2.2.1 _ (by decide) rfl).2⟩

end AthenaContext.GuidanceWorkers
