import AthenaContext.SignalDetector
import AthenaContext.StagedDelivery
import Mathlib

/-!
# Detector runs over the in-memory state store

Runs of the detector one after another, each holding the lease alone. Every
call may return, or raise before or after it took effect; a raise ends the run.
The trace of what took effect refines, resource by resource, the staged delivery
protocol, and the rows of the store are what that protocol says.
-/

namespace AthenaContext.SignalDetection

open IncidentRecords ReassessmentRequests SignalDetector StagedDelivery TransitionSystems

/-- What happened, in order, each with its resource. -/
abbrev Trace := List (ResourceId × Event ReassessmentRequest)

/-- The rows of the store and the trace of what took effect. -/
structure World where
  rows : ResourceId → SignalCheckpoint
  trace : Trace

/-- A row is written and an event recorded. -/
def World.record (w : World) (resource : ResourceId) (row : SignalCheckpoint)
    (event : Event ReassessmentRequest) : World :=
  ⟨Function.update w.rows resource row, w.trace ++ [(resource, event)]⟩

/-- The effect of a call: the sender, and the methods of
`InMemorySignalStateStore`. -/
def applyCall (w : World) : Call → Except String World
  | .load _ => .ok w
  | .observe _ _ => .ok w
  | .send request =>
    .ok (w.record request.targetResourceId (w.rows request.targetResourceId) (.sent request))
  | .complete resource requestId =>
    match (w.rows resource).pending with
    | some (healthy, request) =>
      if request.requestId = requestId then
        .ok (w.record resource ⟨some healthy, none⟩ (.completed request))
      else .error "detector pending transition changed before commit"
    | none => .error "detector pending transition changed before commit"
  | .stage resource healthy request =>
    match (w.rows resource).pending with
    | none =>
      .ok (w.record resource ⟨(w.rows resource).committedHealth, some (healthy, request)⟩
        (.staged request))
    | some _ => .error "detector transition is already pending"
  | .recordInitial resource => .ok (w.record resource ⟨some true, none⟩ .baseline)

/-- What a call returns, `healthy` being what an observation finds. -/
def reply (w : World) (healthy : Bool) : (c : Call) → c.Reply
  | .load resource => w.rows resource
  | .observe _ _ => healthy
  | .send _ => ()
  | .complete _ _ => ()
  | .stage _ _ _ => ()
  | .recordInitial _ => ()

/-- How a call ends: it returns, an observation with the health it found, or it
raises, with or without having taken effect. -/
inductive CallOutcome
  | returns (healthy : Bool)
  | raises (effect : Bool)
  deriving DecidableEq, Repr

/-- The world, the run under way, and the instants of all runs begun. -/
structure DetectorState where
  world : World
  running : Option (DetectorConfig × Run)
  instants : List UtcDateTime

/-- A run acquires the lease and begins, or makes its next call. -/
inductive DetectorAction
  | begin (config : DetectorConfig)
  | advance (outcome : CallOutcome)

/-- The world after a call with the given outcome. -/
def afterCall (w : World) (c : Call) : CallOutcome → World
  | .raises false => w
  | _ => match applyCall w c with
    | .ok written => written
    | .error _ => w

/-- The run after a call with the given outcome; a raise ends it. -/
def nextRun (w : World) (c : Call) (next : c.Reply → Run) : CallOutcome → Option Run
  | .raises _ => none
  | .returns healthy => match applyCall w c with
    | .ok _ => some (next (reply w healthy c))
    | .error _ => none

/-- One step of the detector. -/
def step (s : DetectorState) : DetectorAction → Option DetectorState
  | .begin config =>
    match s.running, validateApprovedResourceRoles config.roles with
    | none, .ok roles =>
      some ⟨s.world, some ({ config with roles }, ⟨[], .replay roles []⟩),
        config.observedAt :: s.instants⟩
    | _, _ => none
  | .advance outcome =>
    match s.running with
    | none => none
    | some (config, run) =>
      match instruction config run with
      | .silent next => some { s with running := some (config, next) }
      | .raise _ => some { s with running := none }
      | .return _ => some { s with running := none }
      | .call c next =>
        some ⟨afterCall s.world c outcome,
          (nextRun s.world c next outcome).map fun r => (config, r), s.instants⟩

/-- No run yet; some resources may have their healthy baseline. -/
def initial (baseline : ResourceId → Bool) : DetectorState :=
  ⟨⟨fun resource => ⟨if baseline resource then some true else none, none⟩, []⟩, none, []⟩

/-- Runs one after another. -/
def system (baseline : ResourceId → Bool) : TransitionSystem DetectorState DetectorAction :=
  ofStep (initial baseline) step

/-! ## Each resource follows the protocol -/

/-- The events of one resource. -/
def eventsOf (resource : ResourceId) (trace : Trace) : List (Event ReassessmentRequest) :=
  trace.filterMap fun entry => if entry.1 = resource then some entry.2 else none

/-- The health that a request carries. -/
def healthOf (request : ReassessmentRequest) : Bool := decide (request.lifecycle = .resolved)

/-- The protocol state before any event. -/
def startOf (baseline : ResourceId → Bool) (resource : ResourceId) :
    Progress ReassessmentRequest :=
  ⟨if baseline resource then some true else none, none⟩

/-- The protocol state of a resource, when the protocol accepts its events. -/
def progressOf (baseline : ResourceId → Bool) (trace : Trace) (resource : ResourceId) :
    Option (Progress ReassessmentRequest) :=
  accepts healthOf (startOf baseline resource) (eventsOf resource trace)

/-- A row is what the protocol state says. -/
structure RowMatches (resource : ResourceId) (row : SignalCheckpoint)
    (p : Progress ReassessmentRequest) : Prop where
  committed : row.committedHealth = p.committed
  pending : row.pending = p.pending.map fun entry => (healthOf entry.1, entry.1)
  target : ∀ r flag, p.pending = some (r, flag) → r.targetResourceId = resource

/-- Every resource's events are accepted and its row is the state they lead to. -/
def Follows (baseline : ResourceId → Bool) (w : World) : Prop :=
  ∀ resource, ∃ p, progressOf baseline w.trace resource = some p ∧
    RowMatches resource (w.rows resource) p

section Events

variable {baseline : ResourceId → Bool} {w : World} {resource other : ResourceId}
  {row : SignalCheckpoint} {event : Event ReassessmentRequest}

theorem eventsOf_record_self :
    eventsOf resource (w.record resource row event).trace =
      eventsOf resource w.trace ++ [event] := by
  simp [World.record, eventsOf]

theorem eventsOf_record_other (h : other ≠ resource) :
    eventsOf other (w.record resource row event).trace = eventsOf other w.trace := by
  simp [World.record, eventsOf, Ne.symm h]

theorem rows_record_self : (w.record resource row event).rows resource = row := by
  simp only [World.record, Function.update_self]

theorem rows_record_other (h : other ≠ resource) :
    (w.record resource row event).rows other = w.rows other := by
  simp only [World.record, Function.update_of_ne h]

/-- An event that the protocol accepts, with the row it leads to, keeps every
resource in step. -/
theorem Follows.record {p q : Progress ReassessmentRequest} (hw : Follows baseline w)
    (hp : progressOf baseline w.trace resource = some p) (hq : p.next healthOf event = some q)
    (hrow : RowMatches resource row q) : Follows baseline (w.record resource row event) := by
  intro other
  by_cases ho : other = resource
  · subst ho
    refine ⟨q, ?_, by rw [rows_record_self]; exact hrow⟩
    rw [progressOf, eventsOf_record_self]
    exact accepts_append.mpr ⟨p, hp, hq⟩
  · obtain ⟨p', hp', hrow'⟩ := hw other
    refine ⟨p', ?_, by rw [rows_record_other ho]; exact hrow'⟩
    rw [progressOf, eventsOf_record_other ho]
    exact hp'

/-- The pending request of a row is the pending request of the protocol. -/
theorem pending_of_row {healthy : Bool} {request : ReassessmentRequest} (hw : Follows baseline w)
    (h : (w.rows resource).pending = some (healthy, request)) :
    ∃ p flag, progressOf baseline w.trace resource = some p ∧
      p.pending = some (request, flag) ∧ healthy = healthOf request ∧
      p.committed = (w.rows resource).committedHealth ∧ request.targetResourceId = resource := by
  obtain ⟨p, hp, hrow⟩ := hw resource
  have hpending := hrow.pending
  rw [h] at hpending
  obtain ⟨⟨r, flag⟩, hflag, heq⟩ := Option.map_eq_some_iff.mp hpending.symm
  obtain ⟨hh, hr⟩ := Prod.mk.inj heq
  subst hr
  exact ⟨p, flag, hp, hflag, hh.symm, hrow.committed.symm, hrow.target _ flag hflag⟩

end Events

/-! ## What a run relies on -/

/-- The row of a resource is a known checkpoint without a pending request. -/
def Quiet (w : World) (resource : ResourceId) (checkpoint : SignalCheckpoint) : Prop :=
  w.rows resource = checkpoint ∧ checkpoint.pending = none

/-- The row of a resource holds a request. -/
def Held (w : World) (resource : ResourceId) (request : ReassessmentRequest) : Prop :=
  ∃ healthy, (w.rows resource).pending = some (healthy, request)

/-- The pending request of a resource was sent. -/
def HeldSent (baseline : ResourceId → Bool) (w : World) (resource : ResourceId)
    (request : ReassessmentRequest) : Prop :=
  ∃ p, progressOf baseline w.trace resource = some p ∧ p.pending = some (request, true)

/-- Observations carry the instant of their run. -/
def Dated (config : DetectorConfig) (observations : List ApprovedSignalObservation) : Prop :=
  ∀ o ∈ observations, o.observedAt = config.observedAt

/-- What holds of the store at each phase of a run. -/
def RunInvariant (baseline : ResourceId → Bool) (config : DetectorConfig) (w : World) :
    RunPhase → Prop
  | .replay todo loaded =>
    (∀ entry ∈ loaded, Quiet w entry.1 entry.2) ∧
      (loaded.map Prod.fst ++ todo.map Prod.fst).Nodup
  | .bind resource _ healthy request todo loaded =>
    (∀ entry ∈ loaded, Quiet w entry.1 entry.2) ∧
      (loaded.map Prod.fst ++ resource :: todo.map Prod.fst).Nodup ∧
      (w.rows resource).pending = some (healthy, request)
  | .resend resource request todo loaded =>
    (∀ entry ∈ loaded, Quiet w entry.1 entry.2) ∧
      (loaded.map Prod.fst ++ resource :: todo.map Prod.fst).Nodup ∧ Held w resource request
  | .recommit resource request todo loaded =>
    (∀ entry ∈ loaded, Quiet w entry.1 entry.2) ∧
      (loaded.map Prod.fst ++ resource :: todo.map Prod.fst).Nodup ∧
      HeldSent baseline w resource request
  | .observe todo loaded observations =>
    (∀ entry ∈ loaded, Quiet w entry.1 entry.2) ∧
      (observations.map ApprovedSignalObservation.resourceId ++ todo.map Prod.fst).Nodup ∧
      Dated config observations
  | .stage observations loaded initialHealthy pending =>
    (∀ o ∈ observations, ∀ checkpoint,
      loadedCheckpoint loaded o.resourceId = some checkpoint → Quiet w o.resourceId checkpoint) ∧
      (observations.map ApprovedSignalObservation.resourceId ++
        (initialHealthy ++ pending.map Prod.fst)).Nodup ∧
      (∀ resource ∈ initialHealthy, Quiet w resource emptyCheckpoint) ∧
      (∀ entry ∈ pending, Held w entry.1 entry.2) ∧ Dated config observations
  | .record initialHealthy pending =>
    (initialHealthy ++ pending.map Prod.fst).Nodup ∧
      (∀ resource ∈ initialHealthy, Quiet w resource emptyCheckpoint) ∧
      ∀ entry ∈ pending, Held w entry.1 entry.2
  | .send pending =>
    (pending.map Prod.fst).Nodup ∧ ∀ entry ∈ pending, Held w entry.1 entry.2
  | .commit resource request pending =>
    (resource :: pending.map Prod.fst).Nodup ∧ HeldSent baseline w resource request ∧
      ∀ entry ∈ pending, Held w entry.1 entry.2

/-- What makes the effect of a call an event of the protocol. -/
def CallSafe (baseline : ResourceId → Bool) (w : World) : Call → Prop
  | .load _ => True
  | .observe _ _ => True
  | .send request => Held w request.targetResourceId request
  | .complete resource requestId =>
    ∃ request, HeldSent baseline w resource request ∧ request.requestId = requestId
  | .stage resource healthy request =>
    (w.rows resource).pending = none ∧ request.lifecycle = lifecycleOf healthy ∧
      healthy ≠ (w.rows resource).committedHealth.getD true ∧
      request.targetResourceId = resource
  | .recordInitial resource => w.rows resource = emptyCheckpoint

section Calls

variable {baseline : ResourceId → Bool} {w written : World} {c : Call}

theorem healthOf_eq {request : ReassessmentRequest} {healthy : Bool}
    (h : request.lifecycle = lifecycleOf healthy) : healthOf request = healthy := by
  rw [healthOf, h]
  cases healthy <;> rfl

/-- The row of a resource whose pending request was sent. -/
theorem HeldSent.row {resource : ResourceId} {request : ReassessmentRequest}
    (hw : Follows baseline w) (h : HeldSent baseline w resource request) :
    (w.rows resource).pending = some (healthOf request, request) := by
  obtain ⟨p, hp, hsent⟩ := h
  obtain ⟨q, hq, hrow⟩ := hw resource
  rw [hp] at hq
  cases hq
  rw [hrow.pending, hsent]
  rfl

/-- A safe call that takes effect keeps every resource in step. -/
theorem applyCall_follows (hw : Follows baseline w) (hc : CallSafe baseline w c)
    (h : applyCall w c = .ok written) : Follows baseline written := by
  cases c with
  | load resource =>
    cases h
    exact hw
  | observe resource role =>
    cases h
    exact hw
  | send request =>
    cases h
    obtain ⟨healthy, hpending⟩ := hc
    obtain ⟨p, flag, hp, hflag, hh, hcommitted, htarget⟩ := pending_of_row hw hpending
    have hnext : p.next healthOf (.sent request) = some ⟨p.committed, some (request, true)⟩ := by
      simp [Progress.next, hflag]
    refine hw.record hp hnext ⟨hcommitted.symm, ?_, ?_⟩
    · rw [hpending, hh]
      rfl
    · intro r flag' hr
      cases hr
      rfl
  | complete resource requestId =>
    obtain ⟨request, hsent, hid⟩ := hc
    have hrow := hsent.row hw
    simp only [applyCall, hrow, hid, if_true] at h
    cases h
    obtain ⟨p, hp, hflag⟩ := hsent
    have hnext : p.next healthOf (.completed request) = some ⟨some (healthOf request), none⟩ := by
      simp [Progress.next, hflag]
    exact hw.record hp hnext ⟨rfl, rfl, fun r flag hr => by cases hr⟩
  | stage resource healthy request =>
    obtain ⟨hnone, hlifecycle, hne, htarget⟩ := hc
    have hh := healthOf_eq hlifecycle
    simp only [applyCall, hnone] at h
    cases h
    obtain ⟨p, hp, hrow⟩ := hw resource
    have hpending : p.pending = none := by
      have h' := hrow.pending
      rw [hnone] at h'
      exact Option.map_eq_none_iff.mp h'.symm
    have hnext : p.next healthOf (.staged request) =
        some ⟨p.committed, some (request, false)⟩ := by
      rw [hrow.committed] at hne
      simp [Progress.next, hpending, hh, hne]
    refine hw.record hp hnext ⟨hrow.committed, ?_, ?_⟩
    · rw [← hh]
      rfl
    · intro r flag hr
      cases hr
      exact htarget
  | recordInitial resource =>
    cases h
    obtain ⟨p, hp, hrow⟩ := hw resource
    have hempty : w.rows resource = emptyCheckpoint := hc
    have hpending : p.pending = none := by
      have h' := hrow.pending
      rw [hempty] at h'
      exact Option.map_eq_none_iff.mp h'.symm
    have hcommitted : p.committed = none := by
      rw [← hrow.committed, hempty]
      rfl
    have hnext : p.next healthOf .baseline = some ⟨some true, none⟩ := by
      simp [Progress.next, hpending, hcommitted]
    exact hw.record hp hnext ⟨rfl, rfl, fun r flag hr => by cases hr⟩

theorem Quiet.record_other {resource other : ResourceId} {checkpoint row : SignalCheckpoint}
    {event : Event ReassessmentRequest} (hne : other ≠ resource) (h : Quiet w other checkpoint) :
    Quiet (w.record resource row event) other checkpoint := by
  refine ⟨?_, h.2⟩
  rw [rows_record_other hne]
  exact h.1

theorem Held.record_other {resource other : ResourceId} {request : ReassessmentRequest}
    {row : SignalCheckpoint} {event : Event ReassessmentRequest} (hne : other ≠ resource)
    (h : Held w other request) : Held (w.record resource row event) other request := by
  obtain ⟨healthy, hp⟩ := h
  refine ⟨healthy, ?_⟩
  rw [rows_record_other hne]
  exact hp

/-- A held request is about the resource of its row. -/
theorem Held.target {resource : ResourceId} {request : ReassessmentRequest}
    (hw : Follows baseline w) (h : Held w resource request) :
    request.targetResourceId = resource := by
  obtain ⟨healthy, hp⟩ := h
  obtain ⟨-, -, -, -, -, -, htarget⟩ := pending_of_row hw hp
  exact htarget

/-- A held request that is sent is held and sent. -/
theorem Held.sent {resource : ResourceId} {request : ReassessmentRequest}
    (hw : Follows baseline w) (h : Held w resource request) :
    HeldSent baseline (w.record resource (w.rows resource) (.sent request)) resource request := by
  obtain ⟨healthy, hp⟩ := h
  obtain ⟨p, flag, hprogress, hflag, -, -, -⟩ := pending_of_row hw hp
  have hnext : p.next healthOf (.sent request) = some ⟨p.committed, some (request, true)⟩ := by
    simp [Progress.next, hflag]
  refine ⟨⟨p.committed, some (request, true)⟩, ?_, rfl⟩
  rw [progressOf, eventsOf_record_self]
  exact accepts_append.mpr ⟨p, hprogress, hnext⟩

end Calls

/-! ## Every instruction keeps the invariant -/

section Instructions

variable {baseline : ResourceId → Bool} {config : DetectorConfig} {w : World}
  {sent : List ReassessmentRequest} {phase : RunPhase} {next : Run}

/-- An element moved behind the second list. -/
theorem nodup_move_middle {α : Type} [DecidableEq α] {x : α} {a b c : List α}
    (h : (x :: a ++ (b ++ c)).Nodup) : (a ++ ((b ++ [x]) ++ c)).Nodup := by
  refine (List.Perm.nodup_iff ?_).mpr h
  rw [List.perm_iff_count]
  intro y
  simp only [List.count_append, List.count_cons, List.count_nil]
  omega

/-- An element moved to the end. -/
theorem nodup_move_last {α : Type} [DecidableEq α] {x : α} {a b c : List α}
    (h : (x :: a ++ (b ++ c)).Nodup) : (a ++ (b ++ (c ++ [x]))).Nodup := by
  refine (List.Perm.nodup_iff ?_).mpr h
  rw [List.perm_iff_count]
  intro y
  simp only [List.count_append, List.count_cons, List.count_nil]
  omega

/-- A resource between two lists of distinct resources is in neither. -/
theorem not_mem_of_nodup_middle {α : Type} {x : α} {a b : List α} (h : (a ++ x :: b).Nodup) :
    x ∉ a ∧ x ∉ b := by
  have h' : (x :: (a ++ b)).Nodup := List.perm_middle.nodup_iff.mp h
  have hx := (List.nodup_cons.mp h').1
  exact ⟨fun ha => hx (List.mem_append_left _ ha), fun hb => hx (List.mem_append_right _ hb)⟩

/-- The checkpoint of a resource among the loaded ones is one of them. -/
theorem loadedCheckpoint_mem {loaded : Loaded} {resource : ResourceId}
    {checkpoint : SignalCheckpoint} (h : loadedCheckpoint loaded resource = some checkpoint) :
    (resource, checkpoint) ∈ loaded := by
  obtain ⟨entry, he, hc⟩ := Option.map_eq_some_iff.mp h
  have hmem := List.mem_of_find?_eq_some he
  have hkey : entry.1 = resource := by simpa using List.find?_some he
  rw [← hkey, ← hc]
  exact hmem

/-- A checkpoint that does not emit and was never committed is the empty one. -/
theorem empty_of_quiet {checkpoint : SignalCheckpoint} {resource : ResourceId}
    (hq : Quiet w resource checkpoint) (hn : checkpoint.committedHealth.isNone = true) :
    Quiet w resource emptyCheckpoint := by
  have he : checkpoint = emptyCheckpoint := by
    obtain ⟨committed, pending⟩ := checkpoint
    have hp : pending = none := hq.2
    have hc : committed = none := Option.isNone_iff_eq_none.mp hn
    rw [hp, hc, emptyCheckpoint]
  rw [← he]
  exact hq

/-- What is emitted differs from the committed health, a missing one counting as
healthy. -/
theorem emits_ne {previous : Option Bool} {healthy : Bool} (h : emits previous healthy = true) :
    healthy ≠ previous.getD true := by
  cases previous with
  | none =>
    cases healthy <;> simp_all [emits]
  | some b =>
    cases healthy <;> cases b <;> simp_all [emits]

/-- A step of the run without a call keeps what the run relies on. -/
theorem silent_invariant (hroles : (config.roles.map Prod.fst).Nodup)
    (hi : RunInvariant baseline config w phase)
    (h : instruction config ⟨sent, phase⟩ = .silent next) :
    RunInvariant baseline config w next.phase := by
  cases phase with
  | replay todo loaded =>
    cases todo with
    | nil =>
      cases h
      refine ⟨hi.1, hroles, fun o ho => ?_⟩
      cases ho
    | cons entry todo =>
      obtain ⟨resource, role⟩ := entry
      simp only [instruction] at h
      split at h <;> cases h
  | bind resource role healthy request todo loaded =>
    simp only [instruction] at h
    split at h
    · cases h
    · cases h
    · cases h
      exact ⟨hi.1, hi.2.1, healthy, hi.2.2⟩
  | resend resource request todo loaded => cases h
  | recommit resource request todo loaded => cases h
  | observe todo loaded observations =>
    obtain ⟨hl, hn, hd⟩ := hi
    cases todo with
    | nil =>
      cases h
      refine ⟨fun o _ checkpoint hc => hl _ (loadedCheckpoint_mem hc), hn, ?_, ?_, hd⟩
      · intro resource hr
        cases hr
      · intro entry he
        cases he
    | cons entry todo =>
      obtain ⟨resource, role⟩ := entry
      simp only [instruction] at h
      split at h
      · cases h
        exact ⟨hl, hn.sublist ((List.sublist_cons_self _ _).append_left _), hd⟩
      · cases h
  | stage observations loaded initialHealthy pending =>
    obtain ⟨hl, hn, hinitial, hpending, hd⟩ := hi
    cases observations with
    | nil =>
      cases h
      exact ⟨hn, hinitial, hpending⟩
    | cons o rest =>
      have hrest : ∀ o' ∈ rest, ∀ checkpoint,
          loadedCheckpoint loaded o'.resourceId = some checkpoint →
            Quiet w o'.resourceId checkpoint :=
        fun o' ho' => hl o' (List.mem_cons_of_mem _ ho')
      have hdated : Dated config rest := fun o' ho' => hd o' (List.mem_cons_of_mem _ ho')
      simp only [instruction] at h
      split at h
      · cases h
      · rename_i checkpoint hc
        split at h
        · split at h <;> cases h
        · split at h
          · rename_i hnone
            cases h
            refine ⟨hrest, nodup_move_middle hn, fun resource hr => ?_, hpending, hdated⟩
            rcases List.mem_append.mp hr with hr | hr
            · exact hinitial resource hr
            · rw [List.mem_singleton.mp hr]
              exact empty_of_quiet (hl o List.mem_cons_self checkpoint hc) hnone
          · cases h
            exact ⟨hrest, (List.nodup_cons.mp hn).2, hinitial, hpending, hdated⟩
  | record initialHealthy pending =>
    cases initialHealthy with
    | nil =>
      cases h
      exact ⟨hi.1, hi.2.2⟩
    | cons resource rest => cases h
  | send pending =>
    cases pending with
    | nil => cases h
    | cons entry rest =>
      obtain ⟨resource, request⟩ := entry
      cases h
  | commit resource request pending => cases h

/-- What a sent request leaves behind: the row as it was, and the record. -/
theorem applyCall_complete {resource : ResourceId} {request : ReassessmentRequest}
    {written : World} (hw : Follows baseline w) (hsent : HeldSent baseline w resource request)
    (h : applyCall w (.complete resource request.requestId) = .ok written) :
    written = w.record resource ⟨some (healthOf request), none⟩ (.completed request) := by
  simp only [applyCall, hsent.row hw, if_true] at h
  exact (Except.ok.inj h).symm

/-- Every call of a run is safe, and where it returns the run finds what its
next phase relies on. -/
theorem call_invariant {c : Call} {next : c.Reply → Run} (hw : Follows baseline w)
    (hi : RunInvariant baseline config w phase)
    (h : instruction config ⟨sent, phase⟩ = .call c next) :
    CallSafe baseline w c ∧ ∀ written healthy, applyCall w c = .ok written →
      RunInvariant baseline config written (next (reply w healthy c)).phase := by
  cases phase with
  | replay todo loaded =>
    cases todo with
    | nil => cases h
    | cons entry todo =>
      obtain ⟨resource, role⟩ := entry
      obtain ⟨hl, hn⟩ := hi
      simp only [instruction] at h
      split at h
      · cases h
      · cases h
        refine ⟨trivial, fun written healthy ha => ?_⟩
        cases ha
        dsimp only [reply]
        split
        · rename_i hnone
          refine ⟨fun entry he => ?_, ?_⟩
          · rcases List.mem_append.mp he with he | he
            · exact hl entry he
            · rw [List.mem_singleton.mp he]
              exact ⟨rfl, hnone⟩
          · rw [List.map_append, List.append_assoc]
            exact hn
        · rename_i hsome
          exact ⟨hl, hn, hsome⟩
  | bind resource role healthy request todo loaded =>
    simp only [instruction] at h
    split at h <;> cases h
  | resend resource request todo loaded =>
    obtain ⟨hl, hn, hheld⟩ := hi
    have htarget := hheld.target hw
    cases h
    refine ⟨by rw [← htarget] at hheld; exact hheld, fun written healthy ha => ?_⟩
    cases ha
    rw [htarget]
    refine ⟨fun entry he => ?_, hn, hheld.sent hw⟩
    have hne : entry.1 ≠ resource := fun he' =>
      (not_mem_of_nodup_middle hn).1 (he' ▸ List.mem_map_of_mem he)
    exact (hl entry he).record_other hne
  | recommit resource request todo loaded =>
    obtain ⟨hl, hn, hsent⟩ := hi
    cases h
    refine ⟨⟨request, hsent, rfl⟩, fun written healthy ha => ?_⟩
    rw [applyCall_complete hw hsent ha]
    refine ⟨fun entry he => ?_, hn.sublist ((List.sublist_cons_self _ _).append_left _)⟩
    have hne : entry.1 ≠ resource := fun he' =>
      (not_mem_of_nodup_middle hn).1 (he' ▸ List.mem_map_of_mem he)
    exact (hl entry he).record_other hne
  | observe todo loaded observations =>
    obtain ⟨hl, hn, hd⟩ := hi
    cases todo with
    | nil => cases h
    | cons entry todo =>
      obtain ⟨resource, role⟩ := entry
      simp only [instruction] at h
      split at h
      · cases h
      · cases h
        refine ⟨trivial, fun written healthy ha => ?_⟩
        cases ha
        refine ⟨hl, ?_, fun o ho => ?_⟩
        · rw [List.map_append, List.append_assoc]
          exact hn
        · rcases List.mem_append.mp ho with ho | ho
          · exact hd o ho
          · rw [List.mem_singleton.mp ho]
  | stage observations loaded initialHealthy pending =>
    obtain ⟨hl, hn, hinitial, hpending, hd⟩ := hi
    cases observations with
    | nil => cases h
    | cons o rest =>
      simp only [instruction] at h
      split at h
      · cases h
      · rename_i checkpoint hc
        split at h
        · rename_i hemits
          split at h
          · cases h
          · rename_i request hbuilt
            cases h
            obtain ⟨hrow, hnone⟩ := hl o List.mem_cons_self checkpoint hc
            obtain ⟨htarget, hlifecycle, -⟩ := buildSignalReassessmentRequest_ok hbuilt
            have hnone' : (w.rows o.resourceId).pending = none := by
              rw [hrow]
              exact hnone
            have hemitted : o.healthy ≠ (w.rows o.resourceId).committedHealth.getD true := by
              rw [hrow]
              exact emits_ne hemits
            refine ⟨⟨hnone', hlifecycle, hemitted, htarget⟩, fun written healthy ha => ?_⟩
            simp only [applyCall, hnone'] at ha
            cases ha
            have hmem : o.resourceId ∉ rest.map ApprovedSignalObservation.resourceId ++
                (initialHealthy ++ pending.map Prod.fst) := (List.nodup_cons.mp hn).1
            have hother : ∀ r, r ∈ rest.map ApprovedSignalObservation.resourceId ++
                (initialHealthy ++ pending.map Prod.fst) → r ≠ o.resourceId := by
              intro r hr he
              rw [he] at hr
              exact hmem hr
            refine ⟨fun o' ho' cp hcp => ?_, ?_, fun r hr => ?_, fun entry he => ?_,
              fun o' ho' => hd o' (List.mem_cons_of_mem _ ho')⟩
            · have hne := hother o'.resourceId
                (List.mem_append_left _ (List.mem_map_of_mem ho'))
              exact (hl o' (List.mem_cons_of_mem _ ho') cp hcp).record_other hne
            · rw [List.map_append]
              exact nodup_move_last hn
            · have hne := hother r (List.mem_append_right _ (List.mem_append_left _ hr))
              exact (hinitial r hr).record_other hne
            · rcases List.mem_append.mp he with he | he
              · have hne := hother entry.1
                  (List.mem_append_right _ (List.mem_append_right _ (List.mem_map_of_mem he)))
                exact (hpending entry he).record_other hne
              · rw [List.mem_singleton.mp he]
                refine ⟨o.healthy, ?_⟩
                rw [rows_record_self]
        · split at h <;> cases h
  | record initialHealthy pending =>
    obtain ⟨hn, hinitial, hpending⟩ := hi
    cases initialHealthy with
    | nil => cases h
    | cons resource rest =>
      cases h
      refine ⟨(hinitial resource List.mem_cons_self).1, fun written healthy ha => ?_⟩
      cases ha
      obtain ⟨hmem, hrest⟩ := List.nodup_cons.mp hn
      refine ⟨hrest, fun r hr => ?_, fun entry he => ?_⟩
      · have hne : r ≠ resource := fun he => hmem (he ▸ List.mem_append_left _ hr)
        exact (hinitial r (List.mem_cons_of_mem _ hr)).record_other hne
      · have hne : entry.1 ≠ resource := fun he' =>
          hmem (he' ▸ List.mem_append_right _ (List.mem_map_of_mem he))
        exact (hpending entry he).record_other hne
  | send pending =>
    obtain ⟨hn, hpending⟩ := hi
    cases pending with
    | nil => cases h
    | cons entry rest =>
      obtain ⟨resource, request⟩ := entry
      have hheld : Held w resource request := hpending (resource, request) List.mem_cons_self
      have htarget := hheld.target hw
      cases h
      refine ⟨by rw [← htarget] at hheld; exact hheld, fun written healthy ha => ?_⟩
      cases ha
      rw [htarget]
      refine ⟨hn, hheld.sent hw, fun entry he => ?_⟩
      have hmem : resource ∉ rest.map Prod.fst := (List.nodup_cons.mp hn).1
      have hne : entry.1 ≠ resource := fun he' => hmem (he' ▸ List.mem_map_of_mem he)
      exact (hpending entry (List.mem_cons_of_mem _ he)).record_other hne
  | commit resource request pending =>
    obtain ⟨hn, hsent, hpending⟩ := hi
    cases h
    refine ⟨⟨request, hsent, rfl⟩, fun written healthy ha => ?_⟩
    rw [applyCall_complete hw hsent ha]
    obtain ⟨hmem, hrest⟩ := List.nodup_cons.mp hn
    refine ⟨hrest, fun entry he => ?_⟩
    have hne : entry.1 ≠ resource := fun he' => hmem (he' ▸ List.mem_map_of_mem he)
    exact (hpending entry he).record_other hne

end Instructions

/-! ## The invariant of the system -/

/-- The requests staged for a resource. -/
def stagedFor (w : World) (resource : ResourceId) : List ReassessmentRequest :=
  stagedIn (eventsOf resource w.trace)

/-- Every resource follows the protocol with routed requests, and the run under
way finds what its phase relies on. -/
structure Invariant (baseline : ResourceId → Bool) (s : DetectorState) : Prop where
  follows : Follows baseline s.world
  routed : ∀ resource, ∀ r ∈ stagedFor s.world resource, r.lifecycle = lifecycleOf (healthOf r)
  running : ∀ config run, s.running = some (config, run) →
    (config.roles.map Prod.fst).Nodup ∧ RunInvariant baseline config s.world run.phase

/-- A call stages a request or stages nothing. -/
theorem applyCall_staged {w written : World} {c : Call} (h : applyCall w c = .ok written) :
    (∃ resource healthy request, c = .stage resource healthy request ∧
      stagedFor written resource = stagedFor w resource ++ [request] ∧
      ∀ other, other ≠ resource → stagedFor written other = stagedFor w other) ∨
    ∀ resource, stagedFor written resource = stagedFor w resource := by
  have hrecord : ∀ {resource row event}, stagedIn [event] = [] → ∀ other,
      stagedFor (w.record resource row event) other = stagedFor w other := by
    intro resource row event hevent other
    by_cases ho : other = resource
    · rw [stagedFor, stagedFor, ho, eventsOf_record_self, stagedIn_append, hevent,
        List.append_nil]
    · rw [stagedFor, stagedFor, eventsOf_record_other ho]
  cases c with
  | load resource =>
    cases h
    exact Or.inr fun _ => rfl
  | observe resource role =>
    cases h
    exact Or.inr fun _ => rfl
  | send request =>
    cases h
    exact Or.inr (hrecord (stagedIn_sent request))
  | complete resource requestId =>
    simp only [applyCall] at h
    split at h
    · rename_i request hrow
      split at h
      · cases h
        exact Or.inr (hrecord (stagedIn_completed _))
      · cases h
    · cases h
  | stage resource healthy request =>
    simp only [applyCall] at h
    split at h
    · cases h
      refine Or.inl ⟨resource, healthy, request, rfl, ?_, fun other ho => ?_⟩
      · rw [stagedFor, stagedFor, eventsOf_record_self, stagedIn_append, stagedIn_staged]
      · rw [stagedFor, stagedFor, eventsOf_record_other ho]
    · cases h
  | recordInitial resource =>
    cases h
    exact Or.inr (hrecord stagedIn_baseline)

/-- The world after a call: unchanged, or with its effect. -/
theorem afterCall_cases (w : World) (c : Call) (outcome : CallOutcome) :
    afterCall w c outcome = w ∨ applyCall w c = .ok (afterCall w c outcome) := by
  cases ha : applyCall w c with
  | error message =>
    left
    cases outcome with
    | returns healthy => simp only [afterCall, ha]
    | raises effect => cases effect <;> simp only [afterCall, ha]
  | ok written =>
    cases outcome with
    | returns healthy => exact Or.inr (by simp only [afterCall, ha])
    | raises effect =>
      cases effect with
      | true => exact Or.inr (by simp only [afterCall, ha])
      | false => exact Or.inl rfl

/-- A run goes on after a call only where the call took effect. -/
theorem nextRun_some {w : World} {c : Call} {next : c.Reply → Run} {outcome : CallOutcome}
    {run : Run} (h : nextRun w c next outcome = some run) :
    ∃ healthy, applyCall w c = .ok (afterCall w c outcome) ∧ run = next (reply w healthy c) := by
  cases outcome with
  | raises effect => cases h
  | returns healthy =>
    simp only [nextRun] at h
    split at h
    · rename_i written ha
      cases h
      exact ⟨healthy, by simp only [afterCall, ha], rfl⟩
    · cases h

/-- What an advance does. -/
theorem step_advance {s t : DetectorState} {outcome : CallOutcome}
    (h : step s (.advance outcome) = some t) :
    ∃ config run, s.running = some (config, run) ∧
      ((∃ next, instruction config run = .silent next ∧
          t = { s with running := some (config, next) }) ∨
        t = { s with running := none } ∨
        ∃ c, ∃ next : c.Reply → Run, instruction config run = .call c next ∧
          t = ⟨afterCall s.world c outcome,
            (nextRun s.world c next outcome).map fun r => (config, r), s.instants⟩) := by
  simp only [step] at h
  split at h
  · cases h
  · rename_i config run hrun
    refine ⟨config, run, hrun, ?_⟩
    split at h
    · rename_i next hi
      exact Or.inl ⟨next, hi, (Option.some.inj h).symm⟩
    · exact Or.inr (Or.inl (Option.some.inj h).symm)
    · exact Or.inr (Or.inl (Option.some.inj h).symm)
    · rename_i c next hi
      exact Or.inr (Or.inr ⟨c, next, hi, (Option.some.inj h).symm⟩)

section Invariants

variable {baseline : ResourceId → Bool} {s t : DetectorState}

theorem invariant_initial : Invariant baseline (initial baseline) := by
  refine ⟨fun resource => ⟨startOf baseline resource, rfl, rfl, rfl, ?_⟩, ?_, ?_⟩
  · intro r flag hr
    cases hr
  · intro resource r hr
    cases hr
  · intro config run hr
    cases hr

/-- Every step keeps the invariant. -/
theorem Invariant.step {a : DetectorAction} (hi : Invariant baseline s)
    (h : step s a = some t) : Invariant baseline t := by
  cases a with
  | begin config =>
    simp only [SignalDetection.step] at h
    split at h
    · rename_i roles hrunning hroles
      have hnodup := validateApprovedResourceRoles_ok hroles
      cases h
      refine ⟨hi.follows, hi.routed, fun config' run' hr => ?_⟩
      cases hr
      refine ⟨hnodup, fun entry he => ?_, hnodup⟩
      cases he
    · cases h
  | advance outcome =>
    obtain ⟨config, run, hrun, hcases⟩ := step_advance h
    obtain ⟨hroles, hinv⟩ := hi.running config run hrun
    obtain ⟨sent, phase⟩ := run
    rcases hcases with ⟨next, hnext, rfl⟩ | rfl | ⟨c, next, hcall, rfl⟩
    · refine ⟨hi.follows, hi.routed, fun config' run' hr => ?_⟩
      cases hr
      exact ⟨hroles, silent_invariant hroles hinv hnext⟩
    · refine ⟨hi.follows, hi.routed, fun config' run' hr => ?_⟩
      cases hr
    · obtain ⟨hsafe, hafter⟩ := call_invariant hi.follows hinv hcall
      have hrunning : ∀ config' run',
          ((nextRun s.world c next outcome).map fun r => (config, r)) = some (config', run') →
            (config'.roles.map Prod.fst).Nodup ∧
              RunInvariant baseline config' (afterCall s.world c outcome) run'.phase := by
        intro config' run' hr
        obtain ⟨r, hr, he⟩ := Option.map_eq_some_iff.mp hr
        obtain ⟨healthy, happly, hnext⟩ := nextRun_some hr
        cases he
        rw [hnext]
        exact ⟨hroles, hafter _ healthy happly⟩
      rcases afterCall_cases s.world c outcome with hsame | happly
      · refine ⟨?_, ?_, hrunning⟩
        · dsimp only
          rw [hsame]
          exact hi.follows
        · dsimp only
          rw [hsame]
          exact hi.routed
      · refine ⟨applyCall_follows hi.follows hsafe happly, fun resource r hr => ?_, hrunning⟩
        rcases applyCall_staged happly with ⟨res, healthy, request, rfl, hself, hother⟩ | hnone
        · by_cases hres : resource = res
          · subst hres
            dsimp only at hr
            rw [hself] at hr
            rcases List.mem_append.mp hr with hr | hr
            · exact hi.routed resource r hr
            · rw [List.mem_singleton.mp hr, healthOf_eq hsafe.2.1]
              exact hsafe.2.1
          · dsimp only at hr
            rw [hother resource hres] at hr
            exact hi.routed resource r hr
        · dsimp only at hr
          rw [hnone] at hr
          exact hi.routed resource r hr

/-- The invariant holds after every sequence of runs and aborts. -/
theorem reachable_invariant (hr : (system baseline).Reachable s) : Invariant baseline s := by
  refine hr.invariant ?_ ?_
  · intro s hs
    rw [hs]
    exact invariant_initial
  · intro s a t _ hi hs
    exact hi.step hs

end Invariants

/-! ## Runs at distinct instants -/

/-- The instants of the requests staged for a resource. -/
def stagedAt (w : World) (resource : ResourceId) : List UtcDateTime :=
  (stagedFor w resource).map fun r => r.triggerEvent.observedAt

/-- Where a run has not yet come to a resource, nothing was staged for it at the
instant of the run. -/
def NotYetStaged (config : DetectorConfig) (w : World) : RunPhase → Prop
  | .stage observations _ _ _ =>
    ∀ o ∈ observations, config.observedAt ∉ stagedAt w o.resourceId
  | .record _ _ => True
  | .send _ => True
  | .commit _ _ _ => True
  | _ => ∀ resource, config.observedAt ∉ stagedAt w resource

/-- Runs at distinct instants stage at most one request per resource each. -/
structure Fresh (s : DetectorState) : Prop where
  nodup : ∀ resource, (stagedAt s.world resource).Nodup
  known : ∀ resource, ∀ t ∈ stagedAt s.world resource, t ∈ s.instants
  running : ∀ config run, s.running = some (config, run) →
    config.observedAt ∈ s.instants ∧ NotYetStaged config s.world run.phase

section Fresh

variable {baseline : ResourceId → Bool} {config : DetectorConfig} {w : World}
  {sent : List ReassessmentRequest} {phase : RunPhase}

theorem silent_fresh {next : Run} (hi : NotYetStaged config w phase)
    (h : instruction config ⟨sent, phase⟩ = .silent next) :
    NotYetStaged config w next.phase := by
  cases phase with
  | replay todo loaded =>
    cases todo with
    | nil =>
      cases h
      exact hi
    | cons entry todo =>
      obtain ⟨resource, role⟩ := entry
      simp only [instruction] at h
      split at h <;> cases h
  | bind resource role healthy request todo loaded =>
    simp only [instruction] at h
    split at h
    · cases h
    · cases h
    · cases h
      exact hi
  | resend resource request todo loaded => cases h
  | recommit resource request todo loaded => cases h
  | observe todo loaded observations =>
    cases todo with
    | nil =>
      cases h
      exact fun o _ => hi o.resourceId
    | cons entry todo =>
      obtain ⟨resource, role⟩ := entry
      simp only [instruction] at h
      split at h
      · cases h
        exact hi
      · cases h
  | stage observations loaded initialHealthy pending =>
    cases observations with
    | nil =>
      cases h
      trivial
    | cons o rest =>
      have hrest : ∀ o' ∈ rest, config.observedAt ∉ stagedAt w o'.resourceId :=
        fun o' ho' => hi o' (List.mem_cons_of_mem _ ho')
      simp only [instruction] at h
      split at h
      · cases h
      · split at h
        · split at h <;> cases h
        · split at h
          · cases h
            exact hrest
          · cases h
            exact hrest
  | record initialHealthy pending =>
    cases initialHealthy with
    | nil =>
      cases h
      trivial
    | cons resource rest => cases h
  | send pending =>
    cases pending with
    | nil => cases h
    | cons entry rest =>
      obtain ⟨resource, request⟩ := entry
      cases h
  | commit resource request pending => cases h

/-- A call that stages does so at the instant of the run, for a resource that
the run comes to for the first time. -/
theorem call_fresh {c : Call} {next : c.Reply → Run} {written : World}
    (hinv : RunInvariant baseline config w phase) (hi : NotYetStaged config w phase)
    (h : instruction config ⟨sent, phase⟩ = .call c next) (ha : applyCall w c = .ok written) :
    (∀ resource healthy request, c = .stage resource healthy request →
      request.triggerEvent.observedAt = config.observedAt ∧
        config.observedAt ∉ stagedAt w resource) ∧
    ∀ healthy, NotYetStaged config written (next (reply w healthy c)).phase := by
  have hsame : ∀ resource, stagedFor written resource = stagedFor w resource →
      config.observedAt ∉ stagedAt w resource → config.observedAt ∉ stagedAt written resource := by
    intro resource he hn
    rw [stagedAt, he]
    exact hn
  have hstaged := applyCall_staged ha
  cases phase with
  | replay todo loaded =>
    cases todo with
    | nil => cases h
    | cons entry todo =>
      obtain ⟨resource, role⟩ := entry
      simp only [instruction] at h
      split at h
      · cases h
      · cases h
        refine ⟨fun resource healthy request he => (by cases he), fun healthy => ?_⟩
        cases ha
        dsimp only [reply]
        split
        · exact hi
        · exact hi
  | bind resource role healthy request todo loaded =>
    simp only [instruction] at h
    split at h <;> cases h
  | resend resource request todo loaded =>
    cases h
    refine ⟨fun resource healthy request he => (by cases he), fun healthy r => ?_⟩
    rcases hstaged with ⟨_, _, _, he, -⟩ | he
    · cases he
    · exact hsame r (he r) (hi r)
  | recommit resource request todo loaded =>
    cases h
    refine ⟨fun resource healthy request he => (by cases he), fun healthy r => ?_⟩
    rcases hstaged with ⟨_, _, _, he, -⟩ | he
    · cases he
    · exact hsame r (he r) (hi r)
  | observe todo loaded observations =>
    cases todo with
    | nil => cases h
    | cons entry todo =>
      obtain ⟨resource, role⟩ := entry
      simp only [instruction] at h
      split at h
      · cases h
      · cases h
        refine ⟨fun resource healthy request he => (by cases he), fun healthy => ?_⟩
        cases ha
        exact hi
  | stage observations loaded initialHealthy pending =>
    cases observations with
    | nil => cases h
    | cons o rest =>
      simp only [instruction] at h
      split at h
      · cases h
      · split at h
        · split at h
          · cases h
          · rename_i request hbuilt
            cases h
            obtain ⟨-, -, hat⟩ := buildSignalReassessmentRequest_ok hbuilt
            have hdated := hinv.2.2.2.2 o List.mem_cons_self
            refine ⟨fun resource healthy request he => ?_, fun healthy o' ho' => ?_⟩
            · cases he
              exact ⟨hat.trans hdated, hi o List.mem_cons_self⟩
            · have hne : o'.resourceId ≠ o.resourceId := by
                intro he
                have hmem := (List.nodup_cons.mp hinv.2.1).1
                exact hmem (List.mem_append_left _ (he ▸ List.mem_map_of_mem ho'))
              rcases hstaged with ⟨_, _, _, he, -, hother⟩ | he
              · cases he
                exact hsame _ (hother _ hne) (hi o' (List.mem_cons_of_mem _ ho'))
              · exact hsame _ (he _) (hi o' (List.mem_cons_of_mem _ ho'))
        · split at h <;> cases h
  | record initialHealthy pending =>
    cases initialHealthy with
    | nil => cases h
    | cons resource rest =>
      cases h
      exact ⟨fun resource healthy request he => (by cases he), fun healthy => trivial⟩
  | send pending =>
    cases pending with
    | nil => cases h
    | cons entry rest =>
      obtain ⟨resource, request⟩ := entry
      cases h
      exact ⟨fun resource healthy request he => (by cases he), fun healthy => trivial⟩
  | commit resource request pending =>
    cases h
    exact ⟨fun resource healthy request he => (by cases he), fun healthy => trivial⟩

/-- A step at a new instant, or of the run under way, keeps instants fresh. -/
theorem Fresh.step {s t : DetectorState} {a : DetectorAction} (hinv : Invariant baseline s)
    (hi : Fresh s) (h : step s a = some t) (hn : t.instants.Nodup) : Fresh t := by
  cases a with
  | begin config =>
    simp only [SignalDetection.step] at h
    split at h
    · cases h
      have hnew : config.observedAt ∉ s.instants := (List.nodup_cons.mp hn).1
      refine ⟨hi.nodup, fun r u hu => List.mem_cons_of_mem _ (hi.known r u hu), ?_⟩
      intro config' run' hr
      cases hr
      exact ⟨List.mem_cons_self, fun r hmem => hnew (hi.known r _ hmem)⟩
    · cases h
  | advance outcome =>
    obtain ⟨config, run, hrun, hcases⟩ := step_advance h
    obtain ⟨hat, hyet⟩ := hi.running config run hrun
    obtain ⟨-, hphase⟩ := hinv.running config run hrun
    obtain ⟨sent, phase⟩ := run
    rcases hcases with ⟨next, hnext, rfl⟩ | rfl | ⟨c, next, hcall, rfl⟩
    · refine ⟨hi.nodup, hi.known, fun config' run' hr => ?_⟩
      cases hr
      exact ⟨hat, silent_fresh hyet hnext⟩
    · refine ⟨hi.nodup, hi.known, fun config' run' hr => ?_⟩
      cases hr
    · have hrunning : ∀ config' run',
          ((nextRun s.world c next outcome).map fun r => (config, r)) = some (config', run') →
            config'.observedAt ∈ s.instants ∧
              NotYetStaged config' (afterCall s.world c outcome) run'.phase := by
        intro config' run' hr
        obtain ⟨r, hr, he⟩ := Option.map_eq_some_iff.mp hr
        obtain ⟨healthy, happly, hnext⟩ := nextRun_some hr
        cases he
        rw [hnext]
        exact ⟨hat, (call_fresh hphase hyet hcall happly).2 healthy⟩
      rcases afterCall_cases s.world c outcome with hsame | happly
      · refine ⟨?_, ?_, hrunning⟩
        · dsimp only
          rw [hsame]
          exact hi.nodup
        · dsimp only
          rw [hsame]
          exact hi.known
      · have hstaged := (call_fresh hphase hyet hcall happly).1
        have hlist : ∀ r, (stagedAt (afterCall s.world c outcome) r).Nodup ∧
            ∀ u ∈ stagedAt (afterCall s.world c outcome) r, u ∈ s.instants := by
          intro r
          have hsame : stagedFor (afterCall s.world c outcome) r = stagedFor s.world r →
              (stagedAt (afterCall s.world c outcome) r).Nodup ∧
                ∀ u ∈ stagedAt (afterCall s.world c outcome) r, u ∈ s.instants := by
            intro he
            rw [stagedAt, he]
            exact ⟨hi.nodup r, hi.known r⟩
          rcases applyCall_staged happly with ⟨res, healthy, request, rfl, hself, hother⟩ | hnone
          · by_cases hres : r = res
            · subst hres
              obtain ⟨hinstant, hnew⟩ := hstaged r healthy request rfl
              have he : stagedAt (afterCall s.world (.stage r healthy request) outcome) r =
                  stagedAt s.world r ++ [config.observedAt] := by
                rw [stagedAt, hself, List.map_append, List.map_singleton, hinstant, stagedAt]
              rw [he]
              refine ⟨List.nodup_append.mpr ⟨hi.nodup r, List.nodup_singleton _, ?_⟩, ?_⟩
              · intro u hu v hv huv
                rw [List.mem_singleton.mp hv] at huv
                exact hnew (huv ▸ hu)
              · intro u hu
                rcases List.mem_append.mp hu with hu | hu
                · exact hi.known r u hu
                · rw [List.mem_singleton.mp hu]
                  exact hat
            · exact hsame (hother r hres)
          · exact hsame (hnone r)
        exact ⟨fun r => (hlist r).1, fun r => (hlist r).2, hrunning⟩

/-- Instants only accumulate. -/
theorem instants_step {s t : DetectorState} {a : DetectorAction} (h : step s a = some t) :
    t.instants = s.instants ∨ ∃ u, t.instants = u :: s.instants := by
  cases a with
  | begin config =>
    simp only [step] at h
    split at h
    · cases h
      exact Or.inr ⟨_, rfl⟩
    · cases h
  | advance outcome =>
    obtain ⟨config, run, hrun, hcases⟩ := step_advance h
    rcases hcases with ⟨next, -, rfl⟩ | rfl | ⟨c, next, -, rfl⟩
    · exact Or.inl rfl
    · exact Or.inl rfl
    · exact Or.inl rfl

/-- Where all runs had distinct instants, they are fresh. -/
theorem reachable_fresh {s : DetectorState} (hr : (system baseline).Reachable s)
    (hn : s.instants.Nodup) : Fresh s := by
  induction hr with
  | start h =>
    rw [h]
    refine ⟨fun r => List.nodup_nil, fun r u hu => ?_, fun config run hr => ?_⟩
    · cases hu
    · cases hr
  | next hreach hstep ih =>
    have hold : Fresh _ := ih (by
      rcases instants_step hstep with he | ⟨u, he⟩
      · rwa [he] at hn
      · rw [he] at hn
        exact (List.nodup_cons.mp hn).2)
    exact hold.step (reachable_invariant hreach) hstep hn

end Fresh

/-! ## Delivery up to deduplication -/

/-- The requests that were sent for a resource. -/
def sentFor (w : World) (resource : ResourceId) : List ReassessmentRequest :=
  sentIn (eventsOf resource w.trace)

/-- A request repeats the last kept one when it has its idempotency key. -/
def repeatsLast (kept : List ReassessmentRequest) (request : ReassessmentRequest) : Bool :=
  kept.getLast?.any fun q => q.idempotencyKey == request.idempotencyKey

/-- A request repeats any kept one of its idempotency key. -/
def repeatsAny (kept : List ReassessmentRequest) (request : ReassessmentRequest) : Bool :=
  kept.any fun q => q.idempotencyKey == request.idempotencyKey

/-- Equal idempotency keys of requests staged for a resource are equal in
lifecycle and instant. -/
def CollisionFree (w : World) (resource : ResourceId) : Prop :=
  ∀ q ∈ stagedFor w resource, ∀ r ∈ stagedFor w resource, q.idempotencyKey = r.idempotencyKey →
    q.lifecycle = r.lifecycle ∧ q.triggerEvent.observedAt = r.triggerEvent.observedAt

/-- What the detector guarantees for one resource. -/
structure Delivery (baseline : ResourceId → Bool) (s : DetectorState) (resource : ResourceId) :
    Prop where
  /-- What was sent alternates, repeats of the last key dropped. -/
  alternates : Alternates .activated .resolved
    ((dropRepeats repeatsLast (sentFor s.world resource)).map fun r => r.lifecycle)
  /-- At distinct instants it alternates with all repeats of a key dropped. -/
  deduplicated : s.instants.Nodup → Alternates .activated .resolved
    ((dropRepeats repeatsAny (sentFor s.world resource)).map fun r => r.lifecycle)
  /-- What is sent was staged before. -/
  staged : ∀ before r after, s.world.trace = before ++ (resource, .sent r) :: after →
    (resource, .staged r) ∈ before
  /-- The committed health is that of the last completed request. -/
  committed : (s.world.rows resource).committedHealth =
    committedBy healthOf (startOf baseline resource).committed (eventsOf resource s.world.trace)
  /-- No observation is acted on before every request staged earlier is sent. -/
  waits : ∀ before e after middle r rest, s.world.trace = before ++ (resource, e) :: after →
    (e = .baseline ∨ ∃ q, e = .staged q) → before = middle ++ (resource, .staged r) :: rest →
      (resource, .sent r) ∈ rest

section Delivery

variable {baseline : ResourceId → Bool} {s : DetectorState} {resource : ResourceId}

theorem eventsOf_append (before after : Trace) :
    eventsOf resource (before ++ after) = eventsOf resource before ++ eventsOf resource after := by
  simp only [eventsOf, List.filterMap_append]

theorem eventsOf_cons (e : Event ReassessmentRequest) (rest : Trace) :
    eventsOf resource ((resource, e) :: rest) = e :: eventsOf resource rest := by
  simp [eventsOf]

theorem mem_eventsOf {e : Event ReassessmentRequest} {trace : Trace} :
    e ∈ eventsOf resource trace ↔ (resource, e) ∈ trace := by
  rw [eventsOf, List.mem_filterMap]
  constructor
  · intro h
    obtain ⟨⟨r, e'⟩, hm, he⟩ := h
    split at he
    · rename_i hr
      cases he
      rw [← hr]
      exact hm
    · cases he
  · intro h
    exact ⟨(resource, e), h, if_pos rfl⟩

/-- Alternating health is alternating lifecycles. -/
theorem alternates_lifecycle {requests : List ReassessmentRequest}
    (hr : ∀ r ∈ requests, r.lifecycle = lifecycleOf (healthOf r))
    (h : Alternates false true (requests.map healthOf)) :
    Alternates .activated .resolved (requests.map fun r => r.lifecycle) := by
  have he : requests.map (fun r => r.lifecycle) = (requests.map healthOf).map lifecycleOf := by
    rw [List.map_map]
    exact List.map_congr_left hr
  rw [he]
  exact h.map lifecycleOf

/-- Over every sequence of runs and aborts, the requests sent for a resource
alternate up to repeats, each staged before it is sent, the committed health
that of the last completed request, and no observation acted on while a staged
request is unsent. -/
theorem detector_delivery (hr : (system baseline).Reachable s)
    (hkey : CollisionFree s.world resource) : Delivery baseline s resource := by
  have hinv := reachable_invariant hr
  obtain ⟨p, hp, hrow⟩ := hinv.follows resource
  have hstart : (startOf baseline resource).pending = none := rfl
  have hbase : (startOf baseline resource).committed.getD true = true := by
    simp only [startOf]
    cases baseline resource <;> rfl
  have halternates := staged_alternates hstart hbase hp
  -- a removal of repeats that keeps what was staged keeps routed requests
  have hsent : ∀ repeats : List ReassessmentRequest → ReassessmentRequest → Bool,
      (∀ kept r, repeats (kept ++ [r]) r = true) →
      (∀ kept r rest, stagedFor s.world resource = kept ++ r :: rest → repeats kept r = false) →
      Alternates .activated .resolved
        ((dropRepeats repeats (sentFor s.world resource)).map fun r => r.lifecycle) := by
    intro repeats hlast hfresh
    refine alternates_lifecycle (fun r hm => hinv.routed resource r ?_)
      (sent_alternates repeats hstart hbase hlast hfresh hp)
    rw [stagedFor, staged_eq repeats hstart hlast hfresh hp]
    exact List.mem_append_left _ hm
  refine ⟨hsent repeatsLast ?_ ?_, fun hn => hsent repeatsAny ?_ ?_, ?_, ?_, ?_⟩
  · intro kept r
    simp [repeatsLast]
  · intro kept r rest hs
    rcases List.eq_nil_or_concat' kept with rfl | ⟨front, q, rfl⟩
    · rfl
    · have hne : healthOf q ≠ healthOf r := by
        have h' : Alternates false true ((stagedFor s.world resource).map healthOf) :=
          halternates
        rw [hs, List.append_assoc, List.singleton_append, List.map_append, List.map_cons,
          List.map_cons] at h'
        exact h'.adjacent (by decide)
      have hkeys : q.idempotencyKey ≠ r.idempotencyKey := by
        intro he
        have hq : q ∈ stagedFor s.world resource := by
          rw [hs]
          simp
        have hr' : r ∈ stagedFor s.world resource := by
          rw [hs]
          simp
        exact hne (by rw [healthOf, healthOf, (hkey q hq r hr' he).1])
      simp [repeatsLast, hkeys]
  · intro kept r
    simp [repeatsAny]
  · intro kept r rest hs
    have hfresh := (reachable_fresh hr hn).nodup resource
    rw [stagedAt, hs, List.map_append, List.map_cons] at hfresh
    have hnot := (not_mem_of_nodup_middle hfresh).1
    rw [repeatsAny, List.any_eq_false]
    intro q hq he
    have hkeys : q.idempotencyKey = r.idempotencyKey := by simpa using he
    have hq' : q ∈ stagedFor s.world resource := by
      rw [hs]
      exact List.mem_append_left _ hq
    have hr' : r ∈ stagedFor s.world resource := by
      rw [hs]
      simp
    have hat := (hkey q hq' r hr' hkeys).2
    exact hnot (List.mem_map.mpr ⟨q, hq, hat⟩)
  · intro before r after htrace
    rw [progressOf, htrace, eventsOf_append, eventsOf_cons] at hp
    exact mem_eventsOf.mp (staged_before_sent hstart hp)
  · rw [hrow.committed]
    exact committed_eq hp
  · intro before e after middle r rest htrace hacts hsplit
    rw [progressOf, htrace, eventsOf_append, eventsOf_cons] at hp
    have hevents : eventsOf resource before =
        eventsOf resource middle ++ .staged r :: eventsOf resource rest := by
      rw [hsplit, eventsOf_append, eventsOf_cons]
    exact mem_eventsOf.mp (acts_when_sent hacts hp hevents)

end Delivery

/-! ## Three flips within one instant -/

/-- A run that finds the database in the given health, the rest healthy, and a
change of the database: three loads, the observations, one stage, one send. -/
def sampleFlip (observedAt : UtcDateTime) (healthy : Bool) : List DetectorAction :=
  .begin (sampleConfig observedAt) ::
    (List.replicate 4 (.advance (.returns true)) ++ [.advance (.returns healthy)] ++
      List.replicate 11 (.advance (.returns true)))

def sampleStart : ResourceId → Bool := fun _ => true

def sampleRun (actions : List DetectorAction) : Option DetectorState :=
  runSteps step (initial sampleStart) actions

theorem sampleRun_reachable {actions : List DetectorAction} {s : DetectorState}
    (h : sampleRun actions = some s) : (system sampleStart).Reachable s :=
  reachable_runSteps actions (.start rfl) h

/-- A failure and its recovery, at two instants. -/
def sampleRecovery : List DetectorAction := sampleFlip 1 false ++ sampleFlip 2 true

theorem sampleRecovery_some : (sampleRun sampleRecovery).isSome = true := by decide

def sampleRecovered : DetectorState := (sampleRun sampleRecovery).get sampleRecovery_some

theorem detector_delivery_recovery : Delivery sampleStart sampleRecovered sampleDatabase :=
  detector_delivery (sampleRun_reachable (Option.some_get sampleRecovery_some).symm)
    (by unfold CollisionFree; decide)

/-- What is sent alternates in every run, all repeats of a key dropped. -/
def AlwaysAlternates (baseline : ResourceId → Bool) : Prop :=
  ∀ s resource, (system baseline).Reachable s → CollisionFree s.world resource →
    Alternates .activated .resolved
      ((dropRepeats repeatsAny (sentFor s.world resource)).map fun r => r.lifecycle)

/-- Failure, recovery and failure at one instant, and a recovery at the next. -/
def sampleFlaps : List DetectorAction :=
  sampleFlip 1 false ++ sampleFlip 1 true ++ sampleFlip 1 false ++ sampleFlip 2 true

theorem sampleFlaps_some : (sampleRun sampleFlaps).isSome = true := by decide

def sampleFlapped : DetectorState := (sampleRun sampleFlaps).get sampleFlaps_some

/-- The second failure of an instant has the key of the first, so its removal
leaves two recoveries in a row. -/
theorem flaps_not_alternating : ¬ AlwaysAlternates sampleStart := by
  intro h
  have halternates := h sampleFlapped sampleDatabase
    (sampleRun_reachable (Option.some_get sampleFlaps_some).symm)
    (by unfold CollisionFree; decide)
  have hsent : (dropRepeats repeatsAny (sentFor sampleFlapped.world sampleDatabase)).map
      (fun r => r.lifecycle) = [.activated, .resolved, .resolved] := by
    decide
  rw [hsent] at halternates
  obtain ⟨-, -, hthird, -⟩ := halternates
  cases hthird

end AthenaContext.SignalDetection
