import AthenaContext.ConditionalStores
import AthenaContext.TransitionSystems
import Mathlib

/-!
# Publication of guidance authority

Any number of `GuidanceAuthorityPublisher.publish` calls for one incident, interleaved with
each other and with changes of the incident's signed state, over the row that holds the
current activation. Occurrences are numbered in the order in which they become current; the
digests of a state and of its occurrence stand for the number. What the correlation engine,
the artifact writer and the signer return is arbitrary.
-/

namespace AthenaContext.GuidancePublication

open ConditionalStores TransitionSystems

/-- Milliseconds since the epoch. -/
abbrev UtcDateTime := ℤ

/-! ## Data -/

/-- `GuidanceAuthorityPublicationRequest`: the occurrence that it binds, and whether its
signatures verify. -/
structure PublicationRequest where
  requestId : String
  occurrence : ℕ
  evaluatedAt : UtcDateTime
  expiresAt : UtcDateTime
  signed : Bool
  window : evaluatedAt < expiresAt ∧ expiresAt - evaluatedAt ≤ 5 * 60 * 1000
  deriving DecidableEq

/-- `PublishedGuidanceAuthorityActivation`. -/
structure Activation where
  occurrence : ℕ
  publicationRequestId : String
  bindingId : String
  bindingVersion : String
  activatedAt : UtcDateTime
  expiresAt : UtcDateTime
  detachedSignature : String
  deriving DecidableEq

/-- `ActiveIncidentIndexSnapshot`: its content, and the occurrence whose pointer the active
entry of the incident names. -/
structure IndexSnapshot where
  payload : String
  entry : Option ℕ
  deriving DecidableEq

/-- What the correlation engine, the artifact writer and the signer returned. -/
structure Artifacts where
  report : String
  bindingId : String
  bindingVersion : String
  detachedSignature : String
  deriving DecidableEq

/-- A call once its activation is built: its request, and the authority that it read. -/
structure Attempt where
  request : PublicationRequest
  current : ℕ
  index : IndexSnapshot
  artifacts : Artifacts
  deriving DecidableEq

/-- `_build_activation` -/
def Attempt.activation (a : Attempt) : Activation where
  occurrence := a.current
  publicationRequestId := a.request.requestId
  bindingId := a.artifacts.bindingId
  bindingVersion := a.artifacts.bindingVersion
  activatedAt := a.request.evaluatedAt
  expiresAt := a.request.expiresAt
  detachedSignature := a.artifacts.detachedSignature

/-- `_validate_current_authority` -/
def validateCurrentAuthority (request : PublicationRequest) (current : ℕ) (index : IndexSnapshot) :
    Bool :=
  current = request.occurrence && index.entry = some current

/-- `_require_unchanged_authority`, once both sources are read again. -/
def isUnchangedAuthority (a : Attempt) (reread : ℕ) (reindex : IndexSnapshot) : Bool :=
  validateCurrentAuthority a.request reread reindex && reread = a.current && reindex = a.index

/-- How far a call has come. -/
inductive Phase
  | idle
  | verified (request : PublicationRequest) (now : UtcDateTime)
  | stateRead (request : PublicationRequest) (now : UtcDateTime) (current : ℕ)
  | authorityRead (request : PublicationRequest) (now : UtcDateTime) (current : ℕ)
      (index : IndexSnapshot)
  | built (a : Attempt) (now : UtcDateTime)
  | stateReread (a : Attempt) (now : UtcDateTime) (reread : ℕ)
  | unchanged (a : Attempt) (now : UtcDateTime)
  | timed (a : Attempt) (operationNow : UtcDateTime)
  | rowRead (a : Attempt) (operationNow : UtcDateTime) (previous : Option (Activation × ℕ))
  | conflicted (a : Attempt) (operationNow : UtcDateTime)
  | committed (a : Attempt) (operationNow : UtcDateTime) (replayed : Bool)
  | committedStateRead (a : Attempt) (operationNow : UtcDateTime) (replayed : Bool) (reread : ℕ)
  | rechecked (a : Attempt) (operationNow : UtcDateTime) (replayed : Bool)
  | confirmed (a : Attempt) (operationNow : UtcDateTime) (replayed : Bool)
  | returned (activation : Activation) (replayed : Bool)
  | raised
  deriving DecidableEq

/-! ## The system -/

/-- A successful swap: what it replaced, and the time and the occurrence of its moment. -/
structure Swap where
  activation : Activation
  replaced : Option Activation
  time : UtcDateTime
  current : ℕ
  deriving DecidableEq

/-- A message of the trigger queue. -/
structure Trigger where
  bindingId : String
  activation : Activation
  timeToLiveSeconds : ℤ
  time : UtcDateTime
  deriving DecidableEq

/-- The sources, the row and the calls. The lists keep, newest first, the swaps, the
activations that a call read back as current, and the messages. -/
structure System where
  time : UtcDateTime
  current : ℕ
  index : IndexSnapshot
  row : Cell Activation
  calls : ℕ → Phase
  swaps : List Swap
  readBacks : List Activation
  enqueued : List Trigger

/-- What a call does next: it starts, it builds its artifacts, it correlates a second time and
looks at its clock, it makes its next request, it fails, or its swap takes effect and the
answer is lost. -/
inductive Event
  | start (request : PublicationRequest)
  | build (artifacts : Artifacts)
  | correlate (report : String)
  | request
  | fail
  | unanswered

/-- Time passes, the incident has a new occurrence, the active index changes, or a call goes
on. -/
inductive Action
  | tick (milliseconds : ℕ)
  | advance (occurrences : ℕ)
  | reindex (index : IndexSnapshot)
  | call (i : ℕ) (event : Event)

/-- The calls whose publisher has a clock. -/
abbrev Clocks := ℕ → Bool

variable (clocks : Clocks)

/-- `_operation_time` -/
def operationTime (s : System) (i : ℕ) (fallback : UtcDateTime) : UtcDateTime :=
  if clocks i then s.time else fallback

/-- A call goes to its next phase. -/
def System.goto (s : System) (i : ℕ) (phase : Phase) : System :=
  { s with calls := Function.update s.calls i phase }

/-- The conditional write of `compare_and_swap`. -/
def writeRow (row : Cell Activation) (activation : Activation) :
    Option (Activation × ℕ) → Option (Cell Activation)
  | none => row.create activation
  | some (_, etag) => row.replace etag activation

/-- A swap that took effect. -/
def System.swapped (s : System) (a : Attempt) (previous : Option (Activation × ℕ))
    (row : Cell Activation) : System :=
  { s with
    row := row
    swaps := ⟨a.activation, previous.map Prod.fst, s.time, s.current⟩ :: s.swaps }

/-- A different activation of the occurrence that is not expired. -/
def isDifferentActive (a : Attempt) (operationNow : UtcDateTime) (previous : Activation) : Bool :=
  previous ≠ a.activation && previous.occurrence = a.activation.occurrence &&
    operationNow < previous.expiresAt

/-- The read of the row before the swap. -/
def rowPhase (a : Attempt) (operationNow : UtcDateTime) : Option (Activation × ℕ) → Phase
  | none => .rowRead a operationNow none
  | some (previous, etag) =>
    if isDifferentActive a operationNow previous then .raised
    else if previous = a.activation then .committed a operationNow true
    else .rowRead a operationNow (some (previous, etag))

/-- The next request of a call. -/
def requestStep (s : System) (i : ℕ) : Phase → Option System
  | .verified request now => some (s.goto i (.stateRead request now s.current))
  | .stateRead request now current =>
    some (s.goto i (if validateCurrentAuthority request current s.index then
      .authorityRead request now current s.index else .raised))
  | .built a now => some (s.goto i (.stateReread a now s.current))
  | .stateReread a now reread =>
    some (s.goto i (if isUnchangedAuthority a reread s.index then .unchanged a now else .raised))
  | .timed a operationNow => some (s.goto i (rowPhase a operationNow s.row.content))
  | .rowRead a operationNow previous =>
    match writeRow s.row a.activation previous with
    | some row => some ((s.swapped a previous row).goto i (.committed a operationNow false))
    | none => some (s.goto i (.conflicted a operationNow))
  | .conflicted a operationNow =>
    some (s.goto i (if s.row.value = some a.activation then .committed a operationNow true
      else .raised))
  | .committed a operationNow replayed =>
    some (s.goto i (.committedStateRead a operationNow replayed s.current))
  | .committedStateRead a operationNow replayed reread =>
    some (s.goto i (if isUnchangedAuthority a reread s.index then
      .rechecked a operationNow replayed else .raised))
  | .rechecked a operationNow replayed =>
    if s.row.value = some a.activation then
      some (({ s with readBacks := a.activation :: s.readBacks }).goto i
        (.confirmed a operationNow replayed))
    else some (s.goto i .raised)
  | .confirmed a operationNow replayed =>
    let remainingSeconds := (a.request.expiresAt - operationTime clocks s i operationNow).tdiv 1000
    if remainingSeconds < 1 then some (s.goto i .raised)
    else
      some (({ s with
        enqueued := ⟨a.artifacts.bindingId, a.activation, remainingSeconds, s.time⟩ :: s.enqueued
      }).goto i (.returned a.activation replayed))
  | _ => none

/-- One event of a call. -/
def callStep (s : System) (i : ℕ) : Event → Option System
  | .start request =>
    match s.calls i with
    | .idle =>
      some (s.goto i (if s.time < request.evaluatedAt ∨ request.expiresAt ≤ s.time ∨
        request.signed = false then .raised else .verified request s.time))
    | _ => none
  | .build artifacts =>
    match s.calls i with
    | .authorityRead request now current index =>
      some (s.goto i (.built ⟨request, current, index, artifacts⟩ now))
    | _ => none
  | .correlate report =>
    match s.calls i with
    | .unchanged a now =>
      some (s.goto i (if report ≠ a.artifacts.report ∨
        a.request.expiresAt ≤ operationTime clocks s i now then .raised
        else .timed a (operationTime clocks s i now)))
    | _ => none
  | .request => requestStep clocks s i (s.calls i)
  | .fail => some (s.goto i .raised)
  | .unanswered =>
    match s.calls i with
    | .rowRead a _ previous =>
      (writeRow s.row a.activation previous).map fun row => (s.swapped a previous row).goto i .raised
    | _ => none

/-- One step of the system. -/
def step (s : System) : Action → Option System
  | .tick milliseconds => some { s with time := s.time + milliseconds }
  | .advance occurrences => some { s with current := s.current + occurrences }
  | .reindex index => some { s with index }
  | .call i event => callStep clocks s i event

/-- An incident without an activation, and no call. -/
def initialSystem (time : UtcDateTime) (current : ℕ) (index : IndexSnapshot) : System where
  time := time
  current := current
  index := index
  row := Cell.empty
  calls := fun _ => .idle
  swaps := []
  readBacks := []
  enqueued := []

/-- The publications of one incident. -/
def publications (time : UtcDateTime) (current : ℕ) (index : IndexSnapshot) :
    TransitionSystem System Action :=
  ofStep (initialSystem time current index) (step clocks)

/-! ## Safety -/

/-- A swap replaces nothing, the same activation, one that has expired, or one of an occurrence
that is no longer current. -/
def Swap.Allowed (swap : Swap) : Prop :=
  ∀ p ∈ swap.replaced, p = swap.activation ∨ p.expiresAt ≤ swap.time ∨ p.occurrence ≠ swap.current

/-- Of two swaps for one occurrence the earlier one's activation has expired at the later. -/
def Succeeds (later earlier : Swap) : Prop :=
  earlier.activation.occurrence = later.activation.occurrence →
    earlier.activation = later.activation ∨ earlier.activation.expiresAt ≤ later.time

/-- A message is for an activation that was read back, and ends with it. -/
def Trigger.Backed (s : System) (trigger : Trigger) : Prop :=
  trigger.activation ∈ s.readBacks ∧ trigger.bindingId = trigger.activation.bindingId ∧
    trigger.time + trigger.timeToLiveSeconds * 1000 ≤ trigger.activation.expiresAt

structure Safe (s : System) : Prop where
  allowed : ∀ swap ∈ s.swaps, swap.Allowed
  single : s.swaps.Pairwise Succeeds
  backed : ∀ trigger ∈ s.enqueued, trigger.Backed s

/-- The incident has gone on to a later occurrence than the one that the call checked, and a
different activation of either of the two is committed and has not expired. -/
def overtaken (s : System) (a : Attempt) : Bool :=
  a.current < s.current && s.swaps.any fun swap =>
    swap.activation ≠ a.activation && s.time < swap.activation.expiresAt &&
      (swap.activation.occurrence = s.current || swap.activation.occurrence = a.current)

/-- The swap of a call would be refused, or the call is not overtaken. -/
def maySwap (s : System) (a : Attempt) (previous : Option (Activation × ℕ)) : Bool :=
  writeRow s.row a.activation previous = none || !overtaken s a

/-- No swap of an overtaken call takes effect, and no call enqueues after time has passed since
the time that it counts from. -/
def condition (s : System) : Action → Bool
  | .call i event =>
    match event, s.calls i with
    | .request, .rowRead a _ previous => maySwap s a previous
    | .unanswered, .rowRead a _ previous => maySwap s a previous
    | .request, .confirmed _ operationNow _ => clocks i || operationNow = s.time
    | _, _ => true
  | _ => true

/-! ## Invariants -/

/-- The occurrence that a call read, and the time that it goes by. -/
def Phase.bound : Phase → Option (ℕ × UtcDateTime)
  | .idle => none
  | .verified _ _ => none
  | .stateRead _ now current => some (current, now)
  | .authorityRead _ now current _ => some (current, now)
  | .built a now => some (a.current, now)
  | .stateReread a now _ => some (a.current, now)
  | .unchanged a now => some (a.current, now)
  | .timed a operationNow => some (a.current, operationNow)
  | .rowRead a operationNow _ => some (a.current, operationNow)
  | .conflicted a operationNow => some (a.current, operationNow)
  | .committed a operationNow _ => some (a.current, operationNow)
  | .committedStateRead a operationNow _ _ => some (a.current, operationNow)
  | .rechecked a operationNow _ => some (a.current, operationNow)
  | .confirmed a operationNow _ => some (a.current, operationNow)
  | .returned _ _ => none
  | .raised => none

/-- A copy of the row that a call is about to replace: it was in the row, and is no different
activation of the occurrence that was not expired. -/
def ReadCopy (s : System) (a : Attempt) (operationNow : UtcDateTime) (copy : Activation × ℕ) : Prop :=
  s.row.Remembers copy ∧ (copy.1.occurrence = a.current → copy.1.expiresAt ≤ operationNow)

/-- What a phase has to keep besides: a time, a copy, a confirmation. -/
def Phase.Knows (s : System) : Phase → Prop
  | .verified _ now => now ≤ s.time
  | .rowRead a operationNow (some copy) => ReadCopy s a operationNow copy
  | .confirmed a _ _ => a.activation ∈ s.readBacks
  | _ => True

/-- What holds of a call in a phase. -/
structure PhaseInvariant (s : System) (phase : Phase) : Prop where
  bound : ∀ b ∈ phase.bound, b.1 ≤ s.current ∧ b.2 ≤ s.time
  knows : phase.Knows s

/-- A committed activation of the current occurrence is the one in the row, or expired. -/
def Held (s : System) (activation : Activation) : Prop :=
  activation.occurrence = s.current →
    s.row.value = some activation ∨ activation.expiresAt ≤ s.time

structure Invariant (s : System) : Prop where
  valid : s.row.Valid
  rowCommitted : ∀ p ∈ s.row.value, ∃ swap ∈ s.swaps, swap.activation = p
  calls : ∀ i, PhaseInvariant s (s.calls i)
  reached : ∀ swap ∈ s.swaps, swap.activation.occurrence ≤ s.current
  held : ∀ swap ∈ s.swaps, Held s swap.activation
  safe : Safe s

variable {clocks : Clocks} {s t : System} {i : ℕ} {phase : Phase}

/-- What a call knows stays true while the sources, the row and the log go on. -/
theorem PhaseInvariant.mono (h : PhaseInvariant s phase) (hcurrent : s.current ≤ t.current)
    (htime : s.time ≤ t.time) (hrow : ∀ copy, s.row.Remembers copy → t.row.Remembers copy)
    (hread : ∀ a ∈ s.readBacks, a ∈ t.readBacks) : PhaseInvariant t phase where
  bound := by
    intro b hb
    obtain ⟨hc, ht⟩ := h.bound b hb
    exact ⟨Nat.le_trans hc hcurrent, Int.le_trans ht htime⟩
  knows := by
    have hknows := h.knows
    unfold Phase.Knows at hknows ⊢
    split
    case h_1 => exact Int.le_trans hknows htime
    case h_2 copy => exact ⟨hrow copy hknows.1, hknows.2⟩
    case h_3 => exact hread _ hknows
    case h_4 => trivial

/-- A call that only moves on keeps the invariant. -/
theorem Invariant.goto (hi : Invariant s) (hphase : PhaseInvariant s phase) :
    Invariant (s.goto i phase) where
  valid := hi.valid
  rowCommitted := hi.rowCommitted
  calls := by
    intro j
    have hold : PhaseInvariant (s.goto i phase) (s.calls j) :=
      (hi.calls j).mono (Nat.le_refl _) (Int.le_refl _) (fun _ => id) fun _ => id
    have hnew : PhaseInvariant (s.goto i phase) phase :=
      hphase.mono (Nat.le_refl _) (Int.le_refl _) (fun _ => id) fun _ => id
    by_cases hj : j = i
    · have hcall : (s.goto i phase).calls j = phase := by
        rw [hj]
        exact Function.update_self i phase s.calls
      rwa [hcall]
    · have hcall : (s.goto i phase).calls j = s.calls j := by
        unfold System.goto
        exact Function.update_of_ne hj _ _
      rwa [hcall]
  reached := hi.reached
  held := hi.held
  safe := ⟨hi.safe.allowed, hi.safe.single, hi.safe.backed⟩

/-- The sources and the clock go on. -/
theorem Invariant.of_sources (hi : Invariant s) (hcurrent : s.current ≤ t.current)
    (htime : s.time ≤ t.time) (hrow : t.row = s.row) (hcalls : t.calls = s.calls)
    (hswaps : t.swaps = s.swaps) (hread : t.readBacks = s.readBacks)
    (henqueued : t.enqueued = s.enqueued) : Invariant t where
  valid := hrow ▸ hi.valid
  rowCommitted := by
    rw [hrow, hswaps]
    exact hi.rowCommitted
  calls := by
    intro j
    rw [hcalls]
    exact (hi.calls j).mono hcurrent htime (fun _ => hrow ▸ id) fun _ => hread ▸ id
  reached := by
    intro swap hswap
    exact Nat.le_trans (hi.reached swap (hswaps ▸ hswap)) hcurrent
  held := by
    intro swap hswap hoccurrence
    rw [hswaps] at hswap
    have hold : swap.activation.occurrence = s.current :=
      Nat.le_antisymm (hi.reached swap hswap) (hoccurrence ▸ hcurrent)
    rw [hrow]
    exact (hi.held swap hswap hold).imp_right fun h => Int.le_trans h htime
  safe := by
    refine ⟨hswaps ▸ hi.safe.allowed, hswaps ▸ hi.safe.single, fun trigger htrigger => ?_⟩
    rw [henqueued] at htrigger
    rw [Trigger.Backed, hread]
    exact hi.safe.backed trigger htrigger

/-- What a write of the row does: it replaces exactly the copy that was read. -/
theorem writeRow_some {a : Attempt} {operationNow : UtcDateTime} {row : Cell Activation}
    {previous : Option (Activation × ℕ)}
    (hp : PhaseInvariant s (.rowRead a operationNow previous))
    (h : writeRow s.row a.activation previous = some row) :
    s.row.content = previous ∧ row.value = some a.activation ∧ row.Valid ∧
      ∀ copy, s.row.Remembers copy → row.Remembers copy := by
  cases previous with
  | none =>
    obtain ⟨hnone, hrow⟩ := Cell.create_some h
    exact ⟨hnone, by rw [hrow]; rfl, Cell.Valid.create h, fun _ hr => hr.create h⟩
  | some copy =>
    obtain ⟨hremembers, _⟩ := hp.knows
    obtain ⟨_, hrow⟩ := Cell.replace_some h
    exact ⟨hremembers.replaced h, by rw [hrow]; rfl, Cell.Valid.replace h, fun _ hr => hr.replace h⟩

/-- A committed activation of the current occurrence, or of the call's own, is the one that the
call publishes, or has expired, when the call is current and when it is not overtaken. -/
theorem Invariant.committed_expired (hi : Invariant s) {a : Attempt} {operationNow : UtcDateTime}
    {previous : Option (Activation × ℕ)} (hp : PhaseInvariant s (.rowRead a operationNow previous))
    (hcontent : s.row.content = previous) (hfree : overtaken s a = false) {swap : Swap}
    (hswap : swap ∈ s.swaps)
    (heither : swap.activation.occurrence = s.current ∨ swap.activation.occurrence = a.current) :
    swap.activation = a.activation ∨ swap.activation.expiresAt ≤ s.time := by
  obtain ⟨hcurrent, htime⟩ := hp.bound _ rfl
  rcases Nat.lt_or_ge a.current s.current with hstale | hge
  · by_contra hother
    obtain ⟨hne, hactive⟩ := not_or.mp hother
    have hovertaken : overtaken s a = true := by
      simp only [overtaken, Bool.and_eq_true, List.any_eq_true, Bool.or_eq_true, decide_eq_true_eq]
      exact ⟨hstale, swap, hswap, ⟨hne, Int.not_le.mp hactive⟩, heither⟩
    rw [hfree] at hovertaken
    cases hovertaken
  · -- the call is current, so its read of the row has refused what is active
    have hsame : s.current = a.current := Nat.le_antisymm hge hcurrent
    have howner : swap.activation.occurrence = s.current := by
      rcases heither with h | h
      · exact h
      · exact h.trans hsame.symm
    rcases hi.held swap hswap howner with hvalue | hexpired
    · rw [Cell.value, hcontent] at hvalue
      obtain ⟨copy, rfl, hcopy⟩ := Option.map_eq_some_iff.mp hvalue
      rw [← hcopy]
      exact .inr (Int.le_trans ((hp.knows).2 (hcopy ▸ howner.trans hsame)) htime)
    · exact .inr hexpired

/-- A swap of a call that is not overtaken keeps the invariant. -/
theorem Invariant.swapped (hi : Invariant s) {a : Attempt} {operationNow : UtcDateTime}
    {row : Cell Activation} {previous : Option (Activation × ℕ)}
    (hcall : s.calls i = .rowRead a operationNow previous)
    (hrow : writeRow s.row a.activation previous = some row) (hfree : overtaken s a = false) :
    Invariant (s.swapped a previous row) := by
  have hp : PhaseInvariant s (.rowRead a operationNow previous) := hcall ▸ hi.calls i
  obtain ⟨hcontent, hvalue, hvalid, hremembers⟩ := writeRow_some hp hrow
  have hcurrent : a.current ≤ s.current := (hp.bound _ rfl).1
  refine ⟨hvalid, ?_, ?_, ?_, ?_, ?_, ?_, hi.safe.backed⟩
  · intro p hpvalue
    exact ⟨_, List.mem_cons_self, Option.some.inj (hvalue.symm.trans hpvalue)⟩
  · exact fun j => (hi.calls j).mono (Nat.le_refl _) (Int.le_refl _) hremembers fun _ => id
  · intro swap hswap
    rcases List.mem_cons.mp hswap with rfl | hold
    · exact hcurrent
    · exact hi.reached swap hold
  · intro swap hswap hoccurrence
    rcases List.mem_cons.mp hswap with rfl | hold
    · exact .inl hvalue
    · refine (hi.committed_expired hp hcontent hfree hold (.inl hoccurrence)).imp_left fun hsame => ?_
      rw [hsame]
      exact hvalue
  · intro swap hswap
    rcases List.mem_cons.mp hswap with rfl | hold
    · intro p hreplaced
      have hpvalue : s.row.value = some p := by
        rw [Cell.value, hcontent]
        exact hreplaced
      obtain ⟨earlier, hearlier, rfl⟩ := hi.rowCommitted p hpvalue
      by_cases hnow : earlier.activation.occurrence = s.current
      · rcases hi.committed_expired hp hcontent hfree hearlier (.inl hnow) with hsame | hexpired
        · exact .inl hsame
        · exact .inr (.inl hexpired)
      · exact .inr (.inr hnow)
    · exact hi.safe.allowed swap hold
  · refine List.Pairwise.cons (fun earlier hearlier hsame => ?_) hi.safe.single
    exact hi.committed_expired hp hcontent hfree hearlier (.inr hsame)

/-- The swap of an overtaken call breaks the safety: the condition excludes no harmless swap. -/
theorem Invariant.unsafe_of_overtaken (hi : Invariant s) {a : Attempt} {operationNow : UtcDateTime}
    {row : Cell Activation} {previous : Option (Activation × ℕ)}
    (hcall : s.calls i = .rowRead a operationNow previous)
    (hrow : writeRow s.row a.activation previous = some row) (hovertaken : overtaken s a = true) :
    ¬ Safe (s.swapped a previous row) := by
  intro hsafe
  have hp : PhaseInvariant s (.rowRead a operationNow previous) := hcall ▸ hi.calls i
  obtain ⟨hcontent, -⟩ := writeRow_some hp hrow
  simp only [overtaken, Bool.and_eq_true, List.any_eq_true, Bool.or_eq_true,
    decide_eq_true_eq] at hovertaken
  obtain ⟨hstale, swap, hswap, ⟨hne, hactive⟩, hcurrent | hown⟩ := hovertaken
  · -- the row holds it, and the swap replaces it
    rcases hi.held swap hswap hcurrent with hvalue | hexpired
    · rw [Cell.value, hcontent] at hvalue
      rcases hsafe.allowed _ List.mem_cons_self _ hvalue with hsame | hexpired | hgone
      · exact hne hsame
      · exact Int.not_le.mpr hactive hexpired
      · exact hgone hcurrent
    · exact Int.not_le.mpr hactive hexpired
  · rcases List.rel_of_pairwise_cons hsafe.single hswap hown with hsame | hexpired
    · exact hne hsame
    · exact Int.not_le.mpr hactive hexpired

/-- What the condition says of a swap that takes effect. -/
theorem overtaken_of_maySwap {a : Attempt} {previous : Option (Activation × ℕ)}
    {row : Cell Activation} (h : maySwap s a previous = true)
    (hrow : writeRow s.row a.activation previous = some row) : overtaken s a = false := by
  rw [maySwap, hrow] at h
  simpa using h

/-- A confirmation keeps the invariant. -/
theorem Invariant.readBack (hi : Invariant s) (activation : Activation) :
    Invariant { s with readBacks := activation :: s.readBacks } where
  valid := hi.valid
  rowCommitted := hi.rowCommitted
  calls := fun j => (hi.calls j).mono (Nat.le_refl _) (Int.le_refl _) (fun _ => id)
    fun _ => List.mem_cons_of_mem _
  reached := hi.reached
  held := hi.held
  safe := by
    refine ⟨hi.safe.allowed, hi.safe.single, fun trigger htrigger => ?_⟩
    obtain ⟨hread, hrest⟩ := hi.safe.backed trigger htrigger
    exact ⟨List.mem_cons_of_mem _ hread, hrest⟩

/-- A message of a confirmed call keeps the invariant. -/
theorem Invariant.enqueue (hi : Invariant s) {trigger : Trigger} (hbacked : trigger.Backed s) :
    Invariant { s with enqueued := trigger :: s.enqueued } where
  valid := hi.valid
  rowCommitted := hi.rowCommitted
  calls := fun j => (hi.calls j).mono (Nat.le_refl _) (Int.le_refl _) (fun _ => id) fun _ => id
  reached := hi.reached
  held := hi.held
  safe := by
    refine ⟨hi.safe.allowed, hi.safe.single, fun other hother => ?_⟩
    rcases List.mem_cons.mp hother with rfl | hold
    · exact hbacked
    · exact hi.safe.backed other hold

/-! ## Steps -/

theorem phaseInvariant_raised : PhaseInvariant s .raised where
  bound := fun _ hb => nomatch hb
  knows := trivial

theorem phaseInvariant_returned {activation : Activation} {replayed : Bool} :
    PhaseInvariant s (.returned activation replayed) where
  bound := fun _ hb => nomatch hb
  knows := trivial

/-- A check that fails raises. -/
theorem phaseInvariant_ite {c : Prop} [Decidable c] {next : Phase} (h : PhaseInvariant s next) :
    PhaseInvariant s (if c then next else .raised) := by
  split
  · exact h
  · exact phaseInvariant_raised

theorem operationTime_le {fallback : UtcDateTime} (h : fallback ≤ s.time) :
    operationTime clocks s i fallback ≤ s.time := by
  unfold operationTime
  split
  · exact Int.le_refl _
  · exact h

/-- What the read of the row leaves to the swap. -/
theorem phaseInvariant_row (hi : Invariant s) {a : Attempt} {operationNow : UtcDateTime}
    (h : PhaseInvariant s (.timed a operationNow)) :
    PhaseInvariant s (rowPhase a operationNow s.row.content) := by
  cases hcontent : s.row.content with
  | none => exact ⟨h.bound, trivial⟩
  | some copy =>
    obtain ⟨previous, etag⟩ := copy
    rw [rowPhase]
    split
    case isTrue => exact phaseInvariant_raised
    case isFalse hactive =>
      split
      case isTrue => exact ⟨h.bound, trivial⟩
      case isFalse hne =>
        refine ⟨h.bound, Cell.remembers_read hi.valid hcontent, fun hsame => ?_⟩
        by_contra hlate
        refine hactive ?_
        simp only [isDifferentActive, Bool.and_eq_true, decide_eq_true_eq]
        exact ⟨⟨hne, hsame⟩, Int.not_le.mp hlate⟩

/-- Whole seconds are rounded towards zero. -/
theorem tdiv_mul_le {n : ℤ} (h : ¬ n.tdiv 1000 < 1) : n.tdiv 1000 * 1000 ≤ n := by
  have hround := Int.tdiv_mul_add_tmod n 1000
  have hpos : 0 ≤ n := by
    by_contra hneg
    have hquotient : 0 ≤ (-n).tdiv 1000 := Int.tdiv_nonneg (by omega) (by decide)
    rw [Int.neg_tdiv] at hquotient
    omega
  have hrest : 0 ≤ n.tmod 1000 := Int.tmod_nonneg 1000 hpos
  omega

/-- A message that a confirmed call sends at the time it counts from. -/
theorem backed_of_confirmed {a : Attempt} {operationNow : UtcDateTime} {replayed : Bool}
    (hp : PhaseInvariant s (.confirmed a operationNow replayed))
    (hleft : ¬ (a.request.expiresAt - s.time).tdiv 1000 < 1) :
    Trigger.Backed s ⟨a.artifacts.bindingId, a.activation,
      (a.request.expiresAt - s.time).tdiv 1000, s.time⟩ := by
  refine ⟨hp.knows, rfl, ?_⟩
  have hle := tdiv_mul_le hleft
  have hexpires : a.activation.expiresAt = a.request.expiresAt := rfl
  rw [hexpires]
  exact Int.add_le_of_le_sub_left hle

/-- A request of a call that meets the condition keeps the invariant. -/
theorem Invariant.requestStep (hi : Invariant s) (hc : condition clocks s (.call i .request) = true)
    (h : requestStep clocks s i (s.calls i) = some t) : Invariant t := by
  have hp := hi.calls i
  cases hphase : s.calls i with
  | verified request now =>
    rw [hphase] at h hp
    rw [← Option.some.inj h]
    refine hi.goto ⟨?_, trivial⟩
    rintro _ ⟨⟩
    exact ⟨Nat.le_refl _, hp.knows⟩
  | stateRead request now current =>
    rw [hphase] at h hp
    rw [← Option.some.inj h]
    exact hi.goto (phaseInvariant_ite ⟨hp.bound, trivial⟩)
  | built a now =>
    rw [hphase] at h hp
    rw [← Option.some.inj h]
    exact hi.goto ⟨hp.bound, trivial⟩
  | stateReread a now reread =>
    rw [hphase] at h hp
    rw [← Option.some.inj h]
    exact hi.goto (phaseInvariant_ite ⟨hp.bound, trivial⟩)
  | timed a operationNow =>
    rw [hphase] at h hp
    rw [← Option.some.inj h]
    exact hi.goto (phaseInvariant_row hi hp)
  | rowRead a operationNow previous =>
    simp only [condition, hphase] at hc
    rw [hphase] at h hp
    rw [GuidancePublication.requestStep] at h
    split at h
    case h_1 row hrow =>
      rw [← Option.some.inj h]
      exact (hi.swapped hphase hrow (overtaken_of_maySwap hc hrow)).goto ⟨hp.bound, trivial⟩
    case h_2 =>
      rw [← Option.some.inj h]
      exact hi.goto ⟨hp.bound, trivial⟩
  | conflicted a operationNow =>
    rw [hphase] at h hp
    rw [← Option.some.inj h]
    exact hi.goto (phaseInvariant_ite ⟨hp.bound, trivial⟩)
  | committed a operationNow replayed =>
    rw [hphase] at h hp
    rw [← Option.some.inj h]
    exact hi.goto ⟨hp.bound, trivial⟩
  | committedStateRead a operationNow replayed reread =>
    rw [hphase] at h hp
    rw [← Option.some.inj h]
    exact hi.goto (phaseInvariant_ite ⟨hp.bound, trivial⟩)
  | rechecked a operationNow replayed =>
    rw [hphase, GuidancePublication.requestStep] at h
    rw [hphase] at hp
    split at h
    case isTrue =>
      rw [← Option.some.inj h]
      exact (hi.readBack a.activation).goto ⟨hp.bound, List.mem_cons_self⟩
    case isFalse =>
      rw [← Option.some.inj h]
      exact hi.goto phaseInvariant_raised
  | confirmed a operationNow replayed =>
    simp only [condition, hphase, Bool.or_eq_true, decide_eq_true_eq] at hc
    have hnow : operationTime clocks s i operationNow = s.time := by
      unfold operationTime
      rcases hc with hclock | hsame
      · rw [if_pos hclock]
      · rw [hsame, ite_self]
    rw [hphase] at h hp
    dsimp only [GuidancePublication.requestStep] at h
    rw [hnow] at h
    split at h
    case isTrue =>
      rw [← Option.some.inj h]
      exact hi.goto phaseInvariant_raised
    case isFalse hleft =>
      rw [← Option.some.inj h]
      exact (hi.enqueue (backed_of_confirmed hp hleft)).goto phaseInvariant_returned
  | idle =>
    rw [hphase] at h
    cases h
  | authorityRead request now current index =>
    rw [hphase] at h
    cases h
  | unchanged a now =>
    rw [hphase] at h
    cases h
  | returned activation replayed =>
    rw [hphase] at h
    cases h
  | raised =>
    rw [hphase] at h
    cases h

/-- An event of a call that meets the condition keeps the invariant. -/
theorem Invariant.callStep (hi : Invariant s) {event : Event}
    (hc : condition clocks s (.call i event) = true) (h : callStep clocks s i event = some t) :
    Invariant t := by
  have hp := hi.calls i
  cases event with
  | start request =>
    rw [GuidancePublication.callStep] at h
    split at h
    case h_1 =>
      rw [← Option.some.inj h]
      refine hi.goto ?_
      split
      · exact phaseInvariant_raised
      · exact ⟨(fun _ hb => nomatch hb), Int.le_refl _⟩
    case h_2 => cases h
  | build artifacts =>
    rw [GuidancePublication.callStep] at h
    split at h
    case h_1 request now current index hphase =>
      rw [hphase] at hp
      rw [← Option.some.inj h]
      exact hi.goto ⟨hp.bound, trivial⟩
    case h_2 => cases h
  | correlate report =>
    rw [GuidancePublication.callStep] at h
    split at h
    case h_1 a now hphase =>
      rw [hphase] at hp
      rw [← Option.some.inj h]
      refine hi.goto ?_
      split
      · exact phaseInvariant_raised
      · refine ⟨?_, trivial⟩
        rintro _ ⟨⟩
        obtain ⟨hcurrent, hnow⟩ := hp.bound _ rfl
        exact ⟨hcurrent, operationTime_le hnow⟩
    case h_2 => cases h
  | request => exact hi.requestStep hc h
  | fail =>
    rw [← Option.some.inj h]
    exact hi.goto phaseInvariant_raised
  | unanswered =>
    rw [GuidancePublication.callStep] at h
    split at h
    case h_1 a operationNow previous hphase =>
      obtain ⟨row, hrow, rfl⟩ := Option.map_eq_some_iff.mp h
      simp only [condition, hphase] at hc
      exact (hi.swapped hphase hrow (overtaken_of_maySwap hc hrow)).goto phaseInvariant_raised
    case h_2 => cases h

/-- A step that meets the condition keeps the invariant. -/
theorem Invariant.step {action : Action} (hi : Invariant s) (hc : condition clocks s action = true)
    (h : step clocks s action = some t) : Invariant t := by
  cases action with
  | tick milliseconds =>
    rw [← Option.some.inj h]
    refine hi.of_sources (Nat.le_refl _) ?_ rfl rfl rfl rfl rfl
    exact Int.le_add_of_nonneg_right (Int.natCast_nonneg milliseconds)
  | advance occurrences =>
    rw [← Option.some.inj h]
    exact hi.of_sources (Nat.le_add_right _ _) (Int.le_refl _) rfl rfl rfl rfl rfl
  | reindex index =>
    rw [← Option.some.inj h]
    exact hi.of_sources (Nat.le_refl _) (Int.le_refl _) rfl rfl rfl rfl rfl
  | call i event => exact hi.callStep hc h

theorem invariant_initial (time : UtcDateTime) (current : ℕ) (index : IndexSnapshot) :
    Invariant (initialSystem time current index) where
  valid := Cell.valid_empty
  rowCommitted := fun _ hp => nomatch hp
  calls := fun _ => ⟨(fun _ hb => nomatch hb), trivial⟩
  reached := fun _ hswap => nomatch hswap
  held := fun _ hswap => nomatch hswap
  safe := ⟨(fun _ hswap => nomatch hswap), .nil, fun _ htrigger => nomatch htrigger⟩

/-- In every run whose steps all meet the condition, no activation is replaced by a stale one,
an occurrence has one unexpired activation, and messages end with theirs. -/
theorem publications_are_safe {time : UtcDateTime} {current : ℕ} {index : IndexSnapshot}
    (h : ((publications clocks time current index).guarded
      fun s a => condition clocks s a = true).Reachable s) : Safe s := by
  have hi : Invariant s := by
    refine h.invariant ?_ ?_
    · rintro _ rfl
      exact invariant_initial time current index
    · intro u a t _ hu hstep
      exact hu.step hstep.1 hstep.2
  exact hi.safe

/-! ## A stale call -/

/-- A request for an occurrence, and the artifacts of its call. -/
def requestFor (occurrence : ℕ) : PublicationRequest where
  requestId := "request"
  occurrence := occurrence
  evaluatedAt := 0
  expiresAt := 100000
  signed := true
  window := by decide

def artifactsFor (bindingId : String) : Artifacts := ⟨"report", bindingId, "version", "signature"⟩

/-- A call from its start to the look at its clock. -/
def untilTimed (i occurrence : ℕ) (bindingId : String) : List Action :=
  [.call i (.start (requestFor occurrence)), .call i .request, .call i .request,
    .call i (.build (artifactsFor bindingId)), .call i .request, .call i .request,
    .call i (.correlate "report")]

/-- A call passes its checks for occurrence 0; then occurrence 1 becomes current and gets its
activation; and the first call reads the row and replaces it. -/
def staleRun : List Action :=
  untilTimed 0 0 "first" ++ [.advance 1, .reindex ⟨"second", some 1⟩] ++ untilTimed 1 1 "second" ++
    [.call 1 .request, .call 1 .request, .call 0 .request, .call 0 .request]

/-- Two calls for occurrence 0 find no row; one commits and enqueues. Occurrence 1 becomes
current, its call replaces the activation and enqueues after half a second, and the swap of the
call that is left comes too late. -/
def replacingRun : List Action :=
  untilTimed 0 0 "first" ++ untilTimed 1 0 "other" ++ [.call 1 .request] ++
    List.replicate 6 (.call 0 .request) ++ [.advance 1, .reindex ⟨"second", some 1⟩] ++
    untilTimed 2 1 "second" ++ List.replicate 5 (.call 2 .request) ++
    [.tick 500, .call 2 .request, .call 1 .request]

theorem publications_are_safe_replacing :
    ∃ s, (publications (fun _ => true) 0 0 ⟨"first", some 0⟩).Reachable s ∧
      s.swaps.map (fun swap => (swap.activation.occurrence,
        swap.replaced.map fun p => p.occurrence)) = [(1, some 0), (0, none)] ∧
      s.enqueued.map (fun trigger => (trigger.bindingId, trigger.timeToLiveSeconds)) =
        [("second", 99), ("first", 100)] ∧ Safe s := by
  have hrun : ((runSteps (fun s a => if condition (fun _ => true) s a then step (fun _ => true) s a
      else none) (initialSystem 0 0 ⟨"first", some 0⟩) replacingRun).map fun s =>
        (s.swaps.map fun swap => (swap.activation.occurrence,
          swap.replaced.map fun p => p.occurrence),
        s.enqueued.map fun trigger => (trigger.bindingId, trigger.timeToLiveSeconds))) =
      some ([(1, some 0), (0, none)], [("second", 99), ("first", 100)]) := by decide
  obtain ⟨s, hs, hlogs⟩ := Option.map_eq_some_iff.mp hrun
  obtain ⟨hswaps, henqueued⟩ := Prod.mk.inj hlogs
  have hreachable := reachable_runSteps_guarded replacingRun (.start rfl) hs
  exact ⟨s, hreachable.of_guarded, hswaps, henqueued, publications_are_safe hreachable⟩

/-- A stale call replaces the activation of the current occurrence. -/
theorem stale_call_replaces_current :
    ¬ ∀ (clocks : Clocks) (time : UtcDateTime) (current : ℕ) (index : IndexSnapshot) (s : System),
      (publications clocks time current index).Reachable s → Safe s := by
  intro h
  have hrun : ((runSteps (step fun _ => true) (initialSystem 0 0 ⟨"first", some 0⟩) staleRun).map
      fun s => s.swaps.head?.map fun swap => (swap.replaced.map fun p =>
        decide (p = swap.activation ∨ p.expiresAt ≤ swap.time ∨ p.occurrence ≠ swap.current))) =
      some (some (some false)) := by decide
  obtain ⟨s, hs, hhead⟩ := Option.map_eq_some_iff.mp hrun
  obtain ⟨swap, hswap, hreplaced⟩ := Option.map_eq_some_iff.mp hhead
  obtain ⟨p, hp, hallowed⟩ := Option.map_eq_some_iff.mp hreplaced
  have hsafe := h (fun _ => true) 0 0 ⟨"first", some 0⟩ s (reachable_runSteps staleRun (.start rfl) hs)
  exact of_decide_eq_false hallowed (hsafe.allowed swap (List.mem_of_mem_head? hswap) p hp)

end AthenaContext.GuidancePublication
