import AthenaContext.ConditionalStores
import AthenaContext.TransitionSystems
import Mathlib

/-!
# Notification delivery

Dispatcher executions over the table of delivery rows: pruning of expired
reservations, reservation, the transition to `dispatching`, the webhook POST, and
the retry reset or the completion after it. Any number of executions interleave;
a table request may fail with or without effect, and an execution may crash
between any two steps.
-/

namespace AthenaContext.NotificationDelivery

open ConditionalStores TransitionSystems

/-- Milliseconds since the epoch. -/
abbrev UtcDateTime := ℤ

/-- States of a delivery row. -/
inductive DeliveryState
  | reserved
  | dispatching
  | delivered
  deriving DecidableEq, Repr

/-- A delivery row; its key is the notification identifier. -/
structure DeliveryRow where
  state : DeliveryState
  reservedAt : UtcDateTime
  expiresUnix : ℤ
  dispatchingAt : Option UtcDateTime
  deliveredAt : Option UtcDateTime
  deriving DecidableEq, Repr

/-- `int((reserved_at + timedelta(days=8)).timestamp())`. -/
def expiryOf (reservedAt : UtcDateTime) : ℤ := (reservedAt + 8 * 24 * 3600 * 1000) / 1000

/-- The entity that `acquire` creates or puts in place of a reservation. -/
def reservation (reservedAt : UtcDateTime) : DeliveryRow :=
  ⟨.reserved, reservedAt, expiryOf reservedAt, none, none⟩

/-- The merge of `mark_dispatching`. -/
def DeliveryRow.markDispatching (dispatchingAt : UtcDateTime) (row : DeliveryRow) : DeliveryRow :=
  { row with state := .dispatching, dispatchingAt := some dispatchingAt }

/-- The merge of `mark_delivered`. -/
def DeliveryRow.markDelivered (deliveredAt : UtcDateTime) (row : DeliveryRow) : DeliveryRow :=
  { row with state := .delivered, deliveredAt := some deliveredAt }

/-- The merge of `reset_for_retry`. -/
def DeliveryRow.resetForRetry (reservedAt : UtcDateTime) (row : DeliveryRow) : DeliveryRow :=
  { row with state := .reserved, reservedAt, expiresUnix := expiryOf reservedAt }

/-- `_validate_entity` on a row of the notification. -/
def validateEntity (row : DeliveryRow) : Except String DeliveryState :=
  if (row.state = .dispatching ∨ row.state = .delivered) ∧ row.dispatchingAt = none ∨
      row.state = .delivered ∧ row.deliveredAt = none then
    .error "notification delivery reservation is invalid"
  else .ok row.state

/-- What becomes of the broker message. -/
inductive Settlement
  | complete
  | abandon
  | deadLetter (reason errorDescription : String)
  | raised (error : String)
  deriving DecidableEq, Repr

/-- What the checks before the reservation find: the body, its signature and the
broker metadata, the current source, and the access token. -/
inductive Intake
  | rejected
  | sourceNotReady
  | failed (error : String)
  | admitted (notificationId : String)
  deriving DecidableEq, Repr

/-- How `urlopen` and the read of the response end. -/
inductive PostOutcome
  | response (status : ℕ)
  | httpError (code : ℕ)
  | unreachable
  | raised (error : String)
  deriving DecidableEq, Repr

/-- `_notification_http_error_is_permanent`. -/
def notificationHttpErrorIsPermanent (statusCode : ℕ) : Bool :=
  400 ≤ statusCode && statusCode < 500 && !(statusCode == 408 || statusCode == 429)

/-- `_notification_http_error_is_retryable`. -/
def notificationHttpErrorIsRetryable (statusCode : ℕ) : Bool :=
  statusCode == 408 || statusCode == 429 || (500 ≤ statusCode && statusCode < 600)

/-- A webhook POST: who made it, under which ETag of the row, and how it ended. -/
structure Post where
  worker : ℕ
  etag : ℕ
  outcome : Option PostOutcome
  deriving DecidableEq, Repr

/-- The POST ended in a failure that allows a retry. -/
def Post.failed (p : Post) : Bool :=
  match p.outcome with
  | some (.httpError code) => notificationHttpErrorIsRetryable code
  | _ => false

/-- The POST ended in a 2xx response. -/
def Post.delivered (p : Post) : Bool :=
  match p.outcome with
  | some (.response status) => 200 ≤ status && status < 300
  | _ => false

/-- The outcome of the POST is not known: it has none, as after a crash, or none
that tells a delivery from a rejection. -/
def Post.ambiguous (p : Post) : Bool :=
  match p.outcome with
  | none => true
  | some (.response status) => !(200 ≤ status && status < 300)
  | some (.httpError code) =>
    !notificationHttpErrorIsRetryable code && !notificationHttpErrorIsPermanent code
  | some .unreachable => true
  | some (.raised _) => true

/-- An update that moved a row to `dispatching`: by whom, from what, and under
which new ETag. -/
structure Move where
  worker : ℕ
  source : Option DeliveryState
  etag : ℕ
  deriving DecidableEq, Repr

/-- The row of one notification, with its moves to `dispatching` and its POSTs. -/
structure Delivery where
  cell : Cell DeliveryRow
  moves : List Move
  posts : List Post
  deriving DecidableEq

/-- Where one execution of `_dispatch_notification_message` stands. -/
inductive Phase
  | pruning (left : ℕ) (listed : List (String × ℕ))
  | creating
  | reading
  | reacquiring (etag : ℕ)
  | marking (etag : ℕ)
  | posting (etag : ℕ)
  | awaiting (etag : ℕ)
  | resetting (etag : ℕ)
  | completing (etag : ℕ)
  deriving DecidableEq, Repr

/-- One execution. -/
inductive Worker
  | waiting
  | executing (notificationId : String) (reservedAt : UtcDateTime) (phase : Phase)
  | settled (settlement : Settlement)
  | crashed
  deriving DecidableEq, Repr

/-- The table and the executions. -/
structure DispatchState where
  deliveries : String → Delivery
  workers : ℕ → Worker

/-- An execution begins, the service lists rows for its pruning query or fails to,
the execution makes its next request, the POST ends, or the process stops. -/
inductive DispatchAction
  | receive (worker : ℕ) (intake : Intake) (now : UtcDateTime)
  | list (worker : ℕ) (keys : List String) (failed : Bool)
  | advance (worker : ℕ) (now : UtcDateTime) (fault : Cell.Fault)
  | respond (worker : ℕ) (outcome : PostOutcome)
  | crash (worker : ℕ)

/-- One execution moves on, and with it the delivery of one notification. -/
def DispatchState.set (s : DispatchState) (i : ℕ) (id : String) (d : Delivery) (w : Worker) :
    DispatchState :=
  ⟨Function.update s.deliveries id d, Function.update s.workers i w⟩

def notificationUncertain : Settlement :=
  .deadLetter "AthenaNotificationDeliveryUncertain"
    "notification outcome was ambiguous; retry suppressed"

/-- The checks before the reservation. -/
def startDelivery (intake : Intake) (now : UtcDateTime) : Worker :=
  match intake with
  | .rejected =>
    .settled (.deadLetter "AthenaNotificationRejected" "notification failed bounded validation")
  | .sourceNotReady => .settled .abandon
  | .failed error => .settled (.raised error)
  | .admitted notificationId => .executing notificationId now (.pruning 32 [])

/-- The rows that the pruning query may list: reserved and expired. -/
def listedRow (s : DispatchState) (now : UtcDateTime) (key : String) : Option (String × ℕ) :=
  match (s.deliveries key).cell.content with
  | some (row, etag) =>
    if row.state = .reserved ∧ row.expiresUnix < now / 1000 then some (key, etag) else none
  | none => none

/-- A write to a row; a move to `dispatching` is recorded. -/
def Delivery.write (d : Delivery) (i : ℕ) (cell : Cell DeliveryRow) : Delivery :=
  { d with
    cell
    moves := if cell ≠ d.cell ∧ cell.content.map (fun c => c.1.state) = some .dispatching then
        d.moves ++ [⟨i, d.cell.content.map fun c => c.1.state, d.cell.next⟩]
      else d.moves }

/-- A conditional update of the row of a notification. A refusal of a row that is
not there is an error; any other refusal leads to `lost`. -/
def updateEntity (s : DispatchState) (i : ℕ) (id : String) (etag : ℕ)
    (update : DeliveryRow → DeliveryRow) (fault : Cell.Fault) (error : String)
    (lost : Settlement) (next : ℕ → Worker) : DispatchState :=
  let d := s.deliveries id
  let written := d.cell.merge etag update
  let cell := d.cell.attempt written fault
  s.set i id (d.write i cell)
    (match d.cell.answer written fault with
    | .written etag => next etag
    | .refused => .settled (if cell.content.isNone then .raised error else lost)
    | .failed => .settled (.raised error))

/-- The next deletion of `_prune_expired`, or the end of its listing. -/
def pruneExpired (s : DispatchState) (i : ℕ) (id : String) (reservedAt : UtcDateTime)
    (left : ℕ) (fault : Cell.Fault) : List (String × ℕ) → DispatchState
  | [] => s.set i id (s.deliveries id) (.executing id reservedAt .creating)
  | (key, etag) :: listed =>
    let d := s.deliveries key
    let written := d.cell.delete etag
    s.set i key (d.write i (d.cell.attempt written fault))
      (match d.cell.answer written fault with
      | .written _ => .executing id reservedAt (.pruning (left - 1) listed)
      | .refused => .executing id reservedAt .creating
      | .failed => .settled (.raised "notification reservation cleanup failed"))

/-- The creation of the reservation. -/
def createReservation (s : DispatchState) (i : ℕ) (id : String) (reservedAt : UtcDateTime)
    (fault : Cell.Fault) : DispatchState :=
  let d := s.deliveries id
  let written := d.cell.create (reservation reservedAt)
  s.set i id (d.write i (d.cell.attempt written fault))
    (match d.cell.answer written fault with
    | .written etag => .executing id reservedAt (.marking etag)
    | .refused => .executing id reservedAt .reading
    | .failed => .settled (.raised "notification delivery reservation failed"))

/-- What `acquire` makes of the row that is there, and the dispatcher of its
claim. -/
def afterRead (id : String) (reservedAt : UtcDateTime) (content : Option (DeliveryRow × ℕ)) :
    Cell.Fault → Worker
  | .failed _ => .settled (.raised "notification delivery reservation read failed")
  | _ =>
    match content with
    | none => .settled .abandon
    | some (row, etag) =>
      match validateEntity row with
      | .error error => .settled (.raised error)
      | .ok .delivered => .settled .complete
      | .ok .dispatching =>
        .settled (.deadLetter "AthenaNotificationDeliveryUncertain"
          "notification was already dispatching; retry and duplicate send suppressed")
      | .ok .reserved => .executing id reservedAt (.reacquiring etag)

/-- What the dispatcher does when the POST ended. -/
def afterPost (id : String) (reservedAt : UtcDateTime) (etag : ℕ) : PostOutcome → Worker
  | .response status =>
    if 200 ≤ status ∧ status < 300 then .executing id reservedAt (.completing etag)
    else .settled (.raised "notification webhook returned non-success")
  | .httpError code =>
    if notificationHttpErrorIsRetryable code then .executing id reservedAt (.resetting etag)
    else if notificationHttpErrorIsPermanent code then
      .settled (.deadLetter "AthenaNotificationRejected"
        "notification webhook rejected the bounded request")
    else .settled notificationUncertain
  | .unreachable => .settled notificationUncertain
  | .raised error => .settled (.raised error)

/-- The POST leaves. -/
def Delivery.send (d : Delivery) (i etag : ℕ) : Delivery :=
  { d with posts := d.posts ++ [⟨i, etag, none⟩] }

/-- The POST under an ETag ended. -/
def Delivery.conclude (d : Delivery) (etag : ℕ) (outcome : PostOutcome) : Delivery :=
  { d with
    posts := d.posts.map fun p => if p.etag = etag then { p with outcome := some outcome } else p }

/-- The next request of an execution. -/
def advanceWorker (s : DispatchState) (i : ℕ) (id : String) (reservedAt now : UtcDateTime)
    (fault : Cell.Fault) : Phase → Option DispatchState
  | .pruning left listed => some (pruneExpired s i id reservedAt left fault listed)
  | .creating => some (createReservation s i id reservedAt fault)
  | .reading =>
    some (s.set i id (s.deliveries id)
      (afterRead id reservedAt (s.deliveries id).cell.content fault))
  | .reacquiring etag =>
    some (updateEntity s i id etag (fun _ => reservation reservedAt) fault
      "notification delivery reservation reacquisition failed" .abandon
      fun etag => .executing id reservedAt (.marking etag))
  | .marking etag =>
    some (updateEntity s i id etag (.markDispatching now) fault
      "notification delivery dispatch transition failed" .abandon
      fun etag => .executing id reservedAt (.posting etag))
  | .posting etag =>
    some (s.set i id ((s.deliveries id).send i etag) (.executing id reservedAt (.awaiting etag)))
  | .awaiting _ => none
  | .resetting etag =>
    some (updateEntity s i id etag (.resetForRetry now) fault
      "notification delivery retry reset failed"
      (.raised "notification retry reset lost its dispatch lease") fun _ => .settled .abandon)
  | .completing etag =>
    some (updateEntity s i id etag (.markDelivered now) fault
      "notification delivery completion transition failed"
      (.raised "notification delivered transition lost its dispatch lease")
      fun _ => .settled .complete)

/-- One step. -/
def step (s : DispatchState) : DispatchAction → Option DispatchState
  | .receive i intake now =>
    match s.workers i with
    | .waiting => some { s with workers := Function.update s.workers i (startDelivery intake now) }
    | _ => none
  | .list i keys failed =>
    match s.workers i with
    | .executing id reservedAt (.pruning left listed) =>
      some { s with
        workers := Function.update s.workers i
          (if failed then .settled (.raised "notification reservation cleanup failed")
          else .executing id reservedAt
            (.pruning left ((listed ++ keys.filterMap (listedRow s reservedAt)).take left))) }
    | _ => none
  | .advance i now fault =>
    match s.workers i with
    | .executing id reservedAt phase => advanceWorker s i id reservedAt now fault phase
    | _ => none
  | .respond i outcome =>
    match s.workers i with
    | .executing id reservedAt (.awaiting etag) =>
      some (s.set i id ((s.deliveries id).conclude etag outcome)
        (afterPost id reservedAt etag outcome))
    | _ => none
  | .crash i => some { s with workers := Function.update s.workers i .crashed }

/-- An empty table and no execution under way. -/
def initial : DispatchState := ⟨fun _ => ⟨Cell.empty, [], []⟩, fun _ => .waiting⟩

/-- Dispatcher executions over one table. -/
def system : TransitionSystem DispatchState DispatchAction := ofStep initial step

/-! ## The invariant -/

/-- The ETag of a reservation that was read or written. -/
def Reserved (cell : Cell DeliveryRow) (etag : ℕ) : Prop :=
  ∃ row : DeliveryRow, row.state = .reserved ∧ cell.Remembers (row, etag)

/-- The row is absent or a reservation. -/
def Open (cell : Cell DeliveryRow) : Prop :=
  ∀ row etag, cell.content = some (row, etag) → row.state = .reserved

/-- The row is in the `dispatching` state to which the execution moved it. -/
def Leased (d : Delivery) (i etag : ℕ) : Prop :=
  (∃ row : DeliveryRow, row.state = .dispatching ∧ d.cell.content = some (row, etag)) ∧
    ∃ m ∈ d.moves, m.worker = i ∧ m.etag = etag

/-- The ETag under which an execution holds its row in `dispatching`. -/
def Worker.lease? : Worker → Option (String × ℕ)
  | .executing id _ (.posting etag) => some (id, etag)
  | .executing id _ (.awaiting etag) => some (id, etag)
  | .executing id _ (.resetting etag) => some (id, etag)
  | .executing id _ (.completing etag) => some (id, etag)
  | _ => none

/-- What an execution relies on. -/
def WorkerInvariant (deliveries : String → Delivery) (i : ℕ) : Worker → Prop
  | .executing _ _ (.pruning _ listed) =>
    ∀ entry ∈ listed, Reserved (deliveries entry.1).cell entry.2
  | .executing id _ (.reacquiring etag) => Reserved (deliveries id).cell etag
  | .executing id _ (.marking etag) => Reserved (deliveries id).cell etag
  | .executing id _ (.posting etag) =>
    Leased (deliveries id) i etag ∧ ∀ p ∈ (deliveries id).posts, p.failed = true ∧ p.etag ≠ etag
  | .executing id _ (.awaiting etag) =>
    Leased (deliveries id) i etag ∧ ∃ earlier, (deliveries id).posts = earlier ++ [⟨i, etag, none⟩] ∧
      ∀ p ∈ earlier, p.failed = true ∧ p.etag ≠ etag
  | .executing id _ (.resetting etag) =>
    Leased (deliveries id) i etag ∧ ∀ p ∈ (deliveries id).posts, p.failed = true
  | .executing id _ (.completing etag) => Leased (deliveries id) i etag
  | _ => True

/-- The row of a notification and its history agree. -/
structure Delivery.Consistent (d : Delivery) : Prop where
  valid : d.cell.Valid
  retried : Open d.cell → ∀ p ∈ d.posts, p.failed = true
  chain : ∀ p ∈ d.posts.dropLast, p.failed = true
  postEtags : (d.posts.map Post.etag).Nodup
  moveEtags : (d.moves.map Move.etag).Nodup
  drawn : ∀ m ∈ d.moves, m.etag < d.cell.next
  source : ∀ m ∈ d.moves, m.source = some .reserved
  made : ∀ p ∈ d.posts, ∃ m ∈ d.moves, m.etag = p.etag ∧ m.worker = p.worker

/-- No other execution holds the row in `dispatching`. -/
def DispatchState.Free (s : DispatchState) (i : ℕ) (id : String) : Prop :=
  ∀ j etag, j ≠ i → (s.workers j).lease? ≠ some (id, etag)

/-- The invariant of the table and all executions. -/
structure Invariant (s : DispatchState) : Prop where
  deliveries : ∀ id, (s.deliveries id).Consistent
  workers : ∀ i, WorkerInvariant s.deliveries i (s.workers i)
  exclusive : ∀ i id etag, (s.workers i).lease? = some (id, etag) → s.Free i id

section Invariant

variable {s : DispatchState} {i j : ℕ} {id key : String} {d e : Delivery} {w : Worker}
  {cell cell' : Cell DeliveryRow} {etag : ℕ} {p : Post}

/-- A reservation's ETag stays one. -/
theorem Reserved.evolve (h : Reserved cell etag) (he : cell.Evolves cell') :
    Reserved cell' etag := by
  obtain ⟨row, hstate, hr⟩ := h
  exact ⟨row, hstate, he.remembers hr⟩

/-- A merge under the ETag of a reservation merges into a reservation. -/
theorem Reserved.merged {f : DeliveryRow → DeliveryRow} (h : Reserved cell etag)
    (hm : cell.merge etag f = some cell') :
    ∃ row : DeliveryRow, row.state = .reserved ∧ cell.content = some (row, etag) ∧
      cell' = ⟨some (f row, cell.next), cell.next + 1⟩ := by
  obtain ⟨row, hstate, hr⟩ := h
  obtain ⟨y, hy, hcell, hrep⟩ := Cell.merge_some hm
  have hcontent : cell.content = some (row, etag) := hr.replaced hrep
  have hrow : y = row := congrArg Prod.fst (Option.some.inj (hy.symm.trans hcontent))
  subst hrow
  exact ⟨y, hstate, hcontent, hcell⟩

/-- A row with a reservation in it is open. -/
theorem open_of_content {row : DeliveryRow} (hc : cell.content = some (row, etag))
    (h : row.state = .reserved) : Open cell := by
  intro row' etag' hc'
  have he : (row, etag) = (row', etag') := Option.some.inj (hc.symm.trans hc')
  cases he
  exact h

/-- A held row is not open. -/
theorem Leased.not_open (h : Leased d i etag) : ¬ Open d.cell := by
  intro ho
  obtain ⟨⟨row, hstate, hc⟩, -⟩ := h
  rw [ho row etag hc] at hstate
  cases hstate

/-- A held row is held under the lease that the execution names. -/
theorem WorkerInvariant.leased (h : WorkerInvariant s.deliveries j w)
    (hl : w.lease? = some (id, etag)) : Leased (s.deliveries id) j etag := by
  cases w with
  | waiting => cases hl
  | settled settlement => cases hl
  | crashed => cases hl
  | executing id' reservedAt phase =>
    cases phase with
    | pruning left listed => cases hl
    | creating => cases hl
    | reading => cases hl
    | reacquiring etag' => cases hl
    | marking etag' => cases hl
    | posting etag' =>
      cases hl
      exact h.1
    | awaiting etag' =>
      cases hl
      exact h.1
    | resetting etag' =>
      cases hl
      exact h.1
    | completing etag' =>
      cases hl
      exact h

/-- Nobody holds an open row. -/
theorem Invariant.free_of_open (hi : Invariant s) (ho : Open (s.deliveries id).cell) :
    s.Free i id := by
  intro j etag _ hl
  exact ((hi.workers j).leased hl).not_open ho

/-- What another execution relies on survives a step on a row that it does not
hold. -/
theorem WorkerInvariant.frame (h : WorkerInvariant s.deliveries j w)
    (he : (s.deliveries id).cell.Evolves d.cell)
    (hfree : d = s.deliveries id ∨ ∀ etag, w.lease? ≠ some (id, etag)) :
    WorkerInvariant (Function.update s.deliveries id d) j w := by
  have hreserved : ∀ key etag, Reserved (s.deliveries key).cell etag →
      Reserved (Function.update s.deliveries id d key).cell etag := by
    intro key etag hr
    by_cases hk : key = id
    · subst hk
      rw [Function.update_self]
      exact hr.evolve he
    · rw [Function.update_of_ne hk]
      exact hr
  have hheld : ∀ key etag, w.lease? = some (key, etag) →
      Function.update s.deliveries id d key = s.deliveries key := by
    intro key etag hl
    by_cases hk : key = id
    · subst hk
      rw [Function.update_self]
      rcases hfree with hd | hfree
      · exact hd
      · exact absurd hl (hfree etag)
    · exact Function.update_of_ne hk _ _
  cases w with
  | waiting => trivial
  | settled settlement => trivial
  | crashed => trivial
  | executing id' reservedAt phase =>
    cases phase with
    | pruning left listed => exact fun entry hmem => hreserved _ _ (h entry hmem)
    | creating => trivial
    | reading => trivial
    | reacquiring etag => exact hreserved id' etag h
    | marking etag => exact hreserved id' etag h
    | posting etag =>
      have hsame := hheld id' etag rfl
      simp only [WorkerInvariant, hsame]
      exact h
    | awaiting etag =>
      have hsame := hheld id' etag rfl
      simp only [WorkerInvariant, hsame]
      exact h
    | resetting etag =>
      have hsame := hheld id' etag rfl
      simp only [WorkerInvariant, hsame]
      exact h
    | completing etag =>
      have hsame := hheld id' etag rfl
      simp only [WorkerInvariant, hsame]
      exact h

/-- One execution moves on, and with it the delivery of one notification that
nobody else holds. -/
theorem Invariant.set (hi : Invariant s) (he : (s.deliveries id).cell.Evolves d.cell)
    (hfree : d = s.deliveries id ∨ s.Free i id) (hd : d.Consistent)
    (hw : WorkerInvariant (Function.update s.deliveries id d) i w)
    (hlease : ∀ key etag, w.lease? = some (key, etag) → s.Free i key) :
    Invariant (s.set i id d w) := by
  refine ⟨fun key => ?_, fun j => ?_, fun j key etag hl k etag' hk hk' => ?_⟩
  · by_cases hkey : key = id
    · subst hkey
      simpa only [DispatchState.set, Function.update_self] using hd
    · simpa only [DispatchState.set, Function.update_of_ne hkey] using hi.deliveries key
  · by_cases hj : j = i
    · subst hj
      simpa only [DispatchState.set, Function.update_self] using hw
    · simp only [DispatchState.set, Function.update_of_ne hj]
      refine (hi.workers j).frame he ?_
      rcases hfree with hd | hfree
      · exact .inl hd
      · exact .inr fun etag => hfree j etag hj
  · simp only [DispatchState.set] at hl hk'
    by_cases hj : j = i
    · subst hj
      rw [Function.update_self] at hl
      rw [Function.update_of_ne hk] at hk'
      exact hlease key etag hl k etag' hk hk'
    · rw [Function.update_of_ne hj] at hl
      by_cases hki : k = i
      · subst hki
        rw [Function.update_self] at hk'
        exact hlease key etag' hk' j etag hj hl
      · rw [Function.update_of_ne hki] at hk'
        exact hi.exclusive j key etag hl k etag' hk hk'

/-- A step that touches no row. -/
theorem Invariant.quiet (hi : Invariant s) (hw : WorkerInvariant s.deliveries i w)
    (hlease : w.lease? = none) :
    Invariant { s with workers := Function.update s.workers i w } := by
  have hset : (⟨s.deliveries, Function.update s.workers i w⟩ : DispatchState) =
      s.set i "" (s.deliveries "") w := by
    simp only [DispatchState.set, Function.update_eq_self]
  rw [hset]
  refine hi.set .same (.inl rfl) (hi.deliveries "") ?_ fun key etag hl => ?_
  · rw [Function.update_eq_self]
    exact hw
  · rw [hlease] at hl
    cases hl

/-- A write that does not move the row to `dispatching`. -/
theorem Delivery.Consistent.rewrite (hd : d.Consistent) (he : d.cell.Evolves cell)
    (hstay : ∀ row etag, cell.content = some (row, etag) → row.state ≠ .dispatching)
    (hretried : Open cell → ∀ p ∈ d.posts, p.failed = true) : (d.write i cell).Consistent := by
  have hmoves : (d.write i cell).moves = d.moves := by
    refine if_neg fun hmove => ?_
    obtain ⟨⟨row, etag⟩, hc, hstate⟩ := Option.map_eq_some_iff.mp hmove.2
    exact hstay row etag hc hstate
  refine ⟨he.valid hd.valid, hretried, hd.chain, hd.postEtags, ?_, ?_, ?_, ?_⟩
  · rw [hmoves]
    exact hd.moveEtags
  · rw [hmoves]
    exact fun m hm => Nat.lt_of_lt_of_le (hd.drawn m hm) he.next_le
  · rw [hmoves]
    exact hd.source
  · rw [hmoves]
    exact hd.made

/-- A write that leaves an open row open. -/
theorem Delivery.Consistent.reopen (hd : d.Consistent) (he : d.cell.Evolves cell)
    (ho : Open d.cell) (ho' : Open cell) : (d.write i cell).Consistent := by
  refine hd.rewrite he (fun row etag hc hstate => ?_) fun _ => hd.retried ho
  rw [ho' row etag hc] at hstate
  cases hstate

/-- The write that moves an open row to `dispatching`. -/
theorem Delivery.Consistent.move (hd : d.Consistent) {row row' : DeliveryRow}
    (hc : d.cell.content = some (row, etag)) (hstate : row.state = .reserved)
    (hstate' : row'.state = .dispatching) (he : d.cell.Evolves cell)
    (hcell : cell = ⟨some (row', d.cell.next), d.cell.next + 1⟩) :
    (d.write i cell).Consistent ∧
      (d.write i cell).moves = d.moves ++ [⟨i, some .reserved, d.cell.next⟩] := by
  have hmoves : (d.write i cell).moves = d.moves ++ [⟨i, some .reserved, d.cell.next⟩] := by
    have hmove : cell ≠ d.cell ∧
        cell.content.map (fun c => c.1.state) = some .dispatching := by
      refine ⟨fun hsame => ?_, ?_⟩
      · have hnext : d.cell.next + 1 = d.cell.next := by
          have hn := congrArg Cell.next hcell
          rw [hsame] at hn
          exact hn.symm
        exact absurd hnext (Nat.succ_ne_self _)
      · rw [hcell]
        exact congrArg some hstate'
    simp only [Delivery.write, if_pos hmove, hc, Option.map_some, hstate]
  have hopen : Open d.cell := open_of_content hc hstate
  refine ⟨⟨he.valid hd.valid, fun ho => ?_, hd.chain, hd.postEtags, ?_, ?_, ?_, ?_⟩, hmoves⟩
  · exact hd.retried hopen
  · rw [hmoves, List.map_append, List.nodup_append]
    refine ⟨hd.moveEtags, List.nodup_singleton _, fun a ha b hb hab => ?_⟩
    obtain ⟨m, hm, rfl⟩ := List.mem_map.mp ha
    have hdrawn := hd.drawn m hm
    rw [hab, List.mem_singleton.mp hb] at hdrawn
    exact absurd hdrawn (Nat.lt_irrefl _)
  · rw [hmoves]
    intro m hm
    have hnext : (d.write i cell).cell.next = d.cell.next + 1 := congrArg Cell.next hcell
    rw [hnext]
    rcases List.mem_append.mp hm with hm | hm
    · exact Nat.lt_succ_of_lt (hd.drawn m hm)
    · rw [List.mem_singleton.mp hm]
      exact Nat.lt_succ_self _
  · rw [hmoves]
    intro m hm
    rcases List.mem_append.mp hm with hm | hm
    · exact hd.source m hm
    · rw [List.mem_singleton.mp hm]
  · intro p hp
    obtain ⟨m, hm, hpm⟩ := hd.made p hp
    rw [hmoves]
    exact ⟨m, List.mem_append_left _ hm, hpm⟩

/-- A write without effect. -/
theorem Delivery.write_same : d.write i d.cell = d := by
  have hmove : ¬ (d.cell ≠ d.cell ∧
      d.cell.content.map (fun c => c.1.state) = some .dispatching) := fun h => h.1 rfl
  simp only [Delivery.write, if_neg hmove]

/-- A settled execution relies on nothing. -/
theorem Invariant.settle (hi : Invariant s) (he : (s.deliveries id).cell.Evolves d.cell)
    (hfree : d = s.deliveries id ∨ s.Free i id) (hd : d.Consistent) (settlement : Settlement) :
    Invariant (s.set i id d (.settled settlement)) := by
  refine hi.set he hfree hd trivial fun key etag hl => ?_
  cases hl

/-- A conditional update keeps the invariant where its accepted write does. -/
theorem updateEntity_spec {update : DeliveryRow → DeliveryRow} {fault : Cell.Fault}
    {error : String} {lost : Settlement} {next : ℕ → Worker} (hi : Invariant s)
    (hwritten : ∀ cell, (s.deliveries id).cell.merge etag update = some cell →
      s.Free i id ∧ ((s.deliveries id).write i cell).Consistent ∧
      WorkerInvariant (Function.update s.deliveries id ((s.deliveries id).write i cell)) i
        (next (s.deliveries id).cell.next))
    (hlease : ∀ key e, (next (s.deliveries id).cell.next).lease? = some (key, e) → key = id) :
    Invariant (updateEntity s i id etag update fault error lost next) := by
  simp only [updateEntity]
  rcases Cell.attempt_cases (s.deliveries id).cell ((s.deliveries id).cell.merge etag update)
    fault with
    ⟨hsame, hnot⟩ | ⟨heffect, hanswer⟩
  · rw [hsame, Delivery.write_same]
    split
    · rename_i e he
      exact absurd he (hnot e)
    · exact hi.settle .same (.inl rfl) (hi.deliveries id) _
    · exact hi.settle .same (.inl rfl) (hi.deliveries id) _
  · obtain ⟨hfree, hd, hw⟩ := hwritten _ heffect
    obtain ⟨y, -, -, hrep⟩ := Cell.merge_some heffect
    split
    · rename_i e he
      rw [hanswer e he]
      refine hi.set (.replaced hrep) (.inr hfree) hd hw fun key e' hl => ?_
      rw [hlease key e' hl]
      exact hfree
    · exact hi.settle (.replaced hrep) (.inr hfree) hd _
    · exact hi.settle (.replaced hrep) (.inr hfree) hd _

/-- What was just written is remembered. -/
theorem remembers_fresh {row : DeliveryRow} :
    (⟨some (row, etag), etag + 1⟩ : Cell DeliveryRow).Remembers (row, etag) := by
  refine ⟨Nat.lt_succ_self _, fun q hq _ => ?_⟩
  exact (Option.some.inj hq).symm

/-- Taking a stale reservation over. -/
theorem reacquire_spec {reservedAt : UtcDateTime} {fault : Cell.Fault} {error : String}
    (hi : Invariant s) (hr : Reserved (s.deliveries id).cell etag) :
    Invariant (updateEntity s i id etag (fun _ => reservation reservedAt) fault error .abandon
      fun e => .executing id reservedAt (.marking e)) := by
  refine updateEntity_spec hi (fun cell hm => ?_) fun key e hl => ?_
  · obtain ⟨row, hstate, hc, hcell⟩ := hr.merged hm
    obtain ⟨y, -, -, hrep⟩ := Cell.merge_some hm
    have ho : Open (s.deliveries id).cell := open_of_content hc hstate
    have ho' : Open cell := by
      rw [hcell]
      exact open_of_content rfl rfl
    refine ⟨hi.free_of_open ho, (hi.deliveries id).reopen (.replaced hrep) ho ho', ?_⟩
    simp only [WorkerInvariant, Function.update_self]
    refine ⟨reservation reservedAt, rfl, ?_⟩
    have hwrite : ((s.deliveries id).write i cell).cell = cell := rfl
    rw [hwrite, hcell]
    exact remembers_fresh
  · cases hl

/-- Moving the reservation to `dispatching`. -/
theorem mark_spec {reservedAt now : UtcDateTime} {fault : Cell.Fault} {error : String}
    (hi : Invariant s) (hr : Reserved (s.deliveries id).cell etag) :
    Invariant (updateEntity s i id etag (.markDispatching now) fault error .abandon
      fun e => .executing id reservedAt (.posting e)) := by
  refine updateEntity_spec hi (fun cell hm => ?_) fun key e hl => ?_
  · obtain ⟨row, hstate, hc, hcell⟩ := hr.merged hm
    obtain ⟨y, -, -, hrep⟩ := Cell.merge_some hm
    have ho : Open (s.deliveries id).cell := open_of_content hc hstate
    obtain ⟨hd, hmoves⟩ := (hi.deliveries id).move (i := i) hc hstate rfl (.replaced hrep) hcell
    refine ⟨hi.free_of_open ho, hd, ?_⟩
    simp only [WorkerInvariant, Function.update_self]
    refine ⟨⟨⟨row.markDispatching now, rfl, ?_⟩, ?_⟩, fun p hp => ?_⟩
    · exact congrArg Cell.content hcell
    · rw [hmoves]
      exact ⟨_, List.mem_append_right _ List.mem_cons_self, rfl, rfl⟩
    · have hp' : p ∈ (s.deliveries id).posts := hp
      obtain ⟨m, hm, hetag, -⟩ := (hi.deliveries id).made p hp'
      have hdrawn := (hi.deliveries id).drawn m hm
      refine ⟨(hi.deliveries id).retried ho p hp', fun heq => ?_⟩
      rw [hetag, heq] at hdrawn
      exact absurd hdrawn (Nat.lt_irrefl _)
  · cases hl
    rfl

/-- The update after a POST by the execution that made it. -/
theorem conclude_spec {update : DeliveryRow → DeliveryRow} {fault : Cell.Fault} {error : String}
    {lost settlement : Settlement} (hi : Invariant s) (hfree : s.Free i id)
    (hstay : ∀ row, (update row).state ≠ .dispatching)
    (hretried : ∀ row, (update row).state = .reserved →
      ∀ p ∈ (s.deliveries id).posts, p.failed = true) :
    Invariant (updateEntity s i id etag update fault error lost fun _ => .settled settlement) := by
  refine updateEntity_spec hi (fun cell hm => ?_) fun key e hl => ?_
  · obtain ⟨y, -, hcell, hrep⟩ := Cell.merge_some hm
    refine ⟨hfree, (hi.deliveries id).rewrite (.replaced hrep) (fun row e hc => ?_)
      fun ho => ?_, trivial⟩
    · rw [hcell] at hc
      cases hc
      exact hstay y
    · have hstate := ho (update y) (s.deliveries id).cell.next (congrArg Cell.content hcell)
      exact hretried y hstate
  · cases hl

/-- A deletion under the ETag of a reservation deletes one. -/
theorem Reserved.deleted (h : Reserved cell etag) (hd : cell.delete etag = some cell') :
    Open cell ∧ Open cell' := by
  obtain ⟨row, hstate, hr⟩ := h
  have hc : cell.content = some (row, etag) := hr.deleted hd
  refine ⟨open_of_content hc hstate, fun row' etag' hc' => ?_⟩
  rw [(Cell.delete_some hd).2] at hc'
  cases hc'

/-- Pruning deletes reservations only. -/
theorem prune_spec {reservedAt : UtcDateTime} {left : ℕ} {fault : Cell.Fault}
    {listed : List (String × ℕ)} (hi : Invariant s)
    (hl : ∀ entry ∈ listed, Reserved (s.deliveries entry.1).cell entry.2) :
    Invariant (pruneExpired s i id reservedAt left fault listed) := by
  cases listed with
  | nil =>
    refine hi.set .same (.inl rfl) (hi.deliveries id) trivial fun key e h => ?_
    cases h
  | cons entry listed =>
    obtain ⟨key, etag⟩ := entry
    have hrest : ∀ e ∈ listed, Reserved (s.deliveries e.1).cell e.2 :=
      fun e he => hl e (List.mem_cons_of_mem _ he)
    have hhead : Reserved (s.deliveries key).cell etag := hl (key, etag) List.mem_cons_self
    have hkept : ∀ d : Delivery, (s.deliveries key).cell.Evolves d.cell → ∀ e ∈ listed,
        Reserved (Function.update s.deliveries key d e.1).cell e.2 := by
      intro d he e hmem
      by_cases hk : e.1 = key
      · have hres := hrest e hmem
        rw [hk] at hres ⊢
        rw [Function.update_self]
        exact hres.evolve he
      · rw [Function.update_of_ne hk]
        exact hrest e hmem
    simp only [pruneExpired]
    rcases Cell.attempt_cases (s.deliveries key).cell ((s.deliveries key).cell.delete etag)
      fault with
      ⟨hsame, -⟩ | ⟨heffect, -⟩
    · rw [hsame, Delivery.write_same]
      split
      · refine hi.set .same (.inl rfl) (hi.deliveries key) (hkept _ .same) fun k e h => ?_
        cases h
      · refine hi.set .same (.inl rfl) (hi.deliveries key) trivial fun k e h => ?_
        cases h
      · exact hi.settle .same (.inl rfl) (hi.deliveries key) _
    · obtain ⟨ho, ho'⟩ := hhead.deleted heffect
      have hd := (hi.deliveries key).reopen (i := i) (.deleted heffect) ho ho'
      have hfree : s.Free i key := hi.free_of_open ho
      split
      · refine hi.set (.deleted heffect) (.inr hfree) hd (hkept _ (.deleted heffect))
          fun k e h => ?_
        cases h
      · refine hi.set (.deleted heffect) (.inr hfree) hd trivial fun k e h => ?_
        cases h
      · exact hi.settle (.deleted heffect) (.inr hfree) hd _

/-- Creating the reservation. -/
theorem create_spec {reservedAt : UtcDateTime} {fault : Cell.Fault} (hi : Invariant s) :
    Invariant (createReservation s i id reservedAt fault) := by
  simp only [createReservation]
  rcases Cell.attempt_cases (s.deliveries id).cell
    ((s.deliveries id).cell.create (reservation reservedAt)) fault with
    ⟨hsame, hnot⟩ | ⟨heffect, hanswer⟩
  · rw [hsame, Delivery.write_same]
    split
    · rename_i e he
      exact absurd he (hnot e)
    · refine hi.set .same (.inl rfl) (hi.deliveries id) trivial fun k e h => ?_
      cases h
    · exact hi.settle .same (.inl rfl) (hi.deliveries id) _
  · obtain ⟨hnone, hcell⟩ := Cell.create_some heffect
    have ho : Open (s.deliveries id).cell := by
      intro row e hc
      rw [hnone] at hc
      cases hc
    have ho' : Open ((s.deliveries id).cell.attempt
        ((s.deliveries id).cell.create (reservation reservedAt)) fault) := by
      rw [hcell]
      exact open_of_content rfl rfl
    have hd := (hi.deliveries id).reopen (i := i) (.created heffect) ho ho'
    have hfree : s.Free i id := hi.free_of_open ho
    split
    · rename_i e he
      refine hi.set (.created heffect) (.inr hfree) hd ?_ fun k e' h => ?_
      · simp only [WorkerInvariant, Function.update_self]
        refine ⟨reservation reservedAt, rfl, ?_⟩
        rw [hanswer e he]
        simp only [Delivery.write]
        rw [hcell]
        exact remembers_fresh
      · cases h
    · refine hi.set (.created heffect) (.inr hfree) hd trivial fun k e h => ?_
      cases h
    · exact hi.settle (.created heffect) (.inr hfree) hd _

/-- What follows the read of the row. -/
theorem afterRead_spec (id : String) (reservedAt : UtcDateTime) (fault : Cell.Fault)
    (hi : Invariant s) :
    WorkerInvariant s.deliveries i
        (afterRead id reservedAt (s.deliveries id).cell.content fault) ∧
      (afterRead id reservedAt (s.deliveries id).cell.content fault).lease? = none := by
  have hread : ∀ row etag, (s.deliveries id).cell.content = some (row, etag) →
      validateEntity row = .ok .reserved → Reserved (s.deliveries id).cell etag := by
    intro row etag hc hv
    refine ⟨row, ?_, Cell.remembers_read (hi.deliveries id).valid hc⟩
    unfold validateEntity at hv
    split at hv
    · cases hv
    · exact Except.ok.inj hv
  unfold afterRead
  split
  · exact ⟨trivial, rfl⟩
  · split
    · exact ⟨trivial, rfl⟩
    · rename_i row etag hc
      split
      · exact ⟨trivial, rfl⟩
      · exact ⟨trivial, rfl⟩
      · exact ⟨trivial, rfl⟩
      · rename_i hv
        exact ⟨hread row etag hc hv, rfl⟩

/-- The POST leaves under the ETag of the held row. -/
theorem send_spec {reservedAt : UtcDateTime} (hi : Invariant s) (hfree : s.Free i id)
    (hw : WorkerInvariant s.deliveries i (.executing id reservedAt (.posting etag))) :
    Invariant (s.set i id ((s.deliveries id).send i etag)
      (.executing id reservedAt (.awaiting etag))) := by
  obtain ⟨hleased, hposts⟩ := hw
  have hd := hi.deliveries id
  refine hi.set .same (.inr hfree) ⟨hd.valid, fun ho => absurd ho hleased.not_open, ?_, ?_,
    hd.moveEtags, hd.drawn, hd.source, ?_⟩ ?_ fun key e h => ?_
  · intro p hp
    have hp' : p ∈ ((s.deliveries id).posts ++ [Post.mk i etag none]).dropLast := hp
    rw [List.dropLast_concat] at hp'
    exact (hposts p hp').1
  · have hmap : (((s.deliveries id).send i etag).posts.map Post.etag) =
        (s.deliveries id).posts.map Post.etag ++ [etag] := List.map_append
    rw [hmap, List.nodup_append]
    refine ⟨hd.postEtags, List.nodup_singleton _, fun a ha b hb hab => ?_⟩
    obtain ⟨p, hp, rfl⟩ := List.mem_map.mp ha
    exact (hposts p hp).2 (hab.trans (List.mem_singleton.mp hb))
  · intro p hp
    rcases List.mem_append.mp hp with hp | hp
    · exact hd.made p hp
    · obtain ⟨-, m, hm, hworker, hetag⟩ := hleased
      rw [List.mem_singleton.mp hp]
      exact ⟨m, hm, hetag, hworker⟩
  · simp only [WorkerInvariant, Function.update_self]
    exact ⟨hleased, _, rfl, hposts⟩
  · cases h
    exact hfree

/-- The execution that made the POST learns how it ended. -/
theorem respond_spec {reservedAt : UtcDateTime} {outcome : PostOutcome} (hi : Invariant s)
    (hfree : s.Free i id)
    (hw : WorkerInvariant s.deliveries i (.executing id reservedAt (.awaiting etag))) :
    Invariant (s.set i id ((s.deliveries id).conclude etag outcome)
      (afterPost id reservedAt etag outcome)) := by
  obtain ⟨hleased, earlier, hposts, hearlier⟩ := hw
  have hd := hi.deliveries id
  have hconcluded : ((s.deliveries id).conclude etag outcome).posts =
      earlier ++ [⟨i, etag, some outcome⟩] := by
    have hkept : (earlier.map fun p : Post =>
        if p.etag = etag then { p with outcome := some outcome } else p) = earlier := by
      refine List.map_congr_left (fun p hp => if_neg (hearlier p hp).2) |>.trans ?_
      exact List.map_id' earlier
    simp only [Delivery.conclude, hposts, List.map_append, hkept, List.map_cons, List.map_nil,
      if_true]
  have hetags : ((s.deliveries id).conclude etag outcome).posts.map Post.etag =
      (s.deliveries id).posts.map Post.etag := by
    rw [hconcluded, hposts, List.map_append, List.map_append]
    rfl
  refine hi.set .same (.inr hfree) ⟨hd.valid, fun ho => absurd ho hleased.not_open, ?_, ?_,
    hd.moveEtags, hd.drawn, hd.source, ?_⟩ ?_ ?_
  · rw [hconcluded, List.dropLast_concat]
    exact fun p hp => (hearlier p hp).1
  · rw [hetags]
    exact hd.postEtags
  · rw [hconcluded]
    intro p hp
    have hold := hd.made
    rw [hposts] at hold
    rcases List.mem_append.mp hp with hp | hp
    · exact hold p (List.mem_append_left _ hp)
    · rw [List.mem_singleton.mp hp]
      have hlast := hold (Post.mk i etag none) (List.mem_append_right _ List.mem_cons_self)
      exact hlast
  · unfold afterPost
    split
    · split
      · simp only [WorkerInvariant, Function.update_self]
        exact hleased
      · trivial
    · split
      · rename_i code hretry
        simp only [WorkerInvariant, Function.update_self]
        refine ⟨hleased, ?_⟩
        rw [hconcluded]
        intro p hp
        rcases List.mem_append.mp hp with hp | hp
        · exact (hearlier p hp).1
        · rw [List.mem_singleton.mp hp]
          exact hretry
      · split
        · trivial
        · trivial
    · trivial
    · trivial
  · intro key e h
    unfold afterPost at h
    split at h
    · split at h
      · cases h
        exact hfree
      · cases h
    · split at h
      · cases h
        exact hfree
      · split at h
        · cases h
        · cases h
    · cases h
    · cases h

/-- Listed rows are reservations. -/
theorem listedRow_reserved {now : UtcDateTime} {entry : String × ℕ} (hi : Invariant s)
    (h : listedRow s now key = some entry) : Reserved (s.deliveries entry.1).cell entry.2 := by
  unfold listedRow at h
  split at h
  · rename_i row etag hc
    split at h
    · rename_i hrow
      cases h
      exact ⟨row, hrow.1, Cell.remembers_read (hi.deliveries key).valid hc⟩
    · cases h
  · cases h

/-- The next request of an execution keeps the invariant. -/
theorem advanceWorker_spec {reservedAt now : UtcDateTime} {fault : Cell.Fault} {phase : Phase}
    {t : DispatchState} (hi : Invariant s)
    (hwork : s.workers i = .executing id reservedAt phase)
    (h : advanceWorker s i id reservedAt now fault phase = some t) : Invariant t := by
  have hw := hi.workers i
  rw [hwork] at hw
  have hheld : ∀ etag, (Worker.executing id reservedAt phase).lease? = some (id, etag) →
      s.Free i id := by
    intro etag hl
    rw [← hwork] at hl
    exact hi.exclusive i id etag hl
  cases phase with
  | pruning left listed =>
    cases h
    exact prune_spec hi hw
  | creating =>
    cases h
    exact create_spec hi
  | reading =>
    cases h
    obtain ⟨hread, hlease⟩ := afterRead_spec (i := i) id reservedAt fault hi
    refine hi.set .same (.inl rfl) (hi.deliveries id) ?_ fun key e hl => ?_
    · rw [Function.update_eq_self]
      exact hread
    · rw [hlease] at hl
      cases hl
  | reacquiring etag =>
    cases h
    exact reacquire_spec hi hw
  | marking etag =>
    cases h
    exact mark_spec hi hw
  | posting etag =>
    cases h
    exact send_spec hi (hheld etag rfl) hw
  | awaiting etag => cases h
  | resetting etag =>
    cases h
    refine conclude_spec hi (hheld etag rfl) (fun row hr => ?_) fun row _ => hw.2
    cases hr
  | completing etag =>
    cases h
    refine conclude_spec hi (hheld etag rfl) (fun row hr => ?_) fun row hr => ?_
    · cases hr
    · cases hr

/-- Every step keeps the invariant. -/
theorem step_spec {a : DispatchAction} {t : DispatchState} (hi : Invariant s)
    (h : step s a = some t) : Invariant t := by
  cases a with
  | receive i intake now =>
    simp only [step] at h
    split at h
    · cases h
      cases intake with
      | rejected => exact hi.quiet trivial rfl
      | sourceNotReady => exact hi.quiet trivial rfl
      | failed error => exact hi.quiet trivial rfl
      | admitted notificationId =>
        refine hi.quiet (fun entry hmem => ?_) rfl
        cases hmem
    · cases h
  | list i keys failed =>
    have hw := hi.workers i
    simp only [step] at h
    split at h
    · rename_i id reservedAt left listed hwork
      rw [hwork] at hw
      cases h
      cases failed with
      | true => exact hi.quiet trivial rfl
      | false =>
        refine hi.quiet (fun entry hmem => ?_) rfl
        rcases List.mem_append.mp (List.mem_of_mem_take hmem) with hold | hnew
        · exact hw entry hold
        · obtain ⟨key, -, hkey⟩ := List.mem_filterMap.mp hnew
          exact listedRow_reserved hi hkey
    · cases h
  | advance i now fault =>
    simp only [step] at h
    split at h
    · rename_i id reservedAt phase hwork
      exact advanceWorker_spec hi hwork h
    · cases h
  | respond i outcome =>
    have hw := hi.workers i
    simp only [step] at h
    split at h
    · rename_i id reservedAt etag hwork
      rw [hwork] at hw
      cases h
      refine respond_spec hi (hi.exclusive i id etag ?_) hw
      rw [hwork]
      rfl
    · cases h
  | crash i =>
    cases h
    exact hi.quiet trivial rfl

theorem invariant_initial : Invariant initial := by
  refine ⟨fun id => ⟨Cell.valid_empty, ?_, ?_, List.nodup_nil, List.nodup_nil, ?_, ?_, ?_⟩,
    fun i => trivial, fun i id etag hl => ?_⟩
  · intro _ p hp
    cases hp
  · intro p hp
    cases hp
  · intro m hm
    cases hm
  · intro m hm
    cases hm
  · intro p hp
    cases hp
  · cases hl

/-- The invariant holds in every reachable state. -/
theorem reachable_invariant (h : system.Reachable s) : Invariant s := by
  refine h.invariant ?_ ?_
  · intro s hs
    rw [hs]
    exact invariant_initial
  · intro s a t _ hi hs
    exact step_spec (a := a) hi hs

/-! ## At most one delivery -/

/-- The POST is known to have been delivered, or may have been. -/
def Post.concluded (p : Post) : Bool := p.delivered || p.ambiguous

/-- A failure that allows a retry leaves no doubt. -/
theorem Post.concluded_of_failed (h : p.failed = true) : p.concluded = false := by
  obtain ⟨worker, etag, outcome⟩ := p
  cases outcome with
  | none => cases h
  | some outcome =>
    cases outcome with
    | response status => cases h
    | unreachable => cases h
    | raised error => cases h
    | httpError code =>
      have hretry : notificationHttpErrorIsRetryable code = true := h
      simp only [concluded, delivered, ambiguous, hretry, Bool.not_true, Bool.false_and,
        Bool.or_false]

/-- Where only the last element may satisfy a test, at most one does. -/
theorem filter_length_le_one {α : Type*} {q : α → Bool} {l : List α}
    (h : ∀ x ∈ l.dropLast, q x = false) : (l.filter q).length ≤ 1 := by
  by_cases hl : l = []
  · subst hl
    exact Nat.zero_le _
  · have hsplit := List.dropLast_append_getLast hl
    have hnone : l.dropLast.filter q = [] :=
      List.filter_eq_nil_iff.mpr fun x hx hq => by
        rw [h x hx] at hq
        cases hq
    rw [← hsplit, List.filter_append, hnone, List.nil_append]
    exact List.length_filter_le _ _

/-- Where only the last element may satisfy a test, none follows one that does. -/
theorem pairwise_of_dropLast {α : Type*} {q : α → Bool} {l : List α}
    (h : ∀ x ∈ l.dropLast, q x = false) : l.Pairwise fun x _ => q x = false := by
  by_cases hl : l = []
  · subst hl
    exact List.Pairwise.nil
  · rw [← List.dropLast_append_getLast hl, List.pairwise_append]
    refine ⟨List.Pairwise.imp_of_mem (fun hx _ _ => h _ hx) (List.pairwise_of_forall fun _ _ => trivial),
      List.pairwise_singleton _ _, fun x hx _ _ => h x hx⟩

/-- For every notification and any interleaving: at most one POST is delivered or
ambiguous, no POST follows it, and every POST was made under its own ETag, the one
under which the same execution moved the row from `reserved` to `dispatching`. -/
theorem dispatch_atMostOnce (h : system.Reachable s) (id : String) :
    ((s.deliveries id).posts.filter Post.concluded).length ≤ 1 ∧
    (s.deliveries id).posts.Pairwise (fun earlier _ => earlier.concluded = false) ∧
    ((s.deliveries id).posts.map Post.etag).Nodup ∧
    ((s.deliveries id).moves.map Move.etag).Nodup ∧
    ∀ p ∈ (s.deliveries id).posts, ∃ m ∈ (s.deliveries id).moves,
      m.etag = p.etag ∧ m.worker = p.worker ∧ m.source = some .reserved := by
  have hd := (reachable_invariant h).deliveries id
  have hchain : ∀ p ∈ (s.deliveries id).posts.dropLast, p.concluded = false :=
    fun p hp => Post.concluded_of_failed (hd.chain p hp)
  refine ⟨filter_length_le_one hchain, pairwise_of_dropLast hchain, hd.postEtags, hd.moveEtags,
    fun p hp => ?_⟩
  obtain ⟨m, hm, hetag, hworker⟩ := hd.made p hp
  exact ⟨m, hm, hetag, hworker, hd.source m hm⟩

end Invariant

/-- The first execution is answered 503 and resets its row; the second takes the
reservation over and is answered 202. -/
def sampleRetry : List DispatchAction :=
  .receive 0 (.admitted "n") 0 :: List.replicate 4 (.advance 0 0 .answered) ++
    .respond 0 (.httpError 503) :: .advance 0 0 .answered ::
    .receive 1 (.admitted "n") 60000 :: List.replicate 6 (.advance 1 60000 .answered) ++
    [.respond 1 (.response 202), .advance 1 60000 .answered]

theorem sampleRetry_some : (runSteps step initial sampleRetry).isSome = true := by
  decide

def sampleDispatched : DispatchState := Option.get _ sampleRetry_some

/-- Two POSTs were made, and the second was delivered. -/
theorem dispatch_atMostOnce_retry :
    (sampleDispatched.deliveries "n").posts.map Post.delivered = [false, true] ∧
    ((sampleDispatched.deliveries "n").posts.filter Post.concluded).length ≤ 1 := by
  have hreach : system.Reachable sampleDispatched :=
    reachable_runSteps sampleRetry (.start rfl) (Option.some_get sampleRetry_some).symm
  have hposts : (sampleDispatched.deliveries "n").posts.map Post.delivered = [false, true] := by
    decide
  exact ⟨hposts, (dispatch_atMostOnce hreach "n").1⟩

end AthenaContext.NotificationDelivery
