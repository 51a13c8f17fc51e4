import AthenaContext.IncidentReassessment
import AthenaContext.NotificationSources

/-!
# Notifications of committed transitions

The worker of one incident's session takes one message after another; each delivery reads the
active index, publishes the incident or reconciles a redelivery, hands a notification to its
outbox, and completes the message. It may stop between any two of these requests, and between
them other publishers move the index. A message that is completed while the current pointer is
at its transition must have been notified.
-/

namespace AthenaContext.TransitionNotifications

open IncidentRecords ReassessmentRequests IncidentPublisher IncidentReassessment
open NotificationSources ConditionalStores TransitionSystems

/-- Where the worker is in a delivery. -/
inductive WorkerPhase
  | idle
  | verified (x : Execution) (result : VerifiedReassessmentResult)
  | reconciling (x : Execution) (result : VerifiedReassessmentResult)
      (snapshot : Option ActiveIncidentIndexSnapshot)
  | publishing (x : Execution) (state : IncidentState) (request : IncidentPublicationRequest)
      (phase : PublishPhase)
  /-- The state is published or recorded; whether the call returns it. -/
  | recordedState (x : Execution) (state : IncidentState) (returned : Bool)
  | notifying (x : Execution) (state : IncidentState)
  | completing (x : Execution)
  deriving DecidableEq, Repr

/-- A completed message: its transition, and the state that the current pointer was at. -/
structure CompletedMessage where
  transitionId : String
  pointed : Option IncidentState
  deriving DecidableEq, Repr

/-- The stores, the outboxes of both versions, the worker, and the messages it completed. -/
structure SessionState where
  store : Store
  outboxV2 : List NotificationV2
  worker : WorkerPhase
  completed : List CompletedMessage

/-- What happens next. -/
inductive SessionAction
  /-- A delivery whose reassessment came to its result. -/
  | deliver (x : Execution)
  | readIndex
  | readState
  | advance
  | enqueue
  | notify (reader : SourceReader) (verifiedAt : UtcDateTime)
  | complete
  | stop
  /-- One blob request of another publisher. -/
  | other (request : PublicationRequest) (phase : PublishPhase)

/-- Which of the two publications the worker is configured with. -/
inductive Channel
  | v1 | v2
  deriving DecidableEq, Repr

section Session

variable (publisher : Publisher) (sign : Payload → String) (trust : NotificationTrust)
  (channel : Channel) (incidentId : String)

def SessionState.goto (s : SessionState) (phase : WorkerPhase) : SessionState :=
  { s with worker := phase }

/-- The delivery is one of the session, and hands the outbox of the first version to the
reassessment exactly when there is no publication of the second. -/
def accepts (x : Execution) : Prop :=
  x.request.incidentId = incidentId ∧ (x.notifications = true ↔ channel = .v1)

instance (x : Execution) : Decidable (accepts channel incidentId x) := by
  unfold accepts
  infer_instance

/-- The request does not write the current pointer of the incident. -/
def isOther : PublicationRequest → Prop
  | .incident r => r.currentPointerAsset.blobName ≠ currentPointerName incidentId
  | .heartbeat _ => True

instance (request : PublicationRequest) : Decidable (isOther incidentId request) := by
  unfold isOther
  cases request <;> infer_instance

/-- The decision after the index was read. -/
def decideDelivery (s : SessionState) (x : Execution) (result : VerifiedReassessmentResult)
    (snapshot : Option ActiveIncidentIndexSnapshot) : SessionState :=
  let entry := snapshotEntryOf snapshot x.request.incidentId
  if ∃ e ∈ entry, e.scenario ≠ x.request.scenario ∨ e.workloadRole ≠ x.request.workloadRole then
    s.goto .idle
  else if isNoopReconciliation result.verifiedHealthy entry then
    s.goto (.reconciling x result snapshot)
  else
    match buildSignedIncidentState publisher.encoding sign x.key x.request
        (entry.elim x.detectedAt fun e => e.detectedAt) (max x.updatedAt result.observedAt)
        result.targetBinding result.verifiedHealthy result.findings result.reasoning with
    | .error _ => s.goto .idle
    | .ok (state, attestation) =>
      match buildIncidentPublication publisher.encoding sign x.key state attestation x.publishedAt
          snapshot with
      | .error _ => s.goto .idle
      | .ok request =>
        match startPublication publisher (.incident request) with
        | .error _ => s.goto .idle
        | .ok phase => s.goto (.publishing x state request phase)

/-- The reconciliation of a redelivery, after the current state was read. -/
def reconcileRead (s : SessionState) (x : Execution) (result : VerifiedReassessmentResult)
    (snapshot : Option ActiveIncidentIndexSnapshot) : SessionState :=
  let entry := snapshotEntryOf snapshot x.request.incidentId
  match readCurrentIncidentState publisher s.store.container x.request.incidentId with
  | .error _ => s.goto .idle
  | .ok none => s.goto (.completing x)
  | .ok (some latest) =>
    if recorded x result.verifiedHealthy latest then
      if ¬ result.verifiedHealthy ∧ ¬ ∃ e ∈ entry, entryMatches publisher e latest then
        s.goto .idle
      else if result.verifiedHealthy ∧ entry.isSome then s.goto .idle
      else
        s.goto (.recordedState x latest.state (latest.occurrence.isSome && snapshot.isSome))
    else s.goto (.completing x)

/-- One blob request of the worker's publication. -/
def advancePublication (s : SessionState) (x : Execution) (state : IncidentState)
    (request : IncidentPublicationRequest) (phase : PublishPhase) : SessionState :=
  let next := publishStep publisher (.incident request) s.store.container phase
  let s := { s with store := { s.store with container := next.1 } }
  match next.2 with
  | .returned =>
    match requestReceipt publisher request publisher.versionId with
    | .error _ => s.goto .idle
    | .ok _ => s.goto (.recordedState x state true)
  | .raised _ => s.goto .idle
  | phase => s.goto (.publishing x state request phase)

/-- The worker after the outbox of the first version. -/
def afterEnqueue (x : Execution) (state : IncidentState) (returned : Bool) : WorkerPhase :=
  if channel = .v2 ∧ returned = true then .notifying x state else .completing x

/-- One action of a session. An action that is not due is refused. -/
def step (s : SessionState) (action : SessionAction) : Option SessionState :=
  match action, s.worker with
  | .deliver x, .idle =>
    if accepts channel incidentId x then
      match x.result with
      | none => some s
      | some result =>
        if result.requestId ≠ x.request.requestId then some s
        else some (s.goto (.verified x result))
    else none
  | .readIndex, .verified x result =>
    match readActiveIncidentIndex publisher s.store.container with
    | .error _ => some (s.goto .idle)
    | .ok snapshot => some (decideDelivery publisher sign s x result snapshot)
  | .readState, .reconciling x result snapshot =>
    some (reconcileRead publisher s x result snapshot)
  | .advance, .publishing x state request phase =>
    some (advancePublication publisher s x state request phase)
  | .enqueue, .recordedState x state returned =>
    some { s with
      store := enqueue s.store x state
      worker := afterEnqueue channel x state returned }
  | .notify reader verifiedAt, .notifying x state =>
    match publishNotification publisher trust reader state.incidentId verifiedAt with
    | .error (.notReady _) => some s
    | .error _ => some (s.goto .idle)
    | .ok notification =>
      some { s with outboxV2 := s.outboxV2 ++ [notification], worker := .completing x }
  | .complete, .completing x =>
    let message : CompletedMessage :=
      ⟨x.request.idempotencyKey, pointedState? s.store.container incidentId⟩
    some { s with completed := s.completed ++ [message], worker := .idle }
  | .stop, _ => some (s.goto .idle)
  | .other request phase, _ =>
    if isOther incidentId request then
      some { s with store := { s.store with
        container := (publishStep publisher request s.store.container phase).1 } }
    else none
  | _, _ => none

/-- Nothing was published, handed over or completed. -/
def initial : SessionState := ⟨⟨emptyContainer, []⟩, [], .idle, []⟩

/-- The session of one incident. -/
def system : TransitionSystem SessionState SessionAction :=
  ofStep initial (step publisher sign trust channel incidentId)

/-- A notification of the state was handed to the outbox of the channel. -/
def Notified (s : SessionState) (state : IncidentState) : Prop :=
  match channel with
  | .v1 => ∃ n ∈ s.store.outbox, n.incidentId = incidentId ∧ n.transitionId = state.transitionId ∧
      n.lifecycle = state.lifecycle
  | .v2 => ∃ n ∈ s.outboxV2, n.incidentId = incidentId ∧ n.transitionId = state.transitionId ∧
      n.lifecycle = state.lifecycle

/-- Every message that was completed at its transition was notified. -/
def CompletedNotified (s : SessionState) : Prop :=
  ∀ m ∈ s.completed, ∀ state ∈ m.pointed, state.transitionId = m.transitionId →
    Notified channel incidentId s state

/-- A redelivery that has nothing to publish finds the state of its own transition as it would
record it, or finds it notified; and the feed of a publication of the second version lists the
state that the current pointer is at. -/
def Condition (s : SessionState) (action : SessionAction) : Prop :=
  match action, s.worker with
  | .readState, .reconciling x result _ =>
    ∀ state ∈ pointedState? s.store.container incidentId,
      state.transitionId = x.request.idempotencyKey →
      (state.lifecycle = (if result.verifiedHealthy then .resolved else .active) ∧
        state.scenario = x.request.scenario ∧ state.workloadRole = x.request.workloadRole) ∨
      Notified channel incidentId s state
  | .notify reader _, .notifying _ _ =>
    ∀ state ∈ pointedState? s.store.container incidentId, FeedLists reader incidentId state
  | _, _ => True

instance (s : SessionState) (state : IncidentState) :
    Decidable (Notified channel incidentId s state) := by
  unfold Notified
  cases channel <;> infer_instance

instance (s : SessionState) : Decidable (CompletedNotified channel incidentId s) := by
  unfold CompletedNotified
  infer_instance

instance (s : SessionState) (action : SessionAction) :
    Decidable (Condition channel incidentId s action) := by
  unfold Condition FeedLists
  split <;> infer_instance

end Session

/-! ## What other publishers keep -/

/-- The pointed state of an incident, no older than its pointer, and with an index behind it
where it is not active. -/
structure PointerInvariant (container : Container) (incidentId : String) : Prop where
  pointed : ∀ pointer ∈ pointer? container incidentId, ∃ state,
    container.immutable (removePrefix pointer.statePath "./") = some (.state state) ∧
      state.updatedAt ≤ pointer.publishedAt ∧
      (state.lifecycle ≠ .active → container.active.value.isSome)

/-- A container after requests that leave the incident's pointer alone. -/
structure Keeps (incidentId : String) (before after : Container) : Prop where
  immutable : ∀ name payload, before.immutable name = some payload →
    after.immutable name = some payload
  pointer : pointer? after incidentId = pointer? before incidentId
  active : before.active.value.isSome → after.active.value.isSome

section Container

variable {publisher : Publisher} {incidentId : String} {container : Container}

theorem Keeps.refl : Keeps incidentId container container := ⟨fun _ _ h => h, rfl, id⟩

theorem writeMutable_isSome {α : Type} {cell written : Cell α} {x : α} {write : MutableWrite}
    (h : writeMutable cell x write = .ok written) (hcell : cell.value.isSome) :
    written.value.isSome := by
  by_cases hw : write = .unchanged
  · subst hw
    cases h
    exact hcell
  · rw [writeMutable_value hw h]
    rfl

theorem keeps_of_upload {written : Container} {asset : PresentationAsset}
    (h : uploadImmutable container asset = .ok written) : Keeps incidentId container written := by
  obtain ⟨-, hkeep, hcurrent, hactive⟩ := uploadImmutable_ok h
  refine ⟨hkeep, ?_, fun hsome => by rw [hactive]; exact hsome⟩
  rw [pointer?, pointer?, hcurrent]

theorem keeps_of_index {index : ActiveIncidentIndex} {write : MutableWrite}
    {cell : Cell ActiveIncidentIndex} (h : writeMutable container.active index write = .ok cell) :
    Keeps incidentId container { container with active := cell } :=
  ⟨fun _ _ h => h, rfl, writeMutable_isSome h⟩

/-- A blob request of another publication keeps what the session relies on. -/
theorem keeps_of_other {request : PublicationRequest} (hother : isOther incidentId request)
    {phase : PublishPhase} :
    Keeps incidentId container (publishStep publisher request container phase).1 := by
  have hmove : Moves publisher request container phase
      (publishStep publisher request container phase) := publishStep_moves phase
  generalize publishStep publisher request container phase = next at hmove ⊢
  cases hmove with
  | uploadsDone h => exact .refl
  | uploaded h => exact keeps_of_upload h
  | pointerSkipped hp h => exact .refl
  | pointerEqual hr h => exact .refl
  | pointerDownloaded hr hw h => exact .refl
  | pointerWritten hr h =>
    subst hr
    have hne : currentPointerName incidentId ≠ _ := Ne.symm hother
    refine ⟨fun _ _ h => h, ?_, id⟩
    rw [pointer?, pointer?]
    dsimp only
    rw [Function.update_of_ne hne]
  | indexEqual h => exact .refl
  | indexDownloaded hw h => exact .refl
  | indexWritten h => exact keeps_of_index h
  | refused hp => exact .refl
  | finished hp => exact .refl

theorem PointerInvariant.keep {after : Container} (hi : PointerInvariant container incidentId)
    (hk : Keeps incidentId container after) : PointerInvariant after incidentId := by
  refine ⟨fun pointer hp => ?_⟩
  rw [hk.pointer] at hp
  obtain ⟨state, hstate, htime, hindex⟩ := hi.pointed pointer hp
  exact ⟨state, hk.immutable _ _ hstate, htime, fun h => hk.active (hindex h)⟩

/-- The pointed state stays the pointed state. -/
theorem Keeps.pointedState {after : Container} {state : IncidentState}
    (hi : PointerInvariant container incidentId) (hk : Keeps incidentId container after) :
    pointedState? after incidentId = some state ↔
      pointedState? container incidentId = some state := by
  cases hp : pointer? container incidentId with
  | none =>
    have hafter : pointer? after incidentId = none := hk.pointer.trans hp
    simp [pointedState?, hp, hafter]
  | some pointer =>
    obtain ⟨pointed, hpointed, -, -⟩ := hi.pointed pointer hp
    rw [pointedState?_eq hp hpointed,
      pointedState?_eq (hk.pointer.trans hp) (hk.immutable _ _ hpointed)]

/-- The state that is read is the pointed one, with its occurrence. -/
theorem readCurrentIncidentState_some {latest : CurrentIncidentStateSnapshot}
    (h : readCurrentIncidentState publisher container incidentId = .ok (some latest)) :
    pointer? container incidentId = some latest.pointer ∧
      container.immutable (removePrefix latest.pointer.statePath "./") =
        some (.state latest.state) ∧
      latest.state.incidentId = incidentId ∧
      (latest.state.updatedAt ≤ latest.pointer.publishedAt → latest.occurrence.isSome) := by
  unfold readCurrentIncidentState at h
  dsimp only at h
  split at h
  · cases h
  · split at h
    · cases h
    · rename_i pointer hpointer
      split at h
      · cases h
      · split at h
        · rename_i hstate _
          split at h
          · cases h
          · rename_i hchecks
            push Not at hchecks
            split at h
            · obtain ⟨receipt, -, h⟩ := bind_eq_ok.mp h
              cases h
              exact ⟨hpointer, hstate, hchecks.2.2.2.2.2.1, fun _ => rfl⟩
            · rename_i hlate
              cases h
              exact ⟨hpointer, hstate, hchecks.2.2.2.2.2.1, fun htime => absurd htime hlate⟩
        · cases h
        · cases h

theorem readCurrentIncidentState_none
    (h : readCurrentIncidentState publisher container incidentId = .ok none) :
    pointedState? container incidentId = none := by
  unfold readCurrentIncidentState at h
  dsimp only at h
  split at h
  · cases h
  · split at h
    · rename_i hnone
      rw [pointedState?, pointer?, hnone]
      rfl
    · split at h
      · cases h
      · split at h
        · split at h
          · cases h
          · split at h
            · obtain ⟨receipt, -, h⟩ := bind_eq_ok.mp h
              cases h
            · cases h
        · cases h
        · cases h

end Container

/-! ## The worker's own publication -/

section Publication

variable {publisher : Publisher} {sign : Payload → String} {incidentId : String}
  {container : Container} {x : Execution} {state : IncidentState}
  {request : IncidentPublicationRequest}

/-- A publication of the session: its state is of the delivery, and its pointer points to it. -/
structure BuiltFor (incidentId : String) (x : Execution) (state : IncidentState)
    (request : IncidentPublicationRequest) : Prop where
  incident : state.incidentId = incidentId
  transition : state.transitionId = x.request.idempotencyKey
  lifecycle : state.lifecycle = .active ∨ state.lifecycle = .resolved
  stateAsset : request.state.payload = .state state
  statePath : removePrefix request.pointer.statePath "./" = request.state.blobName
  current : request.currentPointerAsset.blobName = currentPointerName incidentId
  timely : state.updatedAt ≤ request.pointer.publishedAt

/-- A state that is not active has an index behind it. -/
def Indexed (container : Container) (state : IncidentState) : Prop :=
  state.lifecycle ≠ .active → container.active.value.isSome

/-- How far a publication has come: its state is uploaded before its pointer is written. -/
def Committed (container : Container) (incidentId : String) (state : IncidentState)
    (request : IncidentPublicationRequest) : PublishPhase → Prop
  | .uploading assets => request.state ∈ assets ∨ Stored state request container
  | .pointerDue => Stored state request container
  | .pointerLoaded write => write ≠ .unchanged ∧ Stored state request container
  | .indexDue => Stored state request container ∧
      pointer? container incidentId = some request.pointer
  | .indexLoaded _ => Stored state request container ∧
      pointer? container incidentId = some request.pointer
  | .returned => Stored state request container ∧
      pointer? container incidentId = some request.pointer
  | .raised _ => True

theorem Stored.keep {after : Container} (hk : Keeps incidentId container after)
    (h : Stored state request container) : Stored state request after :=
  hk.immutable _ _ h

theorem Committed.keep {after : Container} {phase : PublishPhase}
    (hk : Keeps incidentId container after)
    (h : Committed container incidentId state request phase) :
    Committed after incidentId state request phase := by
  cases phase with
  | uploading assets => exact h.imp id (Stored.keep hk)
  | pointerDue => exact Stored.keep hk h
  | pointerLoaded write => exact ⟨h.1, Stored.keep hk h.2⟩
  | indexDue => exact ⟨Stored.keep hk h.1, hk.pointer.trans h.2⟩
  | indexLoaded write => exact ⟨Stored.keep hk h.1, hk.pointer.trans h.2⟩
  | returned => exact ⟨Stored.keep hk h.1, hk.pointer.trans h.2⟩
  | raised error => trivial

/-- A pointer that is written points to the uploaded state. -/
theorem PointerInvariant.write {cell : Cell IncidentFeedPointer}
    (hb : BuiltFor incidentId x state request) (hs : Stored state request container)
    (hindexed : Indexed container state) (hcell : cell.value = some request.pointer) :
    PointerInvariant { container with
      current := Function.update container.current request.currentPointerAsset.blobName cell }
      incidentId ∧
    pointer? { container with
      current := Function.update container.current request.currentPointerAsset.blobName cell }
      incidentId = some request.pointer := by
  have hown : pointer? { container with
      current := Function.update container.current request.currentPointerAsset.blobName cell }
      incidentId = some request.pointer := by
    rw [pointer?, hb.current]
    dsimp only
    rw [Function.update_self]
    exact hcell
  refine ⟨⟨fun pointer hp => ?_⟩, hown⟩
  rw [hown] at hp
  cases hp
  refine ⟨state, ?_, hb.timely, hindexed⟩
  rw [hb.statePath]
  exact hs

/-- One blob request of the worker's own publication. -/
theorem Committed.step {phase : PublishPhase} {next : Container × PublishPhase}
    (hb : BuiltFor incidentId x state request) (hi : PointerInvariant container incidentId)
    (hindexed : Indexed container state)
    (h : Committed container incidentId state request phase)
    (hm : Moves publisher (.incident request) container phase next) :
    PointerInvariant next.1 incidentId ∧ Indexed next.1 state ∧
      Committed next.1 incidentId state request next.2 := by
  cases hm with
  | uploadsDone hn =>
    have hstored : Stored state request container := h.resolve_left List.not_mem_nil
    rcases hn with ⟨r, -, rfl⟩ | ⟨beat, hbeat, -⟩
    · exact ⟨hi, hindexed, hstored⟩
    · cases hbeat
  | uploaded hu =>
    have hown := (uploadImmutable_ok hu).1
    have hk : Keeps incidentId _ _ := keeps_of_upload hu
    refine ⟨hi.keep hk, fun hne => hk.active (hindexed hne), ?_⟩
    rcases h with hmem | hstored
    · rcases List.mem_cons.mp hmem with rfl | hmem
      · exact Or.inr (hown.trans (congrArg some hb.stateAsset))
      · exact Or.inl hmem
    · exact Or.inr (Stored.keep hk hstored)
  | pointerSkipped hp hr => cases hr
  | pointerEqual hr hw =>
    cases hr
    obtain ⟨etag, hcontent⟩ := currentPointerWrite_unchanged hw
    refine ⟨hi, hindexed, h, ?_⟩
    rw [pointer?, ← hb.current, Cell.value, hcontent]
    rfl
  | pointerDownloaded hr hw _ => exact ⟨hi, hindexed, hw, h⟩
  | pointerWritten hr hw =>
    cases hr
    obtain ⟨hinvariant, hpointer⟩ :=
      PointerInvariant.write hb h.2 hindexed (writeMutable_value h.1 hw)
    exact ⟨hinvariant, hindexed, h.2, hpointer⟩
  | indexEqual hw => exact ⟨hi, hindexed, h⟩
  | indexDownloaded hw _ => exact ⟨hi, hindexed, h⟩
  | indexWritten hw =>
    have hk : Keeps incidentId _ _ := keeps_of_index hw
    exact ⟨hi.keep hk, fun hne => hk.active (hindexed hne), Stored.keep hk h.1, hk.pointer.trans h.2⟩
  | refused hp => exact ⟨hi, hindexed, trivial⟩
  | finished hp => exact ⟨hi, hindexed, h⟩

theorem transition_of_build {encoding : Encoding} {key : SigningKey} {r : ReassessmentRequest}
    {detectedAt updatedAt : UtcDateTime} {binding : Digest} {healthy : Bool}
    {findings : List IncidentFinding} {reasoning : List String} {attestation : Attestation}
    (h : buildSignedIncidentState encoding sign key r detectedAt updatedAt binding healthy
      findings reasoning = .ok (state, attestation)) : state.transitionId = r.idempotencyKey := by
  unfold buildSignedIncidentState at h
  split at h
  · cases h
  · split at h
    · cases h
    · obtain ⟨hstate, -⟩ := Prod.mk.inj (Except.ok.inj h)
      rw [← hstate]

theorem publishedAt_of_build {encoding : Encoding} {key : SigningKey} {attestation : Attestation}
    {publishedAt : UtcDateTime} {snapshot : Option ActiveIncidentIndexSnapshot}
    (h : buildIncidentPublication encoding sign key state attestation publishedAt snapshot =
      .ok request) : request.pointer.publishedAt = max publishedAt state.updatedAt := by
  unfold buildIncidentPublication at h
  obtain ⟨_, -, h⟩ := bind_eq_ok.mp h
  obtain ⟨_, -, h⟩ := bind_eq_ok.mp h
  obtain ⟨_, -, h⟩ := bind_eq_ok.mp h
  obtain ⟨_, -, h⟩ := bind_eq_ok.mp h
  obtain ⟨_, -, h⟩ := bind_eq_ok.mp h
  obtain ⟨_, -, h⟩ := bind_eq_ok.mp h
  cases h
  rfl

/-- What the worker publishes is of its delivery. -/
theorem builtFor_of_build {entry : Option ActiveIncidentEntry}
    {result : VerifiedReassessmentResult} {attestation : Attestation}
    {snapshot : Option ActiveIncidentIndexSnapshot} (hx : x.request.incidentId = incidentId)
    (hstate : buildSignedIncidentState publisher.encoding sign x.key x.request
      (entry.elim x.detectedAt fun e => e.detectedAt) (max x.updatedAt result.observedAt)
      result.targetBinding result.verifiedHealthy result.findings result.reasoning =
        .ok (state, attestation))
    (hrequest : buildIncidentPublication publisher.encoding sign x.key state attestation
      x.publishedAt snapshot = .ok request) :
    BuiltFor incidentId x state request := by
  obtain ⟨hincident, hlifecycle⟩ := buildSignedIncidentState_ok hstate
  have hb := buildIncidentPublication_ok hrequest
  refine ⟨hincident.trans hx, transition_of_build hstate, ?_, by rw [hb.stateAsset], ?_, ?_, ?_⟩
  · rw [hlifecycle]
    cases result.verifiedHealthy
    · exact Or.inl rfl
    · exact Or.inr rfl
  · rw [hb.statePath, removePrefix_append]
  · rw [hb.current, hincident, hx]
    rfl
  · rw [publishedAt_of_build hrequest]
    exact le_max_right _ _

end Publication

/-! ## The invariant of a session -/

section Invariant

variable {publisher : Publisher} {sign : Payload → String} {trust : NotificationTrust}
  {channel : Channel} {incidentId : String} {s t : SessionState} {action : SessionAction}

/-- The pointer is at a state that the worker published or recorded. -/
structure AtState (container : Container) (incidentId : String) (state : IncidentState) :
    Prop where
  pointed : pointedState? container incidentId = some state
  incident : state.incidentId = incidentId
  lifecycle : state.lifecycle = .active ∨ state.lifecycle = .resolved

/-- What holds at each phase of a delivery. -/
def PhaseInvariant (channel : Channel) (incidentId : String) (s : SessionState) : Prop :=
  match s.worker with
  | .idle => True
  | .verified x _ => accepts channel incidentId x
  | .reconciling x _ snapshot => accepts channel incidentId x ∧
      ∀ state ∈ pointedState? s.store.container incidentId,
        state.lifecycle ≠ .active → snapshot.isSome
  | .publishing x state request phase => accepts channel incidentId x ∧
      BuiltFor incidentId x state request ∧ Indexed s.store.container state ∧
      Committed s.store.container incidentId state request phase
  | .recordedState x state returned => accepts channel incidentId x ∧
      AtState s.store.container incidentId state ∧ returned = true
  | .notifying _ state => channel = .v2 ∧ AtState s.store.container incidentId state
  | .completing x => ∀ state ∈ pointedState? s.store.container incidentId,
      state.transitionId = x.request.idempotencyKey → Notified channel incidentId s state

/-- What every state of a session satisfies. -/
structure Invariant (channel : Channel) (incidentId : String) (s : SessionState) : Prop where
  pointer : PointerInvariant s.store.container incidentId
  phase : PhaseInvariant channel incidentId s
  completed : CompletedNotified channel incidentId s

/-- Both outboxes only grow. -/
structure Grows (s t : SessionState) : Prop where
  outbox : s.store.outbox ⊆ t.store.outbox
  outboxV2 : s.outboxV2 ⊆ t.outboxV2

theorem Notified.grow {state : IncidentState} (h : Notified channel incidentId s state)
    (hg : Grows s t) : Notified channel incidentId t state := by
  cases channel with
  | v1 =>
    obtain ⟨n, hn, hfacts⟩ := h
    exact ⟨n, hg.outbox hn, hfacts⟩
  | v2 =>
    obtain ⟨n, hn, hfacts⟩ := h
    exact ⟨n, hg.outboxV2 hn, hfacts⟩

theorem CompletedNotified.grow (h : CompletedNotified channel incidentId s) (hg : Grows s t)
    (hcompleted : t.completed = s.completed) : CompletedNotified channel incidentId t := by
  intro m hm state hstate htransition
  rw [hcompleted] at hm
  exact (h m hm state hstate htransition).grow hg

theorem AtState.keep {container after : Container} {state : IncidentState}
    (hi : PointerInvariant container incidentId) (hk : Keeps incidentId container after)
    (h : AtState container incidentId state) : AtState after incidentId state :=
  ⟨(hk.pointedState hi).mpr h.pointed, h.incident, h.lifecycle⟩

/-- The worker goes on, and nothing else changes. -/
theorem Invariant.goto (hi : Invariant channel incidentId s) {phase : WorkerPhase}
    (h : PhaseInvariant channel incidentId (s.goto phase)) :
    Invariant channel incidentId (s.goto phase) :=
  ⟨hi.pointer, h, hi.completed⟩

theorem Invariant.idle (hi : Invariant channel incidentId s) :
    Invariant channel incidentId (s.goto .idle) :=
  hi.goto trivial

/-- A pointed state that is not active has an index behind it. -/
theorem PointerInvariant.indexed {container : Container} {state : IncidentState}
    (hi : PointerInvariant container incidentId)
    (h : pointedState? container incidentId = some state) : Indexed container state := by
  cases hp : pointer? container incidentId with
  | none => simp [pointedState?, hp] at h
  | some pointer =>
    obtain ⟨pointed, hpointed, -, hindexed⟩ := hi.pointed pointer hp
    rw [pointedState?_eq hp hpointed] at h
    cases h
    exact hindexed

/-- The decision after the index was read. -/
theorem decideDelivery_invariant (hi : Invariant channel incidentId s) {x : Execution}
    {result : VerifiedReassessmentResult} {snapshot : Option ActiveIncidentIndexSnapshot}
    (hx : accepts channel incidentId x) (hsnapshot : snapshot = s.store.container.active.value) :
    Invariant channel incidentId (decideDelivery publisher sign s x result snapshot) := by
  unfold decideDelivery
  dsimp only
  split
  · exact hi.idle
  · split
    · refine hi.goto ⟨hx, fun state hstate hne => ?_⟩
      rw [hsnapshot]
      exact hi.pointer.indexed hstate hne
    · rename_i hpublishes
      split
      · exact hi.idle
      · rename_i state attestation hstate
        split
        · exact hi.idle
        · rename_i request hrequest
          split
          · exact hi.idle
          · rename_i phase hphase
            obtain ⟨assets, rfl, hassets⟩ := startPublication_ok hphase
            refine hi.goto ⟨hx, builtFor_of_build hx.1 hstate hrequest, fun hne => ?_,
              Or.inl (hassets request rfl)⟩
            -- a resolved state is published only where the index has an entry
            have hlifecycle := (buildSignedIncidentState_ok hstate).2
            have hhealthy : result.verifiedHealthy = true := by
              by_contra hunhealthy
              rw [if_neg hunhealthy] at hlifecycle
              exact hne hlifecycle
            have hsome : snapshot.isSome := by
              cases hs : snapshot with
              | some index => rfl
              | none =>
                refine absurd (Or.inl ⟨hhealthy, ?_⟩) hpublishes
                rw [hs]
                rfl
            rw [hsnapshot] at hsome
            exact hsome

/-- The reconciliation of a redelivery under the condition. -/
theorem reconcileRead_invariant (hi : Invariant channel incidentId s) {x : Execution}
    {result : VerifiedReassessmentResult} {snapshot : Option ActiveIncidentIndexSnapshot}
    (hx : accepts channel incidentId x)
    (hsnapshot : ∀ state ∈ pointedState? s.store.container incidentId,
      state.lifecycle ≠ .active → snapshot.isSome)
    (hcondition : ∀ state ∈ pointedState? s.store.container incidentId,
      state.transitionId = x.request.idempotencyKey →
      (state.lifecycle = (if result.verifiedHealthy then .resolved else .active) ∧
        state.scenario = x.request.scenario ∧ state.workloadRole = x.request.workloadRole) ∨
      Notified channel incidentId s state) :
    Invariant channel incidentId (reconcileRead publisher s x result snapshot) := by
  unfold reconcileRead
  rw [hx.1]
  dsimp only
  split
  · exact hi.idle
  · rename_i hread
    refine hi.goto fun state hstate _ => ?_
    have hnone := readCurrentIncidentState_none hread
    rw [show (s.goto (.completing x)).store = s.store from rfl, hnone] at hstate
    cases hstate
  · rename_i latest hread
    obtain ⟨hpointer, hstored, hincident, hoccurrence⟩ := readCurrentIncidentState_some hread
    have hpointed := pointedState?_eq hpointer hstored
    split
    · rename_i hrecorded
      split
      · exact hi.idle
      · rename_i hentry
        split
        · exact hi.idle
        · have hlifecycle : latest.state.lifecycle = .active ∨
              latest.state.lifecycle = .resolved := by
            rw [hrecorded.2.1]
            cases result.verifiedHealthy
            · exact Or.inl rfl
            · exact Or.inr rfl
          have hreceipt : latest.occurrence.isSome := by
            obtain ⟨state, hstate, htime, -⟩ := hi.pointer.pointed latest.pointer hpointer
            rw [hstored] at hstate
            cases hstate
            exact hoccurrence htime
          have hindex : snapshot.isSome := by
            by_cases hactive : latest.state.lifecycle = .active
            · -- an active state was found in the index
              have hunhealthy : ¬ result.verifiedHealthy = true := by
                intro hhealthy
                rw [hrecorded.2.1, if_pos hhealthy] at hactive
                cases hactive
              have hmatch : ∃ e ∈ snapshotEntryOf snapshot incidentId,
                  entryMatches publisher e latest := by
                by_contra hnone
                exact hentry ⟨hunhealthy, hnone⟩
              obtain ⟨e, he, -⟩ := hmatch
              cases hs : snapshot with
              | some index => rfl
              | none =>
                rw [hs] at he
                cases he
            · exact hsnapshot latest.state hpointed hactive
          refine hi.goto ⟨hx, ⟨hpointed, hincident, hlifecycle⟩, ?_⟩
          rw [hreceipt, hindex]
          rfl
    · rename_i hunrecorded
      refine hi.goto fun state hstate htransition => ?_
      have hsame : state = latest.state := Option.some.inj (hstate.symm.trans hpointed)
      subst hsame
      rcases hcondition latest.state hpointed htransition with ⟨hl, hscenario, hrole⟩ | hnotified
      · exact absurd ⟨htransition, hl, hscenario, hrole⟩ hunrecorded
      · exact hnotified

/-- One blob request of the worker's publication. -/
theorem advancePublication_invariant (hi : Invariant channel incidentId s) {x : Execution}
    {state : IncidentState} {request : IncidentPublicationRequest} {phase : PublishPhase}
    (hx : accepts channel incidentId x) (hb : BuiltFor incidentId x state request)
    (hindexed : Indexed s.store.container state)
    (hcommitted : Committed s.store.container incidentId state request phase) :
    Invariant channel incidentId (advancePublication publisher s x state request phase) := by
  have hmove : Moves publisher (.incident request) s.store.container phase
      (publishStep publisher (.incident request) s.store.container phase) := publishStep_moves phase
  obtain ⟨hpointer, hindex, hnext⟩ := hcommitted.step hb hi.pointer hindexed hmove
  unfold advancePublication
  dsimp only
  have hcontainer : ∀ worker, PhaseInvariant channel incidentId
      { s with
        store := { s.store with
          container := (publishStep publisher (.incident request) s.store.container phase).1 }
        worker } → Invariant channel incidentId
      { s with
        store := { s.store with
          container := (publishStep publisher (.incident request) s.store.container phase).1 }
        worker } :=
    fun worker hworker => ⟨hpointer, hworker,
      hi.completed.grow ⟨List.Subset.refl _, List.Subset.refl _⟩ rfl⟩
  split
  · rename_i hreturned
    rw [hreturned] at hnext
    split
    · exact hcontainer .idle trivial
    · refine hcontainer (.recordedState x state true) ⟨hx, ⟨?_, hb.incident, hb.lifecycle⟩, rfl⟩
      refine pointedState?_eq hnext.2 ?_
      rw [hb.statePath]
      exact hnext.1.trans (congrArg some rfl)
  · exact hcontainer .idle trivial
  · exact hcontainer _ ⟨hx, hb, hindex, hnext⟩

theorem grows_enqueue {x : Execution} {state : IncidentState} :
    s.store.outbox ⊆ (enqueue s.store x state).outbox := by
  unfold enqueue
  split
  · split
    · exact List.subset_append_left _ _
    · exact List.Subset.refl _
  · exact List.Subset.refl _

/-- The outbox of the first version holds the state that was handed to it. -/
theorem mem_enqueue {x : Execution} {state : IncidentState} (hx : x.notifications = true)
    (hlifecycle : state.lifecycle = .active ∨ state.lifecycle = .resolved) :
    ∃ n ∈ (enqueue s.store x state).outbox, n.incidentId = state.incidentId ∧
      n.transitionId = state.transitionId ∧ n.lifecycle = state.lifecycle := by
  unfold enqueue
  rw [notificationMessage, if_pos hlifecycle]
  dsimp only
  rw [if_pos hx]
  exact ⟨_, List.mem_append_right _ (List.mem_singleton_self _), rfl, rfl, rfl⟩

/-- What the worker holds stays true while others publish. -/
theorem PhaseInvariant.keep {after : Container} (hi : PointerInvariant s.store.container incidentId)
    (hk : Keeps incidentId s.store.container after) (h : PhaseInvariant channel incidentId s) :
    PhaseInvariant channel incidentId { s with store := { s.store with container := after } } := by
  unfold PhaseInvariant at h ⊢
  dsimp only
  cases hw : s.worker with
  | idle => trivial
  | verified x result =>
    rw [hw] at h
    exact h
  | reconciling x result snapshot =>
    rw [hw] at h
    exact ⟨h.1, fun state hstate => h.2 state ((hk.pointedState hi).mp hstate)⟩
  | publishing x state request phase =>
    rw [hw] at h
    exact ⟨h.1, h.2.1, fun hne => hk.active (h.2.2.1 hne), h.2.2.2.keep hk⟩
  | recordedState x state returned =>
    rw [hw] at h
    exact ⟨h.1, h.2.1.keep hi hk, h.2.2⟩
  | notifying x state =>
    rw [hw] at h
    exact ⟨h.1, h.2.keep hi hk⟩
  | completing x =>
    rw [hw] at h
    exact fun state hstate htransition =>
      (h state ((hk.pointedState hi).mp hstate) htransition).grow
        ⟨List.Subset.refl _, List.Subset.refl _⟩

theorem other_invariant (hi : Invariant channel incidentId s) {request : PublicationRequest}
    {phase : PublishPhase} (hother : isOther incidentId request) :
    Invariant channel incidentId { s with store := { s.store with
      container := (publishStep publisher request s.store.container phase).1 } } := by
  have hk : Keeps incidentId s.store.container
      (publishStep publisher request s.store.container phase).1 := keeps_of_other hother
  exact ⟨hi.pointer.keep hk, hi.phase.keep hi.pointer hk,
    hi.completed.grow ⟨List.Subset.refl _, List.Subset.refl _⟩ rfl⟩

/-- The outbox of the first version, and what follows it. -/
theorem enqueue_invariant (hi : Invariant channel incidentId s) {x : Execution}
    {state : IncidentState} (hx : accepts channel incidentId x)
    (hat : AtState s.store.container incidentId state) :
    Invariant channel incidentId { s with
      store := enqueue s.store x state
      worker := afterEnqueue channel x state true } := by
  have hcontainer := enqueue_container s.store x state
  refine ⟨?_, ?_, hi.completed.grow ⟨grows_enqueue, List.Subset.refl _⟩ rfl⟩
  · rw [show ({ s with store := enqueue s.store x state
                       worker := afterEnqueue channel x state true } : SessionState).store =
      enqueue s.store x state from rfl, hcontainer]
    exact hi.pointer
  · unfold PhaseInvariant afterEnqueue
    cases channel with
    | v1 =>
      intro pointed hpointed _
      dsimp only at hpointed
      rw [hcontainer] at hpointed
      have hsame : pointed = state := Option.some.inj (hpointed.symm.trans hat.pointed)
      subst hsame
      obtain ⟨n, hn, hincident, htransition, hlifecycle⟩ :=
        mem_enqueue (s := s) (hx.2.mpr rfl) hat.lifecycle
      exact ⟨n, hn, hincident.trans hat.incident, htransition, hlifecycle⟩
    | v2 =>
      refine ⟨rfl, ?_⟩
      dsimp only
      rw [hcontainer]
      exact hat

/-- The publication of the second version under the condition. -/
theorem notify_invariant (hi : Invariant channel incidentId s) {x : Execution}
    {state : IncidentState} {reader : SourceReader} {verifiedAt : UtcDateTime}
    {notification : NotificationV2} (hchannel : channel = .v2)
    (hat : AtState s.store.container incidentId state)
    (hlists : ∀ state ∈ pointedState? s.store.container incidentId,
      FeedLists reader incidentId state)
    (hbuilt : publishNotification publisher trust reader state.incidentId verifiedAt =
      .ok notification) :
    Invariant channel incidentId
      { s with outboxV2 := s.outboxV2 ++ [notification], worker := .completing x } := by
  refine ⟨hi.pointer, fun pointed hpointed _ => ?_,
    hi.completed.grow ⟨List.Subset.refl _, List.subset_append_left _ _⟩ rfl⟩
  have hsame : pointed = state := Option.some.inj (hpointed.symm.trans hat.pointed)
  subst hsame
  have hfeed := hlists pointed hat.pointed
  rw [← hat.incident] at hfeed
  obtain ⟨hincident, htransition, hlifecycle⟩ :=
    build_of_feedLists hfeed (publishNotification_ok hbuilt)
  subst hchannel
  exact ⟨notification, List.mem_append_right _ (List.mem_singleton_self _),
    hincident.trans hat.incident, htransition, hlifecycle⟩

/-- A completed message was notified. -/
theorem complete_invariant (hi : Invariant channel incidentId s) {x : Execution}
    (hnotified : ∀ state ∈ pointedState? s.store.container incidentId,
      state.transitionId = x.request.idempotencyKey → Notified channel incidentId s state) :
    Invariant channel incidentId { s with
      completed := s.completed ++
        [⟨x.request.idempotencyKey, pointedState? s.store.container incidentId⟩]
      worker := .idle } := by
  refine ⟨hi.pointer, trivial, fun m hm state hstate htransition => ?_⟩
  have hgrows : Grows s { s with
      completed := s.completed ++
        [⟨x.request.idempotencyKey, pointedState? s.store.container incidentId⟩]
      worker := .idle } := ⟨List.Subset.refl _, List.Subset.refl _⟩
  rcases List.mem_append.mp hm with hm | hm
  · exact (hi.completed m hm state hstate htransition).grow hgrows
  · rw [List.mem_singleton.mp hm] at hstate htransition
    exact (hnotified state hstate htransition).grow hgrows

/-- Every action that meets the condition keeps the invariant. -/
theorem step_invariant (hi : Invariant channel incidentId s)
    (hcondition : Condition channel incidentId s action)
    (h : step publisher sign trust channel incidentId s action = some t) :
    Invariant channel incidentId t := by
  have hphase := hi.phase
  unfold PhaseInvariant at hphase
  unfold Condition at hcondition
  unfold step at h
  split at h
  · -- a delivery
    split at h
    · rename_i hx
      split at h
      · cases h
        exact hi
      · split at h
        · cases h
          exact hi
        · cases h
          exact hi.goto hx
    · cases h
  · -- the index is read
    rename_i x result hw
    rw [hw] at hphase
    split at h
    · cases h
      exact hi.idle
    · rename_i snapshot hread
      cases h
      exact decideDelivery_invariant hi hphase (readActiveIncidentIndex_ok hread)
  · -- the current state is read
    rename_i x result snapshot hw
    rw [hw] at hphase hcondition
    cases h
    exact reconcileRead_invariant hi hphase.1 hphase.2 hcondition
  · -- a blob request of the publication
    rename_i x state request phase hw
    rw [hw] at hphase
    cases h
    exact advancePublication_invariant hi hphase.1 hphase.2.1 hphase.2.2.1 hphase.2.2.2
  · -- the outbox of the first version
    rename_i x state returned hw
    rw [hw] at hphase
    obtain ⟨hx, hat, rfl⟩ := hphase
    cases h
    exact enqueue_invariant hi hx hat
  · -- the publication of the second version
    rename_i reader verifiedAt x state hw
    rw [hw] at hphase hcondition
    split at h
    · cases h
      exact hi
    · cases h
      exact hi.idle
    · rename_i notification hbuilt
      cases h
      exact notify_invariant hi hphase.1 hphase.2 hcondition hbuilt
  · -- the completion
    rename_i x hw
    rw [hw] at hphase
    cases h
    exact complete_invariant hi hphase
  · cases h
    exact hi.idle
  · split at h
    · rename_i hother
      cases h
      exact other_invariant hi hother
    · cases h
  · cases h

theorem initial_invariant : Invariant channel incidentId initial :=
  ⟨⟨fun pointer hp => by cases hp⟩, trivial, fun m hm => absurd hm List.not_mem_nil⟩

/-- In every run whose actions meet the condition, every message that is completed while the
current pointer is at its transition was notified, with that state's lifecycle. -/
theorem transitions_notified
    (h : ((system publisher sign trust channel incidentId).guarded
      (Condition channel incidentId)).Reachable s) :
    CompletedNotified channel incidentId s := by
  refine (TransitionSystem.Reachable.invariant (P := Invariant channel incidentId) ?_ ?_ h).completed
  · intro s hs
    rw [hs]
    exact initial_invariant
  · intro s a t _ hi hs
    exact step_invariant hi hs.1 hs.2

end Invariant

/-! ## Redeliveries after a stop -/

/-- The sources of no notification. -/
def sampleTrust : NotificationTrust where
  feedIndexAssets := fun _ _ => .ok ()
  feedPointerAssets := fun _ _ _ => .ok ()
  enrichment := fun _ _ => .error .other
  render := fun _ _ => ""
  signed := fun _ => .ok ()

/-- A delivery of the sample request to a worker of the channel. -/
def channelDelivery (channel : Channel) (healthy : Bool) (instant : UtcDateTime) : Execution :=
  { sampleDelivery healthy instant 0 with notifications := channel = .v1 }

/-- An activation that stops after so many blob requests. -/
def stoppedActivation (channel : Channel) (requests : ℕ) : List SessionAction :=
  [.deliver (channelDelivery channel false 1), .readIndex] ++
    List.replicate requests .advance ++ [.stop]

/-- The activation stops before its outbox; the redelivery hands the recorded state over. -/
def recoveredActivation : Option SessionState :=
  runGuarded
    (step samplePublisher sampleSign sampleTrust .v1 sampleRequest.incidentId)
    (Condition .v1 sampleRequest.incidentId) initial
    (stoppedActivation .v1 10 ++
      [.deliver (channelDelivery .v1 false 2), .readIndex, .readState, .enqueue, .complete])

theorem recoveredActivation_some :
    (recoveredActivation.map fun s => s.completed.length) = some 1 := by
  decide +kernel

theorem transitions_notified_recovered :
    ∃ s, recoveredActivation = some s ∧ s.completed.length = 1 ∧
      CompletedNotified .v1 sampleRequest.incidentId s := by
  obtain ⟨s, hs, hlength⟩ := Option.map_eq_some_iff.mp recoveredActivation_some
  exact ⟨s, hs, hlength, transitions_notified (reachable_runGuarded _ (.start rfl) hs)⟩

/-- Every completed transition is notified, in every run. -/
def AlwaysNotified (channel : Channel) : Prop :=
  ∀ s, (system samplePublisher sampleSign sampleTrust channel
    sampleRequest.incidentId).Reachable s →
    CompletedNotified channel sampleRequest.incidentId s

/-- The activation stops between pointer and index; the redelivery finds the incident
healthy. -/
def flippedRedelivery : Option SessionState :=
  runSteps (step samplePublisher sampleSign sampleTrust .v1 sampleRequest.incidentId) initial
    (stoppedActivation .v1 8 ++
      [.deliver (channelDelivery .v1 true 2), .readIndex, .readState, .complete])

theorem flippedRedelivery_some :
    (flippedRedelivery.map fun s =>
      decide (CompletedNotified .v1 sampleRequest.incidentId s)) = some false := by
  decide +kernel

/-- The redelivery completes the message with the pointer at its transition, and nothing was
handed to the outbox. -/
theorem flippedRedelivery_unnotified : ¬ AlwaysNotified .v1 := by
  intro h
  obtain ⟨s, hs, hnot⟩ := Option.map_eq_some_iff.mp flippedRedelivery_some
  exact of_decide_eq_false hnot (h s (reachable_runSteps _ (.start rfl) hs))

end AthenaContext.TransitionNotifications
