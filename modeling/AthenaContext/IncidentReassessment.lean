import AthenaContext.IncidentPublisher
import AthenaContext.ReassessmentRequests
import AthenaContext.TransitionSystems

/-!
# Incident reassessments

A reassessment reads the active index, decides on the verified health whether
there is something to publish, and then publishes the incident or reconciles a
redelivery. Executions run one after another; each may stop after any number of
the blob requests of its publication. The pointer of an incident and its entry
in the index are two writes: what holds between them is the invariant here.
-/

namespace AthenaContext.IncidentReassessment

open OrdinalCollections IncidentRecords ReassessmentRequests IncidentPublisher
open ConditionalStores TransitionSystems

/-- What a reassessment uses of `VerifiedReassessmentResult`. -/
structure VerifiedReassessmentResult where
  requestId : String
  observedAt : UtcDateTime
  targetBinding : Digest
  verifiedHealthy : Bool
  findings : List IncidentFinding
  reasoning : List String
  deriving DecidableEq, Repr

/-- A message of the notification outbox. -/
structure QueuedNotification where
  incidentId : String
  lifecycle : IncidentLifecycle
  transitionId : String
  message : String
  deriving DecidableEq, Repr

/-- `IncidentPublicationReceipt`. -/
structure IncidentPublicationReceipt where
  incidentId : String
  pointerSha256 : Digest
  activeIndexSha256 : Digest
  occurrence : IncidentOccurrenceReceipt
  deriving DecidableEq, Repr

/-- The container with the notification outbox. -/
structure Store where
  container : Container
  outbox : List QueuedNotification

/-- One delivery: the arguments of `run_incident_reassessment`, what the
reassessment returns (nothing when it raises), whether there is an outbox, and
how many requests of a publication are made before the process stops. -/
structure Execution where
  request : ReassessmentRequest
  result : Option VerifiedReassessmentResult
  detectedAt : UtcDateTime
  updatedAt : UtcDateTime
  publishedAt : UtcDateTime
  presentationUrl : String
  key : SigningKey
  notifications : Bool
  requestsMade : ℕ
  deriving DecidableEq, Repr

/-- What an execution raises. -/
inductive ReassessmentError
  | reassessment
  | value (message : String)
  | runtime (message : String)
  | presentation (error : PresentationError)
  deriving DecidableEq, Repr

/-- How an execution ends. -/
inductive Outcome
  | returned (published : Option (IncidentState × IncidentPublicationReceipt))
  | raised (error : ReassessmentError)
  | stopped
  deriving DecidableEq, Repr

/-- `build_signed_incident_state` with the checks of the state it builds. -/
def buildSignedIncidentState (encoding : Encoding) (sign : Payload → String) (key : SigningKey)
    (request : ReassessmentRequest) (detectedAt updatedAt : UtcDateTime) (targetBinding : Digest)
    (healthy : Bool) (findings : List IncidentFinding) (reasoning : List String) :
    Except PresentationError (IncidentState × Attestation) :=
  if findings = [] ∨ reasoning = [] then
    .error (.invalid "verified findings and reasoning are required")
  else if updatedAt < detectedAt then
    .error (.invalid "updatedAt must not precede detectedAt")
  else
    let impact := if healthy then (.normal, .none, .normal) else activeImpact request.scenario
    let unsigned : UnsignedIncidentState :=
      { incidentId := request.incidentId
        transitionId := request.idempotencyKey
        scenario := request.scenario
        lifecycle := if healthy then .resolved else .active
        workloadRole := request.workloadRole
        detectedAt, updatedAt, targetBinding
        availability := impact.1
        blastRadius := impact.2.1
        operatorAttention := impact.2.2
        findings, reasoning }
    let digest := encoding.sha256Hex (.unsignedState unsigned)
    .ok ({ unsigned with resultDigest := digest },
      ⟨digest, key.keyVaultKeyId, sign (.unsignedState unsigned)⟩)

/-- `notification_message`. -/
def notificationMessage (state : IncidentState) (presentationUrl : String) : Option String :=
  if state.lifecycle = .active ∨ state.lifecycle = .resolved then
    some ("Athena incident " ++ (if state.lifecycle = .active then "ACTIVE" else "RESOLVED") ++
      ": " ++ state.scenario.text ++ "\n" ++
      "Role: " ++ state.workloadRole.text ++ "\n" ++
      "Availability: " ++ state.availability.text ++ "\n" ++
      "Blast radius: " ++ state.blastRadius.text ++ "\n" ++
      "Operator attention: " ++ state.operatorAttention.text ++ "\n" ++
      "Evidence: " ++ (state.findings.head?.elim "" fun f => f.summary) ++ "\n" ++
      "Presentation: " ++ presentationUrl ++ "\n\n" ++
      "Athena did not perform remediation.\n\n" ++
      "Sent by Kanga, my AI sidekick 🦘")
  else none

/-- The enqueue that ends an execution. -/
def enqueue (store : Store) (x : Execution) (state : IncidentState) : Store :=
  match notificationMessage state x.presentationUrl with
  | some message =>
    if x.notifications then
      { store with outbox := store.outbox ++
          [⟨state.incidentId, state.lifecycle, state.transitionId, message⟩] }
    else store
  | none => store

section Run

variable (publisher : Publisher) (sign : Payload → String)

/-- The recorded occurrence is the one that this delivery asks for. -/
def recorded (x : Execution) (healthy : Bool) (latest : CurrentIncidentStateSnapshot) : Prop :=
  latest.state.transitionId = x.request.idempotencyKey ∧
    latest.state.lifecycle = (if healthy then .resolved else .active) ∧
    latest.state.scenario = x.request.scenario ∧
    latest.state.workloadRole = x.request.workloadRole

instance (x : Execution) (healthy : Bool) (latest : CurrentIncidentStateSnapshot) :
    Decidable (recorded x healthy latest) := by
  unfold recorded
  infer_instance

/-- The entry is the one which the recorded occurrence published. -/
def entryMatches (entry : ActiveIncidentEntry) (latest : CurrentIncidentStateSnapshot) : Prop :=
  entry.pointerSha256 = publisher.encoding.sha256Hex (.pointer latest.pointer) ∧
    entry.pointerPath = "./" ++ removePrefix
      (removeSuffix latest.pointer.statePath "/state.json") "./" ++ "/pointer.json" ∧
    entry.detectedAt = latest.state.detectedAt ∧
    entry.updatedAt = latest.state.updatedAt

instance (entry : ActiveIncidentEntry) (latest : CurrentIncidentStateSnapshot) :
    Decidable (entryMatches publisher entry latest) := by
  unfold entryMatches
  infer_instance

/-- The branch of a redelivery that finds nothing to publish. -/
def reconcile (store : Store) (x : Execution) (healthy : Bool)
    (snapshot : Option ActiveIncidentIndexSnapshot) (entry : Option ActiveIncidentEntry) :
    Store × Outcome :=
  match readCurrentIncidentState publisher store.container x.request.incidentId with
  | .error error => (store, .raised (.presentation error))
  | .ok none => (store, .returned none)
  | .ok (some latest) =>
    if recorded x healthy latest then
      if ¬ healthy ∧ ¬ ∃ e ∈ entry, entryMatches publisher e latest then
        (store, .raised (.runtime
          "active incident index is not coherent with current occurrence"))
      else if healthy ∧ entry.isSome then
        (store, .raised (.runtime "resolved occurrence remains in the active incident index"))
      else
        let store := enqueue store x latest.state
        match latest.occurrence, snapshot with
        | some occurrence, some index =>
          (store, .returned (some (latest.state,
            ⟨latest.state.incidentId, publisher.encoding.sha256Hex (.pointer latest.pointer),
              publisher.encoding.sha256Hex (.index index), occurrence⟩)))
        | _, _ => (store, .returned none)
    else (store, .returned none)

/-- The branch that publishes: build, publish, enqueue. -/
def publish (store : Store) (x : Execution) (result : VerifiedReassessmentResult)
    (snapshot : Option ActiveIncidentIndexSnapshot) (entry : Option ActiveIncidentEntry) :
    Store × Outcome :=
  match buildSignedIncidentState publisher.encoding sign x.key x.request
      (entry.elim x.detectedAt fun e => e.detectedAt) (max x.updatedAt result.observedAt)
      result.targetBinding result.verifiedHealthy result.findings result.reasoning with
  | .error error => (store, .raised (.presentation error))
  | .ok (state, attestation) =>
    match buildIncidentPublication publisher.encoding sign x.key state attestation x.publishedAt
        snapshot with
    | .error error => (store, .raised (.presentation error))
    | .ok request =>
      match startPublication publisher (.incident request) with
      | .error error => (store, .raised (.presentation error))
      | .ok phase =>
        let published := publishSteps publisher (.incident request) x.requestsMade
          store.container phase
        let store := { store with container := published.1 }
        match published.2 with
        | .returned =>
          match requestReceipt publisher request publisher.versionId with
          | .error error => (store, .raised (.presentation error))
          | .ok occurrence =>
            (enqueue store x state, .returned (some (state,
              ⟨state.incidentId, publisher.encoding.sha256Hex (.pointer request.pointer),
                publisher.encoding.sha256Hex (.index request.activeIndex), occurrence⟩)))
        | .raised error => (store, .raised (.presentation error))
        | _ => (store, .stopped)

/-- There is nothing to publish: healthy without an entry, or unhealthy with one. -/
def isNoopReconciliation (healthy : Bool) (entry : Option ActiveIncidentEntry) : Prop :=
  (healthy ∧ entry.isNone) ∨ (¬ healthy ∧ entry.isSome)

instance (healthy : Bool) (entry : Option ActiveIncidentEntry) :
    Decidable (isNoopReconciliation healthy entry) := by
  unfold isNoopReconciliation
  infer_instance

/-- `run_incident_reassessment`. -/
def runIncidentReassessment (store : Store) (x : Execution) : Store × Outcome :=
  match x.result with
  | none => (store, .raised .reassessment)
  | some result =>
    if result.requestId ≠ x.request.requestId then
      (store, .raised (.value "reassessment result does not match its request"))
    else
      match readActiveIncidentIndex publisher store.container with
      | .error error => (store, .raised (.presentation error))
      | .ok snapshot =>
        let entry := snapshotEntryOf snapshot x.request.incidentId
        if ∃ e ∈ entry, e.scenario ≠ x.request.scenario ∨
            e.workloadRole ≠ x.request.workloadRole then
          (store, .raised (.value "active incident index binding does not match reassessment"))
        else if isNoopReconciliation result.verifiedHealthy entry then
          reconcile publisher store x result.verifiedHealthy snapshot entry
        else publish publisher sign store x result snapshot entry

/-- Executions one after another, from an empty container and outbox. -/
def system : TransitionSystem Store Execution :=
  ofStep ⟨emptyContainer, []⟩ fun store x => some (runIncidentReassessment publisher sign store x).1

end Run

/-! ## Pointer, state and index entry -/

/-- The current pointer of an incident. -/
def pointer? (container : Container) (incidentId : String) : Option IncidentFeedPointer :=
  (container.current (currentPointerName incidentId)).value

/-- The state that the current pointer of an incident points to. -/
def pointedState? (container : Container) (incidentId : String) : Option IncidentState :=
  (pointer? container incidentId).bind fun pointer =>
    match container.immutable (removePrefix pointer.statePath "./") with
    | some (.state state) => some state
    | _ => none

/-- The entry of an incident in the active index. -/
def entryOf (container : Container) (incidentId : String) : Option ActiveIncidentEntry :=
  snapshotEntryOf container.active.value incidentId

/-- The pointed state is active exactly where the index has an entry, and the
entry carries the digest of the current pointer. -/
def Coherent (encoding : Encoding) (container : Container) (incidentId : String) : Prop :=
  ((∃ state, pointedState? container incidentId = some state ∧ state.lifecycle = .active) ↔
      (entryOf container incidentId).isSome) ∧
    ∀ entry ∈ entryOf container incidentId, ∀ pointer ∈ pointer? container incidentId,
      entry.pointerSha256 = encoding.sha256Hex (.pointer pointer)

/-- A half-done publication meets the opposite health: the pointer is active
without an entry and the incident is healthy, or the pointer is not active, the
entry is there and the incident is unhealthy. -/
def FlippedHalfPublication (container : Container) (incidentId : String) (healthy : Bool) :
    Prop :=
  (healthy = true ∧ entryOf container incidentId = none ∧
      ∃ state, pointedState? container incidentId = some state ∧ state.lifecycle = .active) ∨
    (healthy = false ∧ (entryOf container incidentId).isSome ∧
      ∃ state, pointedState? container incidentId = some state ∧ state.lifecycle ≠ .active)

/-- What every reachable container satisfies: each pointer points to a state,
and each entry belongs to a pointer, whose digest it carries while that is
active. -/
structure Invariant (encoding : Encoding) (container : Container) : Prop where
  ordered : ∀ index ∈ container.active.value,
    strictlyOrdered ActiveIncidentEntry.incidentId index.incidents
  pointed : ∀ incidentId pointer, pointer? container incidentId = some pointer →
    ∃ state, container.immutable (removePrefix pointer.statePath "./") = some (.state state)
  entries : ∀ incidentId entry, entryOf container incidentId = some entry →
    ∃ pointer state, pointer? container incidentId = some pointer ∧
      container.immutable (removePrefix pointer.statePath "./") = some (.state state) ∧
      (state.lifecycle = .active →
        entry.pointerSha256 = encoding.sha256Hex (.pointer pointer))

section Coherence

variable {encoding : Encoding} {container : Container} {incidentId : String}

theorem pointedState?_eq {pointer : IncidentFeedPointer} {state : IncidentState}
    (hp : pointer? container incidentId = some pointer)
    (hs : container.immutable (removePrefix pointer.statePath "./") = some (.state state)) :
    pointedState? container incidentId = some state := by
  unfold pointedState?
  rw [hp, Option.bind_some, hs]

/-- Without a flipped half publication, a delivery with nothing to publish
finds pointer and index coherent, and only then. -/
theorem coherent_iff_of_noop {healthy : Bool} (hi : Invariant encoding container)
    (hn : isNoopReconciliation healthy (entryOf container incidentId)) :
    Coherent encoding container incidentId ↔
      ¬ FlippedHalfPublication container incidentId healthy := by
  rcases hn with ⟨hh, hnone⟩ | ⟨hh, hsome⟩
  · have hentry : entryOf container incidentId = none := Option.isNone_iff_eq_none.mp hnone
    constructor
    · intro hc hf
      rcases hf with ⟨-, -, hactive⟩ | ⟨hu, -, -⟩
      · have hisSome := hc.1.mp hactive
        rw [hentry] at hisSome
        cases hisSome
      · rw [hh] at hu
        cases hu
    · intro hf
      refine ⟨⟨fun hactive => ?_, fun hisSome => ?_⟩, fun entry he => ?_⟩
      · exact absurd (Or.inl ⟨hh, hentry, hactive⟩) hf
      · rw [hentry] at hisSome
        cases hisSome
      · rw [hentry] at he
        cases he
  · have hunhealthy : healthy = false := by simpa using hh
    obtain ⟨entry, hentry⟩ := Option.isSome_iff_exists.mp hsome
    obtain ⟨pointer, state, hp, hs, hdigest⟩ := hi.entries incidentId entry hentry
    have hstate := pointedState?_eq hp hs
    constructor
    · intro hc hf
      rcases hf with ⟨hhealthy, -, -⟩ | ⟨-, -, other, ho, hne⟩
      · rw [hunhealthy] at hhealthy
        cases hhealthy
      · obtain ⟨st, hst, hactive⟩ := hc.1.mpr hsome
        rw [ho] at hst
        cases hst
        exact hne hactive
    · intro hf
      have hactive : state.lifecycle = .active := by
        by_contra hne
        exact hf (Or.inr ⟨hunhealthy, hsome, state, hstate, hne⟩)
      refine ⟨⟨fun _ => hsome, fun _ => ⟨state, hstate, hactive⟩⟩, fun e he p hp' => ?_⟩
      rw [hentry] at he
      rw [hp] at hp'
      cases he
      cases hp'
      exact hdigest hactive

end Coherence

/-! ## One publication, request by request -/

section Publishing

variable {publisher : Publisher} {state : IncidentState} {attestation : Attestation}
  {snapshot : Option ActiveIncidentIndexSnapshot} {key : SigningKey}
  {request : IncidentPublicationRequest} {container : Container}

/-- The state blob is uploaded. -/
def Stored (state : IncidentState) (request : IncidentPublicationRequest)
    (container : Container) : Prop :=
  container.immutable request.state.blobName = some (.state state)

/-- What holds at each phase of a publication that runs alone. -/
def Publishing (encoding : Encoding) (state : IncidentState)
    (snapshot : Option ActiveIncidentIndexSnapshot) (request : IncidentPublicationRequest)
    (container : Container) : PublishPhase → Prop
  | .uploading assets =>
    Invariant encoding container ∧ container.active.value = snapshot ∧
      (request.state ∈ assets ∨ Stored state request container)
  | .pointerDue =>
    Invariant encoding container ∧ container.active.value = snapshot ∧
      Stored state request container
  | .pointerLoaded write =>
    write ≠ .unchanged ∧ Invariant encoding container ∧ container.active.value = snapshot ∧
      Stored state request container
  | .indexDue =>
    Invariant encoding container ∧ container.active.value = snapshot ∧
      Stored state request container ∧ pointer? container state.incidentId = some request.pointer
  | .indexLoaded write =>
    write ≠ .unchanged ∧ Invariant encoding container ∧ container.active.value = snapshot ∧
      Stored state request container ∧ pointer? container state.incidentId = some request.pointer
  | .returned =>
    Invariant encoding container ∧ Stored state request container ∧
      pointer? container state.incidentId = some request.pointer ∧
      container.active.value = some request.activeIndex
  | .raised _ => Invariant encoding container

theorem Publishing.invariant {encoding : Encoding} {phase : PublishPhase}
    (h : Publishing encoding state snapshot request container phase) :
    Invariant encoding container := by
  cases phase with
  | uploading assets => exact h.1
  | pointerDue => exact h.1
  | pointerLoaded write => exact h.2.1
  | indexDue => exact h.1
  | indexLoaded write => exact h.2.1
  | returned => exact h.1
  | raised error => exact h

/-- A write that happens puts its value into the cell. -/
theorem writeMutable_value {α : Type} {cell written : Cell α} {x : α} {write : MutableWrite}
    (hw : write ≠ .unchanged) (h : writeMutable cell x write = .ok written) :
    written.value = some x := by
  rcases writeMutable_ok h with ⟨rfl, -⟩ | ⟨-, hc⟩ | ⟨etag, -, hc⟩
  · exact absurd rfl hw
  · obtain ⟨-, rfl⟩ := Cell.create_some hc
    rfl
  · obtain ⟨-, rfl⟩ := Cell.replace_some hc
    rfl

/-- Uploads keep the invariant. -/
theorem Invariant.upload {encoding : Encoding} {written : Container}
    (hi : Invariant encoding container)
    (himmutable : ∀ name payload, container.immutable name = some payload →
      written.immutable name = some payload)
    (hcurrent : written.current = container.current)
    (hactive : written.active = container.active) : Invariant encoding written := by
  have hpointer : ∀ id, pointer? written id = pointer? container id := by
    intro id
    rw [pointer?, pointer?, hcurrent]
  have hentry : ∀ id, entryOf written id = entryOf container id := by
    intro id
    rw [entryOf, entryOf, hactive]
  refine ⟨?_, fun id pointer hp => ?_, fun id entry he => ?_⟩
  · rw [hactive]
    exact hi.ordered
  · rw [hpointer] at hp
    obtain ⟨st, hst⟩ := hi.pointed id pointer hp
    exact ⟨st, himmutable _ _ hst⟩
  · rw [hentry] at he
    obtain ⟨pointer, st, hp, hst, hdigest⟩ := hi.entries id entry he
    refine ⟨pointer, st, ?_, himmutable _ _ hst, hdigest⟩
    rw [hpointer]
    exact hp

/-- The pointer that was written points to the uploaded state. -/
theorem Stored.statePath
    (hb : BuiltIncident publisher.encoding key state attestation snapshot request)
    (hs : Stored state request container) :
    container.immutable (removePrefix request.pointer.statePath "./") = some (.state state) := by
  rw [hb.statePath, removePrefix_append]
  exact hs

/-- The write of a pointer keeps the invariant: an active state is published
only where there is no entry. -/
theorem Invariant.setPointer {cell : Cell IncidentFeedPointer}
    (hb : BuiltIncident publisher.encoding key state attestation snapshot request)
    (hi : Invariant publisher.encoding container) (hs : Stored state request container)
    (hactive : container.active.value = snapshot)
    (hflip : (snapshotEntryOf snapshot state.incidentId).isSome → state.lifecycle ≠ .active)
    (hcell : cell.value = some request.pointer) :
    Invariant publisher.encoding { container with
      current := Function.update container.current request.currentPointerAsset.blobName cell } ∧
    pointer? { container with
      current := Function.update container.current request.currentPointerAsset.blobName cell }
      state.incidentId = some request.pointer := by
  have hname : request.currentPointerAsset.blobName = currentPointerName state.incidentId :=
    hb.current
  have hown : pointer? { container with
      current := Function.update container.current request.currentPointerAsset.blobName cell }
      state.incidentId = some request.pointer := by
    rw [pointer?, hname]
    dsimp only
    rw [Function.update_self]
    exact hcell
  have hother : ∀ id, id ≠ state.incidentId → pointer? { container with
      current := Function.update container.current request.currentPointerAsset.blobName cell }
      id = pointer? container id := by
    intro id hne
    have hnames : currentPointerName id ≠ currentPointerName state.incidentId :=
      fun he => hne (currentPointerName_inj he)
    rw [pointer?, pointer?, hname]
    dsimp only
    rw [Function.update_of_ne hnames]
  refine ⟨⟨hi.ordered, fun id pointer hp => ?_, fun id entry he => ?_⟩, hown⟩
  · by_cases hid : id = state.incidentId
    · subst hid
      rw [hown] at hp
      cases hp
      exact ⟨state, hs.statePath hb⟩
    · rw [hother id hid] at hp
      exact hi.pointed id pointer hp
  · by_cases hid : id = state.incidentId
    · subst hid
      refine ⟨request.pointer, state, hown, hs.statePath hb, fun hlive => ?_⟩
      have hsome : (snapshotEntryOf snapshot state.incidentId).isSome := by
        have he' : snapshotEntryOf container.active.value state.incidentId = some entry := he
        rw [← hactive, he']
        rfl
      exact absurd hlive (hflip hsome)
    · obtain ⟨pointer, st, hp, hst, hdigest⟩ := hi.entries id entry he
      exact ⟨pointer, st, (hother id hid).trans hp, hst, hdigest⟩

/-- The entry of the published incident in the index of its publication. -/
theorem own_entry (hb : BuiltIncident publisher.encoding key state attestation snapshot request)
    (hordered : ∀ p ∈ snapshot, strictlyOrdered ActiveIncidentEntry.incidentId p.incidents) :
    request.activeIndex.entryOf state.incidentId =
      if state.lifecycle = .active then
        some (publishedEntry state ("./" ++ request.pointerAsset.blobName)
          (publisher.encoding.sha256Hex (.pointer request.pointer)))
      else none := by
  have hentry := hb.index.entry state.incidentId
  rw [publishedEntries_own (snapshotEntries_nodup hordered)] at hentry
  exact hentry

/-- The write of the index keeps the invariant. -/
theorem Invariant.setIndex {cell : Cell ActiveIncidentIndex}
    (hb : BuiltIncident publisher.encoding key state attestation snapshot request)
    (hi : Invariant publisher.encoding container) (hs : Stored state request container)
    (hp : pointer? container state.incidentId = some request.pointer)
    (hactive : container.active.value = snapshot)
    (hcell : cell.value = some request.activeIndex) :
    Invariant publisher.encoding { container with active := cell } := by
  have hordered : ∀ p ∈ snapshot, strictlyOrdered ActiveIncidentEntry.incidentId p.incidents := by
    rw [← hactive]
    exact hi.ordered
  refine ⟨fun index hindex => ?_, hi.pointed, fun id entry he => ?_⟩
  · dsimp only at hindex
    rw [hcell] at hindex
    cases hindex
    exact hb.index.ordered
  · have he' : request.activeIndex.entryOf id = some entry := by
      have h' : snapshotEntryOf cell.value id = some entry := he
      rwa [hcell] at h'
    by_cases hid : id = state.incidentId
    · subst hid
      refine ⟨request.pointer, state, hp, hs.statePath hb, fun hlive => ?_⟩
      rw [own_entry hb hordered, if_pos hlive] at he'
      cases he'
      rfl
    · have hentry := hb.index.entry id
      rw [publishedEntries_other (snapshotEntries_nodup hordered) hid, ← snapshotEntryOf_eq,
        ← hactive] at hentry
      have hold : entryOf container id = some entry := hentry.symm.trans he'
      exact hi.entries id entry hold

/-- Every blob request of a publication that runs alone leads from what holds at
its phase to what holds at the next. -/
theorem Publishing.step {phase : PublishPhase} {next : Container × PublishPhase}
    (hb : BuiltIncident publisher.encoding key state attestation snapshot request)
    (hflip : (snapshotEntryOf snapshot state.incidentId).isSome → state.lifecycle ≠ .active)
    (h : Publishing publisher.encoding state snapshot request container phase)
    (hm : Moves publisher (.incident request) container phase next) :
    Publishing publisher.encoding state snapshot request next.1 next.2 := by
  cases hm with
  | uploadsDone hn =>
    obtain ⟨hi, ha, hs⟩ := h
    have hstored : Stored state request container := by
      rcases hs with hmem | hstored
      · cases hmem
      · exact hstored
    rcases hn with ⟨r, -, rfl⟩ | ⟨beat, hbeat, -⟩
    · exact ⟨hi, ha, hstored⟩
    · cases hbeat
  | uploaded hu =>
    obtain ⟨hi, ha, hs⟩ := h
    obtain ⟨hown, hkeep, hcurrent, hactive⟩ := uploadImmutable_ok hu
    refine ⟨hi.upload hkeep hcurrent hactive, by rw [hactive]; exact ha, ?_⟩
    rcases hs with hmem | hstored
    · rcases List.mem_cons.mp hmem with rfl | hmem
      · right
        rw [hb.stateAsset] at hown
        rw [Stored, hb.stateAsset]
        exact hown
      · exact Or.inl hmem
    · exact Or.inr (hkeep _ _ hstored)
  | pointerSkipped hp hr => cases hr
  | pointerEqual hr hw =>
    cases hr
    obtain ⟨hi, ha, hs⟩ := h
    obtain ⟨etag, hcontent⟩ := currentPointerWrite_unchanged hw
    have hname : request.currentPointerAsset.blobName = currentPointerName state.incidentId :=
      hb.current
    refine ⟨hi, ha, hs, ?_⟩
    rw [pointer?, ← hname, Cell.value, hcontent]
    rfl
  | pointerDownloaded hr hw _ => exact ⟨hw, h⟩
  | pointerWritten hr hw =>
    cases hr
    obtain ⟨hne, hi, ha, hs⟩ := h
    obtain ⟨hi', hp⟩ := hi.setPointer hb hs ha hflip (writeMutable_value hne hw)
    exact ⟨hi', ha, hs, hp⟩
  | indexEqual hw =>
    obtain ⟨hi, ha, hs, hp⟩ := h
    obtain ⟨etag, hcontent⟩ := activeIndexWrite_unchanged hw
    refine ⟨hi, hs, hp, ?_⟩
    rw [Cell.value, hcontent]
    rfl
  | indexDownloaded hw _ => exact ⟨hw, h⟩
  | indexWritten hw =>
    obtain ⟨hne, hi, ha, hs, hp⟩ := h
    have hcell := writeMutable_value hne hw
    exact ⟨hi.setIndex hb hs hp ha hcell, hs, hp, hcell⟩
  | refused hp => exact h.invariant
  | finished hp => exact h

/-- What holds after any number of blob requests. -/
theorem Publishing.steps (hb : BuiltIncident publisher.encoding key state attestation snapshot request)
    (hflip : (snapshotEntryOf snapshot state.incidentId).isSome → state.lifecycle ≠ .active) :
    ∀ (n : ℕ) {container : Container} {phase : PublishPhase},
      Publishing publisher.encoding state snapshot request container phase →
      Publishing publisher.encoding state snapshot request
        (publishSteps publisher (.incident request) n container phase).1
        (publishSteps publisher (.incident request) n container phase).2 := by
  intro n
  induction n with
  | zero => exact fun h => h
  | succ n ih => exact fun h => ih (h.step hb hflip (publishStep_moves _))

/-- A publication that returned left pointer and index coherent. -/
theorem Publishing.coherent
    (hb : BuiltIncident publisher.encoding key state attestation snapshot request)
    (hordered : ∀ p ∈ snapshot, strictlyOrdered ActiveIncidentEntry.incidentId p.incidents)
    (h : Publishing publisher.encoding state snapshot request container .returned) :
    Coherent publisher.encoding container state.incidentId := by
  obtain ⟨-, hs, hp, hactive⟩ := h
  have hpointed := pointedState?_eq hp (hs.statePath hb)
  have hentry : entryOf container state.incidentId =
      if state.lifecycle = .active then
        some (publishedEntry state ("./" ++ request.pointerAsset.blobName)
          (publisher.encoding.sha256Hex (.pointer request.pointer)))
      else none := by
    rw [← own_entry hb hordered, entryOf, hactive]
    rfl
  by_cases hlive : state.lifecycle = .active
  · rw [if_pos hlive] at hentry
    refine ⟨⟨fun _ => by rw [hentry]; rfl, fun _ => ⟨state, hpointed, hlive⟩⟩, ?_⟩
    intro entry he pointer hp'
    rw [hentry] at he
    rw [hp] at hp'
    cases he
    cases hp'
    rfl
  · rw [if_neg hlive] at hentry
    refine ⟨⟨fun ⟨st, hst, hactive'⟩ => ?_, fun hsome => ?_⟩, fun entry he => ?_⟩
    · rw [hpointed] at hst
      cases hst
      exact absurd hactive' hlive
    · rw [hentry] at hsome
      cases hsome
    · rw [hentry] at he
      cases he

end Publishing

/-! ## Whole executions -/

section Executions

variable {publisher : Publisher} {sign : Payload → String} {store : Store} {x : Execution}

theorem enqueue_container (store : Store) (x : Execution) (state : IncidentState) :
    (enqueue store x state).container = store.container := by
  unfold enqueue
  split
  · split <;> rfl
  · rfl

/-- A reconciliation writes no blob. -/
theorem reconcile_container {healthy : Bool} {snapshot : Option ActiveIncidentIndexSnapshot}
    {entry : Option ActiveIncidentEntry} :
    (reconcile publisher store x healthy snapshot entry).1.container = store.container := by
  unfold reconcile
  split
  · rfl
  · rfl
  · split
    · split
      · rfl
      · split
        · rfl
        · dsimp only
          split <;> exact enqueue_container store x _
    · rfl

/-- The state that is published: that of the request, resolved when the result
is healthy and active otherwise. -/
theorem buildSignedIncidentState_ok {encoding : Encoding} {key : SigningKey}
    {request : ReassessmentRequest} {detectedAt updatedAt : UtcDateTime} {binding : Digest}
    {healthy : Bool} {findings : List IncidentFinding} {reasoning : List String}
    {state : IncidentState} {attestation : Attestation}
    (h : buildSignedIncidentState encoding sign key request detectedAt updatedAt binding healthy
      findings reasoning = .ok (state, attestation)) :
    state.incidentId = request.incidentId ∧
      state.lifecycle = (if healthy then .resolved else .active) := by
  unfold buildSignedIncidentState at h
  split at h
  · cases h
  · split at h
    · cases h
    · obtain ⟨hstate, -⟩ := Prod.mk.inj (Except.ok.inj h)
      rw [← hstate]
      exact ⟨rfl, rfl⟩

/-- A publishing execution keeps the invariant, and where it returns it leaves
pointer and index coherent. -/
theorem publish_spec {result : VerifiedReassessmentResult}
    {snapshot : Option ActiveIncidentIndexSnapshot}
    (hi : Invariant publisher.encoding store.container)
    (hactive : store.container.active.value = snapshot)
    (hn : ¬ isNoopReconciliation result.verifiedHealthy
      (snapshotEntryOf snapshot x.request.incidentId)) :
    Invariant publisher.encoding
        (publish publisher sign store x result snapshot
          (snapshotEntryOf snapshot x.request.incidentId)).1.container ∧
      ∀ r, (publish publisher sign store x result snapshot
          (snapshotEntryOf snapshot x.request.incidentId)).2 = .returned r →
        Coherent publisher.encoding
          (publish publisher sign store x result snapshot
            (snapshotEntryOf snapshot x.request.incidentId)).1.container x.request.incidentId := by
  have hordered : ∀ p ∈ snapshot, strictlyOrdered ActiveIncidentEntry.incidentId p.incidents := by
    rw [← hactive]
    exact hi.ordered
  unfold publish
  split
  · exact ⟨hi, fun r hr => by cases hr⟩
  · rename_i state attestation hstate
    split
    · exact ⟨hi, fun r hr => by cases hr⟩
    · rename_i request hrequest
      split
      · exact ⟨hi, fun r hr => by cases hr⟩
      · rename_i phase hphase
        obtain ⟨hid, hlifecycle⟩ := buildSignedIncidentState_ok hstate
        have hb := buildIncidentPublication_ok hrequest
        have hflip : (snapshotEntryOf snapshot state.incidentId).isSome →
            state.lifecycle ≠ .active := by
          intro hsome
          rw [hid] at hsome
          have hhealthy : result.verifiedHealthy = true := by
            by_contra hu
            exact hn (Or.inr ⟨hu, hsome⟩)
          rw [hlifecycle, hhealthy]
          decide
        have hstart : Publishing publisher.encoding state snapshot request store.container
            phase := by
          obtain ⟨assets, rfl, hassets⟩ := startPublication_ok hphase
          exact ⟨hi, hactive, Or.inl (hassets request rfl)⟩
        have hend := hstart.steps hb hflip x.requestsMade
        dsimp only
        split
        · rename_i hreturned
          rw [hreturned] at hend
          have hcoherent := hend.coherent hb hordered
          split
          · exact ⟨hend.1, fun r hr => by cases hr⟩
          · rw [enqueue_container]
            refine ⟨hend.1, fun _ _ => ?_⟩
            rw [← hid]
            exact hcoherent
        · exact ⟨hend.invariant, fun r hr => by cases hr⟩
        · exact ⟨hend.invariant, fun r hr => by cases hr⟩

/-- A flipped half publication is a case in which there is nothing to publish. -/
theorem FlippedHalfPublication.noop {container : Container} {incidentId : String}
    {healthy : Bool} (h : FlippedHalfPublication container incidentId healthy) :
    isNoopReconciliation healthy (entryOf container incidentId) := by
  rcases h with ⟨hh, hnone, -⟩ | ⟨hu, hsome, -⟩
  · exact Or.inl ⟨hh, by rw [hnone]; rfl⟩
  · exact Or.inr ⟨by rw [hu]; decide, hsome⟩

/-- One execution keeps the invariant; where it returns, pointer and index are
coherent exactly where it met no flipped half publication. -/
theorem run_spec (hi : Invariant publisher.encoding store.container) :
    Invariant publisher.encoding (runIncidentReassessment publisher sign store x).1.container ∧
      ∀ r, (runIncidentReassessment publisher sign store x).2 = .returned r →
        ∃ result, x.result = some result ∧
          (Coherent publisher.encoding
              (runIncidentReassessment publisher sign store x).1.container x.request.incidentId ↔
            ¬ FlippedHalfPublication store.container x.request.incidentId
              result.verifiedHealthy) := by
  unfold runIncidentReassessment
  split
  · exact ⟨hi, fun r hr => by cases hr⟩
  · rename_i result hresult
    split
    · exact ⟨hi, fun r hr => by cases hr⟩
    · split
      · exact ⟨hi, fun r hr => by cases hr⟩
      · rename_i snapshot hread
        have hactive := (readActiveIncidentIndex_ok hread).symm
        dsimp only
        split
        · exact ⟨hi, fun r hr => by cases hr⟩
        · by_cases hn : isNoopReconciliation result.verifiedHealthy
              (snapshotEntryOf snapshot x.request.incidentId)
          · rw [if_pos hn, reconcile_container]
            refine ⟨hi, fun r _ => ⟨result, hresult, coherent_iff_of_noop hi ?_⟩⟩
            rw [entryOf, hactive]
            exact hn
          · rw [if_neg hn]
            obtain ⟨hinv, hcoherent⟩ := publish_spec hi hactive hn
            refine ⟨hinv, fun r hr => ⟨result, hresult, fun _ hf => ?_, fun _ => hcoherent r hr⟩⟩
            have hnoop := hf.noop
            rw [entryOf, hactive] at hnoop
            exact hn hnoop

/-- The invariant holds after every run of executions. -/
theorem reachable_invariant (hr : (system publisher sign).Reachable store) :
    Invariant publisher.encoding store.container := by
  refine TransitionSystem.Reachable.invariant
    (P := fun s : Store => Invariant publisher.encoding s.container) ?_ ?_ hr
  · intro s hs
    rw [hs]
    refine ⟨fun index hindex => ?_, fun id pointer hp => ?_, fun id entry he => ?_⟩
    · cases hindex
    · cases hp
    · cases he
  · intro s x t _ hi hs
    rw [← Option.some.inj hs]
    exact (run_spec hi).1

/-- After every run, an execution that returns leaves the incident's pointer and
index entry coherent exactly where it did not start from a half publication
whose direction the verified health has left. -/
theorem reassessment_coherent_iff {published : Option (IncidentState × IncidentPublicationReceipt)}
    (hr : (system publisher sign).Reachable store)
    (hreturned : (runIncidentReassessment publisher sign store x).2 = .returned published) :
    ∃ result, x.result = some result ∧
      (Coherent publisher.encoding
          (runIncidentReassessment publisher sign store x).1.container x.request.incidentId ↔
        ¬ FlippedHalfPublication store.container x.request.incidentId result.verifiedHealthy) :=
  (run_spec (reachable_invariant hr)).2 published hreturned

end Executions

/-! ## A redelivery after a crash between the two writes -/

def sampleResource : ResourceId := ⟨"s", "g", .virtualMachine, "web"⟩

def sampleRequest : ReassessmentRequest :=
  ⟨"reassess-1", "inc-aaaaaaaaaaaa", "evt-1",
    ⟨"evt-1", "sha256:1", .activated, sampleResource, "rule", 1⟩, .webServerFailure, .web,
    sampleResource, .activated, "wc016-1"⟩

/-- A delivery of the sample request at an instant. -/
def sampleDelivery (healthy : Bool) (instant : UtcDateTime) (requestsMade : ℕ) : Execution where
  request := sampleRequest
  result := some ⟨"reassess-1", instant, "sha256:b", healthy,
    [⟨"clause", "fail", "no answer", ["evidence"]⟩], ["reason"]⟩
  detectedAt := instant
  updatedAt := instant
  publishedAt := instant
  presentationUrl := "https://example.invalid"
  key := sampleKey
  notifications := true
  requestsMade := requestsMade

/-- An activation from the empty store that makes so many blob requests. -/
def sampleActivation (requestsMade : ℕ) : Store × Outcome :=
  runIncidentReassessment samplePublisher sampleSign ⟨emptyContainer, []⟩
    (sampleDelivery false 1 requestsMade)

def Outcome.isReturned : Outcome → Bool
  | .returned _ => true
  | _ => false

theorem sampleActivation_returned : (sampleActivation 10).2.isReturned = true := by
  decide +kernel

/-- A complete activation returns and is coherent. -/
theorem reassessment_coherent_iff_activation :
    Coherent samplePublisher.encoding (sampleActivation 10).1.container sampleRequest.incidentId ↔
      ¬ FlippedHalfPublication emptyContainer sampleRequest.incidentId false := by
  have hreturned : ∃ published, (sampleActivation 10).2 = .returned published := by
    have h := sampleActivation_returned
    cases ho : (sampleActivation 10).2 with
    | returned published => exact ⟨published, rfl⟩
    | raised error =>
      rw [ho] at h
      cases h
    | stopped =>
      rw [ho] at h
      cases h
  obtain ⟨published, hp⟩ := hreturned
  obtain ⟨result, hresult, hiff⟩ := reassessment_coherent_iff
    (.start rfl : (system samplePublisher sampleSign).Reachable ⟨emptyContainer, []⟩) hp
  cases hresult
  unfold sampleActivation
  exact hiff

/-- Every execution that returns leaves pointer and index coherent. -/
def AlwaysCoherent (publisher : Publisher) (sign : Payload → String) : Prop :=
  ∀ store x published, (system publisher sign).Reachable store →
    (runIncidentReassessment publisher sign store x).2 = .returned published →
    Coherent publisher.encoding (runIncidentReassessment publisher sign store x).1.container
      x.request.incidentId

/-- The delivery after an activation that stopped before the write of the index. -/
def sampleRedelivery : Store × Outcome :=
  runIncidentReassessment samplePublisher sampleSign (sampleActivation 8).1
    (sampleDelivery true 2 10)

/-- The activation stops between its two writes, the redelivery finds the
incident healthy: it returns nothing, and the pointer stays active without an
entry. -/
theorem halfActivation_incoherent : ¬ AlwaysCoherent samplePublisher sampleSign := by
  intro h
  have hreach : (system samplePublisher sampleSign).Reachable (sampleActivation 8).1 := by
    unfold sampleActivation
    exact .next (.start rfl) (a := sampleDelivery false 1 8) rfl
  have hrun : sampleRedelivery.2 = .returned none ∧
      (pointedState? sampleRedelivery.1.container sampleRequest.incidentId).map
        (fun state => state.lifecycle) = some .active ∧
      (entryOf sampleRedelivery.1.container sampleRequest.incidentId).isSome = false := by
    decide +kernel
  unfold sampleRedelivery at hrun
  obtain ⟨hreturned, hlifecycle, hentry⟩ := hrun
  have hcoherent := h _ _ _ hreach hreturned
  have hsome := hcoherent.1.mp (Option.map_eq_some_iff.mp hlifecycle)
  rw [show (sampleDelivery true 2 10).request = sampleRequest from rfl] at hsome
  exact absurd hsome (by rw [hentry]; decide)

end AthenaContext.IncidentReassessment
