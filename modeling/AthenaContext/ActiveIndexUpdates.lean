import AthenaContext.IncidentPublisher
import AthenaContext.TransitionSystems

/-!
# Concurrent updates of the active incident index

Any number of callers read the index, build an incident publication or a
heartbeat from their snapshot, and run it against the one container, blob
request by blob request in any order; a caller that stops is one that is never
scheduled again. The version token under which an index was downloaded and the
digest of the snapshot tie every write to the content which it replaces.
-/

namespace AthenaContext.ActiveIndexUpdates

open OrdinalCollections IncidentRecords IncidentPublisher ConditionalStores TransitionSystems

/-- One caller of the publisher. -/
inductive CallerState
  | idle
  | loading (downloaded : Option ActiveIncidentIndex)
  | holding (snapshot : Option ActiveIncidentIndexSnapshot)
  | publishing (snapshot : Option ActiveIncidentIndexSnapshot) (request : PublicationRequest)
      (phase : PublishPhase)
  deriving DecidableEq, Repr

/-- The container with all callers. -/
structure IndexState where
  container : Container
  callers : ℕ → CallerState

/-- What a caller does next. -/
inductive IndexAction
  | download (caller : ℕ)
  | read (caller : ℕ)
  | publishIncident (caller : ℕ) (state : IncidentState) (attestation : Attestation)
      (publishedAt : UtcDateTime) (key : SigningKey)
  | publishHeartbeat (caller : ℕ) (publishedAt : UtcDateTime) (key : SigningKey)
  | advance (caller : ℕ)
  deriving Repr

def IndexState.setCaller (s : IndexState) (caller : ℕ) (state : CallerState) : IndexState :=
  { s with callers := Function.update s.callers caller state }

section System

variable (publisher : Publisher) (sign : Payload → String)

/-- A publication call up to its first blob request. -/
def IndexState.start (s : IndexState) (caller : ℕ)
    (snapshot : Option ActiveIncidentIndexSnapshot) (request : PublicationRequest) :
    Option IndexState :=
  match startPublication publisher request with
  | .ok phase => some (s.setCaller caller (.publishing snapshot request phase))
  | .error _ => none

/-- One action. An action that is not due, or whose call raises before its
first blob request, is refused and changes nothing. -/
def step (s : IndexState) : IndexAction → Option IndexState
  | .download caller => some (s.setCaller caller (.loading s.container.active.value))
  | .read caller =>
    match s.callers caller with
    | .loading none => some (s.setCaller caller (.holding none))
    | .loading (some index) =>
      match checkActiveIncidentIndex publisher s.container index with
      | .ok snapshot => some (s.setCaller caller (.holding (some snapshot)))
      | .error _ => none
    | _ => none
  | .publishIncident caller state attestation publishedAt key =>
    match s.callers caller with
    | .holding snapshot =>
      match buildIncidentPublication publisher.encoding sign key state attestation publishedAt
          snapshot with
      | .ok request => s.start publisher caller snapshot (.incident request)
      | .error _ => none
    | _ => none
  | .publishHeartbeat caller publishedAt key =>
    match s.callers caller with
    | .holding snapshot =>
      match buildActiveIncidentIndexHeartbeat publisher.encoding sign key publishedAt snapshot with
      | .ok request => s.start publisher caller snapshot (.heartbeat request)
      | .error _ => none
    | _ => none
  | .advance caller =>
    match s.callers caller with
    | .publishing snapshot request phase =>
      let next := publishStep publisher request s.container phase
      some (({ s with container := next.1 } : IndexState).setCaller caller
        (.publishing snapshot request next.2))
    | _ => none

/-- Nothing was published and nobody has called. -/
def initial : IndexState := ⟨emptyContainer, fun _ => .idle⟩

/-- The callers over one container. -/
def system : TransitionSystem IndexState IndexAction := ofStep initial (step publisher sign)

end System

/-- The incident whose entry a request sets or removes. -/
def publishedIncident? : PublicationRequest → Option String
  | .incident request => some request.pointer.incidentId
  | .heartbeat _ => none

/-- A request that was built from a snapshot. -/
def BuiltOn (encoding : Encoding) (snapshot : Option ActiveIncidentIndexSnapshot) :
    PublicationRequest → Prop
  | .incident request =>
    ∃ key state attestation, BuiltIncident encoding key state attestation snapshot request
  | .heartbeat request =>
    ∃ key, BuiltIndex encoding key (snapshotEntries snapshot) snapshot request

/-- What a write of the index does to the content that it replaces. -/
structure SafeUpdate (incident? : Option String) (old : Option ActiveIncidentIndex)
    (new : ActiveIncidentIndex) : Prop where
  kept : ∀ incidentId, incident? ≠ some incidentId →
    new.entryOf incidentId = snapshotEntryOf old incidentId
  ordered : strictlyOrdered ActiveIncidentEntry.incidentId new.incidents
  newer : ∀ index ∈ old, index.publishedAt < new.publishedAt

section BuiltOn

variable {encoding : Encoding} {snapshot : Option ActiveIncidentIndexSnapshot}
  {request : PublicationRequest}

/-- Whatever a request is about, its index was built on the snapshot. -/
theorem BuiltOn.index (h : BuiltOn encoding snapshot request) :
    ∃ key entries, BuiltIndex encoding key entries snapshot request.indexRequest := by
  cases request with
  | incident r =>
    obtain ⟨key, state, attestation, hb⟩ := h
    exact ⟨key, _, hb.index⟩
  | heartbeat r =>
    obtain ⟨key, hb⟩ := h
    exact ⟨key, _, hb⟩

theorem BuiltOn.previous (h : BuiltOn encoding snapshot request) :
    request.indexRequest.previousActiveIndexSha256 =
      snapshot.map fun s => encoding.sha256Hex (.index s) := by
  obtain ⟨key, entries, hb⟩ := h.index
  exact hb.previous

theorem BuiltOn.ordered (h : BuiltOn encoding snapshot request) :
    strictlyOrdered ActiveIncidentEntry.incidentId request.indexRequest.activeIndex.incidents := by
  obtain ⟨key, entries, hb⟩ := h.index
  exact hb.ordered

/-- A built index changes no entry but that of the published incident. -/
theorem BuiltOn.kept (h : BuiltOn encoding snapshot request)
    (hs : ∀ p ∈ snapshot, strictlyOrdered ActiveIncidentEntry.incidentId p.incidents)
    {incidentId : String} (hne : publishedIncident? request ≠ some incidentId) :
    request.indexRequest.activeIndex.entryOf incidentId = snapshotEntryOf snapshot incidentId := by
  rw [snapshotEntryOf_eq]
  cases request with
  | incident r =>
    obtain ⟨key, state, attestation, hb⟩ := h
    have hother : incidentId ≠ state.incidentId := by
      intro he
      apply hne
      simp only [publishedIncident?, hb.incident, he]
    have hentry := hb.index.entry incidentId
    rw [publishedEntries_other (snapshotEntries_nodup hs) hother] at hentry
    exact hentry
  | heartbeat r =>
    obtain ⟨key, hb⟩ := h
    exact hb.entry incidentId

end BuiltOn

/-! ## The invariant -/

/-- The snapshot was the content of the index once: it still is, or a newer
index replaced it. -/
def Precedes (snapshot value : Option ActiveIncidentIndex) : Prop :=
  ∀ p ∈ snapshot, strictlyOrdered ActiveIncidentEntry.incidentId p.incidents ∧
    ∃ c ∈ value, c = p ∨ p.publishedAt < c.publishedAt

/-- The index is as it was, or one write put a newer index in order there. -/
def Advances (cell next : Cell ActiveIncidentIndex) : Prop :=
  next = cell ∨ ∃ index, next = ⟨some (index, cell.next), cell.next + 1⟩ ∧
    strictlyOrdered ActiveIncidentEntry.incidentId index.incidents ∧
    ∀ old ∈ cell.value, old.publishedAt < index.publishedAt

/-- What a publication under way relies on. -/
structure CallInvariant (encoding : Encoding) (cell : Cell ActiveIncidentIndex)
    (snapshot : Option ActiveIncidentIndexSnapshot) (request : PublicationRequest)
    (phase : PublishPhase) : Prop where
  built : BuiltOn encoding snapshot request
  writes : phase ≠ .indexLoaded .unchanged
  create : phase = .indexLoaded .create →
    request.indexRequest.previousActiveIndexSha256 = none
  replace : ∀ etag, phase = .indexLoaded (.replace etag) →
    ∃ copy : ActiveIncidentIndex, cell.Remembers (copy, etag) ∧
      request.indexRequest.previousActiveIndexSha256 =
        some (encoding.sha256Hex (.index copy)) ∧
      copy.publishedAt < request.indexRequest.activeIndex.publishedAt

/-- What each caller relies on. -/
def CallerInvariant (encoding : Encoding) (cell : Cell ActiveIncidentIndex) :
    CallerState → Prop
  | .idle => True
  | .loading snapshot => Precedes snapshot cell.value
  | .holding snapshot => Precedes snapshot cell.value
  | .publishing snapshot request phase =>
    Precedes snapshot cell.value ∧ CallInvariant encoding cell snapshot request phase

/-- The invariant of the system. -/
structure Invariant (encoding : Encoding) (s : IndexState) : Prop where
  valid : s.container.active.Valid
  ordered : ∀ index ∈ s.container.active.value,
    strictlyOrdered ActiveIncidentEntry.incidentId index.incidents
  callers : ∀ c, CallerInvariant encoding s.container.active (s.callers c)

section Advances

variable {cell next : Cell ActiveIncidentIndex} {encoding : Encoding}
  {snapshot : Option ActiveIncidentIndexSnapshot}

/-- A snapshot that was replaced stays replaced. -/
theorem Precedes.advance (h : Precedes snapshot cell.value) (hc : Advances cell next) :
    Precedes snapshot next.value := by
  rcases hc with rfl | ⟨index, rfl, -, hnewer⟩
  · exact h
  · intro p hp
    obtain ⟨hord, c, hc, hle⟩ := h p hp
    refine ⟨hord, index, rfl, Or.inr ?_⟩
    have hlt := hnewer c hc
    rcases hle with rfl | hpc
    · exact hlt
    · exact lt_trans hpc hlt

theorem Remembers.advance {copy : ActiveIncidentIndex × ℕ} (h : cell.Remembers copy)
    (hc : Advances cell next) : next.Remembers copy := by
  rcases hc with rfl | ⟨index, rfl, -, -⟩
  · exact h
  · exact Cell.remembers_written h

/-- The other callers' invariants survive a write. -/
theorem CallerInvariant.advance {state : CallerState}
    (h : CallerInvariant encoding cell state) (hc : Advances cell next) :
    CallerInvariant encoding next state := by
  cases state with
  | idle => trivial
  | loading snapshot => exact Precedes.advance h hc
  | holding snapshot => exact Precedes.advance h hc
  | publishing snapshot request phase =>
    obtain ⟨hp, hb⟩ := h
    refine ⟨Precedes.advance hp hc, hb.built, hb.writes, hb.create, fun etag he => ?_⟩
    obtain ⟨copy, hr, hrest⟩ := hb.replace etag he
    exact ⟨copy, Remembers.advance hr hc, hrest⟩

theorem Advances.valid (hv : cell.Valid) (hc : Advances cell next) : next.Valid := by
  rcases hc with rfl | ⟨index, rfl, -, -⟩
  · exact hv
  · intro p hp
    cases hp
    exact Nat.lt_succ_self _

theorem Advances.ordered (hc : Advances cell next)
    (ho : ∀ index ∈ cell.value, strictlyOrdered ActiveIncidentEntry.incidentId index.incidents) :
    ∀ index ∈ next.value, strictlyOrdered ActiveIncidentEntry.incidentId index.incidents := by
  rcases hc with rfl | ⟨index, rfl, hord, -⟩
  · exact ho
  · intro i hi
    cases hi
    exact hord

end Advances

/-- An invariant state with the index advanced and one caller moved. -/
theorem Invariant.set {encoding : Encoding} {s : IndexState} {container : Container} {c : ℕ}
    {state : CallerState} (h : Invariant encoding s)
    (hc : Advances s.container.active container.active)
    (hstate : CallerInvariant encoding container.active state) :
    Invariant encoding (({ s with container } : IndexState).setCaller c state) := by
  refine ⟨hc.valid h.valid, hc.ordered h.ordered, fun d => ?_⟩
  by_cases hd : d = c
  · subst hd
    simpa only [IndexState.setCaller, Function.update_self] using hstate
  · have hother := (h.callers d).advance hc
    simpa only [IndexState.setCaller, Function.update_of_ne hd] using hother

section Moves

variable {publisher : Publisher} {request : PublicationRequest} {container : Container}
  {snapshot : Option ActiveIncidentIndexSnapshot} {phase : PublishPhase}
  {next : Container × PublishPhase}

theorem uploadImmutable_active {written : Container} {asset : PresentationAsset}
    (h : uploadImmutable container asset = .ok written) : written.active = container.active :=
  (uploadImmutable_ok h).2.2.2

/-- What a write of the index found: nothing, for a call without a snapshot,
or the copy that was downloaded, whose digest is the snapshot's. -/
theorem indexWritten_spec {write : MutableWrite} {cell : Cell ActiveIncidentIndex}
    (hi : CallInvariant publisher.encoding container.active snapshot request (.indexLoaded write))
    (h : writeMutable container.active request.indexRequest.activeIndex write = .ok cell) :
    cell = ⟨some (request.indexRequest.activeIndex, container.active.next),
        container.active.next + 1⟩ ∧
      ((container.active.value = none ∧ snapshot = none) ∨
        ∃ copy p, container.active.value = some copy ∧ snapshot = some p ∧
          publisher.encoding.sha256Hex (.index copy) = publisher.encoding.sha256Hex (.index p) ∧
          copy.publishedAt < request.indexRequest.activeIndex.publishedAt) := by
  have hprevious := hi.built.previous
  rcases writeMutable_ok h with ⟨rfl, -⟩ | ⟨rfl, hc⟩ | ⟨etag, rfl, hc⟩
  · exact absurd rfl hi.writes
  · obtain ⟨hnone, rfl⟩ := Cell.create_some hc
    rw [hi.create rfl] at hprevious
    refine ⟨rfl, Or.inl ⟨?_, Option.map_eq_none_iff.mp hprevious.symm⟩⟩
    rw [Cell.value, hnone]
    rfl
  · obtain ⟨copy, hr, hp, hlt⟩ := hi.replace etag rfl
    have hcontent := hr.replaced hc
    obtain ⟨-, rfl⟩ := Cell.replace_some hc
    rw [hp] at hprevious
    obtain ⟨p, hsnapshot, hsha⟩ := Option.map_eq_some_iff.mp hprevious.symm
    refine ⟨rfl, Or.inr ⟨copy, p, ?_, hsnapshot, hsha.symm, hlt⟩⟩
    rw [Cell.value, hcontent]
    rfl

/-- One blob request leaves the index as it is, or is the write of the index. -/
theorem moves_advances
    (hi : CallInvariant publisher.encoding container.active snapshot request phase)
    (h : Moves publisher request container phase next) :
    Advances container.active next.1.active := by
  cases h with
  | uploaded h => exact Or.inl (uploadImmutable_active h)
  | indexWritten h =>
    obtain ⟨rfl, hcases⟩ := indexWritten_spec hi h
    refine Or.inr ⟨_, rfl, hi.built.ordered, fun old hold => ?_⟩
    rcases hcases with ⟨hnone, -⟩ | ⟨copy, p, hcopy, -, -, hlt⟩
    · rw [hnone] at hold
      cases hold
    · rw [hcopy] at hold
      cases hold
      exact hlt
  | uploadsDone => exact Or.inl rfl
  | pointerSkipped => exact Or.inl rfl
  | pointerEqual => exact Or.inl rfl
  | pointerDownloaded => exact Or.inl rfl
  | pointerWritten => exact Or.inl rfl
  | indexEqual => exact Or.inl rfl
  | indexDownloaded => exact Or.inl rfl
  | refused => exact Or.inl rfl
  | finished => exact Or.inl rfl

/-- A phase with no write of the index decided relies on nothing more. -/
theorem CallInvariant.of_notLoaded {cell : Cell ActiveIncidentIndex}
    (hb : BuiltOn publisher.encoding snapshot request)
    (h : ∀ write, phase ≠ .indexLoaded write) :
    CallInvariant publisher.encoding cell snapshot request phase :=
  ⟨hb, h _, fun he => absurd he (h _), fun _ he => absurd he (h _)⟩

/-- The caller's own invariant after its blob request. -/
theorem moves_callInvariant (hv : container.active.Valid)
    (hi : CallInvariant publisher.encoding container.active snapshot request phase)
    (h : Moves publisher request container phase next) :
    CallInvariant publisher.encoding next.1.active snapshot request next.2 := by
  have hb := hi.built
  cases h with
  | uploadsDone h =>
    refine .of_notLoaded hb fun write he => ?_
    rcases h with ⟨r, -, rfl⟩ | ⟨r, -, rfl⟩ <;> cases he
  | indexDownloaded hw h =>
    refine ⟨hb, fun he => hw (PublishPhase.indexLoaded.inj he), fun he => ?_, fun etag he => ?_⟩
    · cases he
      exact (activeIndexWrite_create h).2
    · cases he
      obtain ⟨copy, hcontent, hrest⟩ := activeIndexWrite_replace h
      exact ⟨copy, Cell.remembers_read hv hcontent, hrest⟩
  | finished hp =>
    refine .of_notLoaded hb fun write he => ?_
    rcases hp with rfl | ⟨error, rfl⟩ <;> cases he
  | uploaded => exact .of_notLoaded hb nofun
  | pointerSkipped => exact .of_notLoaded hb nofun
  | pointerEqual => exact .of_notLoaded hb nofun
  | pointerDownloaded => exact .of_notLoaded hb nofun
  | pointerWritten => exact .of_notLoaded hb nofun
  | indexEqual => exact .of_notLoaded hb nofun
  | indexWritten => exact .of_notLoaded hb nofun
  | refused => exact .of_notLoaded hb nofun

end Moves

/-! ## Every action keeps the invariant -/

section Steps

variable {publisher : Publisher} {sign : Payload → String} {s t : IndexState}

theorem invariant_initial (encoding : Encoding) : Invariant encoding initial := by
  refine ⟨Cell.valid_empty, fun index hindex => ?_, fun c => trivial⟩
  cases hindex

/-- Starting a publication with a request built on the snapshot. -/
theorem Invariant.start {caller : ℕ} {snapshot : Option ActiveIncidentIndexSnapshot}
    {request : PublicationRequest} (hi : Invariant publisher.encoding s)
    (hp : Precedes snapshot s.container.active.value)
    (hb : BuiltOn publisher.encoding snapshot request)
    (hs : s.start publisher caller snapshot request = some t) :
    Invariant publisher.encoding t := by
  unfold IndexState.start at hs
  split at hs
  · rename_i phase hstart
    cases hs
    obtain ⟨assets, rfl, -⟩ := startPublication_ok hstart
    exact hi.set (Or.inl rfl) ⟨hp, .of_notLoaded hb nofun⟩
  · cases hs

/-- What an advance does. -/
theorem step_advance {caller : ℕ} (h : step publisher sign s (.advance caller) = some t) :
    ∃ snapshot request phase next, s.callers caller = .publishing snapshot request phase ∧
      Moves publisher request s.container phase next ∧
      t = ({ s with container := next.1 } : IndexState).setCaller caller
        (.publishing snapshot request next.2) := by
  simp only [step] at h
  split at h
  · rename_i snapshot request phase hc
    cases h
    exact ⟨snapshot, request, phase, _, hc, publishStep_moves phase, rfl⟩
  · cases h

/-- A download holds the content of the index. -/
theorem precedes_download (hi : Invariant publisher.encoding s) :
    Precedes s.container.active.value s.container.active.value :=
  fun p hp => ⟨hi.ordered p hp, p, hp, Or.inl rfl⟩

/-- Every action keeps the invariant. -/
theorem Invariant.step {a : IndexAction} (hi : Invariant publisher.encoding s)
    (hs : step publisher sign s a = some t) : Invariant publisher.encoding t := by
  cases a with
  | download caller =>
    cases hs
    exact hi.set (Or.inl rfl) (precedes_download hi)
  | read caller =>
    have hcaller := hi.callers caller
    simp only [ActiveIndexUpdates.step] at hs
    split at hs
    · rename_i hc
      rw [hc] at hcaller
      cases hs
      exact hi.set (Or.inl rfl) hcaller
    · rename_i index hc
      rw [hc] at hcaller
      split at hs
      · rename_i snapshot hok
        cases hs
        rw [checkActiveIncidentIndex_ok hok]
        exact hi.set (Or.inl rfl) hcaller
      · cases hs
    · cases hs
  | publishIncident caller state attestation publishedAt key =>
    have hcaller := hi.callers caller
    simp only [ActiveIndexUpdates.step] at hs
    split at hs
    · rename_i snapshot hc
      rw [hc] at hcaller
      split at hs
      · rename_i request hok
        have hb : BuiltOn publisher.encoding snapshot (.incident request) :=
          ⟨key, state, attestation, buildIncidentPublication_ok hok⟩
        exact hi.start hcaller hb hs
      · cases hs
    · cases hs
  | publishHeartbeat caller publishedAt key =>
    have hcaller := hi.callers caller
    simp only [ActiveIndexUpdates.step] at hs
    split at hs
    · rename_i snapshot hc
      rw [hc] at hcaller
      split at hs
      · rename_i request hok
        have hb : BuiltOn publisher.encoding snapshot (.heartbeat request) :=
          ⟨key, buildActiveIncidentIndexPublication_ok hok⟩
        exact hi.start hcaller hb hs
      · cases hs
    · cases hs
  | advance caller =>
    obtain ⟨snapshot, request, phase, next, hc, hm, rfl⟩ := step_advance hs
    have hcaller := hi.callers caller
    rw [hc] at hcaller
    obtain ⟨hp, hcall⟩ := hcaller
    have hadv := moves_advances hcall hm
    exact hi.set hadv ⟨Precedes.advance hp hadv, moves_callInvariant hi.valid hcall hm⟩

/-- The invariant holds in every reachable state. -/
theorem reachable_invariant (hr : (system publisher sign).Reachable s) :
    Invariant publisher.encoding s := by
  refine hr.invariant ?_ ?_
  · intro s hs
    rw [hs]
    exact invariant_initial publisher.encoding
  · intro s a t _ hi hs
    exact hi.step hs

/-- Only an advance changes the index. -/
theorem step_active {a : IndexAction} (h : step publisher sign s a = some t)
    (ha : ∀ caller, a ≠ .advance caller) : t.container.active = s.container.active := by
  have hstart : ∀ {caller snapshot request}, s.start publisher caller snapshot request = some t →
      t.container.active = s.container.active := by
    intro caller snapshot request hs
    unfold IndexState.start at hs
    split at hs
    · cases hs
      rfl
    · cases hs
  cases a with
  | download caller =>
    cases h
    rfl
  | read caller =>
    simp only [step] at h
    split at h
    · cases h
      rfl
    · split at h
      · cases h
        rfl
      · cases h
    · cases h
  | publishIncident caller state attestation publishedAt key =>
    simp only [step] at h
    split at h
    · split at h
      · exact hstart h
      · cases h
    · cases h
  | publishHeartbeat caller publishedAt key =>
    simp only [step] at h
    split at h
    · split at h
      · exact hstart h
      · cases h
    · cases h
  | advance caller => exact absurd rfl (ha caller)

end Steps

/-! ## No update is lost -/

/-- The snapshot which a caller acts on. -/
def CallerState.snapshot? : CallerState → Option (Option ActiveIncidentIndexSnapshot)
  | .idle => none
  | .loading snapshot => some snapshot
  | .holding snapshot => some snapshot
  | .publishing snapshot _ _ => some snapshot

/-- The snapshot of the advancing caller does not share its digest with a
different index that is the current content. -/
def CollisionFree (encoding : Encoding) (s : IndexState) (a : IndexAction) : Prop :=
  ∀ caller, a = .advance caller → ∀ index ∈ s.container.active.value,
    ∀ p, (s.callers caller).snapshot? = some (some p) →
      encoding.sha256Hex (.index index) = encoding.sha256Hex (.index p) → index = p

/-- How a blob request of a caller with a replaced snapshot may end its call:
by the conflict error, or normally where the index already is what it wanted. -/
def StaleOutcome (value : Option ActiveIncidentIndex) (request : PublicationRequest)
    (before after : PublishPhase) : Prop :=
  (before.remaining = 0 ∧ after = before) ∨
    (after.remaining < before.remaining ∧
      (after.remaining = 0 →
        (∃ message, after = .raised (.alreadyExists message)) ∨
          (after = .returned ∧ value = some request.indexRequest.activeIndex)))

/-- The step leaves the index as it is, or is a safe write by a caller whose
snapshot is the content of the index. -/
def WritesSafely (s : IndexState) (a : IndexAction) (t : IndexState) : Prop :=
  t.container.active = s.container.active ∨
    ∃ caller snapshot request phase, a = .advance caller ∧
      s.callers caller = .publishing snapshot request phase ∧
      snapshot = s.container.active.value ∧
      t.container.active.value = some request.indexRequest.activeIndex ∧
      SafeUpdate (publishedIncident? request) s.container.active.value
        request.indexRequest.activeIndex

/-- A caller whose snapshot was replaced leaves the index as it is, and its call
does not end normally unless the index equals its payload. -/
def StaleRefused (s : IndexState) (a : IndexAction) (t : IndexState) : Prop :=
  ∀ caller snapshot request phase, a = .advance caller →
    s.callers caller = .publishing snapshot request phase →
    s.container.active.value ≠ snapshot →
    t.container.active = s.container.active ∧
      ∃ after, t.callers caller = .publishing snapshot request after ∧
        StaleOutcome s.container.active.value request phase after

/-- A snapshot that was replaced does not become current again. -/
def StaleStays (s t : IndexState) : Prop :=
  ∀ caller snapshot, (s.callers caller).snapshot? = some snapshot →
    s.container.active.value ≠ snapshot → t.container.active.value ≠ snapshot

section Main

variable {publisher : Publisher} {sign : Payload → String} {s t : IndexState}

/-- A write of the index by a caller replaces the caller's snapshot by the
index that was built on it. -/
theorem indexWritten_safe {container : Container} {snapshot : Option ActiveIncidentIndexSnapshot}
    {request : PublicationRequest} {write : MutableWrite} {cell : Cell ActiveIncidentIndex}
    (hp : Precedes snapshot container.active.value)
    (hi : CallInvariant publisher.encoding container.active snapshot request (.indexLoaded write))
    (hsha : ∀ index ∈ container.active.value, ∀ p ∈ snapshot,
      publisher.encoding.sha256Hex (.index index) = publisher.encoding.sha256Hex (.index p) →
        index = p)
    (h : writeMutable container.active request.indexRequest.activeIndex write = .ok cell) :
    snapshot = container.active.value ∧ cell.value = some request.indexRequest.activeIndex ∧
      SafeUpdate (publishedIncident? request) container.active.value
        request.indexRequest.activeIndex := by
  obtain ⟨rfl, hcases⟩ := indexWritten_spec hi h
  have hsame : snapshot = container.active.value := by
    rcases hcases with ⟨hnone, hsnapshot⟩ | ⟨copy, p, hcopy, hsnapshot, heq, -⟩
    · rw [hnone, hsnapshot]
    · have hcp := hsha copy hcopy p hsnapshot heq
      rw [hcopy, hsnapshot, hcp]
  refine ⟨hsame, rfl, fun incidentId hne => ?_, hi.built.ordered, fun index hindex => ?_⟩
  · rw [← hsame]
    exact hi.built.kept (fun p hp' => (hp p hp').1) hne
  · rcases hcases with ⟨hnone, -⟩ | ⟨copy, p, hcopy, -, -, hlt⟩
    · rw [hnone] at hindex
      cases hindex
    · rw [hcopy] at hindex
      cases hindex
      exact hlt

/-- A caller whose snapshot was replaced does not write the index. -/
theorem moves_stale {container : Container} {snapshot : Option ActiveIncidentIndexSnapshot}
    {request : PublicationRequest} {phase : PublishPhase} {next : Container × PublishPhase}
    (hp : Precedes snapshot container.active.value)
    (hi : CallInvariant publisher.encoding container.active snapshot request phase)
    (hsha : ∀ index ∈ container.active.value, ∀ p ∈ snapshot,
      publisher.encoding.sha256Hex (.index index) = publisher.encoding.sha256Hex (.index p) →
        index = p)
    (hstale : container.active.value ≠ snapshot)
    (h : Moves publisher request container phase next) :
    next.1.active = container.active ∧
      StaleOutcome container.active.value request phase next.2 := by
  have hrank := h.remaining
  cases h with
  | indexWritten h =>
    obtain ⟨hsame, -, -⟩ := indexWritten_safe hp hi hsha h
    exact absurd hsame.symm hstale
  | uploadsDone h =>
    refine ⟨rfl, hrank.imp_right fun hlt => ⟨hlt, fun hz => ?_⟩⟩
    rcases h with ⟨r, -, rfl⟩ | ⟨r, -, rfl⟩ <;> cases hz
  | uploaded h =>
    refine ⟨uploadImmutable_active h, hrank.imp_right fun hlt => ⟨hlt, fun hz => ?_⟩⟩
    simp [PublishPhase.remaining] at hz
  | pointerSkipped => exact ⟨rfl, hrank.imp_right fun hlt => ⟨hlt, fun hz => by cases hz⟩⟩
  | pointerEqual => exact ⟨rfl, hrank.imp_right fun hlt => ⟨hlt, fun hz => by cases hz⟩⟩
  | pointerDownloaded => exact ⟨rfl, hrank.imp_right fun hlt => ⟨hlt, fun hz => by cases hz⟩⟩
  | pointerWritten => exact ⟨rfl, hrank.imp_right fun hlt => ⟨hlt, fun hz => by cases hz⟩⟩
  | indexDownloaded => exact ⟨rfl, hrank.imp_right fun hlt => ⟨hlt, fun hz => by cases hz⟩⟩
  | indexEqual h =>
    obtain ⟨etag, hcontent⟩ := activeIndexWrite_unchanged h
    refine ⟨rfl, hrank.imp_right fun hlt => ⟨hlt, fun _ => Or.inr ⟨rfl, ?_⟩⟩⟩
    rw [Cell.value, hcontent]
    rfl
  | refused hp =>
    exact ⟨rfl, hrank.imp_right fun hlt => ⟨hlt, fun _ => Or.inl ⟨_, rfl⟩⟩⟩
  | finished hp =>
    refine ⟨rfl, hrank.imp_right fun hlt => ?_⟩
    exact absurd hlt (lt_irrefl _)

/-- The index once replaced never returns to a snapshot. -/
theorem Advances.stale {cell next : Cell ActiveIncidentIndex}
    {snapshot : Option ActiveIncidentIndexSnapshot} (hp : Precedes snapshot cell.value)
    (hc : Advances cell next) (hstale : cell.value ≠ snapshot) : next.value ≠ snapshot := by
  rcases hc with rfl | ⟨index, rfl, -, hnewer⟩
  · exact hstale
  · intro he
    have hvalue : snapshot = some index := he.symm
    obtain ⟨-, c, hc, hle⟩ := hp index hvalue
    have hlt := hnewer c hc
    rcases hle with rfl | hic
    · exact lt_irrefl _ hlt
    · exact lt_irrefl _ (lt_trans hlt hic)

/-- Every step advances the index. -/
theorem step_advances {a : IndexAction} (hi : Invariant publisher.encoding s)
    (hs : step publisher sign s a = some t) :
    Advances s.container.active t.container.active := by
  by_cases ha : ∃ caller, a = .advance caller
  · obtain ⟨caller, rfl⟩ := ha
    obtain ⟨snapshot, request, phase, next, hc, hm, rfl⟩ := step_advance hs
    have hcaller := hi.callers caller
    rw [hc] at hcaller
    exact moves_advances hcaller.2 hm
  · refine Or.inl (step_active hs fun caller he => ha ⟨caller, he⟩)

/-- Over every interleaving of publications and heartbeats: each step leaves the
index as it is or is a caller's write, which replaces the caller's snapshot,
changes no entry but that of its incident, keeps the order and moves the index
forward in time. A caller whose snapshot was replaced writes nothing and ends
with the conflict error, or normally where the index equals its payload; a
replaced snapshot stays replaced. -/
theorem activeIndex_updates_safe {a : IndexAction} (hr : (system publisher sign).Reachable s)
    (hsha : CollisionFree publisher.encoding s a) (hs : (system publisher sign).step s a t) :
    WritesSafely s a t ∧ StaleRefused s a t ∧ StaleStays s t := by
  have hi := reachable_invariant hr
  refine ⟨?_, ?_, ?_⟩
  · by_cases ha : ∃ caller, a = .advance caller
    · obtain ⟨caller, rfl⟩ := ha
      obtain ⟨snapshot, request, phase, next, hc, hm, rfl⟩ := step_advance hs
      have hcaller := hi.callers caller
      rw [hc] at hcaller
      obtain ⟨hp, hcall⟩ := hcaller
      cases hm with
      | indexWritten h =>
        right
        obtain ⟨hsame, hvalue, hsafe⟩ := indexWritten_safe hp hcall
          (fun index hindex p hp' => hsha caller rfl index hindex p (by rw [hc, ← hp']; rfl)) h
        exact ⟨caller, snapshot, request, _, rfl, hc, hsame, hvalue, hsafe⟩
      | uploaded h => exact Or.inl (uploadImmutable_active h)
      | uploadsDone => exact Or.inl rfl
      | pointerSkipped => exact Or.inl rfl
      | pointerEqual => exact Or.inl rfl
      | pointerDownloaded => exact Or.inl rfl
      | pointerWritten => exact Or.inl rfl
      | indexEqual => exact Or.inl rfl
      | indexDownloaded => exact Or.inl rfl
      | refused => exact Or.inl rfl
      | finished => exact Or.inl rfl
    · exact Or.inl (step_active hs fun caller he => ha ⟨caller, he⟩)
  · intro caller snapshot request phase ha hc hstale
    subst ha
    obtain ⟨snapshot', request', phase', next, hc', hm, rfl⟩ := step_advance hs
    have hcaller := hi.callers caller
    rw [hc] at hcaller hc'
    cases hc'
    obtain ⟨hactive, houtcome⟩ := moves_stale hcaller.1 hcaller.2
      (fun index hindex p hp' => hsha caller rfl index hindex p (by rw [hc, ← hp']; rfl)) hstale hm
    exact ⟨hactive, next.2, Function.update_self caller _ _, houtcome⟩
  · intro caller snapshot hc hstale
    have hcaller := hi.callers caller
    have hp : Precedes snapshot s.container.active.value := by
      cases hstate : s.callers caller with
      | idle =>
        rw [hstate] at hc
        cases hc
      | loading sn =>
        rw [hstate] at hc hcaller
        cases hc
        exact hcaller
      | holding sn =>
        rw [hstate] at hc hcaller
        cases hc
        exact hcaller
      | publishing sn request phase =>
        rw [hstate] at hc hcaller
        cases hc
        exact hcaller.1
    exact (step_advances hi hs).stale hp hstale

end Main

/-! ## A second incident -/

def sampleRun (actions : List IndexAction) : Option IndexState :=
  runSteps (step samplePublisher sampleSign) initial actions

theorem sampleRun_reachable {actions : List IndexAction} {s : IndexState}
    (h : sampleRun actions = some s) :
    (system samplePublisher sampleSign).Reachable s :=
  reachable_runSteps actions (.start rfl) h

/-- The active state of an incident. -/
def sampleState (incidentId : String) (updatedAt : UtcDateTime) : IncidentState where
  incidentId := incidentId
  transitionId := "transition"
  scenario := .webServerFailure
  lifecycle := .active
  workloadRole := .web
  detectedAt := updatedAt
  updatedAt := updatedAt
  targetBinding := "sha256:b"
  availability := .warning
  blastRadius := .webTier
  operatorAttention := .required
  findings := []
  reasoning := []
  resultDigest := "sha256:" ++ updatedAt.repr

/-- A call of `publish_incident` up to a blob request. -/
def samplePublication (caller : ℕ) (incidentId : String) (publishedAt : UtcDateTime)
    (requests : ℕ) : List IndexAction :=
  [.download caller, .read caller,
    .publishIncident caller (sampleState incidentId publishedAt)
      ⟨"sha256:" ++ publishedAt.repr, "vault-key", "signed"⟩ publishedAt sampleKey] ++
    List.replicate requests (.advance caller)

/-- The entry of the first incident is published. Caller 2 has read that index, and caller 1 is
about to write it with the entry of a second incident. -/
def sampleIncidents : List IndexAction :=
  samplePublication 0 "inc-a" 0 10 ++ [.download 2, .read 2] ++ samplePublication 1 "inc-b" 1 9

def IndexState.incidentIds (s : IndexState) : Option (List String) :=
  s.container.active.value.map fun index => index.incidents.map (·.incidentId)

/-- The entries before and after the write, and whether its snapshot is the index. -/
def writtenIncidents (s t : IndexState) : Option (List String) × Option (List String) × Bool :=
  (s.incidentIds, t.incidentIds, (s.callers 1).snapshot? = some s.container.active.value)

theorem sampleIncidents_written :
    ((sampleRun sampleIncidents).bind fun s =>
      (step samplePublisher sampleSign s (.advance 1)).map (writtenIncidents s)) =
        some (some ["inc-a"], some ["inc-a", "inc-b"], true) := by
  decide +kernel

theorem activeIndex_updates_safe_incident : ∃ s t, s.incidentIds = some ["inc-a"] ∧
    t.incidentIds = some ["inc-a", "inc-b"] ∧ WritesSafely s (.advance 1) t ∧
    StaleRefused s (.advance 1) t ∧ StaleStays s t := by
  obtain ⟨s, hs, hwritten⟩ := Option.bind_eq_some_iff.mp sampleIncidents_written
  obtain ⟨t, ht, hwritten⟩ := Option.map_eq_some_iff.mp hwritten
  obtain ⟨hbefore, hafter, hsame⟩ : _ ∧ _ ∧ _ := by simpa [writtenIncidents] using hwritten
  refine ⟨s, t, hbefore, hafter, activeIndex_updates_safe (sampleRun_reachable hs) ?_ ht⟩
  intro caller ha index hindex p hp _
  cases ha
  rw [hsame, hindex] at hp
  cases hp
  rfl

/-! ## Two heartbeats at one instant -/

/-- One heartbeat from its download to its last blob request. -/
def sampleHeartbeat (caller : ℕ) (publishedAt : UtcDateTime) : List IndexAction :=
  [.download caller, .read caller, .publishHeartbeat caller publishedAt sampleKey,
    .advance caller, .advance caller, .advance caller, .advance caller]

/-- The first heartbeat is done; callers 1 and 2 hold its index and publish at
instant 1, caller 1 up to its write. -/
def sampleReaders : List IndexAction :=
  sampleHeartbeat 0 0 ++ [.download 1, .download 2, .read 1, .read 2,
    .publishHeartbeat 1 1 sampleKey, .publishHeartbeat 2 1 sampleKey,
    .advance 1, .advance 1, .advance 1]

def sampleIndex (publishedAt : UtcDateTime) : ActiveIncidentIndex :=
  ⟨⟨[], "key", "sha256:f", publishedAt⟩,
    "./incidents/index-attestations/" ++ publishedAt.repr ++ ".json"⟩

def sampleRequest : ActiveIncidentIndexPublicationRequest :=
  ⟨sampleIndex 1, ⟨"sha256:1", "vault-key", "signed sha256:1"⟩,
    ⟨"incidents/active.json", .index (sampleIndex 1)⟩,
    ⟨"incidents/index-attestations/1.json",
      .attestation ⟨"sha256:1", "vault-key", "signed sha256:1"⟩⟩, some "sha256:0"⟩

/-- Every caller whose snapshot was replaced ends with the conflict error. -/
def AlwaysConflicts (publisher : Publisher) (sign : Payload → String) : Prop :=
  ∀ s t caller snapshot request phase after, (system publisher sign).Reachable s →
    (system publisher sign).step s (.advance caller) t →
    s.callers caller = .publishing snapshot request phase →
    s.container.active.value ≠ snapshot → phase.remaining ≠ 0 →
    t.callers caller = .publishing snapshot request after → after.remaining = 0 →
    ∃ message, after = .raised (.alreadyExists message)

/-- Caller 2 holds a replaced snapshot and is about to download the index. -/
theorem sampleStale_some :
    (sampleRun (sampleReaders ++ [.advance 1, .advance 2, .advance 2])).isSome = true := by
  decide

def sampleStale : IndexState :=
  (sampleRun (sampleReaders ++ [.advance 1, .advance 2, .advance 2])).get sampleStale_some

theorem sampleReturned_some :
    (step samplePublisher sampleSign sampleStale (.advance 2)).isSome = true := by
  decide

def sampleReturned : IndexState :=
  (step samplePublisher sampleSign sampleStale (.advance 2)).get sampleReturned_some

/-- A heartbeat whose snapshot another heartbeat of the same instant replaced
finds its own payload in place and returns normally. -/
theorem staleHeartbeat_returns : ¬ AlwaysConflicts samplePublisher sampleSign := by
  intro h
  have hreach := sampleRun_reachable (Option.some_get sampleStale_some).symm
  have hbefore : sampleStale.callers 2 =
      .publishing (some (sampleIndex 0)) (.heartbeat sampleRequest) .indexDue := by
    decide
  have hafter : sampleReturned.callers 2 =
      .publishing (some (sampleIndex 0)) (.heartbeat sampleRequest) .returned := by
    decide
  have hstale : sampleStale.container.active.value ≠ some (sampleIndex 0) := by decide
  obtain ⟨message, hm⟩ := h sampleStale sampleReturned 2 _ _ _ _ hreach
    (Option.some_get sampleReturned_some).symm hbefore hstale (by decide) hafter rfl
  cases hm

end AthenaContext.ActiveIndexUpdates
