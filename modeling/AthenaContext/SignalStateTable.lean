import AthenaContext.ConditionalStores
import AthenaContext.SignalDetector
import AthenaContext.TransitionSystems
import Mathlib

/-!
# Overlapping detector runs over the state table

Any number of detectors over one table, one table operation at a time. A lease
row names the run that holds the lease and when it expires; a run whose lease
has expired goes on. The three writes of the store each take a check, a read of
the row anew, and a write under the version of that second read.
-/

namespace AthenaContext.SignalStateTable

open IncidentRecords ReassessmentRequests SignalDetector ConditionalStores TransitionSystems

/-- The lease row. -/
structure RunLease where
  owner : ℕ
  expiresUnix : ℤ
  deriving DecidableEq, Repr

/-- A state row. -/
structure StateRow where
  checkpoint : SignalCheckpoint
  observedAt : UtcDateTime
  deriving DecidableEq, Repr

/-- `_RUN_LEASE_SECONDS`. -/
def runLeaseSeconds : ℤ := 240

/-- `int(observed_at.timestamp())`. -/
def unixSeconds (observedAt : UtcDateTime) : ℤ := observedAt / 1000

/-- How far a write of the store has come: the version that its decision was
based on, and, after the second read, the version that it found. -/
inductive CallStage
  | ready
  | checked (basis : Option ℕ) (entity : StateRow)
  | reread (basis found : Option ℕ) (entity : StateRow)
  deriving DecidableEq, Repr

/-- One detector. A run remembers under which version it loaded a resource
without a pending transition. -/
inductive Detector
  | idle
  | acquiring (config : DetectorConfig) (owner : ℕ)
  | claiming (config : DetectorConfig) (owner etag : ℕ)
  | running (config : DetectorConfig) (owner : ℕ) (run : Run)
      (loadedUnder : ResourceId → Option ℕ) (stage : CallStage)
  | releasing (owner : ℕ)
  | deleting (etag : ℕ)

/-- The table, the requests sent so far, who staged which row last, and the
detectors. -/
structure TableState where
  lease : Cell RunLease
  rows : ResourceId → Cell StateRow
  sent : List ReassessmentRequest
  stager : ResourceId → ℕ
  detectors : ℕ → Detector

/-- A detector acquires the lease, makes its next table operation or call, or
its process stops; an observation finds the given health. -/
inductive TableAction
  | acquire (detector : ℕ) (config : DetectorConfig) (owner : ℕ)
  | advance (detector : ℕ) (healthy : Bool)
  | stop (detector : ℕ)

/-- The detector that acts. -/
def TableAction.detector : TableAction → ℕ
  | .acquire i _ _ => i
  | .advance i _ => i
  | .stop i => i

def TableState.setDetector (s : TableState) (i : ℕ) (d : Detector) : TableState :=
  { s with detectors := Function.update s.detectors i d }

/-- `load_checkpoint` on the content of a row. -/
def loadCheckpoint (resource : ResourceId) (content : Option (StateRow × ℕ)) :
    Except String SignalCheckpoint :=
  match content with
  | none => .ok emptyCheckpoint
  | some (row, _) =>
    match row.checkpoint.pending with
    | none => .ok row.checkpoint
    | some (_, request) =>
      if request.targetResourceId = resource then .ok row.checkpoint
      else .error "detector pending transition target is invalid"

/-- The check of `stage_transition`: the row to write, if it may be written. -/
def checkStage (config : DetectorConfig) (healthy : Bool) (request : ReassessmentRequest)
    (checkpoint : SignalCheckpoint) : Except String StateRow :=
  match checkpoint.pending with
  | none => .ok ⟨⟨checkpoint.committedHealth, some (healthy, request)⟩, config.observedAt⟩
  | some _ => .error "detector transition is already pending"

/-- The check of `complete_transition`. -/
def checkComplete (config : DetectorConfig) (requestId : String)
    (checkpoint : SignalCheckpoint) : Except String StateRow :=
  match checkpoint.pending with
  | some (healthy, request) =>
    if request.requestId = requestId then .ok ⟨⟨some healthy, none⟩, config.observedAt⟩
    else .error "detector pending transition changed before commit"
  | none => .error "detector pending transition changed before commit"

/-- What a write call checks, where it checks anything: nothing for
`record_initial_health`, whose basis is the load of the run. -/
def checkWrite (config : DetectorConfig) (loadedUnder : ResourceId → Option ℕ)
    (content : Option (StateRow × ℕ)) : Call → Option (Except String (Option ℕ × StateRow))
  | .stage resource healthy request =>
    some (do
      let checkpoint ← loadCheckpoint resource content
      let entity ← checkStage config healthy request checkpoint
      return (content.map Prod.snd, entity))
  | .complete resource requestId =>
    some (do
      let checkpoint ← loadCheckpoint resource content
      let entity ← checkComplete config requestId checkpoint
      return (content.map Prod.snd, entity))
  | .recordInitial resource =>
    some (.ok (loadedUnder resource, ⟨⟨some true, none⟩, config.observedAt⟩))
  | _ => none

/-- The resource that a call reads or writes. -/
def Call.resource : Call → ResourceId
  | .load resource => resource
  | .send request => request.targetResourceId
  | .observe resource _ => resource
  | .complete resource _ => resource
  | .stage resource _ _ => resource
  | .recordInitial resource => resource

/-- The conditional write of `_write_state`. -/
def writeState (cell : Cell StateRow) (found : Option ℕ) (entity : StateRow) :
    Option (Cell StateRow) :=
  match found with
  | none => cell.create entity
  | some etag => cell.replace etag entity

/-- The lease was acquired: the roles are validated and the run begins. -/
def startRun (config : DetectorConfig) (owner : ℕ) : Detector :=
  match validateApprovedResourceRoles config.roles with
  | .ok roles =>
    .running { config with roles } owner ⟨[], .replay roles []⟩ (fun _ => none) .ready
  | .error _ => .releasing owner

/-- The next table operation or call of a run. -/
def advanceRun (s : TableState) (i : ℕ) (healthy : Bool) (config : DetectorConfig) (owner : ℕ)
    (run : Run) (loadedUnder : ResourceId → Option ℕ) (stage : CallStage) : TableState :=
  match instruction config run with
  | .silent next => s.setDetector i (.running config owner next loadedUnder .ready)
  | .raise _ => s.setDetector i (.releasing owner)
  | .return _ => s.setDetector i (.releasing owner)
  | .call (.load resource) next =>
    match loadCheckpoint resource (s.rows resource).content with
    | .error _ => s.setDetector i (.releasing owner)
    | .ok checkpoint =>
      let basis := if checkpoint.pending.isNone then
        Function.update loadedUnder resource ((s.rows resource).content.map Prod.snd)
        else loadedUnder
      s.setDetector i (.running config owner (next checkpoint) basis .ready)
  | .call (.observe _ _) next =>
    s.setDetector i (.running config owner (next healthy) loadedUnder .ready)
  | .call (.send request) next =>
    { s with sent := s.sent ++ [request] }.setDetector i
      (.running config owner (next ()) loadedUnder .ready)
  | .call (.stage resource h request) next =>
    advanceWrite (.stage resource h request) (next ()) (some i)
  | .call (.complete resource requestId) next =>
    advanceWrite (.complete resource requestId) (next ()) none
  | .call (.recordInitial resource) next =>
    advanceWrite (.recordInitial resource) (next ()) none
where
  /-- The three operations of a write call. -/
  advanceWrite (c : Call) (next : Run) (stager : Option ℕ) : TableState :=
    let cell := s.rows (Call.resource c)
    match stage with
    | .ready =>
      match checkWrite config loadedUnder cell.content c with
      | some (.ok (basis, entity)) =>
        s.setDetector i (.running config owner run loadedUnder (.checked basis entity))
      | _ => s.setDetector i (.releasing owner)
    | .checked basis entity =>
      s.setDetector i (.running config owner run loadedUnder
        (.reread basis (cell.content.map Prod.snd) entity))
    | .reread _ found entity =>
      match writeState cell found entity with
      | some written =>
        { s with
          rows := Function.update s.rows (Call.resource c) written
          stager := Function.update s.stager (Call.resource c)
            (stager.getD (s.stager (Call.resource c))) }.setDetector i
          (.running config owner next loadedUnder .ready)
      | none => s.setDetector i (.releasing owner)

/-- One step. -/
def step (s : TableState) : TableAction → Option TableState
  | .acquire i config owner =>
    match s.detectors i with
    | .idle =>
      let lease : RunLease := ⟨owner, unixSeconds config.observedAt + runLeaseSeconds⟩
      match s.lease.create lease with
      | some written => some ({ s with lease := written }.setDetector i (startRun config owner))
      | none => some (s.setDetector i (.acquiring config owner))
    | _ => none
  | .stop i => some (s.setDetector i .idle)
  | .advance i healthy =>
    match s.detectors i with
    | .idle => none
    | .acquiring config owner =>
      match s.lease.content with
      | none => some (s.setDetector i .idle)
      | some (lease, etag) =>
        if unixSeconds config.observedAt < lease.expiresUnix then some (s.setDetector i .idle)
        else some (s.setDetector i (.claiming config owner etag))
    | .claiming config owner etag =>
      match s.lease.replace etag ⟨owner, unixSeconds config.observedAt + runLeaseSeconds⟩ with
      | some written => some ({ s with lease := written }.setDetector i (startRun config owner))
      | none => some (s.setDetector i .idle)
    | .running config owner run loadedUnder stage =>
      some (advanceRun s i healthy config owner run loadedUnder stage)
    | .releasing owner =>
      match s.lease.content with
      | some (lease, etag) =>
        if lease.owner = owner then some (s.setDetector i (.deleting etag))
        else some (s.setDetector i .idle)
      | none => some (s.setDetector i .idle)
    | .deleting etag =>
      match s.lease.delete etag with
      | some written => some ({ s with lease := written }.setDetector i .idle)
      | none => some (s.setDetector i .idle)

/-- An empty table and idle detectors. -/
def initial : TableState :=
  ⟨Cell.empty, fun _ => Cell.empty, [], fun _ => 0, fun _ => .idle⟩

/-- Detectors over one table. -/
def system : TransitionSystem TableState TableAction := ofStep initial step

/-! ## Rows that another run is deciding on -/

/-- The pending transition of a row. -/
def pendingOf (s : TableState) (resource : ResourceId) : Option (Bool × ReassessmentRequest) :=
  (s.rows resource).content.bind fun entry => entry.1.checkpoint.pending

/-- The version of a row, if there is one. -/
def version (cell : Cell StateRow) : Option ℕ := cell.content.map Prod.snd

/-- The request that a run has sent and is completing. -/
def completing? : RunPhase → Option (ResourceId × ReassessmentRequest)
  | .recommit resource request _ _ => some (resource, request)
  | .commit resource request _ => some (resource, request)
  | _ => none

/-- The version that a write call's decision was based on. -/
def CallStage.basis? : CallStage → Option (Option ℕ)
  | .ready => none
  | .checked basis _ => some basis
  | .reread basis _ _ => some basis

/-- Without a committed health, a healthy observation is recorded as the first one. -/
def isBaseline (loaded : Loaded) (resource : ResourceId) (healthy : Bool) : Bool :=
  healthy && (loadedCheckpoint loaded resource).any fun c => c.committedHealth.isNone

/-- The observed resources among these that are to be recorded as healthy. -/
def baselines (loaded : Loaded) (observations : List ApprovedSignalObservation) :
    List ResourceId :=
  (observations.filter fun o => isBaseline loaded o.resourceId o.healthy).map (·.resourceId)

/-- The resources whose first health a run is going to record. -/
def recording : RunPhase → List ResourceId
  | .observe _ loaded observations => baselines loaded observations
  | .stage observations loaded initialHealthy _ => initialHealthy ++ baselines loaded observations
  | .record initialHealthy _ => initialHealthy
  | _ => []

/-- The resource of the call that a run makes next. -/
def nextResource (config : DetectorConfig) (run : Run) : Option ResourceId :=
  match instruction config run with
  | .call c _ => some (Call.resource c)
  | _ => none

/-- Whether a detector has read the row of a resource for a decision and is to
read it anew before it writes. -/
def Detector.holds (resource : ResourceId) : Detector → Bool
  | .running config _ run _ stage =>
    match stage with
    | .ready => decide (resource ∈ recording run.phase)
    | .checked _ _ =>
      decide (nextResource config run = some resource ∨ resource ∈ recording run.phase)
    | .reread _ _ _ =>
      decide (nextResource config run ≠ some resource ∧ resource ∈ recording run.phase)
  | _ => false

/-- The row that a detector's next step writes, when the table accepts the write. -/
def writtenRow (s : TableState) : Detector → Option ResourceId
  | .running config _ run _ (.reread _ found entity) =>
    (nextResource config run).filter fun resource =>
      (writeState (s.rows resource) found entity).isSome
  | _ => none

/-- The resource that an observation puts on the record list of a run. -/
def newBaseline (healthy : Bool) : Detector → Option (ResourceId × Option ℕ)
  | .running _ _ run loadedUnder _ =>
    match run.phase with
    | .observe ((resource, _) :: _) loaded _ =>
      if isBaseline loaded resource healthy then some (resource, loadedUnder resource) else none
    | _ => none
  | _ => none

/-- A pending request with the identifier of the completed one is that request. -/
def sameRequest (s : TableState) : Detector → Bool
  | .running _ _ run _ _ =>
    match completing? run.phase with
    | none => true
    | some (resource, request) =>
      match pendingOf s resource with
      | none => true
      | some (_, q) => q.requestId != request.requestId || q == request
  | _ => true

/-- What others leave alone at a step of a detector: a row is not written while
another detector is between its two reads of it, and the first health of a
resource is observed before anyone has written the row that was loaded. -/
structure Undisturbed (s : TableState) (i : ℕ) (healthy : Bool) : Prop where
  writes : ∀ resource, writtenRow s (s.detectors i) = some resource →
    ∀ j, j ≠ i → (s.detectors j).holds resource = false
  baseline : ∀ resource loaded, newBaseline healthy (s.detectors i) = some (resource, loaded) →
    version (s.rows resource) = loaded
  requests : sameRequest s (s.detectors i) = true

/-- The condition of a step; only a detector's own operations are concerned. -/
def undisturbed (s : TableState) : TableAction → Prop
  | .advance i healthy => Undisturbed s i healthy
  | _ => True

/-- A version under which a row was read with no pending request, or with one
that was sent. -/
def Basis (cell : Cell StateRow) (sent : List ReassessmentRequest) (basis : Option ℕ) : Prop :=
  ∀ etag, basis = some etag → ∃ copy : StateRow, cell.Remembers (copy, etag) ∧
    ∀ healthy q, copy.checkpoint.pending = some (healthy, q) → q ∈ sent

/-- What a detector relies on. -/
def DetectorInvariant (rows : ResourceId → Cell StateRow) (sent : List ReassessmentRequest) :
    Detector → Prop
  | .running config _ run loadedUnder stage =>
    (∀ resource, Basis (rows resource) sent (loadedUnder resource)) ∧
      (∀ resource request, completing? run.phase = some (resource, request) → request ∈ sent) ∧
      ∀ basis, stage.basis? = some basis → ∀ c next, instruction config run = .call c next →
        Basis (rows (Call.resource c)) sent basis
  | _ => True

/-- The invariant of the table and all detectors. -/
structure Invariant (s : TableState) : Prop where
  valid : ∀ resource, (s.rows resource).Valid
  detectors : ∀ i, DetectorInvariant s.rows s.sent (s.detectors i)

/-- The resources that a run still has before it. -/
def upcoming : RunPhase → List ResourceId
  | .observe todo _ observations => observations.map (·.resourceId) ++ todo.map Prod.fst
  | .stage observations _ initialHealthy _ => initialHealthy ++ observations.map (·.resourceId)
  | .record initialHealthy _ => initialHealthy
  | _ => []

/-- What a detector holds is still at the version that it was read under. -/
def Current (rows : ResourceId → Cell StateRow) : Detector → Prop
  | .running config owner run loadedUnder stage =>
    (config.roles.map Prod.fst).Nodup ∧ (upcoming run.phase).Nodup ∧
      (∀ resource ∈ recording run.phase,
        (Detector.running config owner run loadedUnder stage).holds resource = true →
          version (rows resource) = loadedUnder resource) ∧
      (∀ basis entity, stage = .checked basis entity → ∀ resource,
        nextResource config run = some resource → version (rows resource) = basis) ∧
      ∀ basis found entity, stage = .reread basis found entity → found = basis
  | _ => True

/-- The table is as every detector relies on it to be. -/
structure Steady (s : TableState) : Prop where
  invariant : Invariant s
  current : ∀ i, Current s.rows (s.detectors i)

/-- A detector that makes no run, or begins one. -/
def Fresh : Detector → Prop
  | .running config _ run loadedUnder stage =>
    (config.roles.map Prod.fst).Nodup ∧ run.phase = .replay config.roles [] ∧
      loadedUnder = (fun _ => none) ∧ stage = .ready
  | _ => True

/-- Rows were left, created or replaced, and more requests sent. -/
structure Extends (s t : TableState) : Prop where
  rows : ∀ resource, Cell.Evolves (s.rows resource) (t.rows resource)
  sent : ∀ r ∈ s.sent, r ∈ t.sent

section Invariant

variable {s t : TableState} {i : ℕ} {d : Detector}

theorem Extends.refl (s : TableState) : Extends s s :=
  ⟨fun _ => .same, fun _ hr => hr⟩

theorem Basis.extend {resource : ResourceId} {basis : Option ℕ} (he : Extends s t)
    (h : Basis (s.rows resource) s.sent basis) : Basis (t.rows resource) t.sent basis := by
  intro etag hetag
  obtain ⟨copy, hr, hsent⟩ := h etag hetag
  exact ⟨copy, (he.rows resource).remembers hr, fun healthy q hq => he.sent q (hsent healthy q hq)⟩

theorem DetectorInvariant.extend (he : Extends s t) (h : DetectorInvariant s.rows s.sent d) :
    DetectorInvariant t.rows t.sent d := by
  cases d with
  | running config owner run loadedUnder stage =>
    obtain ⟨hloaded, hcompleting, hbasis⟩ := h
    exact ⟨fun resource => (hloaded resource).extend he,
      fun resource request hr => he.sent request (hcompleting resource request hr),
      fun basis hb c next hc => (hbasis basis hb c next hc).extend he⟩
  | idle => trivial
  | acquiring config owner => trivial
  | claiming config owner etag => trivial
  | releasing owner => trivial
  | deleting etag => trivial

/-- One detector moves while the table extends. -/
theorem Invariant.set (hi : Invariant s) (he : Extends s t) (hsame : t.detectors = s.detectors)
    (hd : DetectorInvariant t.rows t.sent d) : Invariant (t.setDetector i d) := by
  refine ⟨fun resource => (he.rows resource).valid (hi.valid resource), fun j => ?_⟩
  by_cases hj : j = i
  · subst hj
    simpa only [TableState.setDetector, Function.update_self] using hd
  · have hold : DetectorInvariant t.rows t.sent (s.detectors j) := (hi.detectors j).extend he
    rw [← hsame] at hold
    simpa only [TableState.setDetector, Function.update_of_ne hj] using hold

/-- The request that a completing call is about. -/
theorem complete_completing {config : DetectorConfig} {run : Run} {resource : ResourceId}
    {requestId : String} {next : Unit → Run}
    (h : instruction config run = .call (.complete resource requestId) next) :
    ∃ request, completing? run.phase = some (resource, request) ∧
      request.requestId = requestId := by
  obtain ⟨sent, phase⟩ := run
  cases instruction_calls h with
  | recommit _ request todo loaded => exact ⟨request, rfl, rfl⟩
  | commit _ request rest => exact ⟨request, rfl, rfl⟩

/-- A run completes only the request that it has just sent. -/
theorem call_completing {config : DetectorConfig} {run : Run} {c : Call} {next : c.Reply → Run}
    (h : instruction config run = .call c next) (answer : c.Reply) {resource : ResourceId}
    {request : ReassessmentRequest}
    (hr : completing? (next answer).phase = some (resource, request)) : c = .send request := by
  obtain ⟨sent, phase⟩ := run
  cases instruction_calls h with
  | resend resource' request' todo loaded =>
    cases hr
    rfl
  | send resource' request' rest =>
    cases hr
    rfl
  | load resource' role todo loaded =>
    dsimp only at hr
    split at hr <;> cases hr
  | recommit resource' request' todo loaded => cases hr
  | commit resource' request' rest => cases hr
  | observe resource' role todo loaded observations => cases hr
  | stage o rest loaded initialHealthy pending request' => cases hr
  | record resource' rest pending => cases hr

theorem silent_completing {config : DetectorConfig} {run next : Run}
    (h : instruction config run = .silent next) : completing? next.phase = none := by
  obtain ⟨sent, phase⟩ := run
  obtain ⟨sent', phase'⟩ := next
  cases instruction_silent h <;> rfl

/-- A loaded row without a pending request, or the absent row, is a basis. -/
theorem basis_of_content {cell : Cell StateRow} {sent : List ReassessmentRequest}
    (hv : cell.Valid)
    (hp : ∀ row etag healthy q, cell.content = some (row, etag) →
      row.checkpoint.pending = some (healthy, q) → q ∈ sent) :
    Basis cell sent (cell.content.map Prod.snd) := by
  intro etag he
  obtain ⟨⟨row, etag'⟩, hc, rfl⟩ := Option.map_eq_some_iff.mp he
  exact ⟨row, Cell.remembers_read hv hc, fun healthy q hq => hp row etag' healthy q hc hq⟩

/-- A successful load returns the checkpoint of the row. -/
theorem loadCheckpoint_ok {resource : ResourceId} {content : Option (StateRow × ℕ)}
    {checkpoint : SignalCheckpoint} (h : loadCheckpoint resource content = .ok checkpoint) :
    ∀ row etag, content = some (row, etag) → row.checkpoint = checkpoint := by
  intro row etag hc
  subst hc
  simp only [loadCheckpoint] at h
  split at h
  · exact Except.ok.inj h
  · split at h
    · exact Except.ok.inj h
    · cases h

/-- The version on which a write call is decided is a basis: `stage` needs a row
without a pending request, `complete` a pending request that was sent, and
`recordInitial` takes the version of the run's load. -/
theorem checkWrite_basis {config : DetectorConfig} {run : Run} {loadedUnder : ResourceId → Option ℕ}
    {c : Call} {next : c.Reply → Run} {basis : Option ℕ} {entity : StateRow}
    (hv : ∀ resource, (s.rows resource).Valid)
    (hloaded : ∀ resource, Basis (s.rows resource) s.sent (loadedUnder resource))
    (hcompleting : ∀ resource request, completing? run.phase = some (resource, request) →
      request ∈ s.sent)
    (hsame : ∀ resource request, completing? run.phase = some (resource, request) →
      ∀ healthy q, pendingOf s resource = some (healthy, q) →
        q.requestId = request.requestId → q = request)
    (hc : instruction config run = .call c next)
    (h : checkWrite config loadedUnder (s.rows (Call.resource c)).content c =
      some (.ok (basis, entity))) :
    Basis (s.rows (Call.resource c)) s.sent basis := by
  cases c with
  | load resource => cases h
  | send request => cases h
  | observe resource role => cases h
  | stage resource healthy request =>
    simp only [checkWrite, Option.some.injEq] at h
    obtain ⟨checkpoint, hload, h⟩ := bind_eq_ok.mp h
    obtain ⟨entity', hcheck, h⟩ := bind_eq_ok.mp h
    cases h
    refine basis_of_content (hv resource) fun row etag h' q hrow hq => ?_
    rw [loadCheckpoint_ok hload row etag hrow] at hq
    simp only [checkStage, hq] at hcheck
    cases hcheck
  | complete resource requestId =>
    simp only [checkWrite, Option.some.injEq] at h
    obtain ⟨checkpoint, hload, h⟩ := bind_eq_ok.mp h
    obtain ⟨entity', hcheck, h⟩ := bind_eq_ok.mp h
    cases h
    obtain ⟨request, hrequest, hid⟩ := complete_completing hc
    refine basis_of_content (hv resource) fun row etag h' q hrow hq => ?_
    have hpending : pendingOf s resource = some (h', q) := by
      have hrow' : (s.rows resource).content = some (row, etag) := hrow
      rw [pendingOf, hrow']
      exact hq
    rw [loadCheckpoint_ok hload row etag hrow] at hq
    simp only [checkComplete, hq] at hcheck
    split at hcheck
    · rename_i hq'
      have heq := hsame resource request hrequest h' q hpending (hq'.trans hid.symm)
      rw [heq]
      exact hcompleting resource request hrequest
    · cases hcheck
  | recordInitial resource =>
    simp only [checkWrite] at h
    cases h
    exact hloaded resource

/-- A conditional write under a basis replaces a row without a pending request,
or with one that was sent. -/
theorem writeState_basis {cell written : Cell StateRow} {sent : List ReassessmentRequest}
    {basis : Option ℕ} {entity : StateRow} (hb : Basis cell sent basis)
    (h : writeState cell basis entity = some written) :
    Cell.Evolves cell written ∧ ∀ row etag healthy q, cell.content = some (row, etag) →
      row.checkpoint.pending = some (healthy, q) → q ∈ sent := by
  unfold writeState at h
  cases basis with
  | none =>
    refine ⟨.created h, fun row etag healthy q hrow => ?_⟩
    rw [(Cell.create_some h).1] at hrow
    cases hrow
  | some e =>
    obtain ⟨copy, hr, hsent⟩ := hb e rfl
    refine ⟨.replaced h, fun row etag healthy q hrow hq => ?_⟩
    have hcontent := hr.replaced h
    rw [hrow] at hcontent
    cases hcontent
    exact hsent healthy q hq

/-- A row's pending request is still there, or was sent. -/
def PendingKept (s t : TableState) : Prop :=
  ∀ resource healthy q, pendingOf s resource = some (healthy, q) →
    pendingOf t resource = some (healthy, q) ∨ q ∈ s.sent

theorem PendingKept.of_rows (h : t.rows = s.rows) : PendingKept s t := by
  intro resource healthy q hp
  left
  rw [pendingOf, h]
  exact hp

/-- The operations of a write call, each on the version that was decided on. -/
theorem advanceWrite_spec {config : DetectorConfig} {owner : ℕ} {run : Run}
    {loadedUnder : ResourceId → Option ℕ} {stage : CallStage} {c : Call} {next : c.Reply → Run}
    {answer : c.Reply} {stager : Option ℕ} (hi : Invariant s)
    (hd : DetectorInvariant s.rows s.sent (.running config owner run loadedUnder stage))
    (hversion : ∀ basis found entity, stage = .reread basis found entity → found = basis)
    (hsame : ∀ resource request, completing? run.phase = some (resource, request) →
      ∀ healthy q, pendingOf s resource = some (healthy, q) →
        q.requestId = request.requestId → q = request)
    (hc : instruction config run = .call c next)
    (hnext : ∀ resource request,
      completing? (next answer).phase ≠ some (resource, request)) :
    Invariant (advanceRun.advanceWrite s i config owner run loadedUnder stage c (next answer)
      stager) ∧
    PendingKept s (advanceRun.advanceWrite s i config owner run loadedUnder stage c (next answer)
      stager) := by
  obtain ⟨hloaded, hcompleting, hbasis⟩ := hd
  unfold advanceRun.advanceWrite
  dsimp only
  cases stage with
  | ready =>
    dsimp only
    split
    · rename_i basis entity hcheck
      have hnew : Basis (s.rows (Call.resource c)) s.sent basis :=
        checkWrite_basis hi.valid hloaded hcompleting hsame hc hcheck
      refine ⟨hi.set (.refl s) rfl ⟨hloaded, hcompleting, fun b hb c' next' hc' => ?_⟩,
        .of_rows rfl⟩
      rw [hc] at hc'
      cases hc'
      cases hb
      exact hnew
    · exact ⟨hi.set (.refl s) rfl trivial, .of_rows rfl⟩
  | checked basis entity =>
    exact ⟨hi.set (.refl s) rfl ⟨hloaded, hcompleting, fun b hb => hbasis b hb⟩, .of_rows rfl⟩
  | reread basis found entity =>
    have hb := hbasis basis rfl c next hc
    have hfound := hversion basis found entity rfl
    subst hfound
    dsimp only
    split
    · rename_i written hw
      obtain ⟨hgrows, hsent⟩ := writeState_basis hb hw
      have hextends : Extends s { s with
          rows := Function.update s.rows (Call.resource c) written
          stager := Function.update s.stager (Call.resource c)
            (stager.getD (s.stager (Call.resource c))) } := by
        refine ⟨fun resource => ?_, fun r hr => hr⟩
        by_cases hres : resource = Call.resource c
        · subst hres
          simpa only [Function.update_self] using hgrows
        · simpa only [Function.update_of_ne hres] using Cell.Evolves.same
      refine ⟨hi.set hextends rfl ⟨fun resource => (hloaded resource).extend hextends,
        fun resource request hr => absurd hr (hnext resource request), fun b hb' => ?_⟩, ?_⟩
      · cases hb'
      · intro resource healthy q hp
        by_cases hres : resource = Call.resource c
        · subst hres
          right
          obtain ⟨⟨row, etag⟩, hrow, hq⟩ := Option.bind_eq_some_iff.mp hp
          exact hsent row etag healthy q hrow hq
        · left
          simpa only [pendingOf, TableState.setDetector, Function.update_of_ne hres] using hp
    · exact ⟨hi.set (.refl s) rfl trivial, .of_rows rfl⟩

/-- The next operation of a run keeps the invariant and every unsent request. -/
theorem advanceRun_spec {healthy : Bool} {config : DetectorConfig} {owner : ℕ} {run : Run}
    {loadedUnder : ResourceId → Option ℕ} {stage : CallStage} (hi : Invariant s)
    (hd : DetectorInvariant s.rows s.sent (.running config owner run loadedUnder stage))
    (hversion : ∀ basis found entity, stage = .reread basis found entity → found = basis)
    (hsame : ∀ resource request, completing? run.phase = some (resource, request) →
      ∀ healthy q, pendingOf s resource = some (healthy, q) →
        q.requestId = request.requestId → q = request) :
    Invariant (advanceRun s i healthy config owner run loadedUnder stage) ∧
      PendingKept s (advanceRun s i healthy config owner run loadedUnder stage) := by
  obtain ⟨hloaded, hcompleting, hbasis⟩ := hd
  unfold advanceRun
  split
  · rename_i next hc
    refine ⟨hi.set (.refl s) rfl ⟨hloaded, fun resource request hr => ?_, fun b hb => ?_⟩,
      .of_rows rfl⟩
    · rw [silent_completing hc] at hr
      cases hr
    · cases hb
  · exact ⟨hi.set (.refl s) rfl trivial, .of_rows rfl⟩
  · exact ⟨hi.set (.refl s) rfl trivial, .of_rows rfl⟩
  · rename_i resource next hc
    split
    · exact ⟨hi.set (.refl s) rfl trivial, .of_rows rfl⟩
    · rename_i checkpoint hload
      refine ⟨hi.set (.refl s) rfl ⟨fun r => ?_, fun r request hr => ?_, fun b hb => ?_⟩,
        .of_rows rfl⟩
      · split
        · rename_i hnone
          by_cases hr : r = resource
          · subst hr
            rw [Function.update_self]
            refine basis_of_content (hi.valid r) fun row etag h q hrow hq => ?_
            rw [loadCheckpoint_ok hload row etag hrow, Option.isNone_iff_eq_none.mp hnone] at hq
            cases hq
          · rw [Function.update_of_ne hr]
            exact hloaded r
        · exact hloaded r
      · have hsend := call_completing hc checkpoint hr
        cases hsend
      · cases hb
  · rename_i resource role next hc
    refine ⟨hi.set (.refl s) rfl ⟨hloaded, fun r request hr => ?_, fun b hb => ?_⟩, .of_rows rfl⟩
    · have hsend := call_completing hc healthy hr
      cases hsend
    · cases hb
  · rename_i request next hc
    have hextends : Extends s { s with sent := s.sent ++ [request] } :=
      ⟨fun _ => .same, fun r hr => List.mem_append_left _ hr⟩
    refine ⟨hi.set hextends rfl ⟨fun r => (hloaded r).extend hextends,
      fun r q hr => ?_, fun b hb => ?_⟩, .of_rows rfl⟩
    · have hsend := call_completing hc () hr
      cases hsend
      exact List.mem_append_right _ List.mem_cons_self
    · cases hb
  · rename_i resource h request next hc
    refine advanceWrite_spec hi ⟨hloaded, hcompleting, hbasis⟩ hversion hsame hc ?_
    intro r q hr
    have hsend := call_completing hc () hr
    cases hsend
  · rename_i resource requestId next hc
    refine advanceWrite_spec hi ⟨hloaded, hcompleting, hbasis⟩ hversion hsame hc ?_
    intro r q hr
    have hsend := call_completing hc () hr
    cases hsend
  · rename_i resource next hc
    refine advanceWrite_spec hi ⟨hloaded, hcompleting, hbasis⟩ hversion hsame hc ?_
    intro r q hr
    have hsend := call_completing hc () hr
    cases hsend

theorem invariant_initial : Invariant initial :=
  ⟨fun _ => Cell.valid_empty, fun _ => trivial⟩

theorem startRun_fresh (config : DetectorConfig) (owner : ℕ) : Fresh (startRun config owner) := by
  unfold startRun
  split
  · rename_i roles hroles
    exact ⟨validateApprovedResourceRoles_ok hroles, rfl, rfl, rfl⟩
  · trivial

/-- A detector that makes no run, or begins one, relies on nothing yet. -/
theorem Fresh.invariant (h : Fresh d) (rows : ResourceId → Cell StateRow)
    (sent : List ReassessmentRequest) : DetectorInvariant rows sent d := by
  cases d with
  | running config owner run loadedUnder stage =>
    obtain ⟨-, hphase, rfl, rfl⟩ := h
    refine ⟨fun resource etag he => ?_, fun resource request hr => ?_, fun b hb => ?_⟩
    · cases he
    · rw [hphase] at hr
      cases hr
    · cases hb
  | idle => trivial
  | acquiring config owner => trivial
  | claiming config owner etag => trivial
  | releasing owner => trivial
  | deleting etag => trivial

/-- A step either leaves the rows alone and its detector makes no run or begins
one, or it is the next operation of a run under way. -/
theorem step_cases {a : TableAction} (h : step s a = some t) :
    (∃ lease d, t = { s with lease }.setDetector a.detector d ∧ Fresh d) ∨
      ∃ i healthy config owner run loadedUnder stage, a = .advance i healthy ∧
        s.detectors i = .running config owner run loadedUnder stage ∧
        t = advanceRun s i healthy config owner run loadedUnder stage := by
  cases a with
  | acquire i config owner =>
    simp only [step] at h
    split at h
    · split at h
      · rename_i written hw
        cases h
        exact .inl ⟨written, _, rfl, (startRun_fresh config owner)⟩
      · cases h
        exact .inl ⟨s.lease, (.acquiring config owner), rfl, trivial⟩
    · cases h
  | stop i =>
    cases h
    exact .inl ⟨s.lease, .idle, rfl, trivial⟩
  | advance i healthy =>
    simp only [step] at h
    split at h
    · cases h
    · split at h
      · cases h
        exact .inl ⟨s.lease, .idle, rfl, trivial⟩
      · split at h
        · cases h
          exact .inl ⟨s.lease, .idle, rfl, trivial⟩
        · cases h
          exact .inl ⟨s.lease, (.claiming _ _ _), rfl, trivial⟩
    · split at h
      · rename_i written hw
        cases h
        exact .inl ⟨written, _, rfl, (startRun_fresh _ _)⟩
      · cases h
        exact .inl ⟨s.lease, .idle, rfl, trivial⟩
    · rename_i config owner run loadedUnder stage hrun
      cases h
      exact .inr ⟨i, healthy, config, owner, run, loadedUnder, stage, rfl, hrun, rfl⟩
    · split at h
      · split at h
        · cases h
          exact .inl ⟨s.lease, (.deleting _), rfl, trivial⟩
        · cases h
          exact .inl ⟨s.lease, .idle, rfl, trivial⟩
      · cases h
        exact .inl ⟨s.lease, .idle, rfl, trivial⟩
    · split at h
      · rename_i written hw
        cases h
        exact .inl ⟨written, .idle, rfl, trivial⟩
      · cases h
        exact .inl ⟨s.lease, .idle, rfl, trivial⟩

/-- Of one request identifier there is one pending request. -/
theorem sameRequest_running {config : DetectorConfig} {owner : ℕ} {run : Run}
    {loadedUnder : ResourceId → Option ℕ} {stage : CallStage}
    (h : sameRequest s (.running config owner run loadedUnder stage) = true) :
    ∀ resource request, completing? run.phase = some (resource, request) →
      ∀ healthy q, pendingOf s resource = some (healthy, q) →
        q.requestId = request.requestId → q = request := by
  intro resource request hr b q hq hid
  simp only [sameRequest, hr, hq] at h
  simpa [hid] using h

/-! ## What a detector holds stays at its version -/

/-- What a detector holds does not depend on rows that it does not hold. -/
theorem Current.frame {rows rows' : ResourceId → Cell StateRow} (h : Current rows d)
    (hsame : ∀ resource, d.holds resource = true → version (rows' resource) = version (rows resource)) :
    Current rows' d := by
  cases d with
  | running config owner run loadedUnder stage =>
    obtain ⟨hroles, hnodup, hrecording, hchecked, hreread⟩ := h
    refine ⟨hroles, hnodup, fun resource hr hh => ?_, fun basis entity hs resource hn => ?_, hreread⟩
    · rw [hsame resource hh]
      exact hrecording resource hr hh
    · rw [hsame resource (by simp [Detector.holds, hs, hn])]
      exact hchecked basis entity hs resource hn
  | idle => trivial
  | acquiring config owner => trivial
  | claiming config owner etag => trivial
  | releasing owner => trivial
  | deleting etag => trivial

theorem Fresh.current (h : Fresh d) (rows : ResourceId → Cell StateRow) : Current rows d := by
  cases d with
  | running config owner run loadedUnder stage =>
    obtain ⟨hroles, hphase, rfl, rfl⟩ := h
    refine ⟨hroles, by simp [hphase, upcoming], fun resource hr => ?_, fun basis entity hs => ?_,
      fun basis found entity hs => ?_⟩
    · rw [hphase] at hr
      cases hr
    · cases hs
    · cases hs
  | idle => trivial
  | acquiring config owner => trivial
  | claiming config owner etag => trivial
  | releasing owner => trivial
  | deleting etag => trivial

/-- One detector moves, and the rows that others hold keep their versions. -/
theorem current_set (hi : ∀ j, Current s.rows (s.detectors j)) (hsame : t.detectors = s.detectors)
    (hrows : ∀ j, j ≠ i → ∀ resource, (s.detectors j).holds resource = true →
      version (t.rows resource) = version (s.rows resource))
    (hd : Current t.rows d) : ∀ j, Current (t.setDetector i d).rows ((t.setDetector i d).detectors j) := by
  intro j
  by_cases hj : j = i
  · subst hj
    simpa only [TableState.setDetector, Function.update_self] using hd
  · have hold := (hi j).frame (hrows j hj)
    rw [← hsame] at hold
    simpa only [TableState.setDetector, Function.update_of_ne hj] using hold

theorem mem_baselines {loaded : Loaded} {observations : List ApprovedSignalObservation}
    {resource : ResourceId} : resource ∈ baselines loaded observations ↔
      ∃ o ∈ observations, isBaseline loaded o.resourceId o.healthy = true ∧
        o.resourceId = resource := by
  simp only [baselines, List.mem_map, List.mem_filter, and_assoc]

theorem baselines_cons_of_mem {loaded : Loaded} {o : ApprovedSignalObservation}
    {rest : List ApprovedSignalObservation} {resource : ResourceId}
    (h : resource ∈ baselines loaded rest) : resource ∈ baselines loaded (o :: rest) := by
  obtain ⟨o', ho', hb, hr⟩ := mem_baselines.mp h
  exact mem_baselines.mpr ⟨o', List.mem_cons_of_mem _ ho', hb, hr⟩

theorem baselines_subset {loaded : Loaded} {observations : List ApprovedSignalObservation}
    {resource : ResourceId} (h : resource ∈ baselines loaded observations) :
    resource ∈ observations.map (·.resourceId) := by
  obtain ⟨o, ho, -, rfl⟩ := mem_baselines.mp h
  exact List.mem_map_of_mem ho

/-- A silent step keeps the coming resources distinct and records no more of them. -/
theorem silent_recording {config : DetectorConfig} {run next : Run}
    (hroles : (config.roles.map Prod.fst).Nodup) (hn : (upcoming run.phase).Nodup)
    (h : instruction config run = .silent next) :
    (upcoming next.phase).Nodup ∧
      ∀ resource ∈ recording next.phase, resource ∈ recording run.phase := by
  obtain ⟨sent, phase⟩ := run
  obtain ⟨sent', phase'⟩ := next
  cases instruction_silent h with
  | replayed loaded => exact ⟨by simpa [upcoming] using hroles, fun r hr => by cases hr⟩
  | bound resource role healthy request todo loaded =>
    exact ⟨List.nodup_nil, fun r hr => by cases hr⟩
  | observed loaded observations => exact ⟨by simpa [upcoming] using hn, fun r hr => hr⟩
  | skipped resource role todo loaded observations =>
    exact ⟨hn.sublist (List.Sublist.append_left (List.sublist_cons_self _ _) _), fun r hr => hr⟩
  | staged loaded initialHealthy pending =>
    exact ⟨by simpa [upcoming] using hn, fun r hr => List.mem_append_left _ hr⟩
  | baseline o rest loaded initialHealthy pending checkpoint hc hnone hhealthy =>
    refine ⟨by simpa [upcoming] using hn, fun r hr => ?_⟩
    have ho : o.resourceId ∈ baselines loaded (o :: rest) :=
      mem_baselines.mpr ⟨o, List.mem_cons_self, by simp [isBaseline, hhealthy, hc, hnone], rfl⟩
    simp only [recording, List.mem_append, List.mem_singleton] at hr ⊢
    rcases hr with (hr | rfl) | hr
    · exact .inl hr
    · exact .inr ho
    · exact .inr (baselines_cons_of_mem hr)
  | unchanged o rest loaded initialHealthy pending =>
    refine ⟨hn.sublist (List.Sublist.append_left (List.sublist_cons_self _ _) _), fun r hr => ?_⟩
    simp only [recording, List.mem_append] at hr ⊢
    exact hr.imp_right baselines_cons_of_mem
  | recorded pending => exact ⟨List.nodup_nil, fun r hr => by cases hr⟩

/-- A call other than an observation records no more resources, and its own no longer. -/
theorem call_recording {config : DetectorConfig} {run : Run} {c : Call} {next : c.Reply → Run}
    (hn : (upcoming run.phase).Nodup) (h : instruction config run = .call c next)
    (hobs : ∀ resource role, c ≠ .observe resource role) (answer : c.Reply) :
    (upcoming (next answer).phase).Nodup ∧ ∀ resource ∈ recording (next answer).phase,
      resource ≠ Call.resource c ∧ resource ∈ recording run.phase := by
  obtain ⟨sent, phase⟩ := run
  cases instruction_calls h with
  | load resource role todo loaded =>
    dsimp only
    split <;> exact ⟨List.nodup_nil, fun r hr => by cases hr⟩
  | resend resource request todo loaded => exact ⟨List.nodup_nil, fun r hr => by cases hr⟩
  | recommit resource request todo loaded => exact ⟨List.nodup_nil, fun r hr => by cases hr⟩
  | send resource request rest => exact ⟨List.nodup_nil, fun r hr => by cases hr⟩
  | commit resource request rest => exact ⟨List.nodup_nil, fun r hr => by cases hr⟩
  | observe resource role todo loaded observations => exact absurd rfl (hobs resource role)
  | stage o rest loaded initialHealthy pending request =>
    refine ⟨hn.sublist (List.Sublist.append_left (List.sublist_cons_self _ _) _), fun r hr => ?_⟩
    have hmiddle := List.nodup_cons.mp (List.perm_middle.nodup_iff.mp hn)
    simp only [recording, List.mem_append] at hr ⊢
    refine ⟨?_, hr.imp_right baselines_cons_of_mem⟩
    rintro rfl
    exact hmiddle.1 (List.mem_append.mpr (hr.imp_right baselines_subset))
  | record resource rest pending =>
    obtain ⟨hmem, hrest⟩ := List.nodup_cons.mp hn
    refine ⟨hrest, fun r hr => ⟨?_, List.mem_cons_of_mem _ hr⟩⟩
    rintro rfl
    exact hmem hr

/-- What an observation records anew is its resource, when it finds a first health. -/
theorem observe_recording {config : DetectorConfig} {run : Run} {resource : ResourceId}
    {role : WorkloadRole} {next : Bool → Run} (healthy : Bool) (owner : ℕ)
    (loadedUnder : ResourceId → Option ℕ) (stage : CallStage) (hn : (upcoming run.phase).Nodup)
    (h : instruction config run = .call (.observe resource role) next) :
    (upcoming (next healthy).phase).Nodup ∧ ∀ r ∈ recording (next healthy).phase,
      (r ≠ resource ∧ r ∈ recording run.phase) ∨
        newBaseline healthy (.running config owner run loadedUnder stage) =
          some (r, loadedUnder r) := by
  obtain ⟨sent, phase⟩ := run
  cases instruction_calls h with
  | observe _ _ todo loaded observations =>
    refine ⟨by simpa [upcoming] using hn, fun r hr => ?_⟩
    simp only [recording] at hr ⊢
    obtain ⟨o, ho, hb, rfl⟩ := mem_baselines.mp hr
    rcases List.mem_append.mp ho with ho | ho
    · left
      have hmiddle := List.nodup_cons.mp (List.perm_middle.nodup_iff.mp hn)
      refine ⟨?_, mem_baselines.mpr ⟨o, ho, hb, rfl⟩⟩
      intro he
      exact hmiddle.1 (List.mem_append_left _ (he ▸ List.mem_map_of_mem ho))
    · rw [List.mem_singleton.mp ho] at hb ⊢
      right
      simp only [newBaseline]
      exact if_pos hb

/-- A first health is recorded of a resource on the list. -/
theorem recordInitial_recording {config : DetectorConfig} {run : Run} {resource : ResourceId}
    {next : Unit → Run} (h : instruction config run = .call (.recordInitial resource) next) :
    resource ∈ recording run.phase := by
  obtain ⟨sent, phase⟩ := run
  cases instruction_calls h with
  | record _ rest pending => exact List.mem_cons_self

theorem nextResource_call {config : DetectorConfig} {run : Run} {c : Call} {next : c.Reply → Run}
    (h : instruction config run = .call c next) :
    nextResource config run = some (Call.resource c) := by
  rw [nextResource, h]

/-- The version that a check decides on is the row's. -/
theorem checkWrite_version {config : DetectorConfig} {run : Run}
    {loadedUnder : ResourceId → Option ℕ} {c : Call} {next : c.Reply → Run} {basis : Option ℕ}
    {entity : StateRow} {cell : Cell StateRow} (hc : instruction config run = .call c next)
    (hloaded : ∀ resource ∈ recording run.phase, resource = Call.resource c →
      version cell = loadedUnder resource)
    (h : checkWrite config loadedUnder cell.content c = some (.ok (basis, entity))) :
    version cell = basis := by
  cases c with
  | load resource => cases h
  | send request => cases h
  | observe resource role => cases h
  | stage resource healthy request =>
    simp only [checkWrite, Option.some.injEq] at h
    obtain ⟨checkpoint, hload, h⟩ := bind_eq_ok.mp h
    obtain ⟨entity', hcheck, h⟩ := bind_eq_ok.mp h
    cases h
    rfl
  | complete resource requestId =>
    simp only [checkWrite, Option.some.injEq] at h
    obtain ⟨checkpoint, hload, h⟩ := bind_eq_ok.mp h
    obtain ⟨entity', hcheck, h⟩ := bind_eq_ok.mp h
    cases h
    rfl
  | recordInitial resource =>
    simp only [checkWrite] at h
    cases h
    exact hloaded resource (recordInitial_recording hc) rfl

/-- The operations of a write call leave every detector at the versions it holds. -/
theorem advanceWrite_current {config : DetectorConfig} {owner : ℕ} {run : Run}
    {loadedUnder : ResourceId → Option ℕ} {stage : CallStage} {c : Call} {next : c.Reply → Run}
    {answer : c.Reply} {stager : Option ℕ} (hi : ∀ j, Current s.rows (s.detectors j))
    (hrun : s.detectors i = .running config owner run loadedUnder stage)
    (hwrites : ∀ resource, writtenRow s (s.detectors i) = some resource →
      ∀ j, j ≠ i → (s.detectors j).holds resource = false)
    (hc : instruction config run = .call c next)
    (hobs : ∀ resource role, c ≠ .observe resource role) :
    ∀ j, Current
      (advanceRun.advanceWrite s i config owner run loadedUnder stage c (next answer) stager).rows
      ((advanceRun.advanceWrite s i config owner run loadedUnder stage c (next answer)
        stager).detectors j) := by
  have hd := hi i
  rw [hrun] at hd
  obtain ⟨hroles, hnodup, hrecording, hchecked, hreread⟩ := hd
  have hresource := nextResource_call hc
  obtain ⟨hnext, hrest⟩ := call_recording hnodup hc hobs answer
  have hsame : ∀ j, j ≠ i → ∀ resource, (s.detectors j).holds resource = true →
      version (s.rows resource) = version (s.rows resource) := fun _ _ _ _ => rfl
  unfold advanceRun.advanceWrite
  dsimp only
  cases stage with
  | ready =>
    have hheld : ∀ resource ∈ recording run.phase, version (s.rows resource) =
        loadedUnder resource :=
      fun resource hr => hrecording resource hr (by simpa [Detector.holds] using hr)
    dsimp only
    split
    · rename_i basis entity hcheck
      have hbasis : version (s.rows (Call.resource c)) = basis :=
        checkWrite_version hc (fun resource hr he => he ▸ hheld resource hr) hcheck
      refine current_set hi rfl hsame ⟨hroles, hnodup, fun resource hr _ => hheld resource hr,
        fun b e hb resource hr => ?_, fun b f e hb => ?_⟩
      · cases hb
        rw [hresource] at hr
        cases hr
        exact hbasis
      · cases hb
    · exact current_set hi rfl hsame trivial
  | checked basis entity =>
    refine current_set hi rfl hsame ⟨hroles, hnodup, fun resource hr hh => ?_,
      fun b e hb => ?_, fun b f e hb => ?_⟩
    · exact hrecording resource hr (by simp [Detector.holds, hr])
    · cases hb
    · cases hb
      exact hchecked basis entity rfl _ hresource
  | reread basis found entity =>
    dsimp only
    split
    · rename_i written hw
      have hwritten : writtenRow s (s.detectors i) = some (Call.resource c) := by
        rw [hrun]
        simp [writtenRow, hresource, hw]
      refine current_set hi rfl (fun j hj resource hh => ?_) ⟨hroles, hnext, fun resource hr _ => ?_,
        fun b e hb => ?_, fun b f e hb => ?_⟩
      · have hother : resource ≠ Call.resource c := by
          rintro rfl
          rw [hwrites _ hwritten j hj] at hh
          cases hh
        simp only [Function.update_of_ne hother]
      · obtain ⟨hother, hmem⟩ := hrest resource hr
        simp only [Function.update_of_ne hother]
        refine hrecording resource hmem ?_
        simpa [Detector.holds, hresource, hmem] using Ne.symm hother
      · cases hb
      · cases hb
    · exact current_set hi rfl hsame trivial

/-- A resource to be recorded is held unless the next call is about it. -/
theorem holds_of_recording {config : DetectorConfig} {owner : ℕ} {run : Run}
    {loadedUnder : ResourceId → Option ℕ} {stage : CallStage} {resource : ResourceId}
    (hr : resource ∈ recording run.phase) (hn : nextResource config run ≠ some resource) :
    (Detector.running config owner run loadedUnder stage).holds resource = true := by
  cases stage with
  | ready => simpa [Detector.holds] using hr
  | checked basis entity => simp [Detector.holds, hr]
  | reread basis found entity => simp [Detector.holds, hr, hn]

/-- A run that begins its next instruction holds what it is going to record. -/
theorem current_ready {config : DetectorConfig} {owner : ℕ} {run : Run}
    {loadedUnder : ResourceId → Option ℕ} {rows : ResourceId → Cell StateRow}
    (hroles : (config.roles.map Prod.fst).Nodup) (hn : (upcoming run.phase).Nodup)
    (hr : ∀ resource ∈ recording run.phase, version (rows resource) = loadedUnder resource) :
    Current rows (.running config owner run loadedUnder .ready) := by
  refine ⟨hroles, hn, fun resource h _ => hr resource h, fun b e hb => ?_, fun b f e hb => ?_⟩
  · cases hb
  · cases hb

/-- The next operation of a run leaves every detector at the versions it holds. -/
theorem advanceRun_current {healthy : Bool} {config : DetectorConfig} {owner : ℕ} {run : Run}
    {loadedUnder : ResourceId → Option ℕ} {stage : CallStage}
    (hi : ∀ j, Current s.rows (s.detectors j))
    (hrun : s.detectors i = .running config owner run loadedUnder stage)
    (hcond : Undisturbed s i healthy) :
    ∀ j, Current (advanceRun s i healthy config owner run loadedUnder stage).rows
      ((advanceRun s i healthy config owner run loadedUnder stage).detectors j) := by
  have hd := hi i
  rw [hrun] at hd
  obtain ⟨hroles, hnodup, hrecording, hchecked, hreread⟩ := hd
  have hheld : ∀ resource ∈ recording run.phase, nextResource config run ≠ some resource →
      version (s.rows resource) = loadedUnder resource :=
    fun resource hr hn => hrecording resource hr (holds_of_recording hr hn)
  have hsame : ∀ j, j ≠ i → ∀ resource, (s.detectors j).holds resource = true →
      version (s.rows resource) = version (s.rows resource) := fun _ _ _ _ => rfl
  unfold advanceRun
  split
  · rename_i next hc
    obtain ⟨hnext, hrest⟩ := silent_recording hroles hnodup hc
    refine current_set hi rfl hsame (current_ready hroles hnext fun resource hr => ?_)
    exact hheld resource (hrest resource hr) (by rw [nextResource, hc]; simp)
  · exact current_set hi rfl hsame trivial
  · exact current_set hi rfl hsame trivial
  · rename_i resource next hc
    split
    · exact current_set hi rfl hsame trivial
    · rename_i checkpoint hload
      obtain ⟨hnext, hrest⟩ := call_recording hnodup hc (fun _ _ => Call.noConfusion) checkpoint
      refine current_set hi rfl hsame (current_ready hroles hnext fun r hr => ?_)
      obtain ⟨hother, hmem⟩ := hrest r hr
      have hversion := hheld r hmem (by rw [nextResource_call hc]; simpa using Ne.symm hother)
      split
      · simpa only [Function.update_of_ne (show r ≠ resource from hother)] using hversion
      · exact hversion
  · rename_i resource role next hc
    obtain ⟨hnext, hrest⟩ := observe_recording healthy owner loadedUnder stage hnodup hc
    refine current_set hi rfl hsame (current_ready hroles hnext fun r hr => ?_)
    rcases hrest r hr with ⟨hother, hmem⟩ | hnew
    · exact hheld r hmem (by rw [nextResource_call hc]; simpa [Call.resource] using Ne.symm hother)
    · exact hcond.baseline r _ (by rw [hrun]; exact hnew)
  · rename_i request next hc
    obtain ⟨hnext, hrest⟩ := call_recording hnodup hc (fun _ _ => Call.noConfusion) ()
    refine current_set (s := s) hi rfl hsame (current_ready hroles hnext fun r hr => ?_)
    obtain ⟨hother, hmem⟩ := hrest r hr
    exact hheld r hmem (by rw [nextResource_call hc]; simpa using Ne.symm hother)
  · rename_i resource h request next hc
    exact advanceWrite_current hi hrun hcond.writes hc (fun _ _ => Call.noConfusion)
  · rename_i resource requestId next hc
    exact advanceWrite_current hi hrun hcond.writes hc (fun _ _ => Call.noConfusion)
  · rename_i resource next hc
    exact advanceWrite_current hi hrun hcond.writes hc (fun _ _ => Call.noConfusion)

/-- An undisturbed step leaves every detector at the versions it holds. -/
theorem step_current {a : TableAction} (hi : ∀ j, Current s.rows (s.detectors j))
    (hcond : undisturbed s a) (h : step s a = some t) :
    ∀ j, Current t.rows (t.detectors j) := by
  rcases step_cases h with ⟨lease, d, rfl, hfresh⟩ |
    ⟨i, healthy, config, owner, run, loadedUnder, stage, rfl, hrun, rfl⟩
  · exact current_set (s := s) hi rfl (fun _ _ _ _ => rfl) (hfresh.current _)
  · exact advanceRun_current hi hrun hcond

/-- An undisturbed step keeps what detectors rely on, and every unsent request. -/
theorem step_spec {a : TableAction} (hs : Steady s) (hcond : undisturbed s a)
    (h : step s a = some t) : Steady t ∧ PendingKept s t := by
  have hcurrent := step_current hs.current hcond h
  rcases step_cases h with ⟨lease, d, rfl, hfresh⟩ |
    ⟨i, healthy, config, owner, run, loadedUnder, stage, rfl, hrun, rfl⟩
  · exact ⟨⟨hs.invariant.set ⟨fun _ => .same, fun _ hr => hr⟩ rfl (hfresh.invariant _ _), hcurrent⟩,
      .of_rows rfl⟩
  · have hd := hs.invariant.detectors i
    have hversion := hs.current i
    have hsame := hcond.requests
    rw [hrun] at hd hversion hsame
    obtain ⟨hinvariant, hkept⟩ :=
      advanceRun_spec hs.invariant hd hversion.2.2.2.2 (sameRequest_running hsame)
    exact ⟨⟨hinvariant, hcurrent⟩, hkept⟩

/-- In every run in which no row is written between another detector's load and
its second read, no step of any detector overwrites or clears a pending request
that is not sent. -/
theorem pendingRequests_kept {a : TableAction} (hr : (system.guarded undisturbed).Reachable s)
    (hs : (system.guarded undisturbed).step s a t) : PendingKept s t := by
  have hi : Steady s := by
    refine hr.invariant ?_ ?_
    · rintro s rfl
      exact ⟨invariant_initial, fun _ => trivial⟩
    · intro s a t _ hi hs
      exact (step_spec hi hs.1 hs.2).1
  exact (step_spec hi hs.1 hs.2).2

end Invariant

/-- The advances of one detector that finds the database down: three loads, the
observations, and the check of its stage. -/
def sampleUpToCheck (i : ℕ) : List TableAction :=
  List.replicate 4 (.advance i true) ++ [.advance i false] ++ List.replicate 4 (.advance i true)

/-- The condition of a step, when only the detectors below a bound are at work. -/
def undisturbedBelow (n : ℕ) (s : TableState) (a : TableAction) : Bool :=
  decide (a.detector < n) &&
    match a with
    | .advance i healthy =>
      ((writtenRow s (s.detectors i)).all fun resource =>
        (List.range n).all fun j => decide (j = i) || !(s.detectors j).holds resource) &&
      ((newBaseline healthy (s.detectors i)).all fun entry =>
        decide (version (s.rows entry.1) = entry.2)) &&
      sameRequest s (s.detectors i)
    | _ => true

theorem undisturbed_of_below {n : ℕ} {s : TableState} {a : TableAction}
    (hidle : ∀ j, n ≤ j → s.detectors j = .idle) (h : undisturbedBelow n s a = true) :
    undisturbed s a := by
  cases a with
  | acquire i config owner => trivial
  | stop i => trivial
  | advance i healthy =>
    simp only [undisturbedBelow, Bool.and_eq_true] at h
    obtain ⟨-, ⟨hwrites, hbaseline⟩, hrequests⟩ := h
    refine ⟨fun resource hw j hj => ?_, fun resource loaded hn => ?_, hrequests⟩
    · by_cases hjn : j < n
      · rw [hw] at hwrites
        have hall := List.all_eq_true.mp hwrites j (List.mem_range.mpr hjn)
        simpa [hj] using hall
      · rw [hidle j (by omega)]
        rfl
    · rw [hn] at hbaseline
      simpa using hbaseline

theorem setDetector_other {s t : TableState} {i j : ℕ} {d : Detector} (hj : j ≠ i)
    (h : t.detectors = s.detectors) : (t.setDetector i d).detectors j = s.detectors j := by
  simp only [TableState.setDetector, Function.update_of_ne hj, h]

theorem advanceWrite_detectors {s : TableState} {i : ℕ} {config : DetectorConfig} {owner : ℕ}
    {run next : Run} {loadedUnder : ResourceId → Option ℕ} {stage : CallStage} {c : Call}
    {stager : Option ℕ} {j : ℕ} (hj : j ≠ i) :
    (advanceRun.advanceWrite s i config owner run loadedUnder stage c next stager).detectors j =
      s.detectors j := by
  unfold advanceRun.advanceWrite
  dsimp only
  cases stage with
  | ready =>
    dsimp only
    split <;> exact setDetector_other hj rfl
  | checked basis entity => exact setDetector_other hj rfl
  | reread basis found entity =>
    dsimp only
    split <;> exact setDetector_other hj rfl

/-- An operation of a run moves no other detector. -/
theorem advanceRun_detectors {s : TableState} {i : ℕ} {healthy : Bool} {config : DetectorConfig}
    {owner : ℕ} {run : Run} {loadedUnder : ResourceId → Option ℕ} {stage : CallStage} {j : ℕ}
    (hj : j ≠ i) : (advanceRun s i healthy config owner run loadedUnder stage).detectors j =
      s.detectors j := by
  unfold advanceRun
  split
  · exact setDetector_other hj rfl
  · exact setDetector_other hj rfl
  · exact setDetector_other hj rfl
  · split <;> exact setDetector_other hj rfl
  · exact setDetector_other hj rfl
  · exact setDetector_other hj rfl
  · exact advanceWrite_detectors hj
  · exact advanceWrite_detectors hj
  · exact advanceWrite_detectors hj

/-- A step moves no other detector. -/
theorem step_detectors {s t : TableState} {a : TableAction} (h : step s a = some t) {j : ℕ}
    (hj : j ≠ a.detector) : t.detectors j = s.detectors j := by
  rcases step_cases h with ⟨lease, d, rfl, -⟩ |
    ⟨i, healthy, config, owner, run, loadedUnder, stage, rfl, -, rfl⟩
  · exact Function.update_of_ne hj _ _
  · exact advanceRun_detectors hj

/-- A computed run of the detectors below a bound. -/
theorem reachable_below {n : ℕ} (labels : List TableAction) :
    ∀ {s t : TableState}, (∀ j, n ≤ j → s.detectors j = .idle) →
      (system.guarded undisturbed).Reachable s →
      runSteps (fun s a => if undisturbedBelow n s a then step s a else none) s labels = some t →
      (system.guarded undisturbed).Reachable t ∧ ∀ j, n ≤ j → t.detectors j = .idle := by
  induction labels with
  | nil =>
    intro s t hidle hs ht
    cases ht
    exact ⟨hs, hidle⟩
  | cons a rest ih =>
    intro s t hidle hs ht
    obtain ⟨u, hu, ht⟩ := Option.bind_eq_some_iff.mp ht
    dsimp only at hu
    split at hu
    · rename_i hc
      have hbelow : a.detector < n := by
        simp only [undisturbedBelow, Bool.and_eq_true, decide_eq_true_eq] at hc
        exact hc.1
      refine ih (fun j hj => ?_) (.next hs ⟨undisturbed_of_below hidle hc, hu⟩) ht
      rw [step_detectors hu (by omega)]
      exact hidle j hj
    · cases hu

/-- Detector 0 has read its row for the second time when its lease expires;
detector 1 takes the lease over and stages its own request. -/
def sampleTakeover : List TableAction :=
  .acquire 0 (sampleConfig 0) 0 :: sampleUpToCheck 0 ++
    .advance 0 true :: .acquire 1 (sampleConfig 240000) 1 :: .advance 1 true ::
      .advance 1 true :: sampleUpToCheck 1 ++ [.advance 1 true, .advance 1 true]

theorem sampleTakeover_some :
    (runSteps (fun s a => if undisturbedBelow 2 s a then step s a else none) initial
      sampleTakeover).isSome = true := by
  decide

def sampleTakenOver : TableState := Option.get _ sampleTakeover_some

theorem sampleRefusal_some : (step sampleTakenOver (.advance 0 true)).isSome = true := by
  decide +kernel

/-- The late write of detector 0 is refused, and the request that detector 1
staged and has not sent stays pending. -/
theorem pendingRequests_kept_takeover :
    PendingKept sampleTakenOver (Option.get _ sampleRefusal_some) ∧ sampleTakenOver.sent = [] ∧
      sampleTakenOver.stager sampleDatabase = 1 ∧
      (pendingOf sampleTakenOver sampleDatabase).map (fun p => p.2.idempotencyKey) =
        some "wc016-a240000" := by
  obtain ⟨hreach, hidle⟩ := reachable_below (n := 2) sampleTakeover (fun _ _ => rfl) (.start rfl)
    (Option.some_get sampleTakeover_some).symm
  have hcond : undisturbed sampleTakenOver (.advance 0 true) :=
    undisturbed_of_below hidle (by decide)
  exact ⟨pendingRequests_kept hreach ⟨hcond, (Option.some_get sampleRefusal_some).symm⟩,
    by decide, by decide, by decide⟩

/-! ## A stage that overtakes another -/

/-- Detector 0 has checked its stage when its lease expires; detector 1 takes the
lease over and stages its own request; detector 0 reads the row anew. -/
def sampleOverlap : List TableAction :=
  .acquire 0 (sampleConfig 0) 0 :: sampleUpToCheck 0 ++
    .acquire 1 (sampleConfig 240000) 1 :: .advance 1 true :: .advance 1 true ::
      sampleUpToCheck 1 ++ [.advance 1 true, .advance 1 true, .advance 0 true]

/-- No pending request that one detector staged is overwritten or cleared by
another before it is sent. -/
def NeverLost : Prop :=
  ∀ s t i healthy resource h q, system.Reachable s → system.step s (.advance i healthy) t →
    pendingOf s resource = some (h, q) → s.stager resource ≠ i →
    pendingOf t resource = some (h, q) ∨ q ∈ s.sent

theorem sampleOverlap_some : (runSteps step initial sampleOverlap).isSome = true := by
  decide

def sampleOverlapped : TableState := (runSteps step initial sampleOverlap).get sampleOverlap_some

theorem sampleOverwrite_some : (step sampleOverlapped (.advance 0 true)).isSome = true := by
  decide +kernel

/-- Detector 0 writes its own request over the staged one, which is not sent. -/
theorem stage_overwrites : ¬ NeverLost := by
  intro h
  have hreach : system.Reachable sampleOverlapped := reachable_runSteps sampleOverlap
    (.start rfl : system.Reachable initial) (Option.some_get sampleOverlap_some).symm
  have hpending : (pendingOf sampleOverlapped sampleDatabase).map
      (fun p => p.2.idempotencyKey) = some "wc016-a240000" := by
    decide
  obtain ⟨⟨healthy, q⟩, hq, hkey⟩ := Option.map_eq_some_iff.mp hpending
  have hstager : sampleOverlapped.stager sampleDatabase = 1 := by decide
  have hsent : sampleOverlapped.sent = [] := by decide
  have hafter : (pendingOf ((step sampleOverlapped (.advance 0 true)).get sampleOverwrite_some)
      sampleDatabase).map (fun p => p.2.idempotencyKey) = some "wc016-a0" := by
    decide
  rcases h _ _ 0 true sampleDatabase healthy q hreach
    (Option.some_get sampleOverwrite_some).symm hq (by rw [hstager]; decide) with hkept | hmem
  · rw [hkept] at hafter
    have hclash : q.idempotencyKey = "wc016-a0" := Option.some.inj hafter
    rw [show q.idempotencyKey = "wc016-a240000" from hkey] at hclash
    exact absurd hclash (by decide)
  · rw [hsent] at hmem
    cases hmem

end AthenaContext.SignalStateTable
