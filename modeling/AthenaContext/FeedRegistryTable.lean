import AthenaContext.ConditionalTables
import AthenaContext.FallibleResults
import AthenaContext.FeedRegistryRecords
import AthenaContext.IncidentPublisher
import AthenaContext.TransitionSystems

/-!
# The feed registry over its table

Any number of registry instances over one partition, one table operation or
authority read at a time. A capacity row counts the incident rows; it is created
by the first reader that does not find it. A put writes under the tokens of an
earlier scan, after it has verified its authority once more. A prune deletes in
batches and rescans after each. Scans are not atomic, requests may be lost or
repeated, and a process may stop at any time. Meanwhile the incidents themselves
move on: a current pointer is only ever replaced by one that is published later.
-/

namespace AthenaContext.FeedRegistryTable

open IncidentRecords FeedRegistryRecords ConditionalStores ConditionalTables TransitionSystems
  OrdinalCollections

/-- A scanned row: key, entity and token. -/
abbrev RegistryRow := String × RegistryEntity × ℕ

/-- A scanned incident row with its record. -/
abbrev ParsedRow := RegistryRow × IncidentFeedRegistryRecord

/-- `_RegistrySnapshot`. -/
structure RegistrySnapshot where
  capacityEtag : ℕ
  records : List ParsedRow
  deriving DecidableEq, Repr

def maxTransactionOperations : ℕ := 100
def maxExpiryDeletes : ℕ := maxTransactionOperations - 1
def maxCleanupPasses : ℕ :=
  (maxFeedV2RegistryRecords + maxExpiryDeletes - 1) / maxExpiryDeletes + 2

/-- `IncidentFeedRegistryPrunePlan`. -/
structure IncidentFeedRegistryPrunePlan where
  records : List IncidentFeedRegistryRecord
  asOf : UtcDateTime
  deriving DecidableEq, Repr

/-- The call that a client is in; a cleanup with its pending records and the
passes left after the present one. -/
inductive RegistryCall
  | put (record : IncidentFeedRegistryRecord) (expected : CurrentIncidentStateSnapshot)
  | prune (plan : IncidentFeedRegistryPrunePlan) (pending : List IncidentFeedRegistryRecord)
      (passes : ℕ)
  deriving DecidableEq, Repr

/-- The write which a put has decided on. -/
inductive PutWrite
  | create (capacityEtag retainedCount : ℕ)
  | replace (etag : ℕ)
  deriving DecidableEq, Repr

/-- How far a client has come: no call is running, after a last one that may
have raised; or the operation that is due. A reading phase holds the scans left
after the present one. -/
inductive RegistryPhase
  | idle (raised : Option RegistryError)
  | admitting (record : IncidentFeedRegistryRecord) (expected : CurrentIncidentStateSnapshot)
  | reading (call : RegistryCall) (attempts : ℕ)
  | initializing (call : RegistryCall) (attempts retainedCount : ℕ)
  | verifying (record : IncidentFeedRegistryRecord) (expected : CurrentIncidentStateSnapshot)
      (write : PutWrite)
  | writing (record : IncidentFeedRegistryRecord) (expected : CurrentIncidentStateSnapshot)
      (write : PutWrite)
  | confirming (record : IncidentFeedRegistryRecord) (expected : CurrentIncidentStateSnapshot)
  | deleting (plan : IncidentFeedRegistryPrunePlan) (pending : List IncidentFeedRegistryRecord)
      (passes : ℕ) (snapshot : RegistrySnapshot) (expired : List ParsedRow)
  deriving DecidableEq, Repr

section Calls

variable (digests : FeedDigests) (encoding : Encoding)

/-- `_require_current_authority` on the authority that it reads. -/
def requireCurrentAuthority (record : IncidentFeedRegistryRecord)
    (expected : CurrentIncidentStateSnapshot) (current : Option CurrentIncidentStateSnapshot) :
    Except RegistryError CurrentIncidentStateSnapshot :=
  match validateIncidentFeedRegistryRecordAuthority encoding record current with
  | .error e => .error e
  | .ok (validated, _) =>
    if validated ≠ expected then
      .error (.conflict "feed registry current occurrence changed during admission")
    else .ok validated

/-- `_read_bounded_partition`. -/
def readBoundedPartition (rows : List RegistryRow) : List RegistryRow :=
  rows.take (maxFeedV2RegistryRecords + 2)

def parseRow (row : RegistryRow) : Except RegistryError ParsedRow :=
  match parseEntity digests row.1 row.2.1 with
  | .error e => .error e
  | .ok record => .ok (row, record)

/-- One pass of `_read_snapshot`: the snapshot, or the number of incident rows
when there is no capacity row. -/
def readSnapshot (rows : List RegistryRow) : Except RegistryError (ℕ ⊕ RegistrySnapshot) :=
  let entities := readBoundedPartition rows
  let capacityEntities := entities.filter fun row => row.1 == capacityRowKey
  let recordEntities := entities.filter fun row => row.1 != capacityRowKey
  match capacityEntities with
  | [] => .ok (.inl recordEntities.length)
  | [capacity] =>
    if maxFeedV2RegistryRecords < recordEntities.length then
      .error (.capacity "feed registry exceeds its safe retained record bound")
    else
      match recordEntities.mapM (parseRow digests) with
      | .error e => .error e
      | .ok parsed =>
        if ¬ (parsed.map fun row => row.2.entry.incidentId).Nodup then
          .error (.failed "feed registry returned duplicate incident records")
        else
          match parseCapacityEntity capacity.2.1 with
          | .error e => .error e
          | .ok retainedCount =>
            if retainedCount ≠ parsed.length then
              .error (.failed "feed registry capacity metadata does not match retained records")
            else .ok (.inr ⟨capacity.2.2, parsed⟩)
  | _ => .error (.failed "feed registry returned duplicate capacity metadata")

/-- The row of an incident in a snapshot. -/
def RegistrySnapshot.rowOf (snapshot : RegistrySnapshot) (incidentId : String) :
    Option ParsedRow :=
  snapshot.records.find? fun row => row.2.entry.incidentId == incidentId

/-- `put` between its scan and its write; nothing to write when the record is
there already. -/
def decidePut (record : IncidentFeedRegistryRecord) (expected : CurrentIncidentStateSnapshot)
    (snapshot : RegistrySnapshot) : Except RegistryError (Option PutWrite) :=
  match snapshot.rowOf record.entry.incidentId with
  | none =>
    if maxFeedV2RegistryRecords ≤ snapshot.records.length then
      .error (.capacity "feed registry cannot accept another retained incident")
    else .ok (some (.create snapshot.capacityEtag snapshot.records.length))
  | some (row, _) =>
    match parseEntity digests row.1 row.2.1 with
    | .error e => .error e
    | .ok existing =>
      if existing = record then .ok none
      else
        match validateIncidentFeedRegistryRecordAuthority encoding existing (some expected) with
        | .error (.conflict _) => .ok (some (.replace row.2.2))
        | .error e => .error e
        | .ok _ =>
          .error (.conflict "conflicting feed registry update has the same current authority")

/-- The batch of a put, or its single update. -/
def putBatch (record : IncidentFeedRegistryRecord) :
    PutWrite → List (TableWrite String RegistryEntity)
  | .create capacityEtag retainedCount =>
    [.create record.entry.incidentId (recordEntity record),
      .replace capacityRowKey capacityEtag (capacityEntity (retainedCount + 1))]
  | .replace etag => [.replace record.entry.incidentId etag (recordEntity record)]

/-- Whether a record's retention has ended. -/
def expiredAt (asOf : UtcDateTime) (record : IncidentFeedRegistryRecord) : Bool :=
  match record.retainedUntil with
  | none => false
  | some retainedUntil => retainedUntil ≤ asOf

/-- `prune_expired` on the pending records of a pass: absent ones are done,
changed ones refuse the cleanup. -/
def checkPending (snapshot : RegistrySnapshot) (pending : List IncidentFeedRegistryRecord) :
    Except RegistryError (List IncidentFeedRegistryRecord) :=
  if pending.any fun expected =>
      match snapshot.rowOf expected.entry.incidentId with
      | none => false
      | some actual => actual.2 != expected then
    .error (.conflict "feed registry changed after expiry authority validation")
  else .ok (pending.filter fun expected => (snapshot.rowOf expected.entry.incidentId).isSome)

/-- The rows which a pass deletes. -/
def expiredRows (snapshot : RegistrySnapshot) (pending : List IncidentFeedRegistryRecord) :
    List ParsedRow :=
  ((sortOn (fun record => record.entry.incidentId) pending).take maxExpiryDeletes).filterMap
    fun record => snapshot.rowOf record.entry.incidentId

/-- The batch of `_delete_expired_batch`. -/
def deleteBatch (snapshot : RegistrySnapshot) (expired : List ParsedRow) :
    List (TableWrite String RegistryEntity) :=
  expired.map (fun row => TableWrite.delete row.1.1 row.1.2.2) ++
    [.replace capacityRowKey snapshot.capacityEtag
      (capacityEntity (snapshot.records.length - expired.length))]

/-- `put` up to its first authority read. -/
def startPut (record : IncidentFeedRegistryRecord)
    (authority : Option CurrentIncidentStateSnapshot) : RegistryPhase :=
  match validateRecord digests record with
  | .error e => .idle (some e)
  | .ok record =>
    match validateIncidentFeedRegistryRecordAuthority encoding record authority with
    | .error e => .idle (some e)
    | .ok (expected, _) => .admitting record expected

/-- `prune_expired` up to its first scan. -/
def startPrune (plan : IncidentFeedRegistryPrunePlan) : RegistryPhase :=
  if maxFeedV2RegistryRecords < plan.records.length then
    .idle (some (.capacity "feed registry cleanup exceeds its safe record bound"))
  else
    match plan.records.mapM (validateRecord digests) with
    | .error e => .idle (some e)
    | .ok parsed =>
      let pending := parsed.filter (expiredAt plan.asOf)
      if ¬ (pending.map fun record => record.entry.incidentId).Nodup then
        .idle (some (.failed "feed registry cleanup received duplicate incident records"))
      else .reading (.prune plan pending (maxCleanupPasses - 1)) 2

/-- The next pass of a cleanup. -/
def nextPass (plan : IncidentFeedRegistryPrunePlan) (pending : List IncidentFeedRegistryRecord) :
    ℕ → RegistryPhase
  | 0 => .idle (some (.capacity "feed registry expiry cleanup exceeded its safe pass bound"))
  | passes + 1 => .reading (.prune plan pending passes) 2

/-- What follows a scan. -/
def afterScan (call : RegistryCall) (attempts : ℕ) (rows : List RegistryRow) : RegistryPhase :=
  match readSnapshot digests rows with
  | .error e => .idle (some e)
  | .ok (.inl retainedCount) =>
    if maxFeedV2RegistryRecords < retainedCount then
      .idle (some (.capacity "feed registry exceeds its safe retained record bound"))
    else .initializing call attempts retainedCount
  | .ok (.inr snapshot) =>
    match call with
    | .put record expected =>
      match decidePut digests encoding record expected snapshot with
      | .error e => .idle (some e)
      | .ok none => .confirming record expected
      | .ok (some write) => .verifying record expected write
    | .prune plan pending passes =>
      match checkPending snapshot pending with
      | .error e => .idle (some e)
      | .ok [] => .idle none
      | .ok (first :: rest) =>
        .deleting plan (first :: rest) passes snapshot (expiredRows snapshot (first :: rest))

/-- What follows the creation of the capacity row. -/
def afterInitialize (call : RegistryCall) (attempts : ℕ) : BatchOutcome → RegistryPhase
  | .uncertain => .idle (some (.failed "feed registry capacity initialization failed"))
  | _ =>
    match attempts with
    | 0 => .idle (some (.conflict
        "feed registry capacity metadata changed during initialization"))
    | attempts + 1 => .reading call attempts

/-- What follows the write of a put. -/
def afterPut (record : IncidentFeedRegistryRecord) (expected : CurrentIncidentStateSnapshot) :
    BatchOutcome → RegistryPhase
  | .done => .confirming record expected
  | .refused => .idle (some (.conflict "feed registry changed during conditional write"))
  | .uncertain => .idle (some (.failed "feed registry write outcome is uncertain"))

/-- What follows a batch of deletions. -/
def afterDelete (plan : IncidentFeedRegistryPrunePlan)
    (pending : List IncidentFeedRegistryRecord) (passes : ℕ) (expired : List ParsedRow) :
    BatchOutcome → RegistryPhase
  | .done =>
    nextPass plan (pending.filter fun record => record ∉ expired.map Prod.snd) passes
  | .refused => nextPass plan pending passes
  | .uncertain => .idle (some (.failed "feed registry expiry cleanup failed"))

/-- The partition, the current state of every incident, under which authority
the row of an incident was last put, and the clients. -/
structure RegistryState where
  table : TableHistory String RegistryEntity
  authority : String → Option CurrentIncidentStateSnapshot
  admitted : String → Option CurrentIncidentStateSnapshot
  clients : ℕ → RegistryPhase

/-- An incident moves on; a client calls, scans, makes its next other operation
or stops. -/
inductive RegistryAction
  | publishCurrent (incidentId : String) (snapshot : CurrentIncidentStateSnapshot)
  | put (client : ℕ) (record : IncidentFeedRegistryRecord)
      (authority : Option CurrentIncidentStateSnapshot)
  | prune (client : ℕ) (plan : IncidentFeedRegistryPrunePlan)
  | scan (client : ℕ) (rows : List RegistryRow)
  | advance (client : ℕ) (fault : Cell.Fault)
  | stop (client : ℕ)

def RegistryState.setClient (s : RegistryState) (i : ℕ) (phase : RegistryPhase) :
    RegistryState :=
  { s with clients := Function.update s.clients i phase }

/-- A current pointer is replaced by one that is published later. -/
def Supersedes (snapshot : CurrentIncidentStateSnapshot) :
    Option CurrentIncidentStateSnapshot → Prop
  | none => True
  | some current => current.pointer.publishedAt < snapshot.pointer.publishedAt

instance (snapshot : CurrentIncidentStateSnapshot)
    (current : Option CurrentIncidentStateSnapshot) : Decidable (Supersedes snapshot current) := by
  unfold Supersedes
  cases current <;> infer_instance

/-- The next operation of a client other than a scan. -/
def advanceClient (s : RegistryState) (i : ℕ) (fault : Cell.Fault) : Option RegistryState :=
  match s.clients i with
  | .idle _ => none
  | .reading _ _ => none
  | .admitting record expected =>
    match requireCurrentAuthority encoding record expected
        (s.authority record.entry.incidentId) with
    | .error e => some (s.setClient i (.idle (some e)))
    | .ok _ => some (s.setClient i (.reading (.put record expected) 2))
  | .initializing call attempts retainedCount =>
    let batch := [TableWrite.create capacityRowKey (capacityEntity retainedCount)]
    some ({ s with table := s.table.attempt batch fault }.setClient i
      (afterInitialize call attempts (s.table.outcome batch fault)))
  | .verifying record expected write =>
    match requireCurrentAuthority encoding record expected
        (s.authority record.entry.incidentId) with
    | .error e => some (s.setClient i (.idle (some e)))
    | .ok _ => some (s.setClient i (.writing record expected write))
  | .writing record expected write =>
    let batch := putBatch record write
    some ({ s with
      table := s.table.attempt batch fault
      admitted := if (s.table.effect batch fault).isSome then
        Function.update s.admitted record.entry.incidentId (some expected)
        else s.admitted }.setClient i (afterPut record expected (s.table.outcome batch fault)))
  | .confirming record expected =>
    match requireCurrentAuthority encoding record expected
        (s.authority record.entry.incidentId) with
    | .error e => some (s.setClient i (.idle (some e)))
    | .ok _ => some (s.setClient i (.idle none))
  | .deleting plan pending passes snapshot expired =>
    let batch := deleteBatch snapshot expired
    some ({ s with table := s.table.attempt batch fault }.setClient i
      (afterDelete plan pending passes expired (s.table.outcome batch fault)))

/-- One step. -/
def step (s : RegistryState) : RegistryAction → Option RegistryState
  | .publishCurrent incidentId snapshot =>
    if Supersedes snapshot (s.authority incidentId) then
      some { s with authority := Function.update s.authority incidentId (some snapshot) }
    else none
  | .put i record authority =>
    match s.clients i with
    | .idle _ => some (s.setClient i (startPut digests encoding record authority))
    | _ => none
  | .prune i plan =>
    match s.clients i with
    | .idle _ => some (s.setClient i (startPrune digests plan))
    | _ => none
  | .scan i rows =>
    match s.clients i with
    | .reading call attempts =>
      if s.table.Scans rows then
        some (s.setClient i (afterScan digests encoding call attempts rows))
      else none
    | _ => none
  | .advance i fault => advanceClient encoding s i fault
  | .stop i => some (s.setClient i (.idle none))

/-- A record with an authority that it validates against. -/
def Validates (record : IncidentFeedRegistryRecord) (authority : CurrentIncidentStateSnapshot) :
    Prop :=
  ∃ occurrence, validateIncidentFeedRegistryRecordAuthority encoding record (some authority) =
    .ok (authority, occurrence)

/-- One authority was current before the other, or is the same. -/
def Precedes (earlier later : CurrentIncidentStateSnapshot) : Prop :=
  earlier = later ∨ earlier.pointer.publishedAt < later.pointer.publishedAt

/-- Every row was put under an authority that it validates against and that is
current or was before. -/
def RowsAdmitted (s : RegistryState) : Prop :=
  ∀ id entity etag record, s.table.now.content id = some (entity, etag) →
    parseEntity digests id entity = .ok record →
    ∃ authority current, s.admitted id = some authority ∧ Validates encoding record authority ∧
      s.authority id = some current ∧ Precedes authority current

/-- A partition without a capacity row, whatever incident rows it has, and no
call running. -/
structure Initial (s : RegistryState) : Prop where
  fresh : s.table.past = []
  valid : s.table.now.Valid
  uncounted : s.table.now.content capacityRowKey = none
  admitted : RowsAdmitted digests encoding s
  idle : ∀ i, ∃ raised, s.clients i = .idle raised

/-- Registries over one partition. -/
def system (start : RegistryState) : TransitionSystem RegistryState RegistryAction :=
  ofStep start (step digests encoding)

end Calls

end AthenaContext.FeedRegistryTable
