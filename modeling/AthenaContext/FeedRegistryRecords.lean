import AthenaContext.IncidentRecords

/-!
# Feed registry records

The latest prepared feed entry of an incident as the private registry keeps it,
its validation, its authority, and the table entity it is stored as. Records,
states, pointers and receipts stand for their canonical bytes; their digests and
lengths are parameters. The own paths and digests of entries and pointers are
left to their instances. Texts of instants stand for the instants.
-/

namespace AthenaContext.FeedRegistryRecords

open IncidentRecords

/-- Lifecycles that a feed lists. -/
inductive FeedLifecycle
  | active | resolved
  deriving DecidableEq, Repr

/-- The incident lifecycle with the same wire text. -/
def FeedLifecycle.toIncident : FeedLifecycle → IncidentLifecycle
  | .active => .active
  | .resolved => .resolved

/-- `IncidentFeedEntryV2`. -/
structure IncidentFeedEntryV2 where
  incidentId : String
  lifecycle : FeedLifecycle
  stateResultDigest : Digest
  updatedAt : UtcDateTime
  feedPointerReference : VersionPinnedBlobReference
  feedPointerAttestationReference : VersionPinnedBlobReference
  deriving DecidableEq, Repr

/-- `IncidentEnrichmentFeedPointer`; its enrichment asset is bound by its digest. -/
structure IncidentEnrichmentFeedPointer where
  pointerId : String
  incidentId : String
  lifecycle : FeedLifecycle
  stateResultDigest : Digest
  stateUpdatedAt : UtcDateTime
  occurrenceDigest : Digest
  sourceStateReference : VersionPinnedBlobReference
  sourceStateAttestationReference : VersionPinnedBlobReference
  sourcePointerReference : VersionPinnedBlobReference
  sourcePointerAttestationReference : VersionPinnedBlobReference
  publishedAt : UtcDateTime
  pointerDigest : Digest
  deriving DecidableEq, Repr

/-- `IncidentEnrichmentFeedPointerAttestation`. -/
structure IncidentEnrichmentFeedPointerAttestation where
  pointerId : String
  pointerDigest : Digest
  keyVaultKeyId : String
  signedPreimageDigest : Digest
  detachedSignature : String
  deriving DecidableEq, Repr

/-- What a record's digest is computed from. -/
structure UnsignedRegistryRecord where
  entry : IncidentFeedEntryV2
  pointer : IncidentEnrichmentFeedPointer
  pointerAttestation : IncidentEnrichmentFeedPointerAttestation
  retainedUntil : Option UtcDateTime
  deriving DecidableEq, Repr

/-- `IncidentFeedRegistryRecord`. -/
structure IncidentFeedRegistryRecord extends UnsignedRegistryRecord where
  schemaVersion : String
  recordDigest : Digest
  deriving DecidableEq, Repr

/-- Digests and length of canonical bytes. -/
structure FeedDigests where
  pointer : IncidentEnrichmentFeedPointer → Digest
  attestation : IncidentEnrichmentFeedPointerAttestation → Digest
  record : UnsignedRegistryRecord → Digest
  recordLength : IncidentFeedRegistryRecord → ℕ

/-- `FEED_V2_RESOLVED_RETENTION`: seven days. -/
def feedV2ResolvedRetention : UtcDateTime := 7 * 24 * 60 * 60 * 1000
def maxFeedV2RegistryRecordBytes : ℕ := 32 * 1024
def maxFeedV2RegistryRecords : ℕ := 4096

def registryRecordSchema : String := "athena.incidentFeedRegistryRecord.v1"

/-- `^inc-[a-f0-9]{12}$`. -/
def isIncidentId (s : String) : Bool :=
  "inc-".toList.isPrefixOf s.toList && s.toList.length == 16 &&
    (s.toList.drop 4).all fun c => ('a' ≤ c && c ≤ 'f') || ('0' ≤ c && c ≤ '9')

/-- The retention that a record's lifecycle demands. -/
def expectedRetainedUntil (entry : IncidentFeedEntryV2) : Option UtcDateTime :=
  match entry.lifecycle with
  | .active => none
  | .resolved => some (entry.updatedAt + feedV2ResolvedRetention)

/-- The bindings of `IncidentFeedRegistryRecord.validate_record`. -/
def BindsPointer (digests : FeedDigests) (record : UnsignedRegistryRecord) : Prop :=
  record.entry.incidentId = record.pointer.incidentId ∧
    record.entry.lifecycle = record.pointer.lifecycle ∧
    record.entry.stateResultDigest = record.pointer.stateResultDigest ∧
    record.entry.updatedAt = record.pointer.stateUpdatedAt ∧
    record.entry.feedPointerReference.contentDigest = digests.pointer record.pointer ∧
    record.entry.feedPointerAttestationReference.contentDigest =
      digests.attestation record.pointerAttestation ∧
    record.pointerAttestation.pointerId = record.pointer.pointerId ∧
    record.pointerAttestation.pointerDigest = record.pointer.pointerDigest

instance (digests : FeedDigests) (record : UnsignedRegistryRecord) :
    Decidable (BindsPointer digests record) := by
  unfold BindsPointer
  infer_instance

/-- Failures of the registry, with their messages. -/
inductive RegistryError
  | invalid (message : String)
  | failed (message : String)
  | conflict (message : String)
  | incomplete (message : String)
  | capacity (message : String)
  deriving DecidableEq, Repr

/-- `IncidentFeedRegistryRecord.model_validate_json` on the record's own JSON. -/
def validateRecord (digests : FeedDigests) (record : IncidentFeedRegistryRecord) :
    Except RegistryError IncidentFeedRegistryRecord :=
  if record.schemaVersion ≠ registryRecordSchema ∨ isIncidentId record.entry.incidentId = false then
    .error (.invalid "feed registry record is malformed")
  else if ¬ BindsPointer digests record.toUnsignedRegistryRecord then
    .error (.invalid "feed registry record does not bind its signed pointer")
  else if record.retainedUntil ≠ expectedRetainedUntil record.entry then
    .error (.invalid "feed registry retention does not match entry lifecycle")
  else if record.recordDigest ≠ digests.record record.toUnsignedRegistryRecord then
    .error (.invalid "recordDigest does not bind the feed registry record")
  else if maxFeedV2RegistryRecordBytes < digests.recordLength record then
    .error (.invalid "feed registry record exceeds its byte budget")
  else .ok record

/-- A validated record comes back as it is. -/
theorem validateRecord_ok {digests : FeedDigests} {record validated : IncidentFeedRegistryRecord}
    (h : validateRecord digests record = .ok validated) :
    validated = record ∧ isIncidentId record.entry.incidentId = true := by
  unfold validateRecord at h
  split at h
  · cases h
  · rename_i hmalformed
    have hid : isIncidentId record.entry.incidentId = true := by
      rw [not_or] at hmalformed
      simpa using hmalformed.2
    split at h
    · cases h
    · split at h
      · cases h
      · split at h
        · cases h
        · split at h
          · cases h
          · cases h
            exact ⟨rfl, hid⟩

/-! ## Authority -/

/-- `CurrentIncidentStateSnapshot`. -/
structure CurrentIncidentStateSnapshot where
  state : IncidentState
  pointer : IncidentFeedPointer
  pointerSha256 : Digest
  occurrence : Option IncidentOccurrenceReceipt
  deriving DecidableEq, Repr

/-- `CurrentIncidentStateSnapshot.__post_init__`. -/
def SnapshotBound (encoding : Encoding) (snapshot : CurrentIncidentStateSnapshot) : Prop :=
  snapshot.pointer.incidentId = snapshot.state.incidentId ∧
    snapshot.pointer.stateSha256 = encoding.sha256Hex (.state snapshot.state) ∧
    snapshot.pointerSha256 = encoding.sha256Hex (.pointer snapshot.pointer) ∧
    ∀ occurrence ∈ snapshot.occurrence,
      occurrence.incidentId = snapshot.state.incidentId ∧
        occurrence.transitionId = snapshot.state.transitionId ∧
        occurrence.pointerReference.contentDigest = snapshot.pointerSha256

instance (encoding : Encoding) (snapshot : CurrentIncidentStateSnapshot) :
    Decidable (SnapshotBound encoding snapshot) := by
  unfold SnapshotBound
  infer_instance

/-- The occurrence is the one of the snapshot's state and pointer. -/
def OccurrenceBound (encoding : Encoding) (snapshot : CurrentIncidentStateSnapshot)
    (occurrence : IncidentOccurrenceReceipt) : Prop :=
  let pointer := snapshot.pointer
  occurrence.incidentId = snapshot.state.incidentId ∧
    occurrence.transitionId = snapshot.state.transitionId ∧
    occurrence.stateResultDigest = snapshot.state.resultDigest ∧
    occurrence.stateReference.name = removePrefix pointer.statePath "./" ∧
    occurrence.stateReference.contentDigest = encoding.sha256Hex (.state snapshot.state) ∧
    occurrence.stateAttestationReference.name = removePrefix pointer.attestationPath "./" ∧
    occurrence.stateAttestationReference.contentDigest = pointer.attestationSha256 ∧
    occurrence.pointerReference.name =
      removePrefix (removeSuffix pointer.statePath "/state.json") "./" ++ "/pointer.json" ∧
    occurrence.pointerReference.contentDigest = snapshot.pointerSha256 ∧
    occurrence.pointerAttestationReference.name =
      removePrefix pointer.pointerAttestationPath "./" ∧
    occurrence.publishedAt = pointer.publishedAt

instance (encoding : Encoding) (snapshot : CurrentIncidentStateSnapshot)
    (occurrence : IncidentOccurrenceReceipt) :
    Decidable (OccurrenceBound encoding snapshot occurrence) := by
  unfold OccurrenceBound
  infer_instance

/-- The record is prepared from exactly this occurrence. -/
def PreparedFrom (record : IncidentFeedRegistryRecord) (state : IncidentState)
    (occurrence : IncidentOccurrenceReceipt) : Prop :=
  state.incidentId = record.entry.incidentId ∧
    state.lifecycle = record.entry.lifecycle.toIncident ∧
    state.resultDigest = record.entry.stateResultDigest ∧
    state.updatedAt = record.entry.updatedAt ∧
    occurrence.incidentId = record.entry.incidentId ∧
    occurrence.stateResultDigest = record.entry.stateResultDigest ∧
    record.pointer.occurrenceDigest = occurrence.occurrenceDigest ∧
    record.pointer.sourceStateReference = occurrence.stateReference ∧
    record.pointer.sourceStateAttestationReference = occurrence.stateAttestationReference ∧
    record.pointer.sourcePointerReference = occurrence.pointerReference ∧
    record.pointer.sourcePointerAttestationReference = occurrence.pointerAttestationReference

instance (record : IncidentFeedRegistryRecord) (state : IncidentState)
    (occurrence : IncidentOccurrenceReceipt) :
    Decidable (PreparedFrom record state occurrence) := by
  unfold PreparedFrom
  infer_instance

/-- `validate_incident_feed_registry_record_authority`. -/
def validateIncidentFeedRegistryRecordAuthority (encoding : Encoding)
    (record : IncidentFeedRegistryRecord) (authority : Option CurrentIncidentStateSnapshot) :
    Except RegistryError (CurrentIncidentStateSnapshot × IncidentOccurrenceReceipt) :=
  match authority with
  | none =>
    .error (.incomplete "feed registry is missing authoritative current occurrence")
  | some snapshot =>
    match snapshot.occurrence with
    | none =>
      .error (.incomplete "feed registry is missing authoritative current occurrence")
    | some occurrence =>
      if ¬ SnapshotBound encoding snapshot then
        .error (.incomplete "feed registry current occurrence authority is invalid")
      else if ¬ OccurrenceBound encoding snapshot occurrence then
        .error (.incomplete "feed registry current occurrence authority is invalid")
      else if ¬ PreparedFrom record snapshot.state occurrence then
        .error (.conflict
          "feed registry record does not match authoritative current occurrence")
      else .ok (snapshot, occurrence)

/-- A validated authority is the one that was given, and is about the record. -/
theorem validateAuthority_ok {encoding : Encoding} {record : IncidentFeedRegistryRecord}
    {authority : Option CurrentIncidentStateSnapshot} {snapshot : CurrentIncidentStateSnapshot}
    {occurrence : IncidentOccurrenceReceipt}
    (h : validateIncidentFeedRegistryRecordAuthority encoding record authority =
      .ok (snapshot, occurrence)) :
    authority = some snapshot ∧ snapshot.occurrence = some occurrence ∧
      SnapshotBound encoding snapshot ∧ OccurrenceBound encoding snapshot occurrence ∧
      PreparedFrom record snapshot.state occurrence := by
  unfold validateIncidentFeedRegistryRecordAuthority at h
  split at h
  · cases h
  · split at h
    · cases h
    · rename_i found hfound
      split at h
      · cases h
      · rename_i hbound
        split at h
        · cases h
        · rename_i hoccurrence
          split at h
          · cases h
          · rename_i hprepared
            cases h
            exact ⟨rfl, hfound, not_not.mp hbound, not_not.mp hoccurrence, not_not.mp hprepared⟩

/-! ## Table entities -/

/-- The text under `recordJson`. -/
inductive RecordText
  | malformed
  | json (record : IncidentFeedRegistryRecord)
  deriving DecidableEq, Repr

/-- A row of the registry: the fields its readers ask for, absent or present. -/
structure RegistryEntity where
  schemaVersion : Option String := none
  lifecycle : Option FeedLifecycle := none
  updatedAt : Option UtcDateTime := none
  retainedUntil : Option UtcDateTime := none
  recordDigest : Option Digest := none
  recordJson : Option RecordText := none
  kind : Option String := none
  capacityLimit : Option ℕ := none
  retainedCount : Option ℕ := none
  deriving DecidableEq, Repr

/-- `_CAPACITY_ROW_KEY`. -/
def capacityRowKey : String := "__feed_v2_capacity__"

def capacitySchemaVersion : String := "athena.incidentFeedRegistryCapacity.v1"

/-- No incident is stored under the capacity row's key. -/
theorem ne_capacityRowKey {id : String} (h : isIncidentId id = true) : id ≠ capacityRowKey := by
  rintro rfl
  exact absurd h (by decide)

/-- `_capacity_entity`. -/
def capacityEntity (retainedCount : ℕ) : RegistryEntity where
  schemaVersion := some capacitySchemaVersion
  kind := some "capacity"
  capacityLimit := some maxFeedV2RegistryRecords
  retainedCount := some retainedCount

/-- `_parse_capacity_entity`. -/
def parseCapacityEntity (entity : RegistryEntity) : Except RegistryError ℕ :=
  match entity.retainedCount with
  | none => .error (.failed "feed registry returned invalid capacity metadata")
  | some retainedCount =>
    if entity.schemaVersion ≠ some capacitySchemaVersion ∨ entity.kind ≠ some "capacity" ∨
        entity.capacityLimit ≠ some maxFeedV2RegistryRecords ∨
        maxFeedV2RegistryRecords < retainedCount then
      .error (.failed "feed registry returned invalid capacity metadata")
    else .ok retainedCount

/-- `_entity`. -/
def recordEntity (record : IncidentFeedRegistryRecord) : RegistryEntity where
  schemaVersion := some record.schemaVersion
  lifecycle := some record.entry.lifecycle
  updatedAt := some record.entry.updatedAt
  retainedUntil := record.retainedUntil
  recordDigest := some record.recordDigest
  recordJson := some (.json record)

/-- `_parse_entity`, on the entity under a row key. -/
def parseEntity (digests : FeedDigests) (rowKey : String) (entity : RegistryEntity) :
    Except RegistryError IncidentFeedRegistryRecord :=
  match entity.recordJson with
  | none => .error (.failed "feed registry returned an invalid entity identity")
  | some .malformed => .error (.failed "feed registry returned an invalid record")
  | some (.json text) =>
    match validateRecord digests text with
    | .error _ => .error (.failed "feed registry returned an invalid record")
    | .ok record =>
      if rowKey ≠ record.entry.incidentId ∨ entity.schemaVersion ≠ some record.schemaVersion ∨
          entity.lifecycle ≠ some record.entry.lifecycle ∨
          entity.updatedAt ≠ some record.entry.updatedAt ∨
          entity.retainedUntil ≠ record.retainedUntil ∨
          entity.recordDigest ≠ some record.recordDigest then
        .error (.failed "feed registry entity metadata does not match its record")
      else .ok record

/-- A capacity row reads back the count it was written with. -/
theorem parseCapacityEntity_capacityEntity {n : ℕ} (h : n ≤ maxFeedV2RegistryRecords) :
    parseCapacityEntity (capacityEntity n) = .ok n := by
  simp [parseCapacityEntity, capacityEntity, Nat.not_lt.mpr h]

theorem parseCapacityEntity_ok {n m : ℕ} (h : parseCapacityEntity (capacityEntity n) = .ok m) :
    m = n ∧ n ≤ maxFeedV2RegistryRecords := by
  by_cases hn : n ≤ maxFeedV2RegistryRecords
  · rw [parseCapacityEntity_capacityEntity hn] at h
    exact ⟨(Except.ok.inj h).symm, hn⟩
  · have hlt : maxFeedV2RegistryRecords < n := Nat.lt_of_not_le hn
    simp [parseCapacityEntity, capacityEntity, hlt] at h

/-- A valid record is stored under its incident and reads back as it is. -/
theorem parseEntity_recordEntity {digests : FeedDigests} {record validated :
    IncidentFeedRegistryRecord} (h : validateRecord digests record = .ok validated) :
    parseEntity digests record.entry.incidentId (recordEntity record) = .ok record := by
  have hsame := (validateRecord_ok h).1
  subst hsame
  simp [parseEntity, recordEntity, h]

/-- A row that parses is the row of its record's incident. -/
theorem parseEntity_ok {digests : FeedDigests} {rowKey : String} {entity : RegistryEntity}
    {record : IncidentFeedRegistryRecord} (h : parseEntity digests rowKey entity = .ok record) :
    record.entry.incidentId = rowKey ∧ isIncidentId rowKey = true := by
  unfold parseEntity at h
  split at h
  · cases h
  · cases h
  · split at h
    · cases h
    · rename_i validated hvalid
      obtain ⟨hsame, hid⟩ := validateRecord_ok hvalid
      subst hsame
      split at h
      · cases h
      · rename_i hmeta
        rw [not_or] at hmeta
        cases h
        have hkey := not_not.mp hmeta.1
        exact ⟨hkey.symm, hkey ▸ hid⟩

end AthenaContext.FeedRegistryRecords
