import AthenaContext.OrdinalCollections
import Mathlib

/-!
# Incident records and their publications

Incident states, feed pointers, the active incident index and the requests
that publish them. A record stands for its canonical bytes. The SHA-256
function over the published payloads, their byte lengths and the signatures
are parameters; instants are milliseconds, the precision which canonical JSON
admits.
-/

namespace AthenaContext.IncidentRecords

open OrdinalCollections

/-- A digest text. -/
abbrev Digest := String

/-- An instant in milliseconds. -/
abbrev UtcDateTime := ℤ

/-- `IncidentScenario`. -/
inductive IncidentScenario
  | singletonDatabaseFailure | webServerFailure | loadBalancerFailure
  deriving DecidableEq, Repr

/-- Wire text of a scenario. -/
def IncidentScenario.text : IncidentScenario → String
  | .singletonDatabaseFailure => "singletonDatabaseFailure"
  | .webServerFailure => "webServerFailure"
  | .loadBalancerFailure => "loadBalancerFailure"

/-- `IncidentLifecycle`. -/
inductive IncidentLifecycle
  | detected | queued | reassessing | active | recoveryObserved | resolved
  deriving DecidableEq, Repr

/-- `WorkloadRole`. -/
inductive WorkloadRole
  | databasePrimary | web | loadBalancer
  deriving DecidableEq, Repr

/-- Wire text of a role. -/
def WorkloadRole.text : WorkloadRole → String
  | .databasePrimary => "database-primary"
  | .web => "web"
  | .loadBalancer => "load-balancer"

/-- `Availability`. -/
inductive Availability
  | normal | warning | critical | unknown
  deriving DecidableEq, Repr

/-- Wire text of an availability. -/
def Availability.text : Availability → String
  | .normal => "normal"
  | .warning => "warning"
  | .critical => "critical"
  | .unknown => "unknown"

/-- `BlastRadius`. -/
inductive BlastRadius
  | none | webTier | ingressEdge | dataTier | wholeWorkload | unknown
  deriving DecidableEq, Repr

/-- Wire text of a blast radius. -/
def BlastRadius.text : BlastRadius → String
  | .none => "none"
  | .webTier => "web-tier"
  | .ingressEdge => "ingress-edge"
  | .dataTier => "data-tier"
  | .wholeWorkload => "whole-workload"
  | .unknown => "unknown"

/-- `OperatorAttention`. -/
inductive OperatorAttention
  | normal | required | urgent
  deriving DecidableEq, Repr

/-- Wire text of an operator attention. -/
def OperatorAttention.text : OperatorAttention → String
  | .normal => "normal"
  | .required => "required"
  | .urgent => "urgent"

/-- `_ACTIVE_IMPACT`. -/
def activeImpact : IncidentScenario → Availability × BlastRadius × OperatorAttention
  | .singletonDatabaseFailure => (.critical, .wholeWorkload, .urgent)
  | .webServerFailure => (.warning, .webTier, .required)
  | .loadBalancerFailure => (.critical, .ingressEdge, .urgent)

/-- `IncidentFinding`. -/
structure IncidentFinding where
  clauseId : String
  verdict : String
  summary : String
  evidenceRefs : List String
  deriving DecidableEq, Repr

/-- The preimage of a state's result digest. -/
structure UnsignedIncidentState where
  incidentId : String
  transitionId : String
  scenario : IncidentScenario
  lifecycle : IncidentLifecycle
  workloadRole : WorkloadRole
  detectedAt : UtcDateTime
  updatedAt : UtcDateTime
  targetBinding : Digest
  availability : Availability
  blastRadius : BlastRadius
  operatorAttention : OperatorAttention
  findings : List IncidentFinding
  reasoning : List String
  deriving DecidableEq, Repr

/-- `IncidentState`. -/
structure IncidentState extends UnsignedIncidentState where
  resultDigest : Digest
  deriving DecidableEq, Repr

/-- The four attestation records: a digest signed under a vault key. -/
structure Attestation where
  digest : Digest
  keyVaultKeyId : String
  detachedSignature : String
  deriving DecidableEq, Repr

/-- `IncidentFeedPointer`. -/
structure IncidentFeedPointer where
  incidentId : String
  statePath : String
  stateSha256 : Digest
  attestationPath : String
  attestationSha256 : Digest
  pointerAttestationPath : String
  keyId : String
  keyFingerprint : Digest
  publishedAt : UtcDateTime
  deriving DecidableEq, Repr

/-- `ActiveIncidentEntry`; its lifecycle is the constant `active`. -/
structure ActiveIncidentEntry where
  incidentId : String
  scenario : IncidentScenario
  workloadRole : WorkloadRole
  pointerPath : String
  pointerSha256 : Digest
  detectedAt : UtcDateTime
  updatedAt : UtcDateTime
  deriving DecidableEq, Repr

/-- What the version of an active index is computed from. -/
structure ActiveIncidentIndexSeed where
  incidents : List ActiveIncidentEntry
  keyId : String
  keyFingerprint : Digest
  publishedAt : UtcDateTime
  deriving DecidableEq, Repr

/-- `ActiveIncidentIndex`. -/
structure ActiveIncidentIndex extends ActiveIncidentIndexSeed where
  indexAttestationPath : String
  deriving DecidableEq, Repr

/-- The entry of an incident in an index. -/
def ActiveIncidentIndex.entryOf (index : ActiveIncidentIndex) (incidentId : String) :
    Option ActiveIncidentEntry :=
  index.incidents.find? fun e => e.incidentId == incidentId

/-- `VersionPinnedBlobReference`. -/
structure VersionPinnedBlobReference where
  name : String
  version : String
  contentDigest : Digest
  deriving DecidableEq, Repr

/-- What the identity of an occurrence receipt is computed from. -/
structure IncidentOccurrence where
  incidentId : String
  transitionId : String
  stateResultDigest : Digest
  stateReference : VersionPinnedBlobReference
  stateAttestationReference : VersionPinnedBlobReference
  pointerReference : VersionPinnedBlobReference
  pointerAttestationReference : VersionPinnedBlobReference
  publishedAt : UtcDateTime
  deriving DecidableEq, Repr

/-- `IncidentOccurrenceReceipt`. -/
structure IncidentOccurrenceReceipt extends IncidentOccurrence where
  occurrenceId : String
  occurrenceDigest : Digest
  deriving DecidableEq, Repr

/-- Everything that is hashed: published payloads and digest preimages. -/
inductive Payload
  | unsignedState (s : UnsignedIncidentState)
  | state (s : IncidentState)
  | attestation (a : Attestation)
  | pointer (p : IncidentFeedPointer)
  | indexSeed (s : ActiveIncidentIndexSeed)
  | index (i : ActiveIncidentIndex)
  | occurrence (o : IncidentOccurrence)
  | receipt (r : IncidentOccurrenceReceipt)
  deriving DecidableEq, Repr

/-- Digest and length of canonical bytes. -/
structure Encoding where
  sha256Hex : Payload → Digest
  byteLength : Payload → ℕ

def maxPresentationAttestationBytes : ℕ := 24 * 1024
def maxIncidentFeedPointerBytes : ℕ := 16 * 1024
def maxIncidentStateBytes : ℕ := 64 * 1024

/-- `str.removeprefix`. -/
def removePrefix (s pre : String) : String :=
  if pre.toList.isPrefixOf s.toList then String.ofList (s.toList.drop pre.toList.length) else s

/-- `str.removesuffix`. -/
def removeSuffix (s suffix : String) : String :=
  if suffix.toList.isSuffixOf s.toList then
    String.ofList (s.toList.take (s.toList.length - suffix.toList.length))
  else s

theorem removePrefix_append (pre s : String) : removePrefix (pre ++ s) pre = s := by
  have hfront : pre.toList.isPrefixOf (pre ++ s).toList = true := by
    rw [List.isPrefixOf_iff_prefix, String.toList_append]
    exact List.prefix_append _ _
  rw [removePrefix, if_pos hfront, String.toList_append, List.drop_left, String.ofList_toList]

/-- `PresentationAsset`. -/
structure PresentationAsset where
  blobName : String
  payload : Payload
  deriving DecidableEq, Repr

/-- Failures of the builders and of the publisher, with their messages. -/
inductive PresentationError
  | invalid (message : String)
  | unavailable (message : String)
  | alreadyExists (message : String)
  deriving DecidableEq, Repr

/-- The byte bound of `PresentationAsset.__post_init__`. -/
def makeAsset (encoding : Encoding) (blobName : String) (payload : Payload) (maximumBytes : ℕ) :
    Except PresentationError PresentationAsset :=
  if encoding.byteLength payload ≤ maximumBytes then .ok ⟨blobName, payload⟩
  else .error (.invalid "presentation asset exceeds its configured byte bound")

/-- A signing key as publisher and caller name it. -/
structure SigningKey where
  keyId : String
  keyVaultKeyId : String
  keyFingerprint : Digest
  deriving DecidableEq, Repr

/-- `ActiveIncidentIndexSnapshot`; its digest is the digest of the index. -/
abbrev ActiveIncidentIndexSnapshot := ActiveIncidentIndex

/-- `ActiveIncidentIndexPublicationRequest`. -/
structure ActiveIncidentIndexPublicationRequest where
  activeIndex : ActiveIncidentIndex
  activeIndexAttestation : Attestation
  activeIndexAsset : PresentationAsset
  activeIndexAttestationAsset : PresentationAsset
  previousActiveIndexSha256 : Option Digest
  deriving DecidableEq, Repr

/-- `IncidentPublicationRequest`: the index part with the occurrence. -/
structure IncidentPublicationRequest extends ActiveIncidentIndexPublicationRequest where
  pointer : IncidentFeedPointer
  pointerAttestation : Attestation
  pointerAsset : PresentationAsset
  currentPointerAsset : PresentationAsset
  pointerAttestationAsset : PresentationAsset
  state : PresentationAsset
  attestation : PresentationAsset
  deriving DecidableEq, Repr

section Builders

variable (encoding : Encoding) (sign : Payload → String) (key : SigningKey)

/-- `publishedAt` of a rebuilt index: never before the previous one, and one
millisecond later where it would be equal. -/
def indexPublishedAt (publishedAt : UtcDateTime) (previous : Option ActiveIncidentIndex) :
    UtcDateTime :=
  match previous with
  | none => publishedAt
  | some index =>
    let latest := max publishedAt index.publishedAt
    if latest = index.publishedAt then latest + 1 else latest

/-- The index which a publication is about. -/
def nextActiveIndex (entries : List ActiveIncidentEntry) (publishedAt : UtcDateTime)
    (previous : Option ActiveIncidentIndex) (reuseUnchanged : Bool) : ActiveIncidentIndex :=
  let rebuilt : ActiveIncidentIndexSeed :=
    ⟨entries, key.keyId, key.keyFingerprint, indexPublishedAt publishedAt previous⟩
  let fresh : ActiveIncidentIndex :=
    { rebuilt with
      indexAttestationPath := "./incidents/index-attestations/" ++
        removePrefix (encoding.sha256Hex (.indexSeed rebuilt)) "sha256:" ++ ".json" }
  match previous with
  | none => fresh
  | some index =>
    if reuseUnchanged ∧ entries = index.incidents ∧ index.keyId = key.keyId ∧
        index.keyFingerprint = key.keyFingerprint then index
    else fresh

/-- `_build_active_incident_index_publication` on entries in identifier order. -/
def buildActiveIncidentIndexPublication (entries : List ActiveIncidentEntry)
    (publishedAt : UtcDateTime) (snapshot : Option ActiveIncidentIndexSnapshot)
    (reuseUnchanged : Bool) : Except PresentationError ActiveIncidentIndexPublicationRequest := do
  if ¬ (entries.map ActiveIncidentEntry.incidentId).Nodup then
    .error (.invalid "active incident heartbeat entries must be unique")
  else
    let ordered := sortOn ActiveIncidentEntry.incidentId entries
    let activeIndex := nextActiveIndex encoding key ordered publishedAt snapshot reuseUnchanged
    if 64 < activeIndex.incidents.length then
      .error (.invalid "active incident index holds too many incidents")
    else
      let attestation : Attestation :=
        ⟨encoding.sha256Hex (.index activeIndex), key.keyVaultKeyId, sign (.index activeIndex)⟩
      let indexAsset ← makeAsset encoding "incidents/active.json" (.index activeIndex)
        maxIncidentStateBytes
      let attestationAsset ← makeAsset encoding
        (removePrefix activeIndex.indexAttestationPath "./") (.attestation attestation)
        maxPresentationAttestationBytes
      return ⟨activeIndex, attestation, indexAsset, attestationAsset,
        snapshot.map fun s => encoding.sha256Hex (.index s)⟩

/-- `build_active_incident_index_heartbeat`. -/
def buildActiveIncidentIndexHeartbeat (publishedAt : UtcDateTime)
    (snapshot : Option ActiveIncidentIndexSnapshot) :
    Except PresentationError ActiveIncidentIndexPublicationRequest :=
  buildActiveIncidentIndexPublication encoding sign key
    (snapshot.elim [] fun s => s.incidents) publishedAt snapshot false

/-- Entries after a publication: the incident's entry is set or removed. -/
def publishedEntries (state : IncidentState) (pointerPath : String) (pointerSha256 : Digest)
    (previous : List ActiveIncidentEntry) : List ActiveIncidentEntry :=
  let others := previous.filter fun e => e.incidentId ≠ state.incidentId
  if state.lifecycle = .active then
    sortOn ActiveIncidentEntry.incidentId
      (⟨state.incidentId, state.scenario, state.workloadRole, pointerPath, pointerSha256,
        state.detectedAt, state.updatedAt⟩ :: others)
  else sortOn ActiveIncidentEntry.incidentId others

/-- Blob folder of one state version. -/
def versionPrefix (state : IncidentState) : String :=
  "incidents/" ++ state.incidentId ++ "/versions/" ++ removePrefix state.resultDigest "sha256:"

/-- The feed pointer of a state. -/
def incidentPointer (state : IncidentState) (attestation : Attestation)
    (publishedAt : UtcDateTime) : IncidentFeedPointer where
  incidentId := state.incidentId
  statePath := "./" ++ versionPrefix state ++ "/state.json"
  stateSha256 := encoding.sha256Hex (.state state)
  attestationPath := "./" ++ versionPrefix state ++ "/attestation.json"
  attestationSha256 := encoding.sha256Hex (.attestation attestation)
  pointerAttestationPath := "./" ++ versionPrefix state ++ "/pointer-attestation.json"
  keyId := key.keyId
  keyFingerprint := key.keyFingerprint
  publishedAt := max publishedAt state.updatedAt

/-- `build_incident_publication`. -/
def buildIncidentPublication (state : IncidentState) (attestation : Attestation)
    (publishedAt : UtcDateTime) (snapshot : Option ActiveIncidentIndexSnapshot) :
    Except PresentationError IncidentPublicationRequest := do
  let folder := versionPrefix state
  let stateAsset ← makeAsset encoding (folder ++ "/state.json") (.state state)
    maxIncidentStateBytes
  let attestationAsset ← makeAsset encoding (folder ++ "/attestation.json")
    (.attestation attestation) maxPresentationAttestationBytes
  let pointer := incidentPointer encoding key state attestation publishedAt
  let pointerSha256 := encoding.sha256Hex (.pointer pointer)
  let pointerAttestation : Attestation :=
    ⟨pointerSha256, key.keyVaultKeyId, sign (.pointer pointer)⟩
  let pointerAsset ← makeAsset encoding (folder ++ "/pointer.json") (.pointer pointer)
    maxIncidentFeedPointerBytes
  let currentPointerAsset ← makeAsset encoding
    ("incidents/" ++ state.incidentId ++ "/current.json") (.pointer pointer)
    maxIncidentFeedPointerBytes
  let index ← buildActiveIncidentIndexPublication encoding sign key
    (publishedEntries state ("./" ++ pointerAsset.blobName) pointerSha256
      (snapshot.elim [] fun s => s.incidents))
    (max publishedAt state.updatedAt) snapshot true
  let pointerAttestationAsset ← makeAsset encoding
    (removePrefix pointer.pointerAttestationPath "./") (.attestation pointerAttestation)
    maxPresentationAttestationBytes
  return { index with
    pointer, pointerAttestation, pointerAsset, currentPointerAsset, pointerAttestationAsset
    state := stateAsset
    attestation := attestationAsset }

end Builders

/-! ## What a built publication holds -/

section Facts

variable {encoding : Encoding} {sign : Payload → String} {key : SigningKey}

/-- A computation that may fail succeeds when both of its parts do. -/
theorem bind_eq_ok {ε α β : Type} {x : Except ε α} {f : α → Except ε β} {b : β} :
    (x >>= f) = .ok b ↔ ∃ a, x = .ok a ∧ f a = .ok b := by
  cases x with
  | error e => exact ⟨nofun, nofun⟩
  | ok a =>
    constructor
    · intro h
      exact ⟨a, rfl, h⟩
    · intro h
      obtain ⟨a', ha, h⟩ := h
      cases ha
      exact h

theorem makeAsset_ok {blobName : String} {payload : Payload} {n : ℕ} {asset : PresentationAsset}
    (h : makeAsset encoding blobName payload n = .ok asset) : asset = ⟨blobName, payload⟩ := by
  unfold makeAsset at h
  split at h
  · exact (Except.ok.inj h).symm
  · cases h

/-- The instant of a rebuilt index lies after the previous one. -/
theorem indexPublishedAt_gt (publishedAt : UtcDateTime) (index : ActiveIncidentIndex) :
    index.publishedAt < indexPublishedAt publishedAt (some index) := by
  have hle : index.publishedAt ≤ max publishedAt index.publishedAt := le_max_right _ _
  simp only [indexPublishedAt]
  split
  · exact Int.lt_add_one_of_le hle
  · rename_i hne
    exact lt_of_le_of_ne hle (Ne.symm hne)

/-- A published index holds the given entries, is signed under the caller's
key, and is the previous index or newer than it. -/
theorem nextActiveIndex_spec (entries : List ActiveIncidentEntry) (publishedAt : UtcDateTime)
    (previous : Option ActiveIncidentIndex) (reuse : Bool) :
    let index := nextActiveIndex encoding key entries publishedAt previous reuse
    index.incidents = entries ∧ index.keyId = key.keyId ∧
      index.keyFingerprint = key.keyFingerprint ∧
      ∀ p ∈ previous, index = p ∨ p.publishedAt < index.publishedAt := by
  unfold nextActiveIndex
  cases previous with
  | none => exact ⟨rfl, rfl, rfl, fun p hp => by cases hp⟩
  | some p =>
    dsimp only
    split
    · rename_i hsame
      refine ⟨hsame.2.1.symm, hsame.2.2.1, hsame.2.2.2, fun q hq => ?_⟩
      cases hq
      exact Or.inl rfl
    · refine ⟨rfl, rfl, rfl, fun q hq => ?_⟩
      cases hq
      exact Or.inr (indexPublishedAt_gt publishedAt p)

/-- Entries of an index by incident, for an index that may be absent. -/
def snapshotEntryOf (snapshot : Option ActiveIncidentIndex) (incidentId : String) :
    Option ActiveIncidentEntry :=
  snapshot.bind fun index => index.entryOf incidentId

/-- The entries of a snapshot. -/
def snapshotEntries (snapshot : Option ActiveIncidentIndex) : List ActiveIncidentEntry :=
  snapshot.elim [] fun index => index.incidents

theorem snapshotEntryOf_eq (snapshot : Option ActiveIncidentIndex) (incidentId : String) :
    snapshotEntryOf snapshot incidentId =
      (snapshotEntries snapshot).find? fun e => e.incidentId == incidentId := by
  cases snapshot <;> rfl

/-- The entries of a snapshot whose index is in order have distinct incidents. -/
theorem snapshotEntries_nodup {snapshot : Option ActiveIncidentIndex}
    (h : ∀ p ∈ snapshot, strictlyOrdered ActiveIncidentEntry.incidentId p.incidents) :
    ((snapshotEntries snapshot).map ActiveIncidentEntry.incidentId).Nodup := by
  cases snapshot with
  | none => exact List.nodup_nil
  | some p => exact (h p rfl).nodup

section PublishedEntries

variable {state : IncidentState} {path : String} {digest : Digest}
  {previous : List ActiveIncidentEntry}

/-- The entry which a publication writes for its incident. -/
def publishedEntry (state : IncidentState) (path : String) (digest : Digest) :
    ActiveIncidentEntry :=
  ⟨state.incidentId, state.scenario, state.workloadRole, path, digest, state.detectedAt,
    state.updatedAt⟩

theorem mem_publishedEntries {e : ActiveIncidentEntry} :
    e ∈ publishedEntries state path digest previous ↔
      (state.lifecycle = .active ∧ e = publishedEntry state path digest) ∨
        (e ∈ previous ∧ e.incidentId ≠ state.incidentId) := by
  unfold publishedEntries
  by_cases ha : state.lifecycle = .active
  · simp [ha, publishedEntry]
  · simp [ha]

/-- A publication writes one entry per incident. -/
theorem publishedEntries_nodup (h : (previous.map ActiveIncidentEntry.incidentId).Nodup) :
    ((publishedEntries state path digest previous).map ActiveIncidentEntry.incidentId).Nodup := by
  have hothers : ((previous.filter fun e => e.incidentId ≠ state.incidentId).map
      ActiveIncidentEntry.incidentId).Nodup :=
    h.sublist (List.filter_sublist.map _)
  unfold publishedEntries
  split
  · refine ((sortOn_perm _ _).map _).nodup_iff.mpr ?_
    rw [List.map_cons, List.nodup_cons]
    refine ⟨fun hm => ?_, hothers⟩
    obtain ⟨e, he, hid⟩ := List.mem_map.mp hm
    have hne := (List.mem_filter.mp he).2
    simp [hid] at hne
  · exact ((sortOn_perm _ _).map _).nodup_iff.mpr hothers

/-- A publication keeps the entries of all other incidents. -/
theorem publishedEntries_other (h : (previous.map ActiveIncidentEntry.incidentId).Nodup)
    {incidentId : String} (hne : incidentId ≠ state.incidentId) :
    ((publishedEntries state path digest previous).find? fun e => e.incidentId == incidentId) =
      previous.find? fun e => e.incidentId == incidentId := by
  refine find_key_congr (publishedEntries_nodup h) h fun e he => ?_
  rw [mem_publishedEntries]
  constructor
  · rintro (⟨-, rfl⟩ | ⟨hm, -⟩)
    · exact absurd he.symm hne
    · exact hm
  · intro hm
    exact Or.inr ⟨hm, he ▸ hne⟩

/-- A publication sets the entry of an active incident and removes that of any
other. -/
theorem publishedEntries_own (h : (previous.map ActiveIncidentEntry.incidentId).Nodup) :
    ((publishedEntries state path digest previous).find?
      fun e => e.incidentId == state.incidentId) =
      if state.lifecycle = .active then some (publishedEntry state path digest) else none := by
  split
  · rename_i ha
    exact find_key (publishedEntries_nodup h) (mem_publishedEntries.mpr (Or.inl ⟨ha, rfl⟩))
  · rename_i ha
    refine find_key_none fun e he => ?_
    rcases mem_publishedEntries.mp he with ⟨h', -⟩ | ⟨-, hne⟩
    · exact absurd h' ha
    · exact hne

end PublishedEntries

/-- What an index publication carries, for the snapshot and the entries it was
built from. -/
structure BuiltIndex (encoding : Encoding) (key : SigningKey)
    (entries : List ActiveIncidentEntry) (snapshot : Option ActiveIncidentIndex)
    (request : ActiveIncidentIndexPublicationRequest) : Prop where
  nodup : (entries.map ActiveIncidentEntry.incidentId).Nodup
  incidents : request.activeIndex.incidents = sortOn ActiveIncidentEntry.incidentId entries
  newer : ∀ p ∈ snapshot,
    request.activeIndex = p ∨ p.publishedAt < request.activeIndex.publishedAt
  previous : request.previousActiveIndexSha256 =
    snapshot.map fun s => encoding.sha256Hex (.index s)
  attested : request.activeIndexAttestationAsset.payload =
    .attestation request.activeIndexAttestation

theorem buildActiveIncidentIndexPublication_ok {entries : List ActiveIncidentEntry}
    {publishedAt : UtcDateTime} {snapshot : Option ActiveIncidentIndex} {reuse : Bool}
    {request : ActiveIncidentIndexPublicationRequest}
    (h : buildActiveIncidentIndexPublication encoding sign key entries publishedAt snapshot reuse =
      .ok request) : BuiltIndex encoding key entries snapshot request := by
  unfold buildActiveIncidentIndexPublication at h
  by_cases hn : (entries.map ActiveIncidentEntry.incidentId).Nodup
  · rw [if_neg (not_not.mpr hn)] at h
    obtain ⟨hi, -, -, hnewer⟩ := @nextActiveIndex_spec encoding key
      (sortOn ActiveIncidentEntry.incidentId entries) publishedAt snapshot reuse
    dsimp only at h
    split at h
    · cases h
    · obtain ⟨indexAsset, ha, h⟩ := bind_eq_ok.mp h
      obtain ⟨attestationAsset, hb, h⟩ := bind_eq_ok.mp h
      cases h
      have hasset := makeAsset_ok hb
      exact ⟨hn, hi, hnewer, rfl, by rw [hasset]⟩
  · rw [if_pos hn] at h
    cases h

namespace BuiltIndex

variable {entries : List ActiveIncidentEntry} {snapshot : Option ActiveIncidentIndex}
  {request : ActiveIncidentIndexPublicationRequest}

/-- A built index is in strict order. -/
theorem ordered (h : BuiltIndex encoding key entries snapshot request) :
    strictlyOrdered ActiveIncidentEntry.incidentId request.activeIndex.incidents := by
  rw [h.incidents]
  exact sortOn_strictlyOrdered h.nodup

/-- A built index gives every incident the entry it was built with. -/
theorem entry (h : BuiltIndex encoding key entries snapshot request) (incidentId : String) :
    request.activeIndex.entryOf incidentId =
      entries.find? fun e => e.incidentId == incidentId := by
  unfold ActiveIncidentIndex.entryOf
  refine find_key_congr h.ordered.nodup h.nodup fun e _ => ?_
  rw [h.incidents, mem_sortOn]

end BuiltIndex

/-- What an incident publication carries. -/
structure BuiltIncident (encoding : Encoding) (key : SigningKey) (state : IncidentState)
    (attestation : Attestation) (snapshot : Option ActiveIncidentIndex)
    (request : IncidentPublicationRequest) : Prop where
  index : BuiltIndex encoding key
    (publishedEntries state ("./" ++ request.pointerAsset.blobName)
      (encoding.sha256Hex (.pointer request.pointer)) (snapshotEntries snapshot)) snapshot
    request.toActiveIncidentIndexPublicationRequest
  incident : request.pointer.incidentId = state.incidentId
  statePath : request.pointer.statePath = "./" ++ request.state.blobName
  stateAsset : request.state = ⟨versionPrefix state ++ "/state.json", .state state⟩
  current : request.currentPointerAsset.blobName =
    "incidents/" ++ state.incidentId ++ "/current.json"

theorem buildIncidentPublication_ok {state : IncidentState} {attestation : Attestation}
    {publishedAt : UtcDateTime} {snapshot : Option ActiveIncidentIndex}
    {request : IncidentPublicationRequest}
    (h : buildIncidentPublication encoding sign key state attestation publishedAt snapshot =
      .ok request) : BuiltIncident encoding key state attestation snapshot request := by
  unfold buildIncidentPublication at h
  obtain ⟨stateAsset, hs, h⟩ := bind_eq_ok.mp h
  obtain ⟨attestationAsset, ha, h⟩ := bind_eq_ok.mp h
  obtain ⟨pointerAsset, hp, h⟩ := bind_eq_ok.mp h
  obtain ⟨currentAsset, hc, h⟩ := bind_eq_ok.mp h
  obtain ⟨index, hi, h⟩ := bind_eq_ok.mp h
  obtain ⟨pointerAttestationAsset, hpa, h⟩ := bind_eq_ok.mp h
  cases h
  have hstate := makeAsset_ok hs
  have hcurrent := makeAsset_ok hc
  refine ⟨buildActiveIncidentIndexPublication_ok hi, rfl, ?_, hstate, ?_⟩
  · rw [hstate]
    simp only [incidentPointer, String.append_assoc]
  · rw [hcurrent]

end Facts

end AthenaContext.IncidentRecords
