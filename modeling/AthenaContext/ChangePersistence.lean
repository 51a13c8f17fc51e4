import AthenaContext.ConditionalStores
import AthenaContext.TransitionSystems
import Mathlib

/-!
# Change evidence persistence

The signed evidence artifact and its handoff over a store whose blobs are created
once and read by version. Any number of calls interleave, each for a delivery of
its own; a request may fail with or without effect, and a call may crash between
any two of them. Payloads are kept in the form that canonical JSON gives them: its
text normalization acts on the free texts, and leaves every text of an ASCII
pattern as it is.
-/

namespace AthenaContext.ChangePersistence

open ConditionalStores TransitionSystems

/-- Milliseconds since the epoch. -/
abbrev UtcDateTime := ℤ

/-- A digest text. -/
abbrev Digest := String

inductive ChangeEvidenceSource
  | azureEventGrid | azureResourceGraphChangeHistory
  deriving DecidableEq, Repr

inductive ChangeOperation
  | create | update | createOrUpdate | delete | action
  deriving DecidableEq, Repr

inductive ChangeResult
  | succeeded | failed | unknown
  deriving DecidableEq, Repr

inductive ActorKind
  | user | application | managedIdentity | system | unknown
  deriving DecidableEq, Repr

inductive DeploymentSourceKind
  | azurePortal | automation | resourceManager | policy | unknown
  deriving DecidableEq, Repr

inductive PolicyEnforcementMode
  | default | doNotEnforce | unknown
  deriving DecidableEq, Repr

structure ChangeActor where
  kind : ActorKind
  reference : String
  deriving DecidableEq, Repr

structure DeploymentSource where
  kind : DeploymentSourceKind
  reference : String
  deriving DecidableEq, Repr

structure ChangePolicyContext where
  assignmentReference : Option String
  definitionReference : Option String
  enforcementMode : PolicyEnforcementMode
  deriving DecidableEq, Repr

structure ChangedProperty where
  path : String
  beforeEvidenceReference : Option String
  afterEvidenceReference : Option String
  isTruncated : Bool
  deriving DecidableEq, Repr

/-- The fields of `NormalizedChangeEvidence` that come from the source record. -/
structure SourceRecordEvidence where
  evidenceId : String
  deduplicationKey : Digest
  changeKey : Digest
  sourceSystem : ChangeEvidenceSource
  sourceRecordReference : String
  sourceDigest : Digest
  targetResourceId : String
  targetResourceType : String
  operation : ChangeOperation
  operationName : String
  result : ChangeResult
  changedProperties : List ChangedProperty
  actor : ChangeActor
  occurredAt : UtcDateTime
  correlationId : String
  deploymentSource : DeploymentSource
  policyContext : ChangePolicyContext
  beforeEvidenceReference : Option String
  afterEvidenceReference : Option String
  deriving DecidableEq, Repr

/-- `NormalizedChangeEvidence`. -/
structure NormalizedChangeEvidence extends SourceRecordEvidence where
  receivedAt : UtcDateTime
  deriving DecidableEq, Repr

/-- `ChangeEvidenceAttestation`. -/
structure ChangeEvidenceAttestation where
  keyVaultKeyId : String
  signedPreimageDigest : Digest
  signature : String
  deriving DecidableEq, Repr

/-- `ChangeEvidenceArtifact`. -/
structure ChangeEvidenceArtifact where
  evidence : NormalizedChangeEvidence
  attestation : ChangeEvidenceAttestation
  deriving DecidableEq, Repr

/-- The two blobs of a deduplication key: `evidence.json` and
`persistence-handoff.json`. -/
inductive BlobName
  | artifact (deduplicationKey : Digest)
  | handoff (deduplicationKey : Digest)
  deriving DecidableEq, Repr

/-- `VersionPinnedBlobReference`. -/
structure VersionPinnedBlobReference where
  name : BlobName
  version : String
  contentDigest : Digest
  deriving DecidableEq, Repr

/-- `ChangeEvidencePersistenceHandoff`. -/
structure ChangeEvidencePersistenceHandoff where
  evidenceId : String
  deduplicationKey : Digest
  changeKey : Digest
  artifact : VersionPinnedBlobReference
  deriving DecidableEq, Repr

/-- What the blobs hold. -/
inductive Payload
  | artifact (artifact : ChangeEvidenceArtifact)
  | handoff (handoff : ChangeEvidencePersistenceHandoff)
  deriving DecidableEq, Repr

/-- The digests, the text normalization of canonical JSON, the key vault's
verification and the texts of the store's versions. -/
structure PersistenceConfig where
  deliveryKey : ChangeEvidenceSource → String → Digest
  changeKey : String → String → ChangeResult → String → Digest
  evidenceId : Digest → String
  preimageDigest : NormalizedChangeEvidence → Digest
  payloadSha256 : Payload → Digest
  payloadSize : Payload → ℕ
  normalizeText : String → String
  normalizeText_idem : ∀ text, normalizeText (normalizeText text) = normalizeText text
  verifyPreimage : NormalizedChangeEvidence → List UInt8 → Bool
  versionId : ℕ → String

/-- One delivery: its evidence, and the key and the signature of its call. -/
structure ChangeDelivery where
  evidence : NormalizedChangeEvidence
  signingKeyId : String
  signature : String

/-- `MAX_CHANGE_EVENT_BYTES`. -/
def maxChangeEventBytes : ℕ := 64 * 1024

/-! ## Base64 -/

def base64Alphabet : List Char :=
  "ABCDEFGHIJKLMNOPQRSTUVWXYZabcdefghijklmnopqrstuvwxyz0123456789+/".toList

def base64Value (c : Char) : Option ℕ := base64Alphabet.idxOf? c

def base64Digit (n : ℕ) : Char := base64Alphabet.getD n '='

/-- `base64.b64encode`. -/
def base64Encode : List UInt8 → List Char
  | [] => []
  | [a] => [base64Digit (a.toNat / 4), base64Digit (a.toNat % 4 * 16), '=', '=']
  | [a, b] =>
    [base64Digit (a.toNat / 4), base64Digit (a.toNat % 4 * 16 + b.toNat / 16),
      base64Digit (b.toNat % 16 * 4), '=']
  | a :: b :: c :: rest =>
    base64Digit (a.toNat / 4) :: base64Digit (a.toNat % 4 * 16 + b.toNat / 16) ::
      base64Digit (b.toNat % 16 * 4 + c.toNat / 64) :: base64Digit (c.toNat % 64) ::
      base64Encode rest

/-- `base64.b64decode` with `validate=True`. -/
def base64Decode : List Char → Option (List UInt8)
  | [] => some []
  | [a, b, '=', '='] => do
    let x ← base64Value a
    let y ← base64Value b
    return [UInt8.ofNat (x * 4 + y / 16)]
  | [a, b, c, '='] => do
    let x ← base64Value a
    let y ← base64Value b
    let z ← base64Value c
    return [UInt8.ofNat (x * 4 + y / 16), UInt8.ofNat (y % 16 * 16 + z / 4)]
  | a :: b :: c :: d :: rest => do
    let x ← base64Value a
    let y ← base64Value b
    let z ← base64Value c
    let w ← base64Value d
    let bytes ← base64Decode rest
    return UInt8.ofNat (x * 4 + y / 16) :: UInt8.ofNat (y % 16 * 16 + z / 4) ::
      UInt8.ofNat (z % 4 * 64 + w) :: bytes
  | _ => none

/-- The bytes of a signature text that is exactly their nonempty encoding. -/
def signatureBytes (text : String) : Option (List UInt8) :=
  match base64Decode text.toList with
  | some bytes => if bytes ≠ [] ∧ base64Encode bytes = text.toList then some bytes else none
  | none => none

section Contracts

variable (cfg : PersistenceConfig)

/-- The operation family of a change key. -/
def operationFamily : ChangeOperation → String
  | .create => "write"
  | .update => "write"
  | .createOrUpdate => "write"
  | .delete => "delete"
  | .action => "action"

/-- The record in canonical JSON. -/
def canonicalRecord (r : SourceRecordEvidence) : SourceRecordEvidence :=
  { r with
    targetResourceType := cfg.normalizeText r.targetResourceType
    operationName := cfg.normalizeText r.operationName }

/-- The evidence in canonical JSON. -/
def canonicalEvidence (e : NormalizedChangeEvidence) : NormalizedChangeEvidence :=
  { e with toSourceRecordEvidence := canonicalRecord cfg e.toSourceRecordEvidence }

/-- `_source_record_evidence_bytes`: the canonical JSON without `received_at`. -/
def sourceRecordEvidenceBytes (e : NormalizedChangeEvidence) : SourceRecordEvidence :=
  canonicalRecord cfg e.toSourceRecordEvidence

/-- The artifact in canonical JSON. -/
def canonicalArtifact (a : ChangeEvidenceArtifact) : ChangeEvidenceArtifact where
  evidence := canonicalEvidence cfg a.evidence
  attestation :=
    { a.attestation with
      keyVaultKeyId := cfg.normalizeText a.attestation.keyVaultKeyId
      signature := cfg.normalizeText a.attestation.signature }

/-- The handoff in canonical JSON. -/
def canonicalHandoff (h : ChangeEvidencePersistenceHandoff) : ChangeEvidencePersistenceHandoff :=
  { h with artifact := { h.artifact with version := cfg.normalizeText h.artifact.version } }

/-- The checks of `NormalizedChangeEvidence` on evidence that is read back, but for
the patterns of its texts. -/
def evidenceValid (e : NormalizedChangeEvidence) : Bool :=
  e.targetResourceType.length ≤ 256 && e.operationName.length ≤ 256 &&
    e.changedProperties.length ≤ 64 && e.occurredAt ≤ e.receivedAt &&
    e.deduplicationKey == cfg.deliveryKey e.sourceSystem e.sourceRecordReference &&
    e.changeKey == cfg.changeKey e.targetResourceId (operationFamily e.operation) e.result
      e.correlationId &&
    e.evidenceId == cfg.evidenceId e.deduplicationKey

/-- The checks of `ChangeEvidenceAttestation` and `ChangeEvidenceArtifact`. -/
def attestationValid (a : ChangeEvidenceArtifact) : Bool :=
  1 ≤ a.attestation.keyVaultKeyId.length && a.attestation.keyVaultKeyId.length ≤ 512 &&
    1 ≤ a.attestation.signature.length && a.attestation.signature.length ≤ 8192 &&
    a.attestation.signedPreimageDigest == cfg.preimageDigest (canonicalEvidence cfg a.evidence)

/-- The check of `ChangeEvidencePersistenceHandoff`. -/
def handoffValid (h : ChangeEvidencePersistenceHandoff) : Bool :=
  h.artifact.name == .artifact h.deduplicationKey &&
    h.evidenceId == cfg.evidenceId h.deduplicationKey

/-- `build_change_evidence_artifact`. -/
def buildChangeEvidenceArtifact (d : ChangeDelivery) : Except String ChangeEvidenceArtifact :=
  let artifact : ChangeEvidenceArtifact :=
    ⟨d.evidence, d.signingKeyId, cfg.preimageDigest (canonicalEvidence cfg d.evidence),
      d.signature⟩
  if attestationValid cfg artifact then .ok artifact
  else .error "signed change evidence artifact is invalid"

/-- `_persistence_handoff`. -/
def persistenceHandoff (e : SourceRecordEvidence) (artifact : VersionPinnedBlobReference) :
    ChangeEvidencePersistenceHandoff :=
  ⟨e.evidenceId, e.deduplicationKey, e.changeKey, artifact⟩

/-- `_version_pinned_reference` of the stored payload of a blob. -/
def versionPinnedReference (name : BlobName) (payload : Payload) (version : ℕ) :
    VersionPinnedBlobReference :=
  ⟨name, cfg.versionId version, cfg.payloadSha256 payload⟩

/-- `_validate_recovered_artifact`. -/
def validateRecoveredArtifact (d : ChangeDelivery) : Payload → Except String Unit
  | .handoff _ => .error "recovered change evidence artifact is invalid"
  | .artifact a =>
    if !(evidenceValid cfg a.evidence && attestationValid cfg a) then
      .error "recovered change evidence artifact is invalid"
    else if sourceRecordEvidenceBytes cfg a.evidence ≠ sourceRecordEvidenceBytes cfg d.evidence ∨
        a.attestation.keyVaultKeyId ≠ d.signingKeyId then
      .error "recovered change evidence artifact does not match the bounded source record"
    else
      match signatureBytes a.attestation.signature with
      | none => .error "recovered change evidence artifact signature is malformed"
      | some signature =>
        if cfg.verifyPreimage (canonicalEvidence cfg a.evidence) signature then .ok ()
        else .error "recovered change evidence artifact signature verification failed"

/-- The checks of `_recover_durable_handoff` before it reads the artifact. -/
def validateRecoveredHandoff (d : ChangeDelivery) :
    Payload → Except String ChangeEvidencePersistenceHandoff
  | .artifact _ => .error "recovered persistence handoff is invalid"
  | .handoff h =>
    if !handoffValid cfg h then .error "recovered persistence handoff is invalid"
    else if h.evidenceId ≠ d.evidence.evidenceId ∨
        h.deduplicationKey ≠ d.evidence.deduplicationKey ∨
        h.changeKey ≠ d.evidence.changeKey then
      .error "recovered persistence handoff does not match the bounded source record"
    else .ok h

/-- The `read` of the store: an exact version under an expected digest. -/
def readVersion (cell : Cell Payload) (reference : VersionPinnedBlobReference) : Option Payload :=
  match cell.content with
  | none => none
  | some (payload, version) =>
    if cfg.versionId version = reference.version ∧
        cfg.payloadSha256 payload = reference.contentDigest then some payload
    else none

end Contracts

/-! ## Interleaved calls -/

/-- Where a call of `persist_change_evidence` stands. -/
inductive Phase
  | readingHandoff
  | readingVersion (recovered : ChangeEvidencePersistenceHandoff)
  | readingArtifact
  | creatingArtifact (artifact : ChangeEvidenceArtifact)
  | recoveringArtifact
  | creatingHandoff (handoff : ChangeEvidencePersistenceHandoff)
  | rereadingHandoff (handoff : ChangeEvidencePersistenceHandoff)
  | rereadingVersion (handoff recovered : ChangeEvidencePersistenceHandoff)
  deriving DecidableEq, Repr

/-- A call: under way, ended, or stopped. -/
inductive Call
  | running (phase : Phase)
  | returned (handoff : ChangeEvidencePersistenceHandoff)
  | raised (error : String)
  | crashed
  deriving DecidableEq, Repr

/-- The store, which call created which blob, and the calls. -/
structure PersistState where
  blobs : BlobName → Cell Payload
  created : List (BlobName × ℕ)
  calls : ℕ → Call

/-- A call makes its next request, or its process stops. -/
inductive PersistAction
  | advance (call : ℕ) (fault : Cell.Fault)
  | crash (call : ℕ)

/-- Whether a read request fails. -/
def readFails : Cell.Fault → Bool
  | .failed _ => true
  | _ => false

def PersistState.setCall (s : PersistState) (i : ℕ) (c : Call) : PersistState :=
  { s with calls := Function.update s.calls i c }

/-- `create` of the store by a call; what follows depends on the answer. -/
def createBlob (s : PersistState) (i : ℕ) (name : BlobName) (payload : Payload)
    (fault : Cell.Fault) (next : Cell.Answer → Call) : PersistState :=
  let cell := s.blobs name
  let written := cell.create payload
  let effect := cell.attempt written fault
  { blobs := Function.update s.blobs name effect
    created := if effect = cell then s.created else s.created ++ [(name, i)]
    calls := Function.update s.calls i (next (cell.answer written fault)) }

section Machine

variable (cfg : PersistenceConfig)

/-- The artifact is stored: the handoff is built and its creation requested. -/
def startHandoff (d : ChangeDelivery) (reference : VersionPinnedBlobReference) : Call :=
  let handoff := persistenceHandoff d.evidence.toSourceRecordEvidence reference
  if !handoffValid cfg handoff then .raised "change evidence handoff is not deterministically bound"
  else if maxChangeEventBytes < cfg.payloadSize (.handoff (canonicalHandoff cfg handoff)) then
    .raised "artifact payload exceeds 65536 bytes"
  else .running (.creatingHandoff handoff)

/-- No artifact is stored: it is built, signed and its creation requested. -/
def startArtifact (d : ChangeDelivery) : Call :=
  match buildChangeEvidenceArtifact cfg d with
  | .error error => .raised error
  | .ok artifact =>
    if maxChangeEventBytes < cfg.payloadSize (.artifact (canonicalArtifact cfg artifact)) then
      .raised "artifact payload exceeds 65536 bytes"
    else .running (.creatingArtifact artifact)

/-- `_recover_existing_artifact` on what `read_current` finds. -/
def recoverExistingArtifact (d : ChangeDelivery) (cell : Cell Payload) (missing : Call) : Call :=
  match cell.content with
  | none => missing
  | some (payload, version) =>
    match validateRecoveredArtifact cfg d payload with
    | .error error => .raised error
    | .ok () =>
      startHandoff cfg d
        (versionPinnedReference cfg (.artifact d.evidence.deduplicationKey) payload version)

/-- `_recover_durable_handoff` on what `read_current` finds. -/
def recoverDurableHandoff (d : ChangeDelivery) (cell : Cell Payload) (missing : Call)
    (found : ChangeEvidencePersistenceHandoff → Phase) : Call :=
  match cell.content with
  | none => missing
  | some (payload, _) =>
    match validateRecoveredHandoff cfg d payload with
    | .error error => .raised error
    | .ok recovered => .running (found recovered)

/-- The read of the artifact that a recovered handoff names. -/
def readNamedArtifact (s : PersistState) (d : ChangeDelivery)
    (recovered : ChangeEvidencePersistenceHandoff) (validated : Call) : Call :=
  match readVersion cfg (s.blobs recovered.artifact.name) recovered.artifact with
  | none => .raised "artifact read failed verification"
  | some payload =>
    match validateRecoveredArtifact cfg d payload with
    | .error error => .raised error
    | .ok () => validated

/-- The next request of a call. -/
def advanceCall (s : PersistState) (i : ℕ) (d : ChangeDelivery) (fault : Cell.Fault) :
    Phase → PersistState
  | .readingHandoff =>
    s.setCall i (if readFails fault then .raised "artifact read failed"
      else recoverDurableHandoff cfg d (s.blobs (.handoff d.evidence.deduplicationKey))
        (.running .readingArtifact) .readingVersion)
  | .readingVersion recovered =>
    s.setCall i (if readFails fault then .raised "artifact read failed"
      else readNamedArtifact cfg s d recovered (.returned recovered))
  | .readingArtifact =>
    s.setCall i (if readFails fault then .raised "artifact read failed"
      else recoverExistingArtifact cfg d (s.blobs (.artifact d.evidence.deduplicationKey))
        (startArtifact cfg d))
  | .creatingArtifact artifact =>
    let name := BlobName.artifact d.evidence.deduplicationKey
    let payload := Payload.artifact (canonicalArtifact cfg artifact)
    createBlob s i name payload fault fun answer =>
      match answer with
      | .written version => startHandoff cfg d (versionPinnedReference cfg name payload version)
      | .refused => .running .recoveringArtifact
      | .failed => .raised "artifact write failed"
  | .recoveringArtifact =>
    s.setCall i (if readFails fault then .raised "artifact read failed"
      else recoverExistingArtifact cfg d (s.blobs (.artifact d.evidence.deduplicationKey))
        (.raised "artifact was not found"))
  | .creatingHandoff handoff =>
    createBlob s i (.handoff d.evidence.deduplicationKey) (.handoff (canonicalHandoff cfg handoff))
      fault fun answer =>
        match answer with
        | .written _ => .returned handoff
        | .refused => .running (.rereadingHandoff handoff)
        | .failed => .raised "artifact write failed"
  | .rereadingHandoff handoff =>
    s.setCall i (if readFails fault then .raised "artifact read failed"
      else recoverDurableHandoff cfg d (s.blobs (.handoff d.evidence.deduplicationKey))
        (.raised "persistence handoff disappeared during recovery") (.rereadingVersion handoff))
  | .rereadingVersion handoff recovered =>
    s.setCall i (if readFails fault then .raised "artifact read failed"
      else readNamedArtifact cfg s d recovered
        (if recovered ≠ handoff then
          .raised "recovered persistence handoff does not match the created artifact"
        else .returned recovered))

variable (deliveries : ℕ → ChangeDelivery)

/-- One step. -/
def step (s : PersistState) : PersistAction → Option PersistState
  | .advance i fault =>
    match s.calls i with
    | .running phase => some (advanceCall cfg s i (deliveries i) fault phase)
    | _ => none
  | .crash i =>
    match s.calls i with
    | .running _ => some (s.setCall i .crashed)
    | _ => none

/-- An empty store, and every call at its first request. -/
def initial : PersistState := ⟨fun _ => Cell.empty, [], fun _ => .running .readingHandoff⟩

/-- Calls of `persist_change_evidence` over one store. -/
def system : TransitionSystem PersistState PersistAction := ofStep initial (step cfg deliveries)

/-- Requests that a call can still make. -/
def Phase.remaining : Phase → ℕ
  | .readingHandoff => 7
  | .readingVersion _ => 1
  | .readingArtifact => 6
  | .creatingArtifact _ => 5
  | .recoveringArtifact => 4
  | .creatingHandoff _ => 3
  | .rereadingHandoff _ => 2
  | .rereadingVersion _ _ => 1

def Call.remaining : Call → ℕ
  | .running phase => phase.remaining
  | _ => 0

/-! ## The invariant -/

/-- The artifact blob of a key, and the reference to it. -/
def Stored (s : PersistState) (key : Digest) (a : ChangeEvidenceArtifact)
    (reference : VersionPinnedBlobReference) : Prop :=
  ∃ version, (s.blobs (.artifact key)).content = some (.artifact a, version) ∧
    reference = versionPinnedReference cfg (.artifact key) (.artifact a) version

/-- The handoff of a delivery of the stored source record. -/
def Agreed (s : PersistState) (d : ChangeDelivery) (h : ChangeEvidencePersistenceHandoff) : Prop :=
  ∃ a reference, Stored cfg s d.evidence.deduplicationKey a reference ∧
    sourceRecordEvidenceBytes cfg a.evidence = sourceRecordEvidenceBytes cfg d.evidence ∧
    h = persistenceHandoff a.evidence.toSourceRecordEvidence reference

/-- The handoff blob of a key holds this handoff. -/
def Durable (s : PersistState) (key : Digest) (h : ChangeEvidencePersistenceHandoff) : Prop :=
  ∃ version, (s.blobs (.handoff key)).content = some (.handoff (canonicalHandoff cfg h), version)

/-- The handoff blob of a key was read as this handoff. -/
def Found (s : PersistState) (key : Digest) (h : ChangeEvidencePersistenceHandoff) : Prop :=
  ∃ version, (s.blobs (.handoff key)).content = some (.handoff h, version)

/-- What a call relies on. -/
def CallInvariant (s : PersistState) (d : ChangeDelivery) : Call → Prop
  | .running (.readingVersion recovered) => Found s d.evidence.deduplicationKey recovered
  | .running (.creatingArtifact artifact) =>
    artifact.evidence = d.evidence
  | .running (.creatingHandoff handoff) => Agreed cfg s d handoff
  | .running (.rereadingHandoff handoff) => Agreed cfg s d handoff
  | .running (.rereadingVersion handoff recovered) =>
    Agreed cfg s d handoff ∧ Found s d.evidence.deduplicationKey recovered
  | .returned handoff => Agreed cfg s d handoff ∧ Durable cfg s d.evidence.deduplicationKey handoff
  | _ => True

/-- What a blob may hold. -/
def PayloadAgreed (s : PersistState) (payload : Payload) : BlobName → Prop
  | .artifact _ => ∃ a, payload = .artifact a
  | .handoff key => ∃ a reference, Stored cfg s key a reference ∧ payload =
      .handoff (canonicalHandoff cfg (persistenceHandoff a.evidence.toSourceRecordEvidence reference))

/-- The blobs of a delivery. -/
def OwnBlob (d : ChangeDelivery) (name : BlobName) : Prop :=
  name = .artifact d.evidence.deduplicationKey ∨ name = .handoff d.evidence.deduplicationKey

/-- The invariant of the store and all calls. -/
structure Invariant (s : PersistState) : Prop where
  payloads : ∀ name payload version, (s.blobs name).content = some (payload, version) →
    PayloadAgreed cfg s payload name
  createdOnce : (s.created.map Prod.fst).Nodup
  createdStored : ∀ entry ∈ s.created, (s.blobs entry.1).content ≠ none
  createdAgreed : ∀ entry ∈ s.created, OwnBlob (deliveries entry.2) entry.1 ∧
    ∃ h, Agreed cfg s (deliveries entry.2) h
  calls : ∀ i, CallInvariant cfg s (deliveries i) (s.calls i)

/-- Blobs that exist stay as they are. -/
def Keeps (s t : PersistState) : Prop :=
  ∀ name entry, (s.blobs name).content = some entry → (t.blobs name).content = some entry

variable {cfg deliveries}
variable {s t : PersistState} {i : ℕ} {d : ChangeDelivery} {c : Call} {key : Digest}
  {a b : ChangeEvidenceArtifact} {reference : VersionPinnedBlobReference}
  {h recovered : ChangeEvidencePersistenceHandoff} {name : BlobName} {payload : Payload}

theorem Stored.keep (hk : Keeps s t) (hs : Stored cfg s key a reference) :
    Stored cfg t key a reference := by
  obtain ⟨version, hc, hr⟩ := hs
  exact ⟨version, hk _ _ hc, hr⟩

theorem Agreed.keep (hk : Keeps s t) (ha : Agreed cfg s d h) : Agreed cfg t d h := by
  obtain ⟨a, reference, hs, hrecord, hh⟩ := ha
  exact ⟨a, reference, hs.keep hk, hrecord, hh⟩

theorem Durable.keep (hk : Keeps s t) (hd : Durable cfg s key h) : Durable cfg t key h := by
  obtain ⟨version, hc⟩ := hd
  exact ⟨version, hk _ _ hc⟩

theorem Found.keep (hk : Keeps s t) (hf : Found s key h) : Found t key h := by
  obtain ⟨version, hc⟩ := hf
  exact ⟨version, hk _ _ hc⟩

theorem PayloadAgreed.keep (hk : Keeps s t) (hp : PayloadAgreed cfg s payload name) :
    PayloadAgreed cfg t payload name := by
  cases name with
  | artifact key => exact hp
  | handoff key =>
    obtain ⟨a, reference, hs, hpayload⟩ := hp
    exact ⟨a, reference, hs.keep hk, hpayload⟩

theorem CallInvariant.keep (hk : Keeps s t) (hc : CallInvariant cfg s d c) :
    CallInvariant cfg t d c := by
  cases c with
  | raised error => trivial
  | crashed => trivial
  | returned handoff => exact ⟨hc.1.keep hk, hc.2.keep hk⟩
  | running phase =>
    cases phase with
    | readingHandoff => trivial
    | readingVersion recovered => exact Found.keep hk hc
    | readingArtifact => trivial
    | creatingArtifact artifact => exact hc
    | recoveringArtifact => trivial
    | creatingHandoff handoff => exact Agreed.keep hk hc
    | rereadingHandoff handoff => exact Agreed.keep hk hc
    | rereadingVersion handoff recovered => exact ⟨hc.1.keep hk, hc.2.keep hk⟩

/-- The stored artifact and the reference to it are unique. -/
theorem Stored.unique {reference' : VersionPinnedBlobReference} (hs : Stored cfg s key a reference)
    (hs' : Stored cfg s key b reference') : a = b ∧ reference = reference' := by
  obtain ⟨version, hc, hr⟩ := hs
  obtain ⟨version', hc', hr'⟩ := hs'
  have he := Option.some.inj (hc.symm.trans hc')
  have ha : a = b := Payload.artifact.inj (congrArg Prod.fst he)
  have hv : version = version' := congrArg Prod.snd he
  subst ha hv
  exact ⟨rfl, hr.trans hr'.symm⟩

/-- Canonical JSON is a normal form of records. -/
theorem canonicalRecord_idem (r : SourceRecordEvidence) :
    canonicalRecord cfg (canonicalRecord cfg r) = canonicalRecord cfg r := by
  simp only [canonicalRecord, cfg.normalizeText_idem]

/-- The source record is read back as it was written. -/
theorem sourceRecord_canonical (e : NormalizedChangeEvidence) :
    sourceRecordEvidenceBytes cfg (canonicalEvidence cfg e) = sourceRecordEvidenceBytes cfg e :=
  canonicalRecord_idem e.toSourceRecordEvidence

/-- Records that agree in canonical JSON have one handoff. -/
theorem persistenceHandoff_congr {e f : NormalizedChangeEvidence}
    (hr : sourceRecordEvidenceBytes cfg e = sourceRecordEvidenceBytes cfg f) :
    persistenceHandoff e.toSourceRecordEvidence reference =
      persistenceHandoff f.toSourceRecordEvidence reference := by
  have hid := congrArg SourceRecordEvidence.evidenceId hr
  have hkey := congrArg SourceRecordEvidence.deduplicationKey hr
  have hchange := congrArg SourceRecordEvidence.changeKey hr
  simp only [sourceRecordEvidenceBytes, canonicalRecord] at hid hkey hchange
  simp only [persistenceHandoff, hid, hkey, hchange]

/-- One call moves on and the store stays. -/
theorem Invariant.setCall (hi : Invariant cfg deliveries s)
    (hc : CallInvariant cfg s (deliveries i) c) : Invariant cfg deliveries (s.setCall i c) := by
  refine ⟨hi.payloads, hi.createdOnce, hi.createdStored, hi.createdAgreed, fun j => ?_⟩
  have hkeep : Keeps s (s.setCall i c) := fun _ _ h => h
  by_cases hj : j = i
  · subst hj
    have hcalls : (s.setCall j c).calls j = c := Function.update_self _ _ _
    rw [hcalls]
    exact hc.keep hkeep
  · have hcalls : (s.setCall i c).calls j = s.calls j := Function.update_of_ne hj _ _
    rw [hcalls]
    exact (hi.calls j).keep hkeep

/-- A creation request of a call for one of its blobs. -/
theorem createBlob_spec {fault : Cell.Fault} {next : Cell.Answer → Call}
    (hi : Invariant cfg deliveries s) (hown : OwnBlob (deliveries i) name)
    (hpayload : ∀ t version, Keeps s t → (t.blobs name).content = some (payload, version) →
      PayloadAgreed cfg t payload name ∧ ∃ h, Agreed cfg t (deliveries i) h)
    (hnext : ∀ t answer, Keeps s t →
      (∀ version, answer = .written version → (t.blobs name).content = some (payload, version)) →
      CallInvariant cfg t (deliveries i) (next answer)) :
    Invariant cfg deliveries (createBlob s i name payload fault next) := by
  rcases Cell.attempt_cases (s.blobs name) ((s.blobs name).create payload) fault with
    ⟨hsame, hnot⟩ | ⟨heffect, hanswer⟩
  · have hstate : createBlob s i name payload fault next =
        s.setCall i (next ((s.blobs name).answer ((s.blobs name).create payload) fault)) := by
      simp only [createBlob, hsame, Function.update_eq_self, if_true, PersistState.setCall]
    rw [hstate]
    exact hi.setCall (hnext s _ (fun _ _ h => h) fun version hv => absurd hv (hnot version))
  · obtain ⟨hnone, hcell⟩ := Cell.create_some heffect
    set cell := (s.blobs name).attempt ((s.blobs name).create payload) fault with hcelldef
    have hchanged : cell ≠ s.blobs name := by
      intro heq
      rw [heq] at hcell
      have hnext := congrArg Cell.next hcell
      exact absurd hnext (Nat.ne_of_lt (Nat.lt_succ_self _))
    have hstate : createBlob s i name payload fault next =
        ⟨Function.update s.blobs name cell, s.created ++ [(name, i)],
          Function.update s.calls i
            (next ((s.blobs name).answer ((s.blobs name).create payload) fault))⟩ := by
      simp only [createBlob, ← hcelldef, if_neg hchanged]
    rw [hstate]
    set t : PersistState := ⟨Function.update s.blobs name cell, s.created ++ [(name, i)],
      Function.update s.calls i
        (next ((s.blobs name).answer ((s.blobs name).create payload) fault))⟩ with ht
    have hkeep : Keeps s t := by
      intro name' entry hc
      by_cases hn : name' = name
      · subst hn
        rw [hnone] at hc
        cases hc
      · simpa only [ht, Function.update_of_ne hn] using hc
    have hcontent : (t.blobs name).content = some (payload, (s.blobs name).next) := by
      simp only [ht, Function.update_self, hcell]
    obtain ⟨hagreed, hhandoff⟩ := hpayload t _ hkeep hcontent
    refine ⟨fun name' payload' version hc => ?_, ?_, fun entry hentry => ?_, fun entry hentry => ?_,
      fun j => ?_⟩
    · by_cases hn : name' = name
      · subst hn
        have he := Option.some.inj (hcontent.symm.trans hc)
        have hp : payload = payload' := congrArg Prod.fst he
        subst hp
        exact hagreed
      · have hold : (s.blobs name').content = some (payload', version) := by
          simpa only [ht, Function.update_of_ne hn] using hc
        exact (hi.payloads name' payload' version hold).keep hkeep
    · have hmap : t.created.map Prod.fst = s.created.map Prod.fst ++ [name] := List.map_append
      rw [hmap, List.nodup_append]
      refine ⟨hi.createdOnce, List.nodup_singleton _, fun x hx y hy hxy => ?_⟩
      obtain ⟨entry, hentry, rfl⟩ := List.mem_map.mp hx
      have hstored := hi.createdStored entry hentry
      rw [hxy, List.mem_singleton.mp hy] at hstored
      exact hstored hnone
    · rcases List.mem_append.mp hentry with hold | hnew
      · obtain ⟨content, hc⟩ := Option.ne_none_iff_exists'.mp (hi.createdStored entry hold)
        rw [hkeep _ _ hc]
        exact Option.some_ne_none _
      · rw [List.mem_singleton.mp hnew, hcontent]
        exact Option.some_ne_none _
    · rcases List.mem_append.mp hentry with hold | hnew
      · obtain ⟨hname, h, hh⟩ := hi.createdAgreed entry hold
        exact ⟨hname, h, hh.keep hkeep⟩
      · rw [List.mem_singleton.mp hnew]
        exact ⟨hown, hhandoff⟩
    · by_cases hj : j = i
      · subst hj
        have hcall := hnext t _ hkeep fun version hv => by
          rw [hanswer version hv]
          exact hcontent
        simpa only [ht, Function.update_self] using hcall
      · have hcall := (hi.calls j).keep hkeep
        simpa only [ht, Function.update_of_ne hj] using hcall

/-- A recovered artifact is of the delivery's source record. -/
theorem validateRecoveredArtifact_ok
    (hv : validateRecoveredArtifact cfg d payload = .ok ()) :
    ∃ a, payload = .artifact a ∧
      sourceRecordEvidenceBytes cfg a.evidence = sourceRecordEvidenceBytes cfg d.evidence := by
  cases payload with
  | handoff h => cases hv
  | artifact a =>
    refine ⟨a, rfl, ?_⟩
    simp only [validateRecoveredArtifact] at hv
    split at hv
    · cases hv
    · split at hv
      · cases hv
      · rename_i hmatch
        exact Decidable.byContradiction fun hne => hmatch (.inl hne)

/-- The handoff of a stored artifact of the delivery's source record agrees. -/
theorem startHandoff_spec (hs : Stored cfg s d.evidence.deduplicationKey a reference)
    (hrecord : sourceRecordEvidenceBytes cfg a.evidence = sourceRecordEvidenceBytes cfg d.evidence) :
    CallInvariant cfg s d (startHandoff cfg d reference) := by
  unfold startHandoff
  dsimp only
  split
  · trivial
  · split
    · trivial
    · exact ⟨a, reference, hs, hrecord, (persistenceHandoff_congr hrecord).symm⟩

theorem startArtifact_spec : CallInvariant cfg s d (startArtifact cfg d) := by
  unfold startArtifact
  split
  · trivial
  · rename_i artifact hb
    split
    · trivial
    · unfold buildChangeEvidenceArtifact at hb
      dsimp only at hb
      split at hb
      · cases hb
        rfl
      · cases hb

/-- What follows the read of the artifact. -/
theorem recoverExistingArtifact_spec {missing : Call} (hmissing : CallInvariant cfg s d missing) :
    CallInvariant cfg s d (recoverExistingArtifact cfg d
      (s.blobs (.artifact d.evidence.deduplicationKey)) missing) := by
  unfold recoverExistingArtifact
  split
  · exact hmissing
  · rename_i payload version hc
    split
    · trivial
    · rename_i hv
      obtain ⟨a, rfl, hrecord⟩ := validateRecoveredArtifact_ok hv
      exact startHandoff_spec ⟨version, hc, rfl⟩ hrecord

/-- The stored handoff in canonical JSON is its own canonical JSON. -/
theorem canonicalHandoff_idem : canonicalHandoff cfg (canonicalHandoff cfg h) =
    canonicalHandoff cfg h := by
  simp only [canonicalHandoff, cfg.normalizeText_idem]

/-- What follows the read of the handoff. -/
theorem recoverDurableHandoff_spec {missing : Call}
    {found : ChangeEvidencePersistenceHandoff → Phase} (hmissing : CallInvariant cfg s d missing)
    (hfound : ∀ recovered, Found s d.evidence.deduplicationKey recovered →
      CallInvariant cfg s d (.running (found recovered))) :
    CallInvariant cfg s d (recoverDurableHandoff cfg d
      (s.blobs (.handoff d.evidence.deduplicationKey)) missing found) := by
  unfold recoverDurableHandoff
  split
  · exact hmissing
  · rename_i payload version hc
    split
    · trivial
    · rename_i recovered hv
      have hpayload : payload = .handoff recovered := by
        cases payload with
        | artifact a => cases hv
        | handoff h =>
          simp only [validateRecoveredHandoff] at hv
          split at hv
          · cases hv
          · split at hv
            · cases hv
            · exact congrArg Payload.handoff (Except.ok.inj hv)
      rw [hpayload] at hc
      exact hfound recovered ⟨version, hc⟩

/-- A recovered handoff whose artifact was read under its exact version and is of
the delivery's source record is the handoff of the delivery. -/
theorem readNamedArtifact_spec {validated : Call} (hi : Invariant cfg deliveries s)
    (hf : Found s d.evidence.deduplicationKey recovered)
    (hvalidated : Agreed cfg s d recovered → Durable cfg s d.evidence.deduplicationKey recovered →
      CallInvariant cfg s d validated) :
    CallInvariant cfg s d (readNamedArtifact cfg s d recovered validated) := by
  obtain ⟨stored, hc⟩ := hf
  obtain ⟨a, reference, hs, hpayload⟩ := hi.payloads _ _ _ hc
  have hrecovered : recovered = canonicalHandoff cfg
      (persistenceHandoff a.evidence.toSourceRecordEvidence reference) :=
    Payload.handoff.inj hpayload
  obtain ⟨version, ha, hreference⟩ := id hs
  have hname : recovered.artifact.name = .artifact d.evidence.deduplicationKey := by
    rw [hrecovered, hreference]
    rfl
  unfold readNamedArtifact
  split
  · trivial
  · rename_i payload hread
    split
    · trivial
    · rename_i hv
      simp only [readVersion, hname, ha] at hread
      split at hread
      · rename_i hversion
        cases hread
        obtain ⟨b, hb, hrecord⟩ := validateRecoveredArtifact_ok hv
        cases hb
        have htext : cfg.normalizeText reference.version = reference.version := by
          have hleft : recovered.artifact.version = cfg.normalizeText reference.version := by
            rw [hrecovered]
            rfl
          rw [← hleft, ← hversion.1, hreference]
          rfl
        have hexact : recovered =
            persistenceHandoff a.evidence.toSourceRecordEvidence reference := by
          rw [hrecovered]
          simp only [canonicalHandoff, persistenceHandoff, htext]
        refine hvalidated ⟨a, reference, hs, hrecord, hexact⟩ ⟨stored, ?_⟩
        rw [hc, hrecovered, canonicalHandoff_idem]
      · cases hread

/-- The next request of a call keeps the invariant. -/
theorem advanceCall_spec {fault : Cell.Fault} {phase : Phase} (hi : Invariant cfg deliveries s)
    (hrun : s.calls i = .running phase) :
    Invariant cfg deliveries (advanceCall cfg s i (deliveries i) fault phase) := by
  have hc := hi.calls i
  rw [hrun] at hc
  cases phase with
  | readingHandoff =>
    refine hi.setCall ?_
    split
    · trivial
    · exact recoverDurableHandoff_spec trivial fun recovered hf => hf
  | readingVersion recovered =>
    refine hi.setCall ?_
    split
    · trivial
    · exact readNamedArtifact_spec hi hc fun ha hd => ⟨ha, hd⟩
  | readingArtifact =>
    refine hi.setCall ?_
    split
    · trivial
    · exact recoverExistingArtifact_spec startArtifact_spec
  | creatingArtifact artifact =>
    have hevidence : artifact.evidence = (deliveries i).evidence := hc
    have hrecord : sourceRecordEvidenceBytes cfg (canonicalArtifact cfg artifact).evidence =
        sourceRecordEvidenceBytes cfg (deliveries i).evidence := by
      rw [← hevidence]
      exact sourceRecord_canonical artifact.evidence
    simp only [advanceCall]
    refine createBlob_spec hi (.inl rfl) ?_ ?_
    · intro t version _ ht
      exact ⟨⟨_, rfl⟩, _, _, _, ⟨version, ht, rfl⟩, hrecord, rfl⟩
    · intro t answer _ ht
      cases answer with
      | written version => exact startHandoff_spec ⟨version, ht version rfl, rfl⟩ hrecord
      | refused => trivial
      | failed => trivial
  | recoveringArtifact =>
    refine hi.setCall ?_
    split
    · trivial
    · exact recoverExistingArtifact_spec trivial
  | creatingHandoff handoff =>
    have hagreed : Agreed cfg s (deliveries i) handoff := hc
    simp only [advanceCall]
    refine createBlob_spec hi (.inr rfl) ?_ ?_
    · intro t version hk ht
      obtain ⟨a, reference, hs, -, rfl⟩ := hagreed
      exact ⟨⟨a, reference, hs.keep hk, rfl⟩, _, Agreed.keep hk hc⟩
    · intro t answer hk ht
      cases answer with
      | written version => exact ⟨hagreed.keep hk, version, ht version rfl⟩
      | refused => exact hagreed.keep hk
      | failed => trivial
  | rereadingHandoff handoff =>
    refine hi.setCall ?_
    split
    · trivial
    · exact recoverDurableHandoff_spec trivial fun recovered hf => ⟨hc, hf⟩
  | rereadingVersion handoff recovered =>
    refine hi.setCall ?_
    split
    · trivial
    · refine readNamedArtifact_spec hi hc.2 fun ha hd => ?_
      split
      · trivial
      · exact ⟨ha, hd⟩

/-- Every step keeps the invariant. -/
theorem step_spec {action : PersistAction} (hi : Invariant cfg deliveries s)
    (hs : step cfg deliveries s action = some t) : Invariant cfg deliveries t := by
  cases action with
  | advance i fault =>
    simp only [step] at hs
    split at hs
    · rename_i phase hrun
      cases hs
      exact advanceCall_spec hi hrun
    · cases hs
  | crash i =>
    simp only [step] at hs
    split at hs
    · cases hs
      exact hi.setCall trivial
    · cases hs

theorem invariant_initial : Invariant cfg deliveries initial := by
  refine ⟨fun name payload version hc => ?_, List.nodup_nil, fun entry hentry => ?_,
    fun entry hentry => ?_, fun i => trivial⟩
  · cases hc
  · cases hentry
  · cases hentry

/-- The invariant holds in every reachable state. -/
theorem reachable_invariant (hr : (system cfg deliveries).Reachable s) :
    Invariant cfg deliveries s := by
  refine hr.invariant ?_ ?_
  · intro s hs
    rw [hs]
    exact invariant_initial
  · intro s action t _ hi hs
    have hs' : step cfg deliveries s action = some t := hs
    exact step_spec hi hs'

/-! ## What a step leaves as it is -/

theorem createBlob_keeps {fault : Cell.Fault} {next : Cell.Answer → Call} :
    Keeps s (createBlob s i name payload fault next) := by
  intro name' entry hc
  by_cases hn : name' = name
  · subst hn
    rcases Cell.attempt_cases (s.blobs name') ((s.blobs name').create payload) fault with
      ⟨hsame, -⟩ | ⟨heffect, -⟩
    · simpa only [createBlob, Function.update_self, hsame] using hc
    · have hnone := (Cell.create_some heffect).1
      rw [hnone] at hc
      cases hc
  · simpa only [createBlob, Function.update_of_ne hn] using hc

theorem advanceCall_keeps {fault : Cell.Fault} {phase : Phase} :
    Keeps s (advanceCall cfg s i d fault phase) := by
  have hset : ∀ c, Keeps s (s.setCall i c) := fun c name entry hc => hc
  cases phase with
  | readingHandoff => exact hset _
  | readingVersion recovered => exact hset _
  | readingArtifact => exact hset _
  | creatingArtifact artifact =>
    unfold advanceCall
    exact createBlob_keeps
  | recoveringArtifact => exact hset _
  | creatingHandoff handoff =>
    unfold advanceCall
    exact createBlob_keeps
  | rereadingHandoff handoff => exact hset _
  | rereadingVersion handoff recovered => exact hset _

theorem advanceCall_calls_of_ne {fault : Cell.Fault} {phase : Phase} {j : ℕ} (hj : j ≠ i) :
    (advanceCall cfg s i d fault phase).calls j = s.calls j := by
  cases phase with
  | readingHandoff => exact Function.update_of_ne hj _ _
  | readingVersion recovered => exact Function.update_of_ne hj _ _
  | readingArtifact => exact Function.update_of_ne hj _ _
  | creatingArtifact artifact => exact Function.update_of_ne hj _ _
  | recoveringArtifact => exact Function.update_of_ne hj _ _
  | creatingHandoff handoff => exact Function.update_of_ne hj _ _
  | rereadingHandoff handoff => exact Function.update_of_ne hj _ _
  | rereadingVersion handoff recovered => exact Function.update_of_ne hj _ _

/-- The call that a step is about. -/
def PersistAction.call : PersistAction → ℕ
  | .advance i _ => i
  | .crash i => i

/-- Every step keeps the blobs that exist. -/
theorem step_keeps {action : PersistAction} (hs : step cfg deliveries s action = some t) :
    Keeps s t := by
  cases action with
  | advance i fault =>
    simp only [step] at hs
    split at hs
    · cases hs
      exact advanceCall_keeps
    · cases hs
  | crash i =>
    simp only [step] at hs
    split at hs
    · cases hs
      exact fun name entry hc => hc
    · cases hs

/-- A step leaves the other calls as they are. -/
theorem step_calls_of_ne {action : PersistAction} {j : ℕ}
    (hs : step cfg deliveries s action = some t) (hj : j ≠ action.call) :
    t.calls j = s.calls j := by
  cases action with
  | advance i fault =>
    simp only [step] at hs
    split at hs
    · cases hs
      exact advanceCall_calls_of_ne hj
    · cases hs
  | crash i =>
    simp only [step] at hs
    split at hs
    · cases hs
      exact Function.update_of_ne hj _ _
    · cases hs

/-! ## Progress and agreement -/

theorem startHandoff_remaining : (startHandoff cfg d reference).remaining ≤ 3 := by
  unfold startHandoff
  dsimp only
  split
  · exact Nat.zero_le _
  · split
    · exact Nat.zero_le _
    · exact Nat.le_refl _

theorem startArtifact_remaining : (startArtifact cfg d).remaining ≤ 5 := by
  unfold startArtifact
  split
  · exact Nat.zero_le _
  · split
    · exact Nat.zero_le _
    · exact Nat.le_refl _

theorem recoverExistingArtifact_remaining {cell : Cell Payload} {missing : Call} {n : ℕ}
    (hmissing : missing.remaining ≤ n) (hn : 3 ≤ n) :
    (recoverExistingArtifact cfg d cell missing).remaining ≤ n := by
  unfold recoverExistingArtifact
  split
  · exact hmissing
  · split
    · exact Nat.zero_le _
    · exact Nat.le_trans startHandoff_remaining hn

theorem recoverDurableHandoff_remaining {cell : Cell Payload} {missing : Call} {n : ℕ}
    {found : ChangeEvidencePersistenceHandoff → Phase} (hmissing : missing.remaining ≤ n)
    (hfound : ∀ recovered, (found recovered).remaining ≤ n) :
    (recoverDurableHandoff cfg d cell missing found).remaining ≤ n := by
  unfold recoverDurableHandoff
  split
  · exact hmissing
  · split
    · exact Nat.zero_le _
    · exact hfound _

theorem readNamedArtifact_remaining {validated : Call} (hv : validated.remaining = 0) :
    (readNamedArtifact cfg s d recovered validated).remaining = 0 := by
  unfold readNamedArtifact
  split
  · rfl
  · split
    · rfl
    · exact hv

/-- Every request brings a call closer to its end. -/
theorem advanceCall_remaining {fault : Cell.Fault} {phase : Phase} :
    ((advanceCall cfg s i d fault phase).calls i).remaining < phase.remaining := by
  have hread : ∀ (next : Call) (n : ℕ), next.remaining ≤ n →
      (if readFails fault then .raised "artifact read failed" else next : Call).remaining ≤ n := by
    intro next n hn
    split
    · exact Nat.zero_le _
    · exact hn
  cases phase with
  | readingHandoff =>
    simp only [advanceCall, PersistState.setCall, Function.update_self]
    exact Nat.lt_succ_of_le (hread _ 6 (recoverDurableHandoff_remaining (Nat.le_refl _)
      fun _ => Nat.le_of_ble_eq_true rfl))
  | readingVersion recovered =>
    simp only [advanceCall, PersistState.setCall, Function.update_self]
    exact Nat.lt_succ_of_le (hread _ 0 (Nat.le_of_eq (readNamedArtifact_remaining rfl)))
  | readingArtifact =>
    simp only [advanceCall, PersistState.setCall, Function.update_self]
    exact Nat.lt_succ_of_le (hread _ 5 (recoverExistingArtifact_remaining startArtifact_remaining
      (Nat.le_of_ble_eq_true rfl)))
  | creatingArtifact artifact =>
    simp only [advanceCall, createBlob, Function.update_self]
    split
    · exact Nat.lt_of_le_of_lt startHandoff_remaining (Nat.lt_of_sub_eq_succ rfl)
    · exact Nat.lt_succ_self _
    · exact Nat.succ_pos _
  | recoveringArtifact =>
    simp only [advanceCall, PersistState.setCall, Function.update_self]
    exact Nat.lt_succ_of_le (hread _ 3 (recoverExistingArtifact_remaining (Nat.zero_le _)
      (Nat.le_refl _)))
  | creatingHandoff handoff =>
    simp only [advanceCall, createBlob, Function.update_self]
    split
    · exact Nat.succ_pos _
    · exact Nat.lt_succ_self _
    · exact Nat.succ_pos _
  | rereadingHandoff handoff =>
    simp only [advanceCall, PersistState.setCall, Function.update_self]
    exact Nat.lt_succ_of_le (hread _ 1 (recoverDurableHandoff_remaining (Nat.zero_le _)
      fun _ => Nat.le_refl _))
  | rereadingVersion handoff recovered =>
    simp only [advanceCall, PersistState.setCall, Function.update_self]
    refine Nat.lt_succ_of_le (hread _ 0 (Nat.le_of_eq (readNamedArtifact_remaining ?_)))
    split
    · rfl
    · rfl

/-- A call under way can make its next request, whatever the store answers, and
is closer to its end after it. -/
theorem step_advances {fault : Cell.Fault} {phase : Phase} (hrun : s.calls i = .running phase) :
    ∃ t, step cfg deliveries s (.advance i fault) = some t ∧
      (t.calls i).remaining < (s.calls i).remaining := by
  refine ⟨advanceCall cfg s i (deliveries i) fault phase, ?_, ?_⟩
  · simp only [step, hrun]
  · rw [hrun]
    exact advanceCall_remaining

/-- Two calls that agree with the stored artifact of one key agree. -/
theorem Agreed.unique {e : ChangeDelivery} {h' : ChangeEvidencePersistenceHandoff}
    (hd : Agreed cfg s d h) (he : Agreed cfg s e h')
    (hkey : d.evidence.deduplicationKey = e.evidence.deduplicationKey) : h = h' := by
  obtain ⟨a, reference, hs, -, rfl⟩ := hd
  obtain ⟨b, reference', hs', -, rfl⟩ := he
  rw [hkey] at hs
  obtain ⟨rfl, rfl⟩ := hs.unique hs'
  rfl

/-- For any interleaving of any number of calls, and every deduplication key: each
blob is created at most once; a call that returned yields the handoff that is
durable, which names the exact version and digest of the stored artifact, and that
artifact is of its delivery's source record in canonical JSON; all calls that
returned yield one handoff; a delivery of another source record created nothing
and did not return; and a call under way always gets to its end. -/
theorem persistence_idempotent (hr : (system cfg deliveries).Reachable s) :
    (s.created.map Prod.fst).Nodup ∧
    (∀ i handoff, s.calls i = .returned handoff → ∃ a version,
      (s.blobs (.artifact (deliveries i).evidence.deduplicationKey)).content =
        some (.artifact a, version) ∧
      sourceRecordEvidenceBytes cfg a.evidence =
        sourceRecordEvidenceBytes cfg (deliveries i).evidence ∧
      handoff.artifact = versionPinnedReference cfg
        (.artifact (deliveries i).evidence.deduplicationKey) (.artifact a) version ∧
      Durable cfg s (deliveries i).evidence.deduplicationKey handoff) ∧
    (∀ i j handoff handoff', s.calls i = .returned handoff → s.calls j = .returned handoff' →
      (deliveries i).evidence.deduplicationKey = (deliveries j).evidence.deduplicationKey →
      handoff = handoff') ∧
    (∀ i a version,
      (s.blobs (.artifact (deliveries i).evidence.deduplicationKey)).content =
        some (.artifact a, version) →
      sourceRecordEvidenceBytes cfg a.evidence ≠
        sourceRecordEvidenceBytes cfg (deliveries i).evidence →
      (∀ handoff, s.calls i ≠ .returned handoff) ∧ ∀ name, (name, i) ∉ s.created) ∧
    ∀ i phase fault, s.calls i = .running phase → ∃ t,
      step cfg deliveries s (.advance i fault) = some t ∧
      (t.calls i).remaining < (s.calls i).remaining := by
  have hi := reachable_invariant hr
  have hreturned : ∀ i handoff, s.calls i = .returned handoff →
      Agreed cfg s (deliveries i) handoff ∧
        Durable cfg s (deliveries i).evidence.deduplicationKey handoff := by
    intro i handoff hcall
    have hc := hi.calls i
    rw [hcall] at hc
    exact hc
  have hother : ∀ i a version h,
      (s.blobs (.artifact (deliveries i).evidence.deduplicationKey)).content =
        some (.artifact a, version) → Agreed cfg s (deliveries i) h →
      sourceRecordEvidenceBytes cfg a.evidence =
        sourceRecordEvidenceBytes cfg (deliveries i).evidence := by
    intro i a version h hc hagreed
    obtain ⟨b, reference, hs, hrecord, -⟩ := hagreed
    obtain ⟨rfl, -⟩ := hs.unique ⟨version, hc, rfl⟩
    exact hrecord
  refine ⟨hi.createdOnce, fun i handoff hcall => ?_, fun i j handoff handoff' hcall hcall' hkey => ?_,
    fun i a version hc hrecord => ⟨fun handoff hcall => ?_, fun name hcreated => ?_⟩,
    fun i phase fault hrun => step_advances hrun⟩
  · obtain ⟨⟨a, reference, ⟨version, hc, hreference⟩, hrecord, hhandoff⟩, hdurable⟩ :=
      hreturned i handoff hcall
    refine ⟨a, version, hc, hrecord, ?_, hdurable⟩
    rw [hhandoff, ← hreference]
    rfl
  · exact (hreturned i handoff hcall).1.unique (hreturned j handoff' hcall').1 hkey
  · exact hrecord (hother i a version handoff hc (hreturned i handoff hcall).1)
  · obtain ⟨-, h, hagreed⟩ := hi.createdAgreed (name, i) hcreated
    exact hrecord (hother i a version h hc hagreed)

end Machine

/-! ## Two spellings of one operation name -/

/-- Composes `e` and the combining acute accent, as NFC does. -/
def composeAcute : List Char → List Char
  | 'e' :: '\u0301' :: rest => 'é' :: composeAcute rest
  | c :: rest => c :: composeAcute rest
  | [] => []

/-- Composition brings no combining accent to the front. -/
theorem composeAcute_head : ∀ l : List Char, (composeAcute l).head? = some '\u0301' →
    l.head? = some '\u0301' := by
  intro l h
  unfold composeAcute at h
  split at h
  · exact absurd (Option.some.inj h) (by decide)
  · exact h
  · exact h

theorem composeAcute_cons {c : Char} {l : List Char} (h : ¬ (c = 'e' ∧ l.head? = some '\u0301')) :
    composeAcute (c :: l) = c :: composeAcute l := by
  rw [composeAcute]
  intro rest hc hl
  exact h ⟨hc, by rw [hl]; rfl⟩

theorem composeAcute_idem (l : List Char) : composeAcute (composeAcute l) = composeAcute l := by
  fun_induction composeAcute l with
  | case1 rest ih =>
    have hc : ¬ ('é' = 'e' ∧ (composeAcute rest).head? = some '\u0301') := by
      rintro ⟨he, -⟩
      exact absurd he (by decide)
    rw [composeAcute_cons hc, ih]
  | case2 c rest hne ih =>
    have hc : ¬ (c = 'e' ∧ (composeAcute rest).head? = some '\u0301') := by
      rintro ⟨he, hhead⟩
      obtain ⟨rest', hrest⟩ := List.head?_eq_some_iff.mp (composeAcute_head rest hhead)
      exact hne rest' he hrest
    rw [composeAcute_cons hc, ih]
  | case3 => rfl

def sampleConfig : PersistenceConfig where
  deliveryKey _ reference := reference
  changeKey target family _ correlation := target ++ family ++ correlation
  evidenceId key := "chg-" ++ key
  preimageDigest e := "sha256:" ++ e.operationName
  payloadSha256
    | .artifact a => "sha256:a" ++ a.evidence.operationName
    | .handoff h => "sha256:h" ++ h.deduplicationKey
  payloadSize _ := 1024
  normalizeText text := String.ofList (composeAcute text.toList)
  normalizeText_idem text := by
    rw [String.toList_ofList, composeAcute_idem]
  verifyPreimage _ _ := true
  versionId version := "v" ++ toString version

/-- A delivery of one source record whose operation is spelled as given. -/
def sampleDelivery (operationName : String) (receivedAt : UtcDateTime) : ChangeDelivery where
  evidence :=
    { evidenceId := "chg-r"
      deduplicationKey := "r"
      changeKey := "twritec"
      sourceSystem := .azureEventGrid
      sourceRecordReference := "r"
      sourceDigest := "sha256:s"
      targetResourceId := "t"
      targetResourceType := "m"
      operation := .createOrUpdate
      operationName
      result := .succeeded
      changedProperties := []
      actor := ⟨.unknown, "a"⟩
      occurredAt := 0
      correlationId := "c"
      deploymentSource := ⟨.unknown, "a"⟩
      policyContext := ⟨none, none, .unknown⟩
      beforeEvidenceReference := none
      afterEvidenceReference := none
      receivedAt }
  signingKeyId := "k"
  signature := "QQ=="

/-- Call 0 spells the accent composed, every other call decomposed. -/
def sampleDeliveries (i : ℕ) : ChangeDelivery :=
  if i = 0 then sampleDelivery "é" 0 else sampleDelivery "e\u0301" 1

/-- Call 0 persists its delivery; call 1 recovers the handoff. -/
def sampleRecovery : List PersistAction :=
  List.replicate 4 (.advance 0 .answered) ++ List.replicate 2 (.advance 1 .answered)

theorem sampleRecovery_some :
    (runSteps (step sampleConfig sampleDeliveries) initial sampleRecovery).isSome = true := by
  decide

def sampleRecovered : PersistState := Option.get _ sampleRecovery_some

theorem sampleRecovered_reachable :
    (system sampleConfig sampleDeliveries).Reachable sampleRecovered :=
  reachable_runSteps sampleRecovery (.start rfl) (Option.some_get sampleRecovery_some).symm

def sampleHandoff : ChangeEvidencePersistenceHandoff :=
  ⟨"chg-r", "r", "twritec", .artifact "r", "v0", "sha256:aé"⟩

/-- Both calls returned the one handoff, and it is durable. -/
theorem persistence_idempotent_recovery :
    sampleRecovered.calls 0 = .returned sampleHandoff ∧
    sampleRecovered.calls 1 = .returned sampleHandoff ∧
    Durable sampleConfig sampleRecovered "r" sampleHandoff := by
  have hzero : sampleRecovered.calls 0 = .returned sampleHandoff := by decide
  have hone : sampleRecovered.calls 1 = .returned sampleHandoff := by decide
  obtain ⟨-, hreturned, -⟩ := persistence_idempotent sampleRecovered_reachable
  obtain ⟨-, -, -, -, -, hdurable⟩ := hreturned 0 sampleHandoff hzero
  exact ⟨hzero, hone, hdurable⟩

/-- A delivery whose source record differs from a persisted one in any field does
not return. -/
def DifferingDeliveriesRaise : Prop :=
  ∀ cfg deliveries s i j handoff handoff', (system cfg deliveries).Reachable s →
    s.calls i = .returned handoff →
    (deliveries i).evidence.deduplicationKey = (deliveries j).evidence.deduplicationKey →
    (deliveries i).evidence.toSourceRecordEvidence ≠
      (deliveries j).evidence.toSourceRecordEvidence →
    s.calls j ≠ .returned handoff'

/-- The decomposed spelling is another operation name, and its delivery returns. -/
theorem composedSpelling_returns : ¬ DifferingDeliveriesRaise := by
  intro h
  have hzero : sampleRecovered.calls 0 = .returned sampleHandoff := by decide
  have hone : sampleRecovered.calls 1 = .returned sampleHandoff := by decide
  refine h sampleConfig sampleDeliveries sampleRecovered 0 1 sampleHandoff sampleHandoff
    sampleRecovered_reachable hzero rfl ?_ hone
  decide

end AthenaContext.ChangePersistence
