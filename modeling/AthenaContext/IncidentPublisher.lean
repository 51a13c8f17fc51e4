import AthenaContext.ConditionalStores
import AthenaContext.IncidentRecords
import Mathlib

/-!
# The incident asset publisher

The private container of incident assets and the operations which the
publisher makes on it, one blob request at a time: create-only uploads of
immutable assets, the conditional write of the current pointer and the
conditional write of the active index. A publication is the machine that
steps through these requests; what happens between two of them is left to the
systems that run it. Every immutable blob has the one version that its
creation gave it, and blobs carry the metadata which their writers set.
-/

namespace AthenaContext.IncidentPublisher

open IncidentRecords ConditionalStores

/-- The container: immutable blobs, `current.json` pointers, `active.json`. -/
structure Container where
  immutable : String → Option Payload
  current : String → Cell IncidentFeedPointer
  active : Cell ActiveIncidentIndex

/-- A container to which nothing was published. -/
def emptyContainer : Container := ⟨fun _ => none, fun _ => Cell.empty, Cell.empty⟩

/-- `AzureBlobIncidentAssetPublisher`: its trust anchor, its verifier, and the
version identifier which the service gives a blob. -/
structure Publisher where
  encoding : Encoding
  key : SigningKey
  verify : Payload → String → Bool
  versionId : String → String

/-- The requests a publisher accepts. -/
inductive PublicationRequest
  | incident (request : IncidentPublicationRequest)
  | heartbeat (request : ActiveIncidentIndexPublicationRequest)
  deriving DecidableEq, Repr

/-- The index part of a request. -/
def PublicationRequest.indexRequest : PublicationRequest → ActiveIncidentIndexPublicationRequest
  | .incident request => request.toActiveIncidentIndexPublicationRequest
  | .heartbeat request => request

def maxOccurrenceReceiptBytes : ℕ := 16 * 1024

section Publisher

variable (publisher : Publisher)

/-- The reference to an asset at its version. -/
def assetReference (asset : PresentationAsset) (version : String) : VersionPinnedBlobReference :=
  ⟨asset.blobName, version, publisher.encoding.sha256Hex asset.payload⟩

/-- `build_incident_occurrence_receipt` with the receipt's own validation. -/
def buildIncidentOccurrenceReceipt (state : IncidentState) (stateAttestation : Attestation)
    (pointer : IncidentFeedPointer) (pointerAttestation : Attestation)
    (stateReference stateAttestationReference pointerReference
      pointerAttestationReference : VersionPinnedBlobReference) :
    Except PresentationError IncidentOccurrenceReceipt :=
  let sha := publisher.encoding.sha256Hex
  if state.resultDigest ≠ sha (.unsignedState state.toUnsignedIncidentState) ∨
      stateAttestation.digest ≠ state.resultDigest ∨
      stateAttestation.keyVaultKeyId ≠ pointerAttestation.keyVaultKeyId ∨
      pointer.incidentId ≠ state.incidentId ∨
      pointer.stateSha256 ≠ sha (.state state) ∨
      removePrefix pointer.statePath "./" ≠ stateReference.name ∨
      pointer.attestationSha256 ≠ sha (.attestation stateAttestation) ∨
      removePrefix pointer.attestationPath "./" ≠ stateAttestationReference.name ∨
      removePrefix (removeSuffix pointer.statePath "/state.json") "./" ++ "/pointer.json" ≠
        pointerReference.name ∨
      removePrefix pointer.pointerAttestationPath "./" ≠ pointerAttestationReference.name ∨
      pointerAttestation.digest ≠ sha (.pointer pointer) ∨
      stateReference.contentDigest ≠ sha (.state state) ∨
      stateAttestationReference.contentDigest ≠ sha (.attestation stateAttestation) ∨
      pointerReference.contentDigest ≠ sha (.pointer pointer) ∨
      pointerAttestationReference.contentDigest ≠ sha (.attestation pointerAttestation) ∨
      pointer.publishedAt < state.updatedAt then
    .error (.invalid "incident occurrence receipt inputs do not match exact artifacts")
  else
  let occurrence : IncidentOccurrence :=
    ⟨state.incidentId, state.transitionId, state.resultDigest, stateReference,
      stateAttestationReference, pointerReference, pointerAttestationReference,
      pointer.publishedAt⟩
  let digest := sha (.occurrence occurrence)
  let folder := versionPrefix state
  if stateReference.name ≠ folder ++ "/state.json" ∨
      stateAttestationReference.name ≠ folder ++ "/attestation.json" ∨
      pointerReference.name ≠ folder ++ "/pointer.json" ∨
      pointerAttestationReference.name ≠ folder ++ "/pointer-attestation.json" then
    .error (.invalid "incident occurrence references do not bind one state version")
  else
  let receipt : IncidentOccurrenceReceipt :=
    { occurrence with
      occurrenceId := "incident-occurrence-" ++
        String.ofList ((removePrefix digest "sha256:").toList.take 32)
      occurrenceDigest := digest }
  if maxOccurrenceReceiptBytes < publisher.encoding.byteLength (.receipt receipt) then
    .error (.invalid "incident occurrence receipt exceeds its byte budget")
  else .ok receipt

/-- The receipt of a publication request at the given versions of its assets. -/
def requestReceipt (request : IncidentPublicationRequest) (version : String → String) :
    Except PresentationError IncidentOccurrenceReceipt :=
  match request.state.payload, request.attestation.payload with
  | .state state, .attestation attestation =>
    buildIncidentOccurrenceReceipt publisher state attestation request.pointer
      request.pointerAttestation
      (assetReference publisher request.state (version request.state.blobName))
      (assetReference publisher request.attestation (version request.attestation.blobName))
      (assetReference publisher request.pointerAsset (version request.pointerAsset.blobName))
      (assetReference publisher request.pointerAttestationAsset
        (version request.pointerAttestationAsset.blobName))
  | _, _ => .error (.invalid "incident state is invalid")

/-- `_upload_immutable`: a blob that exists already is accepted when it holds
the same bytes. -/
def uploadImmutable (container : Container) (asset : PresentationAsset) :
    Except PresentationError Container :=
  match container.immutable asset.blobName with
  | none =>
    .ok { container with
      immutable := Function.update container.immutable asset.blobName (some asset.payload) }
  | some existing =>
    if existing = asset.payload then .ok container
    else .error (.alreadyExists
      "an immutable incident asset already exists with different or unversioned content")

/-- The write that follows a download of a mutable asset. -/
inductive MutableWrite
  | unchanged | create
  | replace (etag : ℕ)
  deriving DecidableEq, Repr

/-- `_publish_current_pointer` up to its write. -/
def currentPointerWrite (request : IncidentPublicationRequest) :
    Option (IncidentFeedPointer × ℕ) → Except PresentationError MutableWrite
  | none => .ok .create
  | some (current, etag) =>
    if current = request.pointer then .ok .unchanged
    else if current.incidentId ≠ request.pointer.incidentId ∨
        current.keyId ≠ publisher.key.keyId ∨
        current.keyFingerprint ≠ publisher.key.keyFingerprint ∨
        request.pointer.publishedAt ≤ current.publishedAt then
      .error (.alreadyExists "current incident pointer publication is not newer and trusted")
    else .ok (.replace etag)

/-- `_publish_active_index` up to its write. -/
def activeIndexWrite (request : ActiveIncidentIndexPublicationRequest) :
    Option (ActiveIncidentIndex × ℕ) → Except PresentationError MutableWrite
  | none =>
    if request.previousActiveIndexSha256.isSome then
      .error (.alreadyExists "active incident index disappeared during publication")
    else .ok .create
  | some (current, etag) =>
    if current = request.activeIndex then .ok .unchanged
    else if request.previousActiveIndexSha256 ≠
        some (publisher.encoding.sha256Hex (.index current)) then
      .error (.alreadyExists "active incident index changed during publication")
    else if current.keyId ≠ publisher.key.keyId ∨
        current.keyFingerprint ≠ publisher.key.keyFingerprint ∨
        request.activeIndex.publishedAt ≤ current.publishedAt then
      .error (.alreadyExists "active incident index publication is not newer and trusted")
    else .ok (.replace etag)

/-- `_upload_missing_mutable` and `_replace_mutable`. -/
def writeMutable {α : Type} (cell : Cell α) (value : α) :
    MutableWrite → Except PresentationError (Cell α)
  | .unchanged => .ok cell
  | .create =>
    match cell.create value with
    | some written => .ok written
    | none => .error (.alreadyExists "mutable incident asset was created concurrently")
  | .replace etag =>
    match cell.replace etag value with
    | some written => .ok written
    | none => .error (.alreadyExists
        "mutable incident asset changed during conditional publication")

/-- How far a publication has come. A loaded phase holds the write that was
decided on the downloaded bytes. -/
inductive PublishPhase
  | uploading (assets : List PresentationAsset)
  | pointerDue
  | pointerLoaded (write : MutableWrite)
  | indexDue
  | indexLoaded (write : MutableWrite)
  | returned
  | raised (error : PresentationError)
  deriving DecidableEq, Repr

/-- The trust anchor check of a request's index part. -/
def indexTrusted (request : ActiveIncidentIndexPublicationRequest) : Prop :=
  request.activeIndex.keyId = publisher.key.keyId ∧
    request.activeIndex.keyFingerprint = publisher.key.keyFingerprint ∧
    request.activeIndexAttestation.keyVaultKeyId = publisher.key.keyVaultKeyId

instance (request : ActiveIncidentIndexPublicationRequest) :
    Decidable (indexTrusted publisher request) := by
  unfold indexTrusted
  infer_instance

/-- The checks of `publish_incident` and `publish_active_incident_index`
before their first blob request. -/
def startPublication : PublicationRequest → Except PresentationError PublishPhase
  | .incident request => do
    if request.pointer.keyId ≠ publisher.key.keyId ∨
        request.pointer.keyFingerprint ≠ publisher.key.keyFingerprint ∨
        request.pointerAttestation.keyVaultKeyId ≠ publisher.key.keyVaultKeyId ∨
        ¬ indexTrusted publisher request.toActiveIncidentIndexPublicationRequest then
      .error (.invalid "incident publication trust anchor is invalid")
    else
      let _ ← requestReceipt publisher request fun _ => "preflight"
      return .uploading [request.state, request.attestation, request.pointerAsset,
      request.pointerAttestationAsset, request.activeIndexAttestationAsset]
  | .heartbeat request =>
    if indexTrusted publisher request then
      .ok (.uploading [request.activeIndexAttestationAsset])
    else .error (.invalid "active incident index trust anchor is invalid")

/-- One blob request of a publication. -/
def publishStep (request : PublicationRequest) (container : Container) :
    PublishPhase → Container × PublishPhase
  | .uploading [] =>
    match request with
    | .incident _ => (container, .pointerDue)
    | .heartbeat _ => (container, .indexDue)
  | .uploading (asset :: rest) =>
    match uploadImmutable container asset with
    | .ok written => (written, .uploading rest)
    | .error error => (container, .raised error)
  | .pointerDue =>
    match request with
    | .incident r =>
      match currentPointerWrite publisher r
          (container.current r.currentPointerAsset.blobName).content with
      | .ok .unchanged => (container, .indexDue)
      | .ok write => (container, .pointerLoaded write)
      | .error error => (container, .raised error)
    | .heartbeat _ => (container, .indexDue)
  | .pointerLoaded write =>
    match request with
    | .incident r =>
      let name := r.currentPointerAsset.blobName
      match writeMutable (container.current name) r.pointer write with
      | .ok cell =>
        ({ container with current := Function.update container.current name cell }, .indexDue)
      | .error error => (container, .raised error)
    | .heartbeat _ => (container, .indexDue)
  | .indexDue =>
    match activeIndexWrite publisher request.indexRequest container.active.content with
    | .ok .unchanged => (container, .returned)
    | .ok write => (container, .indexLoaded write)
    | .error error => (container, .raised error)
  | .indexLoaded write =>
    match writeMutable container.active request.indexRequest.activeIndex write with
    | .ok cell => ({ container with active := cell }, .returned)
    | .error error => (container, .raised error)
  | .returned => (container, .returned)
  | .raised error => (container, .raised error)

/-- The first `n` blob requests of a publication. -/
def publishSteps (request : PublicationRequest) :
    ℕ → Container → PublishPhase → Container × PublishPhase
  | 0, container, phase => (container, phase)
  | n + 1, container, phase =>
    let next := publishStep publisher request container phase
    publishSteps request n next.1 next.2

/-- What `read_active_incident_index` checks of a downloaded index: its trust
anchor and its signed attestation. -/
def checkActiveIncidentIndex (container : Container) (index : ActiveIncidentIndex) :
    Except PresentationError ActiveIncidentIndexSnapshot :=
  if index.keyId ≠ publisher.key.keyId ∨ index.keyFingerprint ≠ publisher.key.keyFingerprint then
    .error (.unavailable "active incident index trust binding is invalid")
  else match container.immutable (removePrefix index.indexAttestationPath "./") with
  | some (.attestation attestation) =>
    if attestation.digest ≠ publisher.encoding.sha256Hex (.index index) ∨
        attestation.keyVaultKeyId ≠ publisher.key.keyVaultKeyId ∨
        ¬ publisher.verify (.index index) attestation.detachedSignature then
      .error (.unavailable "active incident index signature is invalid")
    else .ok index
  | some _ => .error (.unavailable "active incident index attestation is invalid")
  | none => .error (.unavailable "active incident index attestation is unavailable")

/-- `read_active_incident_index`. -/
def readActiveIncidentIndex (container : Container) :
    Except PresentationError (Option ActiveIncidentIndexSnapshot) :=
  match container.active.value with
  | none => .ok none
  | some index => some <$> checkActiveIncidentIndex publisher container index

/-- `CurrentIncidentStateSnapshot`; its digest is the digest of the pointer. -/
structure CurrentIncidentStateSnapshot where
  state : IncidentState
  pointer : IncidentFeedPointer
  occurrence : Option IncidentOccurrenceReceipt
  deriving DecidableEq, Repr

/-- Blob of an incident's current pointer. -/
def currentPointerName (incidentId : String) : String :=
  "incidents/" ++ incidentId ++ "/current.json"

theorem currentPointerName_inj {a b : String} (h : currentPointerName a = currentPointerName b) :
    a = b := by
  have hl := congrArg String.toList h
  simp only [currentPointerName, String.toList_append, List.append_assoc] at hl
  exact String.toList_inj.mp (List.append_cancel_right (List.append_cancel_left hl))

/-- The pattern `inc-[a-f0-9]{12}`. -/
def isIncidentId (s : String) : Bool :=
  let digits := s.toList.drop 4
  s.toList.take 4 == "inc-".toList && digits.length == 12 &&
    digits.all fun c => c ∈ "0123456789abcdef".toList

/-- `read_current_incident_state`. -/
def readCurrentIncidentState (container : Container) (incidentId : String) :
    Except PresentationError (Option CurrentIncidentStateSnapshot) := do
  let sha := publisher.encoding.sha256Hex
  if ¬ isIncidentId incidentId then
    .error (.invalid "incident_id is invalid")
  else match (container.current (currentPointerName incidentId)).value with
  | none => return none
  | some pointer =>
    if pointer.incidentId ≠ incidentId ∨ pointer.keyId ≠ publisher.key.keyId ∨
        pointer.keyFingerprint ≠ publisher.key.keyFingerprint then
      .error (.unavailable "current incident pointer trust binding is invalid")
    else
    let pointerName :=
      removePrefix (removeSuffix pointer.statePath "/state.json") "./" ++ "/pointer.json"
    let pointerAttestationName := removePrefix pointer.pointerAttestationPath "./"
    let stateName := removePrefix pointer.statePath "./"
    let attestationName := removePrefix pointer.attestationPath "./"
    match container.immutable pointerName, container.immutable pointerAttestationName,
        container.immutable stateName, container.immutable attestationName with
    | some immutablePointer, some (.attestation pointerAttestation), some (.state state),
        some (.attestation stateAttestation) =>
      if immutablePointer ≠ .pointer pointer ∨
          pointerAttestation.digest ≠ sha (.pointer pointer) ∨
          pointerAttestation.keyVaultKeyId ≠ publisher.key.keyVaultKeyId ∨
          ¬ publisher.verify (.pointer pointer) pointerAttestation.detachedSignature ∨
          pointer.stateSha256 ≠ sha (.state state) ∨
          state.incidentId ≠ incidentId ∨
          state.resultDigest ≠ sha (.unsignedState state.toUnsignedIncidentState) ∨
          removeSuffix (removePrefix pointer.statePath
            ("./incidents/" ++ incidentId ++ "/versions/")) "/state.json" ≠
              removePrefix state.resultDigest "sha256:" ∨
          pointer.attestationSha256 ≠ sha (.attestation stateAttestation) ∨
          stateAttestation.digest ≠ state.resultDigest ∨
          stateAttestation.keyVaultKeyId ≠ publisher.key.keyVaultKeyId ∨
          ¬ publisher.verify (.unsignedState state.toUnsignedIncidentState)
            stateAttestation.detachedSignature then
        .error (.unavailable "current incident state trust binding is invalid")
      else if state.updatedAt ≤ pointer.publishedAt then
        let receipt ← buildIncidentOccurrenceReceipt publisher state stateAttestation pointer
          pointerAttestation
          ⟨stateName, publisher.versionId stateName, pointer.stateSha256⟩
          ⟨attestationName, publisher.versionId attestationName, pointer.attestationSha256⟩
          ⟨pointerName, publisher.versionId pointerName, sha (.pointer pointer)⟩
          ⟨pointerAttestationName, publisher.versionId pointerAttestationName,
            sha (.attestation pointerAttestation)⟩
        return some ⟨state, pointer, some receipt⟩
      else return some ⟨state, pointer, none⟩
    | some _, some _, some _, some _ =>
      .error (.unavailable "current incident state is invalid")
    | _, _, _, _ => .error (.unavailable "immutable incident asset is unavailable")

end Publisher

/-! ## What one blob request does -/

section Steps

variable {publisher : Publisher} {request : PublicationRequest} {container : Container}

/-- The moves of a publication: every phase with what its blob request found,
and the container and the phase after it. -/
inductive Moves (publisher : Publisher) (request : PublicationRequest) (container : Container) :
    PublishPhase → Container × PublishPhase → Prop
  | uploadsDone {next : PublishPhase}
      (h : (∃ r, request = .incident r ∧ next = .pointerDue) ∨
        ∃ beat, request = .heartbeat beat ∧ next = .indexDue) :
      Moves publisher request container (.uploading []) (container, next)
  | uploaded {asset : PresentationAsset} {rest : List PresentationAsset} {written : Container}
      (h : uploadImmutable container asset = .ok written) :
      Moves publisher request container (.uploading (asset :: rest)) (written, .uploading rest)
  | pointerSkipped {phase : PublishPhase} {beat : ActiveIncidentIndexPublicationRequest}
      (hp : phase = .pointerDue ∨ ∃ write, phase = .pointerLoaded write)
      (h : request = .heartbeat beat) :
      Moves publisher request container phase (container, .indexDue)
  | pointerEqual {r : IncidentPublicationRequest} (hr : request = .incident r)
      (h : currentPointerWrite publisher r
        (container.current r.currentPointerAsset.blobName).content = .ok .unchanged) :
      Moves publisher request container .pointerDue (container, .indexDue)
  | pointerDownloaded {r : IncidentPublicationRequest} {write : MutableWrite}
      (hr : request = .incident r) (hw : write ≠ .unchanged)
      (h : currentPointerWrite publisher r
        (container.current r.currentPointerAsset.blobName).content = .ok write) :
      Moves publisher request container .pointerDue (container, .pointerLoaded write)
  | pointerWritten {r : IncidentPublicationRequest} {write : MutableWrite}
      {cell : Cell IncidentFeedPointer} (hr : request = .incident r)
      (h : writeMutable (container.current r.currentPointerAsset.blobName) r.pointer write =
        .ok cell) :
      Moves publisher request container (.pointerLoaded write)
        ({ container with
          current := Function.update container.current r.currentPointerAsset.blobName cell },
          .indexDue)
  | indexEqual
      (h : activeIndexWrite publisher request.indexRequest container.active.content =
        .ok .unchanged) :
      Moves publisher request container .indexDue (container, .returned)
  | indexDownloaded {write : MutableWrite} (hw : write ≠ .unchanged)
      (h : activeIndexWrite publisher request.indexRequest container.active.content =
        .ok write) :
      Moves publisher request container .indexDue (container, .indexLoaded write)
  | indexWritten {write : MutableWrite} {cell : Cell ActiveIncidentIndex}
      (h : writeMutable container.active request.indexRequest.activeIndex write = .ok cell) :
      Moves publisher request container (.indexLoaded write)
        ({ container with active := cell }, .returned)
  | refused {phase : PublishPhase} {message : String}
      (hp : phase ≠ .returned ∧ ∀ error, phase ≠ .raised error) :
      Moves publisher request container phase (container, .raised (.alreadyExists message))
  | finished {phase : PublishPhase} (hp : phase = .returned ∨ ∃ error, phase = .raised error) :
      Moves publisher request container phase (container, phase)

theorem uploadImmutable_error {asset : PresentationAsset} {error : PresentationError}
    (h : uploadImmutable container asset = .error error) : ∃ m, error = .alreadyExists m := by
  unfold uploadImmutable at h
  split at h
  · cases h
  · split at h
    · cases h
    · exact ⟨_, (Except.error.inj h).symm⟩

theorem currentPointerWrite_error {r : IncidentPublicationRequest}
    {content : Option (IncidentFeedPointer × ℕ)} {error : PresentationError}
    (h : currentPointerWrite publisher r content = .error error) :
    ∃ m, error = .alreadyExists m := by
  unfold currentPointerWrite at h
  split at h
  · cases h
  · split at h
    · cases h
    · split at h
      · exact ⟨_, (Except.error.inj h).symm⟩
      · cases h

theorem activeIndexWrite_error {r : ActiveIncidentIndexPublicationRequest}
    {content : Option (ActiveIncidentIndex × ℕ)} {error : PresentationError}
    (h : activeIndexWrite publisher r content = .error error) : ∃ m, error = .alreadyExists m := by
  unfold activeIndexWrite at h
  split at h
  · split at h
    · exact ⟨_, (Except.error.inj h).symm⟩
    · cases h
  · split at h
    · cases h
    · split at h
      · exact ⟨_, (Except.error.inj h).symm⟩
      · split at h
        · exact ⟨_, (Except.error.inj h).symm⟩
        · cases h

theorem writeMutable_error {α : Type} {cell : Cell α} {x : α} {write : MutableWrite}
    {error : PresentationError} (h : writeMutable cell x write = .error error) :
    ∃ m, error = .alreadyExists m := by
  unfold writeMutable at h
  split at h
  · cases h
  · split at h
    · cases h
    · exact ⟨_, (Except.error.inj h).symm⟩
  · split at h
    · cases h
    · exact ⟨_, (Except.error.inj h).symm⟩

/-- A conditional write creates, replaces under its token, or does nothing. -/
theorem writeMutable_ok {α : Type} {cell written : Cell α} {x : α} {write : MutableWrite}
    (h : writeMutable cell x write = .ok written) :
    (write = .unchanged ∧ written = cell) ∨ (write = .create ∧ cell.create x = some written) ∨
      ∃ etag, write = .replace etag ∧ cell.replace etag x = some written := by
  unfold writeMutable at h
  split at h
  · exact Or.inl ⟨rfl, (Except.ok.inj h).symm⟩
  · split at h
    · rename_i hc
      cases h
      exact Or.inr (Or.inl ⟨rfl, hc⟩)
    · cases h
  · rename_i etag
    split at h
    · rename_i hc
      cases h
      exact Or.inr (Or.inr ⟨etag, rfl, hc⟩)
    · cases h

/-- Every step of a publication is one of the moves. -/
theorem publishStep_moves (phase : PublishPhase) :
    Moves publisher request container phase (publishStep publisher request container phase) := by
  have hopen : ∀ {p : PublishPhase}, p ≠ .returned → (∀ error, p ≠ .raised error) →
      p ≠ .returned ∧ ∀ error, p ≠ .raised error := fun h h' => ⟨h, h'⟩
  cases phase with
  | uploading assets =>
    cases assets with
    | nil =>
      cases request with
      | incident r => exact .uploadsDone (Or.inl ⟨r, rfl, rfl⟩)
      | heartbeat r => exact .uploadsDone (Or.inr ⟨r, rfl, rfl⟩)
    | cons asset rest =>
      simp only [publishStep]
      split
      · exact .uploaded (by assumption)
      · rename_i error he
        obtain ⟨m, rfl⟩ := uploadImmutable_error he
        exact .refused (hopen nofun nofun)
  | pointerDue =>
    cases request with
    | heartbeat r => exact .pointerSkipped (Or.inl rfl) rfl
    | incident r =>
      simp only [publishStep]
      split
      · rename_i he
        exact .pointerEqual rfl he
      · rename_i write hne he
        exact .pointerDownloaded rfl hne he
      · rename_i error he
        obtain ⟨m, rfl⟩ := currentPointerWrite_error he
        exact .refused (hopen nofun nofun)
  | pointerLoaded write =>
    cases request with
    | heartbeat r => exact .pointerSkipped (Or.inr ⟨write, rfl⟩) rfl
    | incident r =>
      simp only [publishStep]
      split
      · rename_i cell he
        exact .pointerWritten rfl he
      · rename_i error he
        obtain ⟨m, rfl⟩ := writeMutable_error he
        exact .refused (hopen nofun nofun)
  | indexDue =>
    simp only [publishStep]
    split
    · rename_i he
      exact .indexEqual he
    · rename_i write hne he
      exact .indexDownloaded hne he
    · rename_i error he
      obtain ⟨m, rfl⟩ := activeIndexWrite_error he
      exact .refused (hopen nofun nofun)
  | indexLoaded write =>
    simp only [publishStep]
    split
    · rename_i cell he
      exact .indexWritten he
    · rename_i error he
      obtain ⟨m, rfl⟩ := writeMutable_error he
      exact .refused (hopen nofun nofun)
  | returned => exact .finished (Or.inl rfl)
  | raised error => exact .finished (Or.inr ⟨error, rfl⟩)

/-- The pointer is left as it is only where it is the published one. -/
theorem currentPointerWrite_unchanged {r : IncidentPublicationRequest}
    {content : Option (IncidentFeedPointer × ℕ)}
    (h : currentPointerWrite publisher r content = .ok .unchanged) :
    ∃ etag, content = some (r.pointer, etag) := by
  unfold currentPointerWrite at h
  cases content with
  | none => cases h
  | some p =>
    obtain ⟨copy, token⟩ := p
    dsimp only at h
    split at h
    · rename_i he
      exact ⟨token, by rw [he]⟩
    · split at h <;> cases h

/-- The content on which a replacement of the index was decided. -/
theorem activeIndexWrite_replace {r : ActiveIncidentIndexPublicationRequest}
    {content : Option (ActiveIncidentIndex × ℕ)} {etag : ℕ}
    (h : activeIndexWrite publisher r content = .ok (.replace etag)) :
    ∃ copy, content = some (copy, etag) ∧
      r.previousActiveIndexSha256 = some (publisher.encoding.sha256Hex (.index copy)) ∧
      copy.publishedAt < r.activeIndex.publishedAt := by
  unfold activeIndexWrite at h
  cases content with
  | none =>
    dsimp only at h
    split at h <;> cases h
  | some p =>
    obtain ⟨copy, token⟩ := p
    dsimp only at h
    split at h
    · cases h
    · split at h
      · cases h
      · rename_i hprev
        split at h
        · cases h
        · rename_i htrust
          cases h
          have hlt : ¬ r.activeIndex.publishedAt ≤ copy.publishedAt :=
            fun hle => htrust (Or.inr (Or.inr hle))
          exact ⟨copy, rfl, not_not.mp hprev, not_le.mp hlt⟩

theorem activeIndexWrite_create {r : ActiveIncidentIndexPublicationRequest}
    {content : Option (ActiveIncidentIndex × ℕ)}
    (h : activeIndexWrite publisher r content = .ok .create) :
    content = none ∧ r.previousActiveIndexSha256 = none := by
  unfold activeIndexWrite at h
  cases content with
  | none =>
    dsimp only at h
    split at h
    · cases h
    · rename_i hprev
      exact ⟨rfl, by simpa using hprev⟩
  | some p =>
    dsimp only at h
    split at h
    · cases h
    · split at h
      · cases h
      · split at h <;> cases h

theorem activeIndexWrite_unchanged {r : ActiveIncidentIndexPublicationRequest}
    {content : Option (ActiveIncidentIndex × ℕ)}
    (h : activeIndexWrite publisher r content = .ok .unchanged) :
    ∃ etag, content = some (r.activeIndex, etag) := by
  unfold activeIndexWrite at h
  cases content with
  | none =>
    dsimp only at h
    split at h <;> cases h
  | some p =>
    obtain ⟨copy, token⟩ := p
    dsimp only at h
    split at h
    · rename_i he
      exact ⟨token, by rw [he]⟩
    · split at h
      · cases h
      · split at h <;> cases h

/-- An upload keeps every immutable blob and holds its own asset. -/
theorem uploadImmutable_ok {written : Container} {asset : PresentationAsset}
    (h : uploadImmutable container asset = .ok written) :
    written.immutable asset.blobName = some asset.payload ∧
      (∀ name payload, container.immutable name = some payload →
        written.immutable name = some payload) ∧
      written.current = container.current ∧ written.active = container.active := by
  unfold uploadImmutable at h
  split at h
  · rename_i hnone
    cases h
    refine ⟨Function.update_self _ _ _, fun name payload hp => ?_, rfl, rfl⟩
    have hne : name ≠ asset.blobName := by
      intro he
      rw [he, hnone] at hp
      cases hp
    simpa only [Function.update_of_ne hne] using hp
  · rename_i existing hsome
    split at h
    · rename_i he
      cases h
      exact ⟨by rw [hsome, he], fun name payload hp => hp, rfl, rfl⟩
    · cases h

/-- An upper bound on the blob requests that a publication still makes. -/
def PublishPhase.remaining : PublishPhase → ℕ
  | .uploading assets => assets.length + 5
  | .pointerDue => 4
  | .pointerLoaded _ => 3
  | .indexDue => 2
  | .indexLoaded _ => 1
  | .returned => 0
  | .raised _ => 0

/-- Every blob request brings a publication closer to its end. -/
theorem Moves.remaining {phase : PublishPhase} {next : Container × PublishPhase}
    (h : Moves publisher request container phase next) :
    (phase.remaining = 0 ∧ next.2 = phase) ∨ next.2.remaining < phase.remaining := by
  cases h with
  | uploadsDone h =>
    rcases h with ⟨r, -, rfl⟩ | ⟨r, -, rfl⟩
    · exact Or.inr (by simp [PublishPhase.remaining])
    · exact Or.inr (by simp [PublishPhase.remaining])
  | uploaded h => exact Or.inr (by simp [PublishPhase.remaining])
  | pointerSkipped hp h =>
    rcases hp with rfl | ⟨write, rfl⟩
    · exact Or.inr (by simp [PublishPhase.remaining])
    · exact Or.inr (by simp [PublishPhase.remaining])
  | pointerEqual hr h => exact Or.inr (by simp [PublishPhase.remaining])
  | pointerDownloaded hr hw h => exact Or.inr (by simp [PublishPhase.remaining])
  | pointerWritten hr h => exact Or.inr (by simp [PublishPhase.remaining])
  | indexEqual h => exact Or.inr (by simp [PublishPhase.remaining])
  | indexDownloaded hw h => exact Or.inr (by simp [PublishPhase.remaining])
  | indexWritten h => exact Or.inr (by simp [PublishPhase.remaining])
  | refused hp =>
    right
    cases phase with
    | returned => exact absurd rfl hp.1
    | raised error => exact absurd rfl (hp.2 error)
    | uploading assets => simp [PublishPhase.remaining]
    | pointerDue => simp [PublishPhase.remaining]
    | pointerLoaded write => simp [PublishPhase.remaining]
    | indexDue => simp [PublishPhase.remaining]
    | indexLoaded write => simp [PublishPhase.remaining]
  | finished hp =>
    left
    rcases hp with rfl | ⟨error, rfl⟩
    · exact ⟨rfl, rfl⟩
    · exact ⟨rfl, rfl⟩

theorem checkActiveIncidentIndex_ok {index snapshot : ActiveIncidentIndex}
    (h : checkActiveIncidentIndex publisher container index = .ok snapshot) :
    snapshot = index := by
  unfold checkActiveIncidentIndex at h
  split at h
  · cases h
  · split at h
    · split at h
      · cases h
      · exact (Except.ok.inj h).symm
    · cases h
    · cases h

/-- The snapshot that is read is the content of the index. -/
theorem readActiveIncidentIndex_ok {snapshot : Option ActiveIncidentIndex}
    (h : readActiveIncidentIndex publisher container = .ok snapshot) :
    snapshot = container.active.value := by
  unfold readActiveIncidentIndex at h
  split at h
  · rename_i hnone
    rw [hnone]
    exact (Except.ok.inj h).symm
  · rename_i index hsome
    cases hc : checkActiveIncidentIndex publisher container index with
    | error error =>
      rw [hc] at h
      cases h
    | ok checked =>
      rw [hc] at h
      rw [hsome, ← checkActiveIncidentIndex_ok hc]
      exact (Except.ok.inj h).symm

/-- A publication starts with its immutable uploads, an incident's with its
state first. -/
theorem startPublication_ok {phase : PublishPhase}
    (h : startPublication publisher request = .ok phase) :
    ∃ assets, phase = .uploading assets ∧ ∀ r, request = .incident r → r.state ∈ assets := by
  cases request with
  | incident r =>
    simp only [startPublication] at h
    split at h
    · cases h
    · obtain ⟨receipt, -, hok⟩ := bind_eq_ok.mp h
      refine ⟨_, (Except.ok.inj hok).symm, fun r' hr => ?_⟩
      cases hr
      exact List.mem_cons_self
  | heartbeat r =>
    simp only [startPublication] at h
    split at h
    · refine ⟨_, (Except.ok.inj h).symm, fun r' hr => ?_⟩
      cases hr
    · cases h

end Steps

/-! ## A publisher for sample runs -/

/-- Digests that tell the payloads of the sample runs apart. -/
def sampleDigest : Payload → Digest
  | .index index => "sha256:" ++ index.publishedAt.repr
  | .indexSeed seed => "sha256:" ++ seed.publishedAt.repr
  | .pointer pointer => "sha256:p" ++ pointer.publishedAt.repr
  | .state state => "sha256:s" ++ state.updatedAt.repr
  | .unsignedState state => "sha256:" ++ state.updatedAt.repr
  | _ => "sha256:0"

def sampleSign (payload : Payload) : String := "signed " ++ sampleDigest payload

def sampleKey : SigningKey := ⟨"key", "vault-key", "sha256:f"⟩

def samplePublisher : Publisher :=
  ⟨⟨sampleDigest, fun _ => 1⟩, sampleKey, fun payload signature => signature == sampleSign payload,
    fun name => name⟩

end AthenaContext.IncidentPublisher
