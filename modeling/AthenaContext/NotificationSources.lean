import AthenaContext.IncidentPublisher

/-!
# Sources of a notification

What a notification of the second version is built from: the signed index of the active
incidents, the signed feed, the incident's entry in it, and the occurrence behind the entry's
feed pointer. The reader may answer every read with any document or error. The checks of the
feed's own signatures and of the enrichment, and the rendering of the message, are parameters.
-/

namespace AthenaContext.NotificationSources

open IncidentRecords IncidentPublisher

/-- What a build raises. -/
inductive SourceError
  | notReady (message : String)
  | value (message : String)
  | unavailable
  | other
  deriving DecidableEq, Repr

/-- `IncidentFeedEntryV2`. -/
structure FeedEntry where
  incidentId : String
  lifecycle : IncidentLifecycle
  stateResultDigest : Digest
  updatedAt : UtcDateTime
  feedPointerReference : VersionPinnedBlobReference
  feedPointerAttestationReference : VersionPinnedBlobReference
  deriving DecidableEq, Repr

/-- `IncidentFeedIndexV2`. -/
structure FeedIndex where
  active : List FeedEntry
  recentlyResolved : List FeedEntry
  sourceActiveIndexDigest : Digest
  publishedAt : UtcDateTime
  indexAttestationPath : String
  deriving DecidableEq, Repr

/-- `IncidentEnrichmentFeedPointer`; the enrichment is the name of its asset. -/
structure FeedPointer where
  lifecycle : IncidentLifecycle
  occurrenceDigest : Digest
  stateResultDigest : Digest
  sourceStateReference : VersionPinnedBlobReference
  sourceStateAttestationReference : VersionPinnedBlobReference
  sourcePointerReference : VersionPinnedBlobReference
  sourcePointerAttestationReference : VersionPinnedBlobReference
  enrichmentAsset : String
  publishedAt : UtcDateTime
  deriving DecidableEq, Repr

/-- What a build uses of `IncidentGuidance`. -/
structure Guidance where
  generatedAt : UtcDateTime
  headline : String
  deriving DecidableEq, Repr

/-- `IncidentNotificationV2`. -/
structure NotificationV2 where
  incidentId : String
  transitionId : String
  lifecycle : IncidentLifecycle
  stateResultDigest : Digest
  occurrenceDigest : Digest
  feedPublishedAt : UtcDateTime
  feedPointerReference : VersionPinnedBlobReference
  feedPointerAttestationReference : VersionPinnedBlobReference
  enrichmentAsset : String
  message : String
  deriving DecidableEq, Repr

/-- The answers to the reads of one build. -/
structure SourceReader where
  activeIndex : Except SourceError ActiveIncidentIndex
  activeIndexAttestation : String → Except SourceError Attestation
  feedIndex : Except SourceError FeedIndex
  feedIndexAttestation : String → Except SourceError Attestation
  feedPointer : VersionPinnedBlobReference → Except SourceError FeedPointer
  feedPointerAttestation : VersionPinnedBlobReference → Except SourceError Attestation
  state : VersionPinnedBlobReference → Except SourceError IncidentState
  stateAttestation : VersionPinnedBlobReference → Except SourceError Attestation
  pointer : VersionPinnedBlobReference → Except SourceError IncidentFeedPointer
  pointerAttestation : VersionPinnedBlobReference → Except SourceError Attestation

/-- The trust of a build: the lifecycle authority of the publisher, and the verifications of
the other signed assets. -/
structure NotificationTrust where
  feedIndexAssets : FeedIndex → Attestation → Except SourceError Unit
  feedPointerAssets : FeedEntry → FeedPointer → Attestation → Except SourceError Unit
  enrichment : FeedPointer → IncidentState → Except SourceError Guidance
  render : IncidentState → Guidance → String
  /-- The checks of the notification model, of its signature and of the envelope. -/
  signed : NotificationV2 → Except SourceError Unit

/-- `_MAX_FEED_AGE`. -/
def maxFeedAge : ℤ := 15 * 60 * 1000

/-- `_MAX_CLOCK_SKEW`. -/
def maxClockSkew : ℤ := 60 * 1000

/-- `if p: raise`. -/
def raiseIf (p : Prop) [Decidable p] (e : SourceError) : Except SourceError Unit :=
  if p then .error e else .ok ()

/-- A feed that is unavailable is not published yet. -/
def notPublished : SourceError → SourceError
  | .unavailable => .notReady "incident feed v2 is not published yet"
  | e => e

section Build

variable (publisher : Publisher) (trust : NotificationTrust) (reader : SourceReader)

/-- `_verify_active_index`. -/
def verifyActiveIndex (index : ActiveIncidentIndex) (attestation : Attestation)
    (verifiedAt : UtcDateTime) : Except SourceError Unit :=
  raiseIf (index.keyId ≠ publisher.key.keyId ∨
      index.keyFingerprint ≠ publisher.key.keyFingerprint ∨
      index.publishedAt < verifiedAt - maxFeedAge ∨
      verifiedAt + maxClockSkew < index.publishedAt ∨
      attestation.digest ≠ publisher.encoding.sha256Hex (.index index) ∨
      attestation.keyVaultKeyId ≠ publisher.key.keyVaultKeyId ∨
      ¬ publisher.verify (.index index) attestation.detachedSignature)
    (.value "active incident authority is stale or untrusted")

/-- The agreement of a verified occurrence with the index of the active incidents. -/
def coherentWithIndex (feedPointer : FeedPointer) (state : IncidentState)
    (activeIndex : ActiveIncidentIndex) : Except SourceError Unit :=
  let entry := activeIndex.entryOf state.incidentId
  if state.lifecycle = .active then
    raiseIf (¬ ∃ e ∈ entry, e.pointerPath = "./" ++ feedPointer.sourcePointerReference.name ∧
        e.pointerSha256 = feedPointer.sourcePointerReference.contentDigest ∧
        e.updatedAt = state.updatedAt)
      (.value "active notification is not v1-authority coherent")
  else raiseIf entry.isSome (.value "resolved notification remains active in v1 authority")

/-- The receipt of an occurrence, with its errors as value errors. -/
def occurrenceReceipt (feedPointer : FeedPointer) (state : IncidentState)
    (stateAttestation : Attestation) (pointer : IncidentFeedPointer)
    (pointerAttestation : Attestation) : Except SourceError IncidentOccurrenceReceipt :=
  (buildIncidentOccurrenceReceipt publisher state stateAttestation pointer pointerAttestation
    feedPointer.sourceStateReference feedPointer.sourceStateAttestationReference
    feedPointer.sourcePointerReference feedPointer.sourcePointerAttestationReference).mapError
    fun _ => .value "incident occurrence receipt is invalid"

/-- `_verify_occurrence`. -/
def verifyOccurrence (feedPointer : FeedPointer) (activeIndex : ActiveIncidentIndex) :
    Except SourceError (IncidentState × IncidentOccurrenceReceipt) := do
  let state ← reader.state feedPointer.sourceStateReference
  let stateAttestation ← reader.stateAttestation feedPointer.sourceStateAttestationReference
  let pointer ← reader.pointer feedPointer.sourcePointerReference
  let pointerAttestation ← reader.pointerAttestation feedPointer.sourcePointerAttestationReference
  let occurrence ← occurrenceReceipt publisher feedPointer state stateAttestation pointer
    pointerAttestation
  raiseIf (occurrence.occurrenceDigest ≠ feedPointer.occurrenceDigest ∨
      state.resultDigest ≠ feedPointer.stateResultDigest ∨
      state.lifecycle ≠ feedPointer.lifecycle ∨
      stateAttestation.keyVaultKeyId ≠ publisher.key.keyVaultKeyId ∨
      pointer.keyId ≠ publisher.key.keyId ∨
      pointer.keyFingerprint ≠ publisher.key.keyFingerprint ∨
      pointerAttestation.keyVaultKeyId ≠ publisher.key.keyVaultKeyId ∨
      ¬ publisher.verify (.unsignedState state.toUnsignedIncidentState)
        stateAttestation.detachedSignature ∨
      ¬ publisher.verify (.pointer pointer) pointerAttestation.detachedSignature)
    (.value "notification occurrence is stale, tampered, or untrusted")
  coherentWithIndex feedPointer state activeIndex
  return (state, occurrence)

/-- The signed feed, caught up with the index of the active incidents. -/
def verifiedFeed (activeIndex : ActiveIncidentIndex) (verifiedAt : UtcDateTime) :
    Except SourceError FeedIndex := do
  let feed ← reader.feedIndex.mapError notPublished
  let attestation ← (reader.feedIndexAttestation
    (removePrefix feed.indexAttestationPath "./")).mapError notPublished
  trust.feedIndexAssets feed attestation
  raiseIf (verifiedAt + maxClockSkew < feed.publishedAt)
    (.value "incident feed v2 is from the future")
  raiseIf (feed.sourceActiveIndexDigest ≠ publisher.encoding.sha256Hex (.index activeIndex))
    (.notReady "incident feed v2 has not caught up to current v1 authority")
  raiseIf (feed.publishedAt < verifiedAt - maxFeedAge) (.value "incident feed v2 is stale")
  return feed

/-- The entries of an incident in the feed. -/
def feedEntries (feed : FeedIndex) (incidentId : String) : List FeedEntry :=
  (feed.active ++ feed.recentlyResolved).filter fun e => e.incidentId = incidentId

/-- The one entry of an incident in the feed. -/
def uniqueEntry (feed : FeedIndex) (incidentId : String) : Except SourceError FeedEntry :=
  match feedEntries feed incidentId with
  | [] => .error (.notReady "incident is not available in the current verified feed v2")
  | [entry] => .ok entry
  | _ => .error (.value "incident is not uniquely discoverable in verified feed v2")

/-- The notification of an occurrence. -/
def notificationOf (feed : FeedIndex) (entry : FeedEntry) (feedPointer : FeedPointer)
    (state : IncidentState) (occurrence : IncidentOccurrenceReceipt) (guidance : Guidance) :
    NotificationV2 where
  incidentId := state.incidentId
  transitionId := state.transitionId
  lifecycle := state.lifecycle
  stateResultDigest := state.resultDigest
  occurrenceDigest := occurrence.occurrenceDigest
  feedPublishedAt := feed.publishedAt
  feedPointerReference := entry.feedPointerReference
  feedPointerAttestationReference := entry.feedPointerAttestationReference
  enrichmentAsset := feedPointer.enrichmentAsset
  message := trust.render state guidance

/-- `NotificationV2SourceVerifier.build`. -/
def build (incidentId : String) (verifiedAt : UtcDateTime) :
    Except SourceError NotificationV2 := do
  let activeIndex ← reader.activeIndex
  let attestation ← reader.activeIndexAttestation
    (removePrefix activeIndex.indexAttestationPath "./")
  verifyActiveIndex publisher activeIndex attestation verifiedAt
  let feed ← verifiedFeed publisher trust reader activeIndex verifiedAt
  let entry ← uniqueEntry feed incidentId
  let feedPointer ← reader.feedPointer entry.feedPointerReference
  let feedPointerAttestation ← reader.feedPointerAttestation entry.feedPointerAttestationReference
  trust.feedPointerAssets entry feedPointer feedPointerAttestation
  let (state, occurrence) ← verifyOccurrence publisher reader feedPointer activeIndex
  let guidance ← trust.enrichment feedPointer state
  raiseIf (entry.lifecycle ≠ state.lifecycle ∨ entry.stateResultDigest ≠ state.resultDigest ∨
      entry.updatedAt ≠ state.updatedAt ∨ feed.publishedAt < feedPointer.publishedAt ∨
      guidance.generatedAt < state.updatedAt)
    (.value "notification source chronology or lifecycle is invalid")
  return notificationOf trust feed entry feedPointer state occurrence guidance

/-- `NotificationV2PublicationService.publish` up to the outbox. -/
def publishNotification (incidentId : String) (verifiedAt : UtcDateTime) :
    Except SourceError NotificationV2 := do
  let notification ← build publisher trust reader incidentId verifiedAt
  trust.signed notification
  return notification

/-- The feed lists, for the incident, an occurrence of the state. -/
def FeedLists (incidentId : String) (state : IncidentState) : Prop :=
  ∀ feed ∈ reader.feedIndex.toOption, ∀ entry ∈ feedEntries feed incidentId,
    ∀ feedPointer ∈ (reader.feedPointer entry.feedPointerReference).toOption,
      ∀ listed ∈ (reader.state feedPointer.sourceStateReference).toOption, listed = state

end Build

section Facts

variable {publisher : Publisher} {trust : NotificationTrust} {reader : SourceReader}
  {incidentId : String} {verifiedAt : UtcDateTime}

theorem uniqueEntry_ok {feed : FeedIndex} {entry : FeedEntry}
    (h : uniqueEntry feed incidentId = .ok entry) : entry ∈ feedEntries feed incidentId := by
  unfold uniqueEntry at h
  split at h
  · cases h
  · rename_i only hentries
    cases h
    rw [hentries]
    exact List.mem_singleton_self _
  · cases h

theorem verifiedFeed_ok {activeIndex : ActiveIncidentIndex} {feed : FeedIndex}
    (h : verifiedFeed publisher trust reader activeIndex verifiedAt = .ok feed) :
    reader.feedIndex = .ok feed := by
  unfold verifiedFeed at h
  obtain ⟨read, hread, h⟩ := bind_eq_ok.mp h
  obtain ⟨attestation, -, h⟩ := bind_eq_ok.mp h
  obtain ⟨-, -, h⟩ := bind_eq_ok.mp h
  obtain ⟨-, -, h⟩ := bind_eq_ok.mp h
  obtain ⟨-, -, h⟩ := bind_eq_ok.mp h
  obtain ⟨-, -, h⟩ := bind_eq_ok.mp h
  cases h
  cases hfeed : reader.feedIndex with
  | error e =>
    rw [hfeed] at hread
    cases hread
  | ok found =>
    rw [hfeed] at hread
    cases hread
    rfl

theorem verifyOccurrence_ok {feedPointer : FeedPointer} {activeIndex : ActiveIncidentIndex}
    {state : IncidentState} {occurrence : IncidentOccurrenceReceipt}
    (h : verifyOccurrence publisher reader feedPointer activeIndex = .ok (state, occurrence)) :
    reader.state feedPointer.sourceStateReference = .ok state := by
  unfold verifyOccurrence at h
  obtain ⟨read, hread, h⟩ := bind_eq_ok.mp h
  obtain ⟨stateAttestation, -, h⟩ := bind_eq_ok.mp h
  obtain ⟨pointer, -, h⟩ := bind_eq_ok.mp h
  obtain ⟨pointerAttestation, -, h⟩ := bind_eq_ok.mp h
  obtain ⟨receipt, -, h⟩ := bind_eq_ok.mp h
  obtain ⟨-, -, h⟩ := bind_eq_ok.mp h
  obtain ⟨-, -, h⟩ := bind_eq_ok.mp h
  cases h
  exact hread

/-- A build is about the occurrence which the feed lists. -/
theorem build_of_feedLists {state : IncidentState} {notification : NotificationV2}
    (hlists : FeedLists reader incidentId state)
    (h : build publisher trust reader incidentId verifiedAt = .ok notification) :
    notification.incidentId = state.incidentId ∧
      notification.transitionId = state.transitionId ∧
      notification.lifecycle = state.lifecycle := by
  unfold build at h
  obtain ⟨activeIndex, -, h⟩ := bind_eq_ok.mp h
  obtain ⟨attestation, -, h⟩ := bind_eq_ok.mp h
  obtain ⟨-, -, h⟩ := bind_eq_ok.mp h
  obtain ⟨feed, hfeed, h⟩ := bind_eq_ok.mp h
  obtain ⟨entry, hentry, h⟩ := bind_eq_ok.mp h
  obtain ⟨feedPointer, hpointer, h⟩ := bind_eq_ok.mp h
  obtain ⟨feedPointerAttestation, -, h⟩ := bind_eq_ok.mp h
  obtain ⟨-, -, h⟩ := bind_eq_ok.mp h
  obtain ⟨⟨listed, occurrence⟩, hoccurrence, h⟩ := bind_eq_ok.mp h
  obtain ⟨guidance, -, h⟩ := bind_eq_ok.mp h
  obtain ⟨-, -, h⟩ := bind_eq_ok.mp h
  cases h
  have hread := verifyOccurrence_ok hoccurrence
  have hlisted : listed = state := by
    refine hlists feed ?_ entry (uniqueEntry_ok hentry) feedPointer ?_ listed ?_
    · rw [verifiedFeed_ok hfeed]
      rfl
    · rw [hpointer]
      rfl
    · rw [hread]
      rfl
  rw [← hlisted]
  exact ⟨rfl, rfl, rfl⟩

theorem publishNotification_ok {notification : NotificationV2}
    (h : publishNotification publisher trust reader incidentId verifiedAt = .ok notification) :
    build publisher trust reader incidentId verifiedAt = .ok notification := by
  unfold publishNotification at h
  obtain ⟨built, hbuilt, h⟩ := bind_eq_ok.mp h
  obtain ⟨-, -, h⟩ := bind_eq_ok.mp h
  cases h
  exact hbuilt

end Facts

end AthenaContext.NotificationSources
