import AthenaContext.SignedArtifacts

/-!
# Artifacts of the second feed

Enrichment asset references, feed pointers, feed entries and feed indexes, with the digests
that bind them. The digest of an index is computed from its datetimes, not from their dumps.
-/

namespace AthenaContext.FeedArtifacts

open JsonText TimestampText TextNormalization InstantTexts
open ContractDocuments ContractForms ContractPatterns SignedArtifacts

variable {R : DateTimeRuntime} {N : NfcTables}

/-- Lifecycles that a feed lists. -/
inductive FeedLifecycle
  | active | resolved
  deriving DecidableEq, Repr

def FeedLifecycle.text : FeedLifecycle → String
  | .active => "active"
  | .resolved => "resolved"

def feedLifecycleField : Form R N FeedLifecycle :=
  Form.choice (fun l => l.text.toList) [.active, .resolved]
    (fun l => by cases l <;> decide) (fun l => by cases l <;> decide)

/-! ## Enrichment asset references -/

/-- What the digest of an enrichment asset reference is computed from. -/
structure EnrichmentAsset where
  incidentId : Text
  incidentStateResultDigest : Text
  enrichmentId : Text
  manifestDigest : Text
  manifestReference : VersionPinnedBlobReference
  attestationReference : VersionPinnedBlobReference
  deriving DecidableEq

/-- `IncidentEnrichmentAssetReference` -/
structure IncidentEnrichmentAssetReference where
  asset : EnrichmentAsset
  referenceId : Text
  referenceDigest : Text
  deriving DecidableEq

def enrichmentAssetFields : Fields R N EnrichmentAsset :=
  (Fields.field "schemaVersion"
      (Form.constant "athena.wc027IncidentEnrichmentAssetReference.v1".toList (by decide))).both
    ((Fields.field "incidentId" incidentIdField).both
    ((Fields.field "incidentStateResultDigest" digestField).both
    ((Fields.field "enrichmentId" (shortIdField "incident-enrichment-" (by decide))).both
    ((Fields.field "manifestDigest" digestField).both
    ((Fields.field "manifestReference" referenceForm).both
    (Fields.field "attestationReference" referenceForm))))))
    |>.map (fun a : EnrichmentAsset => ((), a.incidentId, a.incidentStateResultDigest,
        a.enrichmentId, a.manifestDigest, a.manifestReference, a.attestationReference))
      (fun (_, incidentId, incidentStateResultDigest, enrichmentId, manifestDigest,
          manifestReference, attestationReference) =>
        ⟨incidentId, incidentStateResultDigest, enrichmentId, manifestDigest, manifestReference,
          attestationReference⟩) (fun _ => rfl)

def assetReferenceRecord : Form R N IncidentEnrichmentAssetReference :=
  (enrichmentAssetFields.both
      ((Fields.field "referenceId" (shortIdField "enrichment-asset-" (by decide))).both
      (Fields.field "referenceDigest" digestField))
    |>.map (fun r : IncidentEnrichmentAssetReference => (r.asset, r.referenceId, r.referenceDigest))
      (fun p => ⟨p.1, p.2.1, p.2.2⟩) (fun _ => rfl)).record
    (by dsimp only [enrichmentAssetFields, Fields.map, Fields.both, Fields.field]; decide)

section

variable (R N) (H : Sha256)

/-- `IncidentEnrichmentAssetReference.validate_reference` -/
def validateReference (r : IncidentEnrichmentAssetReference) : Bool :=
  let a := r.asset
  let front := occurrencePrefix a.incidentId a.incidentStateResultDigest ++ "/enrichments/".toList ++
    a.enrichmentId
  let expected := artifactDigest R N H (.object ((enrichmentAssetFields (R := R) (N := N)).write a))
  a.manifestReference.name = front ++ "/manifest.json".toList &&
    a.attestationReference.name = front ++ "/attestation.json".toList &&
    expected = some r.referenceDigest &&
    r.referenceId = "enrichment-asset-".toList ++ shortDigest r.referenceDigest &&
    fitsBytes R N assetReferenceRecord (16 * 1024) r

def assetReferenceForm : Form R N IncidentEnrichmentAssetReference :=
  assetReferenceRecord.refine (validateReference R N H)

end

/-! ## Feed pointers -/

/-- What the digest of a feed pointer is computed from. -/
structure EnrichmentFeedPointer where
  incidentId : Text
  lifecycle : FeedLifecycle
  stateResultDigest : Text
  stateUpdatedAt : Instant
  occurrenceDigest : Text
  sourceStateReference : VersionPinnedBlobReference
  sourceStateAttestationReference : VersionPinnedBlobReference
  sourcePointerReference : VersionPinnedBlobReference
  sourcePointerAttestationReference : VersionPinnedBlobReference
  enrichmentAsset : IncidentEnrichmentAssetReference
  publishedAt : Instant
  deriving DecidableEq

/-- `IncidentEnrichmentFeedPointer` -/
structure IncidentEnrichmentFeedPointer where
  pointer : EnrichmentFeedPointer
  pointerId : Text
  pointerDigest : Text
  deriving DecidableEq

section

variable (R N) (H : Sha256)

def feedPointerFields : Fields R N EnrichmentFeedPointer :=
  (Fields.field "schemaVersion"
      (Form.constant "athena.wc027IncidentEnrichmentFeedPointer.v2".toList (by decide))).both
    ((Fields.field "incidentId" incidentIdField).both
    ((Fields.field "lifecycle" feedLifecycleField).both
    ((Fields.field "stateResultDigest" digestField).both
    ((Fields.field "stateUpdatedAt" Form.instant).both
    ((Fields.field "occurrenceDigest" digestField).both
    ((Fields.field "sourceStateReference" referenceForm).both
    ((Fields.field "sourceStateAttestationReference" referenceForm).both
    ((Fields.field "sourcePointerReference" referenceForm).both
    ((Fields.field "sourcePointerAttestationReference" referenceForm).both
    ((Fields.field "enrichmentAsset" (assetReferenceForm R N H)).both
    ((Fields.field "publishedAt" Form.instant).both
    (Fields.field "noAutoRemediation" Form.alwaysTrue))))))))))))
    |>.map (fun p : EnrichmentFeedPointer => ((), p.incidentId, p.lifecycle, p.stateResultDigest,
        p.stateUpdatedAt, p.occurrenceDigest, p.sourceStateReference,
        p.sourceStateAttestationReference, p.sourcePointerReference,
        p.sourcePointerAttestationReference, p.enrichmentAsset, p.publishedAt, ()))
      (fun (_, incidentId, lifecycle, stateResultDigest, stateUpdatedAt, occurrenceDigest,
          sourceStateReference, sourceStateAttestationReference, sourcePointerReference,
          sourcePointerAttestationReference, enrichmentAsset, publishedAt, _) =>
        ⟨incidentId, lifecycle, stateResultDigest, stateUpdatedAt, occurrenceDigest,
          sourceStateReference, sourceStateAttestationReference, sourcePointerReference,
          sourcePointerAttestationReference, enrichmentAsset, publishedAt⟩) (fun _ => rfl)

def feedPointerRecord : Form R N IncidentEnrichmentFeedPointer :=
  ((feedPointerFields R N H).both
      ((Fields.field "pointerId" (shortIdField "incident-feed-v2-pointer-" (by decide))).both
      (Fields.field "pointerDigest" digestField))
    |>.map (fun r : IncidentEnrichmentFeedPointer => (r.pointer, r.pointerId, r.pointerDigest))
      (fun p => ⟨p.1, p.2.1, p.2.2⟩) (fun _ => rfl)).record
    (by dsimp only [feedPointerFields, Fields.map, Fields.both, Fields.field]; decide)

/-- `IncidentEnrichmentFeedPointer.validate_pointer` -/
def validatePointer (r : IncidentEnrichmentFeedPointer) : Bool :=
  let p := r.pointer
  let expected := artifactDigest R N H (.object ((feedPointerFields R N H).write p))
  bindsOccurrence p.incidentId p.stateResultDigest p.sourceStateReference
      p.sourceStateAttestationReference p.sourcePointerReference p.sourcePointerAttestationReference &&
    p.enrichmentAsset.asset.incidentId = p.incidentId &&
    p.enrichmentAsset.asset.incidentStateResultDigest = p.stateResultDigest &&
    expected = some r.pointerDigest &&
    r.pointerId = "incident-feed-v2-pointer-".toList ++ shortDigest r.pointerDigest &&
    fitsBytes R N (feedPointerRecord R N H) (16 * 1024) r

def feedPointerForm : Form R N IncidentEnrichmentFeedPointer :=
  (feedPointerRecord R N H).refine (validatePointer R N H)

end

/-! ## Feed entries -/

/-- `IncidentFeedEntryV2` -/
structure IncidentFeedEntryV2 where
  incidentId : Text
  lifecycle : FeedLifecycle
  stateResultDigest : Text
  updatedAt : Instant
  feedPointerReference : VersionPinnedBlobReference
  feedPointerAttestationReference : VersionPinnedBlobReference
  deriving DecidableEq

/-- The first part of a list of parts, and the rest behind a front. -/
def stripFront (front t : Text) : Option Text :=
  if front.isPrefixOf t then some (t.drop front.length) else none

/-- `IncidentFeedEntryV2.validate_paths` -/
def validatePaths (e : IncidentFeedEntryV2) : Bool :=
  let front := occurrencePrefix e.incidentId e.stateResultDigest ++ "/enrichments/".toList
  let name := e.feedPointerReference.name
  let back := "/feed-pointer.json".toList
  (stripFront front name).any
      (fullMatch [.literal "incident-enrichment-", .hex 32, .literal "/feed-pointer.json"]) &&
    e.feedPointerAttestationReference.name =
      name.take (name.length - back.length) ++ "/feed-pointer-attestation.json".toList &&
    e.feedPointerReference.version.length ≤ 64 &&
    e.feedPointerAttestationReference.version.length ≤ 64

def entryForm : Form R N IncidentFeedEntryV2 :=
  ((Fields.field "incidentId" incidentIdField).both
    ((Fields.field "lifecycle" feedLifecycleField).both
    ((Fields.field "stateResultDigest" digestField).both
    ((Fields.field "updatedAt" Form.instant).both
    ((Fields.field "feedPointerReference" referenceForm).both
    (Fields.field "feedPointerAttestationReference" referenceForm)))))
    |>.map (fun e : IncidentFeedEntryV2 => (e.incidentId, e.lifecycle, e.stateResultDigest,
        e.updatedAt, e.feedPointerReference, e.feedPointerAttestationReference))
      (fun (incidentId, lifecycle, stateResultDigest, updatedAt, feedPointerReference,
          feedPointerAttestationReference) =>
        ⟨incidentId, lifecycle, stateResultDigest, updatedAt, feedPointerReference,
          feedPointerAttestationReference⟩) (fun _ => rfl)).record
    (by dsimp only [Fields.map, Fields.both, Fields.field]; decide)
    |>.refine validatePaths

/-! ## Feed indexes -/

/-- `IncidentFeedIndexV2` -/
structure IncidentFeedIndexV2 where
  active : List IncidentFeedEntryV2
  recentlyResolved : List IncidentFeedEntryV2
  resolvedRetentionStart : Instant
  resolvedHistoryTruncated : Bool
  resolvedHistoryTotalCount : ℕ
  omittedResolvedCount : Option ℕ
  sourceActiveIndexDigest : Text
  indexAttestationPath : Text
  keyId : Text
  keyFingerprint : Text
  publishedAt : Instant
  deriving DecidableEq

/-- `IncidentFeedIndexV2.index_attestation_path` -/
def isFeedAttestationPath : Text → Bool :=
  fullMatch [.literal "./incidents/feed-v2-index-attestations/", .hex 64, .literal ".json"]

theorem isPlainText_of_isFeedAttestationPath (t : Text) (h : isFeedAttestationPath t = true) :
    IsPlainText t :=
  isPlainText_of_fullMatch (by decide) (by decide) h

/-- `validate_active` -/
def validateActive (entries : List IncidentFeedEntryV2) : Bool :=
  entries.all (fun e => e.lifecycle = .active) && areUniquelySorted (entries.map (·.incidentId))

/-- Two neighbours of the resolved entries: the later one first, then by identifier and digest. -/
def precedes (previous current : IncidentFeedEntryV2) : Bool :=
  previous.updatedAt.milliseconds > current.updatedAt.milliseconds ||
    previous.updatedAt = current.updatedAt &&
      (codePointKey previous.incidentId < codePointKey current.incidentId ||
        previous.incidentId = current.incidentId &&
          codePointKey previous.stateResultDigest < codePointKey current.stateResultDigest)

/-- `validate_resolved` -/
def validateResolved (entries : List IncidentFeedEntryV2) : Bool :=
  entries.all (fun e => e.lifecycle = .resolved) &&
    (entries.zip entries.tail).all (fun pair => precedes pair.1 pair.2) &&
    (entries.map (·.incidentId)).Nodup

/-- `min(item.updated_at for item in entries)` in milliseconds. -/
def earliest (entries : List IncidentFeedEntryV2) : Option ℕ :=
  (entries.map fun e => e.updatedAt.milliseconds).min?

/-- The lifecycle and retention check of `validate_index`. -/
def validateLifecycles (i : IncidentFeedIndexV2) : Bool :=
  let start := i.resolvedRetentionStart.milliseconds
  let published := i.publishedAt.milliseconds
  i.active.all (fun e => e.incidentId ∉ i.recentlyResolved.map (·.incidentId)) &&
    start ≤ published &&
    i.recentlyResolved.all (fun e =>
      start ≤ e.updatedAt.milliseconds && e.updatedAt.milliseconds ≤ published) &&
    i.active.all (fun e => e.updatedAt.milliseconds ≤ published) &&
    i.resolvedHistoryTruncated = i.omittedResolvedCount.isSome &&
    i.resolvedHistoryTotalCount = i.recentlyResolved.length + i.omittedResolvedCount.getD 0 &&
    i.resolvedHistoryTruncated = decide (i.recentlyResolved.length < i.resolvedHistoryTotalCount) &&
    (!i.resolvedHistoryTruncated || earliest i.recentlyResolved = some start)

/-- `MAX_INCIDENT_FEED_V2_BYTES` -/
def maxFeedBytes : ℕ := 128 * 1024

section

variable (R N) (H : Sha256)

def indexRecord : Form R N IncidentFeedIndexV2 :=
  ((Fields.field "schemaVersion" (Form.constant "athena.wc027IncidentFeedIndex.v2".toList (by decide))).both
    ((Fields.field "active" ((entryForm.list 0 64).refine validateActive)).both
    ((Fields.field "recentlyResolved" ((entryForm.list 0 64).refine validateResolved)).both
    ((Fields.field "resolvedRetentionStart" Form.instant).both
    ((Fields.field "resolvedHistoryTruncated" Form.flag).both
    ((Fields.field "resolvedHistoryTotalCount" (Form.natural fun _ => true)).both
    ((Fields.optionalField "omittedResolvedCount" (Form.natural fun n => 1 ≤ n) (Form.natural_after _)).both
    ((Fields.field "sourceActiveIndexDigest" digestField).both
    ((Fields.field "indexAttestationPath"
      (pattern isFeedAttestationPath isPlainText_of_isFeedAttestationPath)).both
    ((Fields.field "keyId" keyIdField).both
    ((Fields.field "keyFingerprint" digestField).both
    (Fields.field "publishedAt" Form.instant)))))))))))
    |>.map (fun i : IncidentFeedIndexV2 => ((), i.active, i.recentlyResolved,
        i.resolvedRetentionStart, i.resolvedHistoryTruncated, i.resolvedHistoryTotalCount,
        i.omittedResolvedCount, i.sourceActiveIndexDigest, i.indexAttestationPath, i.keyId,
        i.keyFingerprint, i.publishedAt))
      (fun (_, active, recentlyResolved, resolvedRetentionStart, resolvedHistoryTruncated,
          resolvedHistoryTotalCount, omittedResolvedCount, sourceActiveIndexDigest,
          indexAttestationPath, keyId, keyFingerprint, publishedAt) =>
        ⟨active, recentlyResolved, resolvedRetentionStart, resolvedHistoryTruncated,
          resolvedHistoryTotalCount, omittedResolvedCount, sourceActiveIndexDigest,
          indexAttestationPath, keyId, keyFingerprint, publishedAt⟩) (fun _ => rfl)).record
    (by dsimp only [Fields.map, Fields.both, Fields.field, Fields.optionalField]; decide)

/-- The count of `_index_version_digest`, which leaves out what has no value. -/
def omittedMember : Option ℕ → List (Text × Json)
  | none => []
  | some n => [("omittedResolvedCount".toList, .number n)]

/-- The payload of `_index_version_digest`: dumped entries beside plain datetimes. -/
def versionMembers (i : IncidentFeedIndexV2) : List (Text × Json) :=
  [("active".toList, .array (i.active.map (entryForm (R := R) (N := N)).write)),
    ("recentlyResolved".toList, .array (i.recentlyResolved.map (entryForm (R := R) (N := N)).write)),
    ("resolvedRetentionStart".toList, .string (datetimeText R i.resolvedRetentionStart)),
    ("resolvedHistoryTruncated".toList, .boolean i.resolvedHistoryTruncated),
    ("resolvedHistoryTotalCount".toList, .number i.resolvedHistoryTotalCount)] ++
  omittedMember i.omittedResolvedCount ++
  [("sourceActiveIndexDigest".toList, .string i.sourceActiveIndexDigest),
    ("keyId".toList, .string i.keyId), ("keyFingerprint".toList, .string i.keyFingerprint),
    ("publishedAt".toList, .string (datetimeText R i.publishedAt))]

theorem areFieldNames_versionMembers (i : IncidentFeedIndexV2) :
    AreFieldNames ((versionMembers R N i).map Prod.fst) := by
  rw [versionMembers]
  cases i.omittedResolvedCount with
  | none =>
    simp only [omittedMember, List.map_append, List.map_cons, List.map_nil]
    decide
  | some n =>
    simp only [omittedMember, List.map_append, List.map_cons, List.map_nil]
    decide

/-- `_index_version_digest` -/
def indexVersionDigest (i : IncidentFeedIndexV2) : Option Text :=
  artifactDigest R N H (.object (versionMembers R N i))

/-- The attestation path of a version digest. -/
def attestationPathOf (digest : Text) : Text :=
  "./incidents/feed-v2-index-attestations/".toList ++ removeSha256 digest ++ ".json".toList

/-- `IncidentFeedIndexV2.validate_index` -/
def validateIndex (i : IncidentFeedIndexV2) : Bool :=
  validateLifecycles i && fitsBytes R N (indexRecord R N) maxFeedBytes i &&
    (indexVersionDigest R N H i).any fun digest => i.indexAttestationPath = attestationPathOf digest

def feedIndexForm : Form R N IncidentFeedIndexV2 := (indexRecord R N).refine (validateIndex R N H)

end

end AthenaContext.FeedArtifacts
