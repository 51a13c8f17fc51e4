import Mathlib

/-!
# Guidance bundles in the browser

The documents of one incident in feed v2 as the browser has parsed them, and the verification
of an entry: its pointer, its v1 occurrence, its enrichment, its correlation report and its
guidance, each reached through a digest. Parsing of bytes, digests and signatures are
parameters; the comparisons between documents are those of the source. Two entries that name
the same pointer content verify to the same guidance, but for the time of the feed.
-/

namespace AthenaContext.GuidanceBundles

/-! ## Documents -/

/-- `VersionPinnedReference` -/
structure VersionPinnedReference where
  name : String
  version : String
  contentDigest : String
  deriving DecidableEq

/-- `IncidentLifecycle` -/
inductive IncidentLifecycle
  | detected
  | queued
  | reassessing
  | active
  | recoveryObserved
  | resolved
  deriving DecidableEq

/-- `ParsedFeedEntry` -/
structure FeedEntry where
  incidentId : String
  lifecycle : IncidentLifecycle
  stateResultDigest : String
  updatedAt : String
  feedPointerReference : VersionPinnedReference
  feedPointerAttestationReference : VersionPinnedReference
  deriving DecidableEq

/-- What `parseFeedIndex` returns. -/
structure FeedIndex where
  active : List FeedEntry
  recentlyResolved : List FeedEntry
  /-- An incident is in one list and once. -/
  nodup : ((active ++ recentlyResolved).map (·.incidentId)).Nodup
  sourceActiveIndexDigest : String
  indexAttestationPath : String
  keyId : String
  keyFingerprint : String
  publishedAt : String
  deriving DecidableEq

/-- The entries in the order in which they are verified. -/
def FeedIndex.entries (index : FeedIndex) : List FeedEntry := index.active ++ index.recentlyResolved

/-- `ParsedEnrichmentReference` -/
structure EnrichmentReference where
  enrichmentId : String
  manifestDigest : String
  manifestReference : VersionPinnedReference
  attestationReference : VersionPinnedReference
  deriving DecidableEq

/-- `ParsedFeedPointer` -/
structure FeedPointer where
  pointerId : String
  incidentId : String
  lifecycle : IncidentLifecycle
  stateResultDigest : String
  stateUpdatedAt : String
  occurrenceDigest : String
  sourceStateReference : VersionPinnedReference
  sourceStateAttestationReference : VersionPinnedReference
  sourcePointerReference : VersionPinnedReference
  sourcePointerAttestationReference : VersionPinnedReference
  enrichmentAsset : EnrichmentReference
  pointerDigest : String
  deriving DecidableEq

/-- What the manifest, the report asset and the statement say of the incident. -/
structure IncidentBinding where
  incidentTransitionId : String
  incidentRevision : ℕ
  incidentStateResultDigest : String
  incidentSubjectId : String
  incidentSubjectDigest : String
  incidentBoundRequestId : String
  incidentBoundRequestDigest : String
  deriving DecidableEq

/-- What the report asset and the statement say of the report. -/
structure ReportBinding where
  reportId : String
  reportDigest : String
  reportContentDigest : String
  authorityProofDigest : String
  correlationRequestDigest : String
  correlationTransitionDigest : String
  deriving DecidableEq

structure CorrelationReportAsset where
  incident : IncidentBinding
  report : ReportBinding
  publicationStatementId : String
  publicationStatementDigest : String
  reportReference : VersionPinnedReference
  attestationReference : VersionPinnedReference
  deriving DecidableEq

structure GuidanceAsset where
  guidanceId : String
  guidanceDigest : String
  guidanceReference : VersionPinnedReference
  attestationReference : VersionPinnedReference
  deriving DecidableEq

/-- `ParsedEnrichmentManifest` -/
structure EnrichmentManifest where
  enrichmentId : String
  incidentId : String
  incident : IncidentBinding
  incidentStateReference : VersionPinnedReference
  incidentStateAttestationReference : VersionPinnedReference
  correlationReportAsset : CorrelationReportAsset
  guidanceAsset : GuidanceAsset
  manifestDigest : String
  deriving DecidableEq

/-- `ParsedCorrelationReport` -/
structure CorrelationReport where
  reportId : String
  requestDigest : String
  transitionDigest : String
  reportDigest : String
  deriving DecidableEq

/-- `ParsedPublishedReportStatement` -/
structure ReportStatement where
  statementId : String
  incidentId : String
  incident : IncidentBinding
  incidentStateReference : VersionPinnedReference
  incidentStateAttestationReference : VersionPinnedReference
  report : ReportBinding
  statementDigest : String
  deriving DecidableEq

/-- `ParsedAttestation` with the identifier and the digest that `parseAttestation` returns. -/
structure Attestation where
  id : Option String
  digest : String
  signedPreimageDigest : Option String
  keyVaultKeyId : String
  detachedSignature : String
  deriving DecidableEq

/-- `IncidentGuidance['sourceBinding']` -/
structure SourceBinding where
  incidentId : String
  incidentRevision : ℕ
  incidentStateDigest : String
  incidentSubjectId : String
  incidentSubjectDigest : String
  incidentBoundRequestId : String
  incidentBoundRequestDigest : String
  correlationReportId : String
  correlationReportDigest : String
  correlationRequestDigest : String
  transitionDigest : String
  deriving DecidableEq

/-- `IncidentGuidance`; what is displayed besides is one content. -/
structure IncidentGuidance where
  guidanceId : String
  guidanceDigest : String
  sourceBinding : SourceBinding
  content : String
  deriving DecidableEq

/-- `IncidentState`; what is displayed besides is one content. -/
structure IncidentState where
  incidentId : String
  transitionId : String
  lifecycle : IncidentLifecycle
  updatedAt : String
  resultDigest : String
  content : String
  deriving DecidableEq

/-- `IncidentPointer` -/
structure IncidentPointer where
  incidentId : String
  statePath : String
  stateSha256 : String
  attestationPath : String
  attestationSha256 : String
  pointerAttestationPath : String
  keyId : String
  keyFingerprint : String
  publishedAt : String
  deriving DecidableEq

/-- `VerifiedIncident['occurrence']`; the v1 feed knows no versions. -/
structure Occurrence where
  transitionId : String
  publishedAt : String
  statePath : String
  stateVersion : Option String
  stateSha256 : String
  attestationPath : String
  attestationVersion : Option String
  attestationSha256 : String
  pointerPath : String
  pointerVersion : Option String
  pointerSha256 : String
  pointerAttestationPath : String
  pointerAttestationVersion : Option String
  pointerAttestationSha256 : String
  deriving DecidableEq

/-- `VerifiedIncident` -/
structure VerifiedIncident where
  state : IncidentState
  publishedAt : String
  keyFingerprint : String
  occurrence : Option Occurrence
  deriving DecidableEq

/-- `VerifiedIncidentFeed` -/
structure VerifiedIncidentFeed where
  incidents : List VerifiedIncident
  publishedAt : String
  sourceIndexDigest : Option String
  deriving DecidableEq

/-- A public key as it is served. -/
structure PublicKey where
  keyId : String
  fingerprint : String
  /-- The modulus and the exponent. -/
  jwk : String
  deriving DecidableEq

/-- `GuidanceTrustAnchor` without its key. -/
structure TrustAnchor where
  keyId : String
  fingerprint : String
  deriving DecidableEq

/-- `GuidanceLoadOptions['anchors']` -/
structure TrustAnchors where
  feed : TrustAnchor
  report : TrustAnchor
  enrichment : TrustAnchor
  guidance : TrustAnchor
  deriving DecidableEq

/-- `VerifiedOperatorGuidance` -/
structure VerifiedGuidance where
  incidentId : String
  lifecycle : IncidentLifecycle
  stateResultDigest : String
  feedPublishedAt : String
  enrichmentId : String
  incident : VerifiedIncident
  guidance : IncidentGuidance
  deriving DecidableEq

/-! ## Bytes -/

/-- What the browser does with bytes: digests, parsing, timestamps and signatures. -/
structure Bytes (α : Type) where
  sha256Digest : α → String
  byteLength : α → ℕ
  feedPointer : α → Option FeedPointer
  enrichmentManifest : α → Option EnrichmentManifest
  correlationReport : α → Option CorrelationReport
  reportAttestation : α → Option (ReportStatement × α × Attestation)
  guidance : α → Option IncidentGuidance
  /-- `parseAttestation` at a schema version. -/
  attestation : String → α → Option Attestation
  incidentState : α → Option IncidentState
  incidentPointer : α → Option IncidentPointer
  incidentAttestation : α → Option Attestation
  incidentPointerAttestation : α → Option Attestation
  parseDate : String → ℤ
  feedIndex : α → Option FeedIndex
  /-- `computePublicKeyFingerprint` of the imported key. -/
  keyFingerprint : String → String
  verify : String → α → String → Bool
  /-- A string after `canonicalizeJson`, which may throw. -/
  canonicalString : String → Option String
  incidentPreimage : IncidentState → α
  /-- The text of an occurrence receipt without its identity. -/
  occurrenceReceipt : IncidentState → Occurrence → α
  sha256Digest_injective : Function.Injective sha256Digest
  /-- A fingerprint is the digest of the whole key. -/
  verify_congr : ∀ a b, keyFingerprint a = keyFingerprint b → verify a = verify b

variable {α : Type} (B : Bytes α) (pinned : TrustAnchor)

/-- `verifySignature` -/
def verifySignature (payload : α) (attestation : Attestation) (anchor : TrustAnchor) (key : PublicKey) :
    Bool :=
  anchor.keyId = key.keyId && anchor.fingerprint = key.fingerprint &&
    attestation.keyVaultKeyId = anchor.keyId && B.keyFingerprint key.jwk = anchor.fingerprint &&
    B.verify key.jwk payload attestation.detachedSignature

/-! ## The v1 occurrence -/

/-- `verifySignedBytes` -/
def verifySignedBytes (payload : α) (attestation : Attestation) (keyId keyFingerprint : String)
    (key : PublicKey) : Bool :=
  keyId = pinned.keyId && key.keyId = pinned.keyId && keyFingerprint = pinned.fingerprint &&
    key.fingerprint = pinned.fingerprint && attestation.keyVaultKeyId = pinned.keyId &&
    B.sha256Digest payload = attestation.digest && B.keyFingerprint key.jwk = key.fingerprint &&
    B.verify key.jwk payload attestation.detachedSignature

/-- `./incidents/{incident}/versions/` -/
def versionsPath (incidentId : String) : String := "./incidents/" ++ incidentId ++ "/versions/"

/-- `verifyIncident` -/
def verifyIncident (pointer : IncidentPointer) (state : IncidentState) (attestation : Attestation)
    (key : PublicKey) : Bool :=
  pointer.incidentId = state.incidentId && pointer.keyId = pinned.keyId &&
    key.keyId = pinned.keyId && pointer.keyFingerprint = pinned.fingerprint &&
    key.fingerprint = pinned.fingerprint && attestation.keyVaultKeyId = pinned.keyId &&
    attestation.digest = state.resultDigest &&
    (versionsPath state.incidentId).toList.isPrefixOf pointer.statePath.toList &&
    (versionsPath state.incidentId).toList.isPrefixOf pointer.attestationPath.toList &&
    B.parseDate state.updatedAt ≤ B.parseDate pointer.publishedAt &&
    B.keyFingerprint key.jwk = key.fingerprint &&
    B.sha256Digest (B.incidentPreimage state) = state.resultDigest &&
    B.verify key.jwk (B.incidentPreimage state) attestation.detachedSignature

/-- `removeRelativePrefix` -/
def removeRelativePrefix (path : String) : String :=
  if "./".toList.isPrefixOf path.toList then String.ofList (path.toList.drop 2) else path

/-- The four assets of an occurrence. -/
structure OccurrenceAssets (α : Type) where
  state : α
  stateAttestation : α
  pointer : α
  pointerAttestation : α

/-- The incident that an occurrence's documents show. -/
def occurrenceIncident (source : FeedPointer) (pointer : IncidentPointer) (state : IncidentState) :
    VerifiedIncident where
  state := state
  publishedAt := pointer.publishedAt
  keyFingerprint := pinned.fingerprint
  occurrence := some
    { transitionId := state.transitionId
      publishedAt := pointer.publishedAt
      statePath := source.sourceStateReference.name
      stateVersion := some source.sourceStateReference.version
      stateSha256 := source.sourceStateReference.contentDigest
      attestationPath := source.sourceStateAttestationReference.name
      attestationVersion := some source.sourceStateAttestationReference.version
      attestationSha256 := source.sourceStateAttestationReference.contentDigest
      pointerPath := source.sourcePointerReference.name
      pointerVersion := some source.sourcePointerReference.version
      pointerSha256 := source.sourcePointerReference.contentDigest
      pointerAttestationPath := source.sourcePointerAttestationReference.name
      pointerAttestationVersion := some source.sourcePointerAttestationReference.version
      pointerAttestationSha256 := source.sourcePointerAttestationReference.contentDigest }

/-- `verifyIncidentOccurrenceAssets`, for an entry and the references of its pointer. The
fingerprint of the key is the pinned one. -/
def verifyIncidentOccurrenceAssets (entry : FeedEntry) (source : FeedPointer)
    (assets : OccurrenceAssets α) (key : PublicKey) : Option VerifiedIncident := do
  guard (B.sha256Digest assets.pointer = source.sourcePointerReference.contentDigest ∧
    B.sha256Digest assets.pointerAttestation =
      source.sourcePointerAttestationReference.contentDigest ∧
    B.sha256Digest assets.state = source.sourceStateReference.contentDigest ∧
    B.sha256Digest assets.stateAttestation = source.sourceStateAttestationReference.contentDigest)
  let pointer ← B.incidentPointer assets.pointer
  let pointerAttestation ← B.incidentPointerAttestation assets.pointerAttestation
  let state ← B.incidentState assets.state
  let attestation ← B.incidentAttestation assets.stateAttestation
  guard (verifySignedBytes B pinned assets.pointer pointerAttestation pointer.keyId
    pointer.keyFingerprint key = true)
  guard (verifyIncident B pinned pointer state attestation key = true)
  guard (pointer.incidentId = entry.incidentId ∧ state.incidentId = entry.incidentId ∧
    state.lifecycle = entry.lifecycle ∧ state.resultDigest = entry.stateResultDigest ∧
    state.updatedAt = entry.updatedAt ∧
    removeRelativePrefix pointer.statePath = source.sourceStateReference.name ∧
    pointer.stateSha256 = source.sourceStateReference.contentDigest ∧
    removeRelativePrefix pointer.attestationPath = source.sourceStateAttestationReference.name ∧
    pointer.attestationSha256 = source.sourceStateAttestationReference.contentDigest ∧
    removeRelativePrefix pointer.pointerAttestationPath =
      source.sourcePointerAttestationReference.name)
  pure (occurrenceIncident pinned source pointer state)


/-! ## A call and its authority -/

/-- The public keys that are served to a call. -/
structure ServedKeys where
  feed : PublicKey
  lifecycle : PublicKey
  report : PublicKey
  enrichment : PublicKey
  guidance : PublicKey
  deriving DecidableEq

/-- A call of `loadVerifiedOperatorGuidanceFeed`: its verified v1 feed, its configuration, its one
reading of the clock, and what it is served at a reference within its limits. -/
structure Call (α : Type) where
  incidentFeed : VerifiedIncidentFeed
  configured : TrustAnchors
  now : ℤ
  feedIndex : α
  feedIndexAttestation : α
  keys : ServedKeys
  served : VersionPinnedReference → ℕ → Option α

/-- `MAX_FEED_AGE_MS` -/
def maxFeedAgeMs : ℤ := 15 * 60000

/-- `MAX_CLOCK_SKEW_MS` -/
def maxClockSkewMs : ℤ := 60000

/-- The strings of an entry. -/
def FeedEntry.strings (entry : FeedEntry) : List String :=
  [entry.incidentId, entry.stateResultDigest, entry.updatedAt, entry.feedPointerReference.name,
    entry.feedPointerReference.version, entry.feedPointerReference.contentDigest,
    entry.feedPointerAttestationReference.name, entry.feedPointerAttestationReference.version,
    entry.feedPointerAttestationReference.contentDigest]

/-- What `requireCanonicalAsset` asks of the entries of an index. -/
def isCanonical (index : FeedIndex) : Bool :=
  index.entries.all fun entry => entry.strings.all fun text => B.canonicalString text = some text

/-- `verifyFeedIndex` -/
def verifyFeedIndex (call : Call α) : Option FeedIndex := do
  let sourceIndexDigest ← call.incidentFeed.sourceIndexDigest
  let index ← B.feedIndex call.feedIndex
  guard (isCanonical B index = true)
  let attestation ←
    B.attestation "athena.wc027IncidentFeedIndexAttestation.v2" call.feedIndexAttestation
  guard (index.sourceActiveIndexDigest = sourceIndexDigest ∧
    B.parseDate call.incidentFeed.publishedAt ≤ B.parseDate index.publishedAt ∧
    call.now - B.parseDate index.publishedAt ≤ maxFeedAgeMs ∧
    B.parseDate index.publishedAt - call.now ≤ maxClockSkewMs ∧
    index.keyId = call.configured.feed.keyId ∧
    index.keyFingerprint = call.configured.feed.fingerprint ∧
    attestation.digest = B.sha256Digest call.feedIndex)
  guard (verifySignature B call.feedIndex attestation call.configured.feed call.keys.feed = true)
  pure index

/-- `activeById`, in which the last incident of an identifier stays. -/
def Call.activeIncident (call : Call α) (incidentId : String) : Option VerifiedIncident :=
  call.incidentFeed.incidents.reverse.find? fun incident => incident.state.incidentId = incidentId

/-- The active set is the one of v1. -/
def Call.matchesAuthority (call : Call α) (index : FeedIndex) : Bool :=
  index.active.length = (call.incidentFeed.incidents.map (·.state.incidentId)).eraseDups.length &&
    index.active.all fun entry => (call.activeIncident entry.incidentId).isSome

/-- The index under which a call verifies its entries. -/
def loadFeedIndex (call : Call α) : Option FeedIndex := do
  let index ← verifyFeedIndex B call
  guard (call.matchesAuthority index = true)
  pure index

/-! ## The documents of an entry -/

/-- `requireSameVerifiedOccurrence` -/
def isSameVerifiedOccurrence (authoritative candidate : VerifiedIncident) : Bool :=
  match authoritative.occurrence, candidate.occurrence with
  | some expected, some actual =>
    authoritative.state.incidentId = candidate.state.incidentId &&
      authoritative.state.lifecycle = candidate.state.lifecycle &&
      authoritative.state.resultDigest = candidate.state.resultDigest &&
      authoritative.state.updatedAt = candidate.state.updatedAt &&
      expected.transitionId = actual.transitionId && expected.publishedAt = actual.publishedAt &&
      expected.statePath = actual.statePath && expected.stateSha256 = actual.stateSha256 &&
      expected.attestationPath = actual.attestationPath &&
      expected.attestationSha256 = actual.attestationSha256 &&
      expected.pointerPath = actual.pointerPath && expected.pointerSha256 = actual.pointerSha256 &&
      expected.pointerAttestationPath = actual.pointerAttestationPath &&
      expected.pointerAttestationSha256 = actual.pointerAttestationSha256
  | _, _ => false

/-- What an active incident needs of the current v1 authority, at the verification of an entry and
in `assertCachedGuidanceMatchesCurrentAuthority`. -/
def matchesCurrentAuthority (incident : VerifiedIncident) (lifecycle : IncidentLifecycle)
    (activeIncident : Option VerifiedIncident) : Bool :=
  lifecycle ≠ .active ||
    activeIncident.any fun authoritative => isSameVerifiedOccurrence authoritative incident

/-- The documents behind an entry, and the two that lead to further ones. -/
structure Chain (α : Type) where
  feedPointer : α
  feedPointerAttestation : α
  pointer : FeedPointer
  occurrence : OccurrenceAssets α
  enrichmentManifest : α
  enrichmentAttestation : α
  manifest : EnrichmentManifest
  correlationReport : α
  correlationReportAttestation : α
  guidance : α
  guidanceAttestation : α

/-- `MAX_POINTER_BYTES` -/
def maxPointerBytes : ℕ := 16 * 1024

/-- `MAX_STATE_BYTES` -/
def maxStateBytes : ℕ := 64 * 1024

/-- `MAX_MANIFEST_BYTES` -/
def maxManifestBytes : ℕ := 64 * 1024

/-- `MAX_GUIDANCE_BYTES` -/
def maxGuidanceBytes : ℕ := 64 * 1024

/-- `MAX_REPORT_BYTES` -/
def maxReportBytes : ℕ := 8 * 1024 * 1024

/-- `MAX_ATTESTATION_BYTES` -/
def maxAttestationBytes : ℕ := 16 * 1024

/-- `MAX_INCIDENT_ATTESTATION_BYTES` -/
def maxIncidentAttestationBytes : ℕ := 24 * 1024

/-- The documents that `verifyEntry` fetches, a document by the references of the one before. -/
def fetchChain (fetch : VersionPinnedReference → ℕ → Option α) (entry : FeedEntry) :
    Option (Chain α) := do
  let feedPointer ← fetch entry.feedPointerReference maxPointerBytes
  let feedPointerAttestation ← fetch entry.feedPointerAttestationReference maxAttestationBytes
  let pointer ← B.feedPointer feedPointer
  let state ← fetch pointer.sourceStateReference maxStateBytes
  let stateAttestation ←
    fetch pointer.sourceStateAttestationReference maxIncidentAttestationBytes
  let sourcePointer ← fetch pointer.sourcePointerReference maxPointerBytes
  let sourcePointerAttestation ←
    fetch pointer.sourcePointerAttestationReference maxIncidentAttestationBytes
  let enrichmentManifest ← fetch pointer.enrichmentAsset.manifestReference maxManifestBytes
  let enrichmentAttestation ←
    fetch pointer.enrichmentAsset.attestationReference maxAttestationBytes
  let manifest ← B.enrichmentManifest enrichmentManifest
  let correlationReport ← fetch manifest.correlationReportAsset.reportReference maxReportBytes
  let correlationReportAttestation ←
    fetch manifest.correlationReportAsset.attestationReference maxAttestationBytes
  let guidance ← fetch manifest.guidanceAsset.guidanceReference maxGuidanceBytes
  let guidanceAttestation ← fetch manifest.guidanceAsset.attestationReference maxAttestationBytes
  pure
    { feedPointer, feedPointerAttestation, pointer
      occurrence :=
        { state, stateAttestation
          pointer := sourcePointer
          pointerAttestation := sourcePointerAttestation }
      enrichmentManifest, enrichmentAttestation, manifest, correlationReport
      correlationReportAttestation, guidance, guidanceAttestation }


/-! ## The bundle of an entry -/

/-- The receipt of the occurrence is the one that the pointer names, `requireOccurrenceBinding`. -/
def isOccurrenceBound (pointer : FeedPointer) (incident : VerifiedIncident) : Bool :=
  match incident.occurrence with
  | none => false
  | some occurrence =>
    occurrence.stateVersion.isSome && occurrence.attestationVersion.isSome &&
      occurrence.pointerVersion.isSome && occurrence.pointerAttestationVersion.isSome &&
      occurrence.transitionId = incident.state.transitionId &&
      occurrence.publishedAt = incident.publishedAt &&
      pointer.sourceStateReference.name = occurrence.statePath &&
      some pointer.sourceStateReference.version = occurrence.stateVersion &&
      pointer.sourceStateReference.contentDigest = occurrence.stateSha256 &&
      pointer.sourceStateAttestationReference.name = occurrence.attestationPath &&
      some pointer.sourceStateAttestationReference.version = occurrence.attestationVersion &&
      pointer.sourceStateAttestationReference.contentDigest = occurrence.attestationSha256 &&
      pointer.sourcePointerReference.name = occurrence.pointerPath &&
      some pointer.sourcePointerReference.version = occurrence.pointerVersion &&
      pointer.sourcePointerReference.contentDigest = occurrence.pointerSha256 &&
      pointer.sourcePointerAttestationReference.name = occurrence.pointerAttestationPath &&
      some pointer.sourcePointerAttestationReference.version =
        occurrence.pointerAttestationVersion &&
      pointer.sourcePointerAttestationReference.contentDigest =
        occurrence.pointerAttestationSha256 &&
      pointer.occurrenceDigest = B.sha256Digest (B.occurrenceReceipt incident.state occurrence)

/-- `name.replace(/[/]manifest[.]json$/, replacement)` -/
def replaceManifestName (name replacement : String) : String :=
  let suffix := "/manifest.json".toList
  if suffix.isSuffixOf name.toList then
    String.ofList (name.toList.take (name.toList.length - suffix.length)) ++ replacement
  else name

/-- The pointer against its entry of the signed index. -/
def verifyPointer (anchors : TrustAnchors) (keys : ServedKeys) (entry : FeedEntry) (chain : Chain α) :
    Bool :=
  match B.attestation "athena.wc027IncidentEnrichmentFeedPointerAttestation.v2"
      chain.feedPointerAttestation with
  | none => false
  | some attestation =>
    let pointer := chain.pointer
    entry.feedPointerReference.contentDigest = B.sha256Digest chain.feedPointer &&
      entry.feedPointerAttestationReference.contentDigest =
        B.sha256Digest chain.feedPointerAttestation &&
      attestation.id = some pointer.pointerId && attestation.digest = pointer.pointerDigest &&
      attestation.signedPreimageDigest = some (B.sha256Digest chain.feedPointer) &&
      pointer.incidentId = entry.incidentId && pointer.lifecycle = entry.lifecycle &&
      pointer.stateResultDigest = entry.stateResultDigest &&
      pointer.stateUpdatedAt = entry.updatedAt &&
      entry.feedPointerReference.name =
        replaceManifestName pointer.enrichmentAsset.manifestReference.name "/feed-pointer.json" &&
      entry.feedPointerAttestationReference.name =
        replaceManifestName pointer.enrichmentAsset.manifestReference.name
          "/feed-pointer-attestation.json" &&
      verifySignature B chain.feedPointer attestation anchors.feed keys.feed

/-- The enrichment against the pointer. -/
def verifyEnrichment (anchors : TrustAnchors) (keys : ServedKeys) (chain : Chain α) : Bool :=
  match B.attestation "athena.wc027IncidentEnrichmentAttestation.v1" chain.enrichmentAttestation with
  | none => false
  | some attestation =>
    let pointer := chain.pointer
    let manifest := chain.manifest
    let bytesDigest := B.sha256Digest chain.enrichmentManifest
    pointer.enrichmentAsset.manifestReference.contentDigest = bytesDigest &&
      pointer.enrichmentAsset.attestationReference.contentDigest =
        B.sha256Digest chain.enrichmentAttestation &&
      attestation.id = some manifest.enrichmentId && attestation.digest = manifest.manifestDigest &&
      attestation.signedPreimageDigest = some bytesDigest &&
      manifest.enrichmentId = pointer.enrichmentAsset.enrichmentId &&
      manifest.manifestDigest = pointer.enrichmentAsset.manifestDigest &&
      manifest.incidentId = pointer.incidentId &&
      manifest.incident.incidentStateResultDigest = pointer.stateResultDigest &&
      verifySignature B chain.enrichmentManifest attestation anchors.enrichment keys.enrichment

/-- The report against the enrichment; its statement. -/
def verifyReport (anchors : TrustAnchors) (keys : ServedKeys) (chain : Chain α) :
    Option ReportStatement := do
  let report ← B.correlationReport chain.correlationReport
  let (statement, statementBytes, attestation) ←
    B.reportAttestation chain.correlationReportAttestation
  let asset := chain.manifest.correlationReportAsset
  let contentDigest := B.sha256Digest chain.correlationReport
  guard (asset.reportReference.contentDigest = contentDigest ∧
    asset.attestationReference.contentDigest = B.sha256Digest chain.correlationReportAttestation ∧
    attestation.signedPreimageDigest = some (B.sha256Digest statementBytes) ∧
    report.reportId = asset.report.reportId ∧ report.reportDigest = asset.report.reportDigest ∧
    contentDigest = asset.report.reportContentDigest ∧
    report.requestDigest = asset.report.correlationRequestDigest ∧
    report.transitionDigest = asset.report.correlationTransitionDigest ∧
    statement.statementId = asset.publicationStatementId ∧
    statement.statementDigest = asset.publicationStatementDigest)
  guard (verifySignature B statementBytes attestation anchors.report keys.report = true)
  pure statement

/-- The source binding of guidance names an incident and a report. -/
def SourceBinding.names (binding : SourceBinding) (incidentId : String) (incident : IncidentBinding)
    (report : ReportBinding) : Bool :=
  binding.incidentId = incidentId && binding.incidentRevision = incident.incidentRevision &&
    binding.incidentStateDigest = incident.incidentStateResultDigest &&
    binding.incidentSubjectId = incident.incidentSubjectId &&
    binding.incidentSubjectDigest = incident.incidentSubjectDigest &&
    binding.incidentBoundRequestId = incident.incidentBoundRequestId &&
    binding.incidentBoundRequestDigest = incident.incidentBoundRequestDigest &&
    binding.correlationReportId = report.reportId &&
    binding.correlationReportDigest = report.reportDigest &&
    binding.correlationRequestDigest = report.correlationRequestDigest &&
    binding.transitionDigest = report.correlationTransitionDigest

/-- `assertGuidanceMatchesVerifiedOccurrence` -/
def isGuidanceOfOccurrence (guidance : IncidentGuidance) (manifest : EnrichmentManifest)
    (statement : ReportStatement) (incident : VerifiedIncident) : Bool :=
  match incident.occurrence with
  | none => false
  | some occurrence =>
    occurrence.stateVersion.isSome && occurrence.attestationVersion.isSome &&
      manifest.incidentId = incident.state.incidentId &&
      manifest.incident.incidentTransitionId = incident.state.transitionId &&
      manifest.incident.incidentStateResultDigest = incident.state.resultDigest &&
      statement.incidentId = incident.state.incidentId &&
      statement.incident.incidentTransitionId = incident.state.transitionId &&
      statement.incident.incidentStateResultDigest = incident.state.resultDigest &&
      manifest.incidentStateReference.name = occurrence.statePath &&
      some manifest.incidentStateReference.version = occurrence.stateVersion &&
      manifest.incidentStateReference.contentDigest = occurrence.stateSha256 &&
      manifest.incidentStateAttestationReference.name = occurrence.attestationPath &&
      some manifest.incidentStateAttestationReference.version = occurrence.attestationVersion &&
      manifest.incidentStateAttestationReference.contentDigest = occurrence.attestationSha256 &&
      statement.incidentStateReference = manifest.incidentStateReference &&
      statement.incidentStateAttestationReference = manifest.incidentStateAttestationReference &&
      statement.incident = manifest.incident &&
      statement.incident = manifest.correlationReportAsset.incident &&
      statement.report = manifest.correlationReportAsset.report &&
      guidance.sourceBinding.names statement.incidentId statement.incident statement.report

/-- The guidance against the enrichment and the statement. -/
def verifyGuidance (anchors : TrustAnchors) (keys : ServedKeys) (chain : Chain α)
    (statement : ReportStatement) (incident : VerifiedIncident) : Option IncidentGuidance := do
  let guidance ← B.guidance chain.guidance
  let attestation ←
    B.attestation "athena.wc027IncidentGuidanceAttestation.v1" chain.guidanceAttestation
  let manifest := chain.manifest
  let pointer := chain.pointer
  guard (isGuidanceOfOccurrence guidance manifest statement incident = true)
  guard (manifest.guidanceAsset.guidanceReference.contentDigest = B.sha256Digest chain.guidance ∧
    manifest.guidanceAsset.attestationReference.contentDigest =
      B.sha256Digest chain.guidanceAttestation ∧
    attestation.id = some guidance.guidanceId ∧ attestation.digest = guidance.guidanceDigest ∧
    attestation.signedPreimageDigest = some (B.sha256Digest chain.guidance) ∧
    manifest.guidanceAsset.guidanceId = guidance.guidanceId ∧
    manifest.guidanceAsset.guidanceDigest = guidance.guidanceDigest ∧
    guidance.sourceBinding.names manifest.incidentId manifest.incident
      manifest.correlationReportAsset.report = true ∧
    manifest.incidentStateReference = pointer.sourceStateReference ∧
    manifest.incidentStateAttestationReference = pointer.sourceStateAttestationReference)
  guard (verifySignature B chain.guidance attestation anchors.guidance keys.guidance = true)
  pure guidance

/-- The part of `verifyIncidentGuidanceBundle` that follows the index. -/
def verifyDocuments (anchors : TrustAnchors) (keys : ServedKeys) (entry : FeedEntry)
    (chain : Chain α) (incident : VerifiedIncident) : Option IncidentGuidance := do
  guard (entry.lifecycle = incident.state.lifecycle ∧
    entry.stateResultDigest = incident.state.resultDigest ∧
    entry.updatedAt = incident.state.updatedAt)
  guard (verifyPointer B anchors keys entry chain = true)
  guard (isOccurrenceBound B chain.pointer incident = true)
  guard (verifyEnrichment B anchors keys chain = true)
  let statement ← verifyReport B anchors keys chain
  verifyGuidance B anchors keys chain statement incident

/-- What is displayed of verified documents. -/
def Chain.verified (chain : Chain α) (publishedAt : String) (incident : VerifiedIncident)
    (guidance : IncidentGuidance) : VerifiedGuidance where
  incidentId := chain.pointer.incidentId
  lifecycle := chain.pointer.lifecycle
  stateResultDigest := chain.pointer.stateResultDigest
  feedPublishedAt := publishedAt
  enrichmentId := chain.manifest.enrichmentId
  incident := incident
  guidance := guidance

/-- `verifyIncidentGuidanceBundle` -/
def verifyIncidentGuidanceBundle (call : Call α) (chain : Chain α) (incident : VerifiedIncident) :
    Option VerifiedGuidance := do
  guard (incident.occurrence.isSome = true)
  let index ← verifyFeedIndex B call
  let entry ← index.entries.find? fun candidate => candidate.incidentId = incident.state.incidentId
  let guidance ← verifyDocuments B call.configured call.keys entry chain incident
  pure (chain.verified index.publishedAt incident guidance)

/-- The body of `verifyEntry`, with what it gets for the references. -/
def verifyEntry (call : Call α) (fetch : VersionPinnedReference → ℕ → Option α) (entry : FeedEntry) :
    Option VerifiedGuidance := do
  let chain ← fetchChain B fetch entry
  let incident ← verifyIncidentOccurrenceAssets B pinned entry chain.pointer chain.occurrence
    call.keys.lifecycle
  guard (matchesCurrentAuthority incident entry.lifecycle
    (call.activeIncident entry.incidentId) = true)
  verifyIncidentGuidanceBundle B call chain incident


/-! ## Equal documents -/

/-- Fetched bytes have the digest of their reference. -/
def FetchesPinned (fetch : VersionPinnedReference → ℕ → Option α) : Prop :=
  ∀ reference maximum asset, fetch reference maximum = some asset →
    B.sha256Digest asset = reference.contentDigest

variable {B pinned} {call other : Call α} {entry : FeedEntry}
variable {fetch fetch' : VersionPinnedReference → ℕ → Option α}

theorem FetchesPinned.same (hf : FetchesPinned B fetch) (hg : FetchesPinned B fetch')
    {reference : VersionPinnedReference} {maximum : ℕ} {a b : α}
    (ha : fetch reference maximum = some a) (hb : fetch' reference maximum = some b) : a = b :=
  B.sha256Digest_injective ((hf _ _ _ ha).trans (hg _ _ _ hb).symm)

/-- Two computations with equal first values and equal rests have equal values. -/
theorem same_of_bind {β γ : Type} {x y : Option β} {f g : β → Option γ} {c d : γ}
    (hc : (x >>= f) = some c) (hd : (y >>= g) = some d)
    (hsame : ∀ {a b : β}, x = some a → y = some b → a = b)
    (hrest : ∀ {a : β}, f a = some c → g a = some d → c = d) : c = d := by
  obtain ⟨a, ha, hc⟩ := Option.bind_eq_some_iff.mp hc
  obtain ⟨b, hb, hd⟩ := Option.bind_eq_some_iff.mp hd
  cases hsame ha hb
  exact hrest hc hd

/-- An entry has one chain of documents. -/
theorem fetchChain_unique (hf : FetchesPinned B fetch) (hg : FetchesPinned B fetch')
    {chain chain' : Chain α} (hc : fetchChain B fetch entry = some chain)
    (hc' : fetchChain B fetch' entry = some chain') : chain = chain' := by
  have hfetch : ∀ {reference : VersionPinnedReference} {maximum : ℕ} {a b : α},
      fetch reference maximum = some a → fetch' reference maximum = some b → a = b := hf.same hg
  have hparse : ∀ {β : Type} {x : Option β} {a b : β}, x = some a → x = some b → a = b :=
    fun ha hb => Option.some.inj (ha.symm.trans hb)
  -- the pointer and its attestation, by the references of the entry
  refine same_of_bind hc hc' hfetch fun hc hc' => ?_
  refine same_of_bind hc hc' hfetch fun hc hc' => ?_
  refine same_of_bind hc hc' hparse fun hc hc' => ?_
  -- the occurrence and the enrichment, by the references of the pointer
  refine same_of_bind hc hc' hfetch fun hc hc' => ?_
  refine same_of_bind hc hc' hfetch fun hc hc' => ?_
  refine same_of_bind hc hc' hfetch fun hc hc' => ?_
  refine same_of_bind hc hc' hfetch fun hc hc' => ?_
  refine same_of_bind hc hc' hfetch fun hc hc' => ?_
  refine same_of_bind hc hc' hfetch fun hc hc' => ?_
  refine same_of_bind hc hc' hparse fun hc hc' => ?_
  -- the report and the guidance, by the references of the manifest
  refine same_of_bind hc hc' hfetch fun hc hc' => ?_
  refine same_of_bind hc hc' hfetch fun hc hc' => ?_
  refine same_of_bind hc hc' hfetch fun hc hc' => ?_
  refine same_of_bind hc hc' hfetch fun hc hc' => ?_
  exact hparse hc hc'

/-! ## Served keys -/

/-- A served key is the pinned one. -/
structure IsPinned (B : Bytes α) (anchor : TrustAnchor) (key : PublicKey) : Prop where
  keyId : key.keyId = anchor.keyId
  fingerprint : key.fingerprint = anchor.fingerprint
  jwk : B.keyFingerprint key.jwk = anchor.fingerprint

/-- All keys that are served are the pinned ones. -/
structure KeysPinned (B : Bytes α) (pinned : TrustAnchor) (anchors : TrustAnchors)
    (keys : ServedKeys) : Prop where
  feed : IsPinned B anchors.feed keys.feed
  lifecycle : IsPinned B pinned keys.lifecycle
  report : IsPinned B anchors.report keys.report
  enrichment : IsPinned B anchors.enrichment keys.enrichment
  guidance : IsPinned B anchors.guidance keys.guidance

theorem IsPinned.verify_eq {anchor : TrustAnchor} {a b : PublicKey} (ha : IsPinned B anchor a)
    (hb : IsPinned B anchor b) : B.verify a.jwk = B.verify b.jwk :=
  B.verify_congr _ _ (ha.jwk.trans hb.jwk.symm)

theorem isPinned_of_verifySignature {payload : α} {attestation : Attestation}
    {anchor : TrustAnchor} {key : PublicKey}
    (h : verifySignature B payload attestation anchor key = true) : IsPinned B anchor key := by
  simp only [verifySignature, Bool.and_eq_true, decide_eq_true_eq] at h
  exact ⟨h.1.1.1.1.symm, h.1.1.1.2.symm, h.1.2⟩

theorem verifySignature_congr {anchor : TrustAnchor} {a b : PublicKey} (ha : IsPinned B anchor a)
    (hb : IsPinned B anchor b) (payload : α) (attestation : Attestation) :
    verifySignature B payload attestation anchor a =
      verifySignature B payload attestation anchor b := by
  simp only [verifySignature, ha.keyId, ha.fingerprint, ha.jwk, hb.keyId, hb.fingerprint, hb.jwk,
    ha.verify_eq hb]

theorem verifySignedBytes_congr {a b : PublicKey} (ha : IsPinned B pinned a)
    (hb : IsPinned B pinned b) (payload : α) (attestation : Attestation) (keyId fingerprint : String) :
    verifySignedBytes B pinned payload attestation keyId fingerprint a =
      verifySignedBytes B pinned payload attestation keyId fingerprint b := by
  simp only [verifySignedBytes, ha.keyId, ha.fingerprint, ha.jwk, hb.keyId, hb.fingerprint, hb.jwk,
    ha.verify_eq hb]

theorem verifyIncident_congr {a b : PublicKey} (ha : IsPinned B pinned a)
    (hb : IsPinned B pinned b) (pointer : IncidentPointer) (state : IncidentState)
    (attestation : Attestation) :
    verifyIncident B pinned pointer state attestation a =
      verifyIncident B pinned pointer state attestation b := by
  simp only [verifyIncident, ha.keyId, ha.fingerprint, ha.jwk, hb.keyId, hb.fingerprint, hb.jwk,
    ha.verify_eq hb]

theorem verifyIncidentOccurrenceAssets_congr {a b : PublicKey} (ha : IsPinned B pinned a)
    (hb : IsPinned B pinned b) (source : FeedPointer) (assets : OccurrenceAssets α) :
    verifyIncidentOccurrenceAssets B pinned entry source assets a =
      verifyIncidentOccurrenceAssets B pinned entry source assets b := by
  simp only [verifyIncidentOccurrenceAssets, verifySignedBytes_congr ha hb,
    verifyIncident_congr ha hb]

section Documents

variable {anchors : TrustAnchors} {a b : ServedKeys} (chain : Chain α)

theorem verifyPointer_congr (ha : IsPinned B anchors.feed a.feed)
    (hb : IsPinned B anchors.feed b.feed) :
    verifyPointer B anchors a entry chain = verifyPointer B anchors b entry chain := by
  unfold verifyPointer
  split
  · rfl
  · rw [verifySignature_congr ha hb]

theorem verifyEnrichment_congr (ha : IsPinned B anchors.enrichment a.enrichment)
    (hb : IsPinned B anchors.enrichment b.enrichment) :
    verifyEnrichment B anchors a chain = verifyEnrichment B anchors b chain := by
  unfold verifyEnrichment
  split
  · rfl
  · rw [verifySignature_congr ha hb]

theorem verifyDocuments_congr (ha : KeysPinned B pinned anchors a)
    (hb : KeysPinned B pinned anchors b) (incident : VerifiedIncident) :
    verifyDocuments B anchors a entry chain incident =
      verifyDocuments B anchors b entry chain incident := by
  have hpointer : verifyPointer B anchors a entry chain = verifyPointer B anchors b entry chain :=
    verifyPointer_congr chain ha.feed hb.feed
  have henrichment : verifyEnrichment B anchors a chain = verifyEnrichment B anchors b chain :=
    verifyEnrichment_congr chain ha.enrichment hb.enrichment
  have hreport : verifyReport B anchors a chain = verifyReport B anchors b chain := by
    simp only [verifyReport, verifySignature_congr ha.report hb.report]
  have hguidance : verifyGuidance B anchors a chain = verifyGuidance B anchors b chain := by
    funext statement incident
    simp only [verifyGuidance, verifySignature_congr ha.guidance hb.guidance]
  rw [verifyDocuments, verifyDocuments, hpointer, henrichment, hreport, hguidance]

end Documents


/-! ## Equal verifications -/

/-- The steps of a verification of an entry. -/
structure EntryVerification (B : Bytes α) (pinned : TrustAnchor) (call : Call α)
    (fetch : VersionPinnedReference → ℕ → Option α) (entry : FeedEntry) (chain : Chain α)
    (incident : VerifiedIncident) (guidance : IncidentGuidance) : Prop where
  fetched : fetchChain B fetch entry = some chain
  occurrence : verifyIncidentOccurrenceAssets B pinned entry chain.pointer chain.occurrence
    call.keys.lifecycle = some incident
  authority : matchesCurrentAuthority incident entry.lifecycle
    (call.activeIncident entry.incidentId) = true
  documents : verifyDocuments B call.configured call.keys entry chain incident = some guidance

/-- The incident of an occurrence is the one of its entry, under the pinned key. -/
theorem incident_of_occurrence {source : FeedPointer} {assets : OccurrenceAssets α}
    {key : PublicKey} {incident : VerifiedIncident}
    (h : verifyIncidentOccurrenceAssets B pinned entry source assets key = some incident) :
    incident.state.incidentId = entry.incidentId ∧ incident.state.lifecycle = entry.lifecycle ∧
      incident.state.resultDigest = entry.stateResultDigest ∧
      incident.state.updatedAt = entry.updatedAt ∧ incident.occurrence.isSome = true ∧
      IsPinned B pinned key := by
  obtain ⟨_, _, h⟩ := Option.bind_eq_some_iff.mp h
  obtain ⟨pointer, _, h⟩ := Option.bind_eq_some_iff.mp h
  obtain ⟨pointerAttestation, _, h⟩ := Option.bind_eq_some_iff.mp h
  obtain ⟨state, _, h⟩ := Option.bind_eq_some_iff.mp h
  obtain ⟨attestation, _, h⟩ := Option.bind_eq_some_iff.mp h
  obtain ⟨_, hsigned, h⟩ := Option.bind_eq_some_iff.mp h
  obtain ⟨_, _, h⟩ := Option.bind_eq_some_iff.mp h
  obtain ⟨_, hentry, h⟩ := Option.bind_eq_some_iff.mp h
  rw [Option.guard_eq_some'] at hsigned hentry
  cases h
  obtain ⟨_, hincident, hlifecycle, hdigest, hupdated, _⟩ := hentry
  simp only [verifySignedBytes, Bool.and_eq_true, decide_eq_true_eq] at hsigned
  obtain ⟨⟨⟨⟨⟨⟨⟨_, hkeyId⟩, _⟩, hfingerprint⟩, _⟩, _⟩, hjwk⟩, _⟩ := hsigned
  exact ⟨hincident, hlifecycle, hdigest, hupdated, rfl, hkeyId, hfingerprint,
    hjwk.trans hfingerprint⟩


/-- Documents verify under the pinned keys only. -/
theorem pinned_of_verifyDocuments {anchors : TrustAnchors} {keys : ServedKeys} {chain : Chain α}
    {incident : VerifiedIncident} {guidance : IncidentGuidance}
    (h : verifyDocuments B anchors keys entry chain incident = some guidance) :
    IsPinned B anchors.feed keys.feed ∧ IsPinned B anchors.report keys.report ∧
      IsPinned B anchors.enrichment keys.enrichment ∧ IsPinned B anchors.guidance keys.guidance := by
  obtain ⟨_, _, h⟩ := Option.bind_eq_some_iff.mp h
  obtain ⟨_, hpointer, h⟩ := Option.bind_eq_some_iff.mp h
  obtain ⟨_, _, h⟩ := Option.bind_eq_some_iff.mp h
  obtain ⟨_, henrichment, h⟩ := Option.bind_eq_some_iff.mp h
  obtain ⟨statement, hreport, h⟩ := Option.bind_eq_some_iff.mp h
  rw [Option.guard_eq_some'] at hpointer henrichment
  have hfeed : IsPinned B anchors.feed keys.feed := by
    unfold verifyPointer at hpointer
    split at hpointer
    · cases hpointer
    · exact isPinned_of_verifySignature (Bool.and_eq_true_iff.mp hpointer).2
  have henriched : IsPinned B anchors.enrichment keys.enrichment := by
    unfold verifyEnrichment at henrichment
    split at henrichment
    · cases henrichment
    · exact isPinned_of_verifySignature (Bool.and_eq_true_iff.mp henrichment).2
  have hreported : IsPinned B anchors.report keys.report := by
    obtain ⟨_, _, hreport⟩ := Option.bind_eq_some_iff.mp hreport
    obtain ⟨_, _, hreport⟩ := Option.bind_eq_some_iff.mp hreport
    obtain ⟨_, _, hreport⟩ := Option.bind_eq_some_iff.mp hreport
    obtain ⟨_, hsigned, _⟩ := Option.bind_eq_some_iff.mp hreport
    exact isPinned_of_verifySignature (Option.guard_eq_some' _ |>.mp hsigned)
  obtain ⟨_, _, h⟩ := Option.bind_eq_some_iff.mp h
  obtain ⟨_, _, h⟩ := Option.bind_eq_some_iff.mp h
  obtain ⟨_, _, h⟩ := Option.bind_eq_some_iff.mp h
  obtain ⟨_, _, h⟩ := Option.bind_eq_some_iff.mp h
  obtain ⟨_, hsigned, _⟩ := Option.bind_eq_some_iff.mp h
  exact ⟨hfeed, hreported, henriched,
    isPinned_of_verifySignature (Option.guard_eq_some' _ |>.mp hsigned)⟩

/-- In an index an entry is found by its incident. -/
theorem find_entry {index : FeedIndex} (h : entry ∈ index.entries) :
    index.entries.find? (fun candidate => candidate.incidentId = entry.incidentId) = some entry := by
  have hnodup := index.nodup
  change (index.entries.map (·.incidentId)).Nodup at hnodup
  generalize index.entries = entries at h hnodup
  induction entries with
  | nil => cases h
  | cons head tail ih =>
    rw [List.map_cons, List.nodup_cons] at hnodup
    obtain rfl | hmem := List.mem_cons.mp h
    · simp
    · have hne : head.incidentId ≠ entry.incidentId := fun heq =>
        hnodup.1 (heq ▸ List.mem_map_of_mem hmem)
      rw [List.find?_cons_of_neg (by simpa using hne)]
      exact ih hmem hnodup.2

/-- A verification of an entry of the index, step by step. -/
theorem verifyEntry_eq_some {index : FeedIndex} (hindex : verifyFeedIndex B call = some index)
    (hentry : entry ∈ index.entries) {verified : VerifiedGuidance} :
    verifyEntry B pinned call fetch entry = some verified ↔ ∃ chain incident guidance,
      EntryVerification B pinned call fetch entry chain incident guidance ∧
        verified = chain.verified index.publishedAt incident guidance := by
  constructor
  · intro h
    obtain ⟨chain, hchain, h⟩ := Option.bind_eq_some_iff.mp h
    obtain ⟨incident, hincident, h⟩ := Option.bind_eq_some_iff.mp h
    obtain ⟨_, hauthority, h⟩ := Option.bind_eq_some_iff.mp h
    obtain ⟨_, _, h⟩ := Option.bind_eq_some_iff.mp h
    obtain ⟨_, hindex', h⟩ := Option.bind_eq_some_iff.mp h
    cases Option.some.inj (hindex.symm.trans hindex')
    obtain ⟨bound, hbound, h⟩ := Option.bind_eq_some_iff.mp h
    rw [(incident_of_occurrence hincident).1, find_entry hentry] at hbound
    cases hbound
    obtain ⟨guidance, hguidance, h⟩ := Option.bind_eq_some_iff.mp h
    rw [Option.guard_eq_some'] at hauthority
    cases h
    exact ⟨chain, incident, guidance, ⟨hchain, hincident, hauthority, hguidance⟩, rfl⟩
  · rintro ⟨chain, incident, guidance, h, rfl⟩
    have hincident := incident_of_occurrence h.occurrence
    rw [verifyEntry, Option.bind_eq_bind, h.fetched, Option.bind_some, h.occurrence]
    simp only [verifyIncidentGuidanceBundle, h.authority, hincident.2.2.2.2.1, hindex, hincident.1,
      find_entry hentry, h.documents, guard, if_true, Option.bind_eq_bind, Option.bind_some,
      Option.pure_def]


theorem EntryVerification.keysPinned {chain : Chain α} {incident : VerifiedIncident}
    {guidance : IncidentGuidance}
    (h : EntryVerification B pinned call fetch entry chain incident guidance) :
    KeysPinned B pinned call.configured call.keys := by
  obtain ⟨hfeed, hreport, henrichment, hguidance⟩ := pinned_of_verifyDocuments h.documents
  have hincident := incident_of_occurrence h.occurrence
  exact ⟨hfeed, hincident.2.2.2.2.2, hreport, henrichment, hguidance⟩

/-- Guidance is of the occurrence that its entry names, and for an active incident of the one that
v1 shows to the call. -/
structure IsOfOccurrence (call : Call α) (entry : FeedEntry) (verified : VerifiedGuidance) :
    Prop where
  incidentId : verified.incidentId = entry.incidentId
  lifecycle : verified.lifecycle = entry.lifecycle
  stateResultDigest : verified.stateResultDigest = entry.stateResultDigest
  stateIncidentId : verified.incident.state.incidentId = entry.incidentId
  stateLifecycle : verified.incident.state.lifecycle = entry.lifecycle
  resultDigest : verified.incident.state.resultDigest = entry.stateResultDigest
  updatedAt : verified.incident.state.updatedAt = entry.updatedAt
  authority : matchesCurrentAuthority verified.incident entry.lifecycle
    (call.activeIncident entry.incidentId) = true

theorem isOfOccurrence_of_verifyEntry {index : FeedIndex} {verified : VerifiedGuidance}
    (hindex : verifyFeedIndex B call = some index) (hentry : entry ∈ index.entries)
    (h : verifyEntry B pinned call fetch entry = some verified) :
    IsOfOccurrence call entry verified := by
  obtain ⟨chain, incident, guidance, hv, rfl⟩ := (verifyEntry_eq_some hindex hentry).mp h
  obtain ⟨hincident, hlifecycle, hdigest, hupdated, _⟩ := incident_of_occurrence hv.occurrence
  have hpointer : verifyPointer B call.configured call.keys entry chain = true := by
    obtain ⟨_, _, h⟩ := Option.bind_eq_some_iff.mp hv.documents
    obtain ⟨_, hpointer, _⟩ := Option.bind_eq_some_iff.mp h
    exact Option.guard_eq_some' _ |>.mp hpointer
  unfold verifyPointer at hpointer
  split at hpointer
  · cases hpointer
  · simp only [Bool.and_eq_true, decide_eq_true_eq] at hpointer
    obtain ⟨⟨⟨⟨⟨⟨⟨_, hpointerId⟩, hpointerLifecycle⟩, hpointerDigest⟩, _⟩, _⟩, _⟩, _⟩ := hpointer
    exact ⟨hpointerId, hpointerLifecycle, hpointerDigest, hincident, hlifecycle, hdigest, hupdated,
      hv.authority⟩

/-- What one call verified, another verifies from its own documents, keys and authority; only the
time of the feed is its own. -/
theorem verifyEntry_of_verified {index index' : FeedIndex} {verified : VerifiedGuidance}
    (hindex : verifyFeedIndex B call = some index) (hentry : entry ∈ index.entries)
    (h : verifyEntry B pinned call fetch entry = some verified) (hf : FetchesPinned B fetch)
    (hindex' : verifyFeedIndex B other = some index') (hentry' : entry ∈ index'.entries)
    (hg : FetchesPinned B fetch') (hserved : (fetchChain B fetch' entry).isSome = true)
    (hkeys : KeysPinned B pinned other.configured other.keys)
    (hconfigured : other.configured = call.configured)
    (hauthority : matchesCurrentAuthority verified.incident entry.lifecycle
      (other.activeIncident entry.incidentId) = true) :
    verifyEntry B pinned other fetch' entry =
      some { verified with feedPublishedAt := index'.publishedAt } := by
  obtain ⟨chain, incident, guidance, hv, rfl⟩ := (verifyEntry_eq_some hindex hentry).mp h
  obtain ⟨chain', hchain'⟩ := Option.isSome_iff_exists.mp hserved
  cases fetchChain_unique hf hg hv.fetched hchain'
  have hpinned : KeysPinned B pinned call.configured call.keys := hv.keysPinned
  refine (verifyEntry_eq_some hindex' hentry').mpr ⟨chain, incident, guidance, ?_, rfl⟩
  rw [hconfigured] at hkeys
  constructor
  · exact hchain'
  · rw [verifyIncidentOccurrenceAssets_congr hkeys.lifecycle hpinned.lifecycle]
    exact hv.occurrence
  · exact hauthority
  · rw [hconfigured, verifyDocuments_congr chain hkeys hpinned]
    exact hv.documents

end AthenaContext.GuidanceBundles
