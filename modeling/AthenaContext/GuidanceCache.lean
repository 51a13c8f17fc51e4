import AthenaContext.Dictionaries
import AthenaContext.GuidanceBundles
import AthenaContext.TransitionSystems
import Mathlib

/-!
# The guidance cache of the browser

Calls that load the guidance feed over one shared cache. An entry is cached as a promise under a
key of its strings, the trust anchors and the active v1 occurrence; assets are cached by their
references. Calls overlap in any way, promises fail and forget their key, and both caches evict
their oldest entries.

A resolved feed is the one that the call would load alone as long as a cached promise is used
under an index of the same publication time and anchors, and the call is itself served what the
entry needs. The key does not cover the publication time of the index: a later refresh shows the
guidance with the time of an earlier feed.
-/

namespace AthenaContext.GuidanceCache

open GuidanceBundles Dictionaries TransitionSystems

variable {α : Type} (B : Bytes α) (pinned : TrustAnchor)

/-! ## Keys -/

/-- The key of an asset: its reference and its bound. -/
abbrev AssetKey := VersionPinnedReference × ℕ

def lifecycleText : IncidentLifecycle → String
  | .detected => "detected"
  | .queued => "queued"
  | .reassessing => "reassessing"
  | .active => "active"
  | .recoveryObserved => "recoveryObserved"
  | .resolved => "resolved"

/-- `activeAuthority` of a key; `none` is written as `null`. -/
def activeAuthority (activeIncident : Option VerifiedIncident) : List (Option String) :=
  match activeIncident with
  | none => [none]
  | some incident =>
    match incident.occurrence with
    | none => [none]
    | some occurrence =>
      [some incident.state.resultDigest, some incident.state.updatedAt,
        some occurrence.transitionId, some occurrence.publishedAt, occurrence.stateVersion,
        occurrence.attestationVersion, occurrence.pointerVersion,
        occurrence.pointerAttestationVersion, some occurrence.pointerSha256]

/-- The strings of the anchors. -/
def anchorStrings (anchors : TrustAnchors) : List String :=
  [anchors.feed.keyId, anchors.feed.fingerprint, anchors.report.keyId, anchors.report.fingerprint,
    anchors.enrichment.keyId, anchors.enrichment.fingerprint, anchors.guidance.keyId,
    anchors.guidance.fingerprint]

/-- The values of a key, which `canonicalizeJson` writes as one text. -/
structure CacheKey where
  lifecycle : IncidentLifecycle
  entry : List String
  anchors : List String
  activeAuthority : List (Option String)
  deriving DecidableEq

/-- A value of a key after `canonicalizeJson`. -/
def canonicalValue : Option String → Option (Option String)
  | none => some none
  | some text => (B.canonicalString text).map some

/-- `guidanceEntryCacheKey`; the names of lifecycles are canonical. -/
def guidanceEntryCacheKey (entry : FeedEntry) (anchors : TrustAnchors)
    (activeIncident : Option VerifiedIncident) : Option CacheKey := do
  let entryStrings ← entry.strings.mapM B.canonicalString
  let anchorStrings ← (anchorStrings anchors).mapM B.canonicalString
  let authority ← (activeAuthority activeIncident).mapM (canonicalValue B)
  pure ⟨entry.lifecycle, entryStrings, anchorStrings, authority⟩

/-! ## Caches -/

/-- `MAX_CACHED_GUIDANCE_ASSETS` -/
def maxCachedGuidanceAssets : ℕ := 2048

/-- `MAX_CACHED_GUIDANCE_ASSET_BYTES` -/
def maxCachedGuidanceAssetBytes : ℕ := 64 * 1024 * 1024

/-- `MAX_CACHED_GUIDANCE_ENTRIES` -/
def maxCachedGuidanceEntries : ℕ := 256

/-- `rememberCached` -/
def rememberCached {κ β : Type} [DecidableEq κ] (cache : List (κ × β)) (key : κ) (value : β)
    (maximumEntries : ℕ) : List (κ × β) :=
  if (lookup key cache).isNone && maximumEntries ≤ cache.length then assign key value cache.tail
  else assign key value cache

/-- The loop that makes room for an asset; its counter may be larger than the sum of the cached
lengths, as two fetches of one key count twice. -/
def evictAssets (incoming : ℕ) : List (AssetKey × α) → ℤ → List (AssetKey × α) × ℤ
  | [], assetBytes => ([], assetBytes)
  | oldest :: rest, assetBytes =>
    if maxCachedGuidanceAssets ≤ rest.length + 1 ∨
        (maxCachedGuidanceAssetBytes : ℤ) < assetBytes + incoming then
      evictAssets incoming rest (assetBytes - B.byteLength oldest.2)
    else (oldest :: rest, assetBytes)

/-- An asset is remembered unless it is larger than the cache. -/
def rememberAsset (assets : List (AssetKey × α)) (assetBytes : ℤ) (key : AssetKey) (asset : α) :
    List (AssetKey × α) × ℤ :=
  let evicted := evictAssets B (B.byteLength asset) assets assetBytes
  if B.byteLength asset ≤ maxCachedGuidanceAssetBytes then
    (assign key asset evicted.1, evicted.2 + B.byteLength asset)
  else evicted

/-! ## States -/

/-- What a promise verifies: an entry of the index of the call that made it. -/
structure Origin (α : Type) where
  call : Call α
  index : FeedIndex
  entry : FeedEntry
  key : CacheKey

inductive Outcome
  | pending
  | resolved (verified : VerifiedGuidance)
  | rejected
  deriving DecidableEq

/-- A promise of `verifyEntry` and the assets it has got so far. -/
structure Promise (α : Type) where
  origin : Origin α
  obtained : List (AssetKey × α)
  outcome : Outcome

/-- An entry of a call: its promise, which is its own or a cached one. -/
structure Slot where
  promise : ℕ
  fromCache : Bool
  deriving DecidableEq

/-- `VerifiedOperatorGuidanceFeed` -/
structure VerifiedFeed where
  publishedAt : String
  active : List VerifiedGuidance
  recentlyResolved : List VerifiedGuidance
  deriving DecidableEq

/-- A call in progress; the slots are those of the first entries. -/
structure Refresh (α : Type) where
  call : Call α
  index : FeedIndex
  slots : List Slot
  outcome : Option VerifiedFeed

/-- `GuidanceLoadCache` with the promises and the calls. -/
structure State (α : Type) where
  assets : List (AssetKey × α)
  assetBytes : ℤ
  entries : List (CacheKey × ℕ)
  promises : List (Promise α)
  refreshes : List (Refresh α)

/-- No call was made. -/
def State.empty : State α := ⟨[], 0, [], [], []⟩

/-- The assets of a promise by their references. -/
def fetchObtained (obtained : List (AssetKey × α)) (reference : VersionPinnedReference)
    (maximum : ℕ) : Option α :=
  lookup (reference, maximum) obtained

/-- What a call is served at a reference, with its digest checked. -/
def fetchServed (call : Call α) (reference : VersionPinnedReference) (maximum : ℕ) : Option α :=
  (call.served reference maximum).filter fun asset =>
    B.sha256Digest asset = reference.contentDigest

/-- The references that the documents so far lead to. -/
def wanted (fetch : VersionPinnedReference → ℕ → Option α) (entry : FeedEntry) : List AssetKey :=
  let entryReferences := [(entry.feedPointerReference, maxPointerBytes),
    (entry.feedPointerAttestationReference, maxAttestationBytes)]
  match (fetch entry.feedPointerReference maxPointerBytes).bind B.feedPointer with
  | none => entryReferences
  | some pointer =>
    let pointerReferences := [(pointer.sourceStateReference, maxStateBytes),
      (pointer.sourceStateAttestationReference, maxIncidentAttestationBytes),
      (pointer.sourcePointerReference, maxPointerBytes),
      (pointer.sourcePointerAttestationReference, maxIncidentAttestationBytes),
      (pointer.enrichmentAsset.manifestReference, maxManifestBytes),
      (pointer.enrichmentAsset.attestationReference, maxAttestationBytes)]
    match (fetch pointer.enrichmentAsset.manifestReference maxManifestBytes).bind
        B.enrichmentManifest with
    | none => entryReferences ++ pointerReferences
    | some manifest => entryReferences ++ pointerReferences ++
        [(manifest.correlationReportAsset.reportReference, maxReportBytes),
          (manifest.correlationReportAsset.attestationReference, maxAttestationBytes),
          (manifest.guidanceAsset.guidanceReference, maxGuidanceBytes),
          (manifest.guidanceAsset.attestationReference, maxAttestationBytes)]

/-! ## Steps -/

inductive Event (α : Type)
  /-- A call has verified its index. -/
  | start (call : Call α)
  /-- A call takes its next entry: the cached promise, or a new one. -/
  | take (refresh : ℕ)
  /-- A promise finds an asset in the cache. -/
  | readAsset (promise : ℕ) (key : AssetKey)
  /-- A promise did not find an asset and was served it. -/
  | fetchAsset (promise : ℕ) (key : AssetKey)
  /-- A promise has verified its entry. -/
  | settle (promise : ℕ)
  /-- A promise is rejected: a fetch or a check has failed. -/
  | fail (promise : ℕ)
  /-- The handler of a rejected promise forgets its key. -/
  | forget (promise : ℕ)
  /-- A call has all its entries. -/
  | finish (refresh : ℕ)

/-- The promise may get the asset of a key. -/
def Promise.wants (promise : Promise α) (key : AssetKey) : Bool :=
  promise.outcome = .pending &&
    (wanted B (fetchObtained promise.obtained) promise.origin.entry).contains key

/-- The promise with one more asset. -/
def Promise.obtain (promise : Promise α) (key : AssetKey) (asset : α) : Promise α :=
  { promise with obtained := promise.obtained ++ [(key, asset)] }

/-- The value of a slot, after the check that a cached value has to pass. -/
def slotValue (s : State α) (call : Call α) (slot : Slot) (entry : FeedEntry) :
    Option VerifiedGuidance := do
  let promise ← s.promises[slot.promise]?
  match promise.outcome with
  | .resolved verified =>
    if slot.fromCache && !matchesCurrentAuthority verified.incident verified.lifecycle
        (call.activeIncident entry.incidentId) then none
    else some verified
  | _ => none

/-- The feed of verified entries. -/
def verifiedFeed (index : FeedIndex) (verified : List VerifiedGuidance) : VerifiedFeed where
  publishedAt := index.publishedAt
  active := verified.take index.active.length
  recentlyResolved := verified.drop index.active.length

/-- The next entry of a call. -/
def Refresh.next? (refresh : Refresh α) : Option FeedEntry :=
  refresh.index.entries[refresh.slots.length]?

def Refresh.addSlot (refresh : Refresh α) (slot : Slot) : Refresh α :=
  { refresh with slots := refresh.slots ++ [slot] }

/-- What the promise verifies that a call takes for an entry. -/
def takenOrigin (s : State α) (refresh : Refresh α) (entry : FeedEntry) : Option (Origin α) := do
  let key ← guidanceEntryCacheKey B entry refresh.call.configured
    (refresh.call.activeIncident entry.incidentId)
  match lookup key s.entries with
  | some promise => s.promises[promise]?.map Promise.origin
  | none => some ⟨refresh.call, refresh.index, entry, key⟩

/-- `verifyEntry` up to its first wait. -/
def take (s : State α) (r : ℕ) : Option (State α) := do
  let refresh ← s.refreshes[r]?
  let entry ← refresh.next?
  let key ← guidanceEntryCacheKey B entry refresh.call.configured
    (refresh.call.activeIncident entry.incidentId)
  match lookup key s.entries with
  | some promise =>
    pure { s with refreshes := s.refreshes.set r (refresh.addSlot ⟨promise, true⟩) }
  | none =>
    pure
      { s with
        entries := rememberCached s.entries key s.promises.length maxCachedGuidanceEntries
        promises := s.promises ++ [⟨⟨refresh.call, refresh.index, entry, key⟩, [], .pending⟩]
        refreshes := s.refreshes.set r (refresh.addSlot ⟨s.promises.length, false⟩) }

def step (s : State α) : Event α → Option (State α)
  | .start call => do
    let index ← loadFeedIndex B call
    pure { s with refreshes := s.refreshes ++ [⟨call, index, [], none⟩] }
  | .take r => take B s r
  | .readAsset p key => do
    let promise ← s.promises[p]?
    let asset ← lookup key s.assets
    if promise.wants B key then
      pure { s with promises := s.promises.set p (promise.obtain key asset) }
    else none
  | .fetchAsset p key => do
    let promise ← s.promises[p]?
    let asset ← fetchServed B promise.origin.call key.1 key.2
    if promise.wants B key then
      let (assets, assetBytes) := rememberAsset B s.assets s.assetBytes key asset
      pure { s with assets, assetBytes, promises := s.promises.set p (promise.obtain key asset) }
    else none
  | .settle p => do
    let promise ← s.promises[p]?
    let verified ← verifyEntry B pinned promise.origin.call (fetchObtained promise.obtained)
      promise.origin.entry
    if promise.outcome = .pending then
      pure { s with promises := s.promises.set p { promise with outcome := .resolved verified } }
    else none
  | .fail p => do
    let promise ← s.promises[p]?
    if promise.outcome = .pending then
      pure { s with promises := s.promises.set p { promise with outcome := .rejected } }
    else none
  | .forget p => do
    let promise ← s.promises[p]?
    if promise.outcome = .rejected then
      pure { s with entries := erase promise.origin.key s.entries }
    else none
  | .finish r => do
    let refresh ← s.refreshes[r]?
    if refresh.slots.length = refresh.index.entries.length then
      let verified ← (refresh.slots.zip refresh.index.entries).mapM fun (slot, entry) =>
        slotValue s refresh.call slot entry
      pure
        { s with
          refreshes := s.refreshes.set r
            { refresh with outcome := some (verifiedFeed refresh.index verified) } }
    else none

/-- Calls over one cache. -/
def system : TransitionSystem (State α) (Event α) := ofStep State.empty (step B pinned)

/-- The feed that a call loads over an empty cache. -/
def freshFeed (call : Call α) : Option VerifiedFeed := do
  let index ← loadFeedIndex B call
  let verified ← index.entries.mapM fun entry => verifyEntry B pinned call (fetchServed B call) entry
  pure (verifiedFeed index verified)


/-! ## What a step does -/

variable {B pinned} {s t : State α} {event : Event α} {call : Call α}

/-- The steps with what they have read. -/
inductive Move (B : Bytes α) (pinned : TrustAnchor) (s : State α) : Event α → State α → Prop
  | start {call index} (hindex : loadFeedIndex B call = some index) :
    Move B pinned s (.start call) { s with refreshes := s.refreshes ++ [⟨call, index, [], none⟩] }
  | hit {r refresh entry key p} (hrefresh : s.refreshes[r]? = some refresh)
      (hentry : refresh.next? = some entry)
      (hkey : guidanceEntryCacheKey B entry refresh.call.configured
        (refresh.call.activeIncident entry.incidentId) = some key)
      (hcached : lookup key s.entries = some p) :
    Move B pinned s (.take r) { s with refreshes := s.refreshes.set r (refresh.addSlot ⟨p, true⟩) }
  | miss {r refresh entry key} (hrefresh : s.refreshes[r]? = some refresh)
      (hentry : refresh.next? = some entry)
      (hkey : guidanceEntryCacheKey B entry refresh.call.configured
        (refresh.call.activeIncident entry.incidentId) = some key)
      (hnew : lookup key s.entries = none) :
    Move B pinned s (.take r)
      { s with
        entries := rememberCached s.entries key s.promises.length maxCachedGuidanceEntries
        promises := s.promises ++ [⟨⟨refresh.call, refresh.index, entry, key⟩, [], .pending⟩]
        refreshes := s.refreshes.set r (refresh.addSlot ⟨s.promises.length, false⟩) }
  | readAsset {p promise key asset} (hpromise : s.promises[p]? = some promise)
      (hasset : lookup key s.assets = some asset) (hwants : promise.wants B key = true) :
    Move B pinned s (.readAsset p key)
      { s with promises := s.promises.set p (promise.obtain key asset) }
  | fetchAsset {p promise key asset} (hpromise : s.promises[p]? = some promise)
      (hasset : fetchServed B promise.origin.call key.1 key.2 = some asset)
      (hwants : promise.wants B key = true) :
    Move B pinned s (.fetchAsset p key)
      { s with
        assets := (rememberAsset B s.assets s.assetBytes key asset).1
        assetBytes := (rememberAsset B s.assets s.assetBytes key asset).2
        promises := s.promises.set p (promise.obtain key asset) }
  | settle {p promise verified} (hpromise : s.promises[p]? = some promise)
      (hverified : verifyEntry B pinned promise.origin.call (fetchObtained promise.obtained)
        promise.origin.entry = some verified) :
    Move B pinned s (.settle p)
      { s with promises := s.promises.set p { promise with outcome := .resolved verified } }
  | fail {p promise} (hpromise : s.promises[p]? = some promise) :
    Move B pinned s (.fail p)
      { s with promises := s.promises.set p { promise with outcome := .rejected } }
  | forget {p promise} (hpromise : s.promises[p]? = some promise) :
    Move B pinned s (.forget p) { s with entries := erase promise.origin.key s.entries }
  | finish {r refresh verified} (hrefresh : s.refreshes[r]? = some refresh)
      (hlength : refresh.slots.length = refresh.index.entries.length)
      (hverified : (refresh.slots.zip refresh.index.entries).mapM (fun slot =>
        slotValue s refresh.call slot.1 slot.2) = some verified) :
    Move B pinned s (.finish r)
      { s with
        refreshes := s.refreshes.set r
          { refresh with outcome := some (verifiedFeed refresh.index verified) } }

theorem move_of_step (h : step B pinned s event = some t) : Move B pinned s event t := by
  cases event with
  | start call =>
    obtain ⟨index, hindex, h⟩ := Option.bind_eq_some_iff.mp h
    cases h
    exact .start hindex
  | take r =>
    obtain ⟨refresh, hrefresh, h⟩ := Option.bind_eq_some_iff.mp h
    obtain ⟨entry, hentry, h⟩ := Option.bind_eq_some_iff.mp h
    obtain ⟨key, hkey, h⟩ := Option.bind_eq_some_iff.mp h
    split at h
    · next hcached =>
      cases h
      exact .hit hrefresh hentry hkey hcached
    · next hnew =>
      cases h
      exact .miss hrefresh hentry hkey hnew
  | readAsset p key =>
    obtain ⟨promise, hpromise, h⟩ := Option.bind_eq_some_iff.mp h
    obtain ⟨asset, hasset, h⟩ := Option.bind_eq_some_iff.mp h
    split at h
    · next hwants =>
      cases h
      exact .readAsset hpromise hasset hwants
    · cases h
  | fetchAsset p key =>
    obtain ⟨promise, hpromise, h⟩ := Option.bind_eq_some_iff.mp h
    obtain ⟨asset, hasset, h⟩ := Option.bind_eq_some_iff.mp h
    split at h
    · next hwants =>
      cases h
      exact .fetchAsset hpromise hasset hwants
    · cases h
  | settle p =>
    obtain ⟨promise, hpromise, h⟩ := Option.bind_eq_some_iff.mp h
    obtain ⟨verified, hverified, h⟩ := Option.bind_eq_some_iff.mp h
    split at h
    · cases h
      exact .settle hpromise hverified
    · cases h
  | fail p =>
    obtain ⟨promise, hpromise, h⟩ := Option.bind_eq_some_iff.mp h
    split at h
    · cases h
      exact .fail hpromise
    · cases h
  | forget p =>
    obtain ⟨promise, hpromise, h⟩ := Option.bind_eq_some_iff.mp h
    split at h
    · cases h
      exact .forget hpromise
    · cases h
  | finish r =>
    obtain ⟨refresh, hrefresh, h⟩ := Option.bind_eq_some_iff.mp h
    split at h
    · next hlength =>
      obtain ⟨verified, hverified, h⟩ := Option.bind_eq_some_iff.mp h
      cases h
      exact .finish hrefresh hlength hverified
    · cases h

/-! ## Keys and entries -/

/-- Canonical strings are the strings of their key. -/
theorem mapM_canonicalString {strings : List String}
    (h : ∀ text ∈ strings, B.canonicalString text = some text) :
    strings.mapM B.canonicalString = some strings := by
  induction strings with
  | nil => rfl
  | cons text rest ih =>
    rw [List.mapM_cons, h text List.mem_cons_self,
      ih fun other hmem => h other (List.mem_cons_of_mem _ hmem)]
    rfl

/-- The strings and the lifecycle are the whole entry. -/
theorem entry_of_strings {a b : FeedEntry} (hstrings : a.strings = b.strings)
    (hlifecycle : a.lifecycle = b.lifecycle) : a = b := by
  obtain ⟨_, _, _, _, ⟨_, _, _⟩, ⟨_, _, _⟩⟩ := a
  obtain ⟨_, _, _, _, ⟨_, _, _⟩, ⟨_, _, _⟩⟩ := b
  cases hlifecycle
  cases hstrings
  rfl

/-- The entries of a loaded index are canonical. -/
theorem canonical_of_loadFeedIndex {index : FeedIndex} (h : loadFeedIndex B call = some index)
    {entry : FeedEntry} (hentry : entry ∈ index.entries) :
    ∀ text ∈ entry.strings, B.canonicalString text = some text := by
  obtain ⟨_, h, hrest⟩ := Option.bind_eq_some_iff.mp h
  obtain ⟨_, _, hrest⟩ := Option.bind_eq_some_iff.mp hrest
  cases hrest
  obtain ⟨_, _, h⟩ := Option.bind_eq_some_iff.mp h
  obtain ⟨_, _, h⟩ := Option.bind_eq_some_iff.mp h
  obtain ⟨_, hcanonical, h⟩ := Option.bind_eq_some_iff.mp h
  obtain ⟨_, _, h⟩ := Option.bind_eq_some_iff.mp h
  obtain ⟨_, _, h⟩ := Option.bind_eq_some_iff.mp h
  obtain ⟨_, _, h⟩ := Option.bind_eq_some_iff.mp h
  cases h
  rw [Option.guard_eq_some', isCanonical, List.all_eq_true] at hcanonical
  intro text htext
  have hall := hcanonical entry hentry
  rw [List.all_eq_true] at hall
  exact of_decide_eq_true (hall text htext)

theorem verifyFeedIndex_of_load {index : FeedIndex} (h : loadFeedIndex B call = some index) :
    verifyFeedIndex B call = some index := by
  obtain ⟨_, h, hrest⟩ := Option.bind_eq_some_iff.mp h
  obtain ⟨_, _, hrest⟩ := Option.bind_eq_some_iff.mp hrest
  cases hrest
  exact h

/-- Canonical entries under one key are one entry. -/
theorem entry_of_key {a b : FeedEntry} {anchors anchors' : TrustAnchors}
    {active active' : Option VerifiedIncident} {key : CacheKey}
    (ha : ∀ text ∈ a.strings, B.canonicalString text = some text)
    (hb : ∀ text ∈ b.strings, B.canonicalString text = some text)
    (hkey : guidanceEntryCacheKey B a anchors active = some key)
    (hkey' : guidanceEntryCacheKey B b anchors' active' = some key) : a = b := by
  obtain ⟨strings, hstrings, hkey⟩ := Option.bind_eq_some_iff.mp hkey
  obtain ⟨_, _, hkey⟩ := Option.bind_eq_some_iff.mp hkey
  obtain ⟨_, _, hkey⟩ := Option.bind_eq_some_iff.mp hkey
  obtain ⟨strings', hstrings', hkey'⟩ := Option.bind_eq_some_iff.mp hkey'
  obtain ⟨_, _, hkey'⟩ := Option.bind_eq_some_iff.mp hkey'
  obtain ⟨_, _, hkey'⟩ := Option.bind_eq_some_iff.mp hkey'
  rw [mapM_canonicalString ha] at hstrings
  rw [mapM_canonicalString hb] at hstrings'
  cases hstrings
  cases hstrings'
  have heq := Option.some.inj (hkey.trans hkey'.symm)
  injection heq with hlifecycle hentry
  exact entry_of_strings hentry hlifecycle


/-! ## The caches -/

/-- Assets have the digest of the reference they are kept under. -/
def AssetsPinned (B : Bytes α) (assets : List (AssetKey × α)) : Prop :=
  ∀ asset ∈ assets, B.sha256Digest asset.2 = asset.1.1.contentDigest

theorem fetchServed_pinned : FetchesPinned B (fetchServed B call) := by
  intro reference maximum asset h
  exact of_decide_eq_true (Option.filter_eq_some_iff.mp h).2

theorem AssetsPinned.fetches {obtained : List (AssetKey × α)} (h : AssetsPinned B obtained) :
    FetchesPinned B (fetchObtained obtained) :=
  fun reference maximum asset hasset => h ((reference, maximum), asset) (mem_of_lookup hasset)

theorem mem_evictAssets {incoming : ℕ} {assets : List (AssetKey × α)} {assetBytes : ℤ}
    {asset : AssetKey × α} (h : asset ∈ (evictAssets B incoming assets assetBytes).1) :
    asset ∈ assets := by
  induction assets generalizing assetBytes with
  | nil => exact h
  | cons oldest rest ih =>
    rw [evictAssets] at h
    split at h
    · exact List.mem_cons_of_mem _ (ih h)
    · exact h

theorem AssetsPinned.remember {assets : List (AssetKey × α)} {assetBytes : ℤ} {key : AssetKey}
    {asset : α} (h : AssetsPinned B assets) (hasset : B.sha256Digest asset = key.1.contentDigest) :
    AssetsPinned B (rememberAsset B assets assetBytes key asset).1 := by
  intro other hother
  rw [rememberAsset] at hother
  split at hother
  · obtain rfl | hold := mem_assign hother
    · exact hasset
    · exact h other (mem_evictAssets hold)
  · exact h other (mem_evictAssets hother)

theorem mem_rememberCached {κ β : Type} [DecidableEq κ] {cache : List (κ × β)} {key : κ} {value : β}
    {maximum : ℕ} {entry : κ × β} (h : entry ∈ rememberCached cache key value maximum) :
    entry = (key, value) ∨ entry ∈ cache := by
  rw [rememberCached] at h
  split at h
  · exact (mem_assign h).imp_right List.mem_of_mem_tail
  · exact mem_assign h

theorem forall₂_of_mapM {β γ : Type} {f : β → Option γ} {R : β → γ → Prop} {items : List β}
    {values : List γ} (h : items.mapM f = some values)
    (hR : ∀ item ∈ items, ∀ value, f item = some value → R item value) :
    List.Forall₂ R items values := by
  induction items generalizing values with
  | nil =>
    cases h
    exact .nil
  | cons item rest ih =>
    rw [List.mapM_cons] at h
    obtain ⟨value, hvalue, h⟩ := Option.bind_eq_some_iff.mp h
    obtain ⟨others, hothers, h⟩ := Option.bind_eq_some_iff.mp h
    cases h
    exact .cons (hR item List.mem_cons_self value hvalue)
      (ih hothers fun other hmem => hR other (List.mem_cons_of_mem _ hmem))

theorem mapM_of_forall₂ {β γ : Type} {f : β → Option γ} {items : List β} {values : List γ}
    (h : List.Forall₂ (fun item value => f item = some value) items values) :
    items.mapM f = some values := by
  induction h with
  | nil => rfl
  | cons hvalue _ ih =>
    rw [List.mapM_cons, hvalue, ih]
    rfl

/-! ## The invariant -/

/-- Assets of the promise's own verify its entry. -/
def Origin.Verifies (B : Bytes α) (pinned : TrustAnchor) (origin : Origin α)
    (verified : VerifiedGuidance) : Prop :=
  ∃ assets, AssetsPinned B assets ∧
    verifyEntry B pinned origin.call (fetchObtained assets) origin.entry = some verified

/-- A promise verifies an entry of its index from pinned assets. -/
structure Promise.Valid (B : Bytes α) (pinned : TrustAnchor) (promise : Promise α) : Prop where
  index : loadFeedIndex B promise.origin.call = some promise.origin.index
  entry : promise.origin.entry ∈ promise.origin.index.entries
  key : guidanceEntryCacheKey B promise.origin.entry promise.origin.call.configured
    (promise.origin.call.activeIncident promise.origin.entry.incidentId) = some promise.origin.key
  obtained : AssetsPinned B promise.obtained
  resolved : ∀ verified, promise.outcome = .resolved verified →
    promise.origin.Verifies B pinned verified

section Invariant

/-! What a call takes stands in a relation to the call, which a guard may narrow. -/

variable (B pinned) (Q : Call α → FeedIndex → Origin α → Prop)

/-- A slot holds a promise for its entry, which the call made itself unless it was cached. -/
structure Slot.Holds (s : State α) (refresh : Refresh α) (slot : Slot) (entry : FeedEntry)
    (promise : Promise α) : Prop where
  kept : s.promises[slot.promise]? = some promise
  forEntry : promise.origin.entry = entry
  own : slot.fromCache = false → promise.origin.call = refresh.call
  taken : Q refresh.call refresh.index promise.origin

/-- A value that is shown for an entry: verified for what was taken, and of current authority. -/
structure Shown (call : Call α) (index : FeedIndex) (entry : FeedEntry)
    (verified : VerifiedGuidance) (origin : Origin α) : Prop where
  loaded : loadFeedIndex B origin.call = some origin.index
  mem : origin.entry ∈ origin.index.entries
  forEntry : origin.entry = entry
  listed : entry ∈ index.entries
  verifies : origin.Verifies B pinned verified
  authority : matchesCurrentAuthority verified.incident entry.lifecycle
    (call.activeIncident entry.incidentId) = true
  taken : Q call index origin

/-- The slots of a call are those of its first entries, and it resolves with what they show. -/
structure Refresh.Valid (s : State α) (refresh : Refresh α) : Prop where
  index : loadFeedIndex B refresh.call = some refresh.index
  slots : ∀ (i : ℕ) (slot : Slot), refresh.slots[i]? = some slot →
    ∃ entry promise, refresh.index.entries[i]? = some entry ∧ slot.Holds Q s refresh entry promise
  outcome : ∀ feed, refresh.outcome = some feed → ∃ verified,
    feed = verifiedFeed refresh.index verified ∧
      List.Forall₂ (fun entry value => ∃ origin,
        Shown B pinned Q refresh.call refresh.index entry value origin) refresh.index.entries verified

structure Inv (s : State α) : Prop where
  assets : AssetsPinned B s.assets
  entries : ∀ entry ∈ s.entries, ∃ promise, s.promises[entry.2]? = some promise ∧
    promise.origin.key = entry.1
  promises : ∀ promise ∈ s.promises, promise.Valid B pinned
  refreshes : ∀ refresh ∈ s.refreshes, refresh.Valid B pinned Q s

/-- What is taken at a step stands in the relation. -/
def Granted (s : State α) : Event α → Prop
  | .take r => ∀ refresh entry origin, s.refreshes[r]? = some refresh →
      refresh.next? = some entry → takenOrigin B s refresh entry = some origin →
      Q refresh.call refresh.index origin
  | _ => True

end Invariant

variable {Q : Call α → FeedIndex → Origin α → Prop}

/-- Promises stay, with what they verify. -/
def Extends (s t : State α) : Prop :=
  ∀ (p : ℕ) (promise : Promise α), s.promises[p]? = some promise →
    ∃ promise', t.promises[p]? = some promise' ∧ promise'.origin = promise.origin

theorem Refresh.Valid.mono {refresh : Refresh α} (hext : Extends s t)
    (h : refresh.Valid B pinned Q s) : refresh.Valid B pinned Q t := by
  refine { h with slots := fun i slot hslot => ?_ }
  obtain ⟨entry, promise, hentry, hholds⟩ := h.slots i slot hslot
  obtain ⟨promise', hpromise', horigin⟩ := hext _ _ hholds.kept
  refine ⟨entry, promise', hentry, hpromise', ?_, ?_, ?_⟩
  · rw [horigin, hholds.forEntry]
  · rw [horigin]
    exact hholds.own
  · rw [horigin]
    exact hholds.taken

/-- A promise that changes keeps what it verifies. -/
theorem extends_set {p : ℕ} {promise promise' : Promise α}
    (hpromise : s.promises[p]? = some promise) (ht : t.promises = s.promises.set p promise')
    (horigin : promise'.origin = promise.origin) : Extends s t := by
  intro q other hother
  rw [ht, List.getElem?_set]
  by_cases hq : p = q
  · subst hq
    cases Option.some.inj (hpromise.symm.trans hother)
    have hlt : p < s.promises.length := List.getElem?_eq_some_iff.mp hpromise |>.1
    exact ⟨promise', by simp [hlt], horigin⟩
  · exact ⟨other, by simp [hq, hother], rfl⟩

theorem extends_append {promise : Promise α} (ht : t.promises = s.promises ++ [promise]) :
    Extends s t := by
  intro q other hother
  have hlt : q < s.promises.length := List.getElem?_eq_some_iff.mp hother |>.1
  exact ⟨other, by rw [ht, List.getElem?_append_left hlt, hother], rfl⟩

theorem extends_of_eq (ht : t.promises = s.promises) : Extends s t :=
  fun _ promise hpromise => ⟨promise, ht ▸ hpromise, rfl⟩

theorem Move.extends (h : Move B pinned s event t) : Extends s t := by
  cases h with
  | start | hit | forget | finish => exact extends_of_eq rfl
  | miss => exact extends_append rfl
  | readAsset hpromise | fetchAsset hpromise | settle hpromise | fail hpromise =>
    exact extends_set hpromise rfl rfl

theorem Promise.Valid.obtain {promise : Promise α} {key : AssetKey} {asset : α}
    (h : promise.Valid B pinned) (hasset : B.sha256Digest asset = key.1.contentDigest) :
    (promise.obtain key asset).Valid B pinned := by
  refine { h with obtained := fun other hother => ?_ }
  obtain hold | hnew := List.mem_append.mp hother
  · exact h.obtained other hold
  · cases List.mem_singleton.mp hnew
    exact hasset

theorem Refresh.Valid.addSlot {refresh : Refresh α} {slot : Slot} {entry : FeedEntry}
    {promise : Promise α} (h : refresh.Valid B pinned Q s) (hentry : refresh.next? = some entry)
    (hslot : slot.Holds Q s refresh entry promise) :
    (refresh.addSlot slot).Valid B pinned Q s := by
  refine { h with slots := fun i other hother => ?_ }
  by_cases hi : i < refresh.slots.length
  · have hold : refresh.slots[i]? = some other := by
      rwa [Refresh.addSlot, List.getElem?_append_left hi] at hother
    obtain ⟨entry, promise, hentry, h⟩ := h.slots i other hold
    exact ⟨entry, promise, hentry, ⟨h.kept, h.forEntry, h.own, h.taken⟩⟩
  · -- the new slot is the one of the next entry
    rw [Refresh.addSlot, List.getElem?_append_right (by omega)] at hother
    have hlast : i = refresh.slots.length := by
      have hbound := (List.getElem?_eq_some_iff.mp hother).1
      simp only [List.length_singleton] at hbound
      omega
    subst hlast
    rw [Nat.sub_self] at hother
    cases hother
    exact ⟨entry, promise, hentry, hslot.kept, hslot.forEntry, hslot.own, hslot.taken⟩

section Steps

variable (hi : Inv B pinned Q s)
include hi

theorem Inv.promise {p : ℕ} {promise : Promise α} (h : s.promises[p]? = some promise) :
    promise.Valid B pinned :=
  hi.promises promise (List.mem_of_getElem? h)

theorem Inv.refresh {r : ℕ} {refresh : Refresh α} (h : s.refreshes[r]? = some refresh) :
    refresh.Valid B pinned Q s :=
  hi.refreshes refresh (List.mem_of_getElem? h)

/-- A cached promise verifies the entry whose key was looked up. -/
theorem Inv.cached {refresh : Refresh α} {entry : FeedEntry} {key : CacheKey} {p : ℕ}
    (hrefresh : refresh.Valid B pinned Q s) (hentry : refresh.next? = some entry)
    (hkey : guidanceEntryCacheKey B entry refresh.call.configured
      (refresh.call.activeIncident entry.incidentId) = some key)
    (hcached : lookup key s.entries = some p) :
    ∃ promise, s.promises[p]? = some promise ∧ promise.origin.entry = entry := by
  obtain ⟨promise, hpromise, horigin⟩ := hi.entries _ (mem_of_lookup hcached)
  refine ⟨promise, hpromise, ?_⟩
  have hvalid := hi.promise hpromise
  exact entry_of_key (canonical_of_loadFeedIndex hvalid.index hvalid.entry)
    (canonical_of_loadFeedIndex hrefresh.index (List.mem_of_getElem? hentry))
    (hvalid.key.trans (congrArg some horigin)) hkey

/-- Old entries keep their promises. -/
theorem Inv.entries_extend (hext : Extends s t) {entry : CacheKey × ℕ} (h : entry ∈ s.entries) :
    ∃ promise, t.promises[entry.2]? = some promise ∧ promise.origin.key = entry.1 := by
  obtain ⟨promise, hpromise, hkey⟩ := hi.entries entry h
  obtain ⟨promise', hpromise', horigin⟩ := hext _ _ hpromise
  exact ⟨promise', hpromise', horigin ▸ hkey⟩

theorem Inv.promises_set {p : ℕ} {promise' : Promise α} (h : promise'.Valid B pinned) :
    ∀ promise ∈ s.promises.set p promise', promise.Valid B pinned := by
  intro promise hpromise
  obtain hold | rfl := List.mem_or_eq_of_mem_set hpromise
  · exact hi.promises promise hold
  · exact h

theorem Inv.refreshes_set (hext : Extends s t) {r : ℕ} {refresh' : Refresh α}
    (h : refresh'.Valid B pinned Q t) :
    ∀ refresh ∈ s.refreshes.set r refresh', refresh.Valid B pinned Q t := by
  intro refresh hrefresh
  obtain hold | rfl := List.mem_or_eq_of_mem_set hrefresh
  · exact (hi.refreshes refresh hold).mono hext
  · exact h

/-- The value of a slot is shown for its entry. -/
theorem Inv.shown {refresh : Refresh α} {slot : Slot} {entry : FeedEntry} {promise : Promise α}
    {verified : VerifiedGuidance} (hslot : slot.Holds Q s refresh entry promise)
    (hentry : entry ∈ refresh.index.entries)
    (h : slotValue s refresh.call slot entry = some verified) :
    Shown B pinned Q refresh.call refresh.index entry verified promise.origin := by
  have hvalid := hi.promise hslot.kept
  obtain ⟨other, hother, h⟩ := Option.bind_eq_some_iff.mp h
  cases Option.some.inj (hslot.kept.symm.trans hother)
  split at h
  · next value hvalue =>
    split at h
    · cases h
    · next hcheck =>
      cases h
      have hverifies := hvalid.resolved verified hvalue
      obtain ⟨assets, _, hverified⟩ := id hverifies
      have hbound := isOfOccurrence_of_verifyEntry (verifyFeedIndex_of_load hvalid.index)
        hvalid.entry hverified
      refine ⟨hvalid.index, hvalid.entry, hslot.forEntry, hentry, hverifies, ?_, hslot.taken⟩
      rw [hslot.forEntry] at hbound
      cases hcache : slot.fromCache with
      | true =>
        rw [hcache, Bool.true_and, Bool.not_eq_true', Bool.not_eq_false, hbound.lifecycle] at hcheck
        exact hcheck
      | false =>
        rw [← hslot.own hcache]
        exact hbound.authority
  · cases h

/-- A call resolves with what is shown for its entries. -/
theorem Inv.shown_of_finish {refresh : Refresh α} {verified : List VerifiedGuidance}
    (hrefresh : refresh.Valid B pinned Q s)
    (hlength : refresh.slots.length = refresh.index.entries.length)
    (hverified : (refresh.slots.zip refresh.index.entries).mapM (fun slot =>
      slotValue s refresh.call slot.1 slot.2) = some verified) :
    List.Forall₂ (fun entry value => ∃ origin,
      Shown B pinned Q refresh.call refresh.index entry value origin) refresh.index.entries
      verified := by
  have hshown : List.Forall₂ (fun pair value => ∃ origin,
      Shown B pinned Q refresh.call refresh.index pair.2 value origin)
      (refresh.slots.zip refresh.index.entries) verified := by
    refine forall₂_of_mapM hverified fun pair hpair value hvalue => ?_
    obtain ⟨i, hi'⟩ := List.mem_iff_getElem?.mp hpair
    obtain ⟨hslot, hentry⟩ := List.getElem?_zip_eq_some.mp hi'
    obtain ⟨entry, promise, hentry', hholds⟩ := hrefresh.slots i pair.1 hslot
    cases Option.some.inj (hentry.symm.trans hentry')
    exact ⟨promise.origin, hi.shown hholds (List.mem_of_getElem? hentry) hvalue⟩
  have hentries : (refresh.slots.zip refresh.index.entries).map Prod.snd = refresh.index.entries :=
    List.map_snd_zip (Nat.le_of_eq hlength.symm)
  rw [← hentries, List.forall₂_map_left_iff]
  exact hshown

/-- Every step keeps the invariant. -/
theorem Inv.next (hq : Granted B Q s event) (h : Move B pinned s event t) : Inv B pinned Q t := by
  have hext : Extends s t := h.extends
  have hkept : ∀ refresh ∈ s.refreshes, refresh.Valid B pinned Q t :=
    fun refresh hrefresh => (hi.refreshes refresh hrefresh).mono hext
  cases h with
  | @start call index hindex =>
    refine { hi with refreshes := fun refresh hrefresh => ?_ }
    obtain hold | hnew := List.mem_append.mp hrefresh
    · exact hkept refresh hold
    · cases List.mem_singleton.mp hnew
      exact ⟨hindex, fun i slot hslot => (by cases hslot), fun feed hfeed => by cases hfeed⟩
  | @hit r refresh entry key p hrefresh hentry hkey hcached =>
    have hvalid := hi.refresh hrefresh
    obtain ⟨promise, hpromise, horigin⟩ := hi.cached hvalid hentry hkey hcached
    have htaken : takenOrigin B s refresh entry = some promise.origin := by
      rw [takenOrigin, Option.bind_eq_bind, hkey, Option.bind_some]
      simp only [hcached, hpromise, Option.map_some]
    refine { hi with refreshes := hi.refreshes_set hext ?_ }
    exact (hvalid.mono hext).addSlot hentry
      ⟨hpromise, horigin, fun hown => (by cases hown), hq refresh entry _ hrefresh hentry htaken⟩
  | @miss r refresh entry key hrefresh hentry hkey hnew =>
    have hvalid := hi.refresh hrefresh
    have htaken : takenOrigin B s refresh entry =
        some ⟨refresh.call, refresh.index, entry, key⟩ := by
      rw [takenOrigin, Option.bind_eq_bind, hkey, Option.bind_some]
      simp only [hnew]
    refine {
      assets := hi.assets
      entries := fun cached hcached => ?_
      promises := fun promise hpromise => ?_
      refreshes := hi.refreshes_set hext ?_ }
    · obtain rfl | hold := mem_rememberCached hcached
      · exact ⟨_, List.getElem?_concat_length, rfl⟩
      · exact hi.entries_extend hext hold
    · obtain hold | hnew := List.mem_append.mp hpromise
      · exact hi.promises promise hold
      · cases List.mem_singleton.mp hnew
        exact {
          index := hvalid.index
          entry := List.mem_of_getElem? hentry
          key := hkey
          obtained := fun _ h => by cases h
          resolved := fun _ h => by cases h }
    · exact (hvalid.mono hext).addSlot hentry ⟨List.getElem?_concat_length, rfl, fun _ => rfl,
        hq refresh entry _ hrefresh hentry htaken⟩
  | @readAsset p promise key asset hpromise hasset =>
    exact { hi with
      promises := hi.promises_set ((hi.promise hpromise).obtain
        (hi.assets _ (mem_of_lookup hasset)))
      entries := fun _ hentry => hi.entries_extend hext hentry
      refreshes := hkept }
  | @fetchAsset p promise key asset hpromise hasset =>
    have hdigest : B.sha256Digest asset = key.1.contentDigest := fetchServed_pinned _ _ _ hasset
    exact {
      assets := hi.assets.remember hdigest
      promises := hi.promises_set ((hi.promise hpromise).obtain hdigest)
      entries := fun _ hentry => hi.entries_extend hext hentry
      refreshes := hkept }
  | @settle p promise verified hpromise hverified =>
    have hvalid := hi.promise hpromise
    refine { hi with
      promises := hi.promises_set { hvalid with resolved := fun other hother => ?_ }
      entries := fun _ hentry => hi.entries_extend hext hentry
      refreshes := hkept }
    cases hother
    exact ⟨promise.obtained, hvalid.obtained, hverified⟩
  | @fail p promise hpromise =>
    exact { hi with
      promises := hi.promises_set { hi.promise hpromise with resolved := fun _ h => by cases h }
      entries := fun _ hentry => hi.entries_extend hext hentry
      refreshes := hkept }
  | @forget p promise hpromise =>
    exact { hi with
      entries := fun entry hentry => hi.entries entry (List.mem_of_mem_filter hentry)
      refreshes := hkept }
  | @finish r refresh verified hrefresh hlength hverified =>
    have hvalid := hi.refresh hrefresh
    have hshown := hi.shown_of_finish hvalid hlength hverified
    refine { hi with
      refreshes := hi.refreshes_set hext ⟨hvalid.index, fun i slot hslot => ?_, fun feed hfeed => ?_⟩ }
    · obtain ⟨entry, promise, hentry, h⟩ := (hvalid.mono hext).slots i slot hslot
      exact ⟨entry, promise, hentry, h.kept, h.forEntry, h.own, h.taken⟩
    · cases hfeed
      exact ⟨verified, rfl, hshown⟩

end Steps

theorem inv_empty : Inv B pinned Q State.empty where
  assets := fun _ h => by cases h
  entries := fun _ h => by cases h
  promises := fun _ h => by cases h
  refreshes := fun _ h => by cases h

/-- In a run in which what is taken stands in the relation, the invariant holds. -/
theorem inv_of_reachable {condition : State α → Event α → Prop}
    (hcondition : ∀ s event, condition s event → Granted B Q s event)
    (h : ((system B pinned).guarded condition).Reachable s) : Inv B pinned Q s := by
  refine h.invariant ?_ fun s event _ _ hi hstep =>
    hi.next (hcondition s event hstep.1) (move_of_step hstep.2)
  rintro _ rfl
  exact inv_empty


/-! ## Resolved feeds -/

variable {refresh : Refresh α} {feed : VerifiedFeed}

/-- What is shown is of the occurrence that the call knows. -/
theorem Shown.isOfOccurrence {index : FeedIndex} {entry : FeedEntry} {verified : VerifiedGuidance}
    {origin : Origin α} (h : Shown B pinned Q call index entry verified origin) :
    IsOfOccurrence call entry verified := by
  obtain ⟨assets, _, hverified⟩ := h.verifies
  have hbound := isOfOccurrence_of_verifyEntry (verifyFeedIndex_of_load h.loaded) h.mem hverified
  rw [h.forEntry] at hbound
  exact { hbound with authority := h.authority }

/-- In every run, a resolved feed shows for each entry the occurrence that the entry names, and for
an active one the occurrence of the call's own v1 feed. -/
theorem resolved_feeds_are_current (h : (system B pinned).Reachable s)
    (hrefresh : refresh ∈ s.refreshes) (hfeed : refresh.outcome = some feed) :
    List.Forall₂ (IsOfOccurrence refresh.call) refresh.index.entries
      (feed.active ++ feed.recentlyResolved) := by
  have hi : Inv B pinned (fun _ _ _ => True) s := by
    refine inv_of_reachable (fun s event _ => ?_) (h.guarded_of_forall fun _ _ => trivial)
    cases event with
    | take r => exact fun _ _ _ _ _ _ => trivial
    | _ => trivial
  obtain ⟨verified, rfl, hshown⟩ := (hi.refreshes refresh hrefresh).outcome feed hfeed
  rw [verifiedFeed, List.take_append_drop]
  exact hshown.imp fun _ _ ⟨_, hentry⟩ => hentry.isOfOccurrence

variable (B pinned)

/-- The keys that a call is served are the pinned ones, `verifySignature` and its siblings. -/
def servesKeys (call : Call α) : Bool :=
  let serves (anchor : TrustAnchor) (key : PublicKey) : Bool :=
    key.keyId = anchor.keyId && key.fingerprint = anchor.fingerprint &&
      B.keyFingerprint key.jwk = anchor.fingerprint
  serves call.configured.feed call.keys.feed && serves pinned call.keys.lifecycle &&
    serves call.configured.report call.keys.report &&
    serves call.configured.enrichment call.keys.enrichment &&
    serves call.configured.guidance call.keys.guidance

/-- The call is itself served the keys and the documents of an entry, and the promise was made
under an index of the same time and the same anchors. -/
def couldVerify (call : Call α) (index : FeedIndex) (origin : Origin α) : Bool :=
  servesKeys B pinned call && (fetchChain B (fetchServed B call) origin.entry).isSome &&
    origin.index.publishedAt = index.publishedAt && origin.call.configured = call.configured

/-- A call takes only what it could have verified itself; of its own promises too, as their documents
may come from the cache. -/
def takesOwn (s : State α) : Event α → Bool
  | .take r => s.refreshes[r]?.all fun refresh => refresh.next?.all fun entry =>
      (takenOrigin B s refresh entry).all (couldVerify B pinned refresh.call refresh.index)
  | _ => true

variable {B pinned}

theorem keysPinned_of_servesKeys (h : servesKeys B pinned call = true) :
    KeysPinned B pinned call.configured call.keys := by
  simp only [servesKeys, Bool.and_eq_true, decide_eq_true_eq, and_assoc] at h
  obtain ⟨ha, hb, hc, hd, he, hf, hg, hh, hi, hj, hk, hl, hm, hn, ho⟩ := h
  exact ⟨⟨ha, hb, hc⟩, ⟨hd, he, hf⟩, ⟨hg, hh, hi⟩, ⟨hj, hk, hl⟩, ⟨hm, hn, ho⟩⟩

theorem granted_of_takesOwn {s : State α} {event : Event α} (h : takesOwn B pinned s event = true) :
    Granted B (fun call index origin => couldVerify B pinned call index origin = true) s event := by
  cases event with
  | take r =>
    intro refresh entry origin hrefresh hentry horigin
    simpa only [takesOwn, hrefresh, hentry, horigin, Option.all_some] using h
  | _ => trivial

/-- What a call could have verified itself, it verifies. -/
theorem Shown.verifyEntry {index : FeedIndex} {entry : FeedEntry} {verified : VerifiedGuidance}
    {origin : Origin α} (hindex : loadFeedIndex B call = some index)
    (h : Shown B pinned (fun call index origin => couldVerify B pinned call index origin = true) call
      index entry verified origin) :
    verifyEntry B pinned call (fetchServed B call) entry = some verified := by
  obtain ⟨assets, hassets, hverified⟩ := h.verifies
  have htaken := h.taken
  simp only [couldVerify, Bool.and_eq_true, decide_eq_true_eq] at htaken
  obtain ⟨⟨⟨hkeys, hserved⟩, hpublished⟩, hconfigured⟩ := htaken
  obtain rfl := h.forEntry
  have hload := verifyFeedIndex_of_load h.loaded
  have htime : verified.feedPublishedAt = index.publishedAt := by
    obtain ⟨_, _, _, _, rfl⟩ := (verifyEntry_eq_some hload h.mem).mp hverified
    exact hpublished
  have hown := verifyEntry_of_verified hload h.mem hverified hassets.fetches
    (verifyFeedIndex_of_load hindex) h.listed fetchServed_pinned hserved
    (keysPinned_of_servesKeys hkeys) hconfigured.symm h.authority
  rw [hown, ← htime]

/-- In every run in which calls take only what they could have verified themselves, a resolved feed
is the one that the call loads over an empty cache, and shows the occurrences that it knows. -/
theorem resolved_feeds_are_fresh
    (h : ((system B pinned).guarded fun s event => takesOwn B pinned s event = true).Reachable s)
    (hrefresh : refresh ∈ s.refreshes) (hfeed : refresh.outcome = some feed) :
    freshFeed B pinned refresh.call = some feed ∧
      List.Forall₂ (IsOfOccurrence refresh.call) refresh.index.entries
        (feed.active ++ feed.recentlyResolved) := by
  refine ⟨?_, resolved_feeds_are_current h.of_guarded hrefresh hfeed⟩
  have hi := inv_of_reachable (fun _ _ => granted_of_takesOwn) h
  have hvalid := hi.refreshes refresh hrefresh
  obtain ⟨verified, rfl, hshown⟩ := hvalid.outcome feed hfeed
  have hverified : refresh.index.entries.mapM (fun entry =>
      GuidanceBundles.verifyEntry B pinned refresh.call (fetchServed B refresh.call) entry) =
      some verified :=
    mapM_of_forall₂ (hshown.imp fun _ _ ⟨_, hentry⟩ => hentry.verifyEntry hvalid.index)
  rw [freshFeed, Option.bind_eq_bind, hvalid.index, Option.bind_some, Option.bind_eq_bind,
    hverified, Option.bind_some]
  rfl


/-! ## A refresh with a later index -/

/-- The trust anchor of every key. -/
def exampleAnchor : TrustAnchor := ⟨"key", "modulus"⟩

def exampleKey : PublicKey := ⟨"key", "modulus", "modulus"⟩

def exampleState : IncidentState where
  incidentId := "incident"
  transitionId := "transition"
  lifecycle := .resolved
  updatedAt := "2026-01-01T00:00:00.000Z"
  resultDigest := "preimage"
  content := ""

def exampleFeedPointer : FeedPointer where
  pointerId := "pointer-id"
  incidentId := "incident"
  lifecycle := .resolved
  stateResultDigest := "preimage"
  stateUpdatedAt := "2026-01-01T00:00:00.000Z"
  occurrenceDigest := "receipt"
  sourceStateReference := ⟨"incidents/incident/versions/1/state.json", "1", "state"⟩
  sourceStateAttestationReference :=
    ⟨"incidents/incident/versions/1/attestation.json", "1", "state-attestation"⟩
  sourcePointerReference :=
    ⟨"incidents/incident/versions/1/pointer.json", "1", "source-pointer"⟩
  sourcePointerAttestationReference :=
    ⟨"incidents/incident/versions/1/pointer-attestation.json", "1", "source-pointer-attestation"⟩
  enrichmentAsset :=
    { enrichmentId := "enrichment"
      manifestDigest := "manifest-digest"
      manifestReference := ⟨"enrichments/1/manifest.json", "1", "manifest"⟩
      attestationReference := ⟨"enrichments/1/attestation.json", "1", "manifest-attestation"⟩ }
  pointerDigest := "pointer-digest"

def exampleEntry : FeedEntry where
  incidentId := "incident"
  lifecycle := .resolved
  stateResultDigest := "preimage"
  updatedAt := "2026-01-01T00:00:00.000Z"
  feedPointerReference := ⟨"enrichments/1/feed-pointer.json", "1", "pointer"⟩
  feedPointerAttestationReference :=
    ⟨"enrichments/1/feed-pointer-attestation.json", "1", "pointer-attestation"⟩

def exampleIncident : IncidentBinding :=
  ⟨"transition", 1, "preimage", "subject", "subject-digest", "request", "request-digest"⟩

def exampleReport : ReportBinding :=
  ⟨"report-id", "report-digest", "report", "proof", "correlation-request", "correlation-transition"⟩

def exampleManifest : EnrichmentManifest where
  enrichmentId := "enrichment"
  incidentId := "incident"
  incident := exampleIncident
  incidentStateReference := exampleFeedPointer.sourceStateReference
  incidentStateAttestationReference := exampleFeedPointer.sourceStateAttestationReference
  correlationReportAsset :=
    { incident := exampleIncident
      report := exampleReport
      publicationStatementId := "statement-id"
      publicationStatementDigest := "statement-digest"
      reportReference := ⟨"enrichments/1/report.json", "1", "report"⟩
      attestationReference := ⟨"enrichments/1/report-attestation.json", "1", "report-attestation"⟩ }
  guidanceAsset :=
    { guidanceId := "guidance-id"
      guidanceDigest := "guidance-digest"
      guidanceReference := ⟨"enrichments/1/guidance.json", "1", "guidance"⟩
      attestationReference :=
        ⟨"enrichments/1/guidance-attestation.json", "1", "guidance-attestation"⟩ }
  manifestDigest := "manifest-digest"

def exampleStatement : ReportStatement where
  statementId := "statement-id"
  incidentId := "incident"
  incident := exampleIncident
  incidentStateReference := exampleFeedPointer.sourceStateReference
  incidentStateAttestationReference := exampleFeedPointer.sourceStateAttestationReference
  report := exampleReport
  statementDigest := "statement-digest"

def exampleGuidance : IncidentGuidance where
  guidanceId := "guidance-id"
  guidanceDigest := "guidance-digest"
  sourceBinding :=
    ⟨"incident", 1, "preimage", "subject", "subject-digest", "request", "request-digest",
      "report-id", "report-digest", "correlation-request", "correlation-transition"⟩
  content := ""

def exampleIndex (publishedAt : String) : FeedIndex where
  active := []
  recentlyResolved := [exampleEntry]
  nodup := by decide
  sourceActiveIndexDigest := "active-index"
  indexAttestationPath := "index-attestation"
  keyId := "key"
  keyFingerprint := "modulus"
  publishedAt := publishedAt

def exampleSource : IncidentPointer where
  incidentId := "incident"
  statePath := "./incidents/incident/versions/1/state.json"
  stateSha256 := "state"
  attestationPath := "./incidents/incident/versions/1/attestation.json"
  attestationSha256 := "state-attestation"
  pointerAttestationPath := "./incidents/incident/versions/1/pointer-attestation.json"
  keyId := "key"
  keyFingerprint := "modulus"
  publishedAt := "2026-01-01T00:00:00.000Z"

/-- A signed statement over a payload. -/
def exampleAttestation (id digest payload : String) : Attestation where
  id := some id
  digest := digest
  signedPreimageDigest := some payload
  keyVaultKeyId := "key"
  detachedSignature := payload ++ " signed"

/-- Texts that are their own digests, two indexes, and the documents of one incident. -/
def exampleBytes : Bytes String where
  sha256Digest := id
  byteLength := String.length
  feedPointer text := if text = "pointer" then some exampleFeedPointer else none
  enrichmentManifest text := if text = "manifest" then some exampleManifest else none
  correlationReport text := if text = "report" then
    some ⟨"report-id", "correlation-request", "correlation-transition", "report-digest"⟩ else none
  reportAttestation text := if text = "report-attestation" then
    some (exampleStatement, "statement", exampleAttestation "" "" "statement") else none
  guidance text := if text = "guidance" then some exampleGuidance else none
  attestation _ text :=
    if text = "pointer-attestation" then
      some (exampleAttestation "pointer-id" "pointer-digest" "pointer")
    else if text = "manifest-attestation" then
      some (exampleAttestation "enrichment" "manifest-digest" "manifest")
    else if text = "guidance-attestation" then
      some (exampleAttestation "guidance-id" "guidance-digest" "guidance")
    else if text = "index-1 attestation" then some (exampleAttestation "" "index-1" "index-1")
    else if text = "index-2 attestation" then some (exampleAttestation "" "index-2" "index-2")
    else none
  incidentState text := if text = "state" then some exampleState else none
  incidentPointer text := if text = "source-pointer" then some exampleSource else none
  incidentAttestation text := if text = "state-attestation" then
    some (exampleAttestation "" "preimage" "preimage") else none
  incidentPointerAttestation text := if text = "source-pointer-attestation" then
    some (exampleAttestation "" "source-pointer" "source-pointer") else none
  feedIndex text :=
    if text = "index-1" then some (exampleIndex "2026-01-01T00:00:00.000Z")
    else if text = "index-2" then some (exampleIndex "2026-01-01T00:05:00.000Z")
    else none
  keyFingerprint := id
  verify _ payload signature := signature = payload ++ " signed"
  canonicalString := some
  parseDate text := if text = "2026-01-01T00:05:00.000Z" then 1767225900000 else 1767225600000
  incidentPreimage _ := "preimage"
  occurrenceReceipt _ _ := "receipt"
  sha256Digest_injective := fun _ _ h => h
  verify_congr := fun _ _ _ => rfl

/-- A call that is served an index and every document at its reference. -/
def exampleCall (index : String) : Call String where
  incidentFeed := ⟨[], "2026-01-01T00:00:00.000Z", some "active-index"⟩
  configured := ⟨exampleAnchor, exampleAnchor, exampleAnchor, exampleAnchor⟩
  now := 1767225900000
  feedIndex := index
  feedIndexAttestation := index ++ " attestation"
  keys := ⟨exampleKey, exampleKey, exampleKey, exampleKey, exampleKey⟩
  served reference _ := some reference.contentDigest

/-- One refresh loads an incident. -/
def exampleRefresh : List (Event String) :=
  [.start (exampleCall "index-1"), .take 0] ++
    (wanted exampleBytes (fun reference _ => some reference.contentDigest) exampleEntry).map
      (.fetchAsset 0) ++
    [.settle 0, .finish 0]


/-- A second refresh under an index finds the entry in the cache. -/
def exampleRefreshes (index : String) : List (Event String) :=
  exampleRefresh ++ [.start (exampleCall index), .take 1, .finish 1]

/-- The second refresh has resolved. -/
def resolvedSecond (s : State String) : Option (Refresh String × VerifiedFeed) := do
  let refresh ← s.refreshes[1]?
  let feed ← refresh.outcome
  pure (refresh, feed)

theorem resolvedSecond_eq_some {s : State String} {pair : Refresh String × VerifiedFeed}
    (h : resolvedSecond s = some pair) : pair.1 ∈ s.refreshes ∧ pair.1.outcome = some pair.2 := by
  obtain ⟨refresh, hrefresh, h⟩ := Option.bind_eq_some_iff.mp h
  obtain ⟨feed, hfeed, h⟩ := Option.bind_eq_some_iff.mp h
  cases h
  exact ⟨List.mem_of_getElem? hrefresh, hfeed⟩

theorem resolved_feeds_are_fresh_shared : ∃ (s : State String) (refresh : Refresh String)
    (feed : VerifiedFeed), refresh ∈ s.refreshes ∧ refresh.outcome = some feed ∧
      feed.recentlyResolved.length = 1 ∧
      freshFeed exampleBytes exampleAnchor refresh.call = some feed := by
  have hrun : ((runSteps (fun s event => if takesOwn exampleBytes exampleAnchor s event then
      step exampleBytes exampleAnchor s event else none) State.empty
      (exampleRefreshes "index-1")).bind resolvedSecond).any
      (fun pair => pair.2.recentlyResolved.length = 1) = true := by decide +kernel
  obtain ⟨pair, hpair, hlength⟩ := (Option.any_eq_true _ _).mp hrun
  obtain ⟨s, hs, hresolved⟩ := Option.bind_eq_some_iff.mp hpair
  obtain ⟨hrefresh, hfeed⟩ := resolvedSecond_eq_some hresolved
  have hreachable := reachable_runSteps_guarded (exampleRefreshes "index-1") (.start rfl) hs
  exact ⟨s, pair.1, pair.2, hrefresh, hfeed, of_decide_eq_true hlength,
    (resolved_feeds_are_fresh hreachable hrefresh hfeed).1⟩

/-- A refresh with a later index shows the guidance with the time of the earlier feed, which no
load over an empty cache does. -/
theorem cached_guidance_is_stale : ∃ (s : State String) (refresh : Refresh String)
    (feed : VerifiedFeed), (system exampleBytes exampleAnchor).Reachable s ∧
      refresh ∈ s.refreshes ∧ refresh.outcome = some feed ∧
      freshFeed exampleBytes exampleAnchor refresh.call ≠ some feed := by
  have hrun : ((runSteps (step exampleBytes exampleAnchor) State.empty
      (exampleRefreshes "index-2")).bind resolvedSecond).any
      (fun pair => freshFeed exampleBytes exampleAnchor pair.1.call ≠ some pair.2) = true := by
    decide +kernel
  obtain ⟨pair, hpair, hstale⟩ := (Option.any_eq_true _ _).mp hrun
  obtain ⟨s, hs, hresolved⟩ := Option.bind_eq_some_iff.mp hpair
  obtain ⟨hrefresh, hfeed⟩ := resolvedSecond_eq_some hresolved
  exact ⟨s, pair.1, pair.2, reachable_runSteps (exampleRefreshes "index-2") (.start rfl) hs,
    hrefresh, hfeed, of_decide_eq_true hstale⟩

end AthenaContext.GuidanceCache
