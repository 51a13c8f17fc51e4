import AthenaContext.FallibleResults
import AthenaContext.GuidanceCache
import Mathlib

/-!
# The byte budgets of the browser

Calls that fetch assets under one budget each and over one shared cache. A fetch reserves its
maximum before it starts and gives back what it did not need when its response is read or has
failed. Fetches overlap in any way, and an asset that two of them wanted is remembered twice.
-/

namespace AthenaContext.GuidanceBudgets

open GuidanceBundles GuidanceCache Dictionaries TransitionSystems

variable {α : Type}

/-! ## Responses -/

/-- The codes of a `PresentationLoadError`. -/
inductive LoadErrorCode
  | configuration | network | http | contentType | size | utf8 | json
  deriving DecidableEq

/-- The bytes of a response and what the language does with them. -/
structure Octets (B : Bytes α) where
  /-- The chunks copied into one array. -/
  join : List α → α
  isUtf8 : α → Bool
  isJson : α → Bool
  byteLength_join : ∀ chunks, B.byteLength (join chunks) = (chunks.map B.byteLength).sum

inductive Body (α : Type)
  /-- A response without a stream. -/
  | buffer (bytes : α)
  /-- The chunks that the reader gets, and whether it throws after them. -/
  | stream (chunks : List α) (broken : Bool)

structure Response (α : Type) where
  ok : Bool
  redirected : Bool
  contentType : Option (List Char)
  /-- The declared length, unless it is missing or not a safe integer. -/
  contentLength : Option (Option ℤ)
  body : Body α

/-- `\s` for the characters of a header. -/
def isHeaderSpace (c : Char) : Bool := c ∈ [' ', '\t', '\n', '\r', '\x0b', '\x0c', '\u00a0']

/-- `/^application\/json(?:\s*;|$)/` of the lower case. -/
def isJsonType (contentType : List Char) : Bool :=
  let text := contentType.map Char.toLower
  let rest := text.drop "application/json".length
  "application/json".toList.isPrefixOf text &&
    (rest.isEmpty || (rest.dropWhile isHeaderSpace).head? = some ';')

variable {B : Bytes α} (O : Octets B)

/-- The loop of the reader; what it throws the caller reports as a network error. -/
def readChunks (B : Bytes α) (maximumBytes : ℕ) (broken : Bool) :
    ℕ → List α → Except LoadErrorCode (List α)
  | totalBytes, [] =>
    if broken then .error .network else if totalBytes < 1 then .error .size else .ok []
  | totalBytes, value :: rest =>
    if maximumBytes < totalBytes + B.byteLength value then .error .size
    else (readChunks B maximumBytes broken (totalBytes + B.byteLength value) rest).map (value :: ·)

/-- `readBoundedResponseBytes` -/
def readBoundedResponseBytes (body : Body α) (maximumBytes : ℕ) : Except LoadErrorCode α :=
  match body with
  | .buffer bytes =>
    if B.byteLength bytes < 1 ∨ maximumBytes < B.byteLength bytes then .error .size else .ok bytes
  | .stream chunks broken => (readChunks B maximumBytes broken 0 chunks).map O.join

/-- `fetchBoundedJsonAsset`; no response is a fetch that threw or ran out of time. -/
def fetchBoundedJsonAsset (timeoutMs : ℕ) (response : Option (Response α)) (maximumBytes : ℕ) :
    Except LoadErrorCode α :=
  if timeoutMs < 1 ∨ 30000 < timeoutMs then .error .configuration
  else
    match response with
    | none => .error .network
    | some response =>
      if !response.ok || response.redirected then .error .http
      else if !isJsonType (response.contentType.getD []) then .error .contentType
      else if response.contentLength.any fun declared =>
          !declared.any fun n => 1 ≤ n && n ≤ (maximumBytes : ℤ) then .error .size
      else do
        let bytes ← readBoundedResponseBytes O response.body maximumBytes
        if !O.isUtf8 bytes then .error .utf8
        else if !O.isJson bytes then .error .json
        else .ok bytes

/-! ## Loads -/

/-- `maximumAggregateBytes` and `timeoutMs` of a call, its `GuidanceFetchBudget`, and the bytes of
the assets that its fetches have returned so far. What a failed fetch has read is not among them. -/
structure Load where
  maximumAggregateBytes : ℕ
  timeoutMs : ℕ
  remainingBytes : ℤ
  accepted : ℕ

/-- A fetch in flight, with its bytes once they are read and their digest is awaited. Assets that
are not version-pinned have no reference. -/
structure Fetch (α : Type) where
  load : ℕ
  reference : Option VersionPinnedReference
  maximumBytes : ℕ
  bytes : Option α

/-- The calls over one `GuidanceLoadCache`. `overwritten` adds up the lengths of the cached assets
that were replaced by the asset of a second fetch. -/
structure State (α : Type) where
  loads : List Load
  fetches : List (Fetch α)
  assets : List (AssetKey × α)
  assetBytes : ℤ
  overwritten : ℕ

def State.empty : State α := ⟨[], [], [], 0, 0⟩

/-- `MAX_GUIDANCE_REFRESH_BYTES` -/
def maxGuidanceRefreshBytes : ℕ := 64 * 1024 * 1024

/-- The bounds of `maximumAggregateBytes`, with `MAX_FEED_BYTES` below. -/
def validAggregate (maximumAggregateBytes : ℕ) : Bool :=
  128 * 1024 + maxAttestationBytes ≤ maximumAggregateBytes &&
    maximumAggregateBytes ≤ maxGuidanceRefreshBytes

inductive Event (α : Type)
  /-- A call with its limits. -/
  | load (maximumAggregateBytes timeoutMs : ℕ)
  /-- A call wants an asset. -/
  | request (load : ℕ) (reference : Option VersionPinnedReference) (maximumBytes : ℕ)
  /-- The response of a fetch is read, or the fetch has failed. -/
  | respond (fetch : ℕ) (response : Option (Response α))
  /-- The digest of an asset is known. -/
  | digest (fetch : ℕ)

/-- The asset of a reference is cached. -/
def State.isCached (s : State α) (reference : Option VersionPinnedReference) (maximumBytes : ℕ) : Bool :=
  reference.any fun reference => (lookup (reference, maximumBytes) s.assets).isSome

/-- The budget is less the maximum of a fetch that starts. -/
def State.reserve (s : State α) (l : ℕ) (load : Load) (reference : Option VersionPinnedReference)
    (maximumBytes : ℕ) : State α :=
  { s with
    loads := s.loads.set l { load with remainingBytes := load.remainingBytes - maximumBytes }
    fetches := s.fetches ++ [⟨l, reference, maximumBytes, none⟩] }

/-- The budget gets back what the fetch did not need. -/
def State.receive (s : State α) (i : ℕ) (f : Fetch α) (load : Load) (length : ℕ)
    (awaiting : List (Fetch α)) : State α :=
  { s with
    loads := s.loads.set f.load
      { load with
        remainingBytes := load.remainingBytes + (f.maximumBytes - length)
        accepted := load.accepted + length }
    fetches := s.fetches.eraseIdx i ++ awaiting }

/-- A fetch of a reference goes on to the digest of its bytes. -/
def Fetch.awaiting (f : Fetch α) (bytes : α) : List (Fetch α) :=
  if f.reference.isSome then [{ f with bytes := some bytes }] else []

/-- The asset that an asset of the same key replaces after the eviction. -/
def replacedBytes (B : Bytes α) (assets : List (AssetKey × α)) (key : AssetKey) : ℕ :=
  (lookup key assets).elim 0 B.byteLength

/-- The end of `fetchCachedGuidanceReference`. -/
def State.remember (B : Bytes α) (s : State α) (i : ℕ) (key : AssetKey) (bytes : α) : State α :=
  { s with
    fetches := s.fetches.eraseIdx i
    assets := (rememberAsset B s.assets s.assetBytes key bytes).1
    assetBytes := (rememberAsset B s.assets s.assetBytes key bytes).2
    overwritten := s.overwritten +
      if B.byteLength bytes ≤ maxCachedGuidanceAssetBytes then
        replacedBytes B (evictAssets B (B.byteLength bytes) s.assets s.assetBytes).1 key
      else 0 }

/-- `fetchBudgetedGuidanceAsset` and `fetchCachedGuidanceReference` between their waits. -/
def step (s : State α) : Event α → Option (State α)
  | .load maximumAggregateBytes timeoutMs =>
    if validAggregate maximumAggregateBytes then
      some { s with loads := s.loads ++ [⟨maximumAggregateBytes, timeoutMs, maximumAggregateBytes, 0⟩] }
    else none
  | .request l reference maximumBytes => do
    let load ← s.loads[l]?
    if s.isCached reference maximumBytes then some s
    else if load.remainingBytes < maximumBytes then some s
    else some (s.reserve l load reference maximumBytes)
  | .respond i response => do
    let f ← s.fetches[i]?
    let load ← s.loads[f.load]?
    if f.bytes.isSome then none
    else
      match fetchBoundedJsonAsset O load.timeoutMs response f.maximumBytes with
      -- a failed fetch may have read its whole body, and still gives all of its reservation back
      | .error _ => some (s.receive i f load 0 [])
      | .ok bytes => some (s.receive i f load (B.byteLength bytes) (f.awaiting bytes))
  | .digest i => do
    let f ← s.fetches[i]?
    let bytes ← f.bytes
    let reference ← f.reference
    if B.sha256Digest bytes = reference.contentDigest then
      some (s.remember B i (reference, f.maximumBytes) bytes)
    else some { s with fetches := s.fetches.eraseIdx i }

/-- Calls over one cache, with their fetches in any order. -/
def system : TransitionSystem (State α) (Event α) := ofStep State.empty (step O)

/-! ## Bounded responses -/

variable {O}

theorem readChunks_ok {maximumBytes totalBytes : ℕ} {broken : Bool} {chunks read : List α}
    (h : readChunks B maximumBytes broken totalBytes chunks = .ok read) :
    read = chunks ∧ 1 ≤ totalBytes + (chunks.map B.byteLength).sum ∧
      (chunks ≠ [] → totalBytes + (chunks.map B.byteLength).sum ≤ maximumBytes) := by
  induction chunks generalizing totalBytes read with
  | nil =>
    simp only [readChunks] at h
    split at h
    · cases h
    · split at h
      · cases h
      · cases h
        refine ⟨rfl, ?_, fun hne => absurd rfl hne⟩
        rw [List.map_nil, List.sum_nil]
        omega
  | cons value rest ih =>
    rw [readChunks] at h
    split at h
    · cases h
    · next hbound =>
      obtain ⟨others, hothers, rfl⟩ := FallibleResults.map_ok_iff.mp h
      obtain ⟨rfl, hpositive, hle⟩ := ih hothers
      rw [List.map_cons, List.sum_cons]
      refine ⟨rfl, by omega, fun _ => ?_⟩
      rcases eq_or_ne others [] with rfl | hne
      · rw [List.map_nil, List.sum_nil]
        omega
      · have hrest := hle hne
        omega

/-- What is read is neither empty nor over the bound. -/
theorem readBoundedResponseBytes_ok {body : Body α} {maximumBytes : ℕ} {bytes : α}
    (h : readBoundedResponseBytes O body maximumBytes = .ok bytes) :
    1 ≤ B.byteLength bytes ∧ B.byteLength bytes ≤ maximumBytes := by
  cases body with
  | buffer bytes' =>
    rw [readBoundedResponseBytes] at h
    split at h
    · cases h
    · cases h
      omega
  | stream chunks broken =>
    obtain ⟨read, hread, rfl⟩ := FallibleResults.map_ok_iff.mp h
    obtain ⟨rfl, hpositive, hle⟩ := readChunks_ok hread
    rw [O.byteLength_join]
    rw [Nat.zero_add] at hpositive hle
    refine ⟨hpositive, hle fun hnil => ?_⟩
    rw [hnil, List.map_nil, List.sum_nil] at hpositive
    omega

theorem fetchBoundedJsonAsset_ok {timeoutMs maximumBytes : ℕ} {response : Option (Response α)} {bytes : α}
    (h : fetchBoundedJsonAsset O timeoutMs response maximumBytes = .ok bytes) :
    1 ≤ B.byteLength bytes ∧ B.byteLength bytes ≤ maximumBytes := by
  unfold fetchBoundedJsonAsset at h
  split at h
  · cases h
  · cases response with
    | none => cases h
    | some response =>
      dsimp only at h
      split at h
      · cases h
      · split at h
        · cases h
        · split at h
          · cases h
          · obtain ⟨read, hread, h⟩ := FallibleResults.bind_ok_iff.mp h
            split at h
            · cases h
            · split at h
              · cases h
              · cases h
                exact readBoundedResponseBytes_ok hread

/-! ## Cached bytes -/

/-- The lengths of the cached assets. -/
def cachedBytes (B : Bytes α) (assets : List (AssetKey × α)) : ℕ :=
  (assets.map fun entry => B.byteLength entry.2).sum

theorem cachedBytes_append (front back : List (AssetKey × α)) :
    cachedBytes B (front ++ back) = cachedBytes B front + cachedBytes B back := by
  rw [cachedBytes, List.map_append, List.sum_append]
  rfl

theorem cachedBytes_cons (entry : AssetKey × α) (rest : List (AssetKey × α)) :
    cachedBytes B (entry :: rest) = B.byteLength entry.2 + cachedBytes B rest := by
  rw [cachedBytes, List.map_cons, List.sum_cons]
  rfl

variable (B) in
/-- The oldest assets are dropped until there is room or nothing is left. -/
theorem evictAssets_spec (incoming : ℕ) (assets : List (AssetKey × α)) (assetBytes : ℤ) :
    ∃ dropped, assets = dropped ++ (evictAssets B incoming assets assetBytes).1 ∧
      (evictAssets B incoming assets assetBytes).2 = assetBytes - cachedBytes B dropped ∧
      ((evictAssets B incoming assets assetBytes).1 = [] ∨
        (evictAssets B incoming assets assetBytes).1.length < maxCachedGuidanceAssets ∧
          (evictAssets B incoming assets assetBytes).2 + incoming ≤ maxCachedGuidanceAssetBytes) := by
  induction assets generalizing assetBytes with
  | nil =>
    refine ⟨[], rfl, ?_, .inl rfl⟩
    exact (sub_zero assetBytes).symm
  | cons oldest rest ih =>
    rw [evictAssets]
    split
    · obtain ⟨dropped, hrest, hbytes, hroom⟩ := ih (assetBytes - B.byteLength oldest.2)
      refine ⟨oldest :: dropped, ?_, ?_, hroom⟩
      · rw [List.cons_append, ← hrest]
      · rw [hbytes, cachedBytes_cons]
        push_cast
        omega
    · next hroom =>
      rw [not_or, not_le, not_lt] at hroom
      exact ⟨[], rfl, (sub_zero assetBytes).symm, .inr hroom⟩

theorem cachedBytes_assign (key : AssetKey) (asset : α) (assets : List (AssetKey × α)) :
    cachedBytes B (assign key asset assets) + replacedBytes B assets key =
      cachedBytes B assets + B.byteLength asset := by
  induction assets with
  | nil =>
    rw [assign, cachedBytes_cons, replacedBytes, lookup, Option.elim_none, Nat.add_zero, Nat.add_comm]
  | cons entry rest ih =>
    obtain ⟨other, value⟩ := entry
    rw [replacedBytes, assign, lookup]
    split
    · rw [cachedBytes_cons, cachedBytes_cons, Option.elim_some]
      dsimp only
      omega
    · rw [replacedBytes] at ih
      rw [cachedBytes_cons, cachedBytes_cons]
      dsimp only
      omega

theorem length_assign_le (key : AssetKey) (asset : α) (assets : List (AssetKey × α)) :
    (assign key asset assets).length ≤ assets.length + 1 := by
  induction assets with
  | nil => exact le_rfl
  | cons entry rest ih =>
    rw [assign]
    split
    · exact Nat.le_succ _
    · exact Nat.succ_le_succ ih

theorem replacedBytes_le (key : AssetKey) (assets : List (AssetKey × α)) :
    replacedBytes B assets key ≤ cachedBytes B assets := by
  rw [replacedBytes]
  cases hfound : lookup key assets with
  | none => exact Nat.zero_le _
  | some asset =>
    have hmem := List.mem_map_of_mem (f := fun entry : AssetKey × α => B.byteLength entry.2)
      (mem_of_lookup hfound)
    exact List.le_sum_of_mem hmem

/-! ## The cache -/

/-- What is known of the cached assets and their counter. -/
structure CacheValid (B : Bytes α) (s : State α) : Prop where
  distinct : (s.assets.map Prod.fst).Nodup
  few : s.assets.length ≤ maxCachedGuidanceAssets
  small : cachedBytes B s.assets ≤ maxCachedGuidanceAssetBytes
  counted : s.assetBytes = cachedBytes B s.assets + s.overwritten
  drift : s.overwritten ≤ maxCachedGuidanceAssetBytes
  counter : s.assetBytes ≤ maxCachedGuidanceAssetBytes ∨ s.assets.length ≤ 1
  pinned : ∀ entry ∈ s.assets, B.sha256Digest entry.2 = entry.1.1.contentDigest

/-- Dropping the oldest assets keeps the cache valid, and leaves room where anything is left. -/
theorem CacheValid.evict {s : State α} (h : CacheValid B s) (incoming : ℕ) :
    CacheValid B { s with
      assets := (evictAssets B incoming s.assets s.assetBytes).1
      assetBytes := (evictAssets B incoming s.assets s.assetBytes).2 } := by
  obtain ⟨dropped, hsplit, hbytes, hroom⟩ := evictAssets_spec B incoming s.assets s.assetBytes
  have hsum : cachedBytes B s.assets = cachedBytes B dropped +
      cachedBytes B (evictAssets B incoming s.assets s.assetBytes).1 := by
    rw [← cachedBytes_append, ← hsplit]
  have hlength : s.assets.length = dropped.length +
      (evictAssets B incoming s.assets s.assetBytes).1.length := by
    rw [← List.length_append, ← hsplit]
  have hsublist : ((evictAssets B incoming s.assets s.assetBytes).1).Sublist s.assets := by
    conv_rhs => rw [hsplit]
    exact List.sublist_append_right _ _
  have hcounted := h.counted
  have hfew := h.few
  have hsmall := h.small
  refine ⟨(hsublist.map _).nodup h.distinct, ?_, ?_, ?_, h.drift, ?_, fun entry he =>
    h.pinned entry (hsublist.mem he)⟩
  · dsimp only
    omega
  · dsimp only
    omega
  · dsimp only
    omega
  · dsimp only
    rcases hroom with hnil | hroom
    · right
      rw [hnil]
      exact Nat.zero_le 1
    · left
      omega

/-- A remembered asset keeps the cache valid. -/
theorem CacheValid.remember {s : State α} (h : CacheValid B s) {i : ℕ} {key : AssetKey} {bytes : α}
    (hdigest : B.sha256Digest bytes = key.1.contentDigest) : CacheValid B (s.remember B i key bytes) := by
  have hevicted := h.evict (B.byteLength bytes)
  obtain ⟨dropped, hsplit, hbytes, hroom⟩ :=
    evictAssets_spec B (B.byteLength bytes) s.assets s.assetBytes
  rw [State.remember, rememberAsset]
  split
  · next hfits =>
    generalize hkept : evictAssets B (B.byteLength bytes) s.assets s.assetBytes = kept at *
    obtain ⟨assets, assetBytes⟩ := kept
    dsimp only at *
    have hsum := cachedBytes_assign (B := B) key bytes assets
    have hreplaced := replacedBytes_le (B := B) key assets
    have hlength := length_assign_le key bytes assets
    have hcounted := hevicted.counted
    have hdrift := hevicted.drift
    dsimp only at hcounted hdrift
    rcases hroom with rfl | ⟨hshort, hroom⟩
    · have hnone : replacedBytes B [] key = 0 := rfl
      have hnothing : cachedBytes B ([] : List (AssetKey × α)) = 0 := rfl
      refine ⟨nodup_assign hevicted.distinct, ?_, ?_, ?_, ?_, .inr hlength, ?_⟩
      · exact hlength.trans (Nat.succ_le_succ (Nat.zero_le 2047))
      · dsimp only
        omega
      · dsimp only
        push_cast
        omega
      · dsimp only
        omega
      · intro entry he
        rcases mem_assign he with rfl | he
        · exact hdigest
        · exact hevicted.pinned entry he
    · refine ⟨nodup_assign hevicted.distinct, ?_, ?_, ?_, ?_, ?_, ?_⟩
      · dsimp only
        omega
      · dsimp only
        omega
      · dsimp only
        push_cast
        omega
      · dsimp only
        omega
      · left
        dsimp only
        omega
      · intro entry he
        rcases mem_assign he with rfl | he
        · exact hdigest
        · exact hevicted.pinned entry he
  · exact ⟨hevicted.distinct, hevicted.few, hevicted.small, hevicted.counted, hevicted.drift,
      hevicted.counter, hevicted.pinned⟩

/-! ## The budgets -/

/-- What the fetches of a call have reserved while their responses are not read. -/
def reservedBy (l : ℕ) (f : Fetch α) : ℕ := if f.load = l ∧ f.bytes.isNone = true then f.maximumBytes else 0

def reserved (fetches : List (Fetch α)) (l : ℕ) : ℕ := (fetches.map (reservedBy l)).sum

theorem reserved_append (front back : List (Fetch α)) (l : ℕ) :
    reserved (front ++ back) l = reserved front l + reserved back l := by
  rw [reserved, List.map_append, List.sum_append]
  rfl

theorem reserved_eraseIdx {fetches : List (Fetch α)} {i : ℕ} {f : Fetch α} (h : fetches[i]? = some f)
    (l : ℕ) : reserved (fetches.eraseIdx i) l + reservedBy l f = reserved fetches l := by
  obtain ⟨hi, rfl⟩ := List.getElem?_eq_some_iff.mp h
  have hperm := (List.getElem_cons_eraseIdx_perm hi).map (reservedBy l)
  rw [reserved, reserved, ← hperm.sum_eq, List.map_cons, List.sum_cons]
  exact Nat.add_comm _ _

/-- The bytes of an asset that is checked are reserved no longer. -/
theorem reserved_awaiting (f : Fetch α) (bytes : α) (l : ℕ) : reserved (f.awaiting bytes) l = 0 := by
  rw [Fetch.awaiting]
  split
  · rw [reserved, List.map_singleton, List.sum_singleton, reservedBy]
    simp only [Option.isNone_some, Bool.false_eq_true, and_false, if_false]
  · rfl

/-- A budget is what is left of the aggregate after the returned assets and the reservations. -/
structure Balanced (fetches : List (Fetch α)) (l : ℕ) (load : Load) : Prop where
  aggregate : load.maximumAggregateBytes ≤ maxGuidanceRefreshBytes
  balance : load.remainingBytes + load.accepted + reserved fetches l = load.maximumAggregateBytes
  nonneg : 0 ≤ load.remainingBytes

/-- Every budget is balanced, and every fetch is of a call. -/
structure BudgetsValid (s : State α) : Prop where
  balanced : ∀ l load, s.loads[l]? = some load → Balanced s.fetches l load
  known : ∀ f ∈ s.fetches, f.load < s.loads.length

theorem reserved_unknown {fetches : List (Fetch α)} {l : ℕ} (h : ∀ f ∈ fetches, f.load ≠ l) :
    reserved fetches l = 0 := by
  rw [reserved, List.sum_eq_zero_iff]
  intro n hn
  obtain ⟨f, hf, rfl⟩ := List.mem_map.mp hn
  rw [reservedBy, if_neg fun hload => h f hf hload.1]

theorem BudgetsValid.load {s : State α} (h : BudgetsValid s) {maximumAggregateBytes timeoutMs : ℕ}
    (hvalid : validAggregate maximumAggregateBytes = true) :
    BudgetsValid { s with
      loads := s.loads ++ [⟨maximumAggregateBytes, timeoutMs, maximumAggregateBytes, 0⟩] } := by
  rw [validAggregate, Bool.and_eq_true, decide_eq_true_eq, decide_eq_true_eq] at hvalid
  refine ⟨fun l load hload => ?_, fun f hf => ?_⟩
  · rcases Nat.lt_or_ge l s.loads.length with hl | hl
    · rw [List.getElem?_append_left hl] at hload
      exact h.balanced l load hload
    · rw [List.getElem?_append_right hl, List.getElem?_singleton] at hload
      obtain ⟨hl', hnew⟩ := Option.ite_none_right_eq_some.mp hload
      cases hnew
      have hfree : reserved s.fetches l = 0 :=
        reserved_unknown fun f hf heq => absurd (h.known f hf) (by omega)
      refine ⟨hvalid.2, ?_, Int.natCast_nonneg _⟩
      dsimp only
      rw [hfree]
      omega
  · have hknown := h.known f hf
    rw [List.length_append, List.length_singleton]
    omega

theorem BudgetsValid.reserve {s : State α} (h : BudgetsValid s) {l maximumBytes : ℕ} {load : Load}
    {reference : Option VersionPinnedReference} (hload : s.loads[l]? = some load)
    (hleft : ¬ load.remainingBytes < maximumBytes) :
    BudgetsValid (s.reserve l load reference maximumBytes) := by
  have hl := (List.getElem?_eq_some_iff.mp hload).1
  refine ⟨fun k other hother => ?_, fun f hf => ?_⟩
  · dsimp only [State.reserve] at hother ⊢
    have hnew : reserved (s.fetches ++ [⟨l, reference, maximumBytes, none⟩]) k =
        reserved s.fetches k + if l = k then maximumBytes else 0 := by
      rw [reserved_append]
      congr 1
      rw [reserved, List.map_singleton, List.sum_singleton, reservedBy]
      simp only [Option.isNone_none, and_true]
    rw [List.getElem?_set] at hother
    split at hother
    · next hk =>
      subst hk
      cases hother
      have hbalance := (h.balanced l load hload).balance
      refine ⟨(h.balanced l load hload).aggregate, ?_, ?_⟩
      · dsimp only
        rw [hnew, if_pos rfl]
        push_cast
        omega
      · dsimp only
        omega
    · next hk =>
      have hbalanced := h.balanced k other hother
      refine ⟨hbalanced.aggregate, ?_, hbalanced.nonneg⟩
      rw [hnew, if_neg hk]
      exact hbalanced.balance
  · dsimp only [State.reserve] at hf ⊢
    rw [List.length_set]
    rcases List.mem_append.mp hf with hf | hf
    · exact h.known f hf
    · rw [List.mem_singleton.mp hf]
      exact hl

theorem BudgetsValid.receive {s : State α} (h : BudgetsValid s) {i length : ℕ} {f : Fetch α} {load : Load}
    {awaiting : List (Fetch α)} (hf : s.fetches[i]? = some f) (hpending : f.bytes = none)
    (hload : s.loads[f.load]? = some load) (hlength : length ≤ f.maximumBytes)
    (hawaiting : (∀ l, reserved awaiting l = 0) ∧ ∀ g ∈ awaiting, g.load = f.load) :
    BudgetsValid (s.receive i f load length awaiting) := by
  have hl := (List.getElem?_eq_some_iff.mp hload).1
  have hreserved : ∀ k, reserved (s.fetches.eraseIdx i ++ awaiting) k +
      (if f.load = k then f.maximumBytes else 0) = reserved s.fetches k := by
    intro k
    rw [reserved_append, hawaiting.1, Nat.add_zero, ← reserved_eraseIdx hf k, reservedBy, hpending]
    simp only [Option.isNone_none, and_true]
  refine ⟨fun k other hother => ?_, fun g hg => ?_⟩
  · dsimp only [State.receive] at hother ⊢
    have hk := hreserved k
    rw [List.getElem?_set] at hother
    split at hother
    · next hsame =>
      subst hsame
      cases hother
      have hbalanced := h.balanced f.load load hload
      have hbalance := hbalanced.balance
      have hnonneg := hbalanced.nonneg
      rw [if_pos rfl] at hk
      refine ⟨hbalanced.aggregate, ?_, ?_⟩
      · dsimp only
        push_cast
        omega
      · dsimp only
        omega
    · next hne =>
      have hbalanced := h.balanced k other hother
      rw [if_neg hne, Nat.add_zero] at hk
      exact ⟨hbalanced.aggregate, hk ▸ hbalanced.balance, hbalanced.nonneg⟩
  · dsimp only [State.receive] at hg ⊢
    rw [List.length_set]
    rcases List.mem_append.mp hg with hg | hg
    · exact h.known g (List.mem_of_mem_eraseIdx hg)
    · rw [hawaiting.2 g hg]
      exact hl

/-- A fetch whose bytes are read holds no reservation. -/
theorem BudgetsValid.drop {s : State α} (h : BudgetsValid s) {i : ℕ} {f : Fetch α} {bytes : α}
    (hf : s.fetches[i]? = some f) (hread : f.bytes = some bytes) {t : State α} (hloads : t.loads = s.loads)
    (hfetches : t.fetches = s.fetches.eraseIdx i) : BudgetsValid t := by
  refine ⟨fun l load hload => ?_, fun g hg => ?_⟩
  · rw [hloads] at hload
    have hbalanced := h.balanced l load hload
    have hsame : reserved t.fetches l = reserved s.fetches l := by
      rw [hfetches, ← reserved_eraseIdx hf l, reservedBy, hread]
      simp only [Option.isNone_some, Bool.false_eq_true, and_false, if_false, Nat.add_zero]
    exact ⟨hbalanced.aggregate, hsame ▸ hbalanced.balance, hbalanced.nonneg⟩
  · rw [hfetches] at hg
    rw [hloads]
    exact h.known g (List.mem_of_mem_eraseIdx hg)

/-! ## Runs -/

theorem CacheValid.of_same {s t : State α} (h : CacheValid B s) (hassets : t.assets = s.assets)
    (hbytes : t.assetBytes = s.assetBytes) (hover : t.overwritten = s.overwritten) : CacheValid B t := by
  refine ⟨hassets ▸ h.distinct, hassets ▸ h.few, hassets ▸ h.small, ?_, hover ▸ h.drift, ?_,
    hassets ▸ h.pinned⟩
  · rw [hbytes, hassets, hover]
    exact h.counted
  · rw [hbytes, hassets]
    exact h.counter

/-- The invariant of the calls and their cache. -/
structure Valid (B : Bytes α) (s : State α) : Prop where
  cache : CacheValid B s
  budgets : BudgetsValid s

theorem valid_empty : Valid B State.empty where
  cache := ⟨List.nodup_nil, Nat.zero_le _, Nat.zero_le _, rfl, Nat.zero_le _, .inr (Nat.zero_le _),
    fun _ he => absurd he List.not_mem_nil⟩
  budgets :=
    ⟨fun l _ hload => absurd ((List.getElem?_nil (i := l)).symm.trans hload) (Option.some_ne_none _).symm,
      fun _ hf => absurd hf List.not_mem_nil⟩

theorem Valid.request {s t : State α} (h : Valid B s) {l maximumBytes : ℕ}
    {reference : Option VersionPinnedReference}
    (hstep : step O s (.request l reference maximumBytes) = some t) : Valid B t := by
  obtain ⟨load, hload, hstep⟩ := Option.bind_eq_some_iff.mp hstep
  split at hstep
  · cases hstep
    exact h
  · split at hstep
    · cases hstep
      exact h
    · next hleft =>
      cases hstep
      exact ⟨h.cache.of_same rfl rfl rfl, h.budgets.reserve hload hleft⟩

theorem Valid.respond {s t : State α} (h : Valid B s) {i : ℕ} {response : Option (Response α)}
    (hstep : step O s (.respond i response) = some t) : Valid B t := by
  obtain ⟨f, hf, hstep⟩ := Option.bind_eq_some_iff.mp hstep
  obtain ⟨load, hload, hstep⟩ := Option.bind_eq_some_iff.mp hstep
  split at hstep
  · cases hstep
  · next hpending =>
    have hnone : f.bytes = none := by
      rwa [Bool.not_eq_true, Option.isSome_eq_false_iff, Option.isNone_iff_eq_none] at hpending
    split at hstep
    · cases hstep
      exact ⟨h.cache.of_same rfl rfl rfl, h.budgets.receive hf hnone hload (Nat.zero_le _)
        ⟨fun _ => rfl, fun _ hg => absurd hg List.not_mem_nil⟩⟩
    · next bytes hbytes =>
      cases hstep
      refine ⟨h.cache.of_same rfl rfl rfl, h.budgets.receive hf hnone hload
        (fetchBoundedJsonAsset_ok hbytes).2 ⟨reserved_awaiting f bytes, fun g hg => ?_⟩⟩
      rw [Fetch.awaiting] at hg
      split at hg
      · rw [List.mem_singleton.mp hg]
      · exact absurd hg List.not_mem_nil

theorem Valid.digest {s t : State α} (h : Valid B s) {i : ℕ}
    (hstep : step O s (.digest i) = some t) : Valid B t := by
  obtain ⟨f, hf, hstep⟩ := Option.bind_eq_some_iff.mp hstep
  obtain ⟨bytes, hbytes, hstep⟩ := Option.bind_eq_some_iff.mp hstep
  obtain ⟨reference, _, hstep⟩ := Option.bind_eq_some_iff.mp hstep
  split at hstep
  · next hdigest =>
    cases hstep
    exact ⟨h.cache.remember hdigest, h.budgets.drop hf hbytes rfl rfl⟩
  · cases hstep
    exact ⟨h.cache.of_same rfl rfl rfl, h.budgets.drop hf hbytes rfl rfl⟩

theorem Valid.step {s t : State α} (h : Valid B s) {event : Event α}
    (hstep : GuidanceBudgets.step O s event = some t) : Valid B t := by
  cases event with
  | load maximumAggregateBytes timeoutMs =>
    obtain ⟨hvalid, hnew⟩ := Option.ite_none_right_eq_some.mp hstep
    cases hnew
    exact ⟨h.cache.of_same rfl rfl rfl, h.budgets.load hvalid⟩
  | request l reference maximumBytes => exact h.request hstep
  | respond i response => exact h.respond hstep
  | digest i => exact h.digest hstep

theorem valid_of_reachable {s : State α} (h : (system O).Reachable s) : Valid B s :=
  h.invariant (P := Valid B) (fun s hs => by
    obtain rfl : s = State.empty := hs
    exact valid_empty) fun _ _ _ _ hvalid hstep => hvalid.step hstep

/-! ## Limits -/

/-- However the fetches of the calls overlap, fail and answer: a call never gets assets of more bytes
than its aggregate, and what it may still reserve is the aggregate less the bytes of these assets and
the maxima of its unanswered fetches. Nothing is lost or given back twice. -/
theorem budgets_are_kept {s : State α} (h : (system O).Reachable s) {l : ℕ} {load : Load}
    (hload : s.loads[l]? = some load) :
    load.accepted + reserved s.fetches l ≤ load.maximumAggregateBytes ∧
      load.maximumAggregateBytes ≤ maxGuidanceRefreshBytes ∧
      load.remainingBytes = load.maximumAggregateBytes - load.accepted - reserved s.fetches l ∧
      ((∀ f ∈ s.fetches, f.load = l → f.bytes.isSome = true) →
        load.remainingBytes = load.maximumAggregateBytes - load.accepted) := by
  have hbalanced := (valid_of_reachable h).budgets.balanced l load hload
  have hbalance := hbalanced.balance
  have hnonneg := hbalanced.nonneg
  refine ⟨by omega, hbalanced.aggregate, by omega, fun hanswered => ?_⟩
  have hfree : reserved s.fetches l = 0 := by
    rw [reserved, List.sum_eq_zero_iff]
    intro n hn
    obtain ⟨f, hf, rfl⟩ := List.mem_map.mp hn
    refine if_neg fun hpending => ?_
    have hsome := hanswered f hf hpending.1
    rw [Option.isNone_iff_eq_none.mp hpending.2] at hsome
    cases hsome
  omega

/-- However the fetches overlap, the cache never holds more than 2048 assets or 64 MiB, every asset
has the digest of its reference, and the counter is the sum of the cached lengths and of the lengths
of the assets that a second fetch of the same key replaced. That surplus stays below 64 MiB, and
the counter goes over the limit only while a single asset is cached. -/
theorem cache_is_bounded {s : State α} (h : (system O).Reachable s) :
    s.assets.length ≤ maxCachedGuidanceAssets ∧
      cachedBytes B s.assets ≤ maxCachedGuidanceAssetBytes ∧
      (∀ entry ∈ s.assets, B.sha256Digest entry.2 = entry.1.1.contentDigest) ∧
      s.assetBytes = cachedBytes B s.assets + s.overwritten ∧
      s.overwritten ≤ maxCachedGuidanceAssetBytes ∧
      (s.assetBytes ≤ maxCachedGuidanceAssetBytes ∨ s.assets.length ≤ 1) := by
  have hcache := (valid_of_reachable h).cache
  exact ⟨hcache.few, hcache.small, hcache.pinned, hcache.counted, hcache.drift, hcache.counter⟩

/-! ## Two fetches of one asset -/

def exampleOctets : Octets exampleBytes where
  join chunks := String.ofList (chunks.flatMap String.toList)
  isUtf8 _ := true
  isJson text := text ≠ "["
  byteLength_join chunks := by
    dsimp only [exampleBytes]
    rw [String.length_ofList, List.length_flatMap]
    rfl

/-- A reference and a response of one octet. -/
def octetReference : VersionPinnedReference := ⟨"", "", "a"⟩

def octetResponse : Option (Response String) :=
  some ⟨true, false, some "application/json".toList, some (some 1), .buffer "a"⟩

/-- A response whose body is read and then is no JSON. -/
def brokenResponse : Option (Response String) :=
  some ⟨true, false, some "application/json".toList, some (some 1), .buffer "["⟩

/-- Two fetches of one asset overlap, so that it is cached once and counted twice. A third one fails
after it has read its body, and a fourth is not answered. -/
def overlappingFetches : List (Event String) :=
  [.load 262144 5000, .request 0 (some octetReference) 16384, .request 0 (some octetReference) 16384,
    .request 0 none 1024, .request 0 none 2048, .respond 0 octetResponse, .respond 0 octetResponse,
    .respond 0 brokenResponse, .digest 1, .digest 1]

/-- The first budget and the counters of the cache. -/
def State.figures (s : State String) : Option (ℕ × ℕ) × ℤ × ℕ :=
  (s.loads[0]?.map fun load => (load.accepted, reserved s.fetches 0), s.assetBytes, s.overwritten)

theorem overlapping_reachable :
    ∃ s, (system exampleOctets).Reachable s ∧ s.figures = (some (2, 2048), 2, 1) := by
  have hrun : (runSteps (step exampleOctets) State.empty overlappingFetches).map State.figures =
      some (some (2, 2048), 2, 1) := by decide
  obtain ⟨s, hs, hfigures⟩ := Option.map_eq_some_iff.mp hrun
  exact ⟨s, reachable_runSteps overlappingFetches (.start rfl) hs, hfigures⟩

theorem budgets_are_kept_overlapping : ∃ (s : State String) (load : Load),
    (system exampleOctets).Reachable s ∧
    s.loads[0]? = some load ∧ load.accepted = 2 ∧ reserved s.fetches 0 = 2048 ∧
    load.accepted + reserved s.fetches 0 ≤ load.maximumAggregateBytes ∧
    load.remainingBytes = load.maximumAggregateBytes - load.accepted - reserved s.fetches 0 := by
  obtain ⟨s, hreachable, hfigures⟩ := overlapping_reachable
  obtain ⟨load, hload, hcounts⟩ := Option.map_eq_some_iff.mp (Prod.mk.inj hfigures).1
  obtain ⟨haccepted, hreserved⟩ := Prod.mk.inj hcounts
  obtain ⟨hbounded, _, hremaining, _⟩ := budgets_are_kept hreachable hload
  exact ⟨s, load, hreachable, hload, haccepted, hreserved, hbounded, hremaining⟩

theorem cache_is_bounded_overlapping : ∃ s : State String, (system exampleOctets).Reachable s ∧
    s.assetBytes = 2 ∧ s.overwritten = 1 ∧ s.assets.length ≤ maxCachedGuidanceAssets ∧
    cachedBytes exampleBytes s.assets ≤ maxCachedGuidanceAssetBytes ∧
    (∀ entry ∈ s.assets, exampleBytes.sha256Digest entry.2 = entry.1.1.contentDigest) ∧
    s.assetBytes = cachedBytes exampleBytes s.assets + s.overwritten := by
  obtain ⟨s, hreachable, hfigures⟩ := overlapping_reachable
  obtain ⟨hbytes, hoverwritten⟩ := Prod.mk.inj (Prod.mk.inj hfigures).2
  obtain ⟨hfew, hsmall, hpinned, hcounted, _⟩ := cache_is_bounded hreachable
  exact ⟨s, hreachable, hbytes, hoverwritten, hfew, hsmall, hpinned, hcounted⟩

end AthenaContext.GuidanceBudgets
