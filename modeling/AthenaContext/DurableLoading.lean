import AthenaContext.DurableRecords
import AthenaContext.FallibleResults

/-!
# Loading a partition

A transaction of the durable store reads all rows of its partition, decodes each
record and checks it against its row, its digest and the workload, puts the chunked
records together, walks the audit chain, and compares the rows with the anchor in the
state row. What passes is held as the dictionaries of the in-memory store.
-/

namespace AthenaContext.DurableLoading

open ContextRecords ContextStorage ContextMutations CohortDecisionRecords CohortDecisions
open DurableRecords OrdinalCollections Dictionaries FallibleResults

variable {γ δ : Type}

/-- The error classes of the durable store: `RuntimeError`, `ValueError`, and those of
the context and cohort API. -/
inductive DurableError
  | runtime (message : String)
  | value (message : String)
  | cohort (error : CohortError)
  deriving DecidableEq, Repr

/-- The row of a record in chunks. -/
structure ParentRow where
  kind : RecordKind
  rowKey : String
  chunkCount : ℕ
  recordDigest : String

/-- The row of one chunk. -/
structure ChunkRow where
  kind : RecordKind
  rowKey : String
  parentRowKey : String
  chunkIndex : ℕ
  recordJsonChunk : String
  recordDigest : String

/-- What has been read of a partition: its state, the records in one row, and the rows of
the records in chunks. -/
structure LoadedRows (γ δ : Type) where
  state : Option (ℕ × PartitionAnchor)
  store : Store γ δ CohortRecords
  parents : List ParentRow
  chunks : List ChunkRow

def LoadedRows.start : LoadedRows γ δ := ⟨none, .empty .empty, [], []⟩

/-- The kinds whose records may be in chunks. -/
def isChunked (kind : RecordKind) : Bool :=
  kind = .draftSelectorBaseline || kind = .cohortDecision

section Load

variable (E : StoreEncoding γ δ)

/-! ## Records -/

/-- The digests of some documents, when none of them raises. -/
def requireDigests (documents : List ArtifactDocument) : Except DurableError Unit :=
  match E.digestErrorOf documents with
  | some message => .error (.value message)
  | none => .ok ()

/-- The record that a JSON text holds, which must have the digest of its row. -/
def decodeJson (kind : RecordKind) (recordJson recordDigest : String) :
    Except DurableError (StoreRecord γ δ) :=
  match E.validateJson kind recordJson with
  | none => .error (.runtime "context store record does not match its schema")
  | some record =>
    if record.kind ≠ kind then
      .error (.runtime "context store record does not match its schema")
    else do
      requireDigests E [.record (E.canonicalJson record)]
      if E.recordDigest record ≠ recordDigest then
        .error (.runtime "context store record integrity digest is invalid")
      else pure record

/-- `_decode_model`. -/
def decodeModel (kind : RecordKind) (recordJson recordDigest : String) :
    Except DurableError (StoreRecord γ δ) :=
  if fitsTablePropertyBound recordJson = false then
    .error (.runtime "context store record is invalid or exceeds its bound")
  else decodeJson E kind recordJson recordDigest

/-- `_require_persisted_workload`. -/
def requirePersistedWorkload (manifestId : String) : Except DurableError Unit :=
  if manifestId ≠ E.workloadId then
    .error (.runtime "context store contains a record outside its configured workload")
  else .ok ()

/-- A record lies under its own row key, and is the first of its key. -/
def requireRegistration (rowKey : String) (record : StoreRecord γ δ) (registered : Bool)
    (message : String) : Except DurableError Unit := do
  requireDigests E (keyDocuments record)
  if E.rowKey record ≠ rowKey ∨ registered = true then .error (.runtime message) else .ok ()

/-- The checks of a record that was read, and the store that holds it. -/
def register (rowKey : String) (store : Store γ δ CohortRecords) :
    StoreRecord γ δ → Except DurableError (Store γ δ CohortRecords)
  | .draft draft => do
    requirePersistedWorkload E draft.manifestId
    requireRegistration E rowKey (.draft draft) (store.drafts.get? draft.draftId).isSome
      "context store draft key is invalid"
    pure { store with drafts := store.drafts.set draft.draftId draft }
  | .draftSelectorBaseline baseline => do
    requirePersistedWorkload E baseline.manifestId
    requireRegistration E rowKey (.draftSelectorBaseline baseline)
      (store.draftSelectorBaselines.get? baseline.draftId).isSome
      "context store draft selector baseline key is invalid"
    pure { store with
      draftSelectorBaselines := store.draftSelectorBaselines.set baseline.draftId baseline }
  | .published published => do
    requirePersistedWorkload E published.manifestId
    requireRegistration E rowKey (.published published)
      (store.published.get? (published.manifestId, published.manifestVersion)).isSome
      "context store published manifest key is invalid"
    pure { store with
      published := store.published.set (published.manifestId, published.manifestVersion) published }
  | .supersession supersession => do
    requirePersistedWorkload E supersession.manifestId
    requireRegistration E rowKey (.supersession supersession)
      (store.supersessions.get? (supersession.manifestId, supersession.supersededVersion)).isSome
      "context store supersession key is invalid"
    pure { store with
      supersessions := store.supersessions.set
        (supersession.manifestId, supersession.supersededVersion) supersession }
  | .audit event => do
    requirePersistedWorkload E event.manifestId
    requireRegistration E rowKey (.audit event) false "context store audit key is invalid"
    pure { store with audit := store.audit ++ [event] }
  | .receipt receipt => do
    requireRegistration E rowKey (.receipt receipt)
      (store.receipts.get? (receipt.actorId, receipt.idempotencyKey)).isSome
      "context store receipt key is invalid"
    pure { store with
      receipts := store.receipts.set (receipt.actorId, receipt.idempotencyKey) receipt }
  | .operationalContextReceipt receipt => do
    requireRegistration E rowKey (.operationalContextReceipt receipt)
      (store.operationalContextReceipts.get? receipt.receiptId).isSome
      "context store operational receipt key is invalid"
    requirePersistedWorkload E receipt.manifestId
    pure { store with
      operationalContextReceipts := store.operationalContextReceipts.set receipt.receiptId receipt }
  | .cohortDecision decision => do
    requirePersistedWorkload E decision.manifestId
    let version := decision.proposalSetVersion
    let versionKey := version.authoritySelectedIdentity E.normalizedIdentifier
    let decisionKey := (decision.manifestId, decision.decisionId)
    requireRegistration E rowKey (.cohortDecision decision)
      ((store.others.decisions.get? decisionKey).isSome ||
        (store.others.decisionVersions.get? versionKey).isSome ||
        !(overlappingDecisions E.normalizedIdentifier store.others version).isEmpty)
      "context store cohort decision key or authority is invalid"
    pure { store with others :=
      { store.others with
        decisions := store.others.decisions.set decisionKey decision
        decisionVersions := store.others.decisionVersions.set versionKey decisionKey } }
  | .cohortDecisionReceipt receipt => do
    requireRegistration E rowKey (.cohortDecisionReceipt receipt)
      (store.others.decisionReceipts.get? (receipt.actorId, receipt.idempotencyKey)).isSome
      "context store cohort decision receipt key is invalid"
    requirePersistedWorkload E receipt.manifestId
    pure { store with others :=
      { store.others with
        decisionReceipts := store.others.decisionReceipts.set
          (receipt.actorId, receipt.idempotencyKey) receipt } }

/-! ## Rows -/

/-- `_load_state`. -/
def loadState (loaded : LoadedRows γ δ) : StoreEntity → Except DurableError (LoadedRows γ δ)
  | .state generation anchor =>
    if loaded.state ≠ none then
      .error (.runtime "context store commit generation is invalid")
    else if generation < 1 then .error (.runtime "context store generation is invalid")
    else .ok { loaded with state := some (generation, anchor) }
  | _ => .error (.runtime "context store commit generation is invalid")

/-- One row of the loop of `_load_models`. -/
def loadRow (loaded : LoadedRows γ δ) (row : String × StoreEntity) :
    Except DurableError (LoadedRows γ δ) :=
  if row.1 = stateRowKey then loadState loaded row.2
  else
    match row.2 with
    | .state _ _ => .error (.runtime "context store contains an unknown entity kind")
    | .record kind recordJson recordDigest => do
      let record ← decodeModel E kind recordJson recordDigest
      let store ← register E row.1 loaded.store record
      pure { loaded with store := store }
    | .chunked kind chunkCount recordDigest =>
      if isChunked kind then
        .ok { loaded with
          parents := loaded.parents ++ [⟨kind, row.1, chunkCount, recordDigest⟩] }
      else .error (.runtime "context store record is invalid or exceeds its bound")
    | .chunk kind parentRowKey chunkIndex recordJsonChunk recordDigest =>
      if isChunked kind then
        .ok { loaded with
          chunks := loaded.chunks ++
            [⟨kind, row.1, parentRowKey, chunkIndex, recordJsonChunk, recordDigest⟩] }
      else .error (.runtime "context store contains an unknown entity kind")

/-! ## Chunks -/

/-- What one chunk of a record must be. -/
def ChunkValid (parent : ParentRow) (chunk : ChunkRow) : Prop :=
  chunk.chunkIndex < parent.chunkCount ∧ fitsTablePropertyBound chunk.recordJsonChunk = true ∧
    chunk.rowKey = E.chunkRowKey parent.kind parent.rowKey chunk.chunkIndex ∧
    chunk.recordDigest =
      E.artifactDigest (.chunk parent.rowKey chunk.chunkIndex chunk.recordJsonChunk)

instance (parent : ParentRow) (chunk : ChunkRow) : Decidable (ChunkValid E parent chunk) := by
  unfold ChunkValid
  infer_instance

/-- `_decode_chunked_…`: as many distinct chunks as the row says, joined in their order. -/
def decodeChunked (parent : ParentRow) (chunks : List ChunkRow) :
    Except DurableError (StoreRecord γ δ) :=
  if parent.chunkCount < 1 ∨ 94 < parent.chunkCount ∨ chunks.length ≠ parent.chunkCount then
    .error (.runtime "context store chunk metadata is invalid")
  else do
    requireDigests E (chunks.flatMap fun chunk =>
      chunkDocuments parent.kind parent.rowKey chunk.chunkIndex chunk.recordJsonChunk)
    if ¬ (chunks.map ChunkRow.chunkIndex).Nodup ∨ ∃ chunk ∈ chunks, ¬ ChunkValid E parent chunk then
      .error (.runtime "context store chunk is invalid")
    else
      decodeJson E parent.kind
        (String.join ((sortOn ChunkRow.chunkIndex chunks).map ChunkRow.recordJsonChunk))
        parent.recordDigest

/-- The chunks of a record in chunks. -/
def chunksOf (loaded : LoadedRows γ δ) (parent : ParentRow) : List ChunkRow :=
  loaded.chunks.filter fun chunk =>
    chunk.kind = parent.kind ∧ chunk.parentRowKey = parent.rowKey

/-- The records in chunks of one kind, in the order of their rows; no chunk is left
without its record. -/
def loadChunked (kind : RecordKind) (loaded : LoadedRows γ δ) :
    Except DurableError (LoadedRows γ δ) := do
  let parents := loaded.parents.filter fun parent => parent.kind = kind
  let store ← (sortOn ParentRow.rowKey parents).foldlM (fun store parent => do
    let record ← decodeChunked E parent (chunksOf loaded parent)
    register E parent.rowKey store record) loaded.store
  if ∃ chunk ∈ loaded.chunks, chunk.kind = kind ∧
      chunk.parentRowKey ∉ parents.map ParentRow.rowKey then
    .error (.runtime "context store contains orphan chunks")
  else pure { loaded with store := store }

/-! ## The partition -/

/-- `_require_receipt_workload` of a stored receipt; its target names a workload or a
draft. -/
def requireReceiptWorkload (store : Store γ δ CohortRecords)
    (receipt : MutationReceipt (CanonicalWorkloadManifest δ)) : Except DurableError Unit :=
  match receipt.target.manifestId with
  | some manifestId => requirePersistedWorkload E manifestId
  | none =>
    match receipt.target.draftId.bind store.drafts.get? with
    | none => .error (.runtime "context store receipt does not resolve to its workload draft")
    | some draft => requirePersistedWorkload E draft.manifestId

/-- The checks behind the loop of `_load_models`. -/
def checkLoaded (rows : List (String × StoreEntity)) (loaded : LoadedRows γ δ) :
    Except DurableError (ℕ × Store γ δ CohortRecords) := do
  match loaded.state with
  | none => .error (.runtime "context store has state without a commit generation")
  | some (generation, anchor) => do
    let audit := sortOn (fun event => event.sequence) loaded.store.audit
    let _ ← (verifyAuditChain E.auditEventDigest audit).mapError
      fun error => DurableError.cohort (contextError error)
    loaded.store.receipts.values.forM (requireReceiptWorkload E loaded.store)
    requireDigests E [E.partitionDocument rows audit generation]
    if anchor ≠ E.partitionAnchor rows audit generation then
      .error (.runtime "context store state anchor does not match its partition")
    else pure (generation, { loaded.store with audit := audit })

/-- `_load_models`: the generation of the state row, and the records. -/
def loadModels (rows : List (String × StoreEntity)) :
    Except DurableError (ℕ × Store γ δ CohortRecords) := do
  if rows = [] then
    .error (.runtime
      "context store continuity root is absent; explicit initialization is required")
  else do
    let loaded ← rows.foldlM (loadRow E) .start
    let loaded ← loadChunked E .draftSelectorBaseline loaded
    let loaded ← loadChunked E .cohortDecision loaded
    checkLoaded E rows loaded

end Load

/-! ## What was loaded -/

/-- The store holds the record under its key. -/
def Holds (store : Store γ δ CohortRecords) : StoreRecord γ δ → Prop
  | .draft draft => store.drafts.get? draft.draftId = some draft
  | .draftSelectorBaseline baseline =>
    store.draftSelectorBaselines.get? baseline.draftId = some baseline
  | .published published =>
    store.published.get? (published.manifestId, published.manifestVersion) = some published
  | .supersession supersession => store.supersessions.get?
      (supersession.manifestId, supersession.supersededVersion) = some supersession
  | .audit event => event ∈ store.audit
  | .receipt receipt =>
    store.receipts.get? (receipt.actorId, receipt.idempotencyKey) = some receipt
  | .operationalContextReceipt receipt =>
    store.operationalContextReceipts.get? receipt.receiptId = some receipt
  | .cohortDecision decision =>
    store.others.decisions.get? (decision.manifestId, decision.decisionId) = some decision
  | .cohortDecisionReceipt receipt => store.others.decisionReceipts.get?
      (receipt.actorId, receipt.idempotencyKey) = some receipt

variable {E : StoreEncoding γ δ} {rowKey : String} {store store' : Store γ δ CohortRecords}
  {record r : StoreRecord γ δ}

theorem requireRegistration_ok {registered : Bool} {message : String}
    (h : requireRegistration E rowKey record registered message = .ok ()) :
    E.rowKey record = rowKey := by
  simp only [requireRegistration, bind_ok_iff, ite_error_ok_iff, not_or, not_not] at h
  obtain ⟨_, -, ⟨hkey, -⟩, -⟩ := h
  exact hkey

/-- A record is held that was assigned to its key, or was held before. -/
theorem holds_set {κ α : Type} [DecidableEq κ] {d : Dictionary κ α} {k j : κ} {v w : α}
    (h : (d.set k v).get? j = some w) : d.get? j = some w ∨ w = v := by
  rw [Dictionary.get?_set] at h
  split at h
  · exact .inr (Option.some.inj h).symm
  · exact .inl h

/-- A registered record lies under its own row key; the store then holds it and what it
held before. -/
theorem register_ok (h : register E rowKey store record = .ok store') :
    E.rowKey record = rowKey ∧ ∀ r, Holds store' r → Holds store r ∨ r = record := by
  cases record <;> simp only [register, bind_ok_iff, pure_ok_iff] at h
  case draft draft =>
    obtain ⟨_, _, _, hreg, rfl⟩ := h
    refine ⟨requireRegistration_ok hreg, fun r hr => ?_⟩
    cases r with
    | draft other => exact (holds_set hr).imp id (congrArg StoreRecord.draft)
    | _ => exact .inl hr
  case draftSelectorBaseline baseline =>
    obtain ⟨_, _, _, hreg, rfl⟩ := h
    refine ⟨requireRegistration_ok hreg, fun r hr => ?_⟩
    cases r with
    | draftSelectorBaseline other =>
      exact (holds_set hr).imp id (congrArg StoreRecord.draftSelectorBaseline)
    | _ => exact .inl hr
  case published published =>
    obtain ⟨_, _, _, hreg, rfl⟩ := h
    refine ⟨requireRegistration_ok hreg, fun r hr => ?_⟩
    cases r with
    | published other => exact (holds_set hr).imp id (congrArg StoreRecord.published)
    | _ => exact .inl hr
  case supersession supersession =>
    obtain ⟨_, _, _, hreg, rfl⟩ := h
    refine ⟨requireRegistration_ok hreg, fun r hr => ?_⟩
    cases r with
    | supersession other => exact (holds_set hr).imp id (congrArg StoreRecord.supersession)
    | _ => exact .inl hr
  case audit event =>
    obtain ⟨_, _, _, hreg, rfl⟩ := h
    refine ⟨requireRegistration_ok hreg, fun r hr => ?_⟩
    cases r with
    | audit other =>
      rcases List.mem_append.mp hr with hold | hnew
      · exact .inl hold
      · exact .inr (congrArg StoreRecord.audit (List.mem_singleton.mp hnew))
    | _ => exact .inl hr
  case receipt receipt =>
    obtain ⟨_, hreg, rfl⟩ := h
    refine ⟨requireRegistration_ok hreg, fun r hr => ?_⟩
    cases r with
    | receipt other => exact (holds_set hr).imp id (congrArg StoreRecord.receipt)
    | _ => exact .inl hr
  case operationalContextReceipt receipt =>
    obtain ⟨_, hreg, _, _, rfl⟩ := h
    refine ⟨requireRegistration_ok hreg, fun r hr => ?_⟩
    cases r with
    | operationalContextReceipt other =>
      exact (holds_set hr).imp id (congrArg StoreRecord.operationalContextReceipt)
    | _ => exact .inl hr
  case cohortDecision decision =>
    obtain ⟨_, _, _, hreg, rfl⟩ := h
    refine ⟨requireRegistration_ok hreg, fun r hr => ?_⟩
    cases r with
    | cohortDecision other => exact (holds_set hr).imp id (congrArg StoreRecord.cohortDecision)
    | _ => exact .inl hr
  case cohortDecisionReceipt receipt =>
    obtain ⟨_, hreg, _, _, rfl⟩ := h
    refine ⟨requireRegistration_ok hreg, fun r hr => ?_⟩
    cases r with
    | cohortDecisionReceipt other =>
      exact (holds_set hr).imp id (congrArg StoreRecord.cohortDecisionReceipt)
    | _ => exact .inl hr

/-- Registering appends an audit event, and leaves the audit history alone otherwise. -/
theorem register_audit (h : register E rowKey store record = .ok store') :
    (∃ event, record = .audit event ∧ store'.audit = store.audit ++ [event]) ∨
      record.kind ≠ .audit ∧ store'.audit = store.audit := by
  cases record <;> simp only [register, bind_ok_iff, pure_ok_iff] at h
  case audit event =>
    obtain ⟨_, _, _, _, rfl⟩ := h
    exact .inl ⟨event, rfl, rfl⟩
  case receipt receipt =>
    obtain ⟨_, _, rfl⟩ := h
    exact .inr ⟨by simp [StoreRecord.kind], rfl⟩
  all_goals
    obtain ⟨_, _, _, _, rfl⟩ := h
    exact .inr ⟨by simp [StoreRecord.kind], rfl⟩

/-- A decoded record has the kind and the digest of its row. -/
theorem decodeJson_ok {kind : RecordKind} {recordJson recordDigest : String}
    (h : decodeJson E kind recordJson recordDigest = .ok record) :
    record.kind = kind ∧ E.recordDigest record = recordDigest := by
  unfold decodeJson at h
  split at h
  · cases h
  · simp only [ite_error_ok_iff, bind_ok_iff, pure_ok_iff, not_not] at h
    obtain ⟨hkind, _, -, hdigest, rfl⟩ := h
    exact ⟨hkind, hdigest⟩

theorem decodeModel_ok {kind : RecordKind} {recordJson recordDigest : String}
    (h : decodeModel E kind recordJson recordDigest = .ok record) :
    record.kind = kind ∧ E.recordDigest record = recordDigest := by
  simp only [decodeModel, ite_error_ok_iff] at h
  exact decodeJson_ok h.2

theorem decodeChunked_ok {parent : ParentRow} {chunks : List ChunkRow}
    (h : decodeChunked E parent chunks = .ok record) :
    record.kind = parent.kind ∧ E.recordDigest record = parent.recordDigest := by
  simp only [decodeChunked, ite_error_ok_iff, bind_ok_iff] at h
  obtain ⟨-, _, -, -, h⟩ := h
  exact decodeJson_ok h

/-- A row is the row of a record: it has the record's key, kind and digest. -/
def IsRowOf (E : StoreEncoding γ δ) (record : StoreRecord γ δ) (row : String × StoreEntity) :
    Prop :=
  row.1 = E.rowKey record ∧ row.2.commitment = (record.kind.value, E.recordDigest record)

/-- Every record that was read so far has a row, and so has every record in chunks that
is still to be read. -/
structure RowsBehind (E : StoreEncoding γ δ) (rows : List (String × StoreEntity))
    (loaded : LoadedRows γ δ) : Prop where
  records : ∀ record, Holds loaded.store record → ∃ row ∈ rows, IsRowOf E record row
  parents : ∀ parent ∈ loaded.parents,
    (parent.rowKey, .chunked parent.kind parent.chunkCount parent.recordDigest) ∈ rows
  state : ∀ generation anchor, loaded.state = some (generation, anchor) →
    (stateRowKey, .state generation anchor) ∈ rows

theorem rowsBehind_start (rows : List (String × StoreEntity)) : RowsBehind E rows .start := by
  constructor
  · intro record h
    cases record <;> simp [Holds, LoadedRows.start, ContextStore.empty, CohortRecords.empty] at h
  · intro parent h
    cases h
  · intro generation anchor h
    cases h

theorem rowsBehind_loadRow {rows : List (String × StoreEntity)} {loaded next : LoadedRows γ δ}
    {row : String × StoreEntity} (hrow : row ∈ rows) (hs : RowsBehind E rows loaded)
    (h : loadRow E loaded row = .ok next) : RowsBehind E rows next := by
  obtain ⟨key, entity⟩ := row
  unfold loadRow at h
  split at h
  · rename_i hkey
    have hkey : key = stateRowKey := hkey
    unfold loadState at h
    cases entity with
    | state generation anchor =>
      simp only [ite_error_ok_iff, Except.ok.injEq] at h
      obtain ⟨-, -, rfl⟩ := h
      refine ⟨hs.records, hs.parents, fun g a hga => ?_⟩
      have hga : (generation, anchor) = (g, a) := Option.some.inj hga
      cases hga
      exact hkey ▸ hrow
    | record => cases h
    | chunked => cases h
    | chunk => cases h
  · cases entity with
    | state => cases h
    | record kind recordJson recordDigest =>
      simp only [bind_ok_iff, pure_ok_iff] at h
      obtain ⟨record, hdecode, store, hregister, rfl⟩ := h
      obtain ⟨hkind, hdigest⟩ := decodeModel_ok hdecode
      obtain ⟨hkey, hholds⟩ := register_ok hregister
      refine ⟨fun r hr => ?_, hs.parents, hs.state⟩
      rcases hholds r hr with hold | rfl
      · exact hs.records r hold
      · refine ⟨_, hrow, hkey.symm, ?_⟩
        rw [hkind, hdigest]
        rfl
    | chunked kind chunkCount recordDigest =>
      dsimp only at h
      split at h
      · cases h
        refine ⟨hs.records, fun parent hp => ?_, hs.state⟩
        rcases List.mem_append.mp hp with hold | hnew
        · exact hs.parents parent hold
        · rw [List.mem_singleton.mp hnew]
          exact hrow
      · cases h
    | chunk kind parentRowKey chunkIndex recordJsonChunk recordDigest =>
      dsimp only at h
      split at h
      · cases h
        exact ⟨hs.records, hs.parents, hs.state⟩
      · cases h

theorem rowsBehind_loadChunked {rows : List (String × StoreEntity)}
    {loaded next : LoadedRows γ δ} {kind : RecordKind} (hs : RowsBehind E rows loaded)
    (h : loadChunked E kind loaded = .ok next) : RowsBehind E rows next := by
  simp only [loadChunked, bind_ok_iff, ite_error_ok_iff, pure_ok_iff] at h
  obtain ⟨store, hfold, -, rfl⟩ := h
  refine ⟨?_, hs.parents, hs.state⟩
  refine foldlM_invariant (P := fun store => ∀ record, Holds store record →
    ∃ row ∈ rows, IsRowOf E record row) ?_ hs.records hfold
  intro store parent hp store' hstore hstep r hr
  simp only [bind_ok_iff] at hstep
  obtain ⟨record, hdecode, hregister⟩ := hstep
  obtain ⟨hkind, hdigest⟩ := decodeChunked_ok hdecode
  obtain ⟨hkey, hholds⟩ := register_ok hregister
  rcases hholds r hr with hold | rfl
  · exact hstore r hold
  · have hp : parent ∈ loaded.parents := (List.mem_filter.mp (mem_sortOn.mp hp)).1
    refine ⟨_, hs.parents parent hp, hkey.symm, ?_⟩
    rw [hkind, hdigest]
    rfl

/-! ## The audit history -/

/-- The events of an intact history are numbered from the first one on. -/
theorem verifyAuditChainFrom_sequences {auditEventDigest : AuditEventDigest}
    {events : List AuditEvent} {sequence : ℕ} {previous : Option String}
    (h : verifyAuditChainFrom auditEventDigest sequence previous events = .ok ()) :
    events.map (fun event => event.sequence) = List.range' sequence events.length := by
  induction events generalizing sequence previous with
  | nil => rfl
  | cons event rest ih =>
    obtain ⟨⟨hsequence, _⟩, hrest⟩ := verifyAuditChainFrom_cons.mp h
    rw [List.map_cons, List.length_cons, List.range'_succ, hsequence, ih hrest]

/-- The events that rows hold are read. -/
structure ReadsEvents (rows : List (String × StoreEntity)) (audit : List AuditEvent) : Prop where
  read : ∀ rowKey recordJson recordDigest, rowKey ≠ stateRowKey →
    (rowKey, .record .audit recordJson recordDigest) ∈ rows →
      ∃ event ∈ audit, auditRowKey event.sequence = rowKey

theorem loadRow_audit {loaded next : LoadedRows γ δ} {row : String × StoreEntity}
    (h : loadRow E loaded row = .ok next) :
    (∀ event ∈ loaded.store.audit, event ∈ next.store.audit) ∧
      ReadsEvents [row] next.store.audit := by
  obtain ⟨key, entity⟩ := row
  unfold loadRow at h
  split at h
  · rename_i hkey
    have hkey : key = stateRowKey := hkey
    refine ⟨?_, ⟨fun rowKey _ _ hne hrow => ?_⟩⟩
    · unfold loadState at h
      cases entity with
      | state generation anchor =>
        simp only [ite_error_ok_iff, Except.ok.injEq] at h
        obtain ⟨-, -, rfl⟩ := h
        exact fun event hevent => hevent
      | record => cases h
      | chunked => cases h
      | chunk => cases h
    · have hrow := congrArg Prod.fst (List.mem_singleton.mp hrow)
      exact absurd (hrow.trans hkey) hne
  · cases entity with
    | state => cases h
    | record kind recordJson recordDigest =>
      simp only [bind_ok_iff, pure_ok_iff] at h
      obtain ⟨record, hdecode, store, hregister, rfl⟩ := h
      obtain ⟨hkind, _⟩ := decodeModel_ok hdecode
      obtain ⟨hkey, _⟩ := register_ok hregister
      rcases register_audit hregister with ⟨event, rfl, haudit⟩ | ⟨hother, haudit⟩
      · refine ⟨fun e he => ?_, ⟨fun rowKey _ _ _ hrow => ⟨event, ?_, ?_⟩⟩⟩
        · exact haudit ▸ List.mem_append_left _ he
        · exact haudit ▸ List.mem_append_right _ (List.mem_singleton.mpr rfl)
        · have hrow := congrArg Prod.fst (List.mem_singleton.mp hrow)
          exact hkey.trans hrow.symm
      · refine ⟨fun e he => haudit ▸ he, ⟨fun rowKey _ _ _ hrow => ?_⟩⟩
        have hrow := congrArg Prod.snd (List.mem_singleton.mp hrow)
        cases hrow
        exact absurd hkind hother
    | chunked kind chunkCount recordDigest =>
      dsimp only at h
      split at h
      · cases h
        refine ⟨fun e he => he, ⟨fun rowKey _ _ _ hrow => ?_⟩⟩
        cases congrArg Prod.snd (List.mem_singleton.mp hrow)
      · cases h
    | chunk kind parentRowKey chunkIndex recordJsonChunk recordDigest =>
      dsimp only at h
      split at h
      · cases h
        refine ⟨fun e he => he, ⟨fun rowKey _ _ _ hrow => ?_⟩⟩
        cases congrArg Prod.snd (List.mem_singleton.mp hrow)
      · cases h

theorem loadRows_audit {rows : List (String × StoreEntity)} {loaded result : LoadedRows γ δ}
    (h : rows.foldlM (loadRow E) loaded = .ok result) :
    (∀ event ∈ loaded.store.audit, event ∈ result.store.audit) ∧
      ReadsEvents rows result.store.audit := by
  induction rows generalizing loaded with
  | nil =>
    have he : loaded = result := by simpa [pure, Except.pure] using h
    subst he
    exact ⟨fun event hevent => hevent, ⟨fun _ _ _ _ hrow => by cases hrow⟩⟩
  | cons row rest ih =>
    rw [List.foldlM_cons, bind_ok_iff] at h
    obtain ⟨next, hrow, hrest⟩ := h
    obtain ⟨hkeep, hread⟩ := loadRow_audit hrow
    obtain ⟨hkeepRest, hreadRest⟩ := ih hrest
    refine ⟨fun event hevent => hkeepRest event (hkeep event hevent), ⟨?_⟩⟩
    intro rowKey recordJson recordDigest hne hmem
    rcases List.mem_cons.mp hmem with rfl | hmem
    · obtain ⟨event, hevent, hkey⟩ := hread.read _ _ _ hne (List.mem_singleton.mpr rfl)
      exact ⟨event, hkeepRest event hevent, hkey⟩
    · exact hreadRest.read _ _ _ hne hmem

/-- Records in chunks are not audit events. -/
theorem loadChunked_audit {loaded next : LoadedRows γ δ} {kind : RecordKind} (hk : kind ≠ .audit)
    (h : loadChunked E kind loaded = .ok next) : next.store.audit = loaded.store.audit := by
  simp only [loadChunked, bind_ok_iff, ite_error_ok_iff, pure_ok_iff] at h
  obtain ⟨store, hfold, -, rfl⟩ := h
  refine foldlM_invariant (P := fun store => store.audit = loaded.store.audit) ?_ rfl hfold
  intro store parent hp store' hstore hstep
  simp only [bind_ok_iff] at hstep
  obtain ⟨record, hdecode, hregister⟩ := hstep
  obtain ⟨hkind, _⟩ := decodeChunked_ok hdecode
  have hp := (List.mem_filter.mp (mem_sortOn.mp hp)).2
  rcases register_audit hregister with ⟨event, rfl, _⟩ | ⟨_, haudit⟩
  · have hkind : RecordKind.audit = parent.kind := hkind
    exact absurd (hkind.trans (of_decide_eq_true hp)).symm hk
  · exact haudit.trans hstore

/-! ## A partition that loads -/

/-- What a load that returned says of the rows: the state row commits exactly these rows
at its generation, each record that is held has its row, and the audit events are
numbered without a gap. -/
structure Loaded (E : StoreEncoding γ δ) (rows : List (String × StoreEntity)) (generation : ℕ)
    (store : Store γ δ CohortRecords) : Prop where
  state : (stateRowKey, .state generation (E.partitionAnchor rows store.audit generation)) ∈ rows
  records : ∀ record, Holds store record → ∃ row ∈ rows, IsRowOf E record row
  sequences : store.audit.map (fun event => event.sequence) = List.range' 1 store.audit.length
  events : ReadsEvents rows store.audit

theorem loadModels_ok {rows : List (String × StoreEntity)} {generation : ℕ}
    (h : loadModels E rows = .ok (generation, store)) : Loaded E rows generation store := by
  simp only [loadModels, ite_error_ok_iff, bind_ok_iff] at h
  obtain ⟨-, first, hfirst, second, hsecond, third, hthird, h⟩ := h
  have hrows : RowsBehind E rows first :=
    foldlM_invariant (fun _ _ hrow _ hs hstep => rowsBehind_loadRow hrow hs hstep)
      (rowsBehind_start rows) hfirst
  have hrows := rowsBehind_loadChunked (rowsBehind_loadChunked hrows hsecond) hthird
  have hread := (loadRows_audit hfirst).2
  rw [← loadChunked_audit (by decide) hsecond, ← loadChunked_audit (by decide) hthird] at hread
  unfold checkLoaded at h
  split at h
  · cases h
  · rename_i found anchor hstate
    simp only [bind_ok_iff, ite_error_ok_iff, pure_ok_iff, not_not, Prod.mk.injEq] at h
    obtain ⟨_, hchain, _, -, _, -, hanchor, rfl, rfl⟩ := h
    have hchain : verifyAuditChain E.auditEventDigest
        (sortOn (fun event => event.sequence) third.store.audit) = .ok () := by
      cases hv : verifyAuditChain E.auditEventDigest
          (sortOn (fun event => event.sequence) third.store.audit) with
      | error e =>
        rw [hv] at hchain
        cases hchain
      | ok u => rfl
    refine ⟨?_, ?_, verifyAuditChainFrom_sequences hchain, ⟨?_⟩⟩
    · rw [← hanchor]
      exact hrows.state _ _ hstate
    · intro record hholds
      refine hrows.records record ?_
      cases record with
      | audit event => exact mem_sortOn.mp hholds
      | _ => exact hholds
    · intro rowKey recordJson recordDigest hne hmem
      obtain ⟨event, hevent, hkey⟩ := hread.read _ _ _ hne hmem
      exact ⟨event, mem_sortOn.mpr hevent, hkey⟩

end AthenaContext.DurableLoading
