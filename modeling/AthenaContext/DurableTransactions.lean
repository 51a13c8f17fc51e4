import AthenaContext.ConditionalTables
import AthenaContext.DurableLoading

/-!
# Transactions of the durable store

A transaction holds the loaded records, and stages a row for every record that it puts:
new rows, and new content of draft rows. Its commit is one conditional batch: rows that
must not be there, draft rows that must be as they were read, and the state row, which
must be the one that was read and gets the next generation.
-/

namespace AthenaContext.DurableTransactions

open ContextRecords ContextStorage ContextMutations CohortDecisionRecords CohortDecisions
open DurableRecords DurableLoading OrdinalCollections Dictionaries FallibleResults Transactions
open ConditionalTables

variable {γ δ : Type}

/-- A transaction: the rows that it read, their generation, the records with its own
changes, and the rows it stages. -/
structure DurableState (γ δ : Type) where
  persisted : Dictionary String (StoreEntity × ℕ)
  generation : ℕ
  store : Store γ δ CohortRecords
  creates : Dictionary String StoreEntity
  updates : Dictionary String StoreEntity

abbrev DurableTransaction (γ δ : Type) := Transaction (DurableState γ δ) DurableError

/-- The rows without their tokens. -/
def entitiesOf (rows : List (String × StoreEntity × ℕ)) : List (String × StoreEntity) :=
  rows.map fun row => (row.1, row.2.1)

/-- `__enter__`: a scan of the partition within its bound, and its records. -/
def enter (E : StoreEncoding γ δ) (rows : List (String × StoreEntity × ℕ)) :
    Except DurableError (DurableState γ δ) :=
  if 4096 < rows.length then
    .error (.runtime "context store partition exceeds its safe entity bound")
  else if h : (rows.map Prod.fst).Nodup then do
    let (generation, store) ← loadModels E (entitiesOf rows)
    pure
      { persisted := ⟨rows, h⟩
        generation := generation
        store := store
        creates := .empty
        updates := .empty }
  else .error (.runtime "context store returned duplicate row keys")

/-- An operation of the in-memory store on the records. -/
def onStore {ε α : Type} (f : ε → DurableError) (x : Transaction (Store γ δ CohortRecords) ε α) :
    DurableTransaction γ δ α := fun s =>
  match runFrom x s.store with
  | (.ok a, store) => (.ok a, { s with store := store })
  | (.error e, _) => (.error (f e), s)

/-- An error of the context API in the durable store. -/
def durableContextError (error : ContextError) : DurableError := .cohort (contextError error)

section Staging

variable (E : StoreEncoding γ δ)

/-- `_require_workload`. -/
def requireWorkload (manifestId : String) : DurableTransaction γ δ Unit :=
  raiseIf (manifestId ≠ E.workloadId) (durableContextError
    ⟨.authorizationDenied, "context store does not serve the requested workload"⟩)

/-- `_stage_create`. -/
def stageCreate (rowKey : String) (entity : StoreEntity) : DurableTransaction γ δ Unit := do
  let s ← reading id
  raiseIf ((s.persisted.get? rowKey).isSome = true ∨ (s.creates.get? rowKey).isSome = true)
    (.runtime "context store attempted to recreate an existing entity")
  writing fun s => { s with creates := s.creates.set rowKey entity }

/-- `_stage_update`. -/
def stageUpdate (rowKey : String) (entity : StoreEntity) : DurableTransaction γ δ Unit := do
  let s ← reading id
  raiseIf ((s.persisted.get? rowKey).isSome = false)
    (.runtime "context store attempted to update a missing entity")
  writing fun s => { s with updates := s.updates.set rowKey entity }

/-- The digests of some documents, when none of them raises. -/
def stageDigests (documents : List ArtifactDocument) : DurableTransaction γ δ Unit :=
  raiseIf ((E.digestErrorOf documents).isSome = true)
    (.value ((E.digestErrorOf documents).getD ""))

/-- The bound of `_record_entity`, and the digests of its row. -/
def requireRecordBound (record : StoreRecord γ δ) : DurableTransaction γ δ Unit := do
  raiseIf (fitsTablePropertyBound (E.dumpJson record) = false)
    (.value "context store record exceeds the Azure Table property bound")
  stageDigests E (E.recordDocuments record)

/-- A new record in one row. -/
def stageRecord (record : StoreRecord γ δ) : DurableTransaction γ δ Unit := do
  requireRecordBound E record
  stageCreate (E.rowKey record) (E.recordEntity record)

/-- The chunks of a record, from an index on. -/
def stageChunks (kind : RecordKind) (parentRowKey : String) (index : ℕ) :
    List String → DurableTransaction γ δ Unit
  | [] => pure ()
  | value :: rest => do
    stageDigests E (chunkDocuments kind parentRowKey index value)
    stageCreate (E.chunkRowKey kind parentRowKey index)
      (E.chunkEntity kind parentRowKey index value)
    stageChunks kind parentRowKey (index + 1) rest

/-- `_stage_chunked_…`. -/
def stageChunked (record : StoreRecord γ δ) : DurableTransaction γ δ Unit := do
  let chunks := splitRecordJson (E.dumpJson record)
  raiseIf (chunks = []) (.value "context store chunked record is empty")
  raiseIf (94 < chunks.length) (.value "context store record exceeds its chunk bound")
  stageDigests E (E.recordDocuments record)
  stageCreate (E.rowKey record) (.chunked record.kind chunks.length (E.recordDigest record))
  stageChunks E record.kind (E.rowKey record) 0 chunks

/-- `_require_receipt_workload` of a receipt that is put. -/
def requireReceiptTarget (receipt : MutationReceipt (CanonicalWorkloadManifest δ)) :
    DurableTransaction γ δ Unit :=
  match receipt.target.manifestId with
  | some manifestId => requireWorkload E manifestId
  | none => do
    let store ← reading fun s => s.store
    let draft ← orRaise (receipt.target.draftId.bind store.drafts.get?) (durableContextError
      ⟨.resourceNotFound, "draft was not found for its idempotency receipt"⟩)
    requireWorkload E draft.manifestId

/-! ## Writes -/

/-- A write of a transaction. -/
inductive StoreWrite (γ δ : Type)
  | putDraft (draft : Draft γ) (expectedRevision : Option ℕ)
  | putDraftSelectorBaseline (baseline : DraftSelectorBaseline)
  | putPublished (published : PublishedManifest (Manifest γ))
  | putSupersession (supersession : Supersession)
  | appendAudit (event : PendingAuditEvent)
  | putReceipt (receipt : MutationReceipt (CanonicalWorkloadManifest δ))
  | putOperationalContextReceipt (receipt : OperationalContextReceipt)
  | putCohortDecision (decision : CohortDecisionRecord)
  | putCohortDecisionReceipt (receipt : CohortDecisionReceipt)

/-- `put_draft`. -/
def putDraft (draft : Draft γ) (expectedRevision : Option ℕ) : DurableTransaction γ δ Unit := do
  requireWorkload E draft.manifestId
  let current ← reading fun s => s.store.drafts.get? draft.draftId
  onStore durableContextError (ContextStorage.putDraft draft expectedRevision)
  requireRecordBound E (.draft draft)
  match current with
  | none => stageCreate (E.rowKey (.draft draft)) (E.recordEntity (.draft draft))
  | some _ => stageUpdate (E.rowKey (.draft draft)) (E.recordEntity (.draft draft))

/-- `append_audit`: the event with its place in the history is staged. -/
def appendAudit (event : PendingAuditEvent) : DurableTransaction γ δ Unit := do
  requireWorkload E event.manifestId
  onStore durableContextError (ContextStorage.appendAudit E.auditEventDigest event)
  let audit ← reading fun s => s.store.audit
  match audit.getLast? with
  | none => pure ()
  | some stored => stageRecord E (.audit stored)

/-- The `put_…` and `append_…` operations of the transaction. -/
def StoreWrite.run : StoreWrite γ δ → DurableTransaction γ δ Unit
  | .putDraft draft expectedRevision => DurableTransactions.putDraft E draft expectedRevision
  | .putDraftSelectorBaseline baseline => do
    requireWorkload E baseline.manifestId
    onStore durableContextError (ContextStorage.putDraftSelectorBaseline baseline)
    stageChunked E (.draftSelectorBaseline baseline)
  | .putPublished published => do
    requireWorkload E published.manifestId
    onStore durableContextError (ContextStorage.putPublished published)
    stageRecord E (.published published)
  | .putSupersession supersession => do
    requireWorkload E supersession.manifestId
    onStore durableContextError (ContextStorage.putSupersession supersession)
    stageRecord E (.supersession supersession)
  | .appendAudit event => DurableTransactions.appendAudit E event
  | .putReceipt receipt => do
    requireReceiptTarget E receipt
    onStore durableContextError (ContextStorage.putReceipt receipt)
    stageRecord E (.receipt receipt)
  | .putOperationalContextReceipt receipt => do
    requireWorkload E receipt.manifestId
    onStore durableContextError (ContextStorage.putOperationalContextReceipt receipt)
    stageRecord E (.operationalContextReceipt receipt)
  | .putCohortDecision decision => do
    requireWorkload E decision.manifestId
    onStore .cohort (CohortDecisions.putCohortDecision E.normalizedIdentifier decision)
    stageChunked E (.cohortDecision decision)
  | .putCohortDecisionReceipt receipt => do
    requireWorkload E receipt.manifestId
    onStore .cohort (CohortDecisions.putCohortDecisionReceipt receipt)
    stageRecord E (.cohortDecisionReceipt receipt)

/-- The writes of a transaction, one after the other. -/
def runWrites : List (StoreWrite γ δ) → DurableTransaction γ δ Unit
  | [] => pure ()
  | write :: rest => do
    write.run E
    runWrites rest

/-- The receipt that a write puts. -/
def StoreWrite.receipt : StoreWrite γ δ → Option (StoreRecord γ δ)
  | .putReceipt receipt => some (.receipt receipt)
  | .putOperationalContextReceipt receipt => some (.operationalContextReceipt receipt)
  | .putCohortDecisionReceipt receipt => some (.cohortDecisionReceipt receipt)
  | _ => none

/-- The receipts of a transaction, each of which uses up a key. -/
def receiptsOf (writes : List (StoreWrite γ δ)) : List (StoreRecord γ δ) :=
  writes.filterMap StoreWrite.receipt

/-! ## The commit -/

/-- The rows of the partition after the commit, beside the new state row. -/
def committedEntities (s : DurableState γ δ) : Dictionary String StoreEntity :=
  ((s.persisted.mapValues Prod.fst).update s.creates).update s.updates

/-- The state row of the next generation. -/
def nextState (s : DurableState γ δ) : StoreEntity :=
  .state (s.generation + 1)
    (E.partitionAnchor (committedEntities s).entries s.store.audit (s.generation + 1))

/-- The operations of the batch. -/
def commitOperations (s : DurableState γ δ) : List (TableWrite String StoreEntity) :=
  (sortOn Prod.fst s.creates.entries).map (fun entry => .create entry.1 entry.2) ++
    (sortOn Prod.fst s.updates.entries).filterMap (fun entry =>
      (s.persisted.get? entry.1).map fun row => .replace entry.1 row.2 entry.2) ++
    [match s.persisted.get? stateRowKey with
      | some row => .replace stateRowKey row.2 (nextState E s)
      | none => .create stateRowKey (nextState E s)]

/-- `_commit`, up to its batch request. -/
def commitBatch (s : DurableState γ δ) :
    Except DurableError (List (TableWrite String StoreEntity)) :=
  if 4096 < (committedEntities s).keys.length then
    .error (.runtime
      "context store transaction exceeds the Azure Table partition entity limit")
  else if 100 < (commitOperations E s).length then
    .error (.runtime "context store transaction exceeds Azure Table batch limit")
  else do
    requireDigests E [E.partitionDocument (committedEntities s).entries s.store.audit
      (s.generation + 1)]
    pure (commitOperations E s)

/-- The state row that `initialize_empty_partition` creates. -/
def bootstrapBatch : List (TableWrite String StoreEntity) :=
  [.create stateRowKey (.state 1 (E.partitionAnchor [] [] 1))]

/-- `_dirty`. -/
def isDirty (s : DurableState γ δ) : Bool := !s.creates.keys.isEmpty || !s.updates.keys.isEmpty

end Staging

/-! ## What a transaction stages -/

/-- The row of an audit event. -/
def isAudit : StoreEntity → Bool
  | .record kind _ _ => kind = .audit
  | _ => false

/-- A row that the store writes under a key beside the state row: a record in one row, a
record in chunks, or a chunk. -/
def WrittenRow (E : StoreEncoding γ δ) (rowKey : String) (entity : StoreEntity) : Prop :=
  (∃ record, rowKey = E.rowKey record ∧ (entity = E.recordEntity record ∨
    isChunked record.kind = true ∧
      ∃ chunkCount, entity = .chunked record.kind chunkCount (E.recordDigest record))) ∨
  ∃ kind parentRowKey chunkIndex value, rowKey = E.chunkRowKey kind parentRowKey chunkIndex ∧
    entity = E.chunkEntity kind parentRowKey chunkIndex value

/-- The row of a draft. -/
def DraftRow (E : StoreEncoding γ δ) (rowKey : String) (entity : StoreEntity) : Prop :=
  ∃ draft, rowKey = E.rowKey (.draft draft) ∧ entity = E.recordEntity (.draft draft)

variable {E : StoreEncoding γ δ} {s t u : DurableState γ δ} {rowKey : String}
  {entity : StoreEntity} {record : StoreRecord γ δ}

theorem DraftRow.written (h : DraftRow E rowKey entity) : WrittenRow E rowKey entity := by
  obtain ⟨draft, hkey, hentity⟩ := h
  exact .inl ⟨.draft draft, hkey, .inl hentity⟩

theorem isAudit_recordEntity : isAudit (E.recordEntity record) = decide (record.kind = .audit) :=
  rfl

/-- What a transaction does between two of its states: it keeps what it read and staged,
stages new rows under keys without a row and drafts over rows that it read, and stages
the events that it appends, numbered behind the ones before them. -/
structure Stages (E : StoreEncoding γ δ) (s t : DurableState γ δ) : Prop where
  persisted_eq : t.persisted = s.persisted
  generation_eq : t.generation = s.generation
  kept : ∀ k e, s.creates.get? k = some e → t.creates.get? k = some e
  created : ∀ k e, t.creates.get? k = some e → s.creates.get? k = some e ∨
    s.persisted.get? k = none ∧ WrittenRow E k e ∧
      (isAudit e = true → ∃ event ∈ t.store.audit,
        s.store.audit.length < event.sequence ∧ k = auditRowKey event.sequence)
  updated : ∀ k e, t.updates.get? k = some e → s.updates.get? k = some e ∨
    DraftRow E k e ∧ (s.persisted.get? k).isSome = true
  history : ∃ appended, t.store.audit = s.store.audit ++ appended ∧
    appended.map (fun event => event.sequence) =
      List.range' (s.store.audit.length + 1) appended.length ∧
    ∀ event ∈ appended, t.creates.get? (auditRowKey event.sequence) =
      some (E.recordEntity (.audit event))

theorem Stages.refl (s : DurableState γ δ) : Stages E s s where
  persisted_eq := rfl
  generation_eq := rfl
  kept _ _ h := h
  created _ _ h := .inl h
  updated _ _ h := .inl h
  history := ⟨[], by simp⟩

theorem Stages.trans (h : Stages E s t) (k : Stages E t u) : Stages E s u := by
  obtain ⟨appended, haudit, hnumbers, hstaged⟩ := h.history
  obtain ⟨later, haudit', hnumbers', hstaged'⟩ := k.history
  have hlength : t.store.audit.length = s.store.audit.length + appended.length := by
    rw [haudit, List.length_append]
  constructor
  case persisted_eq => exact k.persisted_eq.trans h.persisted_eq
  case generation_eq => exact k.generation_eq.trans h.generation_eq
  case kept => exact fun key e he => k.kept key e (h.kept key e he)
  case created =>
    intro key e he
    rcases k.created key e he with hold | ⟨hnone, hwritten, hevent⟩
    · rcases h.created key e hold with hold | ⟨hnone, hwritten, hevent⟩
      · exact .inl hold
      · refine .inr ⟨hnone, hwritten, fun ha => ?_⟩
        obtain ⟨event, hmem, hlt, hkey⟩ := hevent ha
        exact ⟨event, haudit' ▸ List.mem_append_left _ hmem, hlt, hkey⟩
    · refine .inr ⟨h.persisted_eq ▸ hnone, hwritten, fun ha => ?_⟩
      obtain ⟨event, hmem, hlt, hkey⟩ := hevent ha
      exact ⟨event, hmem, by omega, hkey⟩
  case updated =>
    intro key e he
    rcases k.updated key e he with hold | ⟨hdraft, hsome⟩
    · exact h.updated key e hold
    · exact .inr ⟨hdraft, h.persisted_eq ▸ hsome⟩
  case history =>
    refine ⟨appended ++ later, ?_, ?_, ?_⟩
    · rw [haudit', haudit, List.append_assoc]
    · rw [List.map_append, hnumbers, hnumbers', hlength, List.length_append,
        ← List.range'_append_1, show s.store.audit.length + 1 + appended.length =
          s.store.audit.length + appended.length + 1 by omega]
    · intro event hevent
      rcases List.mem_append.mp hevent with hold | hnew
      · exact k.kept _ _ (hstaged event hold)
      · exact hstaged' event hnew

/-- A change of the records that appends no event. -/
theorem Stages.of_store {store : Store γ δ CohortRecords} (h : store.audit = s.store.audit) :
    Stages E s { s with store := store } where
  persisted_eq := rfl
  generation_eq := rfl
  kept _ _ h := h
  created _ _ h := .inl h
  updated _ _ h := .inl h
  history := ⟨[], by simp [h]⟩

/-! ## The operations -/

theorem returns_onStore {ε α : Type} {f : ε → DurableError}
    {x : Transaction (Store γ δ CohortRecords) ε α} {a : α} :
    Returns (onStore f x) s a t ↔
      ∃ store, Returns x s.store a store ∧ t = { s with store := store } := by
  have hx : runFrom (onStore f x) s = match runFrom x s.store with
      | (.ok a, store) => (.ok a, { s with store := store })
      | (.error e, _) => (.error (f e), s) := rfl
  unfold Returns
  rw [hx]
  cases h : runFrom x s.store with
  | mk r store =>
    cases r with
    | error e => simp
    | ok b =>
      constructor
      · intro hp
        obtain ⟨hb, ht⟩ := Prod.mk.inj hp
        exact ⟨store, by rw [Except.ok.inj hb], ht.symm⟩
      · rintro ⟨store', hp, rfl⟩
        obtain ⟨hb, hstore⟩ := Prod.mk.inj hp
        rw [Except.ok.inj hb, hstore]

theorem returns_requireWorkload {manifestId : String} {r : Unit} :
    Returns (requireWorkload E manifestId) s r t ↔ manifestId = E.workloadId ∧ s = t := by
  rw [requireWorkload, returns_raiseIf, ne_eq, not_not]

theorem returns_stageDigests {documents : List ArtifactDocument} {r : Unit}
    (h : Returns (stageDigests E documents) s r t) : s = t :=
  (returns_raiseIf.mp h).2

theorem returns_requireRecordBound {r : Unit}
    (h : Returns (requireRecordBound E record) s r t) : s = t := by
  simp only [requireRecordBound, returns_bind, returns_raiseIf] at h
  obtain ⟨_, _, ⟨-, rfl⟩, h⟩ := h
  exact returns_stageDigests h

theorem returns_stageCreate {r : Unit} (h : Returns (stageCreate rowKey entity) s r t) :
    s.persisted.get? rowKey = none ∧ s.creates.get? rowKey = none ∧
      t = { s with creates := s.creates.set rowKey entity } := by
  simp only [stageCreate, returns_bind, returns_reading, returns_raiseIf, returns_writing] at h
  obtain ⟨found, _, ⟨hfound, rfl⟩, _, _, ⟨hnew, rfl⟩, rfl⟩ := h
  have hfound : s = found := hfound
  subst hfound
  simp only [not_or, Bool.not_eq_true, Option.isSome_eq_false_iff, Option.isNone_iff_eq_none]
    at hnew
  exact ⟨hnew.1, hnew.2, rfl⟩

theorem returns_stageUpdate {r : Unit} (h : Returns (stageUpdate rowKey entity) s r t) :
    (s.persisted.get? rowKey).isSome = true ∧
      t = { s with updates := s.updates.set rowKey entity } := by
  simp only [stageUpdate, returns_bind, returns_reading, returns_raiseIf, returns_writing] at h
  obtain ⟨found, _, ⟨hfound, rfl⟩, _, _, ⟨hsome, rfl⟩, rfl⟩ := h
  have hfound : s = found := hfound
  subst hfound
  exact ⟨(Bool.not_eq_false _).mp hsome, rfl⟩

/-- A new row that is not an audit event. -/
theorem stages_stageCreate {r : Unit} (hw : WrittenRow E rowKey entity)
    (ha : isAudit entity = false) (h : Returns (stageCreate rowKey entity) s r t) :
    Stages E s t := by
  obtain ⟨hpersisted, hnew, rfl⟩ := returns_stageCreate h
  constructor
  case persisted_eq => rfl
  case generation_eq => rfl
  case kept =>
    intro k e he
    rw [Dictionary.get?_set_of_ne]
    · exact he
    · rintro rfl
      rw [hnew] at he
      cases he
  case created =>
    intro k e he
    rw [Dictionary.get?_set] at he
    split at he
    · rename_i hk
      cases he
      rw [hk]
      exact .inr ⟨hpersisted, hw, fun h => by rw [ha] at h; cases h⟩
    · exact .inl he
  case updated => exact fun k e he => .inl he
  case history => exact ⟨[], by simp⟩

/-- New content of a draft row. -/
theorem stages_stageUpdate {r : Unit} (hd : DraftRow E rowKey entity)
    (h : Returns (stageUpdate rowKey entity) s r t) : Stages E s t := by
  obtain ⟨hsome, rfl⟩ := returns_stageUpdate h
  constructor
  case persisted_eq => rfl
  case generation_eq => rfl
  case kept => exact fun k e he => he
  case created => exact fun k e he => .inl he
  case updated =>
    intro k e he
    rw [Dictionary.get?_set] at he
    split at he
    · rename_i hk
      cases he
      rw [hk]
      exact .inr ⟨hd, hsome⟩
    · exact .inl he
  case history => exact ⟨[], by simp⟩

/-- A record in one row that is not an audit event. -/
theorem stages_stageRecord {r : Unit} (hk : record.kind ≠ .audit)
    (h : Returns (stageRecord E record) s r t) :
    Stages E s t ∧ s.persisted.get? (E.rowKey record) = none ∧
      s.creates.get? (E.rowKey record) = none ∧
      t.creates.get? (E.rowKey record) = some (E.recordEntity record) := by
  simp only [stageRecord, returns_bind] at h
  obtain ⟨_, u, hbound, h⟩ := h
  obtain rfl := returns_requireRecordBound hbound
  have hstages := stages_stageCreate (E := E) (.inl ⟨record, rfl, .inl rfl⟩)
    (by simpa [isAudit_recordEntity] using hk) h
  obtain ⟨hpersisted, hnew, rfl⟩ := returns_stageCreate h
  exact ⟨hstages, hpersisted, hnew, Dictionary.get?_set_self⟩

theorem stages_stageChunks {kind : RecordKind} {parentRowKey : String} {index : ℕ}
    {values : List String} {r : Unit}
    (h : Returns (stageChunks E kind parentRowKey index values) s r t) : Stages E s t := by
  induction values generalizing s index with
  | nil =>
    obtain ⟨_, hs⟩ := returns_pure.mp h
    exact hs ▸ .refl s
  | cons value rest ih =>
    simp only [stageChunks, returns_bind] at h
    obtain ⟨_, u, hdigests, _, v, hcreate, hrest⟩ := h
    obtain rfl := returns_stageDigests hdigests
    have hfirst := stages_stageCreate (E := E) (.inr ⟨kind, parentRowKey, index, value, rfl, rfl⟩)
      rfl hcreate
    exact hfirst.trans (ih hrest)

theorem stages_stageChunked {r : Unit} (hk : isChunked record.kind = true)
    (h : Returns (stageChunked E record) s r t) : Stages E s t := by
  simp only [stageChunked, returns_bind, returns_raiseIf] at h
  obtain ⟨_, _, ⟨-, rfl⟩, _, _, ⟨-, rfl⟩, _, u, hdigests, _, v, hcreate, hrest⟩ := h
  obtain rfl := returns_stageDigests hdigests
  have hfirst := stages_stageCreate (E := E)
    (.inl ⟨record, rfl, .inr ⟨hk, _, rfl⟩⟩) rfl hcreate
  exact hfirst.trans (stages_stageChunks hrest)

/-- An appended event follows the history and is staged under its number. -/
theorem stages_appendAudit {event : PendingAuditEvent} {r : Unit}
    (h : Returns (DurableTransactions.appendAudit E event) s r t) : Stages E s t := by
  simp only [DurableTransactions.appendAudit, returns_bind, returns_requireWorkload,
    returns_onStore, returns_reading] at h
  obtain ⟨_, _, ⟨-, rfl⟩, _, _, ⟨store, happend, rfl⟩, audit, _, ⟨haudit, rfl⟩, h⟩ := h
  obtain ⟨eventDigest, _, _, hstore⟩ := returns_appendAudit happend
  have haudit : s.store.audit ++ [linkedEvent event s.store.audit eventDigest] = audit := by
    rw [← haudit, hstore]
  have hlast : audit.getLast? = some (linkedEvent event s.store.audit eventDigest) := by
    rw [← haudit, List.getLast?_concat]
  rw [hlast] at h
  simp only [stageRecord, returns_bind] at h
  obtain ⟨_, u, hbound, hcreate⟩ := h
  obtain rfl := returns_requireRecordBound hbound
  obtain ⟨hpersisted, hnew, rfl⟩ := returns_stageCreate hcreate
  have hmem : linkedEvent event s.store.audit eventDigest ∈ store.audit := by
    rw [hstore]
    exact List.mem_append_right _ (List.mem_singleton.mpr rfl)
  constructor
  case persisted_eq => rfl
  case generation_eq => rfl
  case kept =>
    intro k e he
    rw [Dictionary.get?_set_of_ne]
    · exact he
    · rintro rfl
      rw [hnew] at he
      cases he
  case created =>
    intro k e he
    rw [Dictionary.get?_set] at he
    split at he
    · rename_i hk
      cases he
      rw [hk]
      refine .inr ⟨hpersisted, .inl ⟨_, rfl, .inl rfl⟩, fun _ => ⟨_, hmem, ?_, rfl⟩⟩
      exact Nat.lt_succ_self _
    · exact .inl he
  case updated => exact fun k e he => .inl he
  case history =>
    refine ⟨[linkedEvent event s.store.audit eventDigest], ?_, rfl, ?_⟩
    · rw [hstore]
    · intro other hother
      rw [List.mem_singleton.mp hother]
      exact Dictionary.get?_set_self

theorem stages_putDraft {draft : Draft γ} {expectedRevision : Option ℕ} {r : Unit}
    (h : Returns (DurableTransactions.putDraft E draft expectedRevision) s r t) :
    Stages E s t := by
  simp only [DurableTransactions.putDraft, returns_bind, returns_requireWorkload,
    returns_onStore, returns_reading] at h
  obtain ⟨_, _, ⟨-, rfl⟩, current, _, ⟨-, rfl⟩, _, _, ⟨store, hput, rfl⟩, _, _, hbound, h⟩ := h
  have haudit : store.audit = s.store.audit := by
    cases expectedRevision with
    | none => exact (returns_putDraft_new.mp hput).2 ▸ rfl
    | some expected => exact (returns_putDraft.mp hput).2 ▸ rfl
  have hstore := Stages.of_store (E := E) haudit
  obtain rfl := returns_requireRecordBound hbound
  cases current with
  | none =>
    exact hstore.trans (stages_stageCreate (.inl ⟨.draft draft, rfl, .inl rfl⟩) rfl h)
  | some found => exact hstore.trans (stages_stageUpdate ⟨draft, rfl, rfl⟩ h)

/-- A check of a receipt's target changes nothing. -/
theorem returns_requireReceiptTarget {receipt : MutationReceipt (CanonicalWorkloadManifest δ)}
    {r : Unit} (h : Returns (requireReceiptTarget E receipt) s r t) : s = t := by
  unfold requireReceiptTarget at h
  split at h
  · exact (returns_requireWorkload.mp h).2
  · simp only [returns_bind, returns_reading, returns_orRaise, returns_requireWorkload] at h
    obtain ⟨_, _, ⟨-, rfl⟩, _, _, ⟨-, rfl⟩, -, rfl⟩ := h
    rfl

/-- Every write stages its rows. -/
theorem stages_write {write : StoreWrite γ δ} {r : Unit} (h : Returns (write.run E) s r t) :
    Stages E s t := by
  cases write with
  | putDraft draft expectedRevision => exact stages_putDraft h
  | appendAudit event => exact stages_appendAudit h
  | putDraftSelectorBaseline baseline =>
    simp only [StoreWrite.run, returns_bind, returns_requireWorkload, returns_onStore,
      returns_putDraftSelectorBaseline] at h
    obtain ⟨_, _, ⟨-, rfl⟩, _, _, ⟨store, ⟨-, rfl⟩, rfl⟩, h⟩ := h
    refine Stages.trans ?_ (stages_stageChunked rfl h)
    exact .of_store rfl
  | putPublished published =>
    simp only [StoreWrite.run, returns_bind, returns_requireWorkload, returns_onStore,
      returns_putPublished] at h
    obtain ⟨_, _, ⟨-, rfl⟩, _, _, ⟨store, ⟨-, rfl⟩, rfl⟩, h⟩ := h
    refine Stages.trans ?_ (stages_stageRecord (by simp [StoreRecord.kind]) h).1
    exact .of_store rfl
  | putSupersession supersession =>
    simp only [StoreWrite.run, returns_bind, returns_requireWorkload, returns_onStore,
      returns_putSupersession] at h
    obtain ⟨_, _, ⟨-, rfl⟩, _, _, ⟨store, ⟨-, rfl⟩, rfl⟩, h⟩ := h
    refine Stages.trans ?_ (stages_stageRecord (by simp [StoreRecord.kind]) h).1
    exact .of_store rfl
  | putReceipt receipt =>
    simp only [StoreWrite.run, returns_bind, returns_onStore, returns_putReceipt] at h
    obtain ⟨_, u, htarget, _, _, ⟨store, ⟨-, rfl⟩, rfl⟩, h⟩ := h
    obtain rfl := returns_requireReceiptTarget htarget
    refine Stages.trans ?_ (stages_stageRecord (by simp [StoreRecord.kind]) h).1
    exact .of_store rfl
  | putOperationalContextReceipt receipt =>
    simp only [StoreWrite.run, returns_bind, returns_requireWorkload, returns_onStore,
      returns_putOperationalContextReceipt] at h
    obtain ⟨_, _, ⟨-, rfl⟩, _, _, ⟨store, ⟨-, rfl⟩, rfl⟩, h⟩ := h
    refine Stages.trans ?_ (stages_stageRecord (by simp [StoreRecord.kind]) h).1
    exact .of_store rfl
  | putCohortDecision decision =>
    simp only [StoreWrite.run, returns_bind, returns_requireWorkload, returns_onStore] at h
    obtain ⟨_, _, ⟨-, rfl⟩, _, _, ⟨store, hput, rfl⟩, h⟩ := h
    obtain ⟨_, _, _, hstore⟩ := returns_putCohortDecision hput
    have haudit : store.audit = s.store.audit := by rw [hstore]
    exact (Stages.of_store haudit).trans (stages_stageChunked rfl h)
  | putCohortDecisionReceipt receipt =>
    simp only [StoreWrite.run, returns_bind, returns_requireWorkload, returns_onStore] at h
    obtain ⟨_, _, ⟨-, rfl⟩, _, _, ⟨store, hput, rfl⟩, h⟩ := h
    obtain ⟨_, hstore⟩ := returns_putCohortDecisionReceipt hput
    have haudit : store.audit = s.store.audit := by rw [hstore]
    exact (Stages.of_store haudit).trans (stages_stageRecord (by simp [StoreRecord.kind]) h).1

/-- A whole transaction stages its rows. -/
theorem stages_runWrites {writes : List (StoreWrite γ δ)} {r : Unit}
    (h : Returns (runWrites E writes) s r t) : Stages E s t := by
  induction writes generalizing s with
  | nil =>
    obtain ⟨_, hs⟩ := returns_pure.mp h
    exact hs ▸ .refl s
  | cons write rest ih =>
    simp only [runWrites, returns_bind] at h
    obtain ⟨_, u, hwrite, hrest⟩ := h
    exact (stages_write hwrite).trans (ih hrest)

/-- A write that puts a receipt stages its row under a key without one. -/
theorem receipt_staged {write : StoreWrite γ δ} {r : Unit} (hw : write.receipt = some record)
    (h : Returns (write.run E) s r t) :
    s.persisted.get? (E.rowKey record) = none ∧ s.creates.get? (E.rowKey record) = none ∧
      t.creates.get? (E.rowKey record) = some (E.recordEntity record) := by
  cases write <;> cases hw
  case putReceipt receipt =>
    simp only [StoreWrite.run, returns_bind, returns_onStore, returns_putReceipt] at h
    obtain ⟨_, u, htarget, _, _, ⟨store, ⟨-, rfl⟩, rfl⟩, hstage⟩ := h
    obtain rfl := returns_requireReceiptTarget htarget
    exact (stages_stageRecord (by simp [StoreRecord.kind]) hstage).2
  case putOperationalContextReceipt receipt =>
    simp only [StoreWrite.run, returns_bind, returns_requireWorkload, returns_onStore,
      returns_putOperationalContextReceipt] at h
    obtain ⟨_, _, ⟨-, rfl⟩, _, _, ⟨store, ⟨-, rfl⟩, rfl⟩, hstage⟩ := h
    exact (stages_stageRecord (by simp [StoreRecord.kind]) hstage).2
  case putCohortDecisionReceipt receipt =>
    simp only [StoreWrite.run, returns_bind, returns_requireWorkload, returns_onStore] at h
    obtain ⟨_, _, ⟨-, rfl⟩, _, _, ⟨store, -, rfl⟩, hstage⟩ := h
    exact (stages_stageRecord (by simp [StoreRecord.kind]) hstage).2

/-- The receipts of a transaction have keys of their own, all without a row before. -/
theorem receipts_staged {writes : List (StoreWrite γ δ)} {r : Unit}
    (h : Returns (runWrites E writes) s r t) :
    ((receiptsOf writes).map E.rowKey).Nodup ∧ ∀ record ∈ receiptsOf writes,
      s.persisted.get? (E.rowKey record) = none ∧ s.creates.get? (E.rowKey record) = none ∧
        t.creates.get? (E.rowKey record) = some (E.recordEntity record) := by
  induction writes generalizing s with
  | nil => simp [receiptsOf]
  | cons write rest ih =>
    simp only [runWrites, returns_bind] at h
    obtain ⟨_, u, hwrite, hrest⟩ := h
    have hfirst := stages_write hwrite
    obtain ⟨hnodup, hlater⟩ := ih hrest
    -- a key that is free behind the first write was free before it
    have hfree : ∀ record ∈ receiptsOf rest,
        s.persisted.get? (E.rowKey record) = none ∧ s.creates.get? (E.rowKey record) = none ∧
          t.creates.get? (E.rowKey record) = some (E.recordEntity record) := by
      intro record hrecord
      obtain ⟨hnone, hnew, hcreated⟩ := hlater record hrecord
      refine ⟨hfirst.persisted_eq ▸ hnone, ?_, hcreated⟩
      by_contra hsome
      obtain ⟨e, he⟩ := Option.ne_none_iff_exists'.mp hsome
      rw [hfirst.kept _ _ he] at hnew
      cases hnew
    cases hreceipt : write.receipt with
    | none =>
      have hsame : receiptsOf (write :: rest) = receiptsOf rest := by simp [receiptsOf, hreceipt]
      rw [hsame]
      exact ⟨hnodup, hfree⟩
    | some record =>
      have hcons : receiptsOf (write :: rest) = record :: receiptsOf rest := by
        simp [receiptsOf, hreceipt]
      obtain ⟨hnone, hnew, hcreated⟩ := receipt_staged hreceipt hwrite
      rw [hcons]
      refine ⟨List.nodup_cons.mpr ⟨fun hmem => ?_, hnodup⟩, fun r hr => ?_⟩
      · obtain ⟨other, hother, hkey⟩ := List.mem_map.mp hmem
        have hunused := (hlater other hother).2.1
        rw [hkey, hcreated] at hunused
        cases hunused
      · rcases List.mem_cons.mp hr with rfl | hr
        · exact ⟨hnone, hnew, (stages_runWrites hrest).kept _ _ hcreated⟩
        · exact hfree r hr

end AthenaContext.DurableTransactions
