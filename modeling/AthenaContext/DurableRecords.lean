import AthenaContext.CohortDecisions

/-!
# Rows of the durable context store

The records of the context store as rows of one table partition: their keys, their
JSON text with its digest, the chunks of a record that may be long, and the state row,
which commits the whole partition at a generation. The digest of a canonical JSON
document and the JSON text of a record are parameters; a digest is held without its
`sha256:` prefix. All rows carry the same schema version, which is left out.
-/

namespace AthenaContext.DurableRecords

open ContextRecords ContextStorage ContextMutations CohortDecisionRecords CohortDecisions
open OrdinalCollections Dictionaries

variable {γ δ : Type}

/-! ## Records -/

/-- The kinds of records. -/
inductive RecordKind
  | draft
  | draftSelectorBaseline
  | published
  | supersession
  | audit
  | receipt
  | operationalContextReceipt
  | cohortDecision
  | cohortDecisionReceipt
  deriving DecidableEq, Repr

/-- The text of a kind in a row and in a row key. -/
def RecordKind.value : RecordKind → String
  | .draft => "draft"
  | .draftSelectorBaseline => "draft-selector-baseline"
  | .published => "published"
  | .supersession => "supersession"
  | .audit => "audit"
  | .receipt => "receipt"
  | .operationalContextReceipt => "operational-context-receipt"
  | .cohortDecision => "cohort-decision"
  | .cohortDecisionReceipt => "cohort-decision-receipt"

/-- A record of any kind. -/
inductive StoreRecord (γ δ : Type)
  | draft (record : Draft γ)
  | draftSelectorBaseline (record : DraftSelectorBaseline)
  | published (record : PublishedManifest (Manifest γ))
  | supersession (record : Supersession)
  | audit (record : AuditEvent)
  | receipt (record : MutationReceipt (CanonicalWorkloadManifest δ))
  | operationalContextReceipt (record : OperationalContextReceipt)
  | cohortDecision (record : CohortDecisionRecord)
  | cohortDecisionReceipt (record : CohortDecisionReceipt)

def StoreRecord.kind : StoreRecord γ δ → RecordKind
  | .draft _ => .draft
  | .draftSelectorBaseline _ => .draftSelectorBaseline
  | .published _ => .published
  | .supersession _ => .supersession
  | .audit _ => .audit
  | .receipt _ => .receipt
  | .operationalContextReceipt _ => .operationalContextReceipt
  | .cohortDecision _ => .cohortDecision
  | .cohortDecisionReceipt _ => .cohortDecisionReceipt

/-! ## Rows -/

/-- What the state row commits of another row. -/
structure Commitment where
  rowKey : String
  kind : String
  recordDigest : String
  deriving DecidableEq, Repr

/-- A document whose digest the store takes. -/
inductive ArtifactDocument
  | rowKey (kind : String) (components : List String)
  | record (canonicalJson : String)
  | chunk (parentRowKey : String) (chunkIndex : ℕ) (recordJsonChunk : String)
  | partition (workloadId : String) (generation : ℕ) (entities : List Commitment)
      (auditTail : Option (ℕ × String))
  deriving DecidableEq

/-- The fields of the state row beside its generation. -/
structure PartitionAnchor where
  workloadId : String
  entityCount : ℕ
  auditTail : Option (ℕ × String)
  partitionDigest : String
  deriving DecidableEq, Repr

/-- A row: the state, a record in one row, or a record in chunks. -/
inductive StoreEntity
  | state (generation : ℕ) (anchor : PartitionAnchor)
  | record (kind : RecordKind) (recordJson recordDigest : String)
  | chunked (kind : RecordKind) (chunkCount : ℕ) (recordDigest : String)
  | chunk (kind : RecordKind) (parentRowKey : String) (chunkIndex : ℕ)
      (recordJsonChunk recordDigest : String)
  deriving DecidableEq, Repr

/-- The `kind` of a row and its `recordDigest`; the state row has no digest. -/
def StoreEntity.commitment : StoreEntity → String × String
  | .state _ _ => ("state", "")
  | .record kind _ recordDigest => (kind.value, recordDigest)
  | .chunked kind _ recordDigest => (kind.value, recordDigest)
  | .chunk kind _ _ _ recordDigest => (kind.value ++ "-chunk", recordDigest)

/-- `_CONTEXT_STATE_ROW_KEY`. -/
def stateRowKey : String := "meta:state"

/-- A number with leading zeros up to a width. -/
def zeroPadded (width number : ℕ) : String :=
  let digits := Nat.toDigits 10 number
  String.ofList (List.replicate (width - digits.length) '0' ++ digits)

/-- `_row_key_for_audit`, from the sequence number. -/
def auditRowKey (sequence : ℕ) : String := "audit:" ++ zeroPadded 8 sequence

/-- The number of bytes of a character in UTF-16. -/
def utf16Size (c : Char) : ℕ := if c.toNat < 0x10000 then 2 else 4

/-- `_record_json_fits_table_property_bound`. -/
def fitsTablePropertyBound (recordJson : String) : Bool :=
  (recordJson.toList.map utf16Size).sum ≤ 60 * 1024

/-- The walk of `_split_record_json`: the chunk that grows, and its size. -/
def splitRecordFrom (current : List Char) (currentSize : ℕ) : List Char → List (List Char)
  | [] => if current = [] then [] else [current]
  | c :: rest =>
    if current ≠ [] ∧ 60 * 1024 < currentSize + utf16Size c then
      current :: splitRecordFrom [c] (utf16Size c) rest
    else splitRecordFrom (current ++ [c]) (currentSize + utf16Size c) rest

/-- `_split_record_json`; a text without characters has no chunks. -/
def splitRecordJson (recordJson : String) : List String :=
  (splitRecordFrom [] 0 recordJson.toList).map String.ofList

/-- The digests and JSON texts of one store, and what it serves. -/
structure StoreEncoding (γ δ : Type) where
  workloadId : String
  /-- `compute_artifact_digest` of a document on which it returns. -/
  artifactDigest : ArtifactDocument → String
  /-- The text with which `compute_artifact_digest` raises, if it does: a text of the
  document may read as a time that has no canonical form. -/
  digestError : ArtifactDocument → Option String
  /-- The canonical JSON text of `model_dump(mode="json", by_alias=True, exclude_none=True)`. -/
  canonicalJson : StoreRecord γ δ → String
  /-- `model_dump_json(by_alias=True, exclude_none=True)`. -/
  dumpJson : StoreRecord γ δ → String
  /-- `model_validate_json`; `none` is a validation error. -/
  validateJson : RecordKind → String → Option (StoreRecord γ δ)
  auditEventDigest : AuditEventDigest
  normalizedIdentifier : String → String

/-- The document of a row key. -/
def keyDocuments : StoreRecord γ δ → List ArtifactDocument
  | .draft draft => [.rowKey "draft" [draft.draftId]]
  | .draftSelectorBaseline baseline => [.rowKey "draft-selector-baseline" [baseline.draftId]]
  | .published published =>
    [.rowKey "published" [published.manifestId, published.manifestVersion.text]]
  | .supersession supersession =>
    [.rowKey "supersession" [supersession.manifestId, supersession.supersededVersion.text]]
  | .audit _ => []
  | .receipt receipt => [.rowKey "receipt" [receipt.actorId, receipt.idempotencyKey]]
  | .operationalContextReceipt receipt =>
    [.rowKey "operational-context-receipt" [receipt.manifestId, receipt.receiptId]]
  | .cohortDecision decision =>
    [.rowKey "cohort-decision" [decision.manifestId, decision.decisionId]]
  | .cohortDecisionReceipt receipt =>
    [.rowKey "cohort-decision-receipt" [receipt.actorId, receipt.idempotencyKey]]

/-- The documents of a chunk's row. -/
def chunkDocuments (kind : RecordKind) (parentRowKey : String) (chunkIndex : ℕ)
    (recordJsonChunk : String) : List ArtifactDocument :=
  [.rowKey (kind.value ++ "-chunk") [parentRowKey, zeroPadded 4 chunkIndex],
    .chunk parentRowKey chunkIndex recordJsonChunk]

namespace StoreEncoding

variable (E : StoreEncoding γ δ)

/-- `_row_key_for_components`. -/
def rowKeyForComponents (kind : String) (components : List String) : String :=
  kind ++ ":" ++ E.artifactDigest (.rowKey kind components)

/-- The `_row_key_for_…` of a record. -/
def rowKey : StoreRecord γ δ → String
  | .draft draft => E.rowKeyForComponents "draft" [draft.draftId]
  | .draftSelectorBaseline baseline =>
    E.rowKeyForComponents "draft-selector-baseline" [baseline.draftId]
  | .published published =>
    E.rowKeyForComponents "published" [published.manifestId, published.manifestVersion.text]
  | .supersession supersession => E.rowKeyForComponents "supersession"
      [supersession.manifestId, supersession.supersededVersion.text]
  | .audit event => auditRowKey event.sequence
  | .receipt receipt =>
    E.rowKeyForComponents "receipt" [receipt.actorId, receipt.idempotencyKey]
  | .operationalContextReceipt receipt => E.rowKeyForComponents "operational-context-receipt"
      [receipt.manifestId, receipt.receiptId]
  | .cohortDecision decision =>
    E.rowKeyForComponents "cohort-decision" [decision.manifestId, decision.decisionId]
  | .cohortDecisionReceipt receipt =>
    E.rowKeyForComponents "cohort-decision-receipt" [receipt.actorId, receipt.idempotencyKey]

/-- The documents of a record's row: its key and its content. -/
def recordDocuments (record : StoreRecord γ δ) : List ArtifactDocument :=
  keyDocuments record ++ [.record (E.canonicalJson record)]

/-- The first error of the digests of some documents. -/
def digestErrorOf (documents : List ArtifactDocument) : Option String :=
  documents.findSome? E.digestError

/-- The row key of a chunk of a record of the kind. -/
def chunkRowKey (kind : RecordKind) (parentRowKey : String) (chunkIndex : ℕ) : String :=
  E.rowKeyForComponents (kind.value ++ "-chunk") [parentRowKey, zeroPadded 4 chunkIndex]

/-- The digest of a record. -/
def recordDigest (record : StoreRecord γ δ) : String :=
  E.artifactDigest (.record (E.canonicalJson record))

/-- The row of a record that fits one property. -/
def recordEntity (record : StoreRecord γ δ) : StoreEntity :=
  .record record.kind (E.dumpJson record) (E.recordDigest record)

/-- The row of one chunk of a record. -/
def chunkEntity (kind : RecordKind) (parentRowKey : String) (chunkIndex : ℕ)
    (recordJsonChunk : String) : StoreEntity :=
  .chunk kind parentRowKey chunkIndex recordJsonChunk
    (E.artifactDigest (.chunk parentRowKey chunkIndex recordJsonChunk))

/-- The commitments of the rows beside the state row, in the order of their keys. -/
def commitments (entities : List (String × StoreEntity)) : List Commitment :=
  sortOn Commitment.rowKey ((entities.filter fun entity => entity.1 ≠ stateRowKey).map
    fun entity => ⟨entity.1, entity.2.commitment.1, entity.2.commitment.2⟩)

/-- The last event of a history, as the state row holds it. -/
def auditTail (audit : List AuditEvent) : Option (ℕ × String) :=
  audit.getLast?.map fun event => (event.sequence, event.eventDigest)

/-- The document of a partition. -/
def partitionDocument (entities : List (String × StoreEntity)) (audit : List AuditEvent)
    (generation : ℕ) : ArtifactDocument :=
  .partition E.workloadId generation (commitments entities) (auditTail audit)

/-- `_partition_anchor`. -/
def partitionAnchor (entities : List (String × StoreEntity)) (audit : List AuditEvent)
    (generation : ℕ) : PartitionAnchor where
  workloadId := E.workloadId
  entityCount := (commitments entities).length + 1
  auditTail := auditTail audit
  partitionDigest := E.artifactDigest (E.partitionDocument entities audit generation)

theorem partitionAnchor_congr {a b : List (String × StoreEntity)}
    (h : commitments a = commitments b) (audit : List AuditEvent) (generation : ℕ) :
    E.partitionAnchor a audit generation = E.partitionAnchor b audit generation := by
  simp only [partitionAnchor, partitionDocument, h]

end StoreEncoding

/-! ## Row keys -/

/-- A padded number reads back. -/
theorem zeroPadded_injective {width m n : ℕ} (h : zeroPadded width m = zeroPadded width n) :
    m = n := by
  have hvalue : ∀ number, Nat.ofDigitChars 10 (zeroPadded width number).toList 0 = number := by
    intro number
    rw [zeroPadded, String.toList_ofList, Nat.ofDigitChars_append, Nat.ofDigitChars_replicate_zero,
      Nat.mul_zero, Nat.ofDigitChars_ten_toDigits]
  rw [← hvalue m, h, hvalue]

theorem auditRowKey_injective {m n : ℕ} (h : auditRowKey m = auditRowKey n) : m = n := by
  have hlist := congrArg String.toList h
  rw [auditRowKey, auditRowKey, String.toList_append, String.toList_append] at hlist
  exact zeroPadded_injective (String.toList_injective (List.append_cancel_left hlist))

/-- A row key starts as its kind does. -/
theorem rowKeyForComponents_head {E : StoreEncoding γ δ} {kind : String} {components : List String}
    (hne : kind ≠ "") :
    (E.rowKeyForComponents kind components).toList.head? = kind.toList.head? := by
  have hkind : kind.toList ≠ [] := fun hnil => hne (by simpa using hnil)
  rw [StoreEncoding.rowKeyForComponents, String.toList_append, String.toList_append,
    List.append_assoc, List.head?_append_of_ne_nil _ hkind]

/-- A row key of the named kinds is not the key of the state row. -/
theorem rowKeyForComponents_ne_state {E : StoreEncoding γ δ} {kind : String}
    {components : List String} (h : kind.toList.head? ≠ some 'm') (hne : kind ≠ "") :
    E.rowKeyForComponents kind components ≠ stateRowKey := by
  intro heq
  have hlist := congrArg (fun text => text.toList.head?) heq
  exact h ((rowKeyForComponents_head hne).symm.trans hlist)

/-- Nor is one of the other kinds the row key of a draft. -/
theorem rowKeyForComponents_ne_draft {E : StoreEncoding γ δ} {kind : String}
    {components : List String} {draft : Draft γ} (h : kind.toList.head? ≠ some 'd')
    (hne : kind ≠ "") : E.rowKeyForComponents kind components ≠ E.rowKey (.draft draft) := by
  intro heq
  have hlist := congrArg (fun text => text.toList.head?) heq
  refine h ((rowKeyForComponents_head hne).symm.trans (hlist.trans ?_))
  exact rowKeyForComponents_head (by decide)

theorem auditRowKey_ne_state {sequence : ℕ} : auditRowKey sequence ≠ stateRowKey := by
  intro heq
  have hlist := congrArg (fun text => text.toList.head?) heq
  simp only [auditRowKey, String.toList_append] at hlist
  revert hlist
  simp [stateRowKey]

/-- The row of an audit event is not the row of a draft. -/
theorem auditRowKey_ne_draft {E : StoreEncoding γ δ} {sequence : ℕ} {draft : Draft γ} :
    auditRowKey sequence ≠ E.rowKey (.draft draft) := by
  intro heq
  have hlist := (congrArg (fun text => text.toList.head?) heq).trans
    (rowKeyForComponents_head (by decide))
  simp only [auditRowKey, String.toList_append] at hlist
  revert hlist
  simp

theorem RecordKind.value_injective {a b : RecordKind} (h : a.value = b.value) : a = b := by
  cases a <;> cases b <;> first | rfl | exact absurd h (by decide)

theorem RecordKind.value_ne_chunk {a b : RecordKind} : a.value ++ "-chunk" ≠ b.value := by
  cases a <;> cases b <;> decide

theorem RecordKind.value_ne_state {a : RecordKind} : a.value ≠ "state" := by
  cases a <;> decide

/-! ## Commitments -/

open StoreEncoding

/-- What the commitments say of a row. -/
theorem mem_commitments {entities : List (String × StoreEntity)} {commitment : Commitment} :
    commitment ∈ commitments entities ↔ ∃ entity ∈ entities, entity.1 ≠ stateRowKey ∧
      commitment = ⟨entity.1, entity.2.commitment.1, entity.2.commitment.2⟩ := by
  simp only [commitments, mem_sortOn, List.mem_map, List.mem_filter, decide_eq_true_eq]
  constructor
  · rintro ⟨entity, ⟨hmem, hne⟩, rfl⟩
    exact ⟨entity, hmem, hne, rfl⟩
  · rintro ⟨entity, hmem, hne, rfl⟩
    exact ⟨entity, ⟨hmem, hne⟩, rfl⟩

/-- The row keys of the commitments are strictly ordered. -/
theorem strictlyOrdered_commitments {entities : List (String × StoreEntity)}
    (hd : (entities.map Prod.fst).Nodup) :
    strictlyOrdered Commitment.rowKey (commitments entities) := by
  refine sortOn_strictlyOrdered ?_
  rw [List.map_map]
  have hmap : ((entities.filter fun entity => entity.1 ≠ stateRowKey).map Prod.fst).Nodup :=
    (hd.sublist (List.Sublist.map _ List.filter_sublist))
  exact hmap

/-- Equal commitments are equal commitments of every row, and conversely. -/
theorem commitments_eq_iff {a b : List (String × StoreEntity)} (ha : (a.map Prod.fst).Nodup)
    (hb : (b.map Prod.fst).Nodup) :
    commitments a = commitments b ↔ ∀ k, k ≠ stateRowKey →
      (lookup k a).map StoreEntity.commitment = (lookup k b).map StoreEntity.commitment := by
  have hmem : ∀ {entities : List (String × StoreEntity)}, (entities.map Prod.fst).Nodup →
      ∀ commitment : Commitment, commitment ∈ commitments entities ↔
        commitment.rowKey ≠ stateRowKey ∧
          (lookup commitment.rowKey entities).map StoreEntity.commitment =
            some (commitment.kind, commitment.recordDigest) := by
    intro entities hd commitment
    rw [mem_commitments]
    constructor
    · rintro ⟨entity, hmem, hne, rfl⟩
      refine ⟨hne, ?_⟩
      rw [lookup_of_mem hd hmem]
      rfl
    · rintro ⟨hne, hlookup⟩
      obtain ⟨entity, hentity, hcommitment⟩ := Option.map_eq_some_iff.mp hlookup
      refine ⟨(commitment.rowKey, entity), mem_of_lookup hentity, hne, ?_⟩
      rw [hcommitment]
  constructor
  · intro heq k hne
    have hsame : ∀ value : String × String,
        (lookup k a).map StoreEntity.commitment = some value ↔
          (lookup k b).map StoreEntity.commitment = some value := by
      intro value
      have hiff := (hmem ha ⟨k, value.1, value.2⟩).symm.trans
        ((iff_of_eq (congrArg (_ ∈ ·) heq)).trans (hmem hb ⟨k, value.1, value.2⟩))
      simpa [hne] using hiff
    exact Option.ext hsame
  · intro hrows
    have hperm : (commitments a).Perm (commitments b) := by
      refine (List.perm_ext_iff_of_nodup ?_ ?_).mpr fun commitment => ?_
      · exact (strictlyOrdered_commitments ha).nodup.of_map
      · exact (strictlyOrdered_commitments hb).nodup.of_map
      · rw [hmem ha, hmem hb]
        refine and_congr_right fun hne => ?_
        rw [hrows _ hne]
    refine List.Perm.eq_of_pairwise ?_ (strictlyOrdered_commitments ha |> List.pairwise_map.mp)
      (strictlyOrdered_commitments hb |> List.pairwise_map.mp) hperm
    intro x y _ _ hxy hyx
    exact absurd hyx (not_lt_of_gt hxy)

end AthenaContext.DurableRecords
