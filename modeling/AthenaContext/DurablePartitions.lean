import AthenaContext.DurableTransactions
import AthenaContext.TransitionSystems

/-!
# A partition and the transactions over it

Any number of transactions over one partition: each scans the rows, which may come back
from different moments, and asks for one batch. The state row commits all other rows at
its generation, so that a scan that loads is the partition at one generation. The digest
of a document is assumed to be free of collisions.
-/

namespace AthenaContext.DurablePartitions

open ContextRecords ContextMutations CohortDecisionRecords
open DurableRecords DurableLoading DurableTransactions OrdinalCollections Dictionaries
open FallibleResults Transactions ConditionalStores ConditionalTables TransitionSystems

variable {γ δ ι : Type} [DecidableEq ι]

/-! ## The system -/

/-- A transaction whose batch took effect: the generation that it read, and its writes. -/
structure CommittedTransaction (γ δ : Type) where
  generation : ℕ
  writes : List (StoreWrite γ δ)

/-- The partition with its history and the transactions that took effect, and what the
open transactions hold. -/
structure Partition (γ δ ι : Type) where
  history : TableHistory String StoreEntity
  log : List (CommittedTransaction γ δ)
  held : ι → Option (DurableState γ δ)

/-- What happens: the initialization of the partition, the scan of a transaction, or its
writes and its commit. A transaction without writes only reads. -/
inductive PartitionAction (γ δ ι : Type)
  | bootstrap (fault : Cell.Fault)
  | scan (transaction : ι) (rows : List (String × StoreEntity × ℕ))
  | commit (transaction : ι) (writes : List (StoreWrite γ δ)) (fault : Cell.Fault)

/-- The batch that a transaction asks for; one that raised or staged nothing asks for
none. -/
def requestedBatch (E : StoreEncoding γ δ) (view : DurableState γ δ)
    (writes : List (StoreWrite γ δ)) : Option (List (TableWrite String StoreEntity)) :=
  match runFrom (runWrites E writes) view with
  | (.ok (), s) => if isDirty s then (commitBatch E s).toOption else none
  | (.error _, _) => none

/-- The table after the request of a transaction, if its batch takes effect. -/
def committedTable (E : StoreEncoding γ δ) (history : TableHistory String StoreEntity)
    (view : DurableState γ δ) (writes : List (StoreWrite γ δ)) (fault : Cell.Fault) :
    Option (Table String StoreEntity) :=
  (requestedBatch E view writes).bind fun batch => history.effect batch fault

/-- The partition after the request of a transaction. -/
def afterCommit (E : StoreEncoding γ δ) (s : Partition γ δ ι) (view : DurableState γ δ)
    (writes : List (StoreWrite γ δ)) (fault : Cell.Fault) : Partition γ δ ι :=
  match committedTable E s.history view writes fault with
  | some table =>
    { s with
      history := s.history.advance table
      log := s.log ++ [⟨view.generation, writes⟩] }
  | none => s

/-- A step. The emptiness that an initialization saw may be of any earlier moment; a scan
that does not load ends its transaction, and so does a commit. -/
inductive PartitionStep (E : StoreEncoding γ δ) (s : Partition γ δ ι) :
    PartitionAction γ δ ι → Partition γ δ ι → Prop
  | bootstrapped (fault : Cell.Fault)
      (digests : E.digestErrorOf [E.partitionDocument [] [] 1] = none) :
    PartitionStep E s (.bootstrap fault)
      { s with history := s.history.attempt (bootstrapBatch E) fault }
  | scanned (transaction : ι) (rows : List (String × StoreEntity × ℕ))
      (scans : s.history.Scans rows) :
    PartitionStep E s (.scan transaction rows)
      { s with held := Function.update s.held transaction (enter E rows).toOption }
  | committed (transaction : ι) (writes : List (StoreWrite γ δ)) (fault : Cell.Fault)
      (view : DurableState γ δ) (holds : s.held transaction = some view) :
    PartitionStep E s (.commit transaction writes fault)
      { afterCommit E s view writes fault with
        held := Function.update s.held transaction none }

/-- The runs over a partition that starts without rows. -/
def partitionSystem (E : StoreEncoding γ δ) (ι : Type) [DecidableEq ι] :
    TransitionSystem (Partition γ δ ι) (PartitionAction γ δ ι) where
  init s := s.history = ⟨⟨.empty, 0⟩, []⟩ ∧ s.log = [] ∧ ∀ transaction, s.held transaction = none
  step s action t := PartitionStep E s action t

/-! ## A committed table -/

/-- The generation of a table. -/
def generationOf (t : Table String StoreEntity) : Option ℕ :=
  match t.content stateRowKey with
  | some (.state generation _, _) => some generation
  | _ => none

/-- The rows of a table without their tokens. -/
def rowsOf (t : Table String StoreEntity) : List (String × StoreEntity) := entitiesOf t.rows.entries

/-- The audit rows of a table are those of the events 1 to `last`. -/
structure Gapless (E : StoreEncoding γ δ) (t : Table String StoreEntity) (last : ℕ) : Prop where
  events : ∀ i, 1 ≤ i → i ≤ last → ∃ event : AuditEvent, event.sequence = i ∧
    ∃ etag, t.content (auditRowKey i) = some (E.recordEntity (.audit event), etag)
  rows : ∀ k e etag, t.content k = some (e, etag) → isAudit e = true →
    ∃ i, 1 ≤ i ∧ i ≤ last ∧ k = auditRowKey i

/-- What every table of the history is: without rows, or a state row that commits the
other rows at its generation. -/
structure Committed (E : StoreEncoding γ δ) (t : Table String StoreEntity) : Prop where
  state : ∀ e etag, t.content stateRowKey = some (e, etag) → ∃ generation audit,
    e = .state generation (E.partitionAnchor (rowsOf t) audit generation)
  fresh : t.content stateRowKey = none → ∀ k, t.content k = none
  written : ∀ k e etag, t.content k = some (e, etag) → k ≠ stateRowKey → WrittenRow E k e
  gapless : ∃ last, Gapless E t last

/-- A commitment to a row that the store writes. -/
def WrittenCommitment (E : StoreEncoding γ δ) (c : Commitment) : Prop :=
  ∃ e, WrittenRow E c.rowKey e ∧ e.commitment = (c.kind, c.recordDigest)

/-- The digest tells records apart by their canonical text, and partitions of the workload
by the rows that the store has written. -/
structure Distinguishes (E : StoreEncoding γ δ) : Prop where
  records : ∀ a b : StoreRecord γ δ, E.recordDigest a = E.recordDigest b →
    E.canonicalJson a = E.canonicalJson b
  partitions : ∀ g g' rows rows' tail tail', (∀ c ∈ rows, WrittenCommitment E c) →
    (∀ c ∈ rows', WrittenCommitment E c) →
      E.artifactDigest (.partition E.workloadId g rows tail) =
        E.artifactDigest (.partition E.workloadId g' rows' tail') → rows = rows'

/-- The commitment of a row. -/
def commitmentOf (row : Option (StoreEntity × ℕ)) : Option (String × String) :=
  row.map fun copy => copy.1.commitment

/-- A transaction has read a table: its generation with the state row, the commitments of
all other rows, and for every record that it holds the record of the table with the same
canonical form; the audit events are numbered up to the last one. -/
structure ReadsTable (E : StoreEncoding γ δ) (view : DurableState γ δ)
    (t : Table String StoreEntity) : Prop where
  generation : generationOf t = some view.generation
  state : t.content stateRowKey = view.persisted.get? stateRowKey
  rows : ∀ k, k ≠ stateRowKey →
    commitmentOf (t.content k) = commitmentOf (view.persisted.get? k)
  records : ∀ record, Holds view.store record → ∃ stored e etag,
    t.content (E.rowKey record) = some (e, etag) ∧ E.rowKey stored = E.rowKey record ∧
      e.commitment = (stored.kind.value, E.recordDigest stored) ∧ stored.kind = record.kind ∧
        E.canonicalJson stored = E.canonicalJson record
  sequences : view.store.audit.map (fun event => event.sequence) =
    List.range' 1 view.store.audit.length
  gapless : Gapless E t view.store.audit.length

variable {E : StoreEncoding γ δ} {s : Partition γ δ ι} {t table : Table String StoreEntity}
  {view after : DurableState γ δ} {rows : List (String × StoreEntity × ℕ)}

theorem lookup_entitiesOf {rows : List (String × StoreEntity × ℕ)} {k : String} :
    lookup k (entitiesOf rows) = (lookup k rows).map Prod.fst := by
  induction rows with
  | nil => rfl
  | cons row rest ih =>
    by_cases he : row.1 = k
    · simp [entitiesOf, lookup, he]
    · simpa [entitiesOf, lookup, he] using ih

theorem keys_entitiesOf {rows : List (String × StoreEntity × ℕ)} :
    (entitiesOf rows).map Prod.fst = rows.map Prod.fst := by
  rw [entitiesOf, List.map_map]
  rfl

/-- Equal commitments of two sets of rows, row by row. -/
theorem commitments_entitiesOf {a b : Dictionary String (StoreEntity × ℕ)} :
    StoreEncoding.commitments (entitiesOf a.entries) =
        StoreEncoding.commitments (entitiesOf b.entries) ↔
      ∀ k, k ≠ stateRowKey → commitmentOf (a.get? k) = commitmentOf (b.get? k) := by
  rw [commitments_eq_iff (keys_entitiesOf ▸ a.distinct) (keys_entitiesOf ▸ b.distinct)]
  simp only [lookup_entitiesOf, Option.map_map]
  rfl

/-- A record of a scan has its row in every table with the same commitments. -/
theorem stored_of_commitment {record : StoreRecord γ δ} {k : String}
    {row : Option (StoreEntity × ℕ)} (hdigest : Distinguishes E)
    (hc : commitmentOf row = some (record.kind.value, E.recordDigest record))
    (hw : ∀ e etag, row = some (e, etag) → WrittenRow E k e) :
    ∃ stored e etag, row = some (e, etag) ∧ E.rowKey stored = k ∧
      e.commitment = (stored.kind.value, E.recordDigest stored) ∧ stored.kind = record.kind ∧
        E.canonicalJson stored = E.canonicalJson record := by
  obtain ⟨⟨e, etag⟩, hrow, hcommitment⟩ := Option.map_eq_some_iff.mp hc
  have hcommitment : e.commitment = (record.kind.value, E.recordDigest record) := hcommitment
  have hsame : ∀ stored : StoreRecord γ δ,
      e.commitment = (stored.kind.value, E.recordDigest stored) →
        stored.kind = record.kind ∧ E.canonicalJson stored = E.canonicalJson record := by
    intro stored hstored
    have heq := Prod.mk.inj (hstored.symm.trans hcommitment)
    exact ⟨RecordKind.value_injective heq.1, hdigest.records stored record heq.2⟩
  rcases hw e etag hrow with ⟨stored, hkey, hentity⟩ | ⟨kind, parent, index, value, -, hentity⟩
  · have hstored : e.commitment = (stored.kind.value, E.recordDigest stored) := by
      rcases hentity with rfl | ⟨-, chunkCount, rfl⟩ <;> rfl
    exact ⟨stored, e, etag, hrow, hkey.symm, hstored, hsame stored hstored⟩
  · rw [hentity] at hcommitment
    exact absurd (Prod.mk.inj hcommitment).1 RecordKind.value_ne_chunk

/-- A written row whose kind is that of the audit events holds one under its number. -/
theorem audit_of_commitment {k : String} {e : StoreEntity} (hw : WrittenRow E k e)
    (hc : e.commitment.1 = RecordKind.audit.value) :
    ∃ event : AuditEvent, e = E.recordEntity (.audit event) ∧ k = auditRowKey event.sequence := by
  rcases hw with ⟨record, hkey, hentity⟩ | ⟨kind, parent, index, value, -, hentity⟩
  · rcases hentity with rfl | ⟨hchunked, chunkCount, rfl⟩
    · have hkind : record.kind = .audit := RecordKind.value_injective hc
      cases record <;> cases hkind
      exact ⟨_, rfl, hkey⟩
    · have hkind : record.kind = .audit := RecordKind.value_injective hc
      rw [hkind] at hchunked
      cases hchunked
  · rw [hentity] at hc
    exact absurd hc RecordKind.value_ne_chunk

/-! ## What a scan has read -/

/-- The events of numbers 1 to `length` are those of the history. -/
theorem sequence_mem {audit : List AuditEvent}
    (h : audit.map (fun event => event.sequence) = List.range' 1 audit.length) {i : ℕ} :
    (∃ event ∈ audit, event.sequence = i) ↔ 1 ≤ i ∧ i ≤ audit.length := by
  have hmem : i ∈ audit.map (fun event => event.sequence) ↔ 1 ≤ i ∧ i ≤ audit.length := by
    rw [h, List.mem_range'_1]
    omega
  rw [← hmem, List.mem_map]

/-- The commitments to rows that the store writes. -/
theorem commitments_written {entities : List (String × StoreEntity)}
    (h : ∀ entity ∈ entities, entity.1 ≠ stateRowKey → WrittenRow E entity.1 entity.2) :
    ∀ c ∈ StoreEncoding.commitments entities, WrittenCommitment E c := by
  intro c hc
  obtain ⟨entity, hentity, rfl⟩ := List.mem_map.mp (mem_sortOn.mp hc)
  obtain ⟨hmem, hkey⟩ := List.mem_filter.mp hentity
  exact ⟨entity.2, h entity hmem (of_decide_eq_true hkey), rfl⟩

/-- The rows of a scan that loads are those of one table of the history. -/
theorem rows_of_loaded {h : TableHistory String StoreEntity} {generation : ℕ}
    {store : Store γ δ CohortRecords} (hdigest : Distinguishes E)
    (hcommitted : ∀ t ∈ h.now :: h.past, Committed E t) (hscan : h.Scans rows)
    (hloaded : Loaded E (entitiesOf rows) generation store) :
    ∃ t ∈ h.now :: h.past, ∃ anchor etag,
      (stateRowKey, .state generation anchor, etag) ∈ rows ∧
      t.content stateRowKey = some (.state generation anchor, etag) ∧
      ∀ k, k ≠ stateRowKey → commitmentOf (t.content k) = commitmentOf (lookup k rows) := by
  obtain ⟨⟨key, entity, etag⟩, hrow, hpair⟩ := List.mem_map.mp hloaded.state
  obtain ⟨hkey, hentity⟩ := Prod.mk.inj hpair
  have hkey : key = stateRowKey := hkey
  have hentity : entity = .state generation _ := hentity
  subst hkey hentity
  obtain ⟨t, ht, hcontent⟩ := hscan.seen _ hrow
  obtain ⟨g, audit, hstate⟩ := (hcommitted t ht).state _ _ hcontent
  obtain ⟨hg, hanchor⟩ := StoreEntity.state.inj hstate
  subst hg
  refine ⟨t, ht, _, etag, hrow, hcontent, ?_⟩
  have hwritten : ∀ u ∈ h.now :: h.past, ∀ k e etag, u.content k = some (e, etag) →
      k ≠ stateRowKey → WrittenRow E k e := fun u hu => (hcommitted u hu).written
  have hrows : ∀ entity ∈ entitiesOf rows, entity.1 ≠ stateRowKey →
      WrittenRow E entity.1 entity.2 := by
    intro entity hentity hkey
    obtain ⟨row, hrow', rfl⟩ := List.mem_map.mp hentity
    obtain ⟨u, hu, hseen⟩ := hscan.seen row hrow'
    exact hwritten u hu _ _ _ hseen hkey
  have htable : ∀ entity ∈ rowsOf t, entity.1 ≠ stateRowKey → WrittenRow E entity.1 entity.2 := by
    intro entity hentity hkey
    obtain ⟨row, hrow', rfl⟩ := List.mem_map.mp hentity
    exact hwritten t ht _ _ _ (lookup_of_mem t.rows.distinct hrow') hkey
  have hsame := hdigest.partitions _ _ _ _ _ _ (commitments_written hrows)
    (commitments_written htable) (congrArg PartitionAnchor.partitionDigest hanchor)
  exact commitments_entitiesOf (a := t.rows) (b := ⟨rows, hscan.distinct⟩) |>.mp hsame.symm

/-- A scan that loads has read one table of the history. -/
theorem reads_of_enter {h : TableHistory String StoreEntity}
    (hdigest : Distinguishes E)
    (hcommitted : ∀ t ∈ h.now :: h.past, Committed E t) (hscan : h.Scans rows)
    (henter : enter E rows = .ok view) :
    (view.creates = .empty ∧ view.updates = .empty ∧ view.persisted.entries = rows) ∧
      ∃ t ∈ h.now :: h.past, ReadsTable E view t := by
  unfold enter at henter
  rw [ite_error_ok_iff, dif_pos hscan.distinct] at henter
  obtain ⟨-, henter⟩ := henter
  obtain ⟨⟨generation, store⟩, hmodels, hview⟩ := bind_ok_iff.mp henter
  have hview := pure_ok_iff.mp hview
  subst hview
  refine ⟨⟨rfl, rfl, rfl⟩, ?_⟩
  have hloaded := loadModels_ok hmodels
  obtain ⟨t, ht, anchor, etag, hrow, hcontent, hrows⟩ :=
    rows_of_loaded hdigest hcommitted hscan hloaded
  have hcommit := hcommitted t ht
  have hlookup : lookup stateRowKey rows = some (.state generation anchor, etag) :=
    lookup_of_mem hscan.distinct hrow
  -- a record of the transaction lies under a key of its own, so the table commits it
  have hstored : ∀ record, Holds store record → ∃ stored e etag,
      t.content (E.rowKey record) = some (e, etag) ∧ E.rowKey stored = E.rowKey record ∧
        e.commitment = (stored.kind.value, E.recordDigest stored) ∧ stored.kind = record.kind ∧
          E.canonicalJson stored = E.canonicalJson record := by
    intro record hholds
    obtain ⟨⟨key, entity⟩, hmem, hkey, hcommitment⟩ := hloaded.records record hholds
    have hkey : key = E.rowKey record := hkey
    subst hkey
    have hfound := lookup_of_mem (keys_entitiesOf ▸ hscan.distinct) hmem
    rw [lookup_entitiesOf] at hfound
    have hne : E.rowKey record ≠ stateRowKey := by
      intro heq
      rw [heq, hlookup] at hfound
      rw [← Option.some.inj hfound] at hcommitment
      exact RecordKind.value_ne_state (Prod.mk.inj hcommitment).1.symm
    have hc : commitmentOf (t.content (E.rowKey record)) =
        some (record.kind.value, E.recordDigest record) := by
      obtain ⟨copy, hcopy, hentity⟩ := Option.map_eq_some_iff.mp hfound
      rw [hrows _ hne, hcopy, commitmentOf, Option.map_some, hentity]
      exact congrArg some hcommitment
    exact stored_of_commitment hdigest hc fun e etag hrow => hcommit.written _ e etag hrow hne
  obtain ⟨last, hgapless⟩ := hcommit.gapless
  have hlast : last = store.audit.length := by
    refine Nat.le_antisymm ?_ ?_
    · -- every audit row of the table was scanned, so its event was read
      by_cases hzero : last = 0
      · omega
      obtain ⟨event, hsequence, etag', haudit⟩ := hgapless.events last (by omega) (Nat.le_refl _)
      have hc := hrows (auditRowKey last) auditRowKey_ne_state
      rw [haudit] at hc
      obtain ⟨⟨e, etag''⟩, hcopy, hcommitment⟩ := Option.map_eq_some_iff.mp hc.symm
      have hmem := mem_of_lookup hcopy
      obtain ⟨past, hpast, hseen⟩ := hscan.seen _ hmem
      have hwritten := (hcommitted past hpast).written _ _ _ hseen auditRowKey_ne_state
      obtain ⟨other, hother, -⟩ := audit_of_commitment hwritten (congrArg Prod.fst hcommitment)
      obtain ⟨found, hfound, hkey⟩ := hloaded.events.read (auditRowKey last) _ _
        auditRowKey_ne_state (List.mem_map.mpr ⟨_, hmem, by rw [hother]; rfl⟩)
      have hnumber := auditRowKey_injective hkey
      exact ((sequence_mem hloaded.sequences).mp ⟨found, hfound, hnumber⟩).2
    · by_cases hzero : store.audit.length = 0
      · omega
      obtain ⟨event, hevent, hsequence⟩ := (sequence_mem hloaded.sequences).mpr
        ⟨by omega, Nat.le_refl store.audit.length⟩
      obtain ⟨stored, e, etag', hrow, -, hcommitment, hkind, -⟩ := hstored (.audit event) hevent
      have hcommitment : e.commitment.1 = RecordKind.audit.value := by
        rw [hcommitment, hkind]
        rfl
      have hwritten := hcommit.written _ e etag' hrow auditRowKey_ne_state
      obtain ⟨other, hother, -⟩ := audit_of_commitment hwritten hcommitment
      obtain ⟨j, -, hj, hkey⟩ := hgapless.rows _ e etag' hrow (hother ▸ rfl)
      have hnumber := auditRowKey_injective hkey
      omega
  refine ⟨t, ht, ?_, ?_, hrows, hstored, hloaded.sequences, hlast ▸ hgapless⟩
  · rw [generationOf, hcontent]
  · exact hcontent.trans hlookup.symm

end AthenaContext.DurablePartitions
