import AthenaContext.DurableCommits
import AthenaContext.TransitionSystems

/-!
# Serializable transactions of the durable store

Over every interleaving of any number of transactions, each open transaction has read
one committed generation, a batch takes effect only at the generation that was read, and
the transactions that took effect are the generations of the partition, one after the
other. Rows beside the state row and the drafts are never changed once they are there,
so that a key with a receipt stays used up.
-/

namespace AthenaContext.DurableSerializability

open ContextRecords ContextStorage
open DurableRecords DurableTransactions DurablePartitions DurableCommits
open Dictionaries Transactions ConditionalStores
open ConditionalTables

variable {γ δ ι : Type} [DecidableEq ι]

/-! ## The invariant -/

/-- The tables of a history, the current one first. -/
def tables (h : TableHistory String StoreEntity) : List (Table String StoreEntity) :=
  h.now :: h.past

/-- The receipts of the transactions that took effect. -/
def consumedReceipts (log : List (CommittedTransaction γ δ)) : List (StoreRecord γ δ) :=
  log.flatMap fun transaction => receiptsOf transaction.writes

/-- An open transaction: it has staged nothing, its rows are remembered, and it has read
one table. -/
structure HeldView (E : StoreEncoding γ δ) (h : TableHistory String StoreEntity)
    (view : DurableState γ δ) : Prop where
  creates : view.creates = .empty
  updates : view.updates = .empty
  remembers : ∀ k copy, view.persisted.get? k = some copy → (h.now.cell k).Remembers copy
  read : ∃ t ∈ tables h, ReadsTable E view t

/-- The tables of a history are committed, told apart by their state rows, and never
change a row beside the state row and the drafts. -/
structure SerialHistory (E : StoreEncoding γ δ) (h : TableHistory String StoreEntity) : Prop where
  sound : h.Sound
  committed : ∀ t ∈ tables h, Committed E t
  states : ∀ t ∈ tables h, ∀ u ∈ tables h, ∀ copy, t.content stateRowKey = some copy →
    u.content stateRowKey = some copy → ∀ k, u.content k = t.content k
  kept : ∀ t ∈ h.past, ∀ k copy, t.content k = some copy → k ≠ stateRowKey →
    (∀ draft, k ≠ E.rowKey (.draft draft)) → h.now.content k = some copy

/-- The transactions that took effect read the generations from the first one on, the
partition is at the next one, and every receipt took a key of its own. -/
structure SerialLog (E : StoreEncoding γ δ) (now : Table String StoreEntity)
    (log : List (CommittedTransaction γ δ)) : Prop where
  generations : log.map CommittedTransaction.generation = List.range' 1 log.length
  current : generationOf now = some (log.length + 1) ∨ log = [] ∧ ∀ k, now.content k = none
  distinct : ((consumedReceipts log).map E.rowKey).Nodup
  taken : ∀ record ∈ consumedReceipts log,
    ∃ etag, now.content (E.rowKey record) = some (E.recordEntity record, etag)

/-- The invariant of all runs. -/
structure Serial (E : StoreEncoding γ δ) (s : Partition γ δ ι) : Prop where
  history : SerialHistory E s.history
  log : SerialLog E s.history.now s.log
  held : ∀ transaction view, s.held transaction = some view → HeldView E s.history view

variable {E : StoreEncoding γ δ} {s : Partition γ δ ι} {h : TableHistory String StoreEntity}
  {t table : Table String StoreEntity} {view : DurableState γ δ}
  {batch : List (TableWrite String StoreEntity)} {writes : List (StoreWrite γ δ)}
  {fault : Cell.Fault} {log : List (CommittedTransaction γ δ)}

theorem generationOf_none (hnone : t.content stateRowKey = none) : generationOf t = none := by
  rw [generationOf, hnone]

omit [DecidableEq ι] in
/-- A partition without rows. -/
theorem serial_start (hhistory : s.history = ⟨⟨.empty, 0⟩, []⟩) (hlog : s.log = [])
    (hheld : ∀ transaction, s.held transaction = none) : Serial E s := by
  have hempty : ∀ k, (⟨.empty, 0⟩ : Table String StoreEntity).content k = none := fun k => rfl
  constructor
  case history =>
    rw [hhistory]
    constructor
    case sound =>
      refine ⟨fun k p hp => ?_, fun t ht => ?_⟩
      · cases hp
      · cases ht
    case committed =>
      intro t ht
      rw [List.mem_singleton.mp ht]
      constructor
      case state => exact fun e etag hcontent => by cases hcontent
      case fresh => exact fun _ k => hempty k
      case written => exact fun k e etag hcontent => by cases hcontent
      case gapless => exact ⟨0, fun i hi hle => by omega, fun k e etag hcontent => by cases hcontent⟩
    case states =>
      intro t ht u hu copy hcontent
      rw [List.mem_singleton.mp ht] at hcontent
      cases hcontent
    case kept => exact fun t ht => by cases ht
  case log =>
    rw [hlog, hhistory]
    refine ⟨rfl, .inr ⟨rfl, hempty⟩, List.nodup_nil, fun record hrecord => ?_⟩
    cases hrecord
  case held =>
    intro transaction view hview
    rw [hheld] at hview
    cases hview

/-! ## A batch that takes effect -/

/-- A new table with a new state row continues the history. -/
theorem serialHistory_advance (hs : SerialHistory E h) (hsubmit : h.now.submit batch = some table)
    (hcommitted : Committed E table)
    (hstate : ∃ e etag, h.now.next ≤ etag ∧ table.content stateRowKey = some (e, etag))
    (hrows : ∀ k, k ≠ stateRowKey → (∀ draft, k ≠ E.rowKey (.draft draft)) →
      table.content k = h.now.content k ∨ h.now.content k = none) :
    SerialHistory E (h.advance table) := by
  obtain ⟨e, etag, hle, hcontent⟩ := hstate
  -- a state row of before was drawn earlier than the new one
  have hnew : ∀ t ∈ tables h, t.content stateRowKey ≠ some (e, etag) := by
    intro t ht hold
    have hdrawn : (h.now.cell stateRowKey).Remembers (e, etag) := by
      rcases List.mem_cons.mp ht with rfl | ht
      · exact Table.recalls_self hs.sound.valid _ _ hold
      · exact hs.sound.recalls t ht _ _ hold
    have hlt : etag < h.now.next := hdrawn.1
    omega
  constructor
  case sound => exact hs.sound.advance hsubmit
  case committed =>
    intro t ht
    rcases List.mem_cons.mp ht with rfl | ht
    · exact hcommitted
    · exact hs.committed t ht
  case states =>
    intro t ht u hu copy htcopy hucopy
    rcases List.mem_cons.mp ht with rfl | ht
    · rcases List.mem_cons.mp hu with rfl | hu
      · exact fun k => rfl
      · have htcopy : t.content stateRowKey = some copy := htcopy
        exact absurd (hucopy.trans (htcopy.symm.trans hcontent)) (hnew u hu)
    · rcases List.mem_cons.mp hu with rfl | hu
      · have hucopy : u.content stateRowKey = some copy := hucopy
        exact absurd (htcopy.trans (hucopy.symm.trans hcontent)) (hnew t ht)
      · exact hs.states t ht u hu copy htcopy hucopy
  case kept =>
    intro t ht k copy hcopy hk hdraft
    have hnow : h.now.content k = some copy := by
      rcases List.mem_cons.mp ht with rfl | ht
      · exact hcopy
      · exact hs.kept t ht k copy hcopy hk hdraft
    rcases hrows k hk hdraft with hsame | hnone
    · exact hsame.trans hnow
    · rw [hnow] at hnone
      cases hnone

/-- What an open transaction holds survives the batches of the others. -/
theorem heldView_advance (hv : HeldView E h view) (hsubmit : h.now.submit batch = some table) :
    HeldView E (h.advance table) view := by
  obtain ⟨t, ht, hread⟩ := hv.read
  constructor
  case creates => exact hv.creates
  case updates => exact hv.updates
  case remembers => exact fun k copy hcopy => Table.submit_remembers (hv.remembers k copy hcopy) hsubmit
  case read => exact ⟨t, List.mem_cons_of_mem _ ht, hread⟩

/-- A batch takes effect only at the generation that its transaction read. -/
theorem commit_effect (hs : SerialHistory E h) (hv : HeldView E h view)
    (heffect : committedTable E h view writes fault = some table) :
    Commits E view writes h.now table ∧ Committed E table ∧
      (∃ batch, h.now.submit batch = some table) ∧
      ∃ e etag, h.now.next ≤ etag ∧ table.content stateRowKey = some (e, etag) := by
  obtain ⟨batch, hrequested, heffect⟩ := Option.bind_eq_some_iff.mp heffect
  obtain ⟨after, hreturns, rfl⟩ := requestedBatch_some hrequested
  have hsubmit := TableHistory.effect_some heffect
  have hstages := stages_runWrites hreturns
  obtain ⟨t, ht, hread⟩ := hv.read
  have hsome : (generationOf t).isSome = true := by
    rw [hread.generation]
    rfl
  obtain ⟨copy, hcopy, hcurrent, etag, hle, hstate⟩ :=
    state_row hstages hsome hread.state hv.remembers hsubmit
  -- the state row is the one that was read, so the current table is the one that was read
  have hnow : ReadsTable E view h.now :=
    readsTable_congr (hs.states t ht h.now List.mem_cons_self copy hcopy hcurrent) hread
  have hrow : ∀ k, k ≠ stateRowKey → CommittedRow after h.now table k := fun k hk =>
    committedRow hstages hv.updates hv.remembers hsubmit hk
  have hcommitted := hs.committed h.now List.mem_cons_self
  exact ⟨commits_after hnow hstages hv.updates hrow hreturns hstate,
    committed_after hnow hstages hv.creates hv.updates hrow hcommitted hstate,
    ⟨_, hsubmit⟩, _, etag, hle, hstate⟩

/-- The log after a transaction that took effect. -/
theorem serialLog_commit (hl : SerialLog E h.now log) (hc : Commits E view writes h.now table) :
    SerialLog E table (log ++ [⟨view.generation, writes⟩]) := by
  have hgeneration : view.generation = log.length + 1 := by
    have hread := hc.read.generation
    rcases hl.current with hcurrent | ⟨-, hnone⟩
    · exact Option.some.inj (hread.symm.trans hcurrent)
    · rw [generationOf_none (hnone stateRowKey)] at hread
      cases hread
  have hconsumed : consumedReceipts (log ++ [⟨view.generation, writes⟩]) =
      consumedReceipts log ++ receiptsOf writes := by
    simp [consumedReceipts]
  constructor
  case generations =>
    rw [List.map_append, hl.generations, List.length_append, ← List.range'_append_1,
      Nat.add_comm 1, ← hgeneration]
    rfl
  case current =>
    refine .inl (hc.generation.trans ?_)
    rw [hgeneration, List.length_append]
    rfl
  case distinct =>
    rw [hconsumed, List.map_append, List.nodup_append]
    refine ⟨hl.distinct, hc.distinct, fun a ha b hb heq => ?_⟩
    obtain ⟨old, hold, rfl⟩ := List.mem_map.mp ha
    obtain ⟨new, hnew, rfl⟩ := List.mem_map.mp hb
    -- the key of an earlier receipt is not free
    obtain ⟨etag, hcontent⟩ := hl.taken old hold
    have hfree := (hc.receipts new hnew).1
    rw [← heq, hcontent] at hfree
    cases hfree
  case taken =>
    intro record hrecord
    rw [hconsumed] at hrecord
    rcases List.mem_append.mp hrecord with hold | hnew
    · obtain ⟨etag, hcontent⟩ := hl.taken record hold
      obtain ⟨transaction, -, hmem⟩ := List.mem_flatMap.mp hold
      obtain ⟨hstate, hdraft⟩ := receiptRowKey_ne (E := E) hmem
      refine ⟨etag, ?_⟩
      rcases hc.rows _ hstate with hsame | hnone | ⟨draft, _, _, hkey, -⟩
      · exact hsame.trans hcontent
      · rw [hcontent] at hnone
        cases hnone
      · exact absurd hkey (hdraft draft)
    · exact (hc.receipts record hnew).2

/-! ## The steps -/

/-- The table after an initialization that takes effect. -/
theorem bootstrap_effect (hs : SerialHistory E h)
    (hsubmit : h.now.submit (bootstrapBatch E) = some table) :
    (∀ k, h.now.content k = none) ∧ Committed E table ∧ generationOf table = some 1 ∧
      (∀ k, k ≠ stateRowKey → table.content k = none) ∧
      ∃ e etag, h.now.next ≤ etag ∧ table.content stateRowKey = some (e, etag) := by
  obtain ⟨habsent, etag, hle, hstate⟩ := Table.submit_written hsubmit List.mem_cons_self
  have hnone := (hs.committed h.now List.mem_cons_self).fresh habsent
  have hrows : ∀ k, k ≠ stateRowKey → table.content k = none := by
    intro k hk
    refine (Table.submit_frame hsubmit ?_).trans (hnone k)
    rw [bootstrapBatch, List.map_singleton, List.mem_singleton]
    exact hk
  have hcommitments : StoreEncoding.commitments [] = StoreEncoding.commitments (rowsOf table) := by
    refine (commitments_eq_iff (a := []) List.nodup_nil (keys_entitiesOf ▸ table.rows.distinct)).mpr
      fun k hk => ?_
    have hlookup : lookup k table.rows.entries = none := hrows k hk
    rw [rowsOf, lookup_entitiesOf, hlookup]
    rfl
  refine ⟨hnone, ?_, ?_, hrows, _, etag, hle, hstate⟩
  · constructor
    case state =>
      intro e etag' hcontent
      have he := (Prod.mk.inj (Option.some.inj (hstate.symm.trans hcontent))).1
      refine ⟨1, [], he.symm.trans ?_⟩
      rw [E.partitionAnchor_congr hcommitments]
    case fresh =>
      intro hfresh
      exact absurd (hstate.symm.trans hfresh) (Option.some_ne_none _)
    case written =>
      intro k e etag' hcontent hk
      exact absurd (hcontent.symm.trans (hrows k hk)) (Option.some_ne_none _)
    case gapless =>
      refine ⟨0, fun i hi hle => by omega, fun k e etag' hcontent haudit => ?_⟩
      by_cases hk : k = stateRowKey
      · subst hk
        have he := (Prod.mk.inj (Option.some.inj (hstate.symm.trans hcontent))).1
        rw [← he] at haudit
        cases haudit
      · exact absurd (hcontent.symm.trans (hrows k hk)) (Option.some_ne_none _)
  · have hstate : table.content stateRowKey =
        some (.state 1 (E.partitionAnchor [] [] 1), etag) := hstate
    rw [generationOf, hstate]

omit [DecidableEq ι] in
theorem serial_bootstrapped (hs : Serial E s) :
    Serial E { s with history := s.history.attempt (bootstrapBatch E) fault } := by
  cases heffect : s.history.effect (bootstrapBatch E) fault with
  | none =>
    rw [TableHistory.attempt_none heffect]
    exact hs
  | some table =>
    rw [TableHistory.attempt_some heffect]
    have hsubmit := TableHistory.effect_some heffect
    obtain ⟨hnone, hcommitted, hgeneration, hrows, hstate⟩ := bootstrap_effect hs.history hsubmit
    have hempty : s.log = [] := by
      rcases hs.log.current with hcurrent | ⟨hempty, -⟩
      · rw [generationOf_none (hnone stateRowKey)] at hcurrent
        cases hcurrent
      · exact hempty
    constructor
    case history =>
      exact serialHistory_advance hs.history hsubmit hcommitted hstate
        fun k _ _ => .inr (hnone k)
    case log =>
      rw [hempty]
      refine ⟨rfl, .inl hgeneration, List.nodup_nil, fun record hrecord => ?_⟩
      cases hrecord
    case held =>
      intro transaction view hview
      exact heldView_advance (hs.held transaction view hview) hsubmit

theorem serial_scanned (hdigest : Distinguishes E) (hs : Serial E s)
    {transaction : ι} {rows : List (String × StoreEntity × ℕ)} (hscans : s.history.Scans rows) :
    Serial E { s with held := Function.update s.held transaction (enter E rows).toOption } where
  history := hs.history
  log := hs.log
  held other view hview := by
    by_cases hother : other = transaction
    · subst hother
      simp only [Function.update_self] at hview
      have henter : enter E rows = .ok view := by
        cases hresult : enter E rows with
        | error e =>
          rw [hresult] at hview
          cases hview
        | ok found =>
          rw [hresult] at hview
          rw [Option.some.inj hview]
      obtain ⟨⟨hcreates, hupdates, hpersisted⟩, hread⟩ :=
        reads_of_enter hdigest hs.history.committed hscans henter
      refine ⟨hcreates, hupdates, fun k copy hcopy => ?_, hread⟩
      have hfound : lookup k rows = some copy := hpersisted ▸ hcopy
      exact hs.history.sound.remembers_scan hscans (mem_of_lookup hfound)
    · simp only [Function.update_of_ne hother] at hview
      exact hs.held other view hview

theorem serial_committed (hs : Serial E s) {transaction : ι}
    (hholds : s.held transaction = some view) :
    Serial E { afterCommit E s view writes fault with
      held := Function.update s.held transaction none } := by
  have hheld : ∀ other found, Function.update s.held transaction none other = some found →
      HeldView E s.history found := by
    intro other found hfound
    by_cases hother : other = transaction
    · subst hother
      rw [Function.update_self] at hfound
      cases hfound
    · rw [Function.update_of_ne hother] at hfound
      exact hs.held other found hfound
  unfold afterCommit
  cases heffect : committedTable E s.history view writes fault with
  | none => exact ⟨hs.history, hs.log, hheld⟩
  | some table =>
    obtain ⟨hcommits, hcommitted, ⟨batch, hsubmit⟩, hstate⟩ :=
      commit_effect hs.history (hs.held transaction view hholds) heffect
    refine ⟨?_, serialLog_commit hs.log hcommits, fun other found hfound => ?_⟩
    · refine serialHistory_advance hs.history hsubmit hcommitted hstate fun k hk hdraft => ?_
      rcases hcommits.rows k hk with hsame | hnone | ⟨draft, _, _, hkey, -⟩
      · exact .inl hsame
      · exact .inr hnone
      · exact absurd hkey (hdraft draft)
    · exact heldView_advance (hheld other found hfound) hsubmit

/-- Every step keeps the invariant. -/
theorem serial_step (hdigest : Distinguishes E) {action : PartitionAction γ δ ι}
    {s' : Partition γ δ ι} (hs : Serial E s) (hstep : PartitionStep E s action s') :
    Serial E s' := by
  cases hstep with
  | bootstrapped fault digests => exact serial_bootstrapped hs
  | scanned transaction rows scans => exact serial_scanned hdigest hs scans
  | committed transaction writes fault view holds => exact serial_committed hs holds

/-- Every reachable partition is serial. -/
theorem serial_of_reachable (hdigest : Distinguishes E)
    (hr : (partitionSystem E ι).Reachable s) : Serial E s := by
  refine hr.invariant (P := Serial E) ?_ ?_
  · intro start ⟨hhistory, hlog, hheld⟩
    exact serial_start hhistory hlog hheld
  · intro s action s' _ hs hstep
    exact serial_step hdigest hs hstep

/-! ## The runs -/

/-- The idempotency key that a receipt uses up, for its kind and actor. -/
def idempotencyKey : StoreRecord γ δ → Option (RecordKind × String × String)
  | .receipt receipt => some (.receipt, receipt.actorId, receipt.idempotencyKey)
  | .cohortDecisionReceipt receipt =>
    some (.cohortDecisionReceipt, receipt.actorId, receipt.idempotencyKey)
  | _ => none

/-- The idempotency keys that the transactions used up. -/
def consumedKeys (log : List (CommittedTransaction γ δ)) : List (RecordKind × String × String) :=
  (consumedReceipts log).filterMap idempotencyKey

/-- Receipts of one idempotency key have one row. -/
theorem rowKey_of_idempotencyKey {a b : StoreRecord γ δ} {key : RecordKind × String × String}
    (ha : idempotencyKey a = some key) (hb : idempotencyKey b = some key) :
    E.rowKey a = E.rowKey b := by
  cases a <;> cases ha <;> cases b <;> simp only [idempotencyKey, Option.some.injEq,
    Prod.mk.injEq, reduceCtorEq, false_and, true_and] at hb
  · rw [StoreEncoding.rowKey, StoreEncoding.rowKey, hb.1, hb.2]
  · rw [StoreEncoding.rowKey, StoreEncoding.rowKey, hb.1, hb.2]

/-- An idempotency key is used up at most once. -/
theorem consumedKeys_nodup {now : Table String StoreEntity} (hl : SerialLog E now log) :
    (consumedKeys log).Nodup := by
  refine List.Pairwise.filterMap idempotencyKey ?_ (List.pairwise_map.mp hl.distinct)
  intro a b hne key ha other hb heq
  exact hne (rowKey_of_idempotencyKey ha (heq ▸ hb))

/-- A batch that is reported done has taken effect. -/
theorem committedTable_of_done (hrequested : requestedBatch E view writes = some batch)
    (hdone : h.outcome batch fault = .done) : ∃ table, committedTable E h view writes fault = some table := by
  cases heffect : h.effect batch fault with
  | none => exact absurd hdone (TableHistory.outcome_of_effect_none heffect)
  | some table => exact ⟨table, by rw [committedTable, hrequested]; exact heffect⟩

/-- Over every interleaving of any number of transactions that scan a partition row by
row and commit by conditional batches: an open transaction has read exactly one committed
table; a batch that is reported done took effect, and it takes effect only when the table
that was read is the current one, of the next generation; the transactions that took
effect are the generations in order, with every idempotency key at most once; the audit
events of the partition have no gap; and a row other than the state row and the drafts
stays as it was written. -/
theorem durable_transactions_are_serializable (hdigest : Distinguishes E)
    (hr : (partitionSystem E ι).Reachable s) :
    (∀ transaction view, s.held transaction = some view →
      (∃ t ∈ tables s.history, ReadsTable E view t ∧ ∀ u ∈ tables s.history,
        ReadsTable E view u → ∀ k, u.content k = t.content k) ∧
      ∀ writes fault,
        (∀ batch, requestedBatch E view writes = some batch →
          s.history.outcome batch fault = .done →
            ∃ table, committedTable E s.history view writes fault = some table) ∧
        ∀ table, committedTable E s.history view writes fault = some table →
          Commits E view writes s.history.now table) ∧
    (SerialLog E s.history.now s.log ∧ (consumedKeys s.log).Nodup) ∧
    (∃ last, Gapless E s.history.now last) ∧
    ∀ t ∈ s.history.past, ∀ k copy, t.content k = some copy → k ≠ stateRowKey →
      (∀ draft, k ≠ E.rowKey (.draft draft)) → s.history.now.content k = some copy := by
  have hs := serial_of_reachable hdigest hr
  refine ⟨fun transaction view hview => ⟨?_, fun writes fault => ⟨?_, ?_⟩⟩, ⟨hs.log, ?_⟩, ?_, ?_⟩
  · obtain ⟨t, ht, hread⟩ := (hs.held transaction view hview).read
    refine ⟨t, ht, hread, fun u hu hother => ?_⟩
    -- both tables have the state row that was read
    have hsame := hother.state.trans hread.state.symm
    cases hstate : t.content stateRowKey with
    | none =>
      have hgeneration := hread.generation
      rw [generationOf_none hstate] at hgeneration
      cases hgeneration
    | some copy => exact hs.history.states t ht u hu copy hstate (hsame.trans hstate)
  · exact fun batch hrequested hdone => committedTable_of_done hrequested hdone
  · exact fun table heffect => (commit_effect hs.history (hs.held transaction view hview) heffect).1
  · exact consumedKeys_nodup hs.log
  · exact (hs.history.committed s.history.now List.mem_cons_self).gapless
  · exact hs.history.kept

/-! ## Two transactions that contend -/

/-- The texts of the last audit event. -/
def tailTexts : Option (ℕ × String) → List String
  | none => ["none", "", ""]
  | some (sequence, eventDigest) => ["some", zeroPadded 0 sequence, eventDigest]

/-- The texts of a document, told apart by the first one. -/
def documentTexts : ArtifactDocument → List String
  | .rowKey kind components => "row" :: kind :: components
  | .record canonicalJson => ["record", canonicalJson]
  | .chunk parentRowKey chunkIndex recordJsonChunk =>
    ["chunk", parentRowKey, zeroPadded 0 chunkIndex, recordJsonChunk]
  | .partition workloadId generation entities auditTail =>
    "partition" :: workloadId :: zeroPadded 0 generation :: (tailTexts auditTail ++
      entities.flatMap fun entity => [entity.rowKey, entity.kind, entity.recordDigest])

/-- Every character is marked, and so is the end of a text. -/
def markedText (text : String) : List Char := (text.toList.flatMap fun c => ['x', c]) ++ ['y']

/-- The texts that marked characters stand for. -/
def readTexts (current : List Char) : List Char → List String
  | 'x' :: c :: rest => readTexts (current ++ [c]) rest
  | 'y' :: rest => String.ofList current :: readTexts [] rest
  | _ => []

/-- A digest without collisions: the marked texts of the document. -/
def documentDigest (document : ArtifactDocument) : String :=
  String.ofList ((documentTexts document).flatMap markedText)

theorem readTexts_marked {text current rest : List Char} :
    readTexts current ((text.flatMap fun c => ['x', c]) ++ 'y' :: rest) =
      String.ofList (current ++ text) :: readTexts [] rest := by
  induction text generalizing current with
  | nil => simp [readTexts]
  | cons c text ih => simp [readTexts, ih]

theorem readTexts_markedTexts {texts : List String} :
    readTexts [] (texts.flatMap markedText) = texts := by
  induction texts with
  | nil => rfl
  | cons text rest ih =>
    rw [List.flatMap_cons, markedText, List.append_assoc, List.singleton_append, readTexts_marked, ih,
      List.nil_append, String.ofList_toList]

theorem entityTexts_injective {a b : List Commitment}
    (h : (a.flatMap fun entity => [entity.rowKey, entity.kind, entity.recordDigest]) =
      b.flatMap fun entity => [entity.rowKey, entity.kind, entity.recordDigest]) : a = b := by
  induction a generalizing b with
  | nil =>
    cases b with
    | nil => rfl
    | cons entity rest => simp at h
  | cons entity rest ih =>
    cases b with
    | nil => simp at h
    | cons other others =>
      simp only [List.flatMap_cons, List.cons_append, List.nil_append, List.cons.injEq] at h
      obtain ⟨hkey, hkind, hdigest, hrest⟩ := h
      rw [ih hrest]
      cases entity
      cases other
      simp_all

theorem tailTexts_injective {a b : Option (ℕ × String)} (h : tailTexts a = tailTexts b) :
    a = b := by
  cases a with
  | none =>
    cases b with
    | none => rfl
    | some other => simp [tailTexts] at h
  | some tail =>
    cases b with
    | none => simp [tailTexts] at h
    | some other =>
      simp only [tailTexts, List.cons.injEq, and_true, true_and] at h
      exact congrArg some (Prod.ext (zeroPadded_injective h.1) h.2)

theorem documentTexts_injective {a b : ArtifactDocument} (h : documentTexts a = documentTexts b) :
    a = b := by
  cases a with
  | rowKey kind components =>
    cases b <;> simp [documentTexts] at h
    rw [h.1, h.2]
  | record canonicalJson =>
    cases b <;> simp [documentTexts] at h
    rw [h]
  | chunk parentRowKey chunkIndex recordJsonChunk =>
    cases b <;> simp [documentTexts] at h
    rw [h.1, zeroPadded_injective h.2.1, h.2.2]
  | «partition» workloadId generation entities auditTail =>
    cases b <;> simp only [documentTexts, List.cons.injEq, reduceCtorEq, String.reduceEq, false_and,
      true_and] at h
    obtain ⟨hworkload, hgeneration, hrest⟩ := h
    have hlength : ∀ tail, (tailTexts tail).length = 3 := by
      rintro (_ | ⟨sequence, eventDigest⟩) <;> rfl
    obtain ⟨htail, hentities⟩ := List.append_inj hrest ((hlength _).trans (hlength _).symm)
    rw [hworkload, zeroPadded_injective hgeneration, tailTexts_injective htail,
      entityTexts_injective hentities]

theorem documentDigest_injective : Function.Injective documentDigest := by
  intro a b h
  have hchars := congrArg (readTexts []) (String.ofList_injective h)
  rw [readTexts_markedTexts, readTexts_markedTexts] at hchars
  exact documentTexts_injective hchars

/-- One step, when the action can be taken. -/
def takeAction (E : StoreEncoding γ δ) (s : Partition γ δ ι) :
    PartitionAction γ δ ι → Option (Partition γ δ ι)
  | .bootstrap fault =>
    if E.digestErrorOf [E.partitionDocument [] [] 1] = none then
      some { s with history := s.history.attempt (bootstrapBatch E) fault }
    else none
  | .scan transaction rows =>
    if s.history.Scans rows then
      some { s with held := Function.update s.held transaction (enter E rows).toOption }
    else none
  | .commit transaction writes fault =>
    (s.held transaction).map fun view =>
      { afterCommit E s view writes fault with held := Function.update s.held transaction none }

theorem step_of_takeAction {action : PartitionAction γ δ ι} {s' : Partition γ δ ι}
    (h : takeAction E s action = some s') : PartitionStep E s action s' := by
  cases action with
  | bootstrap fault =>
    simp only [takeAction, Option.ite_none_right_eq_some, Option.some.injEq] at h
    obtain ⟨hdigests, rfl⟩ := h
    exact .bootstrapped fault hdigests
  | scan transaction rows =>
    simp only [takeAction, Option.ite_none_right_eq_some, Option.some.injEq] at h
    obtain ⟨hscans, rfl⟩ := h
    exact .scanned transaction rows hscans
  | commit transaction writes fault =>
    obtain ⟨view, hview, rfl⟩ := Option.map_eq_some_iff.mp h
    exact .committed transaction writes fault view hview

/-- The actions of a run, as far as they can be taken. -/
def takeActions (E : StoreEncoding γ δ) (s : Partition γ δ ι) :
    List (PartitionAction γ δ ι) → Partition γ δ ι
  | [] => s
  | action :: rest => takeActions E ((takeAction E s action).getD s) rest

theorem reachable_takeActions {actions : List (PartitionAction γ δ ι)}
    (hr : (partitionSystem E ι).Reachable s) :
    (partitionSystem E ι).Reachable (takeActions E s actions) := by
  induction actions generalizing s with
  | nil => exact hr
  | cons action rest ih =>
    refine ih ?_
    cases h : takeAction E s action with
    | none => exact hr
    | some s' => exact .next hr (step_of_takeAction h)

/-- The members of a JSON object of texts. -/
def jsonMembers (fields : List (String × String)) : String :=
  ",".intercalate (fields.map fun field => "\"" ++ field.1 ++ "\":\"" ++ field.2 ++ "\"")

/-- The JSON text of a receipt whose target is a workload and whose answer is a text; the
records of the other kinds are not written here. -/
def receiptJson : StoreRecord Unit Unit → String
  | .receipt receipt => "\x7b" ++ jsonMembers
      [("actorId", receipt.actorId), ("idempotencyKey", receipt.idempotencyKey),
        ("operation", receipt.operation), ("requestDigest", receipt.requestDigest),
        ("responseType", receipt.responseType)] ++ "\x7d"
  | _ => ""

def curationReceipt : MutationReceipt (CanonicalWorkloadManifest Unit) where
  actorId := "curator"
  idempotencyKey := "key-1"
  operation := "context.draft.create"
  target := { manifestId := some "payments" }
  requestDigest := "sha256:1"
  responseType := "DraftRecord"
  responseJson := .inr "draft-1"

def paymentsEncoding : StoreEncoding Unit Unit where
  workloadId := "payments"
  artifactDigest := documentDigest
  digestError _ := none
  canonicalJson := receiptJson
  dumpJson := receiptJson
  validateJson kind recordJson :=
    if kind = .receipt ∧ recordJson = receiptJson (.receipt curationReceipt) then
      some (.receipt curationReceipt)
    else none
  auditEventDigest _ _ _ _ := .ok "sha256:0"
  normalizedIdentifier text := text

/-- The rows of a partition as one scan returns them. -/
def scanNow (s : Partition γ δ ι) : List (String × StoreEntity × ℕ) := s.history.now.rows.entries

def emptyPartition : Partition Unit Unit ℕ := ⟨⟨⟨.empty, 0⟩, []⟩, [], fun _ => none⟩

def bootstrappedPartition : Partition Unit Unit ℕ :=
  takeActions paymentsEncoding emptyPartition [.bootstrap .answered]

theorem payments_distinguishes : Distinguishes paymentsEncoding where
  records _ _ h := ArtifactDocument.record.inj (documentDigest_injective h)
  partitions _ _ _ _ _ _ _ _ h :=
    (ArtifactDocument.partition.inj (documentDigest_injective h)).2.2.1

/-- Two transactions have read the first generation, and the batch of one took effect
although its request was repeated by the transport. -/
def contendedPartition : Partition Unit Unit ℕ :=
  takeActions paymentsEncoding bootstrappedPartition
    [.scan 0 (scanNow bootstrappedPartition), .scan 1 (scanNow bootstrappedPartition),
      .commit 0 [.putReceipt curationReceipt] .repeated]

theorem reachable_contendedPartition :
    (partitionSystem paymentsEncoding ℕ).Reachable contendedPartition :=
  reachable_takeActions (reachable_takeActions (.start ⟨rfl, rfl, fun _ => rfl⟩))

/-- The other transaction holds the first generation, and the partition is at the second. -/
theorem durable_transactions_are_serializable_contended :
    (contendedPartition.held 1).isSome = true ∧ contendedPartition.log.length = 1 ∧
      (∀ view, contendedPartition.held 1 = some view →
        ∃ t ∈ tables contendedPartition.history, ReadsTable paymentsEncoding view t) ∧
      SerialLog paymentsEncoding contendedPartition.history.now contendedPartition.log := by
  have hserial := durable_transactions_are_serializable payments_distinguishes
    reachable_contendedPartition
  refine ⟨by decide +kernel, by decide +kernel, fun view hview => ?_, hserial.2.1.1⟩
  obtain ⟨t, ht, hread, -⟩ := (hserial.1 1 view hview).1
  exact ⟨t, ht, hread⟩

/-- Its own batch is refused, for the same key as for any other. -/
example : (takeActions paymentsEncoding contendedPartition
    [.commit 1 [.putReceipt curationReceipt] .answered]).log.length = 1 := by decide +kernel

end AthenaContext.DurableSerializability
