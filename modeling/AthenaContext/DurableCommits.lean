import AthenaContext.DurablePartitions

/-!
# What a commit does to a partition

A batch that takes effect finds the state row as the transaction read it. Equal state
rows mean equal tables, so the transaction has read the current generation; the batch
then adds rows under free keys, replaces drafts that are as they were read, and commits
the new rows at the next generation.
-/

namespace AthenaContext.DurableCommits

open ContextMutations
open DurableRecords DurableTransactions DurablePartitions
open OrdinalCollections Dictionaries FallibleResults Transactions
open ConditionalTables

variable {γ δ : Type} {E : StoreEncoding γ δ} {t u now table : Table String StoreEntity}
  {view after : DurableState γ δ} {writes : List (StoreWrite γ δ)} {k : String}
  {batch : List (TableWrite String StoreEntity)} {last : ℕ}

/-! ## Equal tables -/

theorem generationOf_congr (h : ∀ k, u.content k = t.content k) :
    generationOf u = generationOf t := by
  unfold generationOf
  rw [h]

theorem gapless_congr (h : ∀ k, u.content k = t.content k) (hg : Gapless E t last) :
    Gapless E u last where
  events i := by
    rw [h]
    exact hg.events i
  rows k := by
    rw [h]
    exact hg.rows k

/-- What was read of a table was read of every table with the same rows. -/
theorem readsTable_congr (h : ∀ k, u.content k = t.content k) (hr : ReadsTable E view t) :
    ReadsTable E view u where
  generation := (generationOf_congr h).trans hr.generation
  state := (h stateRowKey).trans hr.state
  rows k hk := by
    rw [h]
    exact hr.rows k hk
  records record hholds := by
    rw [h]
    exact hr.records record hholds
  sequences := hr.sequences
  gapless := gapless_congr h hr.gapless

/-! ## The operations of a batch -/

/-- A batch is asked for by writes that all returned. -/
theorem requestedBatch_some (h : requestedBatch E view writes = some batch) :
    ∃ after, Returns (runWrites E writes) view () after ∧ batch = commitOperations E after := by
  unfold requestedBatch at h
  split at h
  · rename_i after hrun
    refine ⟨after, hrun, ?_⟩
    split at h
    · cases hbatch : commitBatch E after with
      | error e =>
        rw [hbatch] at h
        cases h
      | ok operations =>
        rw [hbatch] at h
        simp only [commitBatch, ite_error_ok_iff, bind_ok_iff, pure_ok_iff] at hbatch
        obtain ⟨-, -, _, -, hoperations⟩ := hbatch
        rw [hoperations]
        exact (Option.some.inj h).symm
    · cases h
  · cases h

theorem create_mem {e : StoreEntity} (h : after.creates.get? k = some e) :
    .create k e ∈ commitOperations E after := by
  refine List.mem_append_left _ (List.mem_append_left _ ?_)
  exact List.mem_map.mpr ⟨(k, e), mem_sortOn.mpr (mem_of_lookup h), rfl⟩

theorem replace_mem {e : StoreEntity} {copy : StoreEntity × ℕ}
    (h : after.updates.get? k = some e) (hp : after.persisted.get? k = some copy) :
    .replace k copy.2 e ∈ commitOperations E after := by
  refine List.mem_append_left _ (List.mem_append_right _ ?_)
  refine List.mem_filterMap.mpr ⟨(k, e), mem_sortOn.mpr (mem_of_lookup h), ?_⟩
  rw [hp]
  rfl

theorem state_mem {copy : StoreEntity × ℕ} (h : after.persisted.get? stateRowKey = some copy) :
    .replace stateRowKey copy.2 (nextState E after) ∈ commitOperations E after := by
  refine List.mem_append_right _ ?_
  rw [h]
  exact List.mem_singleton.mpr rfl

/-- A key without a staged row is not written. -/
theorem not_mem_operations (hs : k ≠ stateRowKey) (hc : after.creates.get? k = none)
    (hu : after.updates.get? k = none) :
    k ∉ (commitOperations E after).map TableWrite.key := by
  intro hmem
  obtain ⟨w, hw, hkey⟩ := List.mem_map.mp hmem
  rcases List.mem_append.mp hw with hw | hw
  · rcases List.mem_append.mp hw with hw | hw
    · obtain ⟨entry, hentry, rfl⟩ := List.mem_map.mp hw
      have hkey : entry.1 = k := hkey
      have hfound := lookup_of_mem after.creates.distinct (mem_sortOn.mp hentry)
      rw [hkey] at hfound
      exact Option.some_ne_none _ (hfound.symm.trans hc)
    · obtain ⟨entry, hentry, hwrite⟩ := List.mem_filterMap.mp hw
      obtain ⟨copy, -, rfl⟩ := Option.map_eq_some_iff.mp hwrite
      have hkey : entry.1 = k := hkey
      have hfound := lookup_of_mem after.updates.distinct (mem_sortOn.mp hentry)
      rw [hkey] at hfound
      exact Option.some_ne_none _ (hfound.symm.trans hu)
  · rw [List.mem_singleton.mp hw] at hkey
    split at hkey <;> exact hs hkey.symm

/-! ## The rows after a batch -/

/-- What a batch does to a row beside the state row: it leaves the row, adds one under a
free key, or replaces one that is as it was read. -/
inductive CommittedRow (after : DurableState γ δ) (now table : Table String StoreEntity)
    (k : String) : Prop
  | kept (notUpdated : after.updates.get? k = none) (notCreated : after.creates.get? k = none)
      (same : table.content k = now.content k)
  | created (e : StoreEntity) (etag : ℕ) (notUpdated : after.updates.get? k = none)
      (created : after.creates.get? k = some e) (absent : now.content k = none)
      (row : table.content k = some (e, etag))
  | replaced (e : StoreEntity) (copy : StoreEntity × ℕ) (etag : ℕ)
      (updated : after.updates.get? k = some e) (read : after.persisted.get? k = some copy)
      (current : now.content k = some copy) (row : table.content k = some (e, etag))

/-- A replacement that is accepted finds a remembered row as it was read. -/
theorem current_of_replace {e : StoreEntity} {copy : StoreEntity × ℕ}
    (hsubmit : now.submit batch = some table) (hw : .replace k copy.2 e ∈ batch)
    (hr : (now.cell k).Remembers copy) :
    now.content k = some copy ∧ ∃ etag, now.next ≤ etag ∧ table.content k = some (e, etag) := by
  obtain ⟨haccepts, hrow⟩ := Table.submit_written hsubmit hw
  obtain ⟨found, hfound⟩ := haccepts
  have hfound : now.content k = some (found, copy.2) := hfound
  have hcopy : (found, copy.2) = copy := hr.2 _ hfound rfl
  exact ⟨hcopy ▸ hfound, hrow⟩

/-- Every row after the batch of a transaction. -/
theorem committedRow (hstages : Stages E view after) (hfresh : view.updates = .empty)
    (hremembers : ∀ k copy, view.persisted.get? k = some copy → (now.cell k).Remembers copy)
    (hsubmit : now.submit (commitOperations E after) = some table) (hs : k ≠ stateRowKey) :
    CommittedRow after now table k := by
  cases hu : after.updates.get? k with
  | some e =>
    rcases hstages.updated k e hu with hold | ⟨-, hsome⟩
    · rw [hfresh] at hold
      cases hold
    · obtain ⟨copy, hcopy⟩ := Option.isSome_iff_exists.mp hsome
      have hread : after.persisted.get? k = some copy := hstages.persisted_eq ▸ hcopy
      obtain ⟨hcurrent, etag, _, hrow⟩ :=
        current_of_replace hsubmit (replace_mem hu hread) (hremembers k copy hcopy)
      exact .replaced e copy etag hu hread hcurrent hrow
  | none =>
    cases hc : after.creates.get? k with
    | some e =>
      obtain ⟨habsent, etag, _, hrow⟩ := Table.submit_written hsubmit (create_mem (E := E) hc)
      exact .created e etag hu hc habsent hrow
    | none => exact .kept hu hc (Table.submit_frame hsubmit (not_mem_operations hs hc hu))

/-- The state row commits the rows of the new table. -/
theorem commitment_row (hrows : ∀ k, k ≠ stateRowKey →
      commitmentOf (now.content k) = commitmentOf (after.persisted.get? k))
    (hs : k ≠ stateRowKey) (h : CommittedRow after now table k) :
    ((committedEntities after).get? k).map StoreEntity.commitment =
      commitmentOf (table.content k) := by
  rw [committedEntities, Dictionary.get?_update, Dictionary.get?_update, Dictionary.get?_mapValues]
  cases h with
  | kept hu hc hsame =>
    rw [hu, hc, hsame, hrows k hs]
    exact Option.map_map ..
  | created e etag hu hc habsent hrow =>
    rw [hu, hc, hrow]
    rfl
  | replaced e copy etag hu hread hcurrent hrow =>
    rw [hu, hrow]
    rfl

/-! ## The new table -/

/-- What a transaction whose batch takes effect did: it had read the current generation,
the partition is at the next one, every row that it changed was free, or a draft that
was as it had been read, and each of its receipts took a free key. -/
structure Commits (E : StoreEncoding γ δ) (view : DurableState γ δ)
    (writes : List (StoreWrite γ δ)) (now table : Table String StoreEntity) : Prop where
  read : ReadsTable E view now
  generation : generationOf table = some (view.generation + 1)
  rows : ∀ k, k ≠ stateRowKey → table.content k = now.content k ∨ now.content k = none ∨
    ∃ draft copy etag, k = E.rowKey (.draft draft) ∧ view.persisted.get? k = some copy ∧
      now.content k = some copy ∧ table.content k = some (E.recordEntity (.draft draft), etag)
  distinct : ((receiptsOf writes).map E.rowKey).Nodup
  receipts : ∀ record ∈ receiptsOf writes, now.content (E.rowKey record) = none ∧
    ∃ etag, table.content (E.rowKey record) = some (E.recordEntity record, etag)

/-- The row of a receipt is neither the state row nor the row of a draft. -/
theorem receiptRowKey_ne {record : StoreRecord γ δ} (h : record ∈ receiptsOf writes) :
    E.rowKey record ≠ stateRowKey ∧ ∀ draft : Draft γ, E.rowKey record ≠ E.rowKey (.draft draft) := by
  obtain ⟨write, -, hreceipt⟩ := List.mem_filterMap.mp h
  cases write <;> cases hreceipt
  all_goals
    exact ⟨rowKeyForComponents_ne_state (by decide) (by decide),
      fun draft => rowKeyForComponents_ne_draft (by decide) (by decide)⟩

/-- The state row after a batch of a transaction that read the state row. -/
theorem state_row (hstages : Stages E view after) (hgeneration : (generationOf t).isSome = true)
    (hstate : t.content stateRowKey = view.persisted.get? stateRowKey)
    (hremembers : ∀ k copy, view.persisted.get? k = some copy → (now.cell k).Remembers copy)
    (hsubmit : now.submit (commitOperations E after) = some table) :
    ∃ copy, t.content stateRowKey = some copy ∧ now.content stateRowKey = some copy ∧
      ∃ etag, now.next ≤ etag ∧ table.content stateRowKey = some (nextState E after, etag) := by
  cases hcontent : t.content stateRowKey with
  | none =>
    rw [generationOf, hcontent] at hgeneration
    cases hgeneration
  | some copy =>
    rw [hcontent] at hstate
    have hread : after.persisted.get? stateRowKey = some copy := by
      rw [hstages.persisted_eq, ← hstate]
    obtain ⟨hcurrent, hrow⟩ :=
      current_of_replace hsubmit (state_mem hread) (hremembers _ copy hstate.symm)
    exact ⟨copy, rfl, hcurrent, hrow⟩

/-- The audit events of a transaction are numbered without a gap. -/
theorem sequences_after (hread : ReadsTable E view now) (hstages : Stages E view after) :
    after.store.audit.map (fun event => event.sequence) =
      List.range' 1 after.store.audit.length := by
  obtain ⟨appended, haudit, hnumbers, -⟩ := hstages.history
  rw [haudit, List.map_append, hread.sequences, hnumbers, List.length_append,
    ← List.range'_append_1, Nat.add_comm 1]

section Effect

variable (hread : ReadsTable E view now) (hstages : Stages E view after)
  (hcreates : view.creates = .empty) (hupdates : view.updates = .empty)
  (hrow : ∀ k, k ≠ stateRowKey → CommittedRow after now table k)

include hstages hcreates in
/-- A new row is a row of the store, under a free key. -/
theorem created_row {e : StoreEntity} (h : after.creates.get? k = some e) :
    view.persisted.get? k = none ∧ WrittenRow E k e ∧
      (isAudit e = true → ∃ event ∈ after.store.audit,
        view.store.audit.length < event.sequence ∧ k = auditRowKey event.sequence) := by
  rcases hstages.created k e h with hold | hnew
  · rw [hcreates] at hold
    cases hold
  · exact hnew

include hstages hupdates in
theorem updated_row {e : StoreEntity} (h : after.updates.get? k = some e) : DraftRow E k e := by
  rcases hstages.updated k e h with hold | ⟨hdraft, -⟩
  · rw [hupdates] at hold
    cases hold
  · exact hdraft

include hread hstages hcreates hupdates hrow

/-- The audit rows of the new table. -/
theorem gapless_after {etag : ℕ}
    (hstate : table.content stateRowKey = some (nextState E after, etag)) :
    Gapless E table after.store.audit.length := by
  obtain ⟨appended, haudit, hnumbers, hstaged⟩ := hstages.history
  have hlength : after.store.audit.length = view.store.audit.length + appended.length := by
    rw [haudit, List.length_append]
  constructor
  case events =>
    intro i hi hle
    by_cases hold : i ≤ view.store.audit.length
    · -- an old event keeps its row: the key is not free, and not that of a draft
      obtain ⟨event, hsequence, etag, hcontent⟩ := hread.gapless.events i hi hold
      refine ⟨event, hsequence, etag, ?_⟩
      cases hrow (auditRowKey i) auditRowKey_ne_state with
      | kept _ _ hsame => exact hsame.trans hcontent
      | created e etag _ _ habsent _ =>
        rw [hcontent] at habsent
        cases habsent
      | replaced e copy etag hu _ _ _ =>
        obtain ⟨draft, hkey, -⟩ := updated_row hstages hupdates hu
        exact absurd hkey auditRowKey_ne_draft
    · have hmem : i ∈ appended.map fun event => event.sequence := by
        rw [hnumbers, List.mem_range'_1]
        omega
      obtain ⟨event, hevent, hsequence⟩ := List.mem_map.mp hmem
      refine ⟨event, hsequence, ?_⟩
      have hcreated := hstaged event hevent
      rw [hsequence] at hcreated
      cases hrow (auditRowKey i) auditRowKey_ne_state with
      | kept _ hc _ =>
        rw [hc] at hcreated
        cases hcreated
      | created e etag _ hc _ hcontent =>
        rw [hc] at hcreated
        exact ⟨etag, Option.some.inj hcreated ▸ hcontent⟩
      | replaced e copy etag hu _ _ _ =>
        obtain ⟨draft, hkey, -⟩ := updated_row hstages hupdates hu
        exact absurd hkey auditRowKey_ne_draft
  case rows =>
    intro k e etag' hcontent haudits
    have hs : k ≠ stateRowKey := by
      rintro rfl
      rw [hstate] at hcontent
      have he := (Prod.mk.inj (Option.some.inj hcontent)).1
      rw [← he] at haudits
      cases haudits
    cases hrow k hs with
    | kept _ _ hsame =>
      obtain ⟨i, hi, hle, hkey⟩ := hread.gapless.rows k e etag' (hsame ▸ hcontent) haudits
      exact ⟨i, hi, by omega, hkey⟩
    | created e' etag'' _ hc _ hcontent' =>
      have he := (Prod.mk.inj (Option.some.inj (hcontent.symm.trans hcontent'))).1
      obtain ⟨-, -, hevent⟩ := created_row hstages hcreates (he ▸ hc)
      obtain ⟨event, hmem, hlt, hkey⟩ := hevent haudits
      have hnumber := (sequence_mem (sequences_after hread hstages)).mp ⟨event, hmem, rfl⟩
      exact ⟨event.sequence, hnumber.1, hnumber.2, hkey⟩
    | replaced e' copy etag'' hu _ _ hcontent' =>
      have he := (Prod.mk.inj (Option.some.inj (hcontent.symm.trans hcontent'))).1
      obtain ⟨draft, -, hentity⟩ := updated_row hstages hupdates hu
      rw [he, hentity] at haudits
      cases haudits

/-- The new table is committed at the next generation. -/
theorem committed_after (hnow : Committed E now) {etag : ℕ}
    (hstate : table.content stateRowKey = some (nextState E after, etag)) :
    Committed E table := by
  have hpersisted : ∀ k, k ≠ stateRowKey →
      commitmentOf (now.content k) = commitmentOf (after.persisted.get? k) := by
    intro k hs
    rw [hstages.persisted_eq]
    exact hread.rows k hs
  have hcommitments : StoreEncoding.commitments (committedEntities after).entries =
      StoreEncoding.commitments (rowsOf table) := by
    refine (commitments_eq_iff (committedEntities after).distinct
      (keys_entitiesOf ▸ table.rows.distinct)).mpr fun k hs => ?_
    rw [rowsOf, lookup_entitiesOf, Option.map_map]
    exact commitment_row hpersisted hs (hrow k hs)
  constructor
  case state =>
    intro e etag' hcontent
    rw [hstate] at hcontent
    have he := (Prod.mk.inj (Option.some.inj hcontent)).1
    refine ⟨after.generation + 1, after.store.audit, he.symm.trans ?_⟩
    rw [nextState, E.partitionAnchor_congr hcommitments]
  case fresh =>
    intro hnone
    rw [hstate] at hnone
    cases hnone
  case written =>
    intro k e etag' hcontent hs
    cases hrow k hs with
    | kept _ _ hsame => exact hnow.written k e etag' (hsame ▸ hcontent) hs
    | created e' etag'' _ hc _ hcontent' =>
      have he := (Prod.mk.inj (Option.some.inj (hcontent.symm.trans hcontent'))).1
      exact he ▸ (created_row hstages hcreates hc).2.1
    | replaced e' copy etag'' hu _ _ hcontent' =>
      have he := (Prod.mk.inj (Option.some.inj (hcontent.symm.trans hcontent'))).1
      exact he ▸ (updated_row hstages hupdates hu).written
  case gapless =>
    exact ⟨_, gapless_after hread hstages hcreates hupdates hrow hstate⟩

omit hcreates in
/-- A transaction whose batch took effect at the current generation. -/
theorem commits_after (hreturns : Returns (runWrites E writes) view () after) {etag : ℕ}
    (hstate : table.content stateRowKey = some (nextState E after, etag)) :
    Commits E view writes now table := by
  obtain ⟨hdistinct, hreceipts⟩ := receipts_staged hreturns
  constructor
  case read => exact hread
  case generation =>
    rw [generationOf, hstate, nextState, hstages.generation_eq]
  case rows =>
    intro k hs
    cases hrow k hs with
    | kept _ _ hsame => exact .inl hsame
    | created e etag _ _ habsent _ => exact .inr (.inl habsent)
    | replaced e copy etag hu hcopy hcurrent hcontent =>
      obtain ⟨draft, hkey, hentity⟩ := updated_row hstages hupdates hu
      refine .inr (.inr ⟨draft, copy, etag, hkey, hstages.persisted_eq ▸ hcopy, hcurrent, ?_⟩)
      rw [← hentity]
      exact hcontent
  case distinct => exact hdistinct
  case receipts =>
    intro record hmem
    obtain ⟨hnone, _, hcreated⟩ := hreceipts record hmem
    cases hrow _ (receiptRowKey_ne (E := E) hmem).1 with
    | kept _ hc _ =>
      rw [hc] at hcreated
      cases hcreated
    | created e etag _ hc habsent hcontent =>
      rw [hc] at hcreated
      exact ⟨habsent, etag, Option.some.inj hcreated ▸ hcontent⟩
    | replaced e copy etag _ hcopy _ _ =>
      rw [hstages.persisted_eq, hnone] at hcopy
      cases hcopy

end Effect

end AthenaContext.DurableCommits
