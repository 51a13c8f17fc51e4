import AthenaContext.FeedRegistryTable

/-!
# Exact counts of the feed registry

In every reachable state the capacity row counts the incident rows. The count
is changed together with the rows, under the token of the count that the writer
has read, so a stale writer is refused; while there is no capacity row no batch
that adds or removes rows can succeed, so the count of whoever creates it is
still right. A put writes after it has found its authority current once more,
later than the row it replaces was put, and a cleanup deletes under the tokens
of the very rows that it compared with its plan.
-/

namespace AthenaContext.FeedRegistryCounts

open IncidentRecords FeedRegistryRecords FeedRegistryTable ConditionalStores ConditionalTables
  TransitionSystems FallibleResults

/-- The number of incident rows. -/
def incidentRows (t : Table String RegistryEntity) : ℕ :=
  t.rowCount fun key => key != capacityRowKey

section Authority

variable {encoding : Encoding} {record : IncidentFeedRegistryRecord}
  {expected a b c : CurrentIncidentStateSnapshot}

theorem Precedes.trans (hab : Precedes a b) (hbc : Precedes b c) : Precedes a c := by
  rcases hab with rfl | hab
  · exact hbc
  · rcases hbc with rfl | hbc
    · exact .inr hab
    · exact .inr (lt_trans hab hbc)

theorem Precedes.refl (a : CurrentIncidentStateSnapshot) : Precedes a a := .inl rfl

/-- A verified authority is the current one. -/
theorem requireCurrentAuthority_ok {current : Option CurrentIncidentStateSnapshot}
    {validated : CurrentIncidentStateSnapshot}
    (h : requireCurrentAuthority encoding record expected current = .ok validated) :
    current = some expected ∧ Validates encoding record expected := by
  unfold requireCurrentAuthority at h
  split at h
  · cases h
  · rename_i found occurrence hfound
    split at h
    · cases h
    · rename_i hsame
      have hsame := not_not.mp hsame
      subst hsame
      have hcurrent := (validateAuthority_ok hfound).1
      rw [hcurrent] at hfound
      exact ⟨hcurrent, occurrence, hfound⟩

theorem validates_of_ok {authority : Option CurrentIncidentStateSnapshot}
    {occurrence : IncidentOccurrenceReceipt}
    (h : validateIncidentFeedRegistryRecordAuthority encoding record authority =
      .ok (expected, occurrence)) : Validates encoding record expected := by
  have hsome := (validateAuthority_ok h).1
  rw [hsome] at h
  exact ⟨occurrence, h⟩

end Authority

/-! ## Snapshots -/

section Snapshots

variable {digests : FeedDigests} {encoding : Encoding} {rows : List RegistryRow}
  {snapshot : RegistrySnapshot}

/-- A pass that finds no capacity row counts the incident rows that it took. -/
theorem readSnapshot_inl {n : ℕ} (h : readSnapshot digests rows = .ok (.inl n)) :
    n = (readBoundedPartition rows).length := by
  unfold readSnapshot at h
  dsimp only at h
  split at h
  · rename_i hnone
    have hn := Sum.inl.inj (Except.ok.inj h)
    have hall : (readBoundedPartition rows).filter (fun row => row.1 != capacityRowKey) =
        readBoundedPartition rows := by
      rw [List.filter_eq_self]
      intro row hrow
      have hnot := List.filter_eq_nil_iff.mp hnone row hrow
      simpa using hnot
    rw [← hn, hall]
  · split at h
    · cases h
    · split at h
      · cases h
      · split at h
        · cases h
        · split at h
          · cases h
          · split at h
            · cases h
            · cases h
  · cases h

/-- What a snapshot holds: rows of the scan that parse, one for each incident,
and a capacity row that counts them. -/
structure SnapshotOf (digests : FeedDigests) (rows : List RegistryRow)
    (snapshot : RegistrySnapshot) : Prop where
  capacity : ∃ entity, (capacityRowKey, entity, snapshot.capacityEtag) ∈ rows ∧
    parseCapacityEntity entity = .ok snapshot.records.length
  records : ∀ row ∈ snapshot.records, row.1 ∈ rows ∧
    parseEntity digests row.1.1 row.1.2.1 = .ok row.2
  distinct : (snapshot.records.map fun row => row.2.entry.incidentId).Nodup

theorem parseRow_ok {row : RegistryRow} {parsed : ParsedRow}
    (h : parseRow digests row = .ok parsed) :
    parsed.1 = row ∧ parseEntity digests parsed.1.1 parsed.1.2.1 = .ok parsed.2 := by
  unfold parseRow at h
  split at h
  · cases h
  · rename_i record hrecord
    cases h
    exact ⟨rfl, hrecord⟩

theorem readSnapshot_inr (h : readSnapshot digests rows = .ok (.inr snapshot)) :
    SnapshotOf digests rows snapshot := by
  unfold readSnapshot at h
  dsimp only at h
  have htake : ∀ row ∈ readBoundedPartition rows, row ∈ rows := fun row hrow =>
    List.mem_of_mem_take hrow
  split at h
  · cases h
  · rename_i capacity hcapacity
    split at h
    · cases h
    · split at h
      · cases h
      · rename_i parsed hparsed
        split at h
        · cases h
        · rename_i hdistinct
          split at h
          · cases h
          · rename_i retainedCount hretained
            split at h
            · cases h
            · rename_i hlength
              cases h
              have hmem : capacity ∈ (readBoundedPartition rows).filter
                  fun row => row.1 == capacityRowKey := by
                rw [hcapacity]
                exact List.mem_singleton.mpr rfl
              obtain ⟨hrow, hkey⟩ := List.mem_filter.mp hmem
              have hkey : capacity.1 = capacityRowKey := by simpa using hkey
              refine ⟨⟨capacity.2.1, ?_, ?_⟩, fun row hrow => ?_, not_not.mp hdistinct⟩
              · have he : (capacityRowKey, capacity.2.1, capacity.2.2) = capacity := by rw [← hkey]
                rw [he]
                exact htake capacity hrow
              · rw [hretained, not_not.mp hlength]
              · obtain ⟨source, hsource, hparse⟩ := mapM_ok_right hparsed hrow
                obtain ⟨hsame, hok⟩ := parseRow_ok hparse
                rw [hsame]
                refine ⟨htake source (List.mem_filter.mp hsource).1, ?_⟩
                rw [← hsame]
                exact hok
  · cases h

theorem SnapshotOf.rowOf (hs : SnapshotOf digests rows snapshot) {id : String} {row : ParsedRow}
    (h : snapshot.rowOf id = some row) :
    row ∈ snapshot.records ∧ row.2.entry.incidentId = id ∧ row.1.1 = id := by
  have hmem := List.mem_of_find?_eq_some h
  have hid : row.2.entry.incidentId = id := by simpa using List.find?_some h
  refine ⟨hmem, hid, ?_⟩
  rw [← (parseEntity_ok (hs.records row hmem).2).1, hid]

/-- A new row is created only below the bound. -/
theorem decidePut_create {record : IncidentFeedRegistryRecord}
    {expected : CurrentIncidentStateSnapshot} {etag n : ℕ}
    (h : decidePut digests encoding record expected snapshot = .ok (some (.create etag n))) :
    etag = snapshot.capacityEtag ∧ n = snapshot.records.length ∧ n < maxFeedV2RegistryRecords := by
  unfold decidePut at h
  split at h
  · split at h
    · cases h
    · rename_i hroom
      cases h
      exact ⟨rfl, rfl, Nat.lt_of_not_le hroom⟩
  · split at h
    · cases h
    · split at h
      · cases h
      · split at h <;> cases h

/-- A row is replaced only when the present authority does not validate it. -/
theorem decidePut_replace {record : IncidentFeedRegistryRecord}
    {expected : CurrentIncidentStateSnapshot} {etag : ℕ} (hs : SnapshotOf digests rows snapshot)
    (h : decidePut digests encoding record expected snapshot = .ok (some (.replace etag))) :
    ∃ entity existing, (record.entry.incidentId, entity, etag) ∈ rows ∧
      parseEntity digests record.entry.incidentId entity = .ok existing ∧
      ¬ Validates encoding existing expected := by
  unfold decidePut at h
  split at h
  · split at h
    · cases h
    · cases h
  · rename_i row found hfound
    obtain ⟨hmem, -, hkey⟩ := hs.rowOf hfound
    have hrow := (hs.records _ hmem).1
    dsimp only at hkey hrow
    split at h
    · cases h
    · rename_i existing hexisting
      split at h
      · cases h
      · split at h
        · rename_i message hconflict
          cases h
          refine ⟨row.2.1, existing, ?_, ?_, ?_⟩
          · have he : (record.entry.incidentId, row.2.1, row.2.2) = row := by rw [← hkey]
            rw [he]
            exact hrow
          · rw [← hkey]
            exact hexisting
          · rintro ⟨occurrence, hvalid⟩
            rw [hconflict] at hvalid
            cases hvalid
        · cases h
        · cases h

/-- What is left of the pending records is in the snapshot, unchanged. -/
theorem checkPending_ok {pending kept : List IncidentFeedRegistryRecord}
    (h : checkPending snapshot pending = .ok kept) :
    ∀ record ∈ kept, record ∈ pending ∧
      ∀ row, snapshot.rowOf record.entry.incidentId = some row → row.2 = record := by
  unfold checkPending at h
  split at h
  · cases h
  · rename_i hnone
    cases h
    intro record hrecord
    have hmem := (List.mem_filter.mp hrecord).1
    refine ⟨hmem, fun row hrow => ?_⟩
    rw [Bool.not_eq_true, List.any_eq_false] at hnone
    have hsame := hnone record hmem
    rw [hrow] at hsame
    simpa using hsame

/-- The rows that a pass deletes are scanned rows that hold pending records. -/
theorem mem_expiredRows {pending kept : List IncidentFeedRegistryRecord} {row : ParsedRow}
    (hs : SnapshotOf digests rows snapshot) (hkept : checkPending snapshot pending = .ok kept)
    (h : row ∈ expiredRows snapshot kept) :
    row.1 ∈ rows ∧ parseEntity digests row.1.1 row.1.2.1 = .ok row.2 ∧ row.2 ∈ kept := by
  obtain ⟨record, hrecord, hrow⟩ := List.mem_filterMap.mp h
  have hrecord : record ∈ kept := by
    have hsorted := List.mem_of_mem_take hrecord
    simpa using hsorted
  obtain ⟨hscanned, hparse⟩ := hs.records row (hs.rowOf hrow).1
  refine ⟨hscanned, hparse, ?_⟩
  rw [(checkPending_ok hkept record hrecord).2 row hrow]
  exact hrecord

end Snapshots

/-! ## Counting -/

section Counting

variable {t u : Table String RegistryEntity} {batch : List (TableWrite String RegistryEntity)}

/-- The capacity row, where there is one, counts the incident rows. -/
def Counted (t : Table String RegistryEntity) : Prop :=
  ∀ entity etag, t.content capacityRowKey = some (entity, etag) →
    entity = capacityEntity (incidentRows t) ∧ incidentRows t ≤ maxFeedV2RegistryRecords

/-- A capacity row that was read and still has its token counts the incident rows. -/
theorem Counted.of_remembered {entity : RegistryEntity} {etag n : ℕ} (hc : Counted t)
    (hr : (t.cell capacityRowKey).Remembers (entity, etag))
    (hparse : parseCapacityEntity entity = .ok n)
    (haccepted : ∃ row, t.content capacityRowKey = some (row, etag)) :
    n = incidentRows t ∧ incidentRows t ≤ maxFeedV2RegistryRecords := by
  obtain ⟨row, hrow⟩ := haccepted
  have hsame : (row, etag) = (entity, etag) := hr.2 (row, etag) hrow rfl
  rw [hsame] at hrow
  have hcount := (hc entity etag hrow).1
  rw [hcount] at hparse
  exact parseCapacityEntity_ok hparse

/-- Without a capacity row every row is an incident row. -/
theorem incidentRows_of_none (h : t.content capacityRowKey = none) :
    incidentRows t = t.keys.length := by
  refine List.countP_eq_length.mpr fun key hkey => ?_
  have hsome := Table.mem_keys.mp hkey
  have hne : key ≠ capacityRowKey := by
    rintro rfl
    rw [h] at hsome
    cases hsome
  simpa using hne

/-- A scan of a partition whose rows were never added or removed has a row for
each of them. -/
theorem length_scan {h : TableHistory String RegistryEntity} {rows : List RegistryRow}
    (hscan : h.Scans rows) (hsame : ∀ past ∈ h.past, ∀ key, key ∈ past.keys ↔ key ∈ h.now.keys) :
    rows.length = h.now.keys.length := by
  have hkeys : ∀ key, key ∈ rows.map Prod.fst ↔ key ∈ h.now.keys := by
    intro key
    constructor
    · intro hkey
      obtain ⟨row, hrow, rfl⟩ := List.mem_map.mp hkey
      obtain ⟨past, hpast, hcontent⟩ := hscan.seen row hrow
      have hmem : row.1 ∈ past.keys := Table.mem_keys.mpr (by rw [hcontent]; rfl)
      rcases List.mem_cons.mp hpast with rfl | hpast
      · exact hmem
      · exact (hsame past hpast row.1).mp hmem
    · intro hkey
      rcases hscan.complete key hkey with hrow | ⟨past, hpast, habsent⟩
      · exact hrow
      · exact absurd ((hsame past hpast key).mpr hkey) habsent
  have hperm : (rows.map Prod.fst).Perm h.now.keys :=
    (List.perm_ext_iff_of_nodup hscan.distinct h.now.rows.distinct).mpr hkeys
  have hlength := hperm.length_eq
  rwa [List.length_map] at hlength

end Counting

/-! ## The invariant -/

section Invariant

variable (digests : FeedDigests) (encoding : Encoding)

/-- What a call relies on. -/
def CallInvariant : RegistryCall → Prop
  | .put record expected =>
    validateRecord digests record = .ok record ∧ Validates encoding record expected
  | .prune plan pending _ =>
    ∀ record ∈ pending, record ∈ plan.records ∧ expiredAt plan.asOf record = true

/-- The capacity row that a writer has read. -/
def CapacityRead (t : Table String RegistryEntity) (etag n : ℕ) : Prop :=
  ∃ entity, (t.cell capacityRowKey).Remembers (entity, etag) ∧
    parseCapacityEntity entity = .ok n

/-- What the write of a put relies on before its authority is verified again. -/
def WriteDecided (s : RegistryState) (record : IncidentFeedRegistryRecord)
    (expected : CurrentIncidentStateSnapshot) : PutWrite → Prop
  | .create etag n => n < maxFeedV2RegistryRecords ∧ CapacityRead s.table.now etag n
  | .replace etag =>
    ∃ entity existing, (s.table.now.cell record.entry.incidentId).Remembers (entity, etag) ∧
      parseEntity digests record.entry.incidentId entity = .ok existing ∧
      ¬ Validates encoding existing expected

/-- What it relies on afterwards: the row, if it is still there, was put under
an earlier authority. -/
def WriteVerified (s : RegistryState) (record : IncidentFeedRegistryRecord)
    (expected : CurrentIncidentStateSnapshot) : PutWrite → Prop
  | .create etag n => n < maxFeedV2RegistryRecords ∧ CapacityRead s.table.now etag n
  | .replace etag =>
    ∃ entity existing, (s.table.now.cell record.entry.incidentId).Remembers (entity, etag) ∧
      parseEntity digests record.entry.incidentId entity = .ok existing ∧
      (s.table.now.content record.entry.incidentId = some (entity, etag) →
        ∃ authority, s.admitted record.entry.incidentId = some authority ∧
          Validates encoding existing authority ∧
          authority.pointer.publishedAt < expected.pointer.publishedAt)

/-- What a client relies on. -/
def PhaseInvariant (s : RegistryState) : RegistryPhase → Prop
  | .idle _ => True
  | .admitting record expected => CallInvariant digests encoding (.put record expected)
  | .reading call _ => CallInvariant digests encoding call
  | .initializing call _ n =>
    CallInvariant digests encoding call ∧ n ≤ maxFeedV2RegistryRecords ∧
      (s.table.now.content capacityRowKey = none → n = incidentRows s.table.now)
  | .verifying record expected write =>
    CallInvariant digests encoding (.put record expected) ∧
      WriteDecided digests encoding s record expected write
  | .writing record expected write =>
    CallInvariant digests encoding (.put record expected) ∧
      WriteVerified digests encoding s record expected write ∧
      ∃ current, s.authority record.entry.incidentId = some current ∧ Precedes expected current
  | .confirming record expected => CallInvariant digests encoding (.put record expected)
  | .deleting plan pending _ snapshot expired =>
    CallInvariant digests encoding (.prune plan pending 0) ∧
      CapacityRead s.table.now snapshot.capacityEtag snapshot.records.length ∧
      ∀ row ∈ expired, (s.table.now.cell row.1.1).Remembers row.1.2 ∧
        parseEntity digests row.1.1 row.1.2.1 = .ok row.2 ∧ row.2 ∈ pending

/-- The invariant of the partition and all clients. -/
structure Invariant (s : RegistryState) : Prop where
  sound : s.table.Sound
  counted : Counted s.table.now
  untouched : s.table.now.content capacityRowKey = none →
    ∀ past ∈ s.table.past, ∀ key, key ∈ past.keys ↔ key ∈ s.table.now.keys
  admitted : RowsAdmitted digests encoding s
  clients : ∀ i, PhaseInvariant digests encoding s (s.clients i)

/-- What the partition and the authorities can do between two operations of a
client. -/
structure Grows (s t : RegistryState) : Prop where
  remembers : ∀ k copy, (s.table.now.cell k).Remembers copy →
    (t.table.now.cell k).Remembers copy
  uncounted : t.table.now.content capacityRowKey = none →
    s.table.now.content capacityRowKey = none ∧ incidentRows t.table.now =
      incidentRows s.table.now
  admitted : ∀ id copy, (s.table.now.cell id).Remembers copy →
    t.table.now.content id = some copy →
    s.table.now.content id = some copy ∧ t.admitted id = s.admitted id
  authority : ∀ id earlier, s.authority id = some earlier →
    ∃ later, t.authority id = some later ∧ Precedes earlier later

end Invariant

section Growth

variable {digests : FeedDigests} {encoding : Encoding} {s t : RegistryState}
  {record : IncidentFeedRegistryRecord} {expected : CurrentIncidentStateSnapshot}
  {write : PutWrite} {phase : RegistryPhase}

theorem Grows.capacityRead (hg : Grows s t) {etag n : ℕ}
    (h : CapacityRead s.table.now etag n) : CapacityRead t.table.now etag n := by
  obtain ⟨entity, hr, hparse⟩ := h
  exact ⟨entity, hg.remembers _ _ hr, hparse⟩

theorem Grows.writeDecided (hg : Grows s t) (h : WriteDecided digests encoding s record expected
    write) : WriteDecided digests encoding t record expected write := by
  cases write with
  | create etag n => exact ⟨h.1, hg.capacityRead h.2⟩
  | replace etag =>
    obtain ⟨entity, existing, hr, hrest⟩ := h
    exact ⟨entity, existing, hg.remembers _ _ hr, hrest⟩

theorem Grows.writeVerified (hg : Grows s t) (h : WriteVerified digests encoding s record expected
    write) : WriteVerified digests encoding t record expected write := by
  cases write with
  | create etag n => exact ⟨h.1, hg.capacityRead h.2⟩
  | replace etag =>
    obtain ⟨entity, existing, hr, hparse, hlater⟩ := h
    refine ⟨entity, existing, hg.remembers _ _ hr, hparse, fun hcontent => ?_⟩
    obtain ⟨hsame, hadmitted⟩ := hg.admitted _ _ hr hcontent
    rw [hadmitted]
    exact hlater hsame

theorem Grows.phaseInvariant (hg : Grows s t) (h : PhaseInvariant digests encoding s phase) :
    PhaseInvariant digests encoding t phase := by
  cases phase with
  | idle raised => trivial
  | admitting record expected => exact h
  | reading call attempts => exact h
  | initializing call attempts n =>
    obtain ⟨hcall, hbound, hcount⟩ := h
    refine ⟨hcall, hbound, fun hnone => ?_⟩
    obtain ⟨hbefore, hrows⟩ := hg.uncounted hnone
    rw [hrows]
    exact hcount hbefore
  | verifying record expected write => exact ⟨h.1, hg.writeDecided h.2⟩
  | writing record expected write =>
    obtain ⟨hcall, hverified, current, hcurrent, hprecedes⟩ := h
    obtain ⟨later, hlater, hle⟩ := hg.authority _ _ hcurrent
    exact ⟨hcall, hg.writeVerified hverified, later, hlater, Precedes.trans hprecedes hle⟩
  | confirming record expected => exact h
  | deleting plan pending passes snapshot expired =>
    obtain ⟨hcall, hcapacity, hrows⟩ := h
    refine ⟨hcall, hg.capacityRead hcapacity, fun row hrow => ?_⟩
    obtain ⟨hr, hrest⟩ := hrows row hrow
    exact ⟨hg.remembers _ _ hr, hrest⟩

/-- What a client relies on does not depend on the other clients. -/
theorem phaseInvariant_setClient {i : ℕ} {next : RegistryPhase} :
    PhaseInvariant digests encoding (s.setClient i next) phase ↔
      PhaseInvariant digests encoding s phase := by
  cases phase with
  | idle raised => exact Iff.rfl
  | admitting record expected => exact Iff.rfl
  | reading call attempts => exact Iff.rfl
  | initializing call attempts n => exact Iff.rfl
  | verifying record expected write => cases write <;> exact Iff.rfl
  | writing record expected write => cases write <;> exact Iff.rfl
  | confirming record expected => exact Iff.rfl
  | deleting plan pending passes snapshot expired => exact Iff.rfl

/-- One client moves while the partition and the authorities grow. -/
theorem Invariant.set {i : ℕ} (hi : Invariant digests encoding s) (hg : Grows s t)
    (hsame : t.clients = s.clients) (hsound : t.table.Sound) (hcounted : Counted t.table.now)
    (huntouched : t.table.now.content capacityRowKey = none →
      ∀ past ∈ t.table.past, ∀ key, key ∈ past.keys ↔ key ∈ t.table.now.keys)
    (hadmitted : RowsAdmitted digests encoding t)
    (hphase : PhaseInvariant digests encoding t phase) :
    Invariant digests encoding (t.setClient i phase) := by
  refine ⟨hsound, hcounted, huntouched, hadmitted, fun j => phaseInvariant_setClient.mpr ?_⟩
  by_cases hj : j = i
  · subst hj
    simpa only [RegistryState.setClient, Function.update_self] using hphase
  · have hold : PhaseInvariant digests encoding t (s.clients j) := hg.phaseInvariant (hi.clients j)
    rw [← hsame] at hold
    simpa only [RegistryState.setClient, Function.update_of_ne hj] using hold

theorem Grows.refl (s : RegistryState) : Grows s s :=
  ⟨fun _ _ hr => hr, fun hnone => ⟨hnone, rfl⟩, fun _ _ _ hcontent => ⟨hcontent, rfl⟩,
    fun _ earlier he => ⟨earlier, he, Precedes.refl earlier⟩⟩

/-- A client that only reads. -/
theorem Invariant.setClient {i : ℕ} (hi : Invariant digests encoding s)
    (hphase : PhaseInvariant digests encoding s phase) :
    Invariant digests encoding (s.setClient i phase) :=
  hi.set (Grows.refl s) rfl hi.sound hi.counted hi.untouched hi.admitted hphase

end Growth

/-! ## Batches -/

section Batches

variable {digests : FeedDigests} {encoding : Encoding} {s : RegistryState}
  {u : Table String RegistryEntity} {batch : List (TableWrite String RegistryEntity)}
  {admitted : String → Option CurrentIncidentStateSnapshot} {phase : RegistryPhase}

/-- The state after a batch took effect, with the authorities of its rows. -/
def moved (s : RegistryState) (u : Table String RegistryEntity)
    (admitted : String → Option CurrentIncidentStateSnapshot) : RegistryState :=
  { s with table := s.table.advance u, admitted }

/-- What each batch of the registry does to the partition. -/
structure KeepsCount (s : RegistryState) (u : Table String RegistryEntity) : Prop where
  counted : Counted u
  uncounted : u.content capacityRowKey = none →
    s.table.now.content capacityRowKey = none ∧ incidentRows u = incidentRows s.table.now ∧
      ∀ key, key ∈ s.table.now.keys ↔ key ∈ u.keys

/-- A batch leaves no row that is known from before. -/
theorem fresh_of_mem {w : TableWrite String RegistryEntity} {copy : RegistryEntity × ℕ}
    (hu : s.table.now.submit batch = some u) (hw : w ∈ batch)
    (hr : (s.table.now.cell w.key).Remembers copy) : u.content w.key ≠ some copy := by
  obtain ⟨-, etag, hle, hrow⟩ := Table.submit_written hu hw
  intro hcopy
  rw [hcopy] at hrow
  cases hnew : w.row? with
  | none =>
    rw [hnew] at hrow
    cases hrow
  | some row =>
    rw [hnew] at hrow
    have he : copy = (row, etag) := Option.some.inj hrow
    have hlt : copy.2 < s.table.now.next := hr.1
    rw [he] at hlt
    exact absurd hle (Nat.not_le.mpr hlt)

theorem grows_moved (hu : s.table.now.submit batch = some u) (hk : KeepsCount s u)
    (hframe : ∀ id, id ∉ batch.map TableWrite.key → admitted id = s.admitted id) :
    Grows s (moved s u admitted) := by
  refine ⟨fun _ _ hr => Table.submit_remembers hr hu, fun hnone => ?_, fun id copy hr hcopy => ?_,
    fun _ earlier he => ⟨earlier, he, Precedes.refl earlier⟩⟩
  · obtain ⟨hbefore, hrows, -⟩ := hk.uncounted hnone
    exact ⟨hbefore, hrows⟩
  · by_cases hid : id ∈ batch.map TableWrite.key
    · obtain ⟨w, hw, rfl⟩ := List.mem_map.mp hid
      exact absurd hcopy (fresh_of_mem hu hw hr)
    · have hcopy : u.content id = some copy := hcopy
      rw [Table.submit_frame hu hid] at hcopy
      exact ⟨hcopy, hframe id hid⟩

/-- A client whose batch took effect. -/
theorem Invariant.advance {i : ℕ} (hi : Invariant digests encoding s)
    (admitted : String → Option CurrentIncidentStateSnapshot)
    (hu : s.table.now.submit batch = some u) (hk : KeepsCount s u)
    (hframe : ∀ id, id ∉ batch.map TableWrite.key → admitted id = s.admitted id)
    (hrows : RowsAdmitted digests encoding (moved s u admitted))
    (hphase : PhaseInvariant digests encoding (moved s u admitted) phase) :
    Invariant digests encoding ((moved s u admitted).setClient i phase) := by
  refine hi.set (grows_moved hu hk hframe) rfl (hi.sound.advance hu) hk.counted ?_ hrows hphase
  intro hnone past hpast key
  obtain ⟨hbefore, -, hkeys⟩ := hk.uncounted hnone
  rcases List.mem_cons.mp hpast with rfl | hpast
  · exact hkeys key
  · exact (hi.untouched hbefore past hpast key).trans (hkeys key)

/-- Rows that a batch does not write were admitted before. -/
theorem rowsAdmitted_moved (hi : Invariant digests encoding s)
    (hu : s.table.now.submit batch = some u)
    (hframe : ∀ id, id ∉ batch.map TableWrite.key → admitted id = s.admitted id)
    (hnew : ∀ w ∈ batch, ∀ entity record, w.row? = some entity →
      parseEntity digests w.key entity = .ok record →
      ∃ authority current, admitted w.key = some authority ∧ Validates encoding record authority ∧
        s.authority w.key = some current ∧ Precedes authority current) :
    RowsAdmitted digests encoding (moved s u admitted) := by
  intro id entity etag record hcontent hparse
  have hcontent : u.content id = some (entity, etag) := hcontent
  by_cases hid : id ∈ batch.map TableWrite.key
  · obtain ⟨w, hw, rfl⟩ := List.mem_map.mp hid
    obtain ⟨-, token, -, hrow⟩ := Table.submit_written hu hw
    rw [hcontent] at hrow
    obtain ⟨row, hrow, he⟩ := Option.map_eq_some_iff.mp hrow.symm
    have he : row = entity := congrArg Prod.fst he
    rw [he] at hrow
    exact hnew w hw entity record hrow hparse
  · rw [Table.submit_frame hu hid] at hcontent
    obtain ⟨authority, current, hadmitted, hrest⟩ :=
      hi.admitted id entity etag record hcontent hparse
    refine ⟨authority, current, ?_, hrest⟩
    have hsame : admitted id = s.admitted id := hframe id hid
    exact hsame.trans hadmitted

/-- A batch that leaves the count of its rows in the capacity row. -/
theorem keepsCount_of_row {w : TableWrite String RegistryEntity}
    (hu : s.table.now.submit batch = some u) (hw : w ∈ batch) (hkey : w.key = capacityRowKey)
    (hrow : w.row? = some (capacityEntity (incidentRows u)))
    (hbound : incidentRows u ≤ maxFeedV2RegistryRecords) : KeepsCount s u := by
  obtain ⟨-, etag, -, hcontent⟩ := Table.submit_written hu hw
  rw [hkey, hrow] at hcontent
  refine ⟨fun entity token hfound => ?_, fun hnone => ?_⟩
  · rw [hcontent] at hfound
    have he : (capacityEntity (incidentRows u), etag) = (entity, token) := Option.some.inj hfound
    exact ⟨(congrArg Prod.fst he).symm, hbound⟩
  · rw [hcontent] at hnone
    cases hnone

/-- The capacity row is not an incident's. -/
theorem not_parse_capacity {entity : RegistryEntity} {record : IncidentFeedRegistryRecord} :
    parseEntity digests capacityRowKey entity ≠ .ok record := by
  intro h
  exact ne_capacityRowKey (parseEntity_ok h).2 rfl

/-- The lazily created capacity row holds the number of incident rows. -/
theorem keepsCount_bootstrap {n : ℕ}
    (hu : s.table.now.submit [.create capacityRowKey (capacityEntity n)] = some u)
    (hbound : n ≤ maxFeedV2RegistryRecords)
    (hcount : s.table.now.content capacityRowKey = none → n = incidentRows s.table.now) :
    KeepsCount s u := by
  have hw : TableWrite.create capacityRowKey (capacityEntity n) ∈
      [TableWrite.create capacityRowKey (capacityEntity n)] := List.mem_singleton.mpr rfl
  have hnone : s.table.now.content capacityRowKey = none := (Table.submit_written hu hw).1
  have hrows := Table.rowCount_submit (p := fun key => key != capacityRowKey) hu
  have hn : incidentRows u = n := by
    rw [hcount hnone]
    simpa [incidentRows, Table.added, Table.removed] using hrows
  refine keepsCount_of_row hu hw rfl ?_ ?_
  · rw [hn]
    rfl
  · rw [hn]
    exact hbound

/-- A new row is counted with it. -/
theorem keepsCount_create {record : IncidentFeedRegistryRecord} {etag n : ℕ}
    (hcounted : Counted s.table.now) (hid : isIncidentId record.entry.incidentId = true)
    (hroom : n < maxFeedV2RegistryRecords) (hread : CapacityRead s.table.now etag n)
    (hu : s.table.now.submit (putBatch record (.create etag n)) = some u) : KeepsCount s u := by
  have hw : TableWrite.replace capacityRowKey etag (capacityEntity (n + 1)) ∈
      putBatch record (.create etag n) := by simp [putBatch]
  obtain ⟨entity, hr, hparse⟩ := hread
  obtain ⟨hn, -⟩ := hcounted.of_remembered hr hparse (Table.submit_written hu hw).1
  have hrows := Table.rowCount_submit (p := fun key => key != capacityRowKey) hu
  have hne := ne_capacityRowKey hid
  have hcount : incidentRows u = n + 1 := by
    rw [hn]
    simpa [incidentRows, putBatch, Table.added, Table.removed, hne] using hrows
  refine keepsCount_of_row hu hw rfl ?_ ?_
  · rw [hcount]
    rfl
  · omega

/-- A replaced row changes no count. -/
theorem keepsCount_replace {record : IncidentFeedRegistryRecord} {etag : ℕ}
    (hcounted : Counted s.table.now) (hid : isIncidentId record.entry.incidentId = true)
    (hu : s.table.now.submit (putBatch record (.replace etag)) = some u) : KeepsCount s u := by
  have hw : TableWrite.replace record.entry.incidentId etag (recordEntity record) ∈
      putBatch record (.replace etag) := by simp [putBatch]
  obtain ⟨⟨old, hold⟩, token, -, hnew⟩ := Table.submit_written hu hw
  have hold : s.table.now.content record.entry.incidentId = some (old, etag) := hold
  have hnew : u.content record.entry.incidentId = some (recordEntity record, token) := hnew
  have hframe : ∀ key, key ≠ record.entry.incidentId → u.content key = s.table.now.content key :=
    fun key hkey => Table.submit_frame hu (by simpa [putBatch, TableWrite.key] using hkey)
  have hrows : incidentRows u = incidentRows s.table.now := by
    have hcount := Table.rowCount_submit (p := fun key => key != capacityRowKey) hu
    simpa [incidentRows, putBatch, Table.added, Table.removed] using hcount
  have hcapacity : u.content capacityRowKey = s.table.now.content capacityRowKey :=
    hframe _ (ne_capacityRowKey hid).symm
  refine ⟨fun entity token hfound => ?_, fun hnone => ⟨hcapacity ▸ hnone, hrows, fun key => ?_⟩⟩
  · rw [hcapacity] at hfound
    rw [hrows]
    exact hcounted entity token hfound
  · rw [Table.mem_keys, Table.mem_keys]
    by_cases hkey : key = record.entry.incidentId
    · rw [hkey, hold, hnew]
      exact ⟨fun _ => rfl, fun _ => rfl⟩
    · rw [hframe key hkey]

/-- The deletions of a batch. -/
def deletions (expired : List ParsedRow) : List (TableWrite String RegistryEntity) :=
  expired.map fun row => TableWrite.delete row.1.1 row.1.2.2

theorem sum_removed {expired : List ParsedRow}
    (hid : ∀ row ∈ expired, isIncidentId row.1.1 = true) :
    ((deletions expired).map (Table.removed fun key => key != capacityRowKey)).sum =
      expired.length := by
  induction expired with
  | nil => rfl
  | cons row rest ih =>
    have hne := ne_capacityRowKey (hid row List.mem_cons_self)
    have hrest := ih fun other hother => hid other (List.mem_cons_of_mem _ hother)
    simp only [deletions, List.map_cons, List.sum_cons, List.length_cons] at hrest ⊢
    rw [hrest]
    simp [Table.removed, hne, Nat.add_comm]

theorem sum_added (expired : List ParsedRow) :
    ((deletions expired).map (Table.added fun key => key != capacityRowKey)).sum = 0 := by
  induction expired with
  | nil => rfl
  | cons row rest ih =>
    simp only [deletions, List.map_cons, List.sum_cons] at ih ⊢
    rw [ih]
    rfl

/-- Deleted rows are taken off the count with them. -/
theorem keepsCount_delete {snapshot : RegistrySnapshot} {expired : List ParsedRow}
    (hcounted : Counted s.table.now)
    (hread : CapacityRead s.table.now snapshot.capacityEtag snapshot.records.length)
    (hid : ∀ row ∈ expired, isIncidentId row.1.1 = true)
    (hu : s.table.now.submit (deleteBatch snapshot expired) = some u) : KeepsCount s u := by
  have hw : TableWrite.replace capacityRowKey snapshot.capacityEtag
      (capacityEntity (snapshot.records.length - expired.length)) ∈
        deleteBatch snapshot expired := by simp [deleteBatch]
  obtain ⟨entity, hr, hparse⟩ := hread
  obtain ⟨hn, hle⟩ := hcounted.of_remembered hr hparse (Table.submit_written hu hw).1
  have hrows := Table.rowCount_submit (p := fun key => key != capacityRowKey) hu
  have hbatch : deleteBatch snapshot expired = deletions expired ++
      [.replace capacityRowKey snapshot.capacityEtag
        (capacityEntity (snapshot.records.length - expired.length))] := rfl
  rw [hbatch, List.map_append, List.map_append, List.sum_append, List.sum_append,
    sum_removed hid, sum_added] at hrows
  have hcount : incidentRows u + expired.length = incidentRows s.table.now := by
    simpa [incidentRows, Table.added, Table.removed] using hrows
  have hlength : snapshot.records.length - expired.length = incidentRows u := by omega
  refine keepsCount_of_row hu hw rfl ?_ (by omega)
  rw [← hlength]
  rfl

end Batches

/-! ## Steps -/

section Steps

variable {digests : FeedDigests} {encoding : Encoding} {s t : RegistryState}
  {call : RegistryCall} {attempts : ℕ} {i : ℕ} {fault : Cell.Fault}

theorem SnapshotOf.capacityRead {rows : List RegistryRow} {snapshot : RegistrySnapshot}
    (hs : SnapshotOf digests rows snapshot) (hi : Invariant digests encoding s)
    (hscan : s.table.Scans rows) :
    CapacityRead s.table.now snapshot.capacityEtag snapshot.records.length := by
  obtain ⟨entity, hrow, hparse⟩ := hs.capacity
  exact ⟨entity, hi.sound.remembers_scan hscan hrow, hparse⟩

theorem afterScan_phase {rows : List RegistryRow} (hi : Invariant digests encoding s)
    (hscan : s.table.Scans rows) (hcall : CallInvariant digests encoding call) :
    PhaseInvariant digests encoding s (afterScan digests encoding call attempts rows) := by
  unfold afterScan
  split
  · trivial
  · rename_i n hread
    split
    · trivial
    · rename_i hbound
      have hbound := Nat.le_of_not_lt hbound
      refine ⟨hcall, hbound, fun hnone => ?_⟩
      have hn := readSnapshot_inl hread
      rw [readBoundedPartition, List.length_take] at hn
      have hlength := length_scan hscan (hi.untouched hnone)
      rw [incidentRows_of_none hnone]
      omega
  · rename_i snapshot hread
    have hs := readSnapshot_inr hread
    have hcapacity := hs.capacityRead hi hscan
    cases call with
    | put record expected =>
      dsimp only
      split
      · trivial
      · exact hcall
      · rename_i write hwrite
        refine ⟨hcall, ?_⟩
        cases write with
        | create etag n =>
          obtain ⟨rfl, rfl, hroom⟩ := decidePut_create hwrite
          exact ⟨hroom, hcapacity⟩
        | replace etag =>
          obtain ⟨entity, existing, hrow, hrest⟩ := decidePut_replace hs hwrite
          exact ⟨entity, existing, hi.sound.remembers_scan hscan hrow, hrest⟩
    | prune plan pending passes =>
      dsimp only
      split
      · trivial
      · trivial
      · rename_i first rest hkept
        refine ⟨fun record hrecord => ?_, hcapacity, fun row hrow => ?_⟩
        · exact hcall record (checkPending_ok hkept record hrecord).1
        · obtain ⟨hscanned, hrest⟩ := mem_expiredRows hs hkept hrow
          exact ⟨hi.sound.remembers_scan hscan hscanned, hrest⟩

theorem afterInitialize_phase {outcome : BatchOutcome} (hcall : CallInvariant digests encoding call) :
    PhaseInvariant digests encoding s (afterInitialize call attempts outcome) := by
  unfold afterInitialize
  split
  · trivial
  · split
    · trivial
    · exact hcall

theorem afterPut_phase {record : IncidentFeedRegistryRecord}
    {expected : CurrentIncidentStateSnapshot} {outcome : BatchOutcome}
    (hcall : CallInvariant digests encoding (.put record expected)) :
    PhaseInvariant digests encoding s (afterPut record expected outcome) := by
  cases outcome with
  | done => exact hcall
  | refused => trivial
  | uncertain => trivial

theorem afterDelete_phase {plan : IncidentFeedRegistryPrunePlan}
    {pending : List IncidentFeedRegistryRecord} {passes : ℕ} {expired : List ParsedRow}
    {outcome : BatchOutcome} (hcall : CallInvariant digests encoding (.prune plan pending 0)) :
    PhaseInvariant digests encoding s (afterDelete plan pending passes expired outcome) := by
  cases outcome with
  | done =>
    cases passes with
    | zero => trivial
    | succ passes =>
      intro record hrecord
      exact hcall record (List.mem_filter.mp hrecord).1
  | refused =>
    cases passes with
    | zero => trivial
    | succ passes => exact hcall
  | uncertain => trivial

theorem startPut_phase {record : IncidentFeedRegistryRecord}
    {authority : Option CurrentIncidentStateSnapshot} :
    PhaseInvariant digests encoding s (startPut digests encoding record authority) := by
  unfold startPut
  split
  · trivial
  · rename_i validated hvalid
    split
    · trivial
    · rename_i expected occurrence hauthority
      have hsame := (validateRecord_ok hvalid).1
      subst hsame
      exact ⟨hvalid, validates_of_ok hauthority⟩

theorem startPrune_phase {plan : IncidentFeedRegistryPrunePlan} :
    PhaseInvariant digests encoding s (startPrune digests plan) := by
  unfold startPrune
  split
  · trivial
  · split
    · trivial
    · rename_i parsed hparsed
      dsimp only
      split
      · trivial
      · intro record hrecord
        obtain ⟨hmem, hexpired⟩ := List.mem_filter.mp hrecord
        obtain ⟨source, hsource, hvalid⟩ := mapM_ok_right hparsed hmem
        have hsame := (validateRecord_ok hvalid).1
        rw [hsame] at hexpired ⊢
        exact ⟨hsource, hexpired⟩

/-- A verified put writes under an authority later than that of the row which
it replaces. -/
theorem WriteDecided.verified {record : IncidentFeedRegistryRecord}
    {expected : CurrentIncidentStateSnapshot} {write : PutWrite}
    (h : WriteDecided digests encoding s record expected write)
    (hadmitted : RowsAdmitted digests encoding s)
    (hcurrent : s.authority record.entry.incidentId = some expected) :
    WriteVerified digests encoding s record expected write := by
  cases write with
  | create etag n => exact h
  | replace etag =>
    obtain ⟨entity, existing, hr, hparse, hnot⟩ := h
    refine ⟨entity, existing, hr, hparse, fun hcontent => ?_⟩
    obtain ⟨authority, current, hauthority, hvalid, hnow, hprecedes⟩ :=
      hadmitted _ entity etag existing hcontent hparse
    have hsame : current = expected := Option.some.inj (hnow.symm.trans hcurrent)
    subst hsame
    rcases hprecedes with rfl | hlt
    · exact absurd hvalid hnot
    · exact ⟨authority, hauthority, hvalid, hlt⟩

/-- Creating the capacity row. -/
theorem advance_initializing {n : ℕ} (hi : Invariant digests encoding s)
    (hphase : s.clients i = .initializing call attempts n)
    (h : advanceClient encoding s i fault = some t) : Invariant digests encoding t := by
  have hp : PhaseInvariant digests encoding s (.initializing call attempts n) :=
    hphase ▸ hi.clients i
  obtain ⟨hcall, hbound, hcount⟩ := hp
  simp only [advanceClient, hphase] at h
  cases h
  cases he : s.table.effect [.create capacityRowKey (capacityEntity n)] fault with
  | none =>
    rw [TableHistory.attempt_none he]
    exact hi.setClient (afterInitialize_phase hcall)
  | some u =>
    rw [TableHistory.attempt_some he]
    have hu := TableHistory.effect_some he
    refine hi.advance s.admitted hu (keepsCount_bootstrap hu hbound hcount)
      (fun _ _ => rfl) ?_ (afterInitialize_phase hcall)
    refine rowsAdmitted_moved hi hu (fun _ _ => rfl) fun w hw entity record _ hparse => ?_
    rw [List.mem_singleton.mp hw] at hparse
    exact absurd hparse not_parse_capacity

/-- The write of a put. -/
theorem advance_writing {record : IncidentFeedRegistryRecord}
    {expected : CurrentIncidentStateSnapshot} {write : PutWrite}
    (hi : Invariant digests encoding s) (hphase : s.clients i = .writing record expected write)
    (h : advanceClient encoding s i fault = some t) : Invariant digests encoding t := by
  have hp : PhaseInvariant digests encoding s (.writing record expected write) :=
    hphase ▸ hi.clients i
  obtain ⟨hcall, hverified, current, hcurrent, hprecedes⟩ := hp
  have hid := (validateRecord_ok hcall.1).2
  simp only [advanceClient, hphase] at h
  cases h
  cases he : s.table.effect (putBatch record write) fault with
  | none =>
    rw [TableHistory.attempt_none he]
    exact hi.setClient (afterPut_phase hcall)
  | some u =>
    rw [TableHistory.attempt_some he]
    have hu := TableHistory.effect_some he
    have hkeep : KeepsCount s u := by
      cases write with
      | create etag n => exact keepsCount_create hi.counted hid hverified.1 hverified.2 hu
      | replace etag => exact keepsCount_replace hi.counted hid hu
    have hmem : record.entry.incidentId ∈ (putBatch record write).map TableWrite.key := by
      cases write <;> simp [putBatch, TableWrite.key]
    have hframe : ∀ id, id ∉ (putBatch record write).map TableWrite.key →
        Function.update s.admitted record.entry.incidentId (some expected) id = s.admitted id := by
      intro id hnot
      have hne : id ≠ record.entry.incidentId := by
        rintro rfl
        exact hnot hmem
      exact Function.update_of_ne hne _ _
    -- the only row besides the capacity row is the record's own
    have hnew : ∀ w ∈ putBatch record write, ∀ entity found, w.row? = some entity →
        parseEntity digests w.key entity = .ok found →
        ∃ authority current,
          Function.update s.admitted record.entry.incidentId (some expected) w.key =
            some authority ∧ Validates encoding found authority ∧
          s.authority w.key = some current ∧ Precedes authority current := by
      intro w hw entity found hrow hparse
      have hown : w.key = record.entry.incidentId ∧ w.row? = some (recordEntity record) := by
        cases write with
        | create etag n =>
          simp only [putBatch, List.mem_cons, List.not_mem_nil, or_false] at hw
          rcases hw with rfl | rfl
          · exact ⟨rfl, rfl⟩
          · exact absurd hparse not_parse_capacity
        | replace etag =>
          simp only [putBatch, List.mem_singleton] at hw
          subst hw
          exact ⟨rfl, rfl⟩
      obtain ⟨hkey, hentity⟩ := hown
      have hsame : recordEntity record = entity := Option.some.inj (hentity.symm.trans hrow)
      rw [hkey, ← hsame, parseEntity_recordEntity hcall.1] at hparse
      cases hparse
      rw [hkey]
      exact ⟨expected, current, Function.update_self _ _ _, hcall.2, hcurrent, hprecedes⟩
    exact hi.advance _ hu hkeep hframe (rowsAdmitted_moved hi hu hframe hnew) (afterPut_phase hcall)

/-- A batch of deletions. -/
theorem advance_deleting {plan : IncidentFeedRegistryPrunePlan}
    {pending : List IncidentFeedRegistryRecord} {passes : ℕ} {snapshot : RegistrySnapshot}
    {expired : List ParsedRow} (hi : Invariant digests encoding s)
    (hphase : s.clients i = .deleting plan pending passes snapshot expired)
    (h : advanceClient encoding s i fault = some t) : Invariant digests encoding t := by
  have hp : PhaseInvariant digests encoding s (.deleting plan pending passes snapshot expired) :=
    hphase ▸ hi.clients i
  obtain ⟨hcall, hcapacity, hrows⟩ := hp
  have hid : ∀ row ∈ expired, isIncidentId row.1.1 = true := fun row hrow =>
    (parseEntity_ok (hrows row hrow).2.1).2
  simp only [advanceClient, hphase] at h
  cases h
  cases he : s.table.effect (deleteBatch snapshot expired) fault with
  | none =>
    rw [TableHistory.attempt_none he]
    exact hi.setClient (afterDelete_phase hcall)
  | some u =>
    rw [TableHistory.attempt_some he]
    have hu := TableHistory.effect_some he
    refine hi.advance s.admitted hu (keepsCount_delete hi.counted hcapacity hid hu)
      (fun _ _ => rfl) ?_ (afterDelete_phase hcall)
    refine rowsAdmitted_moved hi hu (fun _ _ => rfl) fun w hw entity record hrow hparse => ?_
    rcases List.mem_append.mp hw with hw | hw
    · obtain ⟨row, -, rfl⟩ := List.mem_map.mp hw
      cases hrow
    · rw [List.mem_singleton.mp hw] at hparse
      exact absurd hparse not_parse_capacity

theorem advance_invariant (hi : Invariant digests encoding s)
    (h : advanceClient encoding s i fault = some t) : Invariant digests encoding t := by
  have hp := hi.clients i
  cases hphase : s.clients i with
  | idle raised => simp [advanceClient, hphase] at h
  | reading call attempts => simp [advanceClient, hphase] at h
  | initializing call attempts n => exact advance_initializing hi hphase h
  | writing record expected write => exact advance_writing hi hphase h
  | deleting plan pending passes snapshot expired => exact advance_deleting hi hphase h
  | admitting record expected =>
    rw [hphase] at hp
    simp only [advanceClient, hphase] at h
    split at h
    · cases h
      exact hi.setClient trivial
    · cases h
      exact hi.setClient hp
  | verifying record expected write =>
    rw [hphase] at hp
    simp only [advanceClient, hphase] at h
    split at h
    · cases h
      exact hi.setClient trivial
    · rename_i validated hvalid
      cases h
      have hcurrent := (requireCurrentAuthority_ok hvalid).1
      exact hi.setClient ⟨hp.1, hp.2.verified hi.admitted hcurrent, expected, hcurrent,
        Precedes.refl expected⟩
  | confirming record expected =>
    simp only [advanceClient, hphase] at h
    split at h
    · cases h
      exact hi.setClient trivial
    · cases h
      exact hi.setClient trivial

/-- An incident that moves on. -/
theorem publish_invariant {id : String} {snapshot : CurrentIncidentStateSnapshot}
    (hi : Invariant digests encoding s) (hlater : Supersedes snapshot (s.authority id)) :
    Invariant digests encoding
      { s with authority := Function.update s.authority id (some snapshot) } := by
  have hauthority : ∀ j earlier, s.authority j = some earlier →
      ∃ later, Function.update s.authority id (some snapshot) j = some later ∧
        Precedes earlier later := by
    intro j earlier he
    by_cases hj : j = id
    · subst hj
      rw [he] at hlater
      exact ⟨snapshot, Function.update_self _ _ _, .inr hlater⟩
    · exact ⟨earlier, (Function.update_of_ne hj _ _).trans he, Precedes.refl earlier⟩
  have hg : Grows s { s with authority := Function.update s.authority id (some snapshot) } :=
    ⟨fun _ _ hr => hr, fun hnone => ⟨hnone, rfl⟩, fun _ _ _ hcontent => ⟨hcontent, rfl⟩,
      hauthority⟩
  refine ⟨hi.sound, hi.counted, hi.untouched, fun j entity etag record hcontent hparse => ?_,
    fun j => hg.phaseInvariant (hi.clients j)⟩
  obtain ⟨authority, current, hadmitted, hvalid, hcurrent, hprecedes⟩ :=
    hi.admitted j entity etag record hcontent hparse
  obtain ⟨later, hnow, hle⟩ := hauthority j current hcurrent
  exact ⟨authority, later, hadmitted, hvalid, hnow, Precedes.trans hprecedes hle⟩

theorem step_invariant {a : RegistryAction} (hi : Invariant digests encoding s)
    (h : step digests encoding s a = some t) : Invariant digests encoding t := by
  cases a with
  | publishCurrent id snapshot =>
    simp only [step] at h
    split at h
    · cases h
      exact publish_invariant hi ‹_›
    · cases h
  | put i record authority =>
    simp only [step] at h
    split at h
    · cases h
      exact hi.setClient startPut_phase
    · cases h
  | prune i plan =>
    simp only [step] at h
    split at h
    · cases h
      exact hi.setClient startPrune_phase
    · cases h
  | scan i rows =>
    have hp := hi.clients i
    simp only [step] at h
    split at h
    · rename_i call attempts hphase
      split at h
      · cases h
        rw [hphase] at hp
        exact hi.setClient (afterScan_phase hi ‹_› hp)
      · cases h
    · cases h
  | advance i fault => exact advance_invariant hi h
  | stop i =>
    cases h
    exact hi.setClient trivial

theorem initial_invariant (h : Initial digests encoding s) : Invariant digests encoding s := by
  refine ⟨⟨h.valid, fun past hpast => ?_⟩, fun entity etag hcontent => ?_, fun _ past hpast => ?_,
    h.admitted, fun i => ?_⟩
  · rw [h.fresh] at hpast
    cases hpast
  · rw [h.uncounted] at hcontent
    cases hcontent
  · rw [h.fresh] at hpast
    cases hpast
  · obtain ⟨raised, hidle⟩ := h.idle i
    rw [hidle]
    trivial

theorem reachable_invariant {start : RegistryState} (hstart : Initial digests encoding start)
    (h : (system digests encoding start).Reachable s) : Invariant digests encoding s := by
  refine h.invariant (P := Invariant digests encoding) (fun s hs => ?_) fun s a t _ hi hstep => ?_
  rotate_left
  · have hstep : step digests encoding s a = some t := hstep
    exact step_invariant hi hstep
  have hs : s = start := hs
  rw [hs]
  exact initial_invariant hstart

/-! ## Which rows change -/

/-- The batch that a client is about to submit. -/
def dueBatch : RegistryPhase → Option (List (TableWrite String RegistryEntity))
  | .initializing _ _ n => some [.create capacityRowKey (capacityEntity n)]
  | .writing record _ write => some (putBatch record write)
  | .deleting _ _ _ snapshot expired => some (deleteBatch snapshot expired)
  | _ => none

/-- The partition changes only by the batch of a client. -/
theorem step_table {a : RegistryAction} (h : step digests encoding s a = some t) :
    t.table = s.table ∨ ∃ client fault batch u, a = .advance client fault ∧
      dueBatch (s.clients client) = some batch ∧ s.table.now.submit batch = some u ∧
      t.table = s.table.advance u := by
  have hbatch : ∀ batch fault, s.table.attempt batch fault = s.table ∨
      ∃ u, s.table.now.submit batch = some u ∧ s.table.attempt batch fault =
        s.table.advance u := by
    intro batch fault
    cases he : s.table.effect batch fault with
    | none => exact .inl (TableHistory.attempt_none he)
    | some u => exact .inr ⟨u, TableHistory.effect_some he, TableHistory.attempt_some he⟩
  cases a with
  | publishCurrent id snapshot =>
    simp only [step] at h
    split at h <;> cases h
    exact .inl rfl
  | put i record authority =>
    simp only [step] at h
    split at h <;> cases h
    exact .inl rfl
  | prune i plan =>
    simp only [step] at h
    split at h <;> cases h
    exact .inl rfl
  | scan i rows =>
    simp only [step] at h
    split at h
    · split at h <;> cases h
      exact .inl rfl
    · cases h
  | stop i =>
    cases h
    exact .inl rfl
  | advance i fault =>
    simp only [step, advanceClient] at h
    split at h
    · cases h
    · cases h
    · split at h <;> cases h <;> exact .inl rfl
    · rename_i call attempts n hphase
      cases h
      rcases hbatch [.create capacityRowKey (capacityEntity n)] fault with he | ⟨u, hu, he⟩
      · exact .inl he
      · exact .inr ⟨i, fault, _, u, rfl, by rw [hphase]; rfl, hu, he⟩
    · split at h <;> cases h <;> exact .inl rfl
    · rename_i record expected write hphase
      cases h
      rcases hbatch (putBatch record write) fault with he | ⟨u, hu, he⟩
      · exact .inl he
      · exact .inr ⟨i, fault, _, u, rfl, by rw [hphase]; rfl, hu, he⟩
    · split at h <;> cases h <;> exact .inl rfl
    · rename_i plan pending passes snapshot expired hphase
      cases h
      rcases hbatch (deleteBatch snapshot expired) fault with he | ⟨u, hu, he⟩
      · exact .inl he
      · exact .inr ⟨i, fault, _, u, rfl, by rw [hphase]; rfl, hu, he⟩

/-- The step is the write of a put that replaces the record of a row by one
whose occurrence was published later than the occurrence of the replaced one. -/
def ReplacesByLater (digests : FeedDigests) (encoding : Encoding) (s : RegistryState)
    (a : RegistryAction) (id : String) (before after : RegistryEntity) : Prop :=
  ∃ client fault record expected write old earlier, a = .advance client fault ∧
    s.clients client = .writing record expected write ∧
    parseEntity digests id before = .ok old ∧ parseEntity digests id after = .ok record ∧
    s.admitted id = some earlier ∧ Validates encoding old earlier ∧
    Validates encoding record expected ∧
    earlier.pointer.publishedAt < expected.pointer.publishedAt

/-- The step is a deletion of a cleanup whose plan names the row's record. -/
def DeletesPlanned (digests : FeedDigests) (s : RegistryState) (a : RegistryAction) (id : String)
    (before : RegistryEntity) : Prop :=
  ∃ client fault plan pending passes snapshot expired record, a = .advance client fault ∧
    s.clients client = .deleting plan pending passes snapshot expired ∧
    parseEntity digests id before = .ok record ∧ record ∈ plan.records ∧
    expiredAt plan.asOf record = true

/-- A row changes only by a write of the batch that a client has due. -/
theorem changed_row {a : RegistryAction} {id : String} (h : step digests encoding s a = some t)
    (hchanged : t.table.now.content id ≠ s.table.now.content id) :
    ∃ client fault batch, a = .advance client fault ∧ dueBatch (s.clients client) = some batch ∧
      ∃ w ∈ batch, w.key = id ∧ w.Accepts (s.table.now.content w.key) ∧
        ∃ etag, t.table.now.content id = w.row?.map fun row => (row, etag) := by
  rcases step_table h with he | ⟨client, fault, batch, u, rfl, hdue, hu, he⟩
  · exact absurd (by rw [he]) hchanged
  · have hmem : id ∈ batch.map TableWrite.key := by
      by_contra hnot
      rw [he] at hchanged
      exact hchanged (Table.submit_frame hu hnot)
    obtain ⟨w, hw, rfl⟩ := List.mem_map.mp hmem
    obtain ⟨haccepted, etag, -, hrow⟩ := Table.submit_written hu hw
    refine ⟨client, fault, batch, rfl, hdue, w, hw, rfl, haccepted, etag, ?_⟩
    rw [he]
    exact hrow

/-- A row under a new token was replaced by a put. -/
theorem replaced_row {a : RegistryAction} {id : String} {before after : RegistryEntity}
    {etag token : ℕ} (hi : Invariant digests encoding s) (h : step digests encoding s a = some t)
    (hid : id ≠ capacityRowKey) (hbefore : s.table.now.content id = some (before, etag))
    (hafter : t.table.now.content id = some (after, token)) (hnew : token ≠ etag) :
    ReplacesByLater digests encoding s a id before after := by
  have hsame : t.table.now.content id ≠ s.table.now.content id := by
    rw [hbefore, hafter]
    intro he
    exact hnew (congrArg Prod.snd (Option.some.inj he))
  obtain ⟨client, fault, batch, rfl, hdue, w, hw, rfl, haccepted, etag', hrow⟩ := changed_row h hsame
  have hp := hi.clients client
  cases hphase : s.clients client with
  | idle raised => simp [hphase, dueBatch] at hdue
  | admitting record expected => simp [hphase, dueBatch] at hdue
  | reading call attempts => simp [hphase, dueBatch] at hdue
  | verifying record expected write => simp [hphase, dueBatch] at hdue
  | confirming record expected => simp [hphase, dueBatch] at hdue
  | initializing call attempts n =>
    rw [hphase] at hdue
    cases hdue
    rw [List.mem_singleton.mp hw] at hid
    exact absurd rfl hid
  | deleting plan pending passes snapshot expired =>
    rw [hphase] at hdue
    cases hdue
    rcases List.mem_append.mp hw with hw | hw
    · obtain ⟨row, -, rfl⟩ := List.mem_map.mp hw
      rw [hafter] at hrow
      cases hrow
    · rw [List.mem_singleton.mp hw] at hid
      exact absurd rfl hid
  | writing record expected write =>
    rw [hphase] at hdue hp
    cases hdue
    obtain ⟨hcall, hverified, -⟩ := hp
    cases write with
    | create capacityEtag n =>
      simp only [putBatch, List.mem_cons, List.not_mem_nil, or_false] at hw
      rcases hw with rfl | rfl
      · have hnone : s.table.now.content record.entry.incidentId = none := haccepted
        rw [TableWrite.key, hnone] at hbefore
        cases hbefore
      · exact absurd rfl hid
    | replace readEtag =>
      simp only [putBatch, List.mem_singleton] at hw
      subst hw
      simp only [TableWrite.key] at hbefore hafter hrow haccepted ⊢
      obtain ⟨old, hold⟩ := haccepted
      obtain ⟨entity, existing, hr, hparse, hlater⟩ := hverified
      have hcopy : (old, readEtag) = (entity, readEtag) := hr.2 _ hold rfl
      rw [hcopy] at hold
      obtain ⟨earlier, hearlier, hvalid, hlt⟩ := hlater hold
      have hb : before = entity := by
        rw [hold] at hbefore
        exact (congrArg Prod.fst (Option.some.inj hbefore)).symm
      have ha : after = recordEntity record := by
        rw [hafter] at hrow
        exact congrArg Prod.fst (Option.some.inj hrow)
      refine ⟨client, fault, record, expected, _, existing, earlier, rfl, hphase, ?_, ?_,
        hearlier, hvalid, hcall.2, hlt⟩
      · rw [hb]
        exact hparse
      · rw [ha]
        exact parseEntity_recordEntity hcall.1

/-- A row that is gone was named by the plan of a cleanup. -/
theorem deleted_row {a : RegistryAction} {id : String} {before : RegistryEntity} {etag : ℕ}
    (hi : Invariant digests encoding s) (h : step digests encoding s a = some t)
    (hbefore : s.table.now.content id = some (before, etag))
    (hafter : t.table.now.content id = none) : DeletesPlanned digests s a id before := by
  have hsame : t.table.now.content id ≠ s.table.now.content id := by
    rw [hbefore, hafter]
    exact (Option.some_ne_none _).symm
  obtain ⟨client, fault, batch, rfl, hdue, w, hw, rfl, haccepted, token, hrow⟩ := changed_row h hsame
  have hgone : w.row? = none := by
    rw [hafter] at hrow
    simpa using hrow.symm
  have hp := hi.clients client
  cases hphase : s.clients client with
  | idle raised => simp [hphase, dueBatch] at hdue
  | admitting record expected => simp [hphase, dueBatch] at hdue
  | reading call attempts => simp [hphase, dueBatch] at hdue
  | verifying record expected write => simp [hphase, dueBatch] at hdue
  | confirming record expected => simp [hphase, dueBatch] at hdue
  | initializing call attempts n =>
    rw [hphase] at hdue
    cases hdue
    rw [List.mem_singleton.mp hw] at hgone
    cases hgone
  | writing record expected write =>
    rw [hphase] at hdue
    cases hdue
    cases write with
    | create capacityEtag n =>
      simp only [putBatch, List.mem_cons, List.not_mem_nil, or_false] at hw
      rcases hw with rfl | rfl <;> cases hgone
    | replace readEtag =>
      simp only [putBatch, List.mem_singleton] at hw
      subst hw
      cases hgone
  | deleting plan pending passes snapshot expired =>
    rw [hphase] at hdue hp
    cases hdue
    obtain ⟨hcall, -, hrows⟩ := hp
    rcases List.mem_append.mp hw with hw | hw
    · obtain ⟨row, hexpired, rfl⟩ := List.mem_map.mp hw
      obtain ⟨hr, hparse, hpending⟩ := hrows row hexpired
      obtain ⟨old, hold⟩ := haccepted
      simp only [TableWrite.key] at hbefore hold
      have hcopy : (old, row.1.2.2) = row.1.2 := hr.2 _ hold rfl
      have hb : before = row.1.2.1 := by
        rw [hold, hcopy] at hbefore
        exact (congrArg Prod.fst (Option.some.inj hbefore)).symm
      refine ⟨client, fault, plan, pending, passes, snapshot, expired, row.2, rfl, hphase, ?_,
        hcall _ hpending⟩
      rw [hb]
      exact hparse
    · rw [List.mem_singleton.mp hw] at hgone
      cases hgone

end Steps

/-- In every reachable state the capacity row, once it is there, holds the
number of incident rows, which never exceeds the bound, and no incident has two
rows. Whatever step comes next, a row is replaced only by a record that is later
than the one it replaces, and deleted only when it is what a plan names. -/
theorem registry_counts_exactly (digests : FeedDigests) (encoding : Encoding)
    {start s : RegistryState} (hstart : Initial digests encoding start)
    (h : (system digests encoding start).Reachable s) :
    (∀ entity etag, s.table.now.content capacityRowKey = some (entity, etag) →
      entity = capacityEntity (incidentRows s.table.now) ∧
        incidentRows s.table.now ≤ maxFeedV2RegistryRecords) ∧
    (∀ key key' copy copy' record record', s.table.now.content key = some copy →
      s.table.now.content key' = some copy' → parseEntity digests key copy.1 = .ok record →
      parseEntity digests key' copy'.1 = .ok record' →
      record.entry.incidentId = record'.entry.incidentId → key = key') ∧
    (∀ a t id before after etag token, step digests encoding s a = some t → id ≠ capacityRowKey →
      s.table.now.content id = some (before, etag) →
      t.table.now.content id = some (after, token) → token ≠ etag →
      ReplacesByLater digests encoding s a id before after) ∧
    ∀ a t id before etag, step digests encoding s a = some t →
      s.table.now.content id = some (before, etag) → t.table.now.content id = none →
      DeletesPlanned digests s a id before := by
  have hi := reachable_invariant hstart h
  refine ⟨hi.counted, fun key key' copy copy' record record' _ _ hparse hparse' hsame => ?_,
    fun a t id before after etag token hstep hid hbefore hafter hnew =>
      replaced_row hi hstep hid hbefore hafter hnew,
    fun a t id before etag hstep hbefore hafter => deleted_row hi hstep hbefore hafter⟩
  rw [← (parseEntity_ok hparse).1, hsame, (parseEntity_ok hparse').1]

/-! ## A put, a replacement and a prune -/

section Sample

def plainEncoding : Encoding := ⟨fun _ => "sha256:00", fun _ => 0⟩

def plainDigests : FeedDigests :=
  ⟨fun _ => "sha256:00", fun _ => "sha256:00", fun _ => "sha256:00", fun _ => 0⟩

/-- A resolved incident. -/
def resolvedState : IncidentState where
  incidentId := "inc-000000000001"
  transitionId := "wc016-1"
  scenario := .webServerFailure
  lifecycle := .resolved
  workloadRole := .web
  detectedAt := 1000
  updatedAt := 2000
  targetBinding := "sha256:00"
  availability := .normal
  blastRadius := .none
  operatorAttention := .normal
  findings := []
  reasoning := []
  resultDigest := "sha256:00"

def resolvedOccurrence : IncidentOccurrenceReceipt where
  incidentId := resolvedState.incidentId
  transitionId := resolvedState.transitionId
  stateResultDigest := resolvedState.resultDigest
  stateReference := ⟨"v/state.json", "1", "sha256:00"⟩
  stateAttestationReference := ⟨"v/attestation.json", "1", "sha256:00"⟩
  pointerReference := ⟨"v/pointer.json", "1", "sha256:00"⟩
  pointerAttestationReference := ⟨"v/pointer-attestation.json", "1", "sha256:00"⟩
  publishedAt := 3000
  occurrenceId := "incident-occurrence-1"
  occurrenceDigest := "sha256:00"

/-- Its published state. -/
def resolvedAuthority : CurrentIncidentStateSnapshot where
  state := resolvedState
  pointer :=
    { incidentId := resolvedState.incidentId
      statePath := "./v/state.json"
      stateSha256 := "sha256:00"
      attestationPath := "./v/attestation.json"
      attestationSha256 := "sha256:00"
      pointerAttestationPath := "./v/pointer-attestation.json"
      keyId := "key"
      keyFingerprint := "sha256:00"
      publishedAt := 3000 }
  pointerSha256 := "sha256:00"
  occurrence := some resolvedOccurrence

/-- The record prepared from it. -/
def resolvedRecord : IncidentFeedRegistryRecord where
  entry :=
    { incidentId := resolvedState.incidentId
      lifecycle := .resolved
      stateResultDigest := resolvedState.resultDigest
      updatedAt := resolvedState.updatedAt
      feedPointerReference := ⟨"v/feed-pointer.json", "1", "sha256:00"⟩
      feedPointerAttestationReference := ⟨"v/feed-pointer-attestation.json", "1", "sha256:00"⟩ }
  pointer :=
    { pointerId := "p"
      incidentId := resolvedState.incidentId
      lifecycle := .resolved
      stateResultDigest := resolvedState.resultDigest
      stateUpdatedAt := resolvedState.updatedAt
      occurrenceDigest := resolvedOccurrence.occurrenceDigest
      sourceStateReference := resolvedOccurrence.stateReference
      sourceStateAttestationReference := resolvedOccurrence.stateAttestationReference
      sourcePointerReference := resolvedOccurrence.pointerReference
      sourcePointerAttestationReference := resolvedOccurrence.pointerAttestationReference
      publishedAt := 4000
      pointerDigest := "sha256:00" }
  pointerAttestation := ⟨"p", "sha256:00", "key", "sha256:00", "c2ln"⟩
  retainedUntil := some (2000 + feedV2ResolvedRetention)
  schemaVersion := registryRecordSchema
  recordDigest := "sha256:00"

/-- An empty partition. -/
def emptyRegistry : RegistryState :=
  ⟨⟨⟨Dictionaries.Dictionary.empty, 0⟩, []⟩, fun _ => none, fun _ => none, fun _ => .idle none⟩

/-- Two instances scan the empty partition, one creates the capacity row and
puts its record, the other is refused the creation. -/
def firstPut : List RegistryAction :=
  [.publishCurrent resolvedState.incidentId resolvedAuthority,
    .put 0 resolvedRecord (some resolvedAuthority),
    .put 1 resolvedRecord (some resolvedAuthority), .advance 0 .answered, .advance 1 .answered,
    .scan 0 [], .scan 1 [], .advance 0 .answered, .advance 1 .answered,
    .scan 0 [(capacityRowKey, capacityEntity 0, 0)], .advance 0 .answered, .advance 0 .answered,
    .advance 0 .answered]

theorem initial_emptyRegistry : Initial plainDigests plainEncoding emptyRegistry := by
  refine ⟨rfl, fun k p hp => ?_, rfl, fun id entity etag record hcontent => ?_,
    fun _ => ⟨none, rfl⟩⟩
  · cases hp
  · cases hcontent

/-- A later transition of the incident. -/
def laterState : IncidentState :=
  { resolvedState with transitionId := "wc016-2", updatedAt := 2500, resultDigest := "sha256:01" }

def laterAuthority : CurrentIncidentStateSnapshot :=
  { resolvedAuthority with
    state := laterState
    pointer := { resolvedAuthority.pointer with publishedAt := 5000 }
    occurrence := some { resolvedOccurrence with
      transitionId := laterState.transitionId
      stateResultDigest := laterState.resultDigest
      publishedAt := 5000 } }

def laterRecord : IncidentFeedRegistryRecord :=
  { resolvedRecord with
    entry := { resolvedRecord.entry with
      stateResultDigest := laterState.resultDigest
      updatedAt := laterState.updatedAt }
    pointer := { resolvedRecord.pointer with
      stateResultDigest := laterState.resultDigest
      stateUpdatedAt := laterState.updatedAt
      publishedAt := 6000 }
    retainedUntil := some (2500 + feedV2ResolvedRetention) }

/-- The capacity row and the row of the incident. -/
def registryRows (n : ℕ) (record : IncidentFeedRegistryRecord) (t u : ℕ) : List RegistryRow :=
  [(capacityRowKey, capacityEntity n, t), (resolvedState.incidentId, recordEntity record, u)]

def secondPut : List RegistryAction :=
  [.stop 1, .publishCurrent resolvedState.incidentId laterAuthority,
    .put 1 laterRecord (some laterAuthority), .advance 1 .answered]

/-- The instance that was refused stops, and puts the record of a later transition over the row. -/
def replacing : List RegistryAction :=
  [.stop 1, .publishCurrent resolvedState.incidentId laterAuthority,
    .put 1 laterRecord (some laterAuthority), .advance 1 .answered,
    .scan 1 (registryRows 1 resolvedRecord 2 1), .advance 1 .answered]

/-- It confirms the record, and the other one prunes it when its retention is over. -/
def pruning : List RegistryAction :=
  [.advance 1 .answered, .prune 0 ⟨[laterRecord], 2500 + feedV2ResolvedRetention⟩,
    .scan 0 (registryRows 1 laterRecord 2 3)]

/-- The row of the incident and the capacity row. -/
def twoRows (s : RegistryState) : Option (RegistryEntity × ℕ) × Option (RegistryEntity × ℕ) :=
  (s.table.now.content resolvedState.incidentId, s.table.now.content capacityRowKey)

/-- What the run replaces, deletes and counts. -/
theorem replacing_pruning_rows : ((runSteps (step plainDigests plainEncoding) emptyRegistry
    (firstPut ++ replacing)).bind fun s => (step plainDigests plainEncoding s
      (.advance 1 .answered)).bind fun t => (runSteps (step plainDigests plainEncoding) t
        pruning).bind fun u => (step plainDigests plainEncoding u (.advance 0 .answered)).bind
          fun v => some [twoRows s, twoRows t, twoRows u, twoRows v]) =
      some [(some (recordEntity resolvedRecord, 1), some (capacityEntity 1, 2)),
        (some (recordEntity laterRecord, 3), some (capacityEntity 1, 2)),
        (some (recordEntity laterRecord, 3), some (capacityEntity 1, 2)),
        (none, some (capacityEntity 0, 4))] := by
  decide +kernel

end Sample

/-- The row is replaced by the record of the later transition, then deleted as planned, and the
capacity row counts the rows that are left. -/
theorem registry_counts_exactly_pruned :
    ∃ s t u v, runSteps (step plainDigests plainEncoding) emptyRegistry (firstPut ++ replacing) =
        some s ∧ step plainDigests plainEncoding s (.advance 1 .answered) = some t ∧
      ReplacesByLater plainDigests plainEncoding s (.advance 1 .answered) resolvedState.incidentId
        (recordEntity resolvedRecord) (recordEntity laterRecord) ∧
      runSteps (step plainDigests plainEncoding) t pruning = some u ∧
      step plainDigests plainEncoding u (.advance 0 .answered) = some v ∧
      DeletesPlanned plainDigests u (.advance 0 .answered) resolvedState.incidentId
        (recordEntity laterRecord) ∧
      incidentRows t.table.now = 1 ∧ incidentRows v.table.now = 0 := by
  have hrows := replacing_pruning_rows
  simp only [Option.bind_eq_some_iff, Option.some.injEq, List.cons.injEq, twoRows, Prod.mk.injEq,
    and_true] at hrows
  obtain ⟨s, hs, t, ht, u, hu, v, hv, ⟨hbefore, -⟩, ⟨hlater, hcount⟩, ⟨hplanned, -⟩, hgone, hempty⟩ :=
    hrows
  have hreach := reachable_runSteps (firstPut ++ replacing) (.start rfl) hs
  have hafter : (system plainDigests plainEncoding emptyRegistry).Reachable t := .next hreach ht
  have hpruned := reachable_runSteps pruning hafter hu
  have hend : (system plainDigests plainEncoding emptyRegistry).Reachable v := .next hpruned hv
  have hcorrect {x} := registry_counts_exactly (s := x) plainDigests plainEncoding
    initial_emptyRegistry
  have hone := congrArg RegistryEntity.retainedCount ((hcorrect hafter).1 _ _ hcount).1
  have hnone := congrArg RegistryEntity.retainedCount ((hcorrect hend).1 _ _ hempty).1
  exact ⟨s, t, u, v, hs, ht,
    (hcorrect hreach).2.2.1 _ _ _ _ _ _ _ ht (by decide) hbefore hlater (by decide), hu, hv,
    (hcorrect hpruned).2.2.2 _ _ _ _ _ hv hplanned hgone, (Option.some.inj hone).symm,
    (Option.some.inj hnone).symm⟩

end AthenaContext.FeedRegistryCounts
