import AthenaContext.EventGridMessages

/-!
# Redelivered Event Grid messages

A message whose first delivery was accepted is completed once its records are durable, in
every run in which no later receipt finds them stale before that. A message that was accepted,
failed at the store and is delivered again behind the window is completed without them.
-/

namespace AthenaContext.EventGridRedelivery

open ConditionalStores TransitionSystems FallibleResults TextNormalization JsonText
open CanonicalExceptions ChangePersistence ChangeNormalization EventGridMessages

section

variable {cfg : IngestionConfig} {M : QueuedMessage} {s t : MessageState} {p q : PersistState}

/-! ## The batch -/

theorem raisesOnly_deliveryRecord {record : LoadedValue} :
    RaisesOnly .changeIngestionError (deliveryRecord record) := raisesOnly_mapping.map _

/-- A body that `json.loads` accepts is a batch, or refused with `ChangeIngestionError`. -/
theorem eventGridRecords_error {body : List UInt8} {value : LoadedValue} {e : Raised}
    (hbody : messageBody cfg M.body = .ok body) (hloads : cfg.loads body = .ok value)
    (h : eventGridRecords cfg M.body = .error e) : e.cls = .changeIngestionError := by
  have hraises : RaisesOnly .changeIngestionError (eventGridRecords cfg M.body) := by
    unfold eventGridRecords
    rw [hbody]
    refine raisesOnly_ok.bind fun body' hb => ?_
    cases hb
    refine (raisesOnly_error rfl).ite ?_
    rw [hloads]
    refine (raisesOnly_error rfl).ite fun e' he' => ?_
    obtain ⟨-, record, -, -, -, herror⟩ := mapM_error he'
    exact raisesOnly_deliveryRecord e' herror
  exact hraises e h

theorem normalizeMessage_ok_iff {receivedAt : UtcDateTime} {evidence : List NormalizedChangeEvidence} :
    normalizeMessage cfg M.body receivedAt = .ok evidence ↔
      ∃ records, eventGridRecords cfg M.body = .ok records ∧
        List.Forall₂ (fun record e => normalizeEventGridChange cfg record receivedAt = .ok e)
          records evidence := by
  simp only [normalizeMessage, bind_ok_iff, mapM_ok_iff]

/-- A batch that is not accepted was none, or has a first record that is not accepted. -/
theorem normalizeMessage_error {receivedAt : UtcDateTime} {e : Raised}
    (h : normalizeMessage cfg M.body receivedAt = .error e) :
    eventGridRecords cfg M.body = .error e ∨ ∃ records earlier record later,
      eventGridRecords cfg M.body = .ok records ∧ records = earlier ++ record :: later ∧
      (∀ r ∈ earlier, ∃ e, normalizeEventGridChange cfg r receivedAt = .ok e) ∧
      normalizeEventGridChange cfg record receivedAt = .error e := by
  rw [normalizeMessage] at h
  cases hrecords : eventGridRecords cfg M.body with
  | error e' =>
    rw [hrecords] at h
    cases h
    exact .inl rfl
  | ok records =>
    rw [hrecords] at h
    obtain ⟨earlier, record, later, hsplit, hearlier, herror⟩ := mapM_error h
    exact .inr ⟨records, earlier, record, later, rfl, hsplit, hearlier, herror⟩

/-- A batch accepted once is accepted at every later receipt at which none of its records is
stale. -/
theorem normalizeMessage_again {receivedAt later : UtcDateTime}
    {evidence : List NormalizedChangeEvidence} {records : List LoadedValue}
    (h : normalizeMessage cfg M.body receivedAt = .ok evidence)
    (hrecords : eventGridRecords cfg M.body = .ok records) (hle : receivedAt ≤ later)
    (hfresh : ∀ record ∈ records, ¬ IsStale cfg record later) :
    ∃ evidence', normalizeMessage cfg M.body later = .ok evidence' := by
  obtain ⟨records', hrecords', hall⟩ := normalizeMessage_ok_iff.mp h
  have hsame : records' = records := Except.ok.inj (hrecords'.symm.trans hrecords)
  subst hsame
  cases hlater : normalizeMessage cfg M.body later with
  | ok evidence' => exact ⟨evidence', rfl⟩
  | error e =>
    rcases normalizeMessage_error hlater with herror | ⟨records, earlier, record, rest, hok, hsplit, -, herror⟩
    · rw [hrecords] at herror
      cases herror
    · have hsame : records = records' := Except.ok.inj (hok.symm.trans hrecords)
      subst hsame
      have hmem : record ∈ records := by
        rw [hsplit]
        exact List.mem_append_right _ List.mem_cons_self
      obtain ⟨e', -, haccepted⟩ := mapM_ok_left (mapM_ok_iff.mpr hall) hmem
      have hagain := normalizeEventGridChange_again haccepted hle (hfresh record hmem)
      rw [hagain] at herror
      cases herror

/-- Two receipts that both accept a batch accept the same source records. -/
theorem normalizeMessage_unique {receivedAt later : UtcDateTime}
    {evidence evidence' : List NormalizedChangeEvidence}
    (h : normalizeMessage cfg M.body receivedAt = .ok evidence)
    (h' : normalizeMessage cfg M.body later = .ok evidence') :
    List.Forall₂ (fun e e' => e'.toSourceRecordEvidence = e.toSourceRecordEvidence)
      evidence evidence' := by
  obtain ⟨records, hrecords, hall⟩ := normalizeMessage_ok_iff.mp h
  obtain ⟨records', hrecords', hall'⟩ := normalizeMessage_ok_iff.mp h'
  have hsame : records' = records := Except.ok.inj (hrecords'.symm.trans hrecords)
  subst hsame
  clear hrecords hrecords' h h'
  induction hall generalizing evidence' with
  | nil =>
    cases hall'
    exact .nil
  | cons he _ ih =>
    cases hall' with
    | cons he' hrest => exact .cons (normalizeEventGridChange_unique he he') (ih hrest)

/-! ## Durable records -/

theorem RecordDurable.keep {e : NormalizedChangeEvidence} (hk : Keeps p q)
    (h : RecordDurable cfg p e) : RecordDurable cfg q e := by
  obtain ⟨a, reference, hstored, hrecord, hdurable⟩ := h
  exact ⟨a, reference, hstored.keep hk, hrecord, hdurable.keep hk⟩

theorem AllDurable.keep {evidence : List NormalizedChangeEvidence} (hk : Keeps p q)
    (h : AllDurable cfg p evidence) : AllDurable cfg q evidence :=
  fun e he => RecordDurable.keep hk (h e he)

/-- Only the source record of the evidence says what is durable. -/
theorem RecordDurable.congr {e e' : NormalizedChangeEvidence}
    (he : e'.toSourceRecordEvidence = e.toSourceRecordEvidence) (h : RecordDurable cfg p e') :
    RecordDurable cfg p e := by
  obtain ⟨a, reference, hstored, hrecord, hdurable⟩ := h
  have hbytes : sourceRecordEvidenceBytes cfg.persistence e' =
      sourceRecordEvidenceBytes cfg.persistence e := by
    rw [sourceRecordEvidenceBytes, he, sourceRecordEvidenceBytes]
  rw [he] at hstored hdurable
  exact ⟨a, reference, hstored, hrecord.trans hbytes, hdurable⟩

theorem AllDurable.congr {evidence evidence' : List NormalizedChangeEvidence}
    (hsame : List.Forall₂ (fun e e' => e'.toSourceRecordEvidence = e.toSourceRecordEvidence)
      evidence evidence') (h : AllDurable cfg p evidence') : AllDurable cfg p evidence := by
  induction hsame with
  | nil => exact fun e he => absurd he List.not_mem_nil
  | cons he _ ih =>
    intro e hmem
    have hrest := ih fun e' he' => h e' (List.mem_cons_of_mem _ he')
    rcases List.mem_cons.mp hmem with rfl | hmem
    · exact RecordDurable.congr he (h _ List.mem_cons_self)
    · exact hrest e hmem

/-- A call that returned has made the record of its delivery durable. -/
theorem recordDurable_of_returned {i : ℕ} {handoff : ChangeEvidencePersistenceHandoff}
    (hi : ChangePersistence.Invariant cfg.persistence (callDelivery cfg M) p)
    (h : p.calls i = .returned handoff) : RecordDurable cfg p (callDelivery cfg M i).evidence := by
  have hcall := hi.calls i
  rw [h] at hcall
  obtain ⟨⟨a, reference, hstored, hrecord, hhandoff⟩, hdurable⟩ := hcall
  rw [hhandoff] at hdurable
  exact ⟨a, reference, hstored, hrecord, hdurable⟩

/-! ## Calls -/

theorem callDelivery_recordCall {n k : ℕ} {evidence : List NormalizedChangeEvidence}
    {e : NormalizedChangeEvidence} (h : normalizedAt cfg M n = .ok evidence)
    (hk : evidence[k]? = some e) :
    callDelivery cfg M (recordCall n k) = ⟨e, cfg.signingKeyId, M.signature n k⟩ := by
  have hdiv : 2 * Nat.pair n k / 2 = Nat.pair n k := by omega
  have hmod : 2 * Nat.pair n k % 2 = 0 := by omega
  simp only [callDelivery, recordCall, hdiv, hmod, Nat.unpair_pair, h, Except.toOption,
    Option.bind_some, hk]

/-- A call that returned makes no further request. -/
theorem returned_of_step {action : PersistAction} {j : ℕ} {handoff : ChangeEvidencePersistenceHandoff}
    (hs : ChangePersistence.step cfg.persistence (callDelivery cfg M) p action = some q)
    (h : p.calls j = .returned handoff) : q.calls j = .returned handoff := by
  by_cases hj : j = action.call
  · subst hj
    cases action with
    | advance i fault =>
      rw [PersistAction.call] at h
      simp only [ChangePersistence.step, h] at hs
      cases hs
    | crash i =>
      rw [PersistAction.call] at h
      simp only [ChangePersistence.step, h] at hs
      cases hs
  · rw [step_calls_of_ne hs hj]
    exact h

/-! ## The invariant -/

/-- What a phase of a delivery says. -/
def PhaseInvariant (cfg : IngestionConfig) (M : QueuedMessage) (s : MessageState) (n : ℕ) :
    DeliveryPhase → Prop
  | .persisting evidence persisted => normalizedAt cfg M n = .ok evidence ∧
      ∀ k < persisted, ∃ handoff, s.persist.calls (recordCall n k) = .returned handoff
  | .discarding _ => DurableOrRejected cfg M s
  | .escaped _ => ∀ body value, messageBody cfg M.body = .ok body → cfg.loads body ≠ .ok value
  | _ => True

/-- The invariant of the runs that meet the condition. -/
structure Invariant (cfg : IngestionConfig) (M : QueuedMessage) (s : MessageState) : Prop where
  store : (ChangePersistence.system cfg.persistence (callDelivery cfg M)).Reachable s.persist
  first : s.received ≠ 0 → ∀ e, normalizedAt cfg M 0 = .error e →
    e.IsRejection ∨ eventGridRecords cfg M.body = .error e
  delivered : ∀ n, s.deliveries n ≠ none → s.received ≠ 0
  phases : ∀ n phase, s.deliveries n = some phase → PhaseInvariant cfg M s n phase
  settled : s.completedBy ≠ none → DurableOrRejected cfg M s

theorem DurableOrRejected.keep (hk : Keeps s.persist t.persist) (h : DurableOrRejected cfg M s) :
    DurableOrRejected cfg M t := by
  rcases h with ⟨evidence, hfirst, hdurable⟩ | hrejected
  · exact .inl ⟨evidence, hfirst, AllDurable.keep hk hdurable⟩
  · exact .inr hrejected

/-- Phases stay true while blobs and returned calls stay. -/
theorem PhaseInvariant.keep {n : ℕ} {phase : DeliveryPhase} (hk : Keeps s.persist t.persist)
    (hcalls : ∀ i handoff, s.persist.calls i = .returned handoff →
      t.persist.calls i = .returned handoff)
    (h : PhaseInvariant cfg M s n phase) : PhaseInvariant cfg M t n phase := by
  cases phase with
  | persisting evidence persisted =>
    refine ⟨h.1, fun k hk => ?_⟩
    obtain ⟨handoff, hreturned⟩ := h.2 k hk
    exact ⟨handoff, hcalls _ _ hreturned⟩
  | discarding rejection => exact DurableOrRejected.keep hk h
  | escaped error => exact h
  | raised error => trivial
  | stopped => trivial
  | settled => trivial

/-- One delivery moves on, and the store as it may. -/
theorem Invariant.setPhase {n : ℕ} {phase : DeliveryPhase} (hi : Invariant cfg M s)
    (hstore : (ChangePersistence.system cfg.persistence (callDelivery cfg M)).Reachable t.persist)
    (hk : Keeps s.persist t.persist)
    (hcalls : ∀ i handoff, s.persist.calls i = .returned handoff →
      t.persist.calls i = .returned handoff)
    (hdeliveries : t.deliveries = Function.update s.deliveries n (some phase))
    (hphase : PhaseInvariant cfg M t n phase) (hreceived : t.received ≠ 0)
    (hfirst : ∀ e, normalizedAt cfg M 0 = .error e →
      e.IsRejection ∨ eventGridRecords cfg M.body = .error e)
    (hsettled : t.completedBy ≠ none → s.completedBy ≠ none ∨ DurableOrRejected cfg M t) :
    Invariant cfg M t := by
  refine ⟨hstore, fun _ => hfirst, fun _ _ => hreceived, fun m phase' hm => ?_, fun hcompleted => ?_⟩
  · rw [hdeliveries] at hm
    by_cases hmn : m = n
    · subst hmn
      rw [Function.update_self] at hm
      cases hm
      exact hphase
    · rw [Function.update_of_ne hmn] at hm
      exact (hi.phases m phase' hm).keep hk hcalls
  · rcases hsettled hcompleted with hbefore | hnow
    · exact DurableOrRejected.keep hk (hi.settled hbefore)
    · exact hnow

/-! ## The start of a delivery -/

/-- A body that `json.loads` accepts is normalized with `ChangeIngestionError` only. -/
theorem normalizeMessage_contained {receivedAt : UtcDateTime} {body : List UInt8}
    {value : LoadedValue} {e : Raised} (hcontained : Contained cfg M receivedAt)
    (hbody : messageBody cfg M.body = .ok body) (hloads : cfg.loads body = .ok value)
    (h : normalizeMessage cfg M.body receivedAt = .error e) : e.cls = .changeIngestionError := by
  rcases normalizeMessage_error h with hrecords | ⟨records, earlier, record, later, hok, hsplit, hearlier, herror⟩
  · exact eventGridRecords_error hbody hloads hrecords
  · have hescapes := hcontained records earlier record later hok hsplit hearlier
    exact raisesOnly_normalizeEventGridChange hescapes e herror

/-- What a body that is not loaded is refused with does not depend on the receipt. -/
theorem normalizeMessage_error_of_records {receivedAt : UtcDateTime} {e : Raised}
    (h : eventGridRecords cfg M.body = .error e) :
    normalizeMessage cfg M.body receivedAt = .error e := by
  rw [normalizeMessage, h]
  rfl

theorem body_loaded_of_records {records : List LoadedValue}
    (h : eventGridRecords cfg M.body = .ok records) :
    ∃ body value, messageBody cfg M.body = .ok body ∧ cfg.loads body = .ok value := by
  rw [eventGridRecords, bind_ok_iff] at h
  obtain ⟨body, hbody, h⟩ := h
  rw [ite_error_ok_iff] at h
  cases hloads : cfg.loads body with
  | error e =>
    rw [hloads] at h
    cases h.2
  | ok value => exact ⟨body, value, hbody, hloads⟩

/-- The first delivery is accepted or rejected, where the body is a batch. -/
theorem first_of_contained {e : Raised} (hcontained : Contained cfg M (M.receivedAt 0))
    (h : normalizedAt cfg M 0 = .error e) :
    e.IsRejection ∨ eventGridRecords cfg M.body = .error e := by
  rcases normalizeMessage_error h with hrecords | ⟨records, earlier, record, later, hok, -⟩
  · exact .inr hrecords
  · obtain ⟨body, value, hbody, hloads⟩ := body_loaded_of_records hok
    exact .inl (.inl (normalizeMessage_contained hcontained hbody hloads h))

/-- A delivery that rejects the batch finds its records durable, or the first one rejected it. -/
theorem durableOrRejected_of_rejected {n : ℕ} {e : Raised}
    (hfirst : ∀ e, normalizedAt cfg M 0 = .error e →
      e.IsRejection ∨ eventGridRecords cfg M.body = .error e)
    (htimely : Timely cfg M s (M.receivedAt n)) (h : normalizedAt cfg M n = .error e)
    (hrejected : e.IsRejection) : DurableOrRejected cfg M s := by
  cases hzero : normalizedAt cfg M 0 with
  | error e' =>
    rcases hfirst e' hzero with hrejection | hrecords
    · exact .inr ⟨e', hzero, hrejection⟩
    · -- the body is refused with the same exception at every receipt
      have hsame : normalizedAt cfg M n = .error e' := normalizeMessage_error_of_records hrecords
      rw [h] at hsame
      cases hsame
      exact .inr ⟨e, hzero, hrejected⟩
  | ok evidence =>
    obtain ⟨records, hrecords, -⟩ := normalizeMessage_ok_iff.mp hzero
    rcases htimely evidence records hzero hrecords with hfresh | hdurable
    · obtain ⟨evidence', hagain⟩ := normalizeMessage_again hzero hrecords
        (M.receivedAt_mono (Nat.zero_le n)) hfresh
      have hok : normalizedAt cfg M n = .ok evidence' := hagain
      rw [h] at hok
      cases hok
    · exact .inl ⟨evidence, hzero, hdurable⟩

/-- The phase in which a delivery starts. -/
theorem startDelivery_spec {n : ℕ} (hcontained : Contained cfg M (M.receivedAt n))
    (htimely : Timely cfg M s (M.receivedAt n))
    (hfirst : ∀ e, normalizedAt cfg M 0 = .error e →
      e.IsRejection ∨ eventGridRecords cfg M.body = .error e) :
    PhaseInvariant cfg M s n (startDelivery cfg M n) := by
  unfold startDelivery
  cases hn : normalizedAt cfg M n with
  | ok evidence => exact ⟨hn, fun k hk => absurd hk (Nat.not_lt_zero k)⟩
  | error e =>
    dsimp only
    by_cases hrejected : e.IsRejection
    · rw [if_pos hrejected]
      cases hdigest : messageDigest cfg M.body with
      | ok _ => exact durableOrRejected_of_rejected hfirst htimely hn hrejected
      | error e' =>
        intro body value hbody
        rw [messageDigest, hbody] at hdigest
        cases hdigest
    · rw [if_neg hrejected]
      intro body value hbody hloads
      exact hrejected (.inl (normalizeMessage_contained hcontained hbody hloads hn))

/-! ## Steps -/

/-- The records of a delivery are durable when it has persisted all of them. -/
theorem allDurable_of_persisted {n : ℕ} {evidence : List NormalizedChangeEvidence}
    (hi : Invariant cfg M s)
    (h : PhaseInvariant cfg M s n (.persisting evidence evidence.length)) :
    AllDurable cfg s.persist evidence := by
  intro e he
  obtain ⟨k, hk⟩ := List.mem_iff_getElem?.mp he
  have hlt : k < evidence.length := (List.getElem?_eq_some_iff.mp hk).1
  obtain ⟨handoff, hreturned⟩ := h.2 k hlt
  have hdurable := recordDurable_of_returned (reachable_invariant hi.store) hreturned
  rw [callDelivery_recordCall h.1 hk] at hdurable
  exact hdurable

/-- The message may be completed. -/
theorem durableOrRejected_of_due {n : ℕ} {phase : DeliveryPhase} (hi : Invariant cfg M s)
    (hreceived : s.received ≠ 0) (h : PhaseInvariant cfg M s n phase) (hdue : phase.IsDue) :
    DurableOrRejected cfg M s := by
  cases phase with
  | persisting evidence persisted =>
    have hlength : persisted = evidence.length := hdue
    subst hlength
    have hdurable := allDurable_of_persisted hi h
    cases hzero : normalizedAt cfg M 0 with
    | ok evidence' =>
      exact .inl ⟨evidence', hzero, AllDurable.congr (normalizeMessage_unique hzero h.1) hdurable⟩
    | error e =>
      rcases hi.first hreceived e hzero with hrejection | hrecords
      · exact .inr ⟨e, hzero, hrejection⟩
      · have hsame : normalizedAt cfg M n = .error e := normalizeMessage_error_of_records hrecords
        rw [h.1] at hsame
        cases hsame
  | discarding rejection => exact h
  | escaped error => exact hdue.elim
  | raised error => exact hdue.elim
  | stopped => exact hdue.elim
  | settled => exact hdue.elim

/-- A new delivery. -/
theorem deliver_spec (hi : Invariant cfg M s) (hc : Condition cfg M s .deliver)
    (hs : EventGridMessages.step cfg M s .deliver = some t) : Invariant cfg M t := by
  simp only [EventGridMessages.step] at hs
  split at hs
  · cases hs
  · rename_i hopen
    cases hs
    have hfirst : ∀ e, normalizedAt cfg M 0 = .error e →
        e.IsRejection ∨ eventGridRecords cfg M.body = .error e := by
      intro e he
      by_cases hreceived : s.received = 0
      · rw [← hreceived] at he
        have hcontained := hc.1
        rw [hreceived] at he hcontained
        exact first_of_contained hcontained he
      · exact hi.first hreceived e he
    have hphase := startDelivery_spec hc.1 hc.2 hfirst
    refine hi.setPhase hi.store (fun _ _ h => h) (fun _ _ h => h) rfl
      (hphase.keep (fun _ _ h => h) fun _ _ h => h) (Nat.succ_ne_zero _) hfirst fun hcompleted => ?_
    exact .inl hcompleted

/-- A request of a delivery for its current record. -/
theorem persist_spec {n : ℕ} {fault : Cell.Fault} (hi : Invariant cfg M s)
    (hs : EventGridMessages.step cfg M s (.persist n fault) = some t) : Invariant cfg M t := by
  simp only [EventGridMessages.step] at hs
  split at hs
  · rename_i evidence k hphase
    split at hs
    · obtain ⟨p, hstep, rfl⟩ := Option.map_eq_some_iff.mp hs
      have hreceived : s.received ≠ 0 := hi.delivered n (by rw [hphase]; exact Option.some_ne_none _)
      have hreturned : ∀ i handoff, s.persist.calls i = .returned handoff →
          p.calls i = .returned handoff := fun i handoff h => returned_of_step hstep h
      have hbefore := hi.phases n _ hphase
      have hkept : ∀ j < k, ∃ handoff, p.calls (recordCall n j) = .returned handoff := by
        intro j hj
        obtain ⟨handoff, hcall⟩ := hbefore.2 j hj
        exact ⟨handoff, hreturned _ _ hcall⟩
      refine hi.setPhase (.next hi.store hstep) (step_keeps hstep) hreturned rfl ?_ hreceived
        (hi.first hreceived) fun hcompleted => .inl hcompleted
      cases hcall : p.calls (recordCall n k) with
      | returned handoff =>
        refine ⟨hbefore.1, fun j hj => ?_⟩
        by_cases hjk : j = k
        · rw [hjk]
          exact ⟨handoff, hcall⟩
        · exact hkept j (by omega)
      | raised error => trivial
      | running phase => exact ⟨hbefore.1, hkept⟩
      | crashed => exact ⟨hbefore.1, hkept⟩
    · cases hs
  · cases hs

/-- The settlement of a delivery. -/
theorem complete_spec {n : ℕ} {fault : Cell.Fault} (hi : Invariant cfg M s)
    (hs : EventGridMessages.step cfg M s (.complete n fault) = some t) : Invariant cfg M t := by
  simp only [EventGridMessages.step] at hs
  split at hs
  · rename_i phase hphase
    split at hs
    · rename_i hdue
      cases hs
      have hreceived : s.received ≠ 0 := hi.delivered n (by rw [hphase]; exact Option.some_ne_none _)
      have hsettled := durableOrRejected_of_due hi hreceived (hi.phases n phase hphase) hdue
      unfold settle
      split
      · exact hi.setPhase hi.store (fun _ _ h => h) (fun _ _ h => h) rfl trivial hreceived
          (hi.first hreceived) fun hcompleted => .inl hcompleted
      · refine hi.setPhase hi.store (fun _ _ h => h) (fun _ _ h => h) rfl ?_ hreceived
          (hi.first hreceived) fun _ => .inr hsettled
        split
        · trivial
        · trivial
    · cases hs
  · cases hs

/-- Every step that meets the condition keeps the invariant. -/
theorem step_spec {action : MessageAction} (hi : Invariant cfg M s) (hc : Condition cfg M s action)
    (hs : EventGridMessages.step cfg M s action = some t) : Invariant cfg M t := by
  cases action with
  | deliver => exact deliver_spec hi hc hs
  | persist n fault => exact persist_spec hi hs
  | stop n =>
    simp only [EventGridMessages.step] at hs
    split at hs
    · rename_i phase hphase
      split at hs
      · cases hs
        have hreceived : s.received ≠ 0 :=
          hi.delivered n (by rw [hphase]; exact Option.some_ne_none _)
        exact hi.setPhase hi.store (fun _ _ h => h) (fun _ _ h => h) rfl trivial hreceived
          (hi.first hreceived) fun hcompleted => .inl hcompleted
      · cases hs
    · cases hs
  | complete n fault => exact complete_spec hi hs
  | elsewhere action =>
    simp only [EventGridMessages.step] at hs
    split at hs
    · obtain ⟨p, hstep, rfl⟩ := Option.map_eq_some_iff.mp hs
      have hk : Keeps s.persist p := step_keeps hstep
      refine ⟨.next hi.store hstep, hi.first, hi.delivered, fun n phase hphase => ?_,
        fun hcompleted => ?_⟩
      · exact (hi.phases n phase hphase).keep hk fun i handoff h => returned_of_step hstep h
      · exact DurableOrRejected.keep hk (hi.settled hcompleted)
    · cases hs

theorem invariant_initial : Invariant cfg M EventGridMessages.initial := by
  refine ⟨.start rfl, fun h => absurd rfl h, fun n h => absurd rfl h, fun n phase h => ?_,
    fun h => absurd rfl h⟩
  cases h

theorem reachable_invariant_guarded
    (hr : ((EventGridMessages.system cfg M).guarded (Condition cfg M)).Reachable s) :
    Invariant cfg M s := by
  refine hr.invariant ?_ ?_
  · intro s hs
    rw [hs]
    exact invariant_initial
  · intro s action t _ hi hs
    exact step_spec hi hs.1 hs.2

/-- In every run in which no receipt finds a record that was accepted stale before it is durable,
and no timestamp or nesting escapes canonicalization, a completed message has durable records or
was rejected at its first delivery, and no exception of the normalization leaves the handler. -/
theorem no_change_lost
    (hr : ((EventGridMessages.system cfg M).guarded (Condition cfg M)).Reachable s) :
    NoChangeLost cfg M s := by
  have hi := reachable_invariant_guarded hr
  refine ⟨fun evidence hfirst hcompleted => ?_, hi.settled, fun body value hbody hloads n e hphase => ?_⟩
  · rcases hi.settled hcompleted with ⟨evidence', hfirst', hdurable⟩ | ⟨e, hrejected, -⟩
    · rw [hfirst] at hfirst'
      cases hfirst'
      exact hdurable
    · rw [hfirst] at hrejected
      cases hrejected
  · exact hi.phases n _ hphase body value hbody hloads

end

/-! ## Runs -/

mutual

/-- A value without floats as `rfc8785` writes it. -/
def jsonOf : JsonValue Text → Option Json
  | .none => some .null
  | .boolean value => some (.boolean value)
  | .integer value => some (.number value)
  | .float _ => none
  | .string value => some (.string value)
  | .array items => (jsonItems items).map .array
  | .object members => (jsonMembers members).map .object

def jsonItems : List (JsonValue Text) → Option (List Json)
  | [] => some []
  | item :: rest => do
    let value ← jsonOf item
    let values ← jsonItems rest
    pure (value :: values)

def jsonMembers : List (Text × JsonValue Text) → Option (List (Text × Json))
  | [] => some []
  | (key, item) :: rest => do
    let value ← jsonOf item
    let values ← jsonMembers rest
    pure ((key, value) :: values)

end

def sampleSubscription : Text :=
  List.replicate 8 '0' ++ '-' :: (List.replicate 4 '0' ++ '-' :: (List.replicate 4 '0' ++ '-' ::
    (List.replicate 4 '0' ++ '-' :: List.replicate 12 '0')))

def sampleTarget : Text :=
  "/subscriptions/".toList ++ sampleSubscription ++
    "/resourcegroups/r/providers/microsoft.c/v/n".toList

/-- A successful write at an instant. -/
def sampleEvent (eventTime : String) : LoadedValue :=
  .object
    [(loaded "id", .string (loaded "e")), (loaded "eventTime", .string (loaded eventTime)),
      (loaded "eventType", .string (loaded "WriteSuccess")),
      (loaded "data", .object
        [(loaded "operationName", .string (loaded "m/write")),
          (loaded "correlationId", .string (sampleSubscription.map .scalar)),
          (loaded "resourceUri", .string (sampleTarget.map .scalar))])]

/-- One text of the epoch is a time; the other pieces act as they do on the sample. -/
def sampleIngestion (event : LoadedValue) : IngestionConfig where
  persistence := sampleConfig
  json :=
    { datetime := ⟨true, true, true⟩
      nfc := fun t => t
      exceedsStack := fun _ _ => false
      dumps := fun value => match jsonOf value with
        | some value => .ok (canonicalText value)
        | none => .error ⟨.valueError, "unsupported float"⟩ }
  loads := fun _ => .ok event
  encode := fun s => match scalarText s with
    | some t => .ok (String.ofList t).toUTF8.toList
    | none => .error ⟨.valueError, "surrogates not allowed"⟩
  unicode := latinTables
  lower := fun t => t.map Char.toLower
  fromIsoFormat := fun t => if t = "1970-01-01T00:00:00+00:00".toList then some ⟨0, some 0⟩ else none
  uuidText := fun t => if isSubscription t then some t else none
  sha256 := fun t => t
  approvedResourceIds := [sampleTarget]
  signingKeyId := "k"

def epochEvent : LoadedValue := sampleEvent "1970-01-01T00:00:00Z"

/-- Delivered at two receipts. -/
def sampleMessage (first second : UtcDateTime) (h : first ≤ second) : QueuedMessage where
  body := .bytes [0]
  receivedAt n := if n = 0 then first else second
  receivedAt_mono := by
    intro n m hle
    dsimp only
    split
    · split
      · exact le_refl _
      · exact h
    · rename_i hn
      have hm : m ≠ 0 := by omega
      rw [if_neg hm]
  signature _ _ := "QQ=="
  elsewhere _ := sampleDelivery "é" 0

/-- The key of the sample. -/
def sampleKey : Digest := "source-record:sha256:e"

theorem epochEvent_normalized :
    (normalizeMessage (sampleIngestion epochEvent) (.bytes [0]) 0).toOption.map
      (fun evidence => evidence.map fun e => e.deduplicationKey) = some [sampleKey] := by
  decide +kernel

/-- A delivery at the epoch accepts the sample. -/
theorem first_accepted {second : UtcDateTime} (h : 0 ≤ second) :
    ∃ evidence, normalizedAt (sampleIngestion epochEvent) (sampleMessage 0 second h) 0 = .ok evidence ∧
      ∃ e ∈ evidence, e.deduplicationKey = sampleKey := by
  have hkeys := epochEvent_normalized
  cases hok : normalizeMessage (sampleIngestion epochEvent) (.bytes [0]) 0 with
  | error e =>
    rw [hok] at hkeys
    cases hkeys
  | ok evidence =>
    rw [hok] at hkeys
    have hkeys' : evidence.map (fun e => e.deduplicationKey) = [sampleKey] := Option.some.inj hkeys
    have hkey : sampleKey ∈ evidence.map fun e => e.deduplicationKey := by
      rw [hkeys']
      exact List.mem_singleton_self _
    exact ⟨evidence, hok, List.mem_map.mp hkey⟩

/-- The second delivery comes a minute later. -/
def promptMessage : QueuedMessage := sampleMessage 0 60000 (by decide)

/-- The store fails at the first delivery, and the second one persists the record. -/
def recoveredRun : List MessageAction :=
  [.deliver, .persist 0 (.failed false), .deliver] ++ List.replicate 4 (.persist 1 .answered) ++
    [.complete 1 .answered]

theorem recoveredRun_completed :
    (runSteps (EventGridMessages.step (sampleIngestion epochEvent) promptMessage)
      EventGridMessages.initial recoveredRun).map MessageState.completedBy = some (some 1) := by
  decide +kernel

theorem epochEvent_records : eventGridRecords (sampleIngestion epochEvent) (.bytes [0]) =
    .ok [epochEvent] := rfl

theorem epochEvent_occurredAt :
    (eventHead (sampleIngestion epochEvent) epochEvent).toOption.map EventHead.occurredAt = some 0 := by
  decide +kernel

theorem epochEvent_head : ∃ head, eventHead (sampleIngestion epochEvent) epochEvent = .ok head ∧
    head.occurredAt = 0 := by
  have htime := epochEvent_occurredAt
  cases hhead : eventHead (sampleIngestion epochEvent) epochEvent with
  | error e =>
    rw [hhead] at htime
    cases htime
  | ok head =>
    rw [hhead] at htime
    exact ⟨head, rfl, Option.some.inj htime⟩

/-- The prompt message meets the condition in every state. -/
theorem promptMessage_condition (s : MessageState) (action : MessageAction) :
    Condition (sampleIngestion epochEvent) promptMessage s action := by
  cases action with
  | deliver =>
    refine ⟨?_, ?_⟩
    · rintro records earlier record later hrecords hsplit - hescapes
      have hsame : records = [epochEvent] := Except.ok.inj (hrecords.symm.trans epochEvent_records)
      have hmem : record ∈ [epochEvent] := by
        rw [← hsame, hsplit]
        exact List.mem_append_right _ List.mem_cons_self
      rw [List.mem_singleton.mp hmem] at hescapes
      obtain ⟨head, hhead, -⟩ := epochEvent_head
      exact not_escapes_of_head hhead hescapes
    · intro evidence records _ hrecords
      have hsame : records = [epochEvent] := Except.ok.inj (hrecords.symm.trans epochEvent_records)
      refine .inl fun record hrecord => ?_
      rintro ⟨head, hhead, hold⟩
      rw [hsame] at hrecord
      rw [List.mem_singleton.mp hrecord] at hhead
      obtain ⟨head', hhead', hzero⟩ := epochEvent_head
      rw [hhead] at hhead'
      cases hhead'
      have hreceived : promptMessage.receivedAt s.received ≤ 60000 := by
        simp only [promptMessage, sampleMessage]
        split
        · decide
        · exact le_refl _
      rw [hzero, Int.sub_zero] at hold
      exact absurd (hold.trans_le hreceived) (by decide)
  | persist n fault => trivial
  | stop n => trivial
  | complete n fault => trivial
  | elsewhere action => trivial

/-- The message is completed, and its record durable. -/
theorem no_change_lost_recovered : ∃ (s : MessageState) (evidence : List NormalizedChangeEvidence),
    s.completedBy = some 1 ∧
    normalizedAt (sampleIngestion epochEvent) promptMessage 0 = .ok evidence ∧
    AllDurable (sampleIngestion epochEvent) s.persist evidence := by
  obtain ⟨s, hs, hcompleted⟩ := Option.map_eq_some_iff.mp recoveredRun_completed
  have hr := reachable_runSteps recoveredRun (.start rfl) hs
  have hlost := no_change_lost (hr.guarded_of_forall promptMessage_condition)
  obtain ⟨evidence, hok, -⟩ := first_accepted (show (0 : ℤ) ≤ 60000 by decide)
  refine ⟨s, evidence, hcompleted, hok, hlost.accepted evidence hok ?_⟩
  rw [hcompleted]
  exact Option.some_ne_none _

/-- The second delivery comes behind the window. -/
def staleMessage : QueuedMessage := sampleMessage 0 1000000 (by decide)

/-- The store fails at the first delivery, and the second one discards the message. -/
def lostRun : List MessageAction :=
  [.deliver, .persist 0 (.failed false), .deliver, .complete 1 .answered]

theorem lostRun_completed :
    (runSteps (EventGridMessages.step (sampleIngestion epochEvent) staleMessage)
      EventGridMessages.initial lostRun).map
        (fun s => (s.completedBy, (s.persist.blobs (.artifact sampleKey)).content)) =
      some (some 1, none) := by
  decide +kernel

/-- A message that its first delivery accepted is completed without its record. -/
theorem stale_redelivery_loses_change :
    ¬ ∀ cfg M s, (EventGridMessages.system cfg M).Reachable s → NoChangeLost cfg M s := by
  intro h
  obtain ⟨s, hs, hsummary⟩ := Option.map_eq_some_iff.mp lostRun_completed
  obtain ⟨hcompleted, hempty⟩ := Prod.mk.inj hsummary
  have hlost := h _ _ s (reachable_runSteps lostRun (.start rfl) hs)
  obtain ⟨evidence, hok, e, he, hkey⟩ := first_accepted (show (0 : ℤ) ≤ 1000000 by decide)
  have hne : s.completedBy ≠ none := by
    rw [hcompleted]
    exact Option.some_ne_none _
  obtain ⟨a, reference, ⟨version, hcontent, -⟩, -⟩ := hlost.accepted evidence hok hne e he
  rw [hkey, hempty] at hcontent
  cases hcontent

/-- The overflow of a timestamp before the year 1 leaves the handler. -/
theorem early_timestamp_escapes :
    startDelivery (sampleIngestion (sampleEvent "0001-01-01T00:00:00+01:00")) staleMessage 0 =
      .escaped ⟨.other, "date value out of range"⟩ := by
  decide +kernel

end AthenaContext.EventGridRedelivery
