import AthenaContext.CohortDecisions
import AthenaContext.ContextCalls

/-!
# Cohort decisions exclude each other

A decision is written together with its receipt, after a scan that found no decision
it overlaps with. So of the decisions in the store no two conflict, each is named by
the receipt of exactly one idempotency key, and that key answers with the decision from
then on. A call that raises has at most captured a selector baseline.
-/

namespace AthenaContext.DecisionExclusivity

open ContextRecords ContextStorage ContextMutations ContextTransitions ContextCalls
open CohortDecisionRecords CohortDecisions Dictionaries Transactions
open TransitionSystems

variable {γ δ : Type} {P : CohortDecisionService γ δ} {s t : Store γ δ CohortRecords}

/-! ## The parts of a call -/

/-- A replay answers with the stored decision. -/
theorem replayFromReceipt_ok {receipt : CohortDecisionReceipt}
    {decision : Option CohortDecisionRecord} {digest manifestId : String}
    {record : CohortDecisionRecord}
    (h : P.replayFromReceipt receipt decision digest manifestId = .ok record) :
    decision = some record := by
  unfold CohortDecisionService.replayFromReceipt at h
  split at h
  · cases h
  · cases decision with
    | none => cases h
    | some stored =>
      dsimp only at h
      split at h
      · cases h
      · exact congrArg some (Except.ok.inj h)

/-- The receipt under the key answers the request with the record. -/
structure ReceiptAnswers (P : CohortDecisionService γ δ) (records : CohortRecords)
    (holder : String × String) (digest manifestId : String) (record : CohortDecisionRecord)
    (receipt : CohortDecisionReceipt) : Prop where
  held : records.decisionReceipts.get? holder = some receipt
  stored : records.decisions.get? (receipt.manifestId, receipt.decisionId) = some record
  replays : P.replayFromReceipt receipt (some record) digest manifestId = .ok record

/-- The lookup of a receipt reads the store, and finds the decision that it names. -/
theorem returns_replayed {actor : Actor} {key digest manifestId : String}
    {found : Option CohortDecisionRecord} :
    Returns (P.replayed actor key digest manifestId) s found t ↔
      ((found = none ∧ s.others.decisionReceipts.get? (actor.actorId, key) = none) ∨
        ∃ receipt record, found = some record ∧
          ReceiptAnswers P s.others (actor.actorId, key) digest manifestId record receipt) ∧
      s = t := by
  simp only [CohortDecisionService.replayed, getCohortDecisionReceipt, returns_bind,
    returns_reading]
  constructor
  · rintro ⟨receipt, _, ⟨hreceipt, rfl⟩, h⟩
    cases receipt with
    | none =>
      obtain ⟨hfound, hs⟩ := returns_pure.mp h
      exact ⟨.inl ⟨hfound.symm, hreceipt⟩, hs⟩
    | some receipt =>
      simp only [getCohortDecision, returns_bind, returns_reading, returns_checked,
        returns_pure] at h
      obtain ⟨decision, _, ⟨hdecision, rfl⟩, record, _, ⟨hreplay, rfl⟩, rfl, rfl⟩ := h
      have hsome := replayFromReceipt_ok hreplay
      subst hsome
      exact ⟨.inr ⟨receipt, record, rfl, hreceipt, hdecision, hreplay⟩, rfl⟩
  · rintro ⟨⟨rfl, hreceipt⟩ | ⟨receipt, record, rfl, hanswers⟩, rfl⟩
    · exact ⟨none, s, ⟨hreceipt, rfl⟩, returns_pure.mpr ⟨rfl, rfl⟩⟩
    · refine ⟨some receipt, s, ⟨hanswers.held, rfl⟩, ?_⟩
      simp only [getCohortDecision, returns_bind, returns_reading, returns_checked, returns_pure]
      exact ⟨some record, s, ⟨hanswers.stored, rfl⟩, record, s, ⟨hanswers.replays, rfl⟩, rfl, rfl⟩

/-- The selector baseline that precedes a decision is all that may be written there. -/
theorem returns_ensureSelectorBaseline {S : ContextService γ δ CohortRecords} {actor : Actor}
    {request : CohortDecisionRequest} {baseline : DraftSelectorBaseline}
    (h : Returns (ensureSelectorBaselineForDecision S actor request) s baseline t) :
    ∃ baselines, t = { s with draftSelectorBaselines := baselines } := by
  simp only [ensureSelectorBaselineForDecision, getDraftSelectorBaseline, returns_bind,
    returns_requireDraft, returns_checked, returns_reading] at h
  obtain ⟨current, _, ⟨-, rfl⟩, _, _, ⟨-, rfl⟩, _, _, ⟨-, rfl⟩, _, _, ⟨-, rfl⟩, h⟩ := h
  exact returns_requireSelectorBaseline h

theorem returns_requireCurrentDraft {request : CohortDecisionRequest}
    {version : CohortProposalSetVersion} {draft : Draft γ}
    (h : Returns (P.requireCurrentDraft request version) s draft t) : s = t := by
  simp only [CohortDecisionService.requireCurrentDraft, listCohortDecisions, returns_bind,
    returns_inContext, returns_requireDraft, returns_raiseIf, returns_checked, returns_reading,
    returns_pure] at h
  obtain ⟨_, _, ⟨-, rfl⟩, _, _, ⟨-, rfl⟩, _, _, ⟨-, rfl⟩, _, _, ⟨-, rfl⟩, _, _, ⟨-, rfl⟩, _, _,
    ⟨-, rfl⟩, _, _, ⟨-, rfl⟩, _, _, ⟨-, rfl⟩, -, rfl⟩ := h
  rfl

/-- The checks of the transaction write nothing. -/
theorem returns_prepareDecision {readings : DecisionReadings} {actor : Actor}
    {request : CohortDecisionRequest} {decisionId : String} {prepared : PreparedDecision γ}
    (h : Returns (P.prepareDecision readings actor request decisionId) s prepared t) : s = t := by
  simp only [CohortDecisionService.prepareDecision, returns_bind, returns_checked,
    returns_reading, returns_raiseIf, returns_pure, and_assoc, exists_and_left,
    exists_eq_left'] at h
  obtain ⟨_, -, _, -, _, -, _, -, _, -, _, -, -, _, _, -, current, u, hcurrent, _, -, _, -, _, -,
    -, -, _, rfl⟩ := h
  exact returns_requireCurrentDraft hcurrent

/-- Applying a decision leaves the decisions and their receipts alone. -/
theorem applyDecision_others {readings : DecisionReadings} {actor : Actor}
    {request : CohortDecisionRequest} {decisionId : String} {prepared : PreparedDecision γ}
    {r : Unit} (h : Returns (P.applyDecision readings actor request decisionId prepared) s r t) :
    t.others = s.others := by
  unfold CohortDecisionService.applyDecision at h
  split at h
  · obtain ⟨_, hs⟩ := returns_pure.mp h
    rw [hs]
  · simp only [returns_bind, returns_inContext, returns_raiseIf] at h
    obtain ⟨applied, u, hreplace, -, rfl⟩ := h
    obtain ⟨_, _, _, _, _, hwrites⟩ := replaceDraftInTransaction_step hreplace
    exact hwrites.others_eq

/-- A decision was written with the receipt of its request. -/
structure Recorded (P : CohortDecisionService γ δ) (before after : CohortRecords)
    (holder : String × String) (digest : String) (record : CohortDecisionRecord)
    (receipt : CohortDecisionReceipt) : Prop where
  valid : record.Valid P.normalizedIdentifier
  fresh : before.decisions.get? (record.manifestId, record.decisionId) = none
  free : overlappingDecisions P.normalizedIdentifier before record.proposalSetVersion = []
  unused : before.decisionReceipts.get? holder = none
  decisions_eq : after.decisions =
    before.decisions.set (record.manifestId, record.decisionId) record
  receipts_eq : after.decisionReceipts = before.decisionReceipts.set holder receipt
  manifestId_eq : receipt.manifestId = record.manifestId
  decisionId_eq : receipt.decisionId = record.decisionId
  requestDigest_eq : receipt.requestDigest = digest
  decisionDigest_eq : receipt.decisionDigest = P.recordDigest record

/-- The writes of the transaction put one decision and its receipt. -/
theorem returns_recordDecision {readings : DecisionReadings} {actor : Actor} {key : String}
    {request : CohortDecisionRequest} {digest decisionId : String}
    {prepared : PreparedDecision γ} {record : CohortDecisionRecord}
    (h : Returns (P.recordDecision readings actor key request digest decisionId prepared) s
      record t) :
    record.manifestId = request.manifestId ∧
      Recorded P s.others t.others (actor.actorId, key) digest record
        (P.decisionReceipt actor key digest record) := by
  simp only [CohortDecisionService.recordDecision, returns_bind, returns_inContext,
    returns_reading, returns_raiseIf, returns_checked, returns_pure, not_not] at h
  obtain ⟨_, u, haudit, audit, _, ⟨-, rfl⟩, _, _, ⟨hvalid, rfl⟩, _, v, hput, _, w, happly, _, _,
    ⟨-, rfl⟩, _, x, hreceipt, rfl, rfl⟩ := h
  obtain ⟨_, _, _, hu⟩ := returns_appendAudit haudit
  obtain ⟨hfresh, hfree, versions, hv⟩ := returns_putCohortDecision hput
  have hw := applyDecision_others happly
  obtain ⟨hunused, hx⟩ := returns_putCohortDecisionReceipt hreceipt
  have hothers : u.others = s.others := by rw [hu]
  rw [hothers] at hfresh hfree
  refine ⟨rfl, hvalid, hfresh, hfree, ?_, ?_, ?_, rfl, rfl, rfl, rfl⟩
  · rw [hw, hv, hothers] at hunused
    exact hunused
  · rw [hx, hw, hv, hothers]
  · rw [hx, hw, hv, hothers]
    rfl

/-! ## A call -/

/-- The answer of a call, and the store after it. -/
def performDecision (P : CohortDecisionService γ δ) (readings : DecisionReadings) (actor : Actor)
    (key : String) (request : CohortDecisionRequest) (store : Store γ δ CohortRecords) :
    Except CohortError CohortDecisionRecord × Store γ δ CohortRecords :=
  runFrom (P.decide readings actor key request) store

/-- The store answers the request from the receipt of its key. -/
def Answers (P : CohortDecisionService γ δ) (records : CohortRecords) (actor : Actor)
    (key : String) (request : CohortDecisionRequest) (record : CohortDecisionRecord) : Prop :=
  actor.kind = .human ∧ P.requireExplicit actor .updateDraft request.manifestId = .ok () ∧
    ∃ digest receipt, P.requestDigest actor request = .ok digest ∧
      ReceiptAnswers P records (actor.actorId, key) digest request.manifestId record receipt

/-- A new receipt answers its own request. -/
theorem Recorded.answers {before after : CohortRecords} {holder : String × String}
    {digest manifestId : String} {record : CohortDecisionRecord} {receipt : CohortDecisionReceipt}
    (h : Recorded P before after holder digest record receipt)
    (hmanifest : record.manifestId = manifestId) :
    ReceiptAnswers P after holder digest manifestId record receipt := by
  refine ⟨?_, ?_, ?_⟩
  · rw [h.receipts_eq]
    exact Dictionary.get?_set_self
  · rw [h.decisions_eq, h.manifestId_eq, h.decisionId_eq]
    exact Dictionary.get?_set_self
  · simp [CohortDecisionService.replayFromReceipt, h.requestDigest_eq, h.manifestId_eq,
      h.decisionId_eq, h.decisionDigest_eq, hmanifest]

/-- The transactions of a call that returned: the receipt of its key answered, or the
baseline was ensured and the decision recorded. -/
theorem decide_transactions {readings : DecisionReadings} {actor : Actor} {key : String}
    {request : CohortDecisionRequest} {record : CohortDecisionRecord}
    (h : Returns (P.decide readings actor key request) s record t) :
    (Answers P s.others actor key request record ∧ t = s) ∨
      ∃ digest baseline u prepared, actor.kind = .human ∧
        P.requireExplicit actor .updateDraft request.manifestId = .ok () ∧
        P.requestDigest actor request = .ok digest ∧
        Returns (ensureSelectorBaselineForDecision P.contextService actor request) s baseline u ∧
        Returns (P.recordDecision readings actor key request digest (cohortDecisionId digest)
          prepared) u record t := by
  simp only [CohortDecisionService.decide, returns_bind, returns_raiseIf, returns_checked,
    returns_atomically, returns_replayed, ne_eq, not_not] at h
  obtain ⟨_, _, ⟨hhuman, rfl⟩, _, _, ⟨hexplicit, rfl⟩, digest, _, ⟨hdigest, rfl⟩, first, _,
    ⟨hfirst, rfl⟩, h⟩ := h
  rcases hfirst with ⟨rfl, hnone⟩ | ⟨receipt, found, rfl, hanswers⟩
  · simp only [CohortDecisionService.unlessReplayed, returns_bind, returns_atomically,
      returns_inContext, returns_replayed] at h
    obtain ⟨baseline, u, hensure, second, _, ⟨hsecond, rfl⟩, h⟩ := h
    obtain ⟨baselines, hu⟩ := returns_ensureSelectorBaseline hensure
    have hothers : u.others = s.others := by rw [hu]
    rw [hothers] at hsecond
    rcases hsecond with ⟨rfl, -⟩ | ⟨receipt, found, rfl, hanswers⟩
    · simp only [returns_atomically, CohortDecisionService.decideTransaction, returns_bind,
        returns_replayed, hothers] at h
      obtain ⟨third, _, ⟨hthird, rfl⟩, h⟩ := h
      rcases hthird with ⟨rfl, -⟩ | ⟨receipt, found, rfl, hanswers⟩
      · simp only [CohortDecisionService.unlessReplayed, returns_bind] at h
        obtain ⟨prepared, v, hprepare, hrecord⟩ := h
        have hv := returns_prepareDecision hprepare
        subst hv
        exact .inr ⟨digest, baseline, u, prepared, hhuman, hexplicit, hdigest, hensure, hrecord⟩
      · exact absurd hanswers.held (by rw [hnone]; simp)
    · exact absurd hanswers.held (by rw [hnone]; simp)
  · obtain ⟨hrecord, ht⟩ := returns_pure.mp h
    subst hrecord ht
    exact .inl ⟨⟨hhuman, hexplicit, digest, receipt, hdigest, hanswers⟩, rfl⟩

/-- What a call that returned did: it answered from a receipt, or recorded a decision
under a key that had none. -/
theorem returns_decide {readings : DecisionReadings} {actor : Actor} {key : String}
    {request : CohortDecisionRequest} {record : CohortDecisionRecord}
    (h : Returns (P.decide readings actor key request) s record t) :
    Answers P t.others actor key request record ∧
      (t = s ∨ ∃ digest receipt,
        Recorded P s.others t.others (actor.actorId, key) digest record receipt) := by
  rcases decide_transactions h with ⟨hanswers, rfl⟩ |
    ⟨digest, baseline, u, prepared, hhuman, hexplicit, hdigest, hensure, hrecord⟩
  · exact ⟨hanswers, .inl rfl⟩
  · obtain ⟨baselines, hu⟩ := returns_ensureSelectorBaseline hensure
    obtain ⟨hmanifest, hrecorded⟩ := returns_recordDecision hrecord
    rw [hu] at hrecorded
    exact ⟨⟨hhuman, hexplicit, digest, _, hdigest, hrecorded.answers hmanifest⟩,
      .inr ⟨digest, _, hrecorded⟩⟩

/-- A store that answers the request does so at every reading, and stays as it is. -/
theorem Answers.returns {actor : Actor} {key : String} {request : CohortDecisionRequest}
    {record : CohortDecisionRecord} (h : Answers P s.others actor key request record)
    (readings : DecisionReadings) : Returns (P.decide readings actor key request) s record s := by
  obtain ⟨hhuman, hexplicit, digest, receipt, hdigest, hanswers⟩ := h
  simp only [CohortDecisionService.decide, returns_bind, returns_raiseIf, returns_checked,
    returns_atomically, returns_replayed, ne_eq, not_not]
  exact ⟨(), s, ⟨hhuman, rfl⟩, (), s, ⟨hexplicit, rfl⟩, digest, s, ⟨hdigest, rfl⟩, some record, s,
    ⟨.inr ⟨receipt, record, rfl, hanswers⟩, rfl⟩, returns_pure.mpr ⟨rfl, rfl⟩⟩

/-- A call that raised has at most ensured the selector baseline, and under a used key
not even that. -/
theorem raises_decide {readings : DecisionReadings} {actor : Actor} {key : String}
    {request : CohortDecisionRequest} {e : CohortError}
    (h : Raises (P.decide readings actor key request) s e t) :
    t = s ∨ s.others.decisionReceipts.get? (actor.actorId, key) = none ∧
      ∃ baseline, Returns (ensureSelectorBaselineForDecision P.contextService actor request) s
        baseline t := by
  simp only [CohortDecisionService.decide, raises_bind, returns_raiseIf, returns_checked,
    returns_atomically, returns_replayed] at h
  rcases h with h | ⟨_, _, ⟨-, rfl⟩, h⟩
  · exact .inl (raises_raiseIf h)
  rcases h with h | ⟨_, _, ⟨-, rfl⟩, h⟩
  · exact .inl (raises_checked h)
  rcases h with h | ⟨digest, _, ⟨-, rfl⟩, h⟩
  · exact .inl (raises_checked h)
  rcases h with h | ⟨first, _, ⟨hfirst, rfl⟩, h⟩
  · exact .inl (raises_atomically h)
  rcases hfirst with ⟨rfl, hnone⟩ | ⟨receipt, found, rfl, -⟩
  · simp only [CohortDecisionService.unlessReplayed, raises_bind, returns_atomically,
      returns_inContext, returns_replayed] at h
    rcases h with h | ⟨baseline, u, hensure, h⟩
    · exact .inl (raises_atomically h)
    · have ht : t = u := by
        rcases h with h | ⟨second, _, ⟨-, rfl⟩, h⟩
        · exact raises_atomically h
        · cases second with
          | none => exact raises_atomically h
          | some found => exact absurd h not_raises_pure
      exact .inr ⟨hnone, baseline, ht ▸ hensure⟩
  · exact absurd h not_raises_pure

/-- Every call answers, or raises. -/
theorem performDecision_cases (readings : DecisionReadings) (actor : Actor) (key : String)
    (request : CohortDecisionRequest) (s : Store γ δ CohortRecords) :
    (∃ record t, Returns (P.decide readings actor key request) s record t ∧
        performDecision P readings actor key request s = (.ok record, t)) ∨
      ∃ e t, Raises (P.decide readings actor key request) s e t ∧
        performDecision P readings actor key request s = (.error e, t) := by
  unfold performDecision Returns Raises
  cases h : runFrom (P.decide readings actor key request) s with
  | mk r t =>
    cases r with
    | ok record => exact .inl ⟨record, t, rfl, rfl⟩
    | error e => exact .inr ⟨e, t, rfl, rfl⟩

/-! ## The records -/

/-- Decisions and receipts that are stored stay stored. -/
structure Grows (before after : CohortRecords) : Prop where
  decisions : ∀ key decision, before.decisions.get? key = some decision →
    after.decisions.get? key = some decision
  receipts : ∀ holder receipt, before.decisionReceipts.get? holder = some receipt →
    after.decisionReceipts.get? holder = some receipt

theorem Grows.refl (records : CohortRecords) : Grows records records :=
  ⟨fun _ _ h => h, fun _ _ h => h⟩

theorem Grows.trans {a b c : CohortRecords} (h : Grows a b) (k : Grows b c) : Grows a c :=
  ⟨fun key decision hd => k.decisions key decision (h.decisions key decision hd),
    fun holder receipt hr => k.receipts holder receipt (h.receipts holder receipt hr)⟩

theorem Answers.grows {before after : CohortRecords} {actor : Actor} {key : String}
    {request : CohortDecisionRequest} {record : CohortDecisionRecord}
    (h : Answers P before actor key request record) (hg : Grows before after) :
    Answers P after actor key request record := by
  obtain ⟨hhuman, hexplicit, digest, receipt, hdigest, hanswers⟩ := h
  exact ⟨hhuman, hexplicit, digest, receipt, hdigest, hg.receipts _ _ hanswers.held,
    hg.decisions _ _ hanswers.stored, hanswers.replays⟩

/-- The decision that a receipt names. -/
def namedDecision (receipt : CohortDecisionReceipt) : String × String :=
  (receipt.manifestId, receipt.decisionId)

/-- Decisions that exclude each other, each named by the receipt of one key. -/
structure Exclusive (P : CohortDecisionService γ δ) (records : CohortRecords) : Prop where
  valid : ∀ key decision, records.decisions.get? key = some decision →
    decision.Valid P.normalizedIdentifier
  apart : ∀ j k a b, records.decisions.get? j = some a → records.decisions.get? k = some b →
    j ≠ k → ¬ Conflict P.normalizedIdentifier a b
  resolves : ∀ holder receipt, records.decisionReceipts.get? holder = some receipt →
    (records.decisions.get? (namedDecision receipt)).isSome = true
  named : ∀ key decision, records.decisions.get? key = some decision →
    ∃ holder receipt, records.decisionReceipts.get? holder = some receipt ∧
      namedDecision receipt = key
  once : ∀ i j a b, records.decisionReceipts.get? i = some a →
    records.decisionReceipts.get? j = some b → namedDecision a = namedDecision b → i = j

theorem exclusive_empty : Exclusive P .empty := by
  constructor
  · intro key decision h
    cases h
  · intro j k a b h
    cases h
  · intro holder receipt h
    cases h
  · intro key decision h
    cases h
  · intro i j a b h
    cases h

section step

variable {before after : CohortRecords} {holder : String × String} {digest : String}
  {record : CohortDecisionRecord} {receipt : CohortDecisionReceipt}

/-- A recorded decision is new, and so is its receipt. -/
theorem Recorded.grows (h : Recorded P before after holder digest record receipt) :
    Grows before after := by
  constructor
  · intro key decision hd
    rw [h.decisions_eq, Dictionary.get?_set_of_ne]
    · exact hd
    · intro hkey
      rw [hkey, h.fresh] at hd
      cases hd
  · intro other stored hr
    rw [h.receipts_eq, Dictionary.get?_set_of_ne]
    · exact hr
    · intro hother
      rw [hother, h.unused] at hr
      cases hr

/-- A stored decision is the recorded one or was there before. -/
theorem Recorded.decision_cases (h : Recorded P before after holder digest record receipt)
    {key : String × String} {decision : CohortDecisionRecord}
    (hd : after.decisions.get? key = some decision) :
    (key = (record.manifestId, record.decisionId) ∧ decision = record) ∨
      before.decisions.get? key = some decision := by
  rw [h.decisions_eq, Dictionary.get?_set] at hd
  split at hd
  · rename_i hkey
    exact .inl ⟨hkey, (Option.some.inj hd).symm⟩
  · exact .inr hd

/-- A stored receipt is the recorded one or was there before. -/
theorem Recorded.receipt_cases (h : Recorded P before after holder digest record receipt)
    {other : String × String} {stored : CohortDecisionReceipt}
    (hr : after.decisionReceipts.get? other = some stored) :
    (other = holder ∧ stored = receipt) ∨
      before.decisionReceipts.get? other = some stored := by
  rw [h.receipts_eq, Dictionary.get?_set] at hr
  split at hr
  · rename_i hother
    exact .inl ⟨hother, (Option.some.inj hr).symm⟩
  · exact .inr hr

/-- The scan before a decision is recorded leaves no conflict with an earlier one. -/
theorem Recorded.free_of_conflict (h : Recorded P before after holder digest record receipt)
    (hs : Exclusive P before) {key : String × String} {decision : CohortDecisionRecord}
    (hd : before.decisions.get? key = some decision) :
    ¬ Conflict P.normalizedIdentifier record decision := by
  have hscan := overlappingDecisions_eq_nil.mp h.free key decision hd
  rw [overlaps_iff (hs.valid key decision hd).1] at hscan
  exact hscan

theorem Recorded.namedDecision_eq (h : Recorded P before after holder digest record receipt) :
    namedDecision receipt = (record.manifestId, record.decisionId) := by
  rw [namedDecision, h.manifestId_eq, h.decisionId_eq]

/-- Recording a decision keeps the decisions exclusive. -/
theorem Recorded.exclusive (h : Recorded P before after holder digest record receipt)
    (hs : Exclusive P before) : Exclusive P after := by
  constructor
  case valid =>
    intro key decision hd
    rcases h.decision_cases hd with ⟨_, rfl⟩ | hold
    · exact h.valid
    · exact hs.valid key decision hold
  case apart =>
    intro j k a b ha hb hne hconflict
    rcases h.decision_cases ha with ⟨hj, rfl⟩ | holdA
    · rcases h.decision_cases hb with ⟨hk, rfl⟩ | holdB
      · exact hne (hj.trans hk.symm)
      · exact h.free_of_conflict hs holdB hconflict
    · rcases h.decision_cases hb with ⟨hk, rfl⟩ | holdB
      · exact h.free_of_conflict hs holdA hconflict.symm
      · exact hs.apart j k a b holdA holdB hne hconflict
  case resolves =>
    intro other stored hr
    rcases h.receipt_cases hr with ⟨_, rfl⟩ | hold
    · rw [h.namedDecision_eq, h.decisions_eq, Dictionary.get?_set_self]
      rfl
    · have hsome := hs.resolves other stored hold
      obtain ⟨decision, hd⟩ := Option.isSome_iff_exists.mp hsome
      rw [h.grows.decisions _ _ hd]
      rfl
  case named =>
    intro key decision hd
    rcases h.decision_cases hd with ⟨hkey, rfl⟩ | hold
    · refine ⟨holder, receipt, ?_, h.namedDecision_eq.trans hkey.symm⟩
      rw [h.receipts_eq, Dictionary.get?_set_self]
    · obtain ⟨other, stored, hr, hname⟩ := hs.named key decision hold
      exact ⟨other, stored, h.grows.receipts _ _ hr, hname⟩
  case once =>
    -- an earlier receipt names an earlier decision, so not the new one
    have hnew : ∀ other stored, before.decisionReceipts.get? other = some stored →
        namedDecision stored ≠ namedDecision receipt := by
      intro other stored hr hname
      have hsome := hs.resolves other stored hr
      rw [hname, h.namedDecision_eq, h.fresh] at hsome
      cases hsome
    intro i j a b ha hb hname
    rcases h.receipt_cases ha with ⟨hi, rfl⟩ | holdA
    · rcases h.receipt_cases hb with ⟨hj, rfl⟩ | holdB
      · exact hi.trans hj.symm
      · exact absurd hname.symm (hnew j b holdB)
    · rcases h.receipt_cases hb with ⟨hj, rfl⟩ | holdB
      · exact absurd hname (hnew i a holdA)
      · exact hs.once i j a b holdA holdB hname

end step

/-! ## Runs -/

/-- What happens to the store: a decision, or a call to the context service. -/
inductive DecisionEvent (M : Type)
  | decide (readings : DecisionReadings) (actor : Actor) (idempotencyKey : String)
      (request : CohortDecisionRequest)
  | call (clock : ClockReadings) (c : Call M)

/-- The store after an event. -/
def storeAfterEvent (P : CohortDecisionService γ δ) (store : Store γ δ CohortRecords) :
    DecisionEvent (Manifest γ) → Store γ δ CohortRecords
  | .decide readings actor key request => (performDecision P readings actor key request store).2
  | .call clock c => (perform P.contextService clock c store).2

/-- The store after a list of events. -/
def runDecisions (P : CohortDecisionService γ δ) (store : Store γ δ CohortRecords)
    (events : List (DecisionEvent (Manifest γ))) : Store γ δ CohortRecords :=
  events.foldl (storeAfterEvent P) store

/-- The runs of both services over a store that starts empty. -/
def decisionSystem (P : CohortDecisionService γ δ) :
    TransitionSystem (Store γ δ CohortRecords) (DecisionEvent (Manifest γ)) where
  init store := store = .empty .empty
  step store event next := next = storeAfterEvent P store event

/-- An event records one decision at most, and leaves all others as they are. -/
theorem storeAfterEvent_others (event : DecisionEvent (Manifest γ)) :
    (storeAfterEvent P s event).others = s.others ∨
      ∃ holder digest record receipt,
        Recorded P s.others (storeAfterEvent P s event).others holder digest record receipt := by
  cases event with
  | call clock c => exact .inl (perform_others clock c)
  | decide readings actor key request =>
    rcases performDecision_cases (P := P) readings actor key request s with
      ⟨record, t, hr, ht⟩ | ⟨e, t, hr, ht⟩
    · have hp : storeAfterEvent P s (.decide readings actor key request) = t :=
        congrArg Prod.snd ht
      rw [hp]
      rcases (returns_decide hr).2 with rfl | ⟨digest, receipt, hrecorded⟩
      · exact .inl rfl
      · exact .inr ⟨_, digest, record, receipt, hrecorded⟩
    · have hp : storeAfterEvent P s (.decide readings actor key request) = t :=
        congrArg Prod.snd ht
      rw [hp]
      rcases raises_decide hr with rfl | ⟨_, baseline, hensure⟩
      · exact .inl rfl
      · obtain ⟨baselines, ht⟩ := returns_ensureSelectorBaseline hensure
        rw [ht]
        exact .inl rfl

theorem reachable_exclusive (h : (decisionSystem P).Reachable s) : Exclusive P s.others := by
  refine TransitionSystem.Reachable.invariant (P := fun s => Exclusive P s.others) ?_ ?_ h
  · intro s hinit
    rw [hinit]
    exact exclusive_empty
  · intro s event t _ hs hstep
    rw [hstep]
    rcases storeAfterEvent_others (P := P) (s := s) event with
      hsame | ⟨_, _, _, _, hrecorded⟩
    · rw [hsame]
      exact hs
    · exact hrecorded.exclusive hs

/-- Later events keep every stored decision and receipt. -/
theorem grows_runDecisions (events : List (DecisionEvent (Manifest γ))) :
    Grows s.others (runDecisions P s events).others := by
  induction events generalizing s with
  | nil => exact .refl _
  | cons event rest ih =>
    have hfirst : Grows s.others (storeAfterEvent P s event).others := by
      rcases storeAfterEvent_others (P := P) (s := s) event with
        hsame | ⟨_, _, _, _, hrecorded⟩
      · rw [hsame]
        exact .refl _
      · exact hrecorded.grows
    exact hfirst.trans ih

theorem reachable_runDecisions (events : List (DecisionEvent (Manifest γ)))
    (h : (decisionSystem P).Reachable s) : (decisionSystem P).Reachable (runDecisions P s events) := by
  induction events generalizing s with
  | nil => exact h
  | cons event rest ih => exact ih (.next h rfl)

/-! ## Runs of the context service -/

/-- A transaction of another service that returned is an event of the context service. -/
theorem reachable_otherTransaction {S : ContextService γ δ CohortRecords} {clock : ClockReadings}
    {x : OtherTransaction (Manifest γ) CohortRecords} {r : Unit}
    (h : (contextSystem S).Reachable s) (hx : Returns (otherTransaction S clock x) s r t) :
    (contextSystem S).Reachable t := by
  refine .next (a := .other clock x) h ?_
  exact (congrArg Prod.snd (transaction_ok_iff.mpr hx)).symm

/-- Ensuring the baseline of a decision is the capture of a selector baseline. -/
theorem reachable_ensureSelectorBaseline {S : ContextService γ δ CohortRecords} {actor : Actor}
    {request : CohortDecisionRequest} {baseline : DraftSelectorBaseline}
    (h : (contextSystem S).Reachable s)
    (hx : Returns (ensureSelectorBaselineForDecision S actor request) s baseline t) :
    (contextSystem S).Reachable t := by
  simp only [ensureSelectorBaselineForDecision, getDraftSelectorBaseline, returns_bind,
    returns_requireDraft, returns_checked, returns_reading] at hx
  obtain ⟨current, _, ⟨hstored, rfl⟩, _, _, ⟨-, rfl⟩, _, _, ⟨-, rfl⟩, _, _, ⟨-, rfl⟩, hx⟩ := hx
  have hcapture : Returns (otherTransaction S ⟨.ok 0, .ok 0⟩ (.selectorBaseline request.draftId))
      s () t := by
    simp only [otherTransaction, returns_bind, returns_requireDraft]
    exact ⟨current, s, ⟨hstored, rfl⟩, baseline, t, hx, returns_pure.mpr ⟨rfl, rfl⟩⟩
  exact reachable_otherTransaction h hcapture

/-- The writes of a decision are those of the cohort decision of the context service, and
then the receipt. -/
theorem reachable_recordDecision {readings : DecisionReadings} {actor : Actor} {key : String}
    {request : CohortDecisionRequest} {digest decisionId : String}
    {prepared : PreparedDecision γ} {record : CohortDecisionRecord}
    (h : (contextSystem P.contextService).Reachable s)
    (hx : Returns (P.recordDecision readings actor key request digest decisionId prepared) s
      record t) : (contextSystem P.contextService).Reachable t := by
  simp only [CohortDecisionService.recordDecision, returns_bind, returns_inContext,
    returns_reading, returns_raiseIf, returns_checked, returns_pure] at hx
  obtain ⟨_, u, haudit, audit, _, ⟨-, rfl⟩, _, _, ⟨-, rfl⟩, _, v, hput, _, w, happly, _, _,
    ⟨-, rfl⟩, _, x, hreceipt, -, rfl⟩ := hx
  obtain ⟨_, _, versions, hv⟩ := returns_putCohortDecision hput
  obtain ⟨_, hx⟩ := returns_putCohortDecisionReceipt hreceipt
  have hdecision : Returns (otherTransaction P.contextService readings.clock
      (.cohortDecision (decisionAuditEvent actor request decisionId prepared) v.others
        (prepared.apply.map fun apply =>
          ⟨actor, request.draftId, apply.1, decisionId, prepared.decidedAt⟩))) s () w := by
    simp only [otherTransaction, returns_bind, returns_writing]
    refine ⟨(), u, haudit, (), v, by rw [hv], ?_⟩
    unfold CohortDecisionService.applyDecision at happly
    split at happly
    · rename_i hnone
      obtain ⟨_, hw⟩ := returns_pure.mp happly
      rw [hnone, hw]
      exact returns_pure.mpr ⟨rfl, rfl⟩
    · rename_i command authorization hsome
      simp only [returns_bind, returns_inContext, returns_raiseIf] at happly
      obtain ⟨applied, _, hreplace, -, rfl⟩ := happly
      rw [hsome, Option.map_some, applyCohortDecision, returns_bind]
      exact ⟨applied, _, hreplace, returns_pure.mpr ⟨rfl, rfl⟩⟩
  have hrecords : Returns (otherTransaction P.contextService readings.clock (.records x.others))
      w () x := by
    refine returns_writing.mpr ?_
    rw [hx]
  exact reachable_otherTransaction (reachable_otherTransaction h hdecision) hrecords

/-- Every run of both services is a run of the context service among the transactions of
other services, so what holds of all its runs holds here. -/
theorem reachable_context (h : (decisionSystem P).Reachable s) :
    (contextSystem P.contextService).Reachable s := by
  induction h with
  | start hinit => exact .start ⟨.empty, hinit⟩
  | @next s t event _ hstep ih =>
    rw [hstep]
    cases event with
    | call clock c => exact .next (a := .call clock c) ih rfl
    | decide readings actor key request =>
      rcases performDecision_cases (P := P) readings actor key request s with
        ⟨record, u, hr, hu⟩ | ⟨e, u, hr, hu⟩
      · have hp : storeAfterEvent P s (.decide readings actor key request) = u :=
          congrArg Prod.snd hu
        rw [hp]
        rcases decide_transactions hr with ⟨_, rfl⟩ | ⟨_, _, v, _, _, _, _, hensure, hrecord⟩
        · exact ih
        · exact reachable_recordDecision (reachable_ensureSelectorBaseline ih hensure) hrecord
      · have hp : storeAfterEvent P s (.decide readings actor key request) = u :=
          congrArg Prod.snd hu
        rw [hp]
        rcases raises_decide hr with rfl | ⟨_, baseline, hensure⟩
        · exact ih
        · exact reachable_ensureSelectorBaseline ih hensure

/-! ## Exclusion -/

/-- In every reachable store no two decisions conflict, so what is rejected is never
applied; every decision is named by the receipt of exactly one key; a used key writes
nothing, and the repetition of a call that returned returns its record; a call that
raises leaves decisions, drafts and audit as they were. -/
theorem cohort_decisions_exclude_each_other (h : (decisionSystem P).Reachable s) :
    (∀ j k a b, s.others.decisions.get? j = some a → s.others.decisions.get? k = some b →
      j ≠ k → ¬ Conflict P.normalizedIdentifier a b) ∧
    (∀ j k rejected applied fingerprint member,
      s.others.decisions.get? j = some rejected → s.others.decisions.get? k = some applied →
      rejected.decision = .reject → applied.decision ≠ .reject →
      rejected.proposalSetVersion.authorityOverlapIdentity P.normalizedIdentifier =
        applied.proposalSetVersion.authorityOverlapIdentity P.normalizedIdentifier →
      rejected.Covers fingerprint member → ¬ applied.Covers fingerprint member) ∧
    (∀ key decision, s.others.decisions.get? key = some decision →
      ∃! holder, ∃ receipt, s.others.decisionReceipts.get? holder = some receipt ∧
        namedDecision receipt = key) ∧
    (∀ holder receipt, s.others.decisionReceipts.get? holder = some receipt →
      (s.others.decisions.get? (namedDecision receipt)).isSome = true) ∧
    ∀ readings actor key request,
      ((s.others.decisionReceipts.get? (actor.actorId, key)).isSome = true →
        (performDecision P readings actor key request s).2 = s) ∧
      (∀ record t, performDecision P readings actor key request s = (.ok record, t) →
        ∀ events again, performDecision P again actor key request (runDecisions P t events) =
          (.ok record, runDecisions P t events)) ∧
      ∀ e t, performDecision P readings actor key request s = (.error e, t) →
        t.others = s.others ∧ t.drafts = s.drafts ∧ t.audit = s.audit := by
  have hs := reachable_exclusive h
  refine ⟨hs.apart, ?_, ?_, hs.resolves, ?_⟩
  · intro j k rejected applied fingerprint member hj hk hreject happly hscope hcovers hcovered
    refine hs.apart j k rejected applied hj hk ?_
      (.inl ⟨hscope, fingerprint, member, hcovers, hcovered⟩)
    intro hjk
    rw [hjk, hk] at hj
    exact happly (Option.some.inj hj ▸ hreject)
  · intro key decision hd
    obtain ⟨holder, receipt, hr, hname⟩ := hs.named key decision hd
    refine ⟨holder, ⟨receipt, hr, hname⟩, ?_⟩
    rintro other ⟨stored, hstored, hother⟩
    exact hs.once other holder stored receipt hstored hr (hother.trans hname.symm)
  · intro readings actor key request
    refine ⟨?_, ?_, ?_⟩
    · intro hused
      rcases performDecision_cases (P := P) readings actor key request s with
        ⟨record, t, hr, ht⟩ | ⟨e, t, hr, ht⟩
      · rw [ht]
        rcases (returns_decide hr).2 with hsame | ⟨_, _, hrecorded⟩
        · exact hsame
        · rw [hrecorded.unused] at hused
          cases hused
      · rw [ht]
        rcases raises_decide hr with hsame | ⟨hnone, _⟩
        · exact hsame
        · rw [hnone] at hused
          cases hused
    · intro record t ht events again
      have hanswers := (returns_decide ht).1
      exact (hanswers.grows (grows_runDecisions events)).returns again
    · intro e t ht
      rcases raises_decide ht with rfl | ⟨_, baseline, hensure⟩
      · exact ⟨rfl, rfl, rfl⟩
      · obtain ⟨baselines, hbaselines⟩ := returns_ensureSelectorBaseline hensure
        rw [hbaselines]
        exact ⟨rfl, rfl, rfl⟩

/-! ## A rejected and an applied proposal -/

/-- A context service that grants every permission, over a store with cohort records; what a
decision authorizes expires at the instant 10. -/
def openContextService : ContextService ℕ ℕ CohortRecords :=
  { grantingService plainContract with
    requirePersistedCohortApply := fun _ _ _ _ _ _ _ => .ok 10 }

def ordersVersion : ManifestVersion := ⟨1, 0, 0⟩

/-- The replacement of the draft by the next content. -/
def nextOrders (current : Draft ℕ) (reason : String) : ReplaceDraftCommand (Manifest ℕ) :=
  let manifest := ordersManifest ordersVersion (current.manifest.content + 1) "editor" 0
  { expectedRevision := current.revision
    expectedManifestVersion := ordersVersion
    expectedDigest := current.manifestDigest
    replacementManifest := manifest
    replacementDigest := manifest.artifactDigest
    reason := reason }

/-- What authorizes a replacement by a decision. -/
def nextBinding (current : Draft ℕ) (request : CohortDecisionRequest)
    (candidate : CohortReviewCandidate) (actor : Actor) (decisionId candidateDigest : String)
    (decidedAt : Timestamp) (command : ReplaceDraftCommand (Manifest ℕ)) :
    CohortDecisionApplyBinding where
  decisionId := decisionId
  decision := request.action
  decidedAt := decidedAt
  actor := actor
  candidateId := candidate.candidateId
  candidateDigest := candidateDigest
  manifestId := request.manifestId
  manifestVersion := request.manifestVersion
  profileId := request.profileId
  resolvedProfileDigest := request.scope.resolvedProfileDigest
  sourceDraft := ⟨request.draftId, request.expectedRevision, request.expectedDigest⟩
  currentDraft := ⟨current.draftId, current.revision, current.manifestDigest⟩
  resultingDraft := ⟨current.draftId, current.revision + 1, command.replacementDigest⟩
  proposalIds := request.proposalIds
  proposalSetDigest := request.proposalSetDigest
  snapshotArtifactDigest := request.snapshotArtifactDigest
  targetRoleId := "web"
  inheritedRoleDigest := "inherited"
  replacementRoleDigest := "replacement"
  replacementSelectorProvenanceDigest := "no-selectors"
  retainedReplacementRoleDigests := []
  replacementManifestDigest := command.replacementDigest

/-- A decision service whose digests are plain texts. -/
def openDecisionService : CohortDecisionService ℕ ℕ where
  contextService := openContextService
  unicode := TextNormalization.latinTables
  normalizedIdentifier := id
  requireExplicit _ _ _ := .ok ()
  requestDigest _ request := .ok ("sha256:" ++ request.action.value ++ "-" ++ request.rationale)
  textDigest := id
  authorityDigest manifestId profileId roleId selectors :=
    "/".intercalate (manifestId :: profileId :: roleId :: selectors)
  stableSelectorPayload := id
  memberDigest := String.ofList
  mutationDigest binding _ := binding.decisionId
  recordDigest record := record.decisionId
  validateCandidate _ _ _ _ _ := .ok ()
  selectorOnlyReplacement current request candidate _ actor decisionId candidateDigest decidedAt
      reason :=
    .ok (nextOrders current reason, nextBinding current request candidate actor decisionId
      candidateDigest decidedAt (nextOrders current reason))

/-- The store that holds the first draft of `orders`. -/
def draftedOrders : Store ℕ ℕ CohortRecords :=
  runDecisions openDecisionService (.empty .empty) [.call ⟨.ok 0, .ok 0⟩ (.createDraft editor
    "orders-create"
    { draftId := "orders-1"
      manifest := ordersManifest ordersVersion 1 "editor" 0
      manifestDigest := (ordersManifest ordersVersion 1 "editor" 0).artifactDigest
      previousVersion := none
      rollbackSourceVersion := none
      reason := "release" })]

def ordersScope : ProposalScope where
  manifestId := "orders"
  manifestVersion := ordersVersion
  profileId := "production"
  profileType := "production"
  resolvedProfileDigest := "profile-digest"

/-- A decision on one proposal of the batch. -/
def decideSite (action : CohortDecisionKind) (proposalId rationale : String) :
    CohortDecisionRequest where
  action := action
  manifestId := "orders"
  manifestVersion := ordersVersion
  profileId := "production"
  draftId := "orders-1"
  expectedRevision := 1
  expectedDigest := (ordersManifest ordersVersion 1 "editor" 0).artifactDigest
  scope := ordersScope
  proposalSetDigest := "proposal-set"
  proposalIds := [proposalId]
  snapshotArtifactDigest := "snapshot"
  candidate := if action = .reject then none else some "candidate"
  rationale := rationale

/-- The rejection of the proposal that puts one site under the web role. -/
def rejectSite : CohortDecisionRequest :=
  decideSite .reject "proposal-0000000000000001" "not a web host"

/-- The approval of the other proposal of the batch. -/
def approveShop : CohortDecisionRequest :=
  decideSite .approve "proposal-0000000000000002" "a web host"

def siteProposal (proposalId site : String) : CohortProposal where
  proposalId := proposalId
  roleId := "web"
  selectors := ["tag"]
  members := ["/subscriptions/00000000-0000-0000-0000-000000000000/providers/Microsoft.Web" ++
    "/sites/" ++ site]

def siteReview : ResolvedCohortReview where
  scope := ordersScope
  sourceDraft := ⟨"orders-1", 1, (ordersManifest ordersVersion 1 "editor" 0).artifactDigest⟩
  inputDigest := "input"
  proposalSetDigest := "proposal-set"
  snapshotArtifactDigest := "snapshot"
  snapshotExpiresAt := 10
  proposals :=
    [siteProposal "proposal-0000000000000001" "orders", siteProposal "proposal-0000000000000002" "shop"]

def siteReadings : DecisionReadings where
  validationTime := .ok 1
  review := .ok siteReview
  candidate := .ok ⟨"candidate", "candidate-1", 10⟩
  decidedAt := .ok 2
  finalApplyAt := .ok 2

theorem draftedOrders_reachable : (decisionSystem openDecisionService).Reachable draftedOrders :=
  reachable_runDecisions _ (.start rfl)

theorem reachable_performDecision {readings : DecisionReadings} {actor : Actor} {key : String}
    {request : CohortDecisionRequest} (h : (decisionSystem P).Reachable s) :
    (decisionSystem P).Reachable (performDecision P readings actor key request s).2 :=
  .next (a := .decide readings actor key request) h rfl

/-- The store after the rejection is one of the context service. -/
theorem reachable_context_reject : (contextSystem openDecisionService.contextService).Reachable
    (performDecision openDecisionService siteReadings editor "reject-1" rejectSite draftedOrders).2 :=
  reachable_context (reachable_performDecision draftedOrders_reachable)

/-- The store after one proposal was rejected and the other applied. -/
def decidedOrders : Store ℕ ℕ CohortRecords :=
  runDecisions openDecisionService draftedOrders
    [.decide siteReadings editor "reject-1" rejectSite,
      .decide siteReadings editor "approve-2" approveShop]

/-- The approval of the rejected proposal, and the rejection of the applied one. -/
def approveSite : CohortDecisionRequest :=
  decideSite .approve "proposal-0000000000000001" "a web host after all"

def rejectShop : CohortDecisionRequest :=
  decideSite .reject "proposal-0000000000000002" "not a web host"

/-- A decision on the batch that is decided. -/
def decideAgain (key : String) (request : CohortDecisionRequest) :
    Except CohortError CohortDecisionRecord × Store ℕ ℕ CohortRecords :=
  performDecision openDecisionService siteReadings editor key request decidedOrders

theorem decidedOrders_reachable : (decisionSystem openDecisionService).Reachable decidedOrders :=
  reachable_runDecisions _ draftedOrders_reachable

/-- One proposal is rejected, and the other applied to the draft; neither is decided otherwise. -/
theorem decidedOrders_answers :
    (((decideAgain "reject-1" rejectSite).1.toOption.map fun record => record.decision) =
        some .reject ∧
      ((decideAgain "approve-2" approveShop).1.toOption.map fun record => record.decision) =
        some .approve ∧
      ((decidedOrders.drafts.get? "orders-1").map fun draft => draft.revision) = some 2) ∧
    (decideAgain "approve-1" approveSite).1 = .error ⟨.rejectedProposalSet,
      "a durable reject permanently blocks apply for an overlapping selected proposal"⟩ ∧
    (decideAgain "reject-2" rejectShop).1 = .error ⟨.cohortDecisionConflict,
      "an overlapping selected proposal already has an authoritative decision"⟩ := by
  decide +kernel

theorem decideAgain_raised {key : String} {request : CohortDecisionRequest} {e : CohortError}
    (h : (decideAgain key request).1 = .error e) :
    decideAgain key request = (.error e, (decideAgain key request).2) := by
  rw [← h, Prod.mk.eta]

/-- What was rejected is not applied and what was applied is not rejected: both calls raise and
leave decisions, drafts and audit as they were. The key of the applied decision answers with it
from then on. -/
theorem cohort_decisions_exclude_each_other_refused :
    (∃ e t, decideAgain "approve-1" approveSite = (.error ⟨.rejectedProposalSet, e⟩, t) ∧
      t.others = decidedOrders.others ∧ t.drafts = decidedOrders.drafts ∧
        t.audit = decidedOrders.audit) ∧
    (∃ e t, decideAgain "reject-2" rejectShop = (.error ⟨.cohortDecisionConflict, e⟩, t) ∧
      t.others = decidedOrders.others ∧ t.drafts = decidedOrders.drafts ∧
        t.audit = decidedOrders.audit) ∧
    ∃ record t, decideAgain "approve-2" approveShop = (.ok record, t) ∧
      record.decision = .approve ∧
      ∀ events again, performDecision openDecisionService again editor "approve-2" approveShop
          (runDecisions openDecisionService t events) =
        (.ok record, runDecisions openDecisionService t events) := by
  obtain ⟨_, _, _, _, hcalls⟩ := cohort_decisions_exclude_each_other decidedOrders_reachable
  obtain ⟨⟨-, happlied, -⟩, hsite, hshop⟩ := decidedOrders_answers
  have hsite := decideAgain_raised hsite
  have hshop := decideAgain_raised hshop
  refine ⟨⟨_, _, hsite, (hcalls _ _ _ _).2.2 _ _ hsite⟩,
    ⟨_, _, hshop, (hcalls _ _ _ _).2.2 _ _ hshop⟩, ?_⟩
  cases h : decideAgain "approve-2" approveShop with
  | mk answer t =>
    rw [h] at happlied
    cases answer with
    | error e => cases happlied
    | ok record =>
      exact ⟨record, t, rfl, Option.some.inj happlied, (hcalls _ _ _ _).2.1 record t h⟩

end AthenaContext.DecisionExclusivity
