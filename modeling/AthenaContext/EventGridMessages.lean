import AthenaContext.ChangeNormalization
import Mathlib

/-!
# Event Grid messages

One message of the queue over any number of deliveries. Each delivery normalizes the whole
batch at its own receipt before it persists record after record; it completes the message
when all records are persisted, and when the batch is rejected. Deliveries may overlap, the
store, the signer and the settlement may fail, and other messages use the same store.
-/

namespace AthenaContext.EventGridMessages

open ConditionalStores TransitionSystems
open CanonicalExceptions ChangePersistence ChangeNormalization

/-- `message.body`. -/
inductive MessageBody
  | bytes (data : List UInt8)
  | text (value : LoadedString)
  | sections (data : List (List UInt8))
  /-- Nothing that joins to bytes. -/
  | other

section Messages

variable (cfg : IngestionConfig)

/-- `_message_body`. -/
def messageBody : MessageBody → Except Raised (List UInt8)
  | .bytes data => .ok data
  | .text value => cfg.encode value
  | .sections data => .ok data.flatten
  | .other => .error (changeIngestionError "Service Bus message body is invalid")

/-- The records of a value: a list holds a batch, anything else is one record. -/
def batch : LoadedValue → List LoadedValue
  | .array items => items
  | value => [value]

/-- A record of a batch is an object. -/
def deliveryRecord (record : LoadedValue) : Except Raised LoadedValue :=
  (mapping record "Event Grid delivery record").map .object

/-- `_event_grid_records`. -/
def eventGridRecords (message : MessageBody) : Except Raised (List LoadedValue) := do
  let body ← messageBody cfg message
  if ¬ (1 ≤ body.length ∧ body.length ≤ maxChangeEventBytes) then
    .error (changeIngestionError "Event Grid message is outside its byte bound")
  else
    match cfg.loads body with
    | .error e =>
      .error (if e.cls = .decodeError then changeIngestionError "Event Grid message is not JSON" else e)
    | .ok value =>
      let records := batch value
      if ¬ (1 ≤ records.length ∧ records.length ≤ 16) then
        .error (changeIngestionError "Event Grid delivery batch is outside its bound")
      else records.mapM deliveryRecord

/-- `_message_digest`; only the log has its text. -/
def messageDigest (message : MessageBody) : Except Raised Unit :=
  match messageBody cfg message with
  | .ok _ => .ok ()
  | .error e => if e.cls = .changeIngestionError then .ok () else .error e

/-- The `try` of `_process_event_grid_message`. -/
def normalizeMessage (message : MessageBody) (receivedAt : UtcDateTime) :
    Except Raised (List NormalizedChangeEvidence) := do
  let records ← eventGridRecords cfg message
  records.mapM fun record => normalizeEventGridChange cfg record receivedAt

end Messages

/-! ## Deliveries -/

/-- Where a delivery stands. -/
inductive DeliveryPhase
  /-- So many of its records are persisted. -/
  | persisting (evidence : List NormalizedChangeEvidence) (persisted : ℕ)
  /-- The batch is rejected, and the message to be completed. -/
  | discarding (rejection : Raised)
  /-- An exception of the normalization has left the handler. -/
  | escaped (error : Raised)
  /-- An exception of the persistence or of the settlement has left the handler. -/
  | raised (error : String)
  /-- The worker stopped, or its signer raised. -/
  | stopped
  | settled
  deriving DecidableEq

/-- A message, when it is delivered, the signatures that its calls get, and the deliveries of
the calls for other messages. -/
structure QueuedMessage where
  body : MessageBody
  receivedAt : ℕ → UtcDateTime
  receivedAt_mono : Monotone receivedAt
  signature : ℕ → ℕ → String
  elsewhere : ℕ → ChangeDelivery

/-- The store with its calls, the deliveries so far, and the one that completed the message. -/
structure MessageState where
  persist : PersistState
  received : ℕ
  deliveries : ℕ → Option DeliveryPhase
  completedBy : Option ℕ

/-- What happens next. -/
inductive MessageAction
  | deliver
  | persist (delivery : ℕ) (fault : Cell.Fault)
  | stop (delivery : ℕ)
  | complete (delivery : ℕ) (fault : Cell.Fault)
  | elsewhere (action : PersistAction)

/-- The call of `persist_change_evidence` for a record of a delivery. -/
def recordCall (n k : ℕ) : ℕ := 2 * Nat.pair n k

section Machine

variable (cfg : IngestionConfig) (M : QueuedMessage)

/-- Normalization at a delivery. -/
def normalizedAt (n : ℕ) : Except Raised (List NormalizedChangeEvidence) :=
  normalizeMessage cfg M.body (M.receivedAt n)

/-- The delivery of a call: even ones are for the records of the message. -/
def callDelivery (i : ℕ) : ChangeDelivery :=
  let (n, k) := Nat.unpair (i / 2)
  match i % 2, (normalizedAt cfg M n).toOption.bind (·[k]?) with
  | 0, some e => ⟨e, cfg.signingKeyId, M.signature n k⟩
  | _, _ => M.elsewhere (i / 2)

/-- `_process_event_grid_message` up to its first request. -/
def startDelivery (n : ℕ) : DeliveryPhase :=
  match normalizedAt cfg M n with
  | .ok evidence => .persisting evidence 0
  | .error e =>
    if e.IsRejection then
      -- the log of the rejection reads the body again
      match messageDigest cfg M.body with
      | .ok () => .discarding e
      | .error e' => .escaped e'
    else .escaped e

/-- The loop over the records, behind a request of the call for the current one. -/
def afterRequest (evidence : List NormalizedChangeEvidence) (persisted : ℕ) : Call → DeliveryPhase
  | .returned _ => .persisting evidence (persisted + 1)
  | .raised error => .raised error
  | _ => .persisting evidence persisted

/-- `receiver.complete_message` is due. -/
def DeliveryPhase.IsDue : DeliveryPhase → Prop
  | .persisting evidence persisted => persisted = evidence.length
  | .discarding _ => True
  | _ => False

instance : (phase : DeliveryPhase) → Decidable phase.IsDue
  | .persisting evidence persisted => inferInstanceAs (Decidable (persisted = evidence.length))
  | .discarding _ => inferInstanceAs (Decidable True)
  | .escaped _ => inferInstanceAs (Decidable False)
  | .raised _ => inferInstanceAs (Decidable False)
  | .stopped => inferInstanceAs (Decidable False)
  | .settled => inferInstanceAs (Decidable False)

/-- The handler has not been left yet. -/
def DeliveryPhase.isActive : DeliveryPhase → Bool
  | .persisting _ _ => true
  | .discarding _ => true
  | _ => false

def MessageState.setPhase (s : MessageState) (n : ℕ) (phase : DeliveryPhase) : MessageState :=
  { s with deliveries := Function.update s.deliveries n (some phase) }

/-- The settlement of a delivery; the lock of a completed message is lost. -/
def settle (s : MessageState) (n : ℕ) (fault : Cell.Fault) : MessageState :=
  if s.completedBy.isSome then s.setPhase n (.raised "message lock lost")
  else
    { s.setPhase n (if fault = .answered then .settled else .raised "settlement failed") with
      completedBy := if fault.applies then some n else none }

/-- One step. -/
def step (s : MessageState) : MessageAction → Option MessageState
  | .deliver =>
    if s.completedBy.isSome then none
    else some { s.setPhase s.received (startDelivery cfg M s.received) with received := s.received + 1 }
  | .persist n fault =>
    match s.deliveries n with
    | some (.persisting evidence k) =>
      if k < evidence.length then
        (ChangePersistence.step cfg.persistence (callDelivery cfg M) s.persist
          (.advance (recordCall n k) fault)).map fun p =>
            { s.setPhase n (afterRequest evidence k (p.calls (recordCall n k))) with persist := p }
      else none
    | _ => none
  | .stop n =>
    match s.deliveries n with
    | some phase => if phase.isActive then some (s.setPhase n .stopped) else none
    | none => none
  | .complete n fault =>
    match s.deliveries n with
    | some phase => if phase.IsDue then some (settle s n fault) else none
    | none => none
  | .elsewhere action =>
    if action.call % 2 = 1 then
      (ChangePersistence.step cfg.persistence (callDelivery cfg M) s.persist action).map fun p =>
        { s with persist := p }
    else none

/-- An empty store, and nothing delivered. -/
def initial : MessageState := ⟨ChangePersistence.initial, 0, fun _ => none, none⟩

/-- The deliveries of a message. -/
def system : TransitionSystem MessageState MessageAction := ofStep initial (step cfg M)

/-! ## What is to hold -/

/-- The artifact and the handoff of a record are durable. -/
def RecordDurable (s : PersistState) (e : NormalizedChangeEvidence) : Prop :=
  ∃ a reference, Stored cfg.persistence s e.deduplicationKey a reference ∧
    sourceRecordEvidenceBytes cfg.persistence a.evidence =
      sourceRecordEvidenceBytes cfg.persistence e ∧
    Durable cfg.persistence s e.deduplicationKey
      (persistenceHandoff a.evidence.toSourceRecordEvidence reference)

/-- All records are durable. -/
def AllDurable (s : PersistState) (evidence : List NormalizedChangeEvidence) : Prop :=
  ∀ e ∈ evidence, RecordDurable cfg s e

/-- The first delivery accepted records that are durable, or it was definitively rejected. -/
def DurableOrRejected (s : MessageState) : Prop :=
  (∃ evidence, normalizedAt cfg M 0 = .ok evidence ∧ AllDurable cfg s.persist evidence) ∨
    ∃ e, normalizedAt cfg M 0 = .error e ∧ e.IsRejection

/-- No accepted change is lost, and no exception of the normalization leaves the handler. An exception
of the persistence (`raised`) leaves the message unsettled, also where two records of one event
identifier differ. -/
structure NoChangeLost (s : MessageState) : Prop where
  accepted : ∀ evidence, normalizedAt cfg M 0 = .ok evidence → s.completedBy ≠ none →
    AllDurable cfg s.persist evidence
  rejected : s.completedBy ≠ none → DurableOrRejected cfg M s
  contained : ∀ body value, messageBody cfg M.body = .ok body → cfg.loads body = .ok value →
    ∀ n e, s.deliveries n ≠ some (.escaped e)

/-- The first record that a receipt does not accept does not escape canonicalization. -/
def Contained (receivedAt : UtcDateTime) : Prop :=
  ∀ records earlier record later, eventGridRecords cfg M.body = .ok records →
    records = earlier ++ record :: later →
    (∀ r ∈ earlier, ∃ e, normalizeEventGridChange cfg r receivedAt = .ok e) →
    ¬ Escapes cfg.json record

/-- Where the first delivery accepted the batch, none of its records is stale, or all of them
are durable already. -/
def Timely (s : MessageState) (receivedAt : UtcDateTime) : Prop :=
  ∀ evidence records, normalizedAt cfg M 0 = .ok evidence → eventGridRecords cfg M.body = .ok records →
    (∀ record ∈ records, ¬ IsStale cfg record receivedAt) ∨ AllDurable cfg s.persist evidence

/-- The condition on the steps. -/
def Condition (s : MessageState) : MessageAction → Prop
  | .deliver => Contained cfg M (M.receivedAt s.received) ∧ Timely cfg M s (M.receivedAt s.received)
  | _ => True

end Machine

end AthenaContext.EventGridMessages
