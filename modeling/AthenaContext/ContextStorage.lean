import AthenaContext.ContextRecords
import AthenaContext.Dictionaries
import AthenaContext.OrdinalCollections
import AthenaContext.Transactions

/-!
# The in-memory context store

The dictionaries of the store and the operations of one transaction on them. A
transaction runs on copies, which replace the dictionaries when it returns; the
lock of the store lets one transaction run at a time. The audit history is a hash
chain: each event carries its place, its identifier, and the digest of the event
before it.
-/

namespace AthenaContext.ContextStorage

open ContextRecords Dictionaries OrdinalCollections Transactions

/-! ## Errors -/

/-- The error classes of the context API, and `validation` for a record that its own
contract refuses. -/
inductive ErrorCode
  | authorizationDenied
  | resourceNotFound
  | duplicateDraft
  | duplicateVersion
  | invalidTransition
  | staleRevision
  | versionMismatch
  | digestMismatch
  | manifestValidationFailed
  | staleApproval
  | idempotencyConflict
  | ambiguousLookup
  | alreadySuperseded
  | persistenceConflict
  | auditIntegrityFailed
  | staleEvidenceSnapshot
  | operationalContextReceiptInvalid
  | validation
  deriving DecidableEq, Repr

structure ContextError where
  code : ErrorCode
  message : String
  deriving DecidableEq, Repr

/-! ## The audit chain -/

/-- `audit_event_digest`: the digest of an event at its place in the history. It raises
when the event has no canonical JSON text. -/
abbrev AuditEventDigest :=
  PendingAuditEvent → ℕ → String → Option String → Except ContextError String

/-- `f"audit-{sequence:08d}"`. -/
def auditEventId (sequence : ℕ) : String :=
  let digits := Nat.toDigits 10 sequence
  "audit-" ++ String.ofList (List.replicate (8 - digits.length) '0' ++ digits)

/-- The walk of `verify_audit_chain` from a sequence number and the digest before it. -/
def verifyAuditChainFrom (auditEventDigest : AuditEventDigest) (sequence : ℕ)
    (previousEventDigest : Option String) : List AuditEvent → Except ContextError Unit
  | [] => .ok ()
  | event :: rest =>
    if event.sequence ≠ sequence ∨ event.eventId ≠ auditEventId sequence ∨
        event.previousEventDigest ≠ previousEventDigest then
      .error ⟨.auditIntegrityFailed, "audit history ordering or linkage is invalid"⟩
    else
      match auditEventDigest event.toPendingAuditEvent sequence (auditEventId sequence)
          previousEventDigest with
      | .error e => .error e
      | .ok expectedDigest =>
        if event.eventDigest ≠ expectedDigest then
          .error ⟨.auditIntegrityFailed, "audit history integrity digest is invalid"⟩
        else verifyAuditChainFrom auditEventDigest (sequence + 1) (some event.eventDigest) rest

/-- `verify_audit_chain`. -/
def verifyAuditChain (auditEventDigest : AuditEventDigest) (events : List AuditEvent) :
    Except ContextError Unit :=
  verifyAuditChainFrom auditEventDigest 1 none events

/-- The stored event: a pending event linked to the end of the history. -/
def linkedEvent (event : PendingAuditEvent) (audit : List AuditEvent) (eventDigest : String) :
    AuditEvent where
  toPendingAuditEvent := event
  sequence := audit.length + 1
  eventId := auditEventId (audit.length + 1)
  previousEventDigest := audit.getLast?.map (·.eventDigest)
  eventDigest := eventDigest

section Chain

variable {auditEventDigest : AuditEventDigest} {events : List AuditEvent} {event : AuditEvent}
  {sequence : ℕ} {previous : Option String}

/-- What the walk checks of its first event. -/
theorem verifyAuditChainFrom_cons :
    verifyAuditChainFrom auditEventDigest sequence previous (event :: events) = .ok () ↔
      (event.sequence = sequence ∧ event.eventId = auditEventId sequence ∧
        event.previousEventDigest = previous ∧
        auditEventDigest event.toPendingAuditEvent sequence (auditEventId sequence) previous =
          .ok event.eventDigest) ∧
      verifyAuditChainFrom auditEventDigest (sequence + 1) (some event.eventDigest) events =
        .ok () := by
  rw [verifyAuditChainFrom]
  split
  · rename_i h
    simp only [reduceCtorEq, false_iff, not_and]
    rintro ⟨hs, hi, hp, -⟩
    simp [hs, hi, hp] at h
  · rename_i h
    simp only [not_or, not_not] at h
    cases hd : auditEventDigest event.toPendingAuditEvent sequence (auditEventId sequence)
        previous with
    | error e => simp
    | ok expected =>
      by_cases he : event.eventDigest = expected
      · simp [h, he]
      · simp [he, Ne.symm he]

/-- An event that is linked to the end of an intact history keeps it intact. -/
theorem verifyAuditChainFrom_append
    (h : verifyAuditChainFrom auditEventDigest sequence previous events = .ok ())
    (hs : event.sequence = sequence + events.length)
    (hi : event.eventId = auditEventId (sequence + events.length))
    (hp : event.previousEventDigest = (events.getLast?.map (·.eventDigest)).or previous)
    (hd : auditEventDigest event.toPendingAuditEvent event.sequence event.eventId
      event.previousEventDigest = .ok event.eventDigest) :
    verifyAuditChainFrom auditEventDigest sequence previous (events ++ [event]) = .ok () := by
  induction events generalizing sequence previous with
  | nil =>
    have hs : event.sequence = sequence := by simpa using hs
    have hi : event.eventId = auditEventId sequence := by simpa using hi
    have hp : event.previousEventDigest = previous := by simpa using hp
    rw [hs, hi, hp] at hd
    exact verifyAuditChainFrom_cons.mpr ⟨⟨hs, hi, hp, hd⟩, rfl⟩
  | cons first rest ih =>
    obtain ⟨hfirst, hrest⟩ := verifyAuditChainFrom_cons.mp h
    have hlen : sequence + (first :: rest).length = sequence + 1 + rest.length := by
      simp only [List.length_cons]
      omega
    rw [hlen] at hs hi
    have hlast : event.previousEventDigest =
        (rest.getLast?.map (·.eventDigest)).or (some first.eventDigest) := by
      rw [hp]
      cases rest with
      | nil => simp
      | cons second others =>
        rw [List.getLast?_cons_cons]
        cases hl : (second :: others).getLast? with
        | none => simp at hl
        | some last => simp
    exact verifyAuditChainFrom_cons.mpr ⟨hfirst, ih hrest hs hi hlast⟩

/-- `append_audit` keeps the chain. -/
theorem verifyAuditChain_linkedEvent {pending : PendingAuditEvent} {eventDigest : String}
    (h : verifyAuditChain auditEventDigest events = .ok ())
    (hd : auditEventDigest pending (events.length + 1) (auditEventId (events.length + 1))
      (events.getLast?.map (·.eventDigest)) = .ok eventDigest) :
    verifyAuditChain auditEventDigest (events ++ [linkedEvent pending events eventDigest]) =
      .ok () := by
  refine verifyAuditChainFrom_append h ?_ ?_ ?_ hd
  · exact Nat.add_comm _ _
  · exact congrArg auditEventId (Nat.add_comm _ _)
  · simp [linkedEvent]

end Chain

/-! ## The store -/

/-- The dictionaries of the store: manifests of type `M`, dumps of type `D`, and the
records of the other services, of type `R`. -/
structure ContextStore (M D R : Type) where
  drafts : Dictionary String (DraftRecord M)
  draftSelectorBaselines : Dictionary String DraftSelectorBaseline
  published : Dictionary (String × ManifestVersion) (PublishedManifest M)
  supersessions : Dictionary (String × ManifestVersion) Supersession
  audit : List AuditEvent
  receipts : Dictionary (String × String) (MutationReceipt D)
  operationalContextReceipts : Dictionary String OperationalContextReceipt
  others : R

variable {M D R : Type}

/-- The store that was just opened. -/
def ContextStore.empty (others : R) : ContextStore M D R where
  drafts := .empty
  draftSelectorBaselines := .empty
  published := .empty
  supersessions := .empty
  audit := []
  receipts := .empty
  operationalContextReceipts := .empty
  others := others

/-- `list_published(manifest_id=…)`, in the order of the version keys. -/
def ContextStore.listPublished (store : ContextStore M D R) (manifestId : String) :
    List (PublishedManifest M) :=
  sortOn (fun published => published.manifestVersion.versionKey)
    (store.published.values.filter fun published => published.manifestId = manifestId)

abbrev ContextTransaction (M D R : Type) := Transaction (ContextStore M D R) ContextError

/-! ## Operations of a transaction -/

def getDraft (draftId : String) : ContextTransaction M D R (Option (DraftRecord M)) :=
  reading fun store => store.drafts.get? draftId

/-- Whether `put_draft` may write over the present record. -/
def putDraftCheck (draftId : String) (current : Option (DraftRecord M))
    (expectedRevision : Option ℕ) : Except ContextError Unit :=
  match expectedRevision, current with
  | none, some _ => .error ⟨.duplicateDraft, "draft '" ++ draftId ++ "' already exists"⟩
  | none, none => .ok ()
  | some _, none => .error ⟨.resourceNotFound, "draft '" ++ draftId ++ "' was not found"⟩
  | some expected, some draft =>
    if draft.revision ≠ expected then
      .error ⟨.staleRevision, "expected draft revision " ++ toString expected ++ ", found " ++
        toString draft.revision⟩
    else .ok ()

def putDraft (draft : DraftRecord M) (expectedRevision : Option ℕ) :
    ContextTransaction M D R Unit := do
  let current ← getDraft draft.draftId
  checked (putDraftCheck draft.draftId current expectedRevision)
  writing fun store => { store with drafts := store.drafts.set draft.draftId draft }

def getDraftSelectorBaseline (draftId : String) :
    ContextTransaction M D R (Option DraftSelectorBaseline) :=
  reading fun store => store.draftSelectorBaselines.get? draftId

def putDraftSelectorBaseline (baseline : DraftSelectorBaseline) :
    ContextTransaction M D R Unit := do
  let existing ← getDraftSelectorBaseline baseline.draftId
  raiseIf (existing.isSome = true)
    ⟨.persistenceConflict, "draft selector baseline is immutable"⟩
  writing fun store => { store with
    draftSelectorBaselines := store.draftSelectorBaselines.set baseline.draftId baseline }

def getPublished (manifestId : String) (manifestVersion : ManifestVersion) :
    ContextTransaction M D R (Option (PublishedManifest M)) :=
  reading fun store => store.published.get? (manifestId, manifestVersion)

def putPublished (published : PublishedManifest M) : ContextTransaction M D R Unit := do
  let existing ← getPublished published.manifestId published.manifestVersion
  raiseIf (existing.isSome = true) ⟨.duplicateVersion, "manifest version " ++
    published.manifestId ++ "/" ++ published.manifestVersion.text ++ " exists"⟩
  writing fun store => { store with
    published := store.published.set (published.manifestId, published.manifestVersion) published }

def getSupersession (manifestId : String) (manifestVersion : ManifestVersion) :
    ContextTransaction M D R (Option Supersession) :=
  reading fun store => store.supersessions.get? (manifestId, manifestVersion)

def putSupersession (supersession : Supersession) : ContextTransaction M D R Unit := do
  let existing ← getSupersession supersession.manifestId supersession.supersededVersion
  raiseIf (existing.isSome = true) ⟨.alreadySuperseded, "manifest version " ++
    supersession.supersededVersion.text ++ " is already superseded"⟩
  writing fun store => { store with
    supersessions := store.supersessions.set
      (supersession.manifestId, supersession.supersededVersion) supersession }

/-- `append_audit`; an event identifier has eight digits. -/
def appendAudit (auditEventDigest : AuditEventDigest) (event : PendingAuditEvent) :
    ContextTransaction M D R Unit := do
  let audit ← reading fun store => store.audit
  checked (verifyAuditChain auditEventDigest audit)
  let eventDigest ← checked (auditEventDigest event (audit.length + 1)
    (auditEventId (audit.length + 1)) (audit.getLast?.map (·.eventDigest)))
  raiseIf (100000000 ≤ audit.length + 1)
    ⟨.validation, "String should match pattern '^audit-[0-9]\x7b8\x7d$'"⟩
  writing fun store => { store with audit := audit ++ [linkedEvent event audit eventDigest] }

def getReceipt (actorId idempotencyKey : String) :
    ContextTransaction M D R (Option (MutationReceipt D)) :=
  reading fun store => store.receipts.get? (actorId, idempotencyKey)

def putReceipt (receipt : MutationReceipt D) : ContextTransaction M D R Unit := do
  let existing ← getReceipt receipt.actorId receipt.idempotencyKey
  raiseIf (existing.isSome = true)
    ⟨.idempotencyConflict, "idempotency key has already been recorded"⟩
  writing fun store => { store with
    receipts := store.receipts.set (receipt.actorId, receipt.idempotencyKey) receipt }

def getOperationalContextReceipt (receiptId : String) :
    ContextTransaction M D R (Option OperationalContextReceipt) :=
  reading fun store => store.operationalContextReceipts.get? receiptId

def putOperationalContextReceipt (receipt : OperationalContextReceipt) :
    ContextTransaction M D R Unit := do
  let existing ← getOperationalContextReceipt receipt.receiptId
  raiseIf (existing.isSome = true)
    ⟨.persistenceConflict, "operational context receipt identifier already exists"⟩
  writing fun store => { store with
    operationalContextReceipts := store.operationalContextReceipts.set receipt.receiptId receipt }

/-! ## What the operations did -/

section Returns

variable {s t : ContextStore M D R} {auditEventDigest : AuditEventDigest}

theorem returns_getDraft {draftId : String} {found : Option (DraftRecord M)} :
    Returns (getDraft draftId) s found t ↔ s.drafts.get? draftId = found ∧ s = t :=
  returns_reading

theorem returns_getPublished {manifestId : String} {manifestVersion : ManifestVersion}
    {found : Option (PublishedManifest M)} :
    Returns (getPublished manifestId manifestVersion) s found t ↔
      s.published.get? (manifestId, manifestVersion) = found ∧ s = t :=
  returns_reading

theorem returns_getSupersession {manifestId : String} {manifestVersion : ManifestVersion}
    {found : Option Supersession} :
    Returns (getSupersession manifestId manifestVersion) s found t ↔
      s.supersessions.get? (manifestId, manifestVersion) = found ∧ s = t :=
  returns_reading

theorem returns_getReceipt {actorId idempotencyKey : String}
    {found : Option (MutationReceipt D)} :
    Returns (getReceipt actorId idempotencyKey) s found t ↔
      s.receipts.get? (actorId, idempotencyKey) = found ∧ s = t :=
  returns_reading

theorem returns_getOperationalContextReceipt {receiptId : String}
    {found : Option OperationalContextReceipt} :
    Returns (getOperationalContextReceipt receiptId) s found t ↔
      s.operationalContextReceipts.get? receiptId = found ∧ s = t :=
  returns_reading

/-- A new draft is written where none was. -/
theorem returns_putDraft_new {draft : DraftRecord M} {r : Unit} :
    Returns (putDraft draft none) s r t ↔
      s.drafts.get? draft.draftId = none ∧
        { s with drafts := s.drafts.set draft.draftId draft } = t := by
  simp only [putDraft, returns_bind, returns_getDraft, returns_checked, returns_writing]
  constructor
  · rintro ⟨found, u, ⟨hf, rfl⟩, _, v, ⟨hc, rfl⟩, ht⟩
    refine ⟨?_, ht⟩
    cases found with
    | none => exact hf
    | some current => simp [putDraftCheck] at hc
  · rintro ⟨hf, ht⟩
    exact ⟨none, s, ⟨hf, rfl⟩, (), s, ⟨by simp [putDraftCheck], rfl⟩, ht⟩

/-- A draft is replaced at the revision it was read at. -/
theorem returns_putDraft {draft : DraftRecord M} {expected : ℕ} {r : Unit} :
    Returns (putDraft draft (some expected)) s r t ↔
      (∃ current, s.drafts.get? draft.draftId = some current ∧ current.revision = expected) ∧
        { s with drafts := s.drafts.set draft.draftId draft } = t := by
  simp only [putDraft, returns_bind, returns_getDraft, returns_checked, returns_writing]
  constructor
  · rintro ⟨found, u, ⟨hf, rfl⟩, _, v, ⟨hc, rfl⟩, ht⟩
    refine ⟨?_, ht⟩
    cases found with
    | none => simp [putDraftCheck] at hc
    | some current =>
      by_cases he : current.revision = expected
      · exact ⟨current, hf, he⟩
      · simp [putDraftCheck, he] at hc
  · rintro ⟨⟨current, hf, he⟩, ht⟩
    exact ⟨some current, s, ⟨hf, rfl⟩, (), s, ⟨by simp [putDraftCheck, he], rfl⟩, ht⟩

theorem returns_putDraftSelectorBaseline {baseline : DraftSelectorBaseline} {r : Unit} :
    Returns (putDraftSelectorBaseline baseline) s r t ↔
      s.draftSelectorBaselines.get? baseline.draftId = none ∧
        { s with draftSelectorBaselines :=
            s.draftSelectorBaselines.set baseline.draftId baseline } = t := by
  simp [putDraftSelectorBaseline, getDraftSelectorBaseline, returns_bind, returns_reading,
    returns_raiseIf, returns_writing]

theorem returns_putPublished {published : PublishedManifest M} {r : Unit} :
    Returns (putPublished published) s r t ↔
      s.published.get? (published.manifestId, published.manifestVersion) = none ∧
        { s with
          published := s.published.set
            (published.manifestId, published.manifestVersion) published } = t := by
  simp [putPublished, returns_bind, returns_getPublished, returns_raiseIf, returns_writing]

theorem returns_putSupersession {relation : Supersession} {r : Unit} :
    Returns (putSupersession relation) s r t ↔
      s.supersessions.get? (relation.manifestId, relation.supersededVersion) = none ∧
        { s with
          supersessions := s.supersessions.set
            (relation.manifestId, relation.supersededVersion) relation } = t := by
  simp [putSupersession, returns_bind, returns_getSupersession, returns_raiseIf, returns_writing]

theorem returns_putReceipt {receipt : MutationReceipt D} {r : Unit} :
    Returns (putReceipt receipt) s r t ↔
      s.receipts.get? (receipt.actorId, receipt.idempotencyKey) = none ∧
        { s with
          receipts := s.receipts.set
            (receipt.actorId, receipt.idempotencyKey) receipt } = t := by
  simp [putReceipt, returns_bind, returns_getReceipt, returns_raiseIf, returns_writing]

theorem returns_putOperationalContextReceipt {receipt : OperationalContextReceipt} {r : Unit} :
    Returns (putOperationalContextReceipt receipt) s r t ↔
      s.operationalContextReceipts.get? receipt.receiptId = none ∧
        { s with operationalContextReceipts :=
            s.operationalContextReceipts.set receipt.receiptId receipt } = t := by
  simp [putOperationalContextReceipt, returns_bind, returns_getOperationalContextReceipt,
    returns_raiseIf, returns_writing]

/-- An appended event is linked to the end of an intact history. -/
theorem returns_appendAudit {event : PendingAuditEvent} {r : Unit}
    (h : Returns (appendAudit auditEventDigest event) s r t) :
    ∃ eventDigest,
      verifyAuditChain auditEventDigest s.audit = .ok () ∧
      verifyAuditChain auditEventDigest
        (s.audit ++ [linkedEvent event s.audit eventDigest]) = .ok () ∧
      t = { s with audit := s.audit ++ [linkedEvent event s.audit eventDigest] } := by
  simp only [appendAudit, returns_bind, returns_reading, returns_checked, returns_raiseIf,
    returns_writing] at h
  obtain ⟨audit, _, ⟨rfl, rfl⟩, _, _, ⟨hv, rfl⟩, eventDigest, _, ⟨hd, rfl⟩, _, _, ⟨-, rfl⟩, rfl⟩ := h
  exact ⟨eventDigest, hv, verifyAuditChain_linkedEvent hv hd, rfl⟩

end Returns

end AthenaContext.ContextStorage
