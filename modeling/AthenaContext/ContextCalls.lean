import AthenaContext.ContextTransitions
import AthenaContext.TransitionSystems

/-!
# Calls to the context service

Every mutation is called by an actor under an idempotency key. A call first asks for
authorization; then one transaction looks for a receipt of the actor and key: a receipt
of the same request answers the call again, a receipt of another request refuses it, and
without a receipt the mutation runs and its response is recorded. The other services
that share the store append audit events, record receipts of their own operations, and
apply cohort decisions through the replacement of the context service.
-/

namespace AthenaContext.ContextCalls

open ContextRecords ContextStorage ContextMutations ContextTransitions
open Transactions TransitionSystems

variable {γ δ R : Type}

/-- A call of a mutation. -/
inductive Call (M : Type)
  | createDraft (actor : Actor) (idempotencyKey : String) (command : CreateDraftCommand M)
  | replaceDraft (actor : Actor) (draftId idempotencyKey : String)
      (command : ReplaceDraftCommand M)
  | validateDraft (actor : Actor) (draftId idempotencyKey : String)
      (command : TransitionCommand)
  | submitForReview (actor : Actor) (draftId idempotencyKey : String)
      (command : TransitionCommand)
  | reviewDraft (actor : Actor) (draftId idempotencyKey : String) (command : ReviewCommand)
  | approveDraft (actor : Actor) (draftId idempotencyKey : String) (command : ApproveCommand)
  | publishDraft (actor : Actor) (draftId idempotencyKey : String) (command : PublishCommand)
  | supersedeVersion (actor : Actor) (manifestId : String) (supersededVersion : ManifestVersion)
      (idempotencyKey : String) (command : SupersedeCommand)
  | issueOperationalContextReceipt (actor : Actor) (idempotencyKey : String)
      (command : IssueOperationalContextReceiptCommand)
  deriving DecidableEq, Repr

namespace Call

variable {M : Type}

def actor : Call M → Actor
  | createDraft actor _ _ => actor
  | replaceDraft actor _ _ _ => actor
  | validateDraft actor _ _ _ => actor
  | submitForReview actor _ _ _ => actor
  | reviewDraft actor _ _ _ => actor
  | approveDraft actor _ _ _ => actor
  | publishDraft actor _ _ _ => actor
  | supersedeVersion actor _ _ _ _ => actor
  | issueOperationalContextReceipt actor _ _ => actor

def idempotencyKey : Call M → String
  | createDraft _ key _ => key
  | replaceDraft _ _ key _ => key
  | validateDraft _ _ key _ => key
  | submitForReview _ _ key _ => key
  | reviewDraft _ _ key _ => key
  | approveDraft _ _ key _ => key
  | publishDraft _ _ key _ => key
  | supersedeVersion _ _ _ key _ => key
  | issueOperationalContextReceipt _ key _ => key

def operation : Call M → String
  | createDraft _ _ _ => "create_draft"
  | replaceDraft _ _ _ _ => "replace_draft"
  | validateDraft _ _ _ _ => "validate_draft"
  | submitForReview _ _ _ _ => "submit_for_review"
  | reviewDraft _ _ _ _ => "review_draft"
  | approveDraft _ _ _ _ => "approve_draft"
  | publishDraft _ _ _ _ => "publish_draft"
  | supersedeVersion _ _ _ _ _ => "supersede_version"
  | issueOperationalContextReceipt _ _ _ => "issue_operational_context_receipt"

def target {γ : Type} : Call (Manifest γ) → MutationTarget
  | createDraft _ _ command =>
    { draftId := some command.draftId
      manifestId := some command.manifest.manifestId
      manifestVersion := some command.manifest.manifestVersion }
  | replaceDraft _ draftId _ _ => { draftId := some draftId }
  | validateDraft _ draftId _ _ => { draftId := some draftId }
  | submitForReview _ draftId _ _ => { draftId := some draftId }
  | reviewDraft _ draftId _ _ => { draftId := some draftId }
  | approveDraft _ draftId _ _ => { draftId := some draftId }
  | publishDraft _ draftId _ _ => { draftId := some draftId }
  | supersedeVersion _ manifestId supersededVersion _ _ =>
    { manifestId := some manifestId, manifestVersion := some supersededVersion }
  | issueOperationalContextReceipt _ _ command => { draftId := some command.draftId }

def command : Call M → Command M
  | createDraft _ _ command => .createDraft command
  | replaceDraft _ _ _ command => .replaceDraft command
  | validateDraft _ _ _ command => .transition command
  | submitForReview _ _ _ command => .transition command
  | reviewDraft _ _ _ command => .review command
  | approveDraft _ _ _ command => .approve command
  | publishDraft _ _ _ command => .publish command
  | supersedeVersion _ _ _ _ command => .supersede command
  | issueOperationalContextReceipt _ _ command => .issue command

/-- The name of the type that the call answers with. -/
def responseType : Call M → String
  | createDraft _ _ _ => "DraftRecord"
  | replaceDraft _ _ _ _ => "DraftRecord"
  | validateDraft _ _ _ _ => "DraftRecord"
  | submitForReview _ _ _ _ => "DraftRecord"
  | reviewDraft _ _ _ _ => "DraftRecord"
  | approveDraft _ _ _ _ => "DraftRecord"
  | publishDraft _ _ _ _ => "PublishedManifest"
  | supersedeVersion _ _ _ _ _ => "Supersession"
  | issueOperationalContextReceipt _ _ _ => "OperationalContextReceipt"

end Call

/-! ## Requests and responses -/

/-- What `_mutate` digests for a call. -/
def requestOf (S : ContextService γ δ R) (c : Call (Manifest γ)) :
    MutationRequest (CanonicalWorkloadManifest δ) where
  operation := c.operation
  actorId := c.actor.actorId
  target := c.target
  command := c.command.map S.contract.modelDump

/-- The request digest of a call. -/
def requestDigest (S : ContextService γ δ R) (c : Call (Manifest γ)) :
    Except ContextError String :=
  (S.canonicalRequest (requestOf S c)).map S.sha256

/-- `response.model_dump_json(by_alias=True, exclude_none=True)`. Texts, numbers and
instants read back from JSON as they were; a manifest is read through its contract. -/
def dumpResponse (S : ContextService γ δ R) (response : Response (Manifest γ)) :
    Response (CanonicalWorkloadManifest δ) :=
  response.map S.contract.modelDump

/-- `response_type.model_validate_json(receipt.response_json)`. -/
def readResponse (S : ContextService γ δ R) :
    Response (CanonicalWorkloadManifest δ) ⊕ String → Except ContextError (Response (Manifest γ))
  | .inl response => response.traverse S.contract.modelValidate
  | .inr _ => .error ⟨.validation, "the stored response is of another service"⟩

/-! ## The mutation of a call -/

/-- `_authorize_draft`. -/
def authorizeDraft (S : ContextService γ δ R) (actor : Actor) (draftId : String)
    (permission : Permission) : ServiceTransaction γ δ R Unit := do
  let draft ← requireDraft draftId
  checked (S.require actor permission draft.manifestId)

/-- The authorization that a call asks for before its transaction. -/
def authorize (S : ContextService γ δ R) :
    Call (Manifest γ) → ServiceTransaction γ δ R Unit
  | .createDraft actor _ command =>
    checked (S.require actor .createDraft command.manifest.manifestId)
  | .replaceDraft actor draftId _ _ => authorizeDraft S actor draftId .updateDraft
  | .validateDraft actor draftId _ _ => authorizeDraft S actor draftId .validate
  | .submitForReview actor draftId _ _ => authorizeDraft S actor draftId .submit
  | .reviewDraft actor draftId _ _ => authorizeDraft S actor draftId .review
  | .approveDraft actor draftId _ _ => authorizeDraft S actor draftId .approve
  | .publishDraft actor draftId _ _ => authorizeDraft S actor draftId .publish
  | .supersedeVersion actor manifestId _ _ _ => checked (S.require actor .supersede manifestId)
  | .issueOperationalContextReceipt actor _ command => do
    raiseIf (actor.kind ≠ .service) ⟨.authorizationDenied,
      "operational context receipts require a verified service actor"⟩
    checked (S.require actor .issueOperationalContext command.manifestId)

/-- The mutation that a call runs under a new key. -/
def mutation (S : ContextService γ δ R) (clock : ClockReadings) :
    Call (Manifest γ) → ServiceTransaction γ δ R (Response (Manifest γ))
  | .createDraft actor _ command => do
    return .draftRecord (← S.createDraft clock actor command)
  | .replaceDraft actor draftId _ command => do
    return .draftRecord (← S.replaceDraftInTransaction clock actor draftId command none)
  | .validateDraft actor draftId _ command => do
    return .draftRecord (← S.validateDraft clock actor draftId command)
  | .submitForReview actor draftId _ command => do
    return .draftRecord (← S.submitForReview clock actor draftId command)
  | .reviewDraft actor draftId _ command => do
    return .draftRecord (← S.reviewDraft clock actor draftId command)
  | .approveDraft actor draftId _ command => do
    return .draftRecord (← S.approveDraft clock actor draftId command)
  | .publishDraft actor draftId _ command => do
    return .publishedManifest (← S.publishDraft clock actor draftId command)
  | .supersedeVersion actor manifestId supersededVersion _ command => do
    return .supersession
      (← S.supersedeVersion clock actor manifestId supersededVersion command)
  | .issueOperationalContextReceipt actor _ command => do
    return .operationalContextReceipt (← S.issueOperationalContextReceipt clock actor command)

/-- Whether a receipt answers the request of a call. -/
def answersRequest (receipt : MutationReceipt (CanonicalWorkloadManifest δ))
    (c : Call (Manifest γ)) (digest : String) : Prop :=
  receipt.operation = c.operation ∧ receipt.target = c.target ∧
    receipt.requestDigest = digest ∧ receipt.responseType = c.responseType

instance (receipt : MutationReceipt (CanonicalWorkloadManifest δ)) (c : Call (Manifest γ))
    (digest : String) : Decidable (answersRequest receipt c digest) := by
  unfold answersRequest
  infer_instance

/-- The receipt that a call records. -/
def mutationReceipt (S : ContextService γ δ R) (c : Call (Manifest γ)) (digest : String)
    (result : Response (Manifest γ)) : MutationReceipt (CanonicalWorkloadManifest δ) where
  actorId := c.actor.actorId
  idempotencyKey := c.idempotencyKey
  operation := c.operation
  target := c.target
  requestDigest := digest
  responseType := c.responseType
  responseJson := .inl (dumpResponse S result)

/-- The two ways of `_mutate`: answer from the receipt, or mutate and record one. -/
def mutateWith (S : ContextService γ δ R) (clock : ClockReadings) (c : Call (Manifest γ))
    (digest : String) : Option (MutationReceipt (CanonicalWorkloadManifest δ)) →
      ServiceTransaction γ δ R (Response (Manifest γ))
  | some receipt => do
    raiseIf (¬ answersRequest receipt c digest)
      ⟨.idempotencyConflict, "idempotency key was used for a different mutation"⟩
    checked (readResponse S receipt.responseJson)
  | none => do
    let result ← mutation S clock c
    checked (requireId c.idempotencyKey)
    putReceipt (mutationReceipt S c digest result)
    pure result

/-- `_mutate`. -/
def mutate (S : ContextService γ δ R) (clock : ClockReadings) (c : Call (Manifest γ)) :
    ServiceTransaction γ δ R (Response (Manifest γ)) := do
  let digest ← checked (requestDigest S c)
  let receipt ← getReceipt c.actor.actorId c.idempotencyKey
  mutateWith S clock c digest receipt

/-- A call: its authorization, which reads the store in a transaction of its own, and
its mutation. A draft stays in the store under its workload, so no other call between
the two changes the answer of the first. -/
def callTransaction (S : ContextService γ δ R) (clock : ClockReadings)
    (c : Call (Manifest γ)) : ServiceTransaction γ δ R (Response (Manifest γ)) := do
  authorize S c
  mutate S clock c

/-- The answer to a call, and the store after it. -/
def perform (S : ContextService γ δ R) (clock : ClockReadings) (c : Call (Manifest γ))
    (store : Store γ δ R) : Except ContextError (Response (Manifest γ)) × Store γ δ R :=
  transaction (callTransaction S clock c) store

/-! ## Other users of the store -/

/-- The operations of the evaluation authority that share the mutation receipts. -/
inductive EvaluationOperation
  | create
  | revoke
  deriving DecidableEq, Repr

def EvaluationOperation.name : EvaluationOperation → String
  | .create => "create_demo_evaluation_approval"
  | .revoke => "revoke_demo_evaluation_approval"

/-- A replacement by a cohort decision. -/
structure CohortApply (M : Type) where
  actor : Actor
  draftId : String
  command : ReplaceDraftCommand M
  decisionId : String
  occurredAt : Timestamp

/-- One transaction of another service on the store. -/
inductive OtherTransaction (M R : Type)
  | records (others : R)
  | selectorBaseline (draftId : String)
  | evaluationApproval (operation : EvaluationOperation) (actorId idempotencyKey : String)
      (target : MutationTarget) (digest responseJson : String) (event : PendingAuditEvent)
      (others : R)
  | cohortDecision (event : PendingAuditEvent) (others : R) (apply : Option (CohortApply M))

/-- The replacement of an applied cohort decision. -/
def applyCohortDecision (S : ContextService γ δ R) (clock : ClockReadings) :
    Option (CohortApply (Manifest γ)) → ServiceTransaction γ δ R Unit
  | none => pure ()
  | some apply => do
    let _ ← S.replaceDraftInTransaction clock apply.actor apply.draftId apply.command
      (some (apply.decisionId, apply.occurredAt))
    pure ()

/-- The writes of another service. -/
def otherTransaction (S : ContextService γ δ R) (clock : ClockReadings) :
    OtherTransaction (Manifest γ) R → ServiceTransaction γ δ R Unit
  | .records others => writing fun store => { store with others := others }
  | .selectorBaseline draftId => do
    let current ← requireDraft draftId
    let _ ← S.requireSelectorBaseline current
    pure ()
  | .evaluationApproval operation actorId idempotencyKey target digest responseJson event
      others => do
    writing fun store => { store with others := others }
    appendAudit S.auditEventDigest event
    putReceipt
      { actorId := actorId
        idempotencyKey := idempotencyKey
        operation := operation.name
        target := target
        requestDigest := digest
        responseType := "DemoEvaluationApproval"
        responseJson := .inr responseJson }
  | .cohortDecision event others apply => do
    appendAudit S.auditEventDigest event
    writing fun store => { store with others := others }
    applyCohortDecision S clock apply

/-! ## Runs -/

/-- What happens to the store: a call to the service, or a transaction of another one. -/
inductive StoreEvent (M R : Type)
  | call (clock : ClockReadings) (c : Call M)
  | other (clock : ClockReadings) (x : OtherTransaction M R)

/-- The store after an event. -/
def storeAfter (S : ContextService γ δ R) (store : Store γ δ R) :
    StoreEvent (Manifest γ) R → Store γ δ R
  | .call clock c => (perform S clock c store).2
  | .other clock x => (transaction (otherTransaction S clock x) store).2

/-- The runs of the service over a store that starts empty. -/
def contextSystem (S : ContextService γ δ R) :
    TransitionSystem (Store γ δ R) (StoreEvent (Manifest γ) R) where
  init store := ∃ others, store = ContextStore.empty others
  step store event next := next = storeAfter S store event

/-! ## What an event changes -/

variable {S : ContextService γ δ R} {s t : Store γ δ R}

theorem authorizeDraft_same {actor : Actor} {draftId : String} {permission : Permission}
    {r : Unit} (h : Returns (authorizeDraft S actor draftId permission) s r t) :
    (∃ draft, s.drafts.get? draftId = some draft ∧
      S.require actor permission draft.manifestId = .ok ()) ∧ s = t := by
  simp only [authorizeDraft, returns_bind, returns_requireDraft, returns_checked] at h
  obtain ⟨draft, _, ⟨hd, rfl⟩, hr, rfl⟩ := h
  exact ⟨⟨draft, hd, hr⟩, rfl⟩

/-- Authorization only reads. -/
theorem authorize_same {c : Call (Manifest γ)} {r : Unit} (h : Returns (authorize S c) s r t) :
    s = t := by
  cases c with
  | createDraft actor key command => exact (returns_checked.mp h).2
  | replaceDraft actor draftId key command => exact (authorizeDraft_same h).2
  | validateDraft actor draftId key command => exact (authorizeDraft_same h).2
  | submitForReview actor draftId key command => exact (authorizeDraft_same h).2
  | reviewDraft actor draftId key command => exact (authorizeDraft_same h).2
  | approveDraft actor draftId key command => exact (authorizeDraft_same h).2
  | publishDraft actor draftId key command => exact (authorizeDraft_same h).2
  | supersedeVersion actor manifestId version key command => exact (returns_checked.mp h).2
  | issueOperationalContextReceipt actor key command =>
    simp only [authorize, returns_bind, returns_raiseIf, returns_checked] at h
    obtain ⟨_, _, ⟨-, rfl⟩, -, rfl⟩ := h
    rfl

/-- A call that returned was authorized, and answered from a receipt of its request or
ran its mutation under a key without a receipt. -/
theorem callTransaction_returns {clock : ClockReadings} {c : Call (Manifest γ)}
    {response : Response (Manifest γ)}
    (h : Returns (callTransaction S clock c) s response t) :
    ∃ digest, Returns (authorize S c) s () s ∧ requestDigest S c = .ok digest ∧
      ((∃ receipt, s.receipts.get? (c.actor.actorId, c.idempotencyKey) = some receipt ∧
          answersRequest receipt c digest ∧
          readResponse S receipt.responseJson = .ok response ∧ t = s) ∨
        ∃ u, s.receipts.get? (c.actor.actorId, c.idempotencyKey) = none ∧
          Returns (mutation S clock c) s response u ∧
          t = { u with receipts := u.receipts.set (c.actor.actorId, c.idempotencyKey)
                        (mutationReceipt S c digest response) }) := by
  simp only [callTransaction, mutate, returns_bind, returns_checked, returns_getReceipt] at h
  obtain ⟨_, u, hauth, digest, _, ⟨hdigest, rfl⟩, found, _, ⟨hfound, rfl⟩, hmutate⟩ := h
  have hu := authorize_same hauth
  subst hu
  refine ⟨digest, hauth, hdigest, ?_⟩
  cases found with
  | some receipt =>
    simp only [mutateWith, returns_bind, returns_raiseIf, returns_checked, not_not] at hmutate
    obtain ⟨_, _, ⟨hanswers, rfl⟩, hread, rfl⟩ := hmutate
    exact .inl ⟨receipt, hfound, hanswers, hread, rfl⟩
  | none =>
    simp only [mutateWith, returns_bind, returns_checked, returns_putReceipt,
      returns_pure] at hmutate
    obtain ⟨result, u, hresult, _, _, ⟨-, rfl⟩, _, _, ⟨-, rfl⟩, rfl, rfl⟩ := hmutate
    exact .inr ⟨u, hfound, hresult, rfl⟩

/-- A mutation is a lifecycle step. -/
theorem mutation_lifecycleStep {clock : ClockReadings} {c : Call (Manifest γ)}
    {response : Response (Manifest γ)} (h : Returns (mutation S clock c) s response t) :
    LifecycleStep S s t := by
  cases c with
  | createDraft actor key command =>
    simp only [mutation, returns_bind, returns_pure] at h
    obtain ⟨draft, _, hcreate, -, rfl⟩ := h
    obtain ⟨now, _, hfresh, hdigest, hwrites⟩ := createDraft_step hcreate
    exact .created actor command now hfresh hdigest hwrites
  | replaceDraft actor draftId key command =>
    simp only [mutation, returns_bind, returns_pure] at h
    obtain ⟨draft, _, hreplace, -, rfl⟩ := h
    obtain ⟨current, now, hstored, _, hchange, hwrites⟩ := replaceDraftInTransaction_step hreplace
    exact .changed draftId current _ hstored hchange hwrites
  | validateDraft actor draftId key command =>
    simp only [mutation, returns_bind, returns_pure] at h
    obtain ⟨draft, _, hvalidate, -, rfl⟩ := h
    obtain ⟨current, now, hstored, _, hchange, hwrites⟩ := validateDraft_step hvalidate
    exact .changed draftId current _ hstored hchange hwrites
  | submitForReview actor draftId key command =>
    simp only [mutation, returns_bind, returns_pure] at h
    obtain ⟨draft, _, hsubmit, -, rfl⟩ := h
    obtain ⟨current, manifest, now, hstored, _, hchange, hwrites⟩ := submitForReview_step hsubmit
    exact .changed draftId current _ hstored hchange hwrites
  | reviewDraft actor draftId key command =>
    simp only [mutation, returns_bind, returns_pure] at h
    obtain ⟨draft, _, hreview, -, rfl⟩ := h
    obtain ⟨current, now, hstored, _, hchange, hwrites⟩ := reviewDraft_step hreview
    exact .changed draftId current _ hstored hchange hwrites
  | approveDraft actor draftId key command =>
    simp only [mutation, returns_bind, returns_pure] at h
    obtain ⟨draft, _, happrove, -, rfl⟩ := h
    obtain ⟨current, review, receipt, now, hstored, _, hchange, hwrites⟩ :=
      approveDraft_step happrove
    exact .changed draftId current _ hstored hchange hwrites
  | publishDraft actor draftId key command =>
    simp only [mutation, returns_bind, returns_pure] at h
    obtain ⟨published, _, hpublish, -, rfl⟩ := h
    obtain ⟨current, candidate, approval, receipt, now, hstored, hstate, hcandidate, happroval,
      hfound, hauthorizes, hfree, hlineage, _, hpublished, hwrites⟩ := publishDraft_step hpublish
    subst hpublished
    exact .published draftId current actor command candidate approval receipt now hstored hstate
      hcandidate happroval hfound hauthorizes hfree hlineage hwrites
  | supersedeVersion actor manifestId version key command =>
    simp only [mutation, returns_bind, returns_pure] at h
    obtain ⟨relation, _, hsupersede, -, rfl⟩ := h
    obtain ⟨published, source, replacement, now, hstored, hsource, hstate, hfree, hreplacement,
      hsuccessor, hid, hversion, hreplaced, hwrites⟩ := supersedeVersion_step hsupersede
    exact .superseded actor manifestId version command.replacementVersion published replacement
      source command.reason relation now hstored hsource hstate hfree hreplacement hsuccessor
      ⟨hid, hversion, hreplaced⟩ hwrites
  | issueOperationalContextReceipt actor key command =>
    simp only [mutation, returns_bind, returns_pure] at h
    obtain ⟨receipt, _, hissue, -, rfl⟩ := h
    rcases issueOperationalContextReceipt_step hissue with rfl | ⟨hfresh, rfl⟩
    · exact .unchanged rfl rfl rfl rfl
    · exact .receiptIssued receipt hfresh rfl

/-- A mutation leaves the records of the other services alone. -/
theorem mutation_others {clock : ClockReadings} {c : Call (Manifest γ)}
    {response : Response (Manifest γ)} (h : Returns (mutation S clock c) s response t) :
    t.others = s.others := by
  cases c <;> simp only [mutation, returns_bind, returns_pure] at h <;>
    obtain ⟨result, _, hrun, -, rfl⟩ := h
  case createDraft =>
    obtain ⟨_, _, _, _, hwrites⟩ := createDraft_step hrun
    exact hwrites.others_eq
  case replaceDraft =>
    obtain ⟨_, _, _, _, _, hwrites⟩ := replaceDraftInTransaction_step hrun
    exact hwrites.others_eq
  case validateDraft =>
    obtain ⟨_, _, _, _, _, hwrites⟩ := validateDraft_step hrun
    exact hwrites.others_eq
  case submitForReview =>
    obtain ⟨_, _, _, _, _, _, hwrites⟩ := submitForReview_step hrun
    exact hwrites.others_eq
  case reviewDraft =>
    obtain ⟨_, _, _, _, _, hwrites⟩ := reviewDraft_step hrun
    exact hwrites.others_eq
  case approveDraft =>
    obtain ⟨_, _, _, _, _, _, _, hwrites⟩ := approveDraft_step hrun
    exact hwrites.others_eq
  case publishDraft =>
    obtain ⟨_, _, _, _, _, _, _, _, _, _, _, _, _, _, _, hwrites⟩ := publishDraft_step hrun
    exact hwrites.others_eq
  case supersedeVersion =>
    obtain ⟨_, _, _, _, _, _, _, _, _, _, _, _, _, hwrites⟩ := supersedeVersion_step hrun
    exact hwrites.others_eq
  case issueOperationalContextReceipt =>
    rcases issueOperationalContextReceipt_step hrun with rfl | ⟨_, rfl⟩
    · rfl
    · rfl

/-- A call leaves the records of the other services alone. -/
theorem perform_others (clock : ClockReadings) (c : Call (Manifest γ)) :
    (perform S clock c s).2.others = s.others := by
  rcases transaction_cases (callTransaction S clock c) s with ⟨response, t, hr, ht⟩ | ⟨e, he⟩
  · have hp : (perform S clock c s).2 = t := congrArg Prod.snd ht
    obtain ⟨digest, _, _, hcases⟩ := callTransaction_returns hr
    rw [hp]
    rcases hcases with ⟨receipt, _, _, _, rfl⟩ | ⟨u, _, hmutation, rfl⟩
    · rfl
    · have hu := mutation_others hmutation
      exact hu
  · have hp : (perform S clock c s).2 = s := congrArg Prod.snd he
    rw [hp]

/-- Stores that agree on the records of the lifecycle. -/
structure SameLifecycle (s t : Store γ δ R) : Prop where
  drafts_eq : t.drafts = s.drafts
  published_eq : t.published = s.published
  supersessions_eq : t.supersessions = s.supersessions
  operational_eq : t.operationalContextReceipts = s.operationalContextReceipts

theorem SameLifecycle.refl : SameLifecycle s s := ⟨rfl, rfl, rfl, rfl⟩

/-- A step that changes the lifecycle records by at most one lifecycle step; what it
writes beside that leaves these records alone. -/
def LifecycleChange (S : ContextService γ δ R) (s t : Store γ δ R) : Prop :=
  ∃ v u, SameLifecycle s v ∧ (LifecycleStep S v u ∨ u = v) ∧ SameLifecycle u t

theorem LifecycleChange.of_same (h : SameLifecycle s t) : LifecycleChange S s t :=
  ⟨s, s, .refl, .inr rfl, h⟩

theorem perform_lifecycleChange (clock : ClockReadings) (c : Call (Manifest γ)) :
    LifecycleChange S s (perform S clock c s).2 := by
  rcases transaction_cases (callTransaction S clock c) s with ⟨response, t, hr, ht⟩ | ⟨e, he⟩
  · obtain ⟨digest, _, _, hcases⟩ := callTransaction_returns hr
    have hp : (perform S clock c s).2 = t := congrArg Prod.snd ht
    rw [hp]
    rcases hcases with ⟨receipt, _, _, _, rfl⟩ | ⟨u, _, hmutation, rfl⟩
    · exact .of_same .refl
    · exact ⟨s, u, .refl, .inl (mutation_lifecycleStep hmutation), ⟨rfl, rfl, rfl, rfl⟩⟩
  · have hp : (perform S clock c s).2 = s := congrArg Prod.snd he
    rw [hp]
    exact .of_same .refl

/-- Another service changes the lifecycle records by applying a cohort decision only. -/
theorem otherTransaction_lifecycleChange {clock : ClockReadings}
    {x : OtherTransaction (Manifest γ) R} {r : Unit}
    (h : Returns (otherTransaction S clock x) s r t) : LifecycleChange S s t := by
  cases x with
  | records others =>
    have ht := returns_writing.mp h
    subst ht
    exact .of_same ⟨rfl, rfl, rfl, rfl⟩
  | selectorBaseline draftId =>
    simp only [otherTransaction, returns_bind, returns_requireDraft, returns_pure] at h
    obtain ⟨current, _, ⟨-, rfl⟩, baseline, u, hb, -, rfl⟩ := h
    obtain ⟨baselines, hu⟩ := returns_requireSelectorBaseline hb
    subst hu
    exact .of_same ⟨rfl, rfl, rfl, rfl⟩
  | evaluationApproval operation actorId key target digest responseJson event others =>
    simp only [otherTransaction, returns_bind, returns_writing, returns_putReceipt] at h
    obtain ⟨_, _, rfl, _, u, haudit, -, rfl⟩ := h
    obtain ⟨eventDigest, _, _, hu⟩ := returns_appendAudit haudit
    subst hu
    exact .of_same ⟨rfl, rfl, rfl, rfl⟩
  | cohortDecision event others apply =>
    simp only [otherTransaction, returns_bind, returns_writing] at h
    obtain ⟨_, u, haudit, _, _, rfl, happly⟩ := h
    obtain ⟨eventDigest, _, _, hu⟩ := returns_appendAudit haudit
    subst hu
    cases apply with
    | none =>
      obtain ⟨_, ht⟩ := returns_pure.mp happly
      subst ht
      exact .of_same ⟨rfl, rfl, rfl, rfl⟩
    | some apply =>
      simp only [applyCohortDecision, returns_bind, returns_pure] at happly
      obtain ⟨draft, _, hreplace, -, rfl⟩ := happly
      obtain ⟨current, now, hstored, _, hchange, hwrites⟩ :=
        replaceDraftInTransaction_step hreplace
      have hstep := LifecycleStep.changed apply.draftId current _ hstored hchange hwrites
      refine ⟨_, _, ?_, .inl hstep, .refl⟩
      exact ⟨rfl, rfl, rfl, rfl⟩

theorem storeAfter_lifecycleChange (event : StoreEvent (Manifest γ) R) :
    LifecycleChange S s (storeAfter S s event) := by
  cases event with
  | call clock c => exact perform_lifecycleChange clock c
  | other clock x =>
    rcases transaction_cases (otherTransaction S clock x) s with ⟨_, t, hr, ht⟩ | ⟨e, he⟩
    · have hp : storeAfter S s (.other clock x) = t := congrArg Prod.snd ht
      rw [hp]
      exact otherTransaction_lifecycleChange hr
    · have hp : storeAfter S s (.other clock x) = s := congrArg Prod.snd he
      rw [hp]
      exact .of_same .refl

/-- What holds of the empty store, depends on the lifecycle records only, and is kept
by every lifecycle step, holds of every reachable store. -/
theorem lifecycle_invariant {P : Store γ δ R → Prop} (hempty : ∀ others, P (.empty others))
    (hsame : ∀ s t, SameLifecycle s t → P s → P t)
    (hstep : ∀ s t, P s → LifecycleStep S s t → P t)
    (h : (contextSystem S).Reachable s) : P s := by
  refine TransitionSystem.Reachable.invariant ?_ ?_ h
  · rintro _ ⟨others, rfl⟩
    exact hempty others
  · rintro s event _ _ hs rfl
    obtain ⟨v, u, hsv, hvu, hut⟩ := storeAfter_lifecycleChange (S := S) (s := s) event
    have hv : P v := hsame s v hsv hs
    have hu : P u := by
      rcases hvu with hvu | rfl
      · exact hstep v u hv hvu
      · exact hv
    exact hsame u _ hut hu

/-- The store after a list of events. -/
def runEvents (S : ContextService γ δ R) (s : Store γ δ R)
    (events : List (StoreEvent (Manifest γ) R)) : Store γ δ R :=
  events.foldl (storeAfter S) s

theorem reachable_runEvents (events : List (StoreEvent (Manifest γ) R))
    (h : (contextSystem S).Reachable s) : (contextSystem S).Reachable (runEvents S s events) := by
  induction events generalizing s with
  | nil => exact h
  | cons event rest ih => exact ih (.next h rfl)

/-! ## A service over plain manifests -/

/-- The digest of a manifest whose content is the target of one objective. -/
def plainDigest (semantic : Bool) (manifest : Manifest ℕ) : String :=
  (if semantic then "semantic-" else "artifact-") ++ manifest.manifestId ++ "-" ++
    manifest.manifestVersion.text ++ "-" ++ toString manifest.content ++ "-" ++
      manifest.audit.publishedBy

def plainContract : ManifestContract ℕ ℕ where
  dumpContent := id
  canonicalContent := id
  payloadDigest semantic payload := .ok (plainDigest semantic payload)
  parseContent payload := .ok payload.content
  computeArtifactDigestValue manifest := .ok (plainDigest false manifest)
  rollbackContentDigest manifest :=
    .ok (manifest.manifestId ++ "-" ++ toString manifest.content)
  manifestSelectorProvenance _ := []
  productionProfile _ := some "production"

/-- The revision and digests that tell the commands for one draft apart. -/
def commandText {M : Type} : Command M → String
  | .createDraft command => command.manifestDigest
  | .replaceDraft command => toString command.expectedRevision ++ "-" ++ command.replacementDigest
  | .transition command => toString command.expectedRevision ++ "-" ++ command.expectedDigest
  | .review command => toString command.expectedRevision ++ "-" ++ command.comments
  | .approve command => toString command.expectedRevision ++ "-" ++ command.expectedDigest
  | .publish command => toString command.expectedRevision ++ "-" ++ command.approvalId
  | .supersede command => toString command.expectedRevision ++ "-" ++ command.replacementDigest
  | .issue command => toString command.draftRevision ++ "-" ++ command.snapshotId

/-- A service that grants every permission and has no selectors to check. -/
def grantingService (C : ManifestContract γ δ) : ContextService γ δ R where
  contract := C
  publicationActor := ⟨"publisher", .service⟩
  require _ _ _ := .ok ()
  auditEventDigest event _ eventId _ := .ok (eventId ++ "-" ++ event.manifestDigest)
  canonicalRequest request :=
    .ok (request.operation ++ "-" ++ request.actorId ++ "-" ++ commandText request.command)
  sha256 := id
  selectorProvenanceDigest _ := "no-selectors"
  operationalContextReceiptId _ command :=
    "receipt-" ++ command.draftId ++ "-" ++ toString command.draftRevision
  operationalContextReceiptDigest receipt := receipt.receiptId
  newDraftSelectorReference _ _ _ := .ok none
  mayBackfillSelectorBaseline _ _ := .ok ()
  validateInferredSelectorBaseline _ _ := .ok ()
  validateLifecycleSelectors _ _ _ _ _ := .ok ()
  validateReplacementProfiles _ _ _ _ _ := .ok ()
  requirePersistedCohortApply _ _ _ _ _ _ _ := .ok 0
  resolveDraftProfile _ _ profileId _ := .ok (profileId, "profile-digest")

def openService (C : ManifestContract γ δ) : ContextService γ δ Unit := grantingService C

def plainService : ContextService ℕ ℕ Unit := openService plainContract

/-- The manifest of the workload `orders` under its digests. -/
def ordersManifest (version : ManifestVersion) (target : ℕ) (publishedBy : String)
    (publishedAt : Timestamp) : Manifest ℕ :=
  let manifest : Manifest ℕ :=
    { manifestId := "orders"
      manifestVersion := version
      artifactDigest := ""
      semanticDigest := ""
      audit := { publishedBy := publishedBy, publishedAt := publishedAt }
      content := target }
  { manifest with
    artifactDigest := plainDigest false manifest
    semanticDigest := plainDigest true manifest }

/-- A transition of a draft of `orders` at a revision with a manifest. -/
def ordersTransition (manifest : Manifest ℕ) (revision : ℕ) : TransitionCommand where
  expectedRevision := revision
  expectedManifestVersion := manifest.manifestVersion
  expectedDigest := manifest.artifactDigest
  reason := "release"

/-- The receipt request for a revision of a draft of `orders` in review. -/
def ordersReceipt (draftId : String) (manifest : Manifest ℕ) (revision : ℕ) (now : Timestamp) :
    IssueOperationalContextReceiptCommand where
  manifestId := "orders"
  manifestVersion := manifest.manifestVersion
  profileId := "production"
  draftId := draftId
  draftRevision := revision
  manifestDigest := manifest.artifactDigest
  profileDigest := "profile-digest"
  snapshotId := "snapshot"
  collectedAt := now
  expiresAt := now + 10
  evidenceInventory := []
  evidenceInventoryDigest := "inventory"
  contentDigest := "content"
  bindingDigest := "binding"

def editor : Actor := ⟨"editor", .human⟩

def collector : Actor := ⟨"collector", .service⟩

/-- A call whose clock stands at the instant. -/
def callAt (now : Timestamp) (c : Call (Manifest ℕ)) : StoreEvent (Manifest ℕ) Unit :=
  .call ⟨.ok now, .ok now⟩ c

def createOrders (draftId : String) (version : ManifestVersion) (target : ℕ)
    (previousVersion rollbackSourceVersion : Option ManifestVersion) :
    StoreEvent (Manifest ℕ) Unit :=
  callAt 0 (.createDraft editor (draftId ++ "-create")
    { draftId := draftId
      manifest := ordersManifest version target "editor" 0
      manifestDigest := (ordersManifest version target "editor" 0).artifactDigest
      previousVersion := previousVersion
      rollbackSourceVersion := rollbackSourceVersion
      reason := "release" })

def replaceOrders (draftId : String) (version : ManifestVersion) (target newTarget revision : ℕ) :
    StoreEvent (Manifest ℕ) Unit :=
  callAt 0 (.replaceDraft editor draftId (draftId ++ "-replace")
    { expectedRevision := revision
      expectedManifestVersion := version
      expectedDigest := (ordersManifest version target "editor" 0).artifactDigest
      replacementManifest := ordersManifest version newTarget "editor" 0
      replacementDigest := (ordersManifest version newTarget "editor" 0).artifactDigest
      reason := "release" })

/-- The calls that bring a draft of `orders` from a revision to publication. -/
def releaseOrders (draftId : String) (version : ManifestVersion) (target revision : ℕ) :
    List (StoreEvent (Manifest ℕ) Unit) :=
  let handedIn := ordersManifest version target "editor" 0
  let finalized := ordersManifest version target "publisher" 2
  [callAt 1 (.validateDraft editor draftId (draftId ++ "-validate")
    (ordersTransition handedIn revision)),
   callAt 2 (.submitForReview editor draftId (draftId ++ "-submit")
    (ordersTransition handedIn (revision + 1))),
   callAt 3 (.reviewDraft editor draftId (draftId ++ "-review")
    { ordersTransition finalized (revision + 2) with
      decision := .approved
      comments := "none" }),
   callAt 4 (.issueOperationalContextReceipt collector (draftId ++ "-issue")
    (ordersReceipt draftId finalized (revision + 3) 4)),
   callAt 5 (.approveDraft editor draftId (draftId ++ "-approve")
    { ordersTransition finalized (revision + 3) with
      operationalContextReceiptId := "receipt-" ++ draftId ++ "-" ++ toString (revision + 3) }),
   callAt 6 (.issueOperationalContextReceipt collector (draftId ++ "-reissue")
    (ordersReceipt draftId finalized (revision + 4) 6)),
   callAt 7 (.publishDraft editor draftId (draftId ++ "-publish")
    { ordersTransition finalized (revision + 4) with
      approvalId := draftId ++ "-r" ++ toString (revision + 4) ++ "-approval"
      operationalContextReceiptId := "receipt-" ++ draftId ++ "-" ++ toString (revision + 4) })]

/-- The call that supersedes a version of `orders` by its successor. -/
def supersedeOrders (draftId : String) (published successor : Manifest ℕ) :
    StoreEvent (Manifest ℕ) Unit :=
  callAt 8 (.supersedeVersion editor "orders" published.manifestVersion (draftId ++ "-supersede")
    { expectedRevision := 6
      expectedManifestVersion := published.manifestVersion
      expectedDigest := published.artifactDigest
      replacementVersion := successor.manifestVersion
      replacementDigest := successor.artifactDigest
      reason := "release" })

/-- Two releases of `orders`, the second in place of the first. -/
def ordersReleases : List (StoreEvent (Manifest ℕ) Unit) :=
  createOrders "first" ⟨1, 0, 0⟩ 99 none none :: releaseOrders "first" ⟨1, 0, 0⟩ 99 1 ++
    (createOrders "second" ⟨1, 1, 0⟩ 95 (some ⟨1, 0, 0⟩) none ::
      releaseOrders "second" ⟨1, 1, 0⟩ 95 1) ++
    [supersedeOrders "first" (ordersManifest ⟨1, 0, 0⟩ 99 "publisher" 2)
      (ordersManifest ⟨1, 1, 0⟩ 95 "publisher" 2)]

end AthenaContext.ContextCalls
