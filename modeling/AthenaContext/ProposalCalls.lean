import AthenaContext.PatchProposals
import AthenaContext.Histories

/-!
# Calls of the proposal tool

Any number of `propose_manifest_patch` calls over one context service, one confirmation signer
and one confirmation store. A call is a sequence of port operations; between two of them come
those of other calls, and whatever else happens to the store of the service. A call may stop
at any of them.

A token that verifies has been returned by a preview, with the claims that were signed. The
confirmation store reserves every challenge once, and a challenge is consumed in one step.
-/

namespace AthenaContext.ProposalCalls

open JsonText TextNormalization ContractPatterns Dictionaries TransitionSystems
open ContextRecords ContextStorage ContextMutations ContextCalls PatchProposals

variable {γ R : Type}

/-- Where a call stands. -/
inductive CallPhase (γ : Type)
  | opened
  | timed (now : Timestamp)
  | verified (now : Timestamp) (claims : ConfirmationClaims)
  | planned (now : Timestamp) (plan : ProposalPlan γ) (binding : ConfirmationBinding)
  | matched (now : Timestamp) (claims : ConfirmationClaims) (plan : ProposalPlan γ)
      (predicted : ManifestPatchOutput)
  | reserved (now : Timestamp) (plan : ProposalPlan γ) (claims : ConfirmationClaims)
  | consumed (now : Timestamp) (claims : ConfirmationClaims) (plan : ProposalPlan γ)
      (predicted : ManifestPatchOutput)
  | finished (answer : ToolResult ManifestPatchOutput)

structure ProposalCall (γ : Type) where
  context : ToolCallContext
  request : ProposeManifestPatchInput
  phase : CallPhase γ

/-- The store of the service, the challenges that are open and all that ever were, the tokens
that previews returned, and the calls. -/
structure ProposalState (γ R : Type) where
  store : Store γ Json R
  confirmations : Dictionary String ConfirmationBinding
  challenges : List String
  returned : List (Text × ConfirmationClaims)
  calls : ℕ → Option (ProposalCall γ)

namespace ProposalState

def withCall (s : ProposalState γ R) (n : ℕ) (call : ProposalCall γ) : ProposalState γ R :=
  { s with calls := fun m => if m = n then some call else s.calls m }

variable {s : ProposalState γ R} {n m : ℕ} {call : ProposalCall γ}

@[simp] theorem withCall_store : (s.withCall n call).store = s.store := rfl

@[simp] theorem withCall_confirmations :
    (s.withCall n call).confirmations = s.confirmations := rfl

@[simp] theorem withCall_challenges : (s.withCall n call).challenges = s.challenges := rfl

@[simp] theorem withCall_returned : (s.withCall n call).returned = s.returned := rfl

@[simp] theorem withCall_self : (s.withCall n call).calls n = some call := if_pos rfl

theorem withCall_of_ne (h : m ≠ n) : (s.withCall n call).calls m = s.calls m := if_neg h

/-- A call after another one was set is that one, or was there before. -/
theorem calls_withCall {other : ProposalCall γ} (h : (s.withCall n call).calls m = some other) :
    m = n ∧ other = call ∨ m ≠ n ∧ s.calls m = some other := by
  by_cases hm : m = n
  · subst hm
    rw [withCall_self] at h
    exact .inl ⟨rfl, (Option.some.inj h).symm⟩
  · rw [withCall_of_ne hm] at h
    exact .inr ⟨hm, h⟩

end ProposalState

/-- The port operations of a call, and what else happens to the store. -/
inductive ProposalEvent (γ R : Type)
  | receive (n : ℕ) (context : ToolCallContext) (arguments : Json)
  | readClock (n : ℕ) (reading : ToolResult Timestamp)
  | verify (n : ℕ) (claims : Option ConfirmationClaims)
  | plan (n : ℕ)
  | reserve (n : ℕ) (challenge : ToolResult String)
  | sign (n : ℕ) (token : ToolResult Text)
  | consume (n : ℕ)
  | createDraft (n : ℕ) (clock : ClockReadings)
  | other (event : StoreEvent (Manifest γ) R)

section Steps

variable (P : ProposalServer γ R) (s : ProposalState γ R)

/-- The claims of a token, checked against the caller. -/
def verifiedPhase (call : ProposalCall γ) (now : Timestamp) :
    Option ConfirmationClaims → CallPhase γ
  | none => .finished (.error (confirmationError "confirmation token is invalid"))
  | some claims =>
    match checkClaims call.context.authentication call.request.workloadId now claims with
    | .error e => .finished (.error e)
    | .ok () => .verified now claims

/-- A preview has read the published version. -/
def plannedPhase (call : ProposalCall γ) (now : Timestamp) : CallPhase γ :=
  match P.planProposal s.store call.context.authentication.actor call.request with
  | .error e => .finished (.error e)
  | .ok plan =>
    match P.previewBinding call.context.authentication call.request plan.patchDigest now with
    | .error e => .finished (.error e)
    | .ok binding => .planned now plan binding

/-- A confirmation has read the published version, and its digest is the one of its claims. -/
def matchedPhase (call : ProposalCall γ) (now : Timestamp) (claims : ConfirmationClaims) :
    CallPhase γ :=
  match P.planProposal s.store call.context.authentication.actor call.request with
  | .error e => .finished (.error e)
  | .ok plan =>
    if claims.binding.patchDigest ≠ plan.patchDigest then
      .finished (.error (confirmationError "confirmation binding is invalid or expired"))
    else
      match P.predictedResponse call.request plan with
      | .error e => .finished (.error e)
      | .ok predicted => .matched now claims plan predicted

/-- The phase after the published version was read. -/
def planPhase (call : ProposalCall γ) : Option (CallPhase γ) :=
  match call.phase, call.request.phase with
  | .timed now, .preview => some (plannedPhase P s call now)
  | .verified now claims, _ => some (matchedPhase P s call now claims)
  | _, _ => none

/-- A challenge is reserved for a preview. -/
def reserveStep (n : ℕ) (call : ProposalCall γ) (now : Timestamp) (plan : ProposalPlan γ)
    (binding : ConfirmationBinding) : ToolResult String → ProposalState γ R
  | .error e => s.withCall n { call with phase := .finished (.error e) }
  | .ok challenge =>
    let phase : CallPhase γ :=
      if matchesIdPattern challenge then .reserved now plan ⟨binding, challenge⟩
      else .finished (.error (confirmationError "confirmation challenge could not be issued"))
    { s.withCall n { call with phase := phase } with
      confirmations := s.confirmations.set challenge binding
      challenges := challenge :: s.challenges }

/-- The response of a preview under a signed token. -/
def signedResponse (call : ProposalCall γ) (plan : ProposalPlan γ) (claims : ConfirmationClaims)
    (token : Text) : ToolResult ManifestPatchOutput := do
  if ¬ hasLength 32 4096 token then
    throw (confirmationError "confirmation challenge could not be issued")
  let output ← previewOutput call.request plan.published plan.profileId plan.preview
    ⟨claims.challengeId, token, claims.binding.expiresAt⟩
  P.ensureResponseBound output
  pure output

/-- The claims of a preview are signed, and its response is returned. -/
def signStep (n : ℕ) (call : ProposalCall γ) (plan : ProposalPlan γ) (claims : ConfirmationClaims) :
    ToolResult Text → ProposalState γ R
  | .error e => s.withCall n { call with phase := .finished (.error e) }
  | .ok token =>
    match signedResponse P call plan claims token with
    | .error e => s.withCall n { call with phase := .finished (.error e) }
    | .ok output =>
      { s.withCall n { call with phase := .finished (.ok output) } with
        returned := (token, claims) :: s.returned }

/-- A challenge is consumed where it is open under the same binding, and not expired. -/
def consumeStep (n : ℕ) (call : ProposalCall γ) (now : Timestamp) (claims : ConfirmationClaims)
    (plan : ProposalPlan γ) (predicted : ManifestPatchOutput) : ProposalState γ R :=
  if s.confirmations.get? claims.challengeId = some claims.binding ∧
      now < claims.binding.expiresAt then
    { s.withCall n { call with phase := .consumed now claims plan predicted } with
      confirmations := s.confirmations.erase claims.challengeId }
  else
    s.withCall n { call with phase := .finished (.error (confirmationError
      "confirmation is missing, expired, mismatched, or already consumed")) }

/-- The call of the context API that a confirmed proposal makes. -/
def createCall (call : ProposalCall γ) (plan : ProposalPlan γ) : Call (Manifest γ) :=
  .createDraft call.context.authentication.actor call.request.idempotencyKey
    (ProposalServer.createCommand call.request plan)

/-- What the tool makes of the answer of `create_draft`. -/
def createdResponse (call : ProposalCall γ) (plan : ProposalPlan γ)
    (predicted : ManifestPatchOutput) :
    Except ContextError (Response (Manifest γ)) → ToolResult ManifestPatchOutput
  | .error e => .error (portError e)
  | .ok (.draftRecord draft) => do
    P.checkDraft call.context.authentication.actor call.request plan draft
    P.ensureResponseBound predicted
    pure predicted
  | .ok _ => .error groundingError

/-- The draft of a confirmed proposal is created. -/
def createStep (n : ℕ) (call : ProposalCall γ) (plan : ProposalPlan γ)
    (predicted : ManifestPatchOutput) (clock : ClockReadings) : ProposalState γ R :=
  let created := perform P.service clock (createCall call plan) s.store
  { s.withCall n
      { call with phase := .finished (createdResponse P call plan predicted created.1) } with
    store := created.2 }

/-- The state after an event; an event that is not due changes nothing. -/
def after : ProposalEvent γ R → ProposalState γ R
  | .receive n context arguments =>
    match s.calls n, P.openCall context arguments with
    | none, .ok request => s.withCall n ⟨context, request, .opened⟩
    | _, _ => s
  | .readClock n reading =>
    match s.calls n with
    | some ⟨context, request, .opened⟩ =>
      s.withCall n ⟨context, request, match reading with
        | .error e => .finished (.error e)
        | .ok now => .timed now⟩
    | _ => s
  | .verify n claims =>
    match s.calls n with
    | some ⟨context, request, .timed now⟩ =>
      if request.phase = .confirm then
        s.withCall n ⟨context, request, verifiedPhase ⟨context, request, .timed now⟩ now claims⟩
      else s
    | _ => s
  | .plan n =>
    match s.calls n with
    | some call =>
      match planPhase P s call with
      | some phase => s.withCall n { call with phase := phase }
      | none => s
    | none => s
  | .reserve n challenge =>
    match s.calls n with
    | some ⟨context, request, .planned now plan binding⟩ =>
      reserveStep s n ⟨context, request, .planned now plan binding⟩ now plan binding challenge
    | _ => s
  | .sign n token =>
    match s.calls n with
    | some ⟨context, request, .reserved now plan claims⟩ =>
      signStep P s n ⟨context, request, .reserved now plan claims⟩ plan claims token
    | _ => s
  | .consume n =>
    match s.calls n with
    | some ⟨context, request, .matched now claims plan predicted⟩ =>
      consumeStep s n ⟨context, request, .matched now claims plan predicted⟩ now claims plan predicted
    | _ => s
  | .createDraft n clock =>
    match s.calls n with
    | some ⟨context, request, .consumed now claims plan predicted⟩ =>
      createStep P s n ⟨context, request, .consumed now claims plan predicted⟩ plan predicted clock
    | _ => s
  | .other event => { s with store := storeAfter P.service s.store event }

end Steps

/-- Only tokens that were returned verify, and every challenge is new. -/
def Admissible (s : ProposalState γ R) : ProposalEvent γ R → Prop
  | .verify n (some claims) => ∀ call, s.calls n = some call →
      ∃ token, call.request.confirmationToken = some token ∧ (token, claims) ∈ s.returned
  | .reserve _ (.ok challenge) => challenge ∉ s.challenges
  | _ => True

/-- The runs of the tool, over a store that the context service has reached. -/
def proposalSystem (P : ProposalServer γ R) :
    TransitionSystem (ProposalState γ R) (ProposalEvent γ R) where
  init s := (contextSystem P.service).Reachable s.store ∧ s.confirmations = .empty ∧
    s.challenges = [] ∧ s.returned = [] ∧ ∀ n, s.calls n = none
  step s event t := Admissible s event ∧ t = after P s event

theorem init_of_reachable {P : ProposalServer γ R} {store : Store γ Json R}
    (h : (contextSystem P.service).Reachable store) :
    (proposalSystem P).init ⟨store, .empty, [], [], fun _ => none⟩ :=
  ⟨h, rfl, rfl, rfl, fun _ => rfl⟩

end AthenaContext.ProposalCalls
