import AthenaContext.ProposalCalls

/-!
# Steps of proposal calls

What one port operation of a proposal call does, with everything that it has checked.
-/

namespace AthenaContext.ProposalCalls

open JsonText TextNormalization Dictionaries
open ContextRecords ContextMutations ContextCalls PatchProposals

variable {γ R : Type}

/-- The call that an event is a step of. -/
def callOf : ProposalEvent γ R → Option ℕ
  | .receive n _ _ => some n
  | .readClock n _ => some n
  | .verify n _ => some n
  | .plan n => some n
  | .reserve n _ => some n
  | .sign n _ => some n
  | .consume n => some n
  | .createDraft n _ => some n
  | .other _ => none

/-- What an event does. -/
inductive ProposalStep (P : ProposalServer γ R) (s : ProposalState γ R) :
    ProposalEvent γ R → ProposalState γ R → Prop
  | idle (event : ProposalEvent γ R) : ProposalStep P s event s
  | admitted (n : ℕ) (context : ToolCallContext) (arguments : Json)
      (request : ProposeManifestPatchInput) (new : s.calls n = none)
      (accepted : P.openCall context arguments = .ok request) :
      ProposalStep P s (.receive n context arguments) (s.withCall n ⟨context, request, .opened⟩)
  | timed (n : ℕ) (call : ProposalCall γ) (now : Timestamp) (stored : s.calls n = some call)
      (phase : call.phase = .opened) :
      ProposalStep P s (.readClock n (.ok now)) (s.withCall n { call with phase := .timed now })
  | refused (event : ProposalEvent γ R) (n : ℕ) (call : ProposalCall γ) (e : ToolError)
      (own : callOf event = some n) (stored : s.calls n = some call) :
      ProposalStep P s event (s.withCall n { call with phase := .finished (.error e) })
  | verified (n : ℕ) (call : ProposalCall γ) (now : Timestamp) (claims : ConfirmationClaims)
      (stored : s.calls n = some call) (phase : call.phase = .timed now)
      (confirms : call.request.phase = .confirm)
      (checked : checkClaims call.context.authentication call.request.workloadId now claims =
        .ok ()) :
      ProposalStep P s (.verify n (some claims))
        (s.withCall n { call with phase := .verified now claims })
  | planned (n : ℕ) (call : ProposalCall γ) (now : Timestamp) (plan : ProposalPlan γ)
      (binding : ConfirmationBinding) (stored : s.calls n = some call)
      (phase : call.phase = .timed now) (previews : call.request.phase = .preview)
      (planned : P.planProposal s.store call.context.authentication.actor call.request = .ok plan)
      (bound : P.previewBinding call.context.authentication call.request plan.patchDigest now =
        .ok binding) :
      ProposalStep P s (.plan n) (s.withCall n { call with phase := .planned now plan binding })
  | matched (n : ℕ) (call : ProposalCall γ) (now : Timestamp) (claims : ConfirmationClaims)
      (plan : ProposalPlan γ) (predicted : ManifestPatchOutput) (stored : s.calls n = some call)
      (phase : call.phase = .verified now claims)
      (planned : P.planProposal s.store call.context.authentication.actor call.request = .ok plan)
      (same : claims.binding.patchDigest = plan.patchDigest)
      (fits : P.predictedResponse call.request plan = .ok predicted) :
      ProposalStep P s (.plan n)
        (s.withCall n { call with phase := .matched now claims plan predicted })
  | reserved (n : ℕ) (call : ProposalCall γ) (now : Timestamp) (plan : ProposalPlan γ)
      (binding : ConfirmationBinding) (challenge : String) (next : CallPhase γ)
      (stored : s.calls n = some call) (phase : call.phase = .planned now plan binding)
      (next_eq : next = .reserved now plan ⟨binding, challenge⟩ ∨
        ∃ e, next = .finished (.error e)) :
      ProposalStep P s (.reserve n (.ok challenge))
        { s.withCall n { call with phase := next } with
          confirmations := s.confirmations.set challenge binding
          challenges := challenge :: s.challenges }
  | returned (n : ℕ) (call : ProposalCall γ) (now : Timestamp) (plan : ProposalPlan γ)
      (claims : ConfirmationClaims) (token : Text) (output : ManifestPatchOutput)
      (stored : s.calls n = some call) (phase : call.phase = .reserved now plan claims)
      (response : signedResponse P call plan claims token = .ok output) :
      ProposalStep P s (.sign n (.ok token))
        { s.withCall n { call with phase := .finished (.ok output) } with
          returned := (token, claims) :: s.returned }
  | consumed (n : ℕ) (call : ProposalCall γ) (now : Timestamp) (claims : ConfirmationClaims)
      (plan : ProposalPlan γ) (predicted : ManifestPatchOutput) (stored : s.calls n = some call)
      (phase : call.phase = .matched now claims plan predicted)
      (opened : s.confirmations.get? claims.challengeId = some claims.binding)
      (current : now < claims.binding.expiresAt) :
      ProposalStep P s (.consume n)
        { s.withCall n { call with phase := .consumed now claims plan predicted } with
          confirmations := s.confirmations.erase claims.challengeId }
  | created (n : ℕ) (clock : ClockReadings) (call : ProposalCall γ) (now : Timestamp)
      (claims : ConfirmationClaims) (plan : ProposalPlan γ) (predicted : ManifestPatchOutput)
      (stored : s.calls n = some call) (phase : call.phase = .consumed now claims plan predicted) :
      ProposalStep P s (.createDraft n clock) (createStep P s n call plan predicted clock)
  | other (event : StoreEvent (Manifest γ) R) :
      ProposalStep P s (.other event) { s with store := storeAfter P.service s.store event }

section Inversion

variable {P : ProposalServer γ R} {s : ProposalState γ R} {n : ℕ} {call : ProposalCall γ}

/-- The reading of the published version, and what is decided on it. -/
theorem planPhase_step {next : CallPhase γ} (hstored : s.calls n = some call)
    (h : planPhase P s call = some next) :
    ProposalStep P s (.plan n) (s.withCall n { call with phase := next }) := by
  have hrefused : ∀ e, ProposalStep P s (.plan n)
      (s.withCall n { call with phase := .finished (.error e) }) :=
    fun e => .refused _ n call e rfl hstored
  rw [planPhase] at h
  split at h
  · next now hphase hpreview =>
    obtain rfl := Option.some.inj h
    rw [plannedPhase]
    split
    · exact hrefused _
    · next plan hplan =>
      split
      · exact hrefused _
      · next binding hbinding =>
        exact .planned n call now plan binding hstored hphase hpreview hplan hbinding
  · next now claims hphase =>
    obtain rfl := Option.some.inj h
    rw [matchedPhase]
    split
    · exact hrefused _
    · next plan hplan =>
      split
      · exact hrefused _
      · next hsame =>
        split
        · exact hrefused _
        · next predicted hpredicted =>
          exact .matched n call now claims plan predicted hstored hphase hplan
            (not_not.mp hsame) hpredicted
  · cases h

theorem verify_step {now : Timestamp} {claims : Option ConfirmationClaims}
    (hstored : s.calls n = some call) (hphase : call.phase = .timed now)
    (hconfirm : call.request.phase = .confirm) :
    ProposalStep P s (.verify n claims)
      (s.withCall n { call with phase := verifiedPhase call now claims }) := by
  cases claims with
  | none => exact .refused _ n call _ rfl hstored
  | some claims =>
    rw [verifiedPhase]
    split
    · exact .refused _ n call _ rfl hstored
    · next hchecked => exact .verified n call now claims hstored hphase hconfirm hchecked

theorem reserve_step {now : Timestamp} {plan : ProposalPlan γ} {binding : ConfirmationBinding}
    {challenge : ToolResult String} (hstored : s.calls n = some call)
    (hphase : call.phase = .planned now plan binding) :
    ProposalStep P s (.reserve n challenge) (reserveStep s n call now plan binding challenge) := by
  cases challenge with
  | error e => exact .refused _ n call e rfl hstored
  | ok challenge =>
    refine .reserved n call now plan binding challenge _ hstored hphase ?_
    split
    · exact .inl rfl
    · exact .inr ⟨_, rfl⟩

theorem sign_step {now : Timestamp} {plan : ProposalPlan γ} {claims : ConfirmationClaims}
    {token : ToolResult Text} (hstored : s.calls n = some call)
    (hphase : call.phase = .reserved now plan claims) :
    ProposalStep P s (.sign n token) (signStep P s n call plan claims token) := by
  cases token with
  | error e => exact .refused _ n call e rfl hstored
  | ok token =>
    rw [signStep]
    split
    · exact .refused _ n call _ rfl hstored
    · next output hresponse =>
      exact .returned n call now plan claims token output hstored hphase hresponse

theorem consume_step {now : Timestamp} {claims : ConfirmationClaims} {plan : ProposalPlan γ}
    {predicted : ManifestPatchOutput} (hstored : s.calls n = some call)
    (hphase : call.phase = .matched now claims plan predicted) :
    ProposalStep P s (.consume n) (consumeStep s n call now claims plan predicted) := by
  rw [consumeStep]
  split
  · next hopen =>
    exact .consumed n call now claims plan predicted hstored hphase hopen.1 hopen.2
  · exact .refused _ n call _ rfl hstored

/-- Every event is one of these steps. -/
theorem after_step (event : ProposalEvent γ R) : ProposalStep P s event (after P s event) := by
  cases event with
  | receive n context arguments =>
    simp only [after]
    split
    · next request hnew haccepted => exact .admitted n context arguments request hnew haccepted
    · exact .idle _
  | readClock n reading =>
    simp only [after]
    split
    · next context request hstored =>
      cases reading with
      | error e => exact .refused _ n _ e rfl hstored
      | ok now => exact .timed n _ now hstored rfl
    · exact .idle _
  | verify n claims =>
    simp only [after]
    split
    · next context request now hstored =>
      split
      · next hconfirm => exact verify_step hstored rfl hconfirm
      · exact .idle _
    · exact .idle _
  | plan n =>
    simp only [after]
    split
    · next call hstored =>
      split
      · next phase hphase => exact planPhase_step hstored hphase
      · exact .idle _
    · exact .idle _
  | reserve n challenge =>
    simp only [after]
    split
    · next context request now plan binding hstored => exact reserve_step hstored rfl
    · exact .idle _
  | sign n token =>
    simp only [after]
    split
    · next context request now plan claims hstored => exact sign_step hstored rfl
    · exact .idle _
  | consume n =>
    simp only [after]
    split
    · next context request now claims plan predicted hstored => exact consume_step hstored rfl
    · exact .idle _
  | createDraft n clock =>
    simp only [after]
    split
    · next context request now claims plan predicted hstored =>
      exact .created n clock _ now claims plan predicted hstored rfl
    · exact .idle _
  | other event => exact .other event

end Inversion

/-! ## Events that are due -/

section Due

variable {P : ProposalServer γ R} {s : ProposalState γ R} {n : ℕ} {context : ToolCallContext}
  {request : ProposeManifestPatchInput} {now : Timestamp} {plan : ProposalPlan γ}
  {claims : ConfirmationClaims} {binding : ConfirmationBinding}

theorem after_receive {arguments : Json} (hnew : s.calls n = none)
    (hopen : P.openCall context arguments = .ok request) :
    after P s (.receive n context arguments) = s.withCall n ⟨context, request, .opened⟩ := by
  simp only [after, hnew, hopen]

theorem after_readClock (h : s.calls n = some ⟨context, request, .opened⟩) :
    after P s (.readClock n (.ok now)) = s.withCall n ⟨context, request, .timed now⟩ := by
  simp only [after, h]

theorem after_verify (h : s.calls n = some ⟨context, request, .timed now⟩)
    (hconfirm : request.phase = .confirm)
    (hchecked : checkClaims context.authentication request.workloadId now claims = .ok ()) :
    after P s (.verify n (some claims)) = s.withCall n ⟨context, request, .verified now claims⟩ := by
  simp only [after, h, hconfirm, if_true, verifiedPhase, hchecked]

theorem after_plan_preview (h : s.calls n = some ⟨context, request, .timed now⟩)
    (hpreview : request.phase = .preview)
    (hplan : P.planProposal s.store context.authentication.actor request = .ok plan)
    (hbinding : P.previewBinding context.authentication request plan.patchDigest now = .ok binding) :
    after P s (.plan n) = s.withCall n ⟨context, request, .planned now plan binding⟩ := by
  simp only [after, h, planPhase, hpreview, plannedPhase, hplan, hbinding]

theorem after_plan_confirm {predicted : ManifestPatchOutput}
    (h : s.calls n = some ⟨context, request, .verified now claims⟩)
    (hplan : P.planProposal s.store context.authentication.actor request = .ok plan)
    (hsame : claims.binding.patchDigest = plan.patchDigest)
    (hpredicted : P.predictedResponse request plan = .ok predicted) :
    after P s (.plan n) = s.withCall n ⟨context, request, .matched now claims plan predicted⟩ := by
  simp only [after, h, planPhase, matchedPhase, hplan, hsame, ne_eq, not_true_eq_false, if_false,
    hpredicted]

theorem after_reserve {challenge : String}
    (h : s.calls n = some ⟨context, request, .planned now plan binding⟩)
    (hid : matchesIdPattern challenge = true) :
    after P s (.reserve n (.ok challenge)) =
      { s.withCall n ⟨context, request, .reserved now plan ⟨binding, challenge⟩⟩ with
        confirmations := s.confirmations.set challenge binding
        challenges := challenge :: s.challenges } := by
  simp only [after, h, reserveStep, hid, if_true]

theorem after_sign {token : Text} {output : ManifestPatchOutput}
    (h : s.calls n = some ⟨context, request, .reserved now plan claims⟩)
    (hresponse : signedResponse P ⟨context, request, .reserved now plan claims⟩ plan claims token =
      .ok output) :
    after P s (.sign n (.ok token)) =
      { s.withCall n ⟨context, request, .finished (.ok output)⟩ with
        returned := (token, claims) :: s.returned } := by
  simp only [after, h, signStep, hresponse]

theorem after_unsigned {e : ToolError}
    (h : s.calls n = some ⟨context, request, .reserved now plan claims⟩) :
    after P s (.sign n (.error e)) = s.withCall n ⟨context, request, .finished (.error e)⟩ := by
  simp only [after, h, signStep]

theorem after_consume {predicted : ManifestPatchOutput}
    (h : s.calls n = some ⟨context, request, .matched now claims plan predicted⟩)
    (hopen : s.confirmations.get? claims.challengeId = some claims.binding)
    (hcurrent : now < claims.binding.expiresAt) :
    after P s (.consume n) =
      { s.withCall n ⟨context, request, .consumed now claims plan predicted⟩ with
        confirmations := s.confirmations.erase claims.challengeId } := by
  simp only [after, h, consumeStep, hopen, hcurrent, and_self, if_true]

end Due

end AthenaContext.ProposalCalls
