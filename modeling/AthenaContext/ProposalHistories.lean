import AthenaContext.ProposalDigests
import AthenaContext.ProposalSteps

/-!
# Histories of proposal calls

Every phase of a call was entered in one step of the run, with its own checks: from a call
that creates a draft back to its reading of the published version, to its token, and from the
token to the preview that returned it.
-/

namespace AthenaContext.ProposalCalls

open TextNormalization Dictionaries
open FallibleResults ContextRecords ContextCalls PatchProposals

variable {γ R : Type} {P : ProposalServer γ R} {s t : ProposalState γ R}
  {event : ProposalEvent γ R} {n : ℕ} {call : ProposalCall γ}

theorem proposalStep_of_step (h : (proposalSystem P).step s event t) : ProposalStep P s event t := by
  obtain ⟨-, rfl⟩ := h
  exact after_step event

/-! ## Entering a phase -/

/-- What a call has done in the step that leads to a phase. -/
def Entered (P : ProposalServer γ R) (s : ProposalState γ R) (event : ProposalEvent γ R)
    (t : ProposalState γ R) (n : ℕ) (call : ProposalCall γ) : CallPhase γ → Prop
  | .opened => True
  | .timed _ => s.calls n = some { call with phase := .opened }
  | .verified now claims =>
    event = .verify n (some claims) ∧ s.calls n = some { call with phase := .timed now } ∧
      call.request.phase = .confirm ∧
      checkClaims call.context.authentication call.request.workloadId now claims = .ok ()
  | .planned now plan binding =>
    event = .plan n ∧ s.calls n = some { call with phase := .timed now } ∧
      call.request.phase = .preview ∧
      P.planProposal s.store call.context.authentication.actor call.request = .ok plan ∧
      P.previewBinding call.context.authentication call.request plan.patchDigest now = .ok binding
  | .matched now claims plan predicted =>
    event = .plan n ∧ s.calls n = some { call with phase := .verified now claims } ∧
      P.planProposal s.store call.context.authentication.actor call.request = .ok plan ∧
      claims.binding.patchDigest = plan.patchDigest ∧
      P.predictedResponse call.request plan = .ok predicted
  | .reserved now plan claims =>
    s.calls n = some { call with phase := .planned now plan claims.binding }
  | .consumed now claims plan predicted =>
    event = .consume n ∧ s.calls n = some { call with phase := .matched now claims plan predicted } ∧
      s.confirmations.get? claims.challengeId = some claims.binding ∧
      now < claims.binding.expiresAt ∧
      t.confirmations = s.confirmations.erase claims.challengeId
  | .finished _ => True

/-- A call that was set, and does not stand as before, is the one that was set. -/
theorem eq_of_withCall {m : ℕ} {other : ProposalCall γ} (hnew : s.calls n ≠ some call)
    (hcall : (s.withCall m other).calls n = some call) : n = m ∧ call = other := by
  rcases ProposalState.calls_withCall hcall with hset | ⟨-, hbefore⟩
  · exact hset
  · exact absurd hbefore hnew

/-- Setting the phase of a call leaves every context and request alone. -/
theorem kept_of_withCall {m : ℕ} {other : ProposalCall γ} {next : CallPhase γ}
    (hstored : s.calls m = some other) (hcall : s.calls n = some call) :
    ∃ phase, (s.withCall m { other with phase := next }).calls n =
      some { call with phase := phase } := by
  by_cases hm : n = m
  · subst hm
    obtain rfl : other = call := Option.some.inj (hstored.symm.trans hcall)
    exact ⟨next, ProposalState.withCall_self⟩
  · exact ⟨call.phase, (ProposalState.withCall_of_ne hm).trans hcall⟩

/-- A call that stands elsewhere after a step has entered its phase in it. -/
theorem ProposalStep.entered (h : ProposalStep P s event t) (hnew : s.calls n ≠ some call)
    (hcall : t.calls n = some call) : Entered P s event t n call call.phase := by
  cases h with
  | idle => exact absurd hcall hnew
  | other event => exact absurd hcall hnew
  | admitted m context arguments request new accepted =>
    obtain ⟨rfl, rfl⟩ := eq_of_withCall hnew hcall
    trivial
  | timed m earlier now stored phase =>
    obtain ⟨rfl, rfl⟩ := eq_of_withCall hnew hcall
    exact stored.trans (congrArg some (phase ▸ rfl))
  | refused event m earlier e own stored =>
    obtain ⟨rfl, rfl⟩ := eq_of_withCall hnew hcall
    trivial
  | verified m earlier now claims stored phase confirms checked =>
    obtain ⟨rfl, rfl⟩ := eq_of_withCall hnew hcall
    exact ⟨rfl, stored.trans (congrArg some (phase ▸ rfl)), confirms, checked⟩
  | planned m earlier now plan binding stored phase previews planned bound =>
    obtain ⟨rfl, rfl⟩ := eq_of_withCall hnew hcall
    exact ⟨rfl, stored.trans (congrArg some (phase ▸ rfl)), previews, planned, bound⟩
  | matched m earlier now claims plan predicted stored phase planned same fits =>
    obtain ⟨rfl, rfl⟩ := eq_of_withCall hnew hcall
    exact ⟨rfl, stored.trans (congrArg some (phase ▸ rfl)), planned, same, fits⟩
  | reserved m earlier now plan binding challenge next stored phase next_eq =>
    obtain ⟨rfl, rfl⟩ := eq_of_withCall hnew hcall
    rcases next_eq with rfl | ⟨e, rfl⟩
    · exact stored.trans (congrArg some (phase ▸ rfl))
    · trivial
  | returned m earlier now plan claims token output stored phase response =>
    obtain ⟨rfl, rfl⟩ := eq_of_withCall hnew hcall
    trivial
  | consumed m earlier now claims plan predicted stored phase opened current =>
    obtain ⟨rfl, rfl⟩ := eq_of_withCall hnew hcall
    exact ⟨rfl, stored.trans (congrArg some (phase ▸ rfl)), opened, current, rfl⟩
  | created m clock earlier now claims plan predicted stored phase =>
    obtain ⟨rfl, rfl⟩ := eq_of_withCall hnew hcall
    trivial

/-- A step leaves the context and the request of every call alone. -/
theorem ProposalStep.request_kept (h : ProposalStep P s event t) (hcall : s.calls n = some call) :
    ∃ phase, t.calls n = some { call with phase := phase } := by
  cases h with
  | idle => exact ⟨call.phase, hcall⟩
  | other event => exact ⟨call.phase, hcall⟩
  | admitted m context arguments request new accepted =>
    have hm : n ≠ m := by
      rintro rfl
      rw [new] at hcall
      cases hcall
    exact ⟨call.phase, (ProposalState.withCall_of_ne hm).trans hcall⟩
  | timed m earlier now stored => exact kept_of_withCall stored hcall
  | refused event m earlier e own stored => exact kept_of_withCall stored hcall
  | verified m earlier now claims stored => exact kept_of_withCall stored hcall
  | planned m earlier now plan binding stored => exact kept_of_withCall stored hcall
  | matched m earlier now claims plan predicted stored => exact kept_of_withCall stored hcall
  | reserved m earlier now plan binding challenge next stored => exact kept_of_withCall stored hcall
  | returned m earlier now plan claims token output stored => exact kept_of_withCall stored hcall
  | consumed m earlier now claims plan predicted stored => exact kept_of_withCall stored hcall
  | created m clock earlier now claims plan predicted stored => exact kept_of_withCall stored hcall

/-- Every request is valid. -/
def ValidRequests (s : ProposalState γ R) : Prop :=
  ∀ n call, s.calls n = some call → call.request.isValid = true

theorem ValidRequests.withCall {m : ℕ} {other : ProposalCall γ} (h : ValidRequests s)
    (hother : other.request.isValid = true) : ValidRequests (s.withCall m other) := by
  intro n call hcall
  rcases ProposalState.calls_withCall hcall with ⟨-, rfl⟩ | ⟨-, hbefore⟩
  · exact hother
  · exact h n call hbefore

theorem ValidRequests.step (h : ValidRequests s) (hstep : ProposalStep P s event t) :
    ValidRequests t := by
  cases hstep with
  | idle => exact h
  | other event => exact h
  | admitted m context arguments request new accepted => exact h.withCall (isValid_of_openCall accepted)
  | timed m earlier now stored => exact h.withCall (h m earlier stored)
  | refused event m earlier e own stored => exact h.withCall (h m earlier stored)
  | verified m earlier now claims stored => exact h.withCall (h m earlier stored)
  | planned m earlier now plan binding stored => exact h.withCall (h m earlier stored)
  | matched m earlier now claims plan predicted stored => exact h.withCall (h m earlier stored)
  | reserved m earlier now plan binding challenge next stored => exact h.withCall (h m earlier stored)
  | returned m earlier now plan claims token output stored => exact h.withCall (h m earlier stored)
  | consumed m earlier now claims plan predicted stored => exact h.withCall (h m earlier stored)
  | created m clock earlier now claims plan predicted stored => exact h.withCall (h m earlier stored)

theorem validRequests (h : (proposalSystem P).Reachable s) : ValidRequests s := by
  refine h.invariant ?_ fun s event t _ hs hstep => hs.step (proposalStep_of_step hstep)
  rintro s ⟨-, -, -, -, hnone⟩ n call hcall
  rw [hnone n] at hcall
  cases hcall

/-- A token that is new after a step was signed and returned in it. -/
theorem ProposalStep.returned_entered {token : Text} {claims : ConfirmationClaims}
    (h : ProposalStep P s event t) (hnew : (token, claims) ∉ s.returned)
    (hreturned : (token, claims) ∈ t.returned) :
    ∃ m earlier now plan output, event = .sign m (.ok token) ∧ s.calls m = some earlier ∧
      earlier.phase = .reserved now plan claims ∧
      signedResponse P earlier plan claims token = .ok output ∧
      t.calls m = some { earlier with phase := .finished (.ok output) } := by
  cases h with
  | returned m earlier now plan claims' token' output stored phase response =>
    rcases List.mem_cons.mp hreturned with heq | hbefore
    · obtain ⟨rfl, rfl⟩ := Prod.mk.inj heq
      exact ⟨m, earlier, now, plan, output, rfl, stored, phase, response,
        ProposalState.withCall_self⟩
    · exact absurd hbefore hnew
  | _ => exact absurd hreturned hnew

/-- What a step does to the confirmations. -/
theorem ProposalStep.confirmations_cases (h : ProposalStep P s event t) :
    (t.confirmations = s.confirmations ∧ t.challenges = s.challenges) ∨
      (∃ n call now plan binding challenge, event = .reserve n (.ok challenge) ∧
        s.calls n = some call ∧ call.phase = .planned now plan binding ∧
        t.confirmations = s.confirmations.set challenge binding ∧
        t.challenges = challenge :: s.challenges) ∨
      ∃ n call now claims plan predicted, event = .consume n ∧ s.calls n = some call ∧
        call.phase = .matched now claims plan predicted ∧
        t.calls n = some { call with phase := .consumed now claims plan predicted } ∧
        t.confirmations = s.confirmations.erase claims.challengeId ∧
        t.challenges = s.challenges := by
  cases h with
  | reserved n call now plan binding challenge next stored phase =>
    exact .inr (.inl ⟨n, call, now, plan, binding, challenge, rfl, stored, phase, rfl, rfl⟩)
  | consumed n call now claims plan predicted stored phase =>
    exact .inr (.inr ⟨n, call, now, claims, plan, predicted, rfl, stored, phase,
      ProposalState.withCall_self, rfl, rfl⟩)
  | _ => exact .inl ⟨rfl, rfl⟩

/-- What changes the store. -/
theorem ProposalStep.store_cases (h : ProposalStep P s event t) :
    t.store = s.store ∨
      (∃ n clock call now claims plan predicted, event = .createDraft n clock ∧
        s.calls n = some call ∧ call.phase = .consumed now claims plan predicted) ∨
      ∃ other, event = .other other := by
  cases h with
  | created n clock call now claims plan predicted stored phase =>
    exact .inr (.inl ⟨n, clock, call, now, claims, plan, predicted, rfl, stored, phase⟩)
  | other event => exact .inr (.inr ⟨event, rfl⟩)
  | _ => exact .inl rfl

/-- The context service reaches the store of every state. -/
theorem store_reachable (h : (proposalSystem P).Reachable s) :
    (contextSystem P.service).Reachable s.store := by
  refine h.invariant (P := fun s => (contextSystem P.service).Reachable s.store) ?_ ?_
  · exact fun s hs => hs.1
  · intro s event t _ hs hstep
    cases proposalStep_of_step hstep with
    | created m clock earlier now claims plan predicted =>
      exact hs.next (a := .call clock (createCall earlier plan)) rfl
    | other event => exact hs.next (a := event) rfl
    | _ => exact hs

/-! ## Checks -/

/-- The claims that pass the check are those of the caller. -/
theorem checkClaims_ok {authentication : VerifiedAuthentication} {workloadId : String}
    {now : Timestamp} {claims : ConfirmationClaims}
    (h : checkClaims authentication workloadId now claims = .ok ()) :
    claims.binding.actorId = authentication.actor.actorId ∧
      claims.binding.subjectId = authentication.subjectId ∧
      claims.binding.issuer = authentication.issuer ∧
      claims.binding.audience = authentication.audience ∧
      claims.binding.authenticationMethod = authentication.method := by
  obtain ⟨hclaims, -⟩ := ite_error_ok_iff.mp h
  simp only [not_or, not_not] at hclaims
  exact ⟨hclaims.1, hclaims.2.1, hclaims.2.2.1, hclaims.2.2.2.1, hclaims.2.2.2.2.1⟩

/-- The binding of a preview is that of its caller and its patch. -/
theorem previewBinding_ok {authentication : VerifiedAuthentication}
    {request : ProposeManifestPatchInput} {patchDigest : Text} {now : Timestamp}
    {binding : ConfirmationBinding}
    (h : P.previewBinding authentication request patchDigest now = .ok binding) :
    binding.actorId = authentication.actor.actorId ∧ binding.subjectId = authentication.subjectId ∧
      binding.issuer = authentication.issuer ∧ binding.audience = authentication.audience ∧
      binding.authenticationMethod = authentication.method ∧ binding.patchDigest = patchDigest := by
  simp only [ProposalServer.previewBinding] at h
  split at h
  · obtain rfl := Except.ok.inj h
    exact ⟨rfl, rfl, rfl, rfl, rfl, rfl⟩
  · cases h

end AthenaContext.ProposalCalls
