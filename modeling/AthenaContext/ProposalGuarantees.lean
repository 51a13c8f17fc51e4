import AthenaContext.ProposalChallenges

/-!
# Guarantees of the proposal tool

An agent drafts what it has previewed. In every run a draft is created by a confirmation only,
after a preview of the same caller has returned its token over the same proposal, base and
patched manifest; each challenge leads to one draft at most; a refused call leaves the
confirmations and the drafts alone; and the checks of a new draft pass.
-/

namespace AthenaContext.ProposalCalls

open JsonText TextNormalization Histories
open FallibleResults DocumentDigests KeyedVersions Transactions
open ContextRecords ContextMutations ContextMutations.ContextService
open ContextTransitions ContextCalls PatchProposals

variable {γ R : Type} {P : ProposalServer γ R}

/-! ## Statements -/

/-- The identity that a token is bound to. -/
structure SameCaller (a b : VerifiedAuthentication) : Prop where
  actorId : a.actor.actorId = b.actor.actorId
  subjectId : a.subjectId = b.subjectId
  issuer : a.issuer = b.issuer
  audience : a.audience = b.audience
  method : a.method = b.method

/-- A step in which a call calls `create_draft`. -/
structure Drafting (s : ProposalState γ R) (event : ProposalEvent γ R) (n : ℕ) (clock : ClockReadings)
    (call : ProposalCall γ) (now : Timestamp) (claims : ConfirmationClaims) (plan : ProposalPlan γ)
    (predicted : ManifestPatchOutput) : Prop where
  event_eq : event = .createDraft n clock
  stored : s.calls n = some call
  phase : call.phase = .consumed now claims plan predicted

/-- A step in which a preview returns a token with the published version and the patch that it
has read. -/
structure Previewing (P : ProposalServer γ R) (s : ProposalState γ R) (event : ProposalEvent γ R)
    (t : ProposalState γ R) (n : ℕ) (call : ProposalCall γ) (plan : ProposalPlan γ) (token : Text)
    (claims : ConfirmationClaims) : Prop where
  event_eq : event = .sign n (.ok token)
  stored : s.calls n = some call
  previews : call.request.phase = .preview
  phase : ∃ now, call.phase = .reserved now plan claims
  answered : ∃ output, signedResponse P call plan claims token = .ok output ∧
    t.calls n = some { call with phase := .finished (.ok output) }

/-- The payload that a reading of a published version digests. -/
def Digested (P : ProposalServer γ R) (s : ProposalState γ R) (event : ProposalEvent γ R)
    (payload : Json) : Prop :=
  ∃ n call plan, event = .plan n ∧ s.calls n = some call ∧
    P.planProposal s.store call.context.authentication.actor call.request = .ok plan ∧
    payload = patchPayload call.request plan.published plan.patched

/-- The digests of a run tell the patches that it digests apart. -/
def DistinguishesPatches (H : History (proposalSystem P)) : Prop :=
  ∀ i < H.length, ∀ j < H.length, ∀ a b, Digested P (H.state i) (H.event i) a →
    Digested P (H.state j) (H.event j) b → Distinguishes P.runtime P.tables P.sha256 a b

/-- A preview that has returned the token of a confirmation, over what it proposes. -/
structure PreviewedAs (H : History (proposalSystem P)) (i : ℕ) (call : ProposalCall γ)
    (plan : ProposalPlan γ) (claims : ConfirmationClaims) (m : ℕ) (before : ProposalCall γ)
    (previewed : ProposalPlan γ) (token : Text) : Prop where
  previewing : Previewing P (H.state i) (H.event i) (H.state (i + 1)) m before previewed token claims
  presented : call.request.confirmationToken = some token
  caller : SameCaller call.context.authentication before.context.authentication
  proposal : SameProposal P.runtime P.tables call.request before.request
  base : plan.published.manifestDigest = previewed.published.manifestDigest
  patched : plan.patched.artifactDigest = previewed.patched.artifactDigest

/-- A call has consumed its challenge before a state. -/
def ConsumedBefore (H : History (proposalSystem P)) (j n : ℕ) : Prop :=
  ∃ i ≤ j, ∃ call now claims plan predicted, (H.state i).calls n = some call ∧
    call.phase = .consumed now claims plan predicted

/-- What holds of the proposals of a run. -/
structure ProposalGuarantees (P : ProposalServer γ R) (H : History (proposalSystem P)) : Prop where
  /-- A draft is created by a confirmation of what a preview has returned, before it expires. -/
  drafted : ∀ j < H.length, ∀ n clock call now claims plan predicted,
    Drafting (H.state j) (H.event j) n clock call now claims plan predicted →
      call.request.phase = .confirm ∧ now < claims.binding.expiresAt ∧
        ∃ i < j, ∃ m before previewed token, PreviewedAs H i call plan claims m before previewed token
  /-- A challenge leads to one draft at most. -/
  once : ∀ i j, i < j → j < H.length → ∀ n clock call now claims plan predicted n' clock' call' now'
      claims' plan' predicted',
    Drafting (H.state i) (H.event i) n clock call now claims plan predicted →
      Drafting (H.state j) (H.event j) n' clock' call' now' claims' plan' predicted' →
        claims'.challengeId ≠ claims.challengeId
  /-- A refused confirmation that has not consumed its challenge has changed nothing. -/
  refused : ∀ j ≤ H.length, ∀ n call e, (H.state j).calls n = some call →
    call.phase = .finished (.error e) → call.request.phase = .confirm → ¬ ConsumedBefore H j n →
      ∀ i < j, callOf (H.event i) = some n →
        (H.state (i + 1)).confirmations = (H.state i).confirmations ∧
          (H.state (i + 1)).store = (H.state i).store
  /-- A preview changes no draft, and of the reservations it only makes a new one. -/
  previewed : ∀ j ≤ H.length, ∀ n call, (H.state j).calls n = some call →
    call.request.phase = .preview → ∀ i < j, callOf (H.event i) = some n →
      (H.state (i + 1)).store = (H.state i).store ∧
        ((H.state (i + 1)).confirmations = (H.state i).confirmations ∨
          ∃ challenge binding, H.event i = .reserve n (.ok challenge) ∧
            challenge ∉ (H.state i).challenges ∧
            (H.state (i + 1)).confirmations = (H.state i).confirmations.set challenge binding)
  /-- The checks of a draft that was created under a new key pass. -/
  firstTime : ∀ j < H.length, ∀ n clock call now claims plan predicted response,
    Drafting (H.state j) (H.event j) n clock call now claims plan predicted →
      (H.state j).store.receipts.get?
        (call.context.authentication.actor.actorId, call.request.idempotencyKey) = none →
      (perform P.service clock (createCall call plan) (H.state j).store).1 = .ok response →
        ∃ draft, response = .draftRecord draft ∧
          P.checkDraft call.context.authentication.actor call.request plan draft = .ok () ∧
          (H.state (j + 1)).calls n = some { call with phase := .finished (.ok predicted) }

/-! ## Back to the preview -/

section Runs

variable {H : History (proposalSystem P)} {i j n : ℕ} {call : ProposalCall γ} {now : Timestamp}
  {claims : ConfirmationClaims} {plan : ProposalPlan γ} {predicted : ManifestPatchOutput}

theorem step_at (hj : j < H.length) :
    ProposalStep P (H.state j) (H.event j) (H.state (j + 1)) :=
  proposalStep_of_step (H.steps j hj)

/-- A call has entered its phase at some step. -/
theorem entered_before (hj : j ≤ H.length) (h : (H.state j).calls n = some call) :
    ∃ i < j, Entered P (H.state i) (H.event i) (H.state (i + 1)) n call call.phase := by
  have hstart : ∀ s, (proposalSystem P).init s → s.calls n ≠ some call := by
    rintro s ⟨-, -, -, -, hnone⟩ hcall
    rw [hnone n] at hcall
    cases hcall
  obtain ⟨i, hi, hnew, hcall⟩ :=
    H.entered (P := fun s => s.calls n = some call) hstart hj h
  exact ⟨i, hi, (step_at (by omega)).entered hnew hcall⟩

/-- The contexts and requests of calls stay. -/
theorem request_later (hij : i ≤ j) (hj : j ≤ H.length) (h : (H.state i).calls n = some call) :
    ∃ phase, (H.state j).calls n = some { call with phase := phase } := by
  refine H.kept (P := fun s => ∃ phase, s.calls n = some { call with phase := phase })
    (fun s event t _ hstep hs => ?_) hij hj ⟨call.phase, h⟩
  obtain ⟨phase, hphase⟩ := hs
  have hkept := (proposalStep_of_step hstep).request_kept hphase
  exact hkept

/-- A call that stands in a state was admitted with a valid request. -/
theorem isValid_of_call (hj : j ≤ H.length) (h : (H.state j).calls n = some call) :
    call.request.isValid = true :=
  validRequests (H.reachable hj) n call h

/-- A confirmation has read the published version under its claims. -/
theorem matched_of_consumed (hj : j ≤ H.length) (h : (H.state j).calls n = some call)
    (hphase : call.phase = .consumed now claims plan predicted) :
    now < claims.binding.expiresAt ∧ ∃ i < j,
      Entered P (H.state i) (H.event i) (H.state (i + 1)) n call (.matched now claims plan predicted) := by
  obtain ⟨k, hk, hentered⟩ := entered_before hj h
  rw [hphase] at hentered
  obtain ⟨-, hbefore, -, hcurrent, -⟩ := hentered
  obtain ⟨i, hi, hmatched⟩ := entered_before (by omega) hbefore
  exact ⟨hcurrent, i, by omega, hmatched⟩

/-- A confirmation has presented a token that was returned. -/
theorem returned_of_verified (hj : j ≤ H.length) (h : (H.state j).calls n = some call)
    (hphase : call.phase = .verified now claims) :
    call.request.phase = .confirm ∧
      checkClaims call.context.authentication call.request.workloadId now claims = .ok () ∧
      ∃ i < j, ∃ token, call.request.confirmationToken = some token ∧
        (token, claims) ∈ (H.state i).returned := by
  obtain ⟨i, hi, hentered⟩ := entered_before hj h
  rw [hphase] at hentered
  obtain ⟨hevent, hbefore, hconfirm, hchecked⟩ := hentered
  have hadmissible := (H.steps i (by omega)).1
  rw [hevent] at hadmissible
  obtain ⟨token, htoken, hreturned⟩ := hadmissible _ hbefore
  exact ⟨hconfirm, hchecked, i, hi, token, htoken, hreturned⟩

/-- A preview has bound its challenge to the patch that it has read. -/
theorem planned_of_reserved (hj : j ≤ H.length) (h : (H.state j).calls n = some call)
    (hphase : call.phase = .reserved now plan claims) :
    ∃ i < j, Entered P (H.state i) (H.event i) (H.state (i + 1)) n call (.planned now plan claims.binding) := by
  obtain ⟨k, hk, hentered⟩ := entered_before hj h
  rw [hphase] at hentered
  obtain ⟨i, hi, hplanned⟩ := entered_before (by omega) hentered
  exact ⟨i, by omega, hplanned⟩

/-- A token that was returned is that of a preview. -/
theorem previewing_of_returned {token : Text} (hj : j ≤ H.length)
    (h : (token, claims) ∈ (H.state j).returned) :
    ∃ i < j, ∃ m before previewed, Previewing P (H.state i) (H.event i) (H.state (i + 1)) m before
      previewed token claims := by
  have hstart : ∀ s, (proposalSystem P).init s → (token, claims) ∉ s.returned := by
    rintro s ⟨-, -, -, hnone, -⟩ hmem
    rw [hnone] at hmem
    cases hmem
  obtain ⟨i, hi, hnew, hreturned⟩ :=
    H.entered (P := fun s => (token, claims) ∈ s.returned) hstart hj h
  obtain ⟨m, before, signed, previewed, output, hevent, hstored, hphase, hresponse, hanswer⟩ :=
    (step_at (by omega)).returned_entered hnew hreturned
  obtain ⟨k, -, hplanned⟩ := planned_of_reserved (by omega) hstored hphase
  exact ⟨i, hi, m, before, previewed, hevent, hstored, hplanned.2.2.1, ⟨signed, hphase⟩, output,
    hresponse, hanswer⟩

/-- A confirmed proposal was previewed. -/
theorem previewed_of_consumed (hC : DigestTexts P.service.contract)
    (hdistinct : DistinguishesPatches H) (hj : j ≤ H.length) (h : (H.state j).calls n = some call)
    (hphase : call.phase = .consumed now claims plan predicted) :
    call.request.phase = .confirm ∧ now < claims.binding.expiresAt ∧ ∃ i < j,
      ∃ m before previewed token, PreviewedAs H i call plan claims m before previewed token := by
  obtain ⟨hcurrent, k, hk, hevent, hverified, hplan, hsame, -⟩ := matched_of_consumed hj h hphase
  obtain ⟨hconfirm, hchecked, r, hr, token, htoken, hreturned⟩ :=
    returned_of_verified (by omega) hverified rfl
  obtain ⟨i, hi, m, before, previewed, hpreviewing⟩ := previewing_of_returned (by omega) hreturned
  obtain ⟨signed, hreserved⟩ := hpreviewing.phase
  obtain ⟨q, hq, hevent', hbefore, -, hplan', hbinding⟩ :=
    planned_of_reserved (by omega) hpreviewing.stored hreserved
  have hstored : (H.state k).calls n = some { call with phase := .verified now claims } := hverified
  have hplanned := planProposal_ok hplan
  have hplanned' := planProposal_ok hplan'
  have hclaims := checkClaims_ok hchecked
  have hbound := previewBinding_ok hbinding
  have hdigests : Distinguishes P.runtime P.tables P.sha256
      (patchPayload call.request plan.published plan.patched)
      (patchPayload before.request previewed.published previewed.patched) :=
    hdistinct k (by omega) q (by omega) _ _ ⟨n, _, plan, hevent, hstored, hplan, rfl⟩
      ⟨m, _, previewed, hevent', hbefore, hplan', rfl⟩
  have hkeyed : ∀ l ≤ H.length, KeyedStore (H.state l).store := fun l hl =>
    keyedStore hC (store_reachable (H.reachable hl))
  have hvalid := isValid_of_call hj h
  have hvalid' := isValid_of_call (by omega) hpreviewing.stored
  obtain ⟨hproposal, hbase, hpatched⟩ := sameProposal_of_digest hC (hkeyed k (by omega))
    (hkeyed q (by omega)) hvalid hvalid' hplanned hplanned' hdigests
    (hsame.symm.trans hbound.2.2.2.2.2)
  have hcaller : SameCaller call.context.authentication before.context.authentication :=
    { actorId := hclaims.1.symm.trans hbound.1
      subjectId := hclaims.2.1.symm.trans hbound.2.1
      issuer := hclaims.2.2.1.symm.trans hbound.2.2.1
      audience := hclaims.2.2.2.1.symm.trans hbound.2.2.2.1
      method := hclaims.2.2.2.2.symm.trans hbound.2.2.2.2.1 }
  exact ⟨hconfirm, hcurrent, i, by omega, m, before, previewed, token,
    { previewing := hpreviewing
      presented := htoken
      caller := hcaller
      proposal := hproposal
      base := hbase
      patched := hpatched }⟩

/-! ## Drafts -/

/-- The step of a call that calls `create_draft`. -/
theorem after_drafting {s : ProposalState γ R} {event : ProposalEvent γ R} {clock : ClockReadings}
    (h : Drafting s event n clock call now claims plan predicted) :
    after P s event = createStep P s n call plan predicted clock := by
  obtain ⟨rfl, hstored, hphase⟩ := h
  obtain ⟨context, request, phase⟩ := call
  subst hphase
  simp only [after, hstored]

theorem state_after {j : ℕ} (hj : j < H.length) :
    H.state (j + 1) = after P (H.state j) (H.event j) := (H.steps j hj).2

/-- A challenge whose draft was created leads to no other draft. -/
theorem drafted_once (hij : i < j) (hj : j < H.length) {clock clock' : ClockReadings} {m : ℕ}
    {other : ProposalCall γ} {now' : Timestamp} {claims' : ConfirmationClaims}
    {plan' : ProposalPlan γ} {predicted' : ManifestPatchOutput}
    (h : Drafting (H.state i) (H.event i) n clock call now claims plan predicted)
    (h' : Drafting (H.state j) (H.event j) m clock' other now' claims' plan' predicted') :
    claims'.challengeId ≠ claims.challengeId := by
  have hone : OneUse (H.state i) := oneUse (H.reachable (by omega))
  have hspent : Spent claims.challengeId (H.state (i + 1)) := by
    rw [state_after (by omega), after_drafting h]
    exact spent_of_createDraft hone h.stored h.phase
  have hlater : Spent claims.challengeId (H.state j) :=
    H.kept (P := Spent claims.challengeId)
      (fun s event t _ hstep hs => hs.step hstep.1 (proposalStep_of_step hstep)) hij (by omega) hspent
  intro hsame
  exact hlater.unused m ⟨other, now', claims', plan', predicted', h'.stored, h'.phase, hsame⟩

/-- A predicted response fits. -/
theorem ensureResponseBound_of_predicted
    (h : P.predictedResponse call.request plan = .ok predicted) :
    P.ensureResponseBound predicted = .ok () := by
  simp only [ProposalServer.predictedResponse, bind_ok_iff] at h
  obtain ⟨output, -, _, hbound, hpure⟩ := h
  obtain rfl := pure_ok_iff.mp hpure
  exact hbound

/-- A new draft of a patch passes its checks. -/
theorem checkDraft_createdDraft {actor : Actor} {request : ProposeManifestPatchInput}
    (hworkload : plan.patched.manifestId = request.workloadId)
    (hversion : plan.patched.manifestVersion = request.proposedManifestVersion) :
    P.checkDraft actor request plan
      (createdDraft actor (ProposalServer.createCommand request plan) now) = .ok () := by
  rw [ProposalServer.checkDraft]
  refine if_neg ?_
  simp [createdDraft, ProposalServer.createCommand, hworkload, hversion]

/-- The draft that a new key has created. -/
theorem created_of_perform {s : Store γ Json R} {clock : ClockReadings}
    {response : Response (Manifest γ)}
    (hfresh : s.receipts.get? (call.context.authentication.actor.actorId,
      call.request.idempotencyKey) = none)
    (h : (perform P.service clock (createCall call plan) s).1 = .ok response) :
    ∃ created, response = .draftRecord (createdDraft call.context.authentication.actor
      (ProposalServer.createCommand call.request plan) created) := by
  rcases transaction_cases (callTransaction P.service clock (createCall call plan)) s with
    ⟨answer, t, hreturns, hperform⟩ | ⟨e, hperform⟩
  · have hanswer : response = answer := by
      have hresult : (perform P.service clock (createCall call plan) s).1 = .ok answer :=
        congrArg Prod.fst hperform
      exact Except.ok.inj (h.symm.trans hresult)
    obtain ⟨digest, -, -, hcases⟩ := callTransaction_returns hreturns
    rcases hcases with ⟨receipt, hreceipt, -, -, -⟩ | ⟨u, -, hmutation, -⟩
    · have hnone := hfresh.symm.trans hreceipt
      cases hnone
    · simp only [createCall, mutation, returns_bind, returns_pure] at hmutation
      obtain ⟨draft, _, hcreate, hdraft, -⟩ := hmutation
      obtain ⟨created, hcreated, -⟩ := createDraft_step hcreate
      refine ⟨created, ?_⟩
      rw [hanswer, ← hcreated]
      exact hdraft.symm
  · have hresult : (perform P.service clock (createCall call plan) s).1 = .error e :=
      congrArg Prod.fst hperform
    rw [hresult] at h
    cases h

/-! ## Refusals -/

/-- A consumed challenge is that of a confirmation. -/
theorem confirm_of_verified (hj : j ≤ H.length) (h : (H.state j).calls n = some call)
    (hphase : call.phase = .verified now claims) : call.request.phase = .confirm :=
  (returned_of_verified hj h hphase).1

theorem confirm_of_matched (hj : j ≤ H.length) (h : (H.state j).calls n = some call)
    (hphase : call.phase = .matched now claims plan predicted) : call.request.phase = .confirm := by
  obtain ⟨i, hi, hentered⟩ := entered_before hj h
  rw [hphase] at hentered
  have hconfirm := confirm_of_verified (by omega) hentered.2.1 rfl
  exact hconfirm

theorem confirm_of_consumed (hj : j ≤ H.length) (h : (H.state j).calls n = some call)
    (hphase : call.phase = .consumed now claims plan predicted) : call.request.phase = .confirm := by
  obtain ⟨i, hi, hentered⟩ := entered_before hj h
  rw [hphase] at hentered
  have hconfirm := confirm_of_matched (by omega) hentered.2.1 rfl
  exact hconfirm

theorem preview_of_planned {binding : ConfirmationBinding} (hj : j ≤ H.length)
    (h : (H.state j).calls n = some call) (hphase : call.phase = .planned now plan binding) :
    call.request.phase = .preview := by
  obtain ⟨i, hi, hentered⟩ := entered_before hj h
  rw [hphase] at hentered
  exact hentered.2.2.1

/-- Two states of a call have one request. -/
theorem request_eq {earlier : ProposalCall γ} (hij : i ≤ j) (hj : j ≤ H.length)
    (h : (H.state i).calls n = some earlier) (hlater : (H.state j).calls n = some call) :
    earlier.request = call.request := by
  obtain ⟨phase, hphase⟩ := request_later hij hj h
  rw [hphase] at hlater
  obtain rfl := Option.some.inj hlater
  rfl

/-- A step of a confirmation that has not consumed its challenge changes nothing. -/
theorem unchanged_of_refused (hij : i < j) (hj : j ≤ H.length)
    (h : (H.state j).calls n = some call) (hconfirm : call.request.phase = .confirm)
    (hnot : ¬ ConsumedBefore H j n) (hown : callOf (H.event i) = some n) :
    (H.state (i + 1)).confirmations = (H.state i).confirmations ∧
      (H.state (i + 1)).store = (H.state i).store := by
  have hstep := step_at (H := H) (j := i) (by omega)
  constructor
  · rcases hstep.confirmations_cases with ⟨hsame, -⟩ | ⟨m, earlier, now, plan, binding, challenge,
      hevent, hstored, hphase, -, -⟩ | ⟨m, earlier, now, claims, plan, predicted, hevent, -, -, hnext, -, -⟩
    · exact hsame
    · rw [hevent] at hown
      obtain rfl : m = n := Option.some.inj hown
      have hpreview := preview_of_planned (by omega) hstored hphase
      rw [request_eq (by omega) hj hstored h, hconfirm] at hpreview
      cases hpreview
    · rw [hevent] at hown
      obtain rfl : m = n := Option.some.inj hown
      exact absurd ⟨i + 1, hij, _, now, claims, plan, predicted, hnext, rfl⟩ hnot
  · rcases hstep.store_cases with hsame | ⟨m, clock, earlier, now, claims, plan, predicted, hevent,
      hstored, hphase⟩ | ⟨other, hevent⟩
    · exact hsame
    · rw [hevent] at hown
      obtain rfl : m = n := Option.some.inj hown
      exact absurd ⟨i, by omega, earlier, now, claims, plan, predicted, hstored, hphase⟩ hnot
    · rw [hevent] at hown
      cases hown

/-- A step of a preview changes no draft, and reserves at most. -/
theorem unchanged_of_preview (hij : i < j) (hj : j ≤ H.length)
    (h : (H.state j).calls n = some call) (hpreview : call.request.phase = .preview)
    (hown : callOf (H.event i) = some n) :
    (H.state (i + 1)).store = (H.state i).store ∧
      ((H.state (i + 1)).confirmations = (H.state i).confirmations ∨
        ∃ challenge binding, H.event i = .reserve n (.ok challenge) ∧
          challenge ∉ (H.state i).challenges ∧
          (H.state (i + 1)).confirmations = (H.state i).confirmations.set challenge binding) := by
  have hstep := step_at (H := H) (j := i) (by omega)
  have hconfirms : ∀ {earlier : ProposalCall γ}, (H.state i).calls n = some earlier →
      earlier.request.phase ≠ .confirm := by
    intro earlier hstored hconfirm
    rw [request_eq (by omega) hj hstored h, hpreview] at hconfirm
    cases hconfirm
  constructor
  · rcases hstep.store_cases with hsame | ⟨m, clock, earlier, now, claims, plan, predicted, hevent,
      hstored, hphase⟩ | ⟨other, hevent⟩
    · exact hsame
    · rw [hevent] at hown
      obtain rfl : m = n := Option.some.inj hown
      exact absurd (confirm_of_consumed (by omega) hstored hphase) (hconfirms hstored)
    · rw [hevent] at hown
      cases hown
  · rcases hstep.confirmations_cases with ⟨hsame, -⟩ | ⟨m, earlier, now, plan, binding, challenge,
      hevent, hstored, hphase, hset, -⟩ | ⟨m, earlier, now, claims, plan, predicted, hevent, hstored, hphase,
      -, -, -⟩
    · exact .inl hsame
    · have hadmissible := (H.steps i (by omega)).1
      rw [hevent] at hown hadmissible
      obtain rfl : m = n := Option.some.inj hown
      exact .inr ⟨challenge, binding, hevent, hadmissible, hset⟩
    · rw [hevent] at hown
      obtain rfl : m = n := Option.some.inj hown
      exact absurd (confirm_of_matched (by omega) hstored hphase) (hconfirms hstored)

/-- A new draft passes its checks, and the predicted response is returned. -/
theorem checked_of_drafting (hC : DigestTexts P.service.contract) {clock : ClockReadings}
    {response : Response (Manifest γ)} (hj : j < H.length)
    (h : Drafting (H.state j) (H.event j) n clock call now claims plan predicted)
    (hfresh : (H.state j).store.receipts.get?
      (call.context.authentication.actor.actorId, call.request.idempotencyKey) = none)
    (hcreated : (perform P.service clock (createCall call plan) (H.state j).store).1 = .ok response) :
    ∃ draft, response = .draftRecord draft ∧
      P.checkDraft call.context.authentication.actor call.request plan draft = .ok () ∧
      (H.state (j + 1)).calls n = some { call with phase := .finished (.ok predicted) } := by
  obtain ⟨-, i, hi, -, -, hplan, -, hpredicted⟩ := matched_of_consumed (by omega) h.stored h.phase
  have hplanned := planProposal_ok hplan
  have hkeyed := keyedStore hC (store_reachable (H.reachable (i := i) (by omega)))
  obtain ⟨-, -, hworkload⟩ := hplanned.keyed hC hkeyed
  obtain ⟨-, hversion, -, -⟩ := applyPatch_ok hplanned.patched
  obtain ⟨created, rfl⟩ := created_of_perform hfresh hcreated
  have hchecked : P.checkDraft call.context.authentication.actor call.request plan
      (createdDraft call.context.authentication.actor
        (ProposalServer.createCommand call.request plan) created) = .ok () :=
    checkDraft_createdDraft hworkload hversion
  refine ⟨_, rfl, hchecked, ?_⟩
  rw [state_after hj, after_drafting h, createStep]
  simp only [ProposalState.withCall_self, hcreated, createdResponse, hchecked,
    ensureResponseBound_of_predicted hpredicted]
  rfl

end Runs

/-- An agent drafts what it has previewed. -/
theorem proposals_previewed (hC : DigestTexts P.service.contract)
    (H : History (proposalSystem P)) (hdistinct : DistinguishesPatches H) :
    ProposalGuarantees P H where
  drafted _ hj _ _ _ _ _ _ _ h := previewed_of_consumed hC hdistinct (by omega) h.stored h.phase
  once _ _ hij hj _ _ _ _ _ _ _ _ _ _ _ _ _ _ h h' := drafted_once hij hj h h'
  refused _ hj _ _ _ h _ hconfirm hnot _ hij hown := unchanged_of_refused hij hj h hconfirm hnot hown
  previewed _ hj _ _ h hpreview _ hij hown := unchanged_of_preview hij hj h hpreview hown
  firstTime _ hj _ _ _ _ _ _ _ _ h hfresh hcreated := checked_of_drafting hC hj h hfresh hcreated

end AthenaContext.ProposalCalls
