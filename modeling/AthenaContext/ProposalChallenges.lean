import AthenaContext.ProposalHistories

/-!
# One-time challenges

A challenge is open, or consumed by one call, or spent; once it is spent it stays so. With its
draft a call spends its challenge.
-/

namespace AthenaContext.ProposalCalls

open Dictionaries
open ContextRecords ContextMutations PatchProposals

variable {γ R : Type} {P : ProposalServer γ R} {s t : ProposalState γ R}
  {event : ProposalEvent γ R} {n m : ℕ} {c : String}

/-- A call has consumed a challenge, and has not called `create_draft` yet. -/
def Consuming (s : ProposalState γ R) (n : ℕ) (c : String) : Prop :=
  ∃ call now claims plan predicted, s.calls n = some call ∧
    call.phase = .consumed now claims plan predicted ∧ claims.challengeId = c

/-- The states that a challenge goes through. -/
structure OneUse (s : ProposalState γ R) : Prop where
  known : ∀ {c binding}, s.confirmations.get? c = some binding → c ∈ s.challenges
  consuming : ∀ {n c}, Consuming s n c → c ∈ s.challenges ∧ s.confirmations.get? c = none
  unique : ∀ {n m c}, Consuming s n c → Consuming s m c → n = m

/-- No call can consume a challenge any more. -/
structure Spent (c : String) (s : ProposalState γ R) : Prop where
  known : c ∈ s.challenges
  closed : s.confirmations.get? c = none
  unused : ∀ n, ¬ Consuming s n c

/-- A call that is consuming a challenge was already, or has just taken it from the store. -/
theorem ProposalStep.consuming (h : ProposalStep P s event t) (hc : Consuming t n c) :
    Consuming s n c ∨ event = .consume n ∧ (∃ binding, s.confirmations.get? c = some binding) ∧
      t.confirmations = s.confirmations.erase c := by
  obtain ⟨call, now, claims, plan, predicted, hcall, hphase, rfl⟩ := hc
  by_cases hbefore : s.calls n = some call
  · exact .inl ⟨call, now, claims, plan, predicted, hbefore, hphase, rfl⟩
  · have hentered := h.entered hbefore hcall
    rw [hphase] at hentered
    obtain ⟨hevent, -, hopen, -, herased⟩ := hentered
    exact .inr ⟨hevent, ⟨_, hopen⟩, herased⟩

/-- A challenge that was issued is never issued again, and stays closed. -/
theorem ProposalStep.closed (h : ProposalStep P s event t) (hadmissible : Admissible s event)
    (hknown : c ∈ s.challenges) (hclosed : s.confirmations.get? c = none) :
    c ∈ t.challenges ∧ t.confirmations.get? c = none := by
  rcases h.confirmations_cases with ⟨hsame, hissued⟩ | ⟨k, call, now, plan, binding, challenge, hevent,
    -, -, hset, hissued⟩ | ⟨k, call, now, claims, plan, predicted, -, -, -, -, herased, hissued⟩
  · rw [hsame, hissued]
    exact ⟨hknown, hclosed⟩
  · rw [hevent] at hadmissible
    have hne : c ≠ challenge := by
      rintro rfl
      exact hadmissible hknown
    rw [hset, hissued, Dictionary.get?_set_of_ne hne]
    exact ⟨List.mem_cons_of_mem _ hknown, hclosed⟩
  · rw [herased, hissued, Dictionary.get?_erase, hclosed, ite_self]
    exact ⟨hknown, rfl⟩

theorem OneUse.step (h : OneUse s) (hadmissible : Admissible s event)
    (hstep : ProposalStep P s event t) : OneUse t where
  known {c binding} hfound := by
    rcases hstep.confirmations_cases with ⟨hsame, hissued⟩ | ⟨k, call, now, plan, other, challenge, -,
      -, -, hset, hissued⟩ | ⟨k, call, now, claims, plan, predicted, -, -, -, -, herased, hissued⟩
    · rw [hsame] at hfound
      rw [hissued]
      exact h.known hfound
    · rw [hset, Dictionary.get?_set] at hfound
      rw [hissued]
      split at hfound
      · next heq => exact heq ▸ List.mem_cons_self
      · exact List.mem_cons_of_mem _ (h.known hfound)
    · rw [herased, Dictionary.get?_erase, Option.ite_none_left_eq_some] at hfound
      rw [hissued]
      exact h.known hfound.2
  consuming {n c} hc := by
    rcases hstep.consuming hc with hbefore | ⟨hevent, ⟨binding, hopen⟩, herased⟩
    · obtain ⟨hknown, hclosed⟩ := h.consuming hbefore
      exact hstep.closed hadmissible hknown hclosed
    · have hknown := h.known hopen
      refine ⟨?_, by rw [herased, Dictionary.get?_erase, if_pos rfl]⟩
      rcases hstep.confirmations_cases with ⟨-, hissued⟩ | ⟨k, call, now, plan, other, challenge, -, -,
        -, -, hissued⟩ | ⟨k, call, now, claims, plan, predicted, -, -, -, -, -, hissued⟩
      · exact hissued ▸ hknown
      · exact hissued ▸ List.mem_cons_of_mem _ hknown
      · exact hissued ▸ hknown
  unique {n m c} hn hm := by
    have hexclusive : ∀ {n m}, Consuming s n c →
        (∃ binding, s.confirmations.get? c = some binding) → n = m := by
      rintro n m hbefore ⟨binding, hopen⟩
      rw [(h.consuming hbefore).2] at hopen
      cases hopen
    rcases hstep.consuming hn with hn | ⟨hevent, hopen, -⟩
    · rcases hstep.consuming hm with hm | ⟨-, hopen, -⟩
      · exact h.unique hn hm
      · exact hexclusive hn hopen
    · rcases hstep.consuming hm with hm | ⟨hevent', -, -⟩
      · exact (hexclusive hm hopen).symm
      · exact ProposalEvent.consume.inj (hevent.symm.trans hevent')

/-- Every challenge of a reachable state is used once at most. -/
theorem oneUse (h : (proposalSystem P).Reachable s) : OneUse s := by
  refine h.invariant ?_ fun s event t _ hs hstep => hs.step hstep.1 (proposalStep_of_step hstep)
  rintro s ⟨-, hconfirmations, -, -, hnone⟩
  have hidle : ∀ {n c}, ¬ Consuming s n c := by
    rintro n c ⟨call, _, _, _, _, hcall, -⟩
    rw [hnone n] at hcall
    cases hcall
  refine ⟨fun hfound => ?_, fun hc => absurd hc hidle, fun hc => absurd hc hidle⟩
  rw [hconfirmations] at hfound
  cases hfound

/-- A spent challenge stays spent. -/
theorem Spent.step (h : Spent c s) (hadmissible : Admissible s event)
    (hstep : ProposalStep P s event t) : Spent c t := by
  obtain ⟨hknown, hclosed⟩ := hstep.closed hadmissible h.known h.closed
  refine ⟨hknown, hclosed, fun n hc => ?_⟩
  rcases hstep.consuming hc with hbefore | ⟨-, ⟨binding, hopen⟩, -⟩
  · exact h.unused n hbefore
  · rw [h.closed] at hopen
    cases hopen

/-- The draft of a call spends its challenge. -/
theorem spent_of_createDraft {clock : ClockReadings} {call : ProposalCall γ} {now : Timestamp}
    {claims : ConfirmationClaims} {plan : ProposalPlan γ} {predicted : ManifestPatchOutput}
    (h : OneUse s) (hcall : s.calls n = some call)
    (hphase : call.phase = .consumed now claims plan predicted) :
    Spent claims.challengeId (createStep P s n call plan predicted clock) := by
  have hconsuming : Consuming s n claims.challengeId :=
    ⟨call, now, claims, plan, predicted, hcall, hphase, rfl⟩
  obtain ⟨hknown, hclosed⟩ := h.consuming hconsuming
  refine ⟨hknown, hclosed, fun m hm => ?_⟩
  obtain ⟨other, now', claims', plan', predicted', hother, hphase', hsame⟩ := hm
  rcases ProposalState.calls_withCall hother with ⟨rfl, rfl⟩ | ⟨hne, hbefore⟩
  · cases hphase'
  · exact hne (h.unique ⟨other, now', claims', plan', predicted', hbefore, hphase', hsame⟩ hconsuming)

end AthenaContext.ProposalCalls
