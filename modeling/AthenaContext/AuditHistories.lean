import AthenaContext.ReplayableMutations

/-!
# What an audit history is evidence of

The digest that ends the audit history of a store stands for the whole history. A log that passes
the verification and holds an event of that digest begins with the history: nothing before the
event was edited, dropped, inserted or moved.
-/

namespace AthenaContext.AuditHistories

open ContextRecords ContextStorage ContextMutations ContextCalls ReplayableMutations

/-! ## Parts of a chain -/

section Chain

variable {auditEventDigest : AuditEventDigest} {events others : List AuditEvent} {event : AuditEvent}
  {sequence : ℕ} {previous : Option String}

/-- What the walk checks of its last event. -/
theorem verifyAuditChainFrom_snoc
    (h : verifyAuditChainFrom auditEventDigest sequence previous (events ++ [event]) = .ok ()) :
    verifyAuditChainFrom auditEventDigest sequence previous events = .ok () ∧
      event.eventId = auditEventId (sequence + events.length) ∧
      event.sequence = sequence + events.length ∧
      event.previousEventDigest = (events.getLast?.map (·.eventDigest)).or previous := by
  induction events generalizing sequence previous with
  | nil =>
    obtain ⟨⟨hsequence, hid, hprevious, -⟩, -⟩ := verifyAuditChainFrom_cons.mp h
    exact ⟨rfl, hid, hsequence, hprevious⟩
  | cons first rest ih =>
    rw [List.cons_append] at h
    obtain ⟨hfirst, hrest⟩ := verifyAuditChainFrom_cons.mp h
    obtain ⟨hkept, hid, hsequence, hprevious⟩ := ih hrest
    have hlength : sequence + 1 + rest.length = sequence + (first :: rest).length := by
      rw [List.length_cons]
      omega
    rw [hlength] at hid hsequence
    refine ⟨verifyAuditChainFrom_cons.mpr ⟨hfirst, hkept⟩, hid, hsequence, ?_⟩
    rw [hprevious, List.getLast?_cons]
    cases rest.getLast? with
    | none => rfl
    | some last => rfl

/-- The first part of an intact chain is intact. -/
theorem verifyAuditChainFrom_left
    (h : verifyAuditChainFrom auditEventDigest sequence previous (events ++ others) = .ok ()) :
    verifyAuditChainFrom auditEventDigest sequence previous events = .ok () := by
  induction others using List.reverseRecOn with
  | nil =>
    rw [List.append_nil] at h
    exact h
  | append_singleton others event ih =>
    rw [← List.append_assoc] at h
    have hleft := (verifyAuditChainFrom_snoc h).1
    exact ih hleft

end Chain

/-! ## Histories of one head -/

/-- Events that stand for each other; their contents may differ in a spelling that is not digested. -/
structure SameEvent (same : PendingAuditEvent → PendingAuditEvent → Prop) (a b : AuditEvent) : Prop where
  pending : same a.toPendingAuditEvent b.toPendingAuditEvent
  sequence : a.sequence = b.sequence
  eventId : a.eventId = b.eventId
  previousEventDigest : a.previousEventDigest = b.previousEventDigest
  eventDigest : a.eventDigest = b.eventDigest

/-- The digests of two logs tell their events apart. -/
def TellsApart (same : PendingAuditEvent → PendingAuditEvent → Prop) (events others : List AuditEvent) :
    Prop :=
  ∀ a ∈ events, ∀ b ∈ others, a.eventDigest = b.eventDigest →
    same a.toPendingAuditEvent b.toPendingAuditEvent ∧ a.sequence = b.sequence ∧
      a.previousEventDigest = b.previousEventDigest

variable {same : PendingAuditEvent → PendingAuditEvent → Prop}

/-- Intact logs of one head are one log. -/
theorem sameEvents_of_head {auditEventDigest : AuditEventDigest} {events others : List AuditEvent}
    (hapart : TellsApart same events others) (h : verifyAuditChain auditEventDigest events = .ok ())
    (hother : verifyAuditChain auditEventDigest others = .ok ())
    (hhead : events.getLast?.map (·.eventDigest) = others.getLast?.map (·.eventDigest)) :
    List.Forall₂ (SameEvent same) events others := by
  -- from the last event back: its digest binds the digest before it
  induction events using List.reverseRecOn generalizing others with
  | nil =>
    cases others with
    | nil => exact .nil
    | cons first rest => simp [List.getLast?_cons] at hhead
  | append_singleton events event ih =>
    rcases others.eq_nil_or_concat' with rfl | ⟨rest, last, rfl⟩
    · simp at hhead
    · have hdigest : event.eventDigest = last.eventDigest := by simpa using hhead
      obtain ⟨hkept, hid, hsequence, hprevious⟩ := verifyAuditChainFrom_snoc h
      obtain ⟨hkept', hid', hsequence', hprevious'⟩ := verifyAuditChainFrom_snoc hother
      obtain ⟨hpending, hplace, hbefore⟩ := hapart event (by simp) last (by simp) hdigest
      have hrest : List.Forall₂ (SameEvent same) events rest := by
        refine ih (fun a ha b hb => ?_) hkept hkept' ?_
        · exact hapart a (List.mem_append_left _ ha) b (List.mem_append_left _ hb)
        · rw [Option.or_none] at hprevious hprevious'
          exact hprevious.symm.trans (hbefore.trans hprevious')
      have hname : event.eventId = last.eventId := by
        rw [hid, hid', ← hsequence, ← hsequence', hplace]
      exact List.rel_append hrest (.cons ⟨hpending, hplace, hname, hbefore, hdigest⟩ .nil)

/-! ## Over a run -/

variable {γ δ R : Type} {S : ContextService γ δ R} {s : Store γ δ R}

/-- The audit history of a store passes the verification. -/
theorem verified_of_reachable (h : (contextSystem S).Reachable s) :
    verifyAuditChain S.auditEventDigest s.audit = .ok () := by
  induction h with
  | start hinit =>
    obtain ⟨others, rfl⟩ := hinit
    rfl
  | next hreach hstep ih =>
    rw [hstep]
    exact (storeAfter_keeps hreach _).2 ih

/-- A log that passes the verification, and that holds an event with the digest that ends the audit
history of a store, begins with that history. -/
theorem audit_tamper_evident {log : List AuditEvent} {event : AuditEvent}
    (h : (contextSystem S).Reachable s) (hapart : TellsApart same s.audit log)
    (hlog : verifyAuditChain S.auditEventDigest log = .ok ()) (hevent : event ∈ log)
    (hhead : s.audit.getLast?.map (·.eventDigest) = some event.eventDigest) :
    ∃ kept rest, log = kept ++ rest ∧ List.Forall₂ (SameEvent same) s.audit kept := by
  obtain ⟨before, rest, rfl⟩ := List.append_of_mem hevent
  rw [List.append_cons] at hapart hlog ⊢
  have hkept : verifyAuditChain S.auditEventDigest (before ++ [event]) = .ok () :=
    verifyAuditChainFrom_left hlog
  refine ⟨before ++ [event], rest, rfl, sameEvents_of_head (fun a ha b hb => ?_)
    (verified_of_reachable h) hkept ?_⟩
  · exact hapart a ha b (List.mem_append_left _ hb)
  · simpa using hhead

/-- The store after the first release of `orders`. -/
def firstRelease : Store ℕ ℕ Unit := runEvents plainService (.empty ()) (ordersReleases.take 8)

/-- The history of both releases. -/
def releasesLog : List AuditEvent := (runEvents plainService (.empty ()) ordersReleases).audit

theorem audit_tamper_evident_orders :
    firstRelease.audit.length = 6 ∧ releasesLog.length = 13 ∧ ∃ kept rest,
      releasesLog = kept ++ rest ∧ List.Forall₂ (SameEvent Eq) firstRelease.audit kept := by
  have hreach : (contextSystem plainService).Reachable firstRelease :=
    reachable_runEvents _ (.start ⟨(), rfl⟩)
  have hlog : verifyAuditChain plainService.auditEventDigest releasesLog = .ok () :=
    verified_of_reachable (reachable_runEvents _ (.start ⟨(), rfl⟩))
  have hapart : TellsApart Eq firstRelease.audit releasesLog := by
    unfold TellsApart
    decide +kernel
  have hhead : releasesLog.any (fun event =>
      firstRelease.audit.getLast?.map (·.eventDigest) = some event.eventDigest) = true := by
    decide +kernel
  obtain ⟨event, hevent, hdigest⟩ := List.any_eq_true.mp hhead
  exact ⟨by decide +kernel, by decide +kernel,
    audit_tamper_evident hreach hapart hlog hevent (of_decide_eq_true hdigest)⟩

end AthenaContext.AuditHistories
