import AthenaContext.ContextCalls
import AthenaContext.EvaluationCommits
import AthenaContext.VersionedReads

/-!
# Authority over a history

How a transaction may change what an evaluation reads: an approval and a key are replaced
under a later revision, grants under a revision of their own, versions and supersessions are
written once. Two stores of one history in which the tokens of an evaluation agree then hold
the same records, and so does every store between them.
-/

namespace AthenaContext.EvaluationPublication

open Dictionaries FallibleResults Transactions VersionedReads
open ContextRecords ContextStorage ContextMutations ContextTransitions ContextCalls
open EvaluationRecords EvaluationAuthority EvaluationAdministration
open EvaluationAuthority.EvaluationService

variable {γ δ : Type} {E : EvidenceTypes} {S : EvaluationService γ δ E}
  {s t u : EvaluationStore γ δ E}

/-- What one transaction may do to the records that evaluations read. -/
structure AuthorityChange (s t : EvaluationStore γ δ E) : Prop where
  approvals : ∀ {id a}, s.others.demoEvaluationApprovals.get? id = some a →
    ∃ b, t.others.demoEvaluationApprovals.get? id = some b ∧ (b = a ∨ a.revision < b.revision)
  keys : ∀ {id a}, s.others.demoEvaluationTrustedKeys.get? id = some a →
    ∃ b, t.others.demoEvaluationTrustedKeys.get? id = some b ∧ (b = a ∨ a.revision < b.revision)
  grantRevision : s.others.evaluationGrantRevision ≤ t.others.evaluationGrantRevision
  grants : s.others.evaluationGrantRevision = t.others.evaluationGrantRevision →
    s.others.evaluationGrants = t.others.evaluationGrants
  published : ∀ {key p}, s.published.get? key = some p → t.published.get? key = some p
  supersessions : ∀ {key p}, s.supersessions.get? key = some p → t.supersessions.get? key = some p

/-- A transaction that leaves the evaluations. -/
structure AuthorityStep (s t : EvaluationStore γ δ E) : Prop where
  change : AuthorityChange s t
  receipts : t.others.evaluationReceipts = s.others.evaluationReceipts
  artifacts : t.others.evaluationArtifacts = s.others.evaluationArtifacts

/-- The records of an authority: an approval, the grants, a version with its supersession, and
a key. -/
structure SameAuthority (command : DemoEvaluationCommand) (keyId : String)
    (s t : EvaluationStore γ δ E) : Prop where
  approval : s.others.demoEvaluationApprovals.get? command.approvalDecisionId =
    t.others.demoEvaluationApprovals.get? command.approvalDecisionId
  grants : s.others.evaluationGrants = t.others.evaluationGrants
  grantRevision : s.others.evaluationGrantRevision = t.others.evaluationGrantRevision
  published : s.published.get? (command.manifestId, command.manifestVersion) =
    t.published.get? (command.manifestId, command.manifestVersion)
  supersession : s.supersessions.get? (command.manifestId, command.manifestVersion) =
    t.supersessions.get? (command.manifestId, command.manifestVersion)
  trustedKey : s.others.demoEvaluationTrustedKeys.get? keyId =
    t.others.demoEvaluationTrustedKeys.get? keyId

/-! ## Versions of the records -/

theorem changesUnder_approval (id : String) :
    ChangesUnder (AuthorityChange (γ := γ) (δ := δ) (E := E))
      (fun s => revisionOf DemoEvaluationApproval.revision
        (s.others.demoEvaluationApprovals.get? id))
      (fun s => s.others.demoEvaluationApprovals.get? id) :=
  changesUnder_revision fun h => h.approvals

theorem changesUnder_key (id : String) :
    ChangesUnder (AuthorityChange (γ := γ) (δ := δ) (E := E))
      (fun s => revisionOf EvaluationTrustedKeyAuthority.revision
        (s.others.demoEvaluationTrustedKeys.get? id))
      (fun s => s.others.demoEvaluationTrustedKeys.get? id) :=
  changesUnder_revision fun h => h.keys

theorem changesUnder_grants :
    ChangesUnder (AuthorityChange (γ := γ) (δ := δ) (E := E))
      (fun s => s.others.evaluationGrantRevision) (fun s => s.others.evaluationGrants) where
  mono h := h.grantRevision
  kept h hversion := h.grants hversion

theorem changesUnder_published (key : String × ManifestVersion) :
    ChangesUnder (AuthorityChange (γ := γ) (δ := δ) (E := E))
      (fun s => presence (s.published.get? key)) (fun s => s.published.get? key) :=
  changesUnder_presence fun h => h.published

theorem changesUnder_supersession (key : String × ManifestVersion) :
    ChangesUnder (AuthorityChange (γ := γ) (δ := δ) (E := E))
      (fun s => presence (s.supersessions.get? key)) (fun s => s.supersessions.get? key) :=
  changesUnder_presence fun h => h.supersessions

/-- Two reads of one token have read the same records, and so has every store between. -/
theorem sameAuthority_between {command : DemoEvaluationCommand} {anchor : TrustedKeyAnchor}
    {reader reader' : Actor} {v w : ValidatedAuthority γ E}
    (hsu : Relation.ReflTransGen AuthorityChange s u)
    (hut : Relation.ReflTransGen AuthorityChange u t)
    (hs : UnitOfWork.AuthorityRead ⟨S, s, reader⟩ command anchor v)
    (ht : UnitOfWork.AuthorityRead ⟨S, t, reader'⟩ command anchor w) (htoken : v.token = w.token) :
    SameAuthority command anchor.keyVaultKeyId u s := by
  have happroval : revisionOf DemoEvaluationApproval.revision
        (s.others.demoEvaluationApprovals.get? command.approvalDecisionId) =
      revisionOf DemoEvaluationApproval.revision
        (t.others.demoEvaluationApprovals.get? command.approvalDecisionId) := by
    have hrevision : v.approval.revision = w.approval.revision := by
      rw [← hs.approvalRevision, ← ht.approvalRevision, htoken]
    rw [hs.approval, ht.approval]
    exact congrArg (WithBot.some) hrevision
  have hgrants : s.others.evaluationGrantRevision = t.others.evaluationGrantRevision := by
    rw [← hs.grantRevision, ← ht.grantRevision, htoken]
  have hkey : revisionOf EvaluationTrustedKeyAuthority.revision
        (s.others.demoEvaluationTrustedKeys.get? anchor.keyVaultKeyId) =
      revisionOf EvaluationTrustedKeyAuthority.revision
        (t.others.demoEvaluationTrustedKeys.get? anchor.keyVaultKeyId) := by
    obtain ⟨key, hfound, hrevision⟩ := hs.trustedKey
    obtain ⟨key', hfound', hrevision'⟩ := ht.trustedKey
    rw [hfound, hfound']
    refine congrArg (WithBot.some) ?_
    rw [← hrevision, ← hrevision', htoken]
  have hpublished : presence (s.published.get? (command.manifestId, command.manifestVersion)) =
      presence (t.published.get? (command.manifestId, command.manifestVersion)) := by
    rw [hs.published, ht.published]
    rfl
  have hsupersession :
      presence (s.supersessions.get? (command.manifestId, command.manifestVersion)) =
        presence (t.supersessions.get? (command.manifestId, command.manifestVersion)) := by
    rw [hs.supersession, ht.supersession]
  have hmiddle := changesUnder_grants.le_of_run hsu
  have hback := changesUnder_grants.le_of_run hut
  exact
    { approval := (changesUnder_approval _).eq_between hsu hut happroval
      grants := changesUnder_grants.eq_between hsu hut hgrants
      grantRevision := by omega
      published := (changesUnder_published _).eq_between hsu hut hpublished
      supersession := (changesUnder_supersession _).eq_between hsu hut hsupersession
      trustedKey := (changesUnder_key _).eq_between hsu hut hkey }

/-! ## Transactions -/

theorem AuthorityChange.of_same (happrovals : t.others.demoEvaluationApprovals =
      s.others.demoEvaluationApprovals)
    (hkeys : t.others.demoEvaluationTrustedKeys = s.others.demoEvaluationTrustedKeys)
    (hrevision : t.others.evaluationGrantRevision = s.others.evaluationGrantRevision)
    (hgrants : t.others.evaluationGrants = s.others.evaluationGrants)
    (hpublished : ∀ {key p}, s.published.get? key = some p → t.published.get? key = some p)
    (hsupersessions : ∀ {key p}, s.supersessions.get? key = some p →
      t.supersessions.get? key = some p) : AuthorityChange s t where
  approvals {id a} h := by
    rw [happrovals]
    exact ⟨a, h, .inl rfl⟩
  keys {id a} h := by
    rw [hkeys]
    exact ⟨a, h, .inl rfl⟩
  grantRevision := hrevision.ge
  grants _ := hgrants.symm
  published := hpublished
  supersessions := hsupersessions

theorem AuthorityStep.refl : AuthorityStep s s :=
  ⟨.of_same rfl rfl rfl rfl id id, rfl, rfl⟩

/-- A record that is written where there is none, or over one of a lower revision. -/
theorem get?_set_revision {α : Type} {d : Dictionary String α} {revision : α → ℕ} {key id : String}
    {new a : α} (hnew : ∀ old, d.get? key = some old → revision old < revision new)
    (h : d.get? id = some a) :
    ∃ b, (d.set key new).get? id = some b ∧ (b = a ∨ revision a < revision b) := by
  rw [Dictionary.get?_set]
  by_cases hid : id = key
  · subst hid
    exact ⟨new, if_pos rfl, .inr (hnew a h)⟩
  · rw [if_neg hid]
    exact ⟨a, h, .inl rfl⟩

/-- A new evaluation leaves the authority. -/
theorem authorityChange_withEvaluation (artifact : StoredEvaluation E) :
    AuthorityChange s (withEvaluation s artifact) :=
  .of_same rfl rfl rfl rfl id id

/-- A lifecycle step writes versions and supersessions once. -/
theorem lifecycleStep_writesOnce {R : Type} {service : ContextService γ δ R} {s t : Store γ δ R}
    (h : LifecycleStep service s t) :
    (∀ {key p}, s.published.get? key = some p → t.published.get? key = some p) ∧
      ∀ {key p}, s.supersessions.get? key = some p → t.supersessions.get? key = some p := by
  cases h with
  | created actor command now fresh digest writes =>
    rw [writes.published_eq, writes.supersessions_eq]
    exact ⟨id, id⟩
  | changed draftId current updated stored change writes =>
    rw [writes.published_eq, writes.supersessions_eq]
    exact ⟨id, id⟩
  | published draftId current actor command candidate approval receipt now stored state isCandidate
      authoritative receiptStored authorizes free lineage writes =>
    rw [writes.published_eq, writes.supersessions_eq]
    refine ⟨fun {key p} hp => ?_, id⟩
    have hne : key ≠ (current.manifestId, current.manifest.manifestVersion) := by
      rintro rfl
      rw [free] at hp
      cases hp
    rw [Dictionary.get?_set_of_ne hne]
    exact hp
  | superseded actor manifestId supersededVersion replacementVersion published replacement source
      reason relation now stored sourceStored state unsuperseded replacementStored successor relates
      writes =>
    rw [writes.published_eq, writes.supersessions_eq]
    refine ⟨id, fun {key p} hp => ?_⟩
    have hne : key ≠ (manifestId, supersededVersion) := by
      rintro rfl
      rw [unsuperseded] at hp
      cases hp
    rw [Dictionary.get?_set_of_ne hne]
    exact hp
  | receiptIssued receipt fresh issued =>
    subst issued
    exact ⟨id, id⟩
  | unchanged drafts_eq published_eq supersessions_eq operational_eq =>
    rw [published_eq, supersessions_eq]
    exact ⟨id, id⟩

/-- A call to the context service publishes and supersedes at most. -/
theorem authorityStep_perform {service : ContextService γ δ (EvaluationTables E)}
    (clock : ClockReadings) (c : Call (Manifest γ)) :
    AuthorityStep s (perform service clock c s).2 := by
  have hothers := perform_others (S := service) (s := s) clock c
  obtain ⟨v, w, hsv, hvw, hwt⟩ := perform_lifecycleChange (S := service) (s := s) clock c
  refine ⟨.of_same (by rw [hothers]) (by rw [hothers]) (by rw [hothers]) (by rw [hothers]) ?_ ?_,
    by rw [hothers], by rw [hothers]⟩
  · intro key p hp
    rw [hwt.published_eq]
    rw [← hsv.published_eq] at hp
    rcases hvw with hstep | rfl
    · exact (lifecycleStep_writesOnce hstep).1 hp
    · exact hp
  · intro key p hp
    rw [hwt.supersessions_eq]
    rw [← hsv.supersessions_eq] at hp
    rcases hvw with hstep | rfl
    · exact (lifecycleStep_writesOnce hstep).2 hp
    · exact hp

theorem returns_putApproval {approval : DemoEvaluationApproval} {expected : Option ℕ} {r : Unit}
    (h : Returns (putApproval approval expected) s r t) :
    putApprovalCheck approval.decisionId
        (s.others.demoEvaluationApprovals.get? approval.decisionId) expected = .ok () ∧
      t = withTables s { s.others with
        demoEvaluationApprovals :=
          s.others.demoEvaluationApprovals.set approval.decisionId approval } := by
  simp only [putApproval, returns_bind, returns_reading, returns_checked, returns_writing, id] at h
  obtain ⟨_, _, ⟨rfl, rfl⟩, _, _, ⟨hcheck, rfl⟩, rfl⟩ := h
  exact ⟨hcheck, rfl⟩

/-- The audit event and the receipt of an approval leave the authority. -/
theorem returns_recordApproval {actor : Actor} {key operation digest reason : String}
    {action : AuditAction} {previous : Option ℕ} {occurredAt : Timestamp}
    {approval : DemoEvaluationApproval} {r : Unit}
    (h : Returns (recordApproval S actor key operation digest reason action previous occurredAt
      approval) s r t) :
    t.others = s.others ∧ t.published = s.published ∧ t.supersessions = s.supersessions := by
  simp only [recordApproval, returns_bind, returns_adapting, returns_putReceipt] at h
  obtain ⟨_, u, haudit, -, rfl⟩ := h
  obtain ⟨_, -, -, rfl⟩ := returns_appendAudit haudit
  exact ⟨rfl, rfl, rfl⟩

/-- An approval that is written over none, or over one of a lower revision. -/
theorem authorityStep_putApproval {approval : DemoEvaluationApproval}
    (hnew : ∀ old, s.others.demoEvaluationApprovals.get? approval.decisionId = some old →
      old.revision < approval.revision)
    (hothers : t.others = { s.others with
      demoEvaluationApprovals :=
        s.others.demoEvaluationApprovals.set approval.decisionId approval })
    (hpublished : t.published = s.published) (hsupersessions : t.supersessions = s.supersessions) :
    AuthorityStep s t where
  change :=
    { approvals := fun h => by
        rw [hothers]
        exact get?_set_revision hnew h
      keys := fun {id a} h => by
        rw [hothers]
        exact ⟨a, h, .inl rfl⟩
      grantRevision := by rw [hothers]
      grants := fun _ => by rw [hothers]
      published := fun h => hpublished ▸ h
      supersessions := fun h => hsupersessions ▸ h }
  receipts := by rw [hothers]
  artifacts := by rw [hothers]

theorem authorityStep_createApproval {clock : Outcome Timestamp} {actor : Actor} {key : String}
    {command : CreateDemoEvaluationApprovalCommand} {a : DemoEvaluationApproval}
    (h : Returns (createApproval S clock actor key command) s a t) : AuthorityStep s t := by
  simp only [createApproval, returns_bind, returns_checked, returns_reading] at h
  obtain ⟨digest, _, ⟨-, rfl⟩, _, _, ⟨rfl, rfl⟩, _, _, ⟨-, rfl⟩, h⟩ := h
  split at h
  · obtain ⟨-, rfl⟩ := returns_checked.mp h
    exact .refl
  · simp only [createNewApproval, returns_bind, returns_checked, returns_reading, returns_pure] at h
    obtain ⟨_, _, ⟨-, rfl⟩, _, _, ⟨-, rfl⟩, _, _, ⟨rfl, rfl⟩, approval, _, ⟨-, rfl⟩, _, u, hput, _,
      w, hrecord, rfl, rfl⟩ := h
    obtain ⟨hcheck, rfl⟩ := returns_putApproval hput
    obtain ⟨hothers, hpublished, hsupersessions⟩ := returns_recordApproval hrecord
    refine authorityStep_putApproval (fun old hold => ?_) hothers hpublished hsupersessions
    simp only [hold, putApprovalCheck] at hcheck
    cases hcheck

theorem authorityStep_revokeApproval {clock : Outcome Timestamp} {actor : Actor}
    {decisionId key : String} {command : RevokeDemoEvaluationApprovalCommand}
    {a : DemoEvaluationApproval}
    (h : Returns (revokeApproval S clock actor decisionId key command) s a t) :
    AuthorityStep s t := by
  simp only [revokeApproval, returns_bind, returns_checked, returns_reading, returns_orRaise] at h
  obtain ⟨_, _, ⟨rfl, rfl⟩, current, _, ⟨-, rfl⟩, _, _, ⟨-, rfl⟩, digest, _, ⟨-, rfl⟩, h⟩ := h
  split at h
  · obtain ⟨-, rfl⟩ := returns_checked.mp h
    exact .refl
  · simp only [revokeCurrentApproval, returns_bind, returns_checked, returns_raiseIf,
      returns_pure] at h
    obtain ⟨_, _, ⟨-, rfl⟩, revokedAt, _, ⟨-, rfl⟩, _, _, ⟨-, rfl⟩, _, _, ⟨-, rfl⟩, _, u, hput, _,
      w, hrecord, rfl, rfl⟩ := h
    obtain ⟨hcheck, rfl⟩ := returns_putApproval hput
    obtain ⟨hothers, hpublished, hsupersessions⟩ := returns_recordApproval hrecord
    refine authorityStep_putApproval (fun old hold => ?_) hothers hpublished hsupersessions
    have hrevision : old.revision = current.revision := by
      simp only [hold, putApprovalCheck, ite_error_ok_iff, not_not, ne_eq] at hcheck
      exact hcheck.1
    rw [hrevision]
    exact Nat.lt_succ_self _

theorem authorityStep_replaceGrants {actor : Actor} {grants : List RoleGrant} {expected : ℕ}
    {r : Unit} (h : Returns (replaceGrants S actor grants expected) s r t) :
    AuthorityStep s t := by
  simp only [replaceGrants, returns_bind, returns_checked, returns_reading, returns_raiseIf,
    returns_writing] at h
  obtain ⟨_, _, ⟨-, rfl⟩, _, _, ⟨rfl, rfl⟩, _, _, ⟨-, rfl⟩, rfl⟩ := h
  refine ⟨?_, rfl, rfl⟩
  exact
    { approvals := fun {_ a} h => ⟨a, h, .inl rfl⟩
      keys := fun {_ a} h => ⟨a, h, .inl rfl⟩
      grantRevision := Nat.le_succ _
      grants := fun h => absurd h (Nat.succ_ne_self _).symm
      published := id
      supersessions := id }

theorem authorityStep_putTrustedKey {actor : Actor} {authority : EvaluationTrustedKeyAuthority}
    {expected : ℕ} {r : Unit} (h : Returns (putTrustedKey S actor authority expected) s r t) :
    AuthorityStep s t := by
  simp only [putTrustedKey, returns_bind, returns_checked, returns_reading, returns_raiseIf,
    returns_writing] at h
  obtain ⟨_, _, ⟨-, rfl⟩, _, _, ⟨-, rfl⟩, _, _, ⟨-, rfl⟩, _, _, ⟨rfl, rfl⟩, _, _, ⟨hcheck, rfl⟩,
    rfl⟩ := h
  have hnew : ∀ old, s.others.demoEvaluationTrustedKeys.get?
      authority.record.anchor.keyVaultKeyId = some old → old.revision < authority.revision := by
    intro old hold
    simp only [id, hold, putTrustedKeyCheck, ite_error_ok_iff, not_not, ne_eq] at hcheck
    obtain ⟨hcurrent, hnext, -⟩ := hcheck
    omega
  refine ⟨?_, rfl, rfl⟩
  exact
    { approvals := fun {_ a} h => ⟨a, h, .inl rfl⟩
      keys := fun h => get?_set_revision hnew h
      grantRevision := le_refl _
      grants := fun _ => rfl
      published := id
      supersessions := id }

/-- A transaction changes the authority as its computation does, or not at all. -/
theorem AuthorityStep.of_transaction {α : Type} {x : EvaluationTransaction γ δ E α}
    (h : ∀ a t, Returns x s a t → AuthorityStep s t) :
    AuthorityStep s (transaction x s).2 := by
  rcases transaction_cases x s with ⟨a, t, hreturns, heq⟩ | ⟨e, heq⟩
  · rw [heq]
    exact h a t hreturns
  · rw [heq]
    exact .refl

end AthenaContext.EvaluationPublication
