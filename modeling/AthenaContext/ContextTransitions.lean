import AthenaContext.ContextMutations

/-!
# What a mutation changes

One lemma for each mutation of the context service: from a mutation that returned,
the state and the records it found, and the records it wrote. The mutations of a
draft that exists share one shape, which the lifecycle step below collects; every
invariant of the lifecycle is derived from that step alone.
-/

namespace AthenaContext.ContextTransitions

open ContextRecords ContextStorage ContextMutations Dictionaries Transactions
open ContextMutations.ContextService

variable {γ δ R : Type} {S : ContextService γ δ R} {s t : Store γ δ R}

/-! ## The checks that a mutation shares with others -/

theorem returns_requireDraft {draftId : String} {draft : Draft γ} :
    Returns (requireDraft draftId) s draft t ↔ s.drafts.get? draftId = some draft ∧ s = t := by
  simp only [requireDraft, returns_bind, returns_getDraft, returns_orRaise]
  constructor
  · rintro ⟨_, _, ⟨hd, rfl⟩, rfl, rfl⟩
    exact ⟨hd, rfl⟩
  · rintro ⟨hd, rfl⟩
    exact ⟨_, _, ⟨hd, rfl⟩, rfl, rfl⟩

theorem returns_requirePublished {manifestId : String} {manifestVersion : ManifestVersion}
    {published : PublishedManifest (Manifest γ)} :
    Returns (requirePublished manifestId manifestVersion) s published t ↔
      s.published.get? (manifestId, manifestVersion) = some published ∧ s = t := by
  simp only [requirePublished, returns_bind, returns_getPublished, returns_orRaise]
  constructor
  · rintro ⟨_, _, ⟨hd, rfl⟩, rfl, rfl⟩
    exact ⟨hd, rfl⟩
  · rintro ⟨hd, rfl⟩
    exact ⟨_, _, ⟨hd, rfl⟩, rfl, rfl⟩

theorem requireState_ok {draft : Draft γ} {required : DraftState}
    (h : requireState draft required = .ok ()) : draft.state = required := by
  by_contra hne
  simp [requireState, hne] at h

/-- A lifecycle check may capture a missing selector baseline, and nothing else. -/
theorem returns_requireSelectorBaseline {current : Draft γ} {baseline : DraftSelectorBaseline}
    (h : Returns (S.requireSelectorBaseline current) s baseline t) :
    ∃ baselines, t = { s with draftSelectorBaselines := baselines } := by
  simp only [requireSelectorBaseline, getDraftSelectorBaseline, returns_bind, returns_reading,
    returns_raiseIf, returns_checked, returns_pure] at h
  obtain ⟨stored, _, ⟨hs, rfl⟩, found, u, hf, _, _, ⟨-, rfl⟩, _, _, ⟨rfl, rfl⟩, _, _, ⟨-, rfl⟩, -,
    rfl⟩ := h
  cases stored with
  | some b =>
    obtain ⟨_, hu⟩ := returns_pure.mp hf
    exact ⟨s.draftSelectorBaselines, hu ▸ rfl⟩
  | none =>
    simp only [storedOrBackfilledBaseline, returns_bind, returns_reading, returns_checked,
      returns_putDraftSelectorBaseline, returns_pure] at hf
    obtain ⟨_, _, ⟨rfl, rfl⟩, _, _, ⟨-, rfl⟩, _, v, ⟨-, rfl⟩, -, rfl⟩ := hf
    exact ⟨_, rfl⟩

/-- A lifecycle check re-validates the manifest that it is given. -/
theorem returns_validateLifecycleManifest {current : Draft γ} {manifest : Manifest γ}
    {digest : String} {asOf : Timestamp} {r : Unit}
    (h : Returns (S.validateLifecycleManifest current manifest digest asOf) s r t) :
    (∃ validated, S.revalidateManifest manifest digest = .ok validated) ∧
      ∃ baselines, t = { s with draftSelectorBaselines := baselines } := by
  simp only [validateLifecycleManifest, returns_bind, returns_reading, returns_checked] at h
  obtain ⟨validated, _, ⟨hv, rfl⟩, baseline, u, hb, _, _, ⟨rfl, rfl⟩, -, rfl⟩ := h
  exact ⟨⟨validated, hv⟩, returns_requireSelectorBaseline hb⟩

/-- The receipt that a lifecycle check was given is stored and authorizes the draft. -/
theorem returns_requireOperationalContextReceipt {current : Draft γ} {receiptId : String}
    {asOf : Timestamp} {receipt : OperationalContextReceipt}
    (h : Returns (S.requireOperationalContextReceipt current receiptId asOf) s receipt t) :
    s.operationalContextReceipts.get? receiptId = some receipt ∧
      receiptAuthorizes receipt current asOf ∧ s = t := by
  simp only [requireOperationalContextReceipt, returns_bind,
    returns_getOperationalContextReceipt, returns_orRaise, returns_raiseIf, returns_reading,
    returns_checked, returns_pure, not_not] at h
  obtain ⟨_, _, ⟨hf, rfl⟩, _, _, ⟨rfl, rfl⟩, _, _, ⟨ha, rfl⟩, _, _, ⟨-, rfl⟩, _, _, ⟨rfl, rfl⟩, _, _,
    ⟨-, rfl⟩, _, _, ⟨-, rfl⟩, rfl, rfl⟩ := h
  exact ⟨hf, ha, rfl⟩

theorem returns_ensureRollback {command : CreateDraftCommand (Manifest γ)}
    {rollbackSourceVersion : Option ManifestVersion} {r : Unit}
    (h : Returns (S.ensureRollback command rollbackSourceVersion) s r t) : s = t := by
  cases rollbackSourceVersion with
  | none => exact (returns_pure.mp h).2
  | some version =>
    simp only [ensureRollback, returns_bind, returns_getPublished, returns_orRaise,
      returns_checked, returns_raiseIf] at h
    obtain ⟨_, _, ⟨-, rfl⟩, _, _, ⟨-, rfl⟩, _, _, ⟨-, rfl⟩, _, _, ⟨-, rfl⟩, -, rfl⟩ := h
    rfl

theorem returns_ensureReplacement {clock : ClockReadings} {actor : Actor} {current : Draft γ}
    {command : ReplaceDraftCommand (Manifest γ)} {baseline : DraftSelectorBaseline}
    {now : Timestamp} {decision : Option String} {r : Unit}
    (h : Returns (S.ensureReplacement clock actor current command baseline now decision) s r t) :
    s = t := by
  cases decision with
  | none =>
    simp only [ensureReplacement, returns_bind, returns_reading, returns_checked] at h
    obtain ⟨_, _, ⟨-, rfl⟩, -, rfl⟩ := h
    rfl
  | some decisionId =>
    simp only [ensureReplacement, returns_bind, returns_reading, returns_checked,
      returns_raiseIf] at h
    obtain ⟨_, _, ⟨-, rfl⟩, _, _, ⟨-, rfl⟩, _, _, ⟨-, rfl⟩, -, rfl⟩ := h
    rfl

/-! ## The lifecycle step -/

/-- A draft mutation writes these drafts, published versions and supersessions, appends
one audit event to an intact history, and may capture selector baselines; all else
stays. -/
structure Writes (S : ContextService γ δ R) (s t : Store γ δ R)
    (drafts : Dictionary String (Draft γ))
    (published : Dictionary (String × ManifestVersion) (PublishedManifest (Manifest γ)))
    (supersessions : Dictionary (String × ManifestVersion) Supersession) : Prop where
  drafts_eq : t.drafts = drafts
  published_eq : t.published = published
  supersessions_eq : t.supersessions = supersessions
  operational_eq : t.operationalContextReceipts = s.operationalContextReceipts
  receipts_eq : t.receipts = s.receipts
  others_eq : t.others = s.others
  audit_eq : ∃ event, t.audit = s.audit ++ [event] ∧
    verifyAuditChain S.auditEventDigest s.audit = .ok () ∧
    verifyAuditChain S.auditEventDigest t.audit = .ok ()

/-- A change of a draft that exists, with what the mutation checked before. -/
inductive DraftChange (S : ContextService γ δ R) (s : Store γ δ R) (current : Draft γ) :
    Draft γ → Prop
  | replaced (actor : Actor) (command : ReplaceDraftCommand (Manifest γ)) (now : Timestamp)
      (state : current.state = .draft)
      (sameManifest : command.replacementManifest.manifestId = current.manifestId)
      (sameVersion :
        command.replacementManifest.manifestVersion = current.manifest.manifestVersion)
      (digest : S.ensureManifestDigest command.replacementManifest command.replacementDigest =
        .ok ()) :
      DraftChange S s current (replacedDraft actor current command now)
  | validated (actor : Actor) (command : TransitionCommand) (now : Timestamp)
      (state : current.state = .draft)
      (revalidated : ∃ validated,
        S.revalidateManifest current.manifest current.manifestDigest = .ok validated) :
      DraftChange S s current (validatedDraft actor current command now)
  | submitted (actor : Actor) (command : TransitionCommand) (now : Timestamp)
      (candidateManifest : Manifest γ)
      (state : current.state = .validated)
      (finalized : S.finalizePublicationCandidate current.manifest now = .ok candidateManifest)
      (revalidated : ∃ validated,
        S.revalidateManifest candidateManifest candidateManifest.artifactDigest =
          .ok validated) :
      DraftChange S s current (S.submittedDraft actor current command candidateManifest now)
  | reviewed (actor : Actor) (command : ReviewCommand) (now : Timestamp)
      (state : current.state = .inReview)
      (candidate : ∃ candidate, S.requireCurrentPublicationCandidate current = .ok candidate) :
      DraftChange S s current (reviewedDraft actor current command now)
  | approved (actor : Actor) (command : ApproveCommand) (review : ReviewDecision)
      (receipt : OperationalContextReceipt) (now : Timestamp)
      (state : current.state = .inReview)
      (candidate : ∃ candidate, S.requireCurrentPublicationCandidate current = .ok candidate)
      (authoritative : authoritativeReview current = .ok review)
      (stored : s.operationalContextReceipts.get? command.operationalContextReceiptId =
        some receipt)
      (authorizes : receiptAuthorizes receipt current now) :
      DraftChange S s current (approvedDraft actor current command
        (approvalDecision actor current command review receipt now) now)

/-- A change keeps the identifier of its draft. -/
theorem DraftChange.draftId_eq {current updated : Draft γ} (h : DraftChange S s current updated) :
    updated.draftId = current.draftId := by
  cases h with
  | replaced => rfl
  | validated => rfl
  | submitted => rfl
  | reviewed actor command now state candidate =>
    unfold reviewedDraft
    split <;> rfl
  | approved => rfl

/-- Only a draft that is not closed changes. -/
theorem DraftChange.not_superseded {current updated : Draft γ}
    (h : DraftChange S s current updated) : current.state ≠ .superseded := by
  cases h with
  | replaced actor command now state => simp [state]
  | validated actor command now state => simp [state]
  | submitted actor command now manifest state => simp [state]
  | reviewed actor command now state => simp [state]
  | approved actor command review receipt now state => simp [state]

/-- What one mutation does to drafts, published versions, supersessions and operational
context receipts. -/
inductive LifecycleStep (S : ContextService γ δ R) (s t : Store γ δ R) : Prop
  | created (actor : Actor) (command : CreateDraftCommand (Manifest γ)) (now : Timestamp)
      (fresh : s.drafts.get? command.draftId = none)
      (digest : S.ensureManifestDigest command.manifest command.manifestDigest = .ok ())
      (writes : Writes S s t (s.drafts.set command.draftId (createdDraft actor command now))
        s.published s.supersessions)
  | changed (draftId : String) (current updated : Draft γ)
      (stored : s.drafts.get? draftId = some current)
      (change : DraftChange S s current updated)
      (writes : Writes S s t (s.drafts.set current.draftId updated) s.published s.supersessions)
  | published (draftId : String) (current : Draft γ) (actor : Actor) (command : PublishCommand)
      (candidate : PublicationCandidate) (approval : ApprovalDecision)
      (receipt : OperationalContextReceipt) (now : Timestamp)
      (stored : s.drafts.get? draftId = some current)
      (state : current.state = .approved)
      (isCandidate : S.requireCurrentPublicationCandidate current = .ok candidate)
      (authoritative : authoritativeApproval current command = .ok approval)
      (receiptStored : s.operationalContextReceipts.get? command.operationalContextReceiptId =
        some receipt)
      (authorizes : receiptAuthorizes receipt current now)
      (free : s.published.get? (current.manifestId, current.manifest.manifestVersion) = none)
      (lineage : ensureLineage s current.manifestId current.manifest.manifestVersion
        current.previousVersion = .ok ())
      (writes : Writes S s t
        (s.drafts.set current.draftId (closedDraft .published actor current command.reason now))
        (s.published.set (current.manifestId, current.manifest.manifestVersion)
          (S.publishedVersion actor current command candidate approval receipt now))
        s.supersessions)
  | superseded (actor : Actor) (manifestId : String)
      (supersededVersion replacementVersion : ManifestVersion)
      (published replacement : PublishedManifest (Manifest γ)) (source : Draft γ)
      (reason : String) (relation : Supersession) (now : Timestamp)
      (stored : s.published.get? (manifestId, supersededVersion) = some published)
      (sourceStored : s.drafts.get? published.sourceDraftId = some source)
      (state : source.state = .published)
      (unsuperseded : s.supersessions.get? (manifestId, supersededVersion) = none)
      (replacementStored :
        s.published.get? (manifestId, replacementVersion) = some replacement)
      (successor : replacement.previousVersion = some supersededVersion)
      (relates : relation.manifestId = manifestId ∧
        relation.supersededVersion = supersededVersion ∧
        relation.replacementVersion = replacement.manifestVersion)
      (writes : Writes S s t
        (s.drafts.set source.draftId (closedDraft .superseded actor source reason now))
        s.published (s.supersessions.set (manifestId, supersededVersion) relation))
  | receiptIssued (receipt : OperationalContextReceipt)
      (fresh : s.operationalContextReceipts.get? receipt.receiptId = none)
      (issued : t = { s with
        operationalContextReceipts :=
          s.operationalContextReceipts.set receipt.receiptId receipt })
  | unchanged (drafts_eq : t.drafts = s.drafts) (published_eq : t.published = s.published)
      (supersessions_eq : t.supersessions = s.supersessions)
      (operational_eq : t.operationalContextReceipts = s.operationalContextReceipts)

/-- Writing a draft under its own identifier keeps the drafts keyed. -/
theorem keyed_set {drafts : Dictionary String (Draft γ)} {draftId : String} {draft : Draft γ}
    (h : ∀ key draft, drafts.get? key = some draft → draft.draftId = key)
    (hid : draft.draftId = draftId) :
    ∀ key found, (drafts.set draftId draft).get? key = some found → found.draftId = key := by
  intro key found hfound
  rw [Dictionary.get?_set] at hfound
  split at hfound
  · rename_i hk
    rw [← Option.some.inj hfound, hid, hk]
  · exact h key found hfound

/-! ## One lemma for each mutation -/

/-- The drafts, versions and supersessions that are staged when the audit event is
appended are the ones that are written. -/
theorem writes_of_appendAudit {u : Store γ δ R} {event : PendingAuditEvent} {r : Unit}
    (h : Returns (appendAudit S.auditEventDigest event) u r t)
    (hoperational : u.operationalContextReceipts = s.operationalContextReceipts)
    (hreceipts : u.receipts = s.receipts) (hothers : u.others = s.others)
    (haudit : u.audit = s.audit) : Writes S s t u.drafts u.published u.supersessions := by
  obtain ⟨eventDigest, hs, ht, he⟩ := returns_appendAudit h
  subst he
  exact ⟨rfl, rfl, rfl, hoperational, hreceipts, hothers,
    ⟨linkedEvent event u.audit eventDigest, by rw [← haudit], haudit ▸ hs, ht⟩⟩

theorem createDraft_step {clock : ClockReadings} {actor : Actor}
    {command : CreateDraftCommand (Manifest γ)} {draft : Draft γ}
    (h : Returns (S.createDraft clock actor command) s draft t) :
    ∃ now, draft = createdDraft actor command now ∧
      s.drafts.get? command.draftId = none ∧
      S.ensureManifestDigest command.manifest command.manifestDigest = .ok () ∧
      Writes S s t (s.drafts.set command.draftId (createdDraft actor command now)) s.published
        s.supersessions := by
  simp only [createDraft, returns_bind, returns_checked, returns_reading,
    returns_putDraftSelectorBaseline, returns_putDraft_new, returns_pure,
    and_assoc, exists_and_left, exists_eq_left'] at h
  obtain ⟨_, hdigest, _, -, now, -, _, u, hroll, _, -, -, hfresh, _, _, _, _, haudit, rfl, rfl⟩ := h
  have hu := returns_ensureRollback hroll
  subst hu
  exact ⟨now, rfl, hfresh, hdigest, writes_of_appendAudit haudit rfl rfl rfl rfl⟩

theorem replaceDraftInTransaction_step {clock : ClockReadings} {actor : Actor}
    {draftId : String} {command : ReplaceDraftCommand (Manifest γ)}
    {cohortDecision : Option (String × Timestamp)} {draft : Draft γ}
    (h : Returns (S.replaceDraftInTransaction clock actor draftId command cohortDecision) s
      draft t) :
    ∃ current now, s.drafts.get? draftId = some current ∧
      draft = replacedDraft actor current command now ∧
      DraftChange S s current (replacedDraft actor current command now) ∧
      Writes S s t
        (s.drafts.set current.draftId (replacedDraft actor current command now)) s.published
        s.supersessions := by
  simp only [replaceDraftInTransaction, returns_bind, returns_requireDraft, returns_checked,
    returns_raiseIf, returns_reading, returns_putDraft, returns_pure, not_not,
    and_assoc, exists_and_left, exists_eq_left'] at h
  obtain ⟨current, hstored, _, -, _, hstate, _, -, hid, hversion, _, _, _, hdigest, _, -, now, -,
    baseline, u, hbaseline, _, v, hreplace, -, _, _, _, haudit, rfl, rfl⟩ := h
  obtain ⟨baselines, hu⟩ := returns_requireSelectorBaseline hbaseline
  have hv := returns_ensureReplacement hreplace
  subst hv hu
  exact ⟨current, now, hstored, rfl,
    .replaced actor command now (requireState_ok hstate) hid hversion hdigest,
    writes_of_appendAudit haudit rfl rfl rfl rfl⟩

theorem validateDraft_step {clock : ClockReadings} {actor : Actor} {draftId : String}
    {command : TransitionCommand} {draft : Draft γ}
    (h : Returns (S.validateDraft clock actor draftId command) s draft t) :
    ∃ current now, s.drafts.get? draftId = some current ∧
      draft = validatedDraft actor current command now ∧
      DraftChange S s current (validatedDraft actor current command now) ∧
      Writes S s t
        (s.drafts.set current.draftId (validatedDraft actor current command now)) s.published
        s.supersessions := by
  simp only [validateDraft, returns_bind, returns_requireDraft, returns_checked,
    returns_putDraft, returns_pure,
    and_assoc, exists_and_left, exists_eq_left'] at h
  obtain ⟨current, hstored, _, -, _, hstate, _, -, now, -, _, u, hlifecycle, -, _, _, _, haudit, rfl,
    rfl⟩ := h
  obtain ⟨hvalid, baselines, hu⟩ := returns_validateLifecycleManifest hlifecycle
  subst hu
  exact ⟨current, now, hstored, rfl, .validated actor command now (requireState_ok hstate) hvalid,
    writes_of_appendAudit haudit rfl rfl rfl rfl⟩

theorem submitForReview_step {clock : ClockReadings} {actor : Actor} {draftId : String}
    {command : TransitionCommand} {draft : Draft γ}
    (h : Returns (S.submitForReview clock actor draftId command) s draft t) :
    ∃ current candidateManifest now, s.drafts.get? draftId = some current ∧
      draft = S.submittedDraft actor current command candidateManifest now ∧
      DraftChange S s current (S.submittedDraft actor current command candidateManifest now) ∧
      Writes S s t
        (s.drafts.set current.draftId
          (S.submittedDraft actor current command candidateManifest now)) s.published
        s.supersessions := by
  simp only [submitForReview, returns_bind, returns_requireDraft, returns_checked,
    returns_putDraft, returns_pure,
    and_assoc, exists_and_left, exists_eq_left'] at h
  obtain ⟨current, hstored, _, -, _, hstate, _, -, now, -, _, u, hlifecycle, candidateManifest, hfinal,
    _, v, hcandidate, -, _, _, _, haudit, rfl, rfl⟩ := h
  obtain ⟨_, _, hu⟩ := returns_validateLifecycleManifest hlifecycle
  subst hu
  obtain ⟨hvalid, _, hv⟩ := returns_validateLifecycleManifest hcandidate
  subst hv
  exact ⟨current, candidateManifest, now, hstored, rfl,
    .submitted actor command now candidateManifest (requireState_ok hstate) hfinal hvalid,
    writes_of_appendAudit haudit rfl rfl rfl rfl⟩

theorem reviewDraft_step {clock : ClockReadings} {actor : Actor} {draftId : String}
    {command : ReviewCommand} {draft : Draft γ}
    (h : Returns (S.reviewDraft clock actor draftId command) s draft t) :
    ∃ current now, s.drafts.get? draftId = some current ∧
      draft = reviewedDraft actor current command now ∧
      DraftChange S s current (reviewedDraft actor current command now) ∧
      Writes S s t
        (s.drafts.set current.draftId (reviewedDraft actor current command now)) s.published
        s.supersessions := by
  simp only [reviewDraft, returns_bind, returns_requireDraft, returns_checked, returns_raiseIf,
    returns_putDraft, returns_pure,
    and_assoc, exists_and_left, exists_eq_left'] at h
  obtain ⟨current, hstored, _, -, _, hstate, _, -, candidate, hcandidate, -, _, now, -, _, -, -, _, _,
    _, haudit, rfl, rfl⟩ := h
  have hid : (reviewedDraft actor current command now).draftId = current.draftId := by
    unfold reviewedDraft
    split <;> rfl
  have hwrites : Writes S s _
      (s.drafts.set (reviewedDraft actor current command now).draftId
        (reviewedDraft actor current command now)) s.published s.supersessions :=
    writes_of_appendAudit haudit rfl rfl rfl rfl
  rw [hid] at hwrites
  exact ⟨current, now, hstored, rfl,
    .reviewed actor command now (requireState_ok hstate) ⟨candidate, hcandidate⟩, hwrites⟩

theorem approveDraft_step {clock : ClockReadings} {actor : Actor} {draftId : String}
    {command : ApproveCommand} {draft : Draft γ}
    (h : Returns (S.approveDraft clock actor draftId command) s draft t) :
    ∃ current review receipt now, s.drafts.get? draftId = some current ∧
      draft = approvedDraft actor current command
        (approvalDecision actor current command review receipt now) now ∧
      DraftChange S s current (approvedDraft actor current command
        (approvalDecision actor current command review receipt now) now) ∧
      Writes S s t
        (s.drafts.set current.draftId (approvedDraft actor current command
          (approvalDecision actor current command review receipt now) now)) s.published
        s.supersessions := by
  simp only [approveDraft, returns_bind, returns_requireDraft, returns_checked,
    returns_putDraft, returns_pure,
    and_assoc, exists_and_left, exists_eq_left'] at h
  obtain ⟨current, hstored, _, -, _, hstate, _, -, candidate, hcandidate, review, hreview, now, -,
    receipt, u, hreceipt, _, v, hlifecycle, _, -, -, _, _, _, haudit, rfl, rfl⟩ := h
  obtain ⟨hfound, hauthorizes, hu⟩ := returns_requireOperationalContextReceipt hreceipt
  subst hu
  obtain ⟨_, _, hv⟩ := returns_validateLifecycleManifest hlifecycle
  subst hv
  exact ⟨current, review, receipt, now, hstored, rfl,
    .approved actor command review receipt now (requireState_ok hstate) ⟨candidate, hcandidate⟩
      hreview hfound hauthorizes,
    writes_of_appendAudit haudit rfl rfl rfl rfl⟩

theorem publishDraft_step {clock : ClockReadings} {actor : Actor} {draftId : String}
    {command : PublishCommand} {published : PublishedManifest (Manifest γ)}
    (h : Returns (S.publishDraft clock actor draftId command) s published t) :
    ∃ current candidate approval receipt now,
      s.drafts.get? draftId = some current ∧ current.state = .approved ∧
      S.requireCurrentPublicationCandidate current = .ok candidate ∧
      authoritativeApproval current command = .ok approval ∧
      s.operationalContextReceipts.get? command.operationalContextReceiptId = some receipt ∧
      receiptAuthorizes receipt current now ∧
      s.published.get? (current.manifestId, current.manifest.manifestVersion) = none ∧
      ensureLineage s current.manifestId current.manifest.manifestVersion
        current.previousVersion = .ok () ∧
      (∃ validated,
        S.revalidateManifest current.manifest current.manifestDigest = .ok validated) ∧
      published = S.publishedVersion actor current command candidate approval receipt now ∧
      Writes S s t
        (s.drafts.set current.draftId (closedDraft .published actor current command.reason now))
        (s.published.set (current.manifestId, current.manifest.manifestVersion) published)
        s.supersessions := by
  simp only [publishDraft, returns_bind, returns_requireDraft, returns_checked, returns_raiseIf,
    returns_reading, returns_getPublished, returns_putPublished, returns_putDraft,
    returns_pure,
    and_assoc, exists_and_left, exists_eq_left'] at h
  obtain ⟨current, hstored, _, -, _, hstate, _, -, candidate, hcandidate, approval, happroval, now, -,
    receipt, u, hreceipt, _, v, hlifecycle, -, _, _, hlineage, hfree, -, _, _, _, _, haudit, rfl,
    rfl⟩ := h
  obtain ⟨hfound, hauthorizes, hu⟩ := returns_requireOperationalContextReceipt hreceipt
  subst hu
  obtain ⟨hvalid, _, hv⟩ := returns_validateLifecycleManifest hlifecycle
  subst hv
  exact ⟨current, candidate, approval, receipt, now, hstored, requireState_ok hstate, hcandidate,
    happroval, hfound, hauthorizes, hfree, hlineage, hvalid, rfl,
    writes_of_appendAudit haudit rfl rfl rfl rfl⟩

theorem supersedeVersion_step {clock : ClockReadings} {actor : Actor} {manifestId : String}
    {supersededVersion : ManifestVersion} {command : SupersedeCommand} {relation : Supersession}
    (h : Returns (S.supersedeVersion clock actor manifestId supersededVersion command) s relation
      t) :
    ∃ published source replacement now,
      s.published.get? (manifestId, supersededVersion) = some published ∧
      s.drafts.get? published.sourceDraftId = some source ∧ source.state = .published ∧
      s.supersessions.get? (manifestId, supersededVersion) = none ∧
      s.published.get? (manifestId, command.replacementVersion) = some replacement ∧
      replacement.previousVersion = some supersededVersion ∧
      relation.manifestId = manifestId ∧ relation.supersededVersion = supersededVersion ∧
      relation.replacementVersion = replacement.manifestVersion ∧
      Writes S s t
        (s.drafts.set source.draftId (closedDraft .superseded actor source command.reason now))
        s.published (s.supersessions.set (manifestId, supersededVersion) relation) := by
  simp only [supersedeVersion, returns_bind, returns_requirePublished, returns_requireDraft,
    returns_checked, returns_raiseIf, returns_getSupersession, returns_putSupersession,
    returns_putDraft, returns_pure, not_not,
    and_assoc, exists_and_left, exists_eq_left'] at h
  obtain ⟨published, hpublished, source, hsource, _, hstate, _, -, -, -, _, _, replacement, hreplacement,
    -, hsuccessor, -, _, _, _, now, -, hfree, -, _, _, _, _, haudit, rfl, rfl⟩ := h
  exact ⟨published, source, replacement, now, hpublished, hsource, requireState_ok hstate, hfree,
    hreplacement, hsuccessor, rfl, rfl, rfl, writes_of_appendAudit haudit rfl rfl rfl rfl⟩

theorem issueOperationalContextReceipt_step {clock : ClockReadings} {actor : Actor}
    {command : IssueOperationalContextReceiptCommand} {receipt : OperationalContextReceipt}
    (h : Returns (S.issueOperationalContextReceipt clock actor command) s receipt t) :
    t = s ∨ (s.operationalContextReceipts.get? receipt.receiptId = none ∧
      t = { s with operationalContextReceipts :=
              s.operationalContextReceipts.set receipt.receiptId receipt }) := by
  simp only [issueOperationalContextReceipt, returns_bind, returns_requireDraft,
    returns_checked, returns_raiseIf, returns_reading, returns_getOperationalContextReceipt,
    and_assoc, exists_and_left, exists_eq_left'] at h
  obtain ⟨_, -, _, -, -, _, _, -, _, -, -, _, _, -, -, _, candidate, -, hstored⟩ := h
  cases hfound : s.operationalContextReceipts.get? candidate.receiptId with
  | some existing =>
    rw [hfound] at hstored
    simp only [storedOrNewReceipt, returns_bind, returns_raiseIf, returns_pure] at hstored
    obtain ⟨_, _, ⟨-, rfl⟩, -, rfl⟩ := hstored
    exact .inl rfl
  | none =>
    rw [hfound] at hstored
    simp only [storedOrNewReceipt, returns_bind, returns_putOperationalContextReceipt,
      returns_pure] at hstored
    obtain ⟨_, _, ⟨hfresh, rfl⟩, rfl, rfl⟩ := hstored
    exact .inr ⟨hfresh, rfl⟩

end AthenaContext.ContextTransitions
