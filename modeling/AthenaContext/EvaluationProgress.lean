import AthenaContext.ArtifactRoundTrips
import AthenaContext.EvaluationGuarantees

/-!
# Progress of demo evaluations

A result whose parts read back as themselves can be rendered, and an evaluation of such
material is committed while its authority stands. The evaluation of one plain version is such
a run, under every digest; a repetition of it under another spelling of its reason has its
result.
-/

namespace AthenaContext.ContractForms

open JsonText TextNormalization TimestampText ContractDocuments

variable {R : DateTimeRuntime} {N : NfcTables} {α β : Type}

/-- A value that a form accepts and reads back as it is. -/
structure Form.Keeps (F : Form R N α) (a : α) : Prop where
  accepts : F.accepts a = true
  canonicalizes : F.Canonicalizes a
  after : F.after a = some a

/-- Fields that are accepted and read back as they are. -/
structure Fields.Keeps (F : Fields R N α) (a : α) : Prop where
  accepts : F.accepts a = true
  canonicalizes : F.Canonicalizes a
  after : F.after a = some a

theorem Form.keeps_text {ok : Text → Bool} {t : Text} (hok : ok t = true)
    (h : canonicalString R N t = some t) : (Form.text (R := R) (N := N) ok).Keeps t :=
  ⟨hok, Form.canonicalizes_text.mpr ⟨t, h⟩, Form.after_text.mpr ⟨h, hok⟩⟩

theorem Form.keeps_pattern {ok : Text → Bool} {hplain : ∀ t, ok t = true → IsPlainText t} {t : Text}
    (hok : ok t = true) : (ContractPatterns.pattern (R := R) (N := N) ok hplain).Keeps t := by
  refine ⟨hok, ⟨.string t, ?_⟩, rfl⟩
  exact (congrArg (Option.map Json.string) (hplain t hok).canonicalString).trans rfl

theorem Form.keeps_choice {written : α → Text} {values : List α}
    {hfind : ∀ a, values.find? (fun b => written b == written a) = some a}
    {hplain : ∀ a, IsPlainText (written a)} {a : α} :
    (Form.choice (R := R) (N := N) written values hfind hplain).Keeps a := by
  refine ⟨rfl, ⟨.string (written a), ?_⟩, rfl⟩
  exact (congrArg (Option.map Json.string) (hplain a).canonicalString).trans rfl

theorem Fields.keeps_field {name : String} {F : Form R N α} {a : α} (h : F.Keeps a) :
    (Fields.field name F).Keeps a :=
  ⟨h.accepts, Fields.canonicalizes_field.mpr h.canonicalizes, Fields.after_field.mpr h.after⟩

theorem Fields.keeps_both {A : Fields R N α} {B : Fields R N β} {p : α × β} (ha : A.Keeps p.1)
    (hb : B.Keeps p.2) : (A.both B).Keeps p :=
  ⟨Fields.accepts_both.mpr ⟨ha.accepts, hb.accepts⟩,
    Fields.canonicalizes_both.mpr ⟨ha.canonicalizes, hb.canonicalizes⟩,
    Fields.after_both.mpr ⟨ha.after, hb.after⟩⟩

theorem Fields.keeps_map {F : Fields R N β} {parts : α → β} {build : β → α}
    {hparts : ∀ b, parts (build b) = b} (hbuild : ∀ a, build (parts a) = a) {a : α}
    (h : F.Keeps (parts a)) : (F.map parts build hparts).Keeps a :=
  ⟨Fields.accepts_map.mpr h.accepts, h.canonicalizes, (Fields.after_map hbuild).mpr h.after⟩

theorem Fields.keeps_record {F : Fields R N α} {hnames : AreFieldNames (F.names.map Prod.fst)} {a : α}
    (h : F.Keeps a) : (F.record hnames).Keeps a :=
  ⟨h.accepts, Fields.canonicalizes_record.mpr h.canonicalizes, Fields.after_record.mpr h.after⟩

end AthenaContext.ContractForms

namespace AthenaContext.EvaluationResults

open JsonText CanonicalJson TextNormalization TimestampText
open ContractDocuments ContractForms ContractPatterns EventTimes SignedArtifacts DocumentDigests
open ContextRecords EvaluationRecords

namespace Renderer

variable {E : EvidenceTypes} {C : Renderer E} {m : StoredEvaluationMaterial E} {t : Timestamp}
  {e : EventTime} {header : PublicationHeader}

/-- Material whose parts read back as themselves. -/
structure ReadsAsItself (C : Renderer E) (m : StoredEvaluationMaterial E)
    (header : PublicationHeader) : Prop where
  headed : C.headerOf m = some header
  keeps : (headerFields (R := C.runtime) (N := C.tables)).Keeps header
  kinds : header.approvedBy.kind = .human ∧ header.publicationAuthorizedBy.kind = .human ∧
    header.publishedBy.kind = .service
  snapshot : ∃ value, canonicalValue C.runtime C.tables (C.contracts.dumpSnapshot m.snapshot) =
    some value ∧ C.contracts.readSnapshot (inOrder value) = some m.snapshot
  findings : ∃ values, CanonicalItems C.runtime C.tables (m.findings.map C.contracts.dumpFinding)
    values ∧ (itemsInOrder values).mapM C.contracts.readFinding = some m.findings
  identifiers : m.snapshot.snapshotId.toList = header.snapshotId ∧
    m.snapshot.artifactDigest.toList = header.artifactDigest ∧
      m.snapshot.semanticDigest.toList = header.semanticDigest
  counted : 1 ≤ citations m.findings ∧ citations m.findings ≤ maxSafeInteger

/-- The publication record of such material reads back as itself. -/
theorem ReadsAsItself.publication (h : C.ReadsAsItself m header) (ht : eventTimeAt t = some e)
    (hback : ReadsBack C.runtime e) :
    ∃ p, C.buildAuthorizedPublication m t = some p ∧ p.header = header ∧
      C.publicationForm.accepts p = true ∧ C.publicationForm.Canonicalizes p ∧
        C.publicationForm.after p = some p := by
  obtain ⟨digest, hdigest⟩ := exists_publicationDigest (H := C.sha256) h.keeps.canonicalizes e e
  have hisDigest := isDigest_of_artifactDigest hdigest
  let p : AuthorizedSnapshotPublication := ⟨header, e, e, digest⟩
  have hvalid : validatePublication C.runtime C.tables C.sha256 p = true :=
    validatePublication_iff.mpr ⟨h.kinds, rfl, hdigest⟩
  have haccepts : C.publicationForm.accepts p = true :=
    accepts_publication.mpr ⟨h.keeps.accepts, hisDigest, hvalid⟩
  refine ⟨p, buildAuthorizedPublication_eq_some.mpr ⟨h.headed, ht, rfl, haccepts⟩, rfl, haccepts,
    (canonicalizes_publication hisDigest).mpr h.keeps.canonicalizes, ?_⟩
  exact after_publication.mpr ⟨h.keeps.after, ⟨hback, rfl⟩, ⟨hback, rfl⟩, rfl, hvalid⟩

/-- So does its result. -/
theorem ReadsAsItself.result (h : C.ReadsAsItself m header) (ht : eventTimeAt t = some e)
    (hback : ReadsBack C.runtime e) :
    ∃ r, C.buildResult m t = some r ∧ C.reparse r = some r ∧ r.snapshot = m.snapshot ∧
      C.buildAuthorizedPublication m t = some r.publication := by
  obtain ⟨p, hbuild, hheader, haccepts, hcanonical, hafter⟩ := h.publication ht hback
  obtain ⟨snapshot, hsnapshot, hreadSnapshot⟩ := h.snapshot
  obtain ⟨values, hitems, hreadFindings⟩ := h.findings
  have hsameSnapshot := sameDump_of_canonical hsnapshot hsnapshot
  have hfindings := canonicalValue_array.mpr ⟨values, rfl, hitems⟩
  obtain ⟨digest, hdigest, -⟩ := exists_sameDigest haccepts hcanonical hafter hsameSnapshot
    (sameDump_of_canonical hfindings hfindings) h.counted.2 e
  let r : DemoEvaluationResult E := ⟨p, m.snapshot, m.findings, e, citations m.findings, digest⟩
  have hvalid : C.validateResult r = true := by
    obtain ⟨hid, hartifact, hsemantic⟩ := h.identifiers
    refine validateResult_iff.mpr ⟨?_, ⟨h.counted.1, rfl⟩, hdigest⟩
    rw [hheader]
    exact ⟨hid, hartifact, hsemantic⟩
  have hreads : C.ReadsAs r r :=
    { canonicalizes := hcanonical
      publication := hafter
      snapshot := ⟨snapshot, hsnapshot, hreadSnapshot⟩
      findings := ⟨values, hitems, hreadFindings⟩
      evaluatedAt := ⟨hback, rfl⟩
      citationCount := ⟨h.counted.2, rfl⟩
      resultDigest := rfl
      valid := hvalid }
  have hbuilt : C.buildResult m t = some r :=
    buildResult_eq_some.mpr ⟨hbuild, ht, rfl, rfl, hvalid⟩
  exact ⟨r, hbuilt, (reparse_eq_some haccepts hvalid).mpr hreads, rfl, hbuild⟩

end Renderer

end AthenaContext.EvaluationResults

namespace AthenaContext.EvaluationPublication

open JsonText CanonicalJson TextNormalization TimestampText ContractDocuments DocumentDigests
open ContractForms EventTimes Dictionaries FallibleResults SignedArtifacts
open ContextRecords ContextStorage ContextMutations EvaluationRecords EvaluationResults
open EvaluationAuthority EvaluationAuthority.EvaluationService

variable {γ δ : Type} {E : EvidenceTypes} {S : EvaluationService γ δ E}

/-! ## Authority that stands -/

/-- A validated authority is validated again, as it was loaded and as it was resolved. -/
theorem validateLoadedEvaluationAuthority_again {actor : Actor} {command : DemoEvaluationCommand}
    {loaded : LoadedAuthority γ E} {asOf : Timestamp} {endpoint : CollectionEndpoint}
    {anchor : TrustedKeyAnchor} {v : ValidatedAuthority γ E}
    (h : S.validateLoadedEvaluationAuthority actor command loaded asOf endpoint anchor none = .ok v) :
    S.validateLoadedEvaluationAuthority actor command loaded asOf endpoint anchor (some v.token) =
        .ok v ∧
      S.validateLoadedEvaluationAuthority actor command
          ⟨v.approval, v.resolved, v.token.authorization, v.token.contextReaderAuthorization,
            loaded.trustedKey⟩ asOf endpoint anchor (some v.token) = .ok v ∧
      S.trustedKeyToken loaded.trustedKey = .ok v.token.trustedKey ∧
      S.approvalToken v.approval = .ok v.token.approval := by
  simp only [validateLoadedEvaluationAuthority, bind_ok_iff, ite_throw_ok_iff, pure_ok_iff] at h ⊢
  obtain ⟨_, happroval, hactive, profile, hprofile, context, hcontext, _, hbinding, approvalToken,
    happrovalToken, keyToken, hkeyToken, -, rfl⟩ := h
  obtain ⟨hpublished, hsupersession, -⟩ := resolvedContext_ok hcontext
  have hcurrent : S.currentProfile context command.profileId asOf = .ok profile := by
    rw [currentProfile, hpublished, hsupersession]
    exact hprofile
  have hcontext' : S.resolvedContext context.published context.supersession profile
      command.manifestVersion = .ok context := by
    rw [hpublished, hsupersession]
    exact hcontext
  refine ⟨?_, ?_, hkeyToken, happrovalToken⟩
  · exact ⟨(), happroval, hactive, profile, hprofile, context, hcontext, (), hbinding, approvalToken,
      happrovalToken, keyToken, hkeyToken, by simp, rfl⟩
  · exact ⟨(), happroval, hactive, profile, hcurrent, context, hcontext', (), hbinding, approvalToken,
      happrovalToken, keyToken, hkeyToken, by simp, rfl⟩

/-- A resolved authority stands: it is resolved again under its own token. -/
theorem resolveAuthority_again {W : UnitOfWork γ δ E} {actor : Actor}
    {command : DemoEvaluationCommand} {asOf : Timestamp} {endpoint : CollectionEndpoint}
    {anchor : TrustedKeyAnchor} {v : ValidatedAuthority γ E}
    (h : W.resolveAuthority actor command asOf endpoint anchor none = .ok v) :
    W.resolveAuthority actor command asOf endpoint anchor (some v.token) = .ok v ∧
      ∃ key, W.resolveTrustedKey anchor = some key ∧
        W.service.validateLoadedEvaluationAuthority actor command
          ⟨v.approval, v.resolved, v.token.authorization, v.token.contextReaderAuthorization, key⟩
          asOf endpoint anchor (some v.token) = .ok v ∧
        W.service.trustedKeyToken key = .ok v.token.trustedKey ∧
        W.service.approvalToken v.approval = .ok v.token.approval := by
  simp only [UnitOfWork.resolveAuthority, bind_ok_iff] at h ⊢
  obtain ⟨loaded, hload, hvalidate⟩ := h
  obtain ⟨hagain, hresolved, hkey, happroval⟩ := validateLoadedEvaluationAuthority_again hvalidate
  refine ⟨⟨loaded, hload, hagain⟩, loaded.trustedKey, ?_, hresolved, hkey, happroval⟩
  simp only [UnitOfWork.loadAuthority, bind_ok_iff] at hload
  obtain ⟨_, -, hload⟩ := hload
  split at hload
  · cases hload
  · simp only [bind_ok_iff, mapError_ok_iff] at hload
    obtain ⟨_, -, hload⟩ := hload
    split at hload
    · cases hload
    · next key hkey' =>
      rw [pure_ok_iff] at hload
      subst hload
      exact hkey'

/-- Material that reads back as itself passes the trial of its result. -/
theorem exerciseResult_of_readsAsItself {m : StoredEvaluationMaterial E} {header : PublicationHeader}
    {e : EventTime} (h : S.renderer.ReadsAsItself m header)
    (ht : eventTimeAt m.snapshot.collectedAt = some e) (hback : ReadsBack S.renderer.runtime e) :
    exerciseResult S m = .ok () := by
  obtain ⟨p, hbuild, hheader, haccepts, ⟨value, hvalue⟩, hafter⟩ := h.publication ht hback
  obtain ⟨r, hbuilt, hreads, hsnapshot, hpublication⟩ := h.result ht hback
  have hrendered : S.renderer.renderedResult m m.snapshot.collectedAt = some r :=
    Option.bind_eq_some_iff.mpr ⟨r, hbuilt, hreads⟩
  obtain ⟨snapshot, hcanonical, hread⟩ := h.snapshot
  have hreparsed : reparseSnapshot S m.snapshot = .ok m.snapshot := by
    rw [reparseSnapshot, hcanonical, Option.bind_some, hread]
    rfl
  have hpublished : S.renderer.publicationForm.read (inOrder value) = some p := by
    rw [S.renderer.publicationForm.read_canonical haccepts hvalue, hafter]
  have htext : canonicalDump S.renderer.runtime S.renderer.tables
      (S.renderer.contracts.dumpSnapshot m.snapshot) = some (canonicalText snapshot) :=
    canonicalDump_eq_some.mpr ⟨snapshot, hcanonical, rfl⟩
  have hsame : r.publication = p := Option.some.inj (hpublication.symm.trans hbuild)
  simp only [exerciseResult, bind_ok_iff, accepted_ok_iff]
  refine ⟨p, hbuild, r, hrendered, m.snapshot, hreparsed, value, hvalue, p, hpublished,
    canonicalText snapshot, ?_, canonicalText snapshot, htext, if_neg ?_⟩
  · rw [hsnapshot]
    exact htext
  · simp only [not_or, ne_eq, not_not]
    exact ⟨trivial, hsame, by rw [hsame, hheader, h.identifiers.1]⟩

/-! ## Commits that pass -/

theorem putEvaluation_of_ok {W : UnitOfWork γ δ E} {request : DemoEvaluationRequest}
    {anchor : TrustedKeyAnchor} {key : EvaluationTrustedKeyAuthority}
    {artifactPreparation : EvaluationTrustedKeyAuthority → Outcome (PreparedEvaluationArtifact E)}
    {clock : CommitClock} {prepared : PreparedEvaluationArtifact E}
    {authority : EvaluationCollectionAuthority} {normalized : NormalizedPreparation E}
    {t : Timestamp} {checked : CheckedInsertion γ E} {insertion : SealedInsertion E}
    {artifact : StoredEvaluation E} (hkey : W.resolveTrustedKey anchor = some key)
    (htoken : W.service.trustedKeyToken key = .ok request.expectedAuthority.trustedKey)
    (hprepared : artifactPreparation key = .ok prepared)
    (hnormalized : normalizeForInsertion W.service request prepared = .ok (authority, normalized))
    (hclock : clock.authorityCheckedAt = .ok t)
    (hchecked : checkInsertion W request anchor authority normalized t = .ok checked)
    (hsealed : sealInsertion W.service request checked = .ok insertion)
    (hnew : checkNew W.store insertion = .ok ())
    (hfinal : finalizeEvaluation insertion clock.publishedAt = .ok artifact) :
    putEvaluation W request anchor artifactPreparation clock =
      .ok (artifact, withEvaluation W.store artifact) := by
  simp only [putEvaluation, hkey, bind_ok_iff, ite_throw_ok_iff, mapError_ok_iff, pure_ok_iff, ne_eq,
    not_not]
  exact ⟨_, htoken, rfl, prepared, hprepared, _, hnormalized, t, hclock, checked, hchecked, insertion,
    hsealed, (), hnew, artifact, hfinal, rfl⟩

theorem resultOf_of_rendered {artifact : StoredEvaluation E} {result : DemoEvaluationResult E}
    (h : S.renderer.renderedResult artifact.material artifact.publishedAt = some result) :
    resultOf S artifact = .ok result := by
  rw [resultOf, h]

theorem commitNew_of_ok {W : UnitOfWork γ δ E} {request : DemoEvaluationRequest}
    {evidence : CollectedSnapshot E} {envelope : ValidatedEnvelope E} {clock : CommitClock}
    {anchor : TrustedKeyAnchor} {t u : Timestamp} {v v' : ValidatedAuthority γ E}
    {done : StoredEvaluation E × EvaluationStore γ δ E} (hinitial : clock.initialTime = .ok t)
    (hanchor : requireTrust W.service = .ok anchor)
    (hfirst : W.resolveAuthority request.actor request.command t
      (collectionEndpoint request.collectionAuthority) anchor (some request.expectedAuthority) = .ok v)
    (hfresh : t < evidence.snapshot.expiresAt) (hread : clock.authorityReadAt = .ok u)
    (hsecond : W.resolveAuthority request.actor request.command u
      (collectionEndpoint request.collectionAuthority) anchor (some request.expectedAuthority) =
        .ok v')
    (hput : putEvaluation W request anchor
      (prepareArtifact W.service request evidence envelope v' anchor u) clock = .ok done) :
    commitNew W request evidence envelope clock = .ok done := by
  simp only [commitNew, bind_ok_iff, ite_throw_ok_iff]
  exact ⟨t, hinitial, anchor, hanchor, v, hfirst, not_le.mpr hfresh, u, hread, v', hsecond, hput⟩

end AthenaContext.EvaluationPublication

namespace AthenaContext.EvaluationRuns

open JsonText CanonicalJson TextNormalization TimestampText ContractDocuments ContractPatterns
open ContractForms EventTimes DocumentDigests Dictionaries FallibleResults SignedArtifacts
open ArtifactRoundTrips ContextRecords ContextStorage ContextMutations ContextCalls
open EvaluationRecords EvaluationResults EvaluationAuthority EvaluationPublication
open EvaluationAuthority.EvaluationService Histories

variable {γ δ : Type} {E : EvidenceTypes} {S : EvaluationService γ δ E} {s : EvaluationState γ δ E}

theorem after_register {n : ℕ} {request : DemoEvaluationRequest}
    (h : s.phase n = some (.prepared request)) : after S s (.register n) =
      { s.setPhase n (.registered s.issued) with
        requests := s.requests.set s.issued request
        issued := s.issued + 1 } := by
  simp only [after, h]

theorem after_collect {n c : ℕ} {evidence : CollectedSnapshot E}
    (h : s.phase n = some (.registered c)) :
    after S s (.collect n (.ok evidence)) = s.setPhase n (.collected c evidence) := by
  simp only [after, h, collectStep]

theorem after_take {n c : ℕ} {request : DemoEvaluationRequest} {evidence : CollectedSnapshot E}
    (h : s.phase n = some (.collected c evidence)) (hrequest : s.requests.get? c = some request) :
    after S s (.take n) =
      { s.setPhase n (.taken c request evidence) with requests := s.requests.erase c } := by
  simp only [after, h, takeStep, hrequest]

/-- A prepared request is registered, collected for and taken. -/
theorem after_taken {n : ℕ} {request : DemoEvaluationRequest} {evidence : CollectedSnapshot E}
    {s₁ s₂ s₃ : EvaluationState γ δ E} (h : s.phase n = some (.prepared request))
    (h₁ : s₁ = after S s (.register n)) (h₂ : s₂ = after S s₁ (.collect n (.ok evidence)))
    (h₃ : s₃ = after S s₂ (.take n)) :
    s₃.store = s.store ∧ s₃.phase n = some (.taken s.issued request evidence) ∧
      ∀ m, m ≠ n → s₃.phase m = s.phase m := by
  rw [after_register h] at h₁
  have hregistered : s₁.phase n = some (.registered s.issued) := by
    rw [h₁]
    exact EvaluationState.setPhase_self
  have hrequest : s₁.requests.get? s.issued = some request := by
    rw [h₁]
    exact Dictionary.get?_set_self
  rw [after_collect hregistered] at h₂
  have hcollected : s₂.phase n = some (.collected s.issued evidence) := by
    rw [h₂]
    exact EvaluationState.setPhase_self
  have hrequests : s₂.requests.get? s.issued = some request := by
    rw [h₂]
    exact hrequest
  rw [after_take hcollected hrequests] at h₃
  refine ⟨?_, ?_, fun m hm => ?_⟩
  · rw [h₃, h₂, h₁]
    rfl
  · rw [h₃]
    exact EvaluationState.setPhase_self
  · rw [h₃, h₂, h₁]
    simp only [EvaluationState.setPhase_eq, if_neg hm]

/-- A request that is opened is registered, collected for and taken. -/
theorem taken_of_opened {n : ℕ} {call : EvaluationCall} {t : Timestamp}
    {approval : DemoEvaluationApproval} {resolved : ResolvedPublishedContext γ E}
    {request : DemoEvaluationRequest} {evidence : CollectedSnapshot E}
    {s₁ s₂ s₃ s₄ : EvaluationState γ δ E} (hn : s.phase n = none)
    (hopened : prepareRequest S s.store call t = .ok (.opened approval resolved request))
    (h₁ : s₁ = after S s (.prepare n call (.ok t))) (h₂ : s₂ = after S s₁ (.register n))
    (h₃ : s₃ = after S s₂ (.collect n (.ok evidence))) (h₄ : s₄ = after S s₃ (.take n)) :
    s₄.store = s.store ∧ s₄.phase n = some (.taken s₁.issued request evidence) ∧
      ∀ m, m ≠ n → s₄.phase m = s.phase m := by
  have hprepared : s₁ = s.setPhase n (.prepared request) := by
    have hbind : ((.ok t : Outcome Timestamp) >>= prepareRequest S s.store call) = _ := hopened
    rw [h₁]
    simp only [after, hn, prepareStep]
    rw [hbind]
  have hphase : s₁.phase n = some (.prepared request) := by
    rw [hprepared]
    exact EvaluationState.setPhase_self
  obtain ⟨hstore, htaken, hothers⟩ := after_taken hphase h₂ h₃ h₄
  refine ⟨?_, htaken, fun m hm => (hothers m hm).trans ?_⟩
  · rw [hstore, hprepared]
    rfl
  · rw [hprepared, EvaluationState.setPhase_of_ne hm]

/-- A committed evaluation is answered, and so is a request that is answered from it. -/
theorem answered_twice {n m : ℕ} {call call' : EvaluationCall} {t t' : Timestamp}
    {approval : DemoEvaluationApproval} {resolved : ResolvedPublishedContext γ E}
    {request : DemoEvaluationRequest} {evidence : CollectedSnapshot E} {clock : CommitClock}
    {artifact : StoredEvaluation E} {store : EvaluationStore γ δ E} {result : DemoEvaluationResult E}
    {s₁ s₂ s₃ s₄ s₅ : EvaluationState γ δ E} (hn : s.phase n = none) (hm : s.phase m = none)
    (hmn : m ≠ n) (h₁ : s₁ = after S s (.prepare n call (.ok t)))
    (h₂ : s₂ = after S s₁ (.register n)) (h₃ : s₃ = after S s₂ (.collect n (.ok evidence)))
    (h₄ : s₄ = after S s₃ (.take n)) (h₅ : s₅ = after S s₄ (.commit n clock))
    (hopened : prepareRequest S s.store call t = .ok (.opened approval resolved request))
    (hcommit : commitEvaluation S s.store request evidence clock = .ok (artifact, store))
    (hreplay : prepareRequest S store call' t' = .ok (.replay artifact))
    (hresult : resultOf S artifact = .ok result) :
    Answered S s₄ (.commit n clock) request.actor request.idempotencyKey request.command
        (.ok result) ∧
      Answered S s₅ (.prepare m call' (.ok t')) call'.actor call'.idempotencyKey call'.command
        (.ok result) := by
  obtain ⟨hstore, htaken, hothers⟩ := taken_of_opened hn hopened h₁ h₂ h₃ h₄
  have hcommitted : s₅ = { s₄.setPhase n (.finished (.ok result)) with store := store } := by
    rw [h₅, after_commit htaken, hstore]
    simp only [commitPrepared, hcommit, hresult]
  have hfree : s₅.phase m = none := by
    rw [hcommitted]
    exact (EvaluationState.setPhase_of_ne hmn).trans ((hothers m hmn).trans hm)
  constructor
  · refine .committed n _ request evidence clock _ htaken ?_
    rw [← h₅, hcommitted]
    exact EvaluationState.setPhase_self
  · refine .prepared m call' (.ok t') _ hfree ?_
    have hbind : ((.ok t' : Outcome Timestamp) >>= prepareRequest S s₅.store call') =
        .ok (.replay artifact) := by
      rw [hcommitted]
      exact hreplay
    simp only [after, hfree, prepareStep]
    rw [hbind, ← hresult]
    exact EvaluationState.setPhase_self

/-! ## One version and its evaluation -/

/-- Evidence without content. -/
def plainTypes : EvidenceTypes := ⟨Unit, Unit, Unit, Unit, Unit⟩

def plainDigestText : String := "sha256:" ++ String.ofList (zeros 64)

/-- The first instant of the year 2026. -/
def newYear : Timestamp := 63902908800000

def orders : Manifest ℕ := ordersManifest ⟨1, 0, 0⟩ 99 "publisher" 2

def inventoryScope : EvidenceScope := ⟨.object [("subscription".toList, textJson "orders")]⟩

def inventoryAuthority : EvaluationCollectionAuthority :=
  ⟨"reader-1", "authority-1", "https://mcp.internal", "identity", "scope"⟩

def publisher : Actor := ⟨"ada", .human⟩

def reader : Actor := ⟨"reader", .service⟩

def publisherGrant : RoleGrant := ⟨"ada", .publisher, .allWorkloads⟩

def readerGrant : RoleGrant := ⟨"reader", .reader, .allWorkloads⟩

def signingKey : TrustedKeyAnchor := ⟨"https://vault/keys/signing/1", "signing", "1", "fingerprint"⟩

def ordersProfile : ResolvedManifestProfile plainTypes where
  manifestId := "orders"
  manifestVersion := ⟨1, 0, 0⟩
  profileId := "production"
  resolvedProfileDigest := plainDigestText
  freshnessConstraints := []
  content := ()

def ordersFinding : ManifestFinding plainTypes := ⟨"clause", "satisfied", 1, ()⟩

def ordersSnapshot : EvidenceSnapshot plainTypes where
  snapshotId := "snapshot-1"
  artifactDigest := plainDigestText
  semanticDigest := plainDigestText
  schemaVersion := "1.0.0"
  semanticContractVersion := "1.0.0"
  collectedAt := newYear + 10
  expiresAt := newYear + 1000
  content := ()

/-- Snapshots and findings of one content, under their identifiers. -/
def plainContracts : EvidenceContracts plainTypes where
  dumpSnapshot s := .object [("snapshot_id".toList, textJson s.snapshotId)]
  readSnapshot
    | .object [(_, .string id)] => some { ordersSnapshot with snapshotId := String.ofList id }
    | _ => none
  dumpFinding f := .object [("clause_id".toList, textJson f.clauseId)]
  readFinding
    | .object [(_, .string id)] => some { ordersFinding with clauseId := String.ofList id }
    | _ => none

/-- A context service without selectors, over a store with evaluations. -/
def plainContextService : ContextService ℕ ℕ (EvaluationTables plainTypes) :=
  grantingService plainContract

/-- A service that accepts the evidence of one profile. -/
def plainEvaluations (K : Sha256) : EvaluationService ℕ ℕ plainTypes where
  contextService := plainContextService
  renderer := ⟨paddingRuntime, asciiTables, K, plainContracts⟩
  requireAllWorkloads _ _ := .ok ()
  trustedKeyAnchor := some signingKey
  buildCollectionAuthority _ :=
    .ok inventoryAuthority
  resolveManifestProfile _ _ _ := .ok ordersProfile
  requireActiveManifestGovernance _ _ _ := .ok ()
  normalizeProfileId := .ok
  governanceBounds _ _ _ := ((none, none), (none, none))
  validateCollectionBinding _ _ _ _ _ := .ok ()
  verifyAndEvaluateSnapshot _ := .ok [ordersFinding]
  readScope _ := .ok inventoryScope
  normalizeEnvelope := .ok
  normalizeRequest := .ok
  evidenceBindingDigest _ _ _ := .ok "binding"
  writeApproval a := a.decisionId
  readApproval _ := .error "approvals are not read"

def ordersKey : EvaluationTrustedKeyAuthority :=
  ⟨⟨signingKey, true, newYear, none, none⟩, 1, none⟩

def ordersApproval : DemoEvaluationApproval where
  decisionId := "approval-1"
  status := .authorized
  revision := 1
  revokedAt := none
  approvedBy := publisher
  approvedAt := newYear
  expiresAt := newYear + 1000
  manifestId := "orders"
  manifestVersion := ⟨1, 0, 0⟩
  manifestDigest := plainDigestText
  profileId := "production"
  authorizedScope := inventoryScope
  privateMcpEndpoint := "https://mcp.internal"
  evidenceIdentityObjectId := "identity"
  reason := "release"

def ordersPublished : PublishedManifest (Manifest ℕ) where
  manifestId := "orders"
  manifestVersion := ⟨1, 0, 0⟩
  manifestDigest := plainDigestText
  manifest := orders
  sourceDraftId := "first"
  sourceDraftRevision := 5
  previousVersion := none
  approval := ⟨"approval", publisher, newYear, 4, ⟨1, 0, 0⟩, plainDigestText, none, none, "release"⟩
  publishedBy := ⟨"publisher", .service⟩
  publishedAt := newYear
  publicationAuthorizedBy := publisher
  publicationAuthorizedAt := newYear
  operationalContextReceiptId := none
  reason := "release"

/-- The store with one published version and what authorizes its evaluation. -/
def ordersStore : EvaluationStore ℕ ℕ plainTypes :=
  { ContextStore.empty
      { demoEvaluationApprovals := Dictionary.empty.set "approval-1" ordersApproval
        evaluationGrants := [publisherGrant, readerGrant]
        evaluationGrantRevision := 1
        evaluationReceipts := .empty
        evaluationArtifacts := .empty
        demoEvaluationTrustedKeys := Dictionary.empty.set signingKey.keyVaultKeyId ordersKey } with
    published := Dictionary.empty.set ("orders", ⟨1, 0, 0⟩) ordersPublished }

/-- The evaluation of the version for a reason. -/
def ordersCommand (reason : String) : DemoEvaluationCommand where
  approvalDecisionId := "approval-1"
  attemptId := "attempt-1"
  snapshotId := "snapshot-1"
  manifestId := "orders"
  manifestVersion := ⟨1, 0, 0⟩
  expectedManifestDigest := plainDigestText
  profileId := "production"
  expectedResolvedProfileDigest := plainDigestText
  authorizedScope := inventoryScope
  bounds := ⟨1000, 10, 100, 60, 1000⟩
  reason := reason

def ordersCall (reason : String) : EvaluationCall :=
  ⟨reader, publisher, "key-1", ordersCommand reason⟩

def ordersEvidence : CollectedSnapshot plainTypes :=
  ⟨ordersSnapshot, ⟨⟨"attempt-1", ()⟩, some ⟨"response", "digest", ()⟩⟩⟩

/-- The instant at which the evaluation is prepared and committed. -/
def commitTime : Timestamp := newYear + 20

def commitClock : CommitClock := ⟨.ok commitTime, .ok commitTime, .ok commitTime, commitTime⟩

/-! ## Its preparation -/

section Orders

variable (K : Sha256)

theorem exists_ordersDigest (payload : Json)
    (h : isCanonicalizable paddingRuntime asciiTables payload = true) :
    ∃ d, (plainEvaluations K).artifactDigest payload = .ok d ∧ isDigest d.toList = true := by
  obtain ⟨digest, hdigest⟩ := exists_artifactDigest (H := K) h
  have hfound : (plainEvaluations K).renderer.artifactDigest payload = some digest := hdigest
  refine ⟨String.ofList digest, ?_, ?_⟩
  · rw [EvaluationService.artifactDigest, hfound]
  · rw [String.toList_ofList]
    exact isDigest_of_artifactDigest hdigest

/-- The only grant of an actor authorizes it. -/
theorem orders_authorized (actor : Actor) (permission : Permission) (grant : RoleGrant)
    (hhuman : ¬ (humanOnly.contains permission = true ∧ actor.kind ≠ .human))
    (hgrant : [publisherGrant, readerGrant].filter (grantMatches actor permission "orders") = [grant])
    (hplain : isCanonicalizable paddingRuntime asciiTables (.object
      [("actorId".toList, textJson actor.actorId),
        ("permission".toList, textJson (permissionValue permission)),
        ("manifestId".toList, textJson "orders"),
        ("grants".toList, .array [grantJson grant])]) = true) :
    ∃ d, (plainEvaluations K).authorizeRoleGrants actor permission "orders"
      [publisherGrant, readerGrant] 1 = .ok ⟨actor.actorId, permission, "orders", 1, d⟩ ∧
        isDigest d.toList = true := by
  have hpart : isCanonicalizable paddingRuntime asciiTables (grantJson grant) = true := by
    simp only [isCanonicalizable, membersCanonicalizable, areCanonicalizable, Bool.and_eq_true]
      at hplain
    exact hplain.2.2.2.2.1.1
  obtain ⟨key, hkey, -⟩ := exists_ordersDigest K _ hpart
  obtain ⟨digest, hdigest, hisDigest⟩ := exists_ordersDigest K _ hplain
  refine ⟨digest, ?_, hisDigest⟩
  simp only [authorizeRoleGrants, ite_throw_ok_iff, bind_ok_iff, pure_ok_iff]
  refine ⟨hhuman, by decide, by rw [hgrant]; simp, [(key, grantJson grant)], ?_, digest, hdigest, rfl⟩
  rw [hgrant]
  simp only [List.mapM_cons, List.mapM_nil, hkey]
  rfl

/-- A value that canonicalizes has a canonical text. -/
theorem exists_ordersText (value : Json)
    (h : isCanonicalizable paddingRuntime asciiTables value = true) :
    ∃ text, canonicalDump paddingRuntime asciiTables value = some text := by
  obtain ⟨canonical, hcanonical⟩ := exists_canonicalValue h
  exact ⟨_, canonicalDump_eq_some.mpr ⟨canonical, hcanonical, rfl⟩⟩

theorem exists_scopeText : ∃ text, (plainEvaluations K).scopeText inventoryScope = .ok text := by
  obtain ⟨text, htext⟩ := exists_ordersText inventoryScope.dump (by decide)
  have hfound : canonicalDump (plainEvaluations K).renderer.runtime
      (plainEvaluations K).renderer.tables inventoryScope.dump = some text := htext
  exact ⟨text, by rw [scopeText, hfound]⟩

/-- The token of the authority, under its digests. -/
def ordersToken (etag approval grant readerDigest key : String) : EvaluationAuthorityToken where
  context := ⟨"orders", ⟨1, 0, 0⟩, plainDigestText, "first", 5, etag, "production", plainDigestText⟩
  approval := ⟨"approval-1", 1, approval⟩
  authorization := ⟨"ada", .publish, "orders", 1, grant⟩
  contextReaderAuthorization := ⟨"reader", .read, "orders", 1, readerDigest⟩
  trustedKey := ⟨signingKey.keyVaultKeyId, "1", "fingerprint", 1, key⟩

theorem isCanonicalizable_plain {s : String} (h : IsPlainText s.toList) :
    isCanonicalizable paddingRuntime asciiTables (textJson s) = true :=
  isCanonicalizable_string h

/-- The token of the authority has a canonical text. -/
theorem orders_token {etag approval grant readerDigest key : String}
    (h : ∀ d ∈ [etag, approval, grant, readerDigest, key], isDigest d.toList = true) :
    isCanonicalizable paddingRuntime asciiTables
      (authorityTokenJson (ordersToken etag approval grant readerDigest key)) = true := by
  have hplain : ∀ d ∈ [etag, approval, grant, readerDigest, key],
      isCanonicalizable paddingRuntime asciiTables (textJson d) = true :=
    fun d hd => isCanonicalizable_plain (isPlainText_of_isDigest _ (h d hd))
  have hgrant : ∀ actorId permission digest,
      isCanonicalizable paddingRuntime asciiTables (textJson actorId) = true →
      isCanonicalizable paddingRuntime asciiTables (textJson (permissionValue permission)) = true →
      isCanonicalizable paddingRuntime asciiTables (textJson digest) = true →
      isCanonicalizable paddingRuntime asciiTables (.object
        [("actor_id".toList, textJson actorId),
          ("permission".toList, textJson (permissionValue permission)),
          ("manifest_id".toList, textJson "orders"), ("grant_revision".toList, .number 1),
          ("grant_digest".toList, textJson digest)]) = true := by
    intro actorId permission digest hactor hpermission hdigest
    refine isCanonicalizable_object (of_decide_eq_true rfl) ?_
    simp only [List.forall_mem_cons]
    exact ⟨hactor, hpermission, isCanonicalizable_plain (by decide), by decide, hdigest, by simp⟩
  have horders := isCanonicalizable_plain (s := "orders") (by decide)
  have hversion := isCanonicalizable_plain (s := ManifestVersion.text ⟨1, 0, 0⟩) (by decide)
  have hzeros := isCanonicalizable_plain (s := plainDigestText) (by decide)
  have hrevision : isCanonicalizable paddingRuntime asciiTables (.number 1) = true := by decide
  have hcontext : isCanonicalizable paddingRuntime asciiTables (.number 5) = true := by decide
  refine isCanonicalizable_object (of_decide_eq_true rfl) ?_
  simp only [List.forall_mem_cons]
  refine ⟨isCanonicalizable_object (of_decide_eq_true rfl) ?_,
    isCanonicalizable_object (of_decide_eq_true rfl) ?_,
    hgrant "ada" .publish grant (isCanonicalizable_plain (by decide))
      (isCanonicalizable_plain (by decide)) (hplain grant (by simp)),
    hgrant "reader" .read readerDigest (isCanonicalizable_plain (by decide))
      (isCanonicalizable_plain (by decide)) (hplain readerDigest (by simp)),
    isCanonicalizable_object (of_decide_eq_true rfl) ?_, by simp⟩
  · have hmode := isCanonicalizable_plain (s := "exactVersion") (by decide)
    have hdraft := isCanonicalizable_plain (s := "first") (by decide)
    have hprofile := isCanonicalizable_plain (s := "production") (by decide)
    simp only [List.forall_mem_cons]
    exact ⟨hmode, horders, hversion, hzeros, hdraft, hcontext, hplain etag (by simp), hprofile, hzeros,
      by simp⟩
  · have hdecision := isCanonicalizable_plain (s := "approval-1") (by decide)
    simp only [List.forall_mem_cons]
    exact ⟨hdecision, hrevision, hplain approval (by simp), by simp⟩
  · have hkeyId := isCanonicalizable_plain (s := signingKey.keyVaultKeyId) (by decide)
    have hkeyVersion := isCanonicalizable_plain (s := "1") (by decide)
    have hfingerprint := isCanonicalizable_plain (s := "fingerprint") (by decide)
    simp only [List.forall_mem_cons]
    exact ⟨hkeyId, hkeyVersion, hfingerprint, hrevision, hplain key (by simp), by simp⟩

/-- What is resolved of the store at the time of the commit. -/
def ordersAuthority (token : EvaluationAuthorityToken) : ValidatedAuthority ℕ plainTypes :=
  ⟨ordersApproval, ⟨ordersPublished, none, ordersProfile, token.context⟩, token⟩

/-- The authority of the evaluation is resolved while a token is expected. -/
def OrdersResolved (reason : String) (expected : Option EvaluationAuthorityToken)
    (token : EvaluationAuthorityToken) : Prop :=
  UnitOfWork.resolveAuthority ⟨plainEvaluations K, ordersStore, reader⟩ publisher
    (ordersCommand reason) commitTime (collectionEndpoint inventoryAuthority) signingKey expected =
      .ok (ordersAuthority token)

/-- The context of the version has a digest. -/
theorem orders_contextDigest : ∃ d, (plainEvaluations K).artifactDigest
    (.object
      [("selectionMode".toList, textJson "exactVersion"),
        ("requestedManifestVersion".toList, textJson (ManifestVersion.text ⟨1, 0, 0⟩)),
        ("manifestId".toList, textJson "orders"),
        ("manifestVersion".toList, textJson (ManifestVersion.text ⟨1, 0, 0⟩)),
        ("manifestDigest".toList, textJson plainDigestText),
        ("sourceDraftId".toList, textJson "first"), ("revision".toList, .number 5),
        ("supersession".toList, .null), ("profileId".toList, textJson "production"),
        ("resolvedProfileDigest".toList, textJson plainDigestText)]) = .ok d ∧
      isDigest d.toList = true :=
  exists_ordersDigest K _ (by decide +kernel)

/-- So has the stored key. -/
theorem orders_keyDigest : ∃ d, (plainEvaluations K).artifactDigest
    (.object
      [("keyVaultKeyId".toList, textJson signingKey.keyVaultKeyId),
        ("keyName".toList, textJson "signing"), ("keyVersion".toList, textJson "1"),
        ("publicKeyFingerprint".toList, textJson "fingerprint"), ("enabled".toList, .boolean true),
        ("activatedAt".toList, timeJson newYear), ("retiredAt".toList, .null),
        ("expiresAt".toList, .null), ("revokedAt".toList, .null), ("revision".toList, .number 1)]) = .ok d ∧
      isDigest d.toList = true :=
  exists_ordersDigest K _ (by decide +kernel)

theorem orders_resolved (reason : String) :
    ∃ token, isCanonicalizable paddingRuntime asciiTables (authorityTokenJson token) = true ∧
      OrdersResolved K reason none token := by
  obtain ⟨grant, hgrant, hgrantDigest⟩ := orders_authorized K publisher .publish publisherGrant (by decide)
    (by decide) (by decide +kernel)
  obtain ⟨readerDigest, hreader, hreaderDigest⟩ := orders_authorized K reader .read readerGrant (by decide)
    (by decide) (by decide +kernel)
  obtain ⟨approval, happroval, happrovalDigest⟩ :=
    exists_ordersDigest K (approvalJson ordersApproval) (by decide +kernel)
  obtain ⟨etag, hetag, hetagDigest⟩ := orders_contextDigest K
  obtain ⟨key, hkey, hkeyDigest⟩ := orders_keyDigest K
  obtain ⟨scope, hscope⟩ := exists_scopeText K
  let token := ordersToken etag approval grant readerDigest key
  refine ⟨token, orders_token ?_, ?_⟩
  · simp only [List.forall_mem_cons, List.not_mem_nil, false_implies, implies_true, and_true]
    exact ⟨hetagDigest, happrovalDigest, hgrantDigest, hreaderDigest, hkeyDigest⟩
  have hcontext : (plainEvaluations K).resolvedContext ordersPublished none ordersProfile ⟨1, 0, 0⟩ =
      .ok ⟨ordersPublished, none, ordersProfile, token.context⟩ := by
    simp only [resolvedContext, publishedContextToken, ite_throw_ok_iff, bind_ok_iff, pure_ok_iff]
    exact ⟨_, ⟨by decide, etag, hetag, rfl⟩, by decide, rfl⟩
  have hload : UnitOfWork.loadAuthority ⟨plainEvaluations K, ordersStore, reader⟩ publisher
      (ordersCommand reason) commitTime signingKey = .ok
        ⟨ordersApproval, ⟨ordersPublished, none, ordersProfile, token.context⟩, token.authorization,
          token.contextReaderAuthorization,
          ordersKey⟩ := by
    simp only [UnitOfWork.loadAuthority, bind_ok_iff]
    refine ⟨_, hgrant, ?_⟩
    have happrovalStored : ordersStore.others.demoEvaluationApprovals.get?
        (ordersCommand reason).approvalDecisionId = some ordersApproval := rfl
    have hresolved : UnitOfWork.resolveContext ⟨plainEvaluations K, ordersStore, reader⟩ "orders"
        ⟨1, 0, 0⟩ "production" commitTime = .ok (⟨ordersPublished, none, ordersProfile,
          token.context⟩, ⟨"reader", .read, "orders", 1,
            readerDigest⟩) := by
      have hpublished : ordersStore.published.get? ("orders", ⟨1, 0, 0⟩) = some ordersPublished := rfl
      simp only [UnitOfWork.resolveContext, hpublished, bind_ok_iff, mapError_ok_iff, pure_ok_iff]
      exact ⟨_, hreader, ordersProfile, rfl, _, hcontext, rfl⟩
    simp only [happrovalStored, bind_ok_iff, mapError_ok_iff]
    refine ⟨_, hresolved, ?_⟩
    have hfound : UnitOfWork.resolveTrustedKey ⟨plainEvaluations K, ordersStore, reader⟩ signingKey =
        some ordersKey := by
      rfl
    simp only [hfound]
    rfl
  have happrovalToken : (plainEvaluations K).approvalToken ordersApproval =
      .ok token.approval := by
    simp only [approvalToken, bind_ok_iff, pure_ok_iff]
    exact ⟨approval, happroval, rfl⟩
  have hkeyToken : (plainEvaluations K).trustedKeyToken ordersKey =
      .ok token.trustedKey := by
    simp only [trustedKeyToken, bind_ok_iff, pure_ok_iff]
    exact ⟨key, hkey, rfl⟩
  have hvalidated : (plainEvaluations K).validateDemoEvaluationApproval publisher
      (ordersCommand reason) ordersApproval commitTime (collectionEndpoint inventoryAuthority) =
        .ok () := by
    simp only [validateDemoEvaluationApproval, ite_throw_ok_iff, bind_ok_iff]
    exact ⟨by decide, by simp [ordersApproval, ordersCommand], scope, hscope, scope, hscope,
      by simp [ordersApproval, collectionEndpoint, inventoryAuthority], rfl⟩
  have hbinding : (plainEvaluations K).validatePublishedContextBinding (ordersCommand reason)
      ordersApproval ⟨ordersPublished, none, ordersProfile, token.context⟩ = .ok () := by
    simp only [validatePublishedContextBinding, ite_throw_ok_iff, bind_ok_iff, mapError_ok_iff]
    exact ⟨by simp [ordersPublished, ordersApproval, ordersProfile, ordersCommand], "production",
      rfl, by simp [ordersCommand], rfl⟩
  simp only [OrdersResolved, UnitOfWork.resolveAuthority, bind_ok_iff]
  refine ⟨_, hload, ?_⟩
  simp only [validateLoadedEvaluationAuthority, bind_ok_iff, ite_throw_ok_iff, pure_ok_iff]
  exact ⟨(), hvalidated, not_not_intro (by decide), ordersProfile, rfl, _, hcontext, (), hbinding, _,
    happrovalToken, _, hkeyToken, by simp, rfl⟩

/-! ## Its result -/

/-- The reason in canonical form, and the same instant in another spelling. -/
def writtenReason : String := "2026-01-01T00:00:00.000Z"

def spelledReason : String := "2026-01-01T00:00:00Z"

/-- What the evaluation stores. -/
def ordersMaterial (reason : String) : StoredEvaluationMaterial plainTypes where
  snapshot := ordersSnapshot
  approval := ordersApproval
  actor := publisher
  publicationActor := ⟨"publisher", .service⟩
  resolvedProfileDigest := plainDigestText
  privateMcpEndpoint := "https://mcp.internal"
  authorizedScope := inventoryScope
  reason := reason
  findings := [ordersFinding]

theorem keeps_actor {a : Actor} (hid : isIdText a.actorId.toList = true)
    (hplain : IsPlainText a.actorId.toList) :
    (actorForm (R := paddingRuntime) (N := asciiTables)).Keeps a := by
  refine Fields.keeps_record (Fields.keeps_map ?_ (Fields.keeps_both (Fields.keeps_field ?_)
    (Fields.keeps_field Form.keeps_choice)))
  · intro a
    simp only [String.ofList_toList]
  · exact Form.keeps_text hid hplain.canonicalString

theorem keeps_plain (ok : Text → Bool) (t : Text) (hok : ok t = true) (hplain : IsPlainText t) :
    (Form.text (R := paddingRuntime) (N := asciiTables) ok).Keeps t :=
  Form.keeps_text hok hplain.canonicalString

theorem keeps_time (e : EventTime) : (eventTime (R := paddingRuntime) (N := asciiTables)).Keeps e := by
  have hback : ReadsBack paddingRuntime e := .inr (.inl rfl)
  exact ⟨rfl, canonicalizes_eventTime e, after_eventTime.mpr ⟨hback, rfl⟩⟩

/-- A header is kept field by field. -/
theorem keeps_header {R : DateTimeRuntime} {N : NfcTables} {h : PublicationHeader}
    (hsnapshot : (freeText (R := R) (N := N)).Keeps h.snapshotId)
    (hartifact : (digestField (R := R) (N := N)).Keeps h.artifactDigest)
    (hsemantic : (digestField (R := R) (N := N)).Keeps h.semanticDigest)
    (hschema : (versionText (R := R) (N := N)).Keeps h.schemaVersion)
    (hcontract : (versionText (R := R) (N := N)).Keeps h.semanticContractVersion)
    (hdecision : (Form.text (R := R) (N := N) isIdText).Keeps h.approvalDecisionId)
    (happrover : (actorForm (R := R) (N := N)).Keeps h.approvedBy)
    (happroved : (eventTime (R := R) (N := N)).Keeps h.approvedAt)
    (hauthorizer : (actorForm (R := R) (N := N)).Keeps h.publicationAuthorizedBy)
    (hpublisher : (actorForm (R := R) (N := N)).Keeps h.publishedBy)
    (hmanifest : (Form.text (R := R) (N := N) isWorkloadIdentifier).Keeps h.manifestId)
    (hversion : (versionText (R := R) (N := N)).Keeps h.manifestVersion)
    (hdigest : (digestField (R := R) (N := N)).Keeps h.manifestDigest)
    (hprofile : (freeText (R := R) (N := N)).Keeps h.profileId)
    (hresolved : (digestField (R := R) (N := N)).Keeps h.resolvedProfileDigest)
    (hendpoint : (digestField (R := R) (N := N)).Keeps h.endpointDigest)
    (hscope : (digestField (R := R) (N := N)).Keeps h.authorizedScopeDigest)
    (hreason : (Form.text (R := R) (N := N) (hasLength 3 500)).Keeps h.reason) :
    (headerFields (R := R) (N := N)).Keeps h := by
  refine Fields.keeps_map (fun _ => rfl) ?_
  refine Fields.keeps_both (Fields.keeps_field hsnapshot) ?_
  refine Fields.keeps_both (Fields.keeps_field hartifact) ?_
  refine Fields.keeps_both (Fields.keeps_field hsemantic) ?_
  refine Fields.keeps_both (Fields.keeps_field hschema) ?_
  refine Fields.keeps_both (Fields.keeps_field hcontract) ?_
  refine Fields.keeps_both (Fields.keeps_field hdecision) ?_
  refine Fields.keeps_both (Fields.keeps_field happrover) ?_
  refine Fields.keeps_both (Fields.keeps_field happroved) ?_
  refine Fields.keeps_both (Fields.keeps_field hauthorizer) ?_
  refine Fields.keeps_both (Fields.keeps_field hpublisher) ?_
  refine Fields.keeps_both (Fields.keeps_field hmanifest) ?_
  refine Fields.keeps_both (Fields.keeps_field hversion) ?_
  refine Fields.keeps_both (Fields.keeps_field hdigest) ?_
  refine Fields.keeps_both (Fields.keeps_field hprofile) ?_
  refine Fields.keeps_both (Fields.keeps_field hresolved) ?_
  refine Fields.keeps_both (Fields.keeps_field hendpoint) ?_
  exact Fields.keeps_both (Fields.keeps_field hscope) (Fields.keeps_field hreason)

theorem canonicalValue_plainMember {name t : Text} (hname : AreFieldNames [name])
    (ht : IsPlainText t) : canonicalValue paddingRuntime asciiTables (.object [(name, .string t)]) =
      some (.object [(name, .string t)]) := by
  have hnames : AreFieldNames ([(name, Json.string t)].map Prod.fst) := hname
  refine (canonicalValue_object hnames).mpr ⟨_, rfl, .cons ⟨rfl, ?_⟩ .nil⟩
  rw [canonicalValue_string, ht.canonicalString, Option.map_some]

theorem orders_readsAsItself :
    ∃ header, (plainEvaluations K).renderer.ReadsAsItself (ordersMaterial writtenReason) header ∧
      header.snapshotId = "snapshot-1".toList := by
  have hplain : isCanonicalizable paddingRuntime asciiTables (.object
      [("privateMcpEndpoint".toList, .string "https://mcp.internal".toList)]) = true := by
    decide
  have hplainScope : isCanonicalizable paddingRuntime asciiTables inventoryScope.dump = true := by
    decide
  obtain ⟨endpoint, hendpoint⟩ := exists_artifactDigest (H := K) hplain
  obtain ⟨scope, hscope⟩ := exists_artifactDigest (H := K) hplainScope
  obtain ⟨approvedAt, happrovedAt⟩ := exists_eventTimeAt (t := newYear) (by decide) (by decide)
  have hheader : (plainEvaluations K).renderer.headerOf (ordersMaterial writtenReason) = some
      { snapshotId := "snapshot-1".toList
        artifactDigest := plainDigestText.toList
        semanticDigest := plainDigestText.toList
        schemaVersion := "1.0.0".toList
        semanticContractVersion := "1.0.0".toList
        approvalDecisionId := "approval-1".toList
        approvedBy := publisher
        approvedAt := approvedAt
        publicationAuthorizedBy := publisher
        publishedBy := ⟨"publisher", .service⟩
        manifestId := "orders".toList
        manifestVersion := (ManifestVersion.text ⟨1, 0, 0⟩).toList
        manifestDigest := plainDigestText.toList
        profileId := "production".toList
        resolvedProfileDigest := plainDigestText.toList
        endpointDigest := endpoint
        authorizedScopeDigest := scope
        reason := writtenReason.toList } := by
    simp only [Renderer.headerOf, Option.bind_eq_bind, Option.bind_eq_some_iff]
    exact ⟨approvedAt, happrovedAt, endpoint, hendpoint, scope, hscope, rfl⟩
  have hdigest : isDigest plainDigestText.toList = true := by decide
  have hendpointDigest := isDigest_of_artifactDigest hendpoint
  have hscopeDigest := isDigest_of_artifactDigest hscope
  have hmanifestVersion : (ManifestVersion.text ⟨1, 0, 0⟩).toList = "1.0.0".toList := by decide
  have hsnapshot := keeps_plain (fun _ => true) ("snapshot-1".toList) rfl (by decide)
  have hversion := keeps_plain isVersionText ("1.0.0".toList) (by decide) (by decide)
  have hdecision := keeps_plain isIdText ("approval-1".toList) (by decide) (by decide)
  have hmanifest := keeps_plain isWorkloadIdentifier ("orders".toList) (by decide)
    (by decide)
  have hprofile := keeps_plain (fun _ => true) ("production".toList) rfl (by decide)
  have happrover := keeps_actor (a := publisher) (by decide) (by decide)
  have hpublisher := keeps_actor (a := ⟨"publisher", .service⟩) (by decide) (by decide)
  have hreason : (Form.text (R := paddingRuntime) (N := asciiTables) (hasLength 3 500)).Keeps
      writtenReason.toList := Form.keeps_text (by decide) (by decide)
  refine ⟨_, ⟨hheader, ?_, ⟨rfl, rfl, rfl⟩, ?_, ?_, ⟨rfl, rfl, rfl⟩, by decide⟩, rfl⟩
  · refine keeps_header hsnapshot (Form.keeps_pattern hdigest) (Form.keeps_pattern hdigest)
      hversion hversion hdecision happrover (keeps_time _) happrover hpublisher hmanifest ?_
      (Form.keeps_pattern hdigest) hprofile (Form.keeps_pattern hdigest)
      (Form.keeps_pattern hendpointDigest) (Form.keeps_pattern hscopeDigest) hreason
    rw [hmanifestVersion]
    exact hversion
  · exact ⟨_, canonicalValue_plainMember (by decide) (by decide), rfl⟩
  · exact ⟨_, .cons (canonicalValue_plainMember (by decide) (by decide)) .nil, rfl⟩

/-! ## Its commit -/

/-- The request of the evaluation, under its authority and its digest. -/
def ordersRequest (token : EvaluationAuthorityToken) (digest : String) : DemoEvaluationRequest where
  readerActor := reader
  actor := publisher
  idempotencyKey := "key-1"
  command := ordersCommand writtenReason
  expectedAuthority := token
  collectionAuthority := inventoryAuthority
  requestDigest := digest

/-- The two spellings of the reason have one canonical text, and so have their requests. -/
theorem orders_sameRequest : SameDump paddingRuntime asciiTables
    (.object (requestMembers publisher (ordersCommand writtenReason) inventoryAuthority))
    (.object (requestMembers publisher (ordersCommand spelledReason) inventoryAuthority)) := by
  have hreason : SameDump paddingRuntime asciiTables (textJson writtenReason)
      (textJson spelledReason) := by
    have hwritten : canonicalString paddingRuntime asciiTables writtenReason.toList =
        some writtenReason.toList := by decide +kernel
    have hspelled : canonicalString paddingRuntime asciiTables spelledReason.toList =
        some writtenReason.toList := by decide +kernel
    have hfirst : canonicalValue paddingRuntime asciiTables (textJson writtenReason) =
        some (.string writtenReason.toList) := by
      rw [textJson, canonicalValue_string, hwritten, Option.map_some]
    have hsecond : canonicalValue paddingRuntime asciiTables (textJson spelledReason) =
        some (.string writtenReason.toList) := by
      rw [textJson, canonicalValue_string, hspelled, Option.map_some]
    exact sameDump_of_canonical hfirst hsecond
  have hsplit : ∀ reason, commandMembers (ordersCommand reason) =
      (commandMembers (ordersCommand "")).dropLast ++ [("reason".toList, textJson reason)] :=
    fun _ => rfl
  have hcommand : SameDump paddingRuntime asciiTables
      (.object (commandMembers (ordersCommand writtenReason)))
      (.object (commandMembers (ordersCommand spelledReason))) := by
    refine (sameDump_object (areFieldNames_commandMembers _) (keys_commandMembers _ _)).mpr ?_
    rw [hsplit writtenReason, hsplit spelledReason]
    have hfirst : SameMembers paddingRuntime asciiTables
        (commandMembers (ordersCommand "")).dropLast (commandMembers (ordersCommand "")).dropLast :=
      membersCanonicalizable_same (by decide)
    exact List.rel_append hfirst (.cons ⟨rfl, hreason⟩ .nil)
  refine (sameDump_object (areFieldNames_requestMembers _ _ _) (keys_requestMembers _ _ _ _ _ _)).mpr
    ?_
  have hrest : SameMembers paddingRuntime asciiTables
      [("operation".toList, textJson "evaluate_demo_workload"), ("actor".toList, actorJson publisher)]
      [("operation".toList, textJson "evaluate_demo_workload"), ("actor".toList, actorJson publisher)] :=
    membersCanonicalizable_same (by decide)
  have hlast : SameMembers paddingRuntime asciiTables
      [("collectionAuthorityDigest".toList, textJson "authority-1"),
        ("readerAssignmentRevision".toList, textJson "reader-1")]
      [("collectionAuthorityDigest".toList, textJson "authority-1"),
        ("readerAssignmentRevision".toList, textJson "reader-1")] :=
    membersCanonicalizable_same (by decide)
  exact List.rel_append hrest (.cons ⟨rfl, hcommand⟩ hlast)

theorem orders_requestDigest : ∃ d, isDigest d.toList = true ∧
    requestDigest (plainEvaluations K) publisher (ordersCommand writtenReason) inventoryAuthority =
      .ok d ∧
    requestDigest (plainEvaluations K) publisher (ordersCommand spelledReason) inventoryAuthority =
      .ok d := by
  obtain ⟨digest, hwritten, hspelled⟩ := (orders_sameRequest).exists_digest (H := K)
  refine ⟨String.ofList digest, ?_, ?_, ?_⟩
  · rw [String.toList_ofList]
    exact isDigest_of_artifactDigest hwritten
  · have hfound : (plainEvaluations K).renderer.artifactDigest (.object (requestMembers publisher
      (ordersCommand writtenReason) inventoryAuthority)) = some digest := hwritten
    rw [EvaluationPublication.requestDigest, EvaluationService.artifactDigest, hfound]
  · have hfound : (plainEvaluations K).renderer.artifactDigest (.object (requestMembers publisher
      (ordersCommand spelledReason) inventoryAuthority)) = some digest := hspelled
    rw [EvaluationPublication.requestDigest, EvaluationService.artifactDigest, hfound]

/-- The preparation opens the request of the command. -/
theorem orders_opened {token : EvaluationAuthorityToken} {d : String}
    (hresolved : OrdersResolved K writtenReason none token)
    (hdigest : EvaluationPublication.requestDigest (plainEvaluations K) publisher
      (ordersCommand writtenReason) inventoryAuthority = .ok d) :
    prepareRequest (plainEvaluations K) ordersStore (ordersCall writtenReason) commitTime =
      .ok (.opened ordersApproval (ordersAuthority token).resolved (ordersRequest token d)) := by
  have hload := hresolved
  simp only [OrdersResolved, UnitOfWork.resolveAuthority, UnitOfWork.loadAuthority, bind_ok_iff]
    at hload
  obtain ⟨_, ⟨grant, hgrant, -⟩, -⟩ := hload
  have hreceipt : UnitOfWork.loadReceipt ⟨plainEvaluations K, ordersStore, reader⟩ "ada" "orders"
      "key-1" = .ok none := rfl
  simp only [prepareRequest, bind_ok_iff]
  have hcollection : collectionRequest (plainEvaluations K) (ordersCall writtenReason) =
      .ok (inventoryAuthority, d) := collectionRequest_of_ok rfl hdigest
  refine ⟨_, hcollection, grant, hgrant, none, hreceipt, ?_⟩
  simp only [openRequest, bind_ok_iff, pure_ok_iff]
  exact ⟨signingKey, rfl, _, hresolved, rfl⟩

/-- The artifact that is prepared at the time of the commit. -/
def ordersArtifact : PreparedEvaluationArtifact plainTypes where
  snapshot := ordersSnapshot
  approval := ordersApproval
  resolvedProfileDigest := plainDigestText
  findings := [ordersFinding]
  collectionRequest := ⟨"attempt-1", ()⟩
  envelope := ⟨"response", "digest", ()⟩
  temporalValidity :=
    { approvalActiveFrom := newYear
      approvalExpiresAt := newYear + 1000
      snapshotActiveFrom := newYear + 10
      snapshotExpiresAt := newYear + 1000
      governanceActiveFrom := none
      governanceExpiresAt := none
      riskActiveFrom := none
      riskExpiresAt := none
      evidenceFreshUntil := none }

theorem orders_artifact {token : EvaluationAuthorityToken} {d : String}
    (hvalid : (plainEvaluations K).validateLoadedEvaluationAuthority publisher
      (ordersCommand writtenReason) ⟨ordersApproval, (ordersAuthority token).resolved,
        token.authorization, token.contextReaderAuthorization, ordersKey⟩ commitTime
      (collectionEndpoint inventoryAuthority) signingKey (some token) = .ok (ordersAuthority token)) :
    prepareArtifact (plainEvaluations K) (ordersRequest token d) ordersEvidence
      ⟨"response", "digest", ()⟩ (ordersAuthority token) signingKey commitTime ordersKey =
        .ok ordersArtifact := by
  obtain ⟨header, hreads, -⟩ := orders_readsAsItself K
  obtain ⟨e, he⟩ := exists_eventTimeAt (t := commitTime) (by decide) (by decide)
  obtain ⟨p, hbuild, -⟩ := hreads.publication he (.inr (.inl rfl))
  simp only [prepareArtifact, bind_ok_iff, ite_throw_ok_iff, pure_ok_iff]
  refine ⟨_, hvalid, by decide, (), rfl, fun hnone => ?_, [ordersFinding], rfl, (), rfl, rfl⟩
  have hsome := hbuild.symm.trans hnone
  cases hsome

/-- The artifact is its own normal form. -/
theorem orders_normalized (token : EvaluationAuthorityToken) (d : String) :
    ∃ normalized, normalizeForInsertion (plainEvaluations K) (ordersRequest token d) ordersArtifact =
        .ok (inventoryAuthority, normalized) ∧ normalized.prepared = ordersArtifact ∧
      normalized.material = ordersMaterial writtenReason ∧
      normalized.evidenceBindingDigest = "binding" ∧
      (plainEvaluations K).scopeText inventoryScope = .ok normalized.authorizedScopeText ∧
      [ordersFinding].mapM (findingText (plainEvaluations K)) = .ok normalized.findingTexts := by
  obtain ⟨header, hreads, -⟩ := orders_readsAsItself K
  obtain ⟨e, he⟩ := exists_eventTimeAt (t := newYear + 10) (by decide) (by decide)
  have hexercised := exerciseResult_of_readsAsItself hreads he (.inr (.inl rfl))
  obtain ⟨scope, hscope⟩ := exists_scopeText K
  obtain ⟨text, htext⟩ := exists_ordersText (plainContracts.dumpFinding ordersFinding)
    (by decide)
  have hfinding : findingText (plainEvaluations K) ordersFinding = .ok text := by
    rw [findingText]
    exact accepted_ok_iff.mpr htext
  have hfindings : [ordersFinding].mapM (findingText (plainEvaluations K)) = .ok [text] := by
    simp only [List.mapM_cons, List.mapM_nil, hfinding]
    rfl
  have hsnapshot : reparseSnapshot (plainEvaluations K) ordersSnapshot = .ok ordersSnapshot := by
    rw [reparseSnapshot]
    refine accepted_ok_iff.mpr (Option.bind_eq_some_iff.mpr
      ⟨_, canonicalValue_plainMember (by decide) (by decide), rfl⟩)
  have hreparsed : [ordersFinding].mapM (reparseFinding (plainEvaluations K)) =
      .ok [ordersFinding] := by
    have hone : reparseFinding (plainEvaluations K) ordersFinding = .ok ordersFinding := by
      rw [reparseFinding]
      refine accepted_ok_iff.mpr (Option.bind_eq_some_iff.mpr
        ⟨_, canonicalValue_plainMember (by decide) (by decide), rfl⟩)
    simp only [List.mapM_cons, List.mapM_nil, hone]
    rfl
  have hdates : publishedDatetimes ordersArtifact.temporalValidity = .ok () := rfl
  refine ⟨⟨ordersArtifact, ordersMaterial writtenReason, "binding", scope, [text]⟩, ?_, rfl, rfl, rfl,
    hscope, hfindings⟩
  simp only [normalizeForInsertion, normalizePreparation, bind_ok_iff, mapError_ok_iff,
    ite_throw_ok_iff, pure_ok_iff]
  exact ⟨inventoryAuthority, rfl, by simp [ordersRequest], _, ⟨ordersSnapshot, hsnapshot,
    inventoryScope, rfl, [ordersFinding], hreparsed, _, rfl, _, rfl, (), hdates, "binding", rfl, (),
    hexercised, scope, hscope, [text], hfindings, rfl⟩, (), rfl, rfl⟩

/-- Its checks pass while the authority stands. -/
theorem orders_checked {token : EvaluationAuthorityToken} {d : String}
    (hresolved : OrdersResolved K writtenReason (some token) token)
    (hkey : (plainEvaluations K).trustedKeyToken ordersKey = .ok token.trustedKey)
    (happroval : (plainEvaluations K).approvalToken ordersApproval = .ok token.approval)
    {normalized : NormalizedPreparation plainTypes} (hprepared : normalized.prepared = ordersArtifact)
    (hscope : (plainEvaluations K).scopeText inventoryScope = .ok normalized.authorizedScopeText)
    (hfindings : [ordersFinding].mapM (findingText (plainEvaluations K)) =
      .ok normalized.findingTexts) :
    checkInsertion ⟨plainEvaluations K, ordersStore, reader⟩ (ordersRequest token d) signingKey
      inventoryAuthority normalized commitTime =
        .ok ⟨inventoryAuthority, normalized, ordersAuthority token, ordersKey⟩ := by
  have hstored : UnitOfWork.resolveTrustedKey ⟨plainEvaluations K, ordersStore, reader⟩ signingKey =
      some ordersKey := by rfl
  simp only [checkInsertion, bind_ok_iff, hprepared]
  refine ⟨_, hscope, ordersAuthority token, hresolved, ?_⟩
  rw [ite_throw_ok_iff]
  refine ⟨by decide, ?_⟩
  simp only [hstored, bind_ok_iff, mapError_ok_iff, ite_throw_ok_iff, pure_ok_iff]
  refine ⟨[ordersFinding], rfl, _, hfindings, _, hkey, _, happroval, ?_, trivial⟩
  simp only [ne_eq, not_or, not_not]
  exact ⟨rfl, rfl, rfl, rfl, trivial, rfl, trivial⟩

/-- An evaluation of the version is committed, and stored under its key. -/
theorem orders_committed {token : EvaluationAuthorityToken} {d : String}
    (htoken : isCanonicalizable paddingRuntime asciiTables (authorityTokenJson token) = true)
    (hresolved : OrdersResolved K writtenReason none token)
    (hdigest : requestDigest (plainEvaluations K) publisher (ordersCommand writtenReason)
      inventoryAuthority = .ok d) (hisDigest : isDigest d.toList = true) :
    ∃ artifact result, commitEvaluation (plainEvaluations K) ordersStore
        (ordersRequest token d) ordersEvidence commitClock =
          .ok (artifact, withEvaluation ordersStore artifact) ∧
      artifact.actorId = "ada" ∧ artifact.workloadId = "orders" ∧ artifact.idempotencyKey = "key-1" ∧
      artifact.requestDigest = d ∧ artifact.material = ordersMaterial writtenReason ∧
      resultOf (plainEvaluations K) artifact = .ok result := by
  obtain ⟨hagain, anchorKey, hstored, hvalid, hkey, happroval⟩ := resolveAuthority_again hresolved
  have hanchorKey : UnitOfWork.resolveTrustedKey ⟨plainEvaluations K, ordersStore, reader⟩ signingKey =
      some ordersKey := by rfl
  obtain rfl : ordersKey = anchorKey := Option.some.inj (hanchorKey.symm.trans hstored)
  obtain ⟨normalized, hnormalized, hprepared, hmaterial, hbinding, hscope, hfindings⟩ :=
    orders_normalized K token d
  have hchecked := orders_checked K (d := d) hagain hkey happroval hprepared hscope hfindings
  obtain ⟨candidate, hcandidate, -⟩ := exists_ordersDigest K (.object
    [("requestDigest".toList, textJson d),
      ("evaluationAuthority".toList,
        authorityTokenJson token),
      ("collectionAuthorityDigest".toList, textJson "authority-1"),
      ("readerAssignmentRevision".toList, textJson "reader-1"),
      ("evidenceBindingDigest".toList, textJson "binding")]) (by
    refine isCanonicalizable_object (of_decide_eq_true rfl) ?_
    simp only [List.forall_mem_cons]
    exact ⟨isCanonicalizable_plain (isPlainText_of_isDigest _ hisDigest), htoken,
      isCanonicalizable_plain (by decide), isCanonicalizable_plain (by decide),
      isCanonicalizable_plain (by decide), by simp⟩)
  let insertion : SealedInsertion plainTypes :=
    { actorId := "ada"
      workloadId := "orders"
      idempotencyKey := "key-1"
      requestDigest := d
      candidateDigest := candidate
      snapshotId := "snapshot-1"
      temporalValidity := ordersArtifact.temporalValidity
      trustedKey := ordersKey
      material := ordersMaterial writtenReason
      envelopeAttemptId := "attempt-1"
      envelope := ⟨"response", "digest", ()⟩ }
  have hsealed : sealInsertion (plainEvaluations K)
      (ordersRequest token d)
      ⟨inventoryAuthority, normalized,
        ordersAuthority token, ordersKey⟩ =
      .ok insertion := by
    simp only [sealInsertion, bind_ok_iff, pure_ok_iff, hbinding, hmaterial, hprepared]
    exact ⟨d, hdigest, candidate, hcandidate, rfl⟩
  obtain ⟨header, hreads, -⟩ := orders_readsAsItself K
  obtain ⟨e, he⟩ := exists_eventTimeAt (t := commitTime) (by decide) (by decide)
  obtain ⟨result, hbuilt, hreparsed, -⟩ := hreads.result he (.inr (.inl rfl))
  have hresult := Option.bind_eq_some_iff.mpr ⟨result, hbuilt, hreparsed⟩
  let artifact : StoredEvaluation plainTypes :=
    ⟨"ada", "orders", "key-1", d, candidate, "snapshot-1", commitTime, ordersMaterial writtenReason,
      "attempt-1", ⟨"response", "digest", ()⟩⟩
  refine ⟨artifact, result, ?_, rfl, rfl, rfl, rfl, rfl, resultOf_of_rendered hresult⟩
  have hreceipt : UnitOfWork.loadReceipt ⟨plainEvaluations K, ordersStore, reader⟩ "ada" "orders"
      "key-1" = .ok none := rfl
  have hartifact := orders_artifact K (d := d) hvalid
  have hclock : commitClock.authorityCheckedAt = .ok commitTime := rfl
  have hnew : checkNew ordersStore insertion = .ok () := rfl
  have hfinal : finalizeEvaluation insertion commitClock.publishedAt = .ok artifact := rfl
  have hput := putEvaluation_of_ok hanchorKey hkey hartifact hnormalized hclock hchecked hsealed hnew
    hfinal
  simp only [commitEvaluation, ordersEvidence, bind_ok_iff]
  exact ⟨none, hreceipt, commitNew_of_ok rfl rfl hagain (by decide) rfl hagain hput⟩

/-! ## Its run -/

/-- One evaluation from its preparation to its commit, and the preparation of a second one under
the same key, whose reason is spelled otherwise. -/
def ordersEvents : ℕ → EvaluationEvent ℕ plainTypes
  | 0 => .prepare 0 (ordersCall writtenReason) (.ok commitTime)
  | 1 => .register 0
  | 2 => .collect 0 (.ok ordersEvidence)
  | 3 => .take 0
  | 4 => .commit 0 commitClock
  | _ => .prepare 1 (ordersCall spelledReason) (.ok commitTime)

def ordersStates : ℕ → EvaluationState ℕ ℕ plainTypes :=
  states (after (plainEvaluations K)) ⟨ordersStore, .empty, 0, fun _ => none⟩ ordersEvents

/-- The run up to a number of events. -/
def ordersHistory (n : ℕ) : History (evaluationSystem (plainEvaluations K)) where
  length := n
  state := ordersStates K
  event := ordersEvents
  starts := ⟨rfl, rfl, rfl, fun _ => rfl⟩
  steps _ _ := rfl

theorem ordersHistory_state (n : ℕ) : (ordersHistory K n).state = ordersStates K := rfl

theorem ordersHistory_event (n : ℕ) : (ordersHistory K n).event = ordersEvents := rfl

theorem ordersStates_succ (i : ℕ) : ordersStates K (i + 1) =
    after (plainEvaluations K) (ordersStates K i) (ordersEvents i) := rfl

/-- What the run commits. -/
theorem orders_taken : ∃ c request artifact,
    (ordersStates K 4).phase 0 = some (.taken c request ordersEvidence) ∧
      commitEvaluation (plainEvaluations K) (ordersStates K 4).store request ordersEvidence commitClock =
        .ok (artifact, withEvaluation ordersStore artifact) ∧
      artifact.material = ordersMaterial writtenReason := by
  obtain ⟨token, htoken, hresolved⟩ := orders_resolved K writtenReason
  obtain ⟨d, hisDigest, hwritten, -⟩ := orders_requestDigest K
  obtain ⟨artifact, -, hcommit, -, -, -, -, hmaterial, -⟩ :=
    orders_committed K htoken hresolved hwritten hisDigest
  have h₁ : ordersStates K 1 = _ := ordersStates_succ K 0
  have h₂ : ordersStates K 2 = _ := ordersStates_succ K 1
  have h₃ : ordersStates K 3 = _ := ordersStates_succ K 2
  have h₄ : ordersStates K 4 = _ := ordersStates_succ K 3
  obtain ⟨hstore, htaken, -⟩ := taken_of_opened (s := ordersStates K 0) (n := 0) rfl
    (orders_opened K hresolved hwritten) h₁ h₂ h₃ h₄
  refine ⟨_, _, artifact, htaken, ?_, hmaterial⟩
  rw [hstore]
  exact hcommit

/-- Both evaluations of the run have one result. -/
theorem orders_answered : ∃ result,
    Answered (plainEvaluations K) (ordersStates K 4) (ordersEvents 4) publisher "key-1"
      (ordersCommand writtenReason) (.ok result) ∧
    Answered (plainEvaluations K) (ordersStates K 5) (ordersEvents 5) publisher "key-1"
      (ordersCommand spelledReason) (.ok result) := by
  obtain ⟨token, htoken, hresolved⟩ := orders_resolved K writtenReason
  obtain ⟨d, hisDigest, hwritten, hspelled⟩ := orders_requestDigest K
  obtain ⟨artifact, result, hcommit, hactor, hworkload, hkey, hdigest, -, hresult⟩ :=
    orders_committed K htoken hresolved hwritten hisDigest
  have hstep := ordersStates_succ K
  have hstored : (withEvaluation ordersStore artifact).others.evaluationReceipts.get?
      ("ada", "orders", "key-1") = some artifact := by
    rw [← hactor, ← hworkload, ← hkey]
    exact Dictionary.get?_set_self
  obtain ⟨grantToken, hauthorized, -⟩ := orders_authorized K publisher .publish publisherGrant (by decide)
    (by decide) (by decide +kernel)
  have hreplay : prepareRequest (plainEvaluations K) (withEvaluation ordersStore artifact)
      (ordersCall spelledReason) commitTime = .ok (.replay artifact) :=
    prepareRequest_replay (collectionRequest_of_ok rfl (hdigest ▸ hspelled)) hworkload hstored
      hauthorized
  have hanswered := answered_twice (n := 0) (m := 1) (s := ordersStates K 0) rfl rfl (by decide)
    (hstep 0) (hstep 1) (hstep 2) (hstep 3) (hstep 4) (orders_opened K hresolved hwritten) hcommit
    hreplay hresult
  exact ⟨result, hanswered⟩

end Orders

end AthenaContext.EvaluationRuns
