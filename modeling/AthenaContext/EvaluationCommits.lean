import AthenaContext.EvaluationAdministration
import AthenaContext.RenderedResults

/-!
# Commits of demo evaluations

What a commit that returned has read and written: it answered with the evaluation of its key,
or stored one new evaluation under a free key and a free snapshot, whose authority is the one
of its request and whose result can be read.
-/

namespace AthenaContext.EvaluationPublication

open TimestampText ContractDocuments DocumentDigests
open FallibleResults
open ContextRecords EvaluationRecords EvaluationResults
open EvaluationAuthority EvaluationAuthority.EvaluationService

variable {γ δ : Type} {E : EvidenceTypes} {S : EvaluationService γ δ E}

/-! ## Names of what is digested -/

theorem keys_commandMembers (c c' : DemoEvaluationCommand) :
    (commandMembers c).map Prod.fst = (commandMembers c').map Prod.fst := rfl

theorem areFieldNames_commandMembers (c : DemoEvaluationCommand) :
    AreFieldNames ((commandMembers c).map Prod.fst) := by
  simp only [commandMembers, List.map_cons, List.map_nil]
  decide

theorem keys_requestMembers (actor actor' : Actor) (c c' : DemoEvaluationCommand)
    (authority authority' : EvaluationCollectionAuthority) :
    (requestMembers actor c authority).map Prod.fst =
      (requestMembers actor' c' authority').map Prod.fst := rfl

theorem areFieldNames_requestMembers (actor : Actor) (c : DemoEvaluationCommand)
    (authority : EvaluationCollectionAuthority) :
    AreFieldNames ((requestMembers actor c authority).map Prod.fst) := by
  simp only [requestMembers, List.map_cons, List.map_nil]
  decide

/-! ## Preparation -/

theorem checkReplay_ok {W : UnitOfWork γ δ E} {actor : Actor} {manifestId digest conflict : String}
    {replay : StoredEvaluation E}
    (h : checkReplay W actor manifestId digest conflict replay = .ok ()) :
    replay.workloadId = manifestId ∧ replay.requestDigest = digest := by
  simp only [checkReplay, ite_throw_ok_iff, bind_ok_iff, ne_eq, not_not] at h
  obtain ⟨hworkload, _, -, hdigest⟩ := h
  split at hdigest
  · cases hdigest
  · next hsame => exact ⟨hworkload, not_not.mp hsame⟩

/-- A stored evaluation answers a request of its digest by an actor that may still publish. -/
theorem checkReplay_of_same {W : UnitOfWork γ δ E} {actor : Actor} {manifestId conflict : String}
    {replay : StoredEvaluation E} {token : AuthorizationGrantToken}
    (hworkload : replay.workloadId = manifestId)
    (hauthorized : W.authorize actor .publish manifestId = .ok token) :
    checkReplay W actor manifestId replay.requestDigest conflict replay = .ok () := by
  simp only [checkReplay, ite_throw_ok_iff, bind_ok_iff, ne_eq, not_not]
  refine ⟨hworkload, token, ?_, ?_⟩
  · rw [hworkload]
    exact hauthorized
  · simp [pure, Except.pure]

theorem loadReceipt_some {W : UnitOfWork γ δ E} {actorId workloadId key : String}
    {artifact : StoredEvaluation E}
    (h : W.loadReceipt actorId workloadId key = .ok (some artifact)) :
    W.store.others.evaluationReceipts.get? (actorId, workloadId, key) = some artifact := by
  rw [UnitOfWork.loadReceipt] at h
  split at h
  · next found hfound =>
    cases h
    exact hfound
  · split at h <;> cases h

theorem loadReceipt_of_some {W : UnitOfWork γ δ E} {actorId workloadId key : String}
    {artifact : StoredEvaluation E}
    (h : W.store.others.evaluationReceipts.get? (actorId, workloadId, key) = some artifact) :
    W.loadReceipt actorId workloadId key = .ok (some artifact) := by
  simp only [UnitOfWork.loadReceipt, h]

/-- No receipt of an actor is found under a key only where the actor has none under it. -/
theorem loadReceipt_none {W : UnitOfWork γ δ E} {actorId workloadId key : String}
    (h : W.loadReceipt actorId workloadId key = .ok none) :
    ∀ other ∈ W.store.others.evaluationReceipts.keys, ¬ (other.1 = actorId ∧ other.2.2 = key) := by
  rw [UnitOfWork.loadReceipt] at h
  split at h
  · cases h
  · split at h
    · cases h
    · next hfree => exact fun other hother hsame => hfree ⟨other, hother, hsame⟩

/-- What a preparation of a request has read. -/
structure OpenedBy (S : EvaluationService γ δ E) (store : EvaluationStore γ δ E)
    (call : EvaluationCall) (request : DemoEvaluationRequest) : Prop where
  readerActor : request.readerActor = call.readerActor
  actor : request.actor = call.actor
  idempotencyKey : request.idempotencyKey = call.idempotencyKey
  command : request.command = call.command
  collectionAuthority :
    S.buildCollectionAuthority call.command.authorizedScope = .ok request.collectionAuthority
  requestDigest :
    requestDigest S call.actor call.command request.collectionAuthority = .ok request.requestDigest
  authority : ∃ anchor v, S.trustedKeyAnchor = some anchor ∧
    UnitOfWork.AuthorityRead ⟨S, store, call.readerActor⟩ call.command anchor v ∧
      v.token = request.expectedAuthority
  free : ∀ key ∈ store.others.evaluationReceipts.keys,
    ¬ (key.1 = call.actor.actorId ∧ key.2.2 = call.idempotencyKey)

theorem requireTrust_ok {anchor : TrustedKeyAnchor} (h : requireTrust S = .ok anchor) :
    S.trustedKeyAnchor = some anchor := by
  rw [requireTrust] at h
  split at h
  · next found hfound =>
    cases h
    exact hfound
  · cases h

theorem collectionRequest_ok {call : EvaluationCall} {authority : EvaluationCollectionAuthority}
    {digest : String} (h : collectionRequest S call = .ok (authority, digest)) :
    S.buildCollectionAuthority call.command.authorizedScope = .ok authority ∧
      requestDigest S call.actor call.command authority = .ok digest := by
  simp only [collectionRequest, bind_ok_iff, mapError_ok_iff, pure_ok_iff, Prod.mk.injEq] at h
  obtain ⟨_, hauthority, _, hdigest, rfl, rfl⟩ := h
  exact ⟨hauthority, hdigest⟩

theorem collectionRequest_of_ok {call : EvaluationCall} {authority : EvaluationCollectionAuthority}
    {digest : String}
    (hauthority : S.buildCollectionAuthority call.command.authorizedScope = .ok authority)
    (hdigest : requestDigest S call.actor call.command authority = .ok digest) :
    collectionRequest S call = .ok (authority, digest) := by
  simp only [collectionRequest, bind_ok_iff, mapError_ok_iff, pure_ok_iff]
  exact ⟨authority, hauthority, digest, hdigest, rfl⟩

/-- A preparation answers with the evaluation of its key and digest, or opens a request. -/
theorem prepareRequest_ok {store : EvaluationStore γ δ E} {call : EvaluationCall}
    {asOf : Timestamp} {prepared : Prepared γ E}
    (h : prepareRequest S store call asOf = .ok prepared) :
    ∃ authority digest, collectionRequest S call = .ok (authority, digest) ∧
      ((∃ artifact, prepared = .replay artifact ∧ artifact.requestDigest = digest ∧
          artifact.workloadId = call.command.manifestId ∧
          store.others.evaluationReceipts.get?
            (call.actor.actorId, call.command.manifestId, call.idempotencyKey) = some artifact) ∨
        ∃ approval resolved request, prepared = .opened approval resolved request ∧
          OpenedBy S store call request) := by
  simp only [prepareRequest, bind_ok_iff] at h
  obtain ⟨⟨authority, digest⟩, hcollection, _, -, receipt, hreceipt, hprepared⟩ := h
  refine ⟨authority, digest, hcollection, ?_⟩
  obtain ⟨hauthority, hdigest⟩ := collectionRequest_ok hcollection
  split at hprepared
  · next artifact =>
    simp only [bind_ok_iff, pure_ok_iff] at hprepared
    obtain ⟨_, hcheck, rfl⟩ := hprepared
    obtain ⟨hworkload, hsame⟩ := checkReplay_ok hcheck
    exact .inl ⟨artifact, rfl, hsame, hworkload, loadReceipt_some hreceipt⟩
  · simp only [openRequest, bind_ok_iff, pure_ok_iff] at hprepared
    obtain ⟨anchor, hanchor, v, hv, rfl⟩ := hprepared
    have hread := (UnitOfWork.resolveAuthority_ok hv).1
    exact .inr ⟨_, _, _, rfl, rfl, rfl, rfl, rfl, hauthority, hdigest,
      ⟨anchor, v, requireTrust_ok hanchor, hread, rfl⟩, loadReceipt_none hreceipt⟩

/-- A repeated request of an actor that may still publish is answered from its evaluation. -/
theorem prepareRequest_replay {store : EvaluationStore γ δ E} {call : EvaluationCall}
    {asOf : Timestamp} {artifact : StoredEvaluation E} {authority : EvaluationCollectionAuthority}
    {token : AuthorizationGrantToken}
    (hcollection : collectionRequest S call = .ok (authority, artifact.requestDigest))
    (hworkload : artifact.workloadId = call.command.manifestId)
    (hstored : store.others.evaluationReceipts.get?
      (call.actor.actorId, call.command.manifestId, call.idempotencyKey) = some artifact)
    (hauthorized : UnitOfWork.authorize ⟨S, store, call.readerActor⟩ call.actor .publish
      call.command.manifestId = .ok token) :
    prepareRequest S store call asOf = .ok (.replay artifact) := by
  simp only [prepareRequest, bind_ok_iff]
  refine ⟨_, hcollection, token, hauthorized, some artifact, loadReceipt_of_some hstored, ?_⟩
  simp only [bind_ok_iff, pure_ok_iff]
  exact ⟨(), checkReplay_of_same hworkload hauthorized, trivial⟩

/-! ## Normalization -/

theorem accepted_ok_iff {α : Type} {value : Option α} {a : α} :
    accepted value = .ok a ↔ value = some a := by
  cases value with
  | none => simp [accepted]
  | some b => simp [accepted]

/-- The result of exercised material can be read at the time of its snapshot. -/
theorem exerciseResult_ok {material : StoredEvaluationMaterial E}
    (h : exerciseResult S material = .ok ()) :
    ∃ result, S.renderer.renderedResult material material.snapshot.collectedAt = some result := by
  simp only [exerciseResult, bind_ok_iff, accepted_ok_iff] at h
  obtain ⟨_, -, result, hresult, -⟩ := h
  exact ⟨result, hresult⟩

/-- The bounds of a validity are inside the calendar. -/
theorem publishedDatetimes_ok {v : EvaluationTemporalValidity}
    (h : publishedDatetimes v = .ok ()) : v.approvalExpiresAt < endOfTime := by
  simp only [publishedDatetimes, bind_ok_iff] at h
  obtain ⟨_, htimes, -⟩ := h
  obtain ⟨_, -, htime⟩ := mapM_ok_left htimes (x := v.approvalExpiresAt) (by simp)
  rw [publishedDatetime] at htime
  split at htime
  · next hsome =>
    obtain ⟨e, he⟩ := Option.isSome_iff_exists.mp hsome
    rw [eventTimeAt] at he
    split at he
    · next hbounds => exact hbounds.2
    · cases he
  · cases htime

/-- What the material of a normalized artifact takes from its request, and what was tried on it. -/
structure NormalizedFor (S : EvaluationService γ δ E) (request : DemoEvaluationRequest)
    (normalized : NormalizedPreparation E) : Prop where
  actor : normalized.material.actor = request.actor
  snapshot : normalized.material.snapshot = normalized.prepared.snapshot
  inCalendar : normalized.prepared.temporalValidity.approvalExpiresAt < endOfTime
  readable : ∃ result, S.renderer.renderedResult normalized.material
    normalized.material.snapshot.collectedAt = some result

theorem normalizePreparation_ok {prepared : PreparedEvaluationArtifact E}
    {request : DemoEvaluationRequest} {authority : EvaluationCollectionAuthority}
    {normalized : NormalizedPreparation E}
    (h : normalizePreparation S prepared request authority = .ok normalized) :
    NormalizedFor S request normalized := by
  simp only [normalizePreparation, bind_ok_iff, pure_ok_iff] at h
  obtain ⟨snapshot, -, scope, -, findings, -, envelope, -, collected, -, _, hdates, binding, -, _,
    hexercise, text, -, texts, -, rfl⟩ := h
  exact ⟨rfl, rfl, publishedDatetimes_ok hdates, exerciseResult_ok hexercise⟩

theorem normalizeForInsertion_ok {request : DemoEvaluationRequest}
    {prepared : PreparedEvaluationArtifact E} {authority : EvaluationCollectionAuthority}
    {normalized : NormalizedPreparation E}
    (h : normalizeForInsertion S request prepared = .ok (authority, normalized)) :
    authority = request.collectionAuthority ∧ NormalizedFor S request normalized := by
  simp only [normalizeForInsertion, bind_ok_iff, mapError_ok_iff, ite_throw_ok_iff, pure_ok_iff,
    Prod.mk.injEq, ne_eq, not_not] at h
  obtain ⟨_, -, hsame, _, hnormalized, _, -, rfl, rfl⟩ := h
  exact ⟨hsame, normalizePreparation_ok hnormalized⟩

/-! ## Insertion -/

/-- A sealed insertion belongs to a checked artifact of a request. -/
structure SealedFor (S : EvaluationService γ δ E) (request : DemoEvaluationRequest)
    (checked : CheckedInsertion γ E) (insertion : SealedInsertion E) : Prop where
  actorId : insertion.actorId = checked.normalized.material.actor.actorId
  workloadId : insertion.workloadId = checked.authority.resolved.published.manifestId
  idempotencyKey : insertion.idempotencyKey = request.idempotencyKey
  requestDigest : requestDigest S request.actor request.command checked.collectionAuthority =
    .ok insertion.requestDigest
  temporalValidity : insertion.temporalValidity = checked.normalized.prepared.temporalValidity
  material : insertion.material = checked.normalized.material

theorem sealInsertion_ok {request : DemoEvaluationRequest} {checked : CheckedInsertion γ E}
    {insertion : SealedInsertion E} (h : sealInsertion S request checked = .ok insertion) :
    SealedFor S request checked insertion := by
  simp only [sealInsertion, bind_ok_iff, pure_ok_iff] at h
  obtain ⟨digest, hdigest, _, -, rfl⟩ := h
  exact ⟨rfl, rfl, rfl, hdigest, rfl, rfl⟩

/-- The authority of a checked insertion is the one of its request, and its validity is the one
of the artifact. -/
theorem checkInsertion_ok {W : UnitOfWork γ δ E} {request : DemoEvaluationRequest}
    {anchor : TrustedKeyAnchor} {authority : EvaluationCollectionAuthority}
    {normalized : NormalizedPreparation E} {checkedAt : Timestamp} {checked : CheckedInsertion γ E}
    (h : checkInsertion W request anchor authority normalized checkedAt = .ok checked) :
    checked.collectionAuthority = authority ∧ checked.normalized = normalized ∧
      W.AuthorityRead request.command anchor checked.authority ∧
      checked.authority.token = request.expectedAuthority ∧
      normalized.prepared.temporalValidity.snapshotActiveFrom =
        normalized.prepared.snapshot.collectedAt := by
  simp only [checkInsertion, bind_ok_iff] at h
  obtain ⟨scope, -, v, hv, h⟩ := h
  rw [ite_throw_ok_iff] at h
  obtain ⟨-, h⟩ := h
  split at h
  · cases h
  · simp only [bind_ok_iff, ite_throw_ok_iff, mapError_ok_iff, pure_ok_iff, not_or, ne_eq,
      not_not] at h
    obtain ⟨_, -, _, -, _, -, _, -, ⟨-, htoken, -, -, -, hvalidity, -⟩, rfl⟩ := h
    obtain ⟨hread, -⟩ := UnitOfWork.resolveAuthority_ok hv
    refine ⟨rfl, rfl, hread, htoken, ?_⟩
    rw [hvalidity, temporalValidity]

theorem checkNew_ok {store : EvaluationStore γ δ E} {insertion : SealedInsertion E}
    (h : checkNew store insertion = .ok ()) :
    (∀ key ∈ store.others.evaluationReceipts.keys,
        ¬ (key.1 = insertion.actorId ∧ key.2.2 = insertion.idempotencyKey)) ∧
      store.others.evaluationArtifacts.get? insertion.snapshotId = none := by
  simp only [checkNew, ite_throw_ok_iff] at h
  obtain ⟨hkeys, hsnapshot⟩ := h
  refine ⟨fun key hkey hsame => hkeys ⟨key, hkey, hsame⟩, ?_⟩
  split at hsnapshot
  · cases hsnapshot
  · next hfree => exact Option.not_isSome_iff_eq_none.mp hfree

/-- A finished evaluation is the sealed one, published inside its validity. -/
theorem finalizeEvaluation_ok {insertion : SealedInsertion E} {publishedAt : Timestamp}
    {artifact : StoredEvaluation E} (h : finalizeEvaluation insertion publishedAt = .ok artifact) :
    artifact =
        { actorId := insertion.actorId
          workloadId := insertion.workloadId
          idempotencyKey := insertion.idempotencyKey
          requestDigest := insertion.requestDigest
          candidateDigest := insertion.candidateDigest
          snapshotId := insertion.snapshotId
          publishedAt := publishedAt
          material := insertion.material
          envelopeAttemptId := insertion.envelopeAttemptId
          envelope := insertion.envelope } ∧
      insertion.temporalValidity.snapshotActiveFrom ≤ publishedAt ∧
      publishedAt < insertion.temporalValidity.approvalExpiresAt := by
  simp only [finalizeEvaluation, ite_throw_ok_iff, pure_ok_iff, not_not] at h
  obtain ⟨happroval, -, hsnapshot, -, -, -, rfl⟩ := h
  exact ⟨rfl, hsnapshot.1 _ rfl, happroval.2.2.2 _ rfl⟩

/-- An evaluation that a commit stores, and what it has read of the store before. -/
structure NewEvaluation (S : EvaluationService γ δ E) (store : EvaluationStore γ δ E)
    (request : DemoEvaluationRequest) (artifact : StoredEvaluation E) : Prop where
  actorId : artifact.actorId = request.actor.actorId
  workloadId : artifact.workloadId = request.command.manifestId
  idempotencyKey : artifact.idempotencyKey = request.idempotencyKey
  requestDigest : requestDigest S request.actor request.command request.collectionAuthority =
    .ok artifact.requestDigest
  authority : ∃ anchor v, S.trustedKeyAnchor = some anchor ∧
    UnitOfWork.AuthorityRead ⟨S, store, request.readerActor⟩ request.command anchor v ∧
      v.token = request.expectedAuthority
  freeKey : ∀ key ∈ store.others.evaluationReceipts.keys,
    ¬ (key.1 = artifact.actorId ∧ key.2.2 = artifact.idempotencyKey)
  freeSnapshot : store.others.evaluationArtifacts.get? artifact.snapshotId = none
  exercised : ∃ result, S.renderer.renderedResult artifact.material
    artifact.material.snapshot.collectedAt = some result
  afterSnapshot : artifact.material.snapshot.collectedAt ≤ artifact.publishedAt
  inCalendar : artifact.publishedAt < endOfTime

/-- The result of a new evaluation can be read. -/
theorem NewEvaluation.readable {store : EvaluationStore γ δ E} {request : DemoEvaluationRequest}
    {artifact : StoredEvaluation E} (h : NewEvaluation S store request artifact)
    (hdigests : ∀ r r',
      S.renderer.buildResult artifact.material artifact.material.snapshot.collectedAt = some r →
      S.renderer.reparse r = some r' → Distinguishes S.renderer.runtime S.renderer.tables
        S.renderer.sha256 (S.renderer.digestPayload r) (S.renderer.digestPayload r')) :
    ∃ result, resultOf S artifact = .ok result := by
  obtain ⟨earlier, hearlier⟩ := h.exercised
  obtain ⟨result, hresult⟩ := EvaluationResults.Renderer.renderedResult_later hdigests hearlier
    h.afterSnapshot h.inCalendar
  refine ⟨result, ?_⟩
  rw [resultOf, hresult]

theorem putEvaluation_ok {W : UnitOfWork γ δ E} {request : DemoEvaluationRequest}
    {anchor : TrustedKeyAnchor}
    {preparation : EvaluationTrustedKeyAuthority → Outcome (PreparedEvaluationArtifact E)}
    {clock : CommitClock} {artifact : StoredEvaluation E} {after : EvaluationStore γ δ E}
    (hreader : W.readerActor = request.readerActor)
    (hanchor : W.service.trustedKeyAnchor = some anchor)
    (h : putEvaluation W request anchor preparation clock = .ok (artifact, after)) :
    after = withEvaluation W.store artifact ∧ NewEvaluation W.service W.store request artifact := by
  rw [putEvaluation] at h
  split at h
  · cases h
  · simp only [bind_ok_iff, ite_throw_ok_iff, mapError_ok_iff, pure_ok_iff, Prod.mk.injEq] at h
    obtain ⟨_, -, -, prepared, -, ⟨authority, normalized⟩, hnormalized, checkedAt, -, checked,
      hchecked, insertion, hsealed, _, hnew, artifact', hartifact, rfl, rfl⟩ := h
    obtain ⟨rfl, hnormal⟩ := normalizeForInsertion_ok hnormalized
    obtain ⟨hauthority, rfl, hread, htoken, hactive⟩ := checkInsertion_ok hchecked
    have hseal := sealInsertion_ok hsealed
    obtain ⟨hkey, hsnapshot⟩ := checkNew_ok hnew
    obtain ⟨rfl, hfrom, huntil⟩ := finalizeEvaluation_ok hartifact
    refine ⟨rfl, ?_⟩
    rw [hseal.temporalValidity] at hfrom huntil
    exact
      { actorId := hseal.actorId.trans (congrArg Actor.actorId hnormal.actor)
        workloadId := hseal.workloadId.trans hread.manifestId
        idempotencyKey := hseal.idempotencyKey
        requestDigest := by
          have hdigest := hseal.requestDigest
          rw [hauthority] at hdigest
          exact hdigest
        authority := ⟨anchor, checked.authority, hanchor, hreader ▸ hread, htoken⟩
        freeKey := hkey
        freeSnapshot := hsnapshot
        exercised := hseal.material ▸ hnormal.readable
        afterSnapshot := by
          rw [hseal.material, hnormal.snapshot, ← hactive]
          exact hfrom
        inCalendar := huntil.trans hnormal.inCalendar }

/-- A commit answers with the evaluation of its key and leaves the store, or stores one. -/
theorem commitEvaluation_ok {store after : EvaluationStore γ δ E} {request : DemoEvaluationRequest}
    {evidence : CollectedSnapshot E} {clock : CommitClock} {artifact : StoredEvaluation E}
    (h : commitEvaluation S store request evidence clock = .ok (artifact, after)) :
    (after = store ∧ artifact.requestDigest = request.requestDigest ∧
        artifact.workloadId = request.command.manifestId ∧
        store.others.evaluationReceipts.get?
          (request.actor.actorId, request.command.manifestId, request.idempotencyKey) =
            some artifact) ∨
      after = withEvaluation store artifact ∧ NewEvaluation S store request artifact := by
  rw [commitEvaluation] at h
  split at h
  · cases h
  · simp only [bind_ok_iff] at h
    obtain ⟨receipt, hreceipt, h⟩ := h
    split at h
    · simp only [bind_ok_iff, pure_ok_iff, Prod.mk.injEq] at h
      obtain ⟨_, hcheck, rfl, rfl⟩ := h
      obtain ⟨hworkload, hdigest⟩ := checkReplay_ok hcheck
      exact .inl ⟨rfl, hdigest, hworkload, loadReceipt_some hreceipt⟩
    · simp only [commitNew, bind_ok_iff, ite_throw_ok_iff] at h
      obtain ⟨_, -, anchor, hanchor, _, -, -, _, -, authority, -, hput⟩ := h
      exact .inr (putEvaluation_ok rfl (requireTrust_ok hanchor) hput)

/-- A commit under a key that is in use is answered from its evaluation, for the same request of
an actor that may still publish. -/
theorem commitEvaluation_replay {store : EvaluationStore γ δ E} {request : DemoEvaluationRequest}
    {evidence : CollectedSnapshot E} {clock : CommitClock} {artifact : StoredEvaluation E}
    {envelope : ValidatedEnvelope E} {token : AuthorizationGrantToken}
    (henvelope : evidence.collected.envelope = some envelope)
    (hdigest : artifact.requestDigest = request.requestDigest)
    (hworkload : artifact.workloadId = request.command.manifestId)
    (hstored : store.others.evaluationReceipts.get?
      (request.actor.actorId, request.command.manifestId, request.idempotencyKey) = some artifact)
    (hauthorized : UnitOfWork.authorize ⟨S, store, request.readerActor⟩ request.actor .publish
      request.command.manifestId = .ok token) :
    commitEvaluation S store request evidence clock = .ok (artifact, store) := by
  simp only [commitEvaluation, henvelope, bind_ok_iff]
  refine ⟨some artifact, loadReceipt_of_some hstored, ?_⟩
  simp only [bind_ok_iff, pure_ok_iff, ← hdigest]
  exact ⟨(), checkReplay_of_same hworkload hauthorized, trivial⟩

end AthenaContext.EvaluationPublication
