import AthenaContext.EvaluationProgress

/-!
# The contract of demo evaluations

Over every run: an evaluation is stored only under the authority that its preparation has read
and that no step between has changed, a capability is committed with once, evaluations have one
key and one snapshot, a repeated command has the same answer, another request under a used key
has none, and whoever raises has changed nothing.
-/

namespace AthenaContext.EvaluationRuns

open JsonText TextNormalization ContractDocuments DocumentDigests Transactions
open Histories
open ContextRecords ContextCalls EvaluationRecords EvaluationResults
open EvaluationAuthority EvaluationAdministration EvaluationPublication

variable {γ δ : Type} {E : EvidenceTypes}

section Definitions

variable (S : EvaluationService γ δ E)

/-- The authority of an evaluation that is stored at an event is the one that the preparation of
its request has read: the tokens are equal, and every state between has the same records. -/
def PreparedAuthority (H : History (evaluationSystem S)) (j : ℕ) (artifact : StoredEvaluation E) :
    Prop :=
  ∃ i < j, ∃ n call asOf request anchor, H.event i = .prepare n call (.ok asOf) ∧
    OpenedBy S (H.state i).store call request ∧ S.trustedKeyAnchor = some anchor ∧
    NewEvaluation S (H.state j).store request artifact ∧
    (∃ v, UnitOfWork.AuthorityRead ⟨S, (H.state j).store, request.readerActor⟩ request.command
      anchor v ∧ v.token = request.expectedAuthority) ∧
    ∀ k, i ≤ k → k ≤ j → SameAuthority request.command anchor.keyVaultKeyId (H.state k).store
      (H.state i).store

/-- The evaluation that an event is a step of. -/
def evaluationOf : EvaluationEvent γ E → Option ℕ
  | .prepare n _ _ => some n
  | .register n => some n
  | .collect n _ => some n
  | .present n _ _ => some n
  | .take n => some n
  | .commit n _ => some n
  | _ => none

/-- A transaction on the authority raises. -/
def Raises (s : EvaluationState γ δ E) : EvaluationEvent γ E → Prop
  | .createApproval clock actor key command =>
    ∃ e, (transaction (createApproval S clock actor key command) s.store).1 = .error e
  | .revokeApproval clock actor decisionId key command =>
    ∃ e, (transaction (revokeApproval S clock actor decisionId key command) s.store).1 = .error e
  | .replaceGrants actor grants expected =>
    ∃ e, (transaction (replaceGrants S actor grants expected) s.store).1 = .error e
  | .putTrustedKey actor authority expected =>
    ∃ e, (transaction (putTrustedKey S actor authority expected) s.store).1 = .error e
  | .context clock call => ∃ e, (perform S.contextService clock call s.store).1 = .error e
  | _ => False

/-- What evaluations guarantee over a run. -/
structure PublicationGuarantees (H : History (evaluationSystem S)) : Prop where
  authority : ∀ j < H.length, SameEvaluations (H.state j).store (H.state (j + 1)).store ∨
    ∃ artifact, (H.state (j + 1)).store = withEvaluation (H.state j).store artifact ∧
      PreparedAuthority S H j artifact
  consumed : ∀ i j, i < j → j < H.length → ∀ n m c r e r' e' clock clock',
    H.event i = .commit n clock → (H.state i).phase n = some (.taken c r e) →
    H.event j = .commit m clock' → (H.state j).phase m ≠ some (.taken c r' e')
  oneKey : ∀ j ≤ H.length, ∀ key key' a b,
    (H.state j).store.others.evaluationReceipts.get? key = some a →
    (H.state j).store.others.evaluationReceipts.get? key' = some b →
      key.1 = key'.1 ∧ key.2.2 = key'.2.2 ∨ a.snapshotId = b.snapshotId → key = key' ∧ a = b
  kept : ∀ i j, i ≤ j → j ≤ H.length → ∀ key a,
    (H.state i).store.others.evaluationReceipts.get? key = some a →
      (H.state j).store.others.evaluationReceipts.get? key = some a
  answers : ∀ j < H.length, ∀ n result, (H.state j).phase n ≠ some (.finished (.ok result)) →
    (H.state (j + 1)).phase n = some (.finished (.ok result)) →
      ∃ actor key command, Answered S (H.state j) (H.event j) actor key command (.ok result)
  repeated : ∀ i j, i < j → j < H.length → ∀ actor key command result,
    Answered S (H.state i) (H.event i) actor key command (.ok result) →
    ∀ n readerActor asOf token,
      H.event j = .prepare n ⟨readerActor, actor, key, command⟩ (.ok asOf) →
      (H.state j).phase n = none →
      UnitOfWork.authorize ⟨S, (H.state j).store, readerActor⟩ actor .publish command.manifestId =
        .ok token →
      (H.state (j + 1)).phase n = some (.finished (.ok result))
  recommitted : ∀ i j, i < j → j < H.length → ∀ actor key command result,
    Answered S (H.state i) (H.event i) actor key command (.ok result) →
    ∀ n c request evidence envelope clock token, H.event j = .commit n clock →
      (H.state j).phase n = some (.taken c request evidence) →
      evidence.collected.envelope = some envelope → request.actor = actor →
      request.idempotencyKey = key → request.command = command →
      UnitOfWork.authorize ⟨S, (H.state j).store, request.readerActor⟩ actor .publish
        command.manifestId = .ok token →
      (H.state (j + 1)).phase n = some (.finished (.ok result))
  otherRequest : ∀ i j, i < j → j < H.length → ∀ actor actor' key command command' result result',
    Answered S (H.state i) (H.event i) actor key command (.ok result) →
    Answered S (H.state j) (H.event j) actor' key command' (.ok result') →
    actor'.actorId = actor.actorId →
      result' = result ∧ command'.manifestId = command.manifestId ∧
        SameDump S.renderer.runtime S.renderer.tables (.object (commandMembers command))
          (.object (commandMembers command'))
  raised : ∀ j < H.length, ∀ n, evaluationOf (H.event j) = some n →
    (∃ k ≤ H.length, ∃ e, (H.state k).phase n = some (.finished (.error e))) →
      (H.state (j + 1)).store = (H.state j).store
  authorityRaised : ∀ j < H.length, Raises S (H.state j) (H.event j) →
    (H.state (j + 1)).store = (H.state j).store

end Definitions

section Proofs

variable {S : EvaluationService γ δ E} {H : History (evaluationSystem S)}
  {s : EvaluationState γ δ E} {event : EvaluationEvent γ E}

theorem path_authority {i j : ℕ} (hij : i ≤ j) (hj : j ≤ H.length) :
    Relation.ReflTransGen AuthorityChange (H.state i).store (H.state j).store := by
  refine H.path (f := EvaluationState.store) ?_ hij hj
  rintro s event _ rfl
  exact (after_eventStep event).authorityChange

/-- A stored evaluation has the authority of its preparation. -/
theorem preparedAuthority {j : ℕ} (hj : j < H.length) {n capability : ℕ}
    {request : DemoEvaluationRequest} {evidence : CollectedSnapshot E}
    {artifact : StoredEvaluation E}
    (htaken : (H.state j).phase n = some (.taken capability request evidence))
    (hnew : NewEvaluation S (H.state j).store request artifact) :
    PreparedAuthority S H j artifact := by
  obtain ⟨i, hi, m, call, asOf, hevent, hopened⟩ :=
    exists_preparation (by omega) (.inr (.inr ⟨n, capability, evidence, htaken⟩))
  obtain ⟨anchor, v, hanchor, hread, hv⟩ := hopened.authority
  obtain ⟨anchor', w, hanchor', hread', hw⟩ := hnew.authority
  rw [hanchor, Option.some.injEq] at hanchor'
  subst hanchor'
  rw [← hopened.command] at hread
  refine ⟨i, hi, m, call, asOf, request, anchor, hevent, hopened, hanchor, hnew, ⟨w, hread', hw⟩,
    fun k hik hkj => ?_⟩
  exact sameAuthority_between (path_authority hik (by omega)) (path_authority hkj (by omega)) hread
    hread' (hv.trans hw.symm)

/-- An evaluation changes the store where it commits a new evaluation, which it answers with. -/
theorem after_store {n : ℕ} (h : evaluationOf event = some n) :
    (after S s event).store = s.store ∨ ∃ clock c request evidence artifact,
      event = .commit n clock ∧ s.phase n = some (.taken c request evidence) ∧
        NewEvaluation S s.store request artifact ∧
        commitEvaluation S s.store request evidence clock =
          .ok (artifact, withEvaluation s.store artifact) ∧
        (after S s event).phase n = some (.finished (resultOf S artifact)) := by
  cases event with
  | prepare m call asOf => exact .inl after_prepare_store
  | register m =>
    left
    simp only [after]
    split <;> rfl
  | collect m outcome =>
    left
    simp only [after]
    split
    · cases outcome <;> rfl
    · rfl
  | present m capability evidence =>
    left
    simp only [after]
    split <;> rfl
  | take m =>
    left
    simp only [after]
    split
    · rw [takeStep]
      split <;> rfl
    · rfl
  | commit m clock =>
    cases h
    simp only [after]
    split
    · next c request evidence htaken =>
      rw [commitPrepared]
      split
      · next artifact store hcommit =>
        rcases commitEvaluation_ok hcommit with ⟨rfl, -⟩ | ⟨rfl, hnew⟩
        · exact .inl rfl
        · exact .inr ⟨clock, c, request, evidence, artifact, rfl, htaken, hnew, hcommit,
            EvaluationState.setPhase_self⟩
      · exact .inl rfl
    · exact .inl rfl
  | _ => cases h

/-- Only a preparation and a commit finish with a result. -/
theorem answered_of_finished {n : ℕ} {result : DemoEvaluationResult E}
    (hbefore : s.phase n ≠ some (.finished (.ok result)))
    (h : (after S s event).phase n = some (.finished (.ok result))) :
    ∃ actor key command, Answered S s event actor key command (.ok result) := by
  have hsame : (after S s event).phase n ≠ s.phase n := by
    rw [h]
    exact hbefore.symm
  cases event with
  | prepare m call asOf =>
    cases hnew : s.phase m with
    | some p =>
      simp only [after, hnew] at hsame
      exact absurd rfl hsame
    | none =>
      by_cases hm : n = m
      · subst hm
        exact ⟨_, _, _, .prepared n call asOf _ hnew h⟩
      · simp only [after, hnew, prepareStep] at hsame
        refine absurd ?_ hsame
        split <;> exact EvaluationState.setPhase_of_ne hm
  | register m =>
    simp only [after] at h
    split at h
    · rcases phase_setPhase h with ⟨heq, -⟩ | h
      · cases heq
      · exact absurd h hbefore
    · exact absurd h hbefore
  | collect m outcome =>
    simp only [after] at h
    split at h
    · cases outcome with
      | ok evidence =>
        rcases phase_setPhase h with ⟨heq, -⟩ | h
        · cases heq
        · exact absurd h hbefore
      | error e =>
        rcases phase_setPhase h with ⟨heq, -⟩ | h
        · cases heq
        · exact absurd h hbefore
    · exact absurd h hbefore
  | present m capability evidence =>
    simp only [after] at h
    split at h
    · rcases phase_setPhase h with ⟨heq, -⟩ | h
      · cases heq
      · exact absurd h hbefore
    · exact absurd h hbefore
  | take m =>
    simp only [after] at h
    split at h
    · rw [takeStep] at h
      split at h
      · rcases phase_setPhase h with ⟨heq, -⟩ | h
        · cases heq
        · exact absurd h hbefore
      · rcases phase_setPhase h with ⟨heq, -⟩ | h
        · cases heq
        · exact absurd h hbefore
    · exact absurd h hbefore
  | commit m clock =>
    by_cases htaken : ∃ c request evidence, s.phase m = some (.taken c request evidence)
    · obtain ⟨c, request, evidence, htaken⟩ := htaken
      by_cases hm : n = m
      · subst hm
        exact ⟨_, _, _, .committed n c request evidence clock _ htaken h⟩
      · rw [after_commit htaken] at hsame
        exact absurd (EvaluationState.setPhase_of_ne hm) hsame
    · simp only [after] at h
      split at h
      · next c request evidence hphase => exact absurd ⟨c, request, evidence, hphase⟩ htaken
      · exact absurd h hbefore
  | _ => exact absurd h hbefore

/-- A transaction that raises leaves the store. -/
theorem raises_store (h : Raises S s event) : (after S s event).store = s.store := by
  have hkeeps : ∀ {α ε : Type} {x : Transaction (EvaluationStore γ δ E) ε α} {e : ε},
      (transaction x s.store).1 = .error e → (transaction x s.store).2 = s.store := by
    intro α ε x e he
    have heq : transaction x s.store = (.error e, (transaction x s.store).2) := Prod.ext he rfl
    exact transaction_error heq
  cases event with
  | createApproval clock actor key command =>
    obtain ⟨e, he⟩ := h
    exact hkeeps he
  | revokeApproval clock actor decisionId key command =>
    obtain ⟨e, he⟩ := h
    exact hkeeps he
  | replaceGrants actor grants expected =>
    obtain ⟨e, he⟩ := h
    exact hkeeps he
  | putTrustedKey actor authority expected =>
    obtain ⟨e, he⟩ := h
    exact hkeeps he
  | context clock call =>
    obtain ⟨e, he⟩ := h
    exact hkeeps he
  | _ => cases h

/-- An evaluation that raises has stored nothing. -/
theorem raised_store (hdistinct : DistinguishesPayloads H) {j n : ℕ} (hj : j < H.length)
    (hof : evaluationOf (H.event j) = some n)
    (hraised : ∃ k ≤ H.length, ∃ e, (H.state k).phase n = some (.finished (.error e))) :
    (H.state (j + 1)).store = (H.state j).store := by
  have hlast : H.state (j + 1) = after S (H.state j) (H.event j) := H.steps j hj
  obtain ⟨k, hk, e, hk'⟩ := hraised
  rcases after_store (S := S) (s := H.state j) hof with hsame | ⟨clock, c, request, evidence, artifact,
    hevent, htaken, hnew, hcommit, hfinished⟩
  · exact hlast ▸ hsame
  · have hdigested : ∀ {r r' : DemoEvaluationResult E},
        S.renderer.buildResult artifact.material artifact.material.snapshot.collectedAt = some r →
        (r' = r ∨ S.renderer.reparse r = some r') →
        Digested S (H.state j) (H.event j) (S.renderer.digestPayload r') := by
      intro r r' hr hr'
      rw [hevent]
      exact .result n c request evidence clock artifact _ r r' htaken hcommit hr hr'
    obtain ⟨result, hresult⟩ := hnew.readable fun r r' hr hr' => hdistinct j hj j hj _ _
      (hdigested hr (.inl rfl)) (hdigested hr (.inr hr'))
    rw [← hlast, hresult] at hfinished
    have hkept : ∀ {answer : Outcome (DemoEvaluationResult E)} {a b : ℕ}, a ≤ b → b ≤ H.length →
        (H.state a).phase n = some (.finished answer) →
        (H.state b).phase n = some (.finished answer) := by
      intro answer a b hab hb ha
      refine H.kept (P := fun s => s.phase n = some (.finished answer)) ?_ hab hb ha
      rintro s event _ - rfl hs
      exact (after_eventStep event).finished_kept hs
    rcases Nat.lt_or_ge j k with hlt | hle
    · have hlater := hkept hlt hk hfinished
      rw [hk'] at hlater
      cases hlater
    · have hlater := hkept hle (by omega) hk'
      rw [htaken] at hlater
      cases hlater

/-- A repeated command is answered with the result of the first answer. -/
theorem repeated_answer {i j : ℕ} (hij : i < j) (hj : j < H.length) {actor : Actor} {key : String}
    {command : DemoEvaluationCommand} {result : DemoEvaluationResult E}
    (h : Answered S (H.state i) (H.event i) actor key command (.ok result)) {n : ℕ}
    {readerActor : Actor} {asOf : Timestamp} {token : AuthorizationGrantToken}
    (hevent : H.event j = .prepare n ⟨readerActor, actor, key, command⟩ (.ok asOf))
    (hnew : (H.state j).phase n = none)
    (hauthorized : UnitOfWork.authorize ⟨S, (H.state j).store, readerActor⟩ actor .publish
      command.manifestId = .ok token) :
    (H.state (j + 1)).phase n = some (.finished (.ok result)) := by
  obtain ⟨authority, artifact, hanswered, hresult⟩ := answered_kept hij (by omega) h
  let call : EvaluationCall := ⟨readerActor, actor, key, command⟩
  have hcollection : collectionRequest S call = .ok (authority, artifact.requestDigest) :=
    collectionRequest_of_ok hanswered.collection hanswered.requestDigest
  have hprepare : prepareRequest S (H.state j).store call asOf = .ok (.replay artifact) :=
    prepareRequest_replay hcollection hanswered.workloadId hanswered.stored hauthorized
  have hbind : ((.ok asOf : Outcome Timestamp) >>= prepareRequest S (H.state j).store call) =
      .ok (.replay artifact) := hprepare
  have hlast : H.state (j + 1) = after S (H.state j) (H.event j) := H.steps j hj
  rw [hlast, hevent]
  simp only [after, hnew, prepareStep]
  rw [hbind, ← hresult]
  exact EvaluationState.setPhase_self

/-- A commit of a repeated command has the result of the first answer. -/
theorem recommitted_answer {i j : ℕ} (hij : i < j) (hj : j < H.length) {key : String}
    {result : DemoEvaluationResult E} {n c : ℕ} {request : DemoEvaluationRequest}
    {evidence : CollectedSnapshot E} {envelope : ValidatedEnvelope E} {clock : CommitClock}
    {token : AuthorizationGrantToken}
    (h : Answered S (H.state i) (H.event i) request.actor key request.command (.ok result))
    (hevent : H.event j = .commit n clock)
    (htaken : (H.state j).phase n = some (.taken c request evidence))
    (henvelope : evidence.collected.envelope = some envelope)
    (hkey : request.idempotencyKey = key)
    (hauthorized : UnitOfWork.authorize ⟨S, (H.state j).store, request.readerActor⟩ request.actor
      .publish request.command.manifestId = .ok token) :
    (H.state (j + 1)).phase n = some (.finished (.ok result)) := by
  obtain ⟨authority, artifact, hanswered, hresult⟩ := answered_kept hij (by omega) h
  obtain ⟨hdigest, hcollection⟩ :=
    known_digest (H := H) (j := j) (by omega) request (.inr (.inr ⟨n, c, evidence, htaken⟩))
  have hauthority : authority = request.collectionAuthority :=
    Except.ok.inj (hanswered.collection.symm.trans hcollection)
  have hsame : artifact.requestDigest = request.requestDigest := by
    have hown := hanswered.requestDigest
    rw [hauthority, hdigest] at hown
    exact (Except.ok.inj hown).symm
  have hstored := hanswered.stored
  rw [← hkey] at hstored
  have hcommit : commitEvaluation S (H.state j).store request evidence clock =
      .ok (artifact, (H.state j).store) :=
    commitEvaluation_replay henvelope hsame hanswered.workloadId hstored hauthorized
  have hlast : H.state (j + 1) = after S (H.state j) (H.event j) := H.steps j hj
  rw [hlast, hevent, after_commit htaken, commitPrepared, hcommit]
  simp only [hresult]
  exact EvaluationState.setPhase_self

/-- An answer under a used key is the first one, and to the same request. -/
theorem otherRequest_answer (hdistinct : DistinguishesPayloads H) {i j : ℕ} (hij : i < j)
    (hj : j < H.length) {actor actor' : Actor} {key : String}
    {command command' : DemoEvaluationCommand} {result result' : DemoEvaluationResult E}
    (h : Answered S (H.state i) (H.event i) actor key command (.ok result))
    (h' : Answered S (H.state j) (H.event j) actor' key command' (.ok result'))
    (hactor : actor'.actorId = actor.actorId) :
    result' = result ∧ command'.manifestId = command.manifestId ∧
      SameDump S.renderer.runtime S.renderer.tables (.object (commandMembers command))
        (.object (commandMembers command')) := by
  obtain ⟨authority, artifact, hanswered, hresult⟩ := answered_kept (j := j + 1) (by omega) hj h
  obtain ⟨authority', artifact', hanswered', hresult'⟩ := answered_kept (j := j + 1) (by omega) hj h'
  have hrecorded := recorded_of_reachable (H.reachable (i := j + 1) hj)
  have hsame := hrecorded.oneKey hanswered.stored hanswered'.stored hactor.symm rfl
  have hartifact : artifact' = artifact := by
    have hstored := hanswered'.stored
    rw [← hsame, hanswered.stored] at hstored
    exact (Option.some.inj hstored).symm
  subst hartifact
  rw [hresult] at hresult'
  refine ⟨(Except.ok.inj hresult').symm, (congrArg (·.2.1) hsame).symm, ?_⟩
  obtain ⟨k, hk, hpayload⟩ := answered_digested (by omega) h hanswered.collection
  obtain ⟨k', hk', hpayload'⟩ := answered_digested hj h' hanswered'.collection
  have hdump := sameDump_of_requestDigest (hdistinct k hk k' hk' _ _ hpayload hpayload')
    hanswered.requestDigest hanswered'.requestDigest
  have hmembers := (sameDump_object (areFieldNames_requestMembers _ _ _)
    (keys_requestMembers _ _ _ _ _ _)).mp hdump
  cases hmembers with
  | cons _ hmembers =>
    cases hmembers with
    | cons _ hmembers =>
      cases hmembers with
      | cons hcommand _ => exact hcommand.2

/-- Evaluations are published once, under the authority that their preparation has read. -/
theorem evaluations_published_once (H : History (evaluationSystem S))
    (hdistinct : DistinguishesPayloads H) : PublicationGuarantees S H where
  authority j hj := by
    rcases (eventStep_at hj).evaluations with hsame | ⟨n, c, request, evidence, clock, artifact, -,
      htaken, ht, hnew, -⟩
    · exact .inl hsame
    · refine .inr ⟨artifact, ?_, preparedAuthority hj htaken hnew⟩
      rw [ht]
  consumed i j hij hj n m c r e r' e' clock clock' hevent htaken hevent' htaken' := by
    have hspent : Spent c (H.state (i + 1)) := by
      have hlast : H.state (i + 1) = after S (H.state i) (H.event i) := H.steps i (by omega)
      rw [hlast, hevent]
      exact spent_after_commit (issued_of_reachable (H.reachable (by omega))) htaken
    have hlater := H.kept (P := Spent c) (i := i + 1) (j := j) (fun s event _ _ hstep hs => by
      obtain rfl := hstep
      exact (after_eventStep event).spent hs) (by omega) (by omega) hspent
    exact hlater.2.2 m r' e' htaken'
  oneKey j hj key key' a b ha hb hor := by
    have hrecorded := recorded_of_reachable (H.reachable hj)
    rcases hor with ⟨hactor, hkey⟩ | hsnapshot
    · have hsame := hrecorded.oneKey ha hb hactor hkey
      subst hsame
      exact ⟨rfl, Option.some.inj (ha.symm.trans hb)⟩
    · obtain ⟨hown, ha'⟩ := hrecorded.byKey ha
      obtain ⟨hown', hb'⟩ := hrecorded.byKey hb
      rw [hsnapshot, hb', Option.some.injEq] at ha'
      subst ha'
      exact ⟨hown.trans hown'.symm, rfl⟩
  kept i j hij hj key a ha :=
    H.kept (P := fun s => s.store.others.evaluationReceipts.get? key = some a)
      (fun _ _ _ _ hstep hkey => receipt_kept hstep hkey) hij hj ha
  answers j hj n result hbefore hafter := by
    have hlast : H.state (j + 1) = after S (H.state j) (H.event j) := H.steps j hj
    rw [hlast] at hafter
    exact answered_of_finished hbefore hafter
  repeated _ _ hij hj _ _ _ _ h _ _ _ _ hevent hnew hauthorized :=
    repeated_answer hij hj h hevent hnew hauthorized
  recommitted i j hij hj actor key command result h n c request evidence envelope clock token hevent
      htaken henvelope hactor hkey hcommand hauthorized := by
    subst hactor hcommand
    exact recommitted_answer hij hj h hevent htaken henvelope hkey hauthorized
  otherRequest _ _ hij hj _ _ _ _ _ _ _ h h' hactor :=
    otherRequest_answer hdistinct hij hj h h' hactor
  raised _ hj _ hof hraised := raised_store hdistinct hj hof hraised
  authorityRaised j hj hraises := by
    have hlast : H.state (j + 1) = after S (H.state j) (H.event j) := H.steps j hj
    rw [hlast]
    exact raises_store hraises

end Proofs

/-! ## The run of one version -/

open ArtifactRoundTrips SignedArtifacts

/-- One digest for a text, and another for all other texts. -/
def digestOf (text : Text) : Sha256 where
  hex t := if t = text then List.replicate 64 '1' else zeros 64
  isHex_hex t := by
    split
    · decide
    · decide

variable {text : Text}

/-- A payload with the text is told apart from every other. -/
theorem distinguishes_digestOf {payload other : Json}
    (h : canonicalDump paddingRuntime asciiTables payload = some text) :
    Distinguishes paddingRuntime asciiTables (digestOf text) payload other := by
  intro digest hdigest hother
  rw [artifactDigest_eq, h, Option.map_some, Option.some.injEq] at hdigest
  rw [artifactDigest_eq, Option.map_eq_some_iff] at hother
  obtain ⟨otherText, htext, hsame⟩ := hother
  refine ⟨text, h, ?_⟩
  by_contra hne
  have hdigests := hsame.trans hdigest.symm
  rw [digest_eq, digest_eq] at hdigests
  have hhex : (digestOf text).hex otherText = (digestOf text).hex text :=
    List.append_cancel_left hdigests
  have hother : otherText ≠ text := fun heq => hne (heq ▸ htext)
  rw [digestOf] at hhex
  simp only [if_neg hother, if_true] at hhex
  exact absurd hhex (by decide)

/-- The run digests its request, in two spellings of one text, and one result. -/
theorem orders_digested (hwritten : canonicalDump paddingRuntime asciiTables (.object
      (requestMembers publisher (ordersCommand writtenReason) inventoryAuthority)) = some text)
    {i : ℕ} {payload : Json} (h : Digested (plainEvaluations (digestOf text))
      (ordersStates (digestOf text) i) (ordersEvents i) payload) :
    canonicalDump paddingRuntime asciiTables payload = some text ∨
      ∃ result, (plainEvaluations (digestOf text)).renderer.buildResult (ordersMaterial writtenReason)
        (newYear + 10) = some result ∧
          payload = (plainEvaluations (digestOf text)).renderer.digestPayload result := by
  obtain ⟨other, hother, hspelled⟩ := orders_sameRequest
  obtain rfl := Option.some.inj (hwritten.symm.trans hother)
  generalize hevent : ordersEvents i = event at h
  cases h with
  | request n call asOf authority hcollection =>
    left
    obtain rfl := Except.ok.inj hcollection
    rcases i with _ | _ | _ | _ | _ | i
    · cases hevent
      exact hwritten
    · cases hevent
    · cases hevent
    · cases hevent
    · cases hevent
    · cases hevent
      exact hspelled
  | result n c request evidence clock artifact store built result htaken hcommit hbuilds hrendered =>
    right
    have hcommits : i = 4 ∧ n = 0 ∧ clock = commitClock := by
      clear htaken hcommit
      rcases i with _ | _ | _ | _ | _ | i
      · cases hevent
      · cases hevent
      · cases hevent
      · cases hevent
      · cases hevent
        exact ⟨rfl, rfl, rfl⟩
      · cases hevent
    obtain ⟨rfl, rfl, rfl⟩ := hcommits
    obtain ⟨c', request', artifact', htaken', hcommit', hmaterial⟩ := orders_taken (digestOf text)
    cases htaken.symm.trans htaken'
    cases hcommit.symm.trans hcommit'
    rw [hmaterial] at hbuilds
    obtain ⟨header, hreads, -⟩ := orders_readsAsItself (digestOf text)
    obtain ⟨e, he⟩ := exists_eventTimeAt (t := newYear + 10) (by decide) (by decide)
    obtain ⟨r, hbuilt, hreparsed, -⟩ := hreads.result he (.inr (.inl rfl))
    obtain rfl : built = r := Option.some.inj (hbuilds.symm.trans hbuilt)
    refine ⟨built, hbuilds, ?_⟩
    rcases hrendered with rfl | hrendered
    · rfl
    · rw [Option.some.inj (hrendered.symm.trans hreparsed)]

theorem orders_distinguished (hwritten : canonicalDump paddingRuntime asciiTables (.object
      (requestMembers publisher (ordersCommand writtenReason) inventoryAuthority)) = some text) :
    DistinguishesPayloads (ordersHistory (digestOf text) 6) := by
  intro i _ j _ a b ha hb
  rcases orders_digested hwritten ha with ha | ⟨r, hr, rfl⟩
  · exact distinguishes_digestOf ha
  · rcases orders_digested hwritten hb with hb | ⟨r', hr', rfl⟩
    · intro digest hdigest hdigest'
      obtain ⟨shared, hshared, hshared'⟩ := distinguishes_digestOf hb digest hdigest' hdigest
      exact ⟨shared, hshared', hshared⟩
    · rw [Option.some.inj (hr.symm.trans hr')]
      exact Distinguishes.refl _

/-- The run stores one evaluation, and answers the other command from it. -/
theorem orders_published_once : ∃ text,
    PublicationGuarantees (plainEvaluations (digestOf text)) (ordersHistory (digestOf text) 6) ∧
      ∃ result, Answered (plainEvaluations (digestOf text)) (ordersStates (digestOf text) 4)
          (ordersEvents 4) publisher "key-1" (ordersCommand writtenReason) (.ok result) ∧
        Answered (plainEvaluations (digestOf text)) (ordersStates (digestOf text) 5) (ordersEvents 5)
          publisher "key-1" (ordersCommand spelledReason) (.ok result) := by
  obtain ⟨text, hwritten, -⟩ := orders_sameRequest
  exact ⟨text, evaluations_published_once (ordersHistory (digestOf text) 6)
    (orders_distinguished hwritten), orders_answered (digestOf text)⟩

/-- A command whose reason is another spelling of the same instant is answered under a used key,
whatever the digest is. -/
theorem spelled_command_answered : ¬ ∃ K : Sha256,
    ∀ H : History (evaluationSystem (plainEvaluations K)), ∀ i j, i < j → j < H.length →
      ∀ actor key command command' result,
        Answered (plainEvaluations K) (H.state i) (H.event i) actor key command (.ok result) →
        command' ≠ command →
        ∀ answer, Answered (plainEvaluations K) (H.state j) (H.event j) actor key command' answer →
          ∃ e, answer = .error e := by
  rintro ⟨K, hraises⟩
  obtain ⟨result, hfirst, hsecond⟩ := orders_answered K
  have hne : ordersCommand spelledReason ≠ ordersCommand writtenReason := by
    intro hsame
    have hreason : spelledReason = writtenReason := congrArg DemoEvaluationCommand.reason hsame
    simp [spelledReason, writtenReason] at hreason
  have hlast : 5 < (ordersHistory K 6).length := Nat.lt_succ_self 5
  have hanswers := hraises (ordersHistory K 6) 4 5 (Nat.lt_succ_self 4) hlast publisher "key-1"
    (ordersCommand writtenReason) (ordersCommand spelledReason) result
  rw [ordersHistory_state, ordersHistory_event] at hanswers
  obtain ⟨e, he⟩ := hanswers hfirst hne _ hsecond
  cases he

end AthenaContext.EvaluationRuns
