import AthenaContext.ArtifactRoundTrips
import AthenaContext.ProposalGuarantees

/-!
# A run of the proposal tool

A caller previews a new name of the workload `orders`, and confirms it with another spelling of
the same reason; the signer fails for a second preview.
-/

namespace AthenaContext.ProposalCalls

open JsonText TextNormalization ContractPatterns Dictionaries Histories
open ContractDocuments DocumentDigests KeyedVersions SignedArtifacts ArtifactRoundTrips
open ContextRecords ContextStorage ContextMutations ContextCalls PatchProposals

/-! ## A service over named workloads -/

/-- The digest of every manifest, in zeros. -/
def zeroText : String := String.ofList ("sha256:".toList ++ zeros 64)

/-- A content that is the name of its workload. -/
def nameJson (name : Text) : Json :=
  .object [("workload".toList, .object [("displayName".toList, .string name)])]

def readName : Json → Except ContextError Text
  | .object [(_, .object [(_, .string name)])] => .ok name
  | _ => .error ⟨.validation, "a manifest has the name of its workload"⟩

def namedContract : ManifestContract Text Json where
  dumpContent := nameJson
  canonicalContent := id
  payloadDigest _ _ := .ok zeroText
  parseContent payload := readName payload.content
  computeArtifactDigestValue _ := .ok zeroText
  rollbackContentDigest manifest := .ok manifest.manifestId
  manifestSelectorProvenance _ := []
  productionProfile _ := some "production"

def namedService : ContextService Text Json Unit := openService namedContract

/-- The manifest of `orders` as it is handed in, and as it is published. -/
def namedManifest (publishedBy : String) (publishedAt : Timestamp) : Manifest Text where
  manifestId := "orders"
  manifestVersion := ⟨1, 0, 0⟩
  artifactDigest := zeroText
  semanticDigest := zeroText
  audit := { publishedBy := publishedBy, publishedAt := publishedAt }
  content := "Orders".toList

def namedTransition (revision : ℕ) : TransitionCommand where
  expectedRevision := revision
  expectedManifestVersion := ⟨1, 0, 0⟩
  expectedDigest := zeroText
  reason := "release"

def namedReceipt (revision : ℕ) (now : Timestamp) : IssueOperationalContextReceiptCommand where
  manifestId := "orders"
  manifestVersion := ⟨1, 0, 0⟩
  profileId := "production"
  draftId := "first"
  draftRevision := revision
  manifestDigest := zeroText
  profileDigest := "profile-digest"
  snapshotId := "snapshot"
  collectedAt := now
  expiresAt := now + 10
  evidenceInventory := []
  evidenceInventoryDigest := "inventory"
  contentDigest := "content"
  bindingDigest := "binding"

def namedCall (now : Timestamp) (c : Call (Manifest Text)) : StoreEvent (Manifest Text) Unit :=
  .call ⟨.ok now, .ok now⟩ c

/-- The release of the first version of `orders`. -/
def namedRelease : List (StoreEvent (Manifest Text) Unit) :=
  [namedCall 0 (.createDraft editor "create"
    { draftId := "first"
      manifest := namedManifest "editor" 0
      manifestDigest := zeroText
      previousVersion := none
      rollbackSourceVersion := none
      reason := "release" }),
   namedCall 1 (.validateDraft editor "first" "validate" (namedTransition 1)),
   namedCall 2 (.submitForReview editor "first" "submit" (namedTransition 2)),
   namedCall 3 (.reviewDraft editor "first" "review"
    { namedTransition 3 with
      decision := .approved
      comments := "none" }),
   namedCall 4 (.issueOperationalContextReceipt collector "issue" (namedReceipt 4 4)),
   namedCall 5 (.approveDraft editor "first" "approve"
    { namedTransition 4 with
      operationalContextReceiptId := "receipt-first-4" }),
   namedCall 6 (.issueOperationalContextReceipt collector "reissue" (namedReceipt 5 6)),
   namedCall 7 (.publishDraft editor "first" "publish"
    { namedTransition 5 with
      approvalId := "first-r5-approval"
      operationalContextReceiptId := "receipt-first-5" })]

def namedStore : Store Text Json Unit := runEvents namedService (.empty ()) namedRelease

theorem namedStore_reachable : (contextSystem namedService).Reachable namedStore :=
  reachable_runEvents namedRelease (.start ⟨(), rfl⟩)

/-! ## Its responses -/

def capabilityToken : Text := List.replicate 32 't'

def renamePreview : ManifestPatchPreview where
  workloadId := ⟨"orders".toList, "toolInput", "/workload_id".toList⟩
  baseManifestVersion := ⟨"1.0.0".toList, "toolInput", "/base_manifest_version".toList⟩
  proposedManifestVersion := ⟨"1.1.0".toList, "toolInput", "/proposed_manifest_version".toList⟩
  draftId := ⟨"second".toList, "toolInput", "/draft_id".toList⟩
  patchDigest := zeroText.toList
  changedPaths := [⟨displayNamePath, "toolInput", "/operations/path".toList⟩]

/-- The response of the first preview. -/
def renameOutput : ManifestPatchOutput where
  preview := renamePreview
  result := .preview ⟨"challenge-1", capabilityToken, 300010⟩
  citations :=
    [{ manifestId := ⟨"orders".toList, "publishedManifest", "/manifestId".toList⟩
       manifestVersion := ⟨"1.0.0".toList, "publishedManifest", "/manifestVersion".toList⟩
       profileId := ⟨"production".toList, "resolvedProfile", "/profileId".toList⟩
       clauseId := ⟨"patch-preview".toList, "resolvedProfile", displayNamePath⟩
       clausePath := ⟨displayNamePath, "resolvedProfile", displayNamePath⟩
       refType := "publishedManifest"
       reference := ⟨zeroText.toList, "publishedManifest", "/manifestDigest".toList⟩ }]

/-- The response that its confirmation is going to have. -/
def renamePredicted : ManifestPatchOutput where
  preview := renamePreview
  result := .confirmed ⟨⟨"second".toList, "draftProposal", "/draftId".toList⟩, 1, zeroText⟩
  citations :=
    [{ manifestId := ⟨"orders".toList, "draftProposal", "/manifestId".toList⟩
       manifestVersion := ⟨"1.1.0".toList, "draftProposal", "/manifestVersion".toList⟩
       profileId := ⟨"production".toList, "draftProposal", "/profileId".toList⟩
       clauseId := ⟨"draft-proposal".toList, "draftProposal", "/draftId".toList⟩
       clausePath := ⟨displayNamePath, "toolInput", "/operations/path".toList⟩
       refType := "draftProposal"
       reference := ⟨"second".toList, "draftProposal", "/draftId".toList⟩ }]

/-- A tool over the service, whose responses just fit. -/
def namedServer : ProposalServer Text Unit where
  service := namedService
  runtime := paddingRuntime
  tables := asciiTables
  sha256 := zeroDigest
  casefold := id
  profileIds _ := ["production"]
  dumpSetFields := nameJson
  canonicalJson manifest := manifest.content
  matchesInjection _ := false
  maxInputBytes := 16384
  input_bounds := by decide
  maxOutputBytes := max (JsonSizes.size (outputJson renameOutput))
    (JsonSizes.size (outputJson renamePredicted))
  confirmationTtlSeconds := 300
  ttl_bounds := by decide

theorem namedServer_digests : DigestTexts namedServer.service.contract where
  payload h := by
    obtain rfl := Except.ok.inj h
    decide
  computed h := by
    obtain rfl := Except.ok.inj h
    decide

/-! ## The calls -/

def agent : ToolCallContext where
  authentication :=
    { actor := ⟨"agent-1", .agent⟩
      subjectId := "subject"
      issuer := "issuer"
      audience := "audience"
      method := .entraJwt }
  authorizedWorkloadIds := ["orders"]

/-- The reason in canonical form, and the same instant in another spelling. -/
def writtenInstant : Text := "2026-01-01T00:00:00.000Z".toList

def spelledInstant : Text := "2026-01-01T00:00:00Z".toList

def renameRequest (phase : ProposalPhase) (reason : Text) (token : Option Text) :
    ProposeManifestPatchInput where
  phase := phase
  workloadId := "orders"
  baseManifestVersion := ⟨1, 0, 0⟩
  proposedManifestVersion := ⟨1, 1, 0⟩
  profileId := "production"
  draftId := "second"
  idempotencyKey := "rename"
  reason := reason
  operations := [⟨displayNamePath, "Purchase orders".toList⟩]
  confirmationToken := token

def renameArguments (phase : String) (reason : Text) (token : List (Text × Json)) : Json :=
  .object ([("phase".toList, textValue phase), ("workload_id".toList, textValue "orders"),
    ("base_manifest_version".toList, textValue "1.0.0"),
    ("proposed_manifest_version".toList, textValue "1.1.0"),
    ("profile_id".toList, textValue "production"), ("draft_id".toList, textValue "second"),
    ("idempotency_key".toList, textValue "rename"), ("reason".toList, .string reason),
    ("operations".toList, .array [operationJson ⟨displayNamePath, "Purchase orders".toList⟩])] ++
      token)

theorem openCall_preview : namedServer.openCall agent (renameArguments "preview" writtenInstant []) =
    .ok (renameRequest .preview writtenInstant none) := by rfl

theorem openCall_confirm : namedServer.openCall agent (renameArguments "confirm" spelledInstant
    [("confirmation_token".toList, .string capabilityToken)]) =
      .ok (renameRequest .confirm spelledInstant (some capabilityToken)) := by rfl

/-- The claims of the first preview. -/
def renameClaims : ConfirmationClaims where
  binding :=
    { actorId := "agent-1"
      subjectId := "subject"
      issuer := "issuer"
      audience := "audience"
      authenticationMethod := .entraJwt
      workloadId := "orders"
      patchDigest := zeroText.toList
      expiresAt := 300010 }
  challengeId := "challenge-1"

/-- A preview, a preview whose claims are not signed, and the confirmation of the first one. -/
def renameEvents : ℕ → ProposalEvent Text Unit
  | 0 => .receive 0 agent (renameArguments "preview" writtenInstant [])
  | 1 => .readClock 0 (.ok 10)
  | 2 => .plan 0
  | 3 => .reserve 0 (.ok "challenge-1")
  | 4 => .sign 0 (.ok capabilityToken)
  | 5 => .receive 2 agent (renameArguments "preview" writtenInstant [])
  | 6 => .readClock 2 (.ok 15)
  | 7 => .plan 2
  | 8 => .reserve 2 (.ok "challenge-2")
  | 9 => .sign 2 (.error (confirmationError "confirmation challenge could not be issued"))
  | 10 => .receive 1 agent (renameArguments "confirm" spelledInstant
      [("confirmation_token".toList, .string capabilityToken)])
  | 11 => .readClock 1 (.ok 20)
  | 12 => .verify 1 (some renameClaims)
  | 13 => .plan 1
  | 14 => .consume 1
  | _ => .createDraft 1 ⟨.ok 20, .ok 20⟩

def renameStates : ℕ → ProposalState Text Unit :=
  states (after namedServer) ⟨namedStore, .empty, [], [], fun _ => none⟩ renameEvents

/-! ## Its plan -/

/-- The published version of `orders`. -/
def namedPublished : PublishedManifest (Manifest Text) where
  manifestId := "orders"
  manifestVersion := ⟨1, 0, 0⟩
  manifestDigest := zeroText
  manifest := namedManifest "publisher" 2
  sourceDraftId := "first"
  sourceDraftRevision := 6
  previousVersion := none
  approval :=
    { decisionId := "first-r5-approval"
      approvedBy := editor
      approvedAt := 5
      approvedRevision := 5
      manifestVersion := ⟨1, 0, 0⟩
      manifestDigest := zeroText
      reviewDecisionId := some "first-r4-review"
      operationalContextReceiptId := some "receipt-first-4"
      reason := "release" }
  publishedBy := ⟨"publisher", .service⟩
  publishedAt := 2
  publicationAuthorizedBy := editor
  publicationAuthorizedAt := 7
  operationalContextReceiptId := some "receipt-first-5"
  reason := "release"

theorem namedStore_published : namedStore.published.get? ("orders", ⟨1, 0, 0⟩) = some namedPublished := by
  decide +kernel

/-- The patch of the request. -/
def renamedManifest : Manifest Text :=
  { namedManifest "publisher" 2 with
    manifestVersion := ⟨1, 1, 0⟩
    content := "Purchase orders".toList }

def renamePlan : ProposalPlan Text where
  published := namedPublished
  profileId := "production"
  patched := renamedManifest
  patchDigest := zeroText.toList
  preview := renamePreview

/-- What is digested, for a reason. -/
def renamePayload (reason : Text) : Json :=
  .object (patchMembers (renameRequest .preview reason none) renamePlan)

theorem canonicalString_written :
    canonicalString paddingRuntime asciiTables writtenInstant = some writtenInstant := by
  decide +kernel

theorem canonicalString_spelled :
    canonicalString paddingRuntime asciiTables spelledInstant = some writtenInstant := by
  decide +kernel

/-- The members of the proposal beside its reason. -/
theorem confirmationDigestMembers_rename (reason : Text) :
    confirmationDigestMembers (renameRequest .preview reason none) =
      (confirmationDigestMembers (renameRequest .preview [] none)).take 6 ++
        (("reason".toList, .string reason) ::
          (confirmationDigestMembers (renameRequest .preview [] none)).drop 7) := rfl

/-- Reasons of one canonical text make proposals of one canonical text. -/
theorem sameDump_rename {reason other : Text}
    (h : SameDump paddingRuntime asciiTables (.string reason) (.string other)) :
    SameDump paddingRuntime asciiTables
      (.object (confirmationDigestMembers (renameRequest .preview reason none)))
      (.object (confirmationDigestMembers (renameRequest .preview other none))) := by
  have hkeys := (keys_confirmation (renameRequest .preview reason none)).trans
    (keys_confirmation (renameRequest .preview other none)).symm
  refine (sameDump_object (areFieldNames_confirmation _) hkeys).mpr ?_
  have hfirst : membersCanonicalizable paddingRuntime asciiTables
      ((confirmationDigestMembers (renameRequest .preview [] none)).take 6) = true := by
    rfl
  have hlast : membersCanonicalizable paddingRuntime asciiTables
      ((confirmationDigestMembers (renameRequest .preview [] none)).drop 7) = true := by
    rfl
  rw [confirmationDigestMembers_rename reason, confirmationDigestMembers_rename other]
  exact List.rel_append (membersCanonicalizable_same hfirst)
    (.cons ⟨rfl, h⟩ (membersCanonicalizable_same hlast))

theorem sameDump_renamePayload {reason other : Text}
    (h : SameDump paddingRuntime asciiTables (.string reason) (.string other)) :
    SameDump paddingRuntime asciiTables (renamePayload reason) (renamePayload other) := by
  have hkeys := (keys_patch (renameRequest .preview reason none) renamePlan).trans
    (keys_patch (renameRequest .preview other none) renamePlan).symm
  refine (sameDump_object (areFieldNames_patch _ _) hkeys).mpr ?_
  have hdigests : membersCanonicalizable paddingRuntime asciiTables
      [("baseManifestDigest".toList, textValue namedPublished.manifestDigest),
        ("patchedManifestDigest".toList, textValue renamedManifest.artifactDigest)] = true := by
    rfl
  exact .cons ⟨rfl, sameDump_rename h⟩ (membersCanonicalizable_same hdigests)

/-- The reasons of the run have one canonical text. -/
theorem sameDump_reasons {reason other : Text} (h : reason ∈ [writtenInstant, spelledInstant])
    (h' : other ∈ [writtenInstant, spelledInstant]) :
    SameDump paddingRuntime asciiTables (.string reason) (.string other) := by
  have hcanonical : ∀ t ∈ [writtenInstant, spelledInstant],
      canonicalString paddingRuntime asciiTables t = some writtenInstant := by
    intro t ht
    rcases List.mem_pair.mp ht with rfl | rfl
    · exact canonicalString_written
    · exact canonicalString_spelled
  exact sameDump_string.mpr ⟨writtenInstant, hcanonical reason h, hcanonical other h'⟩

/-- The digest of the patch. -/
theorem artifactDigest_renamePayload {reason : Text} (h : reason ∈ [writtenInstant, spelledInstant]) :
    artifactDigest paddingRuntime asciiTables zeroDigest (renamePayload reason) =
      some zeroText.toList := by
  obtain ⟨digest, hdigest, -⟩ :=
    (sameDump_renamePayload (sameDump_reasons h h)).exists_digest (H := zeroDigest)
  obtain ⟨value, -, hvalue⟩ := artifactDigest_eq_some.mp hdigest
  rw [hdigest, ← hvalue]
  rfl

theorem patchPreview_rename :
    patchPreview (renameRequest .preview [] none) zeroText.toList = .ok renamePreview := by
  rfl

/-- Every reading of the version plans the same patch. -/
theorem planProposal_rename {phase : ProposalPhase} {reason : Text} {token : Option Text}
    (h : reason ∈ [writtenInstant, spelledInstant]) :
    namedServer.planProposal namedStore agent.authentication.actor
      (renameRequest phase reason token) = .ok renamePlan := by
  have hpublished : namedServer.getPublished namedStore agent.authentication.actor "orders"
      ⟨1, 0, 0⟩ = .ok namedPublished := by
    rw [ProposalServer.getPublished, namedStore_published]
    rfl
  have hpatched : namedServer.applyPatch namedPublished.manifest (renameRequest phase reason token)
      "production" = .ok renamedManifest := rfl
  have hdigest : artifactDigest namedServer.runtime namedServer.tables namedServer.sha256
      (patchPayload (renameRequest phase reason token) namedPublished renamedManifest) =
        some zeroText.toList := artifactDigest_renamePayload h
  simp only [ProposalServer.planProposal, FallibleResults.bind_ok_iff,
    FallibleResults.mapError_ok_iff]
  refine ⟨namedPublished, hpublished, "production", rfl, renamedManifest, hpatched, ?_⟩
  have hpreview : patchPreview (renameRequest phase reason token) zeroText.toList =
      .ok renamePreview := patchPreview_rename
  rw [hdigest]
  simp only [hpreview]
  rfl

theorem reasons_written : writtenInstant ∈ [writtenInstant, spelledInstant] := List.mem_cons_self

theorem reasons_spelled : spelledInstant ∈ [writtenInstant, spelledInstant] :=
  List.mem_cons_of_mem _ List.mem_cons_self

/-! ## Its states -/

def previewRequest : ProposeManifestPatchInput := renameRequest .preview writtenInstant none

def confirmRequest : ProposeManifestPatchInput :=
  renameRequest .confirm spelledInstant (some capabilityToken)

/-- The binding of the second preview. -/
def secondBinding : ConfirmationBinding := { renameClaims.binding with expiresAt := 300015 }

theorem ensureResponseBound_rename {output : ManifestPatchOutput}
    (h : output = renameOutput ∨ output = renamePredicted) :
    namedServer.ensureResponseBound output = .ok () := by
  have hfits : JsonSizes.size (outputJson output) ≤ namedServer.maxOutputBytes := by
    rcases h with rfl | rfl
    · exact Nat.le_max_left _ _
    · exact Nat.le_max_right _ _
  rw [ProposalServer.ensureResponseBound, if_neg (Nat.not_lt.mpr hfits)]

theorem signedResponse_first : signedResponse namedServer
    ⟨agent, previewRequest, .reserved 10 renamePlan renameClaims⟩ renamePlan renameClaims
      capabilityToken = .ok renameOutput := by
  have houtput : previewOutput previewRequest namedPublished "production" renamePreview
      ⟨"challenge-1", capabilityToken, 300010⟩ = .ok renameOutput := rfl
  have hlength : hasLength 32 4096 capabilityToken = true := by decide
  rw [signedResponse, hlength, if_neg (not_not_intro rfl)]
  simp only [FallibleResults.bind_ok_iff, FallibleResults.pure_ok_iff]
  exact ⟨renameOutput, houtput, (), ensureResponseBound_rename (.inl rfl), rfl⟩

theorem predictedResponse_confirm :
    namedServer.predictedResponse confirmRequest renamePlan = .ok renamePredicted := by
  have hpredicted : confirmedPatchOutput confirmRequest renamePreview "production" 1 zeroText =
      .ok renamePredicted := rfl
  simp only [ProposalServer.predictedResponse, FallibleResults.bind_ok_iff,
    FallibleResults.pure_ok_iff]
  exact ⟨renamePredicted, hpredicted, (), ensureResponseBound_rename (.inr rfl), rfl⟩

theorem previewBinding_first : namedServer.previewBinding agent.authentication previewRequest
    renamePlan.patchDigest 10 = .ok renameClaims.binding := by
  rfl

theorem previewBinding_second : namedServer.previewBinding agent.authentication previewRequest
    renamePlan.patchDigest 15 = .ok secondBinding := by
  rfl

theorem renameStates_succ (k : ℕ) :
    renameStates (k + 1) = after namedServer (renameStates k) (renameEvents k) := rfl

/-- The first preview, and its reservation. -/
def firstReserved : ProposalState Text Unit :=
  { (renameStates 3).withCall 0 ⟨agent, previewRequest, .reserved 10 renamePlan renameClaims⟩ with
    confirmations := (renameStates 3).confirmations.set "challenge-1" renameClaims.binding
    challenges := "challenge-1" :: (renameStates 3).challenges }

/-- The first preview has returned its token. -/
def firstReturned : ProposalState Text Unit :=
  { (renameStates 4).withCall 0 ⟨agent, previewRequest, .finished (.ok renameOutput)⟩ with
    returned := (capabilityToken, renameClaims) :: (renameStates 4).returned }

/-- The reservation of the second preview. -/
def secondReserved : ProposalState Text Unit :=
  { (renameStates 8).withCall 2
      ⟨agent, previewRequest, .reserved 15 renamePlan ⟨secondBinding, "challenge-2"⟩⟩ with
    confirmations := (renameStates 8).confirmations.set "challenge-2" secondBinding
    challenges := "challenge-2" :: (renameStates 8).challenges }

/-- The confirmation has consumed its challenge. -/
def firstConsumed : ProposalState Text Unit :=
  { (renameStates 14).withCall 1
      ⟨agent, confirmRequest, .consumed 20 renameClaims renamePlan renamePredicted⟩ with
    confirmations := (renameStates 14).confirmations.erase "challenge-1" }

theorem renameEvents_draft {i n : ℕ} {clock : ClockReadings} (h : renameEvents i = .createDraft n clock) :
    15 ≤ i := by
  match i, h with
  | _ + 15, _ => exact Nat.le_add_left _ _
  | 0, h | 1, h | 2, h | 3, h | 4, h | 5, h | 6, h | 7, h | 8, h | 9, h | 10, h | 11, h | 12, h | 13, h
  | 14, h => cases h

theorem renameEvents_other {i : ℕ} {other : StoreEvent (Manifest Text) Unit} :
    renameEvents i ≠ .other other := by
  intro h
  match i, h with
  | 0, h | 1, h | 2, h | 3, h | 4, h | 5, h | 6, h | 7, h | 8, h | 9, h | 10, h | 11, h | 12, h | 13, h
  | 14, h | _ + 15, h => cases h

theorem state_zero : renameStates 0 = ⟨namedStore, .empty, [], [], fun _ => none⟩ := rfl

theorem state_one : renameStates 1 =
    (renameStates 0).withCall 0 ⟨agent, previewRequest, .opened⟩ :=
  (renameStates_succ 0).trans (after_receive rfl openCall_preview)

theorem state_two : renameStates 2 =
    (renameStates 1).withCall 0 ⟨agent, previewRequest, .timed 10⟩ := by
  refine (renameStates_succ 1).trans (after_readClock ?_)
  rw [state_one]
  exact ProposalState.withCall_self

/-- Before the draft the store stays as it is. -/
theorem renameStates_store {k : ℕ} (hk : k ≤ 15) : (renameStates k).store = namedStore := by
  induction k with
  | zero => rw [state_zero]
  | succ k ih =>
    have hstep := after_step (P := namedServer) (s := renameStates k) (renameEvents k)
    rcases hstep.store_cases with hsame | ⟨n, clock, _, _, _, _, _, hevent, -⟩ | ⟨other, hevent⟩
    · exact hsame.trans (ih (by omega))
    · have hlate := renameEvents_draft hevent
      omega
    · exact absurd hevent renameEvents_other

theorem state_three : renameStates 3 = (renameStates 2).withCall 0
    ⟨agent, previewRequest, .planned 10 renamePlan renameClaims.binding⟩ := by
  refine (renameStates_succ 2).trans (after_plan_preview ?_ rfl ?_ previewBinding_first)
  · rw [state_two]
    exact ProposalState.withCall_self
  · rw [renameStates_store (by decide)]
    exact planProposal_rename reasons_written

theorem state_four : renameStates 4 = firstReserved := by
  refine (renameStates_succ 3).trans (after_reserve ?_ (by decide))
  rw [state_three]
  exact ProposalState.withCall_self

theorem state_five : renameStates 5 = firstReturned := by
  refine (renameStates_succ 4).trans (after_sign ?_ signedResponse_first)
  simp only [state_four, firstReserved, ProposalState.withCall_self]

theorem state_six : renameStates 6 =
    (renameStates 5).withCall 2 ⟨agent, previewRequest, .opened⟩ := by
  refine (renameStates_succ 5).trans (after_receive ?_ openCall_preview)
  simp only [state_five, firstReturned, state_four, firstReserved, state_three, state_two, state_one,
    state_zero]
  rfl

theorem state_seven : renameStates 7 =
    (renameStates 6).withCall 2 ⟨agent, previewRequest, .timed 15⟩ := by
  refine (renameStates_succ 6).trans (after_readClock ?_)
  rw [state_six]
  exact ProposalState.withCall_self

theorem state_eight : renameStates 8 = (renameStates 7).withCall 2
    ⟨agent, previewRequest, .planned 15 renamePlan secondBinding⟩ := by
  refine (renameStates_succ 7).trans (after_plan_preview ?_ rfl ?_ previewBinding_second)
  · rw [state_seven]
    exact ProposalState.withCall_self
  · rw [renameStates_store (by decide)]
    exact planProposal_rename reasons_written

theorem state_nine : renameStates 9 = secondReserved := by
  refine (renameStates_succ 8).trans (after_reserve ?_ (by decide))
  rw [state_eight]
  exact ProposalState.withCall_self

theorem state_ten : renameStates 10 = (renameStates 9).withCall 2 ⟨agent, previewRequest,
    .finished (.error (confirmationError "confirmation challenge could not be issued"))⟩ := by
  have hcall : (renameStates 9).calls 2 = some
      ⟨agent, previewRequest, .reserved 15 renamePlan ⟨secondBinding, "challenge-2"⟩⟩ := by
    simp only [state_nine, secondReserved, ProposalState.withCall_self]
  exact (renameStates_succ 9).trans (after_unsigned hcall)

theorem state_eleven : renameStates 11 =
    (renameStates 10).withCall 1 ⟨agent, confirmRequest, .opened⟩ := by
  refine (renameStates_succ 10).trans (after_receive ?_ openCall_confirm)
  simp only [state_ten, state_nine, secondReserved, state_eight, state_seven, state_six, state_five,
    firstReturned, state_four, firstReserved, state_three, state_two, state_one, state_zero]
  rfl

theorem state_twelve : renameStates 12 =
    (renameStates 11).withCall 1 ⟨agent, confirmRequest, .timed 20⟩ := by
  refine (renameStates_succ 11).trans (after_readClock ?_)
  rw [state_eleven]
  exact ProposalState.withCall_self

theorem state_thirteen : renameStates 13 =
    (renameStates 12).withCall 1 ⟨agent, confirmRequest, .verified 20 renameClaims⟩ := by
  refine (renameStates_succ 12).trans (after_verify ?_ rfl (by decide))
  rw [state_twelve]
  exact ProposalState.withCall_self

theorem state_fourteen : renameStates 14 = (renameStates 13).withCall 1
    ⟨agent, confirmRequest, .matched 20 renameClaims renamePlan renamePredicted⟩ := by
  refine (renameStates_succ 13).trans (after_plan_confirm ?_ ?_ rfl predictedResponse_confirm)
  · rw [state_thirteen]
    exact ProposalState.withCall_self
  · rw [renameStates_store (by decide)]
    exact planProposal_rename reasons_spelled

theorem state_fifteen : renameStates 15 = firstConsumed := by
  have hopen : (renameStates 14).confirmations.get? "challenge-1" = some renameClaims.binding := by
    simp only [state_fourteen, state_thirteen, state_twelve, state_eleven, state_ten, state_nine,
      secondReserved, state_eight, state_seven, state_six, state_five, firstReturned, state_four,
      firstReserved, ProposalState.withCall_confirmations]
    rw [Dictionary.get?_set_of_ne (by decide), Dictionary.get?_set_self]
  refine (renameStates_succ 14).trans (after_consume ?_ hopen (by decide))
  rw [state_fourteen]
  exact ProposalState.withCall_self

theorem rename_admissible (i : ℕ) : Admissible (renameStates i) (renameEvents i) := by
  match i with
  | 3 =>
    change "challenge-1" ∉ (renameStates 3).challenges
    simp only [state_three, state_two, state_one, state_zero, ProposalState.withCall_challenges,
      List.not_mem_nil, not_false_eq_true]
  | 8 =>
    change "challenge-2" ∉ (renameStates 8).challenges
    simp only [state_eight, state_seven, state_six, state_five, firstReturned, state_four,
      firstReserved, state_three, state_two, state_one, state_zero,
      ProposalState.withCall_challenges]
    decide
  | 12 =>
    intro call hcall
    rw [state_twelve, ProposalState.withCall_self, Option.some.injEq] at hcall
    subst hcall
    refine ⟨capabilityToken, rfl, ?_⟩
    simp only [state_twelve, state_eleven, state_ten, state_nine, secondReserved, state_eight,
      state_seven, state_six, state_five, firstReturned, ProposalState.withCall_returned]
    exact List.mem_cons_self
  | 0 | 1 | 2 | 4 | 5 | 6 | 7 | 9 | 10 | 11 | 13 | 14 | _ + 15 => trivial

/-- The run up to the draft of the confirmation. -/
def renameHistory : History (proposalSystem namedServer) where
  length := 16
  state := renameStates
  event := renameEvents
  starts := state_zero ▸ init_of_reachable namedStore_reachable
  steps i _ := ⟨rename_admissible i, rfl⟩

theorem renameHistory_state : renameHistory.state = renameStates := rfl

theorem renameHistory_event : renameHistory.event = renameEvents := rfl

/-- The readings of the published version. -/
theorem renameEvents_plan {i n : ℕ} (h : renameEvents i = .plan n) :
    i = 2 ∧ n = 0 ∨ i = 7 ∧ n = 2 ∨ i = 13 ∧ n = 1 := by
  match i, h with
  | 2, h => exact .inl ⟨rfl, (ProposalEvent.plan.inj h).symm⟩
  | 7, h => exact .inr (.inl ⟨rfl, (ProposalEvent.plan.inj h).symm⟩)
  | 13, h => exact .inr (.inr ⟨rfl, (ProposalEvent.plan.inj h).symm⟩)
  | 0, h | 1, h | 3, h | 4, h | 5, h | 6, h | 8, h | 9, h | 10, h | 11, h | 12, h | 14, h
  | _ + 15, h => cases h

/-- The only token that is returned. -/
theorem renameEvents_sign {i n : ℕ} {token : Text} (h : renameEvents i = .sign n (.ok token)) :
    i = 4 ∧ n = 0 := by
  match i, h with
  | 4, h => exact ⟨rfl, (ProposalEvent.sign.inj h).1.symm⟩
  | 9, h => cases (ProposalEvent.sign.inj h).2
  | 0, h | 1, h | 2, h | 3, h | 5, h | 6, h | 7, h | 8, h | 10, h | 11, h | 12, h | 13, h | 14, h
  | _ + 15, h => cases h

/-- What the run digests. -/
theorem rename_digested {i : ℕ} {payload : Json}
    (h : Digested namedServer (renameStates i) (renameEvents i) payload) :
    ∃ reason ∈ [writtenInstant, spelledInstant], payload = renamePayload reason := by
  obtain ⟨n, call, plan, hevent, hcall, hplan, rfl⟩ := h
  rcases renameEvents_plan hevent with ⟨rfl, rfl⟩ | ⟨rfl, rfl⟩ | ⟨rfl, rfl⟩
  · rw [state_two, ProposalState.withCall_self, Option.some.injEq] at hcall
    subst hcall
    rw [renameStates_store (by decide)] at hplan
    obtain rfl := Except.ok.inj ((planProposal_rename reasons_written).symm.trans hplan)
    exact ⟨writtenInstant, reasons_written, rfl⟩
  · rw [state_seven, ProposalState.withCall_self, Option.some.injEq] at hcall
    subst hcall
    rw [renameStates_store (by decide)] at hplan
    obtain rfl := Except.ok.inj ((planProposal_rename reasons_written).symm.trans hplan)
    exact ⟨writtenInstant, reasons_written, rfl⟩
  · rw [state_thirteen, ProposalState.withCall_self, Option.some.injEq] at hcall
    subst hcall
    rw [renameStates_store (by decide)] at hplan
    obtain rfl := Except.ok.inj ((planProposal_rename reasons_spelled).symm.trans hplan)
    exact ⟨spelledInstant, reasons_spelled, rfl⟩

theorem rename_distinguished : DistinguishesPatches renameHistory := by
  intro i _ j _ a b ha hb digest _ _
  obtain ⟨reason, hreason, rfl⟩ := rename_digested ha
  obtain ⟨other, hother, rfl⟩ := rename_digested hb
  exact sameDump_renamePayload (sameDump_reasons hreason hother)

theorem rename_previewed : ProposalGuarantees namedServer renameHistory :=
  proposals_previewed namedServer_digests renameHistory rename_distinguished

/-- Without a collision of digests a confirmation drafts another spelling of the reason than its
preview had, and a preview that is refused leaves its reservation. -/
theorem respelled_reason_drafted :
    (¬ ∀ H : History (proposalSystem namedServer), DistinguishesPatches H → ∀ j < H.length,
      ∀ n clock call now claims plan predicted,
        Drafting (H.state j) (H.event j) n clock call now claims plan predicted →
          ∃ i < j, ∃ m before previewed token signed,
            Previewing namedServer (H.state i) (H.event i) (H.state (i + 1)) m before previewed token
              signed ∧ before.request.reason = call.request.reason) ∧
    ¬ ∀ H : History (proposalSystem namedServer), ∀ j ≤ H.length, ∀ n call e,
      (H.state j).calls n = some call → call.phase = .finished (.error e) →
        ¬ ConsumedBefore H j n → ∀ i < j, callOf (H.event i) = some n →
          (H.state (i + 1)).confirmations = (H.state i).confirmations := by
  constructor
  · intro hsame
    have hdrafting : Drafting (renameStates 15) (renameEvents 15) 1 ⟨.ok 20, .ok 20⟩
        ⟨agent, confirmRequest, .consumed 20 renameClaims renamePlan renamePredicted⟩ 20 renameClaims
          renamePlan renamePredicted := by
      refine ⟨rfl, ?_, rfl⟩
      simp only [state_fifteen, firstConsumed, ProposalState.withCall_self]
    have hlast : 15 < renameHistory.length := Nat.lt_succ_self 15
    have hprevious := hsame renameHistory rename_distinguished 15 hlast
    rw [renameHistory_state, renameHistory_event] at hprevious
    obtain ⟨i, -, m, before, previewed, token, signed, hpreviewing, hreason⟩ :=
      hprevious _ _ _ _ _ _ _ hdrafting
    have hwritten : before.request.reason = writtenInstant := by
      obtain ⟨rfl, rfl⟩ := renameEvents_sign hpreviewing.event_eq
      have hstored := hpreviewing.stored
      rw [state_four] at hstored
      simp only [firstReserved, ProposalState.withCall_self, Option.some.injEq] at hstored
      exact hstored ▸ rfl
    rw [hwritten] at hreason
    exact absurd hreason (by decide)
  · intro hkept
    have hlast : 10 ≤ renameHistory.length := by decide
    have hprevious := hkept renameHistory 10 hlast
    rw [renameHistory_state, renameHistory_event] at hprevious
    have hcall : (renameStates 10).calls 2 = some ⟨agent, previewRequest, .finished (.error
        (confirmationError "confirmation challenge could not be issued"))⟩ := by
      rw [state_ten]
      exact ProposalState.withCall_self
    have hnot : ¬ ConsumedBefore renameHistory 10 2 := by
      rintro ⟨i, hi, earlier, now, claims, plan, predicted, hstored, hphase⟩
      have hconfirm := confirm_of_consumed (by omega) hstored hphase
      rw [← renameHistory_state] at hcall
      rw [request_eq hi hlast hstored hcall] at hconfirm
      cases hconfirm
    have hown : callOf (renameEvents 8) = some 2 := rfl
    have hsame := hprevious 2 _ (confirmationError "confirmation challenge could not be issued") hcall
      rfl hnot 8 (by decide) hown
    have hreserved := congrArg (Dictionary.get? · "challenge-2") hsame
    rw [state_nine] at hreserved
    simp only [secondReserved, Dictionary.get?_set_self, state_eight, state_seven, state_six,
      state_five, firstReturned, state_four, firstReserved, state_three, state_two, state_one,
      state_zero, ProposalState.withCall_confirmations] at hreserved
    rw [Dictionary.get?_set_of_ne (by decide)] at hreserved
    cases hreserved

end AthenaContext.ProposalCalls
