import AthenaContext.KeyedVersions
import AthenaContext.PatchProposals

/-!
# What a patch digest fixes

Two plans of one patch digest, unless their payloads collide, are of one workload, profile,
draft and idempotency key, of the same versions and operation paths, and of the same base and
patched manifests. The reason and the values of the operations are free texts: of them the
digest fixes the canonical text.
-/

namespace AthenaContext.PatchProposals

open JsonText TextNormalization TimestampText ContractDocuments ContractPatterns
open DocumentDigests SignedArtifacts FallibleResults
open ContextRecords ContextStorage ContextMutations ContextMutations.ContextService
open EvaluationResults KeyedVersions

variable {γ R : Type}

/-! ## Texts that are never rewritten -/

theorem isPlainText_of_matchesIdPattern {s : String} (h : matchesIdPattern s = true) :
    IsPlainText s.toList := by
  rw [matchesIdPattern] at h
  split at h
  · cases h
  · next first rest heq =>
    simp only [Bool.and_eq_true] at h
    have hall : ∀ c ∈ s.toList, isNameCharacter c = true := by
      intro c hc
      rw [heq] at hc
      rw [isNameCharacter, Bool.or_eq_true]
      rcases List.mem_cons.mp hc with rfl | hrest
      · exact .inl h.1.1
      · have hchar := List.all_eq_true.mp h.2 c hrest
        simp only [Bool.or_eq_true, beq_iff_eq] at hchar
        rcases hchar with ((halpha | rfl) | rfl) | rfl
        · exact .inl halpha
        · exact .inr (by decide)
        · exact .inr (by decide)
        · exact .inr (by decide)
    have hcolon : ':' ∉ s.toList := fun hmem => (toNat_of_isNameCharacter (hall _ hmem)).2 rfl
    exact ⟨fun c hc => (toNat_of_isNameCharacter (hall c hc)).1, readDateTime_of_no_colon hcolon⟩

theorem toList_text (v : ManifestVersion) : v.text.toList =
    Nat.toDigits 10 v.major ++ '.' :: (Nat.toDigits 10 v.minor ++ '.' :: Nat.toDigits 10 v.patch) := by
  simp [ManifestVersion.text, toString, Nat.repr]

theorem isNameCharacter_of_mem_text {v : ManifestVersion} {c : Char} (h : c ∈ v.text.toList) :
    isNameCharacter c = true := by
  have hdigit : ∀ n, c ∈ Nat.toDigits 10 n → isNameCharacter c = true := by
    intro n hn
    have hc := Nat.isDigit_of_mem_toDigits (b := 10) (by decide) (by decide) hn
    rw [isNameCharacter, Char.isAlphanum, hc, Bool.or_true, Bool.true_or]
  rw [toList_text] at h
  simp only [List.mem_append, List.mem_cons] at h
  rcases h with hmajor | rfl | hminor | rfl | hpatch
  · exact hdigit _ hmajor
  · decide
  · exact hdigit _ hminor
  · decide
  · exact hdigit _ hpatch

theorem isPlainText_text (v : ManifestVersion) : IsPlainText v.text.toList :=
  have hall := fun c (hc : c ∈ v.text.toList) =>
    toNat_of_isNameCharacter (isNameCharacter_of_mem_text hc)
  ⟨fun c hc => (hall c hc).1, readDateTime_of_no_colon fun hcolon => (hall _ hcolon).2 rfl⟩

/-- Versions of one text are the same. -/
theorem text_injective : Function.Injective ManifestVersion.text := by
  intro v w h
  have htext := congrArg String.toList h
  rw [toList_text, toList_text] at htext
  have hdot : ∀ rest, Delimited ('.' :: rest) := fun rest => delimited_cons (by decide)
  obtain ⟨hmajor, hrest⟩ := digits_append (hdot _) (hdot _) htext
  obtain ⟨hminor, hpatch⟩ := digits_append (hdot _) (hdot _) (List.tail_eq_of_cons_eq hrest)
  have hdigits : Nat.toDigits 10 v.patch = Nat.toDigits 10 w.patch := List.tail_eq_of_cons_eq hpatch
  have hvalue := congrArg (fun digits => Nat.ofDigitChars 10 digits 0) hdigits
  simp only [Nat.ofDigitChars_ten_toDigits] at hvalue
  cases v
  cases w
  simp_all

/-! ## Operations -/

theorem isAscii_of_matchesIdPattern {t : Text} (h : matchesIdPattern (String.ofList t) = true) :
    IsAscii t := by
  have hplain := (isPlainText_of_matchesIdPattern h).1
  rwa [String.toList_ofList] at hplain

theorem isAscii_of_isVersionNumber {t : Text} (h : isVersionNumber t = true) : IsAscii t := by
  simp only [isVersionNumber, Bool.and_eq_true] at h
  exact InstantTexts.isAscii_digits h.1.2

theorem isAscii_joinPath {parts : List Text} (h : ∀ part ∈ parts, IsAscii part) :
    IsAscii (joinPath parts) := by
  induction parts with
  | nil => exact nofun
  | cons part rest ih =>
    obtain ⟨hpart, hrest⟩ := List.forall_mem_cons.mp h
    cases rest with
    | nil => simpa [joinPath] using hpart
    | cons next more =>
      have hjoin : joinPath (part :: next :: more) = part ++ '/' :: joinPath (next :: more) := by
        simp [joinPath, List.intercalate]
      rw [hjoin]
      exact InstantTexts.IsAscii.append hpart (InstantTexts.isAscii_cons (by decide) (ih hrest))

/-- The path of a risk statement is ASCII. -/
theorem isAscii_of_riskPath {path : Text} {pair : Text × ℕ} (h : riskPath? path = some pair) :
    IsAscii path := by
  rw [riskPath?] at h
  split at h
  · next profiles profileId acceptances index statement hparts =>
    obtain ⟨⟨rfl, hprofile, rfl, hindex, -, rfl⟩, -⟩ := Option.ite_none_right_eq_some.mp h
    have hpath : joinPath (splitPath path) = path := joinPath_splitPath path
    rw [splitPath, hparts] at hpath
    rw [← hpath]
    refine isAscii_joinPath ?_
    simp only [List.forall_mem_cons]
    exact ⟨List.forall_mem_nil _, by decide, isAscii_of_matchesIdPattern hprofile, by decide,
      isAscii_of_isVersionNumber hindex, by decide, fun _ h => absurd h List.not_mem_nil⟩
  · cases h

/-- An operation that applies has a path that is never rewritten. -/
theorem isPlainText_path {profileId : String} {payload patched : Json} {operation : PatchOperation}
    (hvalid : operation.isValid = true) (h : applyOperation profileId payload operation = .ok patched) :
    IsPlainText operation.path := by
  have hascii : IsAscii operation.path := by
    rw [applyOperation] at h
    split at h
    · next hname =>
      rw [hname]
      decide
    · split at h
      · cases h
      · next hrisk => exact isAscii_of_riskPath hrisk
  simp only [PatchOperation.isValid, Bool.and_eq_true, decide_eq_true_eq] at hvalid
  refine isPlainText_of_head hascii fun c hc => ?_
  rw [hvalid.1.2] at hc
  cases hc
  decide

/-! ## Plans -/

theorem isValid_of_readInput {arguments : Json} {request : ProposeManifestPatchInput}
    (h : readInput arguments = some request) : request.isValid = true := by
  simp only [readInput, Option.bind_eq_bind, Option.bind_eq_some_iff,
    Option.ite_none_right_eq_some] at h
  obtain ⟨_, -, _, -, _, -, _, -, _, -, _, -, _, -, _, -, _, -, _, -, _, -, hvalid, hrequest⟩ := h
  rwa [← Option.some.inj hrequest]

variable {P : ProposalServer γ R}

theorem isValid_of_openCall {context : ToolCallContext} {arguments : Json}
    {request : ProposeManifestPatchInput} (h : P.openCall context arguments = .ok request) :
    request.isValid = true := by
  simp only [ProposalServer.openCall, ite_error_ok_iff] at h
  obtain ⟨-, -, -, h⟩ := h
  split at h
  · cases h
  · next read hread =>
    simp only [ite_error_ok_iff] at h
    obtain ⟨-, -, hrequest⟩ := h
    exact Except.ok.inj hrequest ▸ isValid_of_readInput hread

/-- What a plan has read and computed. -/
structure PlanFor (P : ProposalServer γ R) (store : Store γ Json R)
    (request : ProposeManifestPatchInput) (plan : ProposalPlan γ) : Prop where
  stored : store.published.get? (request.workloadId, request.baseManifestVersion) =
    some plan.published
  patched : P.applyPatch plan.published.manifest request plan.profileId = .ok plan.patched
  digest : artifactDigest P.runtime P.tables P.sha256
    (patchPayload request plan.published plan.patched) = some plan.patchDigest

theorem getPublished_ok {store : Store γ Json R} {actor : Actor} {manifestId : String}
    {version : ManifestVersion} {published : PublishedManifest (Manifest γ)}
    (h : P.getPublished store actor manifestId version = .ok published) :
    store.published.get? (manifestId, version) = some published := by
  rw [ProposalServer.getPublished] at h
  split at h
  · cases h
  · next found hfound =>
    obtain ⟨_, -, hpure⟩ := bind_ok_iff.mp h
    rw [hfound, pure_ok_iff.mp hpure]

theorem planProposal_ok {store : Store γ Json R} {actor : Actor}
    {request : ProposeManifestPatchInput} {plan : ProposalPlan γ}
    (h : P.planProposal store actor request = .ok plan) : PlanFor P store request plan := by
  simp only [ProposalServer.planProposal, bind_ok_iff, mapError_ok_iff] at h
  obtain ⟨published, hpublished, profileId, -, patched, hpatched, h⟩ := h
  split at h
  · cases h
  · next patchDigest hdigest =>
    obtain ⟨preview, -, hplan⟩ := bind_ok_iff.mp h
    obtain rfl := pure_ok_iff.mp hplan
    exact ⟨getPublished_ok hpublished, hpatched, hdigest⟩

/-- What a patch has computed. -/
theorem applyPatch_ok {manifest patched : Manifest γ} {request : ProposeManifestPatchInput}
    {profileId : String} (h : P.applyPatch manifest request profileId = .ok patched) :
    patched.manifestId = manifest.manifestId ∧
      patched.manifestVersion = request.proposedManifestVersion ∧
      (∃ canonical, P.service.contract.payloadDigest false canonical = .ok patched.artifactDigest) ∧
      ∀ operation ∈ request.operations, ∃ payload edited,
        applyOperation profileId payload operation = .ok edited := by
  simp only [ProposalServer.applyPatch, bind_ok_iff] at h
  obtain ⟨content, hcontent, h⟩ := h
  obtain ⟨hid, hversion, hdigest⟩ := canonicalManifest_ok (mapError_ok_iff.mp h)
  exact ⟨hid, hversion, hdigest, fun operation => foldlM_ok_mem hcontent⟩

/-- The digests and the workload of a plan over a keyed store. -/
theorem PlanFor.keyed {store : Store γ Json R} {request : ProposeManifestPatchInput}
    {plan : ProposalPlan γ} (hC : DigestTexts P.service.contract) (hstore : KeyedStore store)
    (h : PlanFor P store request plan) :
    IsPlainText plan.published.manifestDigest.toList ∧
      IsPlainText plan.patched.artifactDigest.toList ∧
      plan.patched.manifestId = request.workloadId := by
  obtain ⟨hkey, hown, -, hbase⟩ := hstore.published h.stored
  obtain ⟨hid, -, ⟨canonical, hpayload⟩, -⟩ := applyPatch_ok h.patched
  have hworkload : plan.published.manifestId = request.workloadId := congrArg Prod.fst hkey
  have hpatched := hC.payload hpayload
  exact ⟨isPlainText_of_isDigest _ hbase, isPlainText_of_isDigest _ hpatched,
    hid.trans (hown.trans hworkload)⟩

/-! ## Digests of plans -/

/-- Operations of one path, whose values have one canonical text. -/
def SameOperation (R : DateTimeRuntime) (N : NfcTables) (operation earlier : PatchOperation) : Prop :=
  operation.path = earlier.path ∧ SameDump R N (.string operation.value) (.string earlier.value)

/-- Requests of one proposal; of the free texts the canonical text counts. -/
structure SameProposal (R : DateTimeRuntime) (N : NfcTables)
    (request earlier : ProposeManifestPatchInput) : Prop where
  workloadId : request.workloadId = earlier.workloadId
  baseManifestVersion : request.baseManifestVersion = earlier.baseManifestVersion
  proposedManifestVersion : request.proposedManifestVersion = earlier.proposedManifestVersion
  profileId : request.profileId = earlier.profileId
  draftId : request.draftId = earlier.draftId
  idempotencyKey : request.idempotencyKey = earlier.idempotencyKey
  reason : SameDump R N (.string request.reason) (.string earlier.reason)
  operations : List.Forall₂ (SameOperation R N) request.operations earlier.operations

/-- The members of a patch payload. -/
def patchMembers (request : ProposeManifestPatchInput) (plan : ProposalPlan γ) :
    List (Text × Json) :=
  [("proposal".toList, .object (confirmationDigestMembers request)),
    ("baseManifestDigest".toList, textValue plan.published.manifestDigest),
    ("patchedManifestDigest".toList, textValue plan.patched.artifactDigest)]

/-- The names in a digested proposal. -/
def confirmationNames : List Text :=
  ["workload_id".toList, "base_manifest_version".toList, "proposed_manifest_version".toList,
    "profile_id".toList, "draft_id".toList, "idempotency_key".toList, "reason".toList,
    "operations".toList]

/-- The members of a digested operation. -/
def operationMembers (operation : PatchOperation) : List (Text × Json) :=
  [("op".toList, textValue "replace"), ("path".toList, .string operation.path),
    ("value".toList, .string operation.value)]

/-- The names in a digested operation. -/
def operationNames : List Text := ["op".toList, "path".toList, "value".toList]

theorem keys_confirmation (request : ProposeManifestPatchInput) :
    (confirmationDigestMembers request).map Prod.fst = confirmationNames := rfl

theorem areFieldNames_confirmation (request : ProposeManifestPatchInput) :
    AreFieldNames ((confirmationDigestMembers request).map Prod.fst) := by
  rw [keys_confirmation]
  decide

theorem keys_patch (request : ProposeManifestPatchInput) (plan : ProposalPlan γ) :
    (patchMembers request plan).map Prod.fst =
      ["proposal".toList, "baseManifestDigest".toList, "patchedManifestDigest".toList] := rfl

theorem areFieldNames_patch (request : ProposeManifestPatchInput) (plan : ProposalPlan γ) :
    AreFieldNames ((patchMembers request plan).map Prod.fst) := by
  rw [keys_patch]
  decide

theorem areFieldNames_operation (operation : PatchOperation) :
    AreFieldNames ((operationMembers operation).map Prod.fst) :=
  (by decide : AreFieldNames operationNames)

section Same

variable {T : DateTimeRuntime} {N : NfcTables}

theorem eq_of_sameText {s t : String} (h : SameDump T N (textValue s) (textValue t))
    (hs : IsPlainText s.toList) (ht : IsPlainText t.toList) : s = t :=
  String.toList_injective (h.plain_eq hs ht)

theorem sameOperation_of_dump {operation earlier : PatchOperation}
    (hpath : IsPlainText operation.path) (hearlier : IsPlainText earlier.path)
    (h : SameDump T N (operationJson operation) (operationJson earlier)) :
    SameOperation T N operation earlier := by
  have hmembers := (sameDump_object (b := operationMembers earlier)
    (areFieldNames_operation operation) rfl).mp h
  cases hmembers with
  | cons _ hmembers =>
    cases hmembers with
    | cons hpaths hmembers =>
      cases hmembers with
      | cons hvalues _ => exact ⟨hpaths.2.plain_eq hpath hearlier, hvalues.2⟩

/-- Requests whose proposals have one canonical text. -/
theorem sameProposal_of_members {request earlier : ProposeManifestPatchInput}
    (hvalid : request.isValid = true) (hearlier : earlier.isValid = true)
    (hpaths : ∀ operation ∈ request.operations, IsPlainText operation.path)
    (hpaths' : ∀ operation ∈ earlier.operations, IsPlainText operation.path)
    (h : SameDump T N (.object (confirmationDigestMembers request))
      (.object (confirmationDigestMembers earlier))) : SameProposal T N request earlier := by
  simp only [ProposeManifestPatchInput.isValid, Bool.and_eq_true] at hvalid hearlier
  obtain ⟨⟨⟨⟨⟨⟨⟨⟨⟨hworkload, hprofile⟩, hdraft⟩, hkey⟩, -⟩, -⟩, -⟩, -⟩, -⟩, -⟩ := hvalid
  obtain ⟨⟨⟨⟨⟨⟨⟨⟨⟨hworkload', hprofile'⟩, hdraft'⟩, hkey'⟩, -⟩, -⟩, -⟩, -⟩, -⟩, -⟩ := hearlier
  have hmembers := (sameDump_object (b := confirmationDigestMembers earlier)
    (areFieldNames_confirmation request)
    ((keys_confirmation request).trans (keys_confirmation earlier).symm)).mp h
  simp only [SameMembers, confirmationDigestMembers, List.forall₂_cons, List.forall₂_nil_left_iff,
    true_and, and_true] at hmembers
  obtain ⟨mworkload, mbase, mproposed, mprofile, mdraft, mkey, mreason, moperations⟩ := hmembers
  have hid : ∀ {s t : String}, matchesIdPattern s = true → matchesIdPattern t = true →
      SameDump T N (textValue s) (textValue t) → s = t := fun hs ht hsame =>
    eq_of_sameText hsame (isPlainText_of_matchesIdPattern hs) (isPlainText_of_matchesIdPattern ht)
  have hversion : ∀ {v w : ManifestVersion},
      SameDump T N (textValue v.text) (textValue w.text) → v = w := fun hsame =>
    text_injective (eq_of_sameText hsame (isPlainText_text _) (isPlainText_text _))
  have hoperations := moperations.items
  rw [List.forall₂_map_left_iff, List.forall₂_map_right_iff, List.forall₂_iff_zip] at hoperations
  obtain ⟨hlength, hsame⟩ := hoperations
  exact
    { workloadId := hid hworkload hworkload' mworkload
      baseManifestVersion := hversion mbase
      proposedManifestVersion := hversion mproposed
      profileId := hid hprofile hprofile' mprofile
      draftId := hid hdraft hdraft' mdraft
      idempotencyKey := hid hkey hkey' mkey
      reason := mreason
      operations := List.forall₂_iff_zip.mpr ⟨hlength, fun hmem =>
        have hboth := List.of_mem_zip hmem
        sameOperation_of_dump (hpaths _ hboth.1) (hpaths' _ hboth.2) (hsame hmem)⟩ }

end Same

/-- The paths of a plan are never rewritten. -/
theorem PlanFor.paths {store : Store γ Json R} {request : ProposeManifestPatchInput}
    {plan : ProposalPlan γ} (hvalid : request.isValid = true) (h : PlanFor P store request plan) :
    ∀ operation ∈ request.operations, IsPlainText operation.path := by
  obtain ⟨-, -, -, happlied⟩ := applyPatch_ok h.patched
  simp only [ProposeManifestPatchInput.isValid, Bool.and_eq_true] at hvalid
  intro operation hmem
  obtain ⟨payload, edited, hedit⟩ := happlied operation hmem
  exact isPlainText_path (List.all_eq_true.mp hvalid.1.1.1.2 operation hmem) hedit

/-- Plans of one patch digest are of one proposal, one base and one patched manifest. -/
theorem sameProposal_of_digest {store earlierStore : Store γ Json R}
    {request earlier : ProposeManifestPatchInput} {plan before : ProposalPlan γ}
    (hC : DigestTexts P.service.contract) (hstore : KeyedStore store)
    (hearlier : KeyedStore earlierStore) (hvalid : request.isValid = true)
    (hvalid' : earlier.isValid = true) (h : PlanFor P store request plan)
    (h' : PlanFor P earlierStore earlier before)
    (hdistinct : Distinguishes P.runtime P.tables P.sha256
      (patchPayload request plan.published plan.patched)
      (patchPayload earlier before.published before.patched))
    (hsame : plan.patchDigest = before.patchDigest) :
    SameProposal P.runtime P.tables request earlier ∧
      plan.published.manifestDigest = before.published.manifestDigest ∧
      plan.patched.artifactDigest = before.patched.artifactDigest := by
  have hdump := hdistinct _ h.digest (hsame ▸ h'.digest)
  have hmembers := (sameDump_object (b := patchMembers earlier before)
    (areFieldNames_patch request plan)
    ((keys_patch request plan).trans (keys_patch earlier before).symm)).mp hdump
  simp only [SameMembers, patchMembers, List.forall₂_cons, List.forall₂_nil_left_iff, true_and,
    and_true] at hmembers
  obtain ⟨mproposal, mbase, mpatched⟩ := hmembers
  obtain ⟨hbase, hpatched, -⟩ := h.keyed hC hstore
  obtain ⟨hbase', hpatched', -⟩ := h'.keyed hC hearlier
  exact ⟨sameProposal_of_members hvalid hvalid' (h.paths hvalid) (h'.paths hvalid') mproposal,
    eq_of_sameText mbase hbase hbase', eq_of_sameText mpatched hpatched hpatched'⟩

end AthenaContext.PatchProposals
