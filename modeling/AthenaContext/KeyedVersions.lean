import AthenaContext.ContextCalls
import AthenaContext.ContractPatterns
import AthenaContext.FallibleResults

/-!
# Keyed versions

In every reachable store a published version stands under its own workload and version, its
manifest is of that workload, and its digest is a digest text.
-/

namespace AthenaContext.KeyedVersions

open ContractPatterns Dictionaries FallibleResults
open ContextRecords ContextMutations ContextMutations.ContextService
open ContextTransitions ContextCalls

variable {γ δ R : Type}

/-! ## The manifest contract -/

/-- The digests of a manifest contract are digest texts. -/
structure DigestTexts (C : ManifestContract γ δ) : Prop where
  payload : ∀ {semantic payload digest}, C.payloadDigest semantic payload = .ok digest →
    isDigest digest.toList = true
  computed : ∀ {manifest digest}, C.computeArtifactDigestValue manifest = .ok digest →
    isDigest digest.toList = true

section Contract

variable {C : ManifestContract γ δ}

/-- Validation keeps every field that the service reads. -/
theorem modelValidate_ok {payload : CanonicalWorkloadManifest δ} {manifest : Manifest γ}
    (h : C.modelValidate payload = .ok manifest) :
    manifest.manifestId = payload.manifestId ∧ manifest.manifestVersion = payload.manifestVersion ∧
      manifest.artifactDigest = payload.artifactDigest ∧
      C.payloadDigest false payload = .ok payload.artifactDigest := by
  simp only [ManifestContract.modelValidate, bind_ok_iff] at h
  obtain ⟨artifactDigest, hartifact, semanticDigest, hsemantic, h⟩ := h
  split at h
  · cases h
  · next hsame =>
    simp only [bind_ok_iff, pure_ok_iff] at h
    obtain ⟨content, -, rfl⟩ := h
    have hdigest : payload.artifactDigest = artifactDigest := by
      by_contra hne
      exact hsame (.inl hne)
    exact ⟨rfl, rfl, rfl, hdigest ▸ hartifact⟩

theorem canonicalizeManifestPayload_ok {payload canonical : CanonicalWorkloadManifest δ}
    (h : C.canonicalizeManifestPayload payload = .ok canonical) :
    canonical.manifestId = payload.manifestId ∧
      canonical.manifestVersion = payload.manifestVersion := by
  simp only [ManifestContract.canonicalizeManifestPayload, bind_ok_iff, pure_ok_iff] at h
  obtain ⟨_, -, _, -, rfl⟩ := h
  exact ⟨rfl, rfl⟩

/-- A canonical payload that is validated. -/
theorem canonicalManifest_ok {payload : CanonicalWorkloadManifest δ} {manifest : Manifest γ}
    (h : C.canonicalizeManifestPayload payload >>= C.modelValidate = .ok manifest) :
    manifest.manifestId = payload.manifestId ∧ manifest.manifestVersion = payload.manifestVersion ∧
      ∃ canonical, C.payloadDigest false canonical = .ok manifest.artifactDigest := by
  obtain ⟨canonical, hcanonical, hmanifest⟩ := bind_ok_iff.mp h
  obtain ⟨hid, hversion⟩ := canonicalizeManifestPayload_ok hcanonical
  obtain ⟨hid', hversion', hdigest, hpayload⟩ := modelValidate_ok hmanifest
  exact ⟨hid'.trans hid, hversion'.trans hversion, canonical, hdigest ▸ hpayload⟩

end Contract

/-! ## Stores -/

/-- A draft of its own workload, under a digest text. -/
def KeyedDraft (draft : Draft γ) : Prop :=
  draft.manifest.manifestId = draft.manifestId ∧ isDigest draft.manifestDigest.toList = true

/-- A published version under its key. -/
def KeyedVersion (key : String × ManifestVersion) (published : PublishedManifest (Manifest γ)) :
    Prop :=
  (published.manifestId, published.manifestVersion) = key ∧
    published.manifest.manifestId = published.manifestId ∧
    published.manifest.manifestVersion = published.manifestVersion ∧
    isDigest published.manifestDigest.toList = true

structure KeyedStore (s : Store γ δ R) : Prop where
  drafts : ∀ {draftId draft}, s.drafts.get? draftId = some draft → KeyedDraft draft
  published : ∀ {key published}, s.published.get? key = some published →
    KeyedVersion key published

variable {S : ContextService γ δ R} {s t : Store γ δ R}

theorem ensureManifestDigest_isDigest (hC : DigestTexts S.contract) {manifest : Manifest γ}
    {digest : String} (h : S.ensureManifestDigest manifest digest = .ok ()) :
    isDigest digest.toList = true := by
  simp only [ensureManifestDigest, bind_ok_iff] at h
  obtain ⟨computed, hcomputed, h⟩ := h
  split at h
  · cases h
  · next hsame =>
    have hdigest : digest = computed := by
      by_contra hne
      exact hsame (.inr hne)
    rw [hdigest]
    exact hC.computed hcomputed

theorem finalizePublicationCandidate_ok {manifest candidate : Manifest γ} {now : Timestamp}
    (h : S.finalizePublicationCandidate manifest now = .ok candidate) :
    candidate.manifestId = manifest.manifestId ∧
      ∃ canonical, S.contract.payloadDigest false canonical = .ok candidate.artifactDigest := by
  unfold finalizePublicationCandidate at h
  dsimp only at h
  split at h
  · next finalized hfinalized =>
    cases h
    obtain ⟨hid, -, hdigest⟩ := canonicalManifest_ok hfinalized
    exact ⟨hid, hdigest⟩
  · cases h

/-- A change of a draft keeps it keyed. -/
theorem KeyedDraft.change (hC : DigestTexts S.contract) {current updated : Draft γ}
    (h : KeyedDraft current) (hchange : DraftChange S s current updated) : KeyedDraft updated := by
  cases hchange with
  | replaced actor command now state sameManifest sameVersion digest =>
    exact ⟨sameManifest, ensureManifestDigest_isDigest hC digest⟩
  | validated => exact h
  | submitted actor command now candidate state finalized =>
    obtain ⟨hid, canonical, hdigest⟩ := finalizePublicationCandidate_ok finalized
    exact ⟨hid.trans h.1, hC.payload hdigest⟩
  | reviewed =>
    unfold reviewedDraft
    split <;> exact h
  | approved => exact h

/-- Writing a keyed draft. -/
theorem KeyedStore.write (h : KeyedStore s) {draftId : String} {draft : Draft γ}
    (hdraft : KeyedDraft draft) (hdrafts : t.drafts = s.drafts.set draftId draft)
    (hpublished : t.published = s.published) : KeyedStore t where
  drafts {key found} hfound := by
    rw [hdrafts, Dictionary.get?_set] at hfound
    split at hfound
    · exact Option.some.inj hfound ▸ hdraft
    · exact h.drafts hfound
  published hfound := h.published (hpublished ▸ hfound)

theorem KeyedStore.step (hC : DigestTexts S.contract) (h : KeyedStore s)
    (hstep : LifecycleStep S s t) : KeyedStore t := by
  cases hstep with
  | created actor command now fresh digest writes =>
    refine h.write ⟨rfl, ensureManifestDigest_isDigest hC digest⟩ writes.drafts_eq
      writes.published_eq
  | changed draftId current updated stored change writes =>
    exact h.write ((h.drafts stored).change hC change) writes.drafts_eq writes.published_eq
  | published draftId current actor command candidate approval receipt now stored state isCandidate
      authoritative receiptStored authorizes free lineage writes =>
    have hcurrent := h.drafts stored
    refine ⟨fun {key found} hfound => ?_, fun {key found} hfound => ?_⟩
    · rw [writes.drafts_eq, Dictionary.get?_set] at hfound
      split at hfound
      · obtain rfl := Option.some.inj hfound
        exact hcurrent
      · exact h.drafts hfound
    · rw [writes.published_eq, Dictionary.get?_set] at hfound
      split at hfound
      · next hkey =>
        obtain rfl := Option.some.inj hfound
        exact ⟨hkey.symm, hcurrent.1, rfl, hcurrent.2⟩
      · exact h.published hfound
  | superseded actor manifestId superseded replacement published found source reason relation now
      stored sourceStored state unsuperseded replacementStored successor relates writes =>
    have hsource : KeyedDraft source := h.drafts sourceStored
    have hclosed : KeyedDraft (closedDraft .superseded actor source reason now) := hsource
    exact h.write hclosed writes.drafts_eq writes.published_eq
  | receiptIssued receipt fresh issued =>
    subst issued
    exact ⟨h.drafts, h.published⟩
  | unchanged drafts_eq published_eq =>
    exact ⟨fun hfound => h.drafts (drafts_eq ▸ hfound),
      fun hfound => h.published (published_eq ▸ hfound)⟩

/-- Every reachable store is keyed. -/
theorem keyedStore (hC : DigestTexts S.contract) (h : (contextSystem S).Reachable s) :
    KeyedStore s := by
  refine lifecycle_invariant (P := KeyedStore) (fun _ => ⟨nofun, nofun⟩) ?_ ?_ h
  · intro s t hsame hs
    exact ⟨fun hfound => hs.drafts (hsame.drafts_eq ▸ hfound),
      fun hfound => hs.published (hsame.published_eq ▸ hfound)⟩
  · exact fun s t hs hstep => hs.step hC hstep

end AthenaContext.KeyedVersions
