import AthenaContext.ContextRecords
import AthenaContext.Dictionaries
import AthenaContext.OrdinalCollections

/-!
# Cohort decision records

Human decisions on proposed cohorts: the request, the authority that its
selected proposals cover, the persisted record with its validation, the receipt
of its idempotency key, and when two decisions overlap. The normalization of
identifiers is a parameter. Texts that the contracts bound only by a pattern or a
length are plain strings; a review candidate is its canonical JSON text.
-/

namespace AthenaContext.CohortDecisionRecords

open ContextRecords OrdinalCollections Dictionaries

/-- `CohortDecisionKind`. -/
inductive CohortDecisionKind
  | approve
  | reject
  | split
  | merge
  deriving DecidableEq, Repr

def CohortDecisionKind.value : CohortDecisionKind → String
  | .approve => "approve"
  | .reject => "reject"
  | .split => "split"
  | .merge => "merge"

structure CohortDraftBinding where
  draftId : String
  revision : ℕ
  manifestDigest : String
  deriving DecidableEq, Repr

structure ProposalScope where
  manifestId : String
  manifestVersion : ManifestVersion
  profileId : String
  profileType : String
  resolvedProfileDigest : String
  deriving DecidableEq, Repr

structure CohortDecisionRequest where
  action : CohortDecisionKind
  manifestId : String
  manifestVersion : ManifestVersion
  profileId : String
  draftId : String
  expectedRevision : ℕ
  expectedDigest : String
  scope : ProposalScope
  proposalSetDigest : String
  proposalIds : List String
  snapshotArtifactDigest : String
  candidate : Option String
  rationale : String
  deriving DecidableEq, Repr

/-- `CohortRejectionAuthority`: a selector and role fingerprint with the members
that are decided under it. -/
structure CohortRejectionAuthority where
  selectorRoleFingerprint : String
  memberFingerprints : List String
  deriving DecidableEq, Repr

/-- `CohortProposalSetVersion`. -/
structure CohortProposalSetVersion where
  manifestId : String
  manifestVersion : ManifestVersion
  profileId : String
  resolvedProfileDigest : String
  sourceDraft : CohortDraftBinding
  proposalSetDigest : String
  snapshotArtifactDigest : String
  sourceProposalIds : List String
  sourceRejectionAuthorities : List CohortRejectionAuthority
  deriving DecidableEq, Repr

structure CohortDecisionApplyBinding where
  decisionId : String
  decision : CohortDecisionKind
  decidedAt : Timestamp
  actor : Actor
  candidateId : String
  candidateDigest : String
  manifestId : String
  manifestVersion : ManifestVersion
  profileId : String
  resolvedProfileDigest : String
  sourceDraft : CohortDraftBinding
  currentDraft : CohortDraftBinding
  resultingDraft : CohortDraftBinding
  proposalIds : List String
  proposalSetDigest : String
  snapshotArtifactDigest : String
  targetRoleId : String
  inheritedRoleDigest : String
  replacementRoleDigest : String
  replacementSelectorProvenanceDigest : String
  retainedReplacementRoleDigests : List (String × String × String)
  replacementManifestDigest : String
  deriving DecidableEq, Repr

/-- `CohortDecisionApplyAuthorization`; its status can only be `approved`. -/
structure CohortDecisionApplyAuthorization where
  binding : CohortDecisionApplyBinding
  mutationDigest : String
  deriving DecidableEq, Repr

structure CohortDecisionAudit where
  auditId : String
  decisionId : String
  actor : Actor
  occurredAt : Timestamp
  sourceRevision : ℕ
  sourceProposalIds : List String
  resultingRevision : Option ℕ
  draftMutated : Bool
  deriving DecidableEq, Repr

structure CohortDecisionRecord where
  decisionId : String
  decision : CohortDecisionKind
  manifestId : String
  manifestVersion : ManifestVersion
  profileId : String
  profileType : String
  resolvedProfileDigest : String
  sourceDraft : CohortDraftBinding
  appliedDraft : Option CohortDraftBinding
  batchInputDigest : String
  proposalSetDigest : String
  sourceProposalIds : List String
  sourceRoleRefs : List String
  sourceRejectionAuthorities : List CohortRejectionAuthority
  snapshotArtifactDigest : String
  candidateId : Option String
  candidateDigest : Option String
  applyAuthorization : Option CohortDecisionApplyAuthorization
  rationale : String
  decidedBy : Actor
  decidedAt : Timestamp
  audit : CohortDecisionAudit
  deriving DecidableEq, Repr

structure CohortDecisionReceipt where
  actorId : String
  idempotencyKey : String
  requestDigest : String
  manifestId : String
  decisionId : String
  decisionDigest : String
  deriving DecidableEq, Repr

/-- `proposal_set_version`. -/
def CohortDecisionRecord.proposalSetVersion (record : CohortDecisionRecord) :
    CohortProposalSetVersion where
  manifestId := record.manifestId
  manifestVersion := record.manifestVersion
  profileId := record.profileId
  resolvedProfileDigest := record.resolvedProfileDigest
  sourceDraft := record.sourceDraft
  proposalSetDigest := record.proposalSetDigest
  snapshotArtifactDigest := record.snapshotArtifactDigest
  sourceProposalIds := record.sourceProposalIds
  sourceRejectionAuthorities := record.sourceRejectionAuthorities

/-! ## Validation -/

/-- The checks of `CohortProposalSetVersion` on its authorities: fingerprints in
order, members globally unique and bounded. -/
def AuthoritiesValid (authorities : List CohortRejectionAuthority) : Prop :=
  strictlyOrdered CohortRejectionAuthority.selectorRoleFingerprint authorities ∧
    (∀ authority ∈ authorities, authority.memberFingerprints ≠ []) ∧
    (authorities.flatMap CohortRejectionAuthority.memberFingerprints).Nodup ∧
    (authorities.flatMap CohortRejectionAuthority.memberFingerprints).length ≤ 1000

instance (authorities : List CohortRejectionAuthority) : Decidable (AuthoritiesValid authorities) := by
  unfold AuthoritiesValid
  infer_instance

section Validation

variable (normalizedIdentifier : String → String)

/-- The apply authorization of a record binds the record. -/
def BindsRecord (record : CohortDecisionRecord) (binding : CohortDecisionApplyBinding) : Prop :=
  binding.decisionId = record.decisionId ∧ binding.decision = record.decision ∧
    binding.decidedAt = record.decidedAt ∧ binding.actor = record.decidedBy ∧
    some binding.candidateId = record.candidateId ∧
    some binding.candidateDigest = record.candidateDigest ∧
    binding.manifestId = record.manifestId ∧ binding.manifestVersion = record.manifestVersion ∧
    normalizedIdentifier binding.profileId = normalizedIdentifier record.profileId ∧
    binding.resolvedProfileDigest = record.resolvedProfileDigest ∧
    binding.sourceDraft = record.sourceDraft ∧ some binding.resultingDraft = record.appliedDraft ∧
    binding.proposalIds = record.sourceProposalIds ∧
    binding.proposalSetDigest = record.proposalSetDigest ∧
    binding.snapshotArtifactDigest = record.snapshotArtifactDigest ∧
    normalizedIdentifier binding.targetRoleId ∈ record.sourceRoleRefs.map normalizedIdentifier

instance (record : CohortDecisionRecord) (binding : CohortDecisionApplyBinding) :
    Decidable (BindsRecord normalizedIdentifier record binding) := by
  unfold BindsRecord
  infer_instance

/-- `validate_outcome`, with the validators of the authorities. -/
def CohortDecisionRecord.Valid (record : CohortDecisionRecord) : Prop :=
  AuthoritiesValid record.sourceRejectionAuthorities ∧
    (record.decision = .reject ↔ record.appliedDraft = none) ∧
    (record.decision = .reject ↔ record.candidateId = none) ∧
    (record.decision = .reject ↔ record.candidateDigest = none) ∧
    (record.decision = .reject ↔ record.applyAuthorization = none) ∧
    (∀ authorization ∈ record.applyAuthorization,
      BindsRecord normalizedIdentifier record authorization.binding) ∧
    record.audit.decisionId = record.decisionId ∧ record.audit.actor = record.decidedBy ∧
    record.audit.occurredAt = record.decidedAt ∧
    record.audit.sourceRevision = record.sourceDraft.revision ∧
    record.audit.sourceProposalIds = record.sourceProposalIds ∧
    (record.audit.draftMutated = true ↔ record.decision ≠ .reject) ∧
    record.audit.resultingRevision = record.appliedDraft.map CohortDraftBinding.revision

instance (record : CohortDecisionRecord) : Decidable (record.Valid normalizedIdentifier) := by
  unfold CohortDecisionRecord.Valid
  infer_instance

/-! ## Overlap -/

/-- `authority_overlap_identity`. -/
def CohortProposalSetVersion.authorityOverlapIdentity (version : CohortProposalSetVersion) :
    String × String :=
  (normalizedIdentifier version.manifestId, normalizedIdentifier version.profileId)

/-- `batch_overlap_identity`. -/
def CohortProposalSetVersion.batchOverlapIdentity (version : CohortProposalSetVersion) :
    String × ManifestVersion × String × String × String × String :=
  (normalizedIdentifier version.manifestId, version.manifestVersion,
    normalizedIdentifier version.profileId, version.resolvedProfileDigest,
    version.proposalSetDigest, version.snapshotArtifactDigest)

/-- `authority_selected_identity`. -/
def CohortProposalSetVersion.authoritySelectedIdentity (version : CohortProposalSetVersion) :
    (String × ManifestVersion × String × String × String × String) × List String :=
  (version.batchOverlapIdentity normalizedIdentifier, version.sourceProposalIds)

/-- The members under a fingerprint in the dictionary that
`rejection_authorities_overlap` builds: the last entry of a fingerprint counts. -/
def membersUnder (authorities : List CohortRejectionAuthority) (fingerprint : String) :
    List String :=
  match authorities.reverse.find? fun authority =>
      authority.selectorRoleFingerprint == fingerprint with
  | some authority => authority.memberFingerprints
  | none => []

/-- `rejection_authorities_overlap`. -/
def rejectionAuthoritiesOverlap (left right : List CohortRejectionAuthority) : Bool :=
  left.any fun authority => authority.memberFingerprints.any fun member =>
    decide (member ∈ membersUnder right authority.selectorRoleFingerprint)

/-- Whether a persisted decision overlaps a proposal set, as
`list_overlapping_cohort_decisions` selects it. -/
def overlaps (version : CohortProposalSetVersion) (decision : CohortDecisionRecord) : Bool :=
  (decide (decision.proposalSetVersion.authorityOverlapIdentity normalizedIdentifier =
      version.authorityOverlapIdentity normalizedIdentifier) &&
    rejectionAuthoritiesOverlap version.sourceRejectionAuthorities
      decision.sourceRejectionAuthorities) ||
  (decide (decision.proposalSetVersion.batchOverlapIdentity normalizedIdentifier =
      version.batchOverlapIdentity normalizedIdentifier) &&
    version.sourceProposalIds.any fun proposal => decide (proposal ∈ decision.sourceProposalIds))

/-- A decision covers a member under a fingerprint. -/
def CohortDecisionRecord.Covers (record : CohortDecisionRecord) (fingerprint member : String) :
    Prop :=
  ∃ authority ∈ record.sourceRejectionAuthorities,
    authority.selectorRoleFingerprint = fingerprint ∧ member ∈ authority.memberFingerprints

/-- Two decisions of one workload and profile cover one member under one
fingerprint, or one proposal of one batch. -/
def Conflict (a b : CohortDecisionRecord) : Prop :=
  (a.proposalSetVersion.authorityOverlapIdentity normalizedIdentifier =
      b.proposalSetVersion.authorityOverlapIdentity normalizedIdentifier ∧
    ∃ fingerprint member, a.Covers fingerprint member ∧ b.Covers fingerprint member) ∨
  (a.proposalSetVersion.batchOverlapIdentity normalizedIdentifier =
      b.proposalSetVersion.batchOverlapIdentity normalizedIdentifier ∧
    ∃ proposal, proposal ∈ a.sourceProposalIds ∧ proposal ∈ b.sourceProposalIds)

end Validation

variable {normalizedIdentifier : String → String} {a b : CohortDecisionRecord}

theorem Conflict.symm (h : Conflict normalizedIdentifier a b) :
    Conflict normalizedIdentifier b a := by
  rcases h with ⟨hscope, fingerprint, member, ha, hb⟩ | ⟨hbatch, proposal, ha, hb⟩
  · exact .inl ⟨hscope.symm, fingerprint, member, hb, ha⟩
  · exact .inr ⟨hbatch.symm, proposal, hb, ha⟩

/-- With distinct fingerprints the dictionary holds every authority. -/
theorem mem_membersUnder {authorities : List CohortRejectionAuthority} {fingerprint member : String}
    (hd : (authorities.map CohortRejectionAuthority.selectorRoleFingerprint).Nodup) :
    member ∈ membersUnder authorities fingerprint ↔
      ∃ authority ∈ authorities, authority.selectorRoleFingerprint = fingerprint ∧
        member ∈ authority.memberFingerprints := by
  unfold membersUnder
  constructor
  · intro h
    split at h
    · rename_i authority hfound
      have hmem := List.mem_reverse.mp (List.mem_of_find?_eq_some hfound)
      have hkey : authority.selectorRoleFingerprint = fingerprint := by
        simpa using List.find?_some hfound
      exact ⟨authority, hmem, hkey, h⟩
    · cases h
  · rintro ⟨authority, hmem, hkey, hmember⟩
    split
    · rename_i found hfound
      have hfoundMem := List.mem_reverse.mp (List.mem_of_find?_eq_some hfound)
      have hfoundKey : found.selectorRoleFingerprint = fingerprint := by
        simpa using List.find?_some hfound
      have hsame : found = authority :=
        List.inj_on_of_nodup_map hd hfoundMem hmem (hfoundKey.trans hkey.symm)
      rw [hsame]
      exact hmember
    · rename_i hnone
      have hnot := List.find?_eq_none.mp hnone authority (List.mem_reverse.mpr hmem)
      simp [hkey] at hnot

/-- The scan of the store finds exactly the conflicting decisions. -/
theorem overlaps_iff (hb : AuthoritiesValid b.sourceRejectionAuthorities) :
    overlaps normalizedIdentifier a.proposalSetVersion b = true ↔
      Conflict normalizedIdentifier a b := by
  have hmembers : rejectionAuthoritiesOverlap a.sourceRejectionAuthorities
      b.sourceRejectionAuthorities = true ↔
        ∃ fingerprint member, a.Covers fingerprint member ∧ b.Covers fingerprint member := by
    simp only [rejectionAuthoritiesOverlap, List.any_eq_true, decide_eq_true_eq,
      mem_membersUnder hb.1.nodup]
    constructor
    · rintro ⟨authority, hmem, member, hmember, hcovered⟩
      exact ⟨_, member, ⟨authority, hmem, rfl, hmember⟩, hcovered⟩
    · rintro ⟨fingerprint, member, ⟨authority, hmem, rfl, hmember⟩, hcovered⟩
      exact ⟨authority, hmem, member, hmember, hcovered⟩
  have hproposals : (a.proposalSetVersion.sourceProposalIds.any fun proposal =>
      decide (proposal ∈ b.sourceProposalIds)) = true ↔
        ∃ proposal, proposal ∈ a.sourceProposalIds ∧ proposal ∈ b.sourceProposalIds := by
    simp only [List.any_eq_true, decide_eq_true_eq]
    exact Iff.rfl
  unfold overlaps Conflict
  rw [Bool.or_eq_true, Bool.and_eq_true, Bool.and_eq_true, decide_eq_true_eq, decide_eq_true_eq,
    hproposals]
  constructor
  · rintro (⟨hscope, hcovered⟩ | ⟨hbatch, hproposal⟩)
    · exact .inl ⟨hscope.symm, hmembers.mp hcovered⟩
    · exact .inr ⟨hbatch.symm, hproposal⟩
  · rintro (⟨hscope, hcovered⟩ | ⟨hbatch, hproposal⟩)
    · exact .inl ⟨hscope.symm, hmembers.mpr hcovered⟩
    · exact .inr ⟨hbatch.symm, hproposal⟩

/-! ## The dictionaries of the store -/

/-- The dictionaries that the store keeps for decisions. -/
structure CohortRecords where
  decisions : Dictionary (String × String) CohortDecisionRecord
  decisionVersions : Dictionary
    ((String × ManifestVersion × String × String × String × String) × List String)
    (String × String)
  decisionReceipts : Dictionary (String × String) CohortDecisionReceipt

/-- The dictionaries of a store that was just opened. -/
def CohortRecords.empty : CohortRecords := ⟨.empty, .empty, .empty⟩

end AthenaContext.CohortDecisionRecords
