import AthenaContext.PolicyEvaluation

/-!
# Residual risk

When a violation is an accepted residual risk. An acceptance governs a constraint when
the constraint or an unexpired overlay on it refers to it, it is approved and in its
lifetime, its scope is that of the clause the constraint names, and the pairs it accepts
are those the proof requires. The violation is accepted exactly when one acceptance
governs; two of them, or an overlay outside the constraint's governance, raise.
-/

namespace AthenaContext.ResidualRisk

open FallibleResults PolicyEvaluation PolicyProofs PolicyRecords RoleResolution TextNormalization

variable {unicode : UnicodeTables}

/-! ## Selection by a test -/

/-- Exactly one entry of a list, by position, has the property. -/
def ExactlyOne {α : Type*} (P : α → Prop) (items : List α) (x : α) : Prop :=
  ∃ before after, items = before ++ x :: after ∧ P x ∧ ∀ y ∈ before ++ after, ¬ P y

/-- Two entries of a list have the property. -/
def AtLeastTwo {α : Type*} (P : α → Prop) (items : List α) : Prop :=
  ∃ before x middle y after, items = before ++ x :: (middle ++ y :: after) ∧ P x ∧ P y

theorem filter_eq_singleton_iff {α : Type*} {p : α → Bool} {items : List α} {x : α} :
    items.filter p = [x] ↔ ExactlyOne (p · = true) items x := by
  rw [List.filter_eq_cons_iff]
  constructor
  · rintro ⟨before, after, hitems, hbefore, hx, hafter⟩
    refine ⟨before, after, hitems, hx, fun y hy => ?_⟩
    rcases List.mem_append.mp hy with hb | ha
    · exact hbefore y hb
    · exact List.filter_eq_nil_iff.mp hafter y ha
  · rintro ⟨before, after, hitems, hx, hothers⟩
    exact ⟨before, after, hitems, fun y hy => hothers y (List.mem_append_left _ hy), hx,
      List.filter_eq_nil_iff.mpr fun y hy => hothers y (List.mem_append_right _ hy)⟩

theorem atLeastTwo_filter {α : Type*} {p : α → Bool} {items : List α}
    (h : AtLeastTwo (p · = true) items) : 2 ≤ (items.filter p).length := by
  obtain ⟨before, x, middle, y, after, rfl, hx, hy⟩ := h
  simp only [List.filter_append, List.filter_cons_of_pos hx, List.filter_cons_of_pos hy,
    List.length_append, List.length_cons]
  omega

/-! ## Governing acceptances -/

section governance

variable (profile : ResolvedManifestProfile unicode) (evidence : EvidenceReferenceContext unicode)
  (constraint : ManifestConstraint) (asOf : UtcDateTime)

/-- The relationship the proof is about. -/
def namedRelationship : Option DeclaredManifestRelationship :=
  match proofRelationship profile constraint with
  | .ok relationship => relationship
  | .error _ => none

/-- An unexpired overlay of the profile aimed at the constraint. -/
def AimedOverlay (overlay : ExceptionManifestRelationship) : Prop :=
  .exception overlay ∈ profile.relationships ∧
    overlayApplies unicode constraint (namedRelationship profile constraint) overlay = true ∧
    asOf < overlay.expiresAt

/-- The constraint or an overlay aimed at it refers to the acceptance. -/
def Referenced (riskAcceptanceId : Text) : Prop :=
  (∃ reference ∈ constraint.riskAcceptanceRef,
    normalizedId unicode riskAcceptanceId = normalizedId unicode reference) ∨
  ∃ overlay, AimedOverlay profile constraint asOf overlay ∧
    normalizedId unicode riskAcceptanceId = normalizedId unicode overlay.riskAcceptanceRef

/-- The pairs of a role the proof depends on and a resource of the role. -/
def requiredPairs : Finset (Text × Text) :=
  ((rolesRead profile constraint).flatMap (rolePairs evidence)).toFinset

/-- The acceptance governs the constraint. -/
structure Governs (acceptance : ManifestRiskAcceptance unicode) : Prop where
  referenced : Referenced profile constraint asOf acceptance.riskAcceptanceId
  approved : acceptance.status = .approved
  lifetime : acceptance.acceptedAt ≤ asOf ∧ asOf < acceptance.expiresAt
  manifest : acceptance.governanceScope.manifestId = profile.manifestId
  inProfile : normalizedId unicode acceptance.governanceScope.profileId =
    normalizedId unicode profile.profileId
  listed : ∃ listedProfile ∈ acceptance.profiles,
    normalizedId unicode listedProfile = normalizedId unicode profile.profileId
  clausePath : acceptance.governanceScope.clausePath = constraintPath (acceptanceClauseId constraint)
  owner : acceptance.governanceScope.ownerRef = constraint.ownerRef ∧
    acceptance.ownedBy = constraint.ownerRef
  bindings : acceptedBindings acceptance = requiredPairs profile evidence constraint

end governance

section matching

variable {profile : ResolvedManifestProfile unicode} {evidence : EvidenceReferenceContext unicode}
  {constraint : ManifestConstraint} {asOf : UtcDateTime}

theorem isActive_iff {acceptance : ManifestRiskAcceptance unicode}
    {manifestId profileId clausePath ownerRef : Text} :
    isActive acceptance asOf manifestId profileId clausePath ownerRef = true ↔
      acceptance.status = .approved ∧ (acceptance.acceptedAt ≤ asOf ∧ asOf < acceptance.expiresAt) ∧
        acceptance.governanceScope.manifestId = manifestId ∧
        normalizedId unicode acceptance.governanceScope.profileId = normalizedId unicode profileId ∧
        acceptance.governanceScope.clausePath = clausePath ∧
        acceptance.governanceScope.ownerRef = ownerRef ∧ acceptance.ownedBy = ownerRef ∧
        ∃ listed ∈ acceptance.profiles,
          normalizedId unicode listed = normalizedId unicode profileId := by
  simp only [isActive, Bool.and_eq_true, beq_iff_eq, decide_eq_true_eq, List.any_eq_true, sameRef_iff,
    and_assoc]

/-- The loop over the relationships collects the references of the aimed overlays, and
none of them is outside the constraint's governance. -/
theorem collectOverlays_ok {relationship : Option DeclaredManifestRelationship}
    {relationships : List ManifestRelationship} {start result : List Text}
    (h : relationships.foldlM (collectOverlay profile constraint relationship asOf) start =
      .ok result) :
    (∀ x, x ∈ result ↔ x ∈ start ∨ ∃ overlay, .exception overlay ∈ relationships ∧
      overlayApplies unicode constraint relationship overlay = true ∧ asOf < overlay.expiresAt ∧
        x = normalizedId unicode overlay.riskAcceptanceRef) ∧
    ∀ overlay, .exception overlay ∈ relationships →
      overlayApplies unicode constraint relationship overlay = true → asOf < overlay.expiresAt →
        overlayGoverned profile constraint overlay = true := by
  induction relationships generalizing start with
  | nil =>
    have he : start = result := by simpa [pure, Except.pure] using h
    simp [he]
  | cons first rest ih =>
    rw [List.foldlM_cons] at h
    obtain ⟨next, hfirst, hrest⟩ := bind_ok_iff.mp h
    obtain ⟨hmem, hgoverned⟩ := ih hrest
    match first with
    | .declared declared =>
      have he : start = next := Except.ok.inj hfirst
      simpa [he] using And.intro hmem hgoverned
    | .exception overlay =>
      rw [collectOverlay] at hfirst
      split_ifs at hfirst with hnot hexpired hungoverned
      · have he : start = next := Except.ok.inj hfirst
        have happlies : overlayApplies unicode constraint relationship overlay ≠ true := by
          simpa using hnot
        refine ⟨fun x => ?_, fun other ho ha hx => ?_⟩
        · rw [he, hmem]
          simp [happlies]
        · rcases List.mem_cons.mp ho with heq | ho
          · injection heq with heq
            exact absurd (heq ▸ ha) happlies
          · exact hgoverned other ho ha hx
      · have he : start = next := Except.ok.inj hfirst
        have hdead : ¬ asOf < overlay.expiresAt := not_lt.mpr hexpired
        refine ⟨fun x => ?_, fun other ho ha hx => ?_⟩
        · rw [he, hmem]
          simp [hdead]
        · rcases List.mem_cons.mp ho with heq | ho
          · injection heq with heq
            exact absurd (heq ▸ hx) hdead
          · exact hgoverned other ho ha hx
      · have he : start ++ [normalizedId unicode overlay.riskAcceptanceRef] = next :=
          Except.ok.inj hfirst
        have happlies : overlayApplies unicode constraint relationship overlay = true := by
          simpa using hnot
        refine ⟨fun x => ?_, fun other ho ha hx => ?_⟩
        · rw [hmem, ← he]
          simp [happlies, not_le.mp hexpired, or_assoc]
        · rcases List.mem_cons.mp ho with heq | ho
          · injection heq with heq
            rw [heq]
            simpa using hungoverned
          · exact hgoverned other ho ha hx

theorem namedRelationship_of_ok {relationship : Option DeclaredManifestRelationship}
    (h : proofRelationship profile constraint = .ok relationship) :
    namedRelationship profile constraint = relationship := by
  rw [namedRelationship, h]

/-- What the two routes refer to, and that every aimed overlay is governed. -/
theorem acceptanceRefs_ok {overlayRefs : List Text}
    (h : validatedExceptionRefs profile constraint asOf = .ok overlayRefs) :
    (∀ riskAcceptanceId, normalizedId unicode riskAcceptanceId ∈
        overlayRefs ++ (constraint.riskAcceptanceRef.map (normalizedId unicode)).toList ↔
      Referenced profile constraint asOf riskAcceptanceId) ∧
    ∀ overlay, AimedOverlay profile constraint asOf overlay →
      overlayGoverned profile constraint overlay = true := by
  obtain ⟨relationship, hrelationship, hloop⟩ := bind_ok_iff.mp h
  have hnamed := namedRelationship_of_ok hrelationship
  obtain ⟨hmem, hgoverned⟩ := collectOverlays_ok hloop
  refine ⟨fun riskAcceptanceId => ?_, fun overlay ⟨hin, happlies, hexpires⟩ => ?_⟩
  · rw [List.mem_append, hmem, Referenced]
    constructor
    · rintro ((hnil | ⟨overlay, hin, happlies, hexpires, he⟩) | hdirect)
      · simp at hnil
      · exact .inr ⟨overlay, ⟨hin, by rwa [hnamed], hexpires⟩, he⟩
      · obtain ⟨reference, hr, he⟩ : ∃ reference, constraint.riskAcceptanceRef = some reference ∧
            normalizedId unicode reference = normalizedId unicode riskAcceptanceId := by
          simpa using hdirect
        exact .inl ⟨reference, hr, he.symm⟩
    · rintro (⟨reference, hr, he⟩ | ⟨overlay, ⟨hin, happlies, hexpires⟩, he⟩)
      · have hsome : constraint.riskAcceptanceRef = some reference := hr
        exact .inr (by simp [hsome, he])
      · exact .inl (.inr ⟨overlay, hin, by rwa [hnamed] at happlies, hexpires, he⟩)
  · exact hgoverned overlay hin (by rwa [hnamed] at happlies) hexpires

theorem acceptanceMatches_iff {acceptanceRefs : List Text} {acceptance : ManifestRiskAcceptance unicode}
    (hrefs : ∀ riskAcceptanceId, normalizedId unicode riskAcceptanceId ∈ acceptanceRefs ↔
      Referenced profile constraint asOf riskAcceptanceId) :
    acceptanceMatches profile constraint asOf acceptanceRefs (requiredPairs profile evidence constraint)
        acceptance = true ↔ Governs profile evidence constraint asOf acceptance := by
  rw [acceptanceMatches, Bool.and_eq_true, Bool.and_eq_true, List.elem_iff, hrefs, isActive_iff,
    beq_iff_eq]
  constructor
  · rintro ⟨⟨hreferenced, happroved, hlife, hmanifest, hprofile, hpath, howner, howned, hlisted⟩, hb⟩
    exact ⟨hreferenced, happroved, hlife, hmanifest, hprofile, hlisted, hpath, ⟨howner, howned⟩, hb⟩
  · intro h
    exact ⟨⟨h.referenced, h.approved, h.lifetime, h.manifest, h.inProfile, h.clausePath, h.owner.1,
      h.owner.2, h.listed⟩, h.bindings⟩

/-- On complete evidence the required bindings are the pairs of the roles the proof
depends on, if it depends on any. -/
theorem requiredResourceBindings_complete (hcomplete : EvidenceComplete profile evidence constraint)
    {roleRefs : List Text} (hroles : proofRoleRefs profile constraint = .ok roleRefs) :
    requiredResourceBindings profile evidence constraint =
      .ok (if rolesRead profile constraint = [] then none
        else some (requiredPairs profile evidence constraint)) := by
  have hread : rolesRead profile constraint = roleRefs := by rw [rolesRead, hroles]
  have hproven : (roleRefs.all fun roleRef => (roleGate evidence roleRef).isNone &&
      !(roleResources evidence roleRef).isEmpty) = true := by
    refine List.all_eq_true.mpr fun roleRef hr => ?_
    have hin : roleRef ∈ rolesRead profile constraint := by rwa [hread]
    obtain ⟨hbound, hne⟩ := hcomplete.roles roleRef hin
    have hfacts : ∀ fact ∈ roleResources evidence roleRef,
        fact.state = .complete ∧ fact.proofSource = .observed := by
      intro fact hf
      obtain ⟨hmem, hsame⟩ := mem_roleResources.mp hf
      refine hcomplete.resources fact hmem ?_
      rw [readsRole, Bool.or_eq_true]
      exact .inr (List.any_eq_true.mpr ⟨roleRef, hin, hsame⟩)
    have hgate := roleGate_none_iff.mpr ⟨hbound, hne, hfacts⟩
    simp [hgate, hne]
  rw [requiredResourceBindings, hroles]
  change (if roleRefs = [] then _ else _) = _
  by_cases hnil : roleRefs = []
  · rw [if_pos hnil, hread, if_pos hnil]
    rfl
  · rw [if_neg hnil, if_pos hproven, hread, if_neg hnil, requiredPairs, hread]
    rfl

theorem onlyAcceptance_ok {acceptances : List (ManifestRiskAcceptance unicode)}
    {found : Option (ManifestRiskAcceptance unicode)} (h : onlyAcceptance acceptances = .ok found) :
    acceptances.length < 2 ∧ ∀ acceptance, found = some acceptance ↔ acceptances = [acceptance] := by
  match acceptances with
  | [] =>
    rw [← Except.ok.inj h]
    simp
  | [only] =>
    rw [← Except.ok.inj h]
    simp
  | _ :: _ :: _ => simp [onlyAcceptance] at h

/-- The acceptance found among the references on complete evidence is the one that governs. -/
theorem matchingAmong_ok (hcomplete : EvidenceComplete profile evidence constraint)
    {roleRefs acceptanceRefs : List Text}
    (hroles : proofRoleRefs profile constraint = .ok roleRefs)
    (hrefs : ∀ riskAcceptanceId, normalizedId unicode riskAcceptanceId ∈ acceptanceRefs ↔
      Referenced profile constraint asOf riskAcceptanceId)
    {found : Option (ManifestRiskAcceptance unicode)}
    (h : matchingAmong profile evidence constraint asOf acceptanceRefs = .ok found) :
    (rolesRead profile constraint ≠ [] →
      ¬ AtLeastTwo (Governs profile evidence constraint asOf) profile.riskAcceptances) ∧
    ∀ acceptance, found = some acceptance ↔ rolesRead profile constraint ≠ [] ∧
      ExactlyOne (Governs profile evidence constraint asOf) profile.riskAcceptances acceptance := by
  have hmatch : (fun acceptance => acceptanceMatches profile constraint asOf acceptanceRefs
      (requiredPairs profile evidence constraint) acceptance = true) =
        Governs profile evidence constraint asOf :=
    funext fun acceptance => propext (acceptanceMatches_iff hrefs)
  rw [matchingAmong, requiredResourceBindings_complete hcomplete hroles] at h
  split_ifs at h with hnone hnil
  · -- nothing refers to an acceptance, so none governs
    have hno : ∀ acceptance, ¬ Governs profile evidence constraint asOf acceptance := by
      intro acceptance hg
      have hin := (hrefs _).mpr hg.referenced
      rw [hnone] at hin
      exact List.not_mem_nil hin
    rw [← Except.ok.inj h]
    refine ⟨fun _ => ?_, fun acceptance => ?_⟩
    · rintro ⟨_, x, _, _, _, _, hx, _⟩
      exact hno x hx
    · refine ⟨fun he => absurd he (by simp), ?_⟩
      rintro ⟨_, _, _, _, hx, _⟩
      exact absurd hx (hno acceptance)
  · have hfound : none = found := Except.ok.inj h
    rw [← hfound]
    exact ⟨fun hne => absurd hnil hne, fun acceptance =>
      ⟨fun he => absurd he (by simp), fun hx => absurd hnil hx.1⟩⟩
  · obtain ⟨hshort, honly⟩ := onlyAcceptance_ok h
    refine ⟨fun _ htwo => ?_, fun acceptance => ?_⟩
    · rw [← hmatch] at htwo
      have hlong := atLeastTwo_filter htwo
      omega
    · rw [honly, filter_eq_singleton_iff, hmatch]
      exact ⟨fun hx => ⟨hnil, hx⟩, fun hx => hx.2⟩

/-- The acceptance found on complete evidence is the one that governs. -/
theorem matchingAcceptance_ok (hcomplete : EvidenceComplete profile evidence constraint)
    {roleRefs : List Text} (hroles : proofRoleRefs profile constraint = .ok roleRefs)
    {found : Option (ManifestRiskAcceptance unicode)}
    (h : matchingAcceptance profile evidence constraint asOf = .ok found) :
    (∀ overlay, AimedOverlay profile constraint asOf overlay →
      overlayGoverned profile constraint overlay = true) ∧
    (rolesRead profile constraint ≠ [] →
      ¬ AtLeastTwo (Governs profile evidence constraint asOf) profile.riskAcceptances) ∧
    ∀ acceptance, found = some acceptance ↔ rolesRead profile constraint ≠ [] ∧
      ExactlyOne (Governs profile evidence constraint asOf) profile.riskAcceptances acceptance := by
  obtain ⟨overlayRefs, hoverlays, hrest⟩ := bind_ok_iff.mp h
  obtain ⟨hrefs, hgoverned⟩ := acceptanceRefs_ok hoverlays
  exact ⟨hgoverned, matchingAmong_ok hcomplete hroles hrefs hrest⟩

end matching

/-! ## No proof accepts a risk -/

/-- A verdict that no acceptance has taken part in. -/
def Unaccepted (verdict : FindingVerdict) : Prop := verdict ≠ .acceptedResidualRisk

theorem successOrFailure_unaccepted (constraint : ManifestConstraint) (met : Bool) :
    Unaccepted (successOrFailure constraint met) := by
  rw [successOrFailure]
  split_ifs
  · cases constraint.successVerdict <;> exact FindingVerdict.noConfusion
  · cases constraint.failureVerdict <;> exact FindingVerdict.noConfusion

theorem success_unaccepted (constraint : ManifestConstraint) :
    Unaccepted constraint.successVerdict.verdict := successOrFailure_unaccepted constraint true

theorem failure_unaccepted (constraint : ManifestConstraint) :
    Unaccepted constraint.failureVerdict.verdict := successOrFailure_unaccepted constraint false

theorem gated_unaccepted {gate : Option Gate} {references : List EvidenceReference}
    {verdict : FindingVerdict} (h : Unaccepted verdict) :
    Unaccepted (gated gate references verdict).verdict := by
  match gate with
  | none => exact h
  | some .conflicting => exact FindingVerdict.noConfusion
  | some .unknown => exact FindingVerdict.noConfusion

theorem ite_unaccepted {p : Prop} [Decidable p] {left right : FindingVerdict} (hl : Unaccepted left)
    (hr : Unaccepted right) : Unaccepted (if p then left else right) := by
  split_ifs
  · exact hl
  · exact hr

section unaccepted

variable {canonicalJson : EvidenceReference → Text} {profile : ResolvedManifestProfile unicode}
  {evidence : EvidenceReferenceContext unicode} {constraint : ManifestConstraint} {asOf : UtcDateTime}

theorem unknown_unaccepted : Unaccepted .unknown := FindingVerdict.noConfusion

theorem conflicting_unaccepted : Unaccepted .conflicting := FindingVerdict.noConfusion

theorem cardinalityVerdict_unaccepted (expected : ManifestCardinality)
    (resources : List ResourceProofFact) :
    Unaccepted (cardinalityVerdict profile constraint expected resources) :=
  ite_unaccepted (ite_unaccepted (failure_unaccepted constraint)
      (ite_unaccepted FindingVerdict.noConfusion FindingVerdict.noConfusion))
    (successOrFailure_unaccepted constraint _)

theorem relationshipVerdict_unaccepted (facts : List RelationshipProofFact) :
    Unaccepted (relationshipVerdict constraint facts) := by
  match facts with
  | [] | _ :: _ :: _ => exact unknown_unaccepted
  | [fact] =>
    exact ite_unaccepted unknown_unaccepted (ite_unaccepted
      (successOrFailure_unaccepted constraint _) (successOrFailure_unaccepted constraint _))

theorem controlVerdict_unaccepted (facts : List ControlProofFact) :
    Unaccepted (controlVerdict constraint facts) := by
  match facts with
  | [] | _ :: _ :: _ => exact unknown_unaccepted
  | [fact] => exact ite_unaccepted unknown_unaccepted (successOrFailure_unaccepted constraint _)

theorem objectiveVerdict_unaccepted (facts : List ObjectiveProofFact)
    (comparison : ObjectiveComparison) (threshold : FloatValue) :
    Unaccepted (objectiveVerdict constraint facts comparison threshold) := by
  match facts with
  | [] | _ :: _ :: _ => exact unknown_unaccepted
  | [fact] =>
    refine ite_unaccepted unknown_unaccepted ?_
    split
    · exact successOrFailure_unaccepted constraint _
    · exact unknown_unaccepted

/-- The verdict of a proof is never an accepted risk. -/
theorem evaluateProof_unaccepted {decision : PolicyDecision}
    (h : evaluateProof canonicalJson profile evidence constraint asOf = .ok decision) :
    Unaccepted decision.verdict := by
  rw [evaluateProof] at h
  split at h
  case h_5 relationshipRef hp =>
    obtain ⟨relationship, _, hrest⟩ := bind_ok_iff.mp h
    rw [← pure_ok_iff.mp hrest]
    split
    · exact conflicting_unaccepted
    · exact gated_unaccepted (relationshipVerdict_unaccepted _)
  all_goals rw [← Except.ok.inj h]
  · exact gated_unaccepted (ite_unaccepted unknown_unaccepted (cardinalityVerdict_unaccepted _ _))
  · exact gated_unaccepted (ite_unaccepted unknown_unaccepted (successOrFailure_unaccepted _ _))
  · exact gated_unaccepted (ite_unaccepted unknown_unaccepted (successOrFailure_unaccepted _ _))
  · exact gated_unaccepted (ite_unaccepted unknown_unaccepted (ite_unaccepted (failure_unaccepted _)
      (ite_unaccepted FindingVerdict.noConfusion (success_unaccepted _))))
  · exact ite_unaccepted conflicting_unaccepted (controlVerdict_unaccepted _)
  · exact ite_unaccepted conflicting_unaccepted (ite_unaccepted unknown_unaccepted
      (successOrFailure_unaccepted _ _))
  · exact ite_unaccepted conflicting_unaccepted (objectiveVerdict_unaccepted _ _ _)

/-- A proof that decides has resolved the roles it depends on. -/
theorem proofRoleRefs_ok {decision : PolicyDecision}
    (h : evaluateProof canonicalJson profile evidence constraint asOf = .ok decision) :
    ∃ roleRefs, proofRoleRefs profile constraint = .ok roleRefs := by
  rw [evaluateProof] at h
  split at h
  case h_5 relationshipRef hp =>
    obtain ⟨relationship, hrelationship, _⟩ := bind_ok_iff.mp h
    rw [proofRoleRefs, hp]
    exact ⟨_, map_ok_iff.mpr ⟨relationship, hrelationship, rfl⟩⟩
  all_goals
    rename_i hp
    rw [proofRoleRefs, hp]
    exact ⟨_, rfl⟩

end unaccepted

/-! ## Accepted residual risk -/

/-- The verdict without acceptances is a violation on eligible semantics. -/
def EligibleViolation (canonicalJson : EvidenceReference → Text)
    (profile : ResolvedManifestProfile unicode) (evidence : EvidenceReferenceContext unicode)
    (constraint : ManifestConstraint) (asOf : UtcDateTime) : Prop :=
  ∃ base, evaluateProof canonicalJson profile evidence constraint asOf = .ok base ∧
    boundedVerdict canonicalJson base = .violation ∧ acceptanceEligible unicode constraint = true

section accepted

variable {canonicalJson : EvidenceReference → Text} {profile : ResolvedManifestProfile unicode}
  {evidence : EvidenceReferenceContext unicode} {constraint : ManifestConstraint} {asOf : UtcDateTime}

theorem violation_complete {base : PolicyDecision}
    (h : evaluateProof canonicalJson profile evidence constraint asOf = .ok base)
    (hv : boundedVerdict canonicalJson base = .violation) :
    EvidenceComplete profile evidence constraint := by
  have hdecided : Decided (boundedVerdict canonicalJson base) := by
    rw [hv]
    decide
  exact evaluateProof_decided h (boundedVerdict_decided hdecided).1

/-- A verdict that is an accepted risk is that of a violation with one governing acceptance. -/
theorem accepted_iff {decision : PolicyDecision}
    (h : evaluateConstraint canonicalJson profile evidence constraint asOf = .ok decision) :
    decision.verdict = .acceptedResidualRisk ↔
      EligibleViolation canonicalJson profile evidence constraint asOf ∧
        rolesRead profile constraint ≠ [] ∧ ∃ acceptance,
          ExactlyOne (Governs profile evidence constraint asOf) profile.riskAcceptances acceptance := by
  obtain ⟨base, hbase, ⟨hnot, hverdict⟩ | ⟨hviolation, heligible, found, hfound, hverdict⟩⟩ :=
    evaluateConstraint_ok h
  · have hplain : Unaccepted (boundedVerdict canonicalJson base) :=
      ite_unaccepted unknown_unaccepted (evaluateProof_unaccepted hbase)
    rw [hverdict]
    refine ⟨fun he => absurd he hplain, ?_⟩
    rintro ⟨⟨other, hother, hv, he⟩, -⟩
    have hsame : other = base := Except.ok.inj (hother.symm.trans hbase)
    exact absurd ⟨hsame ▸ hv, he⟩ hnot
  · have hcomplete := violation_complete hbase hviolation
    obtain ⟨roleRefs, hroles⟩ := proofRoleRefs_ok hbase
    obtain ⟨_, _, hone⟩ := matchingAcceptance_ok hcomplete hroles hfound
    rw [hverdict]
    constructor
    · intro he
      match found with
      | none => simp at he
      | some acceptance =>
        obtain ⟨hne, hx⟩ := (hone acceptance).mp rfl
        exact ⟨⟨base, hbase, hviolation, heligible⟩, hne, acceptance, hx⟩
    · rintro ⟨-, hne, acceptance, hx⟩
      rw [(hone acceptance).mpr ⟨hne, hx⟩]
      rfl

/-- Two governing acceptances, or an overlay outside the constraint's governance, raise. -/
theorem ambiguous_raises (hviolation : EligibleViolation canonicalJson profile evidence constraint asOf)
    (h : (∃ overlay, AimedOverlay profile constraint asOf overlay ∧
        overlayGoverned profile constraint overlay = false) ∨
      (rolesRead profile constraint ≠ [] ∧
        AtLeastTwo (Governs profile evidence constraint asOf) profile.riskAcceptances)) :
    ∃ message, evaluateConstraint canonicalJson profile evidence constraint asOf = .error message := by
  cases hresult : evaluateConstraint canonicalJson profile evidence constraint asOf with
  | error message => exact ⟨message, rfl⟩
  | ok decision =>
    exfalso
    obtain ⟨base, hbase, hv, heligible⟩ := hviolation
    obtain ⟨other, hother, ⟨hnot, -⟩ | ⟨-, -, found, hfound, -⟩⟩ := evaluateConstraint_ok hresult
    · have hsame : base = other := Except.ok.inj (hbase.symm.trans hother)
      exact hnot ⟨hsame ▸ hv, heligible⟩
    · have hcomplete := violation_complete hbase hv
      obtain ⟨roleRefs, hroles⟩ := proofRoleRefs_ok hbase
      obtain ⟨hgoverned, htwo, _⟩ := matchingAcceptance_ok hcomplete hroles hfound
      rcases h with ⟨overlay, haimed, hungoverned⟩ | ⟨hne, hambiguous⟩
      · rw [hgoverned overlay haimed] at hungoverned
        exact absurd hungoverned (by decide)
      · exact htwo hne hambiguous

end accepted

/-- Residual risk is accepted exactly when it is governed, and an eligible violation with
two governing acceptances or with an overlay of another owner or scope raises. -/
theorem residual_risk_governed (canonicalJson : EvidenceReference → Text)
    (profile : ResolvedManifestProfile unicode) (evidence : EvidenceReferenceContext unicode)
    (constraint : ManifestConstraint) (asOf : UtcDateTime) :
    (∀ decision, evaluateConstraint canonicalJson profile evidence constraint asOf = .ok decision →
      (decision.verdict = .acceptedResidualRisk ↔
        EligibleViolation canonicalJson profile evidence constraint asOf ∧
          rolesRead profile constraint ≠ [] ∧ ∃ acceptance,
            ExactlyOne (Governs profile evidence constraint asOf) profile.riskAcceptances
              acceptance)) ∧
    (EligibleViolation canonicalJson profile evidence constraint asOf →
      ((∃ overlay, AimedOverlay profile constraint asOf overlay ∧
          overlayGoverned profile constraint overlay = false) ∨
        (rolesRead profile constraint ≠ [] ∧
          AtLeastTwo (Governs profile evidence constraint asOf) profile.riskAcceptances)) →
        ∃ message, evaluateConstraint canonicalJson profile evidence constraint asOf =
          .error message) :=
  ⟨fun _ h => accepted_iff h, ambiguous_raises⟩

/-! ## One database host, and the constraint's own clause as criterion -/

/-- The acceptance is scoped to the constraint's own clause, whatever clause the
constraint names and whatever profiles the acceptance lists. -/
structure ScopedToConstraint (profile : ResolvedManifestProfile unicode)
    (evidence : EvidenceReferenceContext unicode) (constraint : ManifestConstraint)
    (asOf : UtcDateTime) (acceptance : ManifestRiskAcceptance unicode) : Prop where
  referenced : Referenced profile constraint asOf acceptance.riskAcceptanceId
  approved : acceptance.status = .approved
  lifetime : acceptance.acceptedAt ≤ asOf ∧ asOf < acceptance.expiresAt
  manifest : acceptance.governanceScope.manifestId = profile.manifestId
  inProfile : normalizedId unicode acceptance.governanceScope.profileId =
    normalizedId unicode profile.profileId
  clausePath : acceptance.governanceScope.clausePath = constraint.governanceScope.clausePath
  owner : acceptance.governanceScope.ownerRef = constraint.ownerRef ∧
    acceptance.ownedBy = constraint.ownerRef
  bindings : acceptedBindings acceptance = requiredPairs profile evidence constraint

/-- Accepted exactly when one acceptance is scoped to the constraint. -/
def AcceptedWhenScoped (canonicalJson : EvidenceReference → Text)
    (profile : ResolvedManifestProfile unicode) (evidence : EvidenceReferenceContext unicode)
    (constraint : ManifestConstraint) (asOf : UtcDateTime) : Prop :=
  ∀ decision, evaluateConstraint canonicalJson profile evidence constraint asOf = .ok decision →
    (decision.verdict = .acceptedResidualRisk ↔
      EligibleViolation canonicalJson profile evidence constraint asOf ∧ ∃ acceptance,
        ExactlyOne (ScopedToConstraint profile evidence constraint asOf) profile.riskAcceptances
          acceptance)

def databaseFact : ResourceProofFact where
  resourceId := "db-1".toList
  roleRef := "db".toList
  availabilityZone := .one
  operationalState := .running
  state := .complete
  proofSource := .observed
  evidenceRef := itemReference "db-1"
  kind := rfl

/-- The relationship between two parties outside the manifest, observed absent. -/
def feedFact : RelationshipProofFact where
  relationshipRef := "feed".toList
  state := .complete
  proofSource := .observed
  presence := .absent
  evidenceRef := itemReference "feed"
  kind := rfl

def databaseBinding : RoleBindingProof latinTables where
  roleRef := "db".toList
  selectedResourceIds := ["db-1".toList]
  state := .complete
  selected_unique := by decide

theorem database_lifetime : (0 : UtcDateTime) < 3600000 := by decide

theorem database_controls :
    ResourceSelectors.UniqueText latinTables (([] : List ControlProofFact).map fun c => c.controlRef) := by
  decide

theorem database_objectives :
    ResourceSelectors.UniqueText latinTables (([] : List ObjectiveProofFact).map fun o => o.objectiveRef) := by
  decide

def databaseEvidence : EvidenceReferenceContext latinTables where
  collectedAt := 0
  expiresAt := 3600000
  resources := [databaseFact]
  relationships := [feedFact]
  controls := []
  objectives := []
  roleBindings := [databaseBinding]
  lifetime := database_lifetime
  resources_unique := by decide
  relationships_unique := by decide
  controls_unique := database_controls
  objectives_unique := database_objectives
  roleBindings_unique := by decide

def clauseScope (constraintId : String) : ClauseScope :=
  ⟨"manifest".toList, "production".toList, constraintPath constraintId.toList, "dba".toList⟩

/-- The risk of the single database, under the clause `db-zone` or its own. -/
def databaseRisk (clauseRef : Option Text) : ManifestConstraint where
  constraintId := "db-risk".toList
  constraintType := .supportedSingleton
  findingKind := .riskAcceptance
  governanceScope := clauseScope "db-risk"
  ownerRef := "dba".toList
  proofRequirement := .cardinality "db".toList .exactlyOne
  failureVerdict := .violation
  successVerdict := .expectedConstraint
  riskAcceptanceRef := some "accept-db".toList
  riskAcceptanceClauseRef := clauseRef
  proof_matches := trivial
  prohibited_fails := by decide
  clauseRef_kind := fun _ => rfl

def acceptance (constraintId : String) (profiles : List Text)
    (bindings : List AcceptedResourceBinding) (h : bindings.length ≤ 1) :
    ManifestRiskAcceptance latinTables where
  riskAcceptanceId := "accept-db".toList
  governanceScope := clauseScope constraintId
  ownedBy := "dba".toList
  acceptedAt := 0
  expiresAt := 3600000
  acceptedResourceBindings := bindings
  profiles := profiles
  status := .approved
  lifetime := database_lifetime
  bindings_unique := by
    match bindings, h with
    | [], _ => exact List.nodup_nil
    | [_], _ => exact List.nodup_singleton _

def databaseAcceptance (constraintId profile : String) : ManifestRiskAcceptance latinTables :=
  acceptance constraintId [profile.toList] [⟨"DB".toList, "db-1".toList⟩] (by decide)

def databaseProfile (relationships : List ManifestRelationship)
    (acceptance : ManifestRiskAcceptance latinTables) : ResolvedManifestProfile latinTables :=
  ⟨"manifest".toList, "production".toList, true, relationships, [acceptance]⟩

theorem feed_clauseRef : (none : Option Text) ≠ none →
    ManifestFindingKind.architectureConstraint = .riskAcceptance := by
  decide

/-- A required relationship between external endpoints. -/
def feedRequired : ManifestConstraint where
  constraintId := "feed-required".toList
  constraintType := .dependencyRequired
  findingKind := .architectureConstraint
  governanceScope := clauseScope "feed-required"
  ownerRef := "dba".toList
  proofRequirement := .relationshipPresence "feed".toList
  failureVerdict := .violation
  successVerdict := .pass
  riskAcceptanceRef := some "accept-db".toList
  riskAcceptanceClauseRef := none
  proof_matches := trivial
  prohibited_fails := by decide
  clauseRef_kind := feed_clauseRef

def feed : ManifestRelationship :=
  .declared ⟨"feed".toList, .external "partner".toList, .external "bank".toList,
    "/constraints/feed-required".toList⟩

/-- An overlay of an owner that no constraint has. -/
def foreignOverlay (constraintId : String) : ExceptionManifestRelationship where
  exceptionId := "foreign".toList
  appliesToRelationshipRef := none
  appliesToClauseRef := some constraintId.toList
  riskAcceptanceRef := "accept-db".toList
  governanceScope := clauseScope constraintId
  ownerRef := "vendor".toList
  expiresAt := 3600000
  one_target := by simp

theorem database_evaluations :
    evaluateConstraint referenceDigest
        (databaseProfile [] (databaseAcceptance "db-zone" "production")) databaseEvidence
        (databaseRisk (some "db-zone".toList)) 0 =
          .ok ⟨.acceptedResidualRisk, [itemReference "db-1"], some "accept-db".toList⟩ ∧
      evaluateConstraint referenceDigest
        (databaseProfile [] (databaseAcceptance "db-risk" "training")) databaseEvidence
        (databaseRisk none) 0 = .ok ⟨.violation, [itemReference "db-1"], none⟩ ∧
      evaluateConstraint referenceDigest
        (databaseProfile [feed] (acceptance "feed-required" ["production".toList] [] (by decide)))
        databaseEvidence feedRequired 0 = .ok ⟨.violation, [itemReference "feed"], none⟩ ∧
      evaluateConstraint referenceDigest (databaseProfile
        [.exception (foreignOverlay "web-zones")] (databaseAcceptance "db-risk" "production"))
        (webEvidence .observed) webZones 0 =
          .ok ⟨.pass, [itemReference "WEB-1", itemReference "web-2"], none⟩ := by
  refine ⟨?_, ?_, ?_, ?_⟩ <;> decide

theorem exactlyOne_singleton {α : Type*} {P : α → Prop} {x : α} (h : P x) : ExactlyOne P [x] x :=
  ⟨[], [], rfl, h, by simp⟩

theorem unlisted_profile_scoped : ScopedToConstraint
    (databaseProfile [] (databaseAcceptance "db-risk" "training")) databaseEvidence
    (databaseRisk none) 0 (databaseAcceptance "db-risk" "training") where
  referenced := .inl ⟨_, rfl, rfl⟩
  approved := rfl
  lifetime := by decide
  manifest := rfl
  inProfile := rfl
  clausePath := rfl
  owner := ⟨rfl, rfl⟩
  bindings := by decide

theorem no_role_scoped : ScopedToConstraint
    (databaseProfile [feed] (acceptance "feed-required" ["production".toList] [] (by decide)))
    databaseEvidence feedRequired 0
    (acceptance "feed-required" ["production".toList] [] (by decide)) where
  referenced := .inl ⟨_, rfl, rfl⟩
  approved := rfl
  lifetime := by decide
  manifest := rfl
  inProfile := rfl
  clausePath := rfl
  owner := ⟨rfl, rfl⟩
  bindings := by decide

/-- The constraint's own clause is not the criterion: the acceptance of the clause it names
counts, one that does not list the profile or meets no role does not, and an overlay of
another owner does not raise where nothing is violated. -/
theorem own_clause_not_criterion :
    ¬ AcceptedWhenScoped referenceDigest
        (databaseProfile [] (databaseAcceptance "db-zone" "production")) databaseEvidence
        (databaseRisk (some "db-zone".toList)) 0 ∧
      ¬ AcceptedWhenScoped referenceDigest
        (databaseProfile [] (databaseAcceptance "db-risk" "training")) databaseEvidence
        (databaseRisk none) 0 ∧
      ¬ AcceptedWhenScoped referenceDigest
        (databaseProfile [feed] (acceptance "feed-required" ["production".toList] [] (by decide)))
        databaseEvidence feedRequired 0 ∧
      ∃ overlay decision, AimedOverlay (databaseProfile [.exception (foreignOverlay "web-zones")]
          (databaseAcceptance "db-risk" "production")) webZones 0 overlay ∧
        overlayGoverned (databaseProfile [.exception (foreignOverlay "web-zones")]
          (databaseAcceptance "db-risk" "production")) webZones overlay = false ∧
        evaluateConstraint referenceDigest (databaseProfile [.exception (foreignOverlay "web-zones")]
          (databaseAcceptance "db-risk" "production")) (webEvidence .observed) webZones 0 =
            .ok decision := by
  obtain ⟨hother, hunlisted, hrole, hforeign⟩ := database_evaluations
  refine ⟨fun h => ?_, fun h => ?_, fun h => ?_, foreignOverlay "web-zones", _, ⟨?_, ?_, ?_⟩, ?_,
    hforeign⟩
  · obtain ⟨_, other, before, after, hin, hscoped, _⟩ := (h _ hother).mp rfl
    have hmem : other ∈ [databaseAcceptance "db-zone" "production"] := by
      rw [show [databaseAcceptance "db-zone" "production"] = before ++ other :: after from hin]
      simp
    rw [List.mem_singleton.mp hmem] at hscoped
    exact absurd hscoped.clausePath (by decide)
  · have hbase : evaluateProof referenceDigest
        (databaseProfile [] (databaseAcceptance "db-risk" "training")) databaseEvidence
        (databaseRisk none) 0 = .ok ⟨.violation, [itemReference "db-1"], none⟩ := by decide
    have haccepted := (h _ hunlisted).mpr
      ⟨⟨_, hbase, by decide, by decide⟩, _,
        exactlyOne_singleton unlisted_profile_scoped⟩
    exact absurd haccepted (by decide)
  · have hbase : evaluateProof referenceDigest
        (databaseProfile [feed] (acceptance "feed-required" ["production".toList] [] (by decide)))
        databaseEvidence feedRequired 0 = .ok ⟨.violation, [itemReference "feed"], none⟩ := by
      decide
    have haccepted := (h _ hrole).mpr
      ⟨⟨_, hbase, by decide, by decide⟩, _, exactlyOne_singleton no_role_scoped⟩
    exact absurd haccepted (by decide)
  · exact List.mem_singleton_self _
  · decide
  · decide
  · decide

theorem residual_risk_governed_database :
    (∃ acceptance, ExactlyOne (Governs (databaseProfile [] (databaseAcceptance "db-zone" "production"))
        databaseEvidence (databaseRisk (some "db-zone".toList)) 0)
        [databaseAcceptance "db-zone" "production"] acceptance) ∧
      ∃ message, evaluateConstraint referenceDigest (databaseProfile
        [.exception (foreignOverlay "db-risk")] (databaseAcceptance "db-risk" "production"))
        databaseEvidence (databaseRisk none) 0 = .error message := by
  refine ⟨?_, ?_⟩
  · have haccepted := ((residual_risk_governed referenceDigest
      (databaseProfile [] (databaseAcceptance "db-zone" "production")) databaseEvidence
      (databaseRisk (some "db-zone".toList)) 0).1 _ database_evaluations.1).mp rfl
    exact haccepted.2.2
  · have hbase : evaluateProof referenceDigest (databaseProfile
        [.exception (foreignOverlay "db-risk")] (databaseAcceptance "db-risk" "production"))
        databaseEvidence (databaseRisk none) 0 = .ok ⟨.violation, [itemReference "db-1"], none⟩ := by
      decide
    refine (residual_risk_governed referenceDigest _ databaseEvidence (databaseRisk none) 0).2
      ⟨_, hbase, by decide, by decide⟩ (.inl ⟨foreignOverlay "db-risk", ?_, ?_⟩)
    · exact ⟨List.mem_singleton_self _, by decide, by decide⟩
    · decide

end AthenaContext.ResidualRisk
