import AthenaContext.PolicyProofs

/-!
# Policy evaluation

`evaluate_constraint`: the proof's decision, the bound on the references it cites, and
the risk acceptance that turns an eligible violation into an accepted residual risk. A
verdict other than `unknown` and `conflicting` rests on complete evidence, and evidence
degraded at any point the proof reads takes the verdict back to one of the two.
-/

namespace AthenaContext.PolicyEvaluation

open FallibleResults OrdinalCollections PolicyProofs PolicyRecords RoleResolution TextNormalization

variable {unicode : UnicodeTables}

/-! ## Risk acceptances -/

/-- `ManifestRiskAcceptance.is_active`. -/
def isActive (acceptance : ManifestRiskAcceptance unicode) (asOf : UtcDateTime)
    (manifestId profileId clausePath ownerRef : Text) : Bool :=
  let scope := acceptance.governanceScope
  acceptance.status == .approved && decide (acceptance.acceptedAt ≤ asOf ∧ asOf < acceptance.expiresAt) &&
    scope.manifestId == manifestId && sameRef unicode scope.profileId profileId &&
    scope.clausePath == clausePath && scope.ownerRef == ownerRef &&
    acceptance.ownedBy == ownerRef &&
    acceptance.profiles.any (sameRef unicode · profileId)

/-- The pairs of a role and its resources. -/
def rolePairs (evidence : EvidenceReferenceContext unicode) (roleRef : Text) : List (Text × Text) :=
  (roleResources evidence roleRef).map fun resource =>
    (normalizedId unicode roleRef, normalizedId unicode resource.resourceId)

/-- `_required_resource_bindings`. -/
def requiredResourceBindings (profile : ResolvedManifestProfile unicode)
    (evidence : EvidenceReferenceContext unicode) (constraint : ManifestConstraint) :
    Except String (Option (Finset (Text × Text))) := do
  let roleRefs ← proofRoleRefs profile constraint
  if roleRefs = [] then pure none
  else if roleRefs.all fun roleRef =>
      (roleGate evidence roleRef).isNone && !(roleResources evidence roleRef).isEmpty then
    pure (some (roleRefs.flatMap (rolePairs evidence)).toFinset)
  else pure none

/-- The relationship of a relationship proof. -/
def proofRelationship (profile : ResolvedManifestProfile unicode) (constraint : ManifestConstraint) :
    Except String (Option DeclaredManifestRelationship) :=
  match constraint.proofRequirement with
  | .relationshipPresence relationshipRef =>
    (declaredRelationship profile relationshipRef).map some
  | _ => .ok none

/-- The overlay aims at the constraint's clause, or at its relationship through the clause. -/
def overlayApplies (unicode : UnicodeTables) (constraint : ManifestConstraint)
    (relationship : Option DeclaredManifestRelationship) (overlay : ExceptionManifestRelationship) :
    Bool :=
  (overlay.appliesToClauseRef.any fun clauseRef =>
      sameRef unicode clauseRef constraint.constraintId) ||
    relationship.any fun declared =>
      (overlay.appliesToRelationshipRef.any fun relationshipRef =>
        sameRef unicode relationshipRef declared.relationshipId) &&
      constraint.governanceScope.clausePath == declared.sourceClause

/-- The overlay has the owner and the scope of the constraint. -/
def overlayGoverned (profile : ResolvedManifestProfile unicode) (constraint : ManifestConstraint)
    (overlay : ExceptionManifestRelationship) : Bool :=
  let scope := overlay.governanceScope
  overlay.ownerRef == constraint.ownerRef && scope.manifestId == profile.manifestId &&
    sameRef unicode scope.profileId profile.profileId &&
    scope.clausePath == constraint.governanceScope.clausePath &&
    scope.ownerRef == constraint.ownerRef

/-- The body of the loop over the relationships. -/
def collectOverlay (profile : ResolvedManifestProfile unicode) (constraint : ManifestConstraint)
    (relationship : Option DeclaredManifestRelationship) (asOf : UtcDateTime) (result : List Text) :
    ManifestRelationship → Except String (List Text)
  | .declared _ => .ok result
  | .exception overlay =>
    if !overlayApplies unicode constraint relationship overlay then .ok result
    else if overlay.expiresAt ≤ asOf then .ok result
    else if !overlayGoverned profile constraint overlay then
      .error "exception overlay does not exactly match constraint governance"
    else .ok (result ++ [normalizedId unicode overlay.riskAcceptanceRef])

/-- `_validated_exception_refs`. -/
def validatedExceptionRefs (profile : ResolvedManifestProfile unicode)
    (constraint : ManifestConstraint) (asOf : UtcDateTime) : Except String (List Text) := do
  let relationship ← proofRelationship profile constraint
  profile.relationships.foldlM (collectOverlay profile constraint relationship asOf) []

/-- `acceptance_clause_id`. -/
def acceptanceClauseId (constraint : ManifestConstraint) : Text :=
  if constraint.findingKind = .riskAcceptance then
    constraint.riskAcceptanceClauseRef.getD constraint.constraintId
  else constraint.constraintId

def constraintPath (constraintId : Text) : Text := "/constraints/".toList ++ constraintId

/-- `accepted_bindings`. -/
def acceptedBindings (acceptance : ManifestRiskAcceptance unicode) : Finset (Text × Text) :=
  (acceptance.acceptedResourceBindings.map fun binding =>
    (normalizedId unicode binding.roleRef, normalizedId unicode binding.resourceId)).toFinset

/-- The condition of the loop over the risk acceptances. -/
def acceptanceMatches (profile : ResolvedManifestProfile unicode) (constraint : ManifestConstraint)
    (asOf : UtcDateTime) (acceptanceRefs : List Text) (required : Finset (Text × Text))
    (acceptance : ManifestRiskAcceptance unicode) : Bool :=
  acceptanceRefs.elem (normalizedId unicode acceptance.riskAcceptanceId) &&
    isActive acceptance asOf profile.manifestId profile.profileId
      (constraintPath (acceptanceClauseId constraint)) constraint.ownerRef &&
    acceptedBindings acceptance == required

/-- The acceptance among the matching ones, of which there may not be two. -/
def onlyAcceptance (acceptances : List (ManifestRiskAcceptance unicode)) :
    Except String (Option (ManifestRiskAcceptance unicode)) :=
  match acceptances with
  | [] => .ok none
  | [acceptance] => .ok (some acceptance)
  | _ => .error "riskAcceptanceRef resolved ambiguously"

/-- `_matching_acceptance`, once the references are collected. -/
def matchingAmong (profile : ResolvedManifestProfile unicode)
    (evidence : EvidenceReferenceContext unicode) (constraint : ManifestConstraint)
    (asOf : UtcDateTime) (acceptanceRefs : List Text) :
    Except String (Option (ManifestRiskAcceptance unicode)) :=
  if acceptanceRefs = [] then .ok none
  else do
    let required ← requiredResourceBindings profile evidence constraint
    match required with
    | none => .ok none
    | some bindings =>
      onlyAcceptance (profile.riskAcceptances.filter
        (acceptanceMatches profile constraint asOf acceptanceRefs bindings))

/-- `_matching_acceptance`. -/
def matchingAcceptance (profile : ResolvedManifestProfile unicode)
    (evidence : EvidenceReferenceContext unicode) (constraint : ManifestConstraint)
    (asOf : UtcDateTime) : Except String (Option (ManifestRiskAcceptance unicode)) := do
  let overlayRefs ← validatedExceptionRefs profile constraint asOf
  matchingAmong profile evidence constraint asOf
    (overlayRefs ++ (constraint.riskAcceptanceRef.map (normalizedId unicode)).toList)

/-! ## Evaluation -/

/-- `_ordered_bounded_references`, before the cut. -/
def orderedReferences (canonicalJson : EvidenceReference → Text)
    (references : List EvidenceReference) : List EvidenceReference :=
  canonicalTuple canonicalJson references

/-- The verdict without acceptances. -/
def boundedVerdict (canonicalJson : EvidenceReference → Text) (decision : PolicyDecision) :
    FindingVerdict :=
  if 1000 < (orderedReferences canonicalJson decision.evidenceRefs).length &&
      decision.verdict != .conflicting then .unknown
  else decision.verdict

/-- `acceptance_semantics_are_eligible`. -/
def acceptanceSemanticsAreEligible (constraint : ManifestConstraint) : Bool :=
  match constraint.findingKind with
  | .actualSpof | .riskAcceptance => constraint.constraintType == .supportedSingleton
  | .architectureConstraint =>
    [ConstraintType.cardinality, .zoneColocation, .zoneDistribution, .dependencyRequired,
      .dependencyProhibited].elem constraint.constraintType
  | .relationshipConflict =>
    [ConstraintType.dependencyRequired, .dependencyProhibited].elem constraint.constraintType
  | _ => false

/-- `acceptance_eligible`, apart from the verdict. -/
def acceptanceEligible (unicode : UnicodeTables) (constraint : ManifestConstraint) : Bool :=
  normalizedId unicode constraint.constraintId != "db-singleton-supported".toList &&
    acceptanceSemanticsAreEligible constraint && !isFreshness constraint.proofRequirement

/-- The acceptance of an eligible violation. -/
def acceptanceFor (profile : ResolvedManifestProfile unicode)
    (evidence : EvidenceReferenceContext unicode) (constraint : ManifestConstraint)
    (asOf : UtcDateTime) (verdict : FindingVerdict) :
    Except String (Option (ManifestRiskAcceptance unicode)) :=
  if verdict == .violation && acceptanceEligible unicode constraint then
    matchingAcceptance profile evidence constraint asOf
  else .ok none

/-- `evaluate_constraint`. -/
def evaluateConstraint (canonicalJson : EvidenceReference → Text)
    (profile : ResolvedManifestProfile unicode) (evidence : EvidenceReferenceContext unicode)
    (constraint : ManifestConstraint) (asOf : UtcDateTime) : Except String PolicyDecision := do
  let decision ← evaluateProof canonicalJson profile evidence constraint asOf
  let verdict := boundedVerdict canonicalJson decision
  let acceptance ← acceptanceFor profile evidence constraint asOf verdict
  pure
    { verdict := if acceptance.isSome then .acceptedResidualRisk else verdict
      evidenceRefs := (orderedReferences canonicalJson decision.evidenceRefs).take 1000
      riskAcceptanceRef := acceptance.map ManifestRiskAcceptance.riskAcceptanceId }

/-! ## Decided verdicts -/

section decided

variable {canonicalJson : EvidenceReference → Text} {profile : ResolvedManifestProfile unicode}
  {evidence : EvidenceReferenceContext unicode} {constraint : ManifestConstraint} {asOf : UtcDateTime}

/-- What an evaluation returns, with the acceptance it found. -/
theorem evaluateConstraint_ok {decision : PolicyDecision}
    (h : evaluateConstraint canonicalJson profile evidence constraint asOf = .ok decision) :
    ∃ base, evaluateProof canonicalJson profile evidence constraint asOf = .ok base ∧
      ((¬(boundedVerdict canonicalJson base = .violation ∧ acceptanceEligible unicode constraint = true) ∧
          decision.verdict = boundedVerdict canonicalJson base) ∨
        (boundedVerdict canonicalJson base = .violation ∧ acceptanceEligible unicode constraint = true ∧
          ∃ acceptance, matchingAcceptance profile evidence constraint asOf = .ok acceptance ∧
            decision.verdict = if acceptance.isSome then .acceptedResidualRisk else .violation)) := by
  obtain ⟨base, hbase, hrest⟩ := bind_ok_iff.mp h
  obtain ⟨acceptance, hacceptance, hend⟩ := bind_ok_iff.mp hrest
  have hdecision := pure_ok_iff.mp hend
  refine ⟨base, hbase, ?_⟩
  rw [acceptanceFor] at hacceptance
  split_ifs at hacceptance with heligible
  · rw [Bool.and_eq_true, beq_iff_eq] at heligible
    refine .inr ⟨heligible.1, heligible.2, acceptance, hacceptance, ?_⟩
    rw [← hdecision, heligible.1]
  · rw [Bool.and_eq_true, beq_iff_eq] at heligible
    refine .inl ⟨heligible, ?_⟩
    rw [← hdecision, ← Except.ok.inj hacceptance]
    rfl

theorem boundedVerdict_decided {base : PolicyDecision}
    (h : Decided (boundedVerdict canonicalJson base)) : Decided base.verdict ∧
      (orderedReferences canonicalJson base.evidenceRefs).length ≤ 1000 := by
  rw [boundedVerdict] at h
  split_ifs at h with hbroad
  · exact absurd rfl h.1
  · refine ⟨h, ?_⟩
    by_contra hlong
    refine hbroad (Bool.and_eq_true_iff.mpr ⟨decide_eq_true (by omega), ?_⟩)
    simpa using h.2

/-- A decided verdict comes from a decided verdict of the proof. -/
theorem evaluateConstraint_base {decision : PolicyDecision}
    (h : evaluateConstraint canonicalJson profile evidence constraint asOf = .ok decision)
    (hd : Decided decision.verdict) :
    ∃ base, evaluateProof canonicalJson profile evidence constraint asOf = .ok base ∧
      Decided (boundedVerdict canonicalJson base) := by
  obtain ⟨base, hbase, ⟨-, hverdict⟩ | ⟨hviolation, -⟩⟩ := evaluateConstraint_ok h
  · exact ⟨base, hbase, hverdict ▸ hd⟩
  · exact ⟨base, hbase, by rw [hviolation]; decide⟩

/-- Where the proof does not decide, the evaluation returns its verdict. -/
theorem evaluateConstraint_undecided {base : PolicyDecision}
    (h : evaluateProof canonicalJson profile evidence constraint asOf = .ok base)
    (hd : ¬ Decided (boundedVerdict canonicalJson base)) :
    ∃ decision, evaluateConstraint canonicalJson profile evidence constraint asOf = .ok decision ∧
      (decision.verdict = .unknown ∨ decision.verdict = .conflicting) := by
  have hverdict : boundedVerdict canonicalJson base = .unknown ∨
      boundedVerdict canonicalJson base = .conflicting := by
    rw [Decided, not_and_or, not_not, not_not] at hd
    exact hd
  have hnot : ¬ (boundedVerdict canonicalJson base == .violation &&
      acceptanceEligible unicode constraint) = true := by
    rw [Bool.and_eq_true, beq_iff_eq]
    intro hv
    rw [hv.1] at hverdict
    exact absurd hverdict (by decide)
  refine ⟨_, bind_ok_iff.mpr ⟨base, h, bind_ok_iff.mpr ⟨none, if_neg hnot, rfl⟩⟩, hverdict⟩

end decided

/-- A fact or a binding that the proof reads in one context is incomplete or inferred in
the other, whatever else differs. -/
inductive Degraded (profile : ResolvedManifestProfile unicode) (constraint : ManifestConstraint)
    (evidence degraded : EvidenceReferenceContext unicode) : Prop
  | resource {fact fact' : ResourceProofFact} (member : fact ∈ evidence.resources)
      (read : readsRole profile constraint fact.roleRef = true)
      (changed : fact' ∈ degraded.resources) (same : fact'.roleRef = fact.roleRef)
      (state : fact'.state ≠ .complete ∨ fact'.proofSource = .inferred)
  | relationship {fact fact' : RelationshipProofFact} (member : fact ∈ evidence.relationships)
      (read : readsRelationship unicode constraint fact.relationshipRef = true)
      (changed : fact' ∈ degraded.relationships) (same : fact'.relationshipRef = fact.relationshipRef)
      (state : fact'.state ≠ .complete ∨ fact'.proofSource = .inferred)
  | control {fact fact' : ControlProofFact} (member : fact ∈ evidence.controls)
      (read : readsControl unicode constraint fact.controlRef = true)
      (changed : fact' ∈ degraded.controls) (same : fact'.controlRef = fact.controlRef)
      (state : fact'.state ≠ .complete)
  | objective {fact fact' : ObjectiveProofFact} (member : fact ∈ evidence.objectives)
      (read : readsObjective unicode constraint fact.objectiveRef = true)
      (changed : fact' ∈ degraded.objectives) (same : fact'.objectiveRef = fact.objectiveRef)
      (state : fact'.state ≠ .complete)
  | binding {proof proof' : RoleBindingProof unicode} (member : proof ∈ evidence.roleBindings)
      (read : readsRole profile constraint proof.roleRef = true)
      (changed : proof' ∈ degraded.roleBindings) (same : proof'.roleRef = proof.roleRef)
      (state : proof'.state ≠ .complete)

theorem not_complete_of_degraded {profile : ResolvedManifestProfile unicode}
    {constraint : ManifestConstraint} {evidence degraded : EvidenceReferenceContext unicode}
    (h : Degraded profile constraint evidence degraded) :
    ¬ EvidenceComplete profile degraded constraint := by
  have hsource : ∀ source : ProofSource, source = .inferred → source ≠ .observed := by
    rintro _ rfl
    decide
  intro hcomplete
  cases h with
  | resource member read changed same state =>
    have hfact := hcomplete.resources _ changed (by rwa [same])
    exact state.elim (· hfact.1) (fun hs => hsource _ hs hfact.2)
  | relationship member read changed same state =>
    have hfact := hcomplete.relationships _ changed (by rwa [same])
    exact state.elim (· hfact.1) (fun hs => hsource _ hs hfact.2)
  | control member read changed same state =>
    exact state (hcomplete.controls _ changed (by rwa [same]))
  | objective member read changed same state =>
    exact state (hcomplete.objectives _ changed (by rwa [same]))
  | @binding _ proof' member read changed same state =>
    obtain ⟨only, honly, hstate, _⟩ := hcomplete.bindings _ changed (by rwa [same])
    have hin : proof' ∈ bindingsOf degraded proof'.roleRef :=
      List.mem_filter.mpr ⟨changed, sameRef_iff.mpr rfl⟩
    rw [honly] at hin
    exact state (List.mem_singleton.mp hin ▸ hstate)

/-- Policy decides on complete evidence only: a decided verdict rests on complete evidence
with at most a thousand distinct references, and on evidence degraded anywhere the proof
reads the evaluation returns `unknown` or `conflicting`. -/
theorem decides_on_complete_evidence (canonicalJson : EvidenceReference → Text)
    (profile : ResolvedManifestProfile unicode) (evidence : EvidenceReferenceContext unicode)
    (constraint : ManifestConstraint) (asOf : UtcDateTime) (decision : PolicyDecision)
    (h : evaluateConstraint canonicalJson profile evidence constraint asOf = .ok decision)
    (hd : Decided decision.verdict) :
    EvidenceComplete profile evidence constraint ∧
    (∃ base, evaluateProof canonicalJson profile evidence constraint asOf = .ok base ∧
      (base.evidenceRefs.map canonicalJson).toFinset.card ≤ 1000) ∧
    ∀ degraded, Degraded profile constraint evidence degraded →
      ∃ decision', evaluateConstraint canonicalJson profile degraded constraint asOf = .ok decision' ∧
        (decision'.verdict = .unknown ∨ decision'.verdict = .conflicting) := by
  obtain ⟨base, hbase, hbounded⟩ := evaluateConstraint_base h hd
  obtain ⟨hproof, hlength⟩ := boundedVerdict_decided hbounded
  refine ⟨evaluateProof_decided hbase hproof, ⟨base, hbase, ?_⟩, fun degraded hdegraded => ?_⟩
  · have hsubset : (base.evidenceRefs.map canonicalJson).toFinset ⊆
        ((orderedReferences canonicalJson base.evidenceRefs).map canonicalJson).toFinset := by
      intro key hk
      rw [List.mem_toFinset] at hk ⊢
      have hin := (keys_dictOf canonicalJson base.evidenceRefs key).mpr hk
      obtain ⟨reference, hr, he⟩ := List.mem_map.mp hin
      exact List.mem_map.mpr ⟨reference, mem_sortOn.mpr hr, he⟩
    have hcard := Finset.card_le_card hsubset
    have hmap := List.toFinset_card_le
      ((orderedReferences canonicalJson base.evidenceRefs).map canonicalJson)
    rw [List.length_map] at hmap
    omega
  · obtain ⟨base', hbase'⟩ := evaluateProof_returns hbase degraded
    refine evaluateConstraint_undecided hbase' fun hdecided => ?_
    exact not_complete_of_degraded hdegraded
      (evaluateProof_decided hbase' (boundedVerdict_decided hdecided).1)

/-! ## Two web hosts in two zones -/

def itemReference (itemDigest : String) : EvidenceReference :=
  .evidenceItem
    { snapshotId := "snapshot".toList, snapshotArtifactDigest := "artifact".toList
      snapshotSemanticDigest := "semantic".toList, collectorAttemptId := "attempt".toList
      collectorAttemptDigest := "attempt-digest".toList, collectorToolName := .resourceInventoryRead
      collectorToolVersion := "1.0.0".toList, collectorAttemptAt := 0
      collectorIdentityEvidenceRef := "identity".toList }
    itemDigest.toList "response".toList "/value/0".toList

/-- The digest of the item or of the gap, in place of the canonical text. -/
def referenceDigest : EvidenceReference → Text
  | .evidenceItem _ itemDigest _ _ => "item:".toList ++ itemDigest
  | .evidenceGap _ _ gapRecordDigest _ => "gap:".toList ++ gapRecordDigest

def webFact (name : String) (zone : AvailabilityZone) (source : ProofSource) : ResourceProofFact where
  resourceId := name.toList
  roleRef := "web".toList
  availabilityZone := zone
  operationalState := .running
  state := .complete
  proofSource := source
  evidenceRef := itemReference name
  kind := rfl

def webBinding : RoleBindingProof latinTables where
  roleRef := "Web".toList
  selectedResourceIds := ["web-1".toList, "web-2".toList]
  state := .complete
  selected_unique := by decide

/-- Two hosts, the second one observed or inferred. -/
def webEvidence (source : ProofSource) : EvidenceReferenceContext latinTables where
  collectedAt := 0
  expiresAt := 3600000
  resources := [webFact "web-2" .two source, webFact "WEB-1" .one .observed]
  relationships := []
  controls := []
  objectives := []
  roleBindings := [webBinding]
  lifetime := by decide
  resources_unique := by cases source <;> decide
  relationships_unique := by decide
  controls_unique := by decide
  objectives_unique := by decide
  roleBindings_unique := by decide

def webScope : ClauseScope :=
  ⟨"manifest".toList, "production".toList, "/constraints/web-zones".toList, "platform".toList⟩

def webZones : ManifestConstraint where
  constraintId := "web-zones".toList
  constraintType := .zoneDistribution
  findingKind := .architectureConstraint
  governanceScope := webScope
  ownerRef := "platform".toList
  proofRequirement := .zoneDistribution "web".toList 2
  failureVerdict := .violation
  successVerdict := .pass
  riskAcceptanceRef := none
  riskAcceptanceClauseRef := none
  proof_matches := trivial
  prohibited_fails := by decide
  clauseRef_kind := by decide

def webProfile : ResolvedManifestProfile latinTables :=
  ⟨"manifest".toList, "production".toList, true, [], []⟩

theorem web_decision : evaluateConstraint referenceDigest webProfile (webEvidence .observed) webZones 0 =
    .ok ⟨.pass, [itemReference "WEB-1", itemReference "web-2"], none⟩ := by decide

theorem decides_on_complete_evidence_web :
    EvidenceComplete webProfile (webEvidence .observed) webZones ∧
      ∃ decision, evaluateConstraint referenceDigest webProfile (webEvidence .inferred) webZones 0 =
          .ok decision ∧ (decision.verdict = .unknown ∨ decision.verdict = .conflicting) := by
  have hall := decides_on_complete_evidence referenceDigest webProfile (webEvidence .observed)
    webZones 0 _ web_decision (by decide)
  have hmember : webFact "web-2" .two .observed ∈ (webEvidence .observed).resources := by
    simp [webEvidence]
  have hchanged : webFact "web-2" .two .inferred ∈ (webEvidence .inferred).resources := by
    simp [webEvidence]
  exact ⟨hall.1, hall.2.2 (webEvidence .inferred)
    (.resource hmember (by decide) hchanged rfl (.inr rfl))⟩

end AthenaContext.PolicyEvaluation
