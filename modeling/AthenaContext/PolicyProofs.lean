import AthenaContext.PolicyRecords
import Mathlib

/-!
# Policy proofs

The eight kinds of proof a constraint asks for. Each collects its gates from role
bindings, resource states and facts before it decides, and a decision behind an open
gate reads complete evidence only: what a proof reads is listed for every kind, and one
lemma for each kind says what its decision rests on.
-/

namespace AthenaContext.PolicyProofs

open FallibleResults OrdinalCollections PolicyRecords ResourceSelectors RoleResolution
  TextNormalization

variable {unicode : UnicodeTables}

/-- `PolicyDecision`. -/
structure PolicyDecision where
  verdict : FindingVerdict
  evidenceRefs : List EvidenceReference
  riskAcceptanceRef : Option Text := none
  deriving DecidableEq

/-- The verdict of a gate that does not let a proof decide. -/
inductive Gate
  | conflicting | unknown
  deriving DecidableEq, Repr

def Gate.verdict : Gate → FindingVerdict
  | .conflicting => .conflicting
  | .unknown => .unknown

/-- `_merge_gates`. -/
def mergeGates (gates : List (Option Gate)) : Option Gate :=
  if some .conflicting ∈ gates then some .conflicting
  else if some .unknown ∈ gates then some .unknown
  else none

/-- `_resource_gate`. -/
def resourceGate (resources : List ResourceProofFact) : Option Gate :=
  if resources = [] then some .unknown
  else if resources.any (·.state == .conflicting) then some .conflicting
  else if resources.any (·.state != .complete) then some .unknown
  else if resources.any (·.proofSource == .inferred) then some .unknown
  else none

/-- Equal after normalization. -/
def sameRef (unicode : UnicodeTables) (left right : Text) : Bool :=
  normalizedId unicode left == normalizedId unicode right

/-- The resource facts of a role, in the order of their identifiers. -/
def roleResources (evidence : EvidenceReferenceContext unicode) (roleRef : Text) :
    List ResourceProofFact :=
  sortOn (fun resource => normalizedId unicode resource.resourceId)
    (evidence.resources.filter fun resource => sameRef unicode resource.roleRef roleRef)

def bindingsOf (evidence : EvidenceReferenceContext unicode) (roleRef : Text) :
    List (RoleBindingProof unicode) :=
  evidence.roleBindings.filter fun binding => sameRef unicode binding.roleRef roleRef

/-- `selected == actual`, as sets of normalized identifiers. -/
def selectsExactly (binding : RoleBindingProof unicode) (resources : List ResourceProofFact) : Bool :=
  (binding.selectedResourceIds.map (normalizedId unicode)).toFinset =
    (resources.map fun resource => normalizedId unicode resource.resourceId).toFinset

/-- The gate of `_bound_role_resources`; its resources are `roleResources`. -/
def bindingGate (evidence : EvidenceReferenceContext unicode) (roleRef : Text) : Option Gate :=
  match bindingsOf evidence roleRef with
  | [binding] =>
    if binding.state = .conflicting then some .conflicting
    else if binding.state ≠ .complete then some .unknown
    else if selectsExactly binding (roleResources evidence roleRef) then none
    else some .unknown
  | _ => some .unknown

/-- The gates of one role. -/
def roleGate (evidence : EvidenceReferenceContext unicode) (roleRef : Text) : Option Gate :=
  mergeGates [bindingGate evidence roleRef, resourceGate (roleResources evidence roleRef)]

/-- `_references_for_resources`. -/
def referencesForResources (resources : List ResourceProofFact) : List EvidenceReference :=
  resources.map ResourceProofFact.evidenceRef

/-- A decision behind a gate. -/
def gated (gate : Option Gate) (references : List EvidenceReference)
    (decide : FindingVerdict) : PolicyDecision :=
  match gate with
  | some closed => { verdict := closed.verdict, evidenceRefs := references }
  | none => { verdict := decide, evidenceRefs := references }

def zonesOf (resources : List ResourceProofFact) : List AvailabilityZone :=
  resources.map ResourceProofFact.availabilityZone

def successOrFailure (constraint : ManifestConstraint) (met : Bool) : FindingVerdict :=
  if met then constraint.successVerdict.verdict else constraint.failureVerdict.verdict

/-! ## The proof kinds -/

def isSpofKind (kind : ManifestFindingKind) : Bool := kind == .actualSpof || kind == .riskAcceptance

/-- `requires_zone`. -/
def requiresZone (constraint : ManifestConstraint) : Bool :=
  constraint.constraintType == .supportedSingleton || isSpofKind constraint.findingKind

/-- What a cardinality proof decides on complete evidence. -/
def cardinalityVerdict (profile : ResolvedManifestProfile unicode) (constraint : ManifestConstraint)
    (expected : ManifestCardinality) (resources : List ResourceProofFact) : FindingVerdict :=
  let (minimum, maximum) := cardinalityBounds expected
  if isSpofKind constraint.findingKind then
    if ¬(resources.length = 1 ∧ (zonesOf resources).toFinset.card = 1) then
      constraint.failureVerdict.verdict
    else if profile.zoneLossContinuityRequired then .violation
    else .observation
  else successOrFailure constraint (minimum ≤ resources.length ∧ resources.length ≤ maximum)

/-- `_evaluate_cardinality`. -/
def evaluateCardinality (profile : ResolvedManifestProfile unicode)
    (evidence : EvidenceReferenceContext unicode) (constraint : ManifestConstraint) (roleRef : Text)
    (expected : ManifestCardinality) : PolicyDecision :=
  let resources := roleResources evidence roleRef
  gated (roleGate evidence roleRef) (referencesForResources resources)
    (if requiresZone constraint && (zonesOf resources).elem .unknown then .unknown
    else cardinalityVerdict profile constraint expected resources)

/-- `_evaluate_zone_colocation`. -/
def evaluateZoneColocation (evidence : EvidenceReferenceContext unicode)
    (constraint : ManifestConstraint) (subjectRoleRef anchorRoleRef : Text) : PolicyDecision :=
  let subjects := roleResources evidence subjectRoleRef
  let anchors := roleResources evidence anchorRoleRef
  gated (mergeGates [bindingGate evidence subjectRoleRef, bindingGate evidence anchorRoleRef,
      resourceGate subjects, resourceGate anchors])
    (referencesForResources (subjects ++ anchors))
    (if (zonesOf (subjects ++ anchors)).elem .unknown then .unknown
    else successOrFailure constraint ((zonesOf anchors).toFinset.card = 1 ∧
      (zonesOf subjects).toFinset = (zonesOf anchors).toFinset))

/-- `_evaluate_zone_distribution`. -/
def evaluateZoneDistribution (evidence : EvidenceReferenceContext unicode)
    (constraint : ManifestConstraint) (roleRef : Text) (minimumDistinctZones : ℕ) : PolicyDecision :=
  let resources := roleResources evidence roleRef
  gated (roleGate evidence roleRef) (referencesForResources resources)
    (if (zonesOf resources).elem .unknown then .unknown
    else successOrFailure constraint (minimumDistinctZones ≤ (zonesOf resources).toFinset.card))

def operationalStates (resources : List ResourceProofFact) : List ResourceState :=
  resources.map ResourceProofFact.operationalState

/-- What an operational proof decides on complete evidence. -/
def operationalVerdict (constraint : ManifestConstraint) (proof : RoleOperationalStateProof)
    (states : List ResourceState) : FindingVerdict :=
  if states.any fun state => state == .unknown ||
      !(proof.healthyStates.elem state || proof.failureStates.elem state) then .unknown
  else if (states.filter proof.healthyStates.elem).length < proof.minimumHealthy then
    constraint.failureVerdict.verdict
  else if states.any proof.failureStates.elem then .observation
  else constraint.successVerdict.verdict

/-- `_evaluate_role_operational_state`. -/
def evaluateRoleOperationalState (evidence : EvidenceReferenceContext unicode)
    (constraint : ManifestConstraint) (proof : RoleOperationalStateProof) : PolicyDecision :=
  let resources := roleResources evidence proof.roleRef
  gated (roleGate evidence proof.roleRef) (referencesForResources resources)
    (operationalVerdict constraint proof (operationalStates resources))

/-- `_declared_relationship`. -/
def declaredRelationship (profile : ResolvedManifestProfile unicode) (relationshipRef : Text) :
    Except String DeclaredManifestRelationship :=
  match profile.relationships.filterMap fun relationship =>
    match relationship with
    | .declared declared =>
      if sameRef unicode declared.relationshipId relationshipRef then some declared else none
    | .exception _ => none with
  | [relationship] => .ok relationship
  | _ => .error "relationship proof must resolve to exactly one declared relationship"

def endpointRoles (relationship : DeclaredManifestRelationship) : List Text :=
  [relationship.source, relationship.target].filterMap fun endpoint =>
    match endpoint with
    | .role roleRef => some roleRef
    | .external _ => none

/-- The endpoint roles by normalized reference, in its order. -/
def relationshipRoles (unicode : UnicodeTables) (relationship : DeclaredManifestRelationship) :
    List Text :=
  canonicalTuple (normalizedId unicode) (endpointRoles relationship)

/-- `_relationship_role_bindings`. -/
def relationshipRoleBindings (evidence : EvidenceReferenceContext unicode)
    (relationship : DeclaredManifestRelationship) : Option Gate × List EvidenceReference :=
  let roleRefs := relationshipRoles unicode relationship
  (mergeGates (roleRefs.flatMap fun roleRef =>
      [bindingGate evidence roleRef, resourceGate (roleResources evidence roleRef)]),
    roleRefs.flatMap fun roleRef => referencesForResources (roleResources evidence roleRef))

def relationshipFacts (evidence : EvidenceReferenceContext unicode) (relationshipRef : Text) :
    List RelationshipProofFact :=
  evidence.relationships.filter fun fact => sameRef unicode fact.relationshipRef relationshipRef

/-- What a relationship proof decides on open gates. -/
def relationshipVerdict (constraint : ManifestConstraint) (facts : List RelationshipProofFact) :
    FindingVerdict :=
  match facts with
  | [fact] =>
    if fact.state ≠ .complete ∨ fact.proofSource = .inferred then .unknown
    else if constraint.constraintType = .dependencyProhibited then
      successOrFailure constraint (fact.presence != .present)
    else successOrFailure constraint (fact.presence == .present)
  | _ => .unknown

/-- `_evaluate_relationship`; the facts are cited in the order of their references. -/
def evaluateRelationship (canonicalJson : EvidenceReference → Text)
    (profile : ResolvedManifestProfile unicode) (evidence : EvidenceReferenceContext unicode)
    (constraint : ManifestConstraint) (declaredRelationshipRef : Text) :
    Except String PolicyDecision := do
  let facts := sortOn (fun fact : RelationshipProofFact => canonicalJson fact.evidenceRef)
    (relationshipFacts evidence declaredRelationshipRef)
  let relationship ← declaredRelationship profile declaredRelationshipRef
  let bound := relationshipRoleBindings evidence relationship
  let references := facts.map RelationshipProofFact.evidenceRef ++ bound.2
  pure (if facts.any (·.state == .conflicting) then
      { verdict := .conflicting, evidenceRefs := references }
    else gated bound.1 references (relationshipVerdict constraint facts))

def controlFacts (evidence : EvidenceReferenceContext unicode) (controlRef : Text) :
    List ControlProofFact :=
  evidence.controls.filter fun fact => sameRef unicode fact.controlRef controlRef

def controlVerdict (constraint : ManifestConstraint) (facts : List ControlProofFact) : FindingVerdict :=
  match facts with
  | [fact] =>
    if fact.state ≠ .complete then .unknown
    else successOrFailure constraint (fact.health == .effective)
  | _ => .unknown

/-- `_evaluate_control`. -/
def evaluateControl (evidence : EvidenceReferenceContext unicode) (constraint : ManifestConstraint)
    (controlRef : Text) : PolicyDecision :=
  let facts := controlFacts evidence controlRef
  { verdict := if facts.any (·.state == .conflicting) then .conflicting
      else controlVerdict constraint facts
    evidenceRefs := facts.map ControlProofFact.evidenceRef }

/-- The states of all facts. -/
def factStates (evidence : EvidenceReferenceContext unicode) : List EvidenceState :=
  evidence.resources.map ResourceProofFact.state ++
    evidence.relationships.map RelationshipProofFact.state ++
    evidence.controls.map ControlProofFact.state ++ evidence.objectives.map ObjectiveProofFact.state

def factReferences (evidence : EvidenceReferenceContext unicode) : List EvidenceReference :=
  evidence.resources.map ResourceProofFact.evidenceRef ++
    evidence.relationships.map RelationshipProofFact.evidenceRef ++
    evidence.controls.map ControlProofFact.evidenceRef ++
    evidence.objectives.map ObjectiveProofFact.evidenceRef

def anyInferred (evidence : EvidenceReferenceContext unicode) : Bool :=
  evidence.resources.any (·.proofSource == .inferred) ||
    evidence.relationships.any (·.proofSource == .inferred)

/-- The gate of all role bindings. -/
def freshnessGate (evidence : EvidenceReferenceContext unicode) : Option Gate :=
  mergeGates (evidence.roleBindings.map fun binding => bindingGate evidence binding.roleRef)

def freshnessVerdict (evidence : EvidenceReferenceContext unicode) (constraint : ManifestConstraint)
    (maximumAgeSeconds : ℕ) (asOf : UtcDateTime) : FindingVerdict :=
  if (factStates evidence).elem .conflicting || freshnessGate evidence == some .conflicting then
    .conflicting
  else if (factStates evidence).isEmpty || (factStates evidence).any (· != .complete) ||
      anyInferred evidence || freshnessGate evidence == some .unknown then .unknown
  else successOrFailure constraint (asOf - evidence.collectedAt ≤ 1000 * maximumAgeSeconds)

/-- `_evaluate_freshness`. -/
def evaluateFreshness (evidence : EvidenceReferenceContext unicode) (constraint : ManifestConstraint)
    (maximumAgeSeconds : ℕ) (asOf : UtcDateTime) : PolicyDecision :=
  { verdict := freshnessVerdict evidence constraint maximumAgeSeconds asOf
    evidenceRefs := factReferences evidence }

def objectiveFacts (evidence : EvidenceReferenceContext unicode) (objectiveRef : Text) :
    List ObjectiveProofFact :=
  evidence.objectives.filter fun fact => sameRef unicode fact.objectiveRef objectiveRef

/-- `_comparison_matches`. -/
def comparisonMatches (actual : ℚ) (comparison : ObjectiveComparison) (threshold : ℚ) : Bool :=
  match comparison with
  | .lt => actual < threshold
  | .lte => actual ≤ threshold
  | .gt => threshold < actual
  | .gte => threshold ≤ actual
  | .eq => actual = threshold

def objectiveVerdict (constraint : ManifestConstraint) (facts : List ObjectiveProofFact)
    (comparison : ObjectiveComparison) (threshold : FloatValue) : FindingVerdict :=
  match facts with
  | [fact] =>
    if fact.state ≠ .complete then .unknown
    else
      match fact.currentValue, threshold with
      | .finite actual, .finite bound =>
        successOrFailure constraint (comparisonMatches actual comparison bound)
      | _, _ => .unknown
  | _ => .unknown

/-- `_evaluate_objective`. -/
def evaluateObjective (evidence : EvidenceReferenceContext unicode) (constraint : ManifestConstraint)
    (objectiveRef : Text) (comparison : ObjectiveComparison) (threshold : FloatValue) :
    PolicyDecision :=
  let facts := objectiveFacts evidence objectiveRef
  { verdict := if facts.any (·.state == .conflicting) then .conflicting
      else objectiveVerdict constraint facts comparison threshold
    evidenceRefs := facts.map ObjectiveProofFact.evidenceRef }

/-- The branches of `evaluate_constraint` over the proof variants. -/
def evaluateProof (canonicalJson : EvidenceReference → Text)
    (profile : ResolvedManifestProfile unicode) (evidence : EvidenceReferenceContext unicode)
    (constraint : ManifestConstraint) (asOf : UtcDateTime) : Except String PolicyDecision :=
  match constraint.proofRequirement with
  | .cardinality roleRef expected =>
    .ok (evaluateCardinality profile evidence constraint roleRef expected)
  | .zoneColocation subjectRoleRef anchorRoleRef =>
    .ok (evaluateZoneColocation evidence constraint subjectRoleRef anchorRoleRef)
  | .zoneDistribution roleRef minimumDistinctZones =>
    .ok (evaluateZoneDistribution evidence constraint roleRef minimumDistinctZones)
  | .roleOperationalState proof => .ok (evaluateRoleOperationalState evidence constraint proof)
  | .relationshipPresence relationshipRef =>
    evaluateRelationship canonicalJson profile evidence constraint relationshipRef
  | .controlHealth controlRef => .ok (evaluateControl evidence constraint controlRef)
  | .evidenceFreshness maximumAgeSeconds =>
    .ok (evaluateFreshness evidence constraint maximumAgeSeconds asOf)
  | .objectiveThreshold objectiveRef comparison threshold =>
    .ok (evaluateObjective evidence constraint objectiveRef comparison threshold)

/-! ## What a proof reads -/

/-- `_proof_role_refs`. -/
def proofRoleRefs (profile : ResolvedManifestProfile unicode) (constraint : ManifestConstraint) :
    Except String (List Text) :=
  match constraint.proofRequirement with
  | .cardinality roleRef _ | .zoneDistribution roleRef _ => .ok [roleRef]
  | .roleOperationalState proof => .ok [proof.roleRef]
  | .zoneColocation subjectRoleRef anchorRoleRef => .ok [subjectRoleRef, anchorRoleRef]
  | .relationshipPresence relationshipRef =>
    (declaredRelationship profile relationshipRef).map endpointRoles
  | _ => .ok []

/-- The roles a proof depends on. -/
def rolesRead (profile : ResolvedManifestProfile unicode) (constraint : ManifestConstraint) :
    List Text :=
  match proofRoleRefs profile constraint with
  | .ok roleRefs => roleRefs
  | .error _ => []

def isFreshness : ManifestProof → Bool
  | .evidenceFreshness _ => true
  | _ => false

/-- The proof reads the resource facts and the bindings of the role. -/
def readsRole (profile : ResolvedManifestProfile unicode) (constraint : ManifestConstraint)
    (roleRef : Text) : Bool :=
  isFreshness constraint.proofRequirement ||
    (rolesRead profile constraint).any (sameRef unicode roleRef)

def readsRelationship (unicode : UnicodeTables) (constraint : ManifestConstraint)
    (relationshipRef : Text) : Bool :=
  match constraint.proofRequirement with
  | .evidenceFreshness _ => true
  | .relationshipPresence declaredRef => sameRef unicode relationshipRef declaredRef
  | _ => false

def readsControl (unicode : UnicodeTables) (constraint : ManifestConstraint) (controlRef : Text) :
    Bool :=
  match constraint.proofRequirement with
  | .evidenceFreshness _ => true
  | .controlHealth requiredRef => sameRef unicode controlRef requiredRef
  | _ => false

def readsObjective (unicode : UnicodeTables) (constraint : ManifestConstraint)
    (objectiveRef : Text) : Bool :=
  match constraint.proofRequirement with
  | .evidenceFreshness _ => true
  | .objectiveThreshold requiredRef _ _ => sameRef unicode objectiveRef requiredRef
  | _ => false

/-- The zones a proof reads. -/
def zonesRead (evidence : EvidenceReferenceContext unicode) (constraint : ManifestConstraint) :
    List AvailabilityZone :=
  match constraint.proofRequirement with
  | .cardinality roleRef _ =>
    if requiresZone constraint then zonesOf (roleResources evidence roleRef) else []
  | .zoneDistribution roleRef _ => zonesOf (roleResources evidence roleRef)
  | .zoneColocation subjectRoleRef anchorRoleRef =>
    zonesOf (roleResources evidence subjectRoleRef ++ roleResources evidence anchorRoleRef)
  | _ => []

/-- The operational states a proof reads. -/
def operationalStatesRead (evidence : EvidenceReferenceContext unicode)
    (constraint : ManifestConstraint) : List ResourceState :=
  match constraint.proofRequirement with
  | .roleOperationalState proof => operationalStates (roleResources evidence proof.roleRef)
  | _ => []

/-- The role has exactly one binding, it is complete, and it selects the resource facts
of the role. -/
def RoleBound (evidence : EvidenceReferenceContext unicode) (roleRef : Text) : Prop :=
  ∃ binding, bindingsOf evidence roleRef = [binding] ∧ binding.state = .complete ∧
    selectsExactly binding (roleResources evidence roleRef) = true

/-- The evidence that a proof reads is complete. -/
structure EvidenceComplete (profile : ResolvedManifestProfile unicode)
    (evidence : EvidenceReferenceContext unicode) (constraint : ManifestConstraint) : Prop where
  resources : ∀ fact ∈ evidence.resources, readsRole profile constraint fact.roleRef = true →
    fact.state = .complete ∧ fact.proofSource = .observed
  relationships : ∀ fact ∈ evidence.relationships,
    readsRelationship unicode constraint fact.relationshipRef = true →
      fact.state = .complete ∧ fact.proofSource = .observed
  controls : ∀ fact ∈ evidence.controls, readsControl unicode constraint fact.controlRef = true →
    fact.state = .complete
  objectives : ∀ fact ∈ evidence.objectives,
    readsObjective unicode constraint fact.objectiveRef = true → fact.state = .complete
  bindings : ∀ binding ∈ evidence.roleBindings, readsRole profile constraint binding.roleRef = true →
    RoleBound evidence binding.roleRef
  roles : ∀ roleRef ∈ rolesRead profile constraint, RoleBound evidence roleRef ∧
    roleResources evidence roleRef ≠ []
  zones : .unknown ∉ zonesRead evidence constraint
  operationalStates : .unknown ∉ operationalStatesRead evidence constraint

/-- A verdict other than `unknown` and `conflicting`. -/
def Decided (verdict : FindingVerdict) : Prop := verdict ≠ .unknown ∧ verdict ≠ .conflicting

instance (verdict : FindingVerdict) : Decidable (Decided verdict) :=
  inferInstanceAs (Decidable (_ ∧ _))

/-! ## Gates -/

theorem mergeGates_none_iff {gates : List (Option Gate)} :
    mergeGates gates = none ↔ ∀ gate ∈ gates, gate = none := by
  constructor
  · intro h gate hg
    rw [mergeGates] at h
    split_ifs at h with hconflicting hunknown
    match gate with
    | none => rfl
    | some .conflicting => exact absurd hg hconflicting
    | some .unknown => exact absurd hg hunknown
  · intro h
    have hclosed : ∀ gate, some gate ∉ gates := fun gate hg => by simpa using h _ hg
    rw [mergeGates, if_neg (hclosed _), if_neg (hclosed _)]

theorem resourceGate_none_iff {resources : List ResourceProofFact} :
    resourceGate resources = none ↔ resources ≠ [] ∧
      ∀ resource ∈ resources, resource.state = .complete ∧ resource.proofSource = .observed := by
  have hsource : ∀ source : ProofSource, source ≠ .inferred ↔ source = .observed := by
    intro source
    cases source <;> decide
  rw [resourceGate]
  constructor
  · intro h
    split_ifs at h with hempty hconflicting hincomplete hinferred
    refine ⟨hempty, fun resource hr => ?_⟩
    simp only [List.any_eq_true, bne_iff_ne, beq_iff_eq, not_exists, not_and] at hincomplete hinferred
    exact ⟨not_not.mp (hincomplete resource hr), (hsource _).mp (hinferred resource hr)⟩
  · rintro ⟨hne, hall⟩
    have hconflicting : ¬ (resources.any (·.state == .conflicting)) = true := by
      simp only [List.any_eq_true, beq_iff_eq, not_exists, not_and]
      intro resource hr he
      rw [(hall resource hr).1] at he
      exact absurd he (by decide)
    have hincomplete : ¬ (resources.any (·.state != .complete)) = true := by
      simp only [List.any_eq_true, bne_iff_ne, not_exists, not_and, not_not]
      exact fun resource hr => (hall resource hr).1
    have hinferred : ¬ (resources.any (·.proofSource == .inferred)) = true := by
      simp only [List.any_eq_true, beq_iff_eq, not_exists, not_and]
      exact fun resource hr => (hsource _).mpr (hall resource hr).2
    rw [if_neg hne, if_neg hconflicting, if_neg hincomplete, if_neg hinferred]

theorem bindingGate_none_iff {evidence : EvidenceReferenceContext unicode} {roleRef : Text} :
    bindingGate evidence roleRef = none ↔ RoleBound evidence roleRef := by
  rw [bindingGate, RoleBound]
  split
  · rename_i binding hb
    constructor
    · intro h
      split_ifs at h with hconflicting hincomplete hselects
      exact ⟨binding, hb, not_not.mp hincomplete, hselects⟩
    · rintro ⟨other, ho, hstate, hselects⟩
      have he : binding = other := (List.cons.inj (hb.symm.trans ho)).1
      rw [he, if_neg (by rw [hstate]; decide), if_neg (not_not.mpr hstate), if_pos hselects]
  · rename_i hnot
    refine ⟨fun h => absurd h (by simp), fun ⟨binding, hb, _⟩ => absurd hb (hnot binding)⟩

/-- The evidence of a role: it is bound, and its facts are there and complete. -/
def RoleProven (evidence : EvidenceReferenceContext unicode) (roleRef : Text) : Prop :=
  RoleBound evidence roleRef ∧ roleResources evidence roleRef ≠ [] ∧
    ∀ fact ∈ roleResources evidence roleRef, fact.state = .complete ∧ fact.proofSource = .observed

theorem roleGates_none_iff {evidence : EvidenceReferenceContext unicode} {roleRef : Text} :
    bindingGate evidence roleRef = none ∧ resourceGate (roleResources evidence roleRef) = none ↔
      RoleProven evidence roleRef := by
  rw [bindingGate_none_iff, resourceGate_none_iff, RoleProven]

theorem roleGate_none_iff {evidence : EvidenceReferenceContext unicode} {roleRef : Text} :
    roleGate evidence roleRef = none ↔ RoleProven evidence roleRef := by
  rw [roleGate, mergeGates_none_iff, ← roleGates_none_iff]
  simp

/-- A decision behind a gate is decided only when the gate is open. -/
theorem gated_decided {gate : Option Gate} {references : List EvidenceReference}
    {verdict : FindingVerdict} (h : Decided (gated gate references verdict).verdict) :
    gate = none ∧ Decided verdict := by
  match gate with
  | none => exact ⟨rfl, h⟩
  | some .conflicting => exact absurd rfl h.2
  | some .unknown => exact absurd rfl h.1

/-- An `unknown` branch is not taken where the verdict is decided. -/
theorem guard_decided {closed : Bool} {verdict : FindingVerdict}
    (h : Decided (if closed then .unknown else verdict)) : closed = false ∧ Decided verdict := by
  cases closed with
  | false => exact ⟨rfl, h⟩
  | true => exact absurd rfl h.1

/-! ## What a decision rests on -/

theorem sameRef_iff {left right : Text} :
    sameRef unicode left right = true ↔ normalizedId unicode left = normalizedId unicode right :=
  beq_iff_eq

theorem mem_roleResources {evidence : EvidenceReferenceContext unicode} {roleRef : Text}
    {fact : ResourceProofFact} : fact ∈ roleResources evidence roleRef ↔
      fact ∈ evidence.resources ∧ sameRef unicode fact.roleRef roleRef = true := by
  rw [roleResources, mem_sortOn, List.mem_filter]

/-- References that normalize alike have the same facts and the same bindings. -/
theorem roleEvidence_congr (evidence : EvidenceReferenceContext unicode) {left right : Text}
    (h : sameRef unicode left right = true) :
    roleResources evidence left = roleResources evidence right ∧
      bindingsOf evidence left = bindingsOf evidence right := by
  have he := sameRef_iff.mp h
  simp only [roleResources, bindingsOf, sameRef, he, and_self]

theorem RoleBound.congr {evidence : EvidenceReferenceContext unicode} {left right : Text}
    (h : sameRef unicode left right = true) (hb : RoleBound evidence right) :
    RoleBound evidence left := by
  obtain ⟨hresources, hbindings⟩ := roleEvidence_congr evidence h
  rwa [RoleBound, hresources, hbindings]

theorem observed_of_not_inferred {source : ProofSource} (h : source ≠ .inferred) :
    source = .observed := by
  cases source with
  | observed => rfl
  | inferred => exact absurd rfl h

theorem relationshipVerdict_decided {constraint : ManifestConstraint}
    {facts : List RelationshipProofFact} (h : Decided (relationshipVerdict constraint facts)) :
    ∃ fact, facts = [fact] ∧ fact.state = .complete ∧ fact.proofSource = .observed := by
  match facts with
  | [] | _ :: _ :: _ => exact absurd rfl h.1
  | [fact] =>
    have hopen : ¬ (fact.state ≠ .complete ∨ fact.proofSource = .inferred) := by
      intro hclosed
      simp only [relationshipVerdict, if_pos hclosed] at h
      exact h.1 rfl
    rw [not_or, not_not] at hopen
    exact ⟨fact, rfl, hopen.1, observed_of_not_inferred hopen.2⟩

theorem controlVerdict_decided {constraint : ManifestConstraint} {facts : List ControlProofFact}
    (h : Decided (controlVerdict constraint facts)) : ∃ fact, facts = [fact] ∧ fact.state = .complete := by
  match facts with
  | [] | _ :: _ :: _ => exact absurd rfl h.1
  | [fact] =>
    refine ⟨fact, rfl, ?_⟩
    by_contra hstate
    simp only [controlVerdict, if_pos hstate] at h
    exact h.1 rfl

theorem objectiveVerdict_decided {constraint : ManifestConstraint} {facts : List ObjectiveProofFact}
    {comparison : ObjectiveComparison} {threshold : FloatValue}
    (h : Decided (objectiveVerdict constraint facts comparison threshold)) :
    ∃ fact, facts = [fact] ∧ fact.state = .complete := by
  match facts with
  | [] | _ :: _ :: _ => exact absurd rfl h.1
  | [fact] =>
    refine ⟨fact, rfl, ?_⟩
    by_contra hstate
    simp only [objectiveVerdict, if_pos hstate] at h
    exact h.1 rfl

section decided

variable {canonicalJson : EvidenceReference → Text} {profile : ResolvedManifestProfile unicode}
  {evidence : EvidenceReferenceContext unicode} {constraint : ManifestConstraint}

/-- The part of complete evidence that comes from the roles of a proof. -/
theorem roles_complete (profile : ResolvedManifestProfile unicode)
    (evidence : EvidenceReferenceContext unicode)
    (hfresh : isFreshness constraint.proofRequirement = false)
    (h : ∀ roleRef ∈ rolesRead profile constraint, RoleProven evidence roleRef) :
    (∀ fact ∈ evidence.resources, readsRole profile constraint fact.roleRef = true →
        fact.state = .complete ∧ fact.proofSource = .observed) ∧
      (∀ binding ∈ evidence.roleBindings, readsRole profile constraint binding.roleRef = true →
        RoleBound evidence binding.roleRef) ∧
      ∀ roleRef ∈ rolesRead profile constraint, RoleBound evidence roleRef ∧
        roleResources evidence roleRef ≠ [] := by
  have hread : ∀ roleRef, readsRole profile constraint roleRef = true →
      ∃ proven ∈ rolesRead profile constraint, sameRef unicode roleRef proven = true := by
    intro roleRef hr
    rw [readsRole, hfresh, Bool.false_or] at hr
    exact List.any_eq_true.mp hr
  refine ⟨fun fact hf hr => ?_, fun binding _ hr => ?_, fun roleRef hr => ?_⟩
  · obtain ⟨proven, hp, hsame⟩ := hread _ hr
    exact (h proven hp).2.2 fact (mem_roleResources.mpr ⟨hf, hsame⟩)
  · obtain ⟨proven, hp, hsame⟩ := hread _ hr
    exact (h proven hp).1.congr hsame
  · exact ⟨(h roleRef hr).1, (h roleRef hr).2.1⟩

theorem cardinality_decided {roleRef : Text} {expected : ManifestCardinality}
    (hp : constraint.proofRequirement = .cardinality roleRef expected)
    (h : Decided (evaluateCardinality profile evidence constraint roleRef expected).verdict) :
    EvidenceComplete profile evidence constraint := by
  obtain ⟨hgate, hrest⟩ := gated_decided h
  obtain ⟨hzones, _⟩ := guard_decided hrest
  have hroles : rolesRead profile constraint = [roleRef] := by simp [rolesRead, proofRoleRefs, hp]
  have hfresh : isFreshness constraint.proofRequirement = false := by rw [hp]; rfl
  obtain ⟨hresources, hbindings, hall⟩ := roles_complete profile evidence hfresh (by
      rw [hroles]
      exact List.forall_mem_singleton.mpr (roleGate_none_iff.mp hgate))
  refine ⟨hresources, by simp [readsRelationship, hp], by simp [readsControl, hp],
    by simp [readsObjective, hp], hbindings, hall, ?_, by simp [operationalStatesRead, hp]⟩
  rw [zonesRead, hp]
  by_cases hz : requiresZone constraint = true
  · simpa [hz] using hzones
  · simp [hz]

theorem zoneColocation_decided {subjectRoleRef anchorRoleRef : Text}
    (hp : constraint.proofRequirement = .zoneColocation subjectRoleRef anchorRoleRef)
    (h : Decided (evaluateZoneColocation evidence constraint subjectRoleRef anchorRoleRef).verdict) :
    EvidenceComplete profile evidence constraint := by
  obtain ⟨hgate, hrest⟩ := gated_decided h
  obtain ⟨hzones, _⟩ := guard_decided hrest
  have hgates := mergeGates_none_iff.mp hgate
  have hsubject : RoleProven evidence subjectRoleRef :=
    roleGates_none_iff.mp ⟨hgates _ (by simp), hgates _ (by simp)⟩
  have hanchor : RoleProven evidence anchorRoleRef :=
    roleGates_none_iff.mp ⟨hgates _ (by simp), hgates _ (by simp)⟩
  have hroles : rolesRead profile constraint = [subjectRoleRef, anchorRoleRef] := by
    simp [rolesRead, proofRoleRefs, hp]
  have hfresh : isFreshness constraint.proofRequirement = false := by rw [hp]; rfl
  obtain ⟨hresources, hbindings, hall⟩ := roles_complete profile evidence hfresh (by
      rw [hroles]
      simp [hsubject, hanchor])
  refine ⟨hresources, by simp [readsRelationship, hp], by simp [readsControl, hp],
    by simp [readsObjective, hp], hbindings, hall, ?_, by simp [operationalStatesRead, hp]⟩
  rw [zonesRead, hp]
  simpa using hzones

theorem zoneDistribution_decided {roleRef : Text} {minimumDistinctZones : ℕ}
    (hp : constraint.proofRequirement = .zoneDistribution roleRef minimumDistinctZones)
    (h : Decided (evaluateZoneDistribution evidence constraint roleRef minimumDistinctZones).verdict) :
    EvidenceComplete profile evidence constraint := by
  obtain ⟨hgate, hrest⟩ := gated_decided h
  obtain ⟨hzones, _⟩ := guard_decided hrest
  have hroles : rolesRead profile constraint = [roleRef] := by simp [rolesRead, proofRoleRefs, hp]
  have hfresh : isFreshness constraint.proofRequirement = false := by rw [hp]; rfl
  obtain ⟨hresources, hbindings, hall⟩ := roles_complete profile evidence hfresh (by
      rw [hroles]
      exact List.forall_mem_singleton.mpr (roleGate_none_iff.mp hgate))
  refine ⟨hresources, by simp [readsRelationship, hp], by simp [readsControl, hp],
    by simp [readsObjective, hp], hbindings, hall, ?_, by simp [operationalStatesRead, hp]⟩
  rw [zonesRead, hp]
  simpa using hzones

theorem roleOperationalState_decided {proof : RoleOperationalStateProof}
    (hp : constraint.proofRequirement = .roleOperationalState proof)
    (h : Decided (evaluateRoleOperationalState evidence constraint proof).verdict) :
    EvidenceComplete profile evidence constraint := by
  obtain ⟨hgate, hrest⟩ := gated_decided h
  obtain ⟨hstates, _⟩ := guard_decided hrest
  have hroles : rolesRead profile constraint = [proof.roleRef] := by
    simp [rolesRead, proofRoleRefs, hp]
  have hfresh : isFreshness constraint.proofRequirement = false := by rw [hp]; rfl
  obtain ⟨hresources, hbindings, hall⟩ := roles_complete profile evidence hfresh (by
      rw [hroles]
      exact List.forall_mem_singleton.mpr (roleGate_none_iff.mp hgate))
  refine ⟨hresources, by simp [readsRelationship, hp], by simp [readsControl, hp],
    by simp [readsObjective, hp], hbindings, hall, by simp [zonesRead, hp], ?_⟩
  rw [operationalStatesRead, hp]
  intro hunknown
  have hnone := List.any_eq_false.mp hstates .unknown hunknown
  simp at hnone

theorem relationship_decided {relationshipRef : Text} {decision : PolicyDecision}
    (hp : constraint.proofRequirement = .relationshipPresence relationshipRef)
    (h : evaluateRelationship canonicalJson profile evidence constraint relationshipRef = .ok decision)
    (hd : Decided decision.verdict) : EvidenceComplete profile evidence constraint := by
  obtain ⟨relationship, hrelationship, hrest⟩ := bind_ok_iff.mp h
  have hdecision := pure_ok_iff.mp hrest
  have hnot : ¬ (sortOn (fun fact : RelationshipProofFact => canonicalJson fact.evidenceRef)
      (relationshipFacts evidence relationshipRef)).any (·.state == .conflicting) = true := by
    intro hconflicting
    rw [if_pos hconflicting] at hdecision
    rw [← hdecision] at hd
    exact hd.2 rfl
  rw [if_neg hnot] at hdecision
  rw [← hdecision] at hd
  obtain ⟨hgate, hverdict⟩ := gated_decided hd
  have hroles : rolesRead profile constraint = endpointRoles relationship := by
    rw [rolesRead, proofRoleRefs, hp]
    simp [hrelationship, Except.map]
  -- each endpoint role has a representative among those the gates were collected for
  have hproven : ∀ roleRef ∈ endpointRoles relationship, RoleProven evidence roleRef := by
    intro roleRef hr
    have hkey : normalizedId unicode roleRef ∈
        (relationshipRoles unicode relationship).map (normalizedId unicode) := by
      have hk := (keys_dictOf (normalizedId unicode) (endpointRoles relationship)
        (normalizedId unicode roleRef)).mpr (List.mem_map_of_mem hr)
      obtain ⟨other, ho, he⟩ := List.mem_map.mp hk
      exact List.mem_map.mpr ⟨other, mem_sortOn.mpr ho, he⟩
    obtain ⟨other, ho, he⟩ := List.mem_map.mp hkey
    have hgates := mergeGates_none_iff.mp hgate
    have hother : RoleProven evidence other :=
      roleGates_none_iff.mp ⟨hgates _ (List.mem_flatMap.mpr ⟨other, ho, by simp⟩),
        hgates _ (List.mem_flatMap.mpr ⟨other, ho, by simp⟩)⟩
    have hsame := roleEvidence_congr evidence (sameRef_iff.mpr he)
    rwa [RoleProven, RoleBound, hsame.1, hsame.2] at hother
  have hfresh : isFreshness constraint.proofRequirement = false := by rw [hp]; rfl
  obtain ⟨hresources, hbindings, hall⟩ := roles_complete profile evidence hfresh (by rwa [hroles])
  refine ⟨hresources, ?_, by simp [readsControl, hp], by simp [readsObjective, hp], hbindings, hall,
    by simp [zonesRead, hp], by simp [operationalStatesRead, hp]⟩
  intro fact hf hread
  have hin : fact ∈ sortOn (fun fact : RelationshipProofFact => canonicalJson fact.evidenceRef)
      (relationshipFacts evidence relationshipRef) := by
    rw [mem_sortOn, relationshipFacts, List.mem_filter]
    exact ⟨hf, by simpa [readsRelationship, hp] using hread⟩
  obtain ⟨only, honly, hcomplete⟩ := relationshipVerdict_decided hverdict
  rw [honly] at hin
  rwa [List.mem_singleton.mp hin]

theorem control_decided {controlRef : Text} (hp : constraint.proofRequirement = .controlHealth controlRef)
    (h : Decided (evaluateControl evidence constraint controlRef).verdict) :
    EvidenceComplete profile evidence constraint := by
  have hroles : rolesRead profile constraint = [] := by simp [rolesRead, proofRoleRefs, hp]
  have hfresh : isFreshness constraint.proofRequirement = false := by rw [hp]; rfl
  obtain ⟨hresources, hbindings, hall⟩ := roles_complete profile evidence hfresh (by simp [hroles])
  refine ⟨hresources, by simp [readsRelationship, hp], ?_, by simp [readsObjective, hp], hbindings,
    hall, by simp [zonesRead, hp], by simp [operationalStatesRead, hp]⟩
  intro fact hf hread
  have hin : fact ∈ controlFacts evidence controlRef := by
    rw [controlFacts, List.mem_filter]
    exact ⟨hf, by simpa [readsControl, hp] using hread⟩
  simp only [evaluateControl] at h
  split_ifs at h with hconflicting
  · exact absurd rfl h.2
  · obtain ⟨only, honly, hcomplete⟩ := controlVerdict_decided h
    rw [honly] at hin
    rwa [List.mem_singleton.mp hin]

theorem objective_decided {objectiveRef : Text} {comparison : ObjectiveComparison}
    {threshold : FloatValue}
    (hp : constraint.proofRequirement = .objectiveThreshold objectiveRef comparison threshold)
    (h : Decided (evaluateObjective evidence constraint objectiveRef comparison threshold).verdict) :
    EvidenceComplete profile evidence constraint := by
  have hroles : rolesRead profile constraint = [] := by simp [rolesRead, proofRoleRefs, hp]
  have hfresh : isFreshness constraint.proofRequirement = false := by rw [hp]; rfl
  obtain ⟨hresources, hbindings, hall⟩ := roles_complete profile evidence hfresh (by simp [hroles])
  refine ⟨hresources, by simp [readsRelationship, hp], by simp [readsControl, hp], ?_, hbindings,
    hall, by simp [zonesRead, hp], by simp [operationalStatesRead, hp]⟩
  intro fact hf hread
  have hin : fact ∈ objectiveFacts evidence objectiveRef := by
    rw [objectiveFacts, List.mem_filter]
    exact ⟨hf, by simpa [readsObjective, hp] using hread⟩
  simp only [evaluateObjective] at h
  split_ifs at h with hconflicting
  · exact absurd rfl h.2
  · obtain ⟨only, honly, hcomplete⟩ := objectiveVerdict_decided h
    rw [honly] at hin
    rwa [List.mem_singleton.mp hin]

theorem freshness_decided {maximumAgeSeconds : ℕ} {asOf : UtcDateTime}
    (hp : constraint.proofRequirement = .evidenceFreshness maximumAgeSeconds)
    (h : Decided (evaluateFreshness evidence constraint maximumAgeSeconds asOf).verdict) :
    EvidenceComplete profile evidence constraint := by
  simp only [evaluateFreshness, freshnessVerdict] at h
  split_ifs at h with hconflicting hunknown
  · exact absurd rfl h.2
  · exact absurd rfl h.1
  · simp only [Bool.or_eq_true, not_or, beq_iff_eq] at hconflicting hunknown
    obtain ⟨⟨⟨-, hincomplete⟩, hinferred⟩, hgateUnknown⟩ := hunknown
    have hstates : ∀ state ∈ factStates evidence, state = .complete := by
      simpa using hincomplete
    have hgate : freshnessGate evidence = none := by
      match hg : freshnessGate evidence with
      | none => rfl
      | some .conflicting => exact absurd hg hconflicting.2
      | some .unknown => exact absurd hg hgateUnknown
    simp only [factStates, List.mem_append] at hstates
    simp only [anyInferred, Bool.or_eq_true, List.any_eq_true, beq_iff_eq, not_or, not_exists,
      not_and] at hinferred
    have hroles : rolesRead profile constraint = [] := by simp [rolesRead, proofRoleRefs, hp]
    refine ⟨?_, ?_, ?_, ?_, ?_, by simp [hroles], by simp [zonesRead, hp],
      by simp [operationalStatesRead, hp]⟩
    · intro fact hf _
      exact ⟨hstates _ (.inl (.inl (.inl (List.mem_map_of_mem hf)))),
        observed_of_not_inferred (hinferred.1 fact hf)⟩
    · intro fact hf _
      exact ⟨hstates _ (.inl (.inl (.inr (List.mem_map_of_mem hf)))),
        observed_of_not_inferred (hinferred.2 fact hf)⟩
    · intro fact hf _
      exact hstates _ (.inl (.inr (List.mem_map_of_mem hf)))
    · intro fact hf _
      exact hstates _ (.inr (List.mem_map_of_mem hf))
    · intro binding hb _
      exact bindingGate_none_iff.mp (mergeGates_none_iff.mp hgate _ (List.mem_map_of_mem
        (f := fun b : RoleBindingProof unicode => bindingGate evidence b.roleRef) hb))

/-- A proof decides on complete evidence only. -/
theorem evaluateProof_decided {asOf : UtcDateTime} {decision : PolicyDecision}
    (h : evaluateProof canonicalJson profile evidence constraint asOf = .ok decision)
    (hd : Decided decision.verdict) : EvidenceComplete profile evidence constraint := by
  rw [evaluateProof] at h
  split at h
  · rename_i roleRef expected hp
    exact cardinality_decided hp (by rwa [← Except.ok.inj h] at hd)
  · rename_i subjectRoleRef anchorRoleRef hp
    exact zoneColocation_decided hp (by rwa [← Except.ok.inj h] at hd)
  · rename_i roleRef minimumDistinctZones hp
    exact zoneDistribution_decided hp (by rwa [← Except.ok.inj h] at hd)
  · rename_i proof hp
    exact roleOperationalState_decided hp (by rwa [← Except.ok.inj h] at hd)
  · rename_i relationshipRef hp
    exact relationship_decided hp h hd
  · rename_i controlRef hp
    exact control_decided hp (by rwa [← Except.ok.inj h] at hd)
  · rename_i maximumAgeSeconds hp
    exact freshness_decided hp (by rwa [← Except.ok.inj h] at hd)
  · rename_i objectiveRef comparison threshold hp
    exact objective_decided hp (by rwa [← Except.ok.inj h] at hd)

/-- Whether a proof raises depends on the profile and the constraint only. -/
theorem evaluateProof_returns {asOf : UtcDateTime} {decision : PolicyDecision}
    (h : evaluateProof canonicalJson profile evidence constraint asOf = .ok decision)
    (other : EvidenceReferenceContext unicode) :
    ∃ decision', evaluateProof canonicalJson profile other constraint asOf = .ok decision' := by
  rw [evaluateProof] at h ⊢
  split at h
  case h_5 relationshipRef hp =>
    obtain ⟨relationship, hrelationship, _⟩ := bind_ok_iff.mp h
    exact ⟨_, bind_ok_iff.mpr ⟨relationship, hrelationship, rfl⟩⟩
  all_goals exact ⟨_, rfl⟩

end decided

end AthenaContext.PolicyProofs
