import AthenaContext.RoleResolution
import Mathlib

/-!
# Policy records

What a policy evaluation reads: the facts and role bindings of an evidence context,
the constraints with their proof requirements, and the relationships and risk
acceptances of a resolved profile. A record carries what its contract validates.
-/

namespace AthenaContext.PolicyRecords

open EvidenceRecords ResourceSelectors RoleResolution TextNormalization

/-! ## Verdicts and evidence -/

/-- `FindingVerdict`. -/
inductive FindingVerdict
  | pass | violation | expectedConstraint | acceptedResidualRisk | observation | unknown | conflicting
  deriving DecidableEq, Repr

/-- `FailureVerdict`. -/
inductive FailureVerdict
  | violation | unknown | conflicting
  deriving DecidableEq, Repr

def FailureVerdict.verdict : FailureVerdict → FindingVerdict
  | .violation => .violation
  | .unknown => .unknown
  | .conflicting => .conflicting

/-- `successVerdict`. -/
inductive SuccessVerdict
  | pass | expectedConstraint | observation
  deriving DecidableEq, Repr

def SuccessVerdict.verdict : SuccessVerdict → FindingVerdict
  | .pass => .pass
  | .expectedConstraint => .expectedConstraint
  | .observation => .observation

inductive EvidenceState
  | complete | missing | gap | stale | conflicting
  deriving DecidableEq, Repr

inductive ProofSource
  | observed | inferred
  deriving DecidableEq, Repr

inductive AvailabilityZone
  | one | two | three | unknown
  deriving DecidableEq, Repr

inductive ResourceState
  | running | stopped | deallocated | unknown
  deriving DecidableEq, Repr

/-- A float of a record. -/
inductive FloatValue
  | finite (value : ℚ)
  | infinite (negative : Bool)
  | notANumber
  deriving DecidableEq

/-- What item and gap references have in common. -/
structure ReferenceHeader where
  snapshotId : Text
  snapshotArtifactDigest : Text
  snapshotSemanticDigest : Text
  collectorAttemptId : Text
  collectorAttemptDigest : Text
  collectorToolName : EvidenceToolName
  collectorToolVersion : Text
  collectorAttemptAt : UtcDateTime
  collectorIdentityEvidenceRef : Text
  deriving DecidableEq

/-- `EvidenceReference`: an `EvidenceItemRef` or an `EvidenceGapRef`. -/
inductive EvidenceReference
  | evidenceItem (header : ReferenceHeader)
      (itemDigest sourceResponseDigest sourceResponsePointer : Text)
  | evidenceGap (header : ReferenceHeader) (gapId gapRecordDigest gapReason : Text)
  deriving DecidableEq

def EvidenceReference.isItem : EvidenceReference → Bool
  | .evidenceItem _ _ _ _ => true
  | .evidenceGap _ _ _ _ => false

/-- `validate_reference_kind`: a complete fact cites an item, an incomplete one a gap. -/
def ReferenceKind (state : EvidenceState) (reference : EvidenceReference) : Prop :=
  match state with
  | .complete => reference.isItem = true
  | .missing | .gap | .stale => reference.isItem = false
  | .conflicting => True

instance (state : EvidenceState) (reference : EvidenceReference) :
    Decidable (ReferenceKind state reference) := by
  unfold ReferenceKind
  cases state <;> infer_instance

structure ResourceProofFact where
  resourceId : Text
  roleRef : Text
  availabilityZone : AvailabilityZone
  operationalState : ResourceState
  state : EvidenceState
  proofSource : ProofSource
  evidenceRef : EvidenceReference
  kind : ReferenceKind state evidenceRef
  deriving DecidableEq

inductive RelationshipPresence
  | present | absent
  deriving DecidableEq, Repr

structure RelationshipProofFact where
  relationshipRef : Text
  state : EvidenceState
  proofSource : ProofSource
  presence : RelationshipPresence
  evidenceRef : EvidenceReference
  kind : ReferenceKind state evidenceRef
  deriving DecidableEq

inductive ControlHealth
  | effective | degraded | missing | unknown | expired
  deriving DecidableEq, Repr

structure ControlProofFact where
  controlRef : Text
  state : EvidenceState
  health : ControlHealth
  evidenceRef : EvidenceReference
  kind : ReferenceKind state evidenceRef
  deriving DecidableEq

structure ObjectiveProofFact where
  objectiveRef : Text
  state : EvidenceState
  currentValue : FloatValue
  evidenceRef : EvidenceReference
  kind : ReferenceKind state evidenceRef
  deriving DecidableEq

@[ext]
structure RoleBindingProof (unicode : UnicodeTables) where
  roleRef : Text
  selectedResourceIds : List Text
  state : EvidenceState
  selected_unique : UniqueText unicode selectedResourceIds

instance {unicode : UnicodeTables} : DecidableEq (RoleBindingProof unicode) := fun _ _ =>
  decidable_of_iff _ RoleBindingProof.ext_iff.symm

/-- `EvidenceReferenceContext`: the references within each list are distinct up to
normalization. -/
structure EvidenceReferenceContext (unicode : UnicodeTables) where
  collectedAt : UtcDateTime
  expiresAt : UtcDateTime
  resources : List ResourceProofFact
  relationships : List RelationshipProofFact
  controls : List ControlProofFact
  objectives : List ObjectiveProofFact
  roleBindings : List (RoleBindingProof unicode)
  lifetime : collectedAt < expiresAt
  resources_unique : UniqueText unicode (resources.map ResourceProofFact.resourceId)
  relationships_unique : UniqueText unicode (relationships.map RelationshipProofFact.relationshipRef)
  controls_unique : UniqueText unicode (controls.map ControlProofFact.controlRef)
  objectives_unique : UniqueText unicode (objectives.map ObjectiveProofFact.objectiveRef)
  roleBindings_unique : UniqueText unicode (roleBindings.map RoleBindingProof.roleRef)

/-! ## Constraints -/

/-- `ClauseScope`. -/
structure ClauseScope where
  manifestId : Text
  profileId : Text
  clausePath : Text
  ownerRef : Text
  deriving DecidableEq

inductive ObjectiveComparison
  | lt | lte | gt | gte | eq
  deriving DecidableEq, Repr

structure RoleOperationalStateProof where
  roleRef : Text
  healthyStates : List ResourceState
  failureStates : List ResourceState
  minimumHealthy : ℕ
  classified : .unknown ∉ healthyStates ∧ .unknown ∉ failureStates
  disjoint : ∀ state ∈ healthyStates, state ∉ failureStates
  minimumHealthy_bounds : 1 ≤ minimumHealthy ∧ minimumHealthy ≤ 1000

/-- `ManifestProof`; the required health of a control is `effective`. -/
inductive ManifestProof
  | cardinality (roleRef : Text) (expected : ManifestCardinality)
  | zoneColocation (subjectRoleRef anchorRoleRef : Text)
  | zoneDistribution (roleRef : Text) (minimumDistinctZones : ℕ)
  | roleOperationalState (proof : RoleOperationalStateProof)
  | relationshipPresence (declaredRelationshipRef : Text)
  | evidenceFreshness (maximumAgeSeconds : ℕ)
  | controlHealth (controlRef : Text)
  | objectiveThreshold (objectiveRef : Text) (comparison : ObjectiveComparison)
      (threshold : FloatValue)

inductive ConstraintType
  | cardinality | zoneColocation | zoneDistribution | roleOperationalState | dependencyRequired
  | dependencyProhibited | supportedSingleton | objectiveRequired | evidenceFreshness
  | controlRequired
  deriving DecidableEq, Repr

inductive ManifestFindingKind
  | architectureConstraint | technologyConstraint | actualSpof | controlHealth | riskAcceptance
  | objective | relationshipConflict | evidenceGap | operationalState
  deriving DecidableEq, Repr

/-- `validate_constraint_shape`: the proof variant a constraint type requires. -/
def ProofMatches : ConstraintType → ManifestProof → Prop
  | .cardinality, .cardinality _ _ | .supportedSingleton, .cardinality _ _
  | .zoneColocation, .zoneColocation _ _ | .zoneDistribution, .zoneDistribution _ _
  | .roleOperationalState, .roleOperationalState _
  | .dependencyRequired, .relationshipPresence _
  | .dependencyProhibited, .relationshipPresence _
  | .objectiveRequired, .objectiveThreshold _ _ _
  | .evidenceFreshness, .evidenceFreshness _
  | .controlRequired, .controlHealth _ => True
  | _, _ => False

structure ManifestConstraint where
  constraintId : Text
  constraintType : ConstraintType
  findingKind : ManifestFindingKind
  governanceScope : ClauseScope
  ownerRef : Text
  proofRequirement : ManifestProof
  failureVerdict : FailureVerdict
  successVerdict : SuccessVerdict
  riskAcceptanceRef : Option Text
  riskAcceptanceClauseRef : Option Text
  proof_matches : ProofMatches constraintType proofRequirement
  prohibited_fails : constraintType = .dependencyProhibited → failureVerdict = .violation
  clauseRef_kind : riskAcceptanceClauseRef ≠ none → findingKind = .riskAcceptance

/-! ## The resolved profile -/

/-- `ManifestEndpoint`. -/
inductive ManifestEndpoint
  | role (roleRef : Text)
  | external (externalRef : Text)
  deriving DecidableEq

structure DeclaredManifestRelationship where
  relationshipId : Text
  source : ManifestEndpoint
  target : ManifestEndpoint
  sourceClause : Text
  deriving DecidableEq

/-- `ExceptionManifestRelationship`: it aims at a relationship or at a clause. -/
structure ExceptionManifestRelationship where
  exceptionId : Text
  appliesToRelationshipRef : Option Text
  appliesToClauseRef : Option Text
  riskAcceptanceRef : Text
  governanceScope : ClauseScope
  ownerRef : Text
  expiresAt : UtcDateTime
  one_target : appliesToRelationshipRef.isNone ≠ appliesToClauseRef.isNone
  deriving DecidableEq

inductive ManifestRelationship
  | declared (relationship : DeclaredManifestRelationship)
  | exception (relationship : ExceptionManifestRelationship)
  deriving DecidableEq

structure AcceptedResourceBinding where
  roleRef : Text
  resourceId : Text
  deriving DecidableEq

structure ManifestRiskAcceptance (unicode : UnicodeTables) where
  riskAcceptanceId : Text
  governanceScope : ClauseScope
  ownedBy : Text
  acceptedAt : UtcDateTime
  expiresAt : UtcDateTime
  acceptedResourceBindings : List AcceptedResourceBinding
  profiles : List Text
  status : ApprovalStatus
  lifetime : acceptedAt < expiresAt
  bindings_unique : (acceptedResourceBindings.map fun binding =>
    (normalizedId unicode binding.roleRef, normalizedId unicode binding.resourceId)).Nodup

/-- The part of a `ResolvedManifestProfile` that an evaluation reads. -/
structure ResolvedManifestProfile (unicode : UnicodeTables) where
  manifestId : Text
  profileId : Text
  zoneLossContinuityRequired : Bool
  relationships : List ManifestRelationship
  riskAcceptances : List (ManifestRiskAcceptance unicode)

end AthenaContext.PolicyRecords
