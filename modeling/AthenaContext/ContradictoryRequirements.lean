import AthenaContext.Dictionaries
import AthenaContext.NarrowingFolds
import AthenaContext.PolicyRecords
import AthenaContext.ResidualRisk
import AthenaContext.RoleExclusivity
import AthenaContext.ThresholdBounds
import Mathlib

/-!
# Contradictory requirements

The requirements that the constraints of a resolved profile put on its roles, objectives and
relationships. The fold over the constraints accepts exactly when every role has a
cardinality, every objective a value and every relationship a kind that meets all of them, in
whatever order the constraints come.
-/

namespace AthenaContext.ContradictoryRequirements

open Dictionaries NarrowingFolds PolicyRecords RoleResolution TextNormalization
open ThresholdBounds FallibleResults

/-- `kind` of a declared relationship. -/
inductive RelationshipKind
  | requires | dependsOn | calls | storesDataIn | replicatesTo | failsOverTo | sharesZoneWith
  | isolatedFrom | monitors | protectedBy | prohibited
  deriving DecidableEq, Repr

/-- A `DeclaredManifestRelationship` with its kind. -/
structure KindedRelationship extends DeclaredManifestRelationship where
  kind : RelationshipKind

section Profile

variable (unicode : UnicodeTables)

def relationshipKey (relationship : KindedRelationship) : Text :=
  normalizedId unicode relationship.relationshipId

/-- `endpoint_key`. -/
def endpointKey : ManifestEndpoint → Text
  | .role roleRef => "role:".toList ++ normalizedId unicode roleRef
  | .external externalRef => "external:".toList ++ normalizedId unicode externalRef

/-- The endpoint pair of a relationship. -/
def edge (relationship : KindedRelationship) : Text × Text :=
  (endpointKey unicode relationship.source, endpointKey unicode relationship.target)

/-- The part of a `ResolvedManifestProfile` that the requirements are about. The merge of the
inheritance chain keeps one item under an identifier, and the digest of the profile has no
text for a threshold that is not finite. -/
structure RequirementProfile where
  roles : List (ManifestRole unicode)
  relationships : List KindedRelationship
  constraints : List ManifestConstraint
  objectives : List Text
  roles_unique : (roles.map roleKey).Nodup
  relationships_unique : (relationships.map (relationshipKey unicode)).Nodup
  thresholds_finite : ∀ constraint ∈ constraints, ∀ objectiveRef comparison threshold,
    constraint.proofRequirement = .objectiveThreshold objectiveRef comparison threshold →
      ∃ value, threshold = .finite value

end Profile

variable {unicode : UnicodeTables} (profile : RequirementProfile unicode)

/-! ## The check -/

/-- What the loop keeps under the normalized identifiers. -/
structure Requirements where
  cardinalityBounds : Dictionary Text (ℕ × ℕ)
  relationshipRequirements : Dictionary Text (List ConstraintType)
  objectiveBounds : Dictionary Text (Bounds ℚ)

/-- The bounds of the roles themselves. -/
def roleBounds : Dictionary Text (ℕ × ℕ) where
  entries := profile.roles.map fun role => (roleKey role, cardinalityBounds role.cardinality)
  distinct := by
    rw [List.map_map]
    exact profile.roles_unique

/-- `declared_relationships`. -/
def declaredRelationships : Dictionary Text KindedRelationship where
  entries := profile.relationships.map fun item => (relationshipKey unicode item, item)
  distinct := by
    rw [List.map_map]
    exact profile.relationships_unique

/-- A comparison that bounds from below, and whether its threshold is included. -/
def fromBelow : ObjectiveComparison → Option Bool
  | .gt => some false
  | .gte => some true
  | .eq => some true
  | _ => none

/-- A comparison that bounds from above, and whether its threshold is included. -/
def fromAbove : ObjectiveComparison → Option Bool
  | .lt => some false
  | .lte => some true
  | .eq => some true
  | _ => none

/-- A limit and a comparison, where that bounds on its side. -/
def tightened {α : Type} [LinearOrder α] (l : Limit α) (threshold : α) : Option Bool → Limit α
  | none => l
  | some inclusive => l.tighten threshold inclusive

/-- The bounds of an objective and a further comparison. -/
def tightenBounds (b : Bounds ℚ) (comparison : ObjectiveComparison) (threshold : ℚ) : Bounds ℚ :=
  ⟨tightened b.lower threshold (fromBelow comparison),
    tightened b.upper (OrderDual.toDual threshold) (fromAbove comparison)⟩

/-- The relationship is of a kind that the type of the constraint rules out. -/
def KindContradicts (type : ConstraintType) (kind : RelationshipKind) : Prop :=
  (type = .dependencyRequired ∧ kind = .prohibited) ∨
    (type = .dependencyProhibited ∧ kind ≠ .prohibited)

instance (type : ConstraintType) (kind : RelationshipKind) : Decidable (KindContradicts type kind) :=
  inferInstanceAs (Decidable (_ ∨ _))

/-- One constraint of the loop. -/
def requireConstraint (s : Requirements) (constraint : ManifestConstraint) :
    Except String Requirements :=
  match constraint.proofRequirement with
  | .cardinality roleRef expected =>
    let roleId := normalizedId unicode roleRef
    match s.cardinalityBounds.get? roleId with
    | none => .error "KeyError"
    | some current =>
      let required := cardinalityBounds expected
      let intersection := (max current.1 required.1, min current.2 required.2)
      if intersection.2 < intersection.1 then
        .error ("contradictory cardinality requirements for role " ++ String.ofList roleRef)
      else .ok { s with cardinalityBounds := s.cardinalityBounds.set roleId intersection }
  | .relationshipPresence declaredRelationshipRef =>
    let relationshipId := normalizedId unicode declaredRelationshipRef
    let requirements := (s.relationshipRequirements.get? relationshipId).getD []
    match (declaredRelationships profile).get? relationshipId with
    | none => .error "KeyError"
    | some relationship =>
      if KindContradicts constraint.constraintType relationship.kind then
        .error "relationship kind contradicts its presence requirement"
      else
        .ok { s with
          relationshipRequirements := s.relationshipRequirements.set relationshipId
            (requirements.insert constraint.constraintType) }
  | .objectiveThreshold objectiveRef comparison (.finite threshold) =>
    let objectiveId := normalizedId unicode objectiveRef
    let b := tightenBounds ((s.objectiveBounds.get? objectiveId).getD .free) comparison threshold
    if b.isCrossed then
      .error ("contradictory objective requirements for " ++ String.ofList objectiveRef)
    else .ok { s with objectiveBounds := s.objectiveBounds.set objectiveId b }
  | .objectiveThreshold _ _ _ => .error "non-finite JSON numbers are invalid"
  | _ => .ok s

/-- `positive_edges`. -/
def positiveEdges : List (Text × Text) :=
  (profile.relationships.filter fun item => item.kind ≠ .prohibited).map (edge unicode)

/-- `prohibited_edges`. -/
def prohibitedEdges : List (Text × Text) :=
  (profile.relationships.filter fun item => item.kind = .prohibited).map (edge unicode)

/-- A relationship is required and prohibited. -/
def requiresBoth (s : Requirements) : Bool :=
  s.relationshipRequirements.values.any fun requirements =>
    requirements.contains .dependencyRequired && requirements.contains .dependencyProhibited

/-- `_validate_contradictory_requirements`. -/
def validateContradictoryRequirements : Except String Unit := do
  let s ← profile.constraints.foldlM (requireConstraint profile) ⟨roleBounds profile, .empty, .empty⟩
  if requiresBoth s then
    .error "contradictory required and prohibited relationship requirements"
  else if (positiveEdges profile).any fun edge => (prohibitedEdges profile).contains edge then
    .error "contradictory declared and prohibited relationship requirements"
  else .ok ()

/-! ## What the constraints require -/

/-- A number of resources that a cardinality takes. -/
def InRange (cardinality : ManifestCardinality) (n : ℕ) : Prop :=
  (cardinalityBounds cardinality).1 ≤ n ∧ n ≤ (cardinalityBounds cardinality).2

/-- A value that compares to a threshold. -/
def Compares : ObjectiveComparison → ℚ → ℚ → Prop
  | .lt, value, threshold => value < threshold
  | .lte, value, threshold => value ≤ threshold
  | .gt, value, threshold => threshold < value
  | .gte, value, threshold => threshold ≤ value
  | .eq, value, threshold => value = threshold

/-- Two endpoints of one kind with one normalized identifier. -/
def SameEndpoint (unicode : UnicodeTables) : ManifestEndpoint → ManifestEndpoint → Prop
  | .role a, .role b => normalizedId unicode a = normalizedId unicode b
  | .external a, .external b => normalizedId unicode a = normalizedId unicode b
  | _, _ => False

/-- The references of a constraint exist. -/
def Resolves (constraint : ManifestConstraint) : Prop :=
  match constraint.proofRequirement with
  | .cardinality roleRef _ => ∃ role ∈ profile.roles, roleKey role = normalizedId unicode roleRef
  | .relationshipPresence ref =>
    ∃ item ∈ profile.relationships, relationshipKey unicode item = normalizedId unicode ref
  | .objectiveThreshold objectiveRef _ _ =>
    ∃ objective ∈ profile.objectives, normalizedId unicode objective = normalizedId unicode objectiveRef
  | _ => True

/-- A constraint requires of a role what it takes. -/
def AdmitsRole (unicode : UnicodeTables) (constraint : ManifestConstraint) (roleId : Text) (n : ℕ) : Prop :=
  ∀ roleRef expected, constraint.proofRequirement = .cardinality roleRef expected →
    normalizedId unicode roleRef = roleId → InRange expected n

/-- A constraint requires of an objective what it compares to. -/
def AdmitsObjective (unicode : UnicodeTables) (constraint : ManifestConstraint) (objectiveId : Text) (value : ℚ) : Prop :=
  ∀ objectiveRef comparison threshold,
    constraint.proofRequirement = .objectiveThreshold objectiveRef comparison (.finite threshold) →
    normalizedId unicode objectiveRef = objectiveId → Compares comparison value threshold

/-- A constraint is about the presence of a relationship. -/
def IsAbout (unicode : UnicodeTables) (constraint : ManifestConstraint) (relationshipId : Text) : Prop :=
  ∃ ref, constraint.proofRequirement = .relationshipPresence ref ∧
    normalizedId unicode ref = relationshipId

/-- No two requirements contradict each other. -/
structure Consistent : Prop where
  cardinality : ∀ role ∈ profile.roles, ∃ n, InRange role.cardinality n ∧
    ∀ constraint ∈ profile.constraints, AdmitsRole unicode constraint (roleKey role) n
  objectives : ∀ objective ∈ profile.objectives, ∃ value,
    ∀ constraint ∈ profile.constraints,
      AdmitsObjective unicode constraint (normalizedId unicode objective) value
  exclusive : ∀ item ∈ profile.relationships, ∀ required ∈ profile.constraints,
    ∀ prohibited ∈ profile.constraints,
      ¬ (required.constraintType = .dependencyRequired ∧
        IsAbout unicode required (relationshipKey unicode item) ∧
        prohibited.constraintType = .dependencyProhibited ∧
        IsAbout unicode prohibited (relationshipKey unicode item))
  kinds : ∀ item ∈ profile.relationships, ∀ constraint ∈ profile.constraints,
    IsAbout unicode constraint (relationshipKey unicode item) →
      (constraint.constraintType = .dependencyRequired → item.kind ≠ .prohibited) ∧
      (constraint.constraintType = .dependencyProhibited → item.kind = .prohibited)
  edges : ∀ item ∈ profile.relationships, ∀ other ∈ profile.relationships,
    item.kind = .prohibited → other.kind ≠ .prohibited →
      ¬ (SameEndpoint unicode item.source other.source ∧ SameEndpoint unicode item.target other.target)

/-! ## The loop narrows -/

/-- What the requirements are about. -/
inductive Variable
  | role (roleId : Text)
  | objective (objectiveId : Text)
  | relationship (relationshipId : Text)

/-- A number of resources, a value, or nothing to choose. -/
def Variable.Value : Variable → Type
  | .role _ => ℕ
  | .objective _ => ℚ
  | .relationship _ => Unit

/-- What the state of the loop leaves. -/
def allowed (s : Requirements) : (v : Variable) → Set v.Value
  | .role roleId => { n : ℕ | ∀ b, s.cardinalityBounds.get? roleId = some b → b.1 ≤ n ∧ n ≤ b.2 }
  | .objective objectiveId =>
    { x : ℚ | ((s.objectiveBounds.get? objectiveId).getD Bounds.free).Contains x }
  | .relationship _ => Set.univ

/-- What a constraint admits. -/
def admitted (constraint : ManifestConstraint) : (v : Variable) → Set v.Value
  | .role roleId => { n : ℕ | AdmitsRole unicode constraint roleId n }
  | .objective objectiveId => { x : ℚ | AdmitsObjective unicode constraint objectiveId x }
  | .relationship relationshipId =>
    { _u : Unit | IsAbout unicode constraint relationshipId →
      ∀ item, (declaredRelationships profile).get? relationshipId = some item →
        ¬ KindContradicts constraint.constraintType item.kind }

/-- Every role has bounds, and the requirements kept agree with the kinds. -/
structure Holds (s : Requirements) : Prop where
  roles : ∀ role ∈ profile.roles, ∃ b, s.cardinalityBounds.get? (roleKey role) = some b
  kinds : ∀ relationshipId types, s.relationshipRequirements.get? relationshipId = some types →
    ∃ item, (declaredRelationships profile).get? relationshipId = some item ∧
      ∀ type ∈ types, ¬ KindContradicts type item.kind

/-- A constraint of the profile: its references exist and its threshold is finite. -/
structure Proper (constraint : ManifestConstraint) : Prop where
  resolves : Resolves profile constraint
  finite : ∀ objectiveRef comparison threshold,
    constraint.proofRequirement = .objectiveThreshold objectiveRef comparison threshold →
      ∃ value, threshold = .finite value

variable {profile} {s t : Requirements} {constraint : ManifestConstraint} {id : Text}

theorem compares_iff {comparison : ObjectiveComparison} {x threshold : ℚ} :
    Compares comparison x threshold ↔
      (∀ inclusive, fromBelow comparison = some inclusive → Limit.Passes threshold inclusive x) ∧
      ∀ inclusive, fromAbove comparison = some inclusive →
        Limit.Passes (OrderDual.toDual threshold) inclusive (OrderDual.toDual x) := by
  cases comparison with
  | lt => simp [Compares, fromBelow, fromAbove, Limit.Passes]
  | lte => simp [Compares, fromBelow, fromAbove, Limit.Passes, le_iff_lt_or_eq, eq_comm]
  | gt => simp [Compares, fromBelow, fromAbove, Limit.Passes]
  | gte => simp [Compares, fromBelow, fromAbove, Limit.Passes, le_iff_lt_or_eq]
  | eq =>
    simp only [Compares, fromBelow, fromAbove, Option.some.injEq, forall_eq', Limit.Passes,
      true_and, OrderDual.toDual_lt_toDual, EmbeddingLike.apply_eq_iff_eq]
    constructor
    · rintro rfl
      exact ⟨.inr rfl, .inr rfl⟩
    · rintro ⟨hlow | hlow, hhigh | hhigh⟩
      · exact absurd hlow hhigh.asymm
      · exact hhigh.symm
      · exact hlow.symm
      · exact hlow.symm

theorem allows_tightened {α : Type} [LinearOrder α] {l : Limit α} {threshold x : α}
    {side : Option Bool} : (tightened l threshold side).Allows x ↔
      l.Allows x ∧ ∀ inclusive, side = some inclusive → Limit.Passes threshold inclusive x := by
  cases side with
  | none => simp [tightened]
  | some inclusive => simp [tightened, Limit.allows_tighten]

/-- Bounds and a comparison leave what the bounds leave and compares. -/
theorem contains_tightenBounds {b : Bounds ℚ} {comparison : ObjectiveComparison} {x threshold : ℚ} :
    (tightenBounds b comparison threshold).Contains x ↔
      b.Contains x ∧ Compares comparison x threshold := by
  rw [compares_iff, Bounds.Contains, Bounds.Contains, tightenBounds, allows_tightened,
    allows_tightened]
  exact and_and_and_comm

theorem admitsRole_cardinality {roleRef : Text} {expected : ManifestCardinality} {n : ℕ}
    (hp : constraint.proofRequirement = .cardinality roleRef expected) :
    AdmitsRole unicode constraint id n ↔ (normalizedId unicode roleRef = id → InRange expected n) := by
  constructor
  · intro h
    exact h roleRef expected hp
  · intro h roleRef' expected' hp'
    rw [hp] at hp'
    cases hp'
    exact h

theorem admitsObjective_threshold {objectiveRef : Text} {comparison : ObjectiveComparison}
    {x threshold : ℚ}
    (hp : constraint.proofRequirement = .objectiveThreshold objectiveRef comparison (.finite threshold)) :
    AdmitsObjective unicode constraint id x ↔
      (normalizedId unicode objectiveRef = id → Compares comparison x threshold) := by
  constructor
  · intro h
    exact h objectiveRef comparison threshold hp
  · intro h objectiveRef' comparison' threshold' hp'
    rw [hp] at hp'
    cases hp'
    exact h

theorem isAbout_presence {ref : Text} (hp : constraint.proofRequirement = .relationshipPresence ref) :
    IsAbout unicode constraint id ↔ normalizedId unicode ref = id := by
  constructor
  · rintro ⟨ref', hp', hid⟩
    rw [hp] at hp'
    cases hp'
    exact hid
  · intro hid
    exact ⟨ref, hp, hid⟩

/-- A constraint about no role admits every number. -/
theorem admitsRole_of_other {n : ℕ}
    (hp : ∀ roleRef expected, constraint.proofRequirement ≠ .cardinality roleRef expected) :
    AdmitsRole unicode constraint id n :=
  fun roleRef expected h => absurd h (hp roleRef expected)

theorem admitsObjective_of_other {x : ℚ}
    (hp : ∀ objectiveRef comparison threshold,
      constraint.proofRequirement ≠ .objectiveThreshold objectiveRef comparison threshold) :
    AdmitsObjective unicode constraint id x :=
  fun objectiveRef comparison threshold h => absurd h (hp objectiveRef comparison (.finite threshold))

theorem not_isAbout_of_other (hp : ∀ ref, constraint.proofRequirement ≠ .relationshipPresence ref) :
    ¬ IsAbout unicode constraint id := by
  rintro ⟨ref, h, -⟩
  exact hp ref h

/-! ### Cardinalities -/

theorem inRange_intersection {current : ℕ × ℕ} {expected : ManifestCardinality} {n : ℕ} :
    (max current.1 (cardinalityBounds expected).1 ≤ n ∧
      n ≤ min current.2 (cardinalityBounds expected).2) ↔
    (current.1 ≤ n ∧ n ≤ current.2) ∧ InRange expected n := by
  rw [InRange]
  omega

/-- A cardinality constraint on a role whose bounds are known. -/
theorem require_cardinality {roleRef : Text} {expected : ManifestCardinality} {current : ℕ × ℕ}
    (hp : constraint.proofRequirement = .cardinality roleRef expected)
    (hget : s.cardinalityBounds.get? (normalizedId unicode roleRef) = some current) :
    requireConstraint profile s constraint =
      if min current.2 (cardinalityBounds expected).2 < max current.1 (cardinalityBounds expected).1 then
        .error ("contradictory cardinality requirements for role " ++ String.ofList roleRef)
      else
        .ok { s with
          cardinalityBounds := s.cardinalityBounds.set (normalizedId unicode roleRef)
            (max current.1 (cardinalityBounds expected).1,
              min current.2 (cardinalityBounds expected).2) } := by
  simp only [requireConstraint, hp, hget]

theorem cardinality_keeps {roleRef : Text} {expected : ManifestCardinality} {current : ℕ × ℕ}
    (hs : Holds profile s) (hp : constraint.proofRequirement = .cardinality roleRef expected)
    (hget : s.cardinalityBounds.get? (normalizedId unicode roleRef) = some current)
    (hstep : requireConstraint profile s constraint = .ok t) :
    Holds profile t ∧ ∀ v, allowed t v = allowed s v ∩ admitted profile constraint v := by
  rw [require_cardinality hp hget, ite_error_ok_iff] at hstep
  obtain ⟨-, ht⟩ := hstep
  cases ht
  refine ⟨⟨fun role hrole => ?_, hs.kinds⟩, fun v => ?_⟩
  · by_cases hkey : roleKey role = normalizedId unicode roleRef
    · rw [hkey]
      exact ⟨_, Dictionary.get?_set_self⟩
    · obtain ⟨b, hb⟩ := hs.roles role hrole
      exact ⟨b, (Dictionary.get?_set_of_ne hkey).trans hb⟩
  · cases v with
    | role id =>
      refine Set.ext fun (n : ℕ) => ?_
      change (∀ b, (s.cardinalityBounds.set _ _).get? id = some b → b.1 ≤ n ∧ n ≤ b.2) ↔
        (∀ b, s.cardinalityBounds.get? id = some b → b.1 ≤ n ∧ n ≤ b.2) ∧
          AdmitsRole unicode constraint id n
      rw [admitsRole_cardinality hp]
      by_cases hkey : id = normalizedId unicode roleRef
      · subst hkey
        simp only [Dictionary.get?_set_self, hget, Option.some.injEq, forall_eq', true_implies]
        exact inRange_intersection
      · rw [Dictionary.get?_set_of_ne hkey]
        exact ⟨fun h => ⟨h, fun he => absurd he.symm hkey⟩, fun h => h.1⟩
    | objective id =>
      refine (Set.inter_eq_left.mpr fun x _ => ?_).symm
      exact admitsObjective_of_other fun _ _ _ h => by rw [hp] at h; cases h
    | relationship id =>
      refine (Set.inter_eq_left.mpr fun u _ => ?_).symm
      exact fun habout => absurd habout (not_isAbout_of_other fun _ h => by rw [hp] at h; cases h)

theorem cardinality_succeeds {roleRef : Text} {expected : ManifestCardinality} {current : ℕ × ℕ}
    (hs : Holds profile s) (hp : constraint.proofRequirement = .cardinality roleRef expected)
    (hget : s.cardinalityBounds.get? (normalizedId unicode roleRef) = some current)
    (hne : ∀ v, (allowed s v).Nonempty) :
    (∃ t, requireConstraint profile s constraint = .ok t) ↔
      ∀ v, (allowed s v ∩ admitted profile constraint v).Nonempty := by
  constructor
  · rintro ⟨t, hstep⟩ v
    have hkeeps := cardinality_keeps hs hp hget hstep
    rw [← hkeeps.2 v]
    rw [require_cardinality hp hget, ite_error_ok_iff, not_lt] at hstep
    obtain ⟨hle, ht⟩ := hstep
    cases ht
    cases v with
    | role id =>
      by_cases hkey : id = normalizedId unicode roleRef
      · subst hkey
        let n : ℕ := max current.1 (cardinalityBounds expected).1
        refine ⟨n, fun b hb => ?_⟩
        rw [Dictionary.get?_set_self] at hb
        cases hb
        exact ⟨le_refl _, hle⟩
      · obtain ⟨n, hn⟩ := hne (.role id)
        refine ⟨n, fun b hb => hn b ?_⟩
        rwa [Dictionary.get?_set_of_ne hkey] at hb
    | objective id => exact hne (.objective id)
    | relationship id => exact hne (.relationship id)
  · intro h
    obtain ⟨(n : ℕ), hn, hadmits⟩ := h (.role (normalizedId unicode roleRef))
    have hrange : InRange expected n := (admitsRole_cardinality hp).mp hadmits rfl
    have hboth := inRange_intersection.mpr ⟨hn current hget, hrange⟩
    rw [require_cardinality hp hget, if_neg (not_lt.mpr (hboth.1.trans hboth.2))]
    exact ⟨_, rfl⟩

/-! ### Objectives -/

theorem require_objective {objectiveRef : Text} {comparison : ObjectiveComparison} {threshold : ℚ}
    (hp : constraint.proofRequirement = .objectiveThreshold objectiveRef comparison (.finite threshold)) :
    requireConstraint profile s constraint =
      if (tightenBounds ((s.objectiveBounds.get? (normalizedId unicode objectiveRef)).getD .free)
          comparison threshold).isCrossed = true then
        .error ("contradictory objective requirements for " ++ String.ofList objectiveRef)
      else
        .ok { s with
          objectiveBounds := s.objectiveBounds.set (normalizedId unicode objectiveRef)
            (tightenBounds ((s.objectiveBounds.get? (normalizedId unicode objectiveRef)).getD .free)
              comparison threshold) } := by
  simp only [requireConstraint, hp]

theorem objective_keeps {objectiveRef : Text} {comparison : ObjectiveComparison} {threshold : ℚ}
    (hs : Holds profile s)
    (hp : constraint.proofRequirement = .objectiveThreshold objectiveRef comparison (.finite threshold))
    (hstep : requireConstraint profile s constraint = .ok t) :
    Holds profile t ∧ ∀ v, allowed t v = allowed s v ∩ admitted profile constraint v := by
  rw [require_objective hp, ite_error_ok_iff] at hstep
  obtain ⟨-, ht⟩ := hstep
  cases ht
  refine ⟨⟨hs.roles, hs.kinds⟩, fun v => ?_⟩
  cases v with
  | role id =>
    refine (Set.inter_eq_left.mpr fun n _ => ?_).symm
    exact admitsRole_of_other fun _ _ h => by rw [hp] at h; cases h
  | objective id =>
    refine Set.ext fun (x : ℚ) => ?_
    change (((s.objectiveBounds.set _ _).get? id).getD Bounds.free).Contains x ↔
      ((s.objectiveBounds.get? id).getD Bounds.free).Contains x ∧
        AdmitsObjective unicode constraint id x
    rw [admitsObjective_threshold hp]
    by_cases hkey : id = normalizedId unicode objectiveRef
    · subst hkey
      rw [Dictionary.get?_set_self, Option.getD_some, contains_tightenBounds]
      exact and_congr_right fun _ => ⟨fun h _ => h, fun h => h rfl⟩
    · rw [Dictionary.get?_set_of_ne hkey]
      exact ⟨fun h => ⟨h, fun he => absurd he.symm hkey⟩, fun h => h.1⟩
  | relationship id =>
    refine (Set.inter_eq_left.mpr fun u _ => ?_).symm
    exact fun habout => absurd habout (not_isAbout_of_other fun _ h => by rw [hp] at h; cases h)

theorem objective_succeeds {objectiveRef : Text} {comparison : ObjectiveComparison} {threshold : ℚ}
    (hs : Holds profile s)
    (hp : constraint.proofRequirement = .objectiveThreshold objectiveRef comparison (.finite threshold))
    (hne : ∀ v, (allowed s v).Nonempty) :
    (∃ t, requireConstraint profile s constraint = .ok t) ↔
      ∀ v, (allowed s v ∩ admitted profile constraint v).Nonempty := by
  constructor
  · rintro ⟨t, hstep⟩ v
    have hkeeps := objective_keeps hs hp hstep
    rw [← hkeeps.2 v]
    rw [require_objective hp, ite_error_ok_iff, Bool.not_eq_true] at hstep
    obtain ⟨huncrossed, ht⟩ := hstep
    cases ht
    cases v with
    | role id => exact hne (.role id)
    | objective id =>
      by_cases hkey : id = normalizedId unicode objectiveRef
      · subst hkey
        obtain ⟨x, hx⟩ := Bounds.isCrossed_eq_false_iff.mp huncrossed
        refine ⟨x, ?_⟩
        change (((s.objectiveBounds.set _ _).get? _).getD Bounds.free).Contains x
        rw [Dictionary.get?_set_self]
        exact hx
      · obtain ⟨x, hx⟩ := hne (.objective id)
        refine ⟨x, ?_⟩
        change (((s.objectiveBounds.set _ _).get? id).getD Bounds.free).Contains x
        rw [Dictionary.get?_set_of_ne hkey]
        exact hx
    | relationship id => exact hne (.relationship id)
  · intro h
    obtain ⟨(x : ℚ), hx, hadmits⟩ := h (.objective (normalizedId unicode objectiveRef))
    have hcompares : Compares comparison x threshold := (admitsObjective_threshold hp).mp hadmits rfl
    have huncrossed : (tightenBounds ((s.objectiveBounds.get? (normalizedId unicode objectiveRef)).getD
        .free) comparison threshold).isCrossed = false :=
      Bounds.isCrossed_eq_false_iff.mpr ⟨x, contains_tightenBounds.mpr ⟨hx, hcompares⟩⟩
    rw [require_objective hp, huncrossed]
    exact ⟨_, rfl⟩

/-! ### Relationships -/

theorem require_relationship {ref : Text} {item : KindedRelationship}
    (hp : constraint.proofRequirement = .relationshipPresence ref)
    (hget : (declaredRelationships profile).get? (normalizedId unicode ref) = some item) :
    requireConstraint profile s constraint =
      if KindContradicts constraint.constraintType item.kind then
        .error "relationship kind contradicts its presence requirement"
      else .ok { s with
        relationshipRequirements := s.relationshipRequirements.set (normalizedId unicode ref)
          (((s.relationshipRequirements.get? (normalizedId unicode ref)).getD []).insert
            constraint.constraintType) } := by
  simp only [requireConstraint, hp, hget]

theorem relationship_keeps {ref : Text} {item : KindedRelationship} (hs : Holds profile s)
    (hp : constraint.proofRequirement = .relationshipPresence ref)
    (hget : (declaredRelationships profile).get? (normalizedId unicode ref) = some item)
    (hstep : requireConstraint profile s constraint = .ok t) :
    Holds profile t ∧ ∀ v, allowed t v = allowed s v ∩ admitted profile constraint v := by
  rw [require_relationship hp hget, ite_error_ok_iff] at hstep
  obtain ⟨hagrees, ht⟩ := hstep
  cases ht
  refine ⟨⟨hs.roles, fun id types hid => ?_⟩, fun v => ?_⟩
  · by_cases hkey : id = normalizedId unicode ref
    · subst hkey
      rw [Dictionary.get?_set_self] at hid
      cases hid
      refine ⟨item, hget, fun type htype => ?_⟩
      rcases List.mem_insert_iff.mp htype with rfl | hold
      · exact hagrees
      · cases hbefore : s.relationshipRequirements.get? (normalizedId unicode ref) with
        | none =>
          rw [hbefore] at hold
          cases hold
        | some types =>
          rw [hbefore] at hold
          obtain ⟨item', hget', hkinds⟩ := hs.kinds _ types hbefore
          rw [hget] at hget'
          cases hget'
          exact hkinds type hold
    · rw [Dictionary.get?_set_of_ne hkey] at hid
      exact hs.kinds id types hid
  · cases v with
    | role id =>
      refine (Set.inter_eq_left.mpr fun n _ => ?_).symm
      exact admitsRole_of_other fun _ _ h => by rw [hp] at h; cases h
    | objective id =>
      refine (Set.inter_eq_left.mpr fun x _ => ?_).symm
      exact admitsObjective_of_other fun _ _ _ h => by rw [hp] at h; cases h
    | relationship id =>
      refine (Set.inter_eq_left.mpr fun u _ => ?_).symm
      intro habout item' hitem'
      rw [← (isAbout_presence hp).mp habout, hget] at hitem'
      cases hitem'
      exact hagrees

theorem relationship_succeeds {ref : Text} {item : KindedRelationship} (hs : Holds profile s)
    (hp : constraint.proofRequirement = .relationshipPresence ref)
    (hget : (declaredRelationships profile).get? (normalizedId unicode ref) = some item)
    (hne : ∀ v, (allowed s v).Nonempty) :
    (∃ t, requireConstraint profile s constraint = .ok t) ↔
      ∀ v, (allowed s v ∩ admitted profile constraint v).Nonempty := by
  constructor
  · rintro ⟨t, hstep⟩ v
    have hkeeps := relationship_keeps hs hp hget hstep
    rw [← hkeeps.2 v]
    rw [require_relationship hp hget, ite_error_ok_iff] at hstep
    obtain ⟨-, ht⟩ := hstep
    cases ht
    cases v with
    | role id => exact hne (.role id)
    | objective id => exact hne (.objective id)
    | relationship id => exact ⟨(), trivial⟩
  · intro h
    obtain ⟨u, -, hadmits⟩ := h (.relationship (normalizedId unicode ref))
    have hagrees := hadmits ((isAbout_presence hp).mpr rfl) item hget
    rw [require_relationship hp hget, if_neg hagrees]
    exact ⟨_, rfl⟩

/-! ### All constraints -/

theorem get?_declaredRelationships {item : KindedRelationship} (h : item ∈ profile.relationships) :
    (declaredRelationships profile).get? (relationshipKey unicode item) = some item :=
  lookup_of_mem (declaredRelationships profile).distinct
    (List.mem_map_of_mem (f := fun item => (relationshipKey unicode item, item)) h)

theorem mem_of_get?_declaredRelationships {item : KindedRelationship}
    (h : (declaredRelationships profile).get? id = some item) :
    item ∈ profile.relationships ∧ relationshipKey unicode item = id := by
  obtain ⟨item', hmem, he⟩ := List.mem_map.mp (mem_of_lookup h)
  obtain ⟨hkey, rfl⟩ := Prod.mk.inj he
  exact ⟨hmem, hkey⟩

/-- A constraint that is none of the three changes nothing and admits everything. -/
theorem other_narrows (hcardinality : ∀ ref expected, constraint.proofRequirement ≠ .cardinality ref expected)
    (hpresence : ∀ ref, constraint.proofRequirement ≠ .relationshipPresence ref)
    (hobjective : ∀ ref comparison threshold,
      constraint.proofRequirement ≠ .objectiveThreshold ref comparison threshold) :
    requireConstraint profile s constraint = .ok s ∧
      ∀ v, allowed s v = allowed s v ∩ admitted profile constraint v := by
  constructor
  · unfold requireConstraint
    split
    · rename_i h
      exact absurd h (hcardinality _ _)
    · rename_i h
      exact absurd h (hpresence _)
    · rename_i h
      exact absurd h (hobjective _ _ _)
    · rename_i h
      exact absurd h (hobjective _ _ _)
    · rfl
  · intro v
    refine (Set.inter_eq_left.mpr fun u _ => ?_).symm
    cases v with
    | role id => exact admitsRole_of_other hcardinality
    | objective id => exact admitsObjective_of_other hobjective
    | relationship id => exact fun habout => absurd habout (not_isAbout_of_other hpresence)

/-- The loop narrows what its constraints admit. -/
theorem narrows : Narrows (requireConstraint profile) (Holds profile) (Proper profile) allowed
    (admitted profile) := by
  constructor
  · intro s constraint t hs hproper hstep
    cases hp : constraint.proofRequirement with
    | cardinality roleRef expected =>
      have hrole := hproper.resolves
      rw [Resolves, hp] at hrole
      obtain ⟨role, hmem, hkey⟩ := hrole
      obtain ⟨current, hget⟩ := hs.roles role hmem
      rw [hkey] at hget
      exact cardinality_keeps hs hp hget hstep
    | relationshipPresence ref =>
      have hitem := hproper.resolves
      rw [Resolves, hp] at hitem
      obtain ⟨item, hmem, hkey⟩ := hitem
      have hget := get?_declaredRelationships hmem
      rw [hkey] at hget
      exact relationship_keeps hs hp hget hstep
    | objectiveThreshold objectiveRef comparison threshold =>
      obtain ⟨value, rfl⟩ := hproper.finite _ _ _ hp
      exact objective_keeps hs hp hstep
    | _ =>
      have hother : requireConstraint profile s constraint = .ok s ∧
          ∀ v, allowed s v = allowed s v ∩ admitted profile constraint v := other_narrows
        (fun _ _ h => by rw [hp] at h; cases h) (fun _ h => by rw [hp] at h; cases h)
        (fun _ _ _ h => by rw [hp] at h; cases h)
      rw [hother.1] at hstep
      cases hstep
      exact ⟨hs, hother.2⟩
  · intro s constraint hs hproper hne
    cases hp : constraint.proofRequirement with
    | cardinality roleRef expected =>
      have hrole := hproper.resolves
      rw [Resolves, hp] at hrole
      obtain ⟨role, hmem, hkey⟩ := hrole
      obtain ⟨current, hget⟩ := hs.roles role hmem
      rw [hkey] at hget
      exact cardinality_succeeds hs hp hget hne
    | relationshipPresence ref =>
      have hitem := hproper.resolves
      rw [Resolves, hp] at hitem
      obtain ⟨item, hmem, hkey⟩ := hitem
      have hget := get?_declaredRelationships hmem
      rw [hkey] at hget
      exact relationship_succeeds hs hp hget hne
    | objectiveThreshold objectiveRef comparison threshold =>
      obtain ⟨value, rfl⟩ := hproper.finite _ _ _ hp
      exact objective_succeeds hs hp hne
    | _ =>
      have hother : requireConstraint profile s constraint = .ok s ∧
          ∀ v, allowed s v = allowed s v ∩ admitted profile constraint v := other_narrows
        (fun _ _ h => by rw [hp] at h; cases h) (fun _ h => by rw [hp] at h; cases h)
        (fun _ _ _ h => by rw [hp] at h; cases h)
      refine iff_of_true ⟨s, hother.1⟩ fun v => ?_
      rw [← hother.2 v]
      exact hne v

/-! ## Acceptance -/

variable (profile) in
/-- Where the loop starts. -/
def start : Requirements := ⟨roleBounds profile, .empty, .empty⟩

theorem get?_roleBounds {role : ManifestRole unicode} (h : role ∈ profile.roles) :
    (roleBounds profile).get? (roleKey role) = some (cardinalityBounds role.cardinality) :=
  lookup_of_mem (roleBounds profile).distinct
    (List.mem_map_of_mem (f := fun role => (roleKey role, cardinalityBounds role.cardinality)) h)

theorem cardinalityBounds_le (cardinality : ManifestCardinality) :
    (cardinalityBounds cardinality).1 ≤ (cardinalityBounds cardinality).2 := by
  cases cardinality with
  | exactlyOne => exact le_refl _
  | oneOrMore => exact Nat.le_of_ble_eq_true rfl
  | zeroOrMore => exact Nat.zero_le _
  | boundedRange minimum maximum range => exact range.1

theorem holds_start : Holds profile (start profile) where
  roles _ hrole := ⟨_, get?_roleBounds hrole⟩
  kinds _ _ h := nomatch h

theorem allowed_start_nonempty (v : Variable) : (allowed (start profile) v).Nonempty := by
  cases v with
  | role id =>
    cases hget : (roleBounds profile).get? id with
    | none =>
      refine ⟨(0 : ℕ), fun b hb => ?_⟩
      rw [start, hget] at hb
      cases hb
    | some bounds =>
      obtain ⟨role, -, he⟩ := List.mem_map.mp (mem_of_lookup hget)
      obtain ⟨-, rfl⟩ := Prod.mk.inj he
      refine ⟨((cardinalityBounds role.cardinality).1 : ℕ), fun b hb => ?_⟩
      rw [start, hget] at hb
      cases hb
      exact ⟨le_refl _, cardinalityBounds_le role.cardinality⟩
  | objective id => exact ⟨(0 : ℚ), Bounds.contains_free⟩
  | relationship id => exact ⟨(), trivial⟩

/-- The two checks of the kinds leave nothing for the check of both types. -/
theorem not_requiresBoth (hs : Holds profile s) : requiresBoth s = false := by
  rw [requiresBoth, List.any_eq_false]
  intro types htypes hboth
  rw [Bool.and_eq_true, List.contains_iff_mem, List.contains_iff_mem] at hboth
  obtain ⟨id, hid⟩ := Dictionary.mem_values.mp htypes
  obtain ⟨item, -, hkinds⟩ := hs.kinds id types hid
  have hrequired := hkinds _ hboth.1
  have hprohibited := hkinds _ hboth.2
  by_cases hkind : item.kind = .prohibited
  · exact hrequired (.inl ⟨rfl, hkind⟩)
  · exact hprohibited (.inr ⟨rfl, hkind⟩)

theorem endpointKey_eq_iff {a b : ManifestEndpoint} :
    endpointKey unicode a = endpointKey unicode b ↔ SameEndpoint unicode a b := by
  have hmarks : ∀ x y : Text, "role:".toList ++ x ≠ "external:".toList ++ y := by
    intro x y h
    exact absurd (List.head_eq_of_cons_eq h) (by decide)
  cases a with
  | role a =>
    cases b with
    | role b => exact List.append_right_inj _
    | external b => exact iff_of_false (hmarks _ _) id
  | external a =>
    cases b with
    | role b => exact iff_of_false (hmarks _ _).symm id
    | external b => exact List.append_right_inj _

/-- No endpoint pair is in both sets of edges. -/
theorem edges_iff : ((positiveEdges profile).any fun edge => (prohibitedEdges profile).contains edge) = false ↔
    ∀ item ∈ profile.relationships, ∀ other ∈ profile.relationships,
      item.kind = .prohibited → other.kind ≠ .prohibited →
        ¬ (SameEndpoint unicode item.source other.source ∧
          SameEndpoint unicode item.target other.target) := by
  rw [List.any_eq_false]
  constructor
  · rintro h item hitem other hother hprohibited hpositive ⟨hsource, htarget⟩
    have hedge : edge unicode item = edge unicode other :=
      Prod.ext (endpointKey_eq_iff.mpr hsource) (endpointKey_eq_iff.mpr htarget)
    refine h (edge unicode other)
      (List.mem_map_of_mem (List.mem_filter.mpr ⟨hother, decide_eq_true hpositive⟩)) ?_
    rw [List.contains_iff_mem, ← hedge]
    exact List.mem_map_of_mem (List.mem_filter.mpr ⟨hitem, decide_eq_true hprohibited⟩)
  · intro h pair hpair hcontains
    rw [List.contains_iff_mem] at hcontains
    obtain ⟨other, hother, rfl⟩ := List.mem_map.mp hpair
    obtain ⟨item, hitem, hedge⟩ := List.mem_map.mp hcontains
    rw [List.mem_filter, decide_eq_true_eq] at hother hitem
    obtain ⟨hsource, htarget⟩ := Prod.mk.inj hedge
    exact h item hitem.1 other hother.1 hitem.2 hother.2
      ⟨endpointKey_eq_iff.mp hsource, endpointKey_eq_iff.mp htarget⟩

/-- The check accepts exactly when the loop succeeds and no pair of endpoints is in both sets. -/
theorem validate_ok_iff (hproper : ∀ constraint ∈ profile.constraints, Proper profile constraint) :
    validateContradictoryRequirements profile = .ok () ↔
      (∀ v, (allowed (start profile) v ∩
        admittedByAll (admitted profile) profile.constraints v).Nonempty) ∧
      ((positiveEdges profile).any fun edge => (prohibitedEdges profile).contains edge) = false := by
  have hfold := narrows.foldlM_ok_iff holds_start hproper allowed_start_nonempty
  rw [← hfold, validateContradictoryRequirements, bind_ok_iff]
  have hkept : ∀ t, profile.constraints.foldlM (requireConstraint profile) (start profile) = .ok t →
      Holds profile t := fun t ht =>
    foldlM_invariant (fun s constraint hmem s' hs hstep =>
      (narrows.keeps s constraint s' hs (hproper constraint hmem) hstep).1) holds_start ht
  constructor
  · rintro ⟨t, ht, hchecks⟩
    rw [ite_error_ok_iff, ite_error_ok_iff, Bool.not_eq_true, Bool.not_eq_true] at hchecks
    exact ⟨⟨t, ht⟩, hchecks.2.1⟩
  · rintro ⟨⟨t, ht⟩, hedges⟩
    refine ⟨t, ht, ?_⟩
    rw [not_requiresBoth (hkept t ht), hedges]
    rfl

theorem consistent_iff (hproper : ∀ constraint ∈ profile.constraints, Proper profile constraint) :
    Consistent profile ↔
      (∀ v, (allowed (start profile) v ∩
        admittedByAll (admitted profile) profile.constraints v).Nonempty) ∧
      ((positiveEdges profile).any fun edge => (prohibitedEdges profile).contains edge) = false := by
  rw [edges_iff]
  constructor
  · intro h
    refine ⟨fun v => ?_, h.edges⟩
    cases v with
    | role id =>
      cases hget : (roleBounds profile).get? id with
      | none =>
        refine ⟨(0 : ℕ), fun b hb => ?_, fun constraint hmem roleRef expected hp hid => ?_⟩
        · rw [start, hget] at hb
          cases hb
        · have hrole := (hproper constraint hmem).resolves
          rw [Resolves, hp] at hrole
          obtain ⟨role, hrole, hkey⟩ := hrole
          have hsome := get?_roleBounds hrole
          rw [hkey, hid, hget] at hsome
          cases hsome
      | some bounds =>
        obtain ⟨role, hrole, he⟩ := List.mem_map.mp (mem_of_lookup hget)
        obtain ⟨rfl, rfl⟩ := Prod.mk.inj he
        obtain ⟨n, hn, hadmits⟩ := h.cardinality role hrole
        refine ⟨n, fun b hb => ?_, fun constraint hmem => hadmits constraint hmem⟩
        rw [start, hget] at hb
        cases hb
        exact hn
    | objective id =>
      by_cases hobjective : ∃ objective ∈ profile.objectives, normalizedId unicode objective = id
      · obtain ⟨objective, hmem, rfl⟩ := hobjective
        obtain ⟨x, hx⟩ := h.objectives objective hmem
        exact ⟨x, Bounds.contains_free, fun constraint hc => hx constraint hc⟩
      · refine ⟨(0 : ℚ), Bounds.contains_free, fun constraint hc ref comparison threshold hp hid => ?_⟩
        have hresolves := (hproper constraint hc).resolves
        rw [Resolves, hp] at hresolves
        obtain ⟨objective, hmem, hkey⟩ := hresolves
        exact absurd ⟨objective, hmem, hkey.trans hid⟩ hobjective
    | relationship id =>
      refine ⟨(), trivial, fun constraint hc habout item hitem => ?_⟩
      obtain ⟨hmem, rfl⟩ := mem_of_get?_declaredRelationships hitem
      have hkinds := h.kinds item hmem constraint hc habout
      rintro (⟨htype, hkind⟩ | ⟨htype, hkind⟩)
      · exact hkinds.1 htype hkind
      · exact hkind (hkinds.2 htype)
  · rintro ⟨hall, hedges⟩
    have hkinds : ∀ item ∈ profile.relationships, ∀ constraint ∈ profile.constraints,
        IsAbout unicode constraint (relationshipKey unicode item) →
        ¬ KindContradicts constraint.constraintType item.kind := by
      intro item hitem constraint hc habout
      obtain ⟨u, -, hu⟩ := hall (.relationship (relationshipKey unicode item))
      exact hu constraint hc habout item (get?_declaredRelationships hitem)
    refine ⟨fun role hrole => ?_, fun objective hobjective => ?_,
      fun item hitem required hrequired prohibited hprohibited => ?_,
      fun item hitem constraint hc habout => ?_, hedges⟩
    · obtain ⟨n, hn, hadmits⟩ := hall (.role (roleKey role))
      exact ⟨n, hn _ (get?_roleBounds hrole), fun constraint hc => hadmits constraint hc⟩
    · obtain ⟨x, -, hx⟩ := hall (.objective (normalizedId unicode objective))
      exact ⟨x, fun constraint hc => hx constraint hc⟩
    · rintro ⟨htype, habout, htype', habout'⟩
      have hrequires := hkinds item hitem required hrequired habout
      have hprohibits := hkinds item hitem prohibited hprohibited habout'
      by_cases hkind : item.kind = .prohibited
      · exact hrequires (.inl ⟨htype, hkind⟩)
      · exact hprohibits (.inr ⟨htype', hkind⟩)
    · have hagrees := hkinds item hitem constraint hc habout
      refine ⟨fun htype hkind => hagrees (.inl ⟨htype, hkind⟩), fun htype => ?_⟩
      by_contra hkind
      exact hagrees (.inr ⟨htype, hkind⟩)

variable (profile) in
/-- The profile with its constraints in another order. -/
def reordered (constraints : List ManifestConstraint) (h : constraints.Perm profile.constraints) :
    RequirementProfile unicode :=
  { profile with
    constraints
    thresholds_finite := fun constraint hc => profile.thresholds_finite constraint (h.mem_iff.mp hc) }

/-- For a profile whose references exist, the check accepts exactly when no two requirements
contradict each other, and in every order of the constraints alike. -/
theorem contradictions_detected (h : ∀ constraint ∈ profile.constraints, Resolves profile constraint) :
    (validateContradictoryRequirements profile = .ok () ↔ Consistent profile) ∧
    ∀ constraints (hperm : constraints.Perm profile.constraints),
      validateContradictoryRequirements (reordered profile constraints hperm) = .ok () ↔
        validateContradictoryRequirements profile = .ok () := by
  have hproper : ∀ constraint ∈ profile.constraints, Proper profile constraint := fun constraint hc =>
    ⟨h constraint hc, profile.thresholds_finite constraint hc⟩
  have hdetects : validateContradictoryRequirements profile = .ok () ↔ Consistent profile :=
    (validate_ok_iff hproper).trans (consistent_iff hproper).symm
  refine ⟨hdetects, fun constraints hperm => ?_⟩
  have hproper' : ∀ constraint ∈ (reordered profile constraints hperm).constraints,
      Proper (reordered profile constraints hperm) constraint := by
    intro constraint hc
    have hbefore := hproper constraint (hperm.mem_iff.mp hc)
    exact ⟨hbefore.resolves, hbefore.finite⟩
  have hdetects' := (validate_ok_iff hproper').trans (consistent_iff hproper').symm
  rw [hdetects, hdetects']
  constructor
  · intro hc
    exact ⟨fun role hrole => by simpa only [reordered, hperm.mem_iff] using hc.cardinality role hrole,
      fun objective ho => by simpa only [reordered, hperm.mem_iff] using hc.objectives objective ho,
      fun item hitem => by simpa only [reordered, hperm.mem_iff] using hc.exclusive item hitem,
      fun item hitem => by simpa only [reordered, hperm.mem_iff] using hc.kinds item hitem, hc.edges⟩
  · intro hc
    exact ⟨fun role hrole => by simpa only [reordered, hperm.mem_iff] using hc.cardinality role hrole,
      fun objective ho => by simpa only [reordered, hperm.mem_iff] using hc.objectives objective ho,
      fun item hitem => by simpa only [reordered, hperm.mem_iff] using hc.exclusive item hitem,
      fun item hitem => by simpa only [reordered, hperm.mem_iff] using hc.kinds item hitem, hc.edges⟩

/-- The recovery objective compares to a threshold. -/
def recoveryRequired (constraintId : String) (comparison : ObjectiveComparison) (threshold : ℚ) :
    ManifestConstraint where
  constraintId := constraintId.toList
  constraintType := .objectiveRequired
  findingKind := .objective
  governanceScope := ResidualRisk.clauseScope constraintId
  ownerRef := "dba".toList
  proofRequirement := .objectiveThreshold "recovery".toList comparison (.finite threshold)
  failureVerdict := .violation
  successVerdict := .pass
  riskAcceptanceRef := none
  riskAcceptanceClauseRef := none
  proof_matches := trivial
  prohibited_fails := by decide
  clauseRef_kind := by decide

/-- A single database, a required feed, and a recovery from 15 up to below 60. -/
def recoveryConstraints : List ManifestConstraint :=
  [ResidualRisk.databaseRisk none, recoveryRequired "recovery-lowest" .gte 15,
    ResidualRisk.feedRequired, recoveryRequired "recovery-highest" .lt 60]

def recoveryProfile : RequirementProfile latinTables where
  roles := [RoleExclusivity.webRole, RoleExclusivity.dbRole]
  relationships :=
    [⟨⟨"feed".toList, .external "partner".toList, .external "bank".toList,
      "/constraints/feed-required".toList⟩, .dependsOn⟩]
  constraints := recoveryConstraints
  objectives := ["Recovery".toList]
  roles_unique := by decide
  relationships_unique := by decide
  thresholds_finite := by
    intro constraint hc objectiveRef comparison threshold hp
    simp only [recoveryConstraints, List.mem_cons, List.not_mem_nil, or_false] at hc
    rcases hc with rfl | rfl | rfl | rfl
    · cases hp
    · cases hp
      exact ⟨15, rfl⟩
    · cases hp
    · cases hp
      exact ⟨60, rfl⟩

theorem recovery_resolves : ∀ constraint ∈ recoveryProfile.constraints,
    Resolves recoveryProfile constraint := by
  intro constraint hc
  have hdb : RoleExclusivity.dbRole ∈ recoveryProfile.roles := by simp [recoveryProfile]
  have hobjective : "Recovery".toList ∈ recoveryProfile.objectives := by simp [recoveryProfile]
  simp only [recoveryProfile, recoveryConstraints, List.mem_cons, List.not_mem_nil, or_false] at hc
  rcases hc with rfl | rfl | rfl | rfl
  · exact ⟨RoleExclusivity.dbRole, hdb, by decide⟩
  · exact ⟨_, hobjective, by decide⟩
  · exact ⟨_, List.mem_singleton_self _, by decide⟩
  · exact ⟨_, hobjective, by decide⟩

/-- The requirements of the sample are consistent, and accepted in the reverse order too. -/
theorem contradictions_detected_recovery :
    Consistent recoveryProfile ∧
      validateContradictoryRequirements
        (reordered recoveryProfile recoveryConstraints.reverse (List.reverse_perm _)) = .ok () := by
  have haccepted : validateContradictoryRequirements recoveryProfile = .ok () := by decide
  have hdetected := contradictions_detected recovery_resolves
  exact ⟨hdetected.1.mp haccepted, (hdetected.2 _ (List.reverse_perm _)).mpr haccepted⟩

end AthenaContext.ContradictoryRequirements
