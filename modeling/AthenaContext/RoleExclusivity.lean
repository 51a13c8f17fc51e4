import AthenaContext.RoleResolution
import AthenaContext.SelectorDocuments
import Mathlib

/-!
# Role exclusivity

`_selectors_may_overlap`, the static check that two selectors share no resource, and
`_validate_resolved_selectors`, which refuses roles whose selectors may share one. Two
selectors that a resource record satisfies may always overlap, so the resources of the
accepted roles are disjoint. Roles are told apart by their normalized identifiers.
-/

namespace AthenaContext.RoleExclusivity

open EvidenceRecords FallibleResults ResourceIdentifiers ResourceSelectors RoleResolution
  SelectorDocuments SelectorNarrowing TextNormalization

variable {unicode : UnicodeTables}

/-! ## The overlap check -/

/-- Two lists share an element. -/
def shareElement (left right : List Text) : Bool := left.any right.elem

/-- `_normalized_filters_overlap`. -/
def normalizedFiltersOverlap (unicode : UnicodeTables) (left right : List Text) : Bool :=
  left.isEmpty || right.isEmpty ||
    shareElement (left.map (normalizedId unicode)) (right.map (normalizedId unicode))

/-- `_resource_ids_may_match_name`. -/
def resourceIdsMayMatchName (unicode : UnicodeTables) (resourceIds : List Text)
    (selector : NamePredicateSelector) : Bool :=
  resourceIds.any fun resourceId =>
    let name := normalizedId unicode (lastComponent resourceId)
    selector.namePrefix.all (fun t => (normalizedId unicode t).isPrefixOf name) &&
      selector.nameSuffix.all (fun t => (normalizedId unicode t).isSuffixOf name)

/-- The predicates as a dictionary from normalized keys to normalized values. -/
def normalizedPredicates (selector : TagPredicateSelector unicode) : List (Text × Text) :=
  selector.predicates.map fun predicate =>
    (normalizedId unicode predicate.key, normalizedId unicode predicate.value)

def tagPredicatesMayOverlap (left right : TagPredicateSelector unicode) : Bool :=
  !(normalizedPredicates left).any fun entry =>
    (dictValue (normalizedPredicates right) entry.1).any fun value =>
      dictValue (normalizedPredicates left) entry.1 != some value

/-- One of two texts extends the other, where both are given. -/
def affixesOverlap (unicode : UnicodeTables) (extends' : Text → Text → Bool)
    (left right : Option Text) : Bool :=
  match left, right with
  | some l, some r => extends' (normalizedId unicode r) (normalizedId unicode l) ||
      extends' (normalizedId unicode l) (normalizedId unicode r)
  | _, _ => true

/-- `_selectors_may_overlap` between atomic selectors. -/
def atomicMayOverlap : AtomicSelector unicode → AtomicSelector unicode → Bool
  | .resourceIdList left, .resourceIdList right =>
    shareElement (left.resourceIds.map (normalizedId unicode))
      (right.resourceIds.map (normalizedId unicode))
  | .resourceIdList left, .namePredicate right =>
    resourceIdsMayMatchName unicode left.resourceIds right
  | .namePredicate left, .resourceIdList right =>
    resourceIdsMayMatchName unicode right.resourceIds left
  | .tagPredicate left, .tagPredicate right => tagPredicatesMayOverlap left right
  | .namePredicate left, .namePredicate right =>
    affixesOverlap unicode List.isPrefixOf left.namePrefix right.namePrefix &&
      affixesOverlap unicode List.isSuffixOf left.nameSuffix right.nameSuffix
  | .resourceType left, .resourceType right =>
    normalizedId unicode left.resourceType == normalizedId unicode right.resourceType &&
      normalizedFiltersOverlap unicode left.locations right.locations &&
      normalizedFiltersOverlap unicode left.resourceGroups right.resourceGroups
  | .vmScaleSet left, .vmScaleSet right =>
    normalizedId unicode left.scaleSetResourceId == normalizedId unicode right.scaleSetResourceId &&
      normalizedFiltersOverlap unicode left.instanceIds right.instanceIds
  | .loadBalancerBackend left, .loadBalancerBackend right =>
    normalizedId unicode left.loadBalancerResourceId ==
        normalizedId unicode right.loadBalancerResourceId &&
      normalizedId unicode left.backendPoolName == normalizedId unicode right.backendPoolName
  | .subnet left, .subnet right =>
    normalizedId unicode left.subnetResourceId == normalizedId unicode right.subnetResourceId
  | .image left, .image right =>
    normalizedId unicode left.publisher == normalizedId unicode right.publisher &&
      normalizedId unicode left.offer == normalizedId unicode right.offer &&
      normalizedId unicode left.sku == normalizedId unicode right.sku &&
      left.version.all fun l => right.version.all fun r =>
        normalizedId unicode l == normalizedId unicode r
  | .provenance left, .provenance right =>
    normalizedId unicode left.collectorToolName == normalizedId unicode right.collectorToolName &&
      normalizedId unicode left.collectorToolVersion ==
        normalizedId unicode right.collectorToolVersion &&
      normalizedId unicode left.identityEvidenceRef == normalizedId unicode right.identityEvidenceRef
  | left, right => left.selectorType != right.selectorType

/-- `_selectors_may_overlap` with an atomic selector on the left. -/
def atomMayOverlap (left : AtomicSelector unicode) : ManifestSelector unicode → Bool
  | .compositeAny right => right.children.any (atomicMayOverlap left)
  | .compositeAll right => right.children.all (atomicMayOverlap left)
  | .atomic right => atomicMayOverlap left right

/-- `_selectors_may_overlap`. -/
def selectorsMayOverlap (left right : ManifestSelector unicode) : Bool :=
  match left with
  | .compositeAny l => l.children.any (atomMayOverlap · right)
  | .compositeAll l =>
    match right with
    | .compositeAny r => r.children.any fun child => l.children.all (atomicMayOverlap · child)
    | _ => l.children.all (atomMayOverlap · right)
  | .atomic l => atomMayOverlap l right

/-! ## Overlap of atomic selectors -/

theorem shareElement_iff {left right : List Text} :
    shareElement left right = true ↔ ∃ t ∈ left, t ∈ right := by
  simp only [shareElement, List.any_eq_true, List.elem_iff]

theorem filters_overlap {left right : List Text} {value : Text}
    (hl : left.isEmpty = true ∨ value ∈ left.map (comparisonText unicode))
    (hr : right.isEmpty = true ∨ value ∈ right.map (comparisonText unicode)) :
    normalizedFiltersOverlap unicode left right = true := by
  simp only [normalizedFiltersOverlap, Bool.or_eq_true, shareElement_iff]
  rcases hl with hempty | hl
  · exact .inl (.inl hempty)
  · rcases hr with hempty | hr
    · exact .inl (.inr hempty)
    · exact .inr ⟨value, hl, hr⟩

/-- The name in a listed identifier is the name of the resource it stands for. -/
theorem ids_match_name {resourceIds : List Text} {selector : NamePredicateSelector} {x : Text}
    {resource : ResourceEvidenceRecord} (hx : x ∈ resourceIds.map (comparisonText unicode))
    (h : admits (.namePredicate selector : AtomicSelector unicode) x resource = .ok true)
    (hplain : comparisonText unicode (lastComponent x) = lastComponent x) :
    resourceIdsMayMatchName unicode resourceIds selector = true := by
  obtain ⟨resourceId, hm, he⟩ := List.mem_map.mp hx
  have hname : normalizedId unicode (lastComponent resourceId) = lastComponent x := by
    rw [← lastComponent_normalizedId, ← he]
    rfl
  have hboth := Except.ok.inj h
  refine List.any_eq_true.mpr ⟨resourceId, hm, ?_⟩
  rw [hplain] at hboth
  simp only [hname]
  exact hboth

/-- The name of a normalized identifier is its own comparison form. -/
theorem lastComponent_plain {value x : Text} (hx : normalizeResourceId unicode value = .ok x) :
    comparisonText unicode (lastComponent x) = lastComponent x := by
  have hplain : IsPlain (lastComponent x) :=
    (normalizeResourceId_isPlain hx).of_mem_splitPath (List.getLast_mem _)
  rw [comparisonText_eq, normalizedId_of_isPlain unicode hplain]

/-- A resource with the tags of a selector has the value the selector's dictionary holds. -/
theorem tagMatches_dictValue {selector : TagPredicateSelector unicode}
    {resource : ResourceEvidenceRecord} (h : tagMatches selector resource = true) {key value : Text}
    (hv : dictValue (normalizedPredicates selector) key = some value) :
    dictValue (resource.tags.entries.map fun (k, v) =>
      (comparisonText unicode k, comparisonText unicode v)) key = some value := by
  obtain ⟨predicate, hp, he⟩ := List.mem_map.mp (dictValue_mem hv)
  have hkey : normalizedId unicode predicate.key = key := congrArg Prod.fst he
  have hvalue : normalizedId unicode predicate.value = value := congrArg Prod.snd he
  have hone := beq_iff_eq.mp (List.all_eq_true.mp h predicate hp)
  rwa [comparisonText_eq, comparisonText_eq, hkey, hvalue] at hone

theorem tags_overlap {left right : TagPredicateSelector unicode} {resource : ResourceEvidenceRecord}
    (hl : tagMatches left resource = true) (hr : tagMatches right resource = true) :
    tagPredicatesMayOverlap left right = true := by
  rw [tagPredicatesMayOverlap, Bool.not_eq_true', List.any_eq_false]
  intro entry hentry hdiffers
  obtain ⟨value, hright, hne⟩ := (Option.any_eq_true _ _).mp hdiffers
  have hkeys : ((normalizedPredicates left).map Prod.fst).Nodup := by
    have hu := left.keys_unique
    simpa [normalizedPredicates, UniqueText, Function.comp_def] using hu
  have hleft := dictValue_of_mem hkeys hentry
  have he := (tagMatches_dictValue hl hleft).symm.trans (tagMatches_dictValue hr hright)
  rw [hleft, he] at hne
  exact absurd hne (by simp)

/-- Two beginnings of one name, where both are given. -/
theorem prefixes_overlap {left right : Option Text} {name : Text}
    (hl : left.all (fun t => (comparisonText unicode t).isPrefixOf name) = true)
    (hr : right.all (fun t => (comparisonText unicode t).isPrefixOf name) = true) :
    affixesOverlap unicode List.isPrefixOf left right = true := by
  match left, right with
  | none, _ | some _, none => rfl
  | some l, some r =>
    have hlp := List.isPrefixOf_iff_prefix.mp hl
    have hrp := List.isPrefixOf_iff_prefix.mp hr
    simp only [affixesOverlap, Bool.or_eq_true, List.isPrefixOf_iff_prefix]
    exact List.prefix_or_prefix_of_prefix hrp hlp

/-- Two endings of one name, where both are given. -/
theorem suffixes_overlap {left right : Option Text} {name : Text}
    (hl : left.all (fun t => (comparisonText unicode t).isSuffixOf name) = true)
    (hr : right.all (fun t => (comparisonText unicode t).isSuffixOf name) = true) :
    affixesOverlap unicode List.isSuffixOf left right = true := by
  match left, right with
  | none, _ | some _, none => rfl
  | some l, some r =>
    have hls := List.isSuffixOf_iff_suffix.mp hl
    have hrs := List.isSuffixOf_iff_suffix.mp hr
    simp only [affixesOverlap, Bool.or_eq_true, List.isSuffixOf_iff_suffix]
    exact List.suffix_or_suffix_of_suffix hrs hls

theorem resourceTypes_overlap {left right : ResourceTypeSelector unicode} {x : Text}
    {resource : ResourceEvidenceRecord} (hl : admits (.resourceType left) x resource = .ok true)
    (hr : admits (.resourceType right) x resource = .ok true) :
    atomicMayOverlap (.resourceType left) (.resourceType right) = true := by
  have hleft := Except.ok.inj hl
  have hright := Except.ok.inj hr
  simp only [Bool.and_eq_true, beq_iff_eq, Bool.or_eq_true, List.elem_iff,
    Option.any_eq_true] at hleft hright
  obtain ⟨⟨hltype, hllocation⟩, hlgroup⟩ := hleft
  obtain ⟨⟨hrtype, hrlocation⟩, hrgroup⟩ := hright
  have hgroups : normalizedFiltersOverlap unicode left.resourceGroups right.resourceGroups = true := by
    rcases hlgroup with hempty | ⟨group, hgroup, hin⟩
    · simp [normalizedFiltersOverlap, hempty]
    · rcases hrgroup with hempty | ⟨other, hother, hin'⟩
      · simp [normalizedFiltersOverlap, hempty]
      · have he : group = other := Option.some.inj (hgroup.symm.trans hother)
        exact filters_overlap (.inr hin) (.inr (he ▸ hin'))
  simp only [atomicMayOverlap, Bool.and_eq_true, beq_iff_eq]
  exact ⟨⟨hltype.symm.trans hrtype, filters_overlap hllocation hrlocation⟩, hgroups⟩

theorem scaleSets_overlap {left right : VmssSelector unicode} {x : Text}
    {resource : ResourceEvidenceRecord} (hl : admits (.vmScaleSet left) x resource = .ok true)
    (hr : admits (.vmScaleSet right) x resource = .ok true) :
    atomicMayOverlap (.vmScaleSet left) (.vmScaleSet right) = true := by
  rw [admits] at hl hr
  split at hl
  · simp at hl
  · rename_i leftSet hleftSet
    split at hr
    · simp at hr
    · rename_i rightSet hrightSet
      split at hl
      · simp at hl
      · simp at hl
      · rename_i scaleSet instanceId hmember
        rw [hmember] at hr
        have hleft := Except.ok.inj hl
        have hright := Except.ok.inj hr
        simp only [Bool.and_eq_true, beq_iff_eq, Bool.or_eq_true, List.elem_iff] at hleft hright
        have hsame : normalizedId unicode left.scaleSetResourceId =
            normalizedId unicode right.scaleSetResourceId := by
          rw [← normalizeResourceId_eq hleftSet, ← normalizeResourceId_eq hrightSet, ← hleft.1,
            ← hright.1]
        simp only [atomicMayOverlap, Bool.and_eq_true, beq_iff_eq]
        exact ⟨hsame, filters_overlap hleft.2 hright.2⟩

/-- Two atomic selectors that one resource passes may overlap. -/
theorem admits_overlap {left right : AtomicSelector unicode} {value x : Text}
    {resource : ResourceEvidenceRecord} (hx : normalizeResourceId unicode value = .ok x)
    (hl : admits left x resource = .ok true) (hr : admits right x resource = .ok true) :
    atomicMayOverlap left right = true := by
  have hname := lastComponent_plain hx
  unfold atomicMayOverlap
  split
  · have hleft := List.elem_iff.mp (Except.ok.inj hl)
    have hright := List.elem_iff.mp (Except.ok.inj hr)
    exact shareElement_iff.mpr ⟨x, hleft, hright⟩
  · exact ids_match_name (List.elem_iff.mp (Except.ok.inj hl)) hr hname
  · exact ids_match_name (List.elem_iff.mp (Except.ok.inj hr)) hl hname
  · exact tags_overlap (Except.ok.inj hl) (Except.ok.inj hr)
  · have hleft := Bool.and_eq_true_iff.mp (Except.ok.inj hl)
    have hright := Bool.and_eq_true_iff.mp (Except.ok.inj hr)
    exact Bool.and_eq_true_iff.mpr
      ⟨prefixes_overlap hleft.1 hright.1, suffixes_overlap hleft.2 hright.2⟩
  · exact resourceTypes_overlap hl hr
  · exact scaleSets_overlap hl hr
  -- no resource passes the three kinds the evidence cannot decide
  · simp [admits] at hl
  · simp [admits] at hl
  · simp [admits] at hl
  · have hleft := Except.ok.inj hl
    have hright := Except.ok.inj hr
    simp only [Bool.and_eq_true, beq_iff_eq] at hleft hright ⊢
    exact ⟨⟨hleft.1.1.symm.trans hright.1.1, hleft.1.2.symm.trans hright.1.2⟩,
      hleft.2.symm.trans hright.2⟩
  · cases left <;> cases right <;> simp_all [AtomicSelector.selectorType]

theorem atom_selects_overlap {left : AtomicSelector unicode} {right : ManifestSelector unicode}
    {value x : Text} {resource : ResourceEvidenceRecord}
    (hx : normalizeResourceId unicode value = .ok x) (hl : admits left x resource = .ok true)
    (hr : Selects right x resource) : atomMayOverlap left right = true := by
  cases right with
  | atomic r => exact admits_overlap hx hl hr
  | compositeAll r => exact List.all_eq_true.mpr fun child hc => admits_overlap hx hl (hr child hc)
  | compositeAny r =>
    obtain ⟨child, hc, ha⟩ := hr
    exact List.any_eq_true.mpr ⟨child, hc, admits_overlap hx hl ha⟩

/-- Two selectors that select one resource may overlap. -/
theorem selects_overlap {left right : ManifestSelector unicode} {value x : Text}
    {resource : ResourceEvidenceRecord} (hx : normalizeResourceId unicode value = .ok x)
    (hl : Selects left x resource) (hr : Selects right x resource) :
    selectorsMayOverlap left right = true := by
  cases left with
  | atomic l => exact atom_selects_overlap hx hl hr
  | compositeAny l =>
    obtain ⟨child, hc, ha⟩ := hl
    exact List.any_eq_true.mpr ⟨child, hc, atom_selects_overlap hx ha hr⟩
  | compositeAll l =>
    have hall : l.children.all (atomMayOverlap · right) = true :=
      List.all_eq_true.mpr fun child hc => atom_selects_overlap hx (hl child hc) hr
    cases right with
    | atomic r => exact hall
    | compositeAll r => exact hall
    | compositeAny r =>
      obtain ⟨other, ho, ha⟩ := hr
      refine List.any_eq_true.mpr ⟨other, ho, List.all_eq_true.mpr fun child hc => ?_⟩
      exact admits_overlap hx (hl child hc) ha

/-! ## The selectors of resolved roles -/

/-- `_selector_tree`, by the identifiers of its selectors. -/
def selectorTree (selector : ManifestSelector unicode) : List Text :=
  selector.header.selectorId :: match selector with
    | .atomic _ => []
    | .compositeAll s | .compositeAny s => s.children.map fun child => child.header.selectorId

/-- The identifiers, the fingerprints and the selectors of the roles read so far, each
with the role it came from. -/
structure ResolvedSelectors (unicode : UnicodeTables) where
  selectorIds : List (Text × Text) := []
  selectorFingerprints : List (Text × Text) := []
  selectors : List (Text × ManifestSelector unicode) := []

def claimSelectorId (unicode : UnicodeTables) (roleId : Text) (known : List (Text × Text))
    (selectorId : Text) : Except String (List (Text × Text)) :=
  if known.any fun entry => entry.1 == normalizedId unicode selectorId then
    .error "selector refs must resolve exactly once"
  else .ok (known ++ [(normalizedId unicode selectorId, roleId)])

/-- A selector of another role that may share a resource with the selector. -/
def overlapsOther (roleId : Text) (selector : ManifestSelector unicode)
    (previous : Text × ManifestSelector unicode) : Bool :=
  normalizedId unicode previous.1 != normalizedId unicode roleId &&
    selectorsMayOverlap previous.2 selector

/-- The body of the loop over the selectors of a role. -/
def addSelector (digest : Document → Text) (roleId : Text) (state : ResolvedSelectors unicode)
    (selector : ManifestSelector unicode) : Except String (ResolvedSelectors unicode) := do
  let selectorIds ← (selectorTree selector).foldlM (claimSelectorId unicode roleId)
    state.selectorIds
  let fingerprint := selectorFingerprint digest selector
  if state.selectorFingerprints.any fun entry => entry.1 == fingerprint then
    .error "ambiguous selectors have identical semantics for roles"
  else if state.selectors.any (overlapsOther roleId selector) then
    .error "ambiguous selectors may bind one resource to multiple roles"
  else
    .ok ⟨selectorIds, state.selectorFingerprints ++ [(fingerprint, roleId)],
      state.selectors ++ [(roleId, selector)]⟩

def addRole (digest : Document → Text) (state : ResolvedSelectors unicode)
    (role : ManifestRole unicode) : Except String (ResolvedSelectors unicode) :=
  role.selectors.foldlM (addSelector digest role.roleId) state

/-- `_validate_resolved_selectors`. -/
def validateResolvedSelectors (digest : Document → Text) (roles : List (ManifestRole unicode)) :
    Except String Unit := do
  let _ ← roles.foldlM (addRole digest) {}
  pure ()

/-- No two selectors of different roles may overlap. -/
def RolesApart (selectors : List (Text × ManifestSelector unicode)) : Prop :=
  selectors.Pairwise fun left right => normalizedId unicode left.1 ≠ normalizedId unicode right.1 →
    selectorsMayOverlap left.2 right.2 = false

/-- What one selector adds, and that the roles stay apart. -/
theorem addSelector_ok {digest : Document → Text} {roleId : Text}
    {state next : ResolvedSelectors unicode} {selector : ManifestSelector unicode}
    (h : addSelector digest roleId state selector = .ok next) :
    next.selectors = state.selectors ++ [(roleId, selector)] ∧
      (RolesApart state.selectors → RolesApart next.selectors) := by
  obtain ⟨selectorIds, _, h₁⟩ := bind_ok_iff.mp h
  obtain ⟨_, h₂⟩ := ite_error_ok_iff.mp h₁
  obtain ⟨hapart, h₃⟩ := ite_error_ok_iff.mp h₂
  have hnext : next.selectors = state.selectors ++ [(roleId, selector)] := by
    rw [← Except.ok.inj h₃]
  refine ⟨hnext, fun hstate => ?_⟩
  rw [hnext, RolesApart, List.pairwise_append]
  refine ⟨hstate, List.pairwise_singleton _ _, ?_⟩
  intro previous hp current hc hne
  rw [List.mem_singleton.mp hc] at hne ⊢
  have hfree : ¬ overlapsOther roleId selector previous = true := fun ho =>
    hapart (List.any_eq_true.mpr ⟨previous, hp, ho⟩)
  simpa [overlapsOther, hne] using hfree

/-- The selectors of a role are added one by one. -/
theorem addSelectors_ok {digest : Document → Text} {roleId : Text}
    {selectors : List (ManifestSelector unicode)} {state next : ResolvedSelectors unicode}
    (h : selectors.foldlM (addSelector digest roleId) state = .ok next) :
    next.selectors = state.selectors ++ selectors.map (roleId, ·) ∧
      (RolesApart state.selectors → RolesApart next.selectors) := by
  induction selectors generalizing state with
  | nil =>
    have he : state = next := by simpa [pure, Except.pure] using h
    simp [he]
  | cons selector rest ih =>
    rw [List.foldlM_cons] at h
    obtain ⟨middle, hone, hrest⟩ := bind_ok_iff.mp h
    obtain ⟨hmiddle, hkeep⟩ := addSelector_ok hone
    obtain ⟨hnext, hkeep'⟩ := ih hrest
    refine ⟨?_, fun hstate => hkeep' (hkeep hstate)⟩
    rw [hnext, hmiddle]
    simp

theorem addRoles_ok {digest : Document → Text} {roles : List (ManifestRole unicode)}
    {state next : ResolvedSelectors unicode}
    (h : roles.foldlM (addRole digest) state = .ok next) :
    next.selectors = state.selectors ++
        roles.flatMap (fun role => role.selectors.map (role.roleId, ·)) ∧
      (RolesApart state.selectors → RolesApart next.selectors) := by
  induction roles generalizing state with
  | nil =>
    have he : state = next := by simpa [pure, Except.pure] using h
    simp [he]
  | cons role rest ih =>
    rw [List.foldlM_cons] at h
    obtain ⟨middle, hone, hrest⟩ := bind_ok_iff.mp h
    obtain ⟨hmiddle, hkeep⟩ := addSelectors_ok hone
    obtain ⟨hnext, hkeep'⟩ := ih hrest
    refine ⟨?_, fun hstate => hkeep' (hkeep hstate)⟩
    rw [hnext, hmiddle]
    simp

/-- Selectors of different roles select no resource together. -/
def Exclusive (left right : Text × ManifestSelector unicode) : Prop :=
  normalizedId unicode left.1 ≠ normalizedId unicode right.1 → ∀ value x resource,
    normalizeResourceId unicode value = .ok x → ¬(Selects left.2 x resource ∧ Selects right.2 x resource)

instance : Std.Symm (@Exclusive unicode) where
  symm _ _ h hne value x resource hx hboth := h hne.symm value x resource hx hboth.symm

theorem RolesApart.exclusive {selectors : List (Text × ManifestSelector unicode)}
    (h : RolesApart selectors) {left right : Text × ManifestSelector unicode}
    (hl : left ∈ selectors) (hr : right ∈ selectors) : Exclusive left right := by
  have hpairs : selectors.Pairwise Exclusive := by
    refine List.Pairwise.imp (fun {a b} hab hne value x resource hx hboth => ?_) h
    have hoverlap := selects_overlap hx hboth.1 hboth.2
    rw [hab hne] at hoverlap
    exact absurd hoverlap (by decide)
  exact hpairs.forall_of_forall (fun _ _ hne => absurd rfl hne) hl hr

/-- The selectors of two accepted roles share no resource of an estate. -/
theorem accepted_exclusive {digest : Document → Text} {roles : List (ManifestRole unicode)}
    (h : validateResolvedSelectors digest roles = .ok ()) {role other : ManifestRole unicode}
    (hr : role ∈ roles) (ho : other ∈ roles) (hne : roleKey role ≠ roleKey other)
    {left right : ManifestSelector unicode} (hl : left ∈ role.selectors) (hs : right ∈ other.selectors)
    {records : List ResourceEvidenceRecord} {evaluated evaluated' : SelectorEvaluation unicode}
    (he : evaluateSelector left records = .ok evaluated)
    (he' : evaluateSelector right records = .ok evaluated') :
    evaluated.matchedResourceIds.Disjoint evaluated'.matchedResourceIds := by
  obtain ⟨state, hstate, _⟩ := bind_ok_iff.mp h
  obtain ⟨hall, hkeep⟩ := addRoles_ok hstate
  have hapart : RolesApart state.selectors := hkeep List.Pairwise.nil
  have hleft : (role.roleId, left) ∈ state.selectors := by
    rw [hall]
    exact List.mem_append_right _ (List.mem_flatMap.mpr ⟨role, hr, List.mem_map_of_mem hl⟩)
  have hright : (other.roleId, right) ∈ state.selectors := by
    rw [hall]
    exact List.mem_append_right _ (List.mem_flatMap.mpr ⟨other, ho, List.mem_map_of_mem hs⟩)
  intro x hx hx'
  obtain ⟨resource, hm, hid, hsel⟩ := (evaluateSelector_matched he x).mp hx
  obtain ⟨resource', hm', hid', hsel'⟩ := (evaluateSelector_matched he' x).mp hx'
  -- both evaluations read the records under distinct comparison forms
  obtain ⟨byId, hby, _⟩ := bind_ok_iff.mp he
  obtain ⟨hkeys, hmem⟩ := resourcesById_ok hby (by simp)
  have hsame : resource = resource' :=
    estate_unique hkeys ((hmem x resource).mpr (.inr ⟨hm, hid⟩))
      ((hmem x resource').mpr (.inr ⟨hm', hid'⟩))
  exact hapart.exclusive hleft hright hne resource.resourceId x resource hid ⟨hsel, hsame ▸ hsel'⟩

/-- Roles are exclusive: selectors found apart select no resource together, and no estate has
a resource that selectors of two accepted roles match. -/
theorem roles_exclusive (unicode : UnicodeTables) (digest : Document → Text) :
    (∀ left right : ManifestSelector unicode, selectorsMayOverlap left right = false →
      ∀ (resource : ResourceEvidenceRecord) x,
        normalizeResourceId unicode resource.resourceId = .ok x →
          ¬(Selects left x resource ∧ Selects right x resource)) ∧
    (∀ roles : List (ManifestRole unicode), validateResolvedSelectors digest roles = .ok () →
      ∀ role ∈ roles, ∀ other ∈ roles, roleKey role ≠ roleKey other →
        ∀ left ∈ role.selectors, ∀ right ∈ other.selectors, ∀ records evaluated evaluated',
          evaluateSelector left records = .ok evaluated →
            evaluateSelector right records = .ok evaluated' →
              evaluated.matchedResourceIds.Disjoint evaluated'.matchedResourceIds) := by
  refine ⟨?_, ?_⟩
  · intro left right hfalse resource x hx hboth
    have hoverlap := selects_overlap hx hboth.1 hboth.2
    rw [hfalse] at hoverlap
    exact absurd hoverlap (by decide)
  · intro roles h role hr other ho hne left hl right hs records evaluated evaluated' he he'
    exact accepted_exclusive h hr ho hne hl hs he he'

/-! ## Two roles told apart by name -/

def fieldText : FieldValue → Text
  | .number n => n.repr.toList
  | .text t => t
  | .texts items => items.flatten
  | .predicates items => items.flatMap fun p => p.1 ++ p.2

/-- The texts of a document one after another, in place of its digest. -/
def documentText (document : Document) : Text :=
  (document.fields :: document.children.getD []).flatMap fun fields =>
    fields.flatMap fun field => field.1 ++ fieldText field.2

theorem namedSelector_bounds : 1 ≤ 10 ∧ 10 ≤ 1000 := by decide

def namedSelector (selectorId start : Text) (hid : HasLength 1 128 selectorId)
    (hstart : isNamePattern start) : ManifestSelector latinTables :=
  .atomic (.namePredicate
    { selectorId := selectorId, maxMatches := 10, selectorId_length := hid,
      maxMatches_bounds := namedSelector_bounds, namePrefix := some start,
      nameSuffix := none, present := .inl (by simp), namePrefix_pattern := by simpa using hstart,
      nameSuffix_pattern := by simp })

def webSelector : ManifestSelector latinTables :=
  namedSelector "web-hosts".toList "Web-".toList (by decide) (by decide)

def dbSelector : ManifestSelector latinTables :=
  namedSelector "db-hosts".toList "DB-".toList (by decide) (by decide)

def roleOf (roleId : Text) (selector : ManifestSelector latinTables) (hid : HasLength 1 128 roleId)
    (hs : UniqueText latinTables [selector.header.selectorId]) : ManifestRole latinTables where
  roleId := roleId
  kind := .webService
  cardinality := .oneOrMore
  selectors := [selector]
  ownerRef := "platform".toList
  status := .approved
  roleId_length := hid
  selectors_length := ⟨by simp, by simp⟩
  ownerRef_length := by decide
  selectors_unique := hs

def webRole : ManifestRole latinTables :=
  roleOf "web".toList webSelector (by decide) (by decide)

def dbRole : ManifestRole latinTables :=
  roleOf "db".toList dbSelector (by decide) (by decide)

theorem roles_exclusive_named :
    validateResolvedSelectors documentText [webRole, dbRole] = .ok () ∧
      ∀ records web db, evaluateSelector webSelector records = .ok web →
        evaluateSelector dbSelector records = .ok db →
          web.matchedResourceIds.Disjoint db.matchedResourceIds := by
  have haccepted : validateResolvedSelectors documentText [webRole, dbRole] = .ok () := by
    decide
  have hne : roleKey webRole ≠ roleKey dbRole := by decide
  refine ⟨haccepted, fun records web db hw hd => ?_⟩
  exact (roles_exclusive latinTables documentText).2 [webRole, dbRole] haccepted webRole (by simp)
    dbRole (by simp) hne webSelector (List.mem_singleton_self _) dbSelector
    (List.mem_singleton_self _) records web db hw hd

end AthenaContext.RoleExclusivity
