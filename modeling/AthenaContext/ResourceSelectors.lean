import AthenaContext.EvidenceRecords
import AthenaContext.FallibleResults
import AthenaContext.OrdinalCollections
import AthenaContext.ResourceIdentifiers
import Mathlib

/-!
# Resource selectors

The manifest selectors and their runtime: nine atomic kinds, and conjunctions and
disjunctions of atomic ones. A selector carries what its contract validates. The
runtime evaluates a selector over an estate of resource records; `Selects` says the
same of one record, and `evaluateSelector_matched` joins the two.
-/

namespace AthenaContext.ResourceSelectors

open EvidenceRecords FallibleResults OrdinalCollections ResourceIdentifiers TextNormalization

/-- `min_length` and `max_length` of a text or a list. -/
def HasLength {α : Type*} (low high : ℕ) (items : List α) : Prop :=
  low ≤ items.length ∧ items.length ≤ high

instance {α : Type*} (low high : ℕ) (items : List α) : Decidable (HasLength low high items) :=
  inferInstanceAs (Decidable (_ ∧ _))

/-- `selectorType`. -/
inductive SelectorType
  | resourceIdList | tagPredicate | namePredicate | resourceType | vmScaleSet
  | loadBalancerBackend | subnet | image | provenance | compositeAll | compositeAny
  deriving DecidableEq, Repr

/-- The fields every selector has. -/
structure SelectorHeader where
  selectorId : Text
  maxMatches : ℕ
  selectorId_length : HasLength 1 128 selectorId := by decide
  maxMatches_bounds : 1 ≤ maxMatches ∧ maxMatches ≤ 1000 := by decide
  deriving DecidableEq

structure TagEquals where
  key : Text
  value : Text
  key_length : HasLength 1 128 key := by decide
  value_length : HasLength 1 256 value := by decide
  deriving DecidableEq

/-- `^[A-Za-z0-9.]+/[A-Za-z0-9]+(?:/[A-Za-z0-9]+)*$`. -/
def isResourceTypeText (t : Text) : Bool :=
  match splitPath t with
  | space :: type :: others =>
    !space.isEmpty && space.all (fun c => c.isAlphanum || c == '.') &&
      (type :: others).all fun part => !part.isEmpty && part.all Char.isAlphanum
  | _ => false

/-- One number of `^(0|[1-9][0-9]*)\.(0|[1-9][0-9]*)\.(0|[1-9][0-9]*)$`. -/
def isVersionNumber (t : Text) : Bool :=
  t == "0".toList || (t.head?.any (· != '0') && !t.isEmpty && t.all Char.isDigit)

def isVersionText (t : Text) : Bool :=
  let numbers := t.splitOn '.'
  numbers.length == 3 && numbers.all isVersionNumber

def isNamePattern (t : Text) : Prop := HasLength 1 128 t ∧ ∀ c ∈ "*?[]()".toList, c ∉ t

instance (t : Text) : Decidable (isNamePattern t) :=
  have : Decidable (∀ c ∈ "*?[]()".toList, c ∉ t) := List.decidableBAll _ _
  inferInstanceAs (Decidable (_ ∧ _))

/-- `_require_unique_text`. -/
def UniqueText (unicode : UnicodeTables) (values : List Text) : Prop :=
  (values.map (normalizedId unicode)).Nodup

instance (unicode : UnicodeTables) (values : List Text) : Decidable (UniqueText unicode values) :=
  inferInstanceAs (Decidable (List.Nodup _))

section selectors

variable (unicode : UnicodeTables)

structure ResourceIdListSelector extends SelectorHeader where
  resourceIds : List Text
  resourceIds_length : HasLength 1 200 resourceIds := by decide
  resourceIds_unique : UniqueText unicode resourceIds := by decide
  deriving DecidableEq

structure TagPredicateSelector extends SelectorHeader where
  predicates : List TagEquals
  predicates_length : HasLength 1 20 predicates := by decide
  keys_unique : UniqueText unicode (predicates.map TagEquals.key) := by decide
  deriving DecidableEq

structure NamePredicateSelector extends SelectorHeader where
  namePrefix : Option Text
  nameSuffix : Option Text
  present : namePrefix ≠ none ∨ nameSuffix ≠ none := by decide
  namePrefix_pattern : ∀ t ∈ namePrefix, isNamePattern t := by decide
  nameSuffix_pattern : ∀ t ∈ nameSuffix, isNamePattern t := by decide
  deriving DecidableEq

structure ResourceTypeSelector extends SelectorHeader where
  resourceType : Text
  locations : List Text
  resourceGroups : List Text
  resourceType_length : HasLength 3 200 resourceType := by decide
  resourceType_pattern : isResourceTypeText resourceType = true := by decide
  locations_length : HasLength 0 20 locations := by decide
  resourceGroups_length : HasLength 0 20 resourceGroups := by decide
  locations_unique : UniqueText unicode locations := by decide
  resourceGroups_unique : UniqueText unicode resourceGroups := by decide
  deriving DecidableEq

structure VmssSelector extends SelectorHeader where
  scaleSetResourceId : Text
  instanceIds : List Text
  scaleSetResourceId_length : HasLength 1 2048 scaleSetResourceId := by decide
  instanceIds_length : HasLength 0 200 instanceIds := by decide
  instanceIds_unique : UniqueText unicode instanceIds := by decide
  deriving DecidableEq

structure LoadBalancerBackendSelector extends SelectorHeader where
  loadBalancerResourceId : Text
  backendPoolName : Text
  loadBalancerResourceId_length : HasLength 1 2048 loadBalancerResourceId := by decide
  backendPoolName_length : HasLength 1 128 backendPoolName := by decide
  deriving DecidableEq

structure SubnetSelector extends SelectorHeader where
  subnetResourceId : Text
  subnetResourceId_length : HasLength 1 2048 subnetResourceId := by decide
  deriving DecidableEq

structure ImageSelector extends SelectorHeader where
  publisher : Text
  offer : Text
  sku : Text
  version : Option Text
  publisher_length : HasLength 1 128 publisher := by decide
  offer_length : HasLength 1 128 offer := by decide
  sku_length : HasLength 1 128 sku := by decide
  version_length : ∀ t ∈ version, HasLength 1 64 t := by decide
  deriving DecidableEq

structure ProvenanceSelector extends SelectorHeader where
  collectorToolName : Text
  collectorToolVersion : Text
  identityEvidenceRef : Text
  collectorToolName_length : HasLength 1 128 collectorToolName := by decide
  collectorToolVersion_pattern : isVersionText collectorToolVersion = true := by decide
  identityEvidenceRef_length : HasLength 1 128 identityEvidenceRef := by decide
  deriving DecidableEq

inductive AtomicSelector
  | resourceIdList (selector : ResourceIdListSelector unicode)
  | tagPredicate (selector : TagPredicateSelector unicode)
  | namePredicate (selector : NamePredicateSelector)
  | resourceType (selector : ResourceTypeSelector unicode)
  | vmScaleSet (selector : VmssSelector unicode)
  | loadBalancerBackend (selector : LoadBalancerBackendSelector)
  | subnet (selector : SubnetSelector)
  | image (selector : ImageSelector)
  | provenance (selector : ProvenanceSelector)
  deriving DecidableEq

variable {unicode}

def AtomicSelector.header : AtomicSelector unicode → SelectorHeader
  | .resourceIdList s => s.toSelectorHeader
  | .tagPredicate s => s.toSelectorHeader
  | .namePredicate s => s.toSelectorHeader
  | .resourceType s => s.toSelectorHeader
  | .vmScaleSet s => s.toSelectorHeader
  | .loadBalancerBackend s => s.toSelectorHeader
  | .subnet s => s.toSelectorHeader
  | .image s => s.toSelectorHeader
  | .provenance s => s.toSelectorHeader

def AtomicSelector.selectorType : AtomicSelector unicode → SelectorType
  | .resourceIdList _ => .resourceIdList
  | .tagPredicate _ => .tagPredicate
  | .namePredicate _ => .namePredicate
  | .resourceType _ => .resourceType
  | .vmScaleSet _ => .vmScaleSet
  | .loadBalancerBackend _ => .loadBalancerBackend
  | .subnet _ => .subnet
  | .image _ => .image
  | .provenance _ => .provenance

variable (unicode)

/-- `CompositeAllSelector` and `CompositeAnySelector`: the children are atomic, at
most ten, with distinct identifiers. -/
structure CompositeSelector extends SelectorHeader where
  children : List (AtomicSelector unicode)
  children_length : HasLength 1 10 children := by decide
  children_unique : UniqueText unicode (children.map fun child => child.header.selectorId) := by decide
  deriving DecidableEq

inductive ManifestSelector
  | atomic (selector : AtomicSelector unicode)
  | compositeAll (selector : CompositeSelector unicode)
  | compositeAny (selector : CompositeSelector unicode)
  deriving DecidableEq

variable {unicode}

def ManifestSelector.header : ManifestSelector unicode → SelectorHeader
  | .atomic s => s.header
  | .compositeAll s => s.toSelectorHeader
  | .compositeAny s => s.toSelectorHeader

def ManifestSelector.selectorType : ManifestSelector unicode → SelectorType
  | .atomic s => s.selectorType
  | .compositeAll _ => .compositeAll
  | .compositeAny _ => .compositeAny

end selectors

/-! ## The runtime -/

section runtime

variable {unicode : UnicodeTables}

/-- The resources by comparison form, in the order of the records. -/
abbrev Estate := List (Text × ResourceEvidenceRecord)

/-- `_resource_group`. -/
def resourceGroupIn (unicode : UnicodeTables) : List Text → Option Text
  | part :: next :: rest =>
    if casefold unicode part = "resourcegroups".toList then some next
    else resourceGroupIn unicode (next :: rest)
  | _ => none

def resourceGroup (unicode : UnicodeTables) (resourceId : Text) : Option Text :=
  resourceGroupIn unicode (splitPath resourceId)

/-- `entries.get(key)` of the dictionary built from the entries. -/
def dictValue (entries : List (Text × Text)) (key : Text) : Option Text :=
  (lastOfKey Prod.fst entries key).map Prod.snd

/-- `_tag_matches`. -/
def tagMatches (selector : TagPredicateSelector unicode) (resource : ResourceEvidenceRecord) : Bool :=
  let normalizedTags := resource.tags.entries.map fun (key, value) =>
    (comparisonText unicode key, comparisonText unicode value)
  selector.predicates.all fun predicate =>
    dictValue normalizedTags (comparisonText unicode predicate.key) ==
      some (comparisonText unicode predicate.value)

/-- The loop of `_vmss_membership`: the first scale set with an instance behind it. -/
def scaleSetScan (unicode : UnicodeTables) (before : List Text) :
    List Text → Option (List Text × Text)
  | p₀ :: p₁ :: p₂ :: p₃ :: p₄ :: p₅ :: rest =>
    if casefold unicode p₀ = "providers".toList ∧ casefold unicode p₁ = "microsoft.compute".toList ∧
        casefold unicode p₂ = "virtualmachinescalesets".toList ∧
        casefold unicode p₄ = "virtualmachines".toList then
      some (before ++ [p₀, p₁, p₂, p₃], p₅)
    else scaleSetScan unicode (before ++ [p₀]) (p₁ :: p₂ :: p₃ :: p₄ :: p₅ :: rest)
  | _ => none

/-- `_vmss_membership`. -/
def vmssMembership (unicode : UnicodeTables) (resourceId : Text) :
    Except String (Option (Text × Text)) :=
  match scaleSetScan unicode [] (splitPath resourceId) with
  | none => .ok none
  | some (parts, instanceId) =>
    match normalizeResourceId unicode (joinPath parts) with
    | .ok scaleSetId => .ok (some (scaleSetId, comparisonText unicode instanceId))
    | .error message => .error message

/-- The test a resource must pass in `_atomic_matches`. -/
def admits (selector : AtomicSelector unicode) (resourceId : Text)
    (resource : ResourceEvidenceRecord) : Except String Bool :=
  match selector with
  | .resourceIdList s => .ok ((s.resourceIds.map (comparisonText unicode)).elem resourceId)
  | .tagPredicate s => .ok (tagMatches s resource)
  | .namePredicate s =>
    let name := comparisonText unicode (lastComponent resourceId)
    .ok (s.namePrefix.all (fun t => (comparisonText unicode t).isPrefixOf name) &&
      s.nameSuffix.all (fun t => (comparisonText unicode t).isSuffixOf name))
  | .resourceType s =>
    .ok (comparisonText unicode resource.resourceType.text == comparisonText unicode s.resourceType &&
      (s.locations.isEmpty ||
        (s.locations.map (comparisonText unicode)).elem
          (comparisonText unicode resource.location.text)) &&
      (s.resourceGroups.isEmpty ||
        (resourceGroup unicode resource.resourceId).any fun group =>
          (s.resourceGroups.map (comparisonText unicode)).elem (comparisonText unicode group)))
  | .vmScaleSet s =>
    match normalizeResourceId unicode s.scaleSetResourceId with
    | .error _ => .ok false
    | .ok expectedScaleSet =>
      match vmssMembership unicode resourceId with
      | .error message => .error message
      | .ok none => .ok false
      | .ok (some (scaleSet, instanceId)) =>
        .ok (scaleSet == expectedScaleSet &&
          (s.instanceIds.isEmpty || (s.instanceIds.map (comparisonText unicode)).elem instanceId))
  | .loadBalancerBackend _ | .subnet _ | .image _ => .ok false
  | .provenance s =>
    .ok (comparisonText unicode resource.provenance.toolName.text ==
        comparisonText unicode s.collectorToolName &&
      comparisonText unicode resource.provenance.toolVersion ==
        comparisonText unicode s.collectorToolVersion &&
      comparisonText unicode resource.collectorIdentityEvidenceRef ==
        comparisonText unicode s.identityEvidenceRef)

/-- The identifiers of the resources that pass a test; a test that raises ends the search. -/
def matchingIds (test : Text → ResourceEvidenceRecord → Except String Bool) :
    Estate → Except String (List Text)
  | [] => .ok []
  | (resourceId, resource) :: rest => do
    let admitted ← test resourceId resource
    let others ← matchingIds test rest
    pure (if admitted then resourceId :: others else others)

/-- `_atomic_matches`. -/
def atomicMatches (selector : AtomicSelector unicode) (resources : Estate) :
    Except String (List Text) :=
  matchingIds (admits selector) resources

/-- The matches with the violations so far, and the selector's own when it has too many. -/
def bounded (header : SelectorHeader) (matched violations : List Text) : List Text × List Text :=
  (matched, if header.maxMatches < matched.length then violations ++ [header.selectorId]
    else violations)

def evaluateAtomic (resources : Estate) (selector : AtomicSelector unicode) :
    Except String (List Text × List Text) := do
  let matched ← atomicMatches selector resources
  pure (bounded selector.header matched [])

/-- `set.intersection(*results)`, empty without results. -/
def intersectAll : List (List Text) → List Text
  | [] => []
  | first :: rest => first.filter fun resourceId => rest.all (·.elem resourceId)

/-- `set().union(*results)`. -/
def unionAll (results : List (List Text)) : List Text := results.flatten.dedup

/-- The inner `evaluate`. -/
def evaluate (resources : Estate) : ManifestSelector unicode →
    Except String (List Text × List Text)
  | .atomic s => evaluateAtomic resources s
  | .compositeAll s => do
    let results ← s.children.mapM (evaluateAtomic resources)
    pure (bounded s.toSelectorHeader (intersectAll (results.map Prod.fst))
      (results.flatMap Prod.snd))
  | .compositeAny s => do
    let results ← s.children.mapM (evaluateAtomic resources)
    pure (bounded s.toSelectorHeader (unionAll (results.map Prod.fst)) (results.flatMap Prod.snd))

inductive EvaluationStatus
  | matched | noMatches | overMaxMatches
  deriving DecidableEq, Repr

def evaluationStatus (matched violations : List Text) : EvaluationStatus :=
  if violations ≠ [] then .overMaxMatches else if matched ≠ [] then .matched else .noMatches

/-- `SelectorEvaluation`, without the digest of its content. -/
structure SelectorEvaluation (unicode : UnicodeTables) where
  selector : ManifestSelector unicode
  status : EvaluationStatus
  matchedResourceIds : List Text
  rejectedResourceIds : List Text
  maxMatches : ℕ
  maxMatchViolations : List Text
  matchedResourceIds_length : HasLength 0 30000 matchedResourceIds
  rejectedResourceIds_length : HasLength 0 30000 rejectedResourceIds
  maxMatchViolations_length : HasLength 0 100 maxMatchViolations
  deriving DecidableEq

/-- The dictionary of the records by comparison form. -/
def resourcesById (unicode : UnicodeTables) : List ResourceEvidenceRecord → Estate →
    Except String Estate
  | [], known => .ok known
  | resource :: rest, known => do
    let normalized ← normalizeResourceId unicode resource.resourceId
    if known.any (fun entry => entry.1 == normalized) then
      .error "selector input contains duplicate normalized Azure resource IDs"
    else resourcesById unicode rest (known ++ [(normalized, resource)])

/-- The evaluation of the matches and the violations found in an estate. -/
def selectorEvaluation (selector : ManifestSelector unicode) (resourceIds : List Text)
    (result : List Text × List Text) : Except String (SelectorEvaluation unicode) :=
  let matchedIds := sortOn id result.1
  let rejectedIds := sortOn id (resourceIds.filter fun resourceId => !result.1.elem resourceId)
  let uniqueViolations := sortOn (casefold unicode) result.2.dedup
  if h : HasLength 0 30000 matchedIds ∧ HasLength 0 30000 rejectedIds ∧
      HasLength 0 100 uniqueViolations then
    .ok ⟨selector, evaluationStatus matchedIds uniqueViolations, matchedIds, rejectedIds,
      selector.header.maxMatches, uniqueViolations, h.1, h.2.1, h.2.2⟩
  else .error "selector evaluation exceeds its bounds"

/-- `evaluate_selector`. -/
def evaluateSelector (selector : ManifestSelector unicode)
    (resources : List ResourceEvidenceRecord) : Except String (SelectorEvaluation unicode) := do
  let byId ← resourcesById unicode resources []
  let result ← evaluate byId selector
  selectorEvaluation selector (byId.map Prod.fst) result

/-! ## What an evaluation says of one resource -/

/-- The selector selects the resource. -/
def Selects (selector : ManifestSelector unicode) (resourceId : Text)
    (resource : ResourceEvidenceRecord) : Prop :=
  match selector with
  | .atomic s => admits s resourceId resource = .ok true
  | .compositeAll s => ∀ child ∈ s.children, admits child resourceId resource = .ok true
  | .compositeAny s => ∃ child ∈ s.children, admits child resourceId resource = .ok true

theorem mem_matchingIds {test : Text → ResourceEvidenceRecord → Except String Bool}
    {resources : Estate} {ids : List Text} (h : matchingIds test resources = .ok ids) (x : Text) :
    x ∈ ids ↔ ∃ resource, (x, resource) ∈ resources ∧ test x resource = .ok true := by
  induction resources generalizing ids with
  | nil =>
    have he : ids = [] := by simpa [matchingIds] using h.symm
    simp [he]
  | cons entry rest ih =>
    rw [matchingIds] at h
    obtain ⟨admitted, ha, h'⟩ := bind_ok_iff.mp h
    obtain ⟨others, ho, he⟩ := bind_ok_iff.mp h'
    have hids := pure_ok_iff.mp he
    have hrest := ih ho
    cases admitted with
    | true =>
      rw [← hids, if_pos rfl, List.mem_cons, hrest]
      constructor
      · rintro (rfl | ⟨resource, hm, ht⟩)
        · exact ⟨entry.2, by simp, ha⟩
        · exact ⟨resource, List.mem_cons_of_mem _ hm, ht⟩
      · rintro ⟨resource, hm, ht⟩
        rcases List.mem_cons.mp hm with he | hm
        · exact .inl (congrArg Prod.fst he)
        · exact .inr ⟨resource, hm, ht⟩
    | false =>
      rw [← hids, if_neg (by decide), hrest]
      constructor
      · rintro ⟨resource, hm, ht⟩
        exact ⟨resource, List.mem_cons_of_mem _ hm, ht⟩
      · rintro ⟨resource, hm, ht⟩
        rcases List.mem_cons.mp hm with he | hm
        · have h₁ : x = entry.1 := congrArg Prod.fst he
          have h₂ : resource = entry.2 := congrArg Prod.snd he
          rw [h₁, h₂, ha] at ht
          exact absurd ht (by simp)
        · exact ⟨resource, hm, ht⟩

theorem mem_evaluateAtomic {resources : Estate} {selector : AtomicSelector unicode}
    {result : List Text × List Text} (h : evaluateAtomic resources selector = .ok result)
    (x : Text) :
    x ∈ result.1 ↔ ∃ resource, (x, resource) ∈ resources ∧
      admits selector x resource = .ok true := by
  obtain ⟨matched, hm, he⟩ := bind_ok_iff.mp h
  have hr := pure_ok_iff.mp he
  rw [← hr]
  exact mem_matchingIds hm x

/-- The resource of an estate under one key. -/
theorem estate_unique {resources : Estate} (hkeys : (resources.map Prod.fst).Nodup) {x : Text}
    {left right : ResourceEvidenceRecord} (hl : (x, left) ∈ resources)
    (hr : (x, right) ∈ resources) : left = right := by
  have he := List.inj_on_of_nodup_map hkeys hl hr rfl
  exact congrArg Prod.snd he

theorem mem_intersectAll {results : List (List Text)} (hne : results ≠ []) (x : Text) :
    x ∈ intersectAll results ↔ ∀ result ∈ results, x ∈ result := by
  cases results with
  | nil => exact absurd rfl hne
  | cons first rest =>
    simp only [intersectAll, List.mem_filter, List.all_eq_true, List.elem_iff, List.mem_cons,
      forall_eq_or_imp]

theorem mem_unionAll {results : List (List Text)} (x : Text) :
    x ∈ unionAll results ↔ ∃ result ∈ results, x ∈ result := by
  simp [unionAll]

theorem evaluate_selects {resources : Estate} (hkeys : (resources.map Prod.fst).Nodup)
    {selector : ManifestSelector unicode} {result : List Text × List Text}
    (h : evaluate resources selector = .ok result) (x : Text) :
    x ∈ result.1 ↔ ∃ resource, (x, resource) ∈ resources ∧ Selects selector x resource := by
  cases selector with
  | atomic s => exact mem_evaluateAtomic h x
  | compositeAll s =>
    obtain ⟨results, hr, he⟩ := bind_ok_iff.mp h
    have hres := pure_ok_iff.mp he
    have hlen : s.children.length = results.length := (mapM_ok_iff.mp hr).length_eq
    have hchild : s.children ≠ [] := List.ne_nil_of_length_pos s.children_length.1
    have hne : results.map Prod.fst ≠ [] := by
      intro e
      have hz : results.length = 0 := by simpa using e
      have hpos := s.children_length.1
      omega
    rw [← hres]
    change x ∈ intersectAll (results.map Prod.fst) ↔ _
    rw [mem_intersectAll hne]
    constructor
    · intro hall
      have hin : ∀ child ∈ s.children, ∃ resource, (x, resource) ∈ resources ∧
          admits child x resource = .ok true := by
        intro child hc
        obtain ⟨y, hy, hf⟩ := mapM_ok_left hr hc
        exact (mem_evaluateAtomic hf x).mp (hall y.1 (List.mem_map_of_mem hy))
      obtain ⟨first, hfirst⟩ := List.exists_mem_of_ne_nil _ hchild
      obtain ⟨resource, hm, -⟩ := hin first hfirst
      refine ⟨resource, hm, fun child hc => ?_⟩
      obtain ⟨other, ho, ha⟩ := hin child hc
      rwa [estate_unique hkeys hm ho]
    · rintro ⟨resource, hm, hs⟩ matched hmatched
      obtain ⟨y, hy, hye⟩ := List.mem_map.mp hmatched
      obtain ⟨child, hc, hf⟩ := mapM_ok_right hr hy
      rw [← hye]
      exact (mem_evaluateAtomic hf x).mpr ⟨resource, hm, hs child hc⟩
  | compositeAny s =>
    obtain ⟨results, hr, he⟩ := bind_ok_iff.mp h
    have hres := pure_ok_iff.mp he
    rw [← hres]
    change x ∈ unionAll (results.map Prod.fst) ↔ _
    rw [mem_unionAll]
    constructor
    · rintro ⟨matched, hmatched, hx⟩
      obtain ⟨y, hy, hye⟩ := List.mem_map.mp hmatched
      obtain ⟨child, hc, hf⟩ := mapM_ok_right hr hy
      rw [← hye] at hx
      obtain ⟨resource, hm, ha⟩ := (mem_evaluateAtomic hf x).mp hx
      exact ⟨resource, hm, child, hc, ha⟩
    · rintro ⟨resource, hm, child, hc, ha⟩
      obtain ⟨y, hy, hf⟩ := mapM_ok_left hr hc
      exact ⟨y.1, List.mem_map_of_mem hy, (mem_evaluateAtomic hf x).mpr ⟨resource, hm, ha⟩⟩

/-- The dictionary holds the records under their comparison forms, each form once. -/
theorem resourcesById_ok {records : List ResourceEvidenceRecord} {known byId : Estate}
    (h : resourcesById unicode records known = .ok byId) (hknown : (known.map Prod.fst).Nodup) :
    (byId.map Prod.fst).Nodup ∧ ∀ x resource, (x, resource) ∈ byId ↔ (x, resource) ∈ known ∨
      resource ∈ records ∧ normalizeResourceId unicode resource.resourceId = .ok x := by
  induction records generalizing known with
  | nil =>
    have he : known = byId := by simpa [resourcesById] using h
    rw [← he]
    exact ⟨hknown, by simp⟩
  | cons record rest ih =>
    obtain ⟨normalized, hn, h'⟩ := bind_ok_iff.mp h
    obtain ⟨hfresh, hrest⟩ := ite_error_ok_iff.mp h'
    have hnot : normalized ∉ known.map Prod.fst := by
      intro hm
      obtain ⟨entry, he, hk⟩ := List.mem_map.mp hm
      exact hfresh (List.any_eq_true.mpr ⟨entry, he, by simp [hk]⟩)
    have hnodup : ((known ++ [(normalized, record)]).map Prod.fst).Nodup := by
      rw [List.map_append, List.nodup_append]
      refine ⟨hknown, by simp, ?_⟩
      intro a ha b hb e
      have hb' : b = normalized := by simpa using hb
      exact hnot (hb' ▸ e ▸ ha)
    obtain ⟨hkeys, hmem⟩ := ih hrest hnodup
    refine ⟨hkeys, fun x resource => ?_⟩
    rw [hmem, List.mem_append, List.mem_singleton, List.mem_cons]
    constructor
    · rintro ((hk | he) | ⟨hr, hx⟩)
      · exact .inl hk
      · have h₁ : x = normalized := congrArg Prod.fst he
        have h₂ : resource = record := congrArg Prod.snd he
        exact .inr ⟨.inl h₂, by rw [h₂, hn, h₁]⟩
      · exact .inr ⟨.inr hr, hx⟩
    · rintro (hk | ⟨rfl | hr, hx⟩)
      · exact .inl (.inl hk)
      · have hx' : x = normalized := Except.ok.inj (hx.symm.trans hn)
        exact .inl (.inr (by rw [hx']))
      · exact .inr ⟨hr, hx⟩

theorem selectorEvaluation_matched {selector : ManifestSelector unicode} {resourceIds : List Text}
    {result : List Text × List Text} {evaluation : SelectorEvaluation unicode}
    (h : selectorEvaluation selector resourceIds result = .ok evaluation) :
    evaluation.matchedResourceIds = sortOn id result.1 := by
  simp only [selectorEvaluation] at h
  split at h
  · rw [← Except.ok.inj h]
  · simp at h

/-- The evaluation matches exactly the comparison forms of the selected records. -/
theorem evaluateSelector_matched {selector : ManifestSelector unicode}
    {records : List ResourceEvidenceRecord} {evaluation : SelectorEvaluation unicode}
    (h : evaluateSelector selector records = .ok evaluation) (x : Text) :
    x ∈ evaluation.matchedResourceIds ↔ ∃ resource ∈ records,
      normalizeResourceId unicode resource.resourceId = .ok x ∧ Selects selector x resource := by
  obtain ⟨byId, hby, h₁⟩ := bind_ok_iff.mp h
  obtain ⟨result, hresult, h₂⟩ := bind_ok_iff.mp h₁
  obtain ⟨hkeys, hmem⟩ := resourcesById_ok hby (by simp)
  rw [selectorEvaluation_matched h₂, mem_sortOn, evaluate_selects hkeys hresult]
  constructor
  · rintro ⟨resource, hm, hs⟩
    have hr : resource ∈ records ∧ normalizeResourceId unicode resource.resourceId = .ok x := by
      simpa using (hmem x resource).mp hm
    exact ⟨resource, hr.1, hr.2, hs⟩
  · rintro ⟨resource, hr, hx, hs⟩
    exact ⟨resource, (hmem x resource).mpr (.inr ⟨hr, hx⟩), hs⟩

end runtime

end AthenaContext.ResourceSelectors
