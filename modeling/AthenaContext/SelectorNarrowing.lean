import AthenaContext.ResourceSelectors

/-!
# Selector narrowing

`_selector_override_is_narrower`, the static check that an override selects no
resource the inherited selector does not, against the runtime of the selectors. A
kind at a time the check implies inclusion of the tests. The scale-set kind is the
exception: the check compares normalized text, the runtime an accepted identifier,
so an inherited spelling that the runtime rejects selects nothing.
-/

namespace AthenaContext.SelectorNarrowing

open EvidenceRecords FallibleResults OrdinalCollections ResourceIdentifiers ResourceSelectors
  TextNormalization

variable {unicode : UnicodeTables}

/-! ## The check -/

/-- `current ⊆ previous` as sets of normalized identifiers. -/
def normalizedSubset (unicode : UnicodeTables) (current previous : List Text) : Bool :=
  (current.map (normalizedId unicode)).all (previous.map (normalizedId unicode)).elem

/-- `_normalized_filter_is_narrower`. -/
def normalizedFilterIsNarrower (unicode : UnicodeTables) (previous current : List Text) : Bool :=
  previous.isEmpty || (!current.isEmpty && normalizedSubset unicode current previous)

/-- The predicates as a dictionary from normalized keys to NFC values. -/
def predicateEntries (selector : TagPredicateSelector unicode) : List (Text × Text) :=
  selector.predicates.map fun predicate =>
    (normalizedId unicode predicate.key, unicode.nfc predicate.value)

/-- `_selector_override_is_narrower` between atomic selectors of one kind. -/
def atomicIsNarrower : AtomicSelector unicode → AtomicSelector unicode → Bool
  | .resourceIdList previous, .resourceIdList current =>
    normalizedSubset unicode current.resourceIds previous.resourceIds
  | .tagPredicate previous, .tagPredicate current =>
    (predicateEntries previous).all fun entry =>
      dictValue (predicateEntries current) entry.1 == dictValue (predicateEntries previous) entry.1
  | .namePredicate previous, .namePredicate current =>
    previous.namePrefix.all (fun t =>
      current.namePrefix.any fun c => (unicode.nfc t).isPrefixOf (unicode.nfc c)) &&
    previous.nameSuffix.all (fun t =>
      current.nameSuffix.any fun c => (unicode.nfc t).isSuffixOf (unicode.nfc c))
  | .resourceType previous, .resourceType current =>
    normalizedId unicode previous.resourceType == normalizedId unicode current.resourceType &&
      normalizedFilterIsNarrower unicode previous.locations current.locations &&
      normalizedFilterIsNarrower unicode previous.resourceGroups current.resourceGroups
  | .vmScaleSet previous, .vmScaleSet current =>
    normalizedId unicode previous.scaleSetResourceId ==
        normalizedId unicode current.scaleSetResourceId &&
      normalizedFilterIsNarrower unicode previous.instanceIds current.instanceIds
  | .loadBalancerBackend previous, .loadBalancerBackend current =>
    normalizedId unicode previous.loadBalancerResourceId ==
        normalizedId unicode current.loadBalancerResourceId &&
      normalizedId unicode previous.backendPoolName == normalizedId unicode current.backendPoolName
  | .subnet previous, .subnet current =>
    normalizedId unicode previous.subnetResourceId == normalizedId unicode current.subnetResourceId
  | .image previous, .image current =>
    normalizedId unicode previous.publisher == normalizedId unicode current.publisher &&
      normalizedId unicode previous.offer == normalizedId unicode current.offer &&
      normalizedId unicode previous.sku == normalizedId unicode current.sku &&
      previous.version.all fun t =>
        current.version.any fun c => normalizedId unicode t == normalizedId unicode c
  | .provenance previous, .provenance current =>
    normalizedId unicode previous.collectorToolName ==
        normalizedId unicode current.collectorToolName &&
      previous.collectorToolVersion == current.collectorToolVersion &&
      normalizedId unicode previous.identityEvidenceRef ==
        normalizedId unicode current.identityEvidenceRef
  | _, _ => false

/-- `_selector_override_is_narrower` between atomic selectors. -/
def atomicOverrideIsNarrower (previous current : AtomicSelector unicode) : Bool :=
  current.header.maxMatches ≤ previous.header.maxMatches && atomicIsNarrower previous current

/-- The child a dictionary of the children by normalized identifier holds: the last one. -/
def childUnder (children : List (AtomicSelector unicode)) (childId : Text) :
    Option (AtomicSelector unicode) :=
  lastOfKey (fun child => normalizedId unicode child.header.selectorId) children childId

def childIds (children : List (AtomicSelector unicode)) : List Text :=
  children.map fun child => normalizedId unicode child.header.selectorId

/-- The comparison of two disjunctions child by child. -/
def childrenAreNarrower (previous current : List (AtomicSelector unicode)) : Bool :=
  (childIds previous).all (childIds current).elem && (childIds current).all (childIds previous).elem &&
    (childIds previous).all fun childId =>
      match childUnder previous childId, childUnder current childId with
      | some previousChild, some currentChild => atomicOverrideIsNarrower previousChild currentChild
      | _, _ => false

/-- `_selector_override_is_narrower`. -/
def selectorOverrideIsNarrower (previous current : ManifestSelector unicode) : Bool :=
  current.header.maxMatches ≤ previous.header.maxMatches &&
    match current, previous with
    | .compositeAll c, .compositeAll p =>
      p.children.all fun previousChild =>
        c.children.any fun currentChild => atomicOverrideIsNarrower previousChild currentChild
    | .compositeAll c, .compositeAny p =>
      p.children.any fun previousChild =>
        c.children.any fun currentChild => atomicOverrideIsNarrower previousChild currentChild
    | .compositeAll c, .atomic p => c.children.any (atomicOverrideIsNarrower p)
    | .compositeAny c, .compositeAny p => childrenAreNarrower p.children c.children
    | .atomic c, .atomic p => atomicIsNarrower p c
    | _, _ => false

def isCompositeAll : ManifestSelector unicode → Bool
  | .compositeAll _ => true
  | _ => false

/-- `is_guarded_selector_replacement_narrower`. -/
def isGuardedSelectorReplacementNarrower (previous current : List (ManifestSelector unicode)) : Bool :=
  !previous.isEmpty && !current.isEmpty && current.all isCompositeAll &&
    decide ((current.map fun s => s.header.maxMatches).sum ≤
      (previous.map fun s => s.header.maxMatches).sum) &&
    current.all fun replacement =>
      previous.any fun inherited => selectorOverrideIsNarrower inherited replacement

/-! ## Scale-set identifiers -/

/-- The identifier names a scale set: the instances behind it are its members. -/
def namesScaleSet (unicode : UnicodeTables) (scaleSetId : Text) : Bool :=
  scaleSetScan unicode [] (splitPath scaleSetId ++ ["virtualmachines".toList, "0".toList]) ==
    some (splitPath scaleSetId, "0".toList)

/-- The text is the comparison form of a component. -/
def isInstanceName (t : Text) : Bool := !t.isEmpty && t.all isPathCharacter

/-- The selector can select an instance: its identifier is accepted and names a scale
set, and its instance filter is empty or holds the name of an instance. -/
def canSelect (selector : VmssSelector unicode) : Bool :=
  isResourceId unicode selector.scaleSetResourceId &&
    namesScaleSet unicode (normalizedId unicode selector.scaleSetResourceId) &&
    (selector.instanceIds.isEmpty ||
      selector.instanceIds.any fun instanceId => isInstanceName (normalizedId unicode instanceId))

/-- Where an override that can select an instance is compared with an inherited
selector of the same scale set, the runtime accepts the inherited spelling as well. -/
def ScaleSetSpelled (previous current : AtomicSelector unicode) : Prop :=
  match previous, current with
  | .vmScaleSet p, .vmScaleSet c =>
    normalizedId unicode p.scaleSetResourceId = normalizedId unicode c.scaleSetResourceId →
      canSelect c = true → isResourceId unicode p.scaleSetResourceId = true
  | _, _ => True

/-- If the check accepts a child of one list for a child of another, it does so for two
whose scale sets are spelled as the runtime has them. -/
def ChildrenSpelled (previous current : List (AtomicSelector unicode)) : Prop :=
  (∃ p ∈ previous, ∃ c ∈ current, atomicOverrideIsNarrower p c = true) →
    ∃ p ∈ previous, ∃ c ∈ current, atomicOverrideIsNarrower p c = true ∧ ScaleSetSpelled p c

/-- `ScaleSetSpelled` for the atomic selectors that the check compares. -/
def ScaleSetsSpelled (previous current : ManifestSelector unicode) : Prop :=
  match current, previous with
  | .compositeAll c, .compositeAll p =>
    ∀ previousChild ∈ p.children, ChildrenSpelled [previousChild] c.children
  | .compositeAll c, .compositeAny p => ChildrenSpelled p.children c.children
  | .compositeAll c, .atomic p => ChildrenSpelled [p] c.children
  | .compositeAny c, .compositeAny p =>
    ∀ childId previousChild currentChild, childUnder p.children childId = some previousChild →
      childUnder c.children childId = some currentChild →
        ScaleSetSpelled previousChild currentChild
  | .atomic c, .atomic p => ScaleSetSpelled p c
  | _, _ => True

/-- What a found scale set says: the components up to it, an instance behind them, and
that any other instance behind the same components is found as well. -/
theorem scaleSetScan_some {before components parts : List Text} {instanceId : Text}
    (h : scaleSetScan unicode before components = some (parts, instanceId)) :
    ∃ own type rest, components = own ++ type :: instanceId :: rest ∧ parts = before ++ own ∧
      4 ≤ own.length ∧ ∀ other name others, casefold unicode other = "virtualmachines".toList →
        scaleSetScan unicode before (own ++ other :: name :: others) = some (parts, name) := by
  match components with
  | [] | [_] | [_, _] | [_, _, _] | [_, _, _, _] | [_, _, _, _, _] => simp [scaleSetScan] at h
  | p₀ :: p₁ :: p₂ :: p₃ :: p₄ :: p₅ :: rest =>
    rw [scaleSetScan] at h
    split_ifs at h with hfound
    · have he : (before ++ [p₀, p₁, p₂, p₃], p₅) = (parts, instanceId) := Option.some.inj h
      have hparts : before ++ [p₀, p₁, p₂, p₃] = parts := congrArg Prod.fst he
      have hinstance : p₅ = instanceId := congrArg Prod.snd he
      refine ⟨[p₀, p₁, p₂, p₃], p₄, rest, by rw [← hinstance]; rfl, hparts.symm, by simp, ?_⟩
      intro other name others ho
      rw [List.cons_append, List.cons_append, List.cons_append, List.cons_append, List.nil_append,
        scaleSetScan, if_pos ⟨hfound.1, hfound.2.1, hfound.2.2.1, ho⟩, hparts]
    · obtain ⟨own, type, tail, hcomponents, hparts, hlen, hany⟩ := scaleSetScan_some h
      -- the components of the longer path begin with those of the shorter one
      match own, hlen with
      | q₁ :: q₂ :: q₃ :: q₄ :: own', _ =>
        have hq : p₁ = q₁ ∧ p₂ = q₂ ∧ p₃ = q₃ ∧ p₄ = q₄ := by
          simp only [List.cons_append, List.cons.injEq] at hcomponents
          exact ⟨hcomponents.1, hcomponents.2.1, hcomponents.2.2.1, hcomponents.2.2.2.1⟩
        refine ⟨p₀ :: q₁ :: q₂ :: q₃ :: q₄ :: own', type, tail, by rw [hcomponents]; rfl,
          by rw [hparts]; simp, by simp, ?_⟩
        intro other name others ho
        have hnext := hany other name others ho
        have hsame : ¬ (casefold unicode p₀ = "providers".toList ∧
            casefold unicode q₁ = "microsoft.compute".toList ∧
            casefold unicode q₂ = "virtualmachinescalesets".toList ∧
            casefold unicode q₄ = "virtualmachines".toList) := by
          rw [← hq.1, ← hq.2.1, ← hq.2.2.2]
          exact hfound
        cases own' with
        | nil =>
          simp only [List.cons_append, List.nil_append] at hnext ⊢
          rw [scaleSetScan, if_neg hsame]
          exact hnext
        | cons q₅ own'' =>
          simp only [List.cons_append] at hnext ⊢
          rw [scaleSetScan, if_neg hsame]
          exact hnext
termination_by components.length

/-- The components of a comparison form are made of path characters. -/
theorem component_characters {value normalized part : Text}
    (h : normalizeResourceId unicode value = .ok normalized) (hp : part ∈ splitPath normalized) :
    ∀ c ∈ part, isPathCharacter c = true := by
  obtain ⟨he, hpath⟩ := normalizeResourceId_cases h
  rw [he, normalizedId, splitPath_casefold] at hp
  obtain ⟨source, hs, hpart⟩ := List.mem_map.mp hp
  rw [← hpart]
  exact (resourcePath_accepted hpath).foldsToPath source hs

/-- Behind the root, the components of a comparison form are not empty. -/
theorem component_ne_nil {value normalized : Text} {first : Text} {rest : List Text}
    (h : normalizeResourceId unicode value = .ok normalized)
    (hs : splitPath normalized = first :: rest) : [] ∉ rest := by
  obtain ⟨he, hpath⟩ := normalizeResourceId_cases h
  have hfolded := (resourcePath_accepted hpath).folded
  rw [← splitPath_casefold] at hfolded
  rw [he, normalizedId] at hs
  rw [hs] at hfolded
  obtain ⟨subscriptions, guid, others, hparts, -, hne, -⟩ := resourcePath_cases hfolded
  have hrest : rest = subscriptions :: guid :: others := (List.cons.inj hparts).2
  rwa [hrest]

/-- A membership found in a comparison form: the scale set is the path up to the
instance, and the instance is one of the components, as it stands. -/
theorem vmssMembership_some {value normalized scaleSetId instanceId : Text}
    (h : normalizeResourceId unicode value = .ok normalized)
    (hm : vmssMembership unicode normalized = .ok (some (scaleSetId, instanceId))) :
    namesScaleSet unicode scaleSetId = true ∧ isInstanceName instanceId = true ∧
      normalizeResourceId unicode scaleSetId = .ok scaleSetId := by
  rw [vmssMembership] at hm
  split at hm
  · simp at hm
  · rename_i parts found hscan
    split at hm
    · rename_i accepted haccepted
      have he : (accepted, comparisonText unicode found) = (scaleSetId, instanceId) :=
        Option.some.inj (Except.ok.inj hm)
      have hset : accepted = scaleSetId := congrArg Prod.fst he
      have hinst : comparisonText unicode found = instanceId := congrArg Prod.snd he
      obtain ⟨own, type, rest, hcomponents, hparts, hlen, hany⟩ := scaleSetScan_some hscan
      have hown : parts = own := by simpa using hparts
      rw [hown] at hany haccepted
      have hmem : ∀ part ∈ own, part ∈ splitPath normalized := fun part hp => by
        rw [hcomponents]
        exact List.mem_append_left _ hp
      have hplain : IsPlain (joinPath own) := by
        intro c hc
        rcases mem_joinPath hc with rfl | ⟨part, hp, hcp⟩
        · decide
        · have hchar := isPathCharacter_plain (component_characters h (hmem part hp) c hcp)
          exact ⟨hchar.1, hchar.2.1⟩
      have hid : scaleSetId = joinPath own := by
        rw [← hset, normalizeResourceId_eq haccepted, normalizedId_of_isPlain unicode hplain]
      have hsplit : splitPath (joinPath own) = own := by
        refine splitPath_joinPath (List.ne_nil_of_length_pos (by omega)) fun part hp => ?_
        exact separator_not_mem_of_mem_splitPath (hmem part hp)
      have hfoundMem : found ∈ splitPath normalized := by
        rw [hcomponents]
        simp
      have hfoundChars := component_characters h hfoundMem
      have hfoundPlain : IsPlain found := fun c hc =>
        have hchar := isPathCharacter_plain (hfoundChars c hc)
        ⟨hchar.1, hchar.2.1⟩
      have hfoundEq : instanceId = found := by
        rw [← hinst, comparisonText_eq, normalizedId_of_isPlain unicode hfoundPlain]
      have hvm : casefold unicode "virtualmachines".toList = "virtualmachines".toList :=
        casefold_of_isPlain unicode (by decide)
      refine ⟨?_, ?_, ?_⟩
      · have hscan' := hany "virtualmachines".toList "0".toList [] hvm
        rw [namesScaleSet, hid, hsplit, hscan', beq_self_eq_true]
      · have hne : found ≠ [] := by
          match own, hlen, hcomponents with
          | first :: others, _, hc =>
            have hnot := component_ne_nil h hc
            intro hnil
            exact hnot (by simp [hnil])
        have hall : found.all isPathCharacter = true := List.all_eq_true.mpr hfoundChars
        rw [hfoundEq, isInstanceName, hall]
        simpa using hne
      · rw [hid]
        have hself := normalizeResourceId_eq haccepted
        rw [normalizedId_of_isPlain unicode hplain] at hself
        rw [haccepted, hself]
    · simp at hm

/-! ## Soundness -/

theorem normalizedSubset_iff {current previous : List Text} :
    normalizedSubset unicode current previous = true ↔
      ∀ t ∈ current, normalizedId unicode t ∈ previous.map (normalizedId unicode) := by
  simp only [normalizedSubset, List.all_map, List.all_eq_true, Function.comp_apply, List.elem_iff]

theorem empty_filter_narrows {previous current : List Text}
    (h : normalizedFilterIsNarrower unicode previous current = true)
    (hc : current.isEmpty = true) : previous.isEmpty = true := by
  simpa [normalizedFilterIsNarrower, hc] using h

/-- A narrower filter that admits a value leaves the inherited filter admitting it. -/
theorem filter_narrows {previous current : List Text} {value : Text}
    (h : normalizedFilterIsNarrower unicode previous current = true)
    (hc : current.isEmpty = true ∨ value ∈ current.map (comparisonText unicode)) :
    previous.isEmpty = true ∨ value ∈ previous.map (comparisonText unicode) := by
  rcases hc with hempty | hmem
  · exact .inl (empty_filter_narrows h hempty)
  · simp only [normalizedFilterIsNarrower, Bool.or_eq_true, Bool.and_eq_true] at h
    refine h.imp_right fun hsub => ?_
    obtain ⟨t, ht, he⟩ := List.mem_map.mp hmem
    have hin := normalizedSubset_iff.mp hsub.2 t ht
    rw [← he]
    exact hin

theorem dictValue_mem {entries : List (Text × Text)} {key value : Text}
    (h : dictValue entries key = some value) : (key, value) ∈ entries := by
  obtain ⟨entry, he, hv⟩ := Option.map_eq_some_iff.mp h
  obtain ⟨hm, hk⟩ := lastOfKey_some he
  rwa [← hk, ← hv]

/-- With distinct keys, a dictionary holds the value of each of its entries. -/
theorem dictValue_of_mem {entries : List (Text × Text)} (hkeys : (entries.map Prod.fst).Nodup)
    {entry : Text × Text} (h : entry ∈ entries) : dictValue entries entry.1 = some entry.2 := by
  rw [dictValue, lastOfKey_of_mem hkeys h]
  rfl

/-- A predicate of the inherited selector is one of the override up to normalization. -/
theorem predicate_narrows {previous current : TagPredicateSelector unicode}
    (h : atomicIsNarrower (.tagPredicate previous) (.tagPredicate current) = true)
    {predicate : TagEquals} (hp : predicate ∈ previous.predicates) :
    ∃ other ∈ current.predicates,
      normalizedId unicode other.key = normalizedId unicode predicate.key ∧
        unicode.nfc other.value = unicode.nfc predicate.value := by
  have hkeys : ((predicateEntries previous).map Prod.fst).Nodup := by
    have hu := previous.keys_unique
    simpa [predicateEntries, UniqueText, Function.comp_def] using hu
  have hentry : (normalizedId unicode predicate.key, unicode.nfc predicate.value) ∈
      predicateEntries previous := List.mem_map_of_mem hp
  have hall := List.all_eq_true.mp h _ hentry
  have hvalue : dictValue (predicateEntries current) (normalizedId unicode predicate.key) =
      some (unicode.nfc predicate.value) := by
    rw [beq_iff_eq.mp hall]
    exact dictValue_of_mem hkeys hentry
  obtain ⟨other, ho, he⟩ := List.mem_map.mp (dictValue_mem hvalue)
  exact ⟨other, ho, congrArg Prod.fst he, congrArg Prod.snd he⟩

theorem tagMatches_narrows {previous current : TagPredicateSelector unicode}
    (h : atomicIsNarrower (.tagPredicate previous) (.tagPredicate current) = true)
    {resource : ResourceEvidenceRecord} (hc : tagMatches current resource = true) :
    tagMatches previous resource = true := by
  refine List.all_eq_true.mpr fun predicate hp => ?_
  obtain ⟨other, ho, hkey, hvalue⟩ := predicate_narrows h hp
  have hother := List.all_eq_true.mp hc other ho
  have hk : comparisonText unicode other.key = comparisonText unicode predicate.key := hkey
  have hv : comparisonText unicode other.value = comparisonText unicode predicate.value :=
    congrArg (casefold unicode) hvalue
  rwa [hk, hv] at hother

theorem isPrefixOf_casefold {a b : Text} (h : a.isPrefixOf b = true) :
    (casefold unicode a).isPrefixOf (casefold unicode b) = true := by
  obtain ⟨rest, hr⟩ := List.isPrefixOf_iff_prefix.mp h
  refine List.isPrefixOf_iff_prefix.mpr ⟨casefold unicode rest, ?_⟩
  rw [← casefold_append, hr]

theorem isSuffixOf_casefold {a b : Text} (h : a.isSuffixOf b = true) :
    (casefold unicode a).isSuffixOf (casefold unicode b) = true := by
  obtain ⟨front, hf⟩ := List.isSuffixOf_iff_suffix.mp h
  refine List.isSuffixOf_iff_suffix.mpr ⟨casefold unicode front, ?_⟩
  rw [← casefold_append, hf]

theorem namePrefix_narrows {previous current : Option Text} {name : Text}
    (h : previous.all (fun t => current.any fun c =>
      (unicode.nfc t).isPrefixOf (unicode.nfc c)) = true)
    (hc : current.all (fun t => (comparisonText unicode t).isPrefixOf name) = true) :
    previous.all (fun t => (comparisonText unicode t).isPrefixOf name) = true := by
  cases previous with
  | none => rfl
  | some p =>
    cases current with
    | none => simp at h
    | some c =>
      have hpc : casefold unicode (unicode.nfc p) <+: casefold unicode (unicode.nfc c) :=
        List.isPrefixOf_iff_prefix.mp (isPrefixOf_casefold h)
      have hcn := List.isPrefixOf_iff_prefix.mp hc
      exact List.isPrefixOf_iff_prefix.mpr (hpc.trans hcn)

theorem nameSuffix_narrows {previous current : Option Text} {name : Text}
    (h : previous.all (fun t => current.any fun c =>
      (unicode.nfc t).isSuffixOf (unicode.nfc c)) = true)
    (hc : current.all (fun t => (comparisonText unicode t).isSuffixOf name) = true) :
    previous.all (fun t => (comparisonText unicode t).isSuffixOf name) = true := by
  cases previous with
  | none => rfl
  | some p =>
    cases current with
    | none => simp at h
    | some c =>
      have hpc : casefold unicode (unicode.nfc p) <:+ casefold unicode (unicode.nfc c) :=
        List.isSuffixOf_iff_suffix.mp (isSuffixOf_casefold h)
      have hcn := List.isSuffixOf_iff_suffix.mp hc
      exact List.isSuffixOf_iff_suffix.mpr (hpc.trans hcn)

theorem vmScaleSet_narrows {previous current : VmssSelector unicode}
    (h : atomicIsNarrower (.vmScaleSet previous) (.vmScaleSet current) = true)
    (hspelled : ScaleSetSpelled (.vmScaleSet previous) (.vmScaleSet current))
    {value x : Text} (hx : normalizeResourceId unicode value = .ok x)
    {resource : ResourceEvidenceRecord} (hc : admits (.vmScaleSet current) x resource = .ok true) :
    admits (.vmScaleSet previous) x resource = .ok true := by
  simp only [atomicIsNarrower, Bool.and_eq_true, beq_iff_eq] at h
  obtain ⟨hsame, hfilter⟩ := h
  rw [admits] at hc
  split at hc
  · simp at hc
  · rename_i expected hexpected
    split at hc
    · simp at hc
    · simp at hc
    · rename_i scaleSet instanceId hmember
      have hmatch : (scaleSet == expected) = true ∧
          (current.instanceIds.isEmpty = true ∨
            instanceId ∈ current.instanceIds.map (comparisonText unicode)) := by
        have hb := Except.ok.inj hc
        simpa only [Bool.and_eq_true, Bool.or_eq_true, List.elem_iff] using hb
      obtain ⟨hnames, hinstance, _⟩ := vmssMembership_some hx hmember
      have hset : scaleSet = expected := beq_iff_eq.mp hmatch.1
      have hexp : expected = normalizedId unicode current.scaleSetResourceId :=
        normalizeResourceId_eq hexpected
      have hcan : canSelect current = true := by
        have haccepted : isResourceId unicode current.scaleSetResourceId = true :=
          isResourceId_iff.mpr (hexp ▸ hexpected)
        have hfound : current.instanceIds.isEmpty = true ∨
            ∃ t ∈ current.instanceIds, isInstanceName (normalizedId unicode t) = true := by
          refine hmatch.2.imp_right fun hm => ?_
          obtain ⟨t, ht, he⟩ := List.mem_map.mp hm
          rw [comparisonText_eq] at he
          exact ⟨t, ht, by rwa [he]⟩
        rw [hset, hexp] at hnames
        simp only [canSelect, Bool.and_eq_true, Bool.or_eq_true, List.any_eq_true]
        exact ⟨⟨haccepted, hnames⟩, hfound⟩
      have hprevious := isResourceId_iff.mp (hspelled hsame hcan)
      have hfinal := filter_narrows hfilter hmatch.2
      simp only [admits, hprevious, hmember, hset, hexp, hsame, beq_self_eq_true, Bool.true_and]
      simpa only [Except.ok.injEq, Bool.or_eq_true, List.elem_iff] using hfinal

/-- One atomic override: a resource it selects is selected by the inherited selector. -/
theorem admits_narrows {previous current : AtomicSelector unicode}
    (h : atomicIsNarrower previous current = true) (hspelled : ScaleSetSpelled previous current)
    {resource : ResourceEvidenceRecord} {x : Text}
    (hx : normalizeResourceId unicode resource.resourceId = .ok x)
    (hc : admits current x resource = .ok true) : admits previous x resource = .ok true := by
  unfold atomicIsNarrower at h
  split at h
  · rename_i p c
    have hm : x ∈ c.resourceIds.map (comparisonText unicode) := by
      simpa only [admits, Except.ok.injEq, List.elem_iff] using hc
    obtain ⟨t, ht, he⟩ := List.mem_map.mp hm
    have hin := normalizedSubset_iff.mp h t ht
    simp only [admits, Except.ok.injEq, List.elem_iff]
    rw [← he]
    exact hin
  · rename_i p c
    have hm : tagMatches c resource = true := by simpa only [admits, Except.ok.injEq] using hc
    simp only [admits, Except.ok.injEq]
    exact tagMatches_narrows h hm
  · rename_i p c
    have hm := Bool.and_eq_true_iff.mp (Except.ok.inj hc)
    have hn := Bool.and_eq_true_iff.mp h
    simp only [admits, Except.ok.injEq, Bool.and_eq_true]
    exact ⟨namePrefix_narrows hn.1 hm.1, nameSuffix_narrows hn.2 hm.2⟩
  · rename_i p c
    have hm := Except.ok.inj hc
    simp only [Bool.and_eq_true, beq_iff_eq] at h
    obtain ⟨⟨htype, hlocations⟩, hgroups⟩ := h
    simp only [Bool.and_eq_true, beq_iff_eq, Bool.or_eq_true, List.elem_iff,
      Option.any_eq_true] at hm
    obtain ⟨⟨hmtype, hmlocation⟩, hmgroup⟩ := hm
    simp only [admits, Except.ok.injEq, Bool.and_eq_true, beq_iff_eq, Bool.or_eq_true, List.elem_iff,
      Option.any_eq_true]
    refine ⟨⟨hmtype.trans htype.symm, filter_narrows hlocations hmlocation⟩, ?_⟩
    rcases hmgroup with hempty | ⟨group, hgroup, hin⟩
    · exact .inl (empty_filter_narrows hgroups hempty)
    · exact (filter_narrows hgroups (.inr hin)).imp_right fun hv => ⟨group, hgroup, hv⟩
  · rename_i p c
    exact vmScaleSet_narrows h hspelled hx hc
  · simp [admits] at hc
  · simp [admits] at hc
  · simp [admits] at hc
  · rename_i p c
    have hm := Except.ok.inj hc
    simp only [Bool.and_eq_true, beq_iff_eq] at h hm
    simp only [admits, Except.ok.injEq, Bool.and_eq_true, beq_iff_eq]
    exact ⟨⟨hm.1.1.trans h.1.1.symm, hm.1.2.trans (congrArg _ h.1.2.symm)⟩,
      hm.2.trans h.2.symm⟩
  · exact absurd h (by decide)

theorem narrower_atomic {previous current : AtomicSelector unicode}
    (h : atomicOverrideIsNarrower previous current = true) : atomicIsNarrower previous current = true :=
  (Bool.and_eq_true_iff.mp h).2

/-- Distinct identifiers make each child the one its identifier stands for. -/
theorem childUnder_self {selector : CompositeSelector unicode} {child : AtomicSelector unicode}
    (hc : child ∈ selector.children) :
    childUnder selector.children (normalizedId unicode child.header.selectorId) = some child := by
  have hkeys : (selector.children.map fun c => normalizedId unicode c.header.selectorId).Nodup := by
    have hu := selector.children_unique
    simpa [UniqueText, Function.comp_def] using hu
  exact lastOfKey_of_mem hkeys hc

/-- In a narrower disjunction each child narrows the inherited child of its identifier. -/
theorem childrenAreNarrower_mem {previous current : CompositeSelector unicode}
    (h : childrenAreNarrower previous.children current.children = true)
    {child : AtomicSelector unicode} (hc : child ∈ current.children) :
    ∃ childId inherited, childUnder previous.children childId = some inherited ∧
      childUnder current.children childId = some child ∧
      atomicOverrideIsNarrower inherited child = true := by
  simp only [childrenAreNarrower, Bool.and_eq_true, List.all_eq_true, List.elem_iff] at h
  obtain ⟨⟨-, hkeys⟩, hall⟩ := h
  have hid := hkeys _ (List.mem_map_of_mem (f := fun c => normalizedId unicode c.header.selectorId) hc)
  have hchild := hall _ hid
  rw [childUnder_self hc] at hchild
  split at hchild
  · rename_i p c hp hcurrent
    have he : child = c := Option.some.inj hcurrent
    exact ⟨_, p, hp, childUnder_self hc, by rw [he]; exact hchild⟩
  · exact absurd hchild (by decide)

/-- Of two accepted children one pair selects as the check has it. -/
theorem ChildrenSpelled.narrows {previous current : List (AtomicSelector unicode)}
    (h : ChildrenSpelled previous current)
    (haccepted : ∃ p ∈ previous, ∃ c ∈ current, atomicOverrideIsNarrower p c = true)
    {resource : ResourceEvidenceRecord} {x : Text}
    (hx : normalizeResourceId unicode resource.resourceId = .ok x)
    (hc : ∀ c ∈ current, admits c x resource = .ok true) :
    ∃ p ∈ previous, admits p x resource = .ok true := by
  obtain ⟨p, hp, c, hm, hn, hspelled⟩ := h haccepted
  exact ⟨p, hp, admits_narrows (narrower_atomic hn) hspelled hx (hc c hm)⟩

/-- An override that passes the check selects no resource the inherited selector does not. -/
theorem selects_narrows {previous current : ManifestSelector unicode}
    (h : selectorOverrideIsNarrower previous current = true)
    (hspelled : ScaleSetsSpelled previous current) {resource : ResourceEvidenceRecord} {x : Text}
    (hx : normalizeResourceId unicode resource.resourceId = .ok x)
    (hc : Selects current x resource) : Selects previous x resource := by
  have hcheck := (Bool.and_eq_true_iff.mp h).2
  match current, previous with
  | .compositeAll c, .compositeAll p =>
    intro inherited hi
    obtain ⟨child, hm, hn⟩ := List.any_eq_true.mp (List.all_eq_true.mp hcheck inherited hi)
    obtain ⟨selected, hs, ha⟩ := (hspelled inherited hi).narrows
      ⟨inherited, List.mem_singleton_self _, child, hm, hn⟩ hx hc
    rwa [List.mem_singleton.mp hs] at ha
  | .compositeAll c, .compositeAny p =>
    obtain ⟨inherited, hi, hany⟩ := List.any_eq_true.mp hcheck
    obtain ⟨child, hm, hn⟩ := List.any_eq_true.mp hany
    exact ChildrenSpelled.narrows hspelled ⟨inherited, hi, child, hm, hn⟩ hx hc
  | .compositeAll c, .atomic p =>
    obtain ⟨child, hm, hn⟩ := List.any_eq_true.mp hcheck
    obtain ⟨selected, hs, ha⟩ := ChildrenSpelled.narrows hspelled
      ⟨p, List.mem_singleton_self _, child, hm, hn⟩ hx hc
    rwa [List.mem_singleton.mp hs] at ha
  | .compositeAny c, .compositeAny p =>
    obtain ⟨child, hm, ha⟩ := hc
    obtain ⟨childId, inherited, hinherited, hchild, hn⟩ := childrenAreNarrower_mem hcheck hm
    exact ⟨inherited, (lastOfKey_some hinherited).1, admits_narrows (narrower_atomic hn)
      (hspelled childId inherited child hinherited hchild) hx ha⟩
  | .atomic c, .atomic p => exact admits_narrows hcheck hspelled hx hc
  | .compositeAny _, .compositeAll _ | .compositeAny _, .atomic _ | .atomic _, .compositeAll _
  | .atomic _, .compositeAny _ => exact Bool.noConfusion hcheck

/-- On one estate, the resources of the override are among those of the inherited selector. -/
theorem matched_narrows {previous current : ManifestSelector unicode}
    (h : selectorOverrideIsNarrower previous current = true)
    (hspelled : ScaleSetsSpelled previous current) {records : List ResourceEvidenceRecord}
    {before after : SelectorEvaluation unicode}
    (hp : evaluateSelector previous records = .ok before)
    (hc : evaluateSelector current records = .ok after) :
    after.matchedResourceIds ⊆ before.matchedResourceIds := by
  intro x hm
  obtain ⟨resource, hr, hx, hs⟩ := (evaluateSelector_matched hc x).mp hm
  exact (evaluateSelector_matched hp x).mpr ⟨resource, hr, hx, selects_narrows h hspelled hx hs⟩

/-! ## Necessity of the spelling -/

/-- On every estate the matches of the override are among those of the inherited selector. -/
def NarrowingHolds (previous current : ManifestSelector unicode) : Prop :=
  ∀ records (before after : SelectorEvaluation unicode),
    evaluateSelector previous records = .ok before →
      evaluateSelector current records = .ok after →
        after.matchedResourceIds ⊆ before.matchedResourceIds

/-- An estate of one resource on which the test of an atomic selector does not raise. -/
theorem evaluateSelector_single {selector : AtomicSelector unicode}
    {resource : ResourceEvidenceRecord} {x : Text} {b : Bool}
    (hx : normalizeResourceId unicode resource.resourceId = .ok x)
    (ha : admits selector x resource = .ok b) :
    ∃ evaluation, evaluateSelector (.atomic selector) [resource] = .ok evaluation := by
  have hby : resourcesById unicode [resource] [] = .ok [(x, resource)] := by
    rw [resourcesById, hx]
    rfl
  have hmatched : ∃ matched, matched.length ≤ 1 ∧
      atomicMatches selector [(x, resource)] = .ok matched := by
    refine ⟨if b then [x] else [], by split <;> simp, ?_⟩
    rw [atomicMatches, matchingIds, ha]
    rfl
  obtain ⟨matched, hlen, hm⟩ := hmatched
  have heval : evaluate [(x, resource)] (.atomic selector) =
      .ok (bounded selector.header matched []) := by
    change evaluateAtomic [(x, resource)] selector = _
    rw [evaluateAtomic, hm]
    rfl
  obtain ⟨evaluation, he⟩ : ∃ evaluation, selectorEvaluation (.atomic selector) [x]
      (bounded selector.header matched []) = .ok evaluation := by
    have hrejected := List.length_filter_le
      (fun resourceId => !(bounded selector.header matched []).1.elem resourceId) [x]
    have hviolations : (bounded selector.header matched []).2.length ≤ 1 := by
      simp only [bounded]
      split <;> simp
    have hdedup := (List.dedup_sublist (bounded selector.header matched []).2).length_le
    have hbounds : HasLength 0 30000 (sortOn id (bounded selector.header matched []).1) ∧
        HasLength 0 30000 (sortOn id ([x].filter fun resourceId =>
          !(bounded selector.header matched []).1.elem resourceId)) ∧
        HasLength 0 100
          (sortOn (casefold unicode) (bounded selector.header matched []).2.dedup) := by
      have hone : [x].length = 1 := rfl
      have hmatches : (bounded selector.header matched []).1 = matched := rfl
      simp only [HasLength, length_sortOn]
      rw [hmatches] at hrejected ⊢
      omega
    rw [selectorEvaluation, dif_pos hbounds]
    exact ⟨_, rfl⟩
  exact ⟨evaluation, bind_ok_iff.mpr ⟨_, hby, bind_ok_iff.mpr ⟨_, heval, he⟩⟩⟩

/-- A record with the given identifier. -/
def recordNamed (resourceId : Text) : ResourceEvidenceRecord where
  resourceId := resourceId
  resourceType := .virtualMachines
  location := .eastus
  tags := ⟨some .production, none, none, none, none, by decide⟩
  provenance := ⟨[], .resourceInventoryRead, [], none, none⟩
  itemDigest := []
  collectorAttemptDigest := []
  collectorIdentityEvidenceRef := []

/-- A scale set that can select an instance has one: an identifier behind its own,
which the runtime takes for a member. -/
theorem canSelect_instance {selector : VmssSelector unicode} (h : canSelect selector = true) :
    ∃ x instanceId, normalizeResourceId unicode x = .ok x ∧
      vmssMembership unicode x =
        .ok (some (normalizedId unicode selector.scaleSetResourceId, instanceId)) ∧
      (selector.instanceIds.isEmpty = true ∨
        instanceId ∈ selector.instanceIds.map (comparisonText unicode)) := by
  simp only [canSelect, Bool.and_eq_true, Bool.or_eq_true, List.any_eq_true] at h
  obtain ⟨⟨haccepted, hnames⟩, hfilter⟩ := h
  have hid := isResourceId_iff.mp haccepted
  have hself := normalizeResourceId_idem hid
  obtain ⟨instanceId, hinstance, hin⟩ : ∃ instanceId, isInstanceName instanceId = true ∧
      (selector.instanceIds.isEmpty = true ∨
        instanceId ∈ selector.instanceIds.map (comparisonText unicode)) := by
    rcases hfilter with hempty | ⟨t, ht, hname⟩
    · exact ⟨"0".toList, by decide, .inl hempty⟩
    · exact ⟨normalizedId unicode t, hname, .inr (List.mem_map_of_mem ht)⟩
  have hchars : ∀ c ∈ instanceId, isPathCharacter c = true := by
    simp only [isInstanceName, Bool.and_eq_true, List.all_eq_true] at hinstance
    exact hinstance.2
  have hcomponent : isComponent instanceId = true := by
    simp only [isInstanceName, Bool.and_eq_true] at hinstance
    simp only [isComponent, Bool.and_eq_true, List.all_eq_true]
    refine ⟨hinstance.1, fun c hc => ?_⟩
    exact ascii_forall (P := fun c => isPathCharacter c = true → isComponentCharacter c = true)
      (by decide) c (isPathCharacter_ascii (hchars c hc)) (hchars c hc)
  have htype : ∀ c ∈ "virtualmachines".toList, isPathCharacter c = true :=
    List.all_eq_true.mp (by decide)
  have hx := normalizeResourceId_append hself (by decide) (by decide) hcomponent htype hchars
  have hslash : ∀ {u : Text}, (∀ c ∈ u, isPathCharacter c = true) → '/' ∉ u := fun hu hm =>
    absurd (hu _ hm) (by decide)
  have hsplit : splitPath (normalizedId unicode selector.scaleSetResourceId ++
      '/' :: "virtualmachines".toList ++ '/' :: instanceId) =
      splitPath (normalizedId unicode selector.scaleSetResourceId) ++
        "virtualmachines".toList :: instanceId :: [] := by
    rw [splitPath_append, splitPath_append, splitPath, splitPath, splitPath,
      List.splitOn_eq_singleton (hslash htype), List.splitOn_eq_singleton (hslash hchars)]
    simp
  have hplain : IsPlain instanceId := fun c hc =>
    have hchar := isPathCharacter_plain (hchars c hc)
    ⟨hchar.1, hchar.2.1⟩
  have hvm : casefold unicode "virtualmachines".toList = "virtualmachines".toList :=
    casefold_of_isPlain unicode (by decide)
  have hscan := beq_iff_eq.mp hnames
  obtain ⟨own, type, rest, hcomponents, hparts, -, hany⟩ := scaleSetScan_some hscan
  have hown : splitPath (normalizedId unicode selector.scaleSetResourceId) = own := by
    simpa using hparts
  have hfound := hany "virtualmachines".toList instanceId [] hvm
  rw [← hown, ← hsplit] at hfound
  refine ⟨_, instanceId, hx, ?_, hin⟩
  rw [vmssMembership, hfound]
  simp only [joinPath_splitPath, hself, comparisonText_eq, normalizedId_of_isPlain unicode hplain]

/-- If the check passes and the override's matches are always among the inherited ones,
the inherited spelling is one the runtime accepts. -/
theorem spelled_of_narrowing {previous current : AtomicSelector unicode}
    (h : NarrowingHolds (.atomic previous) (.atomic current)) :
    ScaleSetSpelled previous current := by
  match previous, current with
  | .vmScaleSet p, .vmScaleSet c =>
    intro hsame hcan
    by_contra hrejected
    obtain ⟨x, instanceId, hx, hmember, hin⟩ := canSelect_instance hcan
    have hcid : normalizeResourceId unicode c.scaleSetResourceId =
        .ok (normalizedId unicode c.scaleSetResourceId) := by
      simp only [canSelect, Bool.and_eq_true] at hcan
      exact isResourceId_iff.mp hcan.1.1
    have hadmitted : admits (.vmScaleSet c) x (recordNamed x) = .ok true := by
      simp only [admits, hcid, hmember, beq_self_eq_true, Bool.true_and, Except.ok.injEq,
        Bool.or_eq_true, List.elem_iff]
      exact hin
    have hrefused : admits (.vmScaleSet p) x (recordNamed x) = .ok false := by
      cases hp : normalizeResourceId unicode p.scaleSetResourceId with
      | error message => simp [admits, hp]
      | ok normalized =>
        refine absurd (isResourceId_iff.mpr ?_) hrejected
        rw [hp, normalizeResourceId_eq hp]
    have hid : normalizeResourceId unicode (recordNamed x).resourceId = .ok x := hx
    obtain ⟨before, hb⟩ := evaluateSelector_single hid hrefused
    obtain ⟨after, ha⟩ := evaluateSelector_single hid hadmitted
    have hafter := (evaluateSelector_matched ha x).mpr
      ⟨recordNamed x, by simp, hx, hadmitted⟩
    have hbefore := h [recordNamed x] before after hb ha hafter
    obtain ⟨resource, hr, -, hs⟩ := (evaluateSelector_matched hb x).mp hbefore
    have he : resource = recordNamed x := by simpa using hr
    rw [he] at hs
    have hfalse : (Except.ok false : Except String Bool) = .ok true := hrefused.symm.trans hs
    exact absurd hfalse (by simp)
  | .resourceIdList _, _ | .tagPredicate _, _ | .namePredicate _, _ | .resourceType _, _
  | .loadBalancerBackend _, _ | .subnet _, _ | .image _, _ | .provenance _, _ => trivial
  | .vmScaleSet _, .resourceIdList _ | .vmScaleSet _, .tagPredicate _
  | .vmScaleSet _, .namePredicate _ | .vmScaleSet _, .resourceType _
  | .vmScaleSet _, .loadBalancerBackend _ | .vmScaleSet _, .subnet _ | .vmScaleSet _, .image _
  | .vmScaleSet _, .provenance _ => trivial

/-! ## Replacements -/

/-- The union of what the selectors of a list match. -/
def matchedByAll (selectors : List (ManifestSelector unicode))
    (records : List ResourceEvidenceRecord) : Except String (List Text) := do
  let evaluations ← selectors.mapM (evaluateSelector · records)
  pure (evaluations.flatMap SelectorEvaluation.matchedResourceIds)

theorem mem_matchedByAll {selectors : List (ManifestSelector unicode)}
    {records : List ResourceEvidenceRecord} {ids : List Text}
    (h : matchedByAll selectors records = .ok ids) (x : Text) :
    x ∈ ids ↔ ∃ selector ∈ selectors, ∃ resource ∈ records,
      normalizeResourceId unicode resource.resourceId = .ok x ∧ Selects selector x resource := by
  obtain ⟨evaluations, he, hf⟩ := bind_ok_iff.mp h
  rw [← pure_ok_iff.mp hf, List.mem_flatMap]
  constructor
  · rintro ⟨evaluation, hm, hx⟩
    obtain ⟨selector, hs, hev⟩ := mapM_ok_right he hm
    exact ⟨selector, hs, (evaluateSelector_matched hev x).mp hx⟩
  · rintro ⟨selector, hs, hx⟩
    obtain ⟨evaluation, hm, hev⟩ := mapM_ok_left he hs
    exact ⟨evaluation, hm, (evaluateSelector_matched hev x).mpr hx⟩

/-- If each selector of a list narrows one of another, its union is included. -/
theorem matchedByAll_narrows {previous current : List (ManifestSelector unicode)}
    (h : ∀ c ∈ current, ∃ p ∈ previous, ∀ resource x,
      normalizeResourceId unicode resource.resourceId = .ok x → Selects c x resource →
        Selects p x resource)
    {records : List ResourceEvidenceRecord} {before after : List Text}
    (hp : matchedByAll previous records = .ok before)
    (hc : matchedByAll current records = .ok after) : after ⊆ before := by
  intro x hm
  obtain ⟨selector, hs, resource, hr, hx, hsel⟩ := (mem_matchedByAll hc x).mp hm
  obtain ⟨inherited, hi, hnarrow⟩ := h selector hs
  exact (mem_matchedByAll hp x).mpr ⟨inherited, hi, resource, hr, hx, hnarrow resource x hx hsel⟩

theorem replacement_narrows {previous current : List (ManifestSelector unicode)}
    (h : isGuardedSelectorReplacementNarrower previous current = true)
    (hspelled : ∀ c ∈ current, (∃ p ∈ previous, selectorOverrideIsNarrower p c = true) →
      ∃ p ∈ previous, selectorOverrideIsNarrower p c = true ∧ ScaleSetsSpelled p c)
    {records : List ResourceEvidenceRecord} {before after : List Text}
    (hp : matchedByAll previous records = .ok before)
    (hc : matchedByAll current records = .ok after) : after ⊆ before := by
  refine matchedByAll_narrows (fun c hcm => ?_) hp hc
  have hall := List.all_eq_true.mp (Bool.and_eq_true_iff.mp h).2 c hcm
  obtain ⟨p, hpm, hn, hsp⟩ := hspelled c hcm (List.any_eq_true.mp hall)
  exact ⟨p, hpm, fun resource x hx hs => selects_narrows hn hsp hx hs⟩

end AthenaContext.SelectorNarrowing
