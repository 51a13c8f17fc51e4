import AthenaContext.SelectorNarrowing

/-!
# Role resolution

The roles of a profile: what each profile of the inheritance chain adds to the
inherited roles, the checks on its overrides, and the roles it disables. A role that
a profile inherits binds no resource that its parent's role does not.
-/

namespace AthenaContext.RoleResolution

open EvidenceRecords FallibleResults OrdinalCollections ResourceIdentifiers ResourceSelectors
  SelectorNarrowing TextNormalization

/-- Milliseconds since the epoch. -/
abbrev UtcDateTime := ℤ

/-- `kind` of a role. -/
inductive RoleKind
  | singletonDatabase | databaseReplica | worker | webService | loadBalancer | integrationEndpoint
  | storage | network | identity | observability | externalDependency
  deriving DecidableEq, Repr

inductive CardinalityKind
  | exactlyOne | oneOrMore | zeroOrMore | boundedRange
  deriving DecidableEq, Repr

inductive ManifestCardinality
  | exactlyOne
  | oneOrMore
  | zeroOrMore
  | boundedRange (minimum maximum : ℕ) (range : minimum ≤ maximum ∧ maximum ≤ 10000)
  deriving DecidableEq

def ManifestCardinality.kind : ManifestCardinality → CardinalityKind
  | .exactlyOne => .exactlyOne
  | .oneOrMore => .oneOrMore
  | .zeroOrMore => .zeroOrMore
  | .boundedRange _ _ _ => .boundedRange

/-- `_cardinality_bounds`. -/
def cardinalityBounds : ManifestCardinality → ℕ × ℕ
  | .exactlyOne => (1, 1)
  | .oneOrMore => (1, 10000)
  | .zeroOrMore => (0, 10000)
  | .boundedRange minimum maximum _ => (minimum, maximum)

inductive RoleStatus
  | approved | deprecated
  deriving DecidableEq, Repr

/-- `ManifestRole`: one to twenty selectors with distinct identifiers. -/
@[ext]
structure ManifestRole (unicode : UnicodeTables) where
  roleId : Text
  kind : RoleKind
  cardinality : ManifestCardinality
  selectors : List (ManifestSelector unicode)
  ownerRef : Text
  status : RoleStatus
  roleId_length : HasLength 1 128 roleId
  selectors_length : HasLength 1 20 selectors
  ownerRef_length : HasLength 1 128 ownerRef
  selectors_unique : UniqueText unicode (selectors.map fun s => s.header.selectorId)

instance {unicode : UnicodeTables} : DecidableEq (ManifestRole unicode) := fun _ _ =>
  decidable_of_iff _ ManifestRole.ext_iff.symm

inductive OverrideReason
  | continuityRelaxation | cardinalityRelaxation | zoneRequirementRelaxation
  | controlRequirementRelaxation | constraintRequirementRelaxation | disableInheritedItem
  deriving DecidableEq, Repr

inductive ApprovalStatus
  | approved | expired | revoked | superseded
  deriving DecidableEq, Repr

/-- `GovernedWeakeningOverride`, the fields that authorize. -/
structure GovernedWeakeningOverride where
  overrideId : Text
  reason : OverrideReason
  targetPath : Text
  targetRef : Text
  status : ApprovalStatus
  acceptedAt : UtcDateTime
  expiresAt : UtcDateTime
  profiles : List Text
  deriving DecidableEq

inductive TargetKind
  | role | relationship | constraint | control | riskAcceptance | objective | owner
  deriving DecidableEq, Repr

def TargetKind.text : TargetKind → Text
  | .role => "role".toList
  | .relationship => "relationship".toList
  | .constraint => "constraint".toList
  | .control => "control".toList
  | .riskAcceptance => "riskAcceptance".toList
  | .objective => "objective".toList
  | .owner => "owner".toList

structure DisabledManifestRef where
  targetKind : TargetKind
  targetRef : Text
  governanceOverrideRef : Text
  deriving DecidableEq

/-- The part of a `ManifestProfile` that its roles depend on. -/
structure ManifestProfile (unicode : UnicodeTables) where
  profileId : Text
  parent : Option Text
  roles : List (ManifestRole unicode)
  weakeningOverrides : List GovernedWeakeningOverride
  disabledRefs : List DisabledManifestRef
  roles_unique : UniqueText unicode (roles.map ManifestRole.roleId)
  deriving DecidableEq

section resolution

variable {unicode : UnicodeTables}

def roleKey (role : ManifestRole unicode) : Text := normalizedId unicode role.roleId

def selectorKey (selector : ManifestSelector unicode) : Text :=
  normalizedId unicode selector.header.selectorId

/-- `GovernedWeakeningOverride.authorizes`. -/
def authorizes (unicode : UnicodeTables) (override : GovernedWeakeningOverride) (asOf : UtcDateTime)
    (profileId targetPath targetRef : Text) (reason : OverrideReason) : Bool :=
  override.status == .approved && decide (override.acceptedAt ≤ asOf ∧ asOf < override.expiresAt) &&
    (override.profiles.map (normalizedId unicode)).elem (normalizedId unicode profileId) &&
    override.targetPath == targetPath &&
    normalizedId unicode override.targetRef == normalizedId unicode targetRef &&
    override.reason == reason

/-- `_find_override`. -/
def findOverride (unicode : UnicodeTables) (overrides : List GovernedWeakeningOverride)
    (asOf : UtcDateTime) (profileId targetPath targetRef : Text) (reason : OverrideReason) :
    Except String GovernedWeakeningOverride :=
  match overrides.filter fun override =>
    authorizes unicode override asOf profileId targetPath targetRef reason with
  | [override] => .ok override
  | _ => .error "weakening requires exactly one active governed override"

/-- `_variant` of a selector: its type, and for a composite the types of its children
by normalized identifier. -/
def selectorVariant (selector : ManifestSelector unicode) :
    SelectorType × List (Text × SelectorType) :=
  let children := match selector with
    | .atomic _ => []
    | .compositeAll s => s.children
    | .compositeAny s => s.children
  (selector.selectorType, (sortOn (fun child => normalizedId unicode child.header.selectorId)
    children).map fun child => (normalizedId unicode child.header.selectorId, child.selectorType))

/-- One write of `_merge_keyed`: the item, combined with what its key held. -/
def mergeItem {α : Type} (key : α → Text) (combine : α → α → Except String α) (merged : List α)
    (item : α) : Except String (List α) :=
  match lastOfKey key merged (key item) with
  | none => .ok (dictInsert key merged item)
  | some previous => do
    let combined ← combine previous item
    pure (dictInsert key merged combined)

/-- `_merge_keyed`, with the checks between an item and its predecessor as `combine`. -/
def mergeKeyed {α : Type} (key : α → Text) (combine : α → α → Except String α)
    (current additions : List α) : Except String (List α) := do
  let merged ← additions.foldlM (mergeItem key combine) (dictOf key current)
  pure (sortOn key merged)

/-- The selectors of a role override over the inherited ones. -/
def mergeSelectors (current additions : List (ManifestSelector unicode)) :
    Except String (List (ManifestSelector unicode)) :=
  mergeKeyed selectorKey (fun previous item =>
    if selectorVariant previous ≠ selectorVariant item then
      .error "illegal discriminator or type change for inherited ref"
    else .ok item) current additions

/-- `ManifestRole.model_validate` of a role with other selectors. -/
def withSelectors (role : ManifestRole unicode) (selectors : List (ManifestSelector unicode)) :
    Except String (ManifestRole unicode) :=
  if h : HasLength 1 20 selectors ∧
      UniqueText unicode (selectors.map fun s => s.header.selectorId) then
    .ok ⟨role.roleId, role.kind, role.cardinality, selectors, role.ownerRef, role.status,
      role.roleId_length, h.1, role.ownerRef_length, h.2⟩
  else .error "duplicate selector id after NFC+casefold normalization"

/-- The internal authority for a cohort decision: whether it permits a profile to
replace the selectors of an inherited role. -/
abbrev SelectorCapability (unicode : UnicodeTables) :=
  Text → ManifestRole unicode → ManifestRole unicode → Bool

/-- `isdisjoint` of two key sets. -/
def areDisjoint (left right : List Text) : Bool := left.all fun key => !right.elem key

/-- A role override over the inherited role. -/
def combineRoles (capability : Option (SelectorCapability unicode)) (profileId : Text)
    (previous item : ManifestRole unicode) : Except String (ManifestRole unicode) :=
  if (previous.kind, previous.cardinality.kind) ≠ (item.kind, item.cardinality.kind) then
    .error "illegal discriminator or type change for inherited ref"
  else if areDisjoint (previous.selectors.map selectorKey) (item.selectors.map selectorKey) then
    if capability.any fun permits => permits profileId previous item then
      withSelectors item item.selectors
    else .error "inherited selector identities are immutable outside an exact cohort decision"
  else do
    let selectors ← mergeSelectors previous.selectors item.selectors
    withSelectors item selectors

/-- The roles of a profile over the inherited ones. -/
def mergeRoles (capability : Option (SelectorCapability unicode)) (profileId : Text)
    (current additions : List (ManifestRole unicode)) : Except String (List (ManifestRole unicode)) :=
  mergeKeyed roleKey (combineRoles capability profileId) current additions

/-- `_validate_role_requirement_weakening`. -/
def validateRoleRequirementWeakening (child : ManifestProfile unicode) (asOf : UtcDateTime)
    (inherited resolved : List (ManifestRole unicode)) : Except String Unit :=
  resolved.forM fun role =>
    match lastOfKey roleKey inherited (roleKey role) with
    | none => .ok ()
    | some previous =>
      let (previousMin, previousMax) := cardinalityBounds previous.cardinality
      let (currentMin, currentMax) := cardinalityBounds role.cardinality
      if currentMin < previousMin ∨ previousMax < currentMax then do
        let _ ← findOverride unicode child.weakeningOverrides asOf child.profileId
          ("/resolvedProfiles/".toList ++ child.profileId ++ "/roles/".toList ++ role.roleId ++
            "/cardinality".toList) role.roleId .cardinalityRelaxation
        pure ()
      else .ok ()

/-- The selectors of an overridden role against the inherited ones. -/
def validateInheritedSelectors (capability : Option (SelectorCapability unicode)) (profileId : Text)
    (previous current : ManifestRole unicode) : Except String Unit :=
  if !(current.selectors.map selectorKey).all (previous.selectors.map selectorKey).elem then
    if areDisjoint (previous.selectors.map selectorKey) (current.selectors.map selectorKey) &&
        capability.any fun permits => permits profileId previous current then .ok ()
    else .error "inherited selector identities are immutable outside an exact cohort decision"
  else
    current.selectors.forM fun currentSelector =>
      match lastOfKey selectorKey previous.selectors (selectorKey currentSelector) with
      | none => .error "inherited selector is missing"
      | some previousSelector =>
        if previousSelector ≠ currentSelector ∧
            selectorOverrideIsNarrower previousSelector currentSelector = false then
          .error "direct selector weakening or ambiguous selector override requires a new selector id"
        else .ok ()

/-- The role part of `_validate_inherited_semantics`. -/
def validateInheritedRoles (capability : Option (SelectorCapability unicode))
    (child : ManifestProfile unicode) (inherited resolved : List (ManifestRole unicode)) :
    Except String Unit :=
  child.roles.forM fun role =>
    match lastOfKey roleKey inherited (roleKey role), lastOfKey roleKey resolved (roleKey role) with
    | some previous, some current =>
      validateInheritedSelectors capability child.profileId previous current
    | _, _ => .ok ()

/-- `_PROTECTED_REFS`. -/
def protectedRefs : List Text :=
  ["db-singleton-supported".toList, "db-zone-loss-spof".toList, "db-zone-loss-acceptance".toList,
    "worker-db-zone-colocation".toList, "web-zone-distribution".toList]

/-- The reason an override must give to disable an item of a kind. -/
def disableReason : TargetKind → OverrideReason
  | .control => .controlRequirementRelaxation
  | _ => .disableInheritedItem

/-- One disabled reference of `_apply_disabled_refs`, as it acts on the roles. -/
def applyDisabledRef (profile : ManifestProfile unicode) (asOf : UtcDateTime)
    (roles : List (ManifestRole unicode)) (disabled : DisabledManifestRef) :
    Except String (List (ManifestRole unicode)) :=
  if normalizedId unicode disabled.targetRef ∈ protectedRefs then
    .error "protected canonical proof refs cannot be disabled"
  else
    match profile.weakeningOverrides.find? fun override =>
      normalizedId unicode override.overrideId ==
        normalizedId unicode disabled.governanceOverrideRef with
    | none => .error "disabled ref requires its exact active governed override"
    | some override =>
      if authorizes unicode override asOf profile.profileId
          ("/resolvedProfiles/".toList ++ profile.profileId ++ "/".toList ++
            disabled.targetKind.text ++ "/".toList ++ disabled.targetRef)
          disabled.targetRef (disableReason disabled.targetKind) = false then
        .error "disabled ref requires its exact active governed override"
      else if disabled.targetKind ≠ .role then .ok roles
      else
        let kept := roles.filter fun role => roleKey role != normalizedId unicode disabled.targetRef
        if kept.length = roles.length then .error "disabled ref must resolve exactly once" else .ok kept

/-- The roles of one profile of the chain, from those it inherits. -/
def resolveProfileRoles (capability : Option (SelectorCapability unicode)) (asOf : UtcDateTime)
    (inherited : List (ManifestRole unicode)) (profile : ManifestProfile unicode) :
    Except String (List (ManifestRole unicode)) := do
  let roles ← mergeRoles capability profile.profileId inherited profile.roles
  validateRoleRequirementWeakening profile asOf inherited roles
  validateInheritedRoles capability profile inherited roles
  profile.disabledRefs.foldlM (applyDisabledRef profile asOf) roles

/-- The roles of the last profile of an inheritance chain over the manifest's own roles. -/
def resolveRoles (capability : Option (SelectorCapability unicode)) (asOf : UtcDateTime)
    (roles : List (ManifestRole unicode)) (lineage : List (ManifestProfile unicode)) :
    Except String (List (ManifestRole unicode)) :=
  lineage.foldlM (resolveProfileRoles capability asOf) roles

/-! ## What resolution keeps -/

theorem mem_mergeItem {α : Type} {key : α → Text} {combine : α → α → Except String α}
    (hkey : ∀ previous item combined, combine previous item = .ok combined → key combined = key item)
    {merged result : List α} {item x : α} (h : mergeItem key combine merged item = .ok result)
    (hn : (merged.map key).Nodup) :
    (result.map key).Nodup ∧ (x ∈ result → x ∈ merged ∨ key x = key item) := by
  unfold mergeItem at h
  split at h
  · have he := Except.ok.inj h
    rw [← he]
    exact ⟨nodup_keys_dictInsert item hn, fun hx => (mem_dictInsert hx).imp_right (congrArg key)⟩
  · rename_i previous _
    obtain ⟨combined, hc, he⟩ := bind_ok_iff.mp h
    have hk := hkey previous item combined hc
    rw [← pure_ok_iff.mp he]
    refine ⟨nodup_keys_dictInsert combined hn, fun hx => (mem_dictInsert hx).imp_right fun e => ?_⟩
    rw [e, hk]

/-- A merged collection has one item a key, and an item under a key that nothing was
added under is an inherited one. -/
theorem mem_mergeKeyed {α : Type} {key : α → Text} {combine : α → α → Except String α}
    (hkey : ∀ previous item combined, combine previous item = .ok combined → key combined = key item)
    {current additions result : List α} (h : mergeKeyed key combine current additions = .ok result) :
    (result.map key).Nodup ∧ ∀ x ∈ result, x ∈ current ∨ key x ∈ additions.map key := by
  obtain ⟨merged, hm, he⟩ := bind_ok_iff.mp h
  have hinv := foldlM_invariant
    (P := fun items => (items.map key).Nodup ∧
      ∀ x ∈ items, x ∈ current ∨ key x ∈ additions.map key)
    (fun items item hitem items' hi hstep => by
      have hmerged := fun x => mem_mergeItem (x := x) hkey hstep hi.1
      refine ⟨(hmerged item).1, fun x hx => ?_⟩
      rcases (hmerged x).2 hx with hin | hk
      · exact hi.2 x hin
      · exact .inr (hk ▸ List.mem_map_of_mem hitem))
    ⟨nodup_keys_dictOf key current, fun x hx => .inl (mem_of_mem_dictOf hx)⟩ hm
  rw [← pure_ok_iff.mp he]
  refine ⟨?_, fun x hx => hinv.2 x (mem_sortOn.mp hx)⟩
  exact ((sortOn_perm key merged).map key).nodup_iff.mpr hinv.1

theorem withSelectors_cases {role combined : ManifestRole unicode}
    {selectors : List (ManifestSelector unicode)} (h : withSelectors role selectors = .ok combined) :
    combined.roleId = role.roleId ∧ combined.selectors = selectors := by
  unfold withSelectors at h
  split at h
  · rw [← Except.ok.inj h]
    exact ⟨rfl, rfl⟩
  · simp at h

theorem combineRoles_key {capability : Option (SelectorCapability unicode)} {profileId : Text}
    (previous item combined : ManifestRole unicode)
    (h : combineRoles capability profileId previous item = .ok combined) :
    roleKey combined = roleKey item := by
  have key : ∀ selectors, withSelectors item selectors = .ok combined →
      roleKey combined = roleKey item := fun selectors hw => by
    rw [roleKey, (withSelectors_cases hw).1, roleKey]
  unfold combineRoles at h
  split at h
  · simp at h
  · split at h
    · split at h
      · exact key _ h
      · simp at h
    · obtain ⟨selectors, _, hw⟩ := bind_ok_iff.mp h
      exact key _ hw

/-- A disabled reference only removes roles. -/
theorem applyDisabledRef_sublist {profile : ManifestProfile unicode} {asOf : UtcDateTime}
    {roles kept : List (ManifestRole unicode)} {disabled : DisabledManifestRef}
    (h : applyDisabledRef profile asOf roles disabled = .ok kept) : kept.Sublist roles := by
  unfold applyDisabledRef at h
  split at h
  · simp at h
  · split at h
    · simp at h
    · split at h
      · simp at h
      · split at h
        · rw [← Except.ok.inj h]
        · simp only at h
          split at h
          · simp at h
          · rw [← Except.ok.inj h]
            exact List.filter_sublist

/-- The parts of one profile's resolution. -/
theorem resolveProfileRoles_cases {capability : Option (SelectorCapability unicode)}
    {asOf : UtcDateTime} {inherited resolved : List (ManifestRole unicode)}
    {profile : ManifestProfile unicode}
    (h : resolveProfileRoles capability asOf inherited profile = .ok resolved) :
    ∃ roles, mergeRoles capability profile.profileId inherited profile.roles = .ok roles ∧
      validateInheritedRoles capability profile inherited roles = .ok () ∧
      resolved.Sublist roles := by
  obtain ⟨roles, hm, h₁⟩ := bind_ok_iff.mp h
  obtain ⟨_, _, h₂⟩ := bind_ok_iff.mp h₁
  obtain ⟨_, hv, h₃⟩ := bind_ok_iff.mp h₂
  refine ⟨roles, hm, hv, ?_⟩
  exact foldlM_invariant (P := fun items => items.Sublist roles)
    (fun items disabled _ items' hi hstep => (applyDisabledRef_sublist hstep).trans hi)
    (List.Sublist.refl roles) h₃

theorem roles_distinct {role other : ManifestRole unicode} {roles : List (ManifestRole unicode)}
    (hn : (roles.map roleKey).Nodup) (hr : role ∈ roles) (ho : other ∈ roles)
    (he : roleKey role = roleKey other) : role = other :=
  List.inj_on_of_nodup_map hn hr ho he

/-- Without a capability, each selector of an overridden role is inherited unchanged or
narrows the inherited selector of its identifier. -/
theorem validateInheritedSelectors_ok {profileId : Text} {previous current : ManifestRole unicode}
    (h : validateInheritedSelectors none profileId previous current = .ok ())
    {selector : ManifestSelector unicode} (hs : selector ∈ current.selectors) :
    ∃ inherited, lastOfKey selectorKey previous.selectors (selectorKey selector) = some inherited ∧
      (inherited = selector ∨ selectorOverrideIsNarrower inherited selector = true) := by
  unfold validateInheritedSelectors at h
  split at h
  · simp at h
  · have hone := forM_ok_iff.mp h selector hs
    split at hone
    · simp at hone
    · rename_i inherited hlookup
      refine ⟨inherited, hlookup, ?_⟩
      by_contra hnot
      have hbad : inherited ≠ selector ∧ selectorOverrideIsNarrower inherited selector = false := by
        simpa [not_or] using hnot
      rw [if_pos hbad] at hone
      simp at hone

/-- What a profile makes of an inherited role, without a capability: each selector of the
resolved role is one of the inherited role, or narrows the one of its identifier. -/
theorem resolved_role_selectors {asOf : UtcDateTime} {inherited resolved : List (ManifestRole unicode)}
    {profile : ManifestProfile unicode} (hn : (inherited.map roleKey).Nodup)
    (h : resolveProfileRoles none asOf inherited profile = .ok resolved)
    {previous current : ManifestRole unicode} (hp : previous ∈ inherited) (hc : current ∈ resolved)
    (hk : roleKey previous = roleKey current) {selector : ManifestSelector unicode}
    (hs : selector ∈ current.selectors) :
    selector ∈ previous.selectors ∨
      ∃ source, lastOfKey selectorKey previous.selectors (selectorKey selector) = some source ∧
        source ≠ selector ∧ selectorOverrideIsNarrower source selector = true := by
  obtain ⟨roles, hm, hv, hsub⟩ := resolveProfileRoles_cases h
  obtain ⟨hkeys, hmem⟩ := mem_mergeKeyed combineRoles_key hm
  have hcr : current ∈ roles := hsub.subset hc
  by_cases hlocal : roleKey current ∈ profile.roles.map roleKey
  · obtain ⟨item, hi, hik⟩ := List.mem_map.mp hlocal
    have hone := forM_ok_iff.mp hv item hi
    have hprev : lastOfKey roleKey inherited (roleKey item) = some previous := by
      rw [hik, ← hk]
      exact lastOfKey_of_mem hn hp
    have hcur : lastOfKey roleKey roles (roleKey item) = some current := by
      rw [hik]
      exact lastOfKey_of_mem hkeys hcr
    rw [hprev, hcur] at hone
    obtain ⟨source, hsource, hcase⟩ := validateInheritedSelectors_ok hone hs
    by_cases he : source = selector
    · exact .inl (he ▸ (lastOfKey_some hsource).1)
    · exact .inr ⟨source, hsource, he, hcase.resolve_left he⟩
  · have hin : current ∈ inherited := (hmem current hcr).resolve_right hlocal
    have he := roles_distinct hn hp hin hk
    exact .inl (he ▸ hs)

/-- Resolution leaves one role an identifier. -/
theorem resolveRoles_nodup {capability : Option (SelectorCapability unicode)} {asOf : UtcDateTime}
    {roles resolved : List (ManifestRole unicode)} {lineage : List (ManifestProfile unicode)}
    (hn : (roles.map roleKey).Nodup) (h : resolveRoles capability asOf roles lineage = .ok resolved) :
    (resolved.map roleKey).Nodup := by
  refine foldlM_invariant (P := fun items => (items.map roleKey).Nodup)
    (fun items profile _ items' _ hstep => ?_) hn h
  obtain ⟨merged, hm, -, hsub⟩ := resolveProfileRoles_cases hstep
  have hkeys := (mem_mergeKeyed combineRoles_key hm).1
  exact hkeys.sublist (hsub.map roleKey)

/-- A resolved role binds only resources that the inherited role binds. -/
theorem resolved_role_narrows {asOf : UtcDateTime} {roles inherited resolved : List (ManifestRole unicode)}
    {chain : List (ManifestProfile unicode)} {child : ManifestProfile unicode}
    (hn : (roles.map roleKey).Nodup)
    (hparent : resolveRoles none asOf roles chain = .ok inherited)
    (hchild : resolveRoles none asOf roles (chain ++ [child]) = .ok resolved)
    {previous current : ManifestRole unicode} (hp : previous ∈ inherited) (hc : current ∈ resolved)
    (hk : roleKey previous = roleKey current)
    (hspelled : ∀ t ∈ current.selectors, ∀ s,
      lastOfKey selectorKey previous.selectors (selectorKey t) = some s → s ≠ t →
        ScaleSetsSpelled s t)
    {records : List ResourceEvidenceRecord} {before after : List Text}
    (hb : matchedByAll previous.selectors records = .ok before)
    (ha : matchedByAll current.selectors records = .ok after) : after ⊆ before := by
  have hstep : resolveProfileRoles none asOf inherited child = .ok resolved := by
    rw [resolveRoles, List.foldlM_append] at hchild
    rw [resolveRoles] at hparent
    obtain ⟨start, hs, hlast⟩ := bind_ok_iff.mp hchild
    have he : inherited = start := Except.ok.inj (hparent.symm.trans hs)
    rw [← he, List.foldlM_cons] at hlast
    obtain ⟨last, hl, hend⟩ := bind_ok_iff.mp hlast
    have hresolved : last = resolved := pure_ok_iff.mp hend
    rw [hl, hresolved]
  have hkeys := resolveRoles_nodup hn hparent
  refine matchedByAll_narrows (fun selector hs => ?_) hb ha
  rcases resolved_role_selectors hkeys hstep hp hc hk hs with hsame | ⟨source, hsource, hne, hn⟩
  · exact ⟨selector, hsame, fun resource x hx hsel => hsel⟩
  · exact ⟨source, (lastOfKey_some hsource).1, fun resource x hx hsel =>
      selects_narrows hn (hspelled selector hs source hsource hne) hx hsel⟩

end resolution

/-- Narrowing is sound where the runtime accepts the scale-set spellings that the check
compares: for two selectors, for a replacement of a list, and for the roles a profile inherits. For two
atomic selectors that condition is also necessary. -/
theorem narrowing_sound (unicode : UnicodeTables) :
    (∀ previous current : ManifestSelector unicode,
      selectorOverrideIsNarrower previous current = true → ScaleSetsSpelled previous current →
        NarrowingHolds previous current) ∧
    (∀ previous current : AtomicSelector unicode,
      selectorOverrideIsNarrower (.atomic previous) (.atomic current) = true →
        (NarrowingHolds (.atomic previous) (.atomic current) ↔ ScaleSetSpelled previous current)) ∧
    (∀ previous current : List (ManifestSelector unicode),
      isGuardedSelectorReplacementNarrower previous current = true →
        (∀ c ∈ current, (∃ p ∈ previous, selectorOverrideIsNarrower p c = true) →
          ∃ p ∈ previous, selectorOverrideIsNarrower p c = true ∧ ScaleSetsSpelled p c) →
          ∀ records before after, matchedByAll previous records = .ok before →
            matchedByAll current records = .ok after → after ⊆ before) ∧
    (∀ asOf (roles inherited resolved : List (ManifestRole unicode)) chain child,
      (roles.map roleKey).Nodup → resolveRoles none asOf roles chain = .ok inherited →
        resolveRoles none asOf roles (chain ++ [child]) = .ok resolved →
          ∀ p ∈ inherited, ∀ c ∈ resolved, roleKey p = roleKey c →
            (∀ t ∈ c.selectors, ∀ s, lastOfKey selectorKey p.selectors (selectorKey t) = some s →
              s ≠ t → ScaleSetsSpelled s t) →
              ∀ records before after, matchedByAll p.selectors records = .ok before →
                matchedByAll c.selectors records = .ok after → after ⊆ before) := by
  refine ⟨?_, ?_, ?_, ?_⟩
  · intro previous current h hspelled records before after hb ha
    exact matched_narrows h hspelled hb ha
  · intro previous current h
    refine ⟨spelled_of_narrowing, fun hspelled records before after hb ha => ?_⟩
    exact matched_narrows h hspelled hb ha
  · intro previous current h hspelled records before after hb ha
    exact replacement_narrows h hspelled hb ha
  · intro asOf roles inherited resolved chain child hn hparent hchild p hp c hc hk hspelled records
      before after hb ha
    exact resolved_role_narrows hn hparent hchild hp hc hk hspelled hb ha

/-! ## An inherited spelling the runtime rejects -/

def scaleSetPath : Text :=
  ("/subscriptions/11111111-1111-1111-1111-111111111111/resourceGroups/rg/providers/" ++
    "Microsoft.Compute/virtualMachineScaleSets/app").toList

/-- The same path with a long s in `virtualMachineScaleSets`. -/
def misspelledScaleSetPath : Text :=
  ("/subscriptions/11111111-1111-1111-1111-111111111111/resourceGroups/rg/providers/" ++
    "Microsoft.Compute/virtualMachineScaleſets/app").toList

def instancePath : Text := scaleSetPath ++ "/virtualMachines/0".toList

def inheritedScaleSet : VmssSelector latinTables where
  selectorId := "application-vms".toList
  maxMatches := 10
  scaleSetResourceId := misspelledScaleSetPath
  instanceIds := []
  scaleSetResourceId_length := by decide +kernel

def scaleSet (instanceIds : List Text) (unique : UniqueText latinTables instanceIds)
    (length : HasLength 0 200 instanceIds) : VmssSelector latinTables where
  selectorId := "application-vms".toList
  maxMatches := 10
  scaleSetResourceId := scaleSetPath
  instanceIds := instanceIds
  scaleSetResourceId_length := by decide +kernel
  instanceIds_length := length
  instanceIds_unique := unique

def scaleSetMembers : VmssSelector latinTables := scaleSet [] (by decide) (by decide)

def scaleSetMember : VmssSelector latinTables := scaleSet ["0".toList] (by decide) (by decide)

theorem misspelled_evaluations :
    (evaluateSelector (.atomic (.vmScaleSet inheritedScaleSet)) [recordNamed instancePath]).map
        SelectorEvaluation.matchedResourceIds = .ok [] ∧
      (evaluateSelector (.atomic (.vmScaleSet scaleSetMembers)) [recordNamed instancePath]).map
        SelectorEvaluation.matchedResourceIds = .ok [instancePath.map Char.toLower] := by
  refine ⟨?_, ?_⟩ <;> decide +kernel

/-- The check takes the proper spelling for a narrowing of the misspelled one, and the
override matches an instance that the inherited selector does not. -/
theorem misspelled_scaleSet_widens :
    selectorOverrideIsNarrower (.atomic (.vmScaleSet inheritedScaleSet))
        (.atomic (.vmScaleSet scaleSetMembers)) = true ∧
      ¬ NarrowingHolds (.atomic (.vmScaleSet inheritedScaleSet))
        (.atomic (.vmScaleSet scaleSetMembers)) := by
  refine ⟨by decide +kernel, fun h => ?_⟩
  obtain ⟨hbefore, hafter⟩ := misspelled_evaluations
  obtain ⟨before, hb, hbm⟩ := map_ok_iff.mp hbefore
  obtain ⟨after, ha, ham⟩ := map_ok_iff.mp hafter
  have hin : instancePath.map Char.toLower ∈ after.matchedResourceIds := by
    rw [ham]
    exact List.mem_singleton_self _
  have hmem := h [recordNamed instancePath] before after hb ha hin
  rw [hbm] at hmem
  exact List.not_mem_nil hmem

theorem narrowing_sound_member :
    selectorOverrideIsNarrower (.atomic (.vmScaleSet scaleSetMembers))
        (.atomic (.vmScaleSet scaleSetMember)) = true ∧
      NarrowingHolds (.atomic (.vmScaleSet scaleSetMembers))
        (.atomic (.vmScaleSet scaleSetMember)) := by
  have hcheck : selectorOverrideIsNarrower (.atomic (.vmScaleSet scaleSetMembers))
      (.atomic (.vmScaleSet scaleSetMember)) = true := by decide +kernel
  have haccepted : isResourceId latinTables scaleSetMembers.scaleSetResourceId = true := by
    decide +kernel
  have hspelled : ScaleSetSpelled (.vmScaleSet scaleSetMembers) (.vmScaleSet scaleSetMember) := by
    intro _ _
    exact haccepted
  exact ⟨hcheck, ((narrowing_sound latinTables).2.1 _ _ hcheck).mpr hspelled⟩

end AthenaContext.RoleResolution
