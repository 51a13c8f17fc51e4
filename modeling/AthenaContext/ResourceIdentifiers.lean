import AthenaContext.TextNormalization

/-!
# Azure resource identifiers

`normalize_resource_id`: the grammar of an absolute resource identifier and its
comparison form, and the scale-set prefix of an instance identifier. An accepted
identifier has a plain comparison form, so normalizing it or any part of it again
changes nothing.
-/

namespace AthenaContext.ResourceIdentifiers

open TextNormalization

/-- `str.isspace` of one character. -/
def isSpace (c : Char) : Bool :=
  (9 ≤ c.toNat && c.toNat ≤ 13) || (28 ≤ c.toNat && c.toNat ≤ 32) || c.toNat == 0x85 ||
    c.toNat == 0xA0 || c.toNat == 0x1680 || (0x2000 ≤ c.toNat && c.toNat ≤ 0x200A) ||
    c.toNat == 0x2028 || c.toNat == 0x2029 || c.toNat == 0x202F || c.toNat == 0x205F ||
    c.toNat == 0x3000

/-- `text.strip()`. -/
def strip (t : Text) : Text := ((t.dropWhile isSpace).reverse.dropWhile isSpace).reverse

def isHexDigit (c : Char) : Bool :=
  c.isDigit || ('a' ≤ c && c ≤ 'f') || ('A' ≤ c && c ≤ 'F')

/-- `_GUID_RE.fullmatch`: hyphens behind the groups of 8, 4, 4 and 4 digits, and 12 digits. -/
def isGuid (t : Text) : Bool :=
  t.length == 36 && t.zipIdx.all fun (c, i) =>
    if i = 8 ∨ i = 13 ∨ i = 18 ∨ i = 23 then c == '-' else isHexDigit c

def isComponentCharacter (c : Char) : Bool := c.isAlphanum || "._()-".toList.contains c

/-- `_COMPONENT_RE.fullmatch`. -/
def isComponent (t : Text) : Bool := !t.isEmpty && t.all isComponentCharacter

section grammar

variable (unicode : UnicodeTables)

/-- The type and name pairs behind a provider namespace, up to the end or through
the providers that follow; `componentCount` counts the components of the current one. -/
def typeNamePath (componentCount : ℕ) : List Text → Except String Unit
  | [] =>
    if componentCount = 0 then .error "Azure resource ID provider has no resource type/name"
    else .ok ()
  | [part] =>
    if casefold unicode part ≠ "providers".toList then
      .error "Azure resource ID type/name path is incomplete"
    else if componentCount = 0 then .error "Azure resource ID provider has no resource type/name"
    else .error "Azure resource ID provider path is malformed"
  | part :: next :: rest =>
    if casefold unicode part = "providers".toList then
      if componentCount = 0 then .error "Azure resource ID provider has no resource type/name"
      else if rest.length < 2 then .error "Azure resource ID provider path is malformed"
      else if isComponent next then typeNamePath 0 rest
      else .error "Azure resource ID provider namespace is invalid"
    else if isComponent part && isComponent next then typeNamePath (componentCount + 2) rest
    else .error "Azure resource ID type/name path is incomplete"

/-- The provider path, from the components behind the subscription or the resource group. -/
def providerPath : List Text → Except String Unit
  | [] => .error "Azure resource ID must contain a provider path"
  | part :: rest =>
    if casefold unicode part ≠ "providers".toList then
      .error "Azure resource ID must contain a provider path"
    else
      match rest with
      | space :: type :: name :: others =>
        if isComponent space then typeNamePath unicode 0 (type :: name :: others)
        else .error "Azure resource ID provider namespace is invalid"
      | _ => .error "Azure resource ID provider path is malformed"

/-- The components behind `/subscriptions/{guid}`. -/
def subscriptionPath : List Text → Except String Unit
  | part :: group :: rest =>
    if casefold unicode part = "resourcegroups".toList then
      if isComponent group then providerPath unicode rest
      else .error "Azure resource ID resourceGroups segment is invalid"
    else providerPath unicode (part :: group :: rest)
  | parts => providerPath unicode parts

/-- The components of an absolute path. -/
def resourcePath : List Text → Except String Unit
  | root :: subscriptions :: guid :: rest =>
    if rest.length < 2 ∨ root ≠ [] ∨ [] ∈ subscriptions :: guid :: rest then
      .error "Azure resource ID must be an absolute component path"
    else if casefold unicode subscriptions ≠ "subscriptions".toList ∨ isGuid guid = false then
      .error "Azure resource ID must begin with /subscriptions/{guid}"
    else subscriptionPath unicode rest
  | _ => .error "Azure resource ID must be an absolute component path"

/-- `normalize_resource_id`. -/
def normalizeResourceId (value : Text) : Except String Text :=
  let normalized := unicode.nfc value
  if normalized ≠ strip normalized ∨ '\\' ∈ normalized ∨ '*' ∈ normalized ∨ '?' ∈ normalized then
    .error "Azure resource ID contains invalid characters"
  else
    match resourcePath unicode (splitPath normalized) with
    | .ok () => .ok (casefold unicode normalized)
    | .error message => .error message

/-- `normalize_resource_id` accepts the text. -/
def isResourceId (value : Text) : Bool := (normalizeResourceId unicode value).isOk

/-! ## What the grammar accepts -/

/-- The characters of a comparison form, apart from the separator. -/
def isPathCharacter (c : Char) : Bool := c.isLower || c.isDigit || "._()-".toList.contains c

theorem symbol_ascii {c : Char} (h : c ∈ "._()-".toList) : c.toNat < 128 := by
  have hall : ("._()-".toList.all fun d => d.toNat < 128) = true := by decide
  exact of_decide_eq_true (List.all_eq_true.mp hall c h)

theorem alphanum_ascii {c : Char} (h : c.isAlphanum = true) : c.toNat < 128 := by
  simp only [Char.isAlphanum, Char.isAlpha, Char.isUpper, Char.isLower, Char.isDigit,
    Bool.or_eq_true, Bool.and_eq_true, decide_eq_true_eq, UInt32.le_iff_toNat_le, ge_iff_le] at h
  have hc : c.toNat = c.val.toNat := rfl
  have hZ : 'Z'.val.toNat = 90 := rfl
  have hz : 'z'.val.toNat = 122 := rfl
  have h9 : '9'.val.toNat = 57 := rfl
  omega

theorem isComponentCharacter_ascii {c : Char} (h : isComponentCharacter c = true) :
    c.toNat < 128 := by
  simp only [isComponentCharacter, Bool.or_eq_true, List.contains_iff_mem] at h
  exact h.elim alphanum_ascii symbol_ascii

theorem isHexDigit_ascii {c : Char} (h : isHexDigit c = true) : c.toNat < 128 := by
  simp only [isHexDigit, Char.isDigit, Bool.or_eq_true, Bool.and_eq_true, decide_eq_true_eq,
    UInt32.le_iff_toNat_le, ge_iff_le, Char.le_def] at h
  have hc : c.toNat = c.val.toNat := rfl
  have hf : 'f'.val.toNat = 102 := rfl
  have hF : 'F'.val.toNat = 70 := rfl
  have h9 : '9'.val.toNat = 57 := rfl
  omega

theorem isPathCharacter_ascii {c : Char} (h : isPathCharacter c = true) : c.toNat < 128 := by
  simp only [isPathCharacter, Bool.or_eq_true, List.contains_iff_mem] at h
  rcases h with (h | h) | h
  · exact alphanum_ascii (by simp [Char.isAlphanum, Char.isAlpha, h])
  · exact alphanum_ascii (by simp [Char.isAlphanum, h])
  · exact symbol_ascii h

/-- Path characters are plain, and none of them is a space or a wildcard. -/
theorem isPathCharacter_plain {c : Char} (h : isPathCharacter c = true) :
    c.toNat < 128 ∧ c.isUpper = false ∧ isSpace c = false ∧ c ≠ '\\' ∧ c ≠ '*' ∧ c ≠ '?' := by
  have hfacts := ascii_forall (P := fun c => isPathCharacter c = true → c.isUpper = false ∧
    isSpace c = false ∧ c ≠ '\\' ∧ c ≠ '*' ∧ c ≠ '?') (by decide) c (isPathCharacter_ascii h) h
  exact ⟨isPathCharacter_ascii h, hfacts⟩

theorem componentCharacter_toLower {c : Char} (h : isComponentCharacter c = true) :
    isPathCharacter c.toLower = true ∧ isComponentCharacter c.toLower = true :=
  ascii_forall (P := fun c => isComponentCharacter c = true →
    isPathCharacter c.toLower = true ∧ isComponentCharacter c.toLower = true) (by decide) c
    (isComponentCharacter_ascii h) h

theorem hexDigit_toLower {c : Char} (h : isHexDigit c = true) :
    isPathCharacter c.toLower = true ∧ isHexDigit c.toLower = true :=
  ascii_forall (P := fun c => isHexDigit c = true →
    isPathCharacter c.toLower = true ∧ isHexDigit c.toLower = true) (by decide) c
    (isHexDigit_ascii h) h

/-- The folding of a component consists of path characters. -/
def FoldsToPath (part : Text) : Prop := ∀ c ∈ casefold unicode part, isPathCharacter c = true

variable {unicode}

theorem FoldsToPath.isPlain {part : Text} (h : FoldsToPath unicode part) :
    IsPlain (casefold unicode part) := fun c hc =>
  have hp := isPathCharacter_plain (h c hc)
  ⟨hp.1, hp.2.1⟩

theorem FoldsToPath.casefold_casefold {part : Text} (h : FoldsToPath unicode part) :
    casefold unicode (casefold unicode part) = casefold unicode part :=
  casefold_of_isPlain unicode h.isPlain

theorem foldsToPath_of_keyword {part keyword : Text} (h : casefold unicode part = keyword)
    (hk : keyword.all isPathCharacter = true) : FoldsToPath unicode part := by
  intro c hc
  rw [h] at hc
  exact List.all_eq_true.mp hk c hc

theorem mem_isComponent {t : Text} (h : isComponent t = true) :
    ∀ c ∈ t, isComponentCharacter c = true := by
  simp only [isComponent, Bool.and_eq_true, List.all_eq_true] at h
  exact h.2

theorem isComponent_casefold_eq {t : Text} (h : isComponent t = true) :
    casefold unicode t = t.map Char.toLower :=
  casefold_ascii unicode fun c hc => isComponentCharacter_ascii (mem_isComponent h c hc)

theorem isComponent_foldsToPath {t : Text} (h : isComponent t = true) :
    FoldsToPath unicode t := by
  intro c hc
  rw [isComponent_casefold_eq h] at hc
  obtain ⟨d, hd, he⟩ := List.mem_map.mp hc
  rw [← he]
  exact (componentCharacter_toLower (mem_isComponent h d hd)).1

theorem isComponent_casefold {t : Text} (h : isComponent t = true) :
    isComponent (casefold unicode t) = true := by
  have hne : t.isEmpty = false := by
    have h' := h
    simp only [isComponent, Bool.and_eq_true, Bool.not_eq_true'] at h'
    exact h'.1
  rw [isComponent_casefold_eq h]
  simp only [isComponent, Bool.and_eq_true, List.all_eq_true, List.isEmpty_map, hne, Bool.not_false,
    true_and]
  intro c hc
  obtain ⟨d, hd, he⟩ := List.mem_map.mp hc
  rw [← he]
  exact (componentCharacter_toLower (mem_isComponent h d hd)).2

theorem mem_isGuid {t : Text} (h : isGuid t = true) {c : Char} {i : ℕ} (hm : (c, i) ∈ t.zipIdx) :
    if i = 8 ∨ i = 13 ∨ i = 18 ∨ i = 23 then c = '-' else isHexDigit c = true := by
  simp only [isGuid, Bool.and_eq_true, List.all_eq_true] at h
  have hc := h.2 (c, i) hm
  split_ifs at hc ⊢ with hi
  · exact beq_iff_eq.mp hc
  · exact hc

theorem isGuid_cases {t : Text} (h : isGuid t = true) {c : Char} (hc : c ∈ t) :
    c = '-' ∨ isHexDigit c = true := by
  obtain ⟨i, hi, he⟩ := List.mem_iff_getElem.mp hc
  have hm : (c, i) ∈ t.zipIdx := by
    rw [List.mem_zipIdx_iff_getElem?, List.getElem?_eq_getElem hi, he]
  have hd := mem_isGuid h hm
  split_ifs at hd
  · exact .inl hd
  · exact .inr hd

theorem isGuid_casefold_eq {t : Text} (h : isGuid t = true) :
    casefold unicode t = t.map Char.toLower := by
  refine casefold_ascii unicode fun c hc => ?_
  rcases isGuid_cases h hc with rfl | hd
  · decide
  · exact isHexDigit_ascii hd

theorem isGuid_foldsToPath {t : Text} (h : isGuid t = true) : FoldsToPath unicode t := by
  intro c hc
  rw [isGuid_casefold_eq h] at hc
  obtain ⟨d, hd, he⟩ := List.mem_map.mp hc
  rw [← he]
  rcases isGuid_cases h hd with rfl | hx
  · decide
  · exact (hexDigit_toLower hx).1

theorem isGuid_casefold {t : Text} (h : isGuid t = true) :
    isGuid (casefold unicode t) = true := by
  have hlen : t.length = 36 := by
    have h' := h
    simp only [isGuid, Bool.and_eq_true, beq_iff_eq] at h'
    exact h'.1
  rw [isGuid_casefold_eq h]
  simp only [isGuid, Bool.and_eq_true, List.length_map, hlen, beq_self_eq_true, List.all_eq_true,
    true_and, List.zipIdx_map, List.mem_map]
  rintro entry ⟨⟨d, i⟩, hm, rfl⟩
  have hd := mem_isGuid h hm
  simp only [Prod.map_apply, id_eq]
  split_ifs at hd ⊢ with hi
  · rw [hd]
    decide
  · exact (hexDigit_toLower hd).2

/-- An accepted run of type and name pairs takes its first two components either as
a provider and its namespace, or as a type and a name. -/
theorem typeNamePath_cons {count : ℕ} {part next : Text} {rest : List Text}
    (h : typeNamePath unicode count (part :: next :: rest) = .ok ()) :
    (casefold unicode part = "providers".toList ∧ count ≠ 0 ∧ 2 ≤ rest.length ∧
        isComponent next = true ∧ typeNamePath unicode 0 rest = .ok ()) ∨
      (casefold unicode part ≠ "providers".toList ∧ isComponent part = true ∧
        isComponent next = true ∧ typeNamePath unicode (count + 2) rest = .ok ()) := by
  rw [typeNamePath] at h
  by_cases hp : casefold unicode part = "providers".toList
  · rw [if_pos hp] at h
    split_ifs at h with hc hl hn
    exact .inl ⟨hp, hc, by omega, hn, h⟩
  · rw [if_neg hp] at h
    split_ifs at h with hc
    have hcs := Bool.and_eq_true_iff.mp hc
    exact .inr ⟨hp, hcs.1, hcs.2, h⟩

theorem typeNamePath_singleton {count : ℕ} {part : Text} :
    typeNamePath unicode count [part] ≠ .ok () := by
  rw [typeNamePath]
  split_ifs <;> simp

theorem typeNamePath_provider {count : ℕ} {part next : Text} {rest : List Text}
    (hp : casefold unicode part = "providers".toList) (hc : count ≠ 0) (hl : 2 ≤ rest.length)
    (hn : isComponent next = true) (h : typeNamePath unicode 0 rest = .ok ()) :
    typeNamePath unicode count (part :: next :: rest) = .ok () := by
  rw [typeNamePath, if_pos hp, if_neg hc, if_neg (by omega), if_pos hn, h]

theorem typeNamePath_pair {count : ℕ} {part next : Text} {rest : List Text}
    (hp : casefold unicode part ≠ "providers".toList) (hpart : isComponent part = true)
    (hn : isComponent next = true) (h : typeNamePath unicode (count + 2) rest = .ok ()) :
    typeNamePath unicode count (part :: next :: rest) = .ok () := by
  rw [typeNamePath, if_neg hp, hpart, hn, Bool.and_self, if_pos rfl, h]

variable (unicode) in
/-- What acceptance of a path gives: its components fold to path characters, the
folded path is accepted, and so is the path with one more type and name. -/
structure Accepted (run : List Text → Except String Unit) (parts : List Text) : Prop where
  foldsToPath : ∀ part ∈ parts, FoldsToPath unicode part
  folded : run (parts.map (casefold unicode)) = .ok ()
  extended : ∀ type name, casefold unicode type ≠ "providers".toList → isComponent type = true →
    isComponent name = true → run (parts ++ [type, name]) = .ok ()

theorem typeNamePath_accepted (count : ℕ) (parts : List Text)
    (h : typeNamePath unicode count parts = .ok ()) :
    Accepted unicode (typeNamePath unicode count) parts := by
  match parts with
  | [] =>
    have hend : typeNamePath unicode (count + 2) [] = .ok () := by simp [typeNamePath]
    exact ⟨by simp, h, fun type name hp ht hn => typeNamePath_pair hp ht hn hend⟩
  | [part] => exact absurd h typeNamePath_singleton
  | part :: next :: rest =>
    rcases typeNamePath_cons h with ⟨hp, hc, hl, hn, hrest⟩ | ⟨hp, hpart, hn, hrest⟩
    · have ih := typeNamePath_accepted 0 rest hrest
      have hfold : FoldsToPath unicode part := foldsToPath_of_keyword hp (by decide)
      refine ⟨?_, ?_, ?_⟩
      · simp only [List.forall_mem_cons]
        exact ⟨hfold, isComponent_foldsToPath hn, ih.foldsToPath⟩
      · exact typeNamePath_provider (hfold.casefold_casefold.trans hp) hc (by simpa using hl)
          (isComponent_casefold hn) ih.folded
      · intro type name htype ht hname
        exact typeNamePath_provider hp hc (by simp) hn (ih.extended type name htype ht hname)
    · have ih := typeNamePath_accepted (count + 2) rest hrest
      have hfold : FoldsToPath unicode part := isComponent_foldsToPath hpart
      refine ⟨?_, ?_, ?_⟩
      · simp only [List.forall_mem_cons]
        exact ⟨hfold, isComponent_foldsToPath hn, ih.foldsToPath⟩
      · exact typeNamePath_pair (by rwa [hfold.casefold_casefold]) (isComponent_casefold hpart)
          (isComponent_casefold hn) ih.folded
      · intro type name htype ht hname
        exact typeNamePath_pair hp hpart hn (ih.extended type name htype ht hname)
termination_by parts.length

theorem providerPath_cases {parts : List Text} (h : providerPath unicode parts = .ok ()) :
    ∃ part space type name others, parts = part :: space :: type :: name :: others ∧
      casefold unicode part = "providers".toList ∧ isComponent space = true ∧
      typeNamePath unicode 0 (type :: name :: others) = .ok () := by
  match parts with
  | [] => exact absurd h (by rw [providerPath]; simp)
  | [part] | [part, space] | [part, space, type] =>
    simp only [providerPath] at h
    split_ifs at h
  | part :: space :: type :: name :: others =>
    rw [providerPath] at h
    split_ifs at h with hp hs
    exact ⟨part, space, type, name, others, rfl, not_not.mp hp, hs, h⟩

theorem providerPath_ok {part space type name : Text} {others : List Text}
    (hp : casefold unicode part = "providers".toList) (hs : isComponent space = true)
    (h : typeNamePath unicode 0 (type :: name :: others) = .ok ()) :
    providerPath unicode (part :: space :: type :: name :: others) = .ok () := by
  rw [providerPath, if_neg (not_not.mpr hp), if_pos hs, h]

theorem providerPath_accepted {parts : List Text} (h : providerPath unicode parts = .ok ()) :
    Accepted unicode (providerPath unicode) parts := by
  obtain ⟨part, space, type, name, others, rfl, hp, hs, ht⟩ := providerPath_cases h
  have htail := typeNamePath_accepted 0 _ ht
  have hfold : FoldsToPath unicode part := foldsToPath_of_keyword hp (by decide)
  refine ⟨?_, ?_, ?_⟩
  · have hparts := htail.foldsToPath
    simp only [List.forall_mem_cons] at hparts ⊢
    exact ⟨hfold, isComponent_foldsToPath hs, hparts⟩
  · exact providerPath_ok (hfold.casefold_casefold.trans hp) (isComponent_casefold hs) htail.folded
  · intro type' name' htype hc hn
    exact providerPath_ok hp hs (htail.extended type' name' htype hc hn)

theorem subscriptionPath_cases {parts : List Text}
    (h : subscriptionPath unicode parts = .ok ()) :
    (∃ part group rest, parts = part :: group :: rest ∧
        casefold unicode part = "resourcegroups".toList ∧ isComponent group = true ∧
        providerPath unicode rest = .ok ()) ∨
      providerPath unicode parts = .ok () := by
  match parts with
  | [] => exact .inr h
  | [part] => exact .inr h
  | part :: group :: rest =>
    rw [subscriptionPath] at h
    split_ifs at h with hp hg
    · exact .inl ⟨part, group, rest, rfl, hp, hg, h⟩
    · exact .inr h

/-- A path that begins with the keyword `providers` has no resource group. -/
theorem subscriptionPath_of_providerPath {parts : List Text}
    (h : providerPath unicode parts = .ok ()) : subscriptionPath unicode parts = .ok () := by
  obtain ⟨part, space, type, name, others, rfl, hp, -, -⟩ := providerPath_cases h
  have hne : casefold unicode part ≠ "resourcegroups".toList := by
    rw [hp]
    decide
  rw [subscriptionPath, if_neg hne, h]

theorem subscriptionPath_accepted {parts : List Text}
    (h : subscriptionPath unicode parts = .ok ()) :
    Accepted unicode (subscriptionPath unicode) parts := by
  rcases subscriptionPath_cases h with ⟨part, group, rest, rfl, hp, hg, hrest⟩ | hprovider
  · have htail := providerPath_accepted hrest
    have hfold : FoldsToPath unicode part := foldsToPath_of_keyword hp (by decide)
    refine ⟨?_, ?_, ?_⟩
    · simp only [List.forall_mem_cons]
      exact ⟨hfold, isComponent_foldsToPath hg, htail.foldsToPath⟩
    · have hf := hfold.casefold_casefold.trans hp
      rw [List.map_cons, List.map_cons, subscriptionPath, if_pos hf,
        if_pos (isComponent_casefold hg), htail.folded]
    · intro type name htype ht hn
      rw [List.cons_append, List.cons_append, subscriptionPath, if_pos hp, if_pos hg,
        htail.extended type name htype ht hn]
  · have hpath := providerPath_accepted hprovider
    exact ⟨hpath.foldsToPath, subscriptionPath_of_providerPath hpath.folded,
      fun type name htype ht hn =>
        subscriptionPath_of_providerPath (hpath.extended type name htype ht hn)⟩

theorem resourcePath_cases {parts : List Text} (h : resourcePath unicode parts = .ok ()) :
    ∃ subscriptions guid rest, parts = [] :: subscriptions :: guid :: rest ∧
      2 ≤ rest.length ∧ [] ∉ subscriptions :: guid :: rest ∧
      casefold unicode subscriptions = "subscriptions".toList ∧ isGuid guid = true ∧
      subscriptionPath unicode rest = .ok () := by
  match parts with
  | [] | [a] | [a, b] => exact absurd h (by simp [resourcePath])
  | root :: subscriptions :: guid :: rest =>
    rw [resourcePath] at h
    split_ifs at h with hlen hs
    have hl : ¬ rest.length < 2 ∧ root = [] ∧ [] ∉ subscriptions :: guid :: rest := by
      simpa only [not_or, not_not] using hlen
    have hg : casefold unicode subscriptions = "subscriptions".toList ∧ isGuid guid = true := by
      simpa only [not_or, not_not, Bool.not_eq_false] using hs
    have hr : root = [] := hl.2.1
    subst hr
    exact ⟨subscriptions, guid, rest, rfl, by omega, hl.2.2, hg.1, hg.2, h⟩

theorem resourcePath_ok {subscriptions guid : Text} {rest : List Text} (hl : 2 ≤ rest.length)
    (hne : [] ∉ subscriptions :: guid :: rest)
    (hs : casefold unicode subscriptions = "subscriptions".toList) (hg : isGuid guid = true)
    (h : subscriptionPath unicode rest = .ok ()) :
    resourcePath unicode ([] :: subscriptions :: guid :: rest) = .ok () := by
  have hshape : ¬ (rest.length < 2 ∨ ([] : Text) ≠ [] ∨ [] ∈ subscriptions :: guid :: rest) := by
    simp only [not_or, not_not]
    exact ⟨by omega, trivial, hne⟩
  have hstart : ¬ (casefold unicode subscriptions ≠ "subscriptions".toList ∨ isGuid guid = false) := by
    simp only [not_or, not_not, Bool.not_eq_false]
    exact ⟨hs, hg⟩
  rw [resourcePath, if_neg hshape, if_neg hstart, h]

theorem resourcePath_accepted {parts : List Text} (h : resourcePath unicode parts = .ok ()) :
    Accepted unicode (resourcePath unicode) parts := by
  obtain ⟨subscriptions, guid, rest, rfl, hl, hne, hs, hg, hrest⟩ := resourcePath_cases h
  have htail := subscriptionPath_accepted hrest
  have hfold : FoldsToPath unicode subscriptions := foldsToPath_of_keyword hs (by decide)
  refine ⟨?_, ?_, ?_⟩
  · have hroot : FoldsToPath unicode [] := by simp [FoldsToPath, casefold]
    simp only [List.forall_mem_cons]
    exact ⟨hroot, hfold, isGuid_foldsToPath hg, htail.foldsToPath⟩
  · have hnil : [] ∉ (subscriptions :: guid :: rest).map (casefold unicode) := by
      intro hm
      obtain ⟨part, hp, he⟩ := List.mem_map.mp hm
      have hpart : part ≠ [] := fun e => hne (e ▸ hp)
      exact casefold_ne_nil unicode hpart he
    exact resourcePath_ok (by simpa using hl) hnil (hfold.casefold_casefold.trans hs)
      (isGuid_casefold hg) htail.folded
  · intro type name htype ht hn
    have hnil : [] ∉ subscriptions :: guid :: (rest ++ [type, name]) := by
      have htn : [] ≠ type ∧ [] ≠ name := by
        constructor <;> rintro rfl <;> simp [isComponent] at ht hn
      simp only [List.mem_cons, List.mem_append, not_or] at hne ⊢
      exact ⟨hne.1, hne.2.1, hne.2.2, htn.1, htn.2, by simp⟩
    exact resourcePath_ok (by simp) hnil hs hg (htail.extended type name htype ht hn)

/-! ## Comparison forms -/

theorem mem_joinPath {parts : List Text} {c : Char} (h : c ∈ joinPath parts) :
    c = '/' ∨ ∃ part ∈ parts, c ∈ part := by
  induction parts with
  | nil => simp [joinPath] at h
  | cons part rest ih =>
    cases rest with
    | nil =>
      have hj : joinPath [part] = part := List.intercalate_singleton
      exact .inr ⟨part, by simp, hj ▸ h⟩
    | cons next others =>
      have hj : joinPath (part :: next :: others) = part ++ '/' :: joinPath (next :: others) := by
        simp [joinPath, List.intercalate_cons_cons]
      rw [hj] at h
      have hm : c ∈ part ∨ c = '/' ∨ c ∈ joinPath (next :: others) := by simpa using h
      rcases hm with hm | hm | hm
      · exact .inr ⟨part, by simp, hm⟩
      · exact .inl hm
      · rcases ih hm with he | ⟨other, ho, hc⟩
        · exact .inl he
        · exact .inr ⟨other, List.mem_cons_of_mem _ ho, hc⟩

/-- What acceptance says: the components form a resource path, and the comparison
form is the normalized identifier. -/
theorem normalizeResourceId_cases {value normalized : Text}
    (h : normalizeResourceId unicode value = .ok normalized) :
    normalized = normalizedId unicode value ∧
      resourcePath unicode (splitPath (unicode.nfc value)) = .ok () := by
  rw [normalizeResourceId] at h
  split_ifs at h
  split at h
  · rename_i hp
    have he := Except.ok.inj h
    exact ⟨he.symm, hp⟩
  · exact absurd h (by simp)

theorem normalizeResourceId_eq {value normalized : Text}
    (h : normalizeResourceId unicode value = .ok normalized) :
    normalized = normalizedId unicode value :=
  (normalizeResourceId_cases h).1

/-- A comparison form consists of path characters and separators. -/
theorem normalizeResourceId_characters {value normalized : Text}
    (h : normalizeResourceId unicode value = .ok normalized) :
    ∀ c ∈ normalized, c = '/' ∨ isPathCharacter c = true := by
  obtain ⟨he, hp⟩ := normalizeResourceId_cases h
  have hfold := (resourcePath_accepted hp).foldsToPath
  intro c hc
  rw [← joinPath_splitPath normalized] at hc
  rcases mem_joinPath hc with hs | ⟨part, hm, hcp⟩
  · exact .inl hs
  · rw [he, normalizedId, splitPath_casefold] at hm
    obtain ⟨source, hsource, hpart⟩ := List.mem_map.mp hm
    rw [← hpart] at hcp
    exact .inr (hfold source hsource c hcp)

/-- The comparison form of an accepted identifier is plain. -/
theorem normalizeResourceId_isPlain {value normalized : Text}
    (h : normalizeResourceId unicode value = .ok normalized) : IsPlain normalized := by
  intro c hc
  rcases normalizeResourceId_characters h c hc with rfl | hp
  · decide
  · have hplain := isPathCharacter_plain hp
    exact ⟨hplain.1, hplain.2.1⟩

theorem strip_of_no_space {t : Text} (h : ∀ c ∈ t, isSpace c = false) : strip t = t := by
  have hdrop : ∀ u : Text, (∀ c ∈ u, isSpace c = false) → u.dropWhile isSpace = u := by
    intro u hu
    cases u with
    | nil => rfl
    | cons c rest =>
      have hc := hu c (by simp)
      simp [hc]
  have hr : t.reverse.dropWhile isSpace = t.reverse :=
    hdrop t.reverse fun c hc => h c (List.mem_reverse.mp hc)
  rw [strip, hdrop t h, hr, List.reverse_reverse]

/-- Text of path characters and separators whose components form a resource path is
accepted, and is its own comparison form. -/
theorem normalizeResourceId_of_path {t : Text}
    (hchars : ∀ c ∈ t, c = '/' ∨ isPathCharacter c = true)
    (hpath : resourcePath unicode (splitPath t) = .ok ()) :
    normalizeResourceId unicode t = .ok t := by
  have hfacts : ∀ c ∈ t, c.toNat < 128 ∧ c.isUpper = false ∧ isSpace c = false ∧
      c ≠ '\\' ∧ c ≠ '*' ∧ c ≠ '?' := by
    intro c hc
    rcases hchars c hc with rfl | hp
    · decide
    · exact isPathCharacter_plain hp
  have hplain : IsPlain t := fun c hc => ⟨(hfacts c hc).1, (hfacts c hc).2.1⟩
  have hnfc : unicode.nfc t = t := unicode.nfc_ascii t hplain.isAscii
  have hstrip : strip t = t := strip_of_no_space fun c hc => (hfacts c hc).2.2.1
  have hclean : ¬ (t ≠ strip t ∨ '\\' ∈ t ∨ '*' ∈ t ∨ '?' ∈ t) := by
    simp only [not_or, not_not]
    exact ⟨hstrip.symm, fun hm => (hfacts _ hm).2.2.2.1 rfl, fun hm => (hfacts _ hm).2.2.2.2.1 rfl,
      fun hm => (hfacts _ hm).2.2.2.2.2 rfl⟩
  simp only [normalizeResourceId, hnfc, if_neg hclean, hpath, casefold_of_isPlain unicode hplain]

/-- Normalizing a comparison form changes nothing. -/
theorem normalizeResourceId_idem {value normalized : Text}
    (h : normalizeResourceId unicode value = .ok normalized) :
    normalizeResourceId unicode normalized = .ok normalized := by
  obtain ⟨he, hp⟩ := normalizeResourceId_cases h
  have hfolded := (resourcePath_accepted hp).folded
  rw [← splitPath_casefold] at hfolded
  refine normalizeResourceId_of_path (normalizeResourceId_characters h) ?_
  rw [he]
  exact hfolded

theorem isResourceId_iff {value : Text} :
    isResourceId unicode value = true ↔
      normalizeResourceId unicode value = .ok (normalizedId unicode value) := by
  constructor
  · intro h
    cases hn : normalizeResourceId unicode value with
    | ok normalized => rw [normalizeResourceId_eq hn]
    | error message => simp [isResourceId, hn, Except.isOk, Except.toBool] at h
  · intro h
    simp [isResourceId, h, Except.isOk, Except.toBool]

/-- A comparison form with one more type and name of path characters is a comparison form. -/
theorem normalizeResourceId_append {normalized type name : Text}
    (h : normalizeResourceId unicode normalized = .ok normalized)
    (hp : type ≠ "providers".toList) (ht : isComponent type = true) (hn : isComponent name = true)
    (htype : ∀ c ∈ type, isPathCharacter c = true) (hname : ∀ c ∈ name, isPathCharacter c = true) :
    normalizeResourceId unicode (normalized ++ '/' :: type ++ '/' :: name) =
      .ok (normalized ++ '/' :: type ++ '/' :: name) := by
  have hplain := normalizeResourceId_isPlain h
  have hpath := (normalizeResourceId_cases h).2
  rw [unicode.nfc_ascii normalized hplain.isAscii] at hpath
  have hfold : casefold unicode type = type := casefold_of_isPlain unicode fun c hc =>
    have hc' := isPathCharacter_plain (htype c hc)
    ⟨hc'.1, hc'.2.1⟩
  have hslash : ∀ {u : Text}, (∀ c ∈ u, isPathCharacter c = true) → '/' ∉ u := fun hu hm =>
    absurd (hu _ hm) (by decide)
  have hsplit : splitPath (normalized ++ '/' :: type ++ '/' :: name) =
      splitPath normalized ++ [type, name] := by
    rw [splitPath_append, splitPath_append, splitPath, splitPath, splitPath,
      List.splitOn_eq_singleton (hslash htype), List.splitOn_eq_singleton (hslash hname)]
    simp
  refine normalizeResourceId_of_path ?_ ?_
  · intro c hc
    have hm : c ∈ normalized ∨ c = '/' ∨ c ∈ type ∨ c = '/' ∨ c ∈ name := by simpa using hc
    rcases hm with hm | hm | hm | hm | hm
    · exact normalizeResourceId_characters h c hm
    · exact .inl hm
    · exact .inr (htype c hm)
    · exact .inl hm
    · exact .inr (hname c hm)
  · rw [hsplit]
    exact (resourcePath_accepted hpath).extended type name (by rwa [hfold]) ht hn

end grammar

end AthenaContext.ResourceIdentifiers
