import AthenaContext.JsonText
import AthenaContext.SharedTimestamps

/-!
# The canonicalizers of Python and of the browser

JSON documents as they come from one text, the two canonicalizers, and when they agree: both
fail, or both write the same text.
-/

namespace AthenaContext.CanonicalJson

open JsonText TimestampText SharedTimestamps TextNormalization OrdinalCollections

/-! ## Documents -/

/-- The UTF-16 code units of a string. -/
abbrev Units := List UInt16

/-- A JSON value as its text has it. Integers know the literal `-0`, which Python reads as an
integer and the browser as a negative zero. -/
inductive Document
  | null
  | boolean (value : Bool)
  | integer (value : ℤ)
  | negativeZero
  | string (units : Units)
  | array (items : List Document)
  | object (members : List (Units × Document))

def isHighSurrogate (unit : UInt16) : Bool := 0xD800 ≤ unit.toNat && unit.toNat ≤ 0xDBFF

def isLowSurrogate (unit : UInt16) : Bool := 0xDC00 ≤ unit.toNat && unit.toNat ≤ 0xDFFF

/-- The code points of a Python string; a lone surrogate stays one. -/
def codePoints : Units → List ℕ
  | [] => []
  | [unit] => [unit.toNat]
  | unit :: next :: rest =>
    if isHighSurrogate unit && isLowSurrogate next then
      (0x10000 + (unit.toNat - 0xD800) * 0x400 + (next.toNat - 0xDC00)) :: codePoints rest
    else unit.toNat :: codePoints (next :: rest)

/-- The characters of a string without lone surrogates. -/
def characters (units : Units) : Text := (codePoints units).map Char.ofNat

/-- `_contains_unpaired_surrogate` -/
def containsUnpairedSurrogate (codes : List ℕ) : Bool :=
  codes.any fun code => 0xD800 ≤ code && code ≤ 0xDFFF

/-- The loop of `assertUnicodeScalarText`. -/
def isUnicodeScalarText : Units → Bool
  | [] => true
  | [unit] => !isHighSurrogate unit && !isLowSurrogate unit
  | unit :: next :: rest =>
    if isHighSurrogate unit then isLowSurrogate next && isUnicodeScalarText rest
    else !isLowSurrogate unit && isUnicodeScalarText (next :: rest)

/-- The two checks for lone surrogates agree. -/
theorem containsUnpairedSurrogate_eq (units : Units) :
    containsUnpairedSurrogate (codePoints units) = !isUnicodeScalarText units := by
  have hunit : ∀ unit : UInt16, (0xD800 ≤ unit.toNat && unit.toNat ≤ 0xDFFF) =
      (isHighSurrogate unit || isLowSurrogate unit) := by
    intro unit
    rw [Bool.eq_iff_iff]
    simp only [isHighSurrogate, isLowSurrogate, Bool.and_eq_true, Bool.or_eq_true,
      decide_eq_true_eq]
    omega
  have hexclusive : ∀ unit : UInt16, isHighSurrogate unit = true → isLowSurrogate unit = false := by
    intro unit
    simp only [isHighSurrogate, isLowSurrogate, Bool.and_eq_true, Bool.and_eq_false_iff,
      decide_eq_true_eq, decide_eq_false_iff_not]
    omega
  induction units using codePoints.induct with
  | case1 => rfl
  | case2 unit =>
    simp only [codePoints, containsUnpairedSurrogate, List.any_cons, List.any_nil, hunit,
      isUnicodeScalarText, Bool.or_false, Bool.not_and, Bool.not_not]
  | case3 unit next rest hpair ih =>
    rw [Bool.and_eq_true] at hpair
    have hlow : 0xDC00 ≤ next.toNat := by
      have h := hpair.2
      simp only [isLowSurrogate, Bool.and_eq_true, decide_eq_true_eq] at h
      exact h.1
    rw [codePoints, hpair.1, hpair.2, Bool.and_self, if_pos rfl, isUnicodeScalarText, hpair.1,
      if_pos rfl, hpair.2, Bool.true_and, ← ih, containsUnpairedSurrogate, List.any_cons,
      decide_eq_false (by omega : ¬ 0x10000 + (unit.toNat - 0xD800) * 0x400 + (next.toNat - 0xDC00) ≤ 0xDFFF),
      Bool.and_false, Bool.false_or, containsUnpairedSurrogate]
  | case4 unit next rest hpair ih =>
    rw [codePoints, if_neg hpair, isUnicodeScalarText, containsUnpairedSurrogate, List.any_cons,
      hunit, ← containsUnpairedSurrogate, ih]
    cases hhigh : isHighSurrogate unit with
    | true =>
      rw [hhigh, Bool.true_and] at hpair
      rw [eq_false_of_ne_true hpair]
      rfl
    | false => simp

/-! ## The canonicalizers -/

/-- `_MAX_SAFE_INT`, `MAX_SAFE_INTEGER` -/
def maxSafeInteger : ℕ := 9007199254740991

/-- Whether the stack runs out at a value that lies this deep, when it is normalized or when it
is rendered afterwards. -/
abbrev Stack := ℕ → Document → Bool

/-- What a canonicalizer does at the leaves and at a member, and how deep it gets. -/
structure Canonicalizer where
  text : Units → Option Text
  timestamp : Text → Option Text
  negativeZero : Option Json
  /-- An assignment to a name makes a member. -/
  isMember : Text → Bool
  exceedsStack : Stack

variable (C : Canonicalizer)

/-- A string: its normalized text, or the one of its timestamp. -/
def Canonicalizer.stringValue (units : Units) : Option Text := do
  let text ← C.text units
  if 'T' ∈ text then C.timestamp text else some text

mutual

/-- The walk over a value at a depth. -/
def normalize (depth : ℕ) (document : Document) : Option Json :=
  if C.exceedsStack depth document then none
  else
    match document with
    | .null => some .null
    | .boolean value => some (.boolean value)
    | .integer value => if maxSafeInteger < value.natAbs then none else some (.number value)
    | .negativeZero => C.negativeZero
    | .string units => (C.stringValue units).map .string
    | .array items => (normalizeItems (depth + 1) items).map .array
    | .object members => (normalizeMembers (depth + 1) [] members).map .object

def normalizeItems (depth : ℕ) : List Document → Option (List Json)
  | [] => some []
  | item :: rest => do
    let value ← normalize depth item
    let values ← normalizeItems depth rest
    pure (value :: values)

/-- The members so far, and further ones whose names are new. -/
def normalizeMembers (depth : ℕ) (normalized : List (Text × Json)) :
    List (Units × Document) → Option (List (Text × Json))
  | [] => some normalized
  | (key, item) :: rest => do
    let key ← C.text key
    if key ∈ normalized.map Prod.fst then none
    else
      let value ← normalize depth item
      normalizeMembers depth
        (if C.isMember key then normalized ++ [(key, value)] else normalized) rest

end

/-- The name whose assignment sets the prototype of an object. -/
def protoName : Text := "__proto__".toList

variable (R : DateTimeRuntime) (nfc : Units → Units) (stack : Stack)

/-- `normalize_nfc_text` -/
def normalizeNfcText (units : Units) : Option Text :=
  if containsUnpairedSurrogate (codePoints (nfc units)) then none else some (characters (nfc units))

/-- `assertUnicodeScalarText` -/
def assertUnicodeScalarText (units : Units) : Option Text :=
  if isUnicodeScalarText (nfc units) then some (characters (nfc units)) else none

theorem assertUnicodeScalarText_eq : assertUnicodeScalarText nfc = normalizeNfcText nfc := by
  funext units
  rw [assertUnicodeScalarText, normalizeNfcText, containsUnpairedSurrogate_eq]
  cases isUnicodeScalarText (nfc units) <;> rfl

namespace Python

def canonicalizer : Canonicalizer where
  text := normalizeNfcText nfc
  timestamp := normalizeDatetimeString R
  negativeZero := some (.number 0)
  isMember := fun _ => true
  exceedsStack := stack

/-- `_normalize_json_value` -/
def normalizeJsonValue (document : Document) : Option Json :=
  normalize (canonicalizer R nfc stack) 0 document

/-- `canonicalize_json`; `none` is an exception. -/
def canonicalizeJson (document : Document) : Option Text :=
  (normalizeJsonValue R nfc stack document).map canonicalText

end Python

namespace Browser

def canonicalizer : Canonicalizer where
  text := assertUnicodeScalarText nfc
  timestamp := normalizeTimestamp
  negativeZero := none
  isMember := fun key => key ≠ protoName
  exceedsStack := stack

/-- `normalizeJson` -/
def normalizeJson (document : Document) : Option Json := normalize (canonicalizer nfc stack) 0 document

/-- `canonicalizeJson`; `none` is an exception. -/
def canonicalizeJson (document : Document) : Option Text :=
  (normalizeJson nfc stack document).map canonicalText

end Browser

/-! ## Failures -/

mutual

/-- A value and all values inside it, with their depths. -/
def values (depth : ℕ) : Document → List (ℕ × Document)
  | .array items => (depth, .array items) :: itemsValues (depth + 1) items
  | .object members => (depth, .object members) :: membersValues (depth + 1) members
  | document => [(depth, document)]

def itemsValues (depth : ℕ) : List Document → List (ℕ × Document)
  | [] => []
  | item :: rest => values depth item ++ itemsValues depth rest

def membersValues (depth : ℕ) : List (Units × Document) → List (ℕ × Document)
  | [] => []
  | (_, item) :: rest => values depth item ++ membersValues depth rest

end

theorem self_mem_values (depth : ℕ) (document : Document) :
    (depth, document) ∈ values depth document := by
  cases document <;> simp [values]

variable {C : Canonicalizer} {R : DateTimeRuntime} {nfc : Units → Units} {stack : Stack} {depth : ℕ}

/-- The names of the members, normalized. -/
def keyTexts (C : Canonicalizer) (members : List (Units × Document)) : List Text :=
  members.filterMap fun member => C.text member.1

/-- The walk fails at a value itself, with stack enough. -/
def FailsHere (C : Canonicalizer) : Document → Prop
  | .integer value => maxSafeInteger < value.natAbs
  | .negativeZero => C.negativeZero = none
  | .string units => C.stringValue units = none
  | .object members =>
    (∃ member ∈ members, C.text member.1 = none) ∨
      ¬ ((keyTexts C members).filter fun key => C.isMember key).Nodup
  | _ => False

/-- The walk fails at a value and its depth. -/
def StopsAt (C : Canonicalizer) (x : ℕ × Document) : Prop :=
  C.exceedsStack x.1 x.2 = true ∨ FailsHere C x.2

/-- The members with their names normalized, equal names not noticed. -/
def readMembers (C : Canonicalizer) (depth : ℕ) :
    List (Units × Document) → Option (List (Text × Json))
  | [] => some []
  | (key, item) :: rest => do
    let key ← C.text key
    let value ← normalize C depth item
    let entries ← readMembers C depth rest
    pure ((key, value) :: entries)

/-- The entries that assignments make. -/
def ownEntries (C : Canonicalizer) (entries : List (Text × Json)) : List (Text × Json) :=
  entries.filter fun entry => C.isMember entry.1

theorem ownEntries_keys {entries : List (Text × Json)} :
    (ownEntries C entries).map Prod.fst = (entries.map Prod.fst).filter fun key => C.isMember key := by
  rw [ownEntries, List.filter_map]
  rfl

theorem ownEntries_cons_of_pos {key : Text} {value : Json} {entries : List (Text × Json)}
    (h : C.isMember key = true) :
    ownEntries C ((key, value) :: entries) = (key, value) :: ownEntries C entries :=
  List.filter_cons_of_pos h

theorem ownEntries_cons_of_neg {key : Text} {value : Json} {entries : List (Text × Json)}
    (h : C.isMember key = false) : ownEntries C ((key, value) :: entries) = ownEntries C entries :=
  List.filter_cons_of_neg (by simp [h])

/-- The walk over the members: all are read, and the own ones have distinct names. -/
theorem normalizeMembers_eq (members : List (Units × Document)) (normalized : List (Text × Json))
    (hd : (normalized.map Prod.fst).Nodup)
    (hm : ∀ entry ∈ normalized, C.isMember entry.1 = true) :
    normalizeMembers C depth normalized members =
      (readMembers C depth members).bind fun entries =>
        if ((normalized ++ ownEntries C entries).map Prod.fst).Nodup then
          some (normalized ++ ownEntries C entries)
        else none := by
  induction members generalizing normalized with
  | nil =>
    rw [normalizeMembers, readMembers, Option.bind_some, ownEntries, List.filter_nil,
      List.append_nil, if_pos hd]
  | cons member rest ih =>
    obtain ⟨key, item⟩ := member
    rw [normalizeMembers, readMembers]
    cases htext : C.text key with
    | none => rfl
    | some key =>
      simp only [Option.bind_eq_bind, Option.bind_some]
      by_cases hin : key ∈ normalized.map Prod.fst
      · obtain ⟨entry, hentry, hkey⟩ := List.mem_map.mp hin
        have hmember : C.isMember key = true := hkey ▸ hm entry hentry
        rw [if_pos hin]
        cases normalize C depth item with
        | none => rfl
        | some value =>
          cases readMembers C depth rest with
          | none => rfl
          | some entries =>
            have htwice : ¬ ((normalized ++ ownEntries C ((key, value) :: entries)).map
                Prod.fst).Nodup := by
              rw [List.map_append, ownEntries_cons_of_pos hmember, List.map_cons]
              exact fun h => List.disjoint_of_nodup_append h hin List.mem_cons_self
            simp only [Option.bind_some, Option.pure_def, if_neg htwice]
      · rw [if_neg hin]
        cases normalize C depth item with
        | none => rfl
        | some value =>
          cases hmember : C.isMember key with
          | true =>
            have hd' : ((normalized ++ [(key, value)]).map Prod.fst).Nodup := by
              rw [List.map_append, List.map_singleton]
              refine List.Nodup.append hd (List.nodup_singleton _) fun other hother hkey => ?_
              rw [List.mem_singleton.mp hkey] at hother
              exact hin hother
            have hm' : ∀ entry ∈ normalized ++ [(key, value)], C.isMember entry.1 = true := by
              intro entry hentry
              rcases List.mem_append.mp hentry with hold | hnew
              · exact hm entry hold
              · rw [List.mem_singleton.mp hnew]
                exact hmember
            simp only [Option.bind_some, if_true]
            rw [ih _ hd' hm']
            cases readMembers C depth rest with
            | none => rfl
            | some entries =>
              simp only [Option.bind_some, Option.pure_def, ownEntries_cons_of_pos hmember,
                List.append_assoc, List.singleton_append]
          | false =>
            simp only [Option.bind_some, Bool.false_eq_true, if_false]
            rw [ih _ hd hm]
            cases readMembers C depth rest with
            | none => rfl
            | some entries =>
              simp only [Option.bind_some, Option.pure_def, ownEntries_cons_of_neg hmember]

/-- The walk over an object. -/
theorem normalize_object (members : List (Units × Document)) :
    normalize C depth (.object members) =
      if C.exceedsStack depth (.object members) then none
      else
        (readMembers C (depth + 1) members).bind fun entries =>
          if ((ownEntries C entries).map Prod.fst).Nodup then
            some (.object (ownEntries C entries))
          else none := by
  rw [normalize.eq_def]
  refine if_congr Iff.rfl rfl ?_
  dsimp only
  rw [normalizeMembers_eq members [] List.nodup_nil nofun]
  cases readMembers C (depth + 1) members with
  | none => rfl
  | some entries =>
    simp only [Option.bind_some, List.nil_append]
    split_ifs <;> rfl

theorem keys_of_readMembers {members : List (Units × Document)} {entries : List (Text × Json)}
    (h : readMembers C depth members = some entries) : entries.map Prod.fst = keyTexts C members := by
  induction members generalizing entries with
  | nil =>
    rw [← Option.some.inj h]
    rfl
  | cons member rest ih =>
    obtain ⟨key, item⟩ := member
    simp only [readMembers, Option.bind_eq_bind, Option.bind_eq_some_iff, Option.pure_def,
      Option.some.injEq] at h
    obtain ⟨text, htext, value, -, entries, hrest, rfl⟩ := h
    have hcons : keyTexts C ((key, item) :: rest) = text :: keyTexts C rest :=
      List.filterMap_cons_some htext
    rw [List.map_cons, ih hrest, hcons]

mutual

/-- The walk fails exactly where it fails at some value. -/
theorem normalize_eq_none (depth : ℕ) (document : Document) :
    normalize C depth document = none ↔ ∃ x ∈ values depth document, StopsAt C x := by
  by_cases hstack : C.exceedsStack depth document = true
  · rw [normalize.eq_def, if_pos hstack]
    exact iff_of_true rfl ⟨_, self_mem_values depth document, .inl hstack⟩
  have hhere : StopsAt C (depth, document) ↔ FailsHere C document := or_iff_right hstack
  match document with
  | .null => rw [normalize.eq_def, if_neg hstack]; simp [values, hhere, FailsHere]
  | .boolean _ => rw [normalize.eq_def, if_neg hstack]; simp [values, hhere, FailsHere]
  | .integer _ => rw [normalize.eq_def, if_neg hstack]; simp [values, hhere, FailsHere]
  | .negativeZero => rw [normalize.eq_def, if_neg hstack]; simp [values, hhere, FailsHere]
  | .string _ => rw [normalize.eq_def, if_neg hstack]; simp [values, hhere, FailsHere]
  | .array items =>
    rw [normalize.eq_def, if_neg hstack]
    dsimp only
    rw [Option.map_eq_none_iff, normalizeItems_eq_none (depth + 1) items,
      values]
    simp [hhere, FailsHere]
  | .object members =>
    rw [normalize_object, if_neg hstack, values]
    simp only [List.mem_cons, exists_eq_or_imp, hhere]
    cases hread : readMembers C (depth + 1) members with
    | none =>
      have hfails := (readMembers_eq_none (depth + 1) members).mp hread
      rw [FailsHere]
      exact ⟨fun _ => hfails.imp_left .inl, fun _ => rfl⟩
    | some entries =>
      have hnone : ¬ readMembers C (depth + 1) members = none := by simp [hread]
      rw [readMembers_eq_none (depth + 1) members, not_or] at hnone
      rw [FailsHere, or_iff_right hnone.1, or_iff_left hnone.2, Option.bind_some,
        ← keys_of_readMembers hread, ← ownEntries_keys]
      split
      case isTrue hd => simp [hd]
      case isFalse hd => simp [hd]

theorem normalizeItems_eq_none (depth : ℕ) (items : List Document) :
    normalizeItems C depth items = none ↔ ∃ x ∈ itemsValues depth items, StopsAt C x := by
  match items with
  | [] => simp [normalizeItems, itemsValues]
  | item :: rest =>
    have hitem := normalize_eq_none depth item
    have hrest := normalizeItems_eq_none depth rest
    rw [normalizeItems, itemsValues]
    simp only [List.mem_append, or_and_right, exists_or, ← hitem, ← hrest]
    cases normalize C depth item with
    | none => simp
    | some value => cases normalizeItems C depth rest <;> simp

theorem readMembers_eq_none (depth : ℕ) (members : List (Units × Document)) :
    readMembers C depth members = none ↔
      (∃ member ∈ members, C.text member.1 = none) ∨
        ∃ x ∈ membersValues depth members, StopsAt C x := by
  match members with
  | [] => simp [readMembers, membersValues]
  | (key, item) :: rest =>
    have hitem := normalize_eq_none depth item
    have hrest := readMembers_eq_none depth rest
    rw [readMembers, membersValues]
    rw [List.exists_mem_cons_iff]
    simp only [List.mem_append, or_and_right, exists_or, ← hitem]
    cases htext : C.text key with
    | none => exact ⟨fun _ => .inl (.inl rfl), fun _ => rfl⟩
    | some text =>
      cases normalize C depth item with
      | none => exact ⟨fun _ => .inr (.inl rfl), fun _ => rfl⟩
      | some value =>
        rw [or_iff_right (Option.some_ne_none text), or_iff_right (Option.some_ne_none value),
          ← hrest]
        cases readMembers C depth rest <;> simp

end

/-! ## Where one side fails -/

/-- The names of the members of an object. -/
def memberNames (nfc : Units → Units) (members : List (Units × Document)) : List Text :=
  members.filterMap fun member => normalizeNfcText nfc member.1

/-- Both sides refuse a value itself: an integer that is not safe, a text with a lone surrogate
or an unfinished timestamp, members of one name. -/
def RefusedHere (nfc : Units → Units) : Document → Prop
  | .integer value => maxSafeInteger < value.natAbs
  | .string units =>
    normalizeNfcText nfc units = none ∨ ∃ text ∈ normalizeNfcText nfc units, Unfinished text
  | .object members =>
    (∃ member ∈ members, normalizeNfcText nfc member.1 = none) ∨ ¬ (memberNames nfc members).Nodup
  | _ => False

/-- Only Python fails: its calendar has no date for the instant of a timestamp. -/
def LeavesHere (R : DateTimeRuntime) (nfc : Units → Units) : Document → Prop
  | .string units =>
    ∃ text ∈ normalizeNfcText nfc units, ∃ m ∈ matchTimestamp text, LeavesCalendar R m
  | _ => False

/-- Only the browser fails: it has a negative zero. -/
def IsNegativeZero : Document → Prop
  | .negativeZero => True
  | _ => False

/-- Both sides write a value itself alike. -/
def SharedHere (R : DateTimeRuntime) (nfc : Units → Units) : Document → Prop
  | .negativeZero => False
  | .string units =>
    ∀ text ∈ normalizeNfcText nfc units, ∀ m ∈ matchTimestamp text, SharedMatch R m
  | .object members => protoName ∉ memberNames nfc members
  | _ => True

/-- A text whose objects have distinct keys. -/
def DistinctKeys (document : Document) : Prop :=
  ∀ x ∈ values 0 document, ∀ members, x.2 = .object members → (members.map Prod.fst).Nodup

/-- The first look for the letter of a timestamp changes nothing. -/
theorem gated_timestamp {f : Text → Option Text} {text : Text}
    (hplain : matchTimestamp text = none → (readDateTime text).isSome = false → f text = some text) :
    (if 'T' ∈ text then f text else some text) = f text := by
  split
  case isTrue => rfl
  case isFalse hT =>
    have hread : (readDateTime text).isSome = false :=
      eq_false_of_ne_true fun h => hT (mem_of_readDateTime h)
    refine (hplain ?_ hread).symm
    rw [matchTimestamp, Option.isNone_iff_eq_none.mp (Option.isSome_eq_false_iff.mp hread)]
    rfl

theorem python_stringValue (units : Units) :
    (Python.canonicalizer R nfc stack).stringValue units =
      (normalizeNfcText nfc units).bind (normalizeDatetimeString R) := by
  rw [Canonicalizer.stringValue]
  refine Option.bind_congr fun text _ => gated_timestamp fun hm hread => ?_
  show normalizeDatetimeString R text = some text
  simp only [normalizeDatetimeString, hm, hread, Bool.false_eq_true, if_false]

theorem browser_stringValue (units : Units) :
    (Browser.canonicalizer nfc stack).stringValue units =
      (normalizeNfcText nfc units).bind normalizeTimestamp := by
  rw [Canonicalizer.stringValue, Browser.canonicalizer, assertUnicodeScalarText_eq]
  refine Option.bind_congr fun text _ => gated_timestamp fun hm hread => ?_
  simp only [normalizeTimestamp, hm, hread, Bool.false_eq_true, if_false]

theorem python_failsHere {document : Document} :
    FailsHere (Python.canonicalizer R nfc stack) document ↔
      RefusedHere nfc document ∨ LeavesHere R nfc document := by
  cases document with
  | null => simp [FailsHere, RefusedHere, LeavesHere]
  | boolean value => simp [FailsHere, RefusedHere, LeavesHere]
  | integer value => simp [FailsHere, RefusedHere, LeavesHere]
  | negativeZero => simp [FailsHere, RefusedHere, LeavesHere, Python.canonicalizer]
  | array items => simp [FailsHere, RefusedHere, LeavesHere]
  | string units =>
    rw [FailsHere, RefusedHere, LeavesHere, python_stringValue]
    cases normalizeNfcText nfc units with
    | none => simp
    | some text =>
      rw [Option.bind_some, normalizeDatetimeString_eq_none]
      simp
  | object members =>
    simp only [FailsHere, RefusedHere, LeavesHere, or_false]
    have hown : ((keyTexts (Python.canonicalizer R nfc stack) members).filter fun _ => true) =
        memberNames nfc members := List.filter_true _
    rw [← hown]
    rfl

/-- The code units of `__proto__`. -/
def protoUnits : Units := [0x5F, 0x5F, 0x70, 0x72, 0x6F, 0x74, 0x6F, 0x5F, 0x5F]

/-- Only `__proto__` itself is normalized to that name. -/
def ProtoNameIsFixed (nfc : Units → Units) : Prop :=
  ∀ units, normalizeNfcText nfc units = some protoName → units = protoUnits

theorem protoName_once (hproto : ProtoNameIsFixed nfc) {members : List (Units × Document)}
    (hd : (members.map Prod.fst).Nodup) : (memberNames nfc members).count protoName ≤ 1 := by
  induction members with
  | nil => exact Nat.zero_le 1
  | cons member rest ih =>
    obtain ⟨hnew, hrest⟩ := List.nodup_cons.mp hd
    have hcons : memberNames nfc (member :: rest) =
        ((normalizeNfcText nfc member.1).toList ++ memberNames nfc rest) := by
      rw [memberNames, List.filterMap_cons]
      cases normalizeNfcText nfc member.1 <;> rfl
    have hle := ih hrest
    rw [hcons, List.count_append]
    by_cases hname : normalizeNfcText nfc member.1 = some protoName
    · have hnone : (memberNames nfc rest).count protoName = 0 := by
        refine List.count_eq_zero.mpr fun hin => hnew ?_
        obtain ⟨other, hother, hsame⟩ := List.mem_filterMap.mp hin
        rw [hproto _ hname, ← hproto _ hsame]
        exact List.mem_map_of_mem hother
      rw [hnone, hname, Option.toList_some]
      exact le_of_eq (by simp)
    · have hzero : (normalizeNfcText nfc member.1).toList.count protoName = 0 := by
        refine List.count_eq_zero.mpr fun hin => hname ?_
        exact Option.mem_toList.mp hin
      omega

/-- Names that are distinct but for one that occurs once are distinct. -/
theorem nodup_filter_ne {names : List Text} {name : Text} (h : names.count name ≤ 1) :
    (names.filter fun key => decide (key ≠ name)).Nodup ↔ names.Nodup := by
  refine ⟨fun hd => ?_, fun hd => hd.filter _⟩
  rw [List.nodup_iff_count_le_one] at hd ⊢
  intro key
  by_cases hkey : key = name
  · rw [hkey]
    exact h
  · have hcount := hd key
    rwa [List.count_filter (by simpa using hkey)] at hcount

theorem browser_failsHere (hproto : ProtoNameIsFixed nfc) {document : Document}
    (hd : ∀ members, document = .object members → (members.map Prod.fst).Nodup) :
    FailsHere (Browser.canonicalizer nfc stack) document ↔
      RefusedHere nfc document ∨ IsNegativeZero document := by
  cases document with
  | null => simp [FailsHere, RefusedHere, IsNegativeZero]
  | boolean value => simp [FailsHere, RefusedHere, IsNegativeZero]
  | integer value => simp [FailsHere, RefusedHere, IsNegativeZero]
  | negativeZero => simp [FailsHere, RefusedHere, IsNegativeZero, Browser.canonicalizer]
  | array items => simp [FailsHere, RefusedHere, IsNegativeZero]
  | string units =>
    simp only [FailsHere, RefusedHere, IsNegativeZero, browser_stringValue, or_false]
    cases normalizeNfcText nfc units with
    | none => simp
    | some text =>
      rw [Option.bind_some, normalizeTimestamp_eq_none]
      simp
  | object members =>
    have hown := nodup_filter_ne (protoName_once hproto (hd members rfl))
    simp only [FailsHere, RefusedHere, IsNegativeZero, or_false]
    rw [Browser.canonicalizer, keyTexts, assertUnicodeScalarText_eq, ← hown]
    rfl

/-! ## Where both sides write -/

variable {browserStack : Stack}

theorem keys_membersInOrder (members : List (Text × Json)) :
    (membersInOrder members).map Prod.fst = members.map Prod.fst := by
  induction members with
  | nil => rfl
  | cons member rest ih =>
    rw [membersInOrder, List.map_cons, List.map_cons, ih]

theorem length_membersInOrder (members : List (Text × Json)) :
    (membersInOrder members).length = members.length := by
  have hkeys := congrArg List.length (keys_membersInOrder members)
  rwa [List.length_map, List.length_map] at hkeys

theorem keyTexts_browser (members : List (Units × Document)) :
    keyTexts (Browser.canonicalizer nfc stack) members = memberNames nfc members := by
  rw [keyTexts, Browser.canonicalizer, assertUnicodeScalarText_eq, memberNames]

/-- A string that both sides accept. -/
theorem string_same_iff {units : Units} {a b : Text}
    (ha : (Python.canonicalizer R nfc stack).stringValue units = some a)
    (hb : (Browser.canonicalizer nfc browserStack).stringValue units = some b) :
    a = b ↔ SharedHere R nfc (.string units) := by
  rw [python_stringValue] at ha
  rw [browser_stringValue] at hb
  rw [SharedHere]
  cases htext : normalizeNfcText nfc units with
  | none =>
    rw [htext] at ha
    cases ha
  | some text =>
    rw [htext, Option.bind_some] at ha hb
    have hfinished : ¬ Unfinished text := by
      rw [← normalizeTimestamp_eq_none, hb]
      exact Option.some_ne_none b
    have hsame := normalized_text_eq_iff (R := R) hfinished
    rw [ha, hb, Option.some.injEq] at hsame
    simpa using hsame

/-- Objects of the same names: the browser drops a member named `__proto__`. -/
theorem object_same_iff {members : List (Units × Document)} {as bs : List (Text × Json)}
    (ha : readMembers (Python.canonicalizer R nfc stack) depth members = some as)
    (hb : readMembers (Browser.canonicalizer nfc browserStack) depth members = some bs)
    (hd : (as.map Prod.fst).Nodup) :
    inOrder (.object as) =
        inOrder (.object (ownEntries (Browser.canonicalizer nfc browserStack) bs)) ↔
      protoName ∉ memberNames nfc members ∧ membersInOrder as = membersInOrder bs := by
  have hkeysA : as.map Prod.fst = memberNames nfc members := keys_of_readMembers ha
  have hkeysB : bs.map Prod.fst = memberNames nfc members :=
    (keys_of_readMembers hb).trans (keyTexts_browser members)
  rw [inOrder, inOrder, Json.object.injEq]
  by_cases hproto : protoName ∈ memberNames nfc members
  · refine ⟨fun h => ?_, fun h => absurd hproto h.1⟩
    have hlength := congrArg List.length h
    rw [length_sortOn, length_sortOn, length_membersInOrder, length_membersInOrder] at hlength
    have hsame : as.length = bs.length := by
      have hkeys := congrArg List.length (hkeysA.trans hkeysB.symm)
      rwa [List.length_map, List.length_map] at hkeys
    obtain ⟨entry, hentry, hname⟩ := List.mem_map.mp (hkeysB ▸ hproto)
    have hall := List.length_filter_eq_length_iff.mp (hlength.symm.trans hsame) entry hentry
    rw [hname] at hall
    simp [Browser.canonicalizer] at hall
  · have hown : ownEntries (Browser.canonicalizer nfc browserStack) bs = bs := by
      refine List.filter_eq_self.mpr fun entry hentry => ?_
      refine decide_eq_true fun hname => hproto ?_
      rw [← hkeysB, ← hname]
      exact List.mem_map_of_mem hentry
    rw [hown, sortOn_members_eq_iff, and_iff_right hproto]
    · rw [keys_membersInOrder, keys_membersInOrder, hkeysA, hkeysB]
    · rw [keys_membersInOrder]
      exact hd

mutual

/-- Values that both sides write come out alike exactly if all values inside do. -/
theorem same_iff (depth : ℕ) (document : Document) {a b : Json}
    (ha : normalize (Python.canonicalizer R nfc stack) depth document = some a)
    (hb : normalize (Browser.canonicalizer nfc browserStack) depth document = some b) :
    inOrder a = inOrder b ↔ ∀ x ∈ values depth document, SharedHere R nfc x.2 := by
  rw [normalize.eq_def, Option.ite_none_left_eq_some] at ha hb
  replace ha := ha.2
  replace hb := hb.2
  match document with
  | .null =>
    simp only [Option.some.injEq] at ha hb
    simp [← ha, ← hb, values, SharedHere]
  | .boolean value =>
    simp only [Option.some.injEq] at ha hb
    simp [← ha, ← hb, values, SharedHere]
  | .integer value =>
    rw [Option.ite_none_left_eq_some, Option.some.injEq] at ha hb
    simp [← ha.2, ← hb.2, values, SharedHere]
  | .negativeZero => cases hb
  | .string units =>
    rw [Option.map_eq_some_iff] at ha hb
    obtain ⟨s, hs, rfl⟩ := ha
    obtain ⟨t, ht, rfl⟩ := hb
    rw [inOrder, inOrder, Json.string.injEq, string_same_iff hs ht]
    simp [values]
  | .array items =>
    rw [Option.map_eq_some_iff] at ha hb
    obtain ⟨as, has, rfl⟩ := ha
    obtain ⟨bs, hbs, rfl⟩ := hb
    rw [inOrder, inOrder, Json.array.injEq, items_same_iff (depth + 1) items has hbs, values,
      List.forall_mem_cons]
    exact (and_iff_right trivial).symm
  | .object members =>
    rw [Option.map_eq_some_iff] at ha hb
    obtain ⟨as, has, rfl⟩ := ha
    obtain ⟨bs, hbs, rfl⟩ := hb
    rw [normalizeMembers_eq members [] List.nodup_nil nofun, Option.bind_eq_some_iff] at has hbs
    obtain ⟨as, has, hownA⟩ := has
    obtain ⟨bs, hbs, hownB⟩ := hbs
    rw [Option.ite_none_right_eq_some, Option.some.injEq, List.nil_append] at hownA hownB
    have hallA : ownEntries (Python.canonicalizer R nfc stack) as = as := List.filter_true as
    rw [hallA] at hownA
    rw [← hownA.2, ← hownB.2, object_same_iff has hbs hownA.1,
      members_same_iff (depth + 1) members has hbs, values, List.forall_mem_cons]
    rfl

theorem items_same_iff (depth : ℕ) (items : List Document) {as bs : List Json}
    (ha : normalizeItems (Python.canonicalizer R nfc stack) depth items = some as)
    (hb : normalizeItems (Browser.canonicalizer nfc browserStack) depth items = some bs) :
    itemsInOrder as = itemsInOrder bs ↔ ∀ x ∈ itemsValues depth items, SharedHere R nfc x.2 := by
  match items with
  | [] =>
    rw [normalizeItems, Option.some.injEq] at ha hb
    simp [← ha, ← hb, itemsValues]
  | item :: rest =>
    simp only [normalizeItems, Option.bind_eq_bind, Option.bind_eq_some_iff, Option.pure_def,
      Option.some.injEq] at ha hb
    obtain ⟨a, ha, as, has, rfl⟩ := ha
    obtain ⟨b, hb, bs, hbs, rfl⟩ := hb
    rw [itemsInOrder, itemsInOrder, List.cons.injEq, same_iff depth item ha hb,
      items_same_iff depth rest has hbs, itemsValues, List.forall_mem_append]

theorem members_same_iff (depth : ℕ) (members : List (Units × Document))
    {as bs : List (Text × Json)}
    (ha : readMembers (Python.canonicalizer R nfc stack) depth members = some as)
    (hb : readMembers (Browser.canonicalizer nfc browserStack) depth members = some bs) :
    membersInOrder as = membersInOrder bs ↔
      ∀ x ∈ membersValues depth members, SharedHere R nfc x.2 := by
  match members with
  | [] =>
    rw [readMembers, Option.some.injEq] at ha hb
    simp [← ha, ← hb, membersValues]
  | (key, item) :: rest =>
    simp only [readMembers, Option.bind_eq_bind, Option.bind_eq_some_iff, Option.pure_def,
      Option.some.injEq] at ha hb
    obtain ⟨s, hs, a, ha, as, has, rfl⟩ := ha
    obtain ⟨t, ht, b, hb, bs, hbs, rfl⟩ := hb
    have hsame : s = t := by
      rw [Browser.canonicalizer, assertUnicodeScalarText_eq] at ht
      exact Option.some.inj (hs.symm.trans ht)
    rw [membersInOrder, membersInOrder, List.cons.injEq, Prod.mk.injEq, and_iff_right hsame,
      same_iff depth item ha hb, members_same_iff depth rest has hbs, membersValues,
      List.forall_mem_append]

end

/-! ## Agreement -/

/-- Both sides fail, or the document has nothing that they treat differently and both have the
stack for it. -/
def Agreeable (R : DateTimeRuntime) (nfc : Units → Units) (stack browserStack : Stack)
    (document : Document) : Prop :=
  (∃ x ∈ values 0 document, RefusedHere nfc x.2) ∨
    ((∃ x ∈ values 0 document, stack x.1 x.2 = true ∨ LeavesHere R nfc x.2) ∧
      ∃ x ∈ values 0 document, browserStack x.1 x.2 = true ∨ IsNegativeZero x.2) ∨
    ∀ x ∈ values 0 document,
      stack x.1 x.2 = false ∧ browserStack x.1 x.2 = false ∧ SharedHere R nfc x.2

theorem shared_not_leaves {document : Document} (h : SharedHere R nfc document) :
    ¬ LeavesHere R nfc document := by
  cases document with
  | string units =>
    rintro ⟨text, htext, m, hm, hleaves⟩
    exact not_leavesCalendar hm (h text htext m hm) hleaves
  | null => exact id
  | boolean value => exact id
  | integer value => exact id
  | negativeZero => exact id
  | array items => exact id
  | object members => exact id

theorem shared_not_negativeZero {document : Document} (h : SharedHere R nfc document) :
    ¬ IsNegativeZero document := by
  cases document with
  | negativeZero => exact h.elim
  | null => exact id
  | boolean value => exact id
  | integer value => exact id
  | string units => exact id
  | array items => exact id
  | object members => exact id

/-- Where Python fails alone, and where the browser does. -/
theorem python_eq_none (document : Document) :
    Python.normalizeJsonValue R nfc stack document = none ↔
      (∃ x ∈ values 0 document, RefusedHere nfc x.2) ∨
        ∃ x ∈ values 0 document, stack x.1 x.2 = true ∨ LeavesHere R nfc x.2 := by
  rw [Python.normalizeJsonValue, normalize_eq_none, ← exists_or]
  refine exists_congr fun x => ?_
  rw [← and_or_left, StopsAt, python_failsHere, or_left_comm]
  rfl

theorem browser_eq_none (hproto : ProtoNameIsFixed nfc) {document : Document}
    (hd : DistinctKeys document) :
    Browser.normalizeJson nfc browserStack document = none ↔
      (∃ x ∈ values 0 document, RefusedHere nfc x.2) ∨
        ∃ x ∈ values 0 document, browserStack x.1 x.2 = true ∨ IsNegativeZero x.2 := by
  rw [Browser.normalizeJson, normalize_eq_none, ← exists_or]
  refine exists_congr fun x => ?_
  rw [← and_or_left]
  refine and_congr_right fun hx => ?_
  rw [StopsAt, browser_failsHere hproto (hd x hx), or_left_comm]
  rfl

/-- The canonicalizers of Python and of the browser agree on a document exactly under the
condition, whatever stack each of them has. -/
theorem canonicalizers_agree_iff (hproto : ProtoNameIsFixed nfc) {document : Document}
    (hd : DistinctKeys document) :
    Python.canonicalizeJson R nfc stack document =
        Browser.canonicalizeJson nfc browserStack document ↔
      Agreeable R nfc stack browserStack document := by
  have hpython : Python.normalizeJsonValue R nfc stack document = none ↔ _ := python_eq_none document
  have hbrowser : Browser.normalizeJson nfc browserStack document = none ↔ _ :=
    browser_eq_none hproto hd
  rw [Python.canonicalizeJson, Browser.canonicalizeJson, Agreeable]
  by_cases hrefused : ∃ x ∈ values 0 document, RefusedHere nfc x.2
  · rw [hpython.mpr (.inl hrefused), hbrowser.mpr (.inl hrefused)]
    exact ⟨fun _ => .inl hrefused, fun _ => rfl⟩
  rw [or_iff_right hrefused] at hpython hbrowser ⊢
  by_cases hfails : ∃ x ∈ values 0 document, stack x.1 x.2 = true ∨ LeavesHere R nfc x.2
  · rw [hpython.mpr hfails, Option.map_none, eq_comm, Option.map_eq_none_iff, hbrowser,
      and_iff_right hfails]
    refine ⟨.inl, fun h => h.resolve_right fun hall => ?_⟩
    obtain ⟨x, hx, hover | hleaves⟩ := hfails
    · exact Bool.false_ne_true ((hall x hx).1.symm.trans hover)
    · exact shared_not_leaves (hall x hx).2.2 hleaves
  obtain ⟨a, ha⟩ := Option.ne_none_iff_exists'.mp (mt hpython.mp hfails)
  rw [ha, Option.map_some, or_iff_right fun h => hfails h.1]
  by_cases hzero : ∃ x ∈ values 0 document, browserStack x.1 x.2 = true ∨ IsNegativeZero x.2
  · rw [hbrowser.mpr hzero]
    refine ⟨fun h => (nomatch h), fun hall => ?_⟩
    obtain ⟨x, hx, hover | hneg⟩ := hzero
    · exact absurd ((hall x hx).2.1.symm.trans hover) Bool.false_ne_true
    · exact absurd hneg (shared_not_negativeZero (hall x hx).2.2)
  · obtain ⟨b, hb⟩ := Option.ne_none_iff_exists'.mp (mt hbrowser.mp hzero)
    rw [hb, Option.map_some, Option.some.injEq, canonicalText_eq_iff, same_iff 0 document ha hb]
    refine forall₂_congr fun x hx => ⟨fun h => ⟨?_, ?_, h⟩, fun h => h.2.2⟩
    · exact eq_false_of_ne_true fun hover => hfails ⟨x, hx, .inl hover⟩
    · exact eq_false_of_ne_true fun hover => hzero ⟨x, hx, .inl hover⟩

/-- Code points of one unit each are the units. -/
theorem codePoints_eq_map {units : Units} (h : ∀ code ∈ codePoints units, code < 0x10000) :
    codePoints units = units.map UInt16.toNat := by
  induction units using codePoints.induct with
  | case1 => rfl
  | case2 unit => rfl
  | case3 unit next rest hpair ih =>
    rw [codePoints, if_pos hpair] at h
    have hwide := h _ List.mem_cons_self
    omega
  | case4 unit next rest hpair ih =>
    rw [codePoints, if_neg hpair] at h ⊢
    rw [ih fun code hcode => h code (List.mem_cons_of_mem _ hcode)]
    rfl

theorem code_of_proto {code : ℕ} (h : Char.ofNat code ∈ protoName) :
    code = (Char.ofNat code).toNat ∧ code < 0x10000 := by
  have hall : (protoName.all fun c => decide (0 < c.toNat ∧ c.toNat < 0x10000)) = true := by
    decide
  have hbound := of_decide_eq_true (List.all_eq_true.mp hall _ h)
  by_cases hvalid : code.isValidChar
  · have hcode : (Char.ofNat code).toNat = code := by
      rw [Char.ofNat, dif_pos hvalid]
      rfl
    rw [hcode] at hbound ⊢
    exact ⟨rfl, hbound.2⟩
  · rw [Char.ofNat, dif_neg hvalid] at hbound
    exact absurd hbound.1 (by decide)

/-- Texts of ASCII characters only are normalized already. -/
theorem protoNameIsFixed_id : ProtoNameIsFixed id := by
  intro units h
  rw [normalizeNfcText, Option.ite_none_left_eq_some, Option.some.injEq] at h
  have hchars : (codePoints units).map Char.ofNat = protoName := h.2
  have hcodes : ∀ code ∈ codePoints units, code = (Char.ofNat code).toNat ∧ code < 0x10000 := by
    intro code hcode
    exact code_of_proto (hchars ▸ List.mem_map_of_mem hcode)
  have hmap : units.map UInt16.toNat = protoName.map Char.toNat := by
    rw [← codePoints_eq_map fun code hcode => (hcodes code hcode).2, ← hchars, List.map_map]
    exact (List.map_id _).symm.trans (List.map_congr_left fun code hcode => (hcodes code hcode).1)
  exact List.map_injective_iff.mpr (fun _ _ => UInt16.toNat_inj.mp) (hmap.trans (by decide))

/-- A document with one member named `__proto__`. -/
def protoDocument : Document := .object [(protoUnits, .integer 1)]

theorem protoDocument_distinctKeys : DistinctKeys protoDocument := by
  intro x hx members hmembers
  have hvalues : values 0 protoDocument = [(0, protoDocument), (1, .integer 1)] := rfl
  rw [hvalues, List.mem_cons, List.mem_singleton] at hx
  rcases hx with rfl | rfl
  · rw [← Document.object.inj hmembers]
    exact List.nodup_singleton _
  · cases hmembers

/-- A stack for so many levels. -/
def stackOf (levels : ℕ) : Stack := fun depth _ => levels < depth

theorem canonicalizers_agree_iff_proto :
    (Python.canonicalizeJson ⟨true, true, true⟩ id (stackOf 900) protoDocument =
        Browser.canonicalizeJson id (stackOf 9000) protoDocument) ↔
      Agreeable ⟨true, true, true⟩ id (stackOf 900) (stackOf 9000) protoDocument :=
  canonicalizers_agree_iff protoNameIsFixed_id protoDocument_distinctKeys

/-- Python keeps the member, and the browser sets the prototype of the object. -/
theorem canonicalizers_disagree :
    ¬ ∀ (R : DateTimeRuntime) (nfc : Units → Units) (stack browserStack : Stack),
      ProtoNameIsFixed nfc → ∀ document, DistinctKeys document →
        Python.canonicalizeJson R nfc stack document =
          Browser.canonicalizeJson nfc browserStack document := by
  intro h
  have hsame := h ⟨true, true, true⟩ id (stackOf 900) (stackOf 9000) protoNameIsFixed_id
    protoDocument protoDocument_distinctKeys
  exact absurd hsame (by decide)

end AthenaContext.CanonicalJson
