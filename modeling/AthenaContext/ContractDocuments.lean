import AthenaContext.CanonicalJson
import AthenaContext.InstantTexts

/-!
# Documents that contracts write

A contract dumps a JSON value whose strings are Unicode text. Here are its code units, its
canonical value, and the members that a reader finds in the canonical text: canonicalization
rewrites the strings and sorts the members, and a reader looks members up by name.
-/

namespace AthenaContext.ContractDocuments

open JsonText CanonicalJson TimestampText SharedTimestamps TextNormalization InstantTexts
open OrdinalCollections

/-! ## Code units of a text -/

/-- The UTF-16 code units of a text. -/
def unitsOf (t : Text) : Units := (utf16Units t).map UInt16.ofNat

theorem unitsOf_cons (c : Char) (t : Text) :
    unitsOf (c :: t) = (if c.toNat < 0x10000 then [UInt16.ofNat c.toNat]
      else [UInt16.ofNat (0xD800 + (c.toNat - 0x10000) / 0x400),
        UInt16.ofNat (0xDC00 + (c.toNat - 0x10000) % 0x400)]) ++ unitsOf t := by
  rw [unitsOf, unitsOf, utf16Units, List.flatMap_cons, List.map_append]
  split_ifs <;> rfl

/-- A character is no surrogate and within the planes. -/
theorem toNat_valid (c : Char) : c.toNat < 0xD800 ∨ (0xDFFF < c.toNat ∧ c.toNat < 0x110000) :=
  c.valid

theorem codePoints_cons {unit : UInt16} {units : Units} (h : isHighSurrogate unit = false) :
    codePoints (unit :: units) = unit.toNat :: codePoints units := by
  cases units with
  | nil => rfl
  | cons next rest =>
    rw [codePoints, h, Bool.false_and, if_neg Bool.false_ne_true]

theorem codePoints_pair {unit next : UInt16} {units : Units} (h : isHighSurrogate unit = true)
    (hnext : isLowSurrogate next = true) :
    codePoints (unit :: next :: units) =
      (0x10000 + (unit.toNat - 0xD800) * 0x400 + (next.toNat - 0xDC00)) :: codePoints units := by
  rw [codePoints, h, hnext, Bool.and_self, if_pos rfl]

theorem toNat_ofNat_unit {n : ℕ} (h : n < 0x10000) : (UInt16.ofNat n).toNat = n := by
  rw [UInt16.toNat_ofNat', Nat.mod_eq_of_lt h]

theorem codePoints_unitsOf (t : Text) : codePoints (unitsOf t) = t.map Char.toNat := by
  induction t with
  | nil => rfl
  | cons c rest ih =>
    have hvalid := toNat_valid c
    rw [unitsOf_cons, List.map_cons]
    by_cases hplane : c.toNat < 0x10000
    · have hunit := toNat_ofNat_unit hplane
      have hlone : isHighSurrogate (UInt16.ofNat c.toNat) = false := by
        rw [isHighSurrogate, hunit]
        simp only [Bool.and_eq_false_iff, decide_eq_false_iff_not]
        omega
      rw [if_pos hplane, List.singleton_append, codePoints_cons hlone, hunit, ih]
    · have hhigh : 0xD800 + (c.toNat - 0x10000) / 0x400 < 0xDC00 := by omega
      have hlow : 0xDC00 + (c.toNat - 0x10000) % 0x400 < 0xE000 := by omega
      have hunit := toNat_ofNat_unit (n := 0xD800 + (c.toNat - 0x10000) / 0x400) (by omega)
      have hnext := toNat_ofNat_unit (n := 0xDC00 + (c.toNat - 0x10000) % 0x400) (by omega)
      have hpair : isHighSurrogate (UInt16.ofNat (0xD800 + (c.toNat - 0x10000) / 0x400)) = true := by
        rw [isHighSurrogate, hunit]
        simp only [Bool.and_eq_true, decide_eq_true_eq]
        omega
      have hsecond : isLowSurrogate (UInt16.ofNat (0xDC00 + (c.toNat - 0x10000) % 0x400)) = true := by
        rw [isLowSurrogate, hnext]
        simp only [Bool.and_eq_true, decide_eq_true_eq]
        omega
      have hcode : 0x10000 + (0xD800 + (c.toNat - 0x10000) / 0x400 - 0xD800) * 0x400 +
          (0xDC00 + (c.toNat - 0x10000) % 0x400 - 0xDC00) = c.toNat := by omega
      rw [if_neg hplane, List.cons_append, List.singleton_append, codePoints_pair hpair hsecond,
        hunit, hnext, hcode, ih]

theorem characters_unitsOf (t : Text) : characters (unitsOf t) = t := by
  rw [characters, codePoints_unitsOf, List.map_map]
  exact (List.map_congr_left fun c _ => Char.ofNat_toNat c).trans (List.map_id t)

theorem containsUnpairedSurrogate_unitsOf (t : Text) :
    containsUnpairedSurrogate (codePoints (unitsOf t)) = false := by
  rw [codePoints_unitsOf, containsUnpairedSurrogate, List.any_map, List.any_eq_false]
  intro c _
  have hvalid := toNat_valid c
  simp only [Function.comp_apply, Bool.and_eq_true, decide_eq_true_eq]
  omega

theorem toNat_ofNat_char {n : ℕ} (h : n < 0xD800 ∨ (0xDFFF < n ∧ n < 0x110000)) :
    (Char.ofNat n).toNat = n := by
  rw [Char.ofNat, dif_pos h]
  rfl

/-- Units without lone surrogates are the units of their characters. -/
theorem unitsOf_characters {units : Units}
    (h : containsUnpairedSurrogate (codePoints units) = false) : unitsOf (characters units) = units := by
  induction units using codePoints.induct with
  | case1 => rfl
  | case2 unit =>
    rw [codePoints, containsUnpairedSurrogate, List.any_cons, List.any_nil, Bool.or_false,
      Bool.and_eq_false_iff, decide_eq_false_iff_not, decide_eq_false_iff_not] at h
    have hbound := unit.toNat_lt
    have hchar := toNat_ofNat_char (n := unit.toNat) (by omega)
    rw [characters, codePoints, List.map_singleton, unitsOf_cons, hchar, if_pos hbound,
      UInt16.ofNat_toNat]
    rfl
  | case3 unit next rest hpair ih =>
    rw [codePoints, if_pos hpair, containsUnpairedSurrogate, List.any_cons, Bool.or_eq_false_iff] at h
    rw [Bool.and_eq_true] at hpair
    have hhigh := hpair.1
    have hlow := hpair.2
    simp only [isHighSurrogate, isLowSurrogate, Bool.and_eq_true, decide_eq_true_eq] at hhigh hlow
    have hchar := toNat_ofNat_char
      (n := 0x10000 + (unit.toNat - 0xD800) * 0x400 + (next.toNat - 0xDC00)) (by omega)
    have hrest : unitsOf ((codePoints rest).map Char.ofNat) = rest := ih h.2
    have hfirst : 0xD800 + (0x10000 + (unit.toNat - 0xD800) * 0x400 + (next.toNat - 0xDC00) - 0x10000) /
        0x400 = unit.toNat := by omega
    have hsecond : 0xDC00 + (0x10000 + (unit.toNat - 0xD800) * 0x400 + (next.toNat - 0xDC00) - 0x10000) %
        0x400 = next.toNat := by omega
    rw [characters, codePoints_pair hpair.1 hpair.2, List.map_cons, unitsOf_cons, hchar,
      if_neg (by omega), hfirst, hsecond, UInt16.ofNat_toNat, UInt16.ofNat_toNat, hrest]
    rfl
  | case4 unit next rest hpair ih =>
    rw [codePoints, if_neg hpair, containsUnpairedSurrogate, List.any_cons, Bool.or_eq_false_iff,
      Bool.and_eq_false_iff, decide_eq_false_iff_not, decide_eq_false_iff_not] at h
    have hbound := unit.toNat_lt
    have hchar := toNat_ofNat_char (n := unit.toNat) (by omega)
    have hrest : unitsOf ((codePoints (next :: rest)).map Char.ofNat) = next :: rest := ih h.2
    rw [characters, codePoints, if_neg hpair, List.map_cons, unitsOf_cons, hchar, if_pos hbound,
      UInt16.ofNat_toNat, hrest]
    rfl

/-! ## Canonical strings -/

/-- The normalization form NFC of both runtimes. -/
structure NfcTables where
  nfc : Units → Units
  ascii : ∀ t, IsAscii t → nfc (unitsOf t) = unitsOf t
  idempotent : ∀ units, nfc (nfc units) = nfc units

variable (R : DateTimeRuntime) (N : NfcTables)

/-- Contracts nest a few levels only. -/
def enoughStack : Stack := fun _ _ => false

/-- A string in `_normalize_json_value`. -/
def canonicalString (t : Text) : Option Text :=
  (Python.canonicalizer R N.nfc enoughStack).stringValue (unitsOf t)

variable {R N} {t written : Text}

theorem canonicalString_eq :
    canonicalString R N t = (normalizeNfcText N.nfc (unitsOf t)).bind (normalizeDatetimeString R) :=
  python_stringValue _

theorem normalizeNfcText_ascii (h : IsAscii t) : normalizeNfcText N.nfc (unitsOf t) = some t := by
  rw [normalizeNfcText, N.ascii t h, containsUnpairedSurrogate_unitsOf, if_neg Bool.false_ne_true,
    characters_unitsOf]

theorem canonicalString_ascii (h : IsAscii t) : canonicalString R N t = normalizeDatetimeString R t := by
  rw [canonicalString_eq, normalizeNfcText_ascii h, Option.bind_some]

/-- A normalized text is left as it is. -/
theorem normalizeNfcText_idempotent (h : normalizeNfcText N.nfc (unitsOf t) = some written) :
    normalizeNfcText N.nfc (unitsOf written) = some written := by
  rw [normalizeNfcText, Option.ite_none_left_eq_some, Option.some.injEq] at h
  obtain ⟨hpaired, rfl⟩ := h
  have hunits := unitsOf_characters (eq_false_of_ne_true hpaired)
  rw [normalizeNfcText, hunits, N.idempotent, if_neg hpaired]

/-- A text that does not start with a digit is no timestamp. -/
theorem readDateTime_of_head (h : ∀ c ∈ t.head?, c.isDigit = false) : readDateTime t = none := by
  cases hread : readDateTime t with
  | none => rfl
  | some pair =>
    obtain ⟨digits, rest⟩ := pair
    obtain ⟨rfl, hwell⟩ := readDateTime_eq_some.mp hread
    obtain ⟨hlength, hdigits⟩ := hwell.year
    cases hyear : digits.year with
    | nil => rw [hyear] at hlength; cases hlength
    | cons c more =>
      rw [hyear, List.all_cons, Bool.and_eq_true] at hdigits
      have hhead := h c (by rw [DateTimeDigits.text, hyear]; rfl)
      rw [hhead] at hdigits
      exact absurd hdigits.1 Bool.false_ne_true

/-- A text that is no timestamp and does not begin as one. -/
def IsPlainText (t : Text) : Prop := IsAscii t ∧ readDateTime t = none

theorem IsPlainText.python (h : readDateTime t = none) : normalizeDatetimeString R t = some t := by
  simp only [normalizeDatetimeString, matchTimestamp, h, Option.bind_eq_bind, Option.bind_none,
    Option.isSome_none, Bool.false_eq_true, if_false]

theorem IsPlainText.canonicalString (h : IsPlainText t) : canonicalString R N t = some t := by
  rw [canonicalString_ascii h.1, IsPlainText.python h.2]

theorem isPlainText_of_head (ha : IsAscii t) (h : ∀ c ∈ t.head?, c.isDigit = false) :
    IsPlainText t :=
  ⟨ha, readDateTime_of_head h⟩

theorem canonicalString_eq_some (h : canonicalString R N t = some written) :
    ∃ text, normalizeNfcText N.nfc (unitsOf t) = some text ∧
      normalizeDatetimeString R text = some written := by
  rw [canonicalString_eq] at h
  exact Option.bind_eq_some_iff.mp h

/-- A canonical string is normalized text. -/
theorem normalizeNfcText_of_canonical (h : canonicalString R N t = some written) :
    normalizeNfcText N.nfc (unitsOf written) = some written := by
  obtain ⟨text, htext, hwritten⟩ := canonicalString_eq_some h
  rcases normalizeDatetimeString_cases hwritten with rfl | ⟨instant, rfl⟩
  · exact normalizeNfcText_idempotent htext
  · exact normalizeNfcText_ascii (isAscii_utcText (all_pythonYear _))

/-- Canonical strings stay as they are. -/
theorem canonicalString_idempotent (h : canonicalString R N t = some written) :
    canonicalString R N written = some written := by
  rw [canonicalString_eq, normalizeNfcText_of_canonical h, Option.bind_some]
  obtain ⟨text, _, hwritten⟩ := canonicalString_eq_some h
  rcases normalizeDatetimeString_cases hwritten with rfl | ⟨instant, rfl⟩
  · exact hwritten
  · exact normalizeDatetimeString_datetimeText instant

/-! ## Dumped values -/

mutual

/-- A dumped value as a document. -/
def documentOf : Json → Document
  | .null => .null
  | .boolean value => .boolean value
  | .number n => .integer n
  | .string t => .string (unitsOf t)
  | .array items => .array (documentsOf items)
  | .object members => .object (memberDocuments members)

def documentsOf : List Json → List Document
  | [] => []
  | item :: rest => documentOf item :: documentsOf rest

def memberDocuments : List (Text × Json) → List (Units × Document)
  | [] => []
  | (key, item) :: rest => (unitsOf key, documentOf item) :: memberDocuments rest

end

variable (R N) in
/-- `_normalize_json_value` on a dumped value. -/
def canonicalValue (value : Json) : Option Json :=
  Python.normalizeJsonValue R N.nfc enoughStack (documentOf value)

variable (R N) in
/-- `canonicalize_json` on a dumped value. -/
def canonicalDump (value : Json) : Option Text := (canonicalValue R N value).map canonicalText

@[simp] theorem canonicalValue_boolean {value : Bool} :
    canonicalValue R N (.boolean value) = some (.boolean value) := rfl

theorem canonicalValue_string :
    canonicalValue R N (.string t) = (canonicalString R N t).map .string := rfl

theorem canonicalValue_number {n : ℤ} (h : n.natAbs ≤ maxSafeInteger) :
    canonicalValue R N (.number n) = some (.number n) :=
  if_neg (Nat.not_lt.mpr h)

mutual

/-- With stack enough the depth does not matter. -/
theorem normalize_depth (depth : ℕ) (document : Document) :
    normalize (Python.canonicalizer R N.nfc enoughStack) depth document =
      normalize (Python.canonicalizer R N.nfc enoughStack) 0 document := by
  have hstack : ∀ depth, ¬ (Python.canonicalizer R N.nfc enoughStack).exceedsStack depth document =
      true := fun _ => Bool.false_ne_true
  rw [CanonicalJson.normalize.eq_def, if_neg (hstack depth), CanonicalJson.normalize.eq_def,
    if_neg (hstack 0)]
  match document with
  | .array items =>
    dsimp only
    rw [normalizeItems_depth (depth + 1) items, normalizeItems_depth (0 + 1) items]
  | .object members =>
    dsimp only
    rw [normalizeMembers_depth (depth + 1) [] members, normalizeMembers_depth (0 + 1) [] members]
  | .null | .boolean _ | .integer _ | .negativeZero | .string _ => rfl

theorem normalizeItems_depth (depth : ℕ) (items : List Document) :
    normalizeItems (Python.canonicalizer R N.nfc enoughStack) depth items =
      normalizeItems (Python.canonicalizer R N.nfc enoughStack) 0 items := by
  match items with
  | [] => rfl
  | item :: rest =>
    rw [normalizeItems, normalizeItems, normalize_depth depth item, normalizeItems_depth depth rest]

theorem normalizeMembers_depth (depth : ℕ) (normalized : List (Text × Json))
    (members : List (Units × Document)) :
    normalizeMembers (Python.canonicalizer R N.nfc enoughStack) depth normalized members =
      normalizeMembers (Python.canonicalizer R N.nfc enoughStack) 0 normalized members := by
  match members with
  | [] => rfl
  | (key, item) :: rest =>
    rw [normalizeMembers, normalizeMembers, normalize_depth depth item]
    simp only [normalizeMembers_depth depth _ rest]

end

/-- Every value has a canonical one. -/
def CanonicalItems (R : DateTimeRuntime) (N : NfcTables) (items values : List Json) : Prop :=
  List.Forall₂ (fun item value => canonicalValue R N item = some value) items values

/-- Every member has its canonical value. -/
def CanonicalMembers (R : DateTimeRuntime) (N : NfcTables) (members fields : List (Text × Json)) :
    Prop :=
  List.Forall₂ (fun member field => field.1 = member.1 ∧
    canonicalValue R N member.2 = some field.2) members fields

theorem canonicalValue_array {items : List Json} {value : Json} :
    canonicalValue R N (.array items) = some value ↔
      ∃ values, value = .array values ∧ CanonicalItems R N items values := by
  have hitems : ∀ (items : List Json) values,
      normalizeItems (Python.canonicalizer R N.nfc enoughStack) 1 (documentsOf items) = some values ↔
        CanonicalItems R N items values := by
    intro items
    induction items with
    | nil =>
      intro values
      rw [documentsOf, normalizeItems, Option.some.injEq]
      exact ⟨fun h => h ▸ .nil, fun h => (List.forall₂_nil_left_iff.mp h).symm⟩
    | cons item rest ih =>
      intro values
      rw [documentsOf, normalizeItems, normalize_depth 1]
      simp only [Option.bind_eq_bind, Option.bind_eq_some_iff, Option.pure_def, Option.some.injEq, ih]
      constructor
      · rintro ⟨value, hvalue, others, hothers, rfl⟩
        exact .cons hvalue hothers
      · rintro (_ | ⟨hvalue, hothers⟩)
        exact ⟨_, hvalue, _, hothers, rfl⟩
  change (normalizeItems _ 1 (documentsOf items)).map Json.array = some value ↔ _
  rw [Option.map_eq_some_iff]
  simp only [hitems]
  exact exists_congr fun values => ⟨fun h => ⟨h.2.symm, h.1⟩, fun h => ⟨h.2, h.1.symm⟩⟩

theorem CanonicalMembers.keys {members fields : List (Text × Json)}
    (h : CanonicalMembers R N members fields) : fields.map Prod.fst = members.map Prod.fst := by
  induction h with
  | nil => rfl
  | cons hmember _ ih => rw [List.map_cons, List.map_cons, ih, hmember.1]

theorem CanonicalMembers.split {first second fields : List (Text × Json)}
    (h : CanonicalMembers R N (first ++ second) fields) :
    ∃ fields₁ fields₂, fields = fields₁ ++ fields₂ ∧ CanonicalMembers R N first fields₁ ∧
      CanonicalMembers R N second fields₂ := by
  refine ⟨fields.take first.length, fields.drop first.length, (List.take_append_drop _ _).symm, ?_, ?_⟩
  · have htake := List.forall₂_take first.length h
    rwa [List.take_left] at htake
  · have hdrop := List.forall₂_drop first.length h
    rwa [List.drop_left] at hdrop

theorem length_itemsInOrder (items : List Json) : (itemsInOrder items).length = items.length := by
  induction items with
  | nil => rfl
  | cons item rest ih => rw [itemsInOrder, List.length_cons, List.length_cons, ih]

/-- The walk over the members of a dumped object. -/
theorem canonicalValue_eq_members (members : List (Text × Json)) :
    canonicalValue R N (.object members) =
      (readMembers (Python.canonicalizer R N.nfc enoughStack) 1 (memberDocuments members)).bind
        fun entries =>
          if ((ownEntries (Python.canonicalizer R N.nfc enoughStack) entries).map Prod.fst).Nodup then
            some (.object (ownEntries (Python.canonicalizer R N.nfc enoughStack) entries))
          else none := by
  rw [canonicalValue, Python.normalizeJsonValue, documentOf, normalize_object]
  exact if_neg Bool.false_ne_true

/-- A record is written with names that normalization leaves alone. -/
def AreFieldNames (names : List Text) : Prop := names.Nodup ∧ ∀ name ∈ names, IsAscii name

instance (names : List Text) : Decidable (AreFieldNames names) := by
  unfold AreFieldNames
  exact inferInstance

theorem canonicalValue_object {members : List (Text × Json)} {value : Json}
    (hnames : AreFieldNames (members.map Prod.fst)) :
    canonicalValue R N (.object members) = some value ↔
      ∃ fields, value = .object fields ∧ CanonicalMembers R N members fields := by
  have hread : ∀ members : List (Text × Json), (∀ name ∈ members.map Prod.fst, IsAscii name) →
      ∀ fields, readMembers (Python.canonicalizer R N.nfc enoughStack) 1 (memberDocuments members) =
          some fields ↔
        CanonicalMembers R N members fields := by
    intro members
    induction members with
    | nil =>
      intro _ fields
      rw [memberDocuments, readMembers, Option.some.injEq]
      exact ⟨fun h => h ▸ .nil, fun h => (List.forall₂_nil_left_iff.mp h).symm⟩
    | cons member rest ih =>
      obtain ⟨name, item⟩ := member
      intro hascii fields
      have hname : (Python.canonicalizer R N.nfc enoughStack).text (unitsOf name) = some name :=
        normalizeNfcText_ascii (hascii name List.mem_cons_self)
      have hrest := ih fun other hother => hascii other (List.mem_cons_of_mem _ hother)
      rw [memberDocuments, readMembers, normalize_depth 1]
      simp only [hname, Option.bind_eq_bind, Option.bind_some, Option.bind_eq_some_iff,
        Option.pure_def, Option.some.injEq, hrest]
      constructor
      · rintro ⟨value, hvalue, others, hothers, rfl⟩
        exact .cons ⟨rfl, hvalue⟩ hothers
      · rintro (_ | ⟨⟨hkey, hvalue⟩, hothers⟩)
        exact ⟨_, hvalue, _, hothers, congrArg (· :: _) (Prod.ext hkey.symm rfl)⟩
  have hown : ∀ fields, ownEntries (Python.canonicalizer R N.nfc enoughStack) fields = fields :=
    fun fields => List.filter_eq_self.mpr fun _ _ => rfl
  rw [canonicalValue_eq_members, Option.bind_eq_some_iff]
  constructor
  · rintro ⟨fields, hfields, hvalue⟩
    rw [hown, Option.ite_none_right_eq_some, Option.some.injEq] at hvalue
    exact ⟨fields, hvalue.2.symm, (hread members hnames.2 fields).mp hfields⟩
  · rintro ⟨fields, rfl, hfields⟩
    refine ⟨fields, (hread members hnames.2 fields).mpr hfields, ?_⟩
    rw [hown, if_pos (hfields.keys ▸ hnames.1)]

/-! ## Members in a canonical text -/

/-- Distinct names are found in any order of the members. -/
theorem lookup_perm {α : Type} {a b : List (Text × α)} (h : a.Perm b) (hd : (a.map Prod.fst).Nodup)
    (name : Text) : a.lookup name = b.lookup name := by
  induction h with
  | nil => rfl
  | cons member _ ih =>
    rw [List.lookup_cons, List.lookup_cons, ih (List.nodup_cons.mp hd).2]
  | swap first second rest =>
    obtain ⟨key, value⟩ := first
    obtain ⟨other, item⟩ := second
    have hne : other ≠ key := by
      have hfirst := (List.nodup_cons.mp hd).1
      exact fun h => hfirst (h ▸ List.mem_cons_self)
    rw [List.lookup_cons, List.lookup_cons, List.lookup_cons, List.lookup_cons]
    by_cases hname : name = key
    · rw [beq_eq_false_iff_ne.mpr (hname ▸ hne.symm : name ≠ other)]
    · rw [beq_eq_false_iff_ne.mpr hname]
  | trans hab _ ihab ihbc =>
    rw [ihab hd, ihbc (((hab.map Prod.fst).nodup_iff).mp hd)]

theorem lookup_membersInOrder (members : List (Text × Json)) (name : Text) :
    (membersInOrder members).lookup name = (members.lookup name).map inOrder := by
  induction members with
  | nil => rfl
  | cons member rest ih =>
    obtain ⟨key, value⟩ := member
    rw [membersInOrder, List.lookup_cons, List.lookup_cons, ih]
    cases name == key <;> rfl

/-- The members of an object as a reader that refuses further ones sees them. -/
def readRecord (required optional : List Text) : Json → Option (Text → Option Json)
  | .object members =>
    if (∀ name ∈ required, name ∈ members.map Prod.fst) ∧
        ∀ name ∈ members.map Prod.fst, name ∈ required ∨ name ∈ optional then
      some fun name => members.lookup name
    else none
  | _ => none

/-- A record that is read from its canonical text. -/
theorem readRecord_inOrder {required optional : List Text} {fields : List (Text × Json)}
    (hd : (fields.map Prod.fst).Nodup)
    (hrequired : ∀ name ∈ required, name ∈ fields.map Prod.fst)
    (hknown : ∀ name ∈ fields.map Prod.fst, name ∈ required ∨ name ∈ optional) :
    readRecord required optional (inOrder (.object fields)) =
      some fun name => (fields.lookup name).map inOrder := by
  have hperm := sortOn_perm (fun member : Text × Json => utf16Units member.1) (membersInOrder fields)
  have hkeys : ∀ name, name ∈ (sortOn (fun member : Text × Json => utf16Units member.1)
      (membersInOrder fields)).map Prod.fst ↔ name ∈ fields.map Prod.fst := by
    intro name
    rw [(hperm.map Prod.fst).mem_iff, keys_membersInOrder]
  have hd' : ((sortOn (fun member : Text × Json => utf16Units member.1)
      (membersInOrder fields)).map Prod.fst).Nodup := by
    rw [(hperm.map Prod.fst).nodup_iff, keys_membersInOrder]
    exact hd
  rw [inOrder, readRecord, if_pos ⟨fun name hname => (hkeys name).mpr (hrequired name hname),
    fun name hname => hknown name ((hkeys name).mp hname)⟩, Option.some.injEq]
  funext name
  rw [lookup_perm hperm hd', lookup_membersInOrder]

end AthenaContext.ContractDocuments
