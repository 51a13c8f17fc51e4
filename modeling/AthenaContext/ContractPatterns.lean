import AthenaContext.ContractForms

/-!
# Patterns of contract strings

The patterns and bounds of string fields, and which of them the canonicalizer never rewrites.
Only a version and a free text can look like a timestamp.
-/

namespace AthenaContext.ContractPatterns

open JsonText TimestampText TextNormalization InstantTexts ContractDocuments ContractForms

/-! ## Patterns -/

/-- `[a-f0-9]` -/
def isHexCharacter (c : Char) : Bool := c.isDigit || ('a' ≤ c && c ≤ 'f')

/-- So many hexadecimal digits. -/
def isHex (width : ℕ) (t : Text) : Bool := t.length = width && t.all isHexCharacter

/-- A part of a pattern: a fixed text, or so many hexadecimal digits. -/
inductive Piece
  | literal (t : String)
  | hex (width : ℕ)

/-- A text is made of the parts of a pattern. -/
def fullMatch : List Piece → Text → Bool
  | [], t => t.isEmpty
  | .literal front :: rest, t => front.toList.isPrefixOf t && fullMatch rest (t.drop front.toList.length)
  | .hex width :: rest, t => isHex width (t.take width) && fullMatch rest (t.drop width)

/-- `^sha256:[a-f0-9]{64}$` -/
def isDigest : Text → Bool := fullMatch [.literal "sha256:", .hex 64]

/-- `^inc-[a-f0-9]{12}$` -/
def isIncidentId : Text → Bool := fullMatch [.literal "inc-", .hex 12]

/-- `^wc016-[a-f0-9]{64}$` -/
def isTransitionId : Text → Bool := fullMatch [.literal "wc016-", .hex 64]

/-- A character of a version behind its first one. -/
def isVersionCharacter (c : Char) : Bool := c.isAlphanum || "._:+/-".toList.contains c

/-- `_VERSION_PATTERN` -/
def isVersion : Text → Bool
  | [] => false
  | c :: rest => c.isAlphanum && rest.length ≤ 255 && rest.all isVersionCharacter

/-- A character inside a relative name. -/
def isNameCharacter (c : Char) : Bool := c.isAlphanum || "._/-".toList.contains c

/-- `_RELATIVE_FILE_PATTERN` -/
def isRelativeFile : Text → Bool
  | [] => false
  | [c] => c.isAlphanum
  | c :: rest =>
    c.isAlphanum && rest.length ≤ 511 && rest.all isNameCharacter &&
      rest.getLast?.any Char.isAlphanum

/-- The length bounds of a name with `_validate_relative_name`: the pattern leaves nothing to strip. -/
def isRelativeName (t : Text) : Bool :=
  1 ≤ t.length && t.length ≤ 512 && isRelativeFile t &&
    (splitPath t).all fun part => !(["".toList, ".".toList, "..".toList].contains part)

/-- The pattern of the paths in a feed pointer. -/
def isAssetPath (t : Text) : Bool :=
  "./incidents/".toList.isPrefixOf t && ".json".toList.isSuffixOf t &&
    17 < t.length && t.all fun c => c.isLower || c.isDigit || "./-".toList.contains c

/-- A length in code points between bounds. -/
def hasLength (minimum maximum : ℕ) (t : Text) : Bool := minimum ≤ t.length && t.length ≤ maximum

/-- `len(text.encode("utf-8"))` -/
def utf8Length (t : Text) : ℕ := (t.map Char.utf8Size).sum

/-- `text.removeprefix("sha256:")` -/
def removeSha256 (t : Text) : Text :=
  if "sha256:".toList.isPrefixOf t then t.drop 7 else t

/-! ## What is never rewritten -/

variable {t : Text}

theorem toNat_of_isAlphanum {c : Char} (h : c.isAlphanum = true) : c.toNat < 128 := by
  simp only [Char.isAlphanum, Char.isAlpha, Char.isUpper, Char.isLower, Char.isDigit,
    Bool.or_eq_true, Bool.and_eq_true, decide_eq_true_eq] at h
  have hupper : c.toNat ≤ 122 := by
    rcases h with (⟨_, hle⟩ | ⟨_, hle⟩) | ⟨_, hle⟩
    · exact Nat.le_trans hle (by decide)
    · exact hle
    · exact Nat.le_trans hle (by decide)
  omega

theorem isAlphanum_of_isHexCharacter {c : Char} (h : isHexCharacter c = true) :
    c.isAlphanum = true := by
  rw [isHexCharacter, Bool.or_eq_true, Bool.and_eq_true, decide_eq_true_eq, decide_eq_true_eq] at h
  rw [Char.isAlphanum, Bool.or_eq_true, Char.isAlpha, Bool.or_eq_true]
  rcases h with hdigit | ⟨hlow, hhigh⟩
  · exact .inr hdigit
  · refine .inl (.inr ?_)
    rw [Char.isLower, Bool.and_eq_true, decide_eq_true_eq, decide_eq_true_eq]
    exact ⟨hlow, Nat.le_trans hhigh (by decide)⟩

theorem isAscii_of_all {p : Char → Bool} (hp : ∀ c, p c = true → c.toNat < 128)
    (h : t.all p = true) : IsAscii t :=
  fun c hc => hp c (List.all_eq_true.mp h c hc)

theorem isAscii_of_isHex {width : ℕ} (h : isHex width t = true) : IsAscii t :=
  isAscii_of_all (fun _ hc => toNat_of_isAlphanum (isAlphanum_of_isHexCharacter hc))
    (Bool.and_eq_true_iff.mp h).2

/-- A front that is no digit. -/
def IsLetterFront (front : Text) : Prop := IsAscii front ∧ front ≠ [] ∧
  ∀ c ∈ front.head?, c.isDigit = false

instance (front : Text) : Decidable (IsLetterFront front) := by
  unfold IsLetterFront
  have : Decidable (∀ c ∈ front.head?, c.isDigit = false) := Option.decidableForallMem _
  exact inferInstance

/-- The fixed text of a part. -/
def Piece.front : Piece → Text
  | .literal front => front.toList
  | .hex _ => []

/-- The fixed texts of a pattern are ASCII. -/
def IsAsciiPattern (pieces : List Piece) : Prop := ∀ piece ∈ pieces, IsAscii piece.front

instance (pieces : List Piece) : Decidable (IsAsciiPattern pieces) :=
  List.decidableBAll _ pieces

theorem isAscii_of_fullMatch {pieces : List Piece} (hpieces : IsAsciiPattern pieces)
    (h : fullMatch pieces t = true) : IsAscii t := by
  induction pieces generalizing t with
  | nil =>
    rw [List.isEmpty_iff.mp h]
    exact nofun
  | cons piece rest ih =>
    obtain ⟨hpiece, hrest⟩ := List.forall_mem_cons.mp hpieces
    cases piece with
    | literal front =>
      obtain ⟨hstart, hmatch⟩ := Bool.and_eq_true_iff.mp h
      obtain ⟨more, rfl⟩ := List.isPrefixOf_iff_prefix.mp hstart
      rw [List.drop_left] at hmatch
      exact IsAscii.append hpiece (ih hrest hmatch)
    | hex width =>
      obtain ⟨hhex, hmatch⟩ := Bool.and_eq_true_iff.mp h
      rw [← List.take_append_drop width t]
      exact IsAscii.append (isAscii_of_isHex hhex) (ih hrest hmatch)

/-- A pattern that starts with a letter or a mark lets no timestamp through. -/
theorem isPlainText_of_fullMatch {front : String} {rest : List Piece}
    (hfront : IsLetterFront front.toList) (hrest : IsAsciiPattern rest)
    (h : fullMatch (.literal front :: rest) t = true) : IsPlainText t := by
  obtain ⟨hstart, hmatch⟩ := Bool.and_eq_true_iff.mp h
  obtain ⟨more, rfl⟩ := List.isPrefixOf_iff_prefix.mp hstart
  rw [List.drop_left] at hmatch
  obtain ⟨hascii, hne, hhead⟩ := hfront
  refine isPlainText_of_head (IsAscii.append hascii (isAscii_of_fullMatch hrest hmatch)) ?_
  rw [List.head?_append_of_ne_nil _ hne]
  exact hhead

theorem isPlainText_of_isDigest (t : Text) (h : isDigest t = true) : IsPlainText t :=
  isPlainText_of_fullMatch (by decide) (by decide) h

theorem isPlainText_of_isIncidentId (t : Text) (h : isIncidentId t = true) : IsPlainText t :=
  isPlainText_of_fullMatch (by decide) (by decide) h

theorem isPlainText_of_isTransitionId (t : Text) (h : isTransitionId t = true) : IsPlainText t :=
  isPlainText_of_fullMatch (by decide) (by decide) h

/-! ## Texts of a pattern -/

@[simp] theorem fullMatch_literal {front : String} {rest : List Piece} :
    fullMatch (.literal front :: rest) (front.toList ++ t) = fullMatch rest t := by
  have hfront : front.toList.isPrefixOf (front.toList ++ t) = true :=
    List.isPrefixOf_iff_prefix.mpr (List.prefix_append _ _)
  rw [fullMatch, hfront, Bool.true_and, List.drop_left]

theorem fullMatch_hex {width : ℕ} {digits : Text} {rest : List Piece} (h : isHex width digits = true) :
    fullMatch (.hex width :: rest) (digits ++ t) = fullMatch rest t := by
  have hlength : digits.length = width := of_decide_eq_true (Bool.and_eq_true_iff.mp h).1
  rw [fullMatch, List.take_left' hlength, List.drop_left' hlength, h, Bool.true_and]

theorem toNat_of_isNameCharacter {c : Char} (h : isNameCharacter c = true) : c.toNat < 128 ∧ c ≠ ':' := by
  rw [isNameCharacter, Bool.or_eq_true] at h
  rcases h with halpha | hmark
  · refine ⟨toNat_of_isAlphanum halpha, ?_⟩
    rintro rfl
    exact absurd halpha (by decide)
  · exact (forall_mem_of_all (by decide) : ∀ c ∈ "._/-".toList, c.toNat < 128 ∧ c ≠ ':') c
      (List.contains_iff_mem.mp hmark)

/-- A timestamp has colons. -/
theorem readDateTime_of_no_colon (h : ':' ∉ t) : readDateTime t = none := by
  cases hread : readDateTime t with
  | none => rfl
  | some pair =>
    obtain ⟨digits, rest⟩ := pair
    obtain ⟨rfl, _⟩ := readDateTime_eq_some.mp hread
    refine absurd ?_ h
    simp [DateTimeDigits.text]

theorem isPlainText_of_isRelativeName (t : Text) (h : isRelativeName t = true) : IsPlainText t := by
  simp only [isRelativeName, Bool.and_eq_true] at h
  have hfile := h.1.2
  have hall : ∀ c ∈ t, c.toNat < 128 ∧ c ≠ ':' := by
    match t, hfile with
    | [c], hc =>
      intro d hd
      rw [List.mem_singleton.mp hd]
      exact toNat_of_isNameCharacter (Bool.or_eq_true_iff.mpr (.inl hc))
    | c :: next :: rest, hc =>
      simp only [isRelativeFile, Bool.and_eq_true] at hc
      intro d hd
      rcases List.mem_cons.mp hd with rfl | hrest
      · exact toNat_of_isNameCharacter (Bool.or_eq_true_iff.mpr (.inl hc.1.1.1))
      · exact toNat_of_isNameCharacter (List.all_eq_true.mp hc.1.2 d hrest)
  exact ⟨fun c hc => (hall c hc).1, readDateTime_of_no_colon fun hcolon => (hall _ hcolon).2 rfl⟩

theorem isPlainText_of_isAssetPath (t : Text) (h : isAssetPath t = true) : IsPlainText t := by
  simp only [isAssetPath, Bool.and_eq_true] at h
  have hall : ∀ c ∈ t, c.toNat < 128 ∧ c ≠ ':' := by
    intro c hc
    refine toNat_of_isNameCharacter ?_
    have hchar := List.all_eq_true.mp h.2 c hc
    simp only [Bool.or_eq_true] at hchar
    rw [isNameCharacter, Bool.or_eq_true, Char.isAlphanum, Bool.or_eq_true, Char.isAlpha, Bool.or_eq_true]
    rcases hchar with (hlower | hdigit) | hmark
    · exact .inl (.inl (.inr hlower))
    · exact .inl (.inr hdigit)
    · refine .inr (List.contains_iff_mem.mpr ?_)
      have hmem := List.contains_iff_mem.mp hmark
      exact (forall_mem_of_all (by decide) : ∀ c ∈ "./-".toList, c ∈ "._/-".toList) c hmem
  exact ⟨fun c hc => (hall c hc).1, readDateTime_of_no_colon fun hcolon => (hall _ hcolon).2 rfl⟩

theorem removeSha256_append (t : Text) : removeSha256 ("sha256:".toList ++ t) = t := by
  have hfront : "sha256:".toList.isPrefixOf ("sha256:".toList ++ t) = true :=
    List.isPrefixOf_iff_prefix.mpr (List.prefix_append _ _)
  have hlength : "sha256:".toList.length = 7 := by decide
  rw [removeSha256, if_pos hfront, List.drop_left' hlength]

theorem isHex_take {width n : ℕ} (h : isHex width t = true) (hn : n ≤ width) :
    isHex n (t.take n) = true := by
  rw [isHex, Bool.and_eq_true, decide_eq_true_eq, List.all_eq_true] at h
  rw [isHex, Bool.and_eq_true, decide_eq_true_eq, List.all_eq_true, List.length_take, h.1]
  exact ⟨Nat.min_eq_left hn, fun c hc => h.2 c (List.mem_of_mem_take hc)⟩

/-! ## Fields with a pattern -/

theorem accepts_of_readPattern (ok : Text → Bool) {value : Json} {t : Text}
    (h : (match value with
      | .string t => if ok t then some t else none
      | _ => none) = some t) : ok t = true := by
  cases value with
  | string s =>
    obtain ⟨hok, ⟨⟩⟩ := Option.ite_none_right_eq_some.mp h
    exact hok
  | _ => cases h

/-- A string whose pattern lets no timestamp through. -/
def pattern {R : DateTimeRuntime} {N : NfcTables} (ok : Text → Bool)
    (hplain : ∀ t, ok t = true → IsPlainText t) : Form R N Text where
  accepts := ok
  write := .string
  read
    | .string t => if ok t then some t else none
    | _ => none
  after := some
  accepts_of_read := accepts_of_readPattern ok
  read_canonical {a value} hok h := by
    rw [canonicalValue_string, (hplain a hok).canonicalString, Option.map_some, Option.some.injEq] at h
    rw [← h]
    exact if_pos hok
  canonical_after _ hb h := by
    cases hb
    exact h

theorem after_pattern {R : DateTimeRuntime} {N : NfcTables} {ok : Text → Bool}
    {hplain : ∀ t, ok t = true → IsPlainText t} {a b : Text} :
    (pattern (R := R) (N := N) ok hplain).after a = some b ↔ a = b := Option.some_inj

instance {t : Text} : Decidable (IsPlainText t) :=
  decidable_of_iff (IsAscii t ∧ (readDateTime t).isNone = true)
    (and_congr_right fun _ => Option.isNone_iff_eq_none)

end AthenaContext.ContractPatterns
