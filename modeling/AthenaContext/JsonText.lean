import AthenaContext.OrdinalCollections
import Mathlib

/-!
# Canonical JSON text

JSON values without fractions, their text as RFC 8785 writes it, and the order of object
members by UTF-16 code units. A text belongs to one value only: the text of a value is
read off the front of any text that continues it.
-/

namespace AthenaContext.JsonText

open OrdinalCollections

/-- A JSON value whose numbers are integers. -/
inductive Json
  | null
  | boolean (value : Bool)
  | number (value : ℤ)
  | string (value : List Char)
  | array (items : List Json)
  | object (members : List (List Char × Json))

/-! ## Text -/

/-- A hexadecimal digit. -/
def hexDigit (n : ℕ) : Char := Nat.digitChar n

/-- A character inside a string. -/
def escapeChar (c : Char) : List Char :=
  if c = '"' then ['\\', '"']
  else if c = '\\' then ['\\', '\\']
  else if c.toNat = 8 then ['\\', 'b']
  else if c.toNat = 9 then ['\\', 't']
  else if c.toNat = 10 then ['\\', 'n']
  else if c.toNat = 12 then ['\\', 'f']
  else if c.toNat = 13 then ['\\', 'r']
  else if c.toNat < 32 then ['\\', 'u', '0', '0', hexDigit (c.toNat / 16), hexDigit (c.toNat % 16)]
  else [c]

/-- The characters of a string. -/
def bodyText (value : List Char) : List Char := value.flatMap escapeChar

/-- A string in quotes. -/
def stringText (value : List Char) : List Char := '"' :: (bodyText value ++ ['"'])

/-- An integer in decimal digits. -/
def numberText : ℤ → List Char
  | .ofNat n => Nat.toDigits 10 n
  | .negSucc n => '-' :: Nat.toDigits 10 (n + 1)

mutual

/-- The text of a value, its members in their order. -/
def valueText : Json → List Char
  | .null => "null".toList
  | .boolean true => "true".toList
  | .boolean false => "false".toList
  | .number n => numberText n
  | .string value => stringText value
  | .array [] => "[]".toList
  | .array (item :: rest) => '[' :: (valueText item ++ itemsText rest)
  | .object [] => ['\x7b', '\x7d']
  | .object ((key, value) :: rest) =>
    '\x7b' :: (stringText key ++ ':' :: (valueText value ++ membersText rest))

/-- The further items of an array, to its end. -/
def itemsText : List Json → List Char
  | [] => [']']
  | item :: rest => ',' :: (valueText item ++ itemsText rest)

/-- The further members of an object, to its end. -/
def membersText : List (List Char × Json) → List Char
  | [] => ['\x7d']
  | (key, value) :: rest =>
    ',' :: (stringText key ++ ':' :: (valueText value ++ membersText rest))

end

/-! ## Members in order -/

/-- The UTF-16 code units of a text. -/
def utf16Units (text : List Char) : List ℕ :=
  text.flatMap fun c =>
    if c.toNat < 0x10000 then [c.toNat]
    else [0xD800 + (c.toNat - 0x10000) / 0x400, 0xDC00 + (c.toNat - 0x10000) % 0x400]

mutual

/-- A value with the members of its objects in the order of their keys. -/
def inOrder : Json → Json
  | .null => .null
  | .boolean value => .boolean value
  | .number n => .number n
  | .string value => .string value
  | .array items => .array (itemsInOrder items)
  | .object members => .object (sortOn (fun member => utf16Units member.1) (membersInOrder members))

def itemsInOrder : List Json → List Json
  | [] => []
  | item :: rest => inOrder item :: itemsInOrder rest

def membersInOrder : List (List Char × Json) → List (List Char × Json)
  | [] => []
  | (key, value) :: rest => (key, inOrder value) :: membersInOrder rest

end

/-- The RFC 8785 text of a value. -/
def canonicalText (value : Json) : List Char := valueText (inOrder value)

/-! ## One value for each text -/

/-- The value of a hexadecimal digit. -/
def hexValue (c : Char) : ℕ := if c.isDigit then c.toNat - 48 else c.toNat - 87

/-- The first character of a string's text, read off its front. -/
def readChar : List Char → Option (Char × List Char)
  | '\\' :: '"' :: rest => some ('"', rest)
  | '\\' :: '\\' :: rest => some ('\\', rest)
  | '\\' :: 'b' :: rest => some (Char.ofNat 8, rest)
  | '\\' :: 't' :: rest => some (Char.ofNat 9, rest)
  | '\\' :: 'n' :: rest => some (Char.ofNat 10, rest)
  | '\\' :: 'f' :: rest => some (Char.ofNat 12, rest)
  | '\\' :: 'r' :: rest => some (Char.ofNat 13, rest)
  | '\\' :: 'u' :: '0' :: '0' :: high :: low :: rest =>
    some (Char.ofNat (16 * hexValue high + hexValue low), rest)
  | c :: rest => some (c, rest)
  | [] => none

theorem readChar_escapeChar (c : Char) (rest : List Char) :
    readChar (escapeChar c ++ rest) = some (c, rest) := by
  by_cases hcontrol : c.toNat < 32
  · have hall : ∀ n : Fin 32, ∀ rest,
        readChar (escapeChar (Char.ofNat n) ++ rest) = some (Char.ofNat n, rest) := by
      intro n
      fin_cases n <;> exact fun _ => rfl
    have hc := hall ⟨c.toNat, hcontrol⟩ rest
    rwa [Char.ofNat_toNat] at hc
  · unfold escapeChar
    by_cases hquote : c = '"'
    · subst hquote
      rfl
    by_cases hslash : c = '\\'
    · subst hslash
      rfl
    rw [if_neg hquote, if_neg hslash, if_neg (by omega), if_neg (by omega), if_neg (by omega),
      if_neg (by omega), if_neg (by omega), if_neg hcontrol]
    rw [List.singleton_append, readChar.eq_def]
    split <;> simp_all

theorem escapeChar_append {c d : Char} {x y : List Char}
    (h : escapeChar c ++ x = escapeChar d ++ y) : c = d ∧ x = y := by
  have hread := congrArg readChar h
  rw [readChar_escapeChar, readChar_escapeChar] at hread
  exact Prod.mk.inj (Option.some.inj hread)

/-- No character of a string closes it. -/
theorem escapeChar_head (c : Char) : ∃ first rest, escapeChar c = first :: rest ∧ first ≠ '"' := by
  unfold escapeChar
  split_ifs
  case neg => exact ⟨c, [], rfl, by assumption⟩
  all_goals exact ⟨'\\', _, rfl, by decide⟩

theorem bodyText_append {s t x y : List Char}
    (h : bodyText s ++ '"' :: x = bodyText t ++ '"' :: y) : s = t ∧ x = y := by
  induction s generalizing t with
  | nil =>
    cases t with
    | nil => exact ⟨rfl, List.tail_eq_of_cons_eq h⟩
    | cons d t =>
      obtain ⟨first, rest, hd, hne⟩ := escapeChar_head d
      rw [bodyText, bodyText, List.flatMap_cons, hd] at h
      exact absurd (List.head_eq_of_cons_eq h).symm hne
  | cons c s ih =>
    cases t with
    | nil =>
      obtain ⟨first, rest, hc, hne⟩ := escapeChar_head c
      rw [bodyText, bodyText, List.flatMap_cons, hc] at h
      exact absurd (List.head_eq_of_cons_eq h) hne
    | cons d t =>
      rw [bodyText, bodyText, List.flatMap_cons, List.flatMap_cons, List.append_assoc,
        List.append_assoc] at h
      obtain ⟨rfl, hrest⟩ := escapeChar_append h
      obtain ⟨rfl, rfl⟩ := ih hrest
      exact ⟨rfl, rfl⟩

theorem stringText_append {s t x y : List Char} (h : stringText s ++ x = stringText t ++ y) :
    s = t ∧ x = y := by
  rw [stringText, stringText, List.cons_append, List.cons_append, List.append_assoc,
    List.append_assoc] at h
  exact bodyText_append (List.tail_eq_of_cons_eq h)

/-- What follows a value: nothing, or no digit. -/
def Delimited (rest : List Char) : Prop := ∀ c ∈ rest.head?, c.isDigit = false

theorem delimited_cons {c : Char} {rest : List Char} (h : c.isDigit = false) :
    Delimited (c :: rest) := by
  intro d hd
  rw [← Option.some.inj hd]
  exact h

theorem takeWhile_digits {n : ℕ} {rest : List Char} (h : Delimited rest) :
    (Nat.toDigits 10 n ++ rest).takeWhile Char.isDigit = Nat.toDigits 10 n := by
  have hdigits : ∀ c ∈ Nat.toDigits 10 n, c.isDigit = true := fun c hc =>
    Nat.isDigit_of_mem_toDigits (by decide) (by decide) hc
  rw [List.takeWhile_append_of_pos hdigits]
  cases rest with
  | nil => simp
  | cons c rest => rw [List.takeWhile_cons_of_neg (by simp [h c rfl]), List.append_nil]

theorem digits_append {m n : ℕ} {x y : List Char} (hx : Delimited x) (hy : Delimited y)
    (h : Nat.toDigits 10 m ++ x = Nat.toDigits 10 n ++ y) : m = n ∧ x = y := by
  have hdigits := congrArg (List.takeWhile Char.isDigit) h
  rw [takeWhile_digits hx, takeWhile_digits hy] at hdigits
  have hvalue := congrArg (fun digits => Nat.ofDigitChars 10 digits 0) hdigits
  simp only [Nat.ofDigitChars_ten_toDigits] at hvalue
  subst hvalue
  exact ⟨rfl, List.append_cancel_left h⟩

/-- A number starts with a digit or a minus sign. -/
theorem digits_head (n : ℕ) : ∃ c rest, Nat.toDigits 10 n = c :: rest ∧ c.isDigit = true := by
  cases h : Nat.toDigits 10 n with
  | nil => exact absurd h Nat.toDigits_ne_nil
  | cons c rest =>
    exact ⟨c, rest, rfl, Nat.isDigit_of_mem_toDigits (b := 10) (by decide) (by decide) (h ▸ List.mem_cons_self)⟩

theorem numberText_append {m n : ℤ} {x y : List Char} (hx : Delimited x) (hy : Delimited y)
    (h : numberText m ++ x = numberText n ++ y) : m = n ∧ x = y := by
  cases m with
  | ofNat m =>
    cases n with
    | ofNat n =>
      obtain ⟨rfl, rfl⟩ := digits_append hx hy h
      exact ⟨rfl, rfl⟩
    | negSucc n =>
      obtain ⟨c, rest, hc, hdigit⟩ := digits_head m
      rw [numberText, hc] at h
      rw [List.head_eq_of_cons_eq h] at hdigit
      cases hdigit
  | negSucc m =>
    cases n with
    | ofNat n =>
      obtain ⟨c, rest, hc, hdigit⟩ := digits_head n
      rw [numberText, numberText, hc] at h
      rw [← List.head_eq_of_cons_eq h] at hdigit
      cases hdigit
    | negSucc n =>
      obtain ⟨hmn, rfl⟩ := digits_append hx hy (List.tail_eq_of_cons_eq h)
      rw [Nat.succ.inj hmn]
      exact ⟨rfl, rfl⟩

/-- The kind that the first character of a text shows. -/
def kindOfChar (c : Char) : ℕ :=
  if c = 'n' then 0 else if c = 't' then 1 else if c = 'f' then 2 else if c = '"' then 3
  else if c = '[' then 4 else if c = '\x7b' then 5 else 6

def kindOf : Json → ℕ
  | .null => 0
  | .boolean true => 1
  | .boolean false => 2
  | .string _ => 3
  | .array _ => 4
  | .object _ => 5
  | .number _ => 6

theorem kindOfChar_digit {c : Char} (h : c.isDigit = true) : kindOfChar c = 6 := by
  unfold kindOfChar
  split_ifs with hn ht hf hq ha ho
  all_goals first | rfl | (subst_vars; cases h)

/-- A text shows the kind of its value, and closes no array. -/
theorem valueText_head (a : Json) :
    ∃ c rest, valueText a = c :: rest ∧ kindOfChar c = kindOf a ∧ c ≠ ']' := by
  match a with
  | .null => exact ⟨_, _, rfl, rfl, by decide⟩
  | .boolean true => exact ⟨_, _, rfl, rfl, by decide⟩
  | .boolean false => exact ⟨_, _, rfl, rfl, by decide⟩
  | .string _ => exact ⟨'"', _, by rw [valueText]; rfl, rfl, by decide⟩
  | .array [] => exact ⟨'[', [']'], by rw [valueText]; rfl, rfl, by decide⟩
  | .array (_ :: _) => exact ⟨'[', _, by rw [valueText], rfl, by decide⟩
  | .object [] => exact ⟨'\x7b', ['\x7d'], by rw [valueText], rfl, by decide⟩
  | .object ((_, _) :: _) => exact ⟨'\x7b', _, by rw [valueText], rfl, by decide⟩
  | .number (.ofNat n) =>
    obtain ⟨c, rest, hc, hdigit⟩ := digits_head n
    refine ⟨c, rest, by rw [valueText, numberText, hc], kindOfChar_digit hdigit, ?_⟩
    rintro rfl
    cases hdigit
  | .number (.negSucc n) => exact ⟨'-', _, by rw [valueText, numberText], rfl, by decide⟩

/-- Texts that start alike are of values of one kind. -/
theorem kindOf_eq {a b : Json} {x y : List Char} (h : valueText a ++ x = valueText b ++ y) :
    kindOf a = kindOf b := by
  obtain ⟨c, rest, ha, hkind, -⟩ := valueText_head a
  obtain ⟨d, others, hb, hkind', -⟩ := valueText_head b
  rw [ha, hb] at h
  rw [← hkind, ← hkind', List.head_eq_of_cons_eq h]

/-- An array without items is not one with items. -/
theorem closed_ne_item {item : Json} {rest x : List Char} (y : List Char) :
    '[' :: ']' :: x ≠ '[' :: (valueText item ++ rest) ++ y := by
  intro h
  obtain ⟨c, others, hc, -, hne⟩ := valueText_head item
  rw [hc] at h
  exact hne (List.head_eq_of_cons_eq (List.tail_eq_of_cons_eq h)).symm

theorem delimited_items (rest : List Json) (x : List Char) : Delimited (itemsText rest ++ x) := by
  cases rest with
  | nil => exact delimited_cons (by decide)
  | cons item rest => exact delimited_cons (by decide)

theorem delimited_members (rest : List (List Char × Json)) (x : List Char) :
    Delimited (membersText rest ++ x) := by
  cases rest with
  | nil => exact delimited_cons (by decide)
  | cons member rest => exact delimited_cons (by decide)

mutual

/-- The value in front of a text is the only one. -/
theorem valueText_append (a b : Json) (x y : List Char) (hx : Delimited x) (hy : Delimited y)
    (h : valueText a ++ x = valueText b ++ y) : a = b ∧ x = y := by
  have hkind := kindOf_eq h
  match a, b with
  | .null, .null => exact ⟨rfl, List.append_cancel_left h⟩
  | .boolean true, .boolean true => exact ⟨rfl, List.append_cancel_left h⟩
  | .boolean false, .boolean false => exact ⟨rfl, List.append_cancel_left h⟩
  | .number m, .number n =>
    rw [valueText, valueText] at h
    obtain ⟨rfl, rfl⟩ := numberText_append hx hy h
    exact ⟨rfl, rfl⟩
  | .string s, .string t =>
    rw [valueText, valueText] at h
    obtain ⟨rfl, rfl⟩ := stringText_append h
    exact ⟨rfl, rfl⟩
  | .array [], .array [] => exact ⟨rfl, List.append_cancel_left h⟩
  | .array [], .array (item :: rest) =>
    rw [valueText, valueText] at h
    exact absurd h (closed_ne_item y)
  | .array (item :: rest), .array [] =>
    rw [valueText, valueText] at h
    exact absurd h.symm (closed_ne_item x)
  | .array (item :: rest), .array (item' :: rest') =>
    rw [valueText, valueText, List.cons_append, List.cons_append, List.append_assoc,
      List.append_assoc] at h
    obtain ⟨rfl, hrest⟩ := valueText_append item item' _ _ (delimited_items rest x)
      (delimited_items rest' y) (List.tail_eq_of_cons_eq h)
    obtain ⟨rfl, rfl⟩ := itemsText_append rest rest' x y hrest
    exact ⟨rfl, rfl⟩
  | .object [], .object [] => exact ⟨rfl, List.append_cancel_left h⟩
  | .object [], .object ((key, value) :: rest) =>
    rw [valueText, valueText] at h
    exact absurd (List.head_eq_of_cons_eq (List.tail_eq_of_cons_eq h)) (by decide)
  | .object ((key, value) :: rest), .object [] =>
    rw [valueText, valueText] at h
    exact absurd (List.head_eq_of_cons_eq (List.tail_eq_of_cons_eq h)) (by decide)
  | .object ((key, value) :: rest), .object ((key', value') :: rest') =>
    simp only [valueText, List.cons_append, List.append_assoc] at h
    obtain ⟨rfl, hvalue⟩ := stringText_append (List.tail_eq_of_cons_eq h)
    obtain ⟨rfl, hrest⟩ := valueText_append value value' _ _ (delimited_members rest x)
      (delimited_members rest' y) (List.tail_eq_of_cons_eq hvalue)
    obtain ⟨rfl, rfl⟩ := membersText_append rest rest' x y hrest
    exact ⟨rfl, rfl⟩

theorem itemsText_append (a b : List Json) (x y : List Char)
    (h : itemsText a ++ x = itemsText b ++ y) : a = b ∧ x = y := by
  match a, b with
  | [], [] => exact ⟨rfl, List.append_cancel_left h⟩
  | [], item :: rest =>
    rw [itemsText, itemsText] at h
    exact absurd (List.head_eq_of_cons_eq h) (by decide)
  | item :: rest, [] =>
    rw [itemsText, itemsText] at h
    exact absurd (List.head_eq_of_cons_eq h) (by decide)
  | item :: rest, item' :: rest' =>
    rw [itemsText, itemsText, List.cons_append, List.cons_append, List.append_assoc,
      List.append_assoc] at h
    obtain ⟨rfl, hrest⟩ := valueText_append item item' _ _ (delimited_items rest x)
      (delimited_items rest' y) (List.tail_eq_of_cons_eq h)
    obtain ⟨rfl, rfl⟩ := itemsText_append rest rest' x y hrest
    exact ⟨rfl, rfl⟩

theorem membersText_append (a b : List (List Char × Json)) (x y : List Char)
    (h : membersText a ++ x = membersText b ++ y) : a = b ∧ x = y := by
  match a, b with
  | [], [] => exact ⟨rfl, List.append_cancel_left h⟩
  | [], (key, value) :: rest =>
    rw [membersText, membersText] at h
    exact absurd (List.head_eq_of_cons_eq h) (by decide)
  | (key, value) :: rest, [] =>
    rw [membersText, membersText] at h
    exact absurd (List.head_eq_of_cons_eq h) (by decide)
  | (key, value) :: rest, (key', value') :: rest' =>
    simp only [membersText, List.cons_append, List.append_assoc] at h
    obtain ⟨rfl, hvalue⟩ := stringText_append (List.tail_eq_of_cons_eq h)
    obtain ⟨rfl, hrest⟩ := valueText_append value value' _ _ (delimited_members rest x)
      (delimited_members rest' y) (List.tail_eq_of_cons_eq hvalue)
    obtain ⟨rfl, rfl⟩ := membersText_append rest rest' x y hrest
    exact ⟨rfl, rfl⟩

end

/-- A text belongs to one value only. -/
theorem valueText_injective : Function.Injective valueText := by
  intro a b h
  have hnil : Delimited [] := fun c hc => by cases hc
  have happend : valueText a ++ [] = valueText b ++ [] := by rw [h]
  exact (valueText_append a b [] [] hnil hnil happend).1

/-- Values of one canonical text differ in the order of members only. -/
theorem canonicalText_eq_iff {a b : Json} : canonicalText a = canonicalText b ↔ inOrder a = inOrder b :=
  valueText_injective.eq_iff

/-! ## Values with the same keys -/

/-- Members of the same distinct keys are sorted alike. -/
theorem sortOn_members_eq_iff {α : Type} {a b : List (List Char × α)}
    (hkeys : a.map Prod.fst = b.map Prod.fst) (hd : (a.map Prod.fst).Nodup) :
    sortOn (fun member => utf16Units member.1) a = sortOn (fun member => utf16Units member.1) b ↔
      a = b := by
  refine ⟨fun h => ?_, fun h => h ▸ rfl⟩
  have hperm : a.Perm b :=
    (sortOn_perm _ a).symm.trans ((List.Perm.of_eq h).trans (sortOn_perm _ b))
  have hmem : ∀ member, member ∈ a ↔ member ∈ b := fun member => hperm.mem_iff
  clear h hperm
  induction a generalizing b with
  | nil =>
    cases b with
    | nil => rfl
    | cons member rest => simp at hkeys
  | cons member rest ih =>
    cases b with
    | nil => simp at hkeys
    | cons other others =>
      rw [List.map_cons, List.map_cons, List.cons.injEq] at hkeys
      obtain ⟨hkey, hkeys⟩ := hkeys
      have hnodup := List.nodup_cons.mp hd
      have hnodup' : other.1 ∉ others.map Prod.fst := by
        rw [← hkey, ← hkeys]
        exact hnodup.1
      -- the key of the first member occurs once on either side
      have hfirst : member = other := by
        rcases List.mem_cons.mp ((hmem member).mp List.mem_cons_self) with heq | hlater
        · exact heq
        · exact absurd (hkey ▸ List.mem_map_of_mem (f := Prod.fst) hlater) hnodup'
      subst hfirst
      rw [ih hkeys hnodup.2 fun x => ?_]
      have hx := hmem x
      simp only [List.mem_cons] at hx
      constructor
      · intro hin
        refine (hx.mp (.inr hin)).resolve_left fun heq => hnodup.1 ?_
        exact heq ▸ List.mem_map_of_mem (f := Prod.fst) hin
      · intro hin
        refine (hx.mpr (.inr hin)).resolve_left fun heq => hnodup' ?_
        exact heq ▸ List.mem_map_of_mem (f := Prod.fst) hin

end AthenaContext.JsonText
