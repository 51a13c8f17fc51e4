import AthenaContext.ContractPatterns

/-!
# Sizes of canonical JSON

The bytes of a JSON text, summed over its parts. The order of members changes no size.
-/

namespace AthenaContext.JsonSizes

open JsonText TextNormalization ContractPatterns OrdinalCollections

/-! ## Bytes of a text -/

theorem utf8Length_append (a b : Text) : utf8Length (a ++ b) = utf8Length a + utf8Length b := by
  rw [utf8Length, List.map_append, List.sum_append]
  rfl

theorem utf8Length_cons (c : Char) (t : Text) : utf8Length (c :: t) = c.utf8Size + utf8Length t := by
  rw [utf8Length, List.map_cons, List.sum_cons]
  rfl

theorem utf8Size_ascii {c : Char} (h : c.toNat < 128) : c.utf8Size = 1 := by
  have hle : c.val ≤ 127 := by
    rw [UInt32.le_iff_toNat_le]
    exact Nat.le_of_lt_succ h
  exact if_pos hle

/-! ## Sizes -/

/-- The bytes of a string in its text. -/
def stringSize (t : Text) : ℕ := utf8Length (stringText t)

mutual

/-- The bytes of a value in its text. -/
def size : Json → ℕ
  | .null => 4
  | .boolean true => 4
  | .boolean false => 5
  | .number n => utf8Length (numberText n)
  | .string t => stringSize t
  | .array [] => 2
  | .array (item :: rest) => 2 + size item + itemsSize rest
  | .object [] => 2
  | .object ((key, value) :: rest) => 3 + stringSize key + size value + membersSize rest

/-- The bytes of further items, each with its comma. -/
def itemsSize : List Json → ℕ
  | [] => 0
  | item :: rest => 1 + size item + itemsSize rest

/-- The bytes of further members, each with its comma. -/
def membersSize : List (Text × Json) → ℕ
  | [] => 0
  | (key, value) :: rest => 2 + stringSize key + size value + membersSize rest

end

mutual

theorem utf8Length_valueText (value : Json) : utf8Length (valueText value) = size value := by
  cases value with
  | null => rfl
  | boolean value => cases value <;> rfl
  | number n => rfl
  | string t => rfl
  | array items =>
    cases items with
    | nil => rfl
    | cons item rest =>
      rw [valueText, utf8Length_cons, utf8Length_append, utf8Length_valueText item,
        utf8Length_itemsText rest, size, utf8Size_ascii (by decide)]
      omega
  | object members =>
    cases members with
    | nil => rfl
    | cons member rest =>
      obtain ⟨key, value⟩ := member
      rw [valueText, utf8Length_cons, utf8Length_append, utf8Length_cons, utf8Length_append,
        utf8Length_valueText value, utf8Length_membersText rest, size, stringSize,
        utf8Size_ascii (by decide), utf8Size_ascii (by decide)]
      omega

theorem utf8Length_itemsText (items : List Json) :
    utf8Length (itemsText items) = itemsSize items + 1 := by
  cases items with
  | nil => rfl
  | cons item rest =>
    rw [itemsText, utf8Length_cons, utf8Length_append, utf8Length_valueText item,
      utf8Length_itemsText rest, itemsSize, utf8Size_ascii (by decide)]
    omega

theorem utf8Length_membersText (members : List (Text × Json)) :
    utf8Length (membersText members) = membersSize members + 1 := by
  cases members with
  | nil => rfl
  | cons member rest =>
    obtain ⟨key, value⟩ := member
    rw [membersText, utf8Length_cons, utf8Length_append, utf8Length_cons, utf8Length_append,
      utf8Length_valueText value, utf8Length_membersText rest, membersSize, stringSize,
      utf8Size_ascii (by decide), utf8Size_ascii (by decide)]
    omega

end

/-- An object has its braces, and a comma less than members. -/
theorem size_object (members : List (Text × Json)) :
    size (.object members) = if members = [] then 2 else membersSize members + 1 := by
  cases members with
  | nil => rfl
  | cons member rest =>
    obtain ⟨key, value⟩ := member
    rw [size, if_neg (List.cons_ne_nil _ _), membersSize]
    omega

theorem size_array (items : List Json) :
    size (.array items) = if items = [] then 2 else itemsSize items + 1 := by
  cases items with
  | nil => rfl
  | cons item rest =>
    rw [size, if_neg (List.cons_ne_nil _ _), itemsSize]
    omega

theorem membersSize_perm {a b : List (Text × Json)} (h : a.Perm b) : membersSize a = membersSize b := by
  induction h with
  | nil => rfl
  | cons member _ ih =>
    obtain ⟨key, value⟩ := member
    rw [membersSize, membersSize, ih]
  | swap first second rest =>
    obtain ⟨key, value⟩ := first
    obtain ⟨other, item⟩ := second
    simp only [membersSize]
    omega
  | trans _ _ ihab ihbc => rw [ihab, ihbc]

mutual

/-- The order of members changes no size. -/
theorem size_inOrder (value : Json) : size (inOrder value) = size value := by
  cases value with
  | null => rfl
  | boolean value => rfl
  | number n => rfl
  | string t => rfl
  | array items =>
    rw [inOrder, size_array, size_array, itemsSize_inOrder items]
    cases items <;> rfl
  | object members =>
    rw [inOrder, size_object, size_object, membersSize_perm (sortOn_perm _ _),
      membersSize_inOrder members, if_congr sortOn_eq_nil rfl rfl]
    cases members <;> rfl

theorem itemsSize_inOrder (items : List Json) : itemsSize (itemsInOrder items) = itemsSize items := by
  cases items with
  | nil => rfl
  | cons item rest => rw [itemsInOrder, itemsSize, itemsSize, size_inOrder item, itemsSize_inOrder rest]

theorem membersSize_inOrder (members : List (Text × Json)) :
    membersSize (membersInOrder members) = membersSize members := by
  cases members with
  | nil => rfl
  | cons member rest =>
    obtain ⟨key, value⟩ := member
    rw [membersInOrder, membersSize, membersSize, size_inOrder value, membersSize_inOrder rest]

end

end AthenaContext.JsonSizes
