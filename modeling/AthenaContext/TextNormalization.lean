import Mathlib

/-!
# Text normalization

Text as its code points, NFC normalization and case folding over the Unicode
tables, and slash-separated paths. The tables are a parameter; what they must
satisfy is what Unicode promises of ASCII text and of the separator `/`, which
takes part in no composition and is no part of another character's folding.
-/

namespace AthenaContext.TextNormalization

/-- Text as a sequence of code points. -/
abbrev Text := List Char

instance lawfulBEqText : LawfulBEq (List Char) := inferInstance

/-- Every character is ASCII. -/
def IsAscii (t : Text) : Prop := ∀ c ∈ t, c.toNat < 128

/-- ASCII without capital letters: what normalization leaves unchanged. -/
def IsPlain (t : Text) : Prop := ∀ c ∈ t, c.toNat < 128 ∧ c.isUpper = false

instance (t : Text) : Decidable (IsAscii t) := List.decidableBAll _ t
instance (t : Text) : Decidable (IsPlain t) := List.decidableBAll _ t

/-- A property of every character of a text, checked one by one. -/
theorem forall_mem_of_all {p : Char → Prop} [DecidablePred p] {t : Text}
    (h : t.all (fun c => decide (p c)) = true) : ∀ c ∈ t, p c :=
  fun c hc => of_decide_eq_true (List.all_eq_true.mp h c hc)

/-- The Unicode tables behind `unicodedata.normalize("NFC", _)` and `str.casefold`;
full case folding maps each character on its own. -/
structure UnicodeTables where
  nfc : Text → Text
  foldCharacter : Char → Text
  nfc_ascii : ∀ t, IsAscii t → nfc t = t
  nfc_separator : ∀ a b, nfc (a ++ '/' :: b) = nfc a ++ '/' :: nfc b
  nfc_keeps : ∀ t, '/' ∉ t → '/' ∉ nfc t
  fold_ascii : ∀ c : Char, c.toNat < 128 → foldCharacter c = [c.toLower]
  fold_keeps : ∀ c : Char, c ≠ '/' → '/' ∉ foldCharacter c
  fold_ne_nil : ∀ c : Char, foldCharacter c ≠ []

/-! ## Paths -/

/-- `text.split("/")`. -/
def splitPath (t : Text) : List Text := t.splitOn '/'

/-- `"/".join(parts)`. -/
def joinPath (parts : List Text) : Text := ['/'].intercalate parts

/-- `text.rsplit("/", 1)[-1]`. -/
def lastComponent (t : Text) : Text := (splitPath t).getLast (List.splitOn_ne_nil '/' t)

theorem joinPath_splitPath (t : Text) : joinPath (splitPath t) = t :=
  List.intercalate_splitOn '/'

theorem separator_not_mem_of_mem_splitPath {t part : Text} (h : part ∈ splitPath t) :
    '/' ∉ part := by
  induction t generalizing part with
  | nil =>
    have hp : part = [] := by simpa [splitPath] using h
    simp [hp]
  | cons c rest ih =>
    rw [splitPath, List.splitOn_cons_eq_if_modifyHead] at h
    split at h
    · have hm : part = [] ∨ part ∈ splitPath rest := by simpa [splitPath] using h
      rcases hm with hp | hp
      · simp [hp]
      · exact ih hp
    · rename_i hc
      have hne : c ≠ '/' := by simpa using hc
      cases hs : rest.splitOn '/' with
      | nil => exact absurd hs (List.splitOn_ne_nil '/' rest)
      | cons first others =>
        have hm : part = c :: first ∨ part ∈ others := by simpa [hs] using h
        have hfirst : '/' ∉ first := ih (by simp [splitPath, hs])
        rcases hm with hp | hp
        · simp [hp, hfirst, Ne.symm hne]
        · exact ih (by simp [splitPath, hs, hp])

theorem splitPath_joinPath {parts : List Text} (hne : parts ≠ [])
    (h : ∀ part ∈ parts, '/' ∉ part) : splitPath (joinPath parts) = parts :=
  List.splitOn_intercalate '/' h hne

theorem splitPath_append (a b : Text) :
    splitPath (a ++ '/' :: b) = splitPath a ++ splitPath b :=
  List.splitOn_append_cons_self a b

/-- A function on text that treats the separator as a boundary acts on each
component of a path by itself. -/
theorem splitPath_map {f : Text → Text} (hsep : ∀ a b, f (a ++ '/' :: b) = f a ++ '/' :: f b)
    (hkeep : ∀ a, '/' ∉ a → '/' ∉ f a) (t : Text) :
    splitPath (f t) = (splitPath t).map f := by
  have key : ∀ parts : List Text, parts ≠ [] → (∀ part ∈ parts, '/' ∉ part) →
      splitPath (f (joinPath parts)) = parts.map f := by
    intro parts
    induction parts with
    | nil => intro hne; exact absurd rfl hne
    | cons part rest ih =>
      intro _ hparts
      have hpart : '/' ∉ part := hparts part (by simp)
      cases rest with
      | nil =>
        have hj : joinPath [part] = part := List.intercalate_singleton
        rw [hj, splitPath, List.splitOn_eq_singleton (hkeep part hpart)]
        rfl
      | cons next others =>
        have hj : joinPath (part :: next :: others) = part ++ '/' :: joinPath (next :: others) := by
          simp [joinPath, List.intercalate_cons_cons]
        have hrest := ih (by simp) (fun p hp => hparts p (List.mem_cons_of_mem _ hp))
        rw [hj, hsep, splitPath, List.splitOn_append_cons_self_of_not_mem (hkeep part hpart)]
        rw [splitPath] at hrest
        rw [hrest]
        rfl
  have hj := joinPath_splitPath t
  calc splitPath (f t) = splitPath (f (joinPath (splitPath t))) := by rw [hj]
    _ = (splitPath t).map f :=
      key _ (List.splitOn_ne_nil '/' t) fun _ hp => separator_not_mem_of_mem_splitPath hp

/-! ## Case folding and normalized identifiers -/

section tables

variable (unicode : UnicodeTables)

/-- `text.casefold()`. -/
def casefold (t : Text) : Text := t.flatMap unicode.foldCharacter

/-- `_normalized_id`. -/
def normalizedId (t : Text) : Text := casefold unicode (unicode.nfc t)

/-- `_comparison_text`. -/
def comparisonText (t : Text) : Text := casefold unicode (unicode.nfc t)

theorem comparisonText_eq (t : Text) : comparisonText unicode t = normalizedId unicode t := rfl

theorem casefold_append (a b : Text) :
    casefold unicode (a ++ b) = casefold unicode a ++ casefold unicode b :=
  List.flatMap_append

theorem casefold_ascii {t : Text} (h : IsAscii t) : casefold unicode t = t.map Char.toLower := by
  induction t with
  | nil => rfl
  | cons c rest ih =>
    have hc := unicode.fold_ascii c (h c (by simp))
    have hrest := ih fun d hd => h d (List.mem_cons_of_mem _ hd)
    rw [casefold, List.flatMap_cons, hc]
    rw [casefold] at hrest
    rw [hrest]
    rfl

theorem casefold_separator (a b : Text) :
    casefold unicode (a ++ '/' :: b) = casefold unicode a ++ '/' :: casefold unicode b := by
  have hs : unicode.foldCharacter '/' = ['/'] := unicode.fold_ascii '/' (by decide)
  rw [casefold_append, casefold, casefold, casefold, List.flatMap_cons, hs]
  rfl

theorem casefold_keeps {a : Text} (h : '/' ∉ a) : '/' ∉ casefold unicode a := by
  intro hm
  obtain ⟨c, hc, hf⟩ : ∃ c ∈ a, '/' ∈ unicode.foldCharacter c := by
    simpa [casefold, List.mem_flatMap] using hm
  have hne : c ≠ '/' := fun e => h (e ▸ hc)
  exact unicode.fold_keeps c hne hf

theorem casefold_ne_nil {a : Text} (h : a ≠ []) : casefold unicode a ≠ [] := by
  cases a with
  | nil => exact absurd rfl h
  | cons c rest => simp [casefold, unicode.fold_ne_nil c]

theorem normalizedId_separator (a b : Text) :
    normalizedId unicode (a ++ '/' :: b) = normalizedId unicode a ++ '/' :: normalizedId unicode b := by
  rw [normalizedId, unicode.nfc_separator, casefold_separator]
  rfl

theorem splitPath_casefold (t : Text) :
    splitPath (casefold unicode t) = (splitPath t).map (casefold unicode) :=
  splitPath_map (casefold_separator unicode) (fun _ h => casefold_keeps unicode h) t

theorem splitPath_normalizedId (t : Text) :
    splitPath (normalizedId unicode t) = (splitPath t).map (normalizedId unicode) :=
  splitPath_map (normalizedId_separator unicode)
    (fun a h => casefold_keeps unicode (unicode.nfc_keeps a h)) t

theorem lastComponent_normalizedId (t : Text) :
    lastComponent (normalizedId unicode t) = normalizedId unicode (lastComponent t) := by
  have hs := splitPath_normalizedId unicode t
  have hm : (splitPath t).map (normalizedId unicode) ≠ [] := by simp [splitPath]
  calc lastComponent (normalizedId unicode t)
      = ((splitPath t).map (normalizedId unicode)).getLast hm := by simp only [lastComponent, hs]
    _ = normalizedId unicode (lastComponent t) := List.getLast_map hm

end tables

/-! ## Plain text -/

theorem IsPlain.isAscii {t : Text} (h : IsPlain t) : IsAscii t := fun c hc => (h c hc).1

theorem IsPlain.of_mem_splitPath {t part : Text} (h : IsPlain t) (hp : part ∈ splitPath t) :
    IsPlain part := by
  induction t generalizing part with
  | nil =>
    have he : part = [] := by simpa [splitPath] using hp
    simp [he, IsPlain]
  | cons c rest ih =>
    have hrest : IsPlain rest := fun d hd => h d (List.mem_cons_of_mem _ hd)
    rw [splitPath, List.splitOn_cons_eq_if_modifyHead] at hp
    split at hp
    · have hm : part = [] ∨ part ∈ splitPath rest := by simpa [splitPath] using hp
      rcases hm with he | hm
      · simp [he, IsPlain]
      · exact ih hrest hm
    · cases hs : rest.splitOn '/' with
      | nil => exact absurd hs (List.splitOn_ne_nil '/' rest)
      | cons first others =>
        have hm : part = c :: first ∨ part ∈ others := by simpa [hs] using hp
        have hfirst : IsPlain first := ih hrest (by simp [splitPath, hs])
        rcases hm with he | hm
        · intro d hd
          have hd' : d = c ∨ d ∈ first := by simpa [he] using hd
          rcases hd' with rfl | hd'
          · exact h d (by simp)
          · exact hfirst d hd'
        · exact ih hrest (by simp [splitPath, hs, hm])

/-- A property of the ASCII characters, checked on their codes. -/
theorem ascii_forall {P : Char → Prop} (h : ∀ n : Fin 128, P (Char.ofNat n)) (c : Char)
    (hc : c.toNat < 128) : P c := by
  have hn := h ⟨c.toNat, hc⟩
  rwa [Char.ofNat_toNat] at hn

/-- Lower-casing an ASCII character gives a plain one, and leaves a plain one as it is. -/
theorem toLower_ascii {c : Char} (h : c.toNat < 128) :
    c.toLower.toNat < 128 ∧ c.toLower.isUpper = false ∧ (c.isUpper = false → c.toLower = c) :=
  ascii_forall (P := fun c => c.toLower.toNat < 128 ∧ c.toLower.isUpper = false ∧
    (c.isUpper = false → c.toLower = c)) (by decide) c h

theorem casefold_of_isPlain (unicode : UnicodeTables) {t : Text} (h : IsPlain t) :
    casefold unicode t = t := by
  rw [casefold_ascii unicode h.isAscii]
  have hm : t.map Char.toLower = t.map id :=
    List.map_congr_left fun c hc => (toLower_ascii (h c hc).1).2.2 (h c hc).2
  rw [hm, List.map_id]

/-- Plain text is its own comparison form. -/
theorem normalizedId_of_isPlain (unicode : UnicodeTables) {t : Text} (h : IsPlain t) :
    normalizedId unicode t = t := by
  rw [normalizedId, unicode.nfc_ascii t h.isAscii, casefold_of_isPlain unicode h]

/-! ## Sample tables -/

/-- Case folding of ASCII text and of the long s; any other character stays as it is. -/
def foldLatin (c : Char) : Text :=
  if c.toNat < 128 then [c.toLower] else if c = 'ſ' then ['s'] else [c]

/-- The tables as they act on ASCII text and the long s, for evaluation. -/
def latinTables : UnicodeTables where
  nfc t := t
  foldCharacter := foldLatin
  nfc_ascii _ _ := rfl
  nfc_separator _ _ := rfl
  nfc_keeps _ h := h
  fold_ascii c h := if_pos h
  fold_keeps c hne := by
    unfold foldLatin
    split
    · rename_i h
      exact ascii_forall (P := fun c => c ≠ '/' → '/' ∉ [c.toLower]) (by decide) c h hne
    · split
      · decide
      · simpa using Ne.symm hne
  fold_ne_nil c := by
    unfold foldLatin
    split
    · simp
    · split <;> simp

end AthenaContext.TextNormalization
