import AthenaContext.ContractDocuments
import AthenaContext.FallibleResults

/-!
# Forms of contract values

What a strict contract accepts, how it dumps a value, how it reads one from JSON, and which
value it reads back from the canonical text of its own dump. A form carries the proof that the
last is so, and forms of records and lists are built from the forms of their parts.
-/

namespace AthenaContext.ContractForms

open JsonText CanonicalJson TimestampText TextNormalization InstantTexts
open ContractDocuments FallibleResults

/-- The contract of a value: its validators, its dump, its reader, and the value that the
reader gets from the canonical text of the dump. -/
structure Form (R : DateTimeRuntime) (N : NfcTables) (α : Type) where
  accepts : α → Bool
  write : α → Json
  read : Json → Option α
  after : α → Option α
  accepts_of_read : ∀ {value : Json} {a : α}, read value = some a → accepts a = true
  read_canonical : ∀ {a : α} {value : Json}, accepts a = true →
    canonicalValue R N (write a) = some value → read (inOrder value) = after a
  canonical_after : ∀ {a b : α} {value : Json}, accepts a = true → after a = some b →
    canonicalValue R N (write a) = some value → canonicalValue R N (write b) = some value

namespace Form

variable {R : DateTimeRuntime} {N : NfcTables} {α β : Type}

/-! ## Leaves -/

/-- A string, with the check of its field. -/
def text (ok : Text → Bool) : Form R N Text where
  accepts := ok
  write := .string
  read
    | .string t => if ok t then some t else none
    | _ => none
  after t := (canonicalString R N t).filter ok
  accepts_of_read {value a} h := by
    cases value with
    | string t =>
      obtain ⟨hok, ⟨⟩⟩ := Option.ite_none_right_eq_some.mp h
      exact hok
    | _ => cases h
  read_canonical {a value} _ h := by
    rw [canonicalValue_string, Option.map_eq_some_iff] at h
    obtain ⟨written, hwritten, rfl⟩ := h
    rw [hwritten, Option.filter_some]
    rfl
  canonical_after {a b value} _ hb h := by
    rw [canonicalValue_string, Option.map_eq_some_iff] at h
    obtain ⟨written, hwritten, rfl⟩ := h
    rw [hwritten, Option.filter_eq_some_iff, Option.some.injEq] at hb
    obtain ⟨rfl, _⟩ := hb
    rw [canonicalValue_string, canonicalString_idempotent hwritten, Option.map_some]

/-- A string that the contract fixes. -/
def constant (t : Text) (h : IsPlainText t) : Form R N Unit where
  accepts _ := true
  write _ := .string t
  read
    | .string written => if written = t then some () else none
    | _ => none
  after _ := some ()
  accepts_of_read _ := rfl
  read_canonical {a value} _ hvalue := by
    rw [canonicalValue_string, h.canonicalString, Option.map_some, Option.some.injEq] at hvalue
    rw [← hvalue]
    exact if_pos rfl
  canonical_after _ _ hvalue := hvalue

/-- A flag that the contract fixes to true. -/
def alwaysTrue : Form R N Unit where
  accepts _ := true
  write _ := .boolean true
  read
    | .boolean true => some ()
    | _ => none
  after _ := some ()
  accepts_of_read _ := rfl
  read_canonical {a value} _ hvalue := by
    rw [canonicalValue_boolean, Option.some.injEq] at hvalue
    rw [← hvalue]
    rfl
  canonical_after _ _ hvalue := hvalue

def flag : Form R N Bool where
  accepts _ := true
  write := .boolean
  read
    | .boolean value => some value
    | _ => none
  after := some
  accepts_of_read _ := rfl
  read_canonical {a value} _ hvalue := by
    rw [canonicalValue_boolean, Option.some.injEq] at hvalue
    rw [← hvalue]
    rfl
  canonical_after _ hb hvalue := by
    cases hb
    exact hvalue

/-- One of finitely many strings. -/
def choice (written : α → Text) (values : List α)
    (hfind : ∀ a, values.find? (fun b => written b == written a) = some a)
    (hplain : ∀ a, IsPlainText (written a)) : Form R N α where
  accepts _ := true
  write a := .string (written a)
  read
    | .string t => values.find? fun b => written b == t
    | _ => none
  after := some
  accepts_of_read _ := rfl
  read_canonical {a value} _ hvalue := by
    rw [canonicalValue_string, (hplain a).canonicalString, Option.map_some, Option.some.injEq] at hvalue
    rw [← hvalue]
    exact hfind a
  canonical_after _ hb hvalue := by
    cases hb
    exact hvalue

/-- An integer that is not negative, with the check of its field. -/
def natural (ok : ℕ → Bool) : Form R N ℕ where
  accepts := ok
  write n := .number n
  read
    | .number (.ofNat n) => if ok n then some n else none
    | _ => none
  after := some
  accepts_of_read {value a} h := by
    cases value with
    | number n =>
      cases n with
      | ofNat n =>
        obtain ⟨hok, ⟨⟩⟩ := Option.ite_none_right_eq_some.mp h
        exact hok
      | negSucc n => cases h
    | _ => cases h
  read_canonical {a value} hok hvalue := by
    have hsmall : ¬ maxSafeInteger < (a : ℤ).natAbs := fun hlarge => by
      have hnone : canonicalValue R N (.number a) = none := if_pos hlarge
      rw [hnone] at hvalue
      cases hvalue
    rw [canonicalValue_number (Nat.not_lt.mp hsmall), Option.some.injEq] at hvalue
    rw [← hvalue]
    exact if_pos hok
  canonical_after _ hb hvalue := by
    cases hb
    exact hvalue

theorem natural_after (ok : ℕ → Bool) (n : ℕ) : (natural (R := R) (N := N) ok).after n = some n := rfl

/-- A field of type `UtcDateTime`. -/
def instant : Form R N Instant where
  accepts _ := true
  write t := .string (serializeUtcDateTime R t)
  read
    | .string t => parseUtcDateTime R t
    | _ => none
  after t := if HasFourDigits R t then some t else none
  accepts_of_read _ := rfl
  read_canonical {t value} _ hvalue := by
    rw [canonicalValue_string, canonicalString_ascii (isAscii_serialize t), Option.map_eq_some_iff] at hvalue
    obtain ⟨written, hwritten, rfl⟩ := hvalue
    change canonicalInstantText R t = some written at hwritten
    change parseUtcDateTime R written = _
    by_cases hfour : HasFourDigits R t
    · rw [canonicalInstantText_of_four hfour] at hwritten
      cases hwritten
      rw [parse_utcText, if_pos hfour]
    · rw [canonicalInstantText_of_not_four hfour] at hwritten
      cases hwritten
      rw [parseUtcDateTime, Option.bind_eq_bind, matchUtcTimestamp_serialize hfour, Option.bind_none,
        if_neg hfour]
  canonical_after _ hb hvalue := by
    obtain ⟨_, ⟨⟩⟩ := Option.ite_none_right_eq_some.mp hb
    exact hvalue

/-! ## Lists and further checks -/

/-- Values that pass one by one. -/
theorem forall₂_read {read : Json → Option α} {after : α → Option α} {items : List α}
    {values : List Json}
    (h : List.Forall₂ (fun item value => read (inOrder value) = after item) items values) :
    (itemsInOrder values).mapM read = items.mapM after := by
  induction h with
  | nil => rfl
  | cons hitem _ ih => rw [itemsInOrder, List.mapM_cons, List.mapM_cons, hitem, ih]

/-- A tuple of values, with the bounds of its length. -/
def list (F : Form R N α) (minimum maximum : ℕ) : Form R N (List α) where
  accepts items := minimum ≤ items.length && items.length ≤ maximum && items.all F.accepts
  write items := .array (items.map F.write)
  read
    | .array values =>
      if minimum ≤ values.length ∧ values.length ≤ maximum then values.mapM F.read else none
    | _ => none
  after items := items.mapM F.after
  accepts_of_read {value items} h := by
    cases value with
    | array values =>
      obtain ⟨⟨hmin, hmax⟩, hread⟩ := Option.ite_none_right_eq_some.mp h
      have hall := mapM_some_iff.mp hread
      have hlength := hall.length_eq
      have haccepts : items.all F.accepts = true := by
        rw [List.all_eq_true]
        exact ((List.forall₂_and_left items values).mp
          (hall.flip.imp fun item value hvalue => ⟨F.accepts_of_read hvalue, hvalue⟩)).1
      simp only [haccepts, Bool.and_true, Bool.and_eq_true, decide_eq_true_eq]
      omega
    | _ => cases h
  read_canonical {items value} haccepts hvalue := by
    obtain ⟨values, rfl, hvalues⟩ := canonicalValue_array.mp hvalue
    simp only [Bool.and_eq_true, decide_eq_true_eq, List.all_eq_true] at haccepts
    obtain ⟨⟨hmin, hmax⟩, hitems⟩ := haccepts
    rw [CanonicalItems, List.forall₂_map_left_iff] at hvalues
    have hlength : (itemsInOrder values).length = items.length := by
      rw [length_itemsInOrder, ← hvalues.length_eq]
    refine (if_pos (by rw [hlength]; exact ⟨hmin, hmax⟩)).trans (forall₂_read ?_)
    exact ((List.forall₂_and_left items values).mpr ⟨hitems, hvalues⟩).imp fun item value h =>
      F.read_canonical h.1 h.2
  canonical_after {items others value} haccepts hafter hvalue := by
    obtain ⟨values, rfl, hvalues⟩ := canonicalValue_array.mp hvalue
    simp only [Bool.and_eq_true, List.all_eq_true] at haccepts
    rw [CanonicalItems, List.forall₂_map_left_iff] at hvalues
    refine canonicalValue_array.mpr ⟨values, rfl, ?_⟩
    rw [CanonicalItems, List.forall₂_map_left_iff]
    have hothers := mapM_some_iff.mp hafter
    have hitems := haccepts.2
    clear hvalue haccepts hafter
    induction hothers generalizing values with
    | nil => exact hvalues
    | cons hother _ ih =>
      obtain ⟨_, hrest⟩ := List.forall_mem_cons.mp hitems
      cases hvalues with
      | cons hfirst hmore =>
        exact .cons (F.canonical_after (hitems _ List.mem_cons_self) hother hfirst) (ih _ hmore hrest)

/-- A further check of a value, such as a model validator. -/
def refine (F : Form R N α) (ok : α → Bool) : Form R N α where
  accepts a := F.accepts a && ok a
  write := F.write
  read value := (F.read value).filter ok
  after a := (F.after a).filter ok
  accepts_of_read {value a} h := by
    obtain ⟨hread, hok⟩ := Option.filter_eq_some_iff.mp h
    rw [F.accepts_of_read hread, hok]
    rfl
  read_canonical haccepts hvalue := by
    rw [F.read_canonical (Bool.and_eq_true_iff.mp haccepts).1 hvalue]
  canonical_after haccepts hafter hvalue :=
    F.canonical_after (Bool.and_eq_true_iff.mp haccepts).1 (Option.filter_eq_some_iff.mp hafter).1 hvalue

end Form

/-! ## Records -/

/-- Fields of a record: their names, each with whether it is always written. -/
structure Fields (R : DateTimeRuntime) (N : NfcTables) (α : Type) where
  names : List (Text × Bool)
  accepts : α → Bool
  write : α → List (Text × Json)
  read : (Text → Option Json) → Option α
  after : α → Option α
  keys_sublist : ∀ a, ((write a).map Prod.fst).Sublist (names.map Prod.fst)
  keys_required : ∀ a name, (name, true) ∈ names → name ∈ (write a).map Prod.fst
  accepts_of_read : ∀ {members : Text → Option Json} {a : α}, read members = some a →
    accepts a = true
  read_canonical : ∀ {a : α} {fields : List (Text × Json)} {members : Text → Option Json},
    (names.map Prod.fst).Nodup → accepts a = true → CanonicalMembers R N (write a) fields →
    (∀ name ∈ names.map Prod.fst, members name = (fields.lookup name).map inOrder) →
    read members = after a
  canonical_after : ∀ {a b : α} {fields : List (Text × Json)}, accepts a = true →
    after a = some b → CanonicalMembers R N (write a) fields → CanonicalMembers R N (write b) fields

namespace Fields

variable {R : DateTimeRuntime} {N : NfcTables} {α β : Type}

/-- A field that is always written. -/
def field (name : String) (F : Form R N α) : Fields R N α where
  names := [(name.toList, true)]
  accepts := F.accepts
  write a := [(name.toList, F.write a)]
  read members := (members name.toList).bind F.read
  after := F.after
  keys_sublist _ := List.Sublist.refl _
  keys_required a other hother := by
    rw [List.mem_singleton, Prod.mk.injEq] at hother
    exact List.mem_singleton.mpr hother.1
  accepts_of_read h := by
    obtain ⟨value, _, hread⟩ := Option.bind_eq_some_iff.mp h
    exact F.accepts_of_read hread
  read_canonical {a fields members} _ haccepts hfields hmembers := by
    obtain ⟨⟨key, value⟩, rest, ⟨hkey, hvalue⟩, hrest, rfl⟩ := List.forall₂_cons_left_iff.mp hfields
    cases hrest
    replace hkey : key = name.toList := hkey
    subst hkey
    rw [hmembers name.toList List.mem_cons_self, List.lookup_cons_self, Option.map_some, Option.bind_some]
    exact F.read_canonical haccepts hvalue
  canonical_after {a b fields} haccepts hafter hfields := by
    obtain ⟨⟨key, value⟩, rest, ⟨hkey, hvalue⟩, hrest, rfl⟩ := List.forall₂_cons_left_iff.mp hfields
    exact .cons ⟨hkey, F.canonical_after haccepts hafter hvalue⟩ hrest

/-- A field that is left out of a dump where it has no value; a reader takes `null` for none. -/
def optionalField (name : String) (F : Form R N α) (hkeeps : ∀ a, F.after a = some a) :
    Fields R N (Option α) where
  names := [(name.toList, false)]
  accepts a := a.all F.accepts
  write
    | none => []
    | some a => [(name.toList, F.write a)]
  read members :=
    match members name.toList with
    | none => some none
    | some value =>
      match F.read value, value with
      | some a, _ => some (some a)
      | none, .null => some none
      | none, _ => none
  after := some
  keys_sublist a := by
    cases a with
    | none => exact List.nil_sublist _
    | some a => exact List.Sublist.refl _
  keys_required a other hother := by
    rw [List.mem_singleton, Prod.mk.injEq] at hother
    exact absurd hother.2 (by decide)
  accepts_of_read {members a} h := by
    split at h
    · cases h
      rfl
    · split at h
      · next hread =>
        cases h
        exact F.accepts_of_read hread
      · cases h
        rfl
      · cases h
  read_canonical {a fields members} _ haccepts hfields hmembers := by
    cases a with
    | none =>
      cases hfields
      rw [hmembers name.toList List.mem_cons_self]
      rfl
    | some a =>
      obtain ⟨⟨key, value⟩, rest, ⟨hkey, hvalue⟩, hrest, rfl⟩ := List.forall₂_cons_left_iff.mp hfields
      cases hrest
      replace hkey : key = name.toList := hkey
      subst hkey
      have hread := F.read_canonical haccepts hvalue
      rw [hkeeps] at hread
      rw [hmembers name.toList List.mem_cons_self, List.lookup_cons_self, Option.map_some]
      simp only [hread]
  canonical_after {a b fields} _ hafter hfields := by
    cases hafter
    exact hfields

/-- Two groups of fields. -/
def both (A : Fields R N α) (B : Fields R N β) : Fields R N (α × β) where
  names := A.names ++ B.names
  accepts p := A.accepts p.1 && B.accepts p.2
  write p := A.write p.1 ++ B.write p.2
  read members := (A.read members).bind fun a => (B.read members).map fun b => (a, b)
  after p := (A.after p.1).bind fun a => (B.after p.2).map fun b => (a, b)
  keys_sublist p := by
    rw [List.map_append, List.map_append]
    exact (A.keys_sublist p.1).append (B.keys_sublist p.2)
  keys_required p name hname := by
    rw [List.map_append, List.mem_append]
    exact (List.mem_append.mp hname).imp (A.keys_required p.1 name) (B.keys_required p.2 name)
  accepts_of_read {members p} h := by
    obtain ⟨a, ha, hrest⟩ := Option.bind_eq_some_iff.mp h
    obtain ⟨b, hb, rfl⟩ := Option.map_eq_some_iff.mp hrest
    rw [A.accepts_of_read ha, B.accepts_of_read hb]
    rfl
  read_canonical {p fields members} hnames haccepts hfields hmembers := by
    obtain ⟨haccepts, haccepts'⟩ := Bool.and_eq_true_iff.mp haccepts
    rw [List.map_append] at hnames hmembers
    obtain ⟨first, second, rfl, hfirst, hsecond⟩ := CanonicalMembers.split hfields
    have hdisjoint := List.disjoint_of_nodup_append hnames
    have hkeys := (hfirst.keys ▸ A.keys_sublist p.1).subset
    have hkeys' := (hsecond.keys ▸ B.keys_sublist p.2).subset
    have hread : A.read members = A.after p.1 := by
      refine A.read_canonical (List.nodup_append.mp hnames).1 haccepts hfirst fun name hname => ?_
      have hother : second.lookup name = none := by
        rw [List.lookup_eq_none_iff]
        intro member hmember
        refine bne_iff_ne.mpr fun heq => hdisjoint hname (hkeys' ?_)
        exact heq ▸ List.mem_map_of_mem hmember
      rw [hmembers name (List.mem_append_left _ hname), List.lookup_append, hother, Option.or_none]
    have hread' : B.read members = B.after p.2 := by
      refine B.read_canonical (List.nodup_append.mp hnames).2.1 haccepts' hsecond fun name hname => ?_
      have hother : first.lookup name = none := by
        rw [List.lookup_eq_none_iff]
        intro member hmember
        refine bne_iff_ne.mpr fun heq => hdisjoint (hkeys ?_) hname
        exact heq ▸ List.mem_map_of_mem hmember
      rw [hmembers name (List.mem_append_right _ hname), List.lookup_append, hother, Option.none_or]
    rw [hread, hread']
  canonical_after {p q fields} haccepts hafter hfields := by
    obtain ⟨haccepts, haccepts'⟩ := Bool.and_eq_true_iff.mp haccepts
    obtain ⟨a, ha, hrest⟩ := Option.bind_eq_some_iff.mp hafter
    obtain ⟨b, hb, rfl⟩ := Option.map_eq_some_iff.mp hrest
    obtain ⟨first, second, rfl, hfirst, hsecond⟩ := CanonicalMembers.split hfields
    exact List.rel_append (A.canonical_after haccepts ha hfirst) (B.canonical_after haccepts' hb hsecond)

/-- The fields of a structure. -/
def map (F : Fields R N β) (parts : α → β) (build : β → α) (hparts : ∀ b, parts (build b) = b) :
    Fields R N α where
  names := F.names
  accepts a := F.accepts (parts a)
  write a := F.write (parts a)
  read members := (F.read members).map build
  after a := (F.after (parts a)).map build
  keys_sublist a := F.keys_sublist (parts a)
  keys_required a := F.keys_required (parts a)
  accepts_of_read {members a} h := by
    obtain ⟨b, hb, rfl⟩ := Option.map_eq_some_iff.mp h
    rw [hparts]
    exact F.accepts_of_read hb
  read_canonical hnames haccepts hfields hmembers := by
    rw [F.read_canonical hnames haccepts hfields hmembers]
  canonical_after {a b fields} haccepts hafter hfields := by
    obtain ⟨c, hc, rfl⟩ := Option.map_eq_some_iff.mp hafter
    rw [hparts]
    exact F.canonical_after haccepts hc hfields

/-- The names of the fields that are always written. -/
def required (F : Fields R N α) : List Text := (F.names.filter Prod.snd).map Prod.fst

/-- A record that has these fields and no further ones. -/
def record (F : Fields R N α) (hnames : AreFieldNames (F.names.map Prod.fst)) : Form R N α where
  accepts := F.accepts
  write a := .object (F.write a)
  read value := (readRecord F.required (F.names.map Prod.fst) value).bind F.read
  after := F.after
  accepts_of_read h := by
    obtain ⟨members, _, hread⟩ := Option.bind_eq_some_iff.mp h
    exact F.accepts_of_read hread
  read_canonical {a value} haccepts hvalue := by
    have hkeys := F.keys_sublist a
    have hwritten : AreFieldNames ((F.write a).map Prod.fst) :=
      ⟨hkeys.nodup hnames.1, fun name hname => hnames.2 name (hkeys.subset hname)⟩
    obtain ⟨fields, rfl, hfields⟩ := (canonicalValue_object hwritten).mp hvalue
    have hrequired : ∀ name ∈ F.required, name ∈ fields.map Prod.fst := by
      intro name hname
      obtain ⟨⟨other, always⟩, hother, rfl⟩ := List.mem_map.mp hname
      obtain ⟨hmem, halways⟩ := List.mem_filter.mp hother
      simp only at halways
      exact hfields.keys ▸ F.keys_required a other (halways ▸ hmem)
    have hknown : ∀ name ∈ fields.map Prod.fst, name ∈ F.required ∨ name ∈ F.names.map Prod.fst :=
      fun name hname => .inr (hkeys.subset (hfields.keys ▸ hname))
    have hread := readRecord_inOrder (hfields.keys ▸ hwritten.1) hrequired hknown
    rw [hread, Option.bind_some]
    exact F.read_canonical hnames.1 haccepts hfields fun name _ => rfl
  canonical_after {a b value} haccepts hafter hvalue := by
    have hwritten : ∀ a, AreFieldNames ((F.write a).map Prod.fst) := fun a =>
      ⟨(F.keys_sublist a).nodup hnames.1,
        fun name hname => hnames.2 name ((F.keys_sublist a).subset hname)⟩
    obtain ⟨fields, rfl, hfields⟩ := (canonicalValue_object (hwritten a)).mp hvalue
    exact (canonicalValue_object (hwritten b)).mpr
      ⟨fields, rfl, F.canonical_after haccepts hafter hfields⟩

end Fields

/-! ## What is accepted -/

section Accepts

variable {R : DateTimeRuntime} {N : NfcTables} {α β : Type}

theorem Form.accepts_refine {F : Form R N α} {ok : α → Bool} {a : α} :
    (F.refine ok).accepts a = true ↔ F.accepts a = true ∧ ok a = true :=
  Bool.and_eq_true_iff

theorem Form.accepts_list {F : Form R N α} {minimum maximum : ℕ} {items : List α} :
    (F.list minimum maximum).accepts items = true ↔
      (minimum ≤ items.length ∧ items.length ≤ maximum) ∧ ∀ item ∈ items, F.accepts item = true := by
  simp only [Form.list, Bool.and_eq_true, decide_eq_true_eq, List.all_eq_true]

theorem Fields.accepts_field {name : String} {F : Form R N α} {a : α} :
    (Fields.field name F).accepts a = true ↔ F.accepts a = true := Iff.rfl

theorem Fields.accepts_both {A : Fields R N α} {B : Fields R N β} {p : α × β} :
    (A.both B).accepts p = true ↔ A.accepts p.1 = true ∧ B.accepts p.2 = true :=
  Bool.and_eq_true_iff

theorem Fields.accepts_map {F : Fields R N β} {parts : α → β} {build : β → α}
    {hparts : ∀ b, parts (build b) = b} {a : α} :
    (F.map parts build hparts).accepts a = true ↔ F.accepts (parts a) = true := Iff.rfl

theorem Fields.accepts_record {F : Fields R N α} {hnames : AreFieldNames (F.names.map Prod.fst)}
    {a : α} : (F.record hnames).accepts a = true ↔ F.accepts a = true := Iff.rfl

end Accepts

/-! ## What is read back -/

section After

variable {R : DateTimeRuntime} {N : NfcTables} {α β : Type}

theorem Form.after_text {ok : Text → Bool} {t written : Text} :
    (Form.text (R := R) (N := N) ok).after t = some written ↔
      canonicalString R N t = some written ∧ ok written = true :=
  Option.filter_eq_some_iff

theorem Form.after_instant {t u : Instant} :
    (Form.instant (R := R) (N := N)).after t = some u ↔ HasFourDigits R t ∧ t = u := by
  rw [Form.instant, Option.ite_none_right_eq_some, Option.some.injEq]

theorem Form.after_refine {F : Form R N α} {ok : α → Bool} {a b : α} :
    (F.refine ok).after a = some b ↔ F.after a = some b ∧ ok b = true :=
  Option.filter_eq_some_iff

theorem Form.after_list {F : Form R N α} {minimum maximum : ℕ} {items others : List α} :
    (F.list minimum maximum).after items = some others ↔
      List.Forall₂ (fun item other => F.after item = some other) items others :=
  mapM_some_iff

theorem Fields.after_field {name : String} {F : Form R N α} {a b : α} :
    (Fields.field name F).after a = some b ↔ F.after a = some b := Iff.rfl

theorem Fields.after_both {A : Fields R N α} {B : Fields R N β} {p q : α × β} :
    (A.both B).after p = some q ↔ A.after p.1 = some q.1 ∧ B.after p.2 = some q.2 := by
  constructor
  · intro h
    obtain ⟨a, ha, hrest⟩ := Option.bind_eq_some_iff.mp h
    obtain ⟨b, hb, rfl⟩ := Option.map_eq_some_iff.mp hrest
    exact ⟨ha, hb⟩
  · rintro ⟨ha, hb⟩
    exact Option.bind_eq_some_iff.mpr ⟨q.1, ha, Option.map_eq_some_iff.mpr ⟨q.2, hb, rfl⟩⟩

theorem Fields.after_map {F : Fields R N β} {parts : α → β} {build : β → α}
    {hparts : ∀ b, parts (build b) = b} (hbuild : ∀ a, build (parts a) = a) {a b : α} :
    (F.map parts build hparts).after a = some b ↔ F.after (parts a) = some (parts b) := by
  constructor
  · intro h
    obtain ⟨c, hc, rfl⟩ := Option.map_eq_some_iff.mp h
    rw [hc, hparts]
  · intro h
    exact Option.map_eq_some_iff.mpr ⟨_, h, hbuild b⟩

theorem Fields.after_record {F : Fields R N α} {hnames : AreFieldNames (F.names.map Prod.fst)}
    {a b : α} : (F.record hnames).after a = some b ↔ F.after a = some b := Iff.rfl

theorem Form.after_constant {t : Text} {h : IsPlainText t} {a b : Unit} :
    (Form.constant (R := R) (N := N) t h).after a = some b ↔ True :=
  iff_true_intro rfl

theorem Form.after_alwaysTrue {a b : Unit} :
    (Form.alwaysTrue (R := R) (N := N)).after a = some b ↔ True :=
  iff_true_intro rfl

theorem Form.after_flag {a b : Bool} :
    (Form.flag (R := R) (N := N)).after a = some b ↔ a = b := Option.some_inj

theorem Form.after_natural {ok : ℕ → Bool} {a b : ℕ} :
    (Form.natural (R := R) (N := N) ok).after a = some b ↔ a = b := Option.some_inj

theorem Form.after_choice {written : α → Text} {values : List α}
    {hfind : ∀ a, values.find? (fun b => written b == written a) = some a}
    {hplain : ∀ a, IsPlainText (written a)} {a b : α} :
    (Form.choice (R := R) (N := N) written values hfind hplain).after a = some b ↔ a = b :=
  Option.some_inj

theorem Fields.after_optionalField {name : String} {F : Form R N α}
    {hkeeps : ∀ a, F.after a = some a} {a b : Option α} :
    (Fields.optionalField name F hkeeps).after a = some b ↔ a = b := Option.some_inj

/-- Items are read back one by one. -/
theorem Form.exists_after_list {F : Form R N α} {minimum maximum : ℕ} {items : List α}
    (h : ∀ item ∈ items, ∃ other, F.after item = some other) :
    ∃ others, (F.list minimum maximum).after items = some others := by
  simp only [Form.after_list]
  induction items with
  | nil => exact ⟨[], .nil⟩
  | cons item rest ih =>
    obtain ⟨hitem, hrest⟩ := List.forall_mem_cons.mp h
    obtain ⟨other, hother⟩ := hitem
    obtain ⟨others, hothers⟩ := ih hrest
    exact ⟨other :: others, .cons hother hothers⟩

end After

/-! ## What canonicalizes -/

section Canonicalizes

variable {R : DateTimeRuntime} {N : NfcTables} {α β : Type}

/-- The dump of a value has a canonical one. -/
def Form.Canonicalizes (F : Form R N α) (a : α) : Prop :=
  ∃ value, canonicalValue R N (F.write a) = some value

def Fields.Canonicalizes (F : Fields R N α) (a : α) : Prop :=
  ∃ fields, CanonicalMembers R N (F.write a) fields

theorem Form.canonicalizes_text {ok : Text → Bool} {t : Text} :
    (Form.text (R := R) (N := N) ok).Canonicalizes t ↔ ∃ written, canonicalString R N t = some written := by
  constructor
  · rintro ⟨value, hvalue⟩
    obtain ⟨written, hwritten, _⟩ := Option.map_eq_some_iff.mp hvalue
    exact ⟨written, hwritten⟩
  · rintro ⟨written, hwritten⟩
    exact ⟨.string written, Option.map_eq_some_iff.mpr ⟨written, hwritten, rfl⟩⟩

theorem Form.canonicalizes_refine {F : Form R N α} {ok : α → Bool} {a : α} :
    (F.refine ok).Canonicalizes a ↔ F.Canonicalizes a := Iff.rfl

/-- A list canonicalizes item by item. -/
theorem Form.canonicalizes_item {F : Form R N α} {minimum maximum : ℕ} {items : List α} {item : α}
    (h : (F.list minimum maximum).Canonicalizes items) (hitem : item ∈ items) : F.Canonicalizes item := by
  obtain ⟨value, hvalue⟩ := h
  obtain ⟨values, hsame, hvalues⟩ := canonicalValue_array.mp hvalue
  rw [CanonicalItems, List.forall₂_map_left_iff] at hvalues
  clear hvalue hsame
  induction hvalues with
  | nil => cases hitem
  | cons hfirst _ ih =>
    rcases List.mem_cons.mp hitem with rfl | hrest
    · exact ⟨_, hfirst⟩
    · exact ih hrest

theorem Fields.canonicalizes_field {name : String} {F : Form R N α} {a : α} :
    (Fields.field name F).Canonicalizes a ↔ F.Canonicalizes a := by
  constructor
  · rintro ⟨fields, hfields⟩
    obtain ⟨field, _, hfield, _⟩ := List.forall₂_cons_left_iff.mp hfields
    exact ⟨_, hfield.2⟩
  · rintro ⟨value, hvalue⟩
    exact ⟨[(name.toList, value)], .cons ⟨rfl, hvalue⟩ .nil⟩

theorem Fields.canonicalizes_both {A : Fields R N α} {B : Fields R N β} {p : α × β} :
    (A.both B).Canonicalizes p ↔ A.Canonicalizes p.1 ∧ B.Canonicalizes p.2 := by
  constructor
  · rintro ⟨fields, hfields⟩
    obtain ⟨first, second, _, hfirst, hsecond⟩ := CanonicalMembers.split hfields
    exact ⟨⟨first, hfirst⟩, ⟨second, hsecond⟩⟩
  · rintro ⟨⟨first, hfirst⟩, second, hsecond⟩
    exact ⟨first ++ second, List.rel_append hfirst hsecond⟩

theorem Fields.canonicalizes_map {F : Fields R N β} {parts : α → β} {build : β → α}
    {hparts : ∀ b, parts (build b) = b} {a : α} :
    (F.map parts build hparts).Canonicalizes a ↔ F.Canonicalizes (parts a) := Iff.rfl

theorem Fields.canonicalizes_record {F : Fields R N α}
    {hnames : AreFieldNames (F.names.map Prod.fst)} {a : α} :
    (F.record hnames).Canonicalizes a ↔ F.Canonicalizes a := by
  have hwritten : AreFieldNames ((F.write a).map Prod.fst) :=
    ⟨(F.keys_sublist a).nodup hnames.1,
      fun name hname => hnames.2 name ((F.keys_sublist a).subset hname)⟩
  constructor
  · rintro ⟨value, hvalue⟩
    obtain ⟨fields, _, hfields⟩ := (canonicalValue_object hwritten).mp hvalue
    exact ⟨fields, hfields⟩
  · rintro ⟨fields, hfields⟩
    exact ⟨.object fields, (canonicalValue_object hwritten).mpr ⟨fields, rfl, hfields⟩⟩

end Canonicalizes

/-! ## Canonical bytes -/

namespace Form

variable {R : DateTimeRuntime} {N : NfcTables} {α : Type} {F : Form R N α} {a b : α} {bytes : Text}

/-- `canonical_bytes()`: the text whose UTF-8 they are; `none` is an exception. -/
def canonicalBytes (F : Form R N α) (a : α) : Option Text :=
  (canonicalDump R N (F.write a)).map (· ++ ['\n'])

/-- `model_validate_json` on a text gives a value. -/
def Reads (F : Form R N α) (bytes : Text) (a : α) : Prop :=
  ∃ value, bytes = valueText value ++ ['\n'] ∧ F.read value = some a

theorem canonicalBytes_eq_some :
    F.canonicalBytes a = some bytes ↔
      ∃ value, canonicalValue R N (F.write a) = some value ∧
        bytes = valueText (inOrder value) ++ ['\n'] := by
  rw [canonicalBytes, canonicalDump, Option.map_map, Option.map_eq_some_iff]
  exact exists_congr fun value => and_congr_right fun _ => eq_comm

theorem canonicalizes_of_bytes (h : F.canonicalBytes a = some bytes) : F.Canonicalizes a := by
  obtain ⟨value, hvalue, _⟩ := canonicalBytes_eq_some.mp h
  exact ⟨value, hvalue⟩

/-- The only value that is read from canonical bytes. -/
theorem reads_canonicalBytes (haccepts : F.accepts a = true) (h : F.canonicalBytes a = some bytes) :
    F.Reads bytes b ↔ F.after a = some b := by
  obtain ⟨value, hvalue, rfl⟩ := canonicalBytes_eq_some.mp h
  have hread := F.read_canonical haccepts hvalue
  constructor
  · rintro ⟨other, htext, hother⟩
    have hsame : inOrder value = other := valueText_injective (List.append_cancel_right htext)
    rw [← hread, hsame, hother]
  · intro hafter
    exact ⟨_, rfl, hread.trans hafter⟩

/-- What is read back has the same canonical bytes. -/
theorem canonicalBytes_after (haccepts : F.accepts a = true) (hafter : F.after a = some b)
    (h : F.canonicalBytes a = some bytes) : F.canonicalBytes b = some bytes := by
  obtain ⟨value, hvalue, rfl⟩ := canonicalBytes_eq_some.mp h
  exact canonicalBytes_eq_some.mpr ⟨value, F.canonical_after haccepts hafter hvalue, rfl⟩

end Form

end AthenaContext.ContractForms
