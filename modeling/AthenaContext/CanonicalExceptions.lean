import AthenaContext.ContractPatterns
import AthenaContext.FallibleResults

/-!
# Exceptions of canonical JSON

The values that `json.loads` returns, their canonicalization, and which exception leaves it.
A caller that takes value and type errors does not take the overflow of a timestamp before
the year 1 or behind the year 9999, nor a walk that runs out of stack.
-/

namespace AthenaContext.CanonicalExceptions

open TextNormalization TimestampText ContractPatterns GregorianCalendar

/-! ## Exceptions -/

/-- The classes that handlers tell apart. Those of `UnicodeDecodeError` and `JSONDecodeError` are
value errors too. -/
inductive ExceptionClass
  | changeIngestionError | decodeError | valueError | typeError | other
  deriving DecidableEq, Repr

/-- An exception. -/
structure Raised where
  cls : ExceptionClass
  message : String
  deriving DecidableEq, Repr

/-- `ChangeIngestionError`. -/
def changeIngestionError (message : String) : Raised := ⟨.changeIngestionError, message⟩

/-- `except (ChangeIngestionError, ValueError)`. -/
def Raised.IsRejection (e : Raised) : Prop :=
  e.cls = .changeIngestionError ∨ e.cls = .decodeError ∨ e.cls = .valueError

instance (e : Raised) : Decidable e.IsRejection := inferInstanceAs (Decidable (_ ∨ _ ∨ _))

/-- `except (TypeError, ValueError, UnicodeError)`. -/
def Raised.IsValueOrType (e : Raised) : Prop :=
  e.cls = .decodeError ∨ e.cls = .valueError ∨ e.cls = .typeError

instance (e : Raised) : Decidable e.IsValueOrType := inferInstanceAs (Decidable (_ ∨ _ ∨ _))

/-! ## Classes of exceptions -/

/-- A computation raises one class of exceptions only. -/
def RaisesOnly {α : Type} (cls : ExceptionClass) (x : Except Raised α) : Prop :=
  ∀ e, x = .error e → e.cls = cls

section Classes

variable {α β : Type} {cls : ExceptionClass} {x : Except Raised α}

theorem raisesOnly_ok {a : α} : RaisesOnly cls (.ok a : Except Raised α) := by
  intro e he
  cases he

theorem raisesOnly_error {e : Raised} (h : e.cls = cls) :
    RaisesOnly cls (.error e : Except Raised α) := by
  intro e' he
  cases he
  exact h

theorem RaisesOnly.map (h : RaisesOnly cls x) (f : α → β) : RaisesOnly cls (x.map f) := by
  intro e he
  cases x with
  | error e' =>
    cases he
    exact h e rfl
  | ok a => cases he

theorem RaisesOnly.bind {f : α → Except Raised β} (h : RaisesOnly cls x)
    (hf : ∀ a, x = .ok a → RaisesOnly cls (f a)) : RaisesOnly cls (x >>= f) := by
  intro e he
  cases hx : x with
  | error e' =>
    rw [hx] at he
    cases he
    exact h e hx
  | ok a =>
    rw [hx] at he
    exact hf a hx e he

theorem RaisesOnly.ite {p : Prop} [Decidable p] {y : Except Raised α} (hx : RaisesOnly cls x)
    (hy : RaisesOnly cls y) : RaisesOnly cls (if p then x else y) := by
  by_cases hp : p
  · rw [if_pos hp]
    exact hx
  · rw [if_neg hp]
    exact hy

end Classes

/-! ## Values -/

/-- A code point of a string; `json.loads` keeps lone surrogates. -/
inductive CodePoint
  | scalar (c : Char)
  | surrogate (n : Fin 2048)
  deriving DecidableEq, Repr

/-- A string as `json.loads` returns it. -/
abbrev LoadedString := List CodePoint

/-- The scalar that a code point is. -/
def CodePoint.toChar? : CodePoint → Option Char
  | .scalar c => some c
  | .surrogate _ => none

/-- The text of a string without surrogates. -/
def scalarText (s : LoadedString) : Option Text := s.mapM CodePoint.toChar?

/-- A text as a string. -/
def loaded (t : String) : LoadedString := t.toList.map .scalar

/-- A float; a finite one that is not zero by its shortest text. -/
inductive JsonFloat
  | notANumber
  | infinite (negative : Bool)
  | zero (negative : Bool)
  | finite (text : Text)
  deriving DecidableEq, Repr

/-- A JSON value over its strings. -/
inductive JsonValue (S : Type)
  | none
  | boolean (value : Bool)
  | integer (value : ℤ)
  | float (value : JsonFloat)
  | string (value : S)
  | array (items : List (JsonValue S))
  | object (members : List (S × JsonValue S))

/-- What `json.loads` returns. -/
abbrev LoadedValue := JsonValue LoadedString

/-- `bool(value)`. -/
def JsonValue.isTruthy : LoadedValue → Bool
  | .none => false
  | .boolean value => value
  | .integer value => value ≠ 0
  | .float (.zero _) => false
  | .float _ => true
  | .string value => value ≠ []
  | .array items => !items.isEmpty
  | .object members => !members.isEmpty

/-- `left or right`. -/
def JsonValue.orElse (left right : LoadedValue) : LoadedValue := if left.isTruthy then left else right

/-- `mapping.get(key)`. -/
def get (members : List (LoadedString × LoadedValue)) (key : String) : LoadedValue :=
  (members.lookup (loaded key)).getD .none

/-- `value is not None`. -/
def JsonValue.isPresent : LoadedValue → Bool
  | .none => false
  | _ => true

/-! ## Canonicalization -/

/-- `_normalize_datetime_string`. -/
def normalizeDatetimeString (R : DateTimeRuntime) (t : Text) : Except Raised Text :=
  match matchTimestamp t with
  | none =>
    if (readDateTime t).isSome then
      .error ⟨.valueError, "timestamp text must use RFC 3339 with Z or an ±HH:MM offset"⟩
    else .ok t
  | some m =>
    if (m.fraction.any isTooPrecise) = true then .ok t
    else
      match fromIsoFormat R m with
      | none => .ok t
      | some local_ =>
        let utc := utcMilliseconds local_ m.zone
        -- `astimezone` is outside of the `try`, and its exception is no `ValueError`
        if utc < 0 ∨ endOfTime ≤ utc then .error ⟨.other, "date value out of range"⟩
        else if m.microsecond % 1000 ≠ 0 then
          .error ⟨.valueError, "timestamp precision must be exactly representable in milliseconds"⟩
        else
          let moment := momentAt utc.toNat
          .ok (utcText (pythonYear R moment.year) moment)

/-- What canonical JSON takes from the interpreter and from `rfc8785`. -/
structure JsonRuntime where
  datetime : DateTimeRuntime
  nfc : Text → Text
  /-- A walk at this depth runs out of stack at the value. -/
  exceedsStack : ℕ → LoadedValue → Bool
  /-- `rfc8785.dumps`, decoded. -/
  dumps : JsonValue Text → Except Raised Text

section Canonicalization

variable (J : JsonRuntime)

/-- `normalize_nfc_text`: composition neither adds nor removes surrogates. -/
def normalizeNfcText (s : LoadedString) : Except Raised Text :=
  match scalarText s with
  | none => .error ⟨.valueError, "unpaired surrogate in normalized text"⟩
  | some t => .ok (J.nfc t)

/-- A string of `_normalize_json_value`. -/
def normalizeString (s : LoadedString) : Except Raised Text := do
  let t ← normalizeNfcText J s
  if 'T' ∈ t then normalizeDatetimeString J.datetime t else .ok t

/-- A float of `_normalize_json_value`. -/
def normalizeFloat : JsonFloat → Except Raised JsonFloat
  | .notANumber => .error ⟨.valueError, "non-finite JSON numbers are invalid"⟩
  | .infinite _ => .error ⟨.valueError, "non-finite JSON numbers are invalid"⟩
  | .zero true => .error ⟨.valueError, "negative zero is invalid in canonical JSON"⟩
  | .zero false => .ok (.zero false)
  | .finite text => .ok (.finite text)

/-- `_MAX_SAFE_INT`. -/
def maxSafeInt : ℕ := 9007199254740991

def recursionError : Raised := ⟨.other, "maximum recursion depth exceeded"⟩

mutual

/-- `_normalize_json_value` at a depth of the walk. -/
def normalizeJsonValue (depth : ℕ) (value : LoadedValue) : Except Raised (JsonValue Text) :=
  if J.exceedsStack depth value then .error recursionError
  else
    match value with
    | .none => .ok .none
    | .boolean value => .ok (.boolean value)
    | .integer value =>
      if maxSafeInt < value.natAbs then
        .error ⟨.valueError, "numeric value exceeds IEEE-754 safe integer range"⟩
      else .ok (.integer value)
    | .float value => (normalizeFloat value).map .float
    | .string value => (normalizeString J value).map .string
    | .array items => (normalizeItems (depth + 1) items).map .array
    | .object members => (normalizeMembers (depth + 1) [] members).map .object

def normalizeItems (depth : ℕ) : List LoadedValue → Except Raised (List (JsonValue Text))
  | [] => .ok []
  | item :: rest => do
    let value ← normalizeJsonValue depth item
    let values ← normalizeItems depth rest
    .ok (value :: values)

/-- The members so far, and further ones whose names are new. -/
def normalizeMembers (depth : ℕ) (normalized : List (Text × JsonValue Text)) :
    List (LoadedString × LoadedValue) → Except Raised (List (Text × JsonValue Text))
  | [] => .ok normalized
  | (key, item) :: rest => do
    let name ← normalizeNfcText J key
    if name ∈ normalized.map Prod.fst then
      -- the text goes on with the name; no handler keeps it
      .error ⟨.valueError, "duplicate normalized object key: "⟩
    else
      let value ← normalizeJsonValue depth item
      normalizeMembers depth (normalized ++ [(name, value)]) rest

end

/-- `canonicalize_json`. -/
def canonicalizeJson (value : LoadedValue) : Except Raised Text := do
  let normalized ← normalizeJsonValue J 0 value
  J.dumps normalized

/-- `_canonical_json_bytes`. -/
def canonicalJsonBytes (label : String) (maximum : ℕ) (value : LoadedValue) : Except Raised Text :=
  match canonicalizeJson J value with
  | .error e =>
    .error (if e.IsValueOrType then changeIngestionError (label ++ " is not canonical JSON") else e)
  | .ok payload =>
    if 1 ≤ utf8Length payload ∧ utf8Length payload ≤ maximum then .ok payload
    else .error (changeIngestionError (label ++ " is outside its byte bound"))

/-! ## What leaves canonicalization -/

/-- The canonicalization of a value raises what no handler takes. -/
def Escapes (value : LoadedValue) : Prop :=
  ∃ e, canonicalizeJson J value = .error e ∧ e.cls = .other

/-- A timestamp of RFC 3339 whose time of UTC is before the year 1 or behind the year 9999. -/
def OutOfRange (R : DateTimeRuntime) (t : Text) : Prop :=
  ∃ m local_, matchTimestamp t = some m ∧ m.fraction.any isTooPrecise = false ∧
    fromIsoFormat R m = some local_ ∧
    (utcMilliseconds local_ m.zone < 0 ∨ endOfTime ≤ utcMilliseconds local_ m.zone)

variable {J} {R : DateTimeRuntime} {t : Text} {e : Raised}

/-- Only a timestamp out of range raises anything but a value error. -/
theorem normalizeDatetimeString_error (h : normalizeDatetimeString R t = .error e) :
    e.cls = .valueError ∨ OutOfRange R t := by
  unfold normalizeDatetimeString at h
  split at h
  · split at h
    · cases h
      exact .inl rfl
    · cases h
  · rename_i m hmatch
    split at h
    · cases h
    · rename_i hprecise
      split at h
      · cases h
      · rename_i local_ hlocal
        dsimp only at h
        split at h
        · rename_i hrange
          exact .inr ⟨m, local_, hmatch, eq_false_of_ne_true hprecise, hlocal, hrange⟩
        · split at h
          · cases h
            exact .inl rfl
          · cases h

theorem raisesOnly_normalizeNfcText {s : LoadedString} :
    RaisesOnly .valueError (normalizeNfcText J s) := by
  unfold normalizeNfcText
  split
  · exact raisesOnly_error rfl
  · exact raisesOnly_ok

theorem normalizeString_error {s : LoadedString} (h : normalizeString J s = .error e) :
    e.cls = .valueError ∨ ∃ t, normalizeNfcText J s = .ok t ∧ OutOfRange J.datetime t := by
  rw [normalizeString] at h
  cases hnfc : normalizeNfcText J s with
  | error e' =>
    rw [hnfc] at h
    cases h
    exact .inl (raisesOnly_normalizeNfcText e hnfc)
  | ok t =>
    rw [hnfc] at h
    have ht : (if 'T' ∈ t then normalizeDatetimeString J.datetime t else .ok t) = .error e := h
    split at ht
    · rcases normalizeDatetimeString_error ht with hvalue | hrange
      · exact .inl hvalue
      · exact .inr ⟨t, rfl, hrange⟩
    · cases ht

theorem raisesOnly_normalizeFloat {x : JsonFloat} : RaisesOnly .valueError (normalizeFloat x) := by
  cases x with
  | notANumber => exact raisesOnly_error rfl
  | infinite negative => exact raisesOnly_error rfl
  | zero negative =>
    cases negative
    · exact raisesOnly_ok
    · exact raisesOnly_error rfl
  | finite text => exact raisesOnly_ok

mutual

/-- The walk over a value runs out of stack nowhere, and meets no timestamp out of range. -/
def Walkable (J : JsonRuntime) (depth : ℕ) : LoadedValue → Prop
  | .string s => J.exceedsStack depth (.string s) = false ∧
      ∀ t, normalizeNfcText J s = .ok t → ¬ OutOfRange J.datetime t
  | .array items => J.exceedsStack depth (.array items) = false ∧ WalkableItems J (depth + 1) items
  | .object members =>
    J.exceedsStack depth (.object members) = false ∧ WalkableMembers J (depth + 1) members
  | value => J.exceedsStack depth value = false

def WalkableItems (J : JsonRuntime) (depth : ℕ) : List LoadedValue → Prop
  | [] => True
  | item :: rest => Walkable J depth item ∧ WalkableItems J depth rest

def WalkableMembers (J : JsonRuntime) (depth : ℕ) : List (LoadedString × LoadedValue) → Prop
  | [] => True
  | (_, item) :: rest => Walkable J depth item ∧ WalkableMembers J depth rest

end

theorem Walkable.stack {depth : ℕ} {value : LoadedValue} (h : Walkable J depth value) :
    J.exceedsStack depth value = false := by
  cases value with
  | string s => exact h.1
  | array items => exact h.1
  | object members => exact h.1
  | none => exact h
  | boolean value => exact h
  | integer value => exact h
  | float value => exact h

mutual

/-- A walk that gets everywhere raises value errors only. -/
theorem raisesOnly_normalizeJsonValue {depth : ℕ} {value : LoadedValue}
    (h : Walkable J depth value) : RaisesOnly .valueError (normalizeJsonValue J depth value) := by
  have hstack : ¬ J.exceedsStack depth value = true := by
    rw [h.stack]
    exact Bool.false_ne_true
  unfold normalizeJsonValue
  rw [if_neg hstack]
  match value with
  | .none => exact raisesOnly_ok
  | .boolean _ => exact raisesOnly_ok
  | .integer n => exact (raisesOnly_error rfl).ite raisesOnly_ok
  | .float x => exact raisesOnly_normalizeFloat.map _
  | .string s =>
    have hs : RaisesOnly .valueError (normalizeString J s) := by
      intro e he
      rcases normalizeString_error he with hvalue | ⟨t, ht, hrange⟩
      · exact hvalue
      · exact absurd hrange (h.2 t ht)
    exact hs.map _
  | .array items => exact (raisesOnly_normalizeItems h.2).map _
  | .object members => exact (raisesOnly_normalizeMembers h.2).map _

theorem raisesOnly_normalizeItems {depth : ℕ} {items : List LoadedValue}
    (h : WalkableItems J depth items) : RaisesOnly .valueError (normalizeItems J depth items) := by
  match items with
  | [] => exact raisesOnly_ok
  | item :: rest =>
    refine (raisesOnly_normalizeJsonValue h.1).bind fun value _ => ?_
    exact (raisesOnly_normalizeItems h.2).bind fun values _ => raisesOnly_ok

theorem raisesOnly_normalizeMembers {depth : ℕ} {normalized : List (Text × JsonValue Text)}
    {members : List (LoadedString × LoadedValue)} (h : WalkableMembers J depth members) :
    RaisesOnly .valueError (normalizeMembers J depth normalized members) := by
  match members with
  | [] => exact raisesOnly_ok
  | (key, item) :: rest =>
    have hrest : ∀ name, RaisesOnly .valueError (normalizeJsonValue J depth item >>= fun value =>
        normalizeMembers J depth (normalized ++ [(name, value)]) rest) := fun name =>
      (raisesOnly_normalizeJsonValue h.1).bind fun value _ => raisesOnly_normalizeMembers h.2
    exact raisesOnly_normalizeNfcText.bind fun name _ => (raisesOnly_error rfl).ite (hrest name)

end

/-- A value that the walk gets through does not escape where `rfc8785` raises nothing else. -/
theorem not_escapes_of_walkable {value : LoadedValue} (h : Walkable J 0 value)
    (hdumps : ∀ v e, J.dumps v = .error e → e.cls ≠ .other) : ¬ Escapes J value := by
  rintro ⟨e, he, hother⟩
  rw [canonicalizeJson] at he
  cases hwalk : normalizeJsonValue J 0 value with
  | error e' =>
    rw [hwalk] at he
    cases he
    have hvalue := raisesOnly_normalizeJsonValue h e hwalk
    rw [hother] at hvalue
    cases hvalue
  | ok v =>
    rw [hwalk] at he
    exact hdumps v e he hother

/-- Canonical bytes raise `ChangeIngestionError`, and what escapes canonicalization. -/
theorem canonicalJsonBytes_error {label : String} {maximum : ℕ} {value : LoadedValue}
    (h : canonicalJsonBytes J label maximum value = .error e) :
    e.cls = .changeIngestionError ∨ Escapes J value := by
  rw [canonicalJsonBytes] at h
  split at h
  · rename_i e' he'
    by_cases hvalue : e'.IsValueOrType
    · rw [if_pos hvalue] at h
      cases h
      exact .inl rfl
    · rw [if_neg hvalue] at h
      cases h
      have hcls : e.cls = .changeIngestionError ∨ e.cls = .other := by
        cases hc : e.cls with
        | changeIngestionError => exact .inl rfl
        | decodeError => exact absurd (.inl hc) hvalue
        | valueError => exact absurd (.inr (.inl hc)) hvalue
        | typeError => exact absurd (.inr (.inr hc)) hvalue
        | other => exact .inr rfl
      exact hcls.imp_right fun hother => ⟨e, he', hother⟩
  · split at h
    · cases h
    · cases h
      exact .inl rfl

end Canonicalization

end AthenaContext.CanonicalExceptions
