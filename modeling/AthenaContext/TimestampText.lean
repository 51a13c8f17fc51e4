import AthenaContext.GregorianCalendar
import AthenaContext.TextNormalization
import Mathlib

/-!
# Timestamps in canonical texts

Strings that look like RFC 3339 timestamps, as the Python canonicalizer and the one of the
browser rewrite them. Both recognize the same texts; they differ in the calendar behind
them. Where releases of Python's `datetime` differ, the runtime is a parameter.
-/

namespace AthenaContext.TimestampText

open GregorianCalendar TextNormalization

/-! ## Digits -/

/-- The number that decimal digits stand for. -/
def digitsValue (digits : Text) : ℕ := Nat.ofDigitChars 10 digits 0

/-- A number in so many digits, its last ones. -/
def padded : ℕ → ℕ → Text
  | 0, _ => []
  | width + 1, n => padded width (n / 10) ++ [Nat.digitChar (n % 10)]

variable {n width : ℕ} {digits t rest : Text}

@[simp] theorem length_padded : (padded width n).length = width := by
  induction width generalizing n with
  | zero => rfl
  | succ width ih => rw [padded, List.length_append, ih, List.length_singleton]

theorem digitsValue_concat {c : Char} :
    digitsValue (digits ++ [c]) = 10 * digitsValue digits + (c.toNat - '0'.toNat) := by
  rw [digitsValue, Nat.ofDigitChars_append, Nat.ofDigitChars_cons, Nat.ofDigitChars_nil]
  rfl

theorem digitsValue_padded (h : n < 10 ^ width) : digitsValue (padded width n) = n := by
  induction width generalizing n with
  | zero =>
    have hn : n = 0 := by simpa using h
    rw [hn]
    rfl
  | succ width ih =>
    have hlt : n / 10 < 10 ^ width := by
      rw [Nat.div_lt_iff_lt_mul (by decide)]
      exact h
    have hdigit := Nat.toNat_digitChar_sub_48_of_lt_ten (Nat.mod_lt n (show 0 < 10 by decide))
    have hzero : '0'.toNat = 48 := rfl
    rw [padded, digitsValue_concat, ih hlt, hzero, hdigit]
    omega

theorem digit_of_isDigit {c : Char} (h : c.isDigit = true) :
    c.toNat - '0'.toNat < 10 ∧ Nat.digitChar (c.toNat - '0'.toNat) = c := by
  have hall : ∀ n : Fin 128, (Char.ofNat n).isDigit = true →
      (Char.ofNat n).toNat - '0'.toNat < 10 ∧
        Nat.digitChar ((Char.ofNat n).toNat - '0'.toNat) = Char.ofNat n := by decide
  have hc : c.toNat < 128 := by
    simp only [Char.isDigit, Bool.and_eq_true, decide_eq_true_eq, UInt32.le_iff_toNat_le,
      ge_iff_le] at h
    have hvalue : c.toNat = c.val.toNat := rfl
    have hnine : '9'.val.toNat = 57 := rfl
    omega
  exact ascii_forall (P := fun c => c.isDigit = true → c.toNat - '0'.toNat < 10 ∧
    Nat.digitChar (c.toNat - '0'.toNat) = c) hall c hc h

/-- Digits are the padded text of their number. -/
theorem padded_digitsValue (h : digits.all Char.isDigit = true) :
    padded digits.length (digitsValue digits) = digits := by
  induction digits using List.reverseRecOn with
  | nil => rfl
  | append_singleton digits c ih =>
    rw [List.all_append, Bool.and_eq_true, List.all_cons, List.all_nil, Bool.and_true] at h
    obtain ⟨hlt, hc⟩ := digit_of_isDigit h.2
    rw [List.length_append, List.length_singleton, padded, digitsValue_concat]
    have hdiv : (10 * digitsValue digits + (c.toNat - '0'.toNat)) / 10 = digitsValue digits := by
      omega
    have hmod : (10 * digitsValue digits + (c.toNat - '0'.toNat)) % 10 = c.toNat - '0'.toNat := by
      omega
    rw [hdiv, hmod, ih h.1, hc]

theorem all_padded : (padded width n).all Char.isDigit = true := by
  induction width generalizing n with
  | zero => rfl
  | succ width ih =>
    have hall : ∀ k : Fin 10, (Nat.digitChar k).isDigit = true := by decide
    rw [padded, List.all_append, ih]
    simpa using hall ⟨n % 10, Nat.mod_lt n (by decide)⟩

/-! ## Recognition -/

/-- So many digits at the front of a text. -/
def readDigits (width : ℕ) (t : Text) : Option (Text × Text) :=
  if (t.take width).length = width ∧ (t.take width).all Char.isDigit = true then
    some (t.take width, t.drop width)
  else none

/-- A fixed character at the front of a text. -/
def readMark (mark : Char) : Text → Option Text
  | c :: rest => if c = mark then some rest else none
  | [] => none

/-- The digits of a date and a time. -/
structure DateTimeDigits where
  year : Text
  month : Text
  day : Text
  hour : Text
  minute : Text
  second : Text
  deriving DecidableEq

/-- The text of the digits. -/
def DateTimeDigits.text (d : DateTimeDigits) : Text :=
  d.year ++ '-' :: (d.month ++ '-' :: (d.day ++ 'T' :: (d.hour ++ ':' :: (d.minute ++ ':' :: d.second))))

/-- `_ISO_DATETIME_PREFIX_RE`, `TIMESTAMP_PREFIX`: the digits, and the rest of the text. -/
def readDateTime (t : Text) : Option (DateTimeDigits × Text) := do
  let (year, t) ← readDigits 4 t
  let t ← readMark '-' t
  let (month, t) ← readDigits 2 t
  let t ← readMark '-' t
  let (day, t) ← readDigits 2 t
  let t ← readMark 'T' t
  let (hour, t) ← readDigits 2 t
  let t ← readMark ':' t
  let (minute, t) ← readDigits 2 t
  let t ← readMark ':' t
  let (second, t) ← readDigits 2 t
  pure (⟨year, month, day, hour, minute, second⟩, t)

/-- The zone of a timestamp. -/
inductive Zone
  | utc
  | offset (ahead : Bool) (hours minutes : ℕ)
  deriving DecidableEq

/-- `Z` or an offset, to the end of the text. -/
def readZone : Text → Option Zone
  | ['Z'] => some .utc
  | sign :: t =>
    if sign = '+' ∨ sign = '-' then do
      let (hours, t) ← readDigits 2 t
      let t ← readMark ':' t
      let (minutes, t) ← readDigits 2 t
      if t = [] then some (.offset (sign = '+') (digitsValue hours) (digitsValue minutes)) else none
    else none
  | [] => none

/-- The groups of a timestamp. -/
structure TimestampMatch where
  digits : DateTimeDigits
  fraction : Option Text
  zone : Zone
  deriving DecidableEq

/-- What follows the seconds: a fraction and the zone. -/
def readFractionZone : Text → Option (Option Text × Zone)
  | '.' :: t =>
    if t.takeWhile Char.isDigit = [] then none
    else (readZone (t.dropWhile Char.isDigit)).map fun zone => (some (t.takeWhile Char.isDigit), zone)
  | t => (readZone t).map fun zone => (none, zone)

/-- `_ISO_DATETIME_RE.fullmatch`, `TIMESTAMP.exec`. -/
def matchTimestamp (t : Text) : Option TimestampMatch := do
  let (digits, t) ← readDateTime t
  let (fraction, zone) ← readFractionZone t
  pure ⟨digits, fraction, zone⟩

/-! ## Spelling -/

theorem readDigits_eq_some {value : Text} :
    readDigits width t = some (value, rest) ↔
      t = value ++ rest ∧ value.length = width ∧ value.all Char.isDigit = true := by
  rw [readDigits]
  constructor
  · intro h
    split at h
    case isTrue hdigits =>
      obtain ⟨rfl, rfl⟩ := Prod.mk.inj (Option.some.inj h)
      exact ⟨(List.take_append_drop width t).symm, hdigits⟩
    case isFalse => cases h
  · rintro ⟨rfl, rfl, hdigits⟩
    rw [List.take_left, List.drop_left, if_pos ⟨rfl, hdigits⟩]

theorem readMark_eq_some {mark : Char} : readMark mark t = some rest ↔ t = mark :: rest := by
  cases t with
  | nil => simp [readMark]
  | cons c t => simp [readMark]

/-- Each field has its digits. -/
structure DateTimeDigits.WellFormed (d : DateTimeDigits) : Prop where
  year : d.year.length = 4 ∧ d.year.all Char.isDigit = true
  month : d.month.length = 2 ∧ d.month.all Char.isDigit = true
  day : d.day.length = 2 ∧ d.day.all Char.isDigit = true
  hour : d.hour.length = 2 ∧ d.hour.all Char.isDigit = true
  minute : d.minute.length = 2 ∧ d.minute.all Char.isDigit = true
  second : d.second.length = 2 ∧ d.second.all Char.isDigit = true

theorem readDateTime_eq_some {d : DateTimeDigits} :
    readDateTime t = some (d, rest) ↔ t = d.text ++ rest ∧ d.WellFormed := by
  obtain ⟨year, month, day, hour, minute, second⟩ := d
  simp only [readDateTime, Option.bind_eq_bind, Option.bind_eq_some_iff, Prod.exists,
    readDigits_eq_some, readMark_eq_some, Option.pure_def, Option.some.injEq, Prod.mk.injEq,
    DateTimeDigits.mk.injEq]
  constructor
  · rintro ⟨year, t, ⟨rfl, hy⟩, t, rfl, month, t, ⟨rfl, hmo⟩, t, rfl, day, t, ⟨rfl, hd⟩, t, rfl,
      hour, t, ⟨rfl, hh⟩, t, rfl, minute, t, ⟨rfl, hmi⟩, t, rfl, second, t, ⟨rfl, hs⟩,
      ⟨rfl, rfl, rfl, rfl, rfl, rfl⟩, rfl⟩
    refine ⟨?_, hy, hmo, hd, hh, hmi, hs⟩
    simp only [DateTimeDigits.text, List.append_assoc, List.cons_append]
  · rintro ⟨rfl, hy, hmo, hd, hh, hmi, hs⟩
    simp only [DateTimeDigits.text, List.append_assoc, List.cons_append]
    exact ⟨year, _, ⟨rfl, hy⟩, _, rfl, month, _, ⟨rfl, hmo⟩, _, rfl, day, _, ⟨rfl, hd⟩, _, rfl,
      hour, _, ⟨rfl, hh⟩, _, rfl, minute, _, ⟨rfl, hmi⟩, _, rfl, second, _, ⟨rfl, hs⟩,
      ⟨rfl, rfl, rfl, rfl, rfl, rfl⟩, rfl⟩

/-- The text of a zone. -/
def Zone.text : Zone → Text
  | .utc => ['Z']
  | .offset ahead hours minutes =>
    (if ahead then '+' else '-') :: (padded 2 hours ++ ':' :: padded 2 minutes)

/-- The fields of an offset have two digits. -/
def Zone.WellFormed : Zone → Prop
  | .utc => True
  | .offset _ hours minutes => hours < 100 ∧ minutes < 100

theorem digitsValue_lt (h : digits.all Char.isDigit = true) :
    digitsValue digits < 10 ^ digits.length := by
  induction digits using List.reverseRecOn with
  | nil => decide
  | append_singleton digits c ih =>
    rw [List.all_append, Bool.and_eq_true, List.all_cons, List.all_nil, Bool.and_true] at h
    have hlt := (digit_of_isDigit h.2).1
    have hrest := ih h.1
    rw [digitsValue_concat, List.length_append, List.length_singleton, Nat.pow_succ]
    omega

theorem readZone_eq_some {zone : Zone} :
    readZone t = some zone ↔ t = zone.text ∧ zone.WellFormed := by
  constructor
  · intro h
    rw [readZone.eq_def] at h
    split at h
    case h_1 =>
      rw [← Option.some.inj h]
      exact ⟨rfl, trivial⟩
    case h_2 sign t _ =>
      split at h
      case isTrue hsign =>
        simp only [Option.bind_eq_bind, Option.bind_eq_some_iff, Prod.exists, readDigits_eq_some,
          readMark_eq_some, Option.ite_none_right_eq_some, Option.some.injEq] at h
        obtain ⟨hours, t, ⟨rfl, hh, hh'⟩, t, rfl, minutes, t, ⟨rfl, hm, hm'⟩, rfl, rfl⟩ := h
        have hhours := padded_digitsValue hh'
        have hminutes := padded_digitsValue hm'
        rw [hh] at hhours
        rw [hm] at hminutes
        have hlt := digitsValue_lt hh'
        have hlt' := digitsValue_lt hm'
        rw [hh] at hlt
        rw [hm] at hlt'
        refine ⟨?_, hlt, hlt'⟩
        rw [Zone.text, hhours, hminutes, List.append_nil]
        rcases hsign with rfl | rfl <;> rfl
      case isFalse => cases h
    case h_3 => cases h
  · rintro ⟨rfl, hzone⟩
    cases zone with
    | utc => rfl
    | offset ahead hours minutes =>
      have hhours : digitsValue (padded 2 hours) = hours := digitsValue_padded hzone.1
      have hminutes : digitsValue (padded 2 minutes) = minutes := digitsValue_padded hzone.2
      have hread : ∀ rest, readDigits 2 (padded 2 hours ++ rest) = some (padded 2 hours, rest) :=
        fun rest => readDigits_eq_some.mpr ⟨rfl, length_padded, all_padded⟩
      have hread' : readDigits 2 (padded 2 minutes) = some (padded 2 minutes, []) :=
        readDigits_eq_some.mpr ⟨(List.append_nil _).symm, length_padded, all_padded⟩
      cases ahead
      all_goals
        simp [Zone.text, readZone, hread, hread', readMark, hhours, hminutes]

/-- The text of a fraction. -/
def fractionText : Option Text → Text
  | none => []
  | some digits => '.' :: digits

/-- A fraction has digits, and only these. -/
def FractionWellFormed (fraction : Option Text) : Prop :=
  ∀ digits ∈ fraction, digits ≠ [] ∧ digits.all Char.isDigit = true

/-- A zone starts with a mark that no fraction has. -/
theorem Zone.text_head (zone : Zone) :
    ∃ c rest, zone.text = c :: rest ∧ c.isDigit = false ∧ c ≠ '.' := by
  cases zone with
  | utc => exact ⟨'Z', [], rfl, rfl, by decide⟩
  | offset ahead hours minutes =>
    cases ahead
    · exact ⟨'-', _, rfl, rfl, by decide⟩
    · exact ⟨'+', _, rfl, rfl, by decide⟩

theorem takeWhile_zone {zone : Zone} (h : digits.all Char.isDigit = true) :
    (digits ++ zone.text).takeWhile Char.isDigit = digits ∧
      (digits ++ zone.text).dropWhile Char.isDigit = zone.text := by
  obtain ⟨c, rest, htext, hdigit, -⟩ := zone.text_head
  have hall : ∀ d ∈ digits, d.isDigit = true := List.all_eq_true.mp h
  rw [List.takeWhile_append_of_pos hall, List.dropWhile_append_of_pos hall, htext,
    List.takeWhile_cons_of_neg (by simp [hdigit]), List.dropWhile_cons_of_neg (by simp [hdigit])]
  exact ⟨List.append_nil _, rfl⟩

theorem readFractionZone_eq_some {fraction : Option Text} {zone : Zone} :
    readFractionZone t = some (fraction, zone) ↔
      t = fractionText fraction ++ zone.text ∧ FractionWellFormed fraction ∧ zone.WellFormed := by
  constructor
  · intro h
    rw [readFractionZone.eq_def] at h
    split at h
    case h_1 t =>
      split at h
      case isTrue => cases h
      case isFalse hne =>
        simp only [Option.map_eq_some_iff, readZone_eq_some, Prod.mk.injEq] at h
        obtain ⟨zone, ⟨hrest, hzone⟩, rfl, rfl⟩ := h
        refine ⟨?_, ?_, hzone⟩
        · rw [fractionText, ← hrest, List.cons_append, List.takeWhile_append_dropWhile]
        · rintro digits ⟨rfl⟩
          exact ⟨hne, List.all_takeWhile⟩
    case h_2 =>
      simp only [Option.map_eq_some_iff, readZone_eq_some, Prod.mk.injEq] at h
      obtain ⟨zone, ⟨rfl, hzone⟩, rfl, rfl⟩ := h
      exact ⟨rfl, (fun digits hd => nomatch hd), hzone⟩
  · rintro ⟨rfl, hfraction, hzone⟩
    cases fraction with
    | none =>
      obtain ⟨c, rest, htext, -, hdot⟩ := zone.text_head
      rw [fractionText, List.nil_append, readFractionZone.eq_def]
      split
      case h_1 t heq =>
        rw [htext] at heq
        exact absurd (List.head_eq_of_cons_eq heq) hdot
      case h_2 => rw [readZone_eq_some.mpr ⟨rfl, hzone⟩, Option.map_some]
    | some digits =>
      obtain ⟨hne, hdigits⟩ := hfraction digits rfl
      obtain ⟨htake, hdrop⟩ : _ ∧ (digits ++ zone.text).dropWhile Char.isDigit = zone.text :=
        takeWhile_zone hdigits
      rw [fractionText, List.cons_append, readFractionZone, htake, hdrop, if_neg hne,
        readZone_eq_some.mpr ⟨rfl, hzone⟩, Option.map_some]

/-- The text of a timestamp. -/
def TimestampMatch.text (m : TimestampMatch) : Text :=
  m.digits.text ++ (fractionText m.fraction ++ m.zone.text)

structure TimestampMatch.WellFormed (m : TimestampMatch) : Prop where
  digits : m.digits.WellFormed
  fraction : FractionWellFormed m.fraction
  zone : m.zone.WellFormed

/-- The groups of a timestamp spell it, and no text has two spellings. -/
theorem matchTimestamp_eq_some {m : TimestampMatch} :
    matchTimestamp t = some m ↔ t = m.text ∧ m.WellFormed := by
  obtain ⟨digits, fraction, zone⟩ := m
  simp only [matchTimestamp, Option.bind_eq_bind, Option.bind_eq_some_iff, Prod.exists,
    readDateTime_eq_some, readFractionZone_eq_some, Option.pure_def, Option.some.injEq,
    TimestampMatch.mk.injEq]
  constructor
  · rintro ⟨digits, _, ⟨rfl, hdigits⟩, fraction, zone, ⟨rfl, hfraction, hzone⟩, rfl, rfl, rfl⟩
    exact ⟨rfl, hdigits, hfraction, hzone⟩
  · rintro ⟨rfl, hdigits, hfraction, hzone⟩
    exact ⟨digits, _, ⟨rfl, hdigits⟩, fraction, zone, ⟨rfl, hfraction, hzone⟩, rfl, rfl, rfl⟩

/-- A fraction that is more precise than milliseconds. -/
def isTooPrecise (fraction : Text) : Bool :=
  3 < fraction.length && (6 < fraction.length || (fraction.drop 3).any fun digit => digit ≠ '0')

/-- So many digits of a fraction, filled with zeros. -/
def fractionDigits (width : ℕ) (fraction : Option Text) : Text :=
  let digits := (fraction.getD []).take width
  digits ++ List.replicate (width - digits.length) '0'

namespace TimestampMatch

variable (m : TimestampMatch)

def year : ℕ := digitsValue m.digits.year
def month : ℕ := digitsValue m.digits.month
def day : ℕ := digitsValue m.digits.day
def hour : ℕ := digitsValue m.digits.hour
def minute : ℕ := digitsValue m.digits.minute
def second : ℕ := digitsValue m.digits.second

/-- The microseconds that Python reads. -/
def microsecond : ℕ := digitsValue (fractionDigits 6 m.fraction)

/-- The milliseconds that the browser reads. -/
def millisecond : ℕ := digitsValue (fractionDigits 3 m.fraction)

end TimestampMatch

/-- The minutes by which a zone is ahead of UTC. -/
def Zone.minutesAhead : Zone → ℤ
  | .utc => 0
  | .offset true hours minutes => hours * 60 + minutes
  | .offset false hours minutes => -(hours * 60 + minutes)

/-- The time of UTC, in milliseconds from the start of the year 1. -/
def utcMilliseconds (local_ : ℕ) (zone : Zone) : ℤ := local_ - zone.minutesAhead * 60000

/-- The first instant behind the year 9999. -/
def endOfTime : ℤ := daysBeforeYear 10000 * dayMilliseconds

/-- A moment of UTC with a given text of its year. -/
def utcText (year : Text) (m : Moment) : Text :=
  year ++ '-' :: (padded 2 m.month ++ '-' :: (padded 2 m.day ++ 'T' :: (padded 2 m.hour ++ ':' ::
    (padded 2 m.minute ++ ':' :: (padded 2 m.second ++ '.' :: (padded 3 m.millisecond ++ ['Z']))))))

/-! ## Python -/

/-- Where releases of Python's `datetime` differ: `24:00:00` as the start of the next day,
minutes of an offset above 59, and years below 1000 that `strftime` pads. -/
structure DateTimeRuntime where
  midnight : Bool
  wideMinutes : Bool
  padsYear : Bool

variable (R : DateTimeRuntime)

/-- The offset that `fromisoformat` accepts: less than a day. -/
def isPythonOffset : Zone → Bool
  | .utc => true
  | .offset _ hours minutes => hours * 60 + minutes < 1440 && (R.wideMinutes || minutes ≤ 59)

/-- `datetime.fromisoformat`: the local time in milliseconds; `none` is a `ValueError`. -/
def fromIsoFormat (m : TimestampMatch) : Option ℕ :=
  let moment : Moment :=
    ⟨m.year, m.month, m.day, m.hour, m.minute, m.second, m.microsecond / 1000⟩
  if isPythonOffset R m.zone = false then none
  else if moment.Valid then some moment.milliseconds
  else if R.midnight ∧ m.hour = 24 ∧ m.minute = 0 ∧ m.second = 0 ∧ m.microsecond = 0 ∧
      ValidDate m.year m.month m.day ∧ ¬ (m.year = 9999 ∧ m.month = 12 ∧ m.day = 31) then
    some moment.milliseconds
  else none

/-- `strftime("%Y")`. -/
def pythonYear (year : ℕ) : Text := if R.padsYear then padded 4 year else Nat.toDigits 10 year

/-- `_normalize_datetime_string`; `none` is an exception. -/
def normalizeDatetimeString (t : Text) : Option Text :=
  match matchTimestamp t with
  | none => if (readDateTime t).isSome then none else some t
  | some m =>
    if (m.fraction.any isTooPrecise) = true then some t
    else
      match fromIsoFormat R m with
      | none => some t
      | some local_ =>
        let utc := utcMilliseconds local_ m.zone
        -- `astimezone` raises `OverflowError` outside of the years 1 to 9999
        if utc < 0 ∨ endOfTime ≤ utc then none
        else if m.microsecond % 1000 ≠ 0 then none
        else
          let moment := momentAt utc.toNat
          some (utcText (pythonYear R moment.year) moment)

/-! ## The browser -/

/-- `Date.UTC`, which takes the years 0 to 99 for years of the twentieth century. -/
def dateUtc (m : TimestampMatch) : ℕ :=
  let year := if m.year ≤ 99 then 1900 + m.year else m.year
  (⟨year, m.month, m.day, m.hour, m.minute, m.second, m.millisecond⟩ : Moment).milliseconds

/-- The offset fields that the browser accepts. -/
def isBrowserOffset : Zone → Bool
  | .utc => true
  | .offset _ hours minutes => hours ≤ 23 && minutes ≤ 59

/-- `hasValidTimestampComponents`: the fields are in range and read back. -/
def hasValidTimestampComponents (m : TimestampMatch) : Bool :=
  m.year ≠ 0 && 1 ≤ m.month && m.month ≤ 12 && 1 ≤ m.day && m.hour ≤ 23 && m.minute ≤ 59 &&
    m.second ≤ 59 && isBrowserOffset m.zone &&
    momentAt (dateUtc m) = ⟨m.year, m.month, m.day, m.hour, m.minute, m.second, m.millisecond⟩

/-- `toISOString` of a date from the year 0 on. -/
def isoYear (year : ℕ) : Text := if year ≤ 9999 then padded 4 year else '+' :: padded 6 year

/-- `normalizeTimestamp`; `none` is an exception. -/
def normalizeTimestamp (t : Text) : Option Text :=
  match matchTimestamp t with
  | none => if (readDateTime t).isSome then none else some t
  | some m =>
    if (m.fraction.any isTooPrecise) = true then some t
    else if hasValidTimestampComponents m = false then some t
    else
      let local_ : Moment := ⟨m.year, m.month, m.day, m.hour, m.minute, m.second, m.millisecond⟩
      let moment := momentAt (utcMilliseconds local_.milliseconds m.zone).toNat
      some (utcText (isoYear moment.year) moment)

example : normalizeTimestamp "2024-02-29T23:30:00.5-01:00".toList =
    some "2024-03-01T00:30:00.500Z".toList := by decide +kernel

end AthenaContext.TimestampText
