import AthenaContext.SharedTimestamps

/-!
# Texts of instants

Instants as the contracts write them, as the canonicalizer rewrites what they write, and as
contracts and browser read it back. A runtime that does not pad years writes a year below 1000
in fewer digits, which no reader takes; the browser reads no year below 100.
-/

namespace AthenaContext.InstantTexts

open GregorianCalendar TimestampText SharedTimestamps TextNormalization

/-! ## Instants -/

/-- A `datetime` of UTC in whole milliseconds from the start of the year 1. -/
structure Instant where
  milliseconds : ℕ
  inCalendar : (milliseconds : ℤ) < endOfTime
  deriving DecidableEq

def Instant.moment (t : Instant) : Moment := momentAt t.milliseconds

def Instant.year (t : Instant) : ℕ := t.moment.year

variable (R : DateTimeRuntime)

/-- The groups of an instant, its milliseconds left out where there are none. -/
def instantMatch (year : Text) (m : Moment) : TimestampMatch where
  digits := ⟨year, padded 2 m.month, padded 2 m.day, padded 2 m.hour, padded 2 m.minute,
    padded 2 m.second⟩
  fraction := if m.millisecond = 0 then none else some (padded 3 m.millisecond)
  zone := .utc

/-- `_serialize_utc_datetime`, `_canonical_utc_datetime_text` -/
def serializeUtcDateTime (t : Instant) : Text := (instantMatch (pythonYear R t.year) t.moment).text

/-- A datetime in `_normalize_json_value`. -/
def datetimeText (t : Instant) : Text := utcText (pythonYear R t.year) t.moment

/-- A serialized instant in `_normalize_json_value`. -/
def canonicalInstantText (t : Instant) : Option Text :=
  normalizeDatetimeString R (serializeUtcDateTime R t)

/-! ## Readers -/

/-- `_UTC_DATETIME_RE.fullmatch`, `UTC_TIMESTAMP.exec` -/
def matchUtcTimestamp (t : Text) : Option TimestampMatch :=
  (matchTimestamp t).filter fun m =>
    m.fraction.all (fun digits => digits.length ≤ 3) && (m.zone = .utc || m.zone = .offset true 0 0)

/-- A field of type `UtcDateTime` from its text. -/
def parseUtcDateTime (t : Text) : Option Instant := do
  let m ← matchUtcTimestamp t
  let milliseconds ← fromIsoFormat R m
  if h : (milliseconds : ℤ) < endOfTime then some ⟨milliseconds, h⟩ else none

/-! ## Years -/

variable {R} {t : Instant}

/-- The runtime writes the year of an instant in four digits. -/
def HasFourDigits (R : DateTimeRuntime) (t : Instant) : Prop := R.padsYear = true ∨ 1000 ≤ t.year

instance : Decidable (HasFourDigits R t) := by
  unfold HasFourDigits
  exact inferInstance

theorem Instant.year_lt (t : Instant) : t.year < 10000 := year_lt_of_lt_endOfTime t.inCalendar

theorem pythonYear_of_four (h : HasFourDigits R t) : pythonYear R t.year = padded 4 t.year :=
  pythonYear_eq ((length_pythonYear t.year_lt).mpr h)

theorem wellFormed_instantMatch {m : Moment} {year : Text} (hlength : year.length = 4)
    (hdigits : year.all Char.isDigit = true) : (instantMatch year m).WellFormed := by
  refine ⟨⟨⟨hlength, hdigits⟩, ?_, ?_, ?_, ?_, ?_⟩, ?_, trivial⟩
  case refine_6 =>
    rintro digits h
    simp only [instantMatch] at h
    split at h
    · cases h
    · cases h
      exact ⟨fun hnil => absurd (congrArg List.length hnil) (by simp), all_padded⟩
  all_goals exact ⟨length_padded, all_padded⟩

theorem match_serialize (h : HasFourDigits R t) :
    matchTimestamp (serializeUtcDateTime R t) = some (instantMatch (padded 4 t.year) t.moment) := by
  rw [serializeUtcDateTime, pythonYear_of_four h]
  exact matchTimestamp_eq_some.mpr ⟨rfl, wellFormed_instantMatch length_padded all_padded⟩

/-- The digits at the front of a timestamp are its year. -/
theorem takeWhile_text {d : DateTimeDigits} {rest : Text} (h : d.year.all Char.isDigit = true) :
    (d.text ++ rest).takeWhile Char.isDigit = d.year := by
  rw [DateTimeDigits.text, List.append_assoc, List.takeWhile_append_of_pos (List.all_eq_true.mp h),
    List.cons_append, List.takeWhile_cons_of_neg (by decide), List.append_nil]

/-- A year in fewer digits is no timestamp. -/
theorem readDateTime_serialize (h : ¬ HasFourDigits R t) :
    readDateTime (serializeUtcDateTime R t) = none := by
  cases hread : readDateTime (serializeUtcDateTime R t) with
  | none => rfl
  | some pair =>
    obtain ⟨digits, rest⟩ := pair
    obtain ⟨htext, hwell⟩ := readDateTime_eq_some.mp hread
    have hfront := congrArg (List.takeWhile Char.isDigit) htext
    have hyear : (instantMatch (pythonYear R t.year) t.moment).digits.year.all Char.isDigit = true :=
      all_pythonYear t.year
    rw [serializeUtcDateTime, TimestampMatch.text, takeWhile_text hyear,
      takeWhile_text hwell.year.2] at hfront
    have hfour : (pythonYear R t.year).length = 4 := by
      have hlength := hwell.year.1
      rw [← hfront] at hlength
      exact hlength
    exact absurd ((length_pythonYear t.year_lt).mp hfour) h

theorem matchTimestamp_serialize (h : ¬ HasFourDigits R t) :
    matchTimestamp (serializeUtcDateTime R t) = none := by
  rw [matchTimestamp, readDateTime_serialize h]
  rfl

/-! ## Canonical texts -/

theorem daysInMonth_le {year month : ℕ} : daysInMonth year month ≤ 31 := by
  unfold daysInMonth
  split_ifs <;> omega

/-- Groups with the digits of a moment are that moment. -/
theorem wallMoment_of_digits {m : Moment} {groups : TimestampMatch} (hm : m.Valid)
    (hyear : m.year < 10000)
    (hdigits : groups.digits = ⟨padded 4 m.year, padded 2 m.month, padded 2 m.day, padded 2 m.hour,
      padded 2 m.minute, padded 2 m.second⟩)
    (hmillisecond : groups.millisecond = m.millisecond) : wallMoment groups = m := by
  obtain ⟨⟨_, _, hmonth, _, hday⟩, hhour, hminute, hsecond, _⟩ := hm
  have hdays : daysInMonth m.year m.month ≤ 31 := daysInMonth_le
  rw [wallMoment, hmillisecond]
  simp only [TimestampMatch.year, TimestampMatch.month, TimestampMatch.day, TimestampMatch.hour,
    TimestampMatch.minute, TimestampMatch.second, hdigits]
  rw [digitsValue_padded hyear, digitsValue_padded (by omega : m.month < 10 ^ 2),
    digitsValue_padded (by omega : m.day < 10 ^ 2), digitsValue_padded (by omega : m.hour < 10 ^ 2),
    digitsValue_padded (by omega : m.minute < 10 ^ 2),
    digitsValue_padded (by omega : m.second < 10 ^ 2)]

theorem fractionDigits_padded (n : ℕ) : fractionDigits 3 (some (padded 3 n)) = padded 3 n := by
  rw [fractionDigits, Option.getD_some, List.take_of_length_le (by rw [length_padded]),
    length_padded]
  exact List.append_nil _

theorem Instant.moment_valid (t : Instant) : t.moment.Valid := momentAt_valid t.milliseconds

/-- The groups that are written for an instant are its moment. -/
theorem wallMoment_instantMatch (t : Instant) :
    wallMoment (instantMatch (padded 4 t.year) t.moment) = t.moment := by
  refine wallMoment_of_digits t.moment_valid t.year_lt rfl ?_
  have hlt : t.moment.millisecond < 10 ^ 3 := t.moment_valid.millisecond_lt
  simp only [TimestampMatch.millisecond, instantMatch]
  split
  case isTrue hzero =>
    rw [hzero]
    rfl
  case isFalse => rw [fractionDigits_padded, digitsValue_padded hlt]

theorem wallMoment_utcMatch (t : Instant) :
    wallMoment (utcMatch (padded 4 t.year) t.moment) = t.moment := by
  refine wallMoment_of_digits t.moment_valid t.year_lt rfl ?_
  simp only [TimestampMatch.millisecond, utcMatch, fractionDigits_padded]
  exact digitsValue_padded t.moment_valid.millisecond_lt

theorem utcInstant_of_wallMoment {groups : TimestampMatch} (hzone : groups.zone = .utc)
    (h : wallMoment groups = t.moment) : utcInstant groups = t.milliseconds := by
  rw [utcInstant_of_utc hzone, h, Instant.moment, milliseconds_momentAt]

theorem utcMatch_short {year : Text} {m : Moment} :
    (utcMatch year m).fraction.any isTooPrecise = false := by
  rw [utcMatch, Option.any_some, isTooPrecise, length_padded]
  rfl

theorem instantMatch_short {year : Text} {m : Moment} :
    (instantMatch year m).fraction.any isTooPrecise = false := by
  simp only [instantMatch]
  split
  · rfl
  · rw [Option.any_some, isTooPrecise, length_padded]
    rfl

/-- A timestamp of UTC that shows the moment of an instant is written as its datetime. -/
theorem normalizeDatetimeString_of_wallMoment {text : Text} {groups : TimestampMatch}
    (hmatch : matchTimestamp text = some groups) (hshort : groups.fraction.any isTooPrecise = false)
    (hzone : groups.zone = .utc) (hwall : wallMoment groups = t.moment) :
    normalizeDatetimeString R text = some (datetimeText R t) := by
  have hvalid : (wallMoment groups).Valid := by
    rw [hwall]
    exact t.moment_valid
  have hinstant := utcInstant_of_wallMoment hzone hwall
  have hmoment : utcMoment groups = t.moment := by
    rw [utcMoment, hinstant]
    rfl
  have hrange : ¬ (utcInstant groups < 0 ∨ endOfTime ≤ utcInstant groups) := by
    have hcalendar := t.inCalendar
    omega
  have hoffset : isPythonOffset R groups.zone = true := by
    rw [hzone]
    rfl
  rw [normalizeDatetimeString_of_match hmatch hshort (fromIsoFormat_of_valid hshort hoffset hvalid),
    if_neg hrange, hmoment]
  rfl

/-- An instant in a year of four digits is written as the canonicalizer writes a datetime. -/
theorem canonicalInstantText_of_four (h : HasFourDigits R t) :
    canonicalInstantText R t = some (utcText (padded 4 t.year) t.moment) := by
  rw [canonicalInstantText, normalizeDatetimeString_of_wallMoment (match_serialize h)
    instantMatch_short rfl (wallMoment_instantMatch t), datetimeText, pythonYear_of_four h]

/-- An instant in another year is left as it is written. -/
theorem canonicalInstantText_of_not_four (h : ¬ HasFourDigits R t) :
    canonicalInstantText R t = some (serializeUtcDateTime R t) := by
  rw [canonicalInstantText, normalizeDatetimeString, matchTimestamp_serialize h,
    readDateTime_serialize h]
  rfl

/-! ## Reading back -/

theorem matchUtcTimestamp_eq_some {text : Text} {m : TimestampMatch} (h : matchTimestamp text = some m)
    (hfraction : m.fraction.all (fun digits => digits.length ≤ 3) = true) (hzone : m.zone = .utc) :
    matchUtcTimestamp text = some m := by
  rw [matchUtcTimestamp, h, Option.filter_some]
  simp [hfraction, hzone]

theorem match_utcText (t : Instant) :
    matchUtcTimestamp (utcText (padded 4 t.year) t.moment) =
      some (utcMatch (padded 4 t.year) t.moment) := by
  have hfraction : (utcMatch (padded 4 t.year) t.moment).fraction.all
      (fun digits => digits.length ≤ 3) = true := by
    simp [utcMatch]
  refine matchUtcTimestamp_eq_some (matchTimestamp_eq_some.mpr ⟨?_, ?_⟩) hfraction rfl
  · exact (utcMatch_text _ _).symm
  · refine ⟨⟨⟨length_padded, all_padded⟩, ?_, ?_, ?_, ?_, ?_⟩, ?_, trivial⟩
    case refine_6 =>
      rintro digits ⟨rfl⟩
      exact ⟨fun hnil => absurd (congrArg List.length hnil) (by simp), all_padded⟩
    all_goals exact ⟨length_padded, all_padded⟩

/-- The contracts read a canonical text of four digits back. -/
theorem parse_utcText (t : Instant) :
    parseUtcDateTime R (utcText (padded 4 t.year) t.moment) = some t := by
  have hwall := wallMoment_utcMatch t
  have hvalid : (wallMoment (utcMatch (padded 4 t.year) t.moment)).Valid := by
    rw [hwall]
    exact t.moment_valid
  have hmilliseconds : (wallMoment (utcMatch (padded 4 t.year) t.moment)).milliseconds =
      t.milliseconds := by
    rw [hwall, Instant.moment, milliseconds_momentAt]
  rw [parseUtcDateTime, Option.bind_eq_bind, match_utcText, Option.bind_some, Option.bind_eq_bind,
    fromIsoFormat_of_valid utcMatch_short rfl hvalid, Option.bind_some, hmilliseconds,
    dif_pos t.inCalendar]

/-- Neither reads a year in fewer digits. -/
theorem matchUtcTimestamp_serialize (h : ¬ HasFourDigits R t) :
    matchUtcTimestamp (serializeUtcDateTime R t) = none := by
  rw [matchUtcTimestamp, matchTimestamp_serialize h]
  rfl

/-! ## The browser keeps what Python writes -/

/-- A text with a year that is not of four digits is no timestamp. -/
theorem readDateTime_utcText {year : Text} {m : Moment} (hdigits : year.all Char.isDigit = true)
    (h : year.length ≠ 4) : readDateTime (utcText year m) = none := by
  cases hread : readDateTime (utcText year m) with
  | none => rfl
  | some pair =>
    obtain ⟨digits, rest⟩ := pair
    obtain ⟨htext, hwell⟩ := readDateTime_eq_some.mp hread
    have hfront := congrArg (List.takeWhile Char.isDigit) htext
    rw [takeWhile_text hwell.year.2, utcText,
      List.takeWhile_append_of_pos (List.all_eq_true.mp hdigits),
      List.takeWhile_cons_of_neg (by decide), List.append_nil] at hfront
    exact absurd (hfront ▸ hwell.year.1) h

/-! ## Canonical texts stay -/

theorem isAscii_digits {digits : Text} (h : digits.all Char.isDigit = true) : IsAscii digits := by
  intro c hc
  have hdigit := List.all_eq_true.mp h c hc
  simp only [Char.isDigit, Bool.and_eq_true, decide_eq_true_eq] at hdigit
  have hle : c.toNat ≤ 57 := hdigit.2
  omega

theorem IsAscii.append {a b : Text} (ha : IsAscii a) (hb : IsAscii b) : IsAscii (a ++ b) := by
  intro c hc
  rcases List.mem_append.mp hc with h | h
  · exact ha c h
  · exact hb c h

theorem isAscii_cons {c : Char} {rest : Text} (hc : c.toNat < 128) (h : IsAscii rest) :
    IsAscii (c :: rest) := by
  intro d hd
  rcases List.mem_cons.mp hd with rfl | hrest
  · exact hc
  · exact h d hrest

theorem isAscii_utcText {year : Text} {m : Moment} (h : year.all Char.isDigit = true) :
    IsAscii (utcText year m) := by
  have hpadded : ∀ width n, IsAscii (padded width n) := fun _ _ => isAscii_digits all_padded
  rw [utcText]
  repeat' first
    | exact hpadded _ _
    | exact isAscii_digits h
    | exact (by decide : IsAscii ['Z'])
    | apply IsAscii.append
    | apply isAscii_cons (by decide)

theorem isAscii_serialize (t : Instant) : IsAscii (serializeUtcDateTime R t) := by
  have hpadded : ∀ width n, IsAscii (padded width n) := fun _ _ => isAscii_digits all_padded
  have hfraction : IsAscii (fractionText (instantMatch (pythonYear R t.year) t.moment).fraction) := by
    simp only [instantMatch]
    split
    · exact nofun
    · exact isAscii_cons (by decide) (hpadded _ _)
  rw [serializeUtcDateTime, TimestampMatch.text, DateTimeDigits.text]
  repeat' first
    | exact hfraction
    | exact hpadded _ _
    | exact isAscii_digits (all_pythonYear t.year)
    | exact (by decide : IsAscii ['Z'])
    | apply IsAscii.append
    | apply isAscii_cons (by decide)

/-- What the Python canonicalizer makes of a string: the string or the text of an instant. -/
theorem normalizeDatetimeString_cases {text written : Text}
    (h : normalizeDatetimeString R text = some written) :
    written = text ∨ ∃ t : Instant, written = datetimeText R t := by
  cases hm : matchTimestamp text with
  | none =>
    simp only [normalizeDatetimeString, hm] at h
    split at h
    · cases h
    · exact .inl (Option.some.inj h).symm
  | some m =>
    cases hp : m.fraction.any isTooPrecise with
    | true =>
      simp only [normalizeDatetimeString, hm, hp, if_true] at h
      exact .inl (Option.some.inj h).symm
    | false =>
      cases hiso : fromIsoFormat R m with
      | none =>
        simp only [normalizeDatetimeString, hm, hp, hiso, Bool.false_eq_true, if_false] at h
        exact .inl (Option.some.inj h).symm
      | some wall =>
        obtain ⟨_, rfl, _⟩ := fromIsoFormat_eq_some hp hiso
        rw [normalizeDatetimeString_of_match hm hp hiso] at h
        split at h
        · cases h
        · next hrange =>
          cases h
          have hcalendar : ((utcInstant m).toNat : ℤ) < endOfTime := by omega
          exact .inr ⟨⟨(utcInstant m).toNat, hcalendar⟩, rfl⟩

/-- The Python canonicalizer leaves the text of an instant as it is. -/
theorem normalizeDatetimeString_datetimeText (t : Instant) :
    normalizeDatetimeString R (datetimeText R t) = some (datetimeText R t) := by
  by_cases h : HasFourDigits R t
  · have htext : datetimeText R t = utcText (padded 4 t.year) t.moment := by
      rw [datetimeText, pythonYear_of_four h]
    have hmatch : matchTimestamp (datetimeText R t) = some (utcMatch (padded 4 t.year) t.moment) := by
      rw [htext]
      exact (Option.filter_eq_some_iff.mp (match_utcText t)).1
    exact normalizeDatetimeString_of_wallMoment hmatch utcMatch_short rfl (wallMoment_utcMatch t)
  · have hfour : (pythonYear R t.year).length ≠ 4 := fun hlength =>
      h ((length_pythonYear t.year_lt).mp hlength)
    have hread := readDateTime_utcText (m := t.moment) (all_pythonYear (R := R) t.year) hfour
    rw [normalizeDatetimeString, datetimeText, matchTimestamp, hread]
    rfl

end AthenaContext.InstantTexts
