import AthenaContext.ContractForms

/-!
# Times of the incident contracts

A plain `datetime` of UTC, with its microseconds: its text in a dump, the canonical text of
that, and what a reader makes of it. Microseconds keep the canonicalizer from rewriting a text.
-/

namespace AthenaContext.EventTimes

open GregorianCalendar TimestampText SharedTimestamps TextNormalization InstantTexts
open ContractDocuments ContractForms

/-- A `datetime` of UTC: its milliseconds and the microseconds beyond them. -/
structure EventTime where
  instant : Instant
  microsecond : ℕ
  microsecond_lt : microsecond < 1000
  deriving DecidableEq

/-- A time at its full millisecond. -/
theorem no_microseconds : 0 < 1000 := by decide

/-- The microseconds of the second. -/
def EventTime.fraction (t : EventTime) : ℕ := t.instant.moment.millisecond * 1000 + t.microsecond

/-- The microseconds from the start of the year 1, by which times compare. -/
def EventTime.value (t : EventTime) : ℕ := t.instant.milliseconds * 1000 + t.microsecond

/-- The groups of a time as a dump spells it, its microseconds left out where there are none. -/
def eventMatch (t : EventTime) : TimestampMatch where
  digits := ⟨padded 4 t.instant.year, padded 2 t.instant.moment.month, padded 2 t.instant.moment.day,
    padded 2 t.instant.moment.hour, padded 2 t.instant.moment.minute, padded 2 t.instant.moment.second⟩
  fraction := if t.fraction = 0 then none else some (padded 6 t.fraction)
  zone := .utc

/-- A `datetime` field in `model_dump(mode="json")`. -/
def eventText (t : EventTime) : Text := (eventMatch t).text

/-- A `datetime` field from its text, with `_require_utc_timestamp`. Texts of RFC 3339 only:
canonical JSON has no other spelling. -/
def parseEventTime (text : Text) : Option EventTime := do
  let m ← matchTimestamp text
  if h : (wallMoment m).Valid ∧ m.zone.minutesAhead = 0 ∧
      ((wallMoment m).milliseconds : ℤ) < endOfTime then
    some ⟨⟨(wallMoment m).milliseconds, h.2.2⟩, m.microsecond % 1000, Nat.mod_lt _ (by decide)⟩
  else none

variable {R : DateTimeRuntime} {N : NfcTables} {t : EventTime}

theorem EventTime.fraction_lt (t : EventTime) : t.fraction < 10 ^ 6 := by
  have hmillisecond : t.instant.moment.millisecond < 1000 := t.instant.moment_valid.millisecond_lt
  have hmicrosecond := t.microsecond_lt
  rw [EventTime.fraction]
  omega

theorem wellFormed_eventMatch (t : EventTime) : (eventMatch t).WellFormed := by
  refine ⟨⟨⟨length_padded, all_padded⟩, ?_, ?_, ?_, ?_, ?_⟩, ?_, trivial⟩
  case refine_6 =>
    rintro digits h
    simp only [eventMatch] at h
    split at h
    · cases h
    · cases h
      exact ⟨fun hnil => absurd (congrArg List.length hnil) (by simp), all_padded⟩
  all_goals exact ⟨length_padded, all_padded⟩

theorem match_eventText (t : EventTime) : matchTimestamp (eventText t) = some (eventMatch t) :=
  matchTimestamp_eq_some.mpr ⟨rfl, wellFormed_eventMatch t⟩

/-- The first three of six digits, and the last three. -/
theorem padded_six (n : ℕ) : padded 6 n = padded 3 (n / 1000) ++
    [Nat.digitChar (n / 100 % 10), Nat.digitChar (n / 10 % 10), Nat.digitChar (n % 10)] := by
  have hfront : n / 10 / 10 / 10 = n / 1000 := by omega
  have hmiddle : n / 10 / 10 = n / 100 := by omega
  rw [padded, padded, padded, hfront, hmiddle, List.append_assoc, List.append_assoc]
  rfl

theorem millisecond_eventMatch (t : EventTime) :
    (eventMatch t).millisecond = t.instant.moment.millisecond := by
  have hlt : t.instant.moment.millisecond < 10 ^ 3 := t.instant.moment_valid.millisecond_lt
  have hmicrosecond := t.microsecond_lt
  simp only [TimestampMatch.millisecond, eventMatch]
  split
  case isTrue hzero =>
    have hmillisecond : t.instant.moment.millisecond = 0 := by
      rw [EventTime.fraction] at hzero
      omega
    rw [hmillisecond]
    rfl
  case isFalse =>
    have hfront : t.fraction / 1000 = t.instant.moment.millisecond := by
      rw [EventTime.fraction]
      omega
    have htake : fractionDigits 3 (some (padded 6 t.fraction)) = padded 3 t.instant.moment.millisecond := by
      rw [fractionDigits, Option.getD_some, padded_six, List.take_left' length_padded, length_padded,
        hfront]
      exact List.append_nil _
    rw [htake, digitsValue_padded hlt]

theorem microsecond_eventMatch (t : EventTime) : (eventMatch t).microsecond = t.fraction := by
  simp only [TimestampMatch.microsecond, eventMatch]
  split
  case isTrue hzero =>
    rw [hzero]
    rfl
  case isFalse =>
    have hall : fractionDigits 6 (some (padded 6 t.fraction)) = padded 6 t.fraction := by
      rw [fractionDigits, Option.getD_some, List.take_of_length_le (by rw [length_padded]),
        length_padded]
      exact List.append_nil _
    rw [hall, digitsValue_padded t.fraction_lt]

theorem wallMoment_eventMatch (t : EventTime) : wallMoment (eventMatch t) = t.instant.moment :=
  wallMoment_of_digits t.instant.moment_valid t.instant.year_lt rfl (millisecond_eventMatch t)

/-- A timestamp of UTC that shows a time is read as it. -/
theorem parseEventTime_of_match {text : Text} {groups : TimestampMatch}
    (hmatch : matchTimestamp text = some groups) (hzone : groups.zone = .utc)
    (hwall : wallMoment groups = t.instant.moment)
    (hmicrosecond : groups.microsecond % 1000 = t.microsecond) : parseEventTime text = some t := by
  have hmilliseconds : (wallMoment groups).milliseconds = t.instant.milliseconds := by
    rw [hwall, Instant.moment, milliseconds_momentAt]
  have hcheck : (wallMoment groups).Valid ∧ groups.zone.minutesAhead = 0 ∧
      ((wallMoment groups).milliseconds : ℤ) < endOfTime := by
    rw [hmilliseconds, hwall, hzone]
    exact ⟨t.instant.moment_valid, rfl, t.instant.inCalendar⟩
  rw [parseEventTime, Option.bind_eq_bind, hmatch, Option.bind_some, dif_pos hcheck, Option.some.injEq]
  obtain ⟨⟨milliseconds, hcalendar⟩, microsecond, hlt⟩ := t
  simp only at hmilliseconds hmicrosecond
  simp only [hmilliseconds, hmicrosecond]

/-- Three digits are not all zero unless their number is. -/
theorem isTooPrecise_padded (n : ℕ) : isTooPrecise (padded 6 n) = decide (n % 1000 ≠ 0) := by
  have hdigit : ∀ d < 10, (Nat.digitChar d ≠ '0') = (d ≠ 0) := by decide
  have hdrop : (padded 6 n).drop 3 =
      [Nat.digitChar (n / 100 % 10), Nat.digitChar (n / 10 % 10), Nat.digitChar (n % 10)] := by
    rw [padded_six, List.drop_left' length_padded]
  rw [isTooPrecise, length_padded, hdrop]
  simp only [List.any_cons, List.any_nil, hdigit _ (Nat.mod_lt _ (by decide : 0 < 10))]
  rw [Bool.eq_iff_iff]
  simp only [Nat.reduceLT, decide_true, decide_false, Bool.true_and, Bool.false_or, Bool.or_false,
    Bool.or_eq_true, decide_eq_true_eq]
  omega

theorem isTooPrecise_eventMatch (t : EventTime) :
    (eventMatch t).fraction.any isTooPrecise = decide (t.microsecond ≠ 0) := by
  have hmicrosecond := t.microsecond_lt
  simp only [eventMatch]
  split
  case isTrue hzero =>
    have hnone : t.microsecond = 0 := by
      rw [EventTime.fraction] at hzero
      omega
    rw [hnone]
    rfl
  case isFalse =>
    have hrest : t.fraction % 1000 = t.microsecond := by
      rw [EventTime.fraction]
      omega
    rw [Option.any_some, isTooPrecise_padded, hrest]

/-- Readers take the canonical text of a time: its microseconds keep its text as it is, or the
runtime writes its year in four digits. -/
def ReadsBack (R : DateTimeRuntime) (t : EventTime) : Prop :=
  t.microsecond ≠ 0 ∨ HasFourDigits R t.instant

instance : Decidable (ReadsBack R t) := by
  unfold ReadsBack
  exact inferInstance

theorem isAscii_eventText (t : EventTime) : IsAscii (eventText t) := by
  have hpadded : ∀ width n, IsAscii (padded width n) := fun _ _ => isAscii_digits all_padded
  have hfraction : IsAscii (fractionText (eventMatch t).fraction) := by
    simp only [eventMatch]
    split
    · exact nofun
    · exact isAscii_cons (by decide) (hpadded _ _)
  rw [eventText, TimestampMatch.text, DateTimeDigits.text]
  repeat' first
    | exact hfraction
    | exact hpadded _ _
    | exact (by decide : IsAscii ['Z'])
    | apply IsAscii.append
    | apply isAscii_cons (by decide)

theorem canonicalString_eventText (t : EventTime) :
    canonicalString R N (eventText t) =
      some (if t.microsecond ≠ 0 then eventText t else datetimeText R t.instant) := by
  rw [canonicalString_ascii (isAscii_eventText t)]
  have hprecise := isTooPrecise_eventMatch t
  split
  case isTrue h =>
    rw [decide_eq_true h] at hprecise
    simp only [normalizeDatetimeString, match_eventText t, hprecise, if_true]
  case isFalse h =>
    rw [decide_eq_false h] at hprecise
    exact normalizeDatetimeString_of_wallMoment (match_eventText t) hprecise rfl
      (wallMoment_eventMatch t)

theorem parseEventTime_canonical (t : EventTime) :
    parseEventTime (if t.microsecond ≠ 0 then eventText t else datetimeText R t.instant) =
      if ReadsBack R t then some t else none := by
  by_cases h : t.microsecond ≠ 0
  · have hmicrosecond : (eventMatch t).microsecond % 1000 = t.microsecond := by
      have hlt := t.microsecond_lt
      rw [microsecond_eventMatch, EventTime.fraction]
      omega
    rw [if_pos h, if_pos (.inl h)]
    exact parseEventTime_of_match (match_eventText t) rfl (wallMoment_eventMatch t) hmicrosecond
  · rw [if_neg h]
    by_cases hfour : HasFourDigits R t.instant
    · have hmatch := (Option.filter_eq_some_iff.mp (match_utcText t.instant)).1
      have hmicrosecond : (utcMatch (padded 4 t.instant.year) t.instant.moment).microsecond % 1000 =
          t.microsecond := by
        rw [microsecond_eq utcMatch_short, Nat.mul_mod_left]
        exact (not_not.mp h).symm
      rw [if_pos (.inr hfour), datetimeText, pythonYear_of_four hfour]
      exact parseEventTime_of_match hmatch rfl (wallMoment_utcMatch t.instant) hmicrosecond
    · have hlength : (pythonYear R t.instant.year).length ≠ 4 := fun hlength =>
        hfour ((length_pythonYear t.instant.year_lt).mp hlength)
      have hread := readDateTime_utcText (m := t.instant.moment)
        (all_pythonYear (R := R) t.instant.year) hlength
      rw [if_neg fun hback => hback.elim h hfour, parseEventTime, datetimeText, matchTimestamp, hread]
      rfl

/-- A field of type `datetime` with `_require_utc_timestamp`. -/
def eventTime : Form R N EventTime where
  accepts _ := true
  write t := .string (eventText t)
  read
    | .string text => parseEventTime text
    | _ => none
  after t := if ReadsBack R t then some t else none
  accepts_of_read _ := rfl
  read_canonical {t value} _ hvalue := by
    rw [canonicalValue_string, canonicalString_eventText, Option.map_some, Option.some.injEq] at hvalue
    rw [← hvalue]
    exact parseEventTime_canonical t
  canonical_after _ hb hvalue := by
    obtain ⟨_, ⟨⟩⟩ := Option.ite_none_right_eq_some.mp hb
    exact hvalue

theorem after_eventTime {t u : EventTime} :
    (eventTime (R := R) (N := N)).after t = some u ↔ ReadsBack R t ∧ t = u := by
  rw [eventTime, Option.ite_none_right_eq_some, Option.some.injEq]

end AthenaContext.EventTimes
