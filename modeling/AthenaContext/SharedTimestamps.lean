import AthenaContext.TimestampText

/-!
# Timestamps that both canonicalizers write alike

For every text that is a timestamp, when the Python canonicalizer and the one of the browser
rewrite it to the same text. They differ at small years, at instants behind the year 9999 and
at fields that only one of the calendars takes.
-/

namespace AthenaContext.SharedTimestamps

open GregorianCalendar TimestampText TextNormalization

variable {R : DateTimeRuntime} {m m' : TimestampMatch} {t : Text}

/-! ## Fields -/

/-- The moment that the clock of the zone shows. -/
def wallMoment (m : TimestampMatch) : Moment :=
  ⟨m.year, m.month, m.day, m.hour, m.minute, m.second, m.millisecond⟩

theorem digitsValue_zeros (digits : Text) (n : ℕ) :
    digitsValue (digits ++ List.replicate n '0') = digitsValue digits * 10 ^ n := by
  induction n with
  | zero => rw [List.replicate_zero, List.append_nil, Nat.pow_zero, Nat.mul_one]
  | succ n ih =>
    rw [List.replicate_succ', ← List.append_assoc, digitsValue_concat, ih, Nat.sub_self,
      Nat.add_zero, Nat.pow_succ, Nat.mul_comm 10, Nat.mul_assoc]

/-- Digits behind the milliseconds are zeros where a fraction is not too precise. -/
theorem fractionDigits_of_short {fraction : Option Text} (h : fraction.any isTooPrecise = false) :
    fractionDigits 6 fraction = fractionDigits 3 fraction ++ List.replicate 3 '0' := by
  cases fraction with
  | none => rfl
  | some digits =>
    rw [Option.any_some, isTooPrecise] at h
    simp only [fractionDigits, Option.getD_some, List.length_take]
    by_cases hshort : digits.length ≤ 3
    · rw [List.take_of_length_le (by omega : digits.length ≤ 6), List.take_of_length_le hshort,
        List.append_assoc, List.replicate_append_replicate]
      congr 2
      omega
    · rw [decide_eq_true (by omega : 3 < digits.length), Bool.true_and, Bool.or_eq_false_iff,
        decide_eq_false_iff_not] at h
      have hzeros : digits.drop 3 = List.replicate (digits.length - 3) '0' := by
        refine List.eq_replicate_iff.mpr ⟨List.length_drop, fun c hc => ?_⟩
        have hall := List.any_eq_false.mp h.2 c hc
        simpa using hall
      have hsplit : digits = digits.take 3 ++ List.replicate (digits.length - 3) '0' := by
        rw [← hzeros, List.take_append_drop]
      rw [List.take_of_length_le (by omega : digits.length ≤ 6)]
      conv_lhs => rw [hsplit]
      rw [List.append_assoc, List.append_assoc, List.replicate_append_replicate,
        List.replicate_append_replicate]
      congr 2
      simp only [List.length_append, List.length_take, List.length_replicate]
      omega

theorem microsecond_eq (h : m.fraction.any isTooPrecise = false) :
    m.microsecond = m.millisecond * 1000 := by
  rw [TimestampMatch.microsecond, fractionDigits_of_short h, digitsValue_zeros]
  rfl

/-! ## The browser's check -/

theorem daysBeforeMonth_le {year month : ℕ} : daysBeforeMonth year month ≤ 31 * month := by
  induction month with
  | zero => exact Nat.zero_le _
  | succ month ih =>
    cases month with
    | zero => exact Nat.zero_le _
    | succ month =>
      have hdays : daysInMonth year (month + 1) ≤ 31 := by
        unfold daysInMonth
        split_ifs <;> omega
      rw [daysBeforeMonth]
      omega

/-- A date is not the one of its year in the twentieth century. -/
theorem dayNumber_lt_century {year month day : ℕ} (hmonth : month ≤ 12) :
    dayNumber year month day < dayNumber (1900 + year) month day := by
  have hle : daysBeforeMonth year month ≤ 31 * month := daysBeforeMonth_le
  unfold dayNumber daysBeforeYear
  omega

/-- The browser accepts the moments from the year 100 on that exist. -/
theorem hasValidTimestampComponents_iff :
    hasValidTimestampComponents m = true ↔
      100 ≤ m.year ∧ (wallMoment m).Valid ∧ isBrowserOffset m.zone = true := by
  simp only [hasValidTimestampComponents, Bool.and_eq_true, decide_eq_true_eq, ne_eq]
  constructor
  · rintro ⟨⟨⟨⟨⟨⟨⟨⟨hyear, -⟩, hmonth⟩, -⟩, -⟩, -⟩, -⟩, hzone⟩, hread⟩
    have hvalid : (wallMoment m).Valid := by
      rw [wallMoment, ← hread]
      exact momentAt_valid _
    refine ⟨?_, hvalid, hzone⟩
    by_contra hsmall
    have hle : m.year ≤ 99 := by omega
    have hsame := milliseconds_momentAt (dateUtc m)
    rw [hread, dateUtc, if_pos hle] at hsame
    have hlt : dayNumber m.year m.month m.day < dayNumber (1900 + m.year) m.month m.day :=
      dayNumber_lt_century hmonth
    simp only [Moment.milliseconds, dayMilliseconds] at hsame
    omega
  · rintro ⟨hyear, hvalid, hzone⟩
    have hdate : dateUtc m = (wallMoment m).milliseconds := by
      rw [dateUtc, if_neg (by omega)]
      rfl
    rw [hdate, momentAt_milliseconds hvalid]
    obtain ⟨⟨-, hmo, hmo', hd, -⟩, hh, hmi, hs, -⟩ := hvalid
    dsimp only [wallMoment] at hmo hmo' hd hh hmi hs
    refine ⟨⟨⟨⟨⟨⟨⟨⟨?_, hmo⟩, hmo'⟩, hd⟩, ?_⟩, ?_⟩, ?_⟩, hzone⟩, rfl⟩ <;> omega

/-! ## Python's check -/

theorem isPythonOffset_of_browser {zone : Zone} (h : isBrowserOffset zone = true) :
    isPythonOffset R zone = true := by
  cases zone with
  | utc => rfl
  | offset ahead hours minutes =>
    simp only [isBrowserOffset, isPythonOffset, Bool.and_eq_true, Bool.or_eq_true,
      decide_eq_true_eq] at h ⊢
    omega

/-- Python reads the moment that the clock of the zone shows, or midnight at its end. -/
theorem fromIsoFormat_eq_some {wall : ℕ} (hp : m.fraction.any isTooPrecise = false) :
    fromIsoFormat R m = some wall →
      isPythonOffset R m.zone = true ∧ wall = (wallMoment m).milliseconds ∧
        ((wallMoment m).Valid ∨ m.hour = 24) := by
  have hmilli : m.microsecond / 1000 = m.millisecond := by
    rw [microsecond_eq hp, Nat.mul_div_cancel _ (by decide)]
  intro h
  simp only [fromIsoFormat, hmilli] at h
  split_ifs at h with hzone hvalid hmidnight
  · exact ⟨eq_true_of_ne_false hzone, (Option.some.inj h).symm, .inl hvalid⟩
  · exact ⟨eq_true_of_ne_false hzone, (Option.some.inj h).symm, .inr hmidnight.2.1⟩

theorem fromIsoFormat_of_valid (hp : m.fraction.any isTooPrecise = false)
    (hzone : isPythonOffset R m.zone = true) (hvalid : (wallMoment m).Valid) :
    fromIsoFormat R m = some (wallMoment m).milliseconds := by
  have hmilli : m.microsecond / 1000 = m.millisecond := by
    rw [microsecond_eq hp, Nat.mul_div_cancel _ (by decide)]
  have hmoment : (wallMoment m).Valid := hvalid
  rw [wallMoment] at hvalid
  simp only [fromIsoFormat, hmilli, hzone, if_pos hvalid]
  rfl

/-! ## Texts -/

theorem text_injective (hm : m.WellFormed) (hm' : m'.WellFormed) (h : m.text = m'.text) :
    m = m' := by
  have hread : matchTimestamp m.text = some m := matchTimestamp_eq_some.mpr ⟨rfl, hm⟩
  have hread' : matchTimestamp m.text = some m' := matchTimestamp_eq_some.mpr ⟨h, hm'⟩
  rw [hread] at hread'
  exact Option.some.inj hread'

/-- The groups of a moment of UTC. -/
def utcMatch (year : Text) (moment : Moment) : TimestampMatch where
  digits := ⟨year, padded 2 moment.month, padded 2 moment.day, padded 2 moment.hour,
    padded 2 moment.minute, padded 2 moment.second⟩
  fraction := some (padded 3 moment.millisecond)
  zone := .utc

theorem utcMatch_text (year : Text) (moment : Moment) :
    (utcMatch year moment).text = utcText year moment := by
  simp only [TimestampMatch.text, utcMatch, DateTimeDigits.text, fractionText, Zone.text, utcText,
    List.append_assoc, List.cons_append]

/-- A text of UTC is the timestamp of its groups only, its year in four digits. -/
theorem eq_utcMatch {year : Text} {moment : Moment} (hm : m.WellFormed)
    (hyear : year.all Char.isDigit = true) (h : m.text = utcText year moment) :
    year.length = 4 ∧ m = utcMatch year moment := by
  have hdash : ∀ digits rest : Text, digits.all Char.isDigit = true →
      (digits ++ '-' :: rest).takeWhile Char.isDigit = digits := by
    intro digits rest hdigits
    rw [List.takeWhile_append_of_pos (List.all_eq_true.mp hdigits),
      List.takeWhile_cons_of_neg (by decide), List.append_nil]
  have hfront := congrArg (List.takeWhile Char.isDigit) h
  rw [TimestampMatch.text, DateTimeDigits.text, utcText, List.append_assoc, List.cons_append,
    hdash _ _ hm.digits.year.2, hdash _ _ hyear] at hfront
  have hfour : year.length = 4 := hfront ▸ hm.digits.year.1
  refine ⟨hfour, text_injective hm ⟨⟨⟨hfour, hyear⟩, ?_, ?_, ?_, ?_, ?_⟩, ?_, trivial⟩ ?_⟩
  case refine_7 => rw [utcMatch_text, h]
  case refine_6 =>
    rintro digits ⟨rfl⟩
    refine ⟨fun hnil => ?_, all_padded⟩
    have hlength := congrArg List.length hnil
    rw [length_padded] at hlength
    cases hlength
  all_goals exact ⟨length_padded, all_padded⟩

theorem digitsValue_toDigits (n : ℕ) : digitsValue (Nat.toDigits 10 n) = n :=
  Nat.ofDigitChars_ten_toDigits

theorem all_toDigits (n : ℕ) : (Nat.toDigits 10 n).all Char.isDigit = true :=
  List.all_eq_true.mpr fun _ hc => Nat.isDigit_of_mem_toDigits (by decide) (by decide) hc

theorem all_pythonYear (year : ℕ) : (pythonYear R year).all Char.isDigit = true := by
  unfold pythonYear
  split
  · exact all_padded
  · exact all_toDigits year

theorem length_pythonYear {year : ℕ} (h : year < 10000) :
    (pythonYear R year).length = 4 ↔ R.padsYear = true ∨ 1000 ≤ year := by
  unfold pythonYear
  split
  case isTrue hpads => exact ⟨fun _ => .inl hpads, fun _ => length_padded⟩
  case isFalse hpads =>
    rw [or_iff_right hpads]
    have hshort : ∀ k, 0 < k → ((Nat.toDigits 10 year).length ≤ k ↔ year < 10 ^ k) :=
      fun k hk => Nat.length_toDigits_le_iff (by decide) hk
    have hthree := hshort 3 (by decide)
    have hfour := hshort 4 (by decide)
    omega

/-- A year in four digits is padded. -/
theorem pythonYear_eq {year : ℕ} (h : (pythonYear R year).length = 4) :
    pythonYear R year = padded 4 year := by
  unfold pythonYear at h ⊢
  split
  case isTrue => rfl
  case isFalse hpads =>
    rw [if_neg hpads] at h
    have hdigits := padded_digitsValue (all_toDigits year)
    rw [digitsValue_toDigits, h] at hdigits
    exact hdigits.symm

/-! ## Instants -/

/-- The instant of a timestamp. -/
def utcInstant (m : TimestampMatch) : ℤ := utcMilliseconds (wallMoment m).milliseconds m.zone

/-- The moment of UTC of a timestamp. -/
def utcMoment (m : TimestampMatch) : Moment := momentAt (utcInstant m).toNat

theorem year_lt_of_lt_endOfTime {n : ℕ} (h : (n : ℤ) < endOfTime) : (momentAt n).year < 10000 := by
  by_contra hlate
  have hyears : daysBeforeYear 10000 ≤ daysBeforeYear (yearOfDay (n / dayMilliseconds)) :=
    daysBeforeYear_monotone (not_lt.mp hlate)
  have hday := (validDate_of_day (n / dayMilliseconds)).2
  have hle : daysBeforeYear 10000 ≤ n / dayMilliseconds := by
    unfold dayNumber at hday
    omega
  have hmul := (Nat.le_div_iff_mul_le (by decide)).mp hle
  unfold endOfTime at h
  omega

theorem utcMoment_year_lt (h : utcInstant m < endOfTime) : (utcMoment m).year < 10000 := by
  refine year_lt_of_lt_endOfTime ?_
  have hend : 0 < endOfTime := by decide
  omega

theorem utcInstant_nonneg (hyear : 100 ≤ m.year) (hzone : isBrowserOffset m.zone = true) :
    0 ≤ utcInstant m := by
  have hdays : daysBeforeYear 100 ≤ daysBeforeYear m.year := daysBeforeYear_monotone hyear
  have hhundred : daysBeforeYear 100 = 36159 := rfl
  have hoffset : m.zone.minutesAhead ≤ 1440 := by
    cases hkind : m.zone with
    | utc => decide
    | offset ahead hours minutes =>
      rw [hkind] at hzone
      simp only [isBrowserOffset, Bool.and_eq_true, decide_eq_true_eq] at hzone
      cases ahead
      all_goals
        simp only [Zone.minutesAhead]
        omega
  simp only [utcInstant, utcMilliseconds, Moment.milliseconds, wallMoment, dayNumber,
    dayMilliseconds]
  omega

theorem utcInstant_of_utc (hzone : m.zone = .utc) : utcInstant m = (wallMoment m).milliseconds := by
  rw [utcInstant, hzone, utcMilliseconds, Zone.minutesAhead, Int.zero_mul, Int.sub_zero]

theorem milliseconds_lt_endOfTime (hvalid : (wallMoment m).Valid) (hyear : m.year < 100) :
    ((wallMoment m).milliseconds : ℤ) < endOfTime := by
  obtain ⟨⟨-, -, hmonth, -, hday⟩, hhour, hminute, hsecond, hmillisecond⟩ := hvalid
  have hmonths : daysBeforeMonth m.year m.month ≤ 31 * m.month := daysBeforeMonth_le
  have hdays : daysInMonth m.year m.month ≤ 31 := by
    unfold daysInMonth
    split_ifs <;> omega
  have hend : endOfTime = 3652059 * 86400000 := by decide
  dsimp only [wallMoment] at hmonth hday hhour hminute hsecond hmillisecond
  simp only [hend, Moment.milliseconds, wallMoment, dayNumber, dayMilliseconds, daysBeforeYear]
  omega

/-! ## The texts of both sides -/

theorem normalizeTimestamp_of_match (h : matchTimestamp t = some m)
    (hp : m.fraction.any isTooPrecise = false) :
    normalizeTimestamp t =
      if hasValidTimestampComponents m = true then
        some (utcText (isoYear (utcMoment m).year) (utcMoment m))
      else some t := by
  simp only [normalizeTimestamp, h, hp, Bool.false_eq_true, if_false]
  cases hasValidTimestampComponents m <;> rfl

theorem normalizeDatetimeString_of_match (h : matchTimestamp t = some m)
    (hp : m.fraction.any isTooPrecise = false)
    (hiso : fromIsoFormat R m = some (wallMoment m).milliseconds) :
    normalizeDatetimeString R t =
      if utcInstant m < 0 ∨ endOfTime ≤ utcInstant m then none
      else some (utcText (pythonYear R (utcMoment m).year) (utcMoment m)) := by
  have hmicro : m.microsecond % 1000 = 0 := by
    rw [microsecond_eq hp]
    exact Nat.mul_mod_left _ _
  simp only [normalizeDatetimeString, h, hp, hiso, hmicro, Bool.false_eq_true, if_false, ne_eq,
    not_true_eq_false]
  rfl

/-- Both sides write a timestamp alike. Either Python's calendar refuses it, or its hour and
its offset are in the range of the browser, and it is after the year 99 and before the end of
the year 9999 in UTC, where the runtime pads its year, or it is in canonical form already. -/
def SharedTimestamp (R : DateTimeRuntime) (m : TimestampMatch) : Prop :=
  fromIsoFormat R m = none ∨
    (m.hour ≤ 23 ∧ isBrowserOffset m.zone = true ∧
      (100 ≤ m.year → utcInstant m < endOfTime ∧ (R.padsYear = true ∨ 1000 ≤ (utcMoment m).year)) ∧
      (m.year < 100 → R.padsYear = true ∧ m.zone = .utc ∧ ∃ digits ∈ m.fraction, digits.length = 3))

instance : Decidable (SharedTimestamp R m) := by
  unfold SharedTimestamp
  exact inferInstance

/-- A timestamp of UTC in milliseconds is in canonical form. -/
theorem eq_utcMatch_of_milliseconds (hm : m.WellFormed) (hzone : m.zone = .utc)
    (hfraction : ∃ digits ∈ m.fraction, digits.length = 3) :
    m = utcMatch (padded 4 m.year) (wallMoment m) := by
  have hfield : ∀ {width : ℕ} {digits : Text}, digits.length = width ∧
      digits.all Char.isDigit = true → padded width (digitsValue digits) = digits :=
    fun h => h.1 ▸ padded_digitsValue h.2
  obtain ⟨⟨year, month, day, hour, minute, second⟩, fraction, zone⟩ := m
  obtain ⟨⟨hy, hmo, hd, hh, hmi, hs⟩, hdigits, -⟩ := hm
  obtain ⟨digits, hsome, hlength⟩ := hfraction
  dsimp only at hy hmo hd hh hmi hs hzone
  obtain rfl : fraction = some digits := hsome
  have hthree : fractionDigits 3 (some digits) = digits := by
    simp only [fractionDigits, Option.getD_some]
    rw [List.take_of_length_le (by omega), hlength]
    exact List.append_nil _
  have hmilli : padded 3 (digitsValue (fractionDigits 3 (some digits))) = digits := by
    rw [hthree]
    exact hfield ⟨hlength, (hdigits digits rfl).2⟩
  simp only [utcMatch, wallMoment, TimestampMatch.year, TimestampMatch.month, TimestampMatch.day,
    TimestampMatch.hour, TimestampMatch.minute, TimestampMatch.second, TimestampMatch.millisecond,
    hfield hy, hfield hmo, hfield hd, hfield hh, hfield hmi, hfield hs, hmilli, hzone]

/-- Where the browser rewrites a timestamp. -/
theorem rewritten_eq_iff (h : matchTimestamp t = some m)
    (hp : m.fraction.any isTooPrecise = false) (hjs : hasValidTimestampComponents m = true) :
    normalizeDatetimeString R t = normalizeTimestamp t ↔ SharedTimestamp R m := by
  obtain ⟨hyear, hvalid, hzone⟩ := hasValidTimestampComponents_iff.mp hjs
  have hiso := fromIsoFormat_of_valid (R := R) hp (isPythonOffset_of_browser hzone) hvalid
  have hhour : m.hour ≤ 23 := Nat.le_of_lt_succ hvalid.hour_lt
  have hnonneg := utcInstant_nonneg hyear hzone
  have hshared : SharedTimestamp R m ↔
      utcInstant m < endOfTime ∧ (R.padsYear = true ∨ 1000 ≤ (utcMoment m).year) := by
    constructor
    · rintro (hnone | ⟨-, -, hlate, -⟩)
      · rw [hiso] at hnone
        cases hnone
      · exact hlate hyear
    · intro hlate
      exact .inr ⟨hhour, hzone, fun _ => hlate, fun hsmall => absurd hyear (by omega)⟩
  rw [normalizeDatetimeString_of_match h hp hiso, normalizeTimestamp_of_match h hp, if_pos hjs,
    hshared]
  by_cases hend : endOfTime ≤ utcInstant m
  · rw [if_pos (.inr hend)]
    exact ⟨nofun, fun hlate => absurd hlate.1 (by omega)⟩
  · have hlt : utcInstant m < endOfTime := by omega
    have hten := utcMoment_year_lt hlt
    have hiso4 : isoYear (utcMoment m).year = padded 4 (utcMoment m).year :=
      if_pos (by omega)
    rw [if_neg (by omega), hiso4, Option.some.injEq, ← length_pythonYear hten,
      and_iff_right hlt]
    constructor
    · intro htext
      have hlength := congrArg List.length htext
      simp only [utcText, List.length_append, List.length_cons, length_padded] at hlength
      omega
    · intro hfour
      rw [pythonYear_eq hfour]

/-- Where the browser leaves a timestamp as it is, and Python rewrites it. -/
theorem kept_eq_iff (h : matchTimestamp t = some m)
    (hp : m.fraction.any isTooPrecise = false) (hjs : hasValidTimestampComponents m = false)
    (hiso : fromIsoFormat R m = some (wallMoment m).milliseconds)
    (hkind : (wallMoment m).Valid ∨ m.hour = 24) :
    normalizeDatetimeString R t = normalizeTimestamp t ↔ SharedTimestamp R m := by
  obtain ⟨rfl, hm⟩ := matchTimestamp_eq_some.mp h
  have hkept : normalizeTimestamp m.text = some m.text := by
    rw [normalizeTimestamp_of_match h hp, hjs]
    rfl
  have hsmall : (wallMoment m).Valid → isBrowserOffset m.zone = true → m.year < 100 := by
    intro hvalid hzone
    by_contra hlate
    rw [hasValidTimestampComponents_iff.mpr ⟨by omega, hvalid, hzone⟩] at hjs
    cases hjs
  have hwidth : ∀ {width n : ℕ}, n < 10 ^ width → digitsValue (padded width n) = n :=
    digitsValue_padded
  rw [hkept, normalizeDatetimeString_of_match h hp hiso]
  constructor
  · intro htext
    split at htext
    case isTrue => cases htext
    case isFalse hrange =>
      have hten : (utcMoment m).year < 10000 := utcMoment_year_lt (by omega)
      have hmoment := (momentAt_valid (utcInstant m).toNat).hour_lt
      obtain ⟨hfour, hgroups⟩ :=
        eq_utcMatch hm (all_pythonYear _) (Option.some.inj htext).symm
      have hzone : m.zone = .utc := congrArg TimestampMatch.zone hgroups
      have hhour : m.hour < 24 := by
        have hvalue := congrArg TimestampMatch.hour hgroups
        have hread : digitsValue (padded 2 (utcMoment m).hour) = (utcMoment m).hour :=
          hwidth (Nat.lt_trans hmoment (by decide))
        rw [hvalue]
        exact lt_of_eq_of_lt hread hmoment
      have hvalid : (wallMoment m).Valid := hkind.resolve_right (by omega)
      have hbrowser : isBrowserOffset m.zone = true := by rw [hzone]; rfl
      have hyear := hsmall hvalid hbrowser
      have hsame : m.year = (utcMoment m).year := by
        have hvalue := congrArg TimestampMatch.year hgroups
        rw [hvalue]
        show digitsValue (pythonYear R (utcMoment m).year) = _
        rw [pythonYear_eq hfour]
        exact hwidth hten
      refine .inr ⟨by omega, hbrowser, fun hlate => absurd hlate (by omega), fun _ => ⟨?_, hzone, ?_⟩⟩
      · exact ((length_pythonYear hten).mp hfour).resolve_right (by omega)
      · exact ⟨_, congrArg TimestampMatch.fraction hgroups, length_padded⟩
  · rintro (hnone | ⟨hhour, hzone, -, hcanonical⟩)
    · rw [hiso] at hnone
      cases hnone
    · have hvalid : (wallMoment m).Valid := hkind.resolve_right (by omega)
      have hyear := hsmall hvalid hzone
      obtain ⟨hpads, hutc, hfraction⟩ := hcanonical hyear
      have hinstant := utcInstant_of_utc hutc
      have hend := milliseconds_lt_endOfTime hvalid hyear
      have hmoment : utcMoment m = wallMoment m := by
        rw [utcMoment, hinstant, Int.toNat_natCast, momentAt_milliseconds hvalid]
      rw [if_neg (by omega), hmoment, pythonYear, if_pos hpads]
      have hgroups := eq_utcMatch_of_milliseconds hm hutc hfraction
      rw [show (wallMoment m).year = m.year from rfl, ← utcMatch_text, ← hgroups]

/-- Both sides write a timestamp alike exactly under the condition. -/
theorem normalizeDatetimeString_eq_iff (h : matchTimestamp t = some m)
    (hp : m.fraction.any isTooPrecise = false) :
    normalizeDatetimeString R t = normalizeTimestamp t ↔ SharedTimestamp R m := by
  cases hjs : hasValidTimestampComponents m with
  | true => exact rewritten_eq_iff h hp hjs
  | false =>
    cases hiso : fromIsoFormat R m with
    | none =>
      have hkept : normalizeTimestamp t = some t := by
        rw [normalizeTimestamp_of_match h hp, hjs]
        rfl
      have hpython : normalizeDatetimeString R t = some t := by
        simp only [normalizeDatetimeString, h, hp, hiso, Bool.false_eq_true, if_false]
      exact ⟨fun _ => .inl hiso, fun _ => hpython.trans hkept.symm⟩
    | some wall =>
      obtain ⟨-, rfl, hkind⟩ := fromIsoFormat_eq_some hp hiso
      exact kept_eq_iff h hp hjs hiso hkind

/-! ## All texts -/

/-- A text that starts as a timestamp and is none. -/
def Unfinished (t : Text) : Prop := matchTimestamp t = none ∧ (readDateTime t).isSome = true

instance : Decidable (Unfinished t) := by
  unfold Unfinished
  exact inferInstance

/-- Python rewrites the groups, to an instant that it has no date for. -/
def LeavesCalendar (R : DateTimeRuntime) (m : TimestampMatch) : Prop :=
  m.fraction.any isTooPrecise = false ∧ fromIsoFormat R m ≠ none ∧
    (utcInstant m < 0 ∨ endOfTime ≤ utcInstant m)

instance : Decidable (LeavesCalendar R m) := by
  unfold LeavesCalendar
  exact inferInstance

/-- Groups whose text is left as it is, or written alike on both sides. -/
def SharedMatch (R : DateTimeRuntime) (m : TimestampMatch) : Prop :=
  m.fraction.any isTooPrecise = true ∨ SharedTimestamp R m

instance : Decidable (SharedMatch R m) := by
  unfold SharedMatch
  exact inferInstance

theorem normalizeTimestamp_eq_none : normalizeTimestamp t = none ↔ Unfinished t := by
  cases hm : matchTimestamp t with
  | none => simp [normalizeTimestamp, Unfinished, hm, Option.isSome_iff_ne_none]
  | some m =>
    have hsome : normalizeTimestamp t ≠ none := by
      simp only [normalizeTimestamp, hm]
      split_ifs <;> exact Option.some_ne_none _
    exact ⟨fun h => absurd h hsome, fun h => by rw [Unfinished, hm] at h; cases h.1⟩

theorem normalizeDatetimeString_eq_none :
    normalizeDatetimeString R t = none ↔
      Unfinished t ∨ ∃ m ∈ matchTimestamp t, LeavesCalendar R m := by
  cases hm : matchTimestamp t with
  | none => simp [normalizeDatetimeString, Unfinished, hm, Option.isSome_iff_ne_none]
  | some m =>
    have hfinished : ¬ Unfinished t := fun h => by rw [Unfinished, hm] at h; cases h.1
    simp only [hfinished, false_or, Option.mem_def, Option.some.injEq, exists_eq_left']
    cases hp : m.fraction.any isTooPrecise with
    | true => simp [normalizeDatetimeString, LeavesCalendar, hm, hp]
    | false =>
      cases hiso : fromIsoFormat R m with
      | none => simp [normalizeDatetimeString, LeavesCalendar, hm, hp, hiso]
      | some wall =>
        obtain ⟨-, rfl, -⟩ := fromIsoFormat_eq_some hp hiso
        rw [normalizeDatetimeString_of_match hm hp hiso, LeavesCalendar, hiso]
        by_cases hrange : utcInstant m < 0 ∨ endOfTime ≤ utcInstant m
        · simp [hp, hrange]
        · rw [if_neg hrange]
          exact ⟨nofun, fun h => absurd h.2.2 hrange⟩

/-- A text that both sides accept comes out alike exactly if its groups do. -/
theorem normalized_text_eq_iff (hfinished : ¬ Unfinished t) :
    normalizeDatetimeString R t = normalizeTimestamp t ↔ ∀ m ∈ matchTimestamp t, SharedMatch R m := by
  cases hm : matchTimestamp t with
  | none =>
    have hplain : (readDateTime t).isSome = false :=
      eq_false_of_ne_true fun h => hfinished ⟨hm, h⟩
    simp [normalizeDatetimeString, normalizeTimestamp, hm, hplain]
  | some m =>
    simp only [Option.mem_def, Option.some.injEq, forall_eq', SharedMatch]
    cases hp : m.fraction.any isTooPrecise with
    | true => simp [normalizeDatetimeString, normalizeTimestamp, hm, hp]
    | false => simp [normalizeDatetimeString_eq_iff hm hp]

/-- Groups that both sides write alike stay in Python's calendar. -/
theorem not_leavesCalendar (hm : matchTimestamp t = some m) (h : SharedMatch R m) :
    ¬ LeavesCalendar R m := by
  rintro ⟨hp, hiso, hrange⟩
  have hfinished : ¬ Unfinished t := fun hu => by rw [Unfinished, hm] at hu; cases hu.1
  have hshared : ∀ n ∈ matchTimestamp t, SharedMatch R n := by
    rw [hm]
    rintro n ⟨rfl⟩
    exact h
  have heq := (normalized_text_eq_iff (R := R) hfinished).mpr hshared
  have hnone : normalizeDatetimeString R t = none :=
    normalizeDatetimeString_eq_none.mpr (.inr ⟨m, hm, hp, hiso, hrange⟩)
  rw [hnone] at heq
  exact hfinished (normalizeTimestamp_eq_none.mp heq.symm)

/-- A timestamp has the letter that the canonicalizers look for first. -/
theorem mem_of_readDateTime (h : (readDateTime t).isSome = true) : 'T' ∈ t := by
  obtain ⟨⟨digits, rest⟩, hread⟩ := Option.isSome_iff_exists.mp h
  obtain ⟨rfl, -⟩ := readDateTime_eq_some.mp hread
  simp [DateTimeDigits.text]

end AthenaContext.SharedTimestamps
