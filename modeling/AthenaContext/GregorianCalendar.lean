import Mathlib

/-!
# The proleptic Gregorian calendar

Dates and times of day as numbers of days and milliseconds since the first of January of
the year 1. Dates that do not exist have a number too, that of a later date, so that
reading the number back tells whether a date exists.
-/

namespace AthenaContext.GregorianCalendar

/-! ## Days -/

/-- A leap year. -/
def isLeap (year : ℕ) : Bool := year % 4 = 0 && (year % 100 ≠ 0 || year % 400 = 0)

/-- The days of a month, counted from 1. -/
def daysInMonth (year month : ℕ) : ℕ :=
  if month = 2 then if isLeap year then 29 else 28
  else if month = 4 ∨ month = 6 ∨ month = 9 ∨ month = 11 then 30
  else 31

/-- The days before the first of January of a year. -/
def daysBeforeYear (year : ℕ) : ℕ :=
  (year - 1) * 365 + (year - 1) / 4 - (year - 1) / 100 + (year - 1) / 400

/-- The days of a year before the first day of a month. -/
def daysBeforeMonth (year : ℕ) : ℕ → ℕ
  | 0 => 0
  | 1 => 0
  | month + 2 => daysBeforeMonth year (month + 1) + daysInMonth year (month + 1)

/-- The number of a date, which need not exist. -/
def dayNumber (year month day : ℕ) : ℕ :=
  daysBeforeYear year + daysBeforeMonth year month + (day - 1)

/-- The greatest number from 1 on whose bound is not above `n`. -/
def greatestBelow (f : ℕ → ℕ) (n bound : ℕ) : ℕ := Nat.findGreatest (fun k => f k ≤ n) bound

/-- The year of a day. -/
def yearOfDay (day : ℕ) : ℕ := greatestBelow daysBeforeYear day (day / 365 + 1)

/-- The month of a day. -/
def monthOfDay (day : ℕ) : ℕ :=
  greatestBelow (daysBeforeMonth (yearOfDay day)) (day - daysBeforeYear (yearOfDay day)) 12

/-- The day of the month of a day. -/
def dayOfMonth (day : ℕ) : ℕ :=
  day - daysBeforeYear (yearOfDay day) - daysBeforeMonth (yearOfDay day) (monthOfDay day) + 1

variable {year month day n k bound : ℕ} {f : ℕ → ℕ}

theorem greatestBelow_eq (hf : Monotone f) (hb : k ≤ bound) (hk : f k ≤ n) (hn : n < f (k + 1)) :
    greatestBelow f n bound = k := by
  refine Nat.findGreatest_eq_iff.mpr ⟨hb, fun _ => hk, fun j hj _ hle => ?_⟩
  have hmono : f (k + 1) ≤ f j := hf hj
  omega

theorem daysBeforeYear_succ (h : 1 ≤ year) :
    daysBeforeYear (year + 1) = daysBeforeYear year + if isLeap year then 366 else 365 := by
  obtain ⟨n, rfl⟩ : ∃ n, year = n + 1 := ⟨year - 1, by omega⟩
  have hfour : (n + 1) / 4 = n / 4 + if (n + 1) % 4 = 0 then 1 else 0 := by
    split_ifs <;> omega
  have hhundred : (n + 1) / 100 = n / 100 + if (n + 1) % 100 = 0 then 1 else 0 := by
    split_ifs <;> omega
  have hfourHundred : (n + 1) / 400 = n / 400 + if (n + 1) % 400 = 0 then 1 else 0 := by
    split_ifs <;> omega
  have hle : n / 100 ≤ n / 4 := Nat.div_le_div_left (by decide) (by decide)
  -- the years of a century are years of four, and those of four centuries are both
  have hcentury : (n + 1) % 100 = 0 → (n + 1) % 4 = 0 := by omega
  have hcenturies : (n + 1) % 400 = 0 → (n + 1) % 100 = 0 := by omega
  have hleap : isLeap (n + 1) = true ↔
      (n + 1) % 4 = 0 ∧ ((n + 1) % 100 ≠ 0 ∨ (n + 1) % 400 = 0) := by
    simp [isLeap]
  simp only [daysBeforeYear, Nat.add_sub_cancel, hfour, hhundred, hfourHundred, hleap]
  clear hfour hhundred hfourHundred hleap
  by_cases h4 : (n + 1) % 4 = 0
  · by_cases h100 : (n + 1) % 100 = 0
    · by_cases h400 : (n + 1) % 400 = 0
      · simp only [h4, h100, h400, if_true, ne_eq, not_true, false_or, and_self]
        omega
      · simp only [h4, h100, h400, if_true, if_false, ne_eq, not_true, false_or, and_false]
        omega
    · have h400 : ¬ (n + 1) % 400 = 0 := fun h => h100 (hcenturies h)
      simp only [h4, h100, h400, if_true, if_false, ne_eq, not_false_iff, true_or, and_self]
      omega
  · have h100 : ¬ (n + 1) % 100 = 0 := fun h => h4 (hcentury h)
    have h400 : ¬ (n + 1) % 400 = 0 := fun h => h100 (hcenturies h)
    simp only [h4, h100, h400, if_false, false_and]
    omega

theorem daysBeforeYear_monotone : Monotone daysBeforeYear := by
  refine monotone_nat_of_le_succ fun year => ?_
  rcases Nat.eq_zero_or_pos year with rfl | h
  · simp [daysBeforeYear]
  · rw [daysBeforeYear_succ h]
    exact Nat.le_add_right _ _

theorem daysBeforeMonth_monotone : Monotone (daysBeforeMonth year) := by
  refine monotone_nat_of_le_succ fun month => ?_
  match month with
  | 0 => exact Nat.le_refl _
  | month + 1 => exact Nat.le_add_right _ _

/-- The months of a year fill it. -/
theorem daysBeforeMonth_year :
    daysBeforeMonth year 13 = if isLeap year then 366 else 365 := by
  simp only [daysBeforeMonth, daysInMonth]
  cases isLeap year <;> rfl

/-- A date that exists. -/
structure ValidDate (year month day : ℕ) : Prop where
  year_pos : 1 ≤ year
  month_pos : 1 ≤ month
  month_le : month ≤ 12
  day_pos : 1 ≤ day
  day_le : day ≤ daysInMonth year month

instance : Decidable (ValidDate year month day) :=
  decidable_of_iff (1 ≤ year ∧ 1 ≤ month ∧ month ≤ 12 ∧ 1 ≤ day ∧ day ≤ daysInMonth year month)
    ⟨fun ⟨hy, hm, hm', hd, hd'⟩ => ⟨hy, hm, hm', hd, hd'⟩,
      fun ⟨hy, hm, hm', hd, hd'⟩ => ⟨hy, hm, hm', hd, hd'⟩⟩

/-- A date that exists is read back from its number. -/
theorem date_of_dayNumber (h : ValidDate year month day) :
    yearOfDay (dayNumber year month day) = year ∧ monthOfDay (dayNumber year month day) = month ∧
      dayOfMonth (dayNumber year month day) = day := by
  obtain ⟨hyear, hmonth, hmonth', hday, hday'⟩ := h
  have hnext : daysBeforeMonth year (month + 1) =
      daysBeforeMonth year month + daysInMonth year month := by
    obtain ⟨m, rfl⟩ : ∃ m, month = m + 1 := ⟨month - 1, by omega⟩
    rfl
  have hin : daysBeforeMonth year month + (day - 1) < daysBeforeMonth year 13 := by
    have hle : daysBeforeMonth year (month + 1) ≤ daysBeforeMonth year 13 :=
      daysBeforeMonth_monotone (by omega)
    omega
  have hyearOf : yearOfDay (dayNumber year month day) = year := by
    refine greatestBelow_eq daysBeforeYear_monotone ?_ ?_ ?_
    · have hlow : (year - 1) * 365 ≤ daysBeforeYear year := by
        unfold daysBeforeYear
        omega
      have hdiv : year - 1 ≤ dayNumber year month day / 365 := by
        rw [Nat.le_div_iff_mul_le (by omega)]
        unfold dayNumber
        omega
      omega
    · unfold dayNumber
      omega
    · rw [daysBeforeYear_succ hyear, ← daysBeforeMonth_year]
      unfold dayNumber
      omega
  have hrest : dayNumber year month day - daysBeforeYear year =
      daysBeforeMonth year month + (day - 1) := by
    unfold dayNumber
    omega
  have hmonthOf : monthOfDay (dayNumber year month day) = month := by
    rw [monthOfDay, hyearOf, hrest]
    exact greatestBelow_eq daysBeforeMonth_monotone hmonth' (by omega) (by omega)
  refine ⟨hyearOf, hmonthOf, ?_⟩
  rw [dayOfMonth, hyearOf, hmonthOf, hrest]
  omega

/-- Every day has a date that exists. -/
theorem validDate_of_day (n : ℕ) : ValidDate (yearOfDay n) (monthOfDay n) (dayOfMonth n) ∧
    dayNumber (yearOfDay n) (monthOfDay n) (dayOfMonth n) = n := by
  have hyear : daysBeforeYear (yearOfDay n) ≤ n ∧ 1 ≤ yearOfDay n := by
    have hfirst : daysBeforeYear 1 ≤ n := Nat.zero_le n
    exact ⟨Nat.findGreatest_spec (P := fun k => daysBeforeYear k ≤ n) (Nat.le_add_left 1 _) hfirst,
      Nat.le_findGreatest (P := fun k => daysBeforeYear k ≤ n) (Nat.le_add_left 1 _) hfirst⟩
  have hnext : n < daysBeforeYear (yearOfDay n + 1) := by
    by_contra hle
    rw [not_lt] at hle
    have hbound : yearOfDay n + 1 ≤ n / 365 + 1 := by
      have hlow : yearOfDay n * 365 ≤ daysBeforeYear (yearOfDay n + 1) := by
        unfold daysBeforeYear
        omega
      have hdiv : yearOfDay n ≤ n / 365 := by
        rw [Nat.le_div_iff_mul_le (by omega)]
        omega
      omega
    have hge := Nat.le_findGreatest (P := fun k => daysBeforeYear k ≤ n) hbound hle
    have hself : yearOfDay n = Nat.findGreatest (fun k => daysBeforeYear k ≤ n) (n / 365 + 1) := rfl
    omega
  have hmonth : daysBeforeMonth (yearOfDay n) (monthOfDay n) ≤ n - daysBeforeYear (yearOfDay n) ∧
      1 ≤ monthOfDay n ∧ monthOfDay n ≤ 12 := by
    have hfirst : daysBeforeMonth (yearOfDay n) 1 ≤ n - daysBeforeYear (yearOfDay n) :=
      Nat.zero_le _
    exact ⟨Nat.findGreatest_spec (P := fun k => daysBeforeMonth (yearOfDay n) k ≤ _) (by omega) hfirst,
      Nat.le_findGreatest (P := fun k => daysBeforeMonth (yearOfDay n) k ≤ _) (by omega) hfirst,
      Nat.findGreatest_le _⟩
  have hlast : n - daysBeforeYear (yearOfDay n) <
      daysBeforeMonth (yearOfDay n) (monthOfDay n + 1) := by
    rcases Nat.lt_or_ge (monthOfDay n) 12 with hlt | hge
    · by_contra hle
      rw [not_lt] at hle
      have hbig := Nat.le_findGreatest (P := fun k => daysBeforeMonth (yearOfDay n) k ≤ _) hlt hle
      have hself : monthOfDay n = Nat.findGreatest
        (fun k => daysBeforeMonth (yearOfDay n) k ≤ n - daysBeforeYear (yearOfDay n)) 12 := rfl
      omega
    · have htwelve : monthOfDay n = 12 := by omega
      rw [htwelve, daysBeforeMonth_year]
      rw [daysBeforeYear_succ hyear.2] at hnext
      omega
  have hlength : daysBeforeMonth (yearOfDay n) (monthOfDay n + 1) =
      daysBeforeMonth (yearOfDay n) (monthOfDay n) + daysInMonth (yearOfDay n) (monthOfDay n) := by
    obtain ⟨m, hm⟩ : ∃ m, monthOfDay n = m + 1 := ⟨monthOfDay n - 1, by omega⟩
    rw [hm]
    rfl
  refine ⟨⟨hyear.2, hmonth.2.1, hmonth.2.2, Nat.le_add_left 1 _, ?_⟩, ?_⟩
  · unfold dayOfMonth
    omega
  · unfold dayNumber dayOfMonth
    omega

/-! ## Moments -/

/-- A date with a time of day, which need not exist. -/
structure Moment where
  year : ℕ
  month : ℕ
  day : ℕ
  hour : ℕ
  minute : ℕ
  second : ℕ
  millisecond : ℕ
  deriving DecidableEq, Repr

/-- A moment that exists. -/
structure Moment.Valid (m : Moment) : Prop where
  date : ValidDate m.year m.month m.day
  hour_lt : m.hour < 24
  minute_lt : m.minute < 60
  second_lt : m.second < 60
  millisecond_lt : m.millisecond < 1000

instance (m : Moment) : Decidable m.Valid :=
  decidable_of_iff (ValidDate m.year m.month m.day ∧ m.hour < 24 ∧ m.minute < 60 ∧ m.second < 60 ∧
      m.millisecond < 1000)
    ⟨fun ⟨hd, hh, hm, hs, hms⟩ => ⟨hd, hh, hm, hs, hms⟩,
      fun ⟨hd, hh, hm, hs, hms⟩ => ⟨hd, hh, hm, hs, hms⟩⟩

/-- The milliseconds of a day. -/
def dayMilliseconds : ℕ := 86400000

/-- The milliseconds from the start of the year 1 to a moment. -/
def Moment.milliseconds (m : Moment) : ℕ :=
  dayNumber m.year m.month m.day * dayMilliseconds +
    (((m.hour * 60 + m.minute) * 60 + m.second) * 1000 + m.millisecond)

/-- The moment so many milliseconds after the start of the year 1. -/
def momentAt (milliseconds : ℕ) : Moment :=
  let days := milliseconds / dayMilliseconds
  let time := milliseconds % dayMilliseconds
  { year := yearOfDay days
    month := monthOfDay days
    day := dayOfMonth days
    hour := time / 3600000
    minute := time / 60000 % 60
    second := time / 1000 % 60
    millisecond := time % 1000 }

theorem momentAt_valid (milliseconds : ℕ) : (momentAt milliseconds).Valid where
  date := (validDate_of_day _).1
  hour_lt := by
    have hlt : milliseconds % dayMilliseconds < dayMilliseconds := Nat.mod_lt _ (by decide)
    simp only [momentAt, dayMilliseconds] at hlt ⊢
    omega
  minute_lt := Nat.mod_lt _ (by decide)
  second_lt := Nat.mod_lt _ (by decide)
  millisecond_lt := Nat.mod_lt _ (by decide)

/-- A moment that exists is read back from its milliseconds. -/
theorem momentAt_milliseconds {m : Moment} (h : m.Valid) : momentAt m.milliseconds = m := by
  obtain ⟨year, month, day, hour, minute, second, millisecond⟩ := m
  obtain ⟨hdate, hhour, hminute, hsecond, hmillisecond⟩ := h
  dsimp only at hdate hhour hminute hsecond hmillisecond
  obtain ⟨hyear, hmonth, hday⟩ := date_of_dayNumber hdate
  have hlt : ((hour * 60 + minute) * 60 + second) * 1000 + millisecond < dayMilliseconds := by
    unfold dayMilliseconds
    omega
  have hdays : Moment.milliseconds ⟨year, month, day, hour, minute, second, millisecond⟩ /
      dayMilliseconds = dayNumber year month day := by
    rw [Moment.milliseconds, Nat.mul_comm, Nat.mul_add_div (by decide), Nat.div_eq_of_lt hlt,
      Nat.add_zero]
  have htime : Moment.milliseconds ⟨year, month, day, hour, minute, second, millisecond⟩ %
      dayMilliseconds = ((hour * 60 + minute) * 60 + second) * 1000 + millisecond := by
    rw [Moment.milliseconds, Nat.mul_comm, Nat.mul_add_mod, Nat.mod_eq_of_lt hlt]
  simp only [momentAt, hdays, htime, hyear, hmonth, hday, Moment.mk.injEq, true_and]
  omega

theorem milliseconds_momentAt (milliseconds : ℕ) :
    (momentAt milliseconds).milliseconds = milliseconds := by
  have hday := (validDate_of_day (milliseconds / dayMilliseconds)).2
  have hdivmod := Nat.div_add_mod milliseconds dayMilliseconds
  have hlt : milliseconds % dayMilliseconds < dayMilliseconds := Nat.mod_lt _ (by decide)
  simp only [Moment.milliseconds, momentAt, hday]
  simp only [dayMilliseconds] at hdivmod hlt ⊢
  omega

example : momentAt (Moment.milliseconds ⟨2024, 2, 29, 23, 59, 59, 999⟩) =
    ⟨2024, 2, 29, 23, 59, 59, 999⟩ := by decide +kernel

end AthenaContext.GregorianCalendar
