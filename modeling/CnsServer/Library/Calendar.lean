/-
The calendar of the instants: the date of a day, counted from 1 January 1970.

* `isLeapYear`, `daysInMonth`, `IsDate`: the dates there are;
* `civilOfDays`: the date of a day.  The years are counted from March on, so that the
  29th of February ends the year, and 400 of them have the same number of days;
* `isDate_civilOfDays`: it is a date;
* `civilOfDays_succ`: **the date of the next day** is the next date;
* `civilOfDays_before`: a later day has a later date.
-/
import Mathlib.Data.Int.Notation
import Mathlib.Data.Nat.Notation
import Mathlib.Order.Monotone.Basic
import Mathlib.Tactic.Common

namespace CnsServer

/-! ### Dates -/

/-- A leap year. -/
def isLeapYear (year : ℤ) : Bool := year % 4 = 0 && (year % 100 ≠ 0 || year % 400 = 0)

/-- The number of days of a month. -/
def daysInMonth (year : ℤ) (month : ℕ) : ℕ :=
  if month = 2 then if isLeapYear year then 29 else 28
  else if month = 4 || month = 6 || month = 9 || month = 11 then 30
  else 31

/-- A date of the calendar. -/
def IsDate (year : ℤ) (month day : ℕ) : Prop :=
  (1 ≤ month ∧ month ≤ 12) ∧ 1 ≤ day ∧ day ≤ daysInMonth year month

instance (year : ℤ) (month day : ℕ) : Decidable (IsDate year month day) :=
  inferInstanceAs (Decidable (_ ∧ _))

structure CivilDate where
  year : ℤ
  month : ℕ
  day : ℕ
  deriving DecidableEq, Repr

/-! ### The date of a day -/

/-- The month and the day of the month, of a day of a year from March on. -/
def monthAndDay (dayOfYear : ℕ) : ℕ × ℕ :=
  let fromMarch := (5 * dayOfYear + 2) / 153
  (if fromMarch < 10 then fromMarch + 3 else fromMarch - 9,
    dayOfYear - (153 * fromMarch + 2) / 5 + 1)

/-- The year of a day among 400 years from March on, and the day of the year. -/
def yearAndDay (dayOfEra : ℕ) : ℕ × ℕ :=
  -- the last century and the last year of four are a day longer than the others
  let century := min (dayOfEra / 36524) 3
  let dayOfCentury := dayOfEra - century * 36524
  let four := dayOfCentury / 1461
  let dayOfFour := dayOfCentury - four * 1461
  let year := min (dayOfFour / 365) 3
  (century * 100 + four * 4 + year, dayOfFour - year * 365)

/-- The date of a day. -/
def civilOfDays (days : ℤ) : CivilDate :=
  let fromMarch := days + 719468
  let year := yearAndDay (fromMarch % 146097).toNat
  let date := monthAndDay year.2
  { year := fromMarch / 146097 * 400 + year.1 + if date.1 ≤ 2 then 1 else 0
    month := date.1
    day := date.2 }

example : civilOfDays 0 = ⟨1970, 1, 1⟩ := by decide

/-! ### It is a date -/

/-- The days of a year from March on are those of its months; the last one is in a
February of 29 days. -/
lemma monthAndDay_spec : ∀ dayOfYear < 366,
    (1 ≤ (monthAndDay dayOfYear).1 ∧ (monthAndDay dayOfYear).1 ≤ 12) ∧
      1 ≤ (monthAndDay dayOfYear).2 ∧
      (monthAndDay dayOfYear).2 ≤
        daysInMonth (if dayOfYear = 365 then 0 else 1) (monthAndDay dayOfYear).1 ∧
      (dayOfYear = 365 → (monthAndDay dayOfYear).1 = 2) := by
  decide +kernel

/-- **The year of a day**: there are 400 of them, and only one before a leap year has a
day more. -/
lemma yearAndDay_spec {dayOfEra : ℕ} (h : dayOfEra < 146097) :
    (yearAndDay dayOfEra).1 < 400 ∧ (yearAndDay dayOfEra).2 < 366 ∧
      ((yearAndDay dayOfEra).2 = 365 → isLeapYear ((yearAndDay dayOfEra).1 + 1) = true) := by
  simp only [yearAndDay]
  set century := min (dayOfEra / 36524) 3 with hcentury
  set dayOfCentury := dayOfEra - century * 36524 with hdayOfCentury
  have hlong : dayOfCentury ≤ 36524 ∧ (dayOfCentury = 36524 → century = 3) := by omega
  set four := dayOfCentury / 1461 with hfour
  set dayOfFour := dayOfCentury - four * 1461 with hdayOfFour
  have hfourth : four ≤ 24 ∧ dayOfFour ≤ 1460 ∧
      (dayOfFour = 1460 → four = 24 → dayOfCentury = 36524) := by omega
  refine ⟨by omega, by omega, fun hlast => ?_⟩
  have hyear : min (dayOfFour / 365) 3 = 3 ∧ dayOfFour = 1460 := by omega
  rw [hyear.1, isLeapYear]
  simp only [Bool.and_eq_true, Bool.or_eq_true, decide_eq_true_eq, ne_eq]
  by_cases hend : four = 24
  · have hlastCentury := hlong.2 (hfourth.2.2 hyear.2 hend)
    omega
  · omega

lemma isLeapYear_era (era : ℤ) (year : ℤ) : isLeapYear (era * 400 + year) = isLeapYear year := by
  have h4 : (era * 400 + year) % 4 = year % 4 := by omega
  have h100 : (era * 400 + year) % 100 = year % 100 := by omega
  have h400 : (era * 400 + year) % 400 = year % 400 := by omega
  rw [isLeapYear, isLeapYear, h4, h100, h400]

/-- A common year has the fewest days. -/
lemma daysInMonth_common (year : ℤ) (month : ℕ) : daysInMonth 1 month ≤ daysInMonth year month := by
  rw [daysInMonth, daysInMonth]
  split
  · rw [if_neg (by decide)]
    split
    · decide
    · decide
  · exact Nat.le_refl _

/-- **The date of a day is a date.** -/
lemma isDate_civilOfDays (days : ℤ) :
    IsDate (civilOfDays days).year (civilOfDays days).month (civilOfDays days).day := by
  have hday : ((days + 719468) % 146097).toNat < 146097 := by omega
  obtain ⟨-, hlength, hleap⟩ := yearAndDay_spec hday
  simp only [civilOfDays]
  set year := yearAndDay ((days + 719468) % 146097).toNat
  obtain ⟨hmonth, hone, hmax, hlast⟩ := monthAndDay_spec year.2 hlength
  refine ⟨hmonth, hone, Nat.le_trans hmax ?_⟩
  by_cases hend : year.2 = 365
  · have hfebruary := hlast hend
    have hyear := hleap hend
    rw [if_pos hend, hfebruary, if_pos (by decide), Int.add_assoc, daysInMonth, daysInMonth,
      if_pos rfl, if_pos rfl, isLeapYear_era, hyear]
    decide
  · rw [if_neg hend]
    exact daysInMonth_common _ _

/-! ### The years of 400 -/

/-- The number of days of a year from March on. -/
def yearLength (year : ℤ) : ℕ := if isLeapYear (year + 1) then 366 else 365

/-- The number of days before a year from March on, of 400 years. -/
def daysBefore (year : ℕ) : ℕ := 365 * year + year / 4 - year / 100 + year / 400

/-- The days before the next year. -/
lemma daysBefore_succ (year : ℕ) : daysBefore (year + 1) = daysBefore year + yearLength year := by
  have hcenturies : year / 100 ≤ year / 4 := Nat.div_le_div_left (by decide) (by decide)
  have hleap : isLeapYear (year + 1) = true ↔
      4 ∣ year + 1 ∧ (¬ 100 ∣ year + 1 ∨ 400 ∣ year + 1) := by
    simp only [isLeapYear, Bool.and_eq_true, Bool.or_eq_true, decide_eq_true_eq]
    omega
  rw [yearLength, daysBefore, daysBefore, Nat.succ_div, Nat.succ_div, Nat.succ_div]
  by_cases h400 : 400 ∣ year + 1
  · have h100 : 100 ∣ year + 1 := Nat.dvd_trans (by decide) h400
    have h4 : 4 ∣ year + 1 := Nat.dvd_trans (by decide) h100
    rw [if_pos h4, if_pos h100, if_pos h400, if_pos (hleap.mpr ⟨h4, .inr h400⟩)]
    omega
  · by_cases h100 : 100 ∣ year + 1
    · have h4 : 4 ∣ year + 1 := Nat.dvd_trans (by decide) h100
      rw [if_pos h4, if_pos h100, if_neg h400, if_neg fun h => (hleap.mp h).2.elim (· h100) h400]
      omega
    · by_cases h4 : 4 ∣ year + 1
      · rw [if_pos h4, if_neg h100, if_neg h400, if_pos (hleap.mpr ⟨h4, .inl h100⟩)]
        omega
      · rw [if_neg h4, if_neg h100, if_neg h400, if_neg fun h => h4 (hleap.mp h).1]
        omega

/-- The days before a year, by centuries, fours and years. -/
lemma daysBefore_split {century four year : ℕ} (hcentury : century ≤ 3) (hfour : four ≤ 24)
    (hyear : year ≤ 3) :
    daysBefore (century * 100 + four * 4 + year) = century * 36524 + four * 1461 + year * 365 := by
  rw [daysBefore]
  omega

/-- The days before a day are those of the years before its own and of its own. -/
lemma yearAndDay_sum {dayOfEra : ℕ} (h : dayOfEra < 146097) :
    dayOfEra = daysBefore (yearAndDay dayOfEra).1 + (yearAndDay dayOfEra).2 ∧
      (yearAndDay dayOfEra).2 < yearLength (yearAndDay dayOfEra).1 := by
  have hspec := yearAndDay_spec h
  constructor
  · simp only [yearAndDay]
    set century := min (dayOfEra / 36524) 3 with hcentury
    set dayOfCentury := dayOfEra - century * 36524 with hdayOfCentury
    have hcenturies : century ≤ 3 ∧ century * 36524 ≤ dayOfEra := by omega
    set four := dayOfCentury / 1461 with hfour
    set dayOfFour := dayOfCentury - four * 1461 with hdayOfFour
    have hfours : four ≤ 24 ∧ four * 1461 ≤ dayOfCentury := by omega
    have hyears : min (dayOfFour / 365) 3 * 365 ≤ dayOfFour := by omega
    rw [daysBefore_split hcenturies.1 hfours.1 (Nat.min_le_right _ 3)]
    clear_value century dayOfCentury four dayOfFour
    omega
  · rw [yearLength]
    split
    · exact hspec.2.1
    · next hcommon =>
        have hnot : (yearAndDay dayOfEra).2 ≠ 365 := fun hlast => hcommon (hspec.2.2 hlast)
        omega

lemma daysBefore_mono : Monotone daysBefore :=
  monotone_nat_of_le_succ fun year => by rw [daysBefore_succ]; omega

/-- **There is one year of a day**, and one day of that year. -/
lemma yearAndDay_unique {year day : ℕ} (hday : day < yearLength year)
    (h : daysBefore year + day < 146097) :
    yearAndDay (daysBefore year + day) = (year, day) := by
  obtain ⟨hsum, hless⟩ := yearAndDay_sum h
  set found := yearAndDay (daysBefore year + day)
  have hyear : found.1 = year := by
    rcases Nat.lt_trichotomy found.1 year with hlt | heq | hgt
    · have hbefore := daysBefore_mono (show found.1 + 1 ≤ year from hlt)
      rw [daysBefore_succ] at hbefore
      omega
    · exact heq
    · have hbefore := daysBefore_mono (show year + 1 ≤ found.1 from hgt)
      rw [daysBefore_succ] at hbefore
      omega
  refine Prod.ext hyear ?_
  rw [hyear] at hsum
  show found.2 = day
  omega

/-- The year and the day of the next day. -/
lemma yearAndDay_succ {dayOfEra : ℕ} (h : dayOfEra + 1 < 146097) :
    yearAndDay (dayOfEra + 1) =
      if (yearAndDay dayOfEra).2 + 1 < yearLength (yearAndDay dayOfEra).1 then
        ((yearAndDay dayOfEra).1, (yearAndDay dayOfEra).2 + 1)
      else ((yearAndDay dayOfEra).1 + 1, 0) := by
  obtain ⟨hsum, hlength⟩ := yearAndDay_sum (Nat.lt_of_succ_lt h)
  split
  · next hinside =>
      rw [← yearAndDay_unique hinside (by omega)]
      congr 1
      omega
  · next hend =>
      have hpositive : 0 < yearLength ((yearAndDay dayOfEra).1 + 1 : ℕ) := by
        rw [yearLength]
        split <;> decide
      have hnext := daysBefore_succ (yearAndDay dayOfEra).1
      rw [← yearAndDay_unique hpositive (by omega)]
      congr 1
      omega

/-! ### The next day -/

/-- The date after a date. -/
def CivilDate.next (date : CivilDate) : CivilDate :=
  if date.day < daysInMonth date.year date.month then { date with day := date.day + 1 }
  else if date.month < 12 then ⟨date.year, date.month + 1, 1⟩
  else ⟨date.year + 1, 1, 1⟩

/-- The date of a day of a year from March on. -/
def CivilDate.ofDayOfYear (year : ℤ) (day : ℕ) : CivilDate :=
  { year := year + if (monthAndDay day).1 ≤ 2 then 1 else 0
    month := (monthAndDay day).1
    day := (monthAndDay day).2 }

/-- A day within a year from March on, and the day after it. -/
lemma monthAndDay_succ : ∀ leap : Bool, ∀ day < 365, (leap = true ∨ day < 364) →
    let date := monthAndDay day
    let length := daysInMonth (if leap then 0 else 1) date.1
    (date.2 < length ∨ date.1 ≠ 2) ∧ monthAndDay (day + 1) =
      if date.2 < length then (date.1, date.2 + 1)
      else if date.1 < 12 then (date.1 + 1, 1) else (1, 1) := by
  decide +kernel

/-- The length of a month, where the year from March on is known. -/
lemma daysInMonth_fromMarch (year : ℤ) (month : ℕ) :
    daysInMonth (year + if month ≤ 2 then 1 else 0) month =
      daysInMonth (if isLeapYear (year + 1) then 0 else 1) month := by
  by_cases hmonth : month = 2
  · subst hmonth
    rw [daysInMonth, daysInMonth, if_pos rfl, if_pos rfl, if_pos (Nat.le_refl 2)]
    cases isLeapYear (year + 1) <;> rfl
  · rw [daysInMonth, daysInMonth, if_neg hmonth, if_neg hmonth]

/-- The day after a day within a year. -/
lemma next_ofDayOfYear {year : ℤ} {day : ℕ} (h : day + 1 < yearLength year) :
    (CivilDate.ofDayOfYear year day).next = CivilDate.ofDayOfYear year (day + 1) := by
  have hday : day < 365 ∧ (isLeapYear (year + 1) = true ∨ day < 364) := by
    rw [yearLength] at h
    split at h
    · next hleap => exact ⟨by omega, .inl hleap⟩
    · exact ⟨by omega, .inr (by omega)⟩
  obtain ⟨hfebruary, hsucc⟩ := monthAndDay_succ (isLeapYear (year + 1)) day hday.1 hday.2
  rw [CivilDate.next, CivilDate.ofDayOfYear, CivilDate.ofDayOfYear, hsucc]
  simp only [daysInMonth_fromMarch]
  by_cases hend : (monthAndDay day).2 <
      daysInMonth (if isLeapYear (year + 1) then 0 else 1) (monthAndDay day).1
  · rw [if_pos hend, if_pos hend]
  · have hnot := hfebruary.resolve_left hend
    rw [if_neg hend, if_neg hend]
    by_cases hmonth : (monthAndDay day).1 < 12
    · rw [if_pos hmonth, if_pos hmonth]
      have hsame : ((monthAndDay day).1 + 1 ≤ 2) = ((monthAndDay day).1 ≤ 2) := by
        rw [eq_iff_iff]
        omega
      simp only [hsame]
    · rw [if_neg hmonth, if_neg hmonth, if_neg (by omega), if_pos (by decide), Int.add_zero]

/-- The day after the last of a year, which is in February. -/
lemma next_lastOfYear {year : ℤ} {day : ℕ} (h : day + 1 = yearLength year) :
    (CivilDate.ofDayOfYear year day).next = CivilDate.ofDayOfYear (year + 1) 0 := by
  have hday : day = if isLeapYear (year + 1) then 365 else 364 := by
    rw [yearLength] at h
    split at h
    · next hleap => rw [if_pos hleap]; omega
    · next hleap => rw [if_neg hleap]; omega
  subst hday
  rw [CivilDate.next]
  simp only [CivilDate.ofDayOfYear, daysInMonth_fromMarch]
  cases isLeapYear (year + 1) with
  | true => simp [monthAndDay, daysInMonth]; decide
  | false => simp [monthAndDay, daysInMonth]; decide

lemma yearLength_era (era : ℤ) (year : ℤ) : yearLength (era * 400 + year) = yearLength year := by
  rw [yearLength, yearLength, Int.add_assoc, isLeapYear_era]

lemma civilOfDays_eq (days : ℤ) :
    civilOfDays days = .ofDayOfYear
      ((days + 719468) / 146097 * 400 + (yearAndDay ((days + 719468) % 146097).toNat).1)
      (yearAndDay ((days + 719468) % 146097).toNat).2 := rfl

/-- **The date of the next day** is the next date. -/
lemma civilOfDays_succ (days : ℤ) : civilOfDays (days + 1) = (civilOfDays days).next := by
  have hday : ((days + 719468) % 146097).toNat < 146097 := by omega
  rw [civilOfDays_eq, civilOfDays_eq]
  set era := (days + 719468) / 146097 with hera
  set dayOfEra := ((days + 719468) % 146097).toNat with hdayOfEra
  have hlength := (yearAndDay_sum hday).2
  rw [← yearLength_era era] at hlength
  by_cases hlast : dayOfEra = 146096
  · -- the last day of 400 years
    have hnext : (days + 1 + 719468) / 146097 = era + 1 ∧
        ((days + 1 + 719468) % 146097).toNat = 0 := by omega
    have hfound : yearAndDay dayOfEra = (399, 365) := by
      rw [hlast]
      decide
    rw [hfound, hnext.1, hnext.2, next_lastOfYear (by rw [yearLength_era]; decide)]
    congr 1
    rw [show yearAndDay 0 = (0, 0) by decide]
    omega
  · have hnext : (days + 1 + 719468) / 146097 = era ∧
        ((days + 1 + 719468) % 146097).toNat = dayOfEra + 1 := by omega
    rw [hnext.1, hnext.2, yearAndDay_succ (by omega), ← yearLength_era era]
    split
    · next hinside => rw [next_ofDayOfYear hinside]
    · next hend =>
        rw [next_lastOfYear (by omega)]
        congr 1
        push_cast
        omega

/-! ### Order -/

/-- A date is before another. -/
def CivilDate.Before (date other : CivilDate) : Prop :=
  date.year < other.year ∨ date.year = other.year ∧
    (date.month < other.month ∨ date.month = other.month ∧ date.day < other.day)

lemma CivilDate.Before.trans {date other last : CivilDate} (h : date.Before other)
    (h' : other.Before last) : date.Before last := by
  rw [CivilDate.Before] at *
  omega

lemma CivilDate.before_next (date : CivilDate) : date.Before date.next := by
  rw [CivilDate.next]
  split
  · exact .inr ⟨rfl, .inr ⟨rfl, Nat.lt_succ_self _⟩⟩
  · split
    · exact .inr ⟨rfl, .inl (Nat.lt_succ_self _)⟩
    · exact .inl (Int.lt_succ _)

/-- **A later day** has a later date. -/
lemma civilOfDays_before {days later : ℤ} (h : days < later) :
    (civilOfDays days).Before (civilOfDays later) := by
  obtain ⟨gap, rfl⟩ : ∃ gap : ℕ, later = days + 1 + gap := ⟨(later - (days + 1)).toNat, by omega⟩
  clear h
  induction gap with
  | zero =>
      rw [Int.natCast_zero, Int.add_zero, civilOfDays_succ]
      exact (civilOfDays days).before_next
  | succ gap ih =>
      rw [Int.natCast_succ, ← Int.add_assoc, civilOfDays_succ (days + 1 + gap)]
      exact ih.trans (CivilDate.before_next _)

end CnsServer
