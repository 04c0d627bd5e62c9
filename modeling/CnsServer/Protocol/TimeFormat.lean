/-
Instants as text (`time_format.cpp`).

* `digits`: a number in a field of fixed width;
* `formatUtcRfc3339Millis`: an instant in milliseconds, rounded down;
* `isDatetime_format`: the backend takes it for an instant.
-/
import CnsServer.Library.Schema
import CnsServer.Store.PostgresStore

namespace CnsServer

/-! ### Format -/

def digit (n : ℕ) : Char := Char.ofNat ('0'.toNat + n % 10)

/-- `%0…u`, for a number that is not longer than its field. -/
def digits : ℕ → ℕ → List Char
  | 0, _ => []
  | width + 1, n => digits width (n / 10) ++ [digit n]

/-- `FormatUtcRfc3339Millis`. The clock counts nanoseconds in 64 bits, so that its years
have four digits. -/
def formatUtcRfc3339Millis (value : TimePoint) : String :=
  let milliseconds := value / 1000000
  let date := civilOfDays (milliseconds / 86400000)
  let time := (milliseconds % 86400000).toNat
  String.ofList (digits 4 date.year.toNat ++ '-' :: digits 2 date.month ++
    '-' :: digits 2 date.day ++ 'T' :: digits 2 (time / 3600000) ++
    ':' :: digits 2 (time / 60000 % 60) ++ ':' :: digits 2 (time / 1000 % 60) ++
    '.' :: digits 3 (time % 1000) ++ ['Z'])

example : formatUtcRfc3339Millis 1709207999123456789 = "2024-02-29T11:59:59.123Z" := by
  decide +kernel

/-! ### It is an instant -/

/-- A digit reads back as the last one of its number. -/
lemma digit_spec (n : ℕ) : (digit n).isDigit = true ∧ (digit n).toNat - '0'.toNat = n % 10 := by
  have hspec : ∀ k < 10, (Char.ofNat ('0'.toNat + k)).isDigit = true ∧
      (Char.ofNat ('0'.toNat + k)).toNat - '0'.toNat = k := by decide
  exact hspec (n % 10) (Nat.mod_lt n (by decide))

lemma twoDigits_digit (m n : ℕ) : twoDigits (digit m) (digit n) = m % 10 * 10 + n % 10 := by
  rw [twoDigits, (digit_spec m).2, (digit_spec n).2]

/-- The years of the clock. -/
lemma year_of_clock {value : ℤ} (h : InClockRange value) :
    1600 ≤ (civilOfDays (value / 1000000 / 86400000)).year ∧
      (civilOfDays (value / 1000000 / 86400000)).year < 9999 := by
  obtain ⟨hlow, hhigh⟩ := h
  have hdays : (-106752 : ℤ) ≤ value / 1000000 / 86400000 ∧
    value / 1000000 / 86400000 ≤ 106751 := by
    omega
  generalize value / 1000000 / 86400000 = days at hdays
  have hday : ((days + 719468) % 146097).toNat < 146097 := by omega
  have hyear := (yearAndDay_spec hday).1
  simp only [civilOfDays]
  split
  · omega
  · omega

/-- **An instant of the clock** is written as an instant. -/
lemma isDatetime_format {value : ℤ} (h : InClockRange value) :
    isDatetime (formatUtcRfc3339Millis value) = true := by
  obtain ⟨hyear, hyear'⟩ := year_of_clock h
  have hdate := isDate_civilOfDays (value / 1000000 / 86400000)
  have hmonth := hdate.1
  have hday : (civilOfDays (value / 1000000 / 86400000)).day ≤ 31 := by
    refine hdate.2.2.trans ?_
    rw [daysInMonth]
    repeat' split
    all_goals decide
  have htime : (value / 1000000 % 86400000).toNat < 86400000 := by omega
  simp only [formatUtcRfc3339Millis]
  set date := civilOfDays (value / 1000000 / 86400000)
  set time := (value / 1000000 % 86400000).toNat
  have hnumbers :
      (twoDigits (digit (date.year.toNat / 10 / 10 / 10))
        (digit (date.year.toNat / 10 / 10)) * 100 +
        twoDigits (digit (date.year.toNat / 10)) (digit date.year.toNat) : ℕ) = date.year ∧
      twoDigits (digit (date.month / 10)) (digit date.month) = date.month ∧
      twoDigits (digit (date.day / 10)) (digit date.day) = date.day := by
    simp only [twoDigits_digit]
    omega
  rw [isDatetime, String.toList_ofList]
  simp only [digits, List.nil_append, List.cons_append]
  rw [hnumbers.1, hnumbers.2.1, hnumbers.2.2, decide_eq_true hdate]
  simp only [List.all_cons, List.all_nil, digit_spec, twoDigits_digit, Bool.and_true, Bool.true_and]
  simp [isSecondsAndZone, isFractionAndZone, isZone, digit_spec, twoDigits_digit]
  omega

end CnsServer
