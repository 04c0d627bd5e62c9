/-
Instants as text, and their order.

* `numberOf`, `WritesInstant`: a text of 24 characters that gives a millisecond;
* `digits_append_lt`: numbers in fields of one width compare as they do;
* `format_lt`: the text of a later millisecond is greater;
* `instant_texts_ordered`: **texts compare as the milliseconds do**.
-/
import CnsServer.Protocol.TimeFormat

namespace CnsServer

/-! ### The form -/

/-- The number that digits give. -/
def numberOf (chars : List Char) : ℕ :=
  chars.foldl (fun n c => n * 10 + (c.toNat - '0'.toNat)) 0

/-- The characters of a field. -/
def fieldAt (chars : List Char) (start width : ℕ) : List Char := (chars.drop start).take width

/-- The text has the form `YYYY-MM-DDTHH:MM:SS.mmmZ`, and gives the millisecond, counted
from the epoch. -/
structure WritesInstant (chars : List Char) (milliseconds : ℤ) : Prop where
  length : chars.length = 24
  separators : ∀ field ∈ [(4, '-'), (7, '-'), (10, 'T'), (13, ':'), (16, ':'), (19, '.'),
    (23, 'Z')],
    chars[field.1]? = some field.2
  digits : ∀ field ∈ [(0, 4), (5, 2), (8, 2), (11, 2), (14, 2), (17, 2), (20, 3)],
    (fieldAt chars field.1 field.2).all Char.isDigit = true
  date : civilOfDays (milliseconds / 86400000) =
    ⟨numberOf (fieldAt chars 0 4), numberOf (fieldAt chars 5 2), numberOf (fieldAt chars 8 2)⟩
  time : milliseconds % 86400000 =
    ((numberOf (fieldAt chars 11 2) * 60 + numberOf (fieldAt chars 14 2)) * 60 +
      numberOf (fieldAt chars 17 2)) * 1000 + numberOf (fieldAt chars 20 3)
  ranges : numberOf (fieldAt chars 11 2) < 24 ∧ numberOf (fieldAt chars 14 2) < 60 ∧
    numberOf (fieldAt chars 17 2) < 60

/-- **A field of digits** gives its number. -/
lemma numberOf_digits {width n : ℕ} (h : n < 10 ^ width) : numberOf (digits width n) = n := by
  induction width generalizing n with
  | zero =>
      rw [Nat.lt_one_iff.mp h]
      rfl
  | succ width ih =>
      rw [Nat.pow_succ] at h
      have hhead := ih (n := n / 10) (Nat.div_lt_of_lt_mul (by omega))
      rw [numberOf] at hhead
      rw [numberOf, digits, List.foldl_append, hhead, List.foldl_cons, List.foldl_nil,
        (digit_spec n).2]
      omega

lemma date_bounds (days : ℤ) : (civilOfDays days).month ≤ 12 ∧ (civilOfDays days).day ≤ 31 := by
  obtain ⟨⟨-, hmonth⟩, -, hday⟩ := isDate_civilOfDays days
  refine ⟨hmonth, hday.trans ?_⟩
  rw [daysInMonth]
  repeat' split
  all_goals decide

/-- **The text of an instant** has the form, and gives its millisecond. -/
lemma format_writes {value : ℤ} (h : InClockRange value) :
    WritesInstant (formatUtcRfc3339Millis value).toList (value / 1000000) := by
  obtain ⟨hyear, hyear'⟩ := year_of_clock h
  obtain ⟨hmonth, hday⟩ := date_bounds (value / 1000000 / 86400000)
  have htime : (value / 1000000 % 86400000).toNat < 86400000 ∧
      ((value / 1000000 % 86400000).toNat : ℤ) = value / 1000000 % 86400000 := by omega
  rw [formatUtcRfc3339Millis, String.toList_ofList]
  set date := civilOfDays (value / 1000000 / 86400000) with hdate
  set time := (value / 1000000 % 86400000).toNat
  set chars := digits 4 date.year.toNat ++ '-' :: digits 2 date.month ++
    '-' :: digits 2 date.day ++ 'T' :: digits 2 (time / 3600000) ++
    ':' :: digits 2 (time / 60000 % 60) ++ ':' :: digits 2 (time / 1000 % 60) ++
    '.' :: digits 3 (time % 1000) ++ ['Z'] with hchars
  have hfields : fieldAt chars 0 4 = digits 4 date.year.toNat ∧
      fieldAt chars 5 2 = digits 2 date.month ∧ fieldAt chars 8 2 = digits 2 date.day ∧
      fieldAt chars 11 2 = digits 2 (time / 3600000) ∧
      fieldAt chars 14 2 = digits 2 (time / 60000 % 60) ∧
      fieldAt chars 17 2 = digits 2 (time / 1000 % 60) ∧
      fieldAt chars 20 3 = digits 3 (time % 1000) := ⟨rfl, rfl, rfl, rfl, rfl, rfl, rfl⟩
  obtain ⟨hy, hm, hd, hh, hmin, hs, hms⟩ := hfields
  refine ⟨rfl, by simp [hchars, digits], ?_, ?_, ?_, ?_⟩
  · simp [hy, hm, hd, hh, hmin, hs, hms, digits, digit_spec]
  · rw [hy, hm, hd, numberOf_digits (by omega), numberOf_digits (by omega),
      numberOf_digits (by omega), ← hdate, Int.toNat_of_nonneg (by omega)]
  · rw [hh, hmin, hs, hms, numberOf_digits (by omega), numberOf_digits (by omega),
      numberOf_digits (by omega), numberOf_digits (by omega)]
    omega
  · rw [hh, hmin, hs, numberOf_digits (by omega), numberOf_digits (by omega),
      numberOf_digits (by omega)]
    omega

/-! ### Fields of digits -/

lemma digit_lt (m n : ℕ) : digit m < digit n ↔ m % 10 < n % 10 := by
  have hall : ∀ k < 10, ∀ l < 10,
      Char.ofNat ('0'.toNat + k) < Char.ofNat ('0'.toNat + l) ↔ k < l := by decide
  exact hall (m % 10) (Nat.mod_lt m (by decide)) (n % 10) (Nat.mod_lt n (by decide))

lemma digit_inj (m n : ℕ) : digit m = digit n ↔ m % 10 = n % 10 := by
  constructor
  · intro h
    rw [← (digit_spec m).2, h, (digit_spec n).2]
  · intro h
    rw [digit, digit, h]

/-- **Fields of one width** compare as their numbers, and then as what follows. -/
lemma digits_append_lt {width m n : ℕ} (hm : m < 10 ^ width) (hn : n < 10 ^ width)
    (rest other : List Char) :
    digits width m ++ rest < digits width n ++ other ↔ m < n ∨ m = n ∧ rest < other := by
  induction width generalizing m n rest other with
  | zero =>
      obtain rfl : m = 0 := Nat.lt_one_iff.mp hm
      obtain rfl : n = 0 := Nat.lt_one_iff.mp hn
      simp [digits]
  | succ width ih =>
      rw [Nat.pow_succ] at hm hn
      -- the last digit decides where the others are the same
      have hless : m < n ↔ m / 10 < n / 10 ∨ m / 10 = n / 10 ∧ m % 10 < n % 10 := by omega
      have hsame : m = n ↔ m / 10 = n / 10 ∧ m % 10 = n % 10 := by omega
      rw [digits, digits, List.append_assoc, List.append_assoc,
        ih (Nat.div_lt_of_lt_mul (by omega)) (Nat.div_lt_of_lt_mul (by omega)),
        List.singleton_append, List.singleton_append, List.cons_lt_cons_iff, digit_lt, digit_inj,
        hless, hsame]
      tauto

/-- A separator decides nothing. -/
lemma separator_lt (c : Char) (rest other : List Char) : c :: rest < c :: other ↔ rest < other := by
  simp

/-! ### Order -/

/-- **The text of a later millisecond** is greater. -/
lemma format_lt {value later : ℤ} (hvalue : InClockRange value)
    (hlater : InClockRange later) (h : value / 1000000 < later / 1000000) :
    formatUtcRfc3339Millis value < formatUtcRfc3339Millis later := by
  have hyear := year_of_clock hvalue
  have hyear' := year_of_clock hlater
  have hbounds := date_bounds (value / 1000000 / 86400000)
  have hbounds' := date_bounds (later / 1000000 / 86400000)
  -- either the date is before the other, or it is the same and the time of the day is
  have hfields : (civilOfDays (value / 1000000 / 86400000)).Before
        (civilOfDays (later / 1000000 / 86400000)) ∨
      civilOfDays (value / 1000000 / 86400000) = civilOfDays (later / 1000000 / 86400000) ∧
        (value / 1000000 % 86400000).toNat < (later / 1000000 % 86400000).toNat := by
    by_cases hdays : value / 1000000 / 86400000 = later / 1000000 / 86400000
    · exact .inr ⟨by rw [hdays], by omega⟩
    · exact .inl (civilOfDays_before (by omega))
  rw [String.lt_iff]
  simp only [formatUtcRfc3339Millis, String.toList_ofList, List.append_assoc, List.cons_append]
  generalize civilOfDays (value / 1000000 / 86400000) = date at *
  generalize civilOfDays (later / 1000000 / 86400000) = date' at *
  have htime : (value / 1000000 % 86400000).toNat < 86400000 := by omega
  have htime' : (later / 1000000 % 86400000).toNat < 86400000 := by omega
  generalize (value / 1000000 % 86400000).toNat = time at *
  generalize (later / 1000000 % 86400000).toNat = time' at *
  rw [digits_append_lt (by omega) (by omega), separator_lt,
    digits_append_lt (by omega) (by omega), separator_lt,
    digits_append_lt (by omega) (by omega), separator_lt,
    digits_append_lt (by omega) (by omega), separator_lt,
    digits_append_lt (by omega) (by omega), separator_lt,
    digits_append_lt (by omega) (by omega), separator_lt,
    digits_append_lt (by omega) (by omega)]
  rcases hfields with hbefore | ⟨rfl, hless⟩
  · rw [CivilDate.Before] at hbefore
    omega
  · refine .inr ⟨rfl, .inr ⟨rfl, .inr ⟨rfl, ?_⟩⟩⟩
    omega

/-- The text depends on the millisecond alone. -/
lemma format_congr {value other : ℤ} (h : value / 1000000 = other / 1000000) :
    formatUtcRfc3339Millis value = formatUtcRfc3339Millis other := by
  rw [formatUtcRfc3339Millis, formatUtcRfc3339Millis, h]

/-- Texts compare as the milliseconds do. -/
lemma format_lt_iff {value other : ℤ} (hvalue : InClockRange value) (hother : InClockRange other) :
    formatUtcRfc3339Millis value < formatUtcRfc3339Millis other ↔
      value / 1000000 < other / 1000000 := by
  refine ⟨fun hless => ?_, format_lt hvalue hother⟩
  rcases Int.lt_trichotomy (value / 1000000) (other / 1000000) with h | h | h
  · exact h
  · rw [format_congr h] at hless
    exact absurd hless (String.lt_irrefl _)
  · exact absurd hless (String.lt_asymm (format_lt hother hvalue h))

lemma format_inj {value other : ℤ} (hvalue : InClockRange value) (hother : InClockRange other) :
    formatUtcRfc3339Millis value = formatUtcRfc3339Millis other ↔
      value / 1000000 = other / 1000000 := by
  refine ⟨fun hsame => ?_, format_congr⟩
  rcases Int.lt_trichotomy (value / 1000000) (other / 1000000) with h | h | h
  · exact absurd hsame (String.ne_of_lt (format_lt hvalue hother h))
  · exact h
  · exact absurd hsame.symm (String.ne_of_lt (format_lt hother hvalue h))

/-- **The texts of the clock**: each has the form and gives its instant, rounded down to a
millisecond, and two compare as the milliseconds do. -/
theorem instant_texts_ordered (value other : TimePoint) (hvalue : InClockRange value)
    (hother : InClockRange other) :
    WritesInstant (formatUtcRfc3339Millis value).toList (value / 1000000) ∧
      (formatUtcRfc3339Millis value < formatUtcRfc3339Millis other ↔
        value / 1000000 < other / 1000000) ∧
      (formatUtcRfc3339Millis value = formatUtcRfc3339Millis other ↔
        value / 1000000 = other / 1000000) :=
  ⟨format_writes hvalue, format_lt_iff hvalue hother, format_inj hvalue hother⟩

/-- The last millisecond before the epoch. -/
theorem instant_texts_ordered_epoch :
    formatUtcRfc3339Millis (-1) = "1969-12-31T23:59:59.999Z" ∧
      formatUtcRfc3339Millis (-1) < formatUtcRfc3339Millis 0 :=
  ⟨by decide +kernel, (instant_texts_ordered (-1) 0 ⟨by decide, by decide⟩
    ⟨by decide, by decide⟩).2.1.mpr (by decide)⟩

end CnsServer
