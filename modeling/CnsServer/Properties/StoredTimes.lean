/-
Instants in the database: microseconds there, nanoseconds in the clock.

* `TruncatedTo`: an instant, truncated towards zero;
* `timestampOf`: the time that the statements write, from its seconds and its rest;
* `doubleOfInt_exact`: the doubles it takes are exact;
* `fromUnixMicroseconds_iff`: which values decode;
* `storedTime_truncated`: what an instant decodes to, once it is stored;
* `stored_times_round_trip`: **both round trips**.
-/
import CnsServer.Store.DeviceRows

namespace CnsServer

/-! ### Microseconds of the clock -/

/-- The bounds of the decoder are those of the clock, truncated. -/
example : (-2 ^ 63 : ℤ).tdiv 1000 = -9223372036854775 ∧
    (2 ^ 63 - 1 : ℤ).tdiv 1000 = 9223372036854775 := by
  decide

/-- **Which values decode**: those whose nanoseconds the clock can count. -/
lemma fromUnixMicroseconds_iff {microseconds : ℤ} :
    (∃ time, fromUnixMicroseconds microseconds = .ok time) ↔
      InClockRange (microseconds * 1000) := by
  constructor
  · rintro ⟨time, htime⟩
    obtain ⟨rfl, hrange⟩ := fromUnixMicroseconds_ok htime
    exact hrange
  · rintro ⟨hlow, hhigh⟩
    refine ⟨microseconds * 1000, ?_⟩
    rw [fromUnixMicroseconds, if_neg (by omega)]

lemma toUnixMicroseconds_mul (microseconds : ℤ) :
    toUnixMicroseconds (microseconds * 1000) = microseconds := by
  rw [toUnixMicroseconds]
  exact Int.mul_tdiv_cancel microseconds (by decide)

/-! ### Truncation -/

/-- `result` is `value`, truncated towards zero to a multiple of `unit`. -/
structure TruncatedTo (unit value result : ℤ) : Prop where
  multiple : unit ∣ result
  above : 0 ≤ value → 0 ≤ result ∧ result ≤ value ∧ value < result + unit
  below : value ≤ 0 → result ≤ 0 ∧ value ≤ result ∧ result - unit < value

/-- Truncated division, of a number below zero. -/
lemma tdiv_of_nonpos {value : ℤ} (h : value ≤ 0) (unit : ℤ) :
    value.tdiv unit = -((-value) / unit) := by
  rw [← Int.tdiv_eq_ediv_of_nonneg (by omega), Int.neg_tdiv, Int.neg_neg]

/-- **What is stored of an instant** is the instant, truncated to microseconds. -/
lemma storedTime_truncated (time : ℤ) : TruncatedTo 1000 time (storedTime time) := by
  rw [storedTime]
  refine ⟨Int.dvd_mul_left _ _, fun hpos => ?_, fun hneg => ?_⟩
  · rw [Int.tdiv_eq_ediv_of_nonneg hpos]
    omega
  · rw [tdiv_of_nonpos hneg]
    omega

/-! ### What the statements write -/

/-- `factor * INTERVAL`, of an interval of `unit` microseconds: the database multiplies
doubles, and rounds. -/
def intervalTimes (factor unit : ℤ) : ℤ :=
  (Json.doubleOfInt ((Json.doubleOfInt factor).floor * unit)).floor

/-- `v / 1000000 * INTERVAL '1 second' + v % 1000000 * INTERVAL '1 microsecond'`, in
microseconds. -/
def timestampOf (microseconds : ℤ) : ℤ :=
  intervalTimes (microseconds.tdiv 1000000) 1000000 + intervalTimes (microseconds.tmod 1000000) 1

/-- The doubles of the integers below 2 ^ 53 are exact, and below 2 ^ 54 those of the even
ones. -/
lemma doubleOfInt_exact {i : ℤ} (h : i.natAbs < 2 ^ 53 ∨ i.natAbs < 2 ^ 54 ∧ i % 2 = 0) :
    Json.doubleOfInt i = i := by
  rw [Json.doubleOfInt]
  dsimp only
  split
  · rfl
  · next hlarge =>
      have hlog : Nat.log2 i.natAbs = 53 := by
        rw [Nat.log2_eq_iff (by omega)]
        omega
      -- the last place is that of the twos, and an even number has no remainder there
      rw [hlog, if_neg (by omega)]
      have hhalves : i.natAbs / 2 ^ (53 - 52) * 2 ^ (53 - 52) = i.natAbs := by omega
      rw [hhalves, Int.sign_mul_natAbs]

/-- A product that is such an integer is exact. -/
lemma intervalTimes_exact {factor unit : ℤ} (hfactor : factor.natAbs < 2 ^ 53)
    (hproduct : (factor * unit).natAbs < 2 ^ 53 ∨
      (factor * unit).natAbs < 2 ^ 54 ∧ factor * unit % 2 = 0) :
    intervalTimes factor unit = factor * unit := by
  rw [intervalTimes, doubleOfInt_exact (.inl hfactor), Rat.floor_intCast,
    doubleOfInt_exact hproduct, Rat.floor_intCast]

/-- **The time that is written** is that of the value. -/
lemma timestampOf_eq {microseconds : ℤ} (h : InClockRange (microseconds * 1000)) :
    timestampOf microseconds = microseconds := by
  obtain ⟨hlow, hhigh⟩ := h
  have hsum := Int.mul_tdiv_add_tmod microseconds 1000000
  have hrest : microseconds.tmod 1000000 < 1000000 := Int.tmod_lt_of_pos _ (by decide)
  have hrest' : -1000000 < microseconds.tmod 1000000 := Int.lt_tmod_of_pos _ (by decide)
  rw [timestampOf, intervalTimes_exact (by omega) (.inr (by omega)),
    intervalTimes_exact (by omega) (.inl (by omega))]
  omega

/-! ### The round trips -/

/-- **The times in the database**: a value decodes just when the clock can count its
nanoseconds, and it is stored as it was; an instant always decodes, and to itself,
truncated to microseconds; and the time that is written, from seconds and a rest, is that
of the value. -/
theorem stored_times_round_trip :
    (∀ microseconds : ℤ,
      ((∃ time, fromUnixMicroseconds microseconds = .ok time) ↔
        InClockRange (microseconds * 1000)) ∧
      (∀ time, fromUnixMicroseconds microseconds = .ok time →
        (time = microseconds * 1000 ∧ InClockRange time) ∧
          toUnixMicroseconds time = microseconds ∧ timestampOf microseconds = microseconds) ∧
      microseconds.tdiv 1000000 * 1000000 + microseconds.tmod 1000000 = microseconds) ∧
    ∀ time : TimePoint, InClockRange time →
      ∃ result, fromUnixMicroseconds (toUnixMicroseconds time) = .ok result ∧
        TruncatedTo 1000 time result := by
  constructor
  · intro microseconds
    refine ⟨fromUnixMicroseconds_iff, fun time htime => ?_, Int.tdiv_mul_add_tmod _ _⟩
    obtain ⟨rfl, hrange⟩ := fromUnixMicroseconds_ok htime
    exact ⟨⟨rfl, hrange⟩, toUnixMicroseconds_mul microseconds, timestampOf_eq hrange⟩
  · intro time hrange
    exact ⟨storedTime time, fromUnixMicroseconds_toUnix hrange, storedTime_truncated time⟩

end CnsServer
