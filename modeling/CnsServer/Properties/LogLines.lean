/-
The lines of the log.

* `not_newline_line`: a message makes one line, whatever it is;
* `Logger.toOut`, `Logger.toErr`: which messages go to which stream;
* `logged_lines`: **the streams**, line by line.
-/
import CnsServer.Config.Logger
import Mathlib.Data.String.Lemmas

namespace CnsServer

/-! ### One line -/

lemma not_newline_digits (width n : ℕ) : '\n' ∉ digits width n := by
  induction width generalizing n with
  | zero => simp [digits]
  | succ width ih =>
      intro hmem
      rw [digits, List.mem_append, List.mem_singleton] at hmem
      rcases hmem with hmem | hsame
      · exact ih _ hmem
      · have hdigit := (digit_spec n).1
        rw [← hsame] at hdigit
        cases hdigit

lemma not_newline_repr {year : ℤ} (h : 0 ≤ year) : '\n' ∉ year.repr.toList := by
  obtain ⟨n, rfl⟩ := Int.eq_ofNat_of_zero_le h
  intro hmem
  have hdigits : '\n' ∈ Nat.toDigits 10 n := by
    rw [← Nat.toList_repr]
    exact hmem
  have hdigit := Nat.isDigit_of_mem_toDigits (by decide) (by decide) hdigits
  cases hdigit

lemma not_newline_formatTime (localTime : ℤ → Option LocalTime) (now : TimePoint) :
    '\n' ∉ (formatTime localTime now).toList := by
  rw [formatTime]
  split
  · decide
  · next time _ =>
    split
    · decide
    · next hyear =>
      have hnumber := not_newline_repr (show 0 ≤ time.year by omega)
      simp [hnumber, not_newline_digits]

lemma not_newline_singleLine (message : String) : '\n' ∉ (singleLine message).toList := by
  intro hmem
  rw [singleLine, String.toList_ofList, List.mem_map] at hmem
  obtain ⟨character, -, hsame⟩ := hmem
  split at hsame
  · cases hsame
  · next hother => exact hother (.inr hsame)

/-- **A message makes one line**, whatever it is. -/
lemma not_newline_line (localTime : ℤ → Option LocalTime) (call : LogCall) :
    '\n' ∉ (Logger.line localTime call).toList := by
  have hlevel : '\n' ∉ call.level.levelName.toList := by
    cases call.level <;> decide
  simp [Logger.line, not_newline_formatTime, not_newline_singleLine, hlevel]

/-! ### The streams -/

namespace Logger

/-- The messages for the standard output. -/
def toOut (minimumLevel : LogLevel) (call : LogCall) : Bool :=
  minimumLevel.rank ≤ call.level.rank && call.level.rank < LogLevel.warn.rank

/-- The messages for the standard error. -/
def toErr (minimumLevel : LogLevel) (call : LogCall) : Bool :=
  minimumLevel.rank ≤ call.level.rank && LogLevel.warn.rank ≤ call.level.rank

/-- Lines, each with its end. -/
def printed (localTime : ℤ → Option LocalTime) (calls : List LogCall) : List Char :=
  calls.flatMap fun call => (line localTime call).toList ++ ['\n']

variable (localTime : ℤ → Option LocalTime)

lemma splitOn_printed (calls : List LogCall) :
    (printed localTime calls).splitOn '\n' =
      calls.map (fun call => (line localTime call).toList) ++ [[]] := by
  induction calls with
  | nil => simp [printed]
  | cons call calls ih =>
      have hprinted : printed localTime (call :: calls) =
          (line localTime call).toList ++ '\n' :: printed localTime calls := by
        simp [printed]
      rw [hprinted, List.splitOn_append_cons_self_of_not_mem (not_newline_line localTime call), ih]
      rfl

/-- What a call adds to each stream. -/
lemma write_spec (logger : Logger) (call : LogCall) :
    (logger.write localTime call).minimumLevel = logger.minimumLevel ∧
    (logger.write localTime call).out.toList = logger.out.toList ++
      printed localTime ([call].filter (toOut logger.minimumLevel)) ∧
    (logger.write localTime call).err.toList = logger.err.toList ++
      printed localTime ([call].filter (toErr logger.minimumLevel)) := by
  rw [write, enabled]
  split
  · next hlow =>
    have hrank : ¬logger.minimumLevel.rank ≤ call.level.rank := by simpa using hlow
    simp [toOut, toErr, printed, hrank]
  · next hhigh =>
    have hrank : logger.minimumLevel.rank ≤ call.level.rank := by simpa using hhigh
    split
    · next hloud => simp [toOut, toErr, printed, hrank, hloud]
    · next hquiet =>
      have hless := Nat.not_le.mp hquiet
      simp [toOut, toErr, printed, hrank, hquiet, hless]

lemma foldl_write (logger : Logger) (calls : List LogCall) :
    (calls.foldl (write localTime) logger).out.toList = logger.out.toList ++
      printed localTime (calls.filter (toOut logger.minimumLevel)) ∧
    (calls.foldl (write localTime) logger).err.toList = logger.err.toList ++
      printed localTime (calls.filter (toErr logger.minimumLevel)) := by
  induction calls generalizing logger with
  | nil => simp [printed]
  | cons call calls ih =>
      obtain ⟨hlevel, hout, herr⟩ := write_spec localTime logger call
      obtain ⟨houts, herrs⟩ := ih (logger.write localTime call)
      have hsplit (p : LogCall → Bool) : (call :: calls).filter p =
          [call].filter p ++ calls.filter p := by
        rw [← List.filter_append, List.singleton_append]
      rw [hlevel] at houts herrs
      rw [List.foldl_cons, houts, herrs, hout, herr, hsplit, hsplit]
      simp [printed]

end Logger

/-- **The log is what was said**: each message at or above the level is one line of one of the
streams, warnings and errors of the one and the rest of the other, in order; no message makes
two lines, or none. -/
theorem logged_lines (localTime : ℤ → Option LocalTime) (minimumLevel : LogLevel)
    (calls : List LogCall) :
    let logger := calls.foldl (Logger.write localTime) { minimumLevel }
    logger.out.toList.splitOn '\n' = (calls.filter (Logger.toOut minimumLevel)).map
      (fun call => (Logger.line localTime call).toList) ++ [[]] ∧
    logger.err.toList.splitOn '\n' = (calls.filter (Logger.toErr minimumLevel)).map
      (fun call => (Logger.line localTime call).toList) ++ [[]] := by
  intro logger
  obtain ⟨hout, herr⟩ := Logger.foldl_write localTime { minimumLevel } calls
  constructor
  · rw [hout]
    exact Logger.splitOn_printed localTime _
  · rw [herr]
    exact Logger.splitOn_printed localTime _

end CnsServer
