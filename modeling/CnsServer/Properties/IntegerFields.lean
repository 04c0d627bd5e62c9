/-
The integers of a control ACK.

* `IntegerCall`, `controlAckIntegers`: the four calls of `ReadInteger`;
* `ReadsExactly`: a call returns the integers of its range, and rejects the others;
* `readsExactly_iff`: **what goes wrong**, a large unsigned integer that wraps into the
  range;
* `integers_read_exactly`: of the four, it is `result_param2`.
-/
import CnsServer.Properties.ControlAcks

namespace CnsServer

/-! ### The calls -/

/-- A call of `ReadInteger`.  Its range is that of the type it casts to. -/
structure IntegerCall where
  field : String
  minimum : ℤ
  maximum : ℕ

/-- The calls in `ParseDeviceControlAck`. -/
def controlAckIntegers : List IntegerCall :=
  [⟨"mavlink_command", 0, 65535⟩, ⟨"result", 0, 255⟩, ⟨"progress", 0, 255⟩,
    ⟨"result_param2", -2147483648, 2147483647⟩]

namespace IntegerCall

/-- What the call returns, and whether `valid` survives. -/
def read (call : IntegerCall) (root : Json) : Option ℤ × Bool :=
  readInteger root call.field call.minimum call.maximum

/-- The range. -/
def InRange (call : IntegerCall) (i : ℤ) : Prop := call.minimum ≤ i ∧ i ≤ call.maximum

instance (call : IntegerCall) (i : ℤ) : Decidable (call.InRange i) :=
  inferInstanceAs (Decidable (_ ∧ _))

end IntegerCall

/-- The call returns just the integers of its range, as they are, and an integer outside
clears `valid`. -/
structure ReadsExactly (root : Json) (call : IntegerCall) : Prop where
  returned : ∀ v, call.read root = (some v, true) ↔
    root.find? call.field = some (.integer v) ∧ call.InRange v
  rejected : ∀ i, root.find? call.field = some (.integer i) → ¬ call.InRange i →
    call.read root = (none, false)

/-! ### The reader -/

section

variable {root : Json} {call : IntegerCall}

lemma read_of_integer {i : ℤ} (h : root.find? call.field = some (.integer i)) :
    call.read root =
      if call.InRange (Json.toInt64 i) then (some (Json.toInt64 i), true) else (none, false) := by
  rw [IntegerCall.read, readInteger, h]
  dsimp only
  by_cases hrange : call.InRange (Json.toInt64 i)
  · rw [if_pos hrange, if_neg]
    obtain ⟨hlow, hhigh⟩ := hrange
    simp only [Bool.or_eq_true, Bool.and_eq_true, decide_eq_true_eq]
    omega
  · rw [if_neg hrange, if_pos]
    rw [IntegerCall.InRange] at hrange
    simp only [Bool.or_eq_true, Bool.and_eq_true, decide_eq_true_eq]
    omega

/-- What is returned was an integer. -/
lemma integer_of_read {v : ℤ} (h : call.read root = (some v, true)) :
    ∃ i, root.find? call.field = some (.integer i) := by
  rw [IntegerCall.read, readInteger] at h
  split at h
  · cases h
  · next i hfind => exact ⟨i, hfind⟩
  · cases h

/-- **A call goes wrong just on an unsigned integer that wraps into its range.** -/
lemma readsExactly_iff (hfit : IntegersFit root) (hmaximum : call.maximum < 2 ^ 63) :
    ReadsExactly root call ↔ ∀ i, root.find? call.field = some (.integer i) →
      2 ^ 63 ≤ i → i - 2 ^ 64 < call.minimum := by
  constructor
  · intro hexact i hfind hlarge
    obtain ⟨hmin, hmax⟩ := hfit call.field i hfind
    have hread : Json.toInt64 i = i - 2 ^ 64 := by
      rcases toInt64_cases hmin hmax with ⟨hsmall, -⟩ | ⟨-, h⟩
      · omega
      · exact h
    by_contra hwraps
    have hrange : call.InRange (Json.toInt64 i) := by
      rw [IntegerCall.InRange, hread]
      omega
    have hrejected := hexact.rejected i hfind fun hin => by
      have hhigh := hin.2
      omega
    rw [read_of_integer hfind, if_pos hrange] at hrejected
    cases hrejected
  · intro hwraps
    -- an integer is in the range just when its signed reading is, and then they agree
    have hsame : ∀ i, root.find? call.field = some (.integer i) →
        (Json.toInt64 i = i ∨ ¬ call.InRange (Json.toInt64 i) ∧ ¬ call.InRange i) := by
      intro i hfind
      obtain ⟨hmin, hmax⟩ := hfit call.field i hfind
      rcases toInt64_cases hmin hmax with ⟨-, h⟩ | ⟨hlarge, h⟩
      · exact .inl h
      · have hlow := hwraps i hfind hlarge
        rw [h, IntegerCall.InRange, IntegerCall.InRange]
        omega
    constructor
    · intro v
      constructor
      · intro hread
        obtain ⟨i, hfind⟩ := integer_of_read hread
        rw [read_of_integer hfind] at hread
        split at hread
        · next hrange =>
            cases hread
            rcases hsame i hfind with h | ⟨hout, -⟩
            · rw [h] at hrange ⊢
              exact ⟨hfind, hrange⟩
            · exact absurd hrange hout
        · cases hread
      · rintro ⟨hfind, hrange⟩
        rcases hsame v hfind with h | ⟨-, hout⟩
        · rw [read_of_integer hfind, h, if_pos hrange]
        · exact absurd hrange hout
    · intro i hfind hout
      rw [read_of_integer hfind, if_neg]
      rcases hsame i hfind with h | ⟨hread, -⟩
      · rwa [h]
      · exact hread

end

/-- **Each of the four calls reads the integers of its range exactly, unless it is that of
`result_param2` and its unsigned integer wraps into 32 bits.** -/
theorem integers_read_exactly (root : Json) (hfit : IntegersFit root) (call : IntegerCall)
    (hcall : call ∈ controlAckIntegers) :
    ReadsExactly root call ↔ ¬ (call.field = "result_param2" ∧
      ∃ i, root.find? "result_param2" = some (.integer i) ∧ WrapsToInt32 i) := by
  have hmaximum : call.maximum < 2 ^ 63 := by
    have hall : ∀ call ∈ controlAckIntegers, call.maximum < 2 ^ 63 := by decide
    exact hall call hcall
  -- below zero only `result_param2` has values
  have hminimum : call.minimum = 0 ∧ call.field ≠ "result_param2" ∨
      call.minimum = -2147483648 ∧ call.field = "result_param2" := by
    have hall : ∀ call ∈ controlAckIntegers, call.minimum = 0 ∧ call.field ≠ "result_param2" ∨
        call.minimum = -2147483648 ∧ call.field = "result_param2" := by decide
    exact hall call hcall
  rw [readsExactly_iff hfit hmaximum]
  rcases hminimum with ⟨hzero, hother⟩ | ⟨hlow, hfield⟩
  · refine iff_of_true (fun i hfind hlarge => ?_) fun h => hother h.1
    have hmax := (hfit call.field i hfind).2
    omega
  · rw [hfield, hlow]
    constructor
    · rintro hwraps ⟨-, i, hfind, hin⟩
      rw [WrapsToInt32] at hin
      have hout := hwraps i hfind (by omega)
      omega
    · intro hnone i hfind hlarge
      by_contra hin
      have hmax := (hfit "result_param2" i hfind).2
      refine hnone ⟨rfl, i, hfind, ?_⟩
      rw [WrapsToInt32]
      omega

namespace Sample

/-- The call of `result_param2`. -/
def parameterCall : IntegerCall := ⟨"result_param2", -2147483648, 2147483647⟩

lemma wrappedProgress_fit : IntegersFit wrappedProgress := by
  intro field i h
  obtain ⟨before, after, hfields, -⟩ := List.lookup_eq_some_iff.mp h
  have hmem : (field, Json.integer i) ∈ before ++ (field, Json.integer i) :: after :=
    List.mem_append_right _ List.mem_cons_self
  rw [← hfields] at hmem
  simp only [List.mem_cons, Prod.mk.injEq, reduceCtorEq, and_false, Json.integer.injEq,
    List.not_mem_nil, or_false, false_or] at hmem
  omega

end Sample

open Sample in
/-- The largest unsigned integer is read as −1. -/
theorem parameter_wraps :
    wrappedProgress.find? "result_param2" = some (.integer (2 ^ 64 - 1)) ∧
      parameterCall ∈ controlAckIntegers ∧
      parameterCall.read wrappedProgress = (some (-1), true) ∧
      ¬ ReadsExactly wrappedProgress parameterCall := by
  refine ⟨rfl, List.mem_of_getLast? rfl, rfl, fun hexact => ?_⟩
  have hrejected := hexact.rejected (2 ^ 64 - 1) rfl (by decide)
  cases hrejected

open Sample in
/-- It is the field on which the reader goes wrong; `progress` is read. -/
theorem integers_read_exactly_wrapped :
    ¬ ReadsExactly wrappedProgress parameterCall ∧
      ReadsExactly wrappedProgress ⟨"progress", 0, 255⟩ := by
  constructor
  · rw [integers_read_exactly wrappedProgress wrappedProgress_fit parameterCall
      (List.mem_of_getLast? rfl), not_not]
    exact ⟨rfl, 2 ^ 64 - 1, rfl, by decide, by decide⟩
  · refine (integers_read_exactly wrappedProgress wrappedProgress_fit ⟨"progress", 0, 255⟩
      (by rw [controlAckIntegers]; simp)).mpr ?_
    rintro ⟨hfield, -⟩
    exact absurd hfield (by decide)

end CnsServer
