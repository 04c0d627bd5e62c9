/-
The control ACKs that the route service takes from a device.

* `FieldsOf`: a JSON object has the fields of an ACK, besides any others;
* `ControlAckForm`: the six forms of an ACK, and `WellFormedAck` with the ranges;
* `StrayProgress`: a local rejection that carries progress all the same;
* `read_natural`, `read_parameter`, `read_string`: what the readers take from an object;
* `fieldsChecked_iff`: the combinations that the parser takes;
* `parseDeviceControlAck_ok_iff`: **what it accepts**, a stray rejection too, and a
  `result_param2` that wraps;
* `control_acks_parsed`: it takes the well-formed ACKs just where neither comes.
-/
import CnsServer.Command.DevicePolicy

namespace CnsServer

/-! ### Well-formed ACKs -/

/-- A UUID of version 4, in lower case. -/
def LowerUuidV4 (value : String) : Prop :=
  value.toList.length = 36 ∧ ∀ index c, value.toList[index]? = some c →
    (if index ∈ [8, 13, 18, 23] then c = '-' else isLowerHex c = true) ∧
    (index = 14 → c = '4') ∧ (index = 19 → c ∈ ['8', '9', 'a', 'b'])

/-- The object has the fields of the ACK, and a message that is a string if there is one. -/
structure FieldsOf (root : Json) (ack : DeviceControlAck) : Prop where
  commandId : root.find? "command_id" = some (.string ack.commandId)
  command : root.find? "command" = some (.string (commandText ack.command))
  status : root.find? "status" = some (.string ack.businessStatus)
  mavlinkCommand : root.find? "mavlink_command" = ack.mavlinkCommand.map fun n => .integer n
  result : root.find? "result" = ack.result.map fun n => .integer n
  resultCode : root.find? "result_code" = ack.resultCode.map .string
  progress : root.find? "progress" = ack.progress.map fun n => .integer n
  resultParam2 : root.find? "result_param2" = ack.resultParam2.map .integer
  errorCode : root.find? "error_code" = ack.errorCode.map .string
  message : ∀ value, root.find? "message" = some value → ∃ text, value = .string text
  raw : ack.raw = root

/-- The values that are present have their ranges, but for `result_param2`. -/
structure AckRanges (ack : DeviceControlAck) : Prop where
  commandId : LowerUuidV4 ack.commandId
  mavlinkCommand : ∀ n, ack.mavlinkCommand = some n → n = expectedMavlinkCommand ack.command
  result : ∀ n, ack.result = some n → n ≤ 255
  progress : ∀ n, ack.progress = some n → n ≤ 255
  errorCode : ∀ code, ack.errorCode = some code → isValidErrorCode code = true

/-- The forms of an ACK. -/
inductive ControlAckForm (ack : DeviceControlAck) : Prop
  | accepted (status : ack.businessStatus = "accepted")
      (mavlinkCommand : ack.mavlinkCommand ≠ none) (result : ack.result = some 0)
      (resultCode : ack.resultCode = some "accepted") (progress : ack.progress = none)
      (resultParam2 : ack.resultParam2 = none) (errorCode : ack.errorCode = none)
  | inProgress (status : ack.businessStatus = "in_progress")
      (mavlinkCommand : ack.mavlinkCommand ≠ none) (result : ack.result = some 5)
      (resultCode : ack.resultCode = some "in_progress")
      (progress : ∃ n, ack.progress = some n ∧ (n ≤ 100 ∨ n = 255))
      (resultParam2 : ack.resultParam2 ≠ none) (errorCode : ack.errorCode = none)
  | pending (status : ack.businessStatus = "in_progress")
      (mavlinkCommand : ack.mavlinkCommand ≠ none) (result : ack.result = none)
      (resultCode : ack.resultCode = some "pending") (progress : ack.progress = none)
      (resultParam2 : ack.resultParam2 = none) (errorCode : ack.errorCode = none)
  | rejected (status : ack.businessStatus = "rejected")
      (mavlinkCommand : ack.mavlinkCommand ≠ none)
      (result : ∃ n, ack.result = some n ∧ n ≠ 0 ∧ n ≠ 5 ∧
        ack.resultCode = some (resultCodeText n))
      (progress : ack.progress = none) (resultParam2 : ack.resultParam2 = none)
      (errorCode : ack.errorCode = none)
  | localRejected (status : ack.businessStatus = "rejected")
      (mavlinkCommand : ack.mavlinkCommand = none) (result : ack.result = none)
      (resultCode : ack.resultCode = none) (progress : ack.progress = none)
      (resultParam2 : ack.resultParam2 = none) (errorCode : ack.errorCode ≠ none)
  | timeout (status : ack.businessStatus = "timeout") (result : ack.result = none)
      (resultCode : ack.resultCode = none) (progress : ack.progress = none)
      (resultParam2 : ack.resultParam2 = none) (errorCode : ack.errorCode ≠ none)

/-- An integer of 32 bits. -/
def IsInt32 (i : ℤ) : Prop := -2 ^ 31 ≤ i ∧ i < 2 ^ 31

/-- An ACK that the parser is to take. -/
structure WellFormedAck (ack : DeviceControlAck) : Prop extends AckRanges ack where
  resultParam2 : ∀ i, ack.resultParam2 = some i → IsInt32 i
  form : ControlAckForm ack

/-! ### What the parser takes besides -/

/-- A local rejection that carries progress. -/
structure StrayProgress (ack : DeviceControlAck) : Prop where
  status : ack.businessStatus = "rejected"
  mavlinkCommand : ack.mavlinkCommand = none
  result : ack.result = none
  resultCode : ack.resultCode = none
  errorCode : ack.errorCode ≠ none
  stray : ack.progress ≠ none ∨ ack.resultParam2 ≠ none

/-- An unsigned integer that wraps into 32 bits. -/
def WrapsToInt32 (i : ℤ) : Prop := 2 ^ 64 - 2 ^ 31 ≤ i ∧ i < 2 ^ 64

/-- What `ReadInteger` takes for `result_param2`. -/
def ReadableParameter (ack : DeviceControlAck) : Prop :=
  ∀ i, ack.resultParam2 = some i → IsInt32 i ∨ WrapsToInt32 i

/-- The integers of the object are those that the JSON library keeps as such. -/
def IntegersFit (root : Json) : Prop :=
  ∀ field i, root.find? field = some (.integer i) → -2 ^ 63 ≤ i ∧ i < 2 ^ 64

/-! ### The readers -/

section

variable {root : Json} {field : String}

lemma read_string {value : Option String} :
    ((readString root field).2 = true ∧ value = (readString root field).1) ↔
      root.find? field = value.map .string := by
  rw [readString]
  split
  · next hfind => cases value <;> simp [hfind]
  · next s hfind =>
      rw [hfind]
      cases value <;> simp [eq_comm]
  · next v hstring hfind =>
      rw [hfind]
      cases value with
      | none => simp
      | some s =>
          simp only [Bool.false_eq_true, false_and, Option.map_some, Option.some.injEq, false_iff]
          exact hstring s

/-- An integer is read as `get<std::int64_t>()` leaves it, within the bounds. -/
lemma read_integer {minimum : ℤ} {maximum : ℕ} {value : Option ℤ} :
    ((readInteger root field minimum maximum).2 = true ∧
      value = (readInteger root field minimum maximum).1) ↔
    ∃ written : Option ℤ, root.find? field = written.map .integer ∧
      value = written.map Json.toInt64 ∧ ∀ i, written = some i →
        minimum ≤ Json.toInt64 i ∧ (0 ≤ Json.toInt64 i → Json.toInt64 i ≤ maximum) := by
  rw [readInteger]
  split
  · next hfind =>
      rw [hfind]
      constructor
      · rintro ⟨-, rfl⟩
        exact ⟨none, rfl, rfl, by rintro i ⟨⟩⟩
      · rintro ⟨written, hwritten, rfl, -⟩
        cases written with
        | none => exact ⟨rfl, rfl⟩
        | some i => cases hwritten
  · next i hfind =>
      rw [hfind]
      dsimp only
      split
      · next hout =>
          simp only [Bool.or_eq_true, Bool.and_eq_true, decide_eq_true_eq] at hout
          refine iff_of_false (fun h => Bool.false_ne_true h.1) ?_
          rintro ⟨written, hwritten, -, hbounds⟩
          cases written with
          | none => cases hwritten
          | some j =>
              cases hwritten
              obtain ⟨hlow, hhigh⟩ := hbounds i rfl
              omega
      · next hin =>
          simp only [Bool.or_eq_true, Bool.and_eq_true, decide_eq_true_eq, not_or, not_and] at hin
          constructor
          · rintro ⟨-, rfl⟩
            refine ⟨some i, rfl, rfl, ?_⟩
            rintro j ⟨⟩
            omega
          · rintro ⟨written, hwritten, rfl, -⟩
            cases written with
            | none => cases hwritten
            | some j =>
                cases hwritten
                exact ⟨rfl, rfl⟩
  · next v hinteger hfind =>
      rw [hfind]
      refine iff_of_false (fun h => Bool.false_ne_true h.1) ?_
      rintro ⟨written, hwritten, -, -⟩
      cases written with
      | none => cases hwritten
      | some i =>
          cases hwritten
          exact hinteger i rfl

/-- Of an integer of the library, the signed reading. -/
lemma toInt64_cases {i : ℤ} (hlow : -2 ^ 63 ≤ i) (hhigh : i < 2 ^ 64) :
    (i < 2 ^ 63 ∧ Json.toInt64 i = i) ∨ (2 ^ 63 ≤ i ∧ Json.toInt64 i = i - 2 ^ 64) := by
  rw [Json.toInt64]
  by_cases h : i < 2 ^ 63
  · exact .inl ⟨h, Int.bmod_eq_of_le (by omega) (by omega)⟩
  · refine .inr ⟨by omega, ?_⟩
    rw [← Int.sub_bmod_right i (2 ^ 64)]
    exact Int.bmod_eq_of_le (by omega) (by omega)

/-- A natural number reads as itself. -/
lemma read_natural (hfit : IntegersFit root) {maximum : ℕ} (hmaximum : maximum < 2 ^ 63)
    {value : Option ℕ} :
    ((readInteger root field 0 maximum).2 = true ∧
      value = (readInteger root field 0 maximum).1.map Int.toNat) ↔
    (root.find? field = value.map fun n => .integer n) ∧ ∀ n, value = some n → n ≤ maximum := by
  constructor
  · rintro ⟨hvalid, rfl⟩
    obtain ⟨written, hfind, hread, hbounds⟩ := read_integer.mp ⟨hvalid, rfl⟩
    rw [hread]
    cases written with
    | none => exact ⟨hfind, by rintro n ⟨⟩⟩
    | some i =>
        obtain ⟨hlow, hhigh⟩ := hbounds i rfl
        obtain ⟨hmin, hmax⟩ := hfit field i hfind
        have hsame : Json.toInt64 i = i := by
          rcases toInt64_cases hmin hmax with ⟨-, h⟩ | ⟨-, h⟩
          · exact h
          · omega
        rw [hsame] at hlow hhigh
        refine ⟨?_, ?_⟩
        · rw [hfind]
          simp only [Option.map_some, hsame, Int.toNat_of_nonneg hlow]
        · rintro n ⟨⟩
          have hle := hhigh hlow
          rw [hsame]
          omega
  · rintro ⟨hfind, hle⟩
    have hsame : ∀ n, value = some n → Json.toInt64 (n : ℤ) = n := by
      intro n hn
      have hbound := hle n hn
      exact Int.bmod_eq_of_le (by omega) (by omega)
    obtain ⟨hvalid, hread⟩ := (@read_integer root field 0 maximum (value.map Int.ofNat)).mpr
      ⟨value.map Int.ofNat, by rw [hfind, Option.map_map]; rfl, by
        cases value with
        | none => rfl
        | some n => exact congrArg some (hsame n rfl).symm, by
        intro i hi
        obtain ⟨n, hn, rfl⟩ := Option.map_eq_some_iff.mp hi
        have hbound := hle n hn
        have hread : Json.toInt64 (Int.ofNat n) = n := hsame n hn
        omega⟩
    refine ⟨hvalid, ?_⟩
    rw [← hread, Option.map_map]
    cases value <;> rfl

/-- A parameter of 32 bits reads as itself, and an unsigned one that wraps does not. -/
lemma read_parameter (hfit : IntegersFit root) {value : Option ℤ} :
    ((readInteger root field (-2147483648) 2147483647).2 = true ∧
      value = (readInteger root field (-2147483648) 2147483647).1) ↔
    ∃ written : Option ℤ, root.find? field = written.map .integer ∧
      value = written.map Json.toInt64 ∧
      ∀ i, written = some i → IsInt32 i ∨ WrapsToInt32 i := by
  rw [read_integer]
  refine exists_congr fun written => and_congr_right fun hfind => and_congr_right fun _ => ?_
  refine forall_congr' fun i => forall_congr' fun hi => ?_
  rw [hi, Option.map_some] at hfind
  obtain ⟨hmin, hmax⟩ := hfit field i hfind
  rw [IsInt32, WrapsToInt32]
  rcases toInt64_cases hmin hmax with ⟨hsmall, h⟩ | ⟨hlarge, h⟩
  · rw [h]
    omega
  · rw [h]
    omega

lemma stringField?_iff {text : String} :
    root.stringField? field = some text ↔ root.find? field = some (.string text) := by
  rw [Json.stringField?]
  cases root.find? field with
  | none => simp
  | some value => cases value <;> simp [Json.asString?]

end

/-! ### The parts of an ACK -/

lemma isUuidV4Shape_iff {value : String} : isUuidV4Shape value = true ↔ LowerUuidV4 value := by
  simp only [isUuidV4Shape, Bool.and_eq_true, decide_eq_true_eq, Bool.or_eq_true]
  constructor
  · rintro ⟨⟨⟨hlength, hall⟩, hversion⟩, hvariant⟩
    refine ⟨hlength, fun index c hc => ⟨?_, ?_, ?_⟩⟩
    · have hchar := List.all_eq_true.mp hall (c, index) (List.mk_mem_zipIdx_iff_getElem?.mpr hc)
      dsimp only at hchar
      split at hchar
      · next hdash => rw [if_pos (by simpa [or_assoc] using hdash)]; simpa using hchar
      · next hdash => rw [if_neg (by simpa [or_assoc] using hdash)]; exact hchar
    · rintro rfl
      rw [hversion] at hc
      exact (Option.some.inj hc).symm
    · rintro rfl
      rw [hc] at hvariant
      simpa [or_assoc] using hvariant
  · rintro ⟨hlength, hall⟩
    have hget : ∀ index, index < 36 → ∃ c, value.toList[index]? = some c := fun index hindex =>
      ⟨value.toList[index], List.getElem?_eq_getElem (by omega)⟩
    obtain ⟨version, hversion⟩ := hget 14 (by omega)
    obtain ⟨variant, hvariant⟩ := hget 19 (by omega)
    refine ⟨⟨⟨hlength, List.all_eq_true.mpr ?_⟩, ?_⟩, ?_⟩
    · rintro ⟨c, index⟩ hmem
      have hchar := (hall index c (List.mk_mem_zipIdx_iff_getElem?.mp hmem)).1
      dsimp only
      split at hchar
      · next hdash => rw [if_pos (by simpa [or_assoc] using hdash)]; simpa using hchar
      · next hdash => rw [if_neg (by simpa [or_assoc] using hdash)]; exact hchar
    · rw [hversion, (hall 14 version hversion).2.1 rfl]
    · have hfour := (hall 19 variant hvariant).2.2 rfl
      rw [hvariant]
      simpa [or_assoc] using hfour

lemma parseCommandText_iff {text : String} {command : ControlCommand} :
    parseCommandText text = some command ↔ text = commandText command := by
  constructor
  · intro h
    rw [parseCommandText] at h
    split at h
    · next htext => cases h; exact htext
    · split at h
      · next htext => cases h; exact htext
      · split at h
        · next htext => cases h; exact htext
        · split at h
          · next htext => cases h; exact htext
          · cases h
  · rintro rfl
    cases command <;> decide

lemma commandText_injective {command other : ControlCommand}
    (h : commandText command = commandText other) : command = other :=
  Option.some.inj ((parseCommandText_iff.mpr h).symm.trans (parseCommandText_iff.mpr rfl)).symm

/-- The combinations depend on whether there is a `result_param2`, not on its value. -/
lemma checkControlAckFields_map {status : String} {mavlinkCommand result progress : Option ℕ}
    {resultCode errorCode : Option String} {resultParam2 : Option ℤ} {f : ℤ → ℤ} :
    checkControlAckFields status mavlinkCommand result progress resultCode errorCode
        (resultParam2.map f) =
      checkControlAckFields status mavlinkCommand result progress resultCode errorCode
        resultParam2 := by
  simp only [checkControlAckFields, Option.isSome_map, Option.isNone_map]

/-- The combination of the fields is one that the parser takes. -/
def FieldsChecked (ack : DeviceControlAck) : Prop :=
  checkControlAckFields ack.businessStatus ack.mavlinkCommand ack.result ack.progress
    ack.resultCode ack.errorCode ack.resultParam2 = .ok ()

section

variable {ack : DeviceControlAck}

lemma form_of_accepted (hs : ack.businessStatus = "accepted") (h : FieldsChecked ack) :
    ControlAckForm ack := by
  simp only [FieldsChecked, checkControlAckFields, hs, if_true] at h
  split at h
  · cases h
  · next hall =>
      simp only [Bool.or_eq_true, not_or, decide_eq_true_eq, not_not, ne_eq,
        Option.isNone_iff_eq_none, Option.isSome_iff_ne_none] at hall
      obtain ⟨⟨⟨⟨⟨hmavlink, hresult⟩, hcode⟩, hprogress⟩, hparameter⟩, herror⟩ := hall
      exact .accepted hs hmavlink hresult hcode hprogress hparameter herror

lemma form_of_inProgress (hs : ack.businessStatus = "in_progress") (h : FieldsChecked ack) :
    ControlAckForm ack := by
  simp only [FieldsChecked, checkControlAckFields, hs, String.reduceEq, if_true, if_false] at h
  split at h
  · cases h
  · next hhead =>
      simp only [Bool.or_eq_true, not_or, not_not, ne_eq,
        Option.isNone_iff_eq_none, Option.isSome_iff_ne_none] at hhead
      obtain ⟨hmavlink, herror⟩ := hhead
      split at h
      · next hcode =>
          split at h
          · cases h
          · next hall =>
              simp only [Bool.or_eq_true, not_or, not_not, ne_eq,
                Option.isSome_iff_ne_none] at hall
              obtain ⟨⟨hresult, hprogress⟩, hparameter⟩ := hall
              exact .pending hs hmavlink hresult hcode hprogress hparameter herror
      · split at h
        · next n hprogress =>
            split at h
            · cases h
            · next hall =>
                simp only [Bool.or_eq_true, not_or, decide_eq_true_eq, not_not, ne_eq,
                  Option.isNone_iff_eq_none, Bool.and_eq_true, not_and] at hall
                obtain ⟨⟨⟨hresult, hcode⟩, hparameter⟩, hrange⟩ := hall
                refine .inProgress hs hmavlink hresult hcode ⟨n, hprogress, ?_⟩
                  hparameter herror
                omega
        · cases h

/-- Of a local rejection only the error code is asked for. -/
lemma form_of_rejected (hs : ack.businessStatus = "rejected") (h : FieldsChecked ack) :
    ControlAckForm ack ∨ StrayProgress ack := by
  simp only [FieldsChecked, checkControlAckFields, hs, String.reduceEq, if_true, if_false] at h
  split at h
  · split at h
    · next m n code hmavlink hresult hcode =>
        split at h
        · cases h
        · next hall =>
            simp only [Bool.or_eq_true, not_or, decide_eq_true_eq, not_not, ne_eq,
              Option.isSome_iff_ne_none] at hall
            obtain ⟨⟨⟨⟨⟨herror, hprogress⟩, hparameter⟩, hzero⟩, hfive⟩, rfl⟩ := hall
            exact .inl (.rejected hs (by rw [hmavlink]; rintro ⟨⟩)
              ⟨n, hresult, hzero, hfive, hcode⟩ hprogress hparameter herror)
    · cases h
  · next hlocal =>
      simp only [Bool.or_eq_true, not_or, not_not, ne_eq,
        Option.isSome_iff_ne_none] at hlocal
      obtain ⟨⟨hmavlink, hresult⟩, hcode⟩ := hlocal
      split at h
      · cases h
      · next herror =>
          rw [Option.isNone_iff_eq_none] at herror
          by_cases hstray : ack.progress ≠ none ∨ ack.resultParam2 ≠ none
          · exact .inr ⟨hs, hmavlink, hresult, hcode, herror, hstray⟩
          · simp only [not_or, not_not] at hstray
            exact .inl (.localRejected hs hmavlink hresult hcode hstray.1 hstray.2 herror)

lemma form_of_timeout (hs : ack.businessStatus = "timeout") (h : FieldsChecked ack) :
    ControlAckForm ack := by
  simp only [FieldsChecked, checkControlAckFields, hs, String.reduceEq, if_false] at h
  split at h
  · cases h
  · next hall =>
      simp only [Bool.or_eq_true, not_or, not_not, ne_eq,
        Option.isNone_iff_eq_none, Option.isSome_iff_ne_none] at hall
      obtain ⟨⟨⟨⟨herror, hresult⟩, hcode⟩, hprogress⟩, hparameter⟩ := hall
      exact .timeout hs hresult hcode hprogress hparameter herror

/-- Each form passes. -/
lemma fieldsChecked_of_form (h : ControlAckForm ack) : FieldsChecked ack := by
  rw [FieldsChecked]
  cases h with
  | accepted hs hmavlink hresult hcode hprogress hparameter herror =>
      simp [checkControlAckFields, hs, hmavlink, hresult, hcode, hprogress, hparameter, herror]
  | inProgress hs hmavlink hresult hcode hprogress hparameter herror =>
      obtain ⟨n, hn, hrange⟩ := hprogress
      simp [checkControlAckFields, hs, hmavlink, hresult, hcode, hn, hparameter, herror]
      omega
  | pending hs hmavlink hresult hcode hprogress hparameter herror =>
      simp [checkControlAckFields, hs, hmavlink, hresult, hcode, hprogress, hparameter, herror]
  | rejected hs hmavlink hresult hprogress hparameter herror =>
      obtain ⟨n, hn, hzero, hfive, hcode⟩ := hresult
      obtain ⟨m, hm⟩ := Option.ne_none_iff_exists'.mp hmavlink
      simp [checkControlAckFields, hs, hm, hn, hzero, hfive, hcode, hprogress, hparameter,
        herror]
  | localRejected hs hmavlink hresult hcode hprogress hparameter herror =>
      simp [checkControlAckFields, hs, hmavlink, hresult, hcode, herror]
  | timeout hs hresult hcode hprogress hparameter herror =>
      simp [checkControlAckFields, hs, hresult, hcode, hprogress, hparameter, herror]

lemma fieldsChecked_of_stray (h : StrayProgress ack) : FieldsChecked ack := by
  simp [FieldsChecked, checkControlAckFields, h.status, h.mavlinkCommand, h.result, h.resultCode,
    h.errorCode]

/-- **The combinations that the parser takes** are the six forms, and the stray one. -/
lemma fieldsChecked_iff
    (hstatus : ack.businessStatus ∈ ["accepted", "in_progress", "rejected", "timeout"]) :
    FieldsChecked ack ↔ ControlAckForm ack ∨ StrayProgress ack := by
  constructor
  · intro h
    simp only [List.mem_cons, List.not_mem_nil, or_false] at hstatus
    rcases hstatus with hs | hs | hs | hs
    · exact .inl (form_of_accepted hs h)
    · exact .inl (form_of_inProgress hs h)
    · exact form_of_rejected hs h
    · exact .inl (form_of_timeout hs h)
  · rintro (hform | hstray)
    · exact fieldsChecked_of_form hform
    · exact fieldsChecked_of_stray hstray

end

/-! ### The parser -/

/-- The checks that the parser makes in turn, and what it returns. -/
structure ControlAckChecks (root : Json) (ack : DeviceControlAck) : Prop where
  object : root.isObject = true
  commandId : root.stringField? "command_id" = some ack.commandId
  uuid : isUuidV4Shape ack.commandId = true
  command : (root.stringField? "command").bind parseCommandText = some ack.command
  status : root.stringField? "status" = some ack.businessStatus
  known : ack.businessStatus ∈ ["accepted", "in_progress", "rejected", "timeout"]
  mavlinkCommand : (readInteger root "mavlink_command" 0 65535).2 = true ∧
    ack.mavlinkCommand = (readInteger root "mavlink_command" 0 65535).1.map Int.toNat
  result : (readInteger root "result" 0 255).2 = true ∧
    ack.result = (readInteger root "result" 0 255).1.map Int.toNat
  resultCode : (readString root "result_code").2 = true ∧
    ack.resultCode = (readString root "result_code").1
  progress : (readInteger root "progress" 0 255).2 = true ∧
    ack.progress = (readInteger root "progress" 0 255).1.map Int.toNat
  resultParam2 : (readInteger root "result_param2" (-2147483648) 2147483647).2 = true ∧
    ack.resultParam2 = (readInteger root "result_param2" (-2147483648) 2147483647).1
  errorCode : (readString root "error_code").2 = true ∧
    ack.errorCode = (readString root "error_code").1
  message : messageIsString root = true
  matching : (ack.mavlinkCommand.any fun n => n ≠ expectedMavlinkCommand ack.command) = false
  validCode : (ack.errorCode.any fun code => !isValidErrorCode code) = false
  combination : FieldsChecked ack
  raw : ack.raw = root

lemma controlAckChecks_of_ok {root : Json} {ack : DeviceControlAck}
    (h : parseDeviceControlAck (some root) = .ok ack) : ControlAckChecks root ack := by
  simp only [parseDeviceControlAck, bind, Except.bind] at h
  -- each test leaves an error on one side
  repeat' split at h
  all_goals first | contradiction | skip
  next hobject _ commandId hid huuid _ text htext _ command hcommand _ status hstatus hknown
      hvalid hmatching hcode _ _ hcombination =>
    cases h
    simp only [Bool.or_eq_true, Bool.and_eq_true, Bool.not_eq_true', not_or,
      Bool.not_eq_false, Bool.not_eq_true] at hobject huuid hvalid hmatching hcode
    obtain ⟨⟨⟨⟨⟨⟨hmavlink, hresult⟩, hresultCode⟩, hprogress⟩, hparameter⟩, herror⟩, hmessage⟩ :=
      hvalid
    refine ⟨hobject, hid, huuid, Option.bind_eq_some_iff.mpr ⟨text, htext, hcommand⟩, hstatus, ?_,
      ⟨hmavlink, rfl⟩, ⟨hresult, rfl⟩, ⟨hresultCode, rfl⟩, ⟨hprogress, rfl⟩, ⟨hparameter, rfl⟩,
      ⟨herror, rfl⟩, hmessage, hmatching, hcode, hcombination, rfl⟩
    simpa [or_iff_not_imp_left] using hknown

lemma ok_of_controlAckChecks {root : Json} {ack : DeviceControlAck}
    (h : ControlAckChecks root ack) : parseDeviceControlAck (some root) = .ok ack := by
  obtain ⟨text, htext, hcommand⟩ := Option.bind_eq_some_iff.mp h.command
  have hknown : (decide (ack.businessStatus ≠ "accepted") &&
      decide (ack.businessStatus ≠ "in_progress") && decide (ack.businessStatus ≠ "rejected") &&
      decide (ack.businessStatus ≠ "timeout")) = false := by
    have hmem := h.known
    simp only [List.mem_cons, List.not_mem_nil, or_false] at hmem
    rcases hmem with hs | hs | hs | hs <;> rw [hs] <;> rfl
  have hcombination := h.combination
  have hmatching := h.matching
  have hcode := h.validCode
  rw [FieldsChecked, h.mavlinkCommand.2, h.result.2, h.progress.2, h.resultCode.2, h.errorCode.2,
    h.resultParam2.2] at hcombination
  rw [h.mavlinkCommand.2] at hmatching
  rw [h.errorCode.2] at hcode
  simp only [parseDeviceControlAck, bind, Except.bind, h.object, h.commandId, h.uuid, htext,
    hcommand, h.status, hknown, h.mavlinkCommand.1, h.result.1, h.resultCode.1, h.progress.1,
    h.resultParam2.1, h.errorCode.1, h.message, hmatching, hcode, hcombination]
  simp only [Bool.not_true, Bool.and_self, Bool.or_self, Bool.false_eq_true, if_false]
  rw [← h.mavlinkCommand.2, ← h.result.2, ← h.progress.2, ← h.resultCode.2, ← h.errorCode.2,
    ← h.resultParam2.2, ← h.raw]

/-- The ACK as it is returned: `result_param2` has been wrapped. -/
def DeviceControlAck.wrapped (ack : DeviceControlAck) : DeviceControlAck :=
  { ack with resultParam2 := ack.resultParam2.map Json.toInt64 }

lemma messageIsString_iff {root : Json} : messageIsString root = true ↔
    ∀ value, root.find? "message" = some value → ∃ text, value = .string text := by
  rw [messageIsString, Json.contains, Json.stringField?]
  cases root.find? "message" with
  | none => simp
  | some value => cases value <;> simp [Json.asString?]

lemma isObject_of_find {root value : Json} {field : String} (h : root.find? field = some value) :
    root.isObject = true := by
  cases root with
  | object fields => rfl
  | _ => cases h

lemma FieldsOf.unique {root : Json} {ack other : DeviceControlAck} (h : FieldsOf root ack)
    (h' : FieldsOf root other) : ack = other := by
  have hnat : Function.Injective fun n : ℕ => Json.integer n := by
    intro m n heq
    exact Int.ofNat.inj (Json.integer.inj heq)
  have hint : Function.Injective Json.integer := fun _ _ => Json.integer.inj
  have hstring : Function.Injective Json.string := fun _ _ => Json.string.inj
  have hid := h.commandId.symm.trans h'.commandId
  have hcommand := h.command.symm.trans h'.command
  have hstatus := h.status.symm.trans h'.status
  have hmavlink := Option.map_injective hnat (h.mavlinkCommand.symm.trans h'.mavlinkCommand)
  have hresult := Option.map_injective hnat (h.result.symm.trans h'.result)
  have hresultCode := Option.map_injective hstring (h.resultCode.symm.trans h'.resultCode)
  have hprogress := Option.map_injective hnat (h.progress.symm.trans h'.progress)
  have hparameter := Option.map_injective hint (h.resultParam2.symm.trans h'.resultParam2)
  have herror := Option.map_injective hstring (h.errorCode.symm.trans h'.errorCode)
  have hraw := h.raw.trans h'.raw.symm
  simp only [Option.some.injEq, Json.string.injEq] at hid hcommand hstatus
  have hsame : ack.command = other.command := commandText_injective hcommand
  cases ack
  cases other
  simp_all

/-- **What the parser accepts**: an ACK with its ranges, of one of the six forms or with stray
progress, whose `result_param2` is read. -/
lemma parseDeviceControlAck_ok_iff {root : Json} (hfit : IntegersFit root)
    {parsed : DeviceControlAck} :
    parseDeviceControlAck (some root) = .ok parsed ↔ ∃ ack, FieldsOf root ack ∧ AckRanges ack ∧
      ReadableParameter ack ∧ (ControlAckForm ack ∨ StrayProgress ack) ∧ parsed = ack.wrapped := by
  constructor
  · intro hok
    have h := controlAckChecks_of_ok hok
    obtain ⟨hmavlink, -⟩ := (read_natural hfit (by omega)).mp h.mavlinkCommand
    obtain ⟨hresult, hresultMax⟩ := (read_natural hfit (by omega)).mp h.result
    obtain ⟨hprogress, hprogressMax⟩ := (read_natural hfit (by omega)).mp h.progress
    obtain ⟨written, hwritten, hwrapped, hreadable⟩ := (read_parameter hfit).mp h.resultParam2
    obtain ⟨text, htext, hcommand⟩ := Option.bind_eq_some_iff.mp h.command
    rw [parseCommandText_iff.mp hcommand] at htext
    have hcombination := h.combination
    rw [FieldsChecked, hwrapped] at hcombination
    refine ⟨{ parsed with resultParam2 := written }, ⟨stringField?_iff.mp h.commandId,
      stringField?_iff.mp htext, stringField?_iff.mp h.status, hmavlink, hresult,
      read_string.mp h.resultCode, hprogress, hwritten, read_string.mp h.errorCode,
      messageIsString_iff.mp h.message, h.raw⟩, ⟨isUuidV4Shape_iff.mp h.uuid, fun n hn => ?_,
      hresultMax, hprogressMax, fun code hcode => ?_⟩, hreadable, ?_, ?_⟩
    · have hmatching := h.matching
      rw [show parsed.mavlinkCommand = some n from hn] at hmatching
      simpa using hmatching
    · have hvalid := h.validCode
      rw [show parsed.errorCode = some code from hcode] at hvalid
      simpa using hvalid
    · refine (@fieldsChecked_iff { parsed with resultParam2 := written } h.known).mp ?_
      exact checkControlAckFields_map.symm.trans hcombination
    · rw [DeviceControlAck.wrapped, ← hwrapped]
  · rintro ⟨ack, hfields, hranges, hreadable, hform, rfl⟩
    have hknown : ack.businessStatus ∈ ["accepted", "in_progress", "rejected", "timeout"] := by
      rcases hform with hform | hstray
      · cases hform <;> simp_all
      · rw [hstray.status]
        decide
    refine ok_of_controlAckChecks ⟨isObject_of_find hfields.commandId,
      stringField?_iff.mpr hfields.commandId, isUuidV4Shape_iff.mpr hranges.commandId,
      Option.bind_eq_some_iff.mpr ⟨_, stringField?_iff.mpr hfields.command,
        parseCommandText_iff.mpr rfl⟩, stringField?_iff.mpr hfields.status, hknown,
      (read_natural hfit (by omega)).mpr ⟨hfields.mavlinkCommand, fun n hn => ?_⟩,
      (read_natural hfit (by omega)).mpr ⟨hfields.result, hranges.result⟩,
      read_string.mpr hfields.resultCode,
      (read_natural hfit (by omega)).mpr ⟨hfields.progress, hranges.progress⟩,
      (read_parameter hfit).mpr ⟨ack.resultParam2, hfields.resultParam2, rfl, hreadable⟩,
      read_string.mpr hfields.errorCode, messageIsString_iff.mpr hfields.message, ?_, ?_, ?_,
      hfields.raw⟩
    · rw [hranges.mavlinkCommand n hn]
      cases ack.command <;> decide
    · rw [Option.any_eq_false]
      intro n hn
      have hexpected : n = expectedMavlinkCommand ack.wrapped.command := hranges.mavlinkCommand n hn
      simpa using hexpected
    · rw [Option.any_eq_false]
      intro code hcode
      simpa using hranges.errorCode code hcode
    · have hcombination := (fieldsChecked_iff hknown).mpr hform
      exact checkControlAckFields_map.trans hcombination

/-! ### What the parser accepts -/

/-- An ACK whose `result_param2` is an unsigned integer that wraps. -/
def WrappedParameter (ack : DeviceControlAck) : Prop :=
  ControlAckForm ack ∧ ∃ i, ack.resultParam2 = some i ∧ WrapsToInt32 i

lemma toInt64_int32 {i : ℤ} (h : IsInt32 i) : Json.toInt64 i = i := by
  rw [IsInt32] at h
  exact Int.bmod_eq_of_le (by omega) (by omega)

lemma wrapped_of_int32 {ack : DeviceControlAck}
    (h : ∀ i, ack.resultParam2 = some i → IsInt32 i) : ack.wrapped = ack := by
  cases ack with
  | mk commandId command businessStatus mavlinkCommand result resultCode progress resultParam2 =>
      cases resultParam2 with
      | none => rfl
      | some i => simp only [DeviceControlAck.wrapped, Option.map_some, toInt64_int32 (h i rfl)]

/-- A stray rejection has none of the forms. -/
lemma StrayProgress.not_form {ack : DeviceControlAck} (h : StrayProgress ack) :
    ¬ ControlAckForm ack := by
  intro hform
  have hstatus := h.status
  have hstray := h.stray
  have hmavlink := h.mavlinkCommand
  cases hform <;> simp_all

/-- **The parser takes the well-formed ACKs, with their own values, just where the object is
neither a local rejection with progress nor an ACK whose `result_param2` wraps**, its other
values being in order. -/
theorem control_acks_parsed (root : Json) (hfit : IntegersFit root) :
    (∀ parsed, parseDeviceControlAck (some root) = .ok parsed ↔
      FieldsOf root parsed ∧ WellFormedAck parsed) ↔
    ¬ ∃ ack, FieldsOf root ack ∧ AckRanges ack ∧ ReadableParameter ack ∧
      (StrayProgress ack ∨ WrappedParameter ack) := by
  constructor
  · rintro hclaim ⟨ack, hfields, hranges, hreadable, hdefect⟩
    have hform : ControlAckForm ack ∨ StrayProgress ack :=
      hdefect.elim .inr fun hwrapped => .inl hwrapped.1
    have hok := (parseDeviceControlAck_ok_iff hfit).mpr
      ⟨ack, hfields, hranges, hreadable, hform, rfl⟩
    obtain ⟨hfields', hwell⟩ := (hclaim ack.wrapped).mp hok
    have hsame : ack.wrapped = ack := hfields'.unique hfields
    rw [hsame] at hwell
    rcases hdefect with hstray | ⟨-, i, hi, hwraps⟩
    · exact hstray.not_form hwell.form
    · have hint := hwell.resultParam2 i hi
      rw [IsInt32] at hint
      rw [WrapsToInt32] at hwraps
      omega
  · intro hnone parsed
    rw [parseDeviceControlAck_ok_iff hfit]
    constructor
    · rintro ⟨ack, hfields, hranges, hreadable, hform, rfl⟩
      have hform' : ControlAckForm ack := by
        refine hform.resolve_right fun hstray => hnone ⟨ack, hfields, hranges, hreadable, ?_⟩
        exact .inl hstray
      have hint : ∀ i, ack.resultParam2 = some i → IsInt32 i := by
        intro i hi
        refine (hreadable i hi).resolve_right fun hwraps =>
          hnone ⟨ack, hfields, hranges, hreadable, .inr ⟨hform', i, hi, hwraps⟩⟩
      rw [wrapped_of_int32 hint]
      exact ⟨hfields, hranges, hint, hform'⟩
    · rintro ⟨hfields, hwell⟩
      exact ⟨parsed, hfields, hwell.toAckRanges, fun i hi => .inl (hwell.resultParam2 i hi),
        .inl hwell.form, (wrapped_of_int32 hwell.resultParam2).symm⟩

namespace Sample

/-- A takeoff that the device rejects by itself, with progress. -/
def strayRejection : Json :=
  .object [("command", .string "takeoff"),
    ("command_id", .string "00000000-0000-4000-8000-0000000000ab"),
    ("error_code", .string "command_busy"), ("progress", .integer 30),
    ("status", .string "rejected")]

/-- Progress of a takeoff, with the largest unsigned integer as its parameter. -/
def wrappedProgress : Json :=
  .object [("command", .string "takeoff"),
    ("command_id", .string "00000000-0000-4000-8000-0000000000ab"),
    ("mavlink_command", .integer 31091), ("progress", .integer 30), ("result", .integer 5),
    ("result_code", .string "in_progress"), ("result_param2", .integer (2 ^ 64 - 1)),
    ("status", .string "in_progress")]

/-- The rejection, as the parser returns it. -/
def strayAck : DeviceControlAck where
  commandId := "00000000-0000-4000-8000-0000000000ab"
  command := .takeoff
  businessStatus := "rejected"
  mavlinkCommand := none
  result := none
  resultCode := none
  progress := some 30
  resultParam2 := none
  errorCode := some "command_busy"
  raw := strayRejection

/-- The progress, as the parser returns it. -/
def wrappedAck : DeviceControlAck where
  commandId := "00000000-0000-4000-8000-0000000000ab"
  command := .takeoff
  businessStatus := "in_progress"
  mavlinkCommand := some 31091
  result := some 5
  resultCode := some "in_progress"
  progress := some 30
  resultParam2 := some (-1)
  errorCode := none
  raw := wrappedProgress

lemma strayAck_stray : StrayProgress strayAck :=
  ⟨rfl, rfl, rfl, rfl, by decide, .inl (by decide)⟩

lemma strayRejection_fit : IntegersFit strayRejection := by
  intro field i h
  obtain ⟨before, after, hfields, -⟩ := List.lookup_eq_some_iff.mp h
  have hmem : (field, Json.integer i) ∈ before ++ (field, Json.integer i) :: after :=
    List.mem_append_right _ List.mem_cons_self
  rw [← hfields] at hmem
  simp only [List.mem_cons, Prod.mk.injEq, reduceCtorEq, and_false, Json.integer.injEq,
    List.not_mem_nil, or_false, false_or] at hmem
  omega

end Sample

open Sample in
/-- The rejection is taken although it has none of the forms, and the progress with a
parameter that the device has not sent. -/
theorem control_ack_stray_and_wrapped :
    (parseDeviceControlAck (some strayRejection) = .ok strayAck ∧ ¬ WellFormedAck strayAck) ∧
      parseDeviceControlAck (some wrappedProgress) = .ok wrappedAck ∧
      ¬ FieldsOf wrappedProgress wrappedAck := by
  refine ⟨⟨rfl, fun hwell => strayAck_stray.not_form hwell.form⟩, rfl, fun hfields => ?_⟩
  have hparameter := hfields.resultParam2
  simp only [wrappedProgress, wrappedAck, Json.find?, Option.map_some] at hparameter
  cases hparameter

open Sample in
/-- The rejection is one of the objects on which the parser goes wrong. -/
theorem control_acks_parsed_stray :
    ¬ ∀ parsed, parseDeviceControlAck (some strayRejection) = .ok parsed ↔
      FieldsOf strayRejection parsed ∧ WellFormedAck parsed := by
  rw [control_acks_parsed strayRejection strayRejection_fit, not_not]
  refine ⟨strayAck, ⟨rfl, rfl, rfl, rfl, rfl, rfl, rfl, rfl, rfl, ?_, rfl⟩,
    ⟨isUuidV4Shape_iff.mp (by decide +kernel), ?_, ?_, ?_, ?_⟩, ?_, .inl strayAck_stray⟩
  · rintro value ⟨⟩
  · rintro n ⟨⟩
  · rintro n ⟨⟩
  · rintro n ⟨⟩
    omega
  · rintro code ⟨⟩
    decide +kernel
  · rintro i ⟨⟩

end CnsServer
