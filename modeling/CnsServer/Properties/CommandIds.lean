/-
The ids of commands: their form, and which random bytes they keep.

* `hexDigits_inj`: a byte is told by its two digits;
* `isUuidV4Shape_format`: the form is the one that the ACK parsers ask for;
* `formatUuidV4_inj`: **equal ids** have the same random bits;
* `command_ids_accepted`: all of this of every array.
-/
import CnsServer.Command.CommandState
import CnsServer.Command.DevicePolicy

namespace CnsServer

/-! ### Bytes -/

/-- A fact about the 256 bytes. -/
lemma forall_byte {P : UInt8 → Prop} (h : ∀ n < 256, P (UInt8.ofNat n)) (bits : UInt8) :
    P bits := by
  have hbits := h bits.toNat bits.toNat_lt
  rwa [UInt8.ofNat_toNat] at hbits

/-- The byte of the version, after the four bits are set. -/
lemma version_spec (bits : UInt8) :
    (bits &&& 0x0f ||| 0x40) >>> 4 = 4 ∧ (bits &&& 0x0f ||| 0x40) &&& 0x0f = bits &&& 0x0f := by
  revert bits
  exact forall_byte (by decide +kernel)

/-- The byte of the variant, after the two bits are set. -/
lemma variant_spec (bits : UInt8) :
    hexDigit ((bits &&& 0x3f ||| 0x80) >>> 4) ∈ ['8', '9', 'a', 'b'] ∧
      (bits &&& 0x3f ||| 0x80) &&& 0x3f = bits &&& 0x3f := by
  revert bits
  exact forall_byte (by decide +kernel)

/-- The digits of a byte, and the byte of two digits. -/
lemma hexDigits_spec (bits : UInt8) :
    isLowerHex (hexDigit (bits >>> 4)) = true ∧ isLowerHex (hexDigit (bits &&& 0x0f)) = true ∧
      UInt8.ofNat ("0123456789abcdef".toList.idxOf (hexDigit (bits >>> 4)) * 16 +
        "0123456789abcdef".toList.idxOf (hexDigit (bits &&& 0x0f))) = bits := by
  revert bits
  exact forall_byte (by decide +kernel)

/-- **A byte is told by its digits.** -/
lemma hexDigits_inj {bits other : UInt8} :
    (hexDigit (bits >>> 4) = hexDigit (other >>> 4) ∧
      hexDigit (bits &&& 0x0f) = hexDigit (other &&& 0x0f)) ↔ bits = other := by
  constructor
  · rintro ⟨hhigh, hlow⟩
    rw [← (hexDigits_spec bits).2.2, ← (hexDigits_spec other).2.2, hhigh, hlow]
  · rintro rfl
    exact ⟨rfl, rfl⟩

lemma version_inj {bits other : UInt8} :
    (bits &&& 0x0f ||| 0x40) = (other &&& 0x0f ||| 0x40) ↔ bits &&& 0x0f = other &&& 0x0f := by
  constructor
  · intro h
    rw [← (version_spec bits).2, h, (version_spec other).2]
  · intro h
    rw [h]

lemma variant_inj {bits other : UInt8} :
    (bits &&& 0x3f ||| 0x80) = (other &&& 0x3f ||| 0x80) ↔ bits &&& 0x3f = other &&& 0x3f := by
  constructor
  · intro h
    rw [← (variant_spec bits).2, h, (variant_spec other).2]
  · intro h
    rw [h]

/-! ### The form -/

/-- **The form of an id** is the one that the ACK parsers ask for. -/
lemma isUuidV4Shape_format (randomBytes : Fin 16 → UInt8) :
    isUuidV4Shape (formatUuidV4 randomBytes) = true := by
  have hvariant := (variant_spec (randomBytes 8)).1
  simp only [List.mem_cons, List.not_mem_nil, or_false] at hvariant
  have hversion : hexDigit 4 = '4' ∧ isLowerHex '4' = true := by decide
  rw [isUuidV4Shape, formatUuidV4, String.toList_ofList]
  simp [List.finRange_succ, hexDigits_spec, List.zipIdx_cons, version_spec, hversion, hvariant,
    or_assoc]

/-! ### The random bits -/

/-- Texts that are made of parts of the same lengths. -/
lemma flatMap_inj {ι : Type} {f g : ι → List Char} (hlength : ∀ i, (f i).length = (g i).length)
    (l : List ι) : l.flatMap f = l.flatMap g ↔ ∀ i ∈ l, f i = g i := by
  induction l with
  | nil => simp
  | cons i l ih =>
      rw [List.flatMap_cons, List.flatMap_cons, List.forall_mem_cons, ← ih]
      exact ⟨fun h => List.append_inj h (hlength i), fun h => by rw [h.1, h.2]⟩

/-- **Equal ids** have the same random bits. -/
lemma formatUuidV4_inj {randomBytes other : Fin 16 → UInt8} :
    formatUuidV4 randomBytes = formatUuidV4 other ↔ SameRandomBits randomBytes other := by
  rw [formatUuidV4, formatUuidV4, String.ofList_inj, flatMap_inj]
  · simp only [List.mem_finRange, forall_const, List.append_right_inj, List.cons.injEq, and_true,
      hexDigits_inj]
    constructor
    · intro h
      refine ⟨fun index hsix height => ?_, ?_, ?_⟩
      · simpa [Function.update_of_ne, hsix, height] using h index
      · exact version_inj.mp (by simpa using h 6)
      · exact variant_inj.mp (by simpa using h 8)
    · rintro ⟨hothers, hversion, hvariant⟩ index
      by_cases height : index = 8
      · subst height
        simpa using variant_inj.mpr hvariant
      · by_cases hsix : index = 6
        · subst hsix
          simpa using version_inj.mpr hversion
        · simp [Function.update_of_ne, hsix, height, hothers index hsix height]
  · intro index
    split <;> rfl

/-! ### The ACK parsers -/

/-- What a parser answers is not that the id is missing or malformed. -/
def TakesId {α : Type} (answer : Except ProtocolError α) : Prop :=
  ∀ error, answer = .error error → error.code ≠ "invalid_command_id"

lemma parseDeviceConfigAck_takesId {root : Json} {commandId : String}
    (hobject : root.isObject = true) (hid : root.stringField? "command_id" = some commandId)
    (hshape : isUuidV4Shape commandId = true) : TakesId (parseDeviceConfigAck (some root)) := by
  intro error herror
  simp only [parseDeviceConfigAck, hobject, hid, hshape, bind, Except.bind] at herror
  repeat' split at herror
  all_goals first | contradiction | skip
  all_goals
    cases herror
    decide

lemma checkControlAckFields_error {status : String} {mavlinkCommand result progress : Option ℕ}
    {resultCode errorCode : Option String} {resultParam2 : Option ℤ} {error : ProtocolError}
    (h : checkControlAckFields status mavlinkCommand result progress resultCode errorCode
      resultParam2 = .error error) : error.code = "invalid_ack" := by
  simp only [checkControlAckFields] at h
  repeat' split at h
  all_goals first | contradiction | skip
  all_goals
    cases h
    rfl

lemma parseDeviceControlAck_takesId {root : Json} {commandId : String}
    (hobject : root.isObject = true) (hid : root.stringField? "command_id" = some commandId)
    (hshape : isUuidV4Shape commandId = true) : TakesId (parseDeviceControlAck (some root)) := by
  intro error herror
  simp only [parseDeviceControlAck, hobject, hid, hshape, bind, Except.bind] at herror
  repeat' split at herror
  all_goals first | contradiction | skip
  all_goals cases herror
  all_goals first | decide | skip
  next hcheck =>
    rw [checkControlAckFields_error hcheck]
    decide

/-- The least answer to a configuration. -/
def appliedAck (commandId : String) : Json :=
  .object [("command_id", .string commandId), ("restart_required", .bool false),
    ("status", .string "applied")]

/-- The least answer to a flight command. -/
def timeoutAck (commandId : String) : Json :=
  .object [("command", .string "land"), ("command_id", .string commandId),
    ("error_code", .string "timeout"), ("status", .string "timeout")]

lemma parseDeviceConfigAck_applied {commandId : String} (h : isUuidV4Shape commandId = true) :
    ∃ ack, parseDeviceConfigAck (some (appliedAck commandId)) = .ok ack ∧
      ack.commandId = commandId := by
  refine ⟨⟨commandId, "applied", false, none, appliedAck commandId⟩, ?_, rfl⟩
  simp [parseDeviceConfigAck, appliedAck, Json.stringField?, Json.find?, Json.isObject,
    Json.asString?, List.lookup_cons, h, bind, Except.bind, messageIsString, Json.contains]

lemma parseDeviceControlAck_timeout {commandId : String} (h : isUuidV4Shape commandId = true) :
    ∃ ack, parseDeviceControlAck (some (timeoutAck commandId)) = .ok ack ∧
      ack.commandId = commandId := by
  refine ⟨⟨commandId, .land, "timeout", none, none, none, none, none, some "timeout",
    timeoutAck commandId⟩, ?_, rfl⟩
  have hcode : isValidErrorCode "timeout" = true := by decide +kernel
  simp [parseDeviceControlAck, timeoutAck, Json.stringField?, Json.find?, Json.isObject,
    Json.asString?, List.lookup_cons, h, hcode, bind, Except.bind, messageIsString, Json.contains,
    parseCommandText, readInteger, readString, checkControlAckFields]

/-- **Every generated id** has 36 characters and the form that the ACK parsers ask for, so
that neither refuses an ACK for its id, and it tells the random bits apart. -/
theorem command_ids_accepted (randomBytes : Fin 16 → UInt8) :
    ((formatUuidV4 randomBytes).length = 36 ∧ isUuidV4Shape (formatUuidV4 randomBytes) = true) ∧
    (∀ root : Json, root.isObject = true →
      root.stringField? "command_id" = some (formatUuidV4 randomBytes) →
      TakesId (parseDeviceConfigAck (some root)) ∧ TakesId (parseDeviceControlAck (some root))) ∧
    ((∃ root ack, parseDeviceConfigAck (some root) = .ok ack ∧
        ack.commandId = formatUuidV4 randomBytes) ∧
      ∃ root ack, parseDeviceControlAck (some root) = .ok ack ∧
        ack.commandId = formatUuidV4 randomBytes) ∧
    ∀ other, formatUuidV4 randomBytes = formatUuidV4 other ↔ SameRandomBits randomBytes other := by
  have hshape := isUuidV4Shape_format randomBytes
  refine ⟨⟨?_, hshape⟩, fun root hobject hid => ?_, ⟨?_, ?_⟩, fun other => formatUuidV4_inj⟩
  · simp only [isUuidV4Shape, Bool.and_eq_true, decide_eq_true_eq] at hshape
    rw [← String.length_toList]
    exact hshape.1.1.1
  · exact ⟨parseDeviceConfigAck_takesId hobject hid hshape,
      parseDeviceControlAck_takesId hobject hid hshape⟩
  · exact ⟨_, parseDeviceConfigAck_applied hshape⟩
  · exact ⟨_, parseDeviceControlAck_timeout hshape⟩

end CnsServer
