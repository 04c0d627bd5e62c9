/-
The source ACKs as documents, and the ids of commands (`command_state.cpp`).

* `SourceAck.document`: the object that is sent, with its fields in key order;
* `formatUuidV4`: the text of a command id;
* `SameRandomBits`: two arrays of random bytes agree but for the version and the variant;
* `isUuid_format`: it is a UUID, whatever the random bytes are.
-/
import CnsServer.Command.Types
import CnsServer.Protocol.TimeFormat

namespace CnsServer

/-! ### ACKs -/

/-- The `error` of an ACK. -/
def errorField (code : String) (message : Option String) : Json :=
  .object [("code", .string code), ("message", .orNull .string message)]

/-- The `target` of an ACK. -/
def targetField (target : ResolvedTarget) : Json :=
  .object
    [("dcdw_label", .orNull .string target.dcdwLabel),
      ("device_id", .string target.deviceId),
      ("school_name", .string target.schoolName)]

/-- `BaseAck`, with the fields that `BuildSourceAck` and `BuildPrePersistenceRejection`
add. -/
def SourceAck.document (ack : SourceAck) : Json :=
  .ofFields
    [("business_status", some (.orNull .string ack.businessStatus)),
      ("command_id", some (.orNull .string ack.commandId)),
      ("command_type", some (.string ack.commandType.toText)),
      ("device", ack.device.map fun fields =>
        .object (fields.mergeSort fun field other => field.1 ≤ other.1)),
      ("error", ack.error.map fun error => errorField error.1 error.2),
      ("occurred_at", some (.string (formatUtcRfc3339Millis ack.occurredAt))),
      ("request_id", some (.orNull .string ack.requestId)),
      ("schema_version", some (.integer 1)),
      ("status", some (.string ack.status.toText)),
      ("target", ack.target.map targetField)]

/-! ### Command ids -/

/-- The digit of four bits. -/
def hexDigit (bits : UInt8) : Char := "0123456789abcdef".toList.getD bits.toNat '0'

/-- `FormatUuidV4`. -/
def formatUuidV4 (randomBytes : Fin 16 → UInt8) : String :=
  let randomBytes := Function.update randomBytes 6 (randomBytes 6 &&& 0x0f ||| 0x40)
  let randomBytes := Function.update randomBytes 8 (randomBytes 8 &&& 0x3f ||| 0x80)
  String.ofList ((List.finRange 16).flatMap fun index =>
    (if index = 4 ∨ index = 6 ∨ index = 8 ∨ index = 10 then ['-'] else []) ++
      [hexDigit (randomBytes index >>> 4), hexDigit (randomBytes index &&& 0x0f)])

/-- The arrays agree outside the four bits of the version and the two of the variant. -/
def SameRandomBits (randomBytes other : Fin 16 → UInt8) : Prop :=
  (∀ index, index ≠ 6 → index ≠ 8 → randomBytes index = other index) ∧
    randomBytes 6 &&& 0x0f = other 6 &&& 0x0f ∧ randomBytes 8 &&& 0x3f = other 8 &&& 0x3f

/-- The digit of any four bits is a hexadecimal one. -/
lemma hexDigit_isHexDigit (bits : UInt8) : isHexDigit (hexDigit bits) = true := by
  rw [hexDigit, List.getD_eq_getElem?_getD]
  cases hdigit : "0123456789abcdef".toList[bits.toNat]? with
  | none => decide
  | some c =>
      have hall : "0123456789abcdef".toList.all isHexDigit = true := by decide
      exact List.all_eq_true.mp hall c (List.mem_of_getElem? hdigit)

/-- **The text is a UUID.** -/
lemma isUuid_format (randomBytes : Fin 16 → UInt8) : isUuid (formatUuidV4 randomBytes) = true := by
  rw [isUuid, formatUuidV4, String.toList_ofList]
  simp [List.finRange_succ, hexDigit_isHexDigit, List.zipIdx_cons]

example : formatUuidV4 (fun index => (index.val * 17).toUInt8) =
    "00112233-4455-4677-8899-aabbccddeeff" := by
  decide +kernel

end CnsServer
