/-
The two message pairs between the service and a device: the `config/set` and
`control/set` bodies it sends (`BuildDeviceConfigSet`, `BuildDeviceControlSet`)
and the acknowledgements it accepts (`config_policy.cpp`, `control_policy.cpp`,
`command_validation.hpp`).

An accepted acknowledgement is reduced to what the life cycle needs by
`DeviceAck`: the command it names, its business status, and for control the
control command it repeats.
-/
import CnsServer.Command.SourceRequest

namespace CnsServer

/-! ### Bodies sent to devices -/

/-- `BuildDeviceConfigSet`; the fields are in key order. -/
def buildDeviceConfigSet (commandId : String) (parameters : ConfigParameters) : Json :=
  let number (key : String) (value : Option ℕ) : List (String × Json) :=
    match value with
    | some n => [(key, .integer n)]
    | none => []
  .object [("command_id", .string commandId),
    ("parameters", .object
      (number "heartbeat_interval_ms" parameters.heartbeatIntervalMs ++
        number "mqtt_reconnect_delay_max_s" parameters.mqttReconnectDelayMaxS ++
        number "mqtt_reconnect_delay_s" parameters.mqttReconnectDelayS ++
        number "telemetry_publish_interval_ms" parameters.telemetryPublishIntervalMs))]

/-- `CommandText`, also `ControlCommandName`. -/
def commandText : ControlCommand → String
  | .setMotorPwm => "set_motor_pwm"
  | .emergencyStop => "emergency_stop"
  | .takeoff => "takeoff"
  | .land => "land"

/-- `BuildDeviceControlSet`. -/
def buildDeviceControlSet (commandId : String) (command : ControlCommand)
    (parameters : ControlParameters) : Json :=
  let values : List (String × Json) :=
    match parameters.pwmUs with
    | some (a, b, c, d) =>
        [("pwm_us", .array [.integer a, .integer b, .integer c, .integer d])]
    | none => []
  .object [("command", .string (commandText command)), ("command_id", .string commandId),
    ("parameters", .object values)]

/-! ### Validation -/

/-- A digit or a lower-case hexadecimal letter. -/
def isLowerHex (c : Char) : Bool := c.isDigit || ('a' ≤ c && c ≤ 'f')

/-- `IsUuidV4Shape`. -/
def isUuidV4Shape (value : String) : Bool :=
  let chars := value.toList
  chars.length = 36 &&
    (chars.zipIdx.all fun (c, index) =>
      if index = 8 || index = 13 || index = 18 || index = 23 then c = '-' else isLowerHex c) &&
    chars[14]? = some '4' &&
    (chars[19]? = some '8' || chars[19]? = some '9' || chars[19]? = some 'a' ||
      chars[19]? = some 'b')

/-- `IsValidErrorCode`. -/
def isValidErrorCode (value : String) : Bool :=
  !value.isEmpty && value.length ≤ 64 &&
    value.toList.all fun c => ('a' ≤ c && c ≤ 'z') || c.isDigit || c = '_'

/-- A `message`, if present, is a string. -/
def messageIsString (root : Json) : Bool :=
  !root.contains "message" || (root.stringField? "message").isSome

/-! ### Configuration acknowledgements -/

/-- `ParseDeviceConfigAck`, on the result of the JSON library. -/
def parseDeviceConfigAck (json : Option Json) : Except ProtocolError DeviceConfigAck := do
  let some root := json
    | .error ⟨"invalid_json", "设备配置ACK不是合法JSON"⟩
  if !root.isObject then .error ⟨"invalid_json", "设备配置ACK必须是JSON对象"⟩
  let some commandId := root.stringField? "command_id"
    | .error ⟨"invalid_command_id", "command_id缺失或非法"⟩
  if !isUuidV4Shape commandId then .error ⟨"invalid_command_id", "command_id缺失或非法"⟩
  let some status := root.stringField? "status"
    | .error ⟨"invalid_ack", "status缺失或非法"⟩
  if status ≠ "applied" && status ≠ "already_applied" && status ≠ "rejected" then
    .error ⟨"invalid_ack", "设备配置ACK状态非法"⟩
  let some (.bool restartRequired) := root.find? "restart_required"
    | .error ⟨"invalid_ack", "restart_required缺失或非法"⟩
  let errorCode ←
    if status = "rejected" then
      match root.stringField? "error_code" with
      | some code =>
          if isValidErrorCode code then .ok (some code)
          else .error ⟨"invalid_ack", "rejected ACK缺少合法error_code"⟩
      | none => .error ⟨"invalid_ack", "rejected ACK缺少合法error_code"⟩
    else
      match root.find? "error_code" with
      | none | some .null => .ok none
      | some _ => .error ⟨"invalid_ack", "成功ACK不得包含error_code"⟩
  if !messageIsString root then .error ⟨"invalid_ack", "message类型非法"⟩
  .ok ⟨commandId, status, restartRequired, errorCode, root⟩

/-- An accepted ACK carries its command id and its business status, one of
three. -/
lemma parseDeviceConfigAck_ok {json : Option Json} {ack : DeviceConfigAck}
    (h : parseDeviceConfigAck json = .ok ack) :
    (json = some ack.raw ∧ ack.raw.stringField? "command_id" = some ack.commandId) ∧
      ack.raw.stringField? "status" = some ack.businessStatus ∧
      ack.businessStatus ∈ ["applied", "already_applied", "rejected"] := by
  cases json with
  | none => cases h
  | some root =>
      simp only [parseDeviceConfigAck, bind, Except.bind] at h
      -- every check but the last cases of `error_code` leaves an error
      repeat' split at h
      all_goals first | contradiction | skip
      all_goals
        cases h
        refine ⟨⟨rfl, by assumption⟩, by assumption, ?_⟩
        by_contra hnot
        simp_all

/-- The command id of an accepted ACK is a UUID. -/
lemma parseDeviceConfigAck_uuid {json : Option Json} {ack : DeviceConfigAck}
    (h : parseDeviceConfigAck json = .ok ack) : isUuidV4Shape ack.commandId = true := by
  cases json with
  | none => cases h
  | some root =>
      simp only [parseDeviceConfigAck, bind, Except.bind] at h
      repeat' split at h
      all_goals first | contradiction | skip
      all_goals
        cases h
        simp_all

/-! ### Control acknowledgements -/

/-- `ExpectedMavlinkCommand`. -/
def expectedMavlinkCommand : ControlCommand → ℕ
  | .setMotorPwm => 31013
  | .emergencyStop => 31090
  | .takeoff => 31091
  | .land => 31092

/-- `ResultCode`. -/
def resultCodeText (result : ℕ) : String :=
  match result with
  | 0 => "accepted"
  | 1 => "temporarily_rejected"
  | 2 => "denied"
  | 3 => "unsupported"
  | 4 => "failed"
  | 5 => "in_progress"
  | 6 => "cancelled"
  | _ => "unknown_result"

/-- `ReadInteger`: the value read, and whether `valid` survives.  Every JSON
integer is read through `get<std::int64_t>()`. -/
def readInteger (root : Json) (field : String) (minimum : ℤ) (maximum : ℕ) :
    Option ℤ × Bool :=
  match root.find? field with
  | none => (none, true)
  | some (.integer i) =>
      let number := Json.toInt64 i
      if number < minimum || (0 ≤ number && (maximum : ℤ) < number) then (none, false)
      else (some number, true)
  | some _ => (none, false)

/-- `ReadString`. -/
def readString (root : Json) (field : String) : Option String × Bool :=
  match root.find? field with
  | none => (none, true)
  | some (.string s) => (some s, true)
  | some _ => (none, false)

/-- The admissible combinations of fields of a control ACK, by its status. -/
def checkControlAckFields (status : String) (mavlinkCommand result progress : Option ℕ)
    (resultCode errorCode : Option String) (resultParam2 : Option ℤ) :
    Except ProtocolError Unit :=
  if status = "accepted" then
    if mavlinkCommand.isNone || result ≠ some 0 || resultCode ≠ some "accepted" ||
        progress.isSome || resultParam2.isSome || errorCode.isSome then
      .error ⟨"invalid_ack", "accepted ACK字段组合非法"⟩
    else .ok ()
  else if status = "in_progress" then
    if mavlinkCommand.isNone || errorCode.isSome then
      .error ⟨"invalid_ack", "in_progress ACK字段组合非法"⟩
    else if resultCode = some "pending" then
      if result.isSome || progress.isSome || resultParam2.isSome then
        .error ⟨"invalid_ack", "pending ACK字段组合非法"⟩
      else .ok ()
    else
      match progress with
      | some p =>
          if result ≠ some 5 || resultCode ≠ some "in_progress" || resultParam2.isNone ||
              (100 < p && p ≠ 255) then
            .error ⟨"invalid_ack", "MAVLink进度ACK字段组合非法"⟩
          else .ok ()
      | none => .error ⟨"invalid_ack", "MAVLink进度ACK字段组合非法"⟩
  else if status = "rejected" then
    if mavlinkCommand.isSome || result.isSome || resultCode.isSome then
      match mavlinkCommand, result, resultCode with
      | some _, some r, some code =>
          if errorCode.isSome || progress.isSome || resultParam2.isSome || r = 0 || r = 5 ||
              code ≠ resultCodeText r then
            .error ⟨"invalid_ack", "MAVLink拒绝ACK字段组合非法"⟩
          else .ok ()
      | _, _, _ => .error ⟨"invalid_ack", "MAVLink拒绝ACK字段组合非法"⟩
    else if errorCode.isNone then .error ⟨"invalid_ack", "本地拒绝ACK缺少error_code"⟩
    else .ok ()
  else if errorCode.isNone || result.isSome || resultCode.isSome || progress.isSome ||
      resultParam2.isSome then
    .error ⟨"invalid_ack", "timeout ACK字段组合非法"⟩
  else .ok ()

/-- `ParseDeviceControlAck`, on the result of the JSON library. -/
def parseDeviceControlAck (json : Option Json) : Except ProtocolError DeviceControlAck := do
  let some root := json
    | .error ⟨"invalid_json", "设备飞控ACK不是合法JSON"⟩
  if !root.isObject then .error ⟨"invalid_json", "设备飞控ACK必须是JSON对象"⟩
  let some commandId := root.stringField? "command_id"
    | .error ⟨"invalid_command_id", "command_id缺失或非法"⟩
  if !isUuidV4Shape commandId then .error ⟨"invalid_command_id", "command_id缺失或非法"⟩
  let some text := root.stringField? "command"
    | .error ⟨"invalid_ack", "command缺失或非法"⟩
  let some command := parseCommandText text
    | .error ⟨"invalid_ack", "command不受支持"⟩
  let some status := root.stringField? "status"
    | .error ⟨"invalid_ack", "status缺失或非法"⟩
  if status ≠ "accepted" && status ≠ "in_progress" && status ≠ "rejected" &&
      status ≠ "timeout" then
    .error ⟨"invalid_ack", "设备飞控ACK状态非法"⟩
  let (mavlinkCommand, mavlinkValid) := readInteger root "mavlink_command" 0 65535
  let (result, resultValid) := readInteger root "result" 0 255
  let (resultCode, resultCodeValid) := readString root "result_code"
  let (progress, progressValid) := readInteger root "progress" 0 255
  let (resultParam2, resultParam2Valid) :=
    readInteger root "result_param2" (-2147483648) 2147483647
  let (errorCode, errorCodeValid) := readString root "error_code"
  let valid := mavlinkValid && resultValid && resultCodeValid && progressValid &&
    resultParam2Valid && errorCodeValid
  if !valid || !messageIsString root then
    .error ⟨"invalid_ack", "设备飞控ACK字段类型非法"⟩
  let mavlinkCommand := mavlinkCommand.map Int.toNat
  let result := result.map Int.toNat
  let progress := progress.map Int.toNat
  if mavlinkCommand.any (· ≠ expectedMavlinkCommand command) then
    .error ⟨"invalid_ack", "mavlink_command与command不匹配"⟩
  if errorCode.any fun code => !isValidErrorCode code then
    .error ⟨"invalid_ack", "error_code非法"⟩
  checkControlAckFields status mavlinkCommand result progress resultCode errorCode resultParam2
  .ok ⟨commandId, command, status, mavlinkCommand, result, resultCode, progress, resultParam2,
    errorCode, root⟩

/-- An accepted ACK carries its command id and its business status, one of
four. -/
lemma parseDeviceControlAck_ok {json : Option Json} {ack : DeviceControlAck}
    (h : parseDeviceControlAck json = .ok ack) :
    (json = some ack.raw ∧ ack.raw.stringField? "command_id" = some ack.commandId) ∧
      ack.raw.stringField? "status" = some ack.businessStatus ∧
      ack.businessStatus ∈ ["accepted", "in_progress", "rejected", "timeout"] := by
  cases json with
  | none => cases h
  | some root =>
      simp only [parseDeviceControlAck, bind, Except.bind] at h
      repeat' split at h
      all_goals first | contradiction | skip
      cases h
      refine ⟨⟨rfl, by assumption⟩, by assumption, ?_⟩
      by_contra hnot
      simp_all

lemma parseDeviceControlAck_uuid {json : Option Json} {ack : DeviceControlAck}
    (h : parseDeviceControlAck json = .ok ack) : isUuidV4Shape ack.commandId = true := by
  cases json with
  | none => cases h
  | some root =>
      simp only [parseDeviceControlAck, bind, Except.bind] at h
      repeat' split at h
      all_goals first | contradiction | skip
      cases h
      simp_all

/-! ### What the life cycle reads of an acknowledgement -/

/-- The part of a parsed device ACK that `HandleDeviceAck` keeps. -/
structure DeviceAck where
  commandId : String
  businessStatus : String
  raw : Json
  controlCommand : Option ControlCommand

/-- The parse at the head of `HandleDeviceAck`. -/
def parseDeviceAck (commandType : CommandType) (json : Option Json) : Option DeviceAck :=
  match commandType with
  | .control =>
      match parseDeviceControlAck json with
      | .ok ack => some ⟨ack.commandId, ack.businessStatus, ack.raw, some ack.command⟩
      | .error _ => none
  | .config =>
      match parseDeviceConfigAck json with
      | .ok ack => some ⟨ack.commandId, ack.businessStatus, ack.raw, none⟩
      | .error _ => none

/-- The business status is a field of the message, and one of those the parsers
accept. -/
lemma parseDeviceAck_status {commandType : CommandType} {json : Option Json} {ack : DeviceAck}
    (h : parseDeviceAck commandType json = some ack) :
    ack.raw.stringField? "status" = some ack.businessStatus ∧ ack.businessStatus ∈
      ["applied", "already_applied", "accepted", "in_progress", "rejected", "timeout"] := by
  unfold parseDeviceAck at h
  split at h
  · split at h
    · next parsed hparsed =>
        cases h
        obtain ⟨_, hstatus, hknown⟩ := parseDeviceControlAck_ok hparsed
        refine ⟨hstatus, ?_⟩
        simp only [List.mem_cons, List.not_mem_nil, or_false] at hknown ⊢
        tauto
    · cases h
  · split at h
    · next parsed hparsed =>
        cases h
        obtain ⟨_, hstatus, hknown⟩ := parseDeviceConfigAck_ok hparsed
        refine ⟨hstatus, ?_⟩
        simp only [List.mem_cons, List.not_mem_nil, or_false] at hknown ⊢
        tauto
    · cases h

/-- Both parsers read the command id from the same field. -/
lemma parseDeviceAck_commandId {commandType : CommandType} {json : Option Json} {ack : DeviceAck}
    (h : parseDeviceAck commandType json = some ack) :
    json.bind (·.stringField? "command_id") = some ack.commandId := by
  unfold parseDeviceAck at h
  split at h
  · split at h
    · next parsed hparsed =>
        cases h
        obtain ⟨⟨rfl, hid⟩, _⟩ := parseDeviceControlAck_ok hparsed
        exact hid
    · cases h
  · split at h
    · next parsed hparsed =>
        cases h
        obtain ⟨⟨rfl, hid⟩, _⟩ := parseDeviceConfigAck_ok hparsed
        exact hid
    · cases h

lemma parseDeviceAck_uuid {commandType : CommandType} {json : Option Json} {ack : DeviceAck}
    (h : parseDeviceAck commandType json = some ack) : isUuidV4Shape ack.commandId = true := by
  unfold parseDeviceAck at h
  split at h
  · split at h
    · next parsed hparsed =>
        cases h
        exact parseDeviceControlAck_uuid hparsed
    · cases h
  · split at h
    · next parsed hparsed =>
        cases h
        exact parseDeviceConfigAck_uuid hparsed
    · cases h

namespace DeviceAck

/-- The status a device ACK asks for. -/
def desired (ack : DeviceAck) : CommandStatus :=
  if ack.businessStatus = "timeout" then .timeout
  else if ack.businessStatus = "rejected" then .failed
  else if ack.businessStatus = "in_progress" then .inProgress
  else .succeeded

end DeviceAck

end CnsServer
