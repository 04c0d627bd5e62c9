/-
Source requests and their topics (`source_request.cpp`).

* `parseSourceTopic`, `parseDeviceAckTopic`: the four topics the command path
  listens on, each a namespace, a fixed frame and one identifier;
* `parseSourceConfigJson`, `parseSourceControlJson`: the strict parsers
  of the two request bodies.  A body that is a JSON object with a valid
  `request_id` is rejected together with its idempotency key and its full
  JSON, so that the rejection itself can be stored and replayed.

The text of a payload is turned into JSON by the JSON library; the parsers
here start from its result.
-/
import CnsServer.Device.Registry

namespace CnsServer

/-! ### Identifiers and topics -/

/-- `IsValidSourceId`. -/
def isValidSourceId (value : String) : Bool :=
  !value.isEmpty && value.length ≤ 64 &&
    value.toList.all fun c => c.isAlphanum || c = '.' || c = '_' || c = '-'

/-- `IsValidRequestId`. -/
def isValidRequestId (value : String) : Bool :=
  !value.isEmpty && value.length ≤ 128 &&
    value.toList.all fun c => c.isAlphanum || c = '.' || c = '_' || c = '-' || c = ':'

/-- The part of `topic` between `front` and `back`, if the topic has the form
`front ++ id ++ back` with a non-empty `id`. -/
def topicInfix (front back topic : String) : Option String :=
  let f := front.toList
  let b := back.toList
  let t := topic.toList
  if f.isPrefixOf t && b.isSuffixOf t && f.length + b.length < t.length then
    some (String.ofList ((t.drop f.length).take (t.length - f.length - b.length)))
  else none

/-- `ParseSourceTopic`. -/
def parseSourceTopic (topicNamespace topic suffix description : String) :
    Except ProtocolError String :=
  match topicInfix (topicNamespace ++ "/sources/") suffix topic with
  | none => .error ⟨"invalid_topic", description ++ "topic格式无效"⟩
  | some sourceId =>
      if !isValidSourceId sourceId || sourceId.toList.contains '/' then
        .error ⟨"invalid_topic", "source_id无效"⟩
      else .ok sourceId

/-- `ParseDeviceAckTopic`. -/
def parseDeviceAckTopic (topicNamespace topic suffix description : String) :
    Except ProtocolError String :=
  match topicInfix (topicNamespace ++ "/") suffix topic with
  | none => .error ⟨"invalid_topic", description ++ " topic格式无效"⟩
  | some deviceId =>
      if !isValidDeviceId deviceId then .error ⟨"invalid_topic", "device_id无效"⟩
      else .ok deviceId

/-- `ParseSourceRequestTopic`. -/
def parseSourceRequestTopic (topicNamespace topic : String) : Except ProtocolError String :=
  parseSourceTopic topicNamespace topic "/config/request" "来源配置请求"

/-- `ParseDeviceConfigAckTopic`. -/
def parseDeviceConfigAckTopic (topicNamespace topic : String) : Except ProtocolError String :=
  parseDeviceAckTopic topicNamespace topic "/config/ack" "设备配置ACK"

/-- `ParseSourceControlRequestTopic`. -/
def parseSourceControlRequestTopic (topicNamespace topic : String) :
    Except ProtocolError String :=
  parseSourceTopic topicNamespace topic "/control/request" "来源飞控请求"

/-- `ParseDeviceControlAckTopic`. -/
def parseDeviceControlAckTopic (topicNamespace topic : String) : Except ProtocolError String :=
  parseDeviceAckTopic topicNamespace topic "/control/ack" "设备飞控ACK"

/-! ### Targets and parameters -/

/-- `IsNonEmptyStringWithin`: lengths are counted in bytes. -/
def isNonEmptyStringWithin (object : Json) (key : String) (maximum : ℕ) : Bool :=
  match object.stringField? key with
  | some value => !value.isEmpty && value.utf8ByteSize ≤ maximum
  | none => false

/-- `ReadUnsignedInRange`: the value read, and whether `valid` survives. -/
def readUnsignedInRange (object : Json) (key : String) (minimum maximum : ℕ) :
    Option ℕ × Bool :=
  match object.find? key with
  | none => (none, true)
  | some (.integer i) =>
      if Json.toInt64 i < 0 then (none, false)
      else
        let number := Json.toUInt64 i
        if number < minimum || maximum < number then (none, false) else (some number, true)
  | some _ => (none, false)

/-- `ParseParameters`. -/
def parseParameters (value : Json) : Except ProtocolError ConfigParameters :=
  if !value.isObject || value.size = 0 then
    .error ⟨"invalid_parameters", "parameters必须是非空对象"⟩
  else if !value.keys.all (["telemetry_publish_interval_ms", "heartbeat_interval_ms",
      "mqtt_reconnect_delay_s", "mqtt_reconnect_delay_max_s"].contains ·) then
    .error ⟨"invalid_parameters", "parameters包含未知字段"⟩
  else
    let telemetry := readUnsignedInRange value "telemetry_publish_interval_ms" 100 60000
    let heartbeat := readUnsignedInRange value "heartbeat_interval_ms" 100 60000
    let delay := readUnsignedInRange value "mqtt_reconnect_delay_s" 1 3600
    let delayMax := readUnsignedInRange value "mqtt_reconnect_delay_max_s" 1 3600
    if !(telemetry.2 && heartbeat.2 && delay.2 && delayMax.2) then
      .error ⟨"invalid_parameters", "配置参数类型或范围非法"⟩
    else
      match delay.1, delayMax.1 with
      | some d, some m =>
          if m < d then .error ⟨"invalid_parameters", "MQTT重连初值不得大于最大值"⟩
          else .ok ⟨telemetry.1, heartbeat.1, delay.1, delayMax.1⟩
      | _, _ => .ok ⟨telemetry.1, heartbeat.1, delay.1, delayMax.1⟩

/-- `ParseTarget`. -/
def parseTarget (value : Json) (kind : SourceKind) : Except ProtocolError RequestTarget :=
  if !value.isObject then .error ⟨"invalid_target", "target必须是对象"⟩
  else if kind = .device then
    if value.size ≠ 1 || !isNonEmptyStringWithin value "dcdw_label" 64 then
      .error ⟨"invalid_target", "设备来源只能按同校角色号寻址"⟩
    else .ok (.deviceLabel ((value.stringField? "dcdw_label").getD ""))
  else
    match value.size, value.stringField? "device_id" with
    | 1, some deviceId =>
        if isValidDeviceId deviceId then .ok (.device deviceId)
        else .error ⟨"invalid_target", "非设备来源目标形式非法或混用"⟩
    | 2, _ =>
        if isNonEmptyStringWithin value "school_name" 128 &&
            isNonEmptyStringWithin value "dcdw_label" 64 then
          .ok (.schoolLabel ((value.stringField? "school_name").getD "")
            ((value.stringField? "dcdw_label").getD ""))
        else .error ⟨"invalid_target", "非设备来源目标形式非法或混用"⟩
    | _, _ => .error ⟨"invalid_target", "非设备来源目标形式非法或混用"⟩

/-- The four control commands by name, as the request parser and the ACK parser
read them. -/
def parseCommandText (text : String) : Option ControlCommand :=
  if text = "set_motor_pwm" then some .setMotorPwm
  else if text = "emergency_stop" then some .emergencyStop
  else if text = "takeoff" then some .takeoff
  else if text = "land" then some .land
  else none

/-- `ParseControlCommand`. -/
def parseControlCommand (root : Json) : Except ProtocolError ControlCommand :=
  match root.stringField? "command" with
  | none => .error ⟨"unsupported_command", "command缺失或非法"⟩
  | some text =>
      match parseCommandText text with
      | some command => .ok command
      | none => .error ⟨"unsupported_command", "不支持的飞控命令"⟩

/-- One pulse width of `set_motor_pwm`. -/
def parsePwm (item : Json) : Except ProtocolError ℕ :=
  match item with
  | .integer i =>
      if Json.toInt64 i < 0 then .error ⟨"invalid_parameters", "PWM必须是1000到2000的整数"⟩
      else
        let number := Json.toUInt64 i
        if number < 1000 || 2000 < number then
          .error ⟨"invalid_parameters", "PWM必须是1000到2000的整数"⟩
        else .ok number
  | _ => .error ⟨"invalid_parameters", "PWM必须是1000到2000的整数"⟩

/-- `ParseControlParameters`. -/
def parseControlParameters (value : Json) (command : ControlCommand) :
    Except ProtocolError ControlParameters :=
  if !value.isObject then .error ⟨"invalid_parameters", "parameters必须是对象"⟩
  else if command ≠ .setMotorPwm then
    if value.size ≠ 0 then .error ⟨"invalid_parameters", "该飞控命令不接受参数"⟩
    else .ok ⟨none⟩
  else
    match value.size, value.find? "pwm_us" with
    | 1, some (.array [a, b, c, d]) =>
        -- the source stops at the first bad pulse width, with the same error
        match parsePwm a, parsePwm b, parsePwm c, parsePwm d with
        | .ok a, .ok b, .ok c, .ok d => .ok ⟨some (a, b, c, d)⟩
        | _, _, _, _ => .error ⟨"invalid_parameters", "PWM必须是1000到2000的整数"⟩
    | _, _ => .error ⟨"invalid_parameters", "set_motor_pwm只接受四路pwm_us"⟩

/-! ### Requests -/

/-- `Reject`, the file-local helper that builds a rejected request. -/
def rejectRequest (requestId : Option String) (comparisonPayload : Option Json)
    (error : ProtocolError) : ParsedSourceRequest :=
  .rejected ⟨requestId, comparisonPayload, error⟩

/-- The `request_id` of a body, if it is present and valid. -/
def requestIdOf (root : Json) : Option String :=
  match root.stringField? "request_id" with
  | some requestId => if isValidRequestId requestId then some requestId else none
  | none => none

/-- Whether `schema_version` is the integer one. -/
def hasSchemaVersionOne (root : Json) : Bool :=
  match root.find? "schema_version" with
  | some (.integer i) => Json.toInt64 i = 1
  | _ => false

/-- The checks both request parsers share, up to the target: the object, the
request id, the allowed keys, the schema version and the target. -/
def parseEnvelope (allowed : List String) (root : Json) (kind : SourceKind) :
    Except RejectedSourceRequest (String × RequestTarget) :=
  if !root.isObject then
    .error ⟨none, none, "invalid_json", "来源请求必须是JSON对象"⟩
  else
    match requestIdOf root with
    | none => .error ⟨none, some root, "invalid_request_id", "request_id缺失或非法"⟩
    | some requestId =>
        if !root.keys.all (allowed.contains ·) then
          .error ⟨some requestId, some root, "invalid_json", "来源请求包含未知字段"⟩
        else if !hasSchemaVersionOne root then
          .error ⟨some requestId, some root, "unsupported_schema_version",
            "只支持schema_version=1"⟩
        else
          match root.find? "target" with
          | none => .error ⟨some requestId, some root, "invalid_target", "缺少target"⟩
          | some value =>
              match parseTarget value kind with
              | .error error => .error ⟨some requestId, some root, error⟩
              | .ok target => .ok (requestId, target)

/-- `ParseSourceConfigRequest` on the parsed body. -/
def parseSourceConfigJson (root : Json) (kind : SourceKind) : ParsedSourceRequest :=
  match parseEnvelope ["schema_version", "request_id", "target", "parameters"] root kind with
  | .error rejected => .rejected rejected
  | .ok (requestId, target) =>
      match root.find? "parameters" with
      | none => rejectRequest requestId root ⟨"invalid_parameters", "缺少parameters"⟩
      | some value =>
          match parseParameters value with
          | .error error => rejectRequest requestId root error
          | .ok parameters => .config ⟨requestId, target, parameters, root⟩

/-- `ParseSourceControlRequest` on the parsed body. -/
def parseSourceControlJson (root : Json) (kind : SourceKind) : ParsedSourceRequest :=
  match parseEnvelope ["schema_version", "request_id", "target", "command", "parameters"]
      root kind with
  | .error rejected => .rejected rejected
  | .ok (requestId, target) =>
      match parseControlCommand root with
      | .error error => rejectRequest requestId root error
      | .ok command =>
          match root.find? "parameters" with
          | none => rejectRequest requestId root ⟨"invalid_parameters", "缺少parameters"⟩
          | some value =>
              match parseControlParameters value command with
              | .error error => rejectRequest requestId root error
              | .ok parameters => .control ⟨requestId, target, command, parameters, root⟩

/-- The parser of a body of the given command type. -/
def parseSourceJson (commandType : CommandType) (root : Json) (kind : SourceKind) :
    ParsedSourceRequest :=
  match commandType with
  | .config => parseSourceConfigJson root kind
  | .control => parseSourceControlJson root kind

/-- `ParseSourceConfigRequest` and `ParseSourceControlRequest`: `json` is the
result of the JSON library on the payload text. -/
def parseSourceRequest (commandType : CommandType) (json : Option Json) (kind : SourceKind) :
    ParsedSourceRequest :=
  match json with
  | none => rejectRequest none none ⟨"invalid_json", "来源请求不是合法JSON"⟩
  | some root => parseSourceJson commandType root kind

/-! ### What the parsers keep -/

/-- The error codes of the request parsers. -/
def parseErrorCodes : List String :=
  ["invalid_json", "invalid_request_id", "unsupported_schema_version", "invalid_target",
    "invalid_parameters", "unsupported_command"]

/-- A parser refuses with a code of the list of the parsers. -/
lemma parseTarget_error_code {value : Json} {kind : SourceKind} {error : ProtocolError}
    (h : parseTarget value kind = .error error) : error.code ∈ parseErrorCodes := by
  unfold parseTarget at h
  repeat' split at h
  all_goals cases h
  all_goals decide

lemma parseParameters_error_code {value : Json} {error : ProtocolError}
    (h : parseParameters value = .error error) : error.code ∈ parseErrorCodes := by
  unfold parseParameters at h
  simp only [] at h
  repeat' split at h
  all_goals cases h
  all_goals decide

lemma parseControlCommand_error_code {root : Json} {error : ProtocolError}
    (h : parseControlCommand root = .error error) : error.code ∈ parseErrorCodes := by
  unfold parseControlCommand at h
  repeat' split at h
  all_goals cases h
  all_goals decide

lemma parseControlParameters_error_code {value : Json} {command : ControlCommand}
    {error : ProtocolError} (h : parseControlParameters value command = .error error) :
    error.code ∈ parseErrorCodes := by
  unfold parseControlParameters at h
  repeat' split at h
  all_goals cases h
  all_goals decide

/-- A rejected envelope names one of the parser's error codes, and a rejection
that has a request id keeps the whole body for comparison. -/
lemma parseEnvelope_error {allowed : List String} {root : Json} {kind : SourceKind}
    {rejected : RejectedSourceRequest} (h : parseEnvelope allowed root kind = .error rejected) :
    rejected.error.code ∈ parseErrorCodes ∧
      (rejected.requestId.isSome → rejected.comparisonPayload = some root) := by
  unfold parseEnvelope at h
  repeat' split at h
  all_goals cases h
  all_goals
    refine ⟨?_, by simp⟩
    first
    | exact parseTarget_error_code ‹_›
    | simp [parseErrorCodes]

/-- **What a parsed request keeps**: a body with a request id is kept whole for
the idempotency comparison, and a rejection carries one of the parser's error
codes. -/
theorem parseSourceJson_spec (commandType : CommandType) (root : Json) (kind : SourceKind) :
    ((parseSourceJson commandType root kind).requestId.isSome →
      (parseSourceJson commandType root kind).comparisonPayload = some root) ∧
    ∀ rejected, parseSourceJson commandType root kind = .rejected rejected →
      rejected.error.code ∈ parseErrorCodes := by
  cases commandType with
  | config =>
      simp only [parseSourceJson, parseSourceConfigJson]
      split
      · next he =>
          have hspec := parseEnvelope_error he
          exact ⟨hspec.2, fun rejected hr => by cases hr; exact hspec.1⟩
      · split
        · exact ⟨fun _ => rfl, fun rejected hr => by cases hr; simp [parseErrorCodes]⟩
        · split
          · next he =>
              refine ⟨fun _ => rfl, fun rejected hr => ?_⟩
              cases hr
              exact parseParameters_error_code he
          · exact ⟨fun _ => rfl, fun rejected hr => by cases hr⟩
  | control =>
      simp only [parseSourceJson, parseSourceControlJson]
      split
      · next he =>
          have hspec := parseEnvelope_error he
          exact ⟨hspec.2, fun rejected hr => by cases hr; exact hspec.1⟩
      · split
        · next he =>
            refine ⟨fun _ => rfl, fun rejected hr => ?_⟩
            cases hr
            exact parseControlCommand_error_code he
        · split
          · exact ⟨fun _ => rfl, fun rejected hr => by cases hr; simp [parseErrorCodes]⟩
          · split
            · next he =>
                refine ⟨fun _ => rfl, fun rejected hr => ?_⟩
                cases hr
                exact parseControlParameters_error_code he
            · exact ⟨fun _ => rfl, fun rejected hr => by cases hr⟩

/-- **Every rejected request** has one of these codes. -/
lemma parseSourceRequest_error_code {commandType : CommandType} {json : Option Json}
    {kind : SourceKind} {rejected : RejectedSourceRequest}
    (h : parseSourceRequest commandType json kind = .rejected rejected) :
    rejected.error.code ∈ parseErrorCodes := by
  cases json with
  | none =>
      cases h
      decide
  | some root => exact (parseSourceJson_spec commandType root kind).2 rejected h

end CnsServer
