/-
The configuration of the service (`app_config.cpp`).

* `DatabaseSection`, …, `AppConfig`: the sections;
* `AppConfig.readObject`, `readString`, `readInteger`: a field and its path, for the errors;
* `parseDatabase`, …, `parseCommand`: a section, in the order of the checks;
* `loadAppConfig`: the file.
-/
import CnsServer.Config.Logger
import CnsServer.Protocol.Json
import CnsServer.Store.CommandSources
import CnsServer.Store.ConnectionString

namespace CnsServer

/-! ### The sections -/

/-- `config::DatabaseConfig`, the whole of it; durations are in seconds. -/
structure DatabaseSection extends DatabaseConfig where
  reconnectInterval : ℕ

/-- `MqttConfig`. -/
structure MqttConfig where
  host : String
  port : UInt16
  keepalive : ℕ
  clientId : String
  username : String
  password : String
  reconnectDelay : ℕ
  reconnectDelayMax : ℕ
  topicNamespace : String
  maxPayloadBytes : ℕ

/-- `DeviceStateConfig`. -/
structure DeviceStateConfig where
  telemetryFlushInterval : ℕ
  offlineTimeout : ℕ

/-- `CommandConfig`; the retention is in days. -/
structure CommandConfig where
  configTimeout : ℕ
  controlTimeout : ℕ
  terminalRetention : ℕ
  cleanupInterval : ℕ
  cleanupBatchSize : ℕ
  maxInflightCommands : ℕ
  fixedSources : List FixedSource

/-- `AppConfig`; `LoggingConfig` and `QueueConfig` have one field each. -/
structure AppConfig where
  database : DatabaseSection
  mqtt : MqttConfig
  level : LogLevel
  mqttInboundCapacity : ℕ
  deviceState : DeviceStateConfig
  command : CommandConfig

namespace AppConfig

/-! ### The readers -/

/-- `Error`. -/
def failure {α : Type} (path message : String) : Except String α :=
  .error (path ++ "：" ++ message)

/-- The fields of an object may only be these. -/
def onlyFields (object : Json) (allowed : List String) (unknown : String → String) :
    Except String Unit :=
  match object.keys.find? fun field => field ∉ allowed with
  | some field => failure (unknown field) "未知字段"
  | none => .ok ()

/-- `ReadObject`. -/
def readObject (parent : Json) (key path : String) (allowed : List String) :
    Except String Json :=
  match parent.find? key with
  | none => failure path "缺少必填字段"
  | some object =>
      if object.isObject = false then failure path "必须是对象"
      else do
        onlyFields object allowed fun field => path ++ "." ++ field
        return object

/-- `ReadString`. -/
def readString (object : Json) (key path : String) : Except String String :=
  match object.find? key with
  | none => failure path "缺少必填字段"
  | some (.string text) => .ok text
  | some _ => failure path "必须是字符串"

/-- `ReadInteger`.  Both tests for integers hold of the same values. -/
def readInteger (object : Json) (key path : String) (minimum maximum : ℕ) :
    Except String ℕ :=
  match object.find? key with
  | none => failure path "缺少必填字段"
  | some (.integer value) =>
      if Json.toInt64 value < 0 then failure path "数值超出允许范围"
      else
        let number := Json.toUInt64 value
        if number < minimum ∨ number > maximum then failure path "数值超出允许范围"
        else .ok number
  | some _ => failure path "必须是整数"

/-- A check that is made on its own. -/
def require (condition : Bool) (path message : String) : Except String Unit :=
  if condition = true then .ok () else failure path message

/-- `CheckRoot`. -/
def checkRoot (root : Json) : Except String Unit := do
  require root.isObject "配置" "顶层必须是对象"
  onlyFields root ["database", "mqtt", "logging", "queues", "device_state", "command"] id

/-! ### The sections, field by field -/

/-- `ParseDatabase`. -/
def parseDatabase (root : Json) : Except String DatabaseSection := do
  let object ← readObject root "database" "database" ["host", "port", "name", "user", "password",
    "connect_timeout_seconds", "reconnect_interval_seconds"]
  let host ← readString object "host" "database.host"
  let port ← readInteger object "port" "database.port" 1 65535
  let name ← readString object "name" "database.name"
  let user ← readString object "user" "database.user"
  let password ← readString object "password" "database.password"
  require (password ≠ "") "database.password" "不能为空"
  let timeout ← readInteger object "connect_timeout_seconds"
    "database.connect_timeout_seconds" 1 60
  let reconnect ← readInteger object "reconnect_interval_seconds"
    "database.reconnect_interval_seconds" 1 300
  return ⟨⟨host, port.toUInt16, name, user, password, timeout⟩, reconnect⟩

/-- `std::isspace`, in the locale of the service. -/
def isSpace (character : Char) : Bool :=
  character = ' ' || (9 ≤ character.toNat && character.toNat ≤ 13)

/-- `IsValidTopicNamespace`. -/
def isValidTopicNamespace (value : String) : Bool :=
  value ≠ "" && value.toList.all fun character =>
    !(character = Char.ofNat 0 || character = '/' || character = '+' || character = '#' ||
      isSpace character)

/-- `ParseMqtt`. -/
def parseMqtt (root : Json) : Except String MqttConfig := do
  let object ← readObject root "mqtt" "mqtt" ["host", "port", "keepalive_seconds", "client_id",
    "username", "password", "reconnect_delay_seconds", "reconnect_delay_max_seconds",
    "topic_namespace", "max_payload_bytes"]
  let host ← readString object "host" "mqtt.host"
  let port ← readInteger object "port" "mqtt.port" 1 65535
  let keepalive ← readInteger object "keepalive_seconds" "mqtt.keepalive_seconds" 1 3600
  let clientId ← readString object "client_id" "mqtt.client_id"
  require (clientId ≠ "") "mqtt.client_id" "不能为空"
  let username ← readString object "username" "mqtt.username"
  let password ← readString object "password" "mqtt.password"
  require (username ≠ "" || password = "") "mqtt.password" "用户名为空时密码也必须为空"
  let delay ← readInteger object "reconnect_delay_seconds" "mqtt.reconnect_delay_seconds" 1 3600
  let delayMax ← readInteger object "reconnect_delay_max_seconds"
    "mqtt.reconnect_delay_max_seconds" 1 3600
  require (delay ≤ delayMax) "mqtt.reconnect_delay_seconds"
    "不得大于 mqtt.reconnect_delay_max_seconds"
  let topicNamespace ← readString object "topic_namespace" "mqtt.topic_namespace"
  require (isValidTopicNamespace topicNamespace) "mqtt.topic_namespace"
    "必须是单个非空合法 topic 段"
  let maxPayload ← readInteger object "max_payload_bytes" "mqtt.max_payload_bytes" 1024 1048576
  return ⟨host, port.toUInt16, keepalive, clientId, username, password, delay, delayMax,
    topicNamespace, maxPayload⟩

/-- `ParseDeviceState`. -/
def parseDeviceState (root : Json) (keepalive : ℕ) : Except String DeviceStateConfig := do
  let object ← readObject root "device_state" "device_state"
    ["telemetry_flush_interval_seconds", "offline_timeout_seconds"]
  let flush ← readInteger object "telemetry_flush_interval_seconds"
    "device_state.telemetry_flush_interval_seconds" 1 60
  let offline ← readInteger object "offline_timeout_seconds"
    "device_state.offline_timeout_seconds" 61 86400
  require (keepalive < offline) "device_state.offline_timeout_seconds"
    "必须严格大于 mqtt.keepalive_seconds"
  return ⟨flush, offline⟩

/-- `ParseLogging`. -/
def parseLogging (root : Json) : Except String LogLevel := do
  let object ← readObject root "logging" "logging" ["level"]
  let level ← readString object "level" "logging.level"
  match parseLevel level with
  | some parsed => return parsed
  | none => failure "logging.level" "只接受 debug、info、warn 或 error"

/-- `ParseQueues`. -/
def parseQueues (root : Json) : Except String ℕ := do
  let object ← readObject root "queues" "queues" ["mqtt_inbound_capacity"]
  readInteger object "mqtt_inbound_capacity" "queues.mqtt_inbound_capacity" 1 65536

/-- `IsValidSourceId`. -/
def isValidSourceId (sourceId : String) : Bool :=
  sourceId ≠ "" && sourceId.utf8ByteSize ≤ 64 && sourceId.toList.all fun character =>
    character.isAlphanum || character = '.' || character = '_' || character = '-'

/-- The names of the kinds. -/
def parseSourceKind (kind path : String) : Except String FixedSourceKind :=
  if kind = "host_app" then .ok .hostApp
  else if kind = "control_center" then .ok .controlCenter
  else failure path "只接受host_app或control_center"

/-- One round of the loop over `fixed_sources`. -/
def parseSource (source : Json) (path : String) (sourceIds : List String) :
    Except String FixedSource := do
  require source.isObject path "必须是对象"
  onlyFields source ["source_id", "source_kind"] fun field => path ++ "." ++ field
  let sourceId ← readString source "source_id" (path ++ ".source_id")
  require (isValidSourceId sourceId) (path ++ ".source_id")
    "必须匹配[A-Za-z0-9._-]+且长度不超过64"
  require (sourceId ∉ sourceIds) (path ++ ".source_id") "source_id不得重复"
  let kind ← readString source "source_kind" (path ++ ".source_kind")
  let parsedKind ← parseSourceKind kind (path ++ ".source_kind")
  return ⟨sourceId, parsedKind⟩

/-- The loop, with the sources it has read. -/
def parseSources : List Json → List FixedSource → Except String (List FixedSource)
  | [], parsed => .ok parsed
  | source :: sources, parsed => do
      let fixed ← parseSource source ("command.fixed_sources[" ++ toString parsed.length ++ "]")
        (parsed.map FixedSource.sourceId)
      parseSources sources (parsed ++ [fixed])

/-- `fixed_sources` is an array. -/
def readSources (object : Json) : Except String (List Json) :=
  match object.find? "fixed_sources" with
  | none => failure "command.fixed_sources" "缺少必填字段"
  | some (.array sources) => .ok sources
  | some _ => failure "command.fixed_sources" "必须是数组"

/-- `ParseCommand`. -/
def parseCommand (root : Json) : Except String CommandConfig := do
  let object ← readObject root "command" "command" ["config_timeout_seconds",
    "control_timeout_seconds", "terminal_retention_days", "cleanup_interval_seconds",
    "cleanup_batch_size", "max_inflight_commands", "fixed_sources"]
  let timeout ← readInteger object "config_timeout_seconds" "command.config_timeout_seconds" 1 300
  let controlTimeout ← readInteger object "control_timeout_seconds"
    "command.control_timeout_seconds" 1 300
  let retention ← readInteger object "terminal_retention_days"
    "command.terminal_retention_days" 1 3650
  let cleanupInterval ← readInteger object "cleanup_interval_seconds"
    "command.cleanup_interval_seconds" 60 86400
  let cleanupBatch ← readInteger object "cleanup_batch_size" "command.cleanup_batch_size" 1 1000
  let maxInflight ← readInteger object "max_inflight_commands"
    "command.max_inflight_commands" 1 4096
  let sources ← readSources object
  let parsedSources ← parseSources sources []
  return ⟨timeout, controlTimeout, retention, cleanupInterval, cleanupBatch, maxInflight,
    parsedSources⟩

/-- The body of `LoadAppConfig`, from the document. -/
def parseAppConfig (root : Json) : Except String AppConfig := do
  checkRoot root
  let database ← parseDatabase root
  let mqtt ← parseMqtt root
  let level ← parseLogging root
  let capacity ← parseQueues root
  let deviceState ← parseDeviceState root mqtt.keepalive
  let command ← parseCommand root
  return ⟨database, mqtt, level, capacity, deviceState, command⟩

end AppConfig

/-- The file: it cannot be opened, reading it throws, or it has a text. -/
inductive ConfigFile where
  | unopened
  | unreadable
  | contents (text : String)

/-- `LoadAppConfig`; `parseJson` is the library that turns a text into a document. -/
def loadAppConfig (parseJson : String → Option Json) : ConfigFile → Except String AppConfig
  | .unopened => AppConfig.failure "配置文件" "无法打开"
  | .unreadable => AppConfig.failure "配置文件" "读取或解析失败"
  | .contents text =>
      match parseJson text with
      | none => AppConfig.failure "配置文件" "JSON 格式错误"
      | some root => AppConfig.parseAppConfig root

end CnsServer
