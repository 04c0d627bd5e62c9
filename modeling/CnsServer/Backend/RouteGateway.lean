/-
The messages that the backend takes from the broker (`handleMessage` of
`routeServiceGateway.ts`), and the events for the browser (`websocket.ts`, with
`deviceRealtime.ts`, `devices.ts` and `toDeviceStateEvent` of `routeProtocol.ts`).

* `RouteTopics`, `buildTopics`: the topics of a namespace and a source;
* `handleMessage`: the message that goes to a handler, or the warning that is logged;
* `deviceStateEvent`, `realtimeEvent`, `sessionReadyEvent`: the events that are sent;
* `backendWebSocketEventSchema`, `frontendWebSocketMessageSchema`: what may pass on a socket;
* `between`: the id that a topic carries between its two fixed parts.
-/
import CnsServer.Backend.CommandTracker
import CnsServer.Backend.CoordinateTransform
import CnsServer.Backend.RealtimeSession
import CnsServer.Properties.TopicGrammar

namespace CnsServer

open Schema

/-! ### Frames and events -/

/-- The properties of `DeviceRealtimeFrameSchema`. -/
def deviceRealtimeShape : List (String × Schema) :=
  [("schema_version", literalNumber schemaVersion),
    ("device_id", deviceIdSchema),
    ("sequence", number [.int, .min 0]),
    ("sent_at", dateTimeStringSchema),
    ("telemetry", jsonObjectSchema)]

/-- `DeviceRealtimeFrameSchema`. -/
def deviceRealtimeFrameSchema : Schema := object .strict deviceRealtimeShape

/-- `DeviceRealtimeEventSchema`. -/
def deviceRealtimeEventSchema : Schema :=
  object .strict (deviceRealtimeShape ++
    [("type", literal "telemetry.realtime"), ("server_received_at", dateTimeStringSchema)])

/-- `TelemetrySubscribeMessageSchema` and `TelemetryUnsubscribeMessageSchema`. -/
def telemetryInterestSchema (type : String) : Schema :=
  object .strict [("type", literal type), ("device_id", deviceIdSchema)]

/-- `FrontendWebSocketMessageSchema`; the literals tell the two apart. -/
def frontendWebSocketMessageSchema : Schema :=
  union [telemetryInterestSchema "telemetry.subscribe",
    telemetryInterestSchema "telemetry.unsubscribe"]

/-- `DeviceStateEventSchema`. -/
def deviceStateEventSchema : Schema :=
  object .strict
    [("type", literal "device.state"),
      ("schema_version", literalNumber schemaVersion),
      ("device_id", deviceIdSchema),
      ("device_type", deviceTypeSchema),
      ("school_name", nullable (string [.min 1])),
      ("dcdw_label", nullable (string [.min 1])),
      ("capabilities", nullable (array (string [.min 1]))),
      ("product", nullable jsonObjectSchema),
      ("version", nullable jsonObjectSchema),
      ("status", enum ["online", "offline"]),
      ("event_at", dateTimeStringSchema),
      ("last_seen_at", nullable dateTimeStringSchema),
      ("telemetry_received_at", nullable dateTimeStringSchema),
      ("latest_telemetry", nullable jsonObjectSchema),
      ("change_reason", enum ["registration_online", "registration_offline", "telemetry",
        "activity_timeout", "database_recovered", "snapshot_replay"]),
      ("degraded", boolean)]

/-- `SessionReadyEventSchema`. -/
def sessionReadyEventSchema : Schema :=
  object .strict
    [("type", literal "session.ready"),
      ("schema_version", literalNumber schemaVersion),
      ("session_id", sessionIdSchema),
      ("server_time", dateTimeStringSchema)]

/-- `BackendWebSocketEventSchema`; the literals tell the four apart. -/
def backendWebSocketEventSchema : Schema :=
  union [sessionReadyEventSchema, deviceStateEventSchema, commandUpdatedEventSchema,
    deviceRealtimeEventSchema]

/-- `toDeviceStateEvent`, on any message; what the schema does not accept it throws. -/
def deviceStateEvent (arithmetic : CoordinateArithmetic) (message : JsValue) : Option JsValue :=
  let event := JsValue.ofProperties
    [("type", some (.string "device.state")),
      ("schema_version", message.get "schema_version"),
      ("device_id", message.get "device_id"),
      ("device_type", message.get "device_type"),
      ("school_name", message.get "school_name"),
      ("dcdw_label", message.get "dcdw_label"),
      ("capabilities", message.get "capabilities"),
      ("product", message.get "product"),
      ("version", message.get "version"),
      ("status", message.get "status"),
      ("event_at", message.get "event_at"),
      ("last_seen_at", message.get "last_seen_at"),
      ("telemetry_received_at", message.get "telemetry_received_at"),
      ("latest_telemetry",
        (message.get "latest_telemetry").map (enrichTelemetryCoordinates arithmetic)),
      ("change_reason", message.get "change_reason"),
      ("degraded", message.get "degraded")]
  if deviceStateEventSchema (some event) then some event else none

/-- The event of a frame, in `onDeviceRealtime` of `server.ts`: the frame with two more
properties. -/
def realtimeEvent (serverReceivedAt : String) : JsValue → JsValue
  | .object fields =>
      .object (("type", .string "telemetry.realtime") ::
        (fields ++ [("server_received_at", .string serverReceivedAt)]))
  | frame => frame

/-- The first event of a session; what the schema does not accept it throws. -/
def sessionReadyEvent (sessionId serverTime : String) : Option JsValue :=
  let event := JsValue.ofProperties
    [("type", some (.string "session.ready")),
      ("schema_version", some (.number schemaVersion)),
      ("session_id", some (.string sessionId)),
      ("server_time", some (.string serverTime))]
  if sessionReadyEventSchema (some event) then some event else none

/-! ### Topics -/

/-- What `buildTopics` returns. -/
structure RouteTopics where
  stateFilter : String
  statePrefix : String
  devicePrefix : String
  realtimeTopic : String → String
  configRequest : String
  configAck : String
  controlRequest : String
  controlAck : String

/-- `buildTopics`. -/
def buildTopics (topicNamespace sourceId : String) : RouteTopics :=
  let sourcePrefix := topicNamespace ++ "/sources/" ++ sourceId
  { stateFilter := topicNamespace ++ "/events/devices/+/state"
    statePrefix := topicNamespace ++ "/events/devices/"
    devicePrefix := topicNamespace ++ "/"
    realtimeTopic := CnsServer.realtimeTopic topicNamespace
    configRequest := sourcePrefix ++ "/config/request"
    configAck := sourcePrefix ++ "/config/ack"
    controlRequest := sourcePrefix ++ "/control/request"
    controlAck := sourcePrefix ++ "/control/ack" }

/-- `startsWith` and `endsWith`. -/
def framedBy (front back topic : String) : Bool :=
  front.toList.isPrefixOf topic.toList && back.toList.isSuffixOf topic.toList

/-- `topic.slice(front.length, -back.length)`: empty where the two overlap. -/
def between (front back topic : String) : String :=
  String.ofList ((topic.toList.drop front.toList.length).take
    (topic.toList.length - front.toList.length - back.toList.length))

/-! ### Messages -/

/-- A message that goes to a handler. -/
inductive RouteMessage where
  | deviceState (message : JsValue)
  | commandAck (message : JsValue)
  | deviceRealtime (frame : JsValue)

/-- The message of a topic with the id of a device, if the two agree. -/
def deviceMessage (schema : Schema) (front back topic invalid mismatched : String)
    (parsedJson : JsValue) : Except String JsValue :=
  if !schema (some parsedJson) then .error invalid
  else
    match parsedJson.get "device_id" with
    | some (.string deviceId) =>
        if between front back topic ≠ deviceId then .error mismatched else .ok parsedJson
    | _ => .error mismatched

/-- An ACK, if it is of the type of its topic. -/
def ackMessage (topics : RouteTopics) (topic : String) (parsedJson : JsValue) :
    Except String JsValue :=
  if !routeCommandAckSchema (some parsedJson) then
    .error "Discarded invalid route_service command ACK"
  else
    let expectedType := if topic = topics.configAck then "config" else "control"
    match parsedJson.get "command_type" with
    | some (.string commandType) =>
        if commandType ≠ expectedType then .error "Discarded command ACK from the wrong topic"
        else .ok parsedJson
    | _ => .error "Discarded command ACK from the wrong topic"

/-- The end of the topic of a realtime frame. -/
def realtimeTopicSuffix : String := "/telemetry/realtime/v1"

/-- `handleMessage`, of what `JSON.parse` makes of the payload, `none` where it throws: the
message for a handler, nothing, or the warning. -/
def handleMessage (topics : RouteTopics) (topic : String) :
    Option JsValue → Except String (Option RouteMessage)
  | none => .error "Discarded invalid MQTT JSON"
  | some parsedJson =>
      if topic = topics.configAck ∨ topic = topics.controlAck then
        (ackMessage topics topic parsedJson).map fun message => some (.commandAck message)
      else if framedBy topics.devicePrefix realtimeTopicSuffix topic then
        (deviceMessage deviceRealtimeFrameSchema topics.devicePrefix realtimeTopicSuffix topic
          "Discarded invalid device realtime frame"
          "Discarded device realtime frame with mismatched device_id" parsedJson).map
            fun frame => some (.deviceRealtime frame)
      else if framedBy topics.statePrefix "/state" topic then
        (deviceMessage routeDeviceStateMessageSchema topics.statePrefix "/state" topic
          "Discarded invalid route_service device state"
          "Discarded device state with mismatched device_id" parsedJson).map
            fun message => some (.deviceState message)
      else .ok none

end CnsServer
