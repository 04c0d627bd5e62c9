/-
What the backend takes from the route service (`routeProtocol.ts`, with the schemas of
`common.ts` and `commands.ts` that it uses).

* `routeDeviceStateMessageSchema`, `routeDeviceDirectorySnapshotSchema`,
  `routeCommandAckSchema`: the messages.  An object schema that is neither strict nor
  passes unknown keys on drops them, and accepts what one of the latter kind does;
* `trackedCommand`: what the backend keeps of a request until its ACKs come;
* `toCommandUpdatedEvent`: the event for the browser, which a schema of its own checks.
-/
import CnsServer.Backend.Commands

namespace CnsServer

open Schema

/-! ### Common schemas -/

/-- `DateTimeStringSchema`. -/
def dateTimeStringSchema : Schema := string [.datetime]

/-- `DeviceTypeSchema`. -/
def deviceTypeSchema : Schema := enum ["cns_box", "flight_controller"]

mutual

/-- `JsonValueSchema`: no number is infinite. -/
def isJsonValue : JsValue → Bool
  | .infinity _ => false
  | .array items => areJsonValues items
  | .object fields => areJsonFields fields
  | _ => true

def areJsonValues : List JsValue → Bool
  | [] => true
  | value :: items => isJsonValue value && areJsonValues items

def areJsonFields : List (String × JsValue) → Bool
  | [] => true
  | (_, value) :: fields => isJsonValue value && areJsonFields fields

end

/-- `JsonObjectSchema`. -/
def jsonObjectSchema : Schema
  | some (.object fields) => areJsonFields fields
  | _ => false

/-- `ErrorCodeSchema`. -/
def errorCodeSchema : Schema :=
  string [.min 1, .max 64, .regex fun c => c.isAlphanum || c = '.' || c = '_' || c = '-']

/-- `ErrorPayloadSchema`. -/
def errorPayloadSchema : Schema :=
  object .strict
    [("code", errorCodeSchema), ("message", string [.min 1]),
      ("details", optional jsonObjectSchema)]

/-! ### Messages about devices -/

/-- The properties that the two messages about devices share. -/
def deviceShape : List (String × Schema) :=
  [("device_id", deviceIdSchema),
    ("device_type", deviceTypeSchema),
    ("school_name", nullable (string [.min 1])),
    ("dcdw_label", nullable (string [.min 1])),
    ("model_version", string [.min 1]),
    ("capabilities", nullable (array (string [.min 1]))),
    ("product", nullable record),
    ("version", nullable record),
    ("status", enum ["online", "offline"])]

/-- `RouteDeviceDirectoryEntrySchema`. -/
def routeDeviceDirectoryEntrySchema : Schema := object .strict deviceShape

/-- `RouteDeviceDirectorySnapshotSchema`. -/
def routeDeviceDirectorySnapshotSchema : Schema :=
  object .strict
    [("schema_version", literalNumber schemaVersion),
      ("event_type", literal "device_directory_snapshot"),
      ("generated_at", string [.datetime]),
      ("revision", number [.int, .min 0]),
      ("devices", array routeDeviceDirectoryEntrySchema)]

/-- `RouteDeviceStateMessageSchema`. -/
def routeDeviceStateMessageSchema : Schema :=
  object .strict (deviceShape ++
    [("schema_version", literalNumber schemaVersion),
      ("event_type", literal "device_state"),
      ("event_at", string [.datetime]),
      ("revision", number [.int, .min 0]),
      ("last_seen_at", nullable (string [.datetime])),
      ("telemetry_received_at", nullable (string [.datetime])),
      ("latest_telemetry", nullable record),
      ("change_reason", enum ["registration_online", "registration_offline", "telemetry",
        "activity_timeout", "database_recovered", "snapshot_replay"]),
      ("degraded", boolean)])

/-! ### ACKs -/

/-- `RouteCommandAckSchema`. -/
def routeCommandAckSchema : Schema :=
  object .passthrough
    [("schema_version", literalNumber schemaVersion),
      ("request_id", nullable (string [.min 1, .max 128])),
      ("command_id", nullable (string [.uuid])),
      ("command_type", enum ["config", "control"]),
      ("status", enum ["pending", "dispatched", "in_progress", "succeeded", "failed", "timeout",
        "delivery_uncertain"]),
      ("business_status", nullable (string [.min 1, .max 64])),
      ("occurred_at", string [.datetime]),
      ("error", optional (nullable (object .passthrough
        [("code", string [.min 1, .max 64]), ("message", nullable (string [.min 1]))])))]

/-! ### Events for the browser -/

/-- `CommandStatusSchema`. -/
def commandStatusSchema : Schema :=
  enum ["submitted", "dispatched", "in_progress", "succeeded", "failed", "timeout",
    "delivery_uncertain"]

/-- `CommandUpdatedEventSchema`. -/
def commandUpdatedEventSchema : Schema :=
  object .strict
    [("type", literal "command.updated"),
      ("schema_version", literalNumber schemaVersion),
      ("client_request_id", clientRequestIdSchema),
      ("command_id", nullable (string [.uuid])),
      ("device_id", deviceIdSchema),
      ("command_type", commandTypeSchema),
      ("command", nullable controlCommandNameSchema),
      ("status", commandStatusSchema),
      ("business_status", nullable (string [.min 1, .max 64])),
      ("error", nullable errorPayloadSchema),
      ("updated_at", dateTimeStringSchema)]

/-- `TrackedCommand`. -/
structure TrackedCommand where
  sessionId : Option JsValue
  deviceId : String
  commandType : Option JsValue
  command : Option JsValue

/-- What the route of the HTTP interface registers for an accepted request. -/
def trackedCommand (deviceId : String) (request : JsValue) : TrackedCommand where
  sessionId := request.get "session_id"
  deviceId := deviceId
  commandType := request.get "type"
  command :=
    match request.get "type" with
    | some (.string "control") => request.get "command"
    | _ => some .null

/-- `mapRouteCommandStatus`. -/
def mapRouteCommandStatus : JsValue → JsValue
  | .string "pending" => .string "submitted"
  | status => status

/-- `mapRouteError`. -/
def mapRouteError (error : Option JsValue) : JsValue :=
  match error with
  | none | some .null => .null
  | some error =>
      .ofProperties
        [("code", error.get "code"),
          ("message",
            match error.get "message" with
            | none | some .null => some (.string "route_service rejected the command")
            | message => message)]

/-- `toCommandUpdatedEvent`; what the schema does not accept it throws. -/
def toCommandUpdatedEvent (ack : JsValue) (tracked : TrackedCommand) : Option JsValue :=
  let event := JsValue.ofProperties
    [("type", some (.string "command.updated")),
      ("schema_version", ack.get "schema_version"),
      ("client_request_id", ack.get "request_id"),
      ("command_id", ack.get "command_id"),
      ("device_id", some (.string tracked.deviceId)),
      ("command_type", tracked.commandType),
      ("command", tracked.command),
      ("status", (ack.get "status").map mapRouteCommandStatus),
      ("business_status", ack.get "business_status"),
      ("error", some (mapRouteError (ack.get "error"))),
      ("updated_at", ack.get "occurred_at")]
  if commandUpdatedEventSchema (some event) then some event else none

end CnsServer
