/-
What is published about the devices (`state_event.cpp`, with `SnapshotFor` of
`service_environment.cpp`).

* `Snapshot`, `buildStateEvent`: the state of one device and why it is published;
* `buildDeviceDirectorySnapshot`: all entries of the directory.

The objects have their fields in key order.
-/
import CnsServer.Device.Directory
import CnsServer.Protocol.TimeFormat
import CnsServer.Runtime.DeviceService

namespace CnsServer

/-! ### Parts -/

/-- `ToString` of a reason. -/
def ChangeReason.text : ChangeReason → String
  | .registrationOnline => "registration_online"
  | .registrationOffline => "registration_offline"
  | .telemetry => "telemetry"
  | .activityTimeout => "activity_timeout"
  | .databaseRecovered => "database_recovered"
  | .snapshotReplay => "snapshot_replay"

/-- `OptionalTime`. -/
def optionalTime (value : Option TimePoint) : Json :=
  .orNull (fun value => .string (formatUtcRfc3339Millis value)) value

/-- A device without a school has an empty name in its record and `null` in the events. -/
def schoolField (schoolName : String) : Json :=
  if schoolName.isEmpty then .null else .string schoolName

/-- `online` or `offline`. -/
def statusText (online : Bool) : String := if online then "online" else "offline"

/-! ### The state of a device -/

/-- `state_event::Snapshot`. -/
structure Snapshot where
  deviceId : String
  revision : ℕ
  schoolId : ℤ
  schoolName : String
  dcdwLabel : Option String
  modelVersion : String
  online : Bool
  lastSeenAt : Option TimePoint
  telemetryReceivedAt : Option TimePoint
  latestTelemetry : Option Json
  degraded : Bool
  deviceType : String
  capabilities : Option (List String)
  product : Option Json
  version : Option Json

/-- `SnapshotFor`. -/
def snapshotFor (published : PublishedState) : Snapshot where
  deviceId := published.record.deviceId
  revision := published.record.revision
  schoolId := published.record.schoolId
  schoolName := published.record.schoolName
  dcdwLabel := published.record.dcdwLabel
  modelVersion := published.record.modelVersion
  online := published.record.status = .online
  lastSeenAt := published.record.lastSeenAt
  telemetryReceivedAt := published.record.telemetryReceivedAt
  latestTelemetry := published.record.latestTelemetry
  degraded := published.degraded
  deviceType := published.record.deviceType.text
  capabilities := published.record.capabilities
  product := published.record.product
  version := published.record.version

/-- `BuildStateEvent`. -/
def buildStateEvent (snapshot : Snapshot) (reason : ChangeReason) (eventAt : TimePoint) : Json :=
  .object
    [("capabilities", .orNull .texts snapshot.capabilities),
      ("change_reason", .string reason.text),
      ("dcdw_label", .orNull .string snapshot.dcdwLabel),
      ("degraded", .bool snapshot.degraded),
      ("device_id", .string snapshot.deviceId),
      ("device_type", .string snapshot.deviceType),
      ("event_at", .string (formatUtcRfc3339Millis eventAt)),
      ("event_type", .string "device_state"),
      ("last_seen_at", optionalTime snapshot.lastSeenAt),
      ("latest_telemetry", .orNull id snapshot.latestTelemetry),
      ("model_version", .string snapshot.modelVersion),
      ("product", .orNull id snapshot.product),
      ("revision", .integer snapshot.revision),
      ("schema_version", .integer 1),
      ("school_name", schoolField snapshot.schoolName),
      ("status", .string (statusText snapshot.online)),
      ("telemetry_received_at", optionalTime snapshot.telemetryReceivedAt),
      ("version", .orNull id snapshot.version)]

/-! ### The directory -/

/-- The item of a directory entry. -/
def directoryItem (entry : DirectoryEntry) : Json :=
  .object
    [("capabilities", .orNull .texts entry.capabilities),
      ("dcdw_label", .orNull .string entry.dcdwLabel),
      ("device_id", .string entry.deviceId),
      ("device_type", .string entry.deviceType),
      ("model_version", .string entry.modelVersion),
      ("product", .orNull id entry.product),
      ("school_name", schoolField entry.schoolName),
      ("status", .string (statusText entry.online)),
      ("version", .orNull id entry.version)]

/-- `BuildDeviceDirectorySnapshot`. The order of entries of one device is left open by
the source; the entries of a directory are of different devices. -/
def buildDeviceDirectorySnapshot (entries : List DirectoryEntry) (revision : ℕ)
    (generatedAt : TimePoint) : Json :=
  let sortedEntries := entries.mergeSort fun entry other => entry.deviceId ≤ other.deviceId
  .object
    [("devices", .array (sortedEntries.map directoryItem)),
      ("event_type", .string "device_directory_snapshot"),
      ("generated_at", .string (formatUtcRfc3339Millis generatedAt)),
      ("revision", .integer revision),
      ("schema_version", .integer 1)]

end CnsServer
