/-
The two stores of the devices that the backend lists: `createInMemoryDeviceStore`
(`deviceStore.ts`) and `createPostgresDeviceStore` (`postgresDeviceStore.ts`), with the
schemas of `devices.ts`.

* `parseDeviceListQuery`: `DeviceListQuerySchema`, on the parameters of a request;
* `InMemory.list`, `matchesQuery`: the devices are filtered;
* `Postgres.list`, `buildListWhere`: the rows of the tables are selected, and the answer is
  checked.

The letters of the texts are those of ASCII, so that `toLowerCase` and `lower` are one
function.  What `pg` and `toISOString` make of an instant is a parameter.
-/
import CnsServer.Backend.RouteProtocol
import CnsServer.Device.StateEvents
import CnsServer.Library.Like
import CnsServer.Store.DeviceTables

namespace CnsServer

namespace DeviceStore

open Schema

/-! ### Queries -/

/-- `DeviceListQuery`. -/
structure DeviceListQuery where
  keyword : Option String
  schoolName : Option String
  status : Option DeviceStatus
  deriving DecidableEq

/-- White space and the ends of lines. -/
def isWhiteSpace (c : Char) : Bool :=
  ('\t' ≤ c && c ≤ '\r') || c = ' ' || ('\u2000' ≤ c && c ≤ '\u200a') ||
    ['\u00a0', '\u1680', '\u2028', '\u2029', '\u202f', '\u205f', '\u3000', '\ufeff'].contains c

/-- `trim`. -/
def trim (text : String) : String :=
  String.ofList (((text.toList.dropWhile isWhiteSpace).reverse.dropWhile isWhiteSpace).reverse)

/-- `z.string().trim().min(1).max(128).optional()`. -/
def queryText : Option JsValue → Option (Option String)
  | none => some none
  | some (.string text) =>
      if string [.min 1, .max 128] (some (.string (trim text))) then some (some (trim text))
      else none
  | some _ => none

/-- `DeviceStatusSchema.optional()`. -/
def queryStatus : Option JsValue → Option (Option DeviceStatus)
  | none => some none
  | some (.string "online") => some (some .online)
  | some (.string "offline") => some (some .offline)
  | some _ => none

/-- `DeviceListQuerySchema`. -/
def parseDeviceListQuery (value : JsValue) : Option DeviceListQuery := do
  let .object fields := value | none
  if fields.any fun field => ["keyword", "school_name", "status"].contains field.1 = false then none
  else
    return {
      keyword := ← queryText (fields.lookup "keyword")
      schoolName := ← queryText (fields.lookup "school_name")
      status := ← queryStatus (fields.lookup "status") }

/-! ### Devices -/

/-- `DeviceSummary`, as a store builds it. -/
structure DeviceSummary where
  deviceId : String
  deviceType : DeviceType
  schoolName : Option String
  dcdwLabel : Option String
  modelVersion : String
  capabilities : JsValue
  product : JsValue
  version : JsValue
  status : DeviceStatus
  lastSeenAt : Option String
  telemetryReceivedAt : Option String
  degraded : Bool

/-- `DeviceDetail`, as a store builds it. -/
structure DeviceDetail extends DeviceSummary where
  provisionedAt : Option String
  latestTelemetry : JsValue

/-- A text, or `null`. -/
def textOrNull : Option String → JsValue
  | none => .null
  | some text => .string text

/-- The summary, as a value. -/
def DeviceSummary.value (device : DeviceSummary) : JsValue :=
  .object
    [("device_id", .string device.deviceId),
      ("device_type", .string device.deviceType.text),
      ("school_name", textOrNull device.schoolName),
      ("dcdw_label", textOrNull device.dcdwLabel),
      ("model_version", .string device.modelVersion),
      ("capabilities", device.capabilities),
      ("product", device.product),
      ("version", device.version),
      ("status", .string (statusText (device.status = .online))),
      ("last_seen_at", textOrNull device.lastSeenAt),
      ("telemetry_received_at", textOrNull device.telemetryReceivedAt),
      ("degraded", .bool device.degraded)]

/-- `DeviceSummarySchema`. -/
def deviceSummarySchema : Schema :=
  object .strict
    [("device_id", deviceIdSchema),
      ("device_type", deviceTypeSchema),
      ("school_name", nullable (string [.min 1])),
      ("dcdw_label", nullable (string [.min 1])),
      ("model_version", string [.min 1]),
      ("capabilities", nullable (array (string [.min 1]))),
      ("product", nullable jsonObjectSchema),
      ("version", nullable jsonObjectSchema),
      ("status", enum ["online", "offline"]),
      ("last_seen_at", nullable dateTimeStringSchema),
      ("telemetry_received_at", nullable dateTimeStringSchema),
      ("degraded", boolean)]

/-- The summary is one of the protocol. -/
def DeviceSummary.Accepted (device : DeviceSummary) : Prop :=
  deviceSummarySchema (some device.value) = true

instance (device : DeviceSummary) : Decidable device.Accepted :=
  inferInstanceAs (Decidable (_ = true))

/-! ### Texts -/

/-- `toLowerCase`, and `lower`. -/
def lower (text : String) : List Char := text.toList.map Char.toLower

/-- `includes`. -/
def includes (text key : List Char) : Bool := decide (key <:+: text)

/-- A text that counts as true: it is there, and not empty. -/
def truthy (text : Option String) : Option String := text.filter (· ≠ "")

/-! ### The store in memory -/

/-- `matchesQuery`. -/
def matchesQuery (device : DeviceSummary) (query : DeviceListQuery) : Bool :=
  if query.status.any fun status => device.status ≠ status then false
  else if (truthy query.schoolName).any fun name => device.schoolName ≠ some name then false
  else
    match truthy query.keyword with
    | none => true
    | some keyword =>
        [device.deviceId, device.deviceType.text, device.schoolName.getD "",
          device.dcdwLabel.getD "", device.modelVersion].any fun value =>
            includes (lower value) (lower keyword)

namespace InMemory

/-- The map of `createInMemoryDeviceStore`: of two devices with one id the later counts. -/
def devicesById (initialDevices : List DeviceDetail) : Map String DeviceDetail :=
  initialDevices.foldl (fun devices device => devices.insert device.deviceId device) ∅

/-- `list`, in any order. -/
def list (initialDevices : List DeviceDetail) (query : DeviceListQuery) : List DeviceSummary :=
  ((devicesById initialDevices).values.filter fun device =>
    matchesQuery device.toDeviceSummary query).map DeviceDetail.toDeviceSummary

end InMemory

/-! ### The store in PostgreSQL -/

namespace Postgres

/-- A row of `devices d left join schools s … join device_latest_states state …`. -/
structure JoinedRow where
  deviceId : String
  device : DeviceRow
  schoolName : Option String
  state : StateRow

/-- The rows of the join. -/
def join (t : DeviceTables) : List JoinedRow :=
  t.devices.entries.filterMap fun entry =>
    (t.states.lookup entry.1).map fun state =>
      { deviceId := entry.1
        device := entry.2
        schoolName := entry.2.schoolId.bind t.schools.lookup
        state := state }

/-- `buildListWhere`: the clauses, on a row. -/
def buildListWhere (query : DeviceListQuery) (row : JoinedRow) : Bool :=
  (match truthy query.keyword with
    | none => true
    | some keyword =>
        let pattern := Like.containing (lower keyword)
        Like.like (lower row.deviceId) pattern ||
          Like.like (lower (row.device.dcdwLabel.getD "")) pattern ||
          Like.like (lower (row.schoolName.getD "")) pattern ||
          Like.like (lower row.device.modelVersion) pattern) &&
    ((truthy query.schoolName).all fun name => row.schoolName = some name) &&
    (query.status.all fun status => row.state.status = status)

/-- `order by d.school_id asc, d.device_id asc`; `NULL` comes last. -/
def precedes (row other : JoinedRow) : Bool :=
  match row.device.schoolId, other.device.schoolId with
  | some schoolId, some otherId =>
      schoolId < otherId || (schoolId = otherId && row.deviceId ≤ other.deviceId)
  | some _, none => true
  | none, some _ => false
  | none, none => row.deviceId ≤ other.deviceId

/-- `toSummary`. -/
def toSummary (toISOString : ℤ → String) (row : JoinedRow) : DeviceSummary where
  deviceId := row.deviceId
  deviceType := row.device.deviceType
  schoolName := row.schoolName
  dcdwLabel := row.device.dcdwLabel
  modelVersion := row.device.modelVersion
  capabilities := .parsed (.orNull id row.device.capabilities)
  product := .parsed (.orNull id row.device.product)
  version := .parsed (.orNull id row.device.version)
  status := row.state.status
  lastSeenAt := row.state.lastSeenAt.map toISOString
  telemetryReceivedAt := row.state.telemetryReceivedAt.map toISOString
  degraded := false

/-- `list`; it throws if an item is not one of the protocol. -/
def list (toISOString : ℤ → String) (t : DeviceTables) (query : DeviceListQuery) :
    Option (List DeviceSummary) :=
  let rows := ((join t).filter (buildListWhere query)).insertionSort fun row other =>
    precedes row other
  let items := rows.map (toSummary toISOString)
  if ∀ item ∈ items, item.Accepted then some items else none

end Postgres

end DeviceStore

end CnsServer
