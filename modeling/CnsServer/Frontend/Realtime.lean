/-
The states of the devices in the browser (`useRealtime.ts`), and the events that the
backend makes of the messages of the route service (`toDeviceStateEvent` of
`routeProtocol.ts`).

* `DeviceStateEvent`, `toDeviceStateEvent`: an event is the message, its telemetry with
  converted coordinates;
* `mergeDeviceListState`, `mergeDeviceDetailState`: an event in the cached responses;
* `Realtime.onDeviceState`: the event listener.

The values that are only handed on are values of the browser, whatever they are.
-/
import CnsServer.Backend.Documents
import CnsServer.Device.StateEvents

namespace CnsServer

/-! ### Events -/

/-- `DeviceStateEvent`, without the two constants `type` and `schema_version`. -/
structure DeviceStateEvent where
  deviceId : String
  deviceType : JsValue
  schoolName : JsValue
  dcdwLabel : JsValue
  capabilities : JsValue
  product : JsValue
  version : JsValue
  status : JsValue
  eventAt : String
  lastSeenAt : JsValue
  telemetryReceivedAt : JsValue
  latestTelemetry : JsValue
  changeReason : JsValue
  degraded : JsValue

/-- `toDeviceStateEvent`, of a message that has its fields; `enrich` stands for
`enrichTelemetryCoordinates`.  The backend's `deviceStateEvent` is the same function on any
message, with the check of the schema; what it sends is this event
(`toDeviceStateEvent_of_accepted`). -/
def toDeviceStateEvent (enrich : JsValue → JsValue) (message : JsValue) :
    Option DeviceStateEvent := do
  let some (.string deviceId) := message.get "device_id" | none
  let some (.string eventAt) := message.get "event_at" | none
  return {
    deviceId
    deviceType := ← message.get "device_type"
    schoolName := ← message.get "school_name"
    dcdwLabel := ← message.get "dcdw_label"
    capabilities := ← message.get "capabilities"
    product := ← message.get "product"
    version := ← message.get "version"
    status := ← message.get "status"
    eventAt
    lastSeenAt := ← message.get "last_seen_at"
    telemetryReceivedAt := ← message.get "telemetry_received_at"
    latestTelemetry := enrich (← message.get "latest_telemetry")
    changeReason := ← message.get "change_reason"
    degraded := ← message.get "degraded" }

/-- The event of a state that the route service publishes at an instant: `PublishStateLocked`
writes the message, and the backend reads it. -/
def stateEventOf (enrich : JsValue → JsValue) (published : PublishedState × TimePoint) :
    DeviceStateEvent :=
  let snapshot := snapshotFor published.1
  { deviceId := snapshot.deviceId
    deviceType := .string snapshot.deviceType
    schoolName := .parsed (schoolField snapshot.schoolName)
    dcdwLabel := .parsed (.orNull .string snapshot.dcdwLabel)
    capabilities := .parsed (.orNull .texts snapshot.capabilities)
    product := .parsed (.orNull id snapshot.product)
    version := .parsed (.orNull id snapshot.version)
    status := .string (statusText snapshot.online)
    eventAt := formatUtcRfc3339Millis published.2
    lastSeenAt := .parsed (optionalTime snapshot.lastSeenAt)
    telemetryReceivedAt := .parsed (optionalTime snapshot.telemetryReceivedAt)
    latestTelemetry := enrich (.parsed (.orNull id snapshot.latestTelemetry))
    changeReason := .string published.1.reason.text
    degraded := .bool snapshot.degraded }

/-- **The event** is what the backend makes of the message. -/
lemma toDeviceStateEvent_published (enrich : JsValue → JsValue)
    (published : PublishedState × TimePoint) :
    toDeviceStateEvent enrich (.parsed (buildStateEvent (snapshotFor published.1)
      published.1.reason published.2)) = some (stateEventOf enrich published) := by
  simp [toDeviceStateEvent, buildStateEvent, stateEventOf, JsValue.parsed, JsValue.parsedFields,
    JsValue.get, List.lookup_cons]

/-! ### Cached responses -/

/-- `DeviceSummary`, as a page finds it in a response: the values that the merges only hand
on are whatever the response has. -/
structure DeviceSummary where
  deviceId : String
  deviceType : JsValue
  schoolName : JsValue
  dcdwLabel : JsValue
  modelVersion : JsValue
  capabilities : JsValue
  product : JsValue
  version : JsValue
  status : JsValue
  lastSeenAt : JsValue
  telemetryReceivedAt : JsValue
  degraded : JsValue

/-- `DeviceDetail`, likewise. -/
structure DeviceDetail extends DeviceSummary where
  provisionedAt : JsValue
  latestTelemetry : JsValue

/-- The fields that both merges take from an event. -/
def DeviceSummary.merge (item : DeviceSummary) (event : DeviceStateEvent) : DeviceSummary :=
  { item with
    deviceId := event.deviceId
    deviceType := event.deviceType
    schoolName := event.schoolName
    dcdwLabel := event.dcdwLabel
    capabilities := event.capabilities
    product := event.product
    version := event.version
    status := event.status
    lastSeenAt := event.lastSeenAt
    telemetryReceivedAt := event.telemetryReceivedAt
    degraded := event.degraded }

/-- `mergeDeviceListState`, on the items of a response. -/
def mergeDeviceListState (items : List DeviceSummary) (event : DeviceStateEvent) :
    List DeviceSummary :=
  items.map fun item => if item.deviceId = event.deviceId then item.merge event else item

/-- `mergeDeviceDetailState`, on the item of a response. -/
def mergeDeviceDetailState (item : DeviceDetail) (event : DeviceStateEvent) : DeviceDetail :=
  { item with
    toDeviceSummary := item.toDeviceSummary.merge event
    latestTelemetry := event.latestTelemetry }

/-- The responses in the query cache: the items of the lists, one for each query, and the
item of each device that has been asked for. -/
structure QueryCache where
  lists : List (List DeviceSummary)
  details : Map String DeviceDetail

/-- `setQueriesData` and `setQueryData`, which leave alone what is not there. -/
def QueryCache.merge (cache : QueryCache) (event : DeviceStateEvent) : QueryCache where
  lists := cache.lists.map fun items => mergeDeviceListState items event
  details :=
    match cache.details.lookup event.deviceId with
    | none => cache.details
    | some item => cache.details.insert event.deviceId (mergeDeviceDetailState item event)

/-! ### The listener -/

/-- What `useRealtime` keeps: the time of the latest event of each device, and the cache. -/
structure Realtime where
  latestDeviceEventAt : Map String String := ∅
  cache : QueryCache

/-- The listener, on an event of a device. Its time is never an empty text. -/
def Realtime.onDeviceState (realtime : Realtime) (event : DeviceStateEvent) : Realtime :=
  let known :=
    match realtime.latestDeviceEventAt.lookup event.deviceId with
    | none => false
    | some previousEventAt => !previousEventAt.isEmpty && event.eventAt ≤ previousEventAt
  if known then realtime
  else
    { latestDeviceEventAt := realtime.latestDeviceEventAt.insert event.deviceId event.eventAt
      cache := realtime.cache.merge event }

end CnsServer
