/-
The commands that the backend follows for the browser (`commandTracker.ts`, with the route
that submits a command in `deviceRoutes.ts` and the handler of an ACK in `server.ts`).

* `CommandTracker`: the two maps, and the timers that are armed;
* `register`, `forget`, `complete`, `close`, `expire`: the calls, and a timer that fires;
* `acceptCommand`: the checks of the route before it registers a command;
* `finishCommand`: the reply, once the publication has ended;
* `onCommandAck`: the session that an ACK goes to, with its event.
-/
import CnsServer.Backend.RouteProtocol
import CnsServer.Device.Registry
import CnsServer.Library.FiniteMap

namespace CnsServer

/-! ### The tracker -/

/-- What `createCommandTracker` closes over: the maps, the armed timers with the number of
the request that each forgets, and the number of the next timer. -/
structure CommandTracker where
  commands : Map String TrackedCommand
  cleanupTimers : Map String ℕ
  armed : Map ℕ String
  nextTimer : ℕ

namespace CommandTracker

/-- A tracker that has just been created. -/
def fresh : CommandTracker where
  commands := ∅
  cleanupTimers := ∅
  armed := ∅
  nextTimer := 0

/-- `clearTimeout` of the timer of a request, where there is one. -/
def clearTimer (s : CommandTracker) (requestId : String) : CommandTracker :=
  match s.cleanupTimers.lookup requestId with
  | some timer => { s with armed := s.armed.erase timer }
  | none => s

/-- `register`. -/
def register (s : CommandTracker) (requestId : String) (command : TrackedCommand) :
    CommandTracker :=
  let s := s.clearTimer requestId
  { s with
    cleanupTimers := s.cleanupTimers.erase requestId
    commands := s.commands.insert requestId command }

/-- `get`. -/
def get (s : CommandTracker) (requestId : String) : Option TrackedCommand :=
  s.commands.lookup requestId

/-- `forget`. -/
def forget (s : CommandTracker) (requestId : String) : CommandTracker :=
  let s := s.clearTimer requestId
  { s with
    cleanupTimers := s.cleanupTimers.erase requestId
    commands := s.commands.erase requestId }

/-- `complete`. -/
def complete (s : CommandTracker) (requestId : String) : CommandTracker :=
  let s := s.clearTimer requestId
  { s with
    armed := s.armed.insert s.nextTimer requestId
    cleanupTimers := s.cleanupTimers.insert requestId s.nextTimer
    nextTimer := s.nextTimer + 1 }

/-- The callback of a timer that `complete` has armed. -/
def expire (s : CommandTracker) (timer : ℕ) : CommandTracker :=
  match s.armed.lookup timer with
  | some requestId =>
      { s with
        armed := s.armed.erase timer
        cleanupTimers := s.cleanupTimers.erase requestId
        commands := s.commands.erase requestId }
  | none => s

/-- `close`. -/
def close (s : CommandTracker) : CommandTracker :=
  { s with
    armed := s.cleanupTimers.values.foldl (fun armed timer => armed.erase timer) s.armed
    cleanupTimers := ∅
    commands := ∅ }

end CommandTracker

/-- A call that changes the tracker, or a timer that fires. -/
inductive TrackerCall where
  | register (requestId : String) (command : TrackedCommand)
  | forget (requestId : String)
  | complete (requestId : String)
  | close
  | expire (timer : ℕ)

/-- The tracker after a call. -/
def CommandTracker.call (s : CommandTracker) : TrackerCall → CommandTracker
  | .register requestId command => s.register requestId command
  | .forget requestId => s.forget requestId
  | .complete requestId => s.complete requestId
  | .close => s.close
  | .expire timer => s.expire timer

/-! ### The route that submits a command -/

/-- `sendError`: the status code, and the `ErrorResponse`. -/
structure ErrorReply where
  statusCode : ℕ
  code : String
  message : String
  deriving DecidableEq, Repr

/-- `DependencyStatus`. -/
inductive DependencyStatus where
  | ready | degraded | unavailable | not_configured
  deriving DecidableEq, Repr

/-- What the route reads of a device. -/
structure TargetDevice where
  deviceType : DeviceType
  status : DeviceStatus
  deriving DecidableEq, Repr

/-- What the route asks of the store, of the hub and of the gateway. -/
structure CommandDependencies where
  get : String → Except Unit (Option TargetDevice)
  hasSession : Option JsValue → Bool
  dependencyStatus : DependencyStatus

/-- The number of an accepted request: the schema leaves only a string. -/
def clientRequestId (request : JsValue) : String :=
  match request.get "client_request_id" with
  | some (.string requestId) => requestId
  | _ => ""

/-- `POST /api/devices/:device_id/commands`, up to the registration. -/
def acceptCommand (dependencies : CommandDependencies) (deviceId : String)
    (body : Option JsValue) : Except ErrorReply (String × TrackedCommand) := do
  if !deviceIdSchema (some (.string deviceId)) then
    throw ⟨400, "invalid_parameter", "设备编号不符合协议"⟩
  let request ←
    match body with
    | some request =>
        if deviceCommandRequestSchema (some request) then pure request
        else throw ⟨400, "invalid_parameter", "命令参数不符合协议"⟩
    | none => throw ⟨400, "invalid_parameter", "命令参数不符合协议"⟩
  let item ←
    match dependencies.get deviceId with
    | .error () => throw ⟨503, "database_unavailable", "设备数据库暂不可用"⟩
    | .ok none => throw ⟨404, "not_found", "未找到设备"⟩
    | .ok (some item) => pure item
  if item.deviceType = .flightController && topicType request = .control then
    throw ⟨409, "unsupported_device_type",
      "真实飞控当前只接收遥测与 Remote ID，不支持主控箱私有控制命令"⟩
  if item.status ≠ .online then
    throw ⟨409, "target_offline", "目标设备离线"⟩
  if !dependencies.hasSession (request.get "session_id") then
    throw ⟨409, "websocket_session_required",
      "当前 WebSocket 会话不可用，请刷新页面后重试"⟩
  if dependencies.dependencyStatus ≠ .ready then
    throw ⟨503, "mqtt_unavailable", "MQTT 连接暂不可用"⟩
  return (clientRequestId request, trackedCommand deviceId request)

/-- How `publishCommand` fails. -/
inductive PublishError where
  | unavailable (message : String)
  | other
  deriving DecidableEq, Repr

/-- The message of the error reply. -/
def PublishError.message : PublishError → String
  | unavailable message => message
  | other => "命令发布到 route_service 失败"

/-- The tracker and the reply, once the publication of a registered command has ended. -/
def finishCommand (s : CommandTracker) (requestId : String) :
    Except PublishError Unit → CommandTracker × Except ErrorReply ℕ
  | .ok () => (s, .ok 202)
  | .error error =>
      (s.forget requestId, .error ⟨503, "mqtt_unavailable", error.message⟩)

/-! ### ACKs -/

/-- `isTerminalRouteStatus`. -/
def isTerminalRouteStatus : Option JsValue → Bool
  | some (.string status) =>
      status ∈ ["succeeded", "failed", "timeout", "delivery_uncertain"]
  | _ => false

/-- The handler of a command ACK: the tracker, and what is sent with the session that gets
it.  An event that the schema refuses is an exception, before anything is sent. -/
def onCommandAck (s : CommandTracker) (message : JsValue) :
    CommandTracker × Option (Option JsValue × JsValue) :=
  match message.get "request_id" with
  | some (.string requestId) =>
      if requestId = "" then (s, none)
      else
        match s.get requestId with
        | none => (s, none)
        | some tracked =>
            match toCommandUpdatedEvent message tracked with
            | none => (s, none)
            | some event =>
                (if isTerminalRouteStatus (message.get "status") then s.complete requestId else s,
                  some (tracked.sessionId, event))
  | _ => (s, none)

end CnsServer
