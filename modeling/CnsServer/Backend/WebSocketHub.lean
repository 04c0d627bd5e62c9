/-
The sockets of the browsers (`webSocketHub.ts`), and the backend that drives them
(`server.ts`).

* `WebSocketHub`: the open sessions and their interests;
* `parseClientMessage`: what a browser may ask for;
* `Backend`: the hub, the commands that are followed and the realtime subscriptions, with a
  trace of the sockets, latest first;
* `Backend.send`, `broadcast`, `broadcastTelemetry`, `sendToSession`: what is sent;
* `backend`: the machine: sockets come, talk and go, messages of the broker arrive, and
  commands are submitted, in any order.

A session id has a UUID in it, so none comes twice.  An exception of a handler leaves the
state as it was; no property here speaks of what the process does then.
-/
import CnsServer.Backend.RouteGateway
import CnsServer.Backend.TelemetryInterestRegistry

namespace CnsServer

/-! ### The hub -/

/-- What `createWebSocketHub` closes over; a socket is known by its session. -/
structure WebSocketHub where
  sessions : List String
  interests : TelemetryInterestRegistry

/-- `parseClientMessage`, of what `JSON.parse` makes of the payload: whether the browser
wants a device from now on, and the device. -/
def parseClientMessage : Option JsValue → Option (Bool × String)
  | none => none
  | some json =>
      if frontendWebSocketMessageSchema (some json) then
        match json.get "type", json.get "device_id" with
        | some (.string type), some (.string deviceId) =>
            some (type = "telemetry.subscribe", deviceId)
        | _, _ => none
      else none

/-- The call of the registry that a message makes. -/
def interestCall (sessionId : String) : Bool × String → InterestCall
  | (true, deviceId) => .subscribe sessionId deviceId
  | (false, deviceId) => .unsubscribe sessionId deviceId

/-- The bytes that may wait in a socket for a realtime frame to be sent. -/
def maxBufferedAmount : ℕ := 256 * 1024

/-! ### The backend -/

/-- What happens on a socket, and the submission of a command. -/
inductive SocketEvent where
  | opened (sessionId : String)
  | closed (sessionId : String)
  | interest (sessionId deviceId : String) (interested : Bool)
  | accepted (requestId : String) (command : TrackedCommand)
  | sent (sessionId : String) (frame : JsValue)

/-- What `buildServer` puts together. -/
structure Backend where
  hub : WebSocketHub
  tracker : CommandTracker
  subscriptions : RealtimeTopicSubscriptions
  log : List SocketEvent

/-- The configuration, and the arithmetic of the coordinates. -/
structure BackendConfig where
  topicNamespace : String
  sourceId : String
  arithmetic : CoordinateArithmetic

namespace Backend

/-- A backend that has just been built. -/
def fresh : Backend where
  hub := ⟨[], .fresh⟩
  tracker := .fresh
  subscriptions := .fresh
  log := []

/-- `send`. -/
def send (s : Backend) (frame : JsValue) (sessionId : String) : Backend :=
  { s with log := .sent sessionId frame :: s.log }

/-- `send` to some of the sessions, in their order. -/
def sendAll (s : Backend) (frame : JsValue) (sessions : List String) : Backend :=
  sessions.foldl (fun s sessionId => s.send frame sessionId) s

/-- `broadcast`. -/
def broadcast (s : Backend) (event : JsValue) : Backend := s.sendAll event s.hub.sessions

/-- The sessions that a realtime frame of a device goes to. -/
def receivers (s : Backend) (bufferedAmount : String → ℕ) (deviceId : String) : List String :=
  s.hub.sessions.filter fun sessionId =>
    s.hub.interests.isInterested sessionId deviceId && bufferedAmount sessionId ≤ maxBufferedAmount

/-- `broadcastTelemetry`. -/
def broadcastTelemetry (s : Backend) (bufferedAmount : String → ℕ) (deviceId : String)
    (event : JsValue) : Backend :=
  s.sendAll event (s.receivers bufferedAmount deviceId)

/-- `sendToSession`. -/
def sendToSession (s : Backend) (sessionId : Option JsValue) (event : JsValue) : Backend :=
  match sessionId with
  | some (.string sessionId) =>
      if sessionId ∈ s.hub.sessions then s.send event sessionId else s
  | _ => s

/-- A call of the registry; each of its notifications becomes a call of `setDesired`. -/
def callInterests (s : Backend) (call : InterestCall) : Backend :=
  let interests := s.hub.interests.call call
  let notified := interests.notified.take
    (interests.notified.length - s.hub.interests.notified.length)
  { s with
    hub := { s.hub with interests }
    subscriptions := notified.reverse.foldl
      (fun subscriptions (deviceId, interested) => subscriptions.setDesired deviceId interested)
      s.subscriptions }

/-- A new connection: the session is there before its first event is sent. -/
def connect (s : Backend) (sessionId : String) (now : TimePoint) : Backend :=
  let s := { s with
    hub := { s.hub with sessions := s.hub.sessions ++ [sessionId] }
    log := .opened sessionId :: s.log }
  match sessionReadyEvent sessionId (formatUtcRfc3339Millis now) with
  | some event => s.send event sessionId
  | none => s

/-- The `close` event of a socket. -/
def disconnect (s : Backend) (sessionId : String) : Backend :=
  let s := s.callInterests (.removeSession sessionId)
  { s with
    hub := { s.hub with sessions := s.hub.sessions.filter (· ≠ sessionId) }
    log := .closed sessionId :: s.log }

/-- The `message` event of a socket. -/
def receive (s : Backend) (sessionId : String) (payload : Option JsValue) : Backend :=
  match parseClientMessage payload with
  | none => s
  | some message =>
      let s := s.callInterests (interestCall sessionId message)
      { s with log := .interest sessionId message.2 message.1 :: s.log }

/-- The handler of a message of the broker. -/
def handle (config : BackendConfig) (s : Backend) (now : TimePoint) (bufferedAmount : String → ℕ) :
    RouteMessage → Backend
  | .deviceState message =>
      match deviceStateEvent config.arithmetic message with
      | some event => s.broadcast event
      | none => s
  | .deviceRealtime frame =>
      match frame.get "device_id" with
      | some (.string deviceId) =>
          s.broadcastTelemetry bufferedAmount deviceId
            (realtimeEvent (formatUtcRfc3339Millis now) frame)
      | _ => s
  | .commandAck message =>
      let (tracker, event) := onCommandAck s.tracker message
      let s := { s with tracker }
      match event with
      | some (sessionId, event) => s.sendToSession sessionId event
      | none => s

/-- The route that submits a command, up to the publication. -/
def submit (s : Backend) (dependencies : CommandDependencies) (deviceId : String)
    (body : Option JsValue) : Backend :=
  match acceptCommand dependencies deviceId body with
  | .ok (requestId, command) =>
      { s with
        tracker := s.tracker.register requestId command
        log := .accepted requestId command :: s.log }
  | .error _ => s

end Backend

/-- What can happen next. -/
inductive BackendInput where
  | connect (uuid : String) (now : TimePoint)
  | disconnect (sessionId : String)
  | receive (sessionId : String) (payload : Option JsValue)
  | mqtt (topic : String) (payload : Option JsValue) (now : TimePoint)
      (bufferedAmount : String → ℕ)
  | submit (dependencies : CommandDependencies) (deviceId : String) (body : Option JsValue)
  | publishFailed (requestId : String)
  | expire (timer : ℕ)
  | subscription (input : SubscriptionInput)

namespace BackendInput

/-- The id of the session that a connection gets. -/
def sessionId (uuid : String) : String := "session_" ++ uuid

/-- When an input may arrive: a UUID is new, an open socket talks and closes, and the
subscriptions go on as they are due. -/
def Enabled (s : Backend) : BackendInput → Prop
  | .connect uuid now =>
      isUuid uuid = true ∧ InClockRange now ∧
        ∀ event ∈ s.log, ∀ other, event = .opened other → other ≠ sessionId uuid
  | .disconnect sessionId => sessionId ∈ s.hub.sessions
  | .receive sessionId _ => sessionId ∈ s.hub.sessions
  | .mqtt _ _ now _ => InClockRange now
  | .subscription (.setDesired _ _) => False
  | .subscription input => s.subscriptions.Enabled input
  | _ => True

/-- The state after an input. -/
def apply (config : BackendConfig) (s : Backend) : BackendInput → Backend
  | .connect uuid now => s.connect (sessionId uuid) now
  | .disconnect sessionId => s.disconnect sessionId
  | .receive sessionId payload => s.receive sessionId payload
  | .mqtt topic payload now bufferedAmount =>
      match handleMessage (buildTopics config.topicNamespace config.sourceId) topic payload with
      | .ok (some message) => s.handle config now bufferedAmount message
      | _ => s
  | .submit dependencies deviceId body => s.submit dependencies deviceId body
  | .publishFailed requestId => { s with tracker := s.tracker.forget requestId }
  | .expire timer => { s with tracker := s.tracker.expire timer }
  | .subscription input =>
      { s with subscriptions := s.subscriptions.next (realtimeTopic config.topicNamespace) input }

end BackendInput

/-- A backend in use. -/
def backend (config : BackendConfig) : Machine Backend BackendInput where
  init s := s = .fresh
  enabled := BackendInput.Enabled
  next := BackendInput.apply config

end CnsServer
