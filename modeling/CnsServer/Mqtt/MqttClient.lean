/-
The MQTT client (`mqtt_client.cpp`): what its callbacks and its callers share.

* `CallbackState`: the tokens of the commands under way, the namespaces of the
  subscriptions, and the connection on which each of them was last made;
* `publishCommandSet`, `publishSourceCommandAck`, `publishStateEvent`,
  `handlePublish`, `handleDisconnect`: publishing, each under the one mutex;
* `SubscribeCall`, `finishSubscribe`, `replayed`: `SubscribeConfigured` and
  `ReplayRetainedRegistrations`, which hold the mutex of the subscriptions but let
  the connection change between two calls of the library;
* `mqttClient`: the machine of both.

What libmosquitto answers is an input: the error code of a call, where zero is
success, and the message id of a publication.
-/
import CnsServer.Library.FiniteMap
import CnsServer.Library.Machine
import CnsServer.Runtime.CommandService

namespace CnsServer

/-- `MqttClient::CallbackState`, without what it logs and the handler of messages; of
the handler of completions, whether there is one. -/
structure CallbackState where
  connected : Bool
  publishHandler : Bool
  publishCapacity : ℕ
  tokenToMid : Map ℕ ℤ
  midToToken : Map ℤ ℕ
  untrackedCompletionMids : Finset ℤ
  deviceTopicNamespace : String
  commandTopicNamespace : String
  connectionGeneration : ℕ
  registrationGeneration : Option ℕ
  telemetryGeneration : Option ℕ
  sourceRequestGeneration : Option ℕ
  deviceAckGeneration : Option ℕ

/-- `MosquittoError`; the library gives each code a text. -/
def mosquittoError (strerror : ℤ → String) (operation : String) (result : ℤ) : String :=
  operation ++ "失败，错误码=" ++ toString result ++ "，原因=" ++ strerror result

namespace CallbackState

/-- A client that has just been created. -/
def fresh : CallbackState where
  connected := false
  publishHandler := false
  publishCapacity := 0
  tokenToMid := ∅
  midToToken := ∅
  untrackedCompletionMids := ∅
  deviceTopicNamespace := ""
  commandTopicNamespace := ""
  connectionGeneration := 0
  registrationGeneration := none
  telemetryGeneration := none
  sourceRequestGeneration := none
  deviceAckGeneration := none

variable (strerror : ℤ → String)

/-! ### Publishing -/

/-- Nothing is under way any more. -/
def forget (s : CallbackState) : CallbackState :=
  { s with tokenToMid := ∅, midToToken := ∅, untrackedCompletionMids := ∅ }

/-- `ConfigureCommandPublishing`. -/
def configureCommandPublishing (s : CallbackState) (handler : Bool) (capacity : ℕ) :
    Except String Unit × CallbackState :=
  if capacity = 0 then (.error "MQTT命令发布容量必须大于零", s)
  else (.ok (), { s.forget with publishHandler := handler, publishCapacity := capacity })

/-- The checks of a topic and a payload. -/
def checkPublication (topic payload : String) : Except String Unit :=
  if topic.isEmpty then .error "MQTT发布topic不能为空"
  else if 2147483647 < payload.utf8ByteSize then .error "MQTT发布payload过大"
  else .ok ()

/-- `PublishCommandSet`; `mid_to_token.emplace` leaves a key that is there. -/
def publishCommandSet (s : CallbackState) (token : ℕ) (topic payload : String)
    (result mid : ℤ) : Except String Unit × CallbackState :=
  match checkPublication topic payload with
  | .error message => (.error message, s)
  | .ok () =>
      if !s.publishHandler then (.error "MQTT命令发布处理器未配置", s)
      else if (s.tokenToMid.lookup token).isSome then (.error "MQTT命令发布token已在途", s)
      else if s.publishCapacity ≤ s.tokenToMid.keys.length then (.error "MQTT命令发布容量已满", s)
      else if result ≠ 0 then (.error (mosquittoError strerror "发布设备命令" result), s)
      else
        (.ok (),
          { s with
            tokenToMid := s.tokenToMid.insert token mid
            midToToken :=
              if (s.midToToken.lookup mid).isSome then s.midToToken
              else s.midToToken.insert mid token })

/-- A publication whose completion nobody waits for. -/
def publishUntracked (operation : String) (s : CallbackState) (topic payload : String)
    (result mid : ℤ) : Except String Unit × CallbackState :=
  match checkPublication topic payload with
  | .error message => (.error message, s)
  | .ok () =>
      if result ≠ 0 then (.error (mosquittoError strerror operation result), s)
      else (.ok (), { s with untrackedCompletionMids := insert mid s.untrackedCompletionMids })

/-- `PublishSourceCommandAck`. -/
def publishSourceCommandAck : CallbackState → String → String → ℤ → ℤ →
    Except String Unit × CallbackState :=
  publishUntracked strerror "发布来源命令ACK"

/-- `PublishStateEvent`. -/
def publishStateEvent : CallbackState → String → String → ℤ → ℤ →
    Except String Unit × CallbackState :=
  publishUntracked strerror "发布设备当前状态快照"

/-- `HandlePublish`: the completion that the handler is called with, if any. -/
def handlePublish (s : CallbackState) (mid : ℤ) : Option PublishCompletion × CallbackState :=
  match s.midToToken.lookup mid with
  | none => (none, { s with untrackedCompletionMids := s.untrackedCompletionMids.erase mid })
  | some token =>
      (if s.publishHandler then some ⟨token, true⟩ else none,
        { s with
          tokenToMid := s.tokenToMid.erase token
          midToToken := s.midToToken.erase mid })

/-- `HandleDisconnect`, with the tokens in the order of the map. -/
def handleDisconnect (s : CallbackState) (tokens : List ℕ) :
    List PublishCompletion × CallbackState :=
  (if s.publishHandler then tokens.map fun token => ⟨token, false⟩ else [],
    { s.forget with connected := false })

/-! ### Subscriptions -/

/-- `Connected`. -/
def handleConnected (s : CallbackState) : CallbackState :=
  { s with
    connected := true
    connectionGeneration :=
      if s.connected then s.connectionGeneration else s.connectionGeneration + 1 }

/-- The namespace of `SubscribeDeviceMessages`. -/
def setDeviceNamespace (s : CallbackState) (topicNamespace : String) : CallbackState :=
  if s.deviceTopicNamespace ≠ topicNamespace then
    { s with
      registrationGeneration := none
      telemetryGeneration := none
      deviceTopicNamespace := topicNamespace }
  else s

/-- The namespace of `SubscribeCommandMessages`. -/
def setCommandNamespace (s : CallbackState) (topicNamespace : String) : CallbackState :=
  if s.commandTopicNamespace ≠ topicNamespace then
    { s with
      sourceRequestGeneration := none
      deviceAckGeneration := none
      commandTopicNamespace := topicNamespace }
  else s

/-- `BusinessSubscriptionGeneration`. -/
def businessSubscriptionGeneration (s : CallbackState) : Option ℕ :=
  if !s.connected then none
  else if s.deviceTopicNamespace.isEmpty && s.commandTopicNamespace.isEmpty then none
  else if !s.deviceTopicNamespace.isEmpty &&
      (s.registrationGeneration ≠ some s.connectionGeneration ||
        s.telemetryGeneration ≠ some s.connectionGeneration) then none
  else if !s.commandTopicNamespace.isEmpty &&
      (s.sourceRequestGeneration ≠ some s.connectionGeneration ||
        s.deviceAckGeneration ≠ some s.connectionGeneration) then none
  else some s.connectionGeneration

end CallbackState

/-- `RegistrationFilter`. -/
def registrationFilter (topicNamespace : String) : String := topicNamespace ++ "/+/registration"

/-- `TelemetryFilter`. -/
def telemetryFilter (topicNamespace : String) : String :=
  topicNamespace ++ "/+/telemetry/snapshot/v1"

/-- A subscription that is to be made, with the name of the call in its error. -/
structure Subscription where
  filter : String
  qos : ℕ
  operation : String
  deriving DecidableEq, Repr

/-- The subscriptions for the devices. -/
def deviceSubscriptions (topicNamespace : String) : List Subscription :=
  [⟨registrationFilter topicNamespace, 2, "订阅registration消息"⟩,
    ⟨telemetryFilter topicNamespace, 0, "订阅telemetry消息"⟩]

/-- The subscriptions for the commands. -/
def commandSubscriptions (topicNamespace : String) : List Subscription :=
  [⟨topicNamespace ++ "/sources/+/config/request", 2, "订阅配置命令请求"⟩,
    ⟨topicNamespace ++ "/+/config/ack", 2, "订阅设备配置ACK"⟩,
    ⟨topicNamespace ++ "/sources/+/control/request", 2, "订阅飞控命令请求"⟩,
    ⟨topicNamespace ++ "/+/control/ack", 2, "订阅设备飞控ACK"⟩]

/-- A call of `SubscribeConfigured`: what it read at its start, and the subscriptions
that it still has to make. -/
structure SubscribeCall where
  deviceNamespace : String
  commandNamespace : String
  generation : ℕ
  remaining : List Subscription

namespace CallbackState

/-- The start of `SubscribeConfigured`. -/
def beginSubscribe (s : CallbackState) : SubscribeCall where
  deviceNamespace := s.deviceTopicNamespace
  commandNamespace := s.commandTopicNamespace
  generation := s.connectionGeneration
  remaining :=
    (if !s.deviceTopicNamespace.isEmpty &&
        (s.registrationGeneration ≠ some s.connectionGeneration ||
          s.telemetryGeneration ≠ some s.connectionGeneration) then
      deviceSubscriptions s.deviceTopicNamespace else []) ++
    if !s.commandTopicNamespace.isEmpty &&
        (s.sourceRequestGeneration ≠ some s.connectionGeneration ||
          s.deviceAckGeneration ≠ some s.connectionGeneration) then
      commandSubscriptions s.commandTopicNamespace else []

/-- The end of `SubscribeConfigured`. -/
def finishSubscribe (s : CallbackState) (call : SubscribeCall) : CallbackState :=
  if s.connected ∧ s.connectionGeneration = call.generation then
    let devices :=
      decide (s.deviceTopicNamespace = call.deviceNamespace) && !call.deviceNamespace.isEmpty
    let commands :=
      decide (s.commandTopicNamespace = call.commandNamespace) && !call.commandNamespace.isEmpty
    { s with
      registrationGeneration := if devices then some call.generation else s.registrationGeneration
      telemetryGeneration := if devices then some call.generation else s.telemetryGeneration
      sourceRequestGeneration :=
        if commands then some call.generation else s.sourceRequestGeneration
      deviceAckGeneration := if commands then some call.generation else s.deviceAckGeneration }
  else s

/-- The end of `ReplayRetainedRegistrations`. -/
def replayed (s : CallbackState) (topicNamespace : String) : CallbackState :=
  if s.connected ∧ s.deviceTopicNamespace = topicNamespace then
    { s with registrationGeneration := some s.connectionGeneration }
  else s

end CallbackState

/-- One subscription of a call, and the error that ends the call. -/
def SubscribeCall.subscribe (strerror : ℤ → String) (call : SubscribeCall) (result : ℤ) :
    Except String SubscribeCall :=
  match call.remaining with
  | [] => .ok call
  | subscription :: remaining =>
      if result ≠ 0 then .error (mosquittoError strerror subscription.operation result)
      else .ok { call with remaining := remaining }

/-! ### The machine -/

/-- A token with the message id of its publication. -/
structure Publication where
  token : ℕ
  mid : ℤ
  deriving DecidableEq, Repr

inductive ReportCause where
  | published | disconnected
  deriving DecidableEq, Repr

/-- What the handler was told, and why. -/
structure PublishReport where
  publication : Publication
  cause : ReportCause
  result : Bool
  deriving DecidableEq, Repr

/-- A call of the library about a filter, and the connection it was made on. -/
structure SubscriptionOperation where
  generation : ℕ
  filter : String
  subscribe : Bool
  result : ℤ
  deriving DecidableEq, Repr

/-- Who holds the mutex of the subscriptions; a replay has unsubscribed, and then
subscribed again. -/
inductive SubscriptionHolder where
  | subscribing (call : SubscribeCall)
  | unsubscribed (topicNamespace : String)
  | resubscribed (topicNamespace : String)

/-- The client, with the tokens it accepted and reported since its handler was
configured, and the calls about subscriptions, the latest first. -/
structure MqttClient where
  client : CallbackState
  holder : Option SubscriptionHolder
  accepted : List Publication
  reports : List PublishReport
  operations : List SubscriptionOperation

/-- What can happen next. -/
inductive MqttInput where
  | configureCommandPublishing (handler : Bool) (capacity : ℕ)
  | publishCommandSet (token : ℕ) (topic payload : String) (result mid : ℤ)
  | publishSourceCommandAck (topic payload : String) (result mid : ℤ)
  | publishStateEvent (topic payload : String) (result mid : ℤ)
  | published (mid : ℤ)
  | disconnected (tokens : List ℕ)
  | connected
  | lost
  | setDeviceNamespace (topicNamespace : String)
  | setCommandNamespace (topicNamespace : String)
  | beginSubscribe
  | subscribe (result : ℤ)
  | finishSubscribe
  | unsubscribe (topicNamespace : String) (result : ℤ)
  | resubscribe (result : ℤ)
  | finishReplay

namespace MqttClient

/-- No message id under way is given out again. -/
def IsFresh (s : MqttClient) (mid : ℤ) : Prop :=
  s.client.midToToken.lookup mid = none ∧ mid ∉ s.client.untrackedCompletionMids

instance (s : MqttClient) (mid : ℤ) : Decidable (s.IsFresh mid) :=
  inferInstanceAs (Decidable (_ ∧ _))

/-- When an input may arrive. -/
def Enabled (s : MqttClient) : MqttInput → Prop
  | .publishCommandSet _ _ _ result mid => result = 0 → s.IsFresh mid
  | .publishSourceCommandAck _ _ result mid => result = 0 → s.IsFresh mid
  | .publishStateEvent _ _ result mid => result = 0 → s.IsFresh mid
  | .disconnected tokens => tokens.Perm s.client.tokenToMid.keys
  | .setDeviceNamespace topicNamespace => topicNamespace ≠ ""
  | .setCommandNamespace topicNamespace => topicNamespace ≠ ""
  | .beginSubscribe => s.holder.isNone
  | .subscribe _ => ∃ call, s.holder = some (.subscribing call) ∧ call.remaining ≠ []
  | .finishSubscribe => ∃ call, s.holder = some (.subscribing call) ∧ call.remaining = []
  | .unsubscribe topicNamespace _ => s.holder.isNone ∧ topicNamespace ≠ ""
  | .resubscribe _ => ∃ topicNamespace, s.holder = some (.unsubscribed topicNamespace)
  | .finishReplay => ∃ topicNamespace, s.holder = some (.resubscribed topicNamespace)
  | _ => True

/-- The tokens that a call accepted. -/
def acceptedBy (publication : Publication) : Except String Unit → List Publication
  | .ok () => [publication]
  | .error _ => []

/-- A call of the library about a filter. -/
def operate (s : MqttClient) (filter : String) (subscribe : Bool) (result : ℤ) : MqttClient :=
  { s with
    operations := ⟨s.client.connectionGeneration, filter, subscribe, result⟩ :: s.operations }

/-- The state after an input; `lost` is a refused connection or a stop. -/
def next (strerror : ℤ → String) (s : MqttClient) : MqttInput → MqttClient
  | .configureCommandPublishing handler capacity =>
      match s.client.configureCommandPublishing handler capacity with
      | (.ok (), client) => { s with client := client, accepted := [], reports := [] }
      | (.error _, _) => s
  | .publishCommandSet token topic payload result mid =>
      let answer := s.client.publishCommandSet strerror token topic payload result mid
      { s with
        client := answer.2
        accepted := acceptedBy ⟨token, mid⟩ answer.1 ++ s.accepted }
  | .publishSourceCommandAck topic payload result mid =>
      { s with client := (s.client.publishSourceCommandAck strerror topic payload result mid).2 }
  | .publishStateEvent topic payload result mid =>
      { s with client := (s.client.publishStateEvent strerror topic payload result mid).2 }
  | .published mid =>
      let answer := s.client.handlePublish mid
      { s with
        client := answer.2
        reports := (answer.1.toList.map fun completion =>
          ⟨⟨completion.token, mid⟩, .published, completion.result⟩) ++ s.reports }
  | .disconnected tokens =>
      let answer := s.client.handleDisconnect tokens
      { s with
        client := answer.2
        reports := (answer.1.map fun completion =>
          ⟨⟨completion.token, (s.client.tokenToMid.lookup completion.token).getD 0⟩,
            .disconnected, completion.result⟩) ++ s.reports }
  | .connected => { s with client := s.client.handleConnected }
  | .lost => { s with client := { s.client with connected := false } }
  | .setDeviceNamespace topicNamespace =>
      { s with client := s.client.setDeviceNamespace topicNamespace }
  | .setCommandNamespace topicNamespace =>
      { s with client := s.client.setCommandNamespace topicNamespace }
  | .beginSubscribe => { s with holder := some (.subscribing s.client.beginSubscribe) }
  | .subscribe result =>
      match s.holder with
      | some (.subscribing call) =>
          match call.remaining with
          | [] => s
          | subscription :: _ =>
              { s.operate subscription.filter true result with
                holder := (call.subscribe strerror result).toOption.map .subscribing }
      | _ => s
  | .finishSubscribe =>
      match s.holder with
      | some (.subscribing call) =>
          { s with client := s.client.finishSubscribe call, holder := none }
      | _ => s
  | .unsubscribe topicNamespace result =>
      { s.operate (registrationFilter topicNamespace) false result with
        holder := if result = 0 then some (.unsubscribed topicNamespace) else none }
  | .resubscribe result =>
      match s.holder with
      | some (.unsubscribed topicNamespace) =>
          { s.operate (registrationFilter topicNamespace) true result with
            holder := if result = 0 then some (.resubscribed topicNamespace) else none }
      | _ => s
  | .finishReplay =>
      match s.holder with
      | some (.resubscribed topicNamespace) =>
          { s with client := s.client.replayed topicNamespace, holder := none }
      | _ => s

end MqttClient

/-- The client, its callers and the library, which gives each code an error text. -/
def mqttClient (strerror : ℤ → String) : Machine MqttClient MqttInput where
  init s := s = ⟨.fresh, none, [], [], []⟩
  enabled := MqttClient.Enabled
  next := MqttClient.next strerror

end CnsServer
