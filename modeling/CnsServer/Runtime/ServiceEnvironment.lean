/-
The running service (`service_environment.cpp`): the inputs that reach the
command path from the other threads and components, and the start of a process.

* `LoadCommandState` and the construction of the bundle (`restart`): the active
  rows are read, unfinished control commands become `delivery_uncertain`, and
  the configuration commands are loaded;
* the event sink of the device service, which calls `OnTargetOnline` for every
  published online state (`updateDevice`);
* `ProcessReady`, in two inputs: `processNext` takes one item from the first
  non-empty queue, and `finishReady` is what follows once the queues were found
  empty.

`routeService` is the machine made of them: a run is any interleaving of these
inputs with the turns of the worker thread, over any number of restarts.
-/
import CnsServer.Library.Machine
import CnsServer.Runtime.CommandService

namespace CnsServer

namespace RuntimeBundle

variable (cfg : CommandServiceConfig) (answers : Answers)

/-! ### Input queues -/

/-- `TryPush`. -/
def tryPush (b : RuntimeBundle) (message : InboundMessage) : RuntimeBundle :=
  if b.closed || cfg.maxInflightCommands ≤ b.messages.length then b
  else { b with messages := b.messages ++ [message] }

/-- `PushPublishCompletion`. -/
def pushPublishCompletion (b : RuntimeBundle) (completion : PublishCompletion) : RuntimeBundle :=
  if b.closed then b else { b with publishCompletions := b.publishCompletions ++ [completion] }

/-- One round of the loop of `ProcessReady`: database results come before publish
completions, and these before messages. -/
def processNext (b : RuntimeBundle) (now : TimePoint) : RuntimeBundle :=
  match b.databaseResults with
  | result :: rest =>
      { b with databaseResults := rest }.handleResult cfg answers result now
  | [] =>
      match b.publishCompletions with
      | completion :: rest =>
          { b with publishCompletions := rest }.handleCompletion cfg completion now
      | [] =>
          match b.messages with
          | message :: rest => { b with messages := rest }.handleMessage cfg message now
          | [] => b

/-- The end of `ProcessReady`, after its loop. -/
def finishReady (b : RuntimeBundle) (now : TimePoint) : RuntimeBundle :=
  (b.retryDeferredTransitions cfg answers).processTimeoutsAndRecovery cfg answers now

/-! ### Availability and devices -/

/-- `SetDatabaseAvailable`. -/
def setDatabaseAvailable (b : RuntimeBundle) (available : Bool) : RuntimeBundle :=
  { b with databaseAvailable := available }

/-- `SetMqttAvailable`. -/
def setMqttAvailable (b : RuntimeBundle) (available : Bool) : RuntimeBundle :=
  { b with
    mqttAvailable := available
    recoveryStarted := if available && !b.mqttAvailable then ∅ else b.recoveryStarted
    log := .mqttAvailable available :: b.log }

/-- The active commands addressed to a device. -/
def commandsFor (b : RuntimeBundle) (deviceId : String) : List String :=
  b.activeCommands.keys.filter fun id =>
    match b.activeCommands.lookup id with
    | some context =>
        match context.record with
        | some record => record.targetDeviceId = some deviceId
        | none => false
    | none => false

/-- `OnTargetOnline`. -/
def onTargetOnline (b : RuntimeBundle) (deviceId : String) (now : TimePoint) : RuntimeBundle :=
  { b with
    recoveryStarted :=
      b.recoveryStarted.filter (· ∉ b.commandsFor deviceId) }.processTimeoutsAndRecovery
    cfg answers now

/-- The device service changes the directory; if it publishes the new state, the
event sink passes every online state on to `OnTargetOnline`. -/
def updateDevice (b : RuntimeBundle) (devices : DeviceRegistry) (record : DeviceRecord)
    (published : Bool) (now : TimePoint) : RuntimeBundle :=
  let b := { b with
    devices := devices
    log := .deviceUpdated record.deviceId (b.devices.isOnline record.deviceId)
      (devices.isOnline record.deviceId) (published && record.status = .online) :: b.log }
  if published && record.status = .online then b.onTargetOnline cfg answers record.deviceId now
  else b

/-- `Close`. -/
def close (b : RuntimeBundle) : RuntimeBundle := { b with closed := true }

/-! ### Start -/

/-- The entry `LoadActive` makes for one row. -/
def loadOne (b : RuntimeBundle) (record : CommandRecord) : RuntimeBundle :=
  match b.sources.find record.sourceId with
  | none => b
  | some source =>
      if record.status.isTerminal then b
      else
        let timeout := if record.commandType = .control then cfg.controlTimeout
          else cfg.configTimeout
        let base := if record.status = .inProgress then record.updatedAt else record.createdAt
        { b with
          activeCommands := b.activeCommands.insert record.commandId
            { sourceId := record.sourceId
              source := some source
              parsed := parseSourceJson record.commandType record.requestPayload source.kind
              commandType := record.commandType
              receivedAt := record.createdAt
              deadline := base + timeout
              target := b.targetFor record
              record := some record
              deviceAckBusinessStatus := none } }

/-- `LoadActive`.  A stored payload is parsed again; writing it out and reading
it back gives the same document. -/
def loadActive (b : RuntimeBundle) (commands : List CommandRecord) : RuntimeBundle :=
  if cfg.maxInflightCommands < commands.length then b.diagnose "活动命令数量超过配置上限"
  else commands.foldl (loadOne cfg) b

/-- A new process on the table of the old one: `LoadCommandState`, then the
construction of the bundle. -/
def restart (b : RuntimeBundle) (sources : SourceCatalog) (devices : DeviceRegistry)
    (now : TimePoint) : RuntimeBundle :=
  let commands := b.table.loadActiveCommands (cfg.maxInflightCommands + 1)
  let recovery := b.table.recoverActiveControlCommands now (cfg.maxInflightCommands + 1)
  let started : RuntimeBundle :=
    { toCommandService := .fresh
      toPostgresWorker := .fresh
      table := recovery.1
      sources := sources
      devices := devices
      log := []
      past := recovery.2.map .committed ++ (b.log ++ b.past) }
  (started.loadActive cfg (commands.filter fun r => r.commandType = .config)).setMqttAvailable
    false

/-- Nothing before the first start: an empty table and an empty trace. -/
def blank : RuntimeBundle where
  toCommandService := .fresh
  toPostgresWorker := .fresh
  table := .empty
  sources := ⟨∅⟩
  devices := .empty
  log := []
  past := []

end RuntimeBundle

/-! ### The machine -/

/-- What can happen next. -/
inductive Input where
  | tryPush (message : InboundMessage)
  | pushPublishCompletion (completion : PublishCompletion)
  | processNext (answers : Answers) (now : TimePoint)
  | finishReady (answers : Answers) (now : TimePoint)
  | setDatabaseAvailable (available : Bool)
  | setMqttAvailable (available : Bool)
  | updateDevice (answers : Answers) (devices : DeviceRegistry) (record : DeviceRecord)
      (published : Bool) (now : TimePoint)
  | worker (event : WorkerEvent)
  | close
  | restart (sources : SourceCatalog) (devices : DeviceRegistry) (now : TimePoint)

/-- The trace over all processes. -/
def RuntimeBundle.trace (b : RuntimeBundle) : List Event := b.log ++ b.past

/-- The ids of the commands ever created. -/
def createdIds (events : List Event) : List String :=
  events.filterMap fun
    | .created _ record => some record.commandId
    | _ => none

/-- A failure the store reports is not the one of a lost compare-and-set. -/
def WorkerEvent.Admissible : WorkerEvent → Prop
  | .runCommand (.failed message) => isStateChangedError message = false
  | _ => True

/-- The answers of the surroundings: generated UUIDs are new, and the worker
turns in between are admissible. -/
def Answers.Admissible (answers : Answers) (b : RuntimeBundle) : Prop :=
  answers.uuid ∉ createdIds b.trace ∧
    ∀ slot, ∀ event ∈ answers.interleaved slot, event.Admissible

namespace Input

/-- The state after an input. -/
def apply (cfg : CommandServiceConfig) (b : RuntimeBundle) : Input → RuntimeBundle
  | .tryPush message => b.tryPush cfg message
  | .pushPublishCompletion completion => b.pushPublishCompletion completion
  | .processNext answers now => b.processNext cfg answers now
  | .finishReady answers now => b.finishReady cfg answers now
  | .setDatabaseAvailable available => b.setDatabaseAvailable available
  | .setMqttAvailable available => b.setMqttAvailable available
  | .updateDevice answers devices record published now =>
      b.updateDevice cfg answers devices record published now
  | .worker event => b.workerTurn event
  | .close => b.close
  | .restart sources devices now => b.restart cfg sources devices now

/-- When an input may arrive: a completion is for a token that was given out, a
directory change is about one device, and a process starts only with at most
`max_inflight_commands` active rows. -/
def Enabled (cfg : CommandServiceConfig) (b : RuntimeBundle) : Input → Prop
  | .pushPublishCompletion completion => completion.token < b.nextPublishToken
  | .processNext answers _ => answers.Admissible b
  | .finishReady answers _ => answers.Admissible b
  | .updateDevice answers devices record _ _ =>
      answers.Admissible b ∧ devices.find record.deviceId = some record ∧
        ∀ id, id ≠ record.deviceId → devices.find id = b.devices.find id
  | .worker event => event.Admissible
  | .restart _ _ _ =>
      (b.table.loadActiveCommands (cfg.maxInflightCommands + 1)).length ≤ cfg.maxInflightCommands
  | _ => True

end Input

/-- The command path of the running service, over any number of processes. -/
def routeService (cfg : CommandServiceConfig) : Machine RuntimeBundle Input where
  init b := ∃ sources devices now, b = RuntimeBundle.blank.restart cfg sources devices now
  enabled := Input.Enabled cfg
  next := Input.apply cfg

end CnsServer
