/-
`CommandService`: the single-threaded orchestration of commands
(`command_service.hpp`, `command_service.cpp`).

The state of the service is `CommandService`; together with the worker, the
`commands` table, the source catalogue and the device directory it makes up the
`RuntimeBundle` that the member functions act on.  The bundle also keeps a
trace of what the service did (`Event`, latest first), which no function reads.

What the functions ask of their surroundings within one call is an `Answers`:
whether the device publisher takes a message, the generated UUID, the iteration
order of a hash map, and the turns the worker thread makes meanwhile.

The member functions stand in the order of their use, each under its name in
the source: `submit`, `submitTransitionOrDefer`, `publishRecord`,
`handleDeviceAck`, `convergeAfterConflict`, `handleResult`, `handleMessage`,
`handleCompletion`, `retryDeferredTransitions` and
`processTimeoutsAndRecovery`.
-/
import CnsServer.Command.Router
import CnsServer.Command.DevicePolicy
import CnsServer.Runtime.PostgresWorker

namespace CnsServer

/-! ### State -/

/-- `mqtt::InboundMessage`. -/
structure InboundMessage where
  topic : String
  payload : String
  receivedAt : TimePoint
  deriving DecidableEq, Repr

/-- `mqtt::PublishCompletion`; `result` tells whether the message went out. -/
structure PublishCompletion where
  token : ℕ
  result : Bool
  deriving DecidableEq, Repr

structure RequestContext where
  sourceId : String
  source : Option CommandSource
  parsed : ParsedSourceRequest
  commandType : CommandType
  receivedAt : TimePoint
  deadline : TimePoint
  target : Option ResolvedTarget
  record : Option CommandRecord
  deviceAckBusinessStatus : Option String

inductive OperationKind where
  | find | findByIdForConvergence | insert | transition | cleanup
  deriving DecidableEq, Repr

structure Operation where
  kind : OperationKind
  context : RequestContext

structure TransitionCommandTask where
  commandId : String
  expected : CommandStatus
  desired : CommandStatus
  update : CommandUpdate

/-- The task as the worker takes it. -/
def TransitionCommandTask.toTask (task : TransitionCommandTask) : CommandDatabaseTask :=
  .transitionCommand task.commandId task.expected task.desired task.update

structure DeferredTransition where
  context : RequestContext
  task : TransitionCommandTask

structure CompletedCommand where
  context : RequestContext
  rememberedAt : TimePoint

structure EarlyDeviceAck where
  deviceId : String
  payload : String
  receivedAt : TimePoint
  deriving DecidableEq, Repr

/-- The members of `CommandService` that change. -/
structure CommandService where
  nextOperationId : ℕ
  nextPublishToken : ℕ
  messages : List InboundMessage
  databaseResults : List CommandDatabaseResult
  publishCompletions : List PublishCompletion
  operations : Map ℕ Operation
  publications : Map ℕ RequestContext
  activeCommands : Map String RequestContext
  completedCommands : Map String CompletedCommand
  recoveryStarted : Finset String
  deferredTransitions : Map String DeferredTransition
  earlyDeviceAcks : Map String EarlyDeviceAck
  nextCleanupAt : Option TimePoint
  outstandingOperations : ℕ
  databaseAvailable : Bool
  mqttAvailable : Bool
  closed : Bool

/-- A service that has just been constructed. -/
def CommandService.fresh : CommandService where
  nextOperationId := 1
  nextPublishToken := 1
  messages := []
  databaseResults := []
  publishCompletions := []
  operations := ∅
  publications := ∅
  activeCommands := ∅
  completedCommands := ∅
  recoveryStarted := ∅
  deferredTransitions := ∅
  earlyDeviceAcks := ∅
  nextCleanupAt := none
  outstandingOperations := 0
  databaseAvailable := true
  mqttAvailable := true
  closed := false

/-- The constructor arguments of `CommandService`, and the JSON library that
turns a payload into a document. -/
structure CommandServiceConfig where
  topicNamespace : String := "cns"
  maxInflightCommands : ℕ := 256
  configTimeout : TimePoint := 15000000000
  controlTimeout : TimePoint := 30000000000
  terminalRetention : TimePoint := 2592000000000000
  cleanupInterval : TimePoint := 3600000000000
  cleanupBatchSize : ℕ := 100
  parseJson : String → Option Json

/-- Why a source ACK was sent: a rejection before anything was stored, the
replay of a stored command to a repeated request, or the progress of a command.
The first two name the database operation they answer, if any; a replay also
names the body of the request it answers. -/
inductive AckCause where
  | rejection (operation : Option ℕ)
  | replay (operation : ℕ) (payload : Json)
  | lifecycle

/-- What the service and its database did.  A formed transition names the
deferred one it replaces; a commit without confirmation is also `unconfirmed`; a
device update tells whether `OnTargetOnline` was called for it; a device ACK
stands with the status the active command had when it was handled, if any. -/
inductive Event where
  | created (operation : ℕ) (record : CommandRecord)
  | submitted (operationId : ℕ) (task : CommandDatabaseTask) (accepted : Bool)
  | formed (task : TransitionCommandTask) (replaced : Option TransitionCommandTask)
  | databaseError (operationId : ℕ)
  | published (token : ℕ) (topic : String) (payload : Json) (record : CommandRecord)
      (accepted : Bool)
  | completed (record : CommandRecord) (result : Bool)
  | acked (topic : String) (ack : SourceAck) (cause : AckCause)
  | committed (record : CommandRecord)
  | unconfirmed (record : CommandRecord)
  | removed (record : CommandRecord)
  | mqttAvailable (available : Bool)
  | deviceUpdated (deviceId : String) (wasOnline isOnline signalled : Bool)
  | deviceAcked (deviceId : String) (commandType : CommandType) (ack : DeviceAck)
      (memory : Option CommandStatus)
  | diagnosed (message : String)
  | informed (message : String)

/-- `RuntimeBundle`: the service, the worker, the table, the catalogue and the
directory, with the trace of this process and of the ones before it. -/
structure RuntimeBundle extends CommandService, PostgresWorker where
  table : CommandTable
  sources : SourceCatalog
  devices : DeviceRegistry
  log : List Event
  past : List Event

/-- What the surroundings answer during one call. -/
structure Answers where
  published : ℕ → Bool
  uuid : String
  order : List String → List String
  order_perm : ∀ ids, (order ids).Perm ids
  interleaved : Option String → List WorkerEvent

namespace RuntimeBundle

variable (cfg : CommandServiceConfig) (answers : Answers)

/-- Adds an event to the trace. -/
def emit (b : RuntimeBundle) (event : Event) : RuntimeBundle := { b with log := event :: b.log }

/-- `Diagnose`. -/
def diagnose (b : RuntimeBundle) (message : String) : RuntimeBundle := b.emit (.diagnosed message)

/-- `Inform`. -/
def inform (b : RuntimeBundle) (message : String) : RuntimeBundle := b.emit (.informed message)

/-- The events of one execution, latest first. -/
def executionEvents (removed written : List CommandRecord) (confirmed : Bool) : List Event :=
  removed.map .removed ++
    ((if confirmed then [] else written.map .unconfirmed) ++ written.map .committed)

/-- A turn of the worker thread; `PushDatabaseResult` drops the result once the
service is closed. -/
def workerTurn (b : RuntimeBundle) (event : WorkerEvent) : RuntimeBundle :=
  let turn := b.toPostgresWorker.turn b.table event
  { b with
    toPostgresWorker := turn.worker
    table := turn.table
    databaseResults :=
      if b.closed then b.databaseResults else b.databaseResults ++ turn.emitted
    log := executionEvents turn.removed turn.written turn.confirmed ++ b.log }

/-! ### Texts -/

/-- `SourceAckTopic`. -/
def sourceAckTopic (topicNamespace sourceId : String) (type : CommandType) : String :=
  topicNamespace ++ "/sources/" ++ sourceId ++
    (if type = .control then "/control/ack" else "/config/ack")

/-- `DeviceSetTopic`. -/
def deviceSetTopic (topicNamespace deviceId : String) (type : CommandType) : String :=
  topicNamespace ++ "/" ++ deviceId ++
    (if type = .control then "/control/set" else "/config/set")

/-- `DescribeTarget`. -/
def describeTarget (target : ResolvedTarget) : String :=
  let school := if target.schoolName.isEmpty then "未知学校" else target.schoolName
  let label :=
    match target.dcdwLabel with
    | some label => if label.isEmpty then "未登记编号" else label
    | none => "未登记编号"
  school ++ " / " ++ label ++ "（" ++ target.deviceId ++ "）"

/-- `DescribeConfigCommand`. -/
def describeConfigCommand (parameters : ConfigParameters) : String :=
  let field (name : String) (value : Option ℕ) : List String :=
    match value with
    | some n => [name ++ "=" ++ toString n]
    | none => []
  "，".intercalate
    (field "telemetry_publish_interval_ms" parameters.telemetryPublishIntervalMs ++
      field "heartbeat_interval_ms" parameters.heartbeatIntervalMs ++
      field "mqtt_reconnect_delay_s" parameters.mqttReconnectDelayS ++
      field "mqtt_reconnect_delay_max_s" parameters.mqttReconnectDelayMaxS)

/-- `DescribeControlCommand`. -/
def describeControlCommand (request : SourceControlRequest) : String :=
  commandText request.command ++
    match request.command, request.parameters.pwmUs with
    | .setMotorPwm, some (a, b, c, d) =>
        " pwm_us=[" ++ toString a ++ "," ++ toString b ++ "," ++ toString c ++ "," ++
          toString d ++ "]"
    | _, _ => ""

/-- `DescribeCommand`. -/
def describeCommand : ParsedSourceRequest → String
  | .config request => "配置命令 " ++ describeConfigCommand request.parameters
  | .control request => "飞控命令 " ++ describeControlCommand request
  | .rejected _ => "未知命令"

/-! ### Acknowledgements to sources -/

/-- `TargetFor`. -/
def targetFor (b : RuntimeBundle) (record : CommandRecord) : Option ResolvedTarget :=
  (record.targetDeviceId.bind b.devices.find).map resolve

/-- `Reject`. -/
def reject (b : RuntimeBundle) (operation : Option ℕ) (sourceId : String)
    (requestId : Option String) (error : ProtocolError) (now : TimePoint)
    (commandType : CommandType) : RuntimeBundle :=
  b.emit (.acked (sourceAckTopic cfg.topicNamespace sourceId commandType)
    (buildPrePersistenceRejection requestId error now commandType) (.rejection operation))

/-- `PublishAck`. -/
def publishAck (b : RuntimeBundle) (cause : AckCause) (context : RequestContext)
    (now : TimePoint) : RuntimeBundle :=
  match context.record with
  | none => b
  | some record =>
      b.emit (.acked (sourceAckTopic cfg.topicNamespace context.sourceId context.commandType)
        (buildSourceAck record context.target now) cause)

/-! ### Database submissions -/

/-- `Submit`. -/
def submit (b : RuntimeBundle) (kind : OperationKind) (context : RequestContext)
    (task : CommandDatabaseTask) : Bool × RuntimeBundle :=
  let operationId := b.nextOperationId
  match b.toPostgresWorker.submitCommand cfg.maxInflightCommands operationId task with
  | none =>
      (false, { b with
        nextOperationId := operationId + 1
        log := .submitted operationId task false :: b.log })
  | some worker =>
      (true, { b with
        toPostgresWorker := worker
        nextOperationId := operationId + 1
        operations := b.operations.insert operationId ⟨kind, context⟩
        outstandingOperations := b.outstandingOperations + 1
        log := .submitted operationId task true :: b.log })

/-- The deferred transition that a new one of the command takes the place of. -/
def replaced (b : RuntimeBundle) (commandId : String) : Option TransitionCommandTask :=
  (b.deferredTransitions.lookup commandId).map (·.task)

/-- `SubmitTransitionOrDefer`. -/
def submitTransitionOrDefer (b : RuntimeBundle) (context : RequestContext)
    (task : TransitionCommandTask) : RuntimeBundle :=
  match (b.emit (.formed task (b.replaced task.commandId))).submit cfg .transition context
      task.toTask with
  | (true, b) => { b with deferredTransitions := b.deferredTransitions.erase task.commandId }
  | (false, b) => { b with
      databaseAvailable := false
      deferredTransitions := b.deferredTransitions.insert task.commandId ⟨context, task⟩ }

/-- The new attempt at one deferred transition. -/
def retryDeferred (b : RuntimeBundle) (key : String) (deferred : DeferredTransition) :
    RuntimeBundle :=
  match { b with deferredTransitions := b.deferredTransitions.erase key }.submit cfg .transition
      deferred.context deferred.task.toTask with
  | (true, b) => b
  | (false, b) => { b with
      databaseAvailable := false
      deferredTransitions := b.deferredTransitions.insert deferred.task.commandId deferred }

/-- `RetryDeferredTransitions`: one deferred transition, the first in the
map's order. -/
def retryDeferredTransitions (b : RuntimeBundle) : RuntimeBundle :=
  if !b.databaseAvailable then b
  else
    match (answers.order b.deferredTransitions.keys).head? with
    | none => b
    | some key =>
        match b.deferredTransitions.lookup key with
        | none => b
        | some deferred => b.retryDeferred cfg key deferred

/-! ### Completed commands -/

/-- The entry `RememberCompletedCommand` gives up: the first of those remembered
longest ago. -/
def oldestCompleted (completed : Map String CompletedCommand) : List String → Option String
  | [] => none
  | first :: rest =>
      some (rest.foldl (fun oldest current =>
        match completed.lookup current, completed.lookup oldest with
        | some c, some o => if c.rememberedAt < o.rememberedAt then current else oldest
        | _, _ => oldest) first)

/-- The loop of `RememberCompletedCommand`; `fuel` is the number of entries. -/
def trimCompleted : ℕ → Map String CompletedCommand → Map String CompletedCommand
  | 0, completed => completed
  | fuel + 1, completed =>
      if completed.keys.length ≤ cfg.maxInflightCommands then completed
      else
        match oldestCompleted completed (answers.order completed.keys) with
        | none => completed
        | some oldest => trimCompleted fuel (completed.erase oldest)

/-- The key under which `RememberCompletedCommand` files a command: `insert_or_assign`
takes a reference to the id within the context, and the context has been moved into the
value when the map reads it. -/
def movedCommandId : String := ""

/-- `RememberCompletedCommand`. -/
def rememberCompletedCommand (b : RuntimeBundle) (context : RequestContext) (now : TimePoint) :
    RuntimeBundle :=
  match context.record with
  | none => b
  | some record =>
      if !record.status.isTerminal then b
      else
        let completed := b.completedCommands.insert movedCommandId ⟨context, now⟩
        { b with
          completedCommands := trimCompleted cfg answers completed.keys.length completed }

/-- A finished command leaves the maps of the running ones. -/
def retire (b : RuntimeBundle) (context : RequestContext) (commandId : String)
    (now : TimePoint) : RuntimeBundle :=
  let b := b.rememberCompletedCommand cfg answers context now
  { b with
    activeCommands := b.activeCommands.erase commandId
    recoveryStarted := b.recoveryStarted.erase commandId
    earlyDeviceAcks := b.earlyDeviceAcks.erase commandId }

/-- `TryHandleLateDeviceAck`: the text for an ACK of a remembered command. -/
def lateDeviceAckText (b : RuntimeBundle) (deviceId : String) (commandType : CommandType)
    (commandId businessStatus : String) : Option String :=
  match b.completedCommands.lookup commandId with
  | some completed =>
      match completed.context.record, completed.context.target with
      | some record, some target =>
          if record.targetDeviceId = some deviceId ∧
              completed.context.commandType = commandType then
            some ("收到来自设备 " ++ describeTarget target ++ "的迟到应答 " ++ businessStatus ++
              "，命令已是 " ++ record.status.toText ++ "，未反转结果")
          else none
      | _, _ => none
  | none => none

/-! ### Publication to devices -/

/-- The body `PublishRecord` sends for a parsed request. -/
def devicePayload (commandId : String) : ParsedSourceRequest → Option Json
  | .config request => some (buildDeviceConfigSet commandId request.parameters)
  | .control request =>
      some (buildDeviceControlSet commandId request.command request.parameters)
  | .rejected _ => none

/-- The record of a command whose message could not be published. -/
def publishFailed (record : CommandRecord) (commandType : CommandType) (now : TimePoint) :
    CommandRecord :=
  { record with
    status := .failed
    errorCode := some "mqtt_publish_failed"
    errorMessage := some
      (if commandType = .control then "设备飞控命令发布失败" else "设备配置命令发布失败")
    updatedAt := now
    completedAt := some now }

/-- `PublishRecord`. -/
def publishRecord (b : RuntimeBundle) (context : RequestContext) (now : TimePoint) :
    RuntimeBundle :=
  match context.record with
  | none => b
  | some record =>
      match record.targetDeviceId with
      | none => b
      | some deviceId =>
          if !b.mqttAvailable then b
          else
            match devicePayload record.commandId context.parsed with
            | none => b
            | some payload =>
                let token := b.nextPublishToken
                let accepted := answers.published token
                let b := { b with
                  recoveryStarted := insert record.commandId b.recoveryStarted
                  nextPublishToken := token + 1
                  publications := b.publications.insert token context
                  log := .published token
                    (deviceSetTopic cfg.topicNamespace deviceId context.commandType) payload
                    record accepted :: b.log }
                if accepted then b
                else
                  let failed := publishFailed record context.commandType now
                  submitTransitionOrDefer cfg
                    { b with publications := b.publications.erase token }
                    { context with record := some failed }
                    ⟨failed.commandId, record.status, .failed,
                      { errorCode := failed.errorCode
                        errorMessage := failed.errorMessage
                        deviceAck := none
                        dispatchedAt := none
                        completedAt := some now
                        updatedAt := now }⟩

/-! ### Acknowledgements from devices -/

/-- The record a device ACK asks for. -/
def acknowledged (record : CommandRecord) (ack : DeviceAck) (commandType : CommandType)
    (now : TimePoint) : CommandRecord :=
  let record := { record with
    status := ack.desired
    deviceAck := some ack.raw
    updatedAt := now
    completedAt := if ack.desired.isTerminal then some now else none }
  if ack.desired = .failed then
    { record with
      errorCode := some "device_rejected"
      errorMessage := some
        (if commandType = .control then "设备拒绝飞控命令" else "设备拒绝配置命令") }
  else if ack.desired = .timeout then
    { record with
      errorCode := some "device_timeout"
      errorMessage := some "设备报告飞控命令超时" }
  else record

/-- Whether the buffered ACK counts as final.  Only control ACKs are read again;
for configuration the answer is always no. -/
def oldTerminal (commandType : CommandType) (old : EarlyDeviceAck) : Bool :=
  match commandType with
  | .control =>
      match parseDeviceControlAck (cfg.parseJson old.payload) with
      | .ok ack => ack.businessStatus ≠ "in_progress"
      | .error _ => false
  | .config => false

/-- The early ACK kept after one more arrives, and whether the two are in
conflict. -/
def mergeEarlyAck (commandType : CommandType) (old incoming : EarlyDeviceAck)
    (incomingTerminal : Bool) : EarlyDeviceAck × Bool :=
  if old.payload = incoming.payload then (old, false)
  else if !oldTerminal cfg commandType old || !incomingTerminal then
    if incomingTerminal || !oldTerminal cfg commandType old then (incoming, false)
    else (old, false)
  else (old, true)

/-- The note about an ACK that belongs to no active command. -/
def informUnrelatedAck (b : RuntimeBundle) (deviceId : String) (commandType : CommandType)
    (ack : DeviceAck) : RuntimeBundle :=
  match b.lateDeviceAckText deviceId commandType ack.commandId ack.businessStatus with
  | some text => b.inform text
  | none =>
      match b.devices.find deviceId with
      | some target =>
          b.inform ("收到来自设备 " ++ describeTarget (resolve target) ++
            "的迟到或无法关联应答 " ++ ack.businessStatus ++ "，未反转结果")
      | none =>
          b.inform ("收到来自未知设备 " ++ deviceId ++ "的迟到或无法关联应答 " ++
            ack.businessStatus ++ "，未反转结果")

/-- The transition of a correlated ACK for a dispatched command. -/
def applyDeviceAck (b : RuntimeBundle) (context : RequestContext) (record : CommandRecord)
    (ack : DeviceAck) (commandType : CommandType) (now : TimePoint) : RuntimeBundle :=
  let updated := acknowledged record ack commandType now
  submitTransitionOrDefer cfg b
    { context with
      record := some updated
      deadline :=
        if ack.desired = .inProgress then now + cfg.controlTimeout else context.deadline
      deviceAckBusinessStatus := some ack.businessStatus }
    ⟨updated.commandId, record.status, ack.desired,
      { errorCode := updated.errorCode
        errorMessage := updated.errorMessage
        deviceAck := updated.deviceAck
        dispatchedAt := none
        completedAt := updated.completedAt
        updatedAt := now }⟩

/-- Buffers an ACK that arrives before the dispatch is stored. -/
def bufferEarlyAck (b : RuntimeBundle) (commandType : CommandType) (ack : DeviceAck)
    (incoming : EarlyDeviceAck) : RuntimeBundle :=
  match b.earlyDeviceAcks.lookup ack.commandId with
  | none => { b with earlyDeviceAcks := b.earlyDeviceAcks.insert ack.commandId incoming }
  | some old =>
      match mergeEarlyAck cfg commandType old incoming (ack.businessStatus ≠ "in_progress") with
      | (kept, false) =>
          { b with earlyDeviceAcks := b.earlyDeviceAcks.insert ack.commandId kept }
      | (_, true) => b.diagnose "设备飞控ACK在发布确认前发生冲突"

/-- The control command an ACK repeats is the one the active command asked for;
configuration ACKs repeat none. -/
def repeatsCommand (parsed : ParsedSourceRequest) (ack : DeviceAck) : Bool :=
  match ack.controlCommand with
  | none => true
  | some command =>
      match parsed with
      | .control request => request.command = command
      | _ => false

/-- `HandleDeviceAck`. -/
def handleDeviceAck (b : RuntimeBundle) (deviceId payload : String) (commandType : CommandType)
    (now : TimePoint) : RuntimeBundle :=
  match parseDeviceAck commandType (cfg.parseJson payload) with
  | none =>
      b.diagnose (if commandType = .control then "设备飞控ACK格式非法" else "设备配置ACK格式非法")
  | some ack =>
      match b.activeCommands.lookup ack.commandId with
      | none =>
          (b.emit (.deviceAcked deviceId commandType ack none)).informUnrelatedAck deviceId
            commandType ack
      | some context =>
          match context.record with
          | none => b.informUnrelatedAck deviceId commandType ack
          | some record =>
              if record.targetDeviceId ≠ some deviceId ∨ context.commandType ≠ commandType then
                b.informUnrelatedAck deviceId commandType ack
              else if !repeatsCommand context.parsed ack then
                b.diagnose "设备飞控ACK的command与活动命令不匹配"
              else
                let b := b.emit (.deviceAcked deviceId commandType ack (some record.status))
                if record.status = .pending then
                  b.bufferEarlyAck cfg commandType ack ⟨deviceId, payload, now⟩
                else if record.status ≠ .dispatched ∧ record.status ≠ .inProgress then b
                else b.applyDeviceAck cfg context record ack commandType now

/-! ### Conflicts -/

/-- `HandleTransitionConflict`. -/
def handleTransitionConflict (b : RuntimeBundle) (context : RequestContext)
    (desired : CommandRecord) : RuntimeBundle :=
  match b.submit cfg .findByIdForConvergence context (.findCommandById desired.commandId) with
  | (true, b) => b
  | (false, b) =>
      { b with databaseAvailable := false }.diagnose
        "命令状态变化后查询当前状态失败：数据库当前不可用"

/-- `ConvergeAfterConflict`. -/
def convergeAfterConflict (b : RuntimeBundle) (context : RequestContext)
    (current : CommandRecord) (now : TimePoint) : RuntimeBundle :=
  match context.record with
  | none => b
  | some desired =>
      let context := { context with record := some current, target := b.targetFor current }
      let wasActive := (b.activeCommands.lookup current.commandId).isSome
      if current.status.isTerminal then
        let b := b.retire cfg answers context current.commandId now
        if wasActive then b.publishAck cfg .lifecycle context now else b
      else if current.status = desired.status then
        { b with activeCommands := b.activeCommands.insert current.commandId context }
      else if current.status.canTransition desired.status then
        submitTransitionOrDefer cfg b { context with record := some desired }
          ⟨current.commandId, current.status, desired.status,
            { errorCode := desired.errorCode
              errorMessage := desired.errorMessage
              deviceAck := desired.deviceAck
              dispatchedAt := desired.dispatchedAt
              completedAt := desired.completedAt
              updatedAt := desired.updatedAt }⟩
      else { b with activeCommands := b.activeCommands.insert current.commandId context }

/-! ### Database results -/

/-- The record of a new command, with the target it was resolved to. -/
def newCommand (b : RuntimeBundle) (context : RequestContext) (requestId : String)
    (payload : Json) : CommandRecord × Option ResolvedTarget :=
  let record : CommandRecord :=
    { commandId := answers.uuid
      commandType := context.commandType
      sourceId := context.sourceId
      requestId := requestId
      targetDeviceId := none
      requestPayload := payload
      status := .pending
      errorCode := none
      errorMessage := none
      deviceAck := none
      createdAt := context.receivedAt
      dispatchedAt := none
      updatedAt := context.receivedAt
      completedAt := none }
  let failed (error : ProtocolError) : CommandRecord :=
    { record with
      status := .failed
      errorCode := some error.code
      errorMessage := some error.message
      completedAt := some context.receivedAt }
  let routed (target : Except ProtocolError ResolvedTarget) :
      CommandRecord × Option ResolvedTarget :=
    match target with
    | .error error => (failed error, none)
    | .ok target =>
        let record :=
          if b.devices.isOnline target.deviceId then record
          else failed ⟨"target_offline", "目标设备当前离线"⟩
        ({ record with targetDeviceId := some target.deviceId }, some target)
  match context.parsed with
  | .rejected rejected => (failed rejected.error, none)
  | .config request =>
      match context.source with
      | some source => routed (resolveConfigTarget source request.target b.devices)
      | none => (failed ⟨"invalid_request", "命令请求类型非法"⟩, none)
  | .control request =>
      match context.source with
      | some source => routed (resolveControlTarget source request.target b.devices)
      | none => (failed ⟨"invalid_request", "命令请求类型非法"⟩, none)

/-- The error of a repeated request number with another content. -/
def idempotencyConflict : ProtocolError := ⟨"idempotency_conflict", "同一请求号的内容不一致"⟩

/-- The result of `FindCommandTask`. -/
def handleFindResult (b : RuntimeBundle) (operationId : ℕ) (context : RequestContext)
    (existing : Option CommandRecord) (now : TimePoint) : RuntimeBundle :=
  match existing with
  | some existing =>
      let conflict := b.reject cfg (some operationId) context.sourceId context.parsed.requestId
        idempotencyConflict now context.commandType
      match context.parsed.comparisonPayload with
      | none => conflict
      | some payload =>
          if compareRequest existing payload = .conflict then conflict
          else b.publishAck cfg (.replay operationId payload)
            { context with record := some existing, target := b.targetFor existing } now
  | none =>
      match context.parsed.requestId, context.parsed.comparisonPayload with
      | some requestId, some payload =>
          match b.newCommand answers context requestId payload with
          | (record, target) =>
              ((b.emit (.created operationId record)).submit cfg .insert
                { context with record := some record, target := target }
                (.insertCommand record)).2
      | _, _ => b

/-- The ACK of the device that a stored transition passes on. -/
def deviceAckPersisted (status : CommandStatus) (businessStatus : String) : Bool :=
  (status = .inProgress && businessStatus = "in_progress") ||
    (status = .failed && businessStatus = "rejected") ||
    (status = .timeout && businessStatus = "timeout") ||
    (status = .succeeded && businessStatus ≠ "in_progress" && businessStatus ≠ "rejected" &&
      businessStatus ≠ "timeout")

/-- The notes about a stored transition, and the context after them. -/
def informPersisted (b : RuntimeBundle) (context : RequestContext) (dispatchedPersisted : Bool)
    (status : CommandStatus) : RuntimeBundle × RequestContext :=
  match context.target with
  | none => (b, context)
  | some target =>
      let b :=
        if dispatchedPersisted then
          b.inform ("收到来自 " ++ context.sourceId ++ " 的" ++ describeCommand context.parsed ++
            "，已路由至设备 " ++ describeTarget target)
        else b
      match context.deviceAckBusinessStatus with
      | none => (b, context)
      | some businessStatus =>
          if deviceAckPersisted status businessStatus then
            (b.inform ("收到来自设备 " ++ describeTarget target ++ "的应答 " ++ businessStatus ++
                "，已转发至 " ++ context.sourceId),
              { context with deviceAckBusinessStatus := none })
          else (b, context)

/-- The rest of a stored transition, or of an insertion that is already
terminal: the ACK, and the command retired or refreshed. -/
def finishStored (b : RuntimeBundle) (kind : OperationKind) (context : RequestContext)
    (record : CommandRecord) (now : TimePoint) : RuntimeBundle :=
  let dispatchedPersisted :=
    kind = .transition && context.record.map (·.status) = some .dispatched &&
      record.status = .dispatched
  let context := { context with record := some record }
  match informPersisted (b.publishAck cfg .lifecycle context now) context dispatchedPersisted
      record.status with
  | (b, context) =>
      if record.status.isTerminal then b.retire cfg answers context record.commandId now
      else
        let b := { b with activeCommands := b.activeCommands.insert record.commandId context }
        if record.status = .dispatched then
          match b.earlyDeviceAcks.lookup record.commandId with
          | some early =>
              { b with earlyDeviceAcks := b.earlyDeviceAcks.erase record.commandId }.handleDeviceAck
                cfg early.deviceId early.payload context.commandType early.receivedAt
          | none => b
        else b

/-- The result of `InsertCommandTask`. -/
def handleInsertResult (b : RuntimeBundle) (operationId : ℕ) (context : RequestContext)
    (record : CommandRecord) (now : TimePoint) : RuntimeBundle :=
  match context.record with
  | some own =>
      if own.commandId ≠ record.commandId then
        if compareRequest record own.requestPayload = .conflict then
          b.reject cfg (some operationId) context.sourceId (some own.requestId)
            idempotencyConflict now context.commandType
        else b.publishAck cfg (.replay operationId own.requestPayload)
          { context with record := some record, target := b.targetFor record } now
      else if record.status.isTerminal then b.finishStored cfg answers .insert context record now
      else
        let context := { context with record := some record }
        publishRecord cfg answers
          { b with activeCommands := b.activeCommands.insert record.commandId context } context now
  | none =>
      if record.status.isTerminal then b.finishStored cfg answers .insert context record now
      else
        let context := { context with record := some record }
        publishRecord cfg answers
          { b with activeCommands := b.activeCommands.insert record.commandId context } context now

/-- The result of `TransitionCommandTask`. -/
def handleTransitionResult (b : RuntimeBundle) (context : RequestContext)
    (record : CommandRecord) (now : TimePoint) : RuntimeBundle :=
  match context.record with
  | some desired =>
      if desired.status.isTerminal && !record.status.isTerminal &&
          record.status.canTransition desired.status then
        submitTransitionOrDefer cfg b context
          ⟨desired.commandId, record.status, desired.status,
            { errorCode := desired.errorCode
              errorMessage := desired.errorMessage
              deviceAck := desired.deviceAck
              dispatchedAt := none
              completedAt := desired.completedAt
              updatedAt := desired.updatedAt }⟩
      else b.finishStored cfg answers .transition context record now
  | none => b.finishStored cfg answers .transition context record now

/-- The result of an operation of the given kind. -/
def handleValue (b : RuntimeBundle) (operationId : ℕ) (operation : Operation)
    (value : CommandDatabaseValue) (now : TimePoint) : RuntimeBundle :=
  match operation.kind, value with
  | .cleanup, .count _ => b
  | .cleanup, _ => b.diagnose "命令清理返回类型异常"
  | .findByIdForConvergence, .found (some current) =>
      b.convergeAfterConflict cfg answers operation.context current now
  | .findByIdForConvergence, .found none => b.diagnose "命令状态变化后未找到当前命令记录"
  | .findByIdForConvergence, _ => b.diagnose "命令按ID查询返回类型异常"
  | .find, .found existing =>
      b.handleFindResult cfg answers operationId operation.context existing now
  | .find, _ => b.diagnose "命令查询返回类型异常"
  | .insert, .record record =>
      b.handleInsertResult cfg answers operationId operation.context record now
  | .transition, .record record =>
      b.handleTransitionResult cfg answers operation.context record now
  | _, _ => b.diagnose "命令写入返回类型异常"

/-- `Handle(CommandDatabaseResult)`. -/
def handleResult (b : RuntimeBundle) (result : CommandDatabaseResult) (now : TimePoint) :
    RuntimeBundle :=
  match b.operations.lookup result.operationId with
  | none => b
  | some operation =>
      let b := { b with
        operations := b.operations.erase result.operationId
        outstandingOperations := b.outstandingOperations - 1 }
      match result.value with
      | .ok value => b.handleValue cfg answers result.operationId operation value now
      | .error error =>
          let report : RuntimeBundle :=
            { b with
              databaseAvailable := b.databaseAvailable && error.kind ≠ DatabaseErrorKind.unavailable
              log := .databaseError result.operationId :: b.log }.diagnose
              ("命令数据库操作失败：" ++ error.message)
          match operation.context.record with
          | some desired =>
              if operation.kind = .transition && isStateChangedError error.message then
                b.handleTransitionConflict cfg operation.context desired
              else report
          | none => report

/-! ### Messages and completions -/

/-- The end of `Handle(InboundMessage)` for a request with a request number:
the checks of availability and capacity, and the search for its key. -/
def submitFind (b : RuntimeBundle) (source : CommandSource) (parsed : ParsedSourceRequest)
    (sourceId requestId : String) (commandType : CommandType) (receivedAt now : TimePoint) :
    RuntimeBundle :=
  let refuse (b : RuntimeBundle) (error : ProtocolError) : RuntimeBundle :=
    b.reject cfg none sourceId (some requestId) error now commandType
  if !b.mqttAvailable then refuse b ⟨"mqtt_unavailable", "MQTT当前不可用"⟩
  else if !b.databaseAvailable then refuse b ⟨"database_unavailable", "数据库当前不可用"⟩
  else if cfg.maxInflightCommands ≤
      b.activeCommands.keys.length + b.operations.keys.length + b.publications.keys.length then
    refuse b ⟨"server_busy", "服务器命令容量已满"⟩
  else
    let timeout := if commandType = .control then cfg.controlTimeout else cfg.configTimeout
    match b.submit cfg .find
        { sourceId := sourceId
          source := some source
          parsed := parsed
          commandType := commandType
          receivedAt := receivedAt
          deadline := receivedAt + timeout
          target := none
          record := none
          deviceAckBusinessStatus := none }
        (.findCommand sourceId requestId) with
    | (true, b) => b
    | (false, b) => refuse b ⟨"database_unavailable", "数据库当前不可用"⟩

/-- The part of `Handle(InboundMessage)` about the request of a source. -/
def handleRequest (b : RuntimeBundle) (sourceId : String) (commandType : CommandType)
    (message : InboundMessage) (now : TimePoint) : RuntimeBundle :=
  let refuse (error : ProtocolError) : RuntimeBundle :=
    b.reject cfg none sourceId none error now commandType
  match b.sources.find sourceId with
  | none => refuse ⟨"source_not_registered", "命令来源未登记"⟩
  | some source =>
      if !source.enabled then refuse ⟨"source_disabled", "命令来源已禁用"⟩
      else if source.kind = .device ∧ source.deviceId.any b.devices.isOnline = false then
        refuse ⟨"source_device_offline", "来源设备当前离线"⟩
      else
        let parsed := parseSourceRequest commandType (cfg.parseJson message.payload) source.kind
        match parsed.requestId, parsed with
        | none, .rejected rejected => refuse rejected.error
        | none, _ => b
        | some requestId, _ =>
            b.submitFind cfg source parsed sourceId requestId commandType message.receivedAt now

/-- `Handle(InboundMessage)`. -/
def handleMessage (b : RuntimeBundle) (message : InboundMessage) (now : TimePoint) :
    RuntimeBundle :=
  match parseDeviceConfigAckTopic cfg.topicNamespace message.topic with
  | .ok deviceId => b.handleDeviceAck cfg deviceId message.payload .config now
  | .error _ =>
      match parseDeviceControlAckTopic cfg.topicNamespace message.topic with
      | .ok deviceId => b.handleDeviceAck cfg deviceId message.payload .control now
      | .error _ =>
          match parseSourceRequestTopic cfg.topicNamespace message.topic with
          | .ok sourceId => b.handleRequest cfg sourceId .config message now
          | .error _ =>
              match parseSourceControlRequestTopic cfg.topicNamespace message.topic with
              | .ok sourceId => b.handleRequest cfg sourceId .control message now
              | .error _ => b

/-- The record a publish completion asks for. -/
def publishCompleted (record : CommandRecord) (commandType : CommandType) (result : Bool)
    (now : TimePoint) : CommandRecord :=
  if result then
    { record with status := .dispatched, updatedAt := now, dispatchedAt := some now }
  else if commandType = .control then
    { record with
      status := .deliveryUncertain
      errorCode := some "control_delivery_uncertain"
      errorMessage := some "飞控命令发布后无法确认是否送达"
      updatedAt := now
      completedAt := some now }
  else
    { record with
      status := .failed
      errorCode := some "mqtt_publish_failed"
      errorMessage := some "设备配置命令发布失败"
      updatedAt := now
      completedAt := some now }

/-- `Handle(PublishCompletion)`. -/
def handleCompletion (b : RuntimeBundle) (completion : PublishCompletion) (now : TimePoint) :
    RuntimeBundle :=
  match b.publications.lookup completion.token with
  | none => b
  | some context =>
      match context.record with
      | none => { b with publications := b.publications.erase completion.token }
      | some record =>
          let b := { b with
            publications := b.publications.erase completion.token
            log := .completed record completion.result :: b.log }
          if completion.result ∧ record.status = .dispatched then b
          else
            let updated := publishCompleted record context.commandType completion.result now
            submitTransitionOrDefer cfg b { context with record := some updated }
              ⟨record.commandId, record.status, updated.status,
                { errorCode := if completion.result then none else updated.errorCode
                  errorMessage := if completion.result then none else updated.errorMessage
                  deviceAck := none
                  dispatchedAt := if completion.result then some now else none
                  completedAt := if completion.result then none else some now
                  updatedAt := now }⟩

/-! ### Timeouts and recovery -/

/-- The record of a command whose deadline has passed. -/
def timedOut (record : CommandRecord) (commandType : CommandType) (now : TimePoint) :
    CommandRecord :=
  { record with
    status := .timeout
    errorCode := some (if commandType = .control then "control_timeout" else "command_timeout")
    errorMessage := some
      (if commandType = .control then "设备飞控命令超时" else "设备配置命令超时")
    updatedAt := now
    completedAt := some now }

/-- The timeout transition of one command. -/
def submitTimeout (b : RuntimeBundle) (commandId : String) (context : RequestContext)
    (record : CommandRecord) (now : TimePoint) : RuntimeBundle :=
  let updated := timedOut record context.commandType now
  submitTransitionOrDefer cfg
    { b with recoveryStarted := insert commandId b.recoveryStarted }
    { context with record := some updated }
    ⟨commandId, record.status, .timeout,
      { errorCode := updated.errorCode
        errorMessage := updated.errorMessage
        deviceAck := none
        dispatchedAt := record.dispatchedAt
        completedAt := some now
        updatedAt := now }⟩

/-- The turn of one active command in the scan. -/
def visit (b : RuntimeBundle) (commandId : String) (now : TimePoint) : RuntimeBundle :=
  match b.activeCommands.lookup commandId with
  | none => b
  | some context =>
      match context.record with
      | none => b
      | some record =>
          if context.deadline ≤ now then
            if commandId ∈ b.recoveryStarted then b
            else b.submitTimeout cfg commandId context record now
          else if context.commandType = .control || !b.mqttAvailable ||
              commandId ∈ b.recoveryStarted then b
          else
            match record.targetDeviceId with
            | none => b
            | some deviceId =>
                if b.devices.isOnline deviceId then
                  publishRecord cfg answers
                    { b with recoveryStarted := insert commandId b.recoveryStarted } context now
                else b

/-- The context of a cleanup. -/
def cleanupContext (now : TimePoint) : RequestContext where
  sourceId := ""
  source := none
  parsed := .rejected ⟨none, none, ⟨"cleanup", "终态清理"⟩⟩
  commandType := .config
  receivedAt := now
  deadline := now
  target := none
  record := none
  deviceAckBusinessStatus := none

/-- The cleanup at the head of `ProcessTimeoutsAndRecovery`. -/
def submitCleanup (b : RuntimeBundle) (now : TimePoint) : RuntimeBundle :=
  match b.nextCleanupAt with
  | none => { b with nextCleanupAt := some (now + cfg.cleanupInterval) }
  | some next =>
      if now < next then b
      else
        let pending := b.operations.entries.any fun entry => entry.2.kind = .cleanup
        let b :=
          if !pending && b.databaseAvailable then
            (b.submit cfg .cleanup (cleanupContext now)
              (.cleanupCommands (now - cfg.terminalRetention) cfg.cleanupBatchSize)).2
          else b
        { b with nextCleanupAt := some (now + cfg.cleanupInterval) }

/-- `ProcessTimeoutsAndRecovery`; the worker thread may run before the cleanup
and between two active commands. -/
def processTimeoutsAndRecovery (b : RuntimeBundle) (now : TimePoint) : RuntimeBundle :=
  let b := ((answers.interleaved none).foldl workerTurn b).submitCleanup cfg now
  (answers.order b.activeCommands.keys).foldl
    (fun b id => ((answers.interleaved (some id)).foldl workerTurn b).visit cfg answers id now) b

end RuntimeBundle

end CnsServer
