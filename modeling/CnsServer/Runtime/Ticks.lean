/-
What one input can do, said once.

`Tick` lists the smallest changes the invariants look at: one turn of the
worker, one request sent to it, one result taken from its queue together with
everything that follows from it, one transition formed, one publication, one
buffered ACK.  Every input of the running service other than a restart is a
sequence of ticks (`Ticks.apply`), so an invariant is proved by one case
analysis over `Tick` and never unfolds the functions of the service again.

What the invariants do not look at is left out by `SameCore`.
-/
import CnsServer.Command.ReportedErrors
import CnsServer.Runtime.Effects

namespace CnsServer

open RuntimeBundle

/-- The message is a rejection before anything was stored, on the ACK topic of its
type and with a reported error. -/
def IsRejection (topic : String) (ack : SourceAck) : Prop :=
  ∃ topicNamespace sourceId requestId error now type,
    topic = sourceAckTopic topicNamespace sourceId type ∧
      ack = buildPrePersistenceRejection requestId error now type ∧
      ProtocolError.Reported error

/-- A rejection names no command. -/
lemma IsRejection.commandId {topic : String} {ack : SourceAck} (h : IsRejection topic ack) :
    ack.commandId = none := by
  obtain ⟨_, _, _, _, _, _, _, rfl, -⟩ := h
  rfl

/-- Events that say nothing about a stored command. -/
def Event.IsQuiet : Event → Prop
  | .diagnosed _ => True
  | .informed _ => True
  | .acked topic ack cause => IsRejection topic ack ∧ cause = .rejection none ∧
      ∀ requestId ∈ ack.requestId, isValidRequestId requestId = true
  | .deviceAcked _ _ _ memory => ∀ status, memory = some status → status.isTerminal = true
  | _ => False

/-- `completed_commands_` within its bound, and all of it under the id of a moved
context. -/
structure Remembered (cfg : CommandServiceConfig) (completed : Map String CompletedCommand) :
    Prop where
  bound : completed.keys.length ≤ cfg.maxInflightCommands
  moved : ∀ c ∈ completed.keys, c = movedCommandId

/-- Nothing is remembered at first. -/
lemma Remembered.empty (cfg : CommandServiceConfig) : Remembered cfg ∅ :=
  ⟨Nat.zero_le _, fun _ hc => by cases hc⟩

/-- Two states that agree on everything the invariants look at; the trace may
have grown by quiet events, more commands may be marked as recovering, and
`completed_commands_` stays as it has to be. -/
structure SameCore (cfg : CommandServiceConfig) (b b' : RuntimeBundle) : Prop where
  table : b'.table = b.table
  worker : b'.toPostgresWorker = b.toPostgresWorker
  databaseResults : b'.databaseResults = b.databaseResults
  operations : ∀ i, b'.operations.lookup i = b.operations.lookup i
  publications : ∀ i, b'.publications.lookup i = b.publications.lookup i
  activeCommands : ∀ c, b'.activeCommands.lookup c = b.activeCommands.lookup c
  deferredTransitions : ∀ c, b'.deferredTransitions.lookup c = b.deferredTransitions.lookup c
  earlyDeviceAcks : ∀ c, b'.earlyDeviceAcks.lookup c = b.earlyDeviceAcks.lookup c
  recoveryStarted : b.recoveryStarted ⊆ b'.recoveryStarted
  nextOperationId : b'.nextOperationId = b.nextOperationId
  nextPublishToken : b'.nextPublishToken = b.nextPublishToken
  mqttAvailable : b'.mqttAvailable = b.mqttAvailable
  outstandingOperations : b'.outstandingOperations = b.outstandingOperations
  closed : b.closed = true → b'.closed = true
  completed : Remembered cfg b.completedCommands → Remembered cfg b'.completedCommands
  past : b'.past = b.past
  log : ∃ events, b'.log = events ++ b.log ∧ ∀ e ∈ events, e.IsQuiet

namespace SameCore

variable {cfg : CommandServiceConfig}

lemma commands {b b' : RuntimeBundle} (h : SameCore cfg b b') : b'.commands = b.commands :=
  congrArg PostgresWorker.commands h.worker

lemma refl (b : RuntimeBundle) : SameCore cfg b b :=
  ⟨rfl, rfl, rfl, fun _ => rfl, fun _ => rfl, fun _ => rfl, fun _ => rfl, fun _ => rfl,
    Finset.Subset.refl _, rfl, rfl, rfl, rfl, id, id, rfl, [], rfl, by simp⟩

lemma trans {a b c : RuntimeBundle} (h : SameCore cfg a b) (h' : SameCore cfg b c) :
    SameCore cfg a c := by
  obtain ⟨es, hes, hq⟩ := h.log
  obtain ⟨es', hes', hq'⟩ := h'.log
  exact
    { table := h'.table.trans h.table
      worker := h'.worker.trans h.worker
      databaseResults := h'.databaseResults.trans h.databaseResults
      operations := fun i => (h'.operations i).trans (h.operations i)
      publications := fun i => (h'.publications i).trans (h.publications i)
      activeCommands := fun c => (h'.activeCommands c).trans (h.activeCommands c)
      deferredTransitions := fun c => (h'.deferredTransitions c).trans (h.deferredTransitions c)
      earlyDeviceAcks := fun c => (h'.earlyDeviceAcks c).trans (h.earlyDeviceAcks c)
      recoveryStarted := h.recoveryStarted.trans h'.recoveryStarted
      nextOperationId := h'.nextOperationId.trans h.nextOperationId
      nextPublishToken := h'.nextPublishToken.trans h.nextPublishToken
      mqttAvailable := h'.mqttAvailable.trans h.mqttAvailable
      outstandingOperations := h'.outstandingOperations.trans h.outstandingOperations
      closed := h'.closed ∘ h.closed
      completed := h'.completed ∘ h.completed
      past := h'.past.trans h.past
      log := ⟨es' ++ es, by rw [hes', hes, List.append_assoc], by
        intro e he
        rcases List.mem_append.mp he with he | he
        · exact hq' e he
        · exact hq e he⟩ }

/-- A quiet event alone changes nothing. -/
lemma emit (b : RuntimeBundle) {event : Event} (h : event.IsQuiet) :
    SameCore cfg b (b.emit event) :=
  { SameCore.refl b with log := ⟨[event], rfl, by simpa using h⟩ }

lemma diagnose (b : RuntimeBundle) (message : String) : SameCore cfg b (b.diagnose message) :=
  emit b trivial

lemma inform (b : RuntimeBundle) (message : String) : SameCore cfg b (b.inform message) :=
  emit b trivial

lemma reject (b : RuntimeBundle) (sourceId : String) {requestId : Option String}
    {error : ProtocolError} (now : TimePoint) (type : CommandType)
    (hrequestId : ∀ id ∈ requestId, isValidRequestId id = true) (herror : error.Reported) :
    SameCore cfg b (b.reject cfg none sourceId requestId error now type) :=
  emit b ⟨⟨cfg.topicNamespace, sourceId, requestId, error, now, type, rfl, rfl, herror⟩, rfl,
    hrequestId⟩

end SameCore

/-! ### The ticks -/

/-- The shape of the answer to an operation of each kind. -/
def OperationKind.Expects : OperationKind → CommandDatabaseValue → Prop
  | .find, .found _ => True
  | .findByIdForConvergence, .found _ => True
  | .insert, .record _ => True
  | .transition, .record _ => True
  | .cleanup, .count _ => True
  | _, _ => False

/-- The state after a result is taken from the queue and its operation, if there
is one, from the map. -/
def RuntimeBundle.taken (b : RuntimeBundle) (operationId : ℕ)
    (rest : List CommandDatabaseResult) : RuntimeBundle :=
  { b with
    databaseResults := rest
    operations := b.operations.erase operationId
    outstandingOperations :=
      b.outstandingOperations - if (b.operations.lookup operationId).isSome then 1 else 0 }

lemma RuntimeBundle.taken_eq {b : RuntimeBundle} {operationId : ℕ} {operation : Operation}
    {rest : List CommandDatabaseResult} (hop : b.operations.lookup operationId = some operation) :
    b.taken operationId rest =
      { b with
        databaseResults := rest
        operations := b.operations.erase operationId
        outstandingOperations := b.outstandingOperations - 1 } := by
  simp [RuntimeBundle.taken, hop]

/-- The results that enter no map of the service, with the events they leave:
unknown operations, errors, answers nobody waits for, and the answers to
repeated requests. -/
inductive Consumed (cfg : CommandServiceConfig) (b : RuntimeBundle) (operationId : ℕ)
    (value : Except DatabaseError CommandDatabaseValue) : List Event → Prop
  | unknown : b.operations.lookup operationId = none → Consumed cfg b operationId value []
  | failed {operation : Operation} {error : DatabaseError} :
      b.operations.lookup operationId = some operation → value = .error error →
      ¬ (operation.kind = .transition ∧ isStateChangedError error.message = true ∧
        operation.context.record.isSome) →
      Consumed cfg b operationId value [.databaseError operationId]
  | ignored {operation : Operation} {answer : CommandDatabaseValue} :
      b.operations.lookup operationId = some operation → value = .ok answer →
      (operation.kind = .cleanup ∨ ¬ operation.kind.Expects answer ∨
        (operation.kind = .findByIdForConvergence ∧
          (answer = .found none ∨ operation.context.record = none)) ∨
        (operation.kind = .find ∧ answer = .found none ∧
          (operation.context.parsed.requestId = none ∨
            operation.context.parsed.comparisonPayload = none))) →
      Consumed cfg b operationId value []
  | rejected {operation : Operation} {existing : CommandRecord} {requestId : Option String}
      {now : TimePoint} :
      b.operations.lookup operationId = some operation →
      ((operation.kind = .find ∧ value = .ok (.found (some existing)) ∧
          requestId = operation.context.parsed.requestId ∧
          ∀ payload, operation.context.parsed.comparisonPayload = some payload →
            compareRequest existing payload = .conflict) ∨
        (∃ own, operation.kind = .insert ∧ value = .ok (.record existing) ∧
          operation.context.record = some own ∧ own.commandId ≠ existing.commandId ∧
          requestId = some own.requestId ∧
          compareRequest existing own.requestPayload = .conflict)) →
      Consumed cfg b operationId value
        [.acked (sourceAckTopic cfg.topicNamespace operation.context.sourceId
            operation.context.commandType)
          (buildPrePersistenceRejection requestId idempotencyConflict now
            operation.context.commandType)
          (.rejection (some operationId))]
  | replayed {operation : Operation} {existing : CommandRecord} {payload : Json}
      {now : TimePoint} :
      b.operations.lookup operationId = some operation →
      compareRequest existing payload ≠ .conflict →
      ((operation.kind = .find ∧ value = .ok (.found (some existing)) ∧
          operation.context.parsed.comparisonPayload = some payload) ∨
        (∃ own, operation.kind = .insert ∧ value = .ok (.record existing) ∧
          operation.context.record = some own ∧ own.commandId ≠ existing.commandId ∧
          payload = own.requestPayload)) →
      Consumed cfg b operationId value
        [.acked (sourceAckTopic cfg.topicNamespace operation.context.sourceId
            operation.context.commandType)
          (buildSourceAck existing (b.targetFor existing) now) (.replay operationId payload)]

/-- Conditions on the surroundings: on the turns of the worker, on the device ACKs
that are applied and on the deadlines that are found to be over, each with the
state in which it happens and, for the last two, the time. -/
structure Limits where
  turn : RuntimeBundle → WorkerEvent → Prop
  ack : RuntimeBundle → String → CommandType → DeviceAck → TimePoint → Prop
  due : RuntimeBundle → String → TimePoint → Prop

/-- Conditions on the turns of the worker alone. -/
def Limits.onTurns (turn : RuntimeBundle → WorkerEvent → Prop) : Limits :=
  ⟨turn, fun _ _ _ _ _ => True, fun _ _ _ => True⟩

/-- No condition. -/
def Limits.any : Limits := .onTurns fun _ _ => True

/-- The smallest changes of the running service, in surroundings that meet the
conditions `T`. -/
inductive TickIf (T : Limits) (cfg : CommandServiceConfig) :
    RuntimeBundle → RuntimeBundle → Prop
  | quiet {b b' : RuntimeBundle} : SameCore cfg b b' → TickIf T cfg b b'
  | worker {b : RuntimeBundle} {event : WorkerEvent} : event.Admissible → T.turn b event →
      TickIf T cfg b (b.workerTurn event)
  | mqtt {b : RuntimeBundle} {available : Bool} : TickIf T cfg b (b.setMqttAvailable available)
  | device {b : RuntimeBundle} {devices : DeviceRegistry} {record : DeviceRecord}
      {cleared : Bool} :
      (cleared = true → record.status = .online ∧
        devices.find record.deviceId = some record) →
      TickIf T cfg b { b with
        devices := devices
        recoveryStarted :=
          if cleared then b.recoveryStarted.filter (· ∉ b.commandsFor record.deviceId)
          else b.recoveryStarted
        log := .deviceUpdated record.deviceId (b.devices.isOnline record.deviceId)
          (devices.isOnline record.deviceId) cleared :: b.log }
  | find {b : RuntimeBundle} {context : RequestContext} {requestId : String}
        {source : CommandSource}
      {json : Option Json} :
      context.record = none → context.source = some source →
      context.parsed = parseSourceRequest context.commandType json source.kind →
      context.parsed.requestId = some requestId →
      b.activeCommands.keys.length + b.operations.keys.length + b.publications.keys.length <
        cfg.maxInflightCommands →
      TickIf T cfg b (b.submit cfg .find context (.findCommand context.sourceId requestId)).2
  | cleanup {b : RuntimeBundle} {context : RequestContext} {before : TimePoint} {size : ℕ} :
      context.record = none →
      TickIf T cfg b (b.submit cfg .cleanup context (.cleanupCommands before size)).2
  | consumed {b : RuntimeBundle} {operationId : ℕ}
      {value : Except DatabaseError CommandDatabaseValue} {rest : List CommandDatabaseResult}
      {events : List Event} :
      b.databaseResults = ⟨operationId, value⟩ :: rest → Consumed cfg b operationId value events →
      TickIf T cfg b { b.taken operationId rest with log := events ++ b.log }
  | create {b : RuntimeBundle} {answers : Answers} {operationId : ℕ} {operation : Operation}
      {rest : List CommandDatabaseResult} {requestId : String} {payload : Json} :
      b.databaseResults = ⟨operationId, .ok (.found none)⟩ :: rest →
      b.operations.lookup operationId = some operation → operation.kind = .find →
      operation.context.parsed.requestId = some requestId →
      operation.context.parsed.comparisonPayload = some payload →
      answers.uuid ∉ createdIds b.trace →
      TickIf T cfg b ((((b.taken operationId rest).emit (.created operationId
          (b.newCommand answers operation.context requestId payload).1)).submit cfg .insert
        { operation.context with
          record := some (b.newCommand answers operation.context requestId payload).1
          target := (b.newCommand answers operation.context requestId payload).2 }
        (.insertCommand (b.newCommand answers operation.context requestId payload).1)).2)
  | conflict {b : RuntimeBundle} {operationId : ℕ} {operation : Operation}
      {rest : List CommandDatabaseResult} {error : DatabaseError} {desired : CommandRecord} :
      b.databaseResults = ⟨operationId, .error error⟩ :: rest →
      b.operations.lookup operationId = some operation → operation.kind = .transition →
      isStateChangedError error.message = true → operation.context.record = some desired →
      TickIf T cfg b ((b.taken operationId rest).submit cfg .findByIdForConvergence
        operation.context
        (.findCommandById desired.commandId)).2
  | activate {b : RuntimeBundle} {answers : Answers} {operationId : ℕ} {operation : Operation}
      {rest : List CommandDatabaseResult} {record : CommandRecord} {now : TimePoint} :
      b.databaseResults = ⟨operationId, .ok (.record record)⟩ :: rest →
      b.operations.lookup operationId = some operation → operation.kind = .insert →
      (∀ own, operation.context.record = some own → own.commandId = record.commandId) →
      record.status.isTerminal = false →
      TickIf T cfg b (publishRecord cfg answers
        { b.taken operationId rest with
          activeCommands := b.activeCommands.insert record.commandId
            { operation.context with record := some record } }
        { operation.context with record := some record } now)
  | refresh {b : RuntimeBundle} {operationId : ℕ} {operation : Operation}
      {rest : List CommandDatabaseResult} {record : CommandRecord} (context : RequestContext)
      (now : TimePoint) :
      b.databaseResults = ⟨operationId, .ok (.record record)⟩ :: rest →
      b.operations.lookup operationId = some operation → operation.kind = .transition →
      record.status.isTerminal = false →
      context.record = some record → context.parsed = operation.context.parsed →
      context.commandType = operation.context.commandType →
      context.sourceId = operation.context.sourceId → context.source = operation.context.source →
      context.deadline = operation.context.deadline →
      TickIf T cfg b { b.taken operationId rest with
        activeCommands := b.activeCommands.insert record.commandId context
        earlyDeviceAcks :=
          if record.status = .dispatched then b.earlyDeviceAcks.erase record.commandId
          else b.earlyDeviceAcks
        log := .acked (sourceAckTopic cfg.topicNamespace context.sourceId context.commandType)
          (buildSourceAck record context.target now) .lifecycle :: b.log }
  | settle {b : RuntimeBundle} {operationId : ℕ} {operation : Operation}
      {rest : List CommandDatabaseResult} {current desired : CommandRecord} :
      b.databaseResults = ⟨operationId, .ok (.found (some current))⟩ :: rest →
      b.operations.lookup operationId = some operation →
      operation.kind = .findByIdForConvergence → operation.context.record = some desired →
      current.status.isTerminal = false →
      (current.status = desired.status ∨
        current.status.canTransition desired.status = false) →
      TickIf T cfg b { b.taken operationId rest with
        activeCommands := b.activeCommands.insert current.commandId
          { operation.context with record := some current, target := b.targetFor current } }
  | converge {b : RuntimeBundle} {operationId : ℕ} {operation : Operation}
      {rest : List CommandDatabaseResult} {current desired : CommandRecord}
      {target : Option ResolvedTarget} {update : CommandUpdate} {commandId : String} :
      operation.context.record = some desired →
      ((b.databaseResults = ⟨operationId, .ok (.found (some current))⟩ :: rest ∧
          operation.kind = .findByIdForConvergence ∧ current.status ≠ desired.status ∧
          update.dispatchedAt = desired.dispatchedAt ∧ commandId = current.commandId) ∨
        (b.databaseResults = ⟨operationId, .ok (.record current)⟩ :: rest ∧
          operation.kind = .transition ∧ desired.status.isTerminal = true ∧
          update.dispatchedAt = none ∧ commandId = desired.commandId)) →
      b.operations.lookup operationId = some operation → current.status.isTerminal = false →
      current.status.canTransition desired.status = true →
      update.errorCode = desired.errorCode → update.errorMessage = desired.errorMessage →
      update.deviceAck = desired.deviceAck → update.completedAt = desired.completedAt →
      update.updatedAt = desired.updatedAt →
      TickIf T cfg b (submitTransitionOrDefer cfg (b.taken operationId rest)
        { operation.context with target := target }
        ⟨commandId, current.status, desired.status, update⟩)
  | finish {b : RuntimeBundle} {operationId : ℕ} {operation : Operation}
      {rest : List CommandDatabaseResult} {record : CommandRecord} {value : CommandDatabaseValue}
      (context : RequestContext) (now : TimePoint) :
      b.databaseResults = ⟨operationId, .ok value⟩ :: rest →
      b.operations.lookup operationId = some operation →
      ((operation.kind = .transition ∧ value = .record record) ∨
        (operation.kind = .insert ∧ value = .record record ∧
          ∀ own, operation.context.record = some own → own.commandId = record.commandId) ∨
        (operation.kind = .findByIdForConvergence ∧ value = .found (some record) ∧
          operation.context.record.isSome ∧
          (b.activeCommands.lookup record.commandId).isSome)) →
      record.status.isTerminal = true →
      context.record = some record → context.commandType = operation.context.commandType →
      context.sourceId = operation.context.sourceId →
      TickIf T cfg b { b.taken operationId rest with
        activeCommands := b.activeCommands.erase record.commandId
        recoveryStarted := b.recoveryStarted.erase record.commandId
        earlyDeviceAcks := b.earlyDeviceAcks.erase record.commandId
        log := .acked (sourceAckTopic cfg.topicNamespace context.sourceId context.commandType)
          (buildSourceAck record context.target now) .lifecycle :: b.log }
  | finished {b : RuntimeBundle} {operationId : ℕ} {operation : Operation}
      {rest : List CommandDatabaseResult} {record : CommandRecord} :
      b.databaseResults = ⟨operationId, .ok (.found (some record))⟩ :: rest →
      b.operations.lookup operationId = some operation →
      operation.kind = .findByIdForConvergence → operation.context.record.isSome →
      b.activeCommands.lookup record.commandId = none → record.status.isTerminal = true →
      TickIf T cfg b { b.taken operationId rest with
        activeCommands := b.activeCommands.erase record.commandId
        recoveryStarted := b.recoveryStarted.erase record.commandId
        earlyDeviceAcks := b.earlyDeviceAcks.erase record.commandId }
  | deviceAck {b : RuntimeBundle} {context : RequestContext} {record : CommandRecord}
      {ack : DeviceAck} {deviceId payload : String} {type : CommandType} {now : TimePoint} :
      parseDeviceAck type (cfg.parseJson payload) = some ack →
      b.activeCommands.lookup ack.commandId = some context → context.record = some record →
      record.targetDeviceId = some deviceId → context.commandType = type →
      repeatsCommand context.parsed ack = true →
      (record.status = .dispatched ∨ record.status = .inProgress) →
      T.ack b deviceId type ack now →
      TickIf T cfg b
        ((b.emit (.deviceAcked deviceId type ack (some record.status))).applyDeviceAck cfg
          context record ack type now)
  | buffer {b : RuntimeBundle} {context : RequestContext} {record : CommandRecord}
      {ack : DeviceAck} {deviceId payload : String} {type : CommandType} {now : TimePoint} :
      parseDeviceAck type (cfg.parseJson payload) = some ack →
      b.activeCommands.lookup ack.commandId = some context → context.record = some record →
      record.targetDeviceId = some deviceId → context.commandType = type →
      repeatsCommand context.parsed ack = true → record.status = .pending →
      TickIf T cfg b
        ((b.emit (.deviceAcked deviceId type ack (some record.status))).bufferEarlyAck cfg
          type ack ⟨deviceId, payload, now⟩)
  | timeout {b : RuntimeBundle} {commandId : String} {context : RequestContext}
      {record : CommandRecord} {now : TimePoint} :
      b.activeCommands.lookup commandId = some context → context.record = some record →
      context.deadline ≤ now → commandId ∉ b.recoveryStarted → T.due b commandId now →
      TickIf T cfg b (b.submitTimeout cfg commandId context record now)
  | republish {b : RuntimeBundle} {answers : Answers} {commandId deviceId : String}
      {context : RequestContext} {record : CommandRecord} {now : TimePoint} :
      b.activeCommands.lookup commandId = some context → context.record = some record →
      context.commandType = .config → commandId ∉ b.recoveryStarted →
      record.targetDeviceId = some deviceId → b.devices.isOnline deviceId = true →
      TickIf T cfg b (publishRecord cfg answers
        { b with recoveryStarted := insert commandId b.recoveryStarted } context now)
  | complete {b : RuntimeBundle} {completion : PublishCompletion} {context : RequestContext}
      {now : TimePoint} :
      b.publications.lookup completion.token = some context →
      TickIf T cfg b (b.handleCompletion cfg completion now)
  | retry {b : RuntimeBundle} {key : String} {deferred : DeferredTransition} :
      b.deferredTransitions.lookup key = some deferred →
      TickIf T cfg b (b.retryDeferred cfg key deferred)

/-- Any tick is one without conditions. -/
lemma TickIf.tick {T : Limits} {cfg : CommandServiceConfig} {b b' : RuntimeBundle}
    (h : TickIf T cfg b b') : TickIf .any cfg b b' := by
  cases h with
  | quiet h₁ => exact .quiet h₁
  | worker h₁ _ => exact .worker h₁ trivial
  | mqtt => exact .mqtt
  | device h₁ => exact .device h₁
  | find h₁ h₂ h₃ h₄ h₅ => exact .find h₁ h₂ h₃ h₄ h₅
  | cleanup h₁ => exact .cleanup h₁
  | consumed h₁ h₂ => exact .consumed h₁ h₂
  | create h₁ h₂ h₃ h₄ h₅ h₆ => exact .create h₁ h₂ h₃ h₄ h₅ h₆
  | conflict h₁ h₂ h₃ h₄ h₅ => exact .conflict h₁ h₂ h₃ h₄ h₅
  | activate h₁ h₂ h₃ h₄ h₅ => exact .activate h₁ h₂ h₃ h₄ h₅
  | refresh context now h₁ h₂ h₃ h₄ h₅ h₆ h₇ h₈ h₉ h₁₀ =>
      exact .refresh context now h₁ h₂ h₃ h₄ h₅ h₆ h₇ h₈ h₉ h₁₀
  | settle h₁ h₂ h₃ h₄ h₅ h₆ => exact .settle h₁ h₂ h₃ h₄ h₅ h₆
  | converge h₁ h₂ h₃ h₄ h₅ h₆ h₇ h₈ h₉ h₁₀ => exact .converge h₁ h₂ h₃ h₄ h₅ h₆ h₇ h₈ h₉ h₁₀
  | finish context now h₁ h₂ h₃ h₄ h₅ h₆ h₇ => exact .finish context now h₁ h₂ h₃ h₄ h₅ h₆ h₇
  | finished h₁ h₂ h₃ h₄ h₅ h₆ => exact .finished h₁ h₂ h₃ h₄ h₅ h₆
  | deviceAck h₁ h₂ h₃ h₄ h₅ h₆ h₇ _ => exact .deviceAck h₁ h₂ h₃ h₄ h₅ h₆ h₇ trivial
  | buffer h₁ h₂ h₃ h₄ h₅ h₆ h₇ => exact .buffer h₁ h₂ h₃ h₄ h₅ h₆ h₇
  | timeout h₁ h₂ h₃ h₄ _ => exact .timeout h₁ h₂ h₃ h₄ trivial
  | republish h₁ h₂ h₃ h₄ h₅ h₆ => exact .republish h₁ h₂ h₃ h₄ h₅ h₆
  | complete h₁ => exact .complete h₁
  | retry h₁ => exact .retry h₁

/-- The smallest changes, whatever the surroundings. -/
abbrev Tick (cfg : CommandServiceConfig) : RuntimeBundle → RuntimeBundle → Prop :=
  TickIf .any cfg

/-- A sequence of ticks. -/
def Ticks (cfg : CommandServiceConfig) : RuntimeBundle → RuntimeBundle → Prop :=
  Relation.ReflTransGen (Tick cfg)

/-- A sequence of ticks in which no result is taken from the queue. -/
def Idle (T : Limits) (cfg : CommandServiceConfig) :
    RuntimeBundle → RuntimeBundle → Prop :=
  Relation.ReflTransGen fun b b' =>
    TickIf T cfg b b' ∧ b.databaseResults.length ≤ b'.databaseResults.length

/-- One tick, which may take a result, and idle ones after it. -/
def Turn (T : Limits) (cfg : CommandServiceConfig)
    (b b' : RuntimeBundle) : Prop :=
  ∃ m, TickIf T cfg b m ∧ Idle T cfg m b'

/-! ### The turns of the worker -/

/-- The turns of the worker in a row, each with the state it starts from. -/
def RuntimeBundle.turnsOf : RuntimeBundle → List WorkerEvent → List (RuntimeBundle × WorkerEvent)
  | _, [] => []
  | b, event :: events => (b, event) :: turnsOf (b.workerTurn event) events

/-- The turns of the worker between the active commands of a scan. -/
def RuntimeBundle.scanTurns (cfg : CommandServiceConfig) (answers : Answers) (now : TimePoint) :
    RuntimeBundle → List String → List (RuntimeBundle × WorkerEvent)
  | _, [] => []
  | b, id :: ids =>
      b.turnsOf (answers.interleaved (some id)) ++
        scanTurns cfg answers now
          (((answers.interleaved (some id)).foldl workerTurn b).visit cfg answers id now) ids

/-- The turns of the worker during `ProcessTimeoutsAndRecovery`. -/
def RuntimeBundle.recoveryTurns (cfg : CommandServiceConfig) (answers : Answers)
    (b : RuntimeBundle) (now : TimePoint) : List (RuntimeBundle × WorkerEvent) :=
  let scanned := ((answers.interleaved none).foldl workerTurn b).submitCleanup cfg now
  b.turnsOf (answers.interleaved none) ++
    scanned.scanTurns cfg answers now (answers.order scanned.activeCommands.keys)

/-- The commands that a scan comes to, each with the state in which it does. -/
def RuntimeBundle.scanVisits (cfg : CommandServiceConfig) (answers : Answers) (now : TimePoint) :
    RuntimeBundle → List String → List (RuntimeBundle × String)
  | _, [] => []
  | b, id :: ids =>
      ((answers.interleaved (some id)).foldl workerTurn b, id) ::
        scanVisits cfg answers now
          (((answers.interleaved (some id)).foldl workerTurn b).visit cfg answers id now) ids

/-- The visits of `ProcessTimeoutsAndRecovery`. -/
def RuntimeBundle.recoveryVisits (cfg : CommandServiceConfig) (answers : Answers)
    (b : RuntimeBundle) (now : TimePoint) : List (RuntimeBundle × String) :=
  let scanned := ((answers.interleaved none).foldl workerTurn b).submitCleanup cfg now
  scanned.scanVisits cfg answers now (answers.order scanned.activeCommands.keys)

/-- The turns of the worker during an input. -/
def Input.workerTurns (cfg : CommandServiceConfig) (b : RuntimeBundle) :
    Input → List (RuntimeBundle × WorkerEvent)
  | .worker event => [(b, event)]
  | .finishReady answers now =>
      (b.retryDeferredTransitions cfg answers).recoveryTurns cfg answers now
  | .updateDevice answers devices record published now =>
      if published && record.status = .online then
        RuntimeBundle.recoveryTurns cfg answers
          { b with
            devices := devices
            recoveryStarted := b.recoveryStarted.filter (· ∉ b.commandsFor record.deviceId)
            log := .deviceUpdated record.deviceId (b.devices.isOnline record.deviceId)
              (devices.isOnline record.deviceId) true :: b.log } now
      else []
  | _ => []

/-- The visits of an input, with their time. -/
def Input.visits (cfg : CommandServiceConfig) (b : RuntimeBundle) :
    Input → List (RuntimeBundle × String × TimePoint)
  | .finishReady answers now =>
      ((b.retryDeferredTransitions cfg answers).recoveryVisits cfg answers now).map
        fun p => (p.1, p.2, now)
  | .updateDevice answers devices record published now =>
      if published && record.status = .online then
        (RuntimeBundle.recoveryVisits cfg answers
          { b with
            devices := devices
            recoveryStarted := b.recoveryStarted.filter (· ∉ b.commandsFor record.deviceId)
            log := .deviceUpdated record.deviceId (b.devices.isOnline record.deviceId)
              (devices.isOnline record.deviceId) true :: b.log } now).map fun p => (p.1, p.2, now)
      else []
  | _ => []

/-- The condition on the ACK that was buffered before the dispatch and is applied
now that the dispatch is stored: no operation but that of the dispatch is taken
from the map before. -/
def Limits.Early (T : Limits) (cfg : CommandServiceConfig) (b : RuntimeBundle) : Prop :=
  ∀ operationId operation record rest early type ack m,
    b.databaseResults = ⟨operationId, .ok (.record record)⟩ :: rest →
    b.operations.lookup operationId = some operation → operation.kind = .transition →
    record.status = .dispatched → b.earlyDeviceAcks.lookup record.commandId = some early →
    parseDeviceAck type (cfg.parseJson early.payload) = some ack →
    m.operations = b.operations.erase operationId →
    m.deferredTransitions = b.deferredTransitions →
    T.ack m early.deviceId type ack early.receivedAt

/-- The topic is that of the ACKs of a device for commands of the type. -/
def IsDeviceAckTopic (cfg : CommandServiceConfig) (topic : String) (type : CommandType)
    (deviceId : String) : Prop :=
  (type = .config ∧ parseDeviceConfigAckTopic cfg.topicNamespace topic = .ok deviceId) ∨
    (type = .control ∧ (∃ error,
      parseDeviceConfigAckTopic cfg.topicNamespace topic = .error error) ∧
      parseDeviceControlAckTopic cfg.topicNamespace topic = .ok deviceId)

/-- The condition on the ACKs that an input applies. -/
def Input.Heard (T : Limits) (cfg : CommandServiceConfig) (b : RuntimeBundle) : Input → Prop
  | .processNext _ now => T.Early cfg b ∧ ∀ message rest deviceId type ack,
      b.databaseResults = [] → b.publishCompletions = [] → b.messages = message :: rest →
      IsDeviceAckTopic cfg message.topic type deviceId →
      parseDeviceAck type (cfg.parseJson message.payload) = some ack →
      T.ack { b with messages := rest } deviceId type ack now
  | _ => True

/-- The input meets the conditions. -/
structure Input.Meets (T : Limits) (cfg : CommandServiceConfig) (b : RuntimeBundle)
    (input : Input) : Prop where
  turns : ∀ p ∈ input.workerTurns cfg b, T.turn p.1 p.2
  visits : ∀ p ∈ input.visits cfg b, T.due p.1 p.2.1 p.2.2
  heard : input.Heard T cfg b

lemma Input.meets_onTurns {turn : RuntimeBundle → WorkerEvent → Prop} {cfg : CommandServiceConfig}
    {b : RuntimeBundle} {input : Input} (h : ∀ p ∈ input.workerTurns cfg b, turn p.1 p.2) :
    input.Meets (.onTurns turn) cfg b := by
  refine ⟨h, fun _ _ => trivial, ?_⟩
  cases input with
  | processNext answers now =>
      exact ⟨fun _ _ _ _ _ _ _ _ _ _ _ _ _ _ _ _ => trivial,
        fun _ _ _ _ _ _ _ _ _ _ => trivial⟩
  | _ => trivial

lemma Input.meets_any (cfg : CommandServiceConfig) (b : RuntimeBundle) (input : Input) :
    input.Meets .any cfg b :=
  meets_onTurns fun _ _ => trivial

/-! ### Inputs that take no result -/

namespace Idle

variable {T : Limits} {cfg : CommandServiceConfig}
  {answers : Answers} {b b' : RuntimeBundle}

lemma refl (b : RuntimeBundle) : Idle T cfg b b := Relation.ReflTransGen.refl

lemma single (h : TickIf T cfg b b') (hresults : b'.databaseResults = b.databaseResults) :
    Idle T cfg b b' := Relation.ReflTransGen.single ⟨h, by rw [hresults]⟩

lemma quiet (h : SameCore cfg b b') : Idle T cfg b b' := single (.quiet h) h.databaseResults

lemma trans {c : RuntimeBundle} (h : Idle T cfg b b') (h' : Idle T cfg b' c) : Idle T cfg b c :=
  Relation.ReflTransGen.trans h h'

/-- A tick without results, and quiet changes after it. -/
lemma then_quiet {c : RuntimeBundle} (h : TickIf T cfg b b')
    (hresults : b'.databaseResults = b.databaseResults) (h' : SameCore cfg b' c) : Idle T cfg b c :=
  (single h hresults).trans (quiet h')

lemma ticks (h : Idle T cfg b b') : Ticks cfg b b' := by
  induction h with
  | refl => exact Relation.ReflTransGen.refl
  | tail _ hlast ih => exact Relation.ReflTransGen.tail ih hlast.1.tick

/-- An ACK that belongs to no command is only logged. -/
lemma informUnrelatedAck (b : RuntimeBundle) (deviceId : String) (type : CommandType)
    (ack : DeviceAck) : SameCore cfg b (b.informUnrelatedAck deviceId type ack) := by
  rw [RuntimeBundle.informUnrelatedAck]
  split
  · exact .inform b _
  · split
    · exact .inform b _
    · exact .inform b _

/-- A device ACK is buffered, or asks for a transition. -/
lemma handleDeviceAck (b : RuntimeBundle) (deviceId payload : String) (type : CommandType)
    (now : TimePoint) (hT : ∀ ack, parseDeviceAck type (cfg.parseJson payload) = some ack →
      T.ack b deviceId type ack now) :
      Idle T cfg b (b.handleDeviceAck cfg deviceId payload type now) := by
  rw [RuntimeBundle.handleDeviceAck]
  split
  · exact quiet (.diagnose b _)
  · next ack hack =>
      split
      -- only an ACK of the right device for an active command comes further
      · exact quiet ((SameCore.emit b (by simp [Event.IsQuiet])).trans
          (informUnrelatedAck _ _ _ _))
      · next context hcontext =>
          split
          · exact quiet (informUnrelatedAck b _ _ _)
          · next record hrecord =>
              split_ifs with hother hrepeat hpending hlate
              · exact quiet (informUnrelatedAck b _ _ _)
              · exact quiet (.diagnose b _)
              · push Not at hother
                exact single (.buffer hack hcontext hrecord hother.1 hother.2
                  (by simpa using hrepeat) hpending) (databaseResults_bufferEarlyAck _ _ _ _ _)
              · refine quiet (.emit b fun status hstatus => ?_)
                cases hstatus
                cases hs : record.status <;> simp_all [CommandStatus.isTerminal]
              · push Not at hother
                refine single (.deviceAck hack hcontext hrecord hother.1 hother.2
                  (by simpa using hrepeat) ?_ (hT ack hack))
                  (databaseResults_submitTransitionOrDefer _ _ _ _)
                by_contra hno
                push Not at hno
                exact hlate hno

/-- A request with a request number, after the checks on its source. -/
lemma submitFind {sourceId requestId : String} {type : CommandType} {json : Option Json}
    {source : CommandSource} (receivedAt now : TimePoint)
    (hrequest : (parseSourceRequest type json source.kind).requestId = some requestId) :
    Idle T cfg b (b.submitFind cfg source (parseSourceRequest type json source.kind) sourceId
      requestId type receivedAt now) := by
  have hvalid := (parseSourceRequest_reported type json source.kind).requestId
  rw [hrequest] at hvalid
  have hrefuse : ∀ error : ProtocolError, error.Reported →
      Idle T cfg b (b.reject cfg none sourceId (some requestId) error now type) :=
    fun error herror => quiet (.reject b sourceId now type hvalid herror)
  rw [RuntimeBundle.submitFind]
  dsimp only
  split
  · exact hrefuse _ (by decide +kernel)
  · split
    · exact hrefuse _ (by decide +kernel)
    · split
      · exact hrefuse _ (by decide +kernel)
      · next hroom =>
        set context : RequestContext :=
          { sourceId := sourceId
            source := some source
            parsed := parseSourceRequest type json source.kind
            commandType := type
            receivedAt := receivedAt
            deadline := receivedAt +
              (if type = .control then cfg.controlTimeout else cfg.configTimeout)
            target := none
            record := none
            deviceAckBusinessStatus := none }
        -- a search that the worker refuses is answered by a rejection
        have htick : TickIf T cfg b (b.submit cfg .find context
            (.findCommand context.sourceId requestId)).2 :=
          @TickIf.find T cfg b context requestId source json rfl rfl rfl hrequest (not_le.mp hroom)
        have hresults := databaseResults_submit cfg b .find context
          (.findCommand sourceId requestId)
        split
        · next b' heq =>
            rw [heq] at htick hresults
            exact single htick hresults
        · next b' heq =>
            rw [heq] at htick hresults
            exact then_quiet htick hresults
              (.reject b' sourceId now type hvalid (by decide +kernel))

/-- A request of a source. -/
lemma handleRequest (b : RuntimeBundle) (sourceId : String) (type : CommandType)
    (message : InboundMessage) (now : TimePoint) :
    Idle T cfg b (b.handleRequest cfg sourceId type message now) := by
  have hrefuse : ∀ error : ProtocolError, error.Reported →
      Idle T cfg b (b.reject cfg none sourceId none error now type) :=
    fun error herror => quiet (.reject b sourceId now type nofun herror)
  rw [RuntimeBundle.handleRequest]
  dsimp only
  split
  · exact hrefuse _ (by decide +kernel)
  · next source hsource =>
      split
      · exact hrefuse _ (by decide +kernel)
      · split
        · exact hrefuse _ (by decide +kernel)
        · split
          · next rejected _ hrejected =>
              exact hrefuse _ ((parseSourceRequest_reported type _ source.kind).error rejected
                hrejected)
          · exact refl b
          · next requestId hrequest => exact submitFind message.receivedAt now hrequest

/-- A message of any kind takes no result. -/
lemma handleMessage (b : RuntimeBundle) (message : InboundMessage) (now : TimePoint)
    (hT : ∀ deviceId type ack, IsDeviceAckTopic cfg message.topic type deviceId →
      parseDeviceAck type (cfg.parseJson message.payload) = some ack →
      T.ack b deviceId type ack now) : Idle T cfg b (b.handleMessage cfg message now) := by
  rw [RuntimeBundle.handleMessage]
  split
  · next deviceId htopic =>
      exact handleDeviceAck _ _ _ _ _ fun ack => hT deviceId .config ack (.inl ⟨rfl, htopic⟩)
  · next error herror =>
    split
    · next deviceId htopic =>
        exact handleDeviceAck _ _ _ _ _ fun ack =>
          hT deviceId .control ack (.inr ⟨rfl, ⟨error, herror⟩, htopic⟩)
    · split
      · exact handleRequest _ _ _ _ _
      · split
        · exact handleRequest _ _ _ _ _
        · exact refl b

lemma handleCompletion (b : RuntimeBundle) (completion : PublishCompletion) (now : TimePoint) :
    Idle T cfg b (b.handleCompletion cfg completion now) := by
  cases hfound : b.publications.lookup completion.token with
  | none =>
      rw [RuntimeBundle.handleCompletion]
      rw [hfound]
      exact refl b
  | some context => exact single (.complete hfound) (databaseResults_handleCompletion _ _ _ _)

/-! ### The scan -/

/-- The turns that the worker makes meanwhile are ticks. -/
lemma foldl_workerTurn (events : List WorkerEvent) (h : ∀ event ∈ events, event.Admissible)
    (b : RuntimeBundle) (hT : ∀ p ∈ b.turnsOf events, T.turn p.1 p.2) :
    Idle T cfg b (events.foldl workerTurn b) := by
  induction events generalizing b with
  | nil => exact refl b
  | cons event events ih =>
      have hevent := h event (by simp)
      have hone : Idle T cfg b (b.workerTurn event) :=
        Relation.ReflTransGen.single
          ⟨.worker hevent (hT (b, event) (by simp [turnsOf])),
            length_databaseResults_workerTurn hevent⟩
      exact hone.trans (ih (fun e he => h e (by simp [he])) _
        fun p hp => hT p (by simp [turnsOf, hp]))

/-- Each deferred transition is tried once more. -/
lemma retryDeferredTransitions (b : RuntimeBundle) :
    Idle T cfg b (b.retryDeferredTransitions cfg answers) := by
  rw [RuntimeBundle.retryDeferredTransitions]
  split
  · exact refl b
  · split
    · exact refl b
    · split
      · exact refl b
      · next deferred hdeferred =>
          exact single (.retry hdeferred) (databaseResults_retryDeferred _ _ _ _)

lemma submitCleanup (b : RuntimeBundle) (now : TimePoint) :
    Idle T cfg b (b.submitCleanup cfg now) := by
  rw [RuntimeBundle.submitCleanup]
  split
  · exact quiet { SameCore.refl b with }
  · split
    · exact refl b
    · dsimp only
      split
      · exact then_quiet (.cleanup rfl) (databaseResults_submit _ _ _ _ _) { SameCore.refl _ with }
      · exact quiet { SameCore.refl b with }

/-- The scan times a command out, or sends it again. -/
lemma visit (b : RuntimeBundle) (commandId : String) (now : TimePoint)
    (hT : T.due b commandId now) : Idle T cfg b (b.visit cfg answers commandId now) := by
  rw [RuntimeBundle.visit]
  split
  · exact refl b
  · next context hcontext =>
      split
      · exact refl b
      · next record hrecord =>
          split_ifs with hdeadline hstarted hskip
          · exact refl b
          · exact single (.timeout hcontext hrecord hdeadline hstarted hT)
              (databaseResults_submitTransitionOrDefer _ _ _ _)
          · exact refl b
          · simp only [Bool.or_eq_true, decide_eq_true_eq, Bool.not_eq_true', not_or] at hskip
            split
            · exact refl b
            · next deviceId hdevice =>
                split
                · next honline =>
                    refine single (.republish hcontext hrecord ?_ hskip.2 hdevice honline)
                      (databaseResults_publishRecord _ _ _ _ _)
                    cases htype : context.commandType with
                    | config => rfl
                    | control => exact absurd htype hskip.1.1
                · exact refl b

/-- The scan visits the commands one after the other, with turns of the worker between them. -/
lemma scan {now : TimePoint}
    (h : ∀ slot, ∀ event ∈ answers.interleaved slot, event.Admissible) (ids : List String)
    (b : RuntimeBundle) (hT : ∀ p ∈ b.scanTurns cfg answers now ids, T.turn p.1 p.2)
    (hV : ∀ p ∈ b.scanVisits cfg answers now ids, T.due p.1 p.2 now) :
    Idle T cfg b (ids.foldl (fun b id =>
      ((answers.interleaved (some id)).foldl workerTurn b).visit cfg answers id now) b) := by
  induction ids generalizing b with
  | nil => exact refl b
  | cons id ids ih =>
      rw [List.foldl_cons]
      have hturns := @foldl_workerTurn T cfg _ (h (some id)) b
        fun p hp => hT p (List.mem_append_left _ hp)
      exact (hturns.trans (visit _ id now (hV _ List.mem_cons_self))).trans
        (ih _ (fun p hp => hT p (List.mem_append_right _ hp))
          fun p hp => hV p (List.mem_cons_of_mem _ hp))

lemma processTimeoutsAndRecovery {now : TimePoint}
    (h : ∀ slot, ∀ event ∈ answers.interleaved slot, event.Admissible) (b : RuntimeBundle)
    (hT : ∀ p ∈ b.recoveryTurns cfg answers now, T.turn p.1 p.2)
    (hV : ∀ p ∈ b.recoveryVisits cfg answers now, T.due p.1 p.2 now) :
    Idle T cfg b (b.processTimeoutsAndRecovery cfg answers now) := by
  have hturns := @foldl_workerTurn T cfg _ (h none) b
    fun p hp => hT p (List.mem_append_left _ hp)
  exact (hturns.trans (submitCleanup _ now)).trans
    (scan h _ _ (fun p hp => hT p (List.mem_append_right _ hp)) hV)

lemma finishReady {now : TimePoint}
    (h : ∀ slot, ∀ event ∈ answers.interleaved slot, event.Admissible) (b : RuntimeBundle)
    (hT : (Input.finishReady answers now).Meets T cfg b) :
    Idle T cfg b (b.finishReady cfg answers now) :=
  (retryDeferredTransitions b).trans (processTimeoutsAndRecovery h _ hT.turns
    fun p hp => hT.visits _ (List.mem_map.mpr ⟨p, hp, rfl⟩))

lemma updateDevice {devices : DeviceRegistry} {record : DeviceRecord} {published : Bool}
    {now : TimePoint} (h : ∀ slot, ∀ event ∈ answers.interleaved slot, event.Admissible)
    (hfind : devices.find record.deviceId = some record) (b : RuntimeBundle)
    (hT : (Input.updateDevice answers devices record published now).Meets T cfg b) :
    Idle T cfg b (b.updateDevice cfg answers devices record published now) := by
  obtain ⟨hT, hV, _⟩ := hT
  unfold RuntimeBundle.updateDevice
  dsimp only
  split
  · next hpublished =>
      simp only [Input.workerTurns, hpublished, if_true] at hT
      simp only [Input.visits, hpublished, if_true] at hV
      rw [hpublished]
      simp only [Bool.and_eq_true, decide_eq_true_eq] at hpublished
      exact (single (@TickIf.device T cfg b devices record true fun _ => ⟨hpublished.2, hfind⟩)
        rfl).trans (processTimeoutsAndRecovery h _ hT
          fun p hp => hV _ (List.mem_map.mpr ⟨p, hp, rfl⟩))
  · next hpublished =>
      rw [Bool.eq_false_iff.mpr hpublished]
      exact single (@TickIf.device T cfg b devices record false (by simp)) rfl

end Idle

/-! ### Results -/

namespace Turn

variable {T : Limits} {cfg : CommandServiceConfig}
  {answers : Answers} {b b' : RuntimeBundle}

lemma single (h : TickIf T cfg b b') : Turn T cfg b b' := ⟨b', h, .refl b'⟩

/-- A tick, and quiet changes after it. -/
lemma then_quiet {c : RuntimeBundle} (h : TickIf T cfg b b') (h' : SameCore cfg b' c) :
    Turn T cfg b c :=
  ⟨b', h, .quiet h'⟩

lemma ticks (h : Turn T cfg b b') : Ticks cfg b b' := by
  obtain ⟨m, htick, hidle⟩ := h
  exact Relation.ReflTransGen.head htick.tick hidle.ticks

/-- A fold that chooses one of its two arguments at each step ends with one of the list. -/
lemma foldl_choice_mem {α : Type} {f : α → α → α} (hf : ∀ a b, f a b = a ∨ f a b = b) :
    ∀ (rest : List α) (first : α), rest.foldl f first ∈ first :: rest := by
  intro rest
  induction rest with
  | nil => exact fun first => List.mem_singleton_self first
  | cons current rest ih =>
      intro first
      rw [List.foldl_cons]
      rcases List.mem_cons.mp (ih (f first current)) with hnext | hrest
      · rw [hnext]
        rcases hf first current with hfirst | hcurrent
        · rw [hfirst]
          exact List.mem_cons_self
        · rw [hcurrent]
          exact List.mem_cons_of_mem _ List.mem_cons_self
      · exact List.mem_cons_of_mem _ (List.mem_cons_of_mem _ hrest)

/-- The oldest of the remembered commands is one of them. -/
lemma oldestCompleted_mem {completed : Map String CompletedCommand} {ids : List String}
    {oldest : String} (h : oldestCompleted completed ids = some oldest) : oldest ∈ ids := by
  cases ids with
  | nil => cases h
  | cons first rest =>
      cases h
      refine foldl_choice_mem (fun oldest current => ?_) rest first
      split
      · split
        · exact .inr rfl
        · exact .inl rfl
      · exact .inl rfl

/-- The loop of `RememberCompletedCommand` goes on until the bound is met. -/
lemma length_trimCompleted (cfg : CommandServiceConfig) (answers : Answers) (fuel : ℕ)
    (completed : Map String CompletedCommand)
    (h : completed.keys.length ≤ fuel + cfg.maxInflightCommands) :
    (trimCompleted cfg answers fuel completed).keys.length ≤ cfg.maxInflightCommands := by
  induction fuel generalizing completed with
  | zero => simpa [trimCompleted] using h
  | succ fuel ih =>
      rw [trimCompleted]
      split
      · next hfits => exact hfits
      · next hfull =>
          have hperm := answers.order_perm completed.keys
          split
          · next hnone =>
              have hnil : answers.order completed.keys = [] := by
                cases horder : answers.order completed.keys with
                | nil => rfl
                | cons first rest => rw [horder] at hnone; cases hnone
              rw [hnil] at hperm
              rw [← hperm.length_eq] at hfull
              exact absurd (Nat.zero_le _) hfull
          · next oldest holdest =>
              have hmem : oldest ∈ completed.keys := hperm.mem_iff.mp (oldestCompleted_mem holdest)
              refine ih _ ?_
              rw [Map.length_keys_erase, if_pos hmem]
              omega

/-- The loop of `RememberCompletedCommand` adds nothing. -/
lemma keys_trimCompleted (cfg : CommandServiceConfig) (answers : Answers) (fuel : ℕ)
    (completed : Map String CompletedCommand) :
    (trimCompleted cfg answers fuel completed).keys ⊆ completed.keys := by
  induction fuel generalizing completed with
  | zero => exact List.Subset.refl _
  | succ fuel ih =>
      rw [trimCompleted]
      split
      · exact List.Subset.refl _
      · split
        · exact List.Subset.refl _
        · next oldest _ =>
            intro c hc
            obtain ⟨command, hcommand⟩ := Map.mem_keys_iff.mp (ih _ hc)
            exact Map.mem_keys_iff.mpr ⟨command, (Map.lookup_erase_some.mp hcommand).2⟩

/-- Remembering a finished command changes `completed_commands_` alone, and
leaves it as it has to be. -/
lemma rememberCompletedCommand_eq (cfg : CommandServiceConfig) (answers : Answers)
    (b : RuntimeBundle) (context : RequestContext) (now : TimePoint) :
    ∃ completed, (Remembered cfg b.completedCommands → Remembered cfg completed) ∧
      b.rememberCompletedCommand cfg answers context now =
        { b with completedCommands := completed } := by
  rw [RuntimeBundle.rememberCompletedCommand]
  split
  · exact ⟨b.completedCommands, id, rfl⟩
  · split
    · exact ⟨b.completedCommands, id, rfl⟩
    · refine ⟨_, fun h => ⟨length_trimCompleted cfg answers _ _ (Nat.le_add_right _ _),
        fun c hc => ?_⟩, rfl⟩
      obtain ⟨command, hcommand⟩ := Map.mem_keys_iff.mp (keys_trimCompleted cfg answers _ _ hc)
      rcases Map.lookup_insert_some.mp hcommand with ⟨hmoved, _⟩ | ⟨_, hold⟩
      · exact hmoved
      · exact h.moved c (Map.mem_keys_iff.mpr ⟨command, hold⟩)

/-- The notes about a stored transition are quiet, and the context keeps all but
the mark of the passed ACK. -/
lemma informPersisted_eq (b : RuntimeBundle) (context : RequestContext) (dispatched : Bool)
    (status : CommandStatus) : ∃ events businessStatus, (∀ e ∈ events, e.IsQuiet) ∧
      informPersisted b context dispatched status =
        ({ b with log := events ++ b.log },
          { context with deviceAckBusinessStatus := businessStatus }) := by
  rw [informPersisted]
  split
  · exact ⟨[], context.deviceAckBusinessStatus, by simp, rfl⟩
  · next target htarget =>
      obtain ⟨es, hes, hb⟩ : ∃ es : List Event, (∀ e ∈ es, e.IsQuiet) ∧
          (if dispatched = true then
              b.inform ("收到来自 " ++ context.sourceId ++ " 的" ++
                describeCommand context.parsed ++ "，已路由至设备 " ++ describeTarget target)
            else b) = { b with log := es ++ b.log } := by
        split
        · exact ⟨[.informed _], by simp [Event.IsQuiet], rfl⟩
        · exact ⟨[], by simp, rfl⟩
      dsimp only
      rw [hb]
      split
      · next hstatus => exact ⟨es, none, hes, by rw [← hstatus]⟩
      · next businessStatus hstatus =>
          split
          · exact ⟨.informed _ :: es, none, by simpa [Event.IsQuiet] using hes, rfl⟩
          · exact ⟨es, some businessStatus, hes, by rw [← hstatus]⟩

section Results

variable {operationId : ℕ} {operation : Operation} {rest : List CommandDatabaseResult}
  {record : CommandRecord} {now : TimePoint}

/-- A stored transition, or an insertion that is already terminal. -/
lemma finishStored (hhead : b.databaseResults = ⟨operationId, .ok (.record record)⟩ :: rest)
    (hop : b.operations.lookup operationId = some operation)
    (hkind : operation.kind = .transition ∨ (operation.kind = .insert ∧
      record.status.isTerminal = true ∧
      ∀ own, operation.context.record = some own → own.commandId = record.commandId))
    (hT : T.Early cfg b) :
    Turn T cfg b ((b.taken operationId rest).finishStored cfg answers operation.kind
      operation.context record now) := by
  rw [RuntimeBundle.finishStored]
  dsimp only [publishAck]
  obtain ⟨es, businessStatus, hes, heq⟩ := informPersisted_eq
    ((b.taken operationId rest).emit (.acked (sourceAckTopic cfg.topicNamespace
        operation.context.sourceId operation.context.commandType)
      (buildSourceAck record operation.context.target now) .lifecycle))
    { operation.context with record := some record }
    (operation.kind = .transition && operation.context.record.map (·.status) = some .dispatched &&
      record.status = .dispatched) record.status
  rw [heq]
  dsimp only
  -- the log lines before the ACK are quiet; the ACK and the maps are the tick
  by_cases hterm : record.status.isTerminal = true
  · rw [if_pos hterm]
    refine then_quiet (.finish { operation.context with
      record := some record, deviceAckBusinessStatus := businessStatus } now hhead hop ?_ hterm
      rfl rfl rfl) ?_
    · rcases hkind with hk | ⟨hk, -, hown⟩
      · exact .inl ⟨hk, rfl⟩
      · exact .inr (.inl ⟨hk, rfl, hown⟩)
    · rw [RuntimeBundle.retire]
      obtain ⟨completed, hbound, hc⟩ := rememberCompletedCommand_eq cfg answers
        { (b.taken operationId rest).emit (.acked (sourceAckTopic cfg.topicNamespace
            operation.context.sourceId operation.context.commandType)
            (buildSourceAck record operation.context.target now) .lifecycle) with
          log := es ++ ((b.taken operationId rest).emit (.acked (sourceAckTopic cfg.topicNamespace
            operation.context.sourceId operation.context.commandType)
            (buildSourceAck record operation.context.target now) .lifecycle)).log }
        { operation.context with
          record := some record, deviceAckBusinessStatus := businessStatus } now
      rw [hc]
      exact ⟨rfl, rfl, rfl, fun _ => rfl, fun _ => rfl, fun _ => rfl, fun _ => rfl, fun _ => rfl,
        Finset.Subset.refl _, rfl, rfl, rfl, rfl, id, hbound, rfl, es, rfl, hes⟩
  · rw [if_neg hterm]
    have hk : operation.kind = .transition := hkind.resolve_right fun h => hterm h.2.1
    have htick := @TickIf.refresh T cfg b operationId operation rest record { operation.context with
      record := some record, deviceAckBusinessStatus := businessStatus } now hhead hop hk
      (by simpa using hterm) rfl rfl rfl rfl rfl rfl
    by_cases hdis : record.status = .dispatched
    · rw [if_pos hdis]
      rw [if_pos hdis] at htick
      split
      -- the buffered ACK is taken out and handled as if it came now
      · next early hearly =>
        refine ⟨_, htick, (Idle.quiet ?_).trans (Idle.handleDeviceAck _ _ _ _ _ fun ack hack =>
          hT operationId operation record rest early _ ack _ hhead hop hk hdis hearly hack rfl rfl)⟩
        exact ⟨rfl, rfl, rfl, fun _ => rfl, fun _ => rfl, fun _ => rfl, fun _ => rfl, fun _ => rfl,
          Finset.Subset.refl _, rfl, rfl, rfl, rfl, id, id, rfl, es, rfl, hes⟩
      · next hearly =>
          refine then_quiet htick ⟨rfl, rfl, rfl, fun _ => rfl, fun _ => rfl, fun _ => rfl,
            fun _ => rfl, fun c => ?_, Finset.Subset.refl _, rfl, rfl, rfl, rfl, id, id, rfl, es,
            rfl, hes⟩
          change b.earlyDeviceAcks.lookup c =
            (b.earlyDeviceAcks.erase record.commandId).lookup c
          rw [Map.lookup_erase_ite]
          split
          · next hc => rw [hc]; exact hearly
          · rfl
    · rw [if_neg hdis]
      rw [if_neg hdis] at htick
      exact then_quiet htick ⟨rfl, rfl, rfl, fun _ => rfl, fun _ => rfl, fun _ => rfl, fun _ => rfl,
        fun _ => rfl, Finset.Subset.refl _, rfl, rfl, rfl, rfl, id, id, rfl, es, rfl, hes⟩

/-- The answer to a convergence lookup. -/
lemma convergeAfterConflict
    (hhead : b.databaseResults = ⟨operationId, .ok (.found (some record))⟩ :: rest)
    (hop : b.operations.lookup operationId = some operation)
    (hkind : operation.kind = .findByIdForConvergence) :
    Turn T cfg b ((b.taken operationId rest).convergeAfterConflict cfg answers operation.context
      record now) := by
  rw [RuntimeBundle.convergeAfterConflict]
  split
  · next hnone =>
      refine single (.consumed hhead (.ignored hop rfl (.inr (.inr (.inl ⟨hkind, .inr hnone⟩)))))
  · next desired hdesired =>
      dsimp only
      split_ifs with hterm hactive hsame hcan
      · -- terminal, and the service still waits for it
        refine then_quiet (.finish { operation.context with
          record := some record, target := b.targetFor record } now hhead hop
          (.inr (.inr ⟨hkind, rfl, by simp [hdesired], hactive⟩)) hterm rfl rfl rfl) ?_
        rw [RuntimeBundle.retire]
        obtain ⟨completed, hbound, hc⟩ := rememberCompletedCommand_eq cfg answers
          (b.taken operationId rest)
          { operation.context with record := some record, target := b.targetFor record } now
        exact hc ▸ ⟨rfl, rfl, rfl, fun _ => rfl, fun _ => rfl, fun _ => rfl, fun _ => rfl,
          fun _ => rfl, Finset.Subset.refl _, rfl, rfl, rfl, rfl, id, hbound, rfl, [], rfl, by simp⟩
      · -- terminal, and already given up
        refine then_quiet (.finished hhead hop hkind (by simp [hdesired])
          (Option.not_isSome_iff_eq_none.mp hactive) hterm) ?_
        rw [RuntimeBundle.retire]
        obtain ⟨completed, hbound, hc⟩ := rememberCompletedCommand_eq cfg answers
          (b.taken operationId rest)
          { operation.context with record := some record, target := b.targetFor record } now
        exact hc ▸ ⟨rfl, rfl, rfl, fun _ => rfl, fun _ => rfl, fun _ => rfl, fun _ => rfl,
          fun _ => rfl, Finset.Subset.refl _, rfl, rfl, rfl, rfl, id, hbound, rfl, [], rfl, by simp⟩
      -- the row is in the desired status, or comes there by another transition, or cannot
      · exact single (.settle hhead hop hkind hdesired (by simpa using hterm) (.inl hsame))
      · have hcontext : ({ operation.context with
            record := some desired, target := b.targetFor record } : RequestContext) =
            { operation.context with target := b.targetFor record } := by rw [← hdesired]
        have htick := @TickIf.converge T cfg b operationId operation rest record desired
          (b.targetFor record)
          { errorCode := desired.errorCode
            errorMessage := desired.errorMessage
            deviceAck := desired.deviceAck
            dispatchedAt := desired.dispatchedAt
            completedAt := desired.completedAt
            updatedAt := desired.updatedAt } record.commandId hdesired
          (.inl ⟨hhead, hkind, hsame, rfl, rfl⟩) hop (by simpa using hterm) hcan rfl rfl rfl rfl rfl
        rw [← hcontext] at htick
        exact single htick
      · exact single (.settle hhead hop hkind hdesired (by simpa using hterm)
          (.inr (by simpa using hcan)))

/-- The answer to a transition. -/
lemma handleTransitionResult
    (hhead : b.databaseResults = ⟨operationId, .ok (.record record)⟩ :: rest)
    (hop : b.operations.lookup operationId = some operation)
    (hkind : operation.kind = .transition) (hT : T.Early cfg b) :
    Turn T cfg b ((b.taken operationId rest).handleTransitionResult cfg answers operation.context
      record now) := by
  have hstored : Turn T cfg b ((b.taken operationId rest).finishStored cfg answers .transition
      operation.context record now) := hkind ▸ finishStored hhead hop (.inl hkind) hT
  rw [RuntimeBundle.handleTransitionResult]
  split
  · next desired hdesired =>
      split
      · next hresubmit =>
          simp only [Bool.and_eq_true, Bool.not_eq_true'] at hresubmit
          exact single (@TickIf.converge T cfg b operationId operation rest record desired
            operation.context.target
            { errorCode := desired.errorCode
              errorMessage := desired.errorMessage
              deviceAck := desired.deviceAck
              dispatchedAt := none
              completedAt := desired.completedAt
              updatedAt := desired.updatedAt } desired.commandId hdesired
            (.inr ⟨hhead, hkind, hresubmit.1.1, rfl, rfl⟩) hop hresubmit.1.2 hresubmit.2
            rfl rfl rfl rfl rfl)
      · exact hstored
  · exact hstored

/-- The answer to an insertion. -/
lemma handleInsertResult
    (hhead : b.databaseResults = ⟨operationId, .ok (.record record)⟩ :: rest)
    (hop : b.operations.lookup operationId = some operation)
    (hkind : operation.kind = .insert) (hT : T.Early cfg b) :
    Turn T cfg b ((b.taken operationId rest).handleInsertResult cfg answers operationId
      operation.context record now) := by
  -- the row is the inserted one: it is closed, or becomes active
  have hown : (∀ own, operation.context.record = some own → own.commandId = record.commandId) →
      Turn T cfg b (if record.status.isTerminal then
          (b.taken operationId rest).finishStored cfg answers .insert operation.context record now
        else publishRecord cfg answers
          { b.taken operationId rest with
            activeCommands := b.activeCommands.insert record.commandId
              { operation.context with record := some record } }
          { operation.context with record := some record } now) := by
    intro hown
    split
    · next hterm =>
        exact hkind ▸ finishStored hhead hop (.inr ⟨hkind, hterm, hown⟩) hT
    · next hterm =>
        exact single (.activate hhead hop hkind hown (by simpa using hterm))
  rw [RuntimeBundle.handleInsertResult]
  split
  · next own hrecord =>
      by_cases hid : own.commandId = record.commandId
      · rw [if_neg (not_not.mpr hid)]
        refine hown fun own' h => ?_
        rw [hrecord] at h
        cases h
        exact hid
      -- the key belonged to another command already: a conflict, or a replay
      · rw [if_pos hid]
        split
        · next hconf =>
            exact single (.consumed hhead (.rejected hop
              (.inr ⟨own, hkind, rfl, hrecord, hid, rfl, hconf⟩)))
        · next hconf =>
            exact single (.consumed hhead (.replayed hop hconf
              (.inr ⟨own, hkind, rfl, hrecord, hid, rfl⟩)))
  · next hrecord =>
      refine hown fun own h => ?_
      rw [hrecord] at h
      cases h

/-- The answer to a search for a request key. -/
lemma handleFindResult {existing : Option CommandRecord}
    (hhead : b.databaseResults = ⟨operationId, .ok (.found existing)⟩ :: rest)
    (hop : b.operations.lookup operationId = some operation) (hkind : operation.kind = .find)
    (huuid : answers.uuid ∉ createdIds b.trace) :
    Turn T cfg b ((b.taken operationId rest).handleFindResult cfg answers operationId
      operation.context existing now) := by
  simp only [RuntimeBundle.handleFindResult]
  cases existing with
  | some existing =>
      dsimp only
      split
      · next hpayload =>
          refine single (.consumed hhead (.rejected hop (.inl ⟨hkind, rfl, rfl, ?_⟩)))
          intro payload h
          rw [hpayload] at h
          cases h
      · next payload hpayload =>
          split
          · next hconf =>
              refine single (.consumed hhead (.rejected hop (.inl ⟨hkind, rfl, rfl, ?_⟩)))
              intro payload' h
              rw [hpayload] at h
              cases h
              exact hconf
          · next hconf =>
              exact single (.consumed hhead (.replayed hop hconf
                (.inl ⟨hkind, rfl, hpayload⟩)))
  | none =>
      dsimp only
      split
      · next requestId payload hrequest hpayload =>
          exact single (.create hhead hop hkind hrequest hpayload huuid)
      · next hnone =>
          refine single (.consumed hhead (.ignored hop rfl (.inr (.inr (.inr
            ⟨hkind, rfl, ?_⟩)))))
          cases hrequest : operation.context.parsed.requestId with
          | none => exact .inl rfl
          | some requestId =>
              cases hpayload : operation.context.parsed.comparisonPayload with
              | none => exact .inr rfl
              | some payload => exact absurd hpayload (hnone requestId payload hrequest)

/-- The lookup after a lost compare-and-set. -/
lemma handleTransitionConflict {context : RequestContext} {desired : CommandRecord}
    {b₀ : RuntimeBundle}
    (htick : TickIf T cfg b₀ (b.submit cfg .findByIdForConvergence context
      (.findCommandById desired.commandId)).2) :
    Turn T cfg b₀ (b.handleTransitionConflict cfg context desired) := by
  rw [RuntimeBundle.handleTransitionConflict]
  split
  · next b' heq => rw [heq] at htick; exact single htick
  · next b' heq =>
      rw [heq] at htick
      exact then_quiet htick ⟨rfl, rfl, rfl, fun _ => rfl, fun _ => rfl, fun _ => rfl, fun _ => rfl,
        fun _ => rfl, Finset.Subset.refl _, rfl, rfl, rfl, rfl, id, id, rfl, [.diagnosed _], rfl,
        by simp [Event.IsQuiet]⟩

/-- The answer to an operation, whatever its kind. -/
lemma handleValue {value : CommandDatabaseValue}
    (hhead : b.databaseResults = ⟨operationId, .ok value⟩ :: rest)
    (hop : b.operations.lookup operationId = some operation)
    (huuid : answers.uuid ∉ createdIds b.trace) (hT : T.Early cfg b) :
    Turn T cfg b ((b.taken operationId rest).handleValue cfg answers operationId operation value
      now) := by
  have hignored : ∀ message, (operation.kind = .cleanup ∨ ¬ operation.kind.Expects value ∨
      (operation.kind = .findByIdForConvergence ∧
        (value = .found none ∨ operation.context.record = none)) ∨
      (operation.kind = .find ∧ value = .found none ∧
        (operation.context.parsed.requestId = none ∨
          operation.context.parsed.comparisonPayload = none))) →
      Turn T cfg b ((b.taken operationId rest).diagnose message) := fun message h =>
    then_quiet (.consumed hhead (.ignored hop rfl h)) (.diagnose _ _)
  obtain ⟨kind, context⟩ := operation
  cases kind with
  | cleanup =>
      cases value with
      | count n => exact single (.consumed hhead (.ignored hop rfl (.inl rfl)))
      | found | record | records => exact hignored _ (.inl rfl)
  | findByIdForConvergence =>
      cases value with
      | found current =>
          cases current with
          | some current => exact convergeAfterConflict hhead hop rfl
          | none => exact hignored _ (.inr (.inr (.inl ⟨rfl, .inl rfl⟩)))
      | count | record | records => exact hignored _ (.inr (.inl id))
  | find =>
      cases value with
      | found existing => exact handleFindResult hhead hop rfl huuid
      | count | record | records => exact hignored _ (.inr (.inl id))
  | insert =>
      cases value with
      | record record => exact handleInsertResult hhead hop rfl hT
      | count | found | records => exact hignored _ (.inr (.inl id))
  | transition =>
      cases value with
      | record record => exact handleTransitionResult hhead hop rfl hT
      | count | found | records => exact hignored _ (.inr (.inl id))

/-- A result whose operation is known, in terms of `taken`. -/
lemma handleResult_found {value : Except DatabaseError CommandDatabaseValue}
    (hop : b.operations.lookup operationId = some operation) :
    { b with databaseResults := rest }.handleResult cfg answers ⟨operationId, value⟩ now =
      match value with
      | .ok value => (b.taken operationId rest).handleValue cfg answers operationId operation
            value now
      | .error error =>
          let report : RuntimeBundle :=
            { b.taken operationId rest with
              databaseAvailable := b.databaseAvailable && error.kind ≠ DatabaseErrorKind.unavailable
              log := .databaseError operationId :: b.log }.diagnose
              ("命令数据库操作失败：" ++ error.message)
          match operation.context.record with
          | some desired =>
              if operation.kind = .transition && isStateChangedError error.message then
                (b.taken operationId rest).handleTransitionConflict cfg operation.context desired
              else report
          | none => report := by
  rw [RuntimeBundle.handleResult]
  rw [RuntimeBundle.taken_eq hop]
  dsimp only
  split
  · next hnone =>
      rw [hop] at hnone
      cases hnone
  · next found hfound =>
      obtain rfl := Option.some.inj (hop.symm.trans hfound)
      cases value with
      | ok value => rfl
      | error error => rfl

/-- `Handle(CommandDatabaseResult)`, from the queue on. -/
lemma handleResult {result : CommandDatabaseResult}
    (hhead : b.databaseResults = result :: rest) (huuid : answers.uuid ∉ createdIds b.trace)
    (hT : T.Early cfg b) :
    Turn T cfg b ({ b with databaseResults := rest }.handleResult cfg answers result now) := by
  obtain ⟨operationId, value⟩ := result
  cases hop : b.operations.lookup operationId with
  | none =>
      rw [RuntimeBundle.handleResult]
      dsimp only
      rw [hop]
      refine then_quiet (.consumed hhead (.unknown hop)) ⟨rfl, rfl, rfl, fun i => ?_, fun _ => rfl,
        fun _ => rfl, fun _ => rfl, fun _ => rfl, Finset.Subset.refl _, rfl, rfl, rfl, ?_, id, id,
        rfl, [], rfl, by simp⟩
      · change b.operations.lookup i = (b.operations.erase operationId).lookup i
        rw [Map.lookup_erase_ite]
        split
        · next hi => rw [hi]; exact hop
        · rfl
      · simp [RuntimeBundle.taken, hop]
  | some operation =>
      rw [handleResult_found hop]
      cases value with
      | ok value => exact handleValue hhead hop huuid hT
      | error error =>
          -- only a lost compare-and-set is followed by a lookup
          have hreport : ¬ (operation.kind = .transition ∧
                isStateChangedError error.message = true ∧ operation.context.record.isSome) →
              ∀ available : Bool, Turn T cfg b
                ({ b.taken operationId rest with
                    databaseAvailable := available
                    log := .databaseError operationId :: b.log }.diagnose
                  ("命令数据库操作失败：" ++ error.message)) := fun hno available =>
            then_quiet (.consumed hhead (.failed hop rfl hno)) ⟨rfl, rfl, rfl, fun _ => rfl,
              fun _ => rfl, fun _ => rfl, fun _ => rfl, fun _ => rfl, Finset.Subset.refl _, rfl,
              rfl, rfl, rfl, id, id, rfl, [.diagnosed _], rfl, by simp [Event.IsQuiet]⟩
          dsimp only
          split
          · next desired hdesired =>
              split
              · next hchanged =>
                  simp only [Bool.and_eq_true, decide_eq_true_eq] at hchanged
                  have htick : TickIf T cfg b ((b.taken operationId rest).submit cfg
                      .findByIdForConvergence operation.context
                      (.findCommandById desired.commandId)).2 :=
                    .conflict hhead hop hchanged.1 hchanged.2 hdesired
                  exact handleTransitionConflict htick
              · next hchanged =>
                  refine hreport (fun h => hchanged ?_) _
                  simp [h.1, h.2.1]
          · next hnone =>
              refine hreport (fun h => ?_) _
              rw [hnone] at h
              simp at h

end Results

end Turn

/-! ### Inputs -/

section Inputs

variable {T : Limits} {cfg : CommandServiceConfig} {b : RuntimeBundle}

/-- **The next item**: one result with what follows from it, or nothing but ticks that take
no result. -/
lemma processNext_turn {answers : Answers} {now : TimePoint}
    (huuid : answers.uuid ∉ createdIds b.trace)
    (hT : (Input.processNext answers now).Heard T cfg b) :
    Idle T cfg b (b.processNext cfg answers now) ∨
      Turn T cfg b (b.processNext cfg answers now) := by
  rw [RuntimeBundle.processNext]
  split
  · next result rest hhead => exact .inr (Turn.handleResult hhead huuid hT.1)
  · next hresults =>
    refine .inl ?_
    split
    · next completion rest hcompletion =>
        refine (Idle.quiet ?_).trans (Idle.handleCompletion _ _ _)
        exact { SameCore.refl b with }
    · next hcompletions =>
      split
      · next message rest hmessage =>
          refine (Idle.quiet ?_).trans
            (Idle.handleMessage _ _ _ fun deviceId type ack htopic hack =>
            hT.2 message rest deviceId type ack hresults hcompletions hmessage htopic hack)
          exact { SameCore.refl b with }
      · exact .refl b

/-- **Every input but a restart is a turn**: at most one result is taken, and
nothing else comes before it. -/
theorem Input.turn {input : Input} (henabled : input.Enabled cfg b)
    (hT : input.Meets T cfg b)
    (hrestart : ∀ sources devices now, input ≠ .restart sources devices now) :
    Idle T cfg b (input.apply cfg b) ∨
      ((∃ answers now, input = .processNext answers now) ∧ Turn T cfg b (input.apply cfg b)) := by
  cases input with
  | tryPush message =>
      unfold Input.apply RuntimeBundle.tryPush
      dsimp only
      split
      · exact .inl (.refl b)
      · exact .inl (.quiet { SameCore.refl b with })
  | pushPublishCompletion completion =>
      unfold Input.apply RuntimeBundle.pushPublishCompletion
      dsimp only
      split
      · exact .inl (.refl b)
      · exact .inl (.quiet { SameCore.refl b with })
  | processNext answers now =>
      exact (processNext_turn henabled.1 hT.heard).imp id fun h => ⟨⟨answers, now, rfl⟩, h⟩
  | finishReady answers now => exact .inl (.finishReady henabled.2 b hT)
  | setDatabaseAvailable available => exact .inl (.quiet { SameCore.refl b with })
  | setMqttAvailable available => exact .inl (.single .mqtt rfl)
  | updateDevice answers devices record published now =>
      exact .inl (.updateDevice henabled.1.2 henabled.2.1 b hT)
  | worker event => exact .inl (.foldl_workerTurn [event]
      (fun e he => by rw [List.mem_singleton.mp he]; exact henabled) b hT.turns)
  | close => exact .inl (.quiet { SameCore.refl b with closed := fun _ => rfl })
  | restart sources devices now => exact absurd rfl (hrestart sources devices now)

/-- **Every input but a restart is a sequence of ticks.** -/
theorem Ticks.apply {input : Input} (henabled : input.Enabled cfg b)
    (hrestart : ∀ sources devices now, input ≠ .restart sources devices now) :
    Ticks cfg b (input.apply cfg b) :=
  (@Input.turn .any cfg b input henabled (input.meets_any cfg b) hrestart).elim
    Idle.ticks fun h => h.2.ticks

end Inputs

/-! ### Runs -/

/-- What holds before the first start, and is kept by a restart and by every
tick, holds in every reachable state. -/
theorem reachable_of_ticks {cfg : CommandServiceConfig} {P : RuntimeBundle → Prop}
    (hblank : P .blank)
    (hrestart : ∀ b b', P b → RuntimeBundle.Restarted cfg b b' → P b')
    (htick : ∀ b b', P b → Tick cfg b b' → P b') {b : RuntimeBundle}
    (hb : (routeService cfg).Reachable b) : P b := by
  have hticks : ∀ b b', P b → Ticks cfg b b' → P b' := by
    intro b b' hP h
    induction h with
    | refl => exact hP
    | tail _ hlast ih => exact htick _ _ ih hlast
  refine hb.invariant ?_ ?_
  · rintro b ⟨sources, devices, now, rfl⟩
    exact hrestart _ _ hblank (RuntimeBundle.restart_spec cfg .blank sources devices now)
  · intro b input _ hP henabled
    by_cases h : ∃ sources devices now, input = .restart sources devices now
    · obtain ⟨sources, devices, now, rfl⟩ := h
      exact hrestart _ _ hP (RuntimeBundle.restart_spec cfg b sources devices now)
    · push Not at h
      exact hticks _ _ hP (Ticks.apply henabled h)

/-- One input that is no restart: what its ticks keep, it keeps.  Only its first
tick may take a result. -/
theorem Input.keeps {cfg : CommandServiceConfig} {T : Limits}
    {P : RuntimeBundle → Prop} {b : RuntimeBundle} {input : Input}
    (htick : ∀ m m', P m → TickIf T cfg m m' →
      ((m = b ∧ ∃ answers now, input = .processNext answers now) ∨
        m.databaseResults.length ≤ m'.databaseResults.length) → P m')
    (henabled : input.Enabled cfg b) (hT : input.Meets T cfg b)
    (hrestart : ∀ sources devices now, input ≠ .restart sources devices now) (hP : P b) :
    P (input.apply cfg b) := by
  have hidle : ∀ m m', P m → Idle T cfg m m' → P m' := by
    intro m m' hP h
    induction h with
    | refl => exact hP
    | tail _ hlast ih => exact htick _ _ ih hlast.1 (.inr hlast.2)
  rcases input.turn henabled hT hrestart with hinput | ⟨hprocess, m, hfirst, hrest⟩
  · exact hidle _ _ hP hinput
  · exact hidle _ _ (htick _ _ hP hfirst (.inl ⟨rfl, hprocess⟩)) hrest

/-- The same for the runs whose inputs meet a condition: it is at hand where a
result is taken and where a process starts on the table of another, and what it
says about the surroundings is at hand at each tick. -/
theorem restricted_of_turns {cfg : CommandServiceConfig} {ok : RuntimeBundle → Input → Prop}
    {T : Limits}
    (hmeets : ∀ b input, ok b input → input.Meets T cfg b)
    {P : RuntimeBundle → Prop} (hblank : P .blank)
    (hrestart : ∀ b b', P b → RuntimeBundle.Restarted cfg b b' →
      (b = .blank ∨ ∃ sources devices now, ok b (.restart sources devices now)) → P b')
    (htick : ∀ b b', P b → TickIf T cfg b b' →
      ((∃ answers now, ok b (.processNext answers now)) ∨
        b.databaseResults.length ≤ b'.databaseResults.length) → P b') {b : RuntimeBundle}
    (hb : ((routeService cfg).restrict ok).Reachable b) : P b := by
  refine hb.invariant ?_ ?_
  · rintro b ⟨sources, devices, now, rfl⟩
    exact hrestart _ _ hblank (RuntimeBundle.restart_spec cfg .blank sources devices now) (.inl rfl)
  · intro b input _ hP henabled
    by_cases h : ∃ sources devices now, input = .restart sources devices now
    · obtain ⟨sources, devices, now, rfl⟩ := h
      exact hrestart _ _ hP (RuntimeBundle.restart_spec cfg b sources devices now)
        (.inr ⟨sources, devices, now, henabled.2⟩)
    · push Not at h
      refine Input.keeps (fun m m' hm htick' hwhen => ?_) henabled.1
        (hmeets b input henabled.2) h hP
      refine htick m m' hm htick' (hwhen.imp ?_ id)
      rintro ⟨rfl, answers, now, rfl⟩
      exact ⟨answers, now, henabled.2⟩

/-- The same, for a condition that says nothing about the surroundings. -/
theorem restricted_of_ticks {cfg : CommandServiceConfig} {ok : RuntimeBundle → Input → Prop}
    {P : RuntimeBundle → Prop} (hblank : P .blank)
    (hrestart : ∀ b b', P b → RuntimeBundle.Restarted cfg b b' →
      (b = .blank ∨ ∃ sources devices now, ok b (.restart sources devices now)) → P b')
    (htick : ∀ b b', P b → Tick cfg b b' →
      ((∃ answers now, ok b (.processNext answers now)) ∨
        b.databaseResults.length ≤ b'.databaseResults.length) → P b') {b : RuntimeBundle}
    (hb : ((routeService cfg).restrict ok).Reachable b) : P b :=
  restricted_of_turns (fun b input _ => input.meets_any cfg b) hblank hrestart htick hb

end CnsServer
