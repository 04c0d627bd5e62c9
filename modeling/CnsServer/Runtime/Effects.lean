/-
The effects of the compound functions of the service, one case lemma each.

* `workerTurn_cases`, `submit_cases`, `submitTransitionOrDefer_cases`,
  `publishRecord_cases`, `retryDeferred_cases`, `bufferEarlyAck_cases`,
  `handleCompletion_cases`: the states these functions can end in;
* `activeCommands_submit` and its like: what these functions leave alone;
* `restart_spec`: the state of a new process.
-/
import CnsServer.Runtime.ServiceEnvironment

namespace CnsServer

namespace RuntimeBundle

/-! ### The worker -/

/-- The events of an execution are about the rows it removes and writes. -/
lemma mem_executionEvents {removed written : List CommandRecord} {confirmed : Bool} {e : Event} :
    e ∈ executionEvents removed written confirmed ↔ (∃ r ∈ removed, e = .removed r) ∨
      (confirmed = false ∧ ∃ r ∈ written, e = .unconfirmed r) ∨
      ∃ r ∈ written, e = .committed r := by
  rw [executionEvents]
  cases confirmed <;> simp [eq_comm]

/-- The queue after one more result; a closed service takes none. -/
def pushed (b : RuntimeBundle) (result : CommandDatabaseResult) : List CommandDatabaseResult :=
  if b.closed then b.databaseResults else b.databaseResults ++ [result]

/-- **A turn of the worker**: the queue is kept, or given up for good; or its front
task is executed, with its result, with an error the store reports, or with its
confirmation lost. -/
lemma workerTurn_cases {b : RuntimeBundle} {event : WorkerEvent} (hevent : event.Admissible) :
    (∃ worker : PostgresWorker, (worker.commands = b.commands ∨
        (worker.commands = [] ∧ worker.workerStopped = true)) ∧
      b.workerTurn event = { b with toPostgresWorker := worker }) ∨
    ∃ operationId task rest, b.commands = (operationId, task) :: rest ∧
      ((∃ worker : PostgresWorker, worker.commands = rest ∧
        b.workerTurn event =
          { b with
            toPostgresWorker := worker
            table := (execute b.table task).table
            databaseResults := b.pushed ⟨operationId, (execute b.table task).value⟩
            log := executionEvents (execute b.table task).removed (execute b.table task).written
              true ++ b.log }) ∨
      (∃ (worker : PostgresWorker) (message : String), worker.commands = rest ∧
        isStateChangedError message = false ∧ event = .runCommand (.failed message) ∧
        b.workerTurn event =
          { b with
            toPostgresWorker := worker
            databaseResults := b.pushed ⟨operationId, permanentError message⟩ }) ∨
      (∃ worker : PostgresWorker, worker.commands = b.commands ∧
        event = .runCommand (.lost true) ∧
        b.workerTurn event =
          { b with
            toPostgresWorker := worker
            table := (execute b.table task).table
            log := executionEvents (execute b.table task).removed (execute b.table task).written
              false ++ b.log })) := by
  rcases b.toPostgresWorker.turn_cases b.table event with
    ⟨⟨htable, hemitted, hwritten, hremoved⟩, hqueue⟩ |
      ⟨operationId, task, rest, outcome, rfl, hqueue, hturn⟩
  · refine .inl ⟨(b.toPostgresWorker.turn b.table event).worker, hqueue, ?_⟩
    unfold workerTurn
    dsimp only
    rw [htable, hemitted, hwritten, hremoved]
    simp [executionEvents]
  · rw [workerTurn]
    rw [hturn]
    cases outcome with
    | completed => exact .inr ⟨operationId, task, rest, hqueue, .inl ⟨_, rfl, rfl⟩⟩
    | failed message =>
        exact .inr ⟨operationId, task, rest, hqueue,
          .inr (.inl ⟨_, message, rfl, hevent, rfl, rfl⟩)⟩
    | lost committed =>
        cases committed with
        | true =>
            refine .inr ⟨operationId, task, rest, hqueue, .inr (.inr
              ⟨{ b.toPostgresWorker with unavailable := true }, rfl, rfl, ?_⟩)⟩
            simp [PostgresWorker.runCommand]
        | false =>
            refine .inl ⟨{ b.toPostgresWorker with unavailable := true }, .inl rfl, ?_⟩
            simp [PostgresWorker.runCommand, executionEvents]

/-- The worker takes no results from the service. -/
lemma length_databaseResults_workerTurn {b : RuntimeBundle} {event : WorkerEvent}
    (hevent : event.Admissible) :
    b.databaseResults.length ≤ (b.workerTurn event).databaseResults.length := by
  have hpushed : ∀ result, b.databaseResults.length ≤ (b.pushed result).length := fun result => by
    rw [pushed]
    split <;> simp
  rcases workerTurn_cases hevent with
    ⟨worker, _, heq⟩ | ⟨i, task, rest, _, ⟨worker, _, heq⟩ | ⟨worker, message, _, _, _, heq⟩ |
      ⟨worker, _, _, heq⟩⟩ <;> rw [heq]
  · exact hpushed _
  · exact hpushed _

/-! ### Submissions -/

/-- The state after a submission the worker takes. -/
def accepted (b : RuntimeBundle) (kind : OperationKind) (context : RequestContext)
    (task : CommandDatabaseTask) : RuntimeBundle :=
  { b with
    commandOperations := insert b.nextOperationId b.commandOperations
    commands := b.commands ++ [(b.nextOperationId, task)]
    nextOperationId := b.nextOperationId + 1
    operations := b.operations.insert b.nextOperationId ⟨kind, context⟩
    outstandingOperations := b.outstandingOperations + 1
    log := .submitted b.nextOperationId task true :: b.log }

/-- The state after a submission the worker refuses. -/
def refused (b : RuntimeBundle) (task : CommandDatabaseTask) : RuntimeBundle :=
  { b with
    nextOperationId := b.nextOperationId + 1
    log := .submitted b.nextOperationId task false :: b.log }

lemma submit_cases (cfg : CommandServiceConfig) (b : RuntimeBundle) (kind : OperationKind)
    (context : RequestContext) (task : CommandDatabaseTask) :
    b.submit cfg kind context task = (true, b.accepted kind context task) ∨
      b.submit cfg kind context task = (false, b.refused task) := by
  unfold submit
  dsimp only
  split
  · exact .inr rfl
  · next worker hworker =>
      refine .inl ?_
      unfold PostgresWorker.submitCommand at hworker
      split at hworker
      · cases hworker
      · cases hworker
        rfl

/-- The state after a transition the worker takes. -/
def formedNow (b : RuntimeBundle) (context : RequestContext) (task : TransitionCommandTask) :
    RuntimeBundle :=
  { (b.emit (.formed task (b.replaced task.commandId))).accepted .transition context
    task.toTask with
    deferredTransitions := b.deferredTransitions.erase task.commandId }

/-- The state after a transition the worker refuses. -/
def formedLater (b : RuntimeBundle) (context : RequestContext) (task : TransitionCommandTask) :
    RuntimeBundle :=
  { (b.emit (.formed task (b.replaced task.commandId))).refused task.toTask with
    databaseAvailable := false
    deferredTransitions := b.deferredTransitions.insert task.commandId ⟨context, task⟩ }

lemma submitTransitionOrDefer_cases (cfg : CommandServiceConfig) (b : RuntimeBundle)
    (context : RequestContext) (task : TransitionCommandTask) :
    b.submitTransitionOrDefer cfg context task = b.formedNow context task ∨
      b.submitTransitionOrDefer cfg context task = b.formedLater context task := by
  rw [submitTransitionOrDefer]
  rcases submit_cases cfg (b.emit (.formed task (b.replaced task.commandId))) .transition context
    task.toTask with h | h
  · rw [h]; exact .inl rfl
  · rw [h]; exact .inr rfl

/-- A transition adds to the trace. -/
lemma log_form (cfg : CommandServiceConfig) (b : RuntimeBundle) (context : RequestContext)
    (task : TransitionCommandTask) :
    ∃ es, (b.submitTransitionOrDefer cfg context task).log = es ++ b.log := by
  rcases submitTransitionOrDefer_cases cfg b context task with heq | heq <;> rw [heq]
  · exact ⟨[_, _], rfl⟩
  · exact ⟨[_, _], rfl⟩

lemma retryDeferred_cases (cfg : CommandServiceConfig) (b : RuntimeBundle) (key : String)
    (deferred : DeferredTransition) :
    b.retryDeferred cfg key deferred =
        { b with deferredTransitions := b.deferredTransitions.erase key }.accepted .transition
          deferred.context deferred.task.toTask ∨
      b.retryDeferred cfg key deferred =
        { b.refused deferred.task.toTask with
          databaseAvailable := false
          deferredTransitions := (b.deferredTransitions.erase key).insert
            deferred.task.commandId deferred } := by
  rw [retryDeferred]
  rcases submit_cases cfg { b with deferredTransitions := b.deferredTransitions.erase key }
    .transition deferred.context deferred.task.toTask with h | h
  · rw [h]; exact .inl rfl
  · rw [h]; exact .inr rfl

/-! ### Publications -/

/-- The state after the device publisher has taken a message. -/
def sent (cfg : CommandServiceConfig) (b : RuntimeBundle) (context : RequestContext)
    (record : CommandRecord) (deviceId : String) (payload : Json) : RuntimeBundle :=
  { b with
    recoveryStarted := insert record.commandId b.recoveryStarted
    nextPublishToken := b.nextPublishToken + 1
    publications := b.publications.insert b.nextPublishToken context
    log := .published b.nextPublishToken
      (deviceSetTopic cfg.topicNamespace deviceId context.commandType) payload record true ::
        b.log }

/-- The state after the device publisher has refused a message. -/
def unsent (cfg : CommandServiceConfig) (b : RuntimeBundle) (context : RequestContext)
    (record : CommandRecord) (deviceId : String) (payload : Json) : RuntimeBundle :=
  { b with
    recoveryStarted := insert record.commandId b.recoveryStarted
    nextPublishToken := b.nextPublishToken + 1
    publications := (b.publications.insert b.nextPublishToken context).erase b.nextPublishToken
    log := .published b.nextPublishToken
      (deviceSetTopic cfg.topicNamespace deviceId context.commandType) payload record false ::
        b.log }

/-- The transition after a refused message. -/
def failTask (record : CommandRecord) (type : CommandType) (now : TimePoint) :
    TransitionCommandTask :=
  ⟨record.commandId, record.status, .failed,
    { errorCode := (publishFailed record type now).errorCode
      errorMessage := (publishFailed record type now).errorMessage
      deviceAck := none
      dispatchedAt := none
      completedAt := some now
      updatedAt := now }⟩

lemma publishRecord_cases (cfg : CommandServiceConfig) (answers : Answers) (b : RuntimeBundle)
    (context : RequestContext) (now : TimePoint) :
    b.publishRecord cfg answers context now = b ∨
    ∃ record deviceId payload, context.record = some record ∧
      record.targetDeviceId = some deviceId ∧ b.mqttAvailable = true ∧
      devicePayload record.commandId context.parsed = some payload ∧
      (b.publishRecord cfg answers context now = b.sent cfg context record deviceId payload ∨
        b.publishRecord cfg answers context now =
          (b.unsent cfg context record deviceId payload).submitTransitionOrDefer cfg
            { context with record := some (publishFailed record context.commandType now) }
            (failTask record context.commandType now)) := by
  rw [publishRecord]
  split
  · exact .inl rfl
  · next record hrecord =>
      split
      · exact .inl rfl
      · next deviceId hdevice =>
          split
          · exact .inl rfl
          · next hmqtt =>
              split
              · exact .inl rfl
              · next payload hpayload =>
                  refine .inr ⟨record, deviceId, payload, hrecord, hdevice, by simpa using hmqtt,
                    hpayload, ?_⟩
                  dsimp only
                  cases hpub : answers.published b.nextPublishToken with
                  | true => exact .inl rfl
                  | false => exact .inr rfl

/-! ### Acknowledgements and completions -/

lemma mergeEarlyAck_fst (cfg : CommandServiceConfig) (type : CommandType)
    (old incoming : EarlyDeviceAck) (final : Bool) :
    (mergeEarlyAck cfg type old incoming final).1 = incoming ∨
      (mergeEarlyAck cfg type old incoming final).1 = old := by
  rw [mergeEarlyAck]
  split_ifs
  · exact .inr rfl
  · exact .inl rfl
  · exact .inr rfl
  · exact .inr rfl

lemma bufferEarlyAck_cases (cfg : CommandServiceConfig) (b : RuntimeBundle) (type : CommandType)
    (ack : DeviceAck) (incoming : EarlyDeviceAck) :
    (∃ kept, (kept = incoming ∨ b.earlyDeviceAcks.lookup ack.commandId = some kept) ∧
      b.bufferEarlyAck cfg type ack incoming =
        { b with earlyDeviceAcks := b.earlyDeviceAcks.insert ack.commandId kept }) ∨
    ∃ message, b.bufferEarlyAck cfg type ack incoming = b.diagnose message := by
  rw [bufferEarlyAck]
  split
  · exact .inl ⟨incoming, .inl rfl, rfl⟩
  · next old hold =>
      have hkept := mergeEarlyAck_fst cfg type old incoming (ack.businessStatus ≠ "in_progress")
      split
      · next kept heq =>
          rw [heq] at hkept
          refine .inl ⟨kept, hkept.imp id fun h => ?_, rfl⟩
          rw [hold, ← h]
      · exact .inr ⟨_, rfl⟩

/-- The transition after a publish completion. -/
def completeTask (record : CommandRecord) (type : CommandType) (result : Bool)
    (now : TimePoint) : TransitionCommandTask :=
  ⟨record.commandId, record.status, (publishCompleted record type result now).status,
    { errorCode := if result then none else (publishCompleted record type result now).errorCode
      errorMessage :=
        if result then none else (publishCompleted record type result now).errorMessage
      deviceAck := none
      dispatchedAt := if result then some now else none
      completedAt := if result then none else some now
      updatedAt := now }⟩

/-- The state after a publication is taken from the map. -/
def completionTaken (b : RuntimeBundle) (token : ℕ) (record : CommandRecord) (result : Bool) :
    RuntimeBundle :=
  { b with
    publications := b.publications.erase token
    log := .completed record result :: b.log }

lemma handleCompletion_cases (cfg : CommandServiceConfig) {b : RuntimeBundle}
    {completion : PublishCompletion} {context : RequestContext} (now : TimePoint)
    (hfound : b.publications.lookup completion.token = some context) :
    (context.record = none ∧ b.handleCompletion cfg completion now =
      { b with publications := b.publications.erase completion.token }) ∨
    ∃ record, context.record = some record ∧
      ((completion.result = true ∧ record.status = .dispatched ∧
          b.handleCompletion cfg completion now =
            b.completionTaken completion.token record completion.result) ∨
        (¬ (completion.result = true ∧ record.status = .dispatched) ∧
          b.handleCompletion cfg completion now =
            (b.completionTaken completion.token record
              completion.result).submitTransitionOrDefer cfg
              { context with
                record := some
                  (publishCompleted record context.commandType completion.result now) }
              (completeTask record context.commandType completion.result now))) := by
  rw [handleCompletion]
  rw [hfound]
  dsimp only
  cases hrecord : context.record with
  | none => exact .inl ⟨rfl, rfl⟩
  | some record =>
      refine .inr ⟨record, rfl, ?_⟩
      dsimp only
      split
      · next h => exact .inl ⟨h.1, h.2, rfl⟩
      · next h => exact .inr ⟨h, rfl⟩

/-! ### What the compound functions leave alone -/

section Frame

variable (cfg : CommandServiceConfig) (answers : Answers) (b : RuntimeBundle)

@[simp] lemma activeCommands_workerTurn (event : WorkerEvent) :
    (b.workerTurn event).activeCommands = b.activeCommands := rfl

@[simp] lemma activeCommands_submit (kind : OperationKind) (context : RequestContext)
    (task : CommandDatabaseTask) :
    (b.submit cfg kind context task).2.activeCommands = b.activeCommands := by
  rcases submit_cases cfg b kind context task with h | h <;> rw [h] <;> rfl

@[simp] lemma activeCommands_submitTransitionOrDefer (context : RequestContext)
    (task : TransitionCommandTask) :
    (b.submitTransitionOrDefer cfg context task).activeCommands = b.activeCommands := by
  rcases submitTransitionOrDefer_cases cfg b context task with h | h <;> rw [h] <;> rfl

@[simp] lemma activeCommands_retryDeferred (key : String) (deferred : DeferredTransition) :
    (b.retryDeferred cfg key deferred).activeCommands = b.activeCommands := by
  rcases retryDeferred_cases cfg b key deferred with h | h <;> rw [h] <;> rfl

@[simp] lemma activeCommands_publishRecord (context : RequestContext) (now : TimePoint) :
    (b.publishRecord cfg answers context now).activeCommands = b.activeCommands := by
  rcases publishRecord_cases cfg answers b context now with
    h | ⟨record, deviceId, payload, _, _, _, _, h | h⟩ <;> rw [h]
  · rfl
  · rw [activeCommands_submitTransitionOrDefer]; rfl

@[simp] lemma activeCommands_bufferEarlyAck (type : CommandType) (ack : DeviceAck)
    (incoming : EarlyDeviceAck) :
    (b.bufferEarlyAck cfg type ack incoming).activeCommands = b.activeCommands := by
  rcases bufferEarlyAck_cases cfg b type ack incoming with ⟨kept, _, h⟩ | ⟨message, h⟩
  · exact (congrArg (fun b : RuntimeBundle => b.activeCommands) h).trans rfl
  · exact (congrArg (fun b : RuntimeBundle => b.activeCommands) h).trans rfl

@[simp] lemma activeCommands_applyDeviceAck (context : RequestContext) (record : CommandRecord)
    (ack : DeviceAck) (type : CommandType) (now : TimePoint) :
    (b.applyDeviceAck cfg context record ack type now).activeCommands = b.activeCommands :=
  activeCommands_submitTransitionOrDefer cfg b _ _

@[simp] lemma activeCommands_submitTimeout (commandId : String) (context : RequestContext)
    (record : CommandRecord) (now : TimePoint) :
    (b.submitTimeout cfg commandId context record now).activeCommands = b.activeCommands :=
  activeCommands_submitTransitionOrDefer cfg _ _ _

@[simp] lemma activeCommands_handleCompletion (completion : PublishCompletion)
    (now : TimePoint) :
    (b.handleCompletion cfg completion now).activeCommands = b.activeCommands := by
  cases hfound : b.publications.lookup completion.token with
  | none =>
      rw [handleCompletion]
      rw [hfound]
  | some context =>
      rcases handleCompletion_cases cfg now hfound with
        ⟨_, h⟩ | ⟨record, _, ⟨_, _, h⟩ | ⟨_, h⟩⟩ <;> rw [h]
      · rfl
      · rw [activeCommands_submitTransitionOrDefer]; rfl

@[simp] lemma activeCommands_foldl_workerTurn (events : List WorkerEvent) :
    (events.foldl workerTurn b).activeCommands = b.activeCommands := by
  induction events generalizing b with
  | nil => rfl
  | cons event events ih => exact ih (b.workerTurn event)

@[simp] lemma activeCommands_retryDeferredTransitions :
    (b.retryDeferredTransitions cfg answers).activeCommands = b.activeCommands := by
  rw [retryDeferredTransitions]
  split
  · rfl
  · split
    · rfl
    · split
      · rfl
      · exact activeCommands_retryDeferred cfg b _ _

@[simp] lemma activeCommands_submitCleanup (now : TimePoint) :
    (b.submitCleanup cfg now).activeCommands = b.activeCommands := by
  rw [submitCleanup]
  split
  · rfl
  · split
    · rfl
    · dsimp only
      split
      · exact activeCommands_submit cfg b _ _ _
      · rfl

@[simp] lemma activeCommands_visit (commandId : String) (now : TimePoint) :
    (b.visit cfg answers commandId now).activeCommands = b.activeCommands := by
  rw [visit]
  split
  · rfl
  · split
    · rfl
    · split_ifs
      · rfl
      · exact activeCommands_submitTimeout cfg b _ _ _ _
      · rfl
      · split
        · rfl
        · split
          · rw [activeCommands_publishRecord]
          · rfl

@[simp] lemma activeCommands_processTimeoutsAndRecovery (now : TimePoint) :
    (b.processTimeoutsAndRecovery cfg answers now).activeCommands = b.activeCommands := by
  have hvisits : ∀ (ids : List String) (b : RuntimeBundle), (ids.foldl (fun b id =>
      ((answers.interleaved (some id)).foldl workerTurn b).visit cfg answers id now)
      b).activeCommands = b.activeCommands := by
    intro ids
    induction ids with
    | nil => exact fun _ => rfl
    | cons id ids ih => exact fun b => (ih _).trans (by simp)
  unfold processTimeoutsAndRecovery
  dsimp only
  rw [hvisits]
  simp

/-- A scan changes no entry of `active_commands_`. -/
@[simp] lemma activeCommands_finishReady (now : TimePoint) :
    (b.finishReady cfg answers now).activeCommands = b.activeCommands := by
  simp [finishReady]

@[simp] lemma databaseResults_submit (kind : OperationKind) (context : RequestContext)
    (task : CommandDatabaseTask) :
    (b.submit cfg kind context task).2.databaseResults = b.databaseResults := by
  rcases submit_cases cfg b kind context task with h | h <;> rw [h] <;> rfl

@[simp] lemma databaseResults_submitTransitionOrDefer (context : RequestContext)
    (task : TransitionCommandTask) :
    (b.submitTransitionOrDefer cfg context task).databaseResults = b.databaseResults := by
  rcases submitTransitionOrDefer_cases cfg b context task with h | h <;> rw [h] <;> rfl

@[simp] lemma databaseResults_publishRecord (context : RequestContext) (now : TimePoint) :
    (b.publishRecord cfg answers context now).databaseResults = b.databaseResults := by
  rcases publishRecord_cases cfg answers b context now with
    h | ⟨record, deviceId, payload, _, _, _, _, h | h⟩ <;> rw [h]
  · rfl
  · rw [databaseResults_submitTransitionOrDefer]; rfl

@[simp] lemma databaseResults_retryDeferred (key : String) (deferred : DeferredTransition) :
    (b.retryDeferred cfg key deferred).databaseResults = b.databaseResults := by
  rcases retryDeferred_cases cfg b key deferred with h | h <;> rw [h] <;> rfl

@[simp] lemma databaseResults_bufferEarlyAck (type : CommandType) (ack : DeviceAck)
    (incoming : EarlyDeviceAck) :
    (b.bufferEarlyAck cfg type ack incoming).databaseResults = b.databaseResults := by
  rcases bufferEarlyAck_cases cfg b type ack incoming with ⟨kept, _, h⟩ | ⟨message, h⟩
  · exact (congrArg (fun b : RuntimeBundle => b.databaseResults) h).trans rfl
  · exact (congrArg (fun b : RuntimeBundle => b.databaseResults) h).trans rfl

@[simp] lemma databaseResults_handleCompletion (completion : PublishCompletion)
    (now : TimePoint) :
    (b.handleCompletion cfg completion now).databaseResults = b.databaseResults := by
  cases hfound : b.publications.lookup completion.token with
  | none =>
      rw [handleCompletion]
      rw [hfound]
  | some context =>
      rcases handleCompletion_cases cfg now hfound with
        ⟨_, h⟩ | ⟨record, _, ⟨_, _, h⟩ | ⟨_, h⟩⟩ <;> rw [h]
      · rfl
      · rw [databaseResults_submitTransitionOrDefer]; rfl

@[simp] lemma earlyDeviceAcks_submit (kind : OperationKind) (context : RequestContext)
    (task : CommandDatabaseTask) :
    (b.submit cfg kind context task).2.earlyDeviceAcks = b.earlyDeviceAcks := by
  rcases submit_cases cfg b kind context task with h | h <;> rw [h] <;> rfl

@[simp] lemma earlyDeviceAcks_submitTransitionOrDefer (context : RequestContext)
    (task : TransitionCommandTask) :
    (b.submitTransitionOrDefer cfg context task).earlyDeviceAcks = b.earlyDeviceAcks := by
  rcases submitTransitionOrDefer_cases cfg b context task with h | h <;> rw [h] <;> rfl

@[simp] lemma earlyDeviceAcks_publishRecord (context : RequestContext) (now : TimePoint) :
    (b.publishRecord cfg answers context now).earlyDeviceAcks = b.earlyDeviceAcks := by
  rcases publishRecord_cases cfg answers b context now with
    h | ⟨record, deviceId, payload, _, _, _, _, h | h⟩ <;> rw [h]
  · rfl
  · rw [earlyDeviceAcks_submitTransitionOrDefer]; rfl

@[simp] lemma earlyDeviceAcks_retryDeferred (key : String) (deferred : DeferredTransition) :
    (b.retryDeferred cfg key deferred).earlyDeviceAcks = b.earlyDeviceAcks := by
  rcases retryDeferred_cases cfg b key deferred with h | h <;> rw [h] <;> rfl

@[simp] lemma earlyDeviceAcks_handleCompletion (completion : PublishCompletion)
    (now : TimePoint) :
    (b.handleCompletion cfg completion now).earlyDeviceAcks = b.earlyDeviceAcks := by
  cases hfound : b.publications.lookup completion.token with
  | none =>
      rw [handleCompletion]
      rw [hfound]
  | some context =>
      rcases handleCompletion_cases cfg now hfound with
        ⟨_, h⟩ | ⟨record, _, ⟨_, _, h⟩ | ⟨_, h⟩⟩ <;> rw [h]
      · rfl
      · rw [earlyDeviceAcks_submitTransitionOrDefer]; rfl

end Frame

/-! ### A new process -/

/-- The context `LoadActive` makes for a row. -/
def loadedContext (cfg : CommandServiceConfig) (devices : DeviceRegistry) (source : CommandSource)
    (record : CommandRecord) : RequestContext where
  sourceId := record.sourceId
  source := some source
  parsed := parseSourceJson record.commandType record.requestPayload source.kind
  commandType := record.commandType
  receivedAt := record.createdAt
  deadline := (if record.status = .inProgress then record.updatedAt else record.createdAt) +
    (if record.commandType = .control then cfg.controlTimeout else cfg.configTimeout)
  target := (record.targetDeviceId.bind devices.find).map resolve
  record := some record
  deviceAckBusinessStatus := none

/-- Loading rows changes the active commands only, and each entry it makes
stands for one of the rows, of which it makes at most one for each. -/
lemma foldl_loadOne (cfg : CommandServiceConfig) (records : List CommandRecord)
    (b : RuntimeBundle) :
    ∃ active, records.foldl (loadOne cfg) b = { b with activeCommands := active } ∧
      active.keys.length ≤ b.activeCommands.keys.length + records.length ∧
      ∀ c context, active.lookup c = some context → b.activeCommands.lookup c = some context ∨
        ∃ record ∈ records, ∃ source, record.commandId = c ∧ record.status.isTerminal = false ∧
          b.sources.find record.sourceId = some source ∧
          context = loadedContext cfg b.devices source record := by
  induction records generalizing b with
  | nil => exact ⟨b.activeCommands, rfl, le_refl _, fun c context h => .inl h⟩
  | cons record records ih =>
      rw [List.foldl_cons]
      have hone : loadOne cfg b record = b ∨ ∃ source,
          b.sources.find record.sourceId = some source ∧ record.status.isTerminal = false ∧
          loadOne cfg b record = { b with
            activeCommands := b.activeCommands.insert record.commandId
              (loadedContext cfg b.devices source record) } := by
        rw [loadOne]
        split
        · exact .inl rfl
        · next source hsource =>
            split
            · exact .inl rfl
            · next hterm => exact .inr ⟨source, hsource, by simpa using hterm, rfl⟩
      rcases hone with hone | ⟨source, hsource, hterm, hone⟩
      · rw [hone]
        obtain ⟨active, heq, hlength, hactive⟩ := ih b
        refine ⟨active, heq, by rw [List.length_cons]; omega, fun c context h => ?_⟩
        rcases hactive c context h with h | ⟨r, hr, rest⟩
        · exact .inl h
        · exact .inr ⟨r, by simp [hr], rest⟩
      · rw [hone]
        obtain ⟨active, heq, hlength, hactive⟩ := ih { b with
          activeCommands := b.activeCommands.insert record.commandId
            (loadedContext cfg b.devices source record) }
        have hinsert : (b.activeCommands.insert record.commandId
            (loadedContext cfg b.devices source record)).keys.length ≤
              b.activeCommands.keys.length + 1 := by
          rw [Map.length_keys_insert]
          split <;> omega
        refine ⟨active, heq,
          by rw [List.length_cons]; dsimp only at hlength; omega, fun c context h => ?_⟩
        rcases hactive c context h with h | ⟨r, hr, rest⟩
        · rcases Map.lookup_insert_some.mp h with ⟨rfl, rfl⟩ | ⟨_, h⟩
          · exact .inr ⟨record, by simp, source, rfl, hterm, hsource, rfl⟩
          · exact .inl h
        · exact .inr ⟨r, by simp [hr], rest⟩

/-- What a new process starts from: the recovered table, the rows of the
unfinished configuration commands, and nothing else. -/
structure Restarted (cfg : CommandServiceConfig) (b b' : RuntimeBundle) : Prop where
  recovery : ∃ written, CommandTable.Recovery b.table b'.table written ∧
    b'.past = written.map .committed ++ b.trace
  worker : b'.toPostgresWorker = .fresh
  databaseResults : b'.databaseResults = []
  operations : ∀ i, b'.operations.lookup i = none
  outstandingOperations : b'.outstandingOperations = 0
  publications : ∀ i, b'.publications.lookup i = none
  deferredTransitions : ∀ c, b'.deferredTransitions.lookup c = none
  earlyDeviceAcks : ∀ c, b'.earlyDeviceAcks.lookup c = none
  recoveryStarted : b'.recoveryStarted = ∅
  mqttAvailable : b'.mqttAvailable = false
  completedCommands : b'.completedCommands = ∅
  room : b'.activeCommands.keys.length ≤ cfg.maxInflightCommands
  log : ∀ e ∈ b'.log, e = .mqttAvailable false ∨ ∃ message, e = .diagnosed message
  disconnected : .mqttAvailable false ∈ b'.log
  activeCommands : ∀ c context, b'.activeCommands.lookup c = some context →
    ∃ record source, record.commandId = c ∧ record.commandType = .config ∧
      record.status.isTerminal = false ∧ b'.table.findCommandById c = some record ∧
      context = loadedContext cfg b'.devices source record

lemma Restarted.commands {cfg : CommandServiceConfig} {b b' : RuntimeBundle}
    (h : Restarted cfg b b') : b'.commands = [] := by
  rw [h.worker]
  rfl

/-- **The state of a new process.** -/
lemma restart_spec (cfg : CommandServiceConfig) (b : RuntimeBundle) (sources : SourceCatalog)
    (devices : DeviceRegistry) (now : TimePoint) :
    Restarted cfg b (b.restart cfg sources devices now) := by
  rw [restart]
  dsimp only
  have hrecovery := b.table.recovery now (cfg.maxInflightCommands + 1)
  rw [loadActive]
  split
  · -- too many rows: nothing is loaded
    exact ⟨⟨_, hrecovery, rfl⟩, rfl, rfl, fun _ => rfl, rfl, fun _ => rfl, fun _ => rfl,
      fun _ => rfl, rfl, rfl, rfl, Nat.zero_le _, by simp [setMqttAvailable, diagnose, emit],
      List.mem_cons_self, fun c context h => by cases h⟩
  · next hfits =>
    obtain ⟨active, heq, hlength, hactive⟩ := foldl_loadOne cfg
      ((b.table.loadActiveCommands (cfg.maxInflightCommands + 1)).filter
        fun r => r.commandType = .config)
      { toCommandService := .fresh
        toPostgresWorker := .fresh
        table := (b.table.recoverActiveControlCommands now (cfg.maxInflightCommands + 1)).1
        sources := sources
        devices := devices
        log := []
        past := (b.table.recoverActiveControlCommands now
          (cfg.maxInflightCommands + 1)).2.map .committed ++ (b.log ++ b.past) }
    rw [heq]
    refine ⟨⟨_, hrecovery, rfl⟩, rfl, rfl, fun _ => rfl, rfl, fun _ => rfl, fun _ => rfl,
      fun _ => rfl, rfl, rfl, rfl, ?_, by simp [setMqttAvailable], List.mem_cons_self,
      fun c context h => ?_⟩
    · have hempty : (CommandService.fresh.activeCommands.keys).length = 0 := rfl
      dsimp only at hlength
      rw [hempty, Nat.zero_add] at hlength
      exact hlength.trans (not_lt.mp hfits)
    rcases hactive c context h with h | ⟨record, hrecord, source, hid, hterm, _, hcontext⟩
    · cases h
    · obtain ⟨hloaded, htype⟩ := List.mem_filter.mp hrecord
      have htype : record.commandType = .config := by simpa using htype
      obtain ⟨hrow, _⟩ := CommandTable.mem_loadActiveCommands hloaded
      refine ⟨record, source, hid, htype, hterm, ?_, hcontext⟩
      rw [← hid]
      rcases hrecovery.kept _ record hrow with h | hcontrol
      · exact h
      · rw [htype] at hcontrol
        cases hcontrol

end RuntimeBundle

end CnsServer
