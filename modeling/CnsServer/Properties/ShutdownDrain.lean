/-
Closing the service: what a run does after `Close` is what it does without it.

Only the three input queues read `closed_`.  Everything else commutes with closing:

* `workerTurn_close`: a turn of the worker does, unless it has a result to push;
* `handleResult_close`, `handleMessage_close`, `handleCompletion_close`: so does each
  `Handle`;
* `finishReady_close`, `updateDevice_close`: and so do the scans, whose worker turns
  have no result to push;
* `Input.apply_close`: one input of the closed service;
* `drained_after_close`: **the drain**, in the runs in which no task is left for the
  worker once the service is closed;
* `result_dropped`: a result that the worker has after `Close` is lost, and its
  operation stays counted.
-/
import CnsServer.Properties.Accounting

namespace CnsServer

namespace RuntimeBundle

variable (cfg : CommandServiceConfig) (answers : Answers) (b : RuntimeBundle)

/-! ### What the service reads -/

@[simp] lemma close_operations : b.close.operations = b.operations := rfl

@[simp] lemma close_deferredTransitions : b.close.deferredTransitions = b.deferredTransitions := rfl

@[simp] lemma close_databaseAvailable : b.close.databaseAvailable = b.databaseAvailable := rfl

@[simp] lemma close_mqttAvailable : b.close.mqttAvailable = b.mqttAvailable := rfl

@[simp] lemma close_activeCommands : b.close.activeCommands = b.activeCommands := rfl

@[simp] lemma close_earlyDeviceAcks : b.close.earlyDeviceAcks = b.earlyDeviceAcks := rfl

@[simp] lemma close_publications : b.close.publications = b.publications := rfl

@[simp] lemma close_recoveryStarted : b.close.recoveryStarted = b.recoveryStarted := rfl

@[simp] lemma close_nextPublishToken : b.close.nextPublishToken = b.nextPublishToken := rfl

@[simp] lemma close_nextCleanupAt : b.close.nextCleanupAt = b.nextCleanupAt := rfl

@[simp] lemma close_messages : b.close.messages = b.messages := rfl

@[simp] lemma close_databaseResults : b.close.databaseResults = b.databaseResults := rfl

@[simp] lemma close_publishCompletions : b.close.publishCompletions = b.publishCompletions := rfl

@[simp] lemma close_devices : b.close.devices = b.devices := rfl

@[simp] lemma close_sources : b.close.sources = b.sources := rfl

/-! ### Turns of the worker -/

/-- A turn that spares the queue of a closed service has no result to push. -/
lemma emitted_of_spares {event : WorkerEvent} (h : Spares b.close event) :
    (b.toPostgresWorker.turn b.table event).emitted = [] := by
  cases event with
  | runCommand outcome =>
      simp only [PostgresWorker.turn]
      split
      · rfl
      · next hbusy =>
          split
          · next operationId task rest hqueue =>
              have hbusy : b.workerStopped = false ∧ b.unavailable = false := by
                simpa using hbusy
              -- The queue is not empty and the worker is at work.
              have hidle : ¬ (b.workerStopped = true ∨ b.unavailable = true ∨
                  b.commands = []) := by
                simp [hbusy, hqueue]
              cases outcome with
              | completed => exact absurd (h rfl) hidle
              | failed message => exact absurd (h rfl) hidle
              | lost committed =>
                  cases committed with
                  | false => rfl
                  | true => rfl
          · rfl
  | loseConnection =>
      simp only [PostgresWorker.turn]
      split
      · rfl
      · rfl
  | reconnect outcome =>
      simp only [PostgresWorker.turn]
      split
      · rfl
      · cases outcome with
        | connected => rfl
        | unavailable => rfl
        | permanentFailure => rfl
  | flushAndStop => rfl
  | finish => rfl

lemma workerTurn_close {event : WorkerEvent}
    (h : (b.toPostgresWorker.turn b.table event).emitted = []) :
    b.close.workerTurn event = (b.workerTurn event).close := by
  rw [workerTurn, workerTurn]
  dsimp only [close]
  rw [h, List.append_nil, ite_self]
  rfl

/-! ### Submissions -/

lemma submit_close (kind : OperationKind) (context : RequestContext) (task : CommandDatabaseTask) :
    b.close.submit cfg kind context task =
      ((b.submit cfg kind context task).1, (b.submit cfg kind context task).2.close) := by
  rw [submit, submit]
  dsimp only [close]
  split
  · rfl
  · rfl

lemma submitTransitionOrDefer_close (context : RequestContext) (task : TransitionCommandTask) :
    b.close.submitTransitionOrDefer cfg context task =
      (b.submitTransitionOrDefer cfg context task).close := by
  have hemit : b.close.emit (.formed task (b.close.replaced task.commandId)) =
      (b.emit (.formed task (b.replaced task.commandId))).close := rfl
  rw [submitTransitionOrDefer, submitTransitionOrDefer, hemit, submit_close]
  obtain ⟨accepted, b'⟩ := (b.emit (.formed task (b.replaced task.commandId))).submit cfg
    .transition context task.toTask
  cases accepted with
  | false => rfl
  | true => rfl

lemma retryDeferred_close (key : String) (deferred : DeferredTransition) :
    b.close.retryDeferred cfg key deferred = (b.retryDeferred cfg key deferred).close := by
  have herase : { b.close with deferredTransitions := b.close.deferredTransitions.erase key } =
      RuntimeBundle.close { b with deferredTransitions := b.deferredTransitions.erase key } := rfl
  rw [retryDeferred, retryDeferred, herase, submit_close]
  obtain ⟨accepted, b'⟩ := submit cfg { b with
    deferredTransitions := b.deferredTransitions.erase key } .transition deferred.context
    deferred.task.toTask
  cases accepted with
  | false => rfl
  | true => rfl

lemma retryDeferredTransitions_close :
    b.close.retryDeferredTransitions cfg answers =
      (b.retryDeferredTransitions cfg answers).close := by
  simp only [retryDeferredTransitions, close_databaseAvailable, close_deferredTransitions,
    retryDeferred_close]
  split
  · rfl
  · split
    · rfl
    · split
      · rfl
      · rfl

lemma retire_close (context : RequestContext) (commandId : String) (now : TimePoint) :
    b.close.retire cfg answers context commandId now =
      (b.retire cfg answers context commandId now).close := by
  have hremember : b.close.rememberCompletedCommand cfg answers context now =
      (b.rememberCompletedCommand cfg answers context now).close := by
    rw [rememberCompletedCommand, rememberCompletedCommand]
    split
    · rfl
    · split
      · rfl
      · rfl
  rw [retire, retire, hremember]
  rfl

lemma publishAck_close (cause : AckCause) (context : RequestContext) (now : TimePoint) :
    b.close.publishAck cfg cause context now = (b.publishAck cfg cause context now).close := by
  rw [publishAck, publishAck]
  split
  · rfl
  · rfl

lemma publishRecord_close (context : RequestContext) (now : TimePoint) :
    b.close.publishRecord cfg answers context now =
      (b.publishRecord cfg answers context now).close := by
  rw [publishRecord, publishRecord]
  split
  · rfl
  · split
    · rfl
    · by_cases hmqtt : (!b.mqttAvailable) = true
      · rw [close_mqttAvailable, if_pos hmqtt, if_pos hmqtt]
      · rw [close_mqttAvailable, if_neg hmqtt, if_neg hmqtt]
        split
        · rfl
        · dsimp only [close_nextPublishToken]
          split
          · rfl
          · rw [← submitTransitionOrDefer_close]
            rfl

/-! ### Acknowledgements from devices -/

lemma informUnrelatedAck_close (deviceId : String) (commandType : CommandType) (ack : DeviceAck) :
    b.close.informUnrelatedAck deviceId commandType ack =
      (b.informUnrelatedAck deviceId commandType ack).close := by
  have htext : b.close.lateDeviceAckText deviceId commandType ack.commandId ack.businessStatus =
      b.lateDeviceAckText deviceId commandType ack.commandId ack.businessStatus := rfl
  simp only [informUnrelatedAck, close_devices, htext]
  split
  · rfl
  · split
    · rfl
    · rfl

lemma bufferEarlyAck_close (commandType : CommandType) (ack : DeviceAck)
    (incoming : EarlyDeviceAck) :
    b.close.bufferEarlyAck cfg commandType ack incoming =
      (b.bufferEarlyAck cfg commandType ack incoming).close := by
  simp only [bufferEarlyAck, close_earlyDeviceAcks]
  split
  · rfl
  · split
    · rfl
    · rfl

lemma handleDeviceAck_close (deviceId payload : String) (commandType : CommandType)
    (now : TimePoint) :
    b.close.handleDeviceAck cfg deviceId payload commandType now =
      (b.handleDeviceAck cfg deviceId payload commandType now).close := by
  have hemit : ∀ event, b.close.emit event = (b.emit event).close := fun _ => rfl
  simp only [handleDeviceAck, close_activeCommands, hemit, informUnrelatedAck_close,
    bufferEarlyAck_close, applyDeviceAck, submitTransitionOrDefer_close]
  split
  · rfl
  · split
    · rfl
    · split
      · rfl
      · split
        · rfl
        · split
          · rfl
          · split
            · rfl
            · split
              · rfl
              · rfl

/-! ### Database results -/

lemma handleTransitionConflict_close (context : RequestContext) (desired : CommandRecord) :
    b.close.handleTransitionConflict cfg context desired =
      (b.handleTransitionConflict cfg context desired).close := by
  rw [handleTransitionConflict, handleTransitionConflict, submit_close]
  obtain ⟨accepted, b'⟩ := b.submit cfg .findByIdForConvergence context
    (.findCommandById desired.commandId)
  cases accepted with
  | false => rfl
  | true => rfl

lemma convergeAfterConflict_close (context : RequestContext) (current : CommandRecord)
    (now : TimePoint) :
    b.close.convergeAfterConflict cfg answers context current now =
      (b.convergeAfterConflict cfg answers context current now).close := by
  have htarget : b.close.targetFor current = b.targetFor current := rfl
  simp only [convergeAfterConflict, htarget, close_activeCommands, retire_close, publishAck_close,
    submitTransitionOrDefer_close]
  split
  · rfl
  · split
    · split
      · rfl
      · rfl
    · split
      · rfl
      · split
        · rfl
        · rfl

lemma handleFindResult_close (operationId : ℕ) (context : RequestContext)
    (existing : Option CommandRecord) (now : TimePoint) :
    b.close.handleFindResult cfg answers operationId context existing now =
      (b.handleFindResult cfg answers operationId context existing now).close := by
  have htarget : ∀ record, b.close.targetFor record = b.targetFor record := fun _ => rfl
  have hnew : ∀ requestId payload, b.close.newCommand answers context requestId payload =
      b.newCommand answers context requestId payload := fun _ _ => rfl
  have hemit : ∀ event, b.close.emit event = (b.emit event).close := fun _ => rfl
  simp only [handleFindResult, htarget, hnew, hemit, publishAck_close, submit_close]
  split
  · split
    · rfl
    · split
      · rfl
      · rfl
  · split
    · rfl
    · rfl

lemma informPersisted_close (context : RequestContext) (dispatchedPersisted : Bool)
    (status : CommandStatus) :
    b.close.informPersisted context dispatchedPersisted status =
      ((b.informPersisted context dispatchedPersisted status).1.close,
        (b.informPersisted context dispatchedPersisted status).2) := by
  cases htarget : context.target with
  | none => simp only [informPersisted, htarget]
  | some target =>
      have hinform : ∀ message, b.close.inform message = (b.inform message).close :=
        fun _ => rfl
      simp only [informPersisted, htarget, hinform]
      cases dispatchedPersisted with
      | false =>
          simp only [Bool.false_eq_true, if_false, hinform]
          split
          · rfl
          · split
            · rfl
            · rfl
      | true =>
          simp only [if_true]
          split
          · rfl
          · split
            · rfl
            · rfl

lemma finishStored_close (kind : OperationKind) (context : RequestContext)
    (record : CommandRecord) (now : TimePoint) :
    b.close.finishStored cfg answers kind context record now =
      (b.finishStored cfg answers kind context record now).close := by
  simp only [finishStored, publishAck_close, informPersisted_close]
  generalize informPersisted _ _ _ _ = told
  obtain ⟨b', context'⟩ := told
  simp only [retire_close, close_activeCommands, close_earlyDeviceAcks]
  split
  · rfl
  · split
    · split
      · rw [← handleDeviceAck_close]
        rfl
      · rfl
    · rfl

lemma handleInsertResult_close (operationId : ℕ) (context : RequestContext)
    (record : CommandRecord) (now : TimePoint) :
    b.close.handleInsertResult cfg answers operationId context record now =
      (b.handleInsertResult cfg answers operationId context record now).close := by
  have htarget : b.close.targetFor record = b.targetFor record := rfl
  have hactive : ∀ c, { b.close with activeCommands := c } =
      RuntimeBundle.close { b with activeCommands := c } := fun _ => rfl
  simp only [handleInsertResult, htarget, close_activeCommands, hactive, publishAck_close,
    finishStored_close, publishRecord_close]
  split
  · split
    · split
      · rfl
      · rfl
    · split
      · rfl
      · rfl
  · split
    · rfl
    · rfl

lemma handleTransitionResult_close (context : RequestContext) (record : CommandRecord)
    (now : TimePoint) :
    b.close.handleTransitionResult cfg answers context record now =
      (b.handleTransitionResult cfg answers context record now).close := by
  simp only [handleTransitionResult, submitTransitionOrDefer_close, finishStored_close]
  split
  · split
    · rfl
    · rfl
  · rfl

lemma handleValue_close (operationId : ℕ) (operation : Operation) (value : CommandDatabaseValue)
    (now : TimePoint) :
    b.close.handleValue cfg answers operationId operation value now =
      (b.handleValue cfg answers operationId operation value now).close := by
  have hdiagnose : ∀ message, b.close.diagnose message = (b.diagnose message).close :=
    fun _ => rfl
  simp only [handleValue, hdiagnose, convergeAfterConflict_close, handleFindResult_close,
    handleInsertResult_close, handleTransitionResult_close]
  split
  all_goals rfl

/-- **A result is handled as without the close.** -/
lemma handleResult_close (result : CommandDatabaseResult) (now : TimePoint) :
    b.close.handleResult cfg answers result now =
      (b.handleResult cfg answers result now).close := by
  simp only [handleResult, close_operations]
  split
  · rfl
  · split
    · rw [← handleValue_close]
      rfl
    · split
      · split
        · rw [← handleTransitionConflict_close]
          rfl
        · rfl
      · rfl

/-! ### Messages and completions -/

lemma submitFind_close (source : CommandSource) (parsed : ParsedSourceRequest)
    (sourceId requestId : String) (commandType : CommandType) (receivedAt now : TimePoint) :
    b.close.submitFind cfg source parsed sourceId requestId commandType receivedAt now =
      (b.submitFind cfg source parsed sourceId requestId commandType receivedAt now).close := by
  rw [submitFind, submitFind]
  dsimp only [close_mqttAvailable, close_databaseAvailable, close_activeCommands,
    close_operations, close_publications]
  simp only [submit_close]
  split
  · rfl
  · split
    · rfl
    · split
      · rfl
      · generalize submit cfg b _ _ _ = submitted
        obtain ⟨accepted, b'⟩ := submitted
        cases accepted with
        | false => rfl
        | true => rfl

lemma handleRequest_close (sourceId : String) (commandType : CommandType)
    (message : InboundMessage) (now : TimePoint) :
    b.close.handleRequest cfg sourceId commandType message now =
      (b.handleRequest cfg sourceId commandType message now).close := by
  simp only [handleRequest, close_sources, close_devices, submitFind_close]
  split
  · rfl
  · split
    · rfl
    · split
      · rfl
      · split
        · rfl
        · rfl
        · rfl

lemma handleMessage_close (message : InboundMessage) (now : TimePoint) :
    b.close.handleMessage cfg message now = (b.handleMessage cfg message now).close := by
  simp only [handleMessage, handleDeviceAck_close, handleRequest_close]
  split
  · rfl
  · split
    · rfl
    · split
      · rfl
      · split
        · rfl
        · rfl

lemma handleCompletion_close (completion : PublishCompletion) (now : TimePoint) :
    b.close.handleCompletion cfg completion now =
      (b.handleCompletion cfg completion now).close := by
  simp only [handleCompletion, close_publications]
  split
  · rfl
  · split
    · rfl
    · split
      · rfl
      · rw [← submitTransitionOrDefer_close]
        rfl

lemma processNext_close (now : TimePoint) :
    b.close.processNext cfg answers now = (b.processNext cfg answers now).close := by
  simp only [processNext, close_databaseResults, close_publishCompletions, close_messages]
  split
  · rw [← handleResult_close]
    rfl
  · split
    · rw [← handleCompletion_close]
      rfl
    · split
      · rw [← handleMessage_close]
        rfl
      · rfl

/-! ### Scans -/

/-- The turns of a closed service have no result to push. -/
lemma turnsOf_close (events : List WorkerEvent)
    (h : ∀ p ∈ b.close.turnsOf events, Spares p.1 p.2) :
    b.close.turnsOf events = (b.turnsOf events).map (fun p => (p.1.close, p.2)) ∧
      events.foldl workerTurn b.close = (events.foldl workerTurn b).close := by
  induction events generalizing b with
  | nil => exact ⟨rfl, rfl⟩
  | cons event events ih =>
      have hturn : b.close.workerTurn event = (b.workerTurn event).close :=
        workerTurn_close b (emitted_of_spares b (h (b.close, event) (List.mem_cons_self ..)))
      have hrest := ih (b.workerTurn event) fun p hp => by
        refine h p (List.mem_cons_of_mem _ ?_)
        rw [hturn]
        exact hp
      refine ⟨?_, ?_⟩
      · rw [turnsOf, turnsOf, hturn, hrest.1]
        rfl
      · rw [List.foldl_cons, List.foldl_cons, hturn, hrest.2]

lemma submitCleanup_close (now : TimePoint) :
    b.close.submitCleanup cfg now = (b.submitCleanup cfg now).close := by
  simp only [submitCleanup, close_nextCleanupAt, close_operations, close_databaseAvailable,
    submit_close]
  split
  · rfl
  · split
    · rfl
    · cases hdue : !(b.operations.entries.any fun entry => entry.2.kind = .cleanup) &&
          b.databaseAvailable with
      | false => rfl
      | true => rfl

lemma visit_close (commandId : String) (now : TimePoint) :
    b.close.visit cfg answers commandId now = (b.visit cfg answers commandId now).close := by
  rw [visit, visit, close_activeCommands]
  split
  · rfl
  · next context _ =>
      split
      · rfl
      · next record _ =>
          by_cases hdue : context.deadline ≤ now
          · rw [if_pos hdue, if_pos hdue, close_recoveryStarted]
            by_cases hstarted : commandId ∈ b.recoveryStarted
            · rw [if_pos hstarted, if_pos hstarted]
            · rw [if_neg hstarted, if_neg hstarted]
              exact submitTransitionOrDefer_close cfg { b with
                recoveryStarted := insert commandId b.recoveryStarted } _ _
          · rw [if_neg hdue, if_neg hdue, close_mqttAvailable, close_recoveryStarted]
            by_cases hidle : (context.commandType = .control || !b.mqttAvailable ||
                commandId ∈ b.recoveryStarted) = true
            · rw [if_pos hidle, if_pos hidle]
            · rw [if_neg hidle, if_neg hidle]
              split
              · rfl
              · next deviceId _ =>
                  rw [close_devices]
                  by_cases honline : b.devices.isOnline deviceId = true
                  · rw [if_pos honline, if_pos honline]
                    exact publishRecord_close cfg answers { b with
                      recoveryStarted := insert commandId b.recoveryStarted } _ _
                  · rw [if_neg honline, if_neg honline]

lemma scan_close (now : TimePoint) (ids : List String)
    (h : ∀ p ∈ b.close.scanTurns cfg answers now ids, Spares p.1 p.2) :
    ids.foldl (fun b id =>
        ((answers.interleaved (some id)).foldl workerTurn b).visit cfg answers id now) b.close =
      (ids.foldl (fun b id =>
        ((answers.interleaved (some id)).foldl workerTurn b).visit cfg answers id now) b).close
      := by
  induction ids generalizing b with
  | nil => rfl
  | cons id ids ih =>
      rw [scanTurns] at h
      have hturns := (turnsOf_close b (answers.interleaved (some id)) fun p hp =>
        h p (List.mem_append_left _ hp)).2
      have hvisit : ((answers.interleaved (some id)).foldl workerTurn b.close).visit cfg answers id
          now = (((answers.interleaved (some id)).foldl workerTurn b).visit cfg answers id
            now).close := by
        rw [hturns, visit_close]
      rw [List.foldl_cons, List.foldl_cons, hvisit]
      refine ih _ fun p hp => h p (List.mem_append_right _ ?_)
      rw [hvisit]
      exact hp

lemma processTimeoutsAndRecovery_close (now : TimePoint)
    (h : ∀ p ∈ b.close.recoveryTurns cfg answers now, Spares p.1 p.2) :
    b.close.processTimeoutsAndRecovery cfg answers now =
      (b.processTimeoutsAndRecovery cfg answers now).close := by
  rw [recoveryTurns] at h
  have hturns := (turnsOf_close b (answers.interleaved none) fun p hp =>
    h p (List.mem_append_left _ hp)).2
  rw [processTimeoutsAndRecovery, processTimeoutsAndRecovery]
  rw [hturns, submitCleanup_close, close_activeCommands]
  refine scan_close cfg answers _ now _ fun p hp => h p (List.mem_append_right _ ?_)
  rw [hturns, submitCleanup_close, close_activeCommands]
  exact hp

lemma finishReady_close (now : TimePoint)
    (h : ∀ p ∈ (Input.finishReady answers now).workerTurns cfg b.close, Spares p.1 p.2) :
    b.close.finishReady cfg answers now = (b.finishReady cfg answers now).close := by
  have hretry := retryDeferredTransitions_close cfg answers b
  rw [finishReady, finishReady, hretry]
  refine processTimeoutsAndRecovery_close cfg answers _ now fun p hp => h p ?_
  rw [Input.workerTurns, hretry]
  exact hp

lemma updateDevice_close (devices : DeviceRegistry) (record : DeviceRecord) (published : Bool)
    (now : TimePoint)
    (h : ∀ p ∈ (Input.updateDevice answers devices record published now).workerTurns cfg b.close,
      Spares p.1 p.2) :
    b.close.updateDevice cfg answers devices record published now =
      (b.updateDevice cfg answers devices record published now).close := by
  by_cases honline : (published && record.status = .online) = true
  · simp only [updateDevice, Input.workerTurns, honline, if_true] at h ⊢
    exact processTimeoutsAndRecovery_close cfg answers { b with
      devices := devices
      recoveryStarted := b.recoveryStarted.filter (· ∉ b.commandsFor record.deviceId)
      log := .deviceUpdated record.deviceId (b.devices.isOnline record.deviceId)
        (devices.isOnline record.deviceId) true :: b.log } now h
  · have hoffline : (published && record.status = .online) = false := by simpa using honline
    simp only [updateDevice, hoffline, Bool.false_eq_true, if_false]
    rfl

end RuntimeBundle

/-! ### Inputs of the closed service -/

/-- The inputs that are not pushed from outside, and not the closing itself. -/
def Input.isInternal : Input → Bool
  | .tryPush _ => false
  | .pushPublishCompletion _ => false
  | .close => false
  | _ => true

/-- The start of another process. -/
def Input.isRestart : Input → Bool
  | .restart _ _ _ => true
  | _ => false

open RuntimeBundle

namespace Input

variable {cfg : CommandServiceConfig} {b : RuntimeBundle} {input : Input}

/-- An input arrives at the closed service as at the open one. -/
lemma enabled_close : input.Enabled cfg b.close ↔ input.Enabled cfg b := by
  cases input with
  | _ => exact Iff.rfl

/-- The worker does nothing while the service is closed. -/
lemma sparesQueue_close : (Input.close).SparesQueue cfg b := fun _ hmem => by cases hmem

/-- **What comes from inside is handled as without the close.** -/
lemma apply_close (hspares : input.SparesQueue cfg b.close) (hinternal : input.isInternal = true)
    (hprocess : input.isRestart = false) :
    input.apply cfg b.close = (input.apply cfg b).close := by
  cases input with
  | tryPush message => cases hinternal
  | pushPublishCompletion completion => cases hinternal
  | close => cases hinternal
  | processNext answers now => exact processNext_close cfg answers b now
  | finishReady answers now => exact finishReady_close cfg answers b now hspares
  | setDatabaseAvailable available => rfl
  | setMqttAvailable available => rfl
  | updateDevice answers devices record published now =>
      exact updateDevice_close cfg answers b devices record published now hspares
  | worker event =>
      have hspared : Spares b.close event := hspares (b.close, event) (List.mem_singleton_self _)
      exact workerTurn_close b (emitted_of_spares b hspared)
  | restart sources devices now => cases hprocess

/-- What comes from outside is refused. -/
lemma apply_close_external (hexternal : input.isInternal = false) :
    input.apply cfg b.close = b.close := by
  cases input with
  | tryPush message => rfl
  | pushPublishCompletion completion => rfl
  | close => rfl
  | _ => cases hexternal

/-- A run of the closed service is a run of the open one that nothing reaches
from outside. -/
lemma run_close {s : RuntimeBundle} {inputs : List Input}
    (hrun : ((routeService cfg).restrict (SparesQueue cfg)).Run b.close inputs s)
    (hprocess : ∀ input ∈ inputs, input.isRestart = false) :
    ∃ s', (routeService cfg).Run b (inputs.filter isInternal) s' ∧ s = s'.close := by
  induction inputs generalizing b with
  | nil =>
      cases hrun
      exact ⟨b, .nil b, rfl⟩
  | cons input inputs ih =>
      cases hrun with
      | cons henabled hrest =>
          have hlater : ∀ later ∈ inputs, later.isRestart = false :=
            fun later hmem => hprocess later (List.mem_cons_of_mem _ hmem)
          cases hinternal : input.isInternal with
          | false =>
              have hsame : input.apply cfg b.close = b.close := apply_close_external hinternal
              obtain ⟨s', hopen, hs⟩ := ih (by rw [← hsame]; exact hrest) hlater
              refine ⟨s', ?_, hs⟩
              rwa [List.filter_cons_of_neg (by simp [hinternal])]
          | true =>
              have hsame : input.apply cfg b.close = (input.apply cfg b).close :=
                apply_close henabled.2 hinternal (hprocess input (List.mem_cons_self ..))
              obtain ⟨s', hopen, hs⟩ := ih (by rw [← hsame]; exact hrest) hlater
              refine ⟨s', ?_, hs⟩
              rw [List.filter_cons_of_pos hinternal]
              exact .cons (enabled_close.mp henabled.1) hopen

end Input

/-! ### The drain -/

/-- **Shutdown drain**: where the worker has no task left to execute once the
service is closed, the service goes on from `Close` as it would have without it,
but for what comes from outside; its operations stay accounted, and none is
outstanding once the worker's queue and the results are empty. -/
theorem drained_after_close {cfg : CommandServiceConfig} {b s : RuntimeBundle}
    {inputs : List Input}
    (hb : ((routeService cfg).restrict (Input.SparesQueue cfg)).Reachable b)
    (hrun : ((routeService cfg).restrict (Input.SparesQueue cfg)).Run b (.close :: inputs) s)
    (hprocess : ∀ input ∈ inputs, input.isRestart = false) :
    (∃ s', (routeService cfg).Run b (inputs.filter Input.isInternal) s' ∧ s = s'.close) ∧
      s.outstandingOperations = s.operations.keys.length ∧
      (∀ i ∈ s.operations.keys,
        i ∈ s.commands.map Prod.fst ∨
          i ∈ s.databaseResults.map CommandDatabaseResult.operationId) ∧
      (s.commands = [] → s.databaseResults = [] → s.outstandingOperations = 0) := by
  have hbalanced : Balanced s := (balanced_of_reachable (hb.run hrun)).2
  cases hrun with
  | cons henabled hrest =>
      refine ⟨Input.run_close hrest hprocess, hbalanced.outstanding,
        hbalanced.queued_or_answered, fun hcommands hresults => ?_⟩
      rw [hbalanced.outstanding, hbalanced.drained hcommands hresults]
      rfl

namespace Sample

/-- The publication has completed, and its result waits to be stored. -/
def storing : RuntimeBundle :=
  play config started (submitted .config true ++
    [.pushPublishCompletion ⟨1, true⟩, .processNext PlainInput.unusedUuid true 6])

/-- The worker executes what is queued, and the service handles what comes. -/
def drainInputs : List PlainInput :=
  [.worker (.runCommand .completed), .processNext PlainInput.unusedUuid true 6,
    .finishReady true 7]

/-- The status in memory of the first command. -/
def memoryStatus (b : RuntimeBundle) : Option CommandStatus :=
  ((b.activeCommands.lookup commandId).bind (·.record)).map (·.status)

/-- The stored status of the first command. -/
def storedStatus (b : RuntimeBundle) : Option CommandStatus :=
  (b.table.findCommandById commandId).map (·.status)

end Sample

open Sample

/-- The sample installation, closed when the dispatch is stored but not handled:
it is handled, and nothing is outstanding. -/
theorem drained_after_close_handled :
    memoryStatus (play Sample.config (storing.workerTurn (.runCommand .completed)).close
        (drainInputs.drop 1)) = some .dispatched ∧
      (play Sample.config (storing.workerTurn (.runCommand .completed)).close
        (drainInputs.drop 1)).outstandingOperations = 0 := by
  have htest : ∀ b (input : PlainInput),
      decide ((input.toInput b).SparesQueue Sample.config b) = true →
        (input.toInput b).SparesQueue Sample.config b := fun _ _ h => of_decide_eq_true h
  have hb : ((routeService Sample.config).restrict (Input.SparesQueue Sample.config)).Reachable
      (storing.workerTurn (.runCommand .completed)) :=
    @reachable_of_admitted _ _ _ htest _
      (reachable_of_admitted htest (reachable_firstStart _ _ _ _) (by decide +kernel))
      [.worker (.runCommand .completed)] (by decide +kernel)
  have hrun : ((routeService Sample.config).restrict (Input.SparesQueue Sample.config)).Run
      (storing.workerTurn (.runCommand .completed)).close
      (inputsOf Sample.config (storing.workerTurn (.runCommand .completed)).close
        (drainInputs.drop 1))
      (play Sample.config (storing.workerTurn (.runCommand .completed)).close
        (drainInputs.drop 1)) := run_of_admitted htest (by decide +kernel)
  refine ⟨by decide +kernel, ?_⟩
  have hclosed := Machine.Run.cons
    (m := (routeService Sample.config).restrict (Input.SparesQueue Sample.config))
    (s := storing.workerTurn (.runCommand .completed)) (i := Input.close)
    ⟨trivial, Input.sparesQueue_close⟩ hrun
  exact (drained_after_close hb hclosed (by decide +kernel)).2.2.2 (by decide +kernel)
    (by decide +kernel)

/-- Closed one turn of the worker earlier: the store works, the worker executes
its task and both queues are empty, but the result is gone.  The row is
dispatched, in memory the command is pending for ever, and its operation stays
outstanding. -/
theorem result_dropped :
    (routeService Sample.config).Reachable
        (play Sample.config storing.close drainInputs) ∧
      (play Sample.config storing.close drainInputs).commands = [] ∧
      (play Sample.config storing.close drainInputs).databaseResults = [] ∧
      (play Sample.config storing.close drainInputs).outstandingOperations = 1 ∧
      storedStatus (play Sample.config storing.close drainInputs) = some .dispatched ∧
      memoryStatus (play Sample.config storing.close drainInputs) = some .pending ∧
      memoryStatus (play Sample.config storing drainInputs) = some .dispatched := by
  have hstoring : (routeService Sample.config).Reachable storing := by
    rw [storing, started]
    exact reachable_of_played (reachable_firstStart Sample.config (fun _ _ => True) Sample.sources
      (DeviceRegistry.empty.put (Sample.device .online))).of_restrict (by decide +kernel)
  have hclosed : (routeService Sample.config).Reachable storing.close :=
    .step (m := routeService Sample.config) (i := .close) hstoring trivial
  refine ⟨reachable_of_played hclosed (by decide +kernel), ?_⟩
  decide +kernel

end CnsServer
