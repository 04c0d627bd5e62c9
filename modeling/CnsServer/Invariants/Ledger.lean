/-
Rows, results and acknowledgements.

Every source ACK that names a command is made from a result of the database, and
results come back in the order in which the worker executed the tasks.  So the
statuses that are acknowledged for a command follow the statuses its row went
through:

* `ServiceStep`: what a tick of the service, as opposed to the worker, can do to
  the two queues and to the trace;
* `Ledger`: acknowledged statuses are below the reported ones, these below the
  status of the row, and each of the three sequences follows `CanTransition`;
* `ledger_of_reachable`: it holds in every reachable state.
-/
import CnsServer.Invariants.Wellformed

namespace CnsServer

open RuntimeBundle CommandStatus

/-! ### The trace -/

/-- The source ACKs of a trace, latest first. -/
def sourceAcks (events : List Event) : List SourceAck :=
  events.filterMap fun
    | .acked _ ack _ => some ack
    | _ => none

/-- The versions of rows a trace commits, latest first. -/
def committedRows (events : List Event) : List CommandRecord :=
  events.filterMap fun
    | .committed record => some record
    | _ => none

lemma sourceAcks_append (es events : List Event) :
    sourceAcks (es ++ events) = sourceAcks es ++ sourceAcks events := List.filterMap_append

lemma committedRows_append (es events : List Event) :
    committedRows (es ++ events) = committedRows es ++ committedRows events :=
  List.filterMap_append

lemma mem_sourceAcks {events : List Event} {ack : SourceAck} :
    ack ∈ sourceAcks events ↔ ∃ topic cause, .acked topic ack cause ∈ events := by
  rw [sourceAcks]
  rw [List.mem_filterMap]
  constructor
  · rintro ⟨e, he, heq⟩
    cases e <;> simp_all
    exact ⟨_, _, he⟩
  · rintro ⟨topic, cause, h⟩
    exact ⟨_, h, rfl⟩

lemma mem_committedRows {events : List Event} {r : CommandRecord} :
    r ∈ committedRows events ↔ .committed r ∈ events := by
  rw [committedRows]
  rw [List.mem_filterMap]
  constructor
  · rintro ⟨e, he, heq⟩
    cases e <;> simp_all
  · intro h
    exact ⟨_, h, rfl⟩

/-- The records reported by the results on their way back, oldest first. -/
def reportedRows (b : RuntimeBundle) : List CommandRecord :=
  b.databaseResults.filterMap fun result => reported result.value

lemma mem_reportedRows {b : RuntimeBundle} {r : CommandRecord} :
    r ∈ reportedRows b ↔ ∃ result ∈ b.databaseResults, reported result.value = some r :=
  List.mem_filterMap

/-- The ACK repeats a reported record. -/
def Acknowledges (ack : SourceAck) (r : CommandRecord) : Prop :=
  ack.commandId = some r.commandId ∧ ack.status = r.status

lemma acknowledges_buildSourceAck (r : CommandRecord) (target : Option ResolvedTarget)
    (now : TimePoint) : Acknowledges (buildSourceAck r target now) r :=
  ⟨buildSourceAck_commandId r target now, buildSourceAck_status r target now⟩

/-- The events of the service, as opposed to those of the worker; a rejection
names no command. -/
def Event.IsService : Event → Prop
  | .committed _ => False
  | .removed _ => False
  | .acked _ ack (.rejection _) => ack.commandId = none
  | _ => True

/-! ### Ticks of the service -/

/-- What the service has done before it submits: at most one result is taken,
and at most one ACK is sent, for the record that result reports. -/
structure PreStep (b b' : RuntimeBundle) : Prop where
  table : b'.table = b.table
  past : b'.past = b.past
  commands : b'.commands = b.commands
  nextOperationId : b'.nextOperationId = b.nextOperationId
  closed : b.closed = true → b'.closed = true
  results : b'.databaseResults = b.databaseResults ∨
    ∃ result, b.databaseResults = result :: b'.databaseResults
  operations : ∀ i, (∀ result, b.databaseResults = result :: b'.databaseResults →
    result.operationId ≠ i) → b'.operations.lookup i = b.operations.lookup i
  consumed : ∀ result, b.databaseResults = result :: b'.databaseResults →
    b'.operations.lookup result.operationId = none
  oldOperations : ∀ i operation, b'.operations.lookup i = some operation →
    b.operations.lookup i = some operation
  log : ∃ es, b'.log = es ++ b.log ∧ (∀ e ∈ es, e.IsService) ∧
    ((∀ ack ∈ sourceAcks es, ack.commandId = none) ∨
      ∃ ack result r, sourceAcks es = [ack] ∧
        b.databaseResults = result :: b'.databaseResults ∧ reported result.value = some r ∧
        Acknowledges ack r)

/-- What a tick of the service does to the queues and the trace: as before, and
at most one task is queued, a new record if it is an insertion. -/
structure ServiceStep (b b' : RuntimeBundle) : Prop where
  table : b'.table = b.table
  past : b'.past = b.past
  closed : b.closed = true → b'.closed = true
  results : b'.databaseResults = b.databaseResults ∨
    ∃ result, b.databaseResults = result :: b'.databaseResults
  operations : ∀ i < b.nextOperationId, (∀ result,
    b.databaseResults = result :: b'.databaseResults → result.operationId ≠ i) →
      b'.operations.lookup i = b.operations.lookup i
  consumed : ∀ result, b.databaseResults = result :: b'.databaseResults →
    result.operationId < b.nextOperationId → b'.operations.lookup result.operationId = none
  newOperation : ∀ i operation, b'.operations.lookup i = some operation →
    b.operations.lookup i = some operation ∨ (i = b.nextOperationId ∧
      (operation.kind = .insert → ∀ own, operation.context.record = some own →
        own.commandId ∉ createdIds b.trace))
  commands : b'.commands = b.commands ∨
    ∃ task, b'.commands = b.commands ++ [(b.nextOperationId, task)] ∧
      ∀ command, task = .insertCommand command → command.commandId ∉ createdIds b.trace
  log : ∃ es, b'.log = es ++ b.log ∧ (∀ e ∈ es, e.IsService) ∧
    ((∀ ack ∈ sourceAcks es, ack.commandId = none) ∨
      ∃ ack result r, sourceAcks es = [ack] ∧
        b.databaseResults = result :: b'.databaseResults ∧ reported result.value = some r ∧
        Acknowledges ack r)

namespace PreStep

variable {b b' : RuntimeBundle} {cfg : CommandServiceConfig}

lemma refl (b : RuntimeBundle) : PreStep b b :=
  ⟨rfl, rfl, rfl, rfl, id, .inl rfl, fun _ _ => rfl,
    fun _ h => absurd h.symm (List.cons_ne_self _ _), fun _ _ h => h, [], rfl, by simp,
    .inl (by simp [sourceAcks])⟩

lemma service (h : PreStep b b') : ServiceStep b b' :=
  ⟨h.table, h.past, h.closed, h.results, fun i _ => h.operations i, fun r hr _ => h.consumed r hr,
    fun i op hop => .inl (h.oldOperations i op hop), .inl h.commands, h.log⟩

/-- The operation of the result at the front is no longer in the map. -/
lemma consumed_head {operationId : ℕ} {value : Except DatabaseError CommandDatabaseValue}
    {rest : List CommandDatabaseResult}
    (hhead : b.databaseResults = ⟨operationId, value⟩ :: rest) :
    ∀ result, b.databaseResults = result :: rest →
      (b.operations.erase operationId).lookup result.operationId = none := by
  intro result hresult
  rw [hhead] at hresult
  obtain ⟨rfl, _⟩ := List.cons.inj hresult
  exact AList.lookup_erase _ _

lemma taken {operationId : ℕ} {value : Except DatabaseError CommandDatabaseValue}
    {rest : List CommandDatabaseResult}
    (hhead : b.databaseResults = ⟨operationId, value⟩ :: rest) :
    PreStep b (b.taken operationId rest) :=
  ⟨rfl, rfl, rfl, rfl, id, .inr ⟨_, hhead⟩,
    fun _ hi => AList.lookup_erase_ne (hi _ hhead).symm, consumed_head hhead,
    fun _ _ h => (Map.lookup_erase_some.mp h).2, [], rfl, by simp, .inl (by simp [sourceAcks])⟩

/-- The record of the taken result is acknowledged. -/
lemma acked {operationId : ℕ} {value : Except DatabaseError CommandDatabaseValue}
    {rest : List CommandDatabaseResult} {r : CommandRecord} {topic : String} {ack : SourceAck}
    {cause : AckCause} (hhead : b.databaseResults = ⟨operationId, value⟩ :: rest)
    (hr : reported value = some r) (hack : Acknowledges ack r)
    (hcause : ∀ i, cause ≠ .rejection i) :
    PreStep b { b.taken operationId rest with log := .acked topic ack cause :: b.log } :=
  ⟨rfl, rfl, rfl, rfl, id, .inr ⟨_, hhead⟩,
    fun _ hi => AList.lookup_erase_ne (hi _ hhead).symm, consumed_head hhead,
    fun _ _ h => (Map.lookup_erase_some.mp h).2, [.acked topic ack cause], rfl,
    by cases cause <;> simp_all [Event.IsService], .inr ⟨ack, _, r, rfl, hhead, hr, hack⟩⟩

/-- One more event that is no ACK. -/
lemma emit (h : PreStep b b') {event : Event} (hevent : event.IsService)
    (hack : sourceAcks [event] = []) : PreStep b (b'.emit event) := by
  obtain ⟨es, hlog, hes, hacks⟩ := h.log
  refine ⟨h.table, h.past, h.commands, h.nextOperationId, h.closed, h.results, h.operations,
    h.consumed, h.oldOperations, event :: es, ?_, ?_, ?_⟩
  · change event :: b'.log = _
    rw [hlog, List.cons_append]
  · simpa [hevent] using hes
  · rw [← List.singleton_append, sourceAcks_append, hack]
    exact hacks

/-- A submission, of a new record if it is an insertion. -/
lemma submit (h : PreStep b b') {kind : OperationKind} {context : RequestContext}
    {task : CommandDatabaseTask}
    (hkind : kind = .insert → ∀ own, context.record = some own →
      own.commandId ∉ createdIds b.trace)
    (hnew : ∀ command, task = .insertCommand command → command.commandId ∉ createdIds b.trace) :
    ServiceStep b (b'.submit cfg kind context task).2 := by
  obtain ⟨es, hlog, hes, hacks⟩ := h.log
  have hacks' : ∀ accepted, sourceAcks
      (.submitted b.nextOperationId task accepted :: es) = sourceAcks es := fun _ => rfl
  rcases submit_cases cfg b' kind context task with heq | heq
  · rw [heq]
    refine ⟨h.table, h.past, h.closed, h.results, fun i hlt hi => ?_, fun r hr hlt => ?_,
      fun i op hop => ?_, .inr ⟨task, ?_, hnew⟩, .submitted b.nextOperationId task true :: es,
      ?_, ?_, ?_⟩
    -- the new operation has an id of its own
    · rw [← h.operations i hi]
      exact AList.lookup_insert_ne (h.nextOperationId ▸ hlt.ne)
    · rw [← h.consumed r hr]
      exact AList.lookup_insert_ne (h.nextOperationId ▸ hlt.ne)
    · rcases Map.lookup_insert_some.mp hop with ⟨rfl, rfl⟩ | ⟨_, hop⟩
      · exact .inr ⟨h.nextOperationId, hkind⟩
      · exact .inl (h.oldOperations i op hop)
    · change b'.commands ++ [(b'.nextOperationId, task)] = _
      rw [h.commands, h.nextOperationId]
    · change Event.submitted b'.nextOperationId task true :: b'.log = _
      rw [hlog, h.nextOperationId, List.cons_append]
    · simpa [Event.IsService] using hes
    · rw [hacks']; exact hacks
  · rw [heq]
    refine ⟨h.table, h.past, h.closed, h.results, fun i _ hi => h.operations i hi,
      fun r hr _ => h.consumed r hr, fun i op hop => .inl (h.oldOperations i op hop),
      .inl h.commands, .submitted b.nextOperationId task false :: es, ?_, ?_, ?_⟩
    · change Event.submitted b'.nextOperationId task false :: b'.log = _
      rw [hlog, h.nextOperationId, List.cons_append]
    · simpa [Event.IsService] using hes
    · rw [hacks']; exact hacks

/-- A transition is formed. -/
lemma form (h : PreStep b b') (context : RequestContext) (task : TransitionCommandTask) :
    ServiceStep b (b'.submitTransitionOrDefer cfg context task) := by
  have hformed : PreStep b (b'.emit (.formed task (b'.replaced task.commandId))) :=
    h.emit trivial rfl
  have hsubmit : ServiceStep b ((b'.emit (.formed task (b'.replaced task.commandId))).submit cfg
      .transition context task.toTask).2 :=
    hformed.submit (fun hkind => by cases hkind) fun command heq => by cases heq
  rw [submitTransitionOrDefer]
  split
  · next b₁ heq =>
      rw [heq] at hsubmit
      exact { hsubmit with }
  · next b₁ heq =>
      rw [heq] at hsubmit
      exact { hsubmit with }

/-- A message goes to the device publisher. -/
lemma publish (h : PreStep b b') (answers : Answers) (context : RequestContext)
    (now : TimePoint) : ServiceStep b (b'.publishRecord cfg answers context now) := by
  rcases publishRecord_cases cfg answers b' context now with
    heq | ⟨record, deviceId, payload, _, _, _, _, heq | heq⟩
  · rw [heq]; exact h.service
  · rw [heq]
    have hpub : PreStep b (b'.emit (.published b'.nextPublishToken
      (deviceSetTopic cfg.topicNamespace deviceId context.commandType) payload record true)) :=
      h.emit trivial rfl
    exact { hpub.service with }
  · rw [heq]
    have hpub : PreStep b (b'.emit (.published b'.nextPublishToken
      (deviceSetTopic cfg.topicNamespace deviceId context.commandType) payload record false)) :=
      h.emit trivial rfl
    have hunsent : PreStep b (b'.unsent cfg context record deviceId payload) :=
      { hpub with }
    exact hunsent.form _ _

end PreStep

/-- **Ticks other than the worker's are steps of the service.** -/
lemma TickIf.serviceStep {T : Limits} {cfg : CommandServiceConfig} {b b' : RuntimeBundle}
    (htick : TickIf T cfg b b') :
    (∃ event : WorkerEvent, event.Admissible ∧ T.turn b event ∧ b' = b.workerTurn event) ∨
      ServiceStep b b' := by
  cases htick with
  | quiet hcore =>
      obtain ⟨es, hlog, hes⟩ := hcore.log
      refine .inr ⟨hcore.table, hcore.past, hcore.closed, .inl hcore.databaseResults,
        fun i _ _ => hcore.operations i,
        fun r hr _ => absurd (hr.symm.trans hcore.databaseResults.symm) (List.cons_ne_self _ _),
        fun i op hop => .inl (hcore.operations i ▸ hop), .inl hcore.commands, es, hlog,
        fun e he => ?_,
        .inl fun ack hack => ?_⟩
      · have := hes e he
        cases e with
        | acked topic ack cause =>
            obtain ⟨hrejection, rfl, -⟩ := this
            exact hrejection.commandId
        | _ => simp_all [Event.IsQuiet, Event.IsService]
      · obtain ⟨topic, cause, he⟩ := mem_sourceAcks.mp hack
        exact (hes _ he).1.commandId
  | worker hevent hturn => exact .inl ⟨_, hevent, hturn, rfl⟩
  | @mqtt available =>
      have h : PreStep b (b.emit (.mqttAvailable available)) := (PreStep.refl b).emit trivial rfl
      exact .inr { h.service with }
  | @device devices record cleared _ =>
      have h : PreStep b (b.emit (.deviceUpdated record.deviceId
        (b.devices.isOnline record.deviceId) (devices.isOnline record.deviceId) cleared)) :=
        (PreStep.refl b).emit trivial rfl
      exact .inr { h.service with }
  | find =>
      exact .inr ((PreStep.refl b).submit (fun hkind => by cases hkind)
        fun command heq => by cases heq)
  | cleanup =>
      exact .inr ((PreStep.refl b).submit (fun hkind => by cases hkind)
        fun command heq => by cases heq)
  | @consumed operationId value rest events hhead hconsumed =>
      refine .inr (PreStep.service ?_)
      cases hconsumed with
      | unknown => exact .taken hhead
      | failed =>
          have h : PreStep b ((b.taken operationId rest).emit (.databaseError operationId)) :=
            (PreStep.taken hhead).emit trivial rfl
          exact h
      | ignored => exact .taken hhead
      | rejected =>
          exact ⟨rfl, rfl, rfl, rfl, id, .inr ⟨_, hhead⟩,
            fun _ hi => AList.lookup_erase_ne (hi _ hhead).symm, PreStep.consumed_head hhead,
            fun _ _ h => (Map.lookup_erase_some.mp h).2, [_], rfl,
            by simp [Event.IsService, buildPrePersistenceRejection, baseAck],
            .inl (by simp [sourceAcks, buildPrePersistenceRejection, baseAck])⟩
      | @replayed operation existing payload now _ _ hwhich =>
          refine .acked (r := existing) hhead ?_ (acknowledges_buildSourceAck _ _ _) (by simp)
          rcases hwhich with ⟨_, rfl, _⟩ | ⟨_, _, rfl, _⟩ <;> rfl
  | @create answers operationId operation rest requestId payload hhead _ _ _ _ huuid =>
      have h : PreStep b ((b.taken operationId rest).emit (.created operationId
          (b.newCommand answers operation.context requestId payload).1)) :=
        (PreStep.taken hhead).emit trivial rfl
      have hfresh : (b.newCommand answers operation.context requestId payload).1.commandId ∉
          createdIds b.trace := by
        rw [(Wellformed.newCommand_spec answers b operation.context requestId payload).1]
        exact huuid
      exact .inr (h.submit (fun _ own hown => by cases hown; exact hfresh)
        fun command heq => by cases heq; exact hfresh)
  | conflict hhead =>
      exact .inr ((PreStep.taken hhead).submit (fun hkind => by cases hkind)
        fun command heq => by cases heq)
  | @activate answers operationId operation rest record now hhead _ _ _ _ =>
      have h := PreStep.taken hhead
      have hactive : PreStep b { b.taken operationId rest with
          activeCommands := b.activeCommands.insert record.commandId
            { operation.context with record := some record } } :=
        { h with }
      exact .inr (hactive.publish answers _ now)
  -- only a replay, `refresh` and `finish` acknowledge a row, that of the result they take
  | @refresh operationId operation rest record context now hhead =>
      have h : PreStep b { b.taken operationId rest with
          log := .acked (sourceAckTopic cfg.topicNamespace context.sourceId context.commandType)
            (buildSourceAck record context.target now) .lifecycle :: b.log } :=
        .acked hhead rfl (acknowledges_buildSourceAck _ _ _) (by simp)
      exact .inr { h.service with }
  | settle hhead =>
      have h := PreStep.taken hhead
      exact .inr { h.service with }
  | @converge operationId operation rest current desired target update commandId _ hwhich =>
      rcases hwhich with ⟨hhead, _⟩ | ⟨hhead, _⟩
      · exact .inr ((PreStep.taken hhead).form _ _)
      · exact .inr ((PreStep.taken hhead).form _ _)
  | @finish operationId operation rest record value context now hhead _ hwhich =>
      have h : PreStep b { b.taken operationId rest with
          log := .acked (sourceAckTopic cfg.topicNamespace context.sourceId context.commandType)
            (buildSourceAck record context.target now) .lifecycle :: b.log } := by
        refine .acked (r := record) hhead ?_ (acknowledges_buildSourceAck _ _ _) (by simp)
        rcases hwhich with ⟨_, rfl⟩ | ⟨_, rfl, _⟩ | ⟨_, rfl, _⟩ <;> rfl
      exact .inr { h.service with }
  | finished hhead =>
      have h := PreStep.taken hhead
      exact .inr { h.service with }
  | @deviceAck context record ack deviceId payload type now =>
      have h : PreStep b (b.emit (.deviceAcked deviceId type ack (some record.status))) :=
        (PreStep.refl b).emit trivial rfl
      exact .inr (h.form _ _)
  | @buffer context record ack deviceId payload type now =>
      have h : PreStep b (b.emit (.deviceAcked deviceId type ack (some record.status))) :=
        (PreStep.refl b).emit trivial rfl
      rcases bufferEarlyAck_cases cfg (b.emit (.deviceAcked deviceId type ack
        (some record.status))) type ack ⟨deviceId, payload, now⟩ with
        ⟨kept, _, heq⟩ | ⟨message, heq⟩
      · rw [heq]
        exact .inr { h.service with }
      · rw [heq]
        have h' : PreStep b ((b.emit (.deviceAcked deviceId type ack
          (some record.status))).emit (.diagnosed message)) := h.emit trivial rfl
        exact .inr h'.service
  | @timeout commandId context record now =>
      have h := PreStep.refl b
      have hmarked : PreStep b { b with
          recoveryStarted := insert commandId b.recoveryStarted } :=
        { h with }
      exact .inr (hmarked.form _ _)
  | @republish answers commandId deviceId context record now =>
      have h := PreStep.refl b
      have hmarked : PreStep b { b with
          recoveryStarted := insert commandId b.recoveryStarted } :=
        { h with }
      exact .inr (hmarked.publish answers context now)
  | @complete completion context now hfound =>
      have h := PreStep.refl b
      have hemit : ∀ record, PreStep b (b.completionTaken completion.token record
          completion.result) := fun record => by
        have h' : PreStep b (b.emit (.completed record completion.result)) := h.emit trivial rfl
        exact { h' with }
      rcases handleCompletion_cases cfg now hfound with
        ⟨_, heq⟩ | ⟨record, _, ⟨_, _, heq⟩ | ⟨_, heq⟩⟩
      · rw [heq]
        exact .inr { h.service with }
      · rw [heq]
        exact .inr (hemit record).service
      · rw [heq]
        exact .inr ((hemit record).form _ _)
  | @retry key deferred =>
      have h := PreStep.refl b
      have herased : PreStep b { b with
          deferredTransitions := b.deferredTransitions.erase key } :=
        { h with }
      have hsubmit : ServiceStep b ({ b with
          deferredTransitions := b.deferredTransitions.erase key }.submit cfg .transition
          deferred.context deferred.task.toTask).2 :=
        herased.submit (fun hkind => by cases hkind) fun command heq => by cases heq
      rw [retryDeferred]
      split
      · next b₁ heq => rw [heq] at hsubmit; exact .inr hsubmit
      · next b₁ heq =>
          rw [heq] at hsubmit
          exact .inr { hsubmit with }

lemma Tick.serviceStep {cfg : CommandServiceConfig} {b b' : RuntimeBundle}
    (htick : Tick cfg b b') :
    (∃ event : WorkerEvent, event.Admissible ∧ b' = b.workerTurn event) ∨ ServiceStep b b' :=
  (TickIf.serviceStep htick).imp (fun ⟨event, hevent, _, heq⟩ => ⟨event, hevent, heq⟩) id

/-! ### The ledger -/

/-- One version of a row may follow another: it is a later status of the same
command, and the other one was not terminal. -/
def Follows (later earlier : CommandRecord) : Prop :=
  later.commandId = earlier.commandId →
    StatusLe earlier.status later.status ∧ earlier.status.isTerminal = false

/-- Rows, reports and acknowledgements of a command are in the order of its
statuses. -/
structure Ledger (b : RuntimeBundle) : Prop where
  committed_known : ∀ r ∈ committedRows b.trace, Known b.trace r
  row_committed : ∀ c r, b.table.findCommandById c = some r → r ∈ committedRows b.trace
  report_committed : ∀ r ∈ reportedRows b, r ∈ committedRows b.trace
  ack_committed : ∀ l₁ topic ack cause l₂ c, b.trace = l₁ ++ .acked topic ack cause :: l₂ →
    ack.commandId = some c → ∃ r ∈ committedRows l₂, Acknowledges ack r
  committed_le_row : ∀ r ∈ committedRows b.trace, ∀ row,
    b.table.findCommandById r.commandId = some row → StatusLe r.status row.status
  committed_sorted : (committedRows b.trace).Pairwise Follows
  reports_sorted : (reportedRows b).Pairwise fun r s =>
    r.commandId = s.commandId → StatusLe r.status s.status
  acks_le_reports : ∀ ack ∈ sourceAcks b.trace, ∀ r ∈ reportedRows b,
    ack.commandId = some r.commandId → StatusLe ack.status r.status
  acks_sorted : (sourceAcks b.trace).Pairwise fun later earlier => ∀ c,
    later.commandId = some c → earlier.commandId = some c →
      StatusLe earlier.status later.status
  insertions : ∀ i command, (i, .insertCommand command) ∈ b.commands →
    (∀ r ∈ committedRows b.trace, r.commandId = command.commandId →
      b.commands.head? = some (i, .insertCommand command) ∧
        b.table.findCommandById command.commandId = some command.stored) ∧
    (∀ r ∈ reportedRows b, r.commandId ≠ command.commandId) ∧
    (∀ ack ∈ sourceAcks b.trace, ack.commandId ≠ some command.commandId)
  insertions_unique : ∀ i j command command', (i, .insertCommand command) ∈ b.commands →
    (j, .insertCommand command') ∈ b.commands → command.commandId = command'.commandId → i = j
  rejections : ∀ topic ack i, .acked topic ack (.rejection i) ∈ b.trace → ack.commandId = none

namespace Ledger

variable {b b' : RuntimeBundle}

/-- Every acknowledged status is one the row had. -/
lemma ack_committed' (h : Ledger b) {ack : SourceAck} (hack : ack ∈ sourceAcks b.trace)
    {c : String} (hc : ack.commandId = some c) :
    ∃ r ∈ committedRows b.trace, Acknowledges ack r := by
  obtain ⟨topic, cause, he⟩ := mem_sourceAcks.mp hack
  obtain ⟨l₁, l₂, hsplit⟩ := List.append_of_mem he
  obtain ⟨r, hr, hacks⟩ := h.ack_committed l₁ topic ack cause l₂ c hsplit hc
  refine ⟨r, ?_, hacks⟩
  rw [hsplit, committedRows_append]
  exact List.mem_append_right _ (List.mem_filterMap.mpr (by
    obtain ⟨e, he, heq⟩ := List.mem_filterMap.mp hr
    exact ⟨e, List.mem_cons_of_mem _ he, heq⟩))

/-- The record of a queued insertion is a known one. -/
lemma insertion_known (hw : Wellformed b) {i : ℕ} {command : CommandRecord}
    (hmem : (i, .insertCommand command) ∈ b.commands) : Known b.trace command := by
  obtain ⟨operation, hop, _, hrecord⟩ := hw.queue i _ hmem
  exact (hw.operation_context hop hrecord).known

lemma committedRows_of_isService {es : List Event} (h : ∀ e ∈ es, e.IsService) :
    committedRows es = [] := by
  rw [committedRows]
  rw [List.filterMap_eq_nil_iff]
  intro e he
  have := h e he
  cases e <;> simp_all [Event.IsService]

/-- A step of the service commits nothing. -/
lemma committedRows_service (hstep : ServiceStep b b') :
    committedRows b'.trace = committedRows b.trace := by
  obtain ⟨es, hlog, hes, _⟩ := hstep.log
  rw [RuntimeBundle.trace, hlog, hstep.past, List.append_assoc, committedRows_append,
    committedRows_of_isService hes, List.nil_append]
  rfl

/-- The reports of a state whose results are those of another, or their tail. -/
lemma reportedRows_sublist
    (h : b'.databaseResults = b.databaseResults ∨
      ∃ result, b.databaseResults = result :: b'.databaseResults) :
    (reportedRows b').Sublist (reportedRows b) := by
  simp only [reportedRows]
  rcases h with h | ⟨result, h⟩
  · rw [h]
  · rw [h]
    exact (List.sublist_cons_self _ _).filterMap _

/-- **A step of the service keeps the ledger**: what it acknowledges is the
oldest report. -/
lemma service (hw : Wellformed b) (h : Ledger b) (hstep : ServiceStep b b') : Ledger b' := by
  obtain ⟨es, hlog, hes, hacks⟩ := hstep.log
  have htrace : b'.trace = es ++ b.trace := by
    simp only [RuntimeBundle.trace]
    rw [hlog, hstep.past, List.append_assoc]
  have hsub : ∀ e ∈ b.trace, e ∈ b'.trace := fun e he => by
    rw [htrace]; exact List.mem_append_right _ he
  have hcommitted : committedRows b'.trace = committedRows b.trace := committedRows_service hstep
  have hreports := reportedRows_sublist hstep.results
  -- an ACK of this step is for the oldest report
  have hnew : ∀ ack ∈ sourceAcks es, ∀ c, ack.commandId = some c → ∃ r ∈ reportedRows b,
      Acknowledges ack r ∧
        ∀ s ∈ reportedRows b', r.commandId = s.commandId → StatusLe r.status s.status := by
    intro ack hack c hc
    rcases hacks with hnone | ⟨ack', result, r, heq, hhead, hr, hack'⟩
    · rw [hnone ack hack] at hc; cases hc
    · rw [heq, List.mem_singleton] at hack
      subst hack
      have hsplit : reportedRows b = r :: reportedRows b' := by
        simp only [reportedRows]
        rw [hhead, List.filterMap_cons, hr]
      have hsorted := h.reports_sorted
      rw [hsplit, List.pairwise_cons] at hsorted
      exact ⟨r, by rw [hsplit]; exact List.mem_cons_self, hack', hsorted.1⟩
  -- a new insertion is for an id that nothing has yet
  have hold : ∀ i command, (i, CommandDatabaseTask.insertCommand command) ∈ b'.commands →
      (i, CommandDatabaseTask.insertCommand command) ∈ b.commands ∨
        (i = b.nextOperationId ∧ command.commandId ∉ createdIds b.trace) := by
    intro i command hmem
    rcases hstep.commands with heq | ⟨task, heq, hfresh⟩
    · exact .inl (heq ▸ hmem)
    · rw [heq] at hmem
      rcases List.mem_append.mp hmem with hmem | hmem
      · exact .inl hmem
      · cases List.mem_singleton.mp hmem
        exact .inr ⟨rfl, hfresh command rfl⟩
  exact
    { committed_known := fun r hr => by
        rw [hcommitted] at hr
        exact (h.committed_known r hr).mono hsub
      row_committed := fun c r hr => by
        rw [hcommitted]
        exact h.row_committed c r (hstep.table ▸ hr)
      report_committed := fun r hr => by
        rw [hcommitted]
        exact h.report_committed r (hreports.subset hr)
      ack_committed := fun l₁ topic ack cause l₂ c hsplit hc => by
        rw [htrace] at hsplit
        -- the ACK is one of the old trace, or one of this step
        rcases List.append_eq_append_iff.mp hsplit with ⟨l, hl₁, hl₂⟩ | ⟨l, hl₁, hl₂⟩
        · exact h.ack_committed l topic ack cause l₂ c hl₂ hc
        · cases l with
          | nil => exact h.ack_committed [] topic ack cause l₂ c hl₂.symm hc
          | cons e l =>
              obtain ⟨rfl, rfl⟩ := List.cons.inj hl₂
              have hmem : ack ∈ sourceAcks es :=
                mem_sourceAcks.mpr ⟨topic, cause, by rw [hl₁]; simp⟩
              obtain ⟨r, hr, hack, _⟩ := hnew ack hmem c hc
              refine ⟨r, ?_, hack⟩
              change r ∈ committedRows (l ++ b.trace)
              rw [committedRows_append]
              exact List.mem_append_right _ (h.report_committed r hr)
      committed_le_row := fun r hr row hrow => by
        rw [hcommitted] at hr
        exact h.committed_le_row r hr row (hstep.table ▸ hrow)
      committed_sorted := hcommitted ▸ h.committed_sorted
      reports_sorted := h.reports_sorted.sublist hreports
      acks_le_reports := fun ack hack r hr hc => by
        rw [htrace, sourceAcks_append] at hack
        rcases List.mem_append.mp hack with hack | hack
        · obtain ⟨s, _, hs, hle⟩ := hnew ack hack _ hc
          rw [hs.2]
          refine hle r hr ?_
          have hid := hs.1
          rw [hc] at hid
          exact (Option.some.inj hid).symm
        · exact h.acks_le_reports ack hack r (hreports.subset hr) hc
      acks_sorted := by
        rw [htrace, sourceAcks_append, List.pairwise_append]
        refine ⟨?_, h.acks_sorted, fun later hlater earlier hearlier c hc hc' => ?_⟩
        · rcases hacks with hnone | ⟨ack, _, _, heq, _⟩
          · refine List.pairwise_of_forall_mem_list fun later hlater earlier _ c hc _ => ?_
            rw [hnone later hlater] at hc
            cases hc
          · rw [heq]; exact List.pairwise_singleton _ _
        · obtain ⟨r, hr, hack, _⟩ := hnew later hlater c hc
          have hid := hack.1
          rw [hc] at hid
          rw [hack.2]
          exact h.acks_le_reports earlier hearlier r hr (hc'.trans hid)
      insertions := fun i command hmem => by
        rcases hold i command hmem with hmem | ⟨_, hfresh⟩
        · obtain ⟨hcom, hrep, hack⟩ := h.insertions i command hmem
          refine ⟨fun r hr hid => ?_, fun r hr => hrep r (hreports.subset hr), fun ack ha hc => ?_⟩
          · rw [hcommitted] at hr
            obtain ⟨hhead, hrow⟩ := hcom r hr hid
            refine ⟨?_, hstep.table ▸ hrow⟩
            rcases hstep.commands with heq | ⟨task, heq, _⟩
            · rw [heq]; exact hhead
            · rw [heq, List.head?_append, hhead]; rfl
          · rw [htrace, sourceAcks_append] at ha
            rcases List.mem_append.mp ha with ha | ha
            · obtain ⟨r, hr, hack', _⟩ := hnew ack ha _ hc
              have hid := hack'.1
              rw [hc] at hid
              exact hrep r hr (Option.some.inj hid).symm
            · exact hack ack ha hc
        · refine ⟨fun r hr hid => ?_, fun r hr hid => ?_, fun ack ha hc => ?_⟩
          · rw [hcommitted] at hr
            exact absurd (hid ▸ (h.committed_known r hr).mem_createdIds) hfresh
          · have := (h.committed_known r (h.report_committed r (hreports.subset hr))).mem_createdIds
            exact absurd (hid ▸ this) hfresh
          -- whatever is acknowledged was committed, so its id is not fresh
          · have hknown : ∃ r ∈ committedRows b.trace, Acknowledges ack r := by
              rw [htrace, sourceAcks_append] at ha
              rcases List.mem_append.mp ha with ha | ha
              · obtain ⟨r, hr, hack', _⟩ := hnew ack ha _ hc
                exact ⟨r, h.report_committed r hr, hack'⟩
              · exact h.ack_committed' ha hc
            obtain ⟨r, hr, hack'⟩ := hknown
            have hid := hack'.1
            rw [hc] at hid
            exact absurd (Option.some.inj hid ▸ (h.committed_known r hr).mem_createdIds) hfresh
      insertions_unique := fun i j command command' hi hj hid => by
        rcases hold i command hi with hi | ⟨hi, hfresh⟩ <;>
          rcases hold j command' hj with hj | ⟨hj, hfresh'⟩
        · exact h.insertions_unique i j command command' hi hj hid
        · exact absurd (hid ▸ (insertion_known hw hi).mem_createdIds) hfresh'
        · exact absurd (hid ▸ (insertion_known hw hj).mem_createdIds) hfresh
        · rw [hi, hj]
      rejections := fun topic ack i he => by
        rw [htrace] at he
        rcases List.mem_append.mp he with he | he
        · exact hes _ he
        · exact h.rejections topic ack i he }

/-! ### Turns of the worker -/

/-- The task of an operation is one of the service. -/
lemma isService_of_matches {operation : Operation} {task : CommandDatabaseTask}
    (h : Matches operation task) : task.IsService := by
  cases task with
  | recoverControlCommands _ _ => exact h.elim
  | _ => trivial

/-- Two tasks under one operation id are the same. -/
lemma queue_unique (hw : Wellformed b) {i : ℕ} {task task' : CommandDatabaseTask}
    (h : (i, task) ∈ b.commands) (h' : (i, task') ∈ b.commands) : task = task' := by
  have hnodup : (b.commands.map Prod.fst).Nodup :=
    (List.pairwise_append.mp hw.sorted).2.1.imp fun hlt => hlt.ne
  exact (Prod.mk.inj (List.inj_on_of_nodup_map hnodup h h' rfl)).2

/-- A task behind the front one has another operation id. -/
lemma rest_ne (hw : Wellformed b) {i j : ℕ} {task task' : CommandDatabaseTask}
    {rest : List (ℕ × CommandDatabaseTask)} (hqueue : b.commands = (i, task) :: rest)
    (h : (j, task') ∈ rest) : j ≠ i := by
  have hsorted : b.commands.Pairwise fun x y => x.1 < y.1 :=
    List.pairwise_map.mp (List.pairwise_append.mp hw.sorted).2.1
  rw [hqueue, List.pairwise_cons] at hsorted
  exact (hsorted.1 _ h).ne'

/-- A row of a command whose insertion is queued: the insertion is at the front,
and the row is the one it asks for. -/
lemma insertion_front (h : Ledger b) {i j : ℕ} {task : CommandDatabaseTask}
    {rest : List (ℕ × CommandDatabaseTask)} (hqueue : b.commands = (i, task) :: rest)
    {command r : CommandRecord} (hmem : (j, .insertCommand command) ∈ b.commands)
    (hr : r ∈ committedRows b.trace) (hid : r.commandId = command.commandId) :
    j = i ∧ task = .insertCommand command ∧
      b.table.findCommandById command.commandId = some command.stored := by
  obtain ⟨hhead, hrow⟩ := (h.insertions j command hmem).1 r hr hid
  rw [hqueue] at hhead
  cases hhead
  exact ⟨rfl, rfl, hrow⟩

/-- Events without ACKs add no rejections. -/
lemma rejections_append (h : Ledger b) {es : List Event} (hes : sourceAcks es = [])
    (htrace : b'.trace = es ++ b.trace) :
    ∀ topic ack i, .acked topic ack (.rejection i) ∈ b'.trace → ack.commandId = none := by
  intro topic ack i he
  rw [htrace] at he
  rcases List.mem_append.mp he with he | he
  · have hack : ack ∈ sourceAcks es := mem_sourceAcks.mpr ⟨_, _, he⟩
    rw [hes] at hack
    cases hack
  · exact h.rejections topic ack i he

/-- Events without ACKs do not change what is known about the ACKs. -/
lemma ack_committed_append (h : Ledger b) {es : List Event} (hes : sourceAcks es = [])
    (htrace : b'.trace = es ++ b.trace) {l₁ l₂ : List Event} {topic : String} {ack : SourceAck}
    {cause : AckCause} {c : String} (hsplit : b'.trace = l₁ ++ .acked topic ack cause :: l₂)
    (hc : ack.commandId = some c) : ∃ r ∈ committedRows l₂, Acknowledges ack r := by
  rw [htrace] at hsplit
  rcases List.append_eq_append_iff.mp hsplit with ⟨l, hl₁, hl₂⟩ | ⟨l, hl₁, hl₂⟩
  · exact h.ack_committed l topic ack cause l₂ c hl₂ hc
  · cases l with
    | nil => exact h.ack_committed [] topic ack cause l₂ c hl₂.symm hc
    | cons e l =>
        obtain ⟨rfl, rfl⟩ := List.cons.inj hl₂
        have hmem : ack ∈ sourceAcks es := mem_sourceAcks.mpr ⟨topic, cause, by rw [hl₁]; simp⟩
        rw [hes] at hmem
        cases hmem

/-- The queue loses tasks and nothing else happens. -/
lemma dropped (hw : Wellformed b) (h : Ledger b) (htable : b'.table = b.table)
    (htrace : b'.trace = b.trace) (hreports : reportedRows b' = reportedRows b)
    (hqueue : b'.commands = b.commands ∨ b'.commands = [] ∨
      ∃ front, b.commands = front :: b'.commands) : Ledger b' := by
  have hmem : ∀ entry ∈ b'.commands, entry ∈ b.commands := by
    intro entry he
    rcases hqueue with heq | heq | ⟨front, heq⟩
    · exact heq ▸ he
    · rw [heq] at he; cases he
    · rw [heq]; exact List.mem_cons_of_mem _ he
  exact
    { committed_known := htrace ▸ h.committed_known
      row_committed := by rw [htrace, htable]; exact h.row_committed
      report_committed := by rw [htrace, hreports]; exact h.report_committed
      ack_committed := by rw [htrace]; exact h.ack_committed
      committed_le_row := by rw [htrace, htable]; exact h.committed_le_row
      committed_sorted := htrace ▸ h.committed_sorted
      reports_sorted := hreports ▸ h.reports_sorted
      acks_le_reports := by rw [htrace, hreports]; exact h.acks_le_reports
      acks_sorted := htrace ▸ h.acks_sorted
      insertions := fun i command hi => by
        obtain ⟨hcom, hrep, hack⟩ := h.insertions i command (hmem _ hi)
        rw [htrace, hreports, htable]
        refine ⟨fun r hr hid => ?_, hrep, hack⟩
        rcases hqueue with heq | heq | ⟨front, heq⟩
        · rw [heq]; exact hcom r hr hid
        · rw [heq] at hi; cases hi
        · obtain ⟨j, task⟩ := front
          have hfront := h.insertion_front heq (hmem _ hi) hr hid
          exact absurd hfront.1 (rest_ne hw heq hi)
      insertions_unique := fun i j command command' hi hj hid =>
        h.insertions_unique i j command command' (hmem _ hi) (hmem _ hj) hid
      rejections := htrace ▸ h.rejections }

/-- What the front task writes and reports, against the rows so far. -/
structure Fits (b : RuntimeBundle) (i : ℕ) (task : CommandDatabaseTask) : Prop where
  sorted : (execute b.table task).written.Pairwise Follows
  written : ∀ r ∈ (execute b.table task).written, ∀ s ∈ committedRows b.trace, Follows r s
  rows : ∀ c r, (execute b.table task).table.findCommandById c = some r →
    b.table.findCommandById c = some r ∨ r ∈ (execute b.table task).written
  le_row : ∀ r ∈ (execute b.table task).written ++ committedRows b.trace, ∀ row,
    (execute b.table task).table.findCommandById r.commandId = some row →
      StatusLe r.status row.status
  reported : ∀ r, reported (execute b.table task).value = some r →
    r ∈ (execute b.table task).written ++ committedRows b.trace ∧
      ∀ s ∈ committedRows b.trace, s.commandId = r.commandId → StatusLe s.status r.status
  others : ∀ j command, (j, .insertCommand command) ∈ b.commands → j ≠ i →
    ∀ r ∈ (execute b.table task).written ++ committedRows b.trace,
      r.commandId ≠ command.commandId
  own : ∀ command, task = .insertCommand command →
    ∀ r ∈ (execute b.table task).written ++ committedRows b.trace,
      r.commandId = command.commandId →
        (execute b.table task).table.findCommandById command.commandId = some command.stored

lemma fits (hw : Wellformed b) (h : Ledger b) {i : ℕ} {task : CommandDatabaseTask}
    {rest : List (ℕ × CommandDatabaseTask)} (hqueue : b.commands = (i, task) :: rest) :
    Fits b i task := by
  have hfront : (i, task) ∈ b.commands := by rw [hqueue]; exact List.mem_cons_self
  obtain ⟨operation, hop, hmatch⟩ := hw.queue i task hfront
  rcases execute_cases b.table (isService_of_matches hmatch) with
    ⟨hnone, hback, hforth, hreport⟩ | ⟨r, hwritten, _, hvalue, hfind, hwhich⟩
  -- nothing is written
  · have hall : ∀ r, r ∈ (execute b.table task).written ++ committedRows b.trace →
        r ∈ committedRows b.trace := fun r hr => by rwa [hnone] at hr
    exact
      { sorted := by rw [hnone]; exact List.Pairwise.nil
        written := fun r hr => by rw [hnone] at hr; cases hr
        rows := fun c r hr => .inl (hback c r hr)
        le_row := fun r hr row hrow => h.committed_le_row r (hall r hr) row (hback _ row hrow)
        reported := fun r hr =>
          ⟨List.mem_append_right _ (h.row_committed _ r (hreport r hr)), fun s hs hid =>
            h.committed_le_row s hs r (hid ▸ hreport r hr)⟩
        others := fun j command hj hne r hr hid =>
          hne (h.insertion_front hqueue hj (hall r hr) hid).1
        own := fun command htask r hr hid => by
          subst htask
          have hrow := (h.insertion_front hqueue hfront (hall r hr) hid).2.2
          rcases hforth _ _ hrow with hstays | ⟨_, _, before, size, hclean⟩
          · exact hstays
          · cases hclean }
  · -- the row that is written follows every version before it
    have hfollows : ∀ s ∈ committedRows b.trace, Follows r s := by
      intro s hs hid
      rcases hwhich with ⟨command, rfl, rfl, hfree⟩ | ⟨row, _, _, _, hrow, _, hcan, _⟩
      · have hrow := (h.insertion_front hqueue hfront hs hid.symm).2.2
        rw [show command.stored.commandId = command.commandId from rfl, hrow] at hfree
        cases hfree
      · have hle := h.committed_le_row s hs row (hid ▸ hrow)
        refine ⟨hle.trans (.of_canTransition hcan), ?_⟩
        by_contra hterm
        rw [not_canTransition_of_isTerminal (hle.isTerminal (by simpa using hterm))] at hcan
        cases hcan
    have hall : ∀ s ∈ (execute b.table task).written ++ committedRows b.trace,
        s = r ∨ s ∈ committedRows b.trace := by
      intro s hs
      rw [hwritten] at hs
      exact List.mem_cons.mp hs
    -- another insertion of the command would stand at the front as well
    have hothers : ∀ j command, (j, .insertCommand command) ∈ b.commands → j ≠ i →
        r.commandId ≠ command.commandId := by
      intro j command hj hne hid
      rcases hwhich with ⟨command', rfl, rfl, _⟩ | ⟨row, _, _, _, hrow, _⟩
      · exact hne (h.insertions_unique j i command command' hj hfront hid.symm)
      · have hrowid := CommandTable.findCommandById_commandId hrow
        exact hne (h.insertion_front hqueue hj (h.row_committed _ row hrow)
          (hrowid.trans hid)).1
    exact
      { sorted := by rw [hwritten]; exact List.pairwise_singleton _ _
        written := fun s hs => by
          rw [hwritten] at hs
          rw [List.mem_singleton.mp hs]
          exact hfollows
        rows := fun c s hs => by
          rw [hfind] at hs
          split at hs
          · cases hs
            exact .inr (by rw [hwritten]; exact List.mem_cons_self)
          · exact .inl hs
        le_row := fun s hs row hrow => by
          rw [hfind] at hrow
          split at hrow
          · next hid =>
              cases hrow
              rcases hall s hs with rfl | hs
              · exact .refl _
              · exact (hfollows s hs hid.symm).1
          · next hid =>
              rcases hall s hs with rfl | hs
              · exact absurd rfl hid
              · exact h.committed_le_row s hs row hrow
        reported := fun s hs => by
          rw [hvalue] at hs
          cases hs
          exact ⟨by rw [hwritten]; exact List.mem_cons_self, fun t ht hid =>
            (hfollows t ht hid.symm).1⟩
        others := fun j command hj hne s hs hid => by
          rcases hall s hs with rfl | hs
          · exact hothers j command hj hne hid
          · exact hne (h.insertion_front hqueue hj hs hid).1
        own := fun command htask s hs hid => by
          rcases hwhich with ⟨command', htask', rfl, _⟩ | ⟨_, _, _, htask', _⟩
          · rw [htask] at htask'
            cases htask'
            rw [hfind]
            exact if_pos rfl
          · rw [htask] at htask'
            cases htask' }

/-- **The front task is executed**, and its result is queued, dropped or lost. -/
lemma executed (hw : Wellformed b) (h : Ledger b) {i : ℕ} {task : CommandDatabaseTask}
    {rest : List (ℕ × CommandDatabaseTask)} {es : List Event}
    (hqueue : b.commands = (i, task) :: rest)
    (htable : b'.table = (execute b.table task).table) (htrace : b'.trace = es ++ b.trace)
    (hwritten : committedRows es = (execute b.table task).written) (hes : sourceAcks es = [])
    (hwhich : (b'.commands = rest ∧ (reportedRows b' = reportedRows b ∨ ∃ r,
        reported (execute b.table task).value = some r ∧
          reportedRows b' = reportedRows b ++ [r])) ∨
      (b'.commands = b.commands ∧ reportedRows b' = reportedRows b)) : Ledger b' := by
  have hfits := fits hw h hqueue
  have hfront : (i, task) ∈ b.commands := by rw [hqueue]; exact List.mem_cons_self
  have hsub : ∀ e ∈ b.trace, e ∈ b'.trace := fun e he => by
    rw [htrace]; exact List.mem_append_right _ he
  have hacks : sourceAcks b'.trace = sourceAcks b.trace := by
    rw [htrace, sourceAcks_append, hes, List.nil_append]
  have hcommitted : committedRows b'.trace =
      (execute b.table task).written ++ committedRows b.trace := by
    rw [htrace, committedRows_append, hwritten]
  obtain ⟨operation, hop, hmatch⟩ := hw.queue i task hfront
  obtain ⟨_, _, hknown⟩ := known_execute (hw.operations i operation hop) hmatch hw.table
  -- a report is an old one or that of the front task
  have hreports : ∀ r ∈ reportedRows b', r ∈ reportedRows b ∨
      (b'.commands = rest ∧ reported (execute b.table task).value = some r) := by
    intro r hr
    rcases hwhich with ⟨hrest, heq | ⟨s, hs, heq⟩⟩ | ⟨_, heq⟩
    · exact .inl (heq ▸ hr)
    · rw [heq] at hr
      rcases List.mem_append.mp hr with hr | hr
      · exact .inl hr
      · rw [List.mem_singleton.mp hr]
        exact .inr ⟨hrest, hs⟩
    · exact .inl (heq ▸ hr)
  have hmem : ∀ entry ∈ b'.commands, entry ∈ b.commands := by
    intro entry he
    rcases hwhich with ⟨heq, _⟩ | ⟨heq, _⟩
    · rw [hqueue]; exact List.mem_cons_of_mem _ (heq ▸ he)
    · exact heq ▸ he
  exact
    { committed_known := fun r hr => by
        rw [hcommitted] at hr
        rcases List.mem_append.mp hr with hr | hr
        · exact (hknown r hr).mono hsub
        · exact (h.committed_known r hr).mono hsub
      row_committed := fun c r hr => by
        rw [hcommitted]
        rcases hfits.rows c r (htable ▸ hr) with hr | hr
        · exact List.mem_append_right _ (h.row_committed c r hr)
        · exact List.mem_append_left _ hr
      report_committed := fun r hr => by
        rw [hcommitted]
        rcases hreports r hr with hr | ⟨_, hr⟩
        · exact List.mem_append_right _ (h.report_committed r hr)
        · exact (hfits.reported r hr).1
      ack_committed := fun l₁ topic ack cause l₂ c hsplit hc =>
        h.ack_committed_append hes htrace hsplit hc
      committed_le_row := fun r hr row hrow => by
        rw [hcommitted] at hr
        exact hfits.le_row r hr row (htable ▸ hrow)
      committed_sorted := by
        rw [hcommitted, List.pairwise_append]
        exact ⟨hfits.sorted, h.committed_sorted, hfits.written⟩
      reports_sorted := by
        rcases hwhich with ⟨_, heq | ⟨r, hr, heq⟩⟩ | ⟨_, heq⟩
        · rw [heq]; exact h.reports_sorted
        · rw [heq, List.pairwise_append]
          refine ⟨h.reports_sorted, List.pairwise_singleton _ _, fun s hs t ht hid => ?_⟩
          rw [List.mem_singleton.mp ht] at hid ⊢
          exact (hfits.reported r hr).2 s (h.report_committed s hs) hid
        · rw [heq]; exact h.reports_sorted
      acks_le_reports := fun ack hack r hr hc => by
        rw [hacks] at hack
        rcases hreports r hr with hr | ⟨_, hr⟩
        · exact h.acks_le_reports ack hack r hr hc
        · obtain ⟨s, hs, hacked⟩ := h.ack_committed' hack hc
          have hid := hacked.1
          rw [hc] at hid
          rw [hacked.2]
          exact (hfits.reported r hr).2 s hs (Option.some.inj hid).symm
      acks_sorted := hacks ▸ h.acks_sorted
      insertions := fun j command hj => by
        obtain ⟨hcom, hrep, hack⟩ := h.insertions j command (hmem _ hj)
        rw [hcommitted, hacks]
        by_cases hji : j = i
        · -- the front task itself stays only if its result is lost
          subst hji
          have htask := queue_unique hw (hmem _ hj) hfront
          subst htask
          have hstays : b'.commands = b.commands := by
            rcases hwhich with ⟨heq, _⟩ | ⟨heq, _⟩
            · exact absurd rfl (rest_ne hw hqueue (heq ▸ hj))
            · exact heq
          refine ⟨fun r hr hid => ⟨?_, ?_⟩, fun r hr => ?_, hack⟩
          · rw [hstays, hqueue]; rfl
          · rw [htable]; exact hfits.own command rfl r hr hid
          · rcases hreports r hr with hr | ⟨hrest, _⟩
            · exact hrep r hr
            · exact absurd rfl (rest_ne hw hqueue (hrest ▸ hj))
        · have hother := hfits.others j command (hmem _ hj) hji
          refine ⟨fun r hr hid => absurd hid (hother r hr), fun r hr => ?_, hack⟩
          rcases hreports r hr with hr | ⟨_, hr⟩
          · exact hrep r hr
          · exact hother r (hfits.reported r hr).1
      insertions_unique := fun j k command command' hj hk hid =>
        h.insertions_unique j k command command' (hmem _ hj) (hmem _ hk) hid
      rejections := h.rejections_append hes htrace }

lemma committedRows_execution (removed written : List CommandRecord) (confirmed : Bool) :
    committedRows (executionEvents removed written confirmed) = written := by
  cases confirmed <;>
    simp [executionEvents, committedRows, List.filterMap_append, List.filterMap_map]

lemma sourceAcks_execution (removed written : List CommandRecord) (confirmed : Bool) :
    sourceAcks (executionEvents removed written confirmed) = [] := by
  cases confirmed <;>
    simp [executionEvents, sourceAcks, List.filterMap_append, List.filterMap_map]

/-- The reports after one more result. -/
lemma reportedRows_pushed (b : RuntimeBundle) (result : CommandDatabaseResult)
    (hresults : b'.databaseResults = b.pushed result) :
    reportedRows b' = reportedRows b ∨ ∃ r, reported result.value = some r ∧
      reportedRows b' = reportedRows b ++ [r] := by
  simp only [reportedRows]
  rw [hresults]
  simp only [pushed]
  split
  · exact .inl rfl
  · rw [List.filterMap_append]
    cases hr : reported result.value with
    | none => exact .inl (by simp [hr])
    | some r => exact .inr ⟨r, rfl, by simp [hr]⟩

/-- **A turn of the worker keeps the ledger.** -/
lemma workerTurn (hw : Wellformed b) (h : Ledger b) {event : WorkerEvent}
    (hevent : event.Admissible) : Ledger (b.workerTurn event) := by
  -- no execution; a result; an error; or a lost confirmation, after which the task stays
  rcases workerTurn_cases hevent with
    ⟨worker, hcommands, heq⟩ |
      ⟨i, task, rest, hqueue, ⟨worker, hrest, heq⟩ | ⟨worker, message, hrest, _, _, heq⟩ |
        ⟨worker, hsame, _, heq⟩⟩
  · rw [heq]
    exact dropped hw h rfl rfl rfl (hcommands.imp id fun h => .inl h.1)
  · rw [heq]
    refine executed hw h hqueue rfl ?_
      (committedRows_execution (execute b.table task).removed _ true)
      (sourceAcks_execution _ _ _)
      (.inl ⟨hrest, reportedRows_pushed b ⟨i, _⟩ rfl⟩)
    simp [RuntimeBundle.trace]
  · rw [heq]
    refine dropped hw h rfl rfl ?_ (.inr (.inr ⟨_, hrest ▸ hqueue⟩))
    have hpushed := @reportedRows_pushed
      { b with
        toPostgresWorker := worker
        databaseResults := b.pushed ⟨i, permanentError message⟩ } b _ rfl
    rcases hpushed with hsame | ⟨r, hr, _⟩
    · exact hsame
    · cases hr
  · rw [heq]
    refine executed hw h hqueue rfl ?_
      (committedRows_execution (execute b.table task).removed _ false)
      (sourceAcks_execution _ _ _)
      (.inr ⟨hsame, rfl⟩)
    simp [RuntimeBundle.trace]

/-! ### Runs -/

lemma tick {cfg : CommandServiceConfig} (hw : Wellformed b) (h : Ledger b)
    (htick : Tick cfg b b') : Ledger b' := by
  rcases htick.serviceStep with ⟨event, hevent, rfl⟩ | hstep
  · exact workerTurn hw h hevent
  · exact service hw h hstep

/-- A start commits the rows it recovers. -/
lemma committedRows_restarted {cfg : CommandServiceConfig} (hrestart : Restarted cfg b b')
    {written : List CommandRecord} (hpast : b'.past = written.map .committed ++ b.trace) :
    committedRows b'.trace = written ++ committedRows b.trace := by
  have hlog : committedRows b'.log = [] := committedRows_of_isService fun e he => by
    rcases hrestart.log e he with rfl | ⟨message, rfl⟩ <;> trivial
  rw [RuntimeBundle.trace, hpast, committedRows_append, committedRows_append, hlog]
  simp [committedRows, List.filterMap_map]

/-- The recovery at a start is one more transition of each row it rewrites. -/
lemma restarted {cfg : CommandServiceConfig} (h : Ledger b) (hrestart : Restarted cfg b b') :
    Ledger b' := by
  obtain ⟨written, hrecovery, hpast⟩ := hrestart.recovery
  have htrace : b'.trace = (b'.log ++ written.map .committed) ++ b.trace := by
    simp only [RuntimeBundle.trace] at hpast ⊢
    rw [hpast, List.append_assoc]
  have hsub : ∀ e ∈ b.trace, e ∈ b'.trace := fun e he => by
    rw [htrace]; exact List.mem_append_right _ he
  have hnoack : sourceAcks (b'.log ++ written.map .committed) = [] := by
    rw [sourceAcks_append, sourceAcks, sourceAcks, List.append_eq_nil_iff,
      List.filterMap_eq_nil_iff, List.filterMap_eq_nil_iff]
    refine ⟨fun e he => ?_, fun e he => ?_⟩
    · rcases hrestart.log e he with rfl | ⟨message, rfl⟩ <;> rfl
    · obtain ⟨r, _, rfl⟩ := List.mem_map.mp he
      rfl
  have hcommitted : committedRows b'.trace = written ++ committedRows b.trace :=
    committedRows_restarted hrestart hpast
  have hacks : sourceAcks b'.trace = sourceAcks b.trace := by
    rw [htrace, sourceAcks_append, hnoack, List.nil_append]
  have hreports : reportedRows b' = [] := by
    simp only [reportedRows]
    rw [hrestart.databaseResults]
    rfl
  -- a row that is recovered was not terminal, so it follows all its versions
  have hfollows : ∀ r ∈ written, ∀ s ∈ committedRows b.trace, Follows r s := by
    intro r hr s hs hid
    obtain ⟨_, _, hstatus, row, hrow, hterm, _⟩ := hrecovery.uncertain r hr
    have hle := h.committed_le_row s hs row (hid ▸ hrow)
    have hcan : row.status.canTransition r.status = true := by
      rw [hstatus]
      exact canTransition_of_isTerminal hterm rfl fun _ => by decide
    refine ⟨hle.trans (.of_canTransition hcan), ?_⟩
    by_contra hs
    rw [hle.isTerminal (by simpa using hs)] at hterm
    cases hterm
  exact
    { committed_known := fun r hr => by
        rw [hcommitted] at hr
        rcases List.mem_append.mp hr with hr | hr
        · obtain ⟨_, _, _, row, hrow, _, hsame⟩ := hrecovery.uncertain r hr
          exact ((h.committed_known row (h.row_committed _ row hrow)).same hsame).mono hsub
        · exact (h.committed_known r hr).mono hsub
      row_committed := fun c r hr => by
        rw [hcommitted]
        rcases hrecovery.rows c r hr with hr | hr
        · exact List.mem_append_right _ (h.row_committed c r hr)
        · exact List.mem_append_left _ hr
      report_committed := fun r hr => by rw [hreports] at hr; cases hr
      ack_committed := fun l₁ topic ack cause l₂ c hsplit hc =>
        h.ack_committed_append hnoack htrace hsplit hc
      committed_le_row := fun r hr row hrow => by
        rw [hcommitted] at hr
        rcases List.mem_append.mp hr with hr | hr
        · rw [(hrecovery.uncertain r hr).1] at hrow
          cases hrow
          exact .refl _
        · rcases hrecovery.rows _ row hrow with hrow | hwritten
          · exact h.committed_le_row r hr row hrow
          · have hid := CommandTable.findCommandById_commandId hrow
            exact (hfollows row hwritten r hr hid).1
      committed_sorted := by
        rw [hcommitted, List.pairwise_append]
        refine ⟨?_, h.committed_sorted, hfollows⟩
        exact (List.pairwise_map.mp hrecovery.nodup).imp fun hne hid => absurd hid hne
      reports_sorted := by rw [hreports]; exact List.Pairwise.nil
      acks_le_reports := fun ack _ r hr => by rw [hreports] at hr; cases hr
      acks_sorted := hacks ▸ h.acks_sorted
      insertions := fun i command hi => by rw [hrestart.commands] at hi; cases hi
      insertions_unique := fun i j command command' hi => by
        rw [hrestart.commands] at hi; cases hi
      rejections := h.rejections_append hnoack htrace }

lemma blank : Ledger .blank where
  committed_known := fun r hr => by cases hr
  row_committed := fun c r hr => by cases hr
  report_committed := fun r hr => by cases hr
  ack_committed := fun l₁ topic ack cause l₂ c h => by
    have := congrArg List.length h
    simp [RuntimeBundle.trace, RuntimeBundle.blank] at this
  committed_le_row := fun r hr => by cases hr
  committed_sorted := List.Pairwise.nil
  reports_sorted := List.Pairwise.nil
  acks_le_reports := fun ack hack => by cases hack
  acks_sorted := List.Pairwise.nil
  insertions := fun i command hi => by cases hi
  insertions_unique := fun i j command command' hi => by cases hi
  rejections := fun topic ack i he => by cases he

end Ledger

/-- What a longer log adds to the trace. -/
lemma trace_of_log {b b' : RuntimeBundle} {es : List Event} (hlog : b'.log = es ++ b.log)
    (hpast : b'.past = b.past) : b'.trace = es ++ b.trace := by
  rw [RuntimeBundle.trace, hlog, hpast, List.append_assoc]
  rfl

/-- The trace only grows. -/
lemma Tick.trace_suffix {cfg : CommandServiceConfig} {b b' : RuntimeBundle}
    (htick : Tick cfg b b') : b.trace <:+ b'.trace := by
  rcases htick.serviceStep with ⟨event, hevent, rfl⟩ | hstep
  · rcases workerTurn_cases hevent with
      ⟨worker, _, heq⟩ | ⟨i, task, rest, _, ⟨worker, _, heq⟩ | ⟨worker, message, _, _, _, heq⟩ |
        ⟨worker, _, _, heq⟩⟩
    · rw [heq]
      exact List.suffix_rfl
    · rw [heq]
      exact ⟨executionEvents (execute b.table task).removed (execute b.table task).written true,
        by simp [RuntimeBundle.trace]⟩
    · rw [heq]
      exact List.suffix_rfl
    · rw [heq]
      exact ⟨executionEvents (execute b.table task).removed (execute b.table task).written false,
        by simp [RuntimeBundle.trace]⟩
  · obtain ⟨es, hlog, _⟩ := hstep.log
    refine ⟨es, ?_⟩
    simp only [RuntimeBundle.trace]
    rw [hlog, hstep.past, List.append_assoc]

lemma Ticks.trace_suffix {cfg : CommandServiceConfig} {b b' : RuntimeBundle}
    (hticks : Ticks cfg b b') : b.trace <:+ b'.trace := by
  induction hticks with
  | refl => exact List.suffix_rfl
  | tail _ hlast ih => exact ih.trans hlast.trace_suffix

/-- **The trace only grows**, over whole runs. -/
theorem trace_suffix_of_run {cfg : CommandServiceConfig} {b b' : RuntimeBundle}
    {inputs : List Input} (hb : (routeService cfg).Reachable b)
    (hrun : (routeService cfg).Run b inputs b') : b.trace <:+ b'.trace := by
  refine Machine.Run.rel (R := fun b b' : RuntimeBundle => b.trace <:+ b'.trace)
    (fun _ => List.suffix_rfl) (fun _ _ _ h h' => h.trans h') (fun b input _ henabled => ?_) hb hrun
  by_cases h : ∃ sources devices now, input = .restart sources devices now
  · obtain ⟨sources, devices, now, rfl⟩ := h
    obtain ⟨written, _, hpast⟩ := (restart_spec cfg b sources devices now).recovery
    refine ⟨(b.restart cfg sources devices now).log ++ written.map .committed, ?_⟩
    change _ = (b.restart cfg sources devices now).log ++ (b.restart cfg sources devices now).past
    rw [hpast, List.append_assoc]
  · push Not at h
    exact (Ticks.apply henabled h).trace_suffix

/-- **The ledger holds in every reachable state.** -/
theorem ledger_of_reachable {cfg : CommandServiceConfig} {b : RuntimeBundle}
    (hb : (routeService cfg).Reachable b) : Ledger b := by
  have hboth : Wellformed b ∧ Ledger b :=
    @reachable_of_ticks cfg (fun b => Wellformed b ∧ Ledger b) ⟨.blank, .blank⟩
      (fun _ _ h hrestart => ⟨h.1.restarted hrestart, h.2.restarted hrestart⟩)
      (fun _ _ h htick => ⟨h.1.tick htick, .tick h.1 h.2 htick⟩) b hb
  exact hboth.2

end CnsServer
