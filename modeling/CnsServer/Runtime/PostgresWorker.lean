/-
The command side of `postgres_worker.cpp`: one thread that takes command tasks
from a FIFO queue, executes each against the `commands` table and emits its
result.

A task that meets a broken connection goes back to the front of the queue and
is executed again after the reconnection; its statement may or may not have
been committed (`CommandOutcome.lost`).  Provisions and device writes share the
thread; of them the command side sees only that they may find the connection
broken.

* `execute`: one task against the table;
* `submitCommand`: the port of the command service;
* `PostgresWorker.turn`: what one turn of the `Run` loop does.
-/
import Mathlib.Data.Finset.Card
import CnsServer.Store.CommandTable

namespace CnsServer

/-! ### Tasks and results -/

inductive DatabaseErrorKind where
  | unavailable | permanent
  deriving DecidableEq, Repr

structure DatabaseError where
  kind : DatabaseErrorKind
  message : String
  deriving DecidableEq, Repr

/-- `CommandDatabaseTask`. -/
inductive CommandDatabaseTask where
  | findCommand (sourceId requestId : String)
  | findCommandById (commandId : String)
  | insertCommand (command : CommandRecord)
  | transitionCommand (commandId : String) (expected desired : CommandStatus)
      (update : CommandUpdate)
  | recoverControlCommands (recoveredAt : TimePoint) (limit : ℕ)
  | cleanupCommands (before : TimePoint) (batchSize : ℕ)

/-- `CommandDatabaseValue`. -/
inductive CommandDatabaseValue where
  | found (record : Option CommandRecord)
  | record (record : CommandRecord)
  | records (records : List CommandRecord)
  | count (count : ℕ)

structure CommandDatabaseResult where
  operationId : ℕ
  value : Except DatabaseError CommandDatabaseValue

/-- Some part of `text` is `part` (`std::string::find`). -/
def containsText (text part : String) : Bool :=
  text.toList.tails.any part.toList.isPrefixOf

/-- `IsStateChangedError`, on the message of the error. -/
def isStateChangedError (message : String) : Bool := containsText message "状态已变化"

/-! ### One task against the table -/

/-- What one task does: the table after it, its result, and the rows it wrote
and removed. -/
structure Execution where
  table : CommandTable
  value : Except DatabaseError CommandDatabaseValue
  written : List CommandRecord := []
  removed : List CommandRecord := []

/-- A failure that does not come from the connection. -/
def permanentError (message : String) : Except DatabaseError CommandDatabaseValue :=
  .error ⟨.permanent, message⟩

/-- `StorePort` as the runtime bridge implements it: the call of one task. -/
def execute (table : CommandTable) : CommandDatabaseTask → Execution
  | .findCommand sourceId requestId =>
      ⟨table, .ok (.found (table.findCommand sourceId requestId)), [], []⟩
  | .findCommandById commandId =>
      ⟨table, .ok (.found (table.findCommandById commandId)), [], []⟩
  | .insertCommand command =>
      match table.insertCommand command with
      | (table', .ok r) =>
          -- only a key that was free makes a new row
          ⟨table', .ok (.record r),
            if (table.findCommand command.sourceId command.requestId).isSome then [] else [r], []⟩
      | (table', .error message) => ⟨table', permanentError message, [], []⟩
  | .transitionCommand commandId expected desired update =>
      match table.transitionCommand commandId expected desired update with
      | (table', .ok r) => ⟨table', .ok (.record r), [r], []⟩
      | (table', .error message) => ⟨table', permanentError message, [], []⟩
  | .recoverControlCommands recoveredAt limit =>
      match table.recoverActiveControlCommands recoveredAt limit with
      | (table', rs) => ⟨table', .ok (.records rs), rs, []⟩
  | .cleanupCommands before batchSize =>
      match table.deleteExpiredTerminalCommands before batchSize with
      | (table', rs) => ⟨table', .ok (.count rs.length), [], rs⟩

/-- **A transition task**: the status graph forbids it, the row is in another
status, or the row moves and its new version is the result. -/
lemma execute_transitionCommand (table : CommandTable) (commandId : String)
    (expected desired : CommandStatus) (update : CommandUpdate) :
    (expected.canTransition desired = false ∧
      execute table (.transitionCommand commandId expected desired update) =
        ⟨table, permanentError "转换 PostgreSQL 命令状态失败：状态迁移非法", [], []⟩) ∨
    ((∀ r, table.findCommandById commandId = some r → r.status ≠ expected) ∧
      execute table (.transitionCommand commandId expected desired update) =
        ⟨table, permanentError CommandTable.stateChanged, [], []⟩) ∨
    (∃ r table', table.findCommandById commandId = some r ∧ r.status = expected ∧
      expected.canTransition desired = true ∧
      (∀ id, table'.findCommandById id = if id = commandId then
        some (r.transitioned desired update) else table.findCommandById id) ∧
      execute table (.transitionCommand commandId expected desired update) =
        ⟨table', .ok (.record (r.transitioned desired update)), [r.transitioned desired update],
          []⟩) := by
  rcases table.transitionCommand_cases commandId expected desired update with
    ⟨h, heq⟩ | ⟨h, heq⟩ | ⟨r, hr, hs, hcan, hok, htable⟩
  · refine .inl ⟨h, ?_⟩
    simp only [execute, heq]
  · refine .inr (.inl ⟨h, ?_⟩)
    simp only [execute, heq]
  · refine .inr (.inr ⟨r, _, hr, hs, hcan, htable, ?_⟩)
    have heq : table.transitionCommand commandId expected desired update =
        ((table.transitionCommand commandId expected desired update).1,
          .ok (r.transitioned desired update)) := by rw [← hok]
    simp only [execute]
    rw [heq]

/-- **An insertion task**: the key is held already, the id is taken, or the row
is new. -/
lemma execute_insertCommand (table : CommandTable) (command : CommandRecord) :
    (∃ existing, table.findCommand command.sourceId command.requestId = some existing ∧
      execute table (.insertCommand command) = ⟨table, .ok (.record existing), [], []⟩) ∨
    (table.findCommand command.sourceId command.requestId = none ∧
      (table.findCommandById command.commandId).isSome ∧
      execute table (.insertCommand command) =
        ⟨table, permanentError "写入 PostgreSQL 命令失败", [], []⟩) ∨
    (∃ table', table.findCommandById command.commandId = none ∧
      (∀ id r, table.findCommandById id = some r →
        ¬ (r.sourceId = command.sourceId ∧ r.requestId = command.requestId)) ∧
      (∀ id, table'.findCommandById id = if id = command.commandId then some command.stored
        else table.findCommandById id) ∧
      execute table (.insertCommand command) =
        ⟨table', .ok (.record command.stored), [command.stored], []⟩) := by
  rcases table.insertCommand_cases command with
    ⟨existing, hfind, heq⟩ | ⟨hfind, hid, heq⟩ | ⟨hid, hkey, hok, htable⟩
  · refine .inl ⟨existing, hfind, ?_⟩
    simp only [execute, heq, hfind, Option.isSome_some, if_true]
  · refine .inr (.inl ⟨hfind, hid, ?_⟩)
    simp only [execute, heq]
  · refine .inr (.inr ⟨_, hid, hkey, htable, ?_⟩)
    have heq : table.insertCommand command =
        ((table.insertCommand command).1, .ok command.stored) := by rw [← hok]
    have hfind : table.findCommand command.sourceId command.requestId = none := by
      cases h : table.findCommand command.sourceId command.requestId with
      | none => rfl
      | some r =>
          obtain ⟨hrow, hr⟩ := CommandTable.findCommand_some h
          exact absurd hr (hkey _ r hrow)
    simp only [execute]
    rw [heq]
    simp [hfind]

/-- The tasks of the command service; recovery runs only at a start. -/
def CommandDatabaseTask.IsService : CommandDatabaseTask → Prop
  | .recoverControlCommands _ _ => False
  | _ => True

/-- The record a result reports, if any. -/
def reported : Except DatabaseError CommandDatabaseValue → Option CommandRecord
  | .ok (.found r) => r
  | .ok (.record r) => some r
  | _ => none

/-- **What one task does to the rows**: it writes none, removes at most terminal
ones and reports a row as it stands; or it writes exactly the row it reports, a
new one or the next version of one. -/
lemma execute_cases (table : CommandTable) {task : CommandDatabaseTask} (h : task.IsService) :
    ((execute table task).written = [] ∧
      (∀ c r, (execute table task).table.findCommandById c = some r →
        table.findCommandById c = some r) ∧
      (∀ c r, table.findCommandById c = some r →
        (execute table task).table.findCommandById c = some r ∨
          ((execute table task).table.findCommandById c = none ∧ r.status.isTerminal = true ∧
            ∃ before size, task = .cleanupCommands before size)) ∧
      ∀ r, reported (execute table task).value = some r →
        table.findCommandById r.commandId = some r) ∨
    ∃ r, (execute table task).written = [r] ∧ (execute table task).removed = [] ∧
      (execute table task).value = .ok (.record r) ∧
      (∀ c, (execute table task).table.findCommandById c =
        if c = r.commandId then some r else table.findCommandById c) ∧
      ((∃ command, task = .insertCommand command ∧ r = command.stored ∧
          table.findCommandById r.commandId = none) ∨
        ∃ row expected update, task = .transitionCommand r.commandId expected r.status update ∧
          table.findCommandById r.commandId = some row ∧ row.status = expected ∧
          row.status.canTransition r.status = true ∧ r = row.transitioned r.status update) := by
  cases task with
  | findCommand sourceId requestId =>
      exact .inl ⟨rfl, fun c r hr => hr, fun c r hr => .inl hr,
        fun r hr => (CommandTable.findCommand_some hr).1⟩
  | findCommandById commandId =>
      refine .inl ⟨rfl, fun c r hr => hr, fun c r hr => .inl hr, fun r hr => ?_⟩
      change table.findCommandById commandId = some r at hr
      rw [CommandTable.findCommandById_commandId hr]
      exact hr
  | insertCommand command =>
      rcases execute_insertCommand table command with
        ⟨existing, hfind, heq⟩ | ⟨_, _, heq⟩ | ⟨table', hid, _, htable, heq⟩
      · rw [heq]
        refine .inl ⟨rfl, fun c r hr => hr, fun c r hr => .inl hr, fun r hr => ?_⟩
        cases hr
        exact (CommandTable.findCommand_some hfind).1
      · rw [heq]
        exact .inl ⟨rfl, fun c r hr => hr, fun c r hr => .inl hr, fun r hr => by cases hr⟩
      · rw [heq]
        exact .inr ⟨command.stored, rfl, rfl, rfl, htable, .inl ⟨command, rfl, rfl, hid⟩⟩
  | transitionCommand commandId expected desired update =>
      rcases execute_transitionCommand table commandId expected desired update with
        ⟨_, heq⟩ | ⟨_, heq⟩ | ⟨row, table', hrow, hstatus, hcan, htable, heq⟩
      · rw [heq]
        exact .inl ⟨rfl, fun c r hr => hr, fun c r hr => .inl hr, fun r hr => by cases hr⟩
      · rw [heq]
        exact .inl ⟨rfl, fun c r hr => hr, fun c r hr => .inl hr, fun r hr => by cases hr⟩
      · have hid : row.commandId = commandId := CommandTable.findCommandById_commandId hrow
        subst hid
        rw [heq]
        exact .inr ⟨row.transitioned desired update, rfl, rfl, rfl, htable,
          .inr ⟨row, expected, update, rfl, hrow, hstatus, hstatus ▸ hcan, rfl⟩⟩
  | recoverControlCommands _ _ => exact h.elim
  | cleanupCommands before size =>
      refine .inl ⟨rfl, fun c r hr => ?_, fun c r hr => ?_, fun r hr => by cases hr⟩
      · rcases table.findCommandById_deleteExpired before size c with heq | ⟨hnone, _⟩
        · exact heq ▸ hr
        · change (table.deleteExpiredTerminalCommands before size).1.findCommandById c =
            some r at hr
          rw [hnone] at hr
          cases hr
      · rcases table.findCommandById_deleteExpired before size c with heq |
          ⟨hnone, s, _, _, hs, hterm⟩
        · exact .inl (heq.trans hr)
        · rw [hr] at hs
          cases hs
          exact .inr ⟨hnone, hterm, before, size, rfl⟩

/-! ### The worker -/

/-- The command side of `PostgresWorker`. -/
structure PostgresWorker where
  commands : List (ℕ × CommandDatabaseTask)
  commandOperations : Finset ℕ
  unavailable : Bool
  accepting : Bool
  workerStopped : Bool

/-- A worker that has just been created. -/
def PostgresWorker.fresh : PostgresWorker := ⟨[], ∅, false, true, false⟩

/-- `SubmitCommand`; `none` is the answer `false`. -/
def PostgresWorker.submitCommand (worker : PostgresWorker) (maxInflightCommands operationId : ℕ)
    (task : CommandDatabaseTask) : Option PostgresWorker :=
  if !worker.accepting || operationId ∈ worker.commandOperations ||
      maxInflightCommands ≤ worker.commandOperations.card then none
  else some { worker with
    commandOperations := insert operationId worker.commandOperations
    commands := worker.commands ++ [(operationId, task)] }

/-- How the execution of one command task ends: the store answers, it fails for
good, or the connection breaks before or after the commit. -/
inductive CommandOutcome where
  | completed
  | failed (message : String)
  | lost (committed : Bool)
  deriving DecidableEq, Repr

inductive ReconnectOutcome where
  | connected | unavailable | permanentFailure
  deriving DecidableEq, Repr

/-- One turn of the worker thread, as far as the command side can tell:
a command task, a broken connection found by a provision or a device write, a
reconnection, the request to flush, and the end of the thread. -/
inductive WorkerEvent where
  | runCommand (outcome : CommandOutcome)
  | loseConnection
  | reconnect (outcome : ReconnectOutcome)
  | flushAndStop
  | finish
  deriving DecidableEq, Repr

/-- The effect of one turn. -/
structure WorkerTurn where
  worker : PostgresWorker
  table : CommandTable
  emitted : List CommandDatabaseResult := []
  written : List CommandRecord := []
  removed : List CommandRecord := []
  confirmed : Bool := true

namespace PostgresWorker

/-- `Finish`. -/
def finish (worker : PostgresWorker) : PostgresWorker :=
  { worker with workerStopped := true, accepting := false }

/-- The command branch of `Run`, on the task at the front. -/
def runCommand (worker : PostgresWorker) (table : CommandTable) (operationId : ℕ)
    (task : CommandDatabaseTask) (rest : List (ℕ × CommandDatabaseTask)) :
    CommandOutcome → WorkerTurn
  | .completed =>
      let run := execute table task
      { worker := { worker with
          commands := rest, commandOperations := worker.commandOperations.erase operationId }
        table := run.table
        emitted := [⟨operationId, run.value⟩]
        written := run.written
        removed := run.removed }
  | .failed message =>
      { worker := { worker with
          commands := rest, commandOperations := worker.commandOperations.erase operationId }
        table := table
        emitted := [⟨operationId, permanentError message⟩] }
  | .lost false => { worker := { worker with unavailable := true }, table := table }
  | .lost true =>
      let run := execute table task
      { worker := { worker with unavailable := true }
        table := run.table
        written := run.written
        removed := run.removed
        confirmed := false }

/-- One turn of `Run`. -/
def turn (worker : PostgresWorker) (table : CommandTable) : WorkerEvent → WorkerTurn
  | .runCommand outcome =>
      if worker.workerStopped || worker.unavailable then { worker := worker, table := table }
      else
        match worker.commands with
        | (operationId, task) :: rest => worker.runCommand table operationId task rest outcome
        | [] => { worker := worker, table := table }
  | .loseConnection =>
      if worker.workerStopped then { worker := worker, table := table }
      else { worker := { worker with unavailable := true }, table := table }
  | .reconnect outcome =>
      if worker.workerStopped || !worker.unavailable then { worker := worker, table := table }
      else
        match outcome with
        | .connected => { worker := { worker with unavailable := false }, table := table }
        | .unavailable => { worker := worker, table := table }
        | .permanentFailure =>
            { worker := PostgresWorker.finish { worker with commands := [], commandOperations := ∅ }
              table := table }
  | .flushAndStop => { worker := { worker with accepting := false }, table := table }
  | .finish => { worker := worker.finish, table := table }

/-- A turn that leaves the table alone and emits nothing. -/
def IsIdle (table : CommandTable) (turn : WorkerTurn) : Prop :=
  turn.table = table ∧ turn.emitted = [] ∧ turn.written = [] ∧ turn.removed = []

/-- **What one turn can do**: nothing to the table, with the queue kept or given up
for good, or the execution of its front task. -/
lemma turn_cases (worker : PostgresWorker) (table : CommandTable) (event : WorkerEvent) :
    (IsIdle table (worker.turn table event) ∧
      ((worker.turn table event).worker.commands = worker.commands ∨
        ((worker.turn table event).worker.commands = [] ∧
          (worker.turn table event).worker.workerStopped = true))) ∨
    ∃ operationId task rest outcome, event = .runCommand outcome ∧
      worker.commands = (operationId, task) :: rest ∧
      worker.turn table event = worker.runCommand table operationId task rest outcome := by
  have hidle : ∀ w : PostgresWorker, IsIdle table { worker := w, table := table } :=
    fun w => ⟨rfl, rfl, rfl, rfl⟩
  cases event with
  | runCommand outcome =>
      simp only [turn]
      split
      · exact .inl ⟨hidle _, .inl rfl⟩
      · split
        · next operationId task rest h =>
            exact .inr ⟨operationId, task, rest, outcome, rfl, h, rfl⟩
        · exact .inl ⟨hidle _, .inl rfl⟩
  | loseConnection =>
      simp only [turn]
      split
      · exact .inl ⟨hidle _, .inl rfl⟩
      · exact .inl ⟨hidle _, .inl rfl⟩
  | reconnect outcome =>
      simp only [turn]
      split
      · exact .inl ⟨hidle _, .inl rfl⟩
      · cases outcome with
        | connected => exact .inl ⟨hidle _, .inl rfl⟩
        | unavailable => exact .inl ⟨hidle _, .inl rfl⟩
        | permanentFailure => exact .inl ⟨hidle _, .inr ⟨rfl, rfl⟩⟩
  | flushAndStop => exact .inl ⟨hidle _, .inl rfl⟩
  | finish => exact .inl ⟨hidle _, .inl rfl⟩

/-- The turns of a worker that has stopped. -/
lemma turn_stopped {worker : PostgresWorker} (h : worker.workerStopped = true)
    (table : CommandTable) (event : WorkerEvent) :
    IsIdle table (worker.turn table event) ∧
      (worker.turn table event).worker.workerStopped = true := by
  cases event <;> simp [turn, h, IsIdle, finish]

end PostgresWorker

end CnsServer
