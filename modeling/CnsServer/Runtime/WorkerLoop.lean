/-
The whole loop of `PostgresWorker::Run` (`postgres_worker.cpp`), block by block:
what the thread does under the lock, what it holds while the store is called, and
the calls of the other threads in between.

* `WorkerLoop`: the members of the class, what the thread has in hand, and what
  its sinks have received;
* `submitProvision`, `submitWrite`, `submitCommand`, `flushAndStop`: the calls of
  the other threads;
* `select`: the locked block at the head of the loop;
* `finishReconnect`, `finishCommand`, `finishProvision`, `finishWrite`: what
  follows each call of the store, whatever it answers or throws;
* `workerLoop`: the machine made of them.

The command service sees less of it (`PostgresWorker`, one turn for each task);
`commandSide_next` says that the loop does nothing else to the commands.
-/
import CnsServer.Library.Machine
import CnsServer.Device.Registry
import CnsServer.Runtime.PostgresWorker

namespace CnsServer

/-! ### Tasks and results of the device side -/

/-- `PostgresWorker::ProvisionTask`. -/
structure ProvisionTask where
  registration : Registration
  receivedAt : TimePoint

inductive DatabaseResultKind where
  | provisioned | writeCompleted | unavailable | recovered | permanentFailure
  deriving DecidableEq, Repr

/-- `DatabaseResult`, for the device service. -/
structure DatabaseResult where
  kind : DatabaseResultKind
  deviceId : String := ""
  revision : ℕ := 0
  provisioned : Option DeviceRecord := none
  error : String := ""

/-! ### State -/

/-- What the thread holds between two locked blocks: nothing, a task while the
store is called for it, or the result of a command on its way to the sink. -/
inductive Hand where
  | free
  | reconnect
  | command (operationId : ℕ) (task : CommandDatabaseTask)
  | provision (task : ProvisionTask)
  | write (write : DesiredDeviceWrite)
  | result (answer : CommandDatabaseResult)

/-- The command in hand that is being executed. -/
def Hand.commands : Hand → List (ℕ × CommandDatabaseTask)
  | .command operationId task => [(operationId, task)]
  | _ => []

/-- The result in hand. -/
def Hand.results : Hand → List CommandDatabaseResult
  | .result answer => [answer]
  | _ => []

/-- `PostgresWorker`, with what the thread has in hand, the ids of the accepted
commands in their order, and what the sinks have received. -/
structure WorkerLoop where
  provisions : Map String ProvisionTask
  writes : Map String DesiredDeviceWrite
  provisioning : Finset String
  commands : List (ℕ × CommandDatabaseTask)
  commandOperations : Finset ℕ
  unavailable : Bool
  accepting : Bool
  drainRequested : Bool
  workerStopped : Bool
  reconnectAt : TimePoint
  hand : Hand
  accepted : List ℕ
  commandResults : List CommandDatabaseResult
  results : List DatabaseResult

/-- The constructor arguments that the loop reads. -/
structure WorkerConfig where
  maxInflightCommands : ℕ := 256
  reconnectInterval : TimePoint := 5000000000

/-- How a call of the store ends: it returns, or it throws, a `std::exception` or
something else. -/
inductive PortOutcome (α : Type) where
  | returned (result : Except DatabaseError α)
  | threw (standard : Bool)

/-- The result the loop goes on with; an exception is a permanent error. -/
def PortOutcome.result {α : Type} (outcome : PortOutcome α) (portException unknown : String) :
    Except DatabaseError α :=
  match outcome with
  | .returned result => result
  | .threw standard => .error ⟨.permanent, if standard then portException else unknown⟩

namespace WorkerLoop

/-- A worker that has just been created. -/
def fresh : WorkerLoop where
  provisions := ∅
  writes := ∅
  provisioning := ∅
  commands := []
  commandOperations := ∅
  unavailable := false
  accepting := true
  drainRequested := false
  workerStopped := false
  reconnectAt := 0
  hand := .free
  accepted := []
  commandResults := []
  results := []

variable (cfg : WorkerConfig)

/-! ### Calls of the other threads -/

/-- `SubmitProvision`. -/
def submitProvision (w : WorkerLoop) (registration : Registration) (receivedAt : TimePoint) :
    WorkerLoop :=
  if !w.accepting || w.unavailable || registration.deviceId ∈ w.provisioning then w
  else { w with provisions := w.provisions.insert registration.deviceId ⟨registration, receivedAt⟩ }

/-- The merge of a write with the one queued for the same device. -/
def mergedWrite (current write : DesiredDeviceWrite) : DesiredDeviceWrite where
  record := if current.revision ≤ write.revision then write.record else current.record
  revision := if current.revision ≤ write.revision then write.revision else current.revision
  writeMetadata := current.writeMetadata || write.writeMetadata
  writeStatus := current.writeStatus || write.writeStatus
  writeTelemetry := current.writeTelemetry || write.writeTelemetry
  urgency := if write.urgency = .immediate then .immediate else current.urgency

/-- `MergeWrite`. -/
def mergeWrite (w : WorkerLoop) (write : DesiredDeviceWrite) : WorkerLoop :=
  { w with
    writes := w.writes.insert write.record.deviceId
      (match w.writes.lookup write.record.deviceId with
      | none => write
      | some current => mergedWrite current write) }

/-- `SubmitWrite`. -/
def submitWrite (w : WorkerLoop) (write : DesiredDeviceWrite) : WorkerLoop :=
  if !w.accepting then w else w.mergeWrite write

/-- `SubmitCommand`. -/
def submitCommand (w : WorkerLoop) (operationId : ℕ) (task : CommandDatabaseTask) : WorkerLoop :=
  if !w.accepting || operationId ∈ w.commandOperations ||
      cfg.maxInflightCommands ≤ w.commandOperations.card then w
  else { w with
    commandOperations := insert operationId w.commandOperations
    commands := w.commands ++ [(operationId, task)]
    accepted := w.accepted ++ [operationId] }

/-- `FlushAndStop`, without the wait. -/
def flushAndStop (w : WorkerLoop) : WorkerLoop :=
  { w with accepting := false, drainRequested := true }

/-! ### The thread -/

/-- `Finish`. -/
def finish (w : WorkerLoop) : WorkerLoop := { w with workerStopped := true, accepting := false }

/-- `Emit`. -/
def emit (w : WorkerLoop) (result : DatabaseResult) : WorkerLoop :=
  { w with results := w.results ++ [result] }

/-- The connection is lost: the next call of the store is a reconnection, and the
new devices of before wait for their retained registration. -/
def disconnect (w : WorkerLoop) (now : TimePoint) : WorkerLoop :=
  { w with
    unavailable := true
    reconnectAt := now + cfg.reconnectInterval
    provisions := ∅ }

/-- The entry a hash map begins with, for the key `first` designates. -/
def begins {V : Type} (first : List String → Option String) (m : Map String V) :
    Option (String × V) :=
  (first m.keys).bind fun key => (m.lookup key).map fun value => (key, value)

/-- The locked block at the head of the loop; `first` designates the element a
hash map begins with. -/
def select (w : WorkerLoop) (stopRequested : Bool) (first : List String → Option String)
    (now : TimePoint) : WorkerLoop :=
  if stopRequested then w.finish
  else if w.unavailable then
    if now < w.reconnectAt then w else { w with hand := .reconnect }
  else
    match w.commands with
    | (operationId, task) :: rest => { w with commands := rest, hand := .command operationId task }
    | [] =>
        match begins first w.provisions with
        | some (deviceId, task) =>
            { w with
              provisions := w.provisions.erase deviceId
              provisioning := insert deviceId w.provisioning
              hand := .provision task }
        | none =>
            match begins first w.writes with
            | some (deviceId, write) =>
                { w with writes := w.writes.erase deviceId, hand := .write write }
            | none => if w.drainRequested then w.finish else w

/-- After `ReconnectAndValidate`. -/
def finishReconnect (w : WorkerLoop) (outcome : PortOutcome Unit) (now : TimePoint) : WorkerLoop :=
  match outcome.result "数据库重连校验端口异常" "数据库重连校验发生未知异常" with
  | .ok _ => ({ w with unavailable := false, hand := .free }.emit { kind := .recovered })
  | .error error =>
      if error.kind = .unavailable then
        { w with reconnectAt := now + cfg.reconnectInterval, hand := .free }
      else
        finish { w.emit { kind := .permanentFailure, error := "数据库迁移版本校验永久失败" } with
          provisions := ∅
          writes := ∅
          commands := []
          commandOperations := ∅
          hand := .free }

/-- After the call for a command: a broken connection puts it back to the front,
anything else is its result. -/
def finishCommand (w : WorkerLoop) (operationId : ℕ) (task : CommandDatabaseTask)
    (outcome : PortOutcome CommandDatabaseValue) (now : TimePoint) : WorkerLoop :=
  let retry : WorkerLoop :=
    { w.disconnect cfg now with commands := (operationId, task) :: w.commands, hand := .free }
  let answer (value : Except DatabaseError CommandDatabaseValue) : WorkerLoop :=
    { w with
      commandOperations := w.commandOperations.erase operationId
      hand := .result ⟨operationId, value⟩ }
  match outcome.result "数据库命令端口异常" "数据库命令端口发生未知异常" with
  | .ok value => answer (.ok value)
  | .error error => if error.kind = .unavailable then retry else answer (.error error)

/-- `EmitCommand`. -/
def emitCommand (w : WorkerLoop) (result : CommandDatabaseResult) : WorkerLoop :=
  { w with commandResults := w.commandResults ++ [result], hand := .free }

/-- After the call for a provision. -/
def finishProvision (w : WorkerLoop) (task : ProvisionTask) (outcome : PortOutcome DeviceRecord)
    (now : TimePoint) : WorkerLoop :=
  let w := { w with
    provisioning := w.provisioning.erase task.registration.deviceId
    provisions := w.provisions.erase task.registration.deviceId
    hand := .free }
  match outcome.result "数据库建档端口异常" "数据库建档发生未知异常" with
  | .ok record =>
      w.emit
        { kind := .provisioned
          deviceId := task.registration.deviceId
          revision := record.revision
          provisioned := some record }
  | .error error =>
      if error.kind = .unavailable then
        (w.disconnect cfg now).emit
          { kind := .unavailable
            deviceId := task.registration.deviceId
            error := "数据库建档暂不可用" }
      else
        w.emit
          { kind := .permanentFailure
            deviceId := task.registration.deviceId
            error := "数据库建档永久失败" }

/-- After the call for a write; a write that met a broken connection is merged
back. -/
def finishWrite (w : WorkerLoop) (write : DesiredDeviceWrite) (outcome : PortOutcome Unit)
    (now : TimePoint) : WorkerLoop :=
  let w := { w with hand := .free }
  match outcome.result "数据库写入端口异常" "数据库写入发生未知异常" with
  | .ok _ =>
      w.emit
        { kind := .writeCompleted
          deviceId := write.record.deviceId
          revision := write.revision }
  | .error error =>
      if error.kind = .unavailable then
        ((w.disconnect cfg now).mergeWrite write).emit
          { kind := .unavailable
            deviceId := write.record.deviceId
            revision := write.revision
            error := "数据库写入暂不可用" }
      else
        w.emit
          { kind := .permanentFailure
            deviceId := write.record.deviceId
            revision := write.revision
            error := "数据库写入永久失败" }

/-- An exception that no call of the store explains ends the thread. -/
def crash (w : WorkerLoop) : WorkerLoop :=
  (w.emit { kind := .permanentFailure, error := "PostgreSQL 工作线程端口异常" }).finish

end WorkerLoop

/-! ### The machine -/

/-- What can happen next: a call of another thread, the block at the head of the
loop, the answer of the store to the task in hand, the hand-over of a result, or
an exception. -/
inductive WorkerInput where
  | submitProvision (registration : Registration) (receivedAt : TimePoint)
  | submitWrite (write : DesiredDeviceWrite)
  | submitCommand (operationId : ℕ) (task : CommandDatabaseTask)
  | flushAndStop
  | select (stopRequested : Bool) (first : List String → Option String) (now : TimePoint)
  | reconnected (outcome : PortOutcome Unit) (now : TimePoint)
  | executed (outcome : PortOutcome CommandDatabaseValue) (now : TimePoint)
  | provisioned (outcome : PortOutcome DeviceRecord) (now : TimePoint)
  | written (outcome : PortOutcome Unit) (now : TimePoint)
  | emitCommand
  | crash

/-- The state after an input. -/
def WorkerInput.apply (cfg : WorkerConfig) (w : WorkerLoop) : WorkerInput → WorkerLoop
  | .submitProvision registration receivedAt => w.submitProvision registration receivedAt
  | .submitWrite write => w.submitWrite write
  | .submitCommand operationId task => w.submitCommand cfg operationId task
  | .flushAndStop => w.flushAndStop
  | .select stopRequested first now => w.select stopRequested first now
  | .reconnected outcome now => w.finishReconnect cfg outcome now
  | .executed outcome now =>
      match w.hand with
      | .command operationId task => w.finishCommand cfg operationId task outcome now
      | _ => w
  | .provisioned outcome now =>
      match w.hand with
      | .provision task => w.finishProvision cfg task outcome now
      | _ => w
  | .written outcome now =>
      match w.hand with
      | .write write => w.finishWrite cfg write outcome now
      | _ => w
  | .emitCommand =>
      match w.hand with
      | .result answer => w.emitCommand answer
      | _ => w
  | .crash => w.crash

/-- When an input may arrive: other threads call at any time, the thread goes on
with what it has in hand until it has stopped, and the element a hash map begins
with is one of its keys. -/
def WorkerInput.Enabled (w : WorkerLoop) : WorkerInput → Prop
  | .select _ first _ => w.workerStopped = false ∧ w.hand = .free ∧
      ∀ keys, keys ≠ [] → ∃ key ∈ keys, first keys = some key
  | .reconnected _ _ => w.workerStopped = false ∧ w.hand = .reconnect
  | .executed _ _ => w.workerStopped = false ∧ ∃ operationId task,
        w.hand = .command operationId task
  | .provisioned _ _ => w.workerStopped = false ∧ ∃ task, w.hand = .provision task
  | .written _ _ => w.workerStopped = false ∧ ∃ write, w.hand = .write write
  | .emitCommand => w.workerStopped = false ∧ ∃ answer, w.hand = .result answer
  | .crash => w.workerStopped = false
  | _ => True

/-- The worker thread among its callers. -/
def workerLoop (cfg : WorkerConfig) : Machine WorkerLoop WorkerInput where
  init w := w = WorkerLoop.fresh
  enabled := WorkerInput.Enabled
  next := WorkerInput.apply cfg

end CnsServer
