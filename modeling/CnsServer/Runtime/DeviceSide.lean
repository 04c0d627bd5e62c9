/-
What the database thread does for the device service: the provisions and the
writes, without the commands between them.

* `DeviceSide`: the queued provisions and writes, the one in hand, the state of the
  connection and the results on their way to the device service;
* `DeviceSideInput`, `DeviceSide.next`: everything that can happen to them;
* `deviceSide_next`: **the loop does nothing else to its device side**, so that an
  invariant of it needs one case for each `DeviceSideInput`.
-/
import CnsServer.Runtime.WorkerLoop

namespace CnsServer

/-- What the thread has in hand for the device service. -/
inductive DeviceHand where
  | free
  | provision (task : ProvisionTask)
  | write (write : DesiredDeviceWrite)

/-- The part of the worker that the device service depends on. -/
structure DeviceSide where
  provisions : Map String ProvisionTask
  writes : Map String DesiredDeviceWrite
  provisioning : Finset String
  hand : DeviceHand
  unavailable : Bool
  accepting : Bool
  stopped : Bool
  results : List DatabaseResult

/-- What happens to it: a call of the device service, a task that is taken, the end
of one, and the states of the connection and of the thread. `lost` is the loss of
the connection under a command. -/
inductive DeviceSideInput where
  | skip
  | submitProvision (registration : Registration) (receivedAt : TimePoint)
  | submitWrite (write : DesiredDeviceWrite)
  | close
  | takeProvision (deviceId : String) (task : ProvisionTask)
  | takeWrite (deviceId : String) (write : DesiredDeviceWrite)
  | stop
  | recovered
  | validationFailed
  | lost
  | provisionEnded (task : ProvisionTask) (result : Except DatabaseError DeviceRecord)
  | writeEnded (write : DesiredDeviceWrite) (result : Except DatabaseError Unit)
  | crash

namespace DeviceSide

/-- A write with the one queued for its device, if there is one. -/
def joined (current : Option DesiredDeviceWrite) (write : DesiredDeviceWrite) :
    DesiredDeviceWrite :=
  match current with
  | none => write
  | some current => WorkerLoop.mergedWrite current write

/-- A write joins the queue. -/
def mergeWrite (d : DeviceSide) (write : DesiredDeviceWrite) : DeviceSide :=
  { d with
    writes := d.writes.insert write.record.deviceId
      (joined (d.writes.lookup write.record.deviceId) write) }

def emit (d : DeviceSide) (result : DatabaseResult) : DeviceSide :=
  { d with results := d.results ++ [result] }

/-- The connection is lost, and the queued provisions with it. -/
def disconnect (d : DeviceSide) : DeviceSide :=
  { d with
    unavailable := true
    provisions := ∅ }

/-- The end of a provision. -/
def endProvision (d : DeviceSide) (task : ProvisionTask)
    (result : Except DatabaseError DeviceRecord) : DeviceSide :=
  let d := { d with
    provisioning := d.provisioning.erase task.registration.deviceId
    provisions := d.provisions.erase task.registration.deviceId
    hand := .free }
  match result with
  | .ok record =>
      d.emit
        { kind := .provisioned
          deviceId := task.registration.deviceId
          revision := record.revision
          provisioned := some record }
  | .error error =>
      if error.kind = .unavailable then
        d.disconnect.emit
          { kind := .unavailable
            deviceId := task.registration.deviceId
            error := "数据库建档暂不可用" }
      else
        d.emit
          { kind := .permanentFailure
            deviceId := task.registration.deviceId
            error := "数据库建档永久失败" }

/-- The end of a write. -/
def endWrite (d : DeviceSide) (write : DesiredDeviceWrite) (result : Except DatabaseError Unit) :
    DeviceSide :=
  let d := { d with hand := .free }
  match result with
  | .ok _ =>
      d.emit
        { kind := .writeCompleted
          deviceId := write.record.deviceId
          revision := write.revision }
  | .error error =>
      if error.kind = .unavailable then
        (d.disconnect.mergeWrite write).emit
          { kind := .unavailable
            deviceId := write.record.deviceId
            revision := write.revision
            error := "数据库写入暂不可用" }
      else
        d.emit
          { kind := .permanentFailure
            deviceId := write.record.deviceId
            revision := write.revision
            error := "数据库写入永久失败" }

/-- The state after an input. -/
def next (d : DeviceSide) : DeviceSideInput → DeviceSide
  | .skip => d
  | .submitProvision registration receivedAt =>
      if !d.accepting || d.unavailable || registration.deviceId ∈ d.provisioning then d
      else { d with
        provisions := d.provisions.insert registration.deviceId ⟨registration, receivedAt⟩ }
  | .submitWrite write => if !d.accepting then d else d.mergeWrite write
  | .close => { d with accepting := false }
  | .takeProvision deviceId task =>
      { d with
        provisions := d.provisions.erase deviceId
        provisioning := insert deviceId d.provisioning
        hand := .provision task }
  | .takeWrite deviceId write =>
      { d with
        writes := d.writes.erase deviceId
        hand := .write write }
  | .stop => { d with stopped := true, accepting := false }
  | .recovered => { d with unavailable := false }.emit { kind := .recovered }
  | .validationFailed =>
      { d.emit { kind := .permanentFailure, error := "数据库迁移版本校验永久失败" } with
        provisions := ∅
        writes := ∅
        stopped := true
        accepting := false }
  | .lost => d.disconnect
  | .provisionEnded task result => d.endProvision task result
  | .writeEnded write result => d.endWrite write result
  | .crash =>
      { d.emit { kind := .permanentFailure, error := "PostgreSQL 工作线程端口异常" } with
        stopped := true
        accepting := false }

/-- When an input may arrive: a task is taken from its queue by a free thread, and
the one that ends is in hand. -/
def Enabled (d : DeviceSide) : DeviceSideInput → Prop
  | .takeProvision deviceId task =>
      d.stopped = false ∧ d.hand = .free ∧ d.provisions.lookup deviceId = some task
  | .takeWrite deviceId write =>
      d.stopped = false ∧ d.hand = .free ∧ d.writes.lookup deviceId = some write
  | .stop => d.stopped = false ∧ d.hand = .free
  | .recovered => d.stopped = false ∧ d.hand = .free
  | .validationFailed => d.stopped = false ∧ d.hand = .free
  | .lost => d.stopped = false ∧ d.hand = .free
  | .provisionEnded task _ => d.stopped = false ∧ d.hand = .provision task
  | .writeEnded write _ => d.stopped = false ∧ d.hand = .write write
  | .crash => d.stopped = false
  | _ => True

end DeviceSide

/-! ### The projection -/

/-- What the thread has in hand, seen from the device service. -/
def Hand.device : Hand → DeviceHand
  | .provision task => .provision task
  | .write desired => .write desired
  | _ => .free

/-- The device side of a worker. -/
def WorkerLoop.deviceSide (w : WorkerLoop) : DeviceSide where
  provisions := w.provisions
  writes := w.writes
  provisioning := w.provisioning
  hand := w.hand.device
  unavailable := w.unavailable
  accepting := w.accepting
  stopped := w.workerStopped
  results := w.results

/-- What the block at the head of the loop means for the device side. -/
def WorkerLoop.selected (w : WorkerLoop) (stopRequested : Bool)
    (first : List String → Option String) : DeviceSideInput :=
  if stopRequested then .stop
  else if w.unavailable then .skip
  else
    match w.commands with
    | _ :: _ => .skip
    | [] =>
        match begins first w.provisions with
        | some (deviceId, task) => .takeProvision deviceId task
        | none =>
            match begins first w.writes with
            | some (deviceId, write) => .takeWrite deviceId write
            | none => if w.drainRequested then .stop else .skip

/-- What an answer of the store to a reconnection means for the device side. -/
def reconnectionInput (result : Except DatabaseError Unit) : DeviceSideInput :=
  match result with
  | .ok _ => .recovered
  | .error error => if error.kind = .unavailable then .skip else .validationFailed

/-- What the end of a command means for the device side. -/
def commandInput (result : Except DatabaseError CommandDatabaseValue) : DeviceSideInput :=
  match result with
  | .ok _ => .skip
  | .error error => if error.kind = .unavailable then .lost else .skip

/-- What an input of the loop means for the device side. -/
def WorkerInput.deviceInput (w : WorkerLoop) : WorkerInput → DeviceSideInput
  | .submitProvision registration receivedAt => .submitProvision registration receivedAt
  | .submitWrite write => .submitWrite write
  | .submitCommand _ _ => .skip
  | .flushAndStop => .close
  | .select stopRequested first _ => w.selected stopRequested first
  | .reconnected outcome _ =>
      reconnectionInput (outcome.result "数据库重连校验端口异常" "数据库重连校验发生未知异常")
  | .executed outcome _ =>
      commandInput (outcome.result "数据库命令端口异常" "数据库命令端口发生未知异常")
  | .provisioned outcome _ =>
      match w.hand with
      | .provision task =>
          .provisionEnded task (outcome.result "数据库建档端口异常" "数据库建档发生未知异常")
      | _ => .skip
  | .written outcome _ =>
      match w.hand with
      | .write desired =>
          .writeEnded desired (outcome.result "数据库写入端口异常" "数据库写入发生未知异常")
      | _ => .skip
  | .emitCommand => .skip
  | .crash => .crash

section

variable {cfg : WorkerConfig} {w : WorkerLoop}

/-- The entry that a map begins with is one of its entries. -/
lemma begins_some {V : Type} {first : List String → Option String} {m : Map String V}
    {entry : String × V} (h : WorkerLoop.begins first m = some entry) :
    m.lookup entry.1 = some entry.2 := by
  obtain ⟨key, -, hentry⟩ := Option.bind_eq_some_iff.mp h
  obtain ⟨value, hvalue, rfl⟩ := Option.map_eq_some_iff.mp hentry
  exact hvalue

/-- The head of the loop selects the next task of the device side, or none. -/
lemma select_deviceSide (hhand : w.hand = .free) (stopRequested : Bool)
    (first : List String → Option String) (now : TimePoint) :
    (w.select stopRequested first now).deviceSide =
      w.deviceSide.next (w.selected stopRequested first) := by
  rw [WorkerLoop.select, WorkerLoop.selected]
  split
  · rfl
  split
  · split
    · rfl
    · simp only [WorkerLoop.deviceSide, DeviceSide.next, hhand]
      rfl
  cases w.commands with
  | cons entry rest =>
      simp only [WorkerLoop.deviceSide, DeviceSide.next, hhand]
      rfl
  | nil =>
      dsimp only
      cases WorkerLoop.begins first w.provisions with
      | some entry =>
          obtain ⟨deviceId, task⟩ := entry
          rfl
      | none =>
          dsimp only
          cases WorkerLoop.begins first w.writes with
          | some entry =>
              obtain ⟨deviceId, write⟩ := entry
              rfl
          | none =>
              dsimp only
              split
              · rfl
              · rfl

lemma finishReconnect_deviceSide (hhand : w.hand = .reconnect) (outcome : PortOutcome Unit)
    (now : TimePoint) :
    (w.finishReconnect cfg outcome now).deviceSide =
      w.deviceSide.next (reconnectionInput
        (outcome.result "数据库重连校验端口异常" "数据库重连校验发生未知异常")) := by
  simp only [WorkerLoop.finishReconnect, reconnectionInput]
  have hdevice : w.hand.device = .free := by rw [hhand]; rfl
  cases outcome.result "数据库重连校验端口异常" "数据库重连校验发生未知异常" with
  | ok _ =>
      simp only [WorkerLoop.deviceSide, DeviceSide.next, hdevice]
      rfl
  | error error =>
      dsimp only
      split
      · simp only [WorkerLoop.deviceSide, DeviceSide.next, hdevice]
        rfl
      · simp only [WorkerLoop.deviceSide, DeviceSide.next, hdevice]
        rfl

lemma finishCommand_deviceSide {operationId : ℕ} {task : CommandDatabaseTask}
    (hhand : w.hand = .command operationId task) (outcome : PortOutcome CommandDatabaseValue)
    (now : TimePoint) :
    (w.finishCommand cfg operationId task outcome now).deviceSide =
      w.deviceSide.next (commandInput
        (outcome.result "数据库命令端口异常" "数据库命令端口发生未知异常")) := by
  simp only [WorkerLoop.finishCommand, commandInput]
  have hdevice : w.hand.device = .free := by rw [hhand]; rfl
  cases outcome.result "数据库命令端口异常" "数据库命令端口发生未知异常" with
  | ok value =>
      simp only [WorkerLoop.deviceSide, DeviceSide.next, hdevice]
      rfl
  | error error =>
      dsimp only
      split
      · simp only [WorkerLoop.deviceSide, DeviceSide.next, DeviceSide.disconnect, hdevice]
        rfl
      · simp only [WorkerLoop.deviceSide, DeviceSide.next, hdevice]
        rfl

lemma finishProvision_deviceSide (task : ProvisionTask) (outcome : PortOutcome DeviceRecord)
    (now : TimePoint) :
    (w.finishProvision cfg task outcome now).deviceSide =
      w.deviceSide.next (.provisionEnded task
        (outcome.result "数据库建档端口异常" "数据库建档发生未知异常")) := by
  simp only [DeviceSide.next, DeviceSide.endProvision, WorkerLoop.finishProvision]
  cases outcome.result "数据库建档端口异常" "数据库建档发生未知异常" with
  | ok record => rfl
  | error error =>
      dsimp only
      split
      · rfl
      · rfl

lemma finishWrite_deviceSide (write : DesiredDeviceWrite) (outcome : PortOutcome Unit)
    (now : TimePoint) :
    (w.finishWrite cfg write outcome now).deviceSide =
      w.deviceSide.next (.writeEnded write
        (outcome.result "数据库写入端口异常" "数据库写入发生未知异常")) := by
  simp only [DeviceSide.next, DeviceSide.endWrite, WorkerLoop.finishWrite]
  cases outcome.result "数据库写入端口异常" "数据库写入发生未知异常" with
  | ok _ => rfl
  | error error =>
      dsimp only
      split
      · rfl
      · rfl

/-- **The loop does nothing else to its device side.** -/
theorem deviceSide_next {input : WorkerInput} (h : input.Enabled w) :
    (input.apply cfg w).deviceSide = w.deviceSide.next (input.deviceInput w) := by
  cases input with
  | submitProvision registration receivedAt =>
      simp only [WorkerInput.apply, WorkerInput.deviceInput, WorkerLoop.submitProvision,
        DeviceSide.next]
      split
      · next hrefused => exact (if_pos hrefused).symm
      · next haccepted => exact (if_neg haccepted).symm
  | submitWrite write =>
      simp only [WorkerInput.apply, WorkerInput.deviceInput, WorkerLoop.submitWrite,
        DeviceSide.next]
      split
      · next hrefused => exact (if_pos hrefused).symm
      · next haccepted => exact (if_neg haccepted).symm
  | submitCommand operationId task =>
      simp only [WorkerInput.apply, WorkerInput.deviceInput, WorkerLoop.submitCommand,
        DeviceSide.next]
      split
      · rfl
      · rfl
  | flushAndStop => rfl
  | select stopRequested first now => exact select_deviceSide h.2.1 stopRequested first now
  | reconnected outcome now => exact finishReconnect_deviceSide h.2 outcome now
  | executed outcome now =>
      obtain ⟨-, operationId, task, hhand⟩ := h
      simp only [WorkerInput.apply, hhand]
      exact finishCommand_deviceSide hhand outcome now
  | provisioned outcome now =>
      obtain ⟨-, task, hhand⟩ := h
      simp only [WorkerInput.apply, WorkerInput.deviceInput, hhand]
      exact finishProvision_deviceSide task outcome now
  | written outcome now =>
      obtain ⟨-, write, hhand⟩ := h
      simp only [WorkerInput.apply, WorkerInput.deviceInput, hhand]
      exact finishWrite_deviceSide write outcome now
  | emitCommand =>
      obtain ⟨-, answer, hhand⟩ := h
      simp only [WorkerInput.apply, WorkerInput.deviceInput, hhand, DeviceSide.next,
        WorkerLoop.deviceSide]
      rfl
  | crash => rfl

lemma selected_enabled (hstopped : w.workerStopped = false) (hhand : w.hand = .free)
    (stopRequested : Bool) (first : List String → Option String) :
    w.deviceSide.Enabled (w.selected stopRequested first) := by
  have hdevice : w.hand.device = .free := by rw [hhand]; rfl
  rw [WorkerLoop.selected]
  split
  · exact ⟨hstopped, hdevice⟩
  split
  · trivial
  cases w.commands with
  | cons entry rest => trivial
  | nil =>
      dsimp only
      cases hprovision : WorkerLoop.begins first w.provisions with
      | some entry =>
          obtain ⟨deviceId, task⟩ := entry
          exact ⟨hstopped, hdevice, begins_some hprovision⟩
      | none =>
          dsimp only
          cases hwrite : WorkerLoop.begins first w.writes with
          | some entry =>
              obtain ⟨deviceId, write⟩ := entry
              exact ⟨hstopped, hdevice, begins_some hwrite⟩
          | none =>
              dsimp only
              split
              · exact ⟨hstopped, hdevice⟩
              · trivial

/-- What the loop does to its device side may happen to it. -/
lemma deviceInput_enabled {input : WorkerInput} (h : input.Enabled w) :
    w.deviceSide.Enabled (input.deviceInput w) := by
  cases input with
  | submitProvision registration receivedAt => trivial
  | submitWrite write => trivial
  | submitCommand operationId task => trivial
  | flushAndStop => trivial
  | select stopRequested first now => exact selected_enabled h.1 h.2.1 stopRequested first
  | reconnected outcome now =>
      have hdevice : w.hand.device = .free := by rw [h.2]; rfl
      simp only [WorkerInput.deviceInput, reconnectionInput]
      split
      · exact ⟨h.1, hdevice⟩
      · split
        · trivial
        · exact ⟨h.1, hdevice⟩
  | executed outcome now =>
      obtain ⟨hstopped, operationId, task, hhand⟩ := h
      have hdevice : w.hand.device = .free := by rw [hhand]; rfl
      simp only [WorkerInput.deviceInput, commandInput]
      split
      · trivial
      · split
        · exact ⟨hstopped, hdevice⟩
        · trivial
  | provisioned outcome now =>
      obtain ⟨hstopped, task, hhand⟩ := h
      have hdevice : w.hand.device = .provision task := by rw [hhand]; rfl
      simp only [WorkerInput.deviceInput, hhand]
      exact ⟨hstopped, hdevice⟩
  | written outcome now =>
      obtain ⟨hstopped, write, hhand⟩ := h
      have hdevice : w.hand.device = .write write := by rw [hhand]; rfl
      simp only [WorkerInput.deviceInput, hhand]
      exact ⟨hstopped, hdevice⟩
  | emitCommand => trivial
  | crash => exact h

end

end CnsServer
