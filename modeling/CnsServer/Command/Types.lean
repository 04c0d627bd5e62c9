/-
The vocabulary of the command protocol (`command_types.hpp`,
`command_state.hpp`): command types and statuses, the parsed source requests,
the parsed device acknowledgements and the record of a command as it stands in
the `commands` table.

* `isTerminal`, `canTransition`: the status graph of `command_state.cpp`;
* `StatusLe`: its reflexive and transitive closure, the order in which a
  command may be seen to move;
* `CommandRecord`, `CommandUpdate`: the row and the columns a transition
  writes;
* `SourceAck`: the envelope sent back to a source, with `buildSourceAck` for
  persisted commands and `buildPrePersistenceRejection` for the rest.
-/
import Mathlib.Logic.Relation
import CnsServer.Protocol.Json

namespace CnsServer

/-- `std::chrono::system_clock::time_point`, in nanoseconds since the epoch. -/
abbrev TimePoint := ℤ

/-! ### Commands and their statuses -/

inductive SourceKind where
  | device | hostApp | controlCenter
  deriving DecidableEq, Repr

inductive CommandType where
  | config | control
  deriving DecidableEq, Repr

inductive CommandStatus where
  | pending | dispatched | inProgress | succeeded | failed | timeout | deliveryUncertain
  deriving DecidableEq, Repr

/-- `ToString(CommandType)`. -/
def CommandType.toText : CommandType → String
  | config => "config"
  | control => "control"

namespace CommandStatus

/-- `StatusText`. -/
def toText : CommandStatus → String
  | pending => "pending"
  | dispatched => "dispatched"
  | inProgress => "in_progress"
  | succeeded => "succeeded"
  | failed => "failed"
  | timeout => "timeout"
  | deliveryUncertain => "delivery_uncertain"

/-- `IsTerminal`. -/
def isTerminal (status : CommandStatus) : Bool :=
  status = succeeded || status = failed || status = timeout || status = deliveryUncertain

/-- `CanTransition`. -/
def canTransition (current desired : CommandStatus) : Bool :=
  if current = pending then
    desired = dispatched || desired = failed || desired = timeout || desired = deliveryUncertain
  else if current = dispatched then
    desired = inProgress || desired = succeeded || desired = failed || desired = timeout ||
      desired = deliveryUncertain
  else if current = inProgress then
    desired = inProgress || desired = succeeded || desired = failed || desired = timeout ||
      desired = deliveryUncertain
  else false

/-- One status may follow another in the life of a command. -/
def StatusLe : CommandStatus → CommandStatus → Prop :=
  Relation.ReflTransGen fun s t => canTransition s t = true

lemma StatusLe.refl (s : CommandStatus) : StatusLe s s := Relation.ReflTransGen.refl

lemma StatusLe.trans {s t u : CommandStatus} (hst : StatusLe s t) (htu : StatusLe t u) :
    StatusLe s u := Relation.ReflTransGen.trans hst htu

/-- A transition goes up. -/
lemma StatusLe.of_canTransition {s t : CommandStatus} (h : canTransition s t = true) :
    StatusLe s t := Relation.ReflTransGen.single h

/-- Progress of a status: no transition lowers it, and only the repeated
`in_progress` keeps it. -/
def rank : CommandStatus → ℕ
  | pending => 0
  | dispatched => 1
  | inProgress => 2
  | _ => 3

/-- Nothing follows a terminal status. -/
lemma not_canTransition_of_isTerminal {s t : CommandStatus} (h : s.isTerminal = true) :
    canTransition s t = false := by
  cases s <;> simp_all [isTerminal, canTransition]

/-- The rank never falls. -/
lemma rank_le_of_canTransition {s t : CommandStatus} (h : canTransition s t = true) :
    s.rank ≤ t.rank := by
  cases s <;> cases t <;> simp_all [canTransition, rank]

/-- A terminal status is followed by itself only. -/
lemma StatusLe.eq_of_isTerminal {s t : CommandStatus} (hs : s.isTerminal = true)
    (h : StatusLe s t) : t = s := by
  induction h with
  | refl => rfl
  | tail _ hstep ih =>
      subst ih
      rw [not_canTransition_of_isTerminal hs] at hstep
      exact absurd hstep (by simp)

lemma StatusLe.rank_le {s t : CommandStatus} (h : StatusLe s t) : s.rank ≤ t.rank := by
  induction h with
  | refl => exact le_rfl
  | tail _ hstep ih => exact ih.trans (rank_le_of_canTransition hstep)

/-- A status after a terminal one is terminal. -/
lemma StatusLe.isTerminal {s t : CommandStatus} (h : StatusLe s t) (hs : s.isTerminal = true) :
    t.isTerminal = true := by
  rw [h.eq_of_isTerminal hs]; exact hs

/-- The transition graph has no way back: two statuses that follow each other
are equal. -/
lemma StatusLe.antisymm {s t : CommandStatus} (hst : StatusLe s t) (hts : StatusLe t s) :
    s = t := by
  have h1 := hst.rank_le
  have h2 := hts.rank_le
  by_cases hs : s.isTerminal = true
  · exact (hst.eq_of_isTerminal hs).symm
  · cases s <;> cases t <;> simp_all [CommandStatus.isTerminal, rank]

/-- From every non-terminal status every terminal one is allowed, except that
success needs the dispatch first. -/
lemma canTransition_of_isTerminal {s t : CommandStatus} (hs : s.isTerminal = false)
    (ht : t.isTerminal = true) (h : s = pending → t ≠ succeeded) : canTransition s t = true := by
  cases s <;> cases t <;> simp_all [isTerminal, canTransition]

end CommandStatus

/-! ### Source requests -/

/-- `RequestTarget`: the three ways to address a device. -/
inductive RequestTarget where
  | deviceLabel (dcdwLabel : String)
  | schoolLabel (schoolName dcdwLabel : String)
  | device (deviceId : String)
  deriving DecidableEq, Repr

structure ConfigParameters where
  telemetryPublishIntervalMs : Option ℕ
  heartbeatIntervalMs : Option ℕ
  mqttReconnectDelayS : Option ℕ
  mqttReconnectDelayMaxS : Option ℕ
  deriving DecidableEq, Repr

structure SourceConfigRequest where
  requestId : String
  target : RequestTarget
  parameters : ConfigParameters
  comparisonPayload : Json

inductive ControlCommand where
  | setMotorPwm | emergencyStop | takeoff | land
  deriving DecidableEq, Repr

/-- `ControlParameters`: the four pulse widths of `set_motor_pwm`, if any. -/
structure ControlParameters where
  pwmUs : Option (ℕ × ℕ × ℕ × ℕ)
  deriving DecidableEq, Repr

structure SourceControlRequest where
  requestId : String
  target : RequestTarget
  command : ControlCommand
  parameters : ControlParameters
  comparisonPayload : Json

structure ProtocolError where
  code : String
  message : String
  deriving DecidableEq, Repr

structure RejectedSourceRequest where
  requestId : Option String
  comparisonPayload : Option Json
  error : ProtocolError

/-- `ParsedSourceRequest`, also called `SourceRequestParseResult`. -/
inductive ParsedSourceRequest where
  | config (request : SourceConfigRequest)
  | control (request : SourceControlRequest)
  | rejected (request : RejectedSourceRequest)

namespace ParsedSourceRequest

/-- `RequestId(parsed)`. -/
def requestId : ParsedSourceRequest → Option String
  | config r => some r.requestId
  | control r => some r.requestId
  | rejected r => r.requestId

/-- `ComparisonPayload(parsed)`. -/
def comparisonPayload : ParsedSourceRequest → Option Json
  | config r => some r.comparisonPayload
  | control r => some r.comparisonPayload
  | rejected r => r.comparisonPayload

end ParsedSourceRequest

/-! ### Device acknowledgements -/

structure DeviceControlAck where
  commandId : String
  command : ControlCommand
  businessStatus : String
  mavlinkCommand : Option ℕ
  result : Option ℕ
  resultCode : Option String
  progress : Option ℕ
  resultParam2 : Option ℤ
  errorCode : Option String
  raw : Json

structure DeviceConfigAck where
  commandId : String
  businessStatus : String
  restartRequired : Bool
  errorCode : Option String
  raw : Json

/-! ### Records -/

/-- `CommandRecord`: one command, in memory or as a row of `commands`. -/
structure CommandRecord where
  commandId : String
  commandType : CommandType
  sourceId : String
  requestId : String
  targetDeviceId : Option String
  requestPayload : Json
  status : CommandStatus
  errorCode : Option String
  errorMessage : Option String
  deviceAck : Option Json
  createdAt : TimePoint
  dispatchedAt : Option TimePoint
  updatedAt : TimePoint
  completedAt : Option TimePoint

/-- `CommandUpdate`: the columns a transition writes besides the status. -/
structure CommandUpdate where
  errorCode : Option String
  errorMessage : Option String
  deviceAck : Option Json
  dispatchedAt : Option TimePoint
  completedAt : Option TimePoint
  updatedAt : TimePoint

structure ResolvedTarget where
  deviceId : String
  schoolName : String
  dcdwLabel : Option String
  deriving DecidableEq, Repr

inductive IdempotencyResult where
  | same | conflict
  deriving DecidableEq, Repr

/-- `CompareRequest`. -/
def compareRequest (existing : CommandRecord) (comparisonPayload : Json) : IdempotencyResult :=
  if existing.requestPayload.equal comparisonPayload then .same else .conflict

/-! ### Source acknowledgements -/

/-- The envelope of a source ACK.  The JSON text has the same keys;
`businessStatus` is `null` when absent, the other optional keys are omitted. -/
structure SourceAck where
  requestId : Option String
  commandId : Option String
  commandType : CommandType
  status : CommandStatus
  businessStatus : Option String
  occurredAt : TimePoint
  target : Option ResolvedTarget
  error : Option (String × Option String)
  device : Option (List (String × Json))

/-- `BaseAck`. -/
def baseAck (requestId commandId : Option String) (commandType : CommandType)
    (status : CommandStatus) (occurredAt : TimePoint) : SourceAck where
  requestId := requestId
  commandId := commandId
  commandType := commandType
  status := status
  businessStatus := none
  occurredAt := occurredAt
  target := none
  error := none
  device := none

/-- The fields of a control ACK that are passed on to the source. -/
def controlDeviceFields : List String :=
  ["command", "mavlink_command", "result", "result_code", "progress", "result_param2",
    "error_code"]

/-- The `device` object of a source ACK, read from the stored device ACK. -/
def deviceFields (commandType : CommandType) (deviceAck : Json) : List (String × Json) :=
  match commandType with
  | .config =>
      [("restart_required", (deviceAck.find? "restart_required").getD (.bool false)),
        ("error_code", (deviceAck.find? "error_code").getD .null)]
  | .control =>
      controlDeviceFields.filterMap fun field =>
        (deviceAck.find? field).map fun value => (field, value)

/-- `BuildSourceAck`. -/
def buildSourceAck (command : CommandRecord) (target : Option ResolvedTarget)
    (occurredAt : TimePoint) : SourceAck :=
  let ack := { baseAck (some command.requestId) (some command.commandId) command.commandType
      command.status occurredAt with target := target }
  let ack :=
    if command.commandType = .control ∧ command.status = .deliveryUncertain then
      { ack with error := some ("control_delivery_uncertain",
          some "服务恢复后无法确认飞控命令是否已经执行") }
    else
      match command.errorCode with
      | some code => { ack with error := some (code, command.errorMessage) }
      | none => ack
  match command.deviceAck with
  | some deviceAck =>
      { ack with
        businessStatus := deviceAck.stringField? "status"
        device := some (deviceFields command.commandType deviceAck) }
  | none => ack

/-- `BuildPrePersistenceRejection`. -/
def buildPrePersistenceRejection (requestId : Option String) (error : ProtocolError)
    (occurredAt : TimePoint) (commandType : CommandType) : SourceAck :=
  { baseAck requestId none commandType .failed occurredAt with
    error := some (error.code, some error.message) }

/-- What the ACK of a record takes from it. -/
@[simp] lemma buildSourceAck_commandId (r : CommandRecord) (target : Option ResolvedTarget)
    (at_ : TimePoint) : (buildSourceAck r target at_).commandId = some r.commandId := by
  rw [buildSourceAck]
  split <;> split <;> (try split) <;> rfl

@[simp] lemma buildSourceAck_requestId (r : CommandRecord) (target : Option ResolvedTarget)
    (at_ : TimePoint) : (buildSourceAck r target at_).requestId = some r.requestId := by
  rw [buildSourceAck]
  split <;> split <;> (try split) <;> rfl

@[simp] lemma buildSourceAck_status (r : CommandRecord) (target : Option ResolvedTarget)
    (at_ : TimePoint) : (buildSourceAck r target at_).status = r.status := by
  rw [buildSourceAck]
  split <;> split <;> (try split) <;> rfl

@[simp] lemma buildSourceAck_commandType (r : CommandRecord) (target : Option ResolvedTarget)
    (at_ : TimePoint) : (buildSourceAck r target at_).commandType = r.commandType := by
  rw [buildSourceAck]
  split <;> split <;> (try split) <;> rfl

@[simp] lemma buildSourceAck_occurredAt (r : CommandRecord) (target : Option ResolvedTarget)
    (at_ : TimePoint) : (buildSourceAck r target at_).occurredAt = at_ := by
  rw [buildSourceAck]
  split <;> split <;> (try split) <;> rfl

end CnsServer
