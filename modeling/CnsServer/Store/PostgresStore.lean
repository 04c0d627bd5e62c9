/-
The store of `postgres_store.cpp` as its callers see it: the error each method
returns, and the member `last_failure_kind_` it may leave behind.

What a method does to the tables is in `CommandTable`.  Here the database is the
environment: a `StoreReply` says what the statements of one call answer or throw.
Not every error return writes `last_failure_kind_`; each method is therefore
given with all its returns.

* `classifyOperationFailure`: the kind of a caught exception;
* `CommandRow`, `commandFromRow`: a row as the driver delivers it, and its
  decoding;
* `buildMigrationPlan`: the check of the applied migrations;
* `PostgresStore`: the methods;
* `PostgresStore.Marks`: what a call can do to the member.
-/
import CnsServer.Command.Router
import CnsServer.Store.CommandTable

namespace CnsServer

inductive OperationFailureKind where
  | unavailable | permanent
  deriving DecidableEq, Repr

/-- `ClassifyOperationFailure`. -/
def classifyOperationFailure (connectionOpen brokenConnection : Bool) : OperationFailureKind :=
  if brokenConnection || !connectionOpen then .unavailable else .permanent

/-- What a `try` block of the store catches: `pqxx::broken_connection`, or any
other `std::exception`. -/
inductive Fault where
  | brokenConnection | exception
  deriving DecidableEq, Repr

/-- The classification both `catch` blocks make. -/
def Fault.kind (fault : Fault) (isOpen : Bool) : OperationFailureKind :=
  classifyOperationFailure isOpen (fault = .brokenConnection)

/-! ### Rows -/

/-- `ParseCommandType`. -/
def parseCommandType (text : String) : Option CommandType :=
  if text = "config" then some .config
  else if text = "control" then some .control
  else none

/-- `ParseCommandStatus`. -/
def parseCommandStatus (status : String) : Except String CommandStatus :=
  if status = "pending" then .ok .pending
  else if status = "dispatched" then .ok .dispatched
  else if status = "in_progress" then .ok .inProgress
  else if status = "succeeded" then .ok .succeeded
  else if status = "failed" then .ok .failed
  else if status = "timeout" then .ok .timeout
  else if status = "delivery_uncertain" then .ok .deliveryUncertain
  else .error "读取 PostgreSQL 命令失败：状态不受支持"

/-- `FromUnixMicroseconds`: the system clock counts nanoseconds in 64 bits. -/
def fromUnixMicroseconds (microseconds : ℤ) : Except String TimePoint :=
  if microseconds < -9223372036854775 ∨ 9223372036854775 < microseconds then
    .error "PostgreSQL 设备时间超出系统时钟范围"
  else .ok (microseconds * 1000)

/-- `ToUnixMicroseconds`. -/
def toUnixMicroseconds (time : TimePoint) : ℤ := time.tdiv 1000

/-- `ParseCommandJson`, on a column whose text is the given value, or no JSON. -/
def parseCommandJson (field : Option Json) : Except String Json :=
  match field with
  | some value => .ok value
  | none => .error "读取 PostgreSQL 命令失败：JSON 无效"

/-- The columns `kCommandColumns` of one row: texts, JSON texts as far as they
parse, and instants in microseconds. -/
structure CommandRow where
  commandId : String
  commandType : String
  sourceId : String
  requestId : String
  targetDeviceId : Option String
  requestPayload : Option Json
  status : String
  errorCode : Option String
  errorMessage : Option String
  deviceAck : Option (Option Json)
  createdAt : ℤ
  dispatchedAt : Option ℤ
  updatedAt : ℤ
  completedAt : Option ℤ

/-- An optional column: `NULL`, or what its decoder says. -/
def optionalColumn {α β : Type} (decode : α → Except String β) :
    Option α → Except String (Option β)
  | none => .ok none
  | some value => (decode value).map some

/-- `CommandFromRow`. -/
def commandFromRow (row : CommandRow) : Except String CommandRecord :=
  match parseCommandType row.commandType with
  | none => .error "读取 PostgreSQL 命令失败：命令类型不受支持"
  | some commandType => do
      let status ← parseCommandStatus row.status
      let requestPayload ← parseCommandJson row.requestPayload
      let deviceAck ← optionalColumn parseCommandJson row.deviceAck
      match fromUnixMicroseconds row.createdAt, fromUnixMicroseconds row.updatedAt with
      | .ok createdAt, .ok updatedAt => do
          let dispatchedAt ← optionalColumn fromUnixMicroseconds row.dispatchedAt
          let completedAt ← optionalColumn fromUnixMicroseconds row.completedAt
          return {
            commandId := row.commandId
            commandType := commandType
            sourceId := row.sourceId
            requestId := row.requestId
            targetDeviceId := row.targetDeviceId
            requestPayload := requestPayload
            status := status
            errorCode := row.errorCode
            errorMessage := row.errorMessage
            deviceAck := deviceAck
            createdAt := createdAt
            dispatchedAt := dispatchedAt
            updatedAt := updatedAt
            completedAt := completedAt }
      | _, _ => .error "读取 PostgreSQL 命令失败：时间无效"

/-- The columns a statement writes for a record. -/
def CommandRecord.toRow (r : CommandRecord) : CommandRow where
  commandId := r.commandId
  commandType := r.commandType.toText
  sourceId := r.sourceId
  requestId := r.requestId
  targetDeviceId := r.targetDeviceId
  requestPayload := some r.requestPayload
  status := r.status.toText
  errorCode := r.errorCode
  errorMessage := r.errorMessage
  deviceAck := r.deviceAck.map some
  createdAt := toUnixMicroseconds r.createdAt
  dispatchedAt := r.dispatchedAt.map toUnixMicroseconds
  updatedAt := toUnixMicroseconds r.updatedAt
  completedAt := r.completedAt.map toUnixMicroseconds

/-- The instants of the system clock. -/
def InClockRange (t : ℤ) : Prop := -2 ^ 63 ≤ t ∧ t < 2 ^ 63

/-- An instant comes back truncated to microseconds. -/
lemma fromUnixMicroseconds_toUnix {t : ℤ} (h : InClockRange t) :
    fromUnixMicroseconds (toUnixMicroseconds t) = .ok (storedTime t) := by
  obtain ⟨hlow, hhigh⟩ := h
  have hrange : ¬ (t.tdiv 1000 < -9223372036854775 ∨ 9223372036854775 < t.tdiv 1000) := by
    rcases le_total 0 t with hpos | hneg
    · rw [Int.tdiv_eq_ediv_of_nonneg hpos]
      omega
    · have hflip : t.tdiv 1000 = -((-t) / 1000) := by
        rw [← Int.tdiv_eq_ediv_of_nonneg (by omega), Int.neg_tdiv, Int.neg_neg]
      rw [hflip]
      omega
  rw [fromUnixMicroseconds, toUnixMicroseconds]
  rw [if_neg hrange]
  rfl

/-! ### Migrations -/

/-- `migration::Migration`, without its file. -/
structure Migration where
  version : ℤ
  name : String
  deriving DecidableEq, Repr

inductive Mode where
  | checkOnly | apply
  deriving DecidableEq, Repr

/-- `std::format` of `{:03}`. -/
def threeDigits (version : ℤ) : String :=
  let pad (width digits : ℕ) : String :=
    String.ofList (List.replicate (width - (toString digits).length) '0') ++ toString digits
  if version < 0 then "-" ++ pad 2 version.natAbs else pad 3 version.natAbs

/-- `ValidateContinuous`, from the given index on. -/
def validateContinuous (source : String) : ℕ → List Migration → Except String Unit
  | _, [] => .ok ()
  | index, migration :: rest =>
      if migration.version ≠ index + 1 then
        .error (source ++ "迁移版本不连续，期望 " ++ threeDigits (index + 1) ++ "，实际 " ++
          threeDigits migration.version)
      else validateContinuous source (index + 1) rest

/-- `BuildMigrationPlan`: the migrations still to be applied. -/
def buildMigrationPlan (available applied : List Migration) (mode : Mode) :
    Except String (List Migration) := do
  validateContinuous "目录" 0 available
  validateContinuous "数据库" 0 applied
  match (available.zip applied).find? fun pair => pair.1 ≠ pair.2 with
  | some (migration, _) =>
      .error ("迁移 " ++ threeDigits migration.version ++ " 的目录名称与数据库记录不一致")
  | none =>
      match applied.drop available.length, available.drop applied.length with
      | unknown :: _, _ =>
          .error ("数据库包含程序未知的迁移版本：" ++ threeDigits unknown.version)
      | [], [] => .ok []
      | [], pending :: rest =>
          if mode = .checkOnly then
            .error ("存在待执行迁移 " ++ threeDigits pending.version ++ "，请显式运行迁移模式")
          else .ok (pending :: rest)

/-! ### Calls -/

/-- How the `try` block of a method ends: with an exception, an error it returns,
or a value. -/
abbrev Body (α : Type) := Except Fault (Except String α)

/-- The block ended on a broken or a closed connection. -/
def Body.Broken {α : Type} (body : Body α) (isOpen : Bool) : Prop :=
  ∃ fault, body = .error fault ∧ (fault = .brokenConnection ∨ isOpen = false)

/-- What the database answers to the statements of one call: the rows of a
statement on `commands`, the number of rows a cleanup deleted, the row of a device
as `DeviceFromRow` reads it, the updates of a device state, and the commit.
`isOpen` is `IsOpen()` when an exception is caught. -/
structure StoreReply where
  rows : Except Fault (List CommandRow) := .ok []
  deleted : Except Fault ℕ := .ok 0
  device : Body DeviceRecord := .error .exception
  updated : Except Fault Unit := .ok ()
  commit : Except Fault Unit := .ok ()
  isOpen : Bool := true

/-- A row of `command_sources`. -/
structure SourceRow where
  sourceId : String
  sourceKind : String
  deviceId : Option String
  enabled : Bool

/-- What the database answers to the synchronisation of the sources: the rows of
before, the updates, the rows of after, and the commit. -/
structure SourceReply where
  existing : Except Fault (List SourceRow) := .ok []
  updated : Except Fault Unit := .ok ()
  rows : Except Fault (List SourceRow) := .ok []
  commit : Except Fault Unit := .ok ()
  isOpen : Bool := true

namespace StoreReply

/-- A decoded value is returned after the commit, a decoding error before it. -/
def committed {α : Type} (reply : StoreReply) : Except String α → Body α
  | .error message => .ok (.error message)
  | .ok value => reply.commit.map fun _ => .ok value

/-- The block of `FindCommand` and `FindCommandById`. -/
def findBody (reply : StoreReply) : Body (Option CommandRecord) :=
  reply.rows.map fun rows =>
    match rows with
    | [] => .ok none
    | row :: _ => (commandFromRow row).map some

/-- The block of `InsertCommand`; `one_row` throws unless there is one row. -/
def insertBody (reply : StoreReply) : Body CommandRecord :=
  reply.rows.bind fun rows =>
    match rows with
    | [row] => reply.committed (commandFromRow row)
    | _ => .error .exception

/-- The block of `TransitionCommand`. -/
def transitionBody (reply : StoreReply) : Body CommandRecord :=
  reply.rows.bind fun rows =>
    match rows with
    | [] => .ok (.error CommandTable.stateChanged)
    | row :: _ => reply.committed (commandFromRow row)

/-- The block of `RecoverActiveControlCommands`. -/
def recoverBody (reply : StoreReply) : Body (List CommandRecord) :=
  reply.rows.bind fun rows => reply.committed (rows.mapM commandFromRow)

/-- The block of `DeleteExpiredTerminalCommands`. -/
def cleanupBody (reply : StoreReply) : Body ℕ :=
  reply.deleted.bind fun count => reply.committed (.ok count)

/-- The block of `ProvisionDevice`. -/
def provisionBody (reply : StoreReply) : Body DeviceRecord :=
  reply.device.bind fun record => reply.committed record

/-- The block of `WriteDeviceState`. -/
def writeBody (reply : StoreReply) : Body Unit :=
  reply.updated.bind fun _ => reply.committed (.ok ())

end StoreReply

/-- `PostgresStore`, as far as its callers can tell. -/
structure PostgresStore where
  lastFailureKind : OperationFailureKind := .permanent
  deriving DecidableEq, Repr

/-- The largest `std::int64_t`. -/
def int64Max : ℕ := 9223372036854775807

namespace PostgresStore

/-- A method is its `try` block with the two handlers. -/
def attempt {α : Type} (store : PostgresStore) (isOpen : Bool) (message : String)
    (body : Body α) : Except String α × PostgresStore :=
  match body with
  | .ok result => (result, store)
  | .error fault => (.error message, { lastFailureKind := fault.kind isOpen })

/-- An error return that writes the member first. -/
def refuse {α : Type} (message : String) : Except String α × PostgresStore :=
  (.error message, { lastFailureKind := .permanent })

/-- `FindCommand` and `FindCommandById`. -/
def findCommand (store : PostgresStore) (reply : StoreReply) :
    Except String (Option CommandRecord) × PostgresStore :=
  store.attempt reply.isOpen "读取 PostgreSQL 命令失败" reply.findBody

/-- `InsertCommand`. -/
def insertCommand (store : PostgresStore) (reply : StoreReply) :
    Except String CommandRecord × PostgresStore :=
  store.attempt reply.isOpen "写入 PostgreSQL 命令失败" reply.insertBody

/-- `TransitionCommand`. -/
def transitionCommand (store : PostgresStore) (expected desired : CommandStatus)
    (reply : StoreReply) : Except String CommandRecord × PostgresStore :=
  if !expected.canTransition desired then refuse "转换 PostgreSQL 命令状态失败：状态迁移非法"
  else store.attempt reply.isOpen "转换 PostgreSQL 命令状态失败" reply.transitionBody

/-- `RecoverActiveControlCommands`; the range check leaves the member alone. -/
def recoverActiveControlCommands (store : PostgresStore) (limit : ℕ) (reply : StoreReply) :
    Except String (List CommandRecord) × PostgresStore :=
  if int64Max < limit then (.error "恢复 PostgreSQL 飞控命令失败：数量超出范围", store)
  else store.attempt reply.isOpen "恢复 PostgreSQL 飞控命令失败" reply.recoverBody

/-- `DeleteExpiredTerminalCommands`; the range check leaves the member alone. -/
def deleteExpiredTerminalCommands (store : PostgresStore) (batchSize : ℕ) (reply : StoreReply) :
    Except String ℕ × PostgresStore :=
  if int64Max < batchSize then (.error "清理 PostgreSQL 命令失败：数量超出范围", store)
  else store.attempt reply.isOpen "清理 PostgreSQL 命令失败" reply.cleanupBody

/-- The first check of `ProvisionDevice`. -/
def lacksSchool (registration : Registration) : Bool :=
  registration.deviceType = .cnsBox && registration.schoolName.isNone

/-- `ProvisionDevice`. -/
def provisionDevice (store : PostgresStore) (registration : Registration) (reply : StoreReply) :
    Except String DeviceRecord × PostgresStore :=
  if lacksSchool registration then refuse "建档设备缺少学校"
  else store.attempt reply.isOpen "PostgreSQL 设备建档失败" reply.provisionBody

/-- `ValidateDeviceWrite`. -/
def validateDeviceWrite (write : DesiredDeviceWrite) : Except String Unit :=
  match write.writeTelemetry, write.record.latestTelemetry with
  | true, some telemetry =>
      if telemetry.isObject then .ok ()
      else .error "写入 PostgreSQL 设备状态失败：遥测必须为对象"
  | _, _ => .ok ()

/-- `PlanDeviceWrite`: some table has to be updated. -/
def plansUpdate (write : DesiredDeviceWrite) : Bool :=
  write.writeMetadata || (write.writeStatus || write.writeTelemetry)

/-- `WriteDeviceState`. -/
def writeDeviceState (store : PostgresStore) (write : DesiredDeviceWrite) (reply : StoreReply) :
    Except String Unit × PostgresStore :=
  match validateDeviceWrite write with
  | .error message => refuse message
  | .ok _ =>
      if !plansUpdate write then (.ok (), store)
      else store.attempt reply.isOpen "写入 PostgreSQL 设备状态失败" reply.writeBody

/-- `ReadAppliedMigrations`; without the table there are none. -/
def readAppliedMigrations (store : PostgresStore) (applied : Except Fault (List Migration))
    (isOpen : Bool) : Except String (List Migration) × PostgresStore :=
  store.attempt isOpen "读取 PostgreSQL 迁移版本失败" (applied.map .ok)

/-- `LoadDevices`, whose handler leaves the member alone. -/
def loadDevices (store : PostgresStore) (rows : Except Fault (List (Except String DeviceRecord))) :
    Except String (List DeviceRecord) × PostgresStore :=
  match rows with
  | .ok rows => (rows.mapM id, store)
  | .error _ => (.error "读取 PostgreSQL 设备失败", store)

/-- `LoadActiveCommands`; the range check leaves the member alone. -/
def loadActiveCommands (store : PostgresStore) (limit : ℕ) (reply : StoreReply) :
    Except String (List CommandRecord) × PostgresStore :=
  if int64Max < limit then (.error "读取 PostgreSQL 活动命令失败：数量超出范围", store)
  else store.attempt reply.isOpen "读取 PostgreSQL 活动命令失败"
    (reply.rows.map fun rows => rows.mapM commandFromRow)

/-- The kind of a source, as its row spells it. -/
def parseSourceKind (kind : String) : Except String SourceKind :=
  if kind = "device" then .ok .device
  else if kind = "host_app" then .ok .hostApp
  else if kind = "control_center" then .ok .controlCenter
  else .error "读取 PostgreSQL 命令来源失败：来源类型无效"

/-- A configured source is known under another kind. -/
def sourceKindConflicts (configured : List (String × String)) (existing : List SourceRow) : Bool :=
  configured.any fun source =>
    match existing.find? fun row => row.sourceId = source.1 with
    | some row => row.sourceKind ≠ source.2
    | none => false

/-- The block of `SyncAndLoadCommandSources`. -/
def syncBody (configured : List (String × String)) (reply : SourceReply) :
    Except Fault (Except String (List CommandSource)) := do
  let existing ← reply.existing
  if sourceKindConflicts configured existing then
    return .error "同步 PostgreSQL 命令来源失败：来源类型冲突"
  reply.updated
  let rows ← reply.rows
  let sources := rows.mapM fun row => (parseSourceKind row.sourceKind).map fun kind =>
    (⟨row.sourceId, kind, row.deviceId, row.enabled⟩ : CommandSource)
  match sources with
  | .error message => return .error message
  | .ok sources =>
      reply.commit
      return .ok sources

/-- `SyncAndLoadCommandSources`, where both error returns write the member. -/
def syncAndLoadCommandSources (store : PostgresStore) (configured : List (String × String))
    (reply : SourceReply) : Except String (List CommandSource) × PostgresStore :=
  match syncBody configured reply with
  | .ok (.error message) => refuse message
  | body => store.attempt reply.isOpen "同步 PostgreSQL 命令来源失败" body

/-! ### The member that is left behind -/

/-- **What a call can do to the member**: nothing when it returns a value, and it
says `unavailable` afterwards only if it did before or `broken` is the case. -/
structure Marks {α : Type} (store : PostgresStore) (broken : Prop)
    (call : Except String α × PostgresStore) : Prop where
  ok : ∀ value, call.1 = .ok value → call.2 = store
  unavailable : call.2.lastFailureKind = .unavailable →
    store.lastFailureKind = .unavailable ∨ broken

namespace Marks

variable {α : Type} {store : PostgresStore} {broken : Prop}

/-- A return that leaves the member alone. -/
lemma keep (result : Except String α) : Marks store broken (result, store) :=
  ⟨fun _ _ => rfl, .inl⟩

/-- A refusal before the database is asked leaves no broken connection. -/
lemma refuse (message : String) :
    Marks store broken (PostgresStore.refuse message : Except String α × PostgresStore) := by
  refine ⟨fun value hvalue => ?_, fun hkind => ?_⟩
  · cases hvalue
  · cases hkind

lemma mono {broken' : Prop} (himp : broken → broken') {call : Except String α × PostgresStore}
    (h : Marks store broken call) : Marks store broken' call :=
  ⟨h.ok, fun hkind => (h.unavailable hkind).imp id himp⟩

end Marks

/-- Only a broken or a closed connection is classified as unavailable. -/
lemma kind_unavailable {fault : Fault} {isOpen : Bool}
    (h : fault.kind isOpen = .unavailable) : fault = .brokenConnection ∨ isOpen = false := by
  cases fault with
  | brokenConnection => exact .inl rfl
  | exception =>
      cases isOpen with
      | false => exact .inr rfl
      | true => cases h

/-- **A call under `try`** leaves `unavailable` only if its body found the connection broken. -/
lemma attempt_marks {α : Type} (store : PostgresStore) (isOpen : Bool) (message : String)
    (body : Body α) : Marks store (body.Broken isOpen) (store.attempt isOpen message body) := by
  cases body with
  | ok result => exact .keep result
  | error fault =>
      refine ⟨fun value hvalue => ?_, fun hkind => .inr ⟨fault, rfl, kind_unavailable hkind⟩⟩
      cases hvalue

end PostgresStore

end CnsServer
