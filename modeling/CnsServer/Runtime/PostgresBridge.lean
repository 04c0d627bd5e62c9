/-
`RuntimePostgresBridge` (`service_environment.cpp`), the port between the worker
thread and the store, and the thread running on it.

Every failure of the store is given a kind that is read off the store's member
`last_failure_kind_`, whichever call wrote it last.

* `RuntimePostgresBridge`: the port;
* `startStore`: the calls a start makes before it hands the store over;
* `bridgedLoop`: `workerLoop` with the port in place of arbitrary answers.
-/
import CnsServer.Store.PostgresStore
import CnsServer.Runtime.WorkerLoop

namespace CnsServer

/-! ### The port -/

/-- `RuntimePostgresBridge`; its store is never null. -/
structure RuntimePostgresBridge where
  store : PostgresStore
  migrations : List Migration

/-- What a reconnection meets: whether there is a new connection, and what it
answers to the query for the migrations. -/
structure ReconnectReply where
  connected : Bool
  applied : Except Fault (List Migration)
  isOpen : Bool

/-- No connection, or one that broke at once. -/
def ReconnectReply.Broken (reply : ReconnectReply) : Prop :=
  reply.connected = false ∨
    Body.Broken (reply.applied.map (Except.ok (ε := String))) reply.isOpen

namespace RuntimePostgresBridge

/-- `Classify`. -/
def classify (bridge : RuntimePostgresBridge) (context : String) : DatabaseError where
  kind := if bridge.store.lastFailureKind = .permanent then .permanent else .unavailable
  message := context

/-- `ClassifyWithDetail`. -/
def classifyWithDetail (bridge : RuntimePostgresBridge) (context detail : String) :
    DatabaseError :=
  let error := bridge.classify context
  if detail = "" then error else { error with message := detail }

/-- A call of the store, with its error classified. -/
def answer {α : Type} (bridge : RuntimePostgresBridge)
    (classified : RuntimePostgresBridge → String → DatabaseError)
    (call : Except String α × PostgresStore) :
    Except DatabaseError α × RuntimePostgresBridge :=
  let bridge := { bridge with store := call.2 }
  match call.1 with
  | .ok value => (.ok value, bridge)
  | .error detail => (.error (classified bridge detail), bridge)

/-- `Provision`. -/
def provision (bridge : RuntimePostgresBridge) (registration : Registration)
    (reply : StoreReply) : Except DatabaseError DeviceRecord × RuntimePostgresBridge :=
  bridge.answer (fun bridge _ => bridge.classify "数据库建档失败")
    (bridge.store.provisionDevice registration reply)

/-- `Write`. -/
def write (bridge : RuntimePostgresBridge) (write : DesiredDeviceWrite) (reply : StoreReply) :
    Except DatabaseError Unit × RuntimePostgresBridge :=
  bridge.answer (fun bridge _ => bridge.classify "数据库状态写入失败")
    (bridge.store.writeDeviceState write reply)

/-- `FindCommand` and `FindCommandById`. -/
def findCommand (bridge : RuntimePostgresBridge) (reply : StoreReply) :
    Except DatabaseError (Option CommandRecord) × RuntimePostgresBridge :=
  bridge.answer (fun bridge => bridge.classifyWithDetail "数据库命令查询失败")
    (bridge.store.findCommand reply)

/-- `InsertCommand`. -/
def insertCommand (bridge : RuntimePostgresBridge) (reply : StoreReply) :
    Except DatabaseError CommandRecord × RuntimePostgresBridge :=
  bridge.answer (fun bridge => bridge.classifyWithDetail "数据库命令写入失败")
    (bridge.store.insertCommand reply)

/-- `TransitionCommand`. -/
def transitionCommand (bridge : RuntimePostgresBridge) (expected desired : CommandStatus)
    (reply : StoreReply) : Except DatabaseError CommandRecord × RuntimePostgresBridge :=
  bridge.answer (fun bridge => bridge.classifyWithDetail "数据库命令状态转换失败")
    (bridge.store.transitionCommand expected desired reply)

/-- `CleanupCommands`. -/
def cleanupCommands (bridge : RuntimePostgresBridge) (batchSize : ℕ) (reply : StoreReply) :
    Except DatabaseError ℕ × RuntimePostgresBridge :=
  bridge.answer (fun bridge _ => bridge.classify "数据库命令清理失败")
    (bridge.store.deleteExpiredTerminalCommands batchSize reply)

/-- `RecoverControlCommands`. -/
def recoverControlCommands (bridge : RuntimePostgresBridge) (batchSize : ℕ)
    (reply : StoreReply) : Except DatabaseError (List CommandRecord) × RuntimePostgresBridge :=
  bridge.answer (fun bridge _ => bridge.classify "数据库飞控命令恢复失败")
    (bridge.store.recoverActiveControlCommands batchSize reply)

/-- `ReconnectAndValidate`: the store is replaced only when all went well, by one
that has never failed. -/
def reconnectAndValidate (bridge : RuntimePostgresBridge) (reply : ReconnectReply) :
    Except DatabaseError Unit × RuntimePostgresBridge :=
  if !reply.connected then (.error ⟨.unavailable, "数据库重连失败"⟩, bridge)
  else
    match PostgresStore.readAppliedMigrations {} reply.applied reply.isOpen with
    | (.error _, connected) =>
        (.error
          ⟨if connected.lastFailureKind = .unavailable then .unavailable else .permanent,
            "数据库重连后读取迁移版本失败"⟩, bridge)
    | (.ok applied, connected) =>
        match buildMigrationPlan bridge.migrations applied .checkOnly with
        | .error _ => (.error ⟨.permanent, "数据库迁移版本校验失败"⟩, bridge)
        | .ok _ => (.ok (), { bridge with store := connected })

/-- The `visit` of the command branch of `Run`. -/
def execute (bridge : RuntimePostgresBridge) (reply : StoreReply) :
    CommandDatabaseTask → Except DatabaseError CommandDatabaseValue × RuntimePostgresBridge
  | .findCommand _ _ => (bridge.findCommand reply).map (·.map .found) id
  | .findCommandById _ => (bridge.findCommand reply).map (·.map .found) id
  | .insertCommand _ => (bridge.insertCommand reply).map (·.map .record) id
  | .transitionCommand _ expected desired _ =>
      (bridge.transitionCommand expected desired reply).map (·.map .record) id
  | .recoverControlCommands _ limit =>
      (bridge.recoverControlCommands limit reply).map (·.map .records) id
  | .cleanupCommands _ batchSize =>
      (bridge.cleanupCommands batchSize reply).map (·.map .count) id

end RuntimePostgresBridge

/-! ### The start -/

/-- What the database answers while the service starts. -/
structure StartReplies where
  connected : Bool
  applied : Except Fault (List Migration)
  isOpen : Bool
  devices : Except Fault (List (Except String DeviceRecord))
  sources : SourceReply
  active : StoreReply
  recovered : StoreReply

/-- What a start brings along: the migrations of the directory, the configured
sources, and the bound on the active commands; `loads` is the check of
`DeviceRegistry::Load`. -/
structure StartConfig where
  migrations : List Migration
  fixedSources : List (String × String)
  maxInflightCommands : ℕ
  loads : List DeviceRecord → Except String Unit

/-- The bound on the commands a start finds active. -/
def checkActiveCount (cfg : StartConfig) (commands : List CommandRecord) : Except String Unit :=
  if cfg.maxInflightCommands < commands.length then .error "活动命令数量超过配置上限" else .ok ()

/-- From `ConnectPostgres` to `LoadCommandState` in `RunService`: any failure ends
the process, so that the store is handed over only after all these calls returned
a value. -/
def startStore (cfg : StartConfig) (replies : StartReplies) : Except String PostgresStore :=
  if !replies.connected then .error "连接 PostgreSQL 失败"
  else do
    let applied := PostgresStore.readAppliedMigrations {} replies.applied replies.isOpen
    let _ ← buildMigrationPlan cfg.migrations (← applied.1) .checkOnly
    let devices := applied.2.loadDevices replies.devices
    cfg.loads (← devices.1)
    let sources := devices.2.syncAndLoadCommandSources cfg.fixedSources replies.sources
    let _ ← SourceCatalog.load (← sources.1)
    let active := sources.2.loadActiveCommands (cfg.maxInflightCommands + 1) replies.active
    checkActiveCount cfg (← active.1)
    let recovered :=
      active.2.recoverActiveControlCommands (cfg.maxInflightCommands + 1) replies.recovered
    let _ ← recovered.1
    return recovered.2

/-! ### The thread on the port -/

/-- The worker thread and its port. -/
structure BridgedWorker where
  loop : WorkerLoop
  bridge : RuntimePostgresBridge

/-- The database answers the call for the task in hand, or anything else happens
to the thread. -/
inductive BridgedInput where
  | reply (reply : StoreReply) (now : TimePoint)
  | reconnected (reply : ReconnectReply) (now : TimePoint)
  | other (input : WorkerInput)

/-- The input is not an answer of the store; an exception the port lets through
is none. -/
def WorkerInput.IsOther : WorkerInput → Prop
  | .reconnected outcome _ => ∃ standard, outcome = .threw standard
  | .executed outcome _ => ∃ standard, outcome = .threw standard
  | .provisioned outcome _ => ∃ standard, outcome = .threw standard
  | .written outcome _ => ∃ standard, outcome = .threw standard
  | _ => True

namespace BridgedWorker

/-- What the port hands to the thread, and the port after it. -/
def deliver (s : BridgedWorker) : BridgedInput → WorkerInput × RuntimePostgresBridge
  | .reply reply now =>
      match s.loop.hand with
      | .command _ task =>
          let (result, bridge) := s.bridge.execute reply task
          (.executed (.returned result) now, bridge)
      | .provision task =>
          let (result, bridge) := s.bridge.provision task.registration reply
          (.provisioned (.returned result) now, bridge)
      | .write write =>
          let (result, bridge) := s.bridge.write write reply
          (.written (.returned result) now, bridge)
      -- the store is called for nothing else
      | _ => (.executed (.threw true) now, s.bridge)
  | .reconnected reply now =>
      let (result, bridge) := s.bridge.reconnectAndValidate reply
      (.reconnected (.returned result) now, bridge)
  | .other input => (input, s.bridge)

/-- The state after an input. -/
def next (cfg : WorkerConfig) (s : BridgedWorker) (input : BridgedInput) : BridgedWorker where
  loop := (s.deliver input).1.apply cfg s.loop
  bridge := (s.deliver input).2

/-- When an input may arrive. -/
def Enabled (s : BridgedWorker) (input : BridgedInput) : Prop :=
  (s.deliver input).1.Enabled s.loop ∧
    ∀ own, input = .other own → own.IsOther

/-- **The calls of the store**: it answers for a command, a provision or a write. -/
lemma reply_cases {s : BridgedWorker} {reply : StoreReply} {now : TimePoint}
    (h : s.Enabled (.reply reply now)) :
    (∃ operationId task, s.loop.hand = .command operationId task ∧
      s.deliver (.reply reply now) =
        (.executed (.returned (s.bridge.execute reply task).1) now,
          (s.bridge.execute reply task).2)) ∨
    (∃ task, s.loop.hand = .provision task ∧
      s.deliver (.reply reply now) =
        (.provisioned (.returned (s.bridge.provision task.registration reply).1) now,
          (s.bridge.provision task.registration reply).2)) ∨
    ∃ write, s.loop.hand = .write write ∧
      s.deliver (.reply reply now) =
        (.written (.returned (s.bridge.write write reply).1) now,
          (s.bridge.write write reply).2) := by
  have henabled := h.1
  rw [deliver] at henabled ⊢
  cases hhand : s.loop.hand with
  | command operationId task => exact .inl ⟨operationId, task, rfl, rfl⟩
  | provision task => exact .inr (.inl ⟨task, rfl, rfl⟩)
  | write write => exact .inr (.inr ⟨write, rfl, rfl⟩)
  | _ =>
      rw [hhand] at henabled
      obtain ⟨_, _, _, hcommand⟩ := henabled
      rw [hhand] at hcommand
      cases hcommand

end BridgedWorker

/-- The worker thread on the port, from the store of a successful start. -/
def bridgedLoop (start : StartConfig) (cfg : WorkerConfig) :
    Machine BridgedWorker BridgedInput where
  init s := s.loop = .fresh ∧ s.bridge.migrations = start.migrations ∧
    ∃ replies, startStore start replies = .ok s.bridge.store
  enabled := BridgedWorker.Enabled
  next := BridgedWorker.next cfg

end CnsServer
