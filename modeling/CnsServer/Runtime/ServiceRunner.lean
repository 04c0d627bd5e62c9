/-
The life of the process (`service_runner.cpp`, the operations of `service_environment.cpp`
that they drive, and `main.cpp`).

Anything that the process calls may throw, or return an error.  What it does next is drawn
from `outcomes`, one `Outcome` for each call; nothing is assumed of them.

* `Process`: computations over the environment, which keep its state when they throw;
* `ServiceEnvironment`: what the environment holds, with the table of the migrations and the
  threads that it has let go of;
* `ServiceOperations`: the operations of the environment, for `RunService`;
* `startDeviceRuntimeTransaction`, `drainDeviceRuntime`, `runService`: the three functions
  of `service_runner.cpp`; the loops of `RunService` take fuel, and return `none` without;
* `serviceMain`: `main`, with the destructor of the environment, which runs however
  `RunService` ends.
-/
import CnsServer.Properties.MigrationPlans

namespace CnsServer

/-! ### What may happen -/

/-- What a call throws: a `std::exception`, or anything else. -/
inductive Thrown where
  | exception | unknown
  deriving DecidableEq, Repr

/-- How a computation ends that does not return: something is thrown, a pointer or an optional
is read that holds nothing, threads are let go of that nobody has joined or detached, or a
destructor throws. -/
inductive Abort where
  | thrown (what : Thrown)
  | undefined
  | abandoned
  | terminated
  deriving DecidableEq, Repr

/-- What one call outside the process does. -/
structure Outcome where
  thrown : Option Thrown := none
  error : Option String := none
  flag : Bool := false
  count : ℕ := 0
  migrations : List Migration := []

/-! ### The environment -/

inductive ThreadPhase where
  | idle | running | joined | detached
  deriving DecidableEq, Repr

structure SelfOwnedRuntimeThread where
  phase : ThreadPhase := .idle
  stopRequested : Bool := false
  deriving DecidableEq, Repr

namespace SelfOwnedRuntimeThread

def joinable (thread : SelfOwnedRuntimeThread) : Bool := decide (thread.phase = .running)

def start (_thread : SelfOwnedRuntimeThread) : SelfOwnedRuntimeThread := ⟨.running, false⟩

def requestStop (thread : SelfOwnedRuntimeThread) : SelfOwnedRuntimeThread :=
  { thread with stopRequested := true }

def join (thread : SelfOwnedRuntimeThread) : SelfOwnedRuntimeThread :=
  if thread.joinable then { thread with phase := .joined } else thread

def detach (thread : SelfOwnedRuntimeThread) : SelfOwnedRuntimeThread :=
  if thread.joinable then { thread with phase := .detached } else thread

end SelfOwnedRuntimeThread

/-- `RuntimeBundle`: its threads, and the doors that the process opens and closes. -/
structure RuntimeThreads where
  databaseThread : SelfOwnedRuntimeThread := {}
  businessThread : SelfOwnedRuntimeThread := {}
  ingressEnabled : Bool := true
  commandIngressEnabled : Bool := true
  serviceClosed : Bool := false
  commandServiceClosed : Bool := false
  workCancelled : Bool := false
  deriving DecidableEq, Repr

namespace RuntimeThreads

def requestStop (b : RuntimeThreads) : RuntimeThreads :=
  { b with
    businessThread := b.businessThread.requestStop
    databaseThread := b.databaseThread.requestStop
    workCancelled := true }

def detach (b : RuntimeThreads) : RuntimeThreads :=
  { b with databaseThread := b.databaseThread.detach, businessThread := b.businessThread.detach }

/-- `Disable` of the two entrances. -/
def disable (b : RuntimeThreads) : RuntimeThreads :=
  { b with ingressEnabled := false, commandIngressEnabled := false }

/-- `Close` of the two services. -/
def close (b : RuntimeThreads) : RuntimeThreads :=
  { b with serviceClosed := true, commandServiceClosed := true }

/-- A thread is left that nobody has joined or detached. -/
def joinable (b : RuntimeThreads) : Bool := b.databaseThread.joinable || b.businessThread.joinable

end RuntimeThreads

/-- `RuntimeExternalBridge`: whether its pointers lead anywhere. -/
structure RuntimeExternalBridge where
  mqtt : Bool := false
  logger : Bool := false
  enabled : Bool := true
  deriving DecidableEq, Repr

def RuntimeExternalBridge.disable (_bridge : RuntimeExternalBridge) : RuntimeExternalBridge :=
  ⟨false, false, false⟩

/-- The MQTT client: created, started, and stopped. -/
inductive MqttPhase where
  | created | started | stopped
  deriving DecidableEq, Repr

inductive LifecycleEvent where
  | runtimeStarted | runtimeReleased | mqttStarted | mqttStopped
  deriving DecidableEq, Repr

/-- `ServiceEnvironment::State`, with the migrations of the database, the bundles that have
been let go of, and a trace with the latest event first. -/
structure ServiceEnvironment where
  config : Bool := false
  logger : Bool := false
  available : List Migration := []
  store : Bool := false
  applied : List Migration := []
  plan : Option (List Migration) := none
  mqtt : Option MqttPhase := none
  handlerConfigured : Bool := false
  externalBridge : Option RuntimeExternalBridge := none
  runtimeBundle : Option RuntimeThreads := none
  acceptingDeviceMessages : Bool := false
  deviceRuntimeStopped : Bool := true
  shutdownRequested : Bool := false
  table : MigrationState := ⟨[], [], none⟩
  released : List RuntimeThreads := []
  log : List LifecycleEvent := []
  outcomes : ℕ → Outcome
  clock : ℕ := 0

/-- Computations over the environment. -/
abbrev Process := EStateM Abort ServiceEnvironment

namespace Process

/-- What the next call does. -/
def observe : Process Outcome := do
  let s ← get
  set { s with clock := s.clock + 1 }
  match (s.outcomes s.clock).thrown with
  | some what => throw (.thrown what)
  | none => return s.outcomes s.clock

/-- A call that returns an error, or does this. -/
def expected (effect : Outcome → ServiceEnvironment → ServiceEnvironment) :
    Process (Except String Unit) := do
  let outcome ← observe
  match outcome.error with
  | some error => return .error error
  | none =>
      modify (effect outcome)
      return .ok ()

/-- `if (!result) return std::unexpected(result.error())`, and what follows. -/
def andThen (step rest : Process (Except String Unit)) : Process (Except String Unit) := do
  match ← step with
  | .error error => return .error error
  | .ok () => rest

/-- A call of which only the result matters. -/
def ask : Process Bool := do
  let outcome ← observe
  return outcome.flag

/-- Something is read that has to be there. -/
def need (isThere : ServiceEnvironment → Bool) : Process Unit := do
  let s ← get
  match isThere s with
  | true => return ()
  | false => throw .undefined

/-- `try` and `catch`, for whatever is thrown. -/
def catching {α : Type} (body : Process α) (handler : Thrown → Process α) : Process α :=
  tryCatch body fun abort =>
    match abort with
    | .thrown what => handler what
    | other => throw other

end Process

open Process

/-! ### The operations of `service_runner.cpp` -/

structure DeviceRuntimeStartOperations where
  configureHandler : Process (Except String Unit)
  startPostgresThread : Process (Except String Unit)
  startDeviceThread : Process (Except String Unit)
  rollback : Process Unit

namespace DeviceRuntimeStartOperations

variable (operations : DeviceRuntimeStartOperations)

/-- The rollback, whatever it throws. -/
def rollbackQuietly : Process Unit := catching operations.rollback fun _ => return ()

/-- One step, after which the others follow. -/
def orRollback (step rest : Process (Except String Unit)) : Process (Except String Unit) := do
  match ← step with
  | .ok () => rest
  | .error error =>
      operations.rollbackQuietly
      return .error error

end DeviceRuntimeStartOperations

def startDeviceRuntimeTransaction (operations : DeviceRuntimeStartOperations) :
    Process (Except String Unit) :=
  catching
    (operations.orRollback operations.configureHandler <|
      operations.orRollback operations.startPostgresThread <|
      operations.orRollback operations.startDeviceThread <| return .ok ())
    fun what => do
      operations.rollbackQuietly
      match what with
      | .exception => return .error "启动设备运行时失败"
      | .unknown => return .error "启动设备运行时发生未知异常"

structure DeviceRuntimeDrainOperations where
  waitInputDrained : Process Bool
  waitDatabaseIdle : Process Bool
  flushDatabase : Process Bool
  pendingDevices : Process ℕ
  disableExternalBridge : Process Unit
  requestStop : Process Unit
  joinThreads : Process Unit
  detachThreads : Process Unit
  reportTimeout : ℕ → Process Unit

namespace DeviceRuntimeDrainOperations

variable (operations : DeviceRuntimeDrainOperations)

/-- The three waits, each only after the one before. -/
def drained : Process Bool := do
  match ← operations.waitInputDrained with
  | false => return false
  | true =>
      match ← operations.waitDatabaseIdle with
      | false => return false
      | true => operations.flushDatabase

/-- What follows the waits. -/
def conclude (drained : Bool) : Process Bool :=
  match drained with
  | true => do
      operations.joinThreads
      operations.disableExternalBridge
      return true
  | false => do
      operations.reportTimeout (← operations.pendingDevices)
      operations.disableExternalBridge
      operations.requestStop
      operations.detachThreads
      return false

end DeviceRuntimeDrainOperations

def drainDeviceRuntime (operations : DeviceRuntimeDrainOperations) : Process Bool :=
  catching
    (do operations.conclude (← operations.drained))
    fun _ => do
      catching operations.disableExternalBridge fun _ => return ()
      catching operations.requestStop fun _ => return ()
      catching operations.detachThreads fun _ => return ()
      return false

inductive RunMode where
  | normal | migrateOnly
  deriving DecidableEq, Repr

structure ServiceOperations where
  loadConfig : Process (Except String Unit)
  initializeLogger : Process Unit
  discoverMigrations : Process (Except String Unit)
  connectPostgres : Process (Except String Unit)
  readAppliedMigrations : Process (Except String Unit)
  planMigrations : Bool → Process (Except String Unit)
  pendingMigrationCount : Process ℕ
  applyMigration : ℕ → Process (Except String Unit)
  loadDeviceSnapshot : Process (Except String Unit)
  loadCommandState : Process (Except String Unit)
  installSignalHandlers : Process (Except String Unit)
  startDeviceRuntime : Process (Except String Unit)
  stopAcceptingDeviceMessages : Process Unit
  stopDeviceRuntime : Process Bool
  createMqtt : Process (Except String Unit)
  startMqtt : Process (Except String Unit)
  mqttHasTerminalFailure : Process Bool
  mqttCallbackStopRequested : Process Bool
  shutdownRequested : Process Bool
  waitForNextCheck : Process Unit
  stopMqtt : Process Unit
  info : String → Process Unit
  error : String → Process Unit

namespace ServiceOperations

variable (operations : ServiceOperations)

/-- `if (Failed(step)) { cleanup; return 1; }`, and what follows. -/
def orReturn (step : Process (Except String Unit)) (cleanup : Process Unit)
    (next : Process (Option ℕ)) : Process (Option ℕ) := do
  match ← step with
  | .ok () => next
  | .error error =>
      operations.error error
      cleanup
      return some 1

/-- The order of the shutdown. -/
def stopRuntime : Process Unit := do
  operations.stopAcceptingDeviceMessages
  let _ ← operations.stopDeviceRuntime

def stopAll : Process Unit := do
  operations.stopRuntime
  operations.stopMqtt

/-- The loop over the migrations, from the given one on. -/
def applyMigrations : ℕ → ℕ → Process (Option ℕ)
  | 0, _ => return none
  | fuel + 1, index => do
      let pending ← operations.pendingMigrationCount
      match decide (index < pending) with
      | true =>
          operations.orReturn (operations.applyMigration index) (return ())
            (applyMigrations fuel (index + 1))
      | false =>
          operations.info "数据库迁移完成"
          return some 0

/-- Whether the service has to stop: the flag is read last, and only if nothing else stops
it. -/
def stopping (mqttFailure : Bool) : Process Bool := do
  let callbackStop ← operations.mqttCallbackStopRequested
  match mqttFailure with
  | true =>
      operations.error "MQTT后台运行发生终止性失败"
      return true
  | false =>
      match callbackStop with
      | true => return true
      | false => operations.shutdownRequested

/-- The loop that waits for the end. -/
def watch : ℕ → Process (Option ℕ)
  | 0 => return none
  | fuel + 1 => do
      let mqttFailure ← operations.mqttHasTerminalFailure
      match ← operations.stopping mqttFailure with
      | true =>
          operations.stopAll
          match mqttFailure with
          | true => return some 1
          | false =>
              operations.info "路由服务已停止"
              return some 0
      | false =>
          operations.waitForNextCheck
          watch fuel

/-- `RunService` in the normal mode, after the plan. -/
def runNormal (fuel : ℕ) : Process (Option ℕ) :=
  operations.orReturn operations.loadDeviceSnapshot (return ()) <|
  operations.orReturn operations.loadCommandState (return ()) <|
  operations.orReturn operations.installSignalHandlers (return ()) <|
  operations.orReturn operations.startDeviceRuntime operations.stopRuntime <|
  operations.orReturn operations.createMqtt operations.stopRuntime <|
  operations.orReturn operations.startMqtt operations.stopAll <| do
    operations.info "路由服务已启动"
    operations.watch fuel

end ServiceOperations

def runService (mode : RunMode) (fuel : ℕ) (operations : ServiceOperations) :
    Process (Option ℕ) :=
  operations.orReturn operations.loadConfig (return ()) do
    operations.initializeLogger
    operations.orReturn operations.discoverMigrations (return ()) <|
      operations.orReturn operations.connectPostgres (return ()) <|
      operations.orReturn operations.readAppliedMigrations (return ()) <|
      operations.orReturn (operations.planMigrations (mode = .migrateOnly)) (return ()) <|
      match mode with
      | .migrateOnly => operations.applyMigrations fuel 0
      | .normal => operations.runNormal fuel

/-! ### The operations of `service_environment.cpp` -/

namespace ServiceEnvironment

/-! #### Before the runtime -/

def loadConfig : Process (Except String Unit) := expected fun _ s => { s with config := true }

def initializeLogger : Process Unit := do
  need ServiceEnvironment.config
  let _ ← observe
  modify fun s => { s with logger := true }

def discoverMigrations : Process (Except String Unit) :=
  expected fun outcome s => { s with available := outcome.migrations }

def connectPostgres : Process (Except String Unit) := do
  need fun s => s.config && s.logger
  expected fun _ s => { s with store := true }

def readAppliedMigrations : Process (Except String Unit) := do
  need ServiceEnvironment.store
  expected fun _ s => { s with applied := s.table.rows }

/-- `apply ? Mode::kApply : Mode::kCheckOnly`. -/
def planMode : Bool → Mode
  | true => .apply
  | false => .checkOnly

def planMigrations (apply : Bool) : Process (Except String Unit) := do
  let s ← get
  match buildMigrationPlan s.available s.applied (planMode apply) with
  | .error error => return .error error
  | .ok pending =>
      set { s with plan := some pending }
      return .ok ()

def pendingMigrationCount : Process ℕ := do
  let s ← get
  match s.plan with
  | some pending => return pending.length
  | none => throw .undefined

/-- `MigrationContext`. -/
def migrationContext (migration : Migration) : String :=
  "迁移版本 " ++ toString migration.version ++ "（" ++ migration.name ++ "）"

/-- The transaction of the script and its row. -/
def commit (migration : Migration) (s : ServiceEnvironment) : ServiceEnvironment :=
  { s with table := (s.table.applyMigration migration).getD s.table }

/-- `PostgresStore::ApplyMigration`.  The end of the transaction may be in doubt, so that an
error is returned for a migration that is committed. -/
def applyToStore (migration : Migration) : Process (Except String Unit) := do
  let outcome ← observe
  let s ← get
  match outcome.error, s.table.applyMigration migration with
  | some error, _ =>
      modify (if outcome.flag then commit migration else id)
      return .error error
  | none, none => return .error ("执行" ++ migrationContext migration ++ "失败")
  | none, some _ =>
      modify (commit migration)
      return .ok ()

def applyMigration (index : ℕ) : Process (Except String Unit) := do
  let s ← get
  match s.store, s.plan with
  | true, some pending =>
      match pending[index]? with
      | some migration => applyToStore migration
      | none => throw (.thrown .exception)
  | _, _ => throw .undefined

def loadDeviceSnapshot : Process (Except String Unit) := do
  need fun s => s.store && s.config
  expected fun _ s => s

def loadCommandState : Process (Except String Unit) := do
  need fun s => s.store && s.config
  expected fun _ s => s

def installSignalHandlers : Process (Except String Unit) := do
  modify fun s => { s with shutdownRequested := false }
  expected fun _ s => s

def createMqtt : Process (Except String Unit) := do
  need fun s => s.config && s.logger
  expected fun _ s => { s with mqtt := some .created }

/-! #### The threads -/

def modifyBundle (f : RuntimeThreads → RuntimeThreads) (s : ServiceEnvironment) :
    ServiceEnvironment :=
  { s with runtimeBundle := s.runtimeBundle.map f }

/-- `bridge->Disable()`, where there is one. -/
def disableBridge (s : ServiceEnvironment) : ServiceEnvironment :=
  { s with externalBridge := s.externalBridge.map RuntimeExternalBridge.disable }

/-- `SelfOwnedRuntimeThread::Start`, for one of the threads: it throws where the thread runs
already, or does not come into being. -/
def startThread (thread : RuntimeThreads → SelfOwnedRuntimeThread)
    (start : RuntimeThreads → RuntimeThreads) : Process Unit := do
  let s ← get
  match s.runtimeBundle.any fun b => (thread b).joinable with
  | true => throw (.thrown .exception)
  | false =>
      let _ ← observe
      modify (modifyBundle start)

def startDatabaseThread : Process (Except String Unit) := do
  startThread RuntimeThreads.databaseThread fun b =>
    { b with databaseThread := b.databaseThread.start }
  return .ok ()

/-- The writes that the start has left are submitted once the thread is there. -/
def startBusinessThread : Process (Except String Unit) := do
  startThread RuntimeThreads.businessThread fun b =>
    { b with businessThread := b.businessThread.start }
  let _ ← observe
  return .ok ()

/-- `SelfOwnedRuntimeThread::Join`, for one of the threads. -/
def joinThread (join : RuntimeThreads → RuntimeThreads) : Process Unit := do
  let _ ← observe
  modify (modifyBundle join)

/-- `RuntimeBundle::Join`. -/
def joinThreads : Process Unit := do
  joinThread fun b => { b with databaseThread := b.databaseThread.join }
  joinThread fun b => { b with businessThread := b.businessThread.join }

/-- The bundle is let go of. -/
def release (b : RuntimeThreads) (s : ServiceEnvironment) : ServiceEnvironment :=
  { s with
    runtimeBundle := none
    released := b :: s.released
    log := .runtimeReleased :: s.log }

/-- `runtime_bundle.reset()`: a thread that has not been joined or detached would have to join
itself. -/
def resetBundle : Process Unit := do
  let s ← get
  match s.runtimeBundle with
  | none => return ()
  | some b =>
      match b.joinable with
      | true => throw .abandoned
      | false => set (s.release b)

def markStopped (s : ServiceEnvironment) : ServiceEnvironment :=
  { s with deviceRuntimeStopped := true, acceptingDeviceMessages := false }

/-- The rollback of the start. -/
def rollback : Process Unit := do
  modify (modifyBundle RuntimeThreads.requestStop)
  joinThreads
  modify disableBridge
  resetBundle
  modify markStopped

def startOperations : DeviceRuntimeStartOperations where
  configureHandler := return .ok ()
  startPostgresThread := startDatabaseThread
  startDeviceThread := startBusinessThread
  rollback := rollback

/-- The bridge and the bundle are made, and the threads started. -/
def buildRuntime : Process (Except String Unit) := do
  let _ ← observe
  modify fun s => { s with externalBridge := some { logger := s.logger } }
  need fun s => s.config && s.store
  modify fun s => { s with store := false }
  let _ ← observe
  modify fun s => { s with
    runtimeBundle := some {}
    deviceRuntimeStopped := false
    acceptingDeviceMessages := true
    log := .runtimeStarted :: s.log }
  startDeviceRuntimeTransaction startOperations

/-- The bundle of a start that has thrown, if it has come to that. -/
def abandonBundle : Process Unit := do
  let s ← get
  match s.runtimeBundle with
  | none => return ()
  | some _ =>
      modify (modifyBundle RuntimeThreads.requestStop)
      joinThreads
      resetBundle

/-- What is left of a start that has thrown. -/
def abandonStart : Process Unit := do
  abandonBundle
  modify fun s => s.disableBridge.markStopped

def startDeviceRuntime : Process (Except String Unit) :=
  catching buildRuntime fun what => do
    abandonStart
    match what with
    | .exception => return .error "启动设备运行时失败"
    | .unknown => return .error "启动设备运行时发生未知异常"

/-! #### The end of the runtime -/

/-- The MQTT client, if there is one, gets an empty handler; an error is only reported. -/
def clearHandler : Process Unit := do
  let s ← get
  match s.mqtt with
  | none => return ()
  | some _ =>
      need ServiceEnvironment.config
      match ← expected fun _ s => { s with handlerConfigured := false } with
      | .ok () => return ()
      | .error _ =>
          let _ ← observe

/-- The two doors are closed; then the MQTT client is told, and the services. -/
def closeDoors : Process Unit := do
  let _ ← observe
  modify (modifyBundle RuntimeThreads.disable)
  clearHandler
  let _ ← observe
  modify (modifyBundle RuntimeThreads.close)

def stopAcceptingDeviceMessages : Process Unit := do
  let s ← get
  match s.acceptingDeviceMessages with
  | false => return ()
  | true =>
      set { s with acceptingDeviceMessages := false }
      closeDoors

/-- How many devices are not written yet. -/
def pendingDevices : Process ℕ := do
  let outcome ← observe
  return outcome.count

def drainOperations : DeviceRuntimeDrainOperations where
  waitInputDrained := ask
  waitDatabaseIdle := ask
  flushDatabase := ask
  pendingDevices := pendingDevices
  disableExternalBridge := modify disableBridge
  requestStop := modify (modifyBundle RuntimeThreads.requestStop)
  joinThreads := joinThreads
  detachThreads := modify (modifyBundle RuntimeThreads.detach)
  reportTimeout := fun _ => do
    need ServiceEnvironment.logger
    let _ ← observe

def stopDeviceRuntime : Process Bool := do
  let s ← get
  match s.deviceRuntimeStopped with
  | true => return true
  | false =>
      set { s with deviceRuntimeStopped := true }
      match s.runtimeBundle with
      | none => return true
      | some _ =>
          let drained ← drainDeviceRuntime drainOperations
          resetBundle
          return drained

/-! #### MQTT -/

/-- The handlers are set, the topics subscribed, and the client started. -/
def configureMqtt : Process (Except String Unit) :=
  andThen (expected fun _ s => { s with handlerConfigured := true }) <|
  andThen (expected fun _ s => s) <|
  andThen (expected fun _ s => s) <|
  andThen (expected fun _ s => s) <|
  expected fun _ s => { s with mqtt := some .started, log := .mqttStarted :: s.log }

/-- The bridge leads to the client. -/
def connectBridge (s : ServiceEnvironment) : ServiceEnvironment :=
  { s with externalBridge := s.externalBridge.map fun bridge => { bridge with mqtt := true } }

def startMqtt : Process (Except String Unit) := do
  let s ← get
  match s.runtimeBundle with
  | none => return .error "设备运行时尚未启动"
  | some _ =>
      need fun s => s.externalBridge.isSome && s.mqtt.isSome && s.config
      modify connectBridge
      configureMqtt

/-- A question to the client. -/
def askMqtt : Process Bool := do
  need fun s => s.mqtt.isSome
  ask

/-- A signal may have come since. -/
def askShutdown : Process Bool := do
  let outcome ← observe
  modify fun s => { s with shutdownRequested := s.shutdownRequested || outcome.flag }
  let s ← get
  return s.shutdownRequested

def waitForNextCheck : Process Unit := do
  let _ ← observe

def stopMqtt : Process Unit := do
  let s ← get
  match s.mqtt with
  | none => return ()
  | some _ =>
      let _ ← observe
      modify fun s => { s with mqtt := some .stopped, log := .mqttStopped :: s.log }

def info (_message : String) : Process Unit := do
  need ServiceEnvironment.logger
  let _ ← observe

def error (_message : String) : Process Unit := do
  let _ ← observe

def operations : ServiceOperations where
  loadConfig := loadConfig
  initializeLogger := initializeLogger
  discoverMigrations := discoverMigrations
  connectPostgres := connectPostgres
  readAppliedMigrations := readAppliedMigrations
  planMigrations := planMigrations
  pendingMigrationCount := pendingMigrationCount
  applyMigration := applyMigration
  loadDeviceSnapshot := loadDeviceSnapshot
  loadCommandState := loadCommandState
  installSignalHandlers := installSignalHandlers
  startDeviceRuntime := startDeviceRuntime
  stopAcceptingDeviceMessages := stopAcceptingDeviceMessages
  stopDeviceRuntime := stopDeviceRuntime
  createMqtt := createMqtt
  startMqtt := startMqtt
  mqttHasTerminalFailure := askMqtt
  mqttCallbackStopRequested := askMqtt
  shutdownRequested := askShutdown
  waitForNextCheck := waitForNextCheck
  stopMqtt := stopMqtt
  info := info
  error := error

/-! #### The destructor -/

/-- `~ServiceEnvironment`, and the end of its members. -/
def destroy : Process Unit := do
  stopAcceptingDeviceMessages
  let _ ← stopDeviceRuntime
  stopMqtt
  resetBundle

/-- A destructor that throws ends the process. -/
def destroyed : Process Unit :=
  catching destroy fun _ => throw .terminated

end ServiceEnvironment

/-- `RunService`: where it throws, the environment is destroyed on the way out. -/
def unwinding (mode : RunMode) (fuel : ℕ) : Process (Option ℕ) :=
  catching (runService mode fuel ServiceEnvironment.operations) fun what => do
    ServiceEnvironment.destroyed
    throw (.thrown what)

/-- Where it returns a code, the environment is destroyed after it. -/
def returning : Option ℕ → Process (Option ℕ)
  | none => return none
  | some code => do
      ServiceEnvironment.destroyed
      return some code

/-- `main`, once the command line is read. -/
def serviceMain (mode : RunMode) (fuel : ℕ) : Process (Option ℕ) :=
  catching (do returning (← unwinding mode fuel)) fun _ => return some 1

end CnsServer
