/-
The life of the MQTT client (`mqtt_client.cpp`): how it is started, stopped and destroyed.

Three threads share it: one from outside, within `Start`, `StopNow` or the destructor; the
thread that retries the first connection; and the network thread of libmosquitto, which runs
the callbacks.  A step is one section under `retry_mutex_`, one load or store of an atomic, or
one call of the library, whose answer is an input: zero is success.

* `RetryPoint`, `OwnerPoint`: what the retrying thread and the one from outside do next;
* `ownerStep`, `retryStep`, `callback`: a step of each of the three;
* `getRuntimeStatus`: what the process observes;
* `clientLifecycle`: the machine.
-/
import CnsServer.Mqtt.MqttClient

namespace CnsServer

/-- The configured delays, in seconds, and the texts of the errors of the library and of the
system. -/
structure LifecycleConfig where
  reconnectDelay : ℕ
  reconnectDelayMax : ℕ
  strerror : ℤ → String
  systemError : ℤ → String

/-- `MOSQ_ERR_ERRNO` and `MOSQ_ERR_EAI`: the network is not there yet. -/
def mosqErrErrno : ℤ := 14

def mosqErrEai : ℤ := 15

inductive RetryState where
  | idle | running | failed
  deriving DecidableEq, Repr

inductive RuntimeStatus where
  | disconnectedOrRetrying | connected | terminalFailure
  deriving DecidableEq, Repr

/-- What `RetryConnection` does next. -/
inductive RetryPoint where
  | waiting (delay : ℕ)
  | connecting (delay : ℕ)
  | checking
  | looping
  | storing
  | finishing (error : String)
  | finished
  deriving DecidableEq, Repr

/-- What the thread from outside does next: in `Start`, in `StopNow`, which the destructor
calls too, and in the destructor. -/
inductive OwnerPoint where
  | startRequested
  | startLoading
  | startRetrying
  | startJoining (completedError : String)
  | startResetting
  | startConnecting
  | startMarking
  | startSpawning
  | startGivingUp (error : String)
  | startLooping
  | startStoring
  | stopRequested (destroying : Bool)
  | stopJoining (destroying : Bool)
  | stopClearing (destroying : Bool)
  | stopLoading (destroying : Bool)
  | stopDisconnecting (destroying : Bool)
  | stopLooping (destroying : Bool)
  | stopStoring (destroying : Bool)
  | stopDisconnected (destroying : Bool)
  | stopChecking (destroying : Bool)
  | stopReturning (destroying : Bool)
  | destroying
  | abandonRequested
  | abandonJoining
  deriving DecidableEq, Repr

/-- The thread that the library runs: there is none, it runs, or it has ended and nobody has
joined it. -/
inductive NetworkThread where
  | absent | running | ended
  deriving DecidableEq, Repr

/-- `client_`: held, destroyed, or left to its network thread. -/
inductive ClientPhase where
  | held | destroyed | abandoned
  deriving DecidableEq, Repr

/-- The calls from outside, and how they end. -/
inductive LifeEvent where
  | startBegan
  | startReturned (result : Except String Unit)
  | stopBegan
  | stopReturned (loopStopped : Bool)

/-- `MqttClient`, as far as its threads share it, and what is done from outside, the latest
first. -/
structure ClientLifecycle where
  callbackStopRequested : Bool
  loopStarted : Bool
  connected : Bool
  retryStopRequested : Bool
  retryState : RetryState
  retryError : String
  retryThread : Option RetryPoint
  owner : Option OwnerPoint
  network : NetworkThread
  client : ClientPhase
  log : List LifeEvent

namespace ClientLifecycle

/-- After `Create`. -/
def created : ClientLifecycle where
  callbackStopRequested := false
  loopStarted := false
  connected := false
  retryStopRequested := false
  retryState := .idle
  retryError := ""
  retryThread := none
  owner := none
  network := .absent
  client := .held
  log := []

/-- The two observations of `GetRuntimeStatus`, one after the other. -/
def getRuntimeStatus (s : ClientLifecycle) : RuntimeStatus :=
  if s.retryState = .failed then .terminalFailure
  else if s.connected then .connected
  else .disconnectedOrRetrying

/-- `FinishRetry`. -/
def finishRetry (s : ClientLifecycle) (error : String) : ClientLifecycle :=
  { s with
    retryError := error
    retryState := if error = "" then .idle else .failed }

/-! ### The retrying thread -/

/-- The retrying thread goes on. -/
def retryAt (s : ClientLifecycle) (point : RetryPoint) : ClientLifecycle :=
  { s with retryThread := some point }

/-- One step of `RetryConnection`. -/
def retryStep (cfg : LifecycleConfig) (s : ClientLifecycle) (answer : ℤ) :
    RetryPoint → ClientLifecycle
  | .waiting delay =>
      -- The wait ends with the delay, or when the thread is asked to stop.
      if s.retryStopRequested then s.retryAt (.finishing "") else s.retryAt (.connecting delay)
  | .connecting delay =>
      if answer = mosqErrEai then s.retryAt (.waiting (min (delay * 2) cfg.reconnectDelayMax))
      else if answer ≠ 0 ∧ answer ≠ mosqErrErrno then
        s.retryAt (.finishing (mosquittoError cfg.strerror "重试MQTT异步连接" answer))
      else s.retryAt .checking
  | .checking =>
      if s.retryStopRequested then s.retryAt (.finishing "") else s.retryAt .looping
  | .looping =>
      if answer ≠ 0 then s.retryAt (.finishing (mosquittoError cfg.strerror "启动MQTT网络线程" answer))
      else { s.retryAt .storing with network := .running }
  | .storing => { s.retryAt (.finishing "") with loopStarted := true }
  | .finishing error => (s.finishRetry error).retryAt .finished
  | .finished => s

/-! ### The thread from outside -/

/-- The thread from outside goes on. -/
def ownerAt (s : ClientLifecycle) (point : OwnerPoint) : ClientLifecycle :=
  { s with owner := some point }

/-- `Start` returns. -/
def startReturn (s : ClientLifecycle) (result : Except String Unit) : ClientLifecycle :=
  { s with owner := none, log := .startReturned result :: s.log }

/-- `StopNow` returns, into the destructor if that has called it. -/
def stopReturn (s : ClientLifecycle) (inDestructor : Bool) : ClientLifecycle :=
  { s with
    owner := if inDestructor then some .destroying else none
    log := .stopReturned (!s.loopStarted) :: s.log }

/-- One step of `Start`, `StopNow` or the destructor. -/
def ownerStep (cfg : LifecycleConfig) (s : ClientLifecycle) (answer : ℤ) :
    OwnerPoint → ClientLifecycle
  | .startRequested =>
      if s.callbackStopRequested then
        s.startReturn (.error "MQTT回调已请求停止，请先由外部线程调用Stop")
      else s.ownerAt .startLoading
  | .startLoading => if s.loopStarted then s.startReturn (.ok ()) else s.ownerAt .startRetrying
  | .startRetrying =>
      match s.retryState with
      | .running => s.startReturn (.ok ())
      | .failed =>
          { s.ownerAt (.startJoining s.retryError) with retryError := "", retryState := .idle }
      | .idle => s.ownerAt (.startJoining "")
  | .startJoining completedError =>
      if completedError ≠ "" then
        { s.startReturn (.error completedError) with retryThread := none }
      else { s.ownerAt .startResetting with retryThread := none }
  | .startResetting => { s.ownerAt .startConnecting with retryStopRequested := false }
  | .startConnecting =>
      if answer ≠ 0 ∧ answer ≠ mosqErrErrno ∧ answer ≠ mosqErrEai then
        s.startReturn (.error (mosquittoError cfg.strerror "启动MQTT异步连接" answer))
      else if answer = mosqErrEai then s.ownerAt .startMarking
      else s.ownerAt .startLooping
  | .startMarking =>
      { s.ownerAt .startSpawning with retryState := .running, retryError := "" }
  | .startSpawning =>
      if answer ≠ 0 then
        s.ownerAt (.startGivingUp ("启动MQTT连接重试线程失败：" ++ cfg.systemError answer))
      else
        { s.startReturn (.ok ()) with retryThread := some (.waiting cfg.reconnectDelay) }
  | .startGivingUp error => (s.finishRetry "").startReturn (.error error)
  | .startLooping =>
      if answer ≠ 0 then
        s.startReturn (.error (mosquittoError cfg.strerror "启动MQTT网络线程" answer))
      else { s.ownerAt .startStoring with network := .running }
  | .startStoring => { s.startReturn (.ok ()) with loopStarted := true }
  | .stopRequested inDestructor =>
      { s.ownerAt (.stopJoining inDestructor) with retryStopRequested := true }
  | .stopJoining inDestructor =>
      { s.ownerAt (.stopClearing inDestructor) with retryThread := none }
  | .stopClearing inDestructor =>
      { s.ownerAt (.stopLoading inDestructor) with retryState := .idle, retryError := "" }
  | .stopLoading inDestructor =>
      if s.loopStarted then s.ownerAt (.stopDisconnecting inDestructor)
      else { s.ownerAt (.stopReturning inDestructor) with connected := false }
  | .stopDisconnecting inDestructor => s.ownerAt (.stopLooping inDestructor)
  | .stopLooping inDestructor =>
      if answer ≠ 0 then s.ownerAt (.stopDisconnected inDestructor)
      else { s.ownerAt (.stopStoring inDestructor) with network := .absent }
  | .stopStoring inDestructor =>
      { s.ownerAt (.stopDisconnected inDestructor) with loopStarted := false }
  | .stopDisconnected inDestructor =>
      { s.ownerAt (.stopChecking inDestructor) with connected := false }
  | .stopChecking inDestructor =>
      if s.loopStarted then s.stopReturn inDestructor
      else s.ownerAt (.stopReturning inDestructor)
  | .stopReturning inDestructor =>
      { s.stopReturn inDestructor with callbackStopRequested := false }
  | .destroying =>
      { s with owner := none, client := if s.loopStarted then .abandoned else .destroyed }
  | .abandonRequested => { s.ownerAt .abandonJoining with retryStopRequested := true }
  | .abandonJoining => { s with owner := none, retryThread := none, client := .abandoned }

/-! ### The network thread -/

/-- What a callback does to the client. -/
inductive Callback where
  | connect (result : ℤ)
  | disconnect
  | stop
  deriving DecidableEq, Repr

def callback (s : ClientLifecycle) : Callback → ClientLifecycle
  | .connect result => { s with connected := decide (result = 0) }
  | .disconnect => { s with connected := false }
  | .stop => { s with callbackStopRequested := true }

/-! ### The machine -/

inductive Input where
  | start
  | stop (inDestructor : Bool)
  | abandon
  | owner (answer : ℤ)
  | retry (answer : ℤ)
  | callback (event : Callback)
  | networkEnds
  deriving DecidableEq, Repr

/-- The retrying thread has something left to do. -/
def Retrying (s : ClientLifecycle) : Prop :=
  ∃ point ∈ s.retryThread, point ≠ .finished

instance (s : ClientLifecycle) : Decidable s.Retrying :=
  inferInstanceAs (Decidable (∃ point ∈ s.retryThread, point ≠ .finished))

/-- A callback destroys the client. -/
def Abandoning (s : ClientLifecycle) : Prop :=
  s.owner = some .abandonRequested ∨ s.owner = some .abandonJoining

instance (s : ClientLifecycle) : Decidable s.Abandoning :=
  inferInstanceAs (Decidable (_ ∨ _))

/-- A thread is joined when it has ended, the library has one network thread, and stops the
one that it has. -/
def OwnerEnabled (s : ClientLifecycle) (answer : ℤ) : OwnerPoint → Prop
  | .startJoining _ | .stopJoining _ | .abandonJoining => ¬s.Retrying
  | .startLooping => answer = 0 → s.network = .absent
  | .stopLooping _ => answer = 0 → s.network ≠ .absent
  | _ => True

instance (s : ClientLifecycle) (answer : ℤ) : ∀ point, Decidable (s.OwnerEnabled answer point)
  | .startJoining _ | .stopJoining _ | .abandonJoining => inferInstanceAs (Decidable (¬_))
  | .startLooping | .stopLooping _ => inferInstanceAs (Decidable (_ → _))
  | .startRequested | .startLoading | .startRetrying | .startResetting | .startConnecting
  | .startMarking | .startSpawning | .startGivingUp _ | .startStoring | .stopRequested _
  | .stopClearing _ | .stopLoading _ | .stopDisconnecting _ | .stopStoring _
  | .stopDisconnected _ | .stopChecking _ | .stopReturning _ | .destroying
  | .abandonRequested => .isTrue trivial

def RetryEnabled (s : ClientLifecycle) (answer : ℤ) : RetryPoint → Prop
  | .looping => answer = 0 → s.network = .absent
  | .finished => False
  | _ => True

instance (s : ClientLifecycle) (answer : ℤ) : ∀ point, Decidable (s.RetryEnabled answer point)
  | .looping => inferInstanceAs (Decidable (_ → _))
  | .finished => .isFalse id
  | .waiting _ | .connecting _ | .checking | .storing | .finishing _ => .isTrue trivial

/-- Calls from outside come one after the other, and not after the destructor. -/
def Enabled (s : ClientLifecycle) : Input → Prop
  | .start | .stop _ => s.owner = none ∧ s.client = .held
  | .abandon => s.owner = none ∧ s.client = .held ∧ s.network = .running
  | .owner answer => ∃ point ∈ s.owner, s.OwnerEnabled answer point
  | .retry answer => ∃ point ∈ s.retryThread, s.RetryEnabled answer point
  | .callback _ | .networkEnds => s.network = .running ∧ ¬s.Abandoning

instance (s : ClientLifecycle) : ∀ input, Decidable (s.Enabled input)
  | .start | .stop _ | .callback _ | .networkEnds => inferInstanceAs (Decidable (_ ∧ _))
  | .abandon => inferInstanceAs (Decidable (_ ∧ _ ∧ _))
  | .owner answer => inferInstanceAs (Decidable (∃ point ∈ s.owner, s.OwnerEnabled answer point))
  | .retry answer =>
      inferInstanceAs (Decidable (∃ point ∈ s.retryThread, s.RetryEnabled answer point))

def next (cfg : LifecycleConfig) (s : ClientLifecycle) : Input → ClientLifecycle
  | .start => { s.ownerAt .startRequested with log := .startBegan :: s.log }
  | .stop inDestructor =>
      { s.ownerAt (.stopRequested inDestructor) with log := .stopBegan :: s.log }
  | .abandon => s.ownerAt .abandonRequested
  | .owner answer =>
      match s.owner with
      | some point => s.ownerStep cfg answer point
      | none => s
  | .retry answer =>
      match s.retryThread with
      | some point => s.retryStep cfg answer point
      | none => s
  | .callback event => s.callback event
  | .networkEnds => { s with network := .ended }

end ClientLifecycle

/-- The client from its creation on. -/
def clientLifecycle (cfg : LifecycleConfig) : Machine ClientLifecycle ClientLifecycle.Input where
  init s := s = .created
  enabled := ClientLifecycle.Enabled
  next := ClientLifecycle.next cfg

instance (cfg : LifecycleConfig) (s : ClientLifecycle) (input : ClientLifecycle.Input) :
    Decidable ((clientLifecycle cfg).enabled s input) :=
  inferInstanceAs (Decidable (s.Enabled input))

end CnsServer
