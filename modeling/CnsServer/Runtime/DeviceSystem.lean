/-
The device service, its database thread and the tables of the devices.

* `DeviceSystem`: the runtime and the tables, over any number of starts of the service;
* `PortOutcome.Ends`, `transaction`: a call of the store and its transaction: a result is
  committed, and a broken connection leaves it open whether the transaction is;
* `deviceSystem`: the machine; it starts with the tables of the migrations, and a restart
  loads what they hold;
* `service_of_reachable`: each start of the service is a run of it.
-/
import CnsServer.Runtime.DeviceRuntime
import CnsServer.Store.DeviceTables

namespace CnsServer

open DeviceService

/-! ### The machine -/

/-- The service with its database. -/
structure DeviceSystem where
  runtime : DeviceRuntime
  tables : DeviceTables

/-- What can happen next: a step of the runtime, where `committed` says whether the
transaction of the task in hand is, or a restart of the service. -/
inductive SystemInput where
  | runtime (input : RuntimeInput) (committed : Bool)
  | restart (systemNow : TimePoint) (now : Option TimePoint)

/-- The tables after the transaction of the task in hand. -/
def WorkerLoop.transaction (w : WorkerLoop) (t : DeviceTables) : DeviceTables :=
  match w.hand with
  | .provision task =>
      match t.provisionDevice task.registration task.receivedAt with
      | .ok (_, t') => t'
      | .error _ => t
  | .write desired =>
      match t.writeDeviceState desired with
      | .ok t' => t'
      | .error _ => t
  | _ => t

/-- How a call of the store ends: a result is the one of the transaction and committed, a
broken connection may have come before or after the commit, and any other error before. -/
def PortOutcome.Ends {α : Type} (outcome : PortOutcome α) (committed : Bool)
    (result : Except String α) : Prop :=
  match outcome with
  | .returned (.ok value) => committed = true ∧ result = .ok value
  | .returned (.error error) => committed = true →
      error.kind = .unavailable ∧ result.isOk = true
  | .threw _ => committed = false

/-- A step of the thread, and what becomes of the transaction. -/
def WorkerInput.Stored (w : WorkerLoop) (t : DeviceTables) (committed : Bool) : WorkerInput → Prop
  | .provisioned outcome _ => ∀ task, w.hand = .provision task →
      outcome.Ends committed
        ((t.provisionDevice task.registration task.receivedAt).map Prod.fst)
  | .written outcome _ => ∀ desired, w.hand = .write desired →
      outcome.Ends committed ((t.writeDeviceState desired).map fun _ => ())
  | _ => committed = false

/-- A step of the runtime, and what becomes of the transaction; the instants of the
messages are those of the system clock. -/
def RuntimeInput.Stored (r : DeviceRuntime) (t : DeviceTables) (committed : Bool) :
    RuntimeInput → Prop
  | .worker input => input.Stored r.worker t committed
  | .service (.message inbound _) => InClockRange inbound.receivedAt ∧ committed = false
  | _ => committed = false

/-- When an input may arrive: the service starts again only with tables that it loads. -/
def SystemInput.Enabled (cfg : DeviceServiceConfig) (s : DeviceSystem) : SystemInput → Prop
  | .runtime input committed =>
      input.Enabled cfg s.runtime ∧ input.Stored s.runtime s.tables committed
  | .restart _ _ => ∃ records, s.tables.loadDevices = .ok records ∧
      (DeviceRegistry.empty.load records).1 = .ok ()

/-- The state after an input. -/
def SystemInput.apply (wcfg : WorkerConfig) (cfg : DeviceServiceConfig) (s : DeviceSystem) :
    SystemInput → DeviceSystem
  | .runtime input committed =>
      { runtime := input.apply wcfg cfg s.runtime
        tables := if committed then s.runtime.worker.transaction s.tables else s.tables }
  | .restart systemNow now =>
      match s.tables.loadDevices with
      | .ok records => { s with runtime := .fresh cfg records systemNow now }
      | .error _ => s

/-- The service from its first start on. -/
def deviceSystem (wcfg : WorkerConfig) (cfg : DeviceServiceConfig) :
    Machine DeviceSystem SystemInput where
  init s := ∃ systemNow now, s = ⟨.fresh cfg [] systemNow now, .empty⟩
  enabled := SystemInput.Enabled cfg
  next := SystemInput.apply wcfg cfg

namespace DeviceSystem

/-- The directory of the service. -/
abbrev registry (s : DeviceSystem) : DeviceRegistry := s.runtime.service.registry

/-- The results that the service has not handled. -/
def answers (s : DeviceSystem) : List DatabaseResult := s.runtime.inbox ++ s.runtime.worker.results

/-- The device side of the thread. -/
def side (s : DeviceSystem) : DeviceSide := s.runtime.worker.deviceSide

end DeviceSystem

/-! ### Its steps -/

section

variable {wcfg : WorkerConfig} {cfg : DeviceServiceConfig} {s : DeviceSystem}

/-- The steps of the service and the hand-over of a result commit nothing. -/
lemma uncommitted_of_service {input : DeviceInput} {committed : Bool}
    (h : (SystemInput.runtime (.service input) committed).Enabled cfg s) : committed = false := by
  cases input with
  | message inbound now => exact h.2.2
  | _ => exact h.2

/-- A transaction is committed only by the end of its call. -/
lemma committed_cases {input : RuntimeInput} {committed : Bool}
    (h : (SystemInput.runtime input committed).Enabled cfg s) :
    committed = false ∨
      (∃ task outcome now, input = .worker (.provisioned outcome now) ∧
        s.runtime.worker.hand = .provision task ∧ outcome.Ends committed
          ((s.tables.provisionDevice task.registration task.receivedAt).map Prod.fst)) ∨
      ∃ desired outcome now, input = .worker (.written outcome now) ∧
        s.runtime.worker.hand = .write desired ∧ outcome.Ends committed
          ((s.tables.writeDeviceState desired).map fun _ => ()) := by
  cases input with
  | worker input =>
      obtain ⟨⟨henabled, -⟩, hstored⟩ := h
      cases input with
      | provisioned outcome now =>
          obtain ⟨-, task, hhand⟩ := henabled
          exact .inr (.inl ⟨task, outcome, now, rfl, hhand, hstored task hhand⟩)
      | written outcome now =>
          obtain ⟨-, desired, hhand⟩ := henabled
          exact .inr (.inr ⟨desired, outcome, now, rfl, hhand, hstored desired hhand⟩)
      | _ => exact .inl hstored
  | deliver => exact .inl h.2
  | service input => exact .inl (uncommitted_of_service h)

lemma map_ok {α β : Type} {f : α → β} {result : Except String α} {value : β}
    (h : result.map f = .ok value) : ∃ source, result = .ok source ∧ f source = value := by
  cases result with
  | error message => cases h
  | ok source => exact ⟨source, rfl, Except.ok.inj h⟩

/-- A committed transaction has a result. -/
lemma PortOutcome.Ends.ok {α : Type} {outcome : PortOutcome α} {result : Except String α}
    (h : outcome.Ends true result) : ∃ value, result = .ok value := by
  cases outcome with
  | returned answer =>
      cases answer with
      | ok value => exact ⟨value, h.2⟩
      | error error =>
          obtain ⟨-, hok⟩ := h rfl
          cases result with
          | ok value => exact ⟨value, rfl⟩
          | error message => cases hok
  | threw standard => cases h

lemma transaction_provision {task : ProvisionTask} {t t' : DeviceTables} {w : WorkerLoop}
    {record : DeviceRecord} (hhand : w.hand = .provision task)
    (h : t.provisionDevice task.registration task.receivedAt = .ok (record, t')) :
    w.transaction t = t' := by
  simp only [WorkerLoop.transaction, hhand, h]

lemma transaction_write {desired : DesiredDeviceWrite} {t t' : DeviceTables} {w : WorkerLoop}
    (hhand : w.hand = .write desired) (h : t.writeDeviceState desired = .ok t') :
    w.transaction t = t' := by
  simp only [WorkerLoop.transaction, hhand, h]

/-- Each start of the service is a run of the service. -/
lemma service_of_reachable (h : (deviceSystem wcfg cfg).Reachable s) :
    (deviceService cfg).Reachable s.runtime.service := by
  refine h.invariant (P := fun s => (deviceService cfg).Reachable s.runtime.service)
    (fun s h0 => ?_) fun s input _ hs henabled => ?_
  · obtain ⟨systemNow, now, rfl⟩ := h0
    exact .start ⟨[], systemNow, now, rfl⟩
  · cases input with
    | runtime input committed =>
        cases input with
        | worker input => exact hs
        | deliver => exact hs
        | service input =>
            exact .step (m := deviceService cfg) (i := input) hs henabled.1.1
    | restart systemNow now =>
        obtain ⟨records, hrecords, -⟩ := henabled
        simp only [deviceSystem, SystemInput.apply, hrecords]
        exact .start ⟨records, systemNow, now, rfl⟩

end

end CnsServer
