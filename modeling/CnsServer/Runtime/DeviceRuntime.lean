/-
The device service and the database thread together (`service_environment.cpp`).

* `DeviceRuntime`: the two of them, and the results between them: those the thread has
  come to and not handed over yet, and those in the deque of the service;
* `RuntimeInput`: a step of the thread or a call of somebody else, the hand-over of a
  result, or a step of the service, whose calls the thread answers;
* `deviceRuntime`: the machine; it starts with the devices of the database and with the
  startup writes in the queue;
* `DeviceExchange`: the two projections side by side, and `exchange_next`,
  `exchange_enabled`: **nothing else happens between them**.
-/
import CnsServer.Runtime.DeviceSide
import CnsServer.Runtime.DeviceWork

namespace CnsServer

open DeviceService

/-! ### The machine -/

/-- The service, the thread, and the results that have been handed over. -/
structure DeviceRuntime where
  worker : WorkerLoop
  inbox : List DatabaseResult
  service : DeviceService

/-- What can happen next. -/
inductive RuntimeInput where
  | worker (input : WorkerInput)
  | deliver
  | service (input : DeviceInput)

/-- The calls that only the service makes. -/
def WorkerInput.IsDeviceCall : WorkerInput → Prop
  | .submitProvision _ _ => True
  | .submitWrite _ => True
  | _ => False

/-- The calls that others make; everything else the thread does itself. -/
def WorkerInput.IsCall : WorkerInput → Prop
  | .submitCommand _ _ => True
  | .flushAndStop => True
  | _ => False

/-- The call of a submitter in a step of the service. -/
def DeviceInput.call? (s : DeviceService) : DeviceInput → Option WorkerInput
  | .provision _ =>
      match s.phase with
      | .provisions (deviceId :: _) =>
          (s.pending.lookup deviceId).map fun candidate =>
            .submitProvision candidate.registration candidate.receivedAt
      | _ => none
  | .write _ _ =>
      match s.phase with
      | .replaying (desired :: _) => some (.submitWrite desired)
      | .dispatching _ (desired :: _) _ => some (.submitWrite desired)
      | _ => none
  | _ => none

/-- The answer of the submitter that a step goes on with. -/
def DeviceInput.outcome? : DeviceInput → Option SubmitOutcome
  | .provision outcome => some outcome
  | .write outcome _ => some outcome
  | _ => none

/-- What `SubmitProvision` and `SubmitWrite` answer. -/
def WorkerLoop.outcome (w : WorkerLoop) : WorkerInput → SubmitOutcome
  | .submitProvision registration _ =>
      if !w.accepting || w.unavailable || registration.deviceId ∈ w.provisioning then .refused
      else .accepted
  | .submitWrite _ => if !w.accepting then .refused else .accepted
  | _ => .refused

/-- When an input may arrive: the thread hands a result over before it goes on, the
service takes the results in their order until there are none, and its calls are
answered by the thread. -/
def RuntimeInput.Enabled (cfg : DeviceServiceConfig) (r : DeviceRuntime) : RuntimeInput → Prop
  | .worker input =>
      input.Enabled r.worker ∧ ¬ input.IsDeviceCall ∧ (input.IsCall ∨ r.worker.results = [])
  | .deliver => r.worker.results ≠ []
  | .service input => input.Enabled cfg r.service ∧
      (∀ answer, input.answer? = some answer → r.inbox.head? = some answer) ∧
      (input = .resultsDone → r.inbox = []) ∧
      ∀ call, input.call? r.service = some call → input.outcome? = some (r.worker.outcome call)

/-- The state after an input. -/
def RuntimeInput.apply (wcfg : WorkerConfig) (cfg : DeviceServiceConfig) (r : DeviceRuntime) :
    RuntimeInput → DeviceRuntime
  | .worker input => { r with worker := input.apply wcfg r.worker }
  | .deliver =>
      { r with
        worker := { r.worker with results := r.worker.results.tail }
        inbox := r.inbox ++ r.worker.results.take 1 }
  | .service input =>
      { worker :=
          match input.call? r.service with
          | some call => call.apply wcfg r.worker
          | none => r.worker
        inbox := if input.answer?.isSome then r.inbox.tail else r.inbox
        service := input.apply cfg r.service }

/-- The startup writes: the devices that were silent for too long. -/
def startupWrites (records : List DeviceRecord) (systemNow offlineTimeout : TimePoint) :
    List DesiredDeviceWrite :=
  ((DeviceRegistry.empty.load records).2.expireInactive systemNow offlineTimeout).1.map
    fun mutation => statusWrite mutation.record

/-- The runtime at the start. -/
def DeviceRuntime.fresh (cfg : DeviceServiceConfig) (records : List DeviceRecord)
    (systemNow : TimePoint) (now : Option TimePoint) : DeviceRuntime where
  worker := (startupWrites records systemNow cfg.offlineTimeout).foldl WorkerLoop.submitWrite .fresh
  inbox := []
  service := .fresh (loadDeviceSnapshot records systemNow cfg.offlineTimeout) now

/-- The device service and the database thread. -/
def deviceRuntime (wcfg : WorkerConfig) (cfg : DeviceServiceConfig) :
    Machine DeviceRuntime RuntimeInput where
  init r := ∃ records systemNow now, r = .fresh cfg records systemNow now
  enabled := RuntimeInput.Enabled cfg
  next := RuntimeInput.apply wcfg cfg

/-! ### What they exchange -/

/-- The two projections, and the results between them. -/
structure DeviceExchange where
  side : DeviceSide
  inbox : List DatabaseResult
  work : DeviceWork

/-- What happens between them: something on the side of the thread, the hand-over of a
result, its handling, and what the service does by itself. -/
inductive ExchangeInput where
  | side (input : DeviceSideInput)
  | deliver
  | handle (answer : DatabaseResult) (added : Bool)
  | work (input : DeviceWorkInput)

/-- What an input of the service's work asks the thread for. -/
def DeviceWorkInput.sideInput (v : DeviceWork) : DeviceWorkInput → DeviceSideInput
  | .submitProvision deviceId _ =>
      match v.pending.lookup deviceId with
      | some candidate => .submitProvision candidate.registration candidate.receivedAt
      | none => .skip
  | .submitWrite write _ => .submitWrite write
  | _ => .skip

/-- The thread takes what it is asked for. -/
def DeviceSide.accepts (d : DeviceSide) : DeviceSideInput → Bool
  | .submitProvision registration _ =>
      !(!d.accepting || d.unavailable || registration.deviceId ∈ d.provisioning)
  | .submitWrite _ => d.accepting
  | _ => false

/-- The calls of the service. -/
def DeviceSideInput.IsDeviceCall : DeviceSideInput → Prop
  | .submitProvision _ _ => True
  | .submitWrite _ => True
  | _ => False

/-- The inputs of the work that no result is behind. -/
def DeviceWorkInput.IsOwn : DeviceWorkInput → Prop
  | .lost => False
  | .recovered => False
  | .failed _ => False
  | .provisioned _ _ => False
  | .completed _ _ => False
  | _ => True

/-- The answer of the thread that an input goes on with. -/
def DeviceWorkInput.Answered (e : DeviceExchange) (input : DeviceWorkInput) : Prop :=
  match input with
  | .submitProvision deviceId outcome => (e.work.pending.lookup deviceId).isSome = true →
      (outcome = .accepted ↔ e.side.accepts (input.sideInput e.work) = true)
  | .submitWrite _ outcome => outcome = .accepted ↔ e.side.accepts (input.sideInput e.work) = true
  | _ => True

namespace DeviceExchange

/-- The state after an input. -/
def next (e : DeviceExchange) : ExchangeInput → DeviceExchange
  | .side input => { e with side := e.side.next input }
  | .deliver =>
      { e with
        side := { e.side with results := e.side.results.tail }
        inbox := e.inbox ++ e.side.results.take 1 }
  | .handle answer added =>
      { e with
        inbox := e.inbox.tail
        work := e.work.next (answer.workInput e.work.pending added) }
  | .work input =>
      { e with
        side := e.side.next (input.sideInput e.work)
        work := e.work.next input }

/-- When an input may arrive. -/
def Enabled (e : DeviceExchange) : ExchangeInput → Prop
  | .side input => e.side.Enabled input ∧ ¬ input.IsDeviceCall
  | .deliver => e.side.results ≠ []
  | .handle answer _ => ∃ rest, e.inbox = answer :: rest
  | .work input => input.IsOwn ∧ input.Keyed ∧ input.Answered e

end DeviceExchange

/-- The projections of a runtime. -/
def DeviceRuntime.exchange (r : DeviceRuntime) : DeviceExchange where
  side := r.worker.deviceSide
  inbox := r.inbox
  work := r.service.work

/-- What an input means between the two. -/
def RuntimeInput.exchangeInput (cfg : DeviceServiceConfig) (r : DeviceRuntime) :
    RuntimeInput → ExchangeInput
  | .worker input => .side (input.deviceInput r.worker)
  | .deliver => .deliver
  | .service input =>
      match input.answer? with
      | some answer => .handle answer (r.service.letsIn answer)
      | none => .work (input.workInput cfg r.service)

section

variable {wcfg : WorkerConfig} {cfg : DeviceServiceConfig} {r : DeviceRuntime}

/-- The thread does not make the calls of the service. -/
lemma deviceInput_isDeviceCall {w : WorkerLoop} {input : WorkerInput}
    (h : (input.deviceInput w).IsDeviceCall) : input.IsDeviceCall := by
  cases input with
  | submitProvision registration receivedAt => trivial
  | submitWrite write => trivial
  | submitCommand operationId task => exact h.elim
  | flushAndStop => exact h.elim
  | select stopRequested first now =>
      simp only [WorkerInput.deviceInput, WorkerLoop.selected] at h
      split at h
      · exact h.elim
      split at h
      · exact h.elim
      split at h
      · exact h.elim
      split at h
      · exact h.elim
      split at h
      · exact h.elim
      split at h
      · exact h.elim
      · exact h.elim
  | reconnected outcome now =>
      simp only [WorkerInput.deviceInput, reconnectionInput] at h
      split at h
      · exact h.elim
      split at h
      · exact h.elim
      · exact h.elim
  | executed outcome now =>
      simp only [WorkerInput.deviceInput, commandInput] at h
      split at h
      · exact h.elim
      split at h
      · exact h.elim
      · exact h.elim
  | provisioned outcome now =>
      simp only [WorkerInput.deviceInput] at h
      split at h
      · exact h.elim
      · exact h.elim
  | written outcome now =>
      simp only [WorkerInput.deviceInput] at h
      split at h
      · exact h.elim
      · exact h.elim
  | emitCommand => exact h.elim
  | crash => exact h.elim

/-- The call of a step, seen from both sides. -/
lemma call_sideInput (s : DeviceService) (w : WorkerLoop) {input : DeviceInput}
    (h : input.answer? = none) :
    (match input.call? s with
      | some call => call.apply wcfg w
      | none => w).deviceSide = w.deviceSide.next ((input.workInput cfg s).sideInput s.work) := by
  cases input with
  | result answer writes now => cases h
  | provision outcome =>
      simp only [DeviceInput.call?, DeviceInput.workInput]
      cases s.phase with
      | provisions deviceIds =>
          cases deviceIds with
          | nil => rfl
          | cons deviceId deviceIds =>
              simp only [DeviceWorkInput.sideInput, DeviceService.work]
              cases s.pending.lookup deviceId with
              | none => rfl
              | some candidate => exact deviceSide_next trivial
      | _ => rfl
  | write outcome now =>
      simp only [DeviceInput.call?, DeviceInput.workInput]
      cases s.phase with
      | replaying writes =>
          cases writes with
          | nil => rfl
          | cons desired writes => exact deviceSide_next trivial
      | dispatching batch writes accepted =>
          cases writes with
          | nil => rfl
          | cons desired writes => exact deviceSide_next trivial
      | _ => rfl
  | resultsDone =>
      simp only [DeviceInput.call?, DeviceInput.workInput]
      split
      · rfl
      · rfl
  | message inbound now =>
      simp only [DeviceInput.call?, DeviceInput.workInput, messageInput]
      split
      · split
        · split
          · rfl
          · rfl
        · rfl
      · rfl
  | _ => rfl

/-- **Nothing else happens between them**: the projections follow. -/
theorem exchange_next {input : RuntimeInput} (h : input.Enabled cfg r) :
    (input.apply wcfg cfg r).exchange = r.exchange.next (input.exchangeInput cfg r) := by
  cases input with
  | worker input =>
      exact congrArg (DeviceExchange.mk · r.inbox r.service.work) (deviceSide_next h.1)
  | deliver => rfl
  | service input =>
      simp only [RuntimeInput.apply, RuntimeInput.exchangeInput, DeviceRuntime.exchange, work_next]
      cases hanswer : input.answer? with
      | some answer =>
          cases input with
          | result handled writes now =>
              cases hanswer
              rfl
          | _ => cases hanswer
      | none => rw [call_sideInput r.service r.worker hanswer]; rfl

/-- The answers of the thread, seen from both sides. -/
lemma outcome_accepts (w : WorkerLoop) (registration : Registration) (receivedAt : TimePoint) :
    w.outcome (.submitProvision registration receivedAt) = .accepted ↔
      w.deviceSide.accepts (.submitProvision registration receivedAt) = true := by
  have haccepts : w.deviceSide.accepts (.submitProvision registration receivedAt) =
      !(!w.accepting || w.unavailable || decide (registration.deviceId ∈ w.provisioning)) := rfl
  rw [haccepts, WorkerLoop.outcome]
  cases !w.accepting || w.unavailable || decide (registration.deviceId ∈ w.provisioning) with
  | true => simp
  | false => simp

/-- The calls of the service are answered by the thread that is there. -/
lemma answered_of_enabled {input : DeviceInput} (h : (RuntimeInput.service input).Enabled cfg r) :
    (input.workInput cfg r.service).Answered r.exchange := by
  obtain ⟨-, -, -, hcall⟩ := h
  cases input with
  | provision outcome =>
      simp only [DeviceInput.workInput]
      split
      · next deviceId deviceIds hphase =>
          intro hsome
          obtain ⟨candidate, hcandidate⟩ := Option.isSome_iff_exists.mp hsome
          have hanswer := hcall (.submitProvision candidate.registration candidate.receivedAt)
            (by
              simp only [DeviceInput.call?, hphase]
              rw [show r.service.pending.lookup deviceId = some candidate from hcandidate]
              rfl)
          simp only [DeviceWorkInput.sideInput]
          rw [hcandidate, Option.some.inj hanswer]
          exact outcome_accepts r.worker candidate.registration candidate.receivedAt
      · trivial
  | write outcome now =>
      have hwrite : ∀ desired, (DeviceInput.write outcome now).call? r.service =
          some (.submitWrite desired) →
            (outcome = .accepted ↔ r.worker.accepting = true) := by
        intro desired hdesired
        rw [Option.some.inj (hcall _ hdesired)]
        simp only [WorkerLoop.outcome]
        cases r.worker.accepting with
        | true => simp
        | false => simp
      simp only [DeviceInput.workInput]
      split
      · next desired writes hphase =>
          exact hwrite desired (by simp only [DeviceInput.call?, hphase])
      · next batch desired writes accepted hphase =>
          exact hwrite desired (by simp only [DeviceInput.call?, hphase])
      · trivial
  | result answer writes now =>
      simp only [DeviceInput.workInput, DatabaseResult.workInput]
      split
      · trivial
      · trivial
      · trivial
      · split
        · trivial
        · trivial
      · trivial
  | resultsDone =>
      simp only [DeviceInput.workInput]
      split
      · trivial
      · trivial
  | message inbound now =>
      simp only [DeviceInput.workInput, messageInput]
      split
      · split
        · split
          · trivial
          · trivial
        · trivial
      · trivial
  | _ => trivial

/-- A step without an answer is one of the service alone. -/
lemma isOwn_of_answer {input : DeviceInput} {s : DeviceService} (h : input.answer? = none) :
    (input.workInput cfg s).IsOwn := by
  cases input with
  | result answer writes now => cases h
  | resultsDone =>
      simp only [DeviceInput.workInput]
      split
      · trivial
      · trivial
  | message inbound now =>
      simp only [DeviceInput.workInput, messageInput]
      split
      · split
        · split
          · trivial
          · trivial
        · trivial
      · trivial
  | provision outcome =>
      simp only [DeviceInput.workInput]
      split
      · trivial
      · trivial
  | write outcome now =>
      simp only [DeviceInput.workInput]
      split
      · trivial
      · trivial
      · trivial
  | _ => trivial

/-- A step of the runtime is one of the exchange. -/
lemma exchange_enabled {input : RuntimeInput} (h : input.Enabled cfg r) :
    r.exchange.Enabled (input.exchangeInput cfg r) := by
  cases input with
  | worker input => exact ⟨deviceInput_enabled h.1, fun hcall =>
        h.2.1 (deviceInput_isDeviceCall hcall)⟩
  | deliver => exact h
  | service input =>
      simp only [RuntimeInput.exchangeInput]
      cases hanswer : input.answer? with
      | some answer =>
          obtain ⟨rest, hrest⟩ := List.head?_eq_some_iff.mp (h.2.1 answer hanswer)
          exact ⟨rest, hrest⟩
      | none => exact ⟨isOwn_of_answer hanswer, workInput_keyed input, answered_of_enabled h⟩

/-- The startup writes only fill the queue of writes. -/
lemma foldl_submitWrite_deviceSide (writes : List DesiredDeviceWrite) (w : WorkerLoop) :
    (writes.foldl WorkerLoop.submitWrite w).deviceSide =
      { w.deviceSide with writes := (writes.foldl WorkerLoop.submitWrite w).writes } := by
  induction writes generalizing w with
  | nil => rfl
  | cons write writes ih =>
      rw [List.foldl_cons, ih]
      rw [WorkerLoop.submitWrite]
      split
      · rfl
      · rfl

/-- The exchange at the start: nothing is on its way but the startup writes. -/
lemma fresh_exchange (records : List DeviceRecord) (systemNow : TimePoint)
    (now : Option TimePoint) :
    (DeviceRuntime.fresh cfg records systemNow now).exchange =
      { side := { WorkerLoop.fresh.deviceSide with
          writes := (DeviceRuntime.fresh cfg records systemNow now).worker.writes }
        inbox := []
        work := ⟨∅, ∅, false⟩ } :=
  congrArg (DeviceExchange.mk · [] ⟨∅, ∅, false⟩) (foldl_submitWrite_deviceSide _ _)

/-- **The invariant rule** for what the two exchange. -/
lemma exchange_invariant {ok : DeviceRuntime → RuntimeInput → Prop} {P : DeviceExchange → Prop}
    (hinit : ∀ writes, P
      { side := { WorkerLoop.fresh.deviceSide with writes := writes }
        inbox := []
        work := ⟨∅, ∅, false⟩ })
    (hstep : ∀ r input, P r.exchange → r.exchange.Enabled (input.exchangeInput cfg r) →
      ok r input → P (r.exchange.next (input.exchangeInput cfg r)))
    (h : ((deviceRuntime wcfg cfg).restrict ok).Reachable r) : P r.exchange := by
  refine h.invariant (P := fun r => P r.exchange) (fun r h0 => ?_) fun r input _ hr henabled => ?_
  · obtain ⟨records, systemNow, now, rfl⟩ := h0
    rw [fresh_exchange]
    exact hinit _
  · have hnext := hstep r input hr (exchange_enabled henabled.1) henabled.2
    rw [← @exchange_next wcfg cfg r input henabled.1] at hnext
    exact hnext

/-- A runtime contains a run of the service. -/
lemma service_reachable {ok : DeviceRuntime → RuntimeInput → Prop}
    {ok' : DeviceService → DeviceInput → Prop}
    (hok : ∀ r input, ok r (.service input) → ok' r.service input)
    (h : ((deviceRuntime wcfg cfg).restrict ok).Reachable r) :
    ((deviceService cfg).restrict ok').Reachable r.service := by
  refine Machine.Reachable.invariant
    (P := fun r : DeviceRuntime => ((deviceService cfg).restrict ok').Reachable r.service)
    (fun r h0 => ?_) (fun r input _ hr henabled => ?_) h
  · obtain ⟨records, systemNow, now, rfl⟩ := h0
    exact .start ⟨records, systemNow, now, rfl⟩
  · cases input with
    | worker input => exact hr
    | deliver => exact hr
    | service input =>
        exact .step (m := (deviceService cfg).restrict ok') (i := input) hr
          ⟨henabled.1.1, hok r input henabled.2⟩

end

end CnsServer
