/-
Runs of the device runtime that can be computed.

* `StoreAnswer`: how the store answers the task the thread has in hand;
* `RuntimeCue`: who moves next, the service, the thread or a caller with a command;
* `RuntimeCue.input`: that step: the service takes its results in order and its calls
  are answered by the thread, which hands its results over at once;
* `performRuntime`, `reachable_performRuntime`: a list of cues is a run of the machine;
* `sampleRuntime`: the runtime on the sample devices.
-/
import CnsServer.Runtime.DeviceRuntime
import CnsServer.Runtime.DeviceScenario

namespace CnsServer

/-- How the store answers. -/
inductive StoreAnswer where
  | works | breaks | fails

/-- The end of a call of the store. -/
def StoreAnswer.outcome {α : Type} (answer : StoreAnswer) (value : α) : PortOutcome α :=
  match answer with
  | works => .returned (.ok value)
  | breaks => .returned (.error ⟨.unavailable, "连接已断开"⟩)
  | fails => .returned (.error ⟨.permanent, "违反约束"⟩)

/-- The record the store makes of a registration of the first school. -/
def provisionedRecord (registration : Registration) : DeviceRecord :=
  { flightController registration.deviceId registration.dcdwLabel with
    deviceType := registration.deviceType }

/-- The next step of the thread. -/
def WorkerLoop.step (w : WorkerLoop) (answer : StoreAnswer) : WorkerInput :=
  match w.hand with
  | .free => .select false List.head? w.reconnectAt
  | .reconnect => .reconnected (answer.outcome ()) 0
  | .command _ _ => .executed (answer.outcome (.found none)) 0
  | .provision task => .provisioned (answer.outcome (provisionedRecord task.registration)) 0
  | .write _ => .written (answer.outcome ()) 0
  | .result _ => .emitCommand

/-- A running thread can go on, whatever the store answers. -/
lemma WorkerLoop.step_enabled {w : WorkerLoop} (hstopped : w.workerStopped = false)
    (answer : StoreAnswer) :
    (w.step answer).Enabled w ∧ ¬ (w.step answer).IsDeviceCall := by
  rw [WorkerLoop.step]
  cases hhand : w.hand with
  | free =>
      refine ⟨⟨hstopped, hhand, fun keys hkeys => ?_⟩, id⟩
      cases keys with
      | nil => exact absurd rfl hkeys
      | cons key keys => exact ⟨key, List.mem_cons_self, rfl⟩
  | reconnect => exact ⟨⟨hstopped, hhand⟩, id⟩
  | command operationId task => exact ⟨⟨hstopped, operationId, task, hhand⟩, id⟩
  | provision task => exact ⟨⟨hstopped, task, hhand⟩, id⟩
  | write desired => exact ⟨⟨hstopped, desired, hhand⟩, id⟩
  | result answer => exact ⟨⟨hstopped, answer, hhand⟩, id⟩

/-- Who moves next. -/
inductive RuntimeCue where
  | service (cue : Cue)
  | thread (answer : StoreAnswer)
  | command
  | drain

namespace RuntimeCue

/-- The next step of the service. -/
def serviceInput (cfg : DeviceServiceConfig) (r : DeviceRuntime) (cue : Cue) : DeviceInput :=
  match r.service.phase with
  | .results =>
      match r.inbox with
      | answer :: _ => .result answer r.service.recoveredWrites 0
      | [] => .resultsDone
  | .replaying (desired :: _) => .write (r.worker.outcome (.submitWrite desired)) 0
  | .dispatching _ (desired :: _) _ => .write (r.worker.outcome (.submitWrite desired)) 0
  | .provisions (deviceId :: _) =>
      match r.service.pending.lookup deviceId with
      | some candidate =>
          .provision (r.worker.outcome
            (.submitProvision candidate.registration candidate.receivedAt))
      | none => .provision .refused
  | _ => cue.input cfg r.service

/-- The next step. -/
def input (cfg : DeviceServiceConfig) (r : DeviceRuntime) : RuntimeCue → RuntimeInput
  | service cue => .service (serviceInput cfg r cue)
  | thread answer =>
      match r.worker.results with
      | _ :: _ => .deliver
      | [] =>
          if r.worker.workerStopped then .worker .flushAndStop
          else .worker (r.worker.step answer)
  | command => .worker (.submitCommand 1 (.findCommandById "c"))
  | drain => .worker .flushAndStop

variable {cfg : DeviceServiceConfig} {r : DeviceRuntime}

/-- The steps of the service that concern the thread. -/
def Concerns : DeviceInput → Prop
  | .result _ _ _ => True
  | .resultsDone => True
  | .provision _ => True
  | .write _ _ => True
  | _ => False

/-- All other steps may be taken as if the service were alone. -/
lemma enabled_alone {input : DeviceInput} (h : input.Enabled cfg r.service)
    (hquiet : ¬ Concerns input) : (RuntimeInput.service input).Enabled cfg r := by
  refine ⟨h, fun answer hanswer => ?_, fun hdone => ?_, fun call hcall => ?_⟩
  · cases input with
    | result answer writes now => exact absurd trivial hquiet
    | _ => cases hanswer
  · subst hdone
    exact absurd trivial hquiet
  · cases input with
    | provision outcome => exact absurd trivial hquiet
    | write outcome now => exact absurd trivial hquiet
    | _ => cases hcall

/-- A write is answered by the thread. -/
lemma write_enabled {desired : DesiredDeviceWrite}
    (h : (DeviceInput.write (r.worker.outcome (.submitWrite desired)) 0).Enabled cfg r.service)
    (hcall : (DeviceInput.write (r.worker.outcome (.submitWrite desired)) 0).call? r.service =
      some (.submitWrite desired)) :
    (RuntimeInput.service (.write (r.worker.outcome (.submitWrite desired)) 0)).Enabled cfg r := by
  refine ⟨h, fun answer hanswer => ?_, fun hdone => ?_, fun call hother => ?_⟩
  · cases hanswer
  · cases hdone
  · rw [hcall, Option.some_inj] at hother
    rw [← hother]
    rfl

lemma provision_enabled {outcome : SubmitOutcome}
    (h : (DeviceInput.provision outcome).Enabled cfg r.service)
    (hcall : ∀ call, (DeviceInput.provision outcome).call? r.service = some call →
      outcome = r.worker.outcome call) :
    (RuntimeInput.service (.provision outcome)).Enabled cfg r := by
  refine ⟨h, fun answer hanswer => ?_, fun hdone => ?_, fun call hother => ?_⟩
  · cases hanswer
  · cases hdone
  · exact congrArg some (hcall call hother)

/-- A step of the service can be made with the answers of the thread. -/
lemma serviceInput_enabled (cue : Cue) :
    (RuntimeInput.service (serviceInput cfg r cue)).Enabled cfg r := by
  simp only [serviceInput]
  split
  · next hphase =>
      split
      · next answer rest hinbox =>
          refine ⟨⟨hphase, fun _ => .refl _⟩, fun other hother => ?_, fun hdone => ?_,
            fun call hcall => ?_⟩
          · rw [← Option.some.inj hother, hinbox]
            rfl
          · cases hdone
          · cases hcall
      · next hinbox =>
          refine ⟨hphase, fun answer hanswer => ?_, fun _ => hinbox, fun call hcall => ?_⟩
          · cases hanswer
          · cases hcall
  · next desired writes hphase =>
      exact write_enabled ⟨desired, writes, .inl hphase⟩
        (by simp only [DeviceInput.call?, hphase])
  · next batch desired writes accepted hphase =>
      exact write_enabled ⟨desired, writes, .inr ⟨batch, accepted, hphase⟩⟩
        (by simp only [DeviceInput.call?, hphase])
  · next deviceId deviceIds hphase =>
      split
      · next candidate hcandidate =>
          refine provision_enabled ⟨deviceId, deviceIds, hphase⟩ fun call hcall => ?_
          simp only [DeviceInput.call?, hphase, hcandidate, Option.map_some,
            Option.some_inj] at hcall
          rw [hcall]
      · next hnone =>
          refine provision_enabled ⟨deviceId, deviceIds, hphase⟩ fun call hcall => ?_
          simp only [DeviceInput.call?, hphase, hnone, Option.map_none] at hcall
          cases hcall
  · next hresults hreplaying hdispatching hprovisions =>
      refine enabled_alone cue.input_enabled ?_
      simp only [Cue.input]
      split
      · split
        · exact id
        · exact id
      · next hphase => exact absurd hphase hresults
      · exact id
      · next desired writes hphase => exact absurd hphase (hreplaying desired writes)
      · split
        · exact id
        · exact id
      · exact id
      · next deviceId deviceIds hphase => exact absurd hphase (hprovisions deviceId deviceIds)
      · exact id
      · exact id
      · exact id
      · next batch desired writes accepted hphase =>
          exact absurd hphase (hdispatching batch desired writes accepted)
      · exact id

/-- The next step may be taken. -/
lemma input_enabled (cue : RuntimeCue) : (cue.input cfg r).Enabled cfg r := by
  cases cue with
  | service cue => exact serviceInput_enabled cue
  | thread answer =>
      simp only [input]
      split
      · next first rest hresults =>
          intro hnone
          rw [hresults] at hnone
          cases hnone
      · next hresults =>
          split
          · exact ⟨trivial, id, .inl trivial⟩
          · next hstopped =>
              obtain ⟨henabled, hcall⟩ :=
                WorkerLoop.step_enabled (Bool.eq_false_iff.mpr hstopped) answer
              exact ⟨henabled, hcall, .inr hresults⟩
  | command => exact ⟨trivial, id, .inl trivial⟩
  | drain => exact ⟨trivial, id, .inl trivial⟩

end RuntimeCue

/-- The state after a list of cues. -/
def performRuntime (cfg : DeviceServiceConfig) (r : DeviceRuntime) (cues : List RuntimeCue) :
    DeviceRuntime :=
  (deviceRuntime {} cfg).follow (fun r cue => cue.input cfg r) r cues

/-- Each step of the cues meets a condition. -/
abbrev RuntimeMeets (cfg : DeviceServiceConfig) (ok : DeviceRuntime → RuntimeInput → Prop)
    (r : DeviceRuntime) (cues : List RuntimeCue) : Prop :=
  (deviceRuntime {} cfg).Meets (fun r cue => cue.input cfg r) ok r cues

/-- A list of cues whose steps meet a condition is a run of the machine restricted to
it. -/
lemma reachable_performRuntime {cfg : DeviceServiceConfig}
    {ok : DeviceRuntime → RuntimeInput → Prop} {r : DeviceRuntime}
    (h : ((deviceRuntime {} cfg).restrict ok).Reachable r) {cues : List RuntimeCue}
    (hok : RuntimeMeets cfg ok r cues) :
    ((deviceRuntime {} cfg).restrict ok).Reachable (performRuntime cfg r cues) :=
  h.follow (fun _ cue => cue.input_enabled) hok

/-- The runtime on the sample devices. -/
def sampleRuntime : DeviceRuntime :=
  .fresh sampleDeviceConfig [flightController "b" none] 0 (some 0)

lemma reachable_sampleRuntime {ok : DeviceRuntime → RuntimeInput → Prop} :
    ((deviceRuntime {} sampleDeviceConfig).restrict ok).Reachable sampleRuntime :=
  .start ⟨[flightController "b" none], 0, some 0, rfl⟩

end CnsServer
