/-
The devices as command sources: the tables that a provision writes, and the
catalogue that the command path reads (`service_environment.cpp`).

* `SourceSystem`: the device service with its tables, `command_sources` and the
  catalogue `command_sources_`, with what the tables were at the last start;
* `SourceSystem.start`: `LoadCommandState`, which fills the catalogue;
* `sourceSystem`: the machine; a provision writes its source with its device;
* `SourceCue`, `performSources`: runs that can be computed, in which the store answers
  what its tables do.
-/
import CnsServer.Runtime.DeviceSystem
import CnsServer.Runtime.RuntimeScenario
import CnsServer.Store.CommandSources

namespace CnsServer

open DeviceService

/-! ### The machine -/

/-- The device service, the table of the sources and the catalogue, with the tables as
they were when the service started. -/
structure SourceSystem where
  devices : DeviceSystem
  sources : SourceTable
  catalog : SourceCatalog
  startTables : DeviceTables
  startSources : SourceTable

/-- What can happen next: a step of the runtime, or a start with other fixed sources. -/
inductive SourceInput where
  | runtime (input : RuntimeInput) (committed : Bool)
  | restart (configured : List FixedSource) (systemNow : TimePoint) (now : Option TimePoint)

/-- The table of the sources after the transaction of the task in hand. -/
def WorkerLoop.sourceTransaction (w : WorkerLoop) (t : SourceTable) : Option SourceTable :=
  match w.hand with
  | .provision task => t.insertDevice task.registration.deviceId
  | _ => some t

/-- `LoadCommandState`, on the table that has been synchronised. -/
def SourceSystem.start (devices : DeviceSystem) (synced : SourceTable) : SourceSystem where
  devices := devices
  sources := synced
  catalog :=
    match SourceCatalog.load synced.load with
    | .ok catalog => catalog
    | .error _ => ⟨∅⟩
  startTables := devices.tables
  startSources := synced

namespace SourceInput

/-- What becomes of the devices. -/
def system : SourceInput → SystemInput
  | .runtime input committed => .runtime input committed
  | .restart _ systemNow now => .restart systemNow now

/-- When an input may arrive: a provision is committed with its source, and the service
starts only with sources that it synchronises. -/
def Enabled (cfg : DeviceServiceConfig) (s : SourceSystem) (input : SourceInput) : Prop :=
  input.system.Enabled cfg s.devices ∧
    match input with
    | .runtime _ committed => committed = true →
        (s.devices.runtime.worker.sourceTransaction s.sources).isSome = true
    | .restart configured _ _ => ∃ synced, s.sources.sync configured = .ok synced

/-- The state after an input. -/
def apply (wcfg : WorkerConfig) (cfg : DeviceServiceConfig) (s : SourceSystem)
    (input : SourceInput) : SourceSystem :=
  match input with
  | .runtime _ committed =>
      { s with
        devices := input.system.apply wcfg cfg s.devices
        sources :=
          if committed then
            (s.devices.runtime.worker.sourceTransaction s.sources).getD s.sources
          else s.sources }
  | .restart configured _ _ =>
      match s.sources.sync configured with
      | .ok synced => .start (input.system.apply wcfg cfg s.devices) synced
      | .error _ => s

end SourceInput

/-- The service from its first start on. -/
def sourceSystem (wcfg : WorkerConfig) (cfg : DeviceServiceConfig) :
    Machine SourceSystem SourceInput where
  init s := ∃ configured systemNow now synced, SourceTable.empty.sync configured = .ok synced ∧
    s = .start ⟨.fresh cfg [] systemNow now, .empty⟩ synced
  enabled := SourceInput.Enabled cfg
  next := SourceInput.apply wcfg cfg

section

variable {wcfg : WorkerConfig} {cfg : DeviceServiceConfig} {s : SourceSystem}

/-- The devices of the machine are a run of their own. -/
lemma devices_of_reachable (h : (sourceSystem wcfg cfg).Reachable s) :
    (deviceSystem wcfg cfg).Reachable s.devices := by
  refine h.invariant (P := fun s => (deviceSystem wcfg cfg).Reachable s.devices)
    (fun s h0 => ?_) fun s input _ hs henabled => ?_
  · obtain ⟨configured, systemNow, now, synced, -, rfl⟩ := h0
    exact .start ⟨systemNow, now, rfl⟩
  · have hstep : (deviceSystem wcfg cfg).Reachable (input.system.apply wcfg cfg s.devices) :=
      .step (m := deviceSystem wcfg cfg) (i := input.system) hs henabled.1
    cases input with
    | runtime input committed => exact hstep
    | restart configured systemNow now =>
        obtain ⟨synced, hsynced⟩ := henabled.2
        simp only [sourceSystem, SourceInput.apply, hsynced]
        exact hstep

/-- The catalogue finds what the table had at the start. -/
lemma start_find (devices : DeviceSystem) (synced : SourceTable) (sourceId : String) :
    (SourceSystem.start devices synced).catalog.find sourceId = synced.rows.lookup sourceId := by
  obtain ⟨catalog, hcatalog, hfind⟩ := synced.load_find
  rw [SourceSystem.start, hcatalog]
  exact hfind sourceId

end

/-! ### Runs that can be computed -/

instance (time : TimePoint) : Decidable (InClockRange time) :=
  inferInstanceAs (Decidable (_ ∧ _))

/-- Who moves next: the service, the thread, whose store answers what its tables do, or
another start. -/
inductive SourceCue where
  | service (cue : Cue)
  | thread
  | restart

/-- The end of the task in hand, as the tables have it, and whether it is committed. -/
def SourceSystem.storeEnds (s : SourceSystem) (w : WorkerLoop) : WorkerInput × Bool :=
  match w.hand with
  | .provision task =>
      match s.devices.tables.provisionDevice task.registration task.receivedAt,
          w.sourceTransaction s.sources with
      | .ok (record, _), some _ => (.provisioned (.returned (.ok record)) 0, true)
      | _, _ => (.provisioned (.returned (.error ⟨.permanent, "违反约束"⟩)) 0, false)
  | .write desired =>
      match s.devices.tables.writeDeviceState desired with
      | .ok _ => (.written (.returned (.ok ())) 0, true)
      | .error message => (.written (.returned (.error ⟨.permanent, message⟩)) 0, false)
  | _ => (w.step .works, false)

/-- The service starts again with what it has stored. -/
def SourceSystem.restarts (s : SourceSystem) : Bool :=
  (match s.devices.tables.loadDevices with
    | .ok records => (DeviceRegistry.empty.load records).1.isOk
    | .error _ => false) &&
  (s.sources.sync []).isOk

namespace SourceCue

/-- The next step. -/
def input (cfg : DeviceServiceConfig) (s : SourceSystem) : SourceCue → SourceInput
  | service cue =>
      match RuntimeCue.serviceInput cfg s.devices.runtime cue with
      | .message inbound now =>
          if InClockRange inbound.receivedAt then .runtime (.service (.message inbound now)) false
          else .runtime (.worker .flushAndStop) false
      | input => .runtime (.service input) false
  | thread =>
      match s.devices.runtime.worker.results with
      | _ :: _ => .runtime .deliver false
      | [] =>
          if s.devices.runtime.worker.workerStopped then .runtime (.worker .flushAndStop) false
          else .runtime (.worker (s.storeEnds s.devices.runtime.worker).1)
            (s.storeEnds s.devices.runtime.worker).2
  | restart => if s.restarts then .restart [] 0 (some 0) else .runtime (.worker .flushAndStop) false

variable {cfg : DeviceServiceConfig} {s : SourceSystem}

/-- A step that commits nothing needs no source. -/
lemma uncommitted_enabled {input : RuntimeInput} (h : input.Enabled cfg s.devices.runtime)
    (hstored : input.Stored s.devices.runtime s.devices.tables false) :
    (SourceInput.runtime input false).Enabled cfg s :=
  ⟨⟨h, hstored⟩, fun hcommitted => by cases hcommitted⟩

lemma flushAndStop_enabled : (SourceInput.runtime (.worker .flushAndStop) false).Enabled cfg s :=
  uncommitted_enabled ⟨trivial, id, .inl trivial⟩ rfl

/-- The end of a task that the tables have is the end of its call. -/
lemma storeEnds_enabled (hstopped : s.devices.runtime.worker.workerStopped = false)
    (hresults : s.devices.runtime.worker.results = []) :
    (SourceInput.runtime (.worker (s.storeEnds s.devices.runtime.worker).1)
      (s.storeEnds s.devices.runtime.worker).2).Enabled cfg s := by
  rw [SourceSystem.storeEnds]
  split
  · next task hhand =>
      split
      · next record tables synced hprovision hsource =>
          refine ⟨⟨⟨⟨hstopped, task, hhand⟩, id, .inr hresults⟩, fun other hother => ?_⟩,
            fun _ => by rw [hsource]; rfl⟩
          rw [hhand, Hand.provision.injEq] at hother
          subst hother
          exact ⟨rfl, by rw [hprovision]; rfl⟩
      · refine uncommitted_enabled ⟨⟨hstopped, task, hhand⟩, id, .inr hresults⟩ ?_
        exact fun other _ hcommitted => by cases hcommitted
  · next desired hhand =>
      split
      · next tables hwritten =>
          refine ⟨⟨⟨⟨hstopped, desired, hhand⟩, id, .inr hresults⟩, fun other hother => ?_⟩,
            fun _ => by rw [WorkerLoop.sourceTransaction, hhand]; rfl⟩
          rw [hhand, Hand.write.injEq] at hother
          subst hother
          exact ⟨rfl, by rw [hwritten]; rfl⟩
      · refine uncommitted_enabled ⟨⟨hstopped, desired, hhand⟩, id, .inr hresults⟩ ?_
        exact fun other _ hcommitted => by cases hcommitted
  · next hprovision hwrite =>
      obtain ⟨henabled, hcall⟩ := WorkerLoop.step_enabled hstopped .works
      refine uncommitted_enabled ⟨henabled, hcall, .inr hresults⟩ ?_
      rw [WorkerLoop.step]
      split
      · rfl
      · rfl
      · rfl
      · next task hhand => exact absurd hhand (hprovision task)
      · next desired hhand => exact absurd hhand (hwrite desired)
      · rfl

/-- The next step may be taken. -/
lemma input_enabled (cue : SourceCue) : (cue.input cfg s).Enabled cfg s := by
  cases cue with
  | service cue =>
      have henabled := @RuntimeCue.serviceInput_enabled cfg s.devices.runtime cue
      simp only [input]
      split
      · next inbound now hmessage =>
          rw [hmessage] at henabled
          split
          · next hrange => exact uncommitted_enabled henabled ⟨hrange, rfl⟩
          · exact flushAndStop_enabled
      · next hother =>
          refine uncommitted_enabled henabled ?_
          cases hinput : RuntimeCue.serviceInput cfg s.devices.runtime cue with
          | message inbound now => exact absurd hinput (hother inbound now)
          | _ => rfl
  | thread =>
      simp only [input]
      split
      · next first rest hresults =>
          refine uncommitted_enabled (fun hnone => ?_) rfl
          rw [hresults] at hnone
          cases hnone
      · next hresults =>
          split
          · exact flushAndStop_enabled
          · next hstopped => exact storeEnds_enabled (Bool.eq_false_iff.mpr hstopped) hresults
  | restart =>
      simp only [input]
      split
      · next hrestarts =>
          rw [SourceSystem.restarts, Bool.and_eq_true] at hrestarts
          obtain ⟨hloads, hsyncs⟩ := hrestarts
          refine ⟨?_, ?_⟩
          · split at hloads
            · next records hrecords =>
                refine ⟨records, hrecords, ?_⟩
                cases hloaded : (DeviceRegistry.empty.load records).1 with
                | ok value => rfl
                | error message =>
                    rw [hloaded] at hloads
                    cases hloads
            · cases hloads
          · cases hsynced : s.sources.sync [] with
            | ok synced => exact ⟨synced, hsynced⟩
            | error message =>
                rw [hsynced] at hsyncs
                cases hsyncs
      · exact flushAndStop_enabled

end SourceCue

/-- The state after a list of cues. -/
def performSources (cfg : DeviceServiceConfig) (s : SourceSystem) (cues : List SourceCue) :
    SourceSystem :=
  (sourceSystem {} cfg).follow (fun s cue => cue.input cfg s) s cues

/-- A list of cues is a run of the machine. -/
lemma reachable_performSources {cfg : DeviceServiceConfig} {s : SourceSystem}
    (h : (sourceSystem {} cfg).Reachable s) (cues : List SourceCue) :
    (sourceSystem {} cfg).Reachable (performSources cfg s cues) := by
  induction cues generalizing s with
  | nil => exact h
  | cons cue cues ih =>
      exact ih (.step (m := sourceSystem {} cfg) (i := cue.input cfg s) h cue.input_enabled)

end CnsServer
