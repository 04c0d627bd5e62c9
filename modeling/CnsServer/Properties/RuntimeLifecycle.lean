/-
The life of the runtime, within a process.

* `transaction_ends`, `startDeviceRuntime_ends`: **the start**: both threads run, or nothing
  is left of it;
* `drainDeviceRuntime_ends`, `stopDeviceRuntime_ends`: **the end**, which always comes, with
  no thread left to join;
* `startMqtt_ends`, `stopMqtt_ends`: the MQTT client, within the life of the runtime;
* `watch_ends`, `runNormal_ends`: **the service**, from the start to its end.
-/
import CnsServer.Invariants.ServiceLifecycle

namespace CnsServer

open Interruptible Process

set_option mvcgen.warning false

namespace ServiceEnvironment

variable {table : MigrationState} {begun : Prop} {s : ServiceEnvironment}

/-! ### The threads -/

/-- A predicate that changes of the threads keep. -/
def Threadwise (P : ServiceEnvironment → Prop) : Prop :=
  ∀ s f, (∀ cut b, RuntimeThreads.Fine cut b → RuntimeThreads.Fine cut (f b)) → P s →
    P (s.modifyBundle f)

lemma threadwise_held : Threadwise (Held table begun) := fun _ f hf h =>
  ⟨h.1.modifyBundle fun b _ => hf _ b, h.2.modifyBundle f⟩

lemma threadwise_draining : Threadwise (Draining table begun) := fun _ _ hf h =>
  ⟨h.sound.modifyBundle fun b _ => hf _ b, h.closed, Option.isSome_map.trans h.bundle⟩

lemma joinThread_ends {P Q : ServiceEnvironment → Prop} (hP : Untimed P)
    {join : RuntimeThreads → RuntimeThreads} (hjoin : ∀ s, P s → Q (s.modifyBundle join)) :
    Ends .thrown P (joinThread join) (fun _ => Q) P :=
  (observe_ends hP).bind fun _ => Ends.modify hjoin

lemma joinThreads_ends {P : ServiceEnvironment → Prop} (hP : Untimed P) (hthreads : Threadwise P) :
    Ends .thrown P joinThreads (fun _ s => P s ∧ ∀ b ∈ s.runtimeBundle, b.joinable = false) P := by
  have hdatabase : Ends .thrown P
      (joinThread fun b => { b with databaseThread := b.databaseThread.join })
      (fun _ s => P s ∧ ∀ b ∈ s.runtimeBundle, b.databaseThread.joinable = false) P := by
    refine joinThread_ends hP fun s h => ⟨hthreads s _ (fun _ _ hb => ⟨hb.1.join, hb.2⟩) h, ?_⟩
    intro b hb
    obtain ⟨b, -, rfl⟩ := Option.map_eq_some_iff.mp hb
    exact SelfOwnedRuntimeThread.join_joinable
  refine hdatabase.bind fun _ =>
    (joinThread_ends (fun s n h => ⟨hP s n h.1, h.2⟩) ?_).mono_raised fun _ => And.left
  rintro s ⟨h, hidle⟩
  refine ⟨hthreads s _ (fun _ _ hb => ⟨hb.1, hb.2.join⟩) h, fun b hb => ?_⟩
  obtain ⟨old, hold, rfl⟩ := Option.map_eq_some_iff.mp hb
  exact Bool.or_eq_false_iff.mpr ⟨hidle old hold, SelfOwnedRuntimeThread.join_joinable⟩

lemma resetBundle_ends {P Q E : ServiceEnvironment → Prop}
    (hidle : ∀ s, P s → ∀ b ∈ s.runtimeBundle, b.joinable = false)
    (hnone : ∀ s, P s → s.runtimeBundle = none → Q s)
    (hsome : ∀ s b, P s → s.runtimeBundle = some b → Q (s.release b)) :
    Ends .thrown P resetBundle (fun _ => Q) E := by
  mvcgen [resetBundle]
  · next s h hbundle => exact hnone s h hbundle
  · next s h b hbundle hjoinable =>
    rw [hidle s h b hbundle] at hjoinable
    cases hjoinable
  · next s h b hbundle _ => exact hsome s b h hbundle

/-! ### The start -/

/-- The bundle can be let go of, and the runtime marked as stopped. -/
lemma Held.released (h : s.Held table begun) (hidle : ∀ b ∈ s.runtimeBundle, b.joinable = false) :
    (s.runtimeBundle = none → s.markStopped.Over table begun) ∧
      ∀ b, s.runtimeBundle = some b → (s.release b).markStopped.Over table begun :=
  ⟨fun hnone => ⟨h.1.markStopped, rfl, hnone⟩,
    fun b hb => ⟨h.1.markStopped.release hb (hidle b hb) rfl, rfl, rfl⟩⟩

lemma rollback_ends : Ends .thrown (Held table begun) rollback (fun _ => Held table begun)
    (Held table begun) := by
  have hstop : Ends Abort.thrown (Held table begun) (modify (ServiceEnvironment.modifyBundle
      RuntimeThreads.requestStop)) (fun _ => Held table begun) (Held table begun) :=
    Ends.modify fun s => threadwise_held s _ fun _ _ hb => ⟨hb.1.requestStop, hb.2.requestStop⟩
  have hdisable : Ends Abort.thrown
      (fun s => s.Held table begun ∧ ∀ b ∈ s.runtimeBundle, b.joinable = false)
      (modify disableBridge)
      (fun _ s => s.Held table begun ∧ ∀ b ∈ s.runtimeBundle, b.joinable = false)
      (Held table begun) :=
    Ends.modify fun s h => ⟨⟨h.1.1.disableBridge, h.1.2⟩, h.2⟩
  have hreset : Ends .thrown
      (fun s => s.Held table begun ∧ ∀ b ∈ s.runtimeBundle, b.joinable = false)
      resetBundle (fun _ s => s.markStopped.Over table begun) (Held table begun) :=
    resetBundle_ends (fun s h => h.2) (fun s h => (h.1.released h.2).1)
      fun s b h => (h.1.released h.2).2 b
  exact hstop.bind fun _ => (joinThreads_ends untimed_held threadwise_held).bind fun _ =>
    hdisable.bind fun _ => hreset.bind fun _ => Ends.modify fun _ => Over.held

/-- A step of the transaction. -/
lemma orRollback_ends {P Q R : ServiceEnvironment → Prop} {step rest : Process (Except String Unit)}
    (hstep : Ends .thrown P step (Succeeding Q (Held table begun)) (Held table begun))
    (hrest : Ends .thrown Q rest (Succeeding R (Held table begun)) (Held table begun)) :
    Ends .thrown P (startOperations.orRollback step rest) (Succeeding R (Held table begun))
      (Held table begun) := by
  have hrollback : Ends .thrown (Held table begun) startOperations.rollbackQuietly
      (fun _ => Held table begun) (Held table begun) :=
    catching_ends rollback_ends fun _ => Ends.pure fun _ => id
  mvcgen [DeviceRuntimeStartOperations.orRollback, hstep, hrest, hrollback]

lemma startThread_ends {P Q : ServiceEnvironment → Prop} (hP : Untimed P)
    {thread : RuntimeThreads → SelfOwnedRuntimeThread} {start : RuntimeThreads → RuntimeThreads}
    (hstart : ∀ s, P s → Q (s.modifyBundle start)) :
    Ends .thrown P (startThread thread start) (fun _ => Q) P := by
  have hobserve := observe_ends hP
  mvcgen [startThread, hobserve]
  · next s h _ => exact ⟨⟨.exception, rfl⟩, h⟩
  · next s h _ => exact hstart s h

/-- The bundle is there, and its threads are in these phases. -/
structure Building (table : MigrationState) (database business : ThreadPhase)
    (s : ServiceEnvironment) : Prop where
  held : s.Held table False
  released : s.released = []
  phases : ∀ b ∈ s.runtimeBundle,
    b.databaseThread.phase = database ∧ b.businessThread.phase = business
  bundle : s.runtimeBundle.isSome = true
  quiet : s.shutdownRequested = false

lemma untimed_building {database business : ThreadPhase} :
    Untimed (Building table database business) :=
  fun _ n h => ⟨untimed_held _ n h.1, h.2, h.3, h.4, h.5⟩

lemma startDatabaseThread_ends : Ends .thrown (Building table .idle .idle) startDatabaseThread
    (Succeeding (Building table .running .idle) (Held table False)) (Held table False) := by
  have hstart : Ends .thrown (Building table .idle .idle)
      (startThread RuntimeThreads.databaseThread fun b =>
        { b with databaseThread := b.databaseThread.start })
      (fun _ => Building table .running .idle) (Building table .idle .idle) := by
    refine startThread_ends untimed_building fun s h => ⟨?_, h.released, ?_, ?_, h.quiet⟩
    · exact threadwise_held s _ (fun _ b hb => ⟨.start b.databaseThread, hb.2⟩) h.held
    · intro b hb
      obtain ⟨old, hold, rfl⟩ := Option.map_eq_some_iff.mp hb
      exact ⟨rfl, (h.phases old hold).2⟩
    · exact Option.isSome_map.trans h.bundle
  exact (hstart.mono_raised fun _ => Building.held).bind fun _ =>
    Ends.pure fun _ => id

lemma startBusinessThread_ends : Ends .thrown (Building table .running .idle) startBusinessThread
    (Succeeding (Building table .running .running) (Held table False)) (Held table False) := by
  have hstart : Ends .thrown (Building table .running .idle)
      (startThread RuntimeThreads.businessThread fun b =>
        { b with businessThread := b.businessThread.start })
      (fun _ => Building table .running .running) (Building table .running .idle) := by
    refine startThread_ends untimed_building fun s h => ⟨?_, h.released, ?_, ?_, h.quiet⟩
    · exact threadwise_held s _ (fun _ b hb => ⟨hb.1, .start b.businessThread⟩) h.held
    · intro b hb
      obtain ⟨old, hold, rfl⟩ := Option.map_eq_some_iff.mp hb
      exact ⟨(h.phases old hold).1, rfl⟩
    · exact Option.isSome_map.trans h.bundle
  have hsubmit := (observe_ends (@untimed_building table .running .running)).mono_raised
    fun _ => Building.held
  exact (hstart.mono_raised fun _ => Building.held).bind fun _ =>
    hsubmit.bind fun _ => Ends.pure fun _ => id

/-- **The transaction** starts both threads, or rolls back. -/
lemma transaction_ends : Ends .thrown (Building table .idle .idle)
    (startDeviceRuntimeTransaction startOperations)
    (Succeeding (Building table .running .running) (Held table False)) (fun _ => False) := by
  have hrollback : Ends .thrown (Held table False) startOperations.rollbackQuietly
      (fun _ => Held table False) (fun _ => False) :=
    catching_ends rollback_ends fun _ => Ends.pure fun _ => id
  have hsteps : Ends .thrown (Building table .idle .idle)
      (startOperations.orRollback startOperations.configureHandler <|
        startOperations.orRollback startOperations.startPostgresThread <|
        startOperations.orRollback startOperations.startDeviceThread <| return .ok ())
      (Succeeding (Building table .running .running) (Held table False)) (Held table False) :=
    orRollback_ends (Ends.pure fun _ => id) <| orRollback_ends startDatabaseThread_ends <|
      orRollback_ends startBusinessThread_ends <| Ends.pure fun _ => id
  refine catching_ends hsteps fun what => hrollback.bind fun _ => ?_
  cases what <;> exact Ends.pure fun _ => id

/-- The migrations are checked, and the database is connected. -/
structure Checked (table : MigrationState) (s : ServiceEnvironment) : Prop where
  early : s.Early table
  config : s.config = true
  logger : s.logger = true
  rows : table.rows = s.available

lemma untimed_checked : Untimed (Checked table) :=
  fun _ n h => ⟨untimed_early _ n h.1, h.2, h.3, h.4⟩

/-- The database has not been handed on to the runtime. -/
structure Ready (table : MigrationState) (s : ServiceEnvironment) : Prop where
  checked : s.Checked table
  store : s.store = true

lemma untimed_ready : Untimed (Ready table) := fun s n h => ⟨untimed_checked s n h.1, h.2⟩

/-- The bundle of a process that has started nothing yet. -/
lemma Checked.build (h : s.Checked table) (hbridge : s.externalBridge.isSome = true) :
    { s with
      runtimeBundle := some {}
      deviceRuntimeStopped := false
      acceptingDeviceMessages := true
      log := .runtimeStarted :: s.log }.Building table .idle .idle where
  held := by
    refine ⟨{ h.early.sound with
      checked := fun _ => ⟨h.rows, h.logger⟩
      present := fun _ => ⟨h.config, h.logger, hbridge⟩
      accepting := fun _ => rfl
      bundle := fun b hb => ?_
      live := iff_of_true trivial rfl
      client := fun hsome => absurd hsome (by rw [h.early.mqtt]; decide)
      orderly := ?_
      started := False.elim }, fun _ => rfl⟩
    · cases hb
      exact ⟨fun hphase => (by cases hphase), fun hphase => (by cases hphase)⟩
    · refine ⟨?_, h.early.sound.orderly⟩
      rw [h.early.log]
      exact List.not_mem_nil
  released := h.early.released
  phases b hb := by
    cases hb
    exact ⟨rfl, rfl⟩
  bundle := rfl
  quiet := h.early.quiet

/-- Where it throws, nothing has been started. -/
lemma buildRuntime_ends : Ends .thrown (Ready table) buildRuntime
    (Succeeding (Building table .running .running) (Held table False)) (Early table) := by
  have hobserve : Ends .thrown (Ready table) observe (fun _ => Ready table) (Early table) :=
    (observe_ends untimed_ready).mono_raised fun _ h => h.checked.early
  have hbridge : Ends Abort.thrown (Ready table)
      (modify fun s => { s with externalBridge := some { logger := s.logger } })
      (fun _ s => s.Ready table ∧ s.externalBridge.isSome = true) (Early table) :=
    Ends.modify fun s h =>
      ⟨⟨{ h.checked with early := { h.checked.early with } }, h.store⟩, rfl⟩
  have hneed : Ends .thrown (fun s => s.Ready table ∧ s.externalBridge.isSome = true)
      (need fun s => s.config && s.store)
      (fun _ s => s.Ready table ∧ s.externalBridge.isSome = true) (Early table) :=
    need_ends fun s h => Bool.and_eq_true_iff.mpr ⟨h.1.checked.config, h.1.store⟩
  have hmove : Ends Abort.thrown (fun s => s.Ready table ∧ s.externalBridge.isSome = true)
      (modify fun s => { s with store := false })
      (fun _ s => s.Checked table ∧ s.externalBridge.isSome = true) (Early table) :=
    Ends.modify fun s h =>
      ⟨{ h.1.checked with early := { h.1.checked.early with } }, h.2⟩
  have hinitialize : Ends .thrown (fun s => s.Checked table ∧ s.externalBridge.isSome = true)
      observe (fun _ s => s.Checked table ∧ s.externalBridge.isSome = true) (Early table) :=
    (observe_ends fun s n h => ⟨untimed_checked s n h.1, h.2⟩).mono_raised fun _ h => h.1.early
  exact hobserve.bind fun _ => hbridge.bind fun _ => hneed.bind fun _ => hmove.bind fun _ =>
    hinitialize.bind fun _ => (Ends.modify fun _ h => h.1.build h.2).bind fun _ =>
      transaction_ends.never

/-- Nothing is left of a start that has thrown. -/
lemma abandonStart_ends : Ends .thrown (Early table) abandonStart (fun _ => Held table False)
    (fun _ => False) := by
  have hbundle : Ends .thrown (Early table) abandonBundle (fun _ => Early table)
      (fun _ => False) := by
    mvcgen [abandonBundle]
    next s h b hb _ =>
      rw [h.bundle] at hb
      cases hb
  refine hbundle.bind fun _ => Ends.modify fun s h => ⟨h.sound.disableBridge.markStopped, ?_⟩
  intro hsome
  rw [show s.disableBridge.markStopped.runtimeBundle = none from h.bundle] at hsome
  cases hsome

/-- **The start** of the runtime: both threads run, or an error is returned. -/
lemma startDeviceRuntime_ends : Ends .thrown (Ready table) startDeviceRuntime
    (Succeeding (Building table .running .running) (Held table False)) (fun _ => False) := by
  refine catching_ends buildRuntime_ends fun what => abandonStart_ends.bind fun _ => ?_
  cases what <;> exact Ends.pure fun _ => id

/-! ### The end -/

/-- The runtime is there to be stopped, and takes nothing in. -/
structure Closing (table : MigrationState) (begun : Prop) (s : ServiceEnvironment) : Prop where
  held : s.Held table begun
  closed : s.acceptingDeviceMessages = false

lemma untimed_closing : Untimed (Closing table begun) :=
  fun _ n h => ⟨untimed_held _ n h.1, h.2⟩

lemma threadwise_closing : Threadwise (Closing table begun) :=
  fun s f hf h => ⟨threadwise_held s f hf h.1, h.2⟩

lemma clearHandler_ends : Ends .thrown (Closing table begun) clearHandler
    (fun _ => Closing table begun) (Closing table begun) := by
  have hobserve := observe_ends (@untimed_closing table begun)
  have hexpected : Ends .thrown (Closing table begun)
      (expected fun _ s => { s with handlerConfigured := false })
      (Succeeding (Closing table begun) (Closing table begun)) (Closing table begun) :=
    expected_ends untimed_closing (fun _ s h => ⟨⟨{ h.held.1 with }, h.held.2⟩, h.closed⟩)
      fun _ => id
  mvcgen [clearHandler, need, hexpected, hobserve]
  next s h client hclient hconfig =>
    rw [(h.held.1.client (by rw [hclient]; rfl)).1] at hconfig
    cases hconfig

lemma closeDoors_ends : Ends .thrown (Closing table begun) closeDoors (fun _ => Closing table begun)
    (Closing table begun) := by
  have hobserve := observe_ends (@untimed_closing table begun)
  have hdisable : Ends Abort.thrown (Closing table begun) (modify (ServiceEnvironment.modifyBundle
      RuntimeThreads.disable)) (fun _ => Closing table begun) (Closing table begun) :=
    Ends.modify fun s => threadwise_closing s _ fun _ _ => id
  have hclose : Ends Abort.thrown (Closing table begun) (modify (ServiceEnvironment.modifyBundle
      RuntimeThreads.close)) (fun _ => Closing table begun) (Closing table begun) :=
    Ends.modify fun s => threadwise_closing s _ fun _ _ => id
  exact hobserve.bind fun _ => hdisable.bind fun _ => clearHandler_ends.bind fun _ =>
    hobserve.bind fun _ => hclose

lemma stopAcceptingDeviceMessages_ends : Ends .thrown (Held table begun) stopAcceptingDeviceMessages
    (fun _ => Closing table begun) (Held table begun) := by
  have hclose := (@closeDoors_ends table begun).mono_raised fun _ => Closing.held
  mvcgen [stopAcceptingDeviceMessages, hclose]
  · next s h hopen => exact ⟨h, hopen⟩
  · next s h hopen => exact ⟨⟨h.1.closed, h.2⟩, rfl⟩

/-- The threads are asked to stop, and let run on, where the bridge is cut. -/
lemma Draining.detach (h : s.Draining table begun) :
    ((s.disableBridge.modifyBundle RuntimeThreads.requestStop).modifyBundle
        RuntimeThreads.detach).Draining table begun ∧
      ∀ b ∈ ((s.disableBridge.modifyBundle RuntimeThreads.requestStop).modifyBundle
        RuntimeThreads.detach).runtimeBundle, b.joinable = false := by
  have hstopped := threadwise_draining s.disableBridge RuntimeThreads.requestStop
    (fun _ _ hb => ⟨hb.1.requestStop, hb.2.requestStop⟩)
    ⟨h.sound.disableBridge, h.closed, h.bundle⟩
  refine ⟨⟨hstopped.sound.modifyBundle fun b hb hfine => ?_, hstopped.closed,
    Option.isSome_map.trans hstopped.bundle⟩, fun b hb => ?_⟩
  · obtain ⟨old, -, rfl⟩ := Option.map_eq_some_iff.mp hb
    exact ⟨hfine.1.detach rfl bridgeCut_disable, hfine.2.detach rfl bridgeCut_disable⟩
  · obtain ⟨old, -, rfl⟩ := Option.map_eq_some_iff.mp hb
    exact Bool.or_eq_false_iff.mpr ⟨SelfOwnedRuntimeThread.detach_joinable,
      SelfOwnedRuntimeThread.detach_joinable⟩

/-- No thread is left to join. -/
structure Parked (table : MigrationState) (begun : Prop) (s : ServiceEnvironment) : Prop where
  draining : s.Draining table begun
  idle : ∀ b ∈ s.runtimeBundle, b.joinable = false

lemma conclude_ends (drained : Bool) : Ends .thrown (Draining table begun)
    (drainOperations.conclude drained) (fun _ => Parked table begun) (Draining table begun) := by
  cases drained with
  | true =>
      refine (joinThreads_ends untimed_draining threadwise_draining).bind fun _ =>
        (Ends.modify fun s h => ?_).bind fun _ => Ends.pure fun _ => id
      exact (⟨⟨h.1.sound.disableBridge, h.1.closed, h.1.bundle⟩, h.2⟩ :
        s.disableBridge.Parked table begun)
  | false =>
      have hobserve := observe_ends (@untimed_draining table begun)
      have hlogger : Ends .thrown (Draining table begun) (need ServiceEnvironment.logger)
          (fun _ => Draining table begun) (Draining table begun) :=
        need_ends fun s h => (h.sound.present h.bundle).2.1
      mvcgen [DeviceRuntimeDrainOperations.conclude, drainOperations, pendingDevices, hobserve,
        hlogger]
      next h _ _ _ => exact ⟨h.detach.1, h.detach.2⟩

/-- **The drain** always ends, with no thread left to join. -/
lemma drainDeviceRuntime_ends : Ends .thrown (Draining table begun)
    (drainDeviceRuntime drainOperations) (fun _ => Parked table begun) (fun _ => False) := by
  have hask := ask_ends (@untimed_draining table begun)
  have hdrained : Ends .thrown (Draining table begun) drainOperations.drained
      (fun _ => Draining table begun) (Draining table begun) := by
    mvcgen [DeviceRuntimeDrainOperations.drained, drainOperations, hask]
  refine catching_ends (hdrained.bind conclude_ends) fun _ => ?_
  mvcgen [drainOperations, catching]
  next h _ _ _ => exact ⟨h.detach.1, h.detach.2⟩

lemma stopDeviceRuntime_ends : Ends .thrown (Closing table begun) stopDeviceRuntime
    (fun _ => Over table begun) (fun _ => False) := by
  have hdrain := @drainDeviceRuntime_ends table begun
  have hreset : Ends .thrown (Parked table begun) resetBundle (fun _ => Over table begun)
      (fun _ => False) :=
    resetBundle_ends (fun s => Parked.idle) (fun s h hnone => by
        have hbundle := h.draining.bundle
        rw [hnone] at hbundle
        cases hbundle)
      fun s b h hb => ⟨h.draining.sound.release hb (h.idle b hb) h.draining.closed,
        h.draining.closed, rfl⟩
  mvcgen [stopDeviceRuntime, hdrain, hreset]
  · next s h hstopped =>
    refine ⟨h.held.1, h.closed, Option.not_isSome_iff_eq_none.mp fun hsome => ?_⟩
    rw [h.held.2 hsome] at hstopped
    cases hstopped
  · next s h _ hnone =>
    exact ⟨{ h.held.1 with }, h.closed, hnone⟩
  · next s h _ b hb =>
    exact ⟨{ h.held.1 with }, h.closed, by rw [hb]; rfl⟩

/-! ### MQTT -/

/-- A client is there, and not started. -/
lemma Building.create (h : s.Building table .running .running) :
    { s with mqtt := some .created }.Building table .running .running where
  held := by
    have hclient := And.intro (h.held.1.present h.bundle).1 (h.held.1.log_ne h.bundle)
    exact ⟨{ h.held.1 with client := fun _ => hclient }, h.held.2⟩
  released := h.released
  phases := h.phases
  bundle := h.bundle
  quiet := h.quiet

/-- The threads run, and there is a client. -/
structure Connected (table : MigrationState) (s : ServiceEnvironment) : Prop where
  building : s.Building table .running .running
  mqtt : s.mqtt.isSome = true

lemma untimed_connected : Untimed (Connected table) := fun s n h => ⟨untimed_building s n h.1, h.2⟩

lemma createMqtt_ends : Ends .thrown (Building table .running .running) createMqtt
    (Succeeding (Connected table) (Held table False)) (Held table False) := by
  have hneed : Ends .thrown (Building table .running .running) (need fun s => s.config && s.logger)
      (fun _ => Building table .running .running) (Held table False) :=
    need_ends fun s h => Bool.and_eq_true_iff.mpr
      ⟨(h.held.1.present h.bundle).1, (h.held.1.present h.bundle).2.1⟩
  exact hneed.bind fun _ => expected_ends untimed_building (fun _ s h => ⟨h.create, rfl⟩)
    fun _ => Building.held

/-- The bridge leads to the client: no thread has been let run on yet. -/
lemma Building.connect (h : s.Building table .running .running) :
    s.connectBridge.Building table .running .running where
  held := by
    refine ⟨{ h.held.1 with
      present := fun hsome => ⟨(h.held.1.present hsome).1, (h.held.1.present hsome).2.1,
        Option.isSome_map.trans (h.held.1.present hsome).2.2⟩
      bundle := fun b hb => ?_
      released := fun b hb => ?_ }, h.held.2⟩
    · obtain ⟨hdatabase, hbusiness⟩ := h.phases b hb
      constructor
      · intro hphase
        rw [hdatabase] at hphase
        cases hphase
      · intro hphase
        rw [hbusiness] at hphase
        cases hphase
    · rw [show s.connectBridge.released = [] from h.released] at hb
      cases hb
  released := h.released
  phases := h.phases
  bundle := h.bundle
  quiet := h.quiet

/-- The service runs. -/
structure Serving (table : MigrationState) (s : ServiceEnvironment) : Prop where
  held : s.Held table True
  bundle : s.runtimeBundle.isSome = true
  mqtt : s.mqtt.isSome = true

/-- The service runs, and has not been asked to stop. -/
structure Watching (table : MigrationState) (s : ServiceEnvironment) : Prop where
  serving : s.Serving table
  quiet : s.shutdownRequested = false

lemma untimed_watching : Untimed (Watching table) :=
  fun s n h => ⟨⟨untimed_held s n h.1.1, h.1.2, h.1.3⟩, h.2⟩

lemma untimed_serving : Untimed (Serving table) := fun s n h => ⟨untimed_held s n h.1, h.2, h.3⟩

lemma Connected.configured (h : s.Connected table) :
    { s with handlerConfigured := true }.Connected table where
  building :=
    { h.building with held := ⟨{ h.building.held.1 with }, h.building.held.2⟩ }
  mqtt := h.mqtt

lemma Connected.start (h : s.Connected table) :
    { s with mqtt := some .started, log := .mqttStarted :: s.log }.Watching table := by
  refine ⟨⟨?_, h.building.bundle, rfl⟩, h.building.quiet⟩
  exact
    ⟨{ h.building.held.1 with
      checked := fun _ => h.building.held.1.checked (h.building.held.1.log_ne h.building.bundle)
      client := fun _ => ⟨(h.building.held.1.client h.mqtt).1, List.cons_ne_nil _ _⟩
      live := h.building.held.1.live
      orderly := ⟨h.building.held.1.live.mpr h.building.bundle, h.building.held.1.orderly⟩
      started := fun _ => List.mem_cons_self }, h.building.held.2⟩

lemma startMqtt_ends : Ends .thrown (Connected table) startMqtt
    (Succeeding (Watching table) (Held table False)) (Held table False) := by
  have hkept {effect : Outcome → ServiceEnvironment → ServiceEnvironment}
      {Q : ServiceEnvironment → Prop}
      (heffect : ∀ outcome s, s.Connected table → Q (effect outcome s)) :
      Ends .thrown (Connected table) (expected effect) (Succeeding Q (Held table False))
        (Held table False) :=
    expected_ends untimed_connected heffect fun _ h => h.building.held
  have hconfigure : Ends .thrown (Connected table) configureMqtt
      (Succeeding (Watching table) (Held table False)) (Held table False) :=
    andThen_ends (hkept fun _ _ => Connected.configured) <| andThen_ends (hkept fun _ _ => id) <|
      andThen_ends (hkept fun _ _ => id) <| andThen_ends (hkept fun _ _ => id) <|
      hkept fun _ _ => Connected.start
  mvcgen [startMqtt, need, hconfigure]
  · next s h _ => exact h.building.held
  · next s h b hb _ _ => exact ⟨h.building.connect, h.mqtt⟩
  · next s h b hb habsent =>
    have hpresent := h.building.held.1.present h.building.bundle
    rw [hpresent.2.2, h.mqtt, hpresent.1] at habsent
    cases habsent

/-! ### The end of the service -/

/-- The client has been stopped, if there was one. -/
structure Ended (table : MigrationState) (begun : Prop) (s : ServiceEnvironment) : Prop where
  gone : s.Over table begun
  mqtt : ∀ phase ∈ s.mqtt, phase = .stopped

lemma untimed_ended : Untimed (Ended table begun) := fun s n h => ⟨untimed_over s n h.1, h.2⟩

lemma Ended.logger (h : s.Ended table True) : s.logger = true :=
  (h.gone.sound.checked (List.ne_nil_of_mem (h.gone.sound.started trivial))).2

lemma Over.stop (h : s.Over table begun) (hsome : s.mqtt.isSome = true) :
    { s with mqtt := some .stopped, log := .mqttStopped :: s.log }.Ended table begun where
  gone :=
    ⟨{ h.sound with
      checked := fun _ => h.sound.checked (h.sound.client hsome).2
      client := fun _ => ⟨(h.sound.client hsome).1, List.cons_ne_nil _ _⟩
      live := h.sound.live
      orderly := ⟨fun hlive => (by
        have hbundle := h.sound.live.mp hlive
        rw [h.bundle] at hbundle
        cases hbundle), h.sound.orderly⟩
      started := fun hbegun => List.mem_cons_of_mem _ (h.sound.started hbegun) }, h.closed,
      h.bundle⟩
  mqtt phase hphase := (Option.some.inj hphase).symm

lemma stopMqtt_ends : Ends .thrown (Over table begun) stopMqtt (fun _ => Ended table begun)
    (Over table begun) := by
  have hobserve := (observe_ends (fun s n (h : s.Over table begun ∧ s.mqtt.isSome = true) =>
    ⟨untimed_over s n h.1, h.2⟩)).mono_raised fun _ => And.left
  mvcgen [stopMqtt, hobserve]
  · next s h hnone =>
    refine ⟨h, fun phase hphase => ?_⟩
    rw [hnone] at hphase
    cases hphase
  · next s h phase hsome => exact ⟨h, by rw [hsome]; rfl⟩
  · next s h _ => exact h.1.stop h.2

section

variable {P F : ServiceEnvironment → Prop}

lemma stopRuntime_ends : Ends .thrown (Held table begun) operations.stopRuntime
    (fun _ => Over table begun) (Held table begun) :=
  stopAcceptingDeviceMessages_ends.bind fun _ =>
    stopDeviceRuntime_ends.never.bind fun _ => Ends.pure fun _ => id

lemma stopAll_ends : Ends .thrown (Held table begun) operations.stopAll (fun _ => Ended table begun)
    (Held table begun) :=
  stopRuntime_ends.bind fun _ => stopMqtt_ends.mono_raised fun _ => Over.held

lemma error_ends (hP : Untimed P) (message : String) :
    Ends .thrown P (operations.error message) (fun _ => P) P :=
  (observe_ends hP).bind fun _ => Ends.pure fun _ => id

lemma info_ends (hP : Untimed P) (hlogger : ∀ s, P s → s.logger = true) (message : String) :
    Ends .thrown P (operations.info message) (fun _ => P) P :=
  (need_ends hlogger).bind fun _ => (observe_ends hP).bind fun _ => Ends.pure fun _ => id

lemma askMqtt_ends : Ends .thrown (Serving table) askMqtt (fun _ => Serving table)
    (Serving table) :=
  (need_ends fun _ => Serving.mqtt).bind fun _ => ask_ends untimed_serving

lemma Serving.request (h : s.Serving table) (requested : Bool) :
    { s with shutdownRequested := requested }.Serving table :=
  ⟨⟨{ h.held.1 with }, h.held.2⟩, h.bundle, h.mqtt⟩

/-- A service that goes on has not been asked to stop. -/
lemma askShutdown_ends : Ends .thrown (Serving table) askShutdown
    (fun requested s => s.Serving table ∧ (requested = false → s.shutdownRequested = false))
    (Serving table) := by
  have hobserve := observe_ends (@untimed_serving table)
  mvcgen [askShutdown, hobserve]
  next h _ => exact ⟨h.request _, id⟩

lemma stopping_ends (mqttFailure : Bool) : Ends .thrown (Serving table)
    (operations.stopping mqttFailure)
    (fun stop s => s.Serving table ∧ (stop = false → s.shutdownRequested = false))
    (Serving table) := by
  refine askMqtt_ends.bind fun callbackStop => ?_
  cases mqttFailure with
  | true =>
      exact (error_ends untimed_serving _).bind fun _ => Ends.pure fun s h => ⟨h, fun hstop => by
        cases hstop⟩
  | false =>
      cases callbackStop with
      | true => exact Ends.pure fun s h => ⟨h, fun hstop => by cases hstop⟩
      | false => exact askShutdown_ends

/-- What `RunService` leaves with a code, or without one while the service runs. -/
structure Left (table : MigrationState) (code : Option ℕ) (s : ServiceEnvironment) : Prop where
  held : s.Held table (code = some 0)
  exitCode : ∀ n ∈ code, n = 0 ∨ n = 1
  quiet : code = none → s.shutdownRequested = false

lemma Held.mono {begun' : Prop} (h : s.Held table begun) (hbegun : begun' → begun) :
    s.Held table begun' :=
  ⟨h.1.mono fun hb => h.1.started (hbegun hb), h.2⟩

lemma Watching.left (h : s.Watching table) : s.Left table none :=
  ⟨h.serving.held.mono fun _ => trivial, fun n hn => (by cases hn), fun _ => h.quiet⟩

lemma Ended.left (h : s.Ended table True) {n : ℕ} (hn : n = 0 ∨ n = 1) : s.Left table (some n) :=
  ⟨h.gone.held.mono fun _ => trivial, fun _ hm => Option.some.inj hm ▸ hn, fun hnone => by
    cases hnone⟩

lemma Held.failed (h : s.Held table begun) : s.Left table (some 1) :=
  ⟨h.mono fun hone => (by cases hone), fun n hn => .inr (Option.some.inj hn).symm, fun hnone => by
    cases hnone⟩

lemma watch_ends (fuel : ℕ) : Ends .thrown (Watching table) (operations.watch fuel) (Left table)
    (Held table False) := by
  have hserving {s : ServiceEnvironment} (h : s.Serving table) : s.Held table False :=
    h.held.mono False.elim
  induction fuel with
  | zero => exact Ends.pure fun _ => Watching.left
  | succ fuel ih =>
      refine (askMqtt_ends.mono (fun _ => Watching.serving) (fun _ _ => id) fun _ => hserving).bind
        fun mqttFailure =>
          ((stopping_ends mqttFailure).mono_raised fun _ => hserving).bind fun stop => ?_
      cases stop with
      | true =>
          have hall := (@stopAll_ends table True).mono
            (fun s (h : s.Serving table ∧ (true = false → s.shutdownRequested = false)) => h.1.held)
            (fun _ _ => id) fun _ h => h.mono False.elim
          refine hall.bind fun _ => ?_
          cases mqttFailure with
          | true => exact Ends.pure fun _ h => h.left (.inr rfl)
          | false =>
              have hinfo : Ends .thrown (Ended table True) (operations.info "路由服务已停止")
                  (fun _ => Ended table True) (Held table False) :=
                (info_ends untimed_ended (fun s h => h.logger) _).mono_raised
                  fun _ h => h.gone.held.mono False.elim
              exact hinfo.bind fun _ => Ends.pure fun _ h => h.left (.inl rfl)
      | false =>
          have hwait : Ends .thrown (Watching table) operations.waitForNextCheck
              (fun _ => Watching table) (Held table False) :=
            ((observe_ends untimed_watching).mono_raised fun _ h => hserving h.serving).bind
              fun _ => Ends.pure fun _ => id
          exact (hwait.bind fun _ => ih).mono (fun s h => ⟨h.1, h.2 rfl⟩) (fun _ _ => id)
            fun _ => id

lemma expected_ready : Ends .thrown (Ready table) (expected fun _ s => s)
    (Succeeding (Ready table) (Held table False)) (Held table False) :=
  expected_ends untimed_ready (fun _ _ => id) fun _ h => h.checked.early.held

/-- A step before the runtime, which leaves the state as it is. -/
lemma readyStep_ends : Ends .thrown (Ready table)
    (do
      need fun s => s.store && s.config
      expected fun _ s => s)
    (Succeeding (Ready table) (Held table False)) (Held table False) :=
  (need_ends fun _ h => Bool.and_eq_true_iff.mpr ⟨h.store, h.checked.config⟩).bind fun _ =>
    expected_ready

lemma installSignalHandlers_ends : Ends .thrown (Ready table) installSignalHandlers
    (Succeeding (Ready table) (Held table False)) (Held table False) := by
  refine (Ends.modify fun s h => ?_).bind fun _ => expected_ready
  exact ⟨{ h.checked with early := { h.checked.early with quiet := rfl } }, h.store⟩

/-- **The service**, once the migrations are checked. -/
lemma runNormal_ends (fuel : ℕ) : Ends .thrown (Ready table)
    (operations.runNormal fuel) (Left table) (Held table False) := by
  have herror := error_ends (@untimed_held table False)
  have hnothing : Ends Abort.thrown (Held table False) (return ()) (fun _ => Held table False)
      (Held table False) := Ends.pure fun _ => id
  have hstart : Ends .thrown (Ready table) operations.startDeviceRuntime
      (Succeeding (Building table .running .running) (Held table False)) (Held table False) :=
    startDeviceRuntime_ends.never
  have hinfo (message : String) : Ends .thrown (Watching table) (operations.info message)
      (fun _ => Watching table) (Held table False) :=
    (info_ends untimed_watching
      (fun s h => (h.serving.held.1.present h.serving.bundle).2.1) message).mono_raised
      fun _ h => h.serving.held.mono False.elim
  exact orReturn_ends readyStep_ends herror hnothing
    (orReturn_ends readyStep_ends herror hnothing
      (orReturn_ends installSignalHandlers_ends herror hnothing
        (orReturn_ends hstart herror stopRuntime_ends
          (orReturn_ends createMqtt_ends herror stopRuntime_ends
            (orReturn_ends startMqtt_ends herror stopAll_ends
              ((hinfo _).bind fun _ => watch_ends fuel)
              fun _ h => h.gone.held.failed)
            fun _ h => h.held.failed)
          fun _ h => h.held.failed)
        fun _ => Held.failed)
      fun _ => Held.failed)
    fun _ => Held.failed

end

end ServiceEnvironment

end CnsServer
