/-
The process, and one process after the other.

* `runService_ends`: the start, up to the plan of the migrations;
* `applyMigrations_ends`: the loop over the migrations;
* `destroy_ends`, `serviceMain_ends`: the destructor, which runs however the process ends;
* `serviceMain_gone`: **every process comes to its end**, and lets go of what it holds;
* `processes_migrate`: **whatever processes run on a database**, its table is what has been
  executed.
-/
import CnsServer.Properties.RuntimeLifecycle

namespace CnsServer

open Interruptible Process Std.Do

set_option mvcgen.warning false

namespace ServiceEnvironment

variable {table : MigrationState} {begun : Prop} {s : ServiceEnvironment}

/-! ### The start of the process -/

section

variable {P F : ServiceEnvironment → Prop}

/-- The configuration is there. -/
structure Configured (table : MigrationState) (s : ServiceEnvironment) : Prop where
  early : s.Early table
  config : s.config = true

/-- The logger is there. -/
structure Logged (table : MigrationState) (s : ServiceEnvironment) : Prop where
  early : s.Early table
  config : s.config = true
  logger : s.logger = true

/-- The database is connected. -/
structure Stored (table : MigrationState) (s : ServiceEnvironment) : Prop where
  logged : s.Logged table
  store : s.store = true

/-- The rows of the table are read. -/
structure Compared (table : MigrationState) (s : ServiceEnvironment) : Prop where
  stored : s.Stored table
  applied : s.applied = table.rows

/-- There is a plan. -/
structure Planned (table : MigrationState) (mode : RunMode) (s : ServiceEnvironment) : Prop where
  stored : s.Stored table
  plan : ∃ pending, s.plan = some pending ∧
    buildMigrationPlan s.available table.rows (planMode (mode = .migrateOnly)) = .ok pending

lemma untimed_logged : Untimed (Logged table) := fun s n h => ⟨untimed_early s n h.1, h.2, h.3⟩

lemma untimed_stored : Untimed (Stored table) := fun s n h => ⟨untimed_logged s n h.1, h.2⟩

lemma loadConfig_ends : Ends .thrown (Early table) loadConfig
    (Succeeding (Configured table) (Early table)) (Early table) :=
  expected_ends untimed_early (fun _ _ h => ⟨{ h with }, rfl⟩) fun _ => id

lemma initializeLogger_ends : Ends .thrown (Configured table) initializeLogger
    (fun _ => Logged table) (Early table) := by
  have hobserve : Ends .thrown (Configured table) observe (fun _ => Configured table)
      (Early table) :=
    (observe_ends fun s n h => ⟨untimed_early s n h.1, h.2⟩).mono_raised fun _ => Configured.early
  exact (need_ends fun _ => Configured.config).bind fun _ => hobserve.bind fun _ =>
    Ends.modify fun s h => ⟨{ h.early with }, h.config, rfl⟩

lemma discoverMigrations_ends : Ends .thrown (Logged table) discoverMigrations
    (Succeeding (Logged table) (Early table)) (Early table) :=
  expected_ends untimed_logged (fun _ _ h => ⟨{ h.early with }, h.config, h.logger⟩)
    fun _ => Logged.early

lemma connectPostgres_ends : Ends .thrown (Logged table) connectPostgres
    (Succeeding (Stored table) (Early table)) (Early table) :=
  (need_ends fun _ h => Bool.and_eq_true_iff.mpr ⟨h.config, h.logger⟩).bind fun _ =>
    expected_ends untimed_logged (fun _ _ h => ⟨⟨{ h.early with }, h.config, h.logger⟩, rfl⟩)
      fun _ => Logged.early

lemma readAppliedMigrations_ends : Ends .thrown (Stored table) readAppliedMigrations
    (Succeeding (Compared table) (Early table)) (Early table) :=
  (need_ends fun _ => Stored.store).bind fun _ =>
    expected_ends untimed_stored
      (fun _ _ h => ⟨⟨{ h.logged with early := { h.logged.early with } }, h.store⟩,
        congrArg MigrationState.rows h.logged.early.kept⟩)
      fun _ h => h.logged.early

lemma planMigrations_ends (mode : RunMode) : Ends .thrown (Compared table)
    (planMigrations (mode = .migrateOnly)) (Succeeding (Planned table mode) (Early table))
    (Early table) := by
  mvcgen [planMigrations]
  · next s h error _ => exact h.stored.logged.early
  · next s h pending hplan =>
    rw [h.applied] at hplan
    exact ⟨⟨{ h.stored.logged with early := { h.stored.logged.early with } }, h.stored.store⟩,
      pending, rfl, hplan⟩

/-- **The start of the process**, up to the plan, is one for both modes. -/
lemma runService_ends {mode : RunMode} {fuel : ℕ} {R : Option ℕ → ServiceEnvironment → Prop}
    (hE : ∀ s, Early table s → F s) (hfailed : ∀ s, Early table s → R (some 1) s)
    (hrest : Ends .thrown (Planned table mode)
      (match mode with
        | .migrateOnly => operations.applyMigrations fuel 0
        | .normal => operations.runNormal fuel) R F) :
    Ends .thrown (Early table) (runService mode fuel operations) R F := by
  have hweaken {P Q : ServiceEnvironment → Prop} {x : Process (Except String Unit)}
      (h : Ends .thrown P x (Succeeding Q (Early table)) (Early table)) :
      Ends .thrown P x (Succeeding Q (Early table)) F := h.mono_raised hE
  have herror (message : String) := (error_ends (@untimed_early table) message).mono_raised hE
  have hnothing : Ends Abort.thrown (Early table) (return ()) (fun _ => Early table) F :=
    Ends.pure fun _ => id
  refine orReturn_ends (hweaken loadConfig_ends) herror hnothing ?_ hfailed
  refine (initializeLogger_ends.mono_raised hE).bind fun _ => ?_
  exact orReturn_ends (hweaken discoverMigrations_ends) herror hnothing
    (orReturn_ends (hweaken connectPostgres_ends) herror hnothing
      (orReturn_ends (hweaken readAppliedMigrations_ends) herror hnothing
        (orReturn_ends (hweaken (planMigrations_ends mode)) herror hnothing hrest
          hfailed)
        hfailed)
      hfailed)
    hfailed

/-- Where nothing is pending, the table has the migrations of the directory. -/
lemma Planned.ready (h : s.Planned table .normal) : s.Ready table := by
  obtain ⟨pending, -, hplan⟩ := h.plan
  obtain ⟨-, -, hprefix, hpending, hcheck⟩ := buildMigrationPlan_ok_iff.mp hplan
  have hlength := List.drop_eq_nil_iff.mp (hpending.symm.trans (hcheck rfl))
  exact ⟨⟨h.stored.logged.early, h.stored.logged.config, h.stored.logged.logger,
    hprefix.eq_of_length (le_antisymm hprefix.length_le hlength)⟩, h.stored.store⟩

end

/-! ### The migrations -/

/-- The first migrations of the plan have been applied. -/
structure Applying (table : MigrationState) (pending : List Migration) (index : ℕ)
    (s : ServiceEnvironment) : Prop where
  stored : s.Stored s.table
  plan : s.plan = some pending
  planned : buildMigrationPlan s.available table.rows .apply = .ok pending
  rows : s.table.rows = table.rows ++ pending.take index
  executed : s.table.executed = table.executed ++ pending.take index

/-- Some of the plan has been applied, or nothing. -/
structure Advanced (table : MigrationState) (s : ServiceEnvironment) : Prop where
  early : s.Early s.table
  table : s.table = table ∨ ∃ pending index,
    buildMigrationPlan s.available table.rows .apply = .ok pending ∧
      s.table.rows = table.rows ++ pending.take index ∧
      s.table.executed = table.executed ++ pending.take index

section

variable {pending : List Migration} {index : ℕ}

lemma untimed_applying : Untimed (Applying table pending index) :=
  fun s n h => ⟨untimed_stored s n h.1, h.2, h.3, h.4, h.5⟩

lemma Applying.advanced (h : s.Applying table pending index) : s.Advanced table :=
  ⟨h.stored.logged.early, .inr ⟨pending, index, h.planned, h.rows, h.executed⟩⟩

lemma Early.advanced (h : s.Early table) : s.Advanced table :=
  ⟨by rw [h.kept]; exact h, .inl h.kept⟩

lemma Advanced.stop (h : s.Advanced table) :
    { s with deviceRuntimeStopped := true }.Advanced table :=
  ⟨{ h.early with }, h.table⟩

lemma untimed_advanced : Untimed (Advanced table) := fun s n h => ⟨untimed_early s n h.1, h.2⟩

/-- The next migration has a new version, greater than all others. -/
lemma Applying.commit (h : s.Applying table pending index) {migration : Migration}
    (hnext : pending[index]? = some migration) :
    (s.table.applyMigration migration).isSome = true ∧
      (ServiceEnvironment.commit migration s).Applying table pending (index + 1) := by
  have htake : pending.take (index + 1) = pending.take index ++ [migration] := by
    rw [List.take_add_one, hnext]
    rfl
  have hnumbered : NumberedInOrder (s.table.rows ++ [migration]) := by
    refine (buildMigrationPlan_apply_iff.mp h.planned).1.of_start ⟨pending.drop (index + 1), ?_⟩
    rw [h.rows, List.append_assoc (table.rows), ← htake, List.append_assoc,
      List.take_append_drop, append_pending h.planned]
  have hless := hnumbered.version_lt
  have hnew : migration.version ∉ s.table.rows.map Migration.version := by
    intro hmem
    obtain ⟨row, hrow, hversion⟩ := List.mem_map.mp hmem
    have := hless row hrow
    omega
  have happlied : s.table.applyMigration migration = some { s.table with
      rows := s.table.rows ++ [migration], executed := s.table.executed ++ [migration] } := by
    rw [MigrationState.applyMigration, if_neg hnew, orderedInsert_last hless]
  have hcommit : ServiceEnvironment.commit migration s = { s with table := { s.table with
      rows := s.table.rows ++ [migration], executed := s.table.executed ++ [migration] } } := by
    rw [ServiceEnvironment.commit, happlied]
    rfl
  rw [hcommit, happlied]
  refine ⟨rfl, ⟨{ h.stored.logged with early := { h.stored.logged.early with kept := rfl } },
    h.stored.store⟩, h.plan, h.planned, ?_, ?_⟩
  · rw [htake, ← List.append_assoc, ← h.rows]
  · rw [htake, ← List.append_assoc, ← h.executed]

lemma applyToStore_ends {migration : Migration} (hnext : pending[index]? = some migration) :
    Ends .thrown (Applying table pending index) (applyToStore migration)
      (Succeeding (Applying table pending (index + 1)) (Advanced table)) (Advanced table) := by
  have hobserve := (observe_ends (@untimed_applying table pending index)).mono_raised
    fun _ => Applying.advanced
  mvcgen [applyToStore, hobserve]
  · next outcome s h error _ _ _ _ =>
    change Advanced table ((if outcome.flag = true then commit migration else id) s)
    split
    · exact (h.commit hnext).2.advanced
    · exact h.advanced
  · next s h _ _ => exact h.advanced
  · next s h _ _ _ _ => exact (h.commit hnext).2

/-- What the loop over the migrations leaves. -/
structure Migrated (table : MigrationState) (code : Option ℕ) (s : ServiceEnvironment) : Prop where
  advanced : s.Advanced table
  exitCode : ∀ n ∈ code, n = 0 ∨ n = 1
  finished : code = some 0 → s.table.rows = s.available ∧ NumberedInOrder s.available

lemma Advanced.failed (h : s.Advanced table) : s.Migrated table (some 1) :=
  ⟨h, fun _ hn => .inr (Option.some.inj hn).symm, fun hzero => by cases hzero⟩

/-- Where none is left, the table has all migrations of the directory. -/
lemma Applying.finished (h : s.Applying table pending index) (hindex : pending.length ≤ index) :
    s.Migrated table (some 0) := by
  refine ⟨h.advanced, fun _ hn => .inl (Option.some.inj hn).symm, fun _ => ⟨?_, ?_⟩⟩
  · rw [h.rows, List.take_of_length_le hindex, append_pending h.planned]
  · exact (buildMigrationPlan_apply_iff.mp h.planned).1

lemma applyMigration_ends (hindex : index < pending.length) :
    Ends .thrown (Applying table pending index) (operations.applyMigration index)
      (Succeeding (Applying table pending (index + 1)) (Advanced table)) (Advanced table) := by
  have happly {migration : Migration} (hnext : pending[index]? = some migration) :=
    @applyToStore_ends table pending index migration hnext
  mvcgen [operations, ServiceEnvironment.applyMigration, happly]
  · next s h other hother _ migration hnext =>
    rw [h.plan] at hother
    cases hother
    exact hnext
  · next s h other hother _ hnone =>
    rw [h.plan] at hother
    cases hother
    exact absurd hindex (List.getElem?_eq_none_iff.mp hnone).not_gt
  · next s h store plan hneither hplan hstore =>
    exact (hneither pending (hstore.symm.trans h.stored.store) (hplan.symm.trans h.plan)).elim

lemma pendingMigrationCount_ends : Ends .thrown (Applying table pending index)
    operations.pendingMigrationCount
    (fun count s => s.Applying table pending index ∧ count = pending.length) (Advanced table) := by
  mvcgen [operations, pendingMigrationCount]
  · next s h other hother =>
    rw [h.plan] at hother
    cases hother
    exact ⟨h, rfl⟩
  · next s h hnone =>
    rw [h.plan] at hnone
    cases hnone

/-- **The loop over the migrations** ends with the fuel that it needs. -/
lemma applyMigrations_ends (fuel : ℕ) (hindex : index ≤ pending.length) :
    Ends .thrown (Applying table pending index) (operations.applyMigrations fuel index)
      (fun code s => s.Migrated table code ∧ (code = none → index + fuel ≤ s.available.length))
      (Advanced table) := by
  induction fuel generalizing index with
  | zero =>
      refine Ends.pure fun s h => ⟨⟨h.advanced, fun _ hn => (by cases hn), fun hzero => (by
        cases hzero)⟩, fun _ => hindex.trans ?_⟩
      rw [← append_pending h.planned, List.length_append]
      exact Nat.le_add_left _ _
  | succ fuel ih =>
      refine pendingMigrationCount_ends.bind fun count => Ends.of_fact fun hcount => ?_
      subst hcount
      cases hmore : decide (index < pending.length) with
      | true =>
          have hless := of_decide_eq_true hmore
          refine orReturn_ends (applyMigration_ends hless) (error_ends untimed_advanced)
            (Ends.pure fun _ => id) ((ih hless).mono (fun _ => id) (fun code s h => ?_) fun _ => id)
            fun s h => ⟨h.failed, fun hnone => by cases hnone⟩
          refine h.imp_right fun hlength hnone => ?_
          have := hlength hnone
          omega
      | false =>
          have hinfo := info_ends (@untimed_applying table pending index)
            (fun s h => h.stored.logged.logger) "数据库迁移完成"
          refine (hinfo.mono_raised fun _ => Applying.advanced).bind fun _ =>
            Ends.pure fun s h => ⟨h.finished ?_, fun hnone => by cases hnone⟩
          exact not_lt.mp (of_decide_eq_false hmore)

end

/-! ### The destructor -/

lemma destroy_ends : Ends .thrown (Held table begun) destroy (fun _ => Ended table begun)
    (Held table begun) := by
  have hreset : Ends .thrown (Ended table begun) resetBundle (fun _ => Ended table begun)
      (Held table begun) := by
    refine resetBundle_ends (fun s h b hb => ?_) (fun _ h _ => h) fun s b h hb => ?_
    all_goals
      rw [h.gone.bundle] at hb
      cases hb
  exact stopAcceptingDeviceMessages_ends.bind fun _ => stopDeviceRuntime_ends.never.bind fun _ =>
    (stopMqtt_ends.mono_raised fun _ => Over.held).bind fun _ => hreset

/-- Nothing is there to be destroyed. -/
lemma destroy_idle {P E : ServiceEnvironment → Prop} (hearly : ∀ s, P s → s.Early s.table)
    (hstopped : ∀ s, P s → P { s with deviceRuntimeStopped := true }) :
    Ends .thrown P destroy (fun _ => P) E := by
  have haccepting : Ends .thrown P stopAcceptingDeviceMessages (fun _ => P) E := by
    mvcgen [stopAcceptingDeviceMessages]
    next s h hopen =>
      rw [(hearly s h).accepting] at hopen
      cases hopen
  have hruntime : Ends .thrown P stopDeviceRuntime (fun _ => P) E := by
    mvcgen [stopDeviceRuntime]
    · exact hstopped _ ‹_›
    · next s h _ b hb =>
      rw [(hearly s h).bundle] at hb
      cases hb
  have hmqtt : Ends .thrown P stopMqtt (fun _ => P) E := by
    mvcgen [stopMqtt]
    next s h client hclient =>
      rw [(hearly s h).mqtt] at hclient
      cases hclient
  refine haccepting.bind fun _ => hruntime.bind fun _ => hmqtt.bind fun _ =>
    resetBundle_ends (fun s h b hb => ?_) (fun _ h _ => h) fun s b h hb => ?_
  all_goals
    rw [(hearly s h).bundle] at hb
    cases hb

/-- From `P` the environment is destroyed, and leaves `Q`, or ends the process with `T`. -/
abbrev Destroys (P Q T : ServiceEnvironment → Prop) : Prop :=
  ⦃fun s => ⌜P s⌝⦄ destroyed
  ⦃post⟨fun _ s => ⌜Q s⌝, fun abort s => ⌜abort = .terminated ∧ T s⌝⟩⦄

lemma destroys_of_ends {P Q E : ServiceEnvironment → Prop}
    (h : Ends .thrown P destroy (fun _ => Q) E) : Destroys P Q E := by
  mvcgen [destroyed, catching, h]
  · exact id
  · next h => exact ⟨trivial, h.2⟩
  · next other hother _ hthrown =>
    obtain ⟨⟨what, rfl⟩, -⟩ := hthrown
    cases hother what rfl

/-- **The process**: what `RunService` leaves is destroyed, however it ends. -/
lemma serviceMain_ends {mode : RunMode} {fuel : ℕ} {P E T : ServiceEnvironment → Prop}
    {R R' : Option ℕ → ServiceEnvironment → Prop}
    (hrun : Ends .thrown P (runService mode fuel operations) R E)
    (hreturned : ∀ code, Destroys (R (some code)) (R' (some code)) T)
    (hthrown : Destroys E (R' (some 1)) T) (hrunning : ∀ s, R none s → R' none s) :
    ⦃fun s => ⌜P s⌝⦄ serviceMain mode fuel
    ⦃post⟨fun code s => ⌜R' code s⌝, fun abort s => ⌜abort = .terminated ∧ T s⌝⟩⦄ := by
  have hunwinding : ⦃fun s => ⌜P s⌝⦄ unwinding mode fuel
      ⦃post⟨fun code s => ⌜R code s⌝, fun abort s =>
        ⌜(∃ what, abort = .thrown what) ∧ R' (some 1) s ∨ abort = .terminated ∧ T s⌝⟩⦄ := by
    mvcgen [unwinding, catching, hrun, hthrown]
    · exact id
    · next h => exact h.2
    · next h => exact .inl ⟨⟨_, rfl⟩, h⟩
    · exact fun habort h => .inr ⟨habort, h⟩
    · next other hother _ h =>
      obtain ⟨⟨what, rfl⟩, -⟩ := h
      cases hother what rfl
  have hreturning (code : Option ℕ) : ⦃fun s => ⌜R code s⌝⦄ returning code
      ⦃post⟨fun code s => ⌜R' code s⌝, fun abort s => ⌜abort = .terminated ∧ T s⌝⟩⦄ := by
    cases code with
    | none =>
        mvcgen [returning]
        exact hrunning _ ‹_›
    | some code => mvcgen [returning, hreturned]
  mvcgen [serviceMain, catching, hunwinding, hreturning]
  · exact id
  · next h => cases h.1
  · next h =>
    rcases h with h | h
    · exact h.2
    · cases h.1
  · next other hother _ h =>
    rcases h with ⟨⟨what, hwhat⟩, -⟩ | ⟨hterminated, hkept⟩
    · exact (hother what hwhat).elim
    · exact ⟨hterminated, hkept⟩

/-! ### Both modes -/

/-- A process that has let go of everything: threads that still run have been asked to stop, and
cannot reach the MQTT client or the logger any more. -/
structure Gone (s : ServiceEnvironment) : Prop where
  bundle : s.runtimeBundle = none
  closed : s.acceptingDeviceMessages = false
  mqtt : ∀ phase ∈ s.mqtt, phase = .stopped
  released : ∀ b ∈ s.released, b.joinable = false ∧ b.Fine s.BridgeCut
  orderly : Orderly s.log

lemma Ended.mono {begun' : Prop} (h : s.Ended table begun) (hbegun : begun' → begun) :
    s.Ended table begun' :=
  ⟨⟨h.gone.sound.mono fun hb => h.gone.sound.started (hbegun hb), h.gone.closed, h.gone.bundle⟩,
    h.mqtt⟩

lemma Ended.isGone (h : s.Ended table begun) : s.Gone :=
  ⟨h.gone.bundle, h.gone.closed, h.mqtt, h.gone.sound.released, h.gone.sound.orderly⟩

lemma Early.isGone (h : s.Early table) : s.Gone where
  bundle := h.bundle
  closed := h.accepting
  mqtt phase hphase := by
    rw [h.mqtt] at hphase
    cases hphase
  released b hb := by
    rw [h.released] at hb
    cases hb
  orderly := h.sound.orderly

/-- What a process of the normal mode leaves. -/
def Served (table : MigrationState) : Option ℕ → ServiceEnvironment → Prop
  | none, s => s.Left table none
  | some code, s => s.Ended table (code = 0) ∧ (code = 0 ∨ code = 1)

lemma normal_ends (fuel : ℕ) : ⦃fun s => ⌜s.Early table⌝⦄ serviceMain .normal fuel
    ⦃post⟨fun code s => ⌜s.Served table code⌝,
      fun abort s => ⌜abort = .terminated ∧ s.Held table False⌝⟩⦄ := by
  have hrun : Ends .thrown (Early table) (runService .normal fuel operations) (Left table)
      (Held table False) :=
    runService_ends (fun _ => Early.held) (fun _ h => h.held.failed)
      ((runNormal_ends fuel).mono (fun _ => Planned.ready) (fun _ _ => id) fun _ => id)
  have hdestroy {begun : Prop} {p : Prop} : Destroys (fun s => s.Held table begun ∧ p)
      (fun s => s.Ended table begun ∧ p) (Held table False) :=
    destroys_of_ends (Ends.of_fact fun hp => destroy_ends.mono (fun _ => id) (fun _ s h => ⟨h, hp⟩)
      fun _ h => h.mono False.elim)
  refine serviceMain_ends hrun (fun code => ?_) ?_ fun s h => h
  · have hreturned := @hdestroy (code = 0) (code = 0 ∨ code = 1)
    mvcgen [hreturned]
    next s h => exact ⟨h.held.mono fun hcode => congrArg some hcode, h.exitCode code rfl⟩
  · have hthrown := @hdestroy False True
    mvcgen [hthrown]
    exact fun h => ⟨h.mono fun hcode => absurd hcode one_ne_zero, .inr rfl⟩

/-- What a process leaves that migrates. -/
structure MigratedWith (table : MigrationState) (fuel : ℕ) (code : Option ℕ)
    (s : ServiceEnvironment) : Prop where
  migrated : s.Migrated table code
  fuel : code = none → fuel ≤ s.available.length

lemma migrateOnly_ends (fuel : ℕ) : ⦃fun s => ⌜s.Early table⌝⦄ serviceMain .migrateOnly fuel
    ⦃post⟨fun code s => ⌜s.MigratedWith table fuel code⌝,
      fun abort _ => ⌜abort = .terminated ∧ False⌝⟩⦄ := by
  have hrest : Ends .thrown (Planned table .migrateOnly) (operations.applyMigrations fuel 0)
      (MigratedWith table fuel) (Advanced table) := by
    have hloop := Ends.of_exists fun pending =>
      @applyMigrations_ends table pending 0 fuel pending.length.zero_le
    refine hloop.mono (fun s h => ?_) (fun code s h => ⟨h.1, fun hnone => ?_⟩) fun _ => id
    · obtain ⟨pending, hplan, hplanned⟩ := h.plan
      have hkept := h.stored.logged.early.kept
      refine ⟨pending, by rw [hkept]; exact h.stored, hplan, hplanned, ?_, ?_⟩
      · rw [hkept, List.take_zero, List.append_nil]
      · rw [hkept, List.take_zero, List.append_nil]
    · have hlength := h.2 hnone
      rwa [Nat.zero_add] at hlength
  have hrun : Ends .thrown (Early table) (runService .migrateOnly fuel operations)
      (MigratedWith table fuel) (Advanced table) :=
    runService_ends (fun _ => Early.advanced)
      (fun _ h => ⟨h.advanced.failed, fun hnone => by cases hnone⟩) hrest
  have hreturned (code : ℕ) : Destroys (MigratedWith table fuel (some code))
      (MigratedWith table fuel (some code)) fun _ => False :=
    destroys_of_ends <| destroy_idle (fun s h => h.migrated.advanced.early) fun s h =>
      ⟨⟨h.migrated.advanced.stop, h.migrated.exitCode, h.migrated.finished⟩, h.fuel⟩
  have hthrown : Destroys (Advanced table) (MigratedWith table fuel (some 1)) fun _ => False :=
    destroys_of_ends <| (destroy_idle (fun s h => h.early) fun s h => h.stop).mono (fun _ => id)
      (fun _ s h => ⟨h.failed, fun hnone => by cases hnone⟩) fun _ => id
  exact serviceMain_ends hrun hreturned hthrown fun _ => id

end ServiceEnvironment

open ServiceEnvironment

/-! ### The process -/

/-- **Every process comes to its end.**  Whatever its calls return or throw, and whichever of
them throw: it returns 0 or 1 and has let go of everything; or it still runs, and has not been
asked to stop, or has migrations to apply; or a destructor has thrown.  Nothing that is not
there is read, and no thread is left that would have to join itself. -/
theorem serviceMain_gone (mode : RunMode) (fuel : ℕ) (table : MigrationState)
    (outcomes : ℕ → Outcome) :
    match serviceMain mode fuel { table := table, outcomes := outcomes } with
    | .ok (some code) s => (code = 0 ∨ code = 1) ∧ s.Gone
    | .ok none s => s.shutdownRequested = false ∧ (mode = .migrateOnly → fuel ≤ s.available.length)
    | .error abort _ => abort = .terminated := by
  have hearly : { table := table, outcomes := outcomes : ServiceEnvironment }.Early table :=
    ⟨rfl, rfl, rfl, rfl, rfl, rfl, rfl⟩
  cases mode with
  | normal =>
      have hresult := result_of_triple (normal_ends fuel) _ hearly
      split
      · next code s hmain =>
        rw [hmain] at hresult
        exact ⟨hresult.2, hresult.1.isGone⟩
      · next s hmain =>
        rw [hmain] at hresult
        exact ⟨hresult.quiet rfl, fun hmode => by cases hmode⟩
      · next abort s hmain =>
        rw [hmain] at hresult
        exact hresult.1
  | migrateOnly =>
      have hresult := result_of_triple (migrateOnly_ends fuel) _ hearly
      split
      · next code s hmain =>
        rw [hmain] at hresult
        exact ⟨hresult.migrated.exitCode code rfl, hresult.migrated.advanced.early.isGone⟩
      · next s hmain =>
        rw [hmain] at hresult
        exact ⟨hresult.migrated.advanced.early.quiet, fun _ => hresult.fuel rfl⟩
      · next abort s hmain =>
        rw [hmain] at hresult
        exact hresult.1

/-! ### One process after the other -/

/-- A process, and what the calls do that it makes. -/
structure ProcessRun where
  mode : RunMode
  fuel : ℕ
  outcomes : ℕ → Outcome

/-- The state that a computation ends in. -/
def finalState {α : Type} : EStateM.Result Abort ServiceEnvironment α → ServiceEnvironment
  | .ok _ s => s
  | .error _ s => s

def ProcessRun.main (run : ProcessRun) (table : MigrationState) :
    EStateM.Result Abort ServiceEnvironment (Option ℕ) :=
  serviceMain run.mode run.fuel { table := table, outcomes := run.outcomes }

/-- One process after the other, over an empty database at first.  A process that runs out of
fuel is killed there. -/
def processes : Machine MigrationState ProcessRun where
  init table := table = ⟨[], [], none⟩
  enabled _ _ := True
  next table run := (finalState (run.main table)).table

/-- The scripts that have been executed are the rows, numbered in order. -/
def Recorded (table : MigrationState) : Prop :=
  table.rows = table.executed ∧ NumberedInOrder table.executed

/-- A process of the normal mode leaves the migrations alone, and starts its runtime when there
is nothing to apply. -/
lemma ProcessRun.normal {run : ProcessRun} (hmode : run.mode = .normal) (table : MigrationState) :
    (finalState (run.main table)).table = table ∧
      ((finalState (run.main table)).log ≠ [] →
        table.rows = (finalState (run.main table)).available) := by
  have hresult := result_of_triple (normal_ends run.fuel)
    { table := table, outcomes := run.outcomes } ⟨rfl, rfl, rfl, rfl, rfl, rfl, rfl⟩
  rw [ProcessRun.main, hmode]
  cases hmain : serviceMain .normal run.fuel { table := table, outcomes := run.outcomes } with
  | ok code s =>
      rw [hmain] at hresult
      cases code with
      | none => exact ⟨hresult.held.1.kept, fun hlog => (hresult.held.1.checked hlog).1⟩
      | some code =>
          have hsound := hresult.1.gone.sound
          exact ⟨hsound.kept, fun hlog => (hsound.checked hlog).1⟩
  | error abort s =>
      rw [hmain] at hresult
      exact ⟨hresult.2.1.kept, fun hlog => (hresult.2.1.checked hlog).1⟩

/-- One that migrates starts nothing, and applies some of its plan. -/
lemma ProcessRun.migrateOnly {run : ProcessRun} (hmode : run.mode = .migrateOnly)
    (table : MigrationState) : (finalState (run.main table)).Advanced table ∧
      ∀ s, run.main table = .ok (some 0) s → s.table.rows = s.available := by
  have hresult := result_of_triple (migrateOnly_ends run.fuel)
    { table := table, outcomes := run.outcomes } ⟨rfl, rfl, rfl, rfl, rfl, rfl, rfl⟩
  rw [ProcessRun.main, hmode]
  cases hmain : serviceMain .migrateOnly run.fuel { table := table, outcomes := run.outcomes } with
  | ok code s =>
      rw [hmain] at hresult
      refine ⟨hresult.migrated.advanced, fun s' hzero => ?_⟩
      cases hzero
      exact (hresult.migrated.finished rfl).1
  | error abort s =>
      rw [hmain] at hresult
      exact hresult.2.elim

lemma ServiceEnvironment.Advanced.recorded {table : MigrationState} {s : ServiceEnvironment}
    (h : s.Advanced table) (hstep : Recorded table) : Recorded s.table := by
  rcases h.table with hkept | ⟨pending, index, hplan, hrows, hexecuted⟩
  · rw [hkept]
    exact hstep
  · have hsame : s.table.rows = s.table.executed := by rw [hrows, hexecuted, hstep.1]
    refine ⟨hsame, (buildMigrationPlan_apply_iff.mp hplan).1.of_start ?_⟩
    refine ⟨pending.drop index, ?_⟩
    rw [← hsame, hrows, List.append_assoc, List.take_append_drop, append_pending hplan]

lemma recorded_of_reachable {table : MigrationState} (h : processes.Reachable table) :
    Recorded table := by
  refine h.invariant (fun table hinit => ?_) fun table run _ hstep _ => ?_
  · subst hinit
    exact ⟨rfl, rfl⟩
  · change Recorded (finalState (run.main table)).table
    cases hmode : run.mode with
    | normal =>
        rw [(ProcessRun.normal hmode table).1]
        exact hstep
    | migrateOnly => exact (ProcessRun.migrateOnly hmode table).1.recorded hstep

/-- **Whatever processes run on a database**, with whatever directories and however they end:
the rows of its table are the scripts that have been executed, each once and in the order of
their numbers; a process that does not migrate leaves them alone, and starts its threads only
if they are those of its directory; and one that migrates starts nothing, and has brought the
table up to its directory when it returns 0. -/
theorem processes_migrate (table : MigrationState) (h : processes.Reachable table)
    (run : ProcessRun) (s : ServiceEnvironment) (hs : finalState (run.main table) = s) :
    table.rows = table.executed ∧ NumberedInOrder table.rows ∧
    (run.mode = .normal → s.table = table ∧ (s.log ≠ [] → table.rows = s.available)) ∧
    (run.mode = .migrateOnly → s.log = [] ∧ table.rows <+: s.table.rows ∧
      (run.main table = .ok (some 0) s → s.table.rows = s.available)) := by
  have hstep := recorded_of_reachable h
  subst hs
  refine ⟨hstep.1, by rw [hstep.1]; exact hstep.2, fun hmode => ProcessRun.normal hmode table,
    fun hmode => ?_⟩
  obtain ⟨hadvanced, hzero⟩ := ProcessRun.migrateOnly hmode table
  refine ⟨hadvanced.early.log, ?_, hzero _⟩
  rcases hadvanced.table with hkept | ⟨pending, index, -, hrows, -⟩
  · rw [hkept]
  · rw [hrows]
    exact List.prefix_append _ _

/-- A process that is killed after its first migration, and one that finishes. -/
def sampleProcesses : List ProcessRun :=
  [⟨.migrateOnly, 1, fun _ => { migrations := Sample.migrations }⟩,
    ⟨.migrateOnly, 4, fun _ => { migrations := Sample.migrations }⟩]

/-- The service that is started then. -/
def sampleService : ProcessRun :=
  ⟨.normal, 2, fun n => { migrations := Sample.migrations, flag := decide (18 ≤ n) }⟩

theorem processes_migrate_sample :
    (sampleProcesses.foldl processes.next ⟨[], [], none⟩).executed = Sample.migrations ∧
      NumberedInOrder (sampleProcesses.foldl processes.next ⟨[], [], none⟩).rows := by
  have hreachable : processes.Reachable (sampleProcesses.foldl processes.next ⟨[], [], none⟩) :=
    Machine.Reachable.foldl (.start rfl) (fun _ _ => trivial) _
  exact ⟨by decide +kernel, (processes_migrate _ hreachable sampleService _ rfl).2.1⟩

end CnsServer
