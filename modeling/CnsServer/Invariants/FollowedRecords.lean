/-
The tables follow the records of the directory, group by group of columns.

* `SystemInput.Undisturbed`, `SystemInput.Selects`: the steps in which nothing is given up,
  and those in which a telemetry selects what it changes;
* `FollowedRecords`: each group of each record is still to be submitted, or the writes that
  are queued and in hand bring it to the tables, or it is there;
* `worker_followed`, `service_followed`, `write_followed`, `start_followed`: one lemma for
  each kind of step;
* `followed_of_reachable`: **this is so in every run** of such steps, over any number of
  starts.
-/
import CnsServer.Invariants.AwaitedFields
import CnsServer.Invariants.StoredDevices
import CnsServer.Invariants.TrailingWrites

namespace CnsServer

open DeviceService

/-! ### The condition -/

/-- A step in which nothing is given up: no write fails for good, and no cancel is
consumed. -/
def SystemInput.Undisturbed (s : DeviceSystem) : SystemInput → Prop
  | .runtime (.worker input) _ => (input.deviceInput s.runtime.worker).givesUp = false
  | .runtime (.service input) _ => input.consumesCancel s.runtime.service = false
  | _ => True

/-- A step whose telemetry selects what it changes. -/
def SystemInput.Selects (cfg : DeviceServiceConfig) (s : DeviceSystem) (input : SystemInput) :
    Prop :=
  ∀ op ∈ input.registryInputs cfg s, s.runtime.service.SelectsReport op

instance (s : DeviceSystem) : ∀ input : SystemInput, Decidable (input.Undisturbed s)
  | .runtime (.worker _) _ => inferInstanceAs (Decidable (_ = false))
  | .runtime (.service _) _ => inferInstanceAs (Decidable (_ = false))
  | .runtime .deliver _ => .isTrue trivial
  | .restart _ _ => .isTrue trivial

instance (cfg : DeviceServiceConfig) (s : DeviceSystem) (input : SystemInput) :
    Decidable (input.Selects cfg s) :=
  inferInstanceAs (Decidable (∀ op ∈ _, s.runtime.service.SelectsReport op))

/-- Each group of a record is still to be submitted, or the tables follow it. -/
structure FollowedRecords (s : DeviceSystem) : Prop where
  dated : s.runtime.service.dirty.Dated
  trail : WritesTrail s.side s.registry
  follows : ∀ deviceId record, s.registry.find deviceId = some record → ∀ field,
    s.runtime.service.book.Awaits deviceId field ∨ RowsFollow s.side s.tables record field

section

variable {wcfg : WorkerConfig} {cfg : DeviceServiceConfig} {s : DeviceSystem}
  {deviceId : String} {record : DeviceRecord}

/-! ### The thread -/

/-- The columns of a device of the directory are there. -/
lemma StoredDevices.there (h : StoredDevices s) (hrecord : s.registry.find deviceId = some record)
    (hid : record.deviceId = deviceId) (field : DeviceField) :
    (s.tables.stored record.deviceId field).isSome = true := by
  obtain ⟨row, hrow⟩ := Option.isSome_iff_exists.mp (h.records deviceId record hrecord).2
  obtain ⟨columns, hselect, -⟩ := h.reads.select hrow
  rw [hid, DeviceTables.stored, hselect]
  rfl

/-- A write ends with the answer of the store. -/
lemma deviceInput_writeEnded {w : WorkerLoop} {input : WorkerInput} {write : DesiredDeviceWrite}
    {result : Except DatabaseError Unit} (h : input.deviceInput w = .writeEnded write result) :
    ∃ outcome now, input = .written outcome now ∧ w.hand = .write write ∧
      outcome.result "数据库写入端口异常" "数据库写入发生未知异常" = result := by
  cases input with
  | written outcome now =>
      simp only [WorkerInput.deviceInput] at h
      split at h
      · next hhand =>
          cases h
          exact ⟨outcome, now, rfl, hhand, rfl⟩
      · cases h
  | provisioned outcome now =>
      simp only [WorkerInput.deviceInput] at h
      split at h
      · cases h
      · cases h
  | select stopRequested first now =>
      simp only [WorkerInput.deviceInput, WorkerLoop.selected] at h
      split at h
      · cases h
      split at h
      · cases h
      split at h
      · cases h
      split at h
      · cases h
      split at h
      · cases h
      split at h
      · cases h
      · cases h
  | reconnected outcome now =>
      simp only [WorkerInput.deviceInput, reconnectionInput] at h
      split at h
      · cases h
      split at h
      · cases h
      · cases h
  | executed outcome now =>
      simp only [WorkerInput.deviceInput, commandInput] at h
      split at h
      · cases h
      split at h
      · cases h
      · cases h
  | _ => cases h

/-- What leaves the tables alone, or only provisions, is no end of a write that has been
executed. -/
lemma stores_of_kept {t t' : DeviceTables} {input : DeviceSideInput}
    (hkept : ∀ deviceId field stored, t.stored deviceId field = some stored →
      t'.stored deviceId field = some stored)
    (hended : ∀ write result, input = .writeEnded write result →
      t' = t ∧ ∀ done, result ≠ .ok done) : Stores t t' input := by
  cases input with
  | writeEnded write result =>
      obtain ⟨hsame, herror⟩ := hended write result rfl
      cases result with
      | ok done => exact absurd rfl (herror done)
      | error error => exact .inl hsame
  | _ => exact hkept

/-- **What becomes of the tables** in a step of the thread. -/
lemma worker_stores {input : WorkerInput} {committed : Bool}
    (henabled : (SystemInput.runtime (.worker input) committed).Enabled cfg s) :
    Stores s.tables ((SystemInput.runtime (.worker input) committed).apply wcfg cfg s).tables
      (input.deviceInput s.runtime.worker) := by
  simp only [SystemInput.apply]
  cases committed with
  | false =>
      refine stores_of_kept (fun _ _ _ hstored => hstored) fun write result hended => ⟨rfl, ?_⟩
      rintro done rfl
      obtain ⟨outcome, now, rfl, hhand, hresult⟩ := deviceInput_writeEnded hended
      -- a write that has succeeded is committed
      have hends := henabled.2 write hhand
      cases outcome with
      | returned answer =>
          rw [PortOutcome.result] at hresult
          subst hresult
          cases hends.1
      | threw standard => cases hresult
  | true =>
      rw [if_pos rfl]
      rcases committed_cases henabled with
        hnone | ⟨task, outcome, now, hinput, hhand, hends⟩ |
          ⟨desired, outcome, now, hinput, hhand, hends⟩
      · cases hnone
      · obtain ⟨record, hrecord⟩ := hends.ok
        obtain ⟨⟨found, t⟩, hprovisioned, -⟩ := map_ok hrecord
        rw [transaction_provision hhand hprovisioned]
        refine stores_of_kept (fun _ _ _ => stored_provisioned
          (DeviceTables.provisionDevice_ok hprovisioned)) fun write result hended => ?_
        obtain ⟨-, -, -, hwrite, -⟩ := deviceInput_writeEnded hended
        rw [hhand] at hwrite
        cases hwrite
      · obtain ⟨done, hdone⟩ := hends.ok
        obtain ⟨t, hwritten, -⟩ := map_ok hdone
        rw [transaction_write hhand hwritten]
        cases hinput
        simp only [WorkerInput.deviceInput, hhand]
        have hspec := DeviceTables.writeDeviceState_ok hwritten
        cases outcome.result "数据库写入端口异常" "数据库写入发生未知异常" with
        | ok done => exact hspec
        | error error => exact .inr hspec

/-- **A step of the thread** in which nothing is given up. -/
lemma worker_followed (h : FollowedRecords s) (hstored : StoredDevices s)
    (hkeys : RolesIndexed s.registry) {input : WorkerInput} {committed : Bool}
    (henabled : (SystemInput.runtime (.worker input) committed).Enabled cfg s)
    (hkeeps : (input.deviceInput s.runtime.worker).givesUp = false) :
    FollowedRecords ((SystemInput.runtime (.worker input) committed).apply wcfg cfg s) := by
  obtain ⟨⟨hinput, hcall, -⟩, -⟩ := id henabled
  have hside : ((SystemInput.runtime (.worker input) committed).apply wcfg cfg s).side =
      s.side.next (input.deviceInput s.runtime.worker) := deviceSide_next hinput
  have hdevice : s.side.Enabled (input.deviceInput s.runtime.worker) := deviceInput_enabled hinput
  have hown : ¬ (input.deviceInput s.runtime.worker).IsDeviceCall :=
    fun hdeviceCall => hcall (deviceInput_isDeviceCall hdeviceCall)
  refine ⟨h.dated, ?_, fun deviceId record hrecord field => ?_⟩
  · rw [hside]
    exact next_trails h.trail hdevice fun write hwrite => absurd (hwrite ▸ trivial) hown
  · refine (h.follows deviceId record hrecord field).imp_right fun hfollows => ?_
    rw [hside]
    exact hfollows.side h.trail.keyed hdevice hown hkeeps (worker_stores henabled)
      (hstored.there hrecord (hkeys.ids deviceId record hrecord) field)

/-! ### The service -/

/-- A newer record whose changed groups are awaited is followed as the old one was. -/
lemma Advances.followed {b b' : WriteBook} {d d' : DeviceSide} {t : DeviceTables}
    {record record' : DeviceRecord} (h : Advances b' record record')
    (hkept : ∀ field, b.Awaits record.deviceId field → b'.Awaits record.deviceId field)
    (hwrites : d'.writes = d.writes) (hhand : d'.hand = d.hand) {field : DeviceField}
    (hfollows : b.Awaits record.deviceId field ∨ RowsFollow d t record field) :
    b'.Awaits record.deviceId field ∨ RowsFollow d' t record' field := by
  have hside : ∀ {found : DeviceRecord}, RowsFollow d t found field → RowsFollow d' t found field :=
    fun hfound => hfound.frame hwrites (fun write => by rw [hhand]) fun _ hstored => hstored
  rcases h with rfl | ⟨hid, -, hleaves⟩
  · exact hfollows.imp (hkept field) hside
  · rcases hleaves field with hsame | hawaits
    · exact hfollows.imp (hkept field) fun hfound => hside (hfound.renewed hid hsame)
    · exact .inl hawaits

/-- The queue of writes and the one in hand are left alone by all but a submission. -/
lemma service_side {r : DeviceRuntime} {input : DeviceInput}
    (hwrite : ∀ outcome now, input ≠ .write outcome now) :
    ((RuntimeInput.service input).apply wcfg cfg r).worker.deviceSide.writes =
        r.worker.deviceSide.writes ∧
      ((RuntimeInput.service input).apply wcfg cfg r).worker.deviceSide.hand =
        r.worker.deviceSide.hand := by
  cases input with
  | write outcome now => exact absurd rfl (hwrite outcome now)
  | provision outcome =>
      simp only [RuntimeInput.apply, DeviceInput.call?]
      cases r.service.phase with
      | provisions deviceIds =>
          cases deviceIds with
          | nil => exact ⟨rfl, rfl⟩
          | cons deviceId deviceIds =>
              dsimp only
              cases r.service.pending.lookup deviceId with
              | none => exact ⟨rfl, rfl⟩
              | some candidate =>
                  simp only [Option.map_some, WorkerInput.apply, WorkerLoop.submitProvision]
                  split
                  · exact ⟨rfl, rfl⟩
                  · exact ⟨rfl, rfl⟩
      | _ => exact ⟨rfl, rfl⟩
  | _ => exact ⟨rfl, rfl⟩

/-- A device that comes in is followed: its record has been read from its rows, and no
write of it is on its way. -/
lemma StoredDevices.follows (h : StoredDevices s) {answer : DatabaseResult}
    (hanswer : answer ∈ s.answers) (hrecord : answer.provisioned = some record)
    (hnone : s.registry.find record.deviceId = none) (hkeyed : s.side.Keyed)
    (field : DeviceField) : RowsFollow s.side s.tables record field := by
  have hunknown : ∀ write, s.side.Pending write → write.deviceId ≠ record.deviceId := by
    intro write hpending hsame
    have hknown := (h.writes write hpending).1
    rw [hsame, hnone] at hknown
    cases hknown
  obtain ⟨columns, hselect, hread⟩ := h.answers answer hanswer record hrecord hnone
  refine ⟨fun write hwrite => ?_, fun write hwrite hid => absurd hid (hunknown write (.inl hwrite)),
    .inr (.inr ?_)⟩
  · exact absurd (hkeyed _ write hwrite) (hunknown write (.inr ⟨_, hwrite⟩))
  · rw [DeviceTables.stored, hselect, Option.map_some, (deviceFromRow_readAs hread).stored]

/-- **A step of the service** that submits nothing. -/
lemma service_followed (h : FollowedRecords s) (hstored : StoredDevices s)
    (hcurrent : CurrentRecords s.runtime.service)
    (hreach : registryMachine.Reachable s.registry) {input : DeviceInput} {committed : Bool}
    (henabled : (SystemInput.runtime (.service input) committed).Enabled cfg s)
    (hundisturbed : (SystemInput.runtime (.service input) committed).Undisturbed s)
    (hselects : (SystemInput.runtime (.service input) committed).Selects cfg s)
    (hwrite : ∀ outcome now, input ≠ .write outcome now) :
    FollowedRecords ((SystemInput.runtime (.service input) committed).apply wcfg cfg s) := by
  obtain rfl := uncommitted_of_service henabled
  have hinput : input.Enabled cfg s.runtime.service := henabled.1.1
  have hkeyed : EntriesKeyed s.runtime.service.dirty :=
    fun deviceId entry hentry => (hcurrent.entries deviceId entry hentry).1
  obtain ⟨hwrites, hhand⟩ := @service_side wcfg cfg s.runtime input hwrite
  have hkept : ∀ deviceId field, s.runtime.service.book.Awaits deviceId field →
      (input.apply cfg s.runtime.service).book.Awaits deviceId field := by
    intro deviceId field hawaits
    rcases awaits_apply hinput hundisturbed h.dated hkeyed (.inl hawaits) with
      hafter | ⟨now, hsubmits, -⟩
    · exact hafter
    · exact absurd hsubmits (hwrite _ now)
  refine ⟨dated_apply hinput h.dated, ⟨fun deviceId write hlookup => ?_, fun write hpending => ?_⟩,
    fun deviceId found hfound field => ?_⟩
  · exact h.trail.keyed deviceId write (hwrites ▸ hlookup)
  · have hbefore : s.side.Pending write := by
      rcases hpending with hinhand | ⟨deviceId, hlookup⟩
      · exact .inl (hhand ▸ hinhand)
      · exact .inr ⟨deviceId, hwrites ▸ hlookup⟩
    refine (h.trail.pending write hbefore).older fun record hrecord => ?_
    cases hfound : (input.apply cfg s.runtime.service).registry.find write.deviceId with
    | none =>
        rw [registry_next] at hfound
        have hnone := foldl_find_none (fun op hop =>
          (service_brings hstored henabled op hop).not_load) (reachable_rolesIndexed hreach) hfound
        rw [show s.registry.find write.deviceId = none from hnone] at hrecord
        cases hrecord
    | some found =>
        refine ⟨found, hfound, ?_⟩
        rcases service_advances hinput hselects hreach h.dated hkeyed hfound with
          ⟨old, hold, hadvances⟩ | ⟨answer, new, -, -, hnone, -⟩
        · rw [show s.registry.find write.deviceId = some old from hold, Option.some_inj] at hrecord
          subst hrecord
          exact hadvances.imp_right fun hnewer => hnewer.2.1
        · rw [show s.registry.find write.deviceId = none from hnone] at hrecord
          cases hrecord
  · rcases service_advances hinput hselects hreach h.dated hkeyed hfound with
      ⟨old, hold, hadvances⟩ | ⟨answer, new, hanswer, hnew, hnone, rfl, hadvances⟩
    · obtain rfl : old.deviceId = deviceId := (reachable_rolesIndexed hreach).ids deviceId old hold
      exact hadvances.followed (hkept old.deviceId) hwrites hhand
        (h.follows old.deviceId old hold field)
    · have hmem : answer ∈ s.answers :=
        List.mem_append_left _ (List.mem_of_mem_head? (henabled.1.2.1 answer hanswer))
      exact hadvances.followed (hkept new.deviceId) hwrites hhand
        (.inr (hstored.follows hmem hnew hnone h.trail.keyed field))

/-! ### Submissions -/

/-- A submission reaches the queue if and only if it is accepted. -/
lemma write_side {r : DeviceRuntime} {outcome : SubmitOutcome} {now : TimePoint}
    (henabled : (RuntimeInput.service (.write outcome now)).Enabled cfg r) :
    ∃ desired writes, r.service.phase.writes = desired :: writes ∧
      ((RuntimeInput.service (.write outcome now)).apply wcfg cfg r).worker.deviceSide =
        if outcome = .accepted then r.worker.deviceSide.mergeWrite desired
        else r.worker.deviceSide := by
  obtain ⟨⟨desired, writes, hphase⟩, -, -, hanswered⟩ := henabled
  have hcall : (DeviceInput.write outcome now).call? r.service = some (.submitWrite desired) ∧
      r.service.phase.writes = desired :: writes := by
    rcases hphase with hphase | ⟨batch, accepted, hphase⟩
    · simp only [DeviceInput.call?, hphase, DevicePhase.writes, and_self]
    · simp only [DeviceInput.call?, hphase, DevicePhase.writes, and_self]
  have houtcome := hanswered _ hcall.1
  rw [DeviceInput.outcome?, Option.some_inj, WorkerLoop.outcome] at houtcome
  refine ⟨desired, writes, hcall.2, ?_⟩
  simp only [RuntimeInput.apply, hcall.1]
  rw [@deviceSide_next wcfg r.worker (.submitWrite desired) trivial]
  have hnext : r.worker.deviceSide.next (.submitWrite desired) =
      if !r.worker.accepting then r.worker.deviceSide
      else r.worker.deviceSide.mergeWrite desired := rfl
  rw [WorkerInput.deviceInput, hnext, houtcome]
  cases r.worker.accepting with
  | true => simp
  | false => simp

/-- **A submission**, accepted or not. -/
lemma write_followed (h : FollowedRecords s) (hcurrent : CurrentRecords s.runtime.service)
    (hkeys : RolesIndexed s.registry) {outcome : SubmitOutcome} {now : TimePoint}
    {committed : Bool}
    (henabled : (SystemInput.runtime (.service (.write outcome now)) committed).Enabled cfg s) :
    FollowedRecords
      ((SystemInput.runtime (.service (.write outcome now)) committed).apply wcfg cfg s) := by
  obtain rfl := uncommitted_of_service henabled
  have hinput : (DeviceInput.write outcome now).Enabled cfg s.runtime.service := henabled.1.1
  have hkeyed : EntriesKeyed s.runtime.service.dirty :=
    fun deviceId entry hentry => (hcurrent.entries deviceId entry hentry).1
  have hregistry : ((DeviceInput.write outcome now).apply cfg s.runtime.service).registry =
      s.registry := registry_next _
  obtain ⟨desired, writes, hstaged, hside⟩ := @write_side wcfg cfg s.runtime outcome now henabled.1
  -- what is submitted is the record of the directory
  obtain ⟨hfind, hrevision⟩ := hcurrent.staged desired (hstaged ▸ List.mem_cons_self)
  have htrails : Trails s.registry desired :=
    ⟨hrevision, desired.record, hfind, hrevision.le, fun _ => rfl⟩
  have hsame : ∀ record, s.registry.find record.deviceId = some record →
      desired.deviceId = record.deviceId →
        desired.record = record ∧ desired.revision = record.revision := by
    intro record hrecord hid
    have heq : desired.record = record := by
      rw [← hid] at hrecord
      exact Option.some_inj.mp (hfind.symm.trans hrecord)
    exact ⟨heq, heq ▸ hrevision⟩
  have hmerged : WritesTrail (s.side.mergeWrite desired) s.registry := by
    refine ⟨keyed_mergeWrite h.trail.keyed desired, fun write hpending => ?_⟩
    obtain ⟨old, hold | rfl, hversion⟩ := pending_merge hpending
    · exact (h.trail.pending old hold).version hversion
    · exact htrails.version hversion
  refine ⟨dated_apply hinput h.dated, ?_, fun deviceId record hrecord field => ?_⟩
  · show WritesTrail ((RuntimeInput.service (.write outcome now)).apply wcfg cfg
      s.runtime).worker.deviceSide
      ((DeviceInput.write outcome now).apply cfg s.runtime.service).registry
    rw [hside, hregistry]
    split
    · exact hmerged
    · exact h.trail
  · have hrecord' : s.registry.find deviceId = some record := hregistry ▸ hrecord
    obtain rfl : record.deviceId = deviceId := hkeys.ids deviceId record hrecord'
    show ((DeviceInput.write outcome now).apply cfg s.runtime.service).book.Awaits _ field ∨
      RowsFollow ((RuntimeInput.service (.write outcome now)).apply wcfg cfg
        s.runtime).worker.deviceSide s.tables record field
    rw [hside]
    rcases h.follows record.deviceId record hrecord' field with hawaits | hfollows
    · rcases awaits_apply hinput rfl h.dated hkeyed (.inl hawaits) with
        hafter | ⟨later, haccepted, write, hwrite, hid, hselects⟩
      · exact .inl hafter
      · -- the group goes with the write that is accepted
        rw [hstaged, List.head?_cons, Option.mem_some_iff] at hwrite
        subst hwrite
        cases haccepted
        obtain ⟨hself, hversion⟩ := hsame record hrecord' hid
        rw [if_pos rfl]
        exact .inr (follows_of_submitted h.trail hrecord' hself hversion hselects)
    · refine .inr ?_
      split
      · exact hfollows.submitted h.trail hrecord' (hsame record hrecord')
      · exact hfollows

/-! ### A start of the service -/

/-- The startup writes are queued, with all they select. -/
lemma foldl_submitWrite_queued {writes : List DesiredDeviceWrite} {w : WorkerLoop}
    {field : DeviceField} (haccepting : w.accepting = true)
    (h : w.deviceSide.Queues deviceId field ∨
      ∃ write ∈ writes, write.deviceId = deviceId ∧ write.selects field = true) :
    (writes.foldl WorkerLoop.submitWrite w).deviceSide.Queues deviceId field := by
  induction writes generalizing w with
  | nil =>
      rcases h with hqueued | ⟨write, hnil, -⟩
      · exact hqueued
      · cases hnil
  | cons write writes ih =>
      have hmerged : (w.submitWrite write).deviceSide = w.deviceSide.mergeWrite write := by
        rw [WorkerLoop.submitWrite, haccepting]
        rfl
      have haccepts : (w.submitWrite write).accepting = true := by
        rw [WorkerLoop.submitWrite, haccepting]
        exact haccepting
      refine ih haccepts ?_
      rw [hmerged]
      rcases h with hqueued | ⟨other, hmem, rfl, hselects⟩
      · exact .inl (hqueued.merge write)
      · rcases List.mem_cons.mp hmem with rfl | hmem
        · obtain ⟨merged, hlookup, hselected, -⟩ := merge_queued w.deviceSide hselects
          exact .inl ⟨merged, hlookup, hselected⟩
        · exact .inr ⟨other, hmem, rfl, hselects⟩

/-- **A start of the service**: what has changed since the rows were read is queued. -/
lemma start_followed {t : DeviceTables} {records : List DeviceRecord}
    (hrecords : t.loadDevices = .ok records) (systemNow : TimePoint) (now : Option TimePoint) :
    FollowedRecords ⟨.fresh cfg records systemNow now, t⟩ := by
  have hkeys : RolesIndexed (DeviceRegistry.empty.load records).2 :=
    load_rolesIndexed empty_rolesIndexed records
  have hpending : ∀ write, (DeviceSystem.mk (.fresh cfg records systemNow now) t).side.Pending
      write → ∃ mutation ∈ ((DeviceRegistry.empty.load records).2.expireInactive systemNow
        cfg.offlineTimeout).1, SameVersion write (statusWrite mutation.record) := by
    intro write hwrite
    obtain ⟨old, hold, hversion⟩ := foldl_submitWrite_pending hwrite
    rcases hold with (hhand | ⟨deviceId, hlookup⟩) | hmem
    · cases hhand
    · cases hlookup
    · obtain ⟨mutation, hmutation, rfl⟩ := List.mem_map.mp hmem
      exact ⟨mutation, hmutation, hversion⟩
  have hkeyed : (DeviceSystem.mk (.fresh cfg records systemNow now) t).side.Keyed := by
    refine foldl_submitWrite_keyed _ fun deviceId write hnone => ?_
    cases hnone
  have hfree : (DeviceSystem.mk (.fresh cfg records systemNow now) t).side.hand = .free :=
    congrArg (fun e : DeviceExchange => e.side.hand) (@fresh_exchange cfg records systemNow now)
  refine ⟨fun deviceId entry hentry => (by cases hentry), ⟨hkeyed, fun write hwrite => ?_⟩,
    fun deviceId record hrecord field => .inr ?_⟩
  · obtain ⟨mutation, hmutation, hversion⟩ := hpending write hwrite
    have htrails : Trails (loadDeviceSnapshot records systemNow cfg.offlineTimeout)
        (statusWrite mutation.record) :=
      ⟨rfl, mutation.record, expireInactive_changed hkeys hmutation, le_rfl, fun _ => rfl⟩
    exact htrails.version hversion
  · obtain ⟨old, hold, hnew⟩ := Option.map_eq_some_iff.mp ((Map.lookup_mapValues _
      (DeviceRegistry.empty.load records).2.records deviceId).symm.trans hrecord)
    obtain ⟨hmem, rfl⟩ := load_find_mem hold
    obtain ⟨columns, hselect, hread⟩ := loadDevices_mem hrecords hmem
    have hthere : t.stored old.deviceId field = some (old.stored field) := by
      rw [DeviceTables.stored, hselect, Option.map_some, (deviceFromRow_readAs hread).stored]
    have hid : record.deviceId = old.deviceId := by
      rw [← hnew]
      split
      · rfl
      · rfl
    refine ⟨fun write hwrite => ?_, fun write hwrite => ?_, ?_⟩
    · -- a queued write is the one of the device, which has expired
      obtain ⟨mutation, hmutation, hsame, -⟩ := hpending write (.inr ⟨_, hwrite⟩)
      have hfind := expireInactive_changed hkeys hmutation
      have hdevice : mutation.record.deviceId = old.deviceId :=
        (congrArg DeviceRecord.deviceId hsame).symm.trans ((hkeyed _ write hwrite).trans hid)
      rw [hdevice] at hfind
      rw [hsame]
      exact congrArg (fun found => DeviceRecord.stored found field)
        (Option.some_inj.mp (hfind.symm.trans hrecord))
    · rw [hfree] at hwrite
      cases hwrite
    · by_cases hinactive : DeviceRegistry.isInactive systemNow cfg.offlineTimeout old = true
      · rw [if_pos hinactive] at hnew
        subst hnew
        cases field with
        | status =>
            have hvalue : old ∈ (DeviceRegistry.empty.load records).2.records.values :=
              Map.mem_values.mpr ⟨_, hold⟩
            refine .inl (foldl_submitWrite_queued rfl
              (.inr ⟨statusWrite (DeviceRegistry.expired old), ?_, rfl, rfl⟩))
            exact List.mem_map.mpr ⟨_, List.mem_map.mpr
              ⟨old, List.mem_filter.mpr ⟨hvalue, hinactive⟩, rfl⟩, rfl⟩
        | _ => exact .inr (.inr hthere)
      · rw [if_neg hinactive] at hnew
        subst hnew
        exact .inr (.inr hthere)

/-- **In every run** of such steps the tables follow the directory. -/
theorem followed_of_reachable (h : ((deviceSystem wcfg cfg).restrict fun s input =>
    input.Undisturbed s ∧ input.Selects cfg s).Reachable s) : FollowedRecords s := by
  refine h.invariant (fun s h0 => ?_) fun s input hreach hs henabled => ?_
  · obtain ⟨systemNow, now, rfl⟩ := h0
    exact start_followed rfl systemNow now
  · obtain ⟨henabled, hundisturbed, hselects⟩ := henabled
    have hreachable := hreach.of_restrict
    have hservice := service_of_reachable hreachable
    have hregistry := registry_of_reachable hservice
    have hstored := stored_of_reachable hreachable
    have hcurrent := currentRecords_of_reachable hservice
    cases input with
    | runtime input committed =>
        cases input with
        | worker input =>
            exact worker_followed hs hstored (reachable_rolesIndexed hregistry) henabled
              hundisturbed
        | deliver =>
            obtain rfl : committed = false := henabled.2
            refine ⟨hs.dated, ⟨hs.trail.keyed, hs.trail.pending⟩,
              fun deviceId record hrecord field => ?_⟩
            exact (hs.follows deviceId record hrecord field).imp_right fun hfollows =>
              hfollows.frame rfl (fun _ => .rfl) fun _ hthere => hthere
        | service input =>
            by_cases hwrite : ∃ outcome now, input = .write outcome now
            · obtain ⟨outcome, now, rfl⟩ := hwrite
              exact write_followed hs hcurrent (reachable_rolesIndexed hregistry) henabled
            · exact service_followed hs hstored hcurrent hregistry henabled hundisturbed hselects
                fun outcome now hinput => hwrite ⟨outcome, now, hinput⟩
    | restart systemNow now =>
        obtain ⟨records, hrecords, -⟩ := henabled
        simp only [Machine.restrict, deviceSystem, SystemInput.apply, hrecords]
        exact start_followed hrecords systemNow now

end

end CnsServer
