/-
The rows of the devices converge to the records of the directory.

* `DeviceSystem.Quiescent`: nothing is dirty, submitted, queued or in hand;
* `DeviceRegistry.expiring`: the devices that a scan expires;
* `loaded_expiring`: those of a restart, as the tables have them;
* `rows_converge`: in runs in which nothing is given up and each telemetry selects what it
  changes, **the rows of every device are its record in every quiescent state**, and a
  restart expires the devices that the directory would, up to the microsecond;
* `rows_diverge`: a device that stays online sends telemetry, and its row does not learn
  when it was last seen.
-/
import CnsServer.Invariants.FollowedRecords
import CnsServer.Properties.RegistryFrames
import CnsServer.Properties.RestartLoads
import CnsServer.Properties.SettledWrites

namespace CnsServer

open DeviceService

/-- Nothing is dirty, nothing is submitted, and the thread has no write in its queue or in
hand. -/
structure DeviceSystem.Quiescent (s : DeviceSystem) : Prop where
  clean : ∀ deviceId field, (s.runtime.service.dirty.fieldOf deviceId field).dirtyRevision = 0
  staged : s.runtime.service.phase.writes = []
  submitted : ∀ deviceId, s.runtime.service.submitted.lookup deviceId = none
  queue : ∀ write, ¬ s.side.Pending write

/-- The devices that a scan expires. -/
def DeviceRegistry.expiring (devices : DeviceRegistry) (now timeout : TimePoint) : List String :=
  (devices.expireInactive now timeout).1.map fun mutation => mutation.record.deviceId

/-- A scan at this time does with the device what it would with its row: the time an online
device was last seen and the stored one are on one side of the limit, and a device that the
directory does not know is not silent in its row. -/
def DeviceSystem.ExpiresAlike (s : DeviceSystem) (now timeout : TimePoint) (deviceId : String) :
    Prop :=
  match s.registry.find deviceId with
  | some record => record.status = .online → ∀ seen ∈ record.lastSeenAt,
      (timeout ≤ now - storedTime seen ↔ timeout ≤ now - seen)
  | none => ∀ columns ∈ s.tables.select deviceId, columns.state.status = .online →
      ∀ seen ∈ columns.state.lastSeenAt, now - seen * 1000 < timeout

section

variable {devices loaded : DeviceRegistry} {t : DeviceTables} {s : DeviceSystem}
  {now timeout : TimePoint} {deviceId duplicate conflict : String} {record : DeviceRecord}
  {records : List DeviceRecord}

/-! ### What expires -/

lemma mem_expiring (hkeys : RolesIndexed devices) :
    deviceId ∈ devices.expiring now timeout ↔ ∃ record, devices.find deviceId = some record ∧
      record.status = .online ∧ ∃ seen, record.lastSeenAt = some seen ∧ timeout ≤ now - seen := by
  simp only [DeviceRegistry.expiring, DeviceRegistry.expireInactive, List.map_map, List.mem_map,
    List.mem_filter, Map.mem_values]
  constructor
  · rintro ⟨record, ⟨⟨key, hrecord⟩, hinactive⟩, rfl⟩
    refine ⟨record, ?_, isInactive_iff.mp hinactive⟩
    rw [← hkeys.ids key record hrecord] at hrecord
    exact hrecord
  · rintro ⟨record, hrecord, hsilent⟩
    exact ⟨record, ⟨⟨deviceId, hrecord⟩, isInactive_iff.mpr hsilent⟩,
      hkeys.ids deviceId record hrecord⟩

/-! ### What is loaded -/

open DeviceRegistry in
/-- Whatever stands in a list that is loaded stands in the directory. -/
lemma foldlM_addRecord_mem {records : List DeviceRecord} {devices loaded : DeviceRegistry}
    (h : records.foldlM (addRecord duplicate conflict) devices = .ok loaded) :
    (∀ deviceId record, devices.find deviceId = some record →
        loaded.find deviceId = some record) ∧
      ∀ record ∈ records, loaded.find record.deviceId = some record := by
  induction records generalizing devices with
  | nil =>
      cases h
      exact ⟨fun _ _ hfind => hfind, fun record hnil => by cases hnil⟩
  | cons first records ih =>
      rw [List.foldlM_cons] at h
      cases hadded : addRecord duplicate conflict devices first with
      | error message =>
          rw [hadded] at h
          cases h
      | ok added =>
          rw [hadded] at h
          obtain ⟨hkept, hlisted⟩ := ih h
          have hlookup := (addRecord_lookup hadded).1
          have hroom := (addRecord_ok_iff.mp ⟨added, hadded⟩).1
          refine ⟨fun deviceId record hfind => hkept deviceId record ?_, fun record hmem => ?_⟩
          · refine (hlookup deviceId).trans ?_
            rw [if_neg]
            · exact hfind
            · rintro rfl
              rw [show devices.find first.deviceId = none from hroom] at hfind
              cases hfind
          · rcases List.mem_cons.mp hmem with rfl | hmem
            · exact hkept _ _ ((hlookup record.deviceId).trans (if_pos rfl))
            · exact hlisted record hmem

/-- A list that is loaded stands in the directory. -/
lemma load_mem (h : (DeviceRegistry.empty.load records).1 = .ok ()) (hrecord : record ∈ records) :
    (DeviceRegistry.empty.load records).2.find record.deviceId = some record := by
  rw [DeviceRegistry.load] at h ⊢
  split at h
  · next loaded hloaded =>
      exact (foldlM_addRecord_mem hloaded).2 record hrecord
  · cases h

/-- The rows of every device are loaded. -/
lemma loaded_select (hreads : t.Reads) (hrecords : t.loadDevices = .ok records)
    (hloads : (DeviceRegistry.empty.load records).1 = .ok ())
    {columns : DeviceTables.DeviceColumns} (hselect : t.select deviceId = some columns) :
    ∃ record, (DeviceRegistry.empty.load records).2.find deviceId = some record ∧
      ReadAs columns record := by
  have hperm : (t.devices.keys.insertionSort (· ≤ ·)).Perm t.devices.keys :=
    List.perm_insertionSort _ _
  obtain ⟨listed, hlisted, hkeys⟩ := load_keys hreads fun deviceId => hperm.mem_iff.mp
  rw [DeviceTables.loadDevices, hlisted, Except.ok.injEq] at hrecords
  subst hrecords
  have hmem : (deviceId, Index.rolesOf DeviceRow.role t.devices deviceId) ∈
      listed.map fun record => (record.deviceId, record.role) := by
    rw [hkeys]
    exact List.mem_map.mpr ⟨deviceId, hperm.mem_iff.mpr
      (Map.mem_keys_iff.mpr ⟨_, (select_some hselect).2.1⟩), rfl⟩
  obtain ⟨record, hrecord, hsame⟩ := List.mem_map.mp hmem
  obtain rfl : record.deviceId = deviceId := (Prod.mk.inj hsame).1
  refine ⟨record, load_mem hloads hrecord, ?_⟩
  obtain ⟨found, hfound, hread⟩ :=
    loadDevices_mem (by rw [DeviceTables.loadDevices, hlisted]) hrecord
  rw [hselect, Option.some_inj] at hfound
  exact hfound ▸ deviceFromRow_readAs hread

/-- The devices that a restart expires. -/
lemma loaded_expiring (hreads : t.Reads) (hrecords : t.loadDevices = .ok records)
    (hloads : (DeviceRegistry.empty.load records).1 = .ok ()) :
    deviceId ∈ (DeviceRegistry.empty.load records).2.expiring now timeout ↔
      ∃ columns, t.select deviceId = some columns ∧ columns.state.status = .online ∧
        ∃ seen, columns.state.lastSeenAt = some seen ∧ timeout ≤ now - seen * 1000 := by
  rw [mem_expiring (load_rolesIndexed empty_rolesIndexed records)]
  constructor
  · rintro ⟨record, hfind, honline, seen, hseen, hsilent⟩
    obtain ⟨hmem, rfl⟩ := load_find_mem hfind
    obtain ⟨columns, hselect, hcolumns⟩ := loadDevices_mem hrecords hmem
    have hread := deviceFromRow_readAs hcolumns
    rw [hread.lastSeenAt] at hseen
    obtain ⟨stored, hstored, rfl⟩ := Option.map_eq_some_iff.mp hseen
    exact ⟨columns, hselect, hread.status.symm.trans honline, stored, hstored, hsilent⟩
  · rintro ⟨columns, hselect, honline, seen, hseen, hsilent⟩
    obtain ⟨record, hfind, hread⟩ := loaded_select hreads hrecords hloads hselect
    refine ⟨record, hfind, hread.status.trans honline, seen * 1000, ?_, hsilent⟩
    rw [hread.lastSeenAt, hseen, Option.map_some]

/-- The status of a row that is the one of the record. -/
lemma status_of_stored (h : t.stored deviceId .status = some (record.stored .status)) :
    ∃ columns, t.select deviceId = some columns ∧ columns.state.status = record.status ∧
      columns.state.lastSeenAt = record.lastSeenAt.map toUnixMicroseconds := by
  obtain ⟨columns, hselect, hsame⟩ := Option.map_eq_some_iff.mp h
  obtain ⟨hstatus, hseen⟩ := StoredColumns.status.inj hsame
  exact ⟨columns, hselect, hstatus, hseen⟩

/-- With the rows of its record, a device expires in both or in neither, up to the
microsecond. -/
lemma expiring_iff (hkeys : RolesIndexed s.registry) (hreads : s.tables.Reads)
    (hrows : ∀ record, s.registry.find deviceId = some record →
      s.tables.stored deviceId .status = some (record.stored .status))
    (hrecords : s.tables.loadDevices = .ok records)
    (hloads : (DeviceRegistry.empty.load records).1 = .ok ()) :
    (deviceId ∈ (DeviceRegistry.empty.load records).2.expiring now timeout ↔
        deviceId ∈ s.registry.expiring now timeout) ↔ s.ExpiresAlike now timeout deviceId := by
  rw [loaded_expiring hreads hrecords hloads, mem_expiring hkeys, DeviceSystem.ExpiresAlike]
  cases hfind : s.registry.find deviceId with
  | none =>
      constructor
      · intro hsame columns hselect honline seen hseen
        by_contra hsilent
        obtain ⟨record, hnone, -⟩ :=
          hsame.mp ⟨columns, hselect, honline, seen, hseen, not_lt.mp hsilent⟩
        cases hnone
      · intro halike
        constructor
        · rintro ⟨columns, hselect, honline, seen, hseen, hsilent⟩
          exact absurd (halike columns hselect honline seen hseen) (not_lt.mpr hsilent)
        · rintro ⟨record, hnone, -⟩
          cases hnone
  | some record =>
      obtain ⟨columns, hselect, hstatus, hlast⟩ := status_of_stored (hrows record hfind)
      have hloaded : (∃ columns, s.tables.select deviceId = some columns ∧
          columns.state.status = .online ∧ ∃ seen, columns.state.lastSeenAt = some seen ∧
            timeout ≤ now - seen * 1000) ↔ record.status = .online ∧
              ∃ seen, record.lastSeenAt = some seen ∧ timeout ≤ now - storedTime seen := by
        constructor
        · rintro ⟨found, hfound, honline, stored, hstored, hsilent⟩
          rw [hselect, Option.some_inj] at hfound
          subst hfound
          rw [hlast] at hstored
          obtain ⟨seen, hseen, rfl⟩ := Option.map_eq_some_iff.mp hstored
          exact ⟨hstatus.symm.trans honline, seen, hseen, hsilent⟩
        · rintro ⟨honline, seen, hseen, hsilent⟩
          exact ⟨columns, hselect, hstatus.trans honline, toUnixMicroseconds seen,
            by rw [hlast, hseen, Option.map_some], hsilent⟩
      rw [hloaded]
      constructor
      · intro hsame honline seen hseen
        constructor
        · intro hsilent
          obtain ⟨found, hfound, -, other, hother, hle⟩ :=
            hsame.mp ⟨honline, seen, hseen, hsilent⟩
          cases hfound
          cases hseen.symm.trans hother
          exact hle
        · intro hsilent
          obtain ⟨-, other, hother, hle⟩ :=
            hsame.mpr ⟨record, rfl, honline, seen, hseen, hsilent⟩
          cases hseen.symm.trans hother
          exact hle
      · intro halike
        constructor
        · rintro ⟨honline, seen, hseen, hsilent⟩
          exact ⟨record, rfl, honline, seen, hseen, (halike honline seen hseen).mp hsilent⟩
        · rintro ⟨found, hfound, honline, seen, hseen, hsilent⟩
          cases hfound
          exact ⟨honline, seen, hseen, (halike honline seen hseen).mpr hsilent⟩

end

/-! ### Runs -/

/-- **In every quiescent state** of a run in which nothing is given up and each telemetry
selects what it changes, each device of the directory has its record in the tables, column
by column.  The directory loads the tables exactly if no two devices without a school share
a label; and then a scan of the restarted directory expires a device if and only if the
running one does, exactly if the time the device was last seen and its stored time are on
one side of the limit, or the device is unknown and not silent in its row. -/
theorem rows_converge {wcfg : WorkerConfig} {cfg : DeviceServiceConfig} {s : DeviceSystem}
    (h : ((deviceSystem wcfg cfg).restrict fun s input =>
      input.Undisturbed s ∧ input.Selects cfg s).Reachable s) (hquiet : s.Quiescent) :
    (∀ deviceId record, s.registry.find deviceId = some record → ∀ field,
        s.tables.stored deviceId field = some (record.stored field)) ∧
      ((∃ records, s.tables.loadDevices = .ok records ∧
        (DeviceRegistry.empty.load records).1 = .ok ()) ↔ s.tables.SchoollessApart) ∧
      ∀ records, s.tables.loadDevices = .ok records →
        (DeviceRegistry.empty.load records).1 = .ok () → ∀ now timeout deviceId,
          (deviceId ∈ (DeviceRegistry.empty.load records).2.expiring now timeout ↔
              deviceId ∈ s.registry.expiring now timeout) ↔
            s.ExpiresAlike now timeout deviceId := by
  have hreachable := h.of_restrict
  have hkeys := reachable_rolesIndexed (registry_of_reachable (service_of_reachable hreachable))
  have hreads := (stored_of_reachable hreachable).reads
  have hfollowed := followed_of_reachable h
  have hrows : ∀ deviceId record, s.registry.find deviceId = some record → ∀ field,
      s.tables.stored deviceId field = some (record.stored field) := by
    intro deviceId record hrecord field
    obtain rfl : record.deviceId = deviceId := hkeys.ids deviceId record hrecord
    rcases hfollowed.follows record.deviceId record hrecord field with
      (hdirty | ⟨write, hwrite, -⟩) | hfollows
    · exact absurd (hquiet.clean record.deviceId field) hdirty
    · rw [show s.runtime.service.book.staged = [] from hquiet.staged] at hwrite
      cases hwrite
    · rcases hfollows.stored with ⟨write, hqueued, -⟩ | ⟨write, hhand, -⟩ | hthere
      · exact absurd (.inr ⟨_, hqueued⟩) (hquiet.queue write)
      · exact absurd (.inl hhand) (hquiet.queue write)
      · exact hthere
  refine ⟨hrows, load_ok_iff hreads, fun records hrecords hloads now timeout deviceId => ?_⟩
  exact expiring_iff hkeys hreads (fun record hrecord => hrows deviceId record hrecord .status)
    hrecords hloads

/-! ### Two runs -/

/-- Nothing is on its way, as it is computed. -/
def DeviceSystem.isQuiescent (s : DeviceSystem) : Bool :=
  s.runtime.service.dirty.entries.values.all (fun entry => !entry.hasDirty) &&
    s.runtime.service.phase.writes.isEmpty && s.runtime.service.submitted.keys.isEmpty &&
    s.runtime.worker.writes.keys.isEmpty &&
    match s.runtime.worker.hand with
    | .write _ => false
    | _ => true

/-- A map without keys has nothing in it. -/
lemma lookup_of_keys {V : Type} {m : Map String V} (h : m.keys = []) (key : String) :
    m.lookup key = none := by
  refine AList.lookup_eq_none.mpr fun hmem => ?_
  rw [AList.mem_keys, h] at hmem
  cases hmem

lemma quiescent_of {s : DeviceSystem} (h : s.isQuiescent = true) : s.Quiescent := by
  simp only [DeviceSystem.isQuiescent, Bool.and_eq_true, List.isEmpty_iff] at h
  obtain ⟨⟨⟨⟨hclean, hstaged⟩, hsubmitted⟩, hwrites⟩, hhand⟩ := h
  refine ⟨clean_of_all _ hclean, hstaged, lookup_of_keys hsubmitted, fun write hpending => ?_⟩
  rcases hpending with hinhand | ⟨deviceId, hlookup⟩
  · rw [DeviceSystem.side, WorkerLoop.deviceSide] at hinhand
    cases hworker : s.runtime.worker.hand with
    | write desired =>
        rw [hworker] at hhand
        cases hhand
    | _ =>
        rw [hworker] at hinhand
        cases hinhand
  · rw [show s.side.writes.lookup deviceId = none from lookup_of_keys hwrites deviceId] at hlookup
    cases hlookup

/-- A step of the service may come at any time. -/
lemma service_moment_enabled {cfg : DeviceServiceConfig} {s : SourceSystem} {input : DeviceInput}
    {committed : Bool} (h : (SourceInput.runtime (.service input) committed).Enabled cfg s)
    (now : TimePoint) :
    (SourceInput.runtime (.service (input.moment cfg s.devices.runtime.service now))
      committed).Enabled cfg s := by
  obtain ⟨⟨⟨henabled, hanswer, hdone, hcall⟩, hstored⟩, hsource⟩ := h
  refine ⟨⟨⟨moment_enabled henabled now, ?_, ?_, ?_⟩, ?_⟩, hsource⟩
  · cases input with
    | _ => exact hanswer
  · cases input with
    | resultsDone => exact hdone
    | _ => exact fun hnone => by cases hnone
  · cases input with
    | _ => exact hcall
  · cases input with
    | _ => exact hstored

namespace Sample

/-- The service among devices of which `a` sends telemetry. -/
def rowsConfig : DeviceServiceConfig where
  parseJson payload := (("ta", telemetryBody "a") :: samplePayloads).lookup payload

/-- The next step, at a time of the steady clock. -/
def rowsInput (s : SourceSystem) (cue : TimePoint × SourceCue) : SourceInput :=
  match cue.2.input rowsConfig s with
  | .runtime (.service input) committed =>
      .runtime (.service (input.moment rowsConfig s.devices.runtime.service cue.1)) committed
  | input => input

lemma rowsInput_enabled (s : SourceSystem) (cue : TimePoint × SourceCue) :
    (rowsInput s cue).Enabled rowsConfig s := by
  have henabled : (cue.2.input rowsConfig s).Enabled rowsConfig s := cue.2.input_enabled
  rw [rowsInput]
  split
  · next input committed hinput =>
      rw [hinput] at henabled
      exact service_moment_enabled henabled cue.1
  · exact henabled

def rowsStarted : SourceSystem :=
  .start ⟨.fresh rowsConfig [] 0 (some 0), .empty⟩ (SourceTable.empty.disable [])

def performRows (cues : List (TimePoint × SourceCue)) : DeviceSystem :=
  ((sourceSystem {} rowsConfig).follow rowsInput rowsStarted cues).devices

/-- A run of steps that meet a condition. -/
lemma reachable_performRows {ok : DeviceSystem → SystemInput → Prop}
    {cues : List (TimePoint × SourceCue)}
    (hok : (sourceSystem {} rowsConfig).Meets rowsInput
      (fun s input => ok s.devices input.system) rowsStarted cues) :
    ((deviceSystem {} rowsConfig).restrict ok).Reachable (performRows cues) := by
  refine devices_of_restrict (Machine.Reachable.follow ?_ rowsInput_enabled hok)
  exact .start ⟨[], 0, some 0, _, rfl, rfl⟩

/-- Device `a` is provisioned, and the write of its registration is completed. -/
def settledCues : List SourceCue :=
  provisionCues ++ List.replicate 8 (.service .go) ++ List.replicate 3 .thread ++
    List.replicate 3 (.service .go)

/-- The service goes on, its write is executed, and the result is handled. -/
def batchCues : List SourceCue :=
  List.replicate 7 (.service .go) ++ List.replicate 3 .thread ++ List.replicate 2 (.service .go)

/-- Then the device sends telemetry, which is written six seconds later. -/
def rowsCues (receivedAt : TimePoint) : List (TimePoint × SourceCue) :=
  settledCues.map (fun cue => (0, cue)) ++
    (1000000000, .service (.receive { sampleTelemetry "a" "ta" with receivedAt := receivedAt })) ::
      batchCues.map fun cue => (7000000000, cue)

end Sample

/-- A telemetry of the microsecond in which the device was last seen. -/
theorem rows_converge_written :
    ∃ record, (Sample.performRows (Sample.rowsCues 0)).registry.find "a" = some record ∧
      ∀ field, (Sample.performRows (Sample.rowsCues 0)).tables.stored "a" field =
        some (record.stored field) := by
  have hknown : ((Sample.performRows (Sample.rowsCues 0)).registry.find "a").isSome = true := by
    decide +kernel
  obtain ⟨record, hrecord⟩ := Option.isSome_iff_exists.mp hknown
  have hreach : ((deviceSystem {} Sample.rowsConfig).restrict fun s input =>
      input.Undisturbed s ∧ input.Selects Sample.rowsConfig s).Reachable
        (Sample.performRows (Sample.rowsCues 0)) :=
    Sample.reachable_performRows (by decide +kernel)
  exact ⟨record, hrecord,
    (rows_converge hreach (quiescent_of (by decide +kernel))).1 "a" record hrecord⟩

/-- Device `a` is seen a second later: in the quiescent state its row does not have that, and
after a restart a scan expires it that would not have. -/
theorem rows_diverge :
    ((deviceSystem {} Sample.rowsConfig).restrict fun s input => input.Undisturbed s).Reachable
        (Sample.performRows (Sample.rowsCues 1000000000)) ∧
      (Sample.performRows (Sample.rowsCues 1000000000)).Quiescent ∧
      (¬ ∀ deviceId record,
        (Sample.performRows (Sample.rowsCues 1000000000)).registry.find deviceId = some record →
          ∀ field, (Sample.performRows (Sample.rowsCues 1000000000)).tables.stored deviceId field =
            some (record.stored field)) ∧
      (match (Sample.performRows (Sample.rowsCues 1000000000)).tables.loadDevices with
        | .ok records => (DeviceRegistry.empty.load records).1.isOk &&
            decide ("a" ∈ (DeviceRegistry.empty.load records).2.expiring
              Sample.rowsConfig.offlineTimeout Sample.rowsConfig.offlineTimeout)
        | .error _ => false) = true ∧
      "a" ∉ (Sample.performRows (Sample.rowsCues 1000000000)).registry.expiring
        Sample.rowsConfig.offlineTimeout Sample.rowsConfig.offlineTimeout := by
  refine ⟨Sample.reachable_performRows (by decide +kernel), quiescent_of (by decide +kernel),
    fun hrows => ?_, by decide +kernel, by decide +kernel⟩
  have hseen : ((Sample.performRows (Sample.rowsCues 1000000000)).registry.find "a").map
      DeviceRecord.lastSeenAt = some (some 1000000000) := by
    decide +kernel
  have hstored : ((Sample.performRows (Sample.rowsCues 1000000000)).tables.select "a").map
      (fun columns => columns.state.lastSeenAt) = some (some 0) := by
    decide +kernel
  obtain ⟨record, hrecord, hlast⟩ := Option.map_eq_some_iff.mp hseen
  obtain ⟨columns, hselect, -, hsame⟩ := status_of_stored (hrows "a" record hrecord .status)
  rw [hselect, Option.map_some, hsame, hlast] at hstored
  cases hstored

end CnsServer
