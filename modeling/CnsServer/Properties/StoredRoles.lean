/-
The two rules for the roles of the devices: the constraint of the tables, and the index
of the directory.

* `foldlM_addRecord_ok`: a list of records is loaded if and only if no two of them share
  a device or a role;
* `SchoollessApart`: no two rows without a school share a label, which the constraint
  does not ask for;
* `load_ok_iff`: **the directory loads the tables if and only if this is so**.
-/
import CnsServer.Device.Mutations
import CnsServer.Library.Index
import CnsServer.Store.DeviceRows

namespace CnsServer

open DeviceRegistry Index

/-! ### Loading a list -/

/-- Two records share neither device nor role. -/
def DeviceRecord.Apart (record other : DeviceRecord) : Prop :=
  record.deviceId ≠ other.deviceId ∧ ∀ role ∈ record.role, other.role ≠ some role

/-- The directory has neither the device of the record nor its role. -/
def DeviceRegistry.HasRoomFor (devices : DeviceRegistry) (record : DeviceRecord) : Prop :=
  devices.records.lookup record.deviceId = none ∧
    ∀ role ∈ record.role, devices.roles.lookup role = none

section

variable {devices added : DeviceRegistry} {record : DeviceRecord} {duplicate conflict : String}

/-- A record is let in if and only if there is room for it. -/
lemma addRecord_ok_iff : (∃ added, addRecord duplicate conflict devices record = .ok added) ↔
    devices.HasRoomFor record := by
  rw [addRecord, HasRoomFor]
  by_cases hthere : (devices.records.lookup record.deviceId).isSome = true
  · rw [if_pos hthere]
    simp only [reduceCtorEq, exists_false, false_iff, not_and]
    intro hnone
    rw [hnone] at hthere
    cases hthere
  · rw [if_neg hthere]
    have hnone : devices.records.lookup record.deviceId = none := by simpa using hthere
    simp only [hnone, true_and]
    cases hlabel : record.dcdwLabel with
    | none =>
        have hrole : record.role = none := by rw [DeviceRecord.role, hlabel]; rfl
        simp [hrole]
    | some label =>
        have hrole : record.role = some (record.schoolId, label) := by
          rw [DeviceRecord.role, hlabel]; rfl
        dsimp only
        by_cases htaken : (devices.roles.lookup (record.schoolId, label)).isSome = true
        · rw [if_pos htaken, hrole]
          simp only [reduceCtorEq, exists_false, false_iff, Option.mem_def, Option.some_inj,
            forall_eq']
          intro hfree
          rw [hfree] at htaken
          cases htaken
        · rw [if_neg htaken, hrole]
          simpa using htaken

/-- What a record takes up. -/
lemma addRecord_lookup (h : addRecord duplicate conflict devices record = .ok added) :
    (∀ deviceId, added.records.lookup deviceId =
      if deviceId = record.deviceId then some record else devices.records.lookup deviceId) ∧
    ∀ role, added.roles.lookup role = none ↔
      devices.roles.lookup role = none ∧ record.role ≠ some role := by
  rw [addRecord] at h
  split at h
  · cases h
  cases hlabel : record.dcdwLabel with
  | none =>
      rw [hlabel] at h
      cases h
      have hrole : record.role = none := by rw [DeviceRecord.role, hlabel]; rfl
      exact ⟨fun deviceId => Map.lookup_insert_ite _ _ _ _, fun role => by simp [hrole]⟩
  | some label =>
      rw [hlabel] at h
      dsimp only at h
      have hrole : record.role = some (record.schoolId, label) := by
        rw [DeviceRecord.role, hlabel]; rfl
      split at h
      · cases h
      · cases h
        refine ⟨fun deviceId => Map.lookup_insert_ite _ _ _ _, fun role => ?_⟩
        rw [Map.lookup_insert_ite, hrole, ne_eq, Option.some_inj]
        by_cases hkey : role = (record.schoolId, label)
        · simp [hkey]
        · rw [if_neg hkey, and_iff_left fun heq => hkey heq.symm]

/-- **A list is loaded if and only if no two of its records share a device or a role**,
and there is room for each. -/
lemma foldlM_addRecord_ok (records : List DeviceRecord) (devices : DeviceRegistry) :
    (∃ loaded, records.foldlM (addRecord duplicate conflict) devices = .ok loaded) ↔
      records.Pairwise DeviceRecord.Apart ∧ ∀ record ∈ records, devices.HasRoomFor record := by
  induction records generalizing devices with
  | nil => simp [pure, Except.pure]
  | cons record records ih =>
      rw [List.foldlM_cons, List.pairwise_cons, List.forall_mem_cons]
      cases hadded : addRecord duplicate conflict devices record with
      | error message =>
          have hfull : ¬ devices.HasRoomFor record := by
            rw [← @addRecord_ok_iff devices record duplicate conflict, hadded]
            simp
          simp [bind, Except.bind, hfull]
      | ok added =>
          have hroom : devices.HasRoomFor record := addRecord_ok_iff.mp ⟨added, hadded⟩
          obtain ⟨hrecords, hroles⟩ := addRecord_lookup hadded
          -- there is room for another record if there was before, and it is apart from this one
          have hnext : ∀ other, added.HasRoomFor other ↔
              record.Apart other ∧ devices.HasRoomFor other := by
            intro other
            simp only [HasRoomFor, DeviceRecord.Apart, hrecords, hroles]
            constructor
            · rintro ⟨hdevice, hfree⟩
              split at hdevice
              · cases hdevice
              next hid =>
              refine ⟨⟨fun heq => hid heq.symm, fun role hrole hother => ?_⟩, hdevice,
                fun role hrole => (hfree role hrole).1⟩
              exact (hfree role hother).2 hrole
            · rintro ⟨⟨hid, hapart⟩, hdevice, hfree⟩
              rw [if_neg fun heq => hid heq.symm]
              exact ⟨hdevice, fun role hrole =>
                ⟨hfree role hrole, fun hself => hapart role hself hrole⟩⟩
          change (∃ loaded, records.foldlM (addRecord duplicate conflict) added = .ok loaded) ↔ _
          rw [ih added]
          simp only [hnext]
          constructor
          · rintro ⟨hpair, hall⟩
            exact ⟨⟨fun other hother => (hall other hother).1, hpair⟩, hroom,
              fun other hother => (hall other hother).2⟩
          · rintro ⟨⟨hapart, hpair⟩, -, hall⟩
            exact ⟨hpair, fun other hother => ⟨hapart other hother, hall other hother⟩⟩

/-- What stands in the directory once a list is loaded was there or is of the list. -/
lemma foldlM_addRecord_find {records : List DeviceRecord} {devices loaded : DeviceRegistry}
    (h : records.foldlM (addRecord duplicate conflict) devices = .ok loaded) {deviceId : String}
    {record : DeviceRecord} (hfind : loaded.find deviceId = some record) :
    devices.find deviceId = some record ∨ record ∈ records ∧ record.deviceId = deviceId := by
  induction records generalizing devices with
  | nil =>
      cases h
      exact .inl hfind
  | cons first records ih =>
      rw [List.foldlM_cons] at h
      cases hadded : addRecord duplicate conflict devices first with
      | error message =>
          rw [hadded] at h
          cases h
      | ok added =>
          rw [hadded] at h
          rcases ih h with hfound | ⟨hmem, hid⟩
          · have hlookup := (addRecord_lookup hadded).1 deviceId
            rw [← DeviceRegistry.find, hfound] at hlookup
            split at hlookup
            · next hid =>
                cases hlookup
                exact .inr ⟨List.mem_cons_self, hid.symm⟩
            · exact .inl hlookup.symm
          · exact .inr ⟨List.mem_cons_of_mem _ hmem, hid⟩

/-- A list that is refused changes nothing; what another one brings is of the list. -/
lemma load_find (devices : DeviceRegistry) (records : List DeviceRecord) :
    (devices.load records).2 = devices ∨ ∀ deviceId record,
      (devices.load records).2.find deviceId = some record →
        record ∈ records ∧ record.deviceId = deviceId := by
  rw [DeviceRegistry.load]
  split
  · next loaded hloaded =>
      refine .inr fun deviceId record hrecord => ?_
      rcases foldlM_addRecord_find hloaded hrecord with hempty | hmem
      · cases hempty
      · exact hmem
  · exact .inl rfl

/-- The directory of a new service loads a list without repetitions. -/
lemma load_ok (records : List DeviceRecord) :
    (DeviceRegistry.empty.load records).1 = .ok () ↔ records.Pairwise DeviceRecord.Apart := by
  have hroom : ∀ record ∈ records, DeviceRegistry.empty.HasRoomFor record := by
    intro record hrecord
    exact ⟨rfl, fun role hrole => rfl⟩
  have hloaded := @foldlM_addRecord_ok "加载设备目录发现重复 device_id: "
    "加载设备目录发现同校角色号冲突: " records DeviceRegistry.empty
  rw [and_iff_left hroom] at hloaded
  rw [← hloaded, DeviceRegistry.load]
  cases records.foldlM (addRecord "加载设备目录发现重复 device_id: "
      "加载设备目录发现同校角色号冲突: ") DeviceRegistry.empty with
  | ok loaded => simp
  | error message => simp

end

/-! ### Loading the tables -/

/-- The role of a row, as it is loaded: no school is school 0. -/
def DeviceRow.role (row : DeviceRow) : Option (ℤ × String) :=
  row.dcdwLabel.map fun label => (row.schoolId.getD 0, label)

/-- No two rows without a school share a label. -/
def DeviceTables.SchoollessApart (t : DeviceTables) : Prop :=
  ∀ deviceId row deviceId' row', t.devices.lookup deviceId = some row →
    t.devices.lookup deviceId' = some row' → deviceId ≠ deviceId' → row.schoolId = none →
      row'.schoolId = none → ∀ label ∈ row.dcdwLabel, row'.dcdwLabel ≠ some label

section

variable {t : DeviceTables}

/-- The rows of the tables are apart as they are loaded. -/
lemma rows_apart (h : t.SchoollessApart) {deviceId deviceId' : String} {row row' : DeviceRow}
    (hrow : t.devices.lookup deviceId = some row) (hrow' : t.devices.lookup deviceId' = some row')
    (hne : deviceId ≠ deviceId') {role : ℤ × String} (hrole : row.role = some role) :
    row'.role ≠ some role := by
  intro hrole'
  obtain ⟨label, hlabel, rfl⟩ := Option.map_eq_some_iff.mp hrole
  obtain ⟨label', hlabel', hsame⟩ := Option.map_eq_some_iff.mp hrole'
  obtain ⟨hschool, rfl⟩ := Prod.mk.inj hsame
  -- a school of a row has a positive number
  have hpositive : ∀ {other : String} {found : DeviceRow}, t.devices.lookup other = some found →
      ∀ schoolId ∈ found.schoolId, 0 < schoolId := by
    intro other found hfound schoolId hschoolId
    obtain ⟨name, hname⟩ := Option.isSome_iff_exists.mp
      (t.device_school other found hfound schoolId hschoolId)
    exact (t.school_ids schoolId name hname).1
  cases hs : row.schoolId with
  | none =>
      cases hs' : row'.schoolId with
      | none => exact h deviceId row deviceId' row' hrow hrow' hne hs hs' label' hlabel hlabel'
      | some schoolId' =>
          have hpos := hpositive hrow' schoolId' hs'
          simp only [hs, hs', Option.getD_some, Option.getD_none] at hschool
          omega
  | some schoolId =>
      have hpos := hpositive hrow schoolId hs
      cases hs' : row'.schoolId with
      | none =>
          simp only [hs, hs', Option.getD_some, Option.getD_none] at hschool
          omega
      | some schoolId' =>
          simp only [hs, hs', Option.getD_some] at hschool
          have hcollides := t.device_role deviceId row deviceId' row' hrow hrow' hne
          simp [DeviceRow.collides, hs, hs', hlabel, hlabel', hschool] at hcollides

/-- The columns of a device stand under it. -/
lemma select_some {deviceId : String} {columns : DeviceTables.DeviceColumns}
    (h : t.select deviceId = some columns) :
    columns.deviceId = deviceId ∧ t.devices.lookup deviceId = some columns.row ∧
      columns.schoolId = columns.row.schoolId.getD 0 := by
  rw [DeviceTables.select] at h
  split at h
  · next row state hrow hstate =>
      cases h
      exact ⟨rfl, hrow, rfl⟩
  · cases h

lemma readAs_role {columns : DeviceTables.DeviceColumns} {record : DeviceRecord}
    (h : ReadAs columns record) (hschool : columns.schoolId = columns.row.schoolId.getD 0) :
    record.role = columns.row.role := by
  rw [DeviceRecord.role, DeviceRow.role, h.dcdwLabel, h.schoolId, hschool]

/-- Rows that read are loaded, with their devices and roles. -/
lemma load_keys (hreads : t.Reads) {deviceIds : List String}
    (h : ∀ deviceId ∈ deviceIds, deviceId ∈ t.devices.keys) :
    ∃ records, (deviceIds.filterMap t.select).mapM deviceFromRow = .ok records ∧
      records.map (fun record => (record.deviceId, record.role)) =
        deviceIds.map fun deviceId => (deviceId, rolesOf DeviceRow.role t.devices deviceId) := by
  induction deviceIds with
  | nil => exact ⟨[], rfl, rfl⟩
  | cons deviceId deviceIds ih =>
      obtain ⟨records, hrecords, hkeys⟩ :=
        ih fun other hother => h other (List.mem_cons_of_mem _ hother)
      obtain ⟨row, hrow⟩ := Map.mem_keys_iff.mp (h deviceId List.mem_cons_self)
      obtain ⟨columns, hselect, hid, rfl, hschool, record, hrecord⟩ := hreads.select hrow
      have hread := deviceFromRow_readAs hrecord
      refine ⟨record :: records, ?_, ?_⟩
      · rw [List.filterMap_cons, hselect]
        simp only [List.mapM_cons, hrecord, hrecords, bind, Except.bind, pure, Except.pure]
      · rw [List.map_cons, List.map_cons, hkeys, hread.deviceId, hid, readAs_role hread hschool,
          rolesOf_eq DeviceRow.role hrow]

/-- **The directory loads the tables if and only if no two devices without a school share
a label.** -/
lemma load_ok_iff (hreads : t.Reads) :
    (∃ records, t.loadDevices = .ok records ∧ (DeviceRegistry.empty.load records).1 = .ok ()) ↔
      t.SchoollessApart := by
  have hperm : (t.devices.keys.insertionSort (· ≤ ·)).Perm t.devices.keys :=
    List.perm_insertionSort _ _
  have hnodup := hperm.nodup_iff.mpr t.devices.nodupKeys
  obtain ⟨records, hrecords, hkeys⟩ := load_keys hreads fun deviceId => hperm.mem_iff.mp
  have hload : (∃ records, t.loadDevices = .ok records ∧
      (DeviceRegistry.empty.load records).1 = .ok ()) ↔ records.Pairwise DeviceRecord.Apart := by
    rw [← load_ok]
    constructor
    · rintro ⟨found, hfound, hloaded⟩
      rw [DeviceTables.loadDevices, hrecords, Except.ok.injEq] at hfound
      exact hfound ▸ hloaded
    · exact fun hloaded => ⟨records, hrecords, hloaded⟩
  have hpair : records.Pairwise DeviceRecord.Apart ↔
      (t.devices.keys.insertionSort (· ≤ ·)).Pairwise fun deviceId other => deviceId ≠ other ∧
        ∀ role ∈ rolesOf DeviceRow.role t.devices deviceId,
          rolesOf DeviceRow.role t.devices other ≠ some role := by
    have hmapped := congrArg (List.Pairwise fun a b : String × Option (ℤ × String) =>
      a.1 ≠ b.1 ∧ ∀ role ∈ a.2, b.2 ≠ some role) hkeys
    rw [List.pairwise_map, List.pairwise_map] at hmapped
    exact iff_of_eq hmapped
  rw [hload, hpair]
  constructor
  · intro hapart deviceId row deviceId' row' hrow hrow' hne hs hs' label hlabel hlabel'
    have hmem : ∀ {other found}, t.devices.lookup other = some found →
        other ∈ t.devices.keys.insertionSort (· ≤ ·) :=
      fun hfound => hperm.mem_iff.mpr (Map.mem_keys_iff.mpr ⟨_, hfound⟩)
    have hrole : rolesOf DeviceRow.role t.devices deviceId = some (0, label) := by
      rw [rolesOf_eq DeviceRow.role hrow, DeviceRow.role, hlabel, hs]
      rfl
    have hrole' : rolesOf DeviceRow.role t.devices deviceId' = some (0, label) := by
      rw [rolesOf_eq DeviceRow.role hrow', DeviceRow.role, hlabel', hs']
      rfl
    have hsymm : Std.Symm fun deviceId other : String => deviceId ≠ other ∧
        ∀ role ∈ rolesOf DeviceRow.role t.devices deviceId,
          rolesOf DeviceRow.role t.devices other ≠ some role :=
      ⟨fun a b hab => ⟨hab.1.symm, fun role hb ha => hab.2 role ha hb⟩⟩
    exact (hapart.forall (hmem hrow) (hmem hrow') hne).2 (0, label) hrole hrole'
  · intro hapart
    refine hnodup.imp_of_mem fun {a b} ha hb hne => ⟨hne, fun role hrole => ?_⟩
    obtain ⟨row, hrow, hrow'⟩ := rolesOf_some.mp hrole
    intro hother
    obtain ⟨other, hlookup, hother'⟩ := rolesOf_some.mp hother
    exact rows_apart hapart hrow hlookup hne hrow' hother'

end

end CnsServer
