/-
The two role indexes of the device directory.

* `registryMachine`: a directory under any sequence of its five operations,
  whether they succeed or fail;
* `RolesIndexed`: the invariant: a record stands under its own device id, `roles`
  is the index of the roles by school id, `namedRoles` the one by school name;
* `addRecord_rolesIndexed`, `replace_rolesIndexed`: the two ways a record gets
  into the maps;
* `rolesIndexed_of_reachable`: **the representation invariant**, with the lookups
  as scans of all records.
-/
import CnsServer.Library.Index
import CnsServer.Library.Machine
import CnsServer.Device.Mutations

namespace CnsServer

/-! ### Any use of a directory -/

/-- An operation on the directory. -/
inductive RegistryInput where
  | load (records : List DeviceRecord)
  | addProvisioned (record : DeviceRecord)
  | registration (registration : Registration) (receivedAt : TimePoint)
  | telemetry (deviceId : String) (telemetry : Telemetry) (receivedAt : TimePoint)
  | expireInactive (now timeout : TimePoint)

/-- The directory after an operation. -/
def DeviceRegistry.next (devices : DeviceRegistry) : RegistryInput → DeviceRegistry
  | .load records => (devices.load records).2
  | .addProvisioned record => (devices.addProvisioned record).2
  | .registration registration receivedAt => (devices.applyRegistration registration receivedAt).2
  | .telemetry deviceId telemetry receivedAt =>
      (devices.applyTelemetry deviceId telemetry receivedAt).2
  | .expireInactive now timeout => (devices.expireInactive now timeout).2

/-- An empty directory and any sequence of operations. -/
def registryMachine : Machine DeviceRegistry RegistryInput where
  init devices := devices = .empty
  enabled _ _ := True
  next := DeviceRegistry.next

/-! ### The invariant -/

open DeviceRegistry Index

/-- A record stands under its own id, and both role maps are indexes of the
records. -/
structure RolesIndexed (devices : DeviceRegistry) : Prop where
  ids : ∀ deviceId record, devices.records.lookup deviceId = some record →
    record.deviceId = deviceId
  roles : Unique (rolesOf DeviceRecord.role devices.records) devices.roles
  named : Grouped (rolesOf DeviceRecord.namedRole devices.records) devices.namedRoles

lemma empty_rolesIndexed : RolesIndexed .empty := by
  refine ⟨fun deviceId record h => ?_, ?_, ?_⟩
  · cases h
  · exact .empty
  · exact .empty

section

variable {devices : DeviceRegistry}

/-- A record is stored under its own id. -/
lemma ids_insert (hinv : RolesIndexed devices) (record : DeviceRecord) {deviceId : String}
    {found : DeviceRecord}
    (h : (devices.records.insert record.deviceId record).lookup deviceId = some found) :
    found.deviceId = deviceId := by
  rcases Map.lookup_insert_some.mp h with ⟨rfl, rfl⟩ | ⟨-, h⟩
  · rfl
  · exact hinv.ids deviceId found h

lemma addNamedRole_grouped {records : Map String DeviceRecord}
    {namedRoles : Map (String × String) (List String)} {record : DeviceRecord}
    {key : String × String} (hkey : record.namedRole = some key)
    (h : Grouped (rolesOf DeviceRecord.namedRole records) namedRoles)
    (hnone : rolesOf DeviceRecord.namedRole records record.deviceId = none) :
    Grouped (rolesOf DeviceRecord.namedRole (records.insert record.deviceId record))
      (addNamedRole namedRoles record) := by
  rw [rolesOf_insert, hkey]
  simp only [addNamedRole, hkey]
  exact h.add key hnone

/-- A record that is let in keeps the indexes. -/
lemma addRecord_rolesIndexed (hinv : RolesIndexed devices) {duplicate conflict : String}
    {record : DeviceRecord} {added : DeviceRegistry}
    (h : addRecord duplicate conflict devices record = .ok added) : RolesIndexed added := by
  unfold addRecord at h
  split at h
  · cases h
  next hnew =>
  rw [Bool.not_eq_true, Option.isSome_eq_false_iff, Option.isNone_iff_eq_none] at hnew
  have hrole : rolesOf DeviceRecord.role devices.records record.deviceId = none := by
    rw [rolesOf, hnew, Option.bind_none]
  have hnamed : rolesOf DeviceRecord.namedRole devices.records record.deviceId = none := by
    rw [rolesOf, hnew, Option.bind_none]
  split at h
  · next hlabel =>
      cases h
      have hnoRole : record.role = none := by rw [DeviceRecord.role, hlabel, Option.map_none]
      have hnoNamed : record.namedRole = none := by
        rw [DeviceRecord.namedRole, hlabel, Option.map_none]
      refine ⟨fun deviceId found => ids_insert hinv record, ?_, ?_⟩
      · rw [rolesOf_insert, hnoRole, ← hrole, Function.update_eq_self]
        exact hinv.roles
      · rw [rolesOf_insert, hnoNamed, ← hnamed, Function.update_eq_self]
        exact hinv.named
  · next label hlabel =>
      split at h
      · cases h
      next hfree =>
      rw [Bool.not_eq_true, Option.isSome_eq_false_iff, Option.isNone_iff_eq_none] at hfree
      cases h
      have hsome : record.role = some (record.schoolId, label) := by
        rw [DeviceRecord.role, hlabel, Option.map_some]
      have hsomeNamed : record.namedRole = some (record.schoolName, label) := by
        rw [DeviceRecord.namedRole, hlabel, Option.map_some]
      refine ⟨fun deviceId found => ids_insert hinv record, ?_, ?_⟩
      · rw [rolesOf_insert, hsome]
        exact hinv.roles.add hrole hfree
      · exact addNamedRole_grouped hsomeNamed hinv.named hnamed

/-- What a report may do to the role of its device: nothing, or exchange it for a
free one. -/
def RoleChange.IsFor (devices : DeviceRegistry) (record : DeviceRecord) (change : RoleChange) :
    Prop :=
  (change.label = record.dcdwLabel ∧ change.oldRole = none ∧ change.newRole = none) ∨
    ∃ label, devices.roles.lookup (record.schoolId, label) = none ∧ change.label = some label ∧
      change.oldRole = record.role ∧ change.newRole = some (record.schoolId, label)

lemma claimRole_isFor (hinv : RolesIndexed devices) {deviceId : String} {record : DeviceRecord}
    (hrecord : devices.records.lookup deviceId = some record) {label : String}
    (hlabel : record.dcdwLabel ≠ some label) :
    (devices.claimRole record label).IsFor devices record := by
  rw [claimRole]
  split
  · next hfree => exact .inr ⟨label, hfree, rfl, rfl, rfl⟩
  · next owner howner =>
      split
      · exact .inl ⟨rfl, rfl, rfl⟩
      · next hself =>
          -- the index says that the device already has the label it asks for
          rw [not_not] at hself
          have hrole := (hinv.roles _ _).mp howner
          rw [hself, hinv.ids deviceId record hrecord, rolesOf_eq _ hrecord] at hrole
          refine absurd ?_ hlabel
          cases hlab : record.dcdwLabel with
          | none => rw [DeviceRecord.role, hlab] at hrole; cases hrole
          | some text =>
              rw [DeviceRecord.role, hlab, Option.map_some, Option.some_inj, Prod.mk.injEq] at hrole
              rw [hrole.2]

lemma registrationRole_isFor (hinv : RolesIndexed devices) {deviceId : String}
    {record : DeviceRecord} (hrecord : devices.records.lookup deviceId = some record)
    (registration : Registration) :
    (devices.registrationRole record registration).IsFor devices record := by
  rw [registrationRole]
  split
  · exact .inl ⟨rfl, rfl, rfl⟩
  · split
    · exact .inl ⟨rfl, rfl, rfl⟩
    · next hlabel => exact claimRole_isFor hinv hrecord hlabel

lemma telemetryRole_isFor (hinv : RolesIndexed devices) {deviceId : String}
    {record : DeviceRecord} (hrecord : devices.records.lookup deviceId = some record)
    (telemetry : Telemetry) : (devices.telemetryRole record telemetry).IsFor devices record := by
  rw [telemetryRole]
  split
  · next hnone _ =>
      refine claimRole_isFor hinv hrecord fun hlabel => ?_
      rw [hnone] at hlabel
      cases hlabel
  · exact .inl ⟨rfl, rfl, rfl⟩

/-- The old named role is gone before the new one comes. -/
lemma removeNamedRole_grouped (hinv : RolesIndexed devices) {record : DeviceRecord}
    (hrecord : devices.records.lookup record.deviceId = some record) :
    Grouped (Function.update (rolesOf DeviceRecord.namedRole devices.records) record.deviceId none)
      (removeNamedRole devices.namedRoles record) := by
  have hrole := rolesOf_eq DeviceRecord.namedRole hrecord
  rw [removeNamedRole]
  split
  · next hnone =>
      rw [← hnone, ← hrole, Function.update_eq_self]
      exact hinv.named
  · next key hkey =>
      rw [hkey] at hrole
      have hmem := (hinv.named.mem key record.deviceId).mpr hrole
      split
      · next hix =>
          rw [hix] at hmem
          cases hmem
      · next deviceIds hix => exact hinv.named.remove hrole hix

/-- A record without a label has no named role to give up. -/
lemma removeNamedRole_role (namedRoles : Map (String × String) (List String))
    (record : DeviceRecord) :
    (if record.role.isSome then removeNamedRole namedRoles record else namedRoles) =
      removeNamedRole namedRoles record := by
  split
  · rfl
  · next hnone =>
      have hlabel : record.dcdwLabel = none := by simpa [DeviceRecord.role] using hnone
      simp only [removeNamedRole, DeviceRecord.namedRole, hlabel, Option.map_none]

/-- A report that is swapped in keeps the indexes. -/
lemma replace_rolesIndexed (hinv : RolesIndexed devices) {record newRecord : DeviceRecord}
    {change : RoleChange} (hrecord : devices.records.lookup record.deviceId = some record)
    (hchange : change.IsFor devices record) (hid : newRecord.deviceId = record.deviceId)
    (hschool : newRecord.schoolId = record.schoolId)
    (hname : newRecord.schoolName = record.schoolName)
    (hlabel : newRecord.dcdwLabel = change.label) :
    RolesIndexed (devices.replace record newRecord change) := by
  have hrole := rolesOf_eq DeviceRecord.role hrecord
  have hnamed := rolesOf_eq DeviceRecord.namedRole hrecord
  have hids : ∀ deviceId found,
      (devices.records.insert record.deviceId newRecord).lookup deviceId = some found →
        found.deviceId = deviceId := by
    rw [← hid]
    exact fun deviceId found => ids_insert hinv newRecord
  rcases hchange with ⟨hkeep, hold, hnew⟩ | ⟨label, hfree, htaken, hold, hnew⟩
  · rw [hkeep] at hlabel
    have hsame : newRecord.role = record.role := by
      rw [DeviceRecord.role, DeviceRecord.role, hlabel, hschool]
    have hsameNamed : newRecord.namedRole = record.namedRole := by
      rw [DeviceRecord.namedRole, DeviceRecord.namedRole, hlabel, hname]
    rw [replace]
    rw [hold, hnew]
    refine ⟨hids, ?_, ?_⟩
    · rw [rolesOf_insert, hsame, ← hrole, Function.update_eq_self]
      exact hinv.roles
    · rw [rolesOf_insert, hsameNamed, ← hnamed, Function.update_eq_self]
      exact hinv.named
  · rw [htaken] at hlabel
    have hsome : newRecord.role = some (record.schoolId, label) := by
      rw [DeviceRecord.role, hlabel, hschool, Option.map_some]
    have hsomeNamed : newRecord.namedRole = some (record.schoolName, label) := by
      rw [DeviceRecord.namedRole, hlabel, hname, Option.map_some]
    rw [replace]
    rw [hnew]
    refine ⟨hids, ?_, ?_⟩
    · rw [rolesOf_insert, hsome, hold]
      cases holdRole : record.role with
      | none => exact hinv.roles.add (hrole.trans holdRole) hfree
      | some key => exact hinv.roles.move (hrole.trans holdRole) hfree
    · have hremoved := removeNamedRole_grouped hinv hrecord
      have hadded := hremoved.add (record.schoolName, label) (Function.update_self _ _ _)
      rw [Function.update_idem] at hadded
      rw [rolesOf_insert, hsomeNamed, hold, removeNamedRole_role]
      simp only [Option.isSome_some, if_true, addNamedRole, hsomeNamed, hid]
      exact hadded

/-- The status, the times, the telemetry and the revision of a record play no part
in the indexes. -/
lemma mapValues_rolesIndexed (hinv : RolesIndexed devices) {f : DeviceRecord → DeviceRecord}
    (hid : ∀ record, (f record).deviceId = record.deviceId)
    (hrole : ∀ record, (f record).role = record.role)
    (hnamed : ∀ record, (f record).namedRole = record.namedRole) :
    RolesIndexed { devices with records := devices.records.mapValues f } := by
  refine ⟨fun deviceId record h => ?_, ?_, ?_⟩
  · rw [Map.lookup_mapValues, Option.map_eq_some_iff] at h
    obtain ⟨before, hbefore, rfl⟩ := h
    rw [hid, hinv.ids deviceId before hbefore]
  · rw [rolesOf_mapValues hrole]
    exact hinv.roles
  · rw [rolesOf_mapValues hnamed]
    exact hinv.named

lemma foldlM_addRecord_rolesIndexed {duplicate conflict : String} (records : List DeviceRecord) :
    ∀ devices, RolesIndexed devices → ∀ loaded,
      records.foldlM (addRecord duplicate conflict) devices = .ok loaded → RolesIndexed loaded := by
  induction records with
  | nil =>
      intro devices hinv loaded h
      cases h
      exact hinv
  | cons record records ih =>
      intro devices hinv loaded h
      rw [List.foldlM_cons] at h
      cases hadd : addRecord duplicate conflict devices record with
      | error message => rw [hadd] at h; cases h
      | ok added =>
          rw [hadd] at h
          exact ih added (addRecord_rolesIndexed hinv hadd) loaded h

/-! ### One lemma for each operation -/

lemma load_rolesIndexed (hinv : RolesIndexed devices) (records : List DeviceRecord) :
    RolesIndexed (devices.load records).2 := by
  rw [load]
  split
  · next loaded hload => exact foldlM_addRecord_rolesIndexed records _ empty_rolesIndexed _ hload
  · exact hinv

lemma addProvisioned_rolesIndexed (hinv : RolesIndexed devices) (record : DeviceRecord) :
    RolesIndexed (devices.addProvisioned record).2 := by
  rw [addProvisioned]
  split
  · next added hadd => exact addRecord_rolesIndexed hinv hadd
  · exact hinv

lemma applyRegistration_rolesIndexed (hinv : RolesIndexed devices) (registration : Registration)
    (receivedAt : TimePoint) :
    RolesIndexed (devices.applyRegistration registration receivedAt).2 := by
  rw [applyRegistration]
  split
  · exact hinv
  next record hrecord =>
  split
  · exact hinv
  have hself := hrecord
  rw [← hinv.ids _ record hrecord] at hself
  exact replace_rolesIndexed hinv hself (registrationRole_isFor hinv hrecord registration)
    rfl rfl rfl rfl

lemma applyTelemetry_rolesIndexed (hinv : RolesIndexed devices) (deviceId : String)
    (telemetry : Telemetry) (receivedAt : TimePoint) :
    RolesIndexed (devices.applyTelemetry deviceId telemetry receivedAt).2 := by
  rw [applyTelemetry]
  split
  · exact hinv
  next record hrecord =>
  split
  · exact hinv
  have hself := hrecord
  rw [← hinv.ids _ record hrecord] at hself
  exact replace_rolesIndexed hinv hself (telemetryRole_isFor hinv hrecord telemetry) rfl rfl rfl rfl

lemma expireInactive_rolesIndexed (hinv : RolesIndexed devices) (now timeout : TimePoint) :
    RolesIndexed (devices.expireInactive now timeout).2 := by
  refine mapValues_rolesIndexed hinv (fun record => ?_) (fun record => ?_) (fun record => ?_)
  · split <;> rfl
  · split <;> rfl
  · split <;> rfl

lemma next_rolesIndexed (hinv : RolesIndexed devices) (input : RegistryInput) :
    RolesIndexed (devices.next input) := by
  cases input with
  | load records => exact load_rolesIndexed hinv records
  | addProvisioned record => exact addProvisioned_rolesIndexed hinv record
  | registration registration receivedAt =>
      exact applyRegistration_rolesIndexed hinv registration receivedAt
  | telemetry deviceId telemetry receivedAt =>
      exact applyTelemetry_rolesIndexed hinv deviceId telemetry receivedAt
  | expireInactive now timeout => exact expireInactive_rolesIndexed hinv now timeout

lemma reachable_rolesIndexed (h : registryMachine.Reachable devices) : RolesIndexed devices := by
  refine h.invariant (fun devices h0 => ?_) fun devices input _ hinv _ =>
    @next_rolesIndexed devices hinv input
  cases h0
  exact empty_rolesIndexed

end

/-! ### Lookups as scans -/

/-- The records of a directory. -/
def DeviceRegistry.all (devices : DeviceRegistry) : List DeviceRecord := devices.records.values

lemma role_eq_some {record : DeviceRecord} {schoolId : ℤ} {label : String} :
    record.role = some (schoolId, label) ↔
      record.schoolId = schoolId ∧ record.dcdwLabel = some label := by
  rw [DeviceRecord.role, Option.map_eq_some_iff]
  grind

lemma namedRole_eq_some {record : DeviceRecord} {schoolName label : String} :
    record.namedRole = some (schoolName, label) ↔
      record.schoolName = schoolName ∧ record.dcdwLabel = some label := by
  rw [DeviceRecord.namedRole, Option.map_eq_some_iff]
  grind

/-- The first record with the role. -/
def scanBySchoolAndLabel (devices : DeviceRegistry) (schoolId : ℤ) (label : String) :
    Option DeviceRecord :=
  devices.all.find? fun record => record.role = some (schoolId, label)

/-- All records with the role by school name. -/
def scanByName (devices : DeviceRegistry) (schoolName label : String) : List DeviceRecord :=
  devices.all.filter fun record => record.namedRole = some (schoolName, label)

section

variable {devices : DeviceRegistry}

lemma mem_all (hinv : RolesIndexed devices) {record : DeviceRecord} (h : record ∈ devices.all) :
    devices.records.lookup record.deviceId = some record := by
  obtain ⟨deviceId, hrecord⟩ := Map.mem_values.mp h
  rw [hinv.ids deviceId record hrecord, hrecord]

/-- The group of a named role has one id for each record with the role. -/
lemma scanByName_perm (hinv : RolesIndexed devices) (schoolName label : String) :
    ((devices.namedRoles.lookup (schoolName, label)).getD []).Perm
      ((scanByName devices schoolName label).map DeviceRecord.deviceId) := by
  refine (hinv.named.filter_perm (schoolName, label)).trans (List.Perm.of_eq ?_)
  rw [scanByName, DeviceRegistry.all, Map.values_eq, List.filter_map, List.map_map]
  refine List.map_congr_left fun entry hmem => ?_
  exact (hinv.ids entry.1 entry.2 (Map.mem_entries_iff.mp (List.mem_of_mem_filter hmem))).symm

lemma findBySchoolAndLabel_scan (hinv : RolesIndexed devices) (schoolId : ℤ) (label : String) :
    devices.findBySchoolAndLabel schoolId label = scanBySchoolAndLabel devices schoolId label :=
  hinv.roles.find_eq (schoolId, label)

lemma findBySchoolNameAndLabel_scan (hinv : RolesIndexed devices) (schoolName label : String) :
    devices.findBySchoolNameAndLabel schoolName label =
      match scanByName devices schoolName label with
      | [record] => some record
      | _ => none := by
  have hperm := scanByName_perm hinv schoolName label
  have hstored : ∀ record ∈ scanByName devices schoolName label,
      devices.find record.deviceId = some record :=
    fun record hmem => mem_all hinv (List.mem_of_mem_filter hmem)
  rw [findBySchoolNameAndLabel]
  cases hscan : scanByName devices schoolName label with
  | nil =>
      rw [hscan, List.map_nil, List.perm_nil] at hperm
      cases hix : devices.namedRoles.lookup (schoolName, label) with
      | none => rfl
      | some ids =>
          rw [hix, Option.getD_some] at hperm
          exact absurd hperm (hinv.named.nonempty _ ids hix)
  | cons record rest =>
      cases rest with
      | nil =>
          rw [hscan, List.map_cons, List.map_nil, List.perm_singleton] at hperm
          cases hix : devices.namedRoles.lookup (schoolName, label) with
          | none => rw [hix, Option.getD_none] at hperm; cases hperm
          | some ids =>
              rw [hix, Option.getD_some] at hperm
              subst hperm
              exact hstored record (by rw [hscan]; exact List.mem_singleton_self record)
      | cons other rest =>
          have hlen := hperm.length_eq
          rw [hscan, List.length_map, List.length_cons, List.length_cons] at hlen
          cases hix : devices.namedRoles.lookup (schoolName, label) with
          | none => rfl
          | some ids =>
              rw [hix, Option.getD_some] at hlen
              match ids, hlen with
              | _ :: _ :: _, _ => rfl

lemma isSchoolNameAndLabelAmbiguous_scan (hinv : RolesIndexed devices) (schoolName label : String) :
    devices.isSchoolNameAndLabelAmbiguous schoolName label =
      decide (1 < (scanByName devices schoolName label).length) := by
  have hlen := (scanByName_perm hinv schoolName label).length_eq
  rw [List.length_map] at hlen
  rw [← hlen]
  rw [isSchoolNameAndLabelAmbiguous]
  split
  · next ids hids => rw [hids, Option.getD_some]
  · next hids => rw [hids]; rfl

/-- **The representation invariant**: in every reachable directory the role maps
are exactly the two indexes of the records, and the lookups through them are scans
of all records. -/
theorem rolesIndexed_of_reachable (h : registryMachine.Reachable devices) :
    (∀ schoolId label deviceId, devices.roles.lookup (schoolId, label) = some deviceId ↔
      ∃ record ∈ devices.all, record.deviceId = deviceId ∧ record.schoolId = schoolId ∧
        record.dcdwLabel = some label) ∧
    (∀ record ∈ devices.all, ∀ other ∈ devices.all, record.role.isSome →
      record.role = other.role → record = other) ∧
    (∀ key deviceIds, devices.namedRoles.lookup key = some deviceIds →
      deviceIds ≠ [] ∧ deviceIds.Nodup) ∧
    (∀ schoolName label deviceId,
      deviceId ∈ (devices.namedRoles.lookup (schoolName, label)).getD [] ↔
        ∃ record ∈ devices.all, record.deviceId = deviceId ∧ record.schoolName = schoolName ∧
          record.dcdwLabel = some label) ∧
    (∀ schoolId label, devices.findBySchoolAndLabel schoolId label =
      scanBySchoolAndLabel devices schoolId label) ∧
    (∀ schoolName label, devices.findBySchoolNameAndLabel schoolName label =
      match scanByName devices schoolName label with
      | [record] => some record
      | _ => none) ∧
    ∀ schoolName label, devices.isSchoolNameAndLabelAmbiguous schoolName label =
      decide (1 < (scanByName devices schoolName label).length) := by
  have hinv := reachable_rolesIndexed h
  refine ⟨fun schoolId label deviceId => ?_, fun record hrecord other hother hsome hsame => ?_,
    fun key ids hids => ⟨hinv.named.nonempty key ids hids, hinv.named.nodup key ids hids⟩,
    fun schoolName label deviceId => ?_, findBySchoolAndLabel_scan hinv,
    findBySchoolNameAndLabel_scan hinv, isSchoolNameAndLabelAmbiguous_scan hinv⟩
  · rw [hinv.roles (schoolId, label) deviceId, rolesOf_some]
    constructor
    · rintro ⟨record, hrecord, hrole⟩
      exact ⟨record, Map.mem_values.mpr ⟨deviceId, hrecord⟩, hinv.ids _ _ hrecord,
        role_eq_some.mp hrole⟩
    · rintro ⟨record, hmem, rfl, hrole⟩
      exact ⟨record, mem_all hinv hmem, role_eq_some.mpr hrole⟩
  · obtain ⟨role, hrole⟩ := Option.isSome_iff_exists.mp hsome
    have hid : record.deviceId = other.deviceId :=
      hinv.roles.injective (rolesOf_some.mpr ⟨record, mem_all hinv hrecord, hrole⟩)
        (rolesOf_some.mpr ⟨other, mem_all hinv hother, hsame ▸ hrole⟩)
    have hfound := mem_all hinv hrecord
    rw [hid, mem_all hinv hother] at hfound
    exact (Option.some.inj hfound).symm
  · rw [hinv.named.mem (schoolName, label) deviceId, rolesOf_some]
    constructor
    · rintro ⟨record, hrecord, hrole⟩
      exact ⟨record, Map.mem_values.mpr ⟨deviceId, hrecord⟩, hinv.ids _ _ hrecord,
        namedRole_eq_some.mp hrole⟩
    · rintro ⟨record, hmem, rfl, hrole⟩
      exact ⟨record, mem_all hinv hmem, namedRole_eq_some.mpr hrole⟩

end

/-- Two flight controllers of one school. -/
def sampleDevice (deviceId : String) (label : Option String) : DeviceRecord where
  deviceId := deviceId
  schoolId := 7
  schoolName := "一小"
  dcdwLabel := label
  modelVersion := "fc"
  status := .online
  lastSeenAt := none
  latestTelemetry := none
  telemetryReceivedAt := none
  revision := 1
  deviceType := .flightController

/-- The first device gives up its label, and the second one takes it. -/
def relabelled : DeviceRegistry :=
  [RegistryInput.addProvisioned (sampleDevice "a" (some "1")),
    .addProvisioned (sampleDevice "b" none),
    .registration ⟨"a", .online, none, some "2", .flightController, none, none, none⟩ 10,
    .registration ⟨"b", .online, none, some "1", .flightController, none, none, none⟩ 20].foldl
    DeviceRegistry.next .empty

theorem rolesIndexed_relabelled :
    (relabelled.findBySchoolAndLabel 7 "1").map DeviceRecord.deviceId = some "b" ∧
      relabelled.findBySchoolNameAndLabel "一小" "2" =
        match scanByName relabelled "一小" "2" with
        | [record] => some record
        | _ => none := by
  have hreach : registryMachine.Reachable relabelled :=
    Machine.Reachable.foldl (m := registryMachine) (.start rfl) (fun _ _ => trivial) _
  exact ⟨by decide +kernel, (rolesIndexed_of_reachable hreach).2.2.2.2.2.1 "一小" "2"⟩

end CnsServer
