/-
Who may address whom.

* `Designates`: the records a target stands for in the form that is allowed for
  the kind of its source;
* `MayRoute`: what the router asks of a device that sends requests;
* `findBySchoolAndLabel_iff`, `findBySchoolNameAndLabel_iff`: a lookup through an
  index is a statement about all records;
* `resolveConfigTarget_ok_iff`, `resolveControlTarget_ok_iff`: a request is routed
  exactly when its target stands for one record;
* `resolveConfigTarget_congr`, `resolveControlTarget_congr`: the answer to a device
  depends on the records of its own school only;
* `routing_isolated`: **the isolation of schools**, for every directory a service
  can have.
-/
import CnsServer.Command.Router
import CnsServer.Properties.RoleIndexes

namespace CnsServer

open DeviceRegistry Index

/-- The device behind a source. -/
def CommandSource.device? (source : CommandSource) (devices : DeviceRegistry) :
    Option DeviceRecord :=
  source.deviceId.bind devices.find

/-- A device addresses a label in its own school; any other source a device id, or
a label at the name of a school. -/
def Designates (devices : DeviceRegistry) (source : CommandSource) :
    RequestTarget → DeviceRecord → Prop
  | .deviceLabel label, record =>
      source.kind = .device ∧ ∃ own, source.device? devices = some own ∧
        record.schoolId = own.schoolId ∧ record.dcdwLabel = some label
  | .device deviceId, record => source.kind ≠ .device ∧ record.deviceId = deviceId
  | .schoolLabel schoolName label, record =>
      source.kind ≠ .device ∧ record.schoolName = schoolName ∧ record.dcdwLabel = some label

/-- `record` is the one record the target stands for. -/
def DesignatesOnly (devices : DeviceRegistry) (source : CommandSource) (target : RequestTarget)
    (record : DeviceRecord) : Prop :=
  (record ∈ devices.all ∧ Designates devices source target record) ∧
    ∀ other ∈ devices.all, Designates devices source target other → other = record

/-- A device may send requests while it is known and online. -/
def MayRoute (devices : DeviceRegistry) (source : CommandSource) : Prop :=
  source.kind = .device → ∃ own, source.device? devices = some own ∧ own.status = .online

/-! ### Lookups as statements about all records -/

section

variable {devices : DeviceRegistry}

lemma find_iff (hinv : RolesIndexed devices) {deviceId : String} {record : DeviceRecord} :
    devices.find deviceId = some record ↔ record ∈ devices.all ∧ record.deviceId = deviceId := by
  constructor
  · intro h
    exact ⟨Map.mem_values.mpr ⟨deviceId, h⟩, hinv.ids deviceId record h⟩
  · rintro ⟨hmem, rfl⟩
    exact mem_all hinv hmem

lemma findBySchoolAndLabel_iff (hinv : RolesIndexed devices) {schoolId : ℤ} {label : String}
    {record : DeviceRecord} :
    devices.findBySchoolAndLabel schoolId label = some record ↔
      record ∈ devices.all ∧ record.schoolId = schoolId ∧ record.dcdwLabel = some label := by
  have hroles := hinv.roles (schoolId, label)
  rw [findBySchoolAndLabel, Option.bind_eq_some_iff]
  constructor
  · rintro ⟨deviceId, hrole, hfound⟩
    obtain ⟨other, hother, hlabel⟩ := rolesOf_some.mp ((hroles deviceId).mp hrole)
    cases hfound.symm.trans hother
    exact ⟨((find_iff hinv).mp hfound).1, role_eq_some.mp hlabel⟩
  · rintro ⟨hmem, hlabel⟩
    have hfound := mem_all hinv hmem
    refine ⟨record.deviceId, (hroles record.deviceId).mpr ?_, hfound⟩
    exact rolesOf_some.mpr ⟨record, hfound, role_eq_some.mpr hlabel⟩

lemma mem_scanByName {schoolName label : String} {record : DeviceRecord} :
    record ∈ scanByName devices schoolName label ↔
      record ∈ devices.all ∧ record.schoolName = schoolName ∧ record.dcdwLabel = some label := by
  rw [scanByName, List.mem_filter, decide_eq_true_iff, namedRole_eq_some]

lemma scanByName_nodup (hinv : RolesIndexed devices) (schoolName label : String) :
    (scanByName devices schoolName label).Nodup := by
  have hids : ((devices.namedRoles.lookup (schoolName, label)).getD []).Nodup := by
    cases hix : devices.namedRoles.lookup (schoolName, label) with
    | none => exact List.nodup_nil
    | some ids => exact hinv.named.nodup _ ids hix
  exact List.Nodup.of_map _ ((scanByName_perm hinv schoolName label).nodup_iff.mp hids)

/-- A list without repetitions has one element exactly when all its elements are
that one. -/
lemma eq_singleton_iff {α : Type} {xs : List α} (hnodup : xs.Nodup) {x : α} :
    xs = [x] ↔ x ∈ xs ∧ ∀ y ∈ xs, y = x := by
  constructor
  · rintro rfl
    exact ⟨List.mem_singleton_self x, fun y => List.mem_singleton.mp⟩
  · rintro ⟨hmem, hall⟩
    rw [List.eq_replicate_of_mem hall] at hnodup hmem ⊢
    have hle : xs.length ≤ 1 := List.nodup_replicate.mp hnodup
    have hne : xs.length ≠ 0 := (List.mem_replicate.mp hmem).1
    rw [show xs.length = 1 by omega, List.replicate_one]

lemma findBySchoolNameAndLabel_iff (hinv : RolesIndexed devices) {schoolName label : String}
    {record : DeviceRecord} :
    devices.findBySchoolNameAndLabel schoolName label = some record ↔
      record ∈ scanByName devices schoolName label ∧
        ∀ other ∈ scanByName devices schoolName label, other = record := by
  rw [findBySchoolNameAndLabel_scan hinv,
    ← eq_singleton_iff (scanByName_nodup hinv schoolName label)]
  split
  · next found hscan => simp [hscan]
  · next hmany => simpa using hmany record

/-- An ambiguous name has no answer. -/
lemma not_ambiguous (hinv : RolesIndexed devices) {schoolName label : String}
    {record : DeviceRecord}
    (h : devices.findBySchoolNameAndLabel schoolName label = some record) :
    devices.isSchoolNameAndLabelAmbiguous schoolName label = false := by
  have hone := (eq_singleton_iff (scanByName_nodup hinv schoolName label)).mpr
    ((findBySchoolNameAndLabel_iff hinv).mp h)
  rw [isSchoolNameAndLabelAmbiguous_scan hinv, hone]
  rfl

end

/-! ### What is routed -/

/-- The record the router looks up. -/
def lookupTarget (devices : DeviceRegistry) (source : CommandSource) :
    RequestTarget → Option DeviceRecord
  | .deviceLabel label =>
      if source.kind = .device then
        (source.device? devices).bind fun own => devices.findBySchoolAndLabel own.schoolId label
      else none
  | .device deviceId => if source.kind = .device then none else devices.find deviceId
  | .schoolLabel schoolName label =>
      if source.kind = .device then none
      else devices.findBySchoolNameAndLabel schoolName label

section

variable {devices : DeviceRegistry} {source : CommandSource}

/-- What is looked up is the one record the target stands for. -/
lemma lookupTarget_iff (hinv : RolesIndexed devices) {target : RequestTarget}
    {record : DeviceRecord} :
    lookupTarget devices source target = some record ↔
      DesignatesOnly devices source target record := by
  by_cases hkind : source.kind = .device
  · cases target with
    | deviceLabel label =>
        simp only [lookupTarget, DesignatesOnly, Designates, hkind, if_true, true_and,
          Option.bind_eq_some_iff, findBySchoolAndLabel_iff hinv]
        constructor
        · rintro ⟨own, hown, hmem, hschool, hlabel⟩
          refine ⟨⟨hmem, own, hown, hschool, hlabel⟩, ?_⟩
          rintro other hother ⟨own', hown', hschool', hlabel'⟩
          cases hown.symm.trans hown'
          have hfound := (findBySchoolAndLabel_iff hinv).mpr ⟨hmem, hschool, hlabel⟩
          have hfound' := (findBySchoolAndLabel_iff hinv).mpr ⟨hother, hschool', hlabel'⟩
          exact Option.some.inj (hfound'.symm.trans hfound)
        · rintro ⟨⟨hmem, own, hown, hschool, hlabel⟩, -⟩
          exact ⟨own, hown, hmem, hschool, hlabel⟩
    | device deviceId => simp [lookupTarget, DesignatesOnly, Designates, hkind]
    | schoolLabel schoolName label => simp [lookupTarget, DesignatesOnly, Designates, hkind]
  · cases target with
    | deviceLabel label => simp [lookupTarget, DesignatesOnly, Designates, hkind]
    | device deviceId =>
        simp only [lookupTarget, DesignatesOnly, Designates, hkind, if_false, not_false_eq_true,
          true_and, ne_eq, find_iff hinv]
        refine ⟨fun h => ⟨h, fun other hmem hid => ?_⟩, And.left⟩
        have hfound := (find_iff hinv).mpr h
        exact Option.some.inj (((find_iff hinv).mpr ⟨hmem, hid⟩).symm.trans hfound)
    | schoolLabel schoolName label =>
        simp only [lookupTarget, DesignatesOnly, Designates, hkind, if_false, not_false_eq_true,
          true_and, ne_eq, findBySchoolNameAndLabel_iff hinv, mem_scanByName, and_imp]

/-- The router looks one record up, for a device that may send requests. -/
lemma resolveConfigTarget_lookup (hinv : RolesIndexed devices) {target : RequestTarget}
    {resolved : ResolvedTarget} :
    resolveConfigTarget source target devices = .ok resolved ↔
      MayRoute devices source ∧
        ∃ record, lookupTarget devices source target = some record ∧
          resolved = resolve record := by
  by_cases hkind : source.kind = .device
  · cases target with
    | deviceLabel label =>
        simp only [resolveConfigTarget, lookupTarget, MayRoute, CommandSource.device?, hkind,
          if_true, true_imp_iff]
        cases hid : source.deviceId with
        | none => simp
        | some deviceId =>
            simp only [Option.bind_some]
            cases hown : devices.find deviceId with
            | none => simp
            | some own =>
                by_cases honline : own.status = .online
                · simp only [honline, Option.bind_some]
                  cases devices.findBySchoolAndLabel own.schoolId label <;>
                    simp [honline, eq_comm]
                · simp [honline]
    | device deviceId => simp [resolveConfigTarget, lookupTarget, hkind]
    | schoolLabel schoolName label => simp [resolveConfigTarget, lookupTarget, hkind]
  · have hmay : MayRoute devices source := fun h => absurd h hkind
    cases target with
    | deviceLabel label => simp [resolveConfigTarget, lookupTarget, hkind]
    | device deviceId =>
        simp only [resolveConfigTarget, lookupTarget, hkind, hmay, if_false, true_and]
        cases devices.find deviceId <;> simp [eq_comm]
    | schoolLabel schoolName label =>
        simp only [resolveConfigTarget, lookupTarget, hkind, hmay, if_false, true_and]
        cases hfound : devices.findBySchoolNameAndLabel schoolName label with
        | none => split <;> simp
        | some record => simp [not_ambiguous hinv hfound, eq_comm]

/-- **Routing, for configuration**: a request is routed exactly when its target
stands for one record, and to that record. -/
lemma resolveConfigTarget_ok_iff (hinv : RolesIndexed devices) {target : RequestTarget}
    {resolved : ResolvedTarget} :
    resolveConfigTarget source target devices = .ok resolved ↔
      MayRoute devices source ∧
        ∃ record, DesignatesOnly devices source target record ∧ resolved = resolve record := by
  simp only [resolveConfigTarget_lookup hinv, lookupTarget_iff hinv]

/-- **Routing, for control**: real flight controllers take no commands. -/
lemma resolveControlTarget_ok_iff (hinv : RolesIndexed devices) {target : RequestTarget}
    {resolved : ResolvedTarget} :
    resolveControlTarget source target devices = .ok resolved ↔
      MayRoute devices source ∧
        ∃ record, DesignatesOnly devices source target record ∧
          record.deviceType ≠ .flightController ∧ resolved = resolve record := by
  have hfind : ∀ record, DesignatesOnly devices source target record →
      devices.find (resolve record).deviceId = some record :=
    fun record h => mem_all hinv h.1.1
  rw [resolveControlTarget]
  split
  · next error herror =>
      refine ⟨nofun, ?_⟩
      rintro ⟨hmay, record, hrecord, -, rfl⟩
      rw [(resolveConfigTarget_ok_iff hinv).mpr ⟨hmay, record, hrecord, rfl⟩] at herror
      cases herror
  · next found hfound =>
      obtain ⟨hmay, record, hrecord, rfl⟩ := (resolveConfigTarget_ok_iff hinv).mp hfound
      rw [hfind record hrecord]
      simp only
      split
      · next htype =>
          refine ⟨nofun, ?_⟩
          rintro ⟨-, other, hother, hne, -⟩
          cases hrecord.2 other hother.1.1 hother.1.2
          exact absurd htype hne
      · next htype =>
          constructor
          · rintro ⟨⟩
            exact ⟨hmay, record, hrecord, htype, rfl⟩
          · rintro ⟨-, other, hother, -, rfl⟩
            cases hrecord.2 other hother.1.1 hother.1.2
            rfl

/-! ### Isolation -/

/-- Two directories have the same records of a school. -/
def SameSchool (schoolId : ℤ) (devices others : DeviceRegistry) : Prop :=
  ∀ record : DeviceRecord, record.schoolId = schoolId →
    (record ∈ devices.all ↔ record ∈ others.all)

variable {others : DeviceRegistry}

lemma SameSchool.find (hinv : RolesIndexed devices) (hinv' : RolesIndexed others) {schoolId : ℤ}
    (hsame : SameSchool schoolId devices others) {deviceId : String} {record : DeviceRecord}
    (hschool : record.schoolId = schoolId) (hfound : devices.find deviceId = some record) :
    others.find deviceId = some record := by
  have ⟨hmem, hid⟩ := (find_iff hinv).mp hfound
  exact (find_iff hinv').mpr ⟨(hsame record hschool).mp hmem, hid⟩

lemma SameSchool.findBySchoolAndLabel (hinv : RolesIndexed devices) (hinv' : RolesIndexed others)
    {schoolId : ℤ} (hsame : SameSchool schoolId devices others) (label : String) :
    others.findBySchoolAndLabel schoolId label = devices.findBySchoolAndLabel schoolId label := by
  refine Option.ext fun record => ?_
  rw [findBySchoolAndLabel_iff hinv, findBySchoolAndLabel_iff hinv']
  exact ⟨fun h => ⟨(hsame record h.2.1).mpr h.1, h.2⟩,
    fun h => ⟨(hsame record h.2.1).mp h.1, h.2⟩⟩

/-- What a device may address is in its own school. -/
lemma DesignatesOnly.school {target : RequestTarget} {record own : DeviceRecord}
    (h : DesignatesOnly devices source target record) (hkind : source.kind = .device)
    (hown : source.device? devices = some own) : record.schoolId = own.schoolId := by
  cases target with
  | deviceLabel label =>
      obtain ⟨own', hown', hschool, -⟩ := h.1.2.2
      cases hown.symm.trans hown'
      exact hschool
  | device deviceId => exact absurd hkind h.1.2.1
  | schoolLabel schoolName label => exact absurd hkind h.1.2.1

/-- The answer to a device depends on the records of its school. -/
lemma resolveConfigTarget_congr (hinv : RolesIndexed devices) (hinv' : RolesIndexed others)
    (hkind : source.kind = .device) {own : DeviceRecord}
    (hown : source.device? devices = some own) (hsame : SameSchool own.schoolId devices others)
    (target : RequestTarget) :
    resolveConfigTarget source target others = resolveConfigTarget source target devices := by
  obtain ⟨deviceId, hid, hfound⟩ := Option.bind_eq_some_iff.mp hown
  have hfound' := hsame.find hinv hinv' rfl hfound
  cases target with
  | deviceLabel label =>
      simp only [resolveConfigTarget, hkind, if_true, hid, hfound, hfound',
        hsame.findBySchoolAndLabel hinv hinv' label]
  | device deviceId => simp only [resolveConfigTarget, hkind, if_true]
  | schoolLabel schoolName label => simp only [resolveConfigTarget, hkind, if_true]

lemma resolveControlTarget_congr (hinv : RolesIndexed devices) (hinv' : RolesIndexed others)
    (hkind : source.kind = .device) {own : DeviceRecord}
    (hown : source.device? devices = some own) (hsame : SameSchool own.schoolId devices others)
    (target : RequestTarget) :
    resolveControlTarget source target others = resolveControlTarget source target devices := by
  rw [resolveControlTarget, resolveControlTarget,
    resolveConfigTarget_congr hinv hinv' hkind hown hsame]
  cases hresolved : resolveConfigTarget source target devices with
  | error error => rfl
  | ok resolved =>
      obtain ⟨-, record, hrecord, rfl⟩ := (resolveConfigTarget_ok_iff hinv).mp hresolved
      have hfound : devices.find (resolve record).deviceId = some record :=
        mem_all hinv hrecord.1.1
      simp only [hfound, hsame.find hinv hinv' (hrecord.school hkind hown) hfound]

/-- **Routing isolation**: in every directory a service can have, a request is
routed exactly when its target stands for one record, which for control is no
flight controller, and a source that is a device is online; the request of a device
stays in its school and is answered in the same way whatever the records of the
other schools are. -/
theorem routing_isolated (h : registryMachine.Reachable devices) (source : CommandSource)
    (target : RequestTarget) :
    (∀ resolved, resolveConfigTarget source target devices = .ok resolved ↔
      MayRoute devices source ∧
        ∃ record, DesignatesOnly devices source target record ∧ resolved = resolve record) ∧
    (∀ resolved, resolveControlTarget source target devices = .ok resolved ↔
      MayRoute devices source ∧
        ∃ record, DesignatesOnly devices source target record ∧
          record.deviceType ≠ .flightController ∧ resolved = resolve record) ∧
    (source.kind = .device → ∀ own, source.device? devices = some own →
      (∀ resolved, resolveConfigTarget source target devices = .ok resolved ∨
          resolveControlTarget source target devices = .ok resolved →
        ∃ record, devices.find resolved.deviceId = some record ∧
          record.schoolId = own.schoolId) ∧
      ∀ others, registryMachine.Reachable others → SameSchool own.schoolId devices others →
        resolveConfigTarget source target others = resolveConfigTarget source target devices ∧
        resolveControlTarget source target others =
          resolveControlTarget source target devices) := by
  have hinv := reachable_rolesIndexed h
  refine ⟨fun resolved => resolveConfigTarget_ok_iff hinv,
    fun resolved => resolveControlTarget_ok_iff hinv, fun hkind own hown => ⟨?_, ?_⟩⟩
  · rintro resolved (hresolved | hresolved)
    · obtain ⟨-, record, hrecord, rfl⟩ := (resolveConfigTarget_ok_iff hinv).mp hresolved
      exact ⟨record, mem_all hinv hrecord.1.1, hrecord.school hkind hown⟩
    · obtain ⟨-, record, hrecord, -, rfl⟩ := (resolveControlTarget_ok_iff hinv).mp hresolved
      exact ⟨record, mem_all hinv hrecord.1.1, hrecord.school hkind hown⟩
  · intro others hothers hsame
    have hinv' := reachable_rolesIndexed hothers
    exact ⟨resolveConfigTarget_congr hinv hinv' hkind hown hsame target,
      resolveControlTarget_congr hinv hinv' hkind hown hsame target⟩

end

/-- The directory after a start with one device. -/
def oneDevice (record : DeviceRecord) : DeviceRegistry :=
  DeviceRegistry.empty.next (.load [record])

lemma oneDevice_reachable (record : DeviceRecord) :
    registryMachine.Reachable (oneDevice record) :=
  .step (m := registryMachine) (i := .load [record]) (.start rfl) trivial

theorem routing_isolated_own :
    resolveConfigTarget (deviceSource "a") (.deviceLabel "1")
        (oneDevice (sampleDevice "a" (some "1"))) =
      .ok (resolve (sampleDevice "a" (some "1"))) := by
  refine ((routing_isolated (oneDevice_reachable _) _ _).1 _).mpr ⟨fun _ => ?_, ?_⟩
  · exact ⟨sampleDevice "a" (some "1"), rfl, rfl⟩
  · refine ⟨sampleDevice "a" (some "1"), ⟨⟨.head _, rfl, _, rfl, rfl, rfl⟩, ?_⟩, rfl⟩
    exact fun other hmem _ => List.mem_singleton.mp hmem

/-- A device that is offline is refused, although its target stands for one
record. -/
theorem routing_offline :
    ∃ devices, registryMachine.Reachable devices ∧ ∃ record,
      DesignatesOnly devices (deviceSource "a") (.deviceLabel "1") record ∧
      resolveConfigTarget (deviceSource "a") (.deviceLabel "1") devices =
        .error ⟨"source_device_offline", "来源设备当前离线"⟩ := by
  let record := { sampleDevice "a" (some "1") with status := .offline }
  refine ⟨oneDevice record, oneDevice_reachable record, record, ⟨⟨.head _, rfl, _, rfl, rfl, rfl⟩,
    ?_⟩, rfl⟩
  exact fun other hmem _ => List.mem_singleton.mp hmem

end CnsServer
