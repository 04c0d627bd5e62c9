/-
What an operation of the device directory changes.

* `Changed`: one device has a new record, all others are as before; this is what a
  registration, a telemetry and a provisioned record do;
* `NextRecord`: the new record is the next one of the same device;
* `applyRegistration_ok`, `applyTelemetry_ok`: which record it is, and what the mutation
  says about it;
* `expireInactive_changed`, `expireInactive_others`: the same for the devices a scan
  finds silent;
* `find_next`: where a record comes from;
* `Keeps`, `foldl_records`: what holds of all records that come in holds of all there are.
-/
import CnsServer.Invariants.DeviceKeys

namespace CnsServer

/-- The change of the registry that a mutation describes: one device has a new
record. -/
structure Changed (registry registry' : DeviceRegistry) (record : DeviceRecord) : Prop where
  found : registry'.find record.deviceId = some record
  others : ∀ deviceId, deviceId ≠ record.deviceId →
    registry'.find deviceId = registry.find deviceId

lemma replace_changed {devices : DeviceRegistry} {record newRecord : DeviceRecord}
    (change : RoleChange) (hid : newRecord.deviceId = record.deviceId) :
    Changed devices (devices.replace record newRecord change) newRecord := by
  have hfind : ∀ deviceId, (devices.replace record newRecord change).find deviceId =
      if deviceId = newRecord.deviceId then some newRecord else devices.find deviceId := by
    intro deviceId
    rw [hid]
    exact Map.lookup_insert_ite devices.records record.deviceId deviceId newRecord
  exact ⟨(hfind _).trans (if_pos rfl), fun deviceId hne => (hfind deviceId).trans (if_neg hne)⟩

lemma applyRegistration_changed {devices registry : DeviceRegistry} {registration : Registration}
    {receivedAt : TimePoint} {mutation : Mutation}
    (h : devices.applyRegistration registration receivedAt = (.ok mutation, registry)) :
    Changed devices registry mutation.record := by
  unfold DeviceRegistry.applyRegistration at h
  split at h
  · cases h
  split at h
  · cases h
  · cases h
    exact replace_changed _ rfl

lemma applyTelemetry_changed {devices registry : DeviceRegistry} {deviceId : String}
    {telemetry : Telemetry} {receivedAt : TimePoint} {mutation : Mutation}
    (h : devices.applyTelemetry deviceId telemetry receivedAt = (.ok mutation, registry)) :
    Changed devices registry mutation.record := by
  unfold DeviceRegistry.applyTelemetry at h
  split at h
  · cases h
  split at h
  · cases h
  · cases h
    exact replace_changed _ rfl

lemma addProvisioned_changed {devices registry : DeviceRegistry} {record : DeviceRecord}
    (h : devices.addProvisioned record = (.ok (), registry)) : Changed devices registry record := by
  unfold DeviceRegistry.addProvisioned DeviceRegistry.addRecord at h
  split at h
  · next added hadded =>
      cases h
      have hrecords : registry.records = devices.records.insert record.deviceId record := by
        split at hadded
        · cases hadded
        split at hadded
        · cases hadded
          rfl
        · split at hadded
          · cases hadded
          · cases hadded
            rfl
      have hfind : ∀ deviceId, registry.find deviceId =
          if deviceId = record.deviceId then some record else devices.find deviceId := by
        intro deviceId
        rw [DeviceRegistry.find, hrecords]
        exact Map.lookup_insert_ite devices.records record.deviceId deviceId record
      exact ⟨(hfind _).trans (if_pos rfl), fun deviceId hne => (hfind deviceId).trans (if_neg hne)⟩
  · cases h

/-- A device that comes in was not there. -/
lemma addProvisioned_new {devices registry : DeviceRegistry} {record : DeviceRecord}
    (h : devices.addProvisioned record = (.ok (), registry)) :
    devices.find record.deviceId = none := by
  rw [DeviceRegistry.addProvisioned, DeviceRegistry.addRecord] at h
  split at h
  · next added hadded =>
      split at hadded
      · cases hadded
      · next hnone =>
          rw [DeviceRegistry.find]
          simpa using hnone
  · cases h

/-! ### The new record -/

/-- The next record of a device. -/
structure NextRecord (record newRecord : DeviceRecord) : Prop where
  deviceId : newRecord.deviceId = record.deviceId
  schoolId : newRecord.schoolId = record.schoolId
  schoolName : newRecord.schoolName = record.schoolName
  deviceType : newRecord.deviceType = record.deviceType
  revision : newRecord.revision = record.revision + 1

lemma registered_next (record : DeviceRecord) (change : RoleChange)
    (registration : Registration) (receivedAt : TimePoint) :
    NextRecord record (DeviceRegistry.registered record change registration receivedAt) :=
  ⟨rfl, rfl, rfl, rfl, rfl⟩

lemma reported_next (record : DeviceRecord) (change : RoleChange) (telemetry : Telemetry)
    (receivedAt : TimePoint) :
    NextRecord record (DeviceRegistry.reported record change telemetry receivedAt) :=
  ⟨rfl, rfl, rfl, rfl, rfl⟩

lemma expired_next (record : DeviceRecord) : NextRecord record (DeviceRegistry.expired record) :=
  ⟨rfl, rfl, rfl, rfl, rfl⟩

lemma applyRegistration_ok {devices registry : DeviceRegistry} {registration : Registration}
    {receivedAt : TimePoint} {mutation : Mutation}
    (h : devices.applyRegistration registration receivedAt = (.ok mutation, registry)) :
    ∃ record, devices.find registration.deviceId = some record ∧
      mutation.record = DeviceRegistry.registered record
        (devices.registrationRole record registration) registration receivedAt ∧
      mutation.reason ≠ .telemetry := by
  rw [DeviceRegistry.applyRegistration] at h
  split at h
  · cases h
  next record hrecord =>
  split at h
  · cases h
  · cases h
    refine ⟨record, hrecord, rfl, ?_⟩
    dsimp only
    split
    · decide
    · decide

lemma applyTelemetry_ok {devices registry : DeviceRegistry} {deviceId : String}
    {telemetry : Telemetry} {receivedAt : TimePoint} {mutation : Mutation}
    (h : devices.applyTelemetry deviceId telemetry receivedAt = (.ok mutation, registry)) :
    ∃ record, devices.find deviceId = some record ∧
      mutation.record = DeviceRegistry.reported record (devices.telemetryRole record telemetry)
        telemetry receivedAt ∧
      mutation.reason = .telemetry ∧ mutation.statusChanged = decide (record.status ≠ .online) := by
  rw [DeviceRegistry.applyTelemetry] at h
  split at h
  · cases h
  next record hrecord =>
  split at h
  · cases h
  · cases h
    exact ⟨record, hrecord, rfl, rfl, rfl⟩

/-- A registration of a known device of the same type is accepted. -/
lemma applyRegistration_isOk {devices : DeviceRegistry} {registration : Registration}
    {record : DeviceRecord} (hrecord : devices.find registration.deviceId = some record)
    (htype : registration.deviceType = record.deviceType) (receivedAt : TimePoint) :
    ∃ mutation registry, devices.applyRegistration registration receivedAt =
      (.ok mutation, registry) ∧ mutation.record.deviceId = record.deviceId := by
  rw [DeviceRegistry.applyRegistration]
  rw [show devices.records.lookup registration.deviceId = some record from hrecord]
  dsimp only
  rw [if_neg (not_not.mpr htype.symm)]
  exact ⟨_, _, rfl, rfl⟩

/-- The mutations of a scan have the records of the registry after it. -/
lemma expireInactive_changed {devices : DeviceRegistry} (hkeys : RolesIndexed devices)
    {systemNow timeout : TimePoint} {mutation : Mutation}
    (h : mutation ∈ (devices.expireInactive systemNow timeout).1) :
    (devices.expireInactive systemNow timeout).2.find mutation.record.deviceId =
      some mutation.record := by
  obtain ⟨record, hmem, rfl⟩ := List.mem_map.mp h
  obtain ⟨hmem, hinactive⟩ := List.mem_filter.mp hmem
  obtain ⟨deviceId, hrecord⟩ := Map.mem_values.mp hmem
  have hid : (DeviceRegistry.expired record).deviceId = deviceId :=
    hkeys.ids deviceId record hrecord
  have hfind : (devices.expireInactive systemNow timeout).2.find deviceId =
      (devices.records.lookup deviceId).map fun record =>
        if DeviceRegistry.isInactive systemNow timeout record then DeviceRegistry.expired record
        else record := Map.lookup_mapValues _ _ _
  dsimp only
  rw [hid, hfind, hrecord, Option.map_some, if_pos hinactive]

/-- A device that no mutation is about keeps its record. -/
lemma expireInactive_others {devices : DeviceRegistry} (hkeys : RolesIndexed devices)
    {systemNow timeout : TimePoint} {deviceId : String}
    (h : ∀ mutation ∈ (devices.expireInactive systemNow timeout).1,
      mutation.record.deviceId ≠ deviceId) :
    (devices.expireInactive systemNow timeout).2.find deviceId = devices.find deviceId := by
  have hfind : (devices.expireInactive systemNow timeout).2.find deviceId =
      (devices.find deviceId).map fun record =>
        if DeviceRegistry.isInactive systemNow timeout record then DeviceRegistry.expired record
        else record := Map.lookup_mapValues _ _ _
  rw [hfind]
  cases hrecord : devices.find deviceId with
  | none => rfl
  | some record =>
      rw [Option.map_some]
      split
      · next hinactive =>
          have hmem : record ∈ devices.records.values := Map.mem_values.mpr ⟨deviceId, hrecord⟩
          refine absurd (hkeys.ids deviceId record hrecord) ?_
          exact h ⟨DeviceRegistry.expired record, .activityTimeout, true, none⟩
            (List.mem_map.mpr ⟨record, List.mem_filter.mpr ⟨hmem, hinactive⟩, rfl⟩)
      · rfl

lemma expireInactive_ok {devices : DeviceRegistry} (hkeys : RolesIndexed devices)
    {systemNow timeout : TimePoint} {mutation : Mutation}
    (h : mutation ∈ (devices.expireInactive systemNow timeout).1) :
    ∃ record, devices.find mutation.record.deviceId = some record ∧
      mutation.record = DeviceRegistry.expired record ∧ mutation.reason = .activityTimeout := by
  obtain ⟨record, hmem, rfl⟩ := List.mem_map.mp h
  obtain ⟨deviceId, hrecord⟩ := Map.mem_values.mp (List.mem_filter.mp hmem).1
  have hid : record.deviceId = deviceId := hkeys.ids deviceId record hrecord
  exact ⟨record, by rw [← hid] at hrecord; exact hrecord, rfl, rfl⟩

/-! ### All operations -/

/-- What an operation of a running service makes of the record of a known device. -/
def Renews (record newRecord : DeviceRecord) : RegistryInput → Prop
  | .registration registration receivedAt => registration.deviceId = record.deviceId ∧
      ∃ change : RoleChange,
        (change.label = record.dcdwLabel ∨ change.label = registration.dcdwLabel) ∧
        newRecord = DeviceRegistry.registered record change registration receivedAt
  | .telemetry deviceId telemetry receivedAt => deviceId = record.deviceId ∧
      ∃ change : RoleChange,
        (change.label = record.dcdwLabel ∨ change.label = telemetry.dcdwLabel) ∧
        newRecord = DeviceRegistry.reported record change telemetry receivedAt
  | .expireInactive _ _ => newRecord = DeviceRegistry.expired record
  | _ => False

lemma Renews.next {input : RegistryInput} {record newRecord : DeviceRecord}
    (h : Renews record newRecord input) : NextRecord record newRecord := by
  cases input with
  | registration registration receivedAt =>
      obtain ⟨-, change, -, rfl⟩ := h
      exact registered_next _ _ _ _
  | telemetry deviceId telemetry receivedAt =>
      obtain ⟨-, change, -, rfl⟩ := h
      exact reported_next _ _ _ _
  | expireInactive now timeout =>
      rw [show newRecord = DeviceRegistry.expired record from h]
      exact expired_next record
  | _ => exact h.elim

lemma claimRole_label (devices : DeviceRegistry) (record : DeviceRecord) (label : String) :
    (devices.claimRole record label).label = record.dcdwLabel ∨
      (devices.claimRole record label).label = some label := by
  rw [DeviceRegistry.claimRole]
  split
  · exact .inr rfl
  · split
    · exact .inl rfl
    · exact .inr rfl

lemma registrationRole_label (devices : DeviceRegistry) (record : DeviceRecord)
    (registration : Registration) :
    (devices.registrationRole record registration).label = record.dcdwLabel ∨
      (devices.registrationRole record registration).label = registration.dcdwLabel := by
  rw [DeviceRegistry.registrationRole]
  split
  · exact .inl rfl
  · next label hlabel =>
      split
      · exact .inl rfl
      · rw [hlabel]
        exact claimRole_label devices record label

lemma telemetryRole_label (devices : DeviceRegistry) (record : DeviceRecord)
    (telemetry : Telemetry) :
    (devices.telemetryRole record telemetry).label = record.dcdwLabel ∨
      (devices.telemetryRole record telemetry).label = telemetry.dcdwLabel := by
  rw [DeviceRegistry.telemetryRole]
  split
  · next label _ hlabel =>
      rw [hlabel]
      exact claimRole_label devices record label
  · exact .inl rfl

/-- A provisioned record is let in, or nothing happens. -/
lemma addProvisioned_cases (devices : DeviceRegistry) (record : DeviceRecord) :
    devices.next (.addProvisioned record) = devices ∨
      devices.find record.deviceId = none ∧
        Changed devices (devices.next (.addProvisioned record)) record := by
  rw [show devices.next (.addProvisioned record) = (devices.addProvisioned record).2 from rfl]
  rcases hadded : devices.addProvisioned record with ⟨outcome, registry⟩
  cases outcome with
  | ok done => exact .inr ⟨addProvisioned_new hadded, addProvisioned_changed hadded⟩
  | error message =>
      rw [DeviceRegistry.addProvisioned] at hadded
      split at hadded
      · cases hadded
      · cases hadded
        exact .inl rfl

/-- A registration renews the record of its device, or nothing happens. -/
lemma registration_cases {devices : DeviceRegistry} (hkeys : RolesIndexed devices)
    (registration : Registration) (receivedAt : TimePoint) :
    devices.next (.registration registration receivedAt) = devices ∨
      ∃ old record, devices.find record.deviceId = some old ∧
        Renews old record (.registration registration receivedAt) ∧
        Changed devices (devices.next (.registration registration receivedAt)) record := by
  rw [show devices.next (.registration registration receivedAt) =
    (devices.applyRegistration registration receivedAt).2 from rfl]
  cases happlied : (devices.applyRegistration registration receivedAt).1 with
  | error message => exact .inl (applyRegistration_error happlied)
  | ok mutation =>
      have hpair : devices.applyRegistration registration receivedAt =
          (.ok mutation, (devices.applyRegistration registration receivedAt).2) :=
        Prod.ext happlied rfl
      obtain ⟨old, hold, hmutation, -⟩ := applyRegistration_ok hpair
      have hid : old.deviceId = registration.deviceId := hkeys.ids _ old hold
      refine .inr ⟨old, mutation.record, ?_,
        ⟨hid.symm, _, registrationRole_label devices old _, hmutation⟩,
        applyRegistration_changed hpair⟩
      rw [hmutation]
      exact (congrArg devices.find hid).trans hold

lemma telemetry_cases {devices : DeviceRegistry} (hkeys : RolesIndexed devices)
    (deviceId : String) (telemetry : Telemetry) (receivedAt : TimePoint) :
    devices.next (.telemetry deviceId telemetry receivedAt) = devices ∨
      ∃ old record, devices.find record.deviceId = some old ∧
        Renews old record (.telemetry deviceId telemetry receivedAt) ∧
        Changed devices (devices.next (.telemetry deviceId telemetry receivedAt)) record := by
  rw [show devices.next (.telemetry deviceId telemetry receivedAt) =
    (devices.applyTelemetry deviceId telemetry receivedAt).2 from rfl]
  cases happlied : (devices.applyTelemetry deviceId telemetry receivedAt).1 with
  | error message => exact .inl (applyTelemetry_error happlied)
  | ok mutation =>
      have hpair : devices.applyTelemetry deviceId telemetry receivedAt =
          (.ok mutation, (devices.applyTelemetry deviceId telemetry receivedAt).2) :=
        Prod.ext happlied rfl
      obtain ⟨old, hold, hmutation, -, -⟩ := applyTelemetry_ok hpair
      have hid : old.deviceId = deviceId := hkeys.ids _ old hold
      refine .inr ⟨old, mutation.record, ?_,
        ⟨hid.symm, _, telemetryRole_label devices old _, hmutation⟩,
        applyTelemetry_changed hpair⟩
      rw [hmutation]
      exact (congrArg devices.find hid).trans hold

/-- **Where a record comes from**: it was there, it renews the one there was, or it has
just been let in. -/
lemma find_next {devices : DeviceRegistry} (hkeys : RolesIndexed devices) {input : RegistryInput}
    (hload : ∀ records, input ≠ .load records) {deviceId : String} {record : DeviceRecord}
    (h : (devices.next input).find deviceId = some record) :
    devices.find deviceId = some record ∨
      (∃ old, devices.find deviceId = some old ∧ Renews old record input) ∨
      input = .addProvisioned record ∧ devices.find deviceId = none := by
  -- the record of a device that has changed is the new one
  have hnew : ∀ {newRecord}, Changed devices (devices.next input) newRecord →
      devices.find deviceId = some record ∨ deviceId = newRecord.deviceId ∧ record = newRecord := by
    intro newRecord hchanged
    by_cases hid : deviceId = newRecord.deviceId
    · subst hid
      rw [hchanged.found, Option.some_inj] at h
      exact .inr ⟨rfl, h.symm⟩
    · exact .inl (hchanged.others deviceId hid ▸ h)
  cases input with
  | load records => exact absurd rfl (hload records)
  | addProvisioned newRecord =>
      rcases addProvisioned_cases devices newRecord with hsame | ⟨hnone, hchanged⟩
      · exact .inl (hsame ▸ h)
      · rcases hnew hchanged with hold | ⟨rfl, rfl⟩
        · exact .inl hold
        · exact .inr (.inr ⟨rfl, hnone⟩)
  | registration registration receivedAt =>
      rcases registration_cases hkeys registration receivedAt with
        hsame | ⟨old, newRecord, hold, hrenews, hchanged⟩
      · exact .inl (hsame ▸ h)
      · rcases hnew hchanged with hbefore | ⟨rfl, rfl⟩
        · exact .inl hbefore
        · exact .inr (.inl ⟨old, hold, hrenews⟩)
  | telemetry reporter telemetry receivedAt =>
      rcases telemetry_cases hkeys reporter telemetry receivedAt with
        hsame | ⟨old, newRecord, hold, hrenews, hchanged⟩
      · exact .inl (hsame ▸ h)
      · rcases hnew hchanged with hbefore | ⟨rfl, rfl⟩
        · exact .inl hbefore
        · exact .inr (.inl ⟨old, hold, hrenews⟩)
  | expireInactive now timeout =>
      obtain ⟨old, hold, hrecord⟩ := Option.map_eq_some_iff.mp
        ((Map.lookup_mapValues _ devices.records deviceId).symm.trans h)
      split at hrecord
      · exact .inr (.inl ⟨old, hold, hrecord.symm⟩)
      · exact .inl (hold.trans (congrArg some hrecord))

/-- A known device stays known. -/
lemma find_next_none {devices : DeviceRegistry} (hkeys : RolesIndexed devices)
    {input : RegistryInput} (hload : ∀ records, input ≠ .load records) {deviceId : String}
    (h : (devices.next input).find deviceId = none) : devices.find deviceId = none := by
  have hothers : ∀ {newRecord}, Changed devices (devices.next input) newRecord →
      devices.find deviceId = none := by
    intro newRecord hchanged
    by_cases hid : deviceId = newRecord.deviceId
    · rw [hid, hchanged.found] at h
      cases h
    · exact hchanged.others deviceId hid ▸ h
  cases input with
  | load records => exact absurd rfl (hload records)
  | addProvisioned newRecord =>
      rcases addProvisioned_cases devices newRecord with hsame | ⟨-, hchanged⟩
      · exact hsame ▸ h
      · exact hothers hchanged
  | registration registration receivedAt =>
      rcases registration_cases hkeys registration receivedAt with hsame | ⟨_, _, _, _, hchanged⟩
      · exact hsame ▸ h
      · exact hothers hchanged
  | telemetry reporter telemetry receivedAt =>
      rcases telemetry_cases hkeys reporter telemetry receivedAt with hsame | ⟨_, _, _, _, hchanged⟩
      · exact hsame ▸ h
      · exact hothers hchanged
  | expireInactive now timeout =>
      have hmapped := (Map.lookup_mapValues _ devices.records deviceId).symm.trans h
      exact Option.map_eq_none_iff.mp hmapped

/-! ### Properties of all records -/

/-- What the operation lets in or renews has the property. -/
structure Keeps (P : DeviceRecord → Prop) (devices : DeviceRegistry) (input : RegistryInput) :
    Prop where
  not_load : ∀ records, input ≠ .load records
  added : ∀ record, input = .addProvisioned record → devices.find record.deviceId = none →
    P record
  renewed : ∀ record newRecord, Renews record newRecord input → P record → P newRecord

section

variable {P : DeviceRecord → Prop} {devices : DeviceRegistry}

/-- **One operation** keeps a property of all records. -/
lemma Keeps.records {input : RegistryInput} (hkeeps : Keeps P devices input)
    (hkeys : RolesIndexed devices)
    (h : ∀ deviceId record, devices.find deviceId = some record → P record) :
    ∀ deviceId record, (devices.next input).find deviceId = some record → P record := by
  intro deviceId record hrecord
  rcases find_next hkeys hkeeps.not_load hrecord with hold | ⟨old, hold, hrenews⟩ | ⟨rfl, hnone⟩
  · exact h deviceId record hold
  · exact hkeeps.renewed old record hrenews (h deviceId old hold)
  · have hid : record.deviceId = deviceId :=
      (next_rolesIndexed hkeys (.addProvisioned record)).ids deviceId record hrecord
    subst hid
    exact hkeeps.added record rfl hnone

/-- A later directory knows more devices, so less is let in. -/
lemma Keeps.after {input other : RegistryInput} (hkeeps : Keeps P devices input)
    (hkeys : RolesIndexed devices) (h : Keeps P devices other) :
    Keeps P (devices.next input) other where
  not_load := h.not_load
  added record hadded hnone :=
    h.added record hadded (find_next_none hkeys hkeeps.not_load hnone)
  renewed := h.renewed

lemma foldl_rolesIndexed (hkeys : RolesIndexed devices) (inputs : List RegistryInput) :
    RolesIndexed (inputs.foldl DeviceRegistry.next devices) := by
  induction inputs generalizing devices with
  | nil => exact hkeys
  | cons input inputs ih => exact ih (next_rolesIndexed hkeys input)

/-- **All operations of a step** do. -/
lemma foldl_records {inputs : List RegistryInput} (hkeeps : ∀ input ∈ inputs, Keeps P devices input)
    (hkeys : RolesIndexed devices)
    (h : ∀ deviceId record, devices.find deviceId = some record → P record) :
    ∀ deviceId record,
      (inputs.foldl DeviceRegistry.next devices).find deviceId = some record → P record := by
  induction inputs generalizing devices with
  | nil => exact h
  | cons input inputs ih =>
      have hinput := hkeeps input List.mem_cons_self
      exact ih (fun other hother =>
        hinput.after hkeys (hkeeps other (List.mem_cons_of_mem _ hother)))
        (next_rolesIndexed hkeys input) (hinput.records hkeys h)

/-- A device that is not known after them was not known before. -/
lemma foldl_find_none {inputs : List RegistryInput}
    (hload : ∀ input ∈ inputs, ∀ records, input ≠ .load records) (hkeys : RolesIndexed devices)
    {deviceId : String} (h : (inputs.foldl DeviceRegistry.next devices).find deviceId = none) :
    devices.find deviceId = none := by
  induction inputs generalizing devices with
  | nil => exact h
  | cons input inputs ih =>
      have hrest := ih (fun other hother => hload other (List.mem_cons_of_mem _ hother))
        (next_rolesIndexed hkeys input) h
      exact find_next_none hkeys (hload input List.mem_cons_self) hrest

end

end CnsServer
