/-
A restart of the service: the directory loads what the tables hold, and takes in the
devices that are provisioned.

The tables and the directory have different rules for the roles of the devices.  For the
tables a device without a school collides with nobody; in the directory it has school 0.
And the directory learns of a provisioned device, and the tables of a changed label, only
later.

* `RegistryInput.asked?`, `role_next`: the role that a report asks for, and where a role
  comes from;
* `DeviceSystem.StoresApart`, `SystemInput.RolesApart`: the steps that give nobody a role
  that is held on the other side, and no label to two devices without a school;
* `RolesApart`: no two devices without a school share a label in the tables, and no device
  of the directory has the role of one that the directory does not know yet;
* `next_apart`, `provision_apart`, `write_apart`, `restart_apart`: one lemma for each kind
  of step;
* `restart_loads`: in runs of such steps **the tables are loaded, and the provisioned
  devices let in**;
* `restart_loads_iff`: **when the tables are loaded, and a provisioned device is let in**;
* `restart_refused`: two devices without a school are provisioned under one label, and the
  tables are not loaded any more.
-/
import CnsServer.Properties.ProvisionedSources

namespace CnsServer

open DeviceService

/-! ### The condition -/

/-- The role that a report asks for, if its device may have it. -/
def RegistryInput.asked? (devices : DeviceRegistry) : RegistryInput → Option (ℤ × String)
  | .registration candidate _ =>
      (devices.find candidate.deviceId).bind fun record =>
        if record.deviceType = candidate.deviceType then
          candidate.dcdwLabel.map fun label => (record.schoolId, label)
        else none
  | .telemetry deviceId report _ =>
      (devices.find deviceId).bind fun record =>
        if !DeviceRegistry.mistypes record report && record.dcdwLabel.isNone then
          report.dcdwLabel.map fun label => (record.schoolId, label)
        else none
  | _ => none

/-- A device that the directory does not know has the role in the tables. -/
def DeviceTables.Waits (t : DeviceTables) (devices : DeviceRegistry) (role : ℤ × String) : Prop :=
  ∃ deviceId ∈ t.devices.keys, devices.find deviceId = none ∧
    Index.rolesOf DeviceRow.role t.devices deviceId = some role

/-- No other device without a school has the label in the tables. -/
def DeviceTables.LacksLabel (t : DeviceTables) (deviceId label : String) : Prop :=
  ∀ other ∈ t.devices.keys, other ≠ deviceId → ∀ row ∈ t.devices.lookup other,
    row.schoolId = none → row.dcdwLabel ≠ some label

/-- The number of the school that a registration names, as it is loaded: none if the
tables do not have it yet. -/
def DeviceTables.schoolAsked (t : DeviceTables) (registration : Registration) : Option ℤ :=
  match registration.schoolName with
  | none => some 0
  | some name => t.schoolIdOf name

/-- The operations, one after the other, ask for no role of a device that the directory
does not know. -/
def AsksApart (t : DeviceTables) : DeviceRegistry → List RegistryInput → Prop
  | _, [] => True
  | devices, input :: inputs =>
      (∀ role ∈ input.asked? devices, ¬t.Waits devices role) ∧
        AsksApart t (devices.next input) inputs

/-- A task stores no label of another device without a school, and a new device comes
without a role that a device of the directory has. -/
def DeviceSystem.StoresApart (s : DeviceSystem) : Hand → Prop
  | .provision task =>
      s.tables.devices.lookup task.registration.deviceId = none →
        ∀ label ∈ task.registration.dcdwLabel,
          (task.registration.schoolName = none →
            s.tables.LacksLabel task.registration.deviceId label) ∧
          ∀ schoolId ∈ s.tables.schoolAsked task.registration,
            ∀ record ∈ s.registry.records.values, record.role ≠ some (schoolId, label)
  | .write desired =>
      desired.writeMetadata = true → ∀ row ∈ s.tables.devices.lookup desired.record.deviceId,
        row.schoolId = none → ∀ label ∈ desired.record.dcdwLabel,
          s.tables.LacksLabel desired.record.deviceId label
  | _ => True

/-- A step that keeps the roles apart. -/
def SystemInput.RolesApart (cfg : DeviceServiceConfig) (s : DeviceSystem) (input : SystemInput) :
    Prop :=
  match input with
  | .runtime _ committed =>
      (committed = true → s.StoresApart s.runtime.worker.hand) ∧
        AsksApart s.tables s.registry (input.registryInputs cfg s)
  | .restart _ _ => True

instance (t : DeviceTables) (devices : DeviceRegistry) (role : ℤ × String) :
    Decidable (t.Waits devices role) :=
  inferInstanceAs (Decidable (∃ _ ∈ _, _))

instance (t : DeviceTables) (deviceId label : String) : Decidable (t.LacksLabel deviceId label) :=
  inferInstanceAs (Decidable (∀ _ ∈ _, _))

instance decidableAsksApart (t : DeviceTables) :
    ∀ devices inputs, Decidable (AsksApart t devices inputs)
  | _, [] => .isTrue trivial
  | devices, input :: inputs =>
      haveI := decidableAsksApart t (devices.next input) inputs
      inferInstanceAs (Decidable (_ ∧ _))

instance (s : DeviceSystem) : ∀ hand, Decidable (s.StoresApart hand)
  | .provision task => inferInstanceAs (Decidable (_ = none → ∀ label ∈ _,
      (_ = none → s.tables.LacksLabel task.registration.deviceId label) ∧ ∀ _ ∈ _, ∀ _ ∈ _, _))
  | .write desired => inferInstanceAs (Decidable (_ = true → ∀ _ ∈ _, _ = none → ∀ label ∈ _,
      s.tables.LacksLabel desired.record.deviceId label))
  | .free => .isTrue trivial
  | .reconnect => .isTrue trivial
  | .command _ _ => .isTrue trivial
  | .result _ => .isTrue trivial

instance (cfg : DeviceServiceConfig) (s : DeviceSystem) :
    ∀ input : SystemInput, Decidable (input.RolesApart cfg s)
  | .runtime _ _ => inferInstanceAs (Decidable ((_ → s.StoresApart _) ∧ _))
  | .restart _ _ => .isTrue trivial

section

variable {t t' : DeviceTables} {devices : DeviceRegistry} {deviceId : String}
  {role : ℤ × String}

lemma waits_iff : t.Waits devices role ↔ ∃ deviceId row, t.devices.lookup deviceId = some row ∧
    devices.find deviceId = none ∧ row.role = some role := by
  constructor
  · rintro ⟨deviceId, -, hnone, hrole⟩
    obtain ⟨row, hrow, hsame⟩ := Index.rolesOf_some.mp hrole
    exact ⟨deviceId, row, hrow, hnone, hsame⟩
  · rintro ⟨deviceId, row, hrow, hnone, hrole⟩
    exact ⟨deviceId, Map.mem_keys_iff.mpr ⟨row, hrow⟩, hnone,
      Index.rolesOf_some.mpr ⟨row, hrow, hrole⟩⟩

lemma DeviceTables.LacksLabel.row {label other : String} {row : DeviceRow}
    (h : t.LacksLabel deviceId label) (hrow : t.devices.lookup other = some row)
    (hne : other ≠ deviceId) (hschool : row.schoolId = none) : row.dcdwLabel ≠ some label :=
  h other (Map.mem_keys_iff.mpr ⟨row, hrow⟩) hne row hrow hschool

/-! ### The invariant -/

/-- The role of a record is the one of the row of its device. -/
def DeviceTables.RoleOf (t : DeviceTables) (record : DeviceRecord) : Prop :=
  ∃ row, t.devices.lookup record.deviceId = some row ∧ record.role = row.role

/-- The school of a record is in the tables, if there is one. -/
def DeviceTables.SchoolOf (t : DeviceTables) (record : DeviceRecord) : Prop :=
  record.schoolId = 0 ∨ (t.schools.lookup record.schoolId).isSome = true

/-- The directory stands apart from the tables: it has no role of a device that it does
not know. -/
def DirectoryApart (t : DeviceTables) (devices : DeviceRegistry) : Prop :=
  ∀ deviceId record, devices.find deviceId = some record → ∀ role, record.role = some role →
    ¬t.Waits devices role

/-- The roles are apart, in the tables and between the tables and the directory. -/
structure RolesApart (s : DeviceSystem) : Prop where
  tables : s.tables.SchoollessApart
  directory : DirectoryApart s.tables s.registry
  schools : ∀ deviceId record, s.registry.find deviceId = some record → s.tables.SchoolOf record

lemma DeviceTables.Holds.roleOf {record : DeviceRecord} (h : t.Holds record) : t.RoleOf record := by
  obtain ⟨columns, hselect, hread⟩ := h
  obtain ⟨-, hrow, hschool⟩ := select_some hselect
  exact ⟨columns.row, hrow, readAs_role (deviceFromRow_readAs hread) hschool⟩

lemma DeviceTables.Holds.schoolOf {record : DeviceRecord} (h : t.Holds record) :
    t.SchoolOf record := by
  obtain ⟨columns, hselect, hread⟩ := h
  obtain ⟨-, hrow, hschool⟩ := select_some hselect
  rw [DeviceTables.SchoolOf, (deviceFromRow_readAs hread).schoolId, hschool]
  cases hid : columns.row.schoolId with
  | none => exact .inl rfl
  | some schoolId => exact .inr (t.device_school _ _ hrow schoolId hid)

/-- Two devices of the tables have two roles, so that the role of one that the directory
knows does not wait. -/
lemma not_waits (h : t.SchoollessApart) {record : DeviceRecord} (hrecord : t.RoleOf record)
    (hknown : (devices.find record.deviceId).isSome = true) (hrole : record.role = some role) :
    ¬t.Waits devices role := by
  intro hwaits
  obtain ⟨row, hrow, hsame⟩ := hrecord
  obtain ⟨other, row', hrow', hnone, hrole'⟩ := waits_iff.mp hwaits
  have hne : record.deviceId ≠ other := by
    rintro rfl
    rw [hnone] at hknown
    cases hknown
  exact rows_apart h hrow hrow' hne (hsame.symm.trans hrole) hrole'

/-! ### The operations of the directory -/

/-- A directory that knows more leaves fewer waiting. -/
lemma waits_next (hkeys : RolesIndexed devices) {input : RegistryInput}
    (hload : ∀ records, input ≠ .load records) (h : t.Waits (devices.next input) role) :
    t.Waits devices role := by
  obtain ⟨deviceId, hmem, hnone, hrole⟩ := h
  exact ⟨deviceId, hmem, find_next_none hkeys hload hnone, hrole⟩

/-- A label that is kept keeps the role, and another one is asked for. -/
lemma role_of_label (old : DeviceRecord) {record : DeviceRecord} {asked : Option String}
    (hrole : record.role = some role) (hschool : record.schoolId = old.schoolId)
    (hlabel : record.dcdwLabel = old.dcdwLabel ∨ record.dcdwLabel = asked) :
    old.role = some role ∨ asked.map (fun label => (old.schoolId, label)) = some role := by
  rw [DeviceRecord.role, hschool] at hrole
  rcases hlabel with hkept | hasked
  · rw [hkept] at hrole
    exact .inl hrole
  · rw [hasked] at hrole
    exact .inr hrole

/-- A change of one record. -/
lemma changed_find {registry : DeviceRegistry} {newRecord record : DeviceRecord}
    (hchanged : Changed devices registry newRecord) (h : registry.find deviceId = some record) :
    devices.find deviceId = some record ∨ deviceId = newRecord.deviceId ∧ record = newRecord := by
  by_cases hid : deviceId = newRecord.deviceId
  · subst hid
    rw [hchanged.found, Option.some_inj] at h
    exact .inr ⟨rfl, h.symm⟩
  · exact .inl (hchanged.others deviceId hid ▸ h)

lemma registration_role (hkeys : RolesIndexed devices) {registration : Registration}
    {receivedAt : TimePoint} {record : DeviceRecord}
    (h : (devices.next (.registration registration receivedAt)).find deviceId = some record)
    (hrole : record.role = some role) :
    (∃ old, devices.find deviceId = some old ∧ old.role = some role) ∨
      RegistryInput.asked? devices (.registration registration receivedAt) = some role := by
  rw [show devices.next (.registration registration receivedAt) =
    (devices.applyRegistration registration receivedAt).2 from rfl] at h
  rw [DeviceRegistry.applyRegistration] at h
  split at h
  · exact .inl ⟨record, h, hrole⟩
  next old hold =>
  split at h
  · exact .inl ⟨record, h, hrole⟩
  next htype =>
  have hchanged := @replace_changed devices old (DeviceRegistry.registered old
    (devices.registrationRole old registration) registration receivedAt)
    (devices.registrationRole old registration) rfl
  rcases changed_find hchanged h with hbefore | ⟨rfl, rfl⟩
  · exact .inl ⟨record, hbefore, hrole⟩
  · have hid : old.deviceId = registration.deviceId := hkeys.ids _ old hold
    have hfind : devices.find registration.deviceId = some old := hold
    rcases role_of_label old hrole rfl (registrationRole_label devices old registration) with
      hkept | hasked
    · exact .inl ⟨old, (congrArg devices.find hid).trans hold, hkept⟩
    · refine .inr ?_
      rw [RegistryInput.asked?, hfind, Option.bind_some, if_pos (not_not.mp htype)]
      exact hasked

/-- A telemetry gives a label only to a device without one. -/
lemma telemetryRole_kept {record : DeviceRecord} {telemetry : Telemetry}
    (h : record.dcdwLabel.isNone = false) :
    (devices.telemetryRole record telemetry).label = record.dcdwLabel := by
  rw [DeviceRegistry.telemetryRole]
  split
  · next label hnone hlabel =>
      rw [hnone] at h
      cases h
  · rfl

lemma telemetry_role (hkeys : RolesIndexed devices) {reporter : String} {telemetry : Telemetry}
    {receivedAt : TimePoint} {record : DeviceRecord}
    (h : (devices.next (.telemetry reporter telemetry receivedAt)).find deviceId = some record)
    (hrole : record.role = some role) :
    (∃ old, devices.find deviceId = some old ∧ old.role = some role) ∨
      RegistryInput.asked? devices (.telemetry reporter telemetry receivedAt) = some role := by
  rw [show devices.next (.telemetry reporter telemetry receivedAt) =
    (devices.applyTelemetry reporter telemetry receivedAt).2 from rfl] at h
  rw [DeviceRegistry.applyTelemetry] at h
  split at h
  · exact .inl ⟨record, h, hrole⟩
  next old hold =>
  split at h
  · exact .inl ⟨record, h, hrole⟩
  next htype =>
  have hchanged := @replace_changed devices old (DeviceRegistry.reported old
    (devices.telemetryRole old telemetry) telemetry receivedAt)
    (devices.telemetryRole old telemetry) rfl
  rcases changed_find hchanged h with hbefore | ⟨rfl, rfl⟩
  · exact .inl ⟨record, hbefore, hrole⟩
  · have hid : old.deviceId = reporter := hkeys.ids _ old hold
    have hfind : devices.find reporter = some old := hold
    have hsame : devices.find old.deviceId = some old := (congrArg devices.find hid).trans hold
    cases hlabel : old.dcdwLabel.isNone with
    | false =>
        have hkept : (devices.telemetryRole old telemetry).label = old.dcdwLabel ∨
            (devices.telemetryRole old telemetry).label = none := .inl (telemetryRole_kept hlabel)
        rcases role_of_label old hrole rfl hkept with hold' | hnone
        · exact .inl ⟨old, hsame, hold'⟩
        · cases hnone
    | true =>
        rcases role_of_label old hrole rfl (telemetryRole_label devices old telemetry) with
          hkept | hasked
        · exact .inl ⟨old, hsame, hkept⟩
        · refine .inr ?_
          rw [RegistryInput.asked?, hfind, Option.bind_some, Bool.eq_false_iff.mpr htype, hlabel]
          exact hasked

/-- **Where a role comes from**: its device had it, has asked for it, or has just been let
in. -/
lemma role_next (hkeys : RolesIndexed devices) {input : RegistryInput}
    (hload : ∀ records, input ≠ .load records) {record : DeviceRecord}
    (h : (devices.next input).find deviceId = some record) (hrole : record.role = some role) :
    (∃ old, devices.find deviceId = some old ∧ old.role = some role) ∨
      input.asked? devices = some role ∨
      input = .addProvisioned record ∧ devices.find deviceId = none := by
  cases input with
  | load records => exact absurd rfl (hload records)
  | addProvisioned newRecord =>
      rcases find_next hkeys hload h with hold | ⟨old, -, hrenews⟩ | hadded
      · exact .inl ⟨record, hold, hrole⟩
      · exact hrenews.elim
      · exact .inr (.inr hadded)
  | expireInactive now timeout =>
      rcases find_next hkeys hload h with hold | ⟨old, hold, hrenews⟩ | ⟨hadded, -⟩
      · exact .inl ⟨record, hold, hrole⟩
      · rw [show record = DeviceRegistry.expired old from hrenews] at hrole
        exact .inl ⟨old, hold, hrole⟩
      · cases hadded
  | registration registration receivedAt =>
      rcases registration_role hkeys h hrole with hold | hasked
      · exact .inl hold
      · exact .inr (.inl hasked)
  | telemetry reporter telemetry receivedAt =>
      rcases telemetry_role hkeys h hrole with hold | hasked
      · exact .inl hold
      · exact .inr (.inl hasked)

/-- **One operation** keeps the directory apart. -/
lemma next_apart (h : DirectoryApart t devices) (htables : t.SchoollessApart)
    (hkeys : RolesIndexed devices) {input : RegistryInput} (hbrings : Brings t devices input)
    (hasks : ∀ role ∈ input.asked? devices, ¬t.Waits devices role) :
    DirectoryApart t (devices.next input) := by
  intro deviceId record hrecord role hrole hwaits
  have hbefore := waits_next hkeys hbrings.not_load hwaits
  rcases role_next hkeys hbrings.not_load hrecord hrole with ⟨old, hold, hsame⟩ | hasked |
    ⟨rfl, hnone⟩
  · exact h deviceId old hold role hsame hbefore
  · exact hasks role hasked hbefore
  · -- the device that comes in has the role of its row, which no other row has
    have hid : record.deviceId = deviceId :=
      (next_rolesIndexed hkeys (.addProvisioned record)).ids deviceId record hrecord
    subst hid
    exact not_waits htables (hbrings hnone).roleOf (by rw [hrecord]; rfl) hrole hwaits

/-- **All operations of a step** do. -/
lemma foldl_apart {inputs : List RegistryInput} (h : DirectoryApart t devices)
    (htables : t.SchoollessApart) (hkeys : RolesIndexed devices)
    (hbrings : ∀ input ∈ inputs, Brings t devices input) (hasks : AsksApart t devices inputs) :
    DirectoryApart t (inputs.foldl DeviceRegistry.next devices) := by
  induction inputs generalizing devices with
  | nil => exact h
  | cons input inputs ih =>
      obtain ⟨hfirst, hrest⟩ := hasks
      have hinput := hbrings input List.mem_cons_self
      refine ih (next_apart h htables hkeys hinput hfirst) (next_rolesIndexed hkeys input)
        (fun other hother => ?_) hrest
      have hlater := hbrings other (List.mem_cons_of_mem _ hother)
      cases other with
      | addProvisioned record =>
          exact fun hnone => hlater (find_next_none hkeys hinput.not_load hnone)
      | _ => exact hlater

/-- The schools of the records stay in the tables. -/
lemma foldl_schools {inputs : List RegistryInput} (hkeys : RolesIndexed devices)
    (hbrings : ∀ input ∈ inputs, Brings t devices input)
    (h : ∀ deviceId record, devices.find deviceId = some record → t.SchoolOf record) :
    ∀ deviceId record, (inputs.foldl DeviceRegistry.next devices).find deviceId = some record →
      t.SchoolOf record := by
  refine foldl_records (fun input hinput => ⟨(hbrings input hinput).not_load, ?_, ?_⟩) hkeys h
  · rintro record rfl hnone
    exact (hbrings _ hinput hnone).schoolOf
  · intro record newRecord hrenews hold
    rw [DeviceTables.SchoolOf, hrenews.next.schoolId]
    exact hold

/-! ### The transactions -/

/-- A new row keeps the tables apart if no other device without a school has its label. -/
lemma tables_apart (h : t.SchoollessApart)
    (hothers : ∀ other ≠ deviceId, t'.devices.lookup other = t.devices.lookup other)
    (hself : ∀ row, t'.devices.lookup deviceId = some row → row.schoolId = none →
      ∀ label ∈ row.dcdwLabel, t.LacksLabel deviceId label) : t'.SchoollessApart := by
  intro first row second row' hrow hrow' hne hschool hschool' label hlabel hlabel'
  by_cases hfirst : first = deviceId
  · subst hfirst
    rw [hothers second hne.symm] at hrow'
    exact (hself row hrow hschool label hlabel).row hrow' hne.symm hschool' hlabel'
  · rw [hothers first hfirst] at hrow
    by_cases hsecond : second = deviceId
    · subst hsecond
      exact (hself row' hrow' hschool' label hlabel').row hrow hne hschool hlabel
    · rw [hothers second hsecond] at hrow'
      exact h first row second row' hrow hrow' hne hschool hschool' label hlabel hlabel'

/-- A row that is there has its label for itself. -/
lemma DeviceTables.SchoollessApart.lacks (h : t.SchoollessApart) {row : DeviceRow}
    (hrow : t.devices.lookup deviceId = some row) (hschool : row.schoolId = none) {label : String}
    (hlabel : row.dcdwLabel = some label) : t.LacksLabel deviceId label := by
  intro other _ hne other_row hother hschool'
  exact h deviceId row other other_row hrow hother hne.symm hschool hschool' label hlabel

/-- A known device does not wait with its row. -/
lemma waits_others (hothers : ∀ other ≠ deviceId, t'.devices.lookup other = t.devices.lookup other)
    (h : t'.Waits devices role) :
    t.Waits devices role ∨ devices.find deviceId = none ∧
      ∃ row, t'.devices.lookup deviceId = some row ∧ row.role = some role := by
  obtain ⟨other, row, hrow, hnone, hrole⟩ := waits_iff.mp h
  by_cases hid : other = deviceId
  · subst hid
    exact .inr ⟨hnone, row, hrow, hrole⟩
  · rw [hothers other hid] at hrow
    exact .inl (waits_iff.mpr ⟨other, row, hrow, hnone, hrole⟩)

lemma DeviceTables.SchoolOf.mono {record : DeviceRecord} (h : t.SchoolOf record)
    (hkept : ∀ schoolId name, t.schools.lookup schoolId = some name →
      t'.schools.lookup schoolId = some name) : t'.SchoolOf record := by
  refine h.imp_right fun hsome => ?_
  obtain ⟨name, hname⟩ := Option.isSome_iff_exists.mp hsome
  rw [hkept _ name hname]
  rfl

/-- The school of a new row is the one that was asked for, or a new one. -/
lemma provisioned_school {registration : Registration} {schoolId : Option ℤ}
    (hkept : ∀ schoolId name, t.schools.lookup schoolId = some name →
      t'.schools.lookup schoolId = some name)
    (hnone : registration.schoolName = none → schoolId = none)
    (hname : schoolId.bind t'.schools.lookup = registration.schoolName) :
    t.schoolAsked registration = some (schoolId.getD 0) ∨
      0 < schoolId.getD 0 ∧ t.schools.lookup (schoolId.getD 0) = none := by
  cases hasked : registration.schoolName with
  | none =>
      rw [hnone hasked]
      refine .inl ?_
      rw [DeviceTables.schoolAsked, hasked]
      rfl
  | some name =>
      rw [hasked] at hname
      obtain ⟨found, rfl, hfound⟩ := Option.bind_eq_some_iff.mp hname
      cases hbefore : t.schools.lookup found with
      | none => exact .inr ⟨(t'.school_ids found name hfound).1, hbefore⟩
      | some other =>
          have hsame : some other = some name := (hkept found other hbefore).symm.trans hfound
          refine .inl ?_
          rw [DeviceTables.schoolAsked, hasked]
          exact DeviceTables.schoolIdOf_some.mpr (hbefore.trans hsame)

end

section

variable {wcfg : WorkerConfig} {cfg : DeviceServiceConfig} {s : DeviceSystem} {t : DeviceTables}

/-- What a transaction leaves in the tables goes with the directory there is. -/
structure StaysApart (s : DeviceSystem) (t : DeviceTables) : Prop where
  tables : t.SchoollessApart
  directory : DirectoryApart t s.registry
  schools : ∀ schoolId name, s.tables.schools.lookup schoolId = some name →
    t.schools.lookup schoolId = some name

/-- **A provision** of a role that nobody has. -/
lemma provision_apart (h : RolesApart s) (hstores : s.StoresApart s.runtime.worker.hand)
    {task : ProvisionTask}
    {record : DeviceRecord} (hhand : s.runtime.worker.hand = .provision task)
    (hprovisioned : s.tables.provisionDevice task.registration task.receivedAt =
      .ok (record, t)) : StaysApart s t := by
  have hspec := DeviceTables.provisionDevice_ok hprovisioned
  have hothers := fun other hne => (hspec.others other hne).1
  simp only [DeviceSystem.StoresApart, hhand] at hstores
  rcases hspec.row with ⟨row, hbefore, hrow⟩ | ⟨hnew, schoolId, hrow, hnone, hname⟩
  · -- the device has its row already
    have hsame : ∀ other, t.devices.lookup other = s.tables.devices.lookup other := by
      intro other
      by_cases hid : other = task.registration.deviceId
      · rw [hid, hrow, hbefore]
      · exact hothers other hid
    refine ⟨fun first row second row' hfirst hsecond => ?_, fun deviceId record hrecord role hrole
      hwaits => ?_, hspec.schools⟩
    · rw [hsame] at hfirst hsecond
      exact h.tables first row second row' hfirst hsecond
    · obtain ⟨other, row, hother, hunknown, hsameRole⟩ := waits_iff.mp hwaits
      rw [hsame] at hother
      exact h.directory deviceId record hrecord role hrole
        (waits_iff.mpr ⟨other, row, hother, hunknown, hsameRole⟩)
  · have hfree := hstores hnew
    refine ⟨tables_apart h.tables hothers fun row hself hschool label hlabel => ?_,
      fun deviceId record hrecord role hrole hwaits => ?_, hspec.schools⟩
    · rw [hrow] at hself
      cases hself
      refine (hfree label hlabel).1 ?_
      rw [← hname, show schoolId = none from hschool]
      rfl
    · rcases waits_others hothers hwaits with hbefore | ⟨-, row, hself, hsame⟩
      · exact h.directory deviceId record hrecord role hrole hbefore
      · rw [hrow] at hself
        cases hself
        obtain ⟨label, hlabel, rfl⟩ := Option.map_eq_some_iff.mp hsame
        rcases provisioned_school hspec.schools hnone hname with hasked | ⟨hpositive, hunknown⟩
        · exact (hfree label hlabel).2 _ hasked record
            (Map.mem_values.mpr ⟨deviceId, hrecord⟩) hrole
        · -- no device of the directory is of a school that is new in the tables
          obtain ⟨label', -, hsame'⟩ := Option.map_eq_some_iff.mp hrole
          have hschool : record.schoolId = schoolId.getD 0 := (Prod.mk.inj hsame').1
          rcases h.schools deviceId record hrecord with hzero | hthere
          · omega
          · rw [hschool, hunknown] at hthere
            cases hthere

/-- **A write** of a label that nobody else has. -/
lemma write_apart (h : RolesApart s) (hstores : s.StoresApart s.runtime.worker.hand)
    {desired : DesiredDeviceWrite}
    (hhand : s.runtime.worker.hand = .write desired)
    (hknown : (s.registry.find desired.deviceId).isSome = true)
    (hwritten : s.tables.writeDeviceState desired = .ok t) : StaysApart s t := by
  have hspec := DeviceTables.writeDeviceState_ok hwritten
  have hothers : ∀ other ≠ desired.record.deviceId,
      t.devices.lookup other = s.tables.devices.lookup other := by
    intro other hne
    rw [hspec.devices, if_neg hne]
  simp only [DeviceSystem.StoresApart, hhand] at hstores
  refine ⟨tables_apart h.tables hothers fun row hself hschool label hlabel => ?_,
    fun deviceId record hrecord role hrole hwaits => ?_, fun schoolId name hname => ?_⟩
  · rw [hspec.devices, if_pos rfl] at hself
    obtain ⟨before, hbefore, rfl⟩ := Option.map_eq_some_iff.mp hself
    simp only [DeviceTables.writtenRow] at hschool hlabel
    split at hlabel
    · next hmetadata =>
        rw [if_pos hmetadata] at hschool
        exact hstores hmetadata before hbefore hschool label hlabel
    · next hmetadata =>
        rw [if_neg hmetadata] at hschool
        exact h.tables.lacks hbefore hschool hlabel
  · rcases waits_others hothers hwaits with hbefore | ⟨hnone, -⟩
    · exact h.directory deviceId record hrecord role hrole hbefore
    · rw [show s.registry.find desired.deviceId = none from hnone] at hknown
      cases hknown
  · rw [hspec.schools]
    exact hname

/-- **The transactions** that store nothing twice. -/
lemma transaction_apart (h : RolesApart s) (hstored : StoredDevices s) {input : RuntimeInput}
    {committed : Bool} (henabled : (SystemInput.runtime input committed).Enabled cfg s)
    (hstores : committed = true → s.StoresApart s.runtime.worker.hand) :
    StaysApart s ((SystemInput.runtime input committed).apply wcfg cfg s).tables := by
  simp only [SystemInput.apply]
  cases committed with
  | false => exact ⟨h.tables, h.directory, fun _ _ => id⟩
  | true =>
      rw [if_pos rfl]
      rcases committed_cases henabled with
        hnone | ⟨task, outcome, now, -, hhand, hends⟩ | ⟨desired, outcome, now, -, hhand, hends⟩
      · cases hnone
      · obtain ⟨record, hrecord⟩ := hends.ok
        obtain ⟨⟨found, t⟩, hprovisioned, -⟩ := map_ok hrecord
        rw [transaction_provision hhand hprovisioned]
        exact provision_apart h (hstores rfl) hhand hprovisioned
      · obtain ⟨done, hdone⟩ := hends.ok
        obtain ⟨t, hwritten, -⟩ := map_ok hdone
        rw [transaction_write hhand hwritten]
        exact write_apart h (hstores rfl) hhand
          (hstored.writes desired (.inl (congrArg Hand.device hhand))).1 hwritten

/-! ### The steps -/

/-- **A step of the runtime.** -/
lemma runtime_apart (h : RolesApart s) (hstored : StoredDevices s) (hkeys : RolesIndexed s.registry)
    {input : RuntimeInput} {committed : Bool}
    (henabled : (SystemInput.runtime input committed).Enabled cfg s)
    (hroles : (SystemInput.runtime input committed).RolesApart cfg s) :
    RolesApart ((SystemInput.runtime input committed).apply wcfg cfg s) := by
  have hbrings := system_brings hstored henabled
  have htables := @transaction_apart wcfg cfg s h hstored input committed henabled hroles.1
  cases input with
  | service input =>
      have hnone := uncommitted_of_service henabled
      subst hnone
      refine ⟨h.tables, ?_, ?_⟩
      · rw [registry_apply]
        exact foldl_apart h.directory h.tables hkeys hbrings hroles.2
      · rw [registry_apply]
        exact foldl_schools hkeys hbrings h.schools
  | worker input =>
      exact ⟨htables.tables, htables.directory, fun deviceId record hrecord =>
        (h.schools deviceId record hrecord).mono htables.schools⟩
  | deliver =>
      exact ⟨htables.tables, htables.directory, fun deviceId record hrecord =>
        (h.schools deviceId record hrecord).mono htables.schools⟩

/-- **A start of the service**: the directory has the roles of the tables. -/
lemma restart_apart (htables : t.SchoollessApart) {records : List DeviceRecord}
    (hrecords : t.loadDevices = .ok records) (systemNow : TimePoint) (now : Option TimePoint) :
    RolesApart ⟨.fresh cfg records systemNow now, t⟩ := by
  have hkeys : RolesIndexed (DeviceRegistry.empty.load records).2 :=
    load_rolesIndexed empty_rolesIndexed records
  have hloaded : ∀ deviceId record,
      (DeviceRegistry.empty.load records).2.find deviceId = some record →
        t.RoleOf record ∧ t.SchoolOf record := by
    intro deviceId record hrecord
    obtain ⟨hmem, rfl⟩ := load_find_mem hrecord
    have hholds : t.Holds record := loadDevices_mem hrecords hmem
    exact ⟨hholds.roleOf, hholds.schoolOf⟩
  -- what expires keeps its role
  have hkeeps : Keeps (fun record => t.RoleOf record ∧ t.SchoolOf record)
      (DeviceRegistry.empty.load records).2
      (.expireInactive systemNow cfg.offlineTimeout) := by
    refine ⟨fun other heq => ?_, fun record heq => ?_, fun record newRecord hrenews hold => ?_⟩
    · cases heq
    · cases heq
    · rw [show newRecord = DeviceRegistry.expired record from hrenews]
      exact hold
  have hstart := hkeeps.records hkeys hloaded
  refine ⟨htables, fun deviceId record hrecord role hrole => ?_,
    fun deviceId record hrecord => (hstart deviceId record hrecord).2⟩
  have hid : record.deviceId = deviceId :=
    (next_rolesIndexed hkeys (.expireInactive systemNow cfg.offlineTimeout)).ids
      deviceId record hrecord
  subst hid
  refine not_waits htables (hstart record.deviceId record hrecord).1 ?_ hrole
  rw [hrecord]
  rfl

/-- **In every run** of steps that keep the roles apart, they are. -/
lemma apart_of_reachable
    (h : ((deviceSystem wcfg cfg).restrict (fun s input => input.RolesApart cfg s)).Reachable s) :
    RolesApart s := by
  refine h.invariant (fun s h0 => ?_) fun s input hreach hs henabled => ?_
  · obtain ⟨systemNow, now, rfl⟩ := h0
    refine restart_apart (fun first row second row' hrow => ?_) rfl systemNow now
    cases hrow
  · have hreachable := hreach.of_restrict
    have hstored := stored_of_reachable hreachable
    cases input with
    | runtime input committed =>
        have hservice := service_of_reachable hreachable
        exact runtime_apart hs hstored (reachable_rolesIndexed (registry_of_reachable hservice))
          henabled.1 henabled.2
    | restart systemNow now =>
        obtain ⟨records, hrecords, -⟩ := henabled.1
        simp only [Machine.restrict, deviceSystem, SystemInput.apply, hrecords]
        exact restart_apart hs.tables hrecords systemNow now

/-- A device is let in if and only if there is room for it. -/
lemma addProvisioned_ok_iff {devices : DeviceRegistry} {record : DeviceRecord} :
    (devices.addProvisioned record).1 = .ok () ↔ devices.HasRoomFor record := by
  rw [← @addRecord_ok_iff devices record "重复 device_id: " "同校角色号冲突: ",
    DeviceRegistry.addProvisioned]
  split
  · next added hadded => exact ⟨fun _ => ⟨added, hadded⟩, fun _ => rfl⟩
  · next message hmessage =>
      refine ⟨fun hok => ?_, fun hfound => ?_⟩
      · cases hok
      · obtain ⟨added, hadded⟩ := hfound
        rw [hmessage] at hadded
        cases hadded

/-- A provisioned device that the directory does not know is let in. -/
lemma RolesApart.letIn (h : RolesApart s) (hkeys : RolesIndexed s.registry) {record : DeviceRecord}
    (hholds : s.tables.Holds record) (hnone : s.registry.find record.deviceId = none) :
    (s.registry.addProvisioned record).1 = .ok () := by
  refine addProvisioned_ok_iff.mpr ⟨hnone, fun role hrole => ?_⟩
  cases howner : s.registry.roles.lookup role with
  | none => rfl
  | some owner =>
      obtain ⟨other, hother, hsame⟩ := Index.rolesOf_some.mp ((hkeys.roles role owner).mp howner)
      obtain ⟨row, hrow, heq⟩ := hholds.roleOf
      exact absurd (waits_iff.mpr ⟨record.deviceId, row, hrow, hnone, heq.symm.trans hrole⟩)
        (h.directory owner other hother role hsame)

end

/-! ### What is loaded and let in -/

/-- **A restart loads the tables**, and the directory lets in every provisioned device that
it does not know, in every run of steps that keep the roles apart: those whose records are
on their way, and all others of the tables. -/
theorem restart_loads {wcfg : WorkerConfig} {cfg : DeviceServiceConfig} {s : DeviceSystem}
    (h : ((deviceSystem wcfg cfg).restrict (fun s input => input.RolesApart cfg s)).Reachable s) :
    (∃ records, s.tables.loadDevices = .ok records ∧
        (DeviceRegistry.empty.load records).1 = .ok ()) ∧
      (∀ answer ∈ s.answers, ∀ record ∈ answer.provisioned,
        s.registry.find record.deviceId = none →
          (s.registry.addProvisioned record).1 = .ok ()) ∧
      ∀ record, s.tables.Holds record → s.registry.find record.deviceId = none →
        (s.registry.addProvisioned record).1 = .ok () := by
  have hreachable := h.of_restrict
  have hstored := stored_of_reachable hreachable
  have hkeys := reachable_rolesIndexed (registry_of_reachable (service_of_reachable hreachable))
  have hapart := apart_of_reachable h
  refine ⟨(load_ok_iff hstored.reads).mpr hapart.tables, ?_, ?_⟩
  · intro answer hanswer record hrecord hnone
    exact hapart.letIn hkeys (hstored.answers answer hanswer record hrecord hnone) hnone
  · intro record hholds hnone
    exact hapart.letIn hkeys hholds hnone

/-- **When a restart loads the tables**, in every reachable state: exactly if no two devices
without a school share a label; and a provisioned record on its way is let in exactly if
no device of the directory has its role.  Both are so after steps that keep the roles
apart. -/
theorem restart_loads_iff {wcfg : WorkerConfig} {cfg : DeviceServiceConfig} {s : DeviceSystem}
    (h : (deviceSystem wcfg cfg).Reachable s) :
    ((∃ records, s.tables.loadDevices = .ok records ∧
        (DeviceRegistry.empty.load records).1 = .ok ()) ↔ s.tables.SchoollessApart) ∧
      (∀ answer ∈ s.answers, ∀ record ∈ answer.provisioned,
        s.registry.find record.deviceId = none →
          ((s.registry.addProvisioned record).1 = .ok () ↔
            ∀ role ∈ record.role, s.registry.roles.lookup role = none)) ∧
      (((deviceSystem wcfg cfg).restrict (fun s input => input.RolesApart cfg s)).Reachable s →
        s.tables.SchoollessApart ∧
          ∀ answer ∈ s.answers, ∀ record ∈ answer.provisioned,
            s.registry.find record.deviceId = none →
              ∀ role ∈ record.role, s.registry.roles.lookup role = none) := by
  have hstored := stored_of_reachable h
  refine ⟨load_ok_iff hstored.reads, ?_, fun hrestricted => ?_⟩
  · intro answer _ record _ hnone
    exact addProvisioned_ok_iff.trans ⟨fun hroom => hroom.2, fun hfree => ⟨hnone, hfree⟩⟩
  · have hapart := apart_of_reachable hrestricted
    have hkeys := reachable_rolesIndexed (registry_of_reachable (service_of_reachable h))
    refine ⟨hapart.tables, fun answer hanswer record hrecord hnone => ?_⟩
    have hholds := hstored.answers answer hanswer record hrecord hnone
    exact (addProvisioned_ok_iff.mp (hapart.letIn hkeys hholds hnone)).2

/-! ### Two runs -/

/-- The devices of a restricted run are a restricted run of their own. -/
lemma devices_of_restrict {wcfg : WorkerConfig} {cfg : DeviceServiceConfig} {s : SourceSystem}
    {ok : DeviceSystem → SystemInput → Prop}
    (h : ((sourceSystem wcfg cfg).restrict fun s input => ok s.devices input.system).Reachable s) :
    ((deviceSystem wcfg cfg).restrict ok).Reachable s.devices := by
  refine h.invariant (P := fun s => ((deviceSystem wcfg cfg).restrict ok).Reachable s.devices)
    (fun s h0 => ?_) fun s input _ hs henabled => ?_
  · obtain ⟨configured, systemNow, now, synced, -, rfl⟩ := h0
    exact .start ⟨systemNow, now, rfl⟩
  · obtain ⟨henabled, hok⟩ := henabled
    have hstep : ((deviceSystem wcfg cfg).restrict ok).Reachable
        (input.system.apply wcfg cfg s.devices) :=
      .step (m := (deviceSystem wcfg cfg).restrict ok) (i := input.system) hs ⟨henabled.1, hok⟩
    cases input with
    | runtime input committed => exact hstep
    | restart configured systemNow now =>
        obtain ⟨synced, hsynced⟩ := henabled.2
        simp only [Machine.restrict, sourceSystem, SourceInput.apply, hsynced]
        exact hstep

/-- A run of steps that keep the roles apart. -/
lemma restricted_provisioned (cues : List SourceCue)
    (hok : (sourceSystem {} sampleDeviceConfig).Meets
      (fun s cue => SourceCue.input sampleDeviceConfig s cue)
      (fun s input => input.system.RolesApart sampleDeviceConfig s.devices)
      Sample.sourcesStarted cues) :
    ((deviceSystem {} sampleDeviceConfig).restrict
      (fun s input => input.RolesApart sampleDeviceConfig s)).Reachable
      (performSources sampleDeviceConfig Sample.sourcesStarted cues).devices := by
  refine devices_of_restrict (Machine.Reachable.follow ?_ (fun s cue => cue.input_enabled) hok)
  exact .start ⟨[], 0, some 0, _, rfl, rfl⟩

/-- A device is provisioned and let in, and the service starts again. -/
def restartCues : List SourceCue := Sample.provisionCues ++ [.restart]

lemma restartCues_apart : (sourceSystem {} sampleDeviceConfig).Meets
    (fun s cue => SourceCue.input sampleDeviceConfig s cue)
    (fun s input => input.system.RolesApart sampleDeviceConfig s.devices)
    Sample.sourcesStarted restartCues := by
  decide +kernel

theorem restart_loads_provisioned :
    ∃ records, (performSources sampleDeviceConfig Sample.sourcesStarted
        restartCues).devices.tables.loadDevices = .ok records ∧
      (DeviceRegistry.empty.load records).1 = .ok () :=
  (restart_loads (restricted_provisioned restartCues restartCues_apart)).1

theorem restart_loads_iff_provisioned :
    (performSources sampleDeviceConfig Sample.sourcesStarted
      restartCues).devices.tables.SchoollessApart :=
  have hrestricted := restricted_provisioned restartCues restartCues_apart
  ((restart_loads_iff hrestricted.of_restrict).2.2 hrestricted).1

namespace Sample

/-- The registration of a flight controller without a school, which is spelled by its id. -/
def schoollessBody (deviceId : String) : Json :=
  .object [("dcdw_label", .string "1"), ("device_id", .string deviceId),
    ("device_type", .string "flight_controller"), ("schema_version", .integer 3),
    ("status", .string "online")]

def schoollessConfig : DeviceServiceConfig where
  parseJson payload := [("a", schoollessBody "a"), ("b", schoollessBody "b")].lookup payload

/-- Device `a` registers, is provisioned and let in; device `b` registers under the same
label, and its provision is committed. -/
def schoollessCues : List SourceCue :=
  [.service .go, .service .go, .service (.receive (sampleRegistration "a" "a")),
    .service .go, .service .go, .thread, .thread, .thread] ++
  List.replicate 8 (.service .go) ++
  [.service (.receive (sampleRegistration "b" "b")), .service .go, .service .go, .thread, .thread]

def schoolless : DeviceSystem :=
  (performSources schoollessConfig
    (.start ⟨.fresh schoollessConfig [] 0 (some 0), .empty⟩ (SourceTable.empty.disable []))
    schoollessCues).devices

end Sample

/-- Two devices without a school are provisioned under one label: the tables take both, the
directory lets the second one not in, and a restart does not load them. -/
theorem restart_refused :
    (deviceSystem {} Sample.schoollessConfig).Reachable Sample.schoolless ∧
      (Sample.schoolless.answers.any fun answer => answer.provisioned.any fun record =>
        (Sample.schoolless.registry.find record.deviceId).isNone &&
          !(Sample.schoolless.registry.addProvisioned record).1.isOk) = true ∧
      (match Sample.schoolless.tables.loadDevices with
        | .ok records => !(DeviceRegistry.empty.load records).1.isOk
        | .error _ => true) = true := by
  refine ⟨devices_of_reachable (reachable_performSources (.start ⟨[], 0, some 0, _, rfl, rfl⟩) _),
    by decide +kernel, by decide +kernel⟩

end CnsServer
