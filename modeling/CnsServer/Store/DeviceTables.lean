/-
The tables of the devices (`migrations/`) and the statements of `postgres_store.cpp`
on them.

* `DeviceTables`: the rows of `schools`, `devices` and `device_latest_states`, with the
  constraints of the migrations: keys, references and the two `UNIQUE`s, of which
  `UNIQUE (school_id, dcdw_label)` lets two rows without a school share a label;
* `insertSchool`, `insertDevice`, `updateDevice` and so on: the statements; one that
  would break a constraint is refused;
* `provisionDevice`, `writeDeviceState`, `loadDevices`: the methods, and
  `provisionDevice_ok`, `writeDeviceState_ok`: what they leave in the tables.

An error return is the text of the exception's branch; the database may fail at any
other point as well, which leaves the tables as they are.
-/
import CnsServer.Device.Messages
import CnsServer.Store.PostgresStore
import Mathlib.Data.List.Sort

namespace CnsServer

/-! ### Rows -/

/-- A row of `devices`; `NULL` is `none`. -/
structure DeviceRow where
  schoolId : Option ℤ
  dcdwLabel : Option String
  modelVersion : String
  deviceType : DeviceType
  capabilities : Option Json
  product : Option Json
  version : Option Json

/-- A row of `device_latest_states`, with its instants in microseconds. -/
structure StateRow where
  status : DeviceStatus
  lastSeenAt : Option ℤ
  latestTelemetry : Option Json := none
  telemetryReceivedAt : Option ℤ := none

/-- Two rows break `UNIQUE (school_id, dcdw_label)`: `NULL` is equal to nothing. -/
def DeviceRow.collides (row other : DeviceRow) : Bool :=
  row.schoolId.isSome && row.dcdwLabel.isSome && row.schoolId = other.schoolId &&
    row.dcdwLabel = other.dcdwLabel

/-- The tables, with the sequence that numbers the schools. -/
structure DeviceTables where
  schools : Map ℤ String
  schoolSequence : ℤ
  devices : Map String DeviceRow
  states : Map String StateRow
  sequence_nonneg : 0 ≤ schoolSequence
  school_ids : ∀ schoolId name, schools.lookup schoolId = some name →
    0 < schoolId ∧ schoolId ≤ schoolSequence
  school_names : ∀ schoolId schoolId' name, schools.lookup schoolId = some name →
    schools.lookup schoolId' = some name → schoolId = schoolId'
  device_school : ∀ deviceId row, devices.lookup deviceId = some row →
    ∀ schoolId ∈ row.schoolId, (schools.lookup schoolId).isSome = true
  device_role : ∀ deviceId row deviceId' row', devices.lookup deviceId = some row →
    devices.lookup deviceId' = some row' → deviceId ≠ deviceId' → row.collides row' = false
  state_device : ∀ deviceId, (states.lookup deviceId).isSome = true →
    (devices.lookup deviceId).isSome = true

namespace DeviceTables

/-- The tables after the migrations. -/
def empty : DeviceTables where
  schools := ∅
  schoolSequence := 0
  devices := ∅
  states := ∅
  sequence_nonneg := le_rfl
  school_ids _ _ h := by cases h
  school_names _ _ _ h := by cases h
  device_school _ _ h := by cases h
  device_role _ _ _ _ h := by cases h
  state_device _ h := by cases h

/-! ### Statements -/

/-- The row of `schools` with this name. -/
def schoolIdOf (t : DeviceTables) (name : String) : Option ℤ :=
  (t.schools.entries.find? fun entry => entry.2 = name).map Sigma.fst

/-- A school is found under its name. -/
lemma schoolIdOf_some {t : DeviceTables} {name : String} {schoolId : ℤ} :
    t.schoolIdOf name = some schoolId ↔ t.schools.lookup schoolId = some name := by
  constructor
  · intro h
    obtain ⟨⟨found, other⟩, hfind, rfl⟩ := Option.map_eq_some_iff.mp h
    have hname : other = name := by simpa using List.find?_some hfind
    exact Map.mem_entries_iff.mp (hname ▸ List.mem_of_find?_eq_some hfind)
  · intro h
    cases hfind : t.schools.entries.find? fun entry => entry.2 = name with
    | none =>
        have hmem := Map.mem_entries_iff.mpr h
        simpa using List.find?_eq_none.mp hfind _ hmem
    | some entry =>
        obtain ⟨found, other⟩ := entry
        have hname : other = name := by simpa using List.find?_some hfind
        have hfound := Map.mem_entries_iff.mp (hname ▸ List.mem_of_find?_eq_some hfind)
        rw [schoolIdOf, hfind, t.school_names schoolId found name h hfound]
        rfl

/-- The schools with a new one. -/
lemma school_ids_insert (t : DeviceTables) {name other : String} {schoolId : ℤ}
    (h : (t.schools.insert (t.schoolSequence + 1) name).lookup schoolId = some other) :
    0 < schoolId ∧ schoolId ≤ t.schoolSequence + 1 := by
  have hnonneg := t.sequence_nonneg
  rcases Map.lookup_insert_some.mp h with ⟨rfl, -⟩ | ⟨-, hbefore⟩
  · omega
  · have hids := t.school_ids schoolId other hbefore
    omega

/-- A new school has a name of its own. -/
lemma school_names_insert (t : DeviceTables) {name : String} (hnew : t.schoolIdOf name = none)
    {schoolId schoolId' : ℤ} {other : String}
    (h : (t.schools.insert (t.schoolSequence + 1) name).lookup schoolId = some other)
    (h' : (t.schools.insert (t.schoolSequence + 1) name).lookup schoolId' = some other) :
    schoolId = schoolId' := by
  have hfresh : ∀ found, t.schools.lookup found ≠ some name := by
    intro found hfound
    rw [schoolIdOf_some.mpr hfound] at hnew
    cases hnew
  rcases Map.lookup_insert_some.mp h with ⟨rfl, rfl⟩ | ⟨-, hbefore⟩
  · rcases Map.lookup_insert_some.mp h' with ⟨rfl, -⟩ | ⟨-, hbefore'⟩
    · rfl
    · exact absurd hbefore' (hfresh schoolId')
  · rcases Map.lookup_insert_some.mp h' with ⟨rfl, rfl⟩ | ⟨-, hbefore'⟩
    · exact absurd hbefore (hfresh schoolId)
    · exact t.school_names schoolId schoolId' other hbefore hbefore'

lemma isSome_insert {K V : Type} [DecidableEq K] {m : Map K V} {k : K}
    (h : (m.lookup k).isSome = true) (k' : K) (v : V) :
    ((m.insert k' v).lookup k).isSome = true := by
  rw [Map.lookup_insert_ite]
  split
  · rfl
  · exact h

/-- `INSERT INTO schools … ON CONFLICT (school_name) DO UPDATE … RETURNING school_id`:
the sequence goes on even if the name is there. -/
def insertSchool (t : DeviceTables) (name : String) : ℤ × DeviceTables :=
  match h : t.schoolIdOf name with
  | some schoolId =>
      (schoolId,
        { t with
          schoolSequence := t.schoolSequence + 1
          sequence_nonneg := t.sequence_nonneg.trans (Int.le_add_one le_rfl)
          school_ids := fun schoolId other hother =>
            (t.school_ids schoolId other hother).imp_right Int.le_add_one })
  | none =>
      (t.schoolSequence + 1,
        { t with
          schools := t.schools.insert (t.schoolSequence + 1) name
          schoolSequence := t.schoolSequence + 1
          sequence_nonneg := t.sequence_nonneg.trans (Int.le_add_one le_rfl)
          school_ids := fun _ _ => t.school_ids_insert
          school_names := fun _ _ _ => t.school_names_insert h
          device_school := fun deviceId row hrow schoolId hschool =>
            isSome_insert (t.device_school deviceId row hrow schoolId hschool) _ _ })

/-- The row keeps the constraints of `devices`, whatever stands under its device. -/
def Admits (t : DeviceTables) (deviceId : String) (row : DeviceRow) : Prop :=
  (∀ schoolId ∈ row.schoolId, (t.schools.lookup schoolId).isSome = true) ∧
    ∀ entry ∈ t.devices.entries, entry.1 ≠ deviceId → row.collides entry.2 = false

instance (t : DeviceTables) (deviceId : String) (row : DeviceRow) :
    Decidable (t.Admits deviceId row) :=
  inferInstanceAs (Decidable (_ ∧ _))

/-- To collide is symmetric. -/
lemma collides_comm (row other : DeviceRow) : row.collides other = other.collides row := by
  rw [DeviceRow.collides, DeviceRow.collides, Bool.eq_iff_iff]
  simp only [Bool.and_eq_true, decide_eq_true_eq]
  constructor
  · rintro ⟨⟨⟨hschool, hlabel⟩, hs⟩, hl⟩
    exact ⟨⟨⟨hs ▸ hschool, hl ▸ hlabel⟩, hs.symm⟩, hl.symm⟩
  · rintro ⟨⟨⟨hschool, hlabel⟩, hs⟩, hl⟩
    exact ⟨⟨⟨hs ▸ hschool, hl ▸ hlabel⟩, hs.symm⟩, hl.symm⟩

lemma Admits.role {t : DeviceTables} {deviceId : String} {row : DeviceRow}
    (h : t.Admits deviceId row) {deviceId' : String} {row' : DeviceRow}
    (hrow : t.devices.lookup deviceId' = some row') (hne : deviceId' ≠ deviceId) :
    row.collides row' = false :=
  h.2 ⟨deviceId', row'⟩ (Map.mem_entries_iff.mpr hrow) hne

/-- The table keeps its constraint with a row that it admits. -/
lemma Admits.device_role {t : DeviceTables} {deviceId : String} {row : DeviceRow}
    (h : t.Admits deviceId row) {first second : String} {row₁ row₂ : DeviceRow}
    (h₁ : (t.devices.insert deviceId row).lookup first = some row₁)
    (h₂ : (t.devices.insert deviceId row).lookup second = some row₂) (hne : first ≠ second) :
    row₁.collides row₂ = false := by
  rcases Map.lookup_insert_some.mp h₁ with ⟨rfl, rfl⟩ | ⟨hfirst, hold₁⟩
  · rcases Map.lookup_insert_some.mp h₂ with ⟨rfl, -⟩ | ⟨hsecond, hold₂⟩
    · exact absurd rfl hne
    · exact h.role hold₂ hsecond
  · rcases Map.lookup_insert_some.mp h₂ with ⟨rfl, rfl⟩ | ⟨-, hold₂⟩
    · rw [collides_comm]
      exact h.role hold₁ hfirst
    · exact t.device_role first row₁ second row₂ hold₁ hold₂ hne

/-- A row of `devices` comes in or is replaced. -/
def setDevice (t : DeviceTables) (deviceId : String) (row : DeviceRow)
    (h : t.Admits deviceId row) : DeviceTables :=
  { t with
    devices := t.devices.insert deviceId row
    device_school := fun deviceId' row' hrow => by
      rcases Map.lookup_insert_some.mp hrow with ⟨-, rfl⟩ | ⟨-, hrow⟩
      · exact h.1
      · exact t.device_school deviceId' row' hrow
    device_role := fun _ _ _ _ => h.device_role
    state_device := fun deviceId' hstate => isSome_insert (t.state_device deviceId' hstate) _ _ }

/-- `INSERT INTO devices … ON CONFLICT (device_id) DO NOTHING`. -/
def insertDevice (t : DeviceTables) (deviceId : String) (row : DeviceRow) : Option DeviceTables :=
  if (t.devices.lookup deviceId).isSome then some t
  else if h : t.Admits deviceId row then some (t.setDevice deviceId row h)
  else none

/-- `UPDATE devices SET dcdw_label, capabilities, product, version WHERE device_id`. -/
def updateDevice (t : DeviceTables) (deviceId : String) (dcdwLabel : Option String)
    (capabilities product version : Option Json) : Option DeviceTables :=
  match t.devices.lookup deviceId with
  | none => some t
  | some row =>
      let row := { row with
        dcdwLabel := dcdwLabel
        capabilities := capabilities
        product := product
        version := version }
      if h : t.Admits deviceId row then some (t.setDevice deviceId row h) else none

/-- A row of `device_latest_states` comes in or is replaced. -/
def setState (t : DeviceTables) (deviceId : String) (state : StateRow)
    (h : (t.devices.lookup deviceId).isSome = true) : DeviceTables :=
  { t with
    states := t.states.insert deviceId state
    state_device := fun deviceId' hstate => by
      by_cases hid : deviceId' = deviceId
      · exact hid ▸ h
      · rw [AList.lookup_insert_ne hid] at hstate
        exact t.state_device deviceId' hstate }

/-- `INSERT INTO device_latest_states … ON CONFLICT (device_id) DO NOTHING`. -/
def insertState (t : DeviceTables) (deviceId : String) (state : StateRow) : Option DeviceTables :=
  if (t.states.lookup deviceId).isSome then some t
  else if h : (t.devices.lookup deviceId).isSome = true then some (t.setState deviceId state h)
  else none

/-- `UPDATE device_latest_states … WHERE device_id`. -/
def updateState (t : DeviceTables) (deviceId : String) (f : StateRow → StateRow) : DeviceTables :=
  match h : t.states.lookup deviceId with
  | none => t
  | some state =>
      t.setState deviceId (f state) (t.state_device deviceId (by rw [h]; rfl))

/-! ### Columns -/

/-- The columns of the query of `LoadDevices`. -/
structure DeviceColumns where
  deviceId : String
  schoolId : ℤ
  schoolName : String
  row : DeviceRow
  state : StateRow

/-- The joined row of a device. -/
def select (t : DeviceTables) (deviceId : String) : Option DeviceColumns :=
  match t.devices.lookup deviceId, t.states.lookup deviceId with
  | some row, some state => some
      { deviceId := deviceId
        schoolId := row.schoolId.getD 0
        schoolName := (row.schoolId.bind t.schools.lookup).getD ""
        row := row
        state := state }
  | _, _ => none

end DeviceTables

/-- `OptionalJson`, on a column that is not `NULL`. -/
def parseObjectColumn (name : String) (value : Json) : Except String Json :=
  if value.isObject then .ok value
  else .error ("读取 PostgreSQL 设备失败：" ++ name ++ " 必须为对象")

/-- `ParseDeviceTelemetry`, on a column that is not `NULL`. -/
def parseDeviceTelemetry (value : Json) : Except String Json :=
  if value.isObject then .ok value else .error "读取 PostgreSQL 设备失败：遥测必须为对象"

/-- The items of `CapabilitiesFromField`. -/
def capabilityItems : List Json → Except String (List String)
  | [] => .ok []
  | .string text :: items =>
      if text.isEmpty then .error "读取 PostgreSQL 设备失败：capabilities 必须为字符串数组"
      else (capabilityItems items).map (text :: ·)
  | _ :: _ => .error "读取 PostgreSQL 设备失败：capabilities 必须为字符串数组"

/-- `CapabilitiesFromField`, on a column that is not `NULL`. -/
def capabilitiesFromField : Json → Except String (List String)
  | .array items => capabilityItems items
  | _ => .error "读取 PostgreSQL 设备失败：capabilities 必须为字符串数组"

/-- `CapabilitiesText`. -/
def capabilitiesText (capabilities : List String) : Json := .array (capabilities.map .string)

/-- `DeviceFromRow`. -/
def deviceFromRow (columns : DeviceTables.DeviceColumns) : Except String DeviceRecord := do
  let latestTelemetry ← optionalColumn parseDeviceTelemetry columns.state.latestTelemetry
  let capabilities ← optionalColumn capabilitiesFromField columns.row.capabilities
  let product ← optionalColumn (parseObjectColumn "product") columns.row.product
  let version ← optionalColumn (parseObjectColumn "version") columns.row.version
  let lastSeenAt ← optionalColumn fromUnixMicroseconds columns.state.lastSeenAt
  let telemetryReceivedAt ← optionalColumn fromUnixMicroseconds columns.state.telemetryReceivedAt
  return {
    deviceId := columns.deviceId
    schoolId := columns.schoolId
    schoolName := columns.schoolName
    dcdwLabel := columns.row.dcdwLabel
    modelVersion := columns.row.modelVersion
    status := columns.state.status
    lastSeenAt := lastSeenAt
    latestTelemetry := latestTelemetry
    telemetryReceivedAt := telemetryReceivedAt
    revision := 0
    deviceType := columns.row.deviceType
    capabilities := capabilities
    product := product
    version := version }

/-! ### Methods -/

namespace DeviceTables

/-- `LoadDevices`. -/
def loadDevices (t : DeviceTables) : Except String (List DeviceRecord) :=
  ((t.devices.keys.insertionSort (· ≤ ·)).filterMap t.select).mapM deviceFromRow

/-- The row that `ProvisionDevice` inserts. -/
def newDevice (registration : Registration) (schoolId : Option ℤ) : DeviceRow where
  schoolId := schoolId
  dcdwLabel := registration.dcdwLabel
  modelVersion := if registration.deviceType = .flightController then "PX4" else "CNS v1.0"
  deviceType := registration.deviceType
  capabilities := registration.capabilities.map capabilitiesText
  product := registration.product
  version := registration.version

/-- The state that `ProvisionDevice` inserts. -/
def newState (registration : Registration) (receivedAt : TimePoint) : StateRow where
  status := registration.status
  lastSeenAt :=
    if registration.status = .online then some (toUnixMicroseconds receivedAt) else none

/-- The school of a registration, which is inserted if it is new. -/
def findSchool (t : DeviceTables) (registration : Registration) : Option ℤ × DeviceTables :=
  match registration.schoolName with
  | none => (none, t)
  | some name => ((t.insertSchool name).1, (t.insertSchool name).2)

/-- `ProvisionDevice`: the record that is returned, and the tables once the transaction
is committed. -/
def provisionDevice (t : DeviceTables) (registration : Registration) (receivedAt : TimePoint) :
    Except String (DeviceRecord × DeviceTables) :=
  if registration.deviceType = .cnsBox ∧ registration.schoolName = none then
    .error "建档设备缺少学校"
  else
    let (schoolId, t) := t.findSchool registration
    let inserted := (t.insertDevice registration.deviceId (newDevice registration schoolId)).bind
      fun t => t.insertState registration.deviceId (newState registration receivedAt)
    match inserted with
    | none => .error "PostgreSQL 设备建档失败"
    | some t =>
        match t.select registration.deviceId with
        | none => .error "PostgreSQL 设备建档失败"
        | some columns => (deviceFromRow columns).map fun record => (record, t)

/-- The state that `WriteDeviceState` leaves: the `CASE`s of the statement. -/
def writtenState (write : DesiredDeviceWrite) (state : StateRow) : StateRow where
  status := if write.writeStatus then write.record.status else state.status
  lastSeenAt :=
    if write.writeStatus then write.record.lastSeenAt.map toUnixMicroseconds
    else state.lastSeenAt
  latestTelemetry :=
    if write.writeTelemetry then write.record.latestTelemetry else state.latestTelemetry
  telemetryReceivedAt :=
    if write.writeTelemetry then write.record.telemetryReceivedAt.map toUnixMicroseconds
    else state.telemetryReceivedAt

/-- `WriteDeviceState`: the tables once the transaction is committed. -/
def writeDeviceState (t : DeviceTables) (write : DesiredDeviceWrite) :
    Except String DeviceTables := do
  PostgresStore.validateDeviceWrite write
  let updated :=
    if write.writeMetadata then
      t.updateDevice write.record.deviceId write.record.dcdwLabel
        (write.record.capabilities.map capabilitiesText) write.record.product write.record.version
    else some t
  match updated with
  | none => .error "写入 PostgreSQL 设备状态失败"
  | some t =>
      if write.writeStatus || write.writeTelemetry then
        .ok (t.updateState write.record.deviceId (writtenState write))
      else .ok t

/-! ### What the statements do -/

section

variable {t t' : DeviceTables} {deviceId : String}

/-- The schools there are stay, and `name` is one of them. -/
structure SchoolFound (t t' : DeviceTables) (name : String) (schoolId : ℤ) : Prop where
  devices : t'.devices = t.devices
  states : t'.states = t.states
  found : t'.schools.lookup schoolId = some name
  kept : ∀ schoolId other, t.schools.lookup schoolId = some other →
    t'.schools.lookup schoolId = some other

/-- The school is there after the statement, with its number. -/
lemma insertSchool_found (t : DeviceTables) (name : String) :
    SchoolFound t (t.insertSchool name).2 name (t.insertSchool name).1 := by
  rw [insertSchool]
  split
  · next schoolId hfound => exact ⟨rfl, rfl, schoolIdOf_some.mp hfound, fun _ _ => id⟩
  · refine ⟨rfl, rfl, AList.lookup_insert _, fun schoolId other hother => ?_⟩
    have hids := t.school_ids schoolId other hother
    exact (AList.lookup_insert_ne (by omega)).trans hother

@[simp] lemma findSchool_devices (registration : Registration) :
    (t.findSchool registration).2.devices = t.devices := by
  rw [findSchool]
  split
  · rfl
  · exact (insertSchool_found t _).devices

@[simp] lemma findSchool_states (registration : Registration) :
    (t.findSchool registration).2.states = t.states := by
  rw [findSchool]
  split
  · rfl
  · exact (insertSchool_found t _).states

/-- No school is lost or renamed. -/
lemma findSchool_kept (registration : Registration) {schoolId : ℤ} {name : String}
    (h : t.schools.lookup schoolId = some name) :
    (t.findSchool registration).2.schools.lookup schoolId = some name := by
  rw [findSchool]
  split
  · exact h
  · exact (insertSchool_found t _).kept schoolId name h

/-- The school that is found is the one the registration names. -/
lemma findSchool_name (registration : Registration) :
    ((t.findSchool registration).1).bind (t.findSchool registration).2.schools.lookup =
      registration.schoolName := by
  rw [findSchool]
  split
  · next hnone => rw [hnone]; rfl
  · next name hname => rw [hname]; exact (insertSchool_found t name).found

/-- A device that is there stays as it is; a new one must be admitted. -/
lemma insertDevice_some {row : DeviceRow} (h : t.insertDevice deviceId row = some t') :
    ((t.devices.lookup deviceId).isSome = true ∧ t' = t) ∨
      t.devices.lookup deviceId = none ∧ ∃ hrow : t.Admits deviceId row,
        t' = t.setDevice deviceId row hrow := by
  rw [insertDevice] at h
  split at h
  · next hthere => exact .inl ⟨hthere, (Option.some.inj h).symm⟩
  · next hnone =>
      split at h
      · next hrow =>
          exact .inr ⟨by simpa using hnone, hrow, (Option.some.inj h).symm⟩
      · cases h

/-- An update that succeeds changes the row of its device, if there is one. -/
lemma updateDevice_some {dcdwLabel : Option String} {capabilities product version : Option Json}
    (h : t.updateDevice deviceId dcdwLabel capabilities product version = some t') :
    (t.devices.lookup deviceId = none ∧ t' = t) ∨
      ∃ row, t.devices.lookup deviceId = some row ∧ ∃ hrow : t.Admits deviceId { row with
          dcdwLabel := dcdwLabel
          capabilities := capabilities
          product := product
          version := version }, t' = t.setDevice deviceId _ hrow := by
  rw [updateDevice] at h
  split at h
  · next hnone => exact .inl ⟨hnone, (Option.some.inj h).symm⟩
  · next row hthere =>
      dsimp only at h
      split at h
      · next hrow => exact .inr ⟨row, hthere, hrow, (Option.some.inj h).symm⟩
      · cases h

lemma insertState_some {state : StateRow} (h : t.insertState deviceId state = some t') :
    ((t.states.lookup deviceId).isSome = true ∧ t' = t) ∨
      t.states.lookup deviceId = none ∧ ∃ hrow, t' = t.setState deviceId state hrow := by
  rw [insertState] at h
  split at h
  · next hthere => exact .inl ⟨hthere, (Option.some.inj h).symm⟩
  · next hnone =>
      split at h
      · next hrow => exact .inr ⟨by simpa using hnone, hrow, (Option.some.inj h).symm⟩
      · cases h

lemma updateState_devices (f : StateRow → StateRow) :
    (t.updateState deviceId f).devices = t.devices := by
  rw [updateState]
  split
  · rfl
  · rfl

lemma updateState_schools (f : StateRow → StateRow) :
    (t.updateState deviceId f).schools = t.schools := by
  rw [updateState]
  split
  · rfl
  · rfl

/-- An update of a state changes that of one device. -/
lemma updateState_lookup (f : StateRow → StateRow) (deviceId' : String) :
    (t.updateState deviceId f).states.lookup deviceId' =
      if deviceId' = deviceId then (t.states.lookup deviceId).map f
      else t.states.lookup deviceId' := by
  rw [updateState]
  split
  · next hnone =>
      split
      · next hid => rw [hid, hnone]; rfl
      · rfl
  · next state hstate =>
      refine (Map.lookup_insert_ite _ _ _ _).trans ?_
      rw [hstate]
      rfl

/-! ### What the methods do -/

/-- What a provision leaves in the tables: the rows of the device are the ones there
were, or new. -/
structure Provisioned (t t' : DeviceTables) (registration : Registration)
    (receivedAt : TimePoint) (record : DeviceRecord) : Prop where
  schools : ∀ schoolId name, t.schools.lookup schoolId = some name →
    t'.schools.lookup schoolId = some name
  others : ∀ deviceId ≠ registration.deviceId,
    t'.devices.lookup deviceId = t.devices.lookup deviceId ∧
      t'.states.lookup deviceId = t.states.lookup deviceId
  row : (∃ row, t.devices.lookup registration.deviceId = some row ∧
      t'.devices.lookup registration.deviceId = some row) ∨
    t.devices.lookup registration.deviceId = none ∧ ∃ schoolId,
      t'.devices.lookup registration.deviceId = some (newDevice registration schoolId) ∧
        (registration.schoolName = none → schoolId = none) ∧
        schoolId.bind t'.schools.lookup = registration.schoolName
  state : (∃ state, t.states.lookup registration.deviceId = some state ∧
      t'.states.lookup registration.deviceId = some state) ∨
    t.states.lookup registration.deviceId = none ∧
      t'.states.lookup registration.deviceId = some (newState registration receivedAt)
  read : ∃ columns, t'.select registration.deviceId = some columns ∧
    deviceFromRow columns = .ok record

lemma findSchool_none {registration : Registration} (h : registration.schoolName = none) :
    (t.findSchool registration).1 = none := by
  rw [findSchool, h]

/-- The row and the state that a provision inserts. -/
lemma inserted_some {row : DeviceRow} {state : StateRow}
    (h : (t.insertDevice deviceId row).bind (fun t => t.insertState deviceId state) = some t') :
    t'.schools = t.schools ∧
      (∀ other ≠ deviceId, t'.devices.lookup other = t.devices.lookup other ∧
        t'.states.lookup other = t.states.lookup other) ∧
      ((∃ found, t.devices.lookup deviceId = some found ∧
          t'.devices.lookup deviceId = some found) ∨
        t.devices.lookup deviceId = none ∧ t'.devices.lookup deviceId = some row) ∧
      ((∃ found, t.states.lookup deviceId = some found ∧
          t'.states.lookup deviceId = some found) ∨
        t.states.lookup deviceId = none ∧ t'.states.lookup deviceId = some state) := by
  obtain ⟨between, hdevice, hstate⟩ := Option.bind_eq_some_iff.mp h
  rcases insertDevice_some hdevice with ⟨hthere, rfl⟩ | ⟨hnone, hrow, rfl⟩
  · obtain ⟨found, hfound⟩ := Option.isSome_iff_exists.mp hthere
    rcases insertState_some hstate with ⟨hthere', rfl⟩ | ⟨hnone', hdev, rfl⟩
    · obtain ⟨found', hfound'⟩ := Option.isSome_iff_exists.mp hthere'
      exact ⟨rfl, fun _ _ => ⟨rfl, rfl⟩, .inl ⟨found, hfound, hfound⟩,
        .inl ⟨found', hfound', hfound'⟩⟩
    · exact ⟨rfl, fun other hne => ⟨rfl, AList.lookup_insert_ne hne⟩,
        .inl ⟨found, hfound, hfound⟩, .inr ⟨hnone', AList.lookup_insert _⟩⟩
  · rcases insertState_some hstate with ⟨hthere', rfl⟩ | ⟨hnone', hdev, rfl⟩
    · obtain ⟨found', hfound'⟩ := Option.isSome_iff_exists.mp hthere'
      exact ⟨rfl, fun other hne => ⟨AList.lookup_insert_ne hne, rfl⟩,
        .inr ⟨hnone, AList.lookup_insert _⟩, .inl ⟨found', hfound', hfound'⟩⟩
    · exact ⟨rfl, fun other hne => ⟨AList.lookup_insert_ne hne, AList.lookup_insert_ne hne⟩,
        .inr ⟨hnone, AList.lookup_insert _⟩, .inr ⟨hnone', AList.lookup_insert _⟩⟩

/-- **What a provision leaves in the tables.** -/
lemma provisionDevice_ok {registration : Registration} {receivedAt : TimePoint}
    {record : DeviceRecord}
    (h : t.provisionDevice registration receivedAt = .ok (record, t')) :
    Provisioned t t' registration receivedAt record := by
  simp only [provisionDevice] at h
  split at h
  · cases h
  split at h
  · cases h
  next inserted hinserted =>
  split at h
  · cases h
  next columns hcolumns =>
  cases hread : deviceFromRow columns with
  | error message =>
      rw [hread] at h
      cases h
  | ok found =>
      rw [hread] at h
      cases h
      obtain ⟨hschools, hothers, hrow, hstate⟩ := inserted_some hinserted
      rw [findSchool_devices, findSchool_states] at *
      refine ⟨fun schoolId name hname => ?_, fun other hne => ?_, ?_, hstate, columns, hcolumns,
        hread⟩
      · rw [hschools]
        exact findSchool_kept registration hname
      · simpa using hothers other hne
      · rcases hrow with hfound | ⟨hnone, hnew⟩
        · exact .inl hfound
        · refine .inr ⟨hnone, _, hnew, fun hnoSchool => findSchool_none hnoSchool, ?_⟩
          rw [hschools]
          exact findSchool_name registration

/-- The row that `WriteDeviceState` leaves. -/
def writtenRow (write : DesiredDeviceWrite) (row : DeviceRow) : DeviceRow :=
  if write.writeMetadata then
    { row with
      dcdwLabel := write.record.dcdwLabel
      capabilities := write.record.capabilities.map capabilitiesText
      product := write.record.product
      version := write.record.version }
  else row

/-- What a write leaves in the tables. -/
structure Written (t t' : DeviceTables) (write : DesiredDeviceWrite) : Prop where
  valid : PostgresStore.validateDeviceWrite write = .ok ()
  schools : t'.schools = t.schools
  devices : ∀ deviceId, t'.devices.lookup deviceId =
    if deviceId = write.record.deviceId then
      (t.devices.lookup write.record.deviceId).map (writtenRow write)
    else t.devices.lookup deviceId
  states : ∀ deviceId, t'.states.lookup deviceId =
    if deviceId = write.record.deviceId then
      (t.states.lookup write.record.deviceId).map (writtenState write)
    else t.states.lookup deviceId

lemma writtenState_none {write : DesiredDeviceWrite}
    (h : ¬ (write.writeStatus || write.writeTelemetry) = true) (state : StateRow) :
    writtenState write state = state := by
  simp only [Bool.or_eq_true, not_or, Bool.not_eq_true] at h
  simp only [writtenState, h.1, h.2, Bool.false_eq_true, if_false]

lemma updateDevice_written {write : DesiredDeviceWrite}
    (h : (if write.writeMetadata then
        t.updateDevice write.record.deviceId write.record.dcdwLabel
          (write.record.capabilities.map capabilitiesText) write.record.product
          write.record.version
      else some t) = some t') :
    t'.schools = t.schools ∧ t'.states = t.states ∧ ∀ deviceId, t'.devices.lookup deviceId =
      if deviceId = write.record.deviceId then
        (t.devices.lookup write.record.deviceId).map (writtenRow write)
      else t.devices.lookup deviceId := by
  by_cases hmetadata : write.writeMetadata = true
  · rw [if_pos hmetadata] at h
    rcases updateDevice_some h with ⟨hnone, rfl⟩ | ⟨row, hrow, hadmits, rfl⟩
    · refine ⟨rfl, rfl, fun deviceId => ?_⟩
      split
      · next hid => rw [hid, hnone]; rfl
      · rfl
    · refine ⟨rfl, rfl, fun deviceId => (Map.lookup_insert_ite _ _ _ _).trans ?_⟩
      simp only [hrow, Option.map_some, writtenRow, if_pos hmetadata]
  · rw [if_neg hmetadata, Option.some_inj] at h
    subst h
    refine ⟨rfl, rfl, fun deviceId => ?_⟩
    have hsame : writtenRow write = id := by
      funext row
      rw [writtenRow, if_neg hmetadata]
      rfl
    split
    · next hid => rw [hid, hsame, Option.map_id, id]
    · rfl

/-- **What a write leaves in the tables.** -/
lemma writeDeviceState_ok {write : DesiredDeviceWrite} (h : t.writeDeviceState write = .ok t') :
    Written t t' write := by
  simp only [writeDeviceState, bind, Except.bind] at h
  split at h
  · cases h
  next hvalid =>
  split at h
  · cases h
  next updated hupdated =>
  obtain ⟨hschools, hstates, hdevices⟩ := updateDevice_written hupdated
  split at h
  · cases h
    refine ⟨hvalid, (updateState_schools _).trans hschools, fun deviceId => ?_, fun deviceId => ?_⟩
    · rw [updateState_devices]
      exact hdevices deviceId
    · rw [updateState_lookup, hstates]
  · next hflags =>
      cases h
      refine ⟨hvalid, hschools, hdevices, fun deviceId => ?_⟩
      rw [hstates]
      split
      · next hid =>
          rw [hid, show writtenState write = id from funext (writtenState_none hflags),
            Option.map_id, id]
      · rfl

end

end DeviceTables

end CnsServer
