/-
What is read back from the tables of the devices.

* `Storable`: what the columns can take, of a registration and of a record;
* `DeviceRow.Reads`, `StateRow.Reads`: the columns of a row decode;
* `deviceFromRow_ok`, `ReadAs`: a row that reads gives a record, and which;
* `provision_reads`, `write_reads`: the methods keep all rows readable.
-/
import CnsServer.Store.DeviceTables

namespace CnsServer

/-! ### What the columns can take -/

/-- Texts without an empty one. -/
def NonemptyTexts (capabilities : Option (List String)) : Prop :=
  ∀ items ∈ capabilities, ∀ item ∈ items, item.isEmpty = false

/-- An optional object. -/
def IsObject (json : Option Json) : Prop := ∀ value ∈ json, value.isObject = true

/-- A registration whose fields the columns take. -/
structure Registration.Storable (registration : Registration) : Prop where
  capabilities : NonemptyTexts registration.capabilities
  product : IsObject registration.product
  version : IsObject registration.version

/-- A record whose fields the columns take; a telemetry is checked when it is written. -/
structure DeviceRecord.Storable (record : DeviceRecord) : Prop where
  capabilities : NonemptyTexts record.capabilities
  product : IsObject record.product
  version : IsObject record.version
  lastSeenAt : ∀ seen ∈ record.lastSeenAt, InClockRange seen
  telemetryReceivedAt : ∀ received ∈ record.telemetryReceivedAt, InClockRange received

/-- The instants, in microseconds, that the system clock has. -/
def InMicroseconds (microseconds : ℤ) : Prop :=
  -9223372036854775 ≤ microseconds ∧ microseconds ≤ 9223372036854775

/-- The columns of a row of `devices` decode. -/
structure DeviceRow.Reads (row : DeviceRow) : Prop where
  capabilities : ∃ items, row.capabilities = items.map capabilitiesText ∧ NonemptyTexts items
  product : IsObject row.product
  version : IsObject row.version

/-- The columns of a row of `device_latest_states` decode. -/
structure StateRow.Reads (state : StateRow) : Prop where
  lastSeenAt : ∀ seen ∈ state.lastSeenAt, InMicroseconds seen
  latestTelemetry : IsObject state.latestTelemetry
  telemetryReceivedAt : ∀ received ∈ state.telemetryReceivedAt, InMicroseconds received

/-- The record that a row reads as. -/
structure ReadAs (columns : DeviceTables.DeviceColumns) (record : DeviceRecord) : Prop where
  deviceId : record.deviceId = columns.deviceId
  schoolId : record.schoolId = columns.schoolId
  schoolName : record.schoolName = columns.schoolName
  dcdwLabel : record.dcdwLabel = columns.row.dcdwLabel
  modelVersion : record.modelVersion = columns.row.modelVersion
  deviceType : record.deviceType = columns.row.deviceType
  capabilities : columns.row.capabilities = record.capabilities.map capabilitiesText
  product : record.product = columns.row.product
  version : record.version = columns.row.version
  status : record.status = columns.state.status
  lastSeenAt : record.lastSeenAt = columns.state.lastSeenAt.map (· * 1000)
  latestTelemetry : record.latestTelemetry = columns.state.latestTelemetry
  telemetryReceivedAt : record.telemetryReceivedAt =
    columns.state.telemetryReceivedAt.map (· * 1000)
  storable : record.Storable

section

variable {t t' : DeviceTables} {columns : DeviceTables.DeviceColumns} {record : DeviceRecord}

/-! ### Decoding -/

/-- Texts that are not empty are read back. -/
lemma capabilityItems_texts {items : List String} (h : ∀ item ∈ items, item.isEmpty = false) :
    capabilityItems (items.map .string) = .ok items := by
  induction items with
  | nil => rfl
  | cons item items ih =>
      rw [List.map_cons, capabilityItems, if_neg (by simp [h item List.mem_cons_self]),
        ih fun other hother => h other (List.mem_cons_of_mem _ hother)]
      rfl

lemma capabilityItems_ok {items : List Json} {texts : List String}
    (h : capabilityItems items = .ok texts) :
    items = texts.map .string ∧ ∀ text ∈ texts, text.isEmpty = false := by
  induction items generalizing texts with
  | nil =>
      cases h
      simp
  | cons item items ih =>
      cases item with
      | string text =>
          rw [capabilityItems] at h
          split at h
          · cases h
          next hempty =>
          cases hrest : capabilityItems items with
          | error message =>
              rw [hrest] at h
              cases h
          | ok rest =>
              rw [hrest] at h
              cases h
              obtain ⟨rfl, htexts⟩ := ih hrest
              refine ⟨rfl, fun other hother => ?_⟩
              rcases List.mem_cons.mp hother with rfl | hother
              · simpa using hempty
              · exact htexts other hother
      | _ => cases h

/-- A column of capabilities that reads was written from a list of such texts. -/
lemma capabilities_ok {capabilities : Option Json} {texts : Option (List String)}
    (h : optionalColumn capabilitiesFromField capabilities = .ok texts) :
    capabilities = texts.map capabilitiesText ∧ NonemptyTexts texts := by
  cases capabilities with
  | none =>
      cases h
      exact ⟨rfl, fun _ hnone => by cases hnone⟩
  | some value =>
      cases value with
      | array items =>
          simp only [optionalColumn, capabilitiesFromField] at h
          cases hitems : capabilityItems items with
          | error message =>
              rw [hitems] at h
              cases h
          | ok found =>
              rw [hitems] at h
              cases h
              obtain ⟨rfl, hfound⟩ := capabilityItems_ok hitems
              refine ⟨rfl, fun items hitems => ?_⟩
              cases hitems
              exact hfound
      | _ => cases h

/-- A column that may be null reads if its value does. -/
lemma optionalColumn_of {α β : Type} {decode : α → Except String β} {f : α → β} {column : Option α}
    (h : ∀ value ∈ column, decode value = .ok (f value)) :
    optionalColumn decode column = .ok (column.map f) := by
  cases column with
  | none => rfl
  | some value => rw [optionalColumn, h value rfl]; rfl

lemma optionalColumn_ok {α β : Type} {decode : α → Except String β} {column : Option α}
    {found : Option β} (h : optionalColumn decode column = .ok found) :
    (column = none ∧ found = none) ∨
      ∃ value result, column = some value ∧ found = some result ∧ decode value = .ok result := by
  cases column with
  | none =>
      cases h
      exact .inl ⟨rfl, rfl⟩
  | some value =>
      rw [optionalColumn] at h
      cases hdecode : decode value with
      | error message =>
          rw [hdecode] at h
          cases h
      | ok result =>
          rw [hdecode] at h
          cases h
          exact .inr ⟨value, result, rfl, rfl, hdecode⟩

/-- An object column decodes to itself. -/
lemma objectColumn_ok {decode : Json → Except String Json} {column found : Option Json}
    (hdecode : ∀ value result, decode value = .ok result →
      result = value ∧ value.isObject = true)
    (h : optionalColumn decode column = .ok found) : found = column ∧ IsObject column := by
  rcases optionalColumn_ok h with ⟨rfl, rfl⟩ | ⟨value, result, rfl, rfl, hvalue⟩
  · exact ⟨rfl, fun _ hnone => by cases hnone⟩
  · obtain ⟨rfl, hobject⟩ := hdecode value result hvalue
    refine ⟨rfl, fun other hother => ?_⟩
    cases hother
    exact hobject

lemma parseObjectColumn_ok {name : String} {value result : Json}
    (h : parseObjectColumn name value = .ok result) : result = value ∧ value.isObject = true := by
  rw [parseObjectColumn] at h
  split at h
  · next hobject =>
      cases h
      exact ⟨rfl, hobject⟩
  · cases h

lemma parseDeviceTelemetry_ok {value result : Json}
    (h : parseDeviceTelemetry value = .ok result) : result = value ∧ value.isObject = true := by
  rw [parseDeviceTelemetry] at h
  split at h
  · next hobject =>
      cases h
      exact ⟨rfl, hobject⟩
  · cases h

/-- A number that decodes is an instant of the clock. -/
lemma fromUnixMicroseconds_ok {microseconds : ℤ} {result : TimePoint}
    (h : fromUnixMicroseconds microseconds = .ok result) :
    result = microseconds * 1000 ∧ InClockRange result := by
  rw [fromUnixMicroseconds] at h
  split at h
  · cases h
  · next hrange =>
      cases h
      refine ⟨rfl, ?_⟩
      rw [InClockRange]
      omega

lemma fromUnixMicroseconds_of {microseconds : ℤ} (h : InMicroseconds microseconds) :
    fromUnixMicroseconds microseconds = .ok (microseconds * 1000) := by
  rw [InMicroseconds] at h
  rw [fromUnixMicroseconds, if_neg (by omega)]

/-- An instant decodes to itself, in nanoseconds. -/
lemma timeColumn_ok {column : Option ℤ} {found : Option TimePoint}
    (h : optionalColumn fromUnixMicroseconds column = .ok found) :
    found = column.map (· * 1000) ∧ ∀ time ∈ found, InClockRange time := by
  rcases optionalColumn_ok h with ⟨rfl, rfl⟩ | ⟨value, result, rfl, rfl, hvalue⟩
  · exact ⟨rfl, fun _ hnone => by cases hnone⟩
  · obtain ⟨rfl, hrange⟩ := fromUnixMicroseconds_ok hvalue
    refine ⟨rfl, fun other hother => ?_⟩
    cases hother
    exact hrange

/-- The record a row reads as, if it reads. -/
lemma deviceFromRow_readAs (h : deviceFromRow columns = .ok record) : ReadAs columns record := by
  simp only [deviceFromRow, bind, Except.bind] at h
  split at h
  · cases h
  next telemetry htelemetry =>
  split at h
  · cases h
  next capabilities hcapabilities =>
  split at h
  · cases h
  next product hproduct =>
  split at h
  · cases h
  next version hversion =>
  split at h
  · cases h
  next lastSeenAt hlastSeenAt =>
  split at h
  · cases h
  next telemetryReceivedAt hreceivedAt =>
  cases h
  obtain ⟨rfl, -⟩ := objectColumn_ok (fun _ _ => parseDeviceTelemetry_ok) htelemetry
  obtain ⟨rfl, hobject⟩ := objectColumn_ok (fun _ _ => parseObjectColumn_ok) hproduct
  obtain ⟨rfl, hobject'⟩ := objectColumn_ok (fun _ _ => parseObjectColumn_ok) hversion
  obtain ⟨rfl, hseen⟩ := timeColumn_ok hlastSeenAt
  obtain ⟨rfl, hreceived⟩ := timeColumn_ok hreceivedAt
  obtain ⟨htexts, hnonempty⟩ := capabilities_ok hcapabilities
  exact ⟨rfl, rfl, rfl, rfl, rfl, rfl, htexts, rfl, rfl, rfl, rfl, rfl, rfl,
    ⟨hnonempty, hobject, hobject', hseen, hreceived⟩⟩

/-- A row whose columns decode gives a record. -/
lemma deviceFromRow_ok (hrow : columns.row.Reads) (hstate : columns.state.Reads) :
    ∃ record, deviceFromRow columns = .ok record := by
  obtain ⟨items, hitems, hnonempty⟩ := hrow.capabilities
  have hcapabilities : optionalColumn capabilitiesFromField columns.row.capabilities =
      .ok items := by
    rw [hitems]
    cases items with
    | none => rfl
    | some items =>
        simp only [Option.map_some, optionalColumn, capabilitiesText, capabilitiesFromField,
          capabilityItems_texts (hnonempty items rfl)]
        rfl
  have htelemetry : optionalColumn parseDeviceTelemetry columns.state.latestTelemetry = _ :=
    optionalColumn_of fun value hvalue => if_pos (hstate.latestTelemetry value hvalue)
  have hproduct : optionalColumn (parseObjectColumn "product") columns.row.product = _ :=
    optionalColumn_of fun value hvalue => if_pos (hrow.product value hvalue)
  have hversion : optionalColumn (parseObjectColumn "version") columns.row.version = _ :=
    optionalColumn_of fun value hvalue => if_pos (hrow.version value hvalue)
  have hseen : optionalColumn fromUnixMicroseconds columns.state.lastSeenAt = _ :=
    optionalColumn_of fun value hvalue => fromUnixMicroseconds_of (hstate.lastSeenAt value hvalue)
  have hreceived : optionalColumn fromUnixMicroseconds columns.state.telemetryReceivedAt = _ :=
    optionalColumn_of fun value hvalue =>
      fromUnixMicroseconds_of (hstate.telemetryReceivedAt value hvalue)
  simp only [deviceFromRow, hcapabilities, htelemetry, hproduct, hversion, hseen, hreceived,
    bind, Except.bind]
  exact ⟨_, rfl⟩

/-! ### All rows -/

/-- Every row reads, and every device has a state. -/
structure DeviceTables.Reads (t : DeviceTables) : Prop where
  devices : ∀ deviceId row, t.devices.lookup deviceId = some row → row.Reads
  states : ∀ deviceId state, t.states.lookup deviceId = some state → state.Reads
  paired : ∀ deviceId, (t.devices.lookup deviceId).isSome = true →
    (t.states.lookup deviceId).isSome = true

/-- Tables without rows read. -/
lemma empty_reads : DeviceTables.empty.Reads := by
  refine ⟨fun deviceId row h => ?_, fun deviceId state h => ?_, fun deviceId h => ?_⟩
  · cases h
  · cases h
  · cases h

/-- What is written of an instant of the clock can be read back. -/
lemma toUnixMicroseconds_range {time : TimePoint} (h : InClockRange time) :
    InMicroseconds (toUnixMicroseconds time) := by
  have hdecodes := fromUnixMicroseconds_toUnix h
  rw [fromUnixMicroseconds] at hdecodes
  split at hdecodes
  · cases hdecodes
  · rw [InMicroseconds]
    omega

lemma timeText_range {time : Option TimePoint} (h : ∀ value ∈ time, InClockRange value) :
    ∀ value ∈ time.map toUnixMicroseconds, InMicroseconds value := by
  intro value hvalue
  obtain ⟨source, hsource, rfl⟩ := Option.map_eq_some_iff.mp hvalue
  exact toUnixMicroseconds_range (h source hsource)

lemma stringItems_nonempty {key : String} {items : List Json} {texts : List String}
    (h : stringItems key items = .ok texts) : ∀ text ∈ texts, text.isEmpty = false := by
  induction items generalizing texts with
  | nil =>
      cases h
      simp
  | cons item items ih =>
      cases item with
      | string text =>
          rw [stringItems] at h
          split at h
          · cases h
          next hempty =>
          cases hrest : stringItems key items with
          | error message =>
              rw [hrest] at h
              cases h
          | ok rest =>
              rw [hrest] at h
              cases h
              intro other hother
              rcases List.mem_cons.mp hother with rfl | hother
              · simpa using hempty
              · exact ih hrest other hother
      | _ => cases h

/-- A list of a message has no empty text in it. -/
lemma optionalStringArray_nonempty {root : Json} {key : String} {texts : Option (List String)}
    (h : optionalStringArray root key = .ok texts) : NonemptyTexts texts := by
  rw [optionalStringArray] at h
  split at h
  · cases h
    exact fun _ hnone => by cases hnone
  · next items _ =>
      cases hitems : stringItems key items with
      | error message =>
          rw [hitems] at h
          cases h
      | ok found =>
          rw [hitems] at h
          cases h
          intro other hother
          cases hother
          exact stringItems_nonempty hitems
  · cases h

lemma optionalObject_isObject {root : Json} {key : String} {found : Option Json}
    (h : optionalObject root key = .ok found) : IsObject found := by
  rw [optionalObject] at h
  split at h
  · cases h
    exact fun _ hnone => by cases hnone
  · split at h
    · next hobject =>
        cases h
        intro other hother
        cases hother
        exact hobject
    · cases h

/-- A registration that is accepted can be stored. -/
lemma parseRegistration_storable {json : Option Json} {topicDeviceId : String}
    {registration : Registration} (h : parseRegistration json topicDeviceId = .ok registration) :
    registration.Storable := by
  simp only [parseRegistration, bind, Except.bind] at h
  repeat' split at h
  all_goals first | contradiction | skip
  cases h
  exact ⟨optionalStringArray_nonempty (by assumption), optionalObject_isObject (by assumption),
    optionalObject_isObject (by assumption)⟩

/-- The rows of a new device read. -/
lemma newDevice_reads {registration : Registration} (h : registration.Storable)
    (schoolId : Option ℤ) : (DeviceTables.newDevice registration schoolId).Reads :=
  ⟨⟨registration.capabilities, rfl, h.capabilities⟩, h.product, h.version⟩

lemma newState_reads (registration : Registration) {receivedAt : TimePoint}
    (h : InClockRange receivedAt) : (DeviceTables.newState registration receivedAt).Reads := by
  refine ⟨fun seen hseen => ?_, fun telemetry hnone => ?_, fun received hnone => ?_⟩
  · simp only [DeviceTables.newState] at hseen
    split at hseen
    · cases hseen
      exact toUnixMicroseconds_range h
    · cases hseen
  · cases hnone
  · cases hnone

/-- A row that reads still does after a write of what can be stored. -/
lemma writtenRow_reads {row : DeviceRow} (h : row.Reads) {write : DesiredDeviceWrite}
    (hwrite : write.record.Storable) : (DeviceTables.writtenRow write row).Reads := by
  rw [DeviceTables.writtenRow]
  split
  · exact ⟨⟨write.record.capabilities, rfl, hwrite.capabilities⟩, hwrite.product, hwrite.version⟩
  · exact h

/-- A telemetry that is written is an object. -/
lemma validateDeviceWrite_ok {write : DesiredDeviceWrite}
    (h : PostgresStore.validateDeviceWrite write = .ok ())
    (htelemetry : write.writeTelemetry = true) :
    IsObject write.record.latestTelemetry := by
  intro telemetry hvalue
  rw [PostgresStore.validateDeviceWrite, htelemetry, Option.mem_def.mp hvalue] at h
  dsimp only at h
  split at h
  · assumption
  · cases h

lemma writtenState_reads {state : StateRow} (h : state.Reads) {write : DesiredDeviceWrite}
    (hwrite : write.record.Storable) (hvalid : PostgresStore.validateDeviceWrite write = .ok ()) :
    (DeviceTables.writtenState write state).Reads := by
  refine ⟨?_, ?_, ?_⟩
  · simp only [DeviceTables.writtenState]
    split
    · exact timeText_range hwrite.lastSeenAt
    · exact h.lastSeenAt
  · simp only [DeviceTables.writtenState]
    split
    · next htelemetry => exact validateDeviceWrite_ok hvalid htelemetry
    · exact h.latestTelemetry
  · simp only [DeviceTables.writtenState]
    split
    · exact timeText_range hwrite.telemetryReceivedAt
    · exact h.telemetryReceivedAt

/-- **A provision keeps all rows readable.** -/
lemma provision_reads (h : t.Reads) {registration : Registration} {receivedAt : TimePoint}
    (hprovisioned : DeviceTables.Provisioned t t' registration receivedAt record)
    (hregistration : registration.Storable) (hclock : InClockRange receivedAt) : t'.Reads := by
  have hsome : (t'.states.lookup registration.deviceId).isSome = true := by
    rcases hprovisioned.state with ⟨state, -, hstate⟩ | ⟨-, hstate⟩
    · rw [hstate]
      rfl
    · rw [hstate]
      rfl
  refine ⟨fun deviceId row hrow => ?_, fun deviceId state hstate => ?_, fun deviceId hthere => ?_⟩
  · by_cases hid : deviceId = registration.deviceId
    · subst hid
      rcases hprovisioned.row with ⟨found, hbefore, hafter⟩ | ⟨-, schoolId, hafter, -⟩
      · rw [hafter, Option.some_inj] at hrow
        exact hrow ▸ h.devices _ found hbefore
      · rw [hafter, Option.some_inj] at hrow
        exact hrow ▸ newDevice_reads hregistration schoolId
    · rw [(hprovisioned.others deviceId hid).1] at hrow
      exact h.devices deviceId row hrow
  · by_cases hid : deviceId = registration.deviceId
    · subst hid
      rcases hprovisioned.state with ⟨found, hbefore, hafter⟩ | ⟨-, hafter⟩
      · rw [hafter, Option.some_inj] at hstate
        exact hstate ▸ h.states _ found hbefore
      · rw [hafter, Option.some_inj] at hstate
        exact hstate ▸ newState_reads registration hclock
    · rw [(hprovisioned.others deviceId hid).2] at hstate
      exact h.states deviceId state hstate
  · by_cases hid : deviceId = registration.deviceId
    · exact hid ▸ hsome
    · rw [(hprovisioned.others deviceId hid).2]
      rw [(hprovisioned.others deviceId hid).1] at hthere
      exact h.paired deviceId hthere

/-- **A write keeps all rows readable.** -/
lemma write_reads (h : t.Reads) {write : DesiredDeviceWrite}
    (hwritten : DeviceTables.Written t t' write) (hstorable : write.record.Storable) :
    t'.Reads := by
  refine ⟨fun deviceId row hrow => ?_, fun deviceId state hstate => ?_, fun deviceId hthere => ?_⟩
  · rw [hwritten.devices deviceId] at hrow
    split at hrow
    · obtain ⟨before, hbefore, rfl⟩ := Option.map_eq_some_iff.mp hrow
      exact writtenRow_reads (h.devices _ before hbefore) hstorable
    · exact h.devices deviceId row hrow
  · rw [hwritten.states deviceId] at hstate
    split at hstate
    · obtain ⟨before, hbefore, rfl⟩ := Option.map_eq_some_iff.mp hstate
      exact writtenState_reads (h.states _ before hbefore) hstorable hwritten.valid
    · exact h.states deviceId state hstate
  · rw [hwritten.devices deviceId] at hthere
    rw [hwritten.states deviceId]
    split at hthere
    · next hid =>
        rw [Option.isSome_map] at hthere
        rw [if_pos hid, Option.isSome_map]
        exact h.paired _ hthere
    · next hid =>
        rw [if_neg hid]
        exact h.paired deviceId hthere

/-- The rows of a device that is there. -/
lemma DeviceTables.Reads.select (h : t.Reads) {deviceId : String} {row : DeviceRow}
    (hrow : t.devices.lookup deviceId = some row) :
    ∃ columns, t.select deviceId = some columns ∧ columns.deviceId = deviceId ∧
      columns.row = row ∧ columns.schoolId = row.schoolId.getD 0 ∧
      ∃ record, deviceFromRow columns = .ok record := by
  obtain ⟨state, hstate⟩ := Option.isSome_iff_exists.mp (h.paired deviceId (by rw [hrow]; rfl))
  refine ⟨_, by rw [DeviceTables.select, hrow, hstate], rfl, rfl, rfl, ?_⟩
  exact deviceFromRow_ok (h.devices deviceId row hrow) (h.states deviceId state hstate)

/-! ### The columns of one device -/

open DeviceTables in
/-- The columns of a device stay where its rows do. -/
lemma select_congr {deviceId : String}
    (hdevice : t'.devices.lookup deviceId = t.devices.lookup deviceId)
    (hstate : t'.states.lookup deviceId = t.states.lookup deviceId)
    (hschools : ∀ schoolId name, t.schools.lookup schoolId = some name →
      t'.schools.lookup schoolId = some name) : t'.select deviceId = t.select deviceId := by
  rw [select, select, hdevice, hstate]
  cases hrow : t.devices.lookup deviceId with
  | none => rfl
  | some row =>
      cases t.states.lookup deviceId with
      | none => rfl
      | some state =>
          have hname : row.schoolId.bind t'.schools.lookup =
            row.schoolId.bind t.schools.lookup := by
            cases hschool : row.schoolId with
            | none => rfl
            | some schoolId =>
                obtain ⟨name, hname⟩ := Option.isSome_iff_exists.mp
                  (t.device_school deviceId row hrow schoolId hschool)
                exact (hschools schoolId name hname).trans hname.symm
          simp only [hname]

open DeviceTables in
lemma select_rows {deviceId : String} (h : t.select deviceId = some columns) :
    t.devices.lookup deviceId = some columns.row ∧
      t.states.lookup deviceId = some columns.state := by
  rw [select] at h
  split at h
  · next row state hrow hstate =>
      cases h
      exact ⟨hrow, hstate⟩
  · cases h

/-- A provision leaves the columns of the devices that are there. -/
lemma select_provisioned {registration : Registration} {receivedAt : TimePoint}
    (hprovisioned : DeviceTables.Provisioned t t' registration receivedAt record)
    {deviceId : String} (h : t.select deviceId = some columns) :
    t'.select deviceId = some columns := by
  obtain ⟨hrow, hstate⟩ := select_rows h
  rw [← h]
  by_cases hid : deviceId = registration.deviceId
  · subst hid
    refine select_congr ?_ ?_ hprovisioned.schools
    · rcases hprovisioned.row with ⟨row, hbefore, hafter⟩ | ⟨hnone, -⟩
      · rw [hbefore, hafter]
      · rw [hnone] at hrow
        cases hrow
    · rcases hprovisioned.state with ⟨state, hbefore, hafter⟩ | ⟨hnone, -⟩
      · rw [hbefore, hafter]
      · rw [hnone] at hstate
        cases hstate
  · obtain ⟨hdevice, hlatest⟩ := hprovisioned.others deviceId hid
    exact select_congr hdevice hlatest hprovisioned.schools

/-- A write leaves the columns of the other devices. -/
lemma select_written {write : DesiredDeviceWrite} (hwritten : DeviceTables.Written t t' write)
    {deviceId : String} (hne : deviceId ≠ write.record.deviceId) :
    t'.select deviceId = t.select deviceId := by
  refine select_congr ?_ ?_ fun schoolId name hname => ?_
  · rw [hwritten.devices deviceId, if_neg hne]
  · rw [hwritten.states deviceId, if_neg hne]
  · rw [hwritten.schools]
    exact hname

/-- The devices that are there stay. -/
lemma provisioned_isSome {registration : Registration} {receivedAt : TimePoint}
    (hprovisioned : DeviceTables.Provisioned t t' registration receivedAt record)
    {deviceId : String} (h : (t.devices.lookup deviceId).isSome = true) :
    (t'.devices.lookup deviceId).isSome = true := by
  by_cases hid : deviceId = registration.deviceId
  · subst hid
    rcases hprovisioned.row with ⟨row, -, hafter⟩ | ⟨hnone, -⟩
    · rw [hafter]
      rfl
    · rw [hnone] at h
      cases h
  · rw [(hprovisioned.others deviceId hid).1]
    exact h

/-- A write makes no rows. -/
lemma written_isSome {write : DesiredDeviceWrite} (hwritten : DeviceTables.Written t t' write)
    (deviceId : String) :
    (t'.devices.lookup deviceId).isSome = (t.devices.lookup deviceId).isSome := by
  rw [hwritten.devices deviceId]
  split
  · next hid => rw [hid, Option.isSome_map]
  · rfl

/-- A result of a loop that may fail comes from one of its inputs. -/
lemma mem_mapM_ok {α β : Type} {f : α → Except String β} {xs : List α} {ys : List β}
    (h : xs.mapM f = .ok ys) {y : β} (hy : y ∈ ys) : ∃ x ∈ xs, f x = .ok y := by
  induction xs generalizing ys with
  | nil =>
      cases h
      cases hy
  | cons x xs ih =>
      simp only [List.mapM_cons, bind, Except.bind] at h
      cases hx : f x with
      | error message =>
          rw [hx] at h
          cases h
      | ok first =>
          cases hxs : xs.mapM f with
          | error message =>
              rw [hx, hxs] at h
              cases h
          | ok rest =>
              rw [hx, hxs] at h
              cases h
              rcases List.mem_cons.mp hy with rfl | hrest
              · exact ⟨x, List.mem_cons_self, hx⟩
              · obtain ⟨other, hother, heq⟩ := ih hxs hrest
                exact ⟨other, List.mem_cons_of_mem _ hother, heq⟩

/-- Every record that is loaded is read from the rows of its device. -/
lemma loadDevices_mem {records : List DeviceRecord} (h : t.loadDevices = .ok records)
    {record : DeviceRecord} (hrecord : record ∈ records) :
    ∃ columns, t.select record.deviceId = some columns ∧ deviceFromRow columns = .ok record := by
  obtain ⟨columns, hmem, hread⟩ := mem_mapM_ok h hrecord
  obtain ⟨deviceId, -, hselect⟩ := List.mem_filterMap.mp hmem
  have hid : record.deviceId = columns.deviceId := (deviceFromRow_readAs hread).deviceId
  have hcolumns : columns.deviceId = deviceId := by
    rw [DeviceTables.select] at hselect
    split at hselect
    · cases hselect
      rfl
    · cases hselect
  rw [hid, hcolumns]
  exact ⟨columns, hselect, hread⟩

end

end CnsServer
