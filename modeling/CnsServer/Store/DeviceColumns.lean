/-
The columns of a device, group by group, as they stand in the tables.

* `StoredColumns`: what the columns of one group hold;
* `DeviceRecord.stored`, `DeviceTables.stored`: what a record would leave there, its
  instants in microseconds, and what is there;
* `stored_written`: **a write replaces the groups it selects**, and nothing else;
* `stored_provisioned`: a provision leaves the devices that are there alone.
-/
import CnsServer.Persistence.DirtyState
import CnsServer.Properties.StoredTimes

namespace CnsServer

/-- The columns of one group, as they are stored. -/
inductive StoredColumns where
  | metadata (dcdwLabel : Option String) (capabilities product version : Option Json)
  | status (status : DeviceStatus) (lastSeenAt : Option ℤ)
  | telemetry (latestTelemetry : Option Json) (telemetryReceivedAt : Option ℤ)

/-- What a record leaves in the columns of a group. -/
def DeviceRecord.stored (record : DeviceRecord) : DeviceField → StoredColumns
  | .metadata => .metadata record.dcdwLabel (record.capabilities.map capabilitiesText)
      record.product record.version
  | .status => .status record.status (record.lastSeenAt.map toUnixMicroseconds)
  | .telemetry => .telemetry record.latestTelemetry
      (record.telemetryReceivedAt.map toUnixMicroseconds)

/-- What the joined row of a device has in the columns of a group. -/
def DeviceTables.DeviceColumns.stored (columns : DeviceTables.DeviceColumns) :
    DeviceField → StoredColumns
  | .metadata => .metadata columns.row.dcdwLabel columns.row.capabilities columns.row.product
      columns.row.version
  | .status => .status columns.state.status columns.state.lastSeenAt
  | .telemetry => .telemetry columns.state.latestTelemetry columns.state.telemetryReceivedAt

/-- What the tables have of a device in the columns of a group. -/
def DeviceTables.stored (t : DeviceTables) (deviceId : String) (field : DeviceField) :
    Option StoredColumns :=
  (t.select deviceId).map fun columns => columns.stored field

section

variable {t t' : DeviceTables} {columns : DeviceTables.DeviceColumns} {record : DeviceRecord}

/-- A record that is read from a row leaves there what there is. -/
lemma ReadAs.stored (h : ReadAs columns record) (field : DeviceField) :
    record.stored field = columns.stored field := by
  have htimes : ∀ column : Option ℤ,
      (column.map (· * 1000)).map toUnixMicroseconds = column := by
    intro column
    cases column with
    | none => rfl
    | some microseconds => exact congrArg some (toUnixMicroseconds_mul microseconds)
  cases field with
  | metadata =>
      simp only [DeviceRecord.stored, DeviceTables.DeviceColumns.stored, h.dcdwLabel,
        h.capabilities, h.product, h.version]
  | status =>
      simp only [DeviceRecord.stored, DeviceTables.DeviceColumns.stored, h.status, h.lastSeenAt,
        htimes]
  | telemetry =>
      simp only [DeviceRecord.stored, DeviceTables.DeviceColumns.stored, h.latestTelemetry,
        h.telemetryReceivedAt, htimes]

open DeviceTables in
/-- **A write replaces the groups it selects** of its device, and nothing else. -/
lemma stored_written {write : DesiredDeviceWrite} (h : Written t t' write) (deviceId : String)
    (field : DeviceField) :
    t'.stored deviceId field =
      if deviceId = write.record.deviceId ∧ write.selects field = true then
        (t.stored deviceId field).map fun _ => write.record.stored field
      else t.stored deviceId field := by
  by_cases hid : deviceId = write.record.deviceId
  · subst hid
    have hrow := h.devices write.record.deviceId
    have hstate := h.states write.record.deviceId
    rw [if_pos rfl] at hrow hstate
    simp only [true_and, DeviceTables.stored, DeviceTables.select, hrow, hstate]
    cases t.devices.lookup write.record.deviceId with
    | none => simp
    | some row =>
        cases t.states.lookup write.record.deviceId with
        | none => simp
        | some state =>
            cases field with
            | metadata =>
                cases hflag : write.writeMetadata with
                | true => simp [DesiredDeviceWrite.selects, DeviceColumns.stored, writtenRow,
                    DeviceRecord.stored, hflag]
                | false => simp [DesiredDeviceWrite.selects, DeviceColumns.stored, writtenRow,
                    hflag]
            | status =>
                cases hflag : write.writeStatus with
                | true => simp [DesiredDeviceWrite.selects, DeviceColumns.stored, writtenState,
                    DeviceRecord.stored, hflag]
                | false => simp [DesiredDeviceWrite.selects, DeviceColumns.stored, writtenState,
                    hflag]
            | telemetry =>
                cases hflag : write.writeTelemetry with
                | true => simp [DesiredDeviceWrite.selects, DeviceColumns.stored, writtenState,
                    DeviceRecord.stored, hflag]
                | false => simp [DesiredDeviceWrite.selects, DeviceColumns.stored, writtenState,
                    hflag]
  · rw [if_neg fun hboth => hid hboth.1, DeviceTables.stored, DeviceTables.stored,
      select_written h hid]

open DeviceTables in
/-- A provision leaves the devices that are there alone. -/
lemma stored_provisioned {registration : Registration} {receivedAt : TimePoint}
    (h : Provisioned t t' registration receivedAt record) {deviceId : String} {field : DeviceField}
    {stored : StoredColumns} (hstored : t.stored deviceId field = some stored) :
    t'.stored deviceId field = some stored := by
  obtain ⟨columns, hselect, hcolumns⟩ := Option.map_eq_some_iff.mp hstored
  exact Option.map_eq_some_iff.mpr ⟨columns, select_provisioned h hselect, hcolumns⟩

end

end CnsServer
