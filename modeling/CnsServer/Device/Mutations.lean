/-
How the device directory changes (`device_registry.cpp`).

* `load`, `addProvisioned`: records come in, at the start and when the database
  has provisioned a new device; both refuse a repeated device and a role that is
  taken;
* `applyRegistration`, `applyTelemetry`, `expireInactive`: a known device reports,
  or stays silent for too long; each change is a `Mutation`, the new record with
  what the caller has to write and to publish about it;
* `RoleChange`: what a report does to the role of its device, and `replace`, the
  order in which the three maps follow.
-/
import CnsServer.Device.Registry

namespace CnsServer

/-- `state_event::ChangeReason`. -/
inductive ChangeReason where
  | registrationOnline | registrationOffline | telemetry | activityTimeout
  | databaseRecovered | snapshotReplay
  deriving DecidableEq, Repr

/-- `protocol::Telemetry`. -/
structure Telemetry where
  payload : Json
  dcdwLabel : Option String
  deviceType : Option DeviceType := none

/-- `device::Mutation`. -/
structure Mutation where
  record : DeviceRecord
  reason : ChangeReason
  statusChanged : Bool
  diagnostic : Option String

/-- `AppendDiagnostic`. -/
def appendDiagnostic (diagnostic : Option String) (message : String) : Option String :=
  match diagnostic with
  | none => some message
  | some text => some (text ++ "；" ++ message)

namespace DeviceRecord

/-- The role of a labelled record (`RoleKey`). -/
def role (record : DeviceRecord) : Option (ℤ × String) :=
  record.dcdwLabel.map fun label => (record.schoolId, label)

/-- The role of a labelled record by the name of its school (`NamedRoleKey`). -/
def namedRole (record : DeviceRecord) : Option (String × String) :=
  record.dcdwLabel.map fun label => (record.schoolName, label)

end DeviceRecord

/-- What a report does to the role of its device: the label afterwards, the role
given up, the role taken, and whether the report asked for somebody else's. -/
structure RoleChange where
  label : Option String
  oldRole : Option (ℤ × String) := none
  newRole : Option (ℤ × String) := none
  refused : Bool := false

namespace DeviceRegistry

/-! ### The index by school name -/

/-- `AddNamedRole`. -/
def addNamedRole (namedRoles : Map (String × String) (List String)) (record : DeviceRecord) :
    Map (String × String) (List String) :=
  match record.namedRole with
  | none => namedRoles
  | some key => namedRoles.insert key ((namedRoles.lookup key).getD [] ++ [record.deviceId])

/-- `RemoveNamedRole`. -/
def removeNamedRole (namedRoles : Map (String × String) (List String)) (record : DeviceRecord) :
    Map (String × String) (List String) :=
  match record.namedRole with
  | none => namedRoles
  | some key =>
      match namedRoles.lookup key with
      | none => namedRoles
      | some deviceIds =>
          if deviceIds.filter (· ≠ record.deviceId) = [] then namedRoles.erase key
          else namedRoles.insert key (deviceIds.filter (· ≠ record.deviceId))

/-! ### Records that come in -/

/-- A record joins the directory, unless its device is known or its role taken:
the body of the loop of `Load`, and of `AddProvisioned`, with their messages. -/
def addRecord (duplicate conflict : String) (devices : DeviceRegistry) (record : DeviceRecord) :
    Except String DeviceRegistry :=
  if (devices.records.lookup record.deviceId).isSome then
    .error (duplicate ++ record.deviceId)
  else
    match record.dcdwLabel with
    | none => .ok { devices with records := devices.records.insert record.deviceId record }
    | some label =>
        if (devices.roles.lookup (record.schoolId, label)).isSome then .error (conflict ++ label)
        else .ok
          { records := devices.records.insert record.deviceId record
            roles := devices.roles.insert (record.schoolId, label) record.deviceId
            namedRoles := addNamedRole devices.namedRoles record }

/-- `Load`; a list that is refused leaves the directory as it is. -/
def load (devices : DeviceRegistry) (records : List DeviceRecord) :
    Except String Unit × DeviceRegistry :=
  match records.foldlM (addRecord "加载设备目录发现重复 device_id: " "加载设备目录发现同校角色号冲突: ")
      empty with
  | .ok loaded => (.ok (), loaded)
  | .error message => (.error message, devices)

/-- `AddProvisioned`. -/
def addProvisioned (devices : DeviceRegistry) (record : DeviceRecord) :
    Except String Unit × DeviceRegistry :=
  match addRecord "重复 device_id: " "同校角色号冲突: " devices record with
  | .ok added => (.ok (), added)
  | .error message => (.error message, devices)

/-! ### Reports of a known device -/

/-- The report asks for `label`. -/
def claimRole (devices : DeviceRegistry) (record : DeviceRecord) (label : String) : RoleChange :=
  match devices.roles.lookup (record.schoolId, label) with
  | none =>
      { label := some label
        oldRole := record.role
        newRole := some (record.schoolId, label) }
  | some owner =>
      if owner ≠ record.deviceId then { label := record.dcdwLabel, refused := true }
      else { label := some label, oldRole := record.role }

/-- A registration may change the label. -/
def registrationRole (devices : DeviceRegistry) (record : DeviceRecord)
    (registration : Registration) : RoleChange :=
  match registration.dcdwLabel with
  | none => { label := record.dcdwLabel }
  | some label =>
      if record.dcdwLabel = some label then { label := record.dcdwLabel }
      else devices.claimRole record label

/-- A telemetry may only give the first label. -/
def telemetryRole (devices : DeviceRegistry) (record : DeviceRecord) (telemetry : Telemetry) :
    RoleChange :=
  match record.dcdwLabel, telemetry.dcdwLabel with
  | none, some label => devices.claimRole record label
  | _, _ => { label := record.dcdwLabel }

/-- The maps follow a report: the old named role goes before the records are
swapped, the new one comes after, and the old role goes last. -/
def replace (devices : DeviceRegistry) (record newRecord : DeviceRecord) (change : RoleChange) :
    DeviceRegistry :=
  let namedRoles :=
    if change.oldRole.isSome then removeNamedRole devices.namedRoles record
    else devices.namedRoles
  let roles :=
    match change.newRole with
    | some key => devices.roles.insert key record.deviceId
    | none => devices.roles
  let records := devices.records.insert record.deviceId newRecord
  let namedRoles :=
    if change.newRole.isSome then addNamedRole namedRoles newRecord else namedRoles
  let roles :=
    match change.oldRole with
    | some key => roles.erase key
    | none => roles
  ⟨records, roles, namedRoles⟩

/-- The record after a registration, with the label `change` leaves it. -/
def registered (record : DeviceRecord) (change : RoleChange) (registration : Registration)
    (receivedAt : TimePoint) : DeviceRecord :=
  { record with
    dcdwLabel := change.label
    capabilities := registration.capabilities.or record.capabilities
    product := registration.product.or record.product
    version := registration.version.or record.version
    status := registration.status
    lastSeenAt := if registration.status = .online then some receivedAt else record.lastSeenAt
    revision := record.revision + 1 }

/-- The school of a device does not change. -/
def asksForSchool (record : DeviceRecord) (registration : Registration) : Bool :=
  match registration.schoolName with
  | some name => name ≠ record.schoolName
  | none => false

/-- `ApplyRegistration`. -/
def applyRegistration (devices : DeviceRegistry) (registration : Registration)
    (receivedAt : TimePoint) : Except String Mutation × DeviceRegistry :=
  match devices.records.lookup registration.deviceId with
  | none => (.error ("未知设备: " ++ registration.deviceId), devices)
  | some record =>
      if record.deviceType ≠ registration.deviceType then
        (.error "device_type 与已建档设备不一致", devices)
      else
        let change := devices.registrationRole record registration
        let newRecord := registered record change registration receivedAt
        let diagnostic :=
          if asksForSchool record registration then appendDiagnostic none "拒绝设备自动迁移学校"
          else none
        let diagnostic :=
          if change.refused then appendDiagnostic diagnostic "拒绝同校冲突角色号" else diagnostic
        let reason : ChangeReason :=
          if registration.status = .online then .registrationOnline else .registrationOffline
        (.ok ⟨newRecord, reason, record.status ≠ newRecord.status, diagnostic⟩,
          devices.replace record newRecord change)

/-- The record after a telemetry. -/
def reported (record : DeviceRecord) (change : RoleChange) (telemetry : Telemetry)
    (receivedAt : TimePoint) : DeviceRecord :=
  { record with
    dcdwLabel := change.label
    status := .online
    lastSeenAt := some receivedAt
    latestTelemetry := some telemetry.payload
    telemetryReceivedAt := some receivedAt
    revision := record.revision + 1 }

/-- The telemetry names another type of device. -/
def mistypes (record : DeviceRecord) (telemetry : Telemetry) : Bool :=
  match telemetry.deviceType with
  | some deviceType => deviceType ≠ record.deviceType
  | none => false

/-- `ApplyTelemetry`. -/
def applyTelemetry (devices : DeviceRegistry) (deviceId : String) (telemetry : Telemetry)
    (receivedAt : TimePoint) : Except String Mutation × DeviceRegistry :=
  match devices.records.lookup deviceId with
  | none => (.error ("未知设备: " ++ deviceId), devices)
  | some record =>
      if mistypes record telemetry then (.error "device_type 与已建档设备不一致", devices)
      else
        let change := devices.telemetryRole record telemetry
        let newRecord := reported record change telemetry receivedAt
        let diagnostic := if change.refused then some "拒绝同校冲突角色号" else none
        (.ok ⟨newRecord, .telemetry, record.status ≠ newRecord.status, diagnostic⟩,
          devices.replace record newRecord change)

/-! ### Silence -/

/-- An online device that was last seen at least `timeout` ago. -/
def isInactive (now timeout : TimePoint) (record : DeviceRecord) : Bool :=
  match record.status, record.lastSeenAt with
  | .online, some seen => timeout ≤ now - seen
  | _, _ => false

/-- The record of a device that has expired. -/
def expired (record : DeviceRecord) : DeviceRecord :=
  { record with
    status := .offline
    revision := record.revision + 1 }

/-- `ExpireInactive`. -/
def expireInactive (devices : DeviceRegistry) (now timeout : TimePoint) :
    List Mutation × DeviceRegistry :=
  ((devices.records.values.filter (isInactive now timeout)).map fun record =>
      ⟨expired record, .activityTimeout, true, none⟩,
    { devices with
      records := devices.records.mapValues fun record =>
        if isInactive now timeout record then expired record else record })

end DeviceRegistry

end CnsServer
