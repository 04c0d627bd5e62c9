/-
The device directory as the command path reads it (`device_registry.hpp`,
`device_registry.cpp`), the identifiers of devices (`device_topic.cpp`), and the
two device records the database thread takes: a registration and a state to
write.

`DeviceRegistry` keeps the three maps of the source: the records by device id,
the role index by school id and label, and the role index by school name and
label, which may hold several devices for one key.
-/
import CnsServer.Library.FiniteMap
import CnsServer.Command.Types

namespace CnsServer

/-- `IsValidDeviceId`. -/
def isValidDeviceId (deviceId : String) : Bool :=
  !deviceId.isEmpty && deviceId.length ≤ 20 &&
    deviceId.toList.all fun c =>
      c.isAlphanum || c = '.' || c = '_' || c = ':' || c = '-'

inductive DeviceStatus where
  | online | offline
  deriving DecidableEq, Repr

inductive DeviceType where
  | cnsBox | flightController
  deriving DecidableEq, Repr

/-- `device::DeviceRecord`. -/
structure DeviceRecord where
  deviceId : String
  schoolId : ℤ
  schoolName : String
  dcdwLabel : Option String
  modelVersion : String
  status : DeviceStatus
  lastSeenAt : Option TimePoint
  latestTelemetry : Option Json
  telemetryReceivedAt : Option TimePoint
  revision : ℕ
  deviceType : DeviceType := .cnsBox
  capabilities : Option (List String) := none
  product : Option Json := none
  version : Option Json := none

/-- `protocol::Registration`. -/
structure Registration where
  deviceId : String
  status : DeviceStatus
  schoolName : Option String
  dcdwLabel : Option String
  deviceType : DeviceType
  capabilities : Option (List String)
  product : Option Json
  version : Option Json

inductive Urgency where
  | immediate | telemetryBatch
  deriving DecidableEq, Repr

/-- `persistence::DesiredDeviceWrite`. -/
structure DesiredDeviceWrite where
  record : DeviceRecord
  revision : ℕ
  writeMetadata : Bool
  writeStatus : Bool
  writeTelemetry : Bool
  urgency : Urgency

/-- `device::DeviceRegistry`. -/
structure DeviceRegistry where
  records : Map String DeviceRecord
  roles : Map (ℤ × String) String
  namedRoles : Map (String × String) (List String)

namespace DeviceRegistry

/-- The directory of a service that knows no device yet. -/
def empty : DeviceRegistry := ⟨∅, ∅, ∅⟩

/-- `Find`. -/
def find (devices : DeviceRegistry) (deviceId : String) : Option DeviceRecord :=
  devices.records.lookup deviceId

/-- `FindBySchoolAndLabel`. -/
def findBySchoolAndLabel (devices : DeviceRegistry) (schoolId : ℤ) (label : String) :
    Option DeviceRecord :=
  (devices.roles.lookup (schoolId, label)).bind devices.find

/-- `FindBySchoolNameAndLabel`: only a key with exactly one device has an
answer. -/
def findBySchoolNameAndLabel (devices : DeviceRegistry) (schoolName label : String) :
    Option DeviceRecord :=
  match devices.namedRoles.lookup (schoolName, label) with
  | some [deviceId] => devices.find deviceId
  | _ => none

/-- `IsSchoolNameAndLabelAmbiguous`. -/
def isSchoolNameAndLabelAmbiguous (devices : DeviceRegistry) (schoolName label : String) :
    Bool :=
  match devices.namedRoles.lookup (schoolName, label) with
  | some ids => 1 < ids.length
  | none => false

/-- The status test that guards every publication to a device. -/
def isOnline (devices : DeviceRegistry) (deviceId : String) : Bool :=
  match devices.find deviceId with
  | some record => record.status = .online
  | none => false

end DeviceRegistry

end CnsServer
