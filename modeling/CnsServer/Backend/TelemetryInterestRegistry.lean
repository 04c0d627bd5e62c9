/-
The interest of the WebSocket sessions in the telemetry of a device
(`telemetryInterestRegistry.ts`).

* `TelemetryInterestRegistry`: the devices of each session, the number of sessions of each
  device, and the calls of `onChanged`, latest first;
* `decrementDevice`: one session less for a device;
* `subscribe`, `unsubscribe`, `removeSession`: the calls.

A set is a list in the order of insertion, which is the order of its traversal.
-/
import CnsServer.Library.FiniteMap
import Mathlib.Data.Int.Notation

namespace CnsServer

/-- `TelemetryInterestRegistry`. -/
structure TelemetryInterestRegistry where
  devicesBySession : Map String (List String)
  sessionCountsByDevice : Map String ℤ
  notified : List (String × Bool)

namespace TelemetryInterestRegistry

/-- A registry that has just been constructed. -/
def fresh : TelemetryInterestRegistry where
  devicesBySession := ∅
  sessionCountsByDevice := ∅
  notified := []

/-- `onChanged`. -/
def onChanged (s : TelemetryInterestRegistry) (deviceId : String) (interested : Bool) :
    TelemetryInterestRegistry :=
  { s with notified := (deviceId, interested) :: s.notified }

/-- `isInterested`. -/
def isInterested (s : TelemetryInterestRegistry) (sessionId deviceId : String) : Bool :=
  ((s.devicesBySession.lookup sessionId).map fun devices => decide (deviceId ∈ devices)).getD false

/-- `decrementDevice`: a count that is absent or zero is left alone. -/
def decrementDevice (s : TelemetryInterestRegistry) (deviceId : String) :
    TelemetryInterestRegistry :=
  match s.sessionCountsByDevice.lookup deviceId with
  | none => s
  | some previous =>
      if previous = 0 then s
      else if previous > 1 then
        { s with sessionCountsByDevice := s.sessionCountsByDevice.insert deviceId (previous - 1) }
      else
        { s with sessionCountsByDevice := s.sessionCountsByDevice.erase deviceId }.onChanged
          deviceId false

/-- The set of a session, created empty where there is none. -/
def openSession (s : TelemetryInterestRegistry) (sessionId : String) :
    TelemetryInterestRegistry × List String :=
  match s.devicesBySession.lookup sessionId with
  | some devices => (s, devices)
  | none => ({ s with devicesBySession := s.devicesBySession.insert sessionId [] }, [])

/-- `subscribe`, once the set of the session is there. -/
def addDevice (s : TelemetryInterestRegistry) (sessionId deviceId : String)
    (devices : List String) : TelemetryInterestRegistry :=
  if deviceId ∈ devices then s
  else
    let previous := (s.sessionCountsByDevice.lookup deviceId).getD 0
    let s := { s with
      devicesBySession := s.devicesBySession.insert sessionId (devices ++ [deviceId])
      sessionCountsByDevice := s.sessionCountsByDevice.insert deviceId (previous + 1) }
    if previous = 0 then s.onChanged deviceId true else s

/-- `subscribe`. -/
def subscribe (s : TelemetryInterestRegistry) (sessionId deviceId : String) :
    TelemetryInterestRegistry :=
  let (s, devices) := s.openSession sessionId
  s.addDevice sessionId deviceId devices

/-- The set of a session without a device: an empty set leaves the map. -/
def dropDevice (s : TelemetryInterestRegistry) (sessionId deviceId : String)
    (devices : List String) : TelemetryInterestRegistry :=
  let remaining := devices.erase deviceId
  { s with devicesBySession :=
      if remaining = [] then s.devicesBySession.erase sessionId
      else s.devicesBySession.insert sessionId remaining }

/-- `unsubscribe`. -/
def unsubscribe (s : TelemetryInterestRegistry) (sessionId deviceId : String) :
    TelemetryInterestRegistry :=
  match s.devicesBySession.lookup sessionId with
  | none => s
  | some devices =>
      if deviceId ∈ devices then
        (s.dropDevice sessionId deviceId devices).decrementDevice deviceId
      else s

/-- `removeSession`. -/
def removeSession (s : TelemetryInterestRegistry) (sessionId : String) :
    TelemetryInterestRegistry :=
  match s.devicesBySession.lookup sessionId with
  | none => s
  | some devices =>
      devices.foldl decrementDevice
        { s with devicesBySession := s.devicesBySession.erase sessionId }

end TelemetryInterestRegistry

/-- A call of the registry. -/
inductive InterestCall where
  | subscribe (sessionId deviceId : String)
  | unsubscribe (sessionId deviceId : String)
  | removeSession (sessionId : String)
  deriving DecidableEq, Repr

/-- The registry after a call. -/
def TelemetryInterestRegistry.call (s : TelemetryInterestRegistry) :
    InterestCall → TelemetryInterestRegistry
  | .subscribe sessionId deviceId => s.subscribe sessionId deviceId
  | .unsubscribe sessionId deviceId => s.unsubscribe sessionId deviceId
  | .removeSession sessionId => s.removeSession sessionId

end CnsServer
