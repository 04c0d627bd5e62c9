/-
The messages of the devices: their topics (`device_topic.cpp`) and the bodies of
registrations and telemetries (`device_message.cpp`).

As for commands, the text of a payload is turned into JSON by the JSON library; the
parsers start from its result, `none` for text it does not accept.
-/
import CnsServer.Device.Mutations

namespace CnsServer

/-! ### Topics -/

inductive DeviceMessageKind where
  | registration | telemetry
  deriving DecidableEq, Repr

structure ParsedDeviceTopic where
  deviceId : String
  kind : DeviceMessageKind
  deriving DecidableEq, Repr

/-- What stands before and after the first slash. -/
def splitAtSlash (text : List Char) : Option (List Char × List Char) :=
  match text.dropWhile (· ≠ '/') with
  | [] => none
  | _ :: rest => some (text.takeWhile (· ≠ '/'), rest)

/-- `ParseDeviceTopic`. -/
def parseDeviceTopic (topicNamespace topic : String) : Except String ParsedDeviceTopic :=
  match splitAtSlash topic.toList with
  | none => .error "设备 topic 格式无效"
  | some (front, rest) =>
      match splitAtSlash rest with
      | none => .error "设备 topic 格式无效"
      | some (deviceId, suffix) =>
          if front ≠ topicNamespace.toList then .error "设备 topic 格式无效"
          else if !isValidDeviceId (String.ofList deviceId) then .error "device_id 无效"
          else if suffix = "registration".toList then
            .ok ⟨String.ofList deviceId, .registration⟩
          else if suffix = "telemetry/snapshot/v1".toList then
            .ok ⟨String.ofList deviceId, .telemetry⟩
          else .error "设备消息类型无效"

/-- `DeviceDirectoryTopic`. -/
def deviceDirectoryTopic (topicNamespace : String) : String :=
  topicNamespace ++ "/events/devices/directory"

/-- `StateEventTopic`. -/
def stateEventTopic (topicNamespace deviceId : String) : String :=
  topicNamespace ++ "/events/devices/" ++ deviceId ++ "/state"

/-! ### Fields -/

/-- `ParseObject`. -/
def parseObject (json : Option Json) : Except String Json :=
  match json with
  | none => .error "JSON 语法无效"
  | some root => if root.isObject then .ok root else .error "JSON 根节点必须是 object"

/-- `RequiredString`. -/
def requiredString (root : Json) (key : String) : Except String String :=
  match root.stringField? key with
  | some text => if text.isEmpty then .error (key ++ " 必须是非空字符串") else .ok text
  | none => .error (key ++ " 必须是非空字符串")

/-- `OptionalString`. -/
def optionalString (root : Json) (key : String) : Except String (Option String) :=
  match root.find? key with
  | none | some .null => .ok none
  | some _ => (requiredString root key).map some

/-- `ParseDeviceType`. -/
def parseDeviceType (root : Json) : Except String DeviceType := do
  let text ← requiredString root "device_type"
  if text = "cns_box" then .ok .cnsBox
  else if text = "flight_controller" then .ok .flightController
  else .error "device_type 无效"

/-- The items of an array of non-empty strings. -/
def stringItems (key : String) : List Json → Except String (List String)
  | [] => .ok []
  | .string text :: items =>
      if text.isEmpty then .error (key ++ " 必须是字符串数组")
      else (stringItems key items).map (text :: ·)
  | _ :: _ => .error (key ++ " 必须是字符串数组")

/-- `ValidateOptionalStringArray`, with the array it lets through. -/
def optionalStringArray (root : Json) (key : String) : Except String (Option (List String)) :=
  match root.find? key with
  | none => .ok none
  | some (.array items) => (stringItems key items).map some
  | some _ => .error (key ++ " 必须是字符串数组")

/-- `ValidateOptionalObject`, with the object it lets through. -/
def optionalObject (root : Json) (key : String) : Except String (Option Json) :=
  match root.find? key with
  | none => .ok none
  | some value => if value.isObject then .ok (some value) else .error (key ++ " 必须是 object")

def removedFields : List String :=
  ["vendor_id", "remote_id", "uid", "uid2", "gateway_id", "rpi_serial", "endpoint", "identity"]

/-- `RejectRemovedFields`. -/
def rejectRemovedFields (root : Json) : Except String Unit :=
  match removedFields.find? root.contains with
  | some field => .error (field ++ " 已从 schema v3 删除")
  | none => .ok ()

/-- The schema version is the integer 3. -/
def requireSchemaVersion (root : Json) (message : String) : Except String Unit :=
  match root.find? "schema_version" with
  | some (.integer version) => if Json.toInt64 version = 3 then .ok () else .error message
  | _ => .error message

/-- The device id of the body, which is the one of the topic (`ValidateDeviceId`). -/
def requireDeviceId (root : Json) (topicDeviceId : String) : Except String String := do
  let deviceId ← requiredString root "device_id"
  if !isValidDeviceId deviceId || deviceId ≠ topicDeviceId then .error "device_id 与 topic 不一致"
  else .ok deviceId

/-- The status of a registration. -/
def parseRegistrationStatus (root : Json) : Except String DeviceStatus := do
  let text ← requiredString root "status"
  if text = "online" then .ok .online
  else if text = "offline" then .ok .offline
  else .error "status 无效"

/-! ### Bodies -/

/-- An online CNS box says which school it is in. -/
def requireSchool (status : DeviceStatus) (deviceType : DeviceType) (schoolName : Option String) :
    Except String Unit :=
  if status = .online ∧ deviceType = .cnsBox ∧ schoolName = none then
    .error "cns_box online registration 缺少 school_name"
  else .ok ()

/-- `ParseRegistration`, on the result of the JSON library. -/
def parseRegistration (json : Option Json) (topicDeviceId : String) :
    Except String Registration := do
  let root ← parseObject json
  requireSchemaVersion root "schema_version 必须是整数 3"
  rejectRemovedFields root
  let deviceId ← requireDeviceId root topicDeviceId
  let deviceType ← parseDeviceType root
  let status ← parseRegistrationStatus root
  let schoolName ← optionalString root "school_name"
  let dcdwLabel ← optionalString root "dcdw_label"
  let capabilities ← optionalStringArray root "capabilities"
  let product ← optionalObject root "product"
  let version ← optionalObject root "version"
  requireSchool status deviceType schoolName
  .ok ⟨deviceId, status, schoolName, dcdwLabel, deviceType, capabilities, product, version⟩

/-- The object under `key`. -/
def requireObject (root : Json) (key message : String) : Except String Json :=
  match root.find? key with
  | some value => if value.isObject then .ok value else .error message
  | none => .error message

/-- `ParseTelemetry`, on the result of the JSON library. A telemetry names no
label, whatever its body says. -/
def parseTelemetry (json : Option Json) (topicDeviceId : String) : Except String Telemetry := do
  let root ← parseObject json
  requireSchemaVersion root "telemetry schema_version 必须是整数 3"
  rejectRemovedFields root
  let _ ← requireDeviceId root topicDeviceId
  let deviceType ← parseDeviceType root
  let _ ← requiredString root "sent_at"
  let _ ← requireObject root "telemetry" "telemetry 必须是 object"
  let droneId ← requireObject root "drone_id" "drone_id 必须是 object"
  let basicId ← requireObject droneId "basic_id" "drone_id.basic_id 必须是 object"
  if basicId.contains "uas_id" then .error "drone_id.basic_id.uas_id 已从 schema v3 删除"
  else .ok ⟨root, none, some deviceType⟩

/-! ### What is accepted -/

/-- An accepted message names the device of its topic. -/
lemma requireDeviceId_ok {root : Json} {topicDeviceId deviceId : String}
    (h : requireDeviceId root topicDeviceId = .ok deviceId) :
    deviceId = topicDeviceId ∧ isValidDeviceId deviceId = true := by
  unfold requireDeviceId at h
  cases htext : requiredString root "device_id" with
  | error message => rw [htext] at h; cases h
  | ok text =>
      rw [htext] at h
      simp only [bind, Except.bind] at h
      split at h
      · cases h
      · next hvalid =>
          cases h
          simp only [Bool.or_eq_true, Bool.not_eq_true', decide_eq_true_eq, not_or,
            Bool.not_eq_false, not_not] at hvalid
          exact ⟨hvalid.2, hvalid.1⟩

/-- A box that comes online has a school. -/
lemma requireSchool_ok {status : DeviceStatus} {deviceType : DeviceType}
    {schoolName : Option String} (h : requireSchool status deviceType schoolName = .ok ())
    (hstatus : status = .online) (htype : deviceType = .cnsBox) : schoolName ≠ none := by
  intro hnone
  rw [requireSchool, if_pos ⟨hstatus, htype, hnone⟩] at h
  cases h

/-- An accepted registration is for the device of its topic, and an online CNS box
has a school. -/
lemma parseRegistration_ok {json : Option Json} {topicDeviceId : String}
    {registration : Registration} (h : parseRegistration json topicDeviceId = .ok registration) :
    registration.deviceId = topicDeviceId ∧ isValidDeviceId registration.deviceId = true ∧
      (registration.status = .online → registration.deviceType = .cnsBox →
        registration.schoolName ≠ none) := by
  simp only [parseRegistration, bind, Except.bind] at h
  repeat' split at h
  all_goals first | contradiction | skip
  cases h
  obtain ⟨hid, hvalid⟩ := requireDeviceId_ok (by assumption : requireDeviceId _ topicDeviceId = _)
  exact ⟨hid, hvalid, requireSchool_ok (by assumption)⟩

end CnsServer
