/-
Sources and targets (`command_router.cpp`): the catalogue of command sources
and the resolution of a request's target against the device directory.
-/
import CnsServer.Device.Registry

namespace CnsServer

structure CommandSource where
  sourceId : String
  kind : SourceKind
  deviceId : Option String
  enabled : Bool
  deriving DecidableEq, Repr

/-- A device as a source. -/
def deviceSource (deviceId : String) : CommandSource :=
  ⟨deviceId, .device, some deviceId, true⟩

/-- `SourceCatalog`: the sources loaded at start, by id. -/
structure SourceCatalog where
  sources : Map String CommandSource

namespace SourceCatalog

/-- The checks `Load` makes on one source. -/
def checkSource (source : CommandSource) : Except String Unit :=
  if source.sourceId.isEmpty then .error "命令来源标识不能为空"
  else if source.kind = .device then
    match source.deviceId with
    | none => .error "设备来源缺少关联设备"
    | some deviceId =>
        if deviceId ≠ source.sourceId then .error "设备来源标识必须等于关联设备标识"
        else .ok ()
  else if source.deviceId.isSome then .error "非设备来源不得关联设备"
  else .ok ()

/-- `Load`: every source is checked, and ids must not repeat. -/
def load (sources : List CommandSource) : Except String SourceCatalog :=
  (sources.foldlM
    (fun (loaded : Map String CommandSource) source => do
      checkSource source
      if (loaded.lookup source.sourceId).isSome then
        .error ("命令来源标识重复: " ++ source.sourceId)
      else .ok (loaded.insert source.sourceId source)) ∅).map SourceCatalog.mk

/-- `Find`. -/
def find (catalog : SourceCatalog) (sourceId : String) : Option CommandSource :=
  catalog.sources.lookup sourceId

end SourceCatalog

/-- `Resolve`. -/
def resolve (record : DeviceRecord) : ResolvedTarget :=
  ⟨record.deviceId, record.schoolName, record.dcdwLabel⟩

/-- `ResolveConfigTarget`, on the target of a request. -/
def resolveConfigTarget (source : CommandSource) (target : RequestTarget)
    (devices : DeviceRegistry) : Except ProtocolError ResolvedTarget :=
  let found (device : Option DeviceRecord) : Except ProtocolError ResolvedTarget :=
    match device with
    | some record => .ok (resolve record)
    | none => .error ⟨"target_not_found", "目标设备不存在"⟩
  if source.kind = .device then
    match target, source.deviceId with
    | .deviceLabel label, some deviceId =>
        match devices.find deviceId with
        | none => .error ⟨"permission_denied", "来源设备不在设备目录中"⟩
        | some sourceDevice =>
            if sourceDevice.status ≠ .online then
              .error ⟨"source_device_offline", "来源设备当前离线"⟩
            else found (devices.findBySchoolAndLabel sourceDevice.schoolId label)
    | _, _ => .error ⟨"invalid_target", "设备来源只能使用同校角色号寻址"⟩
  else
    match target with
    | .device deviceId => found (devices.find deviceId)
    | .schoolLabel schoolName label =>
        if devices.isSchoolNameAndLabelAmbiguous schoolName label then
          .error ⟨"target_ambiguous", "学校名和角色号对应多个设备"⟩
        else found (devices.findBySchoolNameAndLabel schoolName label)
    | .deviceLabel _ => .error ⟨"invalid_target", "命令来源不能使用该目标形式"⟩

/-- `ResolveControlTarget`: as for configuration, but real flight controllers
take no control commands. -/
def resolveControlTarget (source : CommandSource) (target : RequestTarget)
    (devices : DeviceRegistry) : Except ProtocolError ResolvedTarget :=
  match resolveConfigTarget source target devices with
  | .error error => .error error
  | .ok resolved =>
      match devices.find resolved.deviceId with
      | some record =>
          if record.deviceType = .flightController then
            .error ⟨"unsupported_device_type",
              "真实飞控当前只接收遥测与 Remote ID，不支持主控箱私有控制命令"⟩
          else .ok resolved
      | none => .ok resolved

/-- The error codes of target resolution. -/
def resolveErrorCodes : List String :=
  ["target_not_found", "permission_denied", "source_device_offline", "invalid_target",
    "target_ambiguous", "unsupported_device_type"]

/-- The router refuses with a code of its own list. -/
lemma resolveConfigTarget_error_code {source : CommandSource} {target : RequestTarget}
    {devices : DeviceRegistry} {error : ProtocolError}
    (h : resolveConfigTarget source target devices = .error error) :
    error.code ∈ resolveErrorCodes := by
  unfold resolveConfigTarget at h
  simp only [] at h
  repeat' split at h
  all_goals cases h
  all_goals decide

lemma resolveControlTarget_error_code {source : CommandSource} {target : RequestTarget}
    {devices : DeviceRegistry} {error : ProtocolError}
    (h : resolveControlTarget source target devices = .error error) :
    error.code ∈ resolveErrorCodes := by
  unfold resolveControlTarget at h
  split at h
  · next he =>
      cases h
      exact resolveConfigTarget_error_code he
  · repeat' split at h
    all_goals cases h
    decide

end CnsServer
