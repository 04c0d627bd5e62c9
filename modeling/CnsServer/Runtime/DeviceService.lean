/-
The device service (`device_service.cpp`), block by block: what its thread does with
each database result, each message and each write, and the calls of the other
threads in between.

* `DeviceService`: the members of the class, where the thread is in `ProcessReady`,
  and what the sinks have received;
* `mark`, `publish`, `adjustOutstandingDatabaseWork`: the helpers of the class;
* `handleResult`, `handleMessage`: the two overloads of `Handle`;
* `submitProvision`, `submitWrite`: what follows each call of a submitter, whatever
  it answers or throws;
* `deviceService`: the machine made of them. One turn of `ProcessReady` goes through
  its phases in their order; the loops over hash maps take the order the map has,
  which is any order.
-/
import CnsServer.Library.Machine
import CnsServer.Device.Messages
import CnsServer.Persistence.DirtyState
import CnsServer.Runtime.CommandService
import CnsServer.Runtime.WorkerLoop

namespace CnsServer

/-! ### State -/

/-- `DeviceService::PendingRegistration`. -/
structure PendingRegistration where
  registration : Registration
  receivedAt : TimePoint
  submitted : Bool

/-- `PublishedState`. -/
structure PublishedState where
  record : DeviceRecord
  reason : ChangeReason
  degraded : Bool

/-- What the sinks receive, and each change of the counter of outstanding work, with
its value before. -/
inductive DeviceEvent where
  | published (state : PublishedState)
  | snapshot (states : List PublishedState)
  | informed (message : String)
  | diagnosed (message : String)
  | adjusted (before : ℕ) (delta : ℤ)

/-- The calls of `TakeMatching` in `DispatchWrites`. -/
inductive WriteBatch where
  | immediate | telemetry | all
  deriving DecidableEq, Repr

/-- Where the thread is: between two turns of `ProcessReady`, or in one of its loops,
with what is left of it. -/
inductive DevicePhase where
  | idle
  | results
  | replaying (writes : List DesiredDeviceWrite)
  | messages
  | provisions (deviceIds : List String)
  | scanning
  | dispatch
  | dispatching (batch : WriteBatch) (writes : List DesiredDeviceWrite) (accepted : Bool)
  | snapshot

/-- How a call of a submitter ends. -/
inductive SubmitOutcome where
  | accepted | refused
  | threw (standard : Bool)
  deriving DecidableEq, Repr

/-- The constructor arguments that the service reads; `parseJson` is the library
that turns a payload into a document. -/
structure DeviceServiceConfig where
  topicNamespace : String := "cns"
  telemetryInterval : TimePoint := 5000000000
  offlineTimeout : TimePoint := 60000000000
  parseJson : String → Option Json

/-- `DeviceService`. -/
structure DeviceService where
  registry : DeviceRegistry
  dirty : DirtyState
  pending : Map String PendingRegistration
  degraded : Map String ℕ
  lastReason : Map String ChangeReason
  submitted : Map String DesiredDeviceWrite
  pendingStatusLogs : Map String DesiredDeviceWrite
  nextScan : TimePoint
  scanInitialized : Bool
  databaseUnavailable : Bool
  closed : Bool
  inputDrained : Bool
  cancelRequested : Bool
  snapshotRequested : Bool
  drainDispatchPending : Bool
  drainSubmissionBlocked : Bool
  processingReady : Bool
  outstanding : ℕ
  phase : DevicePhase
  events : List DeviceEvent

/-- `kOfflineScan`. -/
def offlineScan : TimePoint := 1000000000

namespace DeviceService

/-- A service that has just been created, with the directory that was loaded. If the
clock cannot be read, the first turn of `ProcessReady` sets the time of the scan. -/
def fresh (registry : DeviceRegistry) (now : Option TimePoint) : DeviceService where
  registry := registry
  dirty := .empty
  pending := ∅
  degraded := ∅
  lastReason := ∅
  submitted := ∅
  pendingStatusLogs := ∅
  nextScan := match now with
    | some now => now + offlineScan
    | none => 0
  scanInitialized := now.isSome
  databaseUnavailable := false
  closed := false
  inputDrained := false
  cancelRequested := false
  snapshotRequested := false
  drainDispatchPending := false
  drainSubmissionBlocked := false
  processingReady := false
  outstanding := 0
  phase := .idle
  events := []

variable (cfg : DeviceServiceConfig)

/-! ### Sinks and counters -/

/-- An entry of the trace. -/
def note (s : DeviceService) (event : DeviceEvent) : DeviceService :=
  { s with events := s.events ++ [event] }

/-- `Publish`. -/
def publish (s : DeviceService) (state : PublishedState) : DeviceService :=
  s.note (.published state)

/-- `Diagnose`. -/
def diagnose (s : DeviceService) (message : String) : DeviceService :=
  s.note (.diagnosed message)

/-- `Inform`. -/
def inform (s : DeviceService) (message : String) : DeviceService :=
  s.note (.informed message)

/-- The counter is an unsigned 64-bit number: it wraps below zero. Memory holds
fewer entries than it can count. -/
def wrappingAdd (counter : ℕ) (delta : ℤ) : ℕ :=
  if 0 ≤ counter + delta then (counter + delta).toNat else (counter + delta + 2 ^ 64).toNat

/-- `AdjustOutstandingDatabaseWork`. -/
def adjustOutstandingDatabaseWork (s : DeviceService) (delta : ℤ) : DeviceService :=
  { s with outstanding := wrappingAdd s.outstanding delta }.note (.adjusted s.outstanding delta)

/-- `IsDeviceDegraded`. -/
def isDeviceDegraded (s : DeviceService) (deviceId : String) : Bool :=
  s.databaseUnavailable || (s.degraded.lookup deviceId).isSome

/-- The number of registrations that have been submitted. -/
def submittedRegistrations (s : DeviceService) : ℕ :=
  s.pending.countP PendingRegistration.submitted

/-- A known device becomes degraded, until a write of the given revision, and its
record is published with the last reason. -/
def degrade (s : DeviceService) (deviceId : String) (revision : DeviceRecord → ℕ) :
    DeviceService :=
  match s.registry.find deviceId with
  | none => s
  | some record =>
      { s with degraded := s.degraded.insert deviceId (revision record) }.publish
        ⟨record, (s.lastReason.lookup deviceId).getD .telemetry, true⟩

/-- `DescribeDeviceForLog`. -/
def describeDeviceForLog (record : DeviceRecord) : String :=
  record.schoolName ++ "/" ++ record.dcdwLabel.getD "未编号" ++ " device_id=" ++ record.deviceId

/-! ### Mutations -/

/-- `WriteFor`. -/
def writeFor (mutation : Mutation) (urgency : Urgency) : DesiredDeviceWrite where
  record := mutation.record
  revision := mutation.record.revision
  writeMetadata := mutation.reason ≠ .telemetry
  writeStatus := mutation.reason ≠ .telemetry || mutation.statusChanged
  writeTelemetry := mutation.reason = .telemetry
  urgency := urgency

/-- What `Mark` writes for a mutation. -/
def markedWrite (mutation : Mutation) : DesiredDeviceWrite :=
  writeFor mutation (if mutation.reason = .telemetry then .telemetryBatch else .immediate)

/-- The status a log line waits for. -/
def statusWrite (record : DeviceRecord) : DesiredDeviceWrite where
  record := record
  revision := record.revision
  writeMetadata := false
  writeStatus := true
  writeTelemetry := false
  urgency := .immediate

/-- `Mark`, with the time of its call of the clock. -/
def mark (s : DeviceService) (mutation : Mutation) (now : TimePoint) : DeviceService :=
  let record := mutation.record
  let s := { s with
    lastReason := s.lastReason.insert record.deviceId mutation.reason
    pendingStatusLogs :=
      if mutation.statusChanged then
        s.pendingStatusLogs.insert record.deviceId (statusWrite record)
      else s.pendingStatusLogs
    dirty := s.dirty.mark (markedWrite mutation) now
    degraded :=
      if s.isDeviceDegraded record.deviceId then s.degraded.insert record.deviceId record.revision
      else s.degraded }
  s.publish ⟨record, mutation.reason, s.isDeviceDegraded record.deviceId⟩

/-! ### Database results -/

/-- `Handle(kUnavailable)`. -/
def handleUnavailable (s : DeviceService) (result : DatabaseResult) : DeviceService :=
  let s := { s with databaseUnavailable := true }.degrade result.deviceId
    fun record => max record.revision result.revision
  let completed := s.submittedRegistrations
  let s := { s with pending := ∅ }
  let s := if completed ≠ 0 then s.adjustOutstandingDatabaseWork (-completed) else s
  s.diagnose "数据库暂不可用，设备状态进入降级模式"

/-- The pending registration of a device fails for good. -/
def dropPending (s : DeviceService) (deviceId : String) : DeviceService :=
  match s.pending.lookup deviceId with
  | none => s
  | some candidate =>
      let s := if candidate.submitted then s.adjustOutstandingDatabaseWork (-1) else s
      { s with pending := s.pending.erase deviceId }

/-- All work fails for good. -/
def dropAll (s : DeviceService) : DeviceService :=
  let completed := s.submittedRegistrations + s.submitted.keys.length
  let s := { s with
    pending := ∅
    submitted := ∅
    pendingStatusLogs := ∅ }
  if completed ≠ 0 then s.adjustOutstandingDatabaseWork (-completed) else s

/-- The write of a device fails for good, whatever its revision. -/
def dropSubmitted (s : DeviceService) (deviceId : String) : DeviceService :=
  let s :=
    if (s.submitted.lookup deviceId).isSome then
      { s with submitted := s.submitted.erase deviceId }.adjustOutstandingDatabaseWork (-1)
    else s
  { s with pendingStatusLogs := s.pendingStatusLogs.erase deviceId }

/-- `Handle(kPermanentFailure)`. -/
def handlePermanentFailure (s : DeviceService) (result : DatabaseResult) : DeviceService :=
  let s := s.dropPending result.deviceId
  let s := if result.deviceId.isEmpty then s.dropAll else s.dropSubmitted result.deviceId
  let s := s.degrade result.deviceId fun record => max record.revision result.revision
  s.diagnose "数据库操作永久失败，已拒绝相关待处理操作"

/-- The write that `Handle(kRecovered)` makes of a degraded device. -/
def recoveredWrite (record : DeviceRecord) : DesiredDeviceWrite where
  record := record
  revision := record.revision
  writeMetadata := true
  writeStatus := true
  writeTelemetry := record.latestTelemetry.isSome
  urgency := .immediate

/-- The writes of `Handle(kRecovered)`, one for each degraded device. -/
def recoveredWrites (s : DeviceService) : List DesiredDeviceWrite :=
  (s.degraded.keys.filterMap s.registry.find).map recoveredWrite

/-- `Handle(kRecovered)`, before the writes are submitted. -/
def handleRecovered (s : DeviceService) (writes : List DesiredDeviceWrite) : DeviceService :=
  { s with
    databaseUnavailable := false
    phase := if writes = [] then .results else .replaying writes }

/-- A registration is applied to the device that has just been added. -/
def applyPending (s : DeviceService) (candidate : PendingRegistration) (now : TimePoint) :
    DeviceService :=
  match s.registry.applyRegistration candidate.registration candidate.receivedAt with
  | (.ok mutation, registry) => { s with registry := registry }.mark mutation now
  | (.error _, _) => s

/-- `Handle(kProvisioned)`. -/
def handleProvisioned (s : DeviceService) (deviceId : String) (record : DeviceRecord)
    (now : TimePoint) : DeviceService :=
  match s.pending.lookup deviceId with
  | none => s
  | some candidate =>
      match s.registry.addProvisioned record with
      | (.error _, _) =>
          if candidate.submitted then s.adjustOutstandingDatabaseWork (-1) else s
      | (.ok _, registry) =>
          let s := { s with
            registry := registry
            pending := s.pending.erase deviceId }.applyPending candidate now
          if candidate.submitted then s.adjustOutstandingDatabaseWork (-1) else s

/-- The log line of a status that has been written. -/
def reportStatus (s : DeviceService) (deviceId : String) (revision : ℕ)
    (write : DesiredDeviceWrite) : DeviceService :=
  match s.pendingStatusLogs.lookup deviceId with
  | none => s
  | some log =>
      if log.revision ≤ revision && write.writeStatus then
        { s.inform ((if log.record.status = .online then "设备上线：" else "设备离线：") ++
            describeDeviceForLog log.record) with
          pendingStatusLogs := s.pendingStatusLogs.erase deviceId }
      else s

/-- The submitted write of a device is complete, if the result is not older. -/
def completeSubmitted (s : DeviceService) (deviceId : String) (revision : ℕ) : DeviceService :=
  match s.submitted.lookup deviceId with
  | none => s
  | some write =>
      if write.revision ≤ revision then
        let s := s.reportStatus deviceId revision write
        { s with
          dirty := s.dirty.complete write
          submitted := s.submitted.erase deviceId }.adjustOutstandingDatabaseWork (-1)
      else s

/-- A degraded device is written again. -/
def recoverDevice (s : DeviceService) (deviceId : String) (revision : ℕ) : DeviceService :=
  match s.degraded.lookup deviceId with
  | none => s
  | some floor =>
      if floor ≤ revision then
        let s := { s with degraded := s.degraded.erase deviceId }
        match s.registry.find deviceId with
        | some record => s.publish ⟨record, .databaseRecovered, false⟩
        | none => s
      else s

/-- `Handle(kWriteCompleted)`. -/
def handleWriteCompleted (s : DeviceService) (result : DatabaseResult) : DeviceService :=
  (s.completeSubmitted result.deviceId result.revision).recoverDevice result.deviceId
    result.revision

/-- `Handle(DatabaseResult)`; `writes` is what `kRecovered` submits, in the order of
the map. -/
def handleResult (s : DeviceService) (result : DatabaseResult)
    (writes : List DesiredDeviceWrite) (now : TimePoint) : DeviceService :=
  match result.kind with
  | .unavailable => s.handleUnavailable result
  | .permanentFailure => s.handlePermanentFailure result
  | .recovered => s.handleRecovered writes
  | .provisioned =>
      match result.provisioned with
      | some record => s.handleProvisioned result.deviceId record now
      | none => s
  | .writeCompleted => s.handleWriteCompleted result

/-! ### Messages -/

/-- The registration of a device that is not in the directory waits for the
database. -/
def awaitProvision (s : DeviceService) (deviceId : String) (registration : Registration)
    (receivedAt : TimePoint) : DeviceService :=
  if s.databaseUnavailable then s
  else
    match s.pending.lookup deviceId with
    | none => { s with pending := s.pending.insert deviceId ⟨registration, receivedAt, false⟩ }
    | some candidate =>
        { s with
          pending := s.pending.insert deviceId
            { candidate with
              registration := registration
              receivedAt := receivedAt } }

/-- A report changed the directory, or was refused. -/
def applyReport (s : DeviceService) (report : Except String Mutation × DeviceRegistry)
    (now : TimePoint) : DeviceService :=
  match report with
  | (.ok mutation, registry) => { s with registry := registry }.mark mutation now
  | (.error _, _) => s

/-- A registration. -/
def handleRegistration (s : DeviceService) (deviceId : String) (registration : Registration)
    (receivedAt now : TimePoint) : DeviceService :=
  match s.registry.find deviceId with
  | none => s.awaitProvision deviceId registration receivedAt
  | some _ => s.applyReport (s.registry.applyRegistration registration receivedAt) now

/-- `Handle(InboundMessage)`. -/
def handleMessage (s : DeviceService) (message : InboundMessage) (now : TimePoint) :
    DeviceService :=
  match parseDeviceTopic cfg.topicNamespace message.topic with
  | .error _ => s
  | .ok ⟨deviceId, .registration⟩ =>
      match parseRegistration (cfg.parseJson message.payload) deviceId with
      | .error _ => s
      | .ok registration => s.handleRegistration deviceId registration message.receivedAt now
  | .ok ⟨deviceId, .telemetry⟩ =>
      match parseTelemetry (cfg.parseJson message.payload) deviceId with
      | .error _ => s
      | .ok telemetry =>
          s.applyReport (s.registry.applyTelemetry deviceId telemetry message.receivedAt) now

/-! ### Submissions -/

/-- The text of a call that does not accept. -/
def SubmitOutcome.message (outcome : SubmitOutcome) (work : String) : String :=
  match outcome with
  | .accepted => ""
  | .refused => work ++ "提交端口已关闭"
  | .threw true => work ++ "提交回调异常"
  | .threw false => work ++ "提交回调发生未知异常"

/-- One round of the loop over `pending_`: the call of the submitter has ended. -/
def submitProvision (s : DeviceService) (deviceId : String) (outcome : SubmitOutcome) :
    DeviceService :=
  match s.pending.lookup deviceId with
  | none => s
  | some candidate =>
      if outcome = .accepted then
        { s with
          pending := s.pending.insert deviceId
            { candidate with submitted := true } }.adjustOutstandingDatabaseWork 1
      else s.diagnose (SubmitOutcome.message outcome "数据库建档")

/-- `SubmitWrite`, once the call of the submitter has ended. -/
def submitWrite (s : DeviceService) (write : DesiredDeviceWrite) (outcome : SubmitOutcome)
    (now : TimePoint) : DeviceService :=
  if outcome = .accepted then
    let s :=
      if (s.submitted.lookup write.record.deviceId).isSome then s
      else s.adjustOutstandingDatabaseWork 1
    { s with submitted := s.submitted.insert write.record.deviceId write }
  else
    let s := { s with dirty := s.dirty.restore write now }.degrade write.record.deviceId
      DeviceRecord.revision
    s.diagnose (SubmitOutcome.message outcome "数据库写入")

/-! ### The turn -/

/-- The request to cancel is consumed. -/
def consumeCancel (s : DeviceService) : DeviceService :=
  if s.cancelRequested then
    { s with
      cancelRequested := false
      pending := s.pending.mapValues fun candidate => { candidate with submitted := false }
      submitted := ∅
      dirty := s.dirty.clear
      drainSubmissionBlocked := false
      outstanding := 0 }
  else s

/-- The registrations that the loop over `pending_` submits. -/
def unsubmitted (s : DeviceService) : List String :=
  if s.databaseUnavailable then []
  else
    s.pending.keys.filter fun deviceId =>
      match s.pending.lookup deviceId with
      | some candidate => !candidate.submitted
      | none => false

/-- The scan for silent devices is due; the first turn may only have set its time. -/
def scanDue (s : DeviceService) (now : TimePoint) : Bool :=
  s.scanInitialized && s.nextScan ≤ now

/-- The mutations of the scan. -/
def scanMutations (s : DeviceService) (now systemNow : TimePoint) : List Mutation :=
  if s.scanDue now then (s.registry.expireInactive systemNow cfg.offlineTimeout).1 else []

/-- The scan; `mutations` is in the order of the map, and `markedAt` the clock at
each call of `Mark`. -/
def scan (s : DeviceService) (now systemNow : TimePoint) (mutations : List Mutation)
    (markedAt : String → TimePoint) : DeviceService :=
  let due := s.scanDue now
  let s := { s with
    nextScan := if due || !s.scanInitialized then now + offlineScan else s.nextScan
    scanInitialized := true
    phase := .dispatch }
  if due then
    mutations.foldl (fun s mutation => s.mark mutation (markedAt mutation.record.deviceId))
      { s with registry := (s.registry.expireInactive systemNow cfg.offlineTimeout).2 }
  else s

/-- The writes `DispatchWrites` takes first. -/
def firstBatch (s : DeviceService) : List DesiredDeviceWrite :=
  if s.inputDrained then s.dirty.takeAllDirty.1 else s.dirty.takeImmediate.1

/-- The head of `DispatchWrites`. -/
def beginDispatch (s : DeviceService) (writes : List DesiredDeviceWrite) : DeviceService :=
  if s.databaseUnavailable then { s with phase := .snapshot }
  else if s.inputDrained then
    if s.drainSubmissionBlocked then { s with phase := .snapshot }
    else { s with
      dirty := s.dirty.takeAllDirty.2
      phase := .dispatching .all writes true }
  else { s with
    dirty := s.dirty.takeImmediate.2
    phase := .dispatching .immediate writes true }

/-- All writes of a batch have been submitted. -/
def endBatch (s : DeviceService) (batch : WriteBatch) (accepted : Bool) (now : TimePoint)
    (writes : List DesiredDeviceWrite) : DeviceService :=
  match batch with
  | .immediate =>
      { s with
        dirty := (s.dirty.takeTelemetryDue now cfg.telemetryInterval).2
        phase := .dispatching .telemetry writes true }
  | .telemetry => { s with phase := .snapshot }
  | .all =>
      { s with
        drainDispatchPending := if accepted then false else s.drainDispatchPending
        drainSubmissionBlocked := if accepted then s.drainSubmissionBlocked else true
        phase := .snapshot }

/-- `ListDevices`. -/
def listDevices (registry : DeviceRegistry) : List DeviceRecord :=
  registry.records.values.mergeSort fun record other => record.deviceId ≤ other.deviceId

/-- `PublishCurrentSnapshot`. -/
def publishCurrentSnapshot (s : DeviceService) : DeviceService :=
  s.note (.snapshot ((listDevices s.registry).map fun record =>
    ⟨record, .snapshotReplay, s.isDeviceDegraded record.deviceId⟩))

/-- The end of `ProcessReady`. -/
def finishReady (s : DeviceService) : DeviceService :=
  let s := if s.snapshotRequested then
      { s with snapshotRequested := false }.publishCurrentSnapshot
    else s
  { s with
    processingReady := false
    phase := .idle }

/-! ### Calls of the other threads -/

/-- `Close`. -/
def close (s : DeviceService) : DeviceService :=
  { s with
    closed := true
    snapshotRequested := false
    drainDispatchPending := true }

/-- `CancelOutstandingDatabaseWork`. -/
def cancelOutstandingDatabaseWork (s : DeviceService) : DeviceService :=
  { s with
    cancelRequested := true
    drainDispatchPending := false }

/-- `RequestExternalSnapshot`. -/
def requestExternalSnapshot (s : DeviceService) : DeviceService :=
  if s.closed then s else { s with snapshotRequested := true }

/-- The condition `WaitForDatabaseIdle` waits for. -/
def isDatabaseIdle (s : DeviceService) : Bool :=
  s.outstanding = 0 && !s.processingReady && !s.drainDispatchPending

end DeviceService

/-! ### The machine -/

/-- What can happen next: a step of the thread, or a call of another thread. -/
inductive DeviceInput where
  | begin
  | result (answer : DatabaseResult) (writes : List DesiredDeviceWrite) (now : TimePoint)
  | resultsDone
  | message (inbound : InboundMessage) (now : TimePoint)
  | messagesDone (deviceIds : List String)
  | provision (outcome : SubmitOutcome)
  | scan (now systemNow : TimePoint) (mutations : List Mutation) (markedAt : String → TimePoint)
  | dispatch (writes : List DesiredDeviceWrite)
  | write (outcome : SubmitOutcome) (now : TimePoint)
  | endBatch (now : TimePoint) (writes : List DesiredDeviceWrite)
  | finish
  | close
  | drained
  | cancel
  | requestSnapshot

/-- The result that a step hands over to the service. -/
def DeviceInput.answer? : DeviceInput → Option DatabaseResult
  | .result answer _ _ => some answer
  | _ => none

open DeviceService in
/-- The state after an input. -/
def DeviceInput.apply (cfg : DeviceServiceConfig) (s : DeviceService) : DeviceInput → DeviceService
  | .begin =>
      { s with
        processingReady := true
        phase := .results }
  | .result answer writes now => s.handleResult answer writes now
  | .resultsDone => { s.consumeCancel with phase := .messages }
  | .message inbound now => s.handleMessage cfg inbound now
  | .messagesDone deviceIds =>
      { s with phase := if deviceIds = [] then .scanning else .provisions deviceIds }
  | .provision outcome =>
      match s.phase with
      | .provisions (deviceId :: deviceIds) =>
          { s.submitProvision deviceId outcome with
            phase := if deviceIds = [] then .scanning else .provisions deviceIds }
      | _ => s
  | .scan now systemNow mutations markedAt => s.scan cfg now systemNow mutations markedAt
  | .dispatch writes => s.beginDispatch writes
  | .write outcome now =>
      match s.phase with
      | .replaying (desired :: writes) =>
          { s.submitWrite desired outcome now with
            phase := if writes = [] then .results else .replaying writes }
      | .dispatching batch (desired :: writes) accepted =>
          { s.submitWrite desired outcome now with
            phase := .dispatching batch writes (accepted && outcome = .accepted) }
      | _ => s
  | .endBatch now writes =>
      match s.phase with
      | .dispatching batch [] accepted => s.endBatch cfg batch accepted now writes
      | _ => s
  | .finish => s.finishReady
  | .close => s.close
  | .drained => { s with inputDrained := true }
  | .cancel => s.cancelOutstandingDatabaseWork
  | .requestSnapshot => s.requestExternalSnapshot

/-- When an input may arrive: the thread is in the phase of the step, and the lists
are those of the loops, in any order. -/
def DeviceInput.Enabled (cfg : DeviceServiceConfig) (s : DeviceService) : DeviceInput → Prop
  | .begin => s.phase = .idle
  | .result answer writes _ => s.phase = .results ∧
      (answer.kind = .recovered → writes.Perm s.recoveredWrites)
  | .resultsDone => s.phase = .results
  | .message _ _ => s.phase = .messages
  | .messagesDone deviceIds => s.phase = .messages ∧ deviceIds.Perm s.unsubmitted
  | .provision _ => ∃ deviceId deviceIds, s.phase = .provisions (deviceId :: deviceIds)
  | .scan now systemNow mutations _ => s.phase = .scanning ∧
      mutations.Perm (s.scanMutations cfg now systemNow)
  | .dispatch writes => s.phase = .dispatch ∧ writes.Perm s.firstBatch
  | .write _ _ => ∃ desired writes, s.phase = .replaying (desired :: writes) ∨
      ∃ batch accepted, s.phase = .dispatching batch (desired :: writes) accepted
  | .endBatch now writes => ∃ batch accepted, s.phase = .dispatching batch [] accepted ∧
      (batch = .immediate → writes.Perm (s.dirty.takeTelemetryDue now cfg.telemetryInterval).1)
  | .finish => s.phase = .snapshot
  | .drained => s.phase = .idle ∧ s.closed = true
  | _ => True

/-- `LoadDeviceSnapshot`: the directory the service starts with, which is what the
database holds once the devices that were silent for too long have expired. -/
def loadDeviceSnapshot (records : List DeviceRecord) (systemNow offlineTimeout : TimePoint) :
    DeviceRegistry :=
  ((DeviceRegistry.empty.load records).2.expireInactive systemNow offlineTimeout).2

/-- The device service among its callers: any devices at the start, and any
results, messages and answers of the submitters. -/
def deviceService (cfg : DeviceServiceConfig) : Machine DeviceService DeviceInput where
  init s := ∃ records systemNow now,
    s = DeviceService.fresh (loadDeviceSnapshot records systemNow cfg.offlineTimeout) now
  enabled := DeviceInput.Enabled cfg
  next := DeviceInput.apply cfg

end CnsServer
