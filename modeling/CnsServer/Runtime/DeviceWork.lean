/-
The database work of the device service: what it has asked the database thread for,
and whether it takes the database to be there.

* `DeviceWork`: the pending registrations, the submitted writes, and the flag;
* `DeviceWorkInput`, `DeviceWork.next`: everything that can happen to them;
* `work_next`: **the service does nothing else to its work**, so that an invariant
  of it needs one case for each `DeviceWorkInput`;
* `workInput_keyed`: a registration is filed under the device it is for.
-/
import CnsServer.Runtime.DeviceEffects

namespace CnsServer

open DeviceService

/-- The part of the service that the database thread depends on. -/
structure DeviceWork where
  pending : Map String PendingRegistration
  submitted : Map String DesiredDeviceWrite
  unavailable : Bool

/-- What happens to it: a result, a request to cancel, a registration of a device that
is not in the directory, and the end of a submission. `provisioned` says whether the
directory lets the record in. -/
inductive DeviceWorkInput where
  | skip
  | lost
  | recovered
  | failed (deviceId : String)
  | provisioned (deviceId : String) (added : Bool)
  | completed (deviceId : String) (revision : ℕ)
  | cancelled
  | awaits (deviceId : String) (registration : Registration) (receivedAt : TimePoint)
  | submitProvision (deviceId : String) (outcome : SubmitOutcome)
  | submitWrite (write : DesiredDeviceWrite) (outcome : SubmitOutcome)

namespace DeviceWork

/-- The pending registration after another message of its device. -/
def renewed (current : Option PendingRegistration) (registration : Registration)
    (receivedAt : TimePoint) : PendingRegistration where
  registration := registration
  receivedAt := receivedAt
  submitted := (current.map PendingRegistration.submitted).getD false

/-- The state after an input. -/
def next (v : DeviceWork) : DeviceWorkInput → DeviceWork
  | .skip => v
  | .lost =>
      { v with
        pending := ∅
        unavailable := true }
  | .recovered => { v with unavailable := false }
  | .failed deviceId =>
      if deviceId.isEmpty then
        { v with
          pending := ∅
          submitted := ∅ }
      else
        { v with
          pending := v.pending.erase deviceId
          submitted := v.submitted.erase deviceId }
  | .provisioned deviceId added =>
      if added then { v with pending := v.pending.erase deviceId } else v
  | .completed deviceId revision =>
      match v.submitted.lookup deviceId with
      | none => v
      | some write =>
          if write.revision ≤ revision then
            { v with submitted := v.submitted.erase deviceId }
          else v
  | .cancelled =>
      { v with
        pending := v.pending.mapValues fun candidate => { candidate with submitted := false }
        submitted := ∅ }
  | .awaits deviceId registration receivedAt =>
      if v.unavailable then v
      else
        { v with
          pending := v.pending.insert deviceId
            (renewed (v.pending.lookup deviceId) registration receivedAt) }
  | .submitProvision deviceId outcome =>
      match v.pending.lookup deviceId with
      | none => v
      | some candidate =>
          if outcome = .accepted then
            { v with
              pending := v.pending.insert deviceId { candidate with submitted := true } }
          else v
  | .submitWrite write outcome =>
      if outcome = .accepted then
        { v with submitted := v.submitted.insert write.record.deviceId write }
      else v

end DeviceWork

/-! ### The projection -/

/-- The work of a service. -/
def DeviceService.work (s : DeviceService) : DeviceWork where
  pending := s.pending
  submitted := s.submitted
  unavailable := s.databaseUnavailable

/-- What a result means for the work; `added` says whether the directory lets its
record in. -/
def DatabaseResult.workInput (answer : DatabaseResult) (pending : Map String PendingRegistration)
    (added : Bool) : DeviceWorkInput :=
  match answer.kind with
  | .unavailable => .lost
  | .permanentFailure => .failed answer.deviceId
  | .recovered => .recovered
  | .provisioned =>
      if answer.provisioned.isSome && (pending.lookup answer.deviceId).isSome then
        .provisioned answer.deviceId added
      else .skip
  | .writeCompleted => .completed answer.deviceId answer.revision

/-- The directory lets the record of a result in. -/
def DeviceService.letsIn (s : DeviceService) (answer : DatabaseResult) : Bool :=
  match answer.provisioned with
  | some record => (s.registry.addProvisioned record).1.isOk
  | none => false

/-- What a message means for the work: a registration of a device that is not in the
directory, or nothing. -/
def DeviceService.messageInput (cfg : DeviceServiceConfig) (s : DeviceService)
    (inbound : InboundMessage) : DeviceWorkInput :=
  match parseDeviceTopic cfg.topicNamespace inbound.topic with
  | .ok ⟨deviceId, .registration⟩ =>
      match parseRegistration (cfg.parseJson inbound.payload) deviceId with
      | .ok registration =>
          if (s.registry.find deviceId).isSome then .skip
          else .awaits deviceId registration inbound.receivedAt
      | .error _ => .skip
  | _ => .skip

/-- What an input of the service means for its work. -/
def DeviceInput.workInput (cfg : DeviceServiceConfig) (s : DeviceService) :
    DeviceInput → DeviceWorkInput
  | .result answer _ _ => answer.workInput s.pending (s.letsIn answer)
  | .resultsDone => if s.cancelRequested then .cancelled else .skip
  | .message inbound _ => s.messageInput cfg inbound
  | .provision outcome =>
      match s.phase with
      | .provisions (deviceId :: _) => .submitProvision deviceId outcome
      | _ => .skip
  | .write outcome _ =>
      match s.phase with
      | .replaying (desired :: _) => .submitWrite desired outcome
      | .dispatching _ (desired :: _) _ => .submitWrite desired outcome
      | _ => .skip
  | _ => .skip

section

variable {cfg : DeviceServiceConfig} {s s' : DeviceService}

lemma DeviceService.SameWork.work (h : SameWork s s') : s'.work = s.work := by
  simp only [DeviceService.work]
  rw [h.pending, h.submitted, h.databaseUnavailable]

lemma work_handleUnavailable (answer : DatabaseResult) :
    (s.handleUnavailable answer).work = s.work.next .lost := by
  have hdegraded := degrade_sameWork { s with databaseUnavailable := true } answer.deviceId
    fun record => max record.revision answer.revision
  have hsubmitted := hdegraded.submitted
  have hunavailable := hdegraded.databaseUnavailable
  rw [handleUnavailable]
  dsimp only at hsubmitted hunavailable ⊢
  split
  · exact congrArg₂ (DeviceWork.mk ∅) hsubmitted hunavailable
  · exact congrArg₂ (DeviceWork.mk ∅) hsubmitted hunavailable

/-- What a failed operation takes out of the pending registrations. -/
lemma work_dropPending (deviceId : String) :
    (s.dropPending deviceId).work = { s.work with pending := s.pending.erase deviceId } := by
  rw [dropPending]
  split
  · next hnone =>
      rw [Map.erase_of_lookup_none hnone]
      rfl
  · dsimp only
    split
    · rfl
    · rfl

lemma work_dropAll : s.dropAll.work = ⟨∅, ∅, s.databaseUnavailable⟩ := by
  unfold dropAll
  dsimp only
  split
  · rfl
  · rfl

lemma work_dropSubmitted (deviceId : String) :
    (s.dropSubmitted deviceId).work =
      { s.work with submitted := s.submitted.erase deviceId } := by
  rw [dropSubmitted]
  dsimp only
  split
  · rfl
  · next hnone =>
      rw [Bool.not_eq_true, Option.isSome_eq_false_iff, Option.isNone_iff_eq_none] at hnone
      rw [Map.erase_of_lookup_none hnone]
      rfl

lemma work_handlePermanentFailure (answer : DatabaseResult) :
    (s.handlePermanentFailure answer).work = s.work.next (.failed answer.deviceId) := by
  have hpending := @work_dropPending s answer.deviceId
  have hdropped : (if answer.deviceId.isEmpty then (s.dropPending answer.deviceId).dropAll
      else (s.dropPending answer.deviceId).dropSubmitted answer.deviceId).work =
      s.work.next (.failed answer.deviceId) := by
    simp only [DeviceWork.next]
    split
    · rw [work_dropAll]
      exact congrArg (DeviceWork.mk ∅ ∅) (congrArg DeviceWork.unavailable hpending)
    · rw [work_dropSubmitted, hpending]
      exact congrArg (fun v : DeviceWork => (⟨s.pending.erase answer.deviceId,
        v.submitted.erase answer.deviceId, s.databaseUnavailable⟩ : DeviceWork)) hpending
  exact (degrade_sameWork _ _ _).work.trans hdropped

lemma work_handleProvisioned {deviceId : String} (record : DeviceRecord) (now : TimePoint)
    (h : (s.pending.lookup deviceId).isSome = true) :
    (s.handleProvisioned deviceId record now).work =
      s.work.next (.provisioned deviceId (s.registry.addProvisioned record).1.isOk) := by
  obtain ⟨candidate, hcandidate⟩ := Option.isSome_iff_exists.mp h
  rw [handleProvisioned]
  rw [hcandidate]
  dsimp only
  split
  · next message registry hrefused =>
      rw [hrefused]
      split
      · rfl
      · rfl
  · next registry hadded =>
      rw [hadded]
      have happlied := applyPending_sameWork { s with
        registry := registry
        pending := s.pending.erase deviceId } candidate now
      split
      · exact happlied.work
      · exact happlied.work

lemma work_handleWriteCompleted (answer : DatabaseResult) :
    (s.handleWriteCompleted answer).work =
      s.work.next (.completed answer.deviceId answer.revision) := by
  refine (recoverDevice_sameWork _ _ _).work.trans ?_
  rw [completeSubmitted]
  simp only [DeviceWork.next, DeviceService.work]
  cases s.submitted.lookup answer.deviceId with
  | none => rfl
  | some write =>
      have hreported := reportStatus_sameWork s answer.deviceId answer.revision write
      by_cases hrevision : write.revision ≤ answer.revision
      · simp only [if_pos hrevision]
        exact congrArg (fun v : DeviceWork => (⟨v.pending, v.submitted.erase answer.deviceId,
          v.unavailable⟩ : DeviceWork)) hreported.work
      · simp only [if_neg hrevision]

lemma work_handleResult (answer : DatabaseResult) (writes : List DesiredDeviceWrite)
    (now : TimePoint) :
    (s.handleResult answer writes now).work =
      s.work.next (answer.workInput s.pending (s.letsIn answer)) := by
  rw [handleResult, DatabaseResult.workInput, letsIn]
  cases answer.kind with
  | unavailable => exact work_handleUnavailable answer
  | permanentFailure => exact work_handlePermanentFailure answer
  | recovered => rfl
  | writeCompleted => exact work_handleWriteCompleted answer
  | provisioned =>
      dsimp only
      cases answer.provisioned with
      | none => rfl
      | some record =>
          dsimp only
          split
          · next hpending =>
              exact work_handleProvisioned record now (Bool.and_eq_true_iff.mp hpending).2
          · next hnone =>
              rw [Option.isSome_some, Bool.true_and, Bool.not_eq_true, Option.isSome_eq_false_iff,
                Option.isNone_iff_eq_none] at hnone
              rw [handleProvisioned]
              rw [hnone]
              rfl

lemma work_awaitProvision (deviceId : String) (registration : Registration)
    (receivedAt : TimePoint) :
    (s.awaitProvision deviceId registration receivedAt).work =
      s.work.next (.awaits deviceId registration receivedAt) := by
  rw [awaitProvision]
  by_cases hunavailable : s.databaseUnavailable = true
  · rw [if_pos hunavailable]
    exact (if_pos hunavailable).symm
  · rw [if_neg hunavailable]
    refine Eq.trans ?_ (if_neg hunavailable).symm
    simp only [DeviceService.work]
    cases s.pending.lookup deviceId with
    | none => rfl
    | some candidate => rfl

lemma work_handleMessage (inbound : InboundMessage) (now : TimePoint) :
    (s.handleMessage cfg inbound now).work = s.work.next (s.messageInput cfg inbound) := by
  rw [handleMessage, messageInput]
  cases parseDeviceTopic cfg.topicNamespace inbound.topic with
  | error message => rfl
  | ok topic =>
      obtain ⟨deviceId, kind⟩ := topic
      cases kind with
      | registration =>
          dsimp only
          cases parseRegistration (cfg.parseJson inbound.payload) deviceId with
          | error message => rfl
          | ok registration =>
              simp only [handleRegistration]
              cases s.registry.find deviceId with
              | none => exact work_awaitProvision deviceId registration inbound.receivedAt
              | some record => exact (applyReport_sameWork s _ now).work
      | telemetry =>
          dsimp only
          split
          · rfl
          · exact (applyReport_sameWork s _ now).work

lemma work_submitProvision (deviceId : String) (outcome : SubmitOutcome) :
    (s.submitProvision deviceId outcome).work =
      s.work.next (.submitProvision deviceId outcome) := by
  rw [submitProvision]
  simp only [DeviceWork.next, DeviceService.work]
  cases s.pending.lookup deviceId with
  | none => rfl
  | some candidate =>
      dsimp only
      split
      · rfl
      · rfl

lemma work_submitWrite (write : DesiredDeviceWrite) (outcome : SubmitOutcome) (now : TimePoint) :
    (s.submitWrite write outcome now).work = s.work.next (.submitWrite write outcome) := by
  rw [submitWrite]
  simp only [DeviceWork.next]
  split
  · split
    · rfl
    · rfl
  · exact (degrade_sameWork _ _ _).work

/-- **The service does nothing else to its work.** -/
theorem work_next (input : DeviceInput) :
    (input.apply cfg s).work = s.work.next (input.workInput cfg s) := by
  cases input with
  | result answer writes now => exact work_handleResult answer writes now
  | resultsDone =>
      simp only [DeviceInput.apply, DeviceInput.workInput, consumeCancel]
      split
      · rfl
      · rfl
  | message inbound now => exact work_handleMessage inbound now
  | provision outcome =>
      simp only [DeviceInput.apply, DeviceInput.workInput]
      cases s.phase with
      | provisions deviceIds =>
          cases deviceIds with
          | nil => rfl
          | cons deviceId deviceIds => exact work_submitProvision deviceId outcome
      | _ => rfl
  | scan now systemNow mutations markedAt =>
      simp only [DeviceInput.apply, DeviceInput.workInput, scan]
      split
      · exact (foldl_mark_sameWork _ _ _).work
      · rfl
  | dispatch writes =>
      simp only [DeviceInput.apply, DeviceInput.workInput, beginDispatch]
      split
      · rfl
      split
      · split
        · rfl
        · rfl
      · rfl
  | write outcome now =>
      simp only [DeviceInput.apply, DeviceInput.workInput]
      cases s.phase with
      | replaying writes =>
          cases writes with
          | nil => rfl
          | cons desired writes => exact work_submitWrite desired outcome now
      | dispatching batch writes accepted =>
          cases writes with
          | nil => rfl
          | cons desired writes => exact work_submitWrite desired outcome now
      | _ => rfl
  | endBatch now writes =>
      simp only [DeviceInput.apply, DeviceInput.workInput]
      cases s.phase with
      | dispatching batch left accepted =>
          cases left with
          | nil => cases batch <;> rfl
          | cons desired left => rfl
      | _ => rfl
  | finish =>
      simp only [DeviceInput.apply, DeviceInput.workInput, finishReady]
      split
      · rfl
      · rfl
  | requestSnapshot =>
      simp only [DeviceInput.apply, DeviceInput.workInput, requestExternalSnapshot]
      split
      · rfl
      · rfl
  | _ => rfl

/-- A registration that comes in is for the device it is filed under. -/
def DeviceWorkInput.Keyed : DeviceWorkInput → Prop
  | .awaits deviceId registration _ => registration.deviceId = deviceId
  | _ => True

lemma workInput_keyed (input : DeviceInput) : (input.workInput cfg s).Keyed := by
  cases input with
  | result answer writes now =>
      simp only [DeviceInput.workInput, DatabaseResult.workInput]
      split
      · trivial
      · trivial
      · trivial
      · split
        · trivial
        · trivial
      · trivial
  | message inbound now =>
      simp only [DeviceInput.workInput, messageInput]
      split
      · split
        · next registration hregistration =>
            split
            · trivial
            · exact (parseRegistration_ok hregistration).1
        · trivial
      · trivial
  | resultsDone =>
      simp only [DeviceInput.workInput]
      split
      · trivial
      · trivial
  | provision outcome =>
      simp only [DeviceInput.workInput]
      split
      · trivial
      · trivial
  | write outcome now =>
      simp only [DeviceInput.workInput]
      split
      · trivial
      · trivial
      · trivial
  | _ => trivial

end

end CnsServer
