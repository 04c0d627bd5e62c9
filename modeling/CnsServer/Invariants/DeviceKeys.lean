/-
The keys of the maps of the device service.

* `registryInputs`, `registry_next`: what a step asks of the directory, which is all
  that happens to it;
* `registry_of_reachable`: the directory of a service is one that its operations
  reach, so that its indexes are in order;
* `pendingKeyed_of_reachable`: a pending registration stands under the device it is
  for.
-/
import CnsServer.Properties.RoleIndexes
import CnsServer.Runtime.DeviceWork

namespace CnsServer

open DeviceService

section

variable {cfg : DeviceServiceConfig} {s : DeviceService}

/-! ### The directory -/

@[simp] lemma degrade_registry (deviceId : String) (revision : DeviceRecord → ℕ) :
    (s.degrade deviceId revision).registry = s.registry := by
  rw [degrade]
  split
  · rfl
  · rfl

@[simp] lemma mark_registry (mutation : Mutation) (now : TimePoint) :
    (s.mark mutation now).registry = s.registry := rfl

@[simp] lemma foldl_mark_registry (markedAt : Mutation → TimePoint) (mutations : List Mutation)
    (s : DeviceService) :
    (mutations.foldl (fun s mutation => s.mark mutation (markedAt mutation)) s).registry =
      s.registry := by
  induction mutations generalizing s with
  | nil => rfl
  | cons mutation mutations ih => exact ih _

@[simp] lemma dropPending_registry (deviceId : String) :
    (s.dropPending deviceId).registry = s.registry := by
  rw [dropPending]
  split
  · rfl
  · dsimp only
    split
    · rfl
    · rfl

@[simp] lemma dropAll_registry : s.dropAll.registry = s.registry := by
  unfold dropAll
  dsimp only
  split
  · rfl
  · rfl

@[simp] lemma dropSubmitted_registry (deviceId : String) :
    (s.dropSubmitted deviceId).registry = s.registry := by
  rw [dropSubmitted]
  dsimp only
  split
  · rfl
  · rfl

@[simp] lemma handleUnavailable_registry (answer : DatabaseResult) :
    (s.handleUnavailable answer).registry = s.registry := by
  have hdegraded := @degrade_registry { s with databaseUnavailable := true } answer.deviceId
    fun record => max record.revision answer.revision
  unfold handleUnavailable
  dsimp only
  split
  · exact hdegraded
  · exact hdegraded

@[simp] lemma handlePermanentFailure_registry (answer : DatabaseResult) :
    (s.handlePermanentFailure answer).registry = s.registry := by
  refine (degrade_registry _ _).trans ?_
  split
  · rw [dropAll_registry, dropPending_registry]
  · rw [dropSubmitted_registry, dropPending_registry]

@[simp] lemma reportStatus_registry (deviceId : String) (revision : ℕ)
    (write : DesiredDeviceWrite) :
    (s.reportStatus deviceId revision write).registry = s.registry := by
  rw [reportStatus]
  split
  · rfl
  · split
    · rfl
    · rfl

@[simp] lemma handleWriteCompleted_registry (answer : DatabaseResult) :
    (s.handleWriteCompleted answer).registry = s.registry := by
  have hcompleted : (s.completeSubmitted answer.deviceId answer.revision).registry =
      s.registry := by
    rw [completeSubmitted]
    split
    · rfl
    · split
      · exact reportStatus_registry _ _ _
      · rfl
  refine Eq.trans ?_ hcompleted
  rw [handleWriteCompleted, recoverDevice]
  split
  · rfl
  · split
    · dsimp only
      split
      · rfl
      · rfl
    · rfl

@[simp] lemma submitProvision_registry (deviceId : String) (outcome : SubmitOutcome) :
    (s.submitProvision deviceId outcome).registry = s.registry := by
  rw [submitProvision]
  split
  · rfl
  · split
    · rfl
    · rfl

@[simp] lemma submitWrite_registry (write : DesiredDeviceWrite) (outcome : SubmitOutcome)
    (now : TimePoint) : (s.submitWrite write outcome now).registry = s.registry := by
  rw [submitWrite]
  split
  · dsimp only
    split
    · rfl
    · rfl
  · exact degrade_registry _ _

@[simp] lemma consumeCancel_registry : s.consumeCancel.registry = s.registry := by
  rw [consumeCancel]
  split
  · rfl
  · rfl

@[simp] lemma finishReady_registry : s.finishReady.registry = s.registry := by
  rw [finishReady]
  dsimp only
  split
  · rfl
  · rfl

/-- What a message asks of the directory. -/
def DeviceService.messageRegistryInputs (cfg : DeviceServiceConfig) (s : DeviceService)
    (inbound : InboundMessage) : List RegistryInput :=
  match parseDeviceTopic cfg.topicNamespace inbound.topic with
  | .error _ => []
  | .ok ⟨deviceId, .registration⟩ =>
      match parseRegistration (cfg.parseJson inbound.payload) deviceId with
      | .error _ => []
      | .ok registration =>
          if (s.registry.find deviceId).isSome then [.registration registration inbound.receivedAt]
          else []
  | .ok ⟨deviceId, .telemetry⟩ =>
      match parseTelemetry (cfg.parseJson inbound.payload) deviceId with
      | .error _ => []
      | .ok telemetry => [.telemetry deviceId telemetry inbound.receivedAt]

/-- What a result asks of the directory: a record that is let in comes with the pending
registration of its device. -/
def DeviceService.resultRegistryInputs (s : DeviceService) (answer : DatabaseResult) :
    List RegistryInput :=
  match answer.kind, answer.provisioned, s.pending.lookup answer.deviceId with
  | .provisioned, some record, some candidate =>
      if (s.registry.addProvisioned record).1.isOk then
        [.addProvisioned record, .registration candidate.registration candidate.receivedAt]
      else []
  | _, _, _ => []

/-- What a step of the service asks of the directory, in its order. -/
def DeviceInput.registryInputs (cfg : DeviceServiceConfig) (s : DeviceService) :
    DeviceInput → List RegistryInput
  | .result answer _ _ => s.resultRegistryInputs answer
  | .message inbound _ => s.messageRegistryInputs cfg inbound
  | .scan now systemNow _ _ =>
      if s.scanDue now then [.expireInactive systemNow cfg.offlineTimeout] else []
  | _ => []

/-- A report leaves the directory it answers with. -/
lemma applyReport_registry {report : Except String Mutation × DeviceRegistry}
    (h : ∀ message, report.1 = .error message → report.2 = s.registry) (now : TimePoint) :
    (s.applyReport report now).registry = report.2 := by
  obtain ⟨outcome, registry⟩ := report
  cases outcome with
  | ok mutation => rfl
  | error message => exact (h message rfl).symm

lemma applyRegistration_error {devices : DeviceRegistry} {registration : Registration}
    {receivedAt : TimePoint} {message : String}
    (h : (devices.applyRegistration registration receivedAt).1 = .error message) :
    (devices.applyRegistration registration receivedAt).2 = devices := by
  rw [DeviceRegistry.applyRegistration] at h ⊢
  split
  · rfl
  · next record hrecord =>
      rw [hrecord] at h
      dsimp only at h ⊢
      split
      · rfl
      · next htype =>
          rw [if_neg htype] at h
          cases h

lemma applyTelemetry_error {devices : DeviceRegistry} {deviceId : String} {telemetry : Telemetry}
    {receivedAt : TimePoint} {message : String}
    (h : (devices.applyTelemetry deviceId telemetry receivedAt).1 = .error message) :
    (devices.applyTelemetry deviceId telemetry receivedAt).2 = devices := by
  rw [DeviceRegistry.applyTelemetry] at h ⊢
  split
  · rfl
  · next record hrecord =>
      rw [hrecord] at h
      dsimp only at h ⊢
      split
      · rfl
      · next htype =>
          rw [if_neg htype] at h
          cases h

lemma applyPending_registry (candidate : PendingRegistration) (now : TimePoint) :
    (s.applyPending candidate now).registry =
      (s.registry.applyRegistration candidate.registration candidate.receivedAt).2 := by
  rw [applyPending]
  split
  · next mutation registry hok => rw [hok]; rfl
  · next message registry hrefused =>
      exact (applyRegistration_error (congrArg Prod.fst hrefused)).symm

lemma handleProvisioned_registry {answer : DatabaseResult} {record : DeviceRecord}
    (hkind : answer.kind = .provisioned) (hrecord : answer.provisioned = some record)
    (now : TimePoint) : (s.handleProvisioned answer.deviceId record now).registry =
      (s.resultRegistryInputs answer).foldl DeviceRegistry.next s.registry := by
  rw [handleProvisioned, resultRegistryInputs, hkind, hrecord]
  cases s.pending.lookup answer.deviceId with
  | none => rfl
  | some candidate =>
      dsimp only
      split
      · next message registry hrefused =>
          simp only [hrefused, Except.isOk, Except.toBool, Bool.false_eq_true, if_false,
            List.foldl_nil]
          split
          · rfl
          · rfl
      · next registry hadded =>
          have happlied := @applyPending_registry { s with
            registry := registry
            pending := s.pending.erase answer.deviceId } candidate now
          have hnext : s.registry.next (.addProvisioned record) = registry :=
            congrArg Prod.snd hadded
          simp only [hadded, Except.isOk, Except.toBool, if_true, List.foldl_cons, List.foldl_nil,
            hnext]
          split
          · exact happlied
          · exact happlied

lemma handleMessage_registry (inbound : InboundMessage) (now : TimePoint) :
    (s.handleMessage cfg inbound now).registry =
      (s.messageRegistryInputs cfg inbound).foldl DeviceRegistry.next s.registry := by
  rw [handleMessage, messageRegistryInputs]
  cases parseDeviceTopic cfg.topicNamespace inbound.topic with
  | error message => rfl
  | ok topic =>
      obtain ⟨deviceId, kind⟩ := topic
      cases kind with
      | registration =>
          dsimp only
          cases parseRegistration (cfg.parseJson inbound.payload) deviceId with
          | error message => rfl
          | ok registration =>
              simp only [handleRegistration]
              cases s.registry.find deviceId with
              | none =>
                  simp only [awaitProvision, Option.isSome_none, Bool.false_eq_true, if_false,
                    List.foldl_nil]
                  split
                  · rfl
                  · split
                    · rfl
                    · rfl
              | some record =>
                  exact applyReport_registry (fun _ => applyRegistration_error) now
      | telemetry =>
          dsimp only
          cases parseTelemetry (cfg.parseJson inbound.payload) deviceId with
          | error message => rfl
          | ok telemetry => exact applyReport_registry (fun _ => applyTelemetry_error) now

/-- **The service does nothing else to its directory.** -/
theorem registry_next (input : DeviceInput) :
    (input.apply cfg s).registry =
      (input.registryInputs cfg s).foldl DeviceRegistry.next s.registry := by
  cases input with
  | result answer writes now =>
      simp only [DeviceInput.apply, handleResult, DeviceInput.registryInputs]
      cases hkind : answer.kind with
      | unavailable =>
          simp only [handleUnavailable_registry, resultRegistryInputs, hkind, List.foldl_nil]
      | permanentFailure =>
          simp only [handlePermanentFailure_registry, resultRegistryInputs, hkind, List.foldl_nil]
      | recovered => simp only [handleRecovered, resultRegistryInputs, hkind, List.foldl_nil]
      | provisioned =>
          dsimp only
          cases hrecord : answer.provisioned with
          | none => simp only [resultRegistryInputs, hkind, hrecord, List.foldl_nil]
          | some record => exact handleProvisioned_registry hkind hrecord now
      | writeCompleted =>
          simp only [handleWriteCompleted_registry, resultRegistryInputs, hkind, List.foldl_nil]
  | resultsDone => exact consumeCancel_registry
  | message inbound now => exact handleMessage_registry inbound now
  | provision outcome =>
      simp only [DeviceInput.apply]
      split
      · exact submitProvision_registry _ _
      · rfl
  | scan now systemNow mutations markedAt =>
      simp only [DeviceInput.apply, DeviceInput.registryInputs, scan]
      split
      · rw [foldl_mark_registry]
        rfl
      · rfl
  | dispatch writes =>
      simp only [DeviceInput.apply, beginDispatch]
      split
      · rfl
      split
      · split
        · rfl
        · rfl
      · rfl
  | write outcome now =>
      simp only [DeviceInput.apply]
      split
      · exact submitWrite_registry _ _ _
      · exact submitWrite_registry _ _ _
      · rfl
  | endBatch now writes =>
      simp only [DeviceInput.apply]
      split
      · next batch accepted _ => cases batch <;> rfl
      · rfl
  | finish => exact finishReady_registry
  | requestSnapshot =>
      simp only [DeviceInput.apply, requestExternalSnapshot]
      split
      · rfl
      · rfl
  | _ => rfl

/-- **The directory of a service is one that its operations reach.** -/
lemma registry_of_reachable (h : (deviceService cfg).Reachable s) :
    registryMachine.Reachable s.registry := by
  refine h.invariant (P := fun s => registryMachine.Reachable s.registry) (fun s h0 => ?_)
    fun s input _ hs henabled => ?_
  · obtain ⟨records, systemNow, now, rfl⟩ := h0
    have hloaded : registryMachine.Reachable (DeviceRegistry.empty.load records).2 :=
      Machine.Reachable.step (m := registryMachine) (i := .load records) (.start rfl) trivial
    exact .step (m := registryMachine) (i := .expireInactive systemNow cfg.offlineTimeout)
      hloaded trivial
  · have hnext := hs.foldl (fun _ _ => trivial) (input.registryInputs cfg s)
    rw [show registryMachine.next = DeviceRegistry.next from rfl, ← registry_next] at hnext
    exact hnext

/-! ### The pending registrations -/

/-- A pending registration stands under the device it is for. -/
def PendingKeyed (pending : Map String PendingRegistration) : Prop :=
  ∀ deviceId candidate, pending.lookup deviceId = some candidate →
    candidate.registration.deviceId = deviceId

lemma next_pendingKeyed {v : DeviceWork} (h : PendingKeyed v.pending) {input : DeviceWorkInput}
    (hinput : input.Keyed) : PendingKeyed (v.next input).pending := by
  have herase : ∀ deviceId, PendingKeyed (v.pending.erase deviceId) :=
    fun deviceId other candidate hother => h other candidate (Map.lookup_erase_some.mp hother).2
  have hempty : PendingKeyed ∅ := fun deviceId candidate hnone => by cases hnone
  cases input with
  | lost => exact hempty
  | failed deviceId =>
      simp only [DeviceWork.next]
      split
      · exact hempty
      · exact herase deviceId
  | provisioned deviceId added =>
      simp only [DeviceWork.next]
      split
      · exact herase deviceId
      · exact h
  | completed deviceId revision =>
      simp only [DeviceWork.next]
      split
      · exact h
      · split
        · exact h
        · exact h
  | cancelled =>
      intro deviceId candidate hcandidate
      rw [show (v.next .cancelled).pending = v.pending.mapValues _ from rfl,
        Map.lookup_mapValues, Option.map_eq_some_iff] at hcandidate
      obtain ⟨before, hbefore, rfl⟩ := hcandidate
      exact h deviceId before hbefore
  | awaits deviceId registration receivedAt =>
      simp only [DeviceWork.next]
      split
      · exact h
      · intro other candidate hother
        rcases Map.lookup_insert_some.mp hother with ⟨rfl, rfl⟩ | ⟨-, hother⟩
        · exact hinput
        · exact h other candidate hother
  | submitProvision deviceId outcome =>
      simp only [DeviceWork.next]
      split
      · exact h
      · next candidate hcandidate =>
          split
          · intro other found hother
            rcases Map.lookup_insert_some.mp hother with ⟨rfl, rfl⟩ | ⟨-, hother⟩
            · exact h _ candidate hcandidate
            · exact h other found hother
          · exact h
  | submitWrite write outcome =>
      simp only [DeviceWork.next]
      split
      · exact h
      · exact h
  | _ => exact h

lemma pendingKeyed_of_reachable (h : (deviceService cfg).Reachable s) : PendingKeyed s.pending := by
  refine h.invariant (P := fun s => PendingKeyed s.pending) (fun s h0 => ?_)
    fun s input _ hs henabled => ?_
  · obtain ⟨records, systemNow, now, rfl⟩ := h0
    intro deviceId candidate hnone
    cases hnone
  · have hnext := @next_pendingKeyed s.work hs _ (@workInput_keyed cfg s input)
    rw [← work_next] at hnext
    exact hnext

end

end CnsServer
