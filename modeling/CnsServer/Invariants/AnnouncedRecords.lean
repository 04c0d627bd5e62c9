/-
The records that are announced.

* `DeviceEvent.states`: what an event announces;
* `Announces`: a step announces nothing but records that the directory has after it; one
  lemma for each kind of step, `next_announces` for all of them;
* `announced_of_reachable`: **in every run** what is announced can be stored and shown.
-/
import CnsServer.Properties.DirectorySync
import CnsServer.Invariants.PresentableDevices

namespace CnsServer

open DeviceService

/-- The states that an event announces. -/
def DeviceEvent.states : DeviceEvent → List PublishedState
  | .published state => [state]
  | .snapshot states => states
  | _ => []

/-- What is announced is in the directory afterwards. -/
def Announces (s s' : DeviceService) : Prop :=
  ∃ new, s'.events = s.events ++ new ∧ ∀ event ∈ new, ∀ state ∈ event.states,
    s'.registry.find state.record.deviceId = some state.record

section

variable {cfg : DeviceServiceConfig} {s s' s'' : DeviceService}

/-! ### Parts of a step -/

lemma Unannounced.announces (h : Unannounced s s') : Announces s s' := by
  obtain ⟨new, hevents, hnew⟩ := h.events
  refine ⟨new, hevents, fun event hevent state hstate => ?_⟩
  have hquiet := hnew event hevent
  cases event with
  | published state => cases hquiet
  | snapshot states => cases hquiet
  | _ => cases hstate

/-- The directory may change before something is announced. -/
lemma Announces.of_events (h : Announces s' s'') (hevents : s'.events = s.events) :
    Announces s s'' := by
  obtain ⟨new, hnew, hfound⟩ := h
  exact ⟨new, by rw [hnew, hevents], hfound⟩

lemma Announces.trans (h : Announces s s') (h' : Announces s' s'')
    (hregistry : s''.registry = s'.registry) : Announces s s'' := by
  obtain ⟨new, hnew, hfound⟩ := h
  obtain ⟨new', hnew', hfound'⟩ := h'
  refine ⟨new ++ new', by rw [hnew', hnew, List.append_assoc], fun event hevent => ?_⟩
  rcases List.mem_append.mp hevent with hmem | hmem
  · rw [hregistry]
    exact hfound event hmem
  · exact hfound' event hmem

lemma Announces.unannounced (h : Announces s s') (h' : Unannounced s' s'') : Announces s s'' :=
  h.trans h'.announces h'.registry

lemma Unannounced.before (h : Unannounced s s') (h' : Announces s' s'')
    (hregistry : s''.registry = s'.registry) : Announces s s'' :=
  h.announces.trans h' hregistry

/-! ### Publications -/

lemma publish_announces {state : PublishedState}
    (hfind : s.registry.find state.record.deviceId = some state.record) :
    Announces s (s.publish state) := by
  refine ⟨[.published state], rfl, fun event hevent other hother => ?_⟩
  rw [List.mem_singleton.mp hevent] at hother
  rw [List.mem_singleton.mp hother]
  exact hfind

lemma mark_announces {mutation : Mutation}
    (hfind : s.registry.find mutation.record.deviceId = some mutation.record) (now : TimePoint) :
    Announces s (s.mark mutation now) := by
  rw [mark]
  exact (publish_announces hfind).of_events rfl

lemma applyReport_announces {report : Except String Mutation × DeviceRegistry}
    (hreport : ∀ mutation registry, report = (.ok mutation, registry) →
      Changed s.registry registry mutation.record) (now : TimePoint) :
    Announces s (s.applyReport report now) := by
  simp only [applyReport]
  split
  · next mutation registry =>
      exact (mark_announces (hreport mutation registry rfl).found now).of_events rfl
  · exact (Unannounced.of_events rfl rfl).announces

lemma degrade_announces (hkeys : RolesIndexed s.registry) (deviceId : String)
    (revision : DeviceRecord → ℕ) : Announces s (s.degrade deviceId revision) := by
  rw [degrade]
  split
  · exact (Unannounced.of_events rfl rfl).announces
  · next record hrecord =>
      have hid := hkeys.ids deviceId record hrecord
      exact (publish_announces (hid.symm ▸ hrecord)).of_events rfl

lemma foldl_mark_announces (markedAt : Mutation → TimePoint) (mutations : List Mutation)
    (hfind : ∀ mutation ∈ mutations,
      s.registry.find mutation.record.deviceId = some mutation.record) :
    Announces s (mutations.foldl (fun s mutation => s.mark mutation (markedAt mutation)) s) ∧
      (mutations.foldl (fun s mutation => s.mark mutation (markedAt mutation)) s).registry =
        s.registry := by
  induction mutations generalizing s with
  | nil => exact ⟨(Unannounced.of_events rfl rfl).announces, rfl⟩
  | cons mutation mutations ih =>
      have hfirst := mark_announces (hfind mutation List.mem_cons_self) (markedAt mutation)
      obtain ⟨hrest, hregistry⟩ := @ih (s.mark mutation (markedAt mutation))
        fun other hother => hfind other (List.mem_cons_of_mem _ hother)
      exact ⟨hfirst.trans hrest hregistry, hregistry⟩

/-! ### Database results -/

lemma handleUnavailable_announces (hkeys : RolesIndexed s.registry) (answer : DatabaseResult) :
    Announces s (s.handleUnavailable answer) := by
  have hdegraded := (degrade_announces (s := { s with databaseUnavailable := true }) hkeys
    answer.deviceId fun record => max record.revision answer.revision).of_events
      (show _ = s.events from rfl)
  refine Announces.unannounced ?_ (note_unannounced rfl)
  split
  · refine Announces.unannounced ?_ (adjust_unannounced _)
    exact hdegraded.unannounced (.of_events rfl rfl)
  · exact hdegraded.unannounced (.of_events rfl rfl)

lemma handlePermanentFailure_announces (hkeys : RolesIndexed s.registry)
    (answer : DatabaseResult) : Announces s (s.handlePermanentFailure answer) := by
  have hdropped : Unannounced s (if answer.deviceId.isEmpty then
      (s.dropPending answer.deviceId).dropAll
      else (s.dropPending answer.deviceId).dropSubmitted answer.deviceId) := by
    split
    · exact (dropPending_unannounced _).trans dropAll_unannounced
    · exact (dropPending_unannounced _).trans (dropSubmitted_unannounced _)
  have hdegraded := degrade_announces (hdropped.registry ▸ hkeys) answer.deviceId
    fun record => max record.revision answer.revision
  refine (hdropped.before hdegraded ?_).unannounced (note_unannounced rfl)
  rw [degrade]
  split
  · rfl
  · rfl

lemma handleWriteCompleted_announces (hkeys : RolesIndexed s.registry)
    (answer : DatabaseResult) : Announces s (s.handleWriteCompleted answer) := by
  have hcompleted : Unannounced s (s.completeSubmitted answer.deviceId answer.revision) := by
    rw [completeSubmitted]
    split
    · exact .of_events rfl rfl
    · next write _ =>
      split
      · refine (reportStatus_unannounced answer.deviceId answer.revision write).trans ?_
        refine Unannounced.trans ?_ (adjust_unannounced _)
        exact .of_events rfl rfl
      · exact .of_events rfl rfl
  rw [handleWriteCompleted, recoverDevice]
  split
  · exact hcompleted.announces
  split
  · dsimp only
    split
    · next record hrecord =>
        have hid := hkeys.ids answer.deviceId record (by rw [← hcompleted.registry]; exact hrecord)
        refine hcompleted.before (Announces.of_events (publish_announces ?_) rfl) rfl
        exact hid.symm ▸ hrecord
    · exact (hcompleted.trans (.of_events rfl rfl)).announces
  · exact hcompleted.announces

lemma applyPending_announces (candidate : PendingRegistration) (now : TimePoint) :
    Announces s (s.applyPending candidate now) := by
  rw [applyPending]
  split
  · next mutation registry happlied =>
      exact (mark_announces (applyRegistration_changed happlied).found now).of_events rfl
  · exact (Unannounced.of_events rfl rfl).announces

lemma handleProvisioned_announces (deviceId : String) (record : DeviceRecord) (now : TimePoint) :
    Announces s (s.handleProvisioned deviceId record now) := by
  rw [handleProvisioned]
  split
  · exact (Unannounced.of_events rfl rfl).announces
  next candidate _ =>
  split
  · split
    · exact (adjust_unannounced _).announces
    · exact (Unannounced.of_events rfl rfl).announces
  · next registry _ =>
      have happlied : Announces s (({ s with
          registry := registry
          pending := s.pending.erase deviceId } : DeviceService).applyPending candidate now) :=
        (applyPending_announces candidate now).of_events rfl
      dsimp only
      split
      · exact happlied.unannounced (adjust_unannounced _)
      · exact happlied

/-! ### The other steps -/

lemma handleMessage_announces (inbound : InboundMessage) (now : TimePoint) :
    Announces s (s.handleMessage cfg inbound now) := by
  have hsame : Announces s s := (Unannounced.of_events rfl rfl).announces
  rw [DeviceService.handleMessage]
  split
  · exact hsame
  · split
    · exact hsame
    · rw [handleRegistration]
      split
      · rw [awaitProvision]
        split
        · exact hsame
        · split
          · exact (Unannounced.of_events rfl rfl).announces
          · exact (Unannounced.of_events rfl rfl).announces
      · exact applyReport_announces
          (fun mutation registry hreport => applyRegistration_changed hreport) now
  · split
    · exact hsame
    · exact applyReport_announces
        (fun mutation registry hreport => applyTelemetry_changed hreport) now

lemma submitWrite_announces (hkeys : RolesIndexed s.registry) (write : DesiredDeviceWrite)
    (outcome : SubmitOutcome) (now : TimePoint) :
    Announces s (s.submitWrite write outcome now) := by
  rw [submitWrite]
  split
  · dsimp only
    split
    · exact (Unannounced.of_events rfl rfl).announces
    · refine Unannounced.announces (Unannounced.trans (adjust_unannounced 1) ?_)
      exact .of_events rfl rfl
  · have hdegraded := (degrade_announces (s := { s with dirty := s.dirty.restore write now }) hkeys
      write.record.deviceId DeviceRecord.revision).of_events (show _ = s.events from rfl)
    exact hdegraded.unannounced (note_unannounced rfl)

lemma scan_announces (hkeys : RolesIndexed s.registry) {now systemNow : TimePoint}
    {mutations : List Mutation} (hmutations : mutations.Perm (s.scanMutations cfg now systemNow))
    (markedAt : String → TimePoint) :
    Announces s (s.scan cfg now systemNow mutations markedAt) := by
  rw [scan]
  dsimp only
  split
  · next hdue =>
      refine (foldl_mark_announces _ mutations fun mutation hmutation => ?_).1.of_events rfl
      refine expireInactive_changed hkeys ?_
      rw [hmutations.mem_iff, scanMutations, if_pos hdue] at hmutation
      exact hmutation
  · exact (Unannounced.of_events rfl rfl).announces

lemma snapshot_announces (hkeys : RolesIndexed s.registry) :
    Announces s s.publishCurrentSnapshot := by
  refine ⟨[_], rfl, fun event hevent state hstate => ?_⟩
  rw [List.mem_singleton.mp hevent] at hstate
  obtain ⟨record, hrecord, rfl⟩ := List.mem_map.mp hstate
  rw [listDevices, List.mem_mergeSort, Map.mem_values] at hrecord
  obtain ⟨deviceId, hfound⟩ := hrecord
  rw [hkeys.ids deviceId record hfound]
  exact hfound

/-- **A step announces nothing but what the directory has afterwards.** -/
lemma next_announces (hreach : (deviceService cfg).Reachable s) {input : DeviceInput}
    (henabled : input.Enabled cfg s) : Announces s (input.apply cfg s) := by
  have hkeys := reachable_rolesIndexed (registry_of_reachable hreach)
  cases input with
  | result answer writes now =>
      simp only [DeviceInput.apply, handleResult]
      cases answer.kind with
      | unavailable => exact handleUnavailable_announces hkeys answer
      | permanentFailure => exact handlePermanentFailure_announces hkeys answer
      | recovered => exact (Unannounced.of_events rfl rfl).announces
      | provisioned =>
          dsimp only
          split
          · exact handleProvisioned_announces _ _ now
          · exact (Unannounced.of_events rfl rfl).announces
      | writeCompleted => exact handleWriteCompleted_announces hkeys answer
  | resultsDone =>
      simp only [DeviceInput.apply, consumeCancel]
      split
      · exact (Unannounced.of_events rfl rfl).announces
      · exact (Unannounced.of_events rfl rfl).announces
  | message inbound now => exact handleMessage_announces inbound now
  | provision outcome =>
      obtain ⟨deviceId, deviceIds, hphase⟩ := henabled
      simp only [DeviceInput.apply, hphase]
      exact ((submitProvision_unannounced deviceId outcome).trans (.of_events rfl rfl)).announces
  | scan now systemNow mutations markedAt => exact scan_announces hkeys henabled.2 markedAt
  | dispatch writes =>
      simp only [DeviceInput.apply, beginDispatch]
      split
      · exact (Unannounced.of_events rfl rfl).announces
      split
      · split
        · exact (Unannounced.of_events rfl rfl).announces
        · exact (Unannounced.of_events rfl rfl).announces
      · exact (Unannounced.of_events rfl rfl).announces
  | write outcome now =>
      obtain ⟨desired, writes, hphase | ⟨batch, accepted, hphase⟩⟩ := henabled
      · simp only [DeviceInput.apply, hphase]
        exact (submitWrite_announces hkeys desired outcome now).unannounced (.of_events rfl rfl)
      · simp only [DeviceInput.apply, hphase]
        exact (submitWrite_announces hkeys desired outcome now).unannounced (.of_events rfl rfl)
  | endBatch now writes =>
      obtain ⟨batch, accepted, hphase, -⟩ := henabled
      simp only [DeviceInput.apply, hphase, endBatch]
      cases batch with
      | immediate => exact (Unannounced.of_events rfl rfl).announces
      | telemetry => exact (Unannounced.of_events rfl rfl).announces
      | all => exact (Unannounced.of_events rfl rfl).announces
  | finish =>
      simp only [DeviceInput.apply, finishReady]
      split
      · have hsnapshot := @snapshot_announces { s with snapshotRequested := false } hkeys
        exact (hsnapshot.unannounced (.of_events rfl rfl)).of_events rfl
      · exact (Unannounced.of_events rfl rfl).announces
  | requestSnapshot =>
      simp only [DeviceInput.apply, requestExternalSnapshot]
      split
      · exact (Unannounced.of_events rfl rfl).announces
      · exact (Unannounced.of_events rfl rfl).announces
  | _ => exact (Unannounced.of_events rfl rfl).announces

end

/-- **In every run** each record that is announced can be stored and shown, over any number of
starts. -/
theorem announced_of_reachable {wcfg : WorkerConfig} {cfg : DeviceServiceConfig}
    {s : DeviceSystem} (h : (deviceSystem wcfg cfg).Reachable s) :
    ∀ event ∈ s.runtime.service.events, ∀ state ∈ event.states,
      state.record.Presentable ∧ state.record.Storable := by
  induction h with
  | start h0 =>
      obtain ⟨systemNow, now, rfl⟩ := h0
      intro event hevent
      cases hevent
  | @step s input hreach henabled ih =>
      have hafter := hreach.step henabled
      have hpresentable := presentable_of_reachable hafter
      have hstored := stored_of_reachable hafter
      cases input with
      | restart systemNow now =>
          obtain ⟨records, hrecords, -⟩ := henabled
          simp only [deviceSystem, SystemInput.apply, hrecords]
          intro event hevent
          cases hevent
      | runtime input committed =>
          cases input with
          | worker input => exact ih
          | deliver => exact ih
          | service input =>
              obtain ⟨new, hnew, hfound⟩ :=
                next_announces (service_of_reachable hreach) henabled.1.1
              intro event hevent state hstate
              have hevents : event ∈ s.runtime.service.events ++ new := hnew ▸ hevent
              rcases List.mem_append.mp hevents with hold | hmem
              · exact ih event hold state hstate
              · have hrecord := hfound event hmem state hstate
                exact ⟨hpresentable.records _ _ hrecord, (hstored.records _ _ hrecord).1⟩

end CnsServer
