/-
The device directory that is announced to the outside follows the registry.

* `DeviceService.directory`: the directory the sinks have built from the events;
* `Synced`: it agrees with the registry, apart from devices that are still to be
  published; one lemma for a change of the registry, one for a publication;
* `SameTypeProvisioned`: the device that has been provisioned has the type of its
  latest pending registration;
* `directory_synced`: **the directory is the projection of the registry** once there
  was a full snapshot, in every run in which it has;
* `directory_unsynced`: a registration of another type that arrives while the device
  is being provisioned leaves a device that is never announced.
-/
import CnsServer.Device.Directory
import CnsServer.Invariants.DeviceKeys
import CnsServer.Invariants.RegistryChanges
import CnsServer.Runtime.DeviceScenario

namespace CnsServer

open DeviceService

/-- What the sinks do with an event (`Publish`, `PublishFullSnapshot`). -/
def DeviceDirectory.receive (directory : DeviceDirectory) : DeviceEvent → DeviceDirectory
  | .published state => (directory.update (directoryEntryFor state.record)).2
  | .snapshot states =>
      (directory.replace (states.map fun state => directoryEntryFor state.record)).2
  | _ => directory

/-- The directory the sinks have built. -/
def DeviceService.directory (s : DeviceService) : DeviceDirectory :=
  s.events.foldl DeviceDirectory.receive {}

/-- There was a full snapshot. -/
def DeviceService.Snapshotted (s : DeviceService) : Prop :=
  ∃ states, DeviceEvent.snapshot states ∈ s.events

/-- The directory agrees with the registry, apart from the stale devices: every entry
is the one of a record, and every record has one after a full snapshot. -/
structure Synced (stale : Set String) (s : DeviceService) : Prop where
  sound : ∀ deviceId ∉ stale, ∀ found, s.directory.entries.lookup deviceId = some found →
    ∃ record, s.registry.find deviceId = some record ∧
      found.equal (directoryEntryFor record) = true
  complete : s.Snapshotted → ∀ deviceId ∉ stale, (s.registry.find deviceId).isSome = true →
    (s.directory.entries.lookup deviceId).isSome = true

section

variable {cfg : DeviceServiceConfig} {s s' s'' : DeviceService} {stale : Set String}

/-! ### Steps that announce nothing -/

/-- The event changes the directory. -/
def DeviceEvent.announces : DeviceEvent → Bool
  | .published _ => true
  | .snapshot _ => true
  | _ => false

/-- The registry and the directory are as before. -/
structure Unannounced (s s' : DeviceService) : Prop where
  registry : s'.registry = s.registry
  events : ∃ new, s'.events = s.events ++ new ∧ ∀ event ∈ new, event.announces = false

lemma Unannounced.of_events (hregistry : s'.registry = s.registry)
    (hevents : s'.events = s.events) : Unannounced s s' :=
  ⟨hregistry, [], by rw [hevents, List.append_nil], fun _ h => by cases h⟩

lemma Unannounced.trans (h : Unannounced s s') (h' : Unannounced s' s'') : Unannounced s s'' := by
  obtain ⟨new, hevents, hnew⟩ := h.events
  obtain ⟨new', hevents', hnew'⟩ := h'.events
  refine ⟨h'.registry.trans h.registry, new ++ new', ?_, fun event hmem => ?_⟩
  · rw [hevents', hevents, List.append_assoc]
  · rcases List.mem_append.mp hmem with hmem | hmem
    · exact hnew event hmem
    · exact hnew' event hmem

lemma note_unannounced {event : DeviceEvent} (h : event.announces = false) :
    Unannounced s (s.note event) :=
  ⟨rfl, [event], rfl, fun other hother => by rw [List.mem_singleton.mp hother, h]⟩

lemma adjust_unannounced (delta : ℤ) : Unannounced s (s.adjustOutstandingDatabaseWork delta) :=
  ⟨rfl, [.adjusted s.outstanding delta], rfl, fun other hother => by
    rw [List.mem_singleton.mp hother]
    rfl⟩

lemma Unannounced.directory (h : Unannounced s s') : s'.directory = s.directory := by
  obtain ⟨new, hevents, hnew⟩ := h.events
  have hkept : ∀ (new : List DeviceEvent) (directory : DeviceDirectory),
      (∀ event ∈ new, event.announces = false) →
        new.foldl DeviceDirectory.receive directory = directory := by
    intro new
    induction new with
    | nil => exact fun _ _ => rfl
    | cons event new ih =>
        intro directory hquiet
        have hevent := hquiet event List.mem_cons_self
        have hreceive : directory.receive event = directory := by
          cases event with
          | published state => cases hevent
          | snapshot states => cases hevent
          | _ => rfl
        rw [List.foldl_cons, hreceive]
        exact ih directory fun other hother => hquiet other (List.mem_cons_of_mem _ hother)
  rw [DeviceService.directory, hevents, List.foldl_append, hkept new _ hnew]
  rfl

lemma Unannounced.snapshotted (h : Unannounced s s') (hs : s'.Snapshotted) : s.Snapshotted := by
  obtain ⟨states, hmem⟩ := hs
  obtain ⟨new, hevents, hnew⟩ := h.events
  rw [hevents] at hmem
  rcases List.mem_append.mp hmem with hmem | hmem
  · exact ⟨states, hmem⟩
  · cases hnew _ hmem

lemma Synced.unannounced (h : Synced stale s) (hsame : Unannounced s s') : Synced stale s' := by
  refine ⟨?_, fun hs => ?_⟩
  · rw [hsame.directory, hsame.registry]
    exact h.sound
  · rw [hsame.directory, hsame.registry]
    exact h.complete (hsame.snapshotted hs)

/-! ### Changes and publications -/

/-- The registry changes at a device, which is stale from now on. -/
lemma Synced.change (h : Synced stale s) {deviceId : String} {registry : DeviceRegistry}
    (hfind : ∀ other, other ≠ deviceId → registry.find other = s.registry.find other) :
    Synced (insert deviceId stale) { s with registry := registry } := by
  refine ⟨fun other hother found hfound => ?_, fun hs other hother hrecord => ?_⟩
  · rw [Set.mem_insert_iff, not_or] at hother
    obtain ⟨record, hrecord, hequal⟩ := h.sound other hother.2 found hfound
    exact ⟨record, (hfind other hother.1).trans hrecord, hequal⟩
  · rw [Set.mem_insert_iff, not_or] at hother
    refine h.complete hs other hother.2 ?_
    rw [← hfind other hother.1]
    exact hrecord

lemma publish_directory (state : PublishedState) :
    (s.publish state).directory = s.directory.receive (.published state) := by
  rw [DeviceService.directory, publish, note, List.foldl_append]
  rfl

/-- A record of the registry is published, and its device is stale no longer. -/
lemma Synced.publish {state : PublishedState} (h : Synced (insert state.record.deviceId stale) s)
    (hfind : s.registry.find state.record.deviceId = some state.record) :
    Synced stale (s.publish state) := by
  obtain ⟨entry, hentry, hequal⟩ := s.directory.update_self (directoryEntryFor state.record)
  have hother : ∀ deviceId, deviceId ≠ state.record.deviceId →
      (s.publish state).directory.entries.lookup deviceId =
        s.directory.entries.lookup deviceId := by
    intro deviceId hne
    rw [publish_directory]
    exact s.directory.update_other (directoryEntryFor state.record) hne
  have hself : (s.publish state).directory.entries.lookup state.record.deviceId = some entry := by
    rw [publish_directory]
    exact hentry
  refine ⟨fun deviceId hstale found hfound => ?_, fun hs deviceId hstale hrecord => ?_⟩
  · by_cases hid : deviceId = state.record.deviceId
    · subst hid
      rw [hself] at hfound
      cases hfound
      exact ⟨state.record, hfind, hequal⟩
    · rw [hother deviceId hid] at hfound
      exact h.sound deviceId (by simp [hid, hstale]) found hfound
  · by_cases hid : deviceId = state.record.deviceId
    · subst hid
      rw [hself]
      rfl
    · rw [hother deviceId hid]
      obtain ⟨states, hmem⟩ := hs
      have hbefore : s.Snapshotted := by
        rcases List.mem_append.mp hmem with hmem | hmem
        · exact ⟨states, hmem⟩
        · cases List.mem_singleton.mp hmem
      exact h.complete hbefore deviceId (by simp [hid, hstale]) hrecord

/-- More devices may be stale. -/
lemma Synced.mono (h : Synced stale s) {stale' : Set String} (hsub : stale ⊆ stale') :
    Synced stale' s :=
  ⟨fun deviceId hstale => h.sound deviceId fun hmem => hstale (hsub hmem),
    fun hs deviceId hstale => h.complete hs deviceId fun hmem => hstale (hsub hmem)⟩

/-- A record is published again. -/
lemma Synced.republish {state : PublishedState} (h : Synced stale s)
    (hfind : s.registry.find state.record.deviceId = some state.record) :
    Synced stale (s.publish state) :=
  (h.mono (Set.subset_insert _ _)).publish hfind

/-! ### Reports -/

/-- A mutation of the registry is marked, and published. -/
lemma Synced.mark {mutation : Mutation}
    (h : Synced (insert mutation.record.deviceId stale) s)
    (hfind : s.registry.find mutation.record.deviceId = some mutation.record) (now : TimePoint) :
    Synced stale (s.mark mutation now) := by
  rw [DeviceService.mark]
  refine Synced.publish ?_ hfind
  exact h.unannounced (.of_events rfl rfl)

lemma Synced.applyReport (h : Synced stale s) {report : Except String Mutation × DeviceRegistry}
    (hreport : ∀ mutation registry, report = (.ok mutation, registry) →
      Changed s.registry registry mutation.record) (now : TimePoint) :
    Synced stale (s.applyReport report now) := by
  simp only [DeviceService.applyReport]
  split
  · next mutation registry =>
      have hchanged := hreport mutation registry rfl
      exact (h.change hchanged.others).mark hchanged.found now
  · exact h

lemma degrade_synced (h : Synced stale s) (hkeys : RolesIndexed s.registry) (deviceId : String)
    (revision : DeviceRecord → ℕ) : Synced stale (s.degrade deviceId revision) := by
  rw [degrade]
  split
  · exact h
  · next record hrecord =>
      refine Synced.republish (h.unannounced (.of_events rfl rfl)) ?_
      have hid := hkeys.ids deviceId record hrecord
      exact hid.symm ▸ hrecord

/-! ### Database results -/

lemma dropPending_unannounced (deviceId : String) :
    Unannounced s (s.dropPending deviceId) := by
  rw [dropPending]
  split
  · exact .of_events rfl rfl
  · dsimp only
    split
    · exact (adjust_unannounced _).trans (.of_events rfl rfl)
    · exact .of_events rfl rfl

lemma dropAll_unannounced : Unannounced s s.dropAll := by
  unfold dropAll
  dsimp only
  split
  · refine Unannounced.trans ?_ (adjust_unannounced _)
    exact .of_events rfl rfl
  · exact .of_events rfl rfl

lemma dropSubmitted_unannounced (deviceId : String) :
    Unannounced s (s.dropSubmitted deviceId) := by
  unfold dropSubmitted
  dsimp only
  split
  · have herased : Unannounced s { s with submitted := s.submitted.erase deviceId } :=
      .of_events rfl rfl
    exact (herased.trans (adjust_unannounced _)).trans (.of_events rfl rfl)
  · exact .of_events rfl rfl

lemma handleUnavailable_synced (h : Synced stale s) (hkeys : RolesIndexed s.registry)
    (answer : DatabaseResult) : Synced stale (s.handleUnavailable answer) := by
  have hflag : Synced stale { s with databaseUnavailable := true } :=
    h.unannounced (.of_events rfl rfl)
  have hdegraded := degrade_synced hflag hkeys answer.deviceId
    fun record => max record.revision answer.revision
  refine Synced.unannounced ?_ (note_unannounced rfl)
  split
  · refine Synced.unannounced ?_ (adjust_unannounced _)
    exact hdegraded.unannounced (.of_events rfl rfl)
  · exact hdegraded.unannounced (.of_events rfl rfl)

lemma handlePermanentFailure_synced (h : Synced stale s) (hkeys : RolesIndexed s.registry)
    (answer : DatabaseResult) : Synced stale (s.handlePermanentFailure answer) := by
  have hdropped : Unannounced s (if answer.deviceId.isEmpty then
      (s.dropPending answer.deviceId).dropAll
      else (s.dropPending answer.deviceId).dropSubmitted answer.deviceId) := by
    split
    · exact (dropPending_unannounced _).trans dropAll_unannounced
    · exact (dropPending_unannounced _).trans (dropSubmitted_unannounced _)
  refine (degrade_synced (h.unannounced hdropped) ?_ _ _).unannounced (note_unannounced rfl)
  rw [hdropped.registry]
  exact hkeys

lemma reportStatus_unannounced (deviceId : String) (revision : ℕ) (write : DesiredDeviceWrite) :
    Unannounced s (s.reportStatus deviceId revision write) := by
  rw [reportStatus]
  split
  · exact .of_events rfl rfl
  · split
    · exact Unannounced.trans (note_unannounced rfl) (.of_events rfl rfl)
    · exact .of_events rfl rfl

lemma handleWriteCompleted_synced (h : Synced stale s) (hkeys : RolesIndexed s.registry)
    (answer : DatabaseResult) : Synced stale (s.handleWriteCompleted answer) := by
  have hcompleted : Unannounced s (s.completeSubmitted answer.deviceId answer.revision) := by
    rw [completeSubmitted]
    split
    · exact .of_events rfl rfl
    · next write _ =>
      split
      · refine (reportStatus_unannounced answer.deviceId answer.revision write).trans ?_
        refine Unannounced.trans ?_ (adjust_unannounced _)
        exact .of_events rfl rfl
      · exact .of_events rfl rfl
  have hbefore := h.unannounced hcompleted
  rw [handleWriteCompleted, recoverDevice]
  split
  · exact hbefore
  split
  · dsimp only
    split
    · next record hrecord =>
        refine Synced.republish (hbefore.unannounced (.of_events rfl rfl)) ?_
        have hid := hkeys.ids answer.deviceId record (by rw [← hcompleted.registry]; exact hrecord)
        exact hid.symm ▸ hrecord
    · exact hbefore.unannounced (.of_events rfl rfl)
  · exact hbefore

/-- The device that has been provisioned is of the type its latest registration
names, and it is the device of the result. -/
def SameTypeProvisioned (s : DeviceService) (input : DeviceInput) : Prop :=
  ∀ answer ∈ input.answer?, answer.kind = .provisioned → ∀ record ∈ answer.provisioned,
    record.deviceId = answer.deviceId ∧
      ∀ candidate ∈ s.pending.lookup answer.deviceId,
        candidate.registration.deviceType = record.deviceType

instance (s : DeviceService) (input : DeviceInput) : Decidable (SameTypeProvisioned s input) :=
  inferInstanceAs (Decidable (∀ answer ∈ input.answer?, answer.kind = .provisioned →
    ∀ record ∈ answer.provisioned, record.deviceId = answer.deviceId ∧
      ∀ candidate ∈ s.pending.lookup answer.deviceId,
        candidate.registration.deviceType = record.deviceType))

/-- The new device is published with its latest registration. -/
lemma handleProvisioned_synced (h : Synced stale s) (hpending : PendingKeyed s.pending)
    {deviceId : String} {record : DeviceRecord} (hid : record.deviceId = deviceId)
    (htype : ∀ candidate ∈ s.pending.lookup deviceId,
      candidate.registration.deviceType = record.deviceType) (now : TimePoint) :
    Synced stale (s.handleProvisioned deviceId record now) := by
  rw [handleProvisioned]
  split
  · exact h
  next candidate hcandidate =>
  split
  · split
    · exact h.unannounced (adjust_unannounced _)
    · exact h
  · next registry hadded =>
      have hchanged := addProvisioned_changed hadded
      have hkey := hpending deviceId candidate hcandidate
      obtain ⟨mutation, registered, happlied, hsame⟩ := applyRegistration_isOk
        (by rw [hkey, ← hid]; exact hchanged.found) (htype candidate hcandidate)
        candidate.receivedAt
      have hregistered := applyRegistration_changed happlied
      have hall : ∀ other, other ≠ mutation.record.deviceId →
          registered.find other = s.registry.find other := by
        intro other hne
        rw [hregistered.others other hne, hchanged.others other (hsame ▸ hne)]
      have hmarked : Synced stale (({ s with
          registry := registry
          pending := s.pending.erase deviceId } : DeviceService).applyPending candidate now) := by
        rw [applyPending]
        dsimp only
        rw [happlied]
        have hstale : Synced (insert mutation.record.deviceId stale) { s with
            registry := registered
            pending := s.pending.erase deviceId } :=
          (h.change hall).unannounced (.of_events rfl rfl)
        exact hstale.mark hregistered.found now
      dsimp only
      split
      · exact hmarked.unannounced (adjust_unannounced _)
      · exact hmarked

/-! ### The other steps -/

lemma handleMessage_synced (h : Synced stale s) (inbound : InboundMessage) (now : TimePoint) :
    Synced stale (s.handleMessage cfg inbound now) := by
  rw [handleMessage]
  split
  · exact h
  · split
    · exact h
    · rw [handleRegistration]
      split
      · rw [awaitProvision]
        split
        · exact h
        · split
          · exact h.unannounced (.of_events rfl rfl)
          · exact h.unannounced (.of_events rfl rfl)
      · exact h.applyReport (fun mutation registry hreport => applyRegistration_changed hreport) now
  · split
    · exact h
    · exact h.applyReport (fun mutation registry hreport => applyTelemetry_changed hreport) now

lemma submitProvision_unannounced (deviceId : String) (outcome : SubmitOutcome) :
    Unannounced s (s.submitProvision deviceId outcome) := by
  rw [submitProvision]
  split
  · exact .of_events rfl rfl
  · split
    · refine Unannounced.trans ?_ (adjust_unannounced _)
      exact .of_events rfl rfl
    · exact note_unannounced rfl

lemma submitWrite_synced (h : Synced stale s) (hkeys : RolesIndexed s.registry)
    (write : DesiredDeviceWrite) (outcome : SubmitOutcome) (now : TimePoint) :
    Synced stale (s.submitWrite write outcome now) := by
  rw [submitWrite]
  split
  · dsimp only
    split
    · exact h.unannounced (.of_events rfl rfl)
    · have hadjusted := h.unannounced (adjust_unannounced 1)
      exact hadjusted.unannounced (.of_events rfl rfl)
  · have hrestored : Synced stale { s with dirty := s.dirty.restore write now } :=
      h.unannounced (.of_events rfl rfl)
    exact (degrade_synced hrestored hkeys write.record.deviceId DeviceRecord.revision).unannounced
      (note_unannounced rfl)

/-- The mutations of a scan are published one after the other. -/
lemma foldl_mark_synced (markedAt : Mutation → TimePoint) (mutations : List Mutation)
    (h : Synced {deviceId | ∃ mutation ∈ mutations, mutation.record.deviceId = deviceId} s)
    (hfind : ∀ mutation ∈ mutations,
      s.registry.find mutation.record.deviceId = some mutation.record) :
    Synced ∅ (mutations.foldl (fun s mutation => s.mark mutation (markedAt mutation)) s) := by
  induction mutations generalizing s with
  | nil =>
      refine h.mono fun deviceId hmem => ?_
      obtain ⟨mutation, hnil, -⟩ := hmem
      cases hnil
  | cons mutation mutations ih =>
      refine ih ?_ fun other hother => hfind other (List.mem_cons_of_mem _ hother)
      refine Synced.mark (h.mono fun deviceId hmem => ?_) (hfind mutation List.mem_cons_self) _
      obtain ⟨other, hother, rfl⟩ := hmem
      rcases List.mem_cons.mp hother with rfl | hother
      · exact Set.mem_insert _ _
      · exact Set.mem_insert_of_mem _ ⟨other, hother, rfl⟩

lemma scan_synced (h : Synced ∅ s) (hkeys : RolesIndexed s.registry) {now systemNow : TimePoint}
    {mutations : List Mutation} (hmutations : mutations.Perm (s.scanMutations cfg now systemNow))
    (markedAt : String → TimePoint) :
    Synced ∅ (s.scan cfg now systemNow mutations markedAt) := by
  rw [scan]
  dsimp only
  split
  · next hdue =>
      have hmem : ∀ mutation, mutation ∈ mutations ↔
          mutation ∈ (s.registry.expireInactive systemNow cfg.offlineTimeout).1 := by
        intro mutation
        rw [hmutations.mem_iff, scanMutations, if_pos hdue]
      refine foldl_mark_synced _ mutations ?_ fun mutation hmutation =>
        expireInactive_changed hkeys ((hmem mutation).mp hmutation)
      refine ⟨fun deviceId hstale found hfound => ?_, fun hs deviceId hstale hrecord => ?_⟩
      · have hsame := expireInactive_others hkeys fun mutation hmutation hid =>
          hstale ⟨mutation, (hmem mutation).mpr hmutation, hid⟩
        obtain ⟨record, hrecord, hequal⟩ := h.sound deviceId id found hfound
        exact ⟨record, hsame.trans hrecord, hequal⟩
      · have hsame := expireInactive_others hkeys fun mutation hmutation hid =>
          hstale ⟨mutation, (hmem mutation).mpr hmutation, hid⟩
        refine h.complete hs deviceId id ?_
        rw [← hsame]
        exact hrecord
  · exact h.unannounced (.of_events rfl rfl)

/-- A full snapshot has an entry for each record, and no other. -/
lemma snapshot_synced (hkeys : RolesIndexed s.registry) (stale : Set String) :
    Synced stale s.publishCurrentSnapshot := by
  have hrecords : ∀ record, record ∈ listDevices s.registry ↔
      s.registry.find record.deviceId = some record := by
    intro record
    rw [listDevices, List.mem_mergeSort, Map.mem_values]
    constructor
    · rintro ⟨deviceId, hrecord⟩
      rw [hkeys.ids deviceId record hrecord]
      exact hrecord
    · exact fun hrecord => ⟨record.deviceId, hrecord⟩
  have hrel := fun deviceId => s.directory.replace_rel
    ((listDevices s.registry).map directoryEntryFor) deviceId
  have hdirectory : s.publishCurrentSnapshot.directory =
      (s.directory.replace ((listDevices s.registry).map directoryEntryFor)).2 := by
    rw [DeviceService.directory, publishCurrentSnapshot, note, List.foldl_append]
    simp only [List.foldl_cons, List.foldl_nil, DeviceDirectory.receive, List.map_map]
    rfl
  refine ⟨fun deviceId _ found hfound => ?_, fun _ deviceId _ hrecord => ?_⟩
  · rw [hdirectory] at hfound
    have hdevice := hrel deviceId
    rw [hfound] at hdevice
    cases hentry : (DeviceDirectory.byDevice ((listDevices s.registry).map
        directoryEntryFor)).lookup deviceId with
    | none =>
        rw [hentry] at hdevice
        cases hdevice
    | some entry =>
        rw [hentry] at hdevice
        obtain ⟨hmem, hid⟩ := DeviceDirectory.byDevice_some hentry
        obtain ⟨record, hrecord, rfl⟩ := List.mem_map.mp hmem
        cases hdevice with
        | some hequal =>
            refine ⟨record, ?_, hequal⟩
            rw [← hid]
            exact (hrecords record).mp hrecord
  · obtain ⟨record, hfind⟩ := Option.isSome_iff_exists.mp hrecord
    have hid := hkeys.ids deviceId record hfind
    have hentry := DeviceDirectory.byDevice_isSome
      (List.mem_map_of_mem (f := directoryEntryFor) ((hrecords record).mpr (hid.symm ▸ hfind)))
    rw [hdirectory]
    have hdevice := hrel deviceId
    rw [show (directoryEntryFor record).deviceId = deviceId from hid] at hentry
    obtain ⟨entry, hsome⟩ := Option.isSome_iff_exists.mp hentry
    rw [hsome] at hdevice
    cases hfound : (s.directory.replace
        ((listDevices s.registry).map directoryEntryFor)).2.entries.lookup deviceId with
    | none =>
        rw [hfound] at hdevice
        cases hdevice
    | some found => rfl

lemma next_synced (h : Synced ∅ s) (hreach : (deviceService cfg).Reachable s)
    {input : DeviceInput} (henabled : input.Enabled cfg s) (hok : SameTypeProvisioned s input) :
    Synced ∅ (input.apply cfg s) := by
  have hkeys := reachable_rolesIndexed (registry_of_reachable hreach)
  cases input with
  | result answer writes now =>
      simp only [DeviceInput.apply, handleResult]
      cases hkind : answer.kind with
      | unavailable => exact handleUnavailable_synced h hkeys answer
      | permanentFailure => exact handlePermanentFailure_synced h hkeys answer
      | recovered => exact h.unannounced (.of_events rfl rfl)
      | provisioned =>
          dsimp only
          split
          · next record hrecord =>
              obtain ⟨hid, htype⟩ := hok answer rfl hkind record hrecord
              exact handleProvisioned_synced h (pendingKeyed_of_reachable hreach) hid htype now
          · exact h
      | writeCompleted => exact handleWriteCompleted_synced h hkeys answer
  | resultsDone =>
      simp only [DeviceInput.apply, consumeCancel]
      split
      · exact h.unannounced (.of_events rfl rfl)
      · exact h.unannounced (.of_events rfl rfl)
  | message inbound now => exact handleMessage_synced h inbound now
  | provision outcome =>
      obtain ⟨deviceId, deviceIds, hphase⟩ := henabled
      simp only [DeviceInput.apply, hphase]
      exact (h.unannounced (submitProvision_unannounced deviceId outcome)).unannounced
        (.of_events rfl rfl)
  | scan now systemNow mutations markedAt => exact scan_synced h hkeys henabled.2 markedAt
  | dispatch writes =>
      simp only [DeviceInput.apply, beginDispatch]
      split
      · exact h.unannounced (.of_events rfl rfl)
      split
      · split
        · exact h.unannounced (.of_events rfl rfl)
        · exact h.unannounced (.of_events rfl rfl)
      · exact h.unannounced (.of_events rfl rfl)
  | write outcome now =>
      obtain ⟨desired, writes, hphase | ⟨batch, accepted, hphase⟩⟩ := henabled
      · simp only [DeviceInput.apply, hphase]
        exact (submitWrite_synced h hkeys desired outcome now).unannounced (.of_events rfl rfl)
      · simp only [DeviceInput.apply, hphase]
        exact (submitWrite_synced h hkeys desired outcome now).unannounced (.of_events rfl rfl)
  | endBatch now writes =>
      obtain ⟨batch, accepted, hphase, -⟩ := henabled
      simp only [DeviceInput.apply, hphase, endBatch]
      cases batch with
      | immediate => exact h.unannounced (.of_events rfl rfl)
      | telemetry => exact h.unannounced (.of_events rfl rfl)
      | all => exact h.unannounced (.of_events rfl rfl)
  | finish =>
      simp only [DeviceInput.apply, finishReady]
      split
      · have hsnapshot := @snapshot_synced { s with snapshotRequested := false } hkeys ∅
        exact hsnapshot.unannounced (.of_events rfl rfl)
      · exact h.unannounced (.of_events rfl rfl)
  | requestSnapshot =>
      simp only [DeviceInput.apply, requestExternalSnapshot]
      split
      · exact h
      · exact h.unannounced (.of_events rfl rfl)
  | _ => exact h.unannounced (.of_events rfl rfl)

lemma reachable_synced (h : ((deviceService cfg).restrict SameTypeProvisioned).Reachable s) :
    Synced ∅ s := by
  refine Machine.Reachable.invariant (fun s h0 => ?_)
    (fun s input hreach hs henabled => next_synced hs hreach.of_restrict henabled.1 henabled.2) h
  obtain ⟨records, systemNow, now, rfl⟩ := h0
  refine ⟨fun deviceId _ found hfound => ?_, fun hs => ?_⟩
  · cases hfound
  · obtain ⟨states, hmem⟩ := hs
    cases hmem

/-- **The directory is the projection of the registry** after the first full snapshot,
in every run in which each device that has been provisioned has the type of its latest
pending registration. -/
theorem directory_synced (h : ((deviceService cfg).restrict SameTypeProvisioned).Reachable s)
    (hsnapshot : s.Snapshotted) (deviceId : String) :
    Option.Rel (fun found entry => found.equal entry = true)
      (s.directory.entries.lookup deviceId)
      ((s.registry.find deviceId).map directoryEntryFor) := by
  have hsynced := reachable_synced h
  cases hrecord : s.registry.find deviceId with
  | none =>
      cases hfound : s.directory.entries.lookup deviceId with
      | none => exact .none
      | some found =>
          obtain ⟨record, hsome, -⟩ := hsynced.sound deviceId id found hfound
          rw [hrecord] at hsome
          cases hsome
  | some record =>
      have hsome := hsynced.complete hsnapshot deviceId id (by rw [hrecord]; rfl)
      obtain ⟨found, hfound⟩ := Option.isSome_iff_exists.mp hsome
      obtain ⟨other, hother, hequal⟩ := hsynced.sound deviceId id found hfound
      rw [hrecord] at hother
      cases hother
      rw [hfound]
      exact .some hequal

end

/-- A turn in which one message arrives, without registrations to submit. -/
def quietTurn (inbound : InboundMessage) : List Cue :=
  [.go, .go, .receive inbound, .go, .go, .go, .go, .go, .go]

/-- A full snapshot is requested, and in the turn that publishes it device `a` registers
as a flight controller. -/
def snapshotCues : List Cue :=
  [.requestSnapshot, .go, .go, .receive (sampleRegistration "a" "a1"), .go, .go, .go, .go, .go,
    .go, .go]

/-- The database has made device `a` a flight controller. -/
def provisionedCue : Cue :=
  .answer
    { kind := .provisioned
      deviceId := "a"
      revision := 1
      provisioned := some (flightController "a" (some "1")) }

def announced : DeviceService :=
  perform sampleDeviceConfig sampleStart (snapshotCues ++ [.go, provisionedCue])

lemma snapshotted_of_any {s : DeviceService}
    (h : (s.events.any fun event =>
      match event with
      | .snapshot _ => true
      | _ => false) = true) : s.Snapshotted := by
  obtain ⟨event, hmem, hevent⟩ := List.any_eq_true.mp h
  cases event with
  | snapshot states => exact ⟨states, hmem⟩
  | _ => cases hevent

theorem directory_synced_announced :
    ∃ found, announced.directory.entries.lookup "a" = some found ∧ found.online = true := by
  have hmeets : Meets sampleDeviceConfig SameTypeProvisioned sampleStart
      (snapshotCues ++ [.go, provisionedCue]) := by decide +kernel
  have hsnapshot : announced.Snapshotted := snapshotted_of_any (by decide +kernel)
  have honline : (announced.registry.find "a").map DeviceRecord.status = some .online := by
    decide +kernel
  have hsynced := directory_synced (s := announced)
    (reachable_perform reachable_sampleStart hmeets) hsnapshot "a"
  obtain ⟨record, hrecord, hstatus⟩ := Option.map_eq_some_iff.mp honline
  rw [hrecord, Option.map_some] at hsynced
  cases hfound : announced.directory.entries.lookup "a" with
  | none =>
      rw [hfound] at hsynced
      cases hsynced
  | some found =>
      rw [hfound] at hsynced
      cases hsynced with
      | some hequal =>
          simp only [DirectoryEntry.equal, Bool.and_eq_true, decide_eq_true_eq] at hequal
          refine ⟨found, rfl, ?_⟩
          rw [hequal.1.1.1.1.2, directoryEntryFor, hstatus]
          rfl

/-- While device `a` is being provisioned as a flight controller, it registers as a CNS
box. -/
def unannouncedCues : List Cue :=
  snapshotCues ++ quietTurn (sampleRegistration "a" "box") ++
    [.go, provisionedCue, .go, .go, .go, .go, .go, .go, .go]

def unannounced : DeviceService := perform sampleDeviceConfig sampleStart unannouncedCues

/-- The device is in the registry, and has no entry in the directory. -/
theorem directory_unsynced :
    (deviceService sampleDeviceConfig).Reachable unannounced ∧ unannounced.Snapshotted ∧
      unannounced.processingReady = false ∧ (unannounced.registry.find "a").isSome = true ∧
      (unannounced.directory.entries.lookup "a").isSome = false := by
  have hmeets : Meets sampleDeviceConfig (fun _ _ => True) sampleStart unannouncedCues := by
    decide +kernel
  refine ⟨(reachable_perform reachable_sampleStart hmeets).of_restrict,
    snapshotted_of_any (by decide +kernel), ?_⟩
  decide +kernel

end CnsServer
