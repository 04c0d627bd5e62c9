/-
The writes that the device service has not submitted yet are about the records of the
registry as they are.

* `CurrentRecords`: every entry of the dirty state, and every write of the batch the
  thread is submitting, has the record the registry has of its device, with its revision;
* `mark_current`, `submitWrite_current` and so on: one lemma for each kind of step;
* `currentRecords_of_reachable`: **nothing outdated is submitted**, in any run.
-/
import CnsServer.Invariants.DeviceKeys
import CnsServer.Invariants.RegistryChanges
import CnsServer.Properties.OutstandingWork

namespace CnsServer

open DeviceService

/-- The writes the thread is about to submit. -/
def DevicePhase.writes : DevicePhase → List DesiredDeviceWrite
  | .replaying staged => staged
  | .dispatching _ staged _ => staged
  | _ => []

/-- The registry has this record, under this revision. -/
def DeviceRegistry.Holds (registry : DeviceRegistry) (record : DeviceRecord)
    (revision : ℕ) : Prop :=
  registry.find record.deviceId = some record ∧ revision = record.revision

/-- The entries stand under their devices, with the records of the registry. -/
def EntriesCurrent (registry : DeviceRegistry) (dirty : DirtyState) : Prop :=
  ∀ deviceId entry, dirty.entries.lookup deviceId = some entry →
    entry.record.deviceId = deviceId ∧ registry.Holds entry.record entry.revision

/-- The records of the writes that are not submitted yet are those of the registry. -/
structure CurrentRecords (s : DeviceService) : Prop where
  entries : EntriesCurrent s.registry s.dirty
  staged : ∀ write ∈ s.phase.writes, s.registry.Holds write.record write.revision

section

variable {cfg : DeviceServiceConfig} {s s' : DeviceService} {registry registry' : DeviceRegistry}
  {dirty : DirtyState}

/-! ### The operations of the dirty state -/

/-- The entry that receives a write that is not older has its record. -/
lemma receive_record {entry : Option DirtyEntry} {write : DesiredDeviceWrite}
    (h : ∀ current ∈ entry, current.revision ≤ write.revision) (now : TimePoint) :
    (DirtyEntry.receive entry write now).record = write.record ∧
      (DirtyEntry.receive entry write now).revision = write.revision := by
  cases entry with
  | none => exact ⟨rfl, rfl⟩
  | some current =>
      simp only [DirtyEntry.receive, if_pos (h current rfl), and_self]

/-- A write of the registry's record is received, by `Mark` or by `Restore`. -/
lemma EntriesCurrent.receive (h : EntriesCurrent registry dirty) {write : DesiredDeviceWrite}
    (hwrite : registry'.Holds write.record write.revision)
    (hothers : ∀ deviceId, deviceId ≠ write.record.deviceId →
      registry'.find deviceId = registry.find deviceId)
    (holder : ∀ record, registry.find write.record.deviceId = some record →
      record.revision ≤ write.revision) {now : TimePoint} {entry : DirtyEntry}
    (hrecord : entry.record =
      (DirtyEntry.receive (dirty.entries.lookup write.record.deviceId) write now).record)
    (hrevision : entry.revision =
      (DirtyEntry.receive (dirty.entries.lookup write.record.deviceId) write now).revision) :
    EntriesCurrent registry' ⟨dirty.entries.insert write.record.deviceId entry⟩ := by
  have hnewer : ∀ current ∈ dirty.entries.lookup write.record.deviceId,
      current.revision ≤ write.revision := by
    intro current hcurrent
    obtain ⟨hid, hfind, hsame⟩ := h _ current hcurrent
    rw [hsame]
    exact holder current.record (hid ▸ hfind)
  obtain ⟨hsame, hsame'⟩ := receive_record hnewer now
  rw [hsame] at hrecord
  rw [hsame'] at hrevision
  intro deviceId found hfound
  rcases Map.lookup_insert_some.mp hfound with ⟨rfl, rfl⟩ | ⟨hne, hbefore⟩
  · rw [hrecord, hrevision]
    exact ⟨rfl, hwrite⟩
  · obtain ⟨hid, hfind, hrest⟩ := h deviceId found hbefore
    refine ⟨hid, ?_, hrest⟩
    rw [hothers _ (hid ▸ hne)]
    exact hfind

/-- A mutation of the registry is marked. -/
lemma EntriesCurrent.mark (h : EntriesCurrent registry dirty) {write : DesiredDeviceWrite}
    (hwrite : registry'.Holds write.record write.revision)
    (hothers : ∀ deviceId, deviceId ≠ write.record.deviceId →
      registry'.find deviceId = registry.find deviceId)
    (holder : ∀ record, registry.find write.record.deviceId = some record →
      record.revision ≤ write.revision) (markedAt : TimePoint) :
    EntriesCurrent registry' (dirty.mark write markedAt) :=
  h.receive hwrite hothers holder rfl rfl

/-- A write that was not submitted comes back. -/
lemma EntriesCurrent.restore (h : EntriesCurrent registry dirty) {write : DesiredDeviceWrite}
    (hwrite : registry.Holds write.record write.revision) (now : TimePoint) :
    EntriesCurrent registry (dirty.restore write now) := by
  refine h.receive hwrite (fun _ _ => rfl) (fun record hrecord => ?_) rfl rfl
  rw [hwrite.1, Option.some_inj] at hrecord
  rw [hwrite.2, hrecord]

lemma EntriesCurrent.complete (h : EntriesCurrent registry dirty) (write : DesiredDeviceWrite) :
    EntriesCurrent registry (dirty.complete write) := by
  rw [DirtyState.complete]
  split
  · exact h
  next entry hentry =>
  split
  · intro deviceId found hfound
    rcases Map.lookup_insert_some.mp hfound with ⟨rfl, rfl⟩ | ⟨-, hbefore⟩
    · exact h _ entry hentry
    · exact h deviceId found hbefore
  · intro deviceId found hfound
    exact h deviceId found (Map.lookup_erase_some.mp hfound).2

lemma EntriesCurrent.take (h : EntriesCurrent registry dirty) (take : DirtyState.Take) :
    EntriesCurrent registry (dirty.takeMatching take).2 := by
  intro deviceId found hfound
  obtain ⟨entry, hentry, rfl⟩ := Option.map_eq_some_iff.mp
    ((Map.lookup_mapValues _ dirty.entries deviceId).symm.trans hfound)
  have hbefore := h deviceId entry hentry
  split
  · exact hbefore
  · exact hbefore

/-- The writes that are taken have the records of the registry. -/
lemma EntriesCurrent.taken (h : EntriesCurrent registry dirty) {take : DirtyState.Take}
    {write : DesiredDeviceWrite} (hmem : write ∈ (dirty.takeMatching take).1) :
    registry.Holds write.record write.revision := by
  obtain ⟨deviceId, entry, hentry, -, rfl⟩ := DirtyState.mem_takeMatching hmem
  exact (h deviceId entry hentry).2

/-! ### The steps of the service -/

/-- The step neither changes a record nor the writes that are not submitted. -/
structure SameRecords (s s' : DeviceService) : Prop where
  registry : s'.registry = s.registry
  dirty : s'.dirty = s.dirty
  phase : s'.phase = s.phase

lemma SameRecords.refl (s : DeviceService) : SameRecords s s := ⟨rfl, rfl, rfl⟩

lemma SameRecords.trans {s'' : DeviceService} (h : SameRecords s s') (h' : SameRecords s' s'') :
    SameRecords s s'' :=
  ⟨h'.registry.trans h.registry, h'.dirty.trans h.dirty, h'.phase.trans h.phase⟩

lemma CurrentRecords.same (h : CurrentRecords s) (hsame : SameRecords s s') :
    CurrentRecords s' := by
  refine ⟨?_, ?_⟩
  · rw [hsame.registry, hsame.dirty]
    exact h.entries
  · rw [hsame.registry, hsame.phase]
    exact h.staged

/-- The thread goes on to a phase with writes of the registry's records. -/
lemma CurrentRecords.enter (h : CurrentRecords s) {phase : DevicePhase}
    (hstaged : ∀ write ∈ phase.writes, s.registry.Holds write.record write.revision) :
    CurrentRecords { s with phase := phase } :=
  ⟨h.entries, hstaged⟩

lemma degrade_sameRecords (s : DeviceService) (deviceId : String) (revision : DeviceRecord → ℕ) :
    SameRecords s (s.degrade deviceId revision) := by
  rw [degrade]
  split
  · exact .refl s
  · exact ⟨rfl, rfl, rfl⟩

lemma dropPending_sameRecords (s : DeviceService) (deviceId : String) :
    SameRecords s (s.dropPending deviceId) := by
  rw [dropPending]
  split
  · exact .refl s
  · dsimp only
    split
    · exact ⟨rfl, rfl, rfl⟩
    · exact ⟨rfl, rfl, rfl⟩

lemma dropAll_sameRecords (s : DeviceService) : SameRecords s s.dropAll := by
  rw [dropAll]
  split
  · exact ⟨rfl, rfl, rfl⟩
  · exact ⟨rfl, rfl, rfl⟩

lemma dropSubmitted_sameRecords (s : DeviceService) (deviceId : String) :
    SameRecords s (s.dropSubmitted deviceId) := by
  rw [dropSubmitted]
  split
  · exact ⟨rfl, rfl, rfl⟩
  · exact ⟨rfl, rfl, rfl⟩

lemma handleUnavailable_sameRecords (s : DeviceService) (answer : DatabaseResult) :
    SameRecords s (s.handleUnavailable answer) := by
  have hdegraded := degrade_sameRecords { s with databaseUnavailable := true } answer.deviceId
    fun record => max record.revision answer.revision
  rw [handleUnavailable]
  split
  · exact ⟨hdegraded.registry, hdegraded.dirty, hdegraded.phase⟩
  · exact ⟨hdegraded.registry, hdegraded.dirty, hdegraded.phase⟩

lemma handlePermanentFailure_sameRecords (s : DeviceService) (answer : DatabaseResult) :
    SameRecords s (s.handlePermanentFailure answer) := by
  have hdropped : SameRecords s (if answer.deviceId.isEmpty then
      (s.dropPending answer.deviceId).dropAll
    else (s.dropPending answer.deviceId).dropSubmitted answer.deviceId) := by
    split
    · exact (dropPending_sameRecords s _).trans (dropAll_sameRecords _)
    · exact (dropPending_sameRecords s _).trans (dropSubmitted_sameRecords _ _)
  have hdegraded := hdropped.trans (degrade_sameRecords _ answer.deviceId
    fun record => max record.revision answer.revision)
  exact ⟨hdegraded.registry, hdegraded.dirty, hdegraded.phase⟩

lemma recoverDevice_sameRecords (s : DeviceService) (deviceId : String) (revision : ℕ) :
    SameRecords s (s.recoverDevice deviceId revision) := by
  rw [recoverDevice]
  split
  · exact .refl s
  · split
    · dsimp only
      split
      · exact ⟨rfl, rfl, rfl⟩
      · exact ⟨rfl, rfl, rfl⟩
    · exact .refl s

lemma submitProvision_sameRecords (s : DeviceService) (deviceId : String)
    (outcome : SubmitOutcome) : SameRecords s (s.submitProvision deviceId outcome) := by
  rw [submitProvision]
  split
  · exact .refl s
  · split
    · exact ⟨rfl, rfl, rfl⟩
    · exact ⟨rfl, rfl, rfl⟩

lemma awaitProvision_sameRecords (s : DeviceService) (deviceId : String)
    (registration : Registration) (receivedAt : TimePoint) :
    SameRecords s (s.awaitProvision deviceId registration receivedAt) := by
  rw [awaitProvision]
  split
  · exact .refl s
  · split
    · exact ⟨rfl, rfl, rfl⟩
    · exact ⟨rfl, rfl, rfl⟩

lemma reportStatus_sameRecords (s : DeviceService) (deviceId : String) (revision : ℕ)
    (write : DesiredDeviceWrite) : SameRecords s (s.reportStatus deviceId revision write) := by
  rw [reportStatus]
  split
  · exact .refl s
  · split
    · exact ⟨rfl, rfl, rfl⟩
    · exact .refl s

lemma completeSubmitted_current (h : CurrentRecords s) (deviceId : String) (revision : ℕ) :
    CurrentRecords (s.completeSubmitted deviceId revision) := by
  rw [completeSubmitted]
  split
  · exact h
  next write _ =>
  split
  · have hreported := h.same (reportStatus_sameRecords s deviceId revision write)
    exact ⟨hreported.entries.complete write, hreported.staged⟩
  · exact h

/-- A mutation of the registry is marked. -/
lemma mark_current (h : CurrentRecords s) (hphase : s.phase.writes = []) {mutation : Mutation}
    (hchanged : Changed s.registry registry' mutation.record)
    (holder : ∀ record, s.registry.find mutation.record.deviceId = some record →
      record.revision ≤ mutation.record.revision) (now : TimePoint) :
    CurrentRecords ({ s with registry := registry' }.mark mutation now) := by
  refine ⟨?_, fun write hwrite => ?_⟩
  · exact @EntriesCurrent.mark s.registry registry' s.dirty h.entries (markedWrite mutation)
      ⟨hchanged.found, rfl⟩ hchanged.others holder now
  · have hnone : ({ s with registry := registry' }.mark mutation now).phase.writes = [] := hphase
    rw [hnone] at hwrite
    cases hwrite

/-- A record follows the one there was. -/
lemma NextRecord.older {record newRecord : DeviceRecord} (h : NextRecord record newRecord)
    {found : DeviceRecord} (hrecord : registry.find newRecord.deviceId = some record)
    (hfound : registry.find newRecord.deviceId = some found) :
    found.revision ≤ newRecord.revision := by
  rw [hrecord, Option.some_inj] at hfound
  rw [h.revision, hfound]
  exact Nat.le_succ _

lemma registration_older {registration : Registration} {receivedAt : TimePoint}
    {mutation : Mutation} (hids : ∀ deviceId record, registry.find deviceId = some record →
      record.deviceId = deviceId)
    (h : registry.applyRegistration registration receivedAt = (.ok mutation, registry')) :
    ∀ found, registry.find mutation.record.deviceId = some found →
      found.revision ≤ mutation.record.revision := by
  obtain ⟨record, hrecord, hmutation, -⟩ := applyRegistration_ok h
  have hnext : NextRecord record mutation.record := hmutation ▸ registered_next _ _ _ _
  intro found hfound
  refine hnext.older ?_ hfound
  rw [hnext.deviceId, hids _ record hrecord]
  exact hrecord

lemma telemetry_older {deviceId : String} {telemetry : Telemetry} {receivedAt : TimePoint}
    {mutation : Mutation} (hids : ∀ deviceId record, registry.find deviceId = some record →
      record.deviceId = deviceId)
    (h : registry.applyTelemetry deviceId telemetry receivedAt = (.ok mutation, registry')) :
    ∀ found, registry.find mutation.record.deviceId = some found →
      found.revision ≤ mutation.record.revision := by
  obtain ⟨record, hrecord, hmutation, -, -⟩ := applyTelemetry_ok h
  have hnext : NextRecord record mutation.record := hmutation ▸ reported_next _ _ _ _
  intro found hfound
  refine hnext.older ?_ hfound
  rw [hnext.deviceId, hids _ record hrecord]
  exact hrecord

lemma handleMessage_current (h : CurrentRecords s) (hphase : s.phase.writes = [])
    (hkeys : RolesIndexed s.registry) (inbound : InboundMessage) (now : TimePoint) :
    CurrentRecords (s.handleMessage cfg inbound now) := by
  have hreport : ∀ {report : Except String Mutation × DeviceRegistry},
      (∀ mutation registry', report = (.ok mutation, registry') →
        Changed s.registry registry' mutation.record ∧
          ∀ found, s.registry.find mutation.record.deviceId = some found →
            found.revision ≤ mutation.record.revision) →
        CurrentRecords (s.applyReport report now) := by
    intro report hok
    obtain ⟨outcome, registry'⟩ := report
    cases outcome with
    | error message => exact h
    | ok mutation =>
        obtain ⟨hchanged, holder⟩ := hok mutation registry' rfl
        exact mark_current h hphase hchanged holder now
  rw [handleMessage]
  split
  · exact h
  · split
    · exact h
    · rw [handleRegistration]
      split
      · exact h.same (awaitProvision_sameRecords s _ _ _)
      · exact hreport fun mutation registry' hok =>
          ⟨applyRegistration_changed hok, registration_older hkeys.ids hok⟩
  · split
    · exact h
    · exact hreport fun mutation registry' hok =>
        ⟨applyTelemetry_changed hok, telemetry_older hkeys.ids hok⟩

/-- A device that comes in has no entry yet, and its registration is marked. -/
lemma handleProvisioned_current (h : CurrentRecords s) (hphase : s.phase.writes = [])
    (hreach : registryMachine.Reachable s.registry) (deviceId : String) (record : DeviceRecord)
    (now : TimePoint) : CurrentRecords (s.handleProvisioned deviceId record now) := by
  rw [handleProvisioned]
  split
  · exact h
  next candidate _ =>
  split
  · split
    · exact h.same ⟨rfl, rfl, rfl⟩
    · exact h
  next registry' hadded =>
  have hchanged := addProvisioned_changed hadded
  have hnew := addProvisioned_new hadded
  have hcurrent : CurrentRecords { s with
      registry := registry'
      pending := s.pending.erase deviceId } := by
    refine ⟨fun other entry hentry => ?_, fun write hwrite => ?_⟩
    · obtain ⟨hid, hfind, hrevision⟩ := h.entries other entry hentry
      refine ⟨hid, (hchanged.others _ fun hsame => ?_).trans hfind, hrevision⟩
      rw [hsame, hnew] at hfind
      cases hfind
    · rw [show ({ s with
          registry := registry'
          pending := s.pending.erase deviceId } : DeviceService).phase = s.phase from rfl,
        hphase] at hwrite
      cases hwrite
  have hreach' : registryMachine.Reachable registry' := by
    have hnext : registryMachine.Reachable (s.registry.addProvisioned record).2 :=
      .step (m := registryMachine) (i := .addProvisioned record) hreach trivial
    rw [hadded] at hnext
    exact hnext
  have happlied : CurrentRecords (({ s with
      registry := registry'
      pending := s.pending.erase deviceId } : DeviceService).applyPending candidate now) := by
    rw [applyPending]
    split
    · next mutation registered hok =>
        exact mark_current hcurrent hphase (applyRegistration_changed hok)
          (registration_older (reachable_rolesIndexed hreach').ids hok) now
    · exact hcurrent
  dsimp only
  split
  · exact happlied.same ⟨rfl, rfl, rfl⟩
  · exact happlied

/-- The mutations of a scan are marked one after the other: an entry is current, or its
device is still to be marked. -/
lemma foldl_mark_entries (markedAt : Mutation → TimePoint) (mutations : List Mutation)
    (hholds : ∀ mutation ∈ mutations,
      s.registry.find mutation.record.deviceId = some mutation.record)
    (h : ∀ deviceId entry, s.dirty.entries.lookup deviceId = some entry →
      (entry.record.deviceId = deviceId ∧ s.registry.Holds entry.record entry.revision) ∨
        ∃ mutation ∈ mutations, mutation.record.deviceId = deviceId ∧
          entry.revision ≤ mutation.record.revision) :
    EntriesCurrent s.registry
      (mutations.foldl (fun s mutation => s.mark mutation (markedAt mutation)) s).dirty := by
  induction mutations generalizing s with
  | nil =>
      intro deviceId entry hentry
      rcases h deviceId entry hentry with hcurrent | ⟨mutation, hnil, -⟩
      · exact hcurrent
      · cases hnil
  | cons mutation mutations ih =>
      refine ih (s := s.mark mutation (markedAt mutation))
        (fun other hother => hholds other (List.mem_cons_of_mem _ hother))
        fun deviceId entry hentry => ?_
      have hself := hholds mutation List.mem_cons_self
      have hnewer : ∀ current ∈ s.dirty.entries.lookup mutation.record.deviceId,
          current.revision ≤ (markedWrite mutation).revision := by
        intro current hcurrent
        rcases h _ current hcurrent with ⟨hid, hfind, hrevision⟩ | ⟨other, hother, hid, hle⟩
        · rw [hid, hself, Option.some_inj] at hfind
          rw [hrevision, ← hfind]
          exact le_rfl
        · have hsame := hholds other hother
          rw [hid, hself, Option.some_inj] at hsame
          rw [← hsame] at hle
          exact hle
      obtain ⟨hrecord, hrevision⟩ := receive_record hnewer (markedAt mutation)
      rcases Map.lookup_insert_some.mp hentry with ⟨rfl, rfl⟩ | ⟨hne, hbefore⟩
      · refine .inl ⟨congrArg DeviceRecord.deviceId hrecord, ?_⟩
        exact ⟨(congrArg (fun record : DeviceRecord => s.registry.find record.deviceId)
          hrecord).trans (hself.trans (congrArg some hrecord.symm)),
          hrevision.trans (congrArg DeviceRecord.revision hrecord.symm)⟩
      · rcases h deviceId entry hbefore with hcurrent | ⟨other, hother, hid, hle⟩
        · exact .inl hcurrent
        · rcases List.mem_cons.mp hother with rfl | hother
          · exact absurd hid.symm hne
          · exact .inr ⟨other, hother, hid, hle⟩

lemma scan_current (h : CurrentRecords s) (hkeys : RolesIndexed s.registry)
    {now systemNow : TimePoint} {mutations : List Mutation}
    (hmutations : mutations.Perm (s.scanMutations cfg now systemNow))
    (markedAt : String → TimePoint) :
    CurrentRecords (s.scan cfg now systemNow mutations markedAt) := by
  have hstaged : (s.scan cfg now systemNow mutations markedAt).phase.writes = [] := by
    rw [scan_phase]
    rfl
  refine ⟨?_, fun write hwrite => ?_⟩
  · rw [scan]
    dsimp only
    split
    · next hdue =>
        rw [foldl_mark_registry]
        have hmem : ∀ mutation, mutation ∈ mutations ↔
            mutation ∈ (s.registry.expireInactive systemNow cfg.offlineTimeout).1 := by
          intro mutation
          rw [hmutations.mem_iff, scanMutations, if_pos hdue]
        refine foldl_mark_entries _ mutations (fun mutation hmutation =>
          expireInactive_changed hkeys ((hmem mutation).mp hmutation))
          fun deviceId entry hentry => ?_
        obtain ⟨hid, hfind, hrevision⟩ := h.entries deviceId entry hentry
        by_cases hexpired : ∃ mutation ∈ mutations, mutation.record.deviceId = deviceId
        · obtain ⟨mutation, hmutation, hdevice⟩ := hexpired
          obtain ⟨record, hrecord, hnew, -⟩ :=
            expireInactive_ok hkeys ((hmem mutation).mp hmutation)
          refine .inr ⟨mutation, hmutation, hdevice, ?_⟩
          rw [hdevice, ← hid, hfind, Option.some_inj] at hrecord
          rw [hrevision, hnew, hrecord]
          exact Nat.le_succ _
        · refine .inl ⟨hid, ?_, hrevision⟩
          refine (expireInactive_others hkeys fun mutation hmutation hdevice => ?_).trans hfind
          exact hexpired ⟨mutation, (hmem mutation).mpr hmutation, hdevice.trans hid⟩
    · exact h.entries
  · rw [hstaged] at hwrite
    cases hwrite

lemma submitWrite_current {write : DesiredDeviceWrite} {writes : List DesiredDeviceWrite}
    (h : CurrentRecords s) (hphase : s.phase.writes = write :: writes) (outcome : SubmitOutcome)
    (now : TimePoint) {phase : DevicePhase} (hwrites : phase.writes = writes) :
    CurrentRecords { s.submitWrite write outcome now with phase := phase } := by
  have hholds : ∀ other ∈ write :: writes, s.registry.Holds other.record other.revision := by
    rw [← hphase]
    exact h.staged
  have hrest : ∀ other ∈ phase.writes, s.registry.Holds other.record other.revision := by
    rw [hwrites]
    exact fun other hother => hholds other (List.mem_cons_of_mem _ hother)
  rw [submitWrite]
  split
  · split
    · exact ⟨h.entries, hrest⟩
    · exact ⟨h.entries, hrest⟩
  · have hdegraded := degrade_sameRecords { s with dirty := s.dirty.restore write now }
      write.record.deviceId DeviceRecord.revision
    refine ⟨?_, fun other hother => ?_⟩
    · change EntriesCurrent (degrade _ _ _).registry (degrade _ _ _).dirty
      rw [hdegraded.registry, hdegraded.dirty]
      exact h.entries.restore (hholds write List.mem_cons_self) now
    · change (degrade _ _ _).registry.Holds _ _
      rw [hdegraded.registry]
      exact hrest other hother

/-- The devices that are written again have the records of the registry. -/
lemma handleRecovered_current (h : CurrentRecords s) (hkeys : RolesIndexed s.registry)
    {writes : List DesiredDeviceWrite} (hwrites : writes.Perm s.recoveredWrites) :
    CurrentRecords (s.handleRecovered writes) := by
  refine ⟨h.entries, fun write hwrite => ?_⟩
  have hmem : write ∈ writes := by
    rw [handleRecovered] at hwrite
    dsimp only at hwrite
    split at hwrite
    · cases hwrite
    · exact hwrite
  obtain ⟨record, hrecord, rfl⟩ := List.mem_map.mp (hwrites.mem_iff.mp hmem)
  obtain ⟨deviceId, -, hfind⟩ := List.mem_filterMap.mp hrecord
  have hid : record.deviceId = deviceId := hkeys.ids deviceId record hfind
  refine ⟨?_, rfl⟩
  rw [← hid] at hfind
  exact hfind

lemma handleResult_current (h : CurrentRecords s) (hphase : s.phase.writes = [])
    (hkeys : RolesIndexed s.registry) (hreach : registryMachine.Reachable s.registry)
    {answer : DatabaseResult} {writes : List DesiredDeviceWrite}
    (hwrites : answer.kind = .recovered → writes.Perm s.recoveredWrites) (now : TimePoint) :
    CurrentRecords (s.handleResult answer writes now) := by
  rw [handleResult]
  cases hkind : answer.kind with
  | unavailable => exact h.same (handleUnavailable_sameRecords s answer)
  | permanentFailure => exact h.same (handlePermanentFailure_sameRecords s answer)
  | recovered => exact handleRecovered_current h hkeys (hwrites hkind)
  | provisioned =>
      dsimp only
      split
      · exact handleProvisioned_current h hphase hreach _ _ now
      · exact h
  | writeCompleted =>
      exact (completeSubmitted_current h answer.deviceId answer.revision).same
        (recoverDevice_sameRecords _ _ _)

lemma beginDispatch_current (h : CurrentRecords s) {writes : List DesiredDeviceWrite}
    (hwrites : writes.Perm s.firstBatch) : CurrentRecords (s.beginDispatch writes) := by
  rw [beginDispatch]
  split
  · exact h.enter fun _ hnone => by cases hnone
  split
  · next hdrained =>
      rw [firstBatch, if_pos hdrained] at hwrites
      split
      · exact h.enter fun _ hnone => by cases hnone
      · exact ⟨h.entries.take _, fun write hwrite =>
          h.entries.taken (hwrites.mem_iff.mp hwrite)⟩
  · next hdrained =>
      rw [firstBatch, if_neg hdrained] at hwrites
      exact ⟨h.entries.take _, fun write hwrite => h.entries.taken (hwrites.mem_iff.mp hwrite)⟩

lemma endBatch_current (h : CurrentRecords s) {batch : WriteBatch} {accepted : Bool}
    {now : TimePoint} {writes : List DesiredDeviceWrite} (hwrites : batch = .immediate →
      writes.Perm (s.dirty.takeTelemetryDue now cfg.telemetryInterval).1) :
    CurrentRecords (s.endBatch cfg batch accepted now writes) := by
  cases batch with
  | immediate =>
      exact ⟨h.entries.take _, fun write hwrite =>
        h.entries.taken ((hwrites rfl).mem_iff.mp hwrite)⟩
  | telemetry => exact h.enter fun _ hnone => by cases hnone
  | all => exact ⟨h.entries, fun _ hnone => by cases hnone⟩

lemma consumeCancel_current (h : CurrentRecords s) : CurrentRecords s.consumeCancel := by
  rw [consumeCancel]
  split
  · refine ⟨fun deviceId entry hentry => ?_, h.staged⟩
    cases hentry
  · exact h

/-- **One step**: whatever changes a record takes the entry of its device along. -/
theorem apply_current (h : CurrentRecords s) (hreach : registryMachine.Reachable s.registry)
    {input : DeviceInput} (henabled : input.Enabled cfg s) :
    CurrentRecords (input.apply cfg s) := by
  have hkeys := reachable_rolesIndexed hreach
  have hnone : ∀ {phase : DevicePhase}, phase.writes = [] →
      ∀ write ∈ phase.writes, s.registry.Holds write.record write.revision := by
    intro phase hphase write hwrite
    rw [hphase] at hwrite
    cases hwrite
  cases input with
  | begin => exact ⟨h.entries, hnone rfl⟩
  | result answer writes now =>
      exact handleResult_current h (by rw [henabled.1]; rfl) hkeys hreach henabled.2 now
  | resultsDone => exact (consumeCancel_current h).enter (fun _ hmem => by cases hmem)
  | message inbound now =>
      exact handleMessage_current h (by rw [show s.phase = .messages from henabled]; rfl) hkeys
        inbound now
  | messagesDone deviceIds =>
      refine h.enter (hnone ?_)
      split
      · rfl
      · rfl
  | provision outcome =>
      obtain ⟨deviceId, deviceIds, hphase⟩ := henabled
      simp only [DeviceInput.apply, hphase]
      have hsame := h.same (submitProvision_sameRecords s deviceId outcome)
      refine hsame.enter fun write hwrite => ?_
      split at hwrite
      · cases hwrite
      · cases hwrite
  | scan now systemNow mutations markedAt => exact scan_current h hkeys henabled.2 markedAt
  | dispatch writes => exact beginDispatch_current h henabled.2
  | write outcome now =>
      obtain ⟨desired, writes, hphase | ⟨batch, accepted, hphase⟩⟩ := henabled
      · simp only [DeviceInput.apply, hphase]
        refine submitWrite_current h (by rw [hphase]; rfl) outcome now ?_
        split
        · next hnil => exact hnil.symm
        · rfl
      · simp only [DeviceInput.apply, hphase]
        exact submitWrite_current h (by rw [hphase]; rfl) outcome now rfl
  | endBatch now writes =>
      obtain ⟨batch, accepted, hphase, hwrites⟩ := henabled
      simp only [DeviceInput.apply, hphase]
      exact endBatch_current h hwrites
  | finish =>
      refine ⟨?_, fun _ hmem => by cases hmem⟩
      simp only [DeviceInput.apply, finishReady]
      split
      · exact h.entries
      · exact h.entries
  | requestSnapshot =>
      refine h.same ?_
      simp only [DeviceInput.apply, requestExternalSnapshot]
      split
      · exact .refl s
      · exact ⟨rfl, rfl, rfl⟩
  | close => exact h.same ⟨rfl, rfl, rfl⟩
  | drained => exact h.same ⟨rfl, rfl, rfl⟩
  | cancel => exact h.same ⟨rfl, rfl, rfl⟩

/-- **Nothing outdated is submitted**, in any run. -/
theorem currentRecords_of_reachable (h : (deviceService cfg).Reachable s) : CurrentRecords s := by
  refine h.invariant (P := CurrentRecords) (fun s h0 => ?_) fun s input hreach hs henabled =>
    apply_current hs (registry_of_reachable hreach) henabled
  obtain ⟨records, systemNow, now, rfl⟩ := h0
  refine ⟨fun deviceId entry hnone => ?_, fun write hnone => ?_⟩
  · cases hnone
  · cases hnone

end

end CnsServer
