/-
The groups of columns that are still to be submitted.

* `WriteBook.Awaits`: a group is dirty, or selected by a write that has been taken;
* `DirtyState.Dated`: nothing is dirty in an entry under a newer revision than its own;
* `awaits_apply`: **each step of the service keeps what is awaited**, but for the submission
  of it and a cancel;
* `SelectsReport`: a report selects the groups it changes, which a telemetry need not do;
* `Advances`, `service_advances`: then **whatever changes in a record is awaited**.
-/
import CnsServer.Invariants.WritesInFlight
import CnsServer.Store.DeviceColumns

namespace CnsServer

open DeviceService

/-- The group of the device is dirty, or a taken write selects it. -/
def WriteBook.Awaits (b : WriteBook) (deviceId : String) (field : DeviceField) : Prop :=
  (b.dirty.fieldOf deviceId field).dirtyRevision ≠ 0 ∨
    ∃ write ∈ b.staged, write.record.deviceId = deviceId ∧ write.selects field = true ∧
      write.revision ≠ 0

/-- Nothing is dirty in an entry under a newer revision than its own. -/
def DirtyState.Dated (dirty : DirtyState) : Prop :=
  ∀ deviceId entry, dirty.entries.lookup deviceId = some entry → ∀ field,
    (entry.field field).dirtyRevision ≤ entry.revision

section

variable {b : WriteBook} {dirty : DirtyState} {write : DesiredDeviceWrite} {deviceId : String}
  {field : DeviceField}

/-! ### Entries -/

/-- The entry that receives a write has nothing newer in it either. -/
lemma DirtyState.Dated.receive (h : dirty.Dated) (deviceId : String) (write : DesiredDeviceWrite)
    (now : TimePoint) (field : DeviceField) :
    ((DirtyEntry.receive (dirty.entries.lookup deviceId) write now).field field).dirtyRevision ≤
      (DirtyEntry.receive (dirty.entries.lookup deviceId) write now).revision := by
  rw [DirtyState.receive_field]
  cases hentry : dirty.entries.lookup deviceId with
  | none =>
      rw [DirtyState.fieldOf, hentry]
      exact Nat.zero_le _
  | some entry =>
      obtain ⟨record, hreceive⟩ := DirtyEntry.receive_some entry write now
      rw [DirtyState.fieldOf_eq hentry, hreceive]
      exact (h deviceId entry hentry field).trans (le_max_left _ _)

lemma DirtyState.Dated.mark (h : dirty.Dated) (write : DesiredDeviceWrite) (now : TimePoint) :
    (dirty.mark write now).Dated := by
  intro deviceId entry hentry field
  rw [DirtyState.lookup_mark] at hentry
  split at hentry
  · cases hentry
    rw [DirtyEntry.mark_field]
    exact FieldState.mark_dirtyRevision_le (h.receive deviceId write now field)
      (DirtyEntry.le_receive_revision _ _ _)
  · exact h deviceId entry hentry field

lemma DirtyState.Dated.restore (h : dirty.Dated) (write : DesiredDeviceWrite) (now : TimePoint) :
    (dirty.restore write now).Dated := by
  intro deviceId entry hentry field
  rw [DirtyState.lookup_restore] at hentry
  split at hentry
  · cases hentry
    rw [DirtyEntry.restore_field]
    exact FieldState.restore_dirtyRevision_le (h.receive deviceId write now field)
      (DirtyEntry.le_receive_revision _ _ _)
  · exact h deviceId entry hentry field

lemma DirtyState.Dated.complete (h : dirty.Dated) (write : DesiredDeviceWrite) :
    (dirty.complete write).Dated := by
  intro deviceId found hfound field
  rw [DirtyState.lookup_complete] at hfound
  split at hfound
  · obtain ⟨entry, hentry, hkept⟩ := Option.bind_eq_some_iff.mp hfound
    split at hkept
    · cases hkept
      rw [DirtyEntry.complete_field, FieldState.complete_dirtyRevision]
      exact h deviceId entry hentry field
    · cases hkept
  · exact h deviceId found hfound field

lemma DirtyState.Dated.take (h : dirty.Dated) (take : DirtyState.Take) :
    (dirty.takeMatching take).2.Dated := by
  intro deviceId found hfound field
  rw [DirtyState.lookup_takeMatching] at hfound
  obtain ⟨entry, hentry, rfl⟩ := Option.map_eq_some_iff.mp hfound
  split
  · rw [DirtyEntry.dispatched_field]
    exact Nat.zero_le _
  · exact h deviceId entry hentry field

/-- **No call** makes an entry dirty under a newer revision than its own. -/
lemma dated_next (h : b.dirty.Dated) (call : BookCall) : (b.next call).dirty.Dated := by
  cases call with
  | mark mutation markedAt => exact h.mark (markedWrite mutation) markedAt
  | take take writes => exact h.take take
  | submit outcome now =>
      simp only [WriteBook.next]
      split
      · exact h
      · split
        · exact h
        · exact h.restore _ now
  | completed deviceId revision =>
      simp only [WriteBook.next]
      split
      · exact h
      · split
        · exact h.complete _
        · exact h
  | failed deviceId =>
      simp only [WriteBook.next]
      split
      · exact h
      · exact h
  | cancelled =>
      intro deviceId entry hnone
      cases hnone
  | replay writes => exact h

lemma foldl_dated (calls : List BookCall) (h : b.dirty.Dated) :
    (calls.foldl WriteBook.next b).dirty.Dated := by
  induction calls generalizing b with
  | nil => exact h
  | cons call calls ih => exact ih (dated_next h call)

/-! ### Calls -/

namespace WriteBook

lemma Awaits.mark (h : b.Awaits deviceId field) (mutation : Mutation) (now : TimePoint) :
    (b.next (.mark mutation now)).Awaits deviceId field := by
  refine h.imp_left fun hdirty => ?_
  show ((b.dirty.mark (markedWrite mutation) now).fieldOf deviceId field).dirtyRevision ≠ 0
  rw [DirtyState.fieldOf_mark]
  split
  · exact (Nat.lt_of_lt_of_le (Nat.pos_of_ne_zero hdirty)
      (FieldState.le_mark_dirtyRevision _ _ _)).ne'
  · exact hdirty

/-- What a mutation selects is dirty once it has been marked. -/
lemma awaits_mark {mutation : Mutation} (hselects : (markedWrite mutation).selects field = true)
    (hrevision : mutation.record.revision ≠ 0) (b : WriteBook) (now : TimePoint) :
    (b.next (.mark mutation now)).Awaits mutation.record.deviceId field := by
  refine .inl ?_
  show ((b.dirty.mark (markedWrite mutation) now).fieldOf
    mutation.record.deviceId field).dirtyRevision ≠ 0
  rw [DirtyState.fieldOf_mark, if_pos (show mutation.record.deviceId =
    (markedWrite mutation).record.deviceId from rfl), hselects, FieldState.mark, if_pos rfl]
  exact (Nat.lt_of_lt_of_le (Nat.pos_of_ne_zero hrevision) (le_max_right _ _)).ne'

/-- What is dirty is taken, or left. -/
lemma Awaits.take (h : b.Awaits deviceId field) (hstaged : b.staged = []) (hdated : b.dirty.Dated)
    (hkeyed : EntriesKeyed b.dirty) {take : DirtyState.Take} {writes : List DesiredDeviceWrite}
    (hwrites : writes.Perm (b.dirty.takeMatching take).1) :
    (b.next (.take take writes)).Awaits deviceId field := by
  have hdirty : (b.dirty.fieldOf deviceId field).dirtyRevision ≠ 0 := by
    rcases h with hdirty | ⟨write, hmem, -⟩
    · exact hdirty
    · rw [hstaged] at hmem
      cases hmem
  obtain ⟨entry, hentry⟩ := lookup_of_fieldOf b.dirty deviceId field fun hnone =>
    hdirty (congrArg FieldState.dirtyRevision hnone)
  have htaken := fieldOf_taken take hentry field
  rw [DirtyState.fieldOf_eq hentry] at hdirty
  by_cases hdue : take.due entry = true
  · refine .inr ⟨entry.toWrite, hwrites.mem_iff.mpr (DirtyState.toWrite_mem hentry hdue),
      hkeyed deviceId entry hentry, ?_, fun hzero => hdirty ?_⟩
    · rw [DirtyEntry.toWrite_selects]
      exact decide_eq_true hdirty
    · exact Nat.le_zero.mp ((hdated deviceId entry hentry field).trans_eq hzero)
  · rw [if_neg hdue] at htaken
    refine .inl ?_
    show ((b.dirty.takeMatching take).2.fieldOf deviceId field).dirtyRevision ≠ 0
    rw [htaken]
    exact hdirty

lemma Awaits.replay (h : b.Awaits deviceId field) (hstaged : b.staged = [])
    (writes : List DesiredDeviceWrite) : (b.next (.replay writes)).Awaits deviceId field := by
  rcases h with hdirty | ⟨write, hmem, -⟩
  · exact .inl hdirty
  · rw [hstaged] at hmem
    cases hmem

/-- What is dirty stays so when a write is completed. -/
lemma Awaits.completed (h : b.Awaits deviceId field) (completedId : String) (revision : ℕ) :
    (b.next (.completed completedId revision)).Awaits deviceId field := by
  simp only [WriteBook.next]
  split
  · exact h
  · next write _ =>
      split
      · refine h.imp_left fun hdirty => ?_
        show ((b.dirty.complete write).fieldOf deviceId field).dirtyRevision ≠ 0
        rw [DirtyState.fieldOf_complete]
        split
        · rw [FieldState.complete_dirtyRevision]
          exact hdirty
        · exact hdirty
      · exact h

lemma Awaits.failed (h : b.Awaits deviceId field) (failedId : String) :
    (b.next (.failed failedId)).Awaits deviceId field := by
  simp only [WriteBook.next]
  split
  · exact h
  · exact h

/-- What is awaited comes back with a write that is refused, and goes with one that is
accepted. -/
lemma Awaits.submit (h : b.Awaits deviceId field) (outcome : SubmitOutcome) (now : TimePoint) :
    (b.next (.submit outcome now)).Awaits deviceId field ∨
      outcome = .accepted ∧ ∃ write ∈ b.staged.head?, write.record.deviceId = deviceId ∧
        write.selects field = true := by
  simp only [WriteBook.next]
  split
  · exact .inl h
  · next write staged hstaged =>
      by_cases haccepted : outcome = .accepted
      · rw [if_pos haccepted]
        rcases h with hdirty | ⟨other, hmem, hid, hselects, hrevision⟩
        · exact .inl (.inl hdirty)
        · rw [hstaged] at hmem
          rcases List.mem_cons.mp hmem with rfl | hmem
          · exact .inr ⟨haccepted, other, by rw [hstaged]; rfl, hid, hselects⟩
          · exact .inl (.inr ⟨other, hmem, hid, hselects, hrevision⟩)
      · rw [if_neg haccepted]
        refine .inl ?_
        rcases h with hdirty | ⟨other, hmem, hid, hselects, hrevision⟩
        · refine .inl ?_
          show ((b.dirty.restore write now).fieldOf deviceId field).dirtyRevision ≠ 0
          rw [DirtyState.fieldOf_restore]
          split
          · exact (Nat.lt_of_lt_of_le (Nat.pos_of_ne_zero hdirty)
              (FieldState.le_restore_dirtyRevision _ _ _)).ne'
          · exact hdirty
        · rw [hstaged] at hmem
          rcases List.mem_cons.mp hmem with rfl | hmem
          · refine .inl ?_
            show ((b.dirty.restore other now).fieldOf deviceId field).dirtyRevision ≠ 0
            rw [DirtyState.fieldOf_restore, if_pos hid.symm, hselects, FieldState.restore,
              if_pos rfl]
            exact (Nat.lt_of_lt_of_le (Nat.pos_of_ne_zero hrevision) (le_max_right _ _)).ne'
          · exact .inr ⟨other, hmem, hid, hselects, hrevision⟩

end WriteBook

/-- Marks keep what is awaited, and add what they select. -/
lemma foldl_marks_awaits (marks : List (Mutation × TimePoint)) {b : WriteBook}
    (h : b.Awaits deviceId field ∨ ∃ mark ∈ marks, mark.1.record.deviceId = deviceId ∧
      (markedWrite mark.1).selects field = true ∧ mark.1.record.revision ≠ 0) :
    ((marks.map fun mark => BookCall.mark mark.1 mark.2).foldl WriteBook.next b).Awaits
      deviceId field := by
  induction marks generalizing b with
  | nil =>
      rcases h with hbefore | ⟨mark, hmem, -⟩
      · exact hbefore
      · cases hmem
  | cons mark marks ih =>
      refine ih ?_
      rcases h with hbefore | ⟨other, hmem, rfl, hselects, hrevision⟩
      · exact .inl (hbefore.mark mark.1 mark.2)
      · rcases List.mem_cons.mp hmem with rfl | hmem
        · exact .inl (WriteBook.awaits_mark hselects hrevision b other.2)
        · exact .inr ⟨other, hmem, rfl, hselects, hrevision⟩

end

section

variable {cfg : DeviceServiceConfig} {s : DeviceService} {registry' : DeviceRegistry}
  {deviceId : String} {field : DeviceField}

/-! ### Steps -/

lemma dated_apply {input : DeviceInput} (henabled : input.Enabled cfg s) (h : s.dirty.Dated) :
    (input.apply cfg s).dirty.Dated := by
  have hbook : (input.apply cfg s).book.dirty.Dated := by
    rw [book_next henabled]
    exact foldl_dated (b := s.book) _ h
  exact hbook

/-- The step consumes a cancel. -/
def DeviceInput.consumesCancel (s : DeviceService) : DeviceInput → Bool
  | .resultsDone => s.cancelRequested
  | _ => false

/-- The step marks the group for the device. -/
def MarksGroup (cfg : DeviceServiceConfig) (s : DeviceService) (input : DeviceInput)
    (deviceId : String) (field : DeviceField) : Prop :=
  ∃ mark ∈ input.marks cfg s, mark.1.record.deviceId = deviceId ∧
    (markedWrite mark.1).selects field = true ∧ mark.1.record.revision ≠ 0

/-- The step has a write accepted that selects the group. -/
def SubmitsGroup (s : DeviceService) (input : DeviceInput) (deviceId : String)
    (field : DeviceField) : Prop :=
  ∃ now, input = .write .accepted now ∧ ∃ write ∈ s.phase.writes.head?,
    write.record.deviceId = deviceId ∧ write.selects field = true

/-- **Each step of the service** keeps what is awaited, but for what it submits, and adds
what it marks. -/
theorem awaits_apply {input : DeviceInput} (henabled : input.Enabled cfg s)
    (hcancel : input.consumesCancel s = false) (hdated : s.dirty.Dated)
    (hkeyed : EntriesKeyed s.dirty)
    (h : s.book.Awaits deviceId field ∨ MarksGroup cfg s input deviceId field) :
    (input.apply cfg s).book.Awaits deviceId field ∨ SubmitsGroup s input deviceId field := by
  rw [book_next henabled]
  have hbefore : input.marks cfg s = [] → s.book.Awaits deviceId field := by
    intro hnone
    rcases h with hbefore | ⟨mark, hmem, -⟩
    · exact hbefore
    · rw [hnone] at hmem
      cases hmem
  cases input with
  | result answer writes now =>
      have hstaged : s.book.staged = [] := congrArg DevicePhase.writes henabled.1
      simp only [DeviceInput.bookCalls, DatabaseResult.bookCalls]
      cases hkind : answer.kind with
      | provisioned => exact .inl (foldl_marks_awaits _ h)
      | unavailable => exact .inl (foldl_marks_awaits _ h)
      | permanentFailure =>
          have hnone : (DeviceInput.result answer writes now).marks cfg s = [] := by
            simp only [DeviceInput.marks, hkind]
          rw [hnone]
          exact .inl ((hbefore hnone).failed answer.deviceId)
      | recovered =>
          have hnone : (DeviceInput.result answer writes now).marks cfg s = [] := by
            simp only [DeviceInput.marks, hkind]
          rw [hnone]
          exact .inl ((hbefore hnone).replay hstaged writes)
      | writeCompleted =>
          have hnone : (DeviceInput.result answer writes now).marks cfg s = [] := by
            simp only [DeviceInput.marks, hkind]
          rw [hnone]
          exact .inl ((hbefore hnone).completed answer.deviceId answer.revision)
  | resultsDone =>
      rw [DeviceInput.bookCalls, show s.cancelRequested = false from hcancel]
      exact .inl (hbefore rfl)
  | dispatch writes =>
      obtain ⟨hphase, hwrites⟩ := henabled
      have hstaged : s.book.staged = [] := congrArg DevicePhase.writes hphase
      have hawaits := hbefore rfl
      rw [firstBatch] at hwrites
      rw [DeviceInput.bookCalls, dispatchCalls]
      split
      · exact .inl hawaits
      split
      · next hdrained =>
          rw [if_pos hdrained] at hwrites
          split
          · exact .inl hawaits
          · exact .inl (hawaits.take hstaged hdated hkeyed hwrites)
      · next hdrained =>
          rw [if_neg hdrained] at hwrites
          exact .inl (hawaits.take hstaged hdated hkeyed hwrites)
  | write outcome now =>
      rcases (hbefore rfl).submit outcome now with hafter | ⟨rfl, hsubmitted⟩
      · exact .inl hafter
      · exact .inr ⟨now, rfl, hsubmitted⟩
  | endBatch now writes =>
      obtain ⟨batch, accepted, hphase, hwrites⟩ := henabled
      have hstaged : s.book.staged = [] := congrArg DevicePhase.writes hphase
      simp only [DeviceInput.bookCalls, hphase]
      cases batch with
      | immediate => exact .inl ((hbefore rfl).take hstaged hdated hkeyed (hwrites rfl))
      | telemetry => exact .inl (hbefore rfl)
      | all => exact .inl (hbefore rfl)
  | _ => exact .inl (foldl_marks_awaits _ h)

/-! ### Records -/

/-- The record of a device after a step: the one there was, or a newer one whose changed
groups are awaited. -/
def Advances (b : WriteBook) (record record' : DeviceRecord) : Prop :=
  record' = record ∨
    record'.deviceId = record.deviceId ∧ record.revision < record'.revision ∧
      ∀ field, record'.stored field = record.stored field ∨ b.Awaits record.deviceId field

/-- A mutation selects a group, or leaves it, or it is awaited anyway. -/
def Mutation.Leaves (b : WriteBook) (record : DeviceRecord) (mutation : Mutation)
    (field : DeviceField) : Prop :=
  (markedWrite mutation).selects field = true ∨
    mutation.record.stored field = record.stored field ∨ b.Awaits record.deviceId field

/-- Everything but a telemetry selects what it changes. -/
lemma leaves_of_reason {mutation : Mutation} {record : DeviceRecord}
    (hreason : mutation.reason ≠ .telemetry)
    (htelemetry : mutation.record.stored .telemetry = record.stored .telemetry) (b : WriteBook)
    (field : DeviceField) : mutation.Leaves b record field := by
  have hmetadata : decide (mutation.reason ≠ .telemetry) = true := decide_eq_true hreason
  cases field with
  | metadata => exact .inl hmetadata
  | status =>
      refine .inl ?_
      show (decide (mutation.reason ≠ .telemetry) || mutation.statusChanged) = true
      rw [hmetadata, Bool.true_or]
  | telemetry => exact .inr (.inl htelemetry)

/-- The new record of a mutation that is marked. -/
lemma Mutation.Leaves.advances {b : WriteBook} {mutation : Mutation} {record : DeviceRecord}
    (hleaves : ∀ field, mutation.Leaves b record field) (hnext : NextRecord record mutation.record)
    {b' : WriteBook} (hkept : ∀ field, b.Awaits record.deviceId field →
      b'.Awaits record.deviceId field)
    (hmarked : ∀ field, (markedWrite mutation).selects field = true →
      b'.Awaits record.deviceId field) : Advances b' record mutation.record := by
  refine .inr ⟨hnext.deviceId, by rw [hnext.revision]; exact Nat.lt_succ_self _, fun field => ?_⟩
  rcases hleaves field with hselects | hsame | hawaits
  · exact .inr (hmarked field hselects)
  · exact .inl hsame
  · exact .inr (hkept field hawaits)

/-- A report that is accepted and marked. -/
lemma mark_advances {mutation : Mutation} {record : DeviceRecord}
    (hchanged : Changed s.registry registry' mutation.record)
    (hrecord : s.registry.find mutation.record.deviceId = some record)
    (hnext : NextRecord record mutation.record)
    (hleaves : ∀ field, mutation.Leaves s.book record field)
    (now : TimePoint) {found : DeviceRecord} (hfound : registry'.find deviceId = some found) :
    ∃ old, s.registry.find deviceId = some old ∧
      Advances ({ s with registry := registry' }.mark mutation now).book old found := by
  by_cases hid : deviceId = mutation.record.deviceId
  · subst hid
    rw [hchanged.found, Option.some_inj] at hfound
    subst hfound
    refine ⟨record, hrecord, Mutation.Leaves.advances hleaves hnext
      (fun field hawaits => hawaits.mark mutation now) fun field hselects => ?_⟩
    rw [← hnext.deviceId]
    exact WriteBook.awaits_mark hselects (by rw [hnext.revision]; exact Nat.succ_ne_zero _)
      s.book now
  · exact ⟨found, hchanged.others deviceId hid ▸ hfound, .inl rfl⟩

lemma applyReport_advances {report : Except String Mutation × DeviceRegistry}
    (hreport : ∀ mutation registry', report = (.ok mutation, registry') →
      Changed s.registry registry' mutation.record ∧ ∃ record,
        s.registry.find mutation.record.deviceId = some record ∧
          NextRecord record mutation.record ∧ ∀ field, mutation.Leaves s.book record field)
    (now : TimePoint) {found : DeviceRecord}
    (hfound : (s.applyReport report now).registry.find deviceId = some found) :
    ∃ old, s.registry.find deviceId = some old ∧
      Advances (s.applyReport report now).book old found := by
  obtain ⟨outcome, registry'⟩ := report
  cases outcome with
  | error message => exact ⟨found, hfound, .inl rfl⟩
  | ok mutation =>
      obtain ⟨hchanged, record, hrecord, hnext, hleaves⟩ := hreport mutation registry' rfl
      exact mark_advances hchanged hrecord hnext hleaves now hfound

/-- A registration selects all it changes. -/
lemma registration_leaves (hkeys : RolesIndexed s.registry) {registration : Registration}
    {receivedAt : TimePoint} {mutation : Mutation}
    (h : s.registry.applyRegistration registration receivedAt = (.ok mutation, registry')) :
    Changed s.registry registry' mutation.record ∧ ∃ record,
      s.registry.find mutation.record.deviceId = some record ∧
        NextRecord record mutation.record ∧ ∀ field, mutation.Leaves s.book record field := by
  obtain ⟨record, hrecord, hmutation, hreason⟩ := applyRegistration_ok h
  have hnext : NextRecord record mutation.record := hmutation ▸ registered_next _ _ _ _
  refine ⟨applyRegistration_changed h, record, ?_, hnext,
    leaves_of_reason hreason (by rw [hmutation]; rfl) s.book⟩
  rw [hnext.deviceId, hkeys.ids _ record hrecord]
  exact hrecord

/-- **A report selects what it changes.**  A telemetry selects the status only when it changes,
and the metadata never: so it leaves the time an online device was last seen, to the
microsecond, and brings no label that a device without one may have, or the group is dirty
anyway. -/
def DeviceService.SelectsReport (s : DeviceService) : RegistryInput → Prop
  | .telemetry deviceId telemetry receivedAt => ∀ record ∈ s.registry.find deviceId,
      DeviceRegistry.mistypes record telemetry = false →
        (record.status = .online →
          (s.dirty.fieldOf deviceId .status).dirtyRevision ≠ 0 ∨
            record.lastSeenAt.map toUnixMicroseconds = some (toUnixMicroseconds receivedAt)) ∧
        (record.dcdwLabel = none → ∀ label ∈ telemetry.dcdwLabel,
          (s.dirty.fieldOf deviceId .metadata).dirtyRevision ≠ 0 ∨
            ∃ owner ∈ s.registry.roles.lookup (record.schoolId, label), owner ≠ deviceId)
  | _ => True

instance (s : DeviceService) : ∀ op, Decidable (s.SelectsReport op)
  | .telemetry _ _ _ => inferInstanceAs (Decidable (∀ _ ∈ _, _ = false →
      (_ = _ → _ ∨ _) ∧ (_ = none → ∀ _ ∈ _, _ ∨ ∃ _ ∈ _, _)))
  | .load _ => .isTrue trivial
  | .addProvisioned _ => .isTrue trivial
  | .registration _ _ => .isTrue trivial
  | .expireInactive _ _ => .isTrue trivial

/-- The label that a telemetry leaves. -/
lemma telemetryRole_same {devices : DeviceRegistry} {record : DeviceRecord} {telemetry : Telemetry}
    (h : record.dcdwLabel = none → ∀ label ∈ telemetry.dcdwLabel,
      ∃ owner ∈ devices.roles.lookup (record.schoolId, label), owner ≠ record.deviceId) :
    (devices.telemetryRole record telemetry).label = record.dcdwLabel := by
  rw [DeviceRegistry.telemetryRole]
  split
  · next label hnone hlabel =>
      obtain ⟨owner, howner, hne⟩ := h hnone label hlabel
      rw [DeviceRegistry.claimRole, howner]
      dsimp only
      rw [if_pos hne]
  · rfl

lemma applyTelemetry_typed {devices : DeviceRegistry} {telemetry : Telemetry}
    {receivedAt : TimePoint} {mutation : Mutation} {record : DeviceRecord}
    (h : devices.applyTelemetry deviceId telemetry receivedAt = (.ok mutation, registry'))
    (hrecord : devices.find deviceId = some record) :
    DeviceRegistry.mistypes record telemetry = false := by
  rw [DeviceRegistry.applyTelemetry] at h
  rw [show devices.records.lookup deviceId = some record from hrecord] at h
  dsimp only at h
  split at h
  · cases h
  · next htyped => exact Bool.eq_false_iff.mpr htyped

lemma telemetry_leaves (hkeys : RolesIndexed s.registry) {telemetry : Telemetry}
    {receivedAt : TimePoint} {mutation : Mutation} {record : DeviceRecord}
    (h : s.registry.applyTelemetry deviceId telemetry receivedAt = (.ok mutation, registry'))
    (hrecord : s.registry.find deviceId = some record)
    (hseen : record.status = .online → (s.dirty.fieldOf deviceId .status).dirtyRevision ≠ 0 ∨
      record.lastSeenAt.map toUnixMicroseconds = some (toUnixMicroseconds receivedAt))
    (hlabel : record.dcdwLabel = none → ∀ label ∈ telemetry.dcdwLabel,
      (s.dirty.fieldOf deviceId .metadata).dirtyRevision ≠ 0 ∨
        ∃ owner ∈ s.registry.roles.lookup (record.schoolId, label), owner ≠ deviceId)
    (field : DeviceField) : mutation.Leaves s.book record field := by
  obtain ⟨found, hfound, hmutation, hreason, hchanged⟩ := applyTelemetry_ok h
  rw [hrecord, Option.some_inj] at hfound
  subst hfound
  have hid : record.deviceId = deviceId := hkeys.ids deviceId record hrecord
  cases field with
  | metadata =>
      by_cases hawaits : (s.dirty.fieldOf deviceId .metadata).dirtyRevision ≠ 0
      · exact .inr (.inr (.inl (hid ▸ hawaits)))
      · refine .inr (.inl ?_)
        have hsame := @telemetryRole_same s.registry record telemetry fun hnone label hmem =>
          hid ▸ (hlabel hnone label hmem).resolve_left hawaits
        rw [hmutation]
        simp only [DeviceRecord.stored, DeviceRegistry.reported, hsame]
  | status =>
      by_cases honline : record.status = .online
      · rcases hseen honline with hawaits | hsame
        · exact .inr (.inr (.inl (hid ▸ hawaits)))
        · refine .inr (.inl ?_)
          rw [hmutation]
          simp only [DeviceRecord.stored, DeviceRegistry.reported, Option.map_some, honline, hsame]
      · refine .inl (markedWrite_status ?_)
        rw [hchanged]
        exact decide_eq_true honline
  | telemetry => exact .inl (decide_eq_true hreason)

lemma handleMessage_advances (hkeys : RolesIndexed s.registry) {inbound : InboundMessage}
    (hselects : ∀ op ∈ s.messageRegistryInputs cfg inbound, s.SelectsReport op)
    (now : TimePoint) {found : DeviceRecord}
    (hfound : (s.handleMessage cfg inbound now).registry.find deviceId = some found) :
    ∃ old, s.registry.find deviceId = some old ∧
      Advances (s.handleMessage cfg inbound now).book old found := by
  rw [messageRegistryInputs] at hselects
  rw [DeviceService.handleMessage] at hfound ⊢
  split at hfound
  · exact ⟨found, hfound, .inl rfl⟩
  · split at hfound
    · exact ⟨found, hfound, .inl rfl⟩
    · rw [handleRegistration] at hfound ⊢
      split at hfound
      · refine ⟨found, ?_, .inl rfl⟩
        rw [(awaitProvision_sameRecords s _ _ _).registry] at hfound
        exact hfound
      · exact applyReport_advances (fun mutation registry' hok => registration_leaves hkeys hok)
          now hfound
  · next reporter htopic =>
      rw [htopic] at hselects
      dsimp only at hselects
      split at hfound
      · exact ⟨found, hfound, .inl rfl⟩
      · next telemetry hparsed =>
          rw [hparsed] at hselects
          refine applyReport_advances (fun mutation registry' hok => ?_) now hfound
          obtain ⟨record, hrecord, hmutation, -⟩ := applyTelemetry_ok hok
          have hnext : NextRecord record mutation.record := hmutation ▸ reported_next _ _ _ _
          obtain ⟨hseen, hlabel⟩ := hselects _ List.mem_cons_self record hrecord
            (applyTelemetry_typed hok hrecord)
          refine ⟨applyTelemetry_changed hok, record, ?_, hnext,
            telemetry_leaves hkeys hok hrecord hseen hlabel⟩
          rw [hnext.deviceId, hkeys.ids _ record hrecord]
          exact hrecord

/-- A provisioned record is let in, and its pending registration applied, or nothing
happens. -/
lemma handleProvisioned_cases (s : DeviceService) (answeredId : String) (record : DeviceRecord)
    (now : TimePoint) :
    ((s.handleProvisioned answeredId record now).registry = s.registry ∧
        (s.handleProvisioned answeredId record now).book = s.book) ∨
      ∃ candidate added, s.registry.addProvisioned record = (.ok (), added) ∧
        (s.handleProvisioned answeredId record now).registry =
          (applyPending { s with
            registry := added
            pending := s.pending.erase answeredId } candidate now).registry ∧
        (s.handleProvisioned answeredId record now).book =
          (applyPending { s with
            registry := added
            pending := s.pending.erase answeredId } candidate now).book := by
  rw [handleProvisioned]
  split
  · exact .inl ⟨rfl, rfl⟩
  next candidate _ =>
  split
  · split
    · exact .inl ⟨rfl, rfl⟩
    · exact .inl ⟨rfl, rfl⟩
  · next added hadded =>
      refine .inr ⟨candidate, added, hadded, ?_⟩
      dsimp only
      split
      · exact ⟨rfl, rfl⟩
      · exact ⟨rfl, rfl⟩

/-- The pending registration selects all it changes. -/
lemma applyPending_advances (hkeys : RolesIndexed s.registry) (candidate : PendingRegistration)
    (now : TimePoint) {found : DeviceRecord}
    (hfound : (s.applyPending candidate now).registry.find deviceId = some found) :
    ∃ old, s.registry.find deviceId = some old ∧
      Advances (s.applyPending candidate now).book old found := by
  have happlied : s.applyPending candidate now =
      s.applyReport (s.registry.applyRegistration candidate.registration candidate.receivedAt)
        now := rfl
  rw [happlied] at hfound ⊢
  exact applyReport_advances (fun mutation registry' hok => registration_leaves hkeys hok) now
    hfound

/-- A device that comes in has the provisioned record before its registration. -/
lemma handleProvisioned_advances (hreach : registryMachine.Reachable s.registry)
    (answeredId : String) (record : DeviceRecord) (now : TimePoint) {found : DeviceRecord}
    (hfound : (s.handleProvisioned answeredId record now).registry.find deviceId = some found) :
    (∃ old, s.registry.find deviceId = some old ∧
        Advances (s.handleProvisioned answeredId record now).book old found) ∨
      s.registry.find deviceId = none ∧ record.deviceId = deviceId ∧
        Advances (s.handleProvisioned answeredId record now).book record found := by
  rcases handleProvisioned_cases s answeredId record now with
    ⟨hregistry, -⟩ | ⟨candidate, added, hadded, hregistry, hbook⟩
  · rw [hregistry] at hfound
    exact .inl ⟨found, hfound, .inl rfl⟩
  · have hreach' : registryMachine.Reachable added := by
      have hnext : registryMachine.Reachable (s.registry.addProvisioned record).2 :=
        .step (m := registryMachine) (i := .addProvisioned record) hreach trivial
      rw [hadded] at hnext
      exact hnext
    have hchanged := addProvisioned_changed hadded
    rw [hregistry] at hfound
    rw [hbook]
    obtain ⟨old, hold, hadvances⟩ := @applyPending_advances { s with
      registry := added
      pending := s.pending.erase answeredId } deviceId (reachable_rolesIndexed hreach') candidate
        now found hfound
    by_cases hid : deviceId = record.deviceId
    · subst hid
      obtain rfl : record = old := Option.some_inj.mp (hchanged.found.symm.trans hold)
      exact .inr ⟨addProvisioned_new hadded, rfl, hadvances⟩
    · exact .inl ⟨old, hchanged.others deviceId hid ▸ hold, hadvances⟩

/-- The silent devices are marked. -/
lemma scan_advances (hkeys : RolesIndexed s.registry) {now systemNow : TimePoint}
    {mutations : List Mutation} {markedAt : String → TimePoint}
    (henabled : (DeviceInput.scan now systemNow mutations markedAt).Enabled cfg s)
    (hdated : s.dirty.Dated) (hkeyed : EntriesKeyed s.dirty) {found : DeviceRecord}
    (hfound : (s.scan cfg now systemNow mutations markedAt).registry.find deviceId = some found) :
    ∃ old, s.registry.find deviceId = some old ∧
      Advances (s.scan cfg now systemNow mutations markedAt).book old found := by
  by_cases hdue : s.scanDue now = true
  · have hregistry : (s.scan cfg now systemNow mutations markedAt).registry =
        (s.registry.expireInactive systemNow cfg.offlineTimeout).2 := by
      rw [scan, if_pos hdue, foldl_mark_registry]
    rw [hregistry] at hfound
    obtain ⟨old, hold, hrecord⟩ := Option.map_eq_some_iff.mp
      ((Map.lookup_mapValues _ s.registry.records deviceId).symm.trans hfound)
    have hid : old.deviceId = deviceId := hkeys.ids deviceId old hold
    refine ⟨old, hold, ?_⟩
    split at hrecord
    · next hinactive =>
        have hmem : (⟨DeviceRegistry.expired old, .activityTimeout, true, none⟩ : Mutation) ∈
            s.scanMutations cfg now systemNow := by
          rw [scanMutations, if_pos hdue]
          exact List.mem_map.mpr ⟨old, List.mem_filter.mpr
            ⟨Map.mem_values.mpr ⟨deviceId, hold⟩, hinactive⟩, rfl⟩
        have hmarked : ∀ field, (markedWrite ⟨DeviceRegistry.expired old, .activityTimeout, true,
            none⟩).selects field = true →
            (s.scan cfg now systemNow mutations markedAt).book.Awaits old.deviceId field := by
          intro field hselects
          have hmark : MarksGroup cfg s (.scan now systemNow mutations markedAt) old.deviceId
              field := by
            refine ⟨(_, markedAt old.deviceId), ?_, rfl, hselects, Nat.succ_ne_zero _⟩
            simp only [DeviceInput.marks]
            rw [if_pos hdue]
            exact List.mem_map.mpr ⟨_, henabled.2.mem_iff.mpr hmem, rfl⟩
          rcases awaits_apply henabled rfl hdated hkeyed (.inr hmark) with
            hawaits | ⟨now, hwrite, -⟩
          · exact hawaits
          · cases hwrite
        have hleaves : ∀ field, Mutation.Leaves s.book old
            ⟨DeviceRegistry.expired old, .activityTimeout, true, none⟩ field := by
          refine leaves_of_reason ?_ ?_ s.book
          · exact ChangeReason.noConfusion
          · rfl
        rw [← hrecord]
        refine Mutation.Leaves.advances hleaves (expired_next old) (fun field hawaits => ?_) hmarked
        rcases awaits_apply henabled rfl hdated hkeyed (.inl hawaits) with
          hafter | ⟨now, hwrite, -⟩
        · exact hafter
        · cases hwrite
    · exact .inl hrecord.symm
  · have hregistry : (s.scan cfg now systemNow mutations markedAt).registry = s.registry := by
      rw [scan, if_neg hdue]
    rw [hregistry] at hfound
    exact ⟨found, hfound, .inl rfl⟩

/-- **Whatever changes in a record is awaited**, and a device that comes in has the record of
the result first. -/
theorem service_advances {input : DeviceInput} (henabled : input.Enabled cfg s)
    (hselects : ∀ op ∈ input.registryInputs cfg s, s.SelectsReport op)
    (hreach : registryMachine.Reachable s.registry) (hdated : s.dirty.Dated)
    (hkeyed : EntriesKeyed s.dirty) {found : DeviceRecord}
    (hfound : (input.apply cfg s).registry.find deviceId = some found) :
    (∃ old, s.registry.find deviceId = some old ∧
        Advances (input.apply cfg s).book old found) ∨
      ∃ answer record, input.answer? = some answer ∧ answer.provisioned = some record ∧
        s.registry.find deviceId = none ∧ record.deviceId = deviceId ∧
          Advances (input.apply cfg s).book record found := by
  have hkeys := reachable_rolesIndexed hreach
  have hsame : input.registryInputs cfg s = [] → ∃ old, s.registry.find deviceId = some old ∧
      Advances (input.apply cfg s).book old found := by
    intro hnone
    rw [registry_next, hnone] at hfound
    exact ⟨found, hfound, .inl rfl⟩
  cases input with
  | result answer writes now =>
      by_cases hkind : answer.kind = .provisioned ∧ ∃ record, answer.provisioned = some record
      · obtain ⟨hkind, record, hrecord⟩ := hkind
        have happly : (DeviceInput.result answer writes now).apply cfg s =
            s.handleProvisioned answer.deviceId record now := by
          simp only [DeviceInput.apply, handleResult, hkind, hrecord]
        rw [happly] at hfound ⊢
        exact (handleProvisioned_advances hreach _ record now hfound).imp_right
          fun hnew => ⟨answer, record, rfl, hrecord, hnew⟩
      · refine .inl (hsame ?_)
        simp only [DeviceInput.registryInputs, resultRegistryInputs]
        split
        · next record candidate hanswer hrecord _ =>
            exact absurd ⟨hanswer, record, hrecord⟩ hkind
        · rfl
  | message inbound now =>
      exact .inl (handleMessage_advances hkeys hselects now hfound)
  | scan now systemNow mutations markedAt =>
      exact .inl (scan_advances hkeys henabled hdated hkeyed hfound)
  | _ => exact .inl (hsame rfl)

end

end CnsServer
