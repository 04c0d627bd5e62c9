/-
What the write book knows of the writes in flight.

* `Takes`: what may happen to the book of an undisturbed service, which never submits a
  write over one that writes more columns;
* `WriteBook.OnItsWay`: a field that is in flight belongs to a write that has been taken,
  or to the last one submitted of its device;
* `WriteBook.InOrder`: this holds of every field in flight, every entry has work, and the
  status a log line waits for is dirty or in flight; one lemma for each call;
* `InOrder.next`: **a call leaves the book in order**;
* `InOrder.settled`: with nothing dirty, nothing taken and nothing submitted, it is empty.
-/
import CnsServer.Invariants.WriteBook

namespace CnsServer

open DeviceService

/-! ### The fields -/

namespace FieldState

/-- The field is to be written under this revision or a newer one, or is on its way
under it. -/
def Has (field : FieldState) (revision : ℕ) : Prop :=
  (field.dirtyRevision ≠ 0 ∧ revision ≤ field.dirtyRevision) ∨
    (field.inFlightRevision ≠ 0 ∧ revision ≤ field.inFlightRevision)

lemma Has.mark {field : FieldState} {revision : ℕ} (h : field.Has revision) (selected : Bool)
    (marked : ℕ) : (field.mark selected marked).Has revision := by
  have hle := le_mark_dirtyRevision field selected marked
  rcases h with ⟨hdirty, hrevision⟩ | ⟨hflying, hrevision⟩
  · exact .inl ⟨by omega, hrevision.trans hle⟩
  · refine .inr ?_
    rw [mark_inFlightRevision]
    exact ⟨hflying, hrevision⟩

/-- A field that is marked has the revision it is marked with. -/
lemma has_marked (field : FieldState) {revision : ℕ} (hrevision : revision ≠ 0) :
    (field.mark true revision).Has revision := by
  have hle : revision ≤ max field.dirtyRevision revision := le_max_right _ _
  rw [FieldState.mark, if_pos rfl]
  exact .inl ⟨(Nat.lt_of_lt_of_le (Nat.pos_of_ne_zero hrevision) hle).ne', hle⟩

lemma Has.dispatch {field : FieldState} {revision : ℕ} (h : field.Has revision) :
    field.dispatch.Has revision := by
  have hflying : field.inFlightRevision ≤ field.dispatch.inFlightRevision := le_max_left _ _
  have hdirty : field.dirtyRevision ≤ field.dispatch.inFlightRevision := le_max_right _ _
  rcases h with ⟨hpositive, hrevision⟩ | ⟨hpositive, hrevision⟩
  · exact .inr ⟨by omega, hrevision.trans hdirty⟩
  · exact .inr ⟨by omega, hrevision.trans hflying⟩

end FieldState

/-! ### The book in order -/

namespace WriteBook

/-- The revision under which a field is in flight. -/
def flying (b : WriteBook) (deviceId : String) (field : DeviceField) : ℕ :=
  (b.dirty.fieldOf deviceId field).inFlightRevision

/-- The field in flight belongs to a write that has been taken, or to the last one that
has been submitted of the device. -/
def OnItsWay (b : WriteBook) (deviceId : String) (field : DeviceField) : Prop :=
  ∃ write, write.selects field = true ∧ b.flying deviceId field ≤ write.revision ∧
    ((write ∈ b.staged ∧ write.record.deviceId = deviceId) ∨
      b.submitted.lookup deviceId = some write)

end WriteBook

/-- Nothing in an entry is newer than the entry. -/
def DirtyEntry.Bounded (entry : DirtyEntry) : Prop :=
  ∀ field, (entry.field field).dirtyRevision ≤ entry.revision ∧
    (entry.field field).inFlightRevision ≤ entry.revision

/-- The book is in order. -/
structure WriteBook.InOrder (b : WriteBook) : Prop where
  entries : ∀ deviceId entry, b.dirty.entries.lookup deviceId = some entry →
    entry.Bounded ∧ entry.hasWork = true
  staged : ∀ write ∈ b.staged, ∀ field, b.flying write.record.deviceId field ≤ write.revision
  submitted : ∀ deviceId write, b.submitted.lookup deviceId = some write →
    write.record.deviceId = deviceId
  flights : ∀ deviceId field, b.flying deviceId field ≠ 0 → b.OnItsWay deviceId field
  logs : ∀ deviceId log, b.logs.lookup deviceId = some log →
    (b.dirty.fieldOf deviceId .status).Has log.revision

/-- What may happen to the book of an undisturbed service. A write is submitted, and
accepted, only if it writes all that the last submitted one of its device does, if that is
still on its way. -/
def WriteBook.Takes (b : WriteBook) : BookCall → Prop
  | .mark mutation _ => mutation.record.revision ≠ 0
  | .take take writes => b.staged = [] ∧ writes.Perm (b.dirty.takeMatching take).1 ∧
      EntriesKeyed b.dirty
  | .submit outcome _ => outcome = .accepted ∧ ∀ write ∈ b.staged.head?,
      ∀ before ∈ b.submitted.lookup write.record.deviceId,
        ∀ field, before.selects field = true → write.selects field = true
  | .completed _ _ => b.staged = []
  | _ => False

section

variable {b : WriteBook} {dirty : DirtyState} {entry : DirtyEntry} {write : DesiredDeviceWrite}

/-! ### Marks -/

lemma DirtyEntry.Bounded.receive (h : ∀ entry ∈ dirty.entries.lookup write.record.deviceId,
    entry.Bounded) (now : TimePoint) :
    (DirtyEntry.receive (dirty.entries.lookup write.record.deviceId) write now).Bounded := by
  intro field
  rw [DirtyState.receive_field]
  cases hentry : dirty.entries.lookup write.record.deviceId with
  | none =>
      rw [DirtyState.fieldOf, hentry]
      exact ⟨Nat.zero_le _, Nat.zero_le _⟩
  | some entry =>
      obtain ⟨record, hreceive⟩ := DirtyEntry.receive_some entry write now
      obtain ⟨hdirty, hflying⟩ := h entry hentry field
      rw [DirtyState.fieldOf_eq hentry, hreceive]
      exact ⟨hdirty.trans (le_max_left _ _), hflying.trans (le_max_left _ _)⟩

lemma DirtyEntry.Bounded.mark (h : entry.Bounded) (hrevision : write.revision ≤ entry.revision)
    (markedAt : TimePoint) : (entry.mark write markedAt).Bounded := by
  intro field
  obtain ⟨hdirty, hflying⟩ := h field
  rw [DirtyEntry.mark_field, FieldState.mark_inFlightRevision]
  exact ⟨FieldState.mark_dirtyRevision_le hdirty hrevision, hflying⟩

/-- An entry that has been marked has work. -/
lemma mark_hasWork {field : DeviceField} (hselected : write.selects field = true)
    (hrevision : write.revision ≠ 0) (markedAt : TimePoint) :
    (entry.mark write markedAt).hasWork = true := by
  refine DirtyEntry.hasWork_of_dirty field ?_
  rw [DirtyEntry.mark_field, hselected, FieldState.mark, if_pos rfl]
  exact (Nat.lt_of_lt_of_le (Nat.pos_of_ne_zero hrevision) (le_max_right _ _)).ne'

/-- Every mutation is marked for some field. -/
lemma markedWrite_selects (mutation : Mutation) :
    ∃ field, (markedWrite mutation).selects field = true := by
  by_cases hreason : mutation.reason = .telemetry
  · exact ⟨.telemetry, decide_eq_true hreason⟩
  · exact ⟨.metadata, decide_eq_true hreason⟩

/-- A changed status is marked. -/
lemma markedWrite_status {mutation : Mutation} (h : mutation.statusChanged = true) :
    (markedWrite mutation).selects .status = true := by
  show (decide (mutation.reason ≠ .telemetry) || mutation.statusChanged) = true
  rw [h, Bool.or_true]

lemma flying_mark (mutation : Mutation) (markedAt : TimePoint) (deviceId : String)
    (field : DeviceField) :
    (b.next (.mark mutation markedAt)).flying deviceId field = b.flying deviceId field := by
  show ((b.dirty.mark (markedWrite mutation) markedAt).fieldOf deviceId field).inFlightRevision = _
  rw [DirtyState.fieldOf_mark]
  split
  · exact FieldState.mark_inFlightRevision _ _ _
  · rfl

namespace WriteBook.InOrder

/-- The status of a new log line is dirty. -/
lemma logs_mark (h : b.InOrder) (mutation : Mutation) (hrevision : mutation.record.revision ≠ 0)
    (markedAt : TimePoint) : ∀ deviceId log,
      (b.next (.mark mutation markedAt)).logs.lookup deviceId = some log →
        ((b.next (.mark mutation markedAt)).dirty.fieldOf deviceId .status).Has log.revision := by
  intro deviceId log hlog
  have hfield := DirtyState.fieldOf_mark b.dirty (markedWrite mutation) markedAt deviceId .status
  have hbefore : ∀ log, b.logs.lookup deviceId = some log →
      ((b.next (.mark mutation markedAt)).dirty.fieldOf deviceId .status).Has log.revision := by
    intro log hlog
    refine Eq.subst (motive := fun field : FieldState => field.Has log.revision) hfield.symm ?_
    split
    · exact (h.logs deviceId log hlog).mark _ _
    · exact h.logs deviceId log hlog
  rw [WriteBook.next] at hlog
  dsimp only at hlog
  split at hlog
  · next hchanged =>
      rcases Map.lookup_insert_some.mp hlog with ⟨hid, rfl⟩ | ⟨-, hlog⟩
      · rw [if_pos (show deviceId = (markedWrite mutation).record.deviceId from hid),
          markedWrite_status hchanged] at hfield
        exact Eq.subst (motive := fun field : FieldState => field.Has _) hfield.symm
          (FieldState.has_marked _ hrevision)
      · exact hbefore log hlog
  · exact hbefore log hlog

/-- A mutation is marked. -/
lemma mark (h : b.InOrder) {mutation : Mutation} (hrevision : mutation.record.revision ≠ 0)
    (markedAt : TimePoint) : (b.next (.mark mutation markedAt)).InOrder := by
  have hflying := @flying_mark b mutation markedAt
  refine ⟨fun deviceId entry hentry => ?_, fun write hmem field => ?_, h.submitted,
    fun deviceId field hne => ?_, fun deviceId log hlog => ?_⟩
  · rw [WriteBook.next, DirtyState.lookup_mark] at hentry
    split at hentry
    · obtain ⟨field, hselected⟩ := markedWrite_selects mutation
      have hreceived := @DirtyEntry.Bounded.receive b.dirty (markedWrite mutation)
        (fun entry hentry => (h.entries _ entry hentry).1) markedAt
      rw [Option.some_inj] at hentry
      next hid =>
        rw [hid] at hentry
        rw [← hentry]
        exact ⟨hreceived.mark (DirtyEntry.le_receive_revision _ _ _) markedAt,
          mark_hasWork hselected hrevision markedAt⟩
    · exact h.entries deviceId entry hentry
  · rw [hflying]
    exact h.staged write hmem field
  · rw [hflying] at hne
    obtain ⟨write, hselects, hle, hwhere⟩ := h.flights deviceId field hne
    refine ⟨write, hselects, ?_, hwhere⟩
    rw [hflying]
    exact hle
  · exact (logs_mark h mutation hrevision markedAt) deviceId log hlog

end WriteBook.InOrder

/-! ### Takes -/

/-- The fields of an entry after a take. -/
lemma fieldOf_taken (take : DirtyState.Take) {deviceId : String}
    (hentry : dirty.entries.lookup deviceId = some entry) (field : DeviceField) :
    (dirty.takeMatching take).2.fieldOf deviceId field =
      if take.due entry then (entry.field field).dispatch else entry.field field := by
  rw [DirtyState.fieldOf, DirtyState.lookup_takeMatching, hentry, Option.map_some]
  dsimp only
  split
  · exact DirtyEntry.dispatched_field entry field
  · rfl

/-- A field that has a revision belongs to an entry. -/
lemma lookup_of_fieldOf (dirty : DirtyState) (deviceId : String) (field : DeviceField)
    (h : dirty.fieldOf deviceId field ≠ {}) :
    ∃ entry, dirty.entries.lookup deviceId = some entry := by
  cases hentry : dirty.entries.lookup deviceId with
  | some entry => exact ⟨entry, rfl⟩
  | none =>
      rw [DirtyState.fieldOf, hentry] at h
      exact absurd rfl h

/-- A device without an entry has none after a take. -/
lemma lookup_of_flying {take : DirtyState.Take} {writes : List DesiredDeviceWrite}
    {deviceId : String} {field : DeviceField}
    (h : (b.next (.take take writes)).flying deviceId field ≠ 0) :
    ∃ entry, b.dirty.entries.lookup deviceId = some entry := by
  obtain ⟨found, hfound⟩ := lookup_of_fieldOf (b.dirty.takeMatching take).2 deviceId field
    fun hnone => h (congrArg FieldState.inFlightRevision hnone)
  rw [DirtyState.lookup_takeMatching] at hfound
  obtain ⟨entry, hentry, -⟩ := Option.map_eq_some_iff.mp hfound
  exact ⟨entry, hentry⟩

/-- What is in flight after a take is not newer than its entry. -/
lemma flying_taken_le (take : DirtyState.Take) (writes : List DesiredDeviceWrite)
    (hbounded : entry.Bounded) {deviceId : String}
    (hentry : b.dirty.entries.lookup deviceId = some entry) (field : DeviceField) :
    (b.next (.take take writes)).flying deviceId field ≤ entry.revision := by
  obtain ⟨hdirty, hflying⟩ := hbounded field
  show ((b.dirty.takeMatching take).2.fieldOf deviceId field).inFlightRevision ≤ entry.revision
  rw [fieldOf_taken take hentry]
  split
  · exact max_le hflying hdirty
  · exact hflying

/-- An entry that is taken is in flight. -/
lemma dispatched_hasWork (h : entry.hasDirty = true) : entry.dispatched.hasWork = true := by
  obtain ⟨field, hdirty⟩ := DirtyEntry.field_of_hasDirty h
  refine DirtyEntry.hasWork_of_flying field ?_
  rw [DirtyEntry.dispatched_field]
  exact (Nat.lt_of_lt_of_le (Nat.pos_of_ne_zero hdirty) (le_max_right _ _)).ne'

lemma DirtyEntry.Bounded.dispatched (h : entry.Bounded) : entry.dispatched.Bounded := by
  intro field
  obtain ⟨hdirty, hflying⟩ := h field
  rw [DirtyEntry.dispatched_field]
  exact ⟨Nat.zero_le _, max_le hflying hdirty⟩

namespace WriteBook.InOrder

/-- What is in flight of an entry belongs to the write that has been taken for it, or to
the one that was submitted before. -/
lemma flights_take (h : b.InOrder) {take : DirtyState.Take} {writes : List DesiredDeviceWrite}
    (hstaged : b.staged = []) (hwrites : writes.Perm (b.dirty.takeMatching take).1)
    (hkeyed : EntriesKeyed b.dirty) : ∀ deviceId field,
      (b.next (.take take writes)).flying deviceId field ≠ 0 →
        (b.next (.take take writes)).OnItsWay deviceId field := by
  intro deviceId field hne
  obtain ⟨entry, hentry⟩ := lookup_of_flying hne
  have hle := flying_taken_le take writes (h.entries _ _ hentry).1 hentry field
  have hfield := fieldOf_taken take hentry field
  by_cases hnew : take.due entry = true ∧ (entry.field field).dirtyRevision ≠ 0
  · refine ⟨entry.toWrite, ?_, hle, .inl ⟨hwrites.mem_iff.mpr ?_, hkeyed deviceId entry hentry⟩⟩
    · rw [DirtyEntry.toWrite_selects]
      exact decide_eq_true hnew.2
    · exact DirtyState.toWrite_mem hentry hnew.1
  · have hsame : (b.next (.take take writes)).flying deviceId field = b.flying deviceId field := by
      show ((b.dirty.takeMatching take).2.fieldOf deviceId field).inFlightRevision = _
      rw [hfield, WriteBook.flying, DirtyState.fieldOf_eq hentry]
      split
      · next hdue =>
          have hclean : (entry.field field).dirtyRevision = 0 := by
            by_contra hdirty
            exact hnew ⟨hdue, hdirty⟩
          rw [FieldState.dispatch, hclean]
          exact Nat.max_zero _
      · rfl
    rw [hsame] at hne
    obtain ⟨write, hselects, hbound, ⟨hmem, -⟩ | hsubmitted⟩ := h.flights deviceId field hne
    · rw [hstaged] at hmem
      cases hmem
    · exact ⟨write, hselects, hsame ▸ hbound, .inr hsubmitted⟩

/-- Writes are taken. -/
lemma take (h : b.InOrder) {take : DirtyState.Take} {writes : List DesiredDeviceWrite}
    (hstaged : b.staged = []) (hwrites : writes.Perm (b.dirty.takeMatching take).1)
    (hkeyed : EntriesKeyed b.dirty) : (b.next (.take take writes)).InOrder := by
  refine ⟨fun deviceId found hfound => ?_, fun write hmem field => ?_, h.submitted,
    h.flights_take hstaged hwrites hkeyed, fun deviceId log hlog => ?_⟩
  · rw [WriteBook.next, DirtyState.lookup_takeMatching] at hfound
    obtain ⟨entry, hentry, rfl⟩ := Option.map_eq_some_iff.mp hfound
    obtain ⟨hbounded, hwork⟩ := h.entries deviceId entry hentry
    split
    · next hdue =>
        have hdirty : entry.hasDirty = true := (Bool.and_eq_true_iff.mp hdue).1
        exact ⟨hbounded.dispatched, dispatched_hasWork hdirty⟩
    · exact ⟨hbounded, hwork⟩
  · obtain ⟨deviceId, entry, hentry, -, rfl⟩ :=
      DirtyState.mem_takeMatching (hwrites.mem_iff.mp hmem)
    rw [show entry.toWrite.record.deviceId = deviceId from hkeyed deviceId entry hentry]
    exact flying_taken_le take writes (h.entries _ _ hentry).1 hentry field
  · have hhas := h.logs deviceId log hlog
    obtain ⟨entry, hentry⟩ := lookup_of_fieldOf b.dirty deviceId .status fun hnone => by
      rw [hnone] at hhas
      rcases hhas with ⟨hzero, -⟩ | ⟨hzero, -⟩
      · exact hzero rfl
      · exact hzero rfl
    rw [DirtyState.fieldOf_eq hentry] at hhas
    show ((b.dirty.takeMatching take).2.fieldOf deviceId .status).Has log.revision
    rw [fieldOf_taken take hentry]
    split
    · exact hhas.dispatch
    · exact hhas

/-! ### Submissions -/

/-- A write is submitted that writes all that the one before it does. -/
lemma submit (h : b.InOrder) {write : DesiredDeviceWrite} {staged : List DesiredDeviceWrite}
    (hstaged : b.staged = write :: staged)
    (hkept : ∀ before ∈ b.submitted.lookup write.record.deviceId,
      ∀ field, before.selects field = true → write.selects field = true) (now : TimePoint) :
    (b.next (.submit .accepted now)).InOrder := by
  have hnext : b.next (.submit .accepted now) =
      { b with
        staged := staged
        submitted := b.submitted.insert write.record.deviceId write } := by
    simp only [WriteBook.next, hstaged, if_true]
  rw [hnext]
  refine ⟨h.entries, fun other hmem => ?_, fun deviceId other hother => ?_,
    fun deviceId field hne => ?_, h.logs⟩
  · exact h.staged other (hstaged ▸ List.mem_cons_of_mem _ hmem)
  · rcases Map.lookup_insert_some.mp hother with ⟨rfl, rfl⟩ | ⟨-, hbefore⟩
    · rfl
    · exact h.submitted deviceId other hbefore
  · have hself := h.staged write (hstaged ▸ List.mem_cons_self) field
    obtain ⟨other, hselects, hle, ⟨hmem, hid⟩ | hsubmitted⟩ := h.flights deviceId field hne
    · rw [hstaged] at hmem
      rcases List.mem_cons.mp hmem with rfl | hmem
      · refine ⟨other, hselects, hle, .inr ?_⟩
        rw [← hid]
        exact AList.lookup_insert _
      · exact ⟨other, hselects, hle, .inl ⟨hmem, hid⟩⟩
    · by_cases hid : deviceId = write.record.deviceId
      · -- the write before it is forgotten, but not its fields
        subst hid
        exact ⟨write, hkept other hsubmitted field hselects, hself, .inr (AList.lookup_insert _)⟩
      · exact ⟨other, hselects, hle, .inr ((AList.lookup_insert_ne hid).trans hsubmitted)⟩

/-! ### Completions -/

/-- The book once the submitted write of a device is complete. -/
lemma next_completed {deviceId : String} {revision : ℕ}
    (hwrite : b.submitted.lookup deviceId = some write) (hrevision : write.revision ≤ revision) :
    b.next (.completed deviceId revision) =
      { b with
        dirty := b.dirty.complete write
        submitted := b.submitted.erase deviceId
        logs := WriteBook.report b.logs deviceId revision write } := by
  simp only [WriteBook.next, hwrite, if_pos hrevision]

/-- The submitted write of a device writes all that is in flight of it. -/
lemma landed (h : b.InOrder) (hstaged : b.staged = []) {deviceId : String}
    (hwrite : b.submitted.lookup deviceId = some write) (field : DeviceField) :
    b.flying deviceId field = 0 ∨
      (write.selects field = true ∧ b.flying deviceId field ≤ write.revision) := by
  by_cases hzero : b.flying deviceId field = 0
  · exact .inl hzero
  · obtain ⟨other, hselects, hle, ⟨hmem, -⟩ | hsubmitted⟩ := h.flights deviceId field hzero
    · rw [hstaged] at hmem
      cases hmem
    · rw [hwrite, Option.some_inj] at hsubmitted
      rw [hsubmitted]
      exact .inr ⟨hselects, hle⟩

/-- Nothing of the device is in flight any more. -/
lemma flying_complete (h : b.InOrder) (hstaged : b.staged = []) {deviceId : String}
    (hwrite : b.submitted.lookup deviceId = some write) (other : String) (field : DeviceField) :
    ((b.dirty.complete write).fieldOf other field).inFlightRevision =
      if other = deviceId then 0 else b.flying other field := by
  have hid := h.submitted deviceId write hwrite
  rw [DirtyState.fieldOf_complete, hid]
  split
  · next hsame =>
      rw [hsame]
      rcases h.landed hstaged hwrite field with hzero | ⟨hselects, hle⟩
      · refine Nat.le_zero.mp ?_
        calc ((b.dirty.fieldOf deviceId field).complete _ _).inFlightRevision
            ≤ b.flying deviceId field := FieldState.complete_inFlightRevision_le _ _ _
          _ = 0 := hzero
      · rw [hselects]
        exact FieldState.complete_landed hle
  · rfl

lemma entries_complete (h : b.InOrder) (write : DesiredDeviceWrite) : ∀ deviceId entry,
    (b.dirty.complete write).entries.lookup deviceId = some entry →
      entry.Bounded ∧ entry.hasWork = true := by
  intro deviceId found hfound
  rw [DirtyState.lookup_complete] at hfound
  split at hfound
  · obtain ⟨entry, hentry, hkept⟩ := Option.bind_eq_some_iff.mp hfound
    split at hkept
    · next hwork =>
        rw [Option.some_inj] at hkept
        rw [← hkept]
        refine ⟨fun field => ?_, hwork⟩
        obtain ⟨hdirty, hflying⟩ := (h.entries deviceId entry hentry).1 field
        rw [DirtyEntry.complete_field, FieldState.complete_dirtyRevision]
        exact ⟨hdirty, (FieldState.complete_inFlightRevision_le _ _ _).trans hflying⟩
    · cases hkept
  · exact h.entries deviceId found hfound

/-- A log line that stays waits for a status that is still dirty. -/
lemma logs_complete (h : b.InOrder) (hstaged : b.staged = []) {deviceId : String} {revision : ℕ}
    (hwrite : b.submitted.lookup deviceId = some write) (hrevision : write.revision ≤ revision) :
    ∀ other log, (WriteBook.report b.logs deviceId revision write).lookup other = some log →
      ((b.dirty.complete write).fieldOf other .status).Has log.revision := by
  intro other log hlog
  have hid := h.submitted deviceId write hwrite
  have hdirty : ((b.dirty.complete write).fieldOf other .status).dirtyRevision =
      (b.dirty.fieldOf other .status).dirtyRevision := by
    rw [DirtyState.fieldOf_complete]
    split
    · exact FieldState.complete_dirtyRevision _ _ _
    · rfl
  have hflying := h.flying_complete hstaged hwrite other .status
  have hbefore : b.logs.lookup other = some log ∧
      (other = deviceId → ¬(log.revision ≤ revision ∧ write.writeStatus = true)) := by
    rw [WriteBook.report] at hlog
    split at hlog
    · next hnone =>
        refine ⟨hlog, fun hsame => ?_⟩
        rw [hsame, hnone] at hlog
        cases hlog
    · next found hfound =>
        split at hlog
        · obtain ⟨hne, hlog⟩ := Map.lookup_erase_some.mp hlog
          exact ⟨hlog, fun hsame => absurd hsame hne⟩
        · next hstays =>
            refine ⟨hlog, fun hsame => ?_⟩
            rw [hsame, hfound, Option.some_inj] at hlog
            rw [← hlog]
            simpa using hstays
  obtain ⟨hlog, hstays⟩ := hbefore
  rcases h.logs other log hlog with ⟨hpositive, hle⟩ | ⟨hpositive, hle⟩
  · refine .inl ?_
    rw [hdirty]
    exact ⟨hpositive, hle⟩
  · by_cases hsame : other = deviceId
    · rcases h.landed hstaged hwrite .status with hzero | ⟨hselects, hbound⟩
      · rw [hsame] at hpositive
        exact absurd hzero hpositive
      · rw [hsame] at hle
        exact absurd ⟨(hle.trans hbound).trans hrevision, hselects⟩ (hstays hsame)
    · rw [if_neg hsame] at hflying
      refine .inr ?_
      rw [hflying]
      exact ⟨hpositive, hle⟩

/-- A result reports the submitted write of a device, or nothing. -/
lemma completed (h : b.InOrder) (hstaged : b.staged = []) (deviceId : String) (revision : ℕ) :
    (b.next (.completed deviceId revision)).InOrder := by
  cases hwrite : b.submitted.lookup deviceId with
  | none =>
      simp only [WriteBook.next, hwrite]
      exact h
  | some write =>
      by_cases hrevision : write.revision ≤ revision
      · rw [next_completed hwrite hrevision]
        refine ⟨h.entries_complete write, ?_, fun other found hfound => ?_,
          fun other field hne => ?_, h.logs_complete hstaged hwrite hrevision⟩
        · rw [hstaged]
          exact List.forall_mem_nil _
        · exact h.submitted other found (Map.lookup_erase_some.mp hfound).2
        · have hflying := h.flying_complete hstaged hwrite other field
          rw [WriteBook.flying, hflying] at hne
          split at hne
          · exact absurd rfl hne
          next hother =>
          rw [if_neg hother] at hflying
          obtain ⟨found, hselects, hle, hwhere⟩ := h.flights other field hne
          refine ⟨found, hselects, hflying.trans_le hle, hwhere.imp id fun hsubmitted => ?_⟩
          exact Map.lookup_erase_some.mpr ⟨hother, hsubmitted⟩
      · simp only [WriteBook.next, hwrite, if_neg hrevision]
        exact h

/-! ### Every call -/

/-- **A call leaves the book in order.** -/
theorem next (h : b.InOrder) {call : BookCall} (htakes : b.Takes call) : (b.next call).InOrder := by
  cases call with
  | mark mutation markedAt => exact h.mark htakes markedAt
  | take take writes => exact h.take htakes.1 htakes.2.1 htakes.2.2
  | submit outcome now =>
      obtain ⟨rfl, hkept⟩ := htakes
      cases hstaged : b.staged with
      | nil =>
          simp only [WriteBook.next, hstaged]
          exact h
      | cons write staged =>
          exact h.submit hstaged (hkept write (by rw [hstaged]; rfl)) now
  | completed deviceId revision => exact h.completed htakes deviceId revision
  | replay writes => exact htakes.elim
  | failed deviceId => exact htakes.elim
  | cancelled => exact htakes.elim

/-- **The empty book**: with nothing dirty, nothing taken and nothing submitted, there is
no entry and no log line left. -/
theorem settled (h : b.InOrder) (hstaged : b.staged = [])
    (hsubmitted : ∀ deviceId, b.submitted.lookup deviceId = none)
    (hclean : ∀ deviceId field, (b.dirty.fieldOf deviceId field).dirtyRevision = 0)
    (deviceId : String) :
    b.dirty.entries.lookup deviceId = none ∧ b.logs.lookup deviceId = none := by
  have hlanded : ∀ field, b.flying deviceId field = 0 := by
    intro field
    by_contra hne
    obtain ⟨write, -, -, ⟨hmem, -⟩ | hwrite⟩ := h.flights deviceId field hne
    · rw [hstaged] at hmem
      cases hmem
    · rw [hsubmitted deviceId] at hwrite
      cases hwrite
  constructor
  · cases hentry : b.dirty.entries.lookup deviceId with
    | none => rfl
    | some entry =>
        obtain ⟨field, hdirty | hflying⟩ :=
          DirtyEntry.field_of_hasWork (h.entries deviceId entry hentry).2
        · exact absurd (DirtyState.fieldOf_eq hentry field ▸ hclean deviceId field) hdirty
        · exact absurd (DirtyState.fieldOf_eq hentry field ▸ hlanded field) hflying
  · cases hlog : b.logs.lookup deviceId with
    | none => rfl
    | some log =>
        rcases h.logs deviceId log hlog with ⟨hdirty, -⟩ | ⟨hflying, -⟩
        · exact absurd (hclean deviceId .status) hdirty
        · exact absurd (hlanded .status) hflying

end WriteBook.InOrder

end

end CnsServer
