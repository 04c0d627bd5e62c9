/-
No update is lost between the directory and the database.

* `dirtyMachine`: `DirtyState` under any sequence of marks and takes, and of
  completions and restorations of writes that were taken, with the history of all
  three;
* `Covered`: a revision of a field is dirty, in flight or written;
* `DirtyTracked`: the invariant: whatever was marked is covered, and a record is
  kept and taken with the revision it was marked with;
* `covered_of_reachable`: **no update is lost**.
-/
import CnsServer.Library.Machine
import CnsServer.Persistence.DirtyState

namespace CnsServer

/-! ### Any use of the class -/

/-- A `DirtyState` with its history: the writes that were marked, those that were
taken, and those whose completion was reported. -/
structure DirtyHistory where
  dirty : DirtyState
  marked : List DesiredDeviceWrite
  taken : List DesiredDeviceWrite
  completed : List DesiredDeviceWrite

inductive DirtyInput where
  | mark (write : DesiredDeviceWrite) (markedAt : TimePoint)
  | take (take : DirtyState.Take)
  | complete (write : DesiredDeviceWrite)
  | restore (write : DesiredDeviceWrite) (now : TimePoint)

namespace DirtyHistory

def next (s : DirtyHistory) : DirtyInput → DirtyHistory
  | .mark write markedAt =>
      { s with
        dirty := s.dirty.mark write markedAt
        marked := write :: s.marked }
  | .take take =>
      { s with
        dirty := (s.dirty.takeMatching take).2
        taken := (s.dirty.takeMatching take).1 ++ s.taken }
  | .complete write =>
      { s with
        dirty := s.dirty.complete write
        completed := write :: s.completed }
  | .restore write now => { s with dirty := s.dirty.restore write now }

/-- Revisions start at one, and only what was taken is completed or restored. -/
def Enabled (s : DirtyHistory) : DirtyInput → Prop
  | .mark write _ => 1 ≤ write.revision
  | .take _ => True
  | .complete write => write ∈ s.taken
  | .restore write _ => write ∈ s.taken

end DirtyHistory

def dirtyMachine : Machine DirtyHistory DirtyInput where
  init s := s = ⟨.empty, [], [], []⟩
  enabled := DirtyHistory.Enabled
  next := DirtyHistory.next

/-! ### The invariant -/

/-- A revision of a group of columns is dirty, in flight, or written. -/
def Covered (s : DirtyHistory) (deviceId : String) (field : DeviceField) (revision : ℕ) : Prop :=
  revision ≤ (s.dirty.fieldOf deviceId field).dirtyRevision ∨
    revision ≤ (s.dirty.fieldOf deviceId field).inFlightRevision ∨
    ∃ write ∈ s.completed, write.record.deviceId = deviceId ∧ write.selects field = true ∧
      revision ≤ write.revision

/-- A write with this record and revision was marked. -/
def WasMarked (s : DirtyHistory) (record : DeviceRecord) (revision : ℕ) : Prop :=
  ∃ write ∈ s.marked, write.record = record ∧ write.revision = revision

/-- What holds of the entry of a device. -/
structure EntryTracked (s : DirtyHistory) (deviceId : String) (entry : DirtyEntry) : Prop where
  id : entry.record.deviceId = deviceId
  marked : WasMarked s entry.record entry.revision
  dirty : ∀ field, (entry.field field).dirtyRevision ≤ entry.revision

structure DirtyTracked (s : DirtyHistory) : Prop where
  entries : ∀ deviceId entry, s.dirty.entries.lookup deviceId = some entry →
    EntryTracked s deviceId entry
  taken : ∀ write ∈ s.taken, WasMarked s write.record write.revision
  covered : ∀ write ∈ s.marked, ∀ field, write.selects field = true →
    Covered s write.record.deviceId field write.revision

section

variable {s : DirtyHistory}

lemma WasMarked.mono {s' : DirtyHistory} (hsub : s.marked ⊆ s'.marked) {record : DeviceRecord}
    {revision : ℕ} (h : WasMarked s record revision) : WasMarked s' record revision := by
  obtain ⟨write, hmem, hrecord, hrevision⟩ := h
  exact ⟨write, hsub hmem, hrecord, hrevision⟩

/-- The entry that receives a write has the newer of the two records. -/
lemma receive_tracked {s' : DirtyHistory} {entry : Option DirtyEntry} {write : DesiredDeviceWrite}
    (hentry : ∀ e ∈ entry, EntryTracked s' write.record.deviceId e)
    (hwrite : WasMarked s' write.record write.revision) (now : TimePoint) :
    EntryTracked s' write.record.deviceId (DirtyEntry.receive entry write now) ∧
      write.revision ≤ (DirtyEntry.receive entry write now).revision := by
  simp only [DirtyEntry.receive]
  cases entry with
  | none =>
      refine ⟨⟨rfl, hwrite, fun field => ?_⟩, le_rfl⟩
      cases field <;> exact Nat.zero_le _
  | some entry =>
      have htracked := hentry entry rfl
      dsimp only
      split
      · next hnew =>
          refine ⟨⟨rfl, hwrite, fun field => ?_⟩, le_rfl⟩
          have hold := htracked.dirty field
          cases field <;> exact hold.trans hnew
      · next hold => exact ⟨htracked, (Nat.lt_of_not_le hold).le⟩

/-- The new entry of a device among the others. -/
lemma entries_insert {s' : DirtyHistory} {deviceId : String} {entry : DirtyEntry}
    {entries : Map String DirtyEntry} (hnew : EntryTracked s' deviceId entry)
    (hold : ∀ deviceId entry, entries.lookup deviceId = some entry → EntryTracked s' deviceId entry)
    (deviceId' : String) (entry' : DirtyEntry)
    (h : (entries.insert deviceId entry).lookup deviceId' = some entry') :
    EntryTracked s' deviceId' entry' := by
  rcases Map.lookup_insert_some.mp h with ⟨rfl, rfl⟩ | ⟨-, h⟩
  · exact hnew
  · exact hold deviceId' entry' h

/-! ### Marks -/

lemma mark_entries (hinv : DirtyTracked s) (write : DesiredDeviceWrite) (markedAt : TimePoint) :
    ∀ deviceId entry, (s.next (.mark write markedAt)).dirty.entries.lookup deviceId = some entry →
      EntryTracked (s.next (.mark write markedAt)) deviceId entry := by
  have hsub : s.marked ⊆ (s.next (.mark write markedAt)).marked := List.subset_cons_self _ _
  have hold : ∀ deviceId entry, s.dirty.entries.lookup deviceId = some entry →
      EntryTracked (s.next (.mark write markedAt)) deviceId entry := by
    intro deviceId entry h
    have htracked := hinv.entries deviceId entry h
    exact ⟨htracked.id, htracked.marked.mono hsub, htracked.dirty⟩
  have hwrite : WasMarked (s.next (.mark write markedAt)) write.record write.revision :=
    ⟨write, List.mem_cons_self, rfl, rfl⟩
  obtain ⟨htracked, hrevision⟩ := receive_tracked (hold write.record.deviceId) hwrite markedAt
  refine entries_insert ⟨htracked.id, htracked.marked, fun field => ?_⟩ hold
  rw [DirtyEntry.mark_field]
  exact FieldState.mark_dirtyRevision_le (htracked.dirty field) hrevision

/-- A mark lowers nothing. -/
lemma Covered.mark {write : DesiredDeviceWrite} {markedAt : TimePoint} {deviceId : String}
    {field : DeviceField} {revision : ℕ} (h : Covered s deviceId field revision) :
    Covered (s.next (.mark write markedAt)) deviceId field revision := by
  rw [Covered]
  simp only [DirtyHistory.next, DirtyState.fieldOf_mark]
  rcases h with hdirty | hflight | hdone
  · refine .inl ?_
    split
    · rw [FieldState.mark]
      split
      · exact hdirty.trans (le_max_left _ _)
      · exact hdirty
    · exact hdirty
  · refine .inr (.inl ?_)
    split
    · rw [FieldState.mark]
      split <;> exact hflight
    · exact hflight
  · exact .inr (.inr hdone)

lemma mark_tracked (hinv : DirtyTracked s) (write : DesiredDeviceWrite) (markedAt : TimePoint) :
    DirtyTracked (s.next (.mark write markedAt)) := by
  refine ⟨mark_entries hinv write markedAt, fun old hold => ?_, fun old hold field hfield => ?_⟩
  · exact (hinv.taken old hold).mono (List.subset_cons_self _ _)
  · rcases List.mem_cons.mp hold with rfl | hold
    · refine .inl ?_
      simp only [DirtyHistory.next, DirtyState.fieldOf_mark, if_true, FieldState.mark, hfield]
      exact le_max_right _ _
    · exact (hinv.covered old hold field hfield).mark

/-! ### Takes -/

lemma Covered.take {take : DirtyState.Take} {deviceId : String} {field : DeviceField}
    {revision : ℕ} (h : Covered s deviceId field revision) :
    Covered (s.next (.take take)) deviceId field revision := by
  rw [Covered]
  simp only [DirtyHistory.next]
  rcases s.dirty.fieldOf_takeMatching take deviceId field with htaken | hkept
  · rw [htaken]
    rcases h with hdirty | hflight | hdone
    · exact .inr (.inl (hdirty.trans (le_max_right _ _)))
    · exact .inr (.inl (hflight.trans (le_max_left _ _)))
    · exact .inr (.inr hdone)
  · rw [hkept]
    exact h

lemma take_tracked (hinv : DirtyTracked s) (take : DirtyState.Take) :
    DirtyTracked (s.next (.take take)) := by
  refine ⟨fun deviceId entry h => ?_, fun write hwrite => ?_, fun write hwrite field hfield => ?_⟩
  · simp only [DirtyHistory.next, DirtyState.takeMatching, Map.lookup_mapValues,
      Option.map_eq_some_iff] at h
    obtain ⟨before, hbefore, rfl⟩ := h
    have htracked := hinv.entries deviceId before hbefore
    split
    · refine ⟨htracked.id, htracked.marked, fun field => ?_⟩
      rw [DirtyEntry.dispatched_field]
      exact Nat.zero_le _
    · exact ⟨htracked.id, htracked.marked, htracked.dirty⟩
  · rcases List.mem_append.mp hwrite with hnew | hold
    · obtain ⟨deviceId, entry, hentry, -, rfl⟩ := DirtyState.mem_takeMatching hnew
      exact (hinv.entries deviceId entry hentry).marked
    · exact hinv.taken write hold
  · exact (hinv.covered write hwrite field hfield).take

/-! ### Completions -/

/-- What a completion takes out of flight, it has written. -/
lemma Covered.complete {write : DesiredDeviceWrite} {deviceId : String} {field : DeviceField}
    {revision : ℕ} (h : Covered s deviceId field revision) :
    Covered (s.next (.complete write)) deviceId field revision := by
  rw [Covered]
  simp only [DirtyHistory.next, DirtyState.fieldOf_complete]
  rcases h with hdirty | hflight | hdone
  · refine .inl ?_
    split
    · rw [FieldState.complete_dirtyRevision]
      exact hdirty
    · exact hdirty
  · split
    · next hid =>
        rw [FieldState.complete]
        split
        · next hdone =>
            simp only [Bool.and_eq_true, decide_eq_true_eq] at hdone
            exact .inr (.inr ⟨write, List.mem_cons_self, hid.symm, hdone.1.1,
              hflight.trans hdone.2⟩)
        · exact .inr (.inl hflight)
    · exact .inr (.inl hflight)
  · obtain ⟨done, hmem, hrest⟩ := hdone
    exact .inr (.inr ⟨done, List.mem_cons_of_mem _ hmem, hrest⟩)

lemma complete_tracked (hinv : DirtyTracked s) (write : DesiredDeviceWrite) :
    DirtyTracked (s.next (.complete write)) := by
  refine ⟨fun deviceId entry h => ?_, hinv.taken, fun old hold field hfield =>
    (hinv.covered old hold field hfield).complete⟩
  have hkept : ∀ deviceId entry, s.dirty.entries.lookup deviceId = some entry →
      EntryTracked (s.next (.complete write)) deviceId entry := by
    intro deviceId entry h
    have htracked := hinv.entries deviceId entry h
    exact ⟨htracked.id, htracked.marked, htracked.dirty⟩
  simp only [DirtyHistory.next, DirtyState.complete] at h
  split at h
  · exact hkept deviceId entry h
  · next before hbefore =>
      split at h
      · have htracked := hkept _ before hbefore
        have hnew : EntryTracked (s.next (.complete write)) write.record.deviceId
            (before.complete write) := by
          refine ⟨htracked.id, htracked.marked, fun field => ?_⟩
          rw [DirtyEntry.complete_field, FieldState.complete_dirtyRevision]
          exact htracked.dirty field
        exact entries_insert hnew hkept deviceId entry h
      · exact hkept deviceId entry (Map.lookup_erase_some.mp h).2

/-! ### Restorations -/

/-- What a restoration takes out of flight is dirty again. -/
lemma Covered.restore {write : DesiredDeviceWrite} {now : TimePoint} {deviceId : String}
    {field : DeviceField} {revision : ℕ} (h : Covered s deviceId field revision) :
    Covered (s.next (.restore write now)) deviceId field revision := by
  rw [Covered]
  simp only [DirtyHistory.next, DirtyState.fieldOf_restore]
  split
  · rw [FieldState.restore]
    split
    · rcases h with hdirty | hflight | hdone
      · exact .inl (hdirty.trans (le_max_left _ _))
      · dsimp only
        split
        · next hle => exact .inl (hflight.trans (hle.trans (le_max_right _ _)))
        · exact .inr (.inl hflight)
      · exact .inr (.inr hdone)
    · exact h
  · exact h

lemma restore_tracked (hinv : DirtyTracked s) {write : DesiredDeviceWrite}
    (hwrite : write ∈ s.taken) (now : TimePoint) :
    DirtyTracked (s.next (.restore write now)) := by
  refine ⟨?_, hinv.taken, fun old hold field hfield =>
    (hinv.covered old hold field hfield).restore⟩
  have hkept : ∀ deviceId entry, s.dirty.entries.lookup deviceId = some entry →
      EntryTracked (s.next (.restore write now)) deviceId entry := by
    intro deviceId entry h
    have htracked := hinv.entries deviceId entry h
    exact ⟨htracked.id, htracked.marked, htracked.dirty⟩
  have hmarked : WasMarked (s.next (.restore write now)) write.record write.revision :=
    hinv.taken write hwrite
  obtain ⟨htracked, hrevision⟩ := receive_tracked (hkept write.record.deviceId) hmarked now
  refine entries_insert ⟨htracked.id, htracked.marked, fun field => ?_⟩ hkept
  rw [DirtyEntry.restore_field]
  exact FieldState.restore_dirtyRevision_le (htracked.dirty field) hrevision

/-! ### Every run -/

lemma next_tracked (hinv : DirtyTracked s) {input : DirtyInput} (henabled : s.Enabled input) :
    DirtyTracked (s.next input) := by
  cases input with
  | mark write markedAt => exact mark_tracked hinv write markedAt
  | take take => exact take_tracked hinv take
  | complete write => exact complete_tracked hinv write
  | restore write now => exact restore_tracked hinv henabled now

lemma reachable_tracked (h : dirtyMachine.Reachable s) : DirtyTracked s := by
  refine h.invariant (fun s h0 => ?_) fun s input _ hinv henabled =>
    @next_tracked s hinv input henabled
  cases h0
  refine ⟨fun deviceId entry h => ?_, fun write h => ?_, fun write h => ?_⟩
  · cases h
  · cases h
  · cases h

/-- **No update is lost**: in every reachable state, each field of a device that
was marked at a revision is dirty, in flight or written at that revision or a newer
one; and a write that is taken there carries a record that was marked with exactly
its revision, which no dirty revision of its flagged fields exceeds. -/
theorem covered_of_reachable (h : dirtyMachine.Reachable s) :
    (∀ write ∈ s.marked, ∀ field, write.selects field = true →
      Covered s write.record.deviceId field write.revision) ∧
    (∀ take, ∀ write ∈ (s.dirty.takeMatching take).1,
      WasMarked s write.record write.revision ∧ ∀ field, write.selects field = true →
        0 < (s.dirty.fieldOf write.record.deviceId field).dirtyRevision ∧
          (s.dirty.fieldOf write.record.deviceId field).dirtyRevision ≤ write.revision) ∧
    ∀ write ∈ s.taken, WasMarked s write.record write.revision := by
  have hinv := reachable_tracked h
  refine ⟨hinv.covered, fun take write hwrite => ?_, hinv.taken⟩
  obtain ⟨deviceId, entry, hentry, -, rfl⟩ := DirtyState.mem_takeMatching hwrite
  have htracked := hinv.entries deviceId entry hentry
  refine ⟨htracked.marked, fun field hfield => ?_⟩
  have hid : entry.toWrite.record.deviceId = deviceId := htracked.id
  rw [DirtyEntry.toWrite_selects, decide_eq_true_eq] at hfield
  rw [hid, DirtyState.fieldOf_eq hentry]
  exact ⟨Nat.pos_of_ne_zero hfield, htracked.dirty field⟩

end

/-- Registration data of one device at two revisions. -/
def sampleWrite (revision : ℕ) : DesiredDeviceWrite where
  record :=
    { deviceId := "a"
      schoolId := 7
      schoolName := "一小"
      dcdwLabel := none
      modelVersion := "fc"
      status := .online
      lastSeenAt := none
      latestTelemetry := none
      telemetryReceivedAt := none
      revision := revision }
  revision := revision
  writeMetadata := true
  writeStatus := true
  writeTelemetry := false
  urgency := .immediate

/-- The second revision is marked while the write of the first is in flight. -/
def overtaken : DirtyHistory :=
  (((⟨.empty, [], [], []⟩ : DirtyHistory).next (.mark (sampleWrite 1) 0)).next
    (.take .immediate)).next (.mark (sampleWrite 2) 5)

theorem covered_overtaken :
    ∃ write ∈ overtaken.taken, ((overtaken.next (.restore write 9)).dirty.fieldOf "a" .status =
        ⟨2, 0⟩) ∧
      Covered (overtaken.next (.restore write 9)) "a" .status 1 := by
  have htaken : 0 < overtaken.taken.length := by decide +kernel
  have hreach : dirtyMachine.Reachable overtaken :=
    .step (m := dirtyMachine) (i := .mark (sampleWrite 2) 5)
      (.step (m := dirtyMachine) (i := .take .immediate)
        (.step (m := dirtyMachine) (i := .mark (sampleWrite 1) 0) (.start rfl) (Nat.le_refl 1))
        trivial) (Nat.le_succ 1)
  have hmem : overtaken.taken[0] ∈ overtaken.taken := List.getElem_mem htaken
  have hrestored : dirtyMachine.Reachable (overtaken.next (.restore overtaken.taken[0] 9)) :=
    .step (m := dirtyMachine) (i := .restore overtaken.taken[0] 9) hreach hmem
  have hrestore : ∀ h : 0 < overtaken.taken.length,
      (overtaken.next (.restore overtaken.taken[0] 9)).dirty.fieldOf "a" .status = ⟨2, 0⟩ := by
    decide +kernel
  refine ⟨overtaken.taken[0], hmem, hrestore htaken, ?_⟩
  exact (covered_of_reachable hrestored).1 (sampleWrite 1)
    (List.mem_cons_of_mem _ List.mem_cons_self) .status rfl

end CnsServer
