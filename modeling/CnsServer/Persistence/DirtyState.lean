/-
The device states that still have to be written (`dirty_state.hpp`,
`dirty_state.cpp`): for each device the newest record, and for each of its three
groups of columns the revision that is dirty and the one that is in flight.

* `FieldState` with `mark`, `restore`, `complete` and `dispatch`: the life of one
  group of columns;
* `mark`, `takeMatching`, `complete`, `restore`: the operations of the class, each
  with its effect on the field of a device (`fieldOf_mark` and so on).
-/
import CnsServer.Device.Registry

namespace CnsServer

/-- The three groups of columns that are written apart. -/
inductive DeviceField where
  | metadata | status | telemetry
  deriving DecidableEq, Repr

/-- The flag of a write for a group of columns. -/
def DesiredDeviceWrite.selects (write : DesiredDeviceWrite) : DeviceField → Bool
  | .metadata => write.writeMetadata
  | .status => write.writeStatus
  | .telemetry => write.writeTelemetry

/-! ### One group of columns -/

/-- `DirtyState::FieldState`. -/
structure FieldState where
  dirtyRevision : ℕ := 0
  inFlightRevision : ℕ := 0
  deriving DecidableEq, Repr

namespace FieldState

/-- `MarkField`. -/
def mark (field : FieldState) (selected : Bool) (revision : ℕ) : FieldState :=
  if selected then { field with dirtyRevision := max field.dirtyRevision revision } else field

/-- `RestoreField`. -/
def restore (field : FieldState) (selected : Bool) (revision : ℕ) : FieldState :=
  if selected then
    { dirtyRevision := max field.dirtyRevision revision
      inFlightRevision :=
        if field.inFlightRevision ≤ revision then 0 else field.inFlightRevision }
  else field

/-- The field after a completed write. -/
def complete (field : FieldState) (selected : Bool) (revision : ℕ) : FieldState :=
  if selected && field.inFlightRevision ≠ 0 && field.inFlightRevision ≤ revision then
    { field with inFlightRevision := 0 }
  else field

/-- The field of an entry that is taken. -/
def dispatch (field : FieldState) : FieldState where
  dirtyRevision := 0
  inFlightRevision := max field.inFlightRevision field.dirtyRevision

/-- `FieldHasWork`. -/
def hasWork (field : FieldState) : Bool :=
  field.dirtyRevision ≠ 0 || field.inFlightRevision ≠ 0

/-- A group without work is as at the start. -/
lemma eq_of_not_hasWork {field : FieldState} (h : field.hasWork = false) : field = {} := by
  obtain ⟨dirty, inFlight⟩ := field
  simp only [hasWork, Bool.or_eq_false_iff, decide_eq_false_iff_not, not_not] at h
  rw [h.1, h.2]

@[simp] lemma mark_inFlightRevision (field : FieldState) (selected : Bool) (revision : ℕ) :
    (field.mark selected revision).inFlightRevision = field.inFlightRevision := by
  rw [mark]
  split
  · rfl
  · rfl

@[simp] lemma complete_dirtyRevision (field : FieldState) (selected : Bool) (revision : ℕ) :
    (field.complete selected revision).dirtyRevision = field.dirtyRevision := by
  rw [complete]
  split
  · rfl
  · rfl

/-- A mark never takes a revision back, and neither does what is restored. -/
lemma le_mark_dirtyRevision (field : FieldState) (selected : Bool) (revision : ℕ) :
    field.dirtyRevision ≤ (field.mark selected revision).dirtyRevision := by
  rw [mark]
  split
  · exact le_max_left _ _
  · exact le_rfl

lemma le_restore_dirtyRevision (field : FieldState) (selected : Bool) (revision : ℕ) :
    field.dirtyRevision ≤ (field.restore selected revision).dirtyRevision := by
  rw [restore]
  split
  · exact le_max_left _ _
  · exact le_rfl

/-- A bound of the revisions is kept by a mark that meets it. -/
lemma mark_dirtyRevision_le {field : FieldState} {selected : Bool} {revision bound : ℕ}
    (h : field.dirtyRevision ≤ bound) (hrevision : revision ≤ bound) :
    (field.mark selected revision).dirtyRevision ≤ bound := by
  rw [mark]
  split
  · exact max_le h hrevision
  · exact h

lemma restore_dirtyRevision_le {field : FieldState} {selected : Bool} {revision bound : ℕ}
    (h : field.dirtyRevision ≤ bound) (hrevision : revision ≤ bound) :
    (field.restore selected revision).dirtyRevision ≤ bound := by
  rw [restore]
  split
  · exact max_le h hrevision
  · exact h

/-- A completed write leaves nothing in flight of a field it writes, up to its revision. -/
lemma complete_landed {field : FieldState} {revision : ℕ} (h : field.inFlightRevision ≤ revision) :
    (field.complete true revision).inFlightRevision = 0 := by
  rw [complete]
  split
  · rfl
  · next hnot =>
      by_contra hflying
      exact hnot (by simp [hflying, h])

/-- A completion lands at most what is in flight. -/
lemma complete_inFlightRevision_le (field : FieldState) (selected : Bool) (revision : ℕ) :
    (field.complete selected revision).inFlightRevision ≤ field.inFlightRevision := by
  rw [complete]
  split
  · exact Nat.zero_le _
  · exact le_rfl

end FieldState

/-! ### Entries -/

/-- `DirtyState::Entry`. -/
structure DirtyEntry where
  record : DeviceRecord
  revision : ℕ
  metadata : FieldState := {}
  status : FieldState := {}
  telemetry : FieldState := {}
  urgency : Urgency := .telemetryBatch
  markedAt : TimePoint

namespace DirtyEntry

/-- The state of a group of columns. -/
def field (entry : DirtyEntry) : DeviceField → FieldState
  | .metadata => entry.metadata
  | .status => entry.status
  | .telemetry => entry.telemetry

/-- The three states after an operation. -/
def mapFields (entry : DirtyEntry) (f : DeviceField → FieldState → FieldState) : DirtyEntry :=
  { entry with
    metadata := f .metadata entry.metadata
    status := f .status entry.status
    telemetry := f .telemetry entry.telemetry }

@[simp] lemma mapFields_field (entry : DirtyEntry) (f : DeviceField → FieldState → FieldState)
    (field : DeviceField) : (entry.mapFields f).field field = f field (entry.field field) := by
  cases field <;> rfl

/-- `HasDirty`. -/
def hasDirty (entry : DirtyEntry) : Bool :=
  entry.metadata.dirtyRevision ≠ 0 || entry.status.dirtyRevision ≠ 0 ||
    entry.telemetry.dirtyRevision ≠ 0

/-- `HasWork`. -/
def hasWork (entry : DirtyEntry) : Bool :=
  entry.metadata.hasWork || entry.status.hasWork || entry.telemetry.hasWork

/-- An entry without work has none in any of its groups. -/
lemma field_of_not_hasWork {entry : DirtyEntry} (h : entry.hasWork = false)
    (field : DeviceField) : entry.field field = {} := by
  simp only [hasWork, Bool.or_eq_false_iff] at h
  cases field with
  | metadata => exact FieldState.eq_of_not_hasWork h.1.1
  | status => exact FieldState.eq_of_not_hasWork h.1.2
  | telemetry => exact FieldState.eq_of_not_hasWork h.2

/-- A dirty group is work, and so is one in flight. -/
lemma hasWork_of_dirty {entry : DirtyEntry} (field : DeviceField)
    (h : (entry.field field).dirtyRevision ≠ 0) : entry.hasWork = true := by
  by_contra hwork
  rw [field_of_not_hasWork (Bool.eq_false_iff.mpr hwork) field] at h
  exact h rfl

lemma hasWork_of_flying {entry : DirtyEntry} (field : DeviceField)
    (h : (entry.field field).inFlightRevision ≠ 0) : entry.hasWork = true := by
  by_contra hwork
  rw [field_of_not_hasWork (Bool.eq_false_iff.mpr hwork) field] at h
  exact h rfl

lemma hasDirty_of_field {entry : DirtyEntry} (field : DeviceField)
    (h : (entry.field field).dirtyRevision ≠ 0) : entry.hasDirty = true := by
  simp only [hasDirty, Bool.or_eq_true, decide_eq_true_eq]
  cases field with
  | metadata => exact .inl (.inl h)
  | status => exact .inl (.inr h)
  | telemetry => exact .inr h

/-- An entry that is to be taken has a dirty field. -/
lemma field_of_hasDirty {entry : DirtyEntry} (h : entry.hasDirty = true) :
    ∃ field, (entry.field field).dirtyRevision ≠ 0 := by
  simp only [hasDirty, Bool.or_eq_true, decide_eq_true_eq] at h
  rcases h with (h | h) | h
  · exact ⟨.metadata, h⟩
  · exact ⟨.status, h⟩
  · exact ⟨.telemetry, h⟩

/-- An entry with work has a field that is dirty or in flight. -/
lemma field_of_hasWork {entry : DirtyEntry} (h : entry.hasWork = true) :
    ∃ field, (entry.field field).dirtyRevision ≠ 0 ∨ (entry.field field).inFlightRevision ≠ 0 := by
  simp only [hasWork, FieldState.hasWork, Bool.or_eq_true, decide_eq_true_eq] at h
  rcases h with (h | h) | h
  · exact ⟨.metadata, h⟩
  · exact ⟨.status, h⟩
  · exact ⟨.telemetry, h⟩

/-- The entry `Mark` and `Restore` go on with: a new one, or the one there is, with
the newer of the two records. -/
def receive (entry : Option DirtyEntry) (write : DesiredDeviceWrite) (now : TimePoint) :
    DirtyEntry :=
  match entry with
  | none => { record := write.record, revision := write.revision, markedAt := now }
  | some entry =>
      if entry.revision ≤ write.revision then
        { entry with
          record := write.record
          revision := write.revision }
      else entry

/-- The record that is kept is not older than the one received. -/
lemma le_receive_revision (entry : Option DirtyEntry) (write : DesiredDeviceWrite)
    (now : TimePoint) : write.revision ≤ (receive entry write now).revision := by
  cases entry with
  | none => exact le_rfl
  | some entry =>
      rw [receive]
      split
      · exact le_rfl
      · next hold => exact (Nat.lt_of_not_le hold).le

/-- An entry that is there keeps all but its record and its revision. -/
lemma receive_some (entry : DirtyEntry) (write : DesiredDeviceWrite) (now : TimePoint) :
    ∃ record, receive (some entry) write now =
      { entry with
        record := record
        revision := max entry.revision write.revision } := by
  rw [receive]
  split
  · next hnew =>
      refine ⟨write.record, ?_⟩
      rw [max_eq_right hnew]
  · next hold =>
      refine ⟨entry.record, ?_⟩
      rw [max_eq_left (Nat.lt_of_not_le hold).le]

/-- The entry after `Mark`. -/
def mark (entry : DirtyEntry) (write : DesiredDeviceWrite) (markedAt : TimePoint) : DirtyEntry :=
  { entry.mapFields fun field state => state.mark (write.selects field) write.revision with
    markedAt :=
      if write.writeTelemetry && entry.telemetry.dirtyRevision = 0 then markedAt
      else entry.markedAt
    urgency := if write.urgency = .immediate then .immediate else entry.urgency }

/-- The entry after `Restore`. -/
def restore (entry : DirtyEntry) (write : DesiredDeviceWrite) : DirtyEntry :=
  { entry.mapFields fun field state => state.restore (write.selects field) write.revision with
    urgency := if write.urgency = .immediate then .immediate else entry.urgency }

/-- The write that is taken for an entry. -/
def toWrite (entry : DirtyEntry) : DesiredDeviceWrite where
  record := entry.record
  revision := entry.revision
  writeMetadata := entry.metadata.dirtyRevision ≠ 0
  writeStatus := entry.status.dirtyRevision ≠ 0
  writeTelemetry := entry.telemetry.dirtyRevision ≠ 0
  urgency := entry.urgency

/-- The write of an entry is about its dirty groups. -/
lemma toWrite_selects (entry : DirtyEntry) (field : DeviceField) :
    entry.toWrite.selects field = decide ((entry.field field).dirtyRevision ≠ 0) := by
  cases field <;> rfl

/-- The entry after it has been taken. -/
def dispatched (entry : DirtyEntry) : DirtyEntry :=
  { entry.mapFields fun _ state => state.dispatch with urgency := .telemetryBatch }

/-- The entry after a completed write. -/
def complete (entry : DirtyEntry) (write : DesiredDeviceWrite) : DirtyEntry :=
  entry.mapFields fun field state => state.complete (write.selects field) write.revision

/-- Each operation on an entry acts on its groups one by one. -/
@[simp] lemma mark_field (entry : DirtyEntry) (write : DesiredDeviceWrite) (markedAt : TimePoint)
    (field : DeviceField) : (entry.mark write markedAt).field field =
      (entry.field field).mark (write.selects field) write.revision := by
  cases field <;> rfl

@[simp] lemma restore_field (entry : DirtyEntry) (write : DesiredDeviceWrite)
    (field : DeviceField) : (entry.restore write).field field =
      (entry.field field).restore (write.selects field) write.revision := by
  cases field <;> rfl

@[simp] lemma dispatched_field (entry : DirtyEntry) (field : DeviceField) :
    entry.dispatched.field field = (entry.field field).dispatch := by
  cases field <;> rfl

@[simp] lemma complete_field (entry : DirtyEntry) (write : DesiredDeviceWrite)
    (field : DeviceField) : (entry.complete write).field field =
      (entry.field field).complete (write.selects field) write.revision :=
  mapFields_field entry _ field

end DirtyEntry

/-! ### The class -/

/-- `persistence::DirtyState`. -/
structure DirtyState where
  entries : Map String DirtyEntry

namespace DirtyState

/-- Nothing to write. -/
def empty : DirtyState := ⟨∅⟩

/-- `Mark`. -/
def mark (dirty : DirtyState) (write : DesiredDeviceWrite) (markedAt : TimePoint) : DirtyState :=
  let entry := DirtyEntry.receive (dirty.entries.lookup write.record.deviceId) write markedAt
  ⟨dirty.entries.insert write.record.deviceId (entry.mark write markedAt)⟩

/-- `Restore`, with the time it is called at. -/
def restore (dirty : DirtyState) (write : DesiredDeviceWrite) (now : TimePoint) : DirtyState :=
  let entry := DirtyEntry.receive (dirty.entries.lookup write.record.deviceId) write now
  ⟨dirty.entries.insert write.record.deviceId (entry.restore write)⟩

/-- `Complete`. -/
def complete (dirty : DirtyState) (write : DesiredDeviceWrite) : DirtyState :=
  match dirty.entries.lookup write.record.deviceId with
  | none => dirty
  | some entry =>
      if (entry.complete write).hasWork then
        ⟨dirty.entries.insert write.record.deviceId (entry.complete write)⟩
      else ⟨dirty.entries.erase write.record.deviceId⟩

/-- `Clear`. -/
def clear (_ : DirtyState) : DirtyState := empty

/-- `Size`. -/
def size (dirty : DirtyState) : ℕ := dirty.entries.keys.length

/-- The calls of `TakeMatching`. -/
inductive Take where
  | immediate
  | telemetryDue (now interval : TimePoint)
  | all

/-- `TakeMatching` takes this entry. -/
def Take.due (take : Take) (entry : DirtyEntry) : Bool :=
  entry.hasDirty &&
    match take with
    | immediate => entry.urgency = .immediate
    | telemetryDue now interval =>
        entry.urgency ≠ .immediate && interval ≤ now - entry.markedAt
    | all => true

/-- `TakeMatching`: the writes of the entries that are due, and what stays. -/
def takeMatching (dirty : DirtyState) (take : Take) : List DesiredDeviceWrite × DirtyState :=
  ((dirty.entries.values.filter take.due).map DirtyEntry.toWrite,
    ⟨dirty.entries.mapValues fun entry => if take.due entry then entry.dispatched else entry⟩)

/-- `TakeImmediate`. -/
def takeImmediate (dirty : DirtyState) : List DesiredDeviceWrite × DirtyState :=
  dirty.takeMatching .immediate

/-- `TakeTelemetryDue`. -/
def takeTelemetryDue (dirty : DirtyState) (now interval : TimePoint) :
    List DesiredDeviceWrite × DirtyState :=
  dirty.takeMatching (.telemetryDue now interval)

/-- `TakeAllDirty`. -/
def takeAllDirty (dirty : DirtyState) : List DesiredDeviceWrite × DirtyState :=
  dirty.takeMatching .all

/-! ### What the operations do to one device -/

/-- The state of a group of columns; a device without an entry has nothing to
write. -/
def fieldOf (dirty : DirtyState) (deviceId : String) (field : DeviceField) : FieldState :=
  match dirty.entries.lookup deviceId with
  | some entry => entry.field field
  | none => {}

lemma fieldOf_eq {dirty : DirtyState} {deviceId : String} {entry : DirtyEntry}
    (h : dirty.entries.lookup deviceId = some entry) (field : DeviceField) :
    dirty.fieldOf deviceId field = entry.field field := by
  rw [fieldOf, h]

/-- The groups of the devices after one entry has changed. -/
lemma fieldOf_insert (entries : Map String DirtyEntry) (entry : DirtyEntry)
    (deviceId deviceId' : String) (field : DeviceField) :
    fieldOf ⟨entries.insert deviceId entry⟩ deviceId' field =
      if deviceId' = deviceId then entry.field field else fieldOf ⟨entries⟩ deviceId' field := by
  simp only [fieldOf]
  rw [Map.lookup_insert_ite]
  by_cases h : deviceId' = deviceId
  · rw [if_pos h, if_pos h]
  · rw [if_neg h, if_neg h]

lemma fieldOf_erase (entries : Map String DirtyEntry) (deviceId deviceId' : String)
    (field : DeviceField) :
    fieldOf ⟨entries.erase deviceId⟩ deviceId' field =
      if deviceId' = deviceId then {} else fieldOf ⟨entries⟩ deviceId' field := by
  simp only [fieldOf]
  rw [Map.lookup_erase_ite]
  by_cases h : deviceId' = deviceId
  · rw [if_pos h, if_pos h]
  · rw [if_neg h, if_neg h]

lemma receive_field (dirty : DirtyState) (write : DesiredDeviceWrite) (now : TimePoint)
    (deviceId : String) (field : DeviceField) :
    (DirtyEntry.receive (dirty.entries.lookup deviceId) write now).field field =
      dirty.fieldOf deviceId field := by
  simp only [fieldOf, DirtyEntry.receive]
  cases dirty.entries.lookup deviceId with
  | none => cases field <;> rfl
  | some entry =>
      dsimp only
      split
      · cases field <;> rfl
      · rfl

/-- **A mark** is one on the groups that the write selects, of its device. -/
lemma fieldOf_mark (dirty : DirtyState) (write : DesiredDeviceWrite) (markedAt : TimePoint)
    (deviceId : String) (field : DeviceField) :
    (dirty.mark write markedAt).fieldOf deviceId field =
      if deviceId = write.record.deviceId then
        (dirty.fieldOf deviceId field).mark (write.selects field) write.revision
      else dirty.fieldOf deviceId field := by
  unfold mark
  dsimp only
  rw [fieldOf_insert]
  split
  · next h => rw [DirtyEntry.mark_field, receive_field, h]
  · rfl

/-- **A restored write** goes back to the groups that it selects. -/
lemma fieldOf_restore (dirty : DirtyState) (write : DesiredDeviceWrite) (now : TimePoint)
    (deviceId : String) (field : DeviceField) :
    (dirty.restore write now).fieldOf deviceId field =
      if deviceId = write.record.deviceId then
        (dirty.fieldOf deviceId field).restore (write.selects field) write.revision
      else dirty.fieldOf deviceId field := by
  unfold restore
  dsimp only
  rw [fieldOf_insert]
  split
  · next h => rw [DirtyEntry.restore_field, receive_field, h]
  · rfl

/-- An entry that is dropped had nothing left. -/
lemma fieldOf_complete (dirty : DirtyState) (write : DesiredDeviceWrite) (deviceId : String)
    (field : DeviceField) :
    (dirty.complete write).fieldOf deviceId field =
      if deviceId = write.record.deviceId then
        (dirty.fieldOf deviceId field).complete (write.selects field) write.revision
      else dirty.fieldOf deviceId field := by
  rw [complete]
  cases hentry : dirty.entries.lookup write.record.deviceId with
  | none =>
      dsimp only
      split
      · next h =>
          rw [fieldOf, h, hentry]
          simp [FieldState.complete]
      · rfl
  | some entry =>
      dsimp only
      split
      · rw [fieldOf_insert]
        split
        · next h => rw [DirtyEntry.complete_field, h, fieldOf_eq hentry]
        · rfl
      · next hidle =>
          rw [fieldOf_erase]
          split
          · next h =>
              rw [h, fieldOf_eq hentry, ← DirtyEntry.complete_field]
              exact (DirtyEntry.field_of_not_hasWork (Bool.eq_false_iff.mpr hidle) field).symm
          · rfl

/-- A field is dispatched, with all of its device, or left alone. -/
lemma fieldOf_takeMatching (dirty : DirtyState) (take : Take) (deviceId : String)
    (field : DeviceField) :
    (dirty.takeMatching take).2.fieldOf deviceId field = (dirty.fieldOf deviceId field).dispatch ∨
      (dirty.takeMatching take).2.fieldOf deviceId field = dirty.fieldOf deviceId field := by
  unfold takeMatching fieldOf
  dsimp only
  rw [Map.lookup_mapValues]
  cases dirty.entries.lookup deviceId with
  | none => exact .inr rfl
  | some entry =>
      simp only [Option.map_some]
      split
      · exact .inl (DirtyEntry.dispatched_field entry field)
      · exact .inr rfl

/-- Every write that is taken is the one of an entry that is due. -/
lemma mem_takeMatching {dirty : DirtyState} {take : Take} {write : DesiredDeviceWrite}
    (h : write ∈ (dirty.takeMatching take).1) :
    ∃ deviceId entry, dirty.entries.lookup deviceId = some entry ∧ take.due entry = true ∧
      write = entry.toWrite := by
  obtain ⟨entry, hmem, rfl⟩ := List.mem_map.mp h
  obtain ⟨hmem, hdue⟩ := List.mem_filter.mp hmem
  obtain ⟨deviceId, hentry⟩ := Map.mem_values.mp hmem
  exact ⟨deviceId, entry, hentry, hdue, rfl⟩

/-- A take returns the write of an entry that is due. -/
lemma toWrite_mem {dirty : DirtyState} {deviceId : String} {entry : DirtyEntry} {take : Take}
    (hentry : dirty.entries.lookup deviceId = some entry)
    (hdue : take.due entry = true) : entry.toWrite ∈ (dirty.takeMatching take).1 :=
  List.mem_map_of_mem (List.mem_filter.mpr ⟨Map.mem_values.mpr ⟨deviceId, hentry⟩, hdue⟩)

/-! ### What they do to its entry -/

/-- The entries after each operation. -/
lemma lookup_mark (dirty : DirtyState) (write : DesiredDeviceWrite) (markedAt : TimePoint)
    (deviceId : String) :
    (dirty.mark write markedAt).entries.lookup deviceId =
      if deviceId = write.record.deviceId then
        some ((DirtyEntry.receive (dirty.entries.lookup deviceId) write markedAt).mark write
          markedAt)
      else dirty.entries.lookup deviceId := by
  rw [mark, Map.lookup_insert_ite]
  split
  · next h => rw [h]
  · rfl

lemma lookup_takeMatching (dirty : DirtyState) (take : Take) (deviceId : String) :
    (dirty.takeMatching take).2.entries.lookup deviceId =
      (dirty.entries.lookup deviceId).map fun entry =>
        if take.due entry then entry.dispatched else entry :=
  Map.lookup_mapValues _ _ _

lemma lookup_complete (dirty : DirtyState) (write : DesiredDeviceWrite) (deviceId : String) :
    (dirty.complete write).entries.lookup deviceId =
      if deviceId = write.record.deviceId then
        (dirty.entries.lookup deviceId).bind fun entry =>
          if (entry.complete write).hasWork then some (entry.complete write) else none
      else dirty.entries.lookup deviceId := by
  rw [complete]
  cases hentry : dirty.entries.lookup write.record.deviceId with
  | none =>
      dsimp only
      split
      · next h => rw [h, hentry]; rfl
      · rfl
  | some entry =>
      dsimp only
      split
      · next hwork =>
          rw [Map.lookup_insert_ite]
          split
          · next h => rw [h, hentry, Option.bind_some, if_pos hwork]
          · rfl
      · next hwork =>
          rw [Map.lookup_erase_ite]
          split
          · next h => rw [h, hentry, Option.bind_some, if_neg hwork]
          · rfl

lemma lookup_restore (dirty : DirtyState) (write : DesiredDeviceWrite) (now : TimePoint)
    (deviceId : String) :
    (dirty.restore write now).entries.lookup deviceId =
      if deviceId = write.record.deviceId then
        some ((DirtyEntry.receive (dirty.entries.lookup deviceId) write now).restore write)
      else dirty.entries.lookup deviceId := by
  rw [restore, Map.lookup_insert_ite]
  split
  · next h => rw [h]
  · rfl

end DirtyState

end CnsServer
