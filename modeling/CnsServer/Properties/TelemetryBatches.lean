/-
The batches of the telemetry, neither late nor early.

* `DirtyCall`: the calls of `DirtyState` other than `Restore`, with their times;
* `DirtySince`: the telemetry of a device has been dirty since a mark; `DirtyFrom`, and the
  mark has made it so;
* `markedAt_call`: the time of an entry stays while its telemetry is dirty, and `markedAt_calls`
  over a run;
* `EntriesMarked`: the time of an entry is that of one of its marks;
* `telemetry_batched`: a batch takes what is due, and nothing before.
-/
import CnsServer.Properties.DirtyCoverage
import Mathlib.Data.List.Induction

namespace CnsServer

/-! ### Calls -/

/-- A call of `DirtyState` other than `Restore`. -/
inductive DirtyCall where
  | mark (write : DesiredDeviceWrite) (markedAt : TimePoint)
  | takeImmediate
  | takeTelemetryDue (now interval : TimePoint)
  | takeAllDirty
  | complete (write : DesiredDeviceWrite)

/-- The time of a call that has one. -/
def DirtyCall.time : DirtyCall → Option TimePoint
  | mark _ markedAt => some markedAt
  | takeTelemetryDue now _ => some now
  | takeImmediate | takeAllDirty | complete _ => none

namespace DirtyState

variable {dirty : DirtyState} {deviceId : String} {entry : DirtyEntry}

/-- The state after a call. -/
def call (dirty : DirtyState) : DirtyCall → DirtyState
  | .mark write markedAt => dirty.mark write markedAt
  | .takeImmediate => dirty.takeImmediate.2
  | .takeTelemetryDue now interval => (dirty.takeTelemetryDue now interval).2
  | .takeAllDirty => dirty.takeAllDirty.2
  | .complete write => dirty.complete write

/-- The telemetry of the device is dirty. -/
def TelemetryDirty (dirty : DirtyState) (deviceId : String) : Prop :=
  (dirty.fieldOf deviceId .telemetry).dirtyRevision ≠ 0

instance (dirty : DirtyState) (deviceId : String) : Decidable (dirty.TelemetryDirty deviceId) :=
  inferInstanceAs (Decidable (_ ≠ _))

/-- The telemetry of the device has been dirty since a mark at this time, whatever was called
before and after it. -/
def DirtySince (calls : List DirtyCall) (deviceId : String) (since : TimePoint) : Prop :=
  ∃ before write after, calls = before ++ .mark write since :: after ∧
    write.record.deviceId = deviceId ∧ write.writeTelemetry = true ∧
    ∀ passed, passed <+: after →
      (passed.foldl call ((before.foldl call empty).mark write since)).TelemetryDirty deviceId

/-- It has been dirty since this time, and was not dirty before. -/
def DirtyFrom (calls : List DirtyCall) (deviceId : String) (since : TimePoint) : Prop :=
  ∃ before write after, calls = before ++ .mark write since :: after ∧
    write.record.deviceId = deviceId ∧ write.writeTelemetry = true ∧
    ¬ (before.foldl call empty).TelemetryDirty deviceId ∧
    ∀ passed, passed <+: after →
      (passed.foldl call ((before.foldl call empty).mark write since)).TelemetryDirty deviceId

/-! ### One call -/

/-- An entry that is there keeps its fields and its time when it receives a write. -/
lemma receive_telemetry (entry : DirtyEntry) (write : DesiredDeviceWrite) (now : TimePoint) :
    (DirtyEntry.receive (some entry) write now).telemetry = entry.telemetry ∧
      (DirtyEntry.receive (some entry) write now).markedAt = entry.markedAt := by
  obtain ⟨record, hreceive⟩ := DirtyEntry.receive_some entry write now
  rw [hreceive]
  exact ⟨rfl, rfl⟩

lemma telemetryDirty_iff (h : dirty.entries.lookup deviceId = some entry) :
    dirty.TelemetryDirty deviceId ↔ entry.telemetry.dirtyRevision ≠ 0 := by
  rw [TelemetryDirty, fieldOf_eq h]
  rfl

/-- An entry that a take has taken has no dirty telemetry. -/
lemma markedAt_take {take : Take} (hentry : dirty.entries.lookup deviceId = some entry)
    (hstill : (dirty.takeMatching take).2.TelemetryDirty deviceId) :
    (dirty.takeMatching take).2.entries.lookup deviceId = some entry := by
  have hlookup := lookup_takeMatching dirty take deviceId
  rw [hentry, Option.map_some] at hlookup
  split at hlookup
  · rw [telemetryDirty_iff hlookup] at hstill
    exact absurd rfl hstill
  · exact hlookup

/-- A completed write leaves what is dirty. -/
lemma complete_telemetry (entry : DirtyEntry) (write : DesiredDeviceWrite) :
    (entry.complete write).telemetry.dirtyRevision = entry.telemetry.dirtyRevision :=
  FieldState.complete_dirtyRevision _ _ _

lemma complete_hasWork (hdirty : entry.telemetry.dirtyRevision ≠ 0) (write : DesiredDeviceWrite) :
    (entry.complete write).hasWork = true :=
  DirtyEntry.hasWork_of_dirty .telemetry ((complete_telemetry entry write).trans_ne hdirty)

/-- **A call keeps the time of an entry** whose telemetry is dirty before it and after it. -/
lemma markedAt_call (c : DirtyCall) (hentry : dirty.entries.lookup deviceId = some entry)
    (hdirty : entry.telemetry.dirtyRevision ≠ 0) (hstill : (dirty.call c).TelemetryDirty deviceId) :
    ∃ entry', (dirty.call c).entries.lookup deviceId = some entry' ∧
      entry'.telemetry.dirtyRevision ≠ 0 ∧ entry'.markedAt = entry.markedAt := by
  cases c with
  | mark write markedAt =>
      have hlookup := lookup_mark dirty write markedAt deviceId
      rw [hentry] at hlookup
      split at hlookup
      · refine ⟨_, hlookup, (telemetryDirty_iff hlookup).mp hstill, ?_⟩
        obtain ⟨htelemetry, htime⟩ := receive_telemetry entry write markedAt
        simp only [DirtyEntry.mark, htelemetry, hdirty, decide_false, Bool.and_false,
          Bool.false_eq_true, if_false]
        exact htime
      · exact ⟨entry, hlookup, hdirty, rfl⟩
  | takeImmediate => exact ⟨entry, markedAt_take hentry hstill, hdirty, rfl⟩
  | takeTelemetryDue now interval => exact ⟨entry, markedAt_take hentry hstill, hdirty, rfl⟩
  | takeAllDirty => exact ⟨entry, markedAt_take hentry hstill, hdirty, rfl⟩
  | complete write =>
      have hlookup := lookup_complete dirty write deviceId
      rw [hentry, Option.bind_some, if_pos (complete_hasWork hdirty write)] at hlookup
      split at hlookup
      · refine ⟨_, hlookup, ?_, rfl⟩
        rw [complete_telemetry]
        exact hdirty
      · exact ⟨entry, hlookup, hdirty, rfl⟩

/-- **The time of an entry stays** while its telemetry stays dirty. -/
lemma markedAt_calls {after : List DirtyCall} : ∀ {dirty : DirtyState} {entry : DirtyEntry},
    dirty.entries.lookup deviceId = some entry →
    (∀ passed, passed <+: after → (passed.foldl call dirty).TelemetryDirty deviceId) →
    ∃ entry', (after.foldl call dirty).entries.lookup deviceId = some entry' ∧
      entry'.telemetry.dirtyRevision ≠ 0 ∧ entry'.markedAt = entry.markedAt := by
  induction after with
  | nil =>
      intro dirty entry hentry hdirty
      exact ⟨entry, hentry, (telemetryDirty_iff hentry).mp (hdirty [] (List.prefix_refl _)), rfl⟩
  | cons c after ih =>
      intro dirty entry hentry hdirty
      have hnow := (telemetryDirty_iff hentry).mp (hdirty [] List.nil_prefix)
      have hfirst : ([c].foldl call dirty).TelemetryDirty deviceId :=
        hdirty [c] (List.prefix_cons_inj c |>.mpr List.nil_prefix)
      obtain ⟨next, hnext, -, htime⟩ := markedAt_call c hentry hnow hfirst
      obtain ⟨last, hlast, hlastDirty, htime'⟩ := ih hnext fun passed hpassed =>
        hdirty (c :: passed) ((List.prefix_cons_inj c).mpr hpassed)
      exact ⟨last, hlast, hlastDirty, htime'.trans htime⟩

/-! ### Where entries come from -/

/-- The entry of a device carries its id, and the time of one of the marks. -/
def EntriesMarked (dirty : DirtyState) (times : List TimePoint) : Prop :=
  ∀ deviceId entry, dirty.entries.lookup deviceId = some entry →
    entry.record.deviceId = deviceId ∧ entry.markedAt ∈ times

lemma EntriesMarked.mono {times times' : List TimePoint} (h : dirty.EntriesMarked times)
    (hsub : times ⊆ times') : dirty.EntriesMarked times' :=
  fun deviceId entry hentry => ⟨(h deviceId entry hentry).1, hsub (h deviceId entry hentry).2⟩

/-- The entry that receives a mark has its id, and an old time or the time of the mark. -/
lemma receive_marked {times : List TimePoint} (h : dirty.EntriesMarked times)
    (write : DesiredDeviceWrite) (markedAt : TimePoint) :
    (DirtyEntry.receive (dirty.entries.lookup write.record.deviceId) write markedAt).record.deviceId
        = write.record.deviceId ∧
      (DirtyEntry.receive (dirty.entries.lookup write.record.deviceId) write markedAt).markedAt ∈
        times ++ [markedAt] := by
  cases hentry : dirty.entries.lookup write.record.deviceId with
  | none => exact ⟨rfl, List.mem_append_right _ List.mem_cons_self⟩
  | some entry =>
      obtain ⟨hid, htime⟩ := h _ entry hentry
      rw [(receive_telemetry entry write markedAt).2, DirtyEntry.receive]
      refine ⟨?_, List.mem_append_left _ htime⟩
      split
      · rfl
      · exact hid

lemma entriesMarked_take {times : List TimePoint} (h : dirty.EntriesMarked times) (take : Take) :
    (dirty.takeMatching take).2.EntriesMarked times := by
  intro deviceId entry hentry
  rw [lookup_takeMatching, Option.map_eq_some_iff] at hentry
  obtain ⟨before, hbefore, rfl⟩ := hentry
  have hold := h deviceId before hbefore
  split <;> exact hold

/-- A call adds at most its own time. -/
lemma EntriesMarked.call {times : List TimePoint} (h : dirty.EntriesMarked times) (c : DirtyCall) :
    (dirty.call c).EntriesMarked (times ++ c.time.toList) := by
  cases c with
  | mark write markedAt =>
      intro deviceId entry hentry
      obtain ⟨hid, htime⟩ := receive_marked h write markedAt
      rw [show dirty.call (.mark write markedAt) = dirty.mark write markedAt from rfl,
        lookup_mark] at hentry
      split at hentry
      · next hdevice =>
          subst hdevice
          cases hentry
          refine ⟨hid, ?_⟩
          show (if _ then markedAt else _) ∈ _
          split
          · exact List.mem_append_right _ List.mem_cons_self
          · exact htime
      · obtain ⟨hid, htime⟩ := h deviceId entry hentry
        exact ⟨hid, List.mem_append_left _ htime⟩
  | takeImmediate => exact (entriesMarked_take h _).mono (List.subset_append_left _ _)
  | takeTelemetryDue now interval =>
      exact (entriesMarked_take h _).mono (List.subset_append_left _ _)
  | takeAllDirty => exact (entriesMarked_take h _).mono (List.subset_append_left _ _)
  | complete write =>
      intro deviceId entry hentry
      rw [show dirty.call (.complete write) = dirty.complete write from rfl,
        lookup_complete] at hentry
      split at hentry
      · obtain ⟨before, hbefore, hcompleted⟩ := Option.bind_eq_some_iff.mp hentry
        obtain ⟨hid, htime⟩ := h deviceId before hbefore
        split at hcompleted
        · cases hcompleted
          exact ⟨hid, List.mem_append_left _ htime⟩
        · cases hcompleted
      · obtain ⟨hid, htime⟩ := h deviceId entry hentry
        exact ⟨hid, List.mem_append_left _ htime⟩

lemma entriesMarked_calls (calls : List DirtyCall) :
    (calls.foldl call empty).EntriesMarked (calls.filterMap DirtyCall.time) := by
  induction calls using List.reverseRecOn with
  | nil => exact fun deviceId entry h => by cases h
  | append_singleton calls c ih =>
      rw [List.foldl_append, List.filterMap_append]
      have hlast : [c].filterMap DirtyCall.time = c.time.toList := by
        cases c <;> rfl
      rw [hlast]
      exact ih.call c

/-! ### Batches -/

/-- The entry of a device whose telemetry has just been marked. -/
lemma mark_entry (before : List DirtyCall) {write : DesiredDeviceWrite} (since : TimePoint)
    (htelemetry : write.writeTelemetry = true) :
    ∃ entry, ((before.foldl call empty).mark write since).entries.lookup write.record.deviceId =
        some entry ∧
      (entry.markedAt = since ∨
        (before.foldl call empty).TelemetryDirty write.record.deviceId ∧
          entry.markedAt ∈ before.filterMap DirtyCall.time) := by
  refine ⟨_, (lookup_mark _ write since _).trans (if_pos rfl), ?_⟩
  show (if _ then since else _) = since ∨ _ ∧ (if _ then since else _) ∈ _
  rw [htelemetry, Bool.true_and]
  cases hentry : (before.foldl call empty).entries.lookup write.record.deviceId with
  | none => exact .inl rfl
  | some entry =>
      obtain ⟨hfields, htime⟩ := receive_telemetry entry write since
      rw [hfields, htime]
      by_cases hdirty : entry.telemetry.dirtyRevision = 0
      · exact .inl (if_pos (decide_eq_true hdirty))
      · refine .inr ⟨(telemetryDirty_iff hentry).mpr hdirty, ?_⟩
        rw [if_neg (by simpa using hdirty)]
        exact (entriesMarked_calls before _ entry hentry).2

/-- What a device has that has been dirty for a time: an entry as old as that, or older. -/
lemma entry_of_dirtySince {calls : List DirtyCall} {since : TimePoint}
    (htimes : (calls.filterMap DirtyCall.time).Pairwise (· ≤ ·))
    (h : DirtySince calls deviceId since) :
    ∃ entry, (calls.foldl call empty).entries.lookup deviceId = some entry ∧
      entry.telemetry.dirtyRevision ≠ 0 ∧ entry.markedAt ≤ since := by
  obtain ⟨before, write, after, rfl, rfl, htelemetry, hdirty⟩ := h
  obtain ⟨entry, hentry, htime⟩ := mark_entry before since htelemetry
  obtain ⟨last, hlast, hlastDirty, hsame⟩ := markedAt_calls hentry hdirty
  refine ⟨last, by rw [List.foldl_append]; exact hlast, hlastDirty, ?_⟩
  rw [hsame]
  rcases htime with heq | ⟨-, hmem⟩
  · exact Int.le_of_eq heq
  · rw [List.filterMap_append, List.pairwise_append] at htimes
    exact htimes.2.2 _ hmem since (by simp [DirtyCall.time])

/-- Of a device that has been dirty from a time, the entry is as old as that. -/
lemma entry_of_dirtyFrom {calls : List DirtyCall} {since : TimePoint}
    (h : DirtyFrom calls deviceId since) :
    ∃ entry, (calls.foldl call empty).entries.lookup deviceId = some entry ∧
      entry.telemetry.dirtyRevision ≠ 0 ∧ entry.markedAt = since := by
  obtain ⟨before, write, after, rfl, rfl, htelemetry, hclean, hdirty⟩ := h
  obtain ⟨entry, hentry, htime⟩ := mark_entry before since htelemetry
  obtain ⟨last, hlast, hlastDirty, hsame⟩ := markedAt_calls hentry hdirty
  refine ⟨last, by rw [List.foldl_append]; exact hlast, hlastDirty, ?_⟩
  rw [hsame]
  exact htime.resolve_right fun hold => hclean hold.1

/-- **Dirty telemetry is taken**, by one of the two takes, once the interval has passed. -/
lemma taken_of_due {now interval : TimePoint} (hentry : dirty.entries.lookup deviceId = some entry)
    (hdirty : entry.telemetry.dirtyRevision ≠ 0) (hdue : interval ≤ now - entry.markedAt) :
    entry.toWrite ∈ dirty.takeImmediate.1 ++ (dirty.takeImmediate.2.takeTelemetryDue now interval).1
    := by
  have hasDirty : entry.hasDirty = true := DirtyEntry.hasDirty_of_field .telemetry hdirty
  by_cases hurgency : entry.urgency = .immediate
  · refine List.mem_append_left _ (toWrite_mem hentry ?_)
    simp [Take.due, hasDirty, hurgency]
  · have hlookup := lookup_takeMatching dirty .immediate deviceId
    rw [hentry, Option.map_some, if_neg (by simp [Take.due, hurgency])] at hlookup
    refine List.mem_append_right _ (toWrite_mem hlookup ?_)
    simp [Take.due, hasDirty, hurgency, hdue]

end DirtyState

open DirtyState in
/-- **The batches of the telemetry**, after any calls at times that do not go back: telemetry
that has been dirty for the interval, since any of its marks, is taken by `TakeImmediate` and
then `TakeTelemetryDue`; and `TakeTelemetryDue` takes no device whose telemetry has been dirty
for less than that. -/
theorem telemetry_batched (calls : List DirtyCall)
    (htimes : (calls.filterMap DirtyCall.time).Pairwise (· ≤ ·)) (deviceId : String)
    (since now interval : TimePoint) :
    (DirtySince calls deviceId since → interval ≤ now - since →
      ∃ write ∈ (calls.foldl call empty).takeImmediate.1 ++
          ((calls.foldl call empty).takeImmediate.2.takeTelemetryDue now interval).1,
        write.record.deviceId = deviceId ∧ write.writeTelemetry = true) ∧
    (DirtyFrom calls deviceId since → now - since < interval →
      ∀ write ∈ ((calls.foldl call empty).takeTelemetryDue now interval).1,
        write.record.deviceId ≠ deviceId) := by
  have hmarked := entriesMarked_calls calls
  constructor
  · intro hsince hdue
    obtain ⟨entry, hentry, hdirty, htime⟩ := entry_of_dirtySince htimes hsince
    refine ⟨entry.toWrite, taken_of_due hentry hdirty ?_, (hmarked deviceId entry hentry).1,
      decide_eq_true hdirty⟩
    exact Int.le_trans hdue (Int.sub_le_sub_left htime now)
  · rintro hfrom hearly write hmem rfl
    obtain ⟨entry, hentry, -, htime⟩ := entry_of_dirtyFrom hfrom
    obtain ⟨id, taken, htaken, hdue, hwrite⟩ := mem_takeMatching hmem
    have hid : id = write.record.deviceId := by
      rw [hwrite]
      exact (hmarked id taken htaken).1.symm
    rw [hid, hentry] at htaken
    cases htaken
    simp only [Take.due, Bool.and_eq_true, decide_eq_true_eq, htime] at hdue
    exact absurd hdue.2.2 (Int.not_le.mpr hearly)

namespace Sample

/-- Telemetry of the device, after its registration. -/
def telemetryWrite : DesiredDeviceWrite :=
  { sampleWrite 2 with
    writeMetadata := false
    writeStatus := false
    writeTelemetry := true
    urgency := .telemetryBatch }

def registrationCalls : List DirtyCall :=
  [.mark (sampleWrite 1) 0, .takeImmediate, .complete (sampleWrite 1)]

def telemetryCalls : List DirtyCall := registrationCalls ++ [.mark telemetryWrite 10]

lemma dirtyFrom_ten : DirtyState.DirtyFrom telemetryCalls "a" 10 := by
  refine ⟨registrationCalls, telemetryWrite, [], rfl, rfl, rfl, by decide +kernel, ?_⟩
  intro passed hpassed
  rw [List.prefix_nil.mp hpassed]
  show ((registrationCalls.foldl DirtyState.call .empty).mark telemetryWrite 10).TelemetryDirty "a"
  decide +kernel

end Sample

open DirtyState Sample in
/-- Telemetry that is marked at the time ten goes into the batch at fifteen, not at twelve. -/
theorem telemetry_batched_sample :
    (∃ write ∈ (telemetryCalls.foldl call empty).takeImmediate.1 ++
        ((telemetryCalls.foldl call empty).takeImmediate.2.takeTelemetryDue 15 5).1,
      write.record.deviceId = "a" ∧ write.writeTelemetry = true) ∧
    ∀ write ∈ ((telemetryCalls.foldl call empty).takeTelemetryDue 12 5).1,
      write.record.deviceId ≠ "a" := by
  have htimes : (telemetryCalls.filterMap DirtyCall.time).Pairwise (· ≤ ·) := by decide
  obtain ⟨before, write, after, hcalls, hid, htelemetry, -, hdirty⟩ := dirtyFrom_ten
  exact ⟨(telemetry_batched telemetryCalls htimes "a" 10 15 5).1
      ⟨before, write, after, hcalls, hid, htelemetry, hdirty⟩ (by decide),
    (telemetry_batched telemetryCalls htimes "a" 10 12 5).2 dirtyFrom_ten (by decide)⟩

end CnsServer
