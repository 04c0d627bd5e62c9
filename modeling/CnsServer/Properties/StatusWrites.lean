/-
When a changed status is written.

* `Mutation.mayNotWait`: everything but the telemetry of a device that stays online;
* `StatusWatch`: the service with the mutations of this turn of `ProcessReady` that may
  not wait, and the writes it has called the submitter with in this turn;
* `Waits`: a mutation stands in the dirty state; `waits_apply`: it does until it is taken;
* `DueInTime`: a status that is still dirty once the immediate writes have been submitted
  is due with the telemetry;
* `status_written`: **what may not wait is submitted in the same turn**, in every run in
  which this is so;
* `status_delayed`: the telemetry of an offline device is left for the next batch.
-/
import CnsServer.Invariants.WriteBook
import CnsServer.Runtime.DeviceScenario

namespace CnsServer

open DeviceService

/-! ### The watch -/

/-- Not the telemetry of a device that stays online. -/
def Mutation.mayNotWait (mutation : Mutation) : Bool :=
  mutation.reason ≠ .telemetry || mutation.statusChanged

/-- The service with what it has to write in this turn, and the writes it has called the
submitter with, each with the answer. -/
structure StatusWatch where
  service : DeviceService
  changes : List Mutation
  handed : List (DesiredDeviceWrite × SubmitOutcome)

namespace StatusWatch

/-- The changes from before an input: a turn begins with none, and a cancel takes back
what has not been dispatched. -/
def kept (w : StatusWatch) : DeviceInput → List Mutation
  | .begin => []
  | .resultsDone => if w.service.cancelRequested then [] else w.changes
  | _ => w.changes

/-- The calls of the submitter after an input. -/
def handedAfter (w : StatusWatch) : DeviceInput → List (DesiredDeviceWrite × SubmitOutcome)
  | .begin => []
  | .write outcome _ => w.handed ++
      (w.service.phase.writes.take 1).map fun write => (write, outcome)
  | _ => w.handed

end StatusWatch

/-- The device service under watch. -/
def statusWatch (cfg : DeviceServiceConfig) : Machine StatusWatch DeviceInput where
  init w := (deviceService cfg).init w.service ∧ w.changes = [] ∧ w.handed = []
  enabled w input := input.Enabled cfg w.service
  next w input :=
    { service := input.apply cfg w.service
      changes := ((input.marks cfg w.service).map Prod.fst).filter Mutation.mayNotWait ++
        w.kept input
      handed := w.handedAfter input }

/-- The write is of the device of the mutation, writes its status, and is not older. -/
def DesiredDeviceWrite.Covers (write : DesiredDeviceWrite) (mutation : Mutation) : Prop :=
  write.record.deviceId = mutation.record.deviceId ∧ write.writeStatus = true ∧
    mutation.record.revision ≤ write.revision

/-- The submitter has been called for the mutation. -/
def StatusWatch.Written (w : StatusWatch) (mutation : Mutation) : Prop :=
  ∃ call ∈ w.handed, call.1.Covers mutation

/-- The immediate writes have been submitted. -/
def DevicePhase.endsImmediate : DevicePhase → Bool
  | .dispatching .immediate [] _ => true
  | _ => false

/-- When the immediate writes have been submitted, a telemetry whose status is still dirty,
and not about to be written at once, is due with the other telemetry. -/
def DueInTime (cfg : DeviceServiceConfig) (w : StatusWatch) : DeviceInput → Prop
  | .endBatch now _ => w.service.phase.endsImmediate = true →
      ∀ mutation ∈ w.changes, mutation.reason = .telemetry →
        ∀ entry ∈ w.service.dirty.entries.lookup mutation.record.deviceId,
          entry.status.dirtyRevision ≠ 0 → entry.urgency ≠ .immediate →
            cfg.telemetryInterval ≤ now - entry.markedAt
  | _ => True

instance decidableDueInTime (cfg : DeviceServiceConfig) (w : StatusWatch) :
    ∀ input, Decidable (DueInTime cfg w input)
  | .endBatch now _ => inferInstanceAs (Decidable (w.service.phase.endsImmediate = true →
      ∀ mutation ∈ w.changes, mutation.reason = .telemetry →
        ∀ entry ∈ w.service.dirty.entries.lookup mutation.record.deviceId,
          entry.status.dirtyRevision ≠ 0 → entry.urgency ≠ .immediate →
            cfg.telemetryInterval ≤ now - entry.markedAt))
  | .begin | .result _ _ _ | .resultsDone | .message _ _ | .messagesDone _ | .provision _
  | .scan _ _ _ _ | .dispatch _ | .write _ _ | .finish | .close | .drained | .cancel
  | .requestSnapshot => .isTrue trivial

/-! ### What waits -/

/-- The entry is to write the status of the mutation. -/
structure DirtyEntry.Holds (entry : DirtyEntry) (mutation : Mutation) : Prop where
  revision : mutation.record.revision ≤ entry.revision
  status : entry.status.dirtyRevision ≠ 0

/-- The mutation waits, for the immediate writes unless it is a telemetry. -/
def Waits (dirty : DirtyState) (mutation : Mutation) : Prop :=
  ∃ entry, dirty.entries.lookup mutation.record.deviceId = some entry ∧ entry.Holds mutation ∧
    (mutation.reason ≠ .telemetry → entry.urgency = .immediate)

/-- The mutation is a telemetry that waits for the second batch. -/
def WaitsForBatch (dirty : DirtyState) (mutation : Mutation) : Prop :=
  mutation.reason = .telemetry ∧
    ∃ entry, dirty.entries.lookup mutation.record.deviceId = some entry ∧ entry.Holds mutation ∧
      entry.urgency ≠ .immediate

/-- The entry is to write all that the other one is, and as soon. -/
structure DirtyEntry.Carries (entry' entry : DirtyEntry) : Prop where
  revision : entry.revision ≤ entry'.revision
  status : entry.status.dirtyRevision ≤ entry'.status.dirtyRevision
  urgent : entry.urgency = .immediate → entry'.urgency = .immediate

namespace BookCall

/-- The call takes nothing out of the dirty state. -/
def takesNothing : BookCall → Bool
  | .take _ _ | .cancelled => false
  | _ => true

end BookCall

section

variable {cfg : DeviceServiceConfig} {s : DeviceService} {w : StatusWatch} {b : WriteBook}
  {dirty : DirtyState} {entry : DirtyEntry} {mutation : Mutation} {write : DesiredDeviceWrite}

lemma DirtyEntry.Holds.carried (h : entry.Holds mutation) {entry' : DirtyEntry}
    (hcarries : entry'.Carries entry) : entry'.Holds mutation := by
  refine ⟨h.revision.trans hcarries.revision, fun hzero => h.status ?_⟩
  have hle := hcarries.status
  rw [hzero] at hle
  exact Nat.le_zero.mp hle

/-! ### The operations of the dirty state -/

/-- An entry that receives a write stays as urgent. -/
lemma urgency_immediate {p : Prop} [Decidable p] {urgency : Urgency} (h : urgency = .immediate) :
    (if p then Urgency.immediate else urgency) = .immediate := by
  rw [h, ite_self]

lemma mark_carries (entry : DirtyEntry) (write : DesiredDeviceWrite) (markedAt : TimePoint) :
    ((DirtyEntry.receive (some entry) write markedAt).mark write markedAt).Carries entry := by
  obtain ⟨record, hreceive⟩ := DirtyEntry.receive_some entry write markedAt
  rw [hreceive]
  exact ⟨le_max_left _ _, FieldState.le_mark_dirtyRevision _ _ _, fun h => urgency_immediate h⟩

lemma restore_carries (entry : DirtyEntry) (write : DesiredDeviceWrite) (now : TimePoint) :
    ((DirtyEntry.receive (some entry) write now).restore write).Carries entry := by
  obtain ⟨record, hreceive⟩ := DirtyEntry.receive_some entry write now
  rw [hreceive]
  exact ⟨le_max_left _ _, FieldState.le_restore_dirtyRevision _ _ _, fun h => urgency_immediate h⟩

lemma complete_carries (entry : DirtyEntry) (write : DesiredDeviceWrite) :
    (entry.complete write).Carries entry :=
  ⟨le_rfl, (FieldState.complete_dirtyRevision _ _ _).ge, id⟩

/-- An entry with a dirty status has work. -/
lemma DirtyEntry.Holds.hasWork (h : entry.Holds mutation) : entry.hasWork = true :=
  DirtyEntry.hasWork_of_dirty .status h.status

/-! ### The book -/

/-- A waiting mutation is carried by the entry of its device. -/
lemma Waits.carried (h : Waits dirty mutation) {dirty' : DirtyState}
    (hcarried : ∀ entry, dirty.entries.lookup mutation.record.deviceId = some entry →
      entry.Holds mutation → ∃ entry', entry'.Carries entry ∧
        dirty'.entries.lookup mutation.record.deviceId = some entry') : Waits dirty' mutation := by
  obtain ⟨entry, hentry, hholds, hurgent⟩ := h
  obtain ⟨entry', hcarries, hentry'⟩ := hcarried entry hentry hholds
  exact ⟨entry', hentry', hholds.carried hcarries, fun hreason => hcarries.urgent (hurgent hreason)⟩

/-- An operation on one device. -/
lemma carried_ite {deviceId other : String} {entry' : DirtyEntry}
    (hcarries : entry'.Carries entry) :
    ∃ found, found.Carries entry ∧
      (if deviceId = other then some entry' else some entry) = some found := by
  split
  · exact ⟨entry', hcarries, rfl⟩
  · exact ⟨entry, ⟨le_rfl, le_rfl, id⟩, rfl⟩

lemma Waits.mark (h : Waits dirty mutation) (write : DesiredDeviceWrite) (markedAt : TimePoint) :
    Waits (dirty.mark write markedAt) mutation := by
  refine h.carried fun entry hentry _ => ?_
  rw [DirtyState.lookup_mark, hentry]
  exact carried_ite (mark_carries entry write markedAt)

lemma Waits.restore (h : Waits dirty mutation) (write : DesiredDeviceWrite) (now : TimePoint) :
    Waits (dirty.restore write now) mutation := by
  refine h.carried fun entry hentry _ => ?_
  rw [DirtyState.lookup_restore, hentry]
  exact carried_ite (restore_carries entry write now)

lemma Waits.complete (h : Waits dirty mutation) (write : DesiredDeviceWrite) :
    Waits (dirty.complete write) mutation := by
  refine h.carried fun entry hentry hholds => ?_
  have hcarries := complete_carries entry write
  rw [DirtyState.lookup_complete, hentry, Option.bind_some,
    if_pos (hholds.carried hcarries).hasWork]
  exact carried_ite hcarries

/-- A mutation that is marked waits. -/
lemma waits_marked (hwaits : mutation.mayNotWait = true) (hrevision : mutation.record.revision ≠ 0)
    (markedAt : TimePoint) : Waits (dirty.mark (markedWrite mutation) markedAt) mutation := by
  have hentry := DirtyState.lookup_mark dirty (markedWrite mutation) markedAt
    mutation.record.deviceId
  rw [show (markedWrite mutation).record.deviceId = mutation.record.deviceId from rfl,
    if_pos rfl] at hentry
  refine ⟨_, hentry, ⟨DirtyEntry.le_receive_revision _ (markedWrite mutation) markedAt, ?_⟩,
    fun hreason => ?_⟩
  · have hselected : (markedWrite mutation).writeStatus = true := hwaits
    show (FieldState.mark _ (markedWrite mutation).writeStatus
      mutation.record.revision).dirtyRevision ≠ 0
    rw [hselected, FieldState.mark, if_pos rfl]
    exact (Nat.lt_of_lt_of_le (Nat.pos_of_ne_zero hrevision) (le_max_right _ _)).ne'
  · have hurgent : (markedWrite mutation).urgency = .immediate := if_neg hreason
    exact if_pos hurgent

/-- A mutation waits until it is taken. -/
lemma Waits.next (h : Waits b.dirty mutation) {call : BookCall} (hcall : call.takesNothing = true) :
    Waits (b.next call).dirty mutation := by
  cases call with
  | mark marked markedAt => exact h.mark _ markedAt
  | take take writes => cases hcall
  | replay writes => exact h
  | submit outcome now =>
      rw [WriteBook.next]
      split
      · exact h
      · split
        · exact h
        · exact h.restore _ now
  | completed deviceId revision =>
      rw [WriteBook.next]
      split
      · exact h
      · split
        · exact h.complete _
        · exact h
  | failed deviceId =>
      rw [WriteBook.next]
      split
      · exact h
      · exact h
  | cancelled => cases hcall

/-- The mutation is marked in one of the calls. -/
def MarkedIn (calls : List BookCall) (mutation : Mutation) : Prop :=
  mutation.mayNotWait = true ∧ mutation.record.revision ≠ 0 ∧
    ∃ markedAt, BookCall.mark mutation markedAt ∈ calls

/-- A mutation waits that did before the calls, or that is marked in them. -/
lemma foldl_waits (calls : List BookCall) (hcalls : ∀ call ∈ calls, call.takesNothing = true)
    (h : Waits b.dirty mutation ∨ MarkedIn calls mutation) :
    Waits (calls.foldl WriteBook.next b).dirty mutation := by
  induction calls generalizing b with
  | nil =>
      rcases h with h | ⟨-, -, markedAt, hnil⟩
      · exact h
      · cases hnil
  | cons call calls ih =>
      have hcall := hcalls call List.mem_cons_self
      refine ih (fun other hother => hcalls other (List.mem_cons_of_mem _ hother)) ?_
      rcases h with h | ⟨hwaits, hrevision, markedAt, hmem⟩
      · exact .inl (h.next hcall)
      · rcases List.mem_cons.mp hmem with rfl | hmem
        · exact .inl (waits_marked hwaits hrevision markedAt)
        · exact .inr ⟨hwaits, hrevision, markedAt, hmem⟩

/-! ### The steps -/

lemma bookCalls_takesNothing {answer : DatabaseResult} {writes : List DesiredDeviceWrite} :
    ∀ call ∈ answer.bookCalls writes, call.takesNothing = true := by
  intro call hcall
  rw [DatabaseResult.bookCalls] at hcall
  split at hcall
  · rw [List.mem_singleton.mp hcall]; rfl
  · rw [List.mem_singleton.mp hcall]; rfl
  · rw [List.mem_singleton.mp hcall]; rfl
  · cases hcall

lemma marks_takeNothing {marks : List (Mutation × TimePoint)} :
    ∀ call ∈ marks.map fun mark => BookCall.mark mark.1 mark.2, call.takesNothing = true := by
  intro call hcall
  obtain ⟨mark, -, rfl⟩ := List.mem_map.mp hcall
  rfl

/-- The inputs that take nothing out of the dirty state. -/
def DeviceInput.TakesNothing (s : DeviceService) : DeviceInput → Prop
  | .resultsDone => s.cancelRequested = false
  | .dispatch _ | .endBatch _ _ => False
  | _ => True

lemma DeviceInput.TakesNothing.calls {input : DeviceInput} (h : input.TakesNothing s) :
    ∀ call ∈ input.bookCalls cfg s, call.takesNothing = true := by
  cases input with
  | result answer writes now =>
      exact List.forall_mem_append.mpr ⟨bookCalls_takesNothing, marks_takeNothing⟩
  | resultsDone =>
      rw [DeviceInput.bookCalls, if_neg (Bool.eq_false_iff.mp h)]
      exact List.forall_mem_nil _
  | dispatch writes => exact h.elim
  | endBatch now writes => exact h.elim
  | write outcome now => exact List.forall_mem_singleton.mpr rfl
  | _ => exact marks_takeNothing

/-- What is new among the changes is marked by the step. -/
lemma marked_of_mem {input : DeviceInput} (henabled : input.Enabled cfg s)
    (hmem : mutation ∈ ((input.marks cfg s).map Prod.fst).filter Mutation.mayNotWait) :
    MarkedIn (input.bookCalls cfg s) mutation := by
  obtain ⟨hmarked, hwaits⟩ := List.mem_filter.mp hmem
  obtain ⟨mark, hmark, rfl⟩ := List.mem_map.mp hmarked
  obtain ⟨record, hnext⟩ := marks_next henabled hmark
  refine ⟨hwaits, ?_, mark.2, mark_mem_bookCalls hmark⟩
  rw [hnext.revision]
  exact Nat.succ_ne_zero _

/-- The changes after a step wait if those before it did. -/
lemma waits_apply {input : DeviceInput} (henabled : input.Enabled cfg w.service)
    (htakes : input.TakesNothing w.service)
    (h : ∀ mutation ∈ w.kept input, Waits w.service.dirty mutation) :
    ∀ mutation ∈ ((statusWatch cfg).next w input).changes,
      Waits (input.apply cfg w.service).dirty mutation := by
  intro mutation hmem
  have hbook : (input.apply cfg w.service).dirty =
      ((input.bookCalls cfg w.service).foldl WriteBook.next w.service.book).dirty :=
    congrArg WriteBook.dirty (book_next henabled)
  rw [hbook]
  refine foldl_waits _ htakes.calls ?_
  rcases List.mem_append.mp hmem with hmarked | hkept
  · exact .inr (marked_of_mem henabled hmarked)
  · exact .inl (h mutation hkept)

/-! ### The phases -/

namespace StatusWatch

/-- What is known of the changes in a phase: they wait, until the thread takes their
writes; a telemetry may be left for the second batch. -/
def Kept (w : StatusWatch) : DevicePhase → Prop
  | .idle => True
  | .dispatching .immediate staged _ => ∀ mutation ∈ w.changes,
      w.Written mutation ∨ (∃ write ∈ staged, write.Covers mutation) ∨
        (WaitsForBatch w.service.dirty mutation ∧
          ∀ write ∈ staged, write.record.deviceId ≠ mutation.record.deviceId)
  | .dispatching .telemetry staged _ => ∀ mutation ∈ w.changes,
      w.Written mutation ∨ ∃ write ∈ staged, write.Covers mutation
  | .dispatching .all _ _ => w.service.inputDrained = true
  | .snapshot => w.service.databaseUnavailable = true ∨ w.service.inputDrained = true ∨
      ∀ mutation ∈ w.changes, w.Written mutation
  | _ => ∀ mutation ∈ w.changes, Waits w.service.dirty mutation

end StatusWatch

/-- The write of an entry covers the mutation that the entry holds. -/
lemma DirtyEntry.Holds.covers (h : entry.Holds mutation)
    (hid : entry.record.deviceId = mutation.record.deviceId) : entry.toWrite.Covers mutation :=
  ⟨hid, decide_eq_true h.status, h.revision⟩

lemma DirtyEntry.Holds.hasDirty (h : entry.Holds mutation) : entry.hasDirty = true :=
  DirtyEntry.hasDirty_of_field .status h.status

/-- The immediate writes are taken: a change is among them, or waits for the others. -/
lemma Waits.takeImmediate (h : Waits dirty mutation) (hkeyed : EntriesKeyed dirty)
    {writes : List DesiredDeviceWrite} (hwrites : writes.Perm dirty.takeImmediate.1) :
    (∃ write ∈ writes, write.Covers mutation) ∨
      (WaitsForBatch dirty.takeImmediate.2 mutation ∧
        ∀ write ∈ writes, write.record.deviceId ≠ mutation.record.deviceId) := by
  obtain ⟨entry, hentry, hholds, himmediate⟩ := h
  by_cases hurgent : entry.urgency = .immediate
  · have hdue : DirtyState.Take.due .immediate entry = true := by
      simp [DirtyState.Take.due, hholds.hasDirty, hurgent]
    exact .inl ⟨entry.toWrite, hwrites.mem_iff.mpr (DirtyState.toWrite_mem hentry hdue),
      hholds.covers (hkeyed _ _ hentry)⟩
  · have hdue : DirtyState.Take.due .immediate entry = false := by
      simp [DirtyState.Take.due, hurgent]
    have htelemetry : mutation.reason = .telemetry := not_not.mp (mt himmediate hurgent)
    refine .inr ⟨⟨htelemetry, entry, ?_, hholds, hurgent⟩, fun write hmem hid => ?_⟩
    · rw [DirtyState.takeImmediate, DirtyState.lookup_takeMatching, hentry, Option.map_some, hdue]
      rfl
    · obtain ⟨deviceId, other, hother, hotherdue, rfl⟩ :=
        DirtyState.mem_takeMatching (hwrites.mem_iff.mp hmem)
      have hsame : deviceId = mutation.record.deviceId := (hkeyed _ _ hother).symm.trans hid
      rw [hsame, hentry, Option.some_inj] at hother
      rw [← hother, hdue] at hotherdue
      cases hotherdue

/-- The telemetry writes are taken: what is due is among them. -/
lemma WaitsForBatch.takeDue (h : WaitsForBatch dirty mutation) (hkeyed : EntriesKeyed dirty)
    {now interval : TimePoint} (hdue : mutation.reason = .telemetry →
      ∀ entry ∈ dirty.entries.lookup mutation.record.deviceId, entry.status.dirtyRevision ≠ 0 →
        entry.urgency ≠ .immediate → interval ≤ now - entry.markedAt)
    {writes : List DesiredDeviceWrite}
    (hwrites : writes.Perm (dirty.takeTelemetryDue now interval).1) :
    ∃ write ∈ writes, write.Covers mutation := by
  obtain ⟨htelemetry, entry, hentry, hholds, hurgent⟩ := h
  have htaken : DirtyState.Take.due (.telemetryDue now interval) entry = true := by
    simp [DirtyState.Take.due, hholds.hasDirty, hurgent,
      hdue htelemetry entry hentry hholds.status hurgent]
  exact ⟨entry.toWrite, hwrites.mem_iff.mpr (DirtyState.toWrite_mem hentry htaken),
    hholds.covers (hkeyed _ _ hentry)⟩

/-- A write of another device, whatever becomes of it. -/
lemma WaitsForBatch.submit (h : WaitsForBatch b.dirty mutation)
    (hothers : ∀ write ∈ b.staged, write.record.deviceId ≠ mutation.record.deviceId)
    (outcome : SubmitOutcome) (now : TimePoint) :
    WaitsForBatch (b.next (.submit outcome now)).dirty mutation := by
  rw [WriteBook.next]
  split
  · exact h
  next write staged hstaged =>
  split
  · exact h
  · obtain ⟨htelemetry, entry, hentry, hrest⟩ := h
    refine ⟨htelemetry, entry, ?_, hrest⟩
    have hother := hothers write (hstaged ▸ List.mem_cons_self)
    exact (DirtyState.lookup_restore b.dirty write now _).trans ((if_neg hother.symm).trans hentry)

/-- The thread is in a turn, and has not taken anything yet. -/
def DevicePhase.beforeDispatch : DevicePhase → Bool
  | .idle | .dispatching _ _ _ | .snapshot => false
  | _ => true

namespace StatusWatch

lemma kept_before {phase : DevicePhase} (hphase : phase.beforeDispatch = true) :
    w.Kept phase ↔ ∀ mutation ∈ w.changes, Waits w.service.dirty mutation := by
  cases phase with
  | idle => cases hphase
  | dispatching batch writes accepted => cases hphase
  | snapshot => cases hphase
  | _ => exact Iff.rfl

/-- A step before the writes are taken. -/
lemma before_kept {input : DeviceInput} (henabled : input.Enabled cfg w.service)
    (htakes : input.TakesNothing w.service) (hkept : w.kept input = w.changes)
    (h : w.Kept w.service.phase) (hbefore : w.service.phase.beforeDispatch = true)
    (hafter : (input.apply cfg w.service).phase.beforeDispatch = true) :
    ((statusWatch cfg).next w input).Kept (input.apply cfg w.service).phase := by
  refine (kept_before hafter).mpr (waits_apply henabled htakes ?_)
  rw [hkept]
  exact (kept_before hbefore).mp h

/-- The thread goes on while it has not taken anything. -/
lemma resultsDone_kept (henabled : w.service.phase = .results) (h : w.Kept w.service.phase) :
    ((statusWatch cfg).next w .resultsDone).Kept
      (DeviceInput.apply cfg w.service .resultsDone).phase := by
  by_cases hcancel : w.service.cancelRequested = true
  · have hnone : ((statusWatch cfg).next w .resultsDone).changes = [] := if_pos hcancel
    refine (kept_before rfl).mpr ?_
    rw [hnone]
    exact List.forall_mem_nil _
  · exact before_kept henabled (Bool.eq_false_iff.mpr hcancel) (if_neg hcancel) h
      (by rw [henabled]; rfl) rfl

lemma result_kept {answer : DatabaseResult} {writes : List DesiredDeviceWrite} {now : TimePoint}
    (henabled : DeviceInput.Enabled cfg w.service (.result answer writes now))
    (h : w.Kept w.service.phase) :
    ((statusWatch cfg).next w (.result answer writes now)).Kept
      (w.service.handleResult answer writes now).phase := by
  have hbefore : w.service.phase.beforeDispatch = true := by rw [henabled.1]; rfl
  refine before_kept henabled trivial rfl h hbefore ?_
  show (w.service.handleResult answer writes now).phase.beforeDispatch = true
  rcases handleResult_phase answer writes now with hsame | hresults | hreplaying
  · rw [hsame]
    exact hbefore
  · rw [hresults]
    rfl
  · rw [hreplaying]
    rfl

/-- `DispatchWrites` begins. -/
lemma dispatch_kept {writes : List DesiredDeviceWrite}
    (henabled : DeviceInput.Enabled cfg w.service (.dispatch writes))
    (hkeyed : EntriesKeyed w.service.dirty) (h : w.Kept w.service.phase) :
    ((statusWatch cfg).next w (.dispatch writes)).Kept (w.service.beginDispatch writes).phase := by
  obtain ⟨hphase, hwrites⟩ := henabled
  rw [hphase] at h
  have hnext : ((statusWatch cfg).next w (.dispatch writes)).service =
      w.service.beginDispatch writes := rfl
  rw [firstBatch] at hwrites
  rw [beginDispatch] at hnext ⊢
  split
  · next hunavailable =>
      rw [if_pos hunavailable] at hnext
      refine .inl ?_
      rw [hnext]
      exact hunavailable
  next hunavailable =>
  rw [if_neg hunavailable] at hnext
  split
  · next hdrained =>
      rw [if_pos hdrained] at hnext
      split
      · next hblocked =>
          rw [if_pos hblocked] at hnext
          refine .inr (.inl ?_)
          rw [hnext]
          exact hdrained
      · next hblocked =>
          rw [if_neg hblocked] at hnext
          show ((statusWatch cfg).next w (.dispatch writes)).service.inputDrained = true
          rw [hnext]
          exact hdrained
  · next hdrained =>
      rw [if_neg hdrained] at hnext hwrites
      intro mutation hmem
      refine .inr ?_
      rw [hnext]
      exact (h mutation hmem).takeImmediate hkeyed hwrites

lemma submitWrite_inputDrained (write : DesiredDeviceWrite) (outcome : SubmitOutcome)
    (now : TimePoint) : (s.submitWrite write outcome now).inputDrained = s.inputDrained := by
  rw [submitWrite]
  split
  · dsimp only
    split
    · rfl
    · rfl
  · rw [degrade]
    split
    · rfl
    · rfl

/-- The head of the writes is handed over, whatever the submitter answers. -/
lemma write_kept {outcome : SubmitOutcome} {now : TimePoint}
    (henabled : DeviceInput.Enabled cfg w.service (.write outcome now))
    (h : w.Kept w.service.phase) :
    ((statusWatch cfg).next w (.write outcome now)).Kept
      (DeviceInput.apply cfg w.service (.write outcome now)).phase := by
  obtain ⟨desired, writes, hphase | ⟨batch, accepted, hphase⟩⟩ := id henabled
  · refine before_kept henabled trivial rfl h (by rw [hphase]; rfl) ?_
    simp only [DeviceInput.apply, hphase]
    split
    · rfl
    · rfl
  have hnext : (DeviceInput.apply cfg w.service (.write outcome now)).phase =
      .dispatching batch writes (accepted && outcome = .accepted) := by
    simp only [DeviceInput.apply, hphase]
  have hbook : (DeviceInput.apply cfg w.service (.write outcome now)).book =
      w.service.book.next (.submit outcome now) := book_next henabled
  have hstaged : w.service.phase.writes = desired :: writes := by rw [hphase]; rfl
  have hhanded : ((statusWatch cfg).next w (.write outcome now)).handed =
      w.handed ++ [(desired, outcome)] := by
    show w.handed ++ (w.service.phase.writes.take 1).map _ = _
    rw [hstaged]
    rfl
  have hwritten : ∀ mutation, w.Written mutation ∨ desired.Covers mutation →
      ((statusWatch cfg).next w (.write outcome now)).Written mutation := by
    rintro mutation (⟨call, hcall, hcovers⟩ | hcovers)
    · exact ⟨call, hhanded ▸ List.mem_append_left _ hcall, hcovers⟩
    · exact ⟨(desired, outcome), hhanded ▸ List.mem_append_right _ List.mem_cons_self, hcovers⟩
  rw [hnext]
  rw [hphase] at h
  cases batch with
  | immediate =>
      intro mutation hmem
      rcases h mutation hmem with hcall | ⟨write, hwrite, hcovers⟩ | ⟨hwaits, hothers⟩
      · exact .inl (hwritten mutation (.inl hcall))
      · rcases List.mem_cons.mp hwrite with rfl | hwrite
        · exact .inl (hwritten mutation (.inr hcovers))
        · exact .inr (.inl ⟨write, hwrite, hcovers⟩)
      · refine .inr (.inr ⟨?_, fun write hwrite => hothers write (List.mem_cons_of_mem _ hwrite)⟩)
        have hsubmitted := @WaitsForBatch.submit w.service.book mutation hwaits
          (fun write hwrite => hothers write (hstaged ▸ hwrite)) outcome now
        rw [← hbook] at hsubmitted
        exact hsubmitted
  | telemetry =>
      intro mutation hmem
      rcases h mutation hmem with hcall | ⟨write, hwrite, hcovers⟩
      · exact .inl (hwritten mutation (.inl hcall))
      · rcases List.mem_cons.mp hwrite with rfl | hwrite
        · exact .inl (hwritten mutation (.inr hcovers))
        · exact .inr ⟨write, hwrite, hcovers⟩
  | all =>
      have hdrained : (DeviceInput.apply cfg w.service (.write outcome now)).inputDrained =
          w.service.inputDrained := by
        simp only [DeviceInput.apply, hphase]
        exact submitWrite_inputDrained desired outcome now
      exact hdrained.trans h

/-- A batch is over. -/
lemma endBatch_kept {now : TimePoint} {writes : List DesiredDeviceWrite}
    (henabled : DeviceInput.Enabled cfg w.service (.endBatch now writes))
    (hdue : DueInTime cfg w (.endBatch now writes)) (hkeyed : EntriesKeyed w.service.dirty)
    (h : w.Kept w.service.phase) :
    ((statusWatch cfg).next w (.endBatch now writes)).Kept
      (DeviceInput.apply cfg w.service (.endBatch now writes)).phase := by
  obtain ⟨batch, accepted, hphase, hwrites⟩ := henabled
  rw [hphase] at h
  cases batch with
  | immediate =>
      have hnext : (DeviceInput.apply cfg w.service (.endBatch now writes)).phase =
          .dispatching .telemetry writes true := by
        simp only [DeviceInput.apply, hphase, endBatch]
      have hends : w.service.phase.endsImmediate = true := by rw [hphase]; rfl
      rw [hnext]
      intro mutation hmem
      rcases h mutation hmem with hcall | ⟨write, hnil, -⟩ | ⟨hwaits, -⟩
      · exact .inl hcall
      · cases hnil
      · exact .inr (hwaits.takeDue hkeyed (hdue hends mutation hmem) (hwrites rfl))
  | telemetry =>
      have hnext : (DeviceInput.apply cfg w.service (.endBatch now writes)).phase = .snapshot := by
        simp only [DeviceInput.apply, hphase, endBatch]
      rw [hnext]
      refine .inr (.inr fun mutation hmem => ?_)
      rcases h mutation hmem with hcall | ⟨write, hnil, -⟩
      · exact hcall
      · cases hnil
  | all =>
      have hnext : (DeviceInput.apply cfg w.service (.endBatch now writes)).phase = .snapshot := by
        simp only [DeviceInput.apply, hphase, endBatch]
      rw [hnext]
      refine .inr (.inl ?_)
      have hdrained : (DeviceInput.apply cfg w.service (.endBatch now writes)).inputDrained =
          w.service.inputDrained := by
        simp only [DeviceInput.apply, hphase, endBatch]
      exact hdrained.trans h

/-- A step of the watch keeps what is known. -/
lemma next_kept {input : DeviceInput} (henabled : input.Enabled cfg w.service)
    (hdue : DueInTime cfg w input) (hkeyed : EntriesKeyed w.service.dirty)
    (h : w.Kept w.service.phase) :
    ((statusWatch cfg).next w input).Kept (input.apply cfg w.service).phase := by
  cases input with
  | begin => exact List.forall_mem_nil _
  | result answer writes now => exact result_kept henabled h
  | resultsDone => exact resultsDone_kept henabled h
  | message inbound now =>
      have hphase : w.service.phase = .messages := henabled
      refine before_kept henabled trivial rfl h (by rw [hphase]; rfl) ?_
      rw [DeviceInput.apply, handleMessage_phase, hphase]
      rfl
  | messagesDone deviceIds =>
      refine before_kept henabled trivial rfl h (by rw [henabled.1]; rfl) ?_
      simp only [DeviceInput.apply]
      split
      · rfl
      · rfl
  | provision outcome =>
      obtain ⟨deviceId, deviceIds, hphase⟩ := id henabled
      refine before_kept henabled trivial rfl h (by rw [hphase]; rfl) ?_
      simp only [DeviceInput.apply, hphase]
      split
      · rfl
      · rfl
  | scan now systemNow mutations markedAt =>
      refine before_kept henabled trivial rfl h (by rw [henabled.1]; rfl) ?_
      rw [DeviceInput.apply, scan_phase]
      rfl
  | dispatch writes => exact dispatch_kept henabled hkeyed h
  | write outcome now => exact write_kept henabled h
  | endBatch now writes => exact endBatch_kept henabled hdue hkeyed h
  | finish => exact trivial
  | close => exact h
  | drained =>
      show StatusWatch.Kept _ w.service.phase
      rw [henabled.1]
      exact trivial
  | cancel => exact h
  | requestSnapshot =>
      have hsame : ((statusWatch cfg).next w .requestSnapshot).Kept w.service.phase := by
        simp only [statusWatch, DeviceInput.apply, requestExternalSnapshot]
        split
        · exact h
        · exact h
      have hphase : (DeviceInput.apply cfg w.service .requestSnapshot).phase = w.service.phase := by
        simp only [DeviceInput.apply, requestExternalSnapshot]
        split
        · rfl
        · rfl
      rw [hphase]
      exact hsame

/-! ### Every run -/

lemma watched_reachable (h : ((statusWatch cfg).restrict (DueInTime cfg)).Reachable w) :
    (deviceService cfg).Reachable w.service := by
  induction h with
  | start h0 => exact .start h0.1
  | step _ henabled ih => exact ih.step henabled.1

lemma kept_of_reachable (h : ((statusWatch cfg).restrict (DueInTime cfg)).Reachable w) :
    w.Kept w.service.phase := by
  refine h.invariant (P := fun w => w.Kept w.service.phase) (fun w h0 => ?_)
    fun w input hreach hkept henabled => ?_
  · obtain ⟨⟨records, systemNow, now, hservice⟩, -, -⟩ := h0
    rw [hservice]
    exact trivial
  · have hcurrent := currentRecords_of_reachable (watched_reachable hreach)
    exact next_kept henabled.1 henabled.2
      (fun deviceId entry hentry => (hcurrent.entries deviceId entry hentry).1) hkept

end StatusWatch

/-- **What may not wait is submitted in the same turn**: in every run in which the status
of a telemetry is due whenever the telemetry writes are taken, once a turn has dispatched
its writes, with the database available and the input not drained, the submitter has been
called for every mutation of this turn that may not wait. -/
theorem status_written (h : ((statusWatch cfg).restrict (DueInTime cfg)).Reachable w)
    (hphase : w.service.phase = .snapshot) (havailable : w.service.databaseUnavailable = false)
    (hinput : w.service.inputDrained = false) :
    ∀ mutation ∈ w.changes, ∃ call ∈ w.handed,
      call.1.record.deviceId = mutation.record.deviceId ∧ call.1.writeStatus = true ∧
        mutation.record.revision ≤ call.1.revision := by
  have hkept := StatusWatch.kept_of_reachable h
  rw [hphase] at hkept
  rcases hkept with hunavailable | hdrained | hwritten
  · rw [havailable] at hunavailable
    cases hunavailable
  · rw [hinput] at hdrained
    cases hdrained
  · exact hwritten

end

/-! ### Two turns -/

/-- The service with the device `b`, under watch. -/
def watchedStart : StatusWatch := ⟨sampleStart, [], []⟩

/-- The next step, among devices that send telemetry. -/
def watchedStep (w : StatusWatch) (cue : Cue) : DeviceInput := cue.input reportingConfig w.service

/-- The watch after a list of cues. -/
def performWatch (cues : List Cue) : StatusWatch :=
  (statusWatch reportingConfig).follow watchedStep watchedStart cues

lemma reachable_performWatch {ok : StatusWatch → DeviceInput → Prop} {cues : List Cue}
    (hok : (statusWatch reportingConfig).Meets watchedStep ok watchedStart cues) :
    ((statusWatch reportingConfig).restrict ok).Reachable (performWatch cues) := by
  have hstart : ((statusWatch reportingConfig).restrict ok).Reachable watchedStart :=
    .start ⟨⟨[flightController "b" none], 0, some 0, rfl⟩, rfl, rfl⟩
  exact hstart.follow (fun _ cue => cue.input_enabled) hok

/-- `b` registers, and its write is handed over in the same turn. -/
def registeredCues : List Cue :=
  [.go, .go, .receive (sampleRegistration "b" "b1"), .go, .go, .go, .go, .go, .go]

def registeredTurn : StatusWatch := performWatch registeredCues

theorem status_written_registered :
    registeredTurn.changes.length = 1 ∧ ∀ mutation ∈ registeredTurn.changes,
      ∃ call ∈ registeredTurn.handed, call.1.record.deviceId = mutation.record.deviceId ∧
        call.1.writeStatus = true ∧ mutation.record.revision ≤ call.1.revision := by
  have hmeets : (statusWatch reportingConfig).Meets watchedStep (DueInTime reportingConfig)
      watchedStart registeredCues := by decide +kernel
  have hreach : ((statusWatch reportingConfig).restrict
      (DueInTime reportingConfig)).Reachable registeredTurn := reachable_performWatch hmeets
  exact ⟨by decide +kernel, status_written hreach (by rfl) (by decide +kernel)
    (by decide +kernel)⟩

/-- `b`, which is offline, sends its telemetry. -/
def reportedCues : List Cue :=
  [.go, .go, .receive (sampleTelemetry "b" "tb"), .go, .go, .go, .go, .go]

def reportedTurn : StatusWatch := performWatch reportedCues

/-- The device is online from then on, and nothing is written in this turn. -/
theorem status_delayed :
    (statusWatch reportingConfig).Reachable reportedTurn ∧
      reportedTurn.service.phase = .snapshot ∧
      reportedTurn.service.databaseUnavailable = false ∧
      reportedTurn.service.inputDrained = false ∧ reportedTurn.handed = [] ∧
      ∃ mutation ∈ reportedTurn.changes, mutation.record.deviceId = "b" ∧
        mutation.statusChanged = true ∧ mutation.record.status = .online := by
  have hmeets : (statusWatch reportingConfig).Meets watchedStep (fun _ _ => True) watchedStart
      reportedCues := by decide +kernel
  have hreach : (statusWatch reportingConfig).Reachable reportedTurn :=
    (reachable_performWatch hmeets).of_restrict
  have hchanged : reportedTurn.changes.any (fun mutation =>
      mutation.record.deviceId = "b" && mutation.statusChanged &&
        mutation.record.status = .online) = true := by decide +kernel
  obtain ⟨mutation, hmem, hmutation⟩ := List.any_eq_true.mp hchanged
  simp only [Bool.and_eq_true, decide_eq_true_eq] at hmutation
  have hhanded : reportedTurn.handed = [] := List.eq_nil_of_length_eq_zero (by decide +kernel)
  exact ⟨hreach, by rfl, by decide +kernel, by decide +kernel, hhanded, mutation, hmem,
    hmutation.1.1, hmutation.1.2, hmutation.2⟩

end CnsServer
