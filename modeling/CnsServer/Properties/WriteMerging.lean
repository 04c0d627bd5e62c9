/-
The queue of device writes: newer writes are merged into the one that waits, and a
write that met a broken connection is merged back under what has come since.

* `joined_revision`, `joined_selects`, `joined_device`: what a merge keeps;
* `WriteHistory`, `writeHistory`: the worker with the writes it has accepted and the
  writes it has asked the store for, in runs without permanent failures in which no
  device is submitted with a lower revision than before;
* `WritesMerged`: the invariant: what is executing is not newer than what is queued,
  nothing is newer than what was submitted, and every flag is somewhere;
* `merged_of_reachable`: **nothing is lost and nothing goes back**.
-/
import CnsServer.Runtime.DeviceSide
import CnsServer.Persistence.DirtyState

namespace CnsServer

/-! ### The merge of two writes -/

/-- The device of a write. -/
abbrev DesiredDeviceWrite.deviceId (write : DesiredDeviceWrite) : String := write.record.deviceId

namespace DeviceSide

variable {current : Option DesiredDeviceWrite} {write : DesiredDeviceWrite}

lemma joined_device (h : ∀ queued ∈ current, queued.deviceId = write.deviceId) :
    (joined current write).deviceId = write.deviceId := by
  cases current with
  | none => rfl
  | some queued =>
      simp only [DesiredDeviceWrite.deviceId, joined, WorkerLoop.mergedWrite]
      split
      · rfl
      · exact h queued rfl

/-- The newer revision stays. -/
lemma joined_revision (current : Option DesiredDeviceWrite) (write : DesiredDeviceWrite) :
    write.revision ≤ (joined current write).revision ∧
      (∀ queued ∈ current, queued.revision ≤ (joined current write).revision) ∧
      ((joined current write).revision = write.revision ∨
        ∃ queued ∈ current, (joined current write).revision = queued.revision) := by
  cases current with
  | none => exact ⟨le_rfl, fun queued h => (nomatch h), .inl rfl⟩
  | some queued =>
      simp only [joined, WorkerLoop.mergedWrite, Option.mem_def, Option.some_inj]
      split
      · next hle => exact ⟨le_rfl, fun other h => h ▸ hle, .inl rfl⟩
      · next hlt =>
          exact ⟨(Nat.lt_of_not_le hlt).le, fun other h => h ▸ le_rfl, .inr ⟨queued, rfl, rfl⟩⟩

/-- No flag is dropped. -/
lemma joined_selects (current : Option DesiredDeviceWrite) (write : DesiredDeviceWrite)
    (field : DeviceField) :
    (write.selects field = true → (joined current write).selects field = true) ∧
      ∀ queued ∈ current, queued.selects field = true →
        (joined current write).selects field = true := by
  cases current with
  | none => exact ⟨id, fun queued h => (nomatch h)⟩
  | some queued =>
      simp only [Option.mem_def, Option.some_inj]
      cases field with
      | metadata =>
          simp only [joined, WorkerLoop.mergedWrite, DesiredDeviceWrite.selects, Bool.or_eq_true]
          exact ⟨.inr, fun other h hselects => .inl (h ▸ hselects)⟩
      | status =>
          simp only [joined, WorkerLoop.mergedWrite, DesiredDeviceWrite.selects, Bool.or_eq_true]
          exact ⟨.inr, fun other h hselects => .inl (h ▸ hselects)⟩
      | telemetry =>
          simp only [joined, WorkerLoop.mergedWrite, DesiredDeviceWrite.selects, Bool.or_eq_true]
          exact ⟨.inr, fun other h hselects => .inl (h ▸ hselects)⟩

/-- A write is queued or executing. -/
def Pending (d : DeviceSide) (write : DesiredDeviceWrite) : Prop :=
  d.hand = .write write ∨ ∃ deviceId, d.writes.lookup deviceId = some write

/-- Writes are queued under their device. -/
def Keyed (d : DeviceSide) : Prop :=
  ∀ deviceId write, d.writes.lookup deviceId = some write → write.deviceId = deviceId

end DeviceSide

/-! ### The history of a worker -/

/-- A call of `Write`, with its success. -/
structure WriteAttempt where
  write : DesiredDeviceWrite
  succeeded : Bool

/-- Two calls of `Write` in their order do not go back. -/
def WriteAttempt.InOrder (old new : WriteAttempt) : Prop :=
  old.write.deviceId = new.write.deviceId → old.write.revision ≤ new.write.revision

/-- A worker, the writes it has accepted, newest first, and the writes it has asked
the store for, in their order. -/
structure WriteHistory where
  worker : WorkerLoop
  submitted : List DesiredDeviceWrite
  attempted : List WriteAttempt

/-- The writes accepted after an input. -/
def acceptedAfter (accepting : Bool) (submitted : List DesiredDeviceWrite) :
    DeviceSideInput → List DesiredDeviceWrite
  | .submitWrite write => if accepting then write :: submitted else submitted
  | _ => submitted

/-- The calls of `Write` after an input. -/
def attemptedAfter (attempted : List WriteAttempt) : DeviceSideInput → List WriteAttempt
  | .writeEnded write (.ok _) => attempted ++ [⟨write, true⟩]
  | .writeEnded write (.error _) => attempted ++ [⟨write, false⟩]
  | _ => attempted

/-- No device is submitted with a lower revision than before, and nothing fails for
good. -/
def MergesSafely (submitted : List DesiredDeviceWrite) : DeviceSideInput → Prop
  | .submitWrite write => ∀ old ∈ submitted, old.deviceId = write.deviceId →
      old.revision ≤ write.revision
  | .writeEnded _ result => ∀ error, result = .error error → error.kind = .unavailable
  | .validationFailed => False
  | .crash => False
  | _ => True

/-- The worker in such runs. -/
def writeHistory (cfg : WorkerConfig) : Machine WriteHistory WorkerInput where
  init s := s = ⟨.fresh, [], []⟩
  enabled s input := input.Enabled s.worker ∧ MergesSafely s.submitted (input.deviceInput s.worker)
  next s input :=
    { worker := input.apply cfg s.worker
      submitted := acceptedAfter s.worker.accepting s.submitted (input.deviceInput s.worker)
      attempted := attemptedAfter s.attempted (input.deviceInput s.worker) }

/-! ### The invariant -/

open DeviceSide

/-- What holds of the device side of a worker and its history. -/
structure WritesMerged (d : DeviceSide) (submitted : List DesiredDeviceWrite)
    (attempted : List WriteAttempt) : Prop where
  keyed : d.Keyed
  ordered : ∀ write queued, d.hand = .write write →
    d.writes.lookup write.deviceId = some queued → write.revision ≤ queued.revision
  ceiling : ∀ write, d.Pending write → ∃ new ∈ submitted, new.deviceId = write.deviceId ∧
    write.revision ≤ new.revision
  floor : ∀ old ∈ attempted, ∀ write, d.Pending write → old.write.deviceId = write.deviceId →
    old.write.revision ≤ write.revision
  known : ∀ old ∈ attempted, ∃ new ∈ submitted, new.deviceId = old.write.deviceId ∧
    old.write.revision ≤ new.revision
  sorted : attempted.Pairwise WriteAttempt.InOrder
  covered : ∀ write ∈ submitted, ∀ field, write.selects field = true →
    (∃ done ∈ attempted, done.succeeded = true ∧ done.write.deviceId = write.deviceId ∧
      done.write.selects field = true ∧ write.revision ≤ done.write.revision) ∨
    ∃ rest, d.Pending rest ∧ rest.deviceId = write.deviceId ∧ rest.selects field = true ∧
      write.revision ≤ rest.revision

section

variable {d d' : DeviceSide} {submitted : List DesiredDeviceWrite} {attempted : List WriteAttempt}

/-- Inputs that leave the writes alone. -/
lemma WritesMerged.frame (hinv : WritesMerged d submitted attempted)
    (hwrites : d'.writes = d.writes)
    (hhand : ∀ write, d'.hand = .write write ↔ d.hand = .write write) :
    WritesMerged d' submitted attempted := by
  have hpending : ∀ write, d'.Pending write ↔ d.Pending write := by
    intro write
    simp only [Pending]
    rw [hwrites, hhand]
  refine ⟨?_, fun write queued h => ?_, fun write h => ?_, fun old hold write h => ?_, hinv.known,
    hinv.sorted, fun write hwrite field hfield => ?_⟩
  · simp only [Keyed]
    rw [hwrites]
    exact hinv.keyed
  · rw [hwrites]
    exact hinv.ordered write queued ((hhand write).mp h)
  · exact hinv.ceiling write ((hpending write).mp h)
  · exact hinv.floor old hold write ((hpending write).mp h)
  · simp only [hpending]
    exact hinv.covered write hwrite field hfield

/-- A queued write is taken. -/
lemma WritesMerged.take (hinv : WritesMerged d submitted attempted) {deviceId : String}
    {write : DesiredDeviceWrite} (hhand : d.hand = .free)
    (hwrite : d.writes.lookup deviceId = some write) :
    WritesMerged (d.next (.takeWrite deviceId write)) submitted attempted := by
  have hid : write.deviceId = deviceId := hinv.keyed deviceId write hwrite
  have hpending : ∀ x, (d.next (.takeWrite deviceId write)).Pending x ↔ d.Pending x := by
    intro x
    simp only [Pending, next, hhand, Map.lookup_erase_some, DeviceHand.write.injEq]
    constructor
    · rintro (rfl | ⟨id, -, hx⟩)
      · exact .inr ⟨deviceId, hwrite⟩
      · exact .inr ⟨id, hx⟩
    · rintro (hfree | ⟨id, hx⟩)
      · cases hfree
      · by_cases h : id = deviceId
        · rw [h, hwrite, Option.some_inj] at hx
          exact .inl hx
        · exact .inr ⟨id, h, hx⟩
  refine ⟨fun id x hx => ?_, fun x queued hx hqueued => ?_, fun x hx => ?_, fun old hold x hx => ?_,
    hinv.known, hinv.sorted, fun x hx field hfield => ?_⟩
  · exact hinv.keyed id x (Map.lookup_erase_some.mp hx).2
  · -- nothing else is queued for the device of the write in hand
    simp only [next, DeviceHand.write.injEq] at hx
    subst hx
    exact absurd hid (Map.lookup_erase_some.mp hqueued).1
  · exact hinv.ceiling x ((hpending x).mp hx)
  · exact hinv.floor old hold x ((hpending x).mp hx)
  · simp only [hpending]
    exact hinv.covered x hx field hfield

/-- What is queued once a write has been merged into the queue. -/
lemma lookup_mergeWrite {write x : DesiredDeviceWrite} {deviceId : String}
    (h : (d.mergeWrite write).writes.lookup deviceId = some x) :
    (deviceId = write.deviceId ∧ x = joined (d.writes.lookup write.deviceId) write) ∨
      (deviceId ≠ write.deviceId ∧ d.writes.lookup deviceId = some x) :=
  Map.lookup_insert_some.mp h

lemma keyed_mergeWrite (hkeyed : d.Keyed) (write : DesiredDeviceWrite) :
    (d.mergeWrite write).Keyed := by
  intro deviceId x hx
  rcases lookup_mergeWrite hx with ⟨rfl, rfl⟩ | ⟨-, hx⟩
  · exact joined_device fun queued hqueued => hkeyed _ queued hqueued
  · exact hkeyed deviceId x hx

/-- A pending write stays pending, or is part of the merged one. -/
lemma pending_mergeWrite {write rest : DesiredDeviceWrite} (hkeyed : d.Keyed)
    (h : d.Pending rest) {field : DeviceField} (hfield : rest.selects field = true) :
    ∃ rest', (d.mergeWrite write).Pending rest' ∧ rest'.deviceId = rest.deviceId ∧
      rest'.selects field = true ∧ rest.revision ≤ rest'.revision := by
  rcases h with hhand | ⟨deviceId, hrest⟩
  · exact ⟨rest, .inl hhand, rfl, hfield, le_rfl⟩
  · by_cases hid : deviceId = write.deviceId
    · subst hid
      have hdevice : rest.deviceId = write.deviceId := hkeyed _ rest hrest
      refine ⟨joined (d.writes.lookup write.deviceId) write,
        .inr ⟨write.deviceId, AList.lookup_insert _⟩, ?_, ?_, ?_⟩
      · rw [hdevice]
        exact joined_device fun queued hqueued => hkeyed _ queued hqueued
      · exact (joined_selects _ write field).2 rest hrest hfield
      · exact (joined_revision _ write).2.1 rest hrest
    · exact ⟨rest, .inr ⟨deviceId, (AList.lookup_insert_ne hid).trans hrest⟩, rfl, hfield, le_rfl⟩

/-- A newer write is accepted. -/
lemma WritesMerged.accept (hinv : WritesMerged d submitted attempted) {write : DesiredDeviceWrite}
    (hnewest : ∀ old ∈ submitted, old.deviceId = write.deviceId → old.revision ≤ write.revision) :
    WritesMerged (d.mergeWrite write) (write :: submitted) attempted := by
  have hdevice : (joined (d.writes.lookup write.deviceId) write).deviceId = write.deviceId :=
    joined_device fun queued hqueued => hinv.keyed _ queued hqueued
  obtain ⟨hle, -, hjoined⟩ := joined_revision (d.writes.lookup write.deviceId) write
  -- nothing that is pending for the device is newer than the new write
  have hpending : ∀ x, d.Pending x → x.deviceId = write.deviceId → x.revision ≤ write.revision := by
    intro x hx hid
    obtain ⟨new, hnew, hnewId, hrevision⟩ := hinv.ceiling x hx
    exact hrevision.trans (hnewest new hnew (hnewId.trans hid))
  have hsame : (joined (d.writes.lookup write.deviceId) write).revision ≤ write.revision := by
    rcases hjoined with heq | ⟨queued, hqueued, heq⟩
    · exact heq.le
    · rw [heq]
      exact hpending queued (.inr ⟨_, hqueued⟩) (hinv.keyed _ queued hqueued)
  refine ⟨keyed_mergeWrite hinv.keyed write, fun x queued hx hqueued => ?_, fun x hx => ?_,
    fun old hold x hx hid => ?_, fun old hold => ?_, hinv.sorted, fun x hx field hfield => ?_⟩
  · rcases lookup_mergeWrite hqueued with ⟨hid, rfl⟩ | ⟨-, hqueued⟩
    · exact (hpending x (.inl hx) hid).trans hle
    · exact hinv.ordered x queued hx hqueued
  · rcases hx with hhand | ⟨deviceId, hx⟩
    · obtain ⟨new, hnew, hrest⟩ := hinv.ceiling x (.inl hhand)
      exact ⟨new, List.mem_cons_of_mem _ hnew, hrest⟩
    · rcases lookup_mergeWrite hx with ⟨-, rfl⟩ | ⟨-, hx⟩
      · exact ⟨write, List.mem_cons_self, hdevice.symm, hsame⟩
      · obtain ⟨new, hnew, hrest⟩ := hinv.ceiling x (.inr ⟨deviceId, hx⟩)
        exact ⟨new, List.mem_cons_of_mem _ hnew, hrest⟩
  · rcases hx with hhand | ⟨deviceId, hx⟩
    · exact hinv.floor old hold x (.inl hhand) hid
    · rcases lookup_mergeWrite hx with ⟨-, rfl⟩ | ⟨-, hx⟩
      · obtain ⟨new, hnew, hnewId, hrevision⟩ := hinv.known old hold
        exact hrevision.trans ((hnewest new hnew (hnewId.trans (hid.trans hdevice))).trans hle)
      · exact hinv.floor old hold x (.inr ⟨deviceId, hx⟩) hid
  · obtain ⟨new, hnew, hrest⟩ := hinv.known old hold
    exact ⟨new, List.mem_cons_of_mem _ hnew, hrest⟩
  · rcases List.mem_cons.mp hx with rfl | hx
    · exact .inr ⟨_, .inr ⟨x.deviceId, AList.lookup_insert _⟩, hdevice,
        (joined_selects _ x field).1 hfield, hle⟩
    · rcases hinv.covered x hx field hfield with hdone | ⟨rest, hrest, hid, hselects, hrevision⟩
      · exact .inl hdone
      · obtain ⟨rest', hrest', hid', hselects', hrevision'⟩ :=
          pending_mergeWrite hinv.keyed hrest hselects
        exact .inr ⟨rest', hrest', hid'.trans hid, hselects', hrevision.trans hrevision'⟩

/-- The calls of `Write` go up for each device. -/
lemma WritesMerged.sorted_append (hinv : WritesMerged d submitted attempted)
    {write : DesiredDeviceWrite} (hhand : d.hand = .write write) (succeeded : Bool) :
    (attempted ++ [(⟨write, succeeded⟩ : WriteAttempt)]).Pairwise WriteAttempt.InOrder := by
  refine List.pairwise_append.mpr ⟨hinv.sorted, List.pairwise_singleton _ _, ?_⟩
  intro old hold new hnew hid
  rw [List.mem_singleton] at hnew
  subst hnew
  exact hinv.floor old hold write (.inl hhand) hid

lemma WritesMerged.known_append (hinv : WritesMerged d submitted attempted)
    {write : DesiredDeviceWrite} (hhand : d.hand = .write write) (succeeded : Bool) :
    ∀ old ∈ attempted ++ [(⟨write, succeeded⟩ : WriteAttempt)], ∃ new ∈ submitted,
      new.deviceId = old.write.deviceId ∧ old.write.revision ≤ new.revision := by
  intro old hold
  rcases List.mem_append.mp hold with hold | hold
  · exact hinv.known old hold
  · rw [List.mem_singleton] at hold
    subst hold
    exact hinv.ceiling write (.inl hhand)

/-- The write in hand has been performed. -/
lemma WritesMerged.perform (hinv : WritesMerged d submitted attempted) {write : DesiredDeviceWrite}
    (hhand : d.hand = .write write) (hwrites : d'.writes = d.writes) (hfree : d'.hand = .free) :
    WritesMerged d' submitted (attempted ++ [⟨write, true⟩]) := by
  have hqueued : ∀ x, d'.Pending x → ∃ deviceId, d.writes.lookup deviceId = some x := by
    rintro x (hx | hx)
    · rw [hfree] at hx
      cases hx
    · rw [hwrites] at hx
      exact hx
  refine ⟨?_, fun x queued hx => ?_, fun x hx => hinv.ceiling x (.inr (hqueued x hx)),
    fun old hold x hx hid => ?_, hinv.known_append hhand true, hinv.sorted_append hhand true,
    fun x hx field hfield => ?_⟩
  · rw [Keyed]
    rw [hwrites]
    exact hinv.keyed
  · rw [hfree] at hx
    cases hx
  · rcases List.mem_append.mp hold with hold | hold
    · exact hinv.floor old hold x (.inr (hqueued x hx)) hid
    · rw [List.mem_singleton] at hold
      subst hold
      obtain ⟨deviceId, hx⟩ := hqueued x hx
      refine hinv.ordered write x hhand ?_
      rw [hid, hinv.keyed deviceId x hx, hx]
  · rcases hinv.covered x hx field hfield with ⟨done, hdone, hrest⟩ | ⟨rest, hrest, hcovers⟩
    · exact .inl ⟨done, List.mem_append_left _ hdone, hrest⟩
    · rcases hrest with hrest | hrest
      · rw [hhand, DeviceHand.write.injEq] at hrest
        subst hrest
        exact .inl ⟨⟨write, true⟩, List.mem_append_right _ (List.mem_singleton_self _), rfl,
          hcovers⟩
      · exact .inr ⟨rest, .inr (hwrites ▸ hrest), hcovers⟩

/-- The write in hand met a broken connection and goes back under the queued one. -/
lemma WritesMerged.giveBack (hinv : WritesMerged d submitted attempted)
    {write : DesiredDeviceWrite} (hhand : d.hand = .write write)
    (hwrites : d'.writes = (d.mergeWrite write).writes) (hfree : d'.hand = .free) :
    WritesMerged d' submitted (attempted ++ [⟨write, false⟩]) := by
  have hkeyed' := keyed_mergeWrite hinv.keyed write
  have hdevice : (joined (d.writes.lookup write.deviceId) write).deviceId = write.deviceId :=
    joined_device fun queued hqueued => hinv.keyed _ queued hqueued
  obtain ⟨hle, hqueuedLe, hjoined⟩ := joined_revision (d.writes.lookup write.deviceId) write
  -- what is queued now: the merged write, and the others as before
  have hqueued : ∀ x, d'.Pending x → x = joined (d.writes.lookup write.deviceId) write ∨
      x.deviceId ≠ write.deviceId ∧ d.Pending x := by
    rintro x (hx | ⟨deviceId, hx⟩)
    · rw [hfree] at hx
      cases hx
    · rw [hwrites] at hx
      rcases lookup_mergeWrite hx with ⟨-, rfl⟩ | ⟨hne, hx⟩
      · exact .inl rfl
      · exact .inr ⟨by rw [hinv.keyed deviceId x hx]; exact hne, .inr ⟨deviceId, hx⟩⟩
  refine ⟨?_, fun x queued hx => ?_, fun x hx => ?_, fun old hold x hx hid => ?_,
    hinv.known_append hhand false, hinv.sorted_append hhand false, fun x hx field hfield => ?_⟩
  · rw [Keyed]
    rw [hwrites]
    exact hkeyed'
  · rw [hfree] at hx
    cases hx
  · rcases hqueued x hx with rfl | ⟨-, hx⟩
    · rw [hdevice]
      rcases hjoined with heq | ⟨queued, hq, heq⟩
      · rw [heq]
        exact hinv.ceiling write (.inl hhand)
      · rw [heq, ← hinv.keyed _ queued hq]
        exact hinv.ceiling queued (.inr ⟨_, hq⟩)
    · exact hinv.ceiling x hx
  · rcases List.mem_append.mp hold with hold | hold
    · rcases hqueued x hx with rfl | ⟨-, hx⟩
      · exact (hinv.floor old hold write (.inl hhand) (hid.trans hdevice)).trans hle
      · exact hinv.floor old hold x hx hid
    · rw [List.mem_singleton] at hold
      subst hold
      rcases hqueued x hx with rfl | ⟨hne, -⟩
      · exact hle
      · exact absurd hid.symm hne
  · rcases hinv.covered x hx field hfield with ⟨done, hdone, hrest⟩ | ⟨rest, hrest, hid, hsel, hrev⟩
    · exact .inl ⟨done, List.mem_append_left _ hdone, hrest⟩
    · have hmerged : d'.Pending (joined (d.writes.lookup write.deviceId) write) :=
        .inr ⟨write.deviceId, by rw [hwrites]; exact AList.lookup_insert _⟩
      rcases hrest with hrest | ⟨deviceId, hrest⟩
      · rw [hhand, DeviceHand.write.injEq] at hrest
        subst hrest
        exact .inr ⟨_, hmerged, hdevice.trans hid, (joined_selects _ write field).1 hsel,
          hrev.trans hle⟩
      · by_cases hsame : deviceId = write.deviceId
        · subst hsame
          refine .inr ⟨_, hmerged, ?_, (joined_selects _ write field).2 rest hrest hsel,
            hrev.trans (hqueuedLe rest hrest)⟩
          rw [hdevice, ← hid, hinv.keyed _ rest hrest]
        · refine .inr ⟨rest, .inr ⟨deviceId, ?_⟩, hid, hsel, hrev⟩
          rw [hwrites]
          exact (AList.lookup_insert_ne hsame).trans hrest

/-- Every input keeps the invariant. -/
lemma WritesMerged.next (hinv : WritesMerged d submitted attempted) {input : DeviceSideInput}
    (henabled : d.Enabled input) (hsafe : MergesSafely submitted input) :
    WritesMerged (d.next input) (acceptedAfter d.accepting submitted input)
      (attemptedAfter attempted input) := by
  cases input with
  | skip => exact hinv
  | submitProvision registration receivedAt =>
      simp only [DeviceSide.next, acceptedAfter, attemptedAfter]
      split
      · exact hinv
      · exact hinv.frame rfl fun _ => Iff.rfl
  | submitWrite write =>
      simp only [DeviceSide.next, acceptedAfter, attemptedAfter]
      cases d.accepting with
      | false => exact hinv
      | true => exact hinv.accept hsafe
  | close => exact hinv.frame rfl fun _ => Iff.rfl
  | takeProvision deviceId task =>
      refine hinv.frame rfl fun write => ?_
      simp only [DeviceSide.next, henabled.2.1]
      constructor
      · intro h; cases h
      · intro h; cases h
  | takeWrite deviceId write => exact hinv.take henabled.2.1 henabled.2.2
  | stop => exact hinv.frame rfl fun _ => Iff.rfl
  | recovered => exact hinv.frame rfl fun _ => Iff.rfl
  | validationFailed => exact hsafe.elim
  | lost => exact hinv.frame rfl fun _ => Iff.rfl
  | provisionEnded task result =>
      have hhand := henabled.2
      have hnone : ∀ write, (d.next (.provisionEnded task result)).hand = .write write ↔
          d.hand = .write write := by
        intro write
        have hfree : (d.next (.provisionEnded task result)).hand = .free := by
          simp only [DeviceSide.next, endProvision]
          split
          · rfl
          · split <;> rfl
        rw [hfree, hhand]
        constructor
        · intro h; cases h
        · intro h; cases h
      refine hinv.frame ?_ hnone
      simp only [DeviceSide.next, endProvision]
      split
      · rfl
      · split <;> rfl
  | writeEnded write result =>
      have hhand := henabled.2
      cases result with
      | ok _ => exact hinv.perform hhand rfl rfl
      | error error =>
          have hlost : error.kind = .unavailable := hsafe error rfl
          refine hinv.giveBack hhand ?_ ?_
          · simp only [DeviceSide.next, endWrite, if_pos hlost]
            rfl
          · simp only [DeviceSide.next, endWrite, if_pos hlost]
            rfl
  | crash => exact hsafe.elim

end

/-! ### Every run -/

section

variable {cfg : WorkerConfig} {s : WriteHistory}

lemma reachable_writesMerged (h : (writeHistory cfg).Reachable s) :
    WritesMerged s.worker.deviceSide s.submitted s.attempted := by
  refine Machine.Reachable.invariant
    (P := fun s : WriteHistory => WritesMerged s.worker.deviceSide s.submitted s.attempted)
    (fun s h0 => ?_) (fun s input _ hinv henabled => ?_) h
  · cases h0
    refine ⟨fun deviceId write h => ?_, fun write queued h => ?_, fun write h => ?_,
      fun old h => ?_, fun old h => ?_, List.Pairwise.nil, fun write h => ?_⟩
    · cases h
    · cases h
    · rcases h with h | ⟨deviceId, h⟩
      · cases h
      · cases h
    · cases h
    · cases h
    · cases h
  · have hnext := hinv.next (deviceInput_enabled henabled.1) henabled.2
    rw [← @deviceSide_next cfg s.worker input henabled.1] at hnext
    exact hnext

/-- **Nothing is lost and nothing goes back**: the store is asked for the writes of a
device in the order of their revisions, and each flag of an accepted write has been
written, or will be, with the revision of the write or a newer one. -/
theorem merged_of_reachable (h : (writeHistory cfg).Reachable s) :
    s.attempted.Pairwise WriteAttempt.InOrder ∧
    ∀ write ∈ s.submitted, ∀ field, write.selects field = true →
      (∃ done ∈ s.attempted, done.succeeded = true ∧ done.write.deviceId = write.deviceId ∧
        done.write.selects field = true ∧ write.revision ≤ done.write.revision) ∨
      ∃ rest, s.worker.deviceSide.Pending rest ∧ rest.deviceId = write.deviceId ∧
        rest.selects field = true ∧ write.revision ≤ rest.revision := by
  have hinv := reachable_writesMerged h
  exact ⟨hinv.sorted, hinv.covered⟩

end

/-- A write of one device, of its status or of its telemetry. -/
def deviceWrite (revision : ℕ) (telemetry : Bool) : DesiredDeviceWrite where
  record :=
    { deviceId := "a"
      schoolId := 7
      schoolName := "一小"
      dcdwLabel := none
      modelVersion := "fc"
      status := .online
      lastSeenAt := none
      latestTelemetry := none
      telemetryReceivedAt := none
      revision := revision }
  revision := revision
  writeMetadata := false
  writeStatus := !telemetry
  writeTelemetry := telemetry
  urgency := .immediate

/-- A status meets a broken connection, a telemetry comes in the meantime, and both
are written after the reconnection. -/
def givenBackInputs : List WorkerInput :=
  [.submitWrite (deviceWrite 1 false), .select false List.head? 0,
    .submitWrite (deviceWrite 2 true), .written (.returned (.error ⟨.unavailable, ""⟩)) 0,
    .select false List.head? 5000000000, .reconnected (.returned (.ok ())) 5000000000,
    .select false List.head? 5000000000, .written (.returned (.ok ())) 5000000000]

def givenBack : WriteHistory :=
  givenBackInputs.foldl (writeHistory {}).next ⟨.fresh, [], []⟩

lemma reachable_givenBack : (writeHistory {}).Reachable givenBack := by
  have hfirst : ∀ keys : List String, keys ≠ [] → ∃ key ∈ keys, keys.head? = some key := by
    intro keys hkeys
    exact ⟨keys.head hkeys, List.head_mem hkeys, List.head?_eq_some_head hkeys⟩
  have hlost : ∀ error : DatabaseError,
      (.error ⟨.unavailable, ""⟩ : Except DatabaseError Unit) = .error error →
        error.kind = .unavailable := by
    intro error h
    cases h
    rfl
  have hrun : (writeHistory {}).Run ⟨.fresh, [], []⟩ givenBackInputs givenBack := by
    refine .cons ⟨trivial, fun old h => (nomatch h)⟩ (.cons ⟨⟨rfl, rfl, hfirst⟩, trivial⟩
      (.cons ⟨trivial, fun old h _ => ?_⟩ (.cons ⟨⟨rfl, _, rfl⟩, hlost⟩
        (.cons ⟨⟨rfl, rfl, hfirst⟩, trivial⟩ (.cons ⟨⟨rfl, rfl⟩, trivial⟩
          (.cons ⟨⟨rfl, rfl, hfirst⟩, trivial⟩ (.cons ⟨⟨rfl, _, rfl⟩, fun error h => ?_⟩
            (.nil _))))))))
    · cases List.mem_singleton.mp h
      exact Nat.le_succ 1
    · cases h
  exact Machine.Reachable.run (.start rfl) hrun

theorem merged_givenBack :
    givenBack.attempted.map (fun attempt => (attempt.write.revision, attempt.succeeded)) =
        [(1, false), (2, true)] ∧
      givenBack.attempted.Pairwise WriteAttempt.InOrder :=
  ⟨rfl, (merged_of_reachable reachable_givenBack).1⟩

end CnsServer
