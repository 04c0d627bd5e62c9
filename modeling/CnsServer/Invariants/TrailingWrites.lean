/-
The writes on their way to the tables, and the record they are to bring there.

* `Trails`: a write is not newer than the record of its device, and has that record if it
  is as new; `next_trails`: all writes on their way trail;
* `RowsFollow`: with the writes that are queued and in hand executed, the tables have one
  group of columns as the record has it;
* `Stores`: what becomes of the tables in a step of the thread;
* `follows_of_submitted`, `RowsFollow.submitted`, `RowsFollow.side`: **a submission of the record
  and the steps of the thread keep this**.
-/
import CnsServer.Invariants.DeviceQueues
import CnsServer.Properties.SubmittedWrites
import CnsServer.Store.DeviceColumns

namespace CnsServer

open DeviceSide

/-- The write is not newer than the record of its device, and has that record if it is as
new. -/
structure Trails (devices : DeviceRegistry) (write : DesiredDeviceWrite) : Prop where
  dated : write.revision = write.record.revision
  known : ∃ record, devices.find write.deviceId = some record ∧ write.revision ≤ record.revision ∧
    (write.revision = record.revision → write.record = record)

/-- All writes on their way trail, and are queued under their devices. -/
structure WritesTrail (d : DeviceSide) (devices : DeviceRegistry) : Prop where
  keyed : d.Keyed
  pending : ∀ write, d.Pending write → Trails devices write

/-- A queued write of the device selects the group. -/
def DeviceSide.Queues (d : DeviceSide) (deviceId : String) (field : DeviceField) : Prop :=
  ∃ queued, d.writes.lookup deviceId = some queued ∧ queued.selects field = true

/-- The writes that are queued and in hand bring a group of columns of the record to the
tables, or it is there. -/
structure RowsFollow (d : DeviceSide) (t : DeviceTables) (record : DeviceRecord)
    (field : DeviceField) : Prop where
  queued : ∀ write, d.writes.lookup record.deviceId = some write →
    write.record.stored field = record.stored field
  hand : ∀ write, d.hand = .write write → write.deviceId = record.deviceId →
    write.record.stored field = record.stored field ∨
      ∃ queued, d.writes.lookup record.deviceId = some queued ∧ queued.selects field = true ∧
        write.revision < queued.revision
  stored : d.Queues record.deviceId field ∨
    (∃ write, d.hand = .write write ∧ write.deviceId = record.deviceId ∧
      write.selects field = true) ∨
    t.stored record.deviceId field = some (record.stored field)

/-- What becomes of the tables in a step of the thread: the end of a write may leave what
it writes, and nothing else changes what is there. -/
def Stores (t t' : DeviceTables) : DeviceSideInput → Prop
  | .writeEnded write (.ok _) => DeviceTables.Written t t' write
  | .writeEnded write (.error _) => t' = t ∨ DeviceTables.Written t t' write
  | _ => ∀ deviceId field stored, t.stored deviceId field = some stored →
      t'.stored deviceId field = some stored

/-- Queued writes are given up: one fails for good, or the schema does. -/
def DeviceSideInput.givesUp : DeviceSideInput → Bool
  | .writeEnded _ (.error error) => error.kind ≠ .unavailable
  | .validationFailed => true
  | _ => false

section

variable {d d' : DeviceSide} {t t' : DeviceTables} {devices devices' : DeviceRegistry}
  {record : DeviceRecord} {field : DeviceField} {write : DesiredDeviceWrite}

/-! ### Trailing writes -/

lemma Trails.version {old : DesiredDeviceWrite} (h : Trails devices old)
    (hversion : SameVersion write old) : Trails devices write := by
  obtain ⟨hrecord, hrevision⟩ := hversion
  obtain ⟨hdated, record, hfind, hle, hsame⟩ := h
  refine ⟨?_, record, ?_, ?_, ?_⟩
  · rw [hrevision, hrecord]
    exact hdated
  · rw [DesiredDeviceWrite.deviceId, hrecord]
    exact hfind
  · rw [hrevision]
    exact hle
  · rw [hrevision, hrecord]
    exact hsame

/-- The records only grow older. -/
lemma Trails.older (h : Trails devices write)
    (hnewer : ∀ record, devices.find write.deviceId = some record →
      ∃ record', devices'.find write.deviceId = some record' ∧
        (record' = record ∨ record.revision < record'.revision)) : Trails devices' write := by
  obtain ⟨hdated, record, hfind, hle, hsame⟩ := h
  obtain ⟨record', hfind', rfl | hlt⟩ := hnewer record hfind
  · exact ⟨hdated, record', hfind', hle, hsame⟩
  · refine ⟨hdated, record', hfind', hle.trans hlt.le, fun heq => ?_⟩
    omega

/-- **One step** leaves all writes trailing, if what it submits does. -/
lemma next_trails (h : WritesTrail d devices) {input : DeviceSideInput} (henabled : d.Enabled input)
    (hsubmitted : ∀ write, input = .submitWrite write → Trails devices write) :
    WritesTrail (d.next input) devices := by
  refine ⟨next_keyed h.keyed input, fun write hpending => ?_⟩
  obtain ⟨old, hold | hcall, hversion⟩ := pending_next henabled hpending
  · exact (h.pending old hold).version hversion
  · exact (hsubmitted old hcall).version hversion

/-! ### What follows -/

/-- The group is the same in the next record of the device. -/
lemma RowsFollow.renewed (h : RowsFollow d t record field) {record' : DeviceRecord}
    (hid : record'.deviceId = record.deviceId)
    (hsame : record'.stored field = record.stored field) : RowsFollow d t record' field := by
  obtain ⟨hqueued, hhand, hstored⟩ := h
  refine ⟨?_, ?_, ?_⟩
  · rw [hid, hsame]
    exact hqueued
  · rw [hid, hsame]
    exact hhand
  · rw [hid, hsame]
    exact hstored

lemma RowsFollow.frame (h : RowsFollow d t record field) (hwrites : d'.writes = d.writes)
    (hhand : ∀ write, d'.hand = .write write ↔ d.hand = .write write)
    (hstored : ∀ stored, t.stored record.deviceId field = some stored →
      t'.stored record.deviceId field = some stored) : RowsFollow d' t' record field := by
  refine ⟨?_, fun write hwrite hid => ?_, ?_⟩
  · rw [hwrites]
    exact h.queued
  · rw [hwrites]
    exact h.hand write ((hhand write).mp hwrite) hid
  · rcases h.stored with hqueues | ⟨write, hwrite, hrest⟩ | hthere
    · rw [DeviceSide.Queues, hwrites]
      exact .inl hqueues
    · exact .inr (.inl ⟨write, (hhand write).mpr hwrite, hrest⟩)
    · exact .inr (.inr (hstored _ hthere))

/-- A queued write is taken. -/
lemma RowsFollow.take (h : RowsFollow d t record field) (hkeyed : d.Keyed) {deviceId : String}
    (hhand : d.hand = .free) (hwrite : d.writes.lookup deviceId = some write) :
    RowsFollow (d.next (.takeWrite deviceId write)) t record field := by
  have hid : write.deviceId = deviceId := hkeyed deviceId write hwrite
  refine ⟨fun queued hqueued => h.queued queued (Map.lookup_erase_some.mp hqueued).2,
    fun other hother hsame => ?_, ?_⟩
  · cases hother
    rw [← hid, hsame] at hwrite
    exact .inl (h.queued write hwrite)
  · rcases h.stored with ⟨queued, hqueued, hselects⟩ | ⟨other, hother, -⟩ | hthere
    · by_cases hsame : record.deviceId = deviceId
      · rw [hsame, hwrite, Option.some_inj] at hqueued
        subst hqueued
        exact .inr (.inl ⟨write, rfl, hid.trans hsame.symm, hselects⟩)
      · exact .inl ⟨queued, Map.lookup_erase_some.mpr ⟨hsame, hqueued⟩, hselects⟩
    · rw [hhand] at hother
      cases hother
    · exact .inr (.inr hthere)

/-- The write in hand has been executed: its group is the one of the record, or a newer
write is queued. -/
lemma RowsFollow.written (h : RowsFollow d t record field) (hhand : d.hand = .write write)
    (hthere : (t.stored record.deviceId field).isSome = true)
    (hwritten : DeviceTables.Written t t' write) (hwrites : d'.writes = d.writes)
    (hfree : ∀ write, d'.hand ≠ .write write) : RowsFollow d' t' record field := by
  have hqueues : d.Queues record.deviceId field → d'.Queues record.deviceId field := by
    rw [DeviceSide.Queues, DeviceSide.Queues, hwrites]
    exact id
  refine ⟨?_, fun other hother => absurd hother (hfree other), ?_⟩
  · rw [hwrites]
    exact h.queued
  · have hafter := stored_written hwritten record.deviceId field
    by_cases hown : record.deviceId = write.record.deviceId ∧ write.selects field = true
    · rw [if_pos hown] at hafter
      rcases h.hand write hhand hown.1.symm with hsame | ⟨queued, hqueued, hselects, -⟩
      · obtain ⟨stored, hstored⟩ := Option.isSome_iff_exists.mp hthere
        rw [hafter, hstored, ← hsame]
        exact .inr (.inr rfl)
      · exact .inl (hqueues ⟨queued, hqueued, hselects⟩)
    · rw [if_neg hown] at hafter
      rcases h.stored with hbefore | ⟨other, hother, hid, hselects⟩ | hbefore
      · exact .inl (hqueues hbefore)
      · rw [hhand, DeviceHand.write.injEq] at hother
        subst hother
        exact absurd ⟨hid.symm, hselects⟩ hown
      · exact .inr (.inr (hafter.trans hbefore))

/-! ### Merges -/

/-- The queue after a merge. -/
lemma lookup_merged (d : DeviceSide) (write : DesiredDeviceWrite) (deviceId : String) :
    (d.mergeWrite write).writes.lookup deviceId =
      if deviceId = write.deviceId then some (joined (d.writes.lookup deviceId) write)
      else d.writes.lookup deviceId := by
  refine (Map.lookup_insert_ite _ _ _ _).trans ?_
  split
  · next hid => rw [hid]
  · rfl

/-- What is queued stays, in itself or merged. -/
lemma queued_merged {deviceId : String} {queued : DesiredDeviceWrite}
    (hqueued : d.writes.lookup deviceId = some queued) (hselects : queued.selects field = true)
    (write : DesiredDeviceWrite) :
    ∃ merged, (d.mergeWrite write).writes.lookup deviceId = some merged ∧
      merged.selects field = true ∧ queued.revision ≤ merged.revision := by
  rw [lookup_merged]
  split
  · exact ⟨_, rfl, (joined_selects _ write field).2 queued hqueued hselects,
      (joined_revision _ write).2.1 queued hqueued⟩
  · exact ⟨queued, hqueued, hselects, le_rfl⟩

/-- A write that is merged is queued, with all it selects. -/
lemma merge_queued (d : DeviceSide) (hselects : write.selects field = true) :
    ∃ merged, (d.mergeWrite write).writes.lookup write.deviceId = some merged ∧
      merged.selects field = true ∧ write.revision ≤ merged.revision := by
  rw [lookup_merged, if_pos rfl]
  exact ⟨_, rfl, (joined_selects _ write field).1 hselects, (joined_revision _ write).1⟩

lemma DeviceSide.Queues.merge {deviceId : String} (h : d.Queues deviceId field)
    (write : DesiredDeviceWrite) : (d.mergeWrite write).Queues deviceId field := by
  obtain ⟨queued, hqueued, hselects⟩ := h
  obtain ⟨merged, hmerged, hselects', -⟩ := queued_merged hqueued hselects write
  exact ⟨merged, hmerged, hselects'⟩

/-- The write in hand has met a broken connection, and is merged back under what has come
since; it may have been executed. -/
lemma RowsFollow.lost (h : RowsFollow d t record field) (hhand : d.hand = .write write)
    (htables : t' = t ∨ DeviceTables.Written t t' write)
    (hwrites : d'.writes = (d.mergeWrite write).writes) (hfree : ∀ write, d'.hand ≠ .write write) :
    RowsFollow d' t' record field := by
  have hqueues : (d.mergeWrite write).Queues record.deviceId field →
      d'.Queues record.deviceId field := by
    rw [DeviceSide.Queues, DeviceSide.Queues, hwrites]
    exact id
  refine ⟨fun queued hqueued => ?_, fun other hother => absurd hother (hfree other), ?_⟩
  · rw [hwrites, lookup_merged] at hqueued
    split at hqueued
    · next hid =>
        cases hqueued
        have hinhand := h.hand write hhand hid.symm
        cases hcurrent : d.writes.lookup record.deviceId with
        | none =>
            rcases hinhand with hsame | ⟨newer, hnewer, -⟩
            · exact hsame
            · rw [hcurrent] at hnewer
              cases hnewer
        | some current =>
            simp only [joined, WorkerLoop.mergedWrite]
            split
            · next hle =>
                rcases hinhand with hsame | ⟨newer, hnewer, -, hlt⟩
                · exact hsame
                · -- a queued write that selects the group is newer than the one in hand
                  rw [hcurrent, Option.some_inj] at hnewer
                  subst hnewer
                  omega
            · exact h.queued current hcurrent
    · exact h.queued queued hqueued
  · by_cases hown : record.deviceId = write.deviceId ∧ write.selects field = true
    · obtain ⟨merged, hmerged, hselects, -⟩ := merge_queued d hown.2
      rw [← hown.1] at hmerged
      exact .inl (hqueues ⟨merged, hmerged, hselects⟩)
    · rcases h.stored with hbefore | ⟨other, hother, hid, hselects⟩ | hbefore
      · exact .inl (hqueues (hbefore.merge write))
      · rw [hhand, DeviceHand.write.injEq] at hother
        subst hother
        exact absurd ⟨hid.symm, hselects⟩ hown
      · refine .inr (.inr ?_)
        rcases htables with rfl | hwritten
        · exact hbefore
        · exact ((stored_written hwritten record.deviceId field).trans
            (if_neg hown)).trans hbefore

/-! ### Submissions -/

/-- The record of the device is what is queued once it has been submitted. -/
lemma merged_record (h : WritesTrail d devices) (hfind : devices.find record.deviceId = some record)
    (hrecord : write.record = record) (hrevision : write.revision = record.revision) :
    ∃ merged, (d.mergeWrite write).writes.lookup record.deviceId = some merged ∧
      merged.record = record := by
  have hid : write.deviceId = record.deviceId := congrArg DeviceRecord.deviceId hrecord
  rw [lookup_merged, if_pos hid.symm]
  refine ⟨_, rfl, ?_⟩
  cases hcurrent : d.writes.lookup record.deviceId with
  | none => exact hrecord
  | some current =>
      -- what was queued is not newer
      obtain ⟨-, found, hfound, hle, -⟩ := h.pending current (.inr ⟨_, hcurrent⟩)
      rw [h.keyed _ current hcurrent, hfind, Option.some_inj] at hfound
      simp only [joined, WorkerLoop.mergedWrite]
      rw [hrevision, if_pos (hfound ▸ hle)]
      exact hrecord

/-- **A submission of the record** with the group: the tables will have it. -/
lemma follows_of_submitted (h : WritesTrail d devices)
    (hfind : devices.find record.deviceId = some record) (hrecord : write.record = record)
    (hrevision : write.revision = record.revision) (hselects : write.selects field = true) :
    RowsFollow (d.mergeWrite write) t record field := by
  have hid : write.deviceId = record.deviceId := congrArg DeviceRecord.deviceId hrecord
  obtain ⟨merged, hmerged, hsame⟩ := merged_record h hfind hrecord hrevision
  obtain ⟨queued, hqueued, hselected, hnewer⟩ := merge_queued d hselects
  rw [hid] at hqueued
  refine ⟨fun other hother => ?_, fun other hother hdevice => ?_, .inl ⟨queued, hqueued, hselected⟩⟩
  · rw [hmerged, Option.some_inj] at hother
    rw [← hother, hsame]
  · obtain ⟨-, found, hfound, hle, heq⟩ := h.pending other (.inl hother)
    rw [hdevice, hfind, Option.some_inj] at hfound
    subst hfound
    rcases hle.lt_or_eq with hlt | hlast
    · exact .inr ⟨queued, hqueued, hselected, by omega⟩
    · rw [heq hlast]
      exact .inl rfl

/-- **Any submission** of what the records are: the tables will have what they would. -/
lemma RowsFollow.submitted (h : RowsFollow d t record field) (htrail : WritesTrail d devices)
    (hfind : devices.find record.deviceId = some record)
    (hwrite : write.deviceId = record.deviceId →
      write.record = record ∧ write.revision = record.revision) :
    RowsFollow (d.mergeWrite write) t record field := by
  refine ⟨fun queued hqueued => ?_, fun other hother hdevice => ?_, ?_⟩
  · by_cases hid : write.deviceId = record.deviceId
    · obtain ⟨hrecord, hrevision⟩ := hwrite hid
      obtain ⟨merged, hmerged, hsame⟩ := merged_record htrail hfind hrecord hrevision
      rw [hmerged, Option.some_inj] at hqueued
      rw [← hqueued, hsame]
    · rw [lookup_merged, if_neg (Ne.symm hid)] at hqueued
      exact h.queued queued hqueued
  · rcases h.hand other hother hdevice with hsame | ⟨queued, hqueued, hselects, hlt⟩
    · exact .inl hsame
    · obtain ⟨merged, hmerged, hselects', hnewer⟩ := queued_merged hqueued hselects write
      exact .inr ⟨merged, hmerged, hselects', hlt.trans_le hnewer⟩
  · rcases h.stored with hqueues | hrest
    · exact .inl (hqueues.merge write)
    · exact .inr hrest

/-! ### The thread -/

/-- **A step of the thread** that gives nothing up. -/
lemma RowsFollow.side (h : RowsFollow d t record field) (hkeyed : d.Keyed) {input : DeviceSideInput}
    (henabled : d.Enabled input) (hcall : ¬ input.IsDeviceCall) (hkeeps : input.givesUp = false)
    (hstores : Stores t t' input) (hthere : (t.stored record.deviceId field).isSome = true) :
    RowsFollow (d.next input) t' record field := by
  have hsame : Stores t t' .skip → ∀ stored, t.stored record.deviceId field = some stored →
      t'.stored record.deviceId field = some stored := fun hkept => hkept _ _
  cases input with
  | submitProvision registration receivedAt => exact absurd trivial hcall
  | submitWrite write => exact absurd trivial hcall
  | validationFailed => cases hkeeps
  | takeProvision deviceId task =>
      refine h.frame rfl (fun write => ?_) (hsame hstores)
      rw [henabled.2.1]
      exact ⟨fun hnone => (by cases hnone), fun hnone => (by cases hnone)⟩
  | takeWrite deviceId write =>
      have htaken : RowsFollow (d.next (.takeWrite deviceId write)) t record field :=
        h.take hkeyed henabled.2.1 henabled.2.2
      exact htaken.frame rfl (fun _ => .rfl) (hsame hstores)
  | provisionEnded task result =>
      have hhand : ∀ write, DeviceHand.free = .write write ↔ d.hand = .write write := by
        intro write
        rw [henabled.2]
        exact ⟨fun hnone => (by cases hnone), fun hnone => (by cases hnone)⟩
      simp only [DeviceSide.next, DeviceSide.endProvision]
      split
      · exact h.frame rfl hhand (hsame hstores)
      · split
        · exact h.frame rfl hhand (hsame hstores)
        · exact h.frame rfl hhand (hsame hstores)
  | writeEnded write result =>
      simp only [DeviceSide.next, DeviceSide.endWrite]
      cases result with
      | ok done => exact h.written henabled.2 hthere hstores rfl fun _ hnone => by cases hnone
      | error error =>
          dsimp only
          rw [if_pos (not_not.mp (of_decide_eq_false hkeeps))]
          exact h.lost henabled.2 hstores rfl fun _ hnone => by cases hnone
  | _ => exact h.frame rfl (fun _ => .rfl) (hsame hstores)

end

end CnsServer
