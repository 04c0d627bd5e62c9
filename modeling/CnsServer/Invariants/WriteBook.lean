/-
The write book of the device service: what is to be written, what is on its way, and the
log lines that wait for it.

* `WriteBook`: the dirty state, the writes the thread is about to submit, the submitted
  ones, and the pending status logs;
* `BookCall`, `WriteBook.next`: everything that can happen to them;
* `DeviceInput.marks`: the mutations that a step of the service marks;
* `book_next`: **the service does nothing else to its book**, so that an invariant of it
  needs one case for each `BookCall`;
* `marks_next`: what is marked is the next record of its device.
-/
import CnsServer.Invariants.CurrentRecords

namespace CnsServer

open DeviceService

/-- The part of the service that says what is written. -/
structure WriteBook where
  dirty : DirtyState
  staged : List DesiredDeviceWrite
  submitted : Map String DesiredDeviceWrite
  logs : Map String DesiredDeviceWrite

/-- What happens to it: a mutation is marked; writes are taken out of the dirty state, or
made for degraded devices, and submitted one by one; one is reported to be complete, or to
have failed; all are cancelled. -/
inductive BookCall where
  | mark (mutation : Mutation) (markedAt : TimePoint)
  | take (take : DirtyState.Take) (writes : List DesiredDeviceWrite)
  | replay (writes : List DesiredDeviceWrite)
  | submit (outcome : SubmitOutcome) (now : TimePoint)
  | completed (deviceId : String) (revision : ℕ)
  | failed (deviceId : String)
  | cancelled

namespace WriteBook

/-- The log lines after a completed write of the device. -/
def report (logs : Map String DesiredDeviceWrite) (deviceId : String) (revision : ℕ)
    (write : DesiredDeviceWrite) : Map String DesiredDeviceWrite :=
  match logs.lookup deviceId with
  | none => logs
  | some log => if log.revision ≤ revision && write.writeStatus then logs.erase deviceId else logs

/-- The book after a call. -/
def next (b : WriteBook) : BookCall → WriteBook
  | .mark mutation markedAt =>
      { b with
        dirty := b.dirty.mark (markedWrite mutation) markedAt
        logs :=
          if mutation.statusChanged then
            b.logs.insert mutation.record.deviceId (statusWrite mutation.record)
          else b.logs }
  | .take take writes =>
      { b with
        dirty := (b.dirty.takeMatching take).2
        staged := writes }
  | .replay writes => { b with staged := writes }
  | .submit outcome now =>
      match b.staged with
      | [] => b
      | write :: staged =>
          if outcome = .accepted then
            { b with
              staged := staged
              submitted := b.submitted.insert write.record.deviceId write }
          else
            { b with
              staged := staged
              dirty := b.dirty.restore write now }
  | .completed deviceId revision =>
      match b.submitted.lookup deviceId with
      | none => b
      | some write =>
          if write.revision ≤ revision then
            { b with
              dirty := b.dirty.complete write
              submitted := b.submitted.erase deviceId
              logs := report b.logs deviceId revision write }
          else b
  | .failed deviceId =>
      if deviceId.isEmpty then
        { b with
          submitted := ∅
          logs := ∅ }
      else
        { b with
          submitted := b.submitted.erase deviceId
          logs := b.logs.erase deviceId }
  | .cancelled =>
      { b with
        dirty := .empty
        submitted := ∅ }

end WriteBook

/-- The book of a service. -/
def DeviceService.book (s : DeviceService) : WriteBook where
  dirty := s.dirty
  staged := s.phase.writes
  submitted := s.submitted
  logs := s.pendingStatusLogs

/-- The entries stand under their devices. -/
def EntriesKeyed (dirty : DirtyState) : Prop :=
  ∀ deviceId entry, dirty.entries.lookup deviceId = some entry → entry.record.deviceId = deviceId

/-! ### Marks -/

/-- The mutation of a report that is accepted. -/
def reportMarks (report : Except String Mutation × DeviceRegistry) (now : TimePoint) :
    List (Mutation × TimePoint) :=
  match report.1 with
  | .ok mutation => [(mutation, now)]
  | .error _ => []

/-- The mutation of a message. -/
def DeviceService.messageMarks (cfg : DeviceServiceConfig) (s : DeviceService)
    (inbound : InboundMessage) (now : TimePoint) : List (Mutation × TimePoint) :=
  match parseDeviceTopic cfg.topicNamespace inbound.topic with
  | .error _ => []
  | .ok ⟨deviceId, .registration⟩ =>
      match parseRegistration (cfg.parseJson inbound.payload) deviceId with
      | .error _ => []
      | .ok registration =>
          if (s.registry.find deviceId).isSome then
            reportMarks (s.registry.applyRegistration registration inbound.receivedAt) now
          else []
  | .ok ⟨deviceId, .telemetry⟩ =>
      match parseTelemetry (cfg.parseJson inbound.payload) deviceId with
      | .error _ => []
      | .ok telemetry =>
          reportMarks (s.registry.applyTelemetry deviceId telemetry inbound.receivedAt) now

/-- The mutation of a provisioned device: its pending registration. -/
def DeviceService.provisionedMarks (s : DeviceService) (deviceId : String) (record : DeviceRecord)
    (now : TimePoint) : List (Mutation × TimePoint) :=
  match s.pending.lookup deviceId, s.registry.addProvisioned record with
  | some candidate, (.ok _, registry) =>
      reportMarks (registry.applyRegistration candidate.registration candidate.receivedAt) now
  | _, _ => []

/-- What a step of the service marks, with the times. -/
def DeviceInput.marks (cfg : DeviceServiceConfig) (s : DeviceService) :
    DeviceInput → List (Mutation × TimePoint)
  | .result answer _ now =>
      match answer.kind, answer.provisioned with
      | .provisioned, some record => s.provisionedMarks answer.deviceId record now
      | _, _ => []
  | .message inbound now => s.messageMarks cfg inbound now
  | .scan now _ mutations markedAt =>
      if s.scanDue now then
        mutations.map fun mutation => (mutation, markedAt mutation.record.deviceId)
      else []
  | _ => []

/-! ### Calls -/

/-- What a result means for the book, its marks apart. -/
def DatabaseResult.bookCalls (answer : DatabaseResult) (writes : List DesiredDeviceWrite) :
    List BookCall :=
  match answer.kind with
  | .permanentFailure => [.failed answer.deviceId]
  | .recovered => [.replay writes]
  | .writeCompleted => [.completed answer.deviceId answer.revision]
  | _ => []

/-- What the head of `DispatchWrites` takes. -/
def DeviceService.dispatchCalls (s : DeviceService) (writes : List DesiredDeviceWrite) :
    List BookCall :=
  if s.databaseUnavailable then []
  else if s.inputDrained then if s.drainSubmissionBlocked then [] else [.take .all writes]
  else [.take .immediate writes]

/-- What a step of the service means for its book. -/
def DeviceInput.bookCalls (cfg : DeviceServiceConfig) (s : DeviceService) (input : DeviceInput) :
    List BookCall :=
  match input with
  | .result answer writes _ =>
      answer.bookCalls writes ++ (input.marks cfg s).map fun mark => .mark mark.1 mark.2
  | .resultsDone => if s.cancelRequested then [.cancelled] else []
  | .dispatch writes => s.dispatchCalls writes
  | .write outcome now => [.submit outcome now]
  | .endBatch now writes =>
      match s.phase with
      | .dispatching .immediate [] _ => [.take (.telemetryDue now cfg.telemetryInterval) writes]
      | _ => []
  | _ => (input.marks cfg s).map fun mark => .mark mark.1 mark.2

section

variable {cfg : DeviceServiceConfig} {s : DeviceService}

/-- Where the thread is matters for the writes it is about to submit only. -/
lemma enter_book {phase : DevicePhase} (h : phase.writes = s.phase.writes) :
    ({ s with phase := phase } : DeviceService).book = s.book := by
  rw [DeviceService.book, DeviceService.book, ← h]

@[simp] lemma degrade_book (deviceId : String) (revision : DeviceRecord → ℕ) :
    (s.degrade deviceId revision).book = s.book := by
  rw [degrade]
  split
  · rfl
  · rfl

@[simp] lemma dropPending_book (deviceId : String) : (s.dropPending deviceId).book = s.book := by
  rw [dropPending]
  split
  · rfl
  · dsimp only
    split
    · rfl
    · rfl

lemma handleUnavailable_book (answer : DatabaseResult) :
    (s.handleUnavailable answer).book = s.book := by
  have hdegraded := @degrade_book { s with databaseUnavailable := true } answer.deviceId
    fun record => max record.revision answer.revision
  rw [handleUnavailable]
  split
  · exact hdegraded
  · exact hdegraded

lemma dropAll_book : s.dropAll.book = { s.book with submitted := ∅, logs := ∅ } := by
  rw [dropAll]
  split
  · rfl
  · rfl

lemma dropSubmitted_book (deviceId : String) : (s.dropSubmitted deviceId).book =
    { s.book with
      submitted := s.submitted.erase deviceId
      logs := s.pendingStatusLogs.erase deviceId } := by
  rw [dropSubmitted]
  split
  · rfl
  · next hnone =>
      rw [Bool.not_eq_true, Option.isSome_eq_false_iff, Option.isNone_iff_eq_none] at hnone
      rw [Map.erase_of_lookup_none hnone]
      rfl

lemma handlePermanentFailure_book (answer : DatabaseResult) :
    (s.handlePermanentFailure answer).book = s.book.next (.failed answer.deviceId) := by
  have hpending := @dropPending_book s answer.deviceId
  refine (degrade_book _ _).trans ?_
  rw [WriteBook.next]
  split
  · rw [dropAll_book, hpending]
  · have hsubmitted : (s.dropPending answer.deviceId).submitted = s.submitted :=
      congrArg WriteBook.submitted hpending
    have hlogs : (s.dropPending answer.deviceId).pendingStatusLogs = s.pendingStatusLogs :=
      congrArg WriteBook.logs hpending
    rw [dropSubmitted_book, hpending, hsubmitted, hlogs]
    rfl

lemma recoverDevice_book (deviceId : String) (revision : ℕ) :
    (s.recoverDevice deviceId revision).book = s.book := by
  rw [recoverDevice]
  split
  · rfl
  · split
    · dsimp only
      split
      · rfl
      · rfl
    · rfl

lemma reportStatus_book (deviceId : String) (revision : ℕ) (write : DesiredDeviceWrite) :
    (s.reportStatus deviceId revision write).book =
      { s.book with logs := WriteBook.report s.pendingStatusLogs deviceId revision write } := by
  rw [reportStatus, WriteBook.report]
  cases s.pendingStatusLogs.lookup deviceId with
  | none => rfl
  | some log =>
      dsimp only
      split
      · rfl
      · rfl

lemma handleWriteCompleted_book (answer : DatabaseResult) :
    (s.handleWriteCompleted answer).book =
      s.book.next (.completed answer.deviceId answer.revision) := by
  rw [handleWriteCompleted, recoverDevice_book, completeSubmitted]
  simp only [WriteBook.next, DeviceService.book]
  cases s.submitted.lookup answer.deviceId with
  | none => rfl
  | some write =>
      dsimp only
      by_cases hrevision : write.revision ≤ answer.revision
      · rw [if_pos hrevision, if_pos hrevision]
        have hreported := @reportStatus_book s answer.deviceId answer.revision write
        exact congrArg (fun b : WriteBook => (⟨b.dirty.complete write, b.staged,
          b.submitted.erase answer.deviceId, b.logs⟩ : WriteBook)) hreported
      · rw [if_neg hrevision, if_neg hrevision]

lemma foldl_mark_book (markedAt : Mutation → TimePoint) (mutations : List Mutation)
    (s : DeviceService) :
    (mutations.foldl (fun s mutation => s.mark mutation (markedAt mutation)) s).book =
      ((mutations.map fun mutation => (mutation, markedAt mutation)).map fun mark =>
        BookCall.mark mark.1 mark.2).foldl WriteBook.next s.book := by
  induction mutations generalizing s with
  | nil => rfl
  | cons mutation mutations ih => exact ih (s.mark mutation (markedAt mutation))

/-- A report is marked in the directory it leaves. -/
lemma applyReport_book (report : Except String Mutation × DeviceRegistry) (now : TimePoint) :
    (s.applyReport report now).book =
      ((reportMarks report now).map fun mark => BookCall.mark mark.1 mark.2).foldl WriteBook.next
        s.book := by
  obtain ⟨outcome, registry⟩ := report
  cases outcome with
  | ok mutation => rfl
  | error message => rfl

lemma applyPending_book (candidate : PendingRegistration) (now : TimePoint) :
    (s.applyPending candidate now).book =
      ((reportMarks (s.registry.applyRegistration candidate.registration candidate.receivedAt)
        now).map fun mark => BookCall.mark mark.1 mark.2).foldl WriteBook.next s.book := by
  rw [applyPending]
  split
  · next mutation registry hok => rw [hok]; rfl
  · next message registry hrefused => rw [hrefused]; rfl

lemma handleProvisioned_book (deviceId : String) (record : DeviceRecord) (now : TimePoint) :
    (s.handleProvisioned deviceId record now).book =
      ((s.provisionedMarks deviceId record now).map fun mark =>
        BookCall.mark mark.1 mark.2).foldl WriteBook.next s.book := by
  rw [handleProvisioned, provisionedMarks]
  cases s.pending.lookup deviceId with
  | none => rfl
  | some candidate =>
      dsimp only
      split
      · next message registry hrefused =>
          rw [hrefused]
          split
          · rfl
          · rfl
      · next registry hadded =>
          rw [hadded]
          have happlied := @applyPending_book { s with
            registry := registry
            pending := s.pending.erase deviceId } candidate now
          split
          · exact happlied
          · exact happlied

lemma handleMessage_book (inbound : InboundMessage) (now : TimePoint) :
    (s.handleMessage cfg inbound now).book =
      ((s.messageMarks cfg inbound now).map fun mark => BookCall.mark mark.1 mark.2).foldl
        WriteBook.next s.book := by
  rw [handleMessage, messageMarks]
  cases parseDeviceTopic cfg.topicNamespace inbound.topic with
  | error message => rfl
  | ok topic =>
      obtain ⟨deviceId, kind⟩ := topic
      cases kind with
      | registration =>
          dsimp only
          cases parseRegistration (cfg.parseJson inbound.payload) deviceId with
          | error message => rfl
          | ok registration =>
              simp only [handleRegistration]
              cases s.registry.find deviceId with
              | none =>
                  simp only [awaitProvision]
                  split
                  · rfl
                  · split
                    · rfl
                    · rfl
              | some record => exact applyReport_book _ now
      | telemetry =>
          dsimp only
          cases parseTelemetry (cfg.parseJson inbound.payload) deviceId with
          | error message => rfl
          | ok telemetry => exact applyReport_book _ now

lemma submitProvision_book (deviceId : String) (outcome : SubmitOutcome) :
    (s.submitProvision deviceId outcome).book = s.book := by
  rw [submitProvision]
  split
  · rfl
  · split
    · rfl
    · rfl

/-- The head of the staged writes is submitted. -/
lemma submitWrite_book {write : DesiredDeviceWrite} {writes : List DesiredDeviceWrite}
    {phase : DevicePhase} (hphase : s.phase.writes = write :: writes)
    (hrest : phase.writes = writes) (outcome : SubmitOutcome) (now : TimePoint) :
    ({ s.submitWrite write outcome now with phase := phase } : DeviceService).book =
      s.book.next (.submit outcome now) := by
  have hbook : s.book.next (.submit outcome now) =
      if outcome = .accepted then
        { s.book with
          staged := writes
          submitted := s.submitted.insert write.record.deviceId write }
      else
        { s.book with
          staged := writes
          dirty := s.dirty.restore write now } := by
    simp only [WriteBook.next, show s.book.staged = write :: writes from hphase]
    rfl
  rw [hbook, submitWrite, ← hrest]
  split
  · dsimp only
    split
    · rfl
    · rfl
  · have hdegraded := @degrade_book { s with dirty := s.dirty.restore write now }
      write.record.deviceId DeviceRecord.revision
    exact congrArg (fun b : WriteBook => (⟨b.dirty, phase.writes, b.submitted, b.logs⟩ : WriteBook))
      hdegraded

/-- **The service does nothing else to its book.** -/
theorem book_next {input : DeviceInput} (henabled : input.Enabled cfg s) :
    (input.apply cfg s).book = (input.bookCalls cfg s).foldl WriteBook.next s.book := by
  cases input with
  | begin =>
      rw [show s.book = ⟨s.dirty, s.phase.writes, s.submitted, s.pendingStatusLogs⟩ from rfl,
        show s.phase = .idle from henabled]
      rfl
  | result answer writes now =>
      obtain ⟨hphase, -⟩ := henabled
      simp only [DeviceInput.apply, handleResult, DeviceInput.bookCalls, DatabaseResult.bookCalls,
        DeviceInput.marks]
      cases answer.kind with
      | unavailable => exact handleUnavailable_book answer
      | permanentFailure => exact handlePermanentFailure_book answer
      | recovered =>
          show (s.handleRecovered writes).book = { s.book with staged := writes }
          rw [handleRecovered]
          split
          · next hnil => rw [hnil]; rfl
          · rfl
      | writeCompleted => exact handleWriteCompleted_book answer
      | provisioned =>
          dsimp only
          cases answer.provisioned with
          | none => rfl
          | some record => exact handleProvisioned_book answer.deviceId record now
  | resultsDone =>
      have hphase : s.phase = .results := henabled
      have hstaged : s.book.staged = [] := congrArg DevicePhase.writes hphase
      simp only [DeviceInput.apply, DeviceInput.bookCalls, consumeCancel]
      split
      · rw [List.foldl_cons, List.foldl_nil, WriteBook.next, hstaged]
        rfl
      · exact enter_book hstaged.symm
  | message inbound now => exact handleMessage_book inbound now
  | messagesDone deviceIds =>
      refine enter_book ?_
      rw [henabled.1]
      split
      · rfl
      · rfl
  | provision outcome =>
      obtain ⟨deviceId, deviceIds, hphase⟩ := henabled
      have hsubmitted := @submitProvision_book s deviceId outcome
      have hstaged : (s.submitProvision deviceId outcome).phase.writes = [] :=
        (congrArg WriteBook.staged hsubmitted).trans (congrArg DevicePhase.writes hphase)
      simp only [DeviceInput.apply, hphase]
      refine (enter_book ?_).trans hsubmitted
      rw [hstaged]
      split
      · rfl
      · rfl
  | scan now systemNow mutations markedAt =>
      have hstaged : s.phase.writes = [] := congrArg DevicePhase.writes henabled.1
      simp only [DeviceInput.apply, scan, DeviceInput.bookCalls, DeviceInput.marks]
      split
      · refine (foldl_mark_book _ mutations _).trans (congrArg (List.foldl WriteBook.next · _) ?_)
        exact enter_book hstaged.symm
      · exact enter_book hstaged.symm
  | dispatch writes =>
      have hstaged : s.phase.writes = [] := congrArg DevicePhase.writes henabled.1
      simp only [DeviceInput.apply, beginDispatch, DeviceInput.bookCalls, dispatchCalls]
      split
      · exact enter_book hstaged.symm
      split
      · split
        · exact enter_book hstaged.symm
        · rfl
      · rfl
  | write outcome now =>
      obtain ⟨desired, writes, hphase | ⟨batch, accepted, hphase⟩⟩ := henabled
      · have hwrites := congrArg DevicePhase.writes hphase
        simp only [DeviceInput.apply, hphase]
        refine submitWrite_book hwrites ?_ outcome now
        split
        · next hnil => rw [hnil]; rfl
        · rfl
      · have hwrites := congrArg DevicePhase.writes hphase
        simp only [DeviceInput.apply, hphase]
        exact submitWrite_book hwrites rfl outcome now
  | endBatch now writes =>
      obtain ⟨batch, accepted, hphase, -⟩ := henabled
      have hstaged : s.phase.writes = [] := congrArg DevicePhase.writes hphase
      simp only [DeviceInput.apply, DeviceInput.bookCalls, hphase]
      cases batch with
      | immediate => rfl
      | telemetry => exact enter_book hstaged.symm
      | all => exact enter_book hstaged.symm
  | finish =>
      have hphase : s.phase = .snapshot := henabled
      have hstaged : s.phase.writes = [] := congrArg DevicePhase.writes hphase
      simp only [DeviceInput.apply, finishReady]
      split
      · exact enter_book hstaged.symm
      · exact enter_book hstaged.symm
  | drained => rfl
  | requestSnapshot =>
      simp only [DeviceInput.apply, requestExternalSnapshot]
      split
      · rfl
      · rfl
  | _ => rfl

/-! ### The marked records -/

/-- Every mark is a call. -/
lemma mark_mem_bookCalls {input : DeviceInput} {mark : Mutation × TimePoint}
    (hmark : mark ∈ input.marks cfg s) : BookCall.mark mark.1 mark.2 ∈ input.bookCalls cfg s := by
  have hmem : BookCall.mark mark.1 mark.2 ∈
      (input.marks cfg s).map fun mark => BookCall.mark mark.1 mark.2 :=
    List.mem_map_of_mem hmark
  cases input with
  | result answer writes now => exact List.mem_append_right _ hmem
  | message inbound now => exact hmem
  | scan now systemNow mutations markedAt => exact hmem
  | _ => cases hmark

/-- What is marked is the next record of its device. -/
lemma reportMarks_next {report : Except String Mutation × DeviceRegistry} {now : TimePoint}
    (hnext : ∀ mutation registry, report = (.ok mutation, registry) →
      ∃ record, NextRecord record mutation.record)
    {mark : Mutation × TimePoint} (hmark : mark ∈ reportMarks report now) :
    ∃ record, NextRecord record mark.1.record := by
  obtain ⟨outcome, registry⟩ := report
  cases outcome with
  | ok mutation =>
      rw [List.mem_singleton.mp hmark]
      exact hnext mutation registry rfl
  | error message => cases hmark

lemma registrationMarks_next {registry : DeviceRegistry} {registration : Registration}
    {receivedAt now : TimePoint} {mark : Mutation × TimePoint}
    (hmark : mark ∈ reportMarks (registry.applyRegistration registration receivedAt) now) :
    ∃ record, NextRecord record mark.1.record := by
  refine reportMarks_next (fun mutation registry hok => ?_) hmark
  obtain ⟨record, -, hmutation, -⟩ := applyRegistration_ok hok
  exact ⟨record, hmutation ▸ registered_next _ _ _ _⟩

lemma messageMarks_next {inbound : InboundMessage} {now : TimePoint} {mark : Mutation × TimePoint}
    (hmark : mark ∈ s.messageMarks cfg inbound now) :
    ∃ record, NextRecord record mark.1.record := by
  rw [messageMarks] at hmark
  split at hmark
  · cases hmark
  · split at hmark
    · cases hmark
    · split at hmark
      · exact registrationMarks_next hmark
      · cases hmark
  · split at hmark
    · cases hmark
    · refine reportMarks_next (fun mutation registry hok => ?_) hmark
      obtain ⟨record, -, hmutation, -⟩ := applyTelemetry_ok hok
      exact ⟨record, hmutation ▸ reported_next _ _ _ _⟩

lemma provisionedMarks_next {deviceId : String} {record : DeviceRecord} {now : TimePoint}
    {mark : Mutation × TimePoint} (hmark : mark ∈ s.provisionedMarks deviceId record now) :
    ∃ record, NextRecord record mark.1.record := by
  rw [provisionedMarks] at hmark
  split at hmark
  · exact registrationMarks_next hmark
  · cases hmark

/-- Every mutation that is marked has the next record of its device. -/
theorem marks_next {input : DeviceInput} (henabled : input.Enabled cfg s)
    {mark : Mutation × TimePoint} (hmark : mark ∈ input.marks cfg s) :
    ∃ record, NextRecord record mark.1.record := by
  cases input with
  | result answer writes now =>
      simp only [DeviceInput.marks] at hmark
      split at hmark
      · exact provisionedMarks_next hmark
      · cases hmark
  | message inbound now => exact messageMarks_next hmark
  | scan now systemNow mutations markedAt =>
      simp only [DeviceInput.marks] at hmark
      split at hmark
      · next hdue =>
          obtain ⟨mutation, hmutation, rfl⟩ := List.mem_map.mp hmark
          have hexpired := henabled.2.mem_iff.mp hmutation
          rw [scanMutations, if_pos hdue] at hexpired
          obtain ⟨record, -, rfl⟩ := List.mem_map.mp hexpired
          exact ⟨record, expired_next record⟩
      · cases hmark
  | _ => cases hmark

end

end CnsServer
