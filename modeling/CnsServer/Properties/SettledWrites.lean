/-
What is left of the writes once all are reported.

* `FlightWatch`: the service with the submitted writes that no result has reported, and
  the last changed status of each device;
* `Smooth`: no failure, no refusal, no cancel; `FieldsKept`: no write is submitted
  over one of its device, still on its way, that writes more columns;
* `settled_of_reported`: **nothing is left**: with nothing dirty and every submitted write
  reported, the dirty state is empty, and every recorded status has been logged;
* `residue_overlapped`: a telemetry is written while the registration before it is on its
  way, and both stay behind.
-/
import CnsServer.Invariants.WritesInFlight
import CnsServer.Runtime.DeviceScenario

namespace CnsServer

open DeviceService

/-! ### The watch -/

/-- The service with the writes that are still to be reported, and the last changed
status of each device. -/
structure FlightWatch where
  service : DeviceService
  outstanding : List (String × ℕ)
  recorded : Map String DesiredDeviceWrite

/-- A changed status is recorded. -/
def recordStatus (recorded : Map String DesiredDeviceWrite) (mutation : Mutation) :
    Map String DesiredDeviceWrite :=
  if mutation.statusChanged then
    recorded.insert mutation.record.deviceId (statusWrite mutation.record)
  else recorded

/-- The submitted writes that are not reported after an input. A result reports the
writes of its device that are not newer. -/
def FlightWatch.outstandingAfter (w : FlightWatch) : DeviceInput → List (String × ℕ)
  | .write .accepted _ => w.outstanding ++
      (w.service.phase.writes.take 1).map fun write => (write.record.deviceId, write.revision)
  | .result answer _ _ =>
      if answer.kind = .writeCompleted then
        w.outstanding.filter fun write =>
          !(write.1 = answer.deviceId && write.2 ≤ answer.revision)
      else w.outstanding
  | _ => w.outstanding

/-- The device service under watch. -/
def flightWatch (cfg : DeviceServiceConfig) : Machine FlightWatch DeviceInput where
  init w := (deviceService cfg).init w.service ∧ w.outstanding = [] ∧ w.recorded = ∅
  enabled w input := input.Enabled cfg w.service
  next w input :=
    { service := input.apply cfg w.service
      outstanding := w.outstandingAfter input
      recorded := ((input.marks cfg w.service).map Prod.fst).foldl recordStatus w.recorded }

/-- No failure and no refusal, and no cancel is consumed. -/
def Smooth (s : DeviceService) : DeviceInput → Prop
  | .result answer _ _ => answer.kind = .provisioned ∨ answer.kind = .writeCompleted
  | .resultsDone => s.cancelRequested = false
  | .write outcome _ => outcome = .accepted
  | _ => True

/-- A write is submitted only if it writes all that the last submitted one of its device
does, if that is still on its way. -/
def FieldsKept (s : DeviceService) : DeviceInput → Prop
  | .write _ _ => ∀ write ∈ s.phase.writes.head?,
      ∀ before ∈ s.submitted.lookup write.record.deviceId,
        ∀ field, before.selects field = true → write.selects field = true
  | _ => True

instance decidableSmooth (s : DeviceService) : ∀ input, Decidable (Smooth s input)
  | .result answer _ _ =>
      inferInstanceAs (Decidable (answer.kind = .provisioned ∨ answer.kind = .writeCompleted))
  | .resultsDone => inferInstanceAs (Decidable (s.cancelRequested = false))
  | .write outcome _ => inferInstanceAs (Decidable (outcome = .accepted))
  | .begin | .message _ _ | .messagesDone _ | .provision _ | .scan _ _ _ _ | .dispatch _
  | .endBatch _ _ | .finish | .close | .drained | .cancel | .requestSnapshot => .isTrue trivial

instance decidableForallField (p : DeviceField → Prop) [DecidablePred p] :
    Decidable (∀ field, p field) :=
  decidable_of_iff (p .metadata ∧ p .status ∧ p .telemetry)
    ⟨fun ⟨hmetadata, hstatus, htelemetry⟩ field =>
        match field with
        | .metadata => hmetadata
        | .status => hstatus
        | .telemetry => htelemetry,
      fun h => ⟨h .metadata, h .status, h .telemetry⟩⟩

instance decidableFieldsKept (s : DeviceService) : ∀ input, Decidable (FieldsKept s input)
  | .write _ _ => inferInstanceAs (Decidable (∀ write ∈ s.phase.writes.head?,
      ∀ before ∈ s.submitted.lookup write.record.deviceId,
        ∀ field, before.selects field = true → write.selects field = true))
  | .begin | .result _ _ _ | .resultsDone | .message _ _ | .messagesDone _ | .provision _
  | .scan _ _ _ _ | .dispatch _ | .endBatch _ _ | .finish | .close | .drained | .cancel
  | .requestSnapshot => .isTrue trivial

/-- `Handle(kWriteCompleted)` prints this line. -/
def statusLine (record : DeviceRecord) : String :=
  (if record.status = .online then "设备上线：" else "设备离线：") ++ describeDeviceForLog record

/-- The status has been logged. -/
def DeviceService.HasLogged (s : DeviceService) (log : DesiredDeviceWrite) : Prop :=
  DeviceEvent.informed (statusLine log.record) ∈ s.events

section

variable {cfg : DeviceServiceConfig} {s s' : DeviceService} {w : FlightWatch}
  {input : DeviceInput}

/-! ### The book -/

lemma foldl_mark_inOrder {marks : List (Mutation × TimePoint)} {b : WriteBook} (h : b.InOrder)
    (hmarks : ∀ mark ∈ marks, mark.1.record.revision ≠ 0) :
    ((marks.map fun mark => BookCall.mark mark.1 mark.2).foldl WriteBook.next b).InOrder := by
  induction marks generalizing b with
  | nil => exact h
  | cons mark marks ih =>
      exact ih (h.mark (hmarks mark List.mem_cons_self) mark.2) fun other hother =>
        hmarks other (List.mem_cons_of_mem _ hother)

/-- A step that only marks. -/
lemma marks_inOrder (henabled : input.Enabled cfg s) (h : s.book.InOrder) :
    (((input.marks cfg s).map fun mark => BookCall.mark mark.1 mark.2).foldl WriteBook.next
      s.book).InOrder := by
  refine foldl_mark_inOrder h fun mark hmark => ?_
  obtain ⟨record, hnext⟩ := marks_next henabled hmark
  rw [hnext.revision]
  exact Nat.succ_ne_zero _

lemma dispatch_inOrder {writes : List DesiredDeviceWrite}
    (henabled : DeviceInput.Enabled cfg s (.dispatch writes)) (hkeyed : EntriesKeyed s.dirty)
    (h : s.book.InOrder) : ((s.dispatchCalls writes).foldl WriteBook.next s.book).InOrder := by
  obtain ⟨hphase, hwrites⟩ := henabled
  have hstaged : s.book.staged = [] := congrArg DevicePhase.writes hphase
  rw [firstBatch] at hwrites
  rw [dispatchCalls]
  split
  · exact h
  split
  · next hdrained =>
      rw [if_pos hdrained] at hwrites
      split
      · exact h
      · exact h.take hstaged hwrites hkeyed
  · next hdrained =>
      rw [if_neg hdrained] at hwrites
      exact h.take hstaged hwrites hkeyed

/-- A smooth step leaves the book in order. -/
lemma apply_inOrder (henabled : input.Enabled cfg s) (hsmooth : Smooth s input)
    (hfields : FieldsKept s input) (hkeyed : EntriesKeyed s.dirty) (h : s.book.InOrder) :
    (input.apply cfg s).book.InOrder := by
  rw [book_next henabled]
  cases input with
  | result answer writes now =>
      have hmarks := marks_inOrder henabled h
      have hstaged : s.book.staged = [] := congrArg DevicePhase.writes henabled.1
      rcases hsmooth with hkind | hkind
      · simp only [DeviceInput.bookCalls, DatabaseResult.bookCalls, hkind, List.nil_append]
        exact hmarks
      · simp only [DeviceInput.bookCalls, DatabaseResult.bookCalls, DeviceInput.marks, hkind]
        exact h.completed hstaged answer.deviceId answer.revision
  | resultsDone =>
      rw [DeviceInput.bookCalls, if_neg (Bool.eq_false_iff.mp hsmooth)]
      exact h
  | dispatch writes => exact dispatch_inOrder henabled hkeyed h
  | write outcome now =>
      have htakes : s.book.Takes (.submit outcome now) := ⟨hsmooth, hfields⟩
      exact h.next htakes
  | endBatch now writes =>
      obtain ⟨batch, accepted, hphase, hwrites⟩ := henabled
      have hstaged : s.book.staged = [] := congrArg DevicePhase.writes hphase
      simp only [DeviceInput.bookCalls, hphase]
      cases batch with
      | immediate => exact h.take hstaged (hwrites rfl) hkeyed
      | telemetry => exact h
      | all => exact h
  | _ => exact marks_inOrder henabled h

/-! ### Outstanding writes -/

/-- Every submitted write is still to be reported. -/
def StillOutstanding (submitted : Map String DesiredDeviceWrite)
    (outstanding : List (String × ℕ)) : Prop :=
  ∀ deviceId write, submitted.lookup deviceId = some write →
    (deviceId, write.revision) ∈ outstanding

/-- Marks submit nothing. -/
lemma StillOutstanding.marks {b : WriteBook} {outstanding : List (String × ℕ)}
    (h : StillOutstanding b.submitted outstanding) (marks : List (Mutation × TimePoint)) :
    StillOutstanding
      ((marks.map fun mark => BookCall.mark mark.1 mark.2).foldl WriteBook.next b).submitted
      outstanding := by
  induction marks generalizing b with
  | nil => exact h
  | cons mark marks ih => exact ih (b := b.next (.mark mark.1 mark.2)) h

/-- The last submitted write of a device leaves with the result that reports it. -/
lemma completed_outstanding {b : WriteBook} {outstanding : List (String × ℕ)}
    (h : StillOutstanding b.submitted outstanding) (deviceId : String) (revision : ℕ) :
    StillOutstanding (b.next (.completed deviceId revision)).submitted
      (outstanding.filter fun write => !(write.1 = deviceId && write.2 ≤ revision)) := by
  intro other write hwrite
  rw [List.mem_filter]
  rw [WriteBook.next] at hwrite
  split at hwrite
  · next hnone =>
      refine ⟨h other write hwrite, ?_⟩
      have hne : other ≠ deviceId := by
        rintro rfl
        rw [hnone] at hwrite
        cases hwrite
      simp [hne]
  · next found hfound =>
      split at hwrite
      · obtain ⟨hne, hwrite⟩ := Map.lookup_erase_some.mp hwrite
        exact ⟨h other write hwrite, by simp [hne]⟩
      · next hnewer =>
          refine ⟨h other write hwrite, ?_⟩
          by_cases hsame : other = deviceId
          · rw [hsame, hfound, Option.some_inj] at hwrite
            rw [← hwrite]
            simp [hnewer]
          · simp [hsame]

/-- A smooth step keeps count of the outstanding writes. -/
lemma apply_outstanding (henabled : input.Enabled cfg w.service)
    (hsmooth : Smooth w.service input)
    (h : StillOutstanding w.service.submitted w.outstanding) :
    StillOutstanding (input.apply cfg w.service).submitted (w.outstandingAfter input) := by
  have hbook : (input.apply cfg w.service).submitted =
      ((input.bookCalls cfg w.service).foldl WriteBook.next w.service.book).submitted :=
    congrArg WriteBook.submitted (book_next henabled)
  rw [hbook]
  cases input with
  | result answer writes now =>
      rcases hsmooth with hkind | hkind
      · simp only [DeviceInput.bookCalls, DatabaseResult.bookCalls, hkind, List.nil_append,
          FlightWatch.outstandingAfter]
        exact StillOutstanding.marks h _
      · simp only [DeviceInput.bookCalls, DatabaseResult.bookCalls, DeviceInput.marks, hkind,
          FlightWatch.outstandingAfter]
        exact completed_outstanding (b := w.service.book) h answer.deviceId answer.revision
  | resultsDone =>
      rw [DeviceInput.bookCalls, if_neg (Bool.eq_false_iff.mp hsmooth)]
      exact h
  | dispatch writes =>
      rw [DeviceInput.bookCalls, dispatchCalls]
      split
      · exact h
      split
      · split
        · exact h
        · exact h
      · exact h
  | write outcome now =>
      obtain rfl : outcome = .accepted := hsmooth
      show StillOutstanding (w.service.book.next (.submit .accepted now)).submitted
        (w.outstanding ++ (w.service.book.staged.take 1).map _)
      cases hstaged : w.service.book.staged with
      | nil =>
          simp only [WriteBook.next, hstaged]
          exact fun deviceId write hwrite => List.mem_append_left _ (h deviceId write hwrite)
      | cons write staged =>
          simp only [WriteBook.next, hstaged, if_true]
          intro deviceId found hfound
          rcases Map.lookup_insert_some.mp hfound with ⟨rfl, rfl⟩ | ⟨-, hbefore⟩
          · exact List.mem_append_right _ List.mem_cons_self
          · exact List.mem_append_left _ (h deviceId found hbefore)
  | endBatch now writes =>
      obtain ⟨batch, accepted, hphase, -⟩ := henabled
      simp only [DeviceInput.bookCalls, hphase]
      cases batch with
      | immediate => exact h
      | telemetry => exact h
      | all => exact h
  | _ => exact StillOutstanding.marks h _

/-! ### Log lines -/

lemma DeviceService.HasLogged.mono {log : DesiredDeviceWrite} (h : s.HasLogged log)
    (hevents : s.events <+: s'.events) : s'.HasLogged log :=
  hevents.subset h

lemma sameWork_events (h : SameWork s s') : s.events <+: s'.events := by
  obtain ⟨new, hevents, -⟩ := h.events
  exact ⟨new, hevents.symm⟩

lemma adjust_events (s : DeviceService) (delta : ℤ) :
    s.events <+: (s.adjustOutstandingDatabaseWork delta).events :=
  List.prefix_append _ _

lemma handleProvisioned_events (deviceId : String) (record : DeviceRecord) (now : TimePoint) :
    s.events <+: (s.handleProvisioned deviceId record now).events := by
  rw [handleProvisioned]
  split
  · exact List.prefix_rfl
  next candidate _ =>
  split
  · split
    · exact adjust_events s _
    · exact List.prefix_rfl
  · next registry _ =>
      have happlied := sameWork_events (applyPending_sameWork { s with
        registry := registry
        pending := s.pending.erase deviceId } candidate now)
      split
      · exact happlied.trans (adjust_events _ _)
      · exact happlied

lemma completeSubmitted_events (deviceId : String) (revision : ℕ) :
    s.events <+: (s.completeSubmitted deviceId revision).events := by
  rw [completeSubmitted]
  split
  · exact List.prefix_rfl
  next write _ =>
  split
  · have hreported := sameWork_events (reportStatus_sameWork s deviceId revision write)
    exact hreported.trans (adjust_events _ _)
  · exact List.prefix_rfl

lemma handleWriteCompleted_events (answer : DatabaseResult) :
    s.events <+: (s.handleWriteCompleted answer).events :=
  (completeSubmitted_events _ _).trans (sameWork_events (recoverDevice_sameWork _ _ _))

lemma handleMessage_events (inbound : InboundMessage) (now : TimePoint) :
    s.events <+: (s.handleMessage cfg inbound now).events := by
  rw [handleMessage]
  split
  · exact List.prefix_rfl
  · split
    · exact List.prefix_rfl
    · rw [handleRegistration]
      split
      · rw [awaitProvision]
        split
        · exact List.prefix_rfl
        · split
          · exact List.prefix_rfl
          · exact List.prefix_rfl
      · exact sameWork_events (applyReport_sameWork _ _ _)
  · split
    · exact List.prefix_rfl
    · exact sameWork_events (applyReport_sameWork _ _ _)

lemma submitProvision_events (deviceId : String) (outcome : SubmitOutcome) :
    s.events <+: (s.submitProvision deviceId outcome).events := by
  rw [submitProvision]
  split
  · exact List.prefix_rfl
  · split
    · exact adjust_events _ _
    · exact List.prefix_append _ _

lemma scan_events (now systemNow : TimePoint) (mutations : List Mutation)
    (markedAt : String → TimePoint) :
    s.events <+: (s.scan cfg now systemNow mutations markedAt).events := by
  rw [scan]
  dsimp only
  split
  · refine List.IsPrefix.trans ?_ (sameWork_events (foldl_mark_sameWork _ mutations _))
    exact List.prefix_rfl
  · exact List.prefix_rfl

lemma submitWrite_events (write : DesiredDeviceWrite) (now : TimePoint) :
    s.events <+: (s.submitWrite write .accepted now).events := by
  rw [submitWrite, if_pos rfl]
  dsimp only
  split
  · exact List.prefix_rfl
  · exact adjust_events _ _

/-- The trace only grows. -/
lemma apply_events (henabled : input.Enabled cfg s) (hsmooth : Smooth s input) :
    s.events <+: (input.apply cfg s).events := by
  cases input with
  | result answer writes now =>
      rw [DeviceInput.apply, handleResult]
      rcases hsmooth with hkind | hkind
      · rw [hkind]
        dsimp only
        split
        · exact handleProvisioned_events _ _ _
        · exact List.prefix_rfl
      · rw [hkind]
        exact handleWriteCompleted_events answer
  | resultsDone =>
      rw [DeviceInput.apply, consumeCancel, if_neg (Bool.eq_false_iff.mp hsmooth)]
  | message inbound now => exact handleMessage_events inbound now
  | provision outcome =>
      obtain ⟨deviceId, deviceIds, hphase⟩ := henabled
      simp only [DeviceInput.apply, hphase]
      exact submitProvision_events deviceId outcome
  | scan now systemNow mutations markedAt => exact scan_events now systemNow mutations markedAt
  | dispatch writes =>
      rw [DeviceInput.apply, beginDispatch]
      split
      · exact List.prefix_rfl
      split
      · split
        · exact List.prefix_rfl
        · exact List.prefix_rfl
      · exact List.prefix_rfl
  | write outcome now =>
      obtain rfl : outcome = .accepted := hsmooth
      obtain ⟨desired, writes, hphase | ⟨batch, accepted, hphase⟩⟩ := henabled
      · simp only [DeviceInput.apply, hphase]
        exact submitWrite_events desired now
      · simp only [DeviceInput.apply, hphase]
        exact submitWrite_events desired now
  | endBatch now writes =>
      obtain ⟨batch, accepted, hphase, -⟩ := henabled
      simp only [DeviceInput.apply, hphase, endBatch]
      cases batch with
      | immediate => exact List.prefix_rfl
      | telemetry => exact List.prefix_rfl
      | all => exact List.prefix_rfl
  | finish =>
      rw [DeviceInput.apply, finishReady]
      split
      · exact List.prefix_append _ _
      · exact List.prefix_rfl
  | requestSnapshot =>
      rw [DeviceInput.apply, requestExternalSnapshot]
      split
      · exact List.prefix_rfl
      · exact List.prefix_rfl
  | _ => exact List.prefix_rfl

/-- Every recorded status has a log line that waits, or that satisfies `p`. -/
def EachLogged (p : DesiredDeviceWrite → Prop) (recorded logs : Map String DesiredDeviceWrite) :
    Prop :=
  ∀ deviceId log, recorded.lookup deviceId = some log →
    logs.lookup deviceId = some log ∨ p log

/-- A mutation is marked and recorded. -/
lemma EachLogged.mark {p : DesiredDeviceWrite → Prop} {b : WriteBook}
    {recorded : Map String DesiredDeviceWrite} (h : EachLogged p recorded b.logs)
    (mutation : Mutation) (markedAt : TimePoint) :
    EachLogged p (recordStatus recorded mutation) (b.next (.mark mutation markedAt)).logs := by
  rw [recordStatus, WriteBook.next]
  dsimp only
  split
  · intro deviceId log hlog
    rw [Map.lookup_insert_ite] at hlog ⊢
    split at hlog
    · next hid =>
        rw [if_pos hid]
        exact .inl hlog
    · next hid =>
        rw [if_neg hid]
        exact h deviceId log hlog
  · exact h

lemma EachLogged.marks {p : DesiredDeviceWrite → Prop} {b : WriteBook}
    {recorded : Map String DesiredDeviceWrite} (h : EachLogged p recorded b.logs)
    (marks : List (Mutation × TimePoint)) :
    EachLogged p ((marks.map Prod.fst).foldl recordStatus recorded)
      ((marks.map fun mark => BookCall.mark mark.1 mark.2).foldl WriteBook.next b).logs := by
  induction marks generalizing b recorded with
  | nil => exact h
  | cons mark marks ih =>
      exact ih (b := b.next (.mark mark.1 mark.2)) (h.mark mark.1 mark.2)

/-- A log line leaves when it is printed. -/
lemma reportStatus_logs {deviceId : String} {log : DesiredDeviceWrite}
    (hlog : s.pendingStatusLogs.lookup deviceId = some log) (other : String) (revision : ℕ)
    (write : DesiredDeviceWrite) :
    (s.reportStatus other revision write).pendingStatusLogs.lookup deviceId = some log ∨
      (s.reportStatus other revision write).HasLogged log := by
  rw [reportStatus]
  split
  · exact .inl hlog
  next found hfound =>
  split
  · by_cases hid : deviceId = other
    · subst hid
      obtain rfl := Option.some_inj.mp (hlog.symm.trans hfound)
      exact .inr (List.mem_append_right _ List.mem_cons_self)
    · exact .inl ((AList.lookup_erase_ne hid).trans hlog)
  · exact .inl hlog

lemma completeSubmitted_logs {deviceId : String} {log : DesiredDeviceWrite}
    (hlog : s.pendingStatusLogs.lookup deviceId = some log) (other : String) (revision : ℕ) :
    (s.completeSubmitted other revision).pendingStatusLogs.lookup deviceId = some log ∨
      (s.completeSubmitted other revision).HasLogged log := by
  rw [completeSubmitted]
  split
  · exact .inl hlog
  next write _ =>
  split
  · refine (reportStatus_logs hlog other revision write).imp id fun hlogged => ?_
    exact List.mem_append_left _ hlogged
  · exact .inl hlog

lemma handleWriteCompleted_logs {deviceId : String} {log : DesiredDeviceWrite}
    (hlog : s.pendingStatusLogs.lookup deviceId = some log) (answer : DatabaseResult) :
    (s.handleWriteCompleted answer).pendingStatusLogs.lookup deviceId = some log ∨
      (s.handleWriteCompleted answer).HasLogged log := by
  have hrecovered := recoverDevice_sameWork (s.completeSubmitted answer.deviceId answer.revision)
    answer.deviceId answer.revision
  have hbook := @recoverDevice_book (s.completeSubmitted answer.deviceId answer.revision)
    answer.deviceId answer.revision
  rcases completeSubmitted_logs hlog answer.deviceId answer.revision with hstays | hlogged
  · refine .inl ?_
    exact (congrArg (fun b : WriteBook => b.logs.lookup deviceId) hbook).trans hstays
  · exact .inr (DeviceService.HasLogged.mono hlogged (sameWork_events hrecovered))

/-- The recorded statuses of a watch wait for their log lines, or have them. -/
def FlightWatch.StatusesLogged (w : FlightWatch) : Prop :=
  EachLogged w.service.HasLogged w.recorded w.service.pendingStatusLogs

/-- A step that marks, and has no other call that touches the log lines. -/
lemma logged_of_marks (henabled : input.Enabled cfg w.service)
    (hsmooth : Smooth w.service input) (h : w.StatusesLogged)
    (hlogs : (input.apply cfg w.service).pendingStatusLogs =
      (((input.marks cfg w.service).map fun mark => BookCall.mark mark.1 mark.2).foldl
        WriteBook.next w.service.book).logs) :
    ((flightWatch cfg).next w input).StatusesLogged := by
  have hevents := apply_events henabled hsmooth
  have hlater : EachLogged (input.apply cfg w.service).HasLogged w.recorded w.service.book.logs :=
    fun deviceId log hlog => (h deviceId log hlog).imp id fun hlogged => hlogged.mono hevents
  have hmarked := hlater.marks (input.marks cfg w.service)
  rw [← hlogs] at hmarked
  exact hmarked

/-- Taking and submitting writes leaves the log lines alone. -/
lemma dispatchCalls_logs (writes : List DesiredDeviceWrite) (b : WriteBook) :
    ((s.dispatchCalls writes).foldl WriteBook.next b).logs = b.logs := by
  rw [dispatchCalls]
  split
  · rfl
  split
  · split
    · rfl
    · rfl
  · rfl

lemma submit_logs (b : WriteBook) (outcome : SubmitOutcome) (now : TimePoint) :
    (b.next (.submit outcome now)).logs = b.logs := by
  rw [WriteBook.next]
  split
  · rfl
  · split
    · rfl
    · rfl

/-- A smooth step loses no log line. -/
lemma apply_logged (henabled : input.Enabled cfg w.service)
    (hsmooth : Smooth w.service input) (h : w.StatusesLogged) :
    ((flightWatch cfg).next w input).StatusesLogged := by
  have hbook := congrArg WriteBook.logs (book_next henabled)
  cases input with
  | result answer writes now =>
      rcases hsmooth with hkind | hkind
      · refine logged_of_marks henabled (.inl hkind) h (hbook.trans ?_)
        simp only [DeviceInput.bookCalls, DatabaseResult.bookCalls, hkind, List.nil_append]
      · have hevents := apply_events henabled (.inr hkind)
        have hmarks : DeviceInput.marks cfg w.service (.result answer writes now) = [] := by
          simp only [DeviceInput.marks, hkind]
        have hhandled : DeviceInput.apply cfg w.service (.result answer writes now) =
            w.service.handleWriteCompleted answer := by
          simp only [DeviceInput.apply, handleResult, hkind]
        show EachLogged (DeviceInput.apply cfg w.service (.result answer writes now)).HasLogged
          (((DeviceInput.marks cfg w.service (.result answer writes now)).map Prod.fst).foldl
            recordStatus w.recorded)
          (DeviceInput.apply cfg w.service (.result answer writes now)).pendingStatusLogs
        rw [hmarks]
        rw [hhandled] at hevents ⊢
        intro deviceId log hlog
        rcases h deviceId log hlog with hwaits | hlogged
        · exact handleWriteCompleted_logs hwaits answer
        · exact .inr (hlogged.mono hevents)
  | resultsDone =>
      refine logged_of_marks henabled hsmooth h (hbook.trans ?_)
      rw [DeviceInput.bookCalls, if_neg (Bool.eq_false_iff.mp hsmooth)]
      rfl
  | dispatch writes =>
      exact logged_of_marks henabled hsmooth h (hbook.trans (dispatchCalls_logs writes _))
  | write outcome now =>
      exact logged_of_marks henabled hsmooth h (hbook.trans (submit_logs _ outcome now))
  | endBatch now writes =>
      refine logged_of_marks henabled hsmooth h (hbook.trans ?_)
      obtain ⟨batch, accepted, hphase, -⟩ := henabled
      simp only [DeviceInput.bookCalls, hphase]
      cases batch with
      | immediate => rfl
      | telemetry => rfl
      | all => rfl
  | _ => exact logged_of_marks henabled hsmooth h hbook

/-! ### Every run -/

/-- A smooth step that keeps the fields of what is on its way. -/
def SettlesStep (w : FlightWatch) (input : DeviceInput) : Prop :=
  Smooth w.service input ∧ FieldsKept w.service input

instance (w : FlightWatch) (input : DeviceInput) : Decidable (SettlesStep w input) :=
  inferInstanceAs (Decidable (Smooth w.service input ∧ FieldsKept w.service input))

/-- What is known of a watch. -/
structure FlightsKept (w : FlightWatch) : Prop where
  book : w.service.book.InOrder
  outstanding : StillOutstanding w.service.submitted w.outstanding
  statuses : w.StatusesLogged

lemma flight_service (h : ((flightWatch cfg).restrict SettlesStep).Reachable w) :
    (deviceService cfg).Reachable w.service := by
  induction h with
  | start h0 => exact .start h0.1
  | step _ henabled ih => exact ih.step henabled.1

lemma fresh_inOrder (registry : DeviceRegistry) (now : Option TimePoint) :
    (DeviceService.fresh registry now).book.InOrder := by
  refine ⟨fun deviceId entry hnone => ?_, fun write hnone => ?_, fun deviceId write hnone => ?_,
    fun deviceId field hne => ?_, fun deviceId log hnone => ?_⟩
  · cases hnone
  · cases hnone
  · cases hnone
  · exact absurd rfl hne
  · cases hnone

lemma flightsKept_of_reachable (h : ((flightWatch cfg).restrict SettlesStep).Reachable w) :
    FlightsKept w := by
  refine h.invariant (P := FlightsKept) (fun w h0 => ?_) fun w input hreach hkept henabled => ?_
  · obtain ⟨service, outstanding, recorded⟩ := w
    obtain ⟨⟨records, systemNow, now, rfl⟩, rfl, rfl⟩ := h0
    refine ⟨fresh_inOrder _ _, fun deviceId write hnone => ?_, fun deviceId log hnone => ?_⟩
    · cases hnone
    · cases hnone
  · obtain ⟨henabled, hsmooth, hfields⟩ := henabled
    have hcurrent := currentRecords_of_reachable (flight_service hreach)
    exact ⟨apply_inOrder henabled hsmooth hfields
        (fun deviceId entry hentry => (hcurrent.entries deviceId entry hentry).1) hkept.book,
      apply_outstanding henabled hsmooth hkept.outstanding,
      apply_logged henabled hsmooth hkept.statuses⟩

/-- **Nothing is left**: in every smooth run in which no write is submitted over one
of its device that writes more columns, once nothing is dirty, no taken write is still to
be submitted and every submitted write has been reported, the dirty state is empty, no log
line waits, and the last changed status of every device has been logged. -/
theorem settled_of_reported (h : ((flightWatch cfg).restrict SettlesStep).Reachable w)
    (hstaged : w.service.phase.writes = []) (hreported : w.outstanding = [])
    (hclean : ∀ deviceId field, (w.service.dirty.fieldOf deviceId field).dirtyRevision = 0) :
    w.service.dirty.size = 0 ∧ w.service.pendingStatusLogs.keys = [] ∧
      ∀ deviceId log, w.recorded.lookup deviceId = some log →
        DeviceEvent.informed (statusLine log.record) ∈ w.service.events := by
  obtain ⟨hbook, houtstanding, hstatuses⟩ := flightsKept_of_reachable h
  have hsubmitted : ∀ deviceId, w.service.submitted.lookup deviceId = none := by
    intro deviceId
    cases hwrite : w.service.submitted.lookup deviceId with
    | none => rfl
    | some write =>
        have hmem := houtstanding deviceId write hwrite
        rw [hreported] at hmem
        cases hmem
  have hsettled := hbook.settled hstaged hsubmitted hclean
  refine ⟨?_, ?_, fun deviceId log hlog => ?_⟩
  · exact List.length_eq_zero_iff.mpr (Map.keys_eq_nil fun deviceId => (hsettled deviceId).1)
  · exact Map.keys_eq_nil fun deviceId => (hsettled deviceId).2
  · rcases hstatuses deviceId log hlog with hwaits | hlogged
    · have hnone : w.service.pendingStatusLogs.lookup deviceId = none := (hsettled deviceId).2
      rw [hnone] at hwaits
      cases hwaits
    · exact hlogged

end

/-! ### Two runs -/

/-- Nothing is dirty if no entry is. -/
lemma clean_of_all (dirty : DirtyState)
    (h : dirty.entries.values.all (fun entry => !entry.hasDirty) = true) (deviceId : String)
    (field : DeviceField) : (dirty.fieldOf deviceId field).dirtyRevision = 0 := by
  by_contra hdirty
  obtain ⟨entry, hentry⟩ := lookup_of_fieldOf dirty deviceId field fun hnone =>
    hdirty (congrArg FieldState.dirtyRevision hnone)
  have hnot := List.all_eq_true.mp h entry (Map.mem_values.mpr ⟨deviceId, hentry⟩)
  rw [DirtyState.fieldOf_eq hentry] at hdirty
  rw [DirtyEntry.hasDirty_of_field field hdirty] at hnot
  cases hnot

/-- The service with the device `b`, under watch. -/
def flightStart : FlightWatch := ⟨sampleStart, [], ∅⟩

/-- The next step, at a time, among devices that send telemetry. -/
def flightStep (w : FlightWatch) (cue : TimePoint × Cue) : DeviceInput :=
  (cue.2.input reportingConfig w.service).moment reportingConfig w.service cue.1

def performFlight (cues : List (TimePoint × Cue)) : FlightWatch :=
  (flightWatch reportingConfig).follow flightStep flightStart cues

lemma reachable_performFlight {ok : FlightWatch → DeviceInput → Prop}
    {cues : List (TimePoint × Cue)}
    (hok : (flightWatch reportingConfig).Meets flightStep ok flightStart cues) :
    ((flightWatch reportingConfig).restrict ok).Reachable (performFlight cues) := by
  have hstart : ((flightWatch reportingConfig).restrict ok).Reachable flightStart :=
    .start ⟨⟨[flightController "b" none], 0, some 0, rfl⟩, rfl, rfl⟩
  have henabled : ∀ (w : FlightWatch) (cue : TimePoint × Cue),
      (flightWatch reportingConfig).enabled w (flightStep w cue) := fun w cue =>
    moment_enabled cue.2.input_enabled cue.1
  exact hstart.follow henabled hok

/-- Cues at one time. -/
def atTime (now : TimePoint) (cues : List Cue) : List (TimePoint × Cue) :=
  cues.map fun cue => (now, cue)

/-- A turn in which `b` registers, and its write is submitted. -/
def registrationTurn : List (TimePoint × Cue) :=
  atTime 0 [.go, .go, .receive (sampleRegistration "b" "b1"), .go, .go, .go, .go, .go, .go, .go]

/-- The result of a write of `b`. -/
def writtenResult (revision : ℕ) : Cue :=
  .answer
    { kind := .writeCompleted
      deviceId := "b"
      revision := revision }

/-- The write of the registration is reported in the next turn. -/
def reportedFlightCues : List (TimePoint × Cue) :=
  registrationTurn ++ atTime 0 [.go, writtenResult 2]

def reportedFlight : FlightWatch := performFlight reportedFlightCues

theorem settled_of_reported_registration :
    reportedFlight.recorded.keys = ["b"] ∧ reportedFlight.service.dirty.size = 0 ∧
      reportedFlight.service.pendingStatusLogs.keys = [] ∧
      ∀ deviceId log, reportedFlight.recorded.lookup deviceId = some log →
        DeviceEvent.informed (statusLine log.record) ∈ reportedFlight.service.events := by
  have hmeets : (flightWatch reportingConfig).Meets flightStep SettlesStep flightStart
      reportedFlightCues := by decide +kernel
  have hreach : ((flightWatch reportingConfig).restrict SettlesStep).Reachable reportedFlight :=
    reachable_performFlight hmeets
  have hclean := clean_of_all reportedFlight.service.dirty (by decide +kernel)
  have hreported : reportedFlight.outstanding = [] :=
    List.eq_nil_of_length_eq_zero (by decide +kernel)
  exact ⟨by decide +kernel, settled_of_reported hreach (by rfl) hreported hclean⟩

/-- A turn in which `b` sends its telemetry, which waits. -/
def telemetryTurn : List (TimePoint × Cue) :=
  atTime 0 [.go, .go, .receive (sampleTelemetry "b" "tb"), .go, .go, .go, .go, .go, .go]

/-- A turn five seconds later, in which it is submitted; and both results. -/
def overlappedCues : List (TimePoint × Cue) :=
  registrationTurn ++ telemetryTurn ++
    atTime 5000000000 (List.replicate 9 .go ++ [.go, writtenResult 2, writtenResult 3])

def overlapped : FlightWatch := performFlight overlappedCues

/-- Both writes are reported and nothing is dirty; the registration stays in flight, and
its log line is never printed. -/
theorem residue_overlapped :
    ((flightWatch reportingConfig).restrict fun w => Smooth w.service).Reachable overlapped ∧
      overlapped.service.phase.writes = [] ∧ overlapped.outstanding = [] ∧
      (∀ deviceId field, (overlapped.service.dirty.fieldOf deviceId field).dirtyRevision = 0) ∧
      overlapped.service.dirty.size = 1 ∧ overlapped.service.pendingStatusLogs.keys = ["b"] := by
  have hmeets : (flightWatch reportingConfig).Meets flightStep (fun w => Smooth w.service)
      flightStart overlappedCues := by decide +kernel
  have hclean := clean_of_all overlapped.service.dirty (by decide +kernel)
  have hreported : overlapped.outstanding = [] := List.eq_nil_of_length_eq_zero (by decide +kernel)
  have hstaged : overlapped.service.phase.writes = [] :=
    List.eq_nil_of_length_eq_zero (by decide +kernel)
  exact ⟨reachable_performFlight hmeets, hstaged, hreported, hclean, by decide +kernel,
    by decide +kernel⟩

end CnsServer
