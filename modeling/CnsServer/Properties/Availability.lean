/-
The device service and the state of the connection.

* `afterResults`: the flag of the service once results have been handled;
* `FlagTold`: the results on their way lead the flag to the one of the thread;
* `CommandsConnected`: no command finds that the connection is lost;
* `flag_told`: **the service knows the state of the connection** once it has handled
  all results, and then publishes degraded states only while the connection is lost, in
  every run in which no command does;
* `flag_untold`: a command that does puts the thread into the disconnected state and
  tells nobody.
-/
import CnsServer.Runtime.RuntimeScenario

namespace CnsServer

open DeviceService

/-! ### The flag -/

/-- The flag after results have been handled. -/
def afterResults (flag : Bool) (results : List DatabaseResult) : Bool :=
  results.foldl (fun flag answer =>
    match answer.kind with
    | .unavailable => true
    | .recovered => false
    | _ => flag) flag

/-- The results on their way lead the flag of the service to the one of the thread. -/
def FlagTold (e : DeviceExchange) : Prop :=
  afterResults e.work.unavailable (e.inbox ++ e.side.results) = e.side.unavailable

/-- The connection is lost. -/
def findsLoss {α : Type} : Except DatabaseError α → Bool
  | .ok _ => false
  | .error error => error.kind = .unavailable

/-- A command finds that the connection is lost. -/
def RuntimeInput.losesCommand : RuntimeInput → Bool
  | .worker (.executed outcome _) =>
      findsLoss (outcome.result "数据库命令端口异常" "数据库命令端口发生未知异常")
  | _ => false

/-- No command finds that the connection is lost. -/
def CommandsConnected (_ : DeviceRuntime) (input : RuntimeInput) : Prop :=
  input.losesCommand = false

instance (r : DeviceRuntime) (input : RuntimeInput) : Decidable (CommandsConnected r input) :=
  inferInstanceAs (Decidable (input.losesCommand = false))

section

variable {wcfg : WorkerConfig} {cfg : DeviceServiceConfig} {r : DeviceRuntime}
  {s s' s'' : DeviceService}

lemma exchangeInput_lost {input : RuntimeInput} (h : CommandsConnected r input) :
    input.exchangeInput cfg r ≠ .side .lost := by
  intro hlost
  cases input with
  | deliver => cases hlost
  | service input =>
      simp only [RuntimeInput.exchangeInput] at hlost
      split at hlost
      · cases hlost
      · cases hlost
  | worker input =>
      cases input with
      | executed outcome now =>
          have hinput := ExchangeInput.side.inj hlost
          simp only [WorkerInput.deviceInput, commandInput] at hinput
          split at hinput
          · cases hinput
          · next error herror =>
              split at hinput
              · next hkind =>
                  simp only [CommandsConnected, RuntimeInput.losesCommand, herror, findsLoss,
                    decide_eq_false_iff_not] at h
                  exact h hkind
              · cases hinput
      | select stopRequested first now =>
          have hinput := ExchangeInput.side.inj hlost
          simp only [WorkerInput.deviceInput, WorkerLoop.selected] at hinput
          repeat' split at hinput
          all_goals cases hinput
      | reconnected outcome now =>
          have hinput := ExchangeInput.side.inj hlost
          simp only [WorkerInput.deviceInput, reconnectionInput] at hinput
          repeat' split at hinput
          all_goals cases hinput
      | provisioned outcome now =>
          have hinput := ExchangeInput.side.inj hlost
          simp only [WorkerInput.deviceInput] at hinput
          split at hinput
          · cases hinput
          · cases hinput
      | written outcome now =>
          have hinput := ExchangeInput.side.inj hlost
          simp only [WorkerInput.deviceInput] at hinput
          split at hinput
          · cases hinput
          · cases hinput
      | _ => cases hlost

lemma afterResults_append (flag : Bool) (results more : List DatabaseResult) :
    afterResults flag (results ++ more) = afterResults (afterResults flag results) more :=
  List.foldl_append

/-- What the thread finds out, it tells, unless it is in a command. -/
lemma side_told (d : DeviceSide) {input : DeviceSideInput} (h : input ≠ .lost) :
    ∃ new, (d.next input).results = d.results ++ new ∧
      afterResults d.unavailable new = (d.next input).unavailable := by
  cases input with
  | lost => exact absurd rfl h
  | submitProvision registration receivedAt =>
      refine ⟨[], ?_⟩
      simp only [DeviceSide.next, List.append_nil]
      split
      · exact ⟨rfl, rfl⟩
      · exact ⟨rfl, rfl⟩
  | submitWrite write =>
      refine ⟨[], ?_⟩
      simp only [DeviceSide.next, List.append_nil]
      split
      · exact ⟨rfl, rfl⟩
      · exact ⟨rfl, rfl⟩
  | recovered => exact ⟨_, rfl, rfl⟩
  | validationFailed => exact ⟨_, rfl, rfl⟩
  | crash => exact ⟨_, rfl, rfl⟩
  | provisionEnded task result =>
      simp only [DeviceSide.next, DeviceSide.endProvision]
      split
      · exact ⟨_, rfl, rfl⟩
      · split
        · exact ⟨_, rfl, rfl⟩
        · exact ⟨_, rfl, rfl⟩
  | writeEnded write result =>
      simp only [DeviceSide.next, DeviceSide.endWrite]
      split
      · exact ⟨_, rfl, rfl⟩
      · split
        · exact ⟨_, rfl, rfl⟩
        · exact ⟨_, rfl, rfl⟩
  | _ => exact ⟨[], (List.append_nil _).symm, rfl⟩

lemma FlagTold.side {e : DeviceExchange} (h : FlagTold e) {input : DeviceSideInput}
    (hinput : input ≠ .lost) : FlagTold { e with side := e.side.next input } := by
  obtain ⟨new, hresults, htold⟩ := side_told e.side hinput
  unfold FlagTold at h ⊢
  dsimp only
  rw [hresults, ← List.append_assoc, afterResults_append, h, htold]

/-- What the service does by itself does not touch its flag. -/
lemma own_unavailable {v : DeviceWork} {input : DeviceWorkInput} (h : input.IsOwn) :
    (v.next input).unavailable = v.unavailable := by
  cases input with
  | lost => exact h.elim
  | recovered => exact h.elim
  | failed deviceId => exact h.elim
  | provisioned deviceId added => exact h.elim
  | completed deviceId revision => exact h.elim
  | awaits deviceId registration receivedAt =>
      simp only [DeviceWork.next]
      split
      · rfl
      · rfl
  | submitProvision deviceId outcome =>
      simp only [DeviceWork.next]
      split
      · rfl
      · split
        · rfl
        · rfl
  | submitWrite write outcome =>
      simp only [DeviceWork.next]
      split
      · rfl
      · rfl
  | _ => rfl

/-- A result that is handled sets the flag. -/
lemma handled_unavailable (v : DeviceWork) (answer : DatabaseResult) (added : Bool) :
    (v.next (answer.workInput v.pending added)).unavailable =
      afterResults v.unavailable [answer] := by
  unfold afterResults DatabaseResult.workInput
  simp only [List.foldl_cons, List.foldl_nil]
  cases answer.kind with
  | unavailable => rfl
  | recovered => rfl
  | permanentFailure =>
      simp only [DeviceWork.next]
      split
      · rfl
      · rfl
  | provisioned =>
      dsimp only
      split
      · simp only [DeviceWork.next]
        split
        · rfl
        · rfl
      · rfl
  | writeCompleted =>
      simp only [DeviceWork.next]
      split
      · rfl
      · split
        · rfl
        · rfl

lemma next_flagTold {e : DeviceExchange} (h : FlagTold e) {input : ExchangeInput}
    (henabled : e.Enabled input) (hinput : input ≠ .side .lost) : FlagTold (e.next input) := by
  cases input with
  | side input =>
      refine h.side fun hlost => hinput ?_
      rw [hlost]
  | deliver =>
      have hsame : e.inbox ++ e.side.results.take 1 ++ e.side.results.tail =
          e.inbox ++ e.side.results := by
        rw [List.append_assoc, ← List.drop_one, List.take_append_drop]
      unfold FlagTold at h ⊢
      simp only [DeviceExchange.next, hsame]
      exact h
  | handle answer added =>
      obtain ⟨rest, hrest⟩ := henabled
      unfold FlagTold at h ⊢
      rw [hrest] at h
      simp only [DeviceExchange.next, hrest, List.tail_cons]
      rw [handled_unavailable, ← afterResults_append]
      exact h
  | work input =>
      have hside : FlagTold { e with side := e.side.next (input.sideInput e.work) } := by
        refine h.side ?_
        unfold DeviceWorkInput.sideInput
        split
        · split
          · exact nofun
          · exact nofun
        · exact nofun
        · exact nofun
      unfold FlagTold at hside ⊢
      simp only [DeviceExchange.next]
      rw [own_unavailable henabled.1]
      exact hside

/-! ### What is published meanwhile -/

/-- The event says that the device is degraded, if it says anything about one. -/
def DeviceEvent.IsDegraded : DeviceEvent → Prop
  | .published state => state.degraded = true
  | .snapshot states => ∀ state ∈ states, state.degraded = true
  | _ => True

/-- All that is published in between says that the device is degraded. -/
structure OnlyDegraded (s s' : DeviceService) : Prop where
  flag : s'.databaseUnavailable = s.databaseUnavailable
  events : ∃ new, s'.events = s.events ++ new ∧ ∀ event ∈ new, event.IsDegraded

lemma OnlyDegraded.of_events (hflag : s'.databaseUnavailable = s.databaseUnavailable)
    (hevents : s'.events = s.events) : OnlyDegraded s s' :=
  ⟨hflag, [], by rw [hevents, List.append_nil], fun _ h => by cases h⟩

lemma OnlyDegraded.trans (h : OnlyDegraded s s') (h' : OnlyDegraded s' s'') :
    OnlyDegraded s s'' := by
  obtain ⟨new, hevents, hnew⟩ := h.events
  obtain ⟨new', hevents', hnew'⟩ := h'.events
  refine ⟨h'.flag.trans h.flag, new ++ new', ?_, fun event hmem => ?_⟩
  · rw [hevents', hevents, List.append_assoc]
  · rcases List.mem_append.mp hmem with hmem | hmem
    · exact hnew event hmem
    · exact hnew' event hmem

lemma note_onlyDegraded {event : DeviceEvent} (h : event.IsDegraded) :
    OnlyDegraded s (s.note event) :=
  ⟨rfl, [event], rfl, fun _ hother => List.mem_singleton.mp hother ▸ h⟩

lemma adjust_onlyDegraded (delta : ℤ) : OnlyDegraded s (s.adjustOutstandingDatabaseWork delta) :=
  ⟨rfl, [.adjusted s.outstanding delta], rfl, fun _ hother => by
    rw [List.mem_singleton.mp hother]
    trivial⟩

/-- While the flag is set, every mutation is published as degraded. -/
lemma mark_onlyDegraded (hflag : s.databaseUnavailable = true) (mutation : Mutation)
    (now : TimePoint) : OnlyDegraded s (s.mark mutation now) := by
  have hdegraded : ∀ (s : DeviceService) deviceId, s.databaseUnavailable = true →
      s.isDeviceDegraded deviceId = true := by
    intro s deviceId hflag
    rw [isDeviceDegraded, hflag, Bool.true_or]
  unfold mark
  refine OnlyDegraded.trans ?_ (note_onlyDegraded (hdegraded _ _ hflag))
  exact .of_events rfl rfl

lemma foldl_mark_onlyDegraded (markedAt : Mutation → TimePoint) (mutations : List Mutation)
    (hflag : s.databaseUnavailable = true) :
    OnlyDegraded s (mutations.foldl (fun s mutation => s.mark mutation (markedAt mutation)) s) := by
  induction mutations generalizing s with
  | nil => exact .of_events rfl rfl
  | cons mutation mutations ih =>
      have hmarked := mark_onlyDegraded hflag mutation (markedAt mutation)
      exact hmarked.trans (ih (hmarked.flag.trans hflag))

lemma applyReport_onlyDegraded (hflag : s.databaseUnavailable = true)
    (report : Except String Mutation × DeviceRegistry) (now : TimePoint) :
    OnlyDegraded s (s.applyReport report now) := by
  unfold applyReport
  split
  · next mutation registry =>
      have hmarked := @mark_onlyDegraded { s with registry := registry } hflag mutation now
      exact ⟨hmarked.flag, hmarked.events⟩
  · exact .of_events rfl rfl

lemma degrade_onlyDegraded (deviceId : String) (revision : DeviceRecord → ℕ) :
    OnlyDegraded s (s.degrade deviceId revision) := by
  unfold degrade
  split
  · exact .of_events rfl rfl
  · next record _ =>
      let degraded := { s with degraded := s.degraded.insert deviceId (revision record) }
      have hframe : OnlyDegraded s degraded := .of_events rfl rfl
      refine hframe.trans (note_onlyDegraded ?_)
      exact rfl

lemma handleMessage_onlyDegraded (hflag : s.databaseUnavailable = true) (inbound : InboundMessage)
    (now : TimePoint) : OnlyDegraded s (s.handleMessage cfg inbound now) := by
  unfold handleMessage
  split
  · exact .of_events rfl rfl
  · split
    · exact .of_events rfl rfl
    · unfold handleRegistration
      split
      · unfold awaitProvision
        rw [if_pos hflag]
        exact .of_events rfl rfl
      · exact applyReport_onlyDegraded hflag _ now
  · split
    · exact .of_events rfl rfl
    · exact applyReport_onlyDegraded hflag _ now

lemma submitProvision_onlyDegraded (deviceId : String) (outcome : SubmitOutcome) :
    OnlyDegraded s (s.submitProvision deviceId outcome) := by
  unfold submitProvision
  split
  · exact .of_events rfl rfl
  · split
    · refine OnlyDegraded.trans ?_ (adjust_onlyDegraded 1)
      exact .of_events rfl rfl
    · exact note_onlyDegraded trivial

lemma submitWrite_onlyDegraded (write : DesiredDeviceWrite) (outcome : SubmitOutcome)
    (now : TimePoint) : OnlyDegraded s (s.submitWrite write outcome now) := by
  unfold submitWrite
  split
  · dsimp only
    split
    · exact .of_events rfl rfl
    · exact (adjust_onlyDegraded 1).trans (.of_events rfl rfl)
  · have hdegraded := @degrade_onlyDegraded { s with dirty := s.dirty.restore write now }
      write.record.deviceId DeviceRecord.revision
    have hnoted : (DeviceEvent.diagnosed (SubmitOutcome.message outcome "数据库写入")).IsDegraded :=
      trivial
    have hdiagnosed := hdegraded.trans (note_onlyDegraded hnoted)
    exact ⟨hdiagnosed.flag, hdiagnosed.events⟩

lemma finishReady_onlyDegraded (hflag : s.databaseUnavailable = true) :
    OnlyDegraded s s.finishReady := by
  unfold finishReady
  dsimp only
  split
  · have hsnapshot : OnlyDegraded { s with snapshotRequested := false }
        ({ s with snapshotRequested := false } : DeviceService).publishCurrentSnapshot := by
      refine note_onlyDegraded fun state hstate => ?_
      obtain ⟨record, -, rfl⟩ := List.mem_map.mp hstate
      exact Bool.or_eq_true_iff.mpr (.inl hflag)
    exact ⟨hsnapshot.flag, hsnapshot.events⟩
  · exact .of_events rfl rfl

/-- While the flag is set, whatever the service does but handle a result is published
as degraded. -/
lemma apply_onlyDegraded (hflag : s.databaseUnavailable = true) {input : DeviceInput}
    (hinput : input.answer? = none) : OnlyDegraded s (input.apply cfg s) := by
  cases input with
  | result answer writes now => cases hinput
  | resultsDone =>
      simp only [DeviceInput.apply, consumeCancel]
      split
      · exact .of_events rfl rfl
      · exact .of_events rfl rfl
  | message inbound now => exact handleMessage_onlyDegraded hflag inbound now
  | provision outcome =>
      simp only [DeviceInput.apply]
      split
      · exact (submitProvision_onlyDegraded _ outcome).trans (.of_events rfl rfl)
      · exact .of_events rfl rfl
  | scan now systemNow mutations markedAt =>
      simp only [DeviceInput.apply, scan]
      split
      · refine OnlyDegraded.trans ?_ (foldl_mark_onlyDegraded _ mutations ?_)
        · exact .of_events rfl rfl
        · exact hflag
      · exact .of_events rfl rfl
  | dispatch writes =>
      simp only [DeviceInput.apply, beginDispatch]
      rw [if_pos hflag]
      exact .of_events rfl rfl
  | write outcome now =>
      simp only [DeviceInput.apply]
      split
      · exact (submitWrite_onlyDegraded _ outcome now).trans (.of_events rfl rfl)
      · exact (submitWrite_onlyDegraded _ outcome now).trans (.of_events rfl rfl)
      · exact .of_events rfl rfl
  | endBatch now writes =>
      simp only [DeviceInput.apply]
      split
      · next batch accepted _ => cases batch <;> exact .of_events rfl rfl
      · exact .of_events rfl rfl
  | finish => exact finishReady_onlyDegraded hflag
  | requestSnapshot =>
      simp only [DeviceInput.apply, requestExternalSnapshot]
      split
      · exact .of_events rfl rfl
      · exact .of_events rfl rfl
  | _ => exact .of_events rfl rfl

/-! ### Every run -/

lemma reachable_flagTold (h : ((deviceRuntime wcfg cfg).restrict CommandsConnected).Reachable r) :
    FlagTold r.exchange :=
  exchange_invariant (fun _ => rfl) (fun _ _ hr henabled hok =>
    next_flagTold hr henabled (exchangeInput_lost hok)) h

/-- **The service knows the state of the connection** when all results have been handed
over and handled, and what it publishes then while the connection is lost says that
the device is degraded, in every run in which no command finds that it is lost. -/
theorem flag_told (h : ((deviceRuntime wcfg cfg).restrict CommandsConnected).Reachable r)
    (hresults : r.worker.results = []) (hinbox : r.inbox = []) :
    r.service.databaseUnavailable = r.worker.unavailable ∧
      (r.worker.unavailable = true → ∀ input : DeviceInput,
        (RuntimeInput.service input).Enabled cfg r →
          OnlyDegraded r.service (input.apply cfg r.service)) := by
  have htold : afterResults r.service.databaseUnavailable (r.inbox ++ r.worker.results) =
      r.worker.unavailable := reachable_flagTold h
  rw [hinbox, hresults] at htold
  refine ⟨htold, fun hlost input henabled => apply_onlyDegraded (htold.trans hlost) ?_⟩
  cases hanswer : input.answer? with
  | none => rfl
  | some answer =>
      have hhead := henabled.2.1 answer hanswer
      rw [hinbox] at hhead
      cases hhead

end

/-- Device `a` registers, and the connection is lost under its provision. -/
def toldCues : List RuntimeCue :=
  [.service .go, .service .go, .service (.receive (sampleRegistration "a" "a1")), .service .go,
    .service .go, .thread .works, .thread .breaks, .thread .works, .service .go, .service .go,
    .service .go, .service .go, .service .go, .service .go, .service .go, .service .go]

def told : DeviceRuntime := performRuntime sampleDeviceConfig sampleRuntime toldCues

theorem flag_told_lost :
    told.service.databaseUnavailable = true ∧ OnlyDegraded told.service
      ((RuntimeCue.serviceInput sampleDeviceConfig told
        (.receive (sampleRegistration "b" "b1"))).apply sampleDeviceConfig told.service) := by
  have hmeets : RuntimeMeets sampleDeviceConfig CommandsConnected sampleRuntime toldCues := by
    decide +kernel
  have hresults : told.worker.results.isEmpty = true := by decide +kernel
  have hinbox : told.inbox.isEmpty = true := by decide +kernel
  have hlost : told.worker.unavailable = true := by decide +kernel
  have hflag := flag_told (r := told) (reachable_performRuntime reachable_sampleRuntime hmeets)
    (List.isEmpty_iff.mp hresults) (List.isEmpty_iff.mp hinbox)
  exact ⟨hflag.1.trans hlost, hflag.2 hlost _ (RuntimeCue.serviceInput_enabled _)⟩

/-- The connection is lost under a command, and device `b` reports afterwards. -/
def untoldCues : List RuntimeCue :=
  [.command, .thread .works, .thread .breaks, .service .go, .service .go,
    .service (.receive (sampleRegistration "b" "b1"))]

def untold : DeviceRuntime := performRuntime sampleDeviceConfig sampleRuntime untoldCues

/-- The service does not know, and the device is published as if all were well. -/
theorem flag_untold :
    (deviceRuntime {} sampleDeviceConfig).Reachable untold ∧ untold.worker.results = [] ∧
      untold.inbox = [] ∧ untold.worker.unavailable = true ∧
      untold.service.databaseUnavailable = false ∧
      ∃ state, DeviceEvent.published state ∈ untold.service.events ∧ state.degraded = false := by
  have hmeets : RuntimeMeets sampleDeviceConfig (fun _ _ => True) sampleRuntime untoldCues := by
    decide +kernel
  have hresults : untold.worker.results.isEmpty = true := by decide +kernel
  have hinbox : untold.inbox.isEmpty = true := by decide +kernel
  have hlost : untold.worker.unavailable = true := by decide +kernel
  have hflag : untold.service.databaseUnavailable = false := by decide +kernel
  have hpublished : untold.service.events.any (fun event =>
      match event with
      | .published state => !state.degraded
      | _ => false) = true := by decide +kernel
  obtain ⟨event, hmem, hevent⟩ := List.any_eq_true.mp hpublished
  refine ⟨(reachable_performRuntime reachable_sampleRuntime hmeets).of_restrict,
    List.isEmpty_iff.mp hresults, List.isEmpty_iff.mp hinbox, hlost, hflag, ?_⟩
  cases event with
  | published state => exact ⟨state, hmem, by simpa using hevent⟩
  | _ => cases hevent

end CnsServer
