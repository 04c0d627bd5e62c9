/-
Failed publications of commands that have been dispatched.

A configuration command is published again after a reconnection, also when it has
been dispatched.  If the second publication fails, the command fails with it: the
transition is formed from the status that was remembered when it was made, or formed
again on the row that the search after the conflict finds.

* `FailsOpen`: a publication that was made after the dispatch fails while the row is
  open;
* `Input.FindsOpen`: the search after the conflict of an earlier failure finds the row
  open;
* `DispatchStands`: without the two no dispatched command fails as unpublished;
* `dispatched_result_decided`: its result is then that of a device ACK or a timeout.
-/
import CnsServer.Invariants.Provenance
import CnsServer.Runtime.Scenario

namespace CnsServer

open RuntimeBundle CommandStatus

/-! ### Failures of publications -/

/-- A publication of the command fails that was made when the command had left
`pending`. -/
def Event.failsDispatched (c : String) : Event → Bool
  | .published _ _ _ record accepted =>
      record.commandId = c && record.status ≠ .pending && !accepted
  | .completed record result => record.commandId = c && record.status ≠ .pending && !result
  | _ => false

/-- Such a failure is among the events, and no version of the row was terminal before
it. -/
def FailsOpen (c : String) (events : List Event) : Prop :=
  ∃ later e earlier, events = later ++ e :: earlier ∧ e.failsDispatched c = true ∧
    ∀ s ∈ committedRows earlier, s.commandId = c → s.status.isTerminal = false

lemma FailsOpen.append {c : String} {events : List Event} (es : List Event)
    (h : FailsOpen c events) : FailsOpen c (es ++ events) := by
  obtain ⟨later, e, earlier, rfl, hfails, hopen⟩ := h
  exact ⟨es ++ later, e, earlier, (List.append_assoc ..).symm, hfails, hopen⟩

/-- The next result answers the search after the conflict of a failed publication:
the row of the command is not terminal. -/
def Input.FindsOpen (c : String) (b : RuntimeBundle) : Input → Prop
  | .processNext _ _ => ∃ i operation desired current rest,
      b.databaseResults = ⟨i, .ok (.found (some current))⟩ :: rest ∧
        b.operations.lookup i = some operation ∧ operation.kind = .findByIdForConvergence ∧
        operation.context.record = some desired ∧ desired.status = .failed ∧
        desired.errorCode = some "mqtt_publish_failed" ∧ current.commandId = c ∧
        current.status.isTerminal = false
  | _ => False

/-- The transition fails the command as unpublished from a status other than
`pending`. -/
structure TransitionCommandTask.Undoes (task : TransitionCommandTask) (c : String) : Prop where
  commandId : task.commandId = c
  expected : task.expected ≠ .pending
  desired : task.desired = .failed
  errorCode : task.update.errorCode = some "mqtt_publish_failed"

/-! ### Transitions on their way to the worker -/

/-- The transition waits for the worker, or is deferred. -/
inductive InFlight (b : RuntimeBundle) (task : TransitionCommandTask) : Prop
  | queued {i : ℕ} : (i, task.toTask) ∈ b.commands → InFlight b task
  | deferred {c : String} {deferred : DeferredTransition} :
      b.deferredTransitions.lookup c = some deferred → deferred.task = task → InFlight b task

lemma TransitionCommandTask.toTask_inj {s t : TransitionCommandTask} (h : s.toTask = t.toTask) :
    s = t := by
  obtain ⟨c, expected, desired, update⟩ := s
  obtain ⟨c', expected', desired', update'⟩ := t
  cases h
  rfl

namespace InFlight

variable {cfg : CommandServiceConfig} {b b' : RuntimeBundle} {t : TransitionCommandTask}

lemma same (h : InFlight b' t) (hqueue : b'.commands ⊆ b.commands)
    (hdeferred : ∀ c deferred, b'.deferredTransitions.lookup c = some deferred →
      b.deferredTransitions.lookup c = some deferred) : InFlight b t := by
  cases h with
  | queued hmem => exact .queued (hqueue hmem)
  | deferred hlookup htask => exact .deferred (hdeferred _ _ hlookup) htask

lemma of_submit {kind : OperationKind} {context : RequestContext} {task : CommandDatabaseTask}
    (h : InFlight (b.submit cfg kind context task).2 t) : InFlight b t ∨ task = t.toTask := by
  rcases submit_cases cfg b kind context task with heq | heq <;> rw [heq] at h
  · cases h with
    | queued hmem =>
        rcases List.mem_append.mp hmem with hmem | hmem
        · exact .inl (.queued hmem)
        · exact .inr (Prod.mk.inj (List.mem_singleton.mp hmem)).2.symm
    | deferred hlookup htask => exact .inl (.deferred hlookup htask)
  · exact .inl (h.same (fun _ hx => hx) fun _ _ hlookup => hlookup)

lemma of_form {context : RequestContext} {task : TransitionCommandTask}
    (h : InFlight (b.submitTransitionOrDefer cfg context task) t) : InFlight b t ∨ t = task := by
  rcases submitTransitionOrDefer_cases cfg b context task with heq | heq <;> rw [heq] at h
  · cases h with
    | queued hmem =>
        rcases List.mem_append.mp hmem with hmem | hmem
        · exact .inl (.queued hmem)
        · exact .inr (TransitionCommandTask.toTask_inj
            (Prod.mk.inj (List.mem_singleton.mp hmem)).2)
    | deferred hlookup htask =>
        exact .inl (.deferred (Map.lookup_erase_some.mp hlookup).2 htask)
  · cases h with
    | queued hmem => exact .inl (.queued hmem)
    | deferred hlookup htask =>
        rcases Map.lookup_insert_some.mp hlookup with ⟨_, rfl⟩ | ⟨_, hlookup⟩
        · exact .inr htask.symm
        · exact .inl (.deferred hlookup htask)

/-- A refused publication leaves its transition, and the event. -/
lemma of_publish {answers : Answers} {context : RequestContext} {now : TimePoint}
    (h : InFlight (b.publishRecord cfg answers context now) t) :
    InFlight b t ∨ ∃ record type, t = failTask record type now ∧ ∃ es token topic payload,
      (b.publishRecord cfg answers context now).log =
        es ++ .published token topic payload record false :: b.log := by
  rcases publishRecord_cases cfg answers b context now with
    heq | ⟨record, deviceId, payload, _, _, _, _, heq | heq⟩ <;> rw [heq] at h ⊢
  · exact .inl h
  · exact .inl (h.same (fun _ hx => hx) fun _ _ hlookup => hlookup)
  · rcases h.of_form with h | htask
    · exact .inl (h.same (fun _ hx => hx) fun _ _ hlookup => hlookup)
    · obtain ⟨es, hlog⟩ := log_form cfg (b.unsent cfg context record deviceId payload)
        { context with record := some (publishFailed record context.commandType now) }
        (failTask record context.commandType now)
      exact .inr ⟨record, _, htask, es, _, _, _, hlog⟩

lemma of_retry {key : String} {deferred : DeferredTransition}
    (hfound : b.deferredTransitions.lookup key = some deferred)
    (h : InFlight (b.retryDeferred cfg key deferred) t) : InFlight b t := by
  rcases retryDeferred_cases cfg b key deferred with heq | heq <;> rw [heq] at h
  · cases h with
    | queued hmem =>
        rcases List.mem_append.mp hmem with hmem | hmem
        · exact .queued hmem
        · exact .deferred hfound (TransitionCommandTask.toTask_inj
            (Prod.mk.inj (List.mem_singleton.mp hmem)).2.symm)
    | deferred hlookup htask => exact .deferred (Map.lookup_erase_some.mp hlookup).2 htask
  · cases h with
    | queued hmem => exact .queued hmem
    | deferred hlookup htask =>
        rcases Map.lookup_insert_some.mp hlookup with ⟨_, rfl⟩ | ⟨_, hlookup⟩
        · exact .deferred hfound htask
        · exact .deferred (Map.lookup_erase_some.mp hlookup).2 htask

lemma of_worker {event : WorkerEvent} (hevent : event.Admissible)
    (h : InFlight (b.workerTurn event) t) : InFlight b t := by
  refine h.same ?_ ?_
  · rcases workerTurn_cases hevent with
      ⟨worker, hqueue, heq⟩ | ⟨i, task, rest, hqueue, ⟨worker, hrest, heq⟩ |
        ⟨worker, message, hrest, _, _, heq⟩ | ⟨worker, hsame, _, heq⟩⟩
    · rw [heq]
      change worker.commands ⊆ b.commands
      rcases hqueue with hq | ⟨hq, _⟩
      · rw [hq]
        exact fun _ hx => hx
      · rw [hq]
        exact List.nil_subset _
    · rw [heq]
      change worker.commands ⊆ b.commands
      rw [hrest, hqueue]
      exact List.subset_cons_self _ _
    · rw [heq]
      change worker.commands ⊆ b.commands
      rw [hrest, hqueue]
      exact List.subset_cons_self _ _
    · rw [heq]
      change worker.commands ⊆ b.commands
      rw [hsame]
      exact fun _ hx => hx
  · exact fun _ _ hlookup => hlookup

end InFlight

/-- No device ACK fails a command as unpublished. -/
lemma not_undoes_ackTask {m : CommandRecord} {ack : DeviceAck} {type : CommandType}
    {now : TimePoint} {c : String} (h : (ackTask m ack type now).Undoes c) : False := by
  have hcode : (acknowledged m ack type now).errorCode = some "mqtt_publish_failed" := h.errorCode
  have hdesired : ack.desired = .failed := h.desired
  rw [acknowledged] at hcode
  simp only [hdesired, reduceIte] at hcode
  exact absurd hcode (by decide)

/-- Only a failed publication fails a command as unpublished. -/
lemma failed_of_completeTask {m : CommandRecord} {type : CommandType} {result : Bool}
    {now : TimePoint} {c : String} (h : (completeTask m type result now).Undoes c) :
    result = false := by
  cases result with
  | false => rfl
  | true => cases h.errorCode

/-- **Where such a transition comes from**: it was on its way, a publication of the
dispatched command has failed, or the search after a conflict has found the row. -/
lemma Tick.undoing {cfg : CommandServiceConfig} {b b' : RuntimeBundle} (hw : Wellformed b)
    (htick : Tick cfg b b') {c : String} {t : TransitionCommandTask} (ht : InFlight b' t)
    (hundoes : t.Undoes c) :
    InFlight b t ∨ (∃ es e, b'.log = es ++ e :: b.log ∧ e.failsDispatched c = true) ∨
      ((∀ answers now, (Input.processNext answers now).FindsOpen c b) ∧
        b'.databaseResults.length < b.databaseResults.length) := by
  have hpublish : ∀ {m : RuntimeBundle} {answers : Answers} {context : RequestContext}
      {now : TimePoint}, InFlight (m.publishRecord cfg answers context now) t → InFlight m t ∨
        ∃ es e, (m.publishRecord cfg answers context now).log = es ++ e :: m.log ∧
          e.failsDispatched c = true := by
    intro m answers context now h
    rcases h.of_publish with h | ⟨record, type, rfl, es, token, topic, payload, hlog⟩
    · exact .inl h
    · refine .inr ⟨es, _, hlog, ?_⟩
      have hid : record.commandId = c := hundoes.commandId
      have hstatus : record.status ≠ .pending := hundoes.expected
      simp [Event.failsDispatched, hid, hstatus]
  have hsubmit : ∀ {m : RuntimeBundle} {kind : OperationKind} {context : RequestContext}
      {task : CommandDatabaseTask}, (∀ s : TransitionCommandTask, task ≠ s.toTask) →
      InFlight (m.submit cfg kind context task).2 t → InFlight m t := fun hother h =>
    h.of_submit.resolve_right (hother t)
  cases htick with
  | quiet hcore =>
      refine .inl (ht.same (by rw [hcore.commands]; exact fun _ hx => hx) fun c' d hlookup => ?_)
      rw [← hcore.deferredTransitions c']
      exact hlookup
  | worker hevent => exact .inl (ht.of_worker hevent)
  | find => exact .inl (hsubmit (fun _ h => by cases h) ht)
  | cleanup => exact .inl (hsubmit (fun _ h => by cases h) ht)
  | create =>
      exact .inl ((hsubmit (fun _ h => by cases h) ht).same (fun _ hx => hx)
        fun _ _ hlookup => hlookup)
  | conflict =>
      exact .inl ((hsubmit (fun _ h => by cases h) ht).same (fun _ hx => hx)
        fun _ _ hlookup => hlookup)
  | activate =>
      exact (hpublish ht).imp (·.same (fun _ hx => hx) fun _ _ hlookup => hlookup) .inl
  | republish =>
      exact (hpublish ht).imp (·.same (fun _ hx => hx) fun _ _ hlookup => hlookup) .inl
  | @converge operationId operation rest current desired target update commandId hdesired hwhich
      hop hopen hcan hcode =>
      rcases ht.of_form with h | rfl
      · exact .inl (h.same (fun _ hx => hx) fun _ _ hlookup => hlookup)
      · rcases hwhich with ⟨hhead, hkind, _, _, rfl⟩ | ⟨hhead, hkind, hterm, _⟩
        · refine .inr (.inr ⟨fun _ _ => ⟨operationId, operation, desired, current, rest, hhead, hop,
            hkind, hdesired, hundoes.desired, hcode ▸ hundoes.errorCode, hundoes.commandId, hopen⟩,
            ?_⟩)
          rw [databaseResults_submitTransitionOrDefer, hhead, List.length_cons]
          exact Nat.lt_succ_self _
        · -- a transition reports the status it asked for
          obtain ⟨d, hcontext, _, hstatus⟩ := hw.transition_result hhead hop hkind
          obtain rfl := hcontext.unique hdesired
          rw [hstatus, hterm] at hopen
          cases hopen
  | deviceAck =>
      rw [applyDeviceAck_eq] at ht
      rcases ht.of_form with h | rfl
      · exact .inl (h.same (fun _ hx => hx) fun _ _ hlookup => hlookup)
      · exact (not_undoes_ackTask hundoes).elim
  | @buffer context record ack deviceId payload type now =>
      rcases bufferEarlyAck_cases cfg (b.emit (.deviceAcked deviceId type ack
        (some record.status))) type ack ⟨deviceId, payload, now⟩ with
        ⟨kept, _, heq⟩ | ⟨message, heq⟩ <;> rw [heq] at ht
      · exact .inl (ht.same (fun _ hx => hx) fun _ _ hlookup => hlookup)
      · exact .inl (ht.same (fun _ hx => hx) fun _ _ hlookup => hlookup)
  | timeout =>
      rcases ht.of_form with h | rfl
      · exact .inl (h.same (fun _ hx => hx) fun _ _ hlookup => hlookup)
      · cases hundoes.desired
  | @complete completion context now hfound =>
      rcases handleCompletion_cases cfg now hfound with
        ⟨_, heq⟩ | ⟨record, _, ⟨_, _, heq⟩ | ⟨_, heq⟩⟩ <;> rw [heq] at ht ⊢
      · exact .inl (ht.same (fun _ hx => hx) fun _ _ hlookup => hlookup)
      · exact .inl (ht.same (fun _ hx => hx) fun _ _ hlookup => hlookup)
      · rcases ht.of_form with h | rfl
        · exact .inl (h.same (fun _ hx => hx) fun _ _ hlookup => hlookup)
        · obtain ⟨es, hlog⟩ := log_form cfg
            (b.completionTaken completion.token record completion.result)
            { context with
              record := some (publishCompleted record context.commandType completion.result now) }
            (completeTask record context.commandType completion.result now)
          refine .inr (.inl ⟨es, .completed record completion.result, hlog, ?_⟩)
          have hid : record.commandId = c := hundoes.commandId
          have hstatus : record.status ≠ .pending := hundoes.expected
          simp [Event.failsDispatched, hid, hstatus, failed_of_completeTask hundoes]
  | retry hfound => exact .inl (ht.of_retry hfound)
  | mqtt | device | consumed | refresh | settle | finish | finished =>
      exact .inl (ht.same (fun _ hx => hx) fun _ _ hlookup => hlookup)

/-! ### The rows that the worker writes -/

/-- A turn of the worker commits at most one row. -/
lemma committed_workerTurn {b : RuntimeBundle} (hw : Wellformed b) {event : WorkerEvent}
    (hevent : event.Admissible) :
    (∀ r ∈ committedRows (b.workerTurn event).trace, r ∈ committedRows b.trace) ∨
      ∃ i task, (i, task) ∈ b.commands ∧ ∀ r ∈ committedRows (b.workerTurn event).trace,
        r ∈ committedRows b.trace ∨ (execute b.table task).written = [r] := by
  have hexecuted : ∀ {i : ℕ} {task : CommandDatabaseTask} {confirmed : Bool},
      (i, task) ∈ b.commands → (b.workerTurn event).trace =
        executionEvents (execute b.table task).removed (execute b.table task).written confirmed ++
          b.trace → ∀ r ∈ committedRows (b.workerTurn event).trace,
        r ∈ committedRows b.trace ∨ (execute b.table task).written = [r] := by
    intro i task confirmed hmem htrace r hr
    rw [htrace] at hr
    rcases List.mem_append.mp (mem_committedRows.mp hr) with hnew | hold
    · rcases mem_executionEvents.mp hnew with ⟨_, _, h⟩ | ⟨_, _, _, h⟩ | ⟨r', hr', h⟩
      · cases h
      · cases h
      · cases h
        obtain ⟨operation, hop, hmatch⟩ := hw.queue i task hmem
        rcases execute_cases b.table (Ledger.isService_of_matches hmatch) with
          ⟨hnone, _⟩ | ⟨r', hwritten, _⟩
        · rw [hnone] at hr'
          cases hr'
        · rw [hwritten] at hr'
          exact .inr (by rw [hwritten, List.mem_singleton.mp hr'])
    · exact .inl (mem_committedRows.mpr hold)
  rcases workerTurn_cases hevent with
    ⟨worker, _, heq⟩ | ⟨i, task, rest, hqueue, ⟨worker, _, heq⟩ |
      ⟨worker, message, _, _, _, heq⟩ | ⟨worker, _, _, heq⟩⟩
  · exact .inl (by rw [heq]; exact fun _ hr => hr)
  · have hmem : (i, task) ∈ b.commands := by
      rw [hqueue]
      exact List.mem_cons_self
    exact .inr ⟨i, task, hmem, @hexecuted i task true hmem (by
      rw [heq]
      exact List.append_assoc ..)⟩
  · exact .inl (by rw [heq]; exact fun _ hr => hr)
  · have hmem : (i, task) ∈ b.commands := by
      rw [hqueue]
      exact List.mem_cons_self
    exact .inr ⟨i, task, hmem, @hexecuted i task false hmem (by
      rw [heq]
      exact List.append_assoc ..)⟩

/-- The row is the first one of its command, or a transition has moved it on. -/
lemma Traced.written {b : RuntimeBundle} (ht : Traced b) {i : ℕ} {task : CommandDatabaseTask}
    (hmem : (i, task) ∈ b.commands) {r : CommandRecord}
    (hwritten : (execute b.table task).written = [r]) :
    (∀ s ∈ committedRows b.trace, s.commandId ≠ r.commandId) ∨
      ∃ (t : TransitionCommandTask) (row : CommandRecord), task = t.toTask ∧
        Latest b.trace row ∧ row.commandId = t.commandId ∧ row.status = t.expected ∧
        row.status.canTransition t.desired = true ∧ r = row.transitioned t.desired t.update := by
  have hl := ht.sound.ledger
  obtain ⟨operation, hop, hmatch⟩ := ht.sound.wellformed.queue i task hmem
  rcases execute_cases b.table (Ledger.isService_of_matches hmatch) with
    ⟨hnone, _⟩ | ⟨r', hwritten', _, _, _, hwhich⟩
  · rw [hnone] at hwritten
    cases hwritten
  · rw [hwritten'] at hwritten
    cases hwritten
    rcases hwhich with ⟨command, rfl, rfl, hnone⟩ |
      ⟨row, expected, update, rfl, hrow, hstatus, hcan, hr⟩
    · refine .inl fun s hs hid => ?_
      have hthere := ((hl.insertions i command hmem).1 s hs hid).2
      have hnone' : b.table.findCommandById command.commandId = none := hnone
      rw [hnone'] at hthere
      cases hthere
    · have hid : row.commandId = r.commandId := CommandTable.findCommandById_commandId hrow
      exact .inr ⟨⟨r.commandId, expected, r.status, update⟩, row, rfl,
        Provenance.latest_of_table hl hrow, hid, hstatus, hcan, hr⟩

/-! ### The invariant -/

/-- Unless a publication that was made after the dispatch has failed while the row was
open, nothing on its way fails an open row as unpublished, and no version of it after the
dispatch is so. -/
structure DispatchStands (c : String) (b : RuntimeBundle) : Prop where
  inFlight : ∀ t, InFlight b t → t.Undoes c → FailsOpen c b.trace ∨
    ∃ s ∈ committedRows b.trace, s.commandId = c ∧ s.status.isTerminal = true
  rows : ∀ r ∈ committedRows b.trace, r.commandId = c → r.status = .failed →
    r.errorCode = some "mqtt_publish_failed" → ∀ s ∈ committedRows b.trace, s.commandId = c →
      s.status = .dispatched → FailsOpen c b.trace

namespace DispatchStands

variable {cfg : CommandServiceConfig} {b b' : RuntimeBundle} {c : String}

/-- **A turn of the worker**: the row it writes is moved by a transition that was on its
way. -/
lemma rows_workerTurn (ht : Traced b) (h : DispatchStands c b) {event : WorkerEvent}
    (hevent : event.Admissible) {r s : CommandRecord}
    (hr : r ∈ committedRows (b.workerTurn event).trace) (hid : r.commandId = c)
    (hfailed : r.status = .failed) (hcode : r.errorCode = some "mqtt_publish_failed")
    (hs : s ∈ committedRows (b.workerTurn event).trace) (hsid : s.commandId = c)
    (hdispatched : s.status = .dispatched) : FailsOpen c b.trace := by
  rcases committed_workerTurn ht.sound.wellformed hevent with hold | ⟨i, task, hmem, hnew⟩
  · exact h.rows r (hold r hr) hid hfailed hcode s (hold s hs) hsid hdispatched
  · rcases hnew r hr with hr | hwritten
    · rcases hnew s hs with hs | hwritten
      · exact h.rows r hr hid hfailed hcode s hs hsid hdispatched
      · -- nothing is written after a terminal row
        rcases ht.written hmem hwritten with hfirst | ⟨t, row, _, hlatest, hrow, _, hcan, rfl⟩
        · exact absurd (hid.trans hsid.symm) (hfirst r hr)
        · have hle := hlatest.last r hr (hid.trans hsid.symm)
          have hterm := hle.isTerminal (by rw [hfailed]; rfl)
          rw [not_canTransition_of_isTerminal hterm] at hcan
          cases hcan
    · rcases hnew s hs with hs | hwritten'
      · rcases ht.written hmem hwritten with hfirst |
          ⟨t, row, rfl, hlatest, hrow, hexpected, hcan, rfl⟩
        · exact absurd (hsid.trans hid.symm) (hfirst s hs)
        · -- the row has been dispatched, so it is not pending, and it is not terminal yet
          have hundoes : t.Undoes c := by
            refine ⟨hrow.symm.trans hid, fun hpending => ?_, hfailed, hcode⟩
            have hle := hlatest.last s hs (hsid.trans hid.symm)
            rw [hdispatched, hexpected, hpending] at hle
            cases eq_pending_of_le hle
          refine (h.inFlight t (.queued hmem) hundoes).resolve_right fun ⟨x, hx, hxid, hterm⟩ => ?_
          have hrowterm := (hlatest.last x hx (hxid.trans hid.symm)).isTerminal hterm
          rw [not_canTransition_of_isTerminal hrowterm] at hcan
          cases hcan
      · rw [hwritten] at hwritten'
        cases hwritten'
        rw [hfailed] at hdispatched
        cases hdispatched

lemma tick (ht : Traced b) (h : DispatchStands c b) (htick : Tick cfg b b')
    (hwhen : (∃ answers now, ¬ (Input.processNext answers now).FindsOpen c b) ∨
      b.databaseResults.length ≤ b'.databaseResults.length) : DispatchStands c b' := by
  obtain ⟨new, hnew⟩ := htick.trace_suffix
  have hmono : FailsOpen c b.trace → FailsOpen c b'.trace := fun h => hnew ▸ h.append new
  refine ⟨fun t hflight hundoes => ?_, fun r hr hid hfailed hcode s hs hsid hdispatched => ?_⟩
  · have hterminal : (∃ s ∈ committedRows b.trace, s.commandId = c ∧ s.status.isTerminal = true) →
        ∃ s ∈ committedRows b'.trace, s.commandId = c ∧ s.status.isTerminal = true :=
      fun ⟨s, hs, hrest⟩ => ⟨s, committedRows_mono htick.trace_suffix.subset hs, hrest⟩
    rcases htick.undoing ht.sound.wellformed hflight hundoes with
      hold | ⟨es, e, hlog, hfails⟩ | ⟨hfinds, hlt⟩
    · exact (h.inFlight t hold hundoes).imp hmono hterminal
    · by_cases hopen : ∃ s ∈ committedRows b.trace, s.commandId = c ∧ s.status.isTerminal = true
      · exact .inr (hterminal hopen)
      · refine .inl ⟨es, e, b.trace, ?_, hfails, fun s hs hid => ?_⟩
        · rw [RuntimeBundle.trace, hlog, (htick.touch ht.sound.wellformed).past,
            List.append_assoc, RuntimeBundle.trace, List.cons_append]
        · by_contra hterm
          exact hopen ⟨s, hs, hid, by simpa using hterm⟩
    · rcases hwhen with ⟨answers, now, hok⟩ | hle
      · exact absurd (hfinds answers now) hok
      · omega
  · rcases htick.serviceStep with ⟨event, hevent, rfl⟩ | hstep
    · exact hmono (h.rows_workerTurn ht hevent hr hid hfailed hcode hs hsid hdispatched)
    · obtain ⟨es, hlog, hes, _⟩ := hstep.log
      have hsame : committedRows b'.trace = committedRows b.trace := by
        rw [trace_of_log hlog hstep.past, committedRows_append,
          Ledger.committedRows_of_isService hes, List.nil_append]
      rw [hsame] at hr hs
      exact hmono (h.rows r hr hid hfailed hcode s hs hsid hdispatched)

lemma restarted (h : DispatchStands c b) (hrestart : Restarted cfg b b') :
    DispatchStands c b' := by
  obtain ⟨written, hrecovery, hpast⟩ := hrestart.recovery
  have hrows : ∀ r ∈ committedRows b'.trace, r ∈ committedRows b.trace ∨
      r.status = .deliveryUncertain := by
    intro r hr
    rcases List.mem_append.mp (mem_committedRows.mp hr) with hlog | hmem
    · rcases hrestart.log _ hlog with h | ⟨message, h⟩ <;> cases h
    · rw [hpast] at hmem
      rcases List.mem_append.mp hmem with hmem | hmem
      · obtain ⟨r', hr', heq⟩ := List.mem_map.mp hmem
        cases heq
        exact .inr (hrecovery.uncertain r hr').2.2.1
      · exact .inl (mem_committedRows.mpr hmem)
  refine ⟨fun t hflight _ => ?_, fun r hr hid hfailed hcode s hs hsid hdispatched => ?_⟩
  · cases hflight with
    | queued hmem =>
        rw [hrestart.commands] at hmem
        cases hmem
    | deferred hlookup _ =>
        rw [hrestart.deferredTransitions] at hlookup
        cases hlookup
  · rcases hrows r hr with hr | hother
    · rcases hrows s hs with hs | hother
      · rw [RuntimeBundle.trace, hpast, ← List.append_assoc]
        exact (h.rows r hr hid hfailed hcode s hs hsid hdispatched).append _
      · rw [hdispatched] at hother
        cases hother
    · rw [hfailed] at hother
      cases hother

lemma blank : DispatchStands c .blank where
  inFlight t hflight _ := by
    cases hflight with
    | queued hmem => cases hmem
    | deferred hlookup _ => cases hlookup
  rows r hr := by cases hr

end DispatchStands

lemma dispatchStands_of_reachable {cfg : CommandServiceConfig} {b : RuntimeBundle} {c : String}
    (hb : ((routeService cfg).restrict fun b input => ¬ input.FindsOpen c b).Reachable b) :
    DispatchStands c b :=
  (restricted_of_ticks (P := fun b => Traced b ∧ DispatchStands c b) ⟨.blank, .blank⟩
    (fun _ _ h hrestart _ => ⟨h.1.restarted hrestart, h.2.restarted hrestart⟩)
    (fun _ _ h htick hwhen => ⟨h.1.tick htick, h.2.tick h.1 htick hwhen⟩) hb).2

/-! ### Results -/

/-- The version of the row is the result of a device ACK. -/
def AckedResult (events : List Event) (r : CommandRecord) : Prop :=
  ∃ deviceId ack memory, .deviceAcked deviceId r.commandType ack memory ∈ events ∧
    ack.commandId = r.commandId ∧ r.status = ack.desired ∧ r.deviceAck = some ack.raw

/-- The version of the row is the result of the passed deadline. -/
def TimedOutResult (events : List Event) (r : CommandRecord) : Prop :=
  r.status = .timeout ∧ ∃ m now replaced,
    .formed (timeoutTask m r.commandType now) replaced ∈ events ∧ m.commandId = r.commandId

/-- The version of the row is the result of a failed publication. -/
def UnpublishedResult (r : CommandRecord) : Prop :=
  r.status = .failed ∧ r.errorCode = some "mqtt_publish_failed"

/-- **The results of a configuration command**: a transition that ends it stems from a
failed publication, a device ACK or its deadline. -/
lemma Asked.result {events : List Event} {row d : CommandRecord} {task : TransitionCommandTask}
    (h : Asked events d task) (hrow : row.commandId = task.commandId)
    (hconfig : ∀ m ∈ committedRows events, m.commandId = row.commandId →
      m.commandType = row.commandType) (htype : row.commandType = .config)
    (hterm : task.desired.isTerminal = true) :
    AckedResult events (row.transitioned task.desired task.update) ∨
      TimedOutResult events (row.transitioned task.desired task.update) ∨
      UnpublishedResult (row.transitioned task.desired task.update) := by
  have hid := h.commandId
  obtain ⟨m, cause, hdesire, hwhich⟩ := h
  have hmrow : m.commandId = row.commandId := by
    rw [hrow, hid, hdesire.commandId]
  have hsame : m.commandType = (row.transitioned task.desired task.update).commandType :=
    hconfig m hdesire.row hmrow
  have hm : m.commandType = .config := hsame.trans htype
  have hd := hdesire.record
  subst hd
  cases cause with
  | refused now =>
      refine .inr (.inr ?_)
      rcases hwhich with rfl | ⟨current, _, _, _, _, _, rfl⟩ <;> exact ⟨rfl, rfl⟩
  | completed result now =>
      cases result with
      | true => rcases hwhich with rfl | ⟨current, _, _, _, _, _, rfl⟩ <;> cases hterm
      | false =>
          refine .inr (.inr ?_)
          have hfails : (publishCompleted m m.commandType false now).status = .failed ∧
              (publishCompleted m m.commandType false now).errorCode =
                some "mqtt_publish_failed" := by
            rw [hm]
            exact ⟨rfl, rfl⟩
          rcases hwhich with rfl | ⟨current, _, _, _, _, _, rfl⟩ <;> exact hfails
  | acknowledged ack now =>
      obtain ⟨deviceId, json, hmem, _, hackid, _, _⟩ := hdesire.evidence
      have hstored : (acknowledged m ack m.commandType now).status = ack.desired ∧
          (acknowledged m ack m.commandType now).deviceAck = some ack.raw := by
        refine ⟨(Wellformed.sameCommand_acknowledged m ack _ now).2, ?_⟩
        rw [acknowledged]
        dsimp only
        split_ifs <;> rfl
      refine .inl ⟨deviceId, ack, some m.status, ?_, hackid.trans hmrow, ?_⟩
      · rwa [← hsame]
      · rcases hwhich with rfl | ⟨current, _, _, _, _, _, rfl⟩
        · exact ⟨rfl, hstored.2⟩
        · exact hstored
  | expired now =>
      refine .inr (.inl ⟨?_, m, now, ?_⟩)
      · rcases hwhich with rfl | ⟨current, _, _, _, _, _, rfl⟩ <;> rfl
      · obtain ⟨replaced, hformed⟩ := hdesire.formed
        refine ⟨replaced, ?_, hmrow⟩
        rwa [← hsame]

/-- **The result of a dispatched configuration command.** -/
lemma Traced.result {b : RuntimeBundle} (ht : Traced b) {r s : CommandRecord}
    (hr : r ∈ committedRows b.trace) (htype : r.commandType = .config)
    (hterm : r.status.isTerminal = true) (hs : s ∈ committedRows b.trace)
    (hid : s.commandId = r.commandId) (hdispatched : s.status = .dispatched) :
    AckedResult b.trace r ∨ TimedOutResult b.trace r ∨ UnpublishedResult r := by
  obtain ⟨l₁, l₂, hsplit⟩ := List.append_of_mem (mem_committedRows.mp hr)
  have hsub : ∀ e ∈ l₂, e ∈ b.trace := fun e he => by
    rw [hsplit]
    exact List.mem_append_right _ (List.mem_cons_of_mem _ he)
  have hknown : ∀ x ∈ committedRows l₂, Known b.trace x := fun x hx =>
    ht.sound.ledger.committed_known x (committedRows_mono hsub hx)
  cases ht.provenance.rows l₁ r l₂ hsplit with
  | recovered _ hcontrol _ =>
      have hother : CommandType.control = .config := hcontrol.symm.trans htype
      cases hother
  | written horigin =>
      cases horigin with
      | @inserted i command _ hfirst =>
          -- the dispatched version is neither before the first one nor after a terminal one
          exfalso
          have hsorted := ht.sound.ledger.committed_sorted
          rw [hsplit] at hs hsorted
          rw [committedRows_append] at hs hsorted
          rcases List.mem_append.mp hs with hlater | hs
          · have hfollows := (List.pairwise_append.mp hsorted).2.2 s hlater command.stored
              List.mem_cons_self hid
            rw [hterm] at hfollows
            cases hfollows.2
          · rcases List.mem_cons.mp hs with rfl | hearlier
            · rw [hdispatched] at hterm
              cases hterm
            · exact hfirst s hearlier hid
      | @moved row d task hlatest hrow _ _ hasked =>
          have hresult := hasked.result hrow (fun m hm hmid =>
            ((hknown m hm).sameCommand ht.sound.wellformed.created (hknown row hlatest.committed)
              hmid).commandType) htype hterm
          refine hresult.imp ?_ (.imp_left ?_)
          · rintro ⟨deviceId, ack, memory, hmem, hrest⟩
            exact ⟨deviceId, ack, memory, hsub _ hmem, hrest⟩
          · rintro ⟨hstatus, m, now, replaced, hmem, hm⟩
            exact ⟨hstatus, m, now, replaced, hsub _ hmem, hm⟩

/-! ### Runs -/

/-- **The result of a dispatched configuration command is decided by a device ACK or by
its deadline**, if no publication of it that was made after the dispatch fails while the
row is open, and no search after the conflict of an earlier failure finds it open. -/
theorem dispatched_result_decided {cfg : CommandServiceConfig} {b : RuntimeBundle} {c : String}
    (hb : ((routeService cfg).restrict fun b input => ¬ input.FindsOpen c b).Reachable b)
    (hkept : ¬ FailsOpen c b.trace) {r : CommandRecord} (hr : r ∈ committedRows b.trace)
    (hid : r.commandId = c) (htype : r.commandType = .config)
    (hterm : r.status.isTerminal = true)
    (hdispatched : ∃ s ∈ committedRows b.trace, s.commandId = c ∧ s.status = .dispatched) :
    ¬ UnpublishedResult r ∧ (AckedResult b.trace r ∨ TimedOutResult b.trace r) := by
  obtain ⟨s, hs, hsid, hstatus⟩ := hdispatched
  have hstands : ¬ UnpublishedResult r := fun ⟨hfailed, hcode⟩ =>
    hkept ((dispatchStands_of_reachable hb).rows r hr hid hfailed hcode s hs hsid hstatus)
  refine ⟨hstands, ?_⟩
  rcases (traced_of_reachable hb.of_restrict).result hr htype hterm hs (hsid.trans hid.symm)
    hstatus with hacked | hexpired | hunpublished
  · exact .inl hacked
  · exact .inr hexpired
  · exact absurd hunpublished hstands

lemma not_findsOpen {b : RuntimeBundle} (h : b.findsRow = false) (c : String) (input : Input) :
    ¬ input.FindsOpen c b := by
  cases input with
  | processNext answers now =>
      rintro ⟨i, operation, desired, current, rest, hhead, -⟩
      rw [RuntimeBundle.findsRow, hhead] at h
      cases h
  | _ => exact id

lemma not_failsOpen {c : String} {events : List Event}
    (h : ∀ e ∈ events, e.failsDispatched c = false) : ¬ FailsOpen c events := by
  rintro ⟨later, e, earlier, rfl, hfails, -⟩
  rw [h e (by simp)] at hfails
  cases hfails

/-- A dispatched configuration is published again, and then the device reports that it is
applied. -/
def Sample.appliedAgain : List PlainInput :=
  Sample.dispatched .config true ++
    [.setMqttAvailable false, .setMqttAvailable true, .finishReady true 7,
      .tryPush ⟨"cns/dev1/config/ack", Sample.appliedAck.1, 8⟩,
      .processNext PlainInput.unusedUuid true 8, .worker (.runCommand .completed)]

/-- The ACK of the device decides. -/
theorem dispatched_result_decided_applied :
    ∃ r ∈ committedRows (play Sample.config Sample.started Sample.appliedAgain).trace,
      r.commandId = Sample.commandId ∧ r.status = .succeeded ∧ ¬ UnpublishedResult r ∧
        (AckedResult (play Sample.config Sample.started Sample.appliedAgain).trace r ∨
          TimedOutResult (play Sample.config Sample.started Sample.appliedAgain).trace r) := by
  have hb : ((routeService Sample.config).restrict fun b input =>
      ¬ input.FindsOpen Sample.commandId b).Reachable
        (play Sample.config Sample.started Sample.appliedAgain) :=
    @reachable_of_admitted Sample.config _ (fun b _ => !b.findsRow)
      (fun b input h => not_findsOpen (by simpa using h) Sample.commandId (input.toInput b)) _
      (reachable_firstStart Sample.config _ Sample.sources
        (DeviceRegistry.empty.put (Sample.device .online))) _ (by decide +kernel)
  have hkept : (play Sample.config Sample.started Sample.appliedAgain).trace.all
      (fun e => !e.failsDispatched Sample.commandId) = true := by decide +kernel
  have hresult : (committedRows (play Sample.config Sample.started
      Sample.appliedAgain).trace).any (fun r => r.commandId = Sample.commandId &&
        r.status = .succeeded && r.commandType = .config) = true := by decide +kernel
  have hdispatched : (committedRows (play Sample.config Sample.started
      Sample.appliedAgain).trace).any (fun s => s.commandId = Sample.commandId &&
        s.status = .dispatched) = true := by decide +kernel
  obtain ⟨r, hr, hwhich⟩ := List.any_eq_true.mp hresult
  obtain ⟨s, hs, hbefore⟩ := List.any_eq_true.mp hdispatched
  simp only [Bool.and_eq_true, decide_eq_true_eq] at hwhich hbefore
  refine ⟨r, hr, hwhich.1.1, hwhich.1.2, dispatched_result_decided hb (not_failsOpen fun e he => ?_)
    hr hwhich.1.1 hwhich.2 (by rw [hwhich.1.2]; rfl) ⟨s, hs, hbefore⟩⟩
  simpa using List.all_eq_true.mp hkept e he

/-- A dispatched configuration is to be published again, and the publisher refuses. -/
def Sample.refusedAgain : List PlainInput :=
  Sample.dispatched .config true ++
    [.setMqttAvailable false, .setMqttAvailable true, .finishReady false 7,
      .worker (.runCommand .completed)]

/-- **A redundant publication fails the command**: it was dispatched, and a refused
republication makes it failed, with no device ACK and no passed deadline. -/
theorem dispatched_failed_refused :
    (routeService Sample.config).Reachable
        (play Sample.config Sample.started Sample.refusedAgain) ∧
      (committedRows (play Sample.config Sample.started Sample.refusedAgain).trace).map
          (fun r => (r.commandId, r.status, r.errorCode)) =
        [(Sample.commandId, .failed, some "mqtt_publish_failed"),
          (Sample.commandId, .dispatched, none), (Sample.commandId, .pending, none)] ∧
      ∃ r ∈ committedRows (play Sample.config Sample.started Sample.refusedAgain).trace,
        r.commandType = .config ∧ UnpublishedResult r := by
  have hfailed : (committedRows (play Sample.config Sample.started
      Sample.refusedAgain).trace).any (fun r => r.commandType = .config && r.status = .failed &&
        r.errorCode = some "mqtt_publish_failed") = true := by decide +kernel
  obtain ⟨r, hr, hwhich⟩ := List.any_eq_true.mp hfailed
  simp only [Bool.and_eq_true, decide_eq_true_eq] at hwhich
  exact ⟨reachable_of_played (reachable_firstStart Sample.config (fun _ _ => True) Sample.sources
    (DeviceRegistry.empty.put (Sample.device .online))).of_restrict (by decide +kernel),
    by decide +kernel, r, hr, hwhich.1.1, hwhich.1.2, hwhich.2⟩

end CnsServer
