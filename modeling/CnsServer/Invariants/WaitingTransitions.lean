/-
The transitions of one command on their way to the table.

A transition that is formed joins the queue of the worker or, if the worker takes no
more, becomes the deferred one of its command.  Another transition of the command then
takes its place; otherwise it is tried again.

* `TickIf.waiting`: what a tick of the service does to the transitions of one command that
  wait;
* `execute_others`: a task that is no transition of the command leaves its open row alone;
* `OpenStored`: a command that has not ended has its row; `OpenStored.tick` and
  `OpenStored.restarted` keep it.
-/
import CnsServer.Invariants.UnderWay

namespace CnsServer

open RuntimeBundle CommandStatus

/-- The task is a transition of the command. -/
def CommandDatabaseTask.Moves (c : String) : CommandDatabaseTask → Prop
  | .transitionCommand commandId _ _ _ => commandId = c
  | _ => False

/-- The event forms a transition of the command. -/
def Event.Forms (c : String) : Event → Prop
  | .formed task _ => task.commandId = c
  | _ => False

lemma Event.Forms.touches {c : String} {e : Event} (h : e.Forms c) : e.Touches c := by
  cases e with
  | formed task replaced => exact h
  | _ => exact h.elim

/-! ### What waits after a tick -/

/-- The queue has grown by tasks that are no transitions of the command. -/
def Queues (c : String) (b b' : RuntimeBundle) : Prop :=
  ∃ tasks, b'.commands = b.commands ++ tasks ∧ ∀ p ∈ tasks, ¬ p.2.Moves c

/-- A transition of the command has joined the queue, or is the deferred one. -/
inductive Joins (c : String) (b b' : RuntimeBundle) (deferred : DeferredTransition) : Prop
  | queued {i : ℕ} : b'.commands = b.commands ++ [(i, deferred.task.toTask)] →
      Joins c b b' deferred
  | deferred : b'.commands = b.commands → b'.deferredTransitions.lookup c = some deferred →
      Joins c b b' deferred

/-- What happens to the waiting transitions of the command: nothing, a new one in the
place of the deferred one, or a new attempt at the deferred one. -/
inductive WaitingEffect (c : String) (b b' : RuntimeBundle) : Prop
  | still : b'.deferredTransitions.lookup c = b.deferredTransitions.lookup c → Queues c b b' →
      Grown (fun e => ¬ e.Forms c) b b' → WaitingEffect c b b'
  | formed {context : RequestContext} {task : TransitionCommandTask} : task.commandId = c →
      .formed task (b.replaced c) ∈ b'.log → Joins c b b' ⟨context, task⟩ → WaitingEffect c b b'
  | retried {deferred : DeferredTransition} : b.deferredTransitions.lookup c = some deferred →
      Joins c b b' deferred → WaitingEffect c b b'

/-- The queue only grows at its end. -/
lemma WaitingEffect.commands {c : String} {b b' : RuntimeBundle} (h : WaitingEffect c b b') :
    ∃ tasks, b'.commands = b.commands ++ tasks := by
  have hjoins : ∀ {deferred : DeferredTransition}, Joins c b b' deferred →
      ∃ tasks, b'.commands = b.commands ++ tasks := by
    rintro deferred (hqueued | ⟨hsame, _⟩)
    · exact ⟨_, hqueued⟩
    · exact ⟨[], by rw [hsame, List.append_nil]⟩
  cases h with
  | still _ hqueues _ => exact hqueues.imp fun _ h => h.1
  | formed _ _ h => exact hjoins h
  | retried _ h => exact hjoins h

/-- The waiting transitions of the command are as they were, and so is the thread of the
worker. -/
structure Untouched (c : String) (b m : RuntimeBundle) : Prop where
  commands : m.commands = b.commands
  deferred : m.deferredTransitions.lookup c = b.deferredTransitions.lookup c
  workerStopped : m.workerStopped = b.workerStopped
  grown : Grown (fun e => ¬ e.Forms c) b m

namespace Untouched

variable {cfg : CommandServiceConfig} {c : String} {b m m' : RuntimeBundle}

lemma refl (b : RuntimeBundle) : Untouched c b b := ⟨rfl, rfl, rfl, .refl b⟩

/-- Only other maps change, and the trace grows by other events. -/
lemma update (h : Untouched c b m) (hworker : m'.toPostgresWorker = m.toPostgresWorker)
    (hdeferred : m'.deferredTransitions.lookup c = m.deferredTransitions.lookup c)
    {es : List Event} (hlog : m'.log = es ++ m.log) (hes : ∀ e ∈ es, ¬ e.Forms c) :
    Untouched c b m' where
  commands := (congrArg PostgresWorker.commands hworker).trans h.commands
  deferred := hdeferred.trans h.deferred
  workerStopped := (congrArg PostgresWorker.workerStopped hworker).trans h.workerStopped
  grown := by
    obtain ⟨old, hold, hno⟩ := h.grown
    refine ⟨es ++ old, by rw [hlog, hold, List.append_assoc], fun e he => ?_⟩
    exact (List.mem_append.mp he).elim (hes e) (hno e)

lemma emit (h : Untouched c b m) {event : Event} (hevent : ¬ event.Forms c) :
    Untouched c b (m.emit event) :=
  @update c b m (m.emit event) h rfl rfl [event] rfl (by simpa using hevent)

lemma taken (h : Untouched c b m) (operationId : ℕ) (rest : List CommandDatabaseResult) :
    Untouched c b (m.taken operationId rest) :=
  @update c b m (m.taken operationId rest) h rfl rfl [] rfl (by simp)

lemma effect (h : Untouched c b m) : WaitingEffect c b m :=
  .still h.deferred ⟨[], by rw [h.commands, List.append_nil], by simp⟩ h.grown

/-- A task that is no transition of the command joins the queue. -/
lemma accepted (h : Untouched c b m) (kind : OperationKind) (context : RequestContext)
    {task : CommandDatabaseTask} (htask : ¬ task.Moves c) :
    WaitingEffect c b (m.accepted kind context task) := by
  have hemit : Untouched c b (m.emit (.submitted m.nextOperationId task true)) := h.emit id
  exact .still h.deferred
    ⟨[(m.nextOperationId, task)], congrArg (· ++ _) h.commands, by simpa using htask⟩ hemit.grown

lemma refused (h : Untouched c b m) (task : CommandDatabaseTask) :
    Untouched c b (m.refused task) := by
  have hemit : Untouched c b (m.emit (.submitted m.nextOperationId task false)) := h.emit id
  exact { hemit with }

/-- A task that is no transition of the command. -/
lemma submit (h : Untouched c b m) (kind : OperationKind) (context : RequestContext)
    {task : CommandDatabaseTask} (htask : ¬ task.Moves c) :
    (m.submit cfg kind context task).2.workerStopped = b.workerStopped ∧
      WaitingEffect c b (m.submit cfg kind context task).2 := by
  rcases submit_cases cfg m kind context task with heq | heq <;> rw [heq]
  · exact ⟨h.workerStopped, h.accepted kind context htask⟩
  · exact ⟨h.workerStopped, (h.refused task).effect⟩

/-- A transition is formed. -/
lemma form (h : Untouched c b m) (context : RequestContext) (task : TransitionCommandTask) :
    (m.submitTransitionOrDefer cfg context task).workerStopped = b.workerStopped ∧
      WaitingEffect c b (m.submitTransitionOrDefer cfg context task) := by
  by_cases hid : task.commandId = c
  · have hreplaced : m.replaced task.commandId = b.replaced c := by
      rw [replaced, replaced, hid, h.deferred]
    rcases submitTransitionOrDefer_cases cfg m context task with heq | heq <;> rw [heq]
    · refine ⟨h.workerStopped, @WaitingEffect.formed c b _ context task hid ?_
        (.queued (congrArg (· ++ _) h.commands))⟩
      rw [← hreplaced]
      exact List.mem_cons_of_mem _ List.mem_cons_self
    · refine ⟨h.workerStopped, @WaitingEffect.formed c b _ context task hid ?_
        (.deferred h.commands ?_)⟩
      · rw [← hreplaced]
        exact List.mem_cons_of_mem _ List.mem_cons_self
      · exact Map.lookup_insert_some.mpr (.inl ⟨hid.symm, rfl⟩)
  · have hformed : Untouched c b (m.emit (.formed task (m.replaced task.commandId))) := h.emit hid
    have htask : ¬ task.toTask.Moves c := hid
    rcases submitTransitionOrDefer_cases cfg m context task with heq | heq <;> rw [heq]
    · have hemit : Untouched c b ((m.emit (.formed task (m.replaced task.commandId))).emit
          (.submitted m.nextOperationId task.toTask true)) := hformed.emit id
      exact ⟨h.workerStopped, .still ((AList.lookup_erase_ne (Ne.symm hid)).trans h.deferred)
        ⟨[(m.nextOperationId, task.toTask)], congrArg (· ++ _) h.commands, by simpa using htask⟩
        hemit.grown⟩
    · have hlater : Untouched c b (m.formedLater context task) :=
        @update c b _ (m.formedLater context task) (hformed.refused task.toTask) rfl
          (AList.lookup_insert_ne (Ne.symm hid)) [] rfl (by simp)
      exact ⟨hlater.workerStopped, hlater.effect⟩

/-- A message goes to the device publisher. -/
lemma publish (h : Untouched c b m) (answers : Answers) (context : RequestContext)
    (now : TimePoint) :
    (m.publishRecord cfg answers context now).workerStopped = b.workerStopped ∧
      WaitingEffect c b (m.publishRecord cfg answers context now) := by
  rcases publishRecord_cases cfg answers m context now with
    heq | ⟨record, deviceId, payload, _, _, _, _, heq | heq⟩ <;> rw [heq]
  · exact ⟨h.workerStopped, h.effect⟩
  · have hsent : Untouched c b (m.sent cfg context record deviceId payload) :=
      @update c b m _ h rfl rfl [_] rfl (by simp [Event.Forms])
    exact ⟨hsent.workerStopped, hsent.effect⟩
  · have hunsent : Untouched c b (m.unsent cfg context record deviceId payload) :=
      @update c b m _ h rfl rfl [_] rfl (by simp [Event.Forms])
    exact hunsent.form _ _

end Untouched

/-- **What a tick does to the waiting transitions of a command**: it is a turn of the
worker, or one effect of the service. -/
lemma TickIf.waiting {T : Limits} {cfg : CommandServiceConfig} {b b' : RuntimeBundle}
    (hw : Wellformed b) (htick : TickIf T cfg b b') (c : String) :
    (∃ event : WorkerEvent, event.Admissible ∧ T.turn b event ∧ b' = b.workerTurn event) ∨
      (b'.workerStopped = b.workerStopped ∧ WaitingEffect c b b') := by
  have h₀ : Untouched c b b := .refl b
  have hstill : ∀ {m : RuntimeBundle}, Untouched c b m →
      m.workerStopped = b.workerStopped ∧ WaitingEffect c b m := fun h =>
    ⟨h.workerStopped, h.effect⟩
  cases htick with
  | quiet hcore =>
      obtain ⟨es, hlog, hes⟩ := hcore.log
      exact .inr (hstill (h₀.update hcore.worker (hcore.deferredTransitions c) hlog
        fun e he hforms => (hes e he).not_touches c hforms.touches))
  | worker hevent hturn => exact .inl ⟨_, hevent, hturn, rfl⟩
  | mqtt =>
      exact .inr (hstill (@Untouched.update c b b _ h₀ rfl rfl [_] rfl (by simp [Event.Forms])))
  | device =>
      exact .inr (hstill (@Untouched.update c b b _ h₀ rfl rfl [_] rfl (by simp [Event.Forms])))
  | find => exact .inr (h₀.submit _ _ id)
  | cleanup => exact .inr (h₀.submit _ _ id)
  | @consumed operationId value rest events hhead hconsumed =>
      have hevents : ∀ e ∈ events, ¬ e.Forms c := by
        cases hconsumed <;> simp [Event.Forms]
      exact .inr (hstill (@Untouched.update c b (b.taken operationId rest) _
        (h₀.taken operationId rest) rfl rfl events rfl hevents))
  | create => exact .inr (((h₀.taken _ _).emit id).submit _ _ id)
  | conflict => exact .inr ((h₀.taken _ _).submit _ _ id)
  | @activate answers operationId operation rest record now =>
      have hset : Untouched c b { b.taken operationId rest with
          activeCommands := b.activeCommands.insert record.commandId
            { operation.context with record := some record } } :=
        @Untouched.update c b (b.taken operationId rest) _ (h₀.taken operationId rest) rfl rfl []
          rfl (by simp)
      exact .inr (hset.publish answers _ now)
  | @refresh operationId operation rest record context now =>
      exact .inr (hstill (@Untouched.update c b (b.taken operationId rest) _
        (h₀.taken operationId rest) rfl rfl [_] rfl (by simp [Event.Forms])))
  | @settle operationId operation rest =>
      exact .inr (hstill (@Untouched.update c b (b.taken operationId rest) _
        (h₀.taken operationId rest) rfl rfl [] rfl (by simp)))
  | converge => exact .inr ((h₀.taken _ _).form _ _)
  | @finish operationId operation rest record value context now =>
      exact .inr (hstill (@Untouched.update c b (b.taken operationId rest) _
        (h₀.taken operationId rest) rfl rfl [_] rfl (by simp [Event.Forms])))
  | @finished operationId operation rest =>
      exact .inr (hstill (@Untouched.update c b (b.taken operationId rest) _
        (h₀.taken operationId rest) rfl rfl [] rfl (by simp)))
  | deviceAck => exact .inr ((h₀.emit id).form _ _)
  | @buffer context record ack deviceId payload type now =>
      have hacked : Untouched c b (b.emit (.deviceAcked deviceId type ack
          (some record.status))) := h₀.emit id
      rcases bufferEarlyAck_cases cfg (b.emit (.deviceAcked deviceId type ack
        (some record.status))) type ack ⟨deviceId, payload, now⟩ with
        ⟨kept, _, heq⟩ | ⟨message, heq⟩
      · rw [heq]
        exact .inr (hstill (@Untouched.update c b _ _ hacked rfl rfl [] rfl (by simp)))
      · rw [heq]
        exact .inr (hstill (@Untouched.emit c b _ hacked (.diagnosed message) id))
  | @timeout commandId context record now =>
      have hmarked : Untouched c b { b with
          recoveryStarted := insert commandId b.recoveryStarted } :=
        @Untouched.update c b b _ h₀ rfl rfl [] rfl (by simp)
      exact .inr (hmarked.form _ _)
  | @republish answers commandId deviceId context record now =>
      have hmarked : Untouched c b { b with
          recoveryStarted := insert commandId b.recoveryStarted } :=
        @Untouched.update c b b _ h₀ rfl rfl [] rfl (by simp)
      exact .inr (hmarked.publish answers context now)
  | @complete completion context now hfound =>
      rcases handleCompletion_cases cfg now hfound with
        ⟨_, heq⟩ | ⟨record, _, ⟨_, _, heq⟩ | ⟨_, heq⟩⟩
      · rw [heq]
        exact .inr (hstill (@Untouched.update c b b _ h₀ rfl rfl [] rfl (by simp)))
      · rw [heq]
        exact .inr (hstill
          (@Untouched.update c b b _ h₀ rfl rfl [_] rfl (by simp [Event.Forms])))
      · rw [heq]
        have htaken : Untouched c b
            (b.completionTaken completion.token record completion.result) :=
          @Untouched.update c b b _ h₀ rfl rfl [_] rfl (by simp [Event.Forms])
        exact .inr (htaken.form _ _)
  | @retry key deferred hfound =>
      have hkey : deferred.task.commandId = key := (hw.deferred key deferred hfound).key
      by_cases hc : key = c
      · subst hc
        rcases retryDeferred_cases cfg b key deferred with heq | heq <;> rw [heq]
        · exact .inr ⟨rfl, .retried hfound (.queued rfl)⟩
        · exact .inr ⟨rfl, .retried hfound (.deferred rfl
            (Map.lookup_insert_some.mpr (.inl ⟨hkey.symm, rfl⟩)))⟩
      · have htask : ¬ deferred.task.toTask.Moves c := fun h => hc (hkey.symm.trans h)
        have herased : Untouched c b { b with
            deferredTransitions := b.deferredTransitions.erase key } :=
          @Untouched.update c b b _ h₀ rfl (AList.lookup_erase_ne (Ne.symm hc)) [] rfl (by simp)
        rcases retryDeferred_cases cfg b key deferred with heq | heq <;> rw [heq]
        · exact .inr ⟨rfl, herased.accepted .transition deferred.context htask⟩
        · have hlookup : ((b.deferredTransitions.erase key).insert deferred.task.commandId
              deferred).lookup c = b.deferredTransitions.lookup c := by
            rw [hkey, AList.lookup_insert_ne (Ne.symm hc), AList.lookup_erase_ne (Ne.symm hc)]
          exact .inr (hstill (@Untouched.update c b (b.refused deferred.task.toTask) _
            (h₀.refused deferred.task.toTask) rfl hlookup [] rfl (by simp)))

/-! ### Turns of the worker -/

/-- A task that is no transition of the command leaves its open row alone. -/
lemma execute_others {table : CommandTable} {task : CommandDatabaseTask} (hservice : task.IsService)
    {c : String} {row : CommandRecord} (hrow : table.findCommandById c = some row)
    (hopen : row.status.isTerminal = false) (htask : ¬ task.Moves c) :
    (execute table task).table.findCommandById c = some row ∧
      ∀ r ∈ (execute table task).written, r.commandId ≠ c := by
  rcases execute_cases table hservice with
    ⟨hnone, _, hkept, _⟩ | ⟨r, hwritten, _, _, htable, hwhich⟩
  · refine ⟨(hkept c row hrow).resolve_right ?_, by simp [hnone]⟩
    -- only terminal rows are removed
    rintro ⟨_, hterm, _⟩
    rw [hopen] at hterm
    cases hterm
  · have hne : r.commandId ≠ c := by
      rintro rfl
      rcases hwhich with ⟨_, _, _, hfree⟩ | ⟨_, _, _, rfl, _⟩
      · rw [hrow] at hfree
        cases hfree
      · exact htask rfl
    refine ⟨?_, by simp [hwritten, hne]⟩
    rw [htable, if_neg hne.symm]
    exact hrow

lemma Sound.isService {b : RuntimeBundle} (hs : Sound b) {i : ℕ} {task : CommandDatabaseTask}
    (hmem : (i, task) ∈ b.commands) : task.IsService := by
  obtain ⟨operation, _, hmatch⟩ := hs.wellformed.queue i task hmem
  exact Ledger.isService_of_matches hmatch

/-- A task that is no transition of a command with a version writes no other. -/
lemma Sound.written_others {b : RuntimeBundle} (hs : Sound b) {i : ℕ} {task : CommandDatabaseTask}
    {rest : List (ℕ × CommandDatabaseTask)} (hqueue : b.commands = (i, task) :: rest) {c : String}
    {s : CommandRecord} (hmem : s ∈ committedRows b.trace) (hid : s.commandId = c)
    (htask : ¬ task.Moves c) : ∀ r ∈ (execute b.table task).written, r.commandId ≠ c := by
  have hfront : (i, task) ∈ b.commands := by rw [hqueue]; exact List.mem_cons_self
  rintro r hr rfl
  rcases execute_cases b.table (hs.isService hfront) with
    ⟨hnone, _⟩ | ⟨r', hwritten, _, _, _, hwhich⟩
  · rw [hnone] at hr
    cases hr
  · rw [hwritten] at hr
    obtain rfl := List.mem_singleton.mp hr
    rcases hwhich with ⟨command, rfl, rfl, hfree⟩ | ⟨_, _, _, rfl, _⟩
    · -- the row of a command that is being inserted is the one it asks for
      have hthere := ((hs.ledger.insertions i command hfront).1 s hmem hid).2
      have hfree : b.table.findCommandById command.commandId = none := hfree
      rw [hfree] at hthere
      cases hthere
    · exact htask rfl

/-- What a turn of the worker does to its queue and to the rows: nothing, at most giving up
the queue for good; its front task is refused by the store; or it is executed. -/
inductive WorkerEffect (b : RuntimeBundle) (event : WorkerEvent) (b' : RuntimeBundle) : Prop
  | rests : b'.table = b.table → committedRows b'.trace = committedRows b.trace →
      (b'.commands = b.commands ∨ b'.workerStopped = true) → WorkerEffect b event b'
  | refused {i : ℕ} {task : CommandDatabaseTask} {message : String} :
      event = .runCommand (.failed message) → b.commands = (i, task) :: b'.commands →
      b'.table = b.table → committedRows b'.trace = committedRows b.trace → WorkerEffect b event b'
  | executed {i : ℕ} {task : CommandDatabaseTask} {rest : List (ℕ × CommandDatabaseTask)} :
      b.commands = (i, task) :: rest → (b'.commands = rest ∨ b'.commands = b.commands) →
      b'.table = (execute b.table task).table →
      committedRows b'.trace = (execute b.table task).written ++ committedRows b.trace →
      WorkerEffect b event b'

lemma WorkerEffect.committedRows {b b' : RuntimeBundle} {event : WorkerEvent}
    (h : WorkerEffect b event b') :
    ∃ written, CnsServer.committedRows b'.trace = written ++ CnsServer.committedRows b.trace := by
  cases h with
  | rests _ hrows _ => exact ⟨[], hrows⟩
  | refused _ _ _ hrows => exact ⟨[], hrows⟩
  | executed _ _ _ hrows => exact ⟨_, hrows⟩

lemma workerTurn_effect (b : RuntimeBundle) {event : WorkerEvent} (hevent : event.Admissible) :
    WorkerEffect b event (b.workerTurn event) := by
  rcases workerTurn_cases hevent with
    ⟨worker, hcommands, heq⟩ |
      ⟨i, task, rest, hqueue, ⟨worker, hrest, heq⟩ | ⟨worker, message, hrest, _, hfailed, heq⟩ |
        ⟨worker, hsame, _, heq⟩⟩ <;> rw [heq]
  · exact .rests rfl rfl (hcommands.imp id (·.2))
  · refine .executed hqueue (.inl hrest) rfl ?_
    rw [RuntimeBundle.trace, List.append_assoc, committedRows_append,
      Ledger.committedRows_execution]
    rfl
  · exact .refused hfailed (hqueue.trans (congrArg _ hrest.symm)) rfl rfl
  · refine .executed hqueue (.inr hsame) rfl ?_
    rw [RuntimeBundle.trace, List.append_assoc, committedRows_append,
      Ledger.committedRows_execution]
    rfl

/-- A worker that has stopped stays so, and writes nothing. -/
lemma workerTurn_stopped {b : RuntimeBundle} (h : b.workerStopped = true) (event : WorkerEvent) :
    (b.workerTurn event).workerStopped = true ∧
      committedRows (b.workerTurn event).trace = committedRows b.trace := by
  obtain ⟨⟨_, _, hwritten, _⟩, hstopped⟩ := PostgresWorker.turn_stopped h b.table event
  refine ⟨hstopped, ?_⟩
  have htrace : (b.workerTurn event).trace = executionEvents (b.toPostgresWorker.turn b.table
      event).removed (b.toPostgresWorker.turn b.table event).written
      (b.toPostgresWorker.turn b.table event).confirmed ++ b.trace := List.append_assoc _ _ _
  rw [htrace, committedRows_append, Ledger.committedRows_execution, hwritten, List.nil_append]

/-! ### The rows of open commands -/

/-- A command none of whose versions is terminal has its row. -/
def OpenStored (b : RuntimeBundle) : Prop := ∀ r ∈ committedRows b.trace,
  (∀ s ∈ committedRows b.trace, s.commandId = r.commandId → s.status.isTerminal = false) →
    (b.table.findCommandById r.commandId).isSome

namespace OpenStored

variable {cfg : CommandServiceConfig} {b b' : RuntimeBundle}

lemma same (h : OpenStored b) (htable : b'.table = b.table)
    (hrows : committedRows b'.trace = committedRows b.trace) : OpenStored b' := by
  rw [OpenStored, htable, hrows]
  exact h

lemma executed (h : OpenStored b) (hs : Sound b) {i : ℕ} {task : CommandDatabaseTask}
    (hmem : (i, task) ∈ b.commands) (htable : b'.table = (execute b.table task).table)
    (hrows : committedRows b'.trace = (execute b.table task).written ++ committedRows b.trace) :
    OpenStored b' := by
  intro r hr hopen
  rw [hrows] at hr hopen
  have hold : r ∈ committedRows b.trace → (b.table.findCommandById r.commandId).isSome := fun hr =>
    h r hr fun s hs => hopen s (List.mem_append_right _ hs)
  rw [htable]
  rcases execute_cases b.table (hs.isService hmem) with
    ⟨hnone, _, hkept, _⟩ | ⟨r', hwritten, _, _, htable', _⟩
  · rw [hnone] at hr
    obtain ⟨row, hrow⟩ := Option.isSome_iff_exists.mp (hold hr)
    rcases hkept _ row hrow with hkept | ⟨_, hterm, _⟩
    · rw [hkept]
      rfl
    · have hrow_open := hopen row (List.mem_append_right _ (hs.ledger.row_committed _ row hrow))
        (CommandTable.findCommandById_commandId hrow)
      rw [hterm] at hrow_open
      cases hrow_open
  · rw [htable']
    split
    · rfl
    · next hne =>
        rw [hwritten] at hr
        rcases List.mem_cons.mp hr with rfl | hr
        · exact absurd rfl hne
        · exact hold hr

lemma tick (hs : Sound b) (h : OpenStored b) (htick : Tick cfg b b') : OpenStored b' := by
  rcases htick.serviceStep with ⟨event, hevent, rfl⟩ | hstep
  · cases workerTurn_effect b hevent with
    | rests htable hrows _ => exact h.same htable hrows
    | refused _ _ htable hrows => exact h.same htable hrows
    | executed hqueue _ htable hrows =>
        exact h.executed hs (by rw [hqueue]; exact List.mem_cons_self) htable hrows
  · exact h.same hstep.table (Ledger.committedRows_service hstep)

lemma restarted (h : OpenStored b) (hrestart : Restarted cfg b b') : OpenStored b' := by
  obtain ⟨written, hrecovery, hpast⟩ := hrestart.recovery
  have hrows := Ledger.committedRows_restarted hrestart hpast
  intro r hr hopen
  rw [hrows] at hr hopen
  rcases List.mem_append.mp hr with hnew | hold
  · rw [(hrecovery.uncertain r hnew).1]
    rfl
  · exact hrecovery.stays _ (h r hold fun s hs => hopen s (List.mem_append_right _ hs))

lemma blank : OpenStored .blank := fun _ hr => by cases hr

end OpenStored

end CnsServer
