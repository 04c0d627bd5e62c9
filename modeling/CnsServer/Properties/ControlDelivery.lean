/-
The delivery of control commands, over whole runs.

The message of a control command is handed to the device publisher once, over
all processes.  A publisher that refuses it makes the command fail; one that
takes it and reports an error later leaves the command uncertain, unless a
timeout of it was formed before the error was handled.

Two things can keep a formed `delivery_uncertain` from the table.  The store may
refuse it for good; and where the worker takes no more and the transition is
deferred, a timeout that the scan forms meanwhile takes its place.  Where neither
happens, `delivery_uncertain` is the outcome:

* `TimedOutFirst`: a timeout was formed before the error was handled;
* `Input.KeepsUncertain`, `Event.ReplacesUncertain`: the two things;
* `Settles`: the transition is on its way, or nothing of the command is left;
* `settles_of_reachable`: **a late error settles the command**;
* `control_delivered`: single call, refusal and late error, in every run.
-/
import CnsServer.Invariants.Deliveries
import CnsServer.Invariants.WaitingTransitions
import CnsServer.Runtime.Scenario

namespace CnsServer

open RuntimeBundle CommandStatus

/-! ### Conditions -/

/-- A timeout of the control command was formed before the error of its publication
was handled. -/
def TimedOutFirst (c : String) (events : List Event) : Prop :=
  ∃ l₁ record l₂, events = l₁ ++ .completed record false :: l₂ ∧ record.commandId = c ∧
    record.commandType = .control ∧ ∃ e ∈ l₂, e.FormsTimeout c

lemma TimedOutFirst.append {c : String} {events : List Event} (h : TimedOutFirst c events)
    (es : List Event) : TimedOutFirst c (es ++ events) := by
  obtain ⟨l₁, record, l₂, rfl, hrest⟩ := h
  exact ⟨es ++ l₁, record, l₂, (List.append_assoc ..).symm, hrest⟩

/-- The event forms a transition of the command that takes the place of a deferred
`delivery_uncertain`. -/
def Event.ReplacesUncertain (c : String) : Event → Prop
  | .formed task (some old) => task.commandId = c ∧ old.desired = .deliveryUncertain
  | _ => False

instance (c : String) : (e : Event) → Decidable (e.ReplacesUncertain c)
  | .formed _ (some _) => inferInstanceAs (Decidable (_ ∧ _))
  | .formed _ none | .created .. | .submitted .. | .databaseError .. | .published ..
  | .completed .. | .acked .. | .committed .. | .unconfirmed .. | .removed ..
  | .mqttAvailable .. | .deviceUpdated .. | .deviceAcked .. | .diagnosed .. | .informed .. =>
      inferInstanceAs (Decidable False)

/-- The task makes the pending command uncertain. -/
def CommandDatabaseTask.IsUncertain (c : String) : CommandDatabaseTask → Prop
  | .transitionCommand commandId expected desired _ =>
      commandId = c ∧ expected = .pending ∧ desired = .deliveryUncertain
  | _ => False

instance (c : String) : (task : CommandDatabaseTask) → Decidable (task.IsUncertain c)
  | .transitionCommand .. => inferInstanceAs (Decidable (_ ∧ _ ∧ _))
  | .findCommand .. | .findCommandById .. | .insertCommand .. | .recoverControlCommands ..
  | .cleanupCommands .. => inferInstanceAs (Decidable False)

/-- The store does not refuse, in this turn, to make the command uncertain. -/
def KeepsUncertain (c : String) (b : RuntimeBundle) : WorkerEvent → Prop
  | .runCommand (.failed _) => ∀ p ∈ b.commands.head?, ¬ p.2.IsUncertain c
  | _ => True

instance (c : String) (b : RuntimeBundle) : (event : WorkerEvent) →
    Decidable (KeepsUncertain c b event)
  | .runCommand (.failed _) =>
      inferInstanceAs (Decidable (∀ p ∈ b.commands.head?, ¬ p.2.IsUncertain c))
  | .runCommand .completed | .runCommand (.lost _) | .loseConnection | .reconnect _
  | .flushAndStop | .finish => inferInstanceAs (Decidable True)

/-- Nor in any turn the worker makes during the input. -/
def Input.KeepsUncertain (cfg : CommandServiceConfig) (c : String) (b : RuntimeBundle)
    (input : Input) : Prop :=
  ∀ p ∈ input.workerTurns cfg b, CnsServer.KeepsUncertain c p.1 p.2

instance (cfg : CommandServiceConfig) (c : String) (b : RuntimeBundle) (input : Input) :
    Decidable (input.KeepsUncertain cfg c b) :=
  inferInstanceAs (Decidable (∀ p ∈ input.workerTurns cfg b, CnsServer.KeepsUncertain c p.1 p.2))

/-! ### The way to the table -/

/-- Where the `delivery_uncertain` of the command is: stored, queued with no transition
of the command before it, or deferred with none queued; or nobody executes it any more,
because the worker has ended, or the process that formed it. -/
inductive Settling (b : RuntimeBundle) (c : String) : Prop
  | stored {r : CommandRecord} : r ∈ committedRows b.trace → r.commandId = c →
      r.status = .deliveryUncertain → Settling b c
  | queued {row : CommandRecord} {ahead behind : List (ℕ × CommandDatabaseTask)} {i : ℕ}
      {task : CommandDatabaseTask} : b.table.findCommandById c = some row →
      row.status = .pending → b.commands = ahead ++ (i, task) :: behind → task.IsUncertain c →
      (∀ p ∈ ahead, ¬ p.2.Moves c) → Settling b c
  | deferred {row : CommandRecord} {d : DeferredTransition} :
      b.table.findCommandById c = some row → row.status = .pending →
      b.deferredTransitions.lookup c = some d → d.task.toTask.IsUncertain c →
      (∀ p ∈ b.commands, ¬ p.2.Moves c) → Settling b c
  | stopped : b.workerStopped = true → Settling b c
  | gone : ¬ Ticket b c → Settling b c

/-- The command is pending or uncertain, and its `delivery_uncertain` is on its way as
far as it can be. -/
structure Settles (c : String) (b : RuntimeBundle) : Prop where
  rows : ∀ r ∈ committedRows b.trace, r.commandId = c →
    r.status = .pending ∨ r.status = .deliveryUncertain
  settling : Settling b c

/-- A transition that waits at the worker is a ticket of its command. -/
lemma ticket_of_queued {b : RuntimeBundle} (hw : Wellformed b) {c : String}
    {p : ℕ × CommandDatabaseTask} (hmem : p ∈ b.commands) (hmoves : p.2.Moves c) : Ticket b c := by
  obtain ⟨i, task⟩ := p
  obtain ⟨operation, hop, hmatch⟩ := hw.queue i task hmem
  cases task with
  | transitionCommand commandId expected desired update =>
      obtain ⟨hkind, r, hrecord, hid, _⟩ := hmatch
      exact .operation hop (.inl hkind) hrecord (hid.trans hmoves)
  | _ => exact hmoves.elim

/-- The transition, executed on the pending row. -/
lemma execute_uncertain {table : CommandTable} {task : CommandDatabaseTask} {c : String}
    {row : CommandRecord} (hrow : table.findCommandById c = some row)
    (hpending : row.status = .pending) (htask : task.IsUncertain c) :
    ∃ r, (execute table task).written = [r] ∧ r.commandId = c ∧
      r.status = .deliveryUncertain := by
  cases task with
  | transitionCommand commandId expected desired update =>
      obtain ⟨rfl, rfl, rfl⟩ := htask
      have hid : row.commandId = commandId := CommandTable.findCommandById_commandId hrow
      rcases execute_transitionCommand table commandId .pending .deliveryUncertain update with
        ⟨hforbidden, _⟩ | ⟨hmoved, _⟩ | ⟨r, table', hr, _, _, _, heq⟩
      · exact absurd hforbidden (by decide)
      · exact absurd hpending (hmoved row hrow)
      · rw [hrow] at hr
        cases hr
        rw [heq]
        exact ⟨row.transitioned .deliveryUncertain update, rfl, hid, rfl⟩
  | _ => exact htask.elim

namespace Settles

variable {cfg : CommandServiceConfig} {b b' : RuntimeBundle} {c : String}

/-- Nothing is written, and the transition stays where it is or gets on. -/
lemma same (h : Settles c b) (hrows : committedRows b'.trace = committedRows b.trace)
    (hsettling : Settling b' c) : Settles c b' where
  rows := by rw [hrows]; exact h.rows
  settling := hsettling

/-- Something is written, about other commands. -/
lemma others (h : Settles c b) {written : List CommandRecord}
    (hrows : committedRows b'.trace = written ++ committedRows b.trace)
    (hothers : ∀ r ∈ written, r.commandId ≠ c) (hsettling : Settling b' c) : Settles c b' where
  rows r hr hid := by
    rw [hrows] at hr
    rcases List.mem_append.mp hr with hnew | hold
    · exact absurd hid (hothers r hnew)
    · exact h.rows r hold hid
  settling := hsettling

/-- The transition is stored. -/
lemma settled (h : Settles c b) {r : CommandRecord}
    (hrows : committedRows b'.trace = [r] ++ committedRows b.trace) (hid : r.commandId = c)
    (hstatus : r.status = .deliveryUncertain) : Settles c b' where
  rows s hs hsid := by
    rw [hrows] at hs
    rcases List.mem_cons.mp hs with rfl | hold
    · exact .inr hstatus
    · exact h.rows s hold hsid
  settling := .stored (by rw [hrows]; exact List.mem_cons_self) hid hstatus

/-- A row that is uncertain is the last one of its command. -/
lemma of_stored (h : Settles c b) (hs' : Sound b') {r : CommandRecord}
    (hr : r ∈ committedRows b.trace) (hid : r.commandId = c)
    (hstatus : r.status = .deliveryUncertain) {written : List CommandRecord}
    (hrows : committedRows b'.trace = written ++ committedRows b.trace) : Settles c b' := by
  refine h.others hrows (fun s hs hsid => ?_) (.stored ?_ hid hstatus)
  · have hsorted := hs'.ledger.committed_sorted
    rw [hrows] at hsorted
    have hopen := ((List.pairwise_append.mp hsorted).2.2 s hs r hr (hsid.trans hid.symm)).2
    rw [hstatus] at hopen
    cases hopen
  · rw [hrows]
    exact List.mem_append_right _ hr

/-- The queued transition: the tasks before it leave the pending row alone, and it is the
first to move the row. -/
lemma queued (hs : Sound b) (h : Settles c b) {event : WorkerEvent}
    (heffect : WorkerEffect b event b') (hkeeps : KeepsUncertain c b event) {row : CommandRecord}
    {ahead behind : List (ℕ × CommandDatabaseTask)} {i : ℕ} {task : CommandDatabaseTask}
    (hrow : b.table.findCommandById c = some row) (hpending : row.status = .pending)
    (hqueue : b.commands = ahead ++ (i, task) :: behind) (htask : task.IsUncertain c)
    (hahead : ∀ p ∈ ahead, ¬ p.2.Moves c) : Settles c b' := by
  cases heffect with
  | rests htable hrows hcommands =>
      refine h.same hrows ?_
      rcases hcommands with hsame | hstopped
      · exact .queued (htable ▸ hrow) hpending (hsame.trans hqueue) htask hahead
      · exact .stopped hstopped
  | @refused j front message hfailed hfront htable hrows =>
      refine h.same hrows ?_
      rw [hqueue] at hfront
      cases ahead with
      | nil =>
          obtain ⟨rfl, _⟩ := Prod.mk.inj (List.cons.inj hfront).1
          subst hfailed
          exact absurd htask (hkeeps (i, task) (by rw [hqueue]; rfl))
      | cons p ahead =>
          exact .queued (htable ▸ hrow) hpending (List.cons.inj hfront).2.symm htask
            fun q hq => hahead q (List.mem_cons_of_mem _ hq)
  | @executed j front rest hfront hcommands htable hrows =>
      have hfirst : (j, front) ∈ b.commands := by rw [hfront]; exact List.mem_cons_self
      rw [hqueue] at hfront
      cases ahead with
      | nil =>
          obtain ⟨_, rfl⟩ := Prod.mk.inj (List.cons.inj hfront).1
          obtain ⟨r, hwritten, hrid, hstatus⟩ := execute_uncertain hrow hpending htask
          rw [hwritten] at hrows
          exact h.settled hrows hrid hstatus
      | cons p ahead =>
          obtain ⟨rfl, hrest⟩ := List.cons.inj hfront
          obtain ⟨hkept, hothers⟩ := execute_others (hs.isService hfirst) hrow
            (by rw [hpending]; rfl) (hahead _ List.mem_cons_self)
          refine h.others hrows hothers ?_
          rcases hcommands with hpopped | hsame
          · exact .queued (htable ▸ hkept) hpending (hpopped.trans hrest.symm) htask
              fun q hq => hahead q (List.mem_cons_of_mem _ hq)
          · exact .queued (htable ▸ hkept) hpending (hsame.trans hqueue) htask hahead

/-- The deferred transition: no other one of the command is queued, so the pending row
stays as it is. -/
lemma deferred (hs : Sound b) (h : Settles c b) {event : WorkerEvent}
    (heffect : WorkerEffect b event b') {row : CommandRecord} {d : DeferredTransition}
    (hrow : b.table.findCommandById c = some row) (hpending : row.status = .pending)
    (hdeferred : b'.deferredTransitions.lookup c = some d) (htask : d.task.toTask.IsUncertain c)
    (hqueue : ∀ p ∈ b.commands, ¬ p.2.Moves c) : Settles c b' := by
  cases heffect with
  | rests htable hrows hcommands =>
      refine h.same hrows ?_
      rcases hcommands with hsame | hstopped
      · exact .deferred (htable ▸ hrow) hpending hdeferred htask (hsame ▸ hqueue)
      · exact .stopped hstopped
  | refused _ hfront htable hrows =>
      refine h.same hrows (.deferred (htable ▸ hrow) hpending hdeferred htask fun p hp => ?_)
      exact hqueue p (by rw [hfront]; exact List.mem_cons_of_mem _ hp)
  | @executed j front rest hfront hcommands htable hrows =>
      have hfirst : (j, front) ∈ b.commands := by rw [hfront]; exact List.mem_cons_self
      obtain ⟨hkept, hothers⟩ := execute_others (hs.isService hfirst) hrow
        (by rw [hpending]; rfl) (hqueue _ hfirst)
      refine h.others hrows hothers
        (.deferred (htable ▸ hkept) hpending hdeferred htask fun p hp => hqueue p ?_)
      rcases hcommands with hpopped | hsame
      · rw [hfront]
        exact List.mem_cons_of_mem _ (hpopped ▸ hp)
      · exact hsame ▸ hp

/-- **A turn of the worker.** -/
lemma workerTurn (hs : Sound b) (h : Settles c b) {s : CommandRecord}
    (hmem : s ∈ committedRows b.trace) (hid : s.commandId = c) {event : WorkerEvent}
    (hevent : event.Admissible) (hkeeps : KeepsUncertain c b event)
    (hs' : Sound (b.workerTurn event)) : Settles c (b.workerTurn event) := by
  have heffect := workerTurn_effect b hevent
  cases h.settling with
  | stored hr hrid hstatus =>
      obtain ⟨written, hrows⟩ := heffect.committedRows
      exact h.of_stored hs' hr hrid hstatus hrows
  | queued hrow hpending hqueue htask hahead =>
      exact h.queued hs heffect hkeeps hrow hpending hqueue htask hahead
  | deferred hrow hpending hdeferred htask hqueue =>
      exact h.deferred hs heffect hrow hpending hdeferred htask hqueue
  | stopped hstopped =>
      obtain ⟨hstill, hrows⟩ := workerTurn_stopped hstopped event
      exact h.same hrows (.stopped hstill)
  | gone hticket =>
      -- the worker gives nobody a ticket
      have hgone : Settling (b.workerTurn event) c := by
        refine .gone fun hticket' => hticket ?_
        cases hticket' with
        | active hk => exact .active hk
        | operation hop hkind hr hid => exact .operation hop hkind hr hid
        | publication hk hr hid => exact .publication hk hr hid
        | deferred hd => exact .deferred hd
        | early he => exact .early he
      cases heffect with
      | rests _ hrows _ => exact h.same hrows hgone
      | refused _ _ _ hrows => exact h.same hrows hgone
      | executed hfront _ _ hrows =>
          refine h.others hrows (hs.written_others hfront hmem hid fun hmoves => hticket ?_) hgone
          exact ticket_of_queued hs.wellformed (by rw [hfront]; exact List.mem_cons_self) hmoves

/-- **A tick of the service**: a transition of the command that is formed now queues up
behind this one, or takes its place. -/
lemma service (hs : Sound b) (h : Settles c b) (htouched : ∃ e ∈ b.trace, e.Touches c)
    (htick : Tick cfg b b') (hstep : ServiceStep b b')
    (hstopped : b'.workerStopped = b.workerStopped)
    (heffect : WaitingEffect c b b') (hreplaced : ∀ e ∈ b'.log, ¬ e.ReplacesUncertain c) :
    Settles c b' := by
  have hrows := Ledger.committedRows_service hstep
  refine h.same hrows ?_
  cases h.settling with
  | stored hr hid hstatus => exact .stored (hrows ▸ hr) hid hstatus
  | @queued row ahead behind i task hrow hpending hqueue htask hahead =>
      obtain ⟨tasks, hcommands⟩ := heffect.commands
      refine @Settling.queued b' c row ahead (behind ++ tasks) i task (hstep.table ▸ hrow) hpending
        ?_ htask hahead
      rw [hcommands, hqueue, List.append_assoc, List.cons_append]
  | @deferred row d hrow hpending hdeferred htask hqueue =>
      have hrow' := hstep.table ▸ hrow
      cases heffect with
      | still hlookup hqueues _ =>
          obtain ⟨tasks, hcommands, htasks⟩ := hqueues
          refine .deferred hrow' hpending (hlookup.trans hdeferred) htask fun p hp => ?_
          rw [hcommands] at hp
          exact (List.mem_append.mp hp).elim (hqueue p) (htasks p)
      | @formed context task hid hformed _ =>
          have hold : b.replaced c = some d.task := by rw [replaced, hdeferred]; rfl
          rw [hold] at hformed
          exact absurd ⟨hid, htask.2.2⟩ (hreplaced _ hformed)
      | @retried d' hlookup hjoins =>
          rw [hdeferred] at hlookup
          cases hlookup
          cases hjoins with
          | queued hcommands => exact .queued hrow' hpending hcommands htask hqueue
          | deferred hcommands hlookup' =>
              exact .deferred hrow' hpending hlookup' htask (hcommands ▸ hqueue)
  | stopped h => exact .stopped (hstopped.trans h)
  | gone hticket =>
      refine .gone fun hticket' => ?_
      rcases (htick.touch hs.wellformed).tickets c hticket' with hold | hborn
      · exact hticket hold
      · obtain ⟨i, operation, own, _, _, hop, hkind, hrecord, rfl, _⟩ := hborn
        obtain ⟨e, he, htouches⟩ := htouched
        exact (hs.lifecycle.unborn i operation own hop hkind hrecord).2 e he htouches

/-- **A restart**: nothing of a control command is left in the service. -/
lemma restarted (h : Settles c b) (hs' : Sound b')
    (hcontrol : ∀ m ∈ committedRows b'.trace, m.commandId = c → m.commandType = .control)
    (hrestart : Restarted cfg b b') : Settles c b' := by
  obtain ⟨written, hrecovery, hpast⟩ := hrestart.recovery
  have hrows := Ledger.committedRows_restarted hrestart hpast
  refine ⟨fun r hr hid => ?_, .gone fun hticket => ?_⟩
  · rw [hrows] at hr
    rcases List.mem_append.mp hr with hnew | hold
    · exact .inr (hrecovery.uncertain r hnew).2.2.1
    · exact h.rows r hold hid
  · cases hticket with
    | active hk =>
        obtain ⟨record, _, hid, htype, _, hrow, _⟩ := hrestart.activeCommands c _ hk
        rw [hcontrol record (hs'.ledger.row_committed c record hrow) hid] at htype
        cases htype
    | operation hop =>
        rw [hrestart.operations] at hop
        cases hop
    | publication hk =>
        rw [hrestart.publications] at hk
        cases hk
    | deferred hd =>
        rw [hrestart.deferredTransitions] at hd
        cases hd
    | early he =>
        rw [hrestart.earlyDeviceAcks] at he
        cases he

end Settles

/-! ### The late error -/

section Start

variable {cfg : CommandServiceConfig} {b b' : RuntimeBundle} {c : String}

/-- Before the error of a publication is handled, no transition of the command has been
asked for, unless a timeout was formed. -/
lemma Delivery.unasked (h : Delivery cfg b)
    (hcontrol : ∀ m ∈ committedRows b.trace, m.commandId = c → m.commandType = .control)
    (htaken : publisherAnswers c b.trace = [true]) (hnone : completions c b.trace = [])
    (htimeout : ∀ e ∈ b.trace, ¬ e.FormsTimeout c) {d : CommandRecord}
    {task : TransitionCommandTask} (hasked : Asked b.trace d task) : task.commandId ≠ c := by
  intro hid
  cases controlOutcome_of_asked hasked hid hcontrol with
  | refused hmem _ =>
      rw [htaken] at hmem
      cases List.mem_singleton.mp hmem
  | dispatched hmem _ => rw [hnone] at hmem; cases hmem
  | uncertain hmem _ => rw [hnone] at hmem; cases hmem
  | @acknowledged m hm hmid hdispatched _ =>
      rcases rows_of_undispatched h hcontrol (by rw [htaken]; exact List.mem_cons_self)
        (by rw [hnone]; exact List.not_mem_nil) m hm hmid with h' | h' | ⟨h', _⟩ <;>
          rw [h'] at hdispatched <;> rcases hdispatched with h'' | h'' <;> cases h''
  | timeout he hforms _ => exact htimeout _ he hforms

/-- **The error of a publication forms the transition to `delivery_uncertain`**, and no
other one of the command is there. -/
lemma Settles.start (h : Delivery cfg b) (hstored : OpenStored b) (hstep : ServiceStep b b')
    {token : ℕ} {context : RequestContext} {record : CommandRecord}
    {now : TimePoint} (hfound : b.publications.lookup token = some context)
    (hrecord : context.record = some record) (htype : record.commandType = .control)
    {cfg' : CommandServiceConfig} (hb' : b' = b.handleCompletion cfg' ⟨token, false⟩ now)
    (hnone : completions record.commandId b.trace = [])
    (htimeout : ∀ e ∈ b.trace, ¬ e.FormsTimeout record.commandId) :
    Settles record.commandId b' := by
  have hs := h.traced.sound
  have hrow := h.traced.provenance.publications token context record hfound hrecord
  have hcontrol := h.control hrow rfl htype
  obtain ⟨topic, payload, hpublished⟩ := h.messages.outstanding token context record hfound hrecord
  have hmem : true ∈ publisherAnswers record.commandId b.trace :=
    mem_publisherAnswers.mpr ⟨token, topic, payload, record, hpublished, rfl, htype⟩
  have htaken := eq_singleton_of_mem (length_publisherAnswers h.sentOnce record.commandId) hmem
  have hrows := Ledger.committedRows_service hstep
  have hversions : ∀ r ∈ committedRows b.trace, r.commandId = record.commandId →
      r.status = .pending ∨ r.status = .deliveryUncertain := by
    intro r hr hid
    rcases rows_of_undispatched h hcontrol hmem (by rw [hnone]; exact List.not_mem_nil) r hr
      hid with
      hpending | huncertain | ⟨_, e, he, hforms⟩
    · exact .inl hpending
    · exact .inr huncertain
    · exact absurd hforms (htimeout e he)
  refine ⟨by rw [hrows]; exact hversions, ?_⟩
  by_cases huncertain : ∃ r ∈ committedRows b.trace, r.commandId = record.commandId ∧
      r.status = .deliveryUncertain
  · obtain ⟨r, hr, hid, hstatus⟩ := huncertain
    exact .stored (hrows ▸ hr) hid hstatus
  -- otherwise the row is pending, as it was when the message was sent
  · have hpending : ∀ r ∈ committedRows b.trace, r.commandId = record.commandId →
        r.status = .pending := fun r hr hid =>
      (hversions r hr hid).resolve_right fun hstatus => huncertain ⟨r, hr, hid, hstatus⟩
    obtain ⟨row, hthere⟩ := Option.isSome_iff_exists.mp
      (hstored record hrow fun r hr hid => by rw [hpending r hr hid]; rfl)
    have hrowPending := hpending row (hs.ledger.row_committed _ row hthere)
      (CommandTable.findCommandById_commandId hthere)
    have hqueue : ∀ p ∈ b.commands, ¬ p.2.Moves record.commandId := by
      rintro ⟨i, task⟩ hp hmoves
      obtain ⟨operation, hop, hmatch⟩ := hs.wellformed.queue i task hp
      cases task with
      | transitionCommand commandId expected desired update =>
          obtain ⟨_, d, hd, _⟩ := hmatch
          exact h.unasked hcontrol htaken hnone htimeout (h.traced.provenance.queue i
            ⟨commandId, expected, desired, update⟩ operation d hp hop hd) hmoves
      | _ => exact hmoves.elim
    have hcontext : context.commandType = .control := by
      obtain ⟨r, hopen, _⟩ := hs.wellformed.publications token context hfound
      rw [hopen.commandType, ← hopen.unique hrecord, htype]
    have htask : (completeTask record context.commandType false now).toTask.IsUncertain
        record.commandId := by
      refine ⟨rfl, hpending record hrow rfl, ?_⟩
      rw [hcontext]
      rfl
    rcases @handleCompletion_cases cfg' b ⟨token, false⟩ context now hfound with
      ⟨hno, _⟩ | ⟨r, hr, ⟨htrue, _⟩ | ⟨_, heq⟩⟩
    · rw [hrecord] at hno
      cases hno
    · cases htrue
    · rw [hrecord] at hr
      cases hr
      rw [heq] at hb'
      rcases submitTransitionOrDefer_cases cfg' (b.completionTaken token record false)
        { context with record := some (publishCompleted record context.commandType false now) }
        (completeTask record context.commandType false now) with hsubmit | hsubmit
      · have hb' := hb'.trans hsubmit
        exact .queued (hstep.table ▸ hthere) hrowPending (by rw [hb']; rfl) htask hqueue
      · have hb' := hb'.trans hsubmit
        exact .deferred (hstep.table ▸ hthere) hrowPending
          (by rw [hb']; exact Map.lookup_insert_some.mpr (.inl ⟨rfl, rfl⟩)) htask
          (by rw [hb']; exact hqueue)

end Start

/-! ### Runs -/

/-- A late error has settled the command, unless a timeout of it was formed before, or has
taken the place of the deferred transition. -/
structure Uncertain (cfg : CommandServiceConfig) (c : String) (b : RuntimeBundle) : Prop where
  delivery : Delivery cfg b
  openStored : OpenStored b
  settles : false ∈ completions c b.trace → ¬ TimedOutFirst c b.trace →
    (∀ e ∈ b.trace, ¬ e.ReplacesUncertain c) → Settles c b

namespace Uncertain

variable {cfg : CommandServiceConfig} {b b' : RuntimeBundle} {c : String}

/-- The error is handled in this tick. -/
lemma start (h : Uncertain cfg c b) (htick : Tick cfg b b')
    (hnew : false ∉ completions c b.trace) (herror : false ∈ completions c b'.trace)
    (htimeout : ¬ TimedOutFirst c b'.trace) : Settles c b' := by
  have hs := h.delivery.traced.sound
  have h' := h.delivery.tick htick
  have hpast : b'.past = b.past := (htick.touch hs.wellformed).past
  have honce := h'.completedOnce c
  have hunsent : ∀ {es : List Event}, (∀ e ∈ es, e.IsUnsent) → b'.log ≠ es ++ b.log := by
    intro es hes hlog
    rw [RuntimeBundle.trace, hlog, hpast, List.append_assoc, completions_append,
      completions_unsent hes] at herror
    exact hnew herror
  cases htick.publications hs with
  | still _ hgrown =>
      obtain ⟨es, hlog, hes⟩ := hgrown
      exact absurd hlog (hunsent hes)
  | @sent _ record token topic payload accepted es _ _ _ hlog hes =>
      rw [RuntimeBundle.trace, hlog, hpast, List.append_assoc, completions_append,
        completions_unsent hes] at herror
      exact absurd herror hnew
  | @completed context record token result es hfound hrecord hsub hlog hes hcall =>
      have htrace : b'.trace = es ++ .completed record result :: b.trace := by
        rw [RuntimeBundle.trace, hlog, hpast, List.append_assoc]
        rfl
      rw [htrace, completions_append, completions_unsent hes, List.nil_append,
        completions_cons] at herror honce
      obtain ⟨cfg', now, hb'⟩ := hcall
      obtain ⟨rfl, htype⟩ : record.commandId = c ∧ record.commandType = .control := by
        by_contra hother
        rw [if_neg hother] at herror
        exact hnew herror
      rw [if_pos ⟨rfl, htype⟩] at herror honce
      have hnone : completions record.commandId b.trace = [] :=
        List.eq_nil_of_length_eq_zero (by simpa using honce)
      rw [hnone, List.append_nil, List.mem_singleton] at herror
      subst herror
      rcases htick.serviceStep with ⟨event, _, heq⟩ | hstep
      · -- the worker takes no completion
        exact ((hsub token context (by rw [heq]; exact hfound)).1 rfl).elim
      · exact Settles.start h.delivery h.openStored hstep hfound hrecord htype hb' hnone
          fun e he hforms => htimeout ⟨es, record, b.trace, htrace, rfl, htype, e, he, hforms⟩

lemma tick (h : Uncertain cfg c b) (htick : TickIf (.onTurns (KeepsUncertain c)) cfg b b') :
    Uncertain cfg c b' := by
  have hs := h.delivery.traced.sound
  have htick' : Tick cfg b b' := htick.tick
  refine ⟨h.delivery.tick htick', h.openStored.tick hs htick',
    fun herror htimeout hreplaced => ?_⟩
  obtain ⟨es, htrace⟩ := htick'.trace_suffix
  by_cases hold : false ∈ completions c b.trace
  · have hsettles := h.settles hold (fun hfirst => htimeout (htrace ▸ hfirst.append es))
      fun e he => hreplaced e (htrace ▸ List.mem_append_right es he)
    obtain ⟨sent, hcompleted, hid, _⟩ := mem_completions.mp hold
    obtain ⟨token, topic, payload, hpublished⟩ :=
      h.delivery.messages.completed sent false hcompleted
    have hrow := (h.delivery.messages.sent token topic payload sent true hpublished).2
    have hworker : ∀ event : WorkerEvent, event.Admissible → KeepsUncertain c b event →
        b' = b.workerTurn event → Settles c b' := by
      rintro event hevent hkeeps rfl
      exact hsettles.workerTurn hs hrow hid hevent hkeeps (hs.tick htick')
    rcases htick.serviceStep with ⟨event, hevent, hkeeps, heq⟩ | hstep
    · exact hworker event hevent hkeeps heq
    · rcases htick.waiting hs.wellformed c with ⟨event, hevent, hkeeps, heq⟩ | ⟨hstopped, heffect⟩
      · exact hworker event hevent hkeeps heq
      · exact hsettles.service hs ⟨_, hcompleted, hid⟩ htick' hstep hstopped heffect
          fun e he => hreplaced e (List.mem_append_left _ he)
  · exact h.start htick' hold herror htimeout

lemma restarted (h : Uncertain cfg c b) (hrestart : Restarted cfg b b') : Uncertain cfg c b' := by
  have h' := h.delivery.restarted hrestart
  refine ⟨h', h.openStored.restarted hrestart, fun herror htimeout hreplaced => ?_⟩
  obtain ⟨sent, hcompleted, hid, htype⟩ := mem_completions.mp herror
  obtain ⟨token, topic, payload, hpublished⟩ := h'.messages.completed sent false hcompleted
  have hrow := (h'.messages.sent token topic payload sent true hpublished).2
  obtain ⟨written, _, hpast⟩ := hrestart.recovery
  have htrace : b'.trace = (b'.log ++ written.map .committed) ++ b.trace := by
    rw [RuntimeBundle.trace, hpast, List.append_assoc]
  refine (h.settles (completions_restarted hrestart ▸ herror) (fun hfirst => htimeout ?_)
    fun e he => hreplaced e ?_).restarted h'.traced.sound (h'.control hrow hid htype) hrestart
  · rw [htrace]
    exact hfirst.append _
  · rw [htrace]
    exact List.mem_append_right _ he

lemma blank : Uncertain cfg c .blank :=
  ⟨.blank, .blank, fun herror => by cases herror⟩

end Uncertain

/-- **A late error settles the command**, in the runs whose worker turns refuse no
`delivery_uncertain` of it. -/
theorem settles_of_reachable {cfg : CommandServiceConfig} {c : String} {b : RuntimeBundle}
    (hb : ((routeService cfg).restrict (Input.KeepsUncertain cfg c)).Reachable b) :
    Uncertain cfg c b :=
  @restricted_of_turns cfg (Input.KeepsUncertain cfg c) (.onTurns (CnsServer.KeepsUncertain c))
    (fun _ _ h => Input.meets_onTurns h) _ Uncertain.blank
    (fun _ _ h hrestart _ => h.restarted hrestart) (fun _ _ h htick _ => h.tick htick) b hb

/-- **Control commands are delivered once**: every message goes to the topic of
its type, the device publisher is called once at most for a control command, and the
command fails with `mqtt_publish_failed` only if it refused that message.

If the publisher took the message and reported an error later, the command is pending until
it ends as `delivery_uncertain`, or as `timeout`.  In the runs in which the store refuses no
`delivery_uncertain` of the command for good, and no deferred one is replaced, it ends as
`timeout` only if the timeout was formed before the error was handled. -/
theorem control_delivered {cfg : CommandServiceConfig} {b : RuntimeBundle}
    (hb : (routeService cfg).Reachable b) (c : String) :
    (∀ token topic payload record accepted,
      .published token topic payload record accepted ∈ b.trace →
        MessageOf cfg record topic payload) ∧
    (publisherAnswers c b.trace).length ≤ 1 ∧
    ∀ r ∈ committedRows b.trace, r.commandId = c → r.commandType = .control →
      (r.status = .failed → r.errorCode = some "mqtt_publish_failed" →
        publisherAnswers c b.trace = [false]) ∧
      (false ∈ completions c b.trace → publisherAnswers c b.trace = [true] ∧
        (r.status = .pending ∨ r.status = .deliveryUncertain ∨ r.status = .timeout) ∧
        (((routeService cfg).restrict (Input.KeepsUncertain cfg c)).Reachable b →
          (∀ e ∈ b.trace, ¬ e.ReplacesUncertain c) → r.status = .timeout →
            TimedOutFirst c b.trace)) := by
  have h := delivery_of_reachable hb
  have honce := length_publisherAnswers h.sentOnce c
  refine ⟨fun token topic payload record accepted hmem =>
    (h.messages.sent token topic payload record accepted hmem).1, honce,
    fun r hr hid htype => ⟨fun hfailed hcode => ?_, fun herror => ?_⟩⟩
  · exact eq_singleton_of_mem honce
      (refused_of_failed h (h.control hr hid htype) r hr hid hfailed hcode)
  · obtain ⟨htaken, hrows⟩ := h.uncertain_of_error (h.control hr hid htype) herror
    refine ⟨htaken, (hrows r hr hid).imp id (Or.imp id (·.1)), fun hkept hreplaced htimeout => ?_⟩
    by_contra hfirst
    rcases ((settles_of_reachable hkept).settles herror hfirst hreplaced).rows r hr hid with
      hstatus | hstatus <;> rw [htimeout] at hstatus <;> cases hstatus

/-- The message is out, and the command is past its deadline when the device is
heard of again; the error of the publication comes last. -/
def Sample.overtaken : List PlainInput :=
  Sample.submitted .control true ++
    [.updateDevice true (Sample.device .online) true 40000000000] ++
      Sample.answered true 40000000000 ++
    [.pushPublishCompletion ⟨1, false⟩, .processNext PlainInput.unusedUuid true 41000000000] ++
      Sample.answered true 41000000000 ++ Sample.answered true 41000000000

/-- The publisher takes the message of a control command and reports an error
later: the row goes from `pending` to `delivery_uncertain`, and to `timeout` in the run
in which the timeout comes first. -/
theorem control_delivered_error :
    completions Sample.commandId
        (play Sample.config Sample.started (Sample.dispatched .control false)).trace = [false] ∧
      (committedRows (play Sample.config Sample.started
        (Sample.dispatched .control false)).trace).map
        (fun r => (r.commandId, r.commandType, r.status)) =
          [(Sample.commandId, .control, .deliveryUncertain),
            (Sample.commandId, .control, .pending)] ∧
      publisherAnswers Sample.commandId
        (play Sample.config Sample.started (Sample.dispatched .control false)).trace = [true] ∧
      TimedOutFirst Sample.commandId
        (play Sample.config Sample.started Sample.overtaken).trace := by
  have hkept : ∀ inputs, admittedAll Sample.config (fun b input => decide
      ((input.toInput b).KeepsUncertain Sample.config Sample.commandId b)) Sample.started inputs =
        true → ((routeService Sample.config).restrict (Input.KeepsUncertain Sample.config
          Sample.commandId)).Reachable (play Sample.config Sample.started inputs) :=
    fun _ h => reachable_of_admitted (fun _ _ h => of_decide_eq_true h)
      (reachable_firstStart _ _ _ _) h
  -- what the theorem says of a row with the given status
  have hlate : ∀ inputs status, ((routeService Sample.config).restrict (Input.KeepsUncertain
      Sample.config Sample.commandId)).Reachable (play Sample.config Sample.started inputs) →
      completions Sample.commandId (play Sample.config Sample.started inputs).trace = [false] →
      (Sample.commandId, CommandType.control, status) ∈
        (committedRows (play Sample.config Sample.started inputs).trace).map
          (fun r => (r.commandId, r.commandType, r.status)) →
      publisherAnswers Sample.commandId (play Sample.config Sample.started inputs).trace = [true] ∧
        ((∀ e ∈ (play Sample.config Sample.started inputs).trace,
          ¬ e.ReplacesUncertain Sample.commandId) → status = .timeout →
            TimedOutFirst Sample.commandId (play Sample.config Sample.started inputs).trace) := by
    intro inputs status hb herror hrow
    obtain ⟨r, hr, heq⟩ := List.mem_map.mp hrow
    obtain ⟨hid, htype, hstatus⟩ : r.commandId = Sample.commandId ∧ r.commandType = .control ∧
        r.status = status := by simpa using heq
    have hlate := ((control_delivered hb.of_restrict Sample.commandId).2.2 r hr hid htype).2
      (by rw [herror]; exact List.mem_cons_self)
    exact ⟨hlate.1, fun hreplaced htimeout => hlate.2.2 hb hreplaced (hstatus.trans htimeout)⟩
  have herror : completions Sample.commandId
      (play Sample.config Sample.started (Sample.dispatched .control false)).trace = [false] := by
    decide +kernel
  have hrows : (committedRows
      (play Sample.config Sample.started (Sample.dispatched .control false)).trace).map
        (fun r => (r.commandId, r.commandType, r.status)) =
          [(Sample.commandId, .control, .deliveryUncertain),
            (Sample.commandId, .control, .pending)] := by decide +kernel
  refine ⟨herror, hrows, ?_, ?_⟩
  · exact (hlate (Sample.dispatched .control false) .pending (hkept _ (by decide +kernel)) herror
      (by rw [hrows]; exact List.mem_cons_of_mem _ List.mem_cons_self)).1
  · exact (hlate Sample.overtaken .timeout (hkept _ (by decide +kernel)) (by decide +kernel)
      (by decide +kernel)).2 (by decide +kernel) rfl

/-- **A late error does not always leave the command uncertain**: the deadline may
have passed before. -/
theorem outcome_timeout_overtaken :
    (routeService Sample.config).Reachable
        (play Sample.config Sample.started Sample.overtaken) ∧
      publisherAnswers Sample.commandId
        (play Sample.config Sample.started Sample.overtaken).trace = [true] ∧
      completions Sample.commandId
        (play Sample.config Sample.started Sample.overtaken).trace = [false] ∧
      ((play Sample.config Sample.started Sample.overtaken).table.findCommandById
        Sample.commandId).map (fun r => (r.commandType, r.status)) =
          some (.control, .timeout) := by
  refine ⟨reachable_of_played (reachable_firstStart Sample.config (fun _ _ => True) Sample.sources
    (DeviceRegistry.empty.put (Sample.device .online))).of_restrict (by decide +kernel), ?_, ?_, ?_⟩
  · decide +kernel
  · decide +kernel
  · decide +kernel

/-- A service that has room for one command, and cleans up every second. -/
def Sample.singleInflight : CommandServiceConfig :=
  { Sample.config with maxInflightCommands := 1, cleanupInterval := 1000000000 }

/-- The connection to the database is lost, and a cleanup fills the queue of the worker,
when the error of the publication is handled; the deadline passes after it is empty. -/
def Sample.displaced : List PlainInput :=
  [.finishReady true 0] ++ Sample.submitted .control true ++
    [.worker .loseConnection, .finishReady true 20000000000,
      .pushPublishCompletion ⟨1, false⟩, .processNext PlainInput.unusedUuid true 21000000000,
      .worker (.reconnect .connected)] ++ Sample.answered true 22000000000 ++
    [.updateDevice true (Sample.device .online) true 40000000000] ++
      Sample.answered true 40000000000

/-- **A deferred `delivery_uncertain` can be lost**: the timeout that the scan forms later
takes its place, and is stored. -/
theorem outcome_uncertain_replaced :
    ((routeService Sample.singleInflight).restrict (Input.KeepsUncertain Sample.singleInflight
        Sample.commandId)).Reachable (play Sample.singleInflight Sample.started Sample.displaced) ∧
      completions Sample.commandId
        (play Sample.singleInflight Sample.started Sample.displaced).trace = [false] ∧
      (∃ e ∈ (play Sample.singleInflight Sample.started Sample.displaced).trace,
        e.ReplacesUncertain Sample.commandId) ∧
      ((play Sample.singleInflight Sample.started Sample.displaced).table.findCommandById
        Sample.commandId).map (fun r => (r.commandType, r.status)) =
          some (.control, .timeout) := by
  refine ⟨?_, by decide +kernel, by decide +kernel, by decide +kernel⟩
  exact @reachable_of_admitted Sample.singleInflight
    (Input.KeepsUncertain Sample.singleInflight Sample.commandId)
    (fun b input => decide
      ((input.toInput b).KeepsUncertain Sample.singleInflight Sample.commandId b))
    (fun _ _ h => of_decide_eq_true h) _ (reachable_firstStart _ _ _ _) _ (by decide +kernel)

end CnsServer
