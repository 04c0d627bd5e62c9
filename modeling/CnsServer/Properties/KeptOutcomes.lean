/-
Outcomes that are on their way to the database.

When a transition that ends a command has been formed, it stays an operation or a
deferred transition until the row is terminal.  There are two ways out of this: a
transition that does not end the command takes the place of a deferred one that does,
and the search after its conflict is refused by a full worker queue.

* `Ending`: a transition that ends the command is under way;
* `Event.Overwrites`, `Input.DropsOutcome`: the two ways out;
* `Carries`, `Tick.carries`: a tick keeps the outcome, or the row is terminal;
* `outcomes_kept`: so does every run without the two.
-/
import CnsServer.Invariants.Provenance
import CnsServer.Invariants.WaitingTransitions
import CnsServer.Runtime.Scenario

namespace CnsServer

open RuntimeBundle CommandStatus

/-! ### Outcomes -/

/-- A transition that ends the command is under way, or the search after its conflict. -/
def Ending (b : RuntimeBundle) (c : String) : Prop :=
  ∃ context d, UnderWay b c context ∧ context.record = some d ∧ d.status.isTerminal = true

/-- A terminal version of the row has been committed. -/
def RowEnded (b : RuntimeBundle) (c : String) : Prop :=
  ∃ r ∈ committedRows b.trace, r.commandId = c ∧ r.status.isTerminal = true

/-- The event forms a transition that ends the command. -/
def Event.Ends (c : String) : Event → Prop
  | .formed task _ => task.commandId = c ∧ task.desired.isTerminal = true
  | _ => False

/-- A transition that does not end the command is formed while one that does is
deferred. -/
def Event.Overwrites (c : String) : Event → Prop
  | .formed task (some old) =>
      task.commandId = c ∧ task.desired.isTerminal = false ∧ old.desired.isTerminal = true
  | _ => False

instance (c : String) : (e : Event) → Decidable (e.Ends c)
  | .formed .. => inferInstanceAs (Decidable (_ ∧ _))
  | .created .. | .submitted .. | .databaseError .. | .published ..
  | .completed .. | .acked .. | .committed .. | .unconfirmed .. | .removed ..
  | .mqttAvailable .. | .deviceUpdated .. | .deviceAcked .. | .diagnosed .. | .informed .. =>
      inferInstanceAs (Decidable False)

instance (c : String) : (e : Event) → Decidable (e.Overwrites c)
  | .formed _ (some _) => inferInstanceAs (Decidable (_ ∧ _))
  | .formed _ none | .created .. | .submitted .. | .databaseError .. | .published ..
  | .completed .. | .acked .. | .committed .. | .unconfirmed .. | .removed ..
  | .mqttAvailable .. | .deviceUpdated .. | .deviceAcked .. | .diagnosed .. | .informed .. =>
      inferInstanceAs (Decidable False)

/-- The next result is the conflict of a transition that ends the command, its row is
open, and the worker takes no search for it. -/
def Input.DropsOutcome (cfg : CommandServiceConfig) (c : String) (b : RuntimeBundle) :
    Input → Prop
  | .processNext _ _ => ∃ i error operation desired rest,
      b.databaseResults = ⟨i, .error error⟩ :: rest ∧ b.operations.lookup i = some operation ∧
        operation.kind = .transition ∧ isStateChangedError error.message = true ∧
        operation.context.record = some desired ∧ desired.commandId = c ∧
        desired.status.isTerminal = true ∧
        (∃ row, b.table.findCommandById c = some row ∧ row.status.isTerminal = false) ∧
        b.toPostgresWorker.submitCommand cfg.maxInflightCommands b.nextOperationId
          (.findCommandById c) = none
  | _ => False

lemma Event.IsQuiet.not_ends {e : Event} (h : e.IsQuiet) (c : String) : ¬ e.Ends c := by
  cases e with
  | formed task replaced => exact h.elim
  | _ => exact id

/-! ### Changes that keep the outcome of the command -/

/-- The outcome of the command stays, and a new one is under way. -/
structure Carries (c : String) (a b : RuntimeBundle) : Prop where
  ending : Ending a c → Ending b c
  ended : ∀ e ∈ b.log, e.Ends c → e ∈ a.log ∨ Ending b c

namespace Carries

variable {cfg : CommandServiceConfig} {a b b' : RuntimeBundle} {c : String}

lemma refl (b : RuntimeBundle) : Carries c b b := ⟨id, fun _ he _ => .inl he⟩

/-- The outcome stays, and no new one is formed. -/
lemma kept (h : Carries c a b) (hkept : Ending b c → Ending b' c)
    (hlog : Grown (fun e => ¬ e.Ends c) b b') : Carries c a b' := by
  refine ⟨fun ha => hkept (h.ending ha), fun e he hends => ?_⟩
  obtain ⟨es, hes, hno⟩ := hlog
  rw [hes] at he
  rcases List.mem_append.mp he with hnew | hold
  · exact absurd hends (hno e hnew)
  · exact (h.ended e hold hends).imp id hkept

lemma same (h : Carries c a b) (hops : ∀ i, b'.operations.lookup i = b.operations.lookup i)
    (hdeferred : b'.deferredTransitions.lookup c = b.deferredTransitions.lookup c)
    (hlog : Grown (fun e => ¬ e.Ends c) b b') : Carries c a b' :=
  h.kept (fun ⟨context, d, hunder, hrest⟩ => ⟨context, d, hunder.same hops hdeferred, hrest⟩) hlog

lemma submit (h : Carries c a b) (hb : Numbered b) (kind : OperationKind)
    (context : RequestContext) (task : CommandDatabaseTask) :
    Carries c a (b.submit cfg kind context task).2 := by
  refine h.kept (fun ⟨k, d, hunder, hrest⟩ => ⟨k, d, hunder.submit hb kind context task, hrest⟩) ?_
  rcases submit_cases cfg b kind context task with heq | heq <;> rw [heq] <;>
    exact ⟨[_], rfl, by simp [Event.Ends]⟩

/-- **A transition of the command**: it is the outcome, or it leaves the outcome that is
an operation; a deferred one it would overwrite. -/
lemma form (h : Carries c a b) (hb : Numbered b)
    (hdeferred : ∀ deferred, b.deferredTransitions.lookup c = some deferred →
      ∀ d, deferred.context.record = some d → d.status = deferred.task.desired)
    {context : RequestContext} {task : TransitionCommandTask} {d : CommandRecord}
    (hrecord : context.record = some d) (hid : d.commandId = task.commandId)
    (hstatus : d.status = task.desired)
    (hno : ∀ e ∈ (b.submitTransitionOrDefer cfg context task).log, ¬ e.Overwrites c) :
    Carries c a (b.submitTransitionOrDefer cfg context task) := by
  have hformed : .formed task (b.replaced task.commandId) ∈
      (b.submitTransitionOrDefer cfg context task).log := by
    rcases submitTransitionOrDefer_cases cfg b context task with heq | heq <;> rw [heq]
    · exact List.mem_cons_of_mem _ List.mem_cons_self
    · exact List.mem_cons_of_mem _ List.mem_cons_self
  have hkept : Ending b c → Ending (b.submitTransitionOrDefer cfg context task) c := by
    rintro ⟨k, d', hunder, hrecord', hterm'⟩
    by_cases hc : task.commandId = c
    · cases hterm : task.desired.isTerminal with
      | true =>
          exact ⟨context, d, hc ▸ UnderWay.form_self b hrecord hid, hrecord, hstatus ▸ hterm⟩
      | false =>
          cases hunder with
          | operation hop hfor =>
              refine ⟨_, d', ?_, hrecord', hterm'⟩
              rcases submitTransitionOrDefer_cases cfg b context task with heq | heq <;> rw [heq]
              · exact .operation (Map.lookup_insert_some.mpr (.inr ⟨(hb _ _ hop).ne, hop⟩)) hfor
              · exact .operation hop hfor
          | deferred hlookup =>
              refine absurd ?_ (hno _ hformed)
              rw [replaced, hc, hlookup]
              exact ⟨hc, hterm, hdeferred _ hlookup d' hrecord' ▸ hterm'⟩
    · exact ⟨k, d', hunder.form_other hb hc, hrecord', hterm'⟩
  refine ⟨fun ha => hkept (h.ending ha), fun e he hends => ?_⟩
  have hcases : e ∈ b.log ∨ e = .formed task (b.replaced task.commandId) := by
    rcases submitTransitionOrDefer_cases cfg b context task with heq | heq <;> rw [heq] at he
    · rcases List.mem_cons.mp he with rfl | he
      · exact hends.elim
      · exact (List.mem_cons.mp he).symm
    · rcases List.mem_cons.mp he with rfl | he
      · exact hends.elim
      · exact (List.mem_cons.mp he).symm
  rcases hcases with hold | rfl
  · exact (h.ended e hold hends).imp id hkept
  · exact .inr ⟨context, d, hends.1 ▸ UnderWay.form_self b hrecord hid, hrecord,
      hstatus ▸ hends.2⟩

lemma publish (h : Carries c a b) (hb : Numbered b)
    (hdeferred : ∀ deferred, b.deferredTransitions.lookup c = some deferred →
      ∀ d, deferred.context.record = some d → d.status = deferred.task.desired)
    {answers : Answers} {context : RequestContext} {now : TimePoint}
    (hno : ∀ e ∈ (b.publishRecord cfg answers context now).log, ¬ e.Overwrites c) :
    Carries c a (b.publishRecord cfg answers context now) := by
  rcases publishRecord_cases cfg answers b context now with
    heq | ⟨record, deviceId, payload, _, _, _, _, heq | heq⟩ <;> rw [heq] at hno ⊢
  · exact h
  · exact h.same (fun _ => rfl) rfl ⟨[_], rfl, by simp [Event.Ends]⟩
  · have hunsent : Carries c a (b.unsent cfg context record deviceId payload) :=
      h.same (fun _ => rfl) rfl ⟨[_], rfl, by simp [Event.Ends]⟩
    exact hunsent.form hb hdeferred rfl rfl rfl hno

/-- A deferred transition is tried again: it is an operation now, or deferred again. -/
lemma retry (h : Carries c a b) (hb : Numbered b) {key : String} {deferred : DeferredTransition}
    (hfound : b.deferredTransitions.lookup key = some deferred)
    (hkey : deferred.task.commandId = key) {r : CommandRecord}
    (hrecord : deferred.context.record = some r) (hid : r.commandId = key) :
    Carries c a (b.retryDeferred cfg key deferred) := by
  refine h.kept ?_ ?_
  · rintro ⟨k, d, hunder, hd, hterm⟩
    refine ⟨k, d, ?_, hd, hterm⟩
    rcases retryDeferred_cases cfg b key deferred with heq | heq <;> rw [heq]
    · cases hunder with
      | operation hop hfor =>
          exact .operation (Map.lookup_insert_some.mpr (.inr ⟨(hb _ _ hop).ne, hop⟩)) hfor
      | deferred hlookup =>
          by_cases hc : key = c
          · subst hc
            rw [hfound] at hlookup
            cases hlookup
            exact @UnderWay.operation _ _ b.nextOperationId ⟨.transition, deferred.context⟩
              (Map.lookup_insert_some.mpr (.inl ⟨rfl, rfl⟩)) ⟨.inl rfl, r, hrecord, hid⟩
          · exact .deferred (Map.lookup_erase_some.mpr ⟨Ne.symm hc, hlookup⟩)
    · cases hunder with
      | operation hop hfor => exact .operation hop hfor
      | deferred hlookup =>
          by_cases hc : key = c
          · subst hc
            rw [hfound] at hlookup
            cases hlookup
            exact .deferred (Map.lookup_insert_some.mpr (.inl ⟨hkey.symm, rfl⟩))
          · exact .deferred (Map.lookup_insert_some.mpr (.inr ⟨hkey ▸ Ne.symm hc,
              Map.lookup_erase_some.mpr ⟨Ne.symm hc, hlookup⟩⟩))
  · rcases retryDeferred_cases cfg b key deferred with heq | heq <;> rw [heq] <;>
      exact ⟨[_], rfl, by simp [Event.Ends]⟩

/-- A result is taken whose operation is no outcome of the command. -/
lemma taken {i : ℕ} (rest : List CommandDatabaseResult)
    (hother : ∀ operation, b.operations.lookup i = some operation → operation.IsFor c →
      ∀ d, operation.context.record = some d → d.status.isTerminal = false) :
    Carries c b (b.taken i rest) := by
  refine ⟨fun ⟨context, d, hunder, hrecord, hterm⟩ => ⟨context, d, ?_, hrecord, hterm⟩,
    fun _ he _ => .inl he⟩
  cases hunder with
  | @operation j operation hop hfor =>
      refine .operation (Map.lookup_erase_some.mpr ⟨?_, hop⟩) hfor
      rintro rfl
      rw [hother operation hop hfor d hrecord] at hterm
      cases hterm
  | deferred hlookup => exact .deferred hlookup

lemma taken_found {i : ℕ} {operation : Operation} (rest : List CommandDatabaseResult)
    (hop : b.operations.lookup i = some operation)
    (hother : operation.IsFor c → ∀ d, operation.context.record = some d →
      d.status.isTerminal = false) : Carries c b (b.taken i rest) := by
  refine taken rest fun operation' hop' => ?_
  rw [hop] at hop'
  cases hop'
  exact hother

/-- The operation carries no transition. -/
lemma taken_unmoved {i : ℕ} {operation : Operation} (rest : List CommandDatabaseResult)
    (hop : b.operations.lookup i = some operation) (hmoves : ¬ operation.kind.Moves) :
    Carries c b (b.taken i rest) :=
  taken_found rest hop fun hfor => absurd hfor.1 hmoves

/-- The operation wants an open record, or that of another command. -/
lemma taken_wanted {i : ℕ} {operation : Operation} {d : CommandRecord}
    (rest : List CommandDatabaseResult) (hop : b.operations.lookup i = some operation)
    (hd : operation.context.record = some d)
    (hother : d.commandId = c → d.status.isTerminal = false) : Carries c b (b.taken i rest) := by
  refine taken_found rest hop fun ⟨_, d', hd', hid⟩ d'' hd'' => ?_
  rw [hd] at hd' hd''
  cases hd'
  cases hd''
  exact hother hid

end Carries

/-! ### Ticks -/

/-- Where the search after a conflict has found no row, a terminal one was removed. -/
def Absent (b : RuntimeBundle) : Prop :=
  ∀ i operation d, (⟨i, .ok (.found none)⟩ : CommandDatabaseResult) ∈ b.databaseResults →
    b.operations.lookup i = some operation → operation.kind = .findByIdForConvergence →
      operation.context.record = some d → RowEnded b d.commandId

lemma RowEnded.mono {b b' : RuntimeBundle} {c : String} (h : RowEnded b c)
    (hsub : ∀ e ∈ b.trace, e ∈ b'.trace) : RowEnded b' c := by
  obtain ⟨r, hr, hrest⟩ := h
  exact ⟨r, committedRows_mono hsub hr, hrest⟩

/-- The row of a command that has not ended is there, and open. -/
lemma row_of_not_ended {b : RuntimeBundle} (hl : Ledger b) (hopen : OpenStored b) {c : String}
    (hrow : ¬ RowEnded b c) {r : CommandRecord} (hr : r ∈ committedRows b.trace)
    (hid : r.commandId = c) :
    ∃ row, b.table.findCommandById c = some row ∧ row.status.isTerminal = false := by
  have hnone : ∀ s ∈ committedRows b.trace, s.commandId = c → s.status.isTerminal = false :=
    fun s hs hsid => by
      by_contra hterm
      exact hrow ⟨s, hs, hsid, by simpa using hterm⟩
  obtain ⟨row, hfound⟩ := Option.isSome_iff_exists.mp
    (hopen r hr fun s hs hsid => hnone s hs (hsid.trans hid))
  rw [hid] at hfound
  exact ⟨row, hfound, hnone row (hl.row_committed c row hfound)
    (CommandTable.findCommandById_commandId hfound)⟩

/-- The worker answers what was asked. -/
lemma expects_of_answersTo {operation : Operation} {answer : CommandDatabaseValue}
    (h : AnswersTo operation (.ok answer)) : operation.kind.Expects answer := by
  cases answer with
  | found found => rcases h with ⟨hkind, _⟩ | ⟨hkind, _⟩ <;> rw [hkind] <;> trivial
  | record r => rcases h with ⟨hkind, _⟩ | ⟨hkind, _⟩ <;> rw [hkind] <;> trivial
  | records records => exact h.elim
  | count count =>
      have hkind : operation.kind = .cleanup := h
      rw [hkind]
      trivial

/-- A result that starts nothing is about no outcome, unless the row has ended. -/
lemma Consumed.carries {cfg : CommandServiceConfig} {b : RuntimeBundle} (hw : Wellformed b)
    (habsent : Absent b) {i : ℕ} {value : Except DatabaseError CommandDatabaseValue}
    {rest : List CommandDatabaseResult} {events : List Event}
    (hhead : b.databaseResults = ⟨i, value⟩ :: rest) (hconsumed : Consumed cfg b i value events)
    (herrors : ∀ j, .databaseError j ∉ events) (c : String) :
    RowEnded b c ∨ Carries c b (b.taken i rest) := by
  cases hconsumed with
  | unknown hnone =>
      refine .inr (.taken rest fun operation hop => ?_)
      rw [hnone] at hop
      cases hop
  | failed _ _ _ => exact absurd List.mem_cons_self (herrors i)
  | @ignored operation answer hop hvalue hwhich =>
      subst hvalue
      have hanswers := hw.head_answers hhead hop
      rcases hwhich with hcleanup | hother | ⟨hconverge, hnone | hnone⟩ | ⟨hfind, _⟩
      · exact .inr (.taken_unmoved rest hop (by rw [hcleanup]; decide))
      · exact absurd (expects_of_answersTo hanswers) hother
      · subst hnone
        by_cases hfor : operation.IsFor c
        · obtain ⟨_, d, hd, rfl⟩ := hfor
          exact .inl (habsent i operation d (by rw [hhead]; exact List.mem_cons_self) hop
            hconverge hd)
        · exact .inr (.taken_found rest hop fun hfor' => absurd hfor' hfor)
      · refine .inr (.taken_found rest hop fun _ d hd => ?_)
        rw [hnone] at hd
        cases hd
      · exact .inr (.taken_unmoved rest hop (by rw [hfind]; decide))
  | rejected hop hwhich =>
      rcases hwhich with ⟨hfind, _⟩ | ⟨_, hinsert, _⟩
      · exact .inr (.taken_unmoved rest hop (by rw [hfind]; decide))
      · exact .inr (.taken_unmoved rest hop (by rw [hinsert]; decide))
  | replayed hop _ hwhich =>
      rcases hwhich with ⟨hfind, _⟩ | ⟨_, hinsert, _⟩
      · exact .inr (.taken_unmoved rest hop (by rw [hfind]; decide))
      · exact .inr (.taken_unmoved rest hop (by rw [hinsert]; decide))

/-- **A tick keeps the outcome of the command**, or its row has ended. -/
lemma Tick.carries {cfg : CommandServiceConfig} {b b' : RuntimeBundle} (ht : Traced b)
    (hopen : OpenStored b) (habsent : Absent b) (htick : Tick cfg b b') {c : String}
    (herrors : ∀ i, .databaseError i ∉ b'.log) (hno : ∀ e ∈ b'.log, ¬ e.Overwrites c)
    (hwhen : (∃ answers now, ¬ (Input.processNext answers now).DropsOutcome cfg c b) ∨
      b.databaseResults.length ≤ b'.databaseResults.length) :
    RowEnded b c ∨ Carries c b b' := by
  have hw := ht.sound.wellformed
  have hb : Numbered b := hw.operations_lt
  have hnumbered : ∀ i rest, Numbered (b.taken i rest) := fun i rest j operation hop =>
    hw.operations_lt j operation (Map.lookup_erase_some.mp hop).2
  have hdeferred : ∀ deferred, b.deferredTransitions.lookup c = some deferred →
      ∀ d, deferred.context.record = some d → d.status = deferred.task.desired := by
    intro deferred hlookup d hd
    obtain ⟨r, hcontext, _, hstatus⟩ := (hw.deferred c deferred hlookup).context
    rw [hcontext.unique hd]
    exact hstatus
  have hrefl := Carries.refl (c := c) b
  cases htick with
  | quiet hcore =>
      obtain ⟨es, hlog, hes⟩ := hcore.log
      exact .inr (hrefl.same hcore.operations (hcore.deferredTransitions c)
        ⟨es, hlog, fun e he => (hes e he).not_ends c⟩)
  | worker =>
      refine .inr (hrefl.same (fun _ => rfl) rfl ⟨_, rfl, fun e he => ?_⟩)
      rcases mem_executionEvents.mp he with ⟨r, _, rfl⟩ | ⟨_, r, _, rfl⟩ | ⟨r, _, rfl⟩ <;>
        exact id
  | mqtt => exact .inr (hrefl.same (fun _ => rfl) rfl ⟨[_], rfl, by simp [Event.Ends]⟩)
  | device => exact .inr (hrefl.same (fun _ => rfl) rfl ⟨[_], rfl, by simp [Event.Ends]⟩)
  | find => exact .inr (hrefl.submit hb _ _ _)
  | cleanup => exact .inr (hrefl.submit hb _ _ _)
  | @consumed i value rest events hhead hconsumed =>
      refine (hconsumed.carries hw habsent hhead (fun j hj => herrors j
        (List.mem_append_left _ hj)) c).imp id fun hcarries =>
          hcarries.same (fun _ => rfl) rfl ⟨events, rfl, fun e he => ?_⟩
      cases hconsumed with
      | unknown => cases he
      | failed => rw [List.mem_singleton.mp he]; exact id
      | ignored => cases he
      | rejected => rw [List.mem_singleton.mp he]; exact id
      | replayed => rw [List.mem_singleton.mp he]; exact id
  | @create answers i operation rest requestId payload hhead hop hfind =>
      have hcreated : Carries c b ((b.taken i rest).emit
          (.created i (newCommand answers b operation.context requestId payload).1)) :=
        (Carries.taken_unmoved rest hop (by rw [hfind]; decide)).same (fun _ => rfl) rfl
          ⟨[_], rfl, by simp [Event.Ends]⟩
      exact .inr (hcreated.submit (fun j other hother => hnumbered i rest j other hother) _ _ _)
  | @conflict i operation rest error desired hhead hop hmoves hchanged hdesired =>
      have hended := (@Carries.submit cfg _ _ c (.refl (b.taken i rest)) (hnumbered i rest)
        .findByIdForConvergence operation.context (.findCommandById desired.commandId)).ended
      by_cases hends : desired.commandId = c ∧ desired.status.isTerminal = true
      · obtain ⟨rfl, hterm⟩ := hends
        by_cases hrow : RowEnded b desired.commandId
        · exact .inl hrow
        · -- the search takes the place of the transition
          refine .inr ⟨fun _ => ⟨operation.context, desired, UnderWay.submit_self ?_ ⟨.inr rfl,
            desired, hdesired, rfl⟩, hdesired, hterm⟩, hended⟩
          by_contra hrefused
          rcases hwhen with ⟨answers, now, hok⟩ | hle
          · obtain ⟨m, _, hdesire, _⟩ := ht.provenance.conflicts i error operation desired
              (by rw [hhead]; exact List.mem_cons_self) hchanged hop hmoves hdesired
            refine hok ⟨i, error, operation, desired, rest, hhead, hop, hmoves, hchanged, hdesired,
              rfl, hterm, row_of_not_ended ht.sound.ledger hopen hrow hdesire.row
                hdesire.commandId.symm, ?_⟩
            exact Option.not_isSome_iff_eq_none.mp hrefused
          · rw [databaseResults_submit, hhead, List.length_cons] at hle
            exact absurd hle (Nat.not_succ_le_self _)
      · exact .inr ((Carries.taken_wanted rest hop hdesired fun hid => by
          simpa [hid] using hends).submit (hnumbered i rest) _ _ _)
  | @activate answers i operation rest record now hhead hop hinsert =>
      have hactive : Carries c b { b.taken i rest with
          activeCommands := b.activeCommands.insert record.commandId
            { operation.context with record := some record } } :=
        (Carries.taken_unmoved rest hop (by rw [hinsert]; decide)).same (fun _ => rfl) rfl
          ⟨[], rfl, by simp⟩
      exact .inr (hactive.publish (fun j other hother => hnumbered i rest j other hother)
        hdeferred hno)
  | @refresh i operation rest record context now hhead hop hmoves hterm =>
      obtain ⟨d, hcontext, _, hstatus⟩ := hw.transition_result hhead hop hmoves
      exact .inr ((Carries.taken_wanted rest hop hcontext.record fun _ => hstatus ▸ hterm).same
        (fun _ => rfl) rfl ⟨[_], rfl, by simp [Event.Ends]⟩)
  | @settle i operation rest current desired hhead hop hmoves hdesired hterm hsettled =>
      obtain ⟨m, cause, _, hlt⟩ := ht.provenance.found i current operation desired
        (by rw [hhead]; exact List.mem_cons_self) hop hmoves hdesired
      have hdopen : desired.status.isTerminal = false := by
        by_contra hdterm
        rw [Bool.not_eq_false] at hdterm
        rcases hsettled with hsame | hcannot
        · rw [hsame, hdterm] at hterm
          cases hterm
        · rw [canTransition_of_isTerminal hterm hdterm fun hpending => ?_] at hcannot
          · cases hcannot
          · rw [hpending] at hlt
            exact absurd (eq_pending_of_le hlt.1) hlt.2
      exact .inr ((Carries.taken_wanted rest hop hdesired fun _ => hdopen).same (fun _ => rfl) rfl
        ⟨[], rfl, by simp⟩)
  | @converge i operation rest current desired target update commandId hdesired hwhich hop hterm
      hcan =>
      rcases hwhich with ⟨hhead, hmoves, _, _, rfl⟩ | ⟨hhead, hmoves, hdterm, _⟩
      · obtain ⟨d, hcontext, hsame⟩ := hw.lookup_result hhead hop hmoves
        obtain rfl := hcontext.unique hdesired
        have hform : ∀ {a : RuntimeBundle}, Carries c a (b.taken i rest) →
            Carries c a (submitTransitionOrDefer cfg (b.taken i rest)
              { operation.context with target := target }
              ⟨current.commandId, current.status, desired.status, update⟩) := fun h =>
          h.form (hnumbered i rest) hdeferred hdesired hsame.commandId.symm rfl hno
        by_cases hends : desired.commandId = c ∧ desired.status.isTerminal = true
        · refine .inr ⟨fun _ => ⟨{ operation.context with target := target }, desired, ?_,
            hdesired, hends.2⟩, (hform (Carries.refl _)).ended⟩
          exact hsame.commandId.trans hends.1 ▸ @UnderWay.form_self cfg (b.taken i rest)
            { operation.context with target := target }
            ⟨current.commandId, current.status, desired.status, update⟩ desired hdesired
            hsame.commandId.symm
        · exact .inr (hform (.taken_wanted rest hop hdesired fun hid => by
            simpa [hid] using hends))
      · -- a transition reports the status it asked for
        obtain ⟨d, hcontext, _, hstatus⟩ := hw.transition_result hhead hop hmoves
        obtain rfl := hcontext.unique hdesired
        rw [hstatus, hdterm] at hterm
        cases hterm
  | @finish i operation rest record value context now hhead hop hwhich hterm =>
      have hreported : reported (.ok value) = some record := by
        rcases hwhich with ⟨_, rfl⟩ | ⟨_, rfl, _⟩ | ⟨_, rfl, _⟩ <;> rfl
      by_cases hid : record.commandId = c
      · exact .inl ⟨record, Provenance.committed_of_head ht.sound hhead hreported, hid, hterm⟩
      · have hcarries : Carries c b (b.taken i rest) := by
          rcases hwhich with ⟨htransition, rfl⟩ | ⟨hinsert, _⟩ | ⟨hconverge, rfl, _⟩
          · obtain ⟨d, hcontext, hsame, _⟩ := hw.transition_result hhead hop htransition
            exact .taken_wanted rest hop hcontext.record fun hdid =>
              absurd (hsame.commandId.trans hdid) hid
          · exact .taken_unmoved rest hop (by rw [hinsert]; decide)
          · obtain ⟨d, hcontext, hsame⟩ := hw.lookup_result hhead hop hconverge
            exact .taken_wanted rest hop hcontext.record fun hdid =>
              absurd (hsame.commandId.trans hdid) hid
        exact .inr (hcarries.same (fun _ => rfl) rfl ⟨[_], rfl, by simp [Event.Ends]⟩)
  | @finished i operation rest record hhead hop hconverge hrecord _ hterm =>
      by_cases hid : record.commandId = c
      · exact .inl ⟨record, Provenance.committed_of_head ht.sound hhead rfl, hid, hterm⟩
      · obtain ⟨d, hcontext, hsame⟩ := hw.lookup_result hhead hop hconverge
        exact .inr ((Carries.taken_wanted rest hop hcontext.record fun hdid =>
          absurd (hsame.commandId.trans hdid) hid).same (fun _ => rfl) rfl ⟨[], rfl, by simp⟩)
  | @deviceAck context record ack deviceId payload type now hparse hactive hrecord =>
      rw [applyDeviceAck_eq] at hno ⊢
      have hsame := Wellformed.sameCommand_acknowledged record ack type now
      have hemit : Carries c b (b.emit (.deviceAcked deviceId type ack (some record.status))) :=
        hrefl.same (fun _ => rfl) rfl ⟨[_], rfl, by simp [Event.Ends]⟩
      exact .inr (hemit.form hb hdeferred rfl hsame.1.commandId hsame.2 hno)
  | @buffer context record ack deviceId payload type now =>
      refine .inr ?_
      rcases bufferEarlyAck_cases cfg (b.emit (.deviceAcked deviceId type ack
        (some record.status))) type ack ⟨deviceId, payload, now⟩ with
        ⟨kept, _, heq⟩ | ⟨message, heq⟩ <;> rw [heq]
      · exact hrefl.same (fun _ => rfl) rfl ⟨[_], rfl, by simp [Event.Ends]⟩
      · exact hrefl.same (fun _ => rfl) rfl ⟨[_, _], rfl, by simp [Event.Ends]⟩
  | @timeout commandId context record now hactive hrecord =>
      obtain ⟨r, hcontext, _, hid⟩ := hw.active _ context hactive
      obtain rfl := hcontext.unique hrecord
      rw [submitTimeout] at hno ⊢
      have hmark : Carries c b { b with
          recoveryStarted := insert commandId b.recoveryStarted } :=
        hrefl.same (fun _ => rfl) rfl ⟨[], rfl, by simp⟩
      exact .inr (hmark.form hb hdeferred rfl hid rfl hno)
  | @republish answers commandId deviceId context record now =>
      have hmark : Carries c b { b with
          recoveryStarted := insert commandId b.recoveryStarted } :=
        hrefl.same (fun _ => rfl) rfl ⟨[], rfl, by simp⟩
      exact .inr (hmark.publish hb hdeferred hno)
  | @complete completion context now hfound =>
      refine .inr ?_
      rcases handleCompletion_cases cfg now hfound with
        ⟨_, heq⟩ | ⟨record, _, ⟨_, _, heq⟩ | ⟨_, heq⟩⟩ <;> rw [heq] at hno ⊢
      · exact hrefl.same (fun _ => rfl) rfl ⟨[], rfl, by simp⟩
      · exact hrefl.same (fun _ => rfl) rfl ⟨[_], rfl, by simp [Event.Ends]⟩
      · have htaken : Carries c b (b.completionTaken completion.token record completion.result) :=
          hrefl.same (fun _ => rfl) rfl ⟨[_], rfl, by simp [Event.Ends]⟩
        exact htaken.form hb hdeferred rfl
          (Wellformed.sameCommand_publishCompleted record _ completion.result now).commandId rfl hno
  | @retry key deferred hfound =>
      obtain ⟨r, hcontext, hid, _⟩ := (hw.deferred key deferred hfound).context
      exact .inr (hrefl.retry hb hfound (hw.deferred key deferred hfound).key hcontext.record hid)

/-! ### Searches that found no row -/

namespace Absent

variable {cfg : CommandServiceConfig} {b b' : RuntimeBundle}

/-- The results of a turn of the worker: a new one that found no row has looked for it. -/
lemma workerTurn (hs : Sound b) (hp : Provenance b) (hopen : OpenStored b) (h : Absent b)
    {event : WorkerEvent} (hevent : event.Admissible) {i : ℕ} {operation : Operation}
    {d : CommandRecord} (hmem : ⟨i, .ok (.found none)⟩ ∈ (b.workerTurn event).databaseResults)
    (hop : b.operations.lookup i = some operation)
    (hkind : operation.kind = .findByIdForConvergence)
    (hd : operation.context.record = some d) : RowEnded b d.commandId := by
  have hold : ⟨i, .ok (.found none)⟩ ∈ b.databaseResults → RowEnded b d.commandId := fun hmem =>
    h i operation d hmem hop hkind hd
  have hpushed : ∀ result, ⟨i, .ok (.found none)⟩ ∈ b.pushed result →
      ⟨i, .ok (.found none)⟩ ∈ b.databaseResults ∨ result = ⟨i, .ok (.found none)⟩ := by
    intro result hx
    unfold RuntimeBundle.pushed at hx
    split at hx
    · exact .inl hx
    · exact (List.mem_append.mp hx).imp id fun hx => (List.mem_singleton.mp hx).symm
  rcases workerTurn_cases hevent with
    ⟨worker, _, heq⟩ | ⟨j, task, rest, hqueue, ⟨worker, _, heq⟩ |
      ⟨worker, message, _, _, _, heq⟩ | ⟨worker, _, _, heq⟩⟩ <;> rw [heq] at hmem
  · exact hold hmem
  · rcases hpushed _ hmem with hmem | hnew
    · exact hold hmem
    · obtain ⟨rfl, hvalue⟩ := CommandDatabaseResult.mk.inj hnew
      obtain ⟨operation', hop', hmatch⟩ := hs.wellformed.queue j task
        (by rw [hqueue]; exact List.mem_cons_self)
      rw [hop] at hop'
      cases hop'
      obtain rfl := Provenance.task_of_lookup hmatch hkind hd
      obtain ⟨m, _, hdesire, _⟩ := hp.lookups j operation d hop hkind hd
      by_contra hrow
      obtain ⟨row, hfound, _⟩ := row_of_not_ended hs.ledger hopen hrow hdesire.row
        hdesire.commandId.symm
      have hnone : b.table.findCommandById d.commandId = none :=
        CommandDatabaseValue.found.inj (Except.ok.inj hvalue)
      rw [hnone] at hfound
      cases hfound
  · rcases hpushed _ hmem with hmem | hnew
    · exact hold hmem
    · cases hnew
  · exact hold hmem

lemma tick (ht : Traced b) (hopen : OpenStored b) (h : Absent b) (htick : Tick cfg b b') :
    Absent b' := by
  intro i operation d hmem hop hkind hd
  refine RowEnded.mono (b := b) ?_ fun e he => htick.trace_suffix.subset he
  rcases htick.serviceStep with ⟨event, hevent, rfl⟩ | hstep
  · exact h.workerTurn ht.sound ht.provenance hopen hevent hmem hop hkind hd
  · have hold : ⟨i, .ok (.found none)⟩ ∈ b.databaseResults := by
      rcases hstep.results with hsame | ⟨result, htail⟩
      · exact hsame ▸ hmem
      · rw [htail]
        exact List.mem_cons_of_mem _ hmem
    have hlt : i < b.nextOperationId := ht.sound.wellformed.pipeline_lt i
      (List.mem_append_left _ (List.mem_map.mpr ⟨_, hold, rfl⟩))
    rcases hstep.newOperation i operation hop with hop | ⟨rfl, _⟩
    · exact h i operation d hold hop hkind hd
    · exact absurd hlt (lt_irrefl _)

lemma restarted (hrestart : Restarted cfg b b') : Absent b' := by
  intro i operation d hmem
  rw [hrestart.databaseResults] at hmem
  cases hmem

end Absent

/-! ### The invariant -/

/-- Without an error of the database and without an overwritten outcome, every outcome of
the command that was formed in this process is kept until the row is terminal. -/
def OutcomesKept (c : String) (b : RuntimeBundle) : Prop :=
  (∀ i, .databaseError i ∉ b.log) → (∀ e ∈ b.log, ¬ e.Overwrites c) →
    ∀ e ∈ b.log, e.Ends c → RowEnded b c ∨ Ending b c

namespace OutcomesKept

variable {cfg : CommandServiceConfig} {b b' : RuntimeBundle} {c : String}

lemma tick (ht : Traced b) (hopen : OpenStored b) (habsent : Absent b) (h : OutcomesKept c b)
    (htick : Tick cfg b b')
    (hwhen : (∃ answers now, ¬ (Input.processNext answers now).DropsOutcome cfg c b) ∨
      b.databaseResults.length ≤ b'.databaseResults.length) : OutcomesKept c b' := by
  intro herrors hno e he hends
  have hsub : ∀ x ∈ b.log, x ∈ b'.log := by
    rcases htick.serviceStep with ⟨event, _, rfl⟩ | hstep
    · exact fun x hx => List.mem_append_right _ hx
    · obtain ⟨es, hlog, _⟩ := hstep.log
      exact fun x hx => hlog ▸ List.mem_append_right _ hx
  have hmono : RowEnded b c → RowEnded b' c := fun hrow =>
    hrow.mono fun x hx => htick.trace_suffix.subset hx
  rcases htick.carries ht hopen habsent herrors hno hwhen with hrow | hcarries
  · exact .inl (hmono hrow)
  · rcases hcarries.ended e he hends with hold | hunder
    · exact (h (fun i hi => herrors i (hsub _ hi)) (fun x hx => hno x (hsub x hx)) e hold
        hends).imp hmono hcarries.ending
    · exact .inr hunder

lemma restarted (hrestart : Restarted cfg b b') : OutcomesKept c b' := by
  intro _ _ e he hends
  rcases hrestart.log e he with rfl | ⟨message, rfl⟩ <;> exact hends.elim

end OutcomesKept

/-! ### Runs -/

/-- **No outcome is lost**: once a transition that ends the command has been formed, a
terminal version of its row has been committed, and the row is terminal as long as it is
there; or such a transition, or the search after its conflict, is under way.  This holds
in every run without errors of the database in which no deferred outcome of the command is
overwritten and no search for its open row is refused. -/
theorem outcomes_kept {cfg : CommandServiceConfig} {b : RuntimeBundle} {c : String}
    (hb : ((routeService cfg).restrict fun b input =>
      ¬ input.DropsOutcome cfg c b).Reachable b)
    (herrors : ∀ i, .databaseError i ∉ b.log) (hkept : ∀ e ∈ b.log, ¬ e.Overwrites c) :
    ∀ task replaced, .formed task replaced ∈ b.log → task.commandId = c →
      task.desired.isTerminal = true →
        ((∃ r ∈ committedRows b.trace, r.commandId = c ∧ r.status.isTerminal = true) ∧
          ∀ row, b.table.findCommandById c = some row → row.status.isTerminal = true) ∨
        ∃ context d, UnderWay b c context ∧ context.record = some d ∧
          d.status.isTerminal = true := by
  have hall := restricted_of_ticks
    (P := fun b => Traced b ∧ OpenStored b ∧ Absent b ∧ OutcomesKept c b)
    ⟨.blank, .blank, fun _ _ _ hmem => (by cases hmem), fun _ _ _ he => (by cases he)⟩
    (fun _ _ h hrestart _ => ⟨h.1.restarted hrestart, h.2.1.restarted hrestart,
      .restarted hrestart, .restarted hrestart⟩)
    (fun _ _ h htick hwhen => ⟨h.1.tick htick, h.2.1.tick h.1.sound htick,
      h.2.2.1.tick h.1 h.2.1 htick, h.2.2.2.tick h.1 h.2.1 h.2.2.1 htick hwhen⟩) hb
  obtain ⟨ht, _, _, hkeeps⟩ := hall
  intro task replaced hformed hid hterm
  refine (hkeeps herrors hkept _ hformed ⟨hid, hterm⟩).imp (fun hended => ⟨hended, ?_⟩) id
  obtain ⟨r, hr, hrid, hrterm⟩ := hended
  intro row hrow
  exact (ht.sound.ledger.committed_le_row r hr row (hrid.symm ▸ hrow)).isTerminal hrterm

/-! ### Runs on a full queue -/

/-- The next result is an error. -/
def RuntimeBundle.headFails (b : RuntimeBundle) : Bool :=
  match b.databaseResults with
  | ⟨_, .error _⟩ :: _ => true
  | _ => false

lemma not_dropsOutcome {cfg : CommandServiceConfig} {b : RuntimeBundle} (h : b.headFails = false)
    (c : String) (input : Input) : ¬ input.DropsOutcome cfg c b := by
  cases input with
  | processNext answers now =>
      rintro ⟨i, error, operation, desired, rest, hhead, -⟩
      rw [headFails, hhead] at h
      cases h
  | _ => exact id

/-- The device has taken off. -/
def Sample.acceptedAck : String × Json :=
  (objectText [("command", stringText "takeoff"), ("command_id", stringText commandId),
      ("mavlink_command", "31091"), ("result", "0"), ("result_code", stringText "accepted"),
      ("status", stringText "accepted")],
    .object [("command", .string "takeoff"), ("command_id", .string commandId),
      ("mavlink_command", .integer 31091), ("result", .integer 0),
      ("result_code", .string "accepted"), ("status", .string "accepted")])

/-- A service with a short queue that cleans up every second. -/
def Sample.shortQueue (maxInflightCommands : ℕ) : CommandServiceConfig where
  parseJson text := if text = Sample.acceptedAck.1 then some Sample.acceptedAck.2 else
    Sample.parseJson text
  maxInflightCommands := maxInflightCommands
  cleanupInterval := 1000000000

/-- An ACK of the device arrives and is handled. -/
def Sample.acked (ack : String × Json) (now : TimePoint) : List PlainInput :=
  [.tryPush ⟨"cns/dev1/control/ack", ack.1, now⟩, .processNext PlainInput.unusedUuid true now]

/-- The command has been dispatched, and the next cleanup is due in a second. -/
def Sample.awaiting : List PlainInput := [.finishReady true 0] ++ Sample.dispatched .control true

/-- A cleanup fills the queue of the worker, and the final answer of the device comes. -/
def Sample.deferredOutcome : List PlainInput :=
  Sample.awaiting ++ [.finishReady true 2000000000] ++ Sample.acked Sample.acceptedAck 2000000001

/-- The outcome that the full queue refuses is kept. -/
theorem outcomes_kept_deferred :
    ∃ context d, UnderWay (play (Sample.shortQueue 1) Sample.started Sample.deferredOutcome)
      Sample.commandId context ∧ context.record = some d ∧ d.status.isTerminal = true := by
  have hb : ((routeService (Sample.shortQueue 1)).restrict fun b input =>
      ¬ input.DropsOutcome (Sample.shortQueue 1) Sample.commandId b).Reachable
        (play (Sample.shortQueue 1) Sample.started Sample.deferredOutcome) :=
    @reachable_of_admitted (Sample.shortQueue 1) _ (fun b _ => !b.headFails)
      (fun b input h => not_dropsOutcome (by simpa using h) Sample.commandId (input.toInput b)) _
      (reachable_firstStart (Sample.shortQueue 1) _ Sample.sources
        (DeviceRegistry.empty.put (Sample.device .online))) _ (by decide +kernel)
  have hformed : ∃ e ∈ (play (Sample.shortQueue 1) Sample.started Sample.deferredOutcome).log,
      e.Ends Sample.commandId := by decide +kernel
  have hopen : (committedRows (play (Sample.shortQueue 1) Sample.started
      Sample.deferredOutcome).trace).all (fun r => !r.status.isTerminal) = true := by
    decide +kernel
  obtain ⟨e, he, hends⟩ := hformed
  cases e with
  | formed task replaced =>
      rcases outcomes_kept hb (not_databaseError (by decide +kernel)) (by decide +kernel) task
        replaced he hends.1 hends.2 with ⟨⟨r, hr, _, hterm⟩, _⟩ | hunder
      · have hnot := List.all_eq_true.mp hopen r hr
        rw [hterm] at hnot
        cases hnot
      · exact hunder
  | _ => exact hends.elim

/-- An outcome of the command was formed without an error of the database; its row is
open, and nothing is under way for it. -/
structure OutcomeLost (b : RuntimeBundle) (c : String) : Prop where
  noError : ∀ i, .databaseError i ∉ b.log
  formed : ∃ e ∈ b.log, e.Ends c
  isOpen : (b.table.findCommandById c).map (·.status.isTerminal) = some false
  idle : ∀ context, ¬ UnderWay b c context

/-- The device reports progress, its final answer and progress once more.  The final
answer loses the compare-and-set to the progress, and a cleanup fills the queue before its
conflict is handled. -/
def Sample.searchRefused : List PlainInput :=
  Sample.awaiting ++ Sample.acked Sample.progressAck 7 ++ Sample.acked Sample.acceptedAck 8 ++
    Sample.answered true 9 ++ Sample.acked Sample.progressAck 10 ++
    [.worker (.runCommand .completed), .finishReady true 2000000000,
      .processNext PlainInput.unusedUuid true 2000000000] ++
    Sample.answered true 2000000001 ++ Sample.answered true 2000000002

/-- Progress is reported again while the final answer is deferred. -/
def Sample.overwritten : List PlainInput :=
  Sample.deferredOutcome ++ Sample.answered true 2000000002 ++
    Sample.acked Sample.progressAck 2000000003 ++ Sample.answered true 2000000004

/-- **Outcomes are lost on a full queue**: the search after the conflict is refused, or
progress takes the place of the deferred outcome. -/
theorem outcome_lost_shortQueue :
    ((routeService (Sample.shortQueue 2)).Reachable
        (play (Sample.shortQueue 2) Sample.started Sample.searchRefused) ∧
      OutcomeLost (play (Sample.shortQueue 2) Sample.started Sample.searchRefused)
        Sample.commandId) ∧
    ((routeService (Sample.shortQueue 1)).Reachable
        (play (Sample.shortQueue 1) Sample.started Sample.overwritten) ∧
      OutcomeLost (play (Sample.shortQueue 1) Sample.started Sample.overwritten)
        Sample.commandId) := by
  have hreachable : ∀ cfg inputs, admittedAll cfg (fun _ _ => true) Sample.started inputs = true →
      (routeService cfg).Reachable (play cfg Sample.started inputs) := fun cfg _ h =>
    reachable_of_played (reachable_firstStart cfg (fun _ _ => True) Sample.sources
      (DeviceRegistry.empty.put (Sample.device .online))).of_restrict h
  have hidle : ∀ b : RuntimeBundle, b.operations.keys = [] → b.deferredTransitions.keys = [] →
      ∀ context, ¬ UnderWay b Sample.commandId context := by
    rintro b hoperations hdeferred context (⟨hop, _⟩ | hlookup)
    · have hmem := AList.lookup_isSome.mp (Option.isSome_of_eq_some hop)
      rw [AList.mem_keys, hoperations] at hmem
      cases hmem
    · have hmem := AList.lookup_isSome.mp (Option.isSome_of_eq_some hlookup)
      rw [AList.mem_keys, hdeferred] at hmem
      cases hmem
  exact ⟨⟨hreachable _ _ (by decide +kernel), not_databaseError (by decide +kernel),
      by decide +kernel, by decide +kernel, hidle _ (by decide +kernel) (by decide +kernel)⟩,
    ⟨hreachable _ _ (by decide +kernel), not_databaseError (by decide +kernel),
      by decide +kernel, by decide +kernel, hidle _ (by decide +kernel) (by decide +kernel)⟩⟩

end CnsServer
