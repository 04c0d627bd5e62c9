/-
The deadline after a progress ACK.

`HandleDeviceAck` puts the new deadline into the context of the `in_progress`
transition, and the scan reads the one in `active_commands_`.  The new deadline
counts from the answer to the transition on, so it is lost if that answer is an
error, and late if a scan comes first.

* `HandlesProgress`: the next message is a progress ACK for the control command;
* `Safe`: neither the memory nor a transition under way lets the command time out
  before `D`;
* `Input.KeepsDeadline`: no scan comes to the command, when it is overdue, before
  the answers to its transitions, and none of these is lost;
* `timeout_deferred`: in the runs that meet it, the server submits no timeout
  before the new deadline.
-/
import CnsServer.Invariants.UnderWay
import CnsServer.Invariants.EarlyAcks
import CnsServer.Invariants.Provenance
import CnsServer.Runtime.Scenario

namespace CnsServer

open RuntimeBundle CommandStatus

/-! ### The claim's terms -/

/-- The next thing the service handles is a progress ACK for the control command
`c`, which is `dispatched` or `in_progress` and belongs to it. -/
structure HandlesProgress (cfg : CommandServiceConfig) (b : RuntimeBundle) (c : String) : Prop where
  results : b.databaseResults = []
  completions : b.publishCompletions = []
  message : ∃ message rest deviceId ack context record, b.messages = message :: rest ∧
    IsDeviceAckTopic cfg message.topic .control deviceId ∧
    parseDeviceAck .control (cfg.parseJson message.payload) = some ack ∧
    ack.commandId = c ∧ ack.desired = .inProgress ∧
    b.activeCommands.lookup c = some context ∧ context.record = some record ∧
    record.targetDeviceId = some deviceId ∧ context.commandType = .control ∧
    repeatsCommand context.parsed ack = true ∧
    (record.status = .dispatched ∨ record.status = .inProgress)

/-- The time at which an input is handled, if it has one. -/
def Input.time : Input → Option TimePoint
  | .processNext _ now => some now
  | .finishReady _ now => some now
  | .updateDevice _ _ _ _ now => some now
  | .restart _ _ now => some now
  | _ => none

/-- The input is not handled before `s`, and it is handled before `e`. -/
def Input.Within (s e : TimePoint) (input : Input) : Prop :=
  ∀ now, input.time = some now → s ≤ now ∧ now < e

/-- A scan at this time would let the command time out. -/
def Overdue (b : RuntimeBundle) (c : String) (now : TimePoint) : Prop :=
  c ∉ b.recoveryStarted ∧ ∃ context, b.activeCommands.lookup c = some context ∧
    context.deadline ≤ now

/-- If the next result answers a transition of the command or a lookup for it, it
reports a row, or it is the conflict of a transition whose lookup the worker
takes. -/
def AnswersCommand (cfg : CommandServiceConfig) (b : RuntimeBundle) (c : String) : Prop :=
  ∀ i value rest operation, b.databaseResults = ⟨i, value⟩ :: rest →
    b.operations.lookup i = some operation → operation.IsFor c →
      (reported value).isSome ∨
        (operation.kind = .transition ∧
          (b.toPostgresWorker.submitCommand cfg.maxInflightCommands b.nextOperationId
            (.findCommandById c)).isSome ∧
          ∃ error, value = .error error ∧ isStateChangedError error.message = true)

/-- The transitions of the command are answered, and no scan comes to it before
that when it is overdue. -/
def Input.KeepsDeadline (cfg : CommandServiceConfig) (c : String) (b : RuntimeBundle)
    (input : Input) : Prop :=
  ((∃ answers now, input = .processNext answers now) → AnswersCommand cfg b c) ∧
    ∀ p ∈ input.visits cfg b, p.2.1 = c → Overdue p.1 c p.2.2 → ¬ Busy p.1 c

/-! ### The invariant -/

/-- The transition of the context is no timeout of the server, and gives the
command until `D` at least if it does not end it. -/
def Postpones (D : TimePoint) (context : RequestContext) : Prop :=
  ∃ d, context.record = some d ∧ ((d.status = .inProgress ∧ D ≤ context.deadline) ∨
    (d.status.isTerminal = true ∧
      ¬ (d.status = .timeout ∧ d.errorCode = some "control_timeout")))

/-- The control command cannot time out before `D`, as long as no scan comes to
it while a transition is under way. -/
structure Safe (D : TimePoint) (c : String) (b : RuntimeBundle) : Prop where
  control : ∃ r, Known b.trace r ∧ r.commandId = c ∧ r.commandType = .control
  touched : ∃ e ∈ b.trace, e.Touches c
  unpublished : ∀ t context r, b.publications.lookup t = some context →
    context.record = some r → r.commandId ≠ c
  underWay : ∀ context, UnderWay b c context → Postpones D context
  active : ∀ context, b.activeCommands.lookup c = some context →
    D ≤ context.deadline ∨ Busy b c

/-- What the condition says of the ticks of an input between `s` and `e`. -/
def deadlineLimits (c : String) (s e : TimePoint) : Limits where
  turn _ _ := True
  ack _ _ _ ack now := ack.commandId = c → s ≤ now
  due b commandId now := commandId = c → now < e ∧ (Overdue b c now → ¬ Busy b c)

namespace Safe

variable {cfg : CommandServiceConfig} {D : TimePoint} {c : String} {b m b' : RuntimeBundle}

/-- What a change keeps that leaves the known commands and the past alone. -/
lemma update (h : Safe D c b) (hpast : b'.past = b.past)
    (hgrown : Grown (fun e => ¬ e.SubmitsTimeout c) b b')
    (hpublications : ∀ t context r, b'.publications.lookup t = some context →
      context.record = some r → r.commandId = c → b.publications.lookup t = some context)
    (hunderWay : ∀ context, UnderWay b' c context →
      UnderWay b c context ∨ Postpones D context)
    (hactive : ∀ context, b'.activeCommands.lookup c = some context → D ≤ context.deadline ∨
      Busy b' c ∨ (b.activeCommands.lookup c = some context ∧ ¬ Busy b c)) : Safe D c b' := by
  have htrace : ∀ e ∈ b.trace, e ∈ b'.trace := by
    obtain ⟨es, hes, _⟩ := hgrown
    simp only [RuntimeBundle.trace]
    rw [hes, hpast, List.append_assoc]
    exact fun e he => List.mem_append_right _ he
  refine ⟨?_, ?_, ?_, ?_, ?_⟩
  · obtain ⟨r, hr, hrest⟩ := h.control
    exact ⟨r, hr.mono htrace, hrest⟩
  · obtain ⟨e, he, hc⟩ := h.touched
    exact ⟨e, htrace e he, hc⟩
  · intro t context r ht hr hid
    exact h.unpublished t context r (hpublications t context r ht hr hid) hr hid
  · exact fun context hk => (hunderWay context hk).elim (h.underWay context) id
  · intro context hk
    rcases hactive context hk with hlate | hbusy | ⟨hold, hidle⟩
    · exact .inl hlate
    · exact .inr hbusy
    · exact .inl ((h.active context hold).resolve_right hidle)

/-- A change that starts nothing for the command. -/
lemma startsNothing (h : Safe D c b) (hnothing : StartsNothing c b b')
    (hbusy : Busy b c → Busy b' c) :
    Safe D c b' ∧ Grown (fun e => ¬ e.SubmitsTimeout c) b b' := by
  refine ⟨h.update hnothing.past hnothing.grown hnothing.publications
    (fun k hk => .inl (hnothing.underWay k hk)) fun k hk => ?_, hnothing.grown⟩
  by_cases hb : Busy b c
  · exact .inr (.inl (hbusy hb))
  · exact .inr (.inr ⟨hnothing.active k hk, hb⟩)

/-- A new transition of the command takes over. -/
lemma formed (h : Safe D c b) (hnothing : StartsNothing c b m) {context : RequestContext}
    {task : TransitionCommandTask} {d : CommandRecord} (hrecord : context.record = some d)
    (hid : d.commandId = task.commandId) (hc : task.commandId = c)
    (hpostpones : Postpones D context) (hdesired : task.desired = d.status)
    (herror : task.desired = .timeout → task.update.errorCode = d.errorCode) :
    Safe D c (m.submitTransitionOrDefer cfg context task) ∧
      Grown (fun e => ¬ e.SubmitsTimeout c) b (m.submitTransitionOrDefer cfg context task) := by
  have hgrown : Grown (fun e => ¬ e.SubmitsTimeout c) b
      (m.submitTransitionOrDefer cfg context task) := by
    refine StartsNothing.grown_form hnothing.grown fun i accepted hsubmits => ?_
    obtain ⟨_, htimeout, hcode⟩ := hsubmits
    obtain ⟨d', hd', hway⟩ := hpostpones
    rw [hrecord] at hd'
    cases hd'
    have hstatus : d.status = .timeout := hdesired.symm.trans htimeout
    rcases hway with ⟨hprogress, _⟩ | ⟨_, hno⟩
    · rw [hprogress] at hstatus
      cases hstatus
    · exact hno ⟨hstatus, (herror htimeout).symm.trans hcode⟩
  have hpast : (m.submitTransitionOrDefer cfg context task).past = b.past :=
    (past_form ..).trans hnothing.past
  refine ⟨h.update hpast hgrown (fun t k r ht hr hid' => ?_) (fun k hk => ?_) (fun k hk => ?_),
    hgrown⟩
  · exact hnothing.publications t k r (by rwa [publications_form] at ht) hr hid'
  · rcases UnderWay.of_form hrecord hid hk with hold | ⟨rfl, _⟩
    · exact .inl (hnothing.underWay k hold)
    · exact .inr hpostpones
  · exact .inr (.inl ⟨context, hc ▸ UnderWay.form_self m hrecord hid⟩)

end Safe

/-- A control command is in no configuration context. -/
lemma Safe.not_config {D : TimePoint} {c : String} {b : RuntimeBundle} (h : Safe D c b)
    (hw : Wellformed b) {context : RequestContext} {r : CommandRecord}
    (hcontext : ContextOf b.trace context r) (htype : context.commandType = .config) :
    r.commandId ≠ c := by
  intro hid
  obtain ⟨s, hknown, hs, hcontrol⟩ := h.control
  have hsame := hcontext.known.sameCommand hw.created hknown (hid.trans hs.symm)
  rw [hcontext.commandType, hsame.commandType, hcontrol] at htype
  cases htype

/-- The error of a timeout that was asked for is that of the record. -/
lemma Asked.errorCode {events : List Event} {d : CommandRecord} {task : TransitionCommandTask}
    (h : Asked events d task) (htimeout : task.desired = .timeout) :
    task.update.errorCode = d.errorCode := by
  obtain ⟨m, cause, hdesire, rfl | ⟨current, _, _, _, _, _, rfl⟩⟩ := h
  · rw [hdesire.record]
    cases cause with
    | refused now => rfl
    | completed result now =>
        cases result with
        | true => cases htimeout
        | false => rfl
    | acknowledged ack now => rfl
    | expired now => rfl
  · rfl

/-- What the change of one tick keeps. -/
def Safe.Keeps (D : TimePoint) (c : String) (b b' : RuntimeBundle) : Prop :=
  Safe D c b' ∧ Grown (fun e => ¬ e.SubmitsTimeout c) b b'

/-- A row that has moved on and is not finished can be finished. -/
lemma canTransition_of_lt {s t u : CommandStatus} (hlt : StatusLt s t)
    (hopen : t.isTerminal = false)
    (hterm : u.isTerminal = true) : t.canTransition u = true := by
  have hrank := hlt.1.rank_le
  cases t with
  | pending =>
      cases s with
      | pending => exact absurd rfl hlt.2
      | _ => cases hrank
  | dispatched => cases u <;> first | rfl | cases hterm
  | inProgress => cases u <;> first | rfl | cases hterm
  | _ => cases hopen

/-- A result without consequences answers no transition of the command, if the
condition on the answers is met. -/
lemma Consumed.not_isFor {cfg : CommandServiceConfig} {b : RuntimeBundle} {i : ℕ}
    {value : Except DatabaseError CommandDatabaseValue} {rest : List CommandDatabaseResult}
    {events : List Event} {operation : Operation} {c : String} (h : Consumed cfg b i value events)
    (hw : Wellformed b) (hhead : b.databaseResults = ⟨i, value⟩ :: rest)
    (hop : b.operations.lookup i = some operation) (hfor : operation.IsFor c)
    (hanswer : (reported value).isSome ∨ (operation.kind = .transition ∧
      (b.toPostgresWorker.submitCommand cfg.maxInflightCommands b.nextOperationId
        (.findCommandById c)).isSome ∧
      ∃ error, value = .error error ∧ isStateChangedError error.message = true)) : False := by
  obtain ⟨hkind, d, hd, _⟩ := hfor
  have hmoves : ∀ {kind : OperationKind}, operation.kind = kind → ¬ kind.Moves → False :=
    fun h hno => hno (h ▸ hkind)
  cases h with
  | unknown hnone =>
      rw [hop] at hnone
      cases hnone
  | failed hop' hvalue hno =>
      rw [hop] at hop'
      cases hop'
      rcases hanswer with hreported | ⟨htransition, _, error, herror, hchanged⟩
      · rw [hvalue] at hreported
        cases hreported
      · rw [hvalue] at herror
        cases herror
        exact hno ⟨htransition, hchanged, by rw [hd]; rfl⟩
  | @ignored operation' answer hop' hvalue hignored =>
      rw [hop] at hop'
      cases hop'
      subst hvalue
      have hreported := hanswer.resolve_right (by rintro ⟨_, _, _, h, _⟩; cases h)
      rcases hignored with hcleanup | hunexpected | ⟨_, rfl | hnone⟩ | ⟨hfind, _⟩
      · exact hmoves hcleanup (by decide)
      · have hanswers := hw.head_answers hhead hop
        rcases hkind with htransition | hlookup
        · cases answer with
          | record r => exact hunexpected (by rw [htransition]; trivial)
          | found r =>
              rcases hanswers with ⟨h, _⟩ | ⟨h, _⟩ <;> rw [htransition] at h <;> cases h
          | records rs => exact hanswers
          | count n => exact hmoves hanswers (by decide)
        · cases answer with
          | found r => exact hunexpected (by rw [hlookup]; trivial)
          | record r =>
              rcases hanswers with ⟨h, _⟩ | ⟨h, _⟩ <;> rw [hlookup] at h <;> cases h
          | records rs => exact hanswers
          | count n => exact hmoves hanswers (by decide)
      · cases hreported
      · rw [hd] at hnone
        cases hnone
      · exact hmoves hfind (by decide)
  | rejected hop' hwhich =>
      rw [hop] at hop'
      cases hop'
      rcases hwhich with ⟨hfind, _⟩ | ⟨_, hinsert, _⟩
      · exact hmoves hfind (by decide)
      · exact hmoves hinsert (by decide)
  | replayed hop' _ hwhich =>
      rw [hop] at hop'
      cases hop'
      rcases hwhich with ⟨hfind, _⟩ | ⟨_, hinsert, _⟩
      · exact hmoves hfind (by decide)
      · exact hmoves hinsert (by decide)

section Tick

variable {cfg : CommandServiceConfig} {D s e : TimePoint} {c : String} {b b' : RuntimeBundle}

/-- A result for another command is taken, and a transition of it formed. -/
lemma Safe.taken_form (h : Safe D c b) (hw : Wellformed b) {i : ℕ}
    {rest : List CommandDatabaseResult} {operation : Operation}
    (hop : b.operations.lookup i = some operation) {d : CommandRecord}
    (hrecord : operation.context.record = some d) {task : TransitionCommandTask}
    {target : Option ResolvedTarget} (hid : d.commandId = task.commandId)
    (hfor : operation.kind.Moves) (hdesired : task.desired = d.status)
    (herror : task.update.errorCode = d.errorCode) :
    Safe.Keeps D c b (submitTransitionOrDefer cfg (b.taken i rest)
      { operation.context with target := target } task) := by
  have htaken : StartsNothing c b (b.taken i rest) := (StartsNothing.refl hw).taken i rest
  by_cases hc : task.commandId = c
  · refine h.formed htaken hrecord hid hc ?_ hdesired fun _ => herror
    exact h.underWay operation.context (.operation hop ⟨hfor, d, hrecord, hid.trans hc⟩)
  · refine h.startsNothing (htaken.form hrecord hid hc) fun hbusy => ?_
    refine Busy.form (hbusy.taken rest fun operation' hop' hfor' => ?_) htaken.numbered hc
    rw [hop] at hop'
    cases hop'
    obtain ⟨_, d', hd', hc'⟩ := hfor'
    rw [hrecord] at hd'
    cases hd'
    exact hc (hid.symm.trans hc')

/-- A result that is taken ends no transition of the command. -/
lemma Busy.taken_kind (h : Busy b c) {i : ℕ} {rest : List CommandDatabaseResult}
    {operation : Operation} (hop : b.operations.lookup i = some operation)
    (hkind : ¬ operation.kind.Moves) : Busy (b.taken i rest) c :=
  h.taken rest fun operation' hop' hfor => by
    rw [hop] at hop'
    cases hop'
    exact hkind hfor.1

/-- A result of a transition of another command. -/
lemma Busy.taken_other (h : Busy b c) {i : ℕ} {rest : List CommandDatabaseResult}
    {operation : Operation} (hop : b.operations.lookup i = some operation) {d : CommandRecord}
    (hrecord : operation.context.record = some d) (hother : d.commandId ≠ c) :
    Busy (b.taken i rest) c :=
  h.taken rest fun operation' hop' hfor => by
    rw [hop] at hop'
    cases hop'
    obtain ⟨_, d', hd', hc⟩ := hfor
    rw [hrecord] at hd'
    cases hd'
    exact hother hc

/-- Neither the memory of the command nor what is under way has changed. -/
lemma Safe.quiet (h : Safe D c b) (hw : Wellformed b) (hpast : b'.past = b.past)
    (hlog : Grown (fun e => ¬ e.SubmitsTimeout c) b b')
    (hnext : b.nextOperationId ≤ b'.nextOperationId)
    (hops : ∀ i, b'.operations.lookup i = b.operations.lookup i)
    (hdeferred : b'.deferredTransitions.lookup c = b.deferredTransitions.lookup c)
    (hactive : b'.activeCommands.lookup c = b.activeCommands.lookup c)
    (hpublications : ∀ t, b'.publications.lookup t = b.publications.lookup t) :
    Safe.Keeps D c b b' := by
  refine h.startsNothing ((StartsNothing.refl hw).update hpast hlog hnext
    (fun i operation hop => hops i ▸ hop) hdeferred (fun k hk => hactive ▸ hk)
    fun t k r ht _ _ => hpublications t ▸ ht) fun hbusy => hbusy.same hops hdeferred

/-- The result of a transition of the command puts the deadline of the transition
into memory. -/
lemma Safe.remembered (h : Safe D c b) {i : ℕ}
    {rest : List CommandDatabaseResult} {operation : Operation}
    (hop : b.operations.lookup i = some operation) {d : CommandRecord}
    (hrecord : operation.context.record = some d)
    (hlate : d.commandId = c → D ≤ operation.context.deadline) (context : RequestContext)
    (hdeadline : context.deadline = operation.context.deadline)
    {early : Map String EarlyDeviceAck} (es : List Event)
    (hes : ∀ e ∈ es, ¬ e.SubmitsTimeout c) :
    Safe.Keeps D c b { b.taken i rest with
      activeCommands := b.activeCommands.insert d.commandId context
      earlyDeviceAcks := early
      log := es ++ b.log } := by
  have hgrown : Grown (fun e => ¬ e.SubmitsTimeout c) b { b.taken i rest with
      activeCommands := b.activeCommands.insert d.commandId context
      earlyDeviceAcks := early
      log := es ++ b.log } := ⟨es, rfl, hes⟩
  refine ⟨h.update rfl hgrown (fun _ _ _ ht _ _ => ht) (fun k hk => ?_) fun k hk => ?_, hgrown⟩
  · refine .inl (@UnderWay.of_taken b c k i rest ?_)
    exact hk.same (fun _ => rfl) rfl
  · rcases Map.lookup_insert_some.mp hk with ⟨hc, rfl⟩ | ⟨hc, hk⟩
    · exact .inl (hdeadline ▸ hlate hc.symm)
    · by_cases hbusy : Busy b c
      · refine .inr (.inl (@Busy.same (b.taken i rest) _ c ?_ (fun _ => rfl) rfl))
        exact hbusy.taken_other hop hrecord (Ne.symm hc)
      · exact .inr (.inr ⟨hk, hbusy⟩)

/-- A command ends; if the result was for `c`, it is that one. -/
lemma Safe.ended (h : Safe D c b) {i : ℕ} {rest : List CommandDatabaseResult}
    {commandId : String} {recovery : Finset String} {early : Map String EarlyDeviceAck}
    (es : List Event) (hes : ∀ e ∈ es, ¬ e.SubmitsTimeout c) {operation : Operation}
    (hop : b.operations.lookup i = some operation)
    (hown : operation.IsFor c → commandId = c) :
    Safe.Keeps D c b { b.taken i rest with
      activeCommands := b.activeCommands.erase commandId
      recoveryStarted := recovery
      earlyDeviceAcks := early
      log := es ++ b.log } := by
  have hgrown : Grown (fun e => ¬ e.SubmitsTimeout c) b { b.taken i rest with
      activeCommands := b.activeCommands.erase commandId
      recoveryStarted := recovery
      earlyDeviceAcks := early
      log := es ++ b.log } := ⟨es, rfl, hes⟩
  refine ⟨h.update rfl hgrown (fun _ _ _ ht _ _ => ht) (fun k hk => ?_) fun k hk => ?_, hgrown⟩
  · refine .inl (@UnderWay.of_taken b c k i rest ?_)
    exact hk.same (fun _ => rfl) rfl
  · obtain ⟨hne, hk⟩ := Map.lookup_erase_some.mp hk
    by_cases hbusy : Busy b c
    · refine .inr (.inl (@Busy.same (b.taken i rest) _ c ?_ (fun _ => rfl) rfl))
      refine hbusy.taken rest fun operation' hop' hfor => ?_
      rw [hop] at hop'
      cases hop'
      exact hne (hown hfor).symm
    · exact .inr (.inr ⟨hk, hbusy⟩)

/-- A device ACK gives new time from now on, or ends the command without a timeout
of the server. -/
lemma acknowledged_postpones (m : CommandRecord) (ack : DeviceAck) (type : CommandType)
    {context : RequestContext} {now : TimePoint} (hnow : s ≤ now) :
    ((acknowledged m ack type now).status = .inProgress ∧
        s + cfg.controlTimeout ≤
          if ack.desired = .inProgress then now + cfg.controlTimeout else context.deadline) ∨
      ((acknowledged m ack type now).status.isTerminal = true ∧
        ¬ ((acknowledged m ack type now).status = .timeout ∧
          (acknowledged m ack type now).errorCode = some "control_timeout")) := by
  rw [(Wellformed.sameCommand_acknowledged m ack type now).2]
  have hdesired : ack.desired = .timeout ∨ ack.desired = .failed ∨ ack.desired = .inProgress ∨
      ack.desired = .succeeded := by
    rw [DeviceAck.desired]
    split_ifs <;> simp
  rcases hdesired with htimeout | hfailed | hprogress | hsucceeded
  · refine .inr ⟨by rw [htimeout]; rfl, fun h => ?_⟩
    have hcode : (acknowledged m ack type now).errorCode = some "device_timeout" := by
      simp [acknowledged, htimeout]
    rw [hcode] at h
    exact absurd h.2 (by decide)
  · exact .inr ⟨by rw [hfailed]; rfl, fun h => by rw [hfailed] at h; cases h.1⟩
  · refine .inl ⟨hprogress, ?_⟩
    rw [if_pos hprogress]
    exact Int.add_le_add_right hnow _
  · exact .inr ⟨by rw [hsucceeded]; rfl, fun h => by rw [hsucceeded] at h; cases h.1⟩

/-- The new attempt at a deferred transition. -/
lemma Safe.retried (ht : Traced b) (h : Safe D c b) {key : String} {deferred : DeferredTransition}
    (hfound : b.deferredTransitions.lookup key = some deferred) :
    Safe.Keeps D c b (b.retryDeferred cfg key deferred) := by
  have hw := ht.sound.wellformed
  obtain ⟨hkey, d, hcontext, hid, hstatus⟩ := hw.deferred key deferred hfound
  have hsilent : ∀ i accepted,
      ¬ (Event.submitted i deferred.task.toTask accepted).SubmitsTimeout c := by
    rintro i accepted ⟨hc, htimeout, hcode⟩
    have hc' : key = c := hkey.symm.trans hc
    obtain ⟨d', hd', hway⟩ := h.underWay deferred.context (.deferred (hc' ▸ hfound))
    cases hcontext.unique hd'
    have herror := (ht.provenance.deferred key deferred d hfound hcontext.record).errorCode htimeout
    rcases hway with ⟨hprogress, _⟩ | ⟨_, hno⟩
    · rw [hstatus, htimeout] at hprogress
      cases hprogress
    · exact hno ⟨hstatus.trans htimeout, herror.symm.trans hcode⟩
  rcases retryDeferred_cases cfg b key deferred with heq | heq <;> rw [heq]
  · have hgrown : Grown (fun e => ¬ e.SubmitsTimeout c) b
        ({ b with deferredTransitions := b.deferredTransitions.erase key }.accepted .transition
          deferred.context deferred.task.toTask) :=
      ⟨[_], rfl, List.forall_mem_singleton.mpr (hsilent _ _)⟩
    have hop : ({ b with deferredTransitions := b.deferredTransitions.erase key }.accepted
        .transition deferred.context deferred.task.toTask).operations.lookup b.nextOperationId =
        some ⟨.transition, deferred.context⟩ := Map.lookup_insert_some.mpr (.inl ⟨rfl, rfl⟩)
    refine ⟨h.update rfl hgrown (fun _ _ _ ht _ _ => ht) (fun k hk => .inl ?_) (fun k hk => ?_),
      hgrown⟩
    · cases hk with
      | operation hop' hfor =>
          rcases Map.lookup_insert_some.mp hop' with ⟨_, rfl⟩ | ⟨_, hop'⟩
          · obtain ⟨_, d', hd', hc⟩ := hfor
            cases hcontext.unique hd'
            exact .deferred (hc ▸ hid ▸ hfound)
          · exact .operation hop' hfor
      | deferred hlookup => exact .deferred (Map.lookup_erase_some.mp hlookup).2
    · by_cases hbusy : Busy b c
      · refine .inr (.inl ?_)
        obtain ⟨k', hk'⟩ := hbusy
        cases hk' with
        | operation hop' hfor =>
            refine ⟨_, .operation (Map.lookup_insert_some.mpr (.inr ⟨?_, hop'⟩)) hfor⟩
            exact (hw.operations_lt _ _ hop').ne
        | deferred hlookup =>
            by_cases hc : key = c
            · exact ⟨_, .operation hop ⟨.inl rfl, d, hcontext.record, hid.trans hc⟩⟩
            · exact ⟨_, .deferred (Map.lookup_erase_some.mpr ⟨Ne.symm hc, hlookup⟩)⟩
      · exact .inr (.inr ⟨hk, hbusy⟩)
  · refine h.quiet hw rfl ⟨[_], rfl, List.forall_mem_singleton.mpr (hsilent _ _)⟩
      (Nat.le_succ _) (fun _ => rfl) ?_ rfl fun _ => rfl
    change ((b.deferredTransitions.erase key).insert deferred.task.commandId deferred).lookup c =
      b.deferredTransitions.lookup c
    rw [hkey, Map.lookup_insert_ite, Map.lookup_erase_ite]
    split
    · next hc => rw [hc, hfound]
    · rfl

/-- **What a tick keeps** between the ACK and the new deadline. -/
theorem Safe.tick (ht : Traced b) (h : Safe (s + cfg.controlTimeout) c b)
    (he : e ≤ s + cfg.controlTimeout) (htick : TickIf (deadlineLimits c s e) cfg b b')
    (hanswers : AnswersCommand cfg b c ∨ b.databaseResults.length ≤ b'.databaseResults.length) :
    Safe.Keeps (s + cfg.controlTimeout) c b b' := by
  have hw := ht.sound.wellformed
  have h₀ : StartsNothing c b b := .refl hw
  have hnum : Numbered b := hw.operations_lt
  have hsilent : ∀ e : Event, (∀ i task accepted, e ≠ .submitted i task accepted) →
      ¬ e.SubmitsTimeout c := by
    intro e he hsubmits
    cases e with
    | submitted i task accepted => exact he i task accepted rfl
    | _ => exact hsubmits
  -- a result is taken, so the condition on the answers is at hand
  have hhead : ∀ {i value rest}, b.databaseResults = ⟨i, value⟩ :: rest →
      b'.databaseResults = rest → AnswersCommand cfg b c := by
    intro i value rest hhead hrest
    refine hanswers.resolve_right fun hle => ?_
    rw [hhead, hrest, List.length_cons] at hle
    omega
  cases htick with
  | quiet hcore =>
      obtain ⟨es, hlog, hes⟩ := hcore.log
      refine h.quiet hw hcore.past ⟨es, hlog, fun e he => hsilent e ?_⟩
        hcore.nextOperationId.ge hcore.operations (hcore.deferredTransitions c)
        (hcore.activeCommands c) hcore.publications
      rintro i task accepted rfl
      exact hes _ he
  | @worker event hevent =>
      refine h.quiet hw rfl ⟨_, rfl, fun e he => hsilent e ?_⟩ le_rfl (fun _ => rfl) rfl rfl
        fun _ => rfl
      rcases mem_executionEvents.mp he with ⟨r, _, rfl⟩ | ⟨_, r, _, rfl⟩ | ⟨r, _, rfl⟩ <;>
        exact fun _ _ _ => Event.noConfusion
  | mqtt =>
      exact h.quiet hw rfl ⟨[_], rfl, by simp [Event.SubmitsTimeout]⟩ le_rfl (fun _ => rfl) rfl rfl
        fun _ => rfl
  | device =>
      exact h.quiet hw rfl ⟨[_], rfl, by simp [Event.SubmitsTimeout]⟩ le_rfl (fun _ => rfl) rfl rfl
        fun _ => rfl
  | find hnone =>
      refine h.startsNothing (h₀.submit ?_ fun _ _ => id) fun hbusy => hbusy.submit hnum _ _ _
      exact fun hfor => by simpa [OperationKind.Moves] using hfor.1
  | cleanup hnone =>
      refine h.startsNothing (h₀.submit ?_ fun _ _ => id) fun hbusy => hbusy.submit hnum _ _ _
      exact fun hfor => by simpa [OperationKind.Moves] using hfor.1
  | @consumed operationId value rest events hresult hconsumed =>
      have hanswered := hhead hresult rfl
      have hlog : Grown (fun e => ¬ e.SubmitsTimeout c) (b.taken operationId rest)
          { b.taken operationId rest with log := events ++ b.log } := by
        refine ⟨events, rfl, fun e he => hsilent e ?_⟩
        rintro i task accepted rfl
        cases hconsumed <;> simp at he
      refine h.startsNothing ((h₀.taken operationId rest).update rfl hlog le_rfl (fun _ _ h => h)
        rfl (fun _ h => h) fun _ _ _ h _ _ => h) fun hbusy => ?_
      have htaken : Busy (b.taken operationId rest) c :=
        hbusy.taken rest fun operation hop hfor =>
          hconsumed.not_isFor hw hresult hop hfor (hanswered _ _ _ _ hresult hop hfor)
      exact htaken.same (fun _ => rfl) rfl
  | @create answers operationId operation rest requestId payload hresult hop hkind hrequest hpayload
      hfresh =>
      have hemit : StartsNothing c b ((b.taken operationId rest).emit (.created operationId
          (b.newCommand answers operation.context requestId payload).1)) :=
        (h₀.taken operationId rest).emit (by simp [Event.SubmitsTimeout])
      refine h.startsNothing (hemit.submit ?_ fun _ _ => id) fun hbusy => ?_
      · exact fun hfor => by simpa [OperationKind.Moves] using hfor.1
      · have htaken : Busy (b.taken operationId rest) c :=
          hbusy.taken_kind hop (by rw [hkind]; decide)
        have hsame : Busy ((b.taken operationId rest).emit (.created operationId
            (b.newCommand answers operation.context requestId payload).1)) c :=
          htaken.same (fun _ => rfl) rfl
        exact hsame.submit hemit.numbered _ _ _
  | @conflict operationId operation rest error desired hresult hop hkind hchanged hrecord =>
      have htaken := h₀.taken operationId rest
      by_cases hc : desired.commandId = c
      · -- the lookup takes the place of the transition
        have hfor : operation.IsFor c := ⟨.inl hkind, desired, hrecord, hc⟩
        have hunder : UnderWay ((b.taken operationId rest).submit cfg .findByIdForConvergence
            operation.context (.findCommandById desired.commandId)).2 c operation.context := by
          have hworker := hhead hresult (databaseResults_submit ..) _ _ _ _ hresult hop hfor
          rw [← hc] at hworker
          exact UnderWay.submit_self (hworker.resolve_left (by simp [reported])).2.1
            ⟨.inr rfl, desired, hrecord, hc⟩
        have hgrown : Grown (fun e => ¬ e.SubmitsTimeout c) b ((b.taken operationId rest).submit cfg
            .findByIdForConvergence operation.context (.findCommandById desired.commandId)).2 :=
          htaken.grown_submit fun _ _ => id
        refine ⟨h.update (past_submit ..) hgrown (fun t k r ht _ _ => ?_) (fun k hk => ?_)
          (fun k hk => .inr (.inl ⟨_, hunder⟩)), hgrown⟩
        · rwa [publications_submit] at ht
        · rcases UnderWay.of_submit hk with hold | ⟨rfl, _⟩
          · exact .inl hold.of_taken
          · exact .inl (.operation hop hfor)
      · refine h.startsNothing (htaken.submit ?_ fun _ _ => id) fun hbusy =>
          (hbusy.taken_other hop hrecord hc).submit htaken.numbered _ _ _
        rintro ⟨_, d, hd, hid⟩
        rw [hrecord] at hd
        cases hd
        exact hc hid
  | @activate answers operationId operation rest record now hresult hop hkind hown hopen =>
      have hother : record.commandId ≠ c := by
        obtain ⟨own, hcontext, hsame⟩ := hw.insert_result hresult hop hkind hown
        obtain ⟨event, hevent, hc⟩ := h.touched
        intro hid
        rw [hsame.commandId] at hid
        exact (ht.sound.lifecycle.unborn operationId operation own hop hkind hcontext.record).2
          event hevent (hid ▸ hc)
      have hset : StartsNothing c b { b.taken operationId rest with
          activeCommands := b.activeCommands.insert record.commandId
            { operation.context with record := some record } } :=
        (h₀.taken operationId rest).update rfl ⟨[], rfl, by simp⟩ le_rfl (fun _ _ h => h) rfl
          (fun k hk => by
            rcases Map.lookup_insert_some.mp hk with ⟨hc, _⟩ | ⟨_, hk⟩
            · exact absurd hc.symm hother
            · exact hk)
          fun _ _ _ h _ _ => h
      have hnew : ∀ r, ({ operation.context with record := some record } : RequestContext).record =
          some r → r.commandId ≠ c := by
        intro r hr
        cases hr
        exact hother
      refine h.startsNothing (hset.publish hnew) fun hbusy => ?_
      have htaken : Busy (b.taken operationId rest) c :=
        hbusy.taken_kind hop (by rw [hkind]; decide)
      have hsame : Busy { b.taken operationId rest with
          activeCommands := b.activeCommands.insert record.commandId
            { operation.context with record := some record } } c :=
        htaken.same (fun _ => rfl) rfl
      exact hsame.publish hset.numbered hnew
  | @refresh operationId operation rest record context now hresult hop hkind hopen _ _ _ _ _
      hdeadline =>
      obtain ⟨desired, hcontext, hsame, hstatus⟩ := hw.transition_result hresult hop hkind
      rw [hsame.commandId]
      refine h.remembered hop hcontext.record (fun hc => ?_) context
        hdeadline [_] (by simp [Event.SubmitsTimeout])
      obtain ⟨d, hd, hway⟩ :=
        h.underWay _ (.operation hop ⟨.inl hkind, desired, hcontext.record, hc⟩)
      rw [hcontext.unique hd] at hway
      rcases hway with ⟨_, hlate⟩ | ⟨hterm, _⟩
      · exact hlate
      · rw [hstatus, hterm] at hopen
        cases hopen
  | @settle operationId operation rest current desired hresult hop hkind hrecord hopen hstays =>
      obtain ⟨desired', hcontext, hsame⟩ := hw.lookup_result hresult hop hkind
      cases hcontext.unique hrecord
      rw [hsame.commandId]
      refine h.remembered hop hrecord (fun hc => ?_)
        { operation.context with record := some current, target := b.targetFor current } rfl []
        (by simp)
      obtain ⟨d, hd, hway⟩ := h.underWay _ (.operation hop ⟨.inr hkind, desired, hrecord, hc⟩)
      rw [hcontext.unique hd] at hway
      rcases hway with ⟨_, hlate⟩ | ⟨hterm, _⟩
      · exact hlate
      · -- the row has left the status it had when the transition was formed
        obtain ⟨m, _, _, hlt⟩ := ht.provenance.found operationId current operation desired
          (by rw [hresult]; simp) hop hkind hrecord
        rcases hstays with heq | hstuck
        · rw [heq, hterm] at hopen
          cases hopen
        · rw [canTransition_of_lt hlt hopen hterm] at hstuck
          cases hstuck
  | @converge operationId operation rest current desired target update commandId hrecord hwhich hop
      hopen hcan herror =>
      rcases hwhich with ⟨hresult, hkind, _, _, rfl⟩ | ⟨hresult, hkind, _, _, rfl⟩
      · obtain ⟨desired', hcontext, hsame⟩ := hw.lookup_result hresult hop hkind
        cases hcontext.unique hrecord
        exact h.taken_form hw hop hrecord hsame.commandId.symm (.inr hkind) rfl herror
      · exact h.taken_form hw hop hrecord rfl (.inl hkind) rfl herror
  | @finish operationId operation rest record value context now hresult hop hwhich =>
      refine h.ended [_] (by simp [Event.SubmitsTimeout]) hop fun hfor => ?_
      obtain ⟨hkind, d, hd, hid⟩ := hfor
      rcases hwhich with ⟨htransition, rfl⟩ | ⟨hinsert, _⟩ | ⟨hlookup, rfl, _⟩
      · obtain ⟨desired, hcontext, hsame, _⟩ := hw.transition_result hresult hop htransition
        rw [hsame.commandId, ← hcontext.unique hd, hid]
      · rw [hinsert] at hkind
        exact absurd hkind (by decide)
      · obtain ⟨desired, hcontext, hsame⟩ := hw.lookup_result hresult hop hlookup
        rw [hsame.commandId, ← hcontext.unique hd, hid]
  | @finished operationId operation rest record hresult hop hkind =>
      refine h.ended [] (by simp) hop fun hfor => ?_
      obtain ⟨_, d, hd, hid⟩ := hfor
      obtain ⟨desired, hcontext, hsame⟩ := hw.lookup_result hresult hop hkind
      rw [hsame.commandId, ← hcontext.unique hd, hid]
  | @deviceAck context record ack deviceId payload type now hparse hactive hrecord _ htype _ _
      hlimit =>
      obtain ⟨r, hcontext, _, hid⟩ := hw.active _ context hactive
      cases hcontext.unique hrecord
      obtain ⟨hsame, hstatus⟩ := Wellformed.sameCommand_acknowledged record ack type now
      have hemit : StartsNothing c b
        (b.emit (.deviceAcked deviceId type ack (some record.status))) :=
        h₀.emit (by simp [Event.SubmitsTimeout])
      rw [applyDeviceAck_eq]
      by_cases hc : ack.commandId = c
      · refine h.formed hemit rfl hsame.commandId (hid.trans hc) ⟨_, rfl, ?_⟩ hstatus.symm
          fun _ => rfl
        exact acknowledged_postpones record ack type (hlimit hc)
      · have hother : record.commandId ≠ c := hid ▸ hc
        refine h.startsNothing (hemit.form rfl hsame.commandId hother) fun hbusy => ?_
        have hsame : Busy (b.emit (.deviceAcked deviceId type ack (some record.status))) c :=
          hbusy.same (fun _ => rfl) rfl
        exact hsame.form hemit.numbered hother
  | @buffer context record ack deviceId payload type now =>
      rcases bufferEarlyAck_cases cfg (b.emit (.deviceAcked deviceId type ack
        (some record.status))) type ack ⟨deviceId, payload, now⟩ with
        ⟨kept, _, heq⟩ | ⟨message, heq⟩ <;> rw [heq]
      · exact h.quiet hw rfl ⟨[_], rfl, by simp [Event.SubmitsTimeout]⟩ le_rfl (fun _ => rfl) rfl
          rfl fun _ => rfl
      · exact h.quiet hw rfl ⟨[_, _], rfl, by simp [Event.SubmitsTimeout]⟩ le_rfl (fun _ => rfl)
          rfl rfl fun _ => rfl
  | @timeout commandId context record now hactive hrecord hdeadline hmarked hdue =>
      obtain ⟨r, hcontext, _, hid⟩ := hw.active _ context hactive
      cases hcontext.unique hrecord
      have hother : commandId ≠ c := by
        rintro rfl
        obtain ⟨hnow, hidle⟩ := hdue rfl
        rcases h.active context hactive with hlate | hbusy
        · exact absurd (hlate.trans hdeadline) (not_le.mpr (hnow.trans_le he))
        · exact hidle ⟨hmarked, context, hactive, hdeadline⟩ hbusy
      have hmark : StartsNothing c b
          { b with recoveryStarted := insert commandId b.recoveryStarted } :=
        h₀.update rfl ⟨[], rfl, by simp⟩ le_rfl (fun _ _ h => h) rfl (fun _ h => h)
          fun _ _ _ h _ _ => h
      refine h.startsNothing (hmark.form (d := timedOut record context.commandType now) rfl hid
        hother) fun hbusy => ?_
      have hsame : Busy { b with recoveryStarted := insert commandId b.recoveryStarted } c :=
        hbusy.same (fun _ => rfl) rfl
      exact hsame.form hmark.numbered hother
  | @republish answers commandId deviceId context record now hactive hrecord htype =>
      obtain ⟨r, hcontext, _, hid⟩ := hw.active _ context hactive
      have hother : ∀ r', context.record = some r' → r'.commandId ≠ c := fun r' hr' => by
        rw [hcontext.unique hr']
        exact h.not_config hw hcontext htype
      have hmark : StartsNothing c b
          { b with recoveryStarted := insert commandId b.recoveryStarted } :=
        h₀.update rfl ⟨[], rfl, by simp⟩ le_rfl (fun _ _ h => h) rfl (fun _ h => h)
          fun _ _ _ h _ _ => h
      refine h.startsNothing (hmark.publish hother) fun hbusy => ?_
      have hsame : Busy { b with recoveryStarted := insert commandId b.recoveryStarted } c :=
        hbusy.same (fun _ => rfl) rfl
      exact hsame.publish hmark.numbered hother
  | @complete completion context now hfound =>
      have htaken : ∀ (es : List Event), (∀ e ∈ es, ¬ e.SubmitsTimeout c) →
        StartsNothing c b { b with
          publications := b.publications.erase completion.token
          log := es ++ b.log } := fun es hes =>
        h₀.update rfl ⟨es, rfl, hes⟩ le_rfl (fun _ _ h => h) rfl (fun _ h => h)
          fun _ _ _ ht _ _ => (Map.lookup_erase_some.mp ht).2
      rcases handleCompletion_cases cfg now hfound with
        ⟨_, heq⟩ | ⟨record, hrecord, ⟨_, _, heq⟩ | ⟨_, heq⟩⟩ <;> rw [heq]
      · exact h.startsNothing (htaken [] (by simp)) fun hbusy => hbusy.same (fun _ => rfl) rfl
      · exact h.startsNothing (htaken [_] (by simp [Event.SubmitsTimeout])) fun hbusy =>
          hbusy.same (fun _ => rfl) rfl
      · have hother := h.unpublished _ context record hfound hrecord
        have hset := htaken [.completed record completion.result] (by simp [Event.SubmitsTimeout])
        refine h.startsNothing (hset.form (d := publishCompleted record context.commandType
          completion.result now) rfl ?_ hother) fun hbusy => ?_
        · exact (Wellformed.sameCommand_publishCompleted record _ _ now).commandId
        · have hsame : Busy (b.completionTaken completion.token record completion.result) c :=
            hbusy.same (fun _ => rfl) rfl
          exact hsame.form hset.numbered hother
  | @retry key deferred hfound => exact h.retried ht hfound

end Tick

/-! ### The ACK -/

/-- A command that has been dispatched has had its completion. -/
lemma Traced.completed {b : RuntimeBundle} (ht : Traced b) :
    ∀ r ∈ committedRows b.trace, r.status = .dispatched ∨ r.status = .inProgress →
      ∃ r' result, .completed r' result ∈ b.trace ∧ r'.commandId = r.commandId := by
  refine ht.provenance.rows.forall_rows fun l r hl hr ih hstatus => ?_
  cases hr with
  | recovered => rcases hstatus with h | h <;> cases h
  | written hr =>
      cases hr with
      | @inserted i command hcreated _ =>
          have hnew := (ht.created i command (hl hcreated)).status
          have hstored : command.stored.status = command.status := rfl
          rw [hstored] at hstatus
          rcases hnew with h | ⟨h, _⟩ <;>
          · rw [h] at hstatus
            rcases hstatus with h | h <;> cases h
      | @moved row d task _ hid _ _ hasked =>
          obtain ⟨m, cause, hdesire, htask⟩ := id hasked
          have hcommand : row.commandId = m.commandId := by
            rw [hid, hasked.commandId, hdesire.commandId]
          have hdesired : (cause.desired m).status = task.desired := by
            rcases htask with rfl | ⟨current, _, _, _, _, _, rfl⟩
            · exact (Cause.task_desired m cause).symm
            · rw [← hdesire.record]
              rfl
          have hmoved : (cause.desired m).status = .dispatched ∨
              (cause.desired m).status = .inProgress := by
            rw [hdesired]
            exact hstatus
          cases cause with
          | refused now => rcases hmoved with h | h <;> cases h
          | completed result now =>
              exact ⟨m, result, hl hdesire.evidence.1, hcommand.symm⟩
          | acknowledged ack now =>
              obtain ⟨_, _, _, _, _, hbefore, _⟩ := hdesire.evidence
              obtain ⟨r', result, hmem, hr'⟩ := ih m hdesire.row hbefore
              exact ⟨r', result, hmem, hr'.trans hcommand.symm⟩
          | expired now => rcases hmoved with h | h <;> cases h

section Ack

variable {cfg : CommandServiceConfig} {c : String} {b b' : RuntimeBundle} {answers : Answers}
  {now : TimePoint}

/-- What handling the ACK does. -/
lemma HandlesProgress.processNext (h : HandlesProgress cfg b c) :
    ∃ rest deviceId ack context record, ack.commandId = c ∧ ack.desired = .inProgress ∧
      b.activeCommands.lookup c = some context ∧ context.record = some record ∧
      context.commandType = .control ∧ (record.status = .dispatched ∨ record.status = .inProgress) ∧
      b.processNext cfg answers now = RuntimeBundle.applyDeviceAck cfg
        ({ b with messages := rest }.emit (.deviceAcked deviceId .control ack (some record.status)))
        context record ack .control now := by
  obtain ⟨message, rest, deviceId, ack, context, record, hmessages, htopic, hparse, hid, hdesired,
    hactive, hrecord, hdevice, htype, hrepeats, hstatus⟩ := h.message
  refine ⟨rest, deviceId, ack, context, record, hid, hdesired, hactive, hrecord, htype, hstatus, ?_⟩
  obtain ⟨hconfig, _⟩ | ⟨_, ⟨error, hother⟩, hcontrol⟩ := htopic
  · cases hconfig
  · have hopen : record.status ≠ .pending := by
      rcases hstatus with h | h <;> rw [h] <;> decide
    have hlive : ¬ (record.status ≠ .dispatched ∧ record.status ≠ .inProgress) := by
      rcases hstatus with h | h <;> simp [h]
    have hfound : { b with messages := rest }.activeCommands.lookup ack.commandId =
      some context := by
      rw [hid]
      exact hactive
    rw [RuntimeBundle.processNext]
    simp only [h.results, h.completions, hmessages, RuntimeBundle.handleMessage, hother, hcontrol,
      RuntimeBundle.handleDeviceAck, hparse, hfound, hrecord]
    rw [if_neg (by simp [hdevice, htype]), if_neg (by simp [hrepeats]), if_neg hopen, if_neg hlive]

/-- A transition of an idle control command that gives it time. -/
lemma Safe.begun {D : TimePoint} {m : RuntimeBundle} (hnothing : StartsNothing c b m)
    (hidle : ¬ Busy b c)
    (hcontrol : ∃ r, Known b.trace r ∧ r.commandId = c ∧ r.commandType = .control)
    (htouched : ∃ e ∈ b.trace, e.Touches c)
    (hunpublished : ∀ t context r, b.publications.lookup t = some context →
      context.record = some r → r.commandId ≠ c)
    {context : RequestContext} {task : TransitionCommandTask} {d : CommandRecord}
    (hrecord : context.record = some d) (hid : d.commandId = task.commandId)
    (hc : task.commandId = c) (hpostpones : Postpones D context)
    (htimeout : task.desired ≠ .timeout) :
    Safe.Keeps D c b (m.submitTransitionOrDefer cfg context task) := by
  have hgrown : Grown (fun e => ¬ e.SubmitsTimeout c) b
      (m.submitTransitionOrDefer cfg context task) :=
    StartsNothing.grown_form hnothing.grown fun _ _ hsubmits => htimeout hsubmits.2.1
  have htrace : ∀ e ∈ b.trace, e ∈ (m.submitTransitionOrDefer cfg context task).trace := by
    obtain ⟨es, hes, _⟩ := hgrown
    simp only [RuntimeBundle.trace]
    rw [hes, past_form, hnothing.past, List.append_assoc]
    exact fun e he => List.mem_append_right _ he
  refine ⟨⟨?_, ?_, ?_, ?_, ?_⟩, hgrown⟩
  · obtain ⟨r, hr, hrest⟩ := hcontrol
    exact ⟨r, hr.mono htrace, hrest⟩
  · obtain ⟨e, he, hc⟩ := htouched
    exact ⟨e, htrace e he, hc⟩
  · intro t k r ht hr hid'
    rw [publications_form] at ht
    exact hunpublished t k r (hnothing.publications t k r ht hr hid') hr hid'
  · intro k hk
    rcases UnderWay.of_form hrecord hid hk with hold | ⟨rfl, _⟩
    · exact absurd ⟨k, hnothing.underWay k hold⟩ hidle
    · exact hpostpones
  · exact fun k _ => .inr ⟨context, hc ▸ UnderWay.form_self m hrecord hid⟩

/-- **The ACK makes the command safe** until the new deadline, if no transition of
it was under way. -/
lemma HandlesProgress.safe (ht : Traced b) (hsent : SentOnce b) (h : HandlesProgress cfg b c)
    (hidle : ¬ Busy b c) :
    Safe.Keeps (now + cfg.controlTimeout) c b (b.processNext cfg answers now) := by
  obtain ⟨rest, deviceId, ack, context, record, hid, hdesired, hactive, hrecord, htype, hstatus,
    heq⟩ := @HandlesProgress.processNext cfg c b answers now h
  have hw := ht.sound.wellformed
  obtain ⟨r, hcontext, _, hcommand⟩ := hw.active c context hactive
  cases hcontext.unique hrecord
  have hcontrol : record.commandType = .control := hcontext.commandType.symm.trans htype
  obtain ⟨r', result, hcompleted, hr'⟩ := ht.completed record
    (ht.provenance.active c context record hactive hrecord) hstatus
  rw [hcommand] at hr'
  obtain ⟨hsame, hacked⟩ := Wellformed.sameCommand_acknowledged record ack .control now
  have hemit : StartsNothing c b ({ b with messages := rest }.emit
      (.deviceAcked deviceId .control ack (some record.status))) :=
    (StartsNothing.refl hw).update rfl ⟨[_], rfl, by simp [Event.SubmitsTimeout]⟩ le_rfl
      (fun _ _ h => h) rfl (fun _ h => h) fun _ _ _ h _ _ => h
  rw [heq, applyDeviceAck_eq]
  refine Safe.begun hemit hidle ⟨record, hcontext.known, hcommand, hcontrol⟩
    ⟨_, hcompleted, hr'⟩ (fun t k r ht' hr hid' => ?_) rfl hsame.commandId hcommand
    ⟨_, rfl, .inl ⟨hacked.trans hdesired, by rw [if_pos hdesired]⟩⟩ fun htimeout => ?_
  · -- its publication has been completed, and there is no other
    obtain ⟨s, hpublished, _⟩ := hw.publications t k ht'
    cases hpublished.unique hr
    have hkind := hpublished.known.sameCommand hw.created hcontext.known (hid'.trans hcommand.symm)
    exact hsent.uncompleted t k _ ht' hr (hkind.commandType.trans hcontrol) r' result hcompleted
      (hr'.trans hid'.symm)
  · have htimeout : ack.desired = .timeout := htimeout
    rw [hdesired] at htimeout
    cases htimeout

end Ack

/-! ### Runs -/

section Run

variable {cfg : CommandServiceConfig} {c : String} {s e : TimePoint} {b b' : RuntimeBundle}

/-- The visits of an input are at its time. -/
lemma Input.time_of_visit {input : Input} {p : RuntimeBundle × String × TimePoint}
    (hp : p ∈ input.visits cfg b) : input.time = some p.2.2 := by
  cases input with
  | finishReady answers now =>
      obtain ⟨q, _, rfl⟩ := List.mem_map.mp hp
      rfl
  | updateDevice answers devices record published now =>
      simp only [Input.visits] at hp
      split at hp
      · obtain ⟨q, _, rfl⟩ := List.mem_map.mp hp
        rfl
      · cases hp
  | _ => cases hp

/-- What the condition says of each tick of the input. -/
lemma Safe.meets {D : TimePoint} (hw : Wellformed b) (hnamed : EarlyNamed cfg b) (h : Safe D c b)
    {input : Input} (hkeeps : input.KeepsDeadline cfg c b) (hwithin : input.Within s e) :
    input.Meets (deadlineLimits c s e) cfg b where
  turns _ _ := trivial
  visits p hp hc :=
    ⟨(hwithin _ (Input.time_of_visit hp)).2, fun hdue => hkeeps.2 p hp hc (hc ▸ hdue)⟩
  heard := by
    cases input with
    | processNext answers now =>
        refine ⟨?_, fun _ _ _ _ _ _ _ _ _ _ _ => (hwithin now rfl).1⟩
        -- no dispatch of the command is under way, so no buffered ACK of it is applied
        intro operationId operation record rest early type ack m hhead hop hkind hdispatched hearly
          hparse _ _ hc
        obtain ⟨desired, hcontext, hsame, hstatus⟩ := hw.transition_result hhead hop hkind
        have hid : desired.commandId = c := by
          rw [← hsame.commandId, ← hnamed _ early hearly type ack hparse]
          exact hc
        obtain ⟨d, hd, hway⟩ :=
          h.underWay _ (.operation hop ⟨.inl hkind, desired, hcontext.record, hid⟩)
        rw [hcontext.unique hd, ← hstatus, hdispatched] at hway
        rcases hway with ⟨hprogress, _⟩ | ⟨hterm, _⟩
        · cases hprogress
        · cases hterm
    | _ => trivial

/-- A new process knows no control command. -/
lemma Safe.restarted {D : TimePoint} (h : Safe D c b) (hw' : Wellformed b')
    (hrestart : Restarted cfg b b') :
    Safe D c b' ∧ ∃ es, b'.trace = es ++ b.trace ∧ ∀ e ∈ es, ¬ e.SubmitsTimeout c := by
  obtain ⟨written, _, hpast⟩ := hrestart.recovery
  have htrace : b'.trace = (b'.log ++ written.map .committed) ++ b.trace := by
    simp only [RuntimeBundle.trace] at hpast ⊢
    rw [hpast, List.append_assoc]
  have hmem : ∀ e ∈ b.trace, e ∈ b'.trace := fun e he => by
    rw [htrace]
    exact List.mem_append_right _ he
  have hcontrol : ∃ r, Known b'.trace r ∧ r.commandId = c ∧ r.commandType = .control := by
    obtain ⟨r, hr, hrest⟩ := h.control
    exact ⟨r, hr.mono hmem, hrest⟩
  refine ⟨⟨hcontrol, ?_, ?_, ?_, ?_⟩, _, htrace, fun e he hsubmits => ?_⟩
  · obtain ⟨e, he, hc⟩ := h.touched
    exact ⟨e, hmem e he, hc⟩
  · intro t k r ht
    rw [hrestart.publications] at ht
    cases ht
  · intro k hk
    cases hk with
    | operation hop hfor => rw [hrestart.operations] at hop; cases hop
    | deferred hlookup => rw [hrestart.deferredTransitions] at hlookup; cases hlookup
  · intro k hk
    obtain ⟨row, source, hid, htype, _, hrow, rfl⟩ := hrestart.activeCommands c k hk
    obtain ⟨r, hr, hr', hrtype⟩ := hcontrol
    have hsame := (hw'.table c row hrow).sameCommand hw'.created hr (hid.trans hr'.symm)
    rw [hsame.commandType, hrtype] at htype
    cases htype
  · rcases List.mem_append.mp he with he | he
    · rcases hrestart.log e he with rfl | ⟨message, rfl⟩ <;> exact hsubmits
    · obtain ⟨r, _, rfl⟩ := List.mem_map.mp he
      exact hsubmits

/-- The command is safe, and no timeout of it has been submitted since `base`. -/
structure Waiting (cfg : CommandServiceConfig) (D : TimePoint) (c : String) (base : List Event)
    (b : RuntimeBundle) : Prop where
  traced : Traced b
  named : EarlyNamed cfg b
  safe : Safe D c b
  none : ∃ es, b.trace = es ++ base ∧ ∀ e ∈ es, ¬ e.SubmitsTimeout c

lemma Waiting.input {base : List Event} (h : Waiting cfg (s + cfg.controlTimeout) c base b)
    (he : e ≤ s + cfg.controlTimeout) {input : Input} (henabled : input.Enabled cfg b)
    (hkeeps : input.KeepsDeadline cfg c b) (hwithin : input.Within s e) :
    Waiting cfg (s + cfg.controlTimeout) c base (input.apply cfg b) := by
  have hextend : ∀ {m m' : RuntimeBundle} {es : List Event},
      (∃ es, m.trace = es ++ base ∧ ∀ e ∈ es, ¬ e.SubmitsTimeout c) → m'.trace = es ++ m.trace →
      (∀ e ∈ es, ¬ e.SubmitsTimeout c) →
      ∃ es, m'.trace = es ++ base ∧ ∀ e ∈ es, ¬ e.SubmitsTimeout c := by
    rintro m m' es ⟨es₀, hes₀, hno₀⟩ hes hno
    refine ⟨es ++ es₀, by rw [hes, hes₀, List.append_assoc], fun e he => ?_⟩
    exact (List.mem_append.mp he).elim (hno e) (hno₀ e)
  by_cases hrestart : ∃ sources devices now, input = .restart sources devices now
  · obtain ⟨sources, devices, now, rfl⟩ := hrestart
    have hspec := RuntimeBundle.restart_spec cfg b sources devices now
    have htraced := h.traced.restarted hspec
    obtain ⟨hsafe, es, hes, hno⟩ := h.safe.restarted htraced.sound.wellformed hspec
    exact ⟨htraced, .restarted hspec, hsafe, hextend h.none hes hno⟩
  · push Not at hrestart
    have hmeets := h.safe.meets h.traced.sound.wellformed h.named hkeeps hwithin
    refine Input.keeps (fun m m' hm htick hwhen => ?_) henabled hmeets hrestart h
    have hanswers : AnswersCommand cfg m c ∨
        m.databaseResults.length ≤ m'.databaseResults.length := by
      rcases hwhen with ⟨rfl, hprocess⟩ | hle
      · exact .inl (hkeeps.1 hprocess)
      · exact .inr hle
    obtain ⟨hsafe, es, hes, hno⟩ := hm.safe.tick hm.traced he htick hanswers
    refine ⟨hm.traced.tick htick.tick, hm.named.tick htick.tick, hsafe, hextend hm.none ?_ hno⟩
    simp only [RuntimeBundle.trace]
    rw [hes, (Tick.touch hm.traced.sound.wellformed htick.tick).past, List.append_assoc]

/-- **The server submits no timeout before the new deadline**, in the runs in which
no transition of the command is under way at the ACK, and the transitions after it
are answered before a scan comes to the command when it is overdue. -/
theorem timeout_deferred {answers : Answers} {t : TimePoint} {inputs : List Input}
    (hb : (routeService cfg).Reachable b) (hack : HandlesProgress cfg b c) (hidle : ¬ Busy b c)
    (henabled : (Input.processNext answers t).Enabled cfg b)
    (hrun : ((routeService cfg).restrict fun b input => input.KeepsDeadline cfg c b ∧
      input.Within t (t + cfg.controlTimeout)).Run (b.processNext cfg answers t) inputs b') :
    ∃ es, b'.trace = es ++ b.trace ∧ ∀ e ∈ es, ¬ e.SubmitsTimeout c := by
  have hstep : (routeService cfg).enabled b (.processNext answers t) := henabled
  have hnext : (routeService cfg).Reachable (b.processNext cfg answers t) := hb.step hstep
  obtain ⟨hsafe, es, hes, hno⟩ := @HandlesProgress.safe cfg c b answers t
    (traced_of_reachable hb) (sentOnce_of_reachable hb) hack hidle
  have hstart : Waiting cfg (t + cfg.controlTimeout) c b.trace (b.processNext cfg answers t) := by
    refine ⟨traced_of_reachable hnext, earlyNamed_of_reachable hnext, hsafe, es, ?_, hno⟩
    obtain ⟨_, _, _, _, _, _, _, _, _, _, _, heq⟩ := @HandlesProgress.processNext cfg c b answers t
      hack
    rw [RuntimeBundle.trace]
    rw [hes, heq, applyDeviceAck_eq, past_form, List.append_assoc]
    rfl
  exact (hrun.invariant (fun b input h hstep => h.input le_rfl hstep.1 hstep.2.1 hstep.2.2)
    hstart).none

end Run

/-! ### The computable forms -/

def Operation.isFor (operation : Operation) (c : String) : Bool :=
  operation.kind.Moves && operation.context.record.any (·.commandId = c)

lemma Operation.isFor_iff (operation : Operation) (c : String) :
    operation.isFor c = true ↔ operation.IsFor c := by
  simp [Operation.isFor, Operation.IsFor, Option.any_eq_true]

def busy (b : RuntimeBundle) (c : String) : Bool :=
  b.operations.entries.any (·.2.isFor c) || (b.deferredTransitions.lookup c).isSome

lemma not_busy_of_test {b : RuntimeBundle} {c : String} (h : busy b c = false) : ¬ Busy b c := by
  rintro ⟨context, hunder⟩
  simp only [busy, Bool.or_eq_false_iff, List.any_eq_false] at h
  cases hunder with
  | operation hop hfor =>
      exact h.1 _ (AList.mem_lookup_iff.mp hop) ((Operation.isFor_iff _ c).mpr hfor)
  | deferred hlookup => simp [hlookup] at h

/-- Every answer to a transition of the command reports a row, and no scan comes to
it while one is under way. -/
def keepsDeadline (cfg : CommandServiceConfig) (c : String) (b : RuntimeBundle)
    (input : PlainInput) : Bool :=
  (match b.databaseResults with
    | [] => true
    | result :: _ =>
        (b.operations.lookup result.operationId).all fun operation =>
          !operation.isFor c || (reported result.value).isSome) &&
    ((input.toInput b).visits cfg b).all fun p => p.2.1 ≠ c || !busy p.1 c

lemma keepsDeadline_of_test {cfg : CommandServiceConfig} {c : String} {b : RuntimeBundle}
    {input : PlainInput} (h : keepsDeadline cfg c b input = true) :
    (input.toInput b).KeepsDeadline cfg c b := by
  simp only [keepsDeadline, Bool.and_eq_true, List.all_eq_true] at h
  refine ⟨fun _ i value rest operation hhead hop hfor => .inl ?_, fun p hp hc _ => ?_⟩
  · have hanswer := h.1
    rw [hhead] at hanswer
    simpa [hop, (Operation.isFor_iff operation c).mpr hfor] using hanswer
  · refine not_busy_of_test ?_
    simpa [hc] using h.2 p hp

def within (b : RuntimeBundle) (s e : TimePoint) (input : PlainInput) : Bool :=
  (input.toInput b).time.all fun now => s ≤ now && now < e

lemma within_of_test {b : RuntimeBundle} {s e : TimePoint} {input : PlainInput}
    (h : within b s e input = true) : (input.toInput b).Within s e := by
  intro now hnow
  simpa [within, hnow] using h

def handlesProgress (cfg : CommandServiceConfig) (b : RuntimeBundle) (c : String) : Bool :=
  b.databaseResults.isEmpty && b.publishCompletions.isEmpty &&
    match b.messages with
    | [] => false
    | message :: _ =>
        match parseDeviceConfigAckTopic cfg.topicNamespace message.topic,
          parseDeviceControlAckTopic cfg.topicNamespace message.topic,
          parseDeviceAck .control (cfg.parseJson message.payload), b.activeCommands.lookup c with
        | .error _, .ok deviceId, some ack, some context =>
            ack.commandId = c && ack.desired = .inProgress && context.commandType = .control &&
              repeatsCommand context.parsed ack &&
              context.record.any fun record => record.targetDeviceId = some deviceId &&
                (record.status = .dispatched || record.status = .inProgress)
        | _, _, _, _ => false

lemma handlesProgress_of_test {cfg : CommandServiceConfig} {b : RuntimeBundle} {c : String}
    (h : handlesProgress cfg b c = true) : HandlesProgress cfg b c := by
  simp only [handlesProgress, Bool.and_eq_true, List.isEmpty_iff] at h
  obtain ⟨⟨hresults, hcompletions⟩, hmessage⟩ := h
  refine ⟨hresults, hcompletions, ?_⟩
  cases hmessages : b.messages with
  | nil => simp [hmessages] at hmessage
  | cons message rest =>
      rw [hmessages] at hmessage
      dsimp only at hmessage
      split at hmessage
      · next error deviceId ack context hconfig hcontrol hparse hactive =>
          simp only [Bool.and_eq_true, decide_eq_true_eq, Option.any_eq_true, Bool.or_eq_true]
            at hmessage
          obtain ⟨⟨⟨⟨hid, hdesired⟩, htype⟩, hrepeats⟩, record, hrecord, hdevice, hstatus⟩ :=
            hmessage
          exact ⟨message, rest, deviceId, ack, context, record, rfl,
            .inr ⟨rfl, ⟨error, hconfig⟩, hcontrol⟩, hparse, hid, hdesired, hactive, hrecord,
            hdevice,
            htype, hrepeats, hstatus⟩
      · cases hmessage

def Event.submitsTimeout (c : String) : Event → Bool
  | .submitted _ (.transitionCommand commandId _ desired update) _ =>
      commandId = c && desired = .timeout && update.errorCode = some "control_timeout"
  | _ => false

lemma Event.submitsTimeout_iff (c : String) (e : Event) :
    e.submitsTimeout c = true ↔ e.SubmitsTimeout c := by
  cases e with
  | submitted i task accepted =>
      cases task with
      | transitionCommand commandId expected desired update =>
          simp [Event.submitsTimeout, Event.SubmitsTimeout, and_assoc]
      | _ => simp [Event.submitsTimeout, Event.SubmitsTimeout]
  | _ => simp [Event.submitsTimeout, Event.SubmitsTimeout]

/-! ### An ACK shortly before the deadline -/

/-- A control command is dispatched and its deadline is 5 + 30 s; the broker is
connected again, and a progress ACK is about to be handled. -/
def Sample.progressing : RuntimeBundle :=
  play Sample.config Sample.started (Sample.dispatched .control true ++
    [.setMqttAvailable false, .setMqttAvailable true,
      .tryPush ⟨"cns/dev1/control/ack", Sample.progressAck.1, 7⟩])

/-- The ACK is handled at 7. -/
def Sample.progressed : RuntimeBundle :=
  Sample.progressing.processNext Sample.config (.plain PlainInput.unusedUuid true) 7

/-- The answer to the transition is handled, and a scan comes at the old
deadline. -/
def Sample.answeredThenScanned : List PlainInput :=
  Sample.answered true 8 ++ [.finishReady true 30000000005]

/-- The scan comes first. -/
def Sample.scannedFirst : List PlainInput := [.finishReady true 30000000005]

lemma Sample.reachable_progressing : (routeService Sample.config).Reachable Sample.progressing :=
  reachable_of_played (reachable_firstStart Sample.config (fun _ _ => True) Sample.sources
    (DeviceRegistry.empty.put (Sample.device .online))).of_restrict (by decide +kernel)

/-- **The scan at the old deadline** does nothing once the answer is handled. -/
theorem timeout_deferred_answered :
    ∃ es, (play Sample.config Sample.progressed Sample.answeredThenScanned).trace =
        es ++ Sample.progressing.trace ∧
      ∀ e ∈ es, ¬ e.SubmitsTimeout Sample.commandId := by
  have hack : HandlesProgress Sample.config Sample.progressing Sample.commandId :=
    handlesProgress_of_test (by decide +kernel)
  have hidle : ¬ Busy Sample.progressing Sample.commandId :=
    not_busy_of_test (by decide +kernel)
  have huuid : PlainInput.unusedUuid ∉ createdIds Sample.progressing.trace := by decide +kernel
  have hadmitted : admittedAll Sample.config (fun b input =>
      keepsDeadline Sample.config Sample.commandId b input &&
        within b 7 (7 + Sample.config.controlTimeout) input)
      Sample.progressed Sample.answeredThenScanned = true := by decide +kernel
  have hrun := @run_of_admitted Sample.config
    (fun b input => input.KeepsDeadline Sample.config Sample.commandId b ∧
      input.Within 7 (7 + Sample.config.controlTimeout)) _ (fun b input h => by
        rw [Bool.and_eq_true] at h
        exact ⟨keepsDeadline_of_test h.1, within_of_test h.2⟩) _ _ hadmitted
  exact timeout_deferred Sample.reachable_progressing hack hidle (Answers.plain_admissible huuid)
    hrun

/-- **The scan at the old deadline times the command out** if it comes before the
answer, two nanoseconds before the deadline that the ACK has given. -/
theorem timeout_not_deferred :
    (routeService Sample.config).Reachable Sample.progressing ∧
      HandlesProgress Sample.config Sample.progressing Sample.commandId ∧
      (∃ context, Sample.progressing.activeCommands.lookup Sample.commandId = some context ∧
        7 < context.deadline) ∧
      ((routeService Sample.config).restrict fun _ input =>
        input.Within 7 (7 + Sample.config.controlTimeout)).Run Sample.progressed
          (inputsOf Sample.config Sample.progressed Sample.scannedFirst)
          (play Sample.config Sample.progressed Sample.scannedFirst) ∧
      ¬ ∃ es, (play Sample.config Sample.progressed Sample.scannedFirst).trace =
          es ++ Sample.progressing.trace ∧
        ∀ e ∈ es, ¬ e.SubmitsTimeout Sample.commandId := by
  refine ⟨Sample.reachable_progressing, handlesProgress_of_test (by decide +kernel), ?_, ?_, ?_⟩
  · have hopen : (Sample.progressing.activeCommands.lookup Sample.commandId).any
        (7 < ·.deadline) = true := by decide +kernel
    obtain ⟨context, hcontext, hdeadline⟩ := (Option.any_eq_true _ _).mp hopen
    exact ⟨context, hcontext, of_decide_eq_true hdeadline⟩
  · exact run_of_admitted (fun b input h => within_of_test h) (by decide +kernel)
  · rintro ⟨es, htrace, hno⟩
    have hsubmitted : (play Sample.config Sample.progressed Sample.scannedFirst).trace.any
        (·.submitsTimeout Sample.commandId) = true := by decide +kernel
    have hbefore : Sample.progressing.trace.any (·.submitsTimeout Sample.commandId) = false := by
      decide +kernel
    obtain ⟨e, he, hsubmits⟩ := List.any_eq_true.mp hsubmitted
    rw [htrace] at he
    rcases List.mem_append.mp he with he | he
    · exact hno e he ((Event.submitsTimeout_iff _ e).mp hsubmits)
    · exact (List.any_eq_false.mp hbefore e he) hsubmits

end CnsServer
