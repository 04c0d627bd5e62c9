/-
The life of one command in the service: it is born with the result of its
insertion, it is active until its terminal status is acknowledged, and after
that it is closed for good.

* `Ticket`: something of the command is under way, in one of the five maps;
* `Tick.touch`: a tick creates tickets and events only for commands that have a
  ticket already, or that are born in this tick;
* `Tick.memory`, `Tick.closing`: how an entry of `active_commands_` comes and
  goes;
* `Lifecycle`: the invariant, and `sound_of_reachable`.
-/
import CnsServer.Invariants.Ledger

namespace CnsServer

open RuntimeBundle CommandStatus

/-! ### Tickets -/

/-- Something of the command is under way in the service. -/
inductive Ticket (b : RuntimeBundle) (c : String) : Prop
  | active {context : RequestContext} : b.activeCommands.lookup c = some context → Ticket b c
  | operation {i : ℕ} {operation : Operation} {r : CommandRecord} :
      b.operations.lookup i = some operation →
      (operation.kind = .transition ∨ operation.kind = .findByIdForConvergence) →
      operation.context.record = some r → r.commandId = c → Ticket b c
  | publication {t : ℕ} {context : RequestContext} {r : CommandRecord} :
      b.publications.lookup t = some context → context.record = some r → r.commandId = c →
      Ticket b c
  | deferred {d : DeferredTransition} : b.deferredTransitions.lookup c = some d → Ticket b c
  | early {ack : EarlyDeviceAck} : b.earlyDeviceAcks.lookup c = some ack → Ticket b c

/-- The event is a step in the life of the command. -/
def Event.Touches (c : String) : Event → Prop
  | .formed task _ => task.commandId = c
  | .published _ _ _ record _ => record.commandId = c
  | .completed record _ => record.commandId = c
  | .acked _ ack .lifecycle => ack.commandId = some c
  | .deviceAcked _ _ ack (some status) => ack.commandId = c ∧ status.isTerminal = false
  | _ => False

lemma Event.IsQuiet.not_touches {e : Event} (h : e.IsQuiet) (c : String) : ¬ e.Touches c := by
  cases e with
  | acked topic ack cause =>
      obtain ⟨-, rfl, -⟩ := h
      exact id
  | deviceAcked deviceId type ack memory =>
      cases memory with
      | none => exact id
      | some status =>
          intro ht
          have hnot := ht.2
          rw [h status rfl] at hnot
          cases hnot
  | _ => first | exact id | exact h.elim

/-- Between the two states only commands in `S`, or with a ticket before, got a
ticket or an event. -/
structure Touch (S : String → Prop) (a b : RuntimeBundle) : Prop where
  past : b.past = a.past
  log : ∃ es, b.log = es ++ a.log ∧ ∀ e ∈ es, ∀ c, e.Touches c → Ticket a c ∨ S c
  tickets : ∀ c, Ticket b c → Ticket a c ∨ S c

namespace Touch

variable {S : String → Prop} {a b b' : RuntimeBundle} {cfg : CommandServiceConfig}

lemma refl (b : RuntimeBundle) : Touch S b b :=
  ⟨rfl, ⟨[], rfl, by simp⟩, fun _ h => .inl h⟩

lemma imp {T : String → Prop} (h : Touch S a b) (hST : ∀ c, S c → T c) : Touch T a b := by
  obtain ⟨es, hes, htouch⟩ := h.log
  exact ⟨h.past, ⟨es, hes, fun e he c hc => (htouch e he c hc).imp id (hST c)⟩,
    fun c hc => (h.tickets c hc).imp id (hST c)⟩

/-- The maps and the log grow by entries and events of commands with a ticket. -/
lemma grow (h : Touch S a b) {es : List Event} (hlog : b'.log = es ++ b.log)
    (hes : ∀ e ∈ es, ∀ c, e.Touches c → Ticket a c ∨ S c) (hpast : b'.past = b.past)
    (hactive : ∀ c k, b'.activeCommands.lookup c = some k →
      b.activeCommands.lookup c = some k ∨ Ticket a c ∨ S c)
    (hoperations : ∀ i operation, b'.operations.lookup i = some operation →
      b.operations.lookup i = some operation ∨
        ((operation.kind = .transition ∨ operation.kind = .findByIdForConvergence) →
          ∀ r, operation.context.record = some r → Ticket a r.commandId ∨ S r.commandId))
    (hpublications : ∀ t k, b'.publications.lookup t = some k →
      b.publications.lookup t = some k ∨
        ∀ r, k.record = some r → Ticket a r.commandId ∨ S r.commandId)
    (hdeferred : ∀ c d, b'.deferredTransitions.lookup c = some d →
      b.deferredTransitions.lookup c = some d ∨ Ticket a c ∨ S c)
    (hearly : ∀ c e, b'.earlyDeviceAcks.lookup c = some e →
      b.earlyDeviceAcks.lookup c = some e ∨ Ticket a c ∨ S c) : Touch S a b' := by
  obtain ⟨es₀, hes₀, htouch⟩ := h.log
  refine ⟨hpast.trans h.past, ⟨es ++ es₀, by rw [hlog, hes₀, List.append_assoc], ?_⟩,
    fun c hc => ?_⟩
  · intro e he c hc
    rcases List.mem_append.mp he with he | he
    · exact hes e he c hc
    · exact htouch e he c hc
  · cases hc with
    | active hk => exact (hactive c _ hk).elim (fun hk => h.tickets c (.active hk)) id
    | operation hop hkind hr hid =>
        subst hid
        rcases hoperations _ _ hop with hop | hnew
        · exact h.tickets _ (.operation hop hkind hr rfl)
        · exact hnew hkind _ hr
    | publication hk hr hid =>
        subst hid
        rcases hpublications _ _ hk with hk | hnew
        · exact h.tickets _ (.publication hk hr rfl)
        · exact hnew _ hr
    | deferred hd => exact (hdeferred c _ hd).elim (fun hd => h.tickets c (.deferred hd)) id
    | early he => exact (hearly c _ he).elim (fun he => h.tickets c (.early he)) id

/-- Only the maps change. -/
lemma maps (h : Touch S a b) (hlog : b'.log = b.log) (hpast : b'.past = b.past)
    (hactive : ∀ c k, b'.activeCommands.lookup c = some k →
      b.activeCommands.lookup c = some k ∨ Ticket a c ∨ S c)
    (hoperations : ∀ i operation, b'.operations.lookup i = some operation →
      b.operations.lookup i = some operation ∨
        ((operation.kind = .transition ∨ operation.kind = .findByIdForConvergence) →
          ∀ r, operation.context.record = some r → Ticket a r.commandId ∨ S r.commandId))
    (hpublications : ∀ t k, b'.publications.lookup t = some k →
      b.publications.lookup t = some k ∨
        ∀ r, k.record = some r → Ticket a r.commandId ∨ S r.commandId)
    (hdeferred : ∀ c d, b'.deferredTransitions.lookup c = some d →
      b.deferredTransitions.lookup c = some d ∨ Ticket a c ∨ S c)
    (hearly : ∀ c e, b'.earlyDeviceAcks.lookup c = some e →
      b.earlyDeviceAcks.lookup c = some e ∨ Ticket a c ∨ S c) : Touch S a b' :=
  @grow S a b b' h [] hlog (by simp) hpast hactive hoperations hpublications hdeferred hearly

/-- One more event. -/
lemma emit (h : Touch S a b) {event : Event} (hevent : ∀ c, event.Touches c → Ticket a c ∨ S c) :
    Touch S a (b.emit event) :=
  @grow S a b _ h [event] rfl (by simpa using hevent) rfl (fun _ _ h => .inl h)
    (fun _ _ h => .inl h) (fun _ _ h => .inl h) (fun _ _ h => .inl h) (fun _ _ h => .inl h)

lemma taken (h : Touch S a b) (operationId : ℕ) (rest : List CommandDatabaseResult) :
    Touch S a (b.taken operationId rest) :=
  h.maps rfl rfl (fun _ _ h => .inl h) (fun _ _ h => .inl (Map.lookup_erase_some.mp h).2)
    (fun _ _ h => .inl h) (fun _ _ h => .inl h) (fun _ _ h => .inl h)

/-- A submission for a command with a ticket, or of a task that is for none. -/
lemma accepted (h : Touch S a b) {kind : OperationKind} {context : RequestContext}
    (task : CommandDatabaseTask)
    (hticket : (kind = .transition ∨ kind = .findByIdForConvergence) →
      ∀ r, context.record = some r → Ticket a r.commandId ∨ S r.commandId) :
    Touch S a (b.accepted kind context task) := by
  have hemit : Touch S a (b.emit (.submitted b.nextOperationId task true)) :=
    h.emit fun c hc => hc.elim
  refine hemit.maps rfl rfl (fun _ _ h => .inl h) (fun i op hop => ?_) (fun _ _ h => .inl h)
    (fun _ _ h => .inl h) (fun _ _ h => .inl h)
  rcases Map.lookup_insert_some.mp hop with ⟨_, rfl⟩ | ⟨_, hop⟩
  · exact .inr hticket
  · exact .inl hop

lemma refused (h : Touch S a b) (task : CommandDatabaseTask) : Touch S a (b.refused task) := by
  have hemit : Touch S a (b.emit (.submitted b.nextOperationId task false)) :=
    h.emit fun c hc => hc.elim
  exact hemit.maps rfl rfl (fun _ _ h => .inl h) (fun _ _ h => .inl h) (fun _ _ h => .inl h)
    (fun _ _ h => .inl h) (fun _ _ h => .inl h)

lemma submit (h : Touch S a b) {kind : OperationKind} {context : RequestContext}
    {task : CommandDatabaseTask}
    (hticket : (kind = .transition ∨ kind = .findByIdForConvergence) →
      ∀ r, context.record = some r → Ticket a r.commandId ∨ S r.commandId) :
    Touch S a (b.submit cfg kind context task).2 := by
  rcases submit_cases cfg b kind context task with heq | heq
  · rw [heq]; exact h.accepted task hticket
  · rw [heq]; exact h.refused task

/-- A transition is formed for a command with a ticket. -/
lemma form (h : Touch S a b) {context : RequestContext} {task : TransitionCommandTask}
    (hrecord : ∀ r, context.record = some r → r.commandId = task.commandId)
    (hticket : Ticket a task.commandId ∨ S task.commandId) :
    Touch S a (b.submitTransitionOrDefer cfg context task) := by
  have hformed : Touch S a (b.emit (.formed task (b.replaced task.commandId))) :=
    h.emit fun c hc => by
      cases hc
      exact hticket
  rcases submitTransitionOrDefer_cases cfg b context task with heq | heq
  · rw [heq]
    have hacc := @Touch.accepted S a _ hformed .transition context task.toTask fun _ r hr =>
      hrecord r hr ▸ hticket
    exact hacc.maps rfl rfl (fun _ _ h => .inl h) (fun _ _ h => .inl h) (fun _ _ h => .inl h)
      (fun _ _ h => .inl (Map.lookup_erase_some.mp h).2) (fun _ _ h => .inl h)
  · rw [heq]
    refine (hformed.refused task.toTask).maps rfl rfl (fun _ _ h => .inl h) (fun _ _ h => .inl h)
      (fun _ _ h => .inl h) (fun c d hd => ?_) (fun _ _ h => .inl h)
    rcases Map.lookup_insert_some.mp hd with ⟨rfl, _⟩ | ⟨_, hd⟩
    · exact .inr hticket
    · exact .inl hd

/-- A message goes out for a command with a ticket. -/
lemma publish (h : Touch S a b) {answers : Answers} {context : RequestContext} {now : TimePoint}
    (hticket : ∀ r, context.record = some r → Ticket a r.commandId ∨ S r.commandId) :
    Touch S a (b.publishRecord cfg answers context now) := by
  rcases publishRecord_cases cfg answers b context now with
    heq | ⟨record, deviceId, payload, hrecord, _, _, _, hwhich⟩
  · rw [heq]; exact h
  have hpub : ∀ accepted, Touch S a (b.emit (.published b.nextPublishToken
      (deviceSetTopic cfg.topicNamespace deviceId context.commandType) payload record accepted)) :=
    fun accepted => h.emit fun c hc => by cases hc; exact hticket record hrecord
  rcases hwhich with heq | heq
  · rw [heq]
    refine (hpub true).maps rfl rfl (fun _ _ h => .inl h) (fun _ _ h => .inl h) (fun t k ht => ?_)
      (fun _ _ h => .inl h) (fun _ _ h => .inl h)
    rcases Map.lookup_insert_some.mp ht with ⟨_, rfl⟩ | ⟨_, ht⟩
    · exact .inr hticket
    · exact .inl ht
  · rw [heq]
    have hunsent : Touch S a (b.unsent cfg context record deviceId payload) := by
      refine (hpub false).maps rfl rfl (fun _ _ h => .inl h) (fun _ _ h => .inl h)
        (fun t k ht => .inl ?_) (fun _ _ h => .inl h) (fun _ _ h => .inl h)
      obtain ⟨hne, ht⟩ := Map.lookup_erase_some.mp ht
      exact ((Map.lookup_insert_some.mp ht).resolve_left fun h => hne h.1).2
    exact hunsent.form (fun r hr => by cases hr; rfl) (hticket record hrecord)

/-- An entry of a map of running commands changes. -/
lemma setActive (h : Touch S a b) {active : Map String RequestContext}
    {early : Map String EarlyDeviceAck} {recovery : Finset String}
    (hactive : ∀ c k, active.lookup c = some k →
      b.activeCommands.lookup c = some k ∨ Ticket a c ∨ S c)
    (hearly : ∀ c e, early.lookup c = some e →
      b.earlyDeviceAcks.lookup c = some e ∨ Ticket a c ∨ S c) :
    Touch S a { b with
      activeCommands := active, earlyDeviceAcks := early, recoveryStarted := recovery } :=
  h.maps rfl rfl hactive (fun _ _ h => .inl h) (fun _ _ h => .inl h) (fun _ _ h => .inl h) hearly

end Touch

/-! ### Birth and closing -/

/-- The event acknowledges a terminal status in the course of the command. -/
def Event.Closes (c : String) : Event → Prop
  | .acked _ ack .lifecycle => ack.commandId = some c ∧ ack.status.isTerminal = true
  | _ => False

/-- The terminal status of the command has been acknowledged. -/
def Closed (b : RuntimeBundle) (c : String) : Prop := ∃ e ∈ b.trace, e.Closes c

/-- The command is born between the two states: the result of its insertion is
taken, and it becomes active or is closed at once. -/
def Born (b b' : RuntimeBundle) (c : String) : Prop :=
  ∃ i operation own value, b.databaseResults = ⟨i, value⟩ :: b'.databaseResults ∧
    b.operations.lookup i = some operation ∧ operation.kind = .insert ∧
    operation.context.record = some own ∧ own.commandId = c ∧
    ((∃ k, b'.activeCommands.lookup c = some k) ∨ Closed b' c)

lemma Event.Closes.touches {c : String} {e : Event} (h : e.Closes c) : e.Touches c := by
  cases e with
  | acked topic ack cause =>
      cases cause with
      | lifecycle => exact h.1
      | _ => exact h.elim
  | _ => exact h.elim

/-- **A tick touches only commands that are under way or born in it.** -/
theorem Tick.touch {cfg : CommandServiceConfig} {b b' : RuntimeBundle} (hw : Wellformed b)
    (htick : Tick cfg b b') : Touch (Born b b') b b' := by
  have h₀ : ∀ {S : String → Prop}, Touch S b b := Touch.refl b
  -- most ticks give birth to nobody
  let nobody : String → Prop := fun _ => False
  have hmost : Touch nobody b b' → Touch (Born b b') b b' := fun h => h.imp fun _ hc => hc.elim
  have hactive : ∀ {S : String → Prop} {c : String} {k : RequestContext} {r : CommandRecord},
      b.activeCommands.lookup c = some k → k.record = some r → Ticket b r.commandId ∨
      S r.commandId :=
    fun hk hr => by
      obtain ⟨r', hcontext, _, rfl⟩ := hw.active _ _ hk
      have := hcontext.unique hr
      subst this
      exact .inl (.active hk)
  cases htick with
  | quiet hcore =>
      obtain ⟨es, hlog, hes⟩ := hcore.log
      exact h₀.grow hlog (fun e he c hc => absurd hc ((hes e he).not_touches c)) hcore.past
        (fun c k h => .inl (hcore.activeCommands c ▸ h))
        (fun i k h => .inl (hcore.operations i ▸ h))
        (fun t k h => .inl (hcore.publications t ▸ h))
        (fun c d h => .inl (hcore.deferredTransitions c ▸ h))
        (fun c e h => .inl (hcore.earlyDeviceAcks c ▸ h))
  | @worker event hevent =>
      refine @Touch.grow _ b b (b.workerTurn event) h₀ _ rfl (fun e he c hc => ?_) rfl
        (fun _ _ h => .inl h) (fun _ _ h => .inl h) (fun _ _ h => .inl h) (fun _ _ h => .inl h)
        (fun _ _ h => .inl h)
      rcases mem_executionEvents.mp he with ⟨r, _, rfl⟩ | ⟨_, r, _, rfl⟩ | ⟨r, _, rfl⟩ <;>
        exact hc.elim
  | @mqtt available =>
      exact @Touch.grow _ b b _ h₀ [.mqttAvailable available] rfl (by simp [Event.Touches]) rfl
        (fun _ _ h => .inl h) (fun _ _ h => .inl h) (fun _ _ h => .inl h) (fun _ _ h => .inl h)
        (fun _ _ h => .inl h)
  | @device devices record cleared _ =>
      exact @Touch.grow _ b b _ h₀ [.deviceUpdated record.deviceId
          (b.devices.isOnline record.deviceId) (devices.isOnline record.deviceId) cleared] rfl
        (by simp [Event.Touches]) rfl (fun _ _ h => .inl h) (fun _ _ h => .inl h)
        (fun _ _ h => .inl h) (fun _ _ h => .inl h) (fun _ _ h => .inl h)
  -- searches and cleanups are about no command
  | find => exact h₀.submit fun hkind => by rcases hkind with h | h <;> cases h
  | cleanup => exact h₀.submit fun hkind => by rcases hkind with h | h <;> cases h
  | @consumed operationId value rest events hhead hconsumed =>
      have hevents : ∀ e ∈ events, ∀ c, ¬ e.Touches c := by
        cases hconsumed <;> simp [Event.Touches]
      exact @Touch.grow _ b (b.taken operationId rest) _ (h₀.taken operationId rest) events rfl
        (fun e he c hc => absurd hc (hevents e he c)) rfl (fun _ _ h => .inl h)
        (fun _ _ h => .inl h) (fun _ _ h => .inl h) (fun _ _ h => .inl h) (fun _ _ h => .inl h)
  | @create answers operationId operation rest requestId payload _ _ _ _ _ _ =>
      refine hmost ?_
      have hcreated := @Touch.emit nobody b _ (h₀.taken operationId rest)
        (.created operationId (b.newCommand answers operation.context requestId payload).1)
        fun c hc => hc.elim
      exact hcreated.submit fun hkind => by rcases hkind with h | h <;> cases h
  | @conflict operationId operation rest error desired _ hop hkind _ hdesired =>
      exact (h₀.taken operationId rest).submit fun _ r hr =>
        .inl (.operation hop (.inl hkind) hr rfl)
  | @activate answers operationId operation rest record now hhead hop hkind hown hterm =>
      obtain ⟨own, hcontext, hsame⟩ := hw.insert_result hhead hop hkind hown
      have hset := @Touch.setActive (fun c => c = record.commandId) b (b.taken operationId rest)
        (h₀.taken operationId rest)
        (b.activeCommands.insert record.commandId { operation.context with record := some record })
        b.earlyDeviceAcks b.recoveryStarted
        (fun c k hc => by
          rcases Map.lookup_insert_some.mp hc with ⟨rfl, _⟩ | ⟨_, hc⟩
          · exact .inr (.inr rfl)
          · exact .inl hc)
        (fun _ _ h => .inl h)
      -- the one tick that makes a command active for the first time
      refine (hset.publish fun r hr => ?_).imp fun c hc => ?_
      · cases hr
        exact .inr rfl
      · subst hc
        refine ⟨operationId, operation, own, .ok (.record record), ?_, hop, hkind,
          hcontext.record, hsame.commandId.symm,
          .inl ⟨{ operation.context with record := some record }, ?_⟩⟩
        · rw [databaseResults_publishRecord]
          exact hhead
        · rw [activeCommands_publishRecord]
          exact AList.lookup_insert _
  | @refresh operationId operation rest record context now hhead hop hkind hterm hrecord =>
      obtain ⟨desired, hcontext, hsame, _⟩ := hw.transition_result hhead hop hkind
      -- the operation that is answered was about the command
      have hticket : ∀ {S : String → Prop}, Ticket b record.commandId ∨ S record.commandId :=
        .inl (.operation hop (.inl hkind) hcontext.record hsame.commandId.symm)
      refine hmost ?_
      have hset := @Touch.setActive nobody b (b.taken operationId rest) (h₀.taken operationId rest)
        (b.activeCommands.insert record.commandId context)
        (if record.status = .dispatched then b.earlyDeviceAcks.erase record.commandId
          else b.earlyDeviceAcks) b.recoveryStarted
        (fun c k hc => by
          rcases Map.lookup_insert_some.mp hc with ⟨rfl, _⟩ | ⟨_, hc⟩
          · exact .inr hticket
          · exact .inl hc)
        (fun c e he => by
          split at he
          · exact .inl (Map.lookup_erase_some.mp he).2
          · exact .inl he)
      refine hset.emit fun c hc => ?_
      have hid : some record.commandId = some c := (buildSourceAck_commandId _ _ _).symm.trans hc
      cases hid
      exact hticket
  | @settle operationId operation rest current desired hhead hop hkind hdesired hterm _ =>
      obtain ⟨desired', hcontext, hsame⟩ := hw.lookup_result hhead hop hkind
      refine (h₀.taken operationId rest).setActive (fun c k hc => ?_) (fun _ _ h => .inl h)
      rcases Map.lookup_insert_some.mp hc with ⟨rfl, _⟩ | ⟨_, hc⟩
      · exact .inr (.inl (.operation hop (.inr hkind) hcontext.record hsame.commandId.symm))
      · exact .inl hc
  | @converge operationId operation rest current desired target update commandId hdesired hwhich
      hop _ _ _ _ _ _ _ =>
      have hid : desired.commandId = commandId ∧
          (operation.kind = .transition ∨ operation.kind = .findByIdForConvergence) := by
        rcases hwhich with ⟨hhead, hkind, _, _, rfl⟩ | ⟨_, hkind, _, _, rfl⟩
        · obtain ⟨desired', hcontext, hsame⟩ := hw.lookup_result hhead hop hkind
          have := hcontext.unique hdesired
          subst this
          exact ⟨hsame.commandId.symm, .inr hkind⟩
        · exact ⟨rfl, .inl hkind⟩
      refine (h₀.taken operationId rest).form (fun r hr => ?_)
        (.inl (.operation hop hid.2 hdesired hid.1))
      rw [show _ = some desired from hdesired] at hr
      cases hr
      exact hid.1
  | @finish operationId operation rest record value context now hhead hop hwhich hterm =>
      have herased : ∀ {S : String → Prop}, Touch S b { b.taken operationId rest with
          activeCommands := b.activeCommands.erase record.commandId
          recoveryStarted := b.recoveryStarted.erase record.commandId
          earlyDeviceAcks := b.earlyDeviceAcks.erase record.commandId } :=
        (h₀.taken operationId rest).setActive
          (fun c k hc => .inl (Map.lookup_erase_some.mp hc).2)
          (fun c e he => .inl (Map.lookup_erase_some.mp he).2)
      refine herased.emit fun c hc => ?_
      have hid : some record.commandId = some c := (buildSourceAck_commandId _ _ _).symm.trans hc
      cases hid
      -- after an insertion the command is born and closed at once
      rcases hwhich with ⟨hkind, rfl⟩ | ⟨hkind, rfl, hown⟩ | ⟨hkind, rfl, _⟩
      · obtain ⟨desired, hcontext, hsame, _⟩ := hw.transition_result hhead hop hkind
        exact .inl (.operation hop (.inl hkind) hcontext.record hsame.commandId.symm)
      · obtain ⟨own, hcontext, hsame⟩ := hw.insert_result hhead hop hkind hown
        refine .inr ⟨operationId, operation, own, _, hhead, hop, hkind, hcontext.record,
          hsame.commandId.symm, .inr ⟨_, List.mem_cons_self, ?_⟩⟩
        exact ⟨buildSourceAck_commandId _ _ _, by rw [buildSourceAck_status]; exact hterm⟩
      · obtain ⟨desired, hcontext, hsame⟩ := hw.lookup_result hhead hop hkind
        exact .inl (.operation hop (.inr hkind) hcontext.record hsame.commandId.symm)
  | @finished operationId operation rest record hhead hop hkind _ _ _ =>
      exact (h₀.taken operationId rest).setActive
        (fun c k hc => .inl (Map.lookup_erase_some.mp hc).2)
        (fun c e he => .inl (Map.lookup_erase_some.mp he).2)
  | @deviceAck context record ack deviceId payload type now _ hk hrecord _ _ _ hstatus =>
      refine hmost ?_
      have hacked := @Touch.emit nobody b b h₀
        (.deviceAcked deviceId type ack (some record.status))
        fun c hc => by
          obtain ⟨rfl, _⟩ := hc
          exact .inl (.active hk)
      refine hacked.form (fun r hr => by cases hr; rfl) ?_
      rw [show _ = record.commandId from
        (Wellformed.sameCommand_acknowledged record ack type now).1.commandId]
      exact hactive hk hrecord
  | @buffer context record ack deviceId payload type now _ hk hrecord _ _ _ _ =>
      refine hmost ?_
      have hacked := @Touch.emit nobody b b h₀
        (.deviceAcked deviceId type ack (some record.status))
        fun c hc => by
          obtain ⟨rfl, _⟩ := hc
          exact .inl (.active hk)
      rcases bufferEarlyAck_cases cfg (b.emit (.deviceAcked deviceId type ack
        (some record.status))) type ack ⟨deviceId, payload, now⟩ with
        ⟨kept, _, heq⟩ | ⟨message, heq⟩
      · rw [heq]
        refine hacked.setActive (fun _ _ h => .inl h) (fun c e he => ?_)
        rcases Map.lookup_insert_some.mp he with ⟨rfl, _⟩ | ⟨_, he⟩
        · exact .inr (.inl (.active hk))
        · exact .inl he
      · rw [heq]
        exact hacked.emit fun c hc => hc.elim
  | @timeout commandId context record now hk hrecord _ _ =>
      refine hmost ?_
      have hid : record.commandId = commandId := by
        obtain ⟨r, hcontext, _, hid⟩ := hw.active _ _ hk
        rw [hcontext.unique hrecord]
        exact hid
      have hmarked := @Touch.setActive nobody b b h₀ b.activeCommands b.earlyDeviceAcks
        (insert commandId b.recoveryStarted) (fun _ _ h => .inl h) (fun _ _ h => .inl h)
      exact hmarked.form (fun r hr => by cases hr; exact hid) (.inl (.active hk))
  | @republish answers commandId deviceId context record now hk hrecord _ _ _ _ =>
      refine hmost ?_
      have hmarked := @Touch.setActive nobody b b h₀ b.activeCommands b.earlyDeviceAcks
        (insert commandId b.recoveryStarted) (fun _ _ h => .inl h) (fun _ _ h => .inl h)
      exact hmarked.publish fun r hr => hactive hk hr
  | @complete completion context now hfound =>
      have hticket : ∀ {S : String → Prop} {r : CommandRecord}, context.record = some r →
          Ticket b r.commandId ∨ S r.commandId := fun hr => .inl (.publication hfound hr rfl)
      have herased : ∀ {S : String → Prop}, Touch S b
          { b with publications := b.publications.erase completion.token } :=
        h₀.maps rfl rfl (fun _ _ h => .inl h) (fun _ _ h => .inl h)
          (fun _ _ h => .inl (Map.lookup_erase_some.mp h).2) (fun _ _ h => .inl h)
          (fun _ _ h => .inl h)
      have htaken : ∀ {S : String → Prop} {record : CommandRecord}, context.record = some record →
          Touch S b (b.completionTaken completion.token record completion.result) :=
        fun hr => herased.emit fun c hc => by cases hc; exact hticket hr
      rcases handleCompletion_cases cfg now hfound with
        ⟨_, heq⟩ | ⟨record, hrecord, ⟨_, _, heq⟩ | ⟨_, heq⟩⟩
      · rw [heq]; exact herased
      · rw [heq]; exact htaken hrecord
      · rw [heq]
        refine (htaken hrecord).form (fun r hr => ?_) (hticket hrecord)
        cases hr
        exact (Wellformed.sameCommand_publishCompleted _ _ _ _).commandId
  | @retry key deferred hfound =>
      refine hmost ?_
      have hok := hw.deferred key deferred hfound
      obtain ⟨r, hcontext, hid, _⟩ := hok.context
      have hticket : ∀ {S : String → Prop}, Ticket b key ∨ S key := .inl (.deferred hfound)
      rcases retryDeferred_cases cfg b key deferred with heq | heq
      · rw [heq]
        have herased := @Touch.maps nobody b b
          { b with deferredTransitions := b.deferredTransitions.erase key } h₀ rfl rfl
          (fun _ _ h => .inl h) (fun _ _ h => .inl h) (fun _ _ h => .inl h)
          (fun _ _ h => .inl (Map.lookup_erase_some.mp h).2) (fun _ _ h => .inl h)
        refine herased.accepted _ fun _ s hs => ?_
        rw [hcontext.unique hs, hid]
        exact hticket
      · rw [heq]
        refine (h₀.refused deferred.task.toTask).maps rfl rfl (fun _ _ h => .inl h)
          (fun _ _ h => .inl h) (fun _ _ h => .inl h) (fun c d hd => ?_) (fun _ _ h => .inl h)
        rcases Map.lookup_insert_some.mp hd with ⟨rfl, _⟩ | ⟨_, hd⟩
        · rw [hok.key]
          exact .inr hticket
        · exact .inl (Map.lookup_erase_some.mp hd).2

/-! ### Coming and going of active commands -/

/-- The answer at the front of the results activates a command, or refreshes
it, with the record it reports. -/
structure Remembers (b b' : RuntimeBundle) (i : ℕ) (operation : Operation) (r : CommandRecord)
    (context : RequestContext) : Prop where
  head : ∃ value, b.databaseResults = ⟨i, value⟩ :: b'.databaseResults ∧ reported value = some r
  found : b.operations.lookup i = some operation
  kind : (operation.kind = .insert ∧ ∃ own, operation.context.record = some own ∧
      own.commandId = r.commandId) ∨
    operation.kind = .transition ∨ operation.kind = .findByIdForConvergence
  isTerminal : r.status.isTerminal = false
  record : context.record = some r

/-- **Where the memory of an active command comes from**: it stays, or it is the
record of the result that is taken. -/
theorem Tick.memory {cfg : CommandServiceConfig} {b b' : RuntimeBundle} (hw : Wellformed b)
    (htick : Tick cfg b b') {c : String} {context : RequestContext}
    (hc : b'.activeCommands.lookup c = some context) :
    b.activeCommands.lookup c = some context ∨
      ∃ i operation r, Remembers b b' i operation r context ∧ r.commandId = c := by
  cases htick with
  | quiet hcore => exact .inl (hcore.activeCommands c ▸ hc)
  | activate hhead hop hkind hown hterm =>
      obtain ⟨own, hcontext, hsame⟩ := hw.insert_result hhead hop hkind hown
      rw [activeCommands_publishRecord] at hc
      rcases Map.lookup_insert_some.mp hc with ⟨rfl, rfl⟩ | ⟨_, hc⟩
      · refine .inr ⟨_, _, _, ⟨⟨.ok (.record _), ?_, rfl⟩, hop, .inl ⟨hkind, own,
          hcontext.record, hsame.commandId.symm⟩, hterm, rfl⟩, rfl⟩
        rw [databaseResults_publishRecord]
        exact hhead
      · exact .inl hc
  | refresh context now hhead hop hkind hterm hrecord =>
      rcases Map.lookup_insert_some.mp hc with ⟨rfl, rfl⟩ | ⟨_, hc⟩
      · exact .inr ⟨_, _, _, ⟨⟨_, hhead, rfl⟩, hop, .inr (.inl hkind), hterm, hrecord⟩, rfl⟩
      · exact .inl hc
  | settle hhead hop hkind hdesired hterm =>
      rcases Map.lookup_insert_some.mp hc with ⟨rfl, rfl⟩ | ⟨_, hc⟩
      · exact .inr ⟨_, _, _, ⟨⟨_, hhead, rfl⟩, hop, .inr (.inr hkind), hterm, rfl⟩, rfl⟩
      · exact .inl hc
  | finish => exact .inl (Map.lookup_erase_some.mp hc).2
  | finished => exact .inl (Map.lookup_erase_some.mp hc).2
  -- everything else leaves the active commands alone
  | find => exact .inl (by rwa [activeCommands_submit] at hc)
  | cleanup => exact .inl (by rwa [activeCommands_submit] at hc)
  | create => exact .inl (by rwa [activeCommands_submit] at hc)
  | conflict => exact .inl (by rwa [activeCommands_submit] at hc)
  | converge => exact .inl (by rwa [activeCommands_submitTransitionOrDefer] at hc)
  | deviceAck => exact .inl (by rwa [activeCommands_applyDeviceAck] at hc)
  | buffer => exact .inl (by rwa [activeCommands_bufferEarlyAck] at hc)
  | timeout => exact .inl (by rwa [activeCommands_submitTimeout] at hc)
  | republish => exact .inl (by rwa [activeCommands_publishRecord] at hc)
  | complete => exact .inl (by rwa [activeCommands_handleCompletion] at hc)
  | retry => exact .inl (by rwa [activeCommands_retryDeferred] at hc)
  | worker => exact .inl hc
  | mqtt => exact .inl hc
  | device => exact .inl hc
  | consumed => exact .inl hc

/-- The log has grown by events that satisfy `P`. -/
def Grown (P : Event → Prop) (b b' : RuntimeBundle) : Prop :=
  ∃ es, b'.log = es ++ b.log ∧ ∀ e ∈ es, P e

namespace Grown

variable {P : Event → Prop} {a b : RuntimeBundle} {cfg : CommandServiceConfig}

lemma refl (b : RuntimeBundle) : Grown P b b := ⟨[], rfl, by simp⟩

lemma emit (h : Grown P a b) {event : Event} (hevent : P event) : Grown P a (b.emit event) := by
  obtain ⟨es, hes, hP⟩ := h
  refine ⟨event :: es, ?_, by simpa [hevent] using hP⟩
  change event :: b.log = _
  rw [hes, List.cons_append]

lemma submit (h : Grown P a b) (hP : ∀ i task accepted, P (.submitted i task accepted))
    (kind : OperationKind) (context : RequestContext) (task : CommandDatabaseTask) :
    Grown P a (b.submit cfg kind context task).2 := by
  rcases submit_cases cfg b kind context task with heq | heq
  · rw [heq]; exact h.emit (hP b.nextOperationId task true)
  · rw [heq]; exact h.emit (hP b.nextOperationId task false)

lemma form (h : Grown P a b) (hP : ∀ i task accepted, P (.submitted i task accepted))
    {context : RequestContext} {task : TransitionCommandTask}
    (hformed : ∀ replaced, P (.formed task replaced)) :
    Grown P a (b.submitTransitionOrDefer cfg context task) := by
  have hemit : Grown P a (b.emit (.formed task (b.replaced task.commandId))) :=
    h.emit (hformed _)
  rcases submitTransitionOrDefer_cases cfg b context task with heq | heq
  · rw [heq]; exact hemit.emit (hP b.nextOperationId task.toTask true)
  · rw [heq]; exact hemit.emit (hP b.nextOperationId task.toTask false)

lemma publish (h : Grown P a b) (hP : ∀ i task accepted, P (.submitted i task accepted))
    (hformed : ∀ task replaced, P (.formed task replaced))
    (hpublished : ∀ token topic payload record accepted,
      P (.published token topic payload record accepted))
    {answers : Answers} {context : RequestContext} {now : TimePoint} :
    Grown P a (b.publishRecord cfg answers context now) := by
  rcases publishRecord_cases cfg answers b context now with
    heq | ⟨record, deviceId, payload, _, _, _, _, heq | heq⟩
  · rw [heq]; exact h
  · rw [heq]; exact h.emit (hpublished b.nextPublishToken _ payload record true)
  · rw [heq]
    have hunsent : Grown P a (b.unsent cfg context record deviceId payload) :=
      h.emit (hpublished b.nextPublishToken _ payload record false)
    exact hunsent.form hP (hformed _)

end Grown

/-- The terminal status of the command is acknowledged in this tick: it is the
record of the result that is taken, and the command is no longer active. -/
structure Finishes (b b' : RuntimeBundle) (i : ℕ) (operation : Operation) (r : CommandRecord) :
    Prop where
  log : ∃ topic ack, b'.log = .acked topic ack .lifecycle :: b.log ∧
    ack.commandId = some r.commandId ∧ ack.status = r.status
  isTerminal : r.status.isTerminal = true
  inactive : b'.activeCommands.lookup r.commandId = none
  others : ∀ c, c ≠ r.commandId → b'.activeCommands.lookup c = b.activeCommands.lookup c
  head : ∃ value, b.databaseResults = ⟨i, value⟩ :: b'.databaseResults ∧
    reported value = some r ∧ (operation.kind = .transition → value = .ok (.record r))
  found : b.operations.lookup i = some operation
  kind : (operation.kind = .insert ∧ ∃ own, operation.context.record = some own ∧
      own.commandId = r.commandId) ∨
    operation.kind = .transition ∨
    (operation.kind = .findByIdForConvergence ∧
      (b.activeCommands.lookup r.commandId).isSome)

/-- **How a command is closed**: either the tick finishes one command, or it
closes none and every active command stays active. -/
theorem Tick.closing {cfg : CommandServiceConfig} {b b' : RuntimeBundle} (hw : Wellformed b)
    (htick : Tick cfg b b') :
    (∃ i operation r, Finishes b b' i operation r) ∨
      (Grown (fun e => ∀ c, ¬ e.Closes c) b b' ∧
        ∀ c, (b.activeCommands.lookup c).isSome → (b'.activeCommands.lookup c).isSome) := by
  have h₀ : Grown (fun e => ∀ c, ¬ e.Closes c) b b := Grown.refl b
  have hsubmitted : ∀ i task accepted, ∀ c, ¬ (Event.submitted i task accepted).Closes c :=
    fun _ _ _ _ => id
  have hformed : ∀ task replaced, ∀ c, ¬ (Event.formed task replaced).Closes c :=
    fun _ _ _ => id
  have hpublished : ∀ token topic payload record accepted, ∀ c,
      ¬ (Event.published token topic payload record accepted).Closes c :=
    fun _ _ _ _ _ _ => id
  cases htick with
  | quiet hcore =>
      obtain ⟨es, hlog, hes⟩ := hcore.log
      refine .inr ⟨⟨es, hlog, fun e he c hc => (hes e he).not_touches c hc.touches⟩, fun c hc => ?_⟩
      rwa [hcore.activeCommands]
  | @worker event hevent =>
      refine .inr ⟨⟨_, rfl, fun e he c hc => ?_⟩, fun c hc => hc⟩
      rcases mem_executionEvents.mp he with ⟨r, _, rfl⟩ | ⟨_, r, _, rfl⟩ | ⟨r, _, rfl⟩ <;>
        exact hc.elim
  | mqtt => exact .inr ⟨⟨[_], rfl, by simp [Event.Closes]⟩, fun c hc => hc⟩
  | device => exact .inr ⟨⟨[_], rfl, by simp [Event.Closes]⟩, fun c hc => hc⟩
  | find =>
      exact .inr ⟨h₀.submit hsubmitted _ _ _, fun c hc => by rwa [activeCommands_submit]⟩
  | cleanup =>
      exact .inr ⟨h₀.submit hsubmitted _ _ _, fun c hc => by rwa [activeCommands_submit]⟩
  | @consumed operationId value rest events hhead hconsumed =>
      refine .inr ⟨⟨events, rfl, ?_⟩, fun c hc => hc⟩
      cases hconsumed <;> simp [Event.Closes]
  | @create answers operationId operation rest requestId payload _ _ _ _ _ _ =>
      have hcreated : Grown (fun e => ∀ c, ¬ e.Closes c) b ((b.taken operationId rest).emit
          (.created operationId (b.newCommand answers operation.context requestId payload).1)) :=
        ⟨[_], rfl, by simp [Event.Closes]⟩
      exact .inr ⟨hcreated.submit hsubmitted _ _ _, fun c hc => by rwa [activeCommands_submit]⟩
  | @conflict operationId operation rest =>
      have htaken : Grown (fun e => ∀ c, ¬ e.Closes c) b (b.taken operationId rest) := h₀
      exact .inr ⟨htaken.submit hsubmitted _ _ _, fun c hc => by rwa [activeCommands_submit]⟩
  | @activate answers operationId operation rest record now hhead hop hkind hown hterm =>
      have hset : Grown (fun e => ∀ c, ¬ e.Closes c) b { b.taken operationId rest with
          activeCommands := b.activeCommands.insert record.commandId
            { operation.context with record := some record } } := h₀
      refine .inr ⟨hset.publish hsubmitted hformed hpublished, fun c hc => ?_⟩
      rw [activeCommands_publishRecord]
      change ((b.activeCommands.insert record.commandId _).lookup c).isSome
      rw [Map.lookup_insert_ite]
      split
      · rfl
      · exact hc
  | @refresh operationId operation rest record context now hhead hop hkind hterm hrecord =>
      refine .inr ⟨⟨[_], rfl, ?_⟩, fun c hc => ?_⟩
      · intro e he c hc
        -- what is acknowledged here is not terminal
        rw [List.mem_singleton.mp he] at hc
        have := hc.2
        rw [buildSourceAck_status, hterm] at this
        cases this
      · change ((b.activeCommands.insert record.commandId _).lookup c).isSome
        rw [Map.lookup_insert_ite]
        split
        · rfl
        · exact hc
  | @settle operationId operation rest current =>
      refine .inr ⟨h₀, fun c hc => ?_⟩
      change ((b.activeCommands.insert current.commandId _).lookup c).isSome
      rw [Map.lookup_insert_ite]
      split
      · rfl
      · exact hc
  | @converge operationId operation rest =>
      have htaken : Grown (fun e => ∀ c, ¬ e.Closes c) b (b.taken operationId rest) := h₀
      exact .inr ⟨htaken.form hsubmitted (hformed _), fun c hc => by
        rwa [activeCommands_submitTransitionOrDefer]⟩
  | @finish operationId operation rest record value context now hhead hop hwhich hterm =>
      -- the one tick with a terminal ACK
      refine .inl ⟨operationId, operation, record, ⟨⟨_, _, rfl, buildSourceAck_commandId _ _ _,
        buildSourceAck_status _ _ _⟩, hterm, AList.lookup_erase _ _,
        fun c hc => AList.lookup_erase_ne hc, ⟨_, hhead, ?_⟩, hop, ?_⟩⟩
      · rcases hwhich with ⟨hkind, rfl⟩ | ⟨hkind, rfl, hown⟩ | ⟨hkind, rfl, _⟩
        · exact ⟨rfl, fun _ => rfl⟩
        · exact ⟨rfl, fun _ => rfl⟩
        · exact ⟨rfl, fun h => by rw [hkind] at h; cases h⟩
      · rcases hwhich with ⟨hkind, rfl⟩ | ⟨hkind, rfl, hown⟩ | ⟨hkind, rfl, _, hactive⟩
        · exact .inr (.inl hkind)
        · obtain ⟨own, hcontext, hsame⟩ := hw.insert_result hhead hop hkind hown
          exact .inl ⟨hkind, own, hcontext.record, hsame.commandId.symm⟩
        · exact .inr (.inr ⟨hkind, hactive⟩)
  | @finished operationId operation rest record hhead hop hkind _ hnone _ =>
      refine .inr ⟨h₀, fun c hc => ?_⟩
      change ((b.activeCommands.erase record.commandId).lookup c).isSome
      rw [Map.lookup_erase_ite]
      split
      · next h => rw [h, hnone] at hc; cases hc
      · exact hc
  | @deviceAck context record ack deviceId payload type now =>
      have hacked : Grown (fun e => ∀ c, ¬ e.Closes c) b
          (b.emit (.deviceAcked deviceId type ack (some record.status))) := h₀.emit fun _ => id
      exact .inr ⟨hacked.form hsubmitted (hformed _), fun c hc => by
        rwa [activeCommands_applyDeviceAck]⟩
  | @buffer context record ack deviceId payload type now =>
      refine .inr ⟨?_, fun c hc => by rwa [activeCommands_bufferEarlyAck]⟩
      rcases bufferEarlyAck_cases cfg (b.emit (.deviceAcked deviceId type ack
        (some record.status))) type ack ⟨deviceId, payload, now⟩ with
        ⟨kept, _, heq⟩ | ⟨message, heq⟩
      · rw [heq]
        exact ⟨[_], rfl, by simp [Event.Closes]⟩
      · rw [heq]
        exact ⟨[_, _], rfl, by simp [Event.Closes]⟩
  | @timeout commandId context record now =>
      have hmarked : Grown (fun e => ∀ c, ¬ e.Closes c) b { b with
          recoveryStarted := insert commandId b.recoveryStarted } := h₀
      exact .inr ⟨hmarked.form hsubmitted (hformed _), fun c hc => by
        rwa [activeCommands_submitTimeout]⟩
  | @republish answers commandId deviceId context record now =>
      have hmarked : Grown (fun e => ∀ c, ¬ e.Closes c) b { b with
          recoveryStarted := insert commandId b.recoveryStarted } := h₀
      exact .inr ⟨hmarked.publish hsubmitted hformed hpublished, fun c hc => by
        rwa [activeCommands_publishRecord]⟩
  | @complete completion context now hfound =>
      refine .inr ⟨?_, fun c hc => by rwa [activeCommands_handleCompletion]⟩
      rcases handleCompletion_cases cfg now hfound with
        ⟨_, heq⟩ | ⟨record, _, ⟨_, _, heq⟩ | ⟨_, heq⟩⟩
      · rw [heq]; exact h₀
      · rw [heq]; exact ⟨[_], rfl, by simp [Event.Closes]⟩
      · rw [heq]
        have htaken : Grown (fun e => ∀ c, ¬ e.Closes c) b
            (b.completionTaken completion.token record completion.result) :=
          ⟨[_], rfl, by simp [Event.Closes]⟩
        exact htaken.form hsubmitted (hformed _)
  | @retry key deferred hfound =>
      refine .inr ⟨?_, fun c hc => by rwa [activeCommands_retryDeferred]⟩
      rcases retryDeferred_cases cfg b key deferred with heq | heq
      · rw [heq]; exact ⟨[_], rfl, by simp [Event.Closes]⟩
      · rw [heq]; exact ⟨[_], rfl, by simp [Event.Closes]⟩

/-! ### The invariant -/

/-- Operations are old ones, or one new one; a new insertion is for a new id. -/
lemma Tick.newOperation {cfg : CommandServiceConfig} {b b' : RuntimeBundle}
    (htick : Tick cfg b b') {i : ℕ} {operation : Operation}
    (hop : b'.operations.lookup i = some operation) :
    b.operations.lookup i = some operation ∨ (i = b.nextOperationId ∧
      (operation.kind = .insert → ∀ own, operation.context.record = some own →
        own.commandId ∉ createdIds b.trace)) := by
  rcases htick.serviceStep with ⟨event, _, rfl⟩ | hstep
  · exact .inl hop
  · exact hstep.newOperation i operation hop

/-- The insertion of a command that is born is over. -/
lemma Born.consumed {cfg : CommandServiceConfig} {b b' : RuntimeBundle} {c : String}
    (hw : Wellformed b) (htick : Tick cfg b b') (hborn : Born b b' c) :
    ∃ i operation own, b.operations.lookup i = some operation ∧ operation.kind = .insert ∧
      operation.context.record = some own ∧ own.commandId = c ∧
      b'.operations.lookup i = none := by
  obtain ⟨i, operation, own, value, hhead, hop, hkind, hrecord, hid, _⟩ := hborn
  refine ⟨i, operation, own, hop, hkind, hrecord, hid, ?_⟩
  rcases htick.serviceStep with ⟨event, _, rfl⟩ | hstep
  · -- the worker takes no results
    have hlen := congrArg List.length hhead
    have hle : b.databaseResults.length ≤ (b.workerTurn event).databaseResults.length := by
      rw [RuntimeBundle.workerTurn]
      dsimp only
      split <;> simp
    simp only [List.length_cons] at hlen
    omega
  · refine hstep.consumed _ hhead (hw.pipeline_lt i ?_)
    rw [pipeline]
    rw [hhead]
    simp

/-- The result of a transition that succeeded. -/
def Fresh (b : RuntimeBundle) (result : CommandDatabaseResult) (r : CommandRecord) : Prop :=
  result.value = .ok (.record r) ∧ ∃ operation,
    b.operations.lookup result.operationId = some operation ∧ operation.kind = .transition

/-- The stations in the life of a command are in order. -/
structure Lifecycle (b : RuntimeBundle) : Prop where
  ticket_known : ∀ c, Ticket b c → c ∈ createdIds b.trace
  event_known : ∀ e ∈ b.trace, ∀ c, e.Touches c → c ∈ createdIds b.trace
  insertion_unique : ∀ i j operation operation' own own',
    b.operations.lookup i = some operation → b.operations.lookup j = some operation' →
    operation.kind = .insert → operation'.kind = .insert →
    operation.context.record = some own → operation'.context.record = some own' →
    own.commandId = own'.commandId → i = j
  unborn : ∀ i operation own, b.operations.lookup i = some operation →
    operation.kind = .insert → operation.context.record = some own →
      ¬ Ticket b own.commandId ∧ ∀ e ∈ b.trace, ¬ e.Touches own.commandId
  closed_inactive : ∀ c, Closed b c → b.activeCommands.lookup c = none
  ticket : ∀ c, Ticket b c → (b.activeCommands.lookup c).isSome ∨ Closed b c
  touched : ∀ e ∈ b.log, ∀ c, e.Touches c → (b.activeCommands.lookup c).isSome ∨ Closed b c
  closed_fresh : ∀ result ∈ b.databaseResults, ∀ r, Fresh b result r → ¬ Closed b r.commandId
  fresh_sorted : b.databaseResults.Pairwise fun x y => ∀ r s, Fresh b y s →
    reported x.value = some r → r.commandId = s.commandId → r.status.isTerminal = false
  once : b.trace.Pairwise fun e e' => ∀ c, e.Closes c → ¬ e'.Closes c

namespace Lifecycle

variable {b b' : RuntimeBundle} {cfg : CommandServiceConfig}

/-- The row of a closed command is terminal, as long as it is there. -/
lemma closed_committed (hl : Ledger b) {c : String} (hc : Closed b c) :
    ∃ ack ∈ sourceAcks b.trace, ack.commandId = some c ∧ ack.status.isTerminal = true ∧
      ∃ r ∈ committedRows b.trace, r.commandId = c ∧ r.status.isTerminal = true := by
  obtain ⟨e, he, hcloses⟩ := hc
  cases e with
  | acked topic ack cause =>
      cases cause with
      | lifecycle =>
          obtain ⟨hid, hterm⟩ := hcloses
          have hack : ack ∈ sourceAcks b.trace := mem_sourceAcks.mpr ⟨topic, .lifecycle, he⟩
          obtain ⟨r, hr, hrid, hstatus⟩ := hl.ack_committed' hack hid
          rw [hid] at hrid
          exact ⟨ack, hack, hid, hterm, r, hr, (Option.some.inj hrid).symm, hstatus ▸ hterm⟩
      | _ => exact hcloses.elim
  | _ => exact hcloses.elim

/-- The command of an insertion has been created. -/
lemma insertion_created (hw : Wellformed b) {i : ℕ} {operation : Operation} {own : CommandRecord}
    (hop : b.operations.lookup i = some operation) (hrecord : operation.context.record = some own) :
    own.commandId ∈ createdIds b.trace :=
  (hw.operation_context hop hrecord).known.mem_createdIds

/-- Who is closed after a tick was closed before, or is finished in it. -/
lemma closed_cases (hw : Wellformed b) (htick : Tick cfg b b') {c : String} (hc : Closed b' c) :
    Closed b c ∨ ∃ i operation r, Finishes b b' i operation r ∧ r.commandId = c := by
  have hpast : b'.past = b.past := (htick.touch hw).past
  obtain ⟨e, he, hcloses⟩ := hc
  unfold RuntimeBundle.trace at he
  rcases htick.closing hw with ⟨i, operation, r, hfin⟩ | ⟨⟨es, hlog, hes⟩, _⟩
  · obtain ⟨topic, ack, hlog, hack, _⟩ := hfin.log
    rw [hlog, hpast, List.cons_append] at he
    rcases List.mem_cons.mp he with rfl | he
    · refine .inr ⟨i, operation, r, hfin, ?_⟩
      have hid := hcloses.1
      rw [hack] at hid
      exact Option.some.inj hid
    · exact .inl ⟨e, he, hcloses⟩
  · rw [hlog, hpast, List.append_assoc] at he
    rcases List.mem_append.mp he with he | he
    · exact absurd hcloses (hes e he c)
    · exact .inl ⟨e, he, hcloses⟩

/-- The row that a successful transition found was not terminal. -/
lemma row_of_fresh (hw : Wellformed b) {i : ℕ} {task : CommandDatabaseTask}
    (hmem : (i, task) ∈ b.commands) {operation : Operation}
    (hop : b.operations.lookup i = some operation) (hkind : operation.kind = .transition)
    {r : CommandRecord} (hvalue : (execute b.table task).value = .ok (.record r)) :
    ∃ row, b.table.findCommandById r.commandId = some row ∧ row.status.isTerminal = false := by
  obtain ⟨operation', hop', hmatch⟩ := hw.queue i task hmem
  rw [hop] at hop'
  cases hop'
  cases task with
  | transitionCommand commandId expected desired update =>
      rcases execute_transitionCommand b.table commandId expected desired update with
        ⟨_, heq⟩ | ⟨_, heq⟩ | ⟨row, table', hrow, hstatus, hcan, _, heq⟩
      · rw [heq] at hvalue; cases hvalue
      · rw [heq] at hvalue; cases hvalue
      · rw [heq] at hvalue
        cases hvalue
        have hid : row.commandId = commandId := CommandTable.findCommandById_commandId hrow
        refine ⟨row, by change b.table.findCommandById row.commandId = _; rw [hid]; exact hrow, ?_⟩
        by_contra hterm
        rw [hstatus] at hterm
        rw [not_canTransition_of_isTerminal (by simpa using hterm)] at hcan
        cases hcan
  | recoverControlCommands _ _ => exact hmatch.elim
  | cleanupCommands _ _ => rw [show operation.kind = .cleanup from hmatch] at hkind; cases hkind
  | _ => rw [hmatch.1] at hkind; cases hkind

/-- A result that is fresh after a step of the service was so before it. -/
lemma fresh_of_serviceStep (hw : Wellformed b) (hstep : ServiceStep b b')
    {result : CommandDatabaseResult} (hmem : result ∈ b.databaseResults) {r : CommandRecord}
    (h : Fresh b' result r) : Fresh b result r := by
  obtain ⟨hvalue, operation, hop, hkind⟩ := h
  refine ⟨hvalue, operation, ?_, hkind⟩
  rcases hstep.newOperation _ _ hop with hop | ⟨hnext, _⟩
  · exact hop
  · have hlt := hw.pipeline_lt result.operationId
      (List.mem_append_left _ (List.mem_map_of_mem hmem))
    omega

/-- The results after a turn of the worker: at most one more, that of the front
task. -/
lemma results_workerTurn {event : WorkerEvent} (hevent : event.Admissible) :
    (b.workerTurn event).databaseResults = b.databaseResults ∨
      ∃ i task value, (i, task) ∈ b.commands ∧
        (b.workerTurn event).databaseResults = b.databaseResults ++ [⟨i, value⟩] ∧
        ∀ r, value = .ok (.record r) → (execute b.table task).value = .ok (.record r) := by
  have hpushed : ∀ result, b.pushed result = b.databaseResults ∨
      b.pushed result = b.databaseResults ++ [result] := fun result => by
    rw [pushed]
    split
    · exact .inl rfl
    · exact .inr rfl
  rcases workerTurn_cases hevent with
    ⟨worker, _, heq⟩ | ⟨i, task, rest, hqueue, ⟨worker, _, heq⟩ |
      ⟨worker, message, _, _, _, heq⟩ | ⟨worker, _, _, heq⟩⟩
  · rw [heq]; exact .inl rfl
  · rw [heq]
    refine (hpushed ⟨i, _⟩).imp id fun h => ⟨i, task, _, by simp [hqueue], h, fun r hr => hr⟩
  · rw [heq]
    refine (hpushed ⟨i, _⟩).imp id fun h => ⟨i, task, _, by simp [hqueue], h, fun r hr => ?_⟩
    cases hr
  · rw [heq]; exact .inl rfl

/-- A command that is active stays so until it is closed, for good. -/
lemma stays (hw : Wellformed b) (htick : Tick cfg b b') {c : String}
    (hc : (b.activeCommands.lookup c).isSome ∨ Closed b c) :
    (b'.activeCommands.lookup c).isSome ∨ Closed b' c := by
  rcases hc with hactive | ⟨e, he, hcloses⟩
  · rcases htick.closing hw with ⟨i, op, r, hfin⟩ | ⟨_, hkept⟩
    · by_cases hid : c = r.commandId
      · obtain ⟨topic, ack, hlog, hack, hstatus⟩ := hfin.log
        refine .inr ⟨.acked topic ack .lifecycle, ?_, hid ▸ hack, hstatus ▸ hfin.isTerminal⟩
        rw [RuntimeBundle.trace]
        rw [hlog]
        exact List.mem_append_left _ List.mem_cons_self
      · exact .inl (by rw [hfin.others c hid]; exact hactive)
    · exact .inl (hkept c hactive)
  · exact .inr ⟨e, htick.trace_suffix.subset he, hcloses⟩

/-- A closed command does not become active again. -/
lemma closed_inactive_tick (hw : Wellformed b) (hl : Ledger b) (h : Lifecycle b)
    (htick : Tick cfg b b') {c : String} (hc : Closed b' c) :
    b'.activeCommands.lookup c = none := by
  rcases closed_cases hw htick hc with hc | ⟨i, operation, r, hfin, rfl⟩
  · by_contra hsome
    obtain ⟨context, hcontext⟩ := Option.ne_none_iff_exists'.mp hsome
    rcases htick.memory hw hcontext with hold | ⟨i, operation, r, hrem, rfl⟩
    · rw [h.closed_inactive c hc] at hold
      cases hold
    · -- the report would lie behind the terminal status that is acknowledged already
      obtain ⟨ack, hack, hid, hterm, _⟩ := closed_committed hl hc
      obtain ⟨value, hhead, hreported⟩ := hrem.head
      have hmem : r ∈ reportedRows b :=
        mem_reportedRows.mpr ⟨_, by rw [hhead]; exact List.mem_cons_self, hreported⟩
      have := (hl.acks_le_reports ack hack r hmem hid).isTerminal hterm
      rw [hrem.isTerminal] at this
      cases this
  · exact hfin.inactive

/-- A transition succeeds for no closed command, and after no terminal report. -/
lemma fresh_tick (hw : Wellformed b) (hl : Ledger b) (h : Lifecycle b) (htick : Tick cfg b b') :
    (∀ result ∈ b'.databaseResults, ∀ r, Fresh b' result r → ¬ Closed b' r.commandId) ∧
    b'.databaseResults.Pairwise fun x y => ∀ r s, Fresh b' y s →
      reported x.value = some r → r.commandId = s.commandId → r.status.isTerminal = false := by
  have hclosed : ∀ {c}, Closed b' c → Closed b c ∨ ∃ i operation r,
      Finishes b b' i operation r ∧ r.commandId = c := fun hc => closed_cases hw htick hc
  rcases htick.serviceStep with ⟨event, hevent, rfl⟩ | hstep
  · have hquiet : ∀ {c}, Closed (b.workerTurn event) c → Closed b c := fun hc => by
      rcases hclosed hc with hc | ⟨i, operation, r, hfin, _⟩
      · exact hc
      · -- the worker takes no results
        obtain ⟨value, hhead, _⟩ := hfin.head
        have hlen := congrArg List.length hhead
        rcases results_workerTurn (b := b) hevent with heq | ⟨_, _, _, _, heq, _⟩
        · rw [heq, List.length_cons] at hlen
          omega
        · rw [heq, List.length_cons, List.length_append] at hlen
          omega
    rcases results_workerTurn (b := b) hevent with heq | ⟨i, task, value, hmem, heq, hvalue⟩
    · rw [heq]
      exact ⟨fun result hresult r hfresh hc => h.closed_fresh result hresult r hfresh (hquiet hc),
        h.fresh_sorted⟩
    · rw [heq]
      -- a transition succeeds on a row that is not terminal, so nothing terminal was committed
      have hrow : ∀ s, Fresh (b.workerTurn event) ⟨i, value⟩ s →
          ∃ row, b.table.findCommandById s.commandId = some row ∧ row.status.isTerminal = false :=
        fun s ⟨hs, operation, hop, hkind⟩ => row_of_fresh hw hmem hop hkind (hvalue s hs)
      refine ⟨fun result hresult r hfresh hc => ?_, ?_⟩
      · rcases List.mem_append.mp hresult with hresult | hresult
        · exact h.closed_fresh result hresult r hfresh (hquiet hc)
        · cases List.mem_singleton.mp hresult
          obtain ⟨row, hfind, hterm⟩ := hrow r hfresh
          obtain ⟨_, _, _, _, s, hs, hid, hsterm⟩ := closed_committed hl (hquiet hc)
          have := (hl.committed_le_row s hs row (hid ▸ hfind)).isTerminal hsterm
          rw [hterm] at this
          cases this
      · rw [List.pairwise_append]
        refine ⟨h.fresh_sorted, List.pairwise_singleton _ _, fun x hx y hy r s hfresh hr hid => ?_⟩
        cases List.mem_singleton.mp hy
        obtain ⟨row, hfind, hterm⟩ := hrow s hfresh
        by_contra hrterm
        have hcommitted := hl.report_committed r (mem_reportedRows.mpr ⟨x, hx, hr⟩)
        have := (hl.committed_le_row r hcommitted row (hid ▸ hfind)).isTerminal
          (by simpa using hrterm)
        rw [hterm] at this
        cases this
  · have hsub : b'.databaseResults.Sublist b.databaseResults := by
      rcases hstep.results with heq | ⟨result, heq⟩
      · rw [heq]
      · rw [heq]; exact List.sublist_cons_self _ _
    refine ⟨fun result hresult r hfresh hc => ?_, ?_⟩
    · have hfresh' := fresh_of_serviceStep hw hstep (hsub.subset hresult) hfresh
      rcases hclosed hc with hc | ⟨i, operation, s, hfin, hid⟩
      · exact h.closed_fresh result (hsub.subset hresult) r hfresh' hc
      · -- the command is finished by an earlier report
        obtain ⟨value, hhead, hreported, _⟩ := hfin.head
        have hsorted := h.fresh_sorted
        rw [hhead, List.pairwise_cons] at hsorted
        have := hsorted.1 result hresult s r hfresh' hreported hid
        rw [hfin.isTerminal] at this
        cases this
    · refine (h.fresh_sorted.sublist hsub).imp_of_mem fun hx hy hxy r s hfresh => ?_
      exact hxy r s (fresh_of_serviceStep hw hstep (hsub.subset hy) hfresh)

/-- A command that is finished was not closed before. -/
lemma not_closed_of_finishes (h : Lifecycle b) {i : ℕ} {operation : Operation}
    {r : CommandRecord} (hfin : Finishes b b' i operation r) : ¬ Closed b r.commandId := by
  intro hc
  rcases hfin.kind with ⟨hkind, own, hrecord, hid⟩ | hkind | ⟨_, hactive⟩
  · obtain ⟨e, he, hcloses⟩ := hc
    exact (h.unborn i operation own hfin.found hkind hrecord).2 e he (hid ▸ hcloses.touches)
  · obtain ⟨value, hhead, _, hvalue⟩ := hfin.head
    refine h.closed_fresh ⟨i, value⟩ (by rw [hhead]; exact List.mem_cons_self) r ?_ hc
    exact ⟨hvalue hkind, operation, hfin.found, hkind⟩
  · rw [h.closed_inactive _ hc] at hactive
    cases hactive

lemma tick (hw : Wellformed b) (hl : Ledger b) (h : Lifecycle b) (htick : Tick cfg b b') :
    Lifecycle b' := by
  have htouch := htick.touch hw
  obtain ⟨es, hlog, hes⟩ := htouch.log
  have htrace : b'.trace = es ++ b.trace := by
    simp only [RuntimeBundle.trace]
    rw [hlog, htouch.past, List.append_assoc]
  have hcreated : ∀ c ∈ createdIds b.trace, c ∈ createdIds b'.trace := fun c hc => by
    rw [htrace, createdIds_append]
    exact List.mem_append_right _ hc
  -- whoever is touched in this tick was created before it
  have hknown : ∀ c, Ticket b c ∨ Born b b' c → c ∈ createdIds b.trace := by
    rintro c (hc | hborn)
    · exact h.ticket_known c hc
    · obtain ⟨i, op, own, hop, _, hrecord, rfl, _⟩ := hborn.consumed hw htick
      exact insertion_created hw hop hrecord
  -- and its insertion is over
  have hlive : ∀ c, Ticket b c ∨ Born b b' c → ∀ i op own, b'.operations.lookup i = some op →
      op.kind = .insert → op.context.record = some own → own.commandId ≠ c := by
    intro c hc i op own hop hkind hrecord hid
    rcases htick.newOperation hop with hold | ⟨_, hnew⟩
    · rcases hc with hc | hborn
      · exact (h.unborn i op own hold hkind hrecord).1 (hid ▸ hc)
      · obtain ⟨j, op', own', hop', hkind', hrecord', rfl, hnone⟩ := hborn.consumed hw htick
        have := h.insertion_unique i j op op' own own' hold hop' hkind hkind' hrecord hrecord' hid
        subst this
        rw [hop] at hnone
        cases hnone
    · exact hnew hkind own hrecord (hid ▸ hknown c hc)
  have halive : ∀ c, Ticket b c ∨ Born b b' c →
      (b'.activeCommands.lookup c).isSome ∨ Closed b' c := by
    rintro c (hc | ⟨_, _, _, _, _, _, _, _, _, ⟨k, hk⟩ | hclosed⟩)
    · exact stays hw htick (h.ticket c hc)
    · exact .inl (by rw [hk]; rfl)
    · exact .inr hclosed
  have hmem : ∀ e ∈ b'.trace, e ∈ b.trace ∨ e ∈ es := fun e he => by
    rw [htrace] at he
    exact (List.mem_append.mp he).symm
  obtain ⟨hclosedFresh, hfreshSorted⟩ := fresh_tick hw hl h htick
  exact
    { ticket_known := fun c hc => hcreated c (hknown c (htouch.tickets c hc))
      event_known := fun e he c hc => by
        rcases hmem e he with he | he
        · exact hcreated c (h.event_known e he c hc)
        · exact hcreated c (hknown c (hes e he c hc))
      insertion_unique := fun i j op op' own own' hop hop' hkind hkind' hrecord hrecord' hid => by
        rcases htick.newOperation hop with hold | ⟨hi, hnew⟩ <;>
          rcases htick.newOperation hop' with hold' | ⟨hj, hnew'⟩
        · exact h.insertion_unique i j op op' own own' hold hold' hkind hkind' hrecord hrecord' hid
        · exact absurd (hid ▸ insertion_created hw hold hrecord) (hnew' hkind' own' hrecord')
        · exact absurd (hid ▸ insertion_created hw hold' hrecord') (hnew hkind own hrecord)
        · rw [hi, hj]
      unborn := fun i op own hop hkind hrecord => by
        refine ⟨fun hc => hlive _ (htouch.tickets _ hc) i op own hop hkind hrecord rfl,
          fun e he hc => ?_⟩
        rcases hmem e he with he | he
        · rcases htick.newOperation hop with hold | ⟨_, hnew⟩
          · exact (h.unborn i op own hold hkind hrecord).2 e he hc
          · exact hnew hkind own hrecord (h.event_known e he _ hc)
        · exact hlive _ (hes e he _ hc) i op own hop hkind hrecord rfl
      closed_inactive := fun c hc => closed_inactive_tick hw hl h htick hc
      ticket := fun c hc => halive c (htouch.tickets c hc)
      touched := fun e he c hc => by
        rw [hlog] at he
        rcases List.mem_append.mp he with he | he
        · exact halive c (hes e he c hc)
        · exact stays hw htick (h.touched e he c hc)
      closed_fresh := hclosedFresh
      fresh_sorted := hfreshSorted
      once := by
        rcases htick.closing hw with ⟨i, op, r, hfin⟩ | ⟨⟨es', hlog', hes'⟩, _⟩
        · obtain ⟨topic, ack, hlog', hack, _⟩ := hfin.log
          have htrace' : b'.trace = .acked topic ack .lifecycle :: b.trace := by
            simp only [RuntimeBundle.trace]
            rw [hlog', htouch.past, List.cons_append]
          rw [htrace', List.pairwise_cons]
          -- an earlier closing would have closed the command before it is finished
          refine ⟨fun e' he' c hc hc' => not_closed_of_finishes h hfin ⟨e', he', ?_⟩, h.once⟩
          have hid := hc.1
          rw [hack] at hid
          rw [Option.some.inj hid]
          exact hc'
        · have htrace' : b'.trace = es' ++ b.trace := by
            simp only [RuntimeBundle.trace]
            rw [hlog', htouch.past, List.append_assoc]
          rw [htrace', List.pairwise_append]
          refine ⟨?_, h.once, fun e he e' _ c hc => absurd hc (hes' e he c)⟩
          exact List.pairwise_of_forall_mem_list fun e he e' _ c hc => absurd hc (hes' e he c) }

/-- A new process has only unfinished commands, and their rows. -/
lemma restarted (h : Lifecycle b) (hw' : Wellformed b')
    (hl' : Ledger b') (hrestart : Restarted cfg b b') : Lifecycle b' := by
  obtain ⟨written, _, hpast⟩ := hrestart.recovery
  have htrace : b'.trace = (b'.log ++ written.map .committed) ++ b.trace := by
    simp only [RuntimeBundle.trace] at hpast ⊢
    rw [hpast, List.append_assoc]
  have hquiet : ∀ e ∈ b'.log ++ written.map .committed, ∀ c, ¬ e.Touches c := by
    intro e he c
    rcases List.mem_append.mp he with he | he
    · rcases hrestart.log e he with rfl | ⟨message, rfl⟩ <;> exact id
    · obtain ⟨r, _, rfl⟩ := List.mem_map.mp he
      exact id
  -- the other four maps are empty in a new process
  have hactive : ∀ c, Ticket b' c → ∃ context, b'.activeCommands.lookup c = some context := by
    intro c hc
    cases hc with
    | active hk => exact ⟨_, hk⟩
    | operation hop => rw [hrestart.operations] at hop; cases hop
    | publication hk => rw [hrestart.publications] at hk; cases hk
    | deferred hd => rw [hrestart.deferredTransitions] at hd; cases hd
    | early he => rw [hrestart.earlyDeviceAcks] at he; cases he
  exact
    { ticket_known := fun c hc => by
        obtain ⟨context, hcontext⟩ := hactive c hc
        obtain ⟨r, hr, _, rfl⟩ := hw'.active c context hcontext
        exact hr.known.mem_createdIds
      event_known := fun e he c hc => by
        rw [htrace] at he ⊢
        rcases List.mem_append.mp he with he | he
        · exact absurd hc (hquiet e he c)
        · rw [createdIds_append]
          exact List.mem_append_right _ (h.event_known e he c hc)
      insertion_unique := fun i j op op' own own' hop => by
        rw [hrestart.operations] at hop; cases hop
      unborn := fun i op own hop => by rw [hrestart.operations] at hop; cases hop
      closed_inactive := fun c hc => by
        by_contra hsome
        obtain ⟨context, hcontext⟩ := Option.ne_none_iff_exists'.mp hsome
        obtain ⟨record, _, rfl, _, hterm, hrow, _⟩ := hrestart.activeCommands c context hcontext
        obtain ⟨_, _, _, _, r, hr, hid, hrterm⟩ := closed_committed hl' hc
        have := (hl'.committed_le_row r hr record (hid ▸ hrow)).isTerminal hrterm
        rw [hterm] at this
        cases this
      ticket := fun c hc => by
        obtain ⟨context, hcontext⟩ := hactive c hc
        exact .inl (by rw [hcontext]; rfl)
      touched := fun e he c hc => absurd hc (hquiet e (List.mem_append_left _ he) c)
      closed_fresh := fun result hresult => by
        rw [hrestart.databaseResults] at hresult
        cases hresult
      fresh_sorted := by rw [hrestart.databaseResults]; exact List.Pairwise.nil
      once := by
        rw [htrace, List.pairwise_append]
        refine ⟨?_, h.once, fun e he e' _ c hc => absurd hc.touches (hquiet e he c)⟩
        exact List.pairwise_of_forall_mem_list fun e he e' _ c hc =>
          absurd hc.touches (hquiet e he c) }

lemma blank : Lifecycle .blank where
  ticket_known := fun c hc => by cases hc <;> contradiction
  event_known := fun e he => by cases he
  insertion_unique := fun i j op op' own own' hop => by cases hop
  unborn := fun i op own hop => by cases hop
  closed_inactive := fun c _ => rfl
  ticket := fun c hc => by cases hc <;> contradiction
  touched := fun e he => by cases he
  closed_fresh := fun result hresult => by cases hresult
  fresh_sorted := List.Pairwise.nil
  once := List.Pairwise.nil

end Lifecycle

/-- The three invariants of the service together. -/
structure Sound (b : RuntimeBundle) : Prop where
  wellformed : Wellformed b
  ledger : Ledger b
  lifecycle : Lifecycle b

namespace Sound

variable {b b' : RuntimeBundle} {cfg : CommandServiceConfig}

lemma tick (h : Sound b) (htick : Tick cfg b b') : Sound b' :=
  ⟨h.wellformed.tick htick, .tick h.wellformed h.ledger htick,
    .tick h.wellformed h.ledger h.lifecycle htick⟩

lemma restarted (h : Sound b) (hrestart : Restarted cfg b b') : Sound b' := by
  have hw' := h.wellformed.restarted hrestart
  have hl' := h.ledger.restarted hrestart
  exact ⟨hw', hl', .restarted h.lifecycle hw' hl' hrestart⟩

lemma blank : Sound .blank := ⟨.blank, .blank, .blank⟩

end Sound

/-- **All three hold in every reachable state.** -/
theorem sound_of_reachable {cfg : CommandServiceConfig} {b : RuntimeBundle}
    (hb : (routeService cfg).Reachable b) : Sound b :=
  reachable_of_ticks Sound.blank (fun _ _ h hrestart => h.restarted hrestart)
    (fun _ _ h htick => h.tick htick) hb

/-! ### Closing, over inputs -/

section Steps

variable {b b' : RuntimeBundle} {cfg : CommandServiceConfig} {c : String}

lemma Sound.ticks (h : Sound b) (hticks : Ticks cfg b b') : Sound b' := by
  induction hticks with
  | refl => exact h
  | tail _ hlast ih => exact ih.tick hlast

/-- A command that is active is active or closed afterwards. -/
lemma Ticks.stays (h : Sound b) (hticks : Ticks cfg b b')
    (hc : (b.activeCommands.lookup c).isSome ∨ Closed b c) :
    (b'.activeCommands.lookup c).isSome ∨ Closed b' c := by
  induction hticks with
  | refl => exact hc
  | tail hfirst hlast ih => exact Lifecycle.stays (h.ticks hfirst).wellformed hlast ih

/-- Without results nobody is closed. -/
lemma Idle.closed {T : Limits} (h : Sound b) (hidle : Idle T cfg b b')
    (hc : Closed b' c) : Closed b c := by
  induction hidle with
  | refl => exact hc
  | tail hfirst hlast ih =>
      have hm := h.ticks (Idle.ticks hfirst)
      rcases Lifecycle.closed_cases hm.wellformed hlast.1.tick hc with hc |
        ⟨i, operation, r, hfin, _⟩
      · exact ih hc
      · -- a command is finished by a result
        obtain ⟨value, hhead, _⟩ := hfin.head
        have hlen := hlast.2
        rw [hhead, List.length_cons] at hlen
        omega

/-- **Who is closed by a turn** was active before it, or its insertion is the
result taken. -/
lemma Turn.closed {T : Limits} (h : Sound b)
    (hturn : Turn T cfg b b') (hopen : ¬ Closed b c) (hc : Closed b' c) :
    (b.activeCommands.lookup c).isSome ∨
      ∃ i operation own r rest, b.databaseResults = ⟨i, .ok (.record r)⟩ :: rest ∧
        b.operations.lookup i = some operation ∧ operation.kind = .insert ∧
        operation.context.record = some own ∧ own.commandId = c ∧ r.commandId = c ∧
        r.status.isTerminal = true := by
  -- the ticks after the first one take no result
  obtain ⟨m, htick, hidle⟩ := hturn
  have htick := htick.tick
  have hm := hidle.closed (h.tick htick) hc
  obtain ⟨i, operation, r, hfin, hid⟩ :=
    (Lifecycle.closed_cases h.wellformed htick hm).resolve_left hopen
  obtain ⟨value, hhead, hreported, hvalue⟩ := hfin.head
  have hmem : (⟨i, value⟩ : CommandDatabaseResult) ∈ b.databaseResults := by
    rw [hhead]; exact List.mem_cons_self
  obtain ⟨operation', hop', hanswers⟩ := h.wellformed.results _ hmem
  rw [show b.operations.lookup i = some operation from hfin.found] at hop'
  cases hop'
  rcases hfin.kind with ⟨hkind, own, hrecord, hown⟩ | hkind | ⟨_, hactive⟩
  · refine .inr ⟨i, operation, own, r, m.databaseResults, ?_, hfin.found, hkind, hrecord,
      hown.trans hid, hid, hfin.isTerminal⟩
    rw [hhead]
    match value, hreported, hanswers with
    | .ok (.record s), hreported, _ => cases hreported; rfl
    | .ok (.found (some s)), _, hanswers =>
        rcases hanswers with ⟨hk, _⟩ | ⟨hk, _⟩ <;> rw [hkind] at hk <;> cases hk
  · rw [hvalue hkind] at hanswers
    rcases hanswers with ⟨hk, _⟩ | ⟨_, desired, hdesired, hsame, _⟩
    · rw [hkind] at hk; cases hk
    · have hticket : Ticket b c :=
        .operation hfin.found (.inl hkind) hdesired (hsame.symm.trans hid)
      exact .inl ((h.lifecycle.ticket c hticket).resolve_right hopen)
  · exact .inl (hid ▸ hactive)

end Steps

end CnsServer
