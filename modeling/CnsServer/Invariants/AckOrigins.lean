/-
Where the source ACKs come from, said once: a rejection before anything was
stored, the replay of a stored command to a repeated request, or the record of a
result in the course of a command (`AckOrigin`).  Commands are created for
searches that found nothing.

* `Tick.acks`, `Tick.acked_cases`, `Tick.created_cases`: every ACK and every
  creation of a tick has one of these origins;
* `Restarted.acked`, `Restarted.created`: a restart sends and creates none.
-/
import CnsServer.Invariants.Lifecycle

namespace CnsServer

open RuntimeBundle

/-- The operation compares a stored command with this request body. -/
def Asks (operation : Operation) (payload : Json) : Prop :=
  (operation.kind = .find ∧ operation.context.parsed.comparisonPayload = some payload) ∨
    (operation.kind = .insert ∧ ∃ own, operation.context.record = some own ∧
      payload = own.requestPayload)

/-- The number of a request that is refused is valid, or the one of a command. -/
def RequestKnown (b : RuntimeBundle) (ack : SourceAck) : Prop :=
  ∀ requestId ∈ ack.requestId, isValidRequestId requestId = true ∨
    ∃ i command, .created i command ∈ b.trace ∧ command.requestId = requestId

/-- The origins of a source ACK sent between the two states. -/
inductive AckOrigin (cfg : CommandServiceConfig) (b b' : RuntimeBundle) :
    String → SourceAck → AckCause → Prop
  | rejection {topic : String} {ack : SourceAck} {i : Option ℕ} :
      IsRejection topic ack → RequestKnown b ack → AckOrigin cfg b b' topic ack (.rejection i)
  | replay {i : ℕ} {value : Except DatabaseError CommandDatabaseValue} {operation : Operation}
      {existing : CommandRecord} {payload : Json} {now : TimePoint} :
      b.databaseResults = ⟨i, value⟩ :: b'.databaseResults → reported value = some existing →
      b.operations.lookup i = some operation → Asks operation payload →
      compareRequest existing payload = .same →
      AckOrigin cfg b b'
        (sourceAckTopic cfg.topicNamespace operation.context.sourceId operation.context.commandType)
        (buildSourceAck existing (b.targetFor existing) now) (.replay i payload)
  | lifecycle {i : ℕ} {value : Except DatabaseError CommandDatabaseValue} {record : CommandRecord}
      {context : RequestContext} {now : TimePoint} :
      b.databaseResults = ⟨i, value⟩ :: b'.databaseResults → reported value = some record →
      context.commandType = record.commandType → context.sourceId = record.sourceId →
      AckOrigin cfg b b'
        (sourceAckTopic cfg.topicNamespace context.sourceId context.commandType)
        (buildSourceAck record context.target now) .lifecycle

/-- The record is created for the search of a request. -/
def CreationOrigin (b : RuntimeBundle) (command : CommandRecord) : Prop :=
  ∃ i operation answers requestId payload, b.operations.lookup i = some operation ∧
    operation.kind = .find ∧ operation.context.parsed.requestId = some requestId ∧
    command = (b.newCommand answers operation.context requestId payload).1

/-- If the event is a source ACK or a creation, it has an origin. -/
def Event.HasOrigin (cfg : CommandServiceConfig) (b b' : RuntimeBundle) : Event → Prop
  | .acked topic ack cause => AckOrigin cfg b b' topic ack cause
  | .created _ command => CreationOrigin b command
  | _ => True

lemma compareRequest_eq_same {existing : CommandRecord} {payload : Json}
    (h : compareRequest existing payload ≠ .conflict) :
    compareRequest existing payload = .same := by
  cases hcompare : compareRequest existing payload with
  | same => rfl
  | conflict => exact absurd hcompare h

/-- The search for a request has its number, which is valid. -/
lemma Wellformed.requestId_of_find {b : RuntimeBundle} (hw : Wellformed b) {i : ℕ}
    {operation : Operation} (hop : b.operations.lookup i = some operation)
    (hkind : operation.kind = .find) {requestId : String}
    (hrequestId : operation.context.parsed.requestId = some requestId) :
    isValidRequestId requestId = true := by
  have hok := hw.operations i operation hop
  unfold OperationOk at hok
  rw [hkind] at hok
  obtain ⟨-, root, kind, hparsed, -⟩ := hok
  rw [hparsed] at hrequestId
  exact (parseSourceJson_reported _ root kind).requestId requestId hrequestId

/-- The events of a result that enters no map. -/
lemma Consumed.hasOrigin {cfg : CommandServiceConfig} {b b' : RuntimeBundle} (hw : Wellformed b)
    {i : ℕ} {value : Except DatabaseError CommandDatabaseValue} {events : List Event}
    (hhead : b.databaseResults = ⟨i, value⟩ :: b'.databaseResults)
    (h : Consumed cfg b i value events) : ∀ e ∈ events, e.HasOrigin cfg b b' := by
  cases h with
  | unknown _ => simp
  | failed _ _ _ => simp [Event.HasOrigin]
  | ignored _ _ _ => simp
  | @rejected operation existing requestId now hop hasks =>
      intro e he
      rw [List.mem_singleton.mp he]
      refine .rejection ⟨_, _, requestId, idempotencyConflict, now, _, rfl, rfl,
        by decide +kernel⟩ fun id hid => ?_
      rcases hasks with ⟨hkind, -, hrequestId, -⟩ | ⟨own, hkind, -, hrecord, -, hrequestId, -⟩
      · exact .inl (hw.requestId_of_find hop hkind (hrequestId.symm.trans hid))
      · obtain ⟨j, command, hcreated, hsame⟩ := (hw.operation_context hop hrecord).known
        have hown : some own.requestId = some id := hrequestId.symm.trans hid
        exact .inr ⟨j, command, hcreated,
          hsame.requestId.symm.trans (Option.some.inj hown)⟩
  | @replayed operation existing payload now hop hcompare hasks =>
      intro e he
      rw [List.mem_singleton.mp he]
      rcases hasks with ⟨hkind, rfl, hpayload⟩ | ⟨own, hkind, rfl, hrecord, _, hpayload⟩
      · exact .replay hhead rfl hop (.inl ⟨hkind, hpayload⟩) (compareRequest_eq_same hcompare)
      · exact .replay hhead rfl hop (.inr ⟨hkind, own, hrecord, hpayload⟩)
          (compareRequest_eq_same hcompare)

/-- **Every ACK and every creation of a tick has an origin.** -/
theorem Tick.acks {cfg : CommandServiceConfig} {b b' : RuntimeBundle} (hw : Wellformed b)
    (htick : Tick cfg b b') : Grown (Event.HasOrigin cfg b b') b b' := by
  have h₀ : ∀ {c : RuntimeBundle}, Grown (Event.HasOrigin cfg b c) b b := Grown.refl b
  have hsubmitted : ∀ {c : RuntimeBundle} (i : ℕ) (task : CommandDatabaseTask) (accepted : Bool),
      (Event.submitted i task accepted).HasOrigin cfg b c := fun _ _ _ => trivial
  have hformed : ∀ {c : RuntimeBundle} (task : TransitionCommandTask)
      (replaced : Option TransitionCommandTask),
      (Event.formed task replaced).HasOrigin cfg b c := fun _ _ => trivial
  have hpublished : ∀ {c : RuntimeBundle} (token : ℕ) (topic : String) (payload : Json)
      (record : CommandRecord) (accepted : Bool),
      (Event.published token topic payload record accepted).HasOrigin cfg b c :=
    fun _ _ _ _ _ => trivial
  cases htick with
  | quiet hcore =>
      obtain ⟨es, hlog, hes⟩ := hcore.log
      refine ⟨es, hlog, fun e he => ?_⟩
      have hquiet := hes e he
      cases e with
      | acked topic ack cause =>
          obtain ⟨hrejection, rfl, hrequestId⟩ := hquiet
          exact .rejection hrejection fun id hid => .inl (hrequestId id hid)
      | created operation command => exact hquiet.elim
      | _ => trivial
  | @worker event hevent =>
      refine ⟨_, rfl, fun e he => ?_⟩
      rcases mem_executionEvents.mp he with ⟨r, _, rfl⟩ | ⟨_, r, _, rfl⟩ | ⟨r, _, rfl⟩ <;> trivial
  | mqtt => exact ⟨[_], rfl, by simp [Event.HasOrigin]⟩
  | device => exact ⟨[_], rfl, by simp [Event.HasOrigin]⟩
  | find => exact h₀.submit hsubmitted _ _ _
  | cleanup => exact h₀.submit hsubmitted _ _ _
  | consumed hhead hconsumed => exact ⟨_, rfl, hconsumed.hasOrigin hw hhead⟩
  | @create answers operationId operation rest requestId payload hhead hop hkind hrequestId =>
      refine Grown.submit ?_ hsubmitted _ _ _
      refine ⟨[_], rfl, fun e he => ?_⟩
      rw [List.mem_singleton.mp he]
      exact ⟨operationId, operation, answers, requestId, payload, hop, hkind, hrequestId, rfl⟩
  | @conflict operationId operation rest =>
      refine Grown.submit ?_ hsubmitted _ _ _
      exact h₀
  | activate =>
      refine Grown.publish ?_ hsubmitted hformed hpublished
      exact h₀
  | @refresh operationId operation rest record context now hhead hop hkind hterm hrecord _ htype
      hsource =>
      obtain ⟨desired, hcontext, hsame, _⟩ := hw.transition_result hhead hop hkind
      refine ⟨[_], rfl, fun e he => ?_⟩
      rw [List.mem_singleton.mp he]
      refine .lifecycle hhead rfl ?_ ?_
      · rw [htype, hcontext.commandType, hsame.commandType]
      · rw [hsource, hcontext.sourceId, hsame.sourceId]
  | settle => exact h₀
  | @converge operationId operation rest =>
      refine Grown.form ?_ hsubmitted (hformed _)
      exact h₀
  | @finish operationId operation rest record value context now hhead hop hwhich hterm hrecord
      htype hsource =>
      obtain ⟨own, hcontext, hsame⟩ :
          ∃ own, ContextOf b.trace operation.context own ∧ record.SameCommand own := by
        rcases hwhich with ⟨hkind, rfl⟩ | ⟨hkind, rfl, hown⟩ | ⟨hkind, rfl, _⟩
        · obtain ⟨desired, hcontext, hsame, _⟩ := hw.transition_result hhead hop hkind
          exact ⟨desired, hcontext, hsame⟩
        · exact hw.insert_result hhead hop hkind hown
        · exact hw.lookup_result hhead hop hkind
      have hreported : reported (.ok value) = some record := by
        rcases hwhich with ⟨_, rfl⟩ | ⟨_, rfl, _⟩ | ⟨_, rfl, _⟩ <;> rfl
      refine ⟨[_], rfl, fun e he => ?_⟩
      rw [List.mem_singleton.mp he]
      refine .lifecycle hhead hreported ?_ ?_
      · rw [htype, hcontext.commandType, hsame.commandType]
      · rw [hsource, hcontext.sourceId, hsame.sourceId]
  | finished => exact h₀
  | @deviceAck context record ack deviceId payload type now =>
      refine Grown.form ?_ hsubmitted (hformed _)
      exact h₀.emit trivial
  | @buffer context record ack deviceId payload type now =>
      rcases bufferEarlyAck_cases cfg (b.emit (.deviceAcked deviceId type ack
        (some record.status))) type ack ⟨deviceId, payload, now⟩ with
        ⟨kept, _, heq⟩ | ⟨message, heq⟩
      · rw [heq]
        exact ⟨[_], rfl, by simp [Event.HasOrigin]⟩
      · rw [heq]
        exact ⟨[_, _], rfl, by simp [Event.HasOrigin]⟩
  | timeout =>
      refine Grown.form ?_ hsubmitted (hformed _)
      exact h₀
  | republish =>
      refine Grown.publish ?_ hsubmitted hformed hpublished
      exact h₀
  | @complete completion context now hfound =>
      rcases handleCompletion_cases cfg now hfound with
        ⟨_, heq⟩ | ⟨record, _, ⟨_, _, heq⟩ | ⟨_, heq⟩⟩
      · rw [heq]; exact h₀
      · rw [heq]; exact ⟨[_], rfl, by simp [Event.HasOrigin]⟩
      · rw [heq]
        refine Grown.form ?_ hsubmitted (hformed _)
        exact ⟨[_], rfl, by simp [Event.HasOrigin]⟩
  | @retry key deferred hfound =>
      rcases retryDeferred_cases cfg b key deferred with heq | heq
      · rw [heq]; exact ⟨[_], rfl, by simp [Event.HasOrigin]⟩
      · rw [heq]; exact ⟨[_], rfl, by simp [Event.HasOrigin]⟩

/-- The ACKs of a tick, in the trace: old ones, or new ones with an origin. -/
lemma Tick.acked_cases {cfg : CommandServiceConfig} {b b' : RuntimeBundle} (hw : Wellformed b)
    (htick : Tick cfg b b') {topic : String} {ack : SourceAck} {cause : AckCause}
    (hacked : .acked topic ack cause ∈ b'.trace) :
    .acked topic ack cause ∈ b.trace ∨ AckOrigin cfg b b' topic ack cause := by
  obtain ⟨es, hlog, hes⟩ := htick.acks hw
  have hpast : b'.past = b.past := (htick.touch hw).past
  rw [RuntimeBundle.trace] at hacked ⊢
  rw [hlog, hpast, List.append_assoc] at hacked
  rcases List.mem_append.mp hacked with hnew | hold
  · exact .inr (hes _ hnew)
  · exact .inl hold

/-- The creations of a tick, in the trace. -/
lemma Tick.created_cases {cfg : CommandServiceConfig} {b b' : RuntimeBundle} (hw : Wellformed b)
    (htick : Tick cfg b b') {i : ℕ} {command : CommandRecord}
    (hcreated : .created i command ∈ b'.trace) :
    .created i command ∈ b.trace ∨ CreationOrigin b command := by
  obtain ⟨es, hlog, hes⟩ := htick.acks hw
  have hpast : b'.past = b.past := (htick.touch hw).past
  rw [RuntimeBundle.trace] at hcreated ⊢
  rw [hlog, hpast, List.append_assoc] at hcreated
  rcases List.mem_append.mp hcreated with hnew | hold
  · exact .inr (hes _ hnew)
  · exact .inl hold

/-- A restart creates no commands. -/
lemma RuntimeBundle.Restarted.created {cfg : CommandServiceConfig} {b b' : RuntimeBundle}
    (hrestart : Restarted cfg b b') {i : ℕ} {command : CommandRecord}
    (hcreated : .created i command ∈ b'.trace) : .created i command ∈ b.trace := by
  obtain ⟨written, _, hpast⟩ := hrestart.recovery
  unfold RuntimeBundle.trace at hcreated
  rw [hpast] at hcreated
  rcases List.mem_append.mp hcreated with hlog | hcreated
  · rcases hrestart.log _ hlog with h | ⟨message, h⟩ <;> cases h
  · rcases List.mem_append.mp hcreated with hwritten | hold
    · obtain ⟨r, _, h⟩ := List.mem_map.mp hwritten
      cases h
    · exact hold

/-- A restart sends no ACKs. -/
lemma RuntimeBundle.Restarted.acked {cfg : CommandServiceConfig} {b b' : RuntimeBundle}
    (hrestart : Restarted cfg b b') {topic : String} {ack : SourceAck} {cause : AckCause}
    (hacked : .acked topic ack cause ∈ b'.trace) : .acked topic ack cause ∈ b.trace := by
  obtain ⟨written, _, hpast⟩ := hrestart.recovery
  unfold RuntimeBundle.trace at hacked
  rw [hpast] at hacked
  rcases List.mem_append.mp hacked with hlog | hacked
  · rcases hrestart.log _ hlog with h | ⟨message, h⟩ <;> cases h
  · rcases List.mem_append.mp hacked with hwritten | hold
    · obtain ⟨r, _, h⟩ := List.mem_map.mp hwritten
      cases h
    · exact hold

end CnsServer
