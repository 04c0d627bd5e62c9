/-
The messages on the trace.

A message to a device is made from a row of the table: it goes to the topic
of its type and carries the parameters of the stored request.  A publication that
is outstanding, and one that has completed, was taken by the device publisher.

* `MessageOf`: the topic and the payload that `PublishRecord` gives a record;
* `Tick.publishes`: a tick is silent, or calls `PublishRecord` once;
* `Messages`: the three facts; ticks and restarts keep them.
-/
import CnsServer.Invariants.Provenance
import CnsServer.Invariants.Publications

namespace CnsServer

open RuntimeBundle

/-- The topic and the payload of the message about a record. -/
structure MessageOf (cfg : CommandServiceConfig) (record : CommandRecord) (topic : String)
    (payload : Json) : Prop where
  isOpen : record.status.isTerminal = false
  topic : ∃ deviceId, record.targetDeviceId = some deviceId ∧
    topic = deviceSetTopic cfg.topicNamespace deviceId record.commandType
  payload : ∃ kind, devicePayload record.commandId
    (parseSourceJson record.commandType record.requestPayload kind) = some payload

/-- The event is no call of the device publisher. -/
def Event.Unpublished : Event → Prop
  | .published _ _ _ _ _ => False
  | _ => True

lemma Event.IsQuiet.unpublished {e : Event} (h : e.IsQuiet) : e.Unpublished := by
  cases e with
  | published token topic payload record accepted => exact h.elim
  | _ => trivial

/-! ### Calls of the device publisher -/

section Unpublished

variable {cfg : CommandServiceConfig} {a b : RuntimeBundle}

lemma Grown.unpublished_submit (h : Grown Event.Unpublished a b) (kind : OperationKind)
    (context : RequestContext) (task : CommandDatabaseTask) :
    Grown Event.Unpublished a (b.submit cfg kind context task).2 :=
  h.submit (fun _ _ _ => trivial) kind context task

lemma Grown.unpublished_form (h : Grown Event.Unpublished a b) (context : RequestContext)
    (task : TransitionCommandTask) :
    Grown Event.Unpublished a (b.submitTransitionOrDefer cfg context task) :=
  h.form (fun _ _ _ => trivial) fun _ => trivial

end Unpublished

/-- A tick that does not call the device publisher leaves the outstanding
publications, or takes some away. -/
structure Silent (b b' : RuntimeBundle) : Prop where
  log : Grown Event.Unpublished b b'
  publications : ∀ t k, b'.publications.lookup t = some k → b.publications.lookup t = some k

lemma Silent.same {b b' : RuntimeBundle} (log : Grown Event.Unpublished b b')
    (h : b'.publications = b.publications) : Silent b b' :=
  ⟨log, fun _ _ hk => h ▸ hk⟩

/-- The state is the one after a call of `PublishRecord` for a known, open
record, from one that differs from `b` in neither the trace nor the outstanding
publications. -/
structure Publishes (cfg : CommandServiceConfig) (b b' : RuntimeBundle) (a : RuntimeBundle)
    (answers : Answers) (context : RequestContext) (record : CommandRecord) (now : TimePoint) :
    Prop where
  result : b' = a.publishRecord cfg answers context now
  publications : a.publications = b.publications
  log : a.log = b.log
  contextOf : ContextOf b.trace context record
  isOpen : record.status.isTerminal = false
  committed : record ∈ committedRows b.trace

/-- **A tick is silent, or calls `PublishRecord` once.** -/
lemma Tick.publishes {cfg : CommandServiceConfig} {b b' : RuntimeBundle} (ht : Traced b)
    (htick : Tick cfg b b') :
    Silent b b' ∨ ∃ a answers context record now,
      Publishes cfg b b' a answers context record now := by
  have hw := ht.sound.wellformed
  have htaken : ∀ {i : ℕ} {rest : List CommandDatabaseResult},
      Grown Event.Unpublished b (b.taken i rest) := ⟨[], rfl, by simp⟩
  cases htick with
  | quiet hcore =>
      obtain ⟨es, hlog, hes⟩ := hcore.log
      exact .inl ⟨⟨es, hlog, fun e he => (hes e he).unpublished⟩,
        fun t k hk => hcore.publications t ▸ hk⟩
  | @worker event hevent =>
      refine .inl (.same ⟨_, rfl, fun e he => ?_⟩ rfl)
      rcases mem_executionEvents.mp he with ⟨r, _, rfl⟩ | ⟨_, r, _, rfl⟩ | ⟨r, _, rfl⟩ <;> trivial
  | mqtt => exact .inl (.same ⟨[_], rfl, by simp [Event.Unpublished]⟩ rfl)
  | device => exact .inl (.same ⟨[_], rfl, by simp [Event.Unpublished]⟩ rfl)
  | find => exact .inl (.same (Grown.unpublished_submit (.refl b) _ _ _) (publications_submit ..))
  | cleanup =>
      exact .inl (.same (Grown.unpublished_submit (.refl b) _ _ _) (publications_submit ..))
  | consumed hhead hconsumed =>
      refine .inl (.same ⟨_, rfl, fun e he => ?_⟩ rfl)
      cases hconsumed with
      | unknown _ => cases he
      | ignored _ _ _ => cases he
      | failed _ _ _ => rw [List.mem_singleton.mp he]; trivial
      | rejected _ _ => rw [List.mem_singleton.mp he]; trivial
      | replayed _ _ _ => rw [List.mem_singleton.mp he]; trivial
  | create =>
      refine .inl (.same (Grown.unpublished_submit ?_ _ _ _) (publications_submit ..))
      exact htaken.emit trivial
  | conflict =>
      exact .inl (.same (Grown.unpublished_submit htaken _ _ _) (publications_submit ..))
  | @activate answers operationId operation rest record now hhead hop hkind hown hopen =>
      obtain ⟨own, hcontext, hsame⟩ := hw.insert_result hhead hop hkind hown
      exact .inr ⟨_, answers, _, record, now, rfl, rfl, rfl,
        hcontext.withRecord hsame rfl rfl rfl rfl, hopen,
        Provenance.committed_of_head ht.sound hhead rfl⟩
  | refresh => exact .inl (.same ⟨[_], rfl, by simp [Event.Unpublished]⟩ rfl)
  | settle => exact .inl (.same ⟨[], rfl, by simp⟩ rfl)
  | converge => exact .inl (.same (Grown.unpublished_form htaken _ _) (publications_form ..))
  | finish => exact .inl (.same ⟨[_], rfl, by simp [Event.Unpublished]⟩ rfl)
  | finished => exact .inl (.same ⟨[], rfl, by simp⟩ rfl)
  | deviceAck =>
      refine .inl (.same (Grown.unpublished_form ?_ _ _) (publications_form ..))
      exact (Grown.refl b).emit trivial
  | @buffer context record ack deviceId payload type now =>
      rcases bufferEarlyAck_cases cfg (b.emit (.deviceAcked deviceId type ack
        (some record.status))) type ack ⟨deviceId, payload, now⟩ with
        ⟨kept, _, heq⟩ | ⟨message, heq⟩
      · rw [heq]
        exact .inl (.same ⟨[_], rfl, by simp [Event.Unpublished]⟩ rfl)
      · rw [heq]
        exact .inl (.same ⟨[_, _], rfl, by simp [Event.Unpublished]⟩ rfl)
  | timeout =>
      exact .inl (.same (Grown.unpublished_form ⟨[], rfl, by simp⟩ _ _) (publications_form ..))
  | @republish answers commandId deviceId context record now hactive =>
      obtain ⟨r, hcontext, hopen, _⟩ := hw.active commandId context hactive
      exact .inr ⟨_, answers, context, r, now, rfl, rfl, rfl, hcontext, hopen,
        ht.provenance.active commandId context r hactive hcontext.record⟩
  | @complete completion context now hfound =>
      rcases handleCompletion_cases cfg now hfound with
        ⟨_, heq⟩ | ⟨record, hrecord, ⟨_, _, heq⟩ | ⟨_, heq⟩⟩
      · rw [heq]
        exact .inl ⟨⟨[], rfl, by simp⟩, fun t k hk => (Map.lookup_erase_some.mp hk).2⟩
      · rw [heq]
        exact .inl ⟨⟨[_], rfl, by simp [Event.Unpublished]⟩,
          fun t k hk => (Map.lookup_erase_some.mp hk).2⟩
      · rw [heq]
        refine .inl ⟨Grown.unpublished_form ⟨[_], rfl, by simp [Event.Unpublished]⟩ _ _,
          fun t k hk => ?_⟩
        rw [publications_form] at hk
        exact (Map.lookup_erase_some.mp hk).2
  | @retry key deferred =>
      rcases retryDeferred_cases cfg b key deferred with heq | heq
      · rw [heq]; exact .inl (.same ⟨[_], rfl, by simp [Event.Unpublished]⟩ rfl)
      · rw [heq]; exact .inl (.same ⟨[_], rfl, by simp [Event.Unpublished]⟩ rfl)

/-- **What a call of `PublishRecord` adds**: nothing, or the message of the
record; the publication is outstanding if the device publisher has taken it. -/
lemma Publishes.message {cfg : CommandServiceConfig} {b b' a : RuntimeBundle} {answers : Answers}
    {context : RequestContext} {record : CommandRecord} {now : TimePoint}
    (h : Publishes cfg b b' a answers context record now) :
    Silent b b' ∨ ∃ es token topic payload accepted,
      b'.log = es ++ .published token topic payload record accepted :: b.log ∧
      (∀ e ∈ es, e.Unpublished) ∧ MessageOf cfg record topic payload ∧
      ∀ t k, b'.publications.lookup t = some k →
        b.publications.lookup t = some k ∨ (t = token ∧ accepted = true ∧ k = context) := by
  have hresult := h.result
  rcases publishRecord_cases cfg answers a context now with
    heq | ⟨r, deviceId, payload, hr, hdevice, _, hpayload, heq⟩
  · rw [heq] at hresult
    subst hresult
    exact .inl (.same ⟨[], h.log, by simp⟩ h.publications)
  · obtain rfl := h.contextOf.unique hr
    obtain ⟨kind, hparsed⟩ := h.contextOf.parsed
    have hmessage : MessageOf cfg r
        (deviceSetTopic cfg.topicNamespace deviceId context.commandType) payload :=
      { isOpen := h.isOpen
        topic := ⟨deviceId, hdevice, by rw [h.contextOf.commandType]⟩
        payload := ⟨kind, by rw [← hparsed, hpayload]⟩ }
    rcases heq with heq | heq
    · rw [heq] at hresult
      subst hresult
      refine .inr ⟨[], a.nextPublishToken, _, payload, true, ?_, by simp, hmessage,
        fun t k hk => ?_⟩
      · exact congrArg _ h.log
      · rcases Map.lookup_insert_some.mp hk with ⟨rfl, rfl⟩ | ⟨_, hk⟩
        · exact .inr ⟨rfl, rfl, rfl⟩
        · exact .inl (h.publications ▸ hk)
    · rw [heq] at hresult
      subst hresult
      obtain ⟨es, hes, hno⟩ := @Grown.unpublished_form cfg (a.unsent cfg context r deviceId payload)
        _ (.refl _) { context with record := some (publishFailed r context.commandType now) }
        (failTask r context.commandType now)
      refine .inr ⟨es, a.nextPublishToken, _, payload, false, ?_, hno, hmessage, fun t k hk => ?_⟩
      · rw [hes, ← h.log]
        rfl
      · rw [publications_form] at hk
        obtain ⟨hne, hk⟩ := Map.lookup_erase_some.mp hk
        rcases Map.lookup_insert_some.mp hk with ⟨rfl, _⟩ | ⟨_, hk⟩
        · exact absurd rfl hne
        · exact .inl (h.publications ▸ hk)

/-- A completion on the trace was there before the tick, or takes an outstanding
publication. -/
lemma Tick.completed_cases {cfg : CommandServiceConfig} {b b' : RuntimeBundle} (hs : Sound b)
    (htick : Tick cfg b b') {r : CommandRecord} {result : Bool}
    (h : .completed r result ∈ b'.trace) :
    .completed r result ∈ b.trace ∨ ∃ t context, b.publications.lookup t = some context ∧
      context.record = some r := by
  have hpast : b'.past = b.past := (htick.touch hs.wellformed).past
  have hunsent : ∀ {es : List Event}, (∀ e ∈ es, e.IsUnsent) → .completed r result ∉ es :=
    fun hes hmem => hes _ hmem
  rw [RuntimeBundle.trace, hpast] at h
  cases htick.publications hs with
  | still _ hgrown =>
      obtain ⟨es, hlog, hes⟩ := hgrown
      rw [hlog, List.append_assoc] at h
      exact .inl ((List.mem_append.mp h).resolve_left (hunsent hes))
  | sent _ _ _ hlog hes =>
      rw [hlog, List.append_assoc] at h
      rcases List.mem_cons.mp ((List.mem_append.mp h).resolve_left (hunsent hes)) with h | h
      · cases h
      · exact .inl h
  | @completed context record token result' es hfound hrecord _ hlog hes =>
      rw [hlog, List.append_assoc] at h
      rcases List.mem_cons.mp ((List.mem_append.mp h).resolve_left (hunsent hes)) with h | h
      · cases h
        exact .inr ⟨token, context, hfound, hrecord⟩
      · exact .inl h

/-! ### The invariant -/

/-- Every message is that of a row, and what is outstanding or has completed was
taken by the device publisher. -/
structure Messages (cfg : CommandServiceConfig) (b : RuntimeBundle) : Prop where
  sent : ∀ token topic payload record accepted,
    .published token topic payload record accepted ∈ b.trace →
      MessageOf cfg record topic payload ∧ record ∈ committedRows b.trace
  outstanding : ∀ t context r, b.publications.lookup t = some context →
    context.record = some r → ∃ topic payload, .published t topic payload r true ∈ b.trace
  completed : ∀ r result, .completed r result ∈ b.trace →
    ∃ t topic payload, .published t topic payload r true ∈ b.trace

namespace Messages

variable {cfg : CommandServiceConfig} {b b' : RuntimeBundle}

lemma tick (ht : Traced b) (h : Messages cfg b) (htick : Tick cfg b b') : Messages cfg b' := by
  have hs := ht.sound
  have hsub : ∀ e ∈ b.trace, e ∈ b'.trace := fun e he => htick.trace_suffix.subset he
  have hpast : b'.past = b.past := (htick.touch hs.wellformed).past
  have hlift : ∀ {t : ℕ} {r : CommandRecord},
      (∃ topic payload, .published t topic payload r true ∈ b.trace) →
      ∃ topic payload, .published t topic payload r true ∈ b'.trace :=
    fun ⟨topic, payload, hmem⟩ => ⟨topic, payload, hsub _ hmem⟩
  have hcompleted : ∀ r result, .completed r result ∈ b'.trace →
      ∃ t topic payload, .published t topic payload r true ∈ b'.trace := by
    intro r result hmem
    rcases htick.completed_cases hs hmem with hold | ⟨t, context, hfound, hrecord⟩
    · obtain ⟨t, hsent⟩ := h.completed r result hold
      exact ⟨t, hlift hsent⟩
    · exact ⟨t, hlift (h.outstanding t context r hfound hrecord)⟩
  -- the messages of a silent tick are old
  have hsilent : Silent b b' → Messages cfg b' := by
    intro hsilent
    obtain ⟨es, hlog, hes⟩ := hsilent.log
    refine ⟨fun token topic payload record accepted hmem => ?_, fun t context r hfound hrecord =>
      hlift (h.outstanding t context r (hsilent.publications t context hfound) hrecord),
      hcompleted⟩
    rw [RuntimeBundle.trace, hlog, hpast, List.append_assoc] at hmem
    rcases List.mem_append.mp hmem with hnew | hold
    · exact (hes _ hnew).elim
    · obtain ⟨hmessage, hrow⟩ := h.sent token topic payload record accepted hold
      exact ⟨hmessage, committedRows_mono hsub hrow⟩
  rcases htick.publishes ht with hquiet | ⟨a, answers, context, record, now, hcall⟩
  · exact hsilent hquiet
  · rcases hcall.message with hquiet | ⟨es, token, topic, payload, accepted, hlog, hes, hmessage,
      hnew⟩
    · exact hsilent hquiet
    · have htrace : b'.trace = es ++ .published token topic payload record accepted :: b.trace := by
        rw [RuntimeBundle.trace, hlog, hpast, List.append_assoc]
        rfl
      refine ⟨fun token' topic' payload' record' accepted' hmem => ?_,
        fun t k r hfound hrecord => ?_, hcompleted⟩
      · rw [htrace] at hmem
        rcases List.mem_append.mp hmem with hmem | hmem
        · exact (hes _ hmem).elim
        · rcases List.mem_cons.mp hmem with hmem | hold
          · cases hmem
            exact ⟨hmessage, committedRows_mono hsub hcall.committed⟩
          · obtain ⟨hmessage', hrow⟩ := h.sent token' topic' payload' record' accepted' hold
            exact ⟨hmessage', committedRows_mono hsub hrow⟩
      · rcases hnew t k hfound with hold | ⟨rfl, rfl, rfl⟩
        · exact hlift (h.outstanding t k r hold hrecord)
        · obtain rfl := hcall.contextOf.unique hrecord
          exact ⟨topic, payload, by rw [htrace]; simp⟩

lemma restarted (h : Messages cfg b) (hrestart : Restarted cfg b b') : Messages cfg b' := by
  obtain ⟨written, _, hpast⟩ := hrestart.recovery
  have htrace : ∀ e : Event, e ∈ b'.trace → e ∈ b.trace ∨
      e = .mqttAvailable false ∨ (∃ message, e = .diagnosed message) ∨ ∃ r, e = .committed r := by
    intro e he
    rcases List.mem_append.mp he with he | he
    · rcases hrestart.log e he with rfl | hmessage
      · exact .inr (.inl rfl)
      · exact .inr (.inr (.inl hmessage))
    · rw [hpast] at he
      rcases List.mem_append.mp he with he | he
      · obtain ⟨r, _, rfl⟩ := List.mem_map.mp he
        exact .inr (.inr (.inr ⟨r, rfl⟩))
      · exact .inl he
  have hsub : ∀ e ∈ b.trace, e ∈ b'.trace := fun e he =>
    List.mem_append_right _ (by rw [hpast]; exact List.mem_append_right _ he)
  refine ⟨fun token topic payload record accepted hmem => ?_, fun t context r hfound => ?_,
    fun r result hmem => ?_⟩
  · rcases htrace _ hmem with hold | hold | ⟨_, hold⟩ | ⟨_, hold⟩
    · obtain ⟨hmessage, hrow⟩ := h.sent token topic payload record accepted hold
      exact ⟨hmessage, committedRows_mono hsub hrow⟩
    all_goals cases hold
  · rw [hrestart.publications] at hfound
    cases hfound
  · rcases htrace _ hmem with hold | hold | ⟨_, hold⟩ | ⟨_, hold⟩
    · obtain ⟨t, topic, payload, hsent⟩ := h.completed r result hold
      exact ⟨t, topic, payload, hsub _ hsent⟩
    all_goals cases hold

lemma blank : Messages cfg .blank := by
  refine ⟨fun token topic payload record accepted hmem => ?_, fun t context r hfound => ?_,
    fun r result hmem => ?_⟩
  · cases hmem
  · cases hfound
  · cases hmem

end Messages

end CnsServer
