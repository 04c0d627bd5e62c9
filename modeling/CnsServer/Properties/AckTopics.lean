/-
The type of a command in the idempotency check.

The topic of a replayed ACK is of the type of the repeated request, its body of
the type of the stored command, and `CompareRequest` looks at the payload alone.
So a stored command whose payload equals that of a request of the other type is
replayed to that request, on the topic of the other type.

* `Input.KeepsType`: no result reports such a command;
* `ackTopics_of_run`: in the runs whose inputs meet it every ACK is on the topic
  of its type and a request number of the other type is a conflict, and the first
  input that does not meet it sends an ACK to the wrong topic.
-/
import CnsServer.Invariants.AckOrigins
import CnsServer.Runtime.Scenario

namespace CnsServer

open RuntimeBundle

/-! ### Topics -/

/-- The topic is the ACK topic of a source for commands of the type. -/
def IsAckTopic (topic : String) (type : CommandType) : Prop :=
  ∃ topicNamespace sourceId, topic = sourceAckTopic topicNamespace sourceId type

/-- The two kinds of ACK topics differ in the fifth letter from the end. -/
lemma not_isAckTopic_both {topic : String} (hconfig : IsAckTopic topic .config)
    (hcontrol : IsAckTopic topic .control) : False := by
  obtain ⟨n, s, rfl⟩ := hconfig
  obtain ⟨n', s', h⟩ := hcontrol
  have hletters := congrArg (fun text => (String.toList text).reverse[4]?) h
  simp [sourceAckTopic] at hletters

lemma IsAckTopic.unique {topic : String} {type type' : CommandType} (h : IsAckTopic topic type)
    (h' : IsAckTopic topic type') : type = type' := by
  cases type with
  | config =>
      cases type' with
      | config => rfl
      | control => exact (not_isAckTopic_both h h').elim
  | control =>
      cases type' with
      | config => exact (not_isAckTopic_both h' h).elim
      | control => rfl

lemma IsRejection.isAckTopic {topic : String} {ack : SourceAck} (h : IsRejection topic ack) :
    IsAckTopic topic ack.commandType := by
  obtain ⟨n, s, _, _, _, _, rfl, rfl, -⟩ := h
  exact ⟨n, s, rfl⟩

/-! ### Repeated requests -/

/-- The next result tells the request of an operation, with this body, that its
key is stored already. -/
structure FindsStored (b : RuntimeBundle) (i : ℕ) (operation : Operation)
    (existing : CommandRecord) (payload : Json) : Prop where
  head : ∃ value rest, b.databaseResults = ⟨i, value⟩ :: rest ∧ reported value = some existing
  found : b.operations.lookup i = some operation
  asks : Asks operation payload

/-- No result reports a stored command of the other type with the payload of the
request. -/
def Input.KeepsType (b : RuntimeBundle) : Input → Prop
  | .processNext _ _ => ∀ i operation existing payload,
      FindsStored b i operation existing payload → compareRequest existing payload = .same →
        existing.commandType = operation.context.commandType
  | _ => True

section Answers

variable {cfg : CommandServiceConfig} {answers : Answers} {b : RuntimeBundle} {i : ℕ}
  {operation : Operation} {existing : CommandRecord} {payload : Json} {now : TimePoint}

/-- The answer to a search. -/
lemma FindsStored.find (hw : Wellformed b) (h : FindsStored b i operation existing payload)
    (hkind : operation.kind = .find) :
    (∃ rest, b.databaseResults = ⟨i, .ok (.found (some existing))⟩ :: rest) ∧
      operation.context.parsed.requestId = some existing.requestId ∧
      operation.context.parsed.comparisonPayload = some payload := by
  obtain ⟨value, rest, hhead, hreported⟩ := h.head
  have hpayload : operation.context.parsed.comparisonPayload = some payload := by
    rcases h.asks with ⟨_, hpayload⟩ | ⟨hk, _⟩
    · exact hpayload
    · rw [hkind] at hk; cases hk
  have hanswers := hw.head_answers hhead h.found
  match value, hreported, hanswers with
  | .ok (.found (some r)), hreported, hanswers =>
      cases hreported
      rcases hanswers with ⟨_, hkey⟩ | ⟨hk, _⟩
      · exact ⟨⟨rest, hhead⟩, (hkey _ rfl).2, hpayload⟩
      · rw [hkind] at hk; cases hk
  | .ok (.record r), _, hanswers =>
      rcases hanswers with ⟨hk, _⟩ | ⟨hk, _⟩ <;> rw [hkind] at hk <;> cases hk

/-- The answer to an insertion. -/
lemma FindsStored.insert (hw : Wellformed b) (h : FindsStored b i operation existing payload)
    (hkind : operation.kind = .insert) :
    (∃ rest, b.databaseResults = ⟨i, .ok (.record existing)⟩ :: rest) ∧
      ∃ own, operation.context.record = some own ∧ own.requestId = existing.requestId ∧
        payload = own.requestPayload := by
  obtain ⟨value, rest, hhead, hreported⟩ := h.head
  obtain ⟨own, hrecord, hpayload⟩ : ∃ own, operation.context.record = some own ∧
      payload = own.requestPayload := by
    rcases h.asks with ⟨hk, _⟩ | ⟨_, hown⟩
    · rw [hkind] at hk; cases hk
    · exact hown
  have hanswers := hw.head_answers hhead h.found
  match value, hreported, hanswers with
  | .ok (.found (some r)), _, hanswers =>
      rcases hanswers with ⟨hk, _⟩ | ⟨hk, _⟩ <;> rw [hkind] at hk <;> cases hk
  | .ok (.record r), hreported, hanswers =>
      cases hreported
      rcases hanswers with ⟨_, own', hrecord', _, hrequest⟩ | ⟨hk, _⟩
      · rw [hrecord] at hrecord'
        cases hrecord'
        exact ⟨⟨rest, hhead⟩, own, hrecord, hrequest.symm, hpayload⟩
      · rw [hkind] at hk; cases hk

/-- A stored command of another type is another command than the one to insert. -/
lemma FindsStored.other (hw : Wellformed b) (h : FindsStored b i operation existing payload)
    {own : CommandRecord} (hown : operation.context.record = some own)
    (htype : existing.commandType ≠ operation.context.commandType) :
    own.commandId ≠ existing.commandId := by
  obtain ⟨value, rest, hhead, hreported⟩ := h.head
  intro hid
  have hcontext := hw.operation_context h.found hown
  have hsame := (hw.head_known hhead hreported).sameCommand hw.created hcontext.known hid.symm
  exact htype (by rw [hcontext.commandType, hsame.commandType])

/-- **The two answers to a request whose key is stored with the other type**: a
conflict if the payloads differ, and the replay of the stored command if they
are equal. -/
lemma FindsStored.answered (hw : Wellformed b)
    (h : FindsStored b i operation existing payload)
    (htype : existing.commandType ≠ operation.context.commandType) :
    (b.processNext cfg answers now).log =
      (if compareRequest existing payload = .conflict then
        .acked (sourceAckTopic cfg.topicNamespace operation.context.sourceId
            operation.context.commandType)
          (buildPrePersistenceRejection (some existing.requestId) idempotencyConflict now
            operation.context.commandType) (.rejection (some i))
      else
        .acked (sourceAckTopic cfg.topicNamespace operation.context.sourceId
            operation.context.commandType)
          (buildSourceAck existing (b.targetFor existing) now) (.replay i payload)) :: b.log := by
  have hop := h.found
  rcases h.asks with ⟨hkind, _⟩ | ⟨hkind, _⟩
  · obtain ⟨⟨rest, hhead⟩, hrequest, hpayload⟩ := h.find hw hkind
    rw [processNext]
    rw [hhead]
    dsimp only [handleResult]
    rw [hop]
    obtain ⟨kind, context⟩ := operation
    cases hkind
    dsimp only [handleValue, handleFindResult] at hrequest hpayload ⊢
    rw [hpayload, hrequest]
    dsimp only
    split
    · rfl
    · rfl
  · obtain ⟨⟨rest, hhead⟩, own, hown, hrequest, rfl⟩ := h.insert hw hkind
    have hother := h.other hw hown htype
    rw [processNext]
    rw [hhead]
    dsimp only [handleResult]
    rw [hop]
    obtain ⟨kind, context⟩ := operation
    cases hkind
    dsimp only [handleValue, handleInsertResult] at hown ⊢
    rw [hown]
    dsimp only
    rw [if_pos hother, hrequest]
    split
    · rfl
    · rfl

end Answers

/-- **The type of a command in topics and conflicts.**  In every state of a run
whose inputs report no stored command of the other type with the payload of the
request, each source ACK is on the topic of the type in its body, and the answer
to a request whose key is stored with the other type is `idempotency_conflict`.
An input that does report one sends an ACK to the topic of the other type. -/
theorem ackTopics_of_run {cfg : CommandServiceConfig} {b : RuntimeBundle}
    (hb : ((routeService cfg).restrict Input.KeepsType).Reachable b) :
    (∀ topic ack cause, .acked topic ack cause ∈ b.trace → IsAckTopic topic ack.commandType) ∧
    ∀ answers now,
      ((Input.processNext answers now).KeepsType b → ∀ i operation existing payload,
        FindsStored b i operation existing payload →
        existing.commandType ≠ operation.context.commandType →
        (b.processNext cfg answers now).log =
          .acked (sourceAckTopic cfg.topicNamespace operation.context.sourceId
              operation.context.commandType)
            (buildPrePersistenceRejection (some existing.requestId) idempotencyConflict now
              operation.context.commandType) (.rejection (some i)) :: b.log) ∧
      (¬ (Input.processNext answers now).KeepsType b →
        ∃ topic ack cause, .acked topic ack cause ∈ (b.processNext cfg answers now).trace ∧
          ¬ IsAckTopic topic ack.commandType) := by
  have hw : Wellformed b := wellformed_of_reachable hb.of_restrict
  refine ⟨?_, fun answers now => ⟨fun hkeeps i operation existing payload hstored htype => ?_,
    fun hbreaks => ?_⟩⟩
  · -- the ACKs of the trace, by the ticks that sent them
    refine (@restricted_of_ticks cfg Input.KeepsType (fun b => Wellformed b ∧
      ∀ topic ack cause, .acked topic ack cause ∈ b.trace → IsAckTopic topic ack.commandType)
      ⟨.blank, fun _ _ _ h => by cases h⟩ ?_ ?_ b hb).2
    · exact fun b b' h hrestart _ => ⟨h.1.restarted hrestart,
        fun topic ack cause hacked => h.2 topic ack cause (hrestart.acked hacked)⟩
    · intro b b' h htick hok
      refine ⟨h.1.tick htick, fun topic ack cause hacked => ?_⟩
      rcases htick.acked_cases h.1 hacked with hold | horigin
      · exact h.2 topic ack cause hold
      · cases horigin with
        | rejection hrejection _ => exact hrejection.isAckTopic
        | @replay i value operation existing payload now hhead hreported hop hasks hsame =>
            rw [buildSourceAck_commandType]
            rcases hok with ⟨_, _, hkeeps⟩ | hlen
            · have htype : existing.commandType = operation.context.commandType :=
                hkeeps i operation existing payload ⟨⟨_, _, hhead, hreported⟩, hop, hasks⟩ hsame
              rw [htype]
              exact ⟨_, _, rfl⟩
            · -- a replay takes a result
              rw [hhead, List.length_cons] at hlen
              omega
        | lifecycle hhead hreported htype _ =>
            rw [buildSourceAck_commandType, ← htype]
            exact ⟨_, _, rfl⟩
  · have hconflict : compareRequest existing payload = .conflict := by
      cases hcompare : compareRequest existing payload with
      | conflict => rfl
      | same => exact absurd (hkeeps i operation existing payload hstored hcompare) htype
    rw [hstored.answered hw htype, if_pos hconflict]
  · unfold Input.KeepsType at hbreaks
    push Not at hbreaks
    obtain ⟨i, operation, existing, payload, hstored, hsame, htype⟩ := hbreaks
    have hlog := @FindsStored.answered cfg answers b i operation existing payload now hw hstored
      htype
    rw [if_neg (by rw [hsame]; decide)] at hlog
    have hacked : .acked (sourceAckTopic cfg.topicNamespace operation.context.sourceId
        operation.context.commandType) (buildSourceAck existing (b.targetFor existing) now)
        (.replay i payload) ∈ (b.processNext cfg answers now).trace := by
      rw [RuntimeBundle.trace]
      rw [hlog]
      exact List.mem_append_left _ List.mem_cons_self
    refine ⟨_, _, _, hacked, fun htopic => htype ?_⟩
    rw [buildSourceAck_commandType] at htopic
    exact htopic.unique ⟨_, _, rfl⟩

/-- The computable form of the condition: the stored command that is reported has
the type of the request. -/
def keepsType (b : RuntimeBundle) : PlainInput → Bool
  | .processNext _ _ _ =>
      match b.databaseResults with
      | [] => true
      | result :: _ =>
          match reported result.value, b.operations.lookup result.operationId with
          | some existing, some operation =>
              existing.commandType = operation.context.commandType
          | _, _ => true
  | _ => true

lemma keepsType_of_test (b : RuntimeBundle) (input : PlainInput) (h : keepsType b input = true) :
    (input.toInput b).KeepsType b := by
  cases input with
  | processNext uuid published now =>
      intro i operation existing payload hstored _
      obtain ⟨value, rest, hhead, hreported⟩ := hstored.head
      unfold keepsType at h
      rw [hhead] at h
      dsimp only at h
      rw [hreported, hstored.found] at h
      exact of_decide_eq_true h
  | _ => trivial

/-- Some replay in the trace satisfies `p`. -/
def anyReplay (p : String → SourceAck → Bool) (events : List Event) : Bool :=
  events.any fun
    | .acked topic ack (.replay _ _) => p topic ack
    | _ => false

lemma exists_of_anyReplay {p : String → SourceAck → Bool} {events : List Event}
    (h : anyReplay p events = true) :
    ∃ topic ack i payload, .acked topic ack (.replay i payload) ∈ events ∧ p topic ack = true := by
  obtain ⟨event, hmem, hevent⟩ := List.any_eq_true.mp h
  cases event with
  | acked topic ack cause =>
      cases cause with
      | replay i payload => exact ⟨topic, ack, i, payload, hmem, hevent⟩
      | _ => cases hevent
  | _ => cases hevent

/-- A configuration request that is sent twice. -/
def Sample.repeated (type : CommandType) : List PlainInput :=
  Sample.dispatched .config true ++
    [.tryPush ⟨"cns/sources/ops" ++ (if type = .control then "/control/request" else
        "/config/request"), Sample.configRequest.1, 7⟩,
      .processNext PlainInput.unusedUuid true 7] ++ Sample.answered true 7

/-- The repetition is answered with the stored command, on the topic of its
type. -/
theorem ackTopics_of_run_repeated :
    ∃ topic ack i payload, .acked topic ack (.replay i payload) ∈
        (play Sample.config Sample.started (Sample.repeated .config)).trace ∧
      ack.commandId = some Sample.commandId ∧ IsAckTopic topic ack.commandType := by
  have hb : ((routeService Sample.config).restrict Input.KeepsType).Reachable
      (play Sample.config Sample.started (Sample.repeated .config)) :=
    reachable_of_admitted keepsType_of_test (reachable_firstStart Sample.config Input.KeepsType
      Sample.sources (DeviceRegistry.empty.put (Sample.device .online))) (by decide +kernel)
  have hreplay : anyReplay (fun _ ack => ack.commandId = some Sample.commandId)
      (play Sample.config Sample.started (Sample.repeated .config)).trace = true := by
    decide +kernel
  obtain ⟨topic, ack, i, payload, hmem, hack⟩ := exists_of_anyReplay hreplay
  exact ⟨topic, ack, i, payload, hmem, of_decide_eq_true hack,
    (ackTopics_of_run hb).1 topic ack _ hmem⟩

/-- The same payload on the control topic is answered there, with the stored
configuration command. -/
theorem ackTopic_of_other_type :
    (routeService Sample.config).Reachable
        (play Sample.config Sample.started (Sample.repeated .control)) ∧
      ∃ topic ack cause, .acked topic ack cause ∈
          (play Sample.config Sample.started (Sample.repeated .control)).trace ∧
        topic = "cns/sources/ops/control/ack" ∧ ack.commandType = .config ∧
        ack.error = none ∧ ¬ IsAckTopic topic ack.commandType := by
  refine ⟨reachable_of_played (reachable_firstStart Sample.config (fun _ _ => True) Sample.sources
    (DeviceRegistry.empty.put (Sample.device .online))).of_restrict (by decide +kernel), ?_⟩
  have hreplay : anyReplay (fun topic ack => topic = "cns/sources/ops/control/ack" &&
        ack.commandType = .config && ack.error = none)
      (play Sample.config Sample.started (Sample.repeated .control)).trace = true := by
    decide +kernel
  obtain ⟨topic, ack, i, payload, hmem, hack⟩ := exists_of_anyReplay hreplay
  simp only [Bool.and_eq_true, decide_eq_true_eq] at hack
  obtain ⟨⟨htopic, htype⟩, herror⟩ := hack
  refine ⟨topic, ack, _, hmem, htopic, htype, herror, fun hwrong => ?_⟩
  have hcontrol : IsAckTopic topic .control := ⟨"cns", "ops", by rw [htopic]; decide +kernel⟩
  have := hwrong.unique hcontrol
  rw [htype] at this
  cases this

end CnsServer
