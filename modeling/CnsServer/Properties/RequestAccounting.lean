/-
What becomes of a source request: it is answered, or the service still holds its
context, or the database failed one of its tasks.

A request is held by its search, then by the insertion of the command created for
it, then by the active command.  At the second hand-over the answer of `Submit`
is ignored: an insertion that the worker refuses is gone.

* `ReceivedRequest`, `IsNext`: a request at the front of the queues;
* `Held`, `Failed`, `IsAnswer`: the three fates;
* `Tick.request_result`: what the results of its two tasks lead to;
* `request_accounted`: a request has one of the fates for as long as the process
  runs, if the worker accepts the insertions;
* `request_dropped`: one that it does not accept.
-/
import CnsServer.Invariants.AckOrigins
import CnsServer.Runtime.Scenario

namespace CnsServer

open RuntimeBundle

/-! ### Topics of requests -/

/-- The source a request topic of the given kind names. -/
def parseRequestTopic (type : CommandType) (topicNamespace topic : String) :
    Except ProtocolError String :=
  match type with
  | .config => parseSourceRequestTopic topicNamespace topic
  | .control => parseSourceControlRequestTopic topicNamespace topic

lemma topicInfix_suffix {front back topic x : String} (h : topicInfix front back topic = some x) :
    back.toList <:+ topic.toList := by
  unfold topicInfix at h
  dsimp only at h
  split at h
  · next hcond =>
      simp only [Bool.and_eq_true] at hcond
      exact List.isSuffixOf_iff_suffix.mp hcond.1.2
  · cases h

lemma parseSourceTopic_suffix {n topic suffix description x : String}
    (h : parseSourceTopic n topic suffix description = .ok x) :
    suffix.toList <:+ topic.toList := by
  unfold parseSourceTopic at h
  split at h
  · cases h
  · next hinfix => exact topicInfix_suffix hinfix

lemma parseDeviceAckTopic_suffix {n topic suffix description x : String}
    (h : parseDeviceAckTopic n topic suffix description = .ok x) :
    suffix.toList <:+ topic.toList := by
  unfold parseDeviceAckTopic at h
  split at h
  · cases h
  · next hinfix => exact topicInfix_suffix hinfix

/-- A topic does not have two endings neither of which ends in the other. -/
lemma not_both_suffixes {s t topic : String} (hs : s.toList <:+ topic.toList)
    (ht : t.toList <:+ topic.toList) (hst : ¬ s.toList <:+ t.toList)
    (hts : ¬ t.toList <:+ s.toList) : False := by
  rcases List.suffix_or_suffix_of_suffix hs ht with h | h
  · exact hst h
  · exact hts h

/-- A message on a request topic is handled as a request. -/
lemma handleMessage_request {cfg : CommandServiceConfig} {b : RuntimeBundle}
    {message : InboundMessage} {type : CommandType} {sourceId : String} (now : TimePoint)
    (h : parseRequestTopic type cfg.topicNamespace message.topic = .ok sourceId) :
    b.handleMessage cfg message now = b.handleRequest cfg sourceId type message now := by
  have hsuffix : (if type = .control then "/control/request" else "/config/request").toList <:+
      message.topic.toList := by
    cases type with
    | config => exact parseSourceTopic_suffix h
    | control => exact parseSourceTopic_suffix h
  rw [handleMessage]
  split
  · next hother =>
      refine (not_both_suffixes hsuffix (parseDeviceAckTopic_suffix hother) ?_ ?_).elim
      · cases type <;> decide
      · cases type <;> decide
  · split
    · next hother =>
        refine (not_both_suffixes hsuffix (parseDeviceAckTopic_suffix hother) ?_ ?_).elim
        · cases type <;> decide
        · cases type <;> decide
    · cases type with
      | config =>
          change parseSourceRequestTopic cfg.topicNamespace message.topic = .ok sourceId at h
          rw [h]
      | control =>
          split
          · next hother =>
              refine (not_both_suffixes hsuffix (parseSourceTopic_suffix hother) ?_ ?_).elim
              · decide
              · decide
          · change parseSourceControlRequestTopic cfg.topicNamespace message.topic = .ok sourceId
              at h
            rw [h]

/-! ### Requests and their fates -/

/-- A request with a valid number, as it was received. -/
structure ReceivedRequest where
  sourceId : String
  commandType : CommandType
  requestId : String

namespace ReceivedRequest

/-- The request is handled next, and its source may send it: it is registered
and enabled, and online if it is a device. -/
structure IsNext (cfg : CommandServiceConfig) (b : RuntimeBundle) (request : ReceivedRequest) :
    Prop where
  results : b.databaseResults = []
  completions : b.publishCompletions = []
  message : ∃ message rest source, b.messages = message :: rest ∧
    parseRequestTopic request.commandType cfg.topicNamespace message.topic =
      .ok request.sourceId ∧
    b.sources.find request.sourceId = some source ∧ source.enabled = true ∧
    (source.kind = .device → source.deviceId.any b.devices.isOnline = true) ∧
    (parseSourceRequest request.commandType (cfg.parseJson message.payload)
      source.kind).requestId = some request.requestId

/-- The event is an ACK to the source of the request, with its number. -/
def IsAnswer (cfg : CommandServiceConfig) (request : ReceivedRequest) : Event → Prop
  | .acked topic ack _ =>
      topic = sourceAckTopic cfg.topicNamespace request.sourceId request.commandType ∧
        ack.requestId = some request.requestId
  | _ => False

/-- The record was created for the request, whose search is operation `i`. -/
structure IsCommand (request : ReceivedRequest) (i : ℕ) (b : RuntimeBundle)
    (record : CommandRecord) : Prop where
  created : .created i record ∈ b.log
  sourceId : record.sourceId = request.sourceId
  commandType : record.commandType = request.commandType
  requestId : record.requestId = request.requestId

/-- The context of the request is held: by its search, by the insertion of its
command, or by the active command. -/
inductive Held (request : ReceivedRequest) (i : ℕ) (b : RuntimeBundle) : Prop
  | searching {operation : Operation} :
      b.operations.lookup i = some operation → operation.kind = .find →
      operation.context.sourceId = request.sourceId →
      operation.context.commandType = request.commandType →
      operation.context.parsed.requestId = some request.requestId → Held request i b
  | inserting {j : ℕ} {operation : Operation} {record : CommandRecord} :
      request.IsCommand i b record → .submitted j (.insertCommand record) true ∈ b.log →
      b.operations.lookup j = some operation → operation.kind = .insert →
      operation.context.record = some record → Held request i b
  | active {context : RequestContext} {record : CommandRecord} :
      request.IsCommand i b record → b.activeCommands.lookup record.commandId = some context →
      Held request i b

/-- The database reported an error for the search, or for the insertion of the
command. -/
def Failed (request : ReceivedRequest) (i : ℕ) (b : RuntimeBundle) : Prop :=
  .databaseError i ∈ b.log ∨ ∃ record j, request.IsCommand i b record ∧
    .submitted j (.insertCommand record) true ∈ b.log ∧ .databaseError j ∈ b.log

/-- One of the three, where the trace of the process was `base` when the request
was handled. -/
def Accounted (cfg : CommandServiceConfig) (request : ReceivedRequest) (i : ℕ)
    (base : List Event) (b : RuntimeBundle) : Prop :=
  (∃ events, b.log = events ++ base ∧ ∃ e ∈ events, request.IsAnswer cfg e) ∨
    request.Held i b ∨ request.Failed i b

end ReceivedRequest

/-! ### The results of a request's tasks -/

section Results

variable {cfg : CommandServiceConfig} {b b' : RuntimeBundle} {i : ℕ} {operation : Operation}

/-- An operation stays until its result is taken. -/
lemma Tick.operation_kept (hw : Wellformed b) (htick : Tick cfg b b')
    (hop : b.operations.lookup i = some operation) :
    b'.operations.lookup i = some operation ∨
      ∃ value, b.databaseResults = ⟨i, value⟩ :: b'.databaseResults := by
  rcases htick.serviceStep with ⟨event, _, rfl⟩ | hstep
  · exact .inl hop
  · by_cases htaken : ∃ value, b.databaseResults = ⟨i, value⟩ :: b'.databaseResults
    · exact .inr htaken
    · refine .inl ?_
      rw [hstep.operations i (hw.operations_lt i operation hop), hop]
      rintro ⟨j, value⟩ hhead rfl
      exact htaken ⟨value, hhead⟩

/-- The request number an operation answers with. -/
def Operation.requestId? (operation : Operation) : Option String :=
  match operation.context.record with
  | none => operation.context.parsed.requestId
  | some own => some own.requestId

/-- The next result reports a row with the key of the request, and with the body that the
operation compares it with. -/
def ReportsSame (b : RuntimeBundle) (i : ℕ) (operation : Operation) : Prop :=
  ∃ value rest r, b.databaseResults = ⟨i, value⟩ :: rest ∧ reported value = some r ∧
    r.sourceId = operation.context.sourceId ∧ some r.requestId = operation.requestId? ∧
    ∀ payload, Asks operation payload → compareRequest r payload = .same

/-- What follows from the result of a search or an insertion. -/
inductive RequestResult (cfg : CommandServiceConfig) (b b' : RuntimeBundle) (i : ℕ)
    (operation : Operation) : Prop
  | failed : b'.log = .databaseError i :: b.log → RequestResult cfg b b' i operation
  | answered {ack : SourceAck} {cause : AckCause} :
      b'.log = .acked (sourceAckTopic cfg.topicNamespace operation.context.sourceId
        operation.context.commandType) ack cause :: b.log →
      ack.requestId = operation.requestId? →
      (ack.commandId = none ∧ ∃ j, cause = .rejection j) ∨ ReportsSame b i operation →
      RequestResult cfg b b' i operation
  | created {answers : Answers} {rest : List CommandDatabaseResult} {requestId : String}
      {payload : Json} :
      operation.kind = .find → b.databaseResults = ⟨i, .ok (.found none)⟩ :: rest →
      operation.context.parsed.requestId = some requestId →
      operation.context.parsed.comparisonPayload = some payload →
      b' = (((b.taken i rest).emit (.created i
          (b.newCommand answers operation.context requestId payload).1)).submit cfg .insert
        { operation.context with
          record := some (b.newCommand answers operation.context requestId payload).1
          target := (b.newCommand answers operation.context requestId payload).2 }
        (.insertCommand (b.newCommand answers operation.context requestId payload).1)).2 →
      RequestResult cfg b b' i operation
  | activated {own : CommandRecord} :
      operation.kind = .insert → operation.context.record = some own →
      (b'.activeCommands.lookup own.commandId).isSome → ReportsSame b i operation →
      RequestResult cfg b b' i operation

/-- A list is not longer than itself. -/
lemma not_taken {result : CommandDatabaseResult} (hsame : b'.databaseResults = b.databaseResults)
    (hhead : b.databaseResults = result :: b'.databaseResults) : False := by
  have hlen := congrArg List.length hhead
  rw [hsame, List.length_cons] at hlen
  omega

lemma requestId?_of_find (hw : Wellformed b) (hop : b.operations.lookup i = some operation)
    (hkind : operation.kind = .find) :
    operation.requestId? = operation.context.parsed.requestId := by
  have hok := hw.operations i operation hop
  unfold OperationOk at hok
  rw [hkind] at hok
  rw [Operation.requestId?]
  rw [hok.1]

lemma requestId?_of_record {own : CommandRecord} (hown : operation.context.record = some own) :
    operation.requestId? = some own.requestId := by
  rw [Operation.requestId?]
  rw [hown]

lemma same_of_not_conflict {existing : CommandRecord} {payload : Json}
    (h : compareRequest existing payload ≠ .conflict) : compareRequest existing payload = .same := by
  cases hcompare : compareRequest existing payload with
  | same => rfl
  | conflict => exact absurd hcompare h

/-- The insertion reports its own command. -/
lemma reportsSame_own {rest : List CommandDatabaseResult} {record own : CommandRecord}
    (hhead : b.databaseResults = ⟨i, .ok (.record record)⟩ :: rest)
    (hkind : operation.kind = .insert) (hcontext : ContextOf b.trace operation.context own)
    (hsame : record.SameCommand own) : ReportsSame b i operation := by
  refine ⟨_, rest, record, hhead, rfl, hsame.sourceId.trans hcontext.sourceId.symm, ?_, ?_⟩
  · rw [requestId?_of_record hcontext.record, hsame.requestId]
  · rintro payload (⟨hfind, _⟩ | ⟨_, own', hown', rfl⟩)
    · rw [hkind] at hfind
      cases hfind
    · obtain rfl := hcontext.unique hown'
      rw [compareRequest, hsame.requestPayload, if_pos (Json.equal_refl _)]

/-- A result that enters no map answers the request, or is an error. -/
lemma Consumed.requestResult (hw : Wellformed b)
    {value : Except DatabaseError CommandDatabaseValue} {rest : List CommandDatabaseResult}
    {events : List Event} (hhead : b.databaseResults = ⟨i, value⟩ :: rest)
    (hop : b.operations.lookup i = some operation)
    (hkind : operation.kind = .find ∧ operation.context.parsed.requestId.isSome ∨
      operation.kind = .insert)
    (h : Consumed cfg b i value events) :
    RequestResult cfg b { b.taken i rest with log := events ++ b.log } i operation := by
  have hanswers := hw.head_answers hhead hop
  cases h with
  | unknown hnone =>
      rw [hop] at hnone
      cases hnone
  | failed => exact .failed rfl
  | @ignored operation' answer hop' hvalue hwhich =>
      rw [hop] at hop'
      cases hop'
      subst hvalue
      have hcleanup : operation.kind ≠ .cleanup := by
        rcases hkind with ⟨hk, _⟩ | hk <;> rw [hk] <;> decide
      have hlookup : operation.kind ≠ .findByIdForConvergence := by
        rcases hkind with ⟨hk, _⟩ | hk <;> rw [hk] <;> decide
      rcases hwhich with hk | hexpects | ⟨hk, _⟩ | ⟨hk, _, hnone⟩
      · exact absurd hk hcleanup
      · refine absurd ?_ hexpects
        match answer, hanswers with
        | .found found, hanswers =>
            rcases hanswers with ⟨hk, _⟩ | ⟨hk, _⟩
            · rw [hk]; trivial
            · rw [hk]; trivial
        | .record r, hanswers =>
            rcases hanswers with ⟨hk, _⟩ | ⟨hk, _⟩
            · rw [hk]; trivial
            · rw [hk]; trivial
        | .count n, hanswers => exact absurd hanswers hcleanup
      · exact absurd hk hlookup
      · -- a search of a request with a number keeps its body
        have hsome : operation.context.parsed.requestId.isSome = true := by
          rcases hkind with ⟨_, hsome⟩ | hk'
          · exact hsome
          · rw [hk] at hk'; cases hk'
        have hok := hw.operations i operation hop
        unfold OperationOk at hok
        rw [hk] at hok
        obtain ⟨_, root, kind, _, hroot⟩ := hok
        rcases hnone with hnone | hnone
        · rw [hnone] at hsome; cases hsome
        · rw [hnone] at hroot; cases hroot
  | @rejected operation' existing requestId now hop' hwhich =>
      rw [hop] at hop'
      cases hop'
      refine .answered rfl ?_ (.inl ⟨rfl, _, rfl⟩)
      rcases hwhich with ⟨hk, _, hrequest, _⟩ | ⟨own, _, _, hown, _, hrequest, _⟩
      · rw [requestId?_of_find hw hop hk]
        exact hrequest
      · rw [requestId?_of_record hown]
        exact hrequest
  | @replayed operation' existing payload now hop' hcompare hwhich =>
      rw [hop] at hop'
      cases hop'
      have hsame := same_of_not_conflict hcompare
      rcases hwhich with ⟨hk, hvalue, hbody⟩ | ⟨own, hk, hvalue, hown, _, rfl⟩
      · subst hvalue
        rcases hanswers with ⟨_, hkey⟩ | ⟨hk', _⟩
        · obtain ⟨hsource, hrequest⟩ := hkey existing rfl
          have hnumber : some existing.requestId = operation.requestId? := by
            rw [requestId?_of_find hw hop hk, hrequest]
          refine .answered rfl (by rw [buildSourceAck_requestId, hnumber])
            (.inr ⟨_, rest, existing, hhead, rfl, hsource, hnumber, ?_⟩)
          rintro payload' (⟨_, hbody'⟩ | ⟨hk', _⟩)
          · rw [hbody] at hbody'
            cases hbody'
            exact hsame
          · rw [hk] at hk'; cases hk'
        · rw [hk] at hk'; cases hk'
      · subst hvalue
        rcases hanswers with ⟨_, own', hown', hsource, hrequest⟩ | ⟨hk', _⟩
        · rw [hown] at hown'
          cases hown'
          have hnumber : some existing.requestId = operation.requestId? := by
            rw [requestId?_of_record hown, hrequest]
          refine .answered rfl (by rw [buildSourceAck_requestId, hnumber])
            (.inr ⟨_, rest, existing, hhead, rfl, ?_, hnumber, ?_⟩)
          · rw [hsource, (hw.operation_context hop hown).sourceId]
          · rintro payload' (⟨hk', _⟩ | ⟨_, own', hown', rfl⟩)
            · rw [hk] at hk'; cases hk'
            · rw [hown] at hown'
              cases hown'
              exact hsame
        · rw [hk] at hk'; cases hk'

/-- **What the result of a search or an insertion leads to.** -/
theorem Tick.request_result (hw : Wellformed b) (htick : Tick cfg b b')
    {value : Except DatabaseError CommandDatabaseValue}
    (hhead : b.databaseResults = ⟨i, value⟩ :: b'.databaseResults)
    (hop : b.operations.lookup i = some operation)
    (hkind : operation.kind = .find ∧ operation.context.parsed.requestId.isSome ∨
      operation.kind = .insert) : RequestResult cfg b b' i operation := by
  have hfront : ∀ {j : ℕ} {value' : Except DatabaseError CommandDatabaseValue}
      {rest : List CommandDatabaseResult} {operation' : Operation},
      b.databaseResults = ⟨j, value'⟩ :: rest → b.operations.lookup j = some operation' →
        j = i ∧ operation' = operation := by
    intro j value' rest operation' hhead' hop'
    have hj : j = i := by
      rw [hhead] at hhead'
      cases hhead'
      rfl
    subst hj
    rw [hop] at hop'
    exact ⟨rfl, (Option.some.inj hop').symm⟩
  have htransition : operation.kind ≠ .transition := by
    rcases hkind with ⟨hk, _⟩ | hk <;> rw [hk] <;> decide
  have hlookup : operation.kind ≠ .findByIdForConvergence := by
    rcases hkind with ⟨hk, _⟩ | hk <;> rw [hk] <;> decide
  cases htick with
  | quiet hcore => exact (not_taken hcore.databaseResults hhead).elim
  | worker hevent =>
      have hle := @length_databaseResults_workerTurn b _ hevent
      rw [hhead, List.length_cons] at hle
      omega
  | mqtt => exact (not_taken rfl hhead).elim
  | device => exact (not_taken rfl hhead).elim
  | find => exact (not_taken (databaseResults_submit _ _ _ _ _) hhead).elim
  | cleanup => exact (not_taken (databaseResults_submit _ _ _ _ _) hhead).elim
  | @consumed operationId value' rest events hhead' hconsumed =>
      have hid : operationId = i := by
        rw [hhead] at hhead'
        cases hhead'
        rfl
      subst hid
      exact hconsumed.requestResult hw hhead' hop hkind
  | create hhead' hop' hfind hrequest hpayload =>
      obtain ⟨rfl, rfl⟩ := hfront hhead' hop'
      exact .created hfind hhead' hrequest hpayload rfl
  | conflict hhead' hop' hk =>
      obtain ⟨rfl, rfl⟩ := hfront hhead' hop'
      exact absurd hk htransition
  | activate hhead' hop' hk hown =>
      obtain ⟨rfl, rfl⟩ := hfront hhead' hop'
      obtain ⟨own, hcontext, hsame⟩ := hw.insert_result hhead' hop hk hown
      refine .activated hk hcontext.record ?_ (reportsSame_own hhead' hk hcontext hsame)
      rw [activeCommands_publishRecord, ← hsame.commandId]
      exact (congrArg Option.isSome (AList.lookup_insert _)).trans rfl
  | refresh _ _ hhead' hop' hk =>
      obtain ⟨rfl, rfl⟩ := hfront hhead' hop'
      exact absurd hk htransition
  | settle hhead' hop' hk =>
      obtain ⟨rfl, rfl⟩ := hfront hhead' hop'
      exact absurd hk hlookup
  | converge _ hwhich hop' =>
      rcases hwhich with ⟨hhead', hk, _⟩ | ⟨hhead', hk, _⟩
      · obtain ⟨rfl, rfl⟩ := hfront hhead' hop'
        exact absurd hk hlookup
      · obtain ⟨rfl, rfl⟩ := hfront hhead' hop'
        exact absurd hk htransition
  | finish context now hhead' hop' hwhich _ _ htype hsource =>
      obtain ⟨rfl, rfl⟩ := hfront hhead' hop'
      rcases hwhich with ⟨hk, _⟩ | ⟨hk, rfl, hown⟩ | ⟨hk, _⟩
      · exact absurd hk htransition
      · obtain ⟨own, hcontext, hsame⟩ := hw.insert_result hhead' hop hk hown
        refine @RequestResult.answered _ _ _ _ _ _ .lifecycle (by rw [← htype, ← hsource]) ?_
          (.inr (reportsSame_own hhead' hk hcontext hsame))
        rw [buildSourceAck_requestId, requestId?_of_record hcontext.record, hsame.requestId]
      · exact absurd hk hlookup
  | finished hhead' hop' hk =>
      obtain ⟨rfl, rfl⟩ := hfront hhead' hop'
      exact absurd hk hlookup
  | deviceAck =>
      refine (not_taken ?_ hhead).elim
      exact databaseResults_submitTransitionOrDefer _ _ _ _
  | buffer =>
      refine (not_taken ?_ hhead).elim
      exact databaseResults_bufferEarlyAck _ _ _ _ _
  | timeout =>
      refine (not_taken ?_ hhead).elim
      exact databaseResults_submitTransitionOrDefer _ _ _ _
  | republish =>
      refine (not_taken ?_ hhead).elim
      exact databaseResults_publishRecord _ _ _ _ _
  | complete => exact (not_taken (databaseResults_handleCompletion _ _ _ _) hhead).elim
  | retry => exact (not_taken (databaseResults_retryDeferred _ _ _ _) hhead).elim

end Results

/-! ### Accounting -/

/-- A search that found nothing is about to be answered only while the worker
accepts a task. -/
def AcceptsInsert (cfg : CommandServiceConfig) (b : RuntimeBundle) : Prop :=
  ∀ i rest operation, b.databaseResults = ⟨i, .ok (.found none)⟩ :: rest →
    b.operations.lookup i = some operation → operation.kind = .find → ∀ record,
      (b.toPostgresWorker.submitCommand cfg.maxInflightCommands b.nextOperationId
        (.insertCommand record)).isSome = true

/-- A task that the worker takes is an operation. -/
lemma submit_of_accepts {cfg : CommandServiceConfig} {b : RuntimeBundle} {kind : OperationKind}
    {context : RequestContext} {task : CommandDatabaseTask}
    (h : (b.toPostgresWorker.submitCommand cfg.maxInflightCommands b.nextOperationId
      task).isSome = true) :
    b.submit cfg kind context task = (true, b.accepted kind context task) := by
  rcases submit_cases cfg b kind context task with hsubmit | hsubmit
  · exact hsubmit
  · unfold submit at hsubmit
    dsimp only at hsubmit
    split at hsubmit
    · next hnone =>
        rw [hnone] at h
        cases h
    · cases hsubmit

/-- The process goes on, and the worker accepts the insertion if the input leads
to one. -/
def Input.KeepsRequests (cfg : CommandServiceConfig) (b : RuntimeBundle) : Input → Prop
  | .processNext _ _ => AcceptsInsert cfg b
  | .restart _ _ _ => False
  | _ => True

namespace ReceivedRequest

variable {cfg : CommandServiceConfig} {b b' : RuntimeBundle} {request : ReceivedRequest} {i : ℕ}
  {base events : List Event}

lemma IsCommand.mono {record : CommandRecord} (h : request.IsCommand i b record)
    (hlog : b'.log = events ++ b.log) : request.IsCommand i b' record :=
  { h with created := by rw [hlog]; exact List.mem_append_right _ h.created }

lemma Failed.mono (h : request.Failed i b) (hlog : b'.log = events ++ b.log) :
    request.Failed i b' := by
  have hmem : ∀ e ∈ b.log, e ∈ b'.log := fun e he => by
    rw [hlog]
    exact List.mem_append_right _ he
  rcases h with h | ⟨record, j, hcommand, hsubmitted, herror⟩
  · exact .inl (hmem _ h)
  · exact .inr ⟨record, j, hcommand.mono hlog, hmem _ hsubmitted, hmem _ herror⟩

/-- A new event of the tick is an answer. -/
lemma Accounted.of_answer (hbase : base <:+ b.log) {e : Event}
    (hlog : b'.log = e :: b.log) (hanswer : request.IsAnswer cfg e) :
    request.Accounted cfg i base b' := by
  obtain ⟨es, hes⟩ := hbase
  exact .inl ⟨e :: es, by rw [hlog, ← hes]; rfl, e, List.mem_cons_self, hanswer⟩

/-- The search is over: the request is answered, failed, or goes on as an
insertion. -/
lemma Accounted.of_search (hw : Wellformed b) (htick : Tick cfg b b')
    (hbase : base <:+ b.log) (haccepts : AcceptsInsert cfg b)
    {value : Except DatabaseError CommandDatabaseValue} {operation : Operation}
    (hhead : b.databaseResults = ⟨i, value⟩ :: b'.databaseResults)
    (hop : b.operations.lookup i = some operation) (hkind : operation.kind = .find)
    (hsource : operation.context.sourceId = request.sourceId)
    (htype : operation.context.commandType = request.commandType)
    (hrequest : operation.context.parsed.requestId = some request.requestId) :
    request.Accounted cfg i base b' := by
  cases htick.request_result hw hhead hop (.inl ⟨hkind, by rw [hrequest]; rfl⟩) with
  | failed hlog => exact .inr (.inr (.inl (by rw [hlog]; exact List.mem_cons_self)))
  | answered hlog hack _ =>
      refine .of_answer hbase hlog ⟨by rw [hsource, htype], ?_⟩
      rw [hack, requestId?_of_find hw hop hkind, hrequest]
  | @created answers rest requestId payload _ hnone hrequest' _ heq =>
      rw [hrequest] at hrequest'
      cases hrequest'
      obtain ⟨_, htype', hsource', hrequest', _⟩ :=
        Wellformed.newCommand_spec answers b operation.context request.requestId payload
      generalize b.newCommand answers operation.context request.requestId payload = new at *
      have hsubmit := @submit_of_accepts cfg ((b.taken i rest).emit (.created i new.1)) .insert
        { operation.context with record := some new.1, target := new.2 } _
        (haccepts i rest operation hnone hop hkind new.1)
      rw [hsubmit] at heq
      subst heq
      refine .inr (.inl (.inserting (j := b.nextOperationId) ⟨?_, ?_, ?_, hrequest'⟩
        List.mem_cons_self (AList.lookup_insert _) rfl rfl))
      · exact List.mem_cons_of_mem _ List.mem_cons_self
      · rw [hsource', hsource]
      · rw [htype', htype]
  | activated hinsert =>
      rw [hkind] at hinsert
      cases hinsert

/-- The insertion is over: the request is answered, failed, or its command is
active. -/
lemma Accounted.of_insertion (hw : Wellformed b) (htick : Tick cfg b b')
    (hbase : base <:+ b.log) {es : List Event} (hlog' : b'.log = es ++ b.log)
    {value : Except DatabaseError CommandDatabaseValue} {operation : Operation} {j : ℕ}
    {record : CommandRecord} (hcommand : request.IsCommand i b record)
    (hsubmitted : .submitted j (.insertCommand record) true ∈ b.log)
    (hhead : b.databaseResults = ⟨j, value⟩ :: b'.databaseResults)
    (hop : b.operations.lookup j = some operation) (hkind : operation.kind = .insert)
    (hrecord : operation.context.record = some record) :
    request.Accounted cfg i base b' := by
  have hcontext := hw.operation_context hop hrecord
  cases htick.request_result hw hhead hop (.inr hkind) with
  | failed hlog =>
      refine .inr (.inr (.inr ⟨record, j, hcommand.mono hlog', ?_, ?_⟩))
      · rw [hlog]; exact List.mem_cons_of_mem _ hsubmitted
      · rw [hlog]; exact List.mem_cons_self
  | answered hlog hack _ =>
      refine .of_answer hbase hlog ⟨?_, ?_⟩
      · rw [hcontext.sourceId, hcontext.commandType, hcommand.sourceId, hcommand.commandType]
      · rw [hack, requestId?_of_record hrecord, hcommand.requestId]
  | created hfind =>
      rw [hkind] at hfind
      cases hfind
  | activated _ hown hactive =>
      rw [hrecord] at hown
      cases hown
      obtain ⟨context, hactive⟩ := Option.isSome_iff_exists.mp hactive
      exact .inr (.inl (.active (hcommand.mono hlog') hactive))

/-- An active command stays active, or its end is acknowledged. -/
lemma Accounted.of_active (hw : Wellformed b) (htick : Tick cfg b b')
    (hbase : base <:+ b.log) {es : List Event} (hlog' : b'.log = es ++ b.log)
    {record : CommandRecord} {context : RequestContext} (hcommand : request.IsCommand i b record)
    (hactive : b.activeCommands.lookup record.commandId = some context) :
    request.Accounted cfg i base b' := by
  rcases htick.closing hw with ⟨j, operation, r, hfin⟩ | ⟨_, hkept⟩
  · by_cases hid : record.commandId = r.commandId
    · obtain ⟨topic, ack, hlog, _⟩ := hfin.log
      obtain ⟨events, hevents, horigins⟩ := htick.acks hw
      have horigin : AckOrigin cfg b b' topic ack .lifecycle := by
        rw [hlog] at hevents
        cases events with
        | nil =>
            have hlen := congrArg List.length hevents
            simp at hlen
        | cons e events =>
            obtain ⟨rfl, _⟩ := List.cons.inj hevents
            exact horigins _ List.mem_cons_self
      refine .of_answer hbase hlog ?_
      obtain ⟨_, hhead, hreported, _⟩ := hfin.head
      cases horigin with
      | @lifecycle _ value' record' context' now hhead' hreported' htype hsource =>
          rw [hhead] at hhead'
          cases hhead'
          rw [hreported] at hreported'
          cases hreported'
          have hknown : Known b.trace record :=
            ⟨i, record, List.mem_append_left _ hcommand.created, .refl record⟩
          have hsame := (hw.head_known hhead hreported).sameCommand hw.created hknown hid.symm
          refine ⟨?_, ?_⟩
          · rw [hsource, htype, hsame.sourceId, hsame.commandType, hcommand.sourceId,
              hcommand.commandType]
          · rw [buildSourceAck_requestId, hsame.requestId, hcommand.requestId]
    · have hkept : b'.activeCommands.lookup record.commandId = some context := by
        rw [hfin.others _ hid, hactive]
      exact .inr (.inl (.active (hcommand.mono hlog') hkept))
  · obtain ⟨context', hactive'⟩ :=
      Option.isSome_iff_exists.mp (hkept record.commandId (by rw [hactive]; rfl))
    exact .inr (.inl (.active (hcommand.mono hlog') hactive'))

/-- **A tick keeps the account of a request.** -/
lemma Accounted.tick (hw : Wellformed b) (hbase : base <:+ b.log)
    (h : request.Accounted cfg i base b) (htick : Tick cfg b b')
    (haccepts : AcceptsInsert cfg b ∨
      b.databaseResults.length ≤ b'.databaseResults.length) :
    request.Accounted cfg i base b' := by
  obtain ⟨es, hlog, _⟩ := htick.acks hw
  have htaken : ∀ {j : ℕ} {value : Except DatabaseError CommandDatabaseValue},
      b.databaseResults = ⟨j, value⟩ :: b'.databaseResults → AcceptsInsert cfg b := by
    intro j value hhead
    refine haccepts.resolve_right fun hlen => ?_
    rw [hhead, List.length_cons] at hlen
    omega
  rcases h with ⟨events, hevents, e, he, hanswer⟩ | hheld | hfailed
  · refine .inl ⟨es ++ events, by rw [hlog, hevents, List.append_assoc], e, ?_, hanswer⟩
    exact List.mem_append_right _ he
  · cases hheld with
    | searching hop hkind hsource htype hrequest =>
        rcases htick.operation_kept hw hop with hkept | ⟨value, hhead⟩
        · exact .inr (.inl (.searching hkept hkind hsource htype hrequest))
        · exact .of_search hw htick hbase (htaken hhead) hhead hop hkind hsource htype hrequest
    | inserting hcommand hsubmitted hop hkind hrecord =>
        rcases htick.operation_kept hw hop with hkept | ⟨value, hhead⟩
        · refine .inr (.inl (.inserting (hcommand.mono hlog) ?_ hkept hkind hrecord))
          rw [hlog]
          exact List.mem_append_right _ hsubmitted
        · exact .of_insertion hw htick hbase hlog hcommand hsubmitted hhead hop hkind hrecord
    | active hcommand hactive => exact .of_active hw htick hbase hlog hcommand hactive
  · exact .inr (.inr (hfailed.mono hlog))

/-- A refusal is an answer. -/
lemma Accounted.of_reject (events : List Event) (error : ProtocolError) (now : TimePoint)
    (hlog : b.log = events ++ base) :
    request.Accounted cfg i base
      (b.reject cfg none request.sourceId (some request.requestId) error now
        request.commandType) :=
  .inl ⟨_ :: events, congrArg (_ :: ·) hlog, _, List.mem_cons_self, rfl, rfl⟩

/-- The end of the handling: a refusal, or the search. -/
lemma accounted_submitFind {source : CommandSource} {parsed : ParsedSourceRequest}
    {receivedAt now : TimePoint} (hparsed : parsed.requestId = some request.requestId) :
    request.Accounted cfg b.nextOperationId b.log
      (b.submitFind cfg source parsed request.sourceId request.requestId request.commandType
        receivedAt now) := by
  rw [submitFind]
  dsimp only
  split
  · exact .of_reject [] _ now rfl
  split
  · exact .of_reject [] _ now rfl
  split
  · exact .of_reject [] _ now rfl
  split
  · next hsubmit =>
      refine .inr (.inl ?_)
      rcases submit_cases cfg b .find _ (.findCommand request.sourceId request.requestId) with h | h
      · rw [h] at hsubmit
        cases hsubmit
        exact .searching (AList.lookup_insert _) rfl rfl rfl hparsed
      · rw [h] at hsubmit
        cases hsubmit
  · next hsubmit =>
      rcases submit_cases cfg b .find _ (.findCommand request.sourceId request.requestId) with h | h
      · rw [h] at hsubmit
        cases hsubmit
      · rw [h] at hsubmit
        cases hsubmit
        exact .of_reject [_] _ now rfl

/-- **The handling of a request accounts for it.** -/
lemma IsNext.accounted (hnext : request.IsNext cfg b) (answers : Answers) (now : TimePoint) :
    request.Accounted cfg b.nextOperationId b.log (b.processNext cfg answers now) := by
  obtain ⟨message, rest, source, hmessages, htopic, hsource, henabled, honline, hrequest⟩ :=
    hnext.message
  rw [processNext]
  rw [hnext.results, hnext.completions, hmessages]
  dsimp only
  rw [handleMessage_request now htopic]
  rw [handleRequest]
  dsimp only
  rw [hsource]
  dsimp only
  rw [if_neg (by simp [henabled]), if_neg (fun hoffline => ?_), hrequest]
  · exact accounted_submitFind hrequest
  · have hany := honline hoffline.1
    rw [hoffline.2] at hany
    cases hany

end ReceivedRequest

/-- What the ticks of such a run keep holds at its end. -/
lemma keepsRequests_run {cfg : CommandServiceConfig} {P : RuntimeBundle → Prop}
    (htick : ∀ m m', P m → Tick cfg m m' →
      AcceptsInsert cfg m ∨ m.databaseResults.length ≤ m'.databaseResults.length → P m')
    {b b' : RuntimeBundle} {inputs : List Input}
    (hrun : ((routeService cfg).restrict (Input.KeepsRequests cfg)).Run b inputs b') (hb : P b) :
    P b' := by
  refine hrun.invariant (P := P) (fun m input hm henabled => ?_) hb
  refine @Input.keeps cfg .any P m input ?_ henabled.1 (input.meets_any cfg m)
    (fun _ _ _ h => ?_) hm
  · intro x x' hx hxtick hwhen
    refine htick x x' hx hxtick (hwhen.imp ?_ id)
    rintro ⟨rfl, answers, now, rfl⟩
    exact henabled.2
  · subst h
    exact henabled.2

/-- **No request is silently dropped**: a request with a valid number, from a
source that may send it, is in every later state of the process answered, held,
or failed by the database, if the worker accepts the insertions that follow
searches. -/
theorem request_accounted {cfg : CommandServiceConfig} {b b' : RuntimeBundle}
    {request : ReceivedRequest} {answers : Answers} {now : TimePoint} {inputs : List Input}
    (hb : (routeService cfg).Reachable b) (hnext : request.IsNext cfg b)
    (hrun : ((routeService cfg).restrict (Input.KeepsRequests cfg)).Run b
      (.processNext answers now :: inputs) b') :
    request.Accounted cfg b.nextOperationId b.log b' := by
  cases hrun with
  | cons henabled hrest =>
      have hgrows : ∀ m m', Wellformed m → Tick cfg m m' → m.log <:+ m'.log := by
        intro m m' hw htick
        obtain ⟨es, hlog, _⟩ := htick.acks hw
        exact ⟨es, hlog.symm⟩
      -- the request is handled
      have hfirst : Wellformed (b.processNext cfg answers now) ∧
          b.log <:+ (b.processNext cfg answers now).log := by
        refine @Input.keeps cfg .any (fun m => Wellformed m ∧ b.log <:+ m.log) b
          (.processNext answers now) ?_ henabled.1 (Input.meets_any cfg b _)
          (fun _ _ _ h => by cases h) ⟨wellformed_of_reachable hb, List.suffix_rfl⟩
        exact fun m m' hm htick _ => ⟨hm.1.tick htick, hm.2.trans (hgrows m m' hm.1 htick)⟩
      -- the rest of the run
      have hlast := @keepsRequests_run cfg (fun m => Wellformed m ∧ b.log <:+ m.log ∧
        request.Accounted cfg b.nextOperationId b.log m)
        (fun x x' hx htick hwhen => ⟨hx.1.tick htick, hx.2.1.trans (hgrows x x' hx.1 htick),
          hx.2.2.tick hx.1 hx.2.1 htick hwhen⟩) _ _ _ hrest
        ⟨hfirst.1, hfirst.2, hnext.accounted answers now⟩
      exact hlast.2.2

/-! ### A request that is kept and one that is not -/

namespace Sample

/-- The configuration request of the sample source. -/
def request : ReceivedRequest := ⟨"ops", .config, "r1"⟩

/-- It is at the front of the queues, after a first scan. -/
def received (cfg : CommandServiceConfig) : RuntimeBundle :=
  play cfg started [.setMqttAvailable true, .finishReady true 0,
    .tryPush ⟨"cns/sources/ops/config/request", configRequest.1, 5⟩]

/-- Room for one command only. -/
def narrow : CommandServiceConfig := { config with maxInflightCommands := 1 }

/-- The request is handled, and its command is stored and published. -/
def stored : List PlainInput :=
  [.processNext PlainInput.unusedUuid true 5, .worker (.runCommand .completed),
    .processNext commandId true 5, .worker (.runCommand .completed),
    .processNext PlainInput.unusedUuid true 5]

/-- The search has been executed when the next cleanup is submitted, and the
cleanup is still queued when the result is handled. -/
def crowded : List PlainInput :=
  [.processNext PlainInput.unusedUuid true 5, .worker (.runCommand .completed),
    .finishReady true 3600000000000, .processNext commandId true 3600000000000,
    .worker (.runCommand .completed), .processNext PlainInput.unusedUuid true 3600000000000]

lemma received_isNext (cfg : CommandServiceConfig) (hcfg : cfg = config ∨ cfg = narrow) :
    request.IsNext cfg (received cfg) := by
  have hmessages : (received cfg).messages =
      [⟨"cns/sources/ops/config/request", configRequest.1, 5⟩] := by
    rcases hcfg with rfl | rfl
    · decide +kernel
    · decide +kernel
  have hsource : (received cfg).sources.find "ops" = some ⟨"ops", .controlCenter, none, true⟩ := by
    rcases hcfg with rfl | rfl
    · decide +kernel
    · decide +kernel
  refine ⟨?_, ?_, _, [], _, hmessages, ?_, hsource, rfl, (fun h => by cases h), ?_⟩
  all_goals
    rcases hcfg with rfl | rfl
    · decide +kernel
    · decide +kernel

end Sample

/-- The computable form of the condition. -/
def keepsRequests (cfg : CommandServiceConfig) (b : RuntimeBundle) : PlainInput → Bool
  | .processNext _ _ _ =>
      b.accepting && b.nextOperationId ∉ b.commandOperations &&
        b.commandOperations.card < cfg.maxInflightCommands
  | .restart _ => false
  | _ => true

lemma keepsRequests_of_test {cfg : CommandServiceConfig} (b : RuntimeBundle) (input : PlainInput)
    (h : keepsRequests cfg b input = true) : (input.toInput b).KeepsRequests cfg b := by
  cases input with
  | processNext uuid published now =>
      intro i rest operation _ _ _ record
      simp only [keepsRequests, Bool.and_eq_true, decide_eq_true_eq] at h
      obtain ⟨⟨haccepting, hnew⟩, hroom⟩ := h
      rw [PostgresWorker.submitCommand]
      rw [if_neg]
      · rfl
      · simp [haccepting, hnew, hroom]
  | restart now => cases h
  | _ => trivial

/-- The sample request is stored and its message handed to the publisher: it is
accounted for, and not yet answered. -/
theorem request_accounted_submitted :
    Sample.request.Accounted Sample.config (Sample.received Sample.config).nextOperationId
      (Sample.received Sample.config).log
      (play Sample.config (Sample.received Sample.config) Sample.stored) := by
  have hb : (routeService Sample.config).Reachable (Sample.received Sample.config) :=
    reachable_of_played (reachable_firstStart Sample.config (fun _ _ => True) Sample.sources
      (DeviceRegistry.empty.put (Sample.device .online))).of_restrict (by decide +kernel)
  exact request_accounted hb (Sample.received_isNext Sample.config (.inl rfl))
    (@run_of_admitted Sample.config (Input.KeepsRequests Sample.config)
      (keepsRequests Sample.config) keepsRequests_of_test _ Sample.stored (by decide +kernel))

/-- No ACK was sent and no database error reported. -/
def isUnanswered (events : List Event) : Bool :=
  events.all fun
    | .acked _ _ _ => false
    | .databaseError _ => false
    | _ => true

/-- **A request that is dropped**: the queue of the worker is full when the
insertion is submitted.  Nothing is answered, no database error is reported, and
no map holds anything. -/
theorem request_dropped :
    (routeService Sample.narrow).Reachable (Sample.received Sample.narrow) ∧
      Sample.request.IsNext Sample.narrow (Sample.received Sample.narrow) ∧
      (routeService Sample.narrow).Reachable
        (play Sample.narrow (Sample.received Sample.narrow) Sample.crowded) ∧
      isUnanswered (play Sample.narrow (Sample.received Sample.narrow) Sample.crowded).log = true ∧
      (play Sample.narrow (Sample.received Sample.narrow) Sample.crowded).operations.keys = [] ∧
      (play Sample.narrow (Sample.received Sample.narrow) Sample.crowded).activeCommands.keys = [] ∧
      (play Sample.narrow (Sample.received Sample.narrow) Sample.crowded).publications.keys = [] ∧
      (play Sample.narrow (Sample.received Sample.narrow)
        Sample.crowded).deferredTransitions.keys = [] := by
  have hb : (routeService Sample.narrow).Reachable (Sample.received Sample.narrow) :=
    reachable_of_played (reachable_firstStart Sample.narrow (fun _ _ => True) Sample.sources
      (DeviceRegistry.empty.put (Sample.device .online))).of_restrict (by decide +kernel)
  exact ⟨hb, Sample.received_isNext Sample.narrow (.inr rfl),
    reachable_of_played hb (by decide +kernel), by decide +kernel, by decide +kernel,
    by decide +kernel, by decide +kernel, by decide +kernel⟩

end CnsServer
