/-
The key of a request: its source and its number.

Requests with one key may meet in the database in any order.  The row that is there
first has the key, and the others are compared with it.  A request with another body is
refused, either by its search or by its insertion; but an insertion that the worker does
not take is gone.

* `RowsStay`: what was committed is there, as long as nothing is removed;
* `committed_unique`: at most one command of a key is ever committed;
* `Fate`, `Fate.tick`: what becomes of a request, by the body of the row that is found;
* `requestKey_owned`: the rows and the messages of a key, and the requests with another
  body in the runs whose insertions the worker takes;
* `requestKey_unanswered`: a run in which it does not.
-/
import CnsServer.Invariants.Deliveries
import CnsServer.Invariants.WaitingTransitions
import CnsServer.Properties.RequestAccounting

namespace CnsServer

open RuntimeBundle

/-! ### Rows that stay -/

/-- What was committed is there, unless a cleanup has removed something. -/
def RowsStay (b : RuntimeBundle) : Prop :=
  (∀ r, .removed r ∉ b.trace) → ∀ r ∈ committedRows b.trace,
    (b.table.findCommandById r.commandId).isSome

namespace RowsStay

variable {cfg : CommandServiceConfig} {b b' : RuntimeBundle}

/-- The worker executes a task: what it removes is in the trace. -/
lemma executed (h : RowsStay b) (hs : Sound b) {i : ℕ} {task : CommandDatabaseTask}
    {confirmed : Bool} (hmem : (i, task) ∈ b.commands)
    (htable : b'.table = (execute b.table task).table)
    (htrace : b'.trace = executionEvents (execute b.table task).removed
      (execute b.table task).written confirmed ++ b.trace) : RowsStay b' := by
  intro hkept r hr
  have hold : r ∈ committedRows b.trace → (b.table.findCommandById r.commandId).isSome :=
    h (fun s hs => hkept s (by rw [htrace]; exact List.mem_append_right _ hs)) r
  rw [htrace, committedRows_append, Ledger.committedRows_execution] at hr
  rw [htable]
  rcases execute_cases b.table (hs.isService hmem) with
    ⟨hnone, _, hstays, _⟩ | ⟨r', hwritten, _, _, htable', _⟩
  · rw [hnone, List.nil_append] at hr
    obtain ⟨row, hrow⟩ := Option.isSome_iff_exists.mp (hold hr)
    rcases hstays _ row hrow with hsame | ⟨hgone, _, before, size, rfl⟩
    · rw [hsame]
      rfl
    · rcases b.table.findCommandById_deleteExpired before size r.commandId with
        heq | ⟨_, s, hs, _⟩
      · have hthere : (execute b.table (.cleanupCommands before size)).table.findCommandById
            r.commandId = some row := heq.trans hrow
        rw [hgone] at hthere
        cases hthere
      · refine absurd ?_ (hkept s)
        rw [htrace]
        exact List.mem_append_left _ (mem_executionEvents.mpr (.inl ⟨s, hs, rfl⟩))
  · rw [htable']
    split
    · rfl
    · next hne =>
        rw [hwritten] at hr
        rcases List.mem_cons.mp hr with rfl | hr
        · exact absurd rfl hne
        · exact hold hr

lemma tick (hs : Sound b) (h : RowsStay b) (htick : Tick cfg b b') : RowsStay b' := by
  rcases htick.serviceStep with ⟨event, hevent, rfl⟩ | hstep
  · rcases workerTurn_cases hevent with
      ⟨worker, _, heq⟩ | ⟨i, task, rest, hqueue, ⟨worker, _, heq⟩ |
        ⟨worker, message, _, _, _, heq⟩ | ⟨worker, _, _, heq⟩⟩ <;> rw [heq]
    · exact h
    · exact h.executed hs (by rw [hqueue]; exact List.mem_cons_self) rfl (List.append_assoc ..)
    · exact h
    · exact h.executed hs (by rw [hqueue]; exact List.mem_cons_self) rfl (List.append_assoc ..)
  · intro hkept r hr
    rw [hstep.table]
    rw [Ledger.committedRows_service hstep] at hr
    exact h (fun s hs => hkept s (htick.trace_suffix.subset hs)) r hr

lemma restarted (h : RowsStay b) (hrestart : Restarted cfg b b') : RowsStay b' := by
  obtain ⟨written, hrecovery, hpast⟩ := hrestart.recovery
  have hrows := Ledger.committedRows_restarted hrestart hpast
  intro hkept r hr
  rw [hrows] at hr
  rcases List.mem_append.mp hr with hnew | hold
  · rw [(hrecovery.uncertain r hnew).1]
    rfl
  · refine hrecovery.stays _ (h (fun s hs => hkept s ?_) r hold)
    rw [RuntimeBundle.trace, hpast]
    exact List.mem_append_right _ (List.mem_append_right _ hs)

lemma blank : RowsStay .blank := fun _ _ hr => by cases hr

end RowsStay

/-- **A key has one command**: the rows that were committed for it are versions of one
row, as long as nothing has been removed. -/
lemma committed_unique {b : RuntimeBundle} (hs : Sound b) (h : RowsStay b)
    (hkept : ∀ r, .removed r ∉ b.trace) {r s : CommandRecord} (hr : r ∈ committedRows b.trace)
    (hs' : s ∈ committedRows b.trace) (hsource : r.sourceId = s.sourceId)
    (hrequest : r.requestId = s.requestId) : r.SameCommand s := by
  have hknown := fun x hx => hs.ledger.committed_known x hx
  -- the row of a command has the key of all its versions
  have hrow : ∀ x ∈ committedRows b.trace, ∃ row, b.table.findCommandById x.commandId = some row ∧
      row.SameCommand x := by
    intro x hx
    obtain ⟨row, hfound⟩ := Option.isSome_iff_exists.mp (h hkept x hx)
    refine ⟨row, hfound, ?_⟩
    exact (hknown row (hs.ledger.row_committed _ row hfound)).sameCommand hs.wellformed.created
      (hknown x hx) (CommandTable.findCommandById_commandId hfound)
  obtain ⟨r', hr', hsame⟩ := hrow r hr
  obtain ⟨s', hs', hsame'⟩ := hrow s hs'
  have hid : r.commandId = s.commandId := b.table.uniqueRequest hr' hs'
    (by rw [hsame.sourceId, hsame'.sourceId, hsource])
    (by rw [hsame.requestId, hsame'.requestId, hrequest])
  exact (hknown r hr).sameCommand hs.wellformed.created (hknown s ‹_›) hid

/-! ### The fate of a request -/

namespace ReceivedRequest

/-- The request at the front of the queue has this body. -/
def HasBody (cfg : CommandServiceConfig) (b : RuntimeBundle) (request : ReceivedRequest)
    (payload : Json) : Prop :=
  ∀ message rest source, b.messages = message :: rest →
    b.sources.find request.sourceId = some source →
      (parseSourceRequest request.commandType (cfg.parseJson message.payload)
        source.kind).comparisonPayload = some payload

/-- The request was refused since the log was `base`: an ACK with its number names no
command. -/
def Refused (cfg : CommandServiceConfig) (request : ReceivedRequest) (base : List Event)
    (b : RuntimeBundle) : Prop :=
  ∃ events topic ack cause, b.log = events ++ base ∧
    .acked topic ack (.rejection cause) ∈ events ∧
    request.IsAnswer cfg (.acked topic ack (.rejection cause)) ∧ ack.commandId = none

/-- The search of the request, operation `i`, or the insertion of its command is under
way. -/
inductive Waits (request : ReceivedRequest) (i : ℕ) (payload : Json) (b : RuntimeBundle) : Prop
  | searching {operation : Operation} :
      b.operations.lookup i = some operation → operation.kind = .find →
      operation.context.sourceId = request.sourceId →
      operation.context.commandType = request.commandType →
      operation.context.parsed.requestId = some request.requestId →
      operation.context.parsed.comparisonPayload = some payload → Waits request i payload b
  | inserting {j : ℕ} {operation : Operation} {record : CommandRecord} :
      request.IsCommand i b record → .submitted j (.insertCommand record) true ∈ b.log →
      b.operations.lookup j = some operation → operation.kind = .insert →
      operation.context.record = some record → record.requestPayload = payload →
      Waits request i payload b

/-- A row with the key of the request and an equal body has been committed. -/
def Matched (request : ReceivedRequest) (payload : Json) (b : RuntimeBundle) : Prop :=
  ∃ r ∈ committedRows b.trace, r.sourceId = request.sourceId ∧ r.requestId = request.requestId ∧
    compareRequest r payload = .same

/-- The four fates. -/
def Fate (cfg : CommandServiceConfig) (request : ReceivedRequest) (i : ℕ) (payload : Json)
    (base : List Event) (b : RuntimeBundle) : Prop :=
  request.Matched payload b ∨ request.Refused cfg base b ∨ request.Waits i payload b ∨
    request.Failed i b

variable {cfg : CommandServiceConfig} {b b' : RuntimeBundle} {request : ReceivedRequest} {i : ℕ}
  {payload : Json} {base : List Event}

lemma Matched.mono (h : request.Matched payload b) (hsub : ∀ e ∈ b.trace, e ∈ b'.trace) :
    request.Matched payload b' := by
  obtain ⟨r, hr, hrest⟩ := h
  exact ⟨r, committedRows_mono hsub hr, hrest⟩

lemma Refused.mono {es : List Event} (h : request.Refused cfg base b)
    (hlog : b'.log = es ++ b.log) : request.Refused cfg base b' := by
  obtain ⟨events, topic, ack, cause, hevents, hmem, hrest⟩ := h
  exact ⟨es ++ events, topic, ack, cause, by rw [hlog, hevents, List.append_assoc],
    List.mem_append_right _ hmem, hrest⟩

/-- A new event of the tick refuses the request. -/
lemma Refused.of_event (hbase : base <:+ b.log) {topic : String} {ack : SourceAck}
    {cause : Option ℕ} (hlog : b'.log = .acked topic ack (.rejection cause) :: b.log)
    (hanswer : request.IsAnswer cfg (.acked topic ack (.rejection cause)))
    (hid : ack.commandId = none) : request.Refused cfg base b' := by
  obtain ⟨es, hes⟩ := hbase
  exact ⟨_ :: es, topic, ack, cause, by rw [hlog, ← hes]; rfl, List.mem_cons_self, hanswer, hid⟩

/-- The result of an operation of the request reports a row with an equal body. -/
lemma Matched.of_reports (ht : Traced b) {operation : Operation}
    (hreports : ReportsSame b i operation) (hasks : Asks operation payload)
    (hsource : operation.context.sourceId = request.sourceId)
    (hrequest : operation.requestId? = some request.requestId) : request.Matched payload b := by
  obtain ⟨value, rest, r, hhead, hreported, hr, hid, hsame⟩ := hreports
  refine ⟨r, Provenance.committed_of_head ht.sound hhead hreported, hr.trans hsource, ?_,
    hsame payload hasks⟩
  rw [hrequest] at hid
  exact Option.some.inj hid

/-- The search is over. -/
lemma Fate.of_search (ht : Traced b) (htick : Tick cfg b b') (hbase : base <:+ b.log)
    (haccepts : AcceptsInsert cfg b) {value : Except DatabaseError CommandDatabaseValue}
    {operation : Operation} (hhead : b.databaseResults = ⟨i, value⟩ :: b'.databaseResults)
    (hop : b.operations.lookup i = some operation) (hkind : operation.kind = .find)
    (hsource : operation.context.sourceId = request.sourceId)
    (htype : operation.context.commandType = request.commandType)
    (hrequest : operation.context.parsed.requestId = some request.requestId)
    (hpayload : operation.context.parsed.comparisonPayload = some payload) :
    request.Fate cfg i payload base b' := by
  have hw := ht.sound.wellformed
  have hsub : ∀ e ∈ b.trace, e ∈ b'.trace := fun e he => htick.trace_suffix.subset he
  have hasks : Asks operation payload := .inl ⟨hkind, hpayload⟩
  have hnumber : operation.requestId? = some request.requestId :=
    (requestId?_of_find hw hop hkind).trans hrequest
  cases htick.request_result hw hhead hop (.inl ⟨hkind, by rw [hrequest]; rfl⟩) with
  | failed hlog => exact .inr (.inr (.inr (.inl (by rw [hlog]; exact List.mem_cons_self))))
  | answered hlog hack hwhich =>
      rcases hwhich with ⟨hid, j, rfl⟩ | hreports
      · exact .inr (.inl (.of_event hbase hlog ⟨by rw [hsource, htype], hack.trans hnumber⟩ hid))
      · exact .inl ((Matched.of_reports ht hreports hasks hsource hnumber).mono hsub)
  | @created answers rest requestId payload' _ hnone hrequest' hpayload' heq =>
      rw [hrequest] at hrequest'
      cases hrequest'
      rw [hpayload] at hpayload'
      cases hpayload'
      obtain ⟨_, htype', hsource', hrequest', hbody, _⟩ :=
        Wellformed.newCommand_spec answers b operation.context request.requestId payload
      generalize b.newCommand answers operation.context request.requestId payload = new at *
      have hsubmit := @submit_of_accepts cfg ((b.taken i rest).emit (.created i new.1)) .insert
        { operation.context with record := some new.1, target := new.2 } _
        (haccepts i rest operation hnone hop hkind new.1)
      rw [hsubmit] at heq
      subst heq
      refine .inr (.inr (.inl (.inserting (j := b.nextOperationId) ⟨?_, ?_, ?_, hrequest'⟩
        List.mem_cons_self (AList.lookup_insert _) rfl rfl hbody)))
      · exact List.mem_cons_of_mem _ List.mem_cons_self
      · rw [hsource', hsource]
      · rw [htype', htype]
  | activated hinsert =>
      rw [hkind] at hinsert
      cases hinsert

/-- The insertion is over. -/
lemma Fate.of_insertion (ht : Traced b) (htick : Tick cfg b b') (hbase : base <:+ b.log)
    {es : List Event} (hlog' : b'.log = es ++ b.log)
    {value : Except DatabaseError CommandDatabaseValue} {operation : Operation} {j : ℕ}
    {record : CommandRecord} (hcommand : request.IsCommand i b record)
    (hsubmitted : .submitted j (.insertCommand record) true ∈ b.log)
    (hhead : b.databaseResults = ⟨j, value⟩ :: b'.databaseResults)
    (hop : b.operations.lookup j = some operation) (hkind : operation.kind = .insert)
    (hrecord : operation.context.record = some record)
    (hpayload : record.requestPayload = payload) : request.Fate cfg i payload base b' := by
  have hw := ht.sound.wellformed
  have hsub : ∀ e ∈ b.trace, e ∈ b'.trace := fun e he => htick.trace_suffix.subset he
  have hcontext := hw.operation_context hop hrecord
  have hasks : Asks operation payload := .inr ⟨hkind, record, hrecord, hpayload.symm⟩
  have hsource : operation.context.sourceId = request.sourceId :=
    hcontext.sourceId.trans hcommand.sourceId
  have hnumber : operation.requestId? = some request.requestId :=
    (requestId?_of_record hrecord).trans (congrArg some hcommand.requestId)
  cases htick.request_result hw hhead hop (.inr hkind) with
  | failed hlog =>
      refine .inr (.inr (.inr (.inr ⟨record, j, hcommand.mono hlog', ?_, ?_⟩)))
      · rw [hlog]; exact List.mem_cons_of_mem _ hsubmitted
      · rw [hlog]; exact List.mem_cons_self
  | answered hlog hack hwhich =>
      rcases hwhich with ⟨hid, k, rfl⟩ | hreports
      · refine .inr (.inl (.of_event hbase hlog ⟨?_, hack.trans hnumber⟩ hid))
        rw [hsource, hcontext.commandType, hcommand.commandType]
      · exact .inl ((Matched.of_reports ht hreports hasks hsource hnumber).mono hsub)
  | created hfind =>
      rw [hkind] at hfind
      cases hfind
  | activated _ _ _ hreports =>
      exact .inl ((Matched.of_reports ht hreports hasks hsource hnumber).mono hsub)

/-- **A tick keeps the fate of a request.** -/
lemma Fate.tick (ht : Traced b) (hbase : base <:+ b.log) (h : request.Fate cfg i payload base b)
    (htick : Tick cfg b b')
    (haccepts : AcceptsInsert cfg b ∨ b.databaseResults.length ≤ b'.databaseResults.length) :
    request.Fate cfg i payload base b' := by
  have hw := ht.sound.wellformed
  obtain ⟨es, hlog, _⟩ := htick.acks hw
  have htaken : ∀ {j : ℕ} {value : Except DatabaseError CommandDatabaseValue},
      b.databaseResults = ⟨j, value⟩ :: b'.databaseResults → AcceptsInsert cfg b := by
    intro j value hhead
    refine haccepts.resolve_right fun hlen => ?_
    rw [hhead, List.length_cons] at hlen
    omega
  rcases h with hmatched | hrefused | hwaits | hfailed
  · exact .inl (hmatched.mono fun e he => htick.trace_suffix.subset he)
  · exact .inr (.inl (hrefused.mono hlog))
  · cases hwaits with
    | searching hop hkind hsource htype hrequest hpayload =>
        rcases htick.operation_kept hw hop with hkept | ⟨value, hhead⟩
        · exact .inr (.inr (.inl (.searching hkept hkind hsource htype hrequest hpayload)))
        · exact .of_search ht htick hbase (htaken hhead) hhead hop hkind hsource htype hrequest
            hpayload
    | inserting hcommand hsubmitted hop hkind hrecord hpayload =>
        rcases htick.operation_kept hw hop with hkept | ⟨value, hhead⟩
        · refine .inr (.inr (.inl (.inserting (hcommand.mono hlog) ?_ hkept hkind hrecord
            hpayload)))
          rw [hlog]
          exact List.mem_append_right _ hsubmitted
        · exact .of_insertion ht htick hbase hlog hcommand hsubmitted hhead hop hkind hrecord
            hpayload
  · exact .inr (.inr (.inr (hfailed.mono hlog)))

/-- A refusal before the search. -/
lemma Fate.of_reject (events : List Event) (error : ProtocolError) (now : TimePoint)
    (hlog : b.log = events ++ base) :
    request.Fate cfg i payload base
      (b.reject cfg none request.sourceId (some request.requestId) error now
        request.commandType) :=
  .inr (.inl ⟨_ :: events, _, _, _, congrArg (_ :: ·) hlog, List.mem_cons_self, ⟨rfl, rfl⟩, rfl⟩)

/-- The end of the handling: a refusal, or the search. -/
lemma fate_submitFind {source : CommandSource} {parsed : ParsedSourceRequest}
    {receivedAt now : TimePoint} (hparsed : parsed.requestId = some request.requestId)
    (hpayload : parsed.comparisonPayload = some payload) :
    request.Fate cfg b.nextOperationId payload b.log
      (b.submitFind cfg source parsed request.sourceId request.requestId request.commandType
        receivedAt now) := by
  rw [submitFind]
  dsimp only
  split
  · exact .of_reject [] _ now rfl
  split
  · exact .of_reject [] _ now rfl
  split
  · exact .of_reject [] _ now rfl
  split
  · next hsubmit =>
      refine .inr (.inr (.inl ?_))
      rcases submit_cases cfg b .find _ (.findCommand request.sourceId request.requestId) with h | h
      · rw [h] at hsubmit
        cases hsubmit
        exact .searching (AList.lookup_insert _) rfl rfl rfl hparsed hpayload
      · rw [h] at hsubmit
        cases hsubmit
  · next hsubmit =>
      rcases submit_cases cfg b .find _ (.findCommand request.sourceId request.requestId) with h | h
      · rw [h] at hsubmit
        cases hsubmit
      · rw [h] at hsubmit
        cases hsubmit
        exact .of_reject [_] _ now rfl

/-- **The handling of a request decides its fate, or starts its search.** -/
lemma IsNext.fate (hnext : request.IsNext cfg b) (hbody : request.HasBody cfg b payload)
    (answers : Answers) (now : TimePoint) :
    request.Fate cfg b.nextOperationId payload b.log (b.processNext cfg answers now) := by
  obtain ⟨message, rest, source, hmessages, htopic, hsource, henabled, honline, hrequest⟩ :=
    hnext.message
  have hpayload := hbody message rest source hmessages hsource
  rw [processNext]
  rw [hnext.results, hnext.completions, hmessages]
  dsimp only
  rw [handleMessage_request now htopic]
  rw [handleRequest]
  dsimp only
  rw [hsource]
  dsimp only
  rw [if_neg (by simp [henabled]), if_neg (fun hoffline => ?_), hrequest]
  · exact fate_submitFind hrequest hpayload
  · have hany := honline hoffline.1
    rw [hoffline.2] at hany
    cases hany

end ReceivedRequest

/-! ### Runs -/

lemma rowsStay_of_reachable {cfg : CommandServiceConfig} {b : RuntimeBundle}
    (hb : (routeService cfg).Reachable b) : RowsStay b :=
  (reachable_of_ticks (P := fun b => Traced b ∧ RowsStay b) ⟨.blank, .blank⟩
    (fun _ _ h hrestart => ⟨h.1.restarted hrestart, h.2.restarted hrestart⟩)
    (fun _ _ h htick => ⟨h.1.tick htick, h.2.tick h.1.sound htick⟩) hb).2

/-- The event removes a row. -/
def Event.isRemoval : Event → Bool
  | .removed _ => true
  | _ => false

lemma not_removed {events : List Event} (h : events.all (fun e => !e.isRemoval) = true)
    (r : CommandRecord) : .removed r ∉ events := fun hmem => by
  have hnot := List.all_eq_true.mp h _ hmem
  simp [Event.isRemoval] at hnot

lemma ReceivedRequest.not_waits {request : ReceivedRequest} {i : ℕ} {payload : Json}
    {b : RuntimeBundle} (h : b.operations.keys = []) : ¬ request.Waits i payload b := by
  have hnone : ∀ {j : ℕ} {operation : Operation}, b.operations.lookup j ≠ some operation := by
    intro j operation hop
    have hmem := AList.lookup_isSome.mp (Option.isSome_of_eq_some hop)
    rw [AList.mem_keys, h] at hmem
    cases hmem
  rintro (⟨hop, _⟩ | ⟨_, _, hop, _⟩)
  · exact hnone hop
  · exact hnone hop

lemma ReceivedRequest.not_failed {request : ReceivedRequest} {i : ℕ} {b : RuntimeBundle}
    (h : ∀ j, .databaseError j ∉ b.log) : ¬ request.Failed i b := by
  rintro (herror | ⟨_, j, _, _, herror⟩)
  · exact h i herror
  · exact h j herror

namespace Sample

/-- The request with the number of the other, for another interval. -/
def otherRequest : String × Json :=
  (objectText [("parameters", objectText [("heartbeat_interval_ms", "2000")]),
      ("request_id", stringText "r1"), ("schema_version", "1"),
      ("target", objectText [("device_id", stringText "dev1")])],
    .object [("parameters", .object [("heartbeat_interval_ms", .integer 2000)]),
      ("request_id", .string "r1"), ("schema_version", .integer 1),
      ("target", .object [("device_id", .string "dev1")])])

/-- A service that knows both, with the given room. -/
def sharing (maxInflightCommands : ℕ) : CommandServiceConfig where
  parseJson text := if text = otherRequest.1 then some otherRequest.2 else parseJson text
  maxInflightCommands := maxInflightCommands

/-- The first request has been dispatched when the other arrives. -/
def repeatedOther : RuntimeBundle :=
  play (sharing 2) started (dispatched .config true ++
    [.tryPush ⟨"cns/sources/ops/config/request", otherRequest.1, 7⟩])

/-- The other is searched for, and the row is found. -/
def answeredOther : List PlainInput :=
  [.processNext PlainInput.unusedUuid true 7] ++ answered true 7

/-- Both requests arrive, and the first is searched for. -/
def bothReceived : RuntimeBundle :=
  play (sharing 2) started [.setMqttAvailable true, .finishReady true 0,
    .tryPush ⟨"cns/sources/ops/config/request", configRequest.1, 5⟩,
    .tryPush ⟨"cns/sources/ops/config/request", otherRequest.1, 5⟩,
    .processNext PlainInput.unusedUuid true 5]

/-- Neither is found.  The next cleanup and the insertion of the first fill the queue of
the worker when the insertion of the other is submitted. -/
def otherRefused : List PlainInput :=
  [.processNext PlainInput.unusedUuid true 5, .worker (.runCommand .completed),
    .worker (.runCommand .completed), .finishReady true 3600000000000,
    .processNext commandId true 3600000000000,
    .processNext "00000000-0000-4000-8000-000000000002" true 3600000000000] ++
    answered true 3600000000000 ++ answered true 3600000000000

/-- The other request is handled next. -/
lemma otherRequest_isNext {b : RuntimeBundle} (hresults : b.databaseResults = [])
    (hcompletions : b.publishCompletions = []) {at_ : TimePoint}
    (hmessages : b.messages = [⟨"cns/sources/ops/config/request", otherRequest.1, at_⟩])
    (hsource : b.sources.find "ops" = some ⟨"ops", .controlCenter, none, true⟩) :
    request.IsNext (sharing 2) b ∧ request.HasBody (sharing 2) b otherRequest.2 := by
  refine ⟨⟨hresults, hcompletions, _, [], _, hmessages, ?_, hsource, rfl, (fun h => by cases h),
    ?_⟩, fun message rest source hmessages' hsource' => ?_⟩
  · change parseSourceRequestTopic "cns" "cns/sources/ops/config/request" = .ok "ops"
    decide +kernel
  · change (parseSourceRequest .config (some otherRequest.2) .controlCenter).requestId = some "r1"
    decide +kernel
  · rw [hmessages] at hmessages'
    cases hmessages'
    rw [show request.sourceId = "ops" from rfl, hsource] at hsource'
    cases hsource'
    rfl

end Sample

end CnsServer
