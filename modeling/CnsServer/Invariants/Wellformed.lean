/-
The bookkeeping of the service, in every reachable state.

* Every record anywhere in the system descends from one created for one request
  (`Known`), and no two creations share an id.
* The tasks at the worker and the results on their way back stand in the order
  of their operation ids, each with its operation still in the map, and the
  operation is of the kind the task or the result asks for (`Matches`,
  `AnswersTo`).
* The contexts kept for active commands, publications, deferred transitions and
  operations belong to the command they are kept for (`ContextOf`).

`Wellformed` is kept by every tick (`Wellformed.tick`) and by a restart, so it
holds in every reachable state (`wellformed_of_reachable`).
-/
import CnsServer.Runtime.Ticks

namespace CnsServer

open RuntimeBundle

/-! ### Records and contexts -/

/-- The record descends from one that was created. -/
def Known (events : List Event) (r : CommandRecord) : Prop :=
  ∃ operation r₀, .created operation r₀ ∈ events ∧ r.SameCommand r₀

lemma Known.mono {events events' : List Event} {r : CommandRecord} (h : Known events r)
    (hsub : ∀ e ∈ events, e ∈ events') : Known events' r := by
  obtain ⟨operation, r₀, hmem, hsame⟩ := h
  exact ⟨operation, r₀, hsub _ hmem, hsame⟩

lemma Known.same {events : List Event} {r s : CommandRecord} (h : Known events r)
    (hsame : s.SameCommand r) : Known events s := by
  obtain ⟨operation, r₀, hmem, hr⟩ := h
  exact ⟨operation, r₀, hmem, hsame.trans hr⟩

lemma Known.mem_createdIds {events : List Event} {r : CommandRecord} (h : Known events r) :
    r.commandId ∈ createdIds events := by
  obtain ⟨operation, r₀, hmem, hsame⟩ := h
  rw [hsame.commandId]
  exact List.mem_filterMap.mpr ⟨_, hmem, rfl⟩

/-- Created ids do not repeat, so two records with one id are of one command. -/
lemma Known.sameCommand {events : List Event} (hnodup : (createdIds events).Nodup)
    {r s : CommandRecord} (hr : Known events r) (hs : Known events s)
    (hid : r.commandId = s.commandId) : r.SameCommand s := by
  obtain ⟨i, r₀, hr₀, hrr⟩ := hr
  obtain ⟨j, s₀, hs₀, hss⟩ := hs
  have hid₀ : r₀.commandId = s₀.commandId := by rw [← hrr.commandId, hid, hss.commandId]
  have heq : r₀ = s₀ := by
    clear hid hrr hss
    induction events with
    | nil => cases hr₀
    | cons e events ih =>
        have htail : (createdIds events).Nodup := by
          cases e <;> simp_all [createdIds]
        rcases List.mem_cons.mp hr₀ with rfl | hr₁ <;> rcases List.mem_cons.mp hs₀ with h | hs₁
        · cases h; rfl
        · refine absurd ?_ (List.nodup_cons.mp (show (r₀.commandId :: createdIds events).Nodup
            from hnodup)).1
          rw [hid₀]
          exact List.mem_filterMap.mpr ⟨_, hs₁, rfl⟩
        · subst h
          refine absurd ?_ (List.nodup_cons.mp (show (s₀.commandId :: createdIds events).Nodup
            from hnodup)).1
          rw [← hid₀]
          exact List.mem_filterMap.mpr ⟨_, hr₁, rfl⟩
        · exact ih htail hr₁ hs₁
  subst heq
  exact hrr.trans hss.symm

/-- The context is kept for the command of the record it holds. -/
structure ContextOf (events : List Event) (context : RequestContext) (r : CommandRecord) :
    Prop where
  record : context.record = some r
  known : Known events r
  commandType : context.commandType = r.commandType
  sourceId : context.sourceId = r.sourceId
  parsed : ∃ kind, context.parsed = parseSourceJson r.commandType r.requestPayload kind

lemma ContextOf.mono {events events' : List Event} {context : RequestContext}
    {r : CommandRecord} (h : ContextOf events context r)
    (hsub : ∀ e ∈ events, e ∈ events') : ContextOf events' context r :=
  { h with known := h.known.mono hsub }

/-- Another version of the record makes another context of the same command. -/
lemma ContextOf.withRecord {events : List Event} {context context' : RequestContext}
    {r s : CommandRecord} (h : ContextOf events context r) (hsame : s.SameCommand r)
    (hrecord : context'.record = some s) (htype : context'.commandType = context.commandType)
    (hsource : context'.sourceId = context.sourceId) (hparsed : context'.parsed = context.parsed) :
    ContextOf events context' s where
  record := hrecord
  known := h.known.same hsame
  commandType := by rw [htype, h.commandType, hsame.commandType]
  sourceId := by rw [hsource, h.sourceId, hsame.sourceId]
  parsed := by
    obtain ⟨kind, hkind⟩ := h.parsed
    exact ⟨kind, by rw [hparsed, hkind, hsame.commandType, hsame.requestPayload]⟩

/-! ### Operations, tasks and results -/

/-- The context an operation of each kind carries. -/
def OperationOk (events : List Event) (operation : Operation) : Prop :=
  match operation.kind with
  | .find => operation.context.record = none ∧
      ∃ root kind, operation.context.parsed =
        parseSourceJson operation.context.commandType root kind ∧
        operation.context.parsed.comparisonPayload = some root
  | .cleanup => operation.context.record = none
  | _ => ∃ r, ContextOf events operation.context r

/-- The task is the one the operation submits. -/
def Matches (operation : Operation) : CommandDatabaseTask → Prop
  | .findCommand sourceId requestId =>
      operation.kind = .find ∧ operation.context.sourceId = sourceId ∧
        operation.context.parsed.requestId = some requestId
  | .findCommandById commandId =>
      operation.kind = .findByIdForConvergence ∧
        ∃ r, operation.context.record = some r ∧ r.commandId = commandId
  | .insertCommand command =>
      operation.kind = .insert ∧ operation.context.record = some command
  | .transitionCommand commandId _ desired _ =>
      operation.kind = .transition ∧
        ∃ r, operation.context.record = some r ∧ r.commandId = commandId ∧ r.status = desired
  | .recoverControlCommands _ _ => False
  | .cleanupCommands _ _ => operation.kind = .cleanup

/-- The value answers an operation of this kind and for this command. -/
def AnswersTo (operation : Operation) : Except DatabaseError CommandDatabaseValue → Prop
  | .error _ => True
  | .ok (.found found) =>
      (operation.kind = .find ∧ ∀ r, found = some r → r.sourceId = operation.context.sourceId ∧
        operation.context.parsed.requestId = some r.requestId) ∨
      (operation.kind = .findByIdForConvergence ∧ ∃ desired,
        operation.context.record = some desired ∧
          ∀ r, found = some r → r.commandId = desired.commandId)
  | .ok (.record r) =>
      (operation.kind = .insert ∧ ∃ own, operation.context.record = some own ∧
        r.sourceId = own.sourceId ∧ r.requestId = own.requestId) ∨
      (operation.kind = .transition ∧ ∃ desired, operation.context.record = some desired ∧
        r.commandId = desired.commandId ∧ r.status = desired.status)
  | .ok (.records _) => False
  | .ok (.count _) => operation.kind = .cleanup

/-- The execution of an operation's task answers the operation. -/
lemma answersTo_execute {operation : Operation} {task : CommandDatabaseTask}
    (table : CommandTable) (h : Matches operation task) :
    AnswersTo operation (execute table task).value := by
  cases task with
  | findCommand sourceId requestId =>
      obtain ⟨hkind, rfl, hrequest⟩ := h
      refine .inl ⟨hkind, fun r hr => ?_⟩
      obtain ⟨_, hsource, rfl⟩ := CommandTable.findCommand_some hr
      exact ⟨hsource, hrequest⟩
  | findCommandById commandId =>
      obtain ⟨hkind, desired, hdesired, rfl⟩ := h
      exact .inr ⟨hkind, desired, hdesired, fun r hr =>
        CommandTable.findCommandById_commandId hr⟩
  | insertCommand command =>
      obtain ⟨hkind, hrecord⟩ := h
      rcases execute_insertCommand table command with
        ⟨existing, hfind, heq⟩ | ⟨_, _, heq⟩ | ⟨table', _, _, _, heq⟩
      · rw [heq]
        obtain ⟨_, hsource, hrequest⟩ := CommandTable.findCommand_some hfind
        exact .inl ⟨hkind, command, hrecord, hsource, hrequest⟩
      · rw [heq]; trivial
      · rw [heq]; exact .inl ⟨hkind, command, hrecord, rfl, rfl⟩
  | transitionCommand commandId expected desired update =>
      obtain ⟨hkind, r, hrecord, rfl, rfl⟩ := h
      rcases execute_transitionCommand table r.commandId expected r.status update with
        ⟨_, heq⟩ | ⟨_, heq⟩ | ⟨row, table', hrow, _, _, _, heq⟩
      · rw [heq]; trivial
      · rw [heq]; trivial
      · rw [heq]
        have hid : row.commandId = r.commandId := CommandTable.findCommandById_commandId hrow
        exact .inr ⟨hkind, r, hrecord, hid, rfl⟩
  | recoverControlCommands _ _ => exact h.elim
  | cleanupCommands before size => exact h

/-- Rows, and the records in results, stay known when a known task is
executed. -/
lemma known_execute {events : List Event} {operation : Operation} {task : CommandDatabaseTask}
    {table : CommandTable} (hop : OperationOk events operation) (h : Matches operation task)
    (htable : ∀ c r, table.findCommandById c = some r → Known events r) :
    (∀ c r, (execute table task).table.findCommandById c = some r → Known events r) ∧
    (∀ r, reported (execute table task).value = some r → Known events r) ∧
    (∀ r ∈ (execute table task).written, Known events r) := by
  cases task with
  | findCommand sourceId requestId =>
      exact ⟨htable, fun r hr => htable _ r (CommandTable.findCommand_some hr).1,
        fun r hr => absurd hr (by simp [execute])⟩
  | findCommandById commandId =>
      exact ⟨htable, fun r hr => htable _ r hr, fun r hr => absurd hr (by simp [execute])⟩
  | insertCommand command =>
      obtain ⟨hkind, hrecord⟩ := h
      have hknown : Known events command.stored := by
        unfold OperationOk at hop
        rw [hkind] at hop
        obtain ⟨r, hr⟩ := hop
        have heq := hr.record
        rw [hrecord] at heq
        cases heq
        exact hr.known.same (.stored command)
      rcases execute_insertCommand table command with
        ⟨existing, hfind, heq⟩ | ⟨_, _, heq⟩ | ⟨table', _, _, htable', heq⟩
      · rw [heq]
        refine ⟨htable, fun r hr => ?_, by simp⟩
        cases hr
        exact htable _ _ (CommandTable.findCommand_some hfind).1
      · rw [heq]
        exact ⟨htable, fun r hr => (by cases hr), by simp⟩
      · rw [heq]
        refine ⟨fun c r hr => ?_, fun r hr => (by cases hr; exact hknown), by simpa using hknown⟩
        change table'.findCommandById c = some r at hr
        rw [htable'] at hr
        split at hr
        · cases hr; exact hknown
        · exact htable c r hr
  | transitionCommand commandId expected desired update =>
      rcases execute_transitionCommand table commandId expected desired update with
        ⟨_, heq⟩ | ⟨_, heq⟩ | ⟨row, table', hrow, _, _, htable', heq⟩
      · rw [heq]
        exact ⟨htable, fun r hr => (by cases hr), by simp⟩
      · rw [heq]
        exact ⟨htable, fun r hr => (by cases hr), by simp⟩
      · have hknown : Known events (row.transitioned desired update) :=
          (htable _ row hrow).same (.transitioned row desired update)
        rw [heq]
        refine ⟨fun c r hr => ?_, fun r hr => (by cases hr; exact hknown), by simpa using hknown⟩
        change table'.findCommandById c = some r at hr
        rw [htable'] at hr
        split at hr
        · cases hr; exact hknown
        · exact htable c r hr
  | recoverControlCommands _ _ => exact h.elim
  | cleanupCommands before size =>
      refine ⟨fun c r hr => ?_, fun r hr => (by cases hr), fun r hr =>
        absurd hr (by simp [execute])⟩
      rcases table.findCommandById_deleteExpired before size c with heq | ⟨hnone, _⟩
      · exact htable c r (heq ▸ hr)
      · rw [show (execute table (.cleanupCommands before size)).table =
          (table.deleteExpiredTerminalCommands before size).1 from rfl, hnone] at hr
        cases hr

/-! ### The invariant -/

/-- The deferred transition is the one its context asks for. -/
structure DeferredOk (events : List Event) (c : String) (deferred : DeferredTransition) : Prop where
  key : deferred.task.commandId = c
  context : ∃ r, ContextOf events deferred.context r ∧ r.commandId = c ∧
    r.status = deferred.task.desired

/-- The context of an active or published command: its record is not terminal. -/
def OpenContext (events : List Event) (context : RequestContext) : Prop :=
  ∃ r, ContextOf events context r ∧ r.status.isTerminal = false

/-- The context of the active command `c`. -/
def ActiveContext (events : List Event) (c : String) (context : RequestContext) : Prop :=
  ∃ r, ContextOf events context r ∧ r.status.isTerminal = false ∧ r.commandId = c

/-- The ids of the results on their way back, followed by those of the tasks at
the worker. -/
def pipeline (b : RuntimeBundle) : List ℕ :=
  b.databaseResults.map (·.operationId) ++ b.commands.map Prod.fst

/-- The bookkeeping is in order. -/
structure Wellformed (b : RuntimeBundle) : Prop where
  created : (createdIds b.trace).Nodup
  sorted : (pipeline b).Pairwise (· < ·)
  pipeline_lt : ∀ i ∈ pipeline b, i < b.nextOperationId
  operations_lt : ∀ i operation, b.operations.lookup i = some operation → i < b.nextOperationId
  queue : ∀ i task, (i, task) ∈ b.commands →
    ∃ operation, b.operations.lookup i = some operation ∧ Matches operation task
  results : ∀ result ∈ b.databaseResults, ∃ operation,
    b.operations.lookup result.operationId = some operation ∧ AnswersTo operation result.value
  reports : ∀ result ∈ b.databaseResults, ∀ r, reported result.value = some r → Known b.trace r
  operations : ∀ i operation, b.operations.lookup i = some operation → OperationOk b.trace operation
  active : ∀ c context, b.activeCommands.lookup c = some context →
    ActiveContext b.trace c context
  publications_lt : ∀ t context, b.publications.lookup t = some context → t < b.nextPublishToken
  publications : ∀ t context, b.publications.lookup t = some context → OpenContext b.trace context
  deferred : ∀ c deferred, b.deferredTransitions.lookup c = some deferred →
    DeferredOk b.trace c deferred
  table : ∀ c r, b.table.findCommandById c = some r → Known b.trace r

lemma ContextOf.unique {events : List Event} {context : RequestContext} {r s : CommandRecord}
    (h : ContextOf events context r) (hs : context.record = some s) : s = r := by
  have := h.record
  rw [hs] at this
  exact Option.some.inj this

lemma OperationOk.mono {events events' : List Event} {operation : Operation}
    (h : OperationOk events operation) (hsub : ∀ e ∈ events, e ∈ events') :
    OperationOk events' operation := by
  rw [OperationOk] at h ⊢
  split at h
  · exact h
  · exact h
  · obtain ⟨r, hr⟩ := h
    exact ⟨r, hr.mono hsub⟩

lemma ActiveContext.mono {events events' : List Event} {c : String} {context : RequestContext}
    (h : ActiveContext events c context) (hsub : ∀ e ∈ events, e ∈ events') :
    ActiveContext events' c context := by
  obtain ⟨r, hr, hrest⟩ := h
  exact ⟨r, hr.mono hsub, hrest⟩

lemma OpenContext.mono {events events' : List Event} {context : RequestContext}
    (h : OpenContext events context) (hsub : ∀ e ∈ events, e ∈ events') :
    OpenContext events' context := by
  obtain ⟨r, hr, hrest⟩ := h
  exact ⟨r, hr.mono hsub, hrest⟩

lemma ActiveContext.isOpen {events : List Event} {c : String} {context : RequestContext}
    (h : ActiveContext events c context) : OpenContext events context := by
  obtain ⟨r, hr, hterm, _⟩ := h
  exact ⟨r, hr, hterm⟩

lemma DeferredOk.mono {events events' : List Event} {c : String} {deferred : DeferredTransition}
    (h : DeferredOk events c deferred) (hsub : ∀ e ∈ events, e ∈ events') :
    DeferredOk events' c deferred := by
  obtain ⟨r, hr, hrest⟩ := h.context
  exact ⟨h.key, r, hr.mono hsub, hrest⟩

/-- The events that create nothing. -/
def Event.NotCreated : Event → Prop
  | .created _ _ => False
  | _ => True

lemma createdIds_append (es events : List Event) :
    createdIds (es ++ events) = createdIds es ++ createdIds events := List.filterMap_append

lemma createdIds_of_notCreated {events : List Event} (h : ∀ e ∈ events, e.NotCreated) :
    createdIds events = [] := by
  rw [createdIds, List.filterMap_eq_nil_iff]
  intro e he
  cases e <;> simp_all [Event.NotCreated]
  exact absurd (h _ he) (by simp)

lemma Event.IsQuiet.notCreated {e : Event} (h : e.IsQuiet) : e.NotCreated := by
  cases e <;> simp_all [Event.IsQuiet, Event.NotCreated]

/-- The trace of a state whose log has grown by events that create nothing. -/
lemma trace_grown {b b' : RuntimeBundle} {es : List Event} (hlog : b'.log = es ++ b.log)
    (hpast : b'.past = b.past) (hes : ∀ e ∈ es, e.NotCreated) :
    (∀ e ∈ b.trace, e ∈ b'.trace) ∧ createdIds b'.trace = createdIds b.trace := by
  have htrace : b'.trace = es ++ b.trace := by
    simp only [RuntimeBundle.trace]
    rw [hlog, hpast, List.append_assoc]
  rw [htrace]
  refine ⟨fun e he => List.mem_append_right _ he, ?_⟩
  rw [createdIds_append, createdIds_of_notCreated hes, List.nil_append]

namespace Wellformed

variable {b b' : RuntimeBundle} {cfg : CommandServiceConfig}

/-! ### Changes of the service -/

/-- A change that leaves the table and the worker alone: the entries of the maps
are old ones or in order. -/
lemma update (h : Wellformed b) (htrace : ∀ e ∈ b.trace, e ∈ b'.trace)
    (hcreated : createdIds b'.trace = createdIds b.trace)
    (hqueue : b'.commands = b.commands) (hresults : b'.databaseResults = b.databaseResults)
    (hops : ∀ i, b'.operations.lookup i = b.operations.lookup i)
    (hnext : b.nextOperationId ≤ b'.nextOperationId)
    (htoken : b.nextPublishToken ≤ b'.nextPublishToken) (htable : b'.table = b.table)
    (hactive : ∀ c context, b'.activeCommands.lookup c = some context →
      b.activeCommands.lookup c = some context ∨ ActiveContext b.trace c context)
    (hpublications : ∀ t context, b'.publications.lookup t = some context →
      b.publications.lookup t = some context ∨
        (t < b'.nextPublishToken ∧ OpenContext b.trace context))
    (hdeferred : ∀ c deferred, b'.deferredTransitions.lookup c = some deferred →
      b.deferredTransitions.lookup c = some deferred ∨ DeferredOk b.trace c deferred) :
    Wellformed b' where
  created := hcreated ▸ h.created
  sorted := by unfold pipeline; rw [hqueue, hresults]; exact h.sorted
  pipeline_lt i hi := by
    unfold pipeline at hi
    rw [hqueue, hresults] at hi
    exact (h.pipeline_lt i hi).trans_le hnext
  operations_lt i operation hop := by
    rw [hops] at hop
    exact (h.operations_lt i operation hop).trans_le hnext
  queue i task hmem := by
    rw [hqueue] at hmem
    obtain ⟨operation, hop, hmatch⟩ := h.queue i task hmem
    exact ⟨operation, (hops i).trans hop, hmatch⟩
  results result hmem := by
    rw [hresults] at hmem
    obtain ⟨operation, hop, hanswer⟩ := h.results result hmem
    exact ⟨operation, (hops _).trans hop, hanswer⟩
  reports result hmem r hr := by
    rw [hresults] at hmem
    exact (h.reports result hmem r hr).mono htrace
  operations i operation hop := by
    rw [hops] at hop
    exact (h.operations i operation hop).mono htrace
  active c context hc := by
    rcases hactive c context hc with hc | hc
    · exact (h.active c context hc).mono htrace
    · exact hc.mono htrace
  publications_lt t context ht := by
    rcases hpublications t context ht with ht | ht
    · exact (h.publications_lt t context ht).trans_le htoken
    · exact ht.1
  publications t context ht := by
    rcases hpublications t context ht with ht | ht
    · exact (h.publications t context ht).mono htrace
    · exact ht.2.mono htrace
  deferred c deferred hc := by
    rcases hdeferred c deferred hc with hc | hc
    · exact (h.deferred c deferred hc).mono htrace
    · exact hc.mono htrace
  table c r hr := by
    rw [htable] at hr
    exact (h.table c r hr).mono htrace

lemma sameCore (h : Wellformed b) {cfg : CommandServiceConfig} (hcore : SameCore cfg b b') :
    Wellformed b' := by
  obtain ⟨es, hlog, hes⟩ := hcore.log
  obtain ⟨htrace, hcreated⟩ := trace_grown hlog hcore.past fun e he => (hes e he).notCreated
  refine h.update htrace hcreated hcore.commands hcore.databaseResults hcore.operations
    hcore.nextOperationId.ge hcore.nextPublishToken.ge hcore.table ?_ ?_ ?_
  · exact fun c context hc => .inl (hcore.activeCommands c ▸ hc)
  · exact fun t context ht => .inl (hcore.publications t ▸ ht)
  · exact fun c deferred hc => .inl (hcore.deferredTransitions c ▸ hc)

/-- One more event in the trace. -/
lemma emit (h : Wellformed b) {event : Event} (hevent : event.NotCreated) :
    Wellformed (b.emit event) := by
  obtain ⟨htrace, hcreated⟩ := @trace_grown b (b.emit event) [event] rfl rfl (by simpa using hevent)
  exact h.update htrace hcreated rfl rfl (fun _ => rfl) le_rfl le_rfl rfl (fun _ _ h => .inl h)
    (fun _ _ h => .inl h) (fun _ _ h => .inl h)

/-- A result and its operation are taken. -/
lemma taken (h : Wellformed b) {operationId : ℕ}
    {value : Except DatabaseError CommandDatabaseValue} {rest : List CommandDatabaseResult}
    (hhead : b.databaseResults = ⟨operationId, value⟩ :: rest) :
    Wellformed (b.taken operationId rest) := by
  have hpipe : pipeline b = operationId :: pipeline (b.taken operationId rest) := by
    rw [pipeline, RuntimeBundle.taken]
    rw [hhead]
    rfl
  have hsorted := h.sorted
  rw [hpipe, List.pairwise_cons] at hsorted
  -- the head of the sorted pipeline is the only place of its id
  have hne : ∀ i ∈ pipeline (b.taken operationId rest), i ≠ operationId :=
    fun i hi => (hsorted.1 i hi).ne'
  have hops : ∀ i, i ≠ operationId →
      (b.taken operationId rest).operations.lookup i = b.operations.lookup i :=
    fun i hi => AList.lookup_erase_ne hi
  exact
    { created := h.created
      sorted := hsorted.2
      pipeline_lt := fun i hi => h.pipeline_lt i (by rw [hpipe]; exact List.mem_cons_of_mem _ hi)
      operations_lt := fun i operation hop =>
        h.operations_lt i operation (Map.lookup_erase_some.mp hop).2
      queue := fun i task hmem => by
        have hi : i ≠ operationId := hne i
          (List.mem_append_right _ (List.mem_map.mpr ⟨(i, task), hmem, rfl⟩))
        obtain ⟨operation, hop, hmatch⟩ := h.queue i task hmem
        exact ⟨operation, (hops i hi).trans hop, hmatch⟩
      results := fun result hmem => by
        have hi : result.operationId ≠ operationId := hne _
          (List.mem_append_left _ (List.mem_map.mpr ⟨result, hmem, rfl⟩))
        obtain ⟨operation, hop, hanswer⟩ := h.results result
          (by rw [hhead]; exact List.mem_cons_of_mem _ hmem)
        exact ⟨operation, (hops _ hi).trans hop, hanswer⟩
      reports := fun result hmem =>
        h.reports result (by rw [hhead]; exact List.mem_cons_of_mem _ hmem)
      operations := fun i operation hop => h.operations i operation (Map.lookup_erase_some.mp hop).2
      active := h.active
      publications_lt := h.publications_lt
      publications := h.publications
      deferred := h.deferred
      table := h.table }

/-- A submission the worker takes. -/
lemma accepted (h : Wellformed b) {kind : OperationKind} {context : RequestContext}
    {task : CommandDatabaseTask} (hop : OperationOk b.trace ⟨kind, context⟩)
    (hmatch : Matches ⟨kind, context⟩ task) : Wellformed (b.accepted kind context task) := by
  obtain ⟨htrace, hcreated⟩ := @trace_grown b (b.accepted kind context task)
    [.submitted b.nextOperationId task true] rfl rfl (by simp [Event.NotCreated])
  have hpipe : pipeline (b.accepted kind context task) = pipeline b ++ [b.nextOperationId] := by
    simp only [pipeline, RuntimeBundle.accepted]
    simp
  have hops : ∀ i, i < b.nextOperationId →
      (b.accepted kind context task).operations.lookup i = b.operations.lookup i :=
    fun i hi => AList.lookup_insert_ne hi.ne
  have hnew : (b.accepted kind context task).operations.lookup b.nextOperationId =
      some ⟨kind, context⟩ := AList.lookup_insert _
  exact
    { created := hcreated ▸ h.created
      sorted := by
        rw [hpipe, List.pairwise_append]
        exact ⟨h.sorted, by simp, fun i hi j hj => by
          rw [List.mem_singleton.mp hj]
          exact h.pipeline_lt i hi⟩
      pipeline_lt := fun i hi => by
        rw [hpipe] at hi
        change i < b.nextOperationId + 1
        rcases List.mem_append.mp hi with hi | hi
        · exact (h.pipeline_lt i hi).trans (Nat.lt_succ_self _)
        · rw [List.mem_singleton.mp hi]
          exact Nat.lt_succ_self _
      operations_lt := fun i operation hi => by
        change i < b.nextOperationId + 1
        rcases Map.lookup_insert_some.mp hi with ⟨rfl, _⟩ | ⟨_, hi⟩
        · exact Nat.lt_succ_self _
        · exact (h.operations_lt i operation hi).trans (Nat.lt_succ_self _)
      queue := fun i t hmem => by
        rcases List.mem_append.mp hmem with hmem | hmem
        · obtain ⟨operation, hfound, hm⟩ := h.queue i t hmem
          exact ⟨operation, (hops i (h.operations_lt i operation hfound)).trans hfound, hm⟩
        · cases List.mem_singleton.mp hmem
          exact ⟨_, hnew, hmatch⟩
      results := fun result hmem => by
        obtain ⟨operation, hfound, hanswer⟩ := h.results result hmem
        exact ⟨operation, (hops _ (h.operations_lt _ operation hfound)).trans hfound, hanswer⟩
      reports := fun result hmem r hr => (h.reports result hmem r hr).mono htrace
      operations := fun i operation hi => by
        rcases Map.lookup_insert_some.mp hi with ⟨_, rfl⟩ | ⟨_, hi⟩
        · exact hop.mono htrace
        · exact (h.operations i operation hi).mono htrace
      active := fun c k hc => (h.active c k hc).mono htrace
      publications_lt := h.publications_lt
      publications := fun t k ht => (h.publications t k ht).mono htrace
      deferred := fun c d hc => (h.deferred c d hc).mono htrace
      table := fun c r hr => (h.table c r hr).mono htrace }

/-- A submission the worker refuses. -/
lemma refused (h : Wellformed b) (task : CommandDatabaseTask) : Wellformed (b.refused task) := by
  obtain ⟨htrace, hcreated⟩ := @trace_grown b (b.refused task)
    [.submitted b.nextOperationId task false] rfl rfl (by simp [Event.NotCreated])
  exact h.update htrace hcreated rfl rfl (fun _ => rfl) (Nat.le_succ _) le_rfl rfl
    (fun _ _ h => .inl h) (fun _ _ h => .inl h) (fun _ _ h => .inl h)

lemma submit (h : Wellformed b) {kind : OperationKind} {context : RequestContext}
    {task : CommandDatabaseTask} (hop : OperationOk b.trace ⟨kind, context⟩)
    (hmatch : Matches ⟨kind, context⟩ task) :
    Wellformed (b.submit cfg kind context task).2 := by
  rcases submit_cases cfg b kind context task with heq | heq
  · rw [heq]; exact h.accepted hop hmatch
  · rw [heq]; exact h.refused task

/-- A transition is formed for the command of its context. -/
lemma form (h : Wellformed b) {context : RequestContext} {task : TransitionCommandTask}
    {r : CommandRecord} (hcontext : ContextOf b.trace context r)
    (hid : r.commandId = task.commandId) (hstatus : r.status = task.desired) :
    Wellformed (b.submitTransitionOrDefer cfg context task) := by
  have hformed : Wellformed (b.emit (.formed task (b.replaced task.commandId))) := h.emit trivial
  have hcontext' : ContextOf (b.emit (.formed task (b.replaced task.commandId))).trace context r :=
    hcontext.mono fun e he => List.mem_cons_of_mem _ he
  rcases submitTransitionOrDefer_cases cfg b context task with heq | heq
  · rw [heq]
    have hacc : Wellformed ((b.emit (.formed task (b.replaced task.commandId))).accepted
        .transition context task.toTask) :=
      hformed.accepted ⟨r, hcontext'⟩ ⟨rfl, r, hcontext.record, hid, hstatus⟩
    exact hacc.update (fun _ he => he) rfl rfl rfl (fun _ => rfl) le_rfl le_rfl rfl
      (fun _ _ h => .inl h) (fun _ _ h => .inl h)
      (fun c d hc => .inl (Map.lookup_erase_some.mp hc).2)
  · rw [heq]
    refine (hformed.refused task.toTask).update (fun _ he => he) rfl rfl rfl (fun _ => rfl) le_rfl
      le_rfl rfl (fun _ _ h => .inl h) (fun _ _ h => .inl h) (fun c d hc => ?_)
    rcases Map.lookup_insert_some.mp hc with ⟨rfl, rfl⟩ | ⟨_, hc⟩
    · exact .inr ⟨rfl, r, hcontext'.mono fun e he => List.mem_cons_of_mem _ he, hid, hstatus⟩
    · exact .inl hc

/-- A deferred transition is tried again. -/
lemma retry (h : Wellformed b) {key : String} {deferred : DeferredTransition}
    (hfound : b.deferredTransitions.lookup key = some deferred) :
    Wellformed (b.retryDeferred cfg key deferred) := by
  have hok := h.deferred key deferred hfound
  obtain ⟨r, hcontext, hid, hstatus⟩ := hok.context
  have herased : Wellformed { b with deferredTransitions := b.deferredTransitions.erase key } :=
    h.update (fun _ he => he) rfl rfl rfl (fun _ => rfl) le_rfl le_rfl rfl (fun _ _ h => .inl h)
      (fun _ _ h => .inl h) (fun c d hc => .inl (Map.lookup_erase_some.mp hc).2)
  rcases retryDeferred_cases cfg b key deferred with heq | heq
  · rw [heq]
    exact herased.accepted ⟨r, hcontext⟩
      ⟨rfl, r, hcontext.record, hid.trans hok.key.symm, hstatus⟩
  · rw [heq]
    refine (h.refused deferred.task.toTask).update (fun _ he => he) rfl rfl rfl (fun _ => rfl)
      le_rfl le_rfl rfl (fun _ _ h => .inl h) (fun _ _ h => .inl h) (fun c d hc => ?_)
    rcases Map.lookup_insert_some.mp hc with ⟨rfl, rfl⟩ | ⟨_, hc⟩
    · refine .inr (DeferredOk.mono ?_ fun e he => List.mem_cons_of_mem _ he)
      rw [hok.key]
      exact hok
    · exact .inl (Map.lookup_erase_some.mp hc).2

/-- A message goes to the device publisher. -/
lemma publish (h : Wellformed b) {answers : Answers} {context : RequestContext} {now : TimePoint}
    (hcontext : OpenContext b.trace context) :
    Wellformed (b.publishRecord cfg answers context now) := by
  rcases publishRecord_cases cfg answers b context now with
    heq | ⟨record, deviceId, payload, hrecord, _, _, _, heq | heq⟩
  · rw [heq]; exact h
  · rw [heq]
    obtain ⟨htrace, hcreated⟩ := @trace_grown b (b.sent cfg context record deviceId payload)
      [.published b.nextPublishToken
        (deviceSetTopic cfg.topicNamespace deviceId context.commandType) payload record true]
      rfl rfl (by simp [Event.NotCreated])
    refine h.update htrace hcreated rfl rfl (fun _ => rfl) le_rfl (Nat.le_succ _) rfl
      (fun _ _ h => .inl h) (fun t k ht => ?_) (fun _ _ h => .inl h)
    rcases Map.lookup_insert_some.mp ht with ⟨rfl, rfl⟩ | ⟨_, ht⟩
    · exact .inr ⟨Nat.lt_succ_self _, hcontext⟩
    · exact .inl ht
  · rw [heq]
    obtain ⟨htrace, hcreated⟩ := @trace_grown b (b.unsent cfg context record deviceId payload)
      [.published b.nextPublishToken
        (deviceSetTopic cfg.topicNamespace deviceId context.commandType) payload record false]
      rfl rfl (by simp [Event.NotCreated])
    have hunsent : Wellformed (b.unsent cfg context record deviceId payload) := by
      refine h.update htrace hcreated rfl rfl (fun _ => rfl) le_rfl (Nat.le_succ _) rfl
        (fun _ _ h => .inl h) (fun t k ht => ?_) (fun _ _ h => .inl h)
      obtain ⟨hne, ht⟩ := Map.lookup_erase_some.mp ht
      exact .inl ((AList.lookup_insert_ne hne).symm.trans ht)
    obtain ⟨r, hr, _⟩ := hcontext
    have hsame := hr.unique hrecord
    subst hsame
    exact hunsent.form ((hr.mono htrace).withRecord
      (s := publishFailed record context.commandType now) ⟨rfl, rfl, rfl, rfl, rfl, rfl⟩
      rfl rfl rfl rfl) rfl rfl

/-! ### The worker -/

lemma notCreated_executionEvents {removed written : List CommandRecord} {confirmed : Bool} :
    ∀ e ∈ executionEvents removed written confirmed, e.NotCreated := by
  intro e he
  rcases mem_executionEvents.mp he with ⟨r, _, rfl⟩ | ⟨_, r, _, rfl⟩ | ⟨r, _, rfl⟩ <;> trivial

lemma workerTurn (h : Wellformed b) {event : WorkerEvent} (hevent : event.Admissible) :
    Wellformed (b.workerTurn event) := by
  have hpushed : ∀ result : CommandDatabaseResult, ∀ x ∈ b.pushed result,
      x ∈ b.databaseResults ∨ x = result := by
    intro result x hx
    unfold RuntimeBundle.pushed at hx
    split at hx
    · exact .inl hx
    · rcases List.mem_append.mp hx with hx | hx
      · exact .inl hx
      · exact .inr (List.mem_singleton.mp hx)
  -- moving the front of the queue to the end of the results keeps the pipeline
  have hpipe : ∀ (value : Except DatabaseError CommandDatabaseValue) (i : ℕ)
      (task : CommandDatabaseTask) (rest : List (ℕ × CommandDatabaseTask)),
      b.commands = (i, task) :: rest →
      ((b.pushed ⟨i, value⟩).map (·.operationId) ++ rest.map Prod.fst).Sublist (pipeline b) := by
    intro value i task rest hqueue
    unfold pipeline RuntimeBundle.pushed
    rw [hqueue]
    split
    · exact (List.Sublist.refl _).append (List.sublist_cons_self _ _)
    · simp
  rcases workerTurn_cases hevent with
    ⟨worker, hqueue, heq⟩ | ⟨i, task, rest, hqueue, ⟨worker, hrest, heq⟩ |
      ⟨worker, message, hrest, _, _, heq⟩ | ⟨worker, hsame, _, heq⟩⟩
  · rw [heq]
    have hsub : worker.commands.Sublist b.commands := by
      rcases hqueue with hq | ⟨hq, _⟩
      · rw [hq]
      · rw [hq]; exact List.nil_sublist _
    have hpipeline : (b.databaseResults.map (·.operationId) ++
        worker.commands.map Prod.fst).Sublist (pipeline b) :=
      (List.Sublist.refl _).append (hsub.map _)
    exact { h with
      sorted := h.sorted.sublist hpipeline
      pipeline_lt := fun j hj => h.pipeline_lt j (hpipeline.subset hj)
      queue := fun j t hmem => h.queue j t (hsub.subset hmem) }
  all_goals obtain ⟨operation, hop, hmatch⟩ := h.queue i task (by rw [hqueue]; simp)
  all_goals have hknown := known_execute (h.operations i operation hop) hmatch h.table
  · rw [heq]
    obtain ⟨htrace, hcreated⟩ := @trace_grown b
      { b with
        toPostgresWorker := worker
        table := (execute b.table task).table
        databaseResults := b.pushed ⟨i, (execute b.table task).value⟩
        log := executionEvents (execute b.table task).removed (execute b.table task).written
          true ++ b.log }
      _ rfl rfl notCreated_executionEvents
    have hsub := hpipe (execute b.table task).value i task rest hqueue
    rw [← hrest] at hsub
    exact
      { created := hcreated ▸ h.created
        sorted := h.sorted.sublist hsub
        pipeline_lt := fun j hj => h.pipeline_lt j (hsub.subset hj)
        operations_lt := h.operations_lt
        queue := fun j t hmem => h.queue j t (by
          rw [hqueue]
          exact List.mem_cons_of_mem _ (hrest ▸ hmem))
        results := fun result hmem => by
          rcases hpushed _ result hmem with hmem | rfl
          · exact h.results result hmem
          · exact ⟨operation, hop, answersTo_execute b.table hmatch⟩
        reports := fun result hmem r hr => by
          rcases hpushed _ result hmem with hmem | rfl
          · exact (h.reports result hmem r hr).mono htrace
          · exact (hknown.2.1 r hr).mono htrace
        operations := fun j op hj => (h.operations j op hj).mono htrace
        active := fun c k hc => (h.active c k hc).mono htrace
        publications_lt := h.publications_lt
        publications := fun t k ht => (h.publications t k ht).mono htrace
        deferred := fun c d hc => (h.deferred c d hc).mono htrace
        table := fun c r hr => (hknown.1 c r hr).mono htrace }
  · rw [heq]
    have hsub := hpipe (permanentError message) i task rest hqueue
    rw [← hrest] at hsub
    exact { h with
      sorted := h.sorted.sublist hsub
      pipeline_lt := fun j hj => h.pipeline_lt j (hsub.subset hj)
      queue := fun j t hmem => h.queue j t (by
        rw [hqueue]
        exact List.mem_cons_of_mem _ (hrest ▸ hmem))
      results := fun result hmem => by
        rcases hpushed _ result hmem with hmem | rfl
        · exact h.results result hmem
        · exact ⟨operation, hop, trivial⟩
      reports := fun result hmem r hr => by
        rcases hpushed _ result hmem with hmem | rfl
        · exact h.reports result hmem r hr
        · cases hr }
  · rw [heq]
    obtain ⟨htrace, hcreated⟩ := @trace_grown b
      { b with
        toPostgresWorker := worker
        table := (execute b.table task).table
        log := executionEvents (execute b.table task).removed (execute b.table task).written
          false ++ b.log }
      _ rfl rfl notCreated_executionEvents
    have hpipeline : pipeline
        { b with
          toPostgresWorker := worker
          table := (execute b.table task).table
          log := executionEvents (execute b.table task).removed (execute b.table task).written
            false ++ b.log } = pipeline b := by
      unfold pipeline
      rw [show _ = b.commands from hsame]
    exact
      { created := hcreated ▸ h.created
        sorted := hpipeline ▸ h.sorted
        pipeline_lt := fun j hj => h.pipeline_lt j (hpipeline ▸ hj)
        operations_lt := h.operations_lt
        queue := fun j t hmem => h.queue j t (hsame ▸ hmem)
        results := h.results
        reports := fun result hmem r hr => (h.reports result hmem r hr).mono htrace
        operations := fun j op hj => (h.operations j op hj).mono htrace
        active := fun c k hc => (h.active c k hc).mono htrace
        publications_lt := h.publications_lt
        publications := fun t k ht => (h.publications t k ht).mono htrace
        deferred := fun c d hc => (h.deferred c d hc).mono htrace
        table := fun c r hr => (hknown.1 c r hr).mono htrace }

/-! ### New commands -/

/-- A new command has the id, the key and the payload of its request, and it is
pending or already failed. -/
lemma newCommand_spec (answers : Answers) (b : RuntimeBundle) (context : RequestContext)
    (requestId : String) (payload : Json) :
    (b.newCommand answers context requestId payload).1.commandId = answers.uuid ∧
    (b.newCommand answers context requestId payload).1.commandType = context.commandType ∧
    (b.newCommand answers context requestId payload).1.sourceId = context.sourceId ∧
    (b.newCommand answers context requestId payload).1.requestId = requestId ∧
    (b.newCommand answers context requestId payload).1.requestPayload = payload ∧
    ((b.newCommand answers context requestId payload).1.status = .pending ∨
      (b.newCommand answers context requestId payload).1.status = .failed) := by
  rw [RuntimeBundle.newCommand]
  dsimp only
  repeat' split
  all_goals exact ⟨rfl, rfl, rfl, rfl, rfl, by simp⟩

/-- A request that was not found becomes a new command. -/
lemma create (h : Wellformed b) {answers : Answers} {operationId : ℕ} {operation : Operation}
    {rest : List CommandDatabaseResult} {requestId : String} {payload : Json}
    (hhead : b.databaseResults = ⟨operationId, .ok (.found none)⟩ :: rest)
    (hop : b.operations.lookup operationId = some operation) (hkind : operation.kind = .find)
    (hpayload : operation.context.parsed.comparisonPayload = some payload)
    (huuid : answers.uuid ∉ createdIds b.trace) :
    Wellformed ((((b.taken operationId rest).emit (.created operationId
        (b.newCommand answers operation.context requestId payload).1)).submit cfg .insert
      { operation.context with
        record := some (b.newCommand answers operation.context requestId payload).1
        target := (b.newCommand answers operation.context requestId payload).2 }
      (.insertCommand (b.newCommand answers operation.context requestId payload).1)).2) := by
  obtain ⟨hid, htype, hsource, _, hrequestPayload, _⟩ :=
    newCommand_spec answers b operation.context requestId payload
  generalize b.newCommand answers operation.context requestId payload = new at *
  obtain ⟨_, root, kind, hparsed, hroot⟩ : operation.context.record = none ∧
      ∃ root kind, operation.context.parsed =
        parseSourceJson operation.context.commandType root kind ∧
        operation.context.parsed.comparisonPayload = some root := by
    have hok := h.operations operationId operation hop
    unfold OperationOk at hok
    rw [hkind] at hok
    exact hok
  have htaken := h.taken hhead
  have hsub : ∀ e ∈ b.trace, e ∈ ((b.taken operationId rest).emit
      (.created operationId new.1)).trace := fun e he => List.mem_cons_of_mem _ he
  have hcreated : Wellformed ((b.taken operationId rest).emit (.created operationId new.1)) :=
    { created := by
        change (new.1.commandId :: createdIds b.trace).Nodup
        rw [List.nodup_cons, hid]
        exact ⟨huuid, h.created⟩
      sorted := htaken.sorted
      pipeline_lt := htaken.pipeline_lt
      operations_lt := htaken.operations_lt
      queue := htaken.queue
      results := htaken.results
      reports := fun result hmem r hr => (htaken.reports result hmem r hr).mono hsub
      operations := fun i op hi => (htaken.operations i op hi).mono hsub
      active := fun c k hc => (htaken.active c k hc).mono hsub
      publications_lt := htaken.publications_lt
      publications := fun t k ht => (htaken.publications t k ht).mono hsub
      deferred := fun c d hc => (htaken.deferred c d hc).mono hsub
      table := fun c r hr => (htaken.table c r hr).mono hsub }
  refine hcreated.submit ⟨new.1, ?_⟩ ⟨rfl, rfl⟩
  exact
    { record := rfl
      known := ⟨operationId, new.1, List.mem_cons_self, .refl _⟩
      commandType := htype.symm
      sourceId := hsource.symm
      parsed := ⟨kind, by
        rw [hpayload] at hroot
        cases hroot
        rw [htype, hrequestPayload]
        exact hparsed⟩ }

/-! ### Every tick -/

/-- The result at the head belongs to the operation it names. -/
lemma head_answers (h : Wellformed b) {operationId : ℕ} {operation : Operation}
    {value : Except DatabaseError CommandDatabaseValue} {rest : List CommandDatabaseResult}
    (hhead : b.databaseResults = ⟨operationId, value⟩ :: rest)
    (hop : b.operations.lookup operationId = some operation) : AnswersTo operation value := by
  obtain ⟨op, hfound, hanswer⟩ := h.results ⟨operationId, value⟩ (by rw [hhead]; simp)
  rw [hop] at hfound
  cases hfound
  exact hanswer

/-- The record reported at the head is a known one. -/
lemma head_known (h : Wellformed b) {operationId : ℕ}
    {value : Except DatabaseError CommandDatabaseValue} {rest : List CommandDatabaseResult}
    {r : CommandRecord} (hhead : b.databaseResults = ⟨operationId, value⟩ :: rest)
    (hr : reported value = some r) : Known b.trace r :=
  h.reports ⟨operationId, value⟩ (by rw [hhead]; simp) r hr

/-- The context of an operation that is about one command. -/
lemma operation_context (h : Wellformed b) {operationId : ℕ} {operation : Operation}
    (hop : b.operations.lookup operationId = some operation) {r : CommandRecord}
    (hr : operation.context.record = some r) : ContextOf b.trace operation.context r := by
  have hok := h.operations operationId operation hop
  unfold OperationOk at hok
  split at hok
  · rw [hok.1] at hr; cases hr
  · rw [hok] at hr; cases hr
  · obtain ⟨s, hs⟩ := hok
    have := hs.unique hr
    subst this
    exact hs

/-- A transition result is about the command of its operation. -/
lemma transition_result (h : Wellformed b) {operationId : ℕ} {operation : Operation}
    {rest : List CommandDatabaseResult} {record : CommandRecord}
    (hhead : b.databaseResults = ⟨operationId, .ok (.record record)⟩ :: rest)
    (hop : b.operations.lookup operationId = some operation)
    (hkind : operation.kind = .transition) :
    ∃ desired, ContextOf b.trace operation.context desired ∧ record.SameCommand desired ∧
      record.status = desired.status := by
  rcases h.head_answers hhead hop with ⟨hk, _⟩ | ⟨_, desired, hdesired, hid, hstatus⟩
  · rw [hkind] at hk; cases hk
  · have hcontext := h.operation_context hop hdesired
    exact ⟨desired, hcontext, (h.head_known hhead rfl).sameCommand h.created hcontext.known hid,
      hstatus⟩

/-- A convergence lookup is about the command of its operation. -/
lemma lookup_result (h : Wellformed b) {operationId : ℕ} {operation : Operation}
    {rest : List CommandDatabaseResult} {record : CommandRecord}
    (hhead : b.databaseResults = ⟨operationId, .ok (.found (some record))⟩ :: rest)
    (hop : b.operations.lookup operationId = some operation)
    (hkind : operation.kind = .findByIdForConvergence) :
    ∃ desired, ContextOf b.trace operation.context desired ∧ record.SameCommand desired := by
  rcases h.head_answers hhead hop with ⟨hk, _⟩ | ⟨_, desired, hdesired, hid⟩
  · rw [hkind] at hk; cases hk
  · have hcontext := h.operation_context hop hdesired
    exact ⟨desired, hcontext, (h.head_known hhead rfl).sameCommand h.created hcontext.known
      (hid record rfl)⟩

/-- An insertion that returns its own id is about the command of its operation. -/
lemma insert_result (h : Wellformed b) {operationId : ℕ} {operation : Operation}
    {rest : List CommandDatabaseResult} {record : CommandRecord}
    (hhead : b.databaseResults = ⟨operationId, .ok (.record record)⟩ :: rest)
    (hop : b.operations.lookup operationId = some operation) (hkind : operation.kind = .insert)
    (hown : ∀ own, operation.context.record = some own → own.commandId = record.commandId) :
    ∃ own, ContextOf b.trace operation.context own ∧ record.SameCommand own := by
  rcases h.head_answers hhead hop with ⟨_, own, hrecord, _⟩ | ⟨hk, _⟩
  · have hcontext := h.operation_context hop hrecord
    exact ⟨own, hcontext, (h.head_known hhead rfl).sameCommand h.created hcontext.known
      (hown own hrecord).symm⟩
  · rw [hkind] at hk; cases hk

/-- The maps of the running commands change; entries of active commands are old
ones or in order. -/
lemma setActive (h : Wellformed b) {active : Map String RequestContext}
    {early : Map String EarlyDeviceAck} {recovery : Finset String}
    (hactive : ∀ c context, active.lookup c = some context →
      b.activeCommands.lookup c = some context ∨ ActiveContext b.trace c context) :
    Wellformed { b with
      activeCommands := active, earlyDeviceAcks := early, recoveryStarted := recovery } :=
  h.update (fun _ he => he) rfl rfl rfl (fun _ => rfl) le_rfl le_rfl rfl hactive
    (fun _ _ h => .inl h) (fun _ _ h => .inl h)

/-- The transition a device ACK asks for. -/
lemma sameCommand_acknowledged (record : CommandRecord) (ack : DeviceAck) (type : CommandType)
    (now : TimePoint) : (acknowledged record ack type now).SameCommand record ∧
      (acknowledged record ack type now).status = ack.desired := by
  rw [acknowledged]
  dsimp only
  split
  · exact ⟨⟨rfl, rfl, rfl, rfl, rfl, rfl⟩, rfl⟩
  · split <;> exact ⟨⟨rfl, rfl, rfl, rfl, rfl, rfl⟩, rfl⟩

lemma sameCommand_publishCompleted (record : CommandRecord) (type : CommandType) (result : Bool)
    (now : TimePoint) : (publishCompleted record type result now).SameCommand record := by
  rw [publishCompleted]
  split
  · exact ⟨rfl, rfl, rfl, rfl, rfl, rfl⟩
  · split <;> exact ⟨rfl, rfl, rfl, rfl, rfl, rfl⟩

/-- **Every tick keeps the bookkeeping in order.** -/
theorem tick (h : Wellformed b) (htick : Tick cfg b b') : Wellformed b' := by
  cases htick with
  | quiet hcore => exact h.sameCore hcore
  | worker hevent => exact h.workerTurn hevent
  | @mqtt available =>
      have hemit : Wellformed (b.emit (.mqttAvailable available)) := h.emit trivial
      exact hemit.update (fun _ he => he) rfl rfl rfl (fun _ => rfl) le_rfl le_rfl rfl
        (fun _ _ h => .inl h) (fun _ _ h => .inl h) (fun _ _ h => .inl h)
  | @device devices record cleared _ =>
      have hemit : Wellformed (b.emit (.deviceUpdated record.deviceId
        (b.devices.isOnline record.deviceId) (devices.isOnline record.deviceId) cleared)) :=
        h.emit trivial
      exact hemit.update (fun _ he => he) rfl rfl rfl (fun _ => rfl) le_rfl le_rfl rfl
        (fun _ _ h => .inl h) (fun _ _ h => .inl h) (fun _ _ h => .inl h)
  | @find context requestId source json hrecord hsource hparsed hrequest =>
      refine h.submit ⟨hrecord, ?_⟩ ⟨rfl, rfl, hrequest⟩
      cases json with
      | none =>
          rw [hparsed] at hrequest
          cases hrequest
      | some root =>
          refine ⟨root, source.kind, hparsed, ?_⟩
          change context.parsed.comparisonPayload = some root
          rw [hparsed] at hrequest ⊢
          exact (parseSourceJson_spec context.commandType root source.kind).1 (by
            rw [show (parseSourceJson context.commandType root source.kind).requestId =
              some requestId from hrequest]; rfl)
  | cleanup hrecord => exact h.submit hrecord rfl
  | @consumed operationId value rest events hhead hconsumed =>
      have hevents : ∀ e ∈ events, e.NotCreated := by
        cases hconsumed <;> simp [Event.NotCreated]
      obtain ⟨htrace, hcreated⟩ := @trace_grown (b.taken operationId rest)
        { b.taken operationId rest with log := events ++ b.log } events rfl rfl hevents
      exact (h.taken hhead).update htrace hcreated rfl rfl (fun _ => rfl) le_rfl le_rfl rfl
        (fun _ _ h => .inl h) (fun _ _ h => .inl h) (fun _ _ h => .inl h)
  | create hhead hop hkind _ hpayload huuid => exact h.create hhead hop hkind hpayload huuid
  | conflict hhead hop _ _ hdesired =>
      have hcontext := h.operation_context hop hdesired
      exact (h.taken hhead).submit ⟨_, hcontext⟩ ⟨rfl, _, hdesired, rfl⟩
  | @activate answers operationId operation rest record now hhead hop hkind hown hterm =>
      obtain ⟨own, hcontext, hsame⟩ := h.insert_result hhead hop hkind hown
      have hnew : ContextOf b.trace { operation.context with record := some record } record :=
        hcontext.withRecord hsame rfl rfl rfl rfl
      refine Wellformed.publish ?_ ⟨record, hnew, hterm⟩
      refine (h.taken hhead).update (fun _ he => he) rfl rfl rfl (fun _ => rfl) le_rfl le_rfl rfl
        (fun c context hc => ?_) (fun _ _ h => .inl h) (fun _ _ h => .inl h)
      rcases Map.lookup_insert_some.mp hc with ⟨rfl, rfl⟩ | ⟨_, hc⟩
      · exact .inr ⟨record, hnew, hterm, rfl⟩
      · exact .inl hc
  | @refresh operationId operation rest record context now hhead hop hkind hterm hrecord hparsed
      htype hsource _ _ =>
      obtain ⟨desired, hcontext, hsame, _⟩ := h.transition_result hhead hop hkind
      have hnew : ContextOf b.trace context record :=
        hcontext.withRecord hsame hrecord htype hsource hparsed
      have hactive : Wellformed { b.taken operationId rest with
          activeCommands := b.activeCommands.insert record.commandId context
          earlyDeviceAcks :=
            if record.status = .dispatched then b.earlyDeviceAcks.erase record.commandId
            else b.earlyDeviceAcks } := by
        refine (h.taken hhead).setActive fun c k hc => ?_
        rcases Map.lookup_insert_some.mp hc with ⟨rfl, rfl⟩ | ⟨_, hc⟩
        · exact .inr ⟨record, hnew, hterm, rfl⟩
        · exact .inl hc
      exact hactive.emit trivial
  | @settle operationId operation rest current desired hhead hop hkind hdesired hterm _ =>
      obtain ⟨desired', hcontext, hsame⟩ := h.lookup_result hhead hop hkind
      have hnew : ContextOf b.trace { operation.context with
          record := some current, target := b.targetFor current } current :=
        hcontext.withRecord hsame rfl rfl rfl rfl
      refine (h.taken hhead).setActive fun c k hc => ?_
      rcases Map.lookup_insert_some.mp hc with ⟨rfl, rfl⟩ | ⟨_, hc⟩
      · exact .inr ⟨current, hnew, hterm, rfl⟩
      · exact .inl hc
  | @converge operationId operation rest current desired target update commandId hdesired hwhich
      hop _ _ _ _ _ _ _ =>
      have hcontext := h.operation_context hop hdesired
      have hnew : ContextOf b.trace { operation.context with target := target } desired :=
        hcontext.withRecord (.refl desired) hdesired rfl rfl rfl
      rcases hwhich with ⟨hhead, hkind, _, _, rfl⟩ | ⟨hhead, _, _, _, rfl⟩
      · obtain ⟨desired', hcontext', hsame⟩ := h.lookup_result hhead hop hkind
        have := hcontext'.unique hdesired
        subst this
        exact (h.taken hhead).form hnew hsame.commandId.symm rfl
      · exact (h.taken hhead).form hnew rfl rfl
  | @finish operationId operation rest record value context now hhead hop _ hterm _ _ _ =>
      have hactive : Wellformed { b.taken operationId rest with
          activeCommands := b.activeCommands.erase record.commandId
          recoveryStarted := b.recoveryStarted.erase record.commandId
          earlyDeviceAcks := b.earlyDeviceAcks.erase record.commandId } :=
        (h.taken hhead).setActive fun c k hc => .inl (Map.lookup_erase_some.mp hc).2
      exact hactive.emit trivial
  | finished hhead hop _ _ _ _ =>
      exact (h.taken hhead).setActive fun c k hc => .inl (Map.lookup_erase_some.mp hc).2
  | @deviceAck context record ack deviceId payload type now _ hactive hrecord _ _ _ _ =>
      obtain ⟨r, hcontext, _, _⟩ := h.active _ context hactive
      have := hcontext.unique hrecord
      subst this
      obtain ⟨hsame, hstatus⟩ := sameCommand_acknowledged record ack type now
      have hemit : Wellformed (b.emit (.deviceAcked deviceId type ack (some record.status))) :=
        h.emit trivial
      exact hemit.form ((hcontext.mono fun e he => List.mem_cons_of_mem _ he).withRecord hsame rfl
        rfl rfl rfl) rfl hstatus
  | @buffer context record ack deviceId payload type now _ _ _ _ _ _ _ =>
      have hemit : Wellformed (b.emit (.deviceAcked deviceId type ack (some record.status))) :=
        h.emit trivial
      rcases bufferEarlyAck_cases cfg (b.emit (.deviceAcked deviceId type ack
        (some record.status))) type ack ⟨deviceId, payload, now⟩ with
        ⟨kept, _, heq⟩ | ⟨message, heq⟩
      · rw [heq]
        exact hemit.setActive fun _ _ hc => .inl hc
      · rw [heq]
        exact hemit.sameCore (@SameCore.diagnose cfg _ message)
  | @timeout commandId context record now hactive hrecord _ _ =>
      obtain ⟨r, hcontext, _, hid⟩ := h.active _ context hactive
      have := hcontext.unique hrecord
      subst this
      have hmarked : Wellformed { b with
          recoveryStarted := insert commandId b.recoveryStarted } :=
        h.setActive fun _ _ hc => .inl hc
      have hnew : ContextOf b.trace
          { context with record := some (timedOut record context.commandType now) }
          (timedOut record context.commandType now) :=
        hcontext.withRecord ⟨rfl, rfl, rfl, rfl, rfl, rfl⟩ rfl rfl rfl rfl
      exact hmarked.form hnew hid rfl
  | republish hactive hrecord _ _ _ _ =>
      exact Wellformed.publish (h.setActive fun _ _ hc => .inl hc) (h.active _ _ hactive).isOpen
  | @complete completion context now hfound =>
      have herase : Wellformed { b with publications := b.publications.erase completion.token } :=
        h.update (fun _ he => he) rfl rfl rfl (fun _ => rfl) le_rfl le_rfl rfl
          (fun _ _ h => .inl h) (fun t k ht => .inl (Map.lookup_erase_some.mp ht).2)
          (fun _ _ h => .inl h)
      rcases handleCompletion_cases cfg now hfound with
        ⟨_, heq⟩ | ⟨record, hrecord, ⟨_, _, heq⟩ | ⟨_, heq⟩⟩
      · rw [heq]; exact herase
      · rw [heq]; exact herase.emit trivial
      · rw [heq]
        obtain ⟨r, hcontext, _⟩ := h.publications _ context hfound
        have := hcontext.unique hrecord
        subst this
        have htaken : Wellformed (b.completionTaken completion.token record completion.result) :=
          herase.emit trivial
        refine htaken.form ((hcontext.mono fun e he => List.mem_cons_of_mem _ he).withRecord
          (sameCommand_publishCompleted record context.commandType completion.result now)
          rfl rfl rfl rfl) ?_ rfl
        exact (sameCommand_publishCompleted record context.commandType completion.result
          now).commandId
  | retry hfound => exact h.retry hfound

lemma restarted (h : Wellformed b) (hrestart : Restarted cfg b b') : Wellformed b' := by
  obtain ⟨written, hrecovery, hpast⟩ := hrestart.recovery
  have htrace : b'.trace = (b'.log ++ written.map .committed) ++ b.trace := by
    simp only [RuntimeBundle.trace] at hpast ⊢
    rw [hpast, List.append_assoc]
  have hsub : ∀ e ∈ b.trace, e ∈ b'.trace := fun e he => by
    rw [htrace]; exact List.mem_append_right _ he
  have hnew : ∀ e ∈ b'.log ++ written.map Event.committed, e.NotCreated := by
    intro e he
    rcases List.mem_append.mp he with he | he
    · rcases hrestart.log e he with rfl | ⟨message, rfl⟩ <;> trivial
    · obtain ⟨r, _, rfl⟩ := List.mem_map.mp he
      trivial
  have hrows : ∀ c r, b'.table.findCommandById c = some r → Known b'.trace r := by
    intro c r hr
    rcases hrecovery.rows c r hr with hr | hr
    · exact (h.table c r hr).mono hsub
    · obtain ⟨_, _, _, s, hs, _, hsame⟩ := hrecovery.uncertain r hr
      exact ((h.table _ s hs).same hsame).mono hsub
  have hpipe : pipeline b' = [] := by
    simp only [pipeline]
    rw [hrestart.commands, hrestart.databaseResults]
    rfl
  exact
    { created := by
        rw [htrace, createdIds_append, createdIds_of_notCreated hnew]
        exact h.created
      sorted := by rw [hpipe]; exact List.Pairwise.nil
      pipeline_lt := fun i hi => by rw [hpipe] at hi; cases hi
      operations_lt := fun i op hi => by rw [hrestart.operations] at hi; cases hi
      queue := fun i task hi => by rw [hrestart.commands] at hi; cases hi
      results := fun r hr => by rw [hrestart.databaseResults] at hr; cases hr
      reports := fun r hr => by rw [hrestart.databaseResults] at hr; cases hr
      operations := fun i op hi => by rw [hrestart.operations] at hi; cases hi
      active := fun c context hc => by
        obtain ⟨record, source, hid, htype, hterm, hrow, rfl⟩ :=
          hrestart.activeCommands c context hc
        exact ⟨record, ⟨rfl, hrows c record hrow, rfl, rfl, source.kind, rfl⟩, hterm, hid⟩
      publications_lt := fun t k ht => by rw [hrestart.publications] at ht; cases ht
      publications := fun t k ht => by rw [hrestart.publications] at ht; cases ht
      deferred := fun c d hc => by rw [hrestart.deferredTransitions] at hc; cases hc
      table := hrows }

lemma blank : Wellformed .blank where
  created := List.nodup_nil
  sorted := List.Pairwise.nil
  pipeline_lt := fun i hi => by cases hi
  operations_lt := fun i op hi => by cases hi
  queue := fun i task hi => by cases hi
  results := fun r hr => by cases hr
  reports := fun r hr => by cases hr
  operations := fun i op hi => by cases hi
  active := fun c k hc => by cases hc
  publications_lt := fun t k ht => by cases ht
  publications := fun t k ht => by cases ht
  deferred := fun c d hc => by cases hc
  table := fun c r hr => by cases hr

lemma ticks {cfg : CommandServiceConfig} {b b' : RuntimeBundle} (h : Wellformed b)
    (hticks : Ticks cfg b b') : Wellformed b' := by
  induction hticks with
  | refl => exact h
  | tail _ hlast ih => exact ih.tick hlast

end Wellformed

/-- **The bookkeeping is in order in every reachable state.** -/
theorem wellformed_of_reachable {cfg : CommandServiceConfig} {b : RuntimeBundle}
    (hb : (routeService cfg).Reachable b) : Wellformed b :=
  reachable_of_ticks .blank (fun _ _ h hrestart => h.restarted hrestart)
    (fun _ _ h htick => h.tick htick) hb

end CnsServer
