/-
Where transitions and rows come from.

A transition is asked for by a refused publication, a publish completion, a
device ACK or a passed deadline (`Cause`), on the version of the row that the
service remembers.  It is submitted as it was formed, or once more after a
conflict, for a status the row has reached since (`Asked`).  Every version of a
row is a new command, a recovered control command, or the outcome of such a
transition on the version before it (`RowOrigin`).

* `Desire`: a record some cause asks for;
* `Provenance`: everything under way is asked for, and every row has an origin;
* `Traced`, `traced_of_reachable`: all of it, in every reachable state.
-/
import CnsServer.Invariants.AckOrigins

namespace CnsServer

open RuntimeBundle CommandStatus

/-! ### The order of statuses -/

/-- The second status comes strictly after the first. -/
def CommandStatus.StatusLt (s t : CommandStatus) : Prop := StatusLe s t ∧ s ≠ t

lemma CommandStatus.StatusLt.trans_le {s t u : CommandStatus} (hst : StatusLt s t)
    (htu : StatusLe t u) : StatusLt s u := by
  refine ⟨hst.1.trans htu, fun hsu => hst.2 ?_⟩
  exact hst.1.antisymm (hsu ▸ htu)

lemma CommandStatus.StatusLe.trans_ne {s t u : CommandStatus} (hst : StatusLe s t)
    (htu : StatusLt t u) : StatusLt s u := by
  refine ⟨hst.trans htu.1, fun hsu => htu.2 ?_⟩
  exact htu.1.antisymm (hsu ▸ hst)

/-- Nothing comes before `pending`. -/
lemma eq_pending_of_le {s : CommandStatus} (h : StatusLe s .pending) : s = .pending := by
  have hrank := h.rank_le
  cases s <;> first | rfl | cases hrank

/-! ### Causes -/

/-- The transition of a device ACK. -/
def ackTask (m : CommandRecord) (ack : DeviceAck) (type : CommandType) (now : TimePoint) :
    TransitionCommandTask :=
  ⟨m.commandId, m.status, ack.desired,
    { errorCode := (acknowledged m ack type now).errorCode
      errorMessage := (acknowledged m ack type now).errorMessage
      deviceAck := (acknowledged m ack type now).deviceAck
      dispatchedAt := none
      completedAt := (acknowledged m ack type now).completedAt
      updatedAt := now }⟩

lemma applyDeviceAck_eq (cfg : CommandServiceConfig) (b : RuntimeBundle) (context : RequestContext)
    (m : CommandRecord) (ack : DeviceAck) (type : CommandType) (now : TimePoint) :
    b.applyDeviceAck cfg context m ack type now =
      b.submitTransitionOrDefer cfg
        { context with
          record := some (acknowledged m ack type now)
          deadline := if ack.desired = .inProgress then now + cfg.controlTimeout
            else context.deadline
          deviceAckBusinessStatus := some ack.businessStatus }
        (ackTask m ack type now) := by
  unfold applyDeviceAck ackTask
  dsimp only
  rw [(Wellformed.sameCommand_acknowledged m ack type now).1.commandId]

/-- The transition of a passed deadline. -/
def timeoutTask (m : CommandRecord) (type : CommandType) (now : TimePoint) :
    TransitionCommandTask :=
  ⟨m.commandId, m.status, .timeout,
    { errorCode := (timedOut m type now).errorCode
      errorMessage := (timedOut m type now).errorMessage
      deviceAck := none
      dispatchedAt := m.dispatchedAt
      completedAt := some now
      updatedAt := now }⟩

/-- The transition that a conflict leads to, from the status found. -/
def againTask (current desired : CommandRecord) : TransitionCommandTask :=
  ⟨current.commandId, current.status, desired.status,
    { errorCode := desired.errorCode
      errorMessage := desired.errorMessage
      deviceAck := desired.deviceAck
      dispatchedAt := desired.dispatchedAt
      completedAt := desired.completedAt
      updatedAt := desired.updatedAt }⟩

/-- What asks for a transition. -/
inductive Cause where
  | refused (now : TimePoint)
  | completed (result : Bool) (now : TimePoint)
  | acknowledged (ack : DeviceAck) (now : TimePoint)
  | expired (now : TimePoint)

namespace Cause

/-- The record it asks for, from the remembered one. -/
def desired (m : CommandRecord) : Cause → CommandRecord
  | .refused now => publishFailed m m.commandType now
  | .completed result now => publishCompleted m m.commandType result now
  | .acknowledged ack now => RuntimeBundle.acknowledged m ack m.commandType now
  | .expired now => timedOut m m.commandType now

/-- The transition it forms. -/
def task (m : CommandRecord) : Cause → TransitionCommandTask
  | .refused now => failTask m m.commandType now
  | .completed result now => completeTask m m.commandType result now
  | .acknowledged ack now => ackTask m ack m.commandType now
  | .expired now => timeoutTask m m.commandType now

/-- What the trace holds of it. -/
def Evidence (events : List Event) (m : CommandRecord) : Cause → Prop
  | .refused _ => ∃ token topic payload, .published token topic payload m false ∈ events
  | .completed result _ => .completed m result ∈ events ∧
      ¬ (result = true ∧ m.status = .dispatched)
  | .acknowledged ack _ => ∃ deviceId json,
      .deviceAcked deviceId m.commandType ack (some m.status) ∈ events ∧
        m.targetDeviceId = some deviceId ∧ ack.commandId = m.commandId ∧
        (m.status = .dispatched ∨ m.status = .inProgress) ∧
        parseDeviceAck m.commandType json = some ack
  | .expired _ => True

lemma Evidence.mono {events events' : List Event} {m : CommandRecord} {cause : Cause}
    (h : cause.Evidence events m) (hsub : ∀ e ∈ events, e ∈ events') :
    cause.Evidence events' m := by
  cases cause with
  | refused now =>
      obtain ⟨token, topic, payload, hmem⟩ := h
      exact ⟨token, topic, payload, hsub _ hmem⟩
  | completed result now => exact ⟨hsub _ h.1, h.2⟩
  | acknowledged ack now =>
      obtain ⟨deviceId, json, hmem, hrest⟩ := h
      exact ⟨deviceId, json, hsub _ hmem, hrest⟩
  | expired now => trivial

lemma sameCommand_desired (m : CommandRecord) (cause : Cause) :
    (cause.desired m).SameCommand m := by
  cases cause with
  | refused now => exact ⟨rfl, rfl, rfl, rfl, rfl, rfl⟩
  | completed result now => exact Wellformed.sameCommand_publishCompleted m _ result now
  | acknowledged ack now => exact (Wellformed.sameCommand_acknowledged m ack _ now).1
  | expired now => exact ⟨rfl, rfl, rfl, rfl, rfl, rfl⟩

lemma task_desired (m : CommandRecord) (cause : Cause) :
    (cause.task m).desired = (cause.desired m).status := by
  cases cause with
  | acknowledged ack now => exact (Wellformed.sameCommand_acknowledged m ack _ now).2.symm
  | _ => rfl

lemma task_commandId (m : CommandRecord) (cause : Cause) :
    (cause.task m).commandId = m.commandId := by
  cases cause <;> rfl

lemma task_expected (m : CommandRecord) (cause : Cause) :
    (cause.task m).expected = m.status := by
  cases cause <;> rfl

end Cause

/-! ### Desires and origins -/

/-- The cause asks for the record `d` on the version `m` of the row, and has
formed its transition. -/
structure Desire (events : List Event) (m : CommandRecord) (cause : Cause) (d : CommandRecord) :
    Prop where
  row : m ∈ committedRows events
  isOpen : m.status.isTerminal = false
  evidence : cause.Evidence events m
  formed : ∃ replaced, .formed (cause.task m) replaced ∈ events
  record : d = cause.desired m

/-- The transition is the one that was formed for the desire, or the one that
follows a conflict: the row has left the remembered status. -/
def Asked (events : List Event) (d : CommandRecord) (task : TransitionCommandTask) : Prop :=
  ∃ m cause, Desire events m cause d ∧ (task = cause.task m ∨
    ∃ current ∈ committedRows events, current.commandId = m.commandId ∧
      current.status.isTerminal = false ∧ StatusLt m.status current.status ∧
      current.status.canTransition d.status = true ∧ task = againTask current d)

/-- The row is gone, or has left the status that the desire was formed on. -/
def Overtaken (b : RuntimeBundle) (d : CommandRecord) : Prop :=
  ∃ m cause, Desire b.trace m cause d ∧
    ∀ row, b.table.findCommandById d.commandId = some row → StatusLt m.status row.status

/-- A version of a row whose status no other version has passed. -/
structure Latest (events : List Event) (row : CommandRecord) : Prop where
  committed : row ∈ committedRows events
  last : ∀ r ∈ committedRows events, r.commandId = row.commandId → StatusLe r.status row.status

/-- Where the row that a task of the service writes comes from. -/
inductive TaskOrigin (events : List Event) : CommandRecord → Prop
  | inserted {i : ℕ} {command : CommandRecord} : .created i command ∈ events →
      (∀ r ∈ committedRows events, r.commandId ≠ command.commandId) →
      TaskOrigin events command.stored
  | moved {row d : CommandRecord} {task : TransitionCommandTask} : Latest events row →
      row.commandId = task.commandId → row.status = task.expected →
      row.status.canTransition task.desired = true → Asked events d task →
      TaskOrigin events (row.transitioned task.desired task.update)

/-- Where a version of a row comes from. -/
inductive RowOrigin (events : List Event) : CommandRecord → Prop
  | written {r : CommandRecord} : TaskOrigin events r → RowOrigin events r
  | recovered {row : CommandRecord} {now : TimePoint} : Latest events row →
      row.commandType = .control → row.status.isTerminal = false →
      RowOrigin events (row.recovered now)

lemma committedRows_mono {events events' : List Event} (hsub : ∀ e ∈ events, e ∈ events')
    {r : CommandRecord} (h : r ∈ committedRows events) : r ∈ committedRows events' :=
  mem_committedRows.mpr (hsub _ (mem_committedRows.mp h))

lemma Desire.mono {events events' : List Event} {m d : CommandRecord} {cause : Cause}
    (h : Desire events m cause d) (hsub : ∀ e ∈ events, e ∈ events') :
    Desire events' m cause d where
  row := committedRows_mono hsub h.row
  isOpen := h.isOpen
  evidence := h.evidence.mono hsub
  formed := by
    obtain ⟨replaced, hmem⟩ := h.formed
    exact ⟨replaced, hsub _ hmem⟩
  record := h.record

lemma Desire.commandId {events : List Event} {m d : CommandRecord} {cause : Cause}
    (h : Desire events m cause d) : d.commandId = m.commandId := by
  rw [h.record]
  exact (Cause.sameCommand_desired m cause).commandId

lemma Asked.mono {events events' : List Event} {d : CommandRecord} {task : TransitionCommandTask}
    (h : Asked events d task) (hsub : ∀ e ∈ events, e ∈ events') : Asked events' d task := by
  obtain ⟨m, cause, hdesire, htask⟩ := h
  refine ⟨m, cause, hdesire.mono hsub, htask.imp id ?_⟩
  rintro ⟨current, hcurrent, hrest⟩
  exact ⟨current, committedRows_mono hsub hcurrent, hrest⟩

lemma Asked.commandId {events : List Event} {d : CommandRecord} {task : TransitionCommandTask}
    (h : Asked events d task) : task.commandId = d.commandId := by
  obtain ⟨m, cause, hdesire, rfl | ⟨current, _, hid, _, _, _, rfl⟩⟩ := h
  · rw [Cause.task_commandId, hdesire.commandId]
  · exact hid.trans hdesire.commandId.symm

/-- Every version of a row in the trace has an origin in the trace before it. -/
def RowsHaveOrigin (events : List Event) : Prop :=
  ∀ l₁ r l₂, events = l₁ ++ .committed r :: l₂ → RowOrigin l₂ r

lemma RowsHaveOrigin.append {es events : List Event} (h : RowsHaveOrigin events)
    (hes : ∀ r, .committed r ∉ es) : RowsHaveOrigin (es ++ events) := by
  intro l₁ r l₂ hsplit
  rcases List.append_eq_append_iff.mp hsplit with ⟨l, _, hold⟩ | ⟨l, hnew, hrest⟩
  · exact h l r l₂ hold
  · cases l with
    | nil => exact h [] r l₂ hrest.symm
    | cons e l =>
        obtain ⟨rfl, _⟩ := List.cons.inj hrest
        exact absurd (by rw [hnew]; simp) (hes r)

lemma RowsHaveOrigin.cons {events : List Event} {r : CommandRecord} (h : RowsHaveOrigin events)
    (hr : RowOrigin events r) : RowsHaveOrigin (.committed r :: events) := by
  intro l₁ s l₂ hsplit
  cases l₁ with
  | nil =>
      obtain ⟨hhead, htail⟩ := List.cons.inj hsplit
      cases hhead
      exact htail ▸ hr
  | cons e l₁ => exact h l₁ s l₂ (List.cons.inj hsplit).2

/-- What holds of a version of a row and each one before it, by its origin. -/
lemma RowsHaveOrigin.pairwise {R : CommandRecord → CommandRecord → Prop} {events : List Event}
    (h : RowsHaveOrigin events)
    (hrow : ∀ l r, l ⊆ events → RowOrigin l r → ∀ s ∈ committedRows l, R r s) :
    (committedRows events).Pairwise R := by
  induction events with
  | nil => exact .nil
  | cons e l ih =>
      have hl := ih (fun l₁ r l₂ hsplit => h (e :: l₁) r l₂ (by rw [hsplit]; rfl))
        fun l' r hsub => hrow l' r (List.subset_cons_of_subset e hsub)
      cases e with
      | committed r =>
          exact .cons (hrow l r (List.subset_cons_self _ l) (h [] r l rfl)) hl
      | _ => exact hl

/-- **Induction over the rows of a trace**: each version by its origin and the
versions before it. -/
lemma RowsHaveOrigin.forall_versions {Q : CommandRecord → Prop} {events : List Event}
    (h : RowsHaveOrigin events)
    (hrow : ∀ l₁ r l₂, events = l₁ ++ .committed r :: l₂ → RowOrigin l₂ r →
      (∀ s ∈ committedRows l₂, Q s) → Q r) :
    ∀ r ∈ committedRows events, Q r := by
  induction events with
  | nil => intro r hr; cases hr
  | cons e l ih =>
      have hl := ih (fun l₁ r l₂ hsplit => h (e :: l₁) r l₂ (by rw [hsplit]; rfl))
        fun l₁ r l₂ hsplit => hrow (e :: l₁) r l₂ (by rw [hsplit]; rfl)
      intro r hr
      rcases List.mem_cons.mp (mem_committedRows.mp hr) with rfl | hold
      · exact hrow [] r l rfl (h [] r l rfl) hl
      · exact hl r (mem_committedRows.mpr hold)

/-- The same, where the place of the version does not matter. -/
lemma RowsHaveOrigin.forall_rows {Q : CommandRecord → Prop} {events : List Event}
    (h : RowsHaveOrigin events)
    (hrow : ∀ l r, l ⊆ events → RowOrigin l r → (∀ s ∈ committedRows l, Q s) → Q r) :
    ∀ r ∈ committedRows events, Q r := by
  refine h.forall_versions fun l₁ r l₂ hsplit => hrow l₂ r ?_
  rw [hsplit]
  exact List.subset_append_of_subset_right l₁ (List.subset_cons_self _ l₂)

/-! ### The invariant -/

/-- Everything under way was asked for, and every row has an origin. -/
structure Provenance (b : RuntimeBundle) : Prop where
  active : ∀ c context r, b.activeCommands.lookup c = some context →
    context.record = some r → r ∈ committedRows b.trace
  publications : ∀ t context r, b.publications.lookup t = some context →
    context.record = some r → r ∈ committedRows b.trace
  insertions : ∀ i command, (i, .insertCommand command) ∈ b.commands →
    ∃ j, .created j command ∈ b.trace
  queue : ∀ i (task : TransitionCommandTask) operation d, (i, task.toTask) ∈ b.commands →
    b.operations.lookup i = some operation → operation.context.record = some d →
      Asked b.trace d task
  transitions : ∀ i operation d, b.operations.lookup i = some operation →
    operation.kind = .transition → operation.context.record = some d →
      ∃ m cause, Desire b.trace m cause d
  deferred : ∀ c deferred d, b.deferredTransitions.lookup c = some deferred →
    deferred.context.record = some d → Asked b.trace d deferred.task
  conflicts : ∀ i error operation d, ⟨i, .error error⟩ ∈ b.databaseResults →
    isStateChangedError error.message = true → b.operations.lookup i = some operation →
    operation.kind = .transition → operation.context.record = some d → Overtaken b d
  lookups : ∀ i operation d, b.operations.lookup i = some operation →
    operation.kind = .findByIdForConvergence → operation.context.record = some d →
      Overtaken b d
  found : ∀ i current operation d, ⟨i, .ok (.found (some current))⟩ ∈ b.databaseResults →
    b.operations.lookup i = some operation → operation.kind = .findByIdForConvergence →
    operation.context.record = some d →
      ∃ m cause, Desire b.trace m cause d ∧ StatusLt m.status current.status
  rows : RowsHaveOrigin b.trace

namespace Provenance

variable {cfg : CommandServiceConfig} {b b' : RuntimeBundle}

/-! ### Changes of the service -/

/-- The trace has grown by events of the service. -/
structure Extends (b b' : RuntimeBundle) : Prop where
  table : b'.table = b.table
  trace : ∃ es, b'.trace = es ++ b.trace ∧ ∀ e ∈ es, e.IsService

lemma Extends.mem (h : Extends b b') : ∀ e ∈ b.trace, e ∈ b'.trace := by
  obtain ⟨es, htrace, _⟩ := h.trace
  rw [htrace]
  exact fun e he => List.mem_append_right _ he

lemma Extends.log (es : List Event) (htable : b'.table = b.table) (hpast : b'.past = b.past)
    (hlog : b'.log = es ++ b.log) (hes : ∀ e ∈ es, e.IsService) : Extends b b' := by
  refine ⟨htable, es, ?_, hes⟩
  simp only [RuntimeBundle.trace]
  rw [hlog, hpast, List.append_assoc]

lemma Extends.same (htable : b'.table = b.table) (hpast : b'.past = b.past)
    (hlog : b'.log = b.log) : Extends b b' :=
  .log [] htable hpast hlog (by simp)

lemma Extends.emit (b : RuntimeBundle) {event : Event} (hevent : event.IsService) :
    Extends b (b.emit event) :=
  .log [event] rfl rfl rfl (by simpa using hevent)

lemma overtaken_extends {d : CommandRecord} (h : Overtaken b d) (hext : Extends b b') :
    Overtaken b' d := by
  obtain ⟨m, cause, hdesire, hrow⟩ := h
  refine ⟨m, cause, hdesire.mono hext.mem, fun row hrow' => hrow row ?_⟩
  rw [← hext.table]
  exact hrow'

/-- The service writes no rows. -/
lemma rows_extends (h : Provenance b) (hext : Extends b b') : RowsHaveOrigin b'.trace := by
  obtain ⟨es, htrace, hes⟩ := hext.trace
  rw [htrace]
  exact RowsHaveOrigin.append h.rows fun r hr => hes _ hr

/-- A change that queues nothing and starts no operation. -/
lemma update (h : Provenance b) (hext : Extends b b')
    (hactive : ∀ c context r, b'.activeCommands.lookup c = some context →
      context.record = some r →
        b.activeCommands.lookup c = some context ∨ r ∈ committedRows b.trace)
    (hpublications : ∀ t context r, b'.publications.lookup t = some context →
      context.record = some r →
        b.publications.lookup t = some context ∨ r ∈ committedRows b.trace)
    (hqueue : b'.commands ⊆ b.commands) (hresults : b'.databaseResults ⊆ b.databaseResults)
    (hops : ∀ i operation, b'.operations.lookup i = some operation →
      b.operations.lookup i = some operation)
    (hdeferred : ∀ c deferred d, b'.deferredTransitions.lookup c = some deferred →
      deferred.context.record = some d →
        b.deferredTransitions.lookup c = some deferred ∨ Asked b'.trace d deferred.task) :
    Provenance b' where
  active c context r hc hr := by
    refine committedRows_mono hext.mem ?_
    rcases hactive c context r hc hr with hc | hrow
    · exact h.active c context r hc hr
    · exact hrow
  publications t context r ht hr := by
    refine committedRows_mono hext.mem ?_
    rcases hpublications t context r ht hr with ht | hrow
    · exact h.publications t context r ht hr
    · exact hrow
  insertions i command hmem := by
    obtain ⟨j, hj⟩ := h.insertions i command (hqueue hmem)
    exact ⟨j, hext.mem _ hj⟩
  queue i task operation d hmem hop hd :=
    (h.queue i task operation d (hqueue hmem) (hops i operation hop) hd).mono hext.mem
  transitions i operation d hop hkind hd := by
    obtain ⟨m, cause, hdesire⟩ := h.transitions i operation d (hops i operation hop) hkind hd
    exact ⟨m, cause, hdesire.mono hext.mem⟩
  deferred c deferred d hc hd := by
    rcases hdeferred c deferred d hc hd with hc | hasked
    · exact (h.deferred c deferred d hc hd).mono hext.mem
    · exact hasked
  conflicts i error operation d hmem hchanged hop hkind hd :=
    overtaken_extends (h.conflicts i error operation d (hresults hmem) hchanged
      (hops i operation hop) hkind hd) hext
  lookups i operation d hop hkind hd :=
    overtaken_extends (h.lookups i operation d (hops i operation hop) hkind hd) hext
  found i current operation d hmem hop hkind hd := by
    obtain ⟨m, cause, hdesire, hlt⟩ :=
      h.found i current operation d (hresults hmem) (hops i operation hop) hkind hd
    exact ⟨m, cause, hdesire.mono hext.mem, hlt⟩
  rows := h.rows_extends hext

/-- The trace grows, and the maps stay as they are. -/
lemma grown (h : Provenance b) (hext : Extends b b')
    (hactive : b'.activeCommands = b.activeCommands)
    (hpublications : b'.publications = b.publications) (hqueue : b'.commands = b.commands)
    (hresults : b'.databaseResults = b.databaseResults) (hops : b'.operations = b.operations)
    (hdeferred : b'.deferredTransitions = b.deferredTransitions) : Provenance b' :=
  h.update hext (fun _ _ _ hc _ => .inl (hactive ▸ hc))
  (fun _ _ _ ht _ => .inl (hpublications ▸ ht))
    (by rw [hqueue]; exact fun _ hx => hx) (by rw [hresults]; exact fun _ hx => hx)
    (fun _ _ hop => hops ▸ hop) (fun _ _ _ hc _ => .inl (hdeferred ▸ hc))

/-- A result is taken from the queue, with its operation. -/
lemma taken (h : Provenance b) {operationId : ℕ}
    {value : Except DatabaseError CommandDatabaseValue} {rest : List CommandDatabaseResult}
    (hhead : b.databaseResults = ⟨operationId, value⟩ :: rest) :
    Provenance (b.taken operationId rest) :=
  h.update (.same rfl rfl rfl) (fun _ _ _ hc _ => .inl hc) (fun _ _ _ ht _ => .inl ht)
    (fun _ hx => hx) (by rw [hhead]; exact List.subset_cons_self _ _)
    (fun _ _ hop => (Map.lookup_erase_some.mp hop).2) (fun _ _ _ hc _ => .inl hc)

/-- A submission, accepted or refused. -/
lemma submit (h : Provenance b) (hlt : ∀ i ∈ pipeline b, i < b.nextOperationId)
    {kind : OperationKind} {context : RequestContext} {task : CommandDatabaseTask}
    (hinsert : ∀ command, task = .insertCommand command → ∃ j, .created j command ∈ b.trace)
    (htask : ∀ (t : TransitionCommandTask) d, task = t.toTask → context.record = some d →
      Asked b.trace d t)
    (hdesire : kind = .transition → ∀ d, context.record = some d →
      ∃ m cause, Desire b.trace m cause d)
    (hlookup : kind = .findByIdForConvergence → ∀ d, context.record = some d →
      Overtaken b d) :
    Provenance (b.submit cfg kind context task).2 := by
  rcases submit_cases cfg b kind context task with heq | heq
  · rw [heq]
    have hext : Extends b (b.accepted kind context task) :=
      .log [_] rfl rfl rfl (by simp [Event.IsService])
    -- an operation of the new map is the new one or an old one
    have hop_cases : ∀ {i : ℕ} {operation : Operation},
        (b.accepted kind context task).operations.lookup i = some operation →
          (i = b.nextOperationId ∧ operation = ⟨kind, context⟩) ∨
            (i ≠ b.nextOperationId ∧ b.operations.lookup i = some operation) := by
      intro i operation hop
      rcases Map.lookup_insert_some.mp hop with ⟨rfl, rfl⟩ | ⟨hne, hop⟩
      · exact .inl ⟨rfl, rfl⟩
      · exact .inr ⟨hne, hop⟩
    -- nothing in the pipeline has the new id yet
    have hresult : ∀ {i : ℕ} {value : Except DatabaseError CommandDatabaseValue},
        (⟨i, value⟩ : CommandDatabaseResult) ∈ b.databaseResults → i ≠ b.nextOperationId := by
      intro i value hmem
      exact (hlt i (List.mem_append_left _ (List.mem_map.mpr ⟨_, hmem, rfl⟩))).ne
    have hcommand : ∀ {i : ℕ} {t : CommandDatabaseTask}, (i, t) ∈ b.commands →
        i ≠ b.nextOperationId := by
      intro i t hmem
      exact (hlt i (List.mem_append_right _ (List.mem_map.mpr ⟨_, hmem, rfl⟩))).ne
    have hqueue : ∀ {i : ℕ} {t : CommandDatabaseTask},
        (i, t) ∈ (b.accepted kind context task).commands →
          (i, t) ∈ b.commands ∨ (i = b.nextOperationId ∧ t = task) := by
      intro i t hmem
      rcases List.mem_append.mp hmem with hmem | hmem
      · exact .inl hmem
      · obtain ⟨rfl, rfl⟩ := Prod.mk.inj (List.mem_singleton.mp hmem)
        exact .inr ⟨rfl, rfl⟩
    exact
      { active := fun c context' r hc hr =>
          committedRows_mono hext.mem (h.active c context' r hc hr)
        publications := fun t context' r ht hr =>
          committedRows_mono hext.mem (h.publications t context' r ht hr)
        insertions := fun i command hmem => by
          rcases hqueue hmem with hmem | ⟨_, htask'⟩
          · obtain ⟨j, hj⟩ := h.insertions i command hmem
            exact ⟨j, hext.mem _ hj⟩
          · obtain ⟨j, hj⟩ := hinsert command htask'.symm
            exact ⟨j, hext.mem _ hj⟩
        queue := fun i t operation d hmem hop hd => by
          rcases hqueue hmem with hmem | ⟨rfl, htask'⟩
          · rcases hop_cases hop with ⟨rfl, _⟩ | ⟨_, hop⟩
            · exact absurd rfl (hcommand hmem)
            · exact (h.queue i t operation d hmem hop hd).mono hext.mem
          · rcases hop_cases hop with ⟨_, rfl⟩ | ⟨hne, _⟩
            · exact (htask t d htask'.symm hd).mono hext.mem
            · exact absurd rfl hne
        transitions := fun i operation d hop hkind hd => by
          rcases hop_cases hop with ⟨_, rfl⟩ | ⟨_, hop⟩
          · obtain ⟨m, cause, hm⟩ := hdesire hkind d hd
            exact ⟨m, cause, hm.mono hext.mem⟩
          · obtain ⟨m, cause, hm⟩ := h.transitions i operation d hop hkind hd
            exact ⟨m, cause, hm.mono hext.mem⟩
        deferred := fun c deferred d hc hd => (h.deferred c deferred d hc hd).mono hext.mem
        conflicts := fun i error operation d hmem hchanged hop hkind hd => by
          rcases hop_cases hop with ⟨rfl, _⟩ | ⟨_, hop⟩
          · exact absurd rfl (hresult hmem)
          · exact overtaken_extends
              (h.conflicts i error operation d hmem hchanged hop hkind hd) hext
        lookups := fun i operation d hop hkind hd => by
          rcases hop_cases hop with ⟨_, rfl⟩ | ⟨_, hop⟩
          · exact overtaken_extends (hlookup hkind d hd) hext
          · exact overtaken_extends (h.lookups i operation d hop hkind hd) hext
        found := fun i current operation d hmem hop hkind hd => by
          rcases hop_cases hop with ⟨rfl, _⟩ | ⟨_, hop⟩
          · exact absurd rfl (hresult hmem)
          · obtain ⟨m, cause, hm, hlt'⟩ := h.found i current operation d hmem hop hkind hd
            exact ⟨m, cause, hm.mono hext.mem, hlt'⟩
        rows := h.rows_extends hext }
  · rw [heq]
    exact h.grown (.log [_] rfl rfl rfl (by simp [Event.IsService])) rfl rfl rfl rfl rfl rfl

/-- A submission that is about no transition. -/
lemma submit_other (h : Provenance b) (hlt : ∀ i ∈ pipeline b, i < b.nextOperationId)
    {kind : OperationKind} {context : RequestContext} {task : CommandDatabaseTask}
    (hinsert : ∀ command, task = .insertCommand command → ∃ j, .created j command ∈ b.trace)
    (htask : ∀ t : TransitionCommandTask, task ≠ t.toTask)
    (hkind : kind ≠ .transition ∧ kind ≠ .findByIdForConvergence) :
    Provenance (b.submit cfg kind context task).2 :=
  h.submit hlt hinsert (fun t _ ht _ => absurd ht (htask t)) (fun hk => absurd hk hkind.1)
    (fun hk => absurd hk hkind.2)

/-- A transition is formed. -/
lemma form (h : Provenance b) (hlt : ∀ i ∈ pipeline b, i < b.nextOperationId)
    {context : RequestContext} {task : TransitionCommandTask}
    (hasked : ∀ d, context.record = some d →
      Asked (.formed task (b.replaced task.commandId) :: b.trace) d task) :
    Provenance (b.submitTransitionOrDefer cfg context task) := by
  have hemit : Provenance (b.emit (.formed task (b.replaced task.commandId))) :=
    h.grown (.emit b trivial) rfl rfl rfl rfl rfl rfl
  have hsubmit := @submit cfg _ hemit hlt .transition context task.toTask
    (fun command hcommand => by cases hcommand)
    (fun t d ht hd => by
      obtain ⟨c, expected, desired, update⟩ := task
      obtain ⟨c', expected', desired', update'⟩ := t
      cases ht
      exact hasked d hd)
    (fun _ d hd => by
      obtain ⟨m, cause, hm, _⟩ := hasked d hd
      exact ⟨m, cause, hm⟩)
    (fun hk => by cases hk)
  rw [submitTransitionOrDefer]
  split
  -- accepted: what was deferred for the command is dropped; refused: the new one replaces it
  · next heq =>
      rw [heq] at hsubmit
      refine hsubmit.update (.same rfl rfl rfl) (fun _ _ _ hc _ => .inl hc)
        (fun _ _ _ ht _ => .inl ht) (fun _ hx => hx) (fun _ hx => hx) (fun _ _ hop => hop) ?_
      exact fun c deferred d hc _ => .inl (Map.lookup_erase_some.mp hc).2
  · next b₁ heq =>
      have hext : Extends (b.emit (.formed task (b.replaced task.commandId))) b₁ := by
        rcases submit_cases cfg (b.emit (.formed task (b.replaced task.commandId))) .transition
          context task.toTask with h' | h'
        · rw [h'] at heq
          cases heq
        · rw [h'] at heq
          cases heq
          exact .log [_] rfl rfl rfl (by simp [Event.IsService])
      rw [heq] at hsubmit
      refine hsubmit.update (.same rfl rfl rfl) (fun _ _ _ hc _ => .inl hc)
        (fun _ _ _ ht _ => .inl ht) (fun _ hx => hx) (fun _ hx => hx) (fun _ _ hop => hop) ?_
      intro c deferred d hc hd
      rcases Map.lookup_insert_some.mp hc with ⟨rfl, rfl⟩ | ⟨_, hc⟩
      · exact .inr ((hasked d hd).mono hext.mem)
      · exact .inl hc

/-- The transition that a cause asks for. -/
lemma asked_of_cause {events : List Event} {m : CommandRecord} {cause : Cause}
    {replaced : Option TransitionCommandTask} (hrow : m ∈ committedRows events)
    (hopen : m.status.isTerminal = false) (hevidence : cause.Evidence events m) :
    Asked (.formed (cause.task m) replaced :: events) (cause.desired m) (cause.task m) := by
  have hmem : ∀ e ∈ events, e ∈ Event.formed (cause.task m) replaced :: events :=
    fun e he => List.mem_cons_of_mem _ he
  exact ⟨m, cause, ⟨committedRows_mono hmem hrow, hopen, hevidence.mono hmem,
    ⟨replaced, List.mem_cons_self⟩, rfl⟩, .inl rfl⟩

/-- A message for a command that is remembered. -/
lemma publish (h : Provenance b) (hlt : ∀ i ∈ pipeline b, i < b.nextOperationId)
    {answers : Answers} {context : RequestContext} {now : TimePoint}
    (hcontext : ∀ r, context.record = some r → r ∈ committedRows b.trace ∧
      r.status.isTerminal = false ∧ context.commandType = r.commandType) :
    Provenance (b.publishRecord cfg answers context now) := by
  rcases publishRecord_cases cfg answers b context now with
    heq | ⟨record, deviceId, payload, hrecord, _, _, _, heq | heq⟩
  · rw [heq]
    exact h
  · rw [heq]
    refine h.update (.log [_] rfl rfl rfl (by simp [Event.IsService])) (fun _ _ _ hc _ => .inl hc)
      (fun t context' r ht hr => ?_) (fun _ hx => hx) (fun _ hx => hx) (fun _ _ hop => hop)
      (fun _ _ _ hc _ => .inl hc)
    rcases Map.lookup_insert_some.mp ht with ⟨_, rfl⟩ | ⟨_, ht⟩
    · exact .inr (hcontext r hr).1
    · exact .inl ht
  · rw [heq]
    obtain ⟨hrow, hopen, htype⟩ := hcontext record hrecord
    have hext : Extends b (b.unsent cfg context record deviceId payload) :=
      .log [_] rfl rfl rfl (by simp [Event.IsService])
    -- the refused publication is put into the map and taken out again
    have hunsent : Provenance (b.unsent cfg context record deviceId payload) := by
      refine h.update hext (fun _ _ _ hc _ => .inl hc) (fun t context' r ht hr => ?_)
        (fun _ hx => hx) (fun _ hx => hx) (fun _ _ hop => hop) (fun _ _ _ hc _ => .inl hc)
      rcases Map.lookup_insert_some.mp (Map.lookup_erase_some.mp ht).2 with ⟨_, rfl⟩ | ⟨_, ht⟩
      · exact .inr (hcontext r hr).1
      · exact .inl ht
    refine hunsent.form hlt fun d hd => ?_
    cases hd
    rw [htype]
    exact @asked_of_cause _ record (.refused now) _ (committedRows_mono hext.mem hrow) hopen
      ⟨_, _, _, List.mem_append_left _ List.mem_cons_self⟩

/-- A publish completion. -/
lemma complete (hw : Wellformed b) (h : Provenance b) {completion : PublishCompletion}
    {context : RequestContext} {now : TimePoint}
    (hfound : b.publications.lookup completion.token = some context) :
    Provenance (b.handleCompletion cfg completion now) := by
  have hforget : ∀ {x : RuntimeBundle}, Extends b x →
      x.activeCommands = b.activeCommands →
      x.publications = b.publications.erase completion.token → x.commands = b.commands →
      x.databaseResults = b.databaseResults → x.operations = b.operations →
      x.deferredTransitions = b.deferredTransitions → Provenance x := by
    intro x hext hactive hpublications hqueue hresults hops hdeferred
    refine h.update hext (fun _ _ _ hc _ => .inl (hactive ▸ hc)) (fun t context' r ht _ => .inl ?_)
      (by rw [hqueue]; exact fun _ hx => hx) (by rw [hresults]; exact fun _ hx => hx)
      (fun _ _ hop => hops ▸ hop) (fun _ _ _ hc _ => .inl (hdeferred ▸ hc))
    rw [hpublications] at ht
    exact (Map.lookup_erase_some.mp ht).2
  rcases handleCompletion_cases cfg now hfound with
    ⟨_, heq⟩ | ⟨record, hrecord, ⟨_, _, heq⟩ | ⟨hnot, heq⟩⟩
  · rw [heq]
    exact hforget (.same rfl rfl rfl) rfl rfl rfl rfl rfl rfl
  · rw [heq]
    exact hforget (.log [_] rfl rfl rfl (by simp [Event.IsService])) rfl rfl rfl rfl rfl rfl
  · rw [heq]
    have hext : Extends b (b.completionTaken completion.token record completion.result) :=
      .log [_] rfl rfl rfl (by simp [Event.IsService])
    have htaken : Provenance (b.completionTaken completion.token record completion.result) :=
      hforget hext rfl rfl rfl rfl rfl rfl
    -- the completion itself is the evidence for what it asks for
    obtain ⟨r, hcontext, hopen⟩ := hw.publications _ _ hfound
    have hr : record = r := hcontext.unique hrecord
    subst hr
    refine htaken.form hw.pipeline_lt fun d hd => ?_
    cases hd
    rw [hcontext.commandType]
    exact @asked_of_cause _ record (.completed completion.result now) _
      (committedRows_mono hext.mem (h.publications _ _ record hfound hrecord)) hopen
      ⟨List.mem_append_left _ List.mem_cons_self, hnot⟩

/-- A deferred transition is tried again. -/
lemma retry (hw : Wellformed b) (h : Provenance b) {key : String} {deferred : DeferredTransition}
    (hfound : b.deferredTransitions.lookup key = some deferred) :
    Provenance (b.retryDeferred cfg key deferred) := by
  have herase : Provenance { b with deferredTransitions := b.deferredTransitions.erase key } :=
    h.update (.same rfl rfl rfl) (fun _ _ _ hc _ => .inl hc) (fun _ _ _ ht _ => .inl ht)
      (fun _ hx => hx) (fun _ hx => hx) (fun _ _ hop => hop)
      (fun _ _ _ hc _ => .inl (Map.lookup_erase_some.mp hc).2)
  have hasked := fun d hd => h.deferred key deferred d hfound hd
  have hsubmit := @submit cfg _ herase hw.pipeline_lt .transition deferred.context
    deferred.task.toTask (fun command hcommand => by cases hcommand)
    (fun t d ht hd => by
      have heq : deferred.task = t := by
        obtain ⟨context, c, expected, desired, update⟩ := deferred
        obtain ⟨c', expected', desired', update'⟩ := t
        cases ht
        rfl
      exact heq ▸ hasked d hd)
    (fun _ d hd => by
      obtain ⟨m, cause, hm, _⟩ := hasked d hd
      exact ⟨m, cause, hm⟩)
    (fun hk => by cases hk)
  rw [retryDeferred]
  split
  · next heq =>
      rw [heq] at hsubmit
      exact hsubmit
  · next b₁ heq =>
      have hext : Extends b b₁ := by
        rcases submit_cases cfg { b with deferredTransitions := b.deferredTransitions.erase key }
          .transition deferred.context deferred.task.toTask with h' | h'
        · rw [h'] at heq
          cases heq
        · rw [h'] at heq
          cases heq
          exact .log [_] rfl rfl rfl (by simp [Event.IsService])
      rw [heq] at hsubmit
      refine hsubmit.update (.same rfl rfl rfl) (fun _ _ _ hc _ => .inl hc)
        (fun _ _ _ ht _ => .inl ht) (fun _ hx => hx) (fun _ hx => hx) (fun _ _ hop => hop) ?_
      intro c deferred' d hc hd
      rcases Map.lookup_insert_some.mp hc with ⟨rfl, rfl⟩ | ⟨_, hc⟩
      · exact .inr ((hasked d hd).mono hext.mem)
      · exact .inl hc

/-! ### Turns of the worker -/

/-- The task of a transition. -/
lemma task_of_transition {operation : Operation} {task : CommandDatabaseTask}
    (hmatch : Matches operation task) (hkind : operation.kind = .transition) :
    ∃ t : TransitionCommandTask, task = t.toTask := by
  unfold Matches at hmatch
  rw [hkind] at hmatch
  cases task with
  | transitionCommand c expected desired update => exact ⟨⟨c, expected, desired, update⟩, rfl⟩
  | recoverControlCommands _ _ => exact hmatch.elim
  | cleanupCommands _ _ => cases hmatch
  | _ => cases hmatch.1

/-- The task of a lookup after a conflict. -/
lemma task_of_lookup {operation : Operation} {task : CommandDatabaseTask} {d : CommandRecord}
    (hmatch : Matches operation task) (hkind : operation.kind = .findByIdForConvergence)
    (hd : operation.context.record = some d) : task = .findCommandById d.commandId := by
  unfold Matches at hmatch
  rw [hkind] at hmatch
  cases task with
  | findCommandById c =>
      obtain ⟨_, r, hr, rfl⟩ := hmatch
      rw [hd] at hr
      cases hr
      rfl
  | recoverControlCommands _ _ => exact hmatch.elim
  | cleanupCommands _ _ => cases hmatch
  | _ => cases hmatch.1

/-- A row of a command that something is under way for moves on, or is removed. -/
lemma overtaken_execute (hs : Sound b) {i : ℕ} {task : CommandDatabaseTask}
    (hmem : (i, task) ∈ b.commands) {d : CommandRecord} (hticket : Ticket b d.commandId)
    (h : Overtaken b d) (htable : b'.table = (execute b.table task).table)
    (hsub : ∀ e ∈ b.trace, e ∈ b'.trace) : Overtaken b' d := by
  obtain ⟨m, cause, hdesire, hrow⟩ := h
  refine ⟨m, cause, hdesire.mono hsub, fun row hrow' => ?_⟩
  rw [htable] at hrow'
  obtain ⟨operation, hop, hmatch⟩ := hs.wellformed.queue i task hmem
  rcases execute_cases b.table (Ledger.isService_of_matches hmatch) with
    ⟨_, hkept, _⟩ | ⟨r, _, _, _, htable', hwhich⟩
  · exact hrow row (hkept _ row hrow')
  · rw [htable'] at hrow'
    split at hrow'
    · next hid =>
        cases hrow'
        rcases hwhich with ⟨command, rfl, rfl, _⟩ | ⟨old, expected, update, _, hold, _, hcan, _⟩
        · -- nothing is under way for a command that is being inserted
          refine absurd ?_ (hs.lifecycle.unborn i operation command hop hmatch.1 hmatch.2).1
          exact hid ▸ hticket
        · exact (hrow old (hid ▸ hold)).trans_le (.of_canTransition hcan)
    · exact hrow row hrow'

/-- A lost compare-and-set: the row has left the status of the desire. -/
lemma overtaken_of_conflict (hs : Sound b) {d : CommandRecord} {task : TransitionCommandTask}
    (hasked : Asked b.trace d task)
    (hconflict : ∀ r, b.table.findCommandById task.commandId = some r →
      r.status ≠ task.expected) : Overtaken b d := by
  have hid := hasked.commandId
  obtain ⟨m, cause, hdesire, htask⟩ := hasked
  refine ⟨m, cause, hdesire, fun row hrow => ?_⟩
  have hne := hconflict row (hid ▸ hrow)
  rcases htask with rfl | ⟨current, hcurrent, hcid, _, hlt, _, rfl⟩
  · have hle := hs.ledger.committed_le_row m hdesire.row row (hdesire.commandId ▸ hrow)
    rw [Cause.task_expected] at hne
    exact ⟨hle, fun heq => hne heq.symm⟩
  · have hle := hs.ledger.committed_le_row current hcurrent row
      (hcid ▸ hdesire.commandId ▸ hrow)
    exact hlt.trans_le hle

/-- The row in the table is the latest version. -/
lemma latest_of_table (hl : Ledger b) {c : String} {row : CommandRecord}
    (hrow : b.table.findCommandById c = some row) : Latest b.trace row where
  committed := hl.row_committed c row hrow
  last r hr hid := by
    have hc : row.commandId = c := CommandTable.findCommandById_commandId hrow
    exact hl.committed_le_row r hr row (by rw [hid, hc]; exact hrow)

/-- The version of a row that a task writes has an origin. -/
lemma taskOrigin_execute (hs : Sound b) (h : Provenance b) {i : ℕ} {task : CommandDatabaseTask}
    (hmem : (i, task) ∈ b.commands) {r : CommandRecord}
    (hwritten : (execute b.table task).written = [r]) : TaskOrigin b.trace r := by
  obtain ⟨operation, hop, hmatch⟩ := hs.wellformed.queue i task hmem
  rcases execute_cases b.table (Ledger.isService_of_matches hmatch) with
    ⟨hnone, _⟩ | ⟨r', hwritten', _, _, _, hwhich⟩
  · rw [hnone] at hwritten
    cases hwritten
  · rw [hwritten'] at hwritten
    cases hwritten
    rcases hwhich with ⟨command, rfl, rfl, hnone⟩ |
      ⟨row, expected, update, rfl, hrow, hstatus, hcan, hr⟩
    · obtain ⟨j, hj⟩ := h.insertions i command hmem
      refine .inserted hj fun r hr hid => ?_
      have hthere := ((hs.ledger.insertions i command hmem).1 r hr hid).2
      have hnone' : b.table.findCommandById command.commandId = none := hnone
      rw [hnone'] at hthere
      cases hthere
    · obtain ⟨_, d, hd, _⟩ := hmatch
      have hasked := h.queue i ⟨r.commandId, expected, r.status, update⟩ operation d hmem hop hd
      have hid : row.commandId = r.commandId := CommandTable.findCommandById_commandId hrow
      rw [hr]
      exact @TaskOrigin.moved b.trace row d ⟨r.commandId, expected, r.status, update⟩
        (latest_of_table hs.ledger hrow) hid hstatus hcan hasked

lemma rows_execute (hs : Sound b) (h : Provenance b) {i : ℕ} {task : CommandDatabaseTask}
    (hmem : (i, task) ∈ b.commands) (confirmed : Bool) :
    RowsHaveOrigin (executionEvents (execute b.table task).removed
      (execute b.table task).written confirmed ++ b.trace) := by
  obtain ⟨operation, hop, hmatch⟩ := hs.wellformed.queue i task hmem
  rcases execute_cases b.table (Ledger.isService_of_matches hmatch) with
    ⟨hnone, _⟩ | ⟨r, hwritten, hremoved, _⟩
  · refine h.rows.append fun r hr => ?_
    rw [hnone] at hr
    rcases mem_executionEvents.mp hr with ⟨_, _, h'⟩ | ⟨_, _, h', _⟩ | ⟨_, h', _⟩
    · cases h'
    · cases h'
    · cases h'
  · have hrow := h.rows.cons (.written (taskOrigin_execute hs h hmem hwritten))
    rw [hwritten, hremoved]
    cases confirmed with
    | true => exact hrow
    | false =>
        have hunconfirmed : ∀ s, Event.committed s ∉ [Event.unconfirmed r] := by simp
        exact hrow.append hunconfirmed

/-- The execution of a task whose result, if any, is pushed. -/
lemma executed (hs : Sound b) (h : Provenance b) {i : ℕ} {task : CommandDatabaseTask}
    (confirmed : Bool) (hmem : (i, task) ∈ b.commands)
    (htable : b'.table = (execute b.table task).table) (hpast : b'.past = b.past)
    (hlog : b'.log = executionEvents (execute b.table task).removed (execute b.table task).written
      confirmed ++ b.log)
    (hactive : b'.activeCommands = b.activeCommands)
    (hpublications : b'.publications = b.publications)
    (hops : b'.operations = b.operations)
    (hdeferred : b'.deferredTransitions = b.deferredTransitions)
    (hqueue : b'.commands ⊆ b.commands)
    (hresults : ∀ x ∈ b'.databaseResults, x ∈ b.databaseResults ∨
      x = ⟨i, (execute b.table task).value⟩) : Provenance b' := by
  have htrace : b'.trace = executionEvents (execute b.table task).removed
      (execute b.table task).written confirmed ++ b.trace := by
    simp only [RuntimeBundle.trace]
    rw [hlog, hpast, List.append_assoc]
  have hsub : ∀ e ∈ b.trace, e ∈ b'.trace := fun e he => by
    rw [htrace]
    exact List.mem_append_right _ he
  obtain ⟨operation₀, hop₀, hmatch₀⟩ := hs.wellformed.queue i task hmem
  have hticket : ∀ {j : ℕ} {operation : Operation} {d : CommandRecord},
      b.operations.lookup j = some operation →
      operation.kind = .transition ∨ operation.kind = .findByIdForConvergence →
      operation.context.record = some d → Ticket b d.commandId :=
    fun hop hkind hd => .operation hop hkind hd rfl
  exact
    { active := fun c context r hc hr =>
        committedRows_mono hsub (h.active c context r (hactive ▸ hc) hr)
      publications := fun t context r ht hr =>
        committedRows_mono hsub (h.publications t context r (hpublications ▸ ht) hr)
      insertions := fun j command hmem' => by
        obtain ⟨k, hk⟩ := h.insertions j command (hqueue hmem')
        exact ⟨k, hsub _ hk⟩
      queue := fun j t operation d hmem' hop hd =>
        (h.queue j t operation d (hqueue hmem') (hops ▸ hop) hd).mono hsub
      transitions := fun j operation d hop hkind hd => by
        obtain ⟨m, cause, hm⟩ := h.transitions j operation d (hops ▸ hop) hkind hd
        exact ⟨m, cause, hm.mono hsub⟩
      deferred := fun c deferred d hc hd =>
        (h.deferred c deferred d (hdeferred ▸ hc) hd).mono hsub
      conflicts := fun j error operation d hmem' hchanged hop hkind hd => by
        rw [hops] at hop
        refine overtaken_execute hs hmem (hticket hop (.inl hkind) hd) ?_ htable hsub
        rcases hresults _ hmem' with hmem' | heq
        · exact h.conflicts j error operation d hmem' hchanged hop hkind hd
        · -- the compare-and-set of this task has failed
          obtain ⟨rfl, hvalue⟩ := CommandDatabaseResult.mk.inj heq
          rw [hop] at hop₀
          cases hop₀
          obtain ⟨t, rfl⟩ := task_of_transition hmatch₀ hkind
          have hasked := h.queue j t _ d hmem hop hd
          -- a missing row gives another message, and a success is no error
          rcases execute_transitionCommand b.table t.commandId t.expected t.desired t.update with
            ⟨_, hexec⟩ | ⟨hconflict, _⟩ | ⟨_, _, _, _, _, _, hexec⟩
          · rw [TransitionCommandTask.toTask, hexec] at hvalue
            cases hvalue
            exact absurd hchanged (by decide +kernel)
          · exact overtaken_of_conflict hs hasked hconflict
          · rw [TransitionCommandTask.toTask, hexec] at hvalue
            cases hvalue
      lookups := fun j operation d hop hkind hd => by
        rw [hops] at hop
        exact overtaken_execute hs hmem (hticket hop (.inr hkind) hd)
          (h.lookups j operation d hop hkind hd) htable hsub
      found := fun j current operation d hmem' hop hkind hd => by
        rw [hops] at hop
        rcases hresults _ hmem' with hmem' | heq
        · obtain ⟨m, cause, hm, hlt⟩ := h.found j current operation d hmem' hop hkind hd
          exact ⟨m, cause, hm.mono hsub, hlt⟩
        -- the lookup of this task has found the row as it is now
        · obtain ⟨rfl, hvalue⟩ := CommandDatabaseResult.mk.inj heq
          rw [hop] at hop₀
          cases hop₀
          obtain ⟨m, cause, hm, hrow⟩ := h.lookups j _ d hop hkind hd
          have htask := task_of_lookup hmatch₀ hkind hd
          subst htask
          refine ⟨m, cause, hm.mono hsub, hrow current ?_⟩
          exact (CommandDatabaseValue.found.inj (Except.ok.inj hvalue)).symm
      rows := by
        rw [htrace]
        exact rows_execute hs h hmem confirmed }

/-- **A turn of the worker.** -/
lemma workerTurn (hs : Sound b) (h : Provenance b) {event : WorkerEvent}
    (hevent : event.Admissible) : Provenance (b.workerTurn event) := by
  have hpushed : ∀ result x, x ∈ b.pushed result → x ∈ b.databaseResults ∨ x = result := by
    intro result x hx
    unfold RuntimeBundle.pushed at hx
    split at hx
    · exact .inl hx
    · rcases List.mem_append.mp hx with hx | hx
      · exact .inl hx
      · exact .inr (List.mem_singleton.mp hx)
  rcases workerTurn_cases hevent with
    ⟨worker, hqueue, heq⟩ | ⟨i, task, rest, hqueue, ⟨worker, hrest, heq⟩ |
      ⟨worker, message, hrest, hmessage, _, heq⟩ | ⟨worker, hsame, _, heq⟩⟩
  · rw [heq]
    refine h.update (.same rfl rfl rfl) (fun _ _ _ hc _ => .inl hc) (fun _ _ _ ht _ => .inl ht) ?_
      (fun _ hx => hx) (fun _ _ hop => hop) (fun _ _ _ hc _ => .inl hc)
    change worker.commands ⊆ b.commands
    rcases hqueue with hq | ⟨hq, _⟩
    · rw [hq]
      exact fun _ hx => hx
    · rw [hq]
      exact List.nil_subset _
  · rw [heq]
    have hmem : (i, task) ∈ b.commands := by
      rw [hqueue]
      exact List.mem_cons_self
    refine executed hs h true hmem rfl rfl rfl rfl rfl rfl rfl ?_ fun x hx => hpushed _ x hx
    change worker.commands ⊆ b.commands
    rw [hrest, hqueue]
    exact List.subset_cons_self _ _
  · -- an error of the store is no conflict
    rw [heq]
    have hqueue' : worker.commands ⊆ b.commands := by
      rw [hrest, hqueue]
      exact List.subset_cons_self _ _
    exact { h with
      insertions := fun j command hmem => h.insertions j command (hqueue' hmem)
      queue := fun j t operation d hmem hop hd => h.queue j t operation d (hqueue' hmem) hop hd
      conflicts := fun j error operation d hmem hchanged hop hkind hd => by
        rcases hpushed _ _ hmem with hmem | heq'
        · exact h.conflicts j error operation d hmem hchanged hop hkind hd
        · cases heq'
          rw [hmessage] at hchanged
          cases hchanged
      found := fun j current operation d hmem hop hkind hd => by
        rcases hpushed _ _ hmem with hmem | heq'
        · exact h.found j current operation d hmem hop hkind hd
        · cases heq' }
  · rw [heq]
    have hmem : (i, task) ∈ b.commands := by
      rw [hqueue]
      exact List.mem_cons_self
    refine executed hs h false hmem rfl rfl rfl rfl rfl rfl rfl ?_ fun x hx => .inl hx
    change worker.commands ⊆ b.commands
    rw [hsame]
    exact fun _ hx => hx

/-! ### Ticks and restarts -/

/-- The row a result reports is committed. -/
lemma committed_of_head (hs : Sound b) {i : ℕ} {value : Except DatabaseError CommandDatabaseValue}
    {rest : List CommandDatabaseResult} {r : CommandRecord}
    (hhead : b.databaseResults = ⟨i, value⟩ :: rest) (hr : reported value = some r) :
    r ∈ committedRows b.trace :=
  hs.ledger.report_committed r (mem_reportedRows.mpr ⟨⟨i, value⟩, by rw [hhead]; simp, hr⟩)

/-- A command is remembered with the row of a result. -/
lemma remember (hs : Sound b) (h : Provenance b) {i : ℕ}
    {value : Except DatabaseError CommandDatabaseValue} {rest : List CommandDatabaseResult}
    {r : CommandRecord} {context : RequestContext} {c : String} (es : List Event)
    (hhead : b.databaseResults = ⟨i, value⟩ :: rest) (hr : reported value = some r)
    (hrecord : context.record = some r) (hes : ∀ e ∈ es, e.IsService)
    (hactive : b'.activeCommands = b.activeCommands.insert c context)
    (htable : b'.table = b.table) (hpast : b'.past = b.past) (hlog : b'.log = es ++ b.log)
    (hpublications : b'.publications = b.publications) (hqueue : b'.commands = b.commands)
    (hresults : b'.databaseResults = rest) (hops : b'.operations = b.operations.erase i)
    (hdeferred : b'.deferredTransitions = b.deferredTransitions) : Provenance b' := by
  refine (h.taken hhead).update (.log es htable hpast hlog hes) (fun c' context' r' hc hr' => ?_)
    (fun _ _ _ ht _ => .inl (hpublications ▸ ht)) (by rw [hqueue]; exact fun _ hx => hx)
    (by rw [hresults]; exact fun _ hx => hx) (fun _ _ hop => by rw [hops] at hop; exact hop)
    (fun _ _ _ hc _ => .inl (hdeferred ▸ hc))
  rw [hactive] at hc
  rcases Map.lookup_insert_some.mp hc with ⟨_, rfl⟩ | ⟨_, hc⟩
  · rw [hrecord] at hr'
    cases hr'
    exact .inr (committed_of_head hs hhead hr)
  · exact .inl hc

/-- **Every tick keeps the provenance.** -/
lemma tick (hs : Sound b) (h : Provenance b) (htick : Tick cfg b b') : Provenance b' := by
  have hw := hs.wellformed
  have htaken : ∀ {i : ℕ} {value : Except DatabaseError CommandDatabaseValue}
      {rest : List CommandDatabaseResult}, b.databaseResults = ⟨i, value⟩ :: rest →
      ∀ j ∈ pipeline (b.taken i rest), j < b.nextOperationId := by
    intro i value rest hhead j hj
    refine hw.pipeline_lt j ?_
    rw [pipeline] at hj ⊢
    rw [hhead]
    exact List.mem_cons_of_mem _ hj
  have hservice : ServiceStep b b' → Extends b b' := by
    intro hstep
    obtain ⟨es, hlog, hes, _⟩ := hstep.log
    exact .log es hstep.table hstep.past hlog hes
  have hwhole := htick.serviceStep
  cases htick with
  | quiet hcore =>
      rcases hwhole with ⟨event, hevent, rfl⟩ | hstep
      · exact h.workerTurn hs hevent
      · exact h.update (hservice hstep) (fun c _ _ hc _ => .inl (hcore.activeCommands c ▸ hc))
          (fun t _ _ ht _ => .inl (hcore.publications t ▸ ht))
          (by rw [hcore.commands]; exact fun _ hx => hx)
          (by rw [hcore.databaseResults]; exact fun _ hx => hx)
          (fun i _ hop => hcore.operations i ▸ hop)
          (fun c _ _ hc _ => .inl (hcore.deferredTransitions c ▸ hc))
  | worker hevent => exact h.workerTurn hs hevent
  | mqtt =>
      exact h.grown (.log [_] rfl rfl rfl (by simp [Event.IsService])) rfl rfl rfl rfl rfl rfl
  | device =>
      exact h.grown (.log [_] rfl rfl rfl (by simp [Event.IsService])) rfl rfl rfl rfl rfl rfl
  | find =>
      exact h.submit_other hw.pipeline_lt (fun _ hc => by cases hc) (fun _ ht => by cases ht)
        (by decide)
  | cleanup =>
      exact h.submit_other hw.pipeline_lt (fun _ hc => by cases hc) (fun _ ht => by cases ht)
        (by decide)
  | @consumed operationId value rest events hhead hconsumed =>
      have hevents : ∀ e ∈ events, e.IsService := by
        intro e he
        cases hconsumed with
        | unknown => cases he
        | failed => rw [List.mem_singleton.mp he]; trivial
        | ignored => cases he
        | rejected => rw [List.mem_singleton.mp he]; rfl
        | replayed => rw [List.mem_singleton.mp he]; trivial
      exact (h.taken hhead).grown (.log events rfl rfl rfl hevents) rfl rfl rfl rfl rfl rfl
  | @create answers operationId operation rest requestId payload hhead =>
      have hcreated : Provenance ((b.taken operationId rest).emit (.created operationId
          (b.newCommand answers operation.context requestId payload).1)) :=
        (h.taken hhead).grown (.emit _ trivial) rfl rfl rfl rfl rfl rfl
      -- the insertion is of the command that has just been created
      refine hcreated.submit_other (htaken hhead) (fun command hcommand => ?_)
        (fun _ ht => by cases ht) (by decide)
      cases hcommand
      exact ⟨operationId, List.mem_append_left _ List.mem_cons_self⟩
  | @conflict operationId operation rest error desired hhead hop hkind hchanged hdesired =>
      refine (h.taken hhead).submit (htaken hhead) (fun _ hc => by cases hc)
        (fun _ _ ht => by cases ht) (fun hk => by cases hk) fun _ d hd => ?_
      have hover := h.conflicts operationId error operation d (by rw [hhead]; simp) hchanged hop
        hkind hd
      exact overtaken_extends hover (.same rfl rfl rfl)
  | @activate answers operationId operation rest record now hhead hop hkind hown hopen =>
      obtain ⟨own, hcontext, hsame⟩ := hw.insert_result hhead hop hkind hown
      have hrow := committed_of_head hs hhead (r := record) rfl
      have hactivated : Provenance { b.taken operationId rest with
          activeCommands := b.activeCommands.insert record.commandId
            { operation.context with record := some record } } :=
        remember hs h [] hhead (r := record) rfl rfl (by simp) rfl rfl rfl rfl rfl rfl rfl rfl rfl
      refine hactivated.publish (htaken hhead) fun r hr => ?_
      cases hr
      refine ⟨hrow, hopen, ?_⟩
      exact hcontext.commandType.trans hsame.commandType.symm
  | @refresh operationId operation rest record context now hhead hop hkind hopen hrecord =>
      exact remember hs h [_] hhead rfl hrecord (by simp [Event.IsService]) rfl rfl rfl rfl rfl rfl
        rfl rfl rfl
  | @settle operationId operation rest current desired hhead =>
      exact remember hs h [] hhead (r := current) rfl rfl (by simp) rfl rfl rfl rfl rfl rfl rfl rfl
        rfl
  | @converge operationId operation rest current desired target update commandId hdesired hwhich
      hop hopen hcan hcode hmessage hack hcompleted hupdated =>
      rcases hwhich with ⟨hhead, hkind, hne, hdispatched, rfl⟩ | ⟨hhead, hkind, hterm, _⟩
      · obtain ⟨m, cause, hm, hlt⟩ := h.found operationId current operation desired
          (by rw [hhead]; simp) hop hkind hdesired
        obtain ⟨d, hcontext, hsame⟩ := hw.lookup_result hhead hop hkind
        have hd : desired = d := hcontext.unique hdesired
        subst hd
        refine (h.taken hhead).form (htaken hhead) fun d hd => ?_
        have hdd : desired = d := Option.some.inj (hdesired.symm.trans hd)
        subst hdd
        have hsub : ∀ replaced, ∀ e ∈ b.trace, e ∈ Event.formed
            ⟨current.commandId, current.status, desired.status, update⟩ replaced :: b.trace :=
          fun _ e he => List.mem_cons_of_mem _ he
        -- the same desire as before, on the row that the lookup has found
        refine ⟨m, cause, hm.mono (hsub _), .inr ⟨current,
          committedRows_mono (hsub _) (committed_of_head hs hhead rfl),
          hsame.commandId.trans hm.commandId, hopen, hlt, hcan, ?_⟩⟩
        rw [againTask]
        rw [← hcode, ← hmessage, ← hack, ← hcompleted, ← hupdated, ← hdispatched]
      · -- a transition reports the status it asked for
        obtain ⟨d, hcontext, _, hstatus⟩ := hw.transition_result hhead hop hkind
        have hd : desired = d := hcontext.unique hdesired
        subst hd
        rw [hstatus, hterm] at hopen
        cases hopen
  | @finish operationId operation rest record value context now hhead =>
      refine (h.taken hhead).update (.log [_] rfl rfl rfl (by simp [Event.IsService]))
        (fun c _ _ hc _ => .inl (Map.lookup_erase_some.mp hc).2) (fun _ _ _ ht _ => .inl ht)
        (fun _ hx => hx) (fun _ hx => hx) (fun _ _ hop => hop) (fun _ _ _ hc _ => .inl hc)
  | finished hhead =>
      refine (h.taken hhead).update (.same rfl rfl rfl)
        (fun c _ _ hc _ => .inl (Map.lookup_erase_some.mp hc).2) (fun _ _ _ ht _ => .inl ht)
        (fun _ hx => hx) (fun _ hx => hx) (fun _ _ hop => hop) (fun _ _ _ hc _ => .inl hc)
  -- an ACK, a deadline: the evidence is the event itself, the row the one that is remembered
  | @deviceAck context record ack deviceId payload type now hparse hactive hrecord htarget htype
      _ hstatus =>
      obtain ⟨r, hcontext, hopen, hid⟩ := hw.active _ context hactive
      have hr : record = r := hcontext.unique hrecord
      subst hr
      have hsame : record.commandType = type := hcontext.commandType.symm.trans htype
      subst hsame
      have hext : Extends b (b.emit (.deviceAcked deviceId record.commandType ack
          (some record.status))) := .emit b trivial
      have hemit : Provenance (b.emit (.deviceAcked deviceId record.commandType ack
          (some record.status))) := h.grown hext rfl rfl rfl rfl rfl rfl
      rw [applyDeviceAck_eq]
      refine hemit.form hw.pipeline_lt fun d hd => ?_
      cases hd
      exact @asked_of_cause _ record (.acknowledged ack now) _
        (committedRows_mono hext.mem (h.active _ context record hactive hrecord)) hopen
        ⟨deviceId, _, List.mem_append_left _ List.mem_cons_self, htarget, hid.symm, hstatus, hparse⟩
  | @buffer context record ack deviceId payload type now =>
      have hemit : Provenance (b.emit (.deviceAcked deviceId type ack (some record.status))) :=
        h.grown (.emit b trivial) rfl rfl rfl rfl rfl rfl
      rcases bufferEarlyAck_cases cfg (b.emit (.deviceAcked deviceId type ack
        (some record.status))) type ack ⟨deviceId, payload, now⟩ with
        ⟨kept, _, heq⟩ | ⟨message, heq⟩
      · rw [heq]
        exact hemit.grown (.same rfl rfl rfl) rfl rfl rfl rfl rfl rfl
      · rw [heq]
        exact hemit.grown (.emit _ trivial) rfl rfl rfl rfl rfl rfl
  | @timeout commandId context record now hactive hrecord =>
      obtain ⟨r, hcontext, hopen, hid⟩ := hw.active _ context hactive
      have hr : record = r := hcontext.unique hrecord
      subst hr
      subst hid
      have hmark : Provenance
          { b with recoveryStarted := insert record.commandId b.recoveryStarted } :=
        h.grown (.same rfl rfl rfl) rfl rfl rfl rfl rfl rfl
      refine hmark.form hw.pipeline_lt fun d hd => ?_
      cases hd
      rw [hcontext.commandType]
      exact @asked_of_cause _ record (.expired now) _
        (h.active _ context record hactive hrecord) hopen trivial
  | @republish answers commandId deviceId context record now hactive hrecord =>
      have hmark : Provenance
          { b with recoveryStarted := insert commandId b.recoveryStarted } :=
        h.grown (.same rfl rfl rfl) rfl rfl rfl rfl rfl rfl
      refine hmark.publish hw.pipeline_lt fun r hr => ?_
      obtain ⟨r', hcontext, hopen, _⟩ := hw.active _ context hactive
      have hrr : r = r' := hcontext.unique hr
      subst hrr
      exact ⟨h.active _ context r hactive hr, hopen, hcontext.commandType⟩
  | complete hfound => exact h.complete hw hfound
  | retry hfound => exact h.retry hw hfound

/-- A new process remembers rows, and the recovered ones have an origin. -/
lemma restarted (hl : Ledger b) (hl' : Ledger b') (h : Provenance b)
    (hrestart : Restarted cfg b b') : Provenance b' where
  active c context r hc hr := by
    obtain ⟨record, source, rfl, _, _, hrow, rfl⟩ := hrestart.activeCommands c context hc
    cases hr
    exact hl'.row_committed _ _ hrow
  publications t context r ht := by
    rw [hrestart.publications] at ht
    cases ht
  insertions i command hmem := by
    rw [hrestart.commands] at hmem
    cases hmem
  queue i task operation d hmem := by
    rw [hrestart.commands] at hmem
    cases hmem
  transitions i operation d hop := by
    rw [hrestart.operations] at hop
    cases hop
  deferred c deferred d hc := by
    rw [hrestart.deferredTransitions] at hc
    cases hc
  conflicts i error operation d hmem := by
    rw [hrestart.databaseResults] at hmem
    cases hmem
  lookups i operation d hop := by
    rw [hrestart.operations] at hop
    cases hop
  found i current operation d hmem := by
    rw [hrestart.databaseResults] at hmem
    cases hmem
  rows := by
    obtain ⟨written, hrecovery, hpast⟩ := hrestart.recovery
    rw [RuntimeBundle.trace]
    rw [hpast]
    refine RowsHaveOrigin.append ?_ fun r hr => ?_
    · have hall : ∀ rs : List CommandRecord, rs ⊆ written → (rs.map (·.commandId)).Nodup →
          RowsHaveOrigin (rs.map .committed ++ b.trace) := by
        intro rs hrs hnodup
        induction rs with
        | nil => exact h.rows
        | cons r rs ih =>
            refine RowsHaveOrigin.cons (ih (fun x hx => hrs (List.mem_cons_of_mem _ hx))
              (List.nodup_cons.mp hnodup).2) ?_
            obtain ⟨s, now, hrow, htype, hopen, rfl⟩ :=
              hrecovery.recovered r (hrs List.mem_cons_self)
            have hlatest := latest_of_table hl hrow
            refine .recovered ⟨?_, fun x hx hid => ?_⟩ htype hopen
            · exact committedRows_mono (fun e he => List.mem_append_right _ he) hlatest.committed
            · have hx' : x ∈ committedRows (rs.map .committed) ++ committedRows b.trace := by
                rw [← committedRows_append]
                exact hx
              rcases List.mem_append.mp hx' with hx | hx
              · -- the rows of one recovery are different commands
                obtain ⟨y, hy, hxy⟩ := List.mem_map.mp (mem_committedRows.mp hx)
                cases hxy
                have hsid : s.commandId = (s.recovered now).commandId := rfl
                exact absurd (List.mem_map.mpr ⟨x, hy, hid.trans hsid⟩)
                  (List.nodup_cons.mp hnodup).1
              · exact hlatest.last x hx hid
      exact hall written (fun x hx => hx) hrecovery.nodup
    · rcases hrestart.log _ hr with h' | ⟨message, h'⟩ <;> cases h'

lemma blank : Provenance .blank where
  active c context r hc := by cases hc
  publications t context r ht := by cases ht
  insertions i command hmem := by cases hmem
  queue i task operation d hmem := by cases hmem
  transitions i operation d hop := by cases hop
  deferred c deferred d hc := by cases hc
  conflicts i error operation d hmem := by cases hmem
  lookups i operation d hop := by cases hop
  found i current operation d hmem := by cases hmem
  rows l₁ r l₂ hsplit := by
    have hlen := congrArg List.length hsplit
    simp [RuntimeBundle.trace, RuntimeBundle.blank] at hlen

end Provenance

/-! ### New commands -/

/-- The error codes of commands that fail before they are stored. -/
def newErrorCodes : List String :=
  parseErrorCodes ++ resolveErrorCodes ++ ["target_offline", "invalid_request"]

/-- A command as it is created: it has no history, and is pending or has failed
on its way to a device. -/
structure IsNew (command : CommandRecord) : Prop where
  deviceAck : command.deviceAck = none
  dispatchedAt : command.dispatchedAt = none
  status : command.status = .pending ∨
    command.status = .failed ∧ ∃ code ∈ newErrorCodes, command.errorCode = some code

lemma isNew_newCommand (answers : Answers) (b : RuntimeBundle) {context : RequestContext}
    (requestId : String) (payload : Json) {root : Json} {kind : SourceKind}
    (hparsed : context.parsed = parseSourceJson context.commandType root kind) :
    IsNew (b.newCommand answers context requestId payload).1 := by
  have hresolve : ∀ code ∈ resolveErrorCodes, code ∈ newErrorCodes := fun code hcode =>
    List.mem_append_left _ (List.mem_append_right _ hcode)
  have hlast : ∀ code ∈ ["target_offline", "invalid_request"], code ∈ newErrorCodes :=
    fun code hcode => List.mem_append_right _ hcode
  rw [RuntimeBundle.newCommand]
  dsimp only
  split
  · next rejected hrejected =>
      refine ⟨rfl, rfl, .inr ⟨rfl, _, ?_, rfl⟩⟩
      rw [hparsed] at hrejected
      exact List.mem_append_left _ (List.mem_append_left _
        ((parseSourceJson_spec context.commandType root kind).2 rejected hrejected))
  · next request _ =>
      split
      · split
        · next error herror =>
            exact ⟨rfl, rfl, .inr ⟨rfl, _, hresolve _ (resolveConfigTarget_error_code herror),
              rfl⟩⟩
        · split
          · exact ⟨rfl, rfl, .inl rfl⟩
          · exact ⟨rfl, rfl, .inr ⟨rfl, _, hlast _ (by simp), rfl⟩⟩
      · exact ⟨rfl, rfl, .inr ⟨rfl, _, hlast _ (by simp), rfl⟩⟩
  · next request _ =>
      split
      · split
        · next error herror =>
            exact ⟨rfl, rfl, .inr ⟨rfl, _, hresolve _ (resolveControlTarget_error_code herror),
              rfl⟩⟩
        · split
          · exact ⟨rfl, rfl, .inl rfl⟩
          · exact ⟨rfl, rfl, .inr ⟨rfl, _, hlast _ (by simp), rfl⟩⟩
      · exact ⟨rfl, rfl, .inr ⟨rfl, _, hlast _ (by simp), rfl⟩⟩

lemma isNew_of_origin {b : RuntimeBundle} (hw : Wellformed b) {command : CommandRecord}
    (h : CreationOrigin b command) : IsNew command := by
  obtain ⟨i, operation, answers, requestId, payload, hop, hkind, -, rfl⟩ := h
  have hok := hw.operations i operation hop
  unfold OperationOk at hok
  rw [hkind] at hok
  obtain ⟨_, root, kind, hparsed, _⟩ := hok
  exact isNew_newCommand answers b requestId payload hparsed

/-! ### New rows -/

/-- **The rows of a tick**: old ones, or one with an origin in the trace before
the tick. -/
lemma Provenance.new_row {cfg : CommandServiceConfig} {b b' : RuntimeBundle} (hs : Sound b)
    (h : Provenance b) (htick : Tick cfg b b') {r : CommandRecord}
    (hr : r ∈ committedRows b'.trace) : r ∈ committedRows b.trace ∨ TaskOrigin b.trace r := by
  rcases htick.serviceStep with ⟨event, hevent, rfl⟩ | hstep
  · have hexecuted : ∀ {i : ℕ} {task : CommandDatabaseTask} (confirmed : Bool),
        (i, task) ∈ b.commands →
        .committed r ∈ executionEvents (execute b.table task).removed
          (execute b.table task).written confirmed ++ b.trace →
        r ∈ committedRows b.trace ∨ TaskOrigin b.trace r := by
      intro i task confirmed hmem hr
      rcases List.mem_append.mp hr with hr | hr
      · rcases mem_executionEvents.mp hr with ⟨_, _, h'⟩ | ⟨_, _, _, h'⟩ | ⟨s, hwritten, h'⟩
        · cases h'
        · cases h'
        · cases h'
          obtain ⟨operation, hop, hmatch⟩ := hs.wellformed.queue i task hmem
          rcases execute_cases b.table (Ledger.isService_of_matches hmatch) with
            ⟨hnone, _⟩ | ⟨s, hone, _⟩
          · rw [hnone] at hwritten
            cases hwritten
          · rw [hone] at hwritten
            cases List.mem_singleton.mp hwritten
            exact .inr (Provenance.taskOrigin_execute hs h hmem hone)
      · exact .inl (mem_committedRows.mpr hr)
    have hcommitted := mem_committedRows.mp hr
    rcases workerTurn_cases hevent with
      ⟨worker, _, heq⟩ | ⟨i, task, rest, hqueue, ⟨worker, _, heq⟩ |
        ⟨worker, message, _, _, _, heq⟩ | ⟨worker, _, _, heq⟩⟩
    · rw [heq] at hr
      exact .inl hr
    · rw [heq] at hcommitted
      refine hexecuted true (by rw [hqueue]; exact List.mem_cons_self) ?_
      simp only [RuntimeBundle.trace] at hcommitted ⊢
      rwa [List.append_assoc] at hcommitted
    · rw [heq] at hr
      exact .inl hr
    · rw [heq] at hcommitted
      refine hexecuted false (by rw [hqueue]; exact List.mem_cons_self) ?_
      simp only [RuntimeBundle.trace] at hcommitted ⊢
      rwa [List.append_assoc] at hcommitted
  · obtain ⟨es, hlog, hes, _⟩ := hstep.log
    refine .inl ?_
    have htrace : b'.trace = es ++ b.trace := by
      simp only [RuntimeBundle.trace]
      rw [hlog, hstep.past, List.append_assoc]
    rw [htrace, committedRows_append, Ledger.committedRows_of_isService hes] at hr
    exact hr

/-- The rows of a restart: old ones, or unfinished control commands that are now
uncertain. -/
lemma RuntimeBundle.Restarted.new_row {cfg : CommandServiceConfig} {b b' : RuntimeBundle}
    (hrestart : Restarted cfg b b') {r : CommandRecord} (hr : r ∈ committedRows b'.trace) :
    r ∈ committedRows b.trace ∨ ∃ row now, b.table.findCommandById r.commandId = some row ∧
      row.commandType = .control ∧ row.status.isTerminal = false ∧ r = row.recovered now := by
  obtain ⟨written, hrecovery, hpast⟩ := hrestart.recovery
  have hcommitted := mem_committedRows.mp hr
  unfold RuntimeBundle.trace at hcommitted
  rw [hpast] at hcommitted
  rcases List.mem_append.mp hcommitted with hlog | hcommitted
  · rcases hrestart.log _ hlog with h' | ⟨message, h'⟩ <;> cases h'
  · rcases List.mem_append.mp hcommitted with hwritten | hold
    · obtain ⟨s, hs, h'⟩ := List.mem_map.mp hwritten
      cases h'
      exact .inr (hrecovery.recovered r hs)
    · exact .inl (mem_committedRows.mpr hold)

/-! ### All of it -/

/-- The bookkeeping, the life cycles, the provenance and the new commands. -/
structure Traced (b : RuntimeBundle) : Prop where
  sound : Sound b
  provenance : Provenance b
  created : ∀ i command, .created i command ∈ b.trace → IsNew command

namespace Traced

variable {cfg : CommandServiceConfig} {b b' : RuntimeBundle}

lemma tick (h : Traced b) (htick : Tick cfg b b') : Traced b' where
  sound := h.sound.tick htick
  provenance := .tick h.sound h.provenance htick
  created i command hcreated := by
    rcases htick.created_cases h.sound.wellformed hcreated with hold | horigin
    · exact h.created i command hold
    · exact isNew_of_origin h.sound.wellformed horigin

lemma restarted (h : Traced b) (hrestart : Restarted cfg b b') : Traced b' where
  sound := h.sound.restarted hrestart
  provenance := .restarted h.sound.ledger (h.sound.restarted hrestart).ledger h.provenance hrestart
  created i command hcreated := h.created i command (hrestart.created hcreated)

lemma blank : Traced .blank := ⟨.blank, .blank, fun _ _ h => by cases h⟩

end Traced

/-- **All of it holds in every reachable state.** -/
theorem traced_of_reachable {cfg : CommandServiceConfig} {b : RuntimeBundle}
    (hb : (routeService cfg).Reachable b) : Traced b :=
  reachable_of_ticks Traced.blank (fun _ _ h hrestart => h.restarted hrestart)
    (fun _ _ h htick => h.tick htick) hb

end CnsServer
