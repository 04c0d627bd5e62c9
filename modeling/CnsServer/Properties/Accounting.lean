/-
Operations against tasks and results: `outstanding_operations_` counts
`operations_`, and every id there is queued at the worker or has a result on its
way back.

The second half fails where the worker gives up its queue, where it ends with
tasks in it, and where a result meets a service that is closed already.

* `Spares`: a turn of the worker that does none of this;
* `Balanced`: the invariant;
* `operations_accounted`: it holds in the runs whose worker turns all spare the
  queue;
* `operations_stranded`: a reconnection that fails for good strands an
  operation.
-/
import CnsServer.Invariants.Wellformed
import CnsServer.Runtime.Scenario

namespace CnsServer

open RuntimeBundle

/-! ### The condition -/

/-- The turn loses no queued task and no result: nothing is executed once the
service is closed, and a queue that is given up or left behind is empty. -/
def Spares (b : RuntimeBundle) : WorkerEvent → Prop
  | .runCommand (.lost _) => True
  | .runCommand _ =>
      b.closed = true → b.workerStopped = true ∨ b.unavailable = true ∨ b.commands = []
  | .reconnect .permanentFailure =>
      b.workerStopped = true ∨ b.unavailable = false ∨ b.commands = []
  | .finish => b.commands = []
  | _ => True

instance (b : RuntimeBundle) : (event : WorkerEvent) → Decidable (Spares b event)
  | .runCommand .completed => inferInstanceAs (Decidable (_ → _ ∨ _ ∨ _))
  | .runCommand (.failed _) => inferInstanceAs (Decidable (_ → _ ∨ _ ∨ _))
  | .runCommand (.lost _) => inferInstanceAs (Decidable True)
  | .loseConnection => inferInstanceAs (Decidable True)
  | .reconnect .connected => inferInstanceAs (Decidable True)
  | .reconnect .unavailable => inferInstanceAs (Decidable True)
  | .reconnect .permanentFailure => inferInstanceAs (Decidable (_ ∨ _ ∨ _))
  | .flushAndStop => inferInstanceAs (Decidable True)
  | .finish => inferInstanceAs (Decidable (_ = _))

/-- Every turn the worker makes during the input spares its queue. -/
def Input.SparesQueue (cfg : CommandServiceConfig) (b : RuntimeBundle) (input : Input) : Prop :=
  ∀ p ∈ input.workerTurns cfg b, Spares p.1 p.2

instance (cfg : CommandServiceConfig) (b : RuntimeBundle) (input : Input) :
    Decidable (input.SparesQueue cfg b) :=
  inferInstanceAs (Decidable (∀ p ∈ input.workerTurns cfg b, Spares p.1 p.2))

/-! ### The invariant -/

/-- Every operation is counted, and is queued or answered. -/
structure Balanced (b : RuntimeBundle) : Prop where
  outstanding : b.outstandingOperations = b.operations.keys.length
  known : ∀ i operation, b.operations.lookup i = some operation → i ∈ pipeline b
  accepting : b.accepting = true → b.workerStopped = false
  stopped : b.workerStopped = true → b.commands = []

lemma accepting_of_submit {cfg : CommandServiceConfig} {b : RuntimeBundle} {kind : OperationKind}
    {context : RequestContext} {task : CommandDatabaseTask}
    (h : (b.submit cfg kind context task).1 = true) : b.accepting = true := by
  unfold submit at h
  dsimp only at h
  split at h
  · cases h
  · next worker hworker =>
      unfold PostgresWorker.submitCommand at hworker
      split at hworker
      · cases hworker
      · next hroom =>
          simp only [Bool.or_eq_true, Bool.not_eq_true', not_or, Bool.not_eq_false] at hroom
          exact hroom.1.1

namespace Balanced

variable {cfg : CommandServiceConfig} {b b' : RuntimeBundle}

/-- The operations stay as they are, and no id leaves the pipeline. -/
lemma moved (h : Balanced b) (houtstanding : b'.outstandingOperations = b.outstandingOperations)
    (hoperations : ∀ i, b'.operations.lookup i = b.operations.lookup i)
    (hpipeline : ∀ i ∈ pipeline b, i ∈ pipeline b')
    (haccepting : b'.accepting = true → b'.workerStopped = false)
    (hstopped : b'.workerStopped = true → b'.commands = []) : Balanced b' where
  outstanding := by rw [houtstanding, h.outstanding, Map.length_keys_congr hoperations]
  known i operation hop := by
    rw [hoperations] at hop
    exact hpipeline i (h.known i operation hop)
  accepting := haccepting
  stopped := hstopped

/-- Neither the worker nor the operations change. -/
lemma same (h : Balanced b) (hworker : b'.toPostgresWorker = b.toPostgresWorker)
    (hresults : b'.databaseResults = b.databaseResults) (hoperations : b'.operations = b.operations)
    (houtstanding : b'.outstandingOperations = b.outstandingOperations) : Balanced b' := by
  refine h.moved houtstanding (fun i => by rw [hoperations]) (fun i hi => ?_) ?_ ?_
  · rw [pipeline] at hi ⊢
    rw [hworker, hresults]
    exact hi
  · rw [hworker]
    exact h.accepting
  · rw [hworker]
    exact h.stopped

/-- A new operation is counted and queued. -/
lemma submit (h : Balanced b) (hfresh : b.operations.lookup b.nextOperationId = none)
    (kind : OperationKind) (context : RequestContext) (task : CommandDatabaseTask) :
    Balanced (b.submit cfg kind context task).2 := by
  rcases submit_cases cfg b kind context task with heq | heq
  · have haccepting := @accepting_of_submit cfg b kind context task (by rw [heq])
    rw [heq]
    refine ⟨?_, fun i operation hop => ?_, h.accepting, fun hstopped => ?_⟩
    · change b.outstandingOperations + 1 = (b.operations.insert _ _).keys.length
      have hnew : b.nextOperationId ∉ b.operations.keys := fun hmem => by
        obtain ⟨operation, hop⟩ := Map.mem_keys_iff.mp hmem
        rw [hfresh] at hop
        cases hop
      rw [Map.length_keys_insert, if_neg hnew, h.outstanding]
    · have hpipeline : pipeline (b.accepted kind context task) =
          pipeline b ++ [b.nextOperationId] := by
        simp [pipeline, accepted]
      rw [hpipeline]
      rcases Map.lookup_insert_some.mp hop with ⟨rfl, _⟩ | ⟨_, hold⟩
      · exact List.mem_append_right _ (List.mem_singleton_self _)
      · exact List.mem_append_left _ (h.known i operation hold)
    · exact absurd ((h.accepting haccepting).symm.trans hstopped) (by decide)
  · rw [heq]
    exact h.same rfl rfl rfl rfl

lemma form (h : Balanced b) (hfresh : b.operations.lookup b.nextOperationId = none)
    (context : RequestContext) (task : TransitionCommandTask) :
    Balanced (b.submitTransitionOrDefer cfg context task) := by
  have hemit : Balanced (b.emit (.formed task (b.replaced task.commandId))) :=
    h.same rfl rfl rfl rfl
  have hsubmit := @submit cfg _ hemit hfresh .transition context task.toTask
  rw [submitTransitionOrDefer]
  split
  · next heq =>
      rw [heq] at hsubmit
      exact hsubmit.same rfl rfl rfl rfl
  · next heq =>
      rw [heq] at hsubmit
      exact hsubmit.same rfl rfl rfl rfl

lemma publish (h : Balanced b) (hfresh : b.operations.lookup b.nextOperationId = none)
    (answers : Answers) (context : RequestContext) (now : TimePoint) :
    Balanced (b.publishRecord cfg answers context now) := by
  rcases publishRecord_cases cfg answers b context now with
    heq | ⟨record, deviceId, payload, _, _, _, _, heq | heq⟩
  · rw [heq]
    exact h
  · rw [heq]
    exact h.same rfl rfl rfl rfl
  · rw [heq]
    have hunsent : Balanced (b.unsent cfg context record deviceId payload) :=
      h.same rfl rfl rfl rfl
    exact hunsent.form hfresh _ _

lemma complete (h : Balanced b) (hfresh : b.operations.lookup b.nextOperationId = none)
    {completion : PublishCompletion} {context : RequestContext} {now : TimePoint}
    (hfound : b.publications.lookup completion.token = some context) :
    Balanced (b.handleCompletion cfg completion now) := by
  rcases handleCompletion_cases cfg now hfound with
    ⟨_, heq⟩ | ⟨record, _, ⟨_, _, heq⟩ | ⟨_, heq⟩⟩
  · rw [heq]
    exact h.same rfl rfl rfl rfl
  · rw [heq]
    exact h.same rfl rfl rfl rfl
  · rw [heq]
    have htaken : Balanced (b.completionTaken completion.token record completion.result) :=
      h.same rfl rfl rfl rfl
    exact htaken.form hfresh _ _

lemma retry (h : Balanced b) (hfresh : b.operations.lookup b.nextOperationId = none)
    (key : String) (deferred : DeferredTransition) :
    Balanced (b.retryDeferred cfg key deferred) := by
  have herase : Balanced { b with deferredTransitions := b.deferredTransitions.erase key } :=
    h.same rfl rfl rfl rfl
  have hsubmit := @submit cfg _ herase hfresh .transition deferred.context deferred.task.toTask
  rw [retryDeferred]
  split
  · next heq =>
      rw [heq] at hsubmit
      exact hsubmit
  · next heq =>
      rw [heq] at hsubmit
      exact hsubmit.same rfl rfl rfl rfl

/-- A result goes with its operation. -/
lemma taken (h : Balanced b) {operationId : ℕ}
    {value : Except DatabaseError CommandDatabaseValue} {rest : List CommandDatabaseResult}
    (hhead : b.databaseResults = ⟨operationId, value⟩ :: rest) :
    Balanced (b.taken operationId rest) where
  outstanding := by
    change b.outstandingOperations - _ = (b.operations.erase operationId).keys.length
    rw [Map.length_keys_erase, h.outstanding]
    cases hop : b.operations.lookup operationId with
    | none =>
        have hnot : operationId ∉ b.operations.keys := fun hmem => by
          obtain ⟨operation, hop'⟩ := Map.mem_keys_iff.mp hmem
          rw [hop] at hop'
          cases hop'
        simp [hnot]
    | some operation =>
        have hmem : operationId ∈ b.operations.keys := Map.mem_keys_iff.mpr ⟨operation, hop⟩
        simp [hmem]
  known i operation hop := by
    change (b.operations.erase operationId).lookup i = some operation at hop
    rw [Map.lookup_erase_ite] at hop
    split at hop
    · cases hop
    · next hne =>
        have hmem := h.known i operation hop
        rw [pipeline] at hmem ⊢
        rw [hhead] at hmem
        exact (List.mem_cons.mp hmem).resolve_left hne
  accepting := h.accepting
  stopped := h.stopped

/-- A turn without results keeps the queue. -/
lemma still (h : Balanced b) {event : WorkerEvent}
    (hemitted : (b.toPostgresWorker.turn b.table event).emitted = [])
    (hcommands : (b.toPostgresWorker.turn b.table event).worker.commands = b.commands)
    (haccepting : (b.toPostgresWorker.turn b.table event).worker.accepting = true →
      (b.toPostgresWorker.turn b.table event).worker.workerStopped = false)
    (hstopped : (b.toPostgresWorker.turn b.table event).worker.workerStopped = true →
      b.commands = []) : Balanced (b.workerTurn event) := by
  refine h.moved rfl (fun _ => rfl) (fun i hi => ?_) haccepting fun hs =>
    hcommands.trans (hstopped hs)
  rw [pipeline] at hi ⊢
  have hresults : (b.workerTurn event).databaseResults = b.databaseResults := by
    rw [RuntimeBundle.workerTurn]
    dsimp only
    rw [hemitted, List.append_nil, ite_self]
  rw [hresults]
  exact hcommands.symm ▸ hi

/-- The front task leaves the queue with its result. -/
lemma answered (h : Balanced b) {event : WorkerEvent} {operationId : ℕ}
    {task : CommandDatabaseTask} {rest : List (ℕ × CommandDatabaseTask)}
    {value : Except DatabaseError CommandDatabaseValue}
    (hqueue : b.commands = (operationId, task) :: rest) (hopen : b.closed = false)
    (hemitted : (b.toPostgresWorker.turn b.table event).emitted = [⟨operationId, value⟩])
    (hworker : (b.toPostgresWorker.turn b.table event).worker =
      { b.toPostgresWorker with
        commands := rest
        commandOperations := b.commandOperations.erase operationId }) :
    Balanced (b.workerTurn event) := by
  have hturned : (b.workerTurn event).toPostgresWorker =
      { b.toPostgresWorker with
        commands := rest
        commandOperations := b.commandOperations.erase operationId } := hworker
  have hresults : (b.workerTurn event).databaseResults =
      b.databaseResults ++ [⟨operationId, value⟩] := by
    rw [RuntimeBundle.workerTurn]
    dsimp only
    rw [hemitted, hopen]
    rfl
  refine h.moved rfl (fun _ => rfl) (fun i hi => ?_) ?_ ?_
  · rw [pipeline] at hi ⊢
    rw [hturned, hresults]
    rw [hqueue] at hi
    simpa using hi
  · rw [hturned]
    exact h.accepting
  · rw [hturned]
    intro hstopped
    rw [h.stopped hstopped] at hqueue
    cases hqueue

/-- **A turn that spares the queue keeps every operation in the pipeline.** -/
lemma workerTurn (h : Balanced b) {event : WorkerEvent} (hspares : Spares b event) :
    Balanced (b.workerTurn event) := by
  cases event with
  | runCommand outcome =>
      by_cases hidle : b.workerStopped = true ∨ b.unavailable = true
      · have hturn : b.toPostgresWorker.turn b.table (.runCommand outcome) =
            { worker := b.toPostgresWorker, table := b.table } := by
          simp only [PostgresWorker.turn]
          rw [if_pos (by simpa using hidle)]
        exact h.still (by rw [hturn]) (by rw [hturn]) (by rw [hturn]; exact h.accepting)
          (by rw [hturn]; exact h.stopped)
      · have hbusy : (b.workerStopped || b.unavailable) = false := by simpa using hidle
        cases hqueue : b.commands with
        | nil =>
            have hturn : b.toPostgresWorker.turn b.table (.runCommand outcome) =
                { worker := b.toPostgresWorker, table := b.table } := by
              simp only [PostgresWorker.turn, hbusy, hqueue, Bool.false_eq_true, if_false]
            exact h.still (by rw [hturn]) (by rw [hturn]) (by rw [hturn]; exact h.accepting)
              (by rw [hturn]; exact fun _ => hqueue)
        | cons entry rest =>
            obtain ⟨operationId, task⟩ := entry
            have hturn : b.toPostgresWorker.turn b.table (.runCommand outcome) =
                b.toPostgresWorker.runCommand b.table operationId task rest outcome := by
              simp only [PostgresWorker.turn, hbusy, hqueue, Bool.false_eq_true, if_false]
            have hopen : (∀ committed, outcome ≠ .lost committed) → b.closed = false := by
              intro hanswered
              by_contra hclosed
              have hclosed : b.closed = true := by simpa using hclosed
              have hspared : b.workerStopped = true ∨ b.unavailable = true ∨ b.commands = [] := by
                cases outcome with
                | completed => exact hspares hclosed
                | failed message => exact hspares hclosed
                | lost committed => exact absurd rfl (hanswered committed)
              rcases hspared with hstopped | hunavailable | hnil
              · exact hidle (.inl hstopped)
              · exact hidle (.inr hunavailable)
              · rw [hnil] at hqueue
                cases hqueue
            cases outcome with
            | completed =>
                exact h.answered hqueue (hopen fun _ => by simp) (by rw [hturn]; rfl)
                  (by rw [hturn]; rfl)
            | failed message =>
                exact h.answered hqueue (hopen fun _ => by simp) (by rw [hturn]; rfl)
                  (by rw [hturn]; rfl)
            | lost committed =>
                cases committed with
                | false =>
                    exact h.still (by rw [hturn]; rfl) (by rw [hturn]; rfl)
                      (by rw [hturn]; exact h.accepting) (by rw [hturn]; exact h.stopped)
                | true =>
                    exact h.still (by rw [hturn]; rfl) (by rw [hturn]; rfl)
                      (by rw [hturn]; exact h.accepting) (by rw [hturn]; exact h.stopped)
  | loseConnection =>
      have hturn : ∃ unavailable, b.toPostgresWorker.turn b.table .loseConnection =
          { worker := { b.toPostgresWorker with unavailable := unavailable }
            table := b.table } := by
        simp only [PostgresWorker.turn]
        split
        · exact ⟨b.unavailable, rfl⟩
        · exact ⟨true, rfl⟩
      obtain ⟨unavailable, hturn⟩ := hturn
      exact h.still (by rw [hturn]) (by rw [hturn]) (by rw [hturn]; exact h.accepting)
        (by rw [hturn]; exact h.stopped)
  | reconnect outcome =>
      by_cases hidle : b.workerStopped = true ∨ b.unavailable = false
      · have hturn : b.toPostgresWorker.turn b.table (.reconnect outcome) =
            { worker := b.toPostgresWorker, table := b.table } := by
          simp only [PostgresWorker.turn]
          rw [if_pos (by simpa using hidle)]
        exact h.still (by rw [hturn]) (by rw [hturn]) (by rw [hturn]; exact h.accepting)
          (by rw [hturn]; exact h.stopped)
      · have hdue : (b.workerStopped || !b.unavailable) = false := by simpa using hidle
        cases outcome with
        | connected =>
            have hturn : b.toPostgresWorker.turn b.table (.reconnect .connected) =
                { worker := { b.toPostgresWorker with unavailable := false }
                  table := b.table } := by
              simp only [PostgresWorker.turn, hdue, Bool.false_eq_true, if_false]
            exact h.still (by rw [hturn]) (by rw [hturn]) (by rw [hturn]; exact h.accepting)
              (by rw [hturn]; exact h.stopped)
        | unavailable =>
            have hturn : b.toPostgresWorker.turn b.table (.reconnect .unavailable) =
                { worker := b.toPostgresWorker, table := b.table } := by
              simp only [PostgresWorker.turn, hdue, Bool.false_eq_true, if_false]
            exact h.still (by rw [hturn]) (by rw [hturn]) (by rw [hturn]; exact h.accepting)
              (by rw [hturn]; exact h.stopped)
        | permanentFailure =>
            have hempty : b.commands = [] := by
              rcases hspares with hstopped | havailable | hnil
              · exact absurd (.inl hstopped) hidle
              · exact absurd (.inr havailable) hidle
              · exact hnil
            have hturn : b.toPostgresWorker.turn b.table (.reconnect .permanentFailure) =
                { worker := PostgresWorker.finish
                    { b.toPostgresWorker with commands := [], commandOperations := ∅ }
                  table := b.table } := by
              simp only [PostgresWorker.turn, hdue, Bool.false_eq_true, if_false]
            exact h.still (by rw [hturn]) (by rw [hturn, hempty]; rfl)
              (by rw [hturn]; exact fun haccepting => by cases haccepting)
              (by rw [hturn]; exact fun _ => hempty)
  | flushAndStop =>
      exact h.still rfl rfl (fun haccepting => by cases haccepting) h.stopped
  | finish =>
      exact h.still rfl rfl (fun haccepting => by cases haccepting) fun _ => hspares

/-- **Every tick keeps the balance**, if the turns of the worker spare its
queue. -/
lemma tick (hw : Wellformed b) (h : Balanced b) (htick : TickIf (.onTurns Spares) cfg b b') :
    Balanced b' := by
  have hfresh : b.operations.lookup b.nextOperationId = none := by
    cases hop : b.operations.lookup b.nextOperationId with
    | none => rfl
    | some operation => exact absurd (hw.operations_lt _ _ hop) (Nat.lt_irrefl _)
  have htaken : ∀ i rest, (b.taken i rest).operations.lookup (b.taken i rest).nextOperationId =
      none := by
    intro i rest
    change (b.operations.erase i).lookup b.nextOperationId = none
    rw [Map.lookup_erase_ite, hfresh]
    split <;> rfl
  cases htick with
  | quiet hcore =>
      refine h.moved hcore.outstandingOperations hcore.operations (fun i hi => ?_) ?_ ?_
      · rw [pipeline] at hi ⊢
        rw [hcore.worker, hcore.databaseResults]
        exact hi
      · rw [hcore.worker]
        exact h.accepting
      · rw [hcore.worker]
        exact h.stopped
  | worker _ hspares => exact h.workerTurn hspares
  | mqtt => exact h.same rfl rfl rfl rfl
  | device => exact h.same rfl rfl rfl rfl
  | find => exact h.submit hfresh _ _ _
  | cleanup => exact h.submit hfresh _ _ _
  | consumed hhead => exact (h.taken hhead).same rfl rfl rfl rfl
  | @create answers operationId operation rest requestId payload hhead =>
      have hcreated : Balanced ((b.taken operationId rest).emit (.created operationId
          (b.newCommand answers operation.context requestId payload).1)) :=
        (h.taken hhead).same rfl rfl rfl rfl
      exact hcreated.submit (htaken operationId rest) _ _ _
  | conflict hhead => exact (h.taken hhead).submit (htaken _ _) _ _ _
  | @activate answers operationId operation rest record now hhead =>
      have hactivated : Balanced { b.taken operationId rest with
          activeCommands := b.activeCommands.insert record.commandId
            { operation.context with record := some record } } :=
        (h.taken hhead).same rfl rfl rfl rfl
      exact hactivated.publish (htaken operationId rest) _ _ _
  | refresh _ _ hhead => exact (h.taken hhead).same rfl rfl rfl rfl
  | settle hhead => exact (h.taken hhead).same rfl rfl rfl rfl
  | converge _ hhead =>
      rcases hhead with hhead | hhead
      · exact (h.taken hhead.1).form (htaken _ _) _ _
      · exact (h.taken hhead.1).form (htaken _ _) _ _
  | finish _ _ hhead => exact (h.taken hhead).same rfl rfl rfl rfl
  | finished hhead => exact (h.taken hhead).same rfl rfl rfl rfl
  | @deviceAck context record ack deviceId payload type now =>
      have hemit : Balanced (b.emit (.deviceAcked deviceId type ack (some record.status))) :=
        h.same rfl rfl rfl rfl
      exact hemit.form hfresh _ _
  | @buffer context record ack deviceId payload type now =>
      have hemit : Balanced (b.emit (.deviceAcked deviceId type ack (some record.status))) :=
        h.same rfl rfl rfl rfl
      rcases bufferEarlyAck_cases cfg (b.emit (.deviceAcked deviceId type ack
        (some record.status))) type ack ⟨deviceId, payload, now⟩ with
        ⟨kept, _, heq⟩ | ⟨message, heq⟩
      · rw [heq]
        exact hemit.same rfl rfl rfl rfl
      · rw [heq]
        exact hemit.same rfl rfl rfl rfl
  | @timeout commandId =>
      have hmark : Balanced { b with recoveryStarted := insert commandId b.recoveryStarted } :=
        h.same rfl rfl rfl rfl
      exact hmark.form hfresh _ _
  | @republish answers commandId =>
      have hmark : Balanced { b with recoveryStarted := insert commandId b.recoveryStarted } :=
        h.same rfl rfl rfl rfl
      exact hmark.publish hfresh _ _ _
  | complete hfound => exact h.complete hfresh hfound
  | retry => exact h.retry hfresh _ _

/-- A new process has no operation. -/
lemma restarted (hrestart : Restarted cfg b b') : Balanced b' where
  outstanding := by
    have hempty : ∀ i, b'.operations.lookup i = (∅ : Map ℕ Operation).lookup i :=
      fun i => hrestart.operations i
    rw [hrestart.outstandingOperations, Map.length_keys_congr hempty]
    rfl
  known i operation hop := by
    rw [hrestart.operations] at hop
    cases hop
  accepting _ := by
    rw [hrestart.worker]
    rfl
  stopped _ := hrestart.commands

lemma blank : Balanced .blank where
  outstanding := rfl
  known i operation hop := by cases hop
  accepting _ := rfl
  stopped _ := rfl

end Balanced

/-! ### Accounted operations -/

section

variable {cfg : CommandServiceConfig} {b : RuntimeBundle}

/-- The runs whose worker turns all spare the queue. -/
lemma balanced_of_reachable
    (hb : ((routeService cfg).restrict (Input.SparesQueue cfg)).Reachable b) :
    Wellformed b ∧ Balanced b :=
  @restricted_of_turns cfg (Input.SparesQueue cfg) (.onTurns Spares)
    (fun _ _ h => Input.meets_onTurns h)
    (fun b => Wellformed b ∧ Balanced b) ⟨.blank, .blank⟩
    (fun _ _ h hrestart _ => ⟨h.1.restarted hrestart, .restarted hrestart⟩)
    (fun _ _ h htick _ => ⟨h.1.tick htick.tick, .tick h.1 h.2 htick⟩) b hb

/-- Every operation is at the worker or has a result on its way. -/
lemma Balanced.queued_or_answered (h : Balanced b) :
    ∀ i ∈ b.operations.keys,
      i ∈ b.commands.map Prod.fst ∨
        i ∈ b.databaseResults.map CommandDatabaseResult.operationId := by
  intro i hi
  obtain ⟨operation, hop⟩ := Map.mem_keys_iff.mp hi
  exact (List.mem_append.mp (h.known i operation hop)).symm

/-- With both queues empty, no operation is left. -/
lemma Balanced.drained (h : Balanced b) (hcommands : b.commands = [])
    (hresults : b.databaseResults = []) : b.operations.keys = [] := by
  refine List.eq_nil_iff_forall_not_mem.mpr fun i hi => ?_
  rcases h.queued_or_answered i hi with hmem | hmem
  · rw [hcommands] at hmem
    cases hmem
  · rw [hresults] at hmem
    cases hmem

end

/-- **Operation accounting**: where no turn of the worker loses a queued task or
a result, `outstanding_operations_` is the size of `operations_`, every id there
is at the worker or has a result on its way, and nothing is left once the worker
has stopped and all results are processed. -/
theorem operations_accounted {cfg : CommandServiceConfig} {b : RuntimeBundle}
    (hb : ((routeService cfg).restrict (Input.SparesQueue cfg)).Reachable b) :
    b.outstandingOperations = b.operations.keys.length ∧
      (∀ i ∈ b.operations.keys,
        i ∈ b.commands.map Prod.fst ∨
          i ∈ b.databaseResults.map CommandDatabaseResult.operationId) ∧
      (b.workerStopped = true → b.databaseResults = [] → b.operations.keys = []) := by
  have hbalanced : Balanced b := (balanced_of_reachable hb).2
  refine ⟨hbalanced.outstanding, hbalanced.queued_or_answered, fun hstopped hresults => ?_⟩
  exact hbalanced.drained (hbalanced.stopped hstopped) hresults

/-- The sample installation: a configuration is stored and dispatched, and the
worker drains and ends. -/
theorem operations_accounted_drained :
    (play Sample.config Sample.started (Sample.dispatched .config true ++
        [.worker .flushAndStop, .worker .finish])).workerStopped = true ∧
      (play Sample.config Sample.started (Sample.dispatched .config true ++
        [.worker .flushAndStop, .worker .finish])).operations.keys = [] := by
  have hb : ((routeService Sample.config).restrict (Input.SparesQueue Sample.config)).Reachable
      (play Sample.config Sample.started (Sample.dispatched .config true ++
        [.worker .flushAndStop, .worker .finish])) :=
    @reachable_of_admitted Sample.config (Input.SparesQueue Sample.config)
      (fun b input => decide ((input.toInput b).SparesQueue Sample.config b))
      (fun _ _ h => of_decide_eq_true h) _ (reachable_firstStart _ _ _ _) _ (by decide +kernel)
  have hstopped : (play Sample.config Sample.started (Sample.dispatched .config true ++
      [.worker .flushAndStop, .worker .finish])).workerStopped = true := by decide +kernel
  exact ⟨hstopped, (operations_accounted hb).2.2 hstopped (by decide +kernel)⟩

/-- A request is being searched for when the connection is lost and the
reconnection fails for good: the worker has stopped, no result is on its way,
and the search is still counted. -/
theorem operations_stranded :
    (routeService Sample.config).Reachable
        (play Sample.config Sample.started (Sample.requested .config ++
          [.worker .loseConnection, .worker (.reconnect .permanentFailure)])) ∧
      (play Sample.config Sample.started (Sample.requested .config ++
          [.worker .loseConnection, .worker (.reconnect .permanentFailure)])).workerStopped =
        true ∧
      (play Sample.config Sample.started (Sample.requested .config ++
          [.worker .loseConnection, .worker (.reconnect .permanentFailure)])).databaseResults =
        [] ∧
      (play Sample.config Sample.started (Sample.requested .config ++
          [.worker .loseConnection, .worker (.reconnect .permanentFailure)])).operations.keys =
        [1] := by
  refine ⟨?_, by decide +kernel, by decide +kernel, by decide +kernel⟩
  exact reachable_of_played (reachable_firstStart Sample.config (fun _ _ => True) Sample.sources
    (DeviceRegistry.empty.put (Sample.device .online))).of_restrict (by decide +kernel)

end CnsServer
