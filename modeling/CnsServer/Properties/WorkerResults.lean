/-
Order and number of the results of the worker thread.

A command that meets a broken connection goes back to the front of the queue,
new ones are appended at the back, and the thread has at most one in hand.  So
the ids of the results, of what is in hand and of the queue, in this order, are
always the ids that were accepted (`InOrder.accepted`).

* `InOrder`: the invariant;
* `commandResults_in_order`: it holds as long as the loop has not stopped.
-/
import CnsServer.Runtime.WorkerLoop

namespace CnsServer

namespace WorkerLoop

/-- The ids under way: of the result in hand, of the command being executed, and
of the queue. -/
def underWay (w : WorkerLoop) : List ℕ :=
  w.hand.results.map (·.operationId) ++ (w.hand.commands ++ w.commands).map Prod.fst

end WorkerLoop

/-- Commands and results are in the order of their acceptance. -/
structure InOrder (cfg : WorkerConfig) (w : WorkerLoop) : Prop where
  accepted : w.workerStopped = false →
    w.accepted = w.commandResults.map (·.operationId) ++ w.underWay
  operations : w.workerStopped = false →
    w.commandOperations = ((w.hand.commands ++ w.commands).map Prod.fst).toFinset
  nodup : ((w.hand.commands ++ w.commands).map Prod.fst).Nodup
  room : w.commandOperations.card ≤ cfg.maxInflightCommands
  kinds : ∀ r ∈ w.commandResults ++ w.hand.results, ∀ error, r.value = .error error →
    error.kind ≠ .unavailable
  accepting : w.accepting = true → w.workerStopped = false

/-- The two states agree on the command side, except that the second may have
stopped. -/
structure SameCommands (w w' : WorkerLoop) : Prop where
  commands : w'.hand.commands ++ w'.commands = w.hand.commands ++ w.commands
  results : w'.hand.results = w.hand.results
  commandOperations : w'.commandOperations = w.commandOperations
  accepted : w'.accepted = w.accepted
  commandResults : w'.commandResults = w.commandResults
  workerStopped : w'.workerStopped = false → w.workerStopped = false
  accepting : w'.accepting = true → w.accepting = true ∧ w'.workerStopped = w.workerStopped

namespace InOrder

variable {cfg : WorkerConfig} {w w' : WorkerLoop}

lemma same (h : InOrder cfg w) (hsame : SameCommands w w') : InOrder cfg w' where
  accepted hrunning := by
    rw [WorkerLoop.underWay]
    rw [hsame.accepted, hsame.commandResults, hsame.results, hsame.commands]
    exact h.accepted (hsame.workerStopped hrunning)
  operations hrunning := by
    rw [hsame.commandOperations, hsame.commands]
    exact h.operations (hsame.workerStopped hrunning)
  nodup := by rw [hsame.commands]; exact h.nodup
  room := by rw [hsame.commandOperations]; exact h.room
  kinds := by rw [hsame.commandResults, hsame.results]; exact h.kinds
  accepting haccepting := by
    obtain ⟨hbefore, hstopped⟩ := hsame.accepting haccepting
    rw [hstopped]
    exact h.accepting hbefore

lemma fresh : InOrder cfg .fresh where
  accepted _ := rfl
  operations _ := rfl
  nodup := List.nodup_nil
  room := Nat.zero_le _
  kinds r hr := by cases hr
  accepting _ := rfl

/-- One more command, at the back of the queue. -/
lemma submitCommand (h : InOrder cfg w) (operationId : ℕ) (task : CommandDatabaseTask) :
    InOrder cfg (w.submitCommand cfg operationId task) := by
  rw [WorkerLoop.submitCommand]
  split
  · exact h
  · next hroom =>
      simp only [Bool.or_eq_true, Bool.not_eq_true', decide_eq_true_eq, not_or, not_le,
        Bool.not_eq_false] at hroom
      obtain ⟨⟨haccepting, hnew⟩, hfree⟩ := hroom
      have hrunning := h.accepting haccepting
      have hnotin : operationId ∉ (w.hand.commands ++ w.commands).map Prod.fst := by
        rw [h.operations hrunning] at hnew
        simpa using hnew
      refine ⟨fun _ => ?_, fun _ => ?_, ?_, ?_, h.kinds, h.accepting⟩
      · change w.accepted ++ [operationId] = _
        rw [h.accepted hrunning]
        simp [WorkerLoop.underWay]
      · change insert operationId w.commandOperations = _
        rw [h.operations hrunning]
        ext i
        simp [or_comm]
      · change ((w.hand.commands ++ (w.commands ++ [(operationId, task)])).map Prod.fst).Nodup
        rw [← List.append_assoc, List.map_append]
        exact List.Nodup.append h.nodup (List.nodup_singleton _)
          (List.disjoint_singleton.mpr hnotin)
      · change (insert operationId w.commandOperations).card ≤ _
        exact (Finset.card_insert_le _ _).trans hfree

/-- The locked block hands over what was at the front. -/
lemma select (h : InOrder cfg w) (hfree : w.hand = .free) (stopRequested : Bool)
    (first : List String → Option String) (now : TimePoint) :
    InOrder cfg (w.select stopRequested first now) := by
  refine h.same ?_
  have hrefl : SameCommands w w := ⟨rfl, rfl, rfl, rfl, rfl, id, fun h => ⟨h, rfl⟩⟩
  have hfinish : SameCommands w w.finish := ⟨rfl, rfl, rfl, rfl, rfl, nofun, nofun⟩
  rw [WorkerLoop.select]
  split
  · exact hfinish
  · split
    · split
      · exact hrefl
      · exact ⟨by rw [hfree]; rfl, by rw [hfree]; rfl, rfl, rfl, rfl, id, fun h => ⟨h, rfl⟩⟩
    · split
      · next hqueue => exact ⟨by rw [hfree, hqueue]; rfl, by rw [hfree]; rfl,
          rfl, rfl, rfl, id, fun h => ⟨h, rfl⟩⟩
      · split
        · exact ⟨by rw [hfree]; rfl, by rw [hfree]; rfl, rfl, rfl, rfl, id, fun h => ⟨h, rfl⟩⟩
        · split
          · exact ⟨by rw [hfree]; rfl, by rw [hfree]; rfl, rfl, rfl, rfl, id, fun h => ⟨h, rfl⟩⟩
          · split
            · exact hfinish
            · exact hrefl

/-- Reconnections leave the commands alone, or end the loop. -/
lemma finishReconnect (h : InOrder cfg w) (hhand : w.hand = .reconnect)
    (outcome : PortOutcome Unit) (now : TimePoint) :
    InOrder cfg (w.finishReconnect cfg outcome now) := by
  rw [WorkerLoop.finishReconnect]
  split
  · exact h.same ⟨by rw [hhand]; rfl, by rw [hhand]; rfl, rfl, rfl, rfl, id, fun h => ⟨h, rfl⟩⟩
  · split
    · exact h.same ⟨by rw [hhand]; rfl, by rw [hhand]; rfl, rfl, rfl, rfl, id, fun h => ⟨h, rfl⟩⟩
    · refine ⟨fun hstopped => ?_, fun hstopped => ?_, List.nodup_nil, Nat.zero_le _,
        fun r hr => h.kinds r ?_, fun haccepting => ?_⟩
      · cases hstopped
      · cases hstopped
      · rw [hhand]
        exact hr
      · cases haccepting

/-- The command in hand goes back to the front, or its result is in hand. -/
lemma finishCommand (h : InOrder cfg w) {operationId : ℕ} {task : CommandDatabaseTask}
    (hhand : w.hand = .command operationId task) (outcome : PortOutcome CommandDatabaseValue)
    (now : TimePoint) : InOrder cfg (w.finishCommand cfg operationId task outcome now) := by
  have hnodup := h.nodup
  rw [hhand] at hnodup
  have hanswer : ∀ value : Except DatabaseError CommandDatabaseValue,
      (∀ error, value = .error error → error.kind ≠ .unavailable) → InOrder cfg { w with
        commandOperations := w.commandOperations.erase operationId
        hand := .result ⟨operationId, value⟩ } := by
    intro value hvalue
    refine ⟨fun hrunning => ?_, fun hrunning => ?_, ?_, ?_, fun r hr error herror => ?_,
      h.accepting⟩
    · have haccepted := h.accepted hrunning
      rw [WorkerLoop.underWay] at haccepted ⊢
      rw [hhand] at haccepted
      exact haccepted
    · have hoperations := h.operations hrunning
      rw [hhand] at hoperations
      change w.commandOperations.erase operationId = (w.commands.map Prod.fst).toFinset
      rw [hoperations]
      have hcons : (((Hand.command operationId task).commands ++ w.commands).map
          Prod.fst).toFinset = insert operationId (w.commands.map Prod.fst).toFinset :=
        List.toFinset_cons
      rw [hcons]
      exact Finset.erase_insert fun hmem =>
        (List.nodup_cons.mp hnodup).1 (List.mem_toFinset.mp hmem)
    · exact (List.nodup_cons.mp hnodup).2
    · exact (Finset.card_le_card (Finset.erase_subset _ _)).trans h.room
    · rcases List.mem_append.mp hr with hold | hnew
      · exact h.kinds r (List.mem_append_left _ hold) error herror
      · have hr : r = ⟨operationId, value⟩ := List.mem_singleton.mp hnew
        rw [hr] at herror
        exact hvalue error herror
  rw [WorkerLoop.finishCommand]
  dsimp only
  split
  · exact hanswer _ fun error herror => by cases herror
  · split
    · -- back to the front
      exact h.same ⟨by rw [hhand]; rfl, by rw [hhand]; rfl, rfl, rfl, rfl, id, fun h => ⟨h, rfl⟩⟩
    · next hkind =>
        refine hanswer _ fun error herror => ?_
        cases herror
        exact hkind

/-- The result in hand is the next one. -/
lemma emitCommand (h : InOrder cfg w) {answer : CommandDatabaseResult}
    (hhand : w.hand = .result answer) : InOrder cfg (w.emitCommand answer) := by
  have hnodup := h.nodup
  have hkinds := h.kinds
  rw [hhand] at hnodup hkinds
  refine ⟨fun hrunning => ?_, fun hrunning => ?_, hnodup, h.room, fun r hr => hkinds r ?_,
    h.accepting⟩
  · have haccepted := h.accepted hrunning
    rw [WorkerLoop.underWay] at haccepted ⊢
    rw [hhand] at haccepted
    change w.accepted = (w.commandResults ++ [answer]).map (·.operationId) ++ _
    rw [haccepted]
    simp [Hand.results, Hand.commands, WorkerLoop.emitCommand]
  · have hoperations := h.operations hrunning
    rw [hhand] at hoperations
    exact hoperations
  · simpa [WorkerLoop.emitCommand, Hand.results] using hr

/-- Provisions do not touch the commands. -/
lemma finishProvision (h : InOrder cfg w) {task : ProvisionTask}
    (hhand : w.hand = .provision task) (outcome : PortOutcome DeviceRecord) (now : TimePoint) :
    InOrder cfg (w.finishProvision cfg task outcome now) := by
  refine h.same ?_
  unfold WorkerLoop.finishProvision
  dsimp only
  split
  · exact ⟨by rw [hhand]; rfl, by rw [hhand]; rfl, rfl, rfl, rfl, id, fun h => ⟨h, rfl⟩⟩
  · split
    · exact ⟨by rw [hhand]; rfl, by rw [hhand]; rfl, rfl, rfl, rfl, id, fun h => ⟨h, rfl⟩⟩
    · exact ⟨by rw [hhand]; rfl, by rw [hhand]; rfl, rfl, rfl, rfl, id, fun h => ⟨h, rfl⟩⟩

/-- Writes do not touch the commands. -/
lemma finishWrite (h : InOrder cfg w) {write : DesiredDeviceWrite}
    (hhand : w.hand = .write write) (outcome : PortOutcome Unit) (now : TimePoint) :
    InOrder cfg (w.finishWrite cfg write outcome now) := by
  refine h.same ?_
  unfold WorkerLoop.finishWrite
  dsimp only
  split
  · exact ⟨by rw [hhand]; rfl, by rw [hhand]; rfl, rfl, rfl, rfl, id, fun h => ⟨h, rfl⟩⟩
  · split
    · exact ⟨by rw [hhand]; rfl, by rw [hhand]; rfl, rfl, rfl, rfl, id, fun h => ⟨h, rfl⟩⟩
    · exact ⟨by rw [hhand]; rfl, by rw [hhand]; rfl, rfl, rfl, rfl, id, fun h => ⟨h, rfl⟩⟩

/-- **Every step keeps the order.** -/
lemma next (h : InOrder cfg w) {input : WorkerInput} (henabled : input.Enabled w) :
    InOrder cfg (input.apply cfg w) := by
  cases input with
  | submitProvision registration receivedAt =>
      unfold WorkerInput.apply WorkerLoop.submitProvision
      dsimp only
      split
      · exact h
      · exact h.same ⟨rfl, rfl, rfl, rfl, rfl, id, fun h => ⟨h, rfl⟩⟩
  | submitWrite write =>
      unfold WorkerInput.apply WorkerLoop.submitWrite
      dsimp only
      split
      · exact h
      · exact h.same ⟨rfl, rfl, rfl, rfl, rfl, id, fun h => ⟨h, rfl⟩⟩
  | submitCommand operationId task => exact h.submitCommand operationId task
  | flushAndStop => exact h.same ⟨rfl, rfl, rfl, rfl, rfl, id, nofun⟩
  | select stopRequested first now => exact h.select henabled.2.1 stopRequested first now
  | reconnected outcome now => exact h.finishReconnect henabled.2 outcome now
  | executed outcome now =>
      obtain ⟨_, operationId, task, hhand⟩ := henabled
      rw [WorkerInput.apply]
      rw [hhand]
      exact h.finishCommand hhand outcome now
  | provisioned outcome now =>
      obtain ⟨_, task, hhand⟩ := henabled
      rw [WorkerInput.apply]
      rw [hhand]
      exact h.finishProvision hhand outcome now
  | written outcome now =>
      obtain ⟨_, write, hhand⟩ := henabled
      rw [WorkerInput.apply]
      rw [hhand]
      exact h.finishWrite hhand outcome now
  | emitCommand =>
      obtain ⟨_, answer, hhand⟩ := henabled
      rw [WorkerInput.apply]
      rw [hhand]
      exact h.emitCommand hhand
  | crash => exact h.same ⟨rfl, rfl, rfl, rfl, rfl, nofun, nofun⟩

end InOrder

lemma inOrder_of_reachable {cfg : WorkerConfig} {w : WorkerLoop}
    (hw : (workerLoop cfg).Reachable w) : InOrder cfg w := by
  refine hw.invariant ?_ fun s input _ h henabled => h.next henabled
  rintro s rfl
  exact .fresh

/-- **Results come in the order of acceptance.**  As long as the loop has not
stopped, whatever the store answers or throws: the accepted ids are those of the
results, then those under way, in this order, so that no acceptance has two
results and none is lost; no result is of kind `unavailable`; and the outstanding
ids, which are those being executed or queued, are at most
`max_inflight_commands`. -/
theorem commandResults_in_order {cfg : WorkerConfig} {w : WorkerLoop}
    (hw : (workerLoop cfg).Reachable w) (hrunning : w.workerStopped = false) :
    w.accepted = w.commandResults.map (·.operationId) ++ w.underWay ∧
    (∀ i, (w.commandResults.map (·.operationId)).count i ≤ w.accepted.count i) ∧
    (∀ i ∈ w.accepted, i ∈ w.commandResults.map (·.operationId) ∨ i ∈ w.underWay) ∧
    (∀ r ∈ w.commandResults, ∀ error, r.value = .error error → error.kind ≠ .unavailable) ∧
    w.commandOperations = ((w.hand.commands ++ w.commands).map Prod.fst).toFinset ∧
    w.commandOperations.card ≤ cfg.maxInflightCommands := by
  have h := inOrder_of_reachable hw
  have haccepted := h.accepted hrunning
  refine ⟨haccepted, fun i => ?_, fun i hi => ?_,
    fun r hr => h.kinds r (List.mem_append_left _ hr), h.operations hrunning, h.room⟩
  · rw [haccepted]
    exact (List.sublist_append_left _ _).count_le i
  · rw [haccepted] at hi
    exact List.mem_append.mp hi

/-- A command meets a broken connection and is executed again after the
reconnection, with another one accepted in between. -/
def retriedInputs : List WorkerInput :=
  [.submitCommand 1 (.findCommand "ops" "r1"), .select false List.head? 0,
    .executed (.returned (.error ⟨.unavailable, ""⟩)) 0,
    .submitCommand 2 (.findCommand "ops" "r2"), .select false List.head? 5000000000,
    .reconnected (.returned (.ok ())) 5000000000, .select false List.head? 5000000000,
    .executed (.returned (.ok (.found none))) 5000000000, .emitCommand]

lemma head?_first : ∀ keys : List String, keys ≠ [] → ∃ key ∈ keys, keys.head? = some key
  | [], h => absurd rfl h
  | key :: _, _ => ⟨key, List.mem_cons_self, rfl⟩

lemma reachable_retried :
    (workerLoop {}).Reachable (retriedInputs.foldl (WorkerInput.apply {}) .fresh) := by
  have hrun : (workerLoop {}).Run .fresh retriedInputs
      (retriedInputs.foldl (WorkerInput.apply {}) .fresh) :=
    .cons trivial (.cons ⟨rfl, rfl, head?_first⟩ (.cons ⟨rfl, _, _, rfl⟩ (.cons trivial
      (.cons ⟨rfl, rfl, head?_first⟩ (.cons ⟨rfl, rfl⟩ (.cons ⟨rfl, rfl, head?_first⟩
        (.cons ⟨rfl, _, _, rfl⟩ (.cons ⟨rfl, _, rfl⟩ (.nil _)))))))))
  exact Machine.Reachable.run (.start rfl) hrun

/-- Its result is the first one, and the other command is still queued. -/
theorem commandResults_in_order_retried :
    (retriedInputs.foldl (WorkerInput.apply {}) .fresh).accepted = [1, 2] ∧
      (retriedInputs.foldl (WorkerInput.apply {}) .fresh).commandResults.map (·.operationId) ++
        (retriedInputs.foldl (WorkerInput.apply {}) .fresh).underWay = [1, 2] := by
  have haccepted : (retriedInputs.foldl (WorkerInput.apply {}) .fresh).accepted = [1, 2] := rfl
  refine ⟨haccepted, ?_⟩
  rw [← (commandResults_in_order reachable_retried rfl).1]
  exact haccepted

/-! ### The view of the command service -/

/-- What is in hand fits the state of the connection: the store is called for a
task only while it is available, and a reconnection is tried only while it is
not. -/
structure Steady (w : WorkerLoop) : Prop where
  command : ∀ operationId task, w.hand = .command operationId task → w.unavailable = false
  provision : ∀ task, w.hand = .provision task → w.unavailable = false
  write : ∀ write, w.hand = .write write → w.unavailable = false
  result : ∀ answer, w.hand = .result answer → w.unavailable = false
  reconnect : w.hand = .reconnect → w.unavailable = true

namespace Steady

variable {cfg : WorkerConfig} {w w' : WorkerLoop}

lemma of_free (hfree : w.hand = .free) : Steady w where
  command _ _ h := by rw [hfree] at h; cases h
  provision _ h := by rw [hfree] at h; cases h
  write _ h := by rw [hfree] at h; cases h
  result _ h := by rw [hfree] at h; cases h
  reconnect h := by rw [hfree] at h; cases h

lemma of_reconnect (hhand : w.hand = .reconnect) (hunavailable : w.unavailable = true) :
    Steady w where
  command _ _ h := by rw [hhand] at h; cases h
  provision _ h := by rw [hhand] at h; cases h
  write _ h := by rw [hhand] at h; cases h
  result _ h := by rw [hhand] at h; cases h
  reconnect _ := hunavailable

lemma of_available (havailable : w.unavailable = false) (hhand : w.hand ≠ .reconnect) : Steady w :=
  ⟨fun _ _ _ => havailable, fun _ _ => havailable, fun _ _ => havailable, fun _ _ => havailable,
    fun h => absurd h hhand⟩

lemma same (h : Steady w) (hhand : w'.hand = w.hand)
    (hunavailable : w'.unavailable = w.unavailable) :
    Steady w' := by
  refine ⟨?_, ?_, ?_, ?_, ?_⟩ <;> rw [hhand, hunavailable]
  · exact h.command
  · exact h.provision
  · exact h.write
  · exact h.result
  · exact h.reconnect

lemma select (h : Steady w) (stopRequested : Bool) (first : List String → Option String)
    (now : TimePoint) : Steady (w.select stopRequested first now) := by
  rw [WorkerLoop.select]
  split
  · exact h.same rfl rfl
  · split
    · next hunavailable =>
        split
        · exact h
        · exact of_reconnect rfl hunavailable
    · next havailable =>
        have havailable : w.unavailable = false := Bool.eq_false_iff.mpr havailable
        split
        · exact of_available havailable (by simp)
        · split
          · exact of_available havailable (by simp)
          · split
            · exact of_available havailable (by simp)
            · split
              · exact h.same rfl rfl
              · exact h

lemma next (h : Steady w) {input : WorkerInput} (henabled : input.Enabled w) :
    Steady (input.apply cfg w) := by
  cases input with
  | submitProvision registration receivedAt =>
      unfold WorkerInput.apply WorkerLoop.submitProvision
      dsimp only
      split
      · exact h
      · exact h.same rfl rfl
  | submitWrite write =>
      unfold WorkerInput.apply WorkerLoop.submitWrite
      dsimp only
      split
      · exact h
      · exact h.same rfl rfl
  | submitCommand operationId task =>
      unfold WorkerInput.apply WorkerLoop.submitCommand
      dsimp only
      split
      · exact h
      · exact h.same rfl rfl
  | flushAndStop => exact h.same rfl rfl
  | select stopRequested first now => exact h.select stopRequested first now
  | reconnected outcome now =>
      rw [WorkerInput.apply, WorkerLoop.finishReconnect]
      dsimp only
      split
      · exact of_free rfl
      · split
        · exact of_free rfl
        · exact of_free rfl
  | executed outcome now =>
      obtain ⟨_, operationId, task, hhand⟩ := henabled
      have havailable := h.command operationId task hhand
      rw [WorkerInput.apply]
      rw [hhand]
      dsimp only [WorkerLoop.finishCommand]
      split
      · exact of_available havailable (by simp)
      · split
        · exact of_free rfl
        · exact of_available havailable (by simp)
  | provisioned outcome now =>
      obtain ⟨_, task, hhand⟩ := henabled
      rw [WorkerInput.apply]
      rw [hhand]
      dsimp only [WorkerLoop.finishProvision]
      split
      · exact of_free rfl
      · split
        · exact of_free rfl
        · exact of_free rfl
  | written outcome now =>
      obtain ⟨_, write, hhand⟩ := henabled
      rw [WorkerInput.apply]
      rw [hhand]
      dsimp only [WorkerLoop.finishWrite]
      split
      · exact of_free rfl
      · split
        · exact of_free rfl
        · exact of_free rfl
  | emitCommand =>
      obtain ⟨_, answer, hhand⟩ := henabled
      rw [WorkerInput.apply]
      rw [hhand]
      exact of_free rfl
  | crash => exact h.same rfl rfl

end Steady

lemma steady_of_reachable {cfg : WorkerConfig} {w : WorkerLoop}
    (hw : (workerLoop cfg).Reachable w) : Steady w := by
  refine hw.invariant ?_ fun s input _ h henabled => h.next henabled
  rintro s rfl
  exact .of_free rfl

/-- What the command service sees of the loop: a command in hand is still the
front of the queue. -/
def WorkerLoop.commandSide (w : WorkerLoop) : PostgresWorker where
  commands := w.hand.commands ++ w.commands
  commandOperations := w.commandOperations
  unavailable := w.unavailable
  accepting := w.accepting
  workerStopped := w.workerStopped

/-- The results handed over, the one in hand included. -/
def WorkerLoop.handedOver (w : WorkerLoop) : List CommandDatabaseResult :=
  w.commandResults ++ w.hand.results

/-- The store answers a command task as the table does. -/
def CommandOutcome.Gives (table : CommandTable) (task : CommandDatabaseTask)
    (result : Except DatabaseError CommandDatabaseValue) : CommandOutcome → Prop
  | .completed => result = (execute table task).value
  | .failed message => result = permanentError message
  | .lost _ => ∃ message, result = .error ⟨.unavailable, message⟩

/-- If the input is the answer to a command, it is one the table gives. -/
def WorkerInput.FromTable (table : CommandTable) (w : WorkerLoop) : WorkerInput → Prop
  | .executed outcome _ => ∀ operationId task, w.hand = .command operationId task →
      ∃ c : CommandOutcome,
        c.Gives table task (outcome.result "数据库命令端口异常" "数据库命令端口发生未知异常")
  | _ => True

/-- Failures of the table are permanent. -/
lemma execute_error {table : CommandTable} {task : CommandDatabaseTask} {error : DatabaseError}
    (h : (execute table task).value = .error error) : error.kind = .permanent := by
  cases task with
  | insertCommand command =>
      rcases execute_insertCommand table command with
        ⟨existing, _, heq⟩ | ⟨_, _, heq⟩ | ⟨table', _, _, _, heq⟩
      · rw [heq] at h; cases h
      · rw [heq] at h; cases h; rfl
      · rw [heq] at h; cases h
  | transitionCommand commandId expected desired update =>
      rcases execute_transitionCommand table commandId expected desired update with
        ⟨_, heq⟩ | ⟨_, heq⟩ | ⟨row, table', _, _, _, _, heq⟩
      · rw [heq] at h; cases h; rfl
      · rw [heq] at h; cases h; rfl
      · rw [heq] at h; cases h
  | _ => cases h

/-- The loop goes on as one turn of `PostgresWorker` does. -/
def Turns (table : CommandTable) (w w' : WorkerLoop) (event : WorkerEvent) : Prop :=
  w'.commandSide = (w.commandSide.turn table event).worker ∧
    w'.handedOver = w.handedOver ++ (w.commandSide.turn table event).emitted

/-- The commands are left as they are. -/
def Rests (w w' : WorkerLoop) : Prop :=
  w'.commandSide = w.commandSide ∧ w'.handedOver = w.handedOver

section Refinement

variable {cfg : WorkerConfig} {w : WorkerLoop} (table : CommandTable)

lemma select_turns (hfree : w.hand = .free) (stopRequested : Bool)
    (first : List String → Option String) (now : TimePoint) :
    Rests w (w.select stopRequested first now) ∨
      Turns table w (w.select stopRequested first now) .finish := by
  have hfinish : Turns table w w.finish .finish := ⟨rfl, (List.append_nil _).symm⟩
  simp only [Rests, WorkerLoop.commandSide, WorkerLoop.handedOver, WorkerLoop.select]
  split
  · exact .inr hfinish
  · split
    · split
      · exact .inl ⟨rfl, rfl⟩
      · rw [hfree]; exact .inl ⟨rfl, rfl⟩
    · split
      · next hqueue => rw [hfree, hqueue]; exact .inl ⟨rfl, rfl⟩
      · split
        · rw [hfree]; exact .inl ⟨rfl, rfl⟩
        · split
          · rw [hfree]; exact .inl ⟨rfl, rfl⟩
          · split
            · exact .inr hfinish
            · exact .inl ⟨rfl, rfl⟩

lemma finishReconnect_turns (hrunning : w.workerStopped = false) (hhand : w.hand = .reconnect)
    (hunavailable : w.unavailable = true) (outcome : PortOutcome Unit) (now : TimePoint) :
    ∃ result, Turns table w (w.finishReconnect cfg outcome now) (.reconnect result) := by
  simp only [Turns, WorkerLoop.commandSide, WorkerLoop.handedOver, WorkerLoop.finishReconnect]
  rw [hhand, hrunning, hunavailable]
  split
  · exact ⟨.connected, rfl, by simp [PostgresWorker.turn, WorkerLoop.emit, Hand.results]⟩
  · split
    · exact ⟨.unavailable, by simp [PostgresWorker.turn, Hand.commands],
        by simp [PostgresWorker.turn, Hand.results]⟩
    · refine ⟨.permanentFailure, ?_, ?_⟩
      · simp [PostgresWorker.turn, WorkerLoop.finish, WorkerLoop.emit, PostgresWorker.finish,
          Hand.commands, hunavailable]
      · simp [PostgresWorker.turn, WorkerLoop.finish, WorkerLoop.emit, Hand.results]

lemma finishCommand_turns (hrunning : w.workerStopped = false)
    (havailable : w.unavailable = false) {operationId : ℕ} {task : CommandDatabaseTask}
    (hhand : w.hand = .command operationId task) {outcome : PortOutcome CommandDatabaseValue}
    {c : CommandOutcome}
    (hgives : c.Gives table task (outcome.result "数据库命令端口异常" "数据库命令端口发生未知异常"))
    (now : TimePoint) :
    Turns table w (w.finishCommand cfg operationId task outcome now) (.runCommand c) := by
  have hturn : w.commandSide.turn table (.runCommand c) =
      w.commandSide.runCommand table operationId task w.commands c := by
    rw [PostgresWorker.turn, WorkerLoop.commandSide]
    rw [hhand, hrunning, havailable]
    rfl
  simp only [Turns, WorkerLoop.handedOver]
  rw [hturn]
  unfold WorkerLoop.finishCommand
  dsimp only
  cases c with
  | completed =>
      have hresult : outcome.result "数据库命令端口异常" "数据库命令端口发生未知异常" =
        (execute table task).value := hgives
      rw [hresult, hhand]
      cases hvalue : (execute table task).value with
      | ok value => simp [PostgresWorker.runCommand, WorkerLoop.commandSide, Hand.commands,
          Hand.results, hvalue]
      | error error =>
          have hkind : error.kind ≠ .unavailable := by rw [execute_error hvalue]; decide
          simp [PostgresWorker.runCommand, WorkerLoop.commandSide, Hand.commands, Hand.results,
            hvalue, hkind]
  | failed message =>
      have hresult : outcome.result "数据库命令端口异常" "数据库命令端口发生未知异常" =
        permanentError message := hgives
      rw [hresult, hhand]
      simp [PostgresWorker.runCommand, WorkerLoop.commandSide, Hand.commands, Hand.results,
        permanentError]
  | lost committed =>
      obtain ⟨message, hresult⟩ := hgives
      rw [hresult, hhand]
      cases committed <;>
        simp [PostgresWorker.runCommand, WorkerLoop.commandSide, Hand.commands, Hand.results,
          WorkerLoop.disconnect, hhand]

/-- **The loop refines the worker the command service is modelled with**: every
step is a submission, or one turn of that worker at most, with the same queue,
the same outstanding ids and the same results. -/
theorem commandSide_next (hw : (workerLoop cfg).Reachable w) {input : WorkerInput}
    (henabled : input.Enabled w) (htable : input.FromTable table w) :
    (∃ operationId task, input = .submitCommand operationId task ∧
      (input.apply cfg w).commandSide =
        (w.commandSide.submitCommand cfg.maxInflightCommands operationId task).getD w.commandSide ∧
      (input.apply cfg w).handedOver = w.handedOver) ∨
    Rests w (input.apply cfg w) ∨ ∃ event, Turns table w (input.apply cfg w) event := by
  have hsteady := steady_of_reachable hw
  cases input with
  | submitCommand operationId task =>
      refine .inl ⟨operationId, task, rfl, ?_⟩
      unfold WorkerInput.apply WorkerLoop.submitCommand PostgresWorker.submitCommand
        WorkerLoop.commandSide
      dsimp only
      split
      · exact ⟨rfl, rfl⟩
      · exact ⟨by simp, rfl⟩
  | submitProvision registration receivedAt =>
      refine .inr (.inl ?_)
      unfold WorkerInput.apply WorkerLoop.submitProvision
      dsimp only
      split <;> exact ⟨rfl, rfl⟩
  | submitWrite write =>
      refine .inr (.inl ?_)
      unfold WorkerInput.apply WorkerLoop.submitWrite
      dsimp only
      split <;> exact ⟨rfl, rfl⟩
  | flushAndStop => exact .inr (.inr ⟨.flushAndStop, rfl, (List.append_nil _).symm⟩)
  | select stopRequested first now =>
      rcases select_turns table henabled.2.1 stopRequested first now with h | h
      · exact .inr (.inl h)
      · exact .inr (.inr ⟨_, h⟩)
  | reconnected outcome now =>
      obtain ⟨result, h⟩ := @finishReconnect_turns cfg w table henabled.1 henabled.2
        (hsteady.reconnect henabled.2) outcome now
      exact .inr (.inr ⟨_, h⟩)
  | executed outcome now =>
      obtain ⟨hrunning, operationId, task, hhand⟩ := henabled
      obtain ⟨c, hgives⟩ := htable operationId task hhand
      refine .inr (.inr ⟨.runCommand c, ?_⟩)
      unfold WorkerInput.apply
      rw [hhand]
      exact finishCommand_turns table hrunning (hsteady.command operationId task hhand) hhand
        hgives now
  | provisioned outcome now =>
      obtain ⟨hrunning, task, hhand⟩ := henabled
      unfold Rests Turns WorkerInput.apply WorkerLoop.commandSide WorkerLoop.handedOver
      rw [hhand]
      dsimp only [WorkerLoop.finishProvision]
      split
      · exact .inr (.inl ⟨rfl, rfl⟩)
      · split
        · refine .inr (.inr ⟨.loseConnection, ?_⟩)
          simp [PostgresWorker.turn, hrunning, WorkerLoop.disconnect, WorkerLoop.emit,
            Hand.commands, Hand.results]
        · exact .inr (.inl ⟨rfl, rfl⟩)
  | written outcome now =>
      obtain ⟨hrunning, write, hhand⟩ := henabled
      unfold Rests Turns WorkerInput.apply WorkerLoop.commandSide WorkerLoop.handedOver
      rw [hhand]
      dsimp only [WorkerLoop.finishWrite]
      split
      · exact .inr (.inl ⟨rfl, rfl⟩)
      · split
        · refine .inr (.inr ⟨.loseConnection, ?_⟩)
          simp [PostgresWorker.turn, hrunning, WorkerLoop.disconnect, WorkerLoop.emit,
            WorkerLoop.mergeWrite, Hand.commands, Hand.results]
        · exact .inr (.inl ⟨rfl, rfl⟩)
  | emitCommand =>
      obtain ⟨_, answer, hhand⟩ := henabled
      refine .inr (.inl ?_)
      unfold Rests WorkerInput.apply WorkerLoop.commandSide WorkerLoop.handedOver
      rw [hhand]
      exact ⟨rfl, List.append_nil _⟩
  | crash => exact .inr (.inr ⟨.finish, rfl, (List.append_nil _).symm⟩)

end Refinement

end CnsServer
