/-
The kind of a database failure is that of the failing call.

The kind is read off a member of the store that some error returns do not write.
A call leaves `unavailable` there only on a broken or a closed connection; the
thread then calls nothing but the reconnection, and a reconnection that succeeds
replaces the store.  So the member says `permanent` whenever the store is called
for a task (`Current.member`).

* `Reports`: what one call of the port answers and leaves behind;
* `Current`: the invariant;
* `unavailable_of_broken`: an answer is `unavailable` only if its own call met a
  broken or a closed connection.
-/
import CnsServer.Runtime.PostgresBridge
import CnsServer.Properties.WorkerResults

namespace CnsServer

/-! ### Calls that met a broken connection -/

/-- The call for the task ended on a broken or a closed connection. -/
def CommandDatabaseTask.Broken (reply : StoreReply) : CommandDatabaseTask → Prop
  | .findCommand _ _ => reply.findBody.Broken reply.isOpen
  | .findCommandById _ => reply.findBody.Broken reply.isOpen
  | .insertCommand _ => reply.insertBody.Broken reply.isOpen
  | .transitionCommand _ expected desired _ =>
      expected.canTransition desired = true ∧ reply.transitionBody.Broken reply.isOpen
  | .recoverControlCommands _ limit => limit ≤ int64Max ∧ reply.recoverBody.Broken reply.isOpen
  | .cleanupCommands _ batchSize => batchSize ≤ int64Max ∧ reply.cleanupBody.Broken reply.isOpen

/-- The same for whatever is in hand. -/
def Hand.Broken (reply : StoreReply) : Hand → Prop
  | .command _ task => task.Broken reply
  | .provision task => PostgresStore.lacksSchool task.registration = false ∧
      reply.provisionBody.Broken reply.isOpen
  | .write desired => PostgresStore.validateDeviceWrite desired = .ok () ∧
      PostgresStore.plansUpdate desired = true ∧ reply.writeBody.Broken reply.isOpen
  | _ => False

/-- The call this input answers ended on a broken or a closed connection. -/
def BridgedInput.Broken (s : BridgedWorker) : BridgedInput → Prop
  | .reply answer _ => s.loop.hand.Broken answer
  | .reconnected answer _ => answer.Broken
  | .other _ => False

/-- The error an answer of the store carries. -/
def WorkerInput.error? : WorkerInput → Option DatabaseError
  | .executed (.returned (.error error)) _ => some error
  | .provisioned (.returned (.error error)) _ => some error
  | .written (.returned (.error error)) _ => some error
  | .reconnected (.returned (.error error)) _ => some error
  | _ => none

section Errors

variable {error : DatabaseError} {now : TimePoint}

lemma error?_executed {result : Except DatabaseError CommandDatabaseValue}
    (h : (WorkerInput.executed (.returned result) now).error? = some error) :
    result = .error error := by
  cases result with
  | ok value => cases h
  | error e => cases h; rfl

lemma error?_provisioned {result : Except DatabaseError DeviceRecord}
    (h : (WorkerInput.provisioned (.returned result) now).error? = some error) :
    result = .error error := by
  cases result with
  | ok value => cases h
  | error e => cases h; rfl

lemma error?_written {result : Except DatabaseError Unit}
    (h : (WorkerInput.written (.returned result) now).error? = some error) :
    result = .error error := by
  cases result with
  | ok value => cases h
  | error e => cases h; rfl

lemma error?_reconnected {result : Except DatabaseError Unit}
    (h : (WorkerInput.reconnected (.returned result) now).error? = some error) :
    result = .error error := by
  cases result with
  | ok value => cases h
  | error e => cases h; rfl

lemma error?_other {input : WorkerInput} (h : input.IsOther) : input.error? = none := by
  cases input with
  | reconnected outcome now => obtain ⟨standard, rfl⟩ := h; rfl
  | executed outcome now => obtain ⟨standard, rfl⟩ := h; rfl
  | provisioned outcome now => obtain ⟨standard, rfl⟩ := h; rfl
  | written outcome now => obtain ⟨standard, rfl⟩ := h; rfl
  | _ => rfl

end Errors

/-! ### One call of the port -/

/-- **What a call answers and leaves behind**: an `unavailable` error only if
`broken` is the case, and the member `permanent` unless the answer was such an
error. -/
structure Reports {α : Type} (broken : Prop)
    (answer : Except DatabaseError α × RuntimePostgresBridge) : Prop where
  unavailable : ∀ error, answer.1 = .error error → error.kind = .unavailable → broken
  member : answer.2.store.lastFailureKind = .permanent ∨
    ∃ error, answer.1 = .error error ∧ error.kind = .unavailable

namespace RuntimePostgresBridge

variable {bridge : RuntimePostgresBridge} {reply : StoreReply}

lemma classify_kind (bridge : RuntimePostgresBridge) (context : String) :
    ((bridge.classify context).kind = .unavailable →
      bridge.store.lastFailureKind = .unavailable) ∧
    (bridge.store.lastFailureKind = .permanent ∨
      (bridge.classify context).kind = .unavailable) := by
  rw [classify]
  cases bridge.store.lastFailureKind with
  | unavailable => exact ⟨fun _ => rfl, .inr rfl⟩
  | permanent =>
      refine ⟨fun h => ?_, .inl rfl⟩
      cases h

lemma classifyWithDetail_kind (bridge : RuntimePostgresBridge) (context detail : String) :
    (bridge.classifyWithDetail context detail).kind = (bridge.classify context).kind := by
  unfold classifyWithDetail
  dsimp only
  split
  · rfl
  · rfl

lemma answer_reports {α : Type} {broken : Prop}
    {classified : RuntimePostgresBridge → String → DatabaseError} (context : String)
    (hclassified : ∀ b detail, (classified b detail).kind = (b.classify context).kind)
    {call : Except String α × PostgresStore}
    (hmarks : PostgresStore.Marks bridge.store broken call)
    (hmember : bridge.store.lastFailureKind = .permanent) :
    Reports broken (bridge.answer classified call) := by
  obtain ⟨result, store⟩ := call
  cases result with
  | ok value =>
      have hstore : store = bridge.store := hmarks.ok value rfl
      refine ⟨fun error herror _ => ?_, .inl ?_⟩
      · cases herror
      · change store.lastFailureKind = .permanent
        rw [hstore]
        exact hmember
  | error detail =>
      obtain ⟨hkind, hleft⟩ := classify_kind { bridge with store := store } context
      refine ⟨fun error herror hunavailable => ?_, ?_⟩
      · cases herror
        rw [hclassified] at hunavailable
        rcases hmarks.unavailable (hkind hunavailable) with hbefore | hbroken
        · rw [hmember] at hbefore
          cases hbefore
        · exact hbroken
      · rcases hleft with hpermanent | hunavailable
        · exact .inl hpermanent
        · exact .inr ⟨_, rfl, (hclassified _ _).trans hunavailable⟩

end RuntimePostgresBridge

lemma Reports.map {α β : Type} {broken : Prop} {f : α → β}
    {answer : Except DatabaseError α × RuntimePostgresBridge} (h : Reports broken answer) :
    Reports broken (answer.map (fun result => result.map f) id) := by
  obtain ⟨result, bridge⟩ := answer
  cases result with
  | ok value =>
      refine ⟨fun error herror _ => ?_, .inl ?_⟩
      · cases herror
      · rcases h.member with hpermanent | ⟨error, herror, _⟩
        · exact hpermanent
        · cases herror
  | error error =>
      refine ⟨fun error' herror' => h.unavailable error' ?_, ?_⟩
      · cases herror'
        rfl
      · rcases h.member with hpermanent | ⟨error', herror, hkind⟩
        · exact .inl hpermanent
        · cases herror
          exact .inr ⟨error, rfl, hkind⟩

section Calls

variable {bridge : RuntimePostgresBridge} (reply : StoreReply)

open PostgresStore (Marks attempt_marks)

/-- The command branch. -/
lemma execute_reports (hmember : bridge.store.lastFailureKind = .permanent)
    (task : CommandDatabaseTask) : Reports (task.Broken reply) (bridge.execute reply task) := by
  cases task with
  | findCommand sourceId requestId =>
      exact (bridge.answer_reports _ (fun b => b.classifyWithDetail_kind _)
        (attempt_marks _ _ _ _) hmember).map
  | findCommandById commandId =>
      exact (bridge.answer_reports _ (fun b => b.classifyWithDetail_kind _)
        (attempt_marks _ _ _ _) hmember).map
  | insertCommand command =>
      exact (bridge.answer_reports _ (fun b => b.classifyWithDetail_kind _)
        (attempt_marks _ _ _ _) hmember).map
  | transitionCommand commandId expected desired update =>
      refine (bridge.answer_reports _ (fun b => b.classifyWithDetail_kind _) ?_ hmember).map
      rw [PostgresStore.transitionCommand]
      split
      · exact .refuse _
      · next hcan =>
          refine (attempt_marks _ _ _ _).mono fun hbroken => ⟨?_, hbroken⟩
          simpa using hcan
  | recoverControlCommands recoveredAt limit =>
      refine (bridge.answer_reports _ (fun _ _ => rfl) ?_ hmember).map
      rw [PostgresStore.recoverActiveControlCommands]
      split
      · exact .keep _
      · next hlimit =>
          exact (attempt_marks _ _ _ _).mono fun hbroken => ⟨not_lt.mp hlimit, hbroken⟩
  | cleanupCommands before batchSize =>
      refine (bridge.answer_reports _ (fun _ _ => rfl) ?_ hmember).map
      rw [PostgresStore.deleteExpiredTerminalCommands]
      split
      · exact .keep _
      · next hsize =>
          exact (attempt_marks _ _ _ _).mono fun hbroken => ⟨not_lt.mp hsize, hbroken⟩

lemma provision_reports (hmember : bridge.store.lastFailureKind = .permanent)
    (task : ProvisionTask) :
    Reports ((Hand.provision task).Broken reply) (bridge.provision task.registration reply) := by
  refine bridge.answer_reports _ (fun _ _ => rfl) ?_ hmember
  rw [PostgresStore.provisionDevice]
  split
  · exact .refuse _
  · next hschool =>
      exact (attempt_marks _ _ _ _).mono fun hbroken => ⟨Bool.eq_false_iff.mpr hschool, hbroken⟩

lemma write_reports (hmember : bridge.store.lastFailureKind = .permanent)
    (write : DesiredDeviceWrite) :
    Reports ((Hand.write write).Broken reply) (bridge.write write reply) := by
  refine bridge.answer_reports _ (fun _ _ => rfl) ?_ hmember
  rw [PostgresStore.writeDeviceState]
  split
  · exact .refuse _
  · next hvalid =>
      split
      · exact .keep _
      · next hplan =>
          refine (attempt_marks _ _ _ _).mono fun hbroken => ⟨hvalid, ?_, hbroken⟩
          simpa using hplan

end Calls

/-- A reconnection is `unavailable` only if it met a broken connection; when it
succeeds the member is that of a store without a failure. -/
lemma reconnect_reports (bridge : RuntimePostgresBridge) (reply : ReconnectReply) :
    (∀ error, (bridge.reconnectAndValidate reply).1 = .error error →
      error.kind = .unavailable → reply.Broken) ∧
    ((bridge.reconnectAndValidate reply).1 = .ok () →
      (bridge.reconnectAndValidate reply).2.store.lastFailureKind = .permanent) := by
  have hmarks := PostgresStore.attempt_marks {} reply.isOpen "读取 PostgreSQL 迁移版本失败"
    (reply.applied.map (Except.ok (ε := String)))
  rw [RuntimePostgresBridge.reconnectAndValidate, PostgresStore.readAppliedMigrations]
  split
  · next hconnected =>
      refine ⟨fun error _ _ => .inl ?_, fun hok => ?_⟩
      · simpa using hconnected
      · cases hok
  · split
    · next message connected hread =>
        rw [hread] at hmarks
        refine ⟨fun error herror hkind => .inr ?_, fun hok => ?_⟩
        · cases herror
          have hleft : connected.lastFailureKind = .unavailable := by
            by_contra hnot
            rw [if_neg hnot] at hkind
            cases hkind
          rcases hmarks.unavailable hleft with hbefore | hbroken
          · cases hbefore
          · exact hbroken
        · cases hok
    · next applied connected hread =>
        rw [hread] at hmarks
        split
        · refine ⟨fun error herror hkind => ?_, fun hok => ?_⟩
          · cases herror
            cases hkind
          · cases hok
        · refine ⟨fun error herror _ => ?_, fun _ => ?_⟩
          · cases herror
          · change connected.lastFailureKind = .permanent
            have hstore := hmarks.ok applied rfl
            rw [show connected = {} from hstore]

/-! ### The start -/

/-- A bind that returns a value has one on both sides. -/
lemma except_bind_ok {α β : Type} {x : Except String α} {f : α → Except String β} {b : β}
    (h : (x >>= f) = .ok b) : ∃ a, x = .ok a ∧ f a = .ok b := by
  cases x with
  | error e => cases h
  | ok a => exact ⟨a, rfl, h⟩

section Start

open PostgresStore (Marks attempt_marks)

variable {store : PostgresStore}

lemma loadDevices_marks (rows : Except Fault (List (Except String DeviceRecord))) :
    Marks store False (store.loadDevices rows) := by
  simp only [PostgresStore.loadDevices]
  split
  · exact .keep _
  · exact .keep _

lemma syncAndLoadCommandSources_ok {configured : List (String × String)} {reply : SourceReply}
    {sources : List CommandSource}
    (h : (store.syncAndLoadCommandSources configured reply).1 = .ok sources) :
    (store.syncAndLoadCommandSources configured reply).2 = store := by
  rw [PostgresStore.syncAndLoadCommandSources] at h ⊢
  split at h
  · cases h
  · exact (attempt_marks _ _ _ _).ok sources h

lemma loadActiveCommands_ok {limit : ℕ} {reply : StoreReply} {commands : List CommandRecord}
    (h : (store.loadActiveCommands limit reply).1 = .ok commands) :
    (store.loadActiveCommands limit reply).2 = store := by
  rw [PostgresStore.loadActiveCommands] at h ⊢
  split at h
  · cases h
  · next hlimit =>
      rw [if_neg hlimit]
      exact (attempt_marks _ _ _ _).ok commands h

lemma recoverActiveControlCommands_ok {limit : ℕ} {reply : StoreReply}
    {commands : List CommandRecord}
    (h : (store.recoverActiveControlCommands limit reply).1 = .ok commands) :
    (store.recoverActiveControlCommands limit reply).2 = store := by
  rw [PostgresStore.recoverActiveControlCommands] at h ⊢
  split at h
  · cases h
  · next hlimit =>
      rw [if_neg hlimit]
      exact (attempt_marks _ _ _ _).ok commands h

/-- A store that was handed over has not failed yet. -/
lemma startStore_fresh {cfg : StartConfig} {replies : StartReplies}
    (h : startStore cfg replies = .ok store) : store = {} := by
  unfold startStore at h
  split at h
  · cases h
  · obtain ⟨applied, happlied, h⟩ := except_bind_ok h
    obtain ⟨plan, _, h⟩ := except_bind_ok h
    obtain ⟨devices, hdevices, h⟩ := except_bind_ok h
    obtain ⟨_, _, h⟩ := except_bind_ok h
    obtain ⟨sources, hsources, h⟩ := except_bind_ok h
    obtain ⟨catalog, _, h⟩ := except_bind_ok h
    obtain ⟨active, hactive, h⟩ := except_bind_ok h
    obtain ⟨_, _, h⟩ := except_bind_ok h
    obtain ⟨recovered, hrecovered, h⟩ := except_bind_ok h
    cases h
    -- every call returned a value, so each left the member as it was
    calc _ = _ := recoverActiveControlCommands_ok hrecovered
      _ = _ := loadActiveCommands_ok hactive
      _ = _ := syncAndLoadCommandSources_ok hsources
      _ = _ := (loadDevices_marks _).ok devices hdevices
      _ = {} := (attempt_marks _ _ _ _).ok applied happlied

end Start

/-! ### The invariant -/

/-- The store is called for a task only with the member `permanent`. -/
structure Current (s : BridgedWorker) : Prop where
  steady : Steady s.loop
  member : s.loop.unavailable = false → s.bridge.store.lastFailureKind = .permanent

/-- Only a reconnection that returned a value makes the store available. -/
lemma unavailable_of_other {cfg : WorkerConfig} {w : WorkerLoop} {input : WorkerInput}
    (hother : input.IsOther) (h : (input.apply cfg w).unavailable = false) :
    w.unavailable = false := by
  cases input with
  | submitProvision registration receivedAt =>
      unfold WorkerInput.apply WorkerLoop.submitProvision at h
      dsimp only at h
      split at h
      · exact h
      · exact h
  | submitWrite write =>
      unfold WorkerInput.apply WorkerLoop.submitWrite at h
      dsimp only at h
      split at h
      · exact h
      · exact h
  | submitCommand operationId task =>
      unfold WorkerInput.apply WorkerLoop.submitCommand at h
      dsimp only at h
      split at h
      · exact h
      · exact h
  | flushAndStop => exact h
  | select stopRequested first now =>
      unfold WorkerInput.apply WorkerLoop.select at h
      by_contra havailable
      rw [Bool.not_eq_false] at havailable
      simp only [havailable, if_true] at h
      split at h
      · exact absurd (havailable.symm.trans h) (by decide)
      · split at h
        · exact absurd (havailable.symm.trans h) (by decide)
        · exact absurd h (by simp)
  | reconnected outcome now =>
      obtain ⟨standard, rfl⟩ := hother
      exact h
  | executed outcome now =>
      obtain ⟨standard, rfl⟩ := hother
      unfold WorkerInput.apply at h
      dsimp only at h
      split at h
      · exact h
      · exact h
  | provisioned outcome now =>
      obtain ⟨standard, rfl⟩ := hother
      unfold WorkerInput.apply at h
      dsimp only at h
      split at h
      · exact h
      · exact h
  | written outcome now =>
      obtain ⟨standard, rfl⟩ := hother
      unfold WorkerInput.apply at h
      dsimp only at h
      split at h
      · exact h
      · exact h
  | emitCommand =>
      unfold WorkerInput.apply at h
      dsimp only at h
      split at h
      · exact h
      · exact h
  | crash => exact h

namespace Current

variable {cfg : WorkerConfig} {s : BridgedWorker}

/-- An answer to a command leaves the thread unavailable, or the member alone. -/
lemma executed (h : Current s) {operationId : ℕ} {task : CommandDatabaseTask}
    (hhand : s.loop.hand = .command operationId task) (reply : StoreReply) (now : TimePoint)
    (havailable : (s.loop.finishCommand cfg operationId task
      (.returned (s.bridge.execute reply task).1) now).unavailable = false) :
    (s.bridge.execute reply task).2.store.lastFailureKind = .permanent := by
  have hmember := h.member (h.steady.command operationId task hhand)
  rcases (execute_reports reply hmember task).member with hpermanent | ⟨error, herror, hkind⟩
  · exact hpermanent
  · rw [herror] at havailable
    simp [WorkerLoop.finishCommand, PortOutcome.result, hkind, WorkerLoop.disconnect]
      at havailable

lemma provisioned (h : Current s) {task : ProvisionTask} (hhand : s.loop.hand = .provision task)
    (reply : StoreReply) (now : TimePoint)
    (havailable : (s.loop.finishProvision cfg task
      (.returned (s.bridge.provision task.registration reply).1) now).unavailable = false) :
    (s.bridge.provision task.registration reply).2.store.lastFailureKind = .permanent := by
  have hmember := h.member (h.steady.provision task hhand)
  rcases (provision_reports reply hmember task).member with hpermanent | ⟨error, herror, hkind⟩
  · exact hpermanent
  · rw [herror] at havailable
    simp [WorkerLoop.finishProvision, PortOutcome.result, hkind, WorkerLoop.disconnect,
      WorkerLoop.emit] at havailable

lemma written (h : Current s) {write : DesiredDeviceWrite} (hhand : s.loop.hand = .write write)
    (reply : StoreReply) (now : TimePoint)
    (havailable : (s.loop.finishWrite cfg write
      (.returned (s.bridge.write write reply).1) now).unavailable = false) :
    (s.bridge.write write reply).2.store.lastFailureKind = .permanent := by
  have hmember := h.member (h.steady.write write hhand)
  rcases (write_reports reply hmember write).member with hpermanent | ⟨error, herror, hkind⟩
  · exact hpermanent
  · rw [herror] at havailable
    simp [WorkerLoop.finishWrite, PortOutcome.result, hkind, WorkerLoop.disconnect,
      WorkerLoop.emit, WorkerLoop.mergeWrite] at havailable

lemma reconnected (h : Current s) (hhand : s.loop.hand = .reconnect) (reply : ReconnectReply)
    (now : TimePoint)
    (havailable : (s.loop.finishReconnect cfg
      (.returned (s.bridge.reconnectAndValidate reply).1) now).unavailable = false) :
    (s.bridge.reconnectAndValidate reply).2.store.lastFailureKind = .permanent := by
  have hunavailable := h.steady.reconnect hhand
  cases hresult : (s.bridge.reconnectAndValidate reply).1 with
  | ok value => exact (reconnect_reports s.bridge reply).2 hresult
  | error error =>
      rw [hresult] at havailable
      simp only [WorkerLoop.finishReconnect, PortOutcome.result] at havailable
      split at havailable
      · exact absurd (hunavailable.symm.trans havailable) (by decide)
      · exact absurd (hunavailable.symm.trans havailable) (by decide)

/-- **Every step keeps the member `permanent` while the store is available.** -/
lemma next (h : Current s) {input : BridgedInput} (henabled : s.Enabled input) :
    Current (s.next cfg input) := by
  refine ⟨h.steady.next henabled.1, fun havailable => ?_⟩
  cases input with
  | reply reply now =>
      rcases BridgedWorker.reply_cases henabled with
        ⟨operationId, task, hhand, heq⟩ | ⟨task, hhand, heq⟩ | ⟨write, hhand, heq⟩
      · rw [BridgedWorker.next] at havailable ⊢
        simp only [heq, WorkerInput.apply, hhand] at havailable ⊢
        exact h.executed hhand reply now havailable
      · rw [BridgedWorker.next] at havailable ⊢
        simp only [heq, WorkerInput.apply, hhand] at havailable ⊢
        exact h.provisioned hhand reply now havailable
      · rw [BridgedWorker.next] at havailable ⊢
        simp only [heq, WorkerInput.apply, hhand] at havailable ⊢
        exact h.written hhand reply now havailable
  | reconnected reply now => exact h.reconnected henabled.1.2 reply now havailable
  | other own => exact h.member (unavailable_of_other (henabled.2 own rfl) havailable)

end Current

lemma current_of_reachable {start : StartConfig} {cfg : WorkerConfig} {s : BridgedWorker}
    (hs : (bridgedLoop start cfg).Reachable s) : Current s := by
  refine hs.invariant ?_ fun s input _ h henabled => h.next henabled
  rintro s ⟨hloop, _, replies, hstore⟩
  refine ⟨?_, fun _ => ?_⟩
  · rw [hloop]
    exact .of_free rfl
  · rw [startStore_fresh hstore]

/-! ### The law -/

/-- The task fails without an exception: a transition the status graph forbids, a
compare-and-set that met another status, or a row that does not decode. -/
def CommandDatabaseTask.FailsInCode (reply : StoreReply) : CommandDatabaseTask → Prop
  | .findCommand _ _ | .findCommandById _ => ∃ row rest message,
      reply.rows = .ok (row :: rest) ∧ commandFromRow row = .error message
  | .insertCommand _ => ∃ row message,
      reply.rows = .ok [row] ∧ commandFromRow row = .error message
  | .transitionCommand _ expected desired _ => expected.canTransition desired = false ∨
      reply.rows = .ok [] ∨ ∃ row rest message,
        reply.rows = .ok (row :: rest) ∧ commandFromRow row = .error message
  | .recoverControlCommands _ _ => ∃ rows message,
      reply.rows = .ok rows ∧ rows.mapM commandFromRow = .error message
  | .cleanupCommands _ _ => False

/-- A block that returned an error met no broken connection. -/
lemma not_broken {α : Type} {body : Body α} {result : Except String α} {isOpen : Bool}
    (h : body = .ok result) : ¬ body.Broken isOpen := by
  rintro ⟨fault, hfault, _⟩
  rw [h] at hfault
  cases hfault

section FailsInCode

variable {reply : StoreReply} {row : CommandRow} {rest : List CommandRow} {message : String}

lemma findBody_undecoded (hrows : reply.rows = .ok (row :: rest))
    (hrow : commandFromRow row = .error message) : reply.findBody = .ok (.error message) := by
  rw [StoreReply.findBody]
  rw [hrows]
  simp only [Except.map, hrow]

lemma insertBody_undecoded (hrows : reply.rows = .ok [row])
    (hrow : commandFromRow row = .error message) : reply.insertBody = .ok (.error message) := by
  rw [StoreReply.insertBody]
  rw [hrows]
  simp only [Except.bind, hrow, StoreReply.committed]

lemma transitionBody_missed (hrows : reply.rows = .ok []) :
    reply.transitionBody = .ok (.error CommandTable.stateChanged) := by
  rw [StoreReply.transitionBody]
  rw [hrows]
  rfl

lemma transitionBody_undecoded (hrows : reply.rows = .ok (row :: rest))
    (hrow : commandFromRow row = .error message) :
    reply.transitionBody = .ok (.error message) := by
  rw [StoreReply.transitionBody]
  rw [hrows]
  simp only [Except.bind, hrow, StoreReply.committed]

lemma recoverBody_undecoded {rows : List CommandRow} (hrows : reply.rows = .ok rows)
    (hdecode : rows.mapM commandFromRow = .error message) :
    reply.recoverBody = .ok (.error message) := by
  rw [StoreReply.recoverBody]
  rw [hrows]
  simp only [Except.bind, hdecode, StoreReply.committed]

end FailsInCode

/-- The port passes an error of the store on. -/
lemma answer_error {α β : Type} {bridge : RuntimePostgresBridge} {f : α → β}
    {classified : RuntimePostgresBridge → String → DatabaseError}
    {call : Except String α × PostgresStore} (message : String) (h : call.1 = .error message) :
    ∃ error, ((bridge.answer classified call).map (fun result => result.map f) id).1 =
      .error error := by
  unfold RuntimePostgresBridge.answer
  dsimp only
  rw [h]
  exact ⟨_, rfl⟩

/-- Such a failure is an error, and no broken connection. -/
lemma failsInCode {bridge : RuntimePostgresBridge} {reply : StoreReply}
    {task : CommandDatabaseTask} (h : task.FailsInCode reply) :
    ¬ task.Broken reply ∧ ∃ error, (bridge.execute reply task).1 = .error error := by
  have hattempt : ∀ {α : Type} {body : Body α} {message text : String} {isOpen : Bool},
      body = .ok (.error message) →
        (bridge.store.attempt isOpen text body).1 = .error message := by
    intro α body message text isOpen hbody
    rw [hbody]
    rfl
  cases task with
  | findCommand sourceId requestId =>
      obtain ⟨row, rest, message, hrows, hrow⟩ := h
      have hbody := findBody_undecoded hrows hrow
      exact ⟨not_broken hbody, answer_error _ (hattempt hbody)⟩
  | findCommandById commandId =>
      obtain ⟨row, rest, message, hrows, hrow⟩ := h
      have hbody := findBody_undecoded hrows hrow
      exact ⟨not_broken hbody, answer_error _ (hattempt hbody)⟩
  | insertCommand command =>
      obtain ⟨row, message, hrows, hrow⟩ := h
      have hbody := insertBody_undecoded hrows hrow
      exact ⟨not_broken hbody, answer_error _ (hattempt hbody)⟩
  | transitionCommand commandId expected desired update =>
      cases hcan : expected.canTransition desired with
      | false =>
          refine ⟨fun hbroken => ?_, answer_error "转换 PostgreSQL 命令状态失败：状态迁移非法" ?_⟩
          · have hallowed : expected.canTransition desired = true := hbroken.1
            rw [hcan] at hallowed
            cases hallowed
          · simp [PostgresStore.transitionCommand, hcan, PostgresStore.refuse]
      | true =>
          have hbody : ∃ message, reply.transitionBody = .ok (.error message) := by
            rcases h with hillegal | hmissed | ⟨row, rest, message, hrows, hrow⟩
            · rw [hcan] at hillegal
              cases hillegal
            · exact ⟨_, transitionBody_missed hmissed⟩
            · exact ⟨message, transitionBody_undecoded hrows hrow⟩
          obtain ⟨message, hbody⟩ := hbody
          refine ⟨fun hbroken => not_broken hbody hbroken.2, answer_error message ?_⟩
          simp only [PostgresStore.transitionCommand, hcan, Bool.not_true, Bool.false_eq_true,
            if_false]
          exact hattempt hbody
  | recoverControlCommands recoveredAt limit =>
      obtain ⟨rows, message, hrows, hdecode⟩ := h
      have hbody := recoverBody_undecoded hrows hdecode
      refine ⟨fun hbroken => not_broken hbody hbroken.2, ?_⟩
      by_cases hlimit : int64Max < limit
      · refine answer_error "恢复 PostgreSQL 飞控命令失败：数量超出范围" ?_
        rw [PostgresStore.recoverActiveControlCommands, if_pos hlimit]
      · refine answer_error message ?_
        rw [PostgresStore.recoverActiveControlCommands, if_neg hlimit]
        exact hattempt hbody
  | cleanupCommands before batchSize => exact h.elim

/-- **The kind is never stale.**  In every state of the thread on its port, from
the store of a successful start: an answer is `unavailable` only if its own call
ended on a broken or a closed connection, and a task that fails without an
exception is answered with a permanent error. -/
theorem unavailable_of_broken {start : StartConfig} {cfg : WorkerConfig} {s : BridgedWorker}
    (hs : (bridgedLoop start cfg).Reachable s) {input : BridgedInput}
    (henabled : s.Enabled input) :
    (∀ error, (s.deliver input).1.error? = some error → error.kind = .unavailable →
      input.Broken s) ∧
    (∀ operationId task reply now, s.loop.hand = .command operationId task →
      input = .reply reply now → task.FailsInCode reply →
      ∃ error, (s.deliver input).1.error? = some error ∧ error.kind = .permanent) := by
  have h := current_of_reachable hs
  refine ⟨fun error herror hkind => ?_, ?_⟩
  · cases input with
    | reply reply now =>
        rw [BridgedInput.Broken]
        rcases BridgedWorker.reply_cases henabled with
          ⟨operationId, task, hhand, heq⟩ | ⟨task, hhand, heq⟩ | ⟨write, hhand, heq⟩
        · have hreports := execute_reports reply (h.member (h.steady.command _ _ hhand)) task
          rw [hhand]
          refine hreports.unavailable error ?_ hkind
          rw [heq] at herror
          exact error?_executed herror
        · have hreports := provision_reports reply (h.member (h.steady.provision _ hhand)) task
          rw [hhand]
          refine hreports.unavailable error ?_ hkind
          rw [heq] at herror
          exact error?_provisioned herror
        · have hreports := write_reports reply (h.member (h.steady.write _ hhand)) write
          rw [hhand]
          refine hreports.unavailable error ?_ hkind
          rw [heq] at herror
          exact error?_written herror
    | reconnected reply now =>
        exact (reconnect_reports s.bridge reply).1 error (error?_reconnected herror) hkind
    | other own =>
        have hnone : (s.deliver (.other own)).1.error? = none := error?_other (henabled.2 own rfl)
        rw [hnone] at herror
        cases herror
  · rintro operationId task reply now hhand rfl hfails
    obtain ⟨hunbroken, error, herror⟩ := @failsInCode s.bridge reply task hfails
    have hreports := execute_reports reply (h.member (h.steady.command _ _ hhand)) task
    refine ⟨error, ?_, ?_⟩
    · rw [BridgedWorker.deliver]
      simp only [hhand, herror, WorkerInput.error?]
    · cases hkind : error.kind with
      | permanent => rfl
      | unavailable => exact absurd (hreports.unavailable error herror hkind) hunbroken

/-- A transition meets a broken connection; the thread reconnects and takes it
again. -/
def lostThenTaken : List BridgedInput :=
  [.other (.submitCommand 1 (.transitionCommand "c1" .pending .dispatched
      ⟨none, none, none, some 5, none, 5⟩)),
    .other (.select false List.head? 0), .reply { rows := .error .brokenConnection } 0,
    .other (.select false List.head? 5000000000),
    .reconnected ⟨true, .ok [], true⟩ 5000000000,
    .other (.select false List.head? 5000000000)]

/-- A start of the service on an empty database. -/
def emptyStart : StartConfig where
  migrations := []
  fixedSources := []
  maxInflightCommands := 256
  loads _ := .ok ()

/-- The thread at its start. -/
def startedWorker : BridgedWorker := ⟨.fresh, ⟨{}, []⟩⟩

lemma enabled_other {s : BridgedWorker} {input : WorkerInput} (h : input.Enabled s.loop)
    (hother : input.IsOther) : s.Enabled (.other input) := by
  refine ⟨h, fun own heq => ?_⟩
  cases heq
  exact hother

lemma enabled_reply {s : BridgedWorker} {operationId : ℕ} {task : CommandDatabaseTask}
    (hrunning : s.loop.workerStopped = false) (hhand : s.loop.hand = .command operationId task)
    (reply : StoreReply) (now : TimePoint) : s.Enabled (.reply reply now) := by
  refine ⟨?_, fun own heq => by cases heq⟩
  rw [BridgedWorker.deliver]
  rw [hhand]
  exact ⟨hrunning, operationId, task, hhand⟩

lemma enabled_reconnected {s : BridgedWorker} (hrunning : s.loop.workerStopped = false)
    (hhand : s.loop.hand = .reconnect) (reply : ReconnectReply) (now : TimePoint) :
    s.Enabled (.reconnected reply now) :=
  ⟨⟨hrunning, hhand⟩, fun own heq => by cases heq⟩

lemma reachable_lostThenTaken : (bridgedLoop emptyStart {}).Reachable
    (lostThenTaken.foldl (BridgedWorker.next {}) startedWorker) := by
  have hstart : (bridgedLoop emptyStart {}).init startedWorker :=
    ⟨rfl, rfl, ⟨true, .ok [], true, .ok [], {}, {}, {}⟩, rfl⟩
  have hrun : (bridgedLoop emptyStart {}).Run startedWorker lostThenTaken
      (lostThenTaken.foldl (BridgedWorker.next {}) startedWorker) :=
    .cons (enabled_other trivial trivial)
      (.cons (enabled_other ⟨rfl, rfl, head?_first⟩ trivial)
        (.cons (enabled_reply rfl rfl _ _)
          (.cons (enabled_other ⟨rfl, rfl, head?_first⟩ trivial)
            (.cons (enabled_reconnected rfl rfl _ _)
              (.cons (enabled_other ⟨rfl, rfl, head?_first⟩ trivial) (.nil _))))))
  exact Machine.Reachable.run (.start hstart) hrun

/-- The first call was answered as unavailable, and the compare-and-set miss of
the second one is a permanent error. -/
theorem unavailable_of_broken_missed : ∃ error,
    ((lostThenTaken.foldl (BridgedWorker.next {}) startedWorker).deliver
      (.reply {} 5000000000)).1.error? = some error ∧ error.kind = .permanent :=
  (unavailable_of_broken reachable_lostThenTaken (enabled_reply rfl rfl {} 5000000000)).2
    1 _ {} _ rfl rfl (.inr (.inl rfl))

end CnsServer
