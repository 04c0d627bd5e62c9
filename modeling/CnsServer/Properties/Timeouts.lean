/-
Deadlines.

`ProcessTimeoutsAndRecovery` passes over every command in `recovery_started_`,
also when its deadline is over.  Since `PublishRecord` marks each command it
sends, the usual course of a command leaves it marked.

* `pendingTransitions`: the transitions of one command under way;
* `Apart`: what the turns of other commands in a scan leave alone;
* `timeout_formed_iff`: after the scan a command whose deadline is over has a
  terminal transition under way exactly if it was not marked.
-/
import CnsServer.Invariants.Wellformed
import CnsServer.Runtime.Scenario

namespace CnsServer

open RuntimeBundle CommandStatus

/-- The statuses asked for by the transitions of the command in `operations_` and
in `deferred_transitions_`. -/
def pendingTransitions (b : RuntimeBundle) (c : String) : List CommandStatus :=
  (b.operations.entries.filterMap fun entry =>
    if entry.2.kind = .transition then
      (entry.2.context.record.filter (·.commandId = c)).map (·.status)
    else none) ++
  ((b.deferredTransitions.lookup c).map (·.task.desired)).toList

/-- The command is active and its deadline is over. -/
def isDue (b : RuntimeBundle) (c : String) (now : TimePoint) : Bool :=
  (b.activeCommands.lookup c).any fun context => context.deadline ≤ now

lemma mem_pendingTransitions {b : RuntimeBundle} {c : String} {s : CommandStatus} :
    s ∈ pendingTransitions b c ↔
      (∃ i operation r, b.operations.lookup i = some operation ∧ operation.kind = .transition ∧
        operation.context.record = some r ∧ r.commandId = c ∧ r.status = s) ∨
      ∃ deferred, b.deferredTransitions.lookup c = some deferred ∧ deferred.task.desired = s := by
  rw [pendingTransitions]
  rw [List.mem_append, List.mem_filterMap]
  refine or_congr ⟨?_, ?_⟩ ?_
  · rintro ⟨⟨i, operation⟩, hmem, heq⟩
    split at heq
    · next hkind =>
        obtain ⟨r, hr, rfl⟩ := Option.map_eq_some_iff.mp heq
        obtain ⟨hrecord, hid⟩ := Option.filter_eq_some_iff.mp hr
        exact ⟨i, operation, r, Map.mem_entries_iff.mp hmem, hkind, hrecord,
          of_decide_eq_true hid, rfl⟩
    · cases heq
  · rintro ⟨i, operation, r, hop, hkind, hrecord, rfl, rfl⟩
    refine ⟨⟨i, operation⟩, Map.mem_entries_iff.mpr hop, ?_⟩
    rw [if_pos hkind, hrecord]
    simp
  · cases b.deferredTransitions.lookup c with
    | none => simp
    | some deferred => simp [eq_comm]

/-! ### The turns of the others -/

/-- Nothing has changed for the command `c`: it is as active, as marked, and as
many of its transitions are under way. -/
structure Apart (c : String) (b b' : RuntimeBundle) : Prop where
  active : b'.activeCommands = b.activeCommands
  marked : c ∈ b'.recoveryStarted ↔ c ∈ b.recoveryStarted
  pending : ∀ s, s ∈ pendingTransitions b' c ↔ s ∈ pendingTransitions b c

namespace Apart

variable {cfg : CommandServiceConfig} {answers : Answers} {c : String} {a b b' : RuntimeBundle}

lemma refl (b : RuntimeBundle) : Apart c b b := ⟨rfl, Iff.rfl, fun _ => Iff.rfl⟩

lemma trans (h : Apart c a b) (h' : Apart c b b') : Apart c a b' :=
  ⟨h'.active.trans h.active, h'.marked.trans h.marked,
    fun s => (h'.pending s).trans (h.pending s)⟩

/-- The four maps the relation looks at are the same. -/
lemma of_eq (hactive : b'.activeCommands = b.activeCommands)
    (hmarked : c ∈ b'.recoveryStarted ↔ c ∈ b.recoveryStarted)
    (hoperations : b'.operations = b.operations)
    (hdeferred : b'.deferredTransitions.lookup c = b.deferredTransitions.lookup c) :
    Apart c b b' := by
  refine ⟨hactive, hmarked, fun s => ?_⟩
  simp only [pendingTransitions]
  rw [hoperations, hdeferred]

/-- A submission that is no transition of the command. -/
lemma accepted (hlt : ∀ i operation, b.operations.lookup i = some operation →
      i < b.nextOperationId) {kind : OperationKind} {context : RequestContext}
    (hother : kind = .transition → ∀ r, context.record = some r → r.commandId ≠ c)
    (task : CommandDatabaseTask) : Apart c b (b.accepted kind context task) := by
  refine ⟨rfl, Iff.rfl, fun s => ?_⟩
  rw [mem_pendingTransitions, mem_pendingTransitions]
  refine or_congr_left ⟨?_, ?_⟩
  · rintro ⟨i, operation, r, hop, hkind, hrecord, hid, hs⟩
    rcases Map.lookup_insert_some.mp hop with ⟨_, rfl⟩ | ⟨_, hop⟩
    · exact absurd hid (hother hkind r hrecord)
    · exact ⟨i, operation, r, hop, hkind, hrecord, hid, hs⟩
  · rintro ⟨i, operation, r, hop, hrest⟩
    exact ⟨i, operation, r, Map.lookup_insert_some.mpr (.inr ⟨(hlt i operation hop).ne, hop⟩),
      hrest⟩

/-- A transition of another command. -/
lemma form (hlt : ∀ i operation, b.operations.lookup i = some operation →
      i < b.nextOperationId) {context : RequestContext} {task : TransitionCommandTask}
    (hrecord : ∀ r, context.record = some r → r.commandId = task.commandId)
    (hother : task.commandId ≠ c) : Apart c b (b.submitTransitionOrDefer cfg context task) := by
  have hformed : Apart c b (b.emit (.formed task (b.replaced task.commandId))) :=
    of_eq rfl Iff.rfl rfl rfl
  rcases submitTransitionOrDefer_cases cfg b context task with heq | heq
  · rw [heq]
    have hacc := @accepted c (b.emit (.formed task (b.replaced task.commandId))) hlt .transition
      context (fun _ r hr => hrecord r hr ▸ hother) task.toTask
    exact (hformed.trans hacc).trans
      (of_eq rfl Iff.rfl rfl (AList.lookup_erase_ne (Ne.symm hother)))
  · rw [heq]
    exact hformed.trans (of_eq rfl Iff.rfl rfl (AList.lookup_insert_ne (Ne.symm hother)))

/-- The message of another command. -/
lemma publish (hlt : ∀ i operation, b.operations.lookup i = some operation →
      i < b.nextOperationId) {context : RequestContext} {now : TimePoint}
    (hother : ∀ r, context.record = some r → r.commandId ≠ c) :
    Apart c b (b.publishRecord cfg answers context now) := by
  rcases publishRecord_cases cfg answers b context now with
    heq | ⟨record, deviceId, payload, hrecord, _, _, _, hwhich⟩
  · rw [heq]; exact refl b
  have hne := hother record hrecord
  have hmark : c ∈ insert record.commandId b.recoveryStarted ↔ c ∈ b.recoveryStarted := by
    rw [Finset.mem_insert]
    exact or_iff_right (Ne.symm hne)
  rcases hwhich with heq | heq
  · rw [heq]
    exact of_eq rfl hmark rfl rfl
  · rw [heq]
    have hunsent : Apart c b (b.unsent cfg context record deviceId payload) :=
      of_eq rfl hmark rfl rfl
    refine hunsent.trans (form ?_ (fun r hr => ?_) hne)
    · exact hlt
    · cases hr
      rfl

/-- A deferred transition is tried again: it moves to the operations, or
stays. -/
lemma retryDeferred (hw : Wellformed b) {key : String} {deferred : DeferredTransition}
    (hfound : b.deferredTransitions.lookup key = some deferred) :
    Apart c b (b.retryDeferred cfg key deferred) := by
  have hok := hw.deferred key deferred hfound
  obtain ⟨r, hcontext, hid, hstatus⟩ := hok.context
  rcases retryDeferred_cases cfg b key deferred with heq | heq
  · rw [heq]
    refine ⟨rfl, Iff.rfl, fun s => ?_⟩
    rw [mem_pendingTransitions, mem_pendingTransitions]
    constructor
    · rintro (⟨i, operation, r', hop, hkind, hrecord, hid', hs⟩ | ⟨d, hd, hs⟩)
      · rcases Map.lookup_insert_some.mp hop with ⟨_, rfl⟩ | ⟨_, hop⟩
        · have := hcontext.unique hrecord
          subst this
          exact .inr ⟨deferred, by rw [← hid', hid]; exact hfound, hstatus.symm.trans hs⟩
        · exact .inl ⟨i, operation, r', hop, hkind, hrecord, hid', hs⟩
      · exact .inr ⟨d, (Map.lookup_erase_some.mp hd).2, hs⟩
    · rintro (⟨i, operation, r', hop, hrest⟩ | ⟨d, hd, hs⟩)
      · exact .inl ⟨i, operation, r',
          Map.lookup_insert_some.mpr (.inr ⟨(hw.operations_lt i operation hop).ne, hop⟩), hrest⟩
      · by_cases hc : c = key
        · subst hc
          rw [hfound] at hd
          cases hd
          exact .inl ⟨_, _, r, AList.lookup_insert _, rfl, hcontext.record, hid,
            hstatus.trans hs⟩
        · exact .inr ⟨d, Map.lookup_erase_some.mpr ⟨hc, hd⟩, hs⟩
  · rw [heq]
    refine of_eq rfl Iff.rfl rfl ?_
    change ((b.deferredTransitions.erase key).insert deferred.task.commandId deferred).lookup c = _
    rw [hok.key, Map.lookup_insert_ite, Map.lookup_erase_ite]
    split
    · next hc => rw [hc, hfound]
    · rfl

lemma workerTurns (events : List WorkerEvent) (b : RuntimeBundle) :
    Apart c b (events.foldl workerTurn b) := by
  induction events generalizing b with
  | nil => exact refl b
  | cons event events ih =>
      have hone : Apart c b (b.workerTurn event) := of_eq rfl Iff.rfl rfl rfl
      exact hone.trans (ih _)

lemma submitCleanup (hw : Wellformed b) (now : TimePoint) :
    Apart c b (b.submitCleanup cfg now) := by
  rw [RuntimeBundle.submitCleanup]
  split
  · exact of_eq rfl Iff.rfl rfl rfl
  · split
    · exact refl b
    · dsimp only
      have hsubmit : Apart c b (b.submit cfg .cleanup (cleanupContext now)
          (.cleanupCommands (now - cfg.terminalRetention) cfg.cleanupBatchSize)).2 := by
        rcases submit_cases cfg b .cleanup (cleanupContext now)
          (.cleanupCommands (now - cfg.terminalRetention) cfg.cleanupBatchSize) with h | h
        · rw [h]
          exact accepted hw.operations_lt (fun hkind => by cases hkind) _
        · rw [h]
          exact of_eq rfl Iff.rfl rfl rfl
      split
      · exact hsubmit.trans (of_eq rfl Iff.rfl rfl rfl)
      · exact of_eq rfl Iff.rfl rfl rfl

/-- The turn of another command in the scan. -/
lemma visit (hw : Wellformed b) {id : String} (hother : id ≠ c) (now : TimePoint) :
    Apart c b (b.visit cfg answers id now) := by
  rw [RuntimeBundle.visit]
  split
  · exact refl b
  · next context hcontext =>
      obtain ⟨r, hr, _, rfl⟩ := hw.active id context hcontext
      rw [hr.record]
      have hmark : c ∈ insert r.commandId b.recoveryStarted ↔ c ∈ b.recoveryStarted := by
        rw [Finset.mem_insert]
        exact or_iff_right (Ne.symm hother)
      have hmarked : Apart c b { b with
          recoveryStarted := insert r.commandId b.recoveryStarted } := of_eq rfl hmark rfl rfl
      dsimp only
      split
      · split
        · exact refl b
        · refine hmarked.trans (form ?_ (fun s hs => ?_) hother)
          · exact hw.operations_lt
          · cases hs
            rfl
      · split
        · exact refl b
        · split
          · exact refl b
          · split
            · refine hmarked.trans (publish ?_ fun s hs => ?_)
              · exact hw.operations_lt
              · rw [hr.unique hs]
                exact hother
            · exact refl b

/-- The turns of other commands, one after the other. -/
lemma visits {now : TimePoint}
    (hadmissible : ∀ slot, ∀ event ∈ answers.interleaved slot, event.Admissible)
    (ids : List String) (hother : c ∉ ids) (hw : Wellformed b) :
    Apart c b (ids.foldl (fun b id =>
      ((answers.interleaved (some id)).foldl workerTurn b).visit cfg answers id now) b) ∧
    Wellformed (ids.foldl (fun b id =>
      ((answers.interleaved (some id)).foldl workerTurn b).visit cfg answers id now) b) := by
  induction ids generalizing b with
  | nil => exact ⟨refl b, hw⟩
  | cons id ids ih =>
      rw [List.mem_cons, not_or] at hother
      obtain ⟨hne, hrest⟩ := hother
      have hturns := @Idle.foldl_workerTurn .any cfg _ (hadmissible (some id)) b
        fun _ _ => trivial
      have hw₁ := hw.ticks hturns.ticks
      have hw₂ := hw₁.ticks (@Idle.visit .any cfg answers _ id now trivial).ticks
      obtain ⟨hapart, hw₃⟩ := ih hrest hw₂
      exact ⟨((workerTurns _ b).trans (visit hw₁ (Ne.symm hne) now)).trans hapart, hw₃⟩

end Apart

/-! ### The scan -/

section Scan

variable {cfg : CommandServiceConfig} {answers : Answers} {b : RuntimeBundle} {c : String}
  {context : RequestContext} {now : TimePoint}

/-- The turn of a command whose deadline is over. -/
lemma visit_due (hw : Wellformed b) (hactive : b.activeCommands.lookup c = some context)
    (hdue : context.deadline ≤ now) :
    (c ∈ b.recoveryStarted → b.visit cfg answers c now = b) ∧
    (c ∉ b.recoveryStarted → .timeout ∈ pendingTransitions (b.visit cfg answers c now) c) := by
  obtain ⟨r, hr, _, hid⟩ := hw.active c context hactive
  rw [RuntimeBundle.visit]
  rw [hactive]
  dsimp only
  rw [hr.record]
  dsimp only
  rw [if_pos hdue]
  refine ⟨fun hmarked => if_pos hmarked, fun hmarked => ?_⟩
  rw [if_neg hmarked, mem_pendingTransitions]
  rw [submitTimeout]
  rcases submitTransitionOrDefer_cases cfg
    { b with recoveryStarted := insert c b.recoveryStarted }
    { context with record := some (timedOut r context.commandType now) }
    ⟨c, r.status, .timeout,
      { errorCode := (timedOut r context.commandType now).errorCode
        errorMessage := (timedOut r context.commandType now).errorMessage
        deviceAck := none
        dispatchedAt := r.dispatchedAt
        completedAt := some now
        updatedAt := now }⟩ with heq | heq
  · rw [heq]
    exact .inl ⟨_, _, _, AList.lookup_insert _, rfl, rfl, hid, rfl⟩
  · rw [heq]
    exact .inr ⟨_, AList.lookup_insert _, rfl⟩

/-- **The scan and one command**: nothing has changed for it before its own
turn, and nothing changes after it. -/
lemma finishReady_split (hw : Wellformed b)
    (hadmissible : ∀ slot, ∀ event ∈ answers.interleaved slot, event.Admissible)
    (hactive : c ∈ b.activeCommands.keys) :
    ∃ x, Apart c b x ∧ Wellformed x ∧
      Apart c (x.visit cfg answers c now) (b.finishReady cfg answers now) := by
  have hretry : Apart c b (b.retryDeferredTransitions cfg answers) := by
    rw [RuntimeBundle.retryDeferredTransitions]
    split
    · exact .refl b
    · split
      · exact .refl b
      · split
        · exact .refl b
        · next deferred hdeferred => exact .retryDeferred hw hdeferred
  have hw₁ := hw.ticks (@Idle.retryDeferredTransitions .any cfg answers b).ticks
  have hw₂ := hw₁.ticks
    (@Idle.foldl_workerTurn .any cfg _ (hadmissible none)
      (b.retryDeferredTransitions cfg answers) fun _ _ => trivial).ticks
  have hw₃ := hw₂.ticks (@Idle.submitCleanup .any cfg _ now).ticks
  have hbefore : Apart c b (((answers.interleaved none).foldl workerTurn
      (b.retryDeferredTransitions cfg answers)).submitCleanup cfg now) :=
    (hretry.trans (.workerTurns _ _)).trans (.submitCleanup hw₂ now)
  -- the scan visits every active command once
  have hperm := answers.order_perm (((answers.interleaved none).foldl workerTurn
    (b.retryDeferredTransitions cfg answers)).submitCleanup cfg now).activeCommands.keys
  have hmem := hperm.mem_iff.mpr (hbefore.active ▸ hactive)
  have hnodup := hperm.nodup_iff.mpr (AList.keys_nodup _)
  obtain ⟨l₁, l₂, hsplit⟩ := List.append_of_mem hmem
  rw [hsplit, List.nodup_append] at hnodup
  have hnot₁ : c ∉ l₁ := fun h => hnodup.2.2 c h c List.mem_cons_self rfl
  have hnot₂ : c ∉ l₂ := (List.nodup_cons.mp hnodup.2.1).1
  obtain ⟨hfirst, hw₄⟩ := @Apart.visits cfg answers c _ now hadmissible l₁ hnot₁ hw₃
  have hturns := hfirst.trans (.workerTurns (answers.interleaved (some c)) _)
  have hw₅ := hw₄.ticks (@Idle.foldl_workerTurn .any cfg _ (hadmissible (some c)) _
    fun _ _ => trivial).ticks
  have hw₆ := hw₅.ticks (@Idle.visit .any cfg answers _ c now trivial).ticks
  refine ⟨_, hbefore.trans hturns, hw₅, ?_⟩
  have hlast := (@Apart.visits cfg answers c _ now hadmissible l₂ hnot₂ hw₆).1
  unfold RuntimeBundle.finishReady RuntimeBundle.processTimeoutsAndRecovery
  dsimp only
  rw [hsplit, List.foldl_append, List.foldl_cons]
  exact hlast

end Scan

/-- **A due command times out exactly if it is not marked**: for every reachable
state and every end of `ProcessReady`, a command that is active with its deadline
over, and that had no transition under way, has a terminal one afterwards if and
only if it was not in `recovery_started_`. -/
theorem timeout_formed_iff {cfg : CommandServiceConfig} {b : RuntimeBundle} {answers : Answers}
    {now : TimePoint} {c : String} (hb : (routeService cfg).Reachable b)
    (henabled : (Input.finishReady answers now).Enabled cfg b)
    (hdue : isDue (b.finishReady cfg answers now) c now = true)
    (hnone : pendingTransitions b c = []) :
    (∃ s ∈ pendingTransitions (b.finishReady cfg answers now) c, s.isTerminal = true) ↔
      c ∉ b.recoveryStarted := by
  have hw := wellformed_of_reachable hb
  unfold isDue at hdue
  rw [activeCommands_finishReady] at hdue
  obtain ⟨context, hactive, hdeadline⟩ := (Option.any_eq_true _ _).mp hdue
  obtain ⟨x, hbefore, hwx, hafter⟩ := @finishReady_split cfg answers b c now hw henabled.2
    (AList.mem_keys.mp (AList.lookup_isSome.mp (by rw [hactive]; rfl)))
  obtain ⟨hmarked, hunmarked⟩ := @visit_due cfg answers x c context now hwx
    (hbefore.active ▸ hactive) (of_decide_eq_true hdeadline)
  constructor
  · rintro ⟨s, hs, _⟩ hin
    rw [hafter.pending, hmarked (hbefore.marked.mpr hin), hbefore.pending, hnone] at hs
    cases hs
  · intro hout
    exact ⟨.timeout, (hafter.pending _).mpr (hunmarked fun h => hout (hbefore.marked.mp h)), rfl⟩

/-- The dispatched command of the sample installation, after a reconnection of
the broker. -/
def Sample.reconnected : RuntimeBundle :=
  play Sample.config Sample.started
    (Sample.dispatched .config true ++ [.setMqttAvailable false, .setMqttAvailable true])

/-- It is no longer marked, and times out. -/
theorem timeout_formed_reconnected :
    ∃ s ∈ pendingTransitions (Sample.reconnected.finishReady Sample.config
      (.plain PlainInput.unusedUuid true) 20000000000) Sample.commandId, s.isTerminal = true := by
  have hb : (routeService Sample.config).Reachable Sample.reconnected :=
    reachable_of_played (reachable_firstStart Sample.config (fun _ _ => True) Sample.sources
      (DeviceRegistry.empty.put (Sample.device .online))).of_restrict (by decide +kernel)
  have hadmitted : (PlainInput.finishReady true 20000000000).admitted Sample.config
      Sample.reconnected = true := by
    decide +kernel
  exact (timeout_formed_iff hb (PlainInput.enabled_of_admitted hadmitted) (by decide +kernel)
    (by decide +kernel)).mpr (by decide +kernel)

/-- **The usual course suppresses the timeout**: accepted, published and
dispatched, and then silence.  The deadline is over, no transition was under way,
and none is after the scan. -/
theorem timeout_suppressed_dispatched :
    (routeService Sample.config).Reachable
        (play Sample.config Sample.started (Sample.dispatched .config true)) ∧
      (Input.finishReady (.plain PlainInput.unusedUuid true) 20000000000).Enabled Sample.config
        (play Sample.config Sample.started (Sample.dispatched .config true)) ∧
      isDue ((play Sample.config Sample.started (Sample.dispatched .config true)).finishReady
        Sample.config (.plain PlainInput.unusedUuid true) 20000000000) Sample.commandId
        20000000000 = true ∧
      pendingTransitions (play Sample.config Sample.started (Sample.dispatched .config true))
        Sample.commandId = [] ∧
      pendingTransitions ((play Sample.config Sample.started
        (Sample.dispatched .config true)).finishReady Sample.config
        (.plain PlainInput.unusedUuid true) 20000000000) Sample.commandId = [] := by
  have hadmitted : (PlainInput.finishReady true 20000000000).admitted Sample.config
      (play Sample.config Sample.started (Sample.dispatched .config true)) = true := by
    decide +kernel
  exact ⟨reachable_of_played (reachable_firstStart Sample.config (fun _ _ => True) Sample.sources
      (DeviceRegistry.empty.put (Sample.device .online))).of_restrict (by decide +kernel),
    PlainInput.enabled_of_admitted hadmitted, by decide +kernel, by decide +kernel,
    by decide +kernel⟩

end CnsServer
