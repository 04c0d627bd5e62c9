/-
Bounded resources: `active_commands_` together with the searches and insertions
in flight, `completed_commands_`, and `early_device_acks_`.

A request is admitted once, when it arrives; its command enters
`active_commands_` two database round trips later.  What is bounded is therefore
the sum of the two (`Capacity.load`): the search takes the place that the
insertion and then the active command inherit.  Transition and convergence
results put commands back that are active already, because a closed command is
never reported as open again.

* `Loads`: a change that activates nothing and adds at most `n` requests;
* `Capacity`: the invariant;
* `resources_bounded`: it holds in every reachable state;
* `lateAck_unrecognised`: what is remembered of the finished commands is never found.
-/
import CnsServer.Invariants.Lifecycle
import CnsServer.Runtime.Scenario

namespace CnsServer

open RuntimeBundle

/-- A search for a request key, or an insertion. -/
def Operation.isRequest (operation : Operation) : Bool :=
  operation.kind = .find || operation.kind = .insert

/-- The number of searches and insertions in flight. -/
def requests (b : RuntimeBundle) : ℕ := Map.countP Operation.isRequest b.operations

/-! ### Changes that activate nothing -/

/-- Nothing is activated, remembered or buffered, and at most `n` more requests
are in flight. -/
structure Loads (n : ℕ) (b b' : RuntimeBundle) : Prop where
  activeCommands : b'.activeCommands = b.activeCommands
  completedCommands : b'.completedCommands = b.completedCommands
  earlyDeviceAcks : b'.earlyDeviceAcks = b.earlyDeviceAcks
  requests : requests b' ≤ requests b + n

namespace Loads

variable {cfg : CommandServiceConfig} {a b b' : RuntimeBundle} {n : ℕ}

lemma refl (b : RuntimeBundle) : Loads 0 b b := ⟨rfl, rfl, rfl, le_refl _⟩

/-- The maps stay as they are. -/
lemma same (h : Loads n a b) (hactive : b'.activeCommands = b.activeCommands)
    (hcompleted : b'.completedCommands = b.completedCommands)
    (hearly : b'.earlyDeviceAcks = b.earlyDeviceAcks)
    (hoperations : b'.operations = b.operations) : Loads n a b' :=
  ⟨hactive.trans h.activeCommands, hcompleted.trans h.completedCommands,
    hearly.trans h.earlyDeviceAcks, by
      rw [CnsServer.requests]
      rw [hoperations]
      exact h.requests⟩

/-- A submission adds the request it is, if it is one. -/
lemma submit (h : Loads n a b) (hfresh : b.operations.lookup b.nextOperationId = none)
    (kind : OperationKind) (context : RequestContext) (task : CommandDatabaseTask) :
    Loads (n + if Operation.isRequest ⟨kind, context⟩ then 1 else 0) a
      (b.submit cfg kind context task).2 := by
  have hrequests := h.requests
  rcases submit_cases cfg b kind context task with heq | heq
  · rw [heq]
    refine ⟨h.activeCommands, h.completedCommands, h.earlyDeviceAcks, ?_⟩
    have hcount : CnsServer.requests (b.accepted kind context task) =
        CnsServer.requests b + if Operation.isRequest ⟨kind, context⟩ then 1 else 0 :=
      Map.countP_insert _ hfresh
    change CnsServer.requests (b.accepted kind context task) ≤ _
    omega
  · rw [heq]
    refine ⟨h.activeCommands, h.completedCommands, h.earlyDeviceAcks, ?_⟩
    exact hrequests.trans (Nat.add_le_add_left (Nat.le_add_right _ _) _)

/-- A transition is no request. -/
lemma form (h : Loads n a b) (hfresh : b.operations.lookup b.nextOperationId = none)
    (context : RequestContext) (task : TransitionCommandTask) :
    Loads n a (b.submitTransitionOrDefer cfg context task) := by
  rcases submitTransitionOrDefer_cases cfg b context task with heq | heq
  · rw [heq]
    refine ⟨h.activeCommands, h.completedCommands, h.earlyDeviceAcks, ?_⟩
    have hcount : CnsServer.requests (b.formedNow context task) = CnsServer.requests b :=
      Map.countP_insert _ hfresh
    rw [hcount]
    exact h.requests
  · rw [heq]
    exact h.same rfl rfl rfl rfl

lemma publish (h : Loads n a b) (hfresh : b.operations.lookup b.nextOperationId = none)
    (answers : Answers) (context : RequestContext) (now : TimePoint) :
    Loads n a (b.publishRecord cfg answers context now) := by
  rcases publishRecord_cases cfg answers b context now with
    heq | ⟨record, deviceId, payload, _, _, _, _, heq | heq⟩
  · rw [heq]
    exact h
  · rw [heq]
    exact h.same rfl rfl rfl rfl
  · rw [heq]
    have hunsent : Loads n a (b.unsent cfg context record deviceId payload) :=
      h.same rfl rfl rfl rfl
    exact hunsent.form hfresh _ _

lemma complete (h : Loads n a b) (hfresh : b.operations.lookup b.nextOperationId = none)
    {completion : PublishCompletion} {context : RequestContext} {now : TimePoint}
    (hfound : b.publications.lookup completion.token = some context) :
    Loads n a (b.handleCompletion cfg completion now) := by
  rcases handleCompletion_cases cfg now hfound with
    ⟨_, heq⟩ | ⟨record, _, ⟨_, _, heq⟩ | ⟨_, heq⟩⟩
  · rw [heq]
    exact h.same rfl rfl rfl rfl
  · rw [heq]
    exact h.same rfl rfl rfl rfl
  · rw [heq]
    have htaken : Loads n a (b.completionTaken completion.token record completion.result) :=
      h.same rfl rfl rfl rfl
    exact htaken.form hfresh _ _

lemma retry (h : Loads n a b) (hfresh : b.operations.lookup b.nextOperationId = none)
    (key : String) (deferred : DeferredTransition) :
    Loads n a (b.retryDeferred cfg key deferred) := by
  rcases retryDeferred_cases cfg b key deferred with heq | heq
  · rw [heq]
    refine ⟨h.activeCommands, h.completedCommands, h.earlyDeviceAcks, ?_⟩
    have hcount : CnsServer.requests
        ({ b with deferredTransitions := b.deferredTransitions.erase key }.accepted .transition
          deferred.context deferred.task.toTask) = CnsServer.requests b :=
      Map.countP_insert _ hfresh
    rw [hcount]
    exact h.requests
  · rw [heq]
    exact h.same rfl rfl rfl rfl

lemma taken (b : RuntimeBundle) (operationId : ℕ) (rest : List CommandDatabaseResult) :
    Loads 0 b (b.taken operationId rest) :=
  ⟨rfl, rfl, rfl, Map.countP_erase_le _ _ _⟩

end Loads

/-! ### The invariant -/

/-- The bounds, and the early ACKs belong to active commands. -/
structure Capacity (cfg : CommandServiceConfig) (b : RuntimeBundle) : Prop where
  load : b.activeCommands.keys.length + requests b ≤ cfg.maxInflightCommands
  completed : Remembered cfg b.completedCommands
  early : ∀ c, (b.earlyDeviceAcks.lookup c).isSome → (b.activeCommands.lookup c).isSome

namespace Capacity

variable {cfg : CommandServiceConfig} {b b' : RuntimeBundle}

/-- A change that activates nothing, within the bound. -/
lemma loads {n : ℕ} (h : Capacity cfg b) (hloads : Loads n b b')
    (hroom : b.activeCommands.keys.length + (requests b + n) ≤ cfg.maxInflightCommands) :
    Capacity cfg b' where
  load := by
    rw [hloads.activeCommands]
    exact (Nat.add_le_add_left hloads.requests _).trans hroom
  completed := by rw [hloads.completedCommands]; exact h.completed
  early c hc := by
    rw [hloads.earlyDeviceAcks] at hc
    rw [hloads.activeCommands]
    exact h.early c hc

/-- A change that activates nothing and adds no request. -/
lemma loads_zero (h : Capacity cfg b) (hloads : Loads 0 b b') : Capacity cfg b' :=
  h.loads hloads h.load

/-- The operation that a result answers no longer counts. -/
lemma requests_taken {operationId : ℕ} {operation : Operation}
    (rest : List CommandDatabaseResult) (hop : b.operations.lookup operationId = some operation) :
    requests (b.taken operationId rest) + (if operation.isRequest then 1 else 0) = requests b :=
  Map.countP_erase hop

/-- A command whose transition is under way, and that is active after the tick,
was active before it. -/
lemma active_before {c : String} (hs : Sound b) (htick : Tick cfg b b') (hticket : Ticket b c)
    (hactive : (b'.activeCommands.lookup c).isSome) : c ∈ b.activeCommands.keys := by
  have hbefore : (b.activeCommands.lookup c).isSome := by
    refine (hs.lifecycle.ticket c hticket).resolve_right fun hclosed => ?_
    have hclosed' : Closed b' c := by
      obtain ⟨e, he, hcloses⟩ := hclosed
      exact ⟨e, htick.trace_suffix.subset he, hcloses⟩
    rw [(hs.tick htick).lifecycle.closed_inactive c hclosed'] at hactive
    cases hactive
  exact Map.mem_keys_iff.mpr (Option.isSome_iff_exists.mp hbefore)

/-- An active command takes the record of a result. -/
lemma refreshed {operationId : ℕ} {c : String} {context : RequestContext} (h : Capacity cfg b)
    (hc : c ∈ b.activeCommands.keys)
    (hactive : b'.activeCommands = b.activeCommands.insert c context)
    (hoperations : b'.operations = b.operations.erase operationId)
    (hcompleted : b'.completedCommands = b.completedCommands)
    (hearly : ∀ c, (b'.earlyDeviceAcks.lookup c).isSome → (b.earlyDeviceAcks.lookup c).isSome) :
    Capacity cfg b' where
  load := by
    have hle : requests b' ≤ requests b := by
      rw [requests]
      rw [hoperations]
      exact Map.countP_erase_le _ _ _
    rw [hactive, Map.length_keys_insert, if_pos hc]
    exact (Nat.add_le_add_left hle _).trans h.load
  completed := by rw [hcompleted]; exact h.completed
  early c' hc' := by
    have hbefore := h.early c' (hearly c' hc')
    rw [hactive, Map.lookup_insert_ite]
    split
    · rfl
    · exact hbefore

/-- A finished command leaves the maps. -/
lemma retired {operationId : ℕ} {c : String} (h : Capacity cfg b)
    (hactive : b'.activeCommands = b.activeCommands.erase c)
    (hoperations : b'.operations = b.operations.erase operationId)
    (hcompleted : b'.completedCommands = b.completedCommands)
    (hearly : b'.earlyDeviceAcks = b.earlyDeviceAcks.erase c) : Capacity cfg b' where
  load := by
    have hle : requests b' ≤ requests b := by
      rw [requests]
      rw [hoperations]
      exact Map.countP_erase_le _ _ _
    have hlen : b'.activeCommands.keys.length ≤ b.activeCommands.keys.length := by
      rw [hactive, Map.length_keys_erase]
      split <;> omega
    exact (Nat.add_le_add hlen hle).trans h.load
  completed := by rw [hcompleted]; exact h.completed
  early c' hc' := by
    rw [hearly, Map.lookup_erase_ite] at hc'
    rw [hactive, Map.lookup_erase_ite]
    split at hc'
    · cases hc'
    · next hne => rw [if_neg hne]; exact h.early c' hc'

/-- **Every tick keeps the bounds.** -/
lemma tick (hs : Sound b) (h : Capacity cfg b) (htick : Tick cfg b b') : Capacity cfg b' := by
  have hfresh : b.operations.lookup b.nextOperationId = none := by
    cases hop : b.operations.lookup b.nextOperationId with
    | none => rfl
    | some operation => exact absurd (hs.wellformed.operations_lt _ _ hop) (Nat.lt_irrefl _)
  have htaken : ∀ i rest, (b.taken i rest).operations.lookup (b.taken i rest).nextOperationId =
      none := by
    intro i rest
    change (b.operations.erase i).lookup b.nextOperationId = none
    rw [Map.lookup_erase_ite, hfresh]
    split <;> rfl
  have hinactive : ∀ {c : String}, Ticket b c → (b'.activeCommands.lookup c).isSome →
      c ∈ b.activeCommands.keys := active_before hs htick
  cases htick with
  | quiet hcore =>
      refine ⟨?_, hcore.completed h.completed, fun c hc => ?_⟩
      · rw [Map.length_keys_congr hcore.activeCommands]
        rw [requests]
        rw [Map.countP_congr _ hcore.operations]
        exact h.load
      · rw [hcore.earlyDeviceAcks] at hc
        rw [hcore.activeCommands]
        exact h.early c hc
  | worker => exact h.loads_zero ((Loads.refl b).same rfl rfl rfl rfl)
  | mqtt => exact h.loads_zero ((Loads.refl b).same rfl rfl rfl rfl)
  | device => exact h.loads_zero ((Loads.refl b).same rfl rfl rfl rfl)
  | @find context requestId source json _ _ _ _ hroom =>
      -- the one place where the load grows: the check counts every operation
      refine h.loads ((Loads.refl b).submit hfresh .find context _) ?_
      have hle : requests b ≤ b.operations.keys.length := Map.countP_le _ _
      have hone : (0 + if Operation.isRequest ⟨.find, context⟩ then 1 else 0) = 1 := rfl
      rw [hone]
      omega
  | @cleanup context before size _ =>
      exact h.loads_zero ((Loads.refl b).submit hfresh .cleanup context _)
  | @consumed operationId value rest events hhead hconsumed =>
      exact h.loads_zero ((Loads.taken b operationId rest).same rfl rfl rfl rfl)
  | @create answers operationId operation rest requestId payload hhead hop hkind =>
      -- the insertion takes the place of the search
      have hcount := requests_taken rest hop
      have hreq : operation.isRequest = true := by simp [Operation.isRequest, hkind]
      rw [hreq, if_pos rfl] at hcount
      have hcreated : Loads 0 (b.taken operationId rest) ((b.taken operationId rest).emit
          (.created operationId (b.newCommand answers operation.context requestId payload).1)) :=
        (Loads.refl _).same rfl rfl rfl rfl
      refine (h.loads_zero (Loads.taken b operationId rest)).loads
        (hcreated.submit (htaken operationId rest) .insert _ _) ?_
      have hone : ∀ context, (0 + if Operation.isRequest ⟨.insert, context⟩ then 1 else 0) = 1 :=
        fun _ => rfl
      rw [hone]
      have hload := h.load
      change b.activeCommands.keys.length + _ ≤ _
      omega
  | @conflict operationId operation rest error desired =>
      exact h.loads_zero ((Loads.taken b operationId rest).submit (htaken operationId rest)
        .findByIdForConvergence _ _)
  | @activate answers operationId operation rest record now hhead hop hkind _ _ =>
      -- the active command takes the place of the insertion
      have hcount := requests_taken rest hop
      have hreq : operation.isRequest = true := by simp [Operation.isRequest, hkind]
      rw [hreq, if_pos rfl] at hcount
      have hactivated : Capacity cfg { b.taken operationId rest with
          activeCommands := b.activeCommands.insert record.commandId
            { operation.context with record := some record } } := by
        refine ⟨?_, h.completed, fun c hc => ?_⟩
        · have hload := h.load
          change _ + requests (b.taken operationId rest) ≤ _
          dsimp only
          rw [Map.length_keys_insert]
          split <;> omega
        · have hbefore := h.early c hc
          change ((b.activeCommands.insert _ _).lookup c).isSome
          rw [Map.lookup_insert_ite]
          split
          · rfl
          · exact hbefore
      refine hactivated.loads_zero (Loads.publish (Loads.refl _) ?_ _ _ _)
      exact htaken operationId rest
  | @refresh operationId operation rest record context now hhead hop hkind =>
      obtain ⟨desired, hdesired, hid⟩ := hs.wellformed.transition_result hhead hop hkind
      have hticket : Ticket b record.commandId :=
        .operation hop (.inl hkind) hdesired.record hid.1.commandId.symm
      refine h.refreshed (hinactive hticket ?_) rfl rfl rfl fun c hc => ?_
      · exact (congrArg Option.isSome (AList.lookup_insert _)).trans rfl
      · dsimp only at hc
        split at hc
        · rw [Map.lookup_erase_ite] at hc
          split at hc
          · cases hc
          · exact hc
        · exact hc
  | @settle operationId operation rest current desired hhead hop hkind hdesired =>
      obtain ⟨r, hr, hid⟩ := hs.wellformed.lookup_result hhead hop hkind
      have hticket : Ticket b current.commandId :=
        .operation hop (.inr hkind) hr.record hid.commandId.symm
      refine h.refreshed (hinactive hticket ?_) rfl rfl rfl fun c hc => hc
      exact (congrArg Option.isSome (AList.lookup_insert _)).trans rfl
  | @converge operationId operation rest =>
      exact h.loads_zero ((Loads.taken b operationId rest).form (htaken _ _) _ _)
  | finish => exact h.retired rfl rfl rfl rfl
  | finished => exact h.retired rfl rfl rfl rfl
  | @deviceAck context record ack deviceId payload type now =>
      have hemit : Loads 0 b (b.emit (.deviceAcked deviceId type ack (some record.status))) :=
        (Loads.refl b).same rfl rfl rfl rfl
      exact h.loads_zero (hemit.form hfresh _ _)
  | @buffer context record ack deviceId payload type now _ hactive =>
      have hemit : Capacity cfg (b.emit (.deviceAcked deviceId type ack (some record.status))) :=
        h.loads_zero ((Loads.refl b).same rfl rfl rfl rfl)
      rcases bufferEarlyAck_cases cfg (b.emit (.deviceAcked deviceId type ack
        (some record.status))) type ack ⟨deviceId, payload, now⟩ with
        ⟨kept, _, heq⟩ | ⟨message, heq⟩
      · rw [heq]
        refine ⟨h.load, h.completed, fun c hc => ?_⟩
        change ((b.earlyDeviceAcks.insert ack.commandId kept).lookup c).isSome at hc
        change (b.activeCommands.lookup c).isSome
        rw [Map.lookup_insert_ite] at hc
        split at hc
        · next hid => rw [hid, hactive]; rfl
        · exact h.early c hc
      · rw [heq]
        exact hemit.loads_zero ((Loads.refl _).same rfl rfl rfl rfl)
  | @timeout commandId =>
      have hmark : Loads 0 b { b with recoveryStarted := insert commandId b.recoveryStarted } :=
        (Loads.refl b).same rfl rfl rfl rfl
      exact h.loads_zero (hmark.form hfresh _ _)
  | @republish answers commandId =>
      have hmark : Loads 0 b { b with recoveryStarted := insert commandId b.recoveryStarted } :=
        (Loads.refl b).same rfl rfl rfl rfl
      exact h.loads_zero (hmark.publish hfresh _ _ _)
  | complete hfound => exact h.loads_zero ((Loads.refl b).complete hfresh hfound)
  | retry => exact h.loads_zero ((Loads.refl b).retry hfresh _ _)

/-- A new process holds what was loaded, and no operation. -/
lemma restarted (hrestart : Restarted cfg b b') : Capacity cfg b' where
  load := by
    have hnone : requests b' = Map.countP Operation.isRequest (∅ : Map ℕ Operation) :=
      Map.countP_congr _ fun i => hrestart.operations i
    rw [hnone]
    exact hrestart.room
  completed := by rw [hrestart.completedCommands]; exact .empty cfg
  early c hc := by
    rw [hrestart.earlyDeviceAcks] at hc
    cases hc

lemma blank : Capacity cfg .blank where
  load := Nat.zero_le _
  completed := .empty cfg
  early c hc := by cases hc

end Capacity

lemma capacity_of_reachable {cfg : CommandServiceConfig} {b : RuntimeBundle}
    (hb : (routeService cfg).Reachable b) : Capacity cfg b := by
  have hcap : Sound b ∧ Capacity cfg b :=
    @reachable_of_ticks cfg (fun b => Sound b ∧ Capacity cfg b) ⟨.blank, .blank⟩
      (fun _ _ h hrestart => ⟨h.1.restarted hrestart, .restarted hrestart⟩)
      (fun _ _ h htick => ⟨h.1.tick htick, .tick h.1 h.2 htick⟩) b hb
  exact hcap.2

/-- **Bounded resources**: in every reachable state the active commands and the
searches and insertions in flight are together at most `max_inflight_commands`,
so are the remembered commands, and early ACKs are kept for active commands
only. -/
theorem resources_bounded {cfg : CommandServiceConfig} {b : RuntimeBundle}
    (hb : (routeService cfg).Reachable b) :
    b.activeCommands.keys.length + requests b ≤ cfg.maxInflightCommands ∧
      b.completedCommands.keys.length ≤ cfg.maxInflightCommands ∧
      b.earlyDeviceAcks.keys ⊆ b.activeCommands.keys := by
  have hcap := capacity_of_reachable hb
  refine ⟨hcap.load, hcap.completed.bound, fun c hc => ?_⟩
  have hearly := Option.isSome_iff_exists.mpr (Map.mem_keys_iff.mp hc)
  exact Map.mem_keys_iff.mpr (Option.isSome_iff_exists.mp (hcap.early c hearly))

/-- The sample installation with an ACK that arrives before the dispatch is
stored. -/
theorem resources_bounded_early :
    (play Sample.config Sample.started (Sample.submitted .config true ++
        [.tryPush ⟨"cns/dev1/config/ack", Sample.appliedAck.1, 6⟩,
          .processNext PlainInput.unusedUuid true 6])).earlyDeviceAcks.keys = [Sample.commandId] ∧
      Sample.commandId ∈ (play Sample.config Sample.started (Sample.submitted .config true ++
        [.tryPush ⟨"cns/dev1/config/ack", Sample.appliedAck.1, 6⟩,
          .processNext PlainInput.unusedUuid true 6])).activeCommands.keys := by
  have hb : (routeService Sample.config).Reachable
      (play Sample.config Sample.started (Sample.submitted .config true ++
        [.tryPush ⟨"cns/dev1/config/ack", Sample.appliedAck.1, 6⟩,
          .processNext PlainInput.unusedUuid true 6])) :=
    reachable_of_played (reachable_firstStart Sample.config (fun _ _ => True) Sample.sources
      (DeviceRegistry.empty.put (Sample.device .online))).of_restrict (by decide +kernel)
  have hkeys : (play Sample.config Sample.started (Sample.submitted .config true ++
      [.tryPush ⟨"cns/dev1/config/ack", Sample.appliedAck.1, 6⟩,
        .processNext PlainInput.unusedUuid true 6])).earlyDeviceAcks.keys =
      [Sample.commandId] := by decide +kernel
  refine ⟨hkeys, (resources_bounded hb).2.2 ?_⟩
  rw [hkeys]
  exact List.mem_singleton_self _

/-- The id of a moved context is no id of a command. -/
lemma movedCommandId_ne {type : CommandType} {json : Option Json} {ack : DeviceAck}
    (hack : parseDeviceAck type json = some ack) : ack.commandId ≠ movedCommandId := by
  intro hmoved
  have hshape := parseDeviceAck_uuid hack
  rw [hmoved] at hshape
  exact absurd hshape (by decide)

/-- **A finished command is not recognised**: in every reachable state at most one is
remembered, and no ACK of a device is taken for a late one of it. -/
theorem lateAck_unrecognised {cfg : CommandServiceConfig} {b : RuntimeBundle}
    (hb : (routeService cfg).Reachable b) :
    b.completedCommands.keys.length ≤ 1 ∧
      ∀ deviceId type payload ack, parseDeviceAck type (cfg.parseJson payload) = some ack →
        b.lateDeviceAckText deviceId type ack.commandId ack.businessStatus = none := by
  have hmoved := (capacity_of_reachable hb).completed.moved
  refine ⟨?_, fun deviceId type payload ack hack => ?_⟩
  · have hsub : b.completedCommands.keys ⊆ [movedCommandId] := fun c hc =>
      List.mem_singleton.mpr (hmoved c hc)
    exact (List.subperm_of_subset b.completedCommands.keys_nodup hsub).length_le
  · have hnone : b.completedCommands.lookup ack.commandId = none := by
      by_contra hsome
      obtain ⟨completed, hcompleted⟩ := Option.ne_none_iff_exists'.mp hsome
      exact movedCommandId_ne hack (hmoved _ (Map.mem_keys_iff.mpr ⟨completed, hcompleted⟩))
    rw [RuntimeBundle.lateDeviceAckText, hnone]

/-- The command is applied, and its result is stored. -/
def Sample.finished : List PlainInput :=
  Sample.dispatched .config true ++
    [.tryPush ⟨"cns/dev1/config/ack", Sample.appliedAck.1, 7⟩,
      .processNext PlainInput.unusedUuid true 7] ++ Sample.answered true 7

theorem lateAck_unrecognised_finished :
    (play Sample.config Sample.started Sample.finished).completedCommands.keys =
        [movedCommandId] ∧
      (play Sample.config Sample.started Sample.finished).lateDeviceAckText "dev1" .config
        Sample.commandId "applied" = none := by
  have hb : (routeService Sample.config).Reachable
      (play Sample.config Sample.started Sample.finished) :=
    reachable_of_played (reachable_firstStart Sample.config (fun _ _ => True) Sample.sources
      (DeviceRegistry.empty.put (Sample.device .online))).of_restrict (by decide +kernel)
  exact ⟨by decide +kernel, (lateAck_unrecognised hb).2 "dev1" .config Sample.appliedAck.1
    ⟨Sample.commandId, "applied", Sample.appliedAck.2, none⟩ (by rfl)⟩

end CnsServer
