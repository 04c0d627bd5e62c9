/-
The marks of the recovery.

`PublishRecord` marks a command in `recovery_started_`, and the recovery passes
over the marked ones.  A mark is taken away by a reconnection, by
`OnTargetOnline` for the target of the command, and when the command ends.

* `KeepsMarks`: nothing is published, and no mark is taken away;
* `MarkEffect`, `Tick.marks`: what a tick does to the marks, to the connection
  and to the publications.
-/
import CnsServer.Invariants.Lifecycle

namespace CnsServer

open RuntimeBundle

/-- The commands for a device are active, with this target. -/
lemma mem_commandsFor {b : RuntimeBundle} {c deviceId : String} (h : c ∈ b.commandsFor deviceId) :
    ∃ context record, b.activeCommands.lookup c = some context ∧ context.record = some record ∧
      record.targetDeviceId = some deviceId := by
  have htarget := (List.mem_filter.mp h).2
  split at htarget
  · next context hactive =>
      split at htarget
      · next record hrecord => exact ⟨context, record, hactive, hrecord, by simpa using htarget⟩
      · cases htarget
  · cases htarget

/-! ### One tick -/

/-- The event is neither a publication nor a report on the connection. -/
def Event.IsSteady : Event → Prop
  | .published _ _ _ _ _ => False
  | .mqttAvailable _ => False
  | _ => True

lemma Event.IsQuiet.isSteady {e : Event} (h : e.IsQuiet) : e.IsSteady := by
  cases e with
  | published token topic payload record accepted => exact h.elim
  | mqttAvailable available => exact h.elim
  | _ => trivial

/-- Nothing is published, the connection is as it was, and the marks are kept. -/
structure KeepsMarks (a b : RuntimeBundle) : Prop where
  mqttAvailable : b.mqttAvailable = a.mqttAvailable
  recoveryStarted : a.recoveryStarted ⊆ b.recoveryStarted
  log : Grown Event.IsSteady a b

namespace KeepsMarks

variable {a b b' : RuntimeBundle} {cfg : CommandServiceConfig}

lemma refl (b : RuntimeBundle) : KeepsMarks b b := ⟨rfl, Finset.Subset.refl _, .refl b⟩

/-- The other members may change. -/
lemma update (h : KeepsMarks a b) (hmqtt : b'.mqttAvailable = b.mqttAvailable)
    (hmarks : b.recoveryStarted ⊆ b'.recoveryStarted) (hlog : b'.log = b.log) :
    KeepsMarks a b' := by
  obtain ⟨es, hes, hsteady⟩ := h.log
  exact ⟨hmqtt.trans h.mqttAvailable, h.recoveryStarted.trans hmarks, es, hlog.trans hes, hsteady⟩

lemma emit (h : KeepsMarks a b) {event : Event} (hevent : event.IsSteady) :
    KeepsMarks a (b.emit event) :=
  ⟨h.mqttAvailable, h.recoveryStarted, h.log.emit hevent⟩

lemma taken (h : KeepsMarks a b) (operationId : ℕ) (rest : List CommandDatabaseResult) :
    KeepsMarks a (b.taken operationId rest) :=
  h.update rfl (Finset.Subset.refl _) rfl

lemma submit (h : KeepsMarks a b) (kind : OperationKind) (context : RequestContext)
    (task : CommandDatabaseTask) : KeepsMarks a (b.submit cfg kind context task).2 := by
  rcases submit_cases cfg b kind context task with heq | heq
  · rw [heq]
    exact (@emit _ _ h (.submitted b.nextOperationId task true) trivial).update rfl
      (Finset.Subset.refl _) rfl
  · rw [heq]
    exact (@emit _ _ h (.submitted b.nextOperationId task false) trivial).update rfl
      (Finset.Subset.refl _) rfl

lemma form (h : KeepsMarks a b) (context : RequestContext) (task : TransitionCommandTask) :
    KeepsMarks a (b.submitTransitionOrDefer cfg context task) := by
  have hformed := @emit _ _ h (.formed task (b.replaced task.commandId)) trivial
  rcases submitTransitionOrDefer_cases cfg b context task with heq | heq
  · rw [heq]
    exact (@emit _ _ hformed (.submitted b.nextOperationId task.toTask true) trivial).update rfl
      (Finset.Subset.refl _) rfl
  · rw [heq]
    exact (@emit _ _ hformed (.submitted b.nextOperationId task.toTask false) trivial).update rfl
      (Finset.Subset.refl _) rfl

end KeepsMarks

/-- A command is marked and an event logged, as it happens before a message is handed
to the publisher. -/
def RuntimeBundle.marking (b : RuntimeBundle) (commandId : String) (event : Event) :
    RuntimeBundle :=
  { b with
    recoveryStarted := insert commandId b.recoveryStarted
    log := event :: b.log }

/-- What a tick does to the marks: it keeps them, takes that of an ended command
away, reports on the connection, passes an online state on, or publishes one
command. -/
inductive MarkEffect (b b' : RuntimeBundle) : Prop
  | kept : KeepsMarks b b' → MarkEffect b b'
  | ended (c : String) : Closed b' c → b'.mqttAvailable = b.mqttAvailable →
      b.recoveryStarted.erase c ⊆ b'.recoveryStarted → Grown Event.IsSteady b b' →
      MarkEffect b b'
  | mqtt (available : Bool) : b' = b.setMqttAvailable available → MarkEffect b b'
  | signalled (deviceId : String) (wasOnline : Bool) : b'.mqttAvailable = b.mqttAvailable →
      b'.log = .deviceUpdated deviceId wasOnline true true :: b.log →
      (∀ c ∈ b.recoveryStarted, c ∈ b'.recoveryStarted ∨ c ∈ b.commandsFor deviceId) →
      MarkEffect b b'
  | sent {record : CommandRecord} {token : ℕ} {topic : String} {payload : Json}
      {accepted : Bool} : b.mqttAvailable = true → Known b.trace record →
      (record.commandId ∉ b.recoveryStarted ∧
          (b.activeCommands.lookup record.commandId).isSome ∨
        ∀ e ∈ b.trace, ¬ e.Touches record.commandId) →
      KeepsMarks (b.marking record.commandId (.published token topic payload record accepted)) b' →
      MarkEffect b b'

/-- A message is handed to the publisher, or nothing happens. -/
lemma MarkEffect.publish {cfg : CommandServiceConfig} {answers : Answers} {a b : RuntimeBundle}
    {context : RequestContext} {now : TimePoint} (h : KeepsMarks a b) (hlog : b.log = a.log)
    (hknown : ∀ record, context.record = some record → Known a.trace record)
    (hfirst : ∀ record, context.record = some record →
      record.commandId ∉ a.recoveryStarted ∧
          (a.activeCommands.lookup record.commandId).isSome ∨
        ∀ e ∈ a.trace, ¬ e.Touches record.commandId) :
    MarkEffect a (b.publishRecord cfg answers context now) := by
  rcases publishRecord_cases cfg answers b context now with
    heq | ⟨record, deviceId, payload, hrecord, _, hmqtt, _, hwhich⟩
  · rw [heq]
    exact .kept h
  have hconnected : a.mqttAvailable = true := h.mqttAvailable ▸ hmqtt
  have hmarks : insert record.commandId a.recoveryStarted ⊆
      insert record.commandId b.recoveryStarted :=
    Finset.insert_subset_insert _ h.recoveryStarted
  rcases hwhich with heq | heq
  · rw [heq]
    have hsent : KeepsMarks (a.marking record.commandId (.published b.nextPublishToken
        (deviceSetTopic cfg.topicNamespace deviceId context.commandType) payload record true))
        (b.sent cfg context record deviceId payload) :=
      ⟨h.mqttAvailable, hmarks, [], congrArg (List.cons _) hlog, by simp⟩
    exact .sent hconnected (hknown record hrecord) (hfirst record hrecord) hsent
  · rw [heq]
    have hunsent : KeepsMarks (a.marking record.commandId (.published b.nextPublishToken
        (deviceSetTopic cfg.topicNamespace deviceId context.commandType) payload record false))
        (b.unsent cfg context record deviceId payload) :=
      ⟨h.mqttAvailable, hmarks, [], congrArg (List.cons _) hlog, by simp⟩
    exact .sent hconnected (hknown record hrecord) (hfirst record hrecord) (hunsent.form _ _)

/-- Who ends in a tick has its terminal status acknowledged. -/
lemma Closed.of_acked {b b' : RuntimeBundle} {c topic : String} {ack : SourceAck}
    (hlog : b'.log = .acked topic ack .lifecycle :: b.log) (hid : ack.commandId = some c)
    (hterminal : ack.status.isTerminal = true) : Closed b' c := by
  refine ⟨.acked topic ack .lifecycle, ?_, hid, hterminal⟩
  rw [RuntimeBundle.trace]
  rw [hlog]
  exact List.mem_append_left _ List.mem_cons_self

/-- **What a tick does to the marks.** -/
lemma Tick.marks {cfg : CommandServiceConfig} {b b' : RuntimeBundle} (hs : Sound b)
    (htick : Tick cfg b b') : MarkEffect b b' := by
  have hw := hs.wellformed
  have htaken := fun operationId rest => (KeepsMarks.refl b).taken operationId rest
  cases htick with
  | quiet hcore =>
      obtain ⟨es, hlog, hes⟩ := hcore.log
      exact .kept ⟨hcore.mqttAvailable, hcore.recoveryStarted, es, hlog,
        fun e he => (hes e he).isSteady⟩
  | @worker event hevent =>
      refine .kept ⟨rfl, Finset.Subset.refl _, _, rfl, fun e he => ?_⟩
      rcases mem_executionEvents.mp he with ⟨r, _, rfl⟩ | ⟨_, r, _, rfl⟩ | ⟨r, _, rfl⟩ <;> trivial
  | @mqtt available => exact .mqtt available rfl
  | @device devices record cleared honline =>
      cases cleared with
      | false => exact .kept ⟨rfl, Finset.Subset.refl _, [_], rfl, by simp [Event.IsSteady]⟩
      | true =>
          obtain ⟨hstatus, hfind⟩ := honline rfl
          have hnow : devices.isOnline record.deviceId = true := by
            simp [DeviceRegistry.isOnline, hfind, hstatus]
          refine .signalled record.deviceId (b.devices.isOnline record.deviceId) rfl
            (by rw [hnow]) fun c hc => ?_
          by_cases hmem : c ∈ b.commandsFor record.deviceId
          · exact .inr hmem
          · exact .inl (Finset.mem_filter.mpr ⟨hc, hmem⟩)
  | find => exact .kept ((KeepsMarks.refl b).submit _ _ _)
  | cleanup => exact .kept ((KeepsMarks.refl b).submit _ _ _)
  | consumed hhead hconsumed =>
      refine .kept ⟨rfl, Finset.Subset.refl _, _, rfl, fun e he => ?_⟩
      cases hconsumed with
      | unknown _ => cases he
      | ignored _ _ _ => cases he
      | failed _ _ _ => rw [List.mem_singleton.mp he]; trivial
      | rejected _ _ => rw [List.mem_singleton.mp he]; trivial
      | replayed _ _ _ => rw [List.mem_singleton.mp he]; trivial
  | @create answers operationId operation rest requestId payload =>
      have hcreated : KeepsMarks b ((b.taken operationId rest).emit (.created operationId
          (b.newCommand answers operation.context requestId payload).1)) :=
        (htaken operationId rest).emit trivial
      exact .kept (hcreated.submit _ _ _)
  | conflict => exact .kept ((htaken _ _).submit _ _ _)
  | @activate answers operationId operation rest record now hhead hop hkind hown hopen =>
      -- nothing has been published for a command whose insertion is under way
      obtain ⟨own, hcontext, hsame⟩ := hw.insert_result hhead hop hkind hown
      obtain ⟨_, huntouched⟩ :=
        hs.lifecycle.unborn operationId operation own hop hkind hcontext.record
      refine .publish ((htaken operationId rest).update rfl (Finset.Subset.refl _) rfl) rfl ?_ ?_
      · rintro _ ⟨⟩
        exact hcontext.known.same hsame
      · rintro _ ⟨⟩
        refine .inr fun e he htouch => huntouched e he ?_
        rwa [← hsame.commandId]
  | refresh context now =>
      exact .kept ⟨rfl, Finset.Subset.refl _, [_], rfl, by simp [Event.IsSteady]⟩
  | @settle operationId operation rest =>
      exact .kept ((htaken operationId rest).update rfl (Finset.Subset.refl _) rfl)
  | converge => exact .kept ((htaken _ _).form _ _)
  | @finish operationId operation rest record value context now hhead hop hwhich hterminal =>
      have hack := acknowledges_buildSourceAck record context.target now
      exact .ended _ (.of_acked rfl hack.1 (hack.2 ▸ hterminal)) rfl
        (Finset.Subset.refl _) ⟨[_], rfl, by simp [Event.IsSteady]⟩
  | @finished operationId operation rest record hhead hop hkind hsome hinactive hterminal =>
      -- the command of a search after a conflict is active or closed
      obtain ⟨desired, hdesired⟩ := Option.isSome_iff_exists.mp hsome
      have hid : record.commandId = desired.commandId := by
        obtain ⟨operation', hop', hanswers⟩ :=
          hw.results _ (by rw [hhead]; exact List.mem_cons_self)
        rw [hop] at hop'
        cases hop'
        rcases hanswers with ⟨hfind, _⟩ | ⟨_, desired', hdesired', hsame⟩
        · rw [hkind] at hfind
          cases hfind
        · rw [hdesired] at hdesired'
          cases hdesired'
          exact hsame record rfl
      have hticket : Ticket b record.commandId :=
        .operation hop (.inr hkind) hdesired hid.symm
      have hclosed := (hs.lifecycle.ticket _ hticket).resolve_left (by simp [hinactive])
      exact .ended _ hclosed rfl (Finset.Subset.refl _) ⟨[], rfl, by simp⟩
  | @deviceAck context record ack deviceId payload type now =>
      have hacked := @KeepsMarks.emit _ _ (.refl b) (.deviceAcked deviceId type ack
        (some record.status)) trivial
      exact .kept (hacked.form _ _)
  | @buffer context record ack deviceId payload type now =>
      have hacked := @KeepsMarks.emit _ _ (.refl b) (.deviceAcked deviceId type ack
        (some record.status)) trivial
      rcases bufferEarlyAck_cases cfg (b.emit (.deviceAcked deviceId type ack
        (some record.status))) type ack ⟨deviceId, payload, now⟩ with ⟨kept, _, heq⟩ | ⟨_, heq⟩
      · rw [heq]
        exact .kept (hacked.update rfl (Finset.Subset.refl _) rfl)
      · rw [heq]
        exact .kept (hacked.emit trivial)
  | @timeout commandId context record now =>
      have hmarked : KeepsMarks b { b with
          recoveryStarted := insert commandId b.recoveryStarted } :=
        (KeepsMarks.refl b).update rfl (Finset.subset_insert _ _) rfl
      exact .kept (hmarked.form _ _)
  | @republish answers commandId deviceId context record now hactive hrecord htype hunmarked =>
      obtain ⟨r, hcontext, _, hid⟩ := hw.active commandId context hactive
      refine .publish ((KeepsMarks.refl b).update rfl (Finset.subset_insert _ _) rfl) rfl ?_ ?_
      · intro record' hrecord'
        rw [hcontext.unique hrecord']
        exact hcontext.known
      · intro record' hrecord'
        rw [hcontext.unique hrecord', hid]
        exact .inl ⟨hunmarked, Option.isSome_iff_exists.mpr ⟨context, hactive⟩⟩
  | @complete completion context now hfound =>
      have hcompleted : ∀ record, KeepsMarks b (b.completionTaken completion.token record
          completion.result) := fun record =>
        (@KeepsMarks.emit _ _ (.refl b) (.completed record completion.result) trivial).update rfl
          (Finset.Subset.refl _) rfl
      rcases handleCompletion_cases cfg now hfound with
        ⟨_, heq⟩ | ⟨record, _, ⟨_, _, heq⟩ | ⟨_, heq⟩⟩ <;> rw [heq]
      · exact .kept ((KeepsMarks.refl b).update rfl (Finset.Subset.refl _) rfl)
      · exact .kept (hcompleted record)
      · exact .kept ((hcompleted record).form _ _)
  | @retry key deferred hfound =>
      rcases retryDeferred_cases cfg b key deferred with heq | heq <;> rw [heq]
      · exact .kept ((@KeepsMarks.emit _ _ (.refl b) (.submitted b.nextOperationId
          deferred.task.toTask true) trivial).update rfl (Finset.Subset.refl _) rfl)
      · exact .kept ((@KeepsMarks.emit _ _ (.refl b) (.submitted b.nextOperationId
          deferred.task.toTask false) trivial).update rfl (Finset.Subset.refl _) rfl)

end CnsServer
