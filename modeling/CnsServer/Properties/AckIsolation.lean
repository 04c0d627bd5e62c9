/-
Acknowledgements of devices reach their own command only.

Any device may publish any `command_id`.  What a message on the ACK topic of a
device can change is said once, per command (`CommandView`):

* `config_or_control`: the two ACK topics do not overlap;
* `commandView_handleDeviceAck`: the view of a command changes only if the ACK
  names it, comes from its target, is of its type and repeats its control
  command;
* `deviceAck_isolated`: the same for a message on either topic, in every
  reachable state, and malformed payloads change nothing.
-/
import CnsServer.Invariants.Wellformed
import CnsServer.Runtime.Scenario

namespace CnsServer

open RuntimeBundle

/-- The command a task of the worker is about. -/
def CommandDatabaseTask.commandId? : CommandDatabaseTask → Option String
  | .findCommandById commandId => some commandId
  | .insertCommand command => some command.commandId
  | .transitionCommand commandId _ _ _ => some commandId
  | _ => none

/-- What the service and the worker keep for one command: the active context
with its record and deadline, the buffered ACK, the deferred transition, and the
submitted tasks. -/
structure CommandView where
  active : Option RequestContext
  early : Option EarlyDeviceAck
  deferred : Option DeferredTransition
  tasks : List (ℕ × CommandDatabaseTask)

def commandView (b : RuntimeBundle) (c : String) : CommandView where
  active := b.activeCommands.lookup c
  early := b.earlyDeviceAcks.lookup c
  deferred := b.deferredTransitions.lookup c
  tasks := b.commands.filter fun entry => entry.2.commandId? = some c

/-! ### Topics -/

lemma suffix_of_topicInfix {front back topic id : String}
    (h : topicInfix front back topic = some id) : back.toList <:+ topic.toList := by
  unfold topicInfix at h
  dsimp only at h
  split at h
  · next hshape =>
      simp only [Bool.and_eq_true] at hshape
      exact List.isSuffixOf_iff_suffix.mp hshape.1.2
  · cases h

lemma suffix_of_parseDeviceAckTopic {topicNamespace topic suffix description deviceId : String}
    (h : parseDeviceAckTopic topicNamespace topic suffix description = .ok deviceId) :
    suffix.toList <:+ topic.toList := by
  unfold parseDeviceAckTopic at h
  split at h
  · cases h
  · next hinfix => exact suffix_of_topicInfix hinfix

/-- No topic is read as both kinds of ACK topic. -/
lemma config_or_control {topicNamespace topic configDevice controlDevice : String}
    (hconfig : parseDeviceConfigAckTopic topicNamespace topic = .ok configDevice)
    (hcontrol : parseDeviceControlAckTopic topicNamespace topic = .ok controlDevice) : False := by
  have hone := suffix_of_parseDeviceAckTopic hconfig
  have htwo := suffix_of_parseDeviceAckTopic hcontrol
  have hboth := List.suffix_of_suffix_length_le hone htwo (by decide)
  revert hboth
  decide

/-! ### What an ACK changes -/

section Views

variable {cfg : CommandServiceConfig} {b b' : RuntimeBundle} {c : String}

/-- The maps a view looks at are the same. -/
lemma commandView_of_eq (hactive : b'.activeCommands = b.activeCommands)
    (hearly : b'.earlyDeviceAcks.lookup c = b.earlyDeviceAcks.lookup c)
    (hdeferred : b'.deferredTransitions = b.deferredTransitions)
    (hcommands : b'.commands = b.commands) : commandView b' c = commandView b c := by
  simp only [commandView]
  rw [hactive, hearly, hdeferred, hcommands]

lemma commandView_informUnrelatedAck (deviceId : String) (type : CommandType) (ack : DeviceAck) :
    commandView (b.informUnrelatedAck deviceId type ack) c = commandView b c := by
  rw [informUnrelatedAck]
  split
  · rfl
  · split <;> rfl

/-- A transition of another command. -/
lemma commandView_submitTransitionOrDefer {context : RequestContext}
    {task : TransitionCommandTask} (hother : task.commandId ≠ c) :
    commandView (b.submitTransitionOrDefer cfg context task) c = commandView b c := by
  rcases submitTransitionOrDefer_cases cfg b context task with heq | heq
  · rw [heq]
    have hdeferred : (b.deferredTransitions.erase task.commandId).lookup c =
        b.deferredTransitions.lookup c := AList.lookup_erase_ne (Ne.symm hother)
    have htasks : (b.commands ++ [(b.nextOperationId, task.toTask)]).filter
        (fun entry => entry.2.commandId? = some c) =
          b.commands.filter fun entry => entry.2.commandId? = some c := by
      simp [List.filter_append, TransitionCommandTask.toTask, CommandDatabaseTask.commandId?,
        hother]
    exact congrArg₂ (CommandView.mk _ _) hdeferred htasks
  · rw [heq]
    have hdeferred : (b.deferredTransitions.insert task.commandId ⟨context, task⟩).lookup c =
        b.deferredTransitions.lookup c := AList.lookup_insert_ne (Ne.symm hother)
    exact congrArg₂ (CommandView.mk _ _) hdeferred rfl

/-- An ACK of another command is buffered. -/
lemma commandView_bufferEarlyAck {type : CommandType} {ack : DeviceAck}
    {incoming : EarlyDeviceAck} (hother : ack.commandId ≠ c) :
    commandView (b.bufferEarlyAck cfg type ack incoming) c = commandView b c := by
  rcases bufferEarlyAck_cases cfg b type ack incoming with ⟨kept, _, heq⟩ | ⟨message, heq⟩
  · rw [heq]
    exact commandView_of_eq rfl (AList.lookup_insert_ne (Ne.symm hother)) rfl rfl
  · rw [heq]
    rfl

/-- The ACK is one for the command: it names it, and it is of its target, its
type and its control command. -/
def Correlates (b : RuntimeBundle) (c : String) (deviceId : String) (type : CommandType)
    (ack : DeviceAck) : Prop :=
  ack.commandId = c ∧ ∃ context record, b.activeCommands.lookup c = some context ∧
    context.record = some record ∧ record.targetDeviceId = some deviceId ∧
    record.commandType = type ∧
    (type = .control → ∃ request kind,
      parseSourceJson .control record.requestPayload kind = .control request ∧
        ack.controlCommand = some request.command)

lemma controlCommand_of_parseDeviceAck {json : Option Json} {ack : DeviceAck}
    (h : parseDeviceAck .control json = some ack) : ack.controlCommand.isSome := by
  unfold parseDeviceAck at h
  dsimp only at h
  split at h
  · cases h
    rfl
  · cases h

/-- The checks of `HandleDeviceAck` are those of `Correlates`. -/
lemma correlates_of_checks (hw : Wellformed b) {deviceId : String} {type : CommandType}
    {json : Option Json} {ack : DeviceAck} {context : RequestContext} {record : CommandRecord}
    (hparse : parseDeviceAck type json = some ack)
    (hactive : b.activeCommands.lookup ack.commandId = some context)
    (hrecord : context.record = some record) (htarget : record.targetDeviceId = some deviceId)
    (htype : context.commandType = type) (hrepeat : repeatsCommand context.parsed ack = true) :
    Correlates b ack.commandId deviceId type ack := by
  obtain ⟨r, hcontext, _, _⟩ := hw.active _ _ hactive
  have hr := hcontext.unique hrecord
  subst hr
  refine ⟨rfl, context, record, hactive, hrecord, htarget, hcontext.commandType ▸ htype,
    fun hcontrol => ?_⟩
  subst hcontrol
  obtain ⟨command, hcommand⟩ :=
    Option.isSome_iff_exists.mp (controlCommand_of_parseDeviceAck hparse)
  obtain ⟨kind, hparsed⟩ := hcontext.parsed
  rw [← hcontext.commandType, htype] at hparsed
  unfold repeatsCommand at hrepeat
  rw [hcommand] at hrepeat
  cases hrequest : context.parsed with
  | control request =>
      rw [hrequest] at hrepeat
      refine ⟨request, kind, hparsed ▸ hrequest, ?_⟩
      rw [hcommand, of_decide_eq_true hrepeat]
  | config request =>
      rw [hrequest] at hrepeat
      cases hrepeat
  | rejected request =>
      rw [hrequest] at hrepeat
      cases hrepeat

/-- A malformed ACK leaves a note. -/
lemma handleDeviceAck_malformed (b : RuntimeBundle) (deviceId : String) {payload : String}
    {type : CommandType} (now : TimePoint)
    (hparse : parseDeviceAck type (cfg.parseJson payload) = none) :
    ∃ message, b.handleDeviceAck cfg deviceId payload type now = b.diagnose message := by
  rw [handleDeviceAck]
  rw [hparse]
  exact ⟨_, rfl⟩

/-- **What an ACK changes**: only the view of the command it is for. -/
lemma commandView_handleDeviceAck (hw : Wellformed b) (deviceId payload : String)
    (type : CommandType) (now : TimePoint) :
    commandView (b.handleDeviceAck cfg deviceId payload type now) c = commandView b c ∨
      ∃ ack, parseDeviceAck type (cfg.parseJson payload) = some ack ∧
        Correlates b c deviceId type ack := by
  rw [handleDeviceAck]
  cases hparse : parseDeviceAck type (cfg.parseJson payload) with
  | none => exact .inl rfl
  | some ack =>
      dsimp only
      split
      · exact .inl (commandView_informUnrelatedAck _ _ _)
      · next context hactive =>
          obtain ⟨r, hcontext, _, hid⟩ := hw.active _ _ hactive
          split
          · exact .inl (commandView_informUnrelatedAck _ _ _)
          · next record hrecord =>
              have hr := hcontext.unique hrecord
              subst hr
              split_ifs with hother hrepeat hpending hlate
              · exact .inl (commandView_informUnrelatedAck _ _ _)
              · exact .inl rfl
              all_goals
                push Not at hother
                have hcorrelates := correlates_of_checks hw hparse hactive hrecord hother.1
                  hother.2 (by simpa using hrepeat)
                by_cases hc : ack.commandId = c
                · exact .inr ⟨ack, rfl, hc ▸ hcorrelates⟩
              · exact .inl (commandView_bufferEarlyAck hc)
              · exact .inl rfl
              · refine .inl (commandView_submitTransitionOrDefer fun heq => hc ?_)
                rw [← hid, ← heq]
                exact (Wellformed.sameCommand_acknowledged _ ack type now).1.commandId.symm

end Views

/-- **Isolation of device ACKs**: in every reachable state, a message on an ACK
topic of the device `D` leaves unchanged what is kept for every command but the
one its payload names, and changes that one only if `D` is its target, the topic
is of its type and, for control, the ACK repeats its control command; a malformed
payload changes nothing but the diagnostics. -/
theorem deviceAck_isolated {cfg : CommandServiceConfig} {b : RuntimeBundle}
    (hb : (routeService cfg).Reachable b) {message : InboundMessage} {now : TimePoint}
    {D : String} {type : CommandType}
    (htopic : (type = .config ∧
        parseDeviceConfigAckTopic cfg.topicNamespace message.topic = .ok D) ∨
      (type = .control ∧
        parseDeviceControlAckTopic cfg.topicNamespace message.topic = .ok D)) :
    (parseDeviceAck type (cfg.parseJson message.payload) = none →
      ∃ text, b.handleMessage cfg message now = b.diagnose text) ∧
    ∀ c, commandView (b.handleMessage cfg message now) c = commandView b c ∨
      ∃ ack, parseDeviceAck type (cfg.parseJson message.payload) = some ack ∧
        Correlates b c D type ack := by
  have hw := wellformed_of_reachable hb
  have heq : b.handleMessage cfg message now =
      b.handleDeviceAck cfg D message.payload type now := by
    rw [handleMessage]
    rcases htopic with ⟨rfl, hconfig⟩ | ⟨rfl, hcontrol⟩
    · rw [hconfig]
    · cases hconfig : parseDeviceConfigAckTopic cfg.topicNamespace message.topic with
      | ok deviceId => exact (config_or_control hconfig hcontrol).elim
      | error error => rw [hcontrol]
  rw [heq]
  exact ⟨handleDeviceAck_malformed b D now,
    fun c => commandView_handleDeviceAck hw D message.payload type now⟩

/-- Another device confirms the dispatched command of the sample installation:
nothing is changed for it. -/
theorem deviceAck_isolated_foreign :
    commandView ((play Sample.config Sample.started (Sample.dispatched .config true)).handleMessage
      Sample.config ⟨"cns/dev2/config/ack", Sample.appliedAck.1, 7⟩ 7) Sample.commandId =
        commandView (play Sample.config Sample.started (Sample.dispatched .config true))
          Sample.commandId := by
  have hb : (routeService Sample.config).Reachable
      (play Sample.config Sample.started (Sample.dispatched .config true)) :=
    reachable_of_played (reachable_firstStart Sample.config (fun _ _ => True) Sample.sources
      (DeviceRegistry.empty.put (Sample.device .online))).of_restrict (by decide +kernel)
  have htopic : parseDeviceConfigAckTopic Sample.config.topicNamespace "cns/dev2/config/ack" =
      .ok "dev2" := by decide +kernel
  refine ((deviceAck_isolated hb (.inl ⟨rfl, htopic⟩)).2 Sample.commandId).resolve_right ?_
  rintro ⟨ack, _, _, context, record, hactive, hrecord, htarget, _⟩
  -- its target is the device of the installation
  have hdevice : (((play Sample.config Sample.started
      (Sample.dispatched .config true)).activeCommands.lookup Sample.commandId).bind
        (·.record)).bind (·.targetDeviceId) = some "dev1" := by decide +kernel
  rw [hactive, Option.bind_some, hrecord, Option.bind_some, htarget] at hdevice
  exact absurd hdevice (by decide)

end CnsServer
