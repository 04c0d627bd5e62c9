/-
Commands that are remembered as pending.

The memory of a command leaves `pending` for good: what a later result reports is
the status of a transition, or one that has overtaken it.  A device ACK is applied
only to a command that has left it, so the row of a command that is remembered as
pending is not in progress.

* `Event.AppliedTo`, `Tick.applied`: a device ACK is applied to what is remembered;
* `Remembering`: what was applied in this process belongs to commands that are no
  longer pending, and control commands are of this process;
* `not_inProgress_of_pending`: the row of a pending command is not in progress.
-/
import CnsServer.Invariants.EarlyAcks
import CnsServer.Invariants.Provenance

namespace CnsServer

open RuntimeBundle CommandStatus

/-! ### Device ACKs and the memory -/

/-- The status that the active commands hold for the command. -/
def RuntimeBundle.rememberedStatus (b : RuntimeBundle) (c : String) : Option CommandStatus :=
  (b.activeCommands.lookup c).bind fun context => context.record.map (·.status)

lemma rememberedStatus_eq_some {b : RuntimeBundle} {c : String} {s : CommandStatus} :
    b.rememberedStatus c = some s ↔ ∃ context record, b.activeCommands.lookup c = some context ∧
      context.record = some record ∧ record.status = s := by
  simp [rememberedStatus, Option.bind_eq_some_iff, Option.map_eq_some_iff]

/-- The status is one that device ACKs are applied to. -/
def CommandStatus.IsRunning (s : CommandStatus) : Prop := s = .dispatched ∨ s = .inProgress

/-- If the event applies a device ACK, the state remembers its command as running. -/
def Event.AppliedTo (b : RuntimeBundle) : Event → Prop
  | .deviceAcked _ _ ack (some s) => s.IsRunning → b.rememberedStatus ack.commandId = some s
  | _ => True

lemma Event.IsQuiet.appliedTo {e : Event} (h : e.IsQuiet) (b : RuntimeBundle) :
    e.AppliedTo b := by
  cases e with
  | deviceAcked deviceId type ack memory =>
      cases memory with
      | none => trivial
      | some s =>
          intro hrunning
          have hterminal := h s rfl
          rcases hrunning with rfl | rfl <;> cases hterminal
  | _ => trivial

/-- **A device ACK is applied to what is remembered.** -/
lemma Tick.applied {cfg : CommandServiceConfig} {b b' : RuntimeBundle} (htick : Tick cfg b b') :
    Grown (Event.AppliedTo b) b b' := by
  have h₀ : Grown (Event.AppliedTo b) b b := .refl b
  have hsubmitted : ∀ (i : ℕ) (task : CommandDatabaseTask) (accepted : Bool),
      (Event.submitted i task accepted).AppliedTo b := fun _ _ _ => trivial
  have hformed : ∀ (task : TransitionCommandTask) (replaced : Option TransitionCommandTask),
      (Event.formed task replaced).AppliedTo b := fun _ _ => trivial
  have hpublished : ∀ (token : ℕ) (topic : String) (payload : Json) (record : CommandRecord)
      (accepted : Bool), (Event.published token topic payload record accepted).AppliedTo b :=
    fun _ _ _ _ _ => trivial
  cases htick with
  | quiet hcore =>
      obtain ⟨es, hlog, hes⟩ := hcore.log
      exact ⟨es, hlog, fun e he => (hes e he).appliedTo b⟩
  | @worker event hevent =>
      refine ⟨_, rfl, fun e he => ?_⟩
      rcases mem_executionEvents.mp he with ⟨r, _, rfl⟩ | ⟨_, r, _, rfl⟩ | ⟨r, _, rfl⟩ <;> trivial
  | mqtt => exact ⟨[_], rfl, by simp [Event.AppliedTo]⟩
  | device => exact ⟨[_], rfl, by simp [Event.AppliedTo]⟩
  | find => exact h₀.submit hsubmitted _ _ _
  | cleanup => exact h₀.submit hsubmitted _ _ _
  | consumed hhead hconsumed =>
      refine ⟨_, rfl, fun e he => ?_⟩
      cases hconsumed with
      | unknown _ => cases he
      | ignored _ _ _ => cases he
      | failed _ _ _ => rw [List.mem_singleton.mp he]; trivial
      | rejected _ _ => rw [List.mem_singleton.mp he]; trivial
      | replayed _ _ _ => rw [List.mem_singleton.mp he]; trivial
  | create =>
      refine Grown.submit ?_ hsubmitted _ _ _
      exact ⟨[_], rfl, by simp [Event.AppliedTo]⟩
  | conflict =>
      refine Grown.submit ?_ hsubmitted _ _ _
      exact h₀
  | activate =>
      refine Grown.publish ?_ hsubmitted hformed hpublished
      exact h₀
  | refresh => exact ⟨[_], rfl, by simp [Event.AppliedTo]⟩
  | settle => exact h₀
  | converge =>
      refine Grown.form ?_ hsubmitted (hformed _)
      exact h₀
  | finish => exact ⟨[_], rfl, by simp [Event.AppliedTo]⟩
  | finished => exact h₀
  | @deviceAck context record ack deviceId payload type now hparse hactive hrecord =>
      refine Grown.form ?_ hsubmitted (hformed _)
      exact h₀.emit fun _ => rememberedStatus_eq_some.mpr ⟨context, record, hactive, hrecord, rfl⟩
  | @buffer context record ack deviceId payload type now hparse hactive hrecord =>
      have hacked : (Event.deviceAcked deviceId type ack (some record.status)).AppliedTo b :=
        fun _ => rememberedStatus_eq_some.mpr ⟨context, record, hactive, hrecord, rfl⟩
      rcases bufferEarlyAck_cases cfg (b.emit (.deviceAcked deviceId type ack
        (some record.status))) type ack ⟨deviceId, payload, now⟩ with
        ⟨kept, _, heq⟩ | ⟨message, heq⟩
      · rw [heq]
        exact ⟨[_], rfl, by simpa using hacked⟩
      · rw [heq]
        exact ⟨[.diagnosed message, _], rfl, by simpa [Event.AppliedTo] using hacked⟩
  | timeout =>
      refine Grown.form ?_ hsubmitted (hformed _)
      exact h₀
  | republish =>
      refine Grown.publish ?_ hsubmitted hformed hpublished
      exact h₀
  | @complete completion context now hfound =>
      rcases handleCompletion_cases cfg now hfound with
        ⟨_, heq⟩ | ⟨record, _, ⟨_, _, heq⟩ | ⟨_, heq⟩⟩
      · rw [heq]
        exact h₀
      · rw [heq]
        exact ⟨[_], rfl, by simp [Event.AppliedTo]⟩
      · rw [heq]
        refine Grown.form ?_ hsubmitted (hformed _)
        exact ⟨[_], rfl, by simp [Event.AppliedTo]⟩
  | @retry key deferred hfound =>
      rcases retryDeferred_cases cfg b key deferred with heq | heq <;> rw [heq]
      · exact ⟨[_], rfl, by simp [Event.AppliedTo]⟩
      · exact ⟨[_], rfl, by simp [Event.AppliedTo]⟩

/-! ### What a result makes of the memory -/

/-- A cause never asks for `pending`. -/
lemma Cause.desired_ne_pending (m : CommandRecord) (cause : Cause) :
    (cause.desired m).status ≠ .pending := by
  rw [← Cause.task_desired]
  cases cause with
  | refused now => simp [Cause.task, failTask]
  | completed result now =>
      cases result <;> simp [Cause.task, completeTask, publishCompleted]
      split <;> simp
  | acknowledged ack now =>
      simp only [Cause.task, ackTask, DeviceAck.desired]
      split_ifs <;> simp
  | expired now => simp [Cause.task, timeoutTask]

/-- What the front result makes of the memory of a command that is active already is
not pending, and stems from a desire that the result has caught up with. -/
lemma Traced.remembered {b b' : RuntimeBundle} (ht : Traced b) {i : ℕ} {operation : Operation}
    {r : CommandRecord} {context old : RequestContext}
    (hremembers : Remembers b b' i operation r context)
    (hold : b.activeCommands.lookup r.commandId = some old) :
    (operation.kind = .transition ∧
        b.databaseResults = ⟨i, .ok (.record r)⟩ :: b'.databaseResults ∧
        ∃ m cause d, operation.context.record = some d ∧ Desire b.trace m cause d ∧
          r.status = d.status) ∨
      (operation.kind = .findByIdForConvergence ∧
        b.databaseResults = ⟨i, .ok (.found (some r))⟩ :: b'.databaseResults ∧
        ∃ m cause d, operation.context.record = some d ∧ Desire b.trace m cause d ∧
          StatusLt m.status r.status) := by
  have hw := ht.sound.wellformed
  obtain ⟨value, hhead, hreported⟩ := hremembers.head
  have hmem : (⟨i, value⟩ : CommandDatabaseResult) ∈ b.databaseResults := by
    rw [hhead]
    exact List.mem_cons_self
  obtain ⟨operation', hop, hanswers⟩ := hw.results _ hmem
  rw [show b.operations.lookup i = some operation from hremembers.found] at hop
  cases hop
  -- a report is the record of a write, or a row that was found
  have hvalue : value = .ok (.record r) ∨ value = .ok (.found (some r)) := by
    rcases value with error | (found | record | records | count)
    · cases hreported
    · exact .inr (by rw [show found = some r from hreported])
    · exact .inl (by rw [show record = r from Option.some.inj hreported])
    · cases hreported
    · cases hreported
  rcases hremembers.kind with ⟨hkind, own, hrecord, hown⟩ | hkind | hkind
  · -- an insertion is answered before its command becomes active
    have hunborn := ht.sound.lifecycle.unborn i operation own hremembers.found hkind hrecord
    exact absurd (.active (hown ▸ hold)) hunborn.1
  · rcases hvalue with rfl | rfl
    · refine .inl ⟨hkind, hhead, ?_⟩
      rcases hanswers with ⟨hk, _⟩ | ⟨_, d, hd, _, hstatus⟩
      · rw [hkind] at hk
        cases hk
      · obtain ⟨m, cause, hdesire⟩ :=
          ht.provenance.transitions i operation d hremembers.found hkind hd
        exact ⟨m, cause, d, hd, hdesire, hstatus⟩
    · rcases hanswers with ⟨hk, _⟩ | ⟨hk, _⟩ <;> rw [hkind] at hk <;> cases hk
  · rcases hvalue with rfl | rfl
    · rcases hanswers with ⟨hk, _⟩ | ⟨hk, _⟩ <;> rw [hkind] at hk <;> cases hk
    · refine .inr ⟨hkind, hhead, ?_⟩
      rcases hanswers with ⟨hk, _⟩ | ⟨_, d, hd, _⟩
      · rw [hkind] at hk
        cases hk
      · obtain ⟨m, cause, hdesire, hlt⟩ :=
          ht.provenance.found i r operation d hmem hremembers.found hkind hd
        exact ⟨m, cause, d, hd, hdesire, hlt⟩

/-- **The memory of an active command leaves `pending` for good.** -/
lemma Traced.not_pending {b b' : RuntimeBundle} (ht : Traced b) {i : ℕ} {operation : Operation}
    {r : CommandRecord} {context old : RequestContext}
    (hremembers : Remembers b b' i operation r context)
    (hold : b.activeCommands.lookup r.commandId = some old) : r.status ≠ .pending := by
  rcases ht.remembered hremembers hold with
    ⟨_, _, m, cause, d, _, hdesire, hstatus⟩ | ⟨_, _, m, cause, d, _, hdesire, hlt⟩
  · rw [hstatus, hdesire.record]
    exact Cause.desired_ne_pending m cause
  · intro hpending
    rw [hpending] at hlt
    exact hlt.2 (eq_pending_of_le hlt.1)

/-! ### The invariant -/

/-- Device ACKs that were applied in this process are for commands that are no longer
remembered as pending, and the control commands that are active are of this process. -/
structure Remembering (b : RuntimeBundle) : Prop where
  applied : ∀ deviceId type ack s, .deviceAcked deviceId type ack (some s) ∈ b.log →
    s.IsRunning → b.rememberedStatus ack.commandId ≠ some .pending
  own : ∀ c context, b.activeCommands.lookup c = some context → context.commandType = .control →
    ∀ e ∈ b.past, ¬ e.Touches c

namespace Remembering

variable {cfg : CommandServiceConfig} {b b' : RuntimeBundle}

/-- Who is active after a tick was active before it, or is new. -/
lemma active_cases (hs : Sound b) (htick : Tick cfg b b') {c : String} {context : RequestContext}
    (hc : b'.activeCommands.lookup c = some context) :
    (∃ old, b.activeCommands.lookup c = some old) ∨ ∀ e ∈ b.trace, ¬ e.Touches c := by
  have hw := hs.wellformed
  rcases (htick.touch hw).tickets c (.active hc) with hticket | hborn
  · refine .inl (Option.isSome_iff_exists.mp ?_)
    refine (hs.lifecycle.ticket c hticket).resolve_right fun ⟨e, he, hcloses⟩ => ?_
    -- who is closed does not become active again
    have hclosed : Closed b' c := ⟨e, htick.trace_suffix.subset he, hcloses⟩
    rw [Lifecycle.closed_inactive_tick hw hs.ledger hs.lifecycle htick hclosed] at hc
    cases hc
  · obtain ⟨i, operation, own, value, _, hop, hkind, hrecord, rfl, _⟩ := hborn
    exact .inr (hs.lifecycle.unborn i operation own hop hkind hrecord).2

lemma tick (ht : Traced b) (h : Remembering b) (htick : Tick cfg b b') : Remembering b' := by
  have hs := ht.sound
  have hpast := (htick.touch hs.wellformed).past
  refine ⟨fun deviceId type ack s hmem hrunning hpending => ?_,
    fun c context hactive htype e he => ?_⟩
  · obtain ⟨context, record, hactive, hrecord, hstatus⟩ := rememberedStatus_eq_some.mp hpending
    obtain ⟨es, hlog, hes⟩ := htick.applied
    rw [hlog] at hmem
    rcases htick.memory hs.wellformed hactive with hold | ⟨i, operation, r, hremembers, hid⟩
    · -- the memory is as it was
      have hbefore := rememberedStatus_eq_some.mpr ⟨context, record, hold, hrecord, hstatus⟩
      rcases List.mem_append.mp hmem with hnew | hmem
      · have happlied := hes _ hnew hrunning
        rw [hbefore] at happlied
        cases happlied
        rcases hrunning with h | h <;> cases h
      · exact h.applied deviceId type ack s hmem hrunning hbefore
    · obtain ⟨old, hold⟩ : ∃ old, b.activeCommands.lookup ack.commandId = some old := by
        rcases List.mem_append.mp hmem with hnew | hmem
        · obtain ⟨context', _, hactive', _⟩ := rememberedStatus_eq_some.mp (hes _ hnew hrunning)
          exact ⟨context', hactive'⟩
        · refine (active_cases hs htick hactive).resolve_right fun huntouched => ?_
          refine huntouched _ (List.mem_append_left _ hmem) ⟨rfl, ?_⟩
          rcases hrunning with rfl | rfl <;> rfl
      rw [hremembers.record] at hrecord
      cases hrecord
      exact ht.not_pending hremembers (hid.symm ▸ hold) hstatus
  · rw [hpast] at he
    rcases active_cases hs htick hactive with ⟨old, hold⟩ | huntouched
    · obtain ⟨r, hcontext, _, hid⟩ := (hs.wellformed.tick htick).active c context hactive
      obtain ⟨r', hcontext', _, hid'⟩ := hs.wellformed.active c old hold
      have hsame := (hcontext'.known.mono fun e he => htick.trace_suffix.subset he).sameCommand
        (hs.wellformed.tick htick).created hcontext.known (hid'.trans hid.symm)
      refine h.own c old hold ?_ e he
      rw [hcontext'.commandType, hsame.commandType, ← hcontext.commandType]
      exact htype
    · exact huntouched e (List.mem_append_right _ he)

lemma restarted (hrestart : Restarted cfg b b') : Remembering b' := by
  refine ⟨fun deviceId type ack s hmem => ?_, fun c context hactive htype => ?_⟩
  · rcases hrestart.log _ hmem with h | ⟨message, h⟩ <;> cases h
  · obtain ⟨record, source, _, hconfig, _, _, rfl⟩ := hrestart.activeCommands c context hactive
    rw [show (loadedContext cfg b'.devices source record).commandType = record.commandType
      from rfl, hconfig] at htype
    cases htype

lemma blank : Remembering .blank :=
  ⟨fun _ _ _ _ hmem => (by cases hmem), fun _ _ hactive => (by cases hactive)⟩

end Remembering

lemma remembering_of_reachable {cfg : CommandServiceConfig} {b : RuntimeBundle}
    (hb : (routeService cfg).Reachable b) : Remembering b :=
  (reachable_of_ticks (P := fun b => Traced b ∧ Remembering b) ⟨.blank, .blank⟩
    (fun _ _ h hrestart => ⟨h.1.restarted hrestart, .restarted hrestart⟩)
    (fun _ _ h htick => ⟨h.1.tick htick, .tick h.1 h.2 htick⟩) hb).2

/-! ### Rows in progress -/

lemma Asked.desired {events : List Event} {d : CommandRecord} {task : TransitionCommandTask}
    (h : Asked events d task) : task.desired = d.status := by
  obtain ⟨m, cause, hdesire, rfl | ⟨current, _, _, _, _, _, rfl⟩⟩ := h
  · rw [Cause.task_desired, hdesire.record]
  · rfl

lemma parseDeviceAck_inProgress {type : CommandType} {json : Option Json} {ack : DeviceAck}
    (h : parseDeviceAck type json = some ack) (hprogress : ack.businessStatus = "in_progress") :
    type = .control := by
  unfold parseDeviceAck at h
  split at h
  · rfl
  · split at h
    · next parsed hparsed =>
        cases h
        have hknown := (parseDeviceConfigAck_ok hparsed).2.2
        rw [show parsed.businessStatus = "in_progress" from hprogress] at hknown
        simp at hknown
    · cases h

/-- Only the ACK of a control command asks for `in_progress`. -/
lemma Desire.inProgress {events : List Event} {m d : CommandRecord} {cause : Cause}
    (h : Desire events m cause d) (hstatus : d.status = .inProgress) :
    m.commandType = .control ∧ ∃ deviceId ack,
      .deviceAcked deviceId .control ack (some m.status) ∈ events ∧
        ack.commandId = m.commandId ∧ m.status.IsRunning := by
  rw [h.record] at hstatus
  cases cause with
  | refused now => cases hstatus
  | completed result now =>
      cases result with
      | true => cases hstatus
      | false =>
          simp only [Cause.desired, publishCompleted, Bool.false_eq_true, reduceIte] at hstatus
          split at hstatus <;> cases hstatus
  | expired now => cases hstatus
  | acknowledged ack now =>
      obtain ⟨deviceId, json, hmem, _, hid, hrunning, hparse⟩ := h.evidence
      rw [← Cause.task_desired] at hstatus
      have hprogress : ack.businessStatus = "in_progress" := by
        by_contra hother
        simp only [Cause.task, ackTask, DeviceAck.desired, hother, reduceIte] at hstatus
        split_ifs at hstatus
      have htype := parseDeviceAck_inProgress hparse hprogress
      rw [htype] at hmem
      exact ⟨htype, deviceId, ack, hmem, hid, hrunning⟩

/-- A row that was in progress is that of a control command whose ACK was applied. -/
lemma Traced.inProgress {b : RuntimeBundle} (ht : Traced b) {r : CommandRecord}
    (hr : r ∈ committedRows b.trace) (hstatus : r.status = .inProgress) :
    r.commandType = .control ∧ ∃ deviceId type ack s,
      .deviceAcked deviceId type ack (some s) ∈ b.trace ∧ ack.commandId = r.commandId ∧
        s.IsRunning := by
  have hknown := ht.sound.ledger.committed_known
  revert r
  refine fun {r} hr => ht.provenance.rows.forall_rows (Q := fun r => r.status = .inProgress →
    r.commandType = .control ∧ ∃ deviceId type ack s,
      .deviceAcked deviceId type ack (some s) ∈ b.trace ∧ ack.commandId = r.commandId ∧
        s.IsRunning) (fun l r hl hr _ hstatus => ?_) r hr
  cases hr with
  | recovered _ _ _ => cases hstatus
  | written hr =>
      cases hr with
      | @inserted i command hmem _ =>
          rcases (ht.created i command (hl hmem)).status with hpending | ⟨hfailed, _⟩
          · rw [show command.stored.status = command.status from rfl, hpending] at hstatus
            cases hstatus
          · rw [show command.stored.status = command.status from rfl, hfailed] at hstatus
            cases hstatus
      | @moved row d task hlatest htask _ _ hasked =>
          have hd : d.status = .inProgress := hasked.desired.symm.trans hstatus
          have hcommand := hasked.commandId
          obtain ⟨m, cause, hdesire, _⟩ := hasked
          obtain ⟨htype, deviceId, ack, hmem, hid, hrunning⟩ := hdesire.inProgress hd
          have hrowid : row.commandId = m.commandId :=
            htask.trans (hcommand.trans hdesire.commandId)
          have hlift : ∀ s ∈ committedRows l, Known b.trace s := fun s hs =>
            hknown s (committedRows_mono (fun e he => hl he) hs)
          have hsame := (hlift row hlatest.committed).sameCommand ht.sound.wellformed.created
            (hlift m hdesire.row) hrowid
          exact ⟨hsame.commandType.trans htype, deviceId, _, ack, _, hl hmem,
            hid.trans hrowid.symm, hrunning⟩

/-- **The row of a command that is remembered as pending is not in progress.** -/
lemma Remembering.not_inProgress {b : RuntimeBundle} (ht : Traced b) (h : Remembering b)
    {c : String} {r : CommandRecord} (hpending : b.rememberedStatus c = some .pending)
    (hr : r ∈ committedRows b.trace) (hid : r.commandId = c) : r.status ≠ .inProgress := by
  intro hstatus
  obtain ⟨htype, deviceId, type, ack, s, hmem, hack, hrunning⟩ := ht.inProgress hr hstatus
  obtain ⟨context, record, hactive, -⟩ := rememberedStatus_eq_some.mp hpending
  obtain ⟨r', hcontext, _, hid'⟩ := ht.sound.wellformed.active c context hactive
  have hsame := (ht.sound.ledger.committed_known r hr).sameCommand ht.sound.wellformed.created
    hcontext.known (hid.trans hid'.symm)
  rcases List.mem_append.mp hmem with hlog | hpast
  · refine h.applied deviceId type ack s hlog hrunning ?_
    rw [hack, hid]
    exact hpending
  · refine h.own c context hactive ?_ _ hpast ⟨hack.trans hid, ?_⟩
    · rw [hcontext.commandType, ← hsame.commandType, htype]
    · rcases hrunning with rfl | rfl <;> rfl

end CnsServer
