/-
The delivery of control commands: the calls of the device publisher, the
completions, and what they lead to.

* `publisherAnswers`, `completions`: what the trace holds of the message of a
  control command;
* `CompletedOnce`, `delivery_of_reachable`: one call and one completion at most;
* `controlOutcome_of_asked`: why a transition of a control command is asked for;
* `refused_of_failed`: **a failed publication is a refused one**;
* `rows_of_undispatched`: the versions of a command whose message was taken and has not
  gone out.
-/
import CnsServer.Invariants.Messages

namespace CnsServer

open RuntimeBundle CommandStatus

/-! ### Calls and completions -/

/-- The answers of the device publisher to the message of a control command,
latest first. -/
def publisherAnswers (c : String) (events : List Event) : List Bool :=
  events.filterMap fun
    | .published _ _ _ record accepted =>
        if record.commandId = c ∧ record.commandType = .control then some accepted else none
    | _ => none

/-- The completions of the message of a control command, latest first. -/
def completions (c : String) (events : List Event) : List Bool :=
  events.filterMap fun
    | .completed record result =>
        if record.commandId = c ∧ record.commandType = .control then some result else none
    | _ => none

lemma mem_publisherAnswers {c : String} {events : List Event} {accepted : Bool} :
    accepted ∈ publisherAnswers c events ↔ ∃ token topic payload record,
      .published token topic payload record accepted ∈ events ∧ record.commandId = c ∧
        record.commandType = .control := by
  rw [publisherAnswers, List.mem_filterMap]
  constructor
  · rintro ⟨e, he, heq⟩
    cases e with
    | published token topic payload record accepted' =>
        dsimp only at heq
        split at heq
        · next hcontrol =>
            cases heq
            exact ⟨token, topic, payload, record, he, hcontrol⟩
        · cases heq
    | _ => cases heq
  · rintro ⟨token, topic, payload, record, he, hcontrol⟩
    exact ⟨_, he, if_pos hcontrol⟩

lemma mem_completions {c : String} {events : List Event} {result : Bool} :
    result ∈ completions c events ↔ ∃ record, .completed record result ∈ events ∧
      record.commandId = c ∧ record.commandType = .control := by
  rw [completions, List.mem_filterMap]
  constructor
  · rintro ⟨e, he, heq⟩
    cases e with
    | completed record result' =>
        dsimp only at heq
        split at heq
        · next hcontrol =>
            cases heq
            exact ⟨record, he, hcontrol⟩
        · cases heq
    | _ => cases heq
  · rintro ⟨record, he, hcontrol⟩
    exact ⟨_, he, if_pos hcontrol⟩

lemma publisherAnswers_mono {c : String} {events events' : List Event}
    (hsub : ∀ e ∈ events, e ∈ events') {accepted : Bool}
    (h : accepted ∈ publisherAnswers c events) : accepted ∈ publisherAnswers c events' := by
  obtain ⟨token, topic, payload, record, he, hrecord⟩ := mem_publisherAnswers.mp h
  exact mem_publisherAnswers.mpr ⟨token, topic, payload, record, hsub _ he, hrecord⟩

lemma completions_mono {c : String} {events events' : List Event}
    (hsub : ∀ e ∈ events, e ∈ events') {result : Bool} (h : result ∈ completions c events) :
    result ∈ completions c events' := by
  obtain ⟨record, he, hrecord⟩ := mem_completions.mp h
  exact mem_completions.mpr ⟨record, hsub _ he, hrecord⟩

lemma completions_append (c : String) (es events : List Event) :
    completions c (es ++ events) = completions c es ++ completions c events :=
  List.filterMap_append

lemma completions_cons (c : String) (record : CommandRecord) (result : Bool)
    (events : List Event) : completions c (.completed record result :: events) =
      (if record.commandId = c ∧ record.commandType = .control then [result] else []) ++
        completions c events := by
  by_cases h : record.commandId = c ∧ record.commandType = .control
  · rw [if_pos h]
    simp [completions, h]
  · rw [if_neg h]
    simp [completions, h]

lemma completions_unsent {c : String} {es : List Event} (h : ∀ e ∈ es, e.IsUnsent) :
    completions c es = [] := by
  rw [completions, List.filterMap_eq_nil_iff]
  intro e he
  cases e with
  | completed record result => exact (h _ he).elim
  | _ => rfl

lemma eq_singleton_of_mem {α : Type*} {l : List α} {a : α} (hl : l.length ≤ 1) (ha : a ∈ l) :
    l = [a] := by
  cases l with
  | nil => cases ha
  | cons x l =>
      obtain rfl : l = [] := List.eq_nil_of_length_eq_zero (by simpa using hl)
      rw [List.mem_singleton.mp ha]

/-- The device publisher is called once at most for a control command. -/
lemma length_publisherAnswers {b : RuntimeBundle} (h : SentOnce b) (c : String) :
    (publisherAnswers c b.trace).length ≤ 1 := by
  have hpairs : (publisherAnswers c b.trace).Pairwise fun _ _ => False := by
    refine List.pairwise_filterMap.mpr (h.once.imp fun {e e'} hne x hx y hy => ?_)
    have hcontrol : ∀ {e : Event} {x : Bool}, (match e with
        | .published _ _ _ record accepted =>
            if record.commandId = c ∧ record.commandType = .control then some accepted else none
        | _ => none) = some x → e.PublishesControl c := by
      intro e x hx
      cases e with
      | published token topic payload record accepted =>
          dsimp only at hx
          split at hx
          · next hcontrol => exact hcontrol
          · cases hx
      | _ => cases hx
    exact hne c (hcontrol hx) (hcontrol hy)
  cases hanswers : publisherAnswers c b.trace with
  | nil => exact Nat.zero_le 1
  | cons x l =>
      rw [hanswers] at hpairs
      cases l with
      | nil => exact le_rfl
      | cons y l => exact ((List.pairwise_cons.mp hpairs).1 y List.mem_cons_self).elim

/-- A restart completes nothing. -/
lemma completions_restarted {cfg : CommandServiceConfig} {b b' : RuntimeBundle}
    (hrestart : Restarted cfg b b') {c : String} :
    completions c b'.trace = completions c b.trace := by
  obtain ⟨written, _, hpast⟩ := hrestart.recovery
  have hlog : ∀ e ∈ b'.log, e.IsUnsent := by
    intro e he
    rcases hrestart.log e he with rfl | ⟨message, rfl⟩ <;> trivial
  have hwritten : ∀ e ∈ written.map Event.committed, e.IsUnsent := by
    intro e he
    obtain ⟨r, _, rfl⟩ := List.mem_map.mp he
    trivial
  rw [RuntimeBundle.trace, hpast, completions_append, completions_unsent hlog, completions_append,
    completions_unsent hwritten, List.nil_append, List.nil_append]

/-! ### One completion -/

/-- The message of a control command completes once at most. -/
def CompletedOnce (b : RuntimeBundle) : Prop := ∀ c, (completions c b.trace).length ≤ 1

namespace CompletedOnce

variable {cfg : CommandServiceConfig} {b b' : RuntimeBundle}

lemma tick (hs : Sound b) (hsent : SentOnce b) (h : CompletedOnce b) (htick : Tick cfg b b') :
    CompletedOnce b' := by
  intro c
  have hpast : b'.past = b.past := (htick.touch hs.wellformed).past
  have hold := h c
  rw [RuntimeBundle.trace] at hold ⊢
  rw [hpast]
  cases htick.publications hs with
  | still _ hgrown =>
      obtain ⟨es, hlog, hes⟩ := hgrown
      rwa [hlog, List.append_assoc, completions_append, completions_unsent hes, List.nil_append]
  | sent _ _ _ hlog hes =>
      rwa [hlog, List.append_assoc, completions_append, completions_unsent hes, List.nil_append]
  | @completed context record token result es hfound hrecord _ hlog hes =>
      rw [hlog, List.append_assoc, completions_append, completions_unsent hes, List.nil_append]
      by_cases hcontrol : record.commandId = c ∧ record.commandType = .control
      · -- it is outstanding, so it has not completed before
        have hnone : completions c b.trace = [] := by
          rw [List.eq_nil_iff_forall_not_mem]
          intro result' hmem
          obtain ⟨r, he, hid, _⟩ := mem_completions.mp hmem
          exact hsent.uncompleted token context record hfound hrecord hcontrol.2 r result' he
            (hid.trans hcontrol.1.symm)
        rw [RuntimeBundle.trace] at hnone
        rw [List.cons_append, completions_cons, if_pos hcontrol, hnone]
        exact le_rfl
      · rw [List.cons_append, completions_cons, if_neg hcontrol]
        exact hold

lemma restarted (h : CompletedOnce b) (hrestart : Restarted cfg b b') : CompletedOnce b' := by
  intro c
  rw [completions_restarted hrestart]
  exact h c

lemma blank : CompletedOnce .blank := fun _ => Nat.zero_le 1

end CompletedOnce

/-- The messages of the commands, and the single call and completion of a control
command. -/
structure Delivery (cfg : CommandServiceConfig) (b : RuntimeBundle) : Prop where
  traced : Traced b
  messages : Messages cfg b
  sentOnce : SentOnce b
  completedOnce : CompletedOnce b

namespace Delivery

variable {cfg : CommandServiceConfig} {b b' : RuntimeBundle}

lemma tick (h : Delivery cfg b) (htick : Tick cfg b b') : Delivery cfg b' where
  traced := h.traced.tick htick
  messages := .tick h.traced h.messages htick
  sentOnce := .tick h.traced.sound h.sentOnce htick
  completedOnce := .tick h.traced.sound h.sentOnce h.completedOnce htick

lemma restarted (h : Delivery cfg b) (hrestart : Restarted cfg b b') : Delivery cfg b' where
  traced := h.traced.restarted hrestart
  messages := h.messages.restarted hrestart
  sentOnce := h.sentOnce.restarted hrestart
  completedOnce := h.completedOnce.restarted hrestart

lemma blank : Delivery cfg .blank := ⟨.blank, .blank, .blank, .blank⟩

end Delivery

theorem delivery_of_reachable {cfg : CommandServiceConfig} {b : RuntimeBundle}
    (hb : (routeService cfg).Reachable b) : Delivery cfg b :=
  reachable_of_ticks Delivery.blank (fun _ _ h hrestart => h.restarted hrestart)
    (fun _ _ h htick => h.tick htick) hb

/-! ### The outcome -/

/-- The event forms a timeout of the command. -/
def Event.FormsTimeout (c : String) : Event → Prop
  | .formed task _ => task.commandId = c ∧ task.desired = .timeout
  | _ => False

/-- What a transition of the service writes for a control command, by its
cause. -/
inductive ControlOutcome (c : String) (events : List Event) (status : CommandStatus)
    (errorCode : Option String) : Prop
  | refused : false ∈ publisherAnswers c events → status = .failed →
      ControlOutcome c events status errorCode
  | dispatched : true ∈ completions c events → status = .dispatched →
      ControlOutcome c events status errorCode
  | uncertain : false ∈ completions c events → status = .deliveryUncertain →
      ControlOutcome c events status errorCode
  | acknowledged {m : CommandRecord} : m ∈ committedRows events → m.commandId = c →
      (m.status = .dispatched ∨ m.status = .inProgress) →
      (status = .failed → errorCode = some "device_rejected") →
      ControlOutcome c events status errorCode
  | timeout {e : Event} : e ∈ events → e.FormsTimeout c → status = .timeout →
      ControlOutcome c events status errorCode

/-- **The causes of a version of a control command.** -/
lemma controlOutcome_of_asked {c : String} {l : List Event} {d : CommandRecord}
    {task : TransitionCommandTask} (hasked : Asked l d task) (hid : task.commandId = c)
    (hcontrol : ∀ m ∈ committedRows l, m.commandId = c → m.commandType = .control) :
    ControlOutcome c l task.desired task.update.errorCode := by
  obtain ⟨m, cause, hdesire, hwhich⟩ := id hasked
  have hm : m.commandId = c := by rw [← hdesire.commandId, ← hasked.commandId, hid]
  have htype := hcontrol m hdesire.row hm
  have hdesired : task.desired = (cause.desired m).status := by
    rcases hwhich with rfl | ⟨current, _, _, _, _, _, rfl⟩
    · exact cause.task_desired m
    · exact congrArg CommandRecord.status hdesire.record
  rw [hdesired]
  cases cause with
  | refused now =>
      obtain ⟨token, topic, payload, hmem⟩ := hdesire.evidence
      exact .refused (mem_publisherAnswers.mpr ⟨token, topic, payload, m, hmem, hm, htype⟩) rfl
  | completed result now =>
      cases result with
      | true => exact .dispatched (mem_completions.mpr ⟨m, hdesire.evidence.1, hm, htype⟩) rfl
      | false =>
          refine .uncertain (mem_completions.mpr ⟨m, hdesire.evidence.1, hm, htype⟩) ?_
          rw [Cause.desired, publishCompleted, if_neg Bool.false_ne_true, if_pos htype]
  | acknowledged ack now =>
      obtain ⟨_, _, _, _, _, hstatus, _⟩ := hdesire.evidence
      refine .acknowledged hdesire.row hm hstatus fun hfailed => ?_
      have hack : ack.desired = .failed :=
        ((Wellformed.sameCommand_acknowledged m ack _ now).2.symm.trans hfailed)
      have hcode : (acknowledged m ack m.commandType now).errorCode = some "device_rejected" := by
        rw [acknowledged, if_pos hack]
      rcases hwhich with rfl | ⟨current, _, _, _, _, _, rfl⟩
      · exact hcode
      · exact (congrArg CommandRecord.errorCode hdesire.record).trans hcode
  | expired now =>
      obtain ⟨replaced, hformed⟩ := hdesire.formed
      exact .timeout hformed ⟨hm, rfl⟩ rfl

section Outcome

variable {cfg : CommandServiceConfig} {b : RuntimeBundle} {c : String}

/-- All versions of the row of a control command are of that type. -/
lemma Delivery.control (h : Delivery cfg b) {r : CommandRecord} (hr : r ∈ committedRows b.trace)
    (hid : r.commandId = c) (htype : r.commandType = .control) :
    ∀ m ∈ committedRows b.trace, m.commandId = c → m.commandType = .control := by
  intro m hm hmid
  have hsound := h.traced.sound
  have hsame := (hsound.ledger.committed_known m hm).sameCommand hsound.wellformed.created
    (hsound.ledger.committed_known r hr) (hmid.trans hid.symm)
  exact hsame.commandType.trans htype

/-- The versions before an entry of the trace are versions. -/
lemma committedRows_after {events l₁ l₂ : List Event} {e : Event} (h : events = l₁ ++ e :: l₂) :
    ∀ r ∈ committedRows l₂, r ∈ committedRows events := by
  intro r hr
  refine committedRows_mono (fun e' he => ?_) hr
  rw [h]
  exact List.mem_append_right _ (List.mem_cons_of_mem _ he)

/-- **A failed publication is a refused one.** -/
lemma refused_of_failed (h : Delivery cfg b)
    (hcontrol : ∀ m ∈ committedRows b.trace, m.commandId = c → m.commandType = .control) :
    ∀ r ∈ committedRows b.trace, r.commandId = c → r.status = .failed →
      r.errorCode = some "mqtt_publish_failed" → false ∈ publisherAnswers c b.trace := by
  refine h.traced.provenance.rows.forall_versions fun l₁ r l₂ hsplit hr _ hid hfailed hcode => ?_
  have hrows := committedRows_after hsplit
  cases hr with
  | recovered _ _ _ => cases hfailed
  | written hr =>
      cases hr with
      | @inserted i command hmem _ =>
          have hcreated : .created i command ∈ b.trace := by
            rw [hsplit]
            exact List.mem_append_right _ (List.mem_cons_of_mem _ hmem)
          have hstatus : command.status = .failed := hfailed
          have hcode : command.errorCode = some "mqtt_publish_failed" := hcode
          rcases (h.traced.created i command hcreated).status with hpending | ⟨_, code, hnew, heq⟩
          · rw [hpending] at hstatus
            cases hstatus
          · rw [hcode] at heq
            cases heq
            exact absurd hnew (by decide)
      | @moved row d task _ htask _ _ hasked =>
          have hdesired : task.desired = .failed := hfailed
          have hcode : task.update.errorCode = some "mqtt_publish_failed" := hcode
          cases controlOutcome_of_asked hasked (htask.symm.trans hid)
            (fun m hm => hcontrol m (hrows m hm)) with
          | refused hmem _ =>
              refine publisherAnswers_mono (fun e he => ?_) hmem
              rw [hsplit]
              exact List.mem_append_right _ (List.mem_cons_of_mem _ he)
          | acknowledged _ _ _ hrejected =>
              rw [hrejected hdesired] at hcode
              exact absurd hcode (by decide)
          | dispatched _ hstatus => rw [hdesired] at hstatus; cases hstatus
          | uncertain _ hstatus => rw [hdesired] at hstatus; cases hstatus
          | timeout _ _ hstatus => rw [hdesired] at hstatus; cases hstatus

/-- **The versions of an undispatched command**: the publisher has taken the message and
has not confirmed it, so the row is pending, or uncertain, or a timeout was formed for it. -/
lemma rows_of_undispatched (h : Delivery cfg b)
    (hcontrol : ∀ m ∈ committedRows b.trace, m.commandId = c → m.commandType = .control)
    (htaken : true ∈ publisherAnswers c b.trace) (hopen : true ∉ completions c b.trace) :
    ∀ r ∈ committedRows b.trace, r.commandId = c →
      r.status = .pending ∨ r.status = .deliveryUncertain ∨
        (r.status = .timeout ∧ ∃ e ∈ b.trace, e.FormsTimeout c) := by
  obtain ⟨token, topic, payload, sent, hpublished, hsent, _⟩ := mem_publisherAnswers.mp htaken
  obtain ⟨hmessage, hrow⟩ := h.messages.sent token topic payload sent true hpublished
  have honly : publisherAnswers c b.trace = [true] :=
    eq_singleton_of_mem (length_publisherAnswers h.sentOnce c) htaken
  refine h.traced.provenance.rows.forall_versions fun l₁ r l₂ hsplit hr ih hid => ?_
  have hrows := committedRows_after hsplit
  have hmem : ∀ e ∈ l₂, e ∈ b.trace := fun e he => by
    rw [hsplit]
    exact List.mem_append_right _ (List.mem_cons_of_mem _ he)
  cases hr with
  | recovered _ _ _ => exact .inr (.inl rfl)
  | written hr =>
      cases hr with
      | @inserted i command hcreated hfirst =>
          rcases (h.traced.created i command (hmem _ hcreated)).status with
            hpending | ⟨hfailed, _⟩
          · exact .inl hpending
          · -- nothing follows a failed command, so the version that was sent is this one
            refine absurd hrow fun hrow => ?_
            have hsorted := h.traced.sound.ledger.committed_sorted
            rw [hsplit, committedRows_append] at hrow hsorted
            have hstored : command.stored.status = .failed := hfailed
            rcases List.mem_append.mp hrow with hlater | hearlier
            · have hopen := ((List.pairwise_append.mp hsorted).2.2 sent hlater command.stored
                List.mem_cons_self (hsent.trans hid.symm)).2
              rw [hstored] at hopen
              cases hopen
            · rcases List.mem_cons.mp hearlier with rfl | hearlier
              · have hopen := hmessage.isOpen
                rw [hstored] at hopen
                cases hopen
              · exact hfirst sent hearlier (hsent.trans hid.symm)
      | @moved row d task _ htask _ _ hasked =>
          have hstatus : (row.transitioned task.desired task.update).status = task.desired := rfl
          rw [hstatus]
          cases controlOutcome_of_asked hasked (htask.symm.trans hid)
            (fun m hm => hcontrol m (hrows m hm)) with
          | refused hrefused _ =>
              have hboth := publisherAnswers_mono hmem hrefused
              rw [honly] at hboth
              cases List.mem_singleton.mp hboth
          | dispatched hdone _ => exact absurd (completions_mono hmem hdone) hopen
          | uncertain _ hstatus => exact .inr (.inl hstatus)
          | acknowledged hm hmid hdispatched _ =>
              rcases ih _ hm hmid with h' | h' | ⟨h', _⟩ <;> rw [h'] at hdispatched <;>
                rcases hdispatched with h'' | h'' <;> cases h''
          | timeout he hforms hstatus => exact .inr (.inr ⟨hstatus, _, hmem _ he, hforms⟩)

/-- An error of the publication: the message was taken, and has not gone out. -/
lemma Delivery.uncertain_of_error (h : Delivery cfg b)
    (hcontrol : ∀ m ∈ committedRows b.trace, m.commandId = c → m.commandType = .control)
    (herror : false ∈ completions c b.trace) :
    publisherAnswers c b.trace = [true] ∧ ∀ r ∈ committedRows b.trace, r.commandId = c →
      r.status = .pending ∨ r.status = .deliveryUncertain ∨
        (r.status = .timeout ∧ ∃ e ∈ b.trace, e.FormsTimeout c) := by
  obtain ⟨sent, hcompleted, hsent, htype⟩ := mem_completions.mp herror
  obtain ⟨token, topic, payload, hpublished⟩ := h.messages.completed sent false hcompleted
  have hmem : true ∈ publisherAnswers c b.trace :=
    mem_publisherAnswers.mpr ⟨token, topic, payload, sent, hpublished, hsent, htype⟩
  have honly := eq_singleton_of_mem (h.completedOnce c) herror
  refine ⟨eq_singleton_of_mem (length_publisherAnswers h.sentOnce c) hmem,
    rows_of_undispatched h hcontrol hmem fun hdone => ?_⟩
  rw [honly] at hdone
  cases List.mem_singleton.mp hdone

end Outcome

end CnsServer
