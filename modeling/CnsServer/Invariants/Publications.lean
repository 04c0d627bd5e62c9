/-
The messages to devices: a control command is handed to the publisher once.

Configuration commands are sent again by the scan; a control command is sent when
its insertion is confirmed, and never again.  So as long as its publication is
outstanding, no completion of it has been seen.

* `PublicationEffect`, `Tick.publications`: what a tick can do to the
  publications;
* `SentOnce`, `sentOnce_of_reachable`: one message and one outstanding publication
  for each control command.
-/
import CnsServer.Invariants.AckOrigins

namespace CnsServer

open RuntimeBundle

/-- The event is neither a publication nor its completion. -/
def Event.IsUnsent : Event → Prop
  | .published _ _ _ _ _ => False
  | .completed _ _ => False
  | _ => True

/-- What happens to the publications: nothing, a message of a configuration
command or of one that has just been stored, or a completion. -/
inductive PublicationEffect (b b' : RuntimeBundle) : Prop
  | still : (∀ t k, b'.publications.lookup t = some k → b.publications.lookup t = some k) →
      Grown Event.IsUnsent b b' → PublicationEffect b b'
  | sent {context : RequestContext} {record : CommandRecord} {token : ℕ} {topic : String}
      {payload : Json} {accepted : Bool} {es : List Event} :
      context.record = some record →
      (record.commandType = .config ∨
        (¬ Ticket b record.commandId ∧ ∀ e ∈ b.trace, ¬ e.Touches record.commandId)) →
      (∀ t k, b'.publications.lookup t = some k →
        b.publications.lookup t = some k ∨ (t = token ∧ k = context)) →
      b'.log = es ++ .published token topic payload record accepted :: b.log →
      (∀ e ∈ es, e.IsUnsent) → PublicationEffect b b'
  | completed {context : RequestContext} {record : CommandRecord} {token : ℕ} {result : Bool}
      {es : List Event} :
      b.publications.lookup token = some context → context.record = some record →
      (∀ t k, b'.publications.lookup t = some k → t ≠ token ∧ b.publications.lookup t = some k) →
      b'.log = es ++ .completed record result :: b.log → (∀ e ∈ es, e.IsUnsent) →
      (∃ cfg now, b' = b.handleCompletion cfg ⟨token, result⟩ now) → PublicationEffect b b'

section Unsent

variable {cfg : CommandServiceConfig} {a b : RuntimeBundle}

lemma Grown.unsent_submit (h : Grown Event.IsUnsent a b) (kind : OperationKind)
    (context : RequestContext) (task : CommandDatabaseTask) :
    Grown Event.IsUnsent a (b.submit cfg kind context task).2 :=
  h.submit (fun _ _ _ => trivial) kind context task

lemma Grown.unsent_form (h : Grown Event.IsUnsent a b) (context : RequestContext)
    (task : TransitionCommandTask) :
    Grown Event.IsUnsent a (b.submitTransitionOrDefer cfg context task) :=
  h.form (fun _ _ _ => trivial) fun _ => trivial

@[simp] lemma RuntimeBundle.publications_submit (b : RuntimeBundle) (kind : OperationKind)
    (context : RequestContext) (task : CommandDatabaseTask) :
    (b.submit cfg kind context task).2.publications = b.publications := by
  rcases submit_cases cfg b kind context task with h | h <;> rw [h] <;> rfl

@[simp] lemma RuntimeBundle.publications_form (b : RuntimeBundle) (context : RequestContext)
    (task : TransitionCommandTask) :
    (b.submitTransitionOrDefer cfg context task).publications = b.publications := by
  rcases submitTransitionOrDefer_cases cfg b context task with h | h <;> rw [h] <;> rfl

end Unsent

/-- A message is handed to the publisher, or not sent at all. -/
lemma PublicationEffect.publish {cfg : CommandServiceConfig} {answers : Answers}
    {a b : RuntimeBundle} {context : RequestContext} {now : TimePoint}
    (hpublications : b.publications = a.publications) (hlog : b.log = a.log)
    (hfresh : ∀ record, context.record = some record → record.commandType = .config ∨
      (¬ Ticket a record.commandId ∧ ∀ e ∈ a.trace, ¬ e.Touches record.commandId)) :
    PublicationEffect a (b.publishRecord cfg answers context now) := by
  rcases publishRecord_cases cfg answers b context now with
    heq | ⟨record, deviceId, payload, hrecord, _, _, _, heq | heq⟩
  · rw [heq]
    refine .still (fun t k hk => hpublications ▸ hk) ⟨[], hlog, by simp⟩
  · rw [heq]
    refine @PublicationEffect.sent a _ context record b.nextPublishToken _ payload true []
      hrecord (hfresh record hrecord) (fun t k hk => ?_) (congrArg _ hlog) (by simp)
    rcases Map.lookup_insert_some.mp hk with ⟨rfl, rfl⟩ | ⟨_, hk⟩
    · exact .inr ⟨rfl, rfl⟩
    · exact .inl (hpublications ▸ hk)
  · rw [heq]
    obtain ⟨es, hes, hunsent⟩ :=
      @Grown.unsent_form cfg (b.unsent cfg context record deviceId payload)
      _ (.refl _) { context with record := some (publishFailed record context.commandType now) }
      (failTask record context.commandType now)
    refine @PublicationEffect.sent a _ context record b.nextPublishToken _ payload false es
      hrecord (hfresh record hrecord) (fun t k hk => ?_) (by rw [hes, ← hlog]; rfl) hunsent
    rw [RuntimeBundle.publications_form] at hk
    obtain ⟨hne, hk⟩ := Map.lookup_erase_some.mp hk
    rcases Map.lookup_insert_some.mp hk with ⟨rfl, _⟩ | ⟨_, hk⟩
    · exact absurd rfl hne
    · exact .inl (hpublications ▸ hk)

/-- **What a tick does to the publications.** -/
lemma Tick.publications {cfg : CommandServiceConfig} {b b' : RuntimeBundle} (hs : Sound b)
    (htick : Tick cfg b b') : PublicationEffect b b' := by
  have hw := hs.wellformed
  -- nothing happens to the publications themselves
  have hstill : ∀ {c : RuntimeBundle}, c.publications = b.publications →
      Grown Event.IsUnsent b c → PublicationEffect b c := fun hp hg =>
    .still (fun t k hk => hp ▸ hk) hg
  have htaken : ∀ {i : ℕ} {rest : List CommandDatabaseResult},
      Grown Event.IsUnsent b (b.taken i rest) := ⟨[], rfl, by simp⟩
  cases htick with
  | quiet hcore =>
      obtain ⟨es, hlog, hes⟩ := hcore.log
      refine .still (fun t k hk => hcore.publications t ▸ hk) ⟨es, hlog, fun e he => ?_⟩
      have hquiet := hes e he
      cases e with
      | published token topic payload record accepted => exact hquiet.elim
      | completed record result => exact hquiet.elim
      | _ => trivial
  | @worker event hevent =>
      refine hstill rfl ⟨_, rfl, fun e he => ?_⟩
      rcases mem_executionEvents.mp he with ⟨r, _, rfl⟩ | ⟨_, r, _, rfl⟩ | ⟨r, _, rfl⟩ <;> trivial
  | mqtt => exact hstill rfl ⟨[_], rfl, by simp [Event.IsUnsent]⟩
  | device => exact hstill rfl ⟨[_], rfl, by simp [Event.IsUnsent]⟩
  | find => exact hstill (publications_submit ..) (Grown.unsent_submit (.refl b) _ _ _)
  | cleanup => exact hstill (publications_submit ..) (Grown.unsent_submit (.refl b) _ _ _)
  | consumed hhead hconsumed =>
      refine hstill rfl ⟨_, rfl, fun e he => ?_⟩
      cases hconsumed with
      | unknown _ => cases he
      | ignored _ _ _ => cases he
      | failed _ _ _ => rw [List.mem_singleton.mp he]; trivial
      | rejected _ _ => rw [List.mem_singleton.mp he]; trivial
      | replayed _ _ _ => rw [List.mem_singleton.mp he]; trivial
  | create =>
      refine hstill (publications_submit ..) (Grown.unsent_submit ?_ _ _ _)
      exact htaken.emit trivial
  | conflict => exact hstill (publications_submit ..) (Grown.unsent_submit htaken _ _ _)
  | @activate answers operationId operation rest record now hhead hop hkind hown hopen =>
      refine PublicationEffect.publish rfl rfl fun r hr => .inr ?_
      cases hr
      obtain ⟨own, hrecord⟩ : ∃ own, operation.context.record = some own := by
        obtain ⟨own, hcontext, _⟩ := hw.insert_result hhead hop hkind hown
        exact ⟨own, hcontext.record⟩
      rw [← hown own hrecord]
      exact hs.lifecycle.unborn operationId operation own hop hkind hrecord
  | refresh => exact hstill rfl ⟨[_], rfl, by simp [Event.IsUnsent]⟩
  | settle => exact hstill rfl ⟨[], rfl, by simp⟩
  | converge => exact hstill (publications_form ..) (Grown.unsent_form htaken _ _)
  | finish => exact hstill rfl ⟨[_], rfl, by simp [Event.IsUnsent]⟩
  | finished => exact hstill rfl ⟨[], rfl, by simp⟩
  | deviceAck =>
      refine hstill (publications_form ..) (Grown.unsent_form ?_ _ _)
      exact (Grown.refl b).emit trivial
  | @buffer context record ack deviceId payload type now =>
      rcases bufferEarlyAck_cases cfg (b.emit (.deviceAcked deviceId type ack
        (some record.status))) type ack ⟨deviceId, payload, now⟩ with
        ⟨kept, _, heq⟩ | ⟨message, heq⟩
      · rw [heq]
        exact hstill rfl ⟨[_], rfl, by simp [Event.IsUnsent]⟩
      · rw [heq]
        exact hstill rfl ⟨[_, _], rfl, by simp [Event.IsUnsent]⟩
  | timeout => exact hstill (publications_form ..) (Grown.unsent_form ⟨[], rfl, by simp⟩ _ _)
  | @republish answers commandId deviceId context record now hactive hrecord htype =>
      refine PublicationEffect.publish rfl rfl fun r hr => .inl ?_
      obtain ⟨r', hcontext, _⟩ := hw.active _ context hactive
      rw [hcontext.unique hr, ← hcontext.commandType]
      exact htype
  | @complete completion context now hfound =>
      rcases handleCompletion_cases cfg now hfound with
        ⟨_, heq⟩ | ⟨record, hrecord, ⟨_, _, heq⟩ | ⟨_, heq⟩⟩
      · rw [heq]
        exact .still (fun t k hk => (Map.lookup_erase_some.mp hk).2) ⟨[], rfl, by simp⟩
      · rw [heq]
        exact @PublicationEffect.completed b _ context record completion.token completion.result []
          hfound hrecord (fun t k hk => Map.lookup_erase_some.mp hk) rfl (by simp)
          ⟨cfg, now, heq.symm⟩
      · rw [heq]
        obtain ⟨es, hes, hunsent⟩ := @Grown.unsent_form cfg
          (b.completionTaken completion.token record completion.result) _ (.refl _)
          { context with
            record := some (publishCompleted record context.commandType completion.result now) }
          (completeTask record context.commandType completion.result now)
        refine @PublicationEffect.completed b _ context record completion.token completion.result es
          hfound hrecord (fun t k hk => ?_) hes hunsent ⟨cfg, now, heq.symm⟩
        rw [publications_form] at hk
        exact Map.lookup_erase_some.mp hk
  | @retry key deferred hfound =>
      rcases retryDeferred_cases cfg b key deferred with heq | heq
      · rw [heq]; exact hstill rfl ⟨[_], rfl, by simp [Event.IsUnsent]⟩
      · rw [heq]; exact hstill rfl ⟨[_], rfl, by simp [Event.IsUnsent]⟩

/-! ### Sent once -/

/-- The event hands the message of a control command to the publisher. -/
def Event.PublishesControl (c : String) : Event → Prop
  | .published _ _ _ record _ => record.commandId = c ∧ record.commandType = .control
  | _ => False

/-- A control command is sent once, and has no completion as long as its
publication is outstanding. -/
structure SentOnce (b : RuntimeBundle) : Prop where
  unique : ∀ t t' context context' r r', b.publications.lookup t = some context →
    b.publications.lookup t' = some context' → context.record = some r →
    context'.record = some r' → r.commandId = r'.commandId → r.commandType = .control → t = t'
  uncompleted : ∀ t context r, b.publications.lookup t = some context → context.record = some r →
    r.commandType = .control → ∀ r' result, .completed r' result ∈ b.trace →
      r'.commandId ≠ r.commandId
  once : b.trace.Pairwise fun e e' => ∀ c, e.PublishesControl c → ¬ e'.PublishesControl c

namespace SentOnce

variable {cfg : CommandServiceConfig} {b b' : RuntimeBundle}

lemma tick (hs : Sound b) (h : SentOnce b) (htick : Tick cfg b b') : SentOnce b' := by
  have hpast : b'.past = b.past := (htick.touch hs.wellformed).past
  have hw' : Wellformed b' := hs.wellformed.tick htick
  have htrace : ∀ {es : List Event}, b'.log = es ++ b.log → b'.trace = es ++ b.trace := by
    intro es hlog
    simp only [RuntimeBundle.trace]
    rw [hlog, hpast, List.append_assoc]
  have hsilent : ∀ {e : Event} {c : String}, e.IsUnsent → ¬ e.PublishesControl c := by
    intro e c he hc
    cases e with
    | published token topic payload record accepted => exact he
    | _ => exact hc
  have huncompleted : ∀ {r : CommandRecord} {result : Bool},
      ¬ Event.IsUnsent (.completed r result) := fun h => h
  -- unsent events before a trace change nothing about who is sent
  have hgrow : ∀ {es events : List Event}, (∀ e ∈ es, e.IsUnsent) →
      events.Pairwise (fun e e' => ∀ c, e.PublishesControl c → ¬ e'.PublishesControl c) →
      (es ++ events).Pairwise fun e e' => ∀ c, e.PublishesControl c → ¬ e'.PublishesControl c := by
    intro es events hes hevents
    refine List.pairwise_append.mpr
      ⟨?_, hevents, fun e he _ _ c hc => absurd hc (hsilent (hes e he))⟩
    exact List.Pairwise.imp_of_mem (fun he _ _ c hc => absurd hc (hsilent (hes _ he)))
      (List.pairwise_of_forall (R := fun _ _ => True) fun _ _ => trivial)
  cases htick.publications hs with
  | still hsub hgrown =>
      obtain ⟨es, hlog, hes⟩ := hgrown
      refine ⟨?_, ?_, ?_⟩
      · exact fun t t' k k' r r' ht ht' => h.unique t t' k k' r r' (hsub t k ht) (hsub t' k' ht')
      · intro t k r ht hr htype r' result hmem
        rw [htrace hlog] at hmem
        rcases List.mem_append.mp hmem with hnew | hold
        · exact absurd (hes _ hnew) huncompleted
        · exact h.uncompleted t k r (hsub t k ht) hr htype r' result hold
      · rw [htrace hlog]
        exact hgrow hes h.once
  | @sent context record token topic payload accepted es hrecord hfresh hsub hlog hes =>
      have htrace' :
          b'.trace = es ++ .published token topic payload record accepted :: b.trace := by
        have hlog' :
            b'.log = (es ++ [.published token topic payload record accepted]) ++ b.log := by
          rw [hlog, List.append_assoc]; rfl
        rw [htrace hlog', List.append_assoc]; rfl
      -- a control command is sent only when it is new
      have hnew : record.commandType = .control →
          ¬ Ticket b record.commandId ∧ ∀ e ∈ b.trace, ¬ e.Touches record.commandId := by
        intro htype
        refine hfresh.resolve_left fun hconfig => ?_
        rw [hconfig] at htype
        cases htype
      refine ⟨?_, ?_, ?_⟩
      · intro t t' k k' r r' ht ht' hr hr' hid htype
        have hold : ∀ {t : ℕ} {k : RequestContext} {r : CommandRecord},
            b.publications.lookup t = some k → k.record = some r →
            r.commandId = record.commandId → record.commandType = .control → False :=
          fun ht hr hid htype => (hnew htype).1 (.publication ht hr hid)
        have htype' : r'.commandType = .control := by
          obtain ⟨s, hcontext, _⟩ := hw'.publications t k ht
          obtain ⟨s', hcontext', _⟩ := hw'.publications t' k' ht'
          rw [hcontext.unique hr] at hid htype
          rw [hcontext'.unique hr'] at hid ⊢
          rw [← (hcontext.known.sameCommand hw'.created hcontext'.known hid).commandType]
          exact htype
        rcases hsub t k ht with hold₁ | ⟨rfl, rfl⟩
        · rcases hsub t' k' ht' with hold₂ | ⟨rfl, rfl⟩
          · exact h.unique t t' k k' r r' hold₁ hold₂ hr hr' hid htype
          · rw [hrecord] at hr'
            cases hr'
            exact (hold hold₁ hr hid htype').elim
        · rw [hrecord] at hr
          cases hr
          rcases hsub t' k' ht' with hold₂ | ⟨rfl, _⟩
          · exact (hold hold₂ hr' hid.symm htype).elim
          · rfl
      · intro t k r ht hr htype r' result hmem
        rw [htrace'] at hmem
        have hold : .completed r' result ∈ b.trace := by
          rcases List.mem_append.mp hmem with hmem | hmem
          · exact absurd (hes _ hmem) huncompleted
          · rcases List.mem_cons.mp hmem with hmem | hmem
            · cases hmem
            · exact hmem
        rcases hsub t k ht with ht | ⟨rfl, rfl⟩
        · exact h.uncompleted t k r ht hr htype r' result hold
        · rw [hrecord] at hr
          cases hr
          exact fun hid => (hnew htype).2 _ hold hid
      · rw [htrace']
        refine hgrow hes (List.pairwise_cons.mpr ⟨fun e he c hc hc' => ?_, h.once⟩)
        obtain ⟨hid, htype⟩ := hc
        refine (hnew htype).2 e he ?_
        cases e with
        | published token' topic' payload' record' accepted' => exact hc'.1.trans hid.symm
        | _ => exact hc'.elim
  | @completed context record token result es hfound hrecord hsub hlog hes =>
      have htrace' : b'.trace = es ++ .completed record result :: b.trace := by
        have hlog' : b'.log = (es ++ [.completed record result]) ++ b.log := by
          rw [hlog, List.append_assoc]; rfl
        rw [htrace hlog', List.append_assoc]; rfl
      refine ⟨?_, ?_, ?_⟩
      · exact fun t t' k k' r r' ht ht' =>
          h.unique t t' k k' r r' (hsub t k ht).2 (hsub t' k' ht').2
      · intro t k r ht hr htype r' result' hmem
        rw [htrace'] at hmem
        obtain ⟨hne, ht⟩ := hsub t k ht
        rcases List.mem_append.mp hmem with hmem | hmem
        · exact absurd (hes _ hmem) huncompleted
        · rcases List.mem_cons.mp hmem with hmem | hmem
          · cases hmem
            exact fun hid => hne (h.unique t token k context r record ht hfound hr hrecord hid.symm
              htype)
          · exact h.uncompleted t k r ht hr htype r' result' hmem
      · rw [htrace']
        exact hgrow hes (List.pairwise_cons.mpr ⟨fun e _ c hc => hc.elim, h.once⟩)

/-- A new process has no publications, and a restart sends nothing. -/
lemma restarted (h : SentOnce b) (hrestart : Restarted cfg b b') : SentOnce b' := by
  refine ⟨?_, ?_, ?_⟩
  · intro t t' k k' r r' ht
    rw [hrestart.publications] at ht
    cases ht
  · intro t k r ht
    rw [hrestart.publications] at ht
    cases ht
  · obtain ⟨written, _, hpast⟩ := hrestart.recovery
    have hsilent : ∀ e ∈ b'.log ++ written.map .committed, ∀ c, ¬ e.PublishesControl c := by
      intro e he c hc
      rcases List.mem_append.mp he with he | he
      · rcases hrestart.log e he with rfl | ⟨message, rfl⟩ <;> exact hc
      · obtain ⟨r, _, rfl⟩ := List.mem_map.mp he
        exact hc
    rw [RuntimeBundle.trace]
    rw [hpast, ← List.append_assoc]
    refine List.pairwise_append.mpr ⟨?_, h.once, fun e he _ _ c hc => absurd hc (hsilent e he c)⟩
    exact List.Pairwise.imp_of_mem (fun he _ _ c hc => absurd hc (hsilent _ he c))
      (List.pairwise_of_forall (R := fun _ _ => True) fun _ _ => trivial)

lemma blank : SentOnce .blank := by
  refine ⟨?_, ?_, List.Pairwise.nil⟩
  · intro t t' k k' r r' ht
    cases ht
  · intro t k r ht
    cases ht

end SentOnce

/-- **Control commands are sent once**, in every run. -/
theorem sentOnce_of_reachable {cfg : CommandServiceConfig} {b : RuntimeBundle}
    (hb : (routeService cfg).Reachable b) : SentOnce b :=
  (reachable_of_ticks (P := fun b => Sound b ∧ SentOnce b) ⟨.blank, .blank⟩
    (fun _ _ h hrestart => ⟨h.1.restarted hrestart, h.2.restarted hrestart⟩)
    (fun _ _ h htick => ⟨h.1.tick htick, .tick h.1 h.2 htick⟩) hb).2

end CnsServer
