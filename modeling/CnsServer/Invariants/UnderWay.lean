/-
The transitions of one command that are under way.

A transition waits for the worker as an operation or, if the worker took no more,
as a deferred one; after a lost compare-and-set the lookup waits in its place.

* `UnderWay`, `Busy`: the contexts under way for a command;
* `StartsNothing`: a change that starts nothing for the command, with one lemma for each
  function that submits.
-/
import CnsServer.Invariants.Publications

namespace CnsServer

open RuntimeBundle

/-- The kinds of operation that carry a transition: the transition itself, and
the lookup after it has lost. -/
def OperationKind.Moves (kind : OperationKind) : Prop :=
  kind = .transition ∨ kind = .findByIdForConvergence

instance : DecidablePred OperationKind.Moves := fun kind =>
  inferInstanceAs (Decidable (kind = .transition ∨ kind = .findByIdForConvergence))

/-- The operation carries a transition of the command. -/
def Operation.IsFor (operation : Operation) (c : String) : Prop :=
  operation.kind.Moves ∧ ∃ d, operation.context.record = some d ∧ d.commandId = c

/-- A transition of the command is under way with this context. -/
inductive UnderWay (b : RuntimeBundle) (c : String) : RequestContext → Prop
  | operation {i : ℕ} {operation : Operation} : b.operations.lookup i = some operation →
      operation.IsFor c → UnderWay b c operation.context
  | deferred {deferred : DeferredTransition} : b.deferredTransitions.lookup c = some deferred →
      UnderWay b c deferred.context

/-- Some transition of the command is under way. -/
def Busy (b : RuntimeBundle) (c : String) : Prop := ∃ context, UnderWay b c context

/-- The event submits the server's timeout of the control command. -/
def Event.SubmitsTimeout (c : String) : Event → Prop
  | .submitted _ (.transitionCommand commandId _ desired update) _ =>
      commandId = c ∧ desired = .timeout ∧ update.errorCode = some "control_timeout"
  | _ => False

/-- The operations have been numbered in order. -/
def Numbered (b : RuntimeBundle) : Prop :=
  ∀ i operation, b.operations.lookup i = some operation → i < b.nextOperationId

@[simp] lemma RuntimeBundle.past_submit (cfg : CommandServiceConfig) (b : RuntimeBundle)
    (kind : OperationKind) (context : RequestContext) (task : CommandDatabaseTask) :
    (b.submit cfg kind context task).2.past = b.past := by
  rcases submit_cases cfg b kind context task with h | h <;> rw [h] <;> rfl

@[simp] lemma RuntimeBundle.past_form (cfg : CommandServiceConfig) (b : RuntimeBundle)
    (context : RequestContext) (task : TransitionCommandTask) :
    (b.submitTransitionOrDefer cfg context task).past = b.past := by
  rcases submitTransitionOrDefer_cases cfg b context task with h | h <;> rw [h] <;> rfl

namespace UnderWay

variable {cfg : CommandServiceConfig} {b b' : RuntimeBundle} {c : String} {context : RequestContext}

lemma same (h : UnderWay b c context)
    (hops : ∀ i, b'.operations.lookup i = b.operations.lookup i)
    (hdeferred : b'.deferredTransitions.lookup c = b.deferredTransitions.lookup c) :
    UnderWay b' c context := by
  cases h with
  | operation hop hfor => exact .operation ((hops _).trans hop) hfor
  | deferred hlookup => exact .deferred (hdeferred.trans hlookup)

/-- What is under way after a submission was so before, or has just been
submitted. -/
lemma of_submit {kind : OperationKind} {new : RequestContext} {task : CommandDatabaseTask}
    (h : UnderWay (b.submit cfg kind new task).2 c context) :
    UnderWay b c context ∨ (context = new ∧ (Operation.mk kind new).IsFor c) := by
  rcases submit_cases cfg b kind new task with heq | heq <;> rw [heq] at h
  · cases h with
    | operation hop hfor =>
        rcases Map.lookup_insert_some.mp hop with ⟨_, rfl⟩ | ⟨_, hop⟩
        · exact .inr ⟨rfl, hfor⟩
        · exact .inl (.operation hop hfor)
    | deferred hlookup => exact .inl (.deferred hlookup)
  · exact .inl (h.same (fun _ => rfl) rfl)

lemma submit (h : UnderWay b c context) (hb : Numbered b) (kind : OperationKind)
    (new : RequestContext) (task : CommandDatabaseTask) :
    UnderWay (b.submit cfg kind new task).2 c context := by
  rcases submit_cases cfg b kind new task with heq | heq <;> rw [heq]
  · cases h with
    | operation hop hfor =>
        refine .operation (Map.lookup_insert_some.mpr (.inr ⟨?_, hop⟩)) hfor
        exact (hb _ _ hop).ne
    | deferred hlookup => exact .deferred hlookup
  · exact h.same (fun _ => rfl) rfl

/-- A submission that the worker takes is under way. -/
lemma submit_self {kind : OperationKind} {new : RequestContext} {task : CommandDatabaseTask}
    (haccepts : (b.toPostgresWorker.submitCommand cfg.maxInflightCommands b.nextOperationId
      task).isSome) (hfor : (Operation.mk kind new).IsFor c) :
    UnderWay (b.submit cfg kind new task).2 c new := by
  obtain ⟨worker, hworker⟩ := Option.isSome_iff_exists.mp haccepts
  unfold RuntimeBundle.submit
  dsimp only
  rw [hworker]
  exact @UnderWay.operation _ _ b.nextOperationId ⟨kind, new⟩
    (Map.lookup_insert_some.mpr (.inl ⟨rfl, rfl⟩)) hfor

/-- What is under way after a transition is formed was so before, or is the new
one. -/
lemma of_form {new : RequestContext} {task : TransitionCommandTask} {d : CommandRecord}
    (hrecord : new.record = some d) (hid : d.commandId = task.commandId)
    (h : UnderWay (b.submitTransitionOrDefer cfg new task) c context) :
    UnderWay b c context ∨ (context = new ∧ task.commandId = c) := by
  rcases submitTransitionOrDefer_cases cfg b new task with heq | heq <;> rw [heq] at h
  · cases h with
    | operation hop hfor =>
        rcases Map.lookup_insert_some.mp hop with ⟨_, rfl⟩ | ⟨_, hop⟩
        · obtain ⟨_, d', hd', hc⟩ := hfor
          rw [hrecord] at hd'
          cases hd'
          exact .inr ⟨rfl, hid ▸ hc⟩
        · exact .inl (.operation hop hfor)
    | deferred hlookup => exact .inl (.deferred (Map.lookup_erase_some.mp hlookup).2)
  · cases h with
    | operation hop hfor => exact .inl (.operation hop hfor)
    | deferred hlookup =>
        rcases Map.lookup_insert_some.mp hlookup with ⟨rfl, rfl⟩ | ⟨_, hlookup⟩
        · exact .inr ⟨rfl, rfl⟩
        · exact .inl (.deferred hlookup)

/-- The new transition is under way. -/
lemma form_self (b : RuntimeBundle) {new : RequestContext} {task : TransitionCommandTask}
    {d : CommandRecord} (hrecord : new.record = some d) (hid : d.commandId = task.commandId) :
    UnderWay (b.submitTransitionOrDefer cfg new task) task.commandId new := by
  rcases submitTransitionOrDefer_cases cfg b new task with heq | heq <;> rw [heq]
  · exact @UnderWay.operation _ _ b.nextOperationId ⟨.transition, new⟩
      (Map.lookup_insert_some.mpr (.inl ⟨rfl, rfl⟩)) ⟨.inl rfl, d, hrecord, hid⟩
  · exact @UnderWay.deferred _ _ ⟨new, task⟩ (Map.lookup_insert_some.mpr (.inl ⟨rfl, rfl⟩))

/-- The transition of another command leaves alone what is under way. -/
lemma form_other (h : UnderWay b c context) (hb : Numbered b) {new : RequestContext}
    {task : TransitionCommandTask} (hid : task.commandId ≠ c) :
    UnderWay (b.submitTransitionOrDefer cfg new task) c context := by
  rcases submitTransitionOrDefer_cases cfg b new task with heq | heq <;> rw [heq]
  · cases h with
    | operation hop hfor =>
        refine .operation (Map.lookup_insert_some.mpr (.inr ⟨?_, hop⟩)) hfor
        exact (hb _ _ hop).ne
    | deferred hlookup => exact .deferred (Map.lookup_erase_some.mpr ⟨hid.symm, hlookup⟩)
  · cases h with
    | operation hop hfor => exact .operation hop hfor
    | deferred hlookup =>
        exact .deferred (Map.lookup_insert_some.mpr (.inr ⟨hid.symm, hlookup⟩))

lemma of_taken {i : ℕ} {rest : List CommandDatabaseResult}
    (h : UnderWay (b.taken i rest) c context) : UnderWay b c context := by
  cases h with
  | operation hop hfor => exact .operation (Map.lookup_erase_some.mp hop).2 hfor
  | deferred hlookup => exact .deferred hlookup

/-- Taking the result of another operation leaves alone what is under way. -/
lemma taken (h : UnderWay b c context) {i : ℕ} (rest : List CommandDatabaseResult)
    (hother : ∀ operation, b.operations.lookup i = some operation → ¬ operation.IsFor c) :
    UnderWay (b.taken i rest) c context := by
  cases h with
  | @operation j operation hop hfor =>
      refine .operation (Map.lookup_erase_some.mpr ⟨?_, hop⟩) hfor
      rintro rfl
      exact hother operation hop hfor
  | deferred hlookup => exact .deferred hlookup

end UnderWay

/-! ### Changes that start nothing for the command -/

/-- Nothing starts for the command `c`: what there is of it was there, and no
timeout of it is submitted. -/
structure StartsNothing (c : String) (a b : RuntimeBundle) : Prop where
  past : b.past = a.past
  grown : Grown (fun e => ¬ e.SubmitsTimeout c) a b
  numbered : Numbered b
  underWay : ∀ context, UnderWay b c context → UnderWay a c context
  active : ∀ context, b.activeCommands.lookup c = some context →
    a.activeCommands.lookup c = some context
  publications : ∀ t context r, b.publications.lookup t = some context →
    context.record = some r → r.commandId = c → a.publications.lookup t = some context

namespace StartsNothing

variable {cfg : CommandServiceConfig} {a b b' : RuntimeBundle} {c : String}

lemma refl (hw : Wellformed b) : StartsNothing c b b where
  past := rfl
  grown := .refl b
  numbered := hw.operations_lt
  underWay _ h := h
  active _ h := h
  publications _ _ _ h _ _ := h

/-- A change of the maps that only takes away. -/
lemma update (h : StartsNothing c a b) (hpast : b'.past = b.past)
    (hlog : Grown (fun e => ¬ e.SubmitsTimeout c) b b')
    (hnext : b.nextOperationId ≤ b'.nextOperationId)
    (hops : ∀ i operation, b'.operations.lookup i = some operation →
      b.operations.lookup i = some operation)
    (hdeferred : b'.deferredTransitions.lookup c = b.deferredTransitions.lookup c)
    (hactive : ∀ context, b'.activeCommands.lookup c = some context →
      b.activeCommands.lookup c = some context)
    (hpublications : ∀ t context r, b'.publications.lookup t = some context →
      context.record = some r → r.commandId = c → b.publications.lookup t = some context) :
    StartsNothing c a b' where
  past := hpast.trans h.past
  grown := by
    obtain ⟨es, hes, hno⟩ := h.grown
    obtain ⟨es', hes', hno'⟩ := hlog
    refine ⟨es' ++ es, by rw [hes', hes, List.append_assoc], fun e he => ?_⟩
    rcases List.mem_append.mp he with he | he
    · exact hno' e he
    · exact hno e he
  numbered i operation hop := (h.numbered i operation (hops i operation hop)).trans_le hnext
  underWay context hunder := by
    refine h.underWay context ?_
    cases hunder with
    | operation hop hfor => exact .operation (hops _ _ hop) hfor
    | deferred hlookup => exact .deferred (hdeferred ▸ hlookup)
  active context hc := h.active context (hactive context hc)
  publications t context r ht hr hid :=
    h.publications t context r (hpublications t context r ht hr hid) hr hid

lemma emit (h : StartsNothing c a b) {event : Event} (hevent : ¬ event.SubmitsTimeout c) :
    StartsNothing c a (b.emit event) :=
  h.update rfl (Grown.emit (.refl b) hevent) le_rfl (fun _ _ h => h) rfl (fun _ h => h)
    fun _ _ _ h _ _ => h

lemma taken (h : StartsNothing c a b) (i : ℕ) (rest : List CommandDatabaseResult) :
    StartsNothing c a (b.taken i rest) :=
  h.update rfl ⟨[], rfl, by simp⟩ le_rfl (fun _ _ h => (Map.lookup_erase_some.mp h).2) rfl
    (fun _ h => h) fun _ _ _ h _ _ => h

/-- The trace after a submission. -/
lemma grown_submit (h : StartsNothing c a b) {kind : OperationKind} {context : RequestContext}
    {task : CommandDatabaseTask}
    (htask : ∀ i accepted, ¬ (Event.submitted i task accepted).SubmitsTimeout c) :
    Grown (fun e => ¬ e.SubmitsTimeout c) a (b.submit cfg kind context task).2 := by
  obtain ⟨es, hes, hno⟩ := h.grown
  rcases submit_cases cfg b kind context task with heq | heq <;> rw [heq]
  · exact ⟨.submitted b.nextOperationId task true :: es, congrArg _ hes,
      List.forall_mem_cons.mpr ⟨htask _ _, hno⟩⟩
  · exact ⟨.submitted b.nextOperationId task false :: es, congrArg _ hes,
      List.forall_mem_cons.mpr ⟨htask _ _, hno⟩⟩

/-- An operation that carries no transition of the command. -/
lemma submit (h : StartsNothing c a b) {kind : OperationKind} {context : RequestContext}
    {task : CommandDatabaseTask} (hother : ¬ (Operation.mk kind context).IsFor c)
    (htask : ∀ i accepted, ¬ (Event.submitted i task accepted).SubmitsTimeout c) :
    StartsNothing c a (b.submit cfg kind context task).2 where
  past := (past_submit ..).trans h.past
  grown := h.grown_submit htask
  numbered i operation hop := by
    rcases submit_cases cfg b kind context task with heq | heq <;> rw [heq] at hop ⊢
    · rcases Map.lookup_insert_some.mp hop with ⟨rfl, _⟩ | ⟨_, hop⟩
      · exact Nat.lt_succ_self _
      · exact (h.numbered i operation hop).trans (Nat.lt_succ_self _)
    · exact (h.numbered i operation hop).trans (Nat.lt_succ_self _)
  underWay k hk := by
    rcases UnderWay.of_submit hk with hold | ⟨_, hfor⟩
    · exact h.underWay k hold
    · exact absurd hfor hother
  active k hk := h.active k (by rwa [activeCommands_submit] at hk)
  publications t k r ht hr hid := h.publications t k r (by rwa [publications_submit] at ht) hr hid

/-- The trace after a transition is formed. -/
lemma grown_form {context : RequestContext} {task : TransitionCommandTask}
    (h : Grown (fun e => ¬ e.SubmitsTimeout c) a b)
    (htask : ∀ i accepted, ¬ (Event.submitted i task.toTask accepted).SubmitsTimeout c) :
    Grown (fun e => ¬ e.SubmitsTimeout c) a (b.submitTransitionOrDefer cfg context task) := by
  obtain ⟨es, hes, hno⟩ := h
  rcases submitTransitionOrDefer_cases cfg b context task with heq | heq <;> rw [heq]
  · exact ⟨.submitted b.nextOperationId task.toTask true ::
      .formed task (b.replaced task.commandId) :: es, congrArg (_ :: _ :: ·) hes,
      List.forall_mem_cons.mpr ⟨htask _ _, List.forall_mem_cons.mpr ⟨id, hno⟩⟩⟩
  · exact ⟨.submitted b.nextOperationId task.toTask false ::
      .formed task (b.replaced task.commandId) :: es, congrArg (_ :: _ :: ·) hes,
      List.forall_mem_cons.mpr ⟨htask _ _, List.forall_mem_cons.mpr ⟨id, hno⟩⟩⟩

/-- The transition of another command. -/
lemma form (h : StartsNothing c a b) {context : RequestContext} {task : TransitionCommandTask}
    {d : CommandRecord} (hrecord : context.record = some d) (hid : d.commandId = task.commandId)
    (hother : task.commandId ≠ c) :
    StartsNothing c a (b.submitTransitionOrDefer cfg context task) where
  past := (past_form ..).trans h.past
  grown := grown_form h.grown fun _ _ hsubmits => hother hsubmits.1
  numbered i operation hop := by
    rcases submitTransitionOrDefer_cases cfg b context task with heq | heq <;> rw [heq] at hop ⊢
    · rcases Map.lookup_insert_some.mp hop with ⟨rfl, _⟩ | ⟨_, hop⟩
      · exact Nat.lt_succ_self _
      · exact (h.numbered i operation hop).trans (Nat.lt_succ_self _)
    · exact (h.numbered i operation hop).trans (Nat.lt_succ_self _)
  underWay k hk := by
    rcases UnderWay.of_form hrecord hid hk with hold | ⟨_, hc⟩
    · exact h.underWay k hold
    · exact absurd hc hother
  active k hk := h.active k (by rwa [activeCommands_submitTransitionOrDefer] at hk)
  publications t k r ht hr hc := h.publications t k r (by rwa [publications_form] at ht) hr hc

/-- The message of another command. -/
lemma publish (h : StartsNothing c a b) {answers : Answers} {context : RequestContext}
    {now : TimePoint}
    (hother : ∀ r, context.record = some r → r.commandId ≠ c) :
    StartsNothing c a (b.publishRecord cfg answers context now) := by
  rcases publishRecord_cases cfg answers b context now with
    heq | ⟨record, deviceId, payload, hrecord, _, _, _, heq | heq⟩ <;> rw [heq]
  · exact h
  · refine h.update rfl ⟨[_], rfl, by simp [Event.SubmitsTimeout]⟩ le_rfl (fun _ _ h => h) rfl
      (fun _ h => h) fun t k r ht hr hid => ?_
    rcases Map.lookup_insert_some.mp ht with ⟨_, rfl⟩ | ⟨_, ht⟩
    · exact absurd hid (hother r hr)
    · exact ht
  · refine StartsNothing.form (d := publishFailed record context.commandType now) ?_ rfl rfl
      (hother record hrecord)
    refine h.update rfl ⟨[_], rfl, by simp [Event.SubmitsTimeout]⟩ le_rfl (fun _ _ h => h) rfl
      (fun _ h => h) fun t k r ht hr hid => ?_
    rcases Map.lookup_insert_some.mp (Map.lookup_erase_some.mp ht).2 with ⟨_, rfl⟩ | ⟨_, ht⟩
    · exact absurd hid (hother r hr)
    · exact ht

end StartsNothing

namespace Busy

variable {cfg : CommandServiceConfig} {b b' : RuntimeBundle} {c : String}

lemma same (h : Busy b c) (hops : ∀ i, b'.operations.lookup i = b.operations.lookup i)
    (hdeferred : b'.deferredTransitions.lookup c = b.deferredTransitions.lookup c) : Busy b' c :=
  h.imp fun _ hk => hk.same hops hdeferred

lemma submit (h : Busy b c) (hb : Numbered b) (kind : OperationKind) (context : RequestContext)
    (task : CommandDatabaseTask) : Busy (b.submit cfg kind context task).2 c :=
  h.imp fun _ hk => hk.submit hb kind context task

lemma taken (h : Busy b c) {i : ℕ} (rest : List CommandDatabaseResult)
    (hother : ∀ operation, b.operations.lookup i = some operation → ¬ operation.IsFor c) :
    Busy (b.taken i rest) c :=
  h.imp fun _ hk => hk.taken rest hother

lemma form (h : Busy b c) (hb : Numbered b) {context : RequestContext}
    {task : TransitionCommandTask} (hother : task.commandId ≠ c) :
    Busy (b.submitTransitionOrDefer cfg context task) c :=
  h.imp fun _ hk => hk.form_other hb hother

lemma publish (h : Busy b c) (hb : Numbered b) {answers : Answers} {context : RequestContext}
    {now : TimePoint} (hother : ∀ r, context.record = some r → r.commandId ≠ c) :
    Busy (b.publishRecord cfg answers context now) c := by
  rcases publishRecord_cases cfg answers b context now with
    heq | ⟨record, deviceId, payload, hrecord, _, _, _, heq | heq⟩ <;> rw [heq]
  · exact h
  · exact h.same (fun _ => rfl) rfl
  · exact @Busy.form cfg (b.unsent cfg context record deviceId payload) c
      (h.same (fun _ => rfl) rfl) hb _ _ (hother record hrecord)

end Busy

end CnsServer
