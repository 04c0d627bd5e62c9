/-
Buffered device ACKs and the dispatch of their commands.

An ACK that comes early is kept until the dispatch of its command is stored.  The
result of the transition takes it out and handles it again.  The record becomes
dispatched in a second place, the answer to the search after a conflict, and there it
is neither handled again nor is the dispatch acknowledged: this happens if the
dispatch was stored but its confirmation was lost.

* `Input.SettlesUnseen`: the answer to such a search arrives;
* `EarlyPending`: ACKs are kept for commands that are remembered as pending;
* `Dispatches`: the dispatch is acknowledged, and a kept ACK is handled again;
* `early_acks_replayed`: both hold in every run without such an answer.
-/
import CnsServer.Invariants.PendingMemory
import CnsServer.Runtime.Scenario

namespace CnsServer

open RuntimeBundle CommandStatus

/-- The next result answers the search after a conflict: the row is dispatched, as the
transition wanted it, and the command is remembered as pending. -/
def Input.SettlesUnseen (b : RuntimeBundle) : Input → Prop
  | .processNext _ _ => ∃ i operation desired current rest,
      b.databaseResults = ⟨i, .ok (.found (some current))⟩ :: rest ∧
        b.operations.lookup i = some operation ∧ operation.kind = .findByIdForConvergence ∧
        operation.context.record = some desired ∧ desired.status = .dispatched ∧
        current.status = .dispatched ∧ b.rememberedStatus current.commandId = some .pending
  | _ => False

/-- A buffered ACK is kept for a command that is remembered as pending. -/
def EarlyPending (b : RuntimeBundle) : Prop :=
  ∀ c early, b.earlyDeviceAcks.lookup c = some early → b.rememberedStatus c = some .pending

/-! ### How the memory changes -/

/-- What may become of the memory of a command and the ACK kept for it: both go, or a
result refreshes the memory, and takes the ACK out if it stores the dispatch. -/
structure Refreshes (b b' : RuntimeBundle) (c : String) (i : ℕ) (operation : Operation)
    (r : CommandRecord) (context : RequestContext) : Prop where
  remembers : Remembers b b' i operation r context
  commandId : r.commandId = c
  active : b'.activeCommands.lookup c = some context
  early : operation.kind = .transition → r.status = .dispatched →
    b'.earlyDeviceAcks.lookup c = none
  settled : operation.kind = .findByIdForConvergence → ∃ desired,
    operation.context.record = some desired ∧
      (r.status = desired.status ∨ r.status.canTransition desired.status = false)

/-- **How the memory of a command changes** in a tick. -/
lemma Tick.refreshes {cfg : CommandServiceConfig} {b b' : RuntimeBundle} (hw : Wellformed b)
    (htick : Tick cfg b b') (c : String) :
    b'.activeCommands.lookup c = b.activeCommands.lookup c ∨
      (b'.activeCommands.lookup c = none ∧ b'.earlyDeviceAcks.lookup c = none) ∨
      ∃ i operation r context, Refreshes b b' c i operation r context := by
  cases htick with
  | quiet hcore => exact .inl (hcore.activeCommands c)
  | @activate answers operationId operation rest record now hhead hop hkind hown hterm =>
      obtain ⟨own, hcontext, hsame⟩ := hw.insert_result hhead hop hkind hown
      by_cases hc : record.commandId = c
      · refine .inr (.inr ⟨operationId, operation, record, { operation.context with
          record := some record }, ⟨⟨.ok (.record record), ?_, rfl⟩, hop,
          .inl ⟨hkind, own, hcontext.record, hsame.commandId.symm⟩, hterm, rfl⟩, hc, ?_, ?_, ?_⟩)
        · rw [databaseResults_publishRecord]
          exact hhead
        · rw [activeCommands_publishRecord]
          exact Map.lookup_insert_some.mpr (.inl ⟨hc.symm, rfl⟩)
        · intro hk
          rw [hkind] at hk
          cases hk
        · intro hk
          rw [hkind] at hk
          cases hk
      · rw [activeCommands_publishRecord]
        exact .inl (AList.lookup_insert_ne (Ne.symm hc))
  | @refresh operationId operation rest record context now hhead hop hkind hterm hrecord =>
      by_cases hc : record.commandId = c
      · refine .inr (.inr ⟨operationId, operation, record, context, ⟨⟨_, hhead, rfl⟩, hop,
          .inr (.inl hkind), hterm, hrecord⟩, hc, Map.lookup_insert_some.mpr (.inl ⟨hc.symm, rfl⟩),
          fun _ hdispatched => ?_, fun hk => ?_⟩)
        · dsimp only
          rw [if_pos hdispatched, hc]
          exact AList.lookup_erase _ _
        · rw [hkind] at hk
          cases hk
      · exact .inl (AList.lookup_insert_ne (Ne.symm hc))
  | @settle operationId operation rest current desired hhead hop hkind hdesired hterm hsame =>
      by_cases hc : current.commandId = c
      · refine .inr (.inr ⟨operationId, operation, current, { operation.context with
          record := some current, target := b.targetFor current }, ⟨⟨_, hhead, rfl⟩, hop,
          .inr (.inr hkind), hterm, rfl⟩, hc, Map.lookup_insert_some.mpr (.inl ⟨hc.symm, rfl⟩),
          fun hk => ?_, fun _ => ⟨desired, hdesired, hsame⟩⟩)
        rw [hkind] at hk
        cases hk
      · exact .inl (AList.lookup_insert_ne (Ne.symm hc))
  | @finish operationId operation rest record value context now =>
      by_cases hc : record.commandId = c
      · subst hc
        exact .inr (.inl ⟨AList.lookup_erase _ _, AList.lookup_erase _ _⟩)
      · exact .inl (AList.lookup_erase_ne (Ne.symm hc))
  | @finished operationId operation rest record =>
      by_cases hc : record.commandId = c
      · subst hc
        exact .inr (.inl ⟨AList.lookup_erase _ _, AList.lookup_erase _ _⟩)
      · exact .inl (AList.lookup_erase_ne (Ne.symm hc))
  -- everything else leaves the active commands alone
  | find => exact .inl (by rw [activeCommands_submit])
  | cleanup => exact .inl (by rw [activeCommands_submit])
  | create => exact .inl (by rw [activeCommands_submit]; rfl)
  | conflict => exact .inl (by rw [activeCommands_submit]; rfl)
  | converge => exact .inl (by rw [activeCommands_submitTransitionOrDefer]; rfl)
  | deviceAck => exact .inl (by rw [activeCommands_applyDeviceAck]; rfl)
  | buffer => exact .inl (by rw [activeCommands_bufferEarlyAck]; rfl)
  | timeout => exact .inl (by rw [activeCommands_submitTimeout])
  | republish => exact .inl (by rw [activeCommands_publishRecord])
  | complete => exact .inl (by rw [activeCommands_handleCompletion])
  | retry => exact .inl (by rw [activeCommands_retryDeferred])
  | worker => exact .inl rfl
  | mqtt => exact .inl rfl
  | device => exact .inl rfl
  | consumed => exact .inl rfl

/-- **A command that is remembered as pending is refreshed** by the result of its
dispatch, or by a search that finds it dispatched. -/
lemma Refreshes.dispatched {b b' : RuntimeBundle} (ht : Traced b) (hr : Remembering b)
    {c : String} {i : ℕ} {operation : Operation} {r : CommandRecord} {context : RequestContext}
    (h : Refreshes b b' c i operation r context)
    (hpending : b.rememberedStatus c = some .pending) :
    r.status = .dispatched ∧ ∃ d, operation.context.record = some d ∧ d.status = .dispatched ∧
      ((operation.kind = .transition ∧
          b.databaseResults = ⟨i, .ok (.record r)⟩ :: b'.databaseResults) ∨
        (operation.kind = .findByIdForConvergence ∧
          b.databaseResults = ⟨i, .ok (.found (some r))⟩ :: b'.databaseResults)) := by
  obtain ⟨old, -, hactive, -⟩ := rememberedStatus_eq_some.mp hpending
  have hold : b.activeCommands.lookup r.commandId = some old := h.commandId.symm ▸ hactive
  have hcommitted : r ∈ committedRows b.trace := by
    obtain ⟨value, hhead, hreported⟩ := h.remembers.head
    exact ht.sound.ledger.report_committed r
      (mem_reportedRows.mpr ⟨_, by rw [hhead]; exact List.mem_cons_self, hreported⟩)
  -- it is neither pending nor in progress, and it is not terminal
  have hdispatched : r.status = .dispatched := by
    have hnot := ht.not_pending h.remembers hold
    have hprogress := hr.not_inProgress ht hpending hcommitted h.commandId
    have hopen := h.remembers.isTerminal
    cases hstatus : r.status with
    | dispatched => rfl
    | pending => exact absurd hstatus hnot
    | inProgress => exact absurd hstatus hprogress
    | _ => rw [hstatus] at hopen; cases hopen
  refine ⟨hdispatched, ?_⟩
  rcases ht.remembered h.remembers hold with
    ⟨hkind, hhead, m, cause, d, hd, hdesire, hstatus⟩ | ⟨hkind, hhead, m, cause, d, hd, hdesire, _⟩
  · exact ⟨d, hd, hstatus.symm.trans hdispatched, .inl ⟨hkind, hhead⟩⟩
  · refine ⟨d, hd, ?_, .inr ⟨hkind, hhead⟩⟩
    obtain ⟨desired, hdesired, hsettled⟩ := h.settled hkind
    rw [hd] at hdesired
    cases hdesired
    rw [hdispatched] at hsettled
    rcases hsettled with hsame | hcannot
    · exact hsame.symm
    · have hnot := hdesire.record ▸ Cause.desired_ne_pending m cause
      cases hstatus : d.status with
      | dispatched => rfl
      | pending => exact absurd hstatus hnot
      | _ => rw [hstatus] at hcannot; cases hcannot

/-- Unless a search finds it dispatched, the memory of a pending command is refreshed
by the result of its dispatch only. -/
lemma Refreshes.stored {b b' : RuntimeBundle} (ht : Traced b) (hr : Remembering b)
    {c : String} {i : ℕ} {operation : Operation} {r : CommandRecord} {context : RequestContext}
    (h : Refreshes b b' c i operation r context)
    (hpending : b.rememberedStatus c = some .pending) {answers : Answers} {now : TimePoint}
    (hok : ¬ (Input.processNext answers now).SettlesUnseen b) :
    r.status = .dispatched ∧ operation.kind = .transition ∧
      b.databaseResults = ⟨i, .ok (.record r)⟩ :: b'.databaseResults ∧
      ∃ d, operation.context.record = some d ∧ d.status = .dispatched := by
  obtain ⟨hdispatched, d, hd, hstatus, ⟨hkind, hhead⟩ | ⟨hkind, hhead⟩⟩ :=
    h.dispatched ht hr hpending
  · exact ⟨hdispatched, hkind, hhead, d, hd, hstatus⟩
  · exact absurd ⟨i, operation, d, r, _, hhead, h.remembers.found, hkind, hd, hstatus, hdispatched,
      h.commandId.symm ▸ hpending⟩ hok

/-! ### The invariant -/

namespace EarlyPending

variable {cfg : CommandServiceConfig} {b b' : RuntimeBundle}

lemma tick (ht : Traced b) (hr : Remembering b) (h : EarlyPending b) (htick : Tick cfg b b')
    (hwhen : (∃ answers now, ¬ (Input.processNext answers now).SettlesUnseen b) ∨
      b.databaseResults.length ≤ b'.databaseResults.length) : EarlyPending b' := by
  intro c early hearly
  have hpending : b.rememberedStatus c = some .pending := by
    rcases htick.early hearly with hold | ⟨context, ack, hnew⟩
    · exact h c early hold
    · exact Option.bind_eq_some_iff.mpr ⟨context, hnew.active, hnew.pending⟩
  rcases htick.refreshes ht.sound.wellformed c with hsame | ⟨_, hnone⟩ |
    ⟨i, operation, r, context', hrefresh⟩
  · rwa [rememberedStatus, hsame]
  · rw [hnone] at hearly
    cases hearly
  · -- a result has been taken, and it is that of the dispatch
    obtain ⟨value, hhead, _⟩ := hrefresh.remembers.head
    obtain ⟨answers, now, hok⟩ := hwhen.resolve_right (by rw [hhead, List.length_cons]; omega)
    obtain ⟨hdispatched, hkind, _⟩ := hrefresh.stored ht hr hpending hok
    rw [hrefresh.early hkind hdispatched] at hearly
    cases hearly

lemma restarted (hrestart : Restarted cfg b b') : EarlyPending b' := by
  intro c early hearly
  rw [hrestart.earlyDeviceAcks] at hearly
  cases hearly

lemma blank : EarlyPending .blank := fun _ _ hearly => (by cases hearly)

end EarlyPending

/-- The invariants of the runs in which no dispatch is settled unseen. -/
lemma earlyPending_of_reachable {cfg : CommandServiceConfig} {b : RuntimeBundle}
    (hb : ((routeService cfg).restrict fun b input => ¬ input.SettlesUnseen b).Reachable b) :
    EarlyPending b :=
  (restricted_of_ticks (P := fun b => (Traced b ∧ Remembering b) ∧ EarlyPending b)
    ⟨⟨.blank, .blank⟩, .blank⟩
    (fun _ _ h hrestart _ => ⟨⟨h.1.1.restarted hrestart, .restarted hrestart⟩,
      .restarted hrestart⟩)
    (fun _ _ h htick hwhen => ⟨⟨h.1.1.tick htick, .tick h.1.1 h.1.2 htick⟩,
      .tick h.1.1 h.1.2 h.2 htick hwhen⟩) hb).2

/-- **Without a result the memory of a command stays**, or it is given up. -/
lemma Idle.memory {cfg : CommandServiceConfig} {T : Limits} {b b' : RuntimeBundle}
    (hw : Wellformed b) (hidle : Idle T cfg b b') (c : String) :
    b'.activeCommands.lookup c = b.activeCommands.lookup c ∨
      b'.activeCommands.lookup c = none := by
  induction hidle with
  | refl => exact .inl rfl
  | @tail m m' hfirst hlast ih =>
      rcases Tick.refreshes (hw.ticks (Idle.ticks hfirst)) hlast.1.tick c with hsame | ⟨hnone, _⟩ |
        ⟨i, operation, r, context, hrefresh⟩
      · rw [hsame]
        exact ih
      · exact .inr hnone
      · obtain ⟨value, hhead, _⟩ := hrefresh.remembers.head
        have hshort := hlast.2
        rw [hhead, List.length_cons] at hshort
        omega

/-! ### The dispatch -/

/-- The dispatch of a command is acknowledged to its source, and the command is active
as dispatched, with no ACK kept for it. -/
structure Dispatches (cfg : CommandServiceConfig) (log : List Event) (m : RuntimeBundle)
    (context : RequestContext) (r : CommandRecord) (now : TimePoint) : Prop where
  acked : ∃ es target, m.log = es ++ .acked
    (sourceAckTopic cfg.topicNamespace r.sourceId r.commandType)
    (buildSourceAck r target now) .lifecycle :: log
  record : context.record = some r
  status : r.status = .dispatched
  active : m.activeCommands.lookup r.commandId = some context
  early : m.earlyDeviceAcks.lookup r.commandId = none

/-- **The rest of the result of a dispatch** acknowledges it, and handles the buffered
ACK again. -/
lemma finishStored_dispatched {cfg : CommandServiceConfig} (b : RuntimeBundle) (answers : Answers)
    {own : RequestContext} {r : CommandRecord} {now : TimePoint}
    (htype : own.commandType = r.commandType) (hsource : own.sourceId = r.sourceId)
    (hdispatched : r.status = .dispatched) :
    ∃ m context, Dispatches cfg b.log m context r now ∧
      (∀ early, b.earlyDeviceAcks.lookup r.commandId = some early →
        b.finishStored cfg answers .transition own r now =
          m.handleDeviceAck cfg early.deviceId early.payload context.commandType
            early.receivedAt) ∧
      (b.earlyDeviceAcks.lookup r.commandId = none →
        b.finishStored cfg answers .transition own r now = m) := by
  obtain ⟨es, businessStatus, _, heq⟩ := Turn.informPersisted_eq
    (b.emit (.acked (sourceAckTopic cfg.topicNamespace own.sourceId own.commandType)
      (buildSourceAck r own.target now) .lifecycle)) { own with record := some r }
    (OperationKind.transition = .transition && own.record.map (·.status) = some .dispatched &&
      r.status = .dispatched) r.status
  have hopen : ¬ r.status.isTerminal = true := by
    rw [hdispatched]
    exact Bool.false_ne_true
  have hlog : es ++ (b.emit (.acked (sourceAckTopic cfg.topicNamespace own.sourceId
      own.commandType) (buildSourceAck r own.target now) .lifecycle)).log =
        es ++ .acked (sourceAckTopic cfg.topicNamespace r.sourceId r.commandType)
          (buildSourceAck r own.target now) .lifecycle :: b.log := by
    rw [htype, hsource]
    rfl
  cases hearly : b.earlyDeviceAcks.lookup r.commandId with
  | none =>
      refine ⟨{ b with
          log := es ++ (b.emit (.acked (sourceAckTopic cfg.topicNamespace own.sourceId
            own.commandType) (buildSourceAck r own.target now) .lifecycle)).log
          activeCommands := b.activeCommands.insert r.commandId
            { own with record := some r, deviceAckBusinessStatus := businessStatus } },
        { own with record := some r, deviceAckBusinessStatus := businessStatus },
        ⟨⟨es, own.target, hlog⟩, rfl, hdispatched, AList.lookup_insert _, hearly⟩,
        fun early h => (by cases h), fun _ => ?_⟩
      rw [finishStored]
      dsimp only [publishAck]
      rw [heq]
      dsimp only
      rw [if_neg hopen, if_pos hdispatched]
      split
      · next early h => cases hearly.symm.trans h
      · rfl
  | some early =>
      refine ⟨{ b with
          log := es ++ (b.emit (.acked (sourceAckTopic cfg.topicNamespace own.sourceId
            own.commandType) (buildSourceAck r own.target now) .lifecycle)).log
          activeCommands := b.activeCommands.insert r.commandId
            { own with record := some r, deviceAckBusinessStatus := businessStatus }
          earlyDeviceAcks := b.earlyDeviceAcks.erase r.commandId },
        { own with record := some r, deviceAckBusinessStatus := businessStatus },
        ⟨⟨es, own.target, hlog⟩, rfl, hdispatched, AList.lookup_insert _, AList.lookup_erase _ _⟩,
        fun early' h => ?_, fun h => by cases h⟩
      cases h
      rw [finishStored]
      dsimp only [publishAck]
      rw [heq]
      dsimp only
      rw [if_neg hopen, if_pos hdispatched]
      split
      · next early' h =>
          cases hearly.symm.trans h
          rfl
      · next h => cases hearly.symm.trans h

/-- **The result of the dispatch** is handled so. -/
lemma processNext_dispatched {cfg : CommandServiceConfig} {b : RuntimeBundle} (hw : Wellformed b)
    (answers : Answers) (now : TimePoint) {i : ℕ} {operation : Operation}
    {rest : List CommandDatabaseResult} {r d : CommandRecord}
    (hhead : b.databaseResults = ⟨i, .ok (.record r)⟩ :: rest)
    (hop : b.operations.lookup i = some operation) (hkind : operation.kind = .transition)
    (hd : operation.context.record = some d) (hdesired : d.status = .dispatched)
    (hdispatched : r.status = .dispatched) :
    ∃ m context, Dispatches cfg b.log m context r now ∧
      (∀ early, b.earlyDeviceAcks.lookup r.commandId = some early →
        b.processNext cfg answers now = m.handleDeviceAck cfg early.deviceId early.payload
          context.commandType early.receivedAt) ∧
      (b.earlyDeviceAcks.lookup r.commandId = none → b.processNext cfg answers now = m) := by
  obtain ⟨own, hcontext, hsame, _⟩ := hw.transition_result hhead hop hkind
  have hopen : d.status.isTerminal = false := by
    rw [hdesired]
    rfl
  have hnext : b.processNext cfg answers now =
      (b.taken i rest).finishStored cfg answers .transition operation.context r now := by
    unfold RuntimeBundle.processNext
    rw [hhead]
    dsimp only
    rw [Turn.handleResult_found hop]
    simp only [handleValue, hkind, handleTransitionResult, hd, hopen, Bool.false_and,
      Bool.false_eq_true, reduceIte]
  rw [hnext]
  exact finishStored_dispatched (b.taken i rest) answers
    (hcontext.commandType.trans hsame.commandType.symm)
    (hcontext.sourceId.trans hsame.sourceId.symm) hdispatched

/-! ### Runs -/

/-- **Buffered ACKs are for pending commands, and the dispatch replays them.**  In a
run in which no dispatch is settled unseen, an ACK is kept only for a command that is
remembered as pending; and whenever the memory of a command goes from pending to
dispatched, the dispatch is acknowledged to the source and the ACK that was kept is
handled again. -/
theorem early_acks_replayed {cfg : CommandServiceConfig} {b : RuntimeBundle}
    (hb : ((routeService cfg).restrict fun b input => ¬ input.SettlesUnseen b).Reachable b) :
    EarlyPending b ∧
    ∀ input : Input, input.Enabled cfg b → ¬ input.SettlesUnseen b →
      (∀ sources devices now, input ≠ .restart sources devices now) →
      ∀ c, b.rememberedStatus c = some .pending →
        (input.apply cfg b).rememberedStatus c = some .dispatched →
        ∃ answers now m context r, input = .processNext answers now ∧ r.commandId = c ∧
          Dispatches cfg b.log m context r now ∧
          (∀ early, b.earlyDeviceAcks.lookup c = some early →
            input.apply cfg b = m.handleDeviceAck cfg early.deviceId early.payload
              context.commandType early.receivedAt) ∧
          (b.earlyDeviceAcks.lookup c = none → input.apply cfg b = m) := by
  refine ⟨earlyPending_of_reachable hb, fun input henabled hok hrestart c hpending hnow => ?_⟩
  have ht := traced_of_reachable hb.of_restrict
  have hw := ht.sound.wellformed
  -- only the first tick of an input can change what is remembered
  have hkept : ∀ {m : RuntimeBundle}, Wellformed m → Idle .any cfg m (input.apply cfg b) →
      m.rememberedStatus c = some .dispatched := by
    intro m hm hidle
    rcases Idle.memory hm hidle c with hsame | hnone
    · rwa [rememberedStatus, hsame] at hnow
    · rw [rememberedStatus, hnone] at hnow
      cases hnow
  rcases input.turn henabled (input.meets_any cfg b) hrestart with
    hidle | ⟨⟨answers, now, rfl⟩, m, hfirst, hrest⟩
  · have hsame := hkept hw hidle
    rw [hpending] at hsame
    cases hsame
  · have hm := hkept (hw.tick hfirst) hrest
    rcases Tick.refreshes hw hfirst c with hsame | ⟨hnone, _⟩ |
      ⟨i, operation, r, context, hrefresh⟩
    · rw [rememberedStatus, hsame] at hm
      exact absurd (hm.symm.trans hpending) (by simp)
    · rw [rememberedStatus, hnone] at hm
      cases hm
    · obtain ⟨hdispatched, hkind, hhead, d, hd, hdesired⟩ :=
        hrefresh.stored ht (remembering_of_reachable hb.of_restrict) hpending hok
      obtain rfl := hrefresh.commandId
      obtain ⟨m', context', hdispatches, hsome, hnone⟩ := processNext_dispatched hw answers now
        hhead hrefresh.remembers.found hkind hd hdesired hdispatched
      exact ⟨answers, now, m', context', r, rfl, rfl, hdispatches, hsome, hnone⟩

lemma not_settlesUnseen {b : RuntimeBundle} (h : b.findsRow = false) (input : Input) :
    ¬ input.SettlesUnseen b := by
  cases input with
  | processNext answers now =>
      rintro ⟨i, operation, desired, current, rest, hhead, -⟩
      rw [RuntimeBundle.findsRow, hhead] at h
      cases h
  | _ => exact id

/-- A configuration is published, the device answers before the publication
completes, and the dispatch is on its way to the worker. -/
def Sample.answeredEarly : List PlainInput :=
  Sample.submitted .config true ++
    [.tryPush ⟨"cns/dev1/config/ack", Sample.appliedAck.1, 6⟩,
      .processNext PlainInput.unusedUuid true 6, .pushPublishCompletion ⟨1, true⟩,
      .processNext PlainInput.unusedUuid true 6]

/-- The worker stores the dispatch. -/
def Sample.storedEarly : List PlainInput :=
  Sample.answeredEarly ++ [.worker (.runCommand .completed)]

/-- The result of the dispatch handles the answer again. -/
theorem early_acks_replayed_answered : ∃ m context r, r.commandId = Sample.commandId ∧
    Dispatches Sample.config (play Sample.config Sample.started Sample.storedEarly).log m
      context r 7 ∧
    ∃ early : EarlyDeviceAck, early.payload = Sample.appliedAck.1 ∧
      (Input.processNext (.plain PlainInput.unusedUuid true) 7).apply Sample.config
          (play Sample.config Sample.started Sample.storedEarly) =
        m.handleDeviceAck Sample.config early.deviceId early.payload context.commandType
          early.receivedAt := by
  have hb : ((routeService Sample.config).restrict fun b input =>
      ¬ input.SettlesUnseen b).Reachable (play Sample.config Sample.started Sample.storedEarly) :=
    @reachable_of_admitted Sample.config _ (fun b _ => !b.findsRow)
      (fun b input h => not_settlesUnseen (by simpa using h) (input.toInput b)) _
      (reachable_firstStart Sample.config _ Sample.sources
        (DeviceRegistry.empty.put (Sample.device .online))) _ (by decide +kernel)
  have henabled : (PlainInput.processNext PlainInput.unusedUuid true 7).admitted Sample.config
      (play Sample.config Sample.started Sample.storedEarly) = true := by decide +kernel
  have hkept : ((play Sample.config Sample.started Sample.storedEarly).earlyDeviceAcks.lookup
      Sample.commandId).map (·.payload) = some Sample.appliedAck.1 := by decide +kernel
  obtain ⟨early, hearly, hpayload⟩ := Option.map_eq_some_iff.mp hkept
  obtain ⟨_, _, m, context, r, ⟨⟩, hid, hdispatches, hreplayed, _⟩ := (early_acks_replayed hb).2 _
    (PlainInput.enabled_of_admitted henabled)
    (not_settlesUnseen (by decide +kernel) _) (by rintro _ _ _ ⟨⟩) Sample.commandId
    (by decide +kernel) (by decide +kernel)
  exact ⟨m, context, r, hid, hdispatches, early, hpayload, hreplayed early hearly⟩

/-- The device answers early, and the confirmation of the dispatch is lost: the worker
reconnects and tries again, and the service has looked the row up. -/
def Sample.searchedEarly : List PlainInput :=
  Sample.answeredEarly ++ [.worker (.runCommand (.lost true)), .worker (.reconnect .connected)] ++
    Sample.answered true 7 ++ [.worker (.runCommand .completed)]

/-- The service handles the answer to the search. -/
def Sample.settledUnseen : List PlainInput :=
  Sample.searchedEarly ++ [.processNext PlainInput.unusedUuid true 8]

/-- **The search settles the dispatch unseen**: the memory of the command goes from
pending to dispatched, but its source has been told nothing, and the answer of the
device is still kept. -/
theorem early_ack_kept_settledUnseen :
    (routeService Sample.config).Reachable
        (play Sample.config Sample.started Sample.settledUnseen) ∧
      (play Sample.config Sample.started Sample.searchedEarly).rememberedStatus Sample.commandId =
        some .pending ∧
      (play Sample.config Sample.started Sample.settledUnseen).rememberedStatus Sample.commandId =
        some .dispatched ∧
      sourceAcks (play Sample.config Sample.started Sample.settledUnseen).trace = [] ∧
      ¬ EarlyPending (play Sample.config Sample.started Sample.settledUnseen) := by
  have hstatus : (play Sample.config Sample.started Sample.settledUnseen).rememberedStatus
      Sample.commandId = some .dispatched := by decide +kernel
  have hkept : ((play Sample.config Sample.started Sample.settledUnseen).earlyDeviceAcks.lookup
      Sample.commandId).isSome = true := by decide +kernel
  refine ⟨reachable_of_played (reachable_firstStart Sample.config (fun _ _ => True) Sample.sources
    (DeviceRegistry.empty.put (Sample.device .online))).of_restrict (by decide +kernel),
    by decide +kernel, hstatus, by decide +kernel, fun hpending => ?_⟩
  obtain ⟨early, hearly⟩ := Option.isSome_iff_exists.mp hkept
  have hother := hpending _ _ hearly
  rw [hstatus] at hother
  cases hother

end CnsServer
