/-
What a source may conclude from the ACKs it receives.

* `acks_follow_rows`: an acknowledged status is one the row has committed
  before; the acknowledged statuses of a command follow the status graph; a
  terminal status is final in the table and in the ACKs;
* `terminal_ack_once`: the terminal status of a command is acknowledged once in
  its course, when it leaves the active commands for good.
-/
import CnsServer.Invariants.Lifecycle
import CnsServer.Runtime.Scenario

namespace CnsServer

open RuntimeBundle CommandStatus

/-- **Acknowledged statuses follow the rows**, in every run: an ACK for a command
carries a status its row has committed before; later ACKs of a command are not
below earlier ones; nothing is written to a row once it is terminal, and its
status stays for the rest of the run; so at most one terminal status is ever
acknowledged for a command. -/
theorem acks_follow_rows {cfg : CommandServiceConfig} {b : RuntimeBundle}
    (hb : (routeService cfg).Reachable b) :
    (∀ newer topic ack cause older c, b.trace = newer ++ .acked topic ack cause :: older →
      ack.commandId = some c →
        ∃ r ∈ committedRows older, r.commandId = c ∧ r.status = ack.status) ∧
    ((sourceAcks b.trace).Pairwise fun later earlier => ∀ c, later.commandId = some c →
      earlier.commandId = some c → StatusLe earlier.status later.status) ∧
    ((committedRows b.trace).Pairwise fun later earlier => later.commandId = earlier.commandId →
      earlier.status.isTerminal = false) ∧
    (∀ inputs b', (routeService cfg).Run b inputs b' → ∀ c r r',
      b.table.findCommandById c = some r → r.status.isTerminal = true →
        b'.table.findCommandById c = some r' → r'.status = r.status) ∧
    (∀ ack ∈ sourceAcks b.trace, ∀ ack' ∈ sourceAcks b.trace, ∀ c,
      ack.commandId = some c → ack'.commandId = some c → ack.status.isTerminal = true →
        ack'.status.isTerminal = true → ack.status = ack'.status) := by
  have hledger := ledger_of_reachable hb
  refine ⟨fun newer topic ack cause older c hsplit hc => ?_, hledger.acks_sorted,
    hledger.committed_sorted.imp fun hfollows hid => (hfollows hid).2,
    fun inputs b' hrun c r r' hr hterm hr' => ?_, fun ack hack ack' hack' c hc hc' ht ht' => ?_⟩
  · obtain ⟨r, hr, hid, hstatus⟩ := hledger.ack_committed newer topic ack cause older c hsplit hc
    rw [hc] at hid
    exact ⟨r, hr, (Option.some.inj hid).symm, hstatus.symm⟩
  · -- the row is a committed one, so every later row is above it
    have hcommitted : r ∈ committedRows b'.trace := by
      obtain ⟨es, hes⟩ := trace_suffix_of_run hb hrun
      rw [← hes, committedRows_append]
      exact List.mem_append_right _ (hledger.row_committed c r hr)
    have hid := CommandTable.findCommandById_commandId hr
    exact ((ledger_of_reachable (hb.run hrun)).committed_le_row r hcommitted r'
      (hid ▸ hr')).eq_of_isTerminal hterm
  · -- of two ACKs one is the earlier, and a terminal status is followed by itself only
    let Agree (x y : SourceAck) : Prop := ∀ c, x.commandId = some c → y.commandId = some c →
      x.status.isTerminal = true → y.status.isTerminal = true → x.status = y.status
    have hsorted : (sourceAcks b.trace).Pairwise Agree :=
      hledger.acks_sorted.imp fun hle c hc hc' _ ht' =>
        (hle c hc hc').eq_of_isTerminal ht'
    have hsymm : (sourceAcks b.trace).Pairwise (flip Agree) :=
      hsorted.imp fun hagree c hc hc' ht ht' => (hagree c hc' hc ht' ht).symm
    exact hsorted.forall_of_forall_of_flip (fun _ _ _ _ _ _ _ => rfl) hsymm hack hack' c hc hc'
      ht ht'

/-- A configuration command of the sample installation, up to its dispatch. -/
theorem acks_follow_rows_dispatched :
    (routeService Sample.config).Reachable
        (play Sample.config Sample.started (Sample.dispatched .config true)) ∧
      ((sourceAcks (play Sample.config Sample.started
        (Sample.dispatched .config true)).trace).map fun ack => (ack.commandId, ack.status)) =
          [(some Sample.commandId, .dispatched)] ∧
      ((sourceAcks (play Sample.config Sample.started
        (Sample.dispatched .config true)).trace).Pairwise fun later earlier => ∀ c,
          later.commandId = some c → earlier.commandId = some c →
            StatusLe earlier.status later.status) := by
  have hb := reachable_of_played
    (reachable_firstStart Sample.config (fun _ _ => True) Sample.sources
      (DeviceRegistry.empty.put (Sample.device .online))).of_restrict
    (show admittedAll Sample.config (fun _ _ => true) Sample.started
      (Sample.dispatched .config true) = true by decide +kernel)
  exact ⟨hb, by decide +kernel, (acks_follow_rows hb).2.1⟩

/-! ### Terminal ACKs -/

/-- The terminal ACKs a command got in its own course, latest first. -/
def terminalAcks (c : String) (events : List Event) : List SourceAck :=
  events.filterMap fun
    | .acked _ ack .lifecycle =>
        if ack.commandId = some c ∧ ack.status.isTerminal = true then some ack else none
    | _ => none

/-- The command leaves `active_commands_`. -/
def Leaves (b b' : RuntimeBundle) (c : String) : Prop :=
  (b.activeCommands.lookup c).isSome ∧ b'.activeCommands.lookup c = none

/-- The result of the command's insertion is taken, and its row is terminal
already. -/
def InsertedTerminal (b : RuntimeBundle) (input : Input) (c : String) : Prop :=
  (∃ answers now, input = .processNext answers now) ∧
    ∃ i operation own r rest, b.databaseResults = ⟨i, .ok (.record r)⟩ :: rest ∧
      b.operations.lookup i = some operation ∧ operation.kind = .insert ∧
      operation.context.record = some own ∧ own.commandId = c ∧ r.commandId = c ∧
      r.status.isTerminal = true

section TerminalAcks

variable {cfg : CommandServiceConfig} {b : RuntimeBundle} {c : String}

lemma terminalAcks_append (c : String) (es events : List Event) :
    terminalAcks c (es ++ events) = terminalAcks c es ++ terminalAcks c events :=
  List.filterMap_append

lemma mem_terminalAcks {events : List Event} {ack : SourceAck} :
    ack ∈ terminalAcks c events ↔ ∃ topic, .acked topic ack .lifecycle ∈ events ∧
      ack.commandId = some c ∧ ack.status.isTerminal = true := by
  rw [terminalAcks]
  rw [List.mem_filterMap]
  constructor
  · rintro ⟨e, he, heq⟩
    split at heq
    · split at heq
      · next h =>
          cases heq
          exact ⟨_, he, h⟩
      · cases heq
    · cases heq
  · rintro ⟨topic, he, h⟩
    exact ⟨_, he, if_pos h⟩

lemma terminalAcks_eq_nil : terminalAcks c b.trace = [] ↔ ¬ Closed b c := by
  rw [List.eq_nil_iff_forall_not_mem]
  constructor
  · rintro h ⟨e, he, hcloses⟩
    cases e with
    | acked topic ack cause =>
        cases cause with
        | lifecycle => exact h ack (mem_terminalAcks.mpr ⟨topic, he, hcloses⟩)
        | _ => exact hcloses.elim
    | _ => exact hcloses.elim
  · intro h ack hack
    obtain ⟨topic, he, hcloses⟩ := mem_terminalAcks.mp hack
    exact h ⟨_, he, hcloses⟩

/-- A command is closed once. -/
lemma length_terminalAcks (h : Lifecycle b) : (terminalAcks c b.trace).length ≤ 1 := by
  have hpair : (terminalAcks c b.trace).Pairwise fun _ _ => False := by
    refine List.pairwise_filterMap.mpr (h.once.imp fun {e e'} honce ack hack ack' hack' => ?_)
    have hcloses : ∀ {e : Event} {ack : SourceAck}, ack ∈ terminalAcks c [e] → e.Closes c := by
      intro e ack hack
      obtain ⟨topic, he, hcloses⟩ := mem_terminalAcks.mp hack
      rw [← List.mem_singleton.mp he]
      exact hcloses
    refine honce c (@hcloses e ack ?_) (@hcloses e' ack' ?_)
    · exact List.mem_filterMap.mpr ⟨e, List.mem_singleton_self e, hack⟩
    · exact List.mem_filterMap.mpr ⟨e', List.mem_singleton_self e', hack'⟩
  match hacks : terminalAcks c b.trace with
  | [] => exact Nat.zero_le 1
  | [_] => exact le_rfl
  | _ :: _ :: _ =>
      rw [hacks] at hpair
      exact ((List.pairwise_cons.mp hpair).1 _ List.mem_cons_self).elim

/-- The rest of a terminal insertion acknowledges it. -/
lemma closed_finishStored {answers : Answers} {kind : OperationKind} {context : RequestContext}
    {record : CommandRecord} {now : TimePoint} (hterm : record.status.isTerminal = true) :
    Closed (b.finishStored cfg answers kind context record now) record.commandId := by
  refine ⟨.acked (sourceAckTopic cfg.topicNamespace context.sourceId context.commandType)
    (buildSourceAck record context.target now) .lifecycle, ?_, buildSourceAck_commandId _ _ _, by
      rw [buildSourceAck_status]; exact hterm⟩
  rw [finishStored]
  dsimp only [publishAck]
  obtain ⟨es, businessStatus, _, heq⟩ := Turn.informPersisted_eq
    (b.emit (.acked (sourceAckTopic cfg.topicNamespace context.sourceId context.commandType)
      (buildSourceAck record context.target now) .lifecycle))
    { context with record := some record }
    (kind = .transition && context.record.map (·.status) = some .dispatched &&
      record.status = .dispatched) record.status
  rw [heq]
  dsimp only
  rw [if_pos hterm]
  rw [retire]
  obtain ⟨completed, _, hc⟩ := Turn.rememberCompletedCommand_eq cfg answers
    { b.emit (.acked (sourceAckTopic cfg.topicNamespace context.sourceId context.commandType)
        (buildSourceAck record context.target now) .lifecycle) with
      log := es ++ (b.emit (.acked (sourceAckTopic cfg.topicNamespace context.sourceId
        context.commandType) (buildSourceAck record context.target now) .lifecycle)).log }
    { context with record := some record, deviceAckBusinessStatus := businessStatus } now
  rw [hc]
  refine List.mem_append_left _ (List.mem_append_right _ ?_)
  exact List.mem_cons_self

lemma closed_of_insertedTerminal {answers : Answers} {now : TimePoint} {i : ℕ}
    {operation : Operation} {own r : CommandRecord} {rest : List CommandDatabaseResult}
    (hhead : b.databaseResults = ⟨i, .ok (.record r)⟩ :: rest)
    (hop : b.operations.lookup i = some operation) (hkind : operation.kind = .insert)
    (hown : operation.context.record = some own) (hid : own.commandId = r.commandId)
    (hterm : r.status.isTerminal = true) : Closed (b.processNext cfg answers now) r.commandId := by
  have heq : b.processNext cfg answers now = (b.taken i rest).finishStored cfg answers .insert
      operation.context r now := by
    obtain ⟨kind, context⟩ := operation
    cases hkind
    rw [processNext]
    rw [hhead]
    dsimp only
    rw [Turn.handleResult_found hop]
    dsimp only [handleValue, handleInsertResult]
    dsimp only at hown
    rw [hown]
    dsimp only
    rw [if_neg (not_not.mpr hid), if_pos hterm]
  rw [heq]
  exact closed_finishStored hterm

/-- **Who is closed by an input**: who leaves `active_commands_`, or is inserted
terminal. -/
lemma closed_step_iff (h : Sound b) {input : Input} (henabled : input.Enabled cfg b)
    (hrestart : ∀ sources devices now, input ≠ .restart sources devices now) :
    (¬ Closed b c ∧ Closed (input.apply cfg b) c) ↔
      Leaves b (input.apply cfg b) c ∨ InsertedTerminal b input c := by
  have hticks := Ticks.apply henabled hrestart
  constructor
  · rintro ⟨hopen, hclosed⟩
    rcases @Input.turn .any cfg b input henabled (input.meets_any cfg b) hrestart with
      hidle | ⟨hprocess, hturn⟩
    · exact absurd (hidle.closed h hclosed) hopen
    · rcases hturn.closed h hopen hclosed with hactive | hinserted
      · exact .inl ⟨hactive, (h.ticks hticks).lifecycle.closed_inactive c hclosed⟩
      · exact .inr ⟨hprocess, hinserted⟩
  · rintro (⟨hactive, hnone⟩ | ⟨⟨answers, now, rfl⟩, i, operation, own, r, rest, hhead, hop, hkind,
      hrecord, hown, rfl, hterm⟩)
    · constructor
      · intro hc
        rw [h.lifecycle.closed_inactive c hc] at hactive
        cases hactive
      · refine (hticks.stays h (.inl hactive)).resolve_left ?_
        rw [hnone]
        simp
    · refine ⟨?_, closed_of_insertedTerminal hhead hop hkind hrecord hown hterm⟩
      rintro ⟨e, he, hcloses⟩
      exact (h.lifecycle.unborn i operation own hop hkind hrecord).2 e he
        (hown ▸ hcloses.touches)

/-- The one terminal ACK of a command that is closed, with its committed status. -/
lemma terminalAcks_of_closed (h : Sound b) (hc : Closed b c) :
    ∃ ack, terminalAcks c b.trace = [ack] ∧
      (∃ r ∈ committedRows b.trace, r.commandId = c ∧ r.status = ack.status) ∧
      ∀ row, b.table.findCommandById c = some row → row.status = ack.status := by
  obtain ⟨ack, hone⟩ : ∃ ack, terminalAcks c b.trace = [ack] := by
    refine List.length_eq_one_iff.mp (le_antisymm (length_terminalAcks h.lifecycle) ?_)
    exact List.length_pos_iff.mpr fun hnil => terminalAcks_eq_nil.mp hnil hc
  obtain ⟨topic, he, hid, hterm⟩ :=
    mem_terminalAcks.mp (show ack ∈ terminalAcks c b.trace by rw [hone]; simp)
  obtain ⟨r, hr, hrid, hstatus⟩ :=
    h.ledger.ack_committed' (mem_sourceAcks.mpr ⟨topic, _, he⟩) hid
  rw [hid] at hrid
  have hrc : r.commandId = c := (Option.some.inj hrid).symm
  refine ⟨ack, hone, ⟨r, hr, hrc, hstatus.symm⟩, fun row hrow => ?_⟩
  rw [hstatus]
  exact (h.ledger.committed_le_row r hr row (hrc ▸ hrow)).eq_of_isTerminal (hstatus ▸ hterm)

/-- Nothing is added for a command that is not closed now. -/
lemma terminalAcks_kept {b' : RuntimeBundle} (h' : Sound b') (hsuffix : b.trace <:+ b'.trace)
    (hno : ¬ (¬ Closed b c ∧ Closed b' c)) :
    terminalAcks c b'.trace = terminalAcks c b.trace := by
  by_cases hc : Closed b c
  · -- the one ACK is there already
    obtain ⟨es, hes⟩ := hsuffix
    have hlen := @length_terminalAcks b' c h'.lifecycle
    have hpos : 0 < (terminalAcks c b.trace).length :=
      List.length_pos_iff.mpr fun hnil => terminalAcks_eq_nil.mp hnil hc
    rw [← hes, terminalAcks_append] at hlen ⊢
    rw [List.length_append] at hlen
    rw [List.length_eq_zero_iff.mp (show (terminalAcks c es).length = 0 by omega),
      List.nil_append]
  · rw [terminalAcks_eq_nil.mpr hc, terminalAcks_eq_nil.mpr fun hc' => hno ⟨hc, hc'⟩]

/-- A start acknowledges nothing. -/
lemma closed_restart (sources : SourceCatalog) (devices : DeviceRegistry) (now : TimePoint)
    (hc : Closed (b.restart cfg sources devices now) c) : Closed b c := by
  have hrestart := restart_spec cfg b sources devices now
  obtain ⟨written, _, hpast⟩ := hrestart.recovery
  obtain ⟨e, he, hcloses⟩ := hc
  rw [RuntimeBundle.trace, hpast, ← List.append_assoc] at he
  rcases List.mem_append.mp he with he | he
  · rcases List.mem_append.mp he with he | he
    · rcases hrestart.log e he with rfl | ⟨message, rfl⟩ <;> exact hcloses.elim
    · obtain ⟨r, _, rfl⟩ := List.mem_map.mp he
      exact hcloses.elim
  · exact ⟨e, he, hcloses⟩

end TerminalAcks

/-- **A terminal status is acknowledged once**, in every run: when the command
leaves `active_commands_`, or its row is inserted terminal already, the trace
gains the one terminal ACK of its course, with the status its row committed; no
other step, and no new process, sends one; every other terminal ACK is the replay
of a repeated request; and the command is never active again. -/
theorem terminal_ack_once {cfg : CommandServiceConfig} {b : RuntimeBundle}
    (hb : (routeService cfg).Reachable b) :
    (∀ input, input.Enabled cfg b →
      (∀ sources devices now, input ≠ .restart sources devices now) → ∀ c,
        (Leaves b (input.apply cfg b) c ∨ InsertedTerminal b input c →
          terminalAcks c b.trace = [] ∧
            ∃ ack, terminalAcks c (input.apply cfg b).trace = [ack] ∧
              (∃ r ∈ committedRows (input.apply cfg b).trace,
                r.commandId = c ∧ r.status = ack.status) ∧
              ∀ row, (input.apply cfg b).table.findCommandById c = some row →
                row.status = ack.status) ∧
        (¬ (Leaves b (input.apply cfg b) c ∨ InsertedTerminal b input c) →
          terminalAcks c (input.apply cfg b).trace = terminalAcks c b.trace)) ∧
    (∀ sources devices now c,
      terminalAcks c (b.restart cfg sources devices now).trace = terminalAcks c b.trace) ∧
    (∀ topic ack cause c, .acked topic ack cause ∈ b.trace → ack.commandId = some c →
      ack.status.isTerminal = true → cause = .lifecycle ∨ ∃ i payload, cause = .replay i payload) ∧
    (∀ c, terminalAcks c b.trace ≠ [] → ∀ inputs b', (routeService cfg).Run b inputs b' →
      b'.activeCommands.lookup c = none) := by
  have h := sound_of_reachable hb
  refine ⟨fun input henabled hrestart c => ?_, fun sources devices now c => ?_,
    fun topic ack cause c he hc hterm => ?_, fun c hc inputs b' hrun => ?_⟩
  · have hticks := Ticks.apply henabled hrestart
    have h' := h.ticks hticks
    rw [← closed_step_iff h henabled hrestart]
    refine ⟨fun ⟨hopen, hclosed⟩ => ⟨terminalAcks_eq_nil.mpr hopen, ?_⟩,
      terminalAcks_kept h' hticks.trace_suffix⟩
    exact terminalAcks_of_closed h' hclosed
  · have hrestart := restart_spec cfg b sources devices now
    obtain ⟨written, _, hpast⟩ := hrestart.recovery
    refine terminalAcks_kept (h.restarted hrestart)
      ⟨(b.restart cfg sources devices now).log ++ written.map .committed, ?_⟩
      fun ⟨hopen, hclosed⟩ => hopen (closed_restart sources devices now hclosed)
    rw [RuntimeBundle.trace, RuntimeBundle.trace, hpast, List.append_assoc]
    rfl
  · cases cause with
    | lifecycle => exact .inl rfl
    | replay i payload => exact .inr ⟨i, payload, rfl⟩
    | rejection i =>
        rw [h.ledger.rejections topic ack i he] at hc
        cases hc
  · have hclosed : Closed b c := by
      by_contra hopen
      exact hc (terminalAcks_eq_nil.mpr hopen)
    obtain ⟨e, he, hcloses⟩ := hclosed
    exact (sound_of_reachable (hb.run hrun)).lifecycle.closed_inactive c
      ⟨e, (trace_suffix_of_run hb hrun).subset he, hcloses⟩

/-- The failed publication of the sample command is stored, but the confirmation
is lost: the worker reconnects and tries again, and the service has looked the row
up. -/
def Sample.lostConfirmation : List PlainInput :=
  Sample.submitted .config true ++
    [.pushPublishCompletion ⟨1, false⟩, .processNext PlainInput.unusedUuid true 6,
      .worker (.runCommand (.lost true)), .worker (.reconnect .connected)] ++
    Sample.answered true 7 ++ [.worker (.runCommand .completed)]

/-- The retried update: the lookup's answer retires the command, with its one
ACK. -/
theorem terminal_ack_once_lostConfirmation :
    ∃ ack, terminalAcks Sample.commandId ((Input.processNext
      (.plain PlainInput.unusedUuid true) 8).apply Sample.config
      (play Sample.config Sample.started Sample.lostConfirmation)).trace = [ack] := by
  have hb : (routeService Sample.config).Reachable
      (play Sample.config Sample.started Sample.lostConfirmation) :=
    reachable_of_played (reachable_firstStart Sample.config (fun _ _ => True) Sample.sources
      (DeviceRegistry.empty.put (Sample.device .online))).of_restrict (by decide +kernel)
  have henabled : (PlainInput.processNext PlainInput.unusedUuid true 8).admitted Sample.config
      (play Sample.config Sample.started Sample.lostConfirmation) = true := by decide +kernel
  have hstep := (terminal_ack_once hb).1 _ (PlainInput.enabled_of_admitted henabled)
    (by rintro _ _ _ ⟨⟩) Sample.commandId
  obtain ⟨_, ack, hack, _⟩ := hstep.1 (.inl ⟨by decide +kernel, by decide +kernel⟩)
  exact ⟨ack, hack⟩

end CnsServer
