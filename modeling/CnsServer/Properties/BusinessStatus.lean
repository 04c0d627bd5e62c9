/-
The business status of a source ACK.

`BuildSourceAck` reads it from the device ACK in the row, which transitions set,
replace and clear together with the status.  The recovery statement of a start
writes the status `delivery_uncertain` and leaves the device ACK of an
`in_progress` command where it was.

* `BusinessStatusFits`: what the status and the error code of an ACK say about its
  business status;
* `Input.FindsNoProgress`: a start finds no control command in progress;
* `businessStatus_of_run`: in the runs whose starts meet it, every ACK fits.
-/
import CnsServer.Invariants.ReportedRows
import CnsServer.Runtime.Scenario

namespace CnsServer

open RuntimeBundle CommandStatus

/-! ### What fits -/

/-- The server has decided the status: nothing came from a device, or what came
last is the server's own timeout or routing failure. -/
def decidedByServer (status : CommandStatus) (errorCode : Option String) : Bool :=
  match status with
  | .pending | .dispatched | .deliveryUncertain => true
  | .timeout => errorCode = some "control_timeout" || errorCode = some "command_timeout"
  | .failed => errorCode ≠ some "device_rejected"
  | .inProgress | .succeeded => false

/-- The status of a command whose device reports this. -/
def statusOfDevice (deviceStatus : String) : Option CommandStatus :=
  [("applied", .succeeded), ("already_applied", .succeeded), ("accepted", .succeeded),
    ("rejected", .failed), ("in_progress", .inProgress), ("timeout", .timeout)].lookup deviceStatus

/-- The business status is absent if the server has decided, and otherwise a
device status that maps to the status. -/
def BusinessStatusFits (status : CommandStatus) (errorCode businessStatus : Option String) :
    Prop :=
  if decidedByServer status errorCode then businessStatus = none
  else businessStatus.bind statusOfDevice = some status

/-- The same of a row, whose business status is in the device ACK. -/
def RowFits (r : CommandRecord) : Prop :=
  BusinessStatusFits r.status r.errorCode (r.deviceAck.bind (·.stringField? "status"))

/-- The same of a source ACK.  One without a command id is a rejection before
anything was stored. -/
def AckFits (ack : SourceAck) : Prop :=
  if ack.commandId = none then ack.businessStatus = none
  else BusinessStatusFits ack.status (ack.error.map Prod.fst) ack.businessStatus

/-- The error of an ACK is that of the row, except where the status decides
alone. -/
lemma buildSourceAck_error (r : CommandRecord) (target : Option ResolvedTarget)
    (occurredAt : TimePoint) :
    (buildSourceAck r target occurredAt).error.map Prod.fst = r.errorCode ∨
      r.status = .deliveryUncertain := by
  rcases buildSourceAck_error_cases r target occurredAt with herror | ⟨huncertain, -⟩
  · refine .inl ?_
    rw [herror]
    cases r.errorCode <;> rfl
  · exact .inr huncertain

/-- **The ACK of a row fits if the row does.** -/
lemma RowFits.ack {r : CommandRecord} (h : RowFits r) (target : Option ResolvedTarget)
    (occurredAt : TimePoint) : AckFits (buildSourceAck r target occurredAt) := by
  rw [AckFits]
  rw [buildSourceAck_commandId, if_neg (by simp), buildSourceAck_status,
    buildSourceAck_businessStatus]
  rcases buildSourceAck_error r target occurredAt with herror | huncertain
  · rw [herror]
    exact h
  · unfold RowFits at h
    rw [huncertain] at h ⊢
    exact h

lemma businessStatusFits_iff_of_server {status : CommandStatus}
    {errorCode businessStatus : Option String} (h : decidedByServer status errorCode = true) :
    BusinessStatusFits status errorCode businessStatus ↔ businessStatus = none := by
  rw [BusinessStatusFits]
  rw [if_pos h]

/-- The statuses that the server decides whatever the error. -/
lemma decidedByServer_of_open {status : CommandStatus} (hopen : status.isTerminal = false)
    (hprogress : status ≠ .inProgress) (errorCode : Option String) :
    decidedByServer status errorCode = true := by
  cases status with
  | pending => rfl
  | dispatched => rfl
  | inProgress => exact absurd rfl hprogress
  | _ => cases hopen

/-! ### What transitions write -/

/-- The columns a transition writes fit each other. -/
def TaskFits (task : TransitionCommandTask) : Prop :=
  BusinessStatusFits task.desired task.update.errorCode
    (task.update.deviceAck.bind (·.stringField? "status"))

lemma rowFits_transitioned (r : CommandRecord) (task : TransitionCommandTask) :
    RowFits (r.transitioned task.desired task.update) ↔ TaskFits task := Iff.rfl

/-- The status that a device ACK asks for is the one its report maps to. -/
lemma statusOfDevice_desired {type : CommandType} {json : Option Json} {ack : DeviceAck}
    (h : parseDeviceAck type json = some ack) :
    (ack.raw.stringField? "status").bind statusOfDevice = some ack.desired := by
  obtain ⟨hstatus, hknown⟩ := parseDeviceAck_status h
  rw [hstatus]
  simp only [List.mem_cons, List.not_mem_nil, or_false] at hknown
  rw [DeviceAck.desired]
  rcases hknown with h | h | h | h | h | h <;> rw [h] <;> decide

/-- The record of a device ACK. -/
lemma rowFits_acknowledged {type : CommandType} {json : Option Json} {ack : DeviceAck}
    (h : parseDeviceAck type json = some ack) (m : CommandRecord) (type' : CommandType)
    (now : TimePoint) : RowFits (acknowledged m ack type' now) := by
  have hdevice := statusOfDevice_desired h
  have hraw : (acknowledged m ack type' now).deviceAck = some ack.raw := by
    rw [acknowledged]
    dsimp only
    split
    · rfl
    · split <;> rfl
  have hdecided : decidedByServer (acknowledged m ack type' now).status
      (acknowledged m ack type' now).errorCode = false := by
    rw [acknowledged, DeviceAck.desired]
    dsimp only
    repeat' split
    all_goals simp_all [decidedByServer]
  rw [RowFits, BusinessStatusFits]
  rw [hdecided, hraw, if_neg (by simp), (Wellformed.sameCommand_acknowledged m ack type' now).2]
  exact hdevice

/-- What the server asks for is its own decision. -/
lemma decidedByServer_publishCompleted (m : CommandRecord) (type : CommandType) (result : Bool)
    (now : TimePoint) (errorCode : Option String)
    (h : result = false → errorCode = (publishCompleted m type result now).errorCode) :
    decidedByServer (publishCompleted m type result now).status errorCode = true := by
  cases result with
  | true => rfl
  | false =>
      rw [h rfl]
      cases type <;> rfl

lemma decidedByServer_timedOut (m : CommandRecord) (type : CommandType) (now : TimePoint) :
    decidedByServer .timeout (timedOut m type now).errorCode = true := by
  cases type <;> rfl

/-- **The transition of a cause fits**: those of the server clear the device
ACK, and that of a device ACK writes it. -/
lemma taskFits_of_evidence {events : List Event} {m : CommandRecord} {cause : Cause}
    (h : cause.Evidence events m) : TaskFits (cause.task m) := by
  cases cause with
  | refused now => exact (businessStatusFits_iff_of_server rfl).mpr rfl
  | completed result now =>
      refine (businessStatusFits_iff_of_server ?_).mpr rfl
      exact decidedByServer_publishCompleted m _ result now _ fun hresult => by rw [hresult]; rfl
  | acknowledged ack now =>
      obtain ⟨deviceId, json, _, _, _, _, hparse⟩ := h
      have hfits := rowFits_acknowledged hparse m m.commandType now
      unfold RowFits at hfits
      rwa [(Wellformed.sameCommand_acknowledged m ack _ now).2] at hfits
  | expired now =>
      exact (businessStatusFits_iff_of_server (decidedByServer_timedOut m _ now)).mpr rfl

/-- **So does the transition after a conflict**, which copies the device ACK of
the remembered version: that version was not in progress. -/
lemma taskFits_again {events : List Event} {m : CommandRecord} {cause : Cause}
    (current : CommandRecord) (h : cause.Evidence events m)
    (hnone : m.deviceAck.bind (·.stringField? "status") = none) :
    TaskFits (againTask current (cause.desired m)) := by
  cases cause with
  | refused now => exact (businessStatusFits_iff_of_server rfl).mpr hnone
  | completed result now =>
      refine (businessStatusFits_iff_of_server
        (decidedByServer_publishCompleted m _ result now _ fun _ => rfl)).mpr ?_
      have hack : (publishCompleted m m.commandType result now).deviceAck = m.deviceAck := by
        rw [publishCompleted]
        split
        · rfl
        · split <;> rfl
      exact (congrArg (Option.bind · _) hack).trans hnone
  | acknowledged ack now =>
      obtain ⟨deviceId, json, _, _, _, _, hparse⟩ := h
      exact rowFits_acknowledged hparse m m.commandType now
  | expired now =>
      exact (businessStatusFits_iff_of_server (decidedByServer_timedOut m _ now)).mpr hnone

/-! ### Rows -/

/-- Nothing comes after `in_progress` but the end. -/
lemma isTerminal_of_inProgress_lt {s : CommandStatus} (h : StatusLt .inProgress s) :
    s.isTerminal = true := by
  have hrank := h.1.rank_le
  cases s with
  | inProgress => exact absurd rfl h.2
  | pending => cases hrank
  | dispatched => cases hrank with | step h' => cases h'
  | _ => rfl

lemma rowFits_of_isNew {command : CommandRecord} (h : IsNew command) : RowFits command.stored := by
  have hack : command.stored.deviceAck = none := h.deviceAck
  refine (businessStatusFits_iff_of_server ?_).mpr (by rw [hack]; rfl)
  rcases h.status with hpending | ⟨hfailed, code, hcode, herror⟩
  · exact decidedByServer_of_open (by rw [show command.stored.status = .pending from hpending]; rfl)
      (by rw [show command.stored.status = .pending from hpending]; simp) _
  · have hrejected : "device_rejected" ∉ newErrorCodes := by decide +kernel
    have hother : command.stored.errorCode ≠ some "device_rejected" := by
      rw [show command.stored.errorCode = some code from herror]
      rintro ⟨⟩
      exact hrejected hcode
    rw [show command.stored.status = .failed from hfailed]
    simpa [decidedByServer] using hother

/-- **The row of a task fits if those before it do.** -/
lemma rowFits_of_origin {b : RuntimeBundle} (ht : Traced b)
    (hrows : ∀ r ∈ committedRows b.trace, RowFits r) {r : CommandRecord}
    (h : TaskOrigin b.trace r) : RowFits r := by
  cases h with
  | inserted hcreated _ => exact rowFits_of_isNew (ht.created _ _ hcreated)
  | @moved row d task _ _ _ _ hasked =>
      rw [rowFits_transitioned]
      obtain ⟨m, cause, hdesire, rfl | ⟨current, _, _, hopen, hlt, _, rfl⟩⟩ := hasked
      · exact taskFits_of_evidence hdesire.evidence
      · have hprogress : m.status ≠ .inProgress := by
          intro heq
          rw [heq] at hlt
          rw [isTerminal_of_inProgress_lt hlt] at hopen
          cases hopen
        rw [hdesire.record]
        refine taskFits_again current hdesire.evidence ?_
        exact (businessStatusFits_iff_of_server
          (decidedByServer_of_open hdesire.isOpen hprogress m.errorCode)).mp (hrows m hdesire.row)

/-! ### Runs -/

/-- A new process finds no control command in progress. -/
def Input.FindsNoProgress (b : RuntimeBundle) : Input → Prop
  | .restart _ _ _ => ∀ c row, b.table.findCommandById c = some row →
      row.commandType = .control → row.status ≠ .inProgress
  | _ => True

/-- All rows and all ACKs so far fit. -/
structure Fitting (b : RuntimeBundle) : Prop where
  traced : Traced b
  rows : ∀ r ∈ committedRows b.trace, RowFits r
  acks : ∀ topic ack cause, .acked topic ack cause ∈ b.trace → AckFits ack

namespace Fitting

variable {cfg : CommandServiceConfig} {b b' : RuntimeBundle}

lemma tick (h : Fitting b) (htick : Tick cfg b b') : Fitting b' where
  traced := h.traced.tick htick
  rows r hr := by
    rcases h.traced.provenance.new_row h.traced.sound htick hr with hold | horigin
    · exact h.rows r hold
    · exact rowFits_of_origin h.traced h.rows horigin
  acks topic ack cause hacked := by
    have hreported : ∀ {i : ℕ} {value : Except DatabaseError CommandDatabaseValue}
        {rest : List CommandDatabaseResult} {r : CommandRecord},
        b.databaseResults = ⟨i, value⟩ :: rest → reported value = some r → RowFits r :=
      fun hhead hr => h.rows _ (Provenance.committed_of_head h.traced.sound hhead hr)
    rcases htick.acked_cases h.traced.sound.wellformed hacked with hold | horigin
    · exact h.acks topic ack cause hold
    · cases horigin with
      | rejection hrejection _ =>
          obtain ⟨_, _, _, _, _, _, _, rfl, -⟩ := hrejection
          rfl
      | replay hhead hr _ _ _ => exact (hreported hhead hr).ack _ _
      | lifecycle hhead hr _ _ => exact (hreported hhead hr).ack _ _

lemma restarted (h : Fitting b) (hrestart : Restarted cfg b b')
    (hnone : ∀ c row, b.table.findCommandById c = some row → row.commandType = .control →
      row.status ≠ .inProgress) : Fitting b' where
  traced := h.traced.restarted hrestart
  rows r hr := by
    rcases hrestart.new_row hr with hold | ⟨row, now, hrow, htype, hopen, rfl⟩
    · exact h.rows r hold
    · have hdecided := decidedByServer_of_open hopen (hnone _ row hrow htype) row.errorCode
      refine (businessStatusFits_iff_of_server rfl).mpr ?_
      exact (businessStatusFits_iff_of_server hdecided).mp
        (h.rows row (h.traced.sound.ledger.row_committed _ row hrow))
  acks topic ack cause hacked := h.acks topic ack cause (hrestart.acked hacked)

end Fitting

/-- **The business status of every ACK fits** in the runs whose starts find no
control command in progress. -/
theorem businessStatus_of_run {cfg : CommandServiceConfig} {b : RuntimeBundle}
    (hb : ((routeService cfg).restrict Input.FindsNoProgress).Reachable b) {topic : String}
    {ack : SourceAck} {cause : AckCause} (hacked : .acked topic ack cause ∈ b.trace) :
    AckFits ack := by
  have hblank : Fitting .blank :=
    { traced := .blank
      rows := fun r hr => by cases hr
      acks := fun topic ack cause h => by cases h }
  refine (@restricted_of_ticks cfg Input.FindsNoProgress Fitting hblank ?_
    (fun b b' h htick _ => h.tick htick) b hb).acks topic ack cause hacked
  intro b b' h hrestart hok
  refine h.restarted hrestart fun c row hrow htype => ?_
  rcases hok with rfl | ⟨_, _, _, hnone⟩
  · cases hrow
  · exact hnone c row hrow htype

/-! ### Commands across a restart -/

/-- The computable form of the condition. -/
def findsNoProgress (b : RuntimeBundle) : PlainInput → Bool
  | .restart _ => b.table.records.all fun row =>
      row.commandType ≠ .control || row.status ≠ .inProgress
  | _ => true

lemma findsNoProgress_of_test (b : RuntimeBundle) (input : PlainInput)
    (h : findsNoProgress b input = true) : (input.toInput b).FindsNoProgress b := by
  cases input with
  | restart now =>
      intro c row hrow htype
      have hid : row.commandId = c := CommandTable.findCommandById_commandId hrow
      have hmem : row ∈ b.table.records := CommandTable.mem_records.mpr (by rw [hid]; exact hrow)
      have hall := List.all_eq_true.mp h row hmem
      simpa [htype] using hall
  | _ => trivial

/-- Some ACK in the trace satisfies `p`. -/
def anyAck (p : SourceAck → Bool) (events : List Event) : Bool :=
  events.any fun
    | .acked _ ack _ => p ack
    | _ => false

lemma exists_of_anyAck {p : SourceAck → Bool} {events : List Event} (h : anyAck p events = true) :
    ∃ topic ack cause, .acked topic ack cause ∈ events ∧ p ack = true := by
  obtain ⟨event, hmem, hevent⟩ := List.any_eq_true.mp h
  cases event with
  | acked topic ack cause => exact ⟨topic, ack, cause, hmem, hevent⟩
  | _ => cases hevent

/-- A control command is published, and the process ends with the command in the
course it has then; the next process gets the same request again. -/
def Sample.interrupted (progress : Bool) : List PlainInput :=
  Sample.dispatched .control true ++
    (if progress then [.tryPush ⟨"cns/dev1/control/ack", Sample.progressAck.1, 7⟩,
      .processNext PlainInput.unusedUuid true 7] ++ Sample.answered true 7 else []) ++
    [.restart 8, .setMqttAvailable true,
      .tryPush ⟨"cns/sources/ops/control/request", Sample.controlRequest.1, 9⟩,
      .processNext PlainInput.unusedUuid true 9] ++ Sample.answered true 9

/-- A command whose device has not reported is uncertain after the restart, and
its ACK has no business status. -/
theorem businessStatus_of_run_interrupted :
    ∃ topic ack cause, .acked topic ack cause ∈
        (play Sample.config Sample.started (Sample.interrupted false)).trace ∧
      ack.status = .deliveryUncertain ∧ AckFits ack := by
  have hb : ((routeService Sample.config).restrict Input.FindsNoProgress).Reachable
      (play Sample.config Sample.started (Sample.interrupted false)) :=
    reachable_of_admitted findsNoProgress_of_test (reachable_firstStart Sample.config
      Input.FindsNoProgress Sample.sources (DeviceRegistry.empty.put (Sample.device .online)))
      (by decide +kernel)
  have hack : anyAck (fun ack => ack.status = .deliveryUncertain)
      (play Sample.config Sample.started (Sample.interrupted false)).trace = true := by
    decide +kernel
  obtain ⟨topic, ack, cause, hmem, hstatus⟩ := exists_of_anyAck hack
  exact ⟨topic, ack, cause, hmem, of_decide_eq_true hstatus, businessStatus_of_run hb hmem⟩

/-- **A command in progress keeps its report**: after the restart its ACK says
`delivery_uncertain`, with the business status `in_progress`. -/
theorem businessStatus_left_in_progress :
    (routeService Sample.config).Reachable
        (play Sample.config Sample.started (Sample.interrupted true)) ∧
      ∃ topic ack cause, .acked topic ack cause ∈
          (play Sample.config Sample.started (Sample.interrupted true)).trace ∧
        ack.commandId = some Sample.commandId ∧ ack.status = .deliveryUncertain ∧
        ack.businessStatus = some "in_progress" ∧ ¬ AckFits ack := by
  refine ⟨reachable_of_played (reachable_firstStart Sample.config (fun _ _ => True) Sample.sources
    (DeviceRegistry.empty.put (Sample.device .online))).of_restrict (by decide +kernel), ?_⟩
  have hack : anyAck (fun ack => ack.commandId = some Sample.commandId &&
        ack.status = .deliveryUncertain && ack.businessStatus = some "in_progress")
      (play Sample.config Sample.started (Sample.interrupted true)).trace = true := by
    decide +kernel
  obtain ⟨topic, ack, cause, hmem, hwhich⟩ := exists_of_anyAck hack
  simp only [Bool.and_eq_true, decide_eq_true_eq] at hwhich
  obtain ⟨⟨hid, hstatus⟩, hbusiness⟩ := hwhich
  refine ⟨topic, ack, cause, hmem, hid, hstatus, hbusiness, fun hfits => ?_⟩
  unfold AckFits at hfits
  rw [if_neg (by rw [hid]; simp), hstatus, hbusiness] at hfits
  cases hfits

end CnsServer
