/-
What the rows of the commands and the ACKs say to a source.

* `Reportable`: an error code of the protocol, a message that is not empty, and the status of
  a device; `SourceAck.Reportable`: the same of an ACK, with its request number;
* `desired_reports`, `newCommand_reports`: the records that a cause asks for, and the new
  ones;
* `Reporting`, `reporting_of_reachable`: **all rows and all ACKs report**, in every run.
-/
import CnsServer.Invariants.Provenance

namespace CnsServer

open RuntimeBundle CommandStatus

/-! ### What is reported -/

/-- The statuses that the parsers of device ACKs accept. -/
def deviceStatuses : List String :=
  ["applied", "already_applied", "accepted", "in_progress", "rejected", "timeout"]

/-- The status that a device ACK reports. -/
def reportedStatus (deviceAck : Option Json) : Option String :=
  deviceAck.bind (·.stringField? "status")

/-- Columns that can be reported. -/
structure Reportable (errorCode errorMessage : Option String) (deviceAck : Option Json) :
    Prop where
  code : ∀ code ∈ errorCode, isValidErrorCode code = true
  message : errorMessage ≠ some ""
  status : ∀ status ∈ reportedStatus deviceAck, status ∈ deviceStatuses

/-- The row can be reported. -/
def RowReportable (r : CommandRecord) : Prop := Reportable r.errorCode r.errorMessage r.deviceAck

/-- The ACK reports such columns, and a valid request number. -/
structure SourceAck.Reportable (ack : SourceAck) : Prop where
  requestId : ∀ requestId ∈ ack.requestId, isValidRequestId requestId = true
  error : ∀ error ∈ ack.error, isValidErrorCode error.1 = true ∧ error.2 ≠ some ""
  businessStatus : ∀ status ∈ ack.businessStatus, status ∈ deviceStatuses

lemma Reportable.of_error {error : ProtocolError} (h : error.Reported) :
    Reportable (some error.code) (some error.message) none := by
  refine ⟨fun code hcode => ?_, fun hmessage => h.2 (Option.some.inj hmessage), nofun⟩
  cases hcode
  exact h.1

lemma Reportable.none : Reportable none none none := ⟨nofun, nofun, nofun⟩

lemma Reportable.withoutAck {errorCode errorMessage : Option String} {deviceAck : Option Json}
    (h : Reportable errorCode errorMessage deviceAck) : Reportable errorCode errorMessage .none :=
  ⟨h.code, h.message, nofun⟩

lemma Reportable.withError {errorCode errorMessage : Option String} {deviceAck : Option Json}
    (h : Reportable errorCode errorMessage deviceAck) (error : ProtocolError)
    (herror : error.Reported) : Reportable (some error.code) (some error.message) deviceAck :=
  ⟨(Reportable.of_error herror).code, (Reportable.of_error herror).message, h.status⟩

lemma Reportable.withAck {errorCode errorMessage : Option String} {deviceAck : Option Json}
    (h : Reportable errorCode errorMessage deviceAck) {type : CommandType} {json : Option Json}
    {ack : DeviceAck} (hparse : parseDeviceAck type json = some ack) :
    Reportable errorCode errorMessage (some ack.raw) := by
  obtain ⟨hstatus, hknown⟩ := parseDeviceAck_status hparse
  refine ⟨h.code, h.message, fun status hreported => ?_⟩
  have heq : some ack.businessStatus = some status := hstatus.symm.trans hreported
  exact Option.some.inj heq ▸ hknown

/-! ### Transitions -/

/-- The record that a cause asks for reports, if the remembered one does. -/
lemma desired_reports {events : List Event} {m : CommandRecord} (hm : RowReportable m)
    {cause : Cause}
    (h : cause.Evidence events m) : RowReportable (cause.desired m) := by
  cases cause with
  | refused now =>
      simp only [RowReportable, Cause.desired, publishFailed]
      cases m.commandType
      · exact hm.withError ⟨"mqtt_publish_failed", _⟩ (by decide +kernel)
      · exact hm.withError ⟨"mqtt_publish_failed", _⟩ (by decide +kernel)
  | completed result now =>
      cases result with
      | true => exact ⟨hm.code, hm.message, hm.status⟩
      | false =>
          simp only [RowReportable, Cause.desired, publishCompleted]
          cases m.commandType
          · exact hm.withError ⟨"mqtt_publish_failed", _⟩ (by decide +kernel)
          · exact hm.withError ⟨"control_delivery_uncertain", _⟩ (by decide +kernel)
  | acknowledged ack now =>
      obtain ⟨deviceId, json, -, -, -, -, hparse⟩ := h
      have hack := hm.withAck hparse
      simp only [RowReportable, Cause.desired, acknowledged]
      split
      · cases m.commandType
        · exact hack.withError ⟨"device_rejected", _⟩ (by decide +kernel)
        · exact hack.withError ⟨"device_rejected", _⟩ (by decide +kernel)
      · split
        · exact hack.withError ⟨"device_timeout", _⟩ (by decide +kernel)
        · exact hack
  | expired now =>
      simp only [RowReportable, Cause.desired, timedOut]
      cases m.commandType
      · exact hm.withError ⟨"command_timeout", _⟩ (by decide +kernel)
      · exact hm.withError ⟨"control_timeout", _⟩ (by decide +kernel)

/-- So do the columns of its transition. -/
lemma task_reports {m : CommandRecord} {cause : Cause} (h : RowReportable (cause.desired m)) :
    Reportable (cause.task m).update.errorCode (cause.task m).update.errorMessage
      (cause.task m).update.deviceAck := by
  cases cause with
  | refused now => exact h.withoutAck
  | completed result now =>
      cases result with
      | true => exact .none
      | false => exact h.withoutAck
  | acknowledged ack now => exact h
  | expired now => exact h.withoutAck

/-! ### New commands -/

lemma newCommand_reports (answers : Answers) (b : RuntimeBundle) {context : RequestContext}
    (requestId : String) (payload : Json) {root : Json} {kind : SourceKind}
    (hparsed : context.parsed = parseSourceJson context.commandType root kind) :
    RowReportable (b.newCommand answers context requestId payload).1 := by
  have hinvalid : ProtocolError.Reported ⟨"invalid_request", "命令请求类型非法"⟩ := by decide +kernel
  have hoffline : ProtocolError.Reported ⟨"target_offline", "目标设备当前离线"⟩ := by decide +kernel
  rw [RuntimeBundle.newCommand]
  dsimp only
  split
  · next rejected hrejected =>
      rw [hparsed] at hrejected
      exact .of_error ((parseSourceJson_reported _ root kind).error rejected hrejected)
  · split
    · split
      · next error herror => exact .of_error (resolveConfigTarget_reported herror)
      · split
        · exact .none
        · exact .of_error hoffline
    · exact .of_error hinvalid
  · split
    · split
      · next error herror => exact .of_error (resolveControlTarget_reported herror)
      · split
        · exact .none
        · exact .of_error hoffline
    · exact .of_error hinvalid

lemma newCommand_requestId (answers : Answers) (b : RuntimeBundle) (context : RequestContext)
    (requestId : String) (payload : Json) :
    (b.newCommand answers context requestId payload).1.requestId = requestId := by
  rw [RuntimeBundle.newCommand]
  dsimp only
  repeat' split
  all_goals rfl

/-- What is created for a search. -/
lemma created_reports {b : RuntimeBundle} (hw : Wellformed b) {command : CommandRecord}
    (h : CreationOrigin b command) :
    isValidRequestId command.requestId = true ∧ RowReportable command := by
  obtain ⟨i, operation, answers, requestId, payload, hop, hkind, hrequestId, rfl⟩ := h
  have hok := hw.operations i operation hop
  unfold OperationOk at hok
  rw [hkind] at hok
  obtain ⟨-, root, kind, hparsed, -⟩ := hok
  refine ⟨?_, newCommand_reports answers b requestId payload hparsed⟩
  rw [newCommand_requestId]
  exact hw.requestId_of_find hop hkind hrequestId

/-! ### ACKs -/

/-- The error of an ACK is that of the row, or that of an uncertain delivery. -/
lemma buildSourceAck_error_cases (r : CommandRecord) (target : Option ResolvedTarget)
    (occurredAt : TimePoint) :
    (buildSourceAck r target occurredAt).error =
        r.errorCode.map (fun code => (code, r.errorMessage)) ∨
      r.status = .deliveryUncertain ∧ (buildSourceAck r target occurredAt).error =
        some ("control_delivery_uncertain", some "服务恢复后无法确认飞控命令是否已经执行") := by
  by_cases huncertain : r.commandType = .control ∧ r.status = .deliveryUncertain
  · refine .inr ⟨huncertain.2, ?_⟩
    simp only [buildSourceAck, if_pos huncertain]
    cases r.deviceAck <;> rfl
  · refine .inl ?_
    simp only [buildSourceAck, if_neg huncertain]
    cases r.deviceAck <;> cases r.errorCode <;> rfl

lemma buildSourceAck_businessStatus (r : CommandRecord) (target : Option ResolvedTarget)
    (occurredAt : TimePoint) : (buildSourceAck r target occurredAt).businessStatus =
      r.deviceAck.bind (·.stringField? "status") := by
  simp only [buildSourceAck]
  cases r.deviceAck with
  | some deviceAck => rfl
  | none =>
      dsimp only
      split
      · rfl
      · split <;> rfl

/-- **The ACK of a row reports if the row does.** -/
lemma RowReportable.ack {r : CommandRecord} (h : RowReportable r)
    (hrequestId : isValidRequestId r.requestId = true) (target : Option ResolvedTarget)
    (occurredAt : TimePoint) : (buildSourceAck r target occurredAt).Reportable := by
  refine ⟨fun requestId hid => ?_, fun error herror => ?_, fun status hstatus => ?_⟩
  · rw [buildSourceAck_requestId] at hid
    cases hid
    exact hrequestId
  · rcases buildSourceAck_error_cases r target occurredAt with hrow | ⟨-, huncertain⟩
    · rw [hrow] at herror
      obtain ⟨code, hcode, rfl⟩ := Option.map_eq_some_iff.mp herror
      exact ⟨h.code code hcode, h.message⟩
    · rw [huncertain] at herror
      cases herror
      decide +kernel
  · rw [buildSourceAck_businessStatus] at hstatus
    exact h.status status hstatus

/-! ### Runs -/

lemma RuntimeBundle.Restarted.created_subset {cfg : CommandServiceConfig} {b b' : RuntimeBundle}
    (hrestart : Restarted cfg b b') : createdIds b.trace ⊆ createdIds b'.trace := by
  obtain ⟨written, -, hpast⟩ := hrestart.recovery
  have htrace : b'.trace = b'.log ++ (written.map .committed ++ b.trace) := by
    simp only [RuntimeBundle.trace] at hpast ⊢
    rw [hpast]
  rw [htrace, createdIds_append, createdIds_append]
  exact fun commandId hid => List.mem_append_right _ (List.mem_append_right _ hid)

lemma Tick.created_subset {cfg : CommandServiceConfig} {b b' : RuntimeBundle} (hw : Wellformed b)
    (htick : Tick cfg b b') : createdIds b.trace ⊆ createdIds b'.trace := by
  obtain ⟨es, hlog, -⟩ := htick.acks hw
  have hpast : b'.past = b.past := (htick.touch hw).past
  simp only [RuntimeBundle.trace]
  rw [hlog, hpast, List.append_assoc, createdIds_append es]
  exact fun commandId hid => List.mem_append_right _ hid

/-- All rows and all ACKs so far report; an ACK with a command id is of a command. -/
structure Reporting (b : RuntimeBundle) : Prop where
  traced : Traced b
  created : ∀ i command, .created i command ∈ b.trace →
    isValidRequestId command.requestId = true ∧ RowReportable command
  rows : ∀ r ∈ committedRows b.trace, RowReportable r
  acks : ∀ topic ack cause, .acked topic ack cause ∈ b.trace →
    ack.Reportable ∧ ∀ commandId ∈ ack.commandId, commandId ∈ createdIds b.trace

namespace Reporting

variable {cfg : CommandServiceConfig} {b b' : RuntimeBundle}

/-- The request number of a row is the one of its command. -/
lemma requestId (h : Reporting b) {r : CommandRecord} (hr : r ∈ committedRows b.trace) :
    isValidRequestId r.requestId = true := by
  obtain ⟨i, command, hcreated, hsame⟩ := h.traced.sound.ledger.committed_known r hr
  rw [hsame.requestId]
  exact (h.created i command hcreated).1

lemma commandId (h : Reporting b) {r : CommandRecord} (hr : r ∈ committedRows b.trace) :
    r.commandId ∈ createdIds b.trace :=
  (h.traced.sound.ledger.committed_known r hr).mem_createdIds

/-- **The row of a task reports if those before it do.** -/
lemma row_of_origin (h : Reporting b) {r : CommandRecord} (horigin : TaskOrigin b.trace r) :
    RowReportable r := by
  cases horigin with
  | inserted hcreated _ => exact (h.created _ _ hcreated).2
  | moved _ _ _ _ hasked =>
      obtain ⟨m, cause, hdesire, rfl | ⟨current, -, -, -, -, -, rfl⟩⟩ := hasked
      · exact task_reports (desired_reports (h.rows m hdesire.row) hdesire.evidence)
      · have hdesired := desired_reports (h.rows m hdesire.row) hdesire.evidence
        rw [← hdesire.record] at hdesired
        exact hdesired

lemma tick (h : Reporting b) (htick : Tick cfg b b') : Reporting b' where
  traced := h.traced.tick htick
  created i command hcreated := by
    rcases htick.created_cases h.traced.sound.wellformed hcreated with hold | horigin
    · exact h.created i command hold
    · exact created_reports h.traced.sound.wellformed horigin
  rows r hr := by
    rcases h.traced.provenance.new_row h.traced.sound htick hr with hold | horigin
    · exact h.rows r hold
    · exact h.row_of_origin horigin
  acks topic ack cause hacked := by
    have hsub := htick.created_subset h.traced.sound.wellformed
    -- the ACK of a row that the next result reports
    have hreported : ∀ {i : ℕ} {value : Except DatabaseError CommandDatabaseValue}
        {rest : List CommandDatabaseResult} {r : CommandRecord} (target : Option ResolvedTarget)
        (now : TimePoint), b.databaseResults = ⟨i, value⟩ :: rest → reported value = some r →
        (buildSourceAck r target now).Reportable ∧
          ∀ commandId ∈ (buildSourceAck r target now).commandId,
            commandId ∈ createdIds b'.trace := by
      intro i value rest r target now hhead hr
      have hrow := Provenance.committed_of_head h.traced.sound hhead hr
      refine ⟨(h.rows r hrow).ack (h.requestId hrow) target now, fun commandId hid => ?_⟩
      rw [buildSourceAck_commandId] at hid
      cases hid
      exact hsub (h.commandId hrow)
    rcases htick.acked_cases h.traced.sound.wellformed hacked with hold | horigin
    · obtain ⟨hack, hid⟩ := h.acks topic ack cause hold
      exact ⟨hack, fun commandId hcommandId => hsub (hid commandId hcommandId)⟩
    · cases horigin with
      | rejection hrejection hknown =>
          obtain ⟨_, _, requestId, error, now, type, -, rfl, herror⟩ := hrejection
          refine ⟨⟨fun id hid => ?_, fun reportedError hreportedError => ?_, nofun⟩, nofun⟩
          · rcases hknown id hid with hvalid | ⟨i, command, hcreated, rfl⟩
            · exact hvalid
            · exact (h.created i command hcreated).1
          · cases hreportedError
            exact ⟨herror.1, fun hempty => herror.2 (Option.some.inj hempty)⟩
      | replay hhead hr _ _ _ => exact hreported _ _ hhead hr
      | lifecycle hhead hr _ _ => exact hreported _ _ hhead hr

lemma restarted (h : Reporting b) (hrestart : Restarted cfg b b') : Reporting b' where
  traced := h.traced.restarted hrestart
  created i command hcreated := h.created i command (hrestart.created hcreated)
  rows r hr := by
    rcases hrestart.new_row hr with hold | ⟨row, now, hrow, -, -, rfl⟩
    · exact h.rows r hold
    · have hreports := h.rows row (h.traced.sound.ledger.row_committed _ row hrow)
      exact hreports.withError ⟨"control_delivery_uncertain", _⟩ (by decide +kernel)
  acks topic ack cause hacked := by
    obtain ⟨hack, hid⟩ := h.acks topic ack cause (hrestart.acked hacked)
    exact ⟨hack, fun commandId hcommandId => hrestart.created_subset (hid commandId hcommandId)⟩

lemma blank : Reporting .blank where
  traced := .blank
  created _ _ h := by cases h
  rows _ h := by cases h
  acks _ _ _ h := by cases h

end Reporting

/-- **All rows and all ACKs report**, in every reachable state. -/
theorem reporting_of_reachable {cfg : CommandServiceConfig} {b : RuntimeBundle}
    (hb : (routeService cfg).Reachable b) : Reporting b :=
  reachable_of_ticks Reporting.blank (fun _ _ h hrestart => h.restarted hrestart)
    (fun _ _ h htick => h.tick htick) hb

end CnsServer
