/-
The messages of the route service, as the backend reads them.

The service has checks of its own on what it receives and stores; the backend has schemas.
Whatever has passed the first is let through by the second.

* `accepts_deviceId`, `accepts_instant`, `accepts_orNull` and so on: one lemma for each kind
  of field;
* `state_accepted`, `directory_accepted`, `ack_accepted`: the messages;
* `event_accepted`: an ACK of a tracked request becomes an event for the browser;
* `messages_accepted`: **all of this in every run**.
-/
import CnsServer.Backend.RouteProtocol
import CnsServer.Device.StateEvents
import CnsServer.Invariants.PresentableDevices
import CnsServer.Invariants.ReportedRows
import CnsServer.Command.CommandState
import CnsServer.Runtime.Scenario
import CnsServer.Properties.ProvisionedSources
import Mathlib.Data.Nat.Cast.Order.Ring

namespace CnsServer

open Schema

/-! ### Fields -/

lemma one_le_utf16Length {text : String} (h : text ≠ "") : 1 ≤ utf16Length text := by
  refine le_trans ?_ (length_le_utf16Length text)
  rw [Nat.one_le_iff_ne_zero]
  exact fun hlength => h (String.length_eq_zero_iff.mp hlength)

lemma accepts_text {text : String} (h : text ≠ "") :
    string [.min 1] (some (.parsed (.string text))) = true := by
  simpa [JsValue.parsed, string, StringCheck.holds] using one_le_utf16Length h

lemma accepts_instant {time : TimePoint} (h : InClockRange time) :
    string [.datetime] (some (.parsed (.string (formatUtcRfc3339Millis time)))) = true := by
  simpa [JsValue.parsed, string, StringCheck.holds] using isDatetime_format h

/-- A field that may be `null`. -/
lemma accepts_orNull {α : Type} {schema : Schema} {field : α → Json} {value : Option α}
    (h : ∀ v ∈ value, schema (some (.parsed (field v))) = true) :
    nullable schema (some (.parsed (.orNull field value))) = true := by
  cases value with
  | none => rfl
  | some value =>
      have hvalue := h value rfl
      rw [Json.orNull, nullable.eq_def]
      split
      · rfl
      · exact hvalue

lemma accepts_record {value : Json} (h : value.isObject = true) :
    record (some (.parsed value)) = true := by
  cases value with
  | object fields => rfl
  | _ => cases h

lemma accepts_texts {items : List String} (h : ∀ item ∈ items, item.isEmpty = false) :
    array (string [.min 1]) (some (.parsed (.texts items))) = true := by
  rw [Json.texts, JsValue.parsed, parsedItems_eq, array, List.all_eq_true]
  intro value hvalue
  obtain ⟨item, hitem, rfl⟩ := List.mem_map.mp hvalue
  obtain ⟨text, htext, rfl⟩ := List.mem_map.mp hitem
  refine accepts_text ?_
  rintro rfl
  cases h "" htext

/-- A number of the service is a whole number on the other side too. -/
lemma doubleOfInt_natCast (n : ℕ) : ∃ m : ℕ, Json.doubleOfInt n = m := by
  rw [Json.doubleOfInt]
  dsimp only
  split
  · exact ⟨n, by simp⟩
  · next hlarge =>
      have hsign : (n : ℤ).sign = 1 := by
        rw [Int.sign_eq_one_iff_pos]
        omega
      rw [hsign, one_mul]
      exact ⟨_, Int.cast_natCast _⟩

lemma accepts_count (n : ℕ) :
    number [.int, .min 0] (some (.parsed (.integer n))) = true := by
  obtain ⟨m, hm⟩ := doubleOfInt_natCast n
  simp [JsValue.parsed, number, NumberCheck.holds, hm]

lemma accepts_schemaVersion :
    literalNumber schemaVersion (some (.parsed (.integer 1))) = true := by
  decide +kernel

lemma isAlphanum_lt {c : Char} (h : c.isAlphanum = true) : c.val < 0x10000 := by
  rcases isAlphanum_iff.mp h with ⟨-, hhigh⟩ | ⟨-, hhigh⟩ | hdigit
  · exact UInt32.lt_of_le_of_lt (show c.val ≤ 'Z'.val from hhigh) (by decide)
  · exact UInt32.lt_of_le_of_lt (show c.val ≤ 'z'.val from hhigh) (by decide)
  · simp only [Char.isDigit, Bool.and_eq_true, decide_eq_true_eq] at hdigit
    exact UInt32.lt_of_le_of_lt hdigit.2 (by decide)

/-- An identifier has as many units as characters. -/
lemma utf16Length_of_identifier {text : String} {punctuation : List Char}
    (hpunctuation : punctuation.all (·.val < 0x10000) = true)
    (h : ∀ c ∈ text.toList, c.isAlphanum = true ∨ c ∈ punctuation) :
    utf16Length text = text.length := by
  refine utf16Length_of_forall fun c hc => ?_
  rcases h c hc with halphanum | hmem
  · exact isAlphanum_lt halphanum
  · simpa using List.all_eq_true.mp hpunctuation c hmem

/-- The limits of an identifier are the same on both sides. -/
lemma identifier_bounds {text : String} {limit : ℕ} {punctuation : List Char}
    (hpunctuation : punctuation.all (·.val < 0x10000) = true) (hempty : text.isEmpty = false)
    (hlength : text.length ≤ limit)
    (h : ∀ c ∈ text.toList, c.isAlphanum = true ∨ c ∈ punctuation) :
    1 ≤ utf16Length text ∧ utf16Length text ≤ limit := by
  refine ⟨one_le_utf16Length ?_, (utf16Length_of_identifier hpunctuation h).trans_le hlength⟩
  rintro rfl
  cases hempty

/-- **Both sides have the same identifiers of devices.** -/
lemma accepts_deviceId {deviceId : String} (h : isValidDeviceId deviceId = true) :
    deviceIdSchema (some (.parsed (.string deviceId))) = true := by
  simp only [isValidDeviceId, Bool.and_eq_true, decide_eq_true_eq, Bool.not_eq_true',
    List.all_eq_true, Bool.or_eq_true] at h
  obtain ⟨⟨hempty, hlength⟩, hclass⟩ := h
  obtain ⟨hmin, hmax⟩ :=
    @identifier_bounds deviceId 20 ['.', '_', ':', '-'] (by decide) hempty hlength fun c hc => by
      have := hclass c hc
      simp only [List.mem_cons, List.not_mem_nil, or_false]
      tauto
  simp only [JsValue.parsed, deviceIdSchema, string, List.all_cons, List.all_nil, StringCheck.holds,
    Bool.and_true, Bool.and_eq_true, decide_eq_true_eq, hempty, Bool.not_false, List.all_eq_true,
    Bool.or_eq_true]
  exact ⟨hmin, hmax, trivial, hclass⟩

/-- A request number is within the limits of the backend. -/
lemma accepts_requestId {requestId : String} (h : isValidRequestId requestId = true) :
    string [.min 1, .max 128] (some (.parsed (.string requestId))) = true := by
  simp only [isValidRequestId, Bool.and_eq_true, decide_eq_true_eq, Bool.not_eq_true',
    List.all_eq_true, Bool.or_eq_true] at h
  obtain ⟨⟨hempty, hlength⟩, hclass⟩ := h
  obtain ⟨hmin, hmax⟩ :=
    @identifier_bounds requestId 128 ['.', '_', '-', ':'] (by decide) hempty hlength fun c hc => by
      have := hclass c hc
      simp only [List.mem_cons, List.not_mem_nil, or_false]
      tauto
  simp [JsValue.parsed, string, StringCheck.holds, hmin, hmax]

/-- **An error code of the service is one of the backend.** -/
lemma accepts_errorCode {code : String} (h : isValidErrorCode code = true) :
    errorCodeSchema (some (.parsed (.string code))) = true := by
  simp only [isValidErrorCode, Bool.and_eq_true, decide_eq_true_eq, Bool.not_eq_true',
    List.all_eq_true, Bool.or_eq_true] at h
  obtain ⟨⟨hempty, hlength⟩, hclass⟩ := h
  have hletters : ∀ c ∈ code.toList, c.isAlphanum = true ∨ c ∈ ['_'] := by
    intro c hc
    rcases hclass c hc with (hlower | hdigit) | hunderscore
    · exact .inl (isAlphanum_iff.mpr (.inr (.inl hlower)))
    · exact .inl (isAlphanum_iff.mpr (.inr (.inr hdigit)))
    · exact .inr (List.mem_singleton.mpr hunderscore)
  obtain ⟨hmin, hmax⟩ := identifier_bounds (by decide) hempty hlength hletters
  simp only [JsValue.parsed, errorCodeSchema, string, List.all_cons, List.all_nil,
    StringCheck.holds, Bool.and_true, Bool.and_eq_true, decide_eq_true_eq, hempty, Bool.not_false,
    List.all_eq_true, Bool.or_eq_true]
  refine ⟨hmin, hmax, trivial, fun c hc => ?_⟩
  rcases hletters c hc with halphanum | hmem
  · exact .inl (.inl (.inl halphanum))
  · exact .inl (.inr (List.mem_singleton.mp hmem))

/-! ### Records -/

section

variable {record : DeviceRecord}

lemma accepts_school (schoolName : String) :
    nullable (string [.min 1]) (some (.parsed (schoolField schoolName))) = true := by
  rw [schoolField]
  split
  · rfl
  · next hname =>
      rw [nullable.eq_def]
      split
      · rfl
      · exact accepts_text fun hempty => hname (hempty ▸ rfl)

lemma accepts_label {label : Option String} (h : label ≠ some "") :
    nullable (string [.min 1]) (some (.parsed (.orNull .string label))) = true := by
  refine accepts_orNull fun text htext => accepts_text ?_
  rintro rfl
  exact h htext

lemma accepts_optionalObject {value : Option Json} (h : IsObject value) :
    nullable Schema.record (some (.parsed (.orNull id value))) = true :=
  accepts_orNull fun json hjson => accepts_record (h json hjson)

lemma accepts_optionalTime {time : Option TimePoint} (h : ∀ value ∈ time, InClockRange value) :
    nullable (string [.datetime]) (some (.parsed (optionalTime time))) = true :=
  accepts_orNull fun value hvalue => accepts_instant (h value hvalue)

lemma accepts_status (online : Bool) :
    enum ["online", "offline"] (some (.parsed (.string (statusText online)))) = true := by
  cases online <;> decide +kernel

lemma accepts_deviceType (deviceType : DeviceType) :
    deviceTypeSchema (some (.parsed (.string deviceType.text))) = true := by
  cases deviceType <;> decide +kernel

lemma accepts_reason (reason : ChangeReason) :
    enum ["registration_online", "registration_offline", "telemetry", "activity_timeout",
      "database_recovered", "snapshot_replay"] (some (.parsed (.string reason.text))) = true := by
  cases reason <;> decide +kernel

/-- **The state of a device is accepted.** -/
lemma state_accepted (h : record.Presentable) (hstorable : record.Storable) (reason : ChangeReason)
    (degraded : Bool) {eventAt : TimePoint} (hclock : InClockRange eventAt) :
    routeDeviceStateMessageSchema (some (.parsed
      (buildStateEvent (snapshotFor ⟨record, reason, degraded⟩) reason eventAt))) = true := by
  refine accepts_object ?_ fun _ => by simp [deviceShape]
  simp only [deviceShape, List.cons_append, List.nil_append, List.forall_mem_cons]
  refine ⟨accepts_deviceId h.deviceId, accepts_deviceType record.deviceType,
    accepts_school record.schoolName, accepts_label h.dcdwLabel, accepts_text h.modelVersion,
    accepts_orNull fun items hitems => accepts_texts (hstorable.capabilities items hitems),
    accepts_optionalObject hstorable.product, accepts_optionalObject hstorable.version,
    accepts_status _, accepts_schemaVersion, rfl, accepts_instant hclock,
    accepts_count record.revision, accepts_optionalTime hstorable.lastSeenAt,
    accepts_optionalTime hstorable.telemetryReceivedAt, accepts_optionalObject h.latestTelemetry,
    accepts_reason reason, rfl, ?_⟩
  simp

/-- An entry of the directory is accepted. -/
lemma item_accepted (h : record.Presentable) (hstorable : record.Storable) :
    routeDeviceDirectoryEntrySchema (some (.parsed (directoryItem (directoryEntryFor record)))) =
      true := by
  refine accepts_object ?_ fun _ => by simp [deviceShape]
  simp only [deviceShape, List.forall_mem_cons]
  refine ⟨accepts_deviceId h.deviceId, accepts_deviceType record.deviceType,
    accepts_school record.schoolName, accepts_label h.dcdwLabel, accepts_text h.modelVersion,
    accepts_orNull fun items hitems => accepts_texts (hstorable.capabilities items hitems),
    accepts_optionalObject hstorable.product, accepts_optionalObject hstorable.version,
    accepts_status _, ?_⟩
  simp

/-- **The directory is accepted**, whichever records its entries are of. -/
lemma directory_accepted {entries : List DirectoryEntry}
    (h : ∀ entry ∈ entries, ∃ record : DeviceRecord, entry = directoryEntryFor record ∧
      record.Presentable ∧ record.Storable) (revision : ℕ) {generatedAt : TimePoint}
    (hclock : InClockRange generatedAt) :
    routeDeviceDirectorySnapshotSchema (some (.parsed
      (buildDeviceDirectorySnapshot entries revision generatedAt))) = true := by
  refine accepts_object ?_ fun _ => by simp
  simp only [List.forall_mem_cons]
  refine ⟨accepts_schemaVersion, rfl, accepts_instant hclock, accepts_count revision, ?_, by simp⟩
  change array _ (some (.parsed (.array _))) = true
  rw [JsValue.parsed, parsedItems_eq, array, List.all_eq_true]
  intro value hvalue
  obtain ⟨item, hitem, rfl⟩ := List.mem_map.mp hvalue
  obtain ⟨entry, hentry, rfl⟩ := List.mem_map.mp hitem
  obtain ⟨record, rfl, hpresentable, hstorable⟩ := h entry (List.mem_mergeSort.mp hentry)
  exact item_accepted hpresentable hstorable

end

/-! ### ACKs -/

/-- What the schema asks of an ACK. -/
structure SourceAck.Presentable (ack : SourceAck) : Prop extends ack.Reportable where
  commandId : ∀ commandId ∈ ack.commandId, isUuid commandId = true
  occurredAt : InClockRange ack.occurredAt

section

variable {ack : SourceAck}

lemma accepts_uuid {text : String} (h : isUuid text = true) :
    string [.uuid] (some (.parsed (.string text))) = true := by
  simp [JsValue.parsed, string, StringCheck.holds, h]

lemma accepts_commandType (commandType : CommandType) :
    commandTypeSchema (some (.parsed (.string commandType.toText))) = true := by
  cases commandType <;> decide +kernel

lemma accepts_commandStatus (status : CommandStatus) :
    enum ["pending", "dispatched", "in_progress", "succeeded", "failed", "timeout",
      "delivery_uncertain"] (some (.parsed (.string status.toText))) = true := by
  cases status <;> decide +kernel

lemma accepts_businessStatus {status : String} (h : status ∈ deviceStatuses) :
    string [.min 1, .max 64] (some (.parsed (.string status))) = true := by
  have hall : ∀ status ∈ deviceStatuses,
      string [.min 1, .max 64] (some (.parsed (.string status))) = true := by
    decide +kernel
  exact hall status h

/-- A code of the backend is short enough for an ACK. -/
lemma accepts_code {code : String} (h : isValidErrorCode code = true) :
    string [.min 1, .max 64] (some (.parsed (.string code))) = true := by
  obtain ⟨text, htext, hchecks⟩ := string_iff.mp (accepts_errorCode h)
  refine string_iff.mpr ⟨text, htext, fun check hcheck => hchecks check ?_⟩
  rw [List.mem_cons, List.mem_singleton] at hcheck
  rcases hcheck with rfl | rfl
  · exact List.mem_cons_self
  · exact List.mem_cons_of_mem _ List.mem_cons_self

/-- **An ACK is accepted.** -/
lemma ack_accepted (h : ack.Presentable) :
    routeCommandAckSchema (some (.parsed ack.document)) = true := by
  refine accepts_ofFields (by simp) ?_ nofun
  simp only [List.forall_mem_cons]
  refine ⟨accepts_schemaVersion, accepts_orNull fun id hid =>
    accepts_requestId (h.requestId id hid),
    accepts_orNull fun id hid => accepts_uuid (h.commandId id hid),
    accepts_commandType ack.commandType, accepts_commandStatus ack.status,
    accepts_orNull fun status hstatus => accepts_businessStatus (h.businessStatus status hstatus),
    accepts_instant h.occurredAt, ?_, by simp⟩
  change optional _ ((ack.error.map fun error => errorField error.1 error.2).map _) = true
  cases herror : ack.error with
  | none => rfl
  | some error =>
      obtain ⟨hcode, hmessage⟩ := h.error error herror
      refine accepts_object ?_ nofun
      simp only [List.forall_mem_cons]
      exact ⟨accepts_code hcode, accepts_label hmessage, by simp⟩

/-! ### Events for the browser -/

lemma event_status (status : CommandStatus) :
    commandStatusSchema ((some (JsValue.parsed (.string status.toText))).map
      mapRouteCommandStatus) = true := by
  cases status <;> decide +kernel

/-- An error without a message gets one. -/
lemma event_error {error : Option (String × Option String)}
    (h : ∀ found ∈ error, isValidErrorCode found.1 = true ∧ found.2 ≠ some "") :
    nullable errorPayloadSchema (some (mapRouteError
      ((error.map fun found => errorField found.1 found.2).map JsValue.parsed))) = true := by
  cases error with
  | none => rfl
  | some error =>
      obtain ⟨code, message⟩ := error
      obtain ⟨hcode, hmessage⟩ := h _ rfl
      refine accepts_ofProperties (by simp) ?_ (by simp)
      simp only [List.forall_mem_cons]
      refine ⟨accepts_errorCode hcode, ?_, rfl, by simp⟩
      cases message with
      | none => exact @accepts_text "route_service rejected the command" (by decide)
      | some message => exact accepts_text fun hempty => hmessage (hempty ▸ rfl)

/-- What is kept of an accepted request. -/
lemma tracked_accepted {request : JsValue} (deviceId : String)
    (h : deviceCommandRequestSchema (some request) = true) :
    commandTypeSchema (trackedCommand deviceId request).commandType = true ∧
      nullable controlCommandNameSchema (trackedCommand deviceId request).command = true := by
  rcases request_of_accepted h with
    ⟨requestId, parameters, hrequest⟩ | ⟨requestId, command, parameters, hrequest⟩
  · simp only [trackedCommand, hrequest.kind]
    exact ⟨by decide +kernel, rfl⟩
  · simp only [trackedCommand, hrequest.kind, hrequest.name]
    refine ⟨by decide +kernel, ?_⟩
    have hnames : ∀ command ∈ ["set_motor_pwm", "takeoff", "land", "emergency_stop"],
        nullable controlCommandNameSchema (some (.string command)) = true := by
      decide +kernel
    refine hnames command ?_
    rcases hrequest.accepted with ⟨rfl, -⟩ | ⟨hmem, -⟩
    · exact List.mem_cons_self
    · exact List.mem_cons_of_mem _ hmem

/-- The number of an accepted request is a UUID. -/
lemma tracked_uuid {request : JsValue} {requestId : String}
    (h : deviceCommandRequestSchema (some request) = true)
    (hnumber : request.get "client_request_id" = some (.string requestId)) :
    isUuid requestId = true := by
  rcases request_of_accepted h with ⟨number, parameters, hrequest⟩ |
    ⟨number, _, parameters, hrequest⟩
  · have hsame := hrequest.number.symm.trans hnumber
    cases hsame
    exact hrequest.uuid
  · have hsame := hrequest.number.symm.trans hnumber
    cases hsame
    exact hrequest.uuid

/-- **An ACK of a tracked request is passed on to the browser.** -/
lemma event_accepted (h : ack.Presentable) {deviceId requestId : String} {request : JsValue}
    (hdevice : deviceIdSchema (some (.string deviceId)) = true)
    (hrequest : deviceCommandRequestSchema (some request) = true)
    (hnumber : request.get "client_request_id" = some (.string requestId))
    (hack : ack.requestId = some requestId) :
    (toCommandUpdatedEvent (.parsed ack.document) (trackedCommand deviceId request)).isSome =
      true := by
  obtain ⟨htype, hcommand⟩ := tracked_accepted deviceId hrequest
  have hget : ∀ key, (JsValue.parsed ack.document).get key = _ := get_parsed_ofFields (by simp)
  have hid : clientRequestIdSchema (some (.parsed (.orNull .string ack.requestId))) = true := by
    rw [hack]
    exact accepts_uuid (tracked_uuid hrequest hnumber)
  simp only [toCommandUpdatedEvent, hget]
  rw [if_pos, Option.isSome_some]
  refine accepts_ofProperties (by simp) ?_ (by simp)
  simp only [List.forall_mem_cons]
  exact ⟨rfl, accepts_schemaVersion, hid,
    accepts_orNull fun id hid => accepts_uuid (h.commandId id hid), hdevice, htype, hcommand,
    event_status ack.status,
    accepts_orNull fun status hstatus => accepts_businessStatus (h.businessStatus status hstatus),
    event_error h.error, accepts_instant h.occurredAt, by simp⟩

end

/-! ### Every run -/

/-- The backend accepts the ACK, and passes it on if it is one of a request that it tracks. -/
def SourceAck.Taken (ack : SourceAck) : Prop :=
  routeCommandAckSchema (some (.parsed ack.document)) = true ∧
    ∀ deviceId request requestId, deviceIdSchema (some (.string deviceId)) = true →
      deviceCommandRequestSchema (some request) = true →
      request.get "client_request_id" = some (.string requestId) →
      ack.requestId = some requestId →
        (toCommandUpdatedEvent (.parsed ack.document) (trackedCommand deviceId request)).isSome =
          true

/-- The ids of the commands are those of `GenerateUuidV4`. -/
def RuntimeBundle.GeneratedIds (b : RuntimeBundle) : Prop :=
  ∀ commandId ∈ createdIds b.trace, ∃ randomBytes, commandId = formatUuidV4 randomBytes

/-- The entry is that of a record that the directory holds in some run. -/
def DirectoryEntry.Reached (wcfg : WorkerConfig) (dcfg : DeviceServiceConfig)
    (entry : DirectoryEntry) : Prop :=
  ∃ s deviceId record, (deviceSystem wcfg dcfg).Reachable s ∧
    s.registry.find deviceId = some record ∧ entry = directoryEntryFor record

lemma SourceAck.Presentable.taken {ack : SourceAck} (h : ack.Presentable) : ack.Taken :=
  ⟨ack_accepted h, fun _ _ _ hdevice hrequest hnumber hack =>
    event_accepted h hdevice hrequest hnumber hack⟩

lemma RuntimeBundle.GeneratedIds.isUuid {b : RuntimeBundle} (h : b.GeneratedIds)
    {commandId : String} (hcommandId : commandId ∈ createdIds b.trace) :
    isUuid commandId = true := by
  obtain ⟨randomBytes, rfl⟩ := h commandId hcommandId
  exact isUuid_format randomBytes

/-- **The messages of the route service are accepted.**  In every run the backend takes the
state of each device, every directory of such devices, the ACK of each row and each ACK that
is sent. -/
theorem messages_accepted (wcfg : WorkerConfig) (dcfg : DeviceServiceConfig)
    (ccfg : CommandServiceConfig) :
    (∀ s, (deviceSystem wcfg dcfg).Reachable s → ∀ deviceId record,
      s.registry.find deviceId = some record → ∀ reason degraded eventAt, InClockRange eventAt →
        routeDeviceStateMessageSchema (some (.parsed (buildStateEvent
          (snapshotFor ⟨record, reason, degraded⟩) reason eventAt))) = true) ∧
    (∀ entries : List DirectoryEntry, (∀ entry ∈ entries, entry.Reached wcfg dcfg) →
      ∀ revision generatedAt, InClockRange generatedAt →
        routeDeviceDirectorySnapshotSchema (some (.parsed
          (buildDeviceDirectorySnapshot entries revision generatedAt))) = true) ∧
    ∀ b, (routeService ccfg).Reachable b → b.GeneratedIds →
      (∀ commandId row, b.table.findCommandById commandId = some row → ∀ target occurredAt,
        InClockRange occurredAt → (buildSourceAck row target occurredAt).Taken) ∧
      ∀ topic ack cause, .acked topic ack cause ∈ b.trace → InClockRange ack.occurredAt →
        ack.Taken := by
  have hrecord : ∀ {s deviceId record}, (deviceSystem wcfg dcfg).Reachable s →
      s.registry.find deviceId = some record → record.Presentable ∧ record.Storable :=
    fun hs hfind => ⟨(presentable_of_reachable hs).records _ _ hfind,
      ((stored_of_reachable hs).records _ _ hfind).1⟩
  refine ⟨fun s hs deviceId record hfind reason degraded eventAt hclock => ?_,
    fun entries hentries revision generatedAt hclock => ?_, fun b hb hids => ⟨?_, ?_⟩⟩
  · obtain ⟨hpresentable, hstorable⟩ := hrecord hs hfind
    exact state_accepted hpresentable hstorable reason degraded hclock
  · refine directory_accepted (fun entry hentry => ?_) revision hclock
    obtain ⟨s, deviceId, record, hs, hfind, rfl⟩ := hentries entry hentry
    exact ⟨record, rfl, hrecord hs hfind⟩
  · intro commandId row hrow target occurredAt hclock
    have hreporting := reporting_of_reachable hb
    have hcommitted := hreporting.traced.sound.ledger.row_committed commandId row hrow
    have hreportable := (hreporting.rows row hcommitted).ack (hreporting.requestId hcommitted)
      target occurredAt
    refine SourceAck.Presentable.taken ⟨hreportable, fun id hid => ?_, ?_⟩
    · rw [buildSourceAck_commandId] at hid
      cases hid
      exact hids.isUuid (hreporting.commandId hcommitted)
    · rw [buildSourceAck_occurredAt]
      exact hclock
  · intro topic ack cause hacked hclock
    obtain ⟨hreportable, hknown⟩ := (reporting_of_reachable hb).acks topic ack cause hacked
    exact SourceAck.Presentable.taken
      ⟨hreportable, fun id hid => hids.isUuid (hknown id hid), hclock⟩

namespace Sample

/-- A request of the backend, and the text of the message that is made of it. -/
def takeoffRequest : JsValue :=
  .object
    [("session_id", .string "session-1"),
      ("client_request_id", .string "00000000-0000-4000-8000-0000000000aa"),
      ("type", .string "control"), ("command", .string "takeoff"), ("parameters", .object [])]

def takeoffConfig : CommandServiceConfig where
  parseJson text :=
    if text = "takeoff" then some (buildRouteCommandRequest "dev1" takeoffRequest).document
    else none

/-- The request arrives, and its command is stored. -/
def takeoffStored : RuntimeBundle :=
  play takeoffConfig started
    ([.setMqttAvailable true, .tryPush ⟨"cns/sources/ops/control/request", "takeoff", 5⟩,
      .processNext commandId true 5, .worker (.runCommand .completed),
      .processNext commandId true 5] ++ answered true 5)

lemma reachable_takeoffStored : (routeService takeoffConfig).Reachable takeoffStored :=
  reachable_of_played (reachable_firstStart takeoffConfig (fun _ _ => True) sources
    (DeviceRegistry.empty.put (device .online))).of_restrict (by decide +kernel)

lemma takeoffStored_ids : takeoffStored.GeneratedIds := by
  have hids : createdIds takeoffStored.trace = [commandId] := by decide +kernel
  have hformat : commandId = formatUuidV4 fun index => if index = 15 then 1 else 0 := by
    decide +kernel
  intro id hid
  rw [hids, List.mem_singleton] at hid
  exact ⟨_, hid.trans hformat⟩

end Sample

/-- A device that is provisioned, and the command of a request of the backend. -/
theorem messages_accepted_sample :
    (∃ record, Sample.provisioned.devices.registry.find "a" = some record ∧
      routeDeviceStateMessageSchema (some (.parsed (buildStateEvent
        (snapshotFor ⟨record, .registrationOnline, false⟩) .registrationOnline 0))) = true ∧
      routeDeviceDirectorySnapshotSchema (some (.parsed
        (buildDeviceDirectorySnapshot [directoryEntryFor record] 1 0))) = true) ∧
      ∃ row, Sample.takeoffStored.table.findCommandById Sample.commandId = some row ∧
        routeCommandAckSchema (some (.parsed (buildSourceAck row none 0).document)) = true ∧
        (toCommandUpdatedEvent (.parsed (buildSourceAck row none 0).document)
          (trackedCommand "dev1" Sample.takeoffRequest)).isSome = true := by
  have hclock : InClockRange 0 := by decide
  have hdevices := devices_of_reachable (Sample.reachable_provisioned [])
  obtain ⟨hstates, hdirectories, hacks⟩ :=
    messages_accepted {} sampleDeviceConfig Sample.takeoffConfig
  refine ⟨?_, ?_⟩
  · have hfound : (Sample.provisioned.devices.registry.find "a").isSome = true := by
      decide +kernel
    obtain ⟨record, hrecord⟩ := Option.isSome_iff_exists.mp hfound
    refine ⟨record, hrecord, hstates _ hdevices "a" record hrecord _ _ 0 hclock,
      hdirectories _ (fun entry hentry => ?_) 1 0 hclock⟩
    exact ⟨_, "a", record, hdevices, hrecord, List.mem_singleton.mp hentry⟩
  · have hfound : (Sample.takeoffStored.table.findCommandById Sample.commandId).map
        CommandRecord.requestId = some "00000000-0000-4000-8000-0000000000aa" := by
      decide +kernel
    obtain ⟨row, hrow, hrequestId⟩ := Option.map_eq_some_iff.mp hfound
    obtain ⟨haccepted, htracked⟩ := (hacks _ Sample.reachable_takeoffStored
      Sample.takeoffStored_ids).1 Sample.commandId row hrow none 0 hclock
    refine ⟨row, hrow, haccepted, htracked "dev1" Sample.takeoffRequest _ (by decide +kernel)
      (by decide +kernel) rfl ?_⟩
    rw [buildSourceAck_requestId, hrequestId]

end CnsServer
