/-
The requests of the backend, as the route service reads them.

The backend checks a request with its schemas, the route service checks the message
again with parsers of its own.  Whatever the first lets through the second takes, with
the same values.

* `isValidDeviceId_of_accepted`, `isValidRequestId_of_uuid`: the identifiers;
* `readUnsigned_document`, `parseParameters_document`, `parseControlParameters_document`:
  the parameters;
* `parseEnvelope_message`: what the two kinds of message share;
* `command_request_understood`: **every accepted request is understood**.
-/
import CnsServer.Backend.Commands
import CnsServer.Command.DevicePolicy

namespace CnsServer

open Schema

/-! ### Identifiers -/

lemma isValidDeviceId_of_accepted {deviceId : String}
    (h : deviceIdSchema (some (.string deviceId)) = true) : isValidDeviceId deviceId = true := by
  obtain ⟨text, htext, hchecks⟩ := string_iff.mp h
  cases htext
  have hmax : utf16Length deviceId ≤ 20 := by
    simpa [StringCheck.holds] using hchecks (.max 20) (by simp)
  have hclass := hchecks _ (List.mem_cons_of_mem _ (List.mem_cons_of_mem _ List.mem_cons_self))
  have hlength := length_le_utf16Length deviceId
  simp only [StringCheck.holds, Bool.and_eq_true] at hclass
  simp only [isValidDeviceId, Bool.and_eq_true, decide_eq_true_eq]
  exact ⟨⟨hclass.1, by omega⟩, hclass.2⟩

lemma isHexDigit_isAlphanum {c : Char} (h : isHexDigit c = true) : c.isAlphanum = true := by
  simp only [isHexDigit, Bool.or_eq_true, Bool.and_eq_true, decide_eq_true_eq] at h
  rw [isAlphanum_iff]
  rcases h with (hdigit | ⟨hlow, hhigh⟩) | ⟨hlow, hhigh⟩
  · exact .inr (.inr hdigit)
  · exact .inr (.inl ⟨hlow, Char.le_trans hhigh (by decide)⟩)
  · exact .inl ⟨hlow, Char.le_trans hhigh (by decide)⟩

/-- The characters of a UUID. -/
lemma isUuid_chars {text : String} (h : isUuid text = true) :
    text.length = 36 ∧ ∀ c ∈ text.toList, c = '-' ∨ isHexDigit c = true := by
  simp only [isUuid, Bool.and_eq_true, decide_eq_true_eq, List.all_eq_true] at h
  refine ⟨String.length_toList.symm.trans h.1, fun c hc => ?_⟩
  obtain ⟨index, hindex⟩ := List.mem_iff_getElem?.mp hc
  have hcheck := h.2 (c, index) (List.mem_zipIdx_iff_getElem?.mpr hindex)
  split at hcheck
  · exact .inl (by simpa using hcheck)
  · exact .inr hcheck

lemma isValidRequestId_of_uuid {text : String} (h : isUuid text = true) :
    isValidRequestId text = true := by
  obtain ⟨hlength, hchars⟩ := isUuid_chars h
  have hnonempty : text.isEmpty = false := by
    rw [← Bool.not_eq_true, String.isEmpty_iff]
    rintro rfl
    cases hlength
  simp only [isValidRequestId, hnonempty, hlength, Bool.and_eq_true, List.all_eq_true]
  refine ⟨by decide, fun c hc => ?_⟩
  rcases hchars c hc with rfl | hhex
  · decide
  · simp [isHexDigit_isAlphanum hhex]

/-! ### Parameters -/

/-- A small number goes through the conversions unchanged. -/
lemma toInt64_natCast {n : ℕ} (h : n < 2 ^ 53) : Json.toInt64 n = n := by
  rw [Json.toInt64, Int.bmod_eq_of_le (by omega) (by omega)]

lemma toUInt64_natCast {n : ℕ} (h : n < 2 ^ 53) : Json.toUInt64 n = n := by
  rw [Json.toUInt64]
  omega

/-- The natural number that an accepted number is. -/
lemma natural_of_accepted {low high : ℕ} {value : Option JsValue}
    (h : number [.int, .min low, .max high] value = true) :
    ∃ n : ℕ, value = some (.number n) ∧ low ≤ n ∧ n ≤ high := by
  obtain ⟨i, rfl, hlow, hhigh⟩ := number_int_iff.mp h
  have hlow' : (low : ℤ) ≤ i := by exact_mod_cast hlow
  have hhigh' : i ≤ (high : ℤ) := by exact_mod_cast hhigh
  obtain ⟨n, rfl⟩ := Int.eq_ofNat_of_zero_le (show 0 ≤ i by omega)
  exact ⟨n, by simp, by omega, by omega⟩

lemma document_natCast {n : ℕ} (h : n < 2 ^ 53) : (JsValue.number n).document = .integer n := by
  have hdocument := document_number (i := n) (by simpa using h)
  rwa [Int.cast_natCast] at hdocument

/-- **A parameter in its range** is read as it is. -/
lemma readUnsigned_document {fields : List (String × JsValue)} {key : String} {low high : ℕ}
    (hbound : high < 2 ^ 53)
    (h : optional (number [.int, .min low, .max high]) (fields.lookup key) = true) :
    ∃ n : Option ℕ, (JsValue.object fields).get key = (n.map fun n => .number n) ∧
      readUnsignedInRange (JsValue.object fields).document key low high = (n, true) := by
  cases hvalue : fields.lookup key with
  | none =>
      refine ⟨none, hvalue, ?_⟩
      rw [readUnsignedInRange, find?_document, JsValue.get, hvalue]
      rfl
  | some value =>
      obtain ⟨n, hn, hlow, hhigh⟩ := natural_of_accepted (optional_iff.mp h value hvalue)
      cases hn
      refine ⟨some n, hvalue, ?_⟩
      have hfound : (JsValue.object fields).document.find? key = some (.integer n) := by
        rw [find?_document, JsValue.get, hvalue, Option.map_some, document_natCast (by omega)]
      rw [readUnsignedInRange, hfound]
      simp only [toInt64_natCast (hhigh.trans_lt hbound), toUInt64_natCast (hhigh.trans_lt hbound)]
      rw [if_neg (by omega), if_neg (by simp; omega)]

/-- The parameters of a configuration are those of the request. -/
structure SameParameters (value : JsValue) (parameters : ConfigParameters) : Prop where
  telemetry : value.get "telemetry_publish_interval_ms" =
    parameters.telemetryPublishIntervalMs.map fun n => .number n
  heartbeat : value.get "heartbeat_interval_ms" =
    parameters.heartbeatIntervalMs.map fun n => .number n
  delay : value.get "mqtt_reconnect_delay_s" =
    parameters.mqttReconnectDelayS.map fun n => .number n
  delayMax : value.get "mqtt_reconnect_delay_max_s" =
    parameters.mqttReconnectDelayMaxS.map fun n => .number n

/-- **Accepted configuration parameters** are parsed, with the same values. -/
lemma parseParameters_document {value : JsValue}
    (h : runtimeConfigParametersSchema (some value) = true) :
    ∃ parameters, parseParameters value.document = .ok parameters ∧
      SameParameters value parameters := by
  simp only [runtimeConfigParametersSchema, refine, Bool.and_eq_true, decide_eq_true_eq] at h
  obtain ⟨⟨hobject, hnonempty⟩, horder⟩ := h
  obtain ⟨fields, hfields, hshape, hknown⟩ := object_iff.mp hobject
  cases hfields
  have hat : ∀ (key : String) (low high : ℕ), high < 2 ^ 53 →
      (key, optional (number [.int, .min (low : ℚ), .max (high : ℚ)])) ∈
        [("telemetry_publish_interval_ms", optional (number [.int, .min 100, .max 60000])),
          ("heartbeat_interval_ms", optional (number [.int, .min 100, .max 60000])),
          ("mqtt_reconnect_delay_s", optional (number [.int, .min 1, .max 3600])),
          ("mqtt_reconnect_delay_max_s", optional (number [.int, .min 1, .max 3600]))] →
      ∃ n : Option ℕ, (JsValue.object fields).get key = (n.map fun n => .number n) ∧
        readUnsignedInRange (JsValue.object fields).document key low high = (n, true) :=
    fun _ _ _ hbound hmem => readUnsigned_document hbound (hshape _ hmem)
  obtain ⟨telemetry, htelemetry, hreadTelemetry⟩ :=
    hat "telemetry_publish_interval_ms" 100 60000 (by decide) (by simp)
  obtain ⟨heartbeat, hheartbeat, hreadHeartbeat⟩ :=
    hat "heartbeat_interval_ms" 100 60000 (by decide) (by simp)
  obtain ⟨delay, hdelay, hreadDelay⟩ :=
    hat "mqtt_reconnect_delay_s" 1 3600 (by decide) (by simp)
  obtain ⟨delayMax, hdelayMax, hreadDelayMax⟩ :=
    hat "mqtt_reconnect_delay_max_s" 1 3600 (by decide) (by simp)
  have hkeys : ∀ key ∈ (JsValue.object fields).document.keys,
      ["telemetry_publish_interval_ms", "heartbeat_interval_ms", "mqtt_reconnect_delay_s",
        "mqtt_reconnect_delay_max_s"].contains key = true := by
    intro key hkey
    obtain ⟨field, hfield, rfl⟩ := List.mem_map.mp (mem_keys_document.mp hkey)
    simpa using hknown rfl field hfield
  have hsize : (JsValue.object fields).document.size ≠ 0 := by
    rw [size_document, Ne, List.length_eq_zero_iff, List.eq_nil_iff_forall_not_mem]
    intro hnone
    obtain ⟨key, hkey⟩ := List.exists_mem_of_length_pos hnonempty
    exact hnone key (mem_keys_document.mpr (List.mem_dedup.mp hkey))
  refine ⟨⟨telemetry, heartbeat, delay, delayMax⟩, ?_,
    ⟨htelemetry, hheartbeat, hdelay, hdelayMax⟩⟩
  rw [parseParameters, if_neg (by simp [isObject_document, hsize]),
    if_neg (by rw [List.all_eq_true.mpr hkeys]; decide)]
  simp only [hreadTelemetry, hreadHeartbeat, hreadDelay, hreadDelayMax]
  rw [if_neg (by simp)]
  cases delay with
  | none => rfl
  | some d =>
      cases delayMax with
      | none => rfl
      | some m =>
          rw [hdelay, hdelayMax] at horder
          have hle : d ≤ m := by
            have hcast : (d : ℚ) ≤ m := by simpa using horder
            exact_mod_cast hcast
          exact if_neg (by omega)

lemma parsePwm_document {n : ℕ} (hlow : 1000 ≤ n) (hhigh : n ≤ 2000) :
    parsePwm (JsValue.number n).document = .ok n := by
  rw [document_natCast (by omega), parsePwm]
  simp only [toInt64_natCast (show n < 2 ^ 53 by omega),
    toUInt64_natCast (show n < 2 ^ 53 by omega)]
  rw [if_neg (by omega), if_neg (by simp; omega)]

/-- The four pulse widths are those of the request; the other commands have none. -/
def SamePwm (value : JsValue) (parameters : ControlParameters) : Prop :=
  value.get "pwm_us" = parameters.pwmUs.map fun (a, b, c, d) =>
    .array [.number a, .number b, .number c, .number d]

/-- An object with one property. -/
lemma size_of_single {fields : List (String × JsValue)} {key : String}
    (hknown : ∀ field ∈ fields, field.1 = key) {value : JsValue}
    (hvalue : fields.lookup key = some value) : (JsValue.object fields).document.size = 1 := by
  have hall : ∀ name ∈ (JsValue.object fields).document.keys, name = key := by
    intro name hname
    obtain ⟨field, hfield, rfl⟩ := List.mem_map.mp (mem_keys_document.mp hname)
    exact hknown field hfield
  have hmem : key ∈ (JsValue.object fields).document.keys := by
    obtain ⟨⟨name, other⟩, hfield⟩ : ∃ field, field ∈ fields := by
      cases fields with
      | nil => cases hvalue
      | cons field fields => exact ⟨field, List.mem_cons_self⟩
    exact mem_keys_document.mpr (List.mem_map.mpr ⟨_, hfield, hknown _ hfield⟩)
  rw [size_document]
  have hrepeated := List.eq_replicate_of_mem hall
  have hnodup := @nodup_keys_document fields
  rw [hrepeated, List.nodup_replicate] at hnodup
  exact le_antisymm hnodup (List.length_pos_of_mem hmem)

/-- **Accepted control parameters** are parsed, with the same values. -/
lemma parseControlParameters_document {value : JsValue} {name : String}
    (h : (name = "set_motor_pwm" ∧ setMotorPwmParametersSchema (some value) = true) ∨
      name ∈ ["takeoff", "land", "emergency_stop"] ∧
        emptyControlParametersSchema (some value) = true) :
    ∃ command parameters, parseCommandText name = some command ∧ name = commandText command ∧
      parseControlParameters value.document command = .ok parameters ∧
      SamePwm value parameters := by
  rcases h with ⟨rfl, hvalue⟩ | ⟨hname, hvalue⟩
  · obtain ⟨fields, hfields, hshape, hknown⟩ := object_iff.mp hvalue
    cases hfields
    have htuple : tuple [pwmValueSchema, pwmValueSchema, pwmValueSchema, pwmValueSchema]
        (fields.lookup "pwm_us") = true := hshape _ List.mem_cons_self
    rw [tuple.eq_def] at htuple
    split at htuple
    · next items hitems =>
        match items, htuple with
        | [a, b, c, d], htuple =>
          have hpwm : ∀ item, pwmValueSchema (some item) = true →
              ∃ n : ℕ, item = .number n ∧ parsePwm item.document = .ok n := by
            intro item hitem
            obtain ⟨n, hn, hlow, hhigh⟩ :=
              @natural_of_accepted 1000 2000 _ (by simpa [pwmValueSchema] using hitem)
            cases hn
            exact ⟨n, rfl, parsePwm_document hlow hhigh⟩
          simp only [List.length_cons, List.length_nil, List.zip_cons_cons, List.zip_nil_right,
            List.all_cons, List.all_nil, Bool.and_true, Bool.and_eq_true] at htuple
          obtain ⟨-, ha, hb, hc, hd⟩ := htuple
          obtain ⟨a, rfl, hparseA⟩ := hpwm a ha
          obtain ⟨b, rfl, hparseB⟩ := hpwm b hb
          obtain ⟨c, rfl, hparseC⟩ := hpwm c hc
          obtain ⟨d, rfl, hparseD⟩ := hpwm d hd
          refine ⟨.setMotorPwm, ⟨some (a, b, c, d)⟩, rfl, rfl, ?_, hitems⟩
          have hsize := size_of_single (by simpa using hknown rfl) hitems
          have hfound : (JsValue.object fields).document.find? "pwm_us" =
              some (.array [(JsValue.number a).document, (JsValue.number b).document,
                (JsValue.number c).document, (JsValue.number d).document]) := by
            rw [find?_document, JsValue.get, hitems]
            rfl
          rw [parseControlParameters, isObject_document, hsize, hfound]
          simp only [hparseA, hparseB, hparseC, hparseD]
          rfl
    · cases htuple
  · obtain ⟨fields, hfields, -, hknown⟩ := object_iff.mp hvalue
    cases hfields
    have hempty : fields = [] := by
      rw [List.eq_nil_iff_forall_not_mem]
      exact fun field hfield => by simpa using hknown rfl field hfield
    subst hempty
    simp only [List.mem_cons, List.not_mem_nil, or_false] at hname
    rcases hname with rfl | rfl | rfl
    · exact ⟨.takeoff, ⟨none⟩, rfl, rfl, rfl, rfl⟩
    · exact ⟨.land, ⟨none⟩, rfl, rfl, rfl, rfl⟩
    · exact ⟨.emergencyStop, ⟨none⟩, rfl, rfl, rfl, rfl⟩

/-! ### Messages -/

/-- The message of a request, without its command. -/
def messageProperties (deviceId requestId : String) (parameters : JsValue) :
    List (String × JsValue) :=
  [("schema_version", .number schemaVersion), ("request_id", .string requestId),
    ("target", .object [("device_id", .string deviceId)]), ("parameters", parameters)]

/-- **The envelope of a message** is accepted: its number, its version and its target. -/
lemma parseEnvelope_message {deviceId requestId : String} {parameters : JsValue}
    {fields : List (String × JsValue)} {allowed : List String}
    (hid : isValidDeviceId deviceId = true) (hnumber : isValidRequestId requestId = true)
    (hallowed : ∀ field ∈ messageProperties deviceId requestId parameters ++ fields,
      allowed.contains field.1 = true) :
    parseEnvelope allowed
      (JsValue.object (messageProperties deviceId requestId parameters ++ fields)).document
        .hostApp = .ok (requestId, .device deviceId) := by
  set root := (JsValue.object (messageProperties deviceId requestId parameters ++ fields)).document
    with hroot
  have hversion : root.find? "schema_version" = some (.integer 1) := by
    rw [hroot, find?_document]
    exact congrArg some (document_number (i := 1) (by decide))
  have hrequest : root.find? "request_id" = some (.string requestId) := by
    rw [hroot, find?_document]
    rfl
  have htarget : root.find? "target" = some (.object [("device_id", .string deviceId)]) := by
    rw [hroot, find?_document]
    rfl
  have hkeys : root.keys.all (allowed.contains ·) = true := by
    rw [List.all_eq_true]
    intro key hkey
    obtain ⟨field, hfield, rfl⟩ := List.mem_map.mp (mem_keys_document.mp hkey)
    exact hallowed field hfield
  have hid' : requestIdOf root = some requestId := by
    rw [requestIdOf, Json.stringField?, hrequest]
    simp [Json.asString?, hnumber]
  have hone : hasSchemaVersionOne root = true := by
    rw [hasSchemaVersionOne, hversion]
    rfl
  have hparsed : parseTarget (.object [("device_id", .string deviceId)]) .hostApp =
      .ok (.device deviceId) := by
    simp [parseTarget, Json.isObject, Json.size, Json.stringField?, Json.find?, Json.asString?, hid]
  rw [parseEnvelope, isObject_document, hid', hkeys, hone, htarget]
  simp [hparsed]

/-- The route service has understood the request: it holds a request of the same type and
with the same number, for the device, with the command and the parameters there are. -/
def Understood (deviceId : String) (request : JsValue) : ParsedSourceRequest → Prop
  | .config config =>
      request.get "type" = some (.string "config") ∧
        request.get "client_request_id" = some (.string config.requestId) ∧
        config.target = .device deviceId ∧
        ∃ parameters, request.get "parameters" = some parameters ∧
          SameParameters parameters config.parameters
  | .control control =>
      request.get "type" = some (.string "control") ∧
        request.get "client_request_id" = some (.string control.requestId) ∧
        control.target = .device deviceId ∧
        request.get "command" = some (.string (commandText control.command)) ∧
        ∃ parameters, request.get "parameters" = some parameters ∧
          SamePwm parameters control.parameters
  | .rejected _ => False

lemma config_understood {deviceId requestId : String} {request parameters : JsValue}
    (hid : isValidDeviceId deviceId = true) (h : ConfigRequest request requestId parameters) :
    Understood deviceId request (parseSourceRequest .config
      (some (buildRouteCommandRequest deviceId request).document) .hostApp) := by
  have hmessage : buildRouteCommandRequest deviceId request =
      .object (messageProperties deviceId requestId parameters ++ []) := by
    rw [buildRouteCommandRequest, h.kind, h.number, h.content]
    rfl
  have henvelope := @parseEnvelope_message deviceId requestId parameters []
    ["schema_version", "request_id", "target", "parameters"] hid
    (isValidRequestId_of_uuid h.uuid) (by simp [messageProperties])
  obtain ⟨parsed, hparsed, hsame⟩ := parseParameters_document h.accepted
  have hfound : (JsValue.object
      (messageProperties deviceId requestId parameters ++ [])).document.find? "parameters" =
      some parameters.document := by
    rw [find?_document]
    rfl
  rw [hmessage, parseSourceRequest, parseSourceJson, parseSourceConfigJson, henvelope]
  simp only [hfound, hparsed]
  exact ⟨h.kind, h.number, rfl, parameters, h.content, hsame⟩

lemma control_understood {deviceId requestId command : String} {request parameters : JsValue}
    (hid : isValidDeviceId deviceId = true)
    (h : ControlRequest request requestId command parameters) :
    Understood deviceId request (parseSourceRequest .control
      (some (buildRouteCommandRequest deviceId request).document) .hostApp) := by
  set fields : List (String × JsValue) := [("command", .string command)] with hfields
  have hmessage : buildRouteCommandRequest deviceId request =
      .object (messageProperties deviceId requestId parameters ++ fields) := by
    rw [buildRouteCommandRequest, h.kind, h.number, h.content, h.name]
    rfl
  have henvelope := @parseEnvelope_message deviceId requestId parameters fields
    ["schema_version", "request_id", "target", "command", "parameters"] hid
    (isValidRequestId_of_uuid h.uuid) (by simp [messageProperties, hfields])
  obtain ⟨found, parsed, hcommand, hname, hparsed, hsame⟩ :=
    parseControlParameters_document h.accepted
  have hcommand' : parseControlCommand (JsValue.object
      (messageProperties deviceId requestId parameters ++ fields)).document = .ok found := by
    rw [parseControlCommand, Json.stringField?, find?_document, hfields]
    simp [JsValue.get, messageProperties, JsValue.document, Json.asString?, hcommand,
      List.lookup_cons]
  have hfound : (JsValue.object
      (messageProperties deviceId requestId parameters ++ fields)).document.find? "parameters" =
      some parameters.document := by
    rw [find?_document]
    rfl
  rw [hmessage, parseSourceRequest, parseSourceJson, parseSourceControlJson, henvelope]
  simp only [hcommand', hfound, hparsed]
  exact ⟨h.kind, h.number, rfl, hname ▸ h.name, parameters, h.content, hsame⟩

/-- **Every accepted request is understood**: the parser of its type takes the message and
finds the number, the device, the command and the parameters of the request. -/
theorem command_request_understood {deviceId : String} {request : JsValue}
    (hid : deviceIdSchema (some (.string deviceId)) = true)
    (h : deviceCommandRequestSchema (some request) = true) :
    Understood deviceId request (parseSourceRequest (topicType request)
      (some (buildRouteCommandRequest deviceId request).document) .hostApp) := by
  have hvalid := isValidDeviceId_of_accepted hid
  rcases request_of_accepted h with ⟨requestId, parameters, hconfig⟩ |
    ⟨requestId, command, parameters, hcontrol⟩
  · rw [show topicType request = .config by rw [topicType, hconfig.kind]; rfl]
    exact config_understood hvalid hconfig
  · rw [show topicType request = .control by rw [topicType, hcontrol.kind]; rfl]
    exact control_understood hvalid hcontrol

namespace Sample

/-- A request for two parameters. -/
def configBody : JsValue :=
  .object [("session_id", .string "session-1"),
    ("client_request_id", .string "123e4567-e89b-12d3-A456-426614174000"),
    ("type", .string "config"),
    ("parameters", .object [("mqtt_reconnect_delay_s", .number 5),
      ("mqtt_reconnect_delay_max_s", .number 60)])]

end Sample

theorem command_request_understood_config :
    Understood "CNS-0001" Sample.configBody (parseSourceRequest .config
      (some (buildRouteCommandRequest "CNS-0001" Sample.configBody).document) .hostApp) :=
  @command_request_understood "CNS-0001" Sample.configBody (by decide +kernel)
    (by decide +kernel)

end CnsServer
