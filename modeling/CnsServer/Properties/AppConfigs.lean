/-
Which configurations are accepted, and as what.

* `Json.wellFormed`: what the library makes of a text;
* `fields_eq_iff`: an object by its fields;
* `section_ok_iff`: a section by what is read of it;
* `AppConfig.document`, `AppConfig.Valid`: the document of a configuration, and the bounds;
* `parseDatabase_ok_iff`, …, `parseCommand_ok_iff`: the sections;
* `loadAppConfig_ok_iff`: **the file**.
-/
import CnsServer.Config.AppConfig
import Mathlib.Data.List.Perm.Basic
import Mathlib.Data.String.Basic

namespace CnsServer

namespace Json

/-- The order of the keys in an object. -/
def InKeyOrder (fields : List (String × Json)) : Prop :=
  (fields.map Prod.fst).Pairwise fun key other => key.toList < other.toList

instance (fields : List (String × Json)) : Decidable (InKeyOrder fields) :=
  inferInstanceAs (Decidable (List.Pairwise _ _))

mutual

/-- What `Json::parse` returns: integers are of 64 bits, and the keys of an object are in
order. -/
def wellFormed : Json → Bool
  | integer i => -2 ^ 63 ≤ i && i < 2 ^ 64
  | array items => wellFormedItems items
  | object fields => InKeyOrder fields && wellFormedFields fields
  | _ => true

def wellFormedItems : List Json → Bool
  | [] => true
  | item :: items => item.wellFormed && wellFormedItems items

def wellFormedFields : List (String × Json) → Bool
  | [] => true
  | (_, value) :: fields => value.wellFormed && wellFormedFields fields

end

lemma wellFormed_find? {object value : Json} {key : String} (h : object.wellFormed = true)
    (hfind : object.find? key = some value) : value.wellFormed = true := by
  cases object with
  | object fields =>
      rw [wellFormed, Bool.and_eq_true] at h
      replace h := h.2
      rw [find?] at hfind
      induction fields with
      | nil => cases hfind
      | cons field fields ih =>
          obtain ⟨name, first⟩ := field
          rw [wellFormedFields, Bool.and_eq_true] at h
          rw [List.lookup_cons] at hfind
          split at hfind
          · cases hfind
            exact h.1
          · exact ih hfind h.2
  | _ => cases hfind

lemma lookup_eq_some_iff_mem {fields : List (String × Json)} {key : String} {value : Json}
    (hnodup : (fields.map Prod.fst).Nodup) :
    fields.lookup key = some value ↔ (key, value) ∈ fields := by
  induction fields with
  | nil => simp
  | cons field fields ih =>
      obtain ⟨name, first⟩ := field
      rw [List.map_cons, List.nodup_cons] at hnodup
      rw [List.lookup_cons, List.mem_cons, Prod.mk.injEq]
      by_cases hname : key = name
      · subst hname
        have hnew : (key, value) ∉ fields := by
          intro hmem
          exact hnodup.1 (List.mem_map.mpr ⟨_, hmem, rfl⟩)
        simp [hnew, eq_comm]
      · rw [beq_false_of_ne hname, ih hnodup.2]
        simp [hname]

/-- Fields in order are known by the values found under the keys. -/
lemma fields_eq_iff {fields expected : List (String × Json)}
    (hfields : InKeyOrder fields)
    (hexpected : InKeyOrder expected) :
    fields = expected ↔ (∀ key ∈ fields.map Prod.fst, key ∈ expected.map Prod.fst) ∧
      ∀ field ∈ expected, fields.lookup field.1 = some field.2 := by
  have hnodup {fields : List (String × Json)} (h : InKeyOrder fields) :
      (fields.map Prod.fst).Nodup := by
    refine h.imp fun hless hsame => ?_
    rw [hsame] at hless
    exact lt_irrefl _ hless
  constructor
  · rintro rfl
    exact ⟨fun _ hkey => hkey, fun field hfield =>
      (lookup_eq_some_iff_mem (hnodup hfields)).mpr hfield⟩
  · rintro ⟨hkeys, hvalues⟩
    have hmem (field : String × Json) : field ∈ fields ↔ field ∈ expected := by
      constructor
      · intro hfield
        obtain ⟨other, hother, hname⟩ :=
          List.mem_map.mp (hkeys field.1 (List.mem_map_of_mem hfield))
        have hsame := hvalues other hother
        rw [hname, (lookup_eq_some_iff_mem (hnodup hfields)).mpr hfield] at hsame
        rw [show field = other from Prod.ext hname.symm (Option.some.inj hsame)]
        exact hother
      · intro hfield
        exact (lookup_eq_some_iff_mem (hnodup hfields)).mp (hvalues field hfield)
    have hperm : fields.Perm expected :=
      (List.perm_ext_iff_of_nodup (hnodup hfields).of_map (hnodup hexpected).of_map).mpr hmem
    rw [InKeyOrder, List.pairwise_map] at hfields hexpected
    exact hperm.eq_of_pairwise (fun a b _ _ hab hba => (lt_asymm hab hba).elim) hfields hexpected

end Json

namespace AppConfig

/-! ### The readers -/

section

variable {object value : Json} {key path message : String} {allowed : List String}

@[simp] lemma bind_ok_iff {α β : Type} {x : Except String α} {f : α → Except String β} {b : β} :
    (x >>= f) = .ok b ↔ ∃ a, x = .ok a ∧ f a = .ok b := by
  cases x <;> simp [bind, Except.bind]

@[simp] lemma return_ok_iff {α : Type} {a b : α} :
    (return a : Except String α) = .ok b ↔ a = b := by
  simp [pure, Except.pure]

@[simp] lemma failure_ne_ok {α : Type} {a : α} : failure path message ≠ .ok a := by
  simp [failure]

@[simp] lemma require_ok_iff {condition : Bool} {u : Unit} :
    require condition path message = .ok u ↔ condition = true := by
  cases condition <;> simp [require]

@[simp] lemma onlyFields_ok_iff {unknown : String → String} {u : Unit} :
    onlyFields object allowed unknown = .ok u ↔ ∀ field ∈ object.keys, field ∈ allowed := by
  rw [onlyFields]
  split
  · next field hfind =>
    have hunknown := List.find?_some hfind
    have hmem := List.mem_of_find?_eq_some hfind
    simp only [failure_ne_ok, false_iff, not_forall]
    exact ⟨field, hmem, by simpa using hunknown⟩
  · next hnone => simpa using hnone

lemma readObject_ok_iff : readObject object key path allowed = .ok value ↔
    object.find? key = some value ∧ value.isObject = true ∧
      ∀ field ∈ value.keys, field ∈ allowed := by
  rw [readObject]
  split
  · next hnone => simp [hnone]
  · next found hfound =>
    rw [hfound, Option.some.injEq]
    split
    · next hother =>
      simp only [failure_ne_ok, false_iff]
      rintro ⟨rfl, hobject, -⟩
      simp [hother] at hobject
    · next hobject =>
      simp only [Bool.not_eq_false] at hobject
      simp only [bind_ok_iff, return_ok_iff, onlyFields_ok_iff]
      constructor
      · rintro ⟨-, hfields, rfl⟩
        exact ⟨rfl, hobject, hfields⟩
      · rintro ⟨rfl, -, hfields⟩
        exact ⟨(), hfields, rfl⟩

lemma readString_ok_iff {text : String} :
    readString object key path = .ok text ↔ object.find? key = some (.string text) := by
  rw [readString]
  split
  · next hnone => simp [hnone]
  · next other htext => simp [htext]
  · next other hother hfound =>
    simp only [hfound, failure_ne_ok, Option.some.injEq, false_iff]
    exact hother text

/-- Integers that do not fit are negative when they are read as signed ones. -/
lemma readInteger_ok_iff {minimum maximum n : ℕ} (hobject : object.wellFormed = true)
    (hmaximum : maximum < 2 ^ 63) :
    readInteger object key path minimum maximum = .ok n ↔
      object.find? key = some (.integer n) ∧ minimum ≤ n ∧ n ≤ maximum := by
  rw [readInteger]
  split
  · next hnone => simp [hnone]
  · next i hfound =>
    have hrange := Json.wellFormed_find? hobject hfound
    simp only [Json.wellFormed, Bool.and_eq_true, decide_eq_true_eq] at hrange
    have hsigned : Json.toInt64 i = if i < 2 ^ 63 then i else i - 2 ^ 64 := by
      rw [Json.toInt64, Int.bmod_def]
      split_ifs <;> omega
    have hunsigned (hpos : 0 ≤ i) : Json.toUInt64 i = i.toNat := by
      rw [Json.toUInt64, Int.emod_eq_of_lt hpos hrange.2]
    simp only [hfound, Option.some.injEq, Json.integer.injEq]
    split
    · next hnegative =>
      rw [hsigned] at hnegative
      simp only [failure_ne_ok, false_iff]
      split_ifs at hnegative <;> omega
    · next hpositive =>
      rw [hsigned] at hpositive
      have hpos : 0 ≤ i ∧ i < 2 ^ 63 := by
        split_ifs at hpositive <;> omega
      rw [hunsigned hpos.1]
      split
      · simp only [failure_ne_ok, false_iff]
        omega
      · simp only [Except.ok.injEq]
        omega
  · next hother hfound =>
    simp only [hfound, failure_ne_ok, Option.some.injEq, false_iff, not_and]
    intro hinteger
    exact absurd hinteger (hother n)

lemma toUInt16_toNat (port : UInt16) : port.toNat.toUInt16 = port := by
  simp [Nat.toUInt16]

lemma toNat_toUInt16 {port : ℕ} (h : port ≤ 65535) : port.toUInt16.toNat = port := by
  simp [Nat.toUInt16, UInt16.toNat_ofNat']
  omega

/-- **A section** is read as something, exactly if its fields are those that are read as that. -/
lemma section_ok_iff {α : Type} {parse : Json → Except String α} {a : α} {valid : Prop}
    {fields : List (String × Json)} (hroot : object.wellFormed = true)
    (hallowed : allowed ⊆ fields.map Prod.fst) (hfields : fields.map Prod.fst ⊆ allowed)
    (hsorted : Json.InKeyOrder fields)
    (hparse : ∀ value : Json, value.wellFormed = true → (parse value = .ok a ↔
      (∀ field ∈ fields, value.find? field.1 = some field.2) ∧ valid)) :
    (readObject object key path allowed >>= parse) = .ok a ↔
      object.find? key = some (.object fields) ∧ valid := by
  rw [bind_ok_iff]
  constructor
  · rintro ⟨value, hread, hvalue⟩
    obtain ⟨hfind, hobject, hkeys⟩ := readObject_ok_iff.mp hread
    have hwellFormed := Json.wellFormed_find? hroot hfind
    obtain ⟨hvalues, hvalid⟩ := (hparse value hwellFormed).mp hvalue
    refine ⟨?_, hvalid⟩
    cases value with
    | object others =>
        rw [Json.wellFormed, Bool.and_eq_true, decide_eq_true_eq] at hwellFormed
        rw [hfind, (Json.fields_eq_iff hwellFormed.1 hsorted).mpr
          ⟨fun name hname => hallowed (hkeys name hname), hvalues⟩]
    | _ => cases hobject
  · rintro ⟨hfind, hvalid⟩
    refine ⟨.object fields, readObject_ok_iff.mpr ⟨hfind, rfl, fun name hname => ?_⟩,
      (hparse _ (Json.wellFormed_find? hroot hfind)).mpr ⟨fun field hfield => ?_, hvalid⟩⟩
    · exact hfields hname
    · exact ((Json.fields_eq_iff hsorted hsorted).mp rfl).2 field hfield

end

end AppConfig

/-! ### The documents of the sections -/

/-- The section that is read as the configuration. -/
def DatabaseSection.document (config : DatabaseSection) : Json :=
  .object [("connect_timeout_seconds", .integer config.connectTimeout),
    ("host", .string config.host), ("name", .string config.name),
    ("password", .string config.password), ("port", .integer config.port.toNat),
    ("reconnect_interval_seconds", .integer config.reconnectInterval),
    ("user", .string config.user)]

structure DatabaseSection.Valid (config : DatabaseSection) : Prop where
  port : 1 ≤ config.port.toNat
  password : config.password ≠ ""
  connectTimeout : 1 ≤ config.connectTimeout ∧ config.connectTimeout ≤ 60
  reconnectInterval : 1 ≤ config.reconnectInterval ∧ config.reconnectInterval ≤ 300

/-- The section that is read as the configuration. -/
def MqttConfig.document (config : MqttConfig) : Json :=
  .object [("client_id", .string config.clientId), ("host", .string config.host),
    ("keepalive_seconds", .integer config.keepalive),
    ("max_payload_bytes", .integer config.maxPayloadBytes), ("password", .string config.password),
    ("port", .integer config.port.toNat),
    ("reconnect_delay_max_seconds", .integer config.reconnectDelayMax),
    ("reconnect_delay_seconds", .integer config.reconnectDelay),
    ("topic_namespace", .string config.topicNamespace), ("username", .string config.username)]

structure MqttConfig.Valid (config : MqttConfig) : Prop where
  port : 1 ≤ config.port.toNat
  keepalive : 1 ≤ config.keepalive ∧ config.keepalive ≤ 3600
  clientId : config.clientId ≠ ""
  password : config.username = "" → config.password = ""
  reconnectDelay : 1 ≤ config.reconnectDelay ∧ config.reconnectDelay ≤ config.reconnectDelayMax ∧
    config.reconnectDelayMax ≤ 3600
  topicNamespace : AppConfig.isValidTopicNamespace config.topicNamespace = true
  maxPayloadBytes : 1024 ≤ config.maxPayloadBytes ∧ config.maxPayloadBytes ≤ 1048576

def LogLevel.document (level : LogLevel) : Json := .object [("level", .string level.text)]

def AppConfig.queuesDocument (capacity : ℕ) : Json :=
  .object [("mqtt_inbound_capacity", .integer capacity)]

def DeviceStateConfig.document (config : DeviceStateConfig) : Json :=
  .object [("offline_timeout_seconds", .integer config.offlineTimeout),
    ("telemetry_flush_interval_seconds", .integer config.telemetryFlushInterval)]

/-- A device is given more time than the connection. -/
structure DeviceStateConfig.Valid (config : DeviceStateConfig) (keepalive : ℕ) : Prop where
  telemetryFlushInterval : 1 ≤ config.telemetryFlushInterval ∧ config.telemetryFlushInterval ≤ 60
  offlineTimeout : 61 ≤ config.offlineTimeout ∧ config.offlineTimeout ≤ 86400
  keepalive : keepalive < config.offlineTimeout

def FixedSourceKind.text : FixedSourceKind → String
  | .hostApp => "host_app"
  | .controlCenter => "control_center"

def FixedSource.document (source : FixedSource) : Json :=
  .object [("source_id", .string source.sourceId), ("source_kind", .string source.sourceKind.text)]

def CommandConfig.document (config : CommandConfig) : Json :=
  .object [("cleanup_batch_size", .integer config.cleanupBatchSize),
    ("cleanup_interval_seconds", .integer config.cleanupInterval),
    ("config_timeout_seconds", .integer config.configTimeout),
    ("control_timeout_seconds", .integer config.controlTimeout),
    ("fixed_sources", .array (config.fixedSources.map FixedSource.document)),
    ("max_inflight_commands", .integer config.maxInflightCommands),
    ("terminal_retention_days", .integer config.terminalRetention)]

structure CommandConfig.Valid (config : CommandConfig) : Prop where
  configTimeout : 1 ≤ config.configTimeout ∧ config.configTimeout ≤ 300
  controlTimeout : 1 ≤ config.controlTimeout ∧ config.controlTimeout ≤ 300
  terminalRetention : 1 ≤ config.terminalRetention ∧ config.terminalRetention ≤ 3650
  cleanupInterval : 60 ≤ config.cleanupInterval ∧ config.cleanupInterval ≤ 86400
  cleanupBatchSize : 1 ≤ config.cleanupBatchSize ∧ config.cleanupBatchSize ≤ 1000
  maxInflightCommands : 1 ≤ config.maxInflightCommands ∧ config.maxInflightCommands ≤ 4096
  sourceIds : (config.fixedSources.map FixedSource.sourceId).Nodup
  validIds : ∀ source ∈ config.fixedSources, AppConfig.isValidSourceId source.sourceId = true

def AppConfig.document (config : AppConfig) : Json :=
  .object [("command", config.command.document), ("database", config.database.document),
    ("device_state", config.deviceState.document), ("logging", config.level.document),
    ("mqtt", config.mqtt.document),
    ("queues", AppConfig.queuesDocument config.mqttInboundCapacity)]

/-- What the components of the service rely on. -/
structure AppConfig.Valid (config : AppConfig) : Prop where
  database : config.database.Valid
  mqtt : config.mqtt.Valid
  mqttInboundCapacity : 1 ≤ config.mqttInboundCapacity ∧ config.mqttInboundCapacity ≤ 65536
  deviceState : config.deviceState.Valid config.mqtt.keepalive
  command : config.command.Valid

namespace AppConfig

section

variable {root : Json}

lemma parseDatabase_ok_iff {config : DatabaseSection} (hroot : root.wellFormed = true) :
    parseDatabase root = .ok config ↔
      root.find? "database" = some config.document ∧ config.Valid := by
  refine section_ok_iff hroot (by simp) (by simp) (by simp only [Json.InKeyOrder, List.map]; decide)
    fun object hobject => ?_
  simp (disch := decide) only [bind_ok_iff, return_ok_iff, readString_ok_iff, require_ok_iff,
    readInteger_ok_iff hobject]
  constructor
  · rintro ⟨host, hhost, port, ⟨hport, hportLow, hportHigh⟩, name, hname, user, huser, password,
      hpassword, -, hsome, timeout, ⟨htimeout, hbounds⟩, reconnect, ⟨hreconnect, hreconnectBounds⟩,
      rfl⟩
    have hsame := toNat_toUInt16 hportHigh
    refine ⟨by simp [*], ⟨by rw [hsame]; exact hportLow, by simpa using hsome, ?_,
      hreconnectBounds⟩⟩
    dsimp only
    omega
  · rintro ⟨hfields, hvalid⟩
    simp only [List.forall_mem_cons] at hfields
    obtain ⟨htimeout, hhost, hname, hpassword, hport, hreconnect, huser, -⟩ := hfields
    have hbounds := hvalid.connectTimeout
    refine ⟨_, hhost, _, ⟨hport, hvalid.port, ?_⟩, _, hname, _, huser, _, hpassword, (),
      by simpa using hvalid.password, config.connectTimeout.toNat, ⟨?_, by omega, by omega⟩, _,
      ⟨hreconnect, hvalid.reconnectInterval⟩, ?_⟩
    · have := config.port.toNat_lt
      omega
    · rw [htimeout, Int.toNat_of_nonneg (by omega)]
    · rw [toUInt16_toNat, Int.toNat_of_nonneg (by omega)]

lemma parseMqtt_ok_iff {config : MqttConfig} (hroot : root.wellFormed = true) :
    parseMqtt root = .ok config ↔ root.find? "mqtt" = some config.document ∧ config.Valid := by
  refine section_ok_iff hroot (by simp) (by simp) (by simp only [Json.InKeyOrder, List.map]; decide)
    fun object hobject => ?_
  simp (disch := decide) only [bind_ok_iff, return_ok_iff, readString_ok_iff, require_ok_iff,
    readInteger_ok_iff hobject]
  constructor
  · rintro ⟨host, hhost, port, ⟨hport, hportLow, hportHigh⟩, keepalive, ⟨hkeepalive, hbounds⟩,
      clientId, hclientId, -, hsome, username, husername, password, hpassword, -, hnone,
      delay, ⟨hdelay, hdelayLow, -⟩, delayMax, ⟨hdelayMax, -, hdelayHigh⟩, -, hless,
      topicNamespace, htopic, -, hsegment, maxPayload, ⟨hmaxPayload, hpayload⟩, rfl⟩
    have hsame := toNat_toUInt16 hportHigh
    refine ⟨by simp [*], ⟨by rw [hsame]; exact hportLow, hbounds, by simpa using hsome, ?_,
      ⟨hdelayLow, by simpa using hless, hdelayHigh⟩, hsegment, hpayload⟩⟩
    intro hempty
    simpa [show username = "" from hempty] using hnone
  · rintro ⟨hfields, hvalid⟩
    simp only [List.forall_mem_cons] at hfields
    obtain ⟨hclientId, hhost, hkeepalive, hmaxPayload, hpassword, hport, hdelayMax, hdelay, htopic,
      husername, -⟩ := hfields
    have hdelays := hvalid.reconnectDelay
    refine ⟨_, hhost, _, ⟨hport, hvalid.port, ?_⟩, _, ⟨hkeepalive, hvalid.keepalive⟩, _, hclientId,
      (), by simpa using hvalid.clientId, _, husername, _, hpassword, (), ?_, _,
      ⟨hdelay, by omega, by omega⟩, _, ⟨hdelayMax, by omega, by omega⟩, (),
      by simpa using hdelays.2.1, _, htopic, (), hvalid.topicNamespace, _,
      ⟨hmaxPayload, hvalid.maxPayloadBytes⟩, ?_⟩
    · have := config.port.toNat_lt
      omega
    · by_cases hempty : config.username = ""
      · simp [hempty, hvalid.password hempty]
      · simp [hempty]
    · rw [toUInt16_toNat]

lemma parseLevel_eq_some_iff {text : String} {level : LogLevel} :
    parseLevel text = some level ↔ text = level.text := by
  rw [parseLevel]
  split_ifs <;> cases level <;> simp_all [LogLevel.text]

lemma parseLogging_ok_iff {level : LogLevel} (hroot : root.wellFormed = true) :
    parseLogging root = .ok level ↔ root.find? "logging" = some level.document := by
  -- A section with no bounds on its values.
  rw [← and_true (root.find? "logging" = some level.document)]
  refine section_ok_iff hroot (by simp) (by simp) (by simp [Json.InKeyOrder]) fun object _ => ?_
  simp only [bind_ok_iff, readString_ok_iff, and_true, List.forall_mem_singleton]
  constructor
  · rintro ⟨text, htext, hlevel⟩
    split at hlevel
    · next parsed hparsed =>
      rw [return_ok_iff] at hlevel
      subst hlevel
      rw [htext, parseLevel_eq_some_iff.mp hparsed]
    · exact absurd hlevel failure_ne_ok
  · intro htext
    exact ⟨_, htext, by rw [parseLevel_eq_some_iff.mpr rfl]; rfl⟩

lemma parseQueues_ok_iff {capacity : ℕ} (hroot : root.wellFormed = true) :
    parseQueues root = .ok capacity ↔
      root.find? "queues" = some (queuesDocument capacity) ∧ 1 ≤ capacity ∧ capacity ≤ 65536 := by
  refine section_ok_iff hroot (by simp) (by simp) (by simp [Json.InKeyOrder])
    fun object hobject => ?_
  rw [readInteger_ok_iff hobject (by decide), List.forall_mem_singleton]

lemma parseDeviceState_ok_iff {config : DeviceStateConfig} {keepalive : ℕ}
    (hroot : root.wellFormed = true) :
    parseDeviceState root keepalive = .ok config ↔
      root.find? "device_state" = some config.document ∧ config.Valid keepalive := by
  refine section_ok_iff hroot (by simp) (by simp) (by simp only [Json.InKeyOrder, List.map]; decide)
    fun object hobject => ?_
  simp (disch := decide) only [bind_ok_iff, return_ok_iff, require_ok_iff,
    readInteger_ok_iff hobject]
  constructor
  · rintro ⟨flush, ⟨hflush, hbounds⟩, offline, ⟨hoffline, htimeout⟩, -, hless, rfl⟩
    exact ⟨by simp [*], ⟨hbounds, htimeout, by simpa using hless⟩⟩
  · rintro ⟨hfields, hvalid⟩
    simp only [List.forall_mem_cons] at hfields
    exact ⟨_, ⟨hfields.2.1, hvalid.telemetryFlushInterval⟩, _,
      ⟨hfields.1, hvalid.offlineTimeout⟩, (), by simpa using hvalid.keepalive, rfl⟩

/-! ### The fixed sources -/

lemma parseSourceKind_ok_iff {text path : String} {kind : FixedSourceKind} :
    parseSourceKind text path = .ok kind ↔ text = kind.text := by
  rw [parseSourceKind]
  split_ifs <;> cases kind <;> simp_all [FixedSourceKind.text, failure]

lemma parseSource_ok_iff {source : Json} {path : String} {sourceIds : List String}
    {fixed : FixedSource} (hsource : source.wellFormed = true) :
    parseSource source path sourceIds = .ok fixed ↔ source = fixed.document ∧
      isValidSourceId fixed.sourceId = true ∧ fixed.sourceId ∉ sourceIds := by
  simp only [parseSource, bind_ok_iff, return_ok_iff, readString_ok_iff, require_ok_iff,
    onlyFields_ok_iff, parseSourceKind_ok_iff]
  constructor
  · rintro ⟨-, hobject, -, hkeys, sourceId, hsourceId, -, hvalid, -, hnew, text, htext, kind,
      rfl, rfl⟩
    refine ⟨?_, hvalid, by simpa using hnew⟩
    cases source with
    | object fields =>
        rw [Json.wellFormed, Bool.and_eq_true, decide_eq_true_eq] at hsource
        rw [FixedSource.document, Json.object.injEq, Json.fields_eq_iff hsource.1
          (by simp only [Json.InKeyOrder, List.map]; decide)]
        exact ⟨hkeys, by simpa [Json.find?] using ⟨hsourceId, htext⟩⟩
    | _ => cases hobject
  · rintro ⟨rfl, hvalid, hnew⟩
    exact ⟨(), rfl, (), by simp [FixedSource.document, Json.keys], _, rfl, (), hvalid, (),
      by simpa using hnew, _, rfl, _, rfl, rfl⟩

lemma parseSources_ok_iff {sources : List Json} {parsed result : List FixedSource}
    (hsources : Json.wellFormedItems sources = true) :
    parseSources sources parsed = .ok result ↔ ∃ new, result = parsed ++ new ∧
      sources = new.map FixedSource.document ∧
      (∀ source ∈ new, isValidSourceId source.sourceId = true ∧
        source.sourceId ∉ parsed.map FixedSource.sourceId) ∧
      (new.map FixedSource.sourceId).Nodup := by
  induction sources generalizing parsed with
  | nil =>
      rw [parseSources, Except.ok.injEq]
      constructor
      · rintro rfl
        exact ⟨[], by simp⟩
      · rintro ⟨new, rfl, hnew, -⟩
        rw [List.map_eq_nil_iff.mp hnew.symm, List.append_nil]
  | cons source sources ih =>
      rw [Json.wellFormedItems, Bool.and_eq_true] at hsources
      simp only [parseSources, bind_ok_iff, parseSource_ok_iff hsources.1, ih hsources.2]
      constructor
      · rintro ⟨fixed, ⟨rfl, hvalid, hfresh⟩, new, rfl, rfl, hnew, hnodup⟩
        refine ⟨fixed :: new, by simp, rfl, ?_, ?_⟩
        · intro other hother
          rcases List.mem_cons.mp hother with rfl | hother
          · exact ⟨hvalid, hfresh⟩
          · have hother := hnew other hother
            simp only [List.map_append, List.mem_append, not_or] at hother
            exact ⟨hother.1, hother.2.1⟩
        · rw [List.map_cons, List.nodup_cons]
          refine ⟨fun hmem => ?_, hnodup⟩
          obtain ⟨other, hother, hsame⟩ := List.mem_map.mp hmem
          exact (hnew other hother).2 (by simp [hsame])
      · rintro ⟨new, rfl, hsame, hnew, hnodup⟩
        cases new with
        | nil => cases hsame
        | cons fixed new =>
            obtain ⟨rfl, rfl⟩ := List.cons.inj hsame
            rw [List.map_cons, List.nodup_cons] at hnodup
            refine ⟨fixed, ⟨rfl, hnew fixed List.mem_cons_self⟩, new, by simp, rfl, ?_, hnodup.2⟩
            intro other hother
            have hvalid := hnew other (List.mem_cons_of_mem _ hother)
            refine ⟨hvalid.1, ?_⟩
            simp only [List.map_append, List.mem_append, not_or]
            refine ⟨hvalid.2, ?_⟩
            simp only [List.map_cons, List.map_nil, List.mem_singleton]
            intro hid
            rw [← hid] at hnodup
            exact hnodup.1 (List.mem_map_of_mem hother)

lemma readSources_ok_iff {object : Json} {sources : List Json} :
    readSources object = .ok sources ↔ object.find? "fixed_sources" = some (.array sources) := by
  rw [readSources]
  split
  · next hnone => simp [hnone]
  · next others hothers => simp [hothers]
  · next other hother hfound =>
    simp only [hfound, failure_ne_ok, Option.some.injEq, false_iff]
    exact hother sources

lemma parseCommand_ok_iff {config : CommandConfig} (hroot : root.wellFormed = true) :
    parseCommand root = .ok config ↔
      root.find? "command" = some config.document ∧ config.Valid := by
  refine section_ok_iff hroot (by simp) (by simp) (by simp only [Json.InKeyOrder, List.map]; decide)
    fun object hobject => ?_
  have hitems {sources : List Json} (h : object.find? "fixed_sources" = some (.array sources)) :
      Json.wellFormedItems sources = true := Json.wellFormed_find? hobject h
  simp (disch := decide) only [bind_ok_iff, return_ok_iff, readSources_ok_iff,
    readInteger_ok_iff hobject]
  constructor
  · rintro ⟨timeout, ⟨htimeout, hconfig⟩, controlTimeout, ⟨hcontrolTimeout, hcontrol⟩,
      retention, ⟨hretention, hterminal⟩, interval, ⟨hinterval, hcleanup⟩, batch, ⟨hbatch, hsize⟩,
      inflight, ⟨hinflight, hmax⟩, sources, hsources, parsed, hparsed, rfl⟩
    obtain ⟨new, rfl, rfl, hnew, hnodup⟩ := (parseSources_ok_iff (hitems hsources)).mp hparsed
    exact ⟨by simp [*], ⟨hconfig, hcontrol, hterminal, hcleanup, hsize, hmax, hnodup,
      fun source hsource => (hnew source hsource).1⟩⟩
  · rintro ⟨hfields, hvalid⟩
    simp only [List.forall_mem_cons] at hfields
    obtain ⟨hbatch, hinterval, htimeout, hcontrolTimeout, hsources, hinflight, hretention, -⟩ :=
      hfields
    refine ⟨_, ⟨htimeout, hvalid.configTimeout⟩, _, ⟨hcontrolTimeout, hvalid.controlTimeout⟩, _,
      ⟨hretention, hvalid.terminalRetention⟩, _, ⟨hinterval, hvalid.cleanupInterval⟩, _,
      ⟨hbatch, hvalid.cleanupBatchSize⟩, _, ⟨hinflight, hvalid.maxInflightCommands⟩, _, hsources,
      config.fixedSources, (parseSources_ok_iff (hitems hsources)).mpr ?_, rfl⟩
    exact ⟨_, rfl, rfl, fun source hsource => ⟨hvalid.validIds source hsource, by simp⟩,
      hvalid.sourceIds⟩

lemma checkRoot_ok_iff {u : Unit} : checkRoot root = .ok u ↔ root.isObject = true ∧
    ∀ field ∈ root.keys,
      field ∈ ["database", "mqtt", "logging", "queues", "device_state", "command"] := by
  simp only [checkRoot, bind_ok_iff, require_ok_iff, onlyFields_ok_iff]
  exact ⟨fun ⟨_, hobject, hkeys⟩ => ⟨hobject, hkeys⟩, fun h => ⟨(), h⟩⟩

/-- **The document** that is read as a configuration. -/
lemma parseAppConfig_ok_iff {config : AppConfig} (hroot : root.wellFormed = true) :
    parseAppConfig root = .ok config ↔ root = config.document ∧ config.Valid := by
  simp only [parseAppConfig, bind_ok_iff, return_ok_iff, checkRoot_ok_iff,
    parseDatabase_ok_iff hroot, parseMqtt_ok_iff hroot, parseLogging_ok_iff hroot,
    parseQueues_ok_iff hroot, parseDeviceState_ok_iff hroot, parseCommand_ok_iff hroot]
  constructor
  · rintro ⟨-, ⟨hobject, hkeys⟩, database, ⟨hdatabase, hdatabaseValid⟩, mqtt, ⟨hmqtt, hmqttValid⟩,
      level, hlevel, capacity, ⟨hqueues, hcapacity⟩, deviceState, ⟨hdeviceState, hdeviceValid⟩,
      command, ⟨hcommand, hcommandValid⟩, rfl⟩
    refine ⟨?_, ⟨hdatabaseValid, hmqttValid, hcapacity, hdeviceValid, hcommandValid⟩⟩
    cases root with
    | object fields =>
        rw [Json.wellFormed, Bool.and_eq_true, decide_eq_true_eq] at hroot
        rw [document, Json.object.injEq, Json.fields_eq_iff hroot.1
          (by simp only [Json.InKeyOrder, List.map]; decide)]
        refine ⟨fun key hkey => ?_, ?_⟩
        · have hallowed : ["database", "mqtt", "logging", "queues", "device_state", "command"] ⊆
              ["command", "database", "device_state", "logging", "mqtt", "queues"] := by decide
          exact hallowed (hkeys key hkey)
        · simpa [Json.find?] using ⟨hcommand, hdatabase, hdeviceState, hlevel, hmqtt, hqueues⟩
    | _ => cases hobject
  · rintro ⟨rfl, hvalid⟩
    exact ⟨(), ⟨rfl, by simp [document, Json.keys]⟩, _, ⟨rfl, hvalid.database⟩, _,
      ⟨rfl, hvalid.mqtt⟩, _, rfl, _, ⟨rfl, hvalid.mqttInboundCapacity⟩, _,
      ⟨rfl, hvalid.deviceState⟩, _, ⟨rfl, hvalid.command⟩, rfl⟩

end

end AppConfig

/-! ### The file -/

/-- **A configuration is loaded** exactly if it meets the bounds and the file has its document:
each field of each section is there once, with a value of its type and in its range, and
nothing else is. -/
theorem loadAppConfig_ok_iff (parseJson : String → Option Json)
    (hparse : ∀ text root, parseJson text = some root → root.wellFormed = true)
    (file : ConfigFile) (config : AppConfig) :
    loadAppConfig parseJson file = .ok config ↔
      config.Valid ∧ ∃ text, file = .contents text ∧ parseJson text = some config.document := by
  cases file with
  | unopened => simp [loadAppConfig]
  | unreadable => simp [loadAppConfig]
  | contents text =>
      rw [loadAppConfig]
      split
      · next hnone =>
        simp only [AppConfig.failure_ne_ok, false_iff, not_and, not_exists]
        rintro - other hsame hother
        cases hsame
        rw [hnone] at hother
        cases hother
      · next root hroot =>
        rw [AppConfig.parseAppConfig_ok_iff (hparse text root hroot)]
        constructor
        · rintro ⟨rfl, hvalid⟩
          exact ⟨hvalid, text, rfl, hroot⟩
        · rintro ⟨hvalid, other, hsame, hother⟩
          cases hsame
          rw [hroot] at hother
          exact ⟨Option.some.inj hother, hvalid⟩

namespace Sample

def appConfig : AppConfig where
  database := ⟨⟨"127.0.0.1", 5432, "cns", "cns_route", "secret", 5⟩, 5⟩
  mqtt := ⟨"127.0.0.1", 1883, 60, "cns-route-service", "", "", 1, 30, "cns_rpi", 262144⟩
  level := .info
  mqttInboundCapacity := 256
  deviceState := ⟨5, 120⟩
  command := ⟨15, 30, 30, 3600, 100, 256, [⟨"web-console", .hostApp⟩]⟩

def appConfigText : String :=
  "\x7b\"database\":\x7b\"host\":\"127.0.0.1\",\"port\":5432,\"name\":\"cns\"," ++
    "\"user\":\"cns_route\",\"password\":\"secret\",\"connect_timeout_seconds\":5," ++
    "\"reconnect_interval_seconds\":5\x7d,\"mqtt\":\x7b\"host\":\"127.0.0.1\",\"port\":1883," ++
    "\"keepalive_seconds\":60,\"client_id\":\"cns-route-service\",\"username\":\"\"," ++
    "\"password\":\"\",\"reconnect_delay_seconds\":1,\"reconnect_delay_max_seconds\":30," ++
    "\"topic_namespace\":\"cns_rpi\",\"max_payload_bytes\":262144\x7d," ++
    "\"logging\":\x7b\"level\":\"info\"\x7d,\"queues\":\x7b\"mqtt_inbound_capacity\":256\x7d," ++
    "\"device_state\":\x7b\"telemetry_flush_interval_seconds\":5," ++
    "\"offline_timeout_seconds\":120\x7d,\"command\":\x7b\"config_timeout_seconds\":15," ++
    "\"control_timeout_seconds\":30,\"terminal_retention_days\":30," ++
    "\"cleanup_interval_seconds\":3600,\"cleanup_batch_size\":100," ++
    "\"max_inflight_commands\":256,\"fixed_sources\":[\x7b\"source_id\":\"web-console\"," ++
    "\"source_kind\":\"host_app\"\x7d]\x7d\x7d"

end Sample

theorem loadAppConfig_sample :
    loadAppConfig (fun text => if text = Sample.appConfigText then some Sample.appConfig.document
      else none) (.contents Sample.appConfigText) = .ok Sample.appConfig := by
  refine (loadAppConfig_ok_iff _ (fun text root hroot => ?_) _ _).mpr
    ⟨⟨⟨by decide, by decide, by decide, by decide⟩, ⟨by decide, by decide, by decide, by decide,
      by decide, by decide +kernel, by decide⟩, by decide, ⟨by decide, by decide, by decide⟩,
      ⟨by decide, by decide, by decide, by decide, by decide, by decide, by decide, ?_⟩⟩,
      _, rfl, if_pos rfl⟩
  · split at hroot
    · cases hroot
      decide +kernel
    · cases hroot
  · decide +kernel

end CnsServer
