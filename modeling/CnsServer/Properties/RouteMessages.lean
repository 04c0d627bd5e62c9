/-
The messages of the route service on their way to the browser.

* `framed_between_iff`: what a topic carries between its two fixed parts;
* `handleMessage_iff`: **which messages are handled**, and as what;
* `stateEvent_accepted`, `deviceStateEvent_published`: the event of a state;
* `toDeviceStateEvent_of_accepted`: the event that is sent is the one that the browser merges;
* `states_shown`: **every state that is published is shown**.
-/
import CnsServer.Backend.RouteGateway
import CnsServer.Invariants.AnnouncedRecords
import CnsServer.Frontend.Realtime
import CnsServer.Properties.EventContract
import CnsServer.Properties.AckTopics

namespace CnsServer

open Schema
open RuntimeBundle (sourceAckTopic)

/-! ### Topics -/

section

variable {front back topic id : String}

/-- What a topic carries between its two fixed parts. -/
lemma framed_between_iff (hid : id ≠ "") :
    framedBy front back topic = true ∧ between front back topic = id ↔
      topic = front ++ id ++ back := by
  have hne : id.toList ≠ [] := fun h => hid (String.toList_eq_nil_iff.mp h)
  have htopic : topic = front ++ id ++ back ↔
      topic.toList = front.toList ++ id.toList ++ back.toList := by
    rw [← String.toList_inj, String.toList_append, String.toList_append]
  have hbetween : between front back topic = id ↔
      (topic.toList.drop front.toList.length).take
        (topic.toList.length - front.toList.length - back.toList.length) = id.toList := by
    rw [between, ← String.toList_inj, String.toList_ofList]
  rw [htopic, framedBy, Bool.and_eq_true, List.isPrefixOf_iff_prefix, List.isSuffixOf_iff_suffix,
    hbetween]
  constructor
  · rintro ⟨⟨hfront, hback⟩, hmiddle⟩
    refine (infix_iff.mp ⟨⟨hfront, hback, ?_⟩, hmiddle⟩).2
    -- otherwise nothing would stand between the two
    by_contra hshort
    have hnone : topic.toList.length - front.toList.length - back.toList.length = 0 := by omega
    rw [hnone, List.take_zero] at hmiddle
    exact hne hmiddle.symm
  · intro h
    obtain ⟨⟨hfront, hback, -⟩, hmiddle⟩ := infix_iff.mpr ⟨hne, h⟩
    exact ⟨⟨hfront, hback⟩, hmiddle⟩

/-- The last letter of a topic is that of its end. -/
lemma getLast?_of_framedBy (hback : back ≠ "") (h : framedBy front back topic = true) :
    topic.toList.getLast? = back.toList.getLast? := by
  rw [framedBy, Bool.and_eq_true, List.isSuffixOf_iff_suffix] at h
  obtain ⟨before, hbefore⟩ := h.2
  have hne : back.toList ≠ [] := fun h => hback (String.toList_eq_nil_iff.mp h)
  rw [← hbefore, List.getLast?_append_of_ne_nil _ hne]

lemma framedBy_append (front id back : String) :
    framedBy front back (front ++ id ++ back) = true := by
  rw [framedBy, Bool.and_eq_true, List.isPrefixOf_iff_prefix, List.isSuffixOf_iff_suffix,
    String.toList_append, String.toList_append]
  exact ⟨⟨_, (List.append_assoc _ _ _).symm⟩, List.suffix_append _ _⟩

end

/-! ### Messages of a device -/

lemma deviceMessage_iff {schema : Schema} {front back topic invalid mismatched : String}
    {parsedJson message : JsValue} :
    deviceMessage schema front back topic invalid mismatched parsedJson = .ok message ↔
      message = parsedJson ∧ schema (some parsedJson) = true ∧
        parsedJson.get "device_id" = some (.string (between front back topic)) := by
  rw [deviceMessage]
  split
  · next hrefused =>
      have hfalse : schema (some parsedJson) = false := by simpa using hrefused
      simp [hfalse]
  · next haccepted =>
      have htrue : schema (some parsedJson) = true := by simpa using haccepted
      split
      · next deviceId hdevice =>
          split
          · next hne => simp [hdevice, Ne.symm hne]
          · next heq =>
              rw [not_not] at heq
              simp [hdevice, htrue, heq, eq_comm]
      · next hother => simpa [htrue] using fun _ => hother _

/-- An object whose schema asks for the id of a device has one. -/
lemma deviceId_of_accepted {unknownKeys : UnknownKeys} {shape : List (String × Schema)}
    (hshape : ("device_id", deviceIdSchema) ∈ shape) {message : JsValue}
    (h : object unknownKeys shape (some message) = true) :
    ∃ deviceId, message.get "device_id" = some (.string deviceId) ∧ deviceId ≠ "" := by
  obtain ⟨fields, hfields, hproperties, -⟩ := object_iff.mp h
  cases hfields
  obtain ⟨deviceId, hdevice, hchecks⟩ := string_iff.mp (hproperties _ hshape)
  refine ⟨deviceId, hdevice, ?_⟩
  rintro rfl
  exact absurd (hchecks (.min 1) List.mem_cons_self) (by decide)

/-- **A message of a device**: the topic is that of the device in it. -/
lemma deviceMessage_framed {schema : Schema}
    (hschema : ∀ message, schema (some message) = true →
      ∃ deviceId, message.get "device_id" = some (.string deviceId) ∧ deviceId ≠ "")
    {front back topic invalid mismatched : String} {parsedJson message : JsValue} :
    framedBy front back topic = true ∧
        deviceMessage schema front back topic invalid mismatched parsedJson = .ok message ↔
      message = parsedJson ∧ schema (some message) = true ∧
        ∃ deviceId, message.get "device_id" = some (.string deviceId) ∧
          topic = front ++ deviceId ++ back := by
  rw [deviceMessage_iff]
  constructor
  · rintro ⟨hframed, rfl, haccepted, hdevice⟩
    obtain ⟨deviceId, hfound, hne⟩ := hschema message haccepted
    have hbetween : between front back topic = deviceId := by
      rw [hdevice] at hfound
      cases hfound
      rfl
    exact ⟨rfl, haccepted, deviceId, hfound, (framed_between_iff hne).mp ⟨hframed, hbetween⟩⟩
  · rintro ⟨rfl, haccepted, deviceId, hdevice, htopic⟩
    obtain ⟨found, hfound, hne⟩ := hschema message haccepted
    have hsame : found = deviceId := by
      rw [hdevice] at hfound
      cases hfound
      rfl
    obtain ⟨hframed, hbetween⟩ := (framed_between_iff (hsame ▸ hne)).mpr htopic
    exact ⟨hframed, rfl, haccepted, hbetween ▸ hdevice⟩

lemma deviceId_of_state {message : JsValue}
    (h : routeDeviceStateMessageSchema (some message) = true) :
    ∃ deviceId, message.get "device_id" = some (.string deviceId) ∧ deviceId ≠ "" :=
  deviceId_of_accepted List.mem_cons_self h

lemma deviceId_of_frame {frame : JsValue} (h : deviceRealtimeFrameSchema (some frame) = true) :
    ∃ deviceId, frame.get "device_id" = some (.string deviceId) ∧ deviceId ≠ "" :=
  deviceId_of_accepted (List.mem_cons_of_mem _ List.mem_cons_self) h

/-! ### ACKs -/

lemma configAck_eq (topicNamespace sourceId : String) :
    (buildTopics topicNamespace sourceId).configAck =
      sourceAckTopic topicNamespace sourceId .config := rfl

lemma controlAck_eq (topicNamespace sourceId : String) :
    (buildTopics topicNamespace sourceId).controlAck =
      sourceAckTopic topicNamespace sourceId .control := rfl

lemma controlAck_ne (topicNamespace sourceId : String) :
    (buildTopics topicNamespace sourceId).controlAck ≠
      (buildTopics topicNamespace sourceId).configAck := by
  intro h
  have hletters := congrArg (fun text => (String.toList text).reverse[4]?) h
  simp [buildTopics] at hletters

/-- A check that has been passed. -/
lemma passed_of_ok {α : Type} {refused : Prop} [Decidable refused] {message : String} {a b : α}
    (h : (if refused then Except.error message else .ok a) = .ok b) : ¬ refused ∧ a = b := by
  split at h
  · cases h
  · next hpassed => exact ⟨hpassed, Except.ok.inj h⟩

lemma ackMessage_iff {topicNamespace sourceId topic : String} {parsedJson message : JsValue} :
    (topic = (buildTopics topicNamespace sourceId).configAck ∨
        topic = (buildTopics topicNamespace sourceId).controlAck) ∧
        ackMessage (buildTopics topicNamespace sourceId) topic parsedJson = .ok message ↔
      message = parsedJson ∧ routeCommandAckSchema (some message) = true ∧
        ∃ type : CommandType, message.get "command_type" = some (.string type.toText) ∧
          topic = sourceAckTopic topicNamespace sourceId type := by
  constructor
  · rintro ⟨htopic, hack⟩
    rw [ackMessage] at hack
    split at hack
    · cases hack
    next haccepted =>
    dsimp only at hack
    split at hack
    · next commandType htype =>
        obtain ⟨hexpected, rfl⟩ := passed_of_ok hack
        rw [not_not] at hexpected
        refine ⟨rfl, by simpa using haccepted, ?_⟩
        by_cases hconfig : topic = (buildTopics topicNamespace sourceId).configAck
        · rw [if_pos hconfig] at hexpected
          exact ⟨.config, htype.trans (hexpected ▸ rfl), hconfig⟩
        · rw [if_neg hconfig] at hexpected
          exact ⟨.control, htype.trans (hexpected ▸ rfl), htopic.resolve_left hconfig⟩
    · cases hack
  · rintro ⟨rfl, haccepted, type, htype, rfl⟩
    cases type with
    | config =>
        refine ⟨.inl rfl, ?_⟩
        simp [ackMessage, haccepted, htype, configAck_eq, CommandType.toText]
    | control =>
        have hne := controlAck_ne topicNamespace sourceId
        rw [controlAck_eq] at hne
        refine ⟨.inr rfl, ?_⟩
        simp [ackMessage, haccepted, htype, hne, CommandType.toText]

/-! ### Dispatch -/

section

variable {topicNamespace sourceId topic : String}

/-- No topic of an ACK is one of a device. -/
lemma not_framedBy_of_ack {front back : String} (hback : back.toList.getLast? ≠ some 'k')
    (hne : back ≠ "") (h : topic = (buildTopics topicNamespace sourceId).configAck ∨
      topic = (buildTopics topicNamespace sourceId).controlAck) :
    framedBy front back topic ≠ true := by
  intro hframed
  have hlast : topic.toList.getLast? = some 'k' := by
    rcases h with rfl | rfl
    · exact getLast?_of_framedBy (by decide)
        (framedBy_append (topicNamespace ++ "/sources/") sourceId "/config/ack")
    · exact getLast?_of_framedBy (by decide)
        (framedBy_append (topicNamespace ++ "/sources/") sourceId "/control/ack")
  exact hback ((getLast?_of_framedBy hne hframed).symm.trans hlast)

/-- No topic has the ends of both kinds of messages of a device. -/
lemma not_framedBy_both {front front' : String}
    (h : framedBy front realtimeTopicSuffix topic = true) :
    framedBy front' "/state" topic ≠ true := by
  intro h'
  have hends := (getLast?_of_framedBy (by decide) h).symm.trans
    (getLast?_of_framedBy (by decide) h')
  exact absurd hends (by decide)

/-- A message that is handled has come to one of the three handlers. -/
lemma handleMessage_cases {topics : RouteTopics} {payload : Option JsValue}
    {handled : RouteMessage} (h : handleMessage topics topic payload = .ok (some handled)) :
    ∃ parsedJson, payload = some parsedJson ∧
      ((topic = topics.configAck ∨ topic = topics.controlAck) ∧
          (∃ message, ackMessage topics topic parsedJson = .ok message ∧
            handled = .commandAck message) ∨
        framedBy topics.devicePrefix realtimeTopicSuffix topic = true ∧
          (∃ frame, deviceMessage deviceRealtimeFrameSchema topics.devicePrefix realtimeTopicSuffix
            topic "Discarded invalid device realtime frame"
            "Discarded device realtime frame with mismatched device_id" parsedJson = .ok frame ∧
              handled = .deviceRealtime frame) ∨
        framedBy topics.statePrefix "/state" topic = true ∧
          ∃ message, deviceMessage routeDeviceStateMessageSchema topics.statePrefix "/state" topic
            "Discarded invalid route_service device state"
            "Discarded device state with mismatched device_id" parsedJson = .ok message ∧
              handled = .deviceState message) := by
  cases payload with
  | none => cases h
  | some parsedJson =>
      refine ⟨parsedJson, rfl, ?_⟩
      rw [handleMessage] at h
      split at h
      · next hack =>
          obtain ⟨message, hmessage, heq⟩ := map_ok h
          exact .inl ⟨hack, message, hmessage, (Option.some.inj heq).symm⟩
      split at h
      · next hframed =>
          obtain ⟨frame, hframe, heq⟩ := map_ok h
          exact .inr (.inl ⟨hframed, frame, hframe, (Option.some.inj heq).symm⟩)
      split at h
      · next hframed =>
          obtain ⟨message, hmessage, heq⟩ := map_ok h
          exact .inr (.inr ⟨hframed, message, hmessage, (Option.some.inj heq).symm⟩)
      · cases h

/-- A device state is handled exactly when the schema accepts it and it comes from the topic of
its device. -/
lemma handles_deviceState {sourceId : String} {payload : Option JsValue} {message : JsValue} :
    handleMessage (buildTopics topicNamespace sourceId) topic payload =
        .ok (some (.deviceState message)) ↔
      payload = some message ∧ routeDeviceStateMessageSchema (some message) = true ∧
        ∃ deviceId, message.get "device_id" = some (.string deviceId) ∧
          topic = stateEventTopic topicNamespace deviceId := by
  refine ⟨fun h => ?_, ?_⟩
  · obtain ⟨parsedJson, rfl, hcase⟩ := handleMessage_cases h
    rcases hcase with ⟨-, _, -, hkind⟩ | ⟨-, _, -, hkind⟩ | ⟨hframed, _, hfound, hkind⟩
    · cases hkind
    · cases hkind
    · cases hkind
      obtain ⟨rfl, hrest⟩ := (deviceMessage_framed fun _ => deviceId_of_state).mp ⟨hframed, hfound⟩
      exact ⟨rfl, hrest⟩
  · rintro ⟨rfl, hstate⟩
    obtain ⟨hframed, hmessage⟩ :
        framedBy (buildTopics topicNamespace sourceId).statePrefix "/state" topic = true ∧
          deviceMessage routeDeviceStateMessageSchema
            (buildTopics topicNamespace sourceId).statePrefix "/state" topic
            "Discarded invalid route_service device state"
            "Discarded device state with mismatched device_id" message = .ok message :=
      (deviceMessage_framed fun _ => deviceId_of_state).mpr ⟨rfl, hstate⟩
    rw [handleMessage, if_neg fun hack => not_framedBy_of_ack (by decide) (by decide) hack hframed,
      if_neg fun hframe => not_framedBy_both hframe hframed, if_pos hframed, hmessage]
    rfl

/-- A realtime frame is handled exactly when the schema accepts it and it comes from the topic
of its device. -/
lemma handles_deviceRealtime {sourceId : String} {payload : Option JsValue} {message : JsValue} :
    handleMessage (buildTopics topicNamespace sourceId) topic payload =
        .ok (some (.deviceRealtime message)) ↔
      payload = some message ∧ deviceRealtimeFrameSchema (some message) = true ∧
        ∃ deviceId, message.get "device_id" = some (.string deviceId) ∧
          topic = realtimeTopic topicNamespace deviceId := by
  refine ⟨fun h => ?_, ?_⟩
  · obtain ⟨parsedJson, rfl, hcase⟩ := handleMessage_cases h
    rcases hcase with ⟨-, _, -, hkind⟩ | ⟨hframed, _, hfound, hkind⟩ | ⟨-, _, -, hkind⟩
    · cases hkind
    · cases hkind
      obtain ⟨rfl, hrest⟩ := (deviceMessage_framed fun _ => deviceId_of_frame).mp ⟨hframed, hfound⟩
      exact ⟨rfl, hrest⟩
    · cases hkind
  · rintro ⟨rfl, hframe⟩
    obtain ⟨hframed, hmessage⟩ :
        framedBy (buildTopics topicNamespace sourceId).devicePrefix realtimeTopicSuffix topic =
            true ∧
          deviceMessage deviceRealtimeFrameSchema (buildTopics topicNamespace sourceId).devicePrefix
            realtimeTopicSuffix topic "Discarded invalid device realtime frame"
            "Discarded device realtime frame with mismatched device_id" message = .ok message :=
      (deviceMessage_framed fun _ => deviceId_of_frame).mpr ⟨rfl, hframe⟩
    rw [handleMessage, if_neg fun hack => not_framedBy_of_ack (by decide) (by decide) hack hframed,
      if_pos hframed, hmessage]
    rfl

/-- An acknowledgement is handled exactly when the schema accepts it and it comes from the
source's topic for its type. -/
lemma handles_commandAck {sourceId : String} {payload : Option JsValue} {message : JsValue} :
    handleMessage (buildTopics topicNamespace sourceId) topic payload =
        .ok (some (.commandAck message)) ↔
      payload = some message ∧ routeCommandAckSchema (some message) = true ∧
        ∃ type : CommandType, message.get "command_type" = some (.string type.toText) ∧
          topic = sourceAckTopic topicNamespace sourceId type := by
  refine ⟨fun h => ?_, ?_⟩
  · obtain ⟨parsedJson, rfl, hcase⟩ := handleMessage_cases h
    rcases hcase with ⟨hack, _, hfound, hkind⟩ | ⟨-, _, -, hkind⟩ | ⟨-, _, -, hkind⟩
    · cases hkind
      obtain ⟨rfl, hrest⟩ := ackMessage_iff.mp ⟨hack, hfound⟩
      exact ⟨rfl, hrest⟩
    · cases hkind
    · cases hkind
  · rintro ⟨rfl, hack⟩
    obtain ⟨htopic, hmessage⟩ := ackMessage_iff.mpr ⟨rfl, hack⟩
    rw [handleMessage, if_pos htopic, hmessage]
    rfl

/-- **Which messages are handled**: each handler gets the messages that its schema accepts
from the topics of the route service, with the device, or the type, of the topic. -/
theorem handleMessage_iff (topicNamespace sourceId topic : String) (payload : Option JsValue)
    (message : JsValue) :
    (handleMessage (buildTopics topicNamespace sourceId) topic payload =
        .ok (some (.deviceState message)) ↔
      payload = some message ∧ routeDeviceStateMessageSchema (some message) = true ∧
        ∃ deviceId, message.get "device_id" = some (.string deviceId) ∧
          topic = stateEventTopic topicNamespace deviceId) ∧
    (handleMessage (buildTopics topicNamespace sourceId) topic payload =
        .ok (some (.deviceRealtime message)) ↔
      payload = some message ∧ deviceRealtimeFrameSchema (some message) = true ∧
        ∃ deviceId, message.get "device_id" = some (.string deviceId) ∧
          topic = realtimeTopic topicNamespace deviceId) ∧
    (handleMessage (buildTopics topicNamespace sourceId) topic payload =
        .ok (some (.commandAck message)) ↔
      payload = some message ∧ routeCommandAckSchema (some message) = true ∧
        ∃ type : CommandType, message.get "command_type" = some (.string type.toText) ∧
          topic = sourceAckTopic topicNamespace sourceId type) :=
  ⟨handles_deviceState, handles_deviceRealtime, handles_commandAck⟩

end

/-! ### Events of states -/

mutual

/-- What `JSON.parse` reads of a printed document has no infinity. -/
lemma isJsonValue_parsed : ∀ json : Json, isJsonValue (.parsed json) = true
  | .null => rfl
  | .bool _ => rfl
  | .integer _ => rfl
  | .float _ => rfl
  | .string _ => rfl
  | .array items => by
      rw [JsValue.parsed, isJsonValue]
      exact areJsonValues_parsed items
  | .object fields => by
      rw [JsValue.parsed, isJsonValue]
      exact areJsonFields_parsed fields

lemma areJsonValues_parsed : ∀ items : List Json, areJsonValues (JsValue.parsedItems items) = true
  | [] => rfl
  | value :: items => by
      rw [JsValue.parsedItems, areJsonValues, isJsonValue_parsed value,
        areJsonValues_parsed items]
      rfl

lemma areJsonFields_parsed : ∀ fields : List (String × Json),
    areJsonFields (JsValue.parsedFields fields) = true
  | [] => rfl
  | (_, value) :: fields => by
      rw [JsValue.parsedFields, areJsonFields, isJsonValue_parsed value,
        areJsonFields_parsed fields]
      rfl

end

lemma accepts_jsonObject {value : Option Json} (h : IsObject value) :
    nullable jsonObjectSchema (some (.parsed (.orNull id value))) = true :=
  accepts_orNull fun json hjson => by
    have hobject := h json hjson
    cases json with
    | object fields => exact areJsonFields_parsed fields
    | _ => cases hobject

/-- The event of the browser, as it is sent. -/
def DeviceStateEvent.document (event : DeviceStateEvent) : JsValue :=
  .ofProperties
    [("type", some (.string "device.state")),
      ("schema_version", some (.number schemaVersion)),
      ("device_id", some (.string event.deviceId)),
      ("device_type", some event.deviceType),
      ("school_name", some event.schoolName),
      ("dcdw_label", some event.dcdwLabel),
      ("capabilities", some event.capabilities),
      ("product", some event.product),
      ("version", some event.version),
      ("status", some event.status),
      ("event_at", some (.string event.eventAt)),
      ("last_seen_at", some event.lastSeenAt),
      ("telemetry_received_at", some event.telemetryReceivedAt),
      ("latest_telemetry", some event.latestTelemetry),
      ("change_reason", some event.changeReason),
      ("degraded", some event.degraded)]

/-- **The event that the backend sends** is the one that the browser takes from the
message. -/
lemma toDeviceStateEvent_of_accepted {arithmetic : CoordinateArithmetic}
    {message document : JsValue} (h : deviceStateEvent arithmetic message = some document) :
    ∃ event, toDeviceStateEvent (enrichTelemetryCoordinates arithmetic) message = some event ∧
      event.document = document := by
  rw [deviceStateEvent] at h
  split at h
  · next haccepted =>
    cases h
    -- no schema of the event accepts `undefined`, so the message has all of its fields
    have hfields := ofProperties_accepted (by simp) haccepted
    simp only [List.forall_mem_cons] at hfields
    obtain ⟨-, hversion, hdeviceId, hdeviceType, hschoolName, hdcdwLabel, hcapabilities, hproduct,
      hversion', hstatus, heventAt, hlastSeenAt, hreceivedAt, htelemetry, hreason, hdegraded, -⟩ :=
      hfields
    have hthere : ∀ (key : String) {schema : Schema}, schema (message.get key) = true →
        schema none = false → ∃ found, message.get key = some found :=
      fun key schema => exists_of_accepted
    replace hversion : message.get "schema_version" = some (.number schemaVersion) :=
      literalNumber_iff.mp hversion
    obtain ⟨deviceId, hdeviceId, -⟩ := string_iff.mp hdeviceId
    replace hdeviceId : message.get "device_id" = some (.string deviceId) := hdeviceId
    obtain ⟨eventAt, heventAt, -⟩ := string_iff.mp heventAt
    replace heventAt : message.get "event_at" = some (.string eventAt) := heventAt
    obtain ⟨deviceType, hdeviceType⟩ := hthere "device_type" hdeviceType rfl
    obtain ⟨schoolName, hschoolName⟩ := hthere "school_name" hschoolName rfl
    obtain ⟨dcdwLabel, hdcdwLabel⟩ := hthere "dcdw_label" hdcdwLabel rfl
    obtain ⟨capabilities, hcapabilities⟩ := hthere "capabilities" hcapabilities rfl
    obtain ⟨product, hproduct⟩ := hthere "product" hproduct rfl
    obtain ⟨version, hversion'⟩ := hthere "version" hversion' rfl
    obtain ⟨status, hstatus⟩ := hthere "status" hstatus rfl
    obtain ⟨lastSeenAt, hlastSeenAt⟩ := hthere "last_seen_at" hlastSeenAt rfl
    obtain ⟨receivedAt, hreceivedAt⟩ := hthere "telemetry_received_at" hreceivedAt rfl
    obtain ⟨enriched, htelemetry⟩ := exists_of_accepted htelemetry rfl
    obtain ⟨telemetry, htelemetry, -⟩ := Option.map_eq_some_iff.mp htelemetry
    obtain ⟨reason, hreason⟩ := hthere "change_reason" hreason rfl
    obtain ⟨degraded, hdegraded⟩ := hthere "degraded" hdegraded rfl
    refine ⟨⟨deviceId, deviceType, schoolName, dcdwLabel, capabilities, product, version, status,
      eventAt, lastSeenAt, receivedAt, enrichTelemetryCoordinates arithmetic telemetry, reason,
      degraded⟩, ?_, ?_⟩
    · rw [toDeviceStateEvent, hdeviceId, heventAt, hdeviceType, hschoolName, hdcdwLabel,
        hcapabilities, hproduct, hversion', hstatus, hlastSeenAt, hreceivedAt, htelemetry, hreason,
        hdegraded]
      rfl
    · rw [hversion, hdeviceId, heventAt, hdeviceType, hschoolName, hdcdwLabel,
        hcapabilities, hproduct, hversion', hstatus, hlastSeenAt, hreceivedAt, htelemetry, hreason,
        hdegraded]
      rfl
  · cases h

section

variable (arithmetic : CoordinateArithmetic) {published : PublishedState × TimePoint}

/-- The event of a state that can be stored and shown is accepted. -/
lemma stateEvent_accepted (h : published.1.record.Presentable)
    (hstorable : published.1.record.Storable) (hclock : InClockRange published.2) :
    deviceStateEventSchema (some
      (stateEventOf (enrichTelemetryCoordinates arithmetic) published).document) = true := by
  refine accepts_ofProperties (by simp) ?_ (by simp)
  simp only [List.forall_mem_cons]
  exact ⟨rfl, accepts_schemaVersion, accepts_deviceId h.deviceId,
    accepts_deviceType published.1.record.deviceType, accepts_school published.1.record.schoolName,
    accepts_label h.dcdwLabel,
    accepts_orNull fun items hitems => accepts_texts (hstorable.capabilities items hitems),
    accepts_jsonObject hstorable.product, accepts_jsonObject hstorable.version, accepts_status _,
    accepts_instant hclock, accepts_optionalTime hstorable.lastSeenAt,
    accepts_optionalTime hstorable.telemetryReceivedAt,
    enrich_accepted arithmetic (accepts_jsonObject h.latestTelemetry),
    accepts_reason published.1.reason, rfl, by simp⟩

lemma doubleOfInt_one : Json.doubleOfInt 1 = schemaVersion := by decide +kernel

/-- **The event of a published state** is the one that the browser merges. -/
lemma deviceStateEvent_published (h : published.1.record.Presentable)
    (hstorable : published.1.record.Storable) (hclock : InClockRange published.2) :
    deviceStateEvent arithmetic (.parsed (buildStateEvent (snapshotFor published.1)
      published.1.reason published.2)) =
        some (stateEventOf (enrichTelemetryCoordinates arithmetic) published).document := by
  have haccepted := stateEvent_accepted arithmetic h hstorable hclock
  have hevent : deviceStateEvent arithmetic (.parsed (buildStateEvent (snapshotFor published.1)
      published.1.reason published.2)) =
        if deviceStateEventSchema (some
          (stateEventOf (enrichTelemetryCoordinates arithmetic) published).document) then
          some (stateEventOf (enrichTelemetryCoordinates arithmetic) published).document
        else none := by
    simp [deviceStateEvent, buildStateEvent, stateEventOf, DeviceStateEvent.document,
      JsValue.parsed, JsValue.parsedFields, JsValue.get, List.lookup_cons, doubleOfInt_one]
    rfl
  rw [hevent, if_pos haccepted]

end

/-! ### Every run -/

/-- The message of a published state, as the backend reads it. -/
def stateMessage (published : PublishedState × TimePoint) : JsValue :=
  .parsed (buildStateEvent (snapshotFor published.1) published.1.reason published.2)

/-- **Every state that is published is shown.**  In every run of the route service, over any
number of starts, the backend hands each state that is announced, alone or in a full snapshot,
to the handler of states, and makes of it the event that the browser merges, which both
schemas accept: nothing is discarded and nothing is thrown. -/
theorem states_shown (wcfg : WorkerConfig) (dcfg : DeviceServiceConfig)
    (arithmetic : CoordinateArithmetic) (topicNamespace sourceId : String) (s : DeviceSystem)
    (h : (deviceSystem wcfg dcfg).Reachable s) (event : DeviceEvent)
    (hevent : event ∈ s.runtime.service.events) (state : PublishedState)
    (hstate : state ∈ event.states) (eventAt : TimePoint) (hclock : InClockRange eventAt) :
    handleMessage (buildTopics topicNamespace sourceId)
        (stateEventTopic topicNamespace state.record.deviceId)
        (some (stateMessage (state, eventAt))) =
      .ok (some (.deviceState (stateMessage (state, eventAt)))) ∧
    deviceStateEvent arithmetic (stateMessage (state, eventAt)) =
      some (stateEventOf (enrichTelemetryCoordinates arithmetic) (state, eventAt)).document ∧
    backendWebSocketEventSchema (some
      (stateEventOf (enrichTelemetryCoordinates arithmetic) (state, eventAt)).document) = true := by
  obtain ⟨hpresentable, hstorable⟩ := announced_of_reachable h event hevent state hstate
  refine ⟨?_, deviceStateEvent_published arithmetic hpresentable hstorable hclock, ?_⟩
  · refine handles_deviceState.mpr
      ⟨rfl, state_accepted hpresentable hstorable state.reason state.degraded hclock,
        state.record.deviceId, ?_, rfl⟩
    simp [stateMessage, buildStateEvent, snapshotFor, JsValue.parsed, JsValue.parsedFields,
      JsValue.get, List.lookup_cons]
  · have hevent := @stateEvent_accepted arithmetic (state, eventAt) hpresentable hstorable hclock
    rw [backendWebSocketEventSchema, union, List.any_eq_true]
    exact ⟨deviceStateEventSchema, by simp, hevent⟩

/-- Arithmetic for telemetry without texts, in degrees, beyond the bounds of the map. -/
def sampleArithmetic : CoordinateArithmetic where
  numberOf _ := none
  scaled value := value / 10000000
  offset longitude latitude := (latitude, longitude)

/-- A device that is provisioned is shown. -/
theorem states_shown_provisioned :
    ∃ event ∈ Sample.provisioned.devices.runtime.service.events, ∃ state ∈ event.states,
      handleMessage (buildTopics "cns" "web") (stateEventTopic "cns" state.record.deviceId)
          (some (stateMessage (state, 0))) = .ok (some (.deviceState (stateMessage (state, 0)))) ∧
        deviceStateEvent sampleArithmetic (stateMessage (state, 0)) =
          some (stateEventOf (enrichTelemetryCoordinates sampleArithmetic)
            (state, 0)).document := by
  have hany : (Sample.provisioned.devices.runtime.service.events.any fun event =>
      !event.states.isEmpty) = true := by
    decide +kernel
  obtain ⟨event, hevent, hstates⟩ := List.any_eq_true.mp hany
  obtain ⟨state, hstate⟩ := List.exists_mem_of_ne_nil event.states (by simpa using hstates)
  obtain ⟨hhandled, hshown, -⟩ := states_shown {} sampleDeviceConfig sampleArithmetic "cns" "web" _
    (devices_of_reachable (Sample.reachable_provisioned [])) event hevent state hstate 0 (by decide)
  exact ⟨event, hevent, state, hstate, hhandled, hshown⟩

end CnsServer
