/-
The topics of the service.

* `topicOf`: a topic from the list of its segments, a namespace first;
* `InboundKind`, `PublishedTopic`: the topics the service listens on and the ones
  it publishes to, each with its segments;
* `topicInfix_eq_some`, `splitAtSlash_eq_some`: the two ways the parsers take a
  topic apart;
* `InboundKind.parse_iff`: each parser takes exactly the topics of its kind;
* `segments_inj`: segments without a slash can be read off a topic;
* `topics_apart`: **the topic grammar**: no topic has two readings, and none that
  the service publishes has one;
* `sourceTopics_of_device`: a device can send requests unless its id has a colon.
-/
import CnsServer.Device.Messages
import CnsServer.Runtime.CommandService
import CnsServer.Store.CommandSources

namespace CnsServer

open RuntimeBundle (sourceAckTopic deviceSetTopic)

/-- The topic with these segments. -/
def topicOf (segments : List String) : String := "/".intercalate segments

/-- What the service listens for. -/
inductive InboundKind where
  | registration | telemetry | configAck | controlAck | configRequest | controlRequest
  deriving DecidableEq, Repr

namespace InboundKind

/-- The parser of a kind, with the id it returns. -/
def parse (kind : InboundKind) (topicNamespace topic : String) : Option String :=
  match kind with
  | .registration =>
      match parseDeviceTopic topicNamespace topic with
      | .ok ⟨deviceId, .registration⟩ => some deviceId
      | _ => none
  | .telemetry =>
      match parseDeviceTopic topicNamespace topic with
      | .ok ⟨deviceId, .telemetry⟩ => some deviceId
      | _ => none
  | .configAck => (parseDeviceConfigAckTopic topicNamespace topic).toOption
  | .controlAck => (parseDeviceControlAckTopic topicNamespace topic).toOption
  | .configRequest => (parseSourceRequestTopic topicNamespace topic).toOption
  | .controlRequest => (parseSourceControlRequestTopic topicNamespace topic).toOption

/-- The ids a topic of the kind may carry. -/
def isValidId : InboundKind → String → Bool
  | .configRequest | .controlRequest => isValidSourceId
  | .registration | .telemetry | .configAck | .controlAck => isValidDeviceId

/-- The segments of a topic of the kind. -/
def segments (kind : InboundKind) (topicNamespace id : String) : List String :=
  match kind with
  | .registration => [topicNamespace, id, "registration"]
  | .telemetry => [topicNamespace, id, "telemetry", "snapshot", "v1"]
  | .configAck => [topicNamespace, id, "config", "ack"]
  | .controlAck => [topicNamespace, id, "control", "ack"]
  | .configRequest => [topicNamespace, "sources", id, "config", "request"]
  | .controlRequest => [topicNamespace, "sources", id, "control", "request"]

end InboundKind

/-- What the service publishes to. -/
inductive PublishedTopic where
  | sourceAck (sourceId : String) (type : CommandType)
  | deviceSet (deviceId : String) (type : CommandType)
  | stateEvent (deviceId : String)
  | deviceDirectory
  deriving DecidableEq

namespace PublishedTopic

def topic (topicNamespace : String) : PublishedTopic → String
  | .sourceAck sourceId type => sourceAckTopic topicNamespace sourceId type
  | .deviceSet deviceId type => deviceSetTopic topicNamespace deviceId type
  | .stateEvent deviceId => stateEventTopic topicNamespace deviceId
  | .deviceDirectory => deviceDirectoryTopic topicNamespace

/-- The id of a device or of a source in the topic is a valid one. -/
def HasValidId : PublishedTopic → Prop
  | .sourceAck id _ | .deviceSet id _ | .stateEvent id => isValidDeviceId id ∨ isValidSourceId id
  | .deviceDirectory => True

def segments (topicNamespace : String) : PublishedTopic → List String
  | .sourceAck sourceId .config => [topicNamespace, "sources", sourceId, "config", "ack"]
  | .sourceAck sourceId .control => [topicNamespace, "sources", sourceId, "control", "ack"]
  | .deviceSet deviceId .config => [topicNamespace, deviceId, "config", "set"]
  | .deviceSet deviceId .control => [topicNamespace, deviceId, "control", "set"]
  | .stateEvent deviceId => [topicNamespace, "events", "devices", deviceId, "state"]
  | .deviceDirectory => [topicNamespace, "events", "devices", "directory"]

lemma topic_eq (topicNamespace : String) (published : PublishedTopic) :
    published.topic topicNamespace = topicOf (published.segments topicNamespace) := by
  refine String.toList_inj.mp ?_
  rcases published with ⟨id, _ | _⟩ | ⟨id, _ | _⟩ | id | _ <;>
    simp [topic, segments, topicOf, sourceAckTopic, deviceSetTopic, stateEventTopic,
      deviceDirectoryTopic]

end PublishedTopic

/-! ### Taking a topic apart -/

/-- What stands between a front and a back that do not overlap. -/
lemma infix_iff {α : Type} {front back xs middle : List α} :
    (front <+: xs ∧ back <:+ xs ∧ front.length + back.length < xs.length) ∧
        (xs.drop front.length).take (xs.length - front.length - back.length) = middle ↔
      middle ≠ [] ∧ xs = front ++ middle ++ back := by
  constructor
  · rintro ⟨⟨⟨rest, rfl⟩, hback, hlen⟩, rfl⟩
    rw [List.length_append] at hlen
    have hrest : back <:+ rest :=
      List.suffix_of_suffix_length_le hback (List.suffix_append front rest) (by omega)
    obtain ⟨middle, rfl⟩ := hrest
    have hmiddle : 0 < middle.length := by
      rw [List.length_append] at hlen
      omega
    have htake : (front ++ (middle ++ back)).length - front.length - back.length =
        middle.length := by
      simp only [List.length_append]
      omega
    rw [List.drop_left, htake, List.take_left, List.append_assoc]
    exact ⟨List.length_pos_iff.mp hmiddle, rfl⟩
  · rintro ⟨hne, rfl⟩
    have hpos := List.length_pos_iff.mpr hne
    refine ⟨⟨⟨middle ++ back, (List.append_assoc _ _ _).symm⟩, List.suffix_append _ _, ?_⟩, ?_⟩
    · simp only [List.length_append]
      omega
    · rw [List.append_assoc, List.drop_left]
      simp

lemma topicInfix_eq_some {front back topic id : String} :
    topicInfix front back topic = some id ↔ id ≠ "" ∧ topic = front ++ id ++ back := by
  have hne : id ≠ "" ↔ id.toList ≠ [] := by rw [ne_eq, ne_eq, String.toList_eq_nil_iff]
  have htopic : topic = front ++ id ++ back ↔
      topic.toList = front.toList ++ id.toList ++ back.toList := by
    rw [← String.toList_inj, String.toList_append, String.toList_append]
  rw [hne, htopic, ← infix_iff, topicInfix]
  simp only [Bool.and_eq_true, List.isPrefixOf_iff_prefix, List.isSuffixOf_iff_suffix,
    decide_eq_true_iff, and_assoc]
  split
  · next hfits => simp [hfits, String.ext_iff]
  · next hfits => simp only [reduceCtorEq, false_iff]; tauto

lemma splitAtSlash_cons (c : Char) (text : List Char) :
    splitAtSlash (c :: text) =
      if c = '/' then some ([], text) else (splitAtSlash text).map fun p => (c :: p.1, p.2) := by
  by_cases hc : c = '/'
  · simp [splitAtSlash, hc]
  · simp only [splitAtSlash, hc, ne_eq, not_false_eq_true, decide_true, List.dropWhile_cons_of_pos,
      List.takeWhile_cons_of_pos, if_false]
    split <;> rfl

/-- The part before the first slash has none. -/
lemma splitAtSlash_eq_some {text front rest : List Char} :
    splitAtSlash text = some (front, rest) ↔ '/' ∉ front ∧ text = front ++ '/' :: rest := by
  induction text generalizing front with
  | nil => simp [splitAtSlash]
  | cons c text ih =>
      rw [splitAtSlash_cons]
      by_cases hc : c = '/'
      · rw [if_pos hc]
        cases front with
        | nil => simp [hc, eq_comm]
        | cons d front => simp [hc]; grind
      · rw [if_neg hc]
        cases front with
        | nil => simp [hc]
        | cons d front => simp [ih]; grind

/-! ### What the parsers take -/

section

variable {topicNamespace topic id : String}

lemma not_mem_of_isValidDeviceId (h : isValidDeviceId id) : '/' ∉ id.toList := by
  intro hmem
  simp only [isValidDeviceId, Bool.and_eq_true, List.all_eq_true] at h
  exact absurd (h.2 '/' hmem) (by decide)

lemma not_mem_of_isValidSourceId (h : isValidSourceId id) : '/' ∉ id.toList := by
  intro hmem
  simp only [isValidSourceId, Bool.and_eq_true, List.all_eq_true] at h
  exact absurd (h.2 '/' hmem) (by decide)

lemma ne_empty_of_isValidDeviceId (h : isValidDeviceId id) : id ≠ "" := by
  rintro rfl
  exact absurd h (by decide)

lemma ne_empty_of_isValidSourceId (h : isValidSourceId id) : id ≠ "" := by
  rintro rfl
  exact absurd h (by decide)

lemma parseSourceTopic_ok {suffix description : String} :
    parseSourceTopic topicNamespace topic suffix description = .ok id ↔
      isValidSourceId id ∧ topic = topicNamespace ++ "/sources/" ++ id ++ suffix := by
  rw [parseSourceTopic]
  constructor
  · intro h
    split at h
    · cases h
    · next found hfound =>
        split at h
        · cases h
        · next hvalid =>
            cases h
            simp only [Bool.or_eq_true, Bool.not_eq_true', not_or, Bool.not_eq_false] at hvalid
            exact ⟨hvalid.1, (topicInfix_eq_some.mp hfound).2⟩
  · rintro ⟨hvalid, htopic⟩
    rw [topicInfix_eq_some.mpr ⟨ne_empty_of_isValidSourceId hvalid, htopic⟩]
    have hslash := not_mem_of_isValidSourceId hvalid
    simp [hvalid, hslash]

lemma parseDeviceAckTopic_ok {suffix description : String} :
    parseDeviceAckTopic topicNamespace topic suffix description = .ok id ↔
      isValidDeviceId id ∧ topic = topicNamespace ++ "/" ++ id ++ suffix := by
  rw [parseDeviceAckTopic]
  constructor
  · intro h
    split at h
    · cases h
    · next found hfound =>
        split at h
        · cases h
        · next hvalid =>
            cases h
            simp only [Bool.not_eq_true', Bool.not_eq_false] at hvalid
            exact ⟨hvalid, (topicInfix_eq_some.mp hfound).2⟩
  · rintro ⟨hvalid, htopic⟩
    rw [topicInfix_eq_some.mpr ⟨ne_empty_of_isValidDeviceId hvalid, htopic⟩]
    simp [hvalid]

/-- What follows the device id. -/
def DeviceMessageKind.suffix : DeviceMessageKind → String
  | .registration => "registration"
  | .telemetry => "telemetry/snapshot/v1"

lemma parseDeviceTopic_ok (hslash : '/' ∉ topicNamespace.toList) {kind : DeviceMessageKind} :
    parseDeviceTopic topicNamespace topic = .ok ⟨id, kind⟩ ↔
      isValidDeviceId id ∧ topic = topicNamespace ++ "/" ++ id ++ "/" ++ kind.suffix := by
  have htopic : topic = topicNamespace ++ "/" ++ id ++ "/" ++ kind.suffix ↔
      topic.toList = topicNamespace.toList ++ '/' :: (id.toList ++ '/' :: kind.suffix.toList) := by
    rw [← String.toList_inj]
    simp
  rw [htopic, parseDeviceTopic]
  constructor
  · intro h
    split at h
    · cases h
    next front rest hfront =>
    split at h
    · cases h
    next deviceId suffix hrest =>
    have hsplit := (splitAtSlash_eq_some.mp hfront).2
    rw [(splitAtSlash_eq_some.mp hrest).2] at hsplit
    split at h
    · cases h
    next hnamespace =>
    split at h
    · cases h
    next hvalid =>
    simp only [ne_eq, not_not, Bool.not_eq_true', Bool.not_eq_false] at hnamespace hvalid
    rw [hsplit, hnamespace]
    split at h
    · next hsuffix =>
        cases h
        exact ⟨hvalid, by simp [hsuffix, DeviceMessageKind.suffix]⟩
    · split at h
      · next hsuffix =>
          cases h
          exact ⟨hvalid, by simp [hsuffix, DeviceMessageKind.suffix]⟩
      · cases h
  · rintro ⟨hvalid, htopic⟩
    rw [splitAtSlash_eq_some.mpr ⟨hslash, htopic⟩]
    simp only
    rw [splitAtSlash_eq_some.mpr ⟨not_mem_of_isValidDeviceId hvalid, rfl⟩]
    cases kind with
    | registration => simp [hvalid, DeviceMessageKind.suffix]
    | telemetry => simp [hvalid, DeviceMessageKind.suffix]

/-- What a topic of the kind has before its id and after it. -/
def InboundKind.frame : InboundKind → String × String
  | .registration => ("/", "/registration")
  | .telemetry => ("/", "/telemetry/snapshot/v1")
  | .configAck => ("/", "/config/ack")
  | .controlAck => ("/", "/control/ack")
  | .configRequest => ("/sources/", "/config/request")
  | .controlRequest => ("/sources/", "/control/request")

lemma InboundKind.topicOf_segments (kind : InboundKind) (topicNamespace id : String) :
    topicOf (kind.segments topicNamespace id) =
      topicNamespace ++ kind.frame.1 ++ id ++ kind.frame.2 := by
  refine String.toList_inj.mp ?_
  cases kind <;> simp [topicOf, segments, frame]

lemma toOption_eq_some {ε α : Type} {result : Except ε α} {a : α} :
    result.toOption = some a ↔ result = .ok a := by
  cases result <;> simp [Except.toOption]

/-- **What a parser takes**: the topics of its kind, with a valid id. -/
lemma InboundKind.parse_iff (hslash : '/' ∉ topicNamespace.toList) (kind : InboundKind) :
    kind.parse topicNamespace topic = some id ↔
      kind.isValidId id ∧ topic = topicOf (kind.segments topicNamespace id) := by
  have hdevice : ∀ kind : DeviceMessageKind, isValidDeviceId id ∧
      topic = topicNamespace ++ "/" ++ id ++ ("/" ++ kind.suffix) ↔
        parseDeviceTopic topicNamespace topic = .ok ⟨id, kind⟩ := by
    intro kind
    rw [parseDeviceTopic_ok hslash, @String.append_assoc (topicNamespace ++ "/" ++ id)]
  rw [topicOf_segments]
  cases kind with
  | registration =>
      refine Iff.trans ?_ (hdevice .registration).symm
      rw [parse]
      split
      · next hparsed => simp [hparsed]
      · next hother => simpa using hother id
  | telemetry =>
      refine Iff.trans ?_ (hdevice .telemetry).symm
      rw [parse]
      split
      · next hparsed => simp [hparsed]
      · next hother => simpa using hother id
  | configAck => exact toOption_eq_some.trans parseDeviceAckTopic_ok
  | controlAck => exact toOption_eq_some.trans parseDeviceAckTopic_ok
  | configRequest => exact toOption_eq_some.trans parseSourceTopic_ok
  | controlRequest => exact toOption_eq_some.trans parseSourceTopic_ok

/-! ### One reading -/

/-- Segments without a slash can be read off the topic. -/
lemma segments_inj {segments others : List String} (hne : segments ≠ []) (hne' : others ≠ [])
    (hslash : ∀ segment ∈ segments, '/' ∉ segment.toList)
    (hslash' : ∀ segment ∈ others, '/' ∉ segment.toList)
    (h : topicOf segments = topicOf others) : segments = others := by
  have hsplit : ∀ parts : List String, parts ≠ [] → (∀ part ∈ parts, '/' ∉ part.toList) →
      (topicOf parts).toList.splitOn '/' = parts.map String.toList := by
    intro parts hparts hfree
    rw [topicOf, String.toList_intercalate]
    refine List.splitOn_intercalate '/' ?_ (by simpa using hparts)
    simpa using hfree
  have hmap := (hsplit segments hne hslash).symm.trans (h ▸ hsplit others hne' hslash')
  exact List.map_injective_iff.mpr (fun _ _ => String.toList_injective) hmap

lemma InboundKind.segments_free (hslash : '/' ∉ topicNamespace.toList) {kind : InboundKind}
    (hid : kind.isValidId id) :
    ∀ segment ∈ kind.segments topicNamespace id, '/' ∉ segment.toList := by
  have hfree : '/' ∉ id.toList := by
    cases kind with
    | registration | telemetry | configAck | controlAck => exact not_mem_of_isValidDeviceId hid
    | configRequest | controlRequest => exact not_mem_of_isValidSourceId hid
  cases kind <;> simp [segments, hslash, hfree]

lemma PublishedTopic.segments_free (hslash : '/' ∉ topicNamespace.toList)
    {published : PublishedTopic} (hid : published.HasValidId) :
    ∀ segment ∈ published.segments topicNamespace, '/' ∉ segment.toList := by
  have hfree : ∀ id : String, isValidDeviceId id ∨ isValidSourceId id → '/' ∉ id.toList :=
    fun id h => h.elim not_mem_of_isValidDeviceId not_mem_of_isValidSourceId
  rcases published with ⟨id, _ | _⟩ | ⟨id, _ | _⟩ | id | _
  all_goals simp [segments, hslash]
  all_goals exact hfree id hid

/-- A topic of one kind and a topic of another have different segments. -/
lemma InboundKind.segments_eq {kind kind' : InboundKind} {id' : String}
    (h : kind.segments topicNamespace id = kind'.segments topicNamespace id') :
    kind = kind' ∧ id = id' := by
  cases kind <;> cases kind' <;> simp_all [segments]

lemma PublishedTopic.segments_ne (published : PublishedTopic) (kind : InboundKind) :
    published.segments topicNamespace ≠ kind.segments topicNamespace id := by
  rcases published with ⟨_, _ | _⟩ | ⟨_, _ | _⟩ | _ | _ <;> cases kind <;>
    simp [segments, InboundKind.segments]

/-- **The topic grammar**: each parser takes exactly the topics of its kind, with a
valid id, and returns the id; no topic has two readings; and no topic that the
service publishes to is one it listens on. -/
theorem topics_apart (topicNamespace : String) (hslash : '/' ∉ topicNamespace.toList) :
    (∀ (kind : InboundKind) topic id, kind.parse topicNamespace topic = some id ↔
      kind.isValidId id ∧ topic = topicOf (kind.segments topicNamespace id)) ∧
    (∀ topic (kind kind' : InboundKind) id id', kind.parse topicNamespace topic = some id →
      kind'.parse topicNamespace topic = some id' → kind = kind' ∧ id = id') ∧
    ∀ published : PublishedTopic, published.HasValidId → ∀ kind : InboundKind,
      kind.parse topicNamespace (published.topic topicNamespace) = none := by
  have hparse : ∀ kind : InboundKind, ∀ topic id,
      kind.parse topicNamespace topic = some id ↔
        kind.isValidId id ∧ topic = topicOf (kind.segments topicNamespace id) :=
    fun kind topic id => kind.parse_iff hslash
  have hsome : ∀ (kind : InboundKind) (id : String), kind.segments topicNamespace id ≠ [] := by
    intro kind id
    cases kind <;> exact List.cons_ne_nil _ _
  refine ⟨hparse, fun topic kind kind' id id' h h' => ?_, fun published hid kind => ?_⟩
  · have ⟨hid, htopic⟩ := (hparse kind topic id).mp h
    have ⟨hid', htopic'⟩ := (hparse kind' topic id').mp h'
    exact InboundKind.segments_eq (segments_inj (hsome kind id) (hsome kind' id')
      (InboundKind.segments_free hslash hid) (InboundKind.segments_free hslash hid')
      (htopic.symm.trans htopic'))
  · refine Option.eq_none_iff_forall_ne_some.mpr fun id h => ?_
    have ⟨hkind, htopic⟩ := (hparse kind _ id).mp h
    rw [published.topic_eq] at htopic
    refine published.segments_ne kind (segments_inj ?_ (hsome kind id)
      (PublishedTopic.segments_free hslash hid) (InboundKind.segments_free hslash hkind) htopic)
    rcases published with ⟨_, _ | _⟩ | ⟨_, _ | _⟩ | _ | _ <;> exact List.cons_ne_nil _ _

end

theorem topics_apart_sources :
    InboundKind.configAck.parse "cns" "cns/sources/config/ack" = some "sources" :=
  ((topics_apart "cns" (by decide)).1 .configAck _ _).mpr ⟨by decide, by decide⟩

/-! ### Devices as sources -/

lemma isValidSourceId_of_device {deviceId : String} (h : isValidDeviceId deviceId) :
    isValidSourceId deviceId = true ↔ ':' ∉ deviceId.toList := by
  simp only [isValidDeviceId, Bool.and_eq_true, Bool.not_eq_true', decide_eq_true_eq,
    List.all_eq_true, Bool.or_eq_true] at h
  simp only [isValidSourceId, Bool.and_eq_true, Bool.not_eq_true', decide_eq_true_eq,
    List.all_eq_true, Bool.or_eq_true]
  obtain ⟨⟨hne, hlen⟩, hall⟩ := h
  constructor
  · rintro ⟨-, hsource⟩ hmem
    exact absurd (hsource ':' hmem) (by decide)
  · intro hcolon
    refine ⟨⟨hne, by omega⟩, fun c hc => ?_⟩
    have hother : c ≠ ':' := by
      rintro rfl
      exact hcolon hc
    have hdevice := hall c hc
    tauto

/-- **Which devices can send requests**: the topics of a device are taken as those of a
source exactly when its id has no colon, which the database lets through. -/
theorem sourceTopics_of_device (topicNamespace deviceId : String) (h : isValidDeviceId deviceId) :
    (parseSourceRequestTopic topicNamespace
        (topicOf [topicNamespace, "sources", deviceId, "config", "request"]) = .ok deviceId ∧
      parseSourceControlRequestTopic topicNamespace
        (topicOf [topicNamespace, "sources", deviceId, "control", "request"]) = .ok deviceId) ↔
      ':' ∉ deviceId.toList := by
  have hconfig : topicOf [topicNamespace, "sources", deviceId, "config", "request"] =
      topicNamespace ++ "/sources/" ++ deviceId ++ "/config/request" :=
    InboundKind.configRequest.topicOf_segments topicNamespace deviceId
  have hcontrol : topicOf [topicNamespace, "sources", deviceId, "control", "request"] =
      topicNamespace ++ "/sources/" ++ deviceId ++ "/control/request" :=
    InboundKind.controlRequest.topicOf_segments topicNamespace deviceId
  rw [parseSourceRequestTopic, parseSourceControlRequestTopic, parseSourceTopic_ok,
    parseSourceTopic_ok, hconfig, hcontrol, ← isValidSourceId_of_device h]
  simp only [and_true, and_self]

theorem sourceTopics_of_px4 :
    parseSourceRequestTopic "cns" "cns/sources/PX4-1/config/request" = .ok "PX4-1" ∧
      parseSourceControlRequestTopic "cns" "cns/sources/PX4-1/control/request" = .ok "PX4-1" :=
  (sourceTopics_of_device "cns" "PX4-1" (by decide)).mpr (by decide)

/-- A device with a colon in its id is no source. -/
theorem sourceTopics_colon :
    isValidDeviceId "PX4:1" ∧ sourceIdCheck "PX4:1" ∧
      parseSourceRequestTopic "cns" "cns/sources/PX4:1/config/request" =
        .error ⟨"invalid_topic", "source_id无效"⟩ := by
  decide

end CnsServer
