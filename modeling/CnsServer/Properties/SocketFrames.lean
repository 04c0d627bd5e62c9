/-
What the browsers receive.

* `IsOpen`, `Wants`, `submitter`: what the trace says of a session and of a request;
* `Proper`: every frame goes to an open session, is one that the browser accepts, and is the
  session's business;
* `InUse`: **the invariant**: the hub, the tracker and the subscriptions say what the trace
  does;
* `frames_proper`, `fan_out_exact`: **in every run**.
-/
import CnsServer.Backend.WebSocketHub
import CnsServer.Properties.InterestCounts
import CnsServer.Properties.RouteMessages
import CnsServer.Properties.LateOperations
import CnsServer.Properties.CommandTracking

namespace CnsServer

open Schema

/-! ### What the trace says -/

/-- The session has been opened, and not closed since. -/
def IsOpen : List SocketEvent → String → Prop
  | [], _ => False
  | .opened other :: earlier, sessionId => other = sessionId ∨ IsOpen earlier sessionId
  | .closed other :: earlier, sessionId => other ≠ sessionId ∧ IsOpen earlier sessionId
  | _ :: earlier, sessionId => IsOpen earlier sessionId

/-- The last the session has said of the device is that it wants it. -/
def Wants : List SocketEvent → String → String → Prop
  | [], _, _ => False
  | .interest other device interested :: earlier, sessionId, deviceId =>
      if other = sessionId ∧ device = deviceId then interested = true
      else Wants earlier sessionId deviceId
  | .closed other :: earlier, sessionId, deviceId =>
      other ≠ sessionId ∧ Wants earlier sessionId deviceId
  | _ :: earlier, sessionId, deviceId => Wants earlier sessionId deviceId

/-- The latest command that was accepted with the number of the request. -/
def submitter : List SocketEvent → String → Option TrackedCommand
  | [], _ => none
  | .accepted other command :: earlier, requestId =>
      if other = requestId then some command else submitter earlier requestId
  | _ :: earlier, requestId => submitter earlier requestId

/-- The frame is the business of the session: a realtime frame is of a device that it wants,
and the update of a command is of one that it has submitted. -/
structure Concerns (earlier : List SocketEvent) (sessionId : String) (frame : JsValue) : Prop where
  realtime : frame.get "type" = some (.string "telemetry.realtime") →
    ∃ deviceId, frame.get "device_id" = some (.string deviceId) ∧ Wants earlier sessionId deviceId
  command : frame.get "type" = some (.string "command.updated") →
    ∃ requestId command, frame.get "client_request_id" = some (.string requestId) ∧
      submitter earlier requestId = some command ∧
      command.sessionId = some (.string sessionId) ∧
      frame.get "device_id" = some (.string command.deviceId)

/-- What is sent, after the earlier events. -/
def SocketEvent.Proper (earlier : List SocketEvent) : SocketEvent → Prop
  | .sent sessionId frame =>
      IsOpen earlier sessionId ∧ backendWebSocketEventSchema (some frame) = true ∧
        Concerns earlier sessionId frame
  | _ => True

/-- Whatever was sent was proper when it was. -/
def Proper : List SocketEvent → Prop
  | [] => True
  | event :: earlier => event.Proper earlier ∧ Proper earlier

lemma proper_iff {log : List SocketEvent} :
    Proper log ↔ ∀ later event earlier, log = later ++ event :: earlier → event.Proper earlier := by
  induction log with
  | nil => simp [Proper]
  | cons first log ih =>
      rw [Proper, ih]
      constructor
      · rintro ⟨hfirst, hlog⟩ later event earlier heq
        cases later with
        | nil =>
            obtain ⟨rfl, rfl⟩ := List.cons.inj heq
            exact hfirst
        | cons other later => exact hlog later event earlier (List.cons.inj heq).2
      · intro h
        exact ⟨h [] first log rfl, fun later event earlier heq =>
          h (first :: later) event earlier (heq ▸ rfl)⟩

/-! ### The events -/

lemma get_ofProperties {properties : List (String × Option JsValue)}
    (h : (properties.map Prod.fst).Nodup) (key : String) :
    (JsValue.ofProperties properties).get key = (properties.lookup key).join :=
  lookup_present h key

lemma accepted_of_union {schema : Schema} {schemas : List Schema} {value : Option JsValue}
    (hmem : schema ∈ schemas) (h : schema value = true) : union schemas value = true :=
  List.any_eq_true.mpr ⟨schema, hmem, h⟩

/-- An event that is checked before it is sent. -/
lemma of_checked {schema : Schema} {value event : JsValue}
    (h : (if schema (some value) then some value else none) = some event) :
    event = value ∧ schema (some event) = true := by
  split at h
  · next haccepted =>
      cases h
      exact ⟨rfl, haccepted⟩
  · cases h

lemma readyEvent_proper {sessionId serverTime : String} {event : JsValue}
    (h : sessionReadyEvent sessionId serverTime = some event) :
    backendWebSocketEventSchema (some event) = true ∧
      event.get "type" = some (.string "session.ready") := by
  obtain ⟨rfl, haccepted⟩ := of_checked h
  exact ⟨accepted_of_union List.mem_cons_self haccepted, rfl⟩

lemma stateEvent_proper {arithmetic : CoordinateArithmetic} {message event : JsValue}
    (h : deviceStateEvent arithmetic message = some event) :
    backendWebSocketEventSchema (some event) = true ∧
      event.get "type" = some (.string "device.state") := by
  obtain ⟨rfl, haccepted⟩ := of_checked h
  refine ⟨accepted_of_union (List.mem_cons_of_mem _ List.mem_cons_self) haccepted, ?_⟩
  rw [get_ofProperties (by simp)]
  rfl

lemma commandEvent_proper {ack event : JsValue} {tracked : TrackedCommand}
    (h : toCommandUpdatedEvent ack tracked = some event) :
    backendWebSocketEventSchema (some event) = true ∧
      event.get "type" = some (.string "command.updated") ∧
      event.get "client_request_id" = ack.get "request_id" ∧
      event.get "device_id" = some (.string tracked.deviceId) := by
  obtain ⟨rfl, haccepted⟩ := of_checked h
  refine ⟨accepted_of_union (by simp) haccepted, ?_, ?_, ?_⟩
  · rw [get_ofProperties (by simp)]
    rfl
  · rw [get_ofProperties (by simp)]
    rfl
  · rw [get_ofProperties (by simp)]
    rfl

/-- The event of a frame has the properties of the frame, and its own two. -/
lemma realtimeEvent_proper {frame : JsValue} (h : deviceRealtimeFrameSchema (some frame) = true)
    {serverReceivedAt : String} (htime : isDatetime serverReceivedAt = true) :
    backendWebSocketEventSchema (some (realtimeEvent serverReceivedAt frame)) = true ∧
      (realtimeEvent serverReceivedAt frame).get "type" = some (.string "telemetry.realtime") ∧
      (realtimeEvent serverReceivedAt frame).get "device_id" = frame.get "device_id" := by
  obtain ⟨fields, hfields, hshape, hkeys⟩ := object_iff.mp h
  cases hfields
  have hnew : fields.lookup "server_received_at" = none := by
    rw [List.lookup_eq_none_iff]
    intro field hfield
    rw [bne_iff_ne]
    rintro heq
    have hmem := hkeys rfl field hfield
    rw [← heq] at hmem
    exact absurd hmem (by decide)
  have hrequired : ∀ entry ∈ deviceRealtimeShape, entry.2 none = false := by
    simp only [deviceRealtimeShape, List.forall_mem_cons]
    exact ⟨rfl, rfl, rfl, rfl, rfl, by simp⟩
  -- a property that the frame has comes before the new one
  have hold : ∀ entry ∈ deviceRealtimeShape,
      (("type", JsValue.string "telemetry.realtime") ::
        (fields ++ [("server_received_at", .string serverReceivedAt)])).lookup entry.1 =
          fields.lookup entry.1 := by
    intro entry hentry
    have haccepted := hshape entry hentry
    cases hfound : fields.lookup entry.1 with
    | none =>
        rw [hfound, hrequired entry hentry] at haccepted
        cases haccepted
    | some value =>
        have hother : entry.1 ≠ "type" := by
          intro heq
          have hname : "type" ∈ deviceRealtimeShape.map Prod.fst :=
            heq ▸ List.mem_map_of_mem hentry
          exact absurd hname (by decide)
        rw [List.lookup_cons, beq_eq_false_iff_ne.mpr hother, List.lookup_append, hfound]
        rfl
  have haccepted : deviceRealtimeEventSchema
      (some (realtimeEvent serverReceivedAt (.object fields))) = true := by
    refine object_iff.mpr ⟨_, rfl, fun entry hentry => ?_, fun _ field hfield => ?_⟩
    · rcases List.mem_append.mp hentry with hframe | hown
      · rw [hold entry hframe]
        exact hshape entry hframe
      · rcases List.mem_cons.mp hown with rfl | hlast
        · rfl
        · rw [List.mem_singleton.mp hlast, List.lookup_cons, List.lookup_append, hnew]
          simp [dateTimeStringSchema, string, StringCheck.holds, htime]
    · rw [List.map_append, List.mem_append]
      rcases List.mem_cons.mp hfield with rfl | hrest
      · exact .inr (by simp)
      · rcases List.mem_append.mp hrest with hframe | hlast
        · exact .inl (hkeys rfl field hframe)
        · rw [List.mem_singleton.mp hlast]
          exact .inr (by simp)
  exact ⟨accepted_of_union (by simp) haccepted, rfl,
    hold _ (List.mem_cons_of_mem _ List.mem_cons_self)⟩

/-! ### The subscriptions -/

lemma schedule_desired (s : RealtimeTopicSubscriptions) : s.schedule.desired = s.desired := by
  rw [RealtimeTopicSubscriptions.schedule]
  split
  · rfl
  · rfl

lemma mem_setDesired {s : RealtimeTopicSubscriptions} (hsets : AreSets s) (deviceId : String)
    (interested : Bool) (other : String) :
    other ∈ (s.setDesired deviceId interested).desired ↔
      if other = deviceId then interested = true else other ∈ s.desired := by
  rw [RealtimeTopicSubscriptions.setDesired, schedule_desired]
  exact mem_setInterest hsets

/-- Nothing else changes what is wanted. -/
lemma next_desired {topicFor : String → String} {s : RealtimeTopicSubscriptions}
    {input : SubscriptionInput}
    (hcall : ∀ deviceId interested, input ≠ .setDesired deviceId interested) :
    (s.next topicFor input).desired = s.desired := by
  cases input with
  | setConnected connected => exact schedule_desired _
  | setDesired deviceId interested => exact absurd rfl (hcall deviceId interested)
  | settle => exact schedule_desired s
  | complete outcome =>
      rw [RealtimeTopicSubscriptions.next, RealtimeTopicSubscriptions.complete]
      split
      · next operation deviceId _ rest _ =>
          split
          · rfl
          · cases outcome with
            | succeeded => cases operation <;> rfl
            | failed => rfl
            | timedOut => rfl
      · rfl
  | resume =>
      rw [RealtimeTopicSubscriptions.next, RealtimeTopicSubscriptions.resume]
      split
      · rfl
      · split
        · rfl
        · rfl
      · rfl
  | clear => rfl

/-- The devices that are wanted after the calls of some notifications, latest first. -/
lemma mem_notify {topicFor : String → String} (notified : List (String × Bool))
    {s : RealtimeTopicSubscriptions} (hsets : AreSets s) {before : List (String × Bool)}
    (h : ∀ deviceId, deviceId ∈ s.desired ↔ deviceId ∈ replay before) :
    AreSets (notified.reverse.foldl (fun subscriptions (deviceId, interested) =>
        subscriptions.setDesired deviceId interested) s) ∧
      ∀ deviceId, deviceId ∈ (notified.reverse.foldl (fun subscriptions (deviceId, interested) =>
        subscriptions.setDesired deviceId interested) s).desired ↔
          deviceId ∈ replay (notified ++ before) := by
  induction notified with
  | nil => exact ⟨hsets, h⟩
  | cons first notified ih =>
      obtain ⟨hsets', hdesired⟩ := ih
      simp only [List.reverse_cons, List.foldl_append, List.foldl_cons, List.foldl_nil]
      refine ⟨@next_sets topicFor _ hsets' (.setDesired first.1 first.2), fun deviceId => ?_⟩
      rw [mem_setDesired hsets', hdesired, List.cons_append, mem_replay_cons]

/-! ### The invariant -/

/-- The hub, the tracker and the subscriptions say what the trace does. -/
structure InUse (s : Backend) : Prop where
  nodup : s.hub.sessions.Nodup
  sessions : ∀ sessionId, sessionId ∈ s.hub.sessions ↔ IsOpen s.log sessionId
  interests : ∀ sessionId deviceId, s.hub.interests.isInterested sessionId deviceId = true ↔
    Wants s.log sessionId deviceId
  wanting : ∀ sessionId deviceId, Wants s.log sessionId deviceId → IsOpen s.log sessionId
  counted : s.hub.interests.Counted []
  sets : AreSets s.subscriptions
  desired : ∀ deviceId, deviceId ∈ s.subscriptions.desired ↔
    deviceId ∈ replay s.hub.interests.notified
  commands : ∀ requestId command, s.tracker.commands.lookup requestId = some command →
    submitter s.log requestId = some command
  opened : ∀ sessionId, IsOpen s.log sessionId → .opened sessionId ∈ s.log
  proper : Proper s.log

section

variable {config : BackendConfig} {s : Backend}

lemma inUse_fresh : InUse .fresh where
  nodup := List.nodup_nil
  sessions _ := by simp [Backend.fresh, IsOpen]
  interests _ _ := by
    simp [Backend.fresh, Wants, TelemetryInterestRegistry.fresh,
      TelemetryInterestRegistry.isInterested]
  wanting _ _ h := by cases h
  counted := TelemetryInterestRegistry.counted_fresh
  sets := ⟨List.nodup_nil, List.nodup_nil⟩
  desired _ := by simp [Backend.fresh, RealtimeTopicSubscriptions.fresh,
    TelemetryInterestRegistry.fresh, replay]
  commands _ _ h := by cases h
  opened _ h := by cases h
  proper := trivial

/-! ### What is sent -/

/-- A frame that is proper is sent. -/
lemma InUse.send (h : InUse s) {frame : JsValue} {sessionId : String}
    (hproper : (SocketEvent.sent sessionId frame).Proper s.log) :
    InUse (s.send frame sessionId) where
  nodup := h.nodup
  sessions := h.sessions
  interests := h.interests
  wanting := h.wanting
  counted := h.counted
  sets := h.sets
  desired := h.desired
  commands := h.commands
  opened id hopen := List.mem_cons_of_mem _ (h.opened id hopen)
  proper := ⟨hproper, h.proper⟩

/-- A frame of a session stays proper while others are sent. -/
lemma InUse.sendAll (h : InUse s) {frame : JsValue} {sessions : List String}
    (hproper : ∀ sessionId ∈ sessions, (SocketEvent.sent sessionId frame).Proper s.log) :
    InUse (s.sendAll frame sessions) := by
  induction sessions generalizing s with
  | nil => exact h
  | cons first sessions ih =>
      have hsent := h.send (hproper first List.mem_cons_self)
      refine ih hsent fun sessionId hmem => ?_
      obtain ⟨hopen, haccepted, hconcerns⟩ := hproper sessionId (List.mem_cons_of_mem _ hmem)
      exact ⟨hopen, haccepted, hconcerns.realtime, hconcerns.command⟩

/-- A frame that is not one of these two kinds is anyone's business. -/
lemma concerns_of_type {earlier : List SocketEvent} {sessionId : String} {frame : JsValue}
    {type : String} (htype : frame.get "type" = some (.string type))
    (hrealtime : type ≠ "telemetry.realtime") (hcommand : type ≠ "command.updated") :
    Concerns earlier sessionId frame := by
  refine ⟨fun h => ?_, fun h => ?_⟩
  · rw [htype] at h
    cases h
    exact absurd rfl hrealtime
  · rw [htype] at h
    cases h
    exact absurd rfl hcommand

/-! ### Sockets -/

/-- A call of the registry is followed by the subscriptions. -/
lemma InUse.callInterests (h : InUse s) (call : InterestCall) :
    AreSets (s.callInterests call).subscriptions ∧
      ∀ deviceId, deviceId ∈ (s.callInterests call).subscriptions.desired ↔
        deviceId ∈ replay (s.hub.interests.call call).notified := by
  obtain ⟨new, hnew⟩ := s.hub.interests.call_notified call
  have htake : (s.hub.interests.call call).notified.take
      ((s.hub.interests.call call).notified.length - s.hub.interests.notified.length) = new := by
    rw [← hnew, List.length_append, Nat.add_sub_cancel, List.take_left]
  have hnotified := @mem_notify id new _ h.sets _ h.desired
  rw [hnew] at hnotified
  rw [Backend.callInterests]
  simp only [htake]
  exact hnotified

lemma InUse.connect (h : InUse s) {sessionId : String} {now : TimePoint}
    (hnew : SocketEvent.opened sessionId ∉ s.log) : InUse (s.connect sessionId now) := by
  have hclosed : sessionId ∉ s.hub.sessions := fun hmem =>
    hnew (h.opened sessionId ((h.sessions sessionId).mp hmem))
  have hopened : InUse { s with
      hub := { s.hub with sessions := s.hub.sessions ++ [sessionId] }
      log := .opened sessionId :: s.log } :=
    { nodup := by
        rw [← List.concat_eq_append]
        exact h.nodup.concat hclosed
      sessions := fun other => by
        rw [List.mem_append, List.mem_singleton, h.sessions other, IsOpen, or_comm, eq_comm]
      interests := h.interests
      wanting := fun other deviceId hwants => .inr (h.wanting other deviceId hwants)
      counted := h.counted
      sets := h.sets
      desired := h.desired
      commands := h.commands
      opened := fun other hopen => by
        rcases hopen with rfl | hopen
        · exact List.mem_cons_self
        · exact List.mem_cons_of_mem _ (h.opened other hopen)
      proper := ⟨trivial, h.proper⟩ }
  rw [Backend.connect]
  dsimp only
  split
  · next event hevent =>
      obtain ⟨haccepted, htype⟩ := readyEvent_proper hevent
      exact hopened.send ⟨.inl rfl, haccepted, concerns_of_type htype (by decide) (by decide)⟩
  · exact hopened

lemma InUse.disconnect (h : InUse s) (sessionId : String) : InUse (s.disconnect sessionId) := by
  obtain ⟨hsets, hdesired⟩ := h.callInterests (.removeSession sessionId)
  exact
    { nodup := h.nodup.filter _
      sessions := fun other => by
        have hmem : other ∈ (s.disconnect sessionId).hub.sessions ↔
            other ∈ s.hub.sessions ∧ other ≠ sessionId := by
          rw [Backend.disconnect, List.mem_filter, decide_eq_true_iff]
          rfl
        rw [hmem, h.sessions other]
        exact ⟨fun ⟨hopen, hne⟩ => ⟨hne.symm, hopen⟩, fun ⟨hne, hopen⟩ => ⟨hopen, hne.symm⟩⟩
      interests := fun other deviceId => by
        refine (TelemetryInterestRegistry.isInterested_removeSession sessionId other
          deviceId).trans ?_
        rw [h.interests other deviceId]
        exact ⟨fun ⟨hne, hwants⟩ => ⟨hne.symm, hwants⟩, fun ⟨hne, hwants⟩ => ⟨hne.symm, hwants⟩⟩
      wanting := fun other deviceId hwants => ⟨hwants.1, h.wanting other deviceId hwants.2⟩
      counted := h.counted.removeSession sessionId
      sets := hsets
      desired := hdesired
      commands := h.commands
      opened := fun other hopen => List.mem_cons_of_mem _ (h.opened other hopen.2)
      proper := ⟨trivial, h.proper⟩ }

lemma InUse.receive (h : InUse s) {sessionId : String} (hmem : sessionId ∈ s.hub.sessions)
    (payload : Option JsValue) : InUse (s.receive sessionId payload) := by
  rw [Backend.receive]
  split
  · exact h
  next message _ =>
  obtain ⟨interested, deviceId⟩ := message
  obtain ⟨hsets, hdesired⟩ := h.callInterests (interestCall sessionId (interested, deviceId))
  have hopen := (h.sessions sessionId).mp hmem
  refine
    { nodup := h.nodup
      sessions := h.sessions
      interests := fun other device => ?_
      wanting := fun other device hwants => ?_
      counted := h.counted.call _
      sets := hsets
      desired := hdesired
      commands := h.commands
      opened := fun other hother => List.mem_cons_of_mem _ (h.opened other hother)
      proper := ⟨trivial, h.proper⟩ }
  · show (s.hub.interests.call (interestCall sessionId (interested, deviceId))).isInterested other
        device = true ↔ if sessionId = other ∧ deviceId = device then interested = true
          else Wants s.log other device
    rw [← h.interests other device]
    cases interested with
    | true =>
        refine (TelemetryInterestRegistry.isInterested_subscribe sessionId deviceId other
          device).trans ?_
        split
        · next heq => simp [heq.1, heq.2]
        · next hne =>
            refine ⟨fun hcase => hcase.resolve_left fun heq => ?_, .inr⟩
            exact hne ⟨heq.1.symm, heq.2.symm⟩
    | false =>
        refine (TelemetryInterestRegistry.isInterested_unsubscribe h.counted sessionId deviceId
          other device).trans ?_
        split
        · next heq => simp [heq.1, heq.2]
        · next hne =>
            refine ⟨And.right, fun hinterested => ⟨fun heq => ?_, hinterested⟩⟩
            exact hne ⟨heq.1.symm, heq.2.symm⟩
  · rw [Wants] at hwants
    split at hwants
    · next heq =>
        rw [← heq.1]
        exact hopen
    · exact h.wanting other device hwants

/-! ### Messages of the broker -/

/-- The event of an ACK is that of the command, and goes to its session. -/
lemma onCommandAck_some {tracker tracker' : CommandTracker} {message event : JsValue}
    {sessionId : Option JsValue}
    (h : onCommandAck tracker message = (tracker', some (sessionId, event))) :
    ∃ requestId command, message.get "request_id" = some (.string requestId) ∧
      tracker.commands.lookup requestId = some command ∧ command.sessionId = sessionId ∧
      toCommandUpdatedEvent message command = some event := by
  rw [onCommandAck] at h
  split at h
  · next requestId hrequest =>
      split at h
      · cases h
      split at h
      · cases h
      next command hcommand =>
      split at h
      · cases h
      next found hfound =>
      cases h
      exact ⟨requestId, command, hrequest, hcommand, rfl, hfound⟩
  · cases h

/-- The commands stay until the timer of the request fires. -/
lemma onCommandAck_commands (tracker : CommandTracker) (message : JsValue) :
    (onCommandAck tracker message).1.commands = tracker.commands := by
  rw [onCommandAck]
  split
  · split
    · rfl
    split
    · rfl
    split
    · rfl
    · dsimp only
      split
      · simp [CommandTracker.complete]
      · rfl
  · rfl

lemma InUse.tracked (h : InUse s) {tracker : CommandTracker}
    (hcommands : ∀ requestId command, tracker.commands.lookup requestId = some command →
      s.tracker.commands.lookup requestId = some command) : InUse { s with tracker } where
  nodup := h.nodup
  sessions := h.sessions
  interests := h.interests
  wanting := h.wanting
  counted := h.counted
  sets := h.sets
  desired := h.desired
  commands requestId command hlookup := h.commands requestId command (hcommands _ _ hlookup)
  opened := h.opened
  proper := h.proper

lemma InUse.deviceState (h : InUse s) {message : JsValue} (now : TimePoint)
    (bufferedAmount : String → ℕ) :
    InUse (s.handle config now bufferedAmount (.deviceState message)) := by
  rw [Backend.handle]
  split
  · next event hevent =>
      obtain ⟨haccepted, htype⟩ := stateEvent_proper hevent
      exact h.sendAll fun sessionId hmem => ⟨(h.sessions sessionId).mp hmem, haccepted,
        concerns_of_type htype (by decide) (by decide)⟩
  · exact h

/-- A realtime frame goes to sessions that want its device. -/
lemma InUse.deviceRealtime (h : InUse s) {frame : JsValue}
    (hframe : deviceRealtimeFrameSchema (some frame) = true) {now : TimePoint}
    (hclock : InClockRange now) (bufferedAmount : String → ℕ) :
    InUse (s.handle config now bufferedAmount (.deviceRealtime frame)) := by
  rw [Backend.handle]
  split
  · next deviceId hdevice =>
      obtain ⟨haccepted, htype, hsame⟩ := realtimeEvent_proper hframe (isDatetime_format hclock)
      refine h.sendAll fun sessionId hmem => ?_
      obtain ⟨hsession, hreceives⟩ := List.mem_filter.mp hmem
      have hinterested := (Bool.and_eq_true_iff.mp hreceives).1
      refine ⟨(h.sessions sessionId).mp hsession, haccepted, fun _ => ?_, fun hcommand => ?_⟩
      · exact ⟨deviceId, hsame.trans hdevice, (h.interests sessionId deviceId).mp hinterested⟩
      · rw [htype] at hcommand
        exact absurd hcommand (by simp)
  · exact h

/-- The update of a command goes to the session that has submitted it. -/
lemma InUse.commandAck (h : InUse s) (message : JsValue) (now : TimePoint)
    (bufferedAmount : String → ℕ) :
    InUse (s.handle config now bufferedAmount (.commandAck message)) := by
  have hkept : InUse { s with tracker := (onCommandAck s.tracker message).1 } :=
    h.tracked fun requestId command => by
      rw [onCommandAck_commands]
      exact id
  rw [Backend.handle]
  cases hack : onCommandAck s.tracker message with
  | mk tracker event =>
    rw [hack] at hkept
    cases event with
    | none => exact hkept
    | some sent =>
        obtain ⟨sessionId, event⟩ := sent
        obtain ⟨requestId, command, hrequest, hcommand, hsession, hevent⟩ := onCommandAck_some hack
        obtain ⟨haccepted, htype, hid, hdevice⟩ := commandEvent_proper hevent
        simp only [Backend.sendToSession]
        split
        · next id =>
            split
            · next hmem =>
                refine hkept.send ⟨(h.sessions id).mp hmem, haccepted, fun hrealtime => ?_,
                  fun _ => ⟨requestId, command, hid.trans hrequest,
                    h.commands requestId command hcommand, hsession, hdevice⟩⟩
                rw [htype] at hrealtime
                exact absurd hrealtime (by simp)
            · exact hkept
        · exact hkept

/-- **A step keeps the invariant.** -/
lemma next_inUse (h : InUse s) {input : BackendInput} (henabled : input.Enabled s) :
    InUse (input.apply config s) := by
  cases input with
  | connect uuid now => exact h.connect fun hmem => henabled.2.2 _ hmem _ rfl rfl
  | disconnect sessionId => exact h.disconnect sessionId
  | receive sessionId payload => exact h.receive henabled payload
  | mqtt topic payload now bufferedAmount =>
      rw [BackendInput.apply]
      split
      · next handled hhandled =>
          cases handled with
          | deviceState message => exact h.deviceState now bufferedAmount
          | commandAck message => exact h.commandAck message now bufferedAmount
          | deviceRealtime frame =>
              have hframe := (handles_deviceRealtime.mp hhandled).2.1
              exact h.deviceRealtime hframe henabled bufferedAmount
      · exact h
  | submit dependencies deviceId body =>
      rw [BackendInput.apply, Backend.submit]
      split
      · next requestId command _ =>
          refine ⟨h.nodup, h.sessions, h.interests, h.wanting, h.counted, h.sets, h.desired,
            fun other found hlookup => ?_,
            fun sessionId hopen => List.mem_cons_of_mem _ (h.opened sessionId hopen),
            ⟨trivial, h.proper⟩⟩
          rw [submitter]
          simp only [CommandTracker.register, CommandTracker.clearTimer_commands] at hlookup
          rw [Map.lookup_insert_ite] at hlookup
          split at hlookup
          · next heq =>
              rw [if_pos heq.symm]
              exact hlookup
          · next hne =>
              rw [if_neg (Ne.symm hne)]
              exact h.commands other found hlookup
      · exact h
  | publishFailed requestId =>
      refine h.tracked fun other command hlookup => ?_
      simp only [CommandTracker.forget, CommandTracker.clearTimer_commands] at hlookup
      exact (Map.lookup_erase_some.mp hlookup).2
  | expire timer =>
      refine h.tracked fun other command hlookup => ?_
      rw [CommandTracker.expire] at hlookup
      split at hlookup
      · exact (Map.lookup_erase_some.mp hlookup).2
      · exact hlookup
  | subscription input =>
      have hcall : ∀ deviceId interested, input ≠ .setDesired deviceId interested := by
        rintro deviceId interested rfl
        exact henabled
      refine ⟨h.nodup, h.sessions, h.interests, h.wanting, h.counted, next_sets h.sets input,
        fun deviceId => ?_, h.commands, h.opened, h.proper⟩
      refine Iff.trans ?_ (h.desired deviceId)
      rw [BackendInput.apply, next_desired hcall]

/-! ### Every run -/

lemma inUse_of_reachable (h : (backend config).Reachable s) : InUse s := by
  refine h.invariant (fun s h0 => ?_) fun s input _ hs henabled => ?_
  · cases h0
    exact inUse_fresh
  · exact next_inUse hs henabled

/-- The wanted devices are those that an open session wants. -/
lemma InUse.desired_iff (h : InUse s) (deviceId : String) :
    deviceId ∈ s.subscriptions.desired ↔
      ∃ sessionId, IsOpen s.log sessionId ∧ Wants s.log sessionId deviceId := by
  have hcount := h.counted.count deviceId
  rw [← TelemetryInterestRegistry.length_interestedSessions, List.count_nil, Nat.add_zero] at hcount
  rw [h.desired, h.counted.replayed]
  constructor
  · intro hsome
    obtain ⟨n, hn⟩ := Option.isSome_iff_exists.mp hsome
    have hpos : 0 < n := h.counted.positive deviceId n hn
    rw [hn, Option.getD_some] at hcount
    have hlength : 0 < (s.hub.interests.interestedSessions deviceId).length := by omega
    obtain ⟨sessionId, hmem⟩ := List.exists_mem_of_length_pos hlength
    have hwants := (h.interests sessionId deviceId).mp
      (TelemetryInterestRegistry.mem_interestedSessions.mp hmem)
    exact ⟨sessionId, h.wanting sessionId deviceId hwants, hwants⟩
  · rintro ⟨sessionId, -, hwants⟩
    have hmem := TelemetryInterestRegistry.mem_interestedSessions.mpr
      ((h.interests sessionId deviceId).mpr hwants)
    have hlength := List.length_pos_of_mem hmem
    cases hlookup : s.hub.interests.sessionCountsByDevice.lookup deviceId with
    | none =>
        rw [hlookup, Option.getD_none] at hcount
        omega
    | some n => rfl

lemma sendAll_log (s : Backend) (frame : JsValue) (sessions : List String) :
    (s.sendAll frame sessions).log =
      (sessions.map fun sessionId => SocketEvent.sent sessionId frame).reverse ++ s.log := by
  induction sessions generalizing s with
  | nil => rfl
  | cons first sessions ih =>
      rw [List.map_cons, List.reverse_cons, List.append_assoc]
      exact ih (s.send frame first)

/-- **What a browser receives.**  In every run, whatever the broker and the browsers send and
in whatever order, each frame goes to a session that is open, is one that the browser's schema
accepts, and is the session's business: a realtime frame is of a device that the session wants
by its last word, and the update of a command is of one whose latest submission was the
session's, with its device. -/
theorem frames_proper (config : BackendConfig) (s : Backend) (h : (backend config).Reachable s)
    (later earlier : List SocketEvent) (sessionId : String) (frame : JsValue)
    (hlog : s.log = later ++ .sent sessionId frame :: earlier) :
    IsOpen earlier sessionId ∧ backendWebSocketEventSchema (some frame) = true ∧
      Concerns earlier sessionId frame :=
  proper_iff.mp (inUse_of_reachable h).proper later _ earlier hlog

/-- **The fan-out is exact.**  In every run the devices whose realtime topic is wanted are those
that some open session wants; and a realtime frame of a device is sent, once each, to the open
sessions that want the device and have no more than 256 KiB waiting, and to no other. -/
theorem fan_out_exact (config : BackendConfig) (s : Backend) (h : (backend config).Reachable s) :
    (∀ deviceId, deviceId ∈ s.subscriptions.desired ↔
      ∃ sessionId, IsOpen s.log sessionId ∧ Wants s.log sessionId deviceId) ∧
    ∀ frame deviceId now bufferedAmount, deviceRealtimeFrameSchema (some frame) = true →
      frame.get "device_id" = some (.string deviceId) →
      ∃ receivers : List String, receivers.Nodup ∧
        (∀ sessionId, sessionId ∈ receivers ↔ IsOpen s.log sessionId ∧
          Wants s.log sessionId deviceId ∧ bufferedAmount sessionId ≤ 256 * 1024) ∧
        ((BackendInput.mqtt (realtimeTopic config.topicNamespace deviceId) (some frame) now
          bufferedAmount).apply config s).log =
            (receivers.map fun sessionId => SocketEvent.sent sessionId
              (realtimeEvent (formatUtcRfc3339Millis now) frame)).reverse ++ s.log := by
  have hinv := inUse_of_reachable h
  refine ⟨hinv.desired_iff, fun frame deviceId now bufferedAmount hframe hdevice => ?_⟩
  refine ⟨s.receivers bufferedAmount deviceId, hinv.nodup.filter _, fun sessionId => ?_, ?_⟩
  · rw [Backend.receivers, List.mem_filter, Bool.and_eq_true, decide_eq_true_iff,
      hinv.sessions, hinv.interests]
    rfl
  · have hhandled := (@handles_deviceRealtime config.topicNamespace
      (realtimeTopic config.topicNamespace deviceId) config.sourceId (some frame) frame).mpr
        ⟨rfl, hframe, deviceId, hdevice, rfl⟩
    rw [BackendInput.apply, hhandled]
    simp only [Backend.handle, hdevice]
    exact sendAll_log s _ _

end

/-! ### A run -/

def sampleBackendConfig : BackendConfig := ⟨"cns", "web", sampleArithmetic⟩

def sampleFrame : JsValue :=
  .object
    [("schema_version", .number 1), ("device_id", .string "dev1"), ("sequence", .number 7),
      ("sent_at", .string "2026-08-05T01:02:03.123Z"), ("telemetry", .object [])]

/-- A browser connects and asks for a device, a frame of which arrives. -/
def sampleFrames : List BackendInput :=
  [.connect "00000000-0000-4000-8000-0000000000aa" 0,
    .receive "session_00000000-0000-4000-8000-0000000000aa"
      (some (.object [("type", .string "telemetry.subscribe"), ("device_id", .string "dev1")])),
    .mqtt "cns/dev1/telemetry/realtime/v1" (some sampleFrame) 0 fun _ => 0]

def sampleBackend : Backend :=
  sampleFrames.foldl (BackendInput.apply sampleBackendConfig) .fresh

lemma reachable_sampleBackend : (backend sampleBackendConfig).Reachable sampleBackend := by
  have hclock : InClockRange 0 := by decide
  have hrun : (backend sampleBackendConfig).Run .fresh sampleFrames sampleBackend := by
    refine .cons ⟨by decide +kernel, hclock, ?_⟩ (.cons List.mem_cons_self (.cons hclock (.nil _)))
    intro event hevent
    cases hevent
  exact Machine.Reachable.run (.start rfl) hrun

/-- The type of the frame that was sent last. -/
def lastSent : List SocketEvent → Option JsValue
  | .sent _ frame :: _ => frame.get "type"
  | _ => none

theorem frames_proper_sample :
    ∃ sessionId frame earlier, sampleBackend.log = .sent sessionId frame :: earlier ∧
      ∃ deviceId, frame.get "device_id" = some (.string deviceId) ∧
        Wants earlier sessionId deviceId := by
  have hsent : literal "telemetry.realtime" (lastSent sampleBackend.log) = true := by
    decide +kernel
  rw [literal_iff] at hsent
  cases hlog : sampleBackend.log with
  | nil =>
      rw [hlog] at hsent
      cases hsent
  | cons event earlier =>
      rw [hlog] at hsent
      cases event with
      | sent sessionId frame =>
          obtain ⟨-, -, hconcerns⟩ := frames_proper sampleBackendConfig _ reachable_sampleBackend []
            earlier sessionId frame hlog
          exact ⟨sessionId, frame, earlier, rfl, hconcerns.realtime hsent⟩
      | _ => cases hsent

/-- The topic of the device is wanted for its sake. -/
theorem fan_out_exact_sample : ∃ sessionId, IsOpen sampleBackend.log sessionId ∧
    Wants sampleBackend.log sessionId "dev1" := by
  have hdesired : "dev1" ∈ sampleBackend.subscriptions.desired := by decide +kernel
  exact ((fan_out_exact sampleBackendConfig _ reachable_sampleBackend).1 "dev1").mp hdesired

end CnsServer
