/-
Runs that can be computed: the inputs with quiet surroundings, and a sample
installation to run them on.

* `PlainInput`: an input during which the worker does not run, with one UUID and
  one answer of the device publisher;
* `play`: the state after a list of them;
* `run_of_admitted`, `reachable_of_admitted`: a list that passes the computable
  test `admitted` is a run of the machine, also of one restricted to steps that
  meet a further computable condition;
* `sample`: one source, one device, and the texts of the messages they send.
-/
import CnsServer.Runtime.ServiceEnvironment

namespace CnsServer

/-- Quiet surroundings: the hash maps are walked in their own order and the
worker does not run meanwhile. -/
def Answers.plain (uuid : String) (published : Bool) : Answers where
  published _ := published
  uuid := uuid
  order ids := ids
  order_perm ids := .refl ids
  interleaved _ := []

lemma Answers.plain_admissible {uuid : String} {published : Bool} {b : RuntimeBundle}
    (h : uuid ∉ createdIds b.trace) : (Answers.plain uuid published).Admissible b :=
  ⟨h, fun _ _ hevent => by cases hevent⟩

/-- The directory with one record replaced. -/
def DeviceRegistry.put (devices : DeviceRegistry) (record : DeviceRecord) : DeviceRegistry :=
  { devices with records := devices.records.insert record.deviceId record }

/-- The inputs with quiet surroundings. -/
inductive PlainInput where
  | tryPush (message : InboundMessage)
  | pushPublishCompletion (completion : PublishCompletion)
  | processNext (uuid : String) (published : Bool) (now : TimePoint)
  | finishReady (published : Bool) (now : TimePoint)
  | setMqttAvailable (available : Bool)
  | updateDevice (accepted : Bool) (record : DeviceRecord) (published : Bool) (now : TimePoint)
  | worker (event : WorkerEvent)
  | restart (now : TimePoint)

namespace PlainInput

/-- The UUID of calls that generate none. -/
def unusedUuid : String := ""

/-- The input itself, in a state. -/
def toInput (b : RuntimeBundle) : PlainInput → Input
  | .tryPush message => .tryPush message
  | .pushPublishCompletion completion => .pushPublishCompletion completion
  | .processNext uuid published now => .processNext (.plain uuid published) now
  | .finishReady published now => .finishReady (.plain unusedUuid published) now
  | .setMqttAvailable available => .setMqttAvailable available
  | .updateDevice accepted record published now =>
      .updateDevice (.plain unusedUuid accepted) (b.devices.put record) record published now
  | .worker event => .worker event
  | .restart now => .restart b.sources b.devices now

/-- The test of `Input.Enabled`. -/
def admitted (cfg : CommandServiceConfig) (b : RuntimeBundle) : PlainInput → Bool
  | .pushPublishCompletion completion => completion.token < b.nextPublishToken
  | .processNext uuid _ _ => uuid ∉ createdIds b.trace
  | .finishReady _ _ => unusedUuid ∉ createdIds b.trace
  | .updateDevice _ _ _ _ => unusedUuid ∉ createdIds b.trace
  | .worker (.runCommand (.failed message)) => !isStateChangedError message
  | .restart _ =>
      (b.table.loadActiveCommands (cfg.maxInflightCommands + 1)).length ≤ cfg.maxInflightCommands
  | _ => true

/-- What passes the test may arrive. -/
lemma enabled_of_admitted {cfg : CommandServiceConfig} {b : RuntimeBundle} {input : PlainInput}
    (h : input.admitted cfg b = true) : (input.toInput b).Enabled cfg b := by
  cases input with
  | tryPush message => trivial
  | pushPublishCompletion completion =>
      have hlt : completion.token < b.nextPublishToken := by simpa [admitted] using h
      exact hlt
  | processNext uuid published now => exact Answers.plain_admissible (of_decide_eq_true h)
  | finishReady published now => exact Answers.plain_admissible (of_decide_eq_true h)
  | setMqttAvailable available => trivial
  | updateDevice accepted record published now =>
      refine ⟨Answers.plain_admissible (of_decide_eq_true h), ?_, fun id hid => ?_⟩
      · exact AList.lookup_insert _
      · exact AList.lookup_insert_ne hid
  | worker event =>
      cases event with
      | runCommand outcome =>
          cases outcome with
          | failed message =>
              have hother : isStateChangedError message = false := by simpa [admitted] using h
              exact hother
          | _ => trivial
      | _ => trivial
  | restart now =>
      have hfits : (b.table.loadActiveCommands (cfg.maxInflightCommands + 1)).length ≤
          cfg.maxInflightCommands := of_decide_eq_true h
      exact hfits

end PlainInput

/-- The state after a list of inputs. -/
def play (cfg : CommandServiceConfig) : RuntimeBundle → List PlainInput → RuntimeBundle
  | b, [] => b
  | b, input :: inputs => play cfg ((input.toInput b).apply cfg b) inputs

/-- Every input of the list may arrive when its turn comes, and meets `ok`
then. -/
def admittedAll (cfg : CommandServiceConfig) (ok : RuntimeBundle → PlainInput → Bool) :
    RuntimeBundle → List PlainInput → Bool
  | _, [] => true
  | b, input :: inputs =>
      input.admitted cfg b && ok b input &&
        admittedAll cfg ok ((input.toInput b).apply cfg b) inputs

/-- The inputs of a list, each in the state in which it arrives. -/
def inputsOf (cfg : CommandServiceConfig) : RuntimeBundle → List PlainInput → List Input
  | _, [] => []
  | b, input :: inputs => input.toInput b :: inputsOf cfg ((input.toInput b).apply cfg b) inputs

/-- **A list that passes the test is a run.** -/
theorem run_of_admitted {cfg : CommandServiceConfig} {ok : RuntimeBundle → Input → Prop}
    {test : RuntimeBundle → PlainInput → Bool}
    (htest : ∀ b input, test b input = true → ok b (input.toInput b))
    {b : RuntimeBundle} {inputs : List PlainInput} (h : admittedAll cfg test b inputs = true) :
    ((routeService cfg).restrict ok).Run b (inputsOf cfg b inputs) (play cfg b inputs) := by
  induction inputs generalizing b with
  | nil => exact .nil b
  | cons input inputs ih =>
      simp only [admittedAll, Bool.and_eq_true] at h
      obtain ⟨⟨hadmitted, hok⟩, hrest⟩ := h
      exact .cons ⟨PlainInput.enabled_of_admitted hadmitted, htest b input hok⟩ (ih hrest)

/-- What it leads to from a reachable state is reachable. -/
theorem reachable_of_admitted {cfg : CommandServiceConfig} {ok : RuntimeBundle → Input → Prop}
    {test : RuntimeBundle → PlainInput → Bool}
    (htest : ∀ b input, test b input = true → ok b (input.toInput b))
    {b : RuntimeBundle} (hb : ((routeService cfg).restrict ok).Reachable b)
    {inputs : List PlainInput} (h : admittedAll cfg test b inputs = true) :
    ((routeService cfg).restrict ok).Reachable (play cfg b inputs) :=
  hb.run (run_of_admitted htest h)

/-- The run without a further condition. -/
theorem reachable_of_played {cfg : CommandServiceConfig} {b : RuntimeBundle}
    (hb : (routeService cfg).Reachable b) {inputs : List PlainInput}
    (h : admittedAll cfg (fun _ _ => true) b inputs = true) :
    (routeService cfg).Reachable (play cfg b inputs) := by
  induction inputs generalizing b with
  | nil => exact hb
  | cons input inputs ih =>
      simp only [admittedAll, Bool.and_eq_true] at h
      obtain ⟨⟨hadmitted, _⟩, hrest⟩ := h
      exact ih (.step hb (PlainInput.enabled_of_admitted hadmitted)) hrest

/-- The next result answers a search with a row. -/
def RuntimeBundle.findsRow (b : RuntimeBundle) : Bool :=
  match b.databaseResults with
  | ⟨_, .ok (.found (some _))⟩ :: _ => true
  | _ => false

/-- The event reports an error of the database. -/
def Event.isDatabaseError : Event → Bool
  | .databaseError _ => true
  | _ => false

lemma not_databaseError {events : List Event}
    (h : events.all (fun e => !e.isDatabaseError) = true) (i : ℕ) :
    .databaseError i ∉ events := fun hmem => by
  have hnot := List.all_eq_true.mp h _ hmem
  simp [Event.isDatabaseError] at hnot

/-- The first process on an empty table. -/
def firstStart (sources : SourceCatalog) (devices : DeviceRegistry) : RuntimeBundle :=
  { RuntimeBundle.blank with
    sources := sources
    devices := devices
    mqttAvailable := false
    log := [.mqttAvailable false] }

/-- The first start finds no rows. -/
theorem firstStart_eq (cfg : CommandServiceConfig) (sources : SourceCatalog)
    (devices : DeviceRegistry) (now : TimePoint) :
    RuntimeBundle.blank.restart cfg sources devices now = firstStart sources devices := by
  simp [firstStart, RuntimeBundle.restart, RuntimeBundle.blank, CommandTable.loadActiveCommands,
    CommandTable.recoverActiveControlCommands, CommandTable.activeControlCommands,
    RuntimeBundle.loadActive, RuntimeBundle.setMqttAvailable, CommandTable.empty,
    CommandTable.records, CommandService.fresh]

lemma reachable_firstStart (cfg : CommandServiceConfig) (ok : RuntimeBundle → Input → Prop)
    (sources : SourceCatalog) (devices : DeviceRegistry) :
    ((routeService cfg).restrict ok).Reachable (firstStart sources devices) :=
  .start ⟨sources, devices, 0, (firstStart_eq cfg sources devices 0).symm⟩

/-! ### A sample installation -/

namespace Sample

/-- The id of the first command. -/
def commandId : String := "00000000-0000-4000-8000-000000000001"

/-- The text of a JSON object from the texts of its fields. -/
def objectText (fields : List (String × String)) : String :=
  "\x7b" ++ ",".intercalate (fields.map fun field => "\"" ++ field.1 ++ "\":" ++ field.2) ++ "\x7d"

/-- The text of a JSON string without characters to escape. -/
def stringText (s : String) : String := "\"" ++ s ++ "\""

/-- A request to change the heartbeat interval of the device. -/
def configRequest : String × Json :=
  (objectText [("parameters", objectText [("heartbeat_interval_ms", "1000")]),
      ("request_id", stringText "r1"), ("schema_version", "1"),
      ("target", objectText [("device_id", stringText "dev1")])],
    .object [("parameters", .object [("heartbeat_interval_ms", .integer 1000)]),
      ("request_id", .string "r1"), ("schema_version", .integer 1),
      ("target", .object [("device_id", .string "dev1")])])

/-- A request to take off. -/
def controlRequest : String × Json :=
  (objectText [("command", stringText "takeoff"), ("parameters", objectText []),
      ("request_id", stringText "r1"), ("schema_version", "1"),
      ("target", objectText [("device_id", stringText "dev1")])],
    .object [("command", .string "takeoff"), ("parameters", .object []),
      ("request_id", .string "r1"), ("schema_version", .integer 1),
      ("target", .object [("device_id", .string "dev1")])])

/-- The device has applied the configuration. -/
def appliedAck : String × Json :=
  (objectText [("command_id", stringText commandId), ("restart_required", "false"),
      ("status", stringText "applied")],
    .object [("command_id", .string commandId), ("restart_required", .bool false),
      ("status", .string "applied")])

/-- The device rejects the configuration. -/
def rejectedAck : String × Json :=
  (objectText [("command_id", stringText commandId), ("error_code", stringText "bad_value"),
      ("restart_required", "false"), ("status", stringText "rejected")],
    .object [("command_id", .string commandId), ("error_code", .string "bad_value"),
      ("restart_required", .bool false), ("status", .string "rejected")])

/-- The device has begun to take off. -/
def progressAck : String × Json :=
  (objectText [("command", stringText "takeoff"), ("command_id", stringText commandId),
      ("mavlink_command", "31091"), ("result_code", stringText "pending"),
      ("status", stringText "in_progress")],
    .object [("command", .string "takeoff"), ("command_id", .string commandId),
      ("mavlink_command", .integer 31091), ("result_code", .string "pending"),
      ("status", .string "in_progress")])

/-- The JSON library on the sample texts. -/
def parseJson (text : String) : Option Json :=
  [configRequest, controlRequest, appliedAck, rejectedAck, progressAck].lookup text

/-- The default configuration. -/
def config : CommandServiceConfig where
  parseJson := parseJson

/-- The device. -/
def device (status : DeviceStatus) : DeviceRecord where
  deviceId := "dev1"
  schoolId := 1
  schoolName := "school"
  dcdwLabel := some "A1"
  modelVersion := "1"
  status := status
  lastSeenAt := none
  latestTelemetry := none
  telemetryReceivedAt := none
  revision := 1

/-- The one source, a control centre. -/
def sources : SourceCatalog :=
  ⟨(∅ : Map String CommandSource).insert "ops" ⟨"ops", .controlCenter, none, true⟩⟩

/-- The service has started and the device is online. -/
def started : RuntimeBundle :=
  firstStart sources (DeviceRegistry.empty.put (device .online))

/-- The broker is connected, and a request arrives and is searched for. -/
def requested (type : CommandType) : List PlainInput :=
  [.setMqttAvailable true,
    .tryPush ⟨"cns/sources/ops" ++ (if type = .control then "/control/request" else
      "/config/request"), (if type = .control then controlRequest else configRequest).1, 5⟩,
    .processNext commandId true 5]

/-- The worker executes the next task, and the service handles what comes
first. -/
def answered (published : Bool) (now : TimePoint) : List PlainInput :=
  [.worker (.runCommand .completed), .processNext PlainInput.unusedUuid published now]

/-- A request is stored and its message is handed to the device publisher. -/
def submitted (type : CommandType) (published : Bool) : List PlainInput :=
  requested type ++ [.worker (.runCommand .completed), .processNext commandId true 5] ++
    answered published 5

/-- The publication completes, and its result is stored. -/
def dispatched (type : CommandType) (result : Bool) : List PlainInput :=
  submitted type true ++
    [.pushPublishCompletion ⟨1, result⟩, .processNext PlainInput.unusedUuid true 6] ++
    answered true 6

end Sample

end CnsServer
