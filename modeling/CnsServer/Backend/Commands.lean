/-
The command requests of the backend (`commands.ts`, `common.ts`, and of
`routeProtocol.ts` the message that is made of one).

A request is the body of a call of the HTTP interface, a JSON document.  The schemas
change nothing in what they accept, so an accepted request is the document itself.

* `deviceIdSchema`, `deviceCommandRequestSchema` with its parts;
* `buildRouteCommandRequest`, `topicType`: the message, and the type of its topic;
* `RequestFields`: what an accepted request is made of.
-/
import CnsServer.Backend.Documents
import CnsServer.Command.Types

namespace CnsServer

open Schema

/-! ### Schemas -/

/-- `SCHEMA_VERSION`. -/
def schemaVersion : ℚ := 1

/-- `DeviceIdSchema`. -/
def deviceIdSchema : Schema :=
  string [.min 1, .max 20,
    .regex fun c => c.isAlphanum || c = '.' || c = '_' || c = ':' || c = '-']

/-- `SessionIdSchema`. -/
def sessionIdSchema : Schema := string [.min 8, .max 128]

/-- `ClientRequestIdSchema`. -/
def clientRequestIdSchema : Schema := string [.uuid]

/-- `CommandTypeSchema`. -/
def commandTypeSchema : Schema := enum ["config", "control"]

/-- `ControlCommandNameSchema`. -/
def controlCommandNameSchema : Schema :=
  enum ["set_motor_pwm", "takeoff", "land", "emergency_stop"]

/-- `RuntimeConfigParametersSchema`. -/
def runtimeConfigParametersSchema : Schema :=
  refine (refine
    (object .strict
      [("telemetry_publish_interval_ms", optional (number [.int, .min 100, .max 60000])),
        ("heartbeat_interval_ms", optional (number [.int, .min 100, .max 60000])),
        ("mqtt_reconnect_delay_s", optional (number [.int, .min 1, .max 3600])),
        ("mqtt_reconnect_delay_max_s", optional (number [.int, .min 1, .max 3600]))])
    fun value => 0 < value.keys.length)
    fun value =>
      match value.get "mqtt_reconnect_delay_s", value.get "mqtt_reconnect_delay_max_s" with
      | some (.number delay), some (.number delayMax) => delay ≤ delayMax
      | _, _ => true

/-- `PwmValueSchema`. -/
def pwmValueSchema : Schema := number [.int, .min 1000, .max 2000]

/-- `SetMotorPwmParametersSchema`. -/
def setMotorPwmParametersSchema : Schema :=
  object .strict
    [("pwm_us", tuple [pwmValueSchema, pwmValueSchema, pwmValueSchema, pwmValueSchema])]

/-- `EmptyControlParametersSchema`. -/
def emptyControlParametersSchema : Schema := object .strict []

/-- The properties of `BaseCommandRequestSchema`. -/
def baseCommandRequestShape : List (String × Schema) :=
  [("session_id", sessionIdSchema), ("client_request_id", clientRequestIdSchema)]

/-- `ConfigCommandRequestSchema`. -/
def configCommandRequestSchema : Schema :=
  object .strict (baseCommandRequestShape ++
    [("type", literal "config"), ("parameters", runtimeConfigParametersSchema)])

/-- The schemas of the control requests, which differ in the command and its parameters. -/
def controlCommandRequestSchema (command : String) (parameters : Schema) : Schema :=
  object .strict (baseCommandRequestShape ++
    [("type", literal "control"), ("command", literal command), ("parameters", parameters)])

/-- `SetMotorPwmCommandRequestSchema`. -/
def setMotorPwmCommandRequestSchema : Schema :=
  controlCommandRequestSchema "set_motor_pwm" setMotorPwmParametersSchema

/-- `TakeoffCommandRequestSchema`. -/
def takeoffCommandRequestSchema : Schema :=
  controlCommandRequestSchema "takeoff" emptyControlParametersSchema

/-- `LandCommandRequestSchema`. -/
def landCommandRequestSchema : Schema :=
  controlCommandRequestSchema "land" emptyControlParametersSchema

/-- `EmergencyStopCommandRequestSchema`. -/
def emergencyStopCommandRequestSchema : Schema :=
  controlCommandRequestSchema "emergency_stop" emptyControlParametersSchema

/-- `DeviceCommandRequestSchema`. -/
def deviceCommandRequestSchema : Schema :=
  union [configCommandRequestSchema, setMotorPwmCommandRequestSchema, takeoffCommandRequestSchema,
    landCommandRequestSchema, emergencyStopCommandRequestSchema]

/-! ### Messages to the route service -/

/-- `buildRouteCommandRequest`. -/
def buildRouteCommandRequest (deviceId : String) (request : JsValue) : JsValue :=
  let base : List (String × Option JsValue) :=
    [("schema_version", some (.number schemaVersion)),
      ("request_id", request.get "client_request_id"),
      ("target", some (.ofProperties [("device_id", some (.string deviceId))])),
      ("parameters", request.get "parameters")]
  match request.get "type" with
  | some (.string "config") => .ofProperties base
  | _ => .ofProperties (base ++ [("command", request.get "command")])

/-- The type of command that the topic of the message is for (`publishCommand`). -/
def topicType (request : JsValue) : CommandType :=
  match request.get "type" with
  | some (.string "config") => .config
  | _ => .control

/-! ### Accepted requests -/

/-- The properties of an accepted request that go into the message: the request number, a
UUID, and the parameters. -/
structure RequestFields (request : JsValue) (requestId : String) (parameters : JsValue) : Prop where
  number : request.get "client_request_id" = some (.string requestId)
  uuid : isUuid requestId = true
  content : request.get "parameters" = some parameters

/-- A configuration request is accepted. -/
structure ConfigRequest (request : JsValue) (requestId : String) (parameters : JsValue) : Prop
    extends RequestFields request requestId parameters where
  kind : request.get "type" = some (.string "config")
  accepted : runtimeConfigParametersSchema (some parameters) = true

/-- A control request is accepted, for the command and with its parameters. -/
structure ControlRequest (request : JsValue) (requestId command : String)
    (parameters : JsValue) : Prop extends RequestFields request requestId parameters where
  kind : request.get "type" = some (.string "control")
  name : request.get "command" = some (.string command)
  accepted : (command = "set_motor_pwm" ∧ setMotorPwmParametersSchema (some parameters) = true) ∨
    command ∈ ["takeoff", "land", "emergency_stop"] ∧
      emptyControlParametersSchema (some parameters) = true

section

variable {request : JsValue}

/-- The properties that all requests have. -/
lemma requestFields_of_object {shape : List (String × Schema)} (parametersSchema : Schema)
    (hparameters : parametersSchema none = false)
    (hmem : ("parameters", parametersSchema) ∈ shape)
    (h : object .strict (baseCommandRequestShape ++ shape) (some request) = true) :
    ∃ requestId parameters, RequestFields request requestId parameters ∧
      parametersSchema (some parameters) = true := by
  obtain ⟨fields, hfields, hshape, -⟩ := object_iff.mp h
  cases hfields
  obtain ⟨requestId, hrequestId, hchecks⟩ := string_iff.mp
    (hshape ("client_request_id", clientRequestIdSchema) (by simp [baseCommandRequestShape]))
  have haccepted := hshape _ (List.mem_append_right _ hmem)
  obtain ⟨parameters, hvalue⟩ := exists_of_accepted haccepted hparameters
  rw [hvalue] at haccepted
  exact ⟨requestId, parameters, ⟨hrequestId, hchecks .uuid List.mem_cons_self, hvalue⟩, haccepted⟩

/-- A literal in the shape of a strict object is the value of its property. -/
lemma get_of_object {shape : List (String × Schema)} {key text : String}
    (hmem : (key, literal text) ∈ shape)
    (h : object .strict shape (some request) = true) : request.get key = some (.string text) := by
  obtain ⟨fields, hfields, hshape, -⟩ := object_iff.mp h
  cases hfields
  exact literal_iff.mp (hshape _ hmem)

/-- An accepted configuration request has its fields. -/
lemma configRequest_of_accepted (h : configCommandRequestSchema (some request) = true) :
    ∃ requestId parameters, ConfigRequest request requestId parameters := by
  obtain ⟨requestId, parameters, hfields, haccepted⟩ :=
    requestFields_of_object runtimeConfigParametersSchema rfl (by simp) h
  exact ⟨requestId, parameters, { hfields with
    kind := get_of_object (by simp) h
    accepted := haccepted }⟩

/-- An accepted control request has its fields, and the parameters that belong to its
command. -/
lemma controlRequest_of_accepted {command : String} {parametersShape : List (String × Schema)}
    (hcommand : (command = "set_motor_pwm" ∧
        object .strict parametersShape = setMotorPwmParametersSchema) ∨
      command ∈ ["takeoff", "land", "emergency_stop"] ∧
        object .strict parametersShape = emptyControlParametersSchema)
    (h : controlCommandRequestSchema command (object .strict parametersShape) (some request) =
      true) : ∃ requestId parameters, ControlRequest request requestId command parameters := by
  obtain ⟨requestId, parameters, hfields, haccepted⟩ :=
    requestFields_of_object (object .strict parametersShape) rfl (by simp) h
  refine ⟨requestId, parameters, { hfields with
    kind := get_of_object (by simp) h
    name := get_of_object (by simp) h
    accepted := ?_ }⟩
  rcases hcommand with ⟨hname, hschema⟩ | ⟨hname, hschema⟩
  · exact .inl ⟨hname, hschema ▸ haccepted⟩
  · exact .inr ⟨hname, hschema ▸ haccepted⟩

/-- **What is accepted** is a configuration request or a control request. -/
lemma request_of_accepted (h : deviceCommandRequestSchema (some request) = true) :
    (∃ requestId parameters, ConfigRequest request requestId parameters) ∨
      ∃ requestId command parameters, ControlRequest request requestId command parameters := by
  simp only [deviceCommandRequestSchema, union, List.any_cons, List.any_nil, Bool.or_false,
    Bool.or_eq_true] at h
  rcases h with hconfig | hpwm | htakeoff | hland | hstop
  · exact .inl (configRequest_of_accepted hconfig)
  · obtain ⟨requestId, parameters, h⟩ := controlRequest_of_accepted (.inl ⟨rfl, rfl⟩) hpwm
    exact .inr ⟨requestId, _, parameters, h⟩
  · obtain ⟨requestId, parameters, h⟩ :=
      controlRequest_of_accepted (.inr ⟨by simp, rfl⟩) htakeoff
    exact .inr ⟨requestId, _, parameters, h⟩
  · obtain ⟨requestId, parameters, h⟩ := controlRequest_of_accepted (.inr ⟨by simp, rfl⟩) hland
    exact .inr ⟨requestId, _, parameters, h⟩
  · obtain ⟨requestId, parameters, h⟩ := controlRequest_of_accepted (.inr ⟨by simp, rfl⟩) hstop
    exact .inr ⟨requestId, _, parameters, h⟩

end

end CnsServer
