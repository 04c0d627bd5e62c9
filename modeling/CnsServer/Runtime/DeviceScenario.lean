/-
Runs of the device service that can be computed.

* `Cue`: what the surroundings contribute to the next step;
* `Cue.input`: that step, with the loops in the order of the maps;
* `DeviceInput.moment`: the same step at another time;
* `perform`, `reachable_perform`: a list of cues is a run of the machine;
* `flightController`, `sampleRegistration`, `sampleTelemetry`: the devices of one school,
  and what they send.
-/
import CnsServer.Runtime.DeviceService

namespace CnsServer

/-- What the surroundings contribute: nothing, a result, a message, or a refusal. The
clock stands still. -/
inductive Cue where
  | go
  | answer (answer : DatabaseResult)
  | receive (inbound : InboundMessage)
  | refuse
  | requestSnapshot

namespace Cue

/-- How a submitter answers. -/
def outcome : Cue → SubmitOutcome
  | refuse => .refused
  | _ => .accepted

/-- The next step of the thread; a snapshot is requested between two turns. -/
def input (cfg : DeviceServiceConfig) (s : DeviceService) (cue : Cue) : DeviceInput :=
  match s.phase with
  | .idle =>
      match cue with
      | requestSnapshot => .requestSnapshot
      | _ => .begin
  | .results =>
      match cue with
      | answer result => .result result s.recoveredWrites 0
      | _ => .resultsDone
  | .replaying [] => .requestSnapshot
  | .replaying (_ :: _) => .write cue.outcome 0
  | .messages =>
      match cue with
      | receive inbound => .message inbound 0
      | _ => .messagesDone s.unsubmitted
  | .provisions [] => .requestSnapshot
  | .provisions (_ :: _) => .provision cue.outcome
  | .scanning => .scan 0 0 (s.scanMutations cfg 0 0) fun _ => 0
  | .dispatch => .dispatch s.firstBatch
  | .dispatching _ [] _ => .endBatch 0 (s.dirty.takeTelemetryDue 0 cfg.telemetryInterval).1
  | .dispatching _ (_ :: _) _ => .write cue.outcome 0
  | .snapshot => .finish

variable {cfg : DeviceServiceConfig} {s : DeviceService}

/-- The next step may be taken. -/
lemma input_enabled (cue : Cue) : (cue.input cfg s).Enabled cfg s := by
  simp only [input]
  split
  · next hphase =>
      split
      · trivial
      · exact hphase
  · next hphase =>
      split
      · exact ⟨hphase, fun _ => .refl _⟩
      · exact hphase
  · trivial
  · next desired writes hphase => exact ⟨desired, writes, .inl hphase⟩
  · next hphase =>
      split
      · exact hphase
      · exact ⟨hphase, .refl _⟩
  · trivial
  · next deviceId deviceIds hphase => exact ⟨deviceId, deviceIds, hphase⟩
  · next hphase => exact ⟨hphase, .refl _⟩
  · next hphase => exact ⟨hphase, .refl _⟩
  · next batch accepted hphase => exact ⟨batch, accepted, hphase, fun _ => .refl _⟩
  · next batch desired writes accepted hphase =>
      exact ⟨desired, writes, .inr ⟨batch, accepted, hphase⟩⟩
  · next hphase => exact hphase

end Cue

/-- The step at another time of the steady clock. -/
def DeviceInput.moment (cfg : DeviceServiceConfig) (s : DeviceService) (now : TimePoint) :
    DeviceInput → DeviceInput
  | .result answer writes _ => .result answer writes now
  | .message inbound _ => .message inbound now
  | .scan _ systemNow _ _ => .scan now systemNow (s.scanMutations cfg now systemNow) fun _ => now
  | .write outcome _ => .write outcome now
  | .endBatch _ _ => .endBatch now (s.dirty.takeTelemetryDue now cfg.telemetryInterval).1
  | input => input

/-- A step may come at any time. -/
lemma moment_enabled {cfg : DeviceServiceConfig} {s : DeviceService} {input : DeviceInput}
    (h : input.Enabled cfg s) (now : TimePoint) : (input.moment cfg s now).Enabled cfg s := by
  cases input with
  | scan _ systemNow _ _ => exact ⟨h.1, .refl _⟩
  | endBatch _ _ =>
      obtain ⟨batch, accepted, hphase, -⟩ := h
      exact ⟨batch, accepted, hphase, fun _ => .refl _⟩
  | _ => exact h

/-- The state after a list of cues. -/
def perform (cfg : DeviceServiceConfig) (s : DeviceService) (cues : List Cue) : DeviceService :=
  (deviceService cfg).follow (fun s cue => cue.input cfg s) s cues

/-- Each step of the cues meets a condition. -/
abbrev Meets (cfg : DeviceServiceConfig) (ok : DeviceService → DeviceInput → Prop)
    (s : DeviceService) (cues : List Cue) : Prop :=
  (deviceService cfg).Meets (fun s cue => cue.input cfg s) ok s cues

/-- A list of cues whose steps meet a condition is a run of the machine restricted to
it. -/
lemma reachable_perform {cfg : DeviceServiceConfig} {ok : DeviceService → DeviceInput → Prop}
    {s : DeviceService} (h : ((deviceService cfg).restrict ok).Reachable s) {cues : List Cue}
    (hok : Meets cfg ok s cues) :
    ((deviceService cfg).restrict ok).Reachable (perform cfg s cues) :=
  h.follow (fun _ cue => cue.input_enabled) hok

/-! ### Sample devices -/

/-- A flight controller of the first school. -/
def flightController (deviceId : String) (label : Option String) : DeviceRecord where
  deviceId := deviceId
  schoolId := 7
  schoolName := "一小"
  dcdwLabel := label
  modelVersion := "fc"
  status := .offline
  lastSeenAt := none
  latestTelemetry := none
  telemetryReceivedAt := none
  revision := 1
  deviceType := .flightController

/-- Its registration under a label, which the payload spells. -/
def registrationBody (deviceType deviceId label : String) : Json :=
  .object [("dcdw_label", .string label), ("device_id", .string deviceId),
    ("device_type", .string deviceType), ("schema_version", .integer 3),
    ("school_name", .string "一小"), ("status", .string "online")]

def sampleRegistration (deviceId payload : String) : InboundMessage where
  topic := "cns/" ++ deviceId ++ "/registration"
  payload := payload
  receivedAt := 0

/-- Its telemetry. -/
def telemetryBody (deviceId : String) : Json :=
  .object [("device_id", .string deviceId), ("device_type", .string "flight_controller"),
    ("drone_id", .object [("basic_id", .object [])]), ("schema_version", .integer 3),
    ("sent_at", .string "2026-07-20T00:00:00Z"), ("telemetry", .object [])]

def sampleTelemetry (deviceId payload : String) : InboundMessage where
  topic := "cns/" ++ deviceId ++ "/telemetry/snapshot/v1"
  payload := payload
  receivedAt := 0

/-- The texts of the messages. -/
def samplePayloads : List (String × Json) :=
  [("a1", registrationBody "flight_controller" "a" "1"),
    ("b1", registrationBody "flight_controller" "b" "1"),
    ("box", registrationBody "cns_box" "a" "1")]

def sampleDeviceConfig : DeviceServiceConfig where
  parseJson payload := samplePayloads.lookup payload

/-- The service among devices that send telemetry. -/
def reportingConfig : DeviceServiceConfig where
  parseJson payload := (("tb", telemetryBody "b") :: samplePayloads).lookup payload

/-- A directory with one device, which has no label yet. -/
def sampleDirectory : DeviceRegistry :=
  loadDeviceSnapshot [flightController "b" none] 0 sampleDeviceConfig.offlineTimeout

/-- The service that starts with this directory. -/
def sampleStart : DeviceService := .fresh sampleDirectory (some 0)

lemma reachable_sampleStart {ok : DeviceService → DeviceInput → Prop} :
    ((deviceService sampleDeviceConfig).restrict ok).Reachable sampleStart :=
  .start ⟨[flightController "b" none], 0, some 0, rfl⟩

end CnsServer
