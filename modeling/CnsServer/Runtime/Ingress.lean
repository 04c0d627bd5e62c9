/-
The way in for messages (`device_ingress.cpp`), and its limiter (`rate_limiter.cpp`).

* `RateLimiter.shouldEmit`: a key is let through once in a window;
* `DeviceIngress.handle`: a message is passed on, without the lock;
* `DeviceIngress.refuse`: it was not taken, which is counted, and reported now and then;
* `deviceIngress`: the interleavings of any number of such calls, and of `Disable`.
-/
import CnsServer.Command.Types
import CnsServer.Library.FiniteMap
import CnsServer.Library.Machine

namespace CnsServer

/-- `RateLimiter`. -/
structure RateLimiter where
  window : TimePoint
  lastEmissions : Map String TimePoint

/-- `ShouldEmit`. -/
def RateLimiter.shouldEmit (limiter : RateLimiter) (key : String) (now : TimePoint) :
    Bool × RateLimiter :=
  let emitted := { limiter with lastEmissions := limiter.lastEmissions.insert key now }
  match limiter.lastEmissions.lookup key with
  | some last => if now - last < limiter.window then (false, limiter) else (true, emitted)
  | none => (true, emitted)

/-- The largest `std::size_t`. -/
def sizeMax : ℕ := 2 ^ 64 - 1

/-- `SaturatingAdd`. -/
def saturatingAdd (left right : ℕ) : ℕ :=
  if sizeMax - left < right then sizeMax else left + right

/-- What is kept of the past: a message that was not taken, with the size of its payload, and
a call of the diagnostic sink, which returned or threw. -/
inductive IngressEvent where
  | refused (payloadBytes : ℕ)
  | diagnosed (now : TimePoint) (message : String) (returned : Bool)

/-- `DeviceIngress`, and the messages it is handing on. -/
structure DeviceIngress where
  limiter : RateLimiter
  hasDiagnostic : Bool
  rejectedCount : ℕ := 0
  rejectedBytes : ℕ := 0
  enabled : Bool := true
  submitting : List ℕ := []
  log : List IngressEvent := []

namespace DeviceIngress

/-- The text of a diagnostic. -/
def diagnosticText (count bytes : ℕ) : String :=
  "MQTT设备消息队列已满，已拒绝消息，次数=" ++ toString count ++ "，字节数=" ++ toString bytes

/-- `Handle`, up to the call of `submit`. -/
def handle (s : DeviceIngress) (payloadBytes : ℕ) : DeviceIngress :=
  if s.enabled = false then s else { s with submitting := s.submitting ++ [payloadBytes] }

/-- `submit` took the message. -/
def accept (s : DeviceIngress) (payloadBytes : ℕ) : DeviceIngress :=
  { s with submitting := s.submitting.erase payloadBytes }

/-- A message is counted that was not taken. -/
def count (s : DeviceIngress) (payloadBytes : ℕ) : DeviceIngress :=
  { s with
    rejectedCount := saturatingAdd s.rejectedCount 1
    rejectedBytes := saturatingAdd s.rejectedBytes payloadBytes
    log := s.log ++ [.refused payloadBytes] }

/-- The counters are reported, and start again if the sink returns.  Reading the clock may
throw (`none`), and so may the sink. -/
def diagnose (s : DeviceIngress) (now : Option TimePoint) (returned : Bool) : DeviceIngress :=
  match s.hasDiagnostic, now with
  | true, some now =>
      match s.limiter.shouldEmit "mqtt_device_queue_full" now with
      | (false, limiter) => { s with limiter }
      | (true, limiter) =>
          let text := diagnosticText s.rejectedCount s.rejectedBytes
          let diagnosed := { s with limiter, log := s.log ++ [.diagnosed now text returned] }
          if returned = true then { diagnosed with rejectedCount := 0, rejectedBytes := 0 }
          else diagnosed
  | _, _ => s

/-- `Handle`, after `submit` has not taken the message or has thrown. -/
def refuse (s : DeviceIngress) (payloadBytes : ℕ) (now : Option TimePoint) (returned : Bool) :
    DeviceIngress :=
  if s.enabled = false then s.accept payloadBytes
  else ((s.accept payloadBytes).count payloadBytes).diagnose now returned

/-- `Disable`. -/
def disable (s : DeviceIngress) : DeviceIngress :=
  { s with enabled := false, hasDiagnostic := false }

inductive Input where
  | handle (payloadBytes : ℕ)
  | accept (payloadBytes : ℕ)
  | refuse (payloadBytes : ℕ) (now : Option TimePoint) (returned : Bool)
  | disable

/-- `submit` answers the calls that were made. -/
def Enabled (s : DeviceIngress) : Input → Prop
  | .accept payloadBytes | .refuse payloadBytes _ _ => payloadBytes ∈ s.submitting
  | _ => True

instance (s : DeviceIngress) : ∀ input, Decidable (s.Enabled input)
  | .accept payloadBytes | .refuse payloadBytes _ _ =>
      inferInstanceAs (Decidable (payloadBytes ∈ s.submitting))
  | .handle _ | .disable => .isTrue trivial

def next (s : DeviceIngress) : Input → DeviceIngress
  | .handle payloadBytes => s.handle payloadBytes
  | .accept payloadBytes => s.accept payloadBytes
  | .refuse payloadBytes now returned => s.refuse payloadBytes now returned
  | .disable => s.disable

end DeviceIngress

/-- The ingress, from its constructor. -/
def deviceIngress (window : TimePoint) (hasDiagnostic : Bool) :
    Machine DeviceIngress DeviceIngress.Input where
  init s := s = { limiter := ⟨window, ∅⟩, hasDiagnostic }
  enabled := DeviceIngress.Enabled
  next := DeviceIngress.next

instance (window : TimePoint) (hasDiagnostic : Bool) (s : DeviceIngress)
    (input : DeviceIngress.Input) :
    Decidable ((deviceIngress window hasDiagnostic).enabled s input) :=
  inferInstanceAs (Decidable (s.Enabled input))

end CnsServer
