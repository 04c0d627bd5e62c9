/-
The log of the service (`logger.cpp`).

* `parseLevel`: the names of the levels in the configuration;
* `formatTime`, `singleLine`: the parts of a line;
* `Logger.write`: a message goes to one of two streams, if its level is high enough.
-/
import CnsServer.Protocol.TimeFormat

namespace CnsServer

/-- `logging::Level`. -/
inductive LogLevel where
  | debug | info | warn | error
  deriving DecidableEq, Repr

namespace LogLevel

/-- The numbers of the enumeration. -/
def rank : LogLevel → ℕ
  | debug => 0
  | info => 1
  | warn => 2
  | error => 3

/-- The name in the configuration. -/
def text : LogLevel → String
  | debug => "debug"
  | info => "info"
  | warn => "warn"
  | error => "error"

/-- `LevelName`. -/
def levelName : LogLevel → String
  | debug => "DEBUG"
  | info => "INFO "
  | warn => "WARN "
  | error => "ERROR"

end LogLevel

/-- `ParseLevel`. -/
def parseLevel (text : String) : Option LogLevel :=
  if text = "debug" then some .debug
  else if text = "info" then some .info
  else if text = "warn" then some .warn
  else if text = "error" then some .error
  else none

/-- `std::tm`, the fields that `FormatTime` prints. -/
structure LocalTime where
  year : ℤ
  month : ℕ
  day : ℕ
  hour : ℕ
  minute : ℕ
  second : ℕ

/-- `FormatTime`; `localTime` stands for `localtime_r`, which takes seconds and knows the time
zone. -/
def formatTime (localTime : ℤ → Option LocalTime) (now : TimePoint) : String :=
  let seconds := now / 1000000000
  let milliseconds := ((now - seconds * 1000000000) / 1000000).toNat
  match localTime seconds with
  | none => "---------- --:--:--.---"
  | some time =>
      if time.year < 2025 then "---------- --:--:--.---"
      else
        toString time.year ++ String.ofList ('-' :: digits 2 time.month ++
          '-' :: digits 2 time.day ++ ' ' :: digits 2 time.hour ++
          ':' :: digits 2 time.minute ++ ':' :: digits 2 time.second ++
          '.' :: digits 3 milliseconds)

/-- `SingleLine`. -/
def singleLine (message : String) : String :=
  String.ofList (message.toList.map fun character =>
    if character = '\r' ∨ character = '\n' then ' ' else character)

/-- `Logger`: what was written to each of its streams. -/
structure Logger where
  minimumLevel : LogLevel
  out : String := ""
  err : String := ""

/-- A call of `Debug`, `Info`, `Warn` or `Error`, and the time that its clock shows. -/
structure LogCall where
  level : LogLevel
  message : String
  now : TimePoint

namespace Logger

/-- `Enabled`. -/
def enabled (logger : Logger) (level : LogLevel) : Bool :=
  logger.minimumLevel.rank ≤ level.rank

/-- What `Write` puts between the last line and the next. -/
def line (localTime : ℤ → Option LocalTime) (call : LogCall) : String :=
  "[" ++ formatTime localTime call.now ++ "] [" ++ call.level.levelName ++ "] " ++
    singleLine call.message

/-- `Write`, under the lock. -/
def write (localTime : ℤ → Option LocalTime) (logger : Logger) (call : LogCall) : Logger :=
  if logger.enabled call.level = false then logger
  else if LogLevel.warn.rank ≤ call.level.rank then
    { logger with err := logger.err ++ line localTime call ++ "\n" }
  else { logger with out := logger.out ++ line localTime call ++ "\n" }

end Logger

end CnsServer
