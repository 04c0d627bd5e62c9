/-
The connection string of the store (`postgres_store.cpp`), from the configured database.

* `quoteConnectionValue`, `parameter`: a value in quotes, and its pair;
* `buildConnectionString`: the six pairs; the first four also go into messages.
-/
import CnsServer.Library.ConnInfo
import Mathlib.Data.Int.Notation

namespace CnsServer

/-- `DatabaseConfig`, as far as the string depends on it. -/
structure DatabaseConfig where
  host : String
  port : UInt16
  name : String
  user : String
  password : String
  /-- In seconds. -/
  connectTimeout : ℤ

/-- `QuoteConnectionValue`. -/
def quoteConnectionValue (value : String) : String :=
  let quoted := value.toList.foldl (fun quoted character =>
    (if character = '\\' ∨ character = ConnInfo.apostrophe then quoted ++ ['\\'] else quoted) ++
      [character]) [ConnInfo.apostrophe]
  String.ofList (quoted ++ [ConnInfo.apostrophe])

/-- `Parameter`. -/
def parameter (name value : String) : String := name ++ "=" ++ quoteConnectionValue value

/-- `BuildSafeConnectionDescription`. -/
def buildSafeConnectionDescription (config : DatabaseConfig) : String :=
  parameter "host" config.host ++ " " ++ parameter "port" (toString config.port.toNat) ++ " " ++
    parameter "dbname" config.name ++ " " ++ parameter "user" config.user

/-- `BuildConnectionString`. -/
def buildConnectionString (config : DatabaseConfig) : String :=
  buildSafeConnectionDescription config ++ " " ++ parameter "password" config.password ++ " " ++
    parameter "connect_timeout" (toString config.connectTimeout)

example : quoteConnectionValue "a b=\\" = "\x27a b=\\\\\x27" := by decide +kernel

end CnsServer
