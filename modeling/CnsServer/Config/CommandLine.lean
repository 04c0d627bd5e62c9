/-
The command line of the service (`command_line.cpp`).

* `Options`: what is asked for;
* `readPathValue`: the value after an option;
* `parseOptions`: the loop over the arguments;
* `parseCommandLine`: the options together.
-/
import Mathlib.Data.Nat.Notation

namespace CnsServer

/-- `cli::Options`. -/
structure Options where
  configPath : String := ""
  migrationsPath : String := ""
  migrateOnly : Bool := false
  showHelp : Bool := false
  showVersion : Bool := false
  deriving DecidableEq, Repr

/-- The variables of `ParseCommandLine`. -/
structure ParsedOptions where
  options : Options := {}
  hasConfig : Bool := false
  hasMigrations : Bool := false
  hasMigrateOnly : Bool := false
  hasHelp : Bool := false
  hasVersion : Bool := false

/-- `LooksLikeOption`. -/
def looksLikeOption (value : String) : Bool := value.toList.take 2 = ['-', '-']

/-- `ReadPathValue`; the option stands before the arguments. -/
def readPathValue (arguments : List String) (option : String) :
    Except String (String × List String) :=
  match arguments with
  | value :: rest =>
      if value = "" ∨ looksLikeOption value = true then .error (option ++ " 缺少非空路径值")
      else .ok (value, rest)
  | [] => .error (option ++ " 缺少非空路径值")

lemma length_readPathValue {arguments rest : List String} {option value : String}
    (h : readPathValue arguments option = .ok (value, rest)) :
    rest.length < arguments.length + 1 := by
  cases arguments with
  | nil => cases h
  | cons first others =>
      rw [readPathValue] at h
      split at h
      · cases h
      · cases h
        simp only [List.length_cons]
        omega

/-- The loop over the arguments. -/
def parseOptions (arguments : List String) (parsed : ParsedOptions) :
    Except String ParsedOptions :=
  match arguments with
  | [] => .ok parsed
  | argument :: rest =>
      if argument = "--config" then
        if parsed.hasConfig = true then .error "重复参数：--config"
        else
          match hvalue : readPathValue rest argument with
          | .error error => .error error
          | .ok (value, rest') =>
              have := length_readPathValue hvalue
              parseOptions rest' { parsed with
                hasConfig := true, options := { parsed.options with configPath := value } }
      else if argument = "--migrations" then
        if parsed.hasMigrations = true then .error "重复参数：--migrations"
        else
          match hvalue : readPathValue rest argument with
          | .error error => .error error
          | .ok (value, rest') =>
              have := length_readPathValue hvalue
              parseOptions rest' { parsed with
                hasMigrations := true, options := { parsed.options with migrationsPath := value } }
      else if argument = "--migrate-only" then
        if parsed.hasMigrateOnly = true then .error "重复参数：--migrate-only"
        else
          parseOptions rest { parsed with
            hasMigrateOnly := true, options := { parsed.options with migrateOnly := true } }
      else if argument = "--help" then
        if parsed.hasHelp = true then .error "重复参数：--help"
        else
          parseOptions rest { parsed with
            hasHelp := true, options := { parsed.options with showHelp := true } }
      else if argument = "--version" then
        if parsed.hasVersion = true then .error "重复参数：--version"
        else
          parseOptions rest { parsed with
            hasVersion := true, options := { parsed.options with showVersion := true } }
      else .error ("未知参数：" ++ argument)
termination_by arguments.length

/-- `ParseCommandLine`; the first argument is the name of the program. -/
def parseCommandLine (arguments : List String) : Except String Options :=
  match parseOptions arguments.tail {} with
  | .error error => .error error
  | .ok parsed =>
      if (parsed.hasHelp || parsed.hasVersion) = true ∧ arguments.length - 1 ≠ 1 then
        .error "--help 和 --version 只能单独使用"
      else if (parsed.hasHelp || parsed.hasVersion) = true then .ok parsed.options
      else if parsed.hasConfig = false then .error "缺少必需参数：--config"
      else if parsed.hasMigrations = false then .error "缺少必需参数：--migrations"
      else .ok parsed.options

end CnsServer
