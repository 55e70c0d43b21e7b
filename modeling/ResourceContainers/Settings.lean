import ResourceContainers.LogFilter
import ResourceContainers.Table

/-!
# Settings

What a process is told by its environment: what to log, and whether to offload blocking file
operations.

* `Settings.ofEnvironment`: the settings of an environment.
* `Settings.filter`: the log filter that is used in the end.
-/

namespace ResourceContainers

/-- The variables of an environment.  Their values need not be text. -/
abbrev Environment := Table String ByteArray

/-- The value of a variable; one that is no text counts as unset. -/
def Environment.text? (env : Environment) (name : String) : Option String :=
  (env.get? name).bind String.fromUTF8?

/-- What a process is told by its environment: what to log, unless it is told otherwise, and whether
to install an adapter that offloads blocking operations. -/
structure Settings where
  logFilter : String
  offload : Bool
  deriving DecidableEq, Repr

/-- Why an environment or its settings cannot be used: the value of the flag for offloading is no
flag, or the log filter is none. -/
inductive SettingsError
  | notAFlag (value : String)
  | notAFilter (filter : String)
  deriving DecidableEq, Repr

namespace SettingsError

def message : SettingsError → String
  | notAFlag _ => "Invalid value for RESCON_ASYNC_IO"
  | notAFilter filter => "Invalid log filter '" ++ filter ++ "'"

/-- Why it is wrong. -/
def cause : SettingsError → String
  | notAFlag value => "expected a boolean, got '" ++ value ++ "'"
  | notAFilter _ => "invalid filter directive"

end SettingsError

namespace Settings

def standard : Settings := ⟨"info", true⟩

/-- Reads a flag.  Blanks around it and the case of its letters do not matter. -/
def flag (value : String) : Except SettingsError Bool :=
  let word := String.ofList (smallLetters (trimmed value.toList))
  if ["1", "true", "on", "yes"].contains word then .ok true
  else if ["0", "false", "off", "no"].contains word then .ok false
  else .error (.notAFlag word)

/-- The settings of an environment. -/
def ofEnvironment (env : Environment) : Except SettingsError Settings :=
  let logFilter := (env.text? "RESCON_LOG").getD standard.logFilter
  match env.text? "RESCON_ASYNC_IO" with
  | none => .ok ⟨logFilter, standard.offload⟩
  | some value => (flag value).map fun offload => ⟨logFilter, offload⟩

/-- The filter to log by.  One in the variable that every program looks at goes before the
settings, unless it is none. -/
def filter (s : Settings) (env : Environment) : Except SettingsError String :=
  match (env.text? "RUST_LOG").filter LogFilter.isFilter with
  | some filter => .ok filter
  | none =>
    if LogFilter.isFilter s.logFilter then .ok s.logFilter else .error (.notAFilter s.logFilter)

end Settings

end ResourceContainers
