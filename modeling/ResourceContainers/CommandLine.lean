import ResourceContainers.Registry
import ResourceContainers.Scope
import ResourceContainers.Settings
import ResourceContainers.Stored

/-!
# The command line

What the program does with its arguments: show help, show its version, check itself, or get ready.

* `CommandLine.Request.ofArguments`: the first argument that decides, decides.
* `selfCheck`: uses a container from a thread and from a task, and shows the registry.
* `CommandLine.run`: the whole program, as a function of its arguments and its environment.
-/

namespace ResourceContainers.CommandLine

/-- What the arguments ask for. -/
inductive Request
  | help
  | version
  | serve (snapshot : Bool)
  | unrecognized (argument : String)
  deriving DecidableEq, Repr

/-- What arguments ask for, if those before them asked to serve. -/
def Request.after (snapshot : Bool) : List String → Request
  | [] => serve snapshot
  | a :: rest =>
    if a = "-h" ∨ a = "--help" then help
    else if a = "-v" ∨ a = "--version" then version
    else if a = "--snapshot" then after true rest
    else unrecognized a

/-- What arguments ask for. -/
def Request.ofArguments (arguments : List String) : Request := after false arguments

def versionNumber : String := "0.1.0"

def helpText : String :=
  "rescon - Resource Container Runtime v" ++ versionNumber ++ "\n\n" ++
  "USAGE:\n" ++
  "  rescon [OPTIONS]\n\n" ++
  "OPTIONS:\n" ++
  "  -h, --help       Print this help message\n" ++
  "  -v, --version    Print version information\n" ++
  "  --snapshot       Run a self-check and print the container registry as JSON\n\n" ++
  "ENVIRONMENT:\n" ++
  "  RESCON_LOG       Log filter directive (default: info)\n" ++
  "  RESCON_ASYNC_IO  Offload blocking file I/O on tokio workers (default: true)\n"

/-! ## The self-check -/

/-- What monitoring sees of a container, with its fields in alphabetical order. -/
def infoJson (i : Info) : Json :=
  .ofFields
    [("attached_units", .ofNat i.attached),
      ("constraints", .array (i.constraints.map Constraint.toJson)),
      ("id", .ofNat i.id.toNat),
      ("name", .ofString? i.name),
      ("state", i.phase.toJson)]

/-- The configuration of the container that the program checks itself with. -/
def selfCheckConfig : Config := (Config.empty.named "self-check").withProfile .standard

/-- Runs a thread into a container and out again; tells whether it was bound to it meanwhile. -/
def boundByRun (p : Pool) (h : Handle) : Except Refusal (Bool × Pool) := do
  let (way, p, slot) ← Passage.into p .fresh h
  return (slot.current == h, (way.leave p slot).1)

/-- Polls a task inside a container once, which is all it needs; tells whether the thread was bound
to the container meanwhile. -/
def boundByTask (p : Pool) (h : Handle) : Except Refusal (Bool × Pool) := do
  let (visit, task, p, slot) ← (Scope.ofHandle h).enter p .fresh
  return (slot.current == h, (task.leave p slot visit true).2.1)

/-- Creates a container, uses it, and destroys it. -/
def selfCheck : Except Refusal Json := do
  let id := Pool.empty.nextId
  let (p, n) := Pool.empty.create selfCheckConfig .idle
  let alive (m : Nat) : Bool := m == n
  let registry := Registry.empty.register alive id n
  let (inRun, p) ← boundByRun p (.managed n)
  let (inTask, p) ← boundByTask p (.managed n)
  let destroyed ← p.destroy (.managed n)
  return .ofFields
    [("after_destroy", .array ((registry.snapshot alive destroyed).map infoJson)),
      ("bound", .bool (inRun && inTask)),
      ("containers", .array ((registry.snapshot alive p).map infoJson))]

/-! ## The program -/

/-- What a run of the program leaves behind. -/
structure Outcome where
  code : UInt32
  output : String
  errors : String
  deriving DecidableEq, Repr

def Outcome.success (output : String) : Outcome := ⟨0, output, ""⟩

/-- A text with every line after the first indented. -/
def indented (text : String) : String :=
  String.ofList (text.toList.flatMap fun c => if c = '\n' then "\n    ".toList else [c])

def Outcome.failure (message : String) (cause : Option String) : Outcome :=
  match cause with
  | none => ⟨1, "", "Error: " ++ message ++ "\n"⟩
  | some cause =>
    ⟨1, "", "Error: " ++ message ++ "\n\nCaused by:\n    " ++ indented cause ++ "\n"⟩

/-- Reads the settings of the environment and then gets ready or checks itself. -/
def serve (snapshot : Bool) (env : Environment) : Outcome :=
  match (Settings.ofEnvironment env).bind (·.filter env) with
  | .error e => .failure e.message (some e.cause)
  | .ok _ =>
    if snapshot then
      match selfCheck with
      | .ok report => .success (report.pretty ++ "\n")
      | .error e => .failure e.message none
    else .success ""

/-- The whole program.  Arguments that need no settings do not look at the environment. -/
def run (arguments : List String) (env : Environment) : Outcome :=
  match Request.ofArguments arguments with
  | .help => .success helpText
  | .version => .success ("rescon " ++ versionNumber ++ "\n")
  | .serve snapshot => serve snapshot env
  | .unrecognized a =>
    ⟨1, "", "error: unrecognized argument '" ++ a ++ "'\n" ++
      "Run 'rescon --help' for usage information.\n"⟩

end ResourceContainers.CommandLine
