import ResourceContainers.Files.Primitive
import ResourceContainers.Startup

/-!
# Sessions

A session is a sequence of commands that work with files through one gate: they lend adapters to
the gate, dispatch operations of their own, and perform primitives on files that go by names.  The
gate belongs to the session or to the whole process.

* `Session.run`: what one command does in given surroundings.
* `Session.runAll`: what each command answers, and the counters of the gate after it.
-/

namespace ResourceContainers

namespace Session

/-- An adapter, by name or the one that starting up lends. -/
inductive AdapterRef
  | named (key : String)
  | standard
  deriving DecidableEq

/-- A command.  What an operation of a session's own gives is of the type `ω`.

Adapters go by keys, and so do files.  A primitive is performed with buffers that it may fill;
`interrupted` performs one that is interrupted, and what it waits for is written meanwhile.  The
stranger is another process, with locks of its own. -/
inductive Command (ω : Type)
  | install (key : String) (active : Bool) (conduct : Conduct)
  | installBlocking (key : String) (enabled : Bool)
  | reinstall (key : String)
  | uninstall
  | showAdapter
  | script (key : String) (active : Bool) (conduct : Conduct)
  | submitted (key : String)
  | enable (key : String) (enabled : Option Bool)
  | resetMetrics
  | setUp (settings : Settings)
  | dispatch (operation : String) (ending : Ending (Except IoError ω))
  | openFile (key : String) (data : List UInt8)
  | reopen (key source : String) (mode : Mode)
  | duplicate (key source : String)
  | pipe (reader writer : String)
  | contents (key : String)
  | file (key : String) (buffers : List (List UInt8)) (primitive : Descriptor → Primitive)
  | close (key : String)
  | interrupted (key writer : String) (data : List UInt8) (buffers : List (List UInt8))
      (primitive : Descriptor → Primitive)
  | strangerLock (key : String) (shared : Option Bool) (start length : UInt64)
  | probe (key : String) (shared : Bool) (start length : UInt64)
  | unknown (name : String)

/-- What a command answers.  An operation that was dispatched answers how it ended, and where it ran
each time. -/
inductive Answer (ω : Type)
  | done
  | replaced (adapter : Option String)
  | removed (adapter : Option String)
  | adapter (installed active : Option String)
  | operations (submitted : List Operation)
  | enabled (enabled active : Bool)
  | notSetUp (why : SettingsError)
  | dispatched (ending : Ending (Except IoError ω)) (places : List Place)
  | bytes (data : List UInt8)
  | performed (ending : Ending (Except IoError Primitive.Value)) (buffers : List (List UInt8))
  | failed (why : IoError)
  | locked
  | free
  | inTheWay (lock : RecordLock)
  | noFile (name : String)
  | noAdapter (name : String)
  | unknown (name : String)

end Session

/-- The state of a session.  It has a gate of its own, with the adapter `own`, or uses the gate of
the process. -/
structure Session where
  adapters : Table String Adapter
  own : Option Session.AdapterRef
  process : Process Session.AdapterRef
  onProcessGate : Bool
  metrics : Metrics
  system : System
  files : Table String Descriptor

namespace Session

def badName : String := "bad"

def badDescriptor : Descriptor := 0

def start (onProcessGate : Bool) : Session where
  adapters := Table.empty
  own := none
  process := .bare
  onProcessGate := onProcessGate
  metrics := .zero
  system := { System.empty with nextDescriptor := badDescriptor + 1 }
  files := Table.empty

/-! ## The gate -/

/-- The reference to the adapter of the gate in use. -/
def installed (s : Session) : Option AdapterRef :=
  if s.onProcessGate then s.process.adapter else s.own

/-- Puts an adapter into the gate in use, or takes it out. -/
def withInstalled (s : Session) (a : Option AdapterRef) : Session :=
  if s.onProcessGate then { s with process := { s.process with adapter := a } }
  else { s with own := a }

/-- The adapter that a reference stands for. -/
def lookUp (s : Session) : AdapterRef → Option Adapter
  | .named key => s.adapters.get? key
  | .standard => some (.blocking Adapter.enabledAtFirst)

def adapter? (s : Session) : Option Adapter := s.installed.bind s.lookUp

/-- The adapter of the gate in use, if it takes operations. -/
def active? (s : Session) (around : Surroundings) : Option Adapter :=
  s.adapter?.filter (·.isActive around)

def withAdapter (s : Session) (key : String) (a : Adapter) : Session :=
  { s with adapters := s.adapters.insert key a }

/-- Hands an operation to the adapter of the gate in use, if that takes it. -/
def submitting (s : Session) (around : Surroundings) (o : Operation) : Session :=
  match s.installed, s.active? around with
  | some (.named key), some a => s.withAdapter key (a.submit o)
  | _, _ => s

/-- Lends an adapter to the gate in use; gives the name of the one it replaces. -/
def lend (s : Session) (key : String) : Session × Option String :=
  (s.withInstalled (some (.named key)), s.adapter?.map Adapter.name)

/-! ## Files -/

def withFile (s : Session) (key : String) (fd : Descriptor) : Session :=
  let system := match s.files.get? key with
    | some old => s.system.dropDescriptor old
    | none => s.system
  { s with system := system, files := s.files.insert key fd }

/-- The descriptor that a primitive gets for a name.  The bad one is bad even if a file goes by its
name. -/
def descriptor? (s : Session) (key : String) : Option Descriptor :=
  if key = badName then some badDescriptor else s.files.get? key

/-- Performs a primitive through the gate in use. -/
def perform {ω : Type} (s : Session) (around : Surroundings) (buffers : List (List UInt8))
    (p : Primitive) : Session × Answer ω :=
  let conduct := (s.active? around).map Adapter.conduct
  let d := p.perform s.metrics conduct ⟨s.system, buffers⟩
  let s := match p.submits buffers with
    | some o => s.submitting around o
    | none => s
  ({ s with metrics := d.metrics, system := d.state.system },
    .performed d.ending d.state.buffers)

/-- An operation that notes where it runs and ends as given. -/
def noting {ω : Type} (ending : Ending (Except IoError ω)) : Call (List Place) ω :=
  fun place places => (ending, place :: places)

/-- Dispatches an operation of the session's own. -/
def dispatch {ω : Type} (s : Session) (around : Surroundings) (o : Operation)
    (ending : Ending (Except IoError ω)) : Session × Answer ω :=
  let conduct := (s.active? around).map Adapter.conduct
  let d := Gate.dispatch s.metrics conduct (noting ending) []
  ({ s.submitting around o with metrics := d.metrics }, .dispatched d.ending d.state)

/-- How often a primitive is interrupted that is interrupted on purpose. -/
def interruptions : List Errno := List.replicate 3 .interrupted

/-- How many bytes of a file are shown. -/
def shownBytes : Nat := 16384

/-- The offset of a lock as the operating system gets it. -/
def strangerRange (start length : UInt64) : Option (Nat × Nat) :=
  match Primitive.offset? start, Primitive.offset? length with
  | some start, some length => some (start, length)
  | _, _ => none

/-- What one command does in given surroundings. -/
def run {ω : Type} (s : Session) (around : Surroundings) : Command ω → Session × Answer ω
  | .install key active conduct =>
    let (s, old) := (s.lend key)
    (s.withAdapter key (.ofConduct active conduct), .replaced old)
  | .installBlocking key enabled =>
    let (s, old) := (s.lend key)
    (s.withAdapter key (.blocking enabled), .replaced old)
  | .reinstall key =>
    if s.adapters.contains key then
      let (s, old) := (s.lend key)
      (s, .replaced old)
    else (s, .noAdapter key)
  | .uninstall => (s.withInstalled none, .removed (s.adapter?.map Adapter.name))
  | .showAdapter =>
    (s, .adapter (s.adapter?.map Adapter.name) ((s.active? around).map Adapter.name))
  | .script key active conduct =>
    match s.adapters.get? key with
    | some (.scripted _ _ submitted) =>
      (s.withAdapter key (.scripted active conduct submitted), .done)
    | _ => (s, .noAdapter key)
  | .submitted key =>
    match s.adapters.get? key with
    | some (.scripted _ _ submitted) => (s, .operations submitted.reverse)
    | _ => (s, .noAdapter key)
  | .enable key enabled =>
    match s.adapters.get? key with
    | some (.blocking was) =>
      let a := Adapter.blocking (enabled.getD was)
      (s.withAdapter key a, .enabled (enabled.getD was) (a.isActive around))
    | _ => (s, .noAdapter key)
  | .resetMetrics => ({ s with metrics := .zero }, .done)
  | .setUp settings =>
    match s.process.setUp settings Table.empty .standard with
    | .ok process => ({ s with process := process }, .done)
    | .error why => (s, .notSetUp why)
  | .dispatch operation ending =>
    match Operation.ofLabel? operation with
    | some o => s.dispatch around o ending
    | none => (s, .unknown "io")
  | .openFile key data =>
    let (system, fd) := s.system.openFile data
    ({ s with system := system }.withFile key fd, .done)
  | .reopen key source mode =>
    match (s.files.get? source).bind fun fd => s.system.reopen fd mode with
    | some (system, fd) => ({ s with system := system }.withFile key fd, .done)
    | none => (s, .noFile "")
  | .duplicate key source =>
    match (s.files.get? source).bind s.system.duplicate with
    | some (system, fd) => ({ s with system := system }.withFile key fd, .done)
    | none => (s, .noFile "")
  | .pipe reader writer =>
    let (system, r, w) := s.system.openPipe
    (({ s with system := system }.withFile reader r).withFile writer w, .done)
  | .contents key =>
    match (s.files.get? key).map fun fd => s.system.contents fd shownBytes with
    | some (.ok data) => (s, .bytes data)
    | some (.error e) => (s, .failed (.os e))
    | none => (s, .noFile "")
  | .file key buffers primitive =>
    match s.descriptor? key with
    | some fd => s.perform around buffers (primitive fd)
    | none => (s, .noFile key)
  | .close key =>
    match s.descriptor? key with
    | some fd =>
      let (s, answer) := s.perform around [] (.close fd)
      ({ s with files := s.files.erase key }, answer)
    | none => (s, .noFile key)
  | .interrupted key writer data buffers primitive =>
    match s.descriptor? key, s.files.get? writer with
    | none, _ => (s, .noFile key)
    | _, none => (s, .noFile "")
    | some fd, some w =>
      let (_, system) := s.system.issue (.write w data)
      let (s, answer) := { s with system := { system with faults := interruptions } }.perform
        around buffers (primitive fd)
      ({ s with system := { s.system with faults := [] } }, answer)
  | .strangerLock key shared start length =>
    match s.files.get? key, strangerRange start length with
    | none, _ => (s, .noFile "")
    | _, none => (s, .failed (.os .invalid))
    | some fd, some (start, length) =>
      match s.system.strangerLock fd shared start length with
      | none => (s, .noFile "")
      | some (.error e) => (s, .failed (.os e))
      | some (.ok system) => ({ s with system := system }, .locked)
  | .probe key shared start length =>
    match s.files.get? key, strangerRange start length with
    | none, _ => (s, .noFile "")
    | _, none => (s, .failed (.os .invalid))
    | some fd, some (start, length) =>
      match s.system.probe fd shared start length with
      | none => (s, .noFile "")
      | some (.error e) => (s, .failed (.os e))
      | some (.ok none) => (s, .free)
      | some (.ok (some l)) => (s, .inTheWay l)
  | .unknown name => (s, .unknown name)

/-- What each command answers, and the counters of the gate after it. -/
def runAll {ω : Type} (s : Session) :
    List (Surroundings × Command ω) → List (Answer ω × Metrics)
  | [] => []
  | (around, c) :: rest =>
    let (s, answer) := s.run around c
    (answer, s.metrics) :: s.runAll rest

end Session

end ResourceContainers
