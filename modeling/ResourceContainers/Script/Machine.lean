import ResourceContainers.Inheritance
import ResourceContainers.Registry
import ResourceContainers.Scope
import ResourceContainers.Script.Answer

/-!
# The state of a script

A `Machine` is the state that a script works on: the pool, the registries, what goes by a name, and
the thread that runs the next command.  An `Exec` is a computation on it that may panic; a panic
keeps all that was done before it.

* `Machine.alive`: a container lives as long as a name, a task, a held thread, a running body or a
  binding holds on to it.
* `attempt`: a computation whose panic is caught.
* `within`: a computation inside a container, which is left again even if the computation panics.
-/

namespace ResourceContainers.Script

/-- A thread, as far as its commands can tell.  It may work for an executor. -/
structure Worker where
  slot : Slot
  name : Option String
  inExecutor : Bool

def Worker.fresh (name : Option String) : Worker := ⟨.fresh, name, false⟩

/-- What a task has left to do of its segments.  Each poll runs one of them, and a poll that says
that the work is done finishes it. -/
structure Work (ω : Type) where
  path : Path
  total : Nat
  rest : List (List (Command ω))
  finished : Bool

/-- A task inside a container. -/
structure Task (ω : Type) where
  scope : Scope
  work : Work ω

/-- A thread that waits to be joined before it runs its body.  It came into its container in some
way, or was refused. -/
structure HeldThread (ω : Type) where
  worker : Worker
  container : Handle
  entry : Except Refusal Passage
  path : Path
  body : List (Command ω)

/-- The state of a script.  What was the last identity to go by a name is known.  The containers
that running bodies hold on to are listed with the innermost first, and the events with the newest
first.  The worker is the thread that runs the next command. -/
structure Machine (ω : Type) where
  pool : Pool
  registries : Table String Registry
  handles : Table String Handle
  known : Table String UInt64
  tasks : Table String (Task ω)
  threads : Table String (HeldThread ω)
  held : List Handle
  events : List (Event ω)
  worker : Worker

namespace Machine

variable {ω : Type}

/-- The state before a script. -/
def start : Machine ω where
  pool := Pool.empty
  registries := Table.empty
  handles := Table.empty
  known := Table.empty
  tasks := Table.empty
  threads := Table.empty
  held := []
  events := []
  worker := .fresh none

/-- The container that the running thread is bound to. -/
def here (m : Machine ω) : Handle := m.worker.slot.current

/-- Whether something holds on to the container at a place. -/
def alive (m : Machine ω) (n : Nat) : Bool :=
  m.here == .managed n || m.held.contains (.managed n) ||
    m.handles.values.contains (.managed n) ||
    m.tasks.values.any (·.scope.container == .managed n) ||
    m.threads.values.any (·.container == .managed n)

/-- The container that a reference stands for. -/
def resolve (m : Machine ω) : Ref → Except Missing Handle
  | .root => .ok .root
  | .current => .ok m.here
  | .named name =>
    match m.handles.get? name with
    | some h => .ok h
    | none => .error (.handle name)

/-- The registry of a name; a new one if there is none yet. -/
def registry (m : Machine ω) (name : String) : Registry :=
  (m.registries.get? name).getD Registry.empty

def withRegistry (m : Machine ω) (name : String) (r : Registry) : Machine ω :=
  { m with registries := m.registries.insert name r }

def withSlot (m : Machine ω) (s : Slot) : Machine ω :=
  { m with worker := { m.worker with slot := s } }

/-- What is left of the named containers.  Many are only summed up. -/
def summary (m : Machine ω) : Summary :=
  if m.handles.size ≤ 40 then
    .each (m.handles.entries.map fun e => (e.1, m.pool.phase e.2, m.pool.attached e.2))
  else .total ((m.handles.values.map m.pool.attached).foldr (· + ·) 0)

end Machine

/-- A computation on the state of a script; it may panic with a message. -/
abbrev Exec (ω α : Type) := ExceptT String (StateM (Machine ω)) α

variable {ω α : Type}

def panicking (message : String) : Exec ω α := throw message

/-- Runs a computation and catches its panic. -/
def attempt (x : Exec ω α) : Exec ω (Except String α) :=
  ExceptT.mk (do return .ok (← x.run))

/-- Goes on with a result, or with a panic that was caught before. -/
def resume : Except String α → Exec ω α
  | .ok a => pure a
  | .error message => panicking message

/-- Runs a computation that holds on to containers. -/
def holding (hs : List Handle) (x : Exec ω α) : Exec ω α := do
  let before := (← get).held
  modify fun m => { m with held := hs ++ before }
  let result ← attempt x
  modify fun m => { m with held := before }
  resume result

/-- Runs a computation on another thread and waits for it; its panic ends that thread only. -/
def onWorker (w : Worker) (x : Exec ω α) : Exec ω (Except String α) := do
  let before := (← get).worker
  modify fun m => { m with worker := w }
  let result ← attempt x
  modify fun m => { m with worker := before }
  return result

/-- Takes the running thread into a container. -/
def enter (h : Handle) : Exec ω (Except Refusal Passage) := do
  let m ← get
  match Passage.into m.pool m.worker.slot h with
  | .error why => return .error why
  | .ok (way, pool, slot) =>
    set ({ m with pool := pool }.withSlot slot)
    return .ok way

/-- Takes the running thread back out. -/
def leave (way : Passage) : Exec ω Unit :=
  modify fun m =>
    let (pool, slot) := way.leave m.pool m.worker.slot
    { m with pool := pool }.withSlot slot

/-- Runs a computation inside a container. -/
def within (h : Handle) (x : Exec ω α) : Exec ω (Except Refusal α) := do
  match ← enter h with
  | .error why => return .error why
  | .ok way =>
    let result ← attempt (holding [h] x)
    leave way
    return .ok (← resume result)

/-- Runs a computation inside containers, one inside the other. -/
def withinAll (hs : List Handle) (x : Exec ω α) : Exec ω (Except Refusal α) :=
  match hs with
  | [] => do return .ok (← x)
  | h :: hs => do
    match ← within h (withinAll hs x) with
    | .error why => return .error why
    | .ok result => return result

/-- Runs a command and notes what became of it. -/
def noting (path : Path) (x : Exec ω (Answer ω)) : Exec ω Unit := do
  let result ← attempt x
  modify fun m => { m with events := ⟨path, result, m.pool.id m.here⟩ :: m.events }
  discard (resume result)

/-- Goes on with the container of a reference, if there is one. -/
def onHandle (c : Ref) (f : Handle → Exec ω (Answer ω)) : Exec ω (Answer ω) := do
  match (← get).resolve c with
  | .ok h => f h
  | .error what => return .missing what

/-- Changes the pool, unless the change is refused. -/
def changing (f : Pool → Except Refusal Pool) : Exec ω (Answer ω) := do
  let m ← get
  match f m.pool with
  | .ok pool =>
    set { m with pool := pool }
    return .done
  | .error why => return .refused why

end ResourceContainers.Script
