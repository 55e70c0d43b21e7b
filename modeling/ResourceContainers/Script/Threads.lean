import ResourceContainers.Script.Creating
import ResourceContainers.Script.Tasks

/-!
# Threads of a script

A thread of its own starts in root and ends with its body; its panic does not leave it.  A thread
that inherits runs its body inside the container that its parent's policy gives it.  A held thread
is inside its container from the start but runs its body only when somebody joins it.
-/

namespace ResourceContainers.Script

variable {ω : Type}

/-- Why a text cannot be the name of a thread: it has a zero byte in it. -/
def nameFault? (name : Option String) : Option String :=
  match name with
  | none => none
  | some name =>
    let bytes := name.toUTF8.toList
    match bytes.findIdx? (· == 0) with
    | none => none
    | some i => some <|
      "thread name may not contain interior null bytes: NulError(" ++ toString i ++ ", [" ++
        ", ".intercalate (bytes.map toString) ++ "])"

/-- What a thread answers that is over. -/
def threadAnswer : Except String (Except Refusal Unit) → Answer ω
  | .ok (.ok ()) => .done
  | .ok (.error why) => .refused why
  | .error message => .threadPanicked message

def runThread (body : Exec ω Unit) : Exec ω (Answer ω) := do
  return threadAnswer ((← onWorker (.fresh none) body).map .ok)

/-- Fails to start a thread whose name is none. -/
def checkName (name : Option String) : Exec ω Unit :=
  match nameFault? name with
  | some message => panicking message
  | none => pure ()

/-- The container that a thread with a given name inherits. -/
def threadHome (name : Option String) : Exec ω Handle := do
  let m ← get
  return inherited m.pool m.worker.slot ⟨name, .thread⟩

/-- Runs a body on a thread that inherits. -/
def spawn (name : Option String) (body : Exec ω Unit) : Exec ω (Answer ω) := do
  let home ← threadHome name
  checkName name
  return threadAnswer (← onWorker (.fresh name) (holding [home] (within home body)))

/-- Lets a held thread run its body and waits for it. -/
def HeldThread.finish (run : Runner ω) (t : HeldThread ω) : Exec ω (Answer ω) := do
  match t.entry with
  | .error why => return .refused why
  | .ok way =>
    let result ← onWorker t.worker do
      let result ← attempt (holding [t.container] (run t.path t.body))
      leave way
      resume result
    return threadAnswer (result.map .ok)

/-- Takes the held thread of a key and lets it run. -/
def join (run : Runner ω) (key : String) : Exec ω (Answer ω) := do
  match (← get).threads.get? key with
  | none => return .missing (.thread key)
  | some t =>
    modify fun m => { m with threads := m.threads.erase key }
    t.finish run

/-- Starts a thread that inherits and holds it back. -/
def spawnHeld (run : Runner ω) (path : Path) (key : String) (name : Option String)
    (body : List (Command ω)) : Exec ω (Answer ω) := do
  let home ← threadHome name
  checkName name
  let before := (← get).worker
  modify fun m => { m with worker := .fresh name }
  let entry ← enter home
  let worker := (← get).worker
  modify fun m => { m with worker := before }
  let old := (← get).threads.get? key
  modify fun m => { m with threads := m.threads.insert key ⟨worker, home, entry, path, body⟩ }
  match old with
  | some t => discard (t.finish run)
  | none => pure ()
  return .entered (match entry with | .ok _ => true | .error _ => false)

/-- Runs into a container once, and tells whether the command found itself there. -/
def strike (h : Handle) : Exec ω Bool := do
  match ← within h (do return (← get).here == h) with
  | .ok there => return there
  | .error _ => return false

/-- How many of some runs into a container found themselves there. -/
def strikes (h : Handle) (runs : Nat) : Exec ω Nat :=
  (List.range runs).foldlM (fun count _ => do return if ← strike h then count + 1 else count) 0

/-- Runs into a container from several threads.  Each run leaves the pool as it found it, so they
may be taken one after another. -/
def hammer (h : Handle) (threads runs : Nat) : Exec ω (Answer ω) := do
  let bound ← (List.range threads).foldlM
    (fun count _ => do return count + (← resume (← onWorker (.fresh none) (strikes h runs)))) 0
  return .hammered bound ((← get).pool.attached h)

/-- Runs into a container on a thread that then ends, and asks where the thread is bound without
its slot. -/
def teardown (h : Handle) : Exec ω (Answer ω) := do
  discard (onWorker (.fresh none) (within h (pure ())))
  return .truth Slot.gone.current.isRoot

end ResourceContainers.Script
