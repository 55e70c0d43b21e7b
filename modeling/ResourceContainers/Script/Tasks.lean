import ResourceContainers.Script.Machine

/-!
# Polling tasks

A task runs one segment of its work at each poll, inside its container.  It is ready at the poll
that runs its last segment.  A segment whose body panics is used up, and whoever polls a task after
it was ready gets a panic.

The bodies are run by a function that the caller brings along.
-/

namespace ResourceContainers.Script

variable {ω : Type}

/-- What a poll brings. -/
inductive Polled
  | pending
  | ready (segments : Nat)
  | refused (why : Refusal)
  | panicked (message : String)

/-- What a command answers that a poll is the end of; a panic is passed on. -/
def Polled.answer : Polled → Exec ω (Answer ω)
  | pending => return .pending
  | ready n => return .ready n
  | refused why => return .refused why
  | panicked message => panicking message

/-- What is left of a task once an executor is through with it. -/
def Polled.caught : Polled → Answer ω
  | pending => .pending
  | ready n => .ready n
  | refused why => .refused why
  | panicked message => .taskPanicked message

/-- Whether the work said that it is done. -/
def Polled.isReady : Polled → Bool
  | ready _ => true
  | _ => false

/-- New work. -/
def Work.ofSegments (path : Path) (segments : List (List (Command ω))) : Work ω :=
  ⟨path, segments.length, segments, false⟩

/-- Runs a body at its place in the script. -/
abbrev Runner (ω : Type) := Path → List (Command ω) → Exec ω Unit

/-- Polls work. -/
def Work.poll (run : Runner ω) (w : Work ω) : Exec ω (Work ω × Polled) :=
  if w.finished then return (w, .panicked "polled after completion")
  else
    match w.rest with
    | [] => return ({ w with finished := true }, .ready w.total)
    | segment :: rest => do
      let place := w.path ++ [w.total - w.rest.length]
      match ← attempt (run place segment) with
      | .error message => return ({ w with rest := rest }, .panicked message)
      | .ok () =>
        if rest.isEmpty then return (⟨w.path, w.total, rest, true⟩, .ready w.total)
        else return ({ w with rest := rest }, .pending)

/-- Polls a task. -/
def Task.poll (run : Runner ω) (t : Task ω) : Exec ω (Task ω × Polled) := do
  let m ← get
  match t.scope.enter m.pool m.worker.slot with
  | .error why => return (t, .refused why)
  | .ok (visit, scope, pool, slot) =>
    set ({ m with pool := pool }.withSlot slot)
    let (work, polled) ← holding [scope.container] (t.work.poll run)
    let m ← get
    let (scope, pool, slot) := scope.leave m.pool m.worker.slot visit polled.isReady
    set ({ m with pool := pool }.withSlot slot)
    return (⟨scope, work⟩, polled)

/-- Drops a task, which gives its attachment back. -/
def Task.discard (t : Task ω) : Exec ω Unit :=
  modify fun m => { m with pool := (t.scope.release m.pool).2 }

/-- Drops a task if there is one. -/
def discardOld : Option (Task ω) → Exec ω Unit
  | some t => t.discard
  | none => pure ()

/-- Puts a task under a key, and drops the one that was there. -/
def store (key : String) (t : Task ω) : Exec ω Unit := do
  let old := (← get).tasks.get? key
  modify fun m => { m with tasks := m.tasks.insert key t }
  discardOld old

/-- Drops the task of a key; tells whether there was one. -/
def dropTask (key : String) : Exec ω Bool := do
  let old := (← get).tasks.get? key
  modify fun m => { m with tasks := m.tasks.erase key }
  discardOld old
  return old.isSome

/-- Polls the task of a key, which is nobody's while it is polled. -/
def pollStored (run : Runner ω) (key : String) (elsewhere : Bool) : Exec ω (Answer ω) := do
  match (← get).tasks.get? key with
  | none => return .missing (.task key)
  | some t =>
    modify fun m => { m with tasks := m.tasks.erase key }
    let (t, polled) ←
      if elsewhere then do resume (← onWorker (.fresh none) (t.poll run)) else t.poll run
    store key t
    polled.answer

/-- Polls a task at most `count + 1` times, until it is no longer pending. -/
def Task.drive (run : Runner ω) : Nat → Task ω → Exec ω (Task ω × Polled)
  | 0, t => t.poll run
  | count + 1, t => do
    match ← t.poll run with
    | (t, .pending) => t.drive run count
    | other => return other

/-- Polls a task until it is through and drops it.  A pending poll uses up a segment, so there are
no more polls than segments and one. -/
def Task.complete (run : Runner ω) (t : Task ω) : Exec ω Polled := do
  let (t, polled) ← holding [t.scope.container] (t.drive run t.work.rest.length)
  t.discard
  return polled

/-- Lets the running thread work for an executor. -/
def asExecutor {α : Type} (x : Exec ω α) : Exec ω α := do
  let before := (← get).worker.inExecutor
  modify fun m => { m with worker := { m.worker with inExecutor := true } }
  let result ← attempt x
  modify fun m => { m with worker := { m.worker with inExecutor := before } }
  resume result

/-- Has a new executor run a task that inherits the container of the running thread. -/
def spawnTask (run : Runner ω) (path : Path) (flavor : Flavor)
    (segments : List (List (Command ω))) : Exec ω (Answer ω) := do
  let m ← get
  if m.worker.inExecutor then return .insideExecutor
  let home := inherited m.pool m.worker.slot ⟨none, .task⟩
  let t : Task ω := ⟨.ofHandle home, .ofSegments path segments⟩
  match flavor with
  | .calling => return (← asExecutor (t.complete run)).caught
  | .worker =>
    let polled ← resume (← onWorker ⟨.fresh, some "worker", true⟩ (t.complete run))
    return polled.caught

/-- Has a new executor wait on the running thread for a task inside a container. -/
def blockOn (run : Runner ω) (path : Path) (c : Ref) (segments : List (List (Command ω))) :
    Exec ω (Answer ω) := do
  if (← get).worker.inExecutor then return .insideExecutor
  onHandle c fun h => do
    let t : Task ω := ⟨.ofHandle h, .ofSegments path segments⟩
    (← asExecutor (t.complete run)).answer

end ResourceContainers.Script
