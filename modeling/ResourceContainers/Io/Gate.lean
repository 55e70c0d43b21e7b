import ResourceContainers.Io.Adapter
import ResourceContainers.Io.Metrics

/-!
# The gate

Every blocking operation passes a gate.  Without an active adapter the gate runs the operation on
the calling thread.  Otherwise it hands the adapter a piece of work that runs the operation when it
is called for the first time and does nothing after that, and looks at what is left of it once the
adapter is through.

* An adapter's failure is the caller's, whatever became of the operation.
* If all is well with the adapter, the caller gets what the operation gave.
* If the adapter says so without having run the operation, the caller gets a failure in words.

An operation is a function on a state `σ` that tells the place it runs at, and the result that it
ends with or the message that it panics with.
-/

namespace ResourceContainers

/-- An operation on a state. -/
abbrev Call (σ α : Type) := Place → σ → Ending (Except IoError α) × σ

/-- A piece of work: an operation that has not run yet, what it gave, and the state so far. -/
structure Submission (σ α : Type) where
  call : Option (Call σ α)
  outcome : Option (Except IoError α)
  state : σ

namespace Submission

variable {σ α : Type}

/-- Work that has not run yet. -/
def ofCall (call : Call σ α) (s : σ) : Submission σ α := ⟨some call, none, s⟩

/-- Calls the work.  Gives the message of a panic. -/
def run (w : Submission σ α) (place : Place) : Option String × Submission σ α :=
  match w.call with
  | none => (none, w)
  | some call =>
    match call place w.state with
    | (.returned r, s) => (none, ⟨none, some r, s⟩)
    | (.panicked message, s) => (some message, ⟨none, w.outcome, s⟩)

end Submission

/-- What an adapter makes of a piece of work. -/
def Conduct.follow {σ α : Type} :
    Conduct → Submission σ α → Ending (Except IoError Unit) × Submission σ α
  | give result, w => (.returned result, w)
  | panic message, w => (.panicked message, w)
  | call place returned panicked, w =>
    match w.run place with
    | (none, w) => returned.follow w
    | (some message, w) => (panicked message).follow w

/-- What a dispatch leaves behind. -/
structure Dispatched (σ α : Type) where
  ending : Ending (Except IoError α)
  metrics : Metrics
  state : σ

namespace Gate

variable {σ α : Type}

/-- The failure of an operation that its adapter never ran. -/
def notRun : IoError := .words .other "async I/O adapter did not run the operation"

/-- Counts an operation that failed. -/
def countFailure (m : Metrics) : Except IoError α → Metrics
  | .ok _ => m
  | .error _ => m.ioError

/-- Runs an operation on the calling thread. -/
def direct (m : Metrics) (call : Call σ α) (s : σ) : Dispatched σ α :=
  match call .same s with
  | (.panicked message, s) => ⟨.panicked message, m.clock .direct, s⟩
  | (.returned r, s) => ⟨.returned r, countFailure (m.clock .direct) r, s⟩

/-- Hands an operation to an adapter. -/
def offload (m : Metrics) (conduct : Conduct) (call : Call σ α) (s : σ) : Dispatched σ α :=
  match conduct.follow (.ofCall call s) with
  | (.panicked message, w) => ⟨.panicked message, m.clock .offloaded, w.state⟩
  | (.returned (.error e), w) =>
    ⟨.returned (.error e), (m.clock .offloaded).adapterFailure, w.state⟩
  | (.returned (.ok ()), w) =>
    match w.outcome with
    | some r => ⟨.returned r, countFailure (m.clock .offloaded) r, w.state⟩
    | none =>
      ⟨.returned (.error notRun), (m.clock .offloaded).adapterFailure.ioError, w.state⟩

/-- Runs an operation, through the conduct of the active adapter if there is one. -/
def dispatch (m : Metrics) (active : Option Conduct) (call : Call σ α) (s : σ) :
    Dispatched σ α :=
  match active with
  | none => direct m call s
  | some conduct => offload m conduct call s

end Gate

end ResourceContainers
