import ResourceContainers.Io.Failure
import ResourceContainers.Io.Operation

/-!
# Adapters

A scheduler lends a gate an adapter, which runs blocking operations where they do no harm.  The
gate hands it the work of an operation.  What the adapter then does is its `Conduct`: it may call
the work any number of times, on the calling thread or on another one, and afterwards give back a
result or panic, depending on whether a call of the work panicked.

* `Conduct`: everything that an adapter can do with the work of one operation.
* `Adapter`: an adapter that follows a given conduct, or one that runs the work on the spot for a
  caller inside an executor with several threads.
-/

namespace ResourceContainers

/-- The thread that work runs on, as seen from the caller. -/
inductive Place
  | same
  | other
  deriving DecidableEq, Repr

/-- What an adapter does with the work of an operation.  If it calls the work, it goes on by whether
the work returned or panicked. -/
inductive Conduct
  | give (result : Except IoError Unit)
  | panic (message : String)
  | call (place : Place) (returned : Conduct) (panicked : String → Conduct)

namespace Conduct

def succeed : Conduct := give (.ok ())

/-- The failure of an adapter whose own thread panicked. -/
def workerPanicked : IoError := .words .other "worker panicked"

/-- What comes after a panic on a thread of the adapter. -/
def workerLost : String → Conduct := fun _ => give (.error workerPanicked)

/-- Runs the work on another thread. -/
def run : Conduct := call .other succeed workerLost

/-- Runs the work on the calling thread. -/
def inline : Conduct := call .same succeed panic

/-- Calls the work twice on another thread. -/
def twice : Conduct := call .other (call .other succeed workerLost) workerLost

/-- Does nothing and says that all is well. -/
def skip : Conduct := succeed

def fail (e : IoError) : Conduct := give (.error e)

/-- Runs the work on another thread and fails all the same. -/
def runThenFail (e : IoError) : Conduct := call .other (fail e) workerLost

end Conduct

/-- The executor that a thread works for: none, one that has the calling thread only, or one with
worker threads. -/
inductive Surroundings
  | plain
  | oneThread
  | manyThreads
  deriving DecidableEq, Repr

/-- An adapter.  A scripted one follows a conduct and keeps a list of what it was given, the last
first.  A blocking one runs the work on the spot, and has the executor carry on elsewhere
meanwhile. -/
inductive Adapter
  | scripted (active : Bool) (conduct : Conduct) (submitted : List Operation)
  | blocking (enabled : Bool)

namespace Adapter

def ofConduct (active : Bool) (conduct : Conduct) : Adapter := scripted active conduct []

/-- Whether an adapter that runs the work on the spot is enabled at first. -/
def enabledAtFirst : Bool := true

/-- Whether an adapter takes operations from a caller in given surroundings. -/
def isActive (a : Adapter) (around : Surroundings) : Bool :=
  match a with
  | scripted active _ _ => active
  | blocking enabled => enabled && around == .manyThreads

def conduct : Adapter → Conduct
  | scripted _ conduct _ => conduct
  | blocking _ => .inline

def name : Adapter → String
  | scripted _ _ _ => "adapter"
  | blocking _ => "tokio-block-in-place"

def submit (a : Adapter) (o : Operation) : Adapter :=
  match a with
  | scripted active conduct submitted => scripted active conduct (o :: submitted)
  | blocking enabled => blocking enabled

end Adapter

end ResourceContainers
