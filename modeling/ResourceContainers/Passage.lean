import ResourceContainers.Pool

/-!
# Entering and leaving containers

A thread has a slot that says which container it is bound to.  To run a command in a container, the
thread enters the container, runs the command, and leaves.  What it has to undo when it leaves is
its `Passage`.

* A container that does not run is not entered.
* A thread that is bound to the container already runs the command as it is: `Passage.direct`.
* Any other container is entered from root only: the thread attaches and binds itself
  (`Passage.attach`), and on leaving binds itself to root and detaches.
* Root is entered from everywhere: the thread binds itself to root and on leaving binds itself back
  (`Passage.stepOut`).  It stays attached meanwhile, so what it returns to still runs.

The order in which the conditions are tried is part of the rules.
-/

namespace ResourceContainers

/-- The binding of a thread; it goes when the thread ends. -/
inductive Slot
  | bound (h : Handle)
  | gone
  deriving DecidableEq, Repr

namespace Slot

/-- The binding of a new thread. -/
def fresh : Slot := bound .root

/-- The container that a thread is bound to; without a slot it is the root container. -/
def current : Slot → Handle
  | bound h => h
  | gone => .root

/-- Binds a thread to a container; a binding to a slot that is gone is lost. -/
def bind (s : Slot) (h : Handle) : Slot :=
  match s with
  | bound _ => bound h
  | gone => gone

end Slot

/-- How a thread came into the container it runs a command in: it was there already, or it stepped
out of the container `back` to root, or it attached. -/
inductive Passage
  | direct
  | stepOut (back : Handle)
  | attach (place : Nat)
  deriving DecidableEq, Repr

namespace Passage

/-- Which way leads from `current` to `target`, a container whose phase is `phase`. -/
def choose (phase : Phase) (current target : Handle) : Except Refusal Passage :=
  match target with
  | .root => .ok (if current.isRoot then direct else stepOut current)
  | .managed n =>
    match phase with
    | .destroyed => .error .notRunning
    | .running =>
      if current = target then .ok direct
      else if current.isRoot then .ok (attach n)
      else .error .notInRoot

/-- Takes a thread along its way in. -/
def enter (p : Pool) (s : Slot) : Passage → Except Refusal (Pool × Slot)
  | direct => .ok (p, s)
  | stepOut _ => .ok (p, s.bind .root)
  | attach n =>
    match p.acquire n with
    | .ok p => .ok (p, s.bind (.managed n))
    | .error e => .error e

/-- Takes a thread back out.  A thread that attached to a container is bound to it when it leaves;
what becomes of one that has lost its slot meanwhile is not told here. -/
def leave (p : Pool) (s : Slot) : Passage → Pool × Slot
  | direct => (p, s)
  | stepOut back => (p, s.bind back)
  | attach n => (p.release n, s.bind .root)

/-- Chooses the way into a container and takes a thread along it. -/
def into (p : Pool) (s : Slot) (target : Handle) : Except Refusal (Passage × Pool × Slot) :=
  match choose (p.phase target) s.current target with
  | .error e => .error e
  | .ok way =>
    match way.enter p s with
    | .error e => .error e
    | .ok (p, s) => .ok (way, p, s)

end Passage

end ResourceContainers
