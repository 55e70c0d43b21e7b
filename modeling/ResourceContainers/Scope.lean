import ResourceContainers.Passage

/-!
# Tasks inside containers

A task is polled again and again, perhaps by another thread each time, so a binding of a thread
cannot stand for it.  A `Scope` puts a task inside a container: each poll binds the polling thread
for as long as the poll lasts, and an attachment is held from the first poll that had to make one
until the task is finished or dropped.

The rules are tried in this order.

* A scope on root is polled in root; the polling thread is bound back afterwards.
* A thread that is bound to the container already polls the task as it is.
* A thread that is bound to another container than root may not poll the task.
* A scope without an attachment makes one, which needs a container that runs.
-/

namespace ResourceContainers

/-- A task's place in a container, and whether the task holds an attachment to it. -/
structure Scope where
  container : Handle
  attached : Bool
  deriving DecidableEq, Repr

/-- How a polling thread came into the container of a task.  It was there already, it stepped out of
the container `back` to root, or it was bound to the container for this poll. -/
inductive Scope.Visit
  | direct
  | stepOut (back : Handle)
  | bound
  deriving DecidableEq, Repr

namespace Scope

/-- A new task inside a container. -/
def ofHandle (h : Handle) : Scope := ⟨h, false⟩

/-- Makes the attachment of a task unless it has one. -/
def acquire (t : Scope) (p : Pool) (n : Nat) : Except Refusal (Scope × Pool) :=
  if t.attached then .ok (t, p)
  else
    match p.acquire n with
    | .ok p => .ok ({ t with attached := true }, p)
    | .error e => .error e

/-- Gives the attachment of a task back if it has one. -/
def release (t : Scope) (p : Pool) : Scope × Pool :=
  match t.container with
  | .root => (t, p)
  | .managed n => if t.attached then ({ t with attached := false }, p.release n) else (t, p)

/-- Takes a polling thread into the container of a task. -/
def enter (t : Scope) (p : Pool) (s : Slot) : Except Refusal (Visit × Scope × Pool × Slot) :=
  match t.container with
  | .root =>
    .ok (if s.current.isRoot then (.direct, t, p, s)
      else (.stepOut s.current, t, p, s.bind .root))
  | .managed n =>
    if s.current = .managed n then .ok (.direct, t, p, s)
    else if s.current.isRoot then
      match t.acquire p n with
      | .ok (t, p) => .ok (.bound, t, p, s.bind (.managed n))
      | .error e => .error e
    else .error .notInRoot

/-- Takes a polling thread back out; a task that is finished and was bound for this poll gives its
attachment back. -/
def leave (t : Scope) (p : Pool) (s : Slot) (visit : Visit) (finished : Bool) :
    Scope × Pool × Slot :=
  match visit with
  | .direct => (t, p, s)
  | .stepOut back => (t, p, s.bind back)
  | .bound =>
    let s := s.bind .root
    if finished then
      let (t, p) := t.release p
      (t, p, s)
    else (t, p, s)

end Scope

end ResourceContainers
