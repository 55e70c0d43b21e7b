import ResourceContainers.Refusal
import ResourceContainers.Script.Command

/-!
# Answers

What a command answers, and the events of a script: each command leaves one when it is finished,
with its place in the script and the container that its thread was bound to by then.
-/

namespace ResourceContainers.Script

/-- The place of a command: indices from the outside in. -/
abbrev Path := List Nat

def Path.text (p : Path) : String := ".".intercalate (p.map toString)

/-- Something that a command needs and that is not there. -/
inductive Missing
  | handle (name : String)
  | task (key : String)
  | thread (key : String)
  deriving DecidableEq

/-- What a command answers.

The creation of many containers answers the first and the last identity and the size of the
registry.  That of containers on many threads answers how many identities there are, the least and
the greatest, and how many containers the registry lists and has entries for.  A body answers what
it gives back, or how many containers deep it ran.  Of many runs it is told how many saw the right
container and how many attachments are left. -/
inductive Answer (ω : Type)
  | done
  | refused (why : Refusal)
  | noConfig (why : ConfigError)
  | missing (what : Missing)
  | insideExecutor
  | unknown (name : String)
  | created (id : UInt64)
  | createdMany (first last : Option UInt64) (size : Nat)
  | createdTogether (distinct : Nat) (least greatest : Option UInt64) (listed size : Nat)
  | truth (b : Bool)
  | number (n : Nat)
  | text (s : String)
  | name (s : Option String)
  | phase (p : Phase)
  | constraints (cs : List Constraint)
  | info (i : Info)
  | infos (l : List Info)
  | ids (l : List UInt64)
  | comparison (order : Ordering) (firstIsRoot secondIsRoot : Bool)
  | ran (outcome : ω)
  | ranDeep (depth : Nat)
  | noPanic
  | caught (message : String)
  | hammered (bound attached : Nat)
  | threadPanicked (message : String)
  | entered (inside : Bool)
  | children (name : Option String) (isTask same : Bool)
  | pending
  | ready (segments : Nat)
  | taskPanicked (message : String)
  | taskContainer (isRoot : Bool) (attached : Nat)
  | found (container : Option (UInt64 × Phase))
  | size (entries : Nat)

/-- A finished command, with its answer or the message of the panic that ended it, and the container
that the thread was bound to afterwards. -/
structure Event (ω : Type) where
  path : Path
  result : Except String (Answer ω)
  current : UInt64

/-- What is left of the named containers: the phase and the attachments of each, or the attachments
of all of them, where they are many. -/
inductive Summary
  | each (containers : List (String × Phase × Nat))
  | total (attached : Nat)
  deriving DecidableEq

/-- What a whole script did, and what is left once every thread is finished and once every task is
dropped as well. -/
structure Report (ω : Type) where
  events : List (Event ω)
  panic : Option String
  current : UInt64
  atEnd : Summary
  withoutTasks : Summary

end ResourceContainers.Script
