import ResourceContainers.Child
import ResourceContainers.Container
import ResourceContainers.Stored

/-!
# Commands

A script exercises containers: it is a list of commands, some of which have scripts of their own
that run inside a container, on another thread, or one piece at a time as a task.

Containers, tasks, threads, accounts and registries go by names.
-/

namespace ResourceContainers.Script

/-- The container that a command is about.  The current one is that which the thread is bound to. -/
inductive Ref
  | root
  | current
  | named (name : String)
  deriving DecidableEq

/-- The reference that a text stands for. -/
def Ref.ofText (text : String) : Ref :=
  if text = "root" then root else if text = "current" then current else named text

/-- Where an executor polls its tasks: on the thread that waits for them or on a worker thread. -/
inductive Flavor
  | calling
  | worker
  deriving DecidableEq

/-- How an account is fed. -/
inductive Feed
  | add (resource : String) (amount : UInt64)
  | set (resource : String) (amount : UInt64)
  | reset
  deriving DecidableEq

/-- What can be asked of one container. -/
inductive Question
  | info
  | id
  | name
  | isRoot
  | attached
  | constraints
  | phase
  | text
  | fullText
  deriving DecidableEq

/-- How a container is created. -/
structure Creation where
  source : ConfigSource
  registry : String
  meter : Meter

/-- A command.  What a body that runs in a container gives back is of the type `ω`.

Containers are kept under names, many at once under a stem and a number or not at all.  A `thread`
inherits nothing, and one that is spawned inherits; a held one waits with its body until somebody
joins it.  `nest` runs a body inside the containers, one inside the other, the list of them
repeated, and `hammer` runs into a container again and again from several threads.  `teardown` runs
into a container on a thread, and asks where it is once its slot is gone.  A task may be polled on a
thread of its own.  `spawnTask` has a new executor run a task that inherits, and `blockOn` has one
wait for a task inside a container. -/
inductive Command (ω : Type)
  | create (name : String) (how : Creation)
  | createMany (count : Nat) (stem : Option String) (how : Creation)
  | createTogether (count : Nat) (registry : String)
  | clone (c : Ref) (name : String)
  | drop (name : String)
  | same (a b : Ref)
  | ask (c : Ref) (question : Question)
  | consumed (c : Ref) (resource : String)
  | accepts (c : Ref) (child : Child)
  | compareIds (a b : Ref)
  | whereAmI
  | whoAmI
  | update (c : Ref) (resource : String) (amount : UInt64)
  | destroy (c : Ref)
  | setPolicy (c : Ref) (rule : Rule)
  | meter (account : String) (feed : Feed)
  | run (c : Ref) (body : List (Command ω)) (outcome : ω)
  | nest (cs : List Ref) (times : Nat) (body : List (Command ω))
  | panic (message : String)
  | guarded (body : List (Command ω))
  | hammer (c : Ref) (threads runs : Nat)
  | thread (body : List (Command ω))
  | spawn (name : Option String) (body : List (Command ω))
  | spawnHeld (key : String) (name : Option String) (body : List (Command ω))
  | join (key : String)
  | teardown (c : Ref)
  | inherited (child : Child)
  | compareChildren (a b : Child)
  | task (key : String) (c : Ref) (segments : List (List (Command ω)))
  | poll (key : String) (elsewhere : Bool)
  | dropTask (key : String)
  | taskContainer (key : String)
  | spawnTask (flavor : Flavor) (segments : List (List (Command ω)))
  | blockOn (c : Ref) (segments : List (List (Command ω)))
  | lookUp (name : String) (registry : String)
  | listed (registry : String)
  | snapshot (registry : String)
  | registrySize (registry : String)
  | prune (registry : String)
  | unknown (name : String)

instance {ω : Type} : Inhabited (Command ω) := ⟨.whereAmI⟩

mutual

/-- How many commands there are in a command, itself included. -/
def Command.weight {ω : Type} : Command ω → Nat
  | .run _ body _ | .nest _ _ body | .guarded body | .thread body | .spawn _ body
  | .spawnHeld _ _ body => 1 + bodyWeight body
  | .task _ _ segments | .spawnTask _ segments | .blockOn _ segments => 1 + segmentsWeight segments
  | _ => 1

/-- How many commands there are in a body. -/
def bodyWeight {ω : Type} : List (Command ω) → Nat
  | [] => 0
  | c :: cs => c.weight + bodyWeight cs

/-- How many commands there are in the segments of a task. -/
def segmentsWeight {ω : Type} : List (List (Command ω)) → Nat
  | [] => 0
  | cs :: rest => bodyWeight cs + segmentsWeight rest

end

end ResourceContainers.Script
