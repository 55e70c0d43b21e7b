/-!
# Phases

The life of a container has two phases.  A container starts running; once destroyed it stays so.
-/

namespace ResourceContainers

/-- The phase of a container's life. -/
inductive Phase
  | running
  | destroyed
  deriving DecidableEq, Repr

namespace Phase

/-- The phases, in the order in which a container goes through them. -/
def all : List Phase := [running, destroyed]

def label : Phase → String
  | running => "running"
  | destroyed => "destroyed"

def ofLabel? (name : String) : Option Phase := all.find? (·.label == name)

end Phase

end ResourceContainers
