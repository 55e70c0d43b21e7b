import ResourceContainers.Child
import ResourceContainers.Config
import ResourceContainers.Phase
import ResourceContainers.Text.Quoted
import ResourceContainers.Usage

/-!
# Containers

A container isolates the consumption of a workload.  It has an identity and perhaps a name, it is
running or destroyed, it counts the execution units that are attached to it, it enforces limits,
somebody meters what it consumes, and a policy says which children inherit it.

* `Container.ofConfig`: a new container.
* `Info`: what monitoring sees of a container.
* `Meter`: who meters a container.
-/

namespace ResourceContainers

/-- Who meters the consumption of a container: nobody (`idle`), so that nothing is ever consumed;
whoever feeds the account of a name, which containers may share; or an outside source that reports
the place of the resource in the order times `factor`. -/
inductive Meter
  | idle
  | account (name : String)
  | scaled (factor : UInt64)
  deriving DecidableEq

/-- The state of a container.  Its `id` tells it from every other one, and `attached` counts one
attachment for each entry that has not left again. -/
structure Container where
  id : UInt64
  name : Option String
  phase : Phase
  attached : Nat
  limits : Limits
  meter : Meter
  policy : Policy

/-- What monitoring sees of a container. -/
structure Info where
  id : UInt64
  name : Option String
  phase : Phase
  constraints : List Constraint
  attached : Nat
  deriving DecidableEq

namespace Container

/-- A new container. -/
def ofConfig (id : UInt64) (c : Config) (m : Meter) : Container where
  id := id
  name := c.name
  phase := .running
  attached := 0
  limits := c.effective
  meter := m
  policy := Policy.everyone

/-- The container in the place of one that there is not: it runs nothing and never will. -/
def absent : Container := { ofConfig 0 Config.empty .idle with phase := .destroyed }

instance : Inhabited Container := ⟨absent⟩

def text (c : Container) : String :=
  c.name.getD "container" ++ "(" ++ toString c.id.toNat ++ ")"

def phaseText : Phase → String
  | .running => "Running"
  | .destroyed => "Destroyed"

def nameText : Option String → String
  | some name => "Some(" ++ quoted name ++ ")"
  | none => "None"

/-- A container with all that tells it apart, for the eyes of a programmer. -/
def fullText (c : Container) : String :=
  "ResourceContainer \x7b id: ContainerId(" ++ toString c.id.toNat ++ "), name: " ++
    nameText c.name ++ ", lifecycle: Lifecycle \x7b state: " ++ phaseText c.phase ++
    ", attached: " ++ toString c.attached ++ " \x7d \x7d"

end Container

end ResourceContainers
