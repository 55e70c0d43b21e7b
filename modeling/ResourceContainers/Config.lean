import ResourceContainers.Profile

/-!
# Configurations

What a container is created from: a name for monitoring, a profile, and constraints of its own.

* `Config.effective`: the profile's limits overlaid with the constraints, the last one winning.
* `Config.build`: a configuration put together step by step.
-/

namespace ResourceContainers

/-- What a container is created from: a label for monitoring, a profile, and constraints that win
over the profile, in the order in which they were given. -/
structure Config where
  name : Option String
  profile : Option Profile
  constraints : List Constraint
  deriving DecidableEq

namespace Config

def empty : Config := ⟨none, none, []⟩

def named (c : Config) (name : String) : Config := { c with name := some name }

def withProfile (c : Config) (p : Profile) : Config := { c with profile := some p }

def withConstraint (c : Config) (k : Constraint) : Config :=
  { c with constraints := c.constraints ++ [k] }

/-- The limits that the profile of a configuration gives it. -/
def profileLimits (c : Config) : Limits :=
  match c.profile with
  | some p => p.limits
  | none => Table.empty

/-- The limits of a container that is created from the configuration. -/
def effective (c : Config) : Limits := c.profileLimits.setAll c.constraints

/-- One step of putting a configuration together.  A limit is on the resource with a display
name. -/
inductive BuildStep
  | named (name : String)
  | profile (p : Profile)
  | limit (resource : String) (amount : UInt64)

/-- Carries out one step; a limit has to name a resource. -/
def buildStep (c : Config) : BuildStep → Except UnknownResource Config
  | .named name => .ok (c.named name)
  | .profile p => .ok (c.withProfile p)
  | .limit resource amount => (Resource.parse resource).map fun r => c.withConstraint ⟨r, amount⟩

/-- Puts a configuration together; the first step that fails ends it. -/
def build (steps : List BuildStep) : Except UnknownResource Config :=
  steps.foldlM buildStep empty

end Config

end ResourceContainers
