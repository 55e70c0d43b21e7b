/-!
# Children and who inherits

An execution unit that is about to start a child describes it by a `Child`.  The container of the
parent decides by its policy, a predicate on children, whether the child starts in it as well.

* `Rule`: the policies that can be written down.
* `Rule.accepts`: the predicate of a rule.
-/

namespace ResourceContainers

/-- What sort of execution unit a child will be. -/
inductive Child.Kind
  | thread
  | task
  deriving DecidableEq, Repr

/-- An execution unit that is about to be started. -/
structure Child where
  name : Option String
  kind : Child.Kind
  deriving DecidableEq, Repr

/-- Which children inherit a container. -/
abbrev Policy := Child → Bool

/-- The policy of a new container, and the only one of the root container: every child inherits. -/
def Policy.everyone : Policy := fun _ => true

/-- A policy that can be written down: by the name of a child, by its kind, and by what other rules
accept. -/
inductive Rule
  | constant (accept : Bool)
  | named (name : Option String)
  | ofKind (kind : Child.Kind)
  | not (rule : Rule)
  | all (rules : List Rule)
  | any (rules : List Rule)

namespace Rule

instance : Inhabited Rule := ⟨constant true⟩

mutual

def accepts : Rule → Policy
  | constant accept, _ => accept
  | named name, child => child.name == name
  | ofKind kind, child => child.kind == kind
  | not rule, child => !accepts rule child
  | all rules, child => allAccept rules child
  | any rules, child => anyAccepts rules child

def allAccept : List Rule → Policy
  | [], _ => true
  | rule :: rules, child => accepts rule child && allAccept rules child

def anyAccepts : List Rule → Policy
  | [], _ => false
  | rule :: rules, child => accepts rule child || anyAccepts rules child

end

end Rule

end ResourceContainers
