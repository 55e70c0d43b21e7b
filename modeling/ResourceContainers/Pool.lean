import ResourceContainers.Container
import ResourceContainers.Refusal

/-!
# The pool of containers

All containers that were ever created, with the accounts that some of them share.  A `Handle` is the
root container or the place of another one in the pool; two handles are equal exactly when they are
handles on the same container.

Each operation here is one atomic step: nothing that another thread does can fall in its middle.
An operation that may be refused gives the new pool or the refusal, so a refused one changes
nothing.

* `Pool.create`, `Pool.acquire`, `Pool.release`, `Pool.destroy`, `Pool.update`, `Pool.setPolicy`.
* `Pool.container_change`: an operation on one container leaves all others alone.
-/

namespace ResourceContainers

/-- A container, named by its place in the pool.  Everything runs in the root container unless it is
put elsewhere. -/
inductive Handle
  | root
  | managed (place : Nat)
  deriving DecidableEq, Repr

def Handle.isRoot : Handle → Bool
  | root => true
  | managed _ => false

/-- All containers that were ever created, the accounts that they are metered by, and the identity
of the next one.  The identity 0 belongs to the root container. -/
structure Pool where
  containers : Array Container
  accounts : Table String Usage
  nextId : UInt64

namespace Pool

def empty : Pool := ⟨#[], Table.empty, 1⟩

instance : Inhabited Pool := ⟨empty⟩

/-- The container at a place. -/
def container (p : Pool) (n : Nat) : Container := p.containers.getD n Container.absent

/-- Changes the container at a place. -/
def change (p : Pool) (n : Nat) (f : Container → Container) : Pool :=
  { p with containers := p.containers.modify n f }

theorem container_change (p : Pool) (n m : Nat) (f : Container → Container) :
    (p.change n f).container m =
      if n = m ∧ m < p.containers.size then f (p.container m) else p.container m := by
  simp only [container, change, Array.getD_eq_getD_getElem?, Array.getElem?_modify]
  by_cases hn : n = m
  · rw [if_pos hn]
    by_cases hm : m < p.containers.size
    · rw [if_pos ⟨hn, hm⟩, Array.getElem?_eq_getElem hm]
      rfl
    · rw [if_neg fun h => hm h.2, Array.getElem?_eq_none (Nat.le_of_not_lt hm)]
      rfl
  · rw [if_neg hn, if_neg fun h => hn h.1]

@[simp] theorem size_change (p : Pool) (n : Nat) (f : Container → Container) :
    (p.change n f).containers.size = p.containers.size :=
  Array.size_modify

/-! ## Reading -/

def id (p : Pool) : Handle → UInt64
  | .root => 0
  | .managed n => (p.container n).id

def name (p : Pool) : Handle → Option String
  | .root => some "root"
  | .managed n => (p.container n).name

/-- The phase of a container; the root container always runs. -/
def phase (p : Pool) : Handle → Phase
  | .root => .running
  | .managed n => (p.container n).phase

/-- How many attachments there are to a container; there is never one to the root container. -/
def attached (p : Pool) : Handle → Nat
  | .root => 0
  | .managed n => (p.container n).attached

/-- The limits of a container; the root container has none. -/
def limits (p : Pool) : Handle → Limits
  | .root => Table.empty
  | .managed n => (p.container n).limits

/-- Which children inherit a container. -/
def policy (p : Pool) : Handle → Policy
  | .root => Policy.everyone
  | .managed n => (p.container n).policy

/-- The counters of an account; one that nobody opened counts nothing. -/
def usage (p : Pool) (account : String) : Usage := (p.accounts.get? account).getD Usage.zero

/-- What a meter reports. -/
def reading (p : Pool) (m : Meter) (r : Resource) : UInt64 :=
  match m with
  | .idle => 0
  | .account name => (p.usage name).amount r
  | .scaled factor => (UInt64.ofNat r.rank.val + 1) * factor

/-- How much of a resource a container consumed; the root container consumes nothing. -/
def consumed (p : Pool) (h : Handle) (r : Resource) : UInt64 :=
  match h with
  | .root => 0
  | .managed n => p.reading (p.container n).meter r

/-- What monitoring sees of a container. -/
def info (p : Pool) (h : Handle) : Info :=
  ⟨p.id h, p.name h, p.phase h, (p.limits h).toList, p.attached h⟩

def text (p : Pool) : Handle → String
  | .root => "root(0)"
  | .managed n => (p.container n).text

def fullText (p : Pool) : Handle → String
  | .root => "ResourceContainer::Root"
  | .managed n => (p.container n).fullText

/-! ## Changing -/

/-- Creates a container under a fresh identity, at a fresh place. -/
def create (p : Pool) (c : Config) (m : Meter) : Pool × Nat :=
  ({ p with containers := p.containers.push (Container.ofConfig p.nextId c m),
            nextId := p.nextId + 1 },
    p.containers.size)

/-- Counts one more attachment to a container that runs. -/
def acquire (p : Pool) (n : Nat) : Except Refusal Pool :=
  match (p.container n).phase with
  | .running => .ok (p.change n fun c => { c with attached := c.attached + 1 })
  | .destroyed => .error .notRunning

/-- Counts one attachment less. -/
def release (p : Pool) (n : Nat) : Pool :=
  p.change n fun c => { c with attached := c.attached - 1 }

/-- Destroys a container that runs and has no attachment. -/
def destroy (p : Pool) : Handle → Except Refusal Pool
  | .root => .error .destroyRoot
  | .managed n =>
    match (p.container n).phase with
    | .destroyed => .error .notRunning
    | .running =>
      if (p.container n).attached = 0 then
        .ok (p.change n fun c => { c with phase := .destroyed })
      else .error (.stillAttached (p.container n).attached)

/-- Limits a resource of a container that runs. -/
def update (p : Pool) (h : Handle) (k : Constraint) : Except Refusal Pool :=
  match h with
  | .root => .error .limitRoot
  | .managed n =>
    match (p.container n).phase with
    | .destroyed => .error .notRunning
    | .running => .ok (p.change n fun c => { c with limits := c.limits.set k })

/-- Replaces the policy of a container. -/
def setPolicy (p : Pool) (h : Handle) (policy : Policy) : Except Refusal Pool :=
  match h with
  | .root => .error .policyOfRoot
  | .managed n => .ok (p.change n fun c => { c with policy := policy })

/-- Changes what the counters of an account say. -/
def meter (p : Pool) (account : String) (f : Usage → Usage) : Pool :=
  { p with accounts := p.accounts.insert account (f (p.usage account)) }

end Pool

end ResourceContainers
