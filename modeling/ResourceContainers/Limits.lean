import ResourceContainers.Resource
import ResourceContainers.Table

/-!
# Limits

A `Constraint` limits one resource.  `Limits` is what a container enforces: at most one amount for
each resource, listed in the order of the resources.

* `Limits.set`: a later constraint on a resource replaces an earlier one.
* `Limits.amount?_set`: it changes the amount of that resource and of no other.
-/

namespace ResourceContainers

/-- A limit on one resource, in the unit of the resource. -/
structure Constraint where
  resource : Resource
  amount : UInt64
  deriving DecidableEq, Repr

/-- A constraint as displays show it: `pids.max=32`. -/
def Constraint.text (c : Constraint) : String :=
  c.resource.key ++ "=" ++ toString c.amount.toNat

/-- At most one amount for each resource. -/
abbrev Limits := Table Resource UInt64

namespace Limits

def amount? (l : Limits) (r : Resource) : Option UInt64 := l.get? r

/-- Limits the resource of `c` to the amount of `c`. -/
def set (l : Limits) (c : Constraint) : Limits := l.insert c.resource c.amount

/-- Applies constraints one after another. -/
def setAll (l : Limits) (cs : List Constraint) : Limits := cs.foldl set l

/-- The limits as constraints, in the order of the resources. -/
def toList (l : Limits) : List Constraint := l.entries.map fun p => ⟨p.1, p.2⟩

theorem amount?_set (l : Limits) (c : Constraint) (r : Resource) :
    (l.set c).amount? r = if r = c.resource then some c.amount else l.amount? r := by
  rw [set, amount?, amount?, Table.get?_insert]
  by_cases h : r = c.resource
  · rw [if_pos h, if_pos (by rw [h]; exact Std.ReflCmp.compare_self)]
  · rw [if_neg h, if_neg fun e => h (Std.LawfulEqCmp.eq_of_compare e)]

end Limits

end ResourceContainers
