import ResourceContainers.Resource

/-!
# Usage

How much of each resource was consumed, as whoever does the metering reports it.  Amounts are words
of 64 bits and wrap around.

* `Usage.add`, `Usage.set`, `Usage.zero`.
* `Usage.amount_add`, `Usage.amount_set`: each changes the amount of one resource only.
-/

namespace ResourceContainers

/-- An amount for each resource. -/
structure Usage where
  amounts : Vector UInt64 7
  deriving DecidableEq

namespace Usage

def zero : Usage := ⟨Vector.replicate 7 0⟩

def amount (u : Usage) (r : Resource) : UInt64 := u.amounts[r.rank]

def set (u : Usage) (r : Resource) (a : UInt64) : Usage := ⟨u.amounts.set r.rank a⟩

def add (u : Usage) (r : Resource) (a : UInt64) : Usage := u.set r (u.amount r + a)

@[simp] theorem amount_zero (r : Resource) : zero.amount r = 0 := by
  cases r <;> rfl

theorem amount_set (u : Usage) (r q : Resource) (a : UInt64) :
    (u.set r a).amount q = if q = r then a else u.amount q := by
  simp only [amount, set, Fin.getElem_fin, Vector.getElem_set]
  by_cases h : q = r
  · rw [if_pos (by rw [h]), if_pos h]
  · rw [if_neg fun e => h (Resource.rank_inj.mp (Fin.ext e.symm)), if_neg h]

theorem amount_add (u : Usage) (r q : Resource) (a : UInt64) :
    (u.add r a).amount q = if q = r then u.amount r + a else u.amount q :=
  amount_set u r q _

end Usage

end ResourceContainers
