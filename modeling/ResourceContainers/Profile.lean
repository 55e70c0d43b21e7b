import ResourceContainers.Limits

/-!
# Profiles

A profile is a set of limits for a common shape of workload: one of three presets, or amounts that
the user gives under display names.

* `Profile.limits`: the limits that a profile stands for.
* `CustomAmounts`: the user's amounts.  A name that is no display name is kept but limits nothing,
  and two writings of the same amounts are equal, whatever the order of their names.
-/

namespace ResourceContainers

/-- Amounts under names of the user's choice. -/
abbrev CustomAmounts := Table String UInt64

/-- A ready-made set of limits: for helpers in the background, for most workloads, for heavy
computation, or with amounts that the user gives under display names. -/
inductive Profile
  | minimal
  | standard
  | performance
  | custom (amounts : CustomAmounts)
  deriving DecidableEq

namespace CustomAmounts

/-- Limits the resource that an entry names; an entry that names none changes nothing. -/
def apply (l : Limits) (entry : String × UInt64) : Limits :=
  match Resource.ofKey? entry.1 with
  | some r => l.set ⟨r, entry.2⟩
  | none => l

/-- The limits that the entries with display names stand for. -/
def limits (amounts : CustomAmounts) : Limits := amounts.entries.foldl apply Table.empty

end CustomAmounts

namespace Profile

def mebibyte : UInt64 := 1024 * 1024

/-- The constraints of the minimal preset. -/
def minimalConstraints : List Constraint :=
  [⟨.memory, 128 * mebibyte⟩, ⟨.memoryHigh, 96 * mebibyte⟩, ⟨.cpuShares, 50⟩,
    ⟨.cpuTime, 50000⟩, ⟨.ioWeight, 50⟩, ⟨.pids, 64⟩]

/-- The constraints of the standard preset. -/
def standardConstraints : List Constraint :=
  [⟨.memory, 512 * mebibyte⟩, ⟨.memoryHigh, 384 * mebibyte⟩, ⟨.cpuShares, 100⟩,
    ⟨.cpuTime, 100000⟩, ⟨.ioWeight, 100⟩, ⟨.pids, 512⟩]

/-- The constraints of the performance preset. -/
def performanceConstraints : List Constraint :=
  [⟨.memory, 4096 * mebibyte⟩, ⟨.memoryHigh, 3072 * mebibyte⟩, ⟨.cpuShares, 1000⟩,
    ⟨.cpuTime, 1000000⟩, ⟨.ioWeight, 500⟩, ⟨.pids, 4096⟩]

/-- The limits that a profile stands for. -/
def limits : Profile → Limits
  | minimal => Limits.setAll Table.empty minimalConstraints
  | standard => Limits.setAll Table.empty standardConstraints
  | performance => Limits.setAll Table.empty performanceConstraints
  | custom amounts => amounts.limits

/-- The constraints that a profile expands to, in the order of the resources. -/
def constraints (p : Profile) : List Constraint := p.limits.toList

/-- The presets under the names that documents use for them. -/
def presets : List (String × Profile) :=
  [("minimal", minimal), ("standard", standard), ("performance", performance)]

end Profile

end ResourceContainers
