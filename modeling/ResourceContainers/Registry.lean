import ResourceContainers.Pool

/-!
# Registries

A registry lists containers for monitoring.  It must not keep a container in existence, so its
entries are places in the pool that may have died: which ones live is told by a predicate that the
caller brings along.  Dead entries stay until somebody sweeps them out, and every so many
registrations the registry does so itself.

* `Registry.counted`, `Registry.enter`: the two critical sections of a registration, between which
  other threads may use the registry.
* `Registry.register`, `Registry.prune`, `Registry.get?`, `Registry.containers`.
* `Registry.containers_sweep`: sweeping takes nothing away that is listed.
-/

namespace ResourceContainers

/-- Registrations between two sweeps that a registry makes by itself. -/
def sweepInterval : Nat := 256

/-- A list of containers for monitoring: how many registrations there have been, and the places in
the pool under the identities of their containers. -/
structure Registry where
  registrations : Nat
  entries : Table UInt64 Nat

namespace Registry

def empty : Registry := ⟨0, Table.empty⟩

instance : Inhabited Registry := ⟨empty⟩

/-- Takes out the dead entries. -/
def sweep (r : Registry) (alive : Nat → Bool) : Registry :=
  { r with entries := r.entries.filter fun _ n => alive n }

/-- The first section of a registration: it is counted. -/
def counted (r : Registry) : Registry := { r with registrations := r.registrations + 1 }

/-- Whether the registration that was counted last is one that sweeps. -/
def isSweeping (r : Registry) : Bool := r.registrations % sweepInterval == 0

/-- The second section of a registration: the entry is made, perhaps after a sweep. -/
def enter (r : Registry) (alive : Nat → Bool) (sweeps : Bool) (id : UInt64) (n : Nat) : Registry :=
  let swept := if sweeps then r.sweep alive else r
  { swept with entries := swept.entries.insert id n }

/-- Enters a container under its identity, sweeping first if it is time. -/
def register (r : Registry) (alive : Nat → Bool) (id : UInt64) (n : Nat) : Registry :=
  r.counted.enter alive r.counted.isSweeping id n

/-- The living container with a given identity. -/
def get? (r : Registry) (alive : Nat → Bool) (id : UInt64) : Option Handle :=
  if id = 0 then some .root
  else ((r.entries.get? id).filter alive).map .managed

/-- The root container and then every living container, by identity. -/
def containers (r : Registry) (alive : Nat → Bool) : List Handle :=
  .root :: (r.entries.values.filter alive).map .managed

/-- What monitoring sees of every listed container. -/
def snapshot (r : Registry) (alive : Nat → Bool) (p : Pool) : List Info :=
  (r.containers alive).map p.info

/-- Takes out the dead entries and counts them. -/
def prune (r : Registry) (alive : Nat → Bool) : Registry × Nat :=
  (r.sweep alive, r.entries.size - (r.sweep alive).entries.size)

/-- How many entries there are, dead ones included, and the root container. -/
def size (r : Registry) : Nat := r.entries.size + 1

/-- Sweeping takes nothing away that is listed. -/
theorem containers_sweep (r : Registry) (alive : Nat → Bool) :
    (r.sweep alive).containers alive = r.containers alive := by
  simp only [containers, sweep, Table.values, Table.filter, List.filter_map, List.filter_filter]
  congr 3
  exact List.filter_congr fun p _ => by simp

end Registry

end ResourceContainers
