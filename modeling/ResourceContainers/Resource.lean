/-!
# Resources

The seven kinds of resource that can be limited and metered, in the fixed order in which every
listing shows them.

* `Resource.key`: the name under which an administrator knows the resource (`memory.max`).
* `Resource.label`: the name under which documents store it (`memory`).
* `Resource.ofKey?_key`, `Resource.ofLabel?_label`: both names are read back.
-/

namespace ResourceContainers

/-- A kind of resource.  Times are in microseconds for each period and memory is in bytes; shares
and weights are relative, and `pids` are execution units. -/
inductive Resource
  | cpuTime
  | cpuShares
  | memory
  | memoryHigh
  | ioTime
  | ioWeight
  | pids
  deriving DecidableEq, Repr

namespace Resource

def all : List Resource := [cpuTime, cpuShares, memory, memoryHigh, ioTime, ioWeight, pids]

/-- The place of a resource in the order. -/
def rank : Resource → Fin 7
  | cpuTime => 0
  | cpuShares => 1
  | memory => 2
  | memoryHigh => 3
  | ioTime => 4
  | ioWeight => 5
  | pids => 6

/-- Resources are ordered by rank. -/
instance : Ord Resource := ⟨fun a b => compare a.rank b.rank⟩

theorem rank_inj {a b : Resource} : a.rank = b.rank ↔ a = b := by
  cases a <;> cases b <;> decide

instance : Std.TransOrd Resource := inferInstanceAs (Std.TransCmp (compareOn rank))

instance : Std.LawfulEqOrd Resource where
  eq_of_compare {a b} h :=
    have h' : compare a.rank b.rank = .eq := h
    rank_inj.mp (Std.LawfulEqCmp.eq_of_compare h')

/-- The name of a resource in displays and in the keys of custom profiles. -/
def key : Resource → String
  | cpuTime => "cpu.max"
  | cpuShares => "cpu.weight"
  | memory => "memory.max"
  | memoryHigh => "memory.high"
  | ioTime => "io.max"
  | ioWeight => "io.weight"
  | pids => "pids.max"

def label : Resource → String
  | cpuTime => "cpu_time"
  | cpuShares => "cpu_shares"
  | memory => "memory"
  | memoryHigh => "memory_high"
  | ioTime => "io_time"
  | ioWeight => "io_weight"
  | pids => "pids"

def ofKey? (name : String) : Option Resource := all.find? (·.key == name)

def ofLabel? (name : String) : Option Resource := all.find? (·.label == name)

theorem ofKey?_key (r : Resource) : ofKey? r.key = some r := by
  cases r <;> decide

theorem ofLabel?_label (r : Resource) : ofLabel? r.label = some r := by
  cases r <;> decide

end Resource

/-- A text was given for the display name of a resource and is none. -/
structure UnknownResource where
  name : String
  deriving DecidableEq, Repr

def UnknownResource.message (e : UnknownResource) : String :=
  "unknown resource type '" ++ e.name ++ "'"

/-- Reads a display name. -/
def Resource.parse (name : String) : Except UnknownResource Resource :=
  match ofKey? name with
  | some r => .ok r
  | none => .error ⟨name⟩

end ResourceContainers
