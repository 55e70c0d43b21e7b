import ResourceContainers.Proofs.Tables
import ResourceContainers.Registry

/-!
# What a registry says about its entries

A registry keeps places under identities, and a predicate of its caller says which places are alive.
Everything that a registry answers comes down to which place is found under which identity.

* `Registry.listed`, `Registry.dead`: the two sorts of entries.
* `Registry.get?_managed_iff`: what is got is alive and under the identity that was asked for.
* `Registry.size_entries_enter_le`: how many entries a registration leaves.
* `Registry.prune_count`, `Registry.prune_again`: what pruning counts.
-/

namespace ResourceContainers

namespace Registry

variable (r : Registry) (alive : Nat → Bool)

/-- The places of the living entries, in the order of their identities. -/
def listed : List Nat := r.entries.values.filter alive

/-- The places of the dead entries. -/
def dead : List Nat := r.entries.values.filter fun n => !alive n

/-- The places whose entries the second section takes out. -/
def takenOut (sweeps : Bool) : List Nat := if sweeps then r.dead alive else []

theorem registrations_enter (sweeps : Bool) (id : UInt64) (n : Nat) :
    (r.enter alive sweeps id n).registrations = r.registrations := by
  cases sweeps <;> rfl

/-! ## Look-ups -/

variable {r alive}

theorem mem_listed {n : Nat} :
    n ∈ r.listed alive ↔ (∃ id, r.entries.get? id = some n) ∧ alive n = true := by
  rw [listed, List.mem_filter, Table.mem_values_iff]

theorem mem_dead {n : Nat} :
    n ∈ r.dead alive ↔ (∃ id, r.entries.get? id = some n) ∧ alive n = false := by
  rw [dead, List.mem_filter, Table.mem_values_iff, Bool.not_eq_true']

theorem mem_dead_of_takenOut {sweeps : Bool} {n : Nat} (hn : n ∈ r.takenOut alive sweeps) :
    n ∈ r.dead alive := by
  rw [takenOut] at hn
  split at hn
  · exact hn
  · exact absurd hn (by simp)

/-- Sweeping takes the dead entries out and nothing else. -/
theorem get?_sweep_eq_some {id : UInt64} {n : Nat} :
    (r.sweep alive).entries.get? id = some n ↔ r.entries.get? id = some n ∧ n ∉ r.dead alive := by
  rw [sweep, Table.get?_filter_eq_some]
  refine and_congr_right fun hget => ?_
  rw [mem_dead, not_and, Bool.not_eq_false]
  exact ⟨fun halive _ => halive, fun h => h ⟨id, hget⟩⟩

/-- What is entered is found; what was there before is found unless it is taken out, or something
else is entered under its identity. -/
theorem get?_enter_eq_some {sweeps : Bool} {id j : UInt64} {n m : Nat} :
    (r.enter alive sweeps id n).entries.get? j = some m ↔
      (j = id ∧ m = n) ∨ (j ≠ id ∧ r.entries.get? j = some m ∧ m ∉ r.takenOut alive sweeps) := by
  rw [enter, Table.get?_insert]
  by_cases hj : j = id
  · subst hj
    simp [eq_comm]
  · have hne : compare j id ≠ .eq := fun h => hj (Std.LawfulEqCmp.eq_of_compare h)
    cases sweeps with
    | false => simp [hj, hne, takenOut]
    | true => simp [hj, hne, takenOut, get?_sweep_eq_some]

/-! ## Listing -/

theorem containers_eq_listed :
    r.containers alive = .root :: (r.listed alive).map .managed := rfl

theorem managed_mem_containers {n : Nat} :
    .managed n ∈ r.containers alive ↔ n ∈ r.listed alive := by
  simp [containers_eq_listed]

/-- What is got under an identity is alive and under that identity. -/
theorem get?_managed_iff {id : UInt64} (hid : id ≠ 0) {h : Handle} :
    r.get? alive id = some h ↔
      ∃ n, h = .managed n ∧ r.entries.get? id = some n ∧ alive n = true := by
  simp only [get?, if_neg hid, Option.map_eq_some_iff, Option.filter_eq_some_iff]
  constructor
  · rintro ⟨n, ⟨hget, halive⟩, rfl⟩
    exact ⟨n, rfl, hget, halive⟩
  · rintro ⟨n, rfl, hget, halive⟩
    exact ⟨n, ⟨hget, halive⟩, rfl⟩

/-! ## Counting -/

/-- Every entry is alive or dead. -/
theorem size_eq : r.size = 1 + (r.listed alive).length + (r.dead alive).length := by
  have hsplit := r.entries.values.length_eq_length_filter_add alive
  have hlength : r.entries.values.length = r.entries.entries.length := List.length_map ..
  rw [size, Table.size, listed, dead]
  omega

theorem values_sweep : (r.sweep alive).entries.values = r.listed alive := by
  simp only [sweep, Table.values, Table.filter, listed, List.filter_map]
  rfl

theorem size_entries_sweep : (r.sweep alive).entries.size = (r.listed alive).length := by
  rw [← values_sweep, Table.values, List.length_map, Table.size]

theorem size_entries_sweep_le : (r.sweep alive).entries.size ≤ r.entries.size := by
  have hsize : r.size = 1 + (r.listed alive).length + (r.dead alive).length := size_eq
  rw [size_entries_sweep]
  rw [size] at hsize
  omega

/-- An entry makes at most one more than there are after the sweep. -/
theorem size_entries_enter_le (sweeps : Bool) (id : UInt64) (n : Nat) :
    (r.enter alive sweeps id n).entries.size ≤
      (if sweeps then (r.listed alive).length else r.entries.size) + 1 := by
  cases sweeps with
  | false => exact Table.size_insert_le ..
  | true =>
    rw [if_pos rfl, ← size_entries_sweep]
    exact Table.size_insert_le ..

/-- **Pruning counts the dead entries.** -/
theorem prune_count : (r.prune alive).2 = (r.dead alive).length := by
  have hsize : r.size = 1 + (r.listed alive).length + (r.dead alive).length := size_eq
  rw [prune, size_entries_sweep]
  rw [size] at hsize
  omega

theorem dead_sweep : (r.sweep alive).dead alive = [] := by
  rw [dead, values_sweep, listed, List.filter_filter]
  exact List.filter_eq_nil_iff.mpr fun n _ => by simp

/-- **Pruning at once again counts nothing.** -/
theorem prune_again : ((r.prune alive).1.prune alive).2 = 0 := by
  rw [prune_count]
  exact congrArg List.length dead_sweep

end Registry

end ResourceContainers
