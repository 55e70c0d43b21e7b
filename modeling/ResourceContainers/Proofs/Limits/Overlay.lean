import ResourceContainers.Config
import ResourceContainers.Proofs.Tables

/-!
# The overlay of a profile and of constraints

The limits of a configuration are those of its profile, overlaid with its constraints one after
another.  Here they are read off the two without laying anything over anything: the amount for a
resource is that of the last constraint on it, and, where there is none, that of the profile.

* `Constraint.last?`: the amount of the last constraint on a resource.
* `Limits.amount?_setAll`: laying constraints over limits, seen from one resource.
* `Limits.mem_toList`, `Limits.pairwise_toList`: what the list of the limits is.
* `Limits.sort_of_perm`, `Limits.perm_replace`: limits that are stored in no particular order.
* `Profile.provided?`: the amount that a profile has for a resource.
* `CustomAmounts.foldl_apply_perm`: the user's amounts may be gone through in any order.
* `effective_merge`: the limits of a configuration.

## Why the order of the user's amounts does not matter

Amounts under different names could still collide if two names were names of one resource, and then
the one that is applied last would win.  But a resource has one display name, and a name that
differs from it in a single character is no display name of it.  So no two of the user's amounts are
for the same resource.
-/

namespace ResourceContainers

/-! ## The last constraint on a resource -/

/-- The amount of the last constraint on a resource. -/
def Constraint.last? (cs : List Constraint) (r : Resource) : Option UInt64 :=
  (cs.reverse.find? fun k => k.resource == r).map (·.amount)

theorem Constraint.isSome_last? {cs : List Constraint} {r : Resource} :
    (last? cs r).isSome = true ↔ ∃ k ∈ cs, k.resource = r := by
  simp [last?, List.find?_isSome]

namespace Limits

/-- **What is laid over limits**: the last constraint on a resource counts, and where there is none
the limit stays. -/
theorem amount?_setAll (l : Limits) (cs : List Constraint) (r : Resource) :
    (l.setAll cs).amount? r = (Constraint.last? cs r).or (l.amount? r) := by
  induction cs generalizing l with
  | nil => rfl
  | cons k cs ih =>
    have htail : (l.setAll (k :: cs)).amount? r = ((l.set k).setAll cs).amount? r := rfl
    rw [htail, ih, amount?_set, Constraint.last?, Constraint.last?, List.reverse_cons,
      List.find?_append]
    by_cases h : k.resource = r
    · cases cs.reverse.find? fun k => k.resource == r <;> simp [h]
    · cases cs.reverse.find? fun k => k.resource == r <;> simp [h, Ne.symm h]

theorem ext_amount? {l l' : Limits} (h : ∀ r, l.amount? r = l'.amount? r) : l = l' :=
  Table.ext_get? h

/-- A constraint is listed if its amount is the limit on its resource. -/
theorem mem_toList {l : Limits} {k : Constraint} :
    k ∈ l.toList ↔ l.amount? k.resource = some k.amount := by
  rw [amount?, ← Table.mem_entries_iff, toList, List.mem_map]
  constructor
  · rintro ⟨p, hp, rfl⟩
    exact hp
  · exact fun h => ⟨_, h, rfl⟩

theorem eq_of_mem_toList {l : Limits} {j k : Constraint} (hj : j ∈ l.toList) (hk : k ∈ l.toList)
    (hresource : j.resource = k.resource) : j = k := by
  have hamount : some j.amount = some k.amount := by
    rw [← mem_toList.mp hj, ← mem_toList.mp hk, hresource]
  cases j
  cases k
  cases hresource
  cases hamount
  rfl

theorem exists_mem_toList {l : Limits} {r : Resource} :
    (∃ k ∈ l.toList, k.resource = r) ↔ (l.amount? r).isSome = true := by
  rw [Option.isSome_iff_exists]
  constructor
  · rintro ⟨k, hk, rfl⟩
    exact ⟨_, mem_toList.mp hk⟩
  · rintro ⟨a, ha⟩
    exact ⟨⟨r, a⟩, mem_toList.mpr ha, rfl⟩

/-- **Limits are listed in strictly increasing order of their resources.** -/
theorem pairwise_toList (l : Limits) :
    l.toList.Pairwise fun j k => j.resource.rank < k.resource.rank := by
  refine List.pairwise_map.mpr (l.increasing.imp fun {p q} h => ?_)
  exact Fin.lt_def.mpr (Nat.compare_eq_lt.mp h)

theorem nodup_toList (l : Limits) : l.toList.Nodup :=
  l.pairwise_toList.imp fun hlt heq => by
    rw [heq] at hlt
    exact Fin.lt_irrefl _ hlt

end Limits

/-! ## Limits that are stored in no particular order -/

namespace Constraint

/-- The constraints of a store, sorted by resource. -/
def sort (cs : List Constraint) : List Constraint :=
  cs.mergeSort fun j k => j.resource.rank ≤ k.resource.rank

/-- A store with a constraint in the place of the one on the same resource. -/
def replace (k : Constraint) (cs : List Constraint) : List Constraint :=
  k :: cs.filter fun j => j.resource ≠ k.resource

end Constraint

namespace Limits

variable {l : Limits} {cs : List Constraint}

/-- **Sorting brings limits into the order in which they are listed**, whatever order they are
stored in. -/
theorem sort_of_perm (h : cs.Perm l.toList) : Constraint.sort cs = l.toList := by
  have hsorted : (Constraint.sort cs).Pairwise fun j k => j.resource.rank ≤ k.resource.rank := by
    have hle := @List.pairwise_mergeSort Constraint
      (fun j k => decide (j.resource.rank ≤ k.resource.rank))
      (fun a b c hab hbc => by
        simp only [decide_eq_true_eq] at hab hbc ⊢
        exact Fin.le_trans hab hbc)
      (fun a b => by
        simp only [Bool.or_eq_true, decide_eq_true_eq]
        exact Fin.le_total a.resource.rank b.resource.rank) cs
    exact hle.imp fun h => of_decide_eq_true h
  have hperm : (Constraint.sort cs).Perm l.toList := (List.mergeSort_perm _ _).trans h
  refine hperm.eq_of_pairwise (fun j k hj hk hle hge => ?_) hsorted
    (l.pairwise_toList.imp fun hlt => Fin.le_of_lt hlt)
  exact eq_of_mem_toList (hperm.mem_iff.mp hj) hk
    (Resource.rank_inj.mp (Fin.le_antisymm hle hge))

/-- A store in which a constraint replaces another one is a store of the new limits. -/
theorem perm_replace (h : cs.Perm l.toList) (k : Constraint) :
    (Constraint.replace k cs).Perm (l.set k).toList := by
  have hnodup : (Constraint.replace k cs).Nodup :=
    List.nodup_cons.mpr ⟨by simp, (h.nodup_iff.mpr l.nodup_toList).filter _⟩
  refine (List.perm_ext_iff_of_nodup hnodup (l.set k).nodup_toList).mpr fun j => ?_
  obtain ⟨r, a⟩ := j
  obtain ⟨r', a'⟩ := k
  rw [mem_toList, amount?_set, Constraint.replace, List.mem_cons, List.mem_filter, h.mem_iff,
    mem_toList]
  by_cases hr : r = r' <;> simp [hr, eq_comm]

end Limits

/-! ## What a profile provides -/

/-- A text is the display name of a resource exactly if it is that very text. -/
theorem Resource.ofKey?_eq_some_iff {name : String} {r : Resource} :
    ofKey? name = some r ↔ name = r.key := by
  constructor
  · intro h
    exact (eq_of_beq (List.find?_some h :)).symm
  · rintro rfl
    exact ofKey?_key r

/-- The constraint that an entry of the user's amounts stands for, if its name is a display name. -/
def CustomAmounts.constraint? (entry : String × UInt64) : Option Constraint :=
  (Resource.ofKey? entry.1).map fun r => ⟨r, entry.2⟩

/-- The constraints that a preset is made of; there are none in the user's amounts. -/
def Profile.preset : Profile → List Constraint
  | minimal => minimalConstraints
  | standard => standardConstraints
  | performance => performanceConstraints
  | custom _ => []

/-- The amount that a profile has for a resource: that of its constraint on the resource, or, among
the user's amounts, the one under the display name of the resource. -/
def Profile.provided? (p : Profile) (r : Resource) : Option UInt64 :=
  match p with
  | custom amounts => amounts.get? r.key
  | p => Constraint.last? p.preset r

namespace CustomAmounts

/-- Going through entries lays the constraints over the limits that they stand for. -/
theorem foldl_apply (l : Limits) (entries : List (String × UInt64)) :
    entries.foldl apply l = l.setAll (entries.filterMap constraint?) := by
  induction entries generalizing l with
  | nil => rfl
  | cons e entries ih =>
    rw [List.foldl_cons, ih, List.filterMap_cons, apply, constraint?]
    cases Resource.ofKey? e.1 <;> rfl

/-- The last constraint on a resource comes from the last entry under its display name. -/
theorem last?_constraints (entries : List (String × UInt64)) (r : Resource) :
    Constraint.last? (entries.filterMap constraint?) r = Table.look r.key entries.reverse := by
  rw [Constraint.last?, ← List.filterMap_reverse]
  induction entries.reverse with
  | nil => rfl
  | cons e l ih =>
    obtain ⟨name, a⟩ := e
    have hname : compare r.key name = .eq ↔ Resource.ofKey? name = some r := by
      rw [Resource.ofKey?_eq_some_iff, Std.LawfulEqCmp.compare_eq_iff_eq, eq_comm]
    rw [List.filterMap_cons, Table.look]
    cases hr : Resource.ofKey? name with
    | none =>
      have hentry : constraint? (name, a) = none := by simp [constraint?, hr]
      rw [hentry, if_neg (by simp [hname, hr])]
      exact ih
    | some r' =>
      have hentry : constraint? (name, a) = some ⟨r', a⟩ := by simp [constraint?, hr]
      rw [hentry]
      by_cases h : r' = r
      · rw [if_pos (by simp [hname, hr, h]), List.find?_cons_of_pos (by simp [h])]
        rfl
      · rw [if_neg (by simp [hname, hr, h]), List.find?_cons_of_neg (by simp [h])]
        exact ih

theorem amount?_limits (amounts : CustomAmounts) (r : Resource) :
    amounts.limits.amount? r = amounts.get? r.key := by
  have hlook : Table.look r.key amounts.entries.reverse = amounts.get? r.key :=
    (Table.look_perm amounts.entries.reverse_perm.symm amounts.nodup_keys r.key).symm
  rw [limits, foldl_apply, Limits.amount?_setAll, last?_constraints, hlook]
  exact Option.or_none

/-- **The user's amounts may be gone through in any order.** -/
theorem foldl_apply_perm (amounts : CustomAmounts) {entries : List (String × UInt64)}
    (h : entries.Perm amounts.entries) : entries.foldl apply Table.empty = amounts.limits := by
  have hkeys : (entries.map Prod.fst).Nodup := (h.map Prod.fst).nodup_iff.mpr amounts.nodup_keys
  have hreverse : (entries.reverse.map Prod.fst).Nodup := by
    rw [List.map_reverse, List.nodup_reverse]
    exact hkeys
  refine Limits.ext_amount? fun r => ?_
  have hlook : Table.look r.key entries.reverse = amounts.get? r.key :=
    Table.look_perm (entries.reverse_perm.trans h) hreverse r.key
  rw [foldl_apply, Limits.amount?_setAll, last?_constraints, hlook, amount?_limits]
  exact Option.or_none

/-- Amounts that agree under all display names stand for the same limits. -/
theorem limits_congr {amounts amounts' : CustomAmounts}
    (h : ∀ r : Resource, amounts.get? r.key = amounts'.get? r.key) :
    amounts.limits = amounts'.limits :=
  Limits.ext_amount? fun r => by rw [amount?_limits, amount?_limits, h]

/-- An amount under a name that is no display name limits nothing. -/
theorem limits_insert (amounts : CustomAmounts) {name : String} (a : UInt64)
    (hname : ∀ r : Resource, name ≠ r.key) :
    limits (amounts.insert name a) = amounts.limits :=
  limits_congr fun r => by
    rw [Table.get?_insert, if_neg fun h => hname r (Std.LawfulEqCmp.eq_of_compare h).symm]

/-- Nor does it matter whether such an amount is taken out. -/
theorem limits_erase (amounts : CustomAmounts) {name : String}
    (hname : ∀ r : Resource, name ≠ r.key) : limits (amounts.erase name) = amounts.limits :=
  limits_congr fun r => by
    rw [Table.get?_erase, if_neg fun h => hname r (Std.LawfulEqCmp.eq_of_compare h).symm]

end CustomAmounts

theorem Profile.amount?_limits (p : Profile) (r : Resource) :
    p.limits.amount? r = p.provided? r := by
  cases p with
  | custom amounts => exact CustomAmounts.amount?_limits amounts r
  | _ => exact (Limits.amount?_setAll ..).trans Option.or_none

/-! ## The limits of a configuration -/

namespace Config

/-- The amount that the profile of a configuration has for a resource, if it has a profile. -/
def provided? (c : Config) (r : Resource) : Option UInt64 := c.profile.bind (·.provided? r)

theorem amount?_profileLimits (c : Config) (r : Resource) :
    c.profileLimits.amount? r = c.provided? r := by
  rw [profileLimits, provided?]
  cases c.profile with
  | none => rfl
  | some p => exact p.amount?_limits r

/-- The limit of a configuration on a resource. -/
theorem amount?_effective (c : Config) (r : Resource) :
    c.effective.amount? r = (Constraint.last? c.constraints r).or (c.provided? r) := by
  rw [effective, Limits.amount?_setAll, amount?_profileLimits]

theorem effective_congr {c c' : Config} (hp : c.profileLimits = c'.profileLimits)
    (hc : c.constraints = c'.constraints) : c.effective = c'.effective := by
  rw [effective, effective, hp, hc]

/-- **The limits of a configuration** are its profile overlaid with its constraints.

* They are listed in strictly increasing order of the resources.
* A resource is listed if a constraint is on it or the profile provides it.
* Its amount is that of the last constraint on it, and that of the profile if there is none.
* If the profile holds amounts of the user's choice, they may be gone through in any order; an
  amount under a name that is no display name may be added or taken out; and a resource is provided
  exactly if there is an amount under its display name.
* A profile expands to the limits of the configuration that has nothing but that profile. -/
theorem effective_merge (c : Config) :
    (c.effective.toList.Pairwise fun j k => j.resource.rank < k.resource.rank) ∧
    (∀ r, (∃ k ∈ c.effective.toList, k.resource = r) ↔
      (∃ k ∈ c.constraints, k.resource = r) ∨ (c.provided? r).isSome = true) ∧
    (∀ k, k ∈ c.effective.toList ↔
      (Constraint.last? c.constraints k.resource).or (c.provided? k.resource) = some k.amount) ∧
    (∀ amounts, c.profile = some (.custom amounts) →
      (∀ entries : List (String × UInt64), entries.Perm amounts.entries →
        ((entries.foldl CustomAmounts.apply Table.empty).setAll c.constraints) = c.effective) ∧
      (∀ name a, (∀ r : Resource, name ≠ r.key) →
        (c.withProfile (.custom (amounts.insert name a))).effective = c.effective ∧
        (c.withProfile (.custom (amounts.erase name))).effective = c.effective) ∧
      ∀ r, (∃ k ∈ (Profile.custom amounts).constraints, k.resource = r) ↔
        amounts.contains r.key = true) ∧
    ∀ p : Profile, p.constraints = (Config.empty.withProfile p).effective.toList := by
  refine ⟨c.effective.pairwise_toList, fun r => ?_, fun k => ?_, fun amounts hp => ?_, fun p => rfl⟩
  · rw [Limits.exists_mem_toList, amount?_effective, Option.isSome_or, Bool.or_eq_true,
      Constraint.isSome_last?]
  · rw [Limits.mem_toList, amount?_effective]
  · have hlimits : c.profileLimits = amounts.limits := by rw [profileLimits, hp]; rfl
    refine ⟨fun entries hperm => ?_, fun name a hname => ⟨?_, ?_⟩, fun r => ?_⟩
    · rw [amounts.foldl_apply_perm hperm, effective, hlimits]
    · exact effective_congr ((amounts.limits_insert a hname).trans hlimits.symm) rfl
    · exact effective_congr ((amounts.limits_erase hname).trans hlimits.symm) rfl
    · rw [Profile.constraints, Limits.exists_mem_toList, Profile.amount?_limits]
      exact Iff.rfl

/-- A configuration whose user gives an amount that constraints override twice, one that they leave
alone, and one under a name that is no display name. -/
def overriddenTwice : Config :=
  ⟨some "batch",
    some (.custom (Table.ofList [("memory.max", 256), ("gpu.max", 1), ("io.max", 10000)])),
    [⟨.memory, 1024⟩, ⟨.pids, 16⟩, ⟨.memory, 2048⟩]⟩

/-- The last override counts, and the amount under the other name may be left out. -/
theorem effective_merge_overriddenTwice :
    ((⟨.memory, 2048⟩ : Constraint) ∈ overriddenTwice.effective.toList ∧
      (⟨.ioTime, 10000⟩ : Constraint) ∈ overriddenTwice.effective.toList) ∧
    (([("io.max", 10000), ("gpu.max", 1), ("memory.max", 256)].foldl CustomAmounts.apply
      Table.empty).setAll overriddenTwice.constraints) = overriddenTwice.effective ∧
    (overriddenTwice.withProfile
      (.custom ((Table.ofList [("memory.max", 256), ("gpu.max", 1), ("io.max", 10000)]).erase
        "gpu.max"))).effective = overriddenTwice.effective := by
  obtain ⟨-, -, hmem, hcustom, -⟩ := effective_merge overriddenTwice
  obtain ⟨hperm, hnames, -⟩ := hcustom _ rfl
  refine ⟨⟨(hmem _).mpr (by decide), (hmem _).mpr (by decide)⟩, hperm _ (by decide), ?_⟩
  exact (hnames "gpu.max" 0 (fun r => by cases r <;> decide)).2

end Config

end ResourceContainers
