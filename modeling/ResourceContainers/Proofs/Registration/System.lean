import ResourceContainers.Inheritance
import ResourceContainers.Proofs.PoolEffects
import ResourceContainers.Proofs.Registration.Entries

/-!
# Threads that create, drop and list containers

To create a container a thread reserves an identity, builds the container, counts the registration
and makes the entry.  Between any two of these steps other threads create containers of their own,
in the same registry or in others, let go of handles, sweep, prune and look around.

* `System`: the pool, the registries, the creations that are under way, and whoever holds on to a
  container.
* `System.alive`: somebody holds on to a container.
* `System.Route`: the ways to get handles.
* `System.Step`, `Run`: what a thread can do at once, and what any threads do one after the other.
* `Step.frame_or`: which steps do more than change who holds on to what.

## Addresses

Two handles are equal if the containers that they point to have the same address.  The place of a
container in the pool is not its address: it is never used again, and an address is, as soon as
nobody holds on to the container and no registry has an entry for it.  So `System.address` says
where each container lies, and a container may be built wherever no other one is in the way.
-/

namespace ResourceContainers

namespace Registration

/-! ## The system -/

/-- How far the creation of a container has come.  The identity is reserved, the container is built,
and the registration is counted, so that it is known whether it is one that sweeps. -/
inductive CreationStage
  | reserved
  | built
  | counted (sweeps : Bool)

/-- A container that is being created. -/
structure Creation where
  place : Nat
  registry : Nat
  stage : CreationStage

/-- All there is: containers, registries and creations, the bindings of all threads, every other
value that holds on to a container (handles, guards of runs, and tasks), and where the container at
a place lies, or lay. -/
structure System where
  pool : Pool
  registries : List Registry
  creations : List Creation
  slots : List Slot
  held : List Handle
  address : Nat → Nat

/-- What is remembered of a step.  An identity is reserved for the container at a place, the
container is entered into a registry, and a registry has no longer an entry for it, because it
swept. -/
inductive Event
  | reserved (id : UInt64) (n : Nat)
  | registered (registry : Nat) (id : UInt64) (n : Nat)
  | takenOut (registry : Nat) (n : Nat)
  deriving DecidableEq

/-- The identities that were reserved, the last one first. -/
def reservations (es : List Event) : List UInt64 :=
  es.filterMap fun
    | .reserved id _ => some id
    | _ => none

/-- The places that were entered into any registry, the last one first. -/
def registrations (es : List Event) : List Nat :=
  es.filterMap fun
    | .registered _ _ n => some n
    | _ => none

/-- The place that was entered last into a registry under an identity. -/
def lastUnder (k : Nat) (id : UInt64) (es : List Event) : Option Nat :=
  es.findSome? fun
    | .registered k' id' n => if k' = k ∧ id' = id then some n else none
    | _ => none

namespace System

def start : System := ⟨Pool.empty, [], [], [.fresh], [], fun _ => 0⟩

variable (s : System)

/-- Whether something holds on to the container at a place. -/
def alive (n : Nat) : Bool :=
  s.held.contains (.managed n) || s.slots.any (·.current == .managed n) ||
    s.creations.any (·.place == n)

/-- Something holds on to the container at a place that is not the thread that creates it. -/
def Shared (n : Nat) : Prop :=
  .managed n ∈ s.held ∨ ∃ slot ∈ s.slots, slot.current = .managed n

/-- The container at a place is not built yet. -/
def Unbuilt (n : Nat) : Prop := ∃ k, ⟨n, k, .reserved⟩ ∈ s.creations

/-- Something holds on to the container at a place, or a registry has an entry for it. -/
def Referenced (n : Nat) : Prop :=
  s.alive n = true ∨ ∃ r ∈ s.registries, n ∈ r.entries.values

/-- The container at a place lies somewhere. -/
def Allocated (n : Nat) : Prop := s.Referenced n ∧ ¬ s.Unbuilt n

/-- Whether two handles are on the same container, as far as addresses tell. -/
def same : Handle → Handle → Bool
  | .root, .root => true
  | .managed m, .managed n => s.address m == s.address n
  | _, _ => false

/-- The ways to get handles: from root, by cloning one, from a binding, by inheritance, and from a
registry. -/
inductive Route : List Handle → Prop
  | root : Route [.root]
  | clone {h : Handle} (hh : h ∈ s.held) : Route [h]
  | current {slot : Slot} (hslot : slot ∈ s.slots) : Route [slot.current]
  | inherited {slot : Slot} (hslot : slot ∈ s.slots) (child : Child) :
      Route [inherited s.pool slot child]
  | got {r : Registry} (hr : r ∈ s.registries) {id : UInt64} {h : Handle}
      (hget : r.get? s.alive id = some h) : Route [h]
  | listed {r : Registry} (hr : r ∈ s.registries) : Route (r.containers s.alive)

/-- A container of the registry `k` gets a place and an identity. -/
def reserve (k : Nat) (c : Config) (m : Meter) : System :=
  { s with
    pool := (s.pool.create c m).1
    creations := ⟨s.pool.containers.size, k, .reserved⟩ :: s.creations }

/-- The container at the place `n` is entered into the registry `r`, which has the number `k`, and
is given to whoever wanted it. -/
def enter (creations : List Creation) (k : Nat) (r : Registry) (sweeps : Bool) (n : Nat) : System :=
  { s with
    registries := s.registries.set k (r.enter s.alive sweeps (s.pool.id (.managed n)) n)
    creations := creations
    held := .managed n :: s.held }

/-- The registry `r`, which has the number `k`, is pruned. -/
def prune (k : Nat) (r : Registry) : System :=
  { s with registries := s.registries.set k (r.prune s.alive).1 }

/-- What is remembered of it that an entry is made. -/
def enterEvents (k : Nat) (r : Registry) (sweeps : Bool) (n : Nat) : List Event :=
  .registered k (s.pool.id (.managed n)) n :: (r.takenOut s.alive sweeps).map (.takenOut k)

/-- What a thread can do at once, with what is remembered of it, the last first.

A container is created in four steps, and is built where no other one lies.  Handles are got by a
route and let go, and a thread is bound to a container that something holds on to.  A registry is
made or pruned.  Meanwhile containers are entered and left, destroyed, limited and metered. -/
inductive Step : List Event → System → Prop
  | opened : Step [] { s with registries := s.registries ++ [.empty] }
  | reserved {k : Nat} (hk : k < s.registries.length) (c : Config) (m : Meter) :
      Step [.reserved s.pool.nextId s.pool.containers.size] (s.reserve k c m)
  | built {before behind : List Creation} {n k a : Nat}
      (hc : s.creations = before ++ ⟨n, k, .reserved⟩ :: behind)
      (ha : ∀ m, s.Allocated m → s.address m ≠ a) :
      Step []
        { s with
          creations := before ++ ⟨n, k, .built⟩ :: behind
          address := fun m => if m = n then a else s.address m }
  | counted {before behind : List Creation} {n k : Nat} {r : Registry}
      (hc : s.creations = before ++ ⟨n, k, .built⟩ :: behind) (hr : s.registries[k]? = some r) :
      Step []
        { s with
          registries := s.registries.set k r.counted
          creations := before ++ ⟨n, k, .counted r.counted.isSweeping⟩ :: behind }
  | registered {before behind : List Creation} {n k : Nat} {sweeps : Bool} {r : Registry}
      (hc : s.creations = before ++ ⟨n, k, .counted sweeps⟩ :: behind)
      (hr : s.registries[k]? = some r) :
      Step (s.enterEvents k r sweeps n) (s.enter (before ++ behind) k r sweeps n)
  | obtained {hs : List Handle} (h : s.Route hs) : Step [] { s with held := hs ++ s.held }
  | dropped {before behind : List Handle} {h : Handle} (hh : s.held = before ++ h :: behind) :
      Step [] { s with held := before ++ behind }
  | bound {k : Nat} {slot : Slot} {h : Handle} (hslot : s.slots[k]? = some slot)
      (hh : h = .root ∨ h ∈ s.held) : Step [] { s with slots := s.slots.set k (slot.bind h) }
  | startedThread : Step [] { s with slots := s.slots ++ [.fresh] }
  | endedThread (k : Nat) : Step [] { s with slots := s.slots.set k .gone }
  | pruned {k : Nat} {r : Registry} (hr : s.registries[k]? = some r) :
      Step ((r.dead s.alive).map (.takenOut k)) (s.prune k r)
  | changed {p : Pool} (h : s.pool.Change p) : Step [] { s with pool := p }

end System

/-- `Run es s`: steps of any threads lead to `s`, and `es` is remembered of them. -/
inductive Run : List Event → System → Prop
  | nil : Run [] .start
  | cons {es new : List Event} {s s' : System} (h : Run es s) (hs : s.Step new s') :
      Run (new ++ es) s'

/-! ## Who holds on to what -/

namespace System

variable {s s' : System} {new : List Event}

theorem alive_iff {n : Nat} :
    s.alive n = true ↔ s.Shared n ∨ n ∈ s.creations.map Creation.place := by
  simp [alive, Shared]

/-- What is got is shared already, or a registry lists it. -/
theorem Route.source {hs : List Handle} (h : s.Route hs) {n : Nat} (hn : .managed n ∈ hs) :
    s.Shared n ∨ ∃ r ∈ s.registries, n ∈ r.listed s.alive := by
  cases h with
  | root => exact absurd hn (by simp)
  | clone hh =>
    obtain rfl := List.mem_singleton.mp hn
    exact .inl (.inl hh)
  | @current slot hslot => exact .inl (.inr ⟨slot, hslot, (List.mem_singleton.mp hn).symm⟩)
  | @inherited slot hslot child =>
    have hplace := List.mem_singleton.mp hn
    rcases inherited_eq s.pool slot child with hsame | hroot
    · exact .inl (.inr ⟨slot, hslot, hsame.symm.trans hplace.symm⟩)
    · rw [hroot] at hplace
      exact absurd hplace (by simp)
  | @got r hr id h hget =>
    obtain rfl := List.mem_singleton.mp hn
    by_cases hid : id = 0
    · simp [Registry.get?, hid] at hget
    · obtain ⟨m, hm, hentry, halive⟩ := (Registry.get?_managed_iff hid).mp hget
      obtain rfl := Handle.managed.inj hm
      exact .inr ⟨r, hr, Registry.mem_listed.mpr ⟨⟨id, hentry⟩, halive⟩⟩
  | @listed r hr => exact .inr ⟨r, hr, Registry.managed_mem_containers.mp hn⟩

theorem Route.alive {hs : List Handle} (h : s.Route hs) {n : Nat} (hn : .managed n ∈ hs) :
    s.alive n = true := by
  rcases h.source hn with hshared | ⟨r, -, hlisted⟩
  · exact alive_iff.mpr (.inl hshared)
  · exact (Registry.mem_listed.mp hlisted).2

/-- From `s` to `s'` nothing has happened but that other values hold on to containers, that the
containers were changed, that registries were opened or that a creation has come further. -/
structure Frame (s s' : System) : Prop where
  pool : s.pool.SameIds s'.pool
  places : s'.creations.map Creation.place = s.creations.map Creation.place
  shared : ∀ n, s'.Shared n → s.Shared n ∨ ∃ r ∈ s.registries, n ∈ r.listed s.alive
  registries : ∀ k r', s'.registries[k]? = some r' →
    (∃ r, s.registries[k]? = some r ∧ r'.entries = r.entries) ∨
      (s.registries.length ≤ k ∧ r'.entries = Table.empty)
  length : s.registries.length ≤ s'.registries.length

theorem Frame.alive (h : s.Frame s') (n : Nat) (hn : s'.alive n = true) : s.alive n = true := by
  rcases alive_iff.mp hn with hshared | hplace
  · rcases h.shared n hshared with hold | ⟨r, -, hlisted⟩
    · exact alive_iff.mpr (.inl hold)
    · exact (Registry.mem_listed.mp hlisted).2
  · exact alive_iff.mpr (.inr (h.places ▸ hplace))

/-- A step that leaves the registries alone. -/
theorem frame_of_registries (hpool : s.pool.SameIds s'.pool)
    (hplaces : s'.creations.map Creation.place = s.creations.map Creation.place)
    (hshared : ∀ n, s'.Shared n → s.Shared n ∨ ∃ r ∈ s.registries, n ∈ r.listed s.alive)
    (hr : s'.registries = s.registries) : s.Frame s' where
  pool := hpool
  places := hplaces
  shared := hshared
  registries _ r' h := .inl ⟨r', hr ▸ h, rfl⟩
  length := Nat.le_of_eq (congrArg List.length hr.symm)

/-- A step that changes only what holds on to containers. -/
theorem frame_of_holders {slots : List Slot} {held : List Handle}
    (hshared : ∀ n, (.managed n ∈ held ∨ ∃ slot ∈ slots, slot.current = .managed n) →
      s.Shared n ∨ ∃ r ∈ s.registries, n ∈ r.listed s.alive) :
    s.Frame { s with slots := slots, held := held } :=
  frame_of_registries (.refl _) rfl hshared rfl

theorem exists_of_mem_set {slots : List Slot} {k : Nat} {slot slot' : Slot} {h : Handle}
    (hmem : slot' ∈ slots.set k slot) (h' : slot'.current = h) :
    slot.current = h ∨ ∃ slot ∈ slots, slot.current = h := by
  rcases List.mem_or_eq_of_mem_set hmem with hold | rfl
  · exact .inr ⟨slot', hold, h'⟩
  · exact .inl h'

/-- **What a step can do.**  It reserves an identity, makes an entry or prunes, or all that it does
is in `Frame`, and nothing is remembered of it. -/
theorem Step.frame_or (h : s.Step new s') :
    (new = [] ∧ s.Frame s') ∨
      (∃ k c m, new = [.reserved s.pool.nextId s.pool.containers.size] ∧ s' = s.reserve k c m) ∨
      (∃ before behind n k sweeps r, s.creations = before ++ ⟨n, k, .counted sweeps⟩ :: behind ∧
        s.registries[k]? = some r ∧ new = s.enterEvents k r sweeps n ∧
        s' = s.enter (before ++ behind) k r sweeps n) ∨
      (∃ k r, s.registries[k]? = some r ∧ new = (r.dead s.alive).map (.takenOut k) ∧
        s' = s.prune k r) := by
  cases h with
  | opened =>
    refine .inl ⟨rfl, .refl _, rfl, fun _ => .inl, fun k r' hr' => ?_, by simp⟩
    by_cases hk : k < s.registries.length
    · rw [List.getElem?_append_left hk] at hr'
      exact .inl ⟨r', hr', rfl⟩
    · have hlast : (s.registries ++ [Registry.empty])[k]? =
          [Registry.empty][k - s.registries.length]? :=
        List.getElem?_append_right (Nat.le_of_not_lt hk)
      rw [hlast] at hr'
      obtain rfl := List.mem_singleton.mp (List.mem_of_getElem? hr')
      exact .inr ⟨Nat.le_of_not_lt hk, rfl⟩
  | reserved hk c m => exact .inr (.inl ⟨_, c, m, rfl, rfl⟩)
  | built hc ha =>
    have hplaces := congrArg (List.map Creation.place) hc
    refine .inl ⟨rfl, frame_of_registries (.refl _) ?_ (fun _ => .inl) rfl⟩
    simpa using hplaces.symm
  | @counted before behind n k r hc hr =>
    have hplaces := congrArg (List.map Creation.place) hc
    refine .inl ⟨rfl, .refl _, ?_, fun _ => .inl, fun k' r' hr' => .inl ?_, by simp⟩
    · simpa using hplaces.symm
    · by_cases hk : k = k'
      · subst hk
        rw [List.getElem?_set_self (List.getElem?_eq_some_iff.mp hr).1] at hr'
        obtain rfl := Option.some.inj hr'
        exact ⟨r, hr, rfl⟩
      · rw [List.getElem?_set_ne hk] at hr'
        exact ⟨r', hr', rfl⟩
  | registered hc hr => exact .inr (.inr (.inl ⟨_, _, _, _, _, _, hc, hr, rfl, rfl⟩))
  | obtained hroute =>
    refine .inl ⟨rfl, frame_of_holders fun n hn => ?_⟩
    rcases hn with hn | hn
    · exact (List.mem_append.mp hn).elim hroute.source fun hold => .inl (.inl hold)
    · exact .inl (.inr hn)
  | dropped hh =>
    refine .inl ⟨rfl, frame_of_holders fun n hn => .inl (hn.imp_left fun hn => hh ▸ ?_)⟩
    simp only [List.mem_append, List.mem_cons] at hn ⊢
    exact hn.imp_right .inr
  | @bound k slot h hslot hh =>
    refine .inl ⟨rfl, frame_of_holders fun n hn => .inl ?_⟩
    rcases hn with hn | ⟨slot', hmem, hcur⟩
    · exact .inl hn
    · rcases exists_of_mem_set hmem hcur with hnew | hold
      · cases slot with
        | gone => exact absurd hnew (by simp [Slot.bind, Slot.current])
        | bound h' =>
          obtain rfl : h = .managed n := hnew
          exact .inl (hh.resolve_left (by simp))
      · exact .inr hold
  | startedThread =>
    refine .inl ⟨rfl, frame_of_holders fun n hn => .inl ?_⟩
    rcases hn with hn | ⟨slot', hmem, hcur⟩
    · exact .inl hn
    · rcases List.mem_append.mp hmem with hold | hnew
      · exact .inr ⟨slot', hold, hcur⟩
      · obtain rfl := List.mem_singleton.mp hnew
        exact absurd hcur (by simp [Slot.fresh, Slot.current])
  | endedThread k =>
    refine .inl ⟨rfl, frame_of_holders fun n hn => .inl ?_⟩
    rcases hn with hn | ⟨slot', hmem, hcur⟩
    · exact .inl hn
    · exact .inr ((exists_of_mem_set hmem hcur).resolve_left (by simp [Slot.current]))
  | pruned hr => exact .inr (.inr (.inr ⟨_, _, hr, rfl, rfl⟩))
  | changed hp => exact .inl ⟨rfl, frame_of_registries hp.sameIds rfl (fun _ => .inl) rfl⟩

/-- The only container that comes to life is the one that is reserved. -/
theorem alive_reserve {k : Nat} {c : Config} {m : Meter} {n : Nat}
    (h : (s.reserve k c m).alive n = true) : n = s.pool.containers.size ∨ s.alive n = true := by
  rcases alive_iff.mp h with hshared | hplace
  · exact .inr (alive_iff.mpr (.inl hshared))
  · exact (List.mem_cons.mp hplace).imp_right fun h => alive_iff.mpr (.inr h)

/-- What is shared once a container was entered: that container, and what was shared before. -/
theorem shared_enter {rest : List Creation} {k n m : Nat} {r : Registry} {sweeps : Bool}
    (h : (s.enter rest k r sweeps n).Shared m) : m = n ∨ s.Shared m := by
  rcases h with hheld | hslot
  · exact (List.mem_cons.mp hheld).imp Handle.managed.inj .inl
  · exact .inr (.inr hslot)

theorem mem_places_of_rest {before behind : List Creation} {c : Creation}
    (hc : s.creations = before ++ c :: behind) {n : Nat}
    (hn : n ∈ (before ++ behind).map Creation.place) : n ∈ s.creations.map Creation.place := by
  rw [hc]
  simp only [List.map_append, List.map_cons, List.mem_append, List.mem_cons] at hn ⊢
  exact hn.imp_right .inr

/-- A container that is entered was held by its creation, and now by whoever wanted it. -/
theorem alive_enter {before behind : List Creation} {c : Creation}
    (hc : s.creations = before ++ c :: behind) {k : Nat} {r : Registry} {sweeps : Bool} {n : Nat}
    (h : (s.enter (before ++ behind) k r sweeps c.place).alive n = true) : s.alive n = true := by
  rcases alive_iff.mp h with hshared | hplace
  · rcases shared_enter hshared with rfl | hold
    · exact alive_iff.mpr (.inr (by simp [hc]))
    · exact alive_iff.mpr (.inl hold)
  · exact alive_iff.mpr (.inr (mem_places_of_rest hc hplace))

end System

end Registration

end ResourceContainers
