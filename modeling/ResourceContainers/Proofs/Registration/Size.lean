import Mathlib.Data.List.Perm.Subperm
import ResourceContainers.Proofs.Registration.Enumeration

/-!
# How large a registry gets

A registry does not notice that nobody holds on to a container any more.  The entry stays until the
registry sweeps, which it does by itself every `sweepInterval` registrations.  So it has more
entries than there are containers, but not many more.

* `System.living`: the containers of a registry that something holds on to.
* `System.Modest`, `RunWithin`: containers are created one after the other, and few live at a time.
* `Step.registry_cases`: what a step does to one registry.
* `System.Fill`: how many entries a registry has, by the number of its registrations.
* `size_le_sweepInterval_add`: the main statement.

## Where the bound comes from

A registration that sweeps leaves the entries of the living and makes one of its own.  The container
of that one is alive and had no entry, so afterwards there are no more entries than containers that
live at this moment.  Each registration that follows makes one entry more at most, and there are
`sweepInterval - 1` of them until the next one sweeps.  Nothing else makes entries.  Root is listed
on top of all this, and no smaller bound will do (`exists_deserted`).
-/

namespace ResourceContainers.Registration

/-- The places that were entered into the registry `k`, the last one first. -/
def entered (k : Nat) (es : List Event) : List Nat :=
  es.filterMap fun
    | .registered k' _ n => if k' = k then some n else none
    | _ => none

section

variable {es : List Event} {k n : Nat}

theorem mem_entered : n ∈ entered k es ↔ ∃ id, .registered k id n ∈ es := by
  simp only [entered, List.mem_filterMap]
  constructor
  · rintro ⟨e, he, hn⟩
    cases e with
    | registered k' id m =>
      simp only [Option.ite_none_right_eq_some, Option.some.injEq] at hn
      obtain ⟨rfl, rfl⟩ := hn
      exact ⟨id, he⟩
    | _ => exact absurd hn (by simp)
  · rintro ⟨id, he⟩
    exact ⟨_, he, if_pos rfl⟩

theorem entered_cons_registered {k' : Nat} {id : UInt64} :
    entered k (.registered k' id n :: es) =
      if k' = k then n :: entered k es else entered k es := by
  by_cases hk : k' = k <;> simp [entered, hk]

theorem entered_sublist (k : Nat) (es : List Event) :
    (entered k es).Sublist (registrations es) := by
  induction es with
  | nil => exact .slnil
  | cons e es ih =>
    cases e with
    | registered k' id n =>
      rw [entered_cons_registered]
      split
      · exact ih.cons_cons n
      · exact ih.cons n
    | _ => exact ih

end

namespace System

variable (s : System)

/-- The containers that are being created in the registry `k`. -/
def creationsIn (k : Nat) : List Creation := s.creations.filter (·.registry = k)

/-- The places of all containers of the registry `k`. -/
def members (es : List Event) (k : Nat) : List Nat :=
  (s.creationsIn k).map Creation.place ++ entered k es

/-- The places of those containers of the registry `k` that something holds on to. -/
def living (es : List Event) (k : Nat) : List Nat := (s.members es k).filter s.alive

/-- In the registry `k` at most one container is being created, and at most `M` of its containers
are alive. -/
structure Modest (k M : Nat) (es : List Event) : Prop where
  creations : (s.creationsIn k).length ≤ 1
  living : (s.living es k).length ≤ M

/-- The registration of the container at the place `n` is counted in the registry `k`, and its entry
is not made yet. -/
def Counted (k n : Nat) (sweeps : Bool) : Prop := ⟨n, k, .counted sweeps⟩ ∈ s.creations

/-- Every registration that is counted in the registry `k` has made its entry. -/
def Settled (k : Nat) : Prop := ∀ n sweeps, ¬ s.Counted k n sweeps

end System

/-- `RunWithin P es s`: steps of any threads lead to `s`, `es` is remembered of them, and `P` holds
at every moment. -/
inductive RunWithin (P : List Event → System → Prop) : List Event → System → Prop
  | nil (h : P [] .start) : RunWithin P [] .start
  | cons {es new : List Event} {s s' : System} (h : RunWithin P es s) (hs : s.Step new s')
      (hP : P (new ++ es) s') : RunWithin P (new ++ es) s'

namespace RunWithin

variable {P : List Event → System → Prop} {es : List Event} {s : System}

theorem run (h : RunWithin P es s) : Run es s := by
  induction h with
  | nil _ => exact .nil
  | cons _ hs _ ih => exact ih.cons hs

theorem now (h : RunWithin P es s) : P es s := by
  cases h with
  | nil h => exact h
  | cons _ _ hP => exact hP

end RunWithin

/-! ## The containers of a registry -/

namespace Sound

variable {es : List Event} {s : System} {k n : Nat} {r : Registry}

/-- **Every container is counted once.** -/
theorem nodup_living (hs : Sound es s) (k : Nat) : (s.living es k).Nodup := by
  refine List.Nodup.filter _ (List.nodup_append'.mpr ⟨?_, ?_, fun n hn hentered => ?_⟩)
  · exact hs.creating.sublist (List.filter_sublist.map _)
  · exact hs.once.sublist (entered_sublist k es)
  · -- what is still being created was not entered
    obtain ⟨id, he⟩ := mem_entered.mp hentered
    have hplace : n ∈ s.creations.map Creation.place := (List.filter_sublist.map _).subset hn
    exact hs.unregistered n hplace (mem_registrations.mpr ⟨k, id, he⟩)

/-- What a registry lists are living containers of it. -/
theorem mem_living_of_listed (hs : Sound es s) (hr : s.registries[k]? = some r)
    (hn : n ∈ r.listed s.alive) : n ∈ s.living es k ∧ n ∈ registrations es := by
  obtain ⟨⟨id, hget⟩, halive⟩ := Registry.mem_listed.mp hn
  have he := mem_of_lastUnder ((hs.entries k r hr id n).mp hget).1
  have hmember : n ∈ s.members es k := List.mem_append_right _ (mem_entered.mpr ⟨id, he⟩)
  exact ⟨List.mem_filter.mpr ⟨hmember, halive⟩, mem_registrations.mpr ⟨k, id, he⟩⟩

/-- **A container that is being created comes on top of all that are listed.** -/
theorem length_listed_lt (hs : Sound es s) (hr : s.registries[k]? = some r) {c : Creation}
    (hc : c ∈ s.creationsIn k) : (r.listed s.alive).length < (s.living es k).length := by
  have hplace : c.place ∈ s.creations.map Creation.place :=
    List.mem_map_of_mem (List.mem_of_mem_filter hc)
  have hunlisted : c.place ∉ r.listed s.alive := fun h =>
    hs.unregistered c.place hplace (hs.mem_living_of_listed hr h).2
  have hnodup : (c.place :: r.listed s.alive).Nodup :=
    List.nodup_cons.mpr ⟨hunlisted, (hs.nodup_values hr).filter _⟩
  have hsubset : c.place :: r.listed s.alive ⊆ s.living es k := by
    refine List.cons_subset.mpr ⟨List.mem_filter.mpr ⟨?_, ?_⟩, fun n hn => ?_⟩
    · exact List.mem_append_left _ (List.mem_map_of_mem hc)
    · exact System.alive_iff.mpr (.inr hplace)
    · exact (hs.mem_living_of_listed hr hn).1
  exact (List.subperm_of_subset hnodup hsubset).length_le

end Sound

namespace System

variable {s s' : System} {new : List Event} {k : Nat}

theorem Step.registry_lt (h : s.Step new s')
    (hc : ∀ c ∈ s.creations, c.registry < s.registries.length) :
    ∀ c ∈ s'.creations, c.registry < s'.registries.length := by
  cases h with
  | opened =>
    intro c hmem
    rw [List.length_append]
    exact Nat.lt_add_right _ (hc c hmem)
  | reserved hk =>
    exact List.forall_mem_cons.mpr ⟨hk, hc⟩
  | built hcreations =>
    rw [hcreations] at hc
    simp only [List.forall_mem_append, List.forall_mem_cons] at hc ⊢
    exact hc
  | counted hcreations =>
    rw [hcreations] at hc
    simp only [List.forall_mem_append, List.forall_mem_cons, List.length_set] at hc ⊢
    exact hc
  | registered hcreations =>
    rw [hcreations] at hc
    simp only [enter, List.forall_mem_append, List.forall_mem_cons, List.length_set] at hc ⊢
    exact ⟨hc.1, hc.2.2⟩
  | pruned hr =>
    simp only [prune, List.length_set]
    exact hc
  | _ => exact hc

/-- **What a step does to a registry.**  It leaves the registry alone or takes entries out of it, or
it makes the registry, counts a registration in it, or makes an entry. -/
theorem Step.registry_cases (h : s.Step new s')
    (hc : ∀ c ∈ s.creations, c.registry < s.registries.length) {r' : Registry}
    (hr' : s'.registries[k]? = some r') :
    (∃ r, s.registries[k]? = some r ∧ r'.registrations = r.registrations ∧
      r'.entries.size ≤ r.entries.size ∧ ∀ n sweeps, s'.Counted k n sweeps ↔ s.Counted k n sweeps) ∨
    (r' = .empty ∧ s'.Settled k) ∨
    (∃ before behind n r, s.creations = before ++ ⟨n, k, .built⟩ :: behind ∧
      s.registries[k]? = some r ∧ r' = r.counted ∧
      s'.creations = before ++ ⟨n, k, .counted r.counted.isSweeping⟩ :: behind) ∨
    (∃ before behind n sweeps r, s.creations = before ++ ⟨n, k, .counted sweeps⟩ :: behind ∧
      s.registries[k]? = some r ∧ r' = r.enter s.alive sweeps (s.pool.id (.managed n)) n ∧
      s'.creations = before ++ behind) := by
  cases h with
  | opened =>
    by_cases hk : k < s.registries.length
    · rw [List.getElem?_append_left hk] at hr'
      exact .inl ⟨r', hr', rfl, Nat.le_refl _, fun _ _ => Iff.rfl⟩
    · rw [List.getElem?_append_right (Nat.le_of_not_lt hk)] at hr'
      refine .inr (.inl ⟨List.mem_singleton.mp (List.mem_of_getElem? hr'), fun n sweeps hmem => ?_⟩)
      exact hk (hc _ hmem)
  | reserved hk c m =>
    refine .inl ⟨r', hr', rfl, Nat.le_refl _, fun n sweeps => ?_⟩
    simp [Counted, reserve]
  | built hcreations =>
    refine .inl ⟨r', hr', rfl, Nat.le_refl _, fun n sweeps => ?_⟩
    simp [Counted, hcreations]
  | @counted before behind n k' r hcreations hr =>
    by_cases hk : k' = k
    · subst hk
      rw [List.getElem?_set_self (List.getElem?_eq_some_iff.mp hr).1] at hr'
      obtain rfl := Option.some.inj hr'
      exact .inr (.inr (.inl ⟨before, behind, n, r, hcreations, hr, rfl, rfl⟩))
    · rw [List.getElem?_set_ne hk] at hr'
      refine .inl ⟨r', hr', rfl, Nat.le_refl _, fun n sweeps => ?_⟩
      simp [Counted, hcreations, Ne.symm hk]
  | @registered before behind n k' sweeps r hcreations hr =>
    by_cases hk : k' = k
    · subst hk
      rw [enter, List.getElem?_set_self (List.getElem?_eq_some_iff.mp hr).1] at hr'
      obtain rfl := Option.some.inj hr'
      exact .inr (.inr (.inr ⟨before, behind, n, sweeps, r, hcreations, hr, rfl, rfl⟩))
    · rw [enter, List.getElem?_set_ne hk] at hr'
      refine .inl ⟨r', hr', rfl, Nat.le_refl _, fun n sweeps => ?_⟩
      simp [Counted, enter, hcreations, Ne.symm hk]
  | @pruned k' r hr =>
    by_cases hk : k' = k
    · subst hk
      rw [prune, List.getElem?_set_self (List.getElem?_eq_some_iff.mp hr).1] at hr'
      obtain rfl := Option.some.inj hr'
      exact .inl ⟨r, hr, rfl, Registry.size_entries_sweep_le, fun _ _ => Iff.rfl⟩
    · rw [prune, List.getElem?_set_ne hk] at hr'
      exact .inl ⟨r', hr', rfl, Nat.le_refl _, fun _ _ => Iff.rfl⟩
  | _ => exact .inl ⟨r', hr', rfl, Nat.le_refl _, fun _ _ => Iff.rfl⟩

theorem Modest.rest_eq {M : Nat} {es : List Event} (h : s.Modest k M es)
    {before behind : List Creation} {c : Creation} (hc : s.creations = before ++ c :: behind)
    (hk : c.registry = k) : ∀ c' ∈ before ++ behind, c'.registry ≠ k := by
  have hone := h.creations
  rw [creationsIn, hc, List.filter_append, List.filter_cons_of_pos (by simpa using hk),
    List.length_append, List.length_cons] at hone
  have hnone : (before ++ behind).filter (·.registry = k) = [] := by
    rw [List.filter_append, ← List.length_eq_zero_iff, List.length_append]
    omega
  simpa using List.filter_eq_nil_iff.mp hnone

/-! ## Entries by registrations -/

/-- How many entries the registry `k` has, if `M` of its containers may live.  Once every entry is
made, there are at most `M` and one for each registration since the last sweep.  If one is still to
be made, there is room for it. -/
structure Fill (s : System) (k M : Nat) (r : Registry) : Prop where
  settled : s.Settled k → r.entries.size ≤ M + r.registrations % sweepInterval
  counted : ∀ n sweeps, s.Counted k n sweeps → sweeps = r.isSweeping ∧
    r.entries.size < M + if sweeps then sweepInterval else r.registrations % sweepInterval

variable {M : Nat} {r r' : Registry} {before behind : List Creation} {n : Nat} {es : List Event}

/-- Entries that are taken out leave room. -/
theorem Fill.keep (hf : s.Fill k M r) (hregistrations : r'.registrations = r.registrations)
    (hsize : r'.entries.size ≤ r.entries.size)
    (hcounted : ∀ n sweeps, s'.Counted k n sweeps ↔ s.Counted k n sweeps) : s'.Fill k M r' where
  settled h := by
    rw [hregistrations]
    exact Nat.le_trans hsize (hf.settled fun n sweeps hn => h n sweeps ((hcounted n sweeps).mpr hn))
  counted n sweeps h := by
    obtain ⟨hsweeps, hlt⟩ := hf.counted n sweeps ((hcounted n sweeps).mp h)
    rw [Registry.isSweeping, hregistrations]
    exact ⟨hsweeps, Nat.lt_of_le_of_lt hsize hlt⟩

theorem fill_empty (h : s.Settled k) : s.Fill k M .empty where
  settled _ := Nat.zero_le _
  counted n sweeps hn := absurd hn (h n sweeps)

/-- **Counting a registration** makes room for one entry, or is the sign to sweep. -/
theorem Fill.count (hf : s.Fill k M r) (hm : s.Modest k M es)
    (hc : s.creations = before ++ ⟨n, k, .built⟩ :: behind)
    (hc' : s'.creations = before ++ ⟨n, k, .counted r.counted.isSweeping⟩ :: behind) :
    s'.Fill k M r.counted := by
  have hrest := hm.rest_eq hc rfl
  have hsettled : s.Settled k := by
    intro m sweeps hmem
    rw [Counted, hc, List.mem_append, List.mem_cons] at hmem
    rcases hmem with hmem | hmem | hmem
    · exact hrest _ (List.mem_append_left _ hmem) rfl
    · exact absurd hmem (by simp)
    · exact hrest _ (List.mem_append_right _ hmem) rfl
  have hnew : s'.Counted k n r.counted.isSweeping := by simp [Counted, hc']
  refine ⟨fun h => absurd hnew (h n _), fun m sweeps hmem => ?_⟩
  rw [Counted, hc', List.mem_append, List.mem_cons] at hmem
  rcases hmem with hmem | hmem | hmem
  · exact absurd rfl (hrest _ (List.mem_append_left _ hmem))
  · obtain ⟨-, rfl⟩ : m = n ∧ sweeps = r.counted.isSweeping := by simpa using hmem
    have hsize : r.counted.entries.size ≤ M + r.registrations % sweepInterval := hf.settled hsettled
    refine ⟨rfl, ?_⟩
    simp only [Registry.isSweeping, Registry.counted, sweepInterval, beq_iff_eq] at hsize ⊢
    split <;> omega
  · exact absurd rfl (hrest _ (List.mem_append_right _ hmem))

/-- **Making an entry** takes the room that there is for it, or the place of what was swept out. -/
theorem Fill.enter (hf : s.Fill k M r) (hs : Sound es s) (hm : s.Modest k M es)
    (hr : s.registries[k]? = some r) {sweeps : Bool}
    (hc : s.creations = before ++ ⟨n, k, .counted sweeps⟩ :: behind)
    (hc' : s'.creations = before ++ behind) (id : UInt64) :
    s'.Fill k M (r.enter s.alive sweeps id n) := by
  have hrest := hm.rest_eq hc rfl
  have hsettled : s'.Settled k := by
    intro m b hmem
    rw [Counted, hc'] at hmem
    exact hrest _ hmem rfl
  refine ⟨fun _ => ?_, fun m b h => absurd h (hsettled m b)⟩
  have hcreation : (⟨n, k, .counted sweeps⟩ : Creation) ∈ s.creations := by simp [hc]
  obtain ⟨hsweeps, hroom⟩ := hf.counted n sweeps hcreation
  have hlisted : (r.listed s.alive).length < M :=
    Nat.lt_of_lt_of_le (hs.length_listed_lt hr (List.mem_filter.mpr ⟨hcreation, by simp⟩)) hm.living
  have hsize := @Registry.size_entries_enter_le r s.alive sweeps id n
  rw [Registry.registrations_enter]
  cases sweeps with
  | true =>
    simp only [if_true] at hsize
    omega
  | false =>
    simp only [Bool.false_eq_true, if_false] at hsize hroom
    omega

/-- **No step makes more entries than there is room for.** -/
theorem Fill.step (hs : Sound es s) (hm : s.Modest k M es)
    (hc : ∀ c ∈ s.creations, c.registry < s.registries.length)
    (hf : ∀ r, s.registries[k]? = some r → s.Fill k M r) (h : s.Step new s')
    (hr' : s'.registries[k]? = some r') : s'.Fill k M r' := by
  rcases h.registry_cases hc hr' with ⟨r, hr, hregistrations, hsize, hcounted⟩ |
    ⟨rfl, hsettled⟩ | ⟨before, behind, n, r, hcreations, hr, rfl, hcreations'⟩ |
    ⟨before, behind, n, sweeps, r, hcreations, hr, rfl, hcreations'⟩
  · exact (hf r hr).keep hregistrations hsize hcounted
  · exact fill_empty hsettled
  · exact (hf r hr).count hm hcreations hcreations'
  · exact (hf r hr).enter hs hm hr hcreations hcreations' _

end System

section

variable {es : List Event} {s : System} {k M : Nat} {r : Registry}

theorem Run.registry_lt (h : Run es s) : ∀ c ∈ s.creations, c.registry < s.registries.length := by
  induction h with
  | nil => simp [System.start]
  | cons _ hs ih => exact hs.registry_lt ih

theorem RunWithin.fill (h : RunWithin (fun es s => s.Modest k M es) es s)
    (hr : s.registries[k]? = some r) : s.Fill k M r := by
  induction h generalizing r with
  | nil _ => exact absurd hr (by simp [System.start])
  | cons h hs _ ih => exact System.Fill.step h.run.sound h.now h.run.registry_lt (fun _ => ih) hs hr

/-- **Stale entries stay few.**

Take a registry in which containers are created one after the other, and at most `M` of whose
containers are alive at any moment, the one that is being created included.  Other things happen in
any order, by any threads: handles are got and let go, registries are pruned, containers are created
in other registries.  Then the registry never says that it has more than `sweepInterval + M`
entries, root included, no matter how many containers were created in it. -/
theorem size_le_sweepInterval_add (h : RunWithin (fun es s => s.Modest k M es) es s)
    (hr : s.registries[k]? = some r) : r.size ≤ sweepInterval + M := by
  have hf := h.fill hr
  by_cases hsettled : s.Settled k
  · have hsize := hf.settled hsettled
    have hmod : r.registrations % sweepInterval < sweepInterval := Nat.mod_lt _ (by decide)
    rw [Registry.size]
    omega
  · simp only [System.Settled, not_forall, not_not] at hsettled
    obtain ⟨n, sweeps, hcounted⟩ := hsettled
    obtain ⟨-, hsize⟩ := hf.counted n sweeps hcounted
    have hmod : r.registrations % sweepInterval < sweepInterval := Nat.mod_lt _ (by decide)
    rw [Registry.size]
    split at hsize <;> omega

end

/-! ## Nobody keeps anything -/

/-- Nothing but the container at the place `n` lives, so nothing else is counted. -/
theorem RunWithin.cons_of_alive_imp {es new : List Event} {s s' : System} {n : Nat}
    (h : RunWithin (fun es s => s.Modest 0 1 es) es s) (hs : s.Step new s')
    (hcreations : s'.creations.length ≤ 1) (halive : ∀ m, s'.alive m = true → m = n) :
    RunWithin (fun es s => s.Modest 0 1 es) (new ++ es) s' := by
  refine h.cons hs ⟨Nat.le_trans (List.length_filter_le ..) hcreations, ?_⟩
  have hnodup := (h.run.cons hs).sound.nodup_living 0
  have hsubset : s'.living (new ++ es) 0 ⊆ [n] := fun m hm =>
    List.mem_singleton.mpr (halive m (List.mem_filter.mp hm).2)
  exact (List.subperm_of_subset hnodup hsubset).length_le

/-- What lives if one container at most is held on to. -/
theorem System.eq_of_alive {s : System} {n m : Nat} (hcreations : ∀ c ∈ s.creations, c.place = n)
    (hheld : ∀ h ∈ s.held, h = .managed n) (hslots : s.slots = [.fresh]) (h : s.alive m = true) :
    m = n := by
  rcases alive_iff.mp h with (hmem | ⟨slot, hslot, hcurrent⟩) | hplace
  · exact Handle.managed.inj (hheld _ hmem)
  · rw [hslots] at hslot
    obtain rfl := List.mem_singleton.mp hslot
    exact absurd hcurrent (by simp [Slot.fresh, Slot.current])
  · obtain ⟨c, hc, rfl⟩ := List.mem_map.mp hplace
    exact hcreations c hc

/-- In the only registry `n` containers were created, one after the other, and each was let go
before the next one. -/
structure Deserted (n : Nat) (es : List Event) (s : System) (r : Registry) : Prop where
  run : RunWithin (fun es s => s.Modest 0 1 es) es s
  registries : s.registries = [r]
  creations : s.creations = []
  held : s.held = []
  slots : s.slots = [.fresh]
  size : s.pool.containers.size = n
  registrations : r.registrations = n
  address : ∀ m, m < n → s.address m = m

theorem deserted_opened : Deserted 0 [] { System.start with registries := [.empty] } .empty where
  run := (RunWithin.nil ⟨Nat.zero_le _, Nat.zero_le _⟩).cons_of_alive_imp .opened (n := 0)
    (Nat.zero_le _) (fun m h => by simp [System.alive, System.start, Slot.fresh, Slot.current] at h)
  registries := rfl
  creations := rfl
  held := rfl
  slots := rfl
  size := rfl
  registrations := rfl
  address m hm := absurd hm (Nat.not_lt_zero m)

namespace Deserted

variable {es : List Event} {s : System} {n : Nat} {r : Registry}

/-- Every entry is that of a container that was created before. -/
theorem lt_of_entry (h : Deserted n es s r) {id : UInt64} {m : Nat}
    (hget : r.entries.get? id = some m) : m < n ∧ id = idAt m := by
  have hs := h.run.run.sound
  have hr : s.registries[0]? = some r := by rw [h.registries]; rfl
  have he := mem_of_lastUnder ((hs.entries 0 r hr id m).mp hget).1
  obtain ⟨hm, hid, -⟩ := hs.registered 0 id m he
  exact ⟨h.size ▸ hm, hid⟩

/-- The next container has an entry of its own.  If the registry sweeps, it is the only one. -/
theorem size_enter (h : Deserted n es s r) (hn : n + 1 < UInt64.size) {alive : Nat → Bool}
    (halive : ∀ m, alive m = true → m = n) :
    (r.counted.enter alive r.counted.isSweeping (idAt n) n).entries.size =
      (if (n + 1) % sweepInterval = 0 then 0 else r.entries.size) + 1 := by
  have hnew : r.entries.get? (idAt n) = none := by
    by_contra hsome
    obtain ⟨m, hm⟩ := Option.ne_none_iff_exists'.mp hsome
    obtain ⟨hlt, hid⟩ := h.lt_of_entry hm
    obtain rfl := idAt_inj hn (by omega) hid
    exact Nat.lt_irrefl _ hlt
  have hswept : (r.counted.sweep alive).entries = Table.empty := by
    refine Table.ext_get? fun id => Option.eq_none_iff_forall_ne_some.mpr fun m hget => ?_
    obtain ⟨hold, hdead⟩ := Registry.get?_sweep_eq_some.mp hget
    refine hdead (Registry.mem_dead.mpr ⟨⟨id, hold⟩, ?_⟩)
    by_contra hlive
    exact absurd (halive m (by simpa using hlive)) (Nat.ne_of_lt (h.lt_of_entry hold).1)
  have hsweeps : r.counted.isSweeping = decide ((n + 1) % sweepInterval = 0) := by
    rw [Registry.isSweeping, Registry.counted, h.registrations]
    rfl
  rw [hsweeps, Registry.enter]
  by_cases hmod : (n + 1) % sweepInterval = 0
  · simp only [hmod, decide_true, if_true, hswept]
    rfl
  · simp only [hmod, decide_false, Bool.false_eq_true, if_false]
    exact Table.size_insert_of_get?_eq_none _ _ hnew

theorem next (h : Deserted n es s r) (hn : n + 1 < UInt64.size) :
    ∃ es' s' r', Deserted (n + 1) es' s' r' ∧
      r'.entries.size = (if (n + 1) % sweepInterval = 0 then 0 else r.entries.size) + 1 := by
  have hsize := @size_enter es s n r h hn
  have hentry := @lt_of_entry es s n r h
  obtain ⟨pool, registries, creations, slots, held, address⟩ := s
  obtain ⟨hrun, rfl, rfl, rfl, rfl, rfl, hregistrations, haddress⟩ := h
  dsimp only at hn hsize hentry hregistrations haddress
  have h₁ := hrun.cons_of_alive_imp (n := pool.containers.size)
    (.reserved (k := 0) (by simp) Config.empty .idle) (Nat.le_refl 1)
    (fun m => System.eq_of_alive (by simp [System.reserve]) (by simp [System.reserve]) rfl)
  have h₂ := h₁.cons_of_alive_imp (n := pool.containers.size)
    (@System.Step.built _ [] [] pool.containers.size 0 pool.containers.size rfl fun m hm => by
      -- only containers that were created before lie anywhere
      obtain ⟨halive | ⟨r', hr', hvalue⟩, hbuilt⟩ := hm
      · obtain rfl := System.eq_of_alive (n := pool.containers.size) (by simp [System.reserve])
          (by simp [System.reserve]) rfl halive
        exact absurd ⟨0, List.mem_singleton_self _⟩ hbuilt
      · obtain rfl := List.mem_singleton.mp hr'
        obtain ⟨id, hget⟩ := (Table.mem_values_iff _ _).mp hvalue
        have hlt := (hentry hget).1
        exact ne_of_eq_of_ne (haddress m hlt) (Nat.ne_of_lt hlt))
    (Nat.le_refl 1) (fun m => System.eq_of_alive (by simp) (by simp [System.reserve]) rfl)
  have h₃ := h₂.cons_of_alive_imp (n := pool.containers.size)
    (@System.Step.counted _ [] [] pool.containers.size 0 r rfl rfl)
    (Nat.le_refl 1) (fun m => System.eq_of_alive (by simp) (by simp [System.reserve]) rfl)
  have h₄ := h₃.cons_of_alive_imp (n := pool.containers.size)
    (@System.Step.registered _ [] [] pool.containers.size 0 _ r.counted rfl rfl)
    (Nat.zero_le 1)
    (fun m => System.eq_of_alive (by simp [System.enter]) (by simp [System.enter, System.reserve])
      rfl)
  have h₅ := h₄.cons_of_alive_imp (n := pool.containers.size)
    (@System.Step.dropped _ [] [] (.managed pool.containers.size) rfl)
    (Nat.zero_le 1) (fun m => System.eq_of_alive (by simp [System.enter]) (by simp) rfl)
  refine ⟨_, _, _, ⟨h₅, rfl, rfl, rfl, rfl, ?_, ?_, fun m hm => ?_⟩, ?_⟩
  · exact Array.size_push _
  · rw [Registry.registrations_enter, Registry.counted, hregistrations]
  · show (if m = pool.containers.size then pool.containers.size else address m) = m
    split
    · next hnew => exact hnew.symm
    · next hold => exact haddress m (Nat.lt_of_le_of_ne (Nat.le_of_lt_succ hm) hold)
  · have hid := h₃.run.sound.ids pool.containers.size (by simp [System.reserve, Pool.create])
    rw [← hid] at hsize
    exact hsize fun m => System.eq_of_alive (by simp) (by simp [System.reserve]) rfl

end Deserted

/-- After `n` containers the registry has the entry of the one that swept last, if one did, and of
all those that came after it. -/
theorem exists_deserted {n : Nat} (hn : n < UInt64.size) : ∃ es s r, Deserted n es s r ∧
    r.entries.size = n % sweepInterval + min 1 (n / sweepInterval) := by
  induction n with
  | zero => exact ⟨_, _, _, deserted_opened, rfl⟩
  | succ n ih =>
    obtain ⟨es, s, r, hdeserted, hsize⟩ := ih (Nat.lt_of_succ_lt hn)
    obtain ⟨es', s', r', hdeserted', hsize'⟩ := hdeserted.next hn
    refine ⟨es', s', r', hdeserted', ?_⟩
    rw [hsize', hsize]
    split <;> simp only [sweepInterval] at * <;> omega

/-- **The bound is reached**: by the last registration before the second sweep, if one container
lives at a time. -/
theorem size_le_sweepInterval_add_reached : ∃ es s r,
    RunWithin (fun es s => s.Modest 0 1 es) es s ∧ s.registries[0]? = some r ∧
      r.size ≤ sweepInterval + 1 ∧ r.size = sweepInterval + 1 := by
  have hlast : 2 * sweepInterval - 1 < UInt64.size := by decide
  obtain ⟨es, s, r, hdeserted, hsize⟩ := exists_deserted hlast
  have hr : s.registries[0]? = some r := by
    rw [hdeserted.registries]
    rfl
  refine ⟨es, s, r, hdeserted.run, hr, size_le_sweepInterval_add hdeserted.run hr, ?_⟩
  rw [Registry.size, hsize]
  rfl

end ResourceContainers.Registration
