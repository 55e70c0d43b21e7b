import Mathlib.Data.List.Nodup
import Mathlib.Data.List.Range
import ResourceContainers.Proofs.Registration.System

/-!
# What the history of a system says about its state

What is remembered of the steps of a system is which identity was reserved for which place, which
place was entered into which registry, and which entries were taken out again.

* `idAt`: the identity that belongs to a place.
* `Sound`: the state is what the history says.  Identities are given out in the order of the places;
  nobody but its creator knows a container before it is entered; it is entered once, under its own
  identity; an entry is there from then on, until it is taken out or another one takes its place;
  and what was taken out is dead, and stays so.
* `Sound.frame`, `Sound.reserve`, `Sound.enter`, `Sound.prune`: one lemma for each sort of
  step.  `Run.sound`: it holds all along.

Nothing here depends on how many containers there are.  If they are so many that the identities
begin again from 0, then a container may be entered under the identity of another one, and
`lastUnder` says which of them the registry knows.
-/

namespace ResourceContainers.Registration

/-! ## Identities -/

/-- The identity of the container at a place: they are given out one after the other, from 1 on. -/
def idAt (n : Nat) : UInt64 := UInt64.ofNat (n + 1)

theorem idAt_succ (n : Nat) : idAt (n + 1) = idAt n + 1 := UInt64.ofNat_add (n + 1) 1

/-- As long as the identities do not begin again, a place says which identity it is. -/
theorem toNat_idAt {n : Nat} (h : n + 1 < UInt64.size) : (idAt n).toNat = n + 1 :=
  UInt64.toNat_ofNat_of_lt' h

theorem idAt_lt_idAt {m n : Nat} (hmn : m < n) (h : n + 1 < UInt64.size) : idAt m < idAt n := by
  rw [UInt64.lt_iff_toNat_lt, toNat_idAt h, toNat_idAt (by omega)]
  omega

theorem idAt_pos {n : Nat} (h : n + 1 < UInt64.size) : 0 < idAt n := by
  rw [UInt64.lt_iff_toNat_lt, toNat_idAt h]
  exact Nat.succ_pos n

theorem idAt_inj {m n : Nat} (hm : m + 1 < UInt64.size) (hn : n + 1 < UInt64.size)
    (h : idAt m = idAt n) : m = n := by
  have htoNat := congrArg UInt64.toNat h
  rw [toNat_idAt hm, toNat_idAt hn] at htoNat
  omega

/-! ## Histories -/

section Histories

variable {es : List Event} {k k' n : Nat} {id id' : UInt64}

theorem reservations_registered (ns : List Nat) :
    reservations (.registered k id n :: ns.map (.takenOut k') ++ es) = reservations es := by
  simp [reservations, List.filterMap_append, List.filterMap_map]

theorem reservations_takenOut (ns : List Nat) :
    reservations (ns.map (.takenOut k') ++ es) = reservations es := by
  simp [reservations, List.filterMap_append, List.filterMap_map]

theorem registrations_registered (ns : List Nat) :
    registrations (.registered k id n :: ns.map (.takenOut k') ++ es) = n :: registrations es := by
  simp [registrations, List.filterMap_append, List.filterMap_map]

theorem registrations_takenOut (ns : List Nat) :
    registrations (ns.map (.takenOut k') ++ es) = registrations es := by
  simp [registrations, List.filterMap_append, List.filterMap_map]

theorem mem_registrations : n ∈ registrations es ↔ ∃ k id, .registered k id n ∈ es := by
  simp only [registrations, List.mem_filterMap]
  constructor
  · rintro ⟨e, he, hn⟩
    cases e with
    | registered k id m =>
      obtain rfl := Option.some.inj hn
      exact ⟨k, id, he⟩
    | _ => exact absurd hn (by simp)
  · rintro ⟨k, id, he⟩
    exact ⟨_, he, rfl⟩

theorem lastUnder_takenOut (ns : List Nat) :
    lastUnder k id (ns.map (.takenOut k') ++ es) = lastUnder k id es := by
  induction ns with
  | nil => rfl
  | cons m ns ih => exact ih

theorem lastUnder_registered (ns : List Nat) :
    lastUnder k id (.registered k' id' n :: ns.map (.takenOut k') ++ es) =
      if k' = k ∧ id' = id then some n else lastUnder k id es := by
  rw [List.cons_append, lastUnder, List.findSome?_cons, ← lastUnder, lastUnder_takenOut]
  by_cases h : k' = k ∧ id' = id
  · simp only [if_pos h]
  · simp only [if_neg h]

theorem mem_of_lastUnder (h : lastUnder k id es = some n) : .registered k id n ∈ es := by
  obtain ⟨e, he, hn⟩ := List.exists_of_findSome?_eq_some h
  cases e with
  | registered k' id' m =>
    simp only at hn
    split at hn
    · next hsame =>
      obtain ⟨rfl, rfl⟩ := hsame
      obtain rfl := Option.some.inj hn
      exact he
    · exact absurd hn (by simp)
  | _ => exact absurd hn (by simp)

theorem exists_lastUnder (h : .registered k id n ∈ es) : ∃ m, lastUnder k id es = some m := by
  cases hlast : lastUnder k id es with
  | some m => exact ⟨m, rfl⟩
  | none => exact absurd (List.findSome?_eq_none_iff.mp hlast _ h) (by simp)

theorem mem_takenOut {ns : List Nat} :
    .takenOut k n ∈ ns.map (.takenOut k') ++ es ↔ (k' = k ∧ n ∈ ns) ∨ .takenOut k n ∈ es := by
  simp only [List.mem_append, List.mem_map, Event.takenOut.injEq]
  exact or_congr_left ⟨fun ⟨_, hm, hk, he⟩ => ⟨hk, he ▸ hm⟩, fun ⟨hk, hn⟩ => ⟨n, hn, hk, rfl⟩⟩

end Histories

/-! ## Soundness -/

/-- The state of a system is what its history says. -/
structure Sound (es : List Event) (s : System) : Prop where
  nextId : s.pool.nextId = idAt s.pool.containers.size
  ids : ∀ n, n < s.pool.containers.size → (s.pool.container n).id = idAt n
  reservations : reservations es = ((List.range s.pool.containers.size).map idAt).reverse
  placed : ∀ n, s.alive n = true → n < s.pool.containers.size
  creating : (s.creations.map Creation.place).Nodup
  unregistered : ∀ n ∈ s.creations.map Creation.place, n ∉ registrations es
  unshared : ∀ n ∈ s.creations.map Creation.place, ¬ s.Shared n
  registered : ∀ k id n, .registered k id n ∈ es →
    n < s.pool.containers.size ∧ id = idAt n ∧ k < s.registries.length
  once : (registrations es).Nodup
  takenOut : ∀ k n, .takenOut k n ∈ es → s.alive n = false ∧ ∃ id, .registered k id n ∈ es
  entries : ∀ k r, s.registries[k]? = some r → ∀ id n,
    r.entries.get? id = some n ↔ lastUnder k id es = some n ∧ .takenOut k n ∉ es

namespace Sound

variable {es new : List Event} {s s' : System}

theorem start : Sound [] .start where
  nextId := rfl
  ids _ h := absurd h (Nat.not_lt_zero _)
  reservations := rfl
  placed n h := by simp [System.alive, System.start, Slot.fresh, Slot.current] at h
  creating := .nil
  unregistered _ h := absurd h (by simp [System.start])
  unshared _ h := absurd h (by simp [System.start])
  registered _ _ _ h := absurd h (by simp)
  once := .nil
  takenOut _ _ h := absurd h (by simp)
  entries k r h := absurd h (by simp [System.start])

theorem dead_of_alive_imp {n : Nat} (h : s'.alive n = true → s.alive n = true)
    (hdead : s.alive n = false) : s'.alive n = false := by
  by_contra halive
  exact absurd (h ((Bool.not_eq_false _).mp halive)) (by simp [hdead])

/-- **A step of the frame** keeps everything, because it registers nothing and takes nothing
out. -/
theorem frame (hs : Sound es s) (hf : s.Frame s') : Sound es s' where
  nextId := by rw [hf.pool.nextId, hf.pool.size, hs.nextId]
  ids n hn := by
    rw [hf.pool.size] at hn
    rw [hf.pool.id, hs.ids n hn]
  reservations := by rw [hf.pool.size, hs.reservations]
  placed n hn := by
    rw [hf.pool.size]
    exact hs.placed n (hf.alive n hn)
  creating := by
    rw [hf.places]
    exact hs.creating
  unregistered n hn := by
    rw [hf.places] at hn
    exact hs.unregistered n hn
  unshared n hn hshared := by
    rw [hf.places] at hn
    rcases hf.shared n hshared with hold | ⟨r, hr, hlisted⟩
    · exact hs.unshared n hn hold
    · -- what a registry lists was entered into it
      obtain ⟨k, hk⟩ := List.mem_iff_getElem?.mp hr
      obtain ⟨id, hget⟩ := (Registry.mem_listed.mp hlisted).1
      have hentered := mem_of_lastUnder ((hs.entries k r hk id n).mp hget).1
      exact hs.unregistered n hn (mem_registrations.mpr ⟨k, id, hentered⟩)
  registered k id n h := by
    obtain ⟨hn, hid, hk⟩ := hs.registered k id n h
    rw [hf.pool.size]
    exact ⟨hn, hid, Nat.lt_of_lt_of_le hk hf.length⟩
  once := hs.once
  takenOut k n h := by
    obtain ⟨hdead, hregistered⟩ := hs.takenOut k n h
    exact ⟨dead_of_alive_imp (hf.alive n) hdead, hregistered⟩
  entries k r' hr' id n := by
    rcases hf.registries k r' hr' with ⟨r, hr, hentries⟩ | ⟨hk, hentries⟩
    · rw [hentries]
      exact hs.entries k r hr id n
    · -- a new registry has no entries, and nothing was ever entered into it
      have hnothing : lastUnder k id es ≠ some n := fun hlast =>
        absurd (hs.registered k id n (mem_of_lastUnder hlast)).2.2 (Nat.not_lt_of_le hk)
      rw [hentries]
      exact ⟨fun h => absurd h (by simp), fun h => absurd h.1 hnothing⟩

/-- **Reserving an identity.** -/
theorem reserve (hs : Sound es s) (k : Nat) (c : Config) (m : Meter) :
    Sound ([.reserved s.pool.nextId s.pool.containers.size] ++ es) (s.reserve k c m) := by
  have hsize : (s.reserve k c m).pool.containers.size = s.pool.containers.size + 1 := by
    simp [System.reserve, Pool.create]
  have hregistered {k' : Nat} {id : UInt64} {n : Nat}
      (h : .registered k' id n ∈ [.reserved s.pool.nextId s.pool.containers.size] ++ es) :
      .registered k' id n ∈ es := (List.mem_cons.mp h).resolve_left (by simp)
  refine ⟨?_, fun n hn => ?_, ?_, fun n hn => ?_, ?_, fun n hn hmem => ?_,
    fun n hn hshared => ?_, fun k' id n h => ?_, hs.once, fun k' n h => ?_, fun k' r hr id n => ?_⟩
  · show s.pool.nextId + 1 = idAt (s.reserve k c m).pool.containers.size
    rw [hsize, idAt_succ, hs.nextId]
  · show ((s.pool.create c m).1.container n).id = idAt n
    rw [Pool.container_create]
    split
    · next hnew =>
      subst hnew
      exact hs.nextId
    · next hold =>
      have hlt : n < s.pool.containers.size := by omega
      exact hs.ids n hlt
  · show s.pool.nextId :: Registration.reservations es = _
    rw [hs.reservations, hs.nextId, hsize, List.range_succ, List.map_append, List.reverse_append]
    rfl
  · rw [hsize]
    rcases System.alive_reserve hn with rfl | hold
    · exact Nat.lt_succ_self _
    · exact Nat.lt_succ_of_lt (hs.placed n hold)
  · refine List.nodup_cons.mpr ⟨fun hmem => ?_, hs.creating⟩
    exact absurd (hs.placed _ (System.alive_iff.mpr (.inr hmem))) (Nat.lt_irrefl _)
  · rcases List.mem_cons.mp hn with rfl | hold
    · obtain ⟨k', id, h⟩ := mem_registrations.mp hmem
      exact absurd (hs.registered k' id _ (hregistered h)).1 (Nat.lt_irrefl _)
    · exact hs.unregistered n hold hmem
  · rcases List.mem_cons.mp hn with rfl | hold
    · exact absurd (hs.placed _ (System.alive_iff.mpr (.inl hshared))) (Nat.lt_irrefl _)
    · exact hs.unshared n hold hshared
  · obtain ⟨hn, hid, hk⟩ := hs.registered k' id n (hregistered h)
    rw [hsize]
    exact ⟨Nat.lt_succ_of_lt hn, hid, hk⟩
  · obtain ⟨hdead, id, hmem⟩ := hs.takenOut k' n ((List.mem_cons.mp h).resolve_left (by simp))
    refine ⟨dead_of_alive_imp (fun halive => ?_) hdead, id, List.mem_cons_of_mem _ hmem⟩
    refine (System.alive_reserve halive).resolve_left fun hn => ?_
    exact absurd (hs.registered k' id n hmem).1 (by omega)
  · have hlast : lastUnder k' id
        ([.reserved s.pool.nextId s.pool.containers.size] ++ es) = lastUnder k' id es := rfl
    rw [hlast, hs.entries k' r hr id n]
    simp

/-- What is taken out of a registry is dead and was entered into it. -/
theorem takenOut_of_dead (hs : Sound es s) {k : Nat} {r : Registry}
    (hr : s.registries[k]? = some r) {n : Nat} (hn : n ∈ r.dead s.alive) :
    s.alive n = false ∧ ∃ id, .registered k id n ∈ es := by
  obtain ⟨⟨id, hget⟩, hdead⟩ := Registry.mem_dead.mp hn
  exact ⟨hdead, id, mem_of_lastUnder ((hs.entries k r hr id n).mp hget).1⟩

/-- **Pruning.** -/
theorem prune (hs : Sound es s) {k : Nat} {r : Registry} (hr : s.registries[k]? = some r) :
    Sound ((r.dead s.alive).map (.takenOut k) ++ es) (s.prune k r) where
  nextId := hs.nextId
  ids := hs.ids
  reservations := (reservations_takenOut _).trans hs.reservations
  placed := hs.placed
  creating := hs.creating
  unregistered n hn := by
    rw [registrations_takenOut]
    exact hs.unregistered n hn
  unshared := hs.unshared
  registered k' id n h := by
    have hold : .registered k' id n ∈ es := by simpa using h
    rw [System.prune, List.length_set]
    exact hs.registered k' id n hold
  once := by
    rw [registrations_takenOut]
    exact hs.once
  takenOut k' n h := by
    rcases mem_takenOut.mp h with ⟨rfl, hn⟩ | hold
    · obtain ⟨hdead, id, hmem⟩ := hs.takenOut_of_dead hr hn
      exact ⟨hdead, id, List.mem_append_right _ hmem⟩
    · obtain ⟨hdead, id, hmem⟩ := hs.takenOut k' n hold
      exact ⟨hdead, id, List.mem_append_right _ hmem⟩
  entries k' r' hr' id n := by
    rw [lastUnder_takenOut, mem_takenOut]
    by_cases hk : k = k'
    · subst hk
      rw [System.prune, List.getElem?_set_self (List.getElem?_eq_some_iff.mp hr).1] at hr'
      obtain rfl := Option.some.inj hr'
      show (r.sweep s.alive).entries.get? id = some n ↔ _
      rw [Registry.get?_sweep_eq_some, hs.entries k r hr id n]
      simp [and_assoc, and_comm]
    · rw [System.prune, List.getElem?_set_ne hk] at hr'
      rw [hs.entries k' r' hr' id n]
      simp [hk]

section Entering

variable {before behind : List Creation} {n k : Nat} {sweeps : Bool} {r : Registry}

/-- A container that is entered is no longer being created. -/
theorem nodup_of_entered (hs : Sound es s)
    (hc : s.creations = before ++ ⟨n, k, .counted sweeps⟩ :: behind) :
    n ∉ (before ++ behind).map Creation.place ∧ ((before ++ behind).map Creation.place).Nodup := by
  have hnodup := hs.creating
  rw [hc, List.map_append, List.map_cons, List.nodup_middle] at hnodup
  rw [List.map_append]
  exact List.nodup_cons.mp hnodup

/-- What a registry has entries for once an entry was made. -/
theorem entries_enter (hs : Sound es s) (hr : s.registries[k]? = some r) (hn : s.alive n = true)
    (id : UInt64) (m : Nat) :
    (r.enter s.alive sweeps (s.pool.id (.managed n)) n).entries.get? id = some m ↔
      lastUnder k id (s.enterEvents k r sweeps n ++ es) = some m ∧
        .takenOut k m ∉ s.enterEvents k r sweeps n ++ es := by
  have hevents : .takenOut k m ∈ s.enterEvents k r sweeps n ++ es ↔
      m ∈ r.takenOut s.alive sweeps ∨ .takenOut k m ∈ es := by
    simp [System.enterEvents]
  rw [System.enterEvents, lastUnder_registered, ← System.enterEvents, hevents,
    Registry.get?_enter_eq_some, hs.entries k r hr id m]
  by_cases hid : id = s.pool.id (.managed n)
  · subst hid
    -- the new entry is not taken out, because its container is alive
    have hnew : ¬ (n ∈ r.takenOut s.alive sweeps ∨ .takenOut k n ∈ es) := by
      rintro (h | h)
      · exact absurd (Registry.mem_dead.mp (Registry.mem_dead_of_takenOut h)).2 (by simp [hn])
      · exact absurd (hs.takenOut k n h).1 (by simp [hn])
    simp only [true_and, ne_eq, not_true, false_and, or_false, if_true, and_self,
      Option.some.injEq]
    exact ⟨fun h => ⟨h.symm, h ▸ hnew⟩, fun h => h.1.symm⟩
  · simp [hid, Ne.symm hid, and_assoc, and_comm]

/-- **Making an entry.** -/
theorem enter (hs : Sound es s)
    (hc : s.creations = before ++ ⟨n, k, .counted sweeps⟩ :: behind)
    (hr : s.registries[k]? = some r) :
    Sound (s.enterEvents k r sweeps n ++ es) (s.enter (before ++ behind) k r sweeps n) := by
  have hmem : n ∈ s.creations.map Creation.place := by simp [hc]
  have halive : s.alive n = true := System.alive_iff.mpr (.inr hmem)
  have hold {m : Nat} (h : (s.enter (before ++ behind) k r sweeps n).alive m = true) :
      s.alive m = true := System.alive_enter hc h
  have hlt := hs.placed n halive
  refine ⟨hs.nextId, hs.ids, ?_, fun m hm => hs.placed m (hold hm), (hs.nodup_of_entered hc).2,
    fun m hm h => ?_, fun m hm hshared => ?_, fun k' id m h => ?_, ?_, fun k' m h => ?_,
    fun k' r' hr' id m => ?_⟩
  · exact (reservations_registered _).trans hs.reservations
  · rw [System.enterEvents, registrations_registered] at h
    rcases List.mem_cons.mp h with rfl | h
    · exact (hs.nodup_of_entered hc).1 hm
    · exact hs.unregistered m (System.mem_places_of_rest hc hm) h
  · rcases System.shared_enter hshared with rfl | hold
    · exact (hs.nodup_of_entered hc).1 hm
    · exact hs.unshared m (System.mem_places_of_rest hc hm) hold
  · rw [System.enter, List.length_set]
    rcases List.mem_cons.mp h with hnew | h
    · obtain ⟨rfl, rfl, rfl⟩ := Event.registered.inj hnew
      exact ⟨hlt, hs.ids _ hlt, (List.getElem?_eq_some_iff.mp hr).1⟩
    · exact hs.registered k' id m (by simpa using h)
  · rw [System.enterEvents, registrations_registered]
    exact List.nodup_cons.mpr ⟨hs.unregistered n hmem, hs.once⟩
  · rcases mem_takenOut.mp ((List.mem_cons.mp h).resolve_left (by simp)) with ⟨rfl, hm⟩ | h
    · obtain ⟨hdead, id, hregistered⟩ :=
        hs.takenOut_of_dead hr (Registry.mem_dead_of_takenOut hm)
      exact ⟨dead_of_alive_imp hold hdead, id, List.mem_append_right _ hregistered⟩
    · obtain ⟨hdead, id, hregistered⟩ := hs.takenOut k' m h
      exact ⟨dead_of_alive_imp hold hdead, id, List.mem_append_right _ hregistered⟩
  · by_cases hk : k = k'
    · subst hk
      rw [System.enter, List.getElem?_set_self (List.getElem?_eq_some_iff.mp hr).1] at hr'
      obtain rfl := Option.some.inj hr'
      exact hs.entries_enter hr halive id m
    · rw [System.enter, List.getElem?_set_ne hk] at hr'
      rw [hs.entries k' r' hr' id m, System.enterEvents, lastUnder_registered]
      simp [hk]

end Entering

/-- **No step makes a false history.** -/
theorem step (hs : Sound es s) (h : s.Step new s') : Sound (new ++ es) s' := by
  rcases h.frame_or with ⟨rfl, hf⟩ | ⟨k, c, m, rfl, rfl⟩ |
    ⟨before, behind, n, k, sweeps, r, hc, hr, rfl, rfl⟩ | ⟨k, r, hr, rfl, rfl⟩
  · exact hs.frame hf
  · exact hs.reserve k c m
  · exact hs.enter hc hr
  · exact hs.prune hr

end Sound

theorem Run.sound {es : List Event} {s : System} (h : Run es s) : Sound es s := by
  induction h with
  | nil => exact .start
  | cons _ hs ih => exact ih.step hs

end ResourceContainers.Registration
