import ResourceContainers.Proofs.Registration.History

/-!
# What a registry lists

A registry is asked for a container, for all of them, for a snapshot or for its size, or it is told
to prune itself, while any threads create containers in it and in others and let go of them.

* `System.Knows`: a container is the last one that was entered under its identity.
* `Sound.mem_listed`, `Sound.mem_dead`: which entries a registry has.
* `Sound.pairwise_listed`: the order of the list.
* `Sound.entry_step`: an entry outlives every step, unless nothing holds on to its container.
* `System.Later`: the state after some more steps.
* `enumeration_exact`: the main statement.

Identities are numbers of 64 bits, so they begin again from 0 after that many reservations.  Until
then a registry knows everything that was ever entered, and there is nothing more to say about
`System.Knows` than that.
-/

namespace ResourceContainers.Registration

namespace System

variable {s s' : System} {new : List Event}

/-! ## Later states -/

/-- From `s` on, steps of any threads lead to a later state. -/
inductive Later (s : System) : System → Prop
  | refl : Later s s
  | step {s' s'' : System} {new : List Event} (h : Later s s') (hs : s'.Step new s'') : Later s s''

/-- No step takes a container away, or gives it another identity. -/
theorem Step.kept (h : s.Step new s') : s.pool.containers.size ≤ s'.pool.containers.size ∧
    ∀ n, n < s.pool.containers.size → s'.pool.id (.managed n) = s.pool.id (.managed n) := by
  rcases h.frame_or with ⟨-, hf⟩ | ⟨k, c, m, -, rfl⟩ |
    ⟨before, behind, n, k, sweeps, r, -, -, -, rfl⟩ | ⟨k, r, -, -, rfl⟩
  · exact ⟨Nat.le_of_eq hf.pool.size.symm, fun n _ => hf.pool.id n⟩
  · refine ⟨by simp [reserve, Pool.create], fun n hn => ?_⟩
    show ((s.pool.create c m).1.container n).id = (s.pool.container n).id
    rw [Pool.container_create, if_neg (Nat.ne_of_lt hn)]
  · exact ⟨Nat.le_refl _, fun n _ => rfl⟩
  · exact ⟨Nat.le_refl _, fun n _ => rfl⟩

theorem Later.kept (h : s.Later s') : s.pool.containers.size ≤ s'.pool.containers.size ∧
    ∀ n, n < s.pool.containers.size → s'.pool.id (.managed n) = s.pool.id (.managed n) := by
  induction h with
  | refl => exact ⟨Nat.le_refl _, fun _ _ => rfl⟩
  | step _ hs ih =>
    obtain ⟨hsize, hid⟩ := ih
    obtain ⟨hsize', hid'⟩ := hs.kept
    exact ⟨Nat.le_trans hsize hsize', fun n hn =>
      (hid' n (Nat.lt_of_lt_of_le hn hsize)).trans (hid n hn)⟩

theorem Step.exists_registry (h : s.Step new s') {k : Nat} {r : Registry}
    (hr : s.registries[k]? = some r) : ∃ r', s'.registries[k]? = some r' := by
  have hk : k < s.registries.length := (List.getElem?_eq_some_iff.mp hr).1
  have hlength : s.registries.length ≤ s'.registries.length := by
    rcases h.frame_or with ⟨-, hf⟩ | ⟨k, c, m, -, rfl⟩ |
      ⟨before, behind, n, k, sweeps, r, -, -, -, rfl⟩ | ⟨k, r, -, -, rfl⟩
    · exact hf.length
    · exact Nat.le_refl _
    · exact Nat.le_of_eq (List.length_set ..).symm
    · exact Nat.le_of_eq (List.length_set ..).symm
  exact ⟨_, List.getElem?_eq_getElem (Nat.lt_of_lt_of_le hk hlength)⟩

/-- **Only dead entries are taken out.** -/
theorem Step.dead_of_takenOut (h : s.Step new s') {k n : Nat} (hn : .takenOut k n ∈ new) :
    s.alive n = false := by
  rcases h.frame_or with ⟨rfl, -⟩ | ⟨k', c, m, rfl, -⟩ |
    ⟨before, behind, m, k', sweeps, r, -, -, rfl, -⟩ | ⟨k', r, -, rfl, -⟩
  · exact absurd hn (by simp)
  · exact absurd hn (by simp)
  · obtain ⟨m, hm, he⟩ := List.mem_map.mp ((List.mem_cons.mp hn).resolve_left (by simp))
    obtain ⟨-, rfl⟩ := Event.takenOut.inj he
    exact (Registry.mem_dead.mp (Registry.mem_dead_of_takenOut hm)).2
  · obtain ⟨m, hm, he⟩ := List.mem_map.mp hn
    obtain ⟨-, rfl⟩ := Event.takenOut.inj he
    exact (Registry.mem_dead.mp hm).2

/-- The container at the place `n` is the last one that was entered into the registry `k` under its
identity. -/
def Knows (s : System) (es : List Event) (k n : Nat) : Prop :=
  lastUnder k (s.pool.id (.managed n)) es = some n

end System

namespace Sound

variable {es new : List Event} {s s' : System} {k n : Nat} {r : Registry}

/-! ## Entries -/

/-- A container is entered under its own identity. -/
theorem id_of_registered (hs : Sound es s) {id : UInt64} (h : .registered k id n ∈ es) :
    id = s.pool.id (.managed n) := by
  obtain ⟨hn, hid, -⟩ := hs.registered k id n h
  exact hid.trans (hs.ids n hn).symm

theorem id_of_entry (hs : Sound es s) (hr : s.registries[k]? = some r) {id : UInt64}
    (h : r.entries.get? id = some n) : id = s.pool.id (.managed n) :=
  hs.id_of_registered (mem_of_lastUnder ((hs.entries k r hr id n).mp h).1)

/-- **An entry** is that of a known container that is not taken out. -/
theorem exists_entry_iff (hs : Sound es s) (hr : s.registries[k]? = some r) :
    (∃ id, r.entries.get? id = some n) ↔ s.Knows es k n ∧ .takenOut k n ∉ es := by
  constructor
  · rintro ⟨id, h⟩
    obtain rfl := hs.id_of_entry hr h
    exact (hs.entries k r hr _ n).mp h
  · intro h
    exact ⟨_, (hs.entries k r hr _ n).mpr h⟩

/-- **What is listed** is known and alive. -/
theorem mem_listed (hs : Sound es s) (hr : s.registries[k]? = some r) :
    n ∈ r.listed s.alive ↔ s.alive n = true ∧ s.Knows es k n := by
  rw [Registry.mem_listed, hs.exists_entry_iff hr]
  constructor
  · rintro ⟨⟨hknown, -⟩, halive⟩
    exact ⟨halive, hknown⟩
  · rintro ⟨halive, hknown⟩
    refine ⟨⟨hknown, fun h => ?_⟩, halive⟩
    exact absurd (hs.takenOut k n h).1 (by simp [halive])

theorem mem_dead (hs : Sound es s) (hr : s.registries[k]? = some r) :
    n ∈ r.dead s.alive ↔ s.alive n = false ∧ s.Knows es k n ∧ .takenOut k n ∉ es := by
  rw [Registry.mem_dead, hs.exists_entry_iff hr, and_comm]

/-- The entries are in the order of the identities of their containers. -/
theorem pairwise_values (hs : Sound es s) (hr : s.registries[k]? = some r) :
    r.entries.values.Pairwise fun m n => s.pool.id (.managed m) < s.pool.id (.managed n) := by
  rw [Table.values, List.pairwise_map]
  refine r.entries.increasing.imp_of_mem fun {p q} hp hq hlt => ?_
  have hid := hs.id_of_entry hr ((Table.mem_entries_iff _ _ _).mp hp)
  have hid' := hs.id_of_entry hr ((Table.mem_entries_iff _ _ _).mp hq)
  rw [← hid, ← hid']
  exact Std.compare_eq_lt.mp hlt

theorem pairwise_listed (hs : Sound es s) (hr : s.registries[k]? = some r) :
    (r.listed s.alive).Pairwise fun m n => s.pool.id (.managed m) < s.pool.id (.managed n) :=
  (hs.pairwise_values hr).filter _

theorem nodup_values (hs : Sound es s) (hr : s.registries[k]? = some r) :
    r.entries.values.Nodup := by
  refine List.nodup_iff_pairwise_ne.mpr ((hs.pairwise_values hr).imp fun {m n} hlt he => ?_)
  rw [he] at hlt
  exact UInt64.lt_irrefl _ hlt

/-- What is got under an identity is what is listed with that identity. -/
theorem get?_iff (hs : Sound es s) (hr : s.registries[k]? = some r) {id : UInt64} (hid : id ≠ 0)
    {h : Handle} : r.get? s.alive id = some h ↔
      h ∈ r.containers s.alive ∧ h ≠ .root ∧ s.pool.id h = id := by
  rw [Registry.get?_managed_iff hid]
  constructor
  · rintro ⟨n, rfl, hget, halive⟩
    refine ⟨Registry.managed_mem_containers.mpr ?_, by simp, (hs.id_of_entry hr hget).symm⟩
    exact Registry.mem_listed.mpr ⟨⟨id, hget⟩, halive⟩
  · rintro ⟨hlisted, hmanaged, rfl⟩
    cases h with
    | root => exact absurd rfl hmanaged
    | managed n =>
      obtain ⟨⟨id, hget⟩, halive⟩ :=
        Registry.mem_listed.mp (Registry.managed_mem_containers.mp hlisted)
      obtain rfl := hs.id_of_entry hr hget
      exact ⟨n, rfl, hget, halive⟩

/-- **An entry outlives every step** as long as something holds on to its container, unless another
container is entered under its identity. -/
theorem entry_step (hs : Sound es s) (hr : s.registries[k]? = some r) (h : s.Step new s')
    {id : UInt64} (hget : r.entries.get? id = some n) (halive : s.alive n = true) :
    ∃ r', s'.registries[k]? = some r' ∧
      (r'.entries.get? id = some n ∨ ∃ m, .registered k id m ∈ new) := by
  obtain ⟨r', hr'⟩ := h.exists_registry hr
  refine ⟨r', hr', ?_⟩
  by_cases hnew : ∃ m, .registered k id m ∈ new
  · exact .inr hnew
  · refine .inl (((hs.step h).entries k r' hr' id n).mpr ⟨?_, fun hmem => ?_⟩)
    · -- nothing was entered under the identity, so what was last before is still last
      have hnone : lastUnder k id new = none := by
        by_contra hsome
        obtain ⟨m, hm⟩ := Option.ne_none_iff_exists'.mp hsome
        exact hnew ⟨m, mem_of_lastUnder hm⟩
      have hlast := ((hs.entries k r hr id n).mp hget).1
      rw [lastUnder] at hnone hlast ⊢
      rw [List.findSome?_append, hnone, hlast]
      rfl
    · rcases List.mem_append.mp hmem with hmem | hmem
      · exact absurd (h.dead_of_takenOut hmem) (by simp [halive])
      · exact absurd (hs.takenOut k n hmem).1 (by simp [halive])

/-! ## As long as the identities do not begin again -/

theorem place_inj (hs : Sound es s) (hids : s.pool.containers.size < UInt64.size) {m n : Nat}
    (hm : m < s.pool.containers.size) (hn : n < s.pool.containers.size)
    (h : s.pool.id (.managed m) = s.pool.id (.managed n)) : m = n := by
  have hidm : s.pool.id (.managed m) = idAt m := hs.ids m hm
  have hidn : s.pool.id (.managed n) = idAt n := hs.ids n hn
  rw [hidm, hidn] at h
  exact idAt_inj (by omega) (by omega) h

theorem id_pos (hs : Sound es s) (hids : s.pool.containers.size < UInt64.size)
    (hn : n < s.pool.containers.size) : 0 < s.pool.id (.managed n) := by
  have hid : s.pool.id (.managed n) = idAt n := hs.ids n hn
  rw [hid]
  exact idAt_pos (by omega)

/-- **A registry knows everything that was ever entered into it.** -/
theorem knows_iff (hs : Sound es s) (hids : s.pool.containers.size < UInt64.size) :
    s.Knows es k n ↔ ∃ id, .registered k id n ∈ es := by
  constructor
  · intro h
    exact ⟨_, mem_of_lastUnder h⟩
  · rintro ⟨id, hmem⟩
    obtain rfl := hs.id_of_registered hmem
    obtain ⟨m, hm⟩ := exists_lastUnder hmem
    have hsame := hs.id_of_registered (mem_of_lastUnder hm)
    obtain ⟨hlt, -, -⟩ := hs.registered k _ n hmem
    obtain ⟨hlt', -, -⟩ := hs.registered k _ m (mem_of_lastUnder hm)
    obtain rfl := hs.place_inj hids hlt hlt' hsame
    exact hm

/-- Root is before all others. -/
theorem pairwise_containers (hs : Sound es s) (hr : s.registries[k]? = some r)
    (hids : s.pool.containers.size < UInt64.size) :
    ((r.containers s.alive).map s.pool.id).Pairwise (· < ·) := by
  rw [Registry.containers_eq_listed, List.map_cons, List.map_map, List.pairwise_cons]
  refine ⟨fun id hid => ?_, List.pairwise_map.mpr (hs.pairwise_listed hr)⟩
  obtain ⟨n, hn, rfl⟩ := List.mem_map.mp hid
  exact hs.id_pos hids (hs.placed n (Registry.mem_listed.mp hn).2)

theorem get?_iff_of_ids (hs : Sound es s) (hr : s.registries[k]? = some r)
    (hids : s.pool.containers.size < UInt64.size) (id : UInt64) (h : Handle) :
    r.get? s.alive id = some h ↔ h ∈ r.containers s.alive ∧ s.pool.id h = id := by
  have hpos {n : Nat} (hn : .managed n ∈ r.containers s.alive) : 0 < s.pool.id (.managed n) :=
    hs.id_pos hids (hs.placed n
      (Registry.mem_listed.mp (Registry.managed_mem_containers.mp hn)).2)
  by_cases hid : id = 0
  · subst hid
    constructor
    · intro hget
      obtain rfl : Handle.root = h := Option.some.inj hget
      exact ⟨List.mem_cons_self .., rfl⟩
    · rintro ⟨hlisted, hzero⟩
      cases h with
      | root => rfl
      | managed n => exact absurd (hzero ▸ hpos hlisted) (UInt64.lt_irrefl 0)
  · rw [hs.get?_iff hr hid]
    refine and_congr_right fun _ => ⟨fun h => h.2, fun he => ⟨?_, he⟩⟩
    rintro rfl
    exact hid he.symm

/-- What a step enters was being created before, and was not entered anywhere. -/
theorem of_registered_new (hs : Sound es s) (h : s.Step new s') {id : UInt64}
    (hn : .registered k id n ∈ new) : n < s.pool.containers.size ∧ n ∉ registrations es ∧
      id = s.pool.id (.managed n) := by
  rcases h.frame_or with ⟨rfl, -⟩ | ⟨k', c, m, rfl, -⟩ |
    ⟨before, behind, m, k', sweeps, r, hc, -, rfl, -⟩ | ⟨k', r, -, rfl, -⟩
  · exact absurd hn (by simp)
  · exact absurd hn (by simp)
  · rcases List.mem_cons.mp hn with he | hmem
    · obtain ⟨rfl, rfl, rfl⟩ := Event.registered.inj he
      have hplace : n ∈ s.creations.map Creation.place := by simp [hc]
      have hlt := hs.placed n (System.alive_iff.mpr (.inr hplace))
      exact ⟨hlt, hs.unregistered n hplace, rfl⟩
    · exact absurd hmem (by simp)
  · exact absurd hn (by simp)

/-- **An entry outlives every step** as long as something holds on to its container. -/
theorem entry_step_of_ids (hs : Sound es s) (hr : s.registries[k]? = some r)
    (hids : s.pool.containers.size < UInt64.size) (h : s.Step new s') {id : UInt64}
    (hget : r.entries.get? id = some n) (halive : s.alive n = true) :
    ∃ r', s'.registries[k]? = some r' ∧ r'.entries.get? id = some n := by
  obtain ⟨r', hr', hkept | ⟨m, hm⟩⟩ := hs.entry_step hr h hget halive
  · exact ⟨r', hr', hkept⟩
  · -- the other container would have the same identity, and is another one
    obtain ⟨hlt, hfresh, hid⟩ := hs.of_registered_new h hm
    have hid' := hs.id_of_entry hr hget
    have hlt' := hs.placed n halive
    obtain rfl := hs.place_inj hids hlt hlt' (hid.symm.trans hid')
    have hentered := mem_of_lastUnder ((hs.entries k r hr id m).mp hget).1
    exact absurd (mem_registrations.mpr ⟨k, id, hentered⟩) hfresh

end Sound

/-- **A registry lists exactly what lives in it.**

After any steps of any threads take a registry.

* It lists root and then the containers that it knows and that something holds on to, in the order
  of their identities, each once.
* Under an identity it gives the container that is listed with that identity, and nothing else.
* A snapshot is the list, and the identities in it are the same however long after the listing each
  container is looked at.
* No step, sweep or pruning takes an entry out as long as something holds on to its container.
* There are as many entries as there are listed containers and dead ones that were not taken out
  yet.  Pruning takes out the dead ones and says how many they were; at once again there are none.

As long as the identities do not begin again, a registry knows everything that was ever entered into
it, root comes before all others in the list, and no entry is overwritten by another one. -/
theorem enumeration_exact {es : List Event} {s : System} (h : Run es s) {k : Nat} {r : Registry}
    (hr : s.registries[k]? = some r) :
    (r.containers s.alive = .root :: (r.listed s.alive).map .managed ∧
      ((r.listed s.alive).Pairwise fun m n => s.pool.id (.managed m) < s.pool.id (.managed n)) ∧
      ∀ n, n ∈ r.listed s.alive ↔ s.alive n = true ∧ s.Knows es k n) ∧
    (r.get? s.alive 0 = some .root ∧ ∀ id, id ≠ 0 → ∀ h, r.get? s.alive id = some h ↔
      h ∈ r.containers s.alive ∧ h ≠ .root ∧ s.pool.id h = id) ∧
    (r.snapshot s.alive s.pool = (r.containers s.alive).map s.pool.info ∧
      ∀ s', s.Later s' → ∀ h ∈ r.containers s.alive, (s'.pool.info h).id = s.pool.id h) ∧
    (∀ new s' id n, s.Step new s' → r.entries.get? id = some n → s.alive n = true →
      ∃ r', s'.registries[k]? = some r' ∧
        (r'.entries.get? id = some n ∨ ∃ m, .registered k id m ∈ new)) ∧
    (r.size = 1 + (r.listed s.alive).length + (r.dead s.alive).length ∧
      (r.dead s.alive).Nodup ∧
      (∀ n, n ∈ r.dead s.alive ↔ s.alive n = false ∧ s.Knows es k n ∧ .takenOut k n ∉ es) ∧
      (r.prune s.alive).2 = (r.dead s.alive).length ∧
      ((r.prune s.alive).1.prune s.alive).2 = 0) ∧
    (s.pool.containers.size < UInt64.size →
      (∀ n, s.Knows es k n ↔ ∃ id, .registered k id n ∈ es) ∧
      ((r.containers s.alive).map s.pool.id).Pairwise (· < ·) ∧
      (∀ id h, r.get? s.alive id = some h ↔ h ∈ r.containers s.alive ∧ s.pool.id h = id) ∧
      ∀ new s' id n, s.Step new s' → r.entries.get? id = some n → s.alive n = true →
        ∃ r', s'.registries[k]? = some r' ∧ r'.entries.get? id = some n) := by
  have hs := h.sound
  refine ⟨⟨rfl, hs.pairwise_listed hr, fun n => hs.mem_listed hr⟩,
    ⟨rfl, fun id hid h => hs.get?_iff hr hid⟩, ⟨rfl, fun s' hlater h hlisted => ?_⟩,
    fun new s' id n hstep hget halive => hs.entry_step hr hstep hget halive,
    ⟨Registry.size_eq, (hs.nodup_values hr).filter _, fun n => hs.mem_dead hr,
      Registry.prune_count, Registry.prune_again⟩, fun hids => ?_⟩
  · cases h with
    | root => rfl
    | managed n =>
      have halive := (Registry.mem_listed.mp (Registry.managed_mem_containers.mp hlisted)).2
      exact hlater.kept.2 n (hs.placed n halive)
  · exact ⟨fun n => hs.knows_iff hids, hs.pairwise_containers hr hids,
      hs.get?_iff_of_ids hr hids,
      fun new s' id n hstep hget halive => hs.entry_step_of_ids hr hids hstep hget halive⟩

/-- Two containers are reserved in a registry and are entered the other way round.  Then the one
that was reserved first is let go. -/
theorem exists_enteredOutOfOrder : ∃ es s r, Run es s ∧ s.registries[0]? = some r ∧
    s.pool.containers.size = 2 ∧ r.listed s.alive = [1] ∧ r.dead s.alive = [0] := by
  have h₀ := Run.nil.cons .opened
  have h₁ := h₀.cons (.reserved (k := 0) (by decide) Config.empty .idle)
  have h₂ := h₁.cons (.reserved (k := 0) (by decide) Config.empty .idle)
  have h₃ := h₂.cons (@System.Step.built _ [] [⟨0, 0, .reserved⟩] 1 0 10 rfl fun m _ => by
    show 0 ≠ 10
    decide)
  have h₄ := h₃.cons (@System.Step.built _ [⟨1, 0, .built⟩] [] 0 0 20 rfl fun m _ => by
    show (if m = 1 then 10 else 0) ≠ 20
    split <;> decide)
  have h₅ := h₄.cons (@System.Step.counted _ [] [⟨0, 0, .built⟩] 1 0 _ rfl rfl)
  have h₆ := h₅.cons (@System.Step.registered _ [] [⟨0, 0, .built⟩] 1 0 false _ rfl rfl)
  have h₇ := h₆.cons (@System.Step.counted _ [] [] 0 0 _ rfl rfl)
  have h₈ := h₇.cons (@System.Step.registered _ [] [] 0 0 false _ rfl rfl)
  have h₉ := h₈.cons (@System.Step.dropped _ [] [.managed 1] (.managed 0) rfl)
  exact ⟨_, _, _, h₉, rfl, rfl, by decide, by decide⟩

/-- The registry lists root and the other one, and pruning takes one entry out. -/
theorem enumeration_exact_enteredOutOfOrder : ∃ es s r, Run es s ∧ s.registries[0]? = some r ∧
    r.containers s.alive = [.root, .managed 1] ∧ r.size = 3 ∧ (r.prune s.alive).2 = 1 ∧
    (∃ id, .registered 0 id 0 ∈ es) ∧ s.alive 0 = false ∧
    ∀ id h, r.get? s.alive id = some h ↔ h ∈ [.root, .managed 1] ∧ s.pool.id h = id := by
  obtain ⟨es, s, r, hrun, hr, hsize, hlisted, hdead⟩ := exists_enteredOutOfOrder
  obtain ⟨⟨hcontainers, -, -⟩, -, -, -, ⟨hlength, -, hmem, hprune, -⟩, hids⟩ :=
    enumeration_exact hrun hr
  obtain ⟨hknows, -, hget, -⟩ := hids (by rw [hsize]; decide)
  rw [hlisted] at hcontainers
  have hcontainers' : r.containers s.alive = [.root, .managed 1] := hcontainers
  obtain ⟨hdropped, hknown, -⟩ := (hmem 0).mp (by simp [hdead])
  refine ⟨es, s, r, hrun, hr, hcontainers', ?_, ?_, (hknows 0).mp hknown, hdropped, ?_⟩
  · rw [hlength, hlisted, hdead]
    rfl
  · rw [hprune, hdead]
    rfl
  · rw [← hcontainers']
    exact hget

end ResourceContainers.Registration
