import ResourceContainers.Proofs.Registration.Enumeration

/-!
# The identity of a container stands for the container

Handles are compared by the addresses of their containers.  Identities are numbers from a counter
that all registries share.  The two have nothing to do with each other: an address may be used again
once a container is gone, a number is not.  Still two handles that anybody can get at the same time
are on the same container exactly if the identities are the same.

* `Step.address_or`: only building a container gives out an address, one that is free.
* `Step.allocated`: no other container comes to lie anywhere.
* `Run.address_inj`: containers that lie somewhere lie apart.
* `Sound.allocated_of_route`: a handle is on a container that lies somewhere.
* `identity_unique`: the main statement.
-/

namespace ResourceContainers.Registration

namespace System

variable {s s' : System} {new : List Event} {m : Nat}

/-! ## Addresses -/

/-- A creation that comes further leaves the ones that have not begun as they are. -/
theorem unbuilt_of_advance {before behind : List Creation} {c c' : Creation}
    (hc : s.creations = before ++ c :: behind) (hc' : s'.creations = before ++ c' :: behind)
    (hm : c.place = m → c.stage ≠ .reserved) (h : s.Unbuilt m) : s'.Unbuilt m := by
  obtain ⟨k, hk⟩ := h
  refine ⟨k, ?_⟩
  rw [hc] at hk
  rw [hc']
  simp only [List.mem_append, List.mem_cons] at hk ⊢
  rcases hk with hk | rfl | hk
  · exact .inl hk
  · exact absurd rfl (hm rfl)
  · exact .inr (.inr hk)

/-- **Only building gives out an address**, and one where no other container lies. -/
theorem Step.address_or (h : s.Step new s') :
    (s'.address = s.address ∧ ∀ m, s.Unbuilt m → s'.Unbuilt m) ∨
      ∃ n a, (∀ m, s.Allocated m → s.address m ≠ a) ∧
        (∀ m, s'.address m = if m = n then a else s.address m) ∧
        ∀ m, m ≠ n → s.Unbuilt m → s'.Unbuilt m := by
  cases h with
  | reserved hk c m => exact .inl ⟨rfl, fun m ⟨k, hm⟩ => ⟨k, List.mem_cons_of_mem _ hm⟩⟩
  | @built before behind n k a hc ha =>
    refine .inr ⟨n, a, ha, fun _ => rfl, fun m hm => ?_⟩
    exact unbuilt_of_advance hc rfl fun hn => absurd hn.symm hm
  | counted hc hr =>
    exact .inl ⟨rfl, fun m => unbuilt_of_advance hc rfl fun _ => by simp⟩
  | @registered before behind n k sweeps r hc hr =>
    refine .inl ⟨rfl, fun m ⟨k', hm⟩ => ⟨k', ?_⟩⟩
    rw [hc] at hm
    show _ ∈ before ++ behind
    simp only [List.mem_append, List.mem_cons] at hm ⊢
    exact hm.imp_right fun h => h.resolve_left (by simp)
  | _ => exact .inl ⟨rfl, fun _ => id⟩

/-- What is entered into a registry is alive, so no reference comes out of nothing. -/
theorem Step.referenced (h : s.Step new s') (hm : s'.Referenced m) :
    s.Referenced m ∨ s'.Unbuilt m := by
  have hset {k : Nat} {r r' : Registry} (hr : s.registries[k]? = some r)
      (hvalues : m ∈ r'.entries.values → m ∈ r.entries.values ∨ s.alive m = true)
      (hmem : ∃ q ∈ s.registries.set k r', m ∈ q.entries.values) : s.Referenced m := by
    obtain ⟨q, hq, hentry⟩ := hmem
    rcases List.mem_or_eq_of_mem_set hq with hold | rfl
    · exact .inr ⟨q, hold, hentry⟩
    · exact (hvalues hentry).symm.imp_right fun h => ⟨r, List.mem_of_getElem? hr, h⟩
  rcases h.frame_or with ⟨-, hf⟩ | ⟨k, c, meter, -, rfl⟩ |
    ⟨before, behind, n, k, sweeps, r, hc, hr, -, rfl⟩ | ⟨k, r, hr, -, rfl⟩
  · refine .inl (hm.imp (hf.alive m) fun ⟨r', hr', hentry⟩ => ?_)
    obtain ⟨k, hk⟩ := List.mem_iff_getElem?.mp hr'
    rcases hf.registries k r' hk with ⟨r, hr, hentries⟩ | ⟨-, hentries⟩
    · exact ⟨r, List.mem_of_getElem? hr, hentries ▸ hentry⟩
    · rw [hentries] at hentry
      exact absurd hentry (by simp [Table.values, Table.empty])
  · rcases hm with halive | hentry
    · rcases alive_reserve halive with rfl | hold
      · exact .inr ⟨k, List.mem_cons_self ..⟩
      · exact .inl (.inl hold)
    · exact .inl (.inr hentry)
  · rcases hm with halive | hentry
    · exact .inl (.inl (alive_enter hc halive))
    · refine .inl (hset hr (fun hvalue => ?_) hentry)
      obtain ⟨id, hget⟩ := (Table.mem_values_iff _ _).mp hvalue
      rcases Registry.get?_enter_eq_some.mp hget with ⟨-, rfl⟩ | ⟨-, hold, -⟩
      · exact .inr (alive_iff.mpr (.inr (by simp [hc])))
      · exact .inl ((Table.mem_values_iff _ _).mpr ⟨id, hold⟩)
  · rcases hm with halive | hentry
    · exact .inl (.inl halive)
    · refine .inl (hset hr (fun hvalue => .inl ?_) hentry)
      obtain ⟨id, hget⟩ := (Table.mem_values_iff _ _).mp hvalue
      exact (Table.mem_values_iff _ _).mpr ⟨id, (Registry.get?_sweep_eq_some.mp hget).1⟩

/-- A container that lies somewhere after a step lay there before, unless it is the one that was
built. -/
theorem Step.allocated (h : s.Step new s') (hm : s'.Allocated m)
    (hunbuilt : s.Unbuilt m → s'.Unbuilt m) : s.Allocated m :=
  ⟨(h.referenced hm.1).resolve_right hm.2, fun h => hm.2 (hunbuilt h)⟩

/-- Containers that lie somewhere lie apart. -/
def Apart (s : System) : Prop :=
  ∀ m n, s.Allocated m → s.Allocated n → s.address m = s.address n → m = n

/-- **No step puts two containers in one place.** -/
theorem Apart.step (hs : s.Apart) (h : s.Step new s') : s'.Apart := by
  intro m n hm hn he
  rcases h.address_or with ⟨hsame, hunbuilt⟩ | ⟨k, a, hfree, haddress, hunbuilt⟩
  · rw [hsame] at he
    exact hs m n (h.allocated hm (hunbuilt m)) (h.allocated hn (hunbuilt n)) he
  · rw [haddress, haddress] at he
    by_cases hmk : m = k
    · by_cases hnk : n = k
      · exact hmk.trans hnk.symm
      · rw [if_pos hmk, if_neg hnk] at he
        exact absurd he.symm (hfree n (h.allocated hn (hunbuilt n hnk)))
    · by_cases hnk : n = k
      · rw [if_neg hmk, if_pos hnk] at he
        exact absurd he (hfree m (h.allocated hm (hunbuilt m hmk)))
      · rw [if_neg hmk, if_neg hnk] at he
        exact hs m n (h.allocated hm (hunbuilt m hmk)) (h.allocated hn (hunbuilt n hnk)) he

end System

theorem Run.apart {es : List Event} {s : System} (h : Run es s) : s.Apart := by
  induction h with
  | nil =>
    rintro m n ⟨hm | ⟨r, hr, -⟩, -⟩ - -
    · exact absurd hm (by simp [System.alive, System.start, Slot.fresh, Slot.current])
    · exact absurd hr (by simp [System.start])
  | cons _ hs ih => exact ih.step hs

namespace Sound

variable {es : List Event} {s : System} {n : Nat}

/-- **A handle that anybody can get** is on a container that lies somewhere. -/
theorem allocated_of_route (hs : Sound es s) {hs' : List Handle} (h : s.Route hs')
    (hn : .managed n ∈ hs') : s.Allocated n := by
  refine ⟨.inl (h.alive hn), fun ⟨k, hk⟩ => ?_⟩
  have hplace : n ∈ s.creations.map Creation.place := List.mem_map_of_mem hk
  rcases h.source hn with hshared | ⟨r, hr, hlisted⟩
  · exact hs.unshared n hplace hshared
  · obtain ⟨k', hk'⟩ := List.mem_iff_getElem?.mp hr
    obtain ⟨id, hget⟩ := (Registry.mem_listed.mp hlisted).1
    have hentered := mem_of_lastUnder ((hs.entries k' r hk' id n).mp hget).1
    exact hs.unregistered n hplace (mem_registrations.mpr ⟨k', id, hentered⟩)

theorem pairwise_reservations (hs : Sound es s) (hids : s.pool.containers.size < UInt64.size) :
    (Registration.reservations es).Pairwise (· > ·) := by
  rw [hs.reservations, List.pairwise_reverse, List.pairwise_map]
  refine List.pairwise_lt_range.imp_of_mem fun {m n} _ hn hmn => ?_
  have hlt := List.mem_range.mp hn
  exact idAt_lt_idAt hmn (by omega)

/-- The identities that were given out are those of the containers, in the order of their places. -/
theorem reservations_eq (hs : Sound es s) : Registration.reservations es =
    ((List.range s.pool.containers.size).map fun n => s.pool.id (.managed n)).reverse := by
  rw [hs.reservations]
  congr 1
  exact List.map_congr_left fun n hn => (hs.ids n (List.mem_range.mp hn)).symm

/-- **Addresses and identities agree** on the handles that anybody can get. -/
theorem same_iff (hs : Sound es s) (hapart : s.Apart)
    (hids : s.pool.containers.size < UInt64.size) {as bs : List Handle} (ha : s.Route as)
    (hb : s.Route bs) {a b : Handle} (hmema : a ∈ as) (hmemb : b ∈ bs) :
    (s.same a b = true ↔ a = b) ∧ (a = b ↔ s.pool.id a = s.pool.id b) := by
  have hlt {hs' : List Handle} (h : s.Route hs') {n : Nat} (hn : .managed n ∈ hs') :
      n < s.pool.containers.size := hs.placed n (h.alive hn)
  cases a with
  | root =>
    cases b with
    | root => simp [System.same]
    | managed n =>
      have hpos := hs.id_pos hids (hlt hb hmemb)
      refine ⟨by simp [System.same], fun h => absurd h (by simp), fun h => ?_⟩
      rw [← h] at hpos
      exact absurd hpos (UInt64.lt_irrefl 0)
  | managed m =>
    cases b with
    | root =>
      have hpos := hs.id_pos hids (hlt ha hmema)
      refine ⟨by simp [System.same], fun h => absurd h (by simp), fun h => ?_⟩
      rw [h] at hpos
      exact absurd hpos (UInt64.lt_irrefl 0)
    | managed n =>
      constructor
      · rw [System.same, beq_iff_eq]
        refine ⟨fun h => ?_, fun h => by rw [Handle.managed.inj h]⟩
        exact congrArg Handle.managed
          (hapart m n (hs.allocated_of_route ha hmema) (hs.allocated_of_route hb hmemb) h)
      · refine ⟨fun h => by rw [h], fun h => ?_⟩
        exact congrArg Handle.managed (hs.place_inj hids (hlt ha hmema) (hlt hb hmemb) h)

end Sound

/-- **The identity of a container stands for the container.**

After any steps of any threads that have reserved at most `2 ^ 64 - 1` identities,

* the identities were reserved in strictly increasing order, so none was ever reserved twice,
  whether its container still exists or not;
* they are the identities of all containers that were ever created, none of them is that of root,
  and no two containers have the same one;
* a container keeps its identity whatever is done afterwards;
* two handles, however they were got, are equal exactly if the identities of their containers
  are. -/
theorem identity_unique {es : List Event} {s : System} (h : Run es s)
    (hids : s.pool.containers.size < UInt64.size) :
    ((reservations es).Pairwise (· > ·) ∧ reservations es =
      ((List.range s.pool.containers.size).map fun n => s.pool.id (.managed n)).reverse) ∧
    (∀ n, n < s.pool.containers.size → s.pool.id (.managed n) ≠ s.pool.id .root) ∧
    (∀ m n, m < s.pool.containers.size → n < s.pool.containers.size →
      s.pool.id (.managed m) = s.pool.id (.managed n) → m = n) ∧
    (∀ s', s.Later s' → ∀ n, n < s.pool.containers.size →
      s'.pool.id (.managed n) = s.pool.id (.managed n)) ∧
    ∀ as bs, s.Route as → s.Route bs → ∀ a ∈ as, ∀ b ∈ bs,
      (s.same a b = true ↔ s.pool.id a = s.pool.id b) ∧ (s.same a b = true ↔ a = b) := by
  have hs := h.sound
  refine ⟨⟨hs.pairwise_reservations hids, hs.reservations_eq⟩, fun n hn he => ?_,
    fun m n hm hn he => hs.place_inj hids hm hn he, fun s' hlater n hn => hlater.kept.2 n hn,
    fun as bs ha hb a hmema b hmemb => ?_⟩
  · have hpos := hs.id_pos hids hn
    rw [he] at hpos
    exact UInt64.lt_irrefl 0 hpos
  · obtain ⟨hsame, hid⟩ := hs.same_iff h.apart hids ha hb hmema hmemb
    exact ⟨hsame.trans hid, hsame⟩

/-- A container is let go and pruned, and the next one is built where it was. -/
theorem exists_addressUsedAgain : ∃ es s, Run es s ∧ s.pool.containers.size = 2 ∧
    s.address 1 = s.address 0 ∧ .managed 1 ∈ s.held ∧ reservations es = [2, 1] := by
  have h₀ := Run.nil.cons .opened
  have h₁ := h₀.cons (.reserved (k := 0) (by decide) Config.empty .idle)
  have h₂ := h₁.cons (@System.Step.built _ [] [] 0 0 10 rfl fun m _ => by
    show 0 ≠ 10
    decide)
  have h₃ := h₂.cons (@System.Step.counted _ [] [] 0 0 _ rfl rfl)
  have h₄ := h₃.cons (@System.Step.registered _ [] [] 0 0 false _ rfl rfl)
  have h₅ := h₄.cons (@System.Step.dropped _ [] [] (.managed 0) rfl)
  have h₆ := h₅.cons (.pruned (k := 0) rfl)
  have h₇ := h₆.cons (.reserved (k := 0) (by decide) Config.empty .idle)
  have h₈ := h₇.cons (@System.Step.built _ [] [] 1 0 10 rfl fun m hm => by
    by_cases h : m = 0
    · -- nothing holds on to the first container, and the registry has no entry for it
      subst h
      rcases hm.1 with halive | ⟨r, hr, hmem⟩
      · exact absurd halive (by decide)
      · obtain rfl := List.mem_singleton.mp hr
        exact absurd hmem (by decide)
    · show (if m = 0 then 10 else 0) ≠ 10
      rw [if_neg h]
      decide)
  have h₉ := h₈.cons (@System.Step.counted _ [] [] 1 0 _ rfl rfl)
  have h₁₀ := h₉.cons (@System.Step.registered _ [] [] 1 0 false _ rfl rfl)
  exact ⟨_, _, h₁₀, rfl, rfl, List.mem_singleton_self _, rfl⟩

/-- The two have the same address, one after the other, and different identities. -/
theorem identity_unique_addressUsedAgain : ∃ es s, Run es s ∧ s.address 1 = s.address 0 ∧
    (reservations es = [2, 1] ∧ (reservations es).Pairwise (· > ·)) ∧
    s.pool.id (.managed 1) ≠ s.pool.id (.managed 0) ∧
    s.pool.id (.managed 1) ≠ s.pool.id .root ∧ s.Route [.managed 1] ∧
    (s.same (.managed 1) .root = true ↔ s.pool.id (.managed 1) = s.pool.id .root) := by
  obtain ⟨es, s, hrun, hsize, haddress, hheld, hreserved⟩ := exists_addressUsedAgain
  have hroute : s.Route [.managed 1] := .clone hheld
  obtain ⟨⟨hordered, -⟩, hnotRoot, hinj, -, hsame⟩ :=
    identity_unique hrun (by rw [hsize]; decide)
  refine ⟨es, s, hrun, haddress, ⟨hreserved, hordered⟩, fun he => ?_,
    hnotRoot 1 (by omega), hroute, ?_⟩
  · exact absurd (hinj 1 0 (by omega) (by omega) he) (by decide)
  · exact (hsame _ _ hroute .root _ (List.mem_singleton_self _) _ (List.mem_singleton_self _)).1

end ResourceContainers.Registration
