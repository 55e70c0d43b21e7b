import ResourceContainers.Pool

/-!
# What each operation does to each container

`Pool.container_change` says what becomes of a container when some container is changed.  Here that
is said for every operation of the pool, with the condition under which the operation goes through,
so that nothing further on has to look inside the operations.

* `acquire_eq_ok_iff`, `destroy_eq_ok_iff`, `update_eq_ok_iff`: when an operation goes through.
* `container_acquire`, `container_release`, `container_destroy`, `container_update`,
  `container_setPolicy`, `container_create`: what it does.
* `Pool.Settled`: a destroyed container has no attachment.  Every operation keeps that, and none
  lets a destroyed container run again.
* `Pool.Change`: any of these operations.  `Pool.Change.sameIds`: no container is lost or gets
  another identity.
-/

namespace ResourceContainers.Pool

variable {p p' : Pool} {n m : Nat}

/-! ## One container -/

theorem container_of_size_le (h : p.containers.size ≤ n) : p.container n = Container.absent := by
  rw [container, Array.getD_eq_getD_getElem?, Array.getElem?_eq_none h]
  rfl

theorem lt_size_of_running (h : (p.container n).phase = .running) : n < p.containers.size := by
  refine Nat.lt_of_not_le fun hn => ?_
  rw [container_of_size_le hn] at h
  exact absurd h (by decide)

/-- Changing a container that runs. -/
theorem container_change_of_running (f : Container → Container)
    (h : (p.container n).phase = .running) :
    (p.change n f).container m = if n = m then f (p.container m) else p.container m := by
  rw [container_change]
  by_cases hnm : n = m
  · subst hnm
    rw [if_pos ⟨rfl, lt_size_of_running h⟩, if_pos rfl]
  · rw [if_neg (fun h => hnm h.1), if_neg hnm]

/-! ## Attaching and detaching -/

/-- A container is attached to exactly when it runs. -/
theorem acquire_eq_ok_iff :
    p.acquire n = .ok p' ↔ (p.container n).phase = .running ∧
      p' = p.change n fun c => { c with attached := c.attached + 1 } := by
  unfold acquire
  cases h : (p.container n).phase with
  | running => simp [eq_comm]
  | destroyed => simp

/-- The only reason not to be attached to is not to run. -/
theorem acquire_eq_error_iff {why : Refusal} :
    p.acquire n = .error why ↔ (p.container n).phase = .destroyed ∧ why = .notRunning := by
  unfold acquire
  cases h : (p.container n).phase with
  | running => simp
  | destroyed => simp [eq_comm]

theorem container_acquire (h : p.acquire n = .ok p') (m : Nat) :
    p'.container m =
      if n = m then { p.container m with attached := (p.container m).attached + 1 }
      else p.container m := by
  obtain ⟨hr, rfl⟩ := acquire_eq_ok_iff.mp h
  exact container_change_of_running _ hr

theorem container_release (p : Pool) (n m : Nat) :
    (p.release n).container m =
      if n = m then { p.container m with attached := (p.container m).attached - 1 }
      else p.container m := by
  rw [release, container_change]
  by_cases hnm : n = m
  · by_cases hm : m < p.containers.size
    · rw [if_pos ⟨hnm, hm⟩, if_pos hnm]
    · -- a container that is not in the pool counts nothing, and nothing less one is nothing
      rw [if_neg (fun h => hm h.2), if_pos hnm, container_of_size_le (Nat.le_of_not_lt hm)]
      rfl
  · rw [if_neg (fun h => hnm h.1), if_neg hnm]

theorem attached_acquire (h : p.acquire n = .ok p') (m : Nat) :
    (p'.container m).attached = (p.container m).attached + if n = m then 1 else 0 := by
  rw [container_acquire h]
  split <;> rfl

theorem attached_release (p : Pool) (n m : Nat) :
    ((p.release n).container m).attached = (p.container m).attached - if n = m then 1 else 0 := by
  rw [container_release]
  split <;> rfl

@[simp] theorem phase_release (p : Pool) (n m : Nat) :
    ((p.release n).container m).phase = (p.container m).phase := by
  rw [container_release]
  split <;> rfl

theorem phase_acquire (h : p.acquire n = .ok p') (m : Nat) :
    (p'.container m).phase = (p.container m).phase := by
  rw [container_acquire h]
  split <;> rfl

/-! ## The other operations -/

/-- A container is destroyed exactly when it runs and nothing is attached to it. -/
theorem destroy_eq_ok_iff :
    p.destroy (.managed n) = .ok p' ↔ (p.container n).phase = .running ∧
      (p.container n).attached = 0 ∧ p' = p.change n fun c => { c with phase := .destroyed } := by
  unfold destroy
  cases h : (p.container n).phase with
  | running => by_cases ha : (p.container n).attached = 0 <;> simp [h, ha, eq_comm]
  | destroyed => simp [h]

@[simp] theorem destroy_root (p : Pool) : p.destroy .root = .error .destroyRoot := rfl

/-- A container that runs is refused to be destroyed as long as something is attached to it. -/
theorem destroy_of_attached (hr : (p.container n).phase = .running)
    (ha : 0 < (p.container n).attached) :
    p.destroy (.managed n) = .error (.stillAttached (p.container n).attached) := by
  unfold destroy
  simp only [hr]
  exact if_neg (Nat.ne_of_gt ha)

/-- What the refusal says is what is attached. -/
theorem destroy_eq_stillAttached_iff {k : Nat} :
    p.destroy (.managed n) = .error (.stillAttached k) ↔ (p.container n).phase = .running ∧
      0 < (p.container n).attached ∧ k = (p.container n).attached := by
  unfold destroy
  cases h : (p.container n).phase with
  | running => by_cases ha : (p.container n).attached = 0 <;> simp [h, ha, eq_comm]; omega
  | destroyed => simp [h]

theorem container_destroy (h : p.destroy (.managed n) = .ok p') (m : Nat) :
    p'.container m =
      if n = m then { p.container m with phase := .destroyed } else p.container m := by
  obtain ⟨hr, -, rfl⟩ := destroy_eq_ok_iff.mp h
  exact container_change_of_running _ hr

theorem attached_destroy {h : Handle} (hd : p.destroy h = .ok p') (m : Nat) :
    (p'.container m).attached = (p.container m).attached := by
  cases h with
  | root => exact absurd hd (by simp)
  | managed n =>
    rw [container_destroy hd]
    split <;> rfl

theorem update_eq_ok_iff {k : Constraint} :
    p.update (.managed n) k = .ok p' ↔ (p.container n).phase = .running ∧
      p' = p.change n fun c => { c with limits := c.limits.set k } := by
  unfold update
  cases h : (p.container n).phase with
  | running => simp [h, eq_comm]
  | destroyed => simp [h]

theorem container_update {k : Constraint} (h : p.update (.managed n) k = .ok p') (m : Nat) :
    p'.container m =
      if n = m then { p.container m with limits := (p.container m).limits.set k }
      else p.container m := by
  obtain ⟨hr, rfl⟩ := update_eq_ok_iff.mp h
  exact container_change_of_running _ hr

theorem attached_update {h : Handle} {k : Constraint} (hu : p.update h k = .ok p') (m : Nat) :
    (p'.container m).attached = (p.container m).attached := by
  cases h with
  | root => exact absurd hu (by simp [update])
  | managed n =>
    rw [container_update hu]
    split <;> rfl

theorem container_setPolicy {policy : Policy} (h : p.setPolicy (.managed n) policy = .ok p')
    (m : Nat) :
    p'.container m =
      if n = m ∧ m < p.containers.size then { p.container m with policy := policy }
      else p.container m := by
  obtain rfl : p.change n _ = p' := Except.ok.inj h
  exact container_change p n m _

/-- A new container comes after all others and leaves them alone. -/
theorem container_create (p : Pool) (c : Config) (meter : Meter) (m : Nat) :
    (p.create c meter).1.container m =
      if m = p.containers.size then Container.ofConfig p.nextId c meter else p.container m := by
  simp only [create, container, Array.getD_eq_getD_getElem?, Array.getElem?_push]
  split <;> rfl

/-! ## Settled pools -/

/-- Nothing is attached to a destroyed container. -/
def Settled (p : Pool) : Prop :=
  ∀ n, (p.container n).phase = .destroyed → (p.container n).attached = 0

theorem settled_empty : Settled empty := by
  intro n _
  rw [container_of_size_le (Nat.zero_le n)]
  rfl

namespace Settled

/-- In a settled pool whatever has an attachment runs. -/
theorem running (h : p.Settled) (ha : 0 < (p.container n).attached) :
    (p.container n).phase = .running := by
  cases hp : (p.container n).phase with
  | running => rfl
  | destroyed => exact absurd (h n hp) (Nat.ne_of_gt ha)

theorem acquire (hs : p.Settled) (h : p.acquire n = .ok p') : p'.Settled := by
  intro m hm
  rw [phase_acquire h] at hm
  have hnm : n ≠ m := by
    rintro rfl
    rw [(acquire_eq_ok_iff.mp h).1] at hm
    exact absurd hm (by decide)
  rw [attached_acquire h, if_neg hnm, hs m hm]

theorem release (hs : p.Settled) (n : Nat) : (p.release n).Settled := by
  intro m hm
  rw [phase_release] at hm
  rw [attached_release, hs m hm, Nat.zero_sub]

theorem destroy (hs : p.Settled) (h : p.destroy (.managed n) = .ok p') : p'.Settled := by
  intro m hm
  rw [container_destroy h] at hm ⊢
  by_cases hnm : n = m
  · subst hnm
    rw [if_pos rfl]
    exact (destroy_eq_ok_iff.mp h).2.1
  · rw [if_neg hnm] at hm ⊢
    exact hs m hm

end Settled

/-! ## What no operation does -/

/-- What can happen to a pool besides that a container is created. -/
inductive Change (p : Pool) : Pool → Prop
  | acquire {n : Nat} {p' : Pool} (e : p.acquire n = .ok p') : Change p p'
  | release (n : Nat) : Change p (p.release n)
  | destroy {h : Handle} {p' : Pool} (e : p.destroy h = .ok p') : Change p p'
  | update {h : Handle} {k : Constraint} {p' : Pool} (e : p.update h k = .ok p') : Change p p'
  | setPolicy {h : Handle} {policy : Policy} {p' : Pool} (e : p.setPolicy h policy = .ok p') :
      Change p p'
  | meter (account : String) (f : Usage → Usage) : Change p (p.meter account f)

/-- The containers of two pools have the same identities, and the next one will have, too. -/
structure SameIds (p p' : Pool) : Prop where
  size : p'.containers.size = p.containers.size
  nextId : p'.nextId = p.nextId
  id : ∀ n, (p'.container n).id = (p.container n).id

theorem SameIds.refl (p : Pool) : p.SameIds p := ⟨rfl, rfl, fun _ => rfl⟩

theorem sameIds_change (n : Nat) {f : Container → Container} (hf : ∀ c, (f c).id = c.id) :
    p.SameIds (p.change n f) where
  size := size_change p n f
  nextId := rfl
  id m := by
    rw [container_change]
    split
    · exact hf _
    · rfl

/-- **A container keeps its identity.** -/
theorem Change.sameIds (h : p.Change p') : p.SameIds p' := by
  cases h with
  | acquire e =>
    obtain ⟨-, rfl⟩ := acquire_eq_ok_iff.mp e
    exact sameIds_change _ fun _ => rfl
  | release n => exact sameIds_change n fun _ => rfl
  | @destroy h p' e =>
    cases h with
    | root => exact absurd e (by simp)
    | managed n =>
      obtain ⟨-, -, rfl⟩ := destroy_eq_ok_iff.mp e
      exact sameIds_change n fun _ => rfl
  | @update h k p' e =>
    cases h with
    | root => exact absurd e (by simp [Pool.update])
    | managed n =>
      obtain ⟨-, rfl⟩ := update_eq_ok_iff.mp e
      exact sameIds_change n fun _ => rfl
  | @setPolicy h policy p' e =>
    cases h with
    | root => exact absurd e (by simp [Pool.setPolicy])
    | managed n =>
      obtain rfl := Except.ok.inj e
      exact sameIds_change n fun _ => rfl
  | meter account f => exact ⟨rfl, rfl, fun _ => rfl⟩

end ResourceContainers.Pool
