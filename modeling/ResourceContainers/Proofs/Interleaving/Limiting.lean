import ResourceContainers.Proofs.Interleaving.Family
import ResourceContainers.Proofs.Limits.Overlay

/-!
# The constraints that are put on a container

A container starts with the limits of its configuration.  While it runs, any thread may put further
constraints on it.  At any time its limits are those of a configuration again: of the one that it
was created from, with all constraints that have been put on it appended in the order in which that
happened.

* `Note.update?`, `updates`: the constraints that were put on a container.
* `Moves.limits`, `World.limits_step`: what one step does to the limits of a container.
* `Created`: the configuration that a container was created from.
* `Run.limits`: the limits of a container after any steps of any threads.
* `Run.updates_of_destroyed`: nothing is put on a container that is destroyed.
-/

namespace ResourceContainers

/-- The same configuration with further constraints. -/
def Config.withConstraints (c : Config) (ks : List Constraint) : Config :=
  { c with constraints := c.constraints ++ ks }

/-- Further constraints are laid over what was there. -/
theorem Config.effective_withConstraints (c : Config) (ks : List Constraint) :
    (c.withConstraints ks).effective = c.effective.setAll ks :=
  List.foldl_append

namespace Interleaving

/-! ## What is put on a container -/

/-- The constraint that a step puts on the container `n`. -/
def Note.update? (n : Nat) : Note → Option Constraint
  | .updated (.managed m) k => if m = n then some k else none
  | _ => none

theorem Note.update?_eq_some {n : Nat} {note : Note} {k : Constraint} :
    note.update? n = some k ↔ note = .updated (.managed n) k := by
  constructor
  · intro h
    unfold update? at h
    split at h
    · next m k' =>
      split at h
      · next hm =>
        obtain rfl := Option.some.inj h
        rw [hm]
      · exact absurd h (by simp)
    · exact absurd h (by simp)
  · rintro rfl
    exact if_pos rfl

/-- The constraints that were put on the container `n`, in the order in which that happened. -/
def updates (n : Nat) (es : List Event) : List Constraint :=
  es.reverse.filterMap fun e => e.note.update? n

theorem updates_cons (n : Nat) (e : Event) (es : List Event) :
    updates n (e :: es) = updates n es ++ (e.note.update? n).toList := by
  rw [updates, updates, List.reverse_cons, List.filterMap_append]
  rfl

/-! ## One step -/

theorem Request.limits {p p' : Pool} {note : Note} (h : Request p p' note) {n : Nat}
    (hn : n < p.containers.size) :
    (p'.container n).limits = (p.container n).limits.setAll (note.update? n).toList := by
  cases h with
  | create c meter =>
    rw [Pool.container_create, if_neg (Nat.ne_of_lt hn)]
    rfl
  | @destroy h p' e =>
    cases h with
    | root => exact absurd e (by simp)
    | managed i =>
      rw [Pool.container_destroy e]
      split <;> rfl
  | @update h k p' e =>
    cases h with
    | root => exact absurd e (by simp [Pool.update])
    | managed i =>
      rw [Pool.container_update e, Note.update?]
      split <;> rfl
  | @setPolicy h policy p' e =>
    cases h with
    | root => exact absurd e (by simp [Pool.setPolicy])
    | managed i =>
      rw [Pool.container_setPolicy e]
      split <;> rfl
  | refused h why => rfl

theorem Moves.request_of_update {p : Pool} {s : Slot} {number number' n : Nat} {c : Option Call}
    {j : Option Job} {m : Move} (hm : Moves p s number c j m number') {k : Constraint}
    (h : m.note.update? n = some k) : Request p m.pool m.note := by
  have hnote := Note.update?_eq_some.mp h
  have he : p.update (.managed n) k = .ok m.pool := by
    have htrue := hm.truthful
    rw [Move.Truthful, hnote] at htrue
    exact htrue
  rw [hnote]
  exact .update he

/-- **What a move does to the limits of a container**: it lays over them what it puts on it. -/
theorem Moves.limits {p : Pool} {s : Slot} {number number' n : Nat} {c : Option Call}
    {j : Option Job} {m : Move} (hm : Moves p s number c j m number')
    (hn : n < p.containers.size) :
    (m.pool.container n).limits = (p.container n).limits.setAll (m.note.update? n).toList := by
  cases hk : m.note.update? n with
  | some k =>
    rw [← hk]
    exact (hm.request_of_update hk).limits hn
  | none =>
    show (m.pool.container n).limits = (p.container n).limits
    rcases hm.pool_cases with h | ⟨i, h⟩ | ⟨i, h⟩ | h
    · rw [h]
    · rw [Pool.container_acquire h]
      split <;> rfl
    · rw [h, Pool.container_release]
      split <;> rfl
    · rw [h.limits hn, hk]
      rfl

section Steps

variable {w w' : World} {k n : Nat} {a : Act} {note : Note} {es : List Event}

theorem World.limits_step (hs : w.step k a = some (w', note)) (hn : n < w.pool.containers.size) :
    w'.pool.limits (.managed n) =
      (w.pool.limits (.managed n)).setAll (note.update? n).toList := by
  rcases step_cases hs with ⟨rfl, rfl⟩ | hmoved
  · rfl
  · cases hmoved with
    | intro Γ hk hm hthreads htasks => exact hm.limits hn

theorem World.running_of_updated {c : Constraint}
    (hs : w.step k a = some (w', .updated (.managed n) c)) :
    w.pool.phase (.managed n) = .running := by
  rcases step_cases hs with ⟨-, hnote⟩ | hmoved
  · exact absurd hnote (by simp)
  · generalize hnote : Note.updated (.managed n) c = note at hmoved
    cases hmoved with
    | intro Γ hk hm hthreads htasks =>
    have htrue := hm.truthful
    rw [Move.Truthful, ← hnote] at htrue
    exact (Pool.update_eq_ok_iff.mp htrue).1

theorem World.pool_of_create {c : Config} {meter : Meter}
    (hs : w.step k (.perform (.create c meter)) = some (w', note)) :
    note = .created w.pool.containers.size ∧ w'.pool = (w.pool.create c meter).1 := by
  obtain ⟨th, hth⟩ := exists_thread hs
  have hfree := isFree_of_perform hth hs
  have hperform : w.perform k th (.create c meter) = some (w', note) := by
    simpa [step, hth, hfree] using hs
  obtain ⟨rfl, rfl⟩ := Prod.mk.inj (Option.some.inj hperform)
  exact ⟨rfl, rfl⟩

/-- A new container comes after all others, with the limits of its configuration. -/
theorem World.limits_of_create {c : Config} {meter : Meter}
    (hs : w.step k (.perform (.create c meter)) = some (w', note)) :
    note = .created w.pool.containers.size ∧
      w'.pool.containers.size = w.pool.containers.size + 1 ∧
      w'.pool.limits (.managed w.pool.containers.size) = c.effective := by
  obtain ⟨hnote, hpool⟩ := pool_of_create hs
  refine ⟨hnote, by rw [hpool]; exact Array.size_push .., ?_⟩
  rw [hpool, Pool.limits, Pool.container_create, if_pos rfl]
  rfl

/-! ## All steps -/

/-- The container `n` was created from the configuration `c`. -/
def Created (n : Nat) (c : Config) (es : List Event) : Prop :=
  ∃ k meter, ⟨k, .perform (.create c meter), .created n⟩ ∈ es

/-- What the limits of the containers have come to after the steps `es`.  Nothing was put on a
container that there is not yet. -/
structure World.Limited (w : World) (es : List Event) : Prop where
  unborn : ∀ n, w.pool.containers.size ≤ n → updates n es = []
  born : ∀ n c, Created n c es → n < w.pool.containers.size
  limits : ∀ n c, Created n c es →
    w.pool.limits (.managed n) = (c.withConstraints (updates n es)).effective

theorem World.Limited.step (hw : w.Limited es) (hs : w.step k a = some (w', note)) :
    w'.Limited (⟨k, a, note⟩ :: es) where
  unborn i hi := by
    have hsize : w.pool.containers.size ≤ i := Nat.le_trans (size_le_step hs) hi
    have hnone : note.update? i = none := by
      cases hk : note.update? i with
      | none => rfl
      | some c =>
        obtain rfl := Note.update?_eq_some.mp hk
        exact absurd (Pool.lt_size_of_running (running_of_updated hs)) (Nat.not_lt.mpr hsize)
    rw [updates_cons, hw.unborn i hsize, hnone]
    rfl
  born i c hc := by
    obtain ⟨l, meter, hmem⟩ := hc
    rcases List.mem_cons.mp hmem with heq | hmem
    · obtain ⟨rfl, rfl, rfl⟩ := Event.mk.inj heq
      obtain ⟨hnote, hsize, -⟩ := limits_of_create hs
      obtain rfl := Note.created.inj hnote
      omega
    · exact Nat.lt_of_lt_of_le (hw.born i c ⟨l, meter, hmem⟩) (size_le_step hs)
  limits i c hc := by
    obtain ⟨l, meter, hmem⟩ := hc
    rw [updates_cons, Config.effective_withConstraints]
    rcases List.mem_cons.mp hmem with heq | hmem
    · obtain ⟨rfl, rfl, rfl⟩ := Event.mk.inj heq
      obtain ⟨hnote, -, hlimits⟩ := limits_of_create hs
      obtain rfl := Note.created.inj hnote
      rw [hlimits, hw.unborn _ (Nat.le_refl _)]
      rfl
    · have hold : Created i c es := ⟨l, meter, hmem⟩
      rw [limits_step hs (hw.born i c hold), hw.limits i c hold, Config.effective_withConstraints,
        Limits.setAll, Limits.setAll, Limits.setAll, List.foldl_append]

theorem Run.limited (h : Run .start es w) : w.Limited es := by
  induction h with
  | nil =>
    refine ⟨fun _ _ => rfl, fun n c hc => ?_, fun n c hc => ?_⟩ <;>
    · obtain ⟨k, meter, hmem⟩ := hc
      exact absurd hmem (by simp)
  | cons h hs ih => exact ih.step hs

/-- **The limits of a container are those of its configuration with all that was put on it.** -/
theorem Run.limits (h : Run .start es w) {c : Config} (hc : Created n c es) :
    w.pool.limits (.managed n) = (c.withConstraints (updates n es)).effective :=
  h.limited.limits n c hc

/-- **Nothing is put on a destroyed container.** -/
theorem Run.updates_of_destroyed (h : Run w es w') (hw : w.Sound) (hd : w.Destroyed n) :
    updates n es = [] := by
  induction h with
  | nil => rfl
  | @cons es v v' k a note h hs ih =>
    have hv : v.Destroyed n := (h.destroyed hw hd).1
    have hnone : note.update? n = none := by
      cases hk : note.update? n with
      | none => rfl
      | some c =>
        obtain rfl := Note.update?_eq_some.mp hk
        exact absurd (hv.2.symm.trans (World.running_of_updated hs)) (by decide)
    rw [updates_cons, ih, hnone]
    rfl

theorem Run.limits_of_destroyed (h : Run w es w') (hw : w.Sound) (hd : w.Destroyed n) :
    w'.pool.limits (.managed n) = w.pool.limits (.managed n) := by
  induction h with
  | nil => rfl
  | @cons es v v' k a note h hs ih =>
    have hv : v.Destroyed n := (h.destroyed hw hd).1
    have hlast : updates n [⟨k, a, note⟩] = [] :=
      (Run.nil.cons hs).updates_of_destroyed (h.sound hw) hv
    have hnone : (note.update? n).toList = [] := by
      rw [← hlast, updates_cons]
      rfl
    rw [World.limits_step hs hv.1, hnone, ← ih]
    rfl

end Steps

end Interleaving

end ResourceContainers
