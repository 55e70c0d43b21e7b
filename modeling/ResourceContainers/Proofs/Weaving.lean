/-!
# Lists that are woven into one

A call that is not atomic is a list of accesses.  When several calls run past one another, each
keeps the order of its own accesses, and whose access comes next is nobody's choice.  Here such a
choice is a list of turns: each turn names the list whose first entry is taken.

* `weave`: what is taken turn by turn, and what is left.
* `Woven`: what can be taken until nothing is left.
* `perm_of_weave`, `Woven.perm_flatten`: nothing is lost and nothing is taken twice.
* `woven_flatten`: one list after the other is one of the ways.
* `exists_perm_of_perm_filterMap`: calls in the order of the one access that each of them makes.
-/

namespace ResourceContainers

variable {α : Type}

/-- Takes, turn by turn, the first entry of the list whose turn it is; gives what was taken and what
is left of the lists. -/
def weave : List Nat → List (List α) → Option (List α × List (List α))
  | [], ls => some ([], ls)
  | i :: turns, ls =>
    match ls[i]? with
    | some (a :: l) => (weave turns (ls.set i l)).map fun r => (a :: r.1, r.2)
    | _ => none

/-- The entries of some lists, taken in some order that keeps the order of each list. -/
def Woven (ls : List (List α)) (as : List α) : Prop :=
  ∃ turns rest, weave turns ls = some (as, rest) ∧ ∀ l ∈ rest, l = []

theorem weave_cons_eq_some {i : Nat} {turns : List Nat} {ls rest : List (List α)} {as : List α}
    (h : weave (i :: turns) ls = some (as, rest)) :
    ∃ a l as', ls[i]? = some (a :: l) ∧ as = a :: as' ∧
      weave turns (ls.set i l) = some (as', rest) := by
  rw [weave] at h
  split at h
  · next a l hi =>
    obtain ⟨⟨as', rest'⟩, hr, he⟩ := Option.map_eq_some_iff.mp h
    obtain ⟨rfl, rfl⟩ := Prod.mk.inj he
    exact ⟨a, l, as', hi, rfl, hr⟩
  · exact absurd h (by simp)

/-- Taking the first entry of one list takes that entry and nothing else. -/
theorem cons_flatten_set_perm {ls : List (List α)} {i : Nat} {a : α} {l : List α}
    (hi : ls[i]? = some (a :: l)) : (a :: (ls.set i l).flatten).Perm ls.flatten := by
  induction ls generalizing i with
  | nil => exact absurd hi (by simp)
  | cons l' ls ih =>
    cases i with
    | zero =>
      obtain rfl := Option.some.inj hi
      exact .refl _
    | succ i =>
      rw [List.set_cons_succ, List.flatten_cons, List.flatten_cons]
      exact List.perm_middle.symm.trans ((ih (i := i) hi).append_left l')

/-- **Nothing is lost and nothing is taken twice.** -/
theorem perm_of_weave {turns : List Nat} {ls rest : List (List α)} {as : List α}
    (h : weave turns ls = some (as, rest)) : (as ++ rest.flatten).Perm ls.flatten := by
  induction turns generalizing ls as with
  | nil =>
    obtain ⟨rfl, rfl⟩ := Prod.mk.inj (Option.some.inj h)
    exact .refl _
  | cons i turns ih =>
    obtain ⟨a, l, as', hi, rfl, hrest⟩ := weave_cons_eq_some h
    exact ((ih hrest).cons a).trans (cons_flatten_set_perm hi)

theorem Woven.perm_flatten {ls : List (List α)} {as : List α} (h : Woven ls as) :
    as.Perm ls.flatten := by
  obtain ⟨turns, rest, hweave, hrest⟩ := h
  have hperm := perm_of_weave hweave
  rwa [List.flatten_eq_nil_iff.mpr hrest, List.append_nil] at hperm

/-- The turns of one list after the other, the first list being the one at the place `i`. -/
def inTurn : Nat → List (List α) → List Nat
  | _, [] => []
  | i, l :: ls => List.replicate l.length i ++ inTurn (i + 1) ls

/-- One list after the other, from the place `done.length` on. -/
theorem weave_inTurn (done ls : List (List α)) :
    weave (inTurn done.length ls) (done ++ ls) =
      some (ls.flatten, done ++ List.replicate ls.length []) := by
  induction ls generalizing done with
  | nil => rfl
  | cons l ls ih =>
    induction l with
    | nil =>
      have hnext := ih (done ++ [[]])
      rw [List.length_append, List.append_assoc, List.append_assoc] at hnext
      exact hnext
    | cons a l ihl =>
      have hfirst : (done ++ (a :: l) :: ls)[done.length]? = some (a :: l) := by simp
      have hset : (done ++ (a :: l) :: ls).set done.length l = done ++ l :: ls := by simp
      have hturns : inTurn done.length ((a :: l) :: ls) =
          done.length :: inTurn done.length (l :: ls) := rfl
      simp only [hturns, weave, hfirst, hset, ihl]
      rfl

theorem woven_flatten (ls : List (List α)) : Woven ls ls.flatten :=
  ⟨inTurn 0 ls, _, weave_inTurn [] ls, fun _ hl => (List.mem_replicate.mp hl).2⟩

/-- Calls can be put into the order in which their accesses came, if each of them makes one access
or none. -/
theorem exists_perm_of_perm_filterMap {β : Type} {f : α → Option β} {as : List α} {bs : List β}
    (h : bs.Perm (as.filterMap f)) : ∃ as' : List α, as'.Perm as ∧ as'.filterMap f = bs := by
  induction bs generalizing as with
  | nil => exact ⟨as, .refl as, List.nil_perm.mp h⟩
  | cons b bs ih =>
    obtain ⟨a, ha, hb⟩ := List.mem_filterMap.mp (h.mem_iff.mp (List.mem_cons_self ..))
    obtain ⟨before, later, rfl⟩ := List.append_of_mem ha
    have hfirst : (before ++ a :: later).Perm (a :: (before ++ later)) := List.perm_middle
    have hrest : bs.Perm ((before ++ later).filterMap f) := by
      have hperm := h.trans (hfirst.filterMap f)
      rw [List.filterMap_cons_some hb] at hperm
      exact hperm.cons_inv
    obtain ⟨as', hperm, hbs⟩ := ih hrest
    refine ⟨a :: as', (hperm.cons a).trans hfirst.symm, ?_⟩
    rw [List.filterMap_cons_some hb, hbs]

end ResourceContainers
