import Mathlib.Data.List.Basic
import Mathlib.Data.List.Nodup
import ResourceContainers.Table

/-!
# Tables as finite maps

A table is a list of entries in key order, and all that can be learnt from it is which value is
found under which key.  So a table is determined by its look-ups, and whatever puts the same entries
into a table, in whatever order, makes the same table.

* `Table.mem_entries_iff`: an entry of a table is what a look-up finds.
* `Table.ext_get?`: tables with the same look-ups are equal.
* `Table.size_insert_le`: putting in makes at most one entry more.
* `Table.insertAll`, `Table.get?_insertAll`: of several entries with one key the last one stays.
* `Table.ofList_of_perm`: a table is the table of its entries, in whatever order they come.
-/

namespace ResourceContainers

universe u v

namespace Table

variable {κ : Type u} {α : Type v} [Ord κ]

/-! ## Looking up in a list of entries -/

theorem mem_iff_look [Std.TransOrd κ] [Std.LawfulEqOrd κ] {k : κ} {a : α} {l : List (κ × α)}
    (hl : (l.map Prod.fst).Nodup) : (k, a) ∈ l ↔ look k l = some a := by
  induction l with
  | nil => simp [look]
  | cons e rest ih =>
    obtain ⟨k', a'⟩ := e
    rw [List.map_cons, List.nodup_cons] at hl
    rw [look]
    by_cases hk : compare k k' = .eq
    · obtain rfl := Std.LawfulEqCmp.eq_of_compare hk
      -- no entry behind this one has the same key
      have hbehind : (k, a) ∉ rest := fun hmem => hl.1 (List.mem_map.mpr ⟨_, hmem, rfl⟩)
      simp [hbehind, eq_comm]
    · have hne : k ≠ k' := fun h => hk (h ▸ Std.ReflCmp.compare_self)
      simp [hk, hne, ih hl.2]

theorem look_perm [Std.TransOrd κ] [Std.LawfulEqOrd κ] {l l' : List (κ × α)} (h : l.Perm l')
    (hl : (l.map Prod.fst).Nodup) (k : κ) : look k l = look k l' := by
  have hl' : (l'.map Prod.fst).Nodup := (h.map Prod.fst).nodup_iff.mp hl
  refine Option.ext fun a => ?_
  rw [← mem_iff_look hl, ← mem_iff_look hl', h.mem_iff]

/-- What is found in two lists is found in the first, or else in the second. -/
theorem look_append (k : κ) (l l' : List (κ × α)) :
    look k (l ++ l') = (look k l).or (look k l') := by
  induction l with
  | nil => rfl
  | cons e l ih =>
    obtain ⟨k', a⟩ := e
    simp only [List.cons_append, look, ih]
    split <;> rfl

/-! ## Look-ups and entries of a table -/

theorem nodup_keys [Std.TransOrd κ] (t : Table κ α) : (t.entries.map Prod.fst).Nodup :=
  List.pairwise_map.mpr (t.increasing.imp fun {p q} hlt heq => by
    have hself : compare q.1 q.1 = .eq := Std.ReflCmp.compare_self
    rw [heq, hself] at hlt
    cases hlt)

theorem mem_entries_iff [Std.TransOrd κ] [Std.LawfulEqOrd κ] (t : Table κ α) (k : κ) (a : α) :
    (k, a) ∈ t.entries ↔ t.get? k = some a :=
  mem_iff_look t.nodup_keys

theorem mem_values_iff [Std.TransOrd κ] [Std.LawfulEqOrd κ] (t : Table κ α) (a : α) :
    a ∈ t.values ↔ ∃ k, t.get? k = some a := by
  simp only [values, List.mem_map, Prod.exists, mem_entries_iff]
  constructor
  · rintro ⟨k, a', h, rfl⟩
    exact ⟨k, h⟩
  · rintro ⟨k, h⟩
    exact ⟨k, a, h, rfl⟩

/-- A filtered table has the entries that are kept. -/
theorem get?_filter_eq_some [Std.TransOrd κ] [Std.LawfulEqOrd κ] (t : Table κ α)
    (keep : κ → α → Bool) (k : κ) (a : α) :
    (t.filter keep).get? k = some a ↔ t.get? k = some a ∧ keep k a = true := by
  rw [← mem_entries_iff, ← mem_entries_iff, filter, List.mem_filter]

/-- **Tables with the same look-ups are equal.** -/
theorem ext_get? [Std.TransOrd κ] [Std.LawfulEqOrd κ] {s t : Table κ α}
    (h : ∀ k, s.get? k = t.get? k) : s = t := by
  have hmem : ∀ p, p ∈ s.entries ↔ p ∈ t.entries := fun p => by
    rw [mem_entries_iff, mem_entries_iff, h]
  have hperm : s.entries.Perm t.entries :=
    (List.perm_ext_iff_of_nodup (s.nodup_keys.of_map _) (t.nodup_keys.of_map _)).mpr hmem
  have hentries : s.entries = t.entries := by
    refine hperm.eq_of_pairwise (fun p q _ _ hpq hqp => ?_) s.increasing t.increasing
    have hswap : compare p.1 q.1 = (compare q.1 p.1).swap := Std.OrientedCmp.eq_swap
    rw [hswap, hqp] at hpq
    cases hpq
  cases s
  cases t
  cases hentries
  rfl

/-! ## How many entries there are -/

theorem length_put_le (k : κ) (a : α) (l : List (κ × α)) : (put k a l).length ≤ l.length + 1 := by
  induction l with
  | nil => exact Nat.le_refl 1
  | cons e l ih =>
    obtain ⟨k', a'⟩ := e
    rw [put]
    split
    · exact Nat.le_refl _
    · exact Nat.le_succ _
    · exact Nat.succ_le_succ ih

theorem length_put_of_look_eq_none {k : κ} (a : α) {l : List (κ × α)} (h : look k l = none) :
    (put k a l).length = l.length + 1 := by
  induction l with
  | nil => rfl
  | cons e l ih =>
    obtain ⟨k', a'⟩ := e
    rw [look] at h
    split at h
    · exact absurd h (by simp)
    · rw [put]
      split
      · rfl
      · contradiction
      · rw [List.length_cons, ih h, List.length_cons]

theorem size_insert_le [Std.TransOrd κ] (t : Table κ α) (k : κ) (a : α) :
    (t.insert k a).size ≤ t.size + 1 :=
  length_put_le k a t.entries

theorem size_insert_of_get?_eq_none [Std.TransOrd κ] (t : Table κ α) {k : κ} (a : α)
    (h : t.get? k = none) : (t.insert k a).size = t.size + 1 :=
  length_put_of_look_eq_none a h

/-! ## Putting in one entry after another -/

/-- Stores entries one after another. -/
def insertAll [Std.TransOrd κ] (t : Table κ α) (l : List (κ × α)) : Table κ α :=
  l.foldl (fun t p => t.insert p.1 p.2) t

/-- **Of several entries with one key the last one stays**, and the keys of no entry have what they
had. -/
theorem get?_insertAll [Std.TransOrd κ] (t : Table κ α) (l : List (κ × α)) (k : κ) :
    (t.insertAll l).get? k = (look k l.reverse).or (t.get? k) := by
  induction l generalizing t with
  | nil => rfl
  | cons p l ih =>
    have htail : (t.insertAll (p :: l)).get? k = ((t.insert p.1 p.2).insertAll l).get? k := rfl
    rw [htail, ih, List.reverse_cons, look_append, Option.or_assoc, get?_insert]
    congr 1
    simp only [look]
    split <;> rfl

/-- The entries of a table, in any order, make the table. -/
theorem ofList_of_perm [Std.TransOrd κ] [Std.LawfulEqOrd κ] (t : Table κ α) {l : List (κ × α)}
    (h : l.Perm t.entries) : ofList l = t := by
  refine ext_get? fun k => ?_
  have hlook : look k l.reverse = t.get? k := by
    rw [← look_perm (l.reverse_perm.trans h).symm t.nodup_keys]
    rfl
  rw [show ofList l = empty.insertAll l from rfl, get?_insertAll, hlook, get?_empty, Option.or_none]

end Table

end ResourceContainers
