/-!
# Tables in key order

A finite map kept as a list of entries with strictly increasing keys.  Everything the library
lists --- limits, handles, registry entries, tasks, threads --- is listed in key order, so the order
is part of the type and no listing has to sort.

* `Table.get?`, `Table.insert`, `Table.erase`, `Table.filter`, `Table.ofList`.
* `pairwise_put`: putting an entry in its place keeps the keys in order.
* `get?_insert`, `get?_erase`: what each operation does to a look-up.
-/

namespace ResourceContainers

universe u v

/-- A finite map from `κ` to `α`: entries in strictly increasing key order. -/
structure Table (κ : Type u) (α : Type v) [Ord κ] where
  entries : List (κ × α)
  increasing : entries.Pairwise fun p q => compare p.1 q.1 = .lt

namespace Table

variable {κ : Type u} {α : Type v} [Ord κ]

def empty : Table κ α := ⟨[], .nil⟩

instance : Inhabited (Table κ α) := ⟨empty⟩

instance : EmptyCollection (Table κ α) := ⟨empty⟩

instance [DecidableEq κ] [DecidableEq α] : DecidableEq (Table κ α) := fun s t =>
  if h : s.entries = t.entries then
    isTrue (by cases s; cases t; cases h; rfl)
  else
    isFalse fun e => h (e ▸ rfl)

def size (t : Table κ α) : Nat := t.entries.length

def keys (t : Table κ α) : List κ := t.entries.map (·.1)

def values (t : Table κ α) : List α := t.entries.map (·.2)

/-! ## Looking up -/

/-- The value beside the first entry whose key compares equal to `k`. -/
def look (k : κ) : List (κ × α) → Option α
  | [] => none
  | (k', a) :: rest => if compare k k' = .eq then some a else look k rest

/-- The value stored under `k`. -/
def get? (t : Table κ α) (k : κ) : Option α := look k t.entries

/-- Whether something is stored under `k`. -/
def contains (t : Table κ α) (k : κ) : Bool := (t.get? k).isSome

/-! ## Putting in -/

/-- Puts `a` under `k` at the place where `k` belongs, in the place of a former value. -/
def put (k : κ) (a : α) : List (κ × α) → List (κ × α)
  | [] => [(k, a)]
  | (k', a') :: rest =>
    match compare k k' with
    | .lt => (k, a) :: (k', a') :: rest
    | .eq => (k, a) :: rest
    | .gt => (k', a') :: put k a rest

theorem mem_of_mem_put {k : κ} {a : α} {p : κ × α} :
    ∀ {l : List (κ × α)}, p ∈ put k a l → p = (k, a) ∨ p ∈ l
  | [], h => by simpa [put] using h
  | (k', a') :: rest, h => by
    rw [put] at h
    split at h
    · simpa using h
    · rcases List.mem_cons.mp h with h | h
      · exact .inl h
      · exact .inr (List.mem_cons_of_mem _ h)
    · rcases List.mem_cons.mp h with h | h
      · exact .inr (h ▸ List.mem_cons_self ..)
      · rcases mem_of_mem_put h with h | h
        · exact .inl h
        · exact .inr (List.mem_cons_of_mem _ h)

theorem pairwise_put [Std.TransOrd κ] {k : κ} {a : α} :
    ∀ {l : List (κ × α)}, l.Pairwise (fun p q => compare p.1 q.1 = .lt) →
      (put k a l).Pairwise fun p q => compare p.1 q.1 = .lt
  | [], _ => by simp [put]
  | (k', a') :: rest, h => by
    rw [List.pairwise_cons] at h
    rw [put]
    split
    · rename_i hlt
      refine List.pairwise_cons.mpr ⟨fun p hp => ?_, List.pairwise_cons.mpr h⟩
      rcases List.mem_cons.mp hp with rfl | hp
      · exact hlt
      · exact Std.TransCmp.lt_trans hlt (h.1 p hp)
    · rename_i heq
      exact List.pairwise_cons.mpr
        ⟨fun p hp => Std.TransCmp.lt_of_eq_of_lt heq (h.1 p hp), h.2⟩
    · rename_i hgt
      refine List.pairwise_cons.mpr ⟨fun p hp => ?_, pairwise_put h.2⟩
      rcases mem_of_mem_put hp with rfl | hp
      · exact Std.OrientedCmp.lt_of_gt hgt
      · exact h.1 p hp

/-- Stores `a` under `k`, in the place of a former value. -/
def insert [Std.TransOrd κ] (t : Table κ α) (k : κ) (a : α) : Table κ α :=
  ⟨put k a t.entries, pairwise_put t.increasing⟩

/-- The table of a list of entries; of several entries with one key the last stays. -/
def ofList [Std.TransOrd κ] (l : List (κ × α)) : Table κ α :=
  l.foldl (fun t p => t.insert p.1 p.2) empty

/-! ## Taking out -/

/-- The entries that `keep` accepts. -/
def filter (t : Table κ α) (keep : κ → α → Bool) : Table κ α :=
  ⟨t.entries.filter fun p => keep p.1 p.2, t.increasing.filter _⟩

/-- Takes out what is stored under `k`. -/
def erase (t : Table κ α) (k : κ) : Table κ α :=
  t.filter fun k' _ => compare k' k ≠ .eq

/-- Changes every value. -/
def map {β : Type v} (t : Table κ α) (f : α → β) : Table κ β :=
  ⟨t.entries.map fun p => (p.1, f p.2),
    List.pairwise_map.mpr (t.increasing.imp fun h => h)⟩

/-! ## Look-ups after an operation -/

@[simp] theorem get?_empty (k : κ) : (empty : Table κ α).get? k = none := rfl

/-- Leaving out the entries of `k` leaves every other look-up as it was. -/
theorem look_filter_ne [Std.TransOrd κ] {k j : κ} :
    ∀ {l : List (κ × α)}, look j (l.filter fun p => compare p.1 k ≠ .eq) =
      if compare j k = .eq then none else look j l
  | [] => by simp [look]
  | (k', a') :: rest => by
    have ih := look_filter_ne (k := k) (j := j) (l := rest)
    by_cases hk : compare k' k = .eq
    · rw [List.filter_cons_of_neg (by simpa using hk), ih]
      by_cases h : compare j k = .eq
      · rw [if_pos h, if_pos h]
      · have h' : ¬compare j k' = .eq := fun h' => h (Std.TransCmp.eq_trans h' hk)
        rw [if_neg h, if_neg h, look, if_neg h']
    · rw [List.filter_cons_of_pos (by simpa using hk), look, look, ih]
      by_cases h' : compare j k' = .eq
      · have h : ¬compare j k = .eq := fun h =>
          hk (Std.TransCmp.eq_trans (Std.OrientedCmp.eq_symm h') h)
        rw [if_pos h', if_pos h', if_neg h]
      · rw [if_neg h', if_neg h']

/-- What `put` does to a look-up. -/
theorem look_put [Std.TransOrd κ] {k j : κ} {a : α} :
    ∀ {l : List (κ × α)}, look j (put k a l) = if compare j k = .eq then some a else look j l
  | [] => by simp [put, look]
  | (k', a') :: rest => by
    rw [put]
    split
    · simp only [look]
    · rename_i heq
      simp only [look]
      by_cases h : compare j k = .eq
      · rw [if_pos h, if_pos h]
      · rw [if_neg h, if_neg h, if_neg]
        exact fun h' => h (Std.TransCmp.eq_trans h' (Std.OrientedCmp.eq_symm heq))
    · rename_i hgt
      simp only [look]
      rw [look_put (l := rest)]
      by_cases h' : compare j k' = .eq
      · have h : ¬compare j k = .eq := fun h => by
          have := Std.TransCmp.eq_trans (Std.OrientedCmp.eq_symm h) h'
          rw [hgt] at this
          cases this
        rw [if_pos h', if_neg h, if_pos h']
      · rw [if_neg h', if_neg h']

theorem get?_insert [Std.TransOrd κ] (t : Table κ α) (k j : κ) (a : α) :
    (t.insert k a).get? j = if compare j k = .eq then some a else t.get? j :=
  look_put

@[simp] theorem get?_insert_self [Std.TransOrd κ] (t : Table κ α) (k : κ) (a : α) :
    (t.insert k a).get? k = some a := by
  rw [get?_insert, if_pos Std.ReflCmp.compare_self]

theorem get?_erase [Std.TransOrd κ] (t : Table κ α) (k j : κ) :
    (t.erase k).get? j = if compare j k = .eq then none else t.get? j :=
  look_filter_ne

end Table

end ResourceContainers
