import ResourceContainers.Json.Schema

/-!
# What a record depends on

A record that is written as an object is read from its fields alone.  It does not matter in which
order the members stand, nor what stands under names that are no fields.

* `named`: members whose names denote texts.  `named?_eq_ite`: when members are of that kind.
* `field?_perm`, `field?_insert`, `field?_insert_self`: what the value of a field depends on.
* `record?_perm`, `record?_insert`: changes that a record does not depend on.
* `record?_insert_self`: a field that occurs twice.
* `record?_ofFields`: a record that is written with its fields.
-/

namespace ResourceContainers.Json

/-! ## Lists -/

theorem mapM_congr {α β : Type} {f g : α → Option β} {l : List α} (h : ∀ a ∈ l, f a = g a) :
    l.mapM f = l.mapM g := by
  induction l with
  | nil => rfl
  | cons a l ih =>
    rw [List.mapM_cons, List.mapM_cons, h a (by simp), ih fun b hb => h b (by simp [hb])]

theorem mapM_eq_some_map {α β : Type} {f : α → Option β} {g : α → β} {l : List α}
    (h : ∀ a ∈ l, f a = some (g a)) : l.mapM f = some (l.map g) :=
  (mapM_congr h).trans List.mapM_pure

theorem map_eq_of_mapM {α β : Type} {f : α → Option β} {l : List α} :
    ∀ {bs : List β}, l.mapM f = some bs → l.map f = bs.map some := by
  induction l with
  | nil =>
    intro bs h
    obtain rfl := Option.some.inj h
    rfl
  | cons a l ih =>
    intro bs h
    rw [List.mapM_cons] at h
    obtain ⟨b, hb, h⟩ := Option.bind_eq_some_iff.mp h
    obtain ⟨cs, hcs, h⟩ := Option.bind_eq_some_iff.mp h
    obtain rfl := Option.some.inj h
    rw [List.map_cons, List.map_cons, hb, ih hcs]

theorem mapM_eq_none {α β : Type} {f : α → Option β} {l : List α} {a : α} (ha : a ∈ l)
    (h : f a = none) : l.mapM f = none := by
  obtain ⟨as, bs, rfl⟩ := List.append_of_mem ha
  cases hf : as.mapM f <;> simp [List.mapM_append, hf, h]

/-- An array of what was written with `write` is read if `read` reads that. -/
theorem list?_map {α : Type} {read : Json → Option α} {write : α → Json}
    (h : ∀ a, read (write a) = some a) (l : List α) :
    list? read (.array (l.map write)) = some l := by
  rw [list?, List.mapM_map]
  exact (mapM_eq_some_map fun a _ => h a).trans (congrArg some (List.map_id l))

/-! ## Names -/

/-- A member whose name denotes a text. -/
def named (m : String × Json) : Option String × Json := (some m.1, m.2)

/-- The members whose names denote texts. -/
def readable (l : List (Option String × Json)) : List (String × Json) :=
  l.filterMap fun m => m.1.map fun k => (k, m.2)

theorem named?_cons (k : Option String) (v : Json) (l : List (Option String × Json)) :
    named? ((k, v) :: l) = k.bind fun k => (named? l).map ((k, v) :: ·) := by
  rw [named?, List.mapM_cons]
  cases k with
  | none => rfl
  | some k => cases h : named? l <;> simp [named?] at h <;> simp [h]

theorem named?_eq_ite (l : List (Option String × Json)) :
    named? l = if l.all (fun m => m.1.isSome) then some (readable l) else none := by
  induction l with
  | nil => rfl
  | cons m l ih =>
    obtain ⟨k, v⟩ := m
    rw [named?_cons, ih]
    cases k with
    | none => rfl
    | some k => cases hl : l.all fun m => m.1.isSome <;> simp [hl, readable]

theorem named?_map_named (ms : List (String × Json)) : named? (ms.map named) = some ms := by
  induction ms with
  | nil => rfl
  | cons m ms ih => rw [List.map_cons, named, named?_cons, ih]; rfl

theorem readable_insert (as bs : List (Option String × Json)) (k : String) (v : Json) :
    readable (as ++ (some k, v) :: bs) = readable as ++ (k, v) :: readable bs := by
  simp [readable]

/-! ## Fields -/

section Fields

variable {ms ms' as bs : List (String × Json)} {k name : String} {v : Json}

theorem field?_perm (h : ms.Perm ms') (name : String) : field? ms name = field? ms' name := by
  have hperm := h.filter fun m => m.1 == name
  rw [field?, field?]
  generalize ms.filter _ = l at hperm
  generalize ms'.filter _ = l' at hperm
  cases l with
  | nil => rw [hperm.nil_eq]
  | cons m l =>
    cases l with
    | nil => rw [List.perm_singleton.mp hperm.symm]
    | cons n l =>
      have hlength := hperm.length_eq
      match l', hlength with
      | _ :: _ :: _, _ => rfl

/-- The value of a field does not depend on a member under another name. -/
theorem field?_insert (h : k ≠ name) :
    field? (as ++ (k, v) :: bs) name = field? (as ++ bs) name := by
  simp [field?, h]

/-- A member under the name of a field is its value if there is no other such member. -/
theorem field?_insert_self :
    field? (as ++ (k, v) :: bs) k =
      if (as ++ bs).any (fun m => m.1 == k) then none else some (some v) := by
  rw [field?_perm List.perm_middle, field?, List.filter_cons_of_pos (by simp)]
  cases hany : (as ++ bs).any fun m => m.1 == k with
  | false =>
    have hfilter : (as ++ bs).filter (fun m => m.1 == k) = [] :=
      List.filter_eq_nil_iff.mpr fun m hm => by simpa using List.any_eq_false.mp hany m hm
    rw [hfilter]
    rfl
  | true =>
    obtain ⟨m, hm, hk⟩ := List.any_eq_true.mp hany
    have hmem : m ∈ (as ++ bs).filter (fun m => m.1 == k) := List.mem_filter.mpr ⟨hm, hk⟩
    cases hfilter : (as ++ bs).filter (fun m => m.1 == k) with
    | nil => exact absurd (hfilter ▸ hmem) (by simp)
    | cons n l => rfl

end Fields

/-! ## Records -/

section Records

variable {names : List String} {l l' as bs : List (Option String × Json)} {k : String} {v : Json}

theorem record?_object (names : List String) (l : List (Option String × Json)) :
    record? names (.object l) =
      if l.all (fun m => m.1.isSome) then names.mapM (field? (readable l)) else none := by
  rw [record?, named?_eq_ite]
  split <;> rfl

/-- **A record does not depend on the order of its members.** -/
theorem record?_perm (h : l.Perm l') : record? names (.object l) = record? names (.object l') := by
  have hfields : field? (readable l) = field? (readable l') :=
    funext (field?_perm (h.filterMap _))
  rw [record?_object, record?_object, h.all_eq, hfields]

/-- **A record does not depend on a member that is no field.** -/
theorem record?_insert (hk : k ∉ names) :
    record? names (.object (as ++ (some k, v) :: bs)) = record? names (.object (as ++ bs)) := by
  have hall : (as ++ (some k, v) :: bs).all (fun m => m.1.isSome) =
      (as ++ bs).all (fun m => m.1.isSome) := by simp
  have hfields : names.mapM (field? (readable (as ++ (some k, v) :: bs))) =
      names.mapM (field? (readable (as ++ bs))) := by
    refine mapM_congr fun name hname => ?_
    have hne : k ≠ name := fun h => hk (h.symm ▸ hname)
    rw [readable_insert, field?_insert hne, readable, readable, readable, List.filterMap_append]
  rw [record?_object, record?_object, hall, hfields]

/-- **No field of a record occurs twice.** -/
theorem record?_insert_self (hk : k ∈ names) {m : Option String × Json} (hm : m ∈ as ++ bs)
    (hname : m.1 = some k) : record? names (.object (as ++ (some k, v) :: bs)) = none := by
  have hany : (readable as ++ readable bs).any (fun m => m.1 == k) = true := by
    refine List.any_eq_true.mpr ⟨(k, m.2), ?_, by simp⟩
    rw [readable, readable, ← List.filterMap_append]
    exact List.mem_filterMap.mpr ⟨m, hm, by rw [hname]; rfl⟩
  have hfield : field? (readable (as ++ (some k, v) :: bs)) k = none := by
    rw [readable_insert, field?_insert_self, if_pos hany]
  rw [record?_object, mapM_eq_none hk hfield, ite_self]

/-- **A record that is written with its fields is read.** -/
theorem record?_ofFields {fields : List (String × Json)} (h : (fields.map Prod.fst).Nodup) :
    record? (fields.map Prod.fst) (.ofFields fields) = some (fields.map fun p => some p.2) := by
  have hnamed : named? (fields.map named) = some fields := named?_map_named fields
  show (named? (fields.map named)).bind _ = _
  rw [hnamed, Option.bind_some, List.mapM_map]
  refine mapM_eq_some_map fun p hp => ?_
  obtain ⟨as, bs, rfl⟩ := List.append_of_mem hp
  have hother : (as ++ bs).any (fun m => m.1 == p.1) = false := by
    have hnodup := (List.perm_middle.map Prod.fst).nodup_iff.mp h
    refine List.any_eq_false.mpr fun m hm heq => (List.nodup_cons.mp hnodup).1 ?_
    exact List.mem_map.mpr ⟨m, hm, by simpa using heq⟩
  exact (@field?_insert_self as bs p.1 p.2).trans (if_neg (by simp [hother]))

end Records

end ResourceContainers.Json
