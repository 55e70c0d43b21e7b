import Mathlib.Logic.Relation
import ResourceContainers.Proofs.Json.Layouts
import ResourceContainers.Proofs.Json.Records
import ResourceContainers.Stored

/-!
# What the presentation of a document does

The same configuration can be presented in many documents.  Members may stand in any order, there
may be members that mean nothing, and each document can be written in many ways, with other blanks
and with other escapes.  Or its three fields may stand in an array.  All of these are read alike,
but a field may not occur twice.

* `Json.Rearranged`, `Json.Doubled`: what is done to the members of one object.
* `Config.Changed`: it is done to a configuration or to one of its constraints.
* `Config.ofJson?_of_rearranged`, `Config.ofJson?_of_doubled`, `Config.ofJson?_positional`: what
  comes of it.
* `Config.ofText?_presentation`: what comes of it in the texts of documents.

## Where blanks and escapes are

They are in `Json.Writes`.  Two texts that write the same value differ in their blanks and in the
way in which their tokens are written, and in nothing else.
-/

namespace ResourceContainers

/-- The members of an object, whose names need not denote texts. -/
abbrev Json.Members := List (Option String × Json)

variable {names : List String} {l l' as bs : Json.Members} {v v' : Json}

/-! ## Changes of one object -/

/-- `l'` has the members of `l` in another order, or one member more that is none of the fields
`names`. -/
inductive Json.Rearranged (names : List String) : Members → Members → Prop
  | permute {l l' : Members} (h : l.Perm l') : Rearranged names l l'
  | insert {as bs : Members} {k : String} (v : Json) (hk : k ∉ names) :
      Rearranged names (as ++ bs) (as ++ (some k, v) :: bs)

/-- `l'` has one member more than `l`, which is another occurrence of one of the fields `names`. -/
inductive Json.Doubled (names : List String) : Members → Members → Prop
  | intro {as bs : Members} {k : String} (v w : Json) (hk : k ∈ names)
      (hw : (some k, w) ∈ as ++ bs) : Doubled names (as ++ bs) (as ++ (some k, v) :: bs)

theorem Json.Rearranged.record?_eq (h : Rearranged names l l') :
    record? names (.object l') = record? names (.object l) := by
  cases h with
  | permute h => exact (record?_perm h).symm
  | insert v hk => exact record?_insert hk

theorem Json.Doubled.record?_eq (h : Doubled names l l') : record? names (.object l') = none := by
  cases h with
  | intro v w hk hw => exact record?_insert_self hk hw rfl

/-! ## Changes of a constraint -/

namespace Constraint

def fieldNames : List String := ["resource", "value"]

/-- A constraint with the given fields. -/
def ofFields? : Option (List (Option Json)) → Option Constraint
  | some [some r, some a] =>
    match Resource.ofJson? r, a.amount? with
    | some r, some a => some ⟨r, a⟩
    | _, _ => none
  | _ => none

theorem ofJson?_eq_ofFields (v : Json) : ofJson? v = ofFields? (v.record? fieldNames) := rfl

end Constraint

/-! ## Changes of a configuration -/

namespace Config

def fieldNames : List String := ["name", "profile", "constraints"]

/-- A configuration with the given fields. -/
def ofFields? : Option (List (Option Json)) → Option Config
  | some [name, profile, constraints] => do
    let name ← fieldOr none (Json.optional? Json.text?) name
    let profile ← fieldOr none (Json.optional? Profile.ofJson?) profile
    let constraints ← fieldOr [] (Json.list? Constraint.ofJson?) constraints
    return ⟨name, profile, constraints⟩
  | _ => none

theorem ofJson?_eq_ofFields (v : Json) : ofJson? v = ofFields? (v.record? fieldNames) := rfl

/-- What is done to the members of one object is done to a configuration, or to one of its
constraints. -/
inductive Changed (R : List String → Json.Members → Json.Members → Prop) :
    Json.Members → Json.Members → Prop
  | fields {l l' : Json.Members} (h : R fieldNames l l') : Changed R l l'
  | constraint {as bs l l' : Json.Members} {is js : List Json}
      (h : R Constraint.fieldNames l l') :
      Changed R (as ++ (some "constraints", .array (is ++ .object l :: js)) :: bs)
        (as ++ (some "constraints", .array (is ++ .object l' :: js)) :: bs)

/-- What a configuration says beside its constraints does not depend on them. -/
theorem exists_record_constraints (as bs : Json.Members) :
    ∃ others : Option (Option Json × Option Json), ∀ v : Json,
      Json.record? fieldNames (.object (as ++ (some "constraints", v) :: bs)) =
        others.map fun p => [p.1, p.2, some v] := by
  let fields := Json.readable as ++ Json.readable bs
  refine ⟨if (as ++ bs).all (fun m => m.1.isSome) then
    (Json.field? fields "name").bind fun name => (Json.field? fields "profile").bind fun profile =>
      if fields.any (fun m => m.1 == "constraints") then none else some (name, profile)
    else none, fun v => ?_⟩
  have hall : (as ++ (some "constraints", v) :: bs).all (fun m => m.1.isSome) =
      (as ++ bs).all (fun m => m.1.isSome) := by simp
  have hname : "constraints" ≠ "name" := by decide
  have hprofile : "constraints" ≠ "profile" := by decide
  rw [Json.record?_object, hall, Json.readable_insert, fieldNames]
  simp only [List.mapM_cons, List.mapM_nil, Json.field?_insert hname, Json.field?_insert hprofile,
    Json.field?_insert_self]
  cases (as ++ bs).all fun m => m.1.isSome with
  | false => rfl
  | true =>
    cases Json.field? (Json.readable as ++ Json.readable bs) "name" with
    | none => rfl
    | some name =>
      cases Json.field? (Json.readable as ++ Json.readable bs) "profile" with
      | none => rfl
      | some profile =>
        cases (Json.readable as ++ Json.readable bs).any fun m => m.1 == "constraints" <;> rfl

theorem exists_of_ofFields {fields : Option (List (Option Json))} {c : Config}
    (h : ofFields? fields = some c) :
    ∃ name profile constraints, fields = some [name, profile, constraints] := by
  unfold ofFields? at h
  split at h
  · exact ⟨_, _, _, rfl⟩
  · exact absurd h (by simp)

/-- A configuration takes from its list of constraints what is read from it. -/
theorem ofFields?_congr {name profile : Option Json}
    (h : v.list? Constraint.ofJson? = v'.list? Constraint.ofJson?) :
    ofFields? (some [name, profile, some v]) = ofFields? (some [name, profile, some v']) := by
  simp only [ofFields?, fieldOr, h]

theorem ofFields?_eq_none {name profile : Option Json} (h : v.list? Constraint.ofJson? = none) :
    ofFields? (some [name, profile, some v]) = none := by
  have hconstraints : fieldOr [] (Json.list? Constraint.ofJson?) (some v) = none := h
  rw [ofFields?, hconstraints]
  cases fieldOr none (Json.optional? Json.text?) name with
  | none => rfl
  | some name =>
    cases fieldOr none (Json.optional? Profile.ofJson?) profile with
    | none => rfl
    | some profile => rfl

/-- **The order of members and members that are no fields mean nothing.** -/
theorem ofJson?_of_rearranged (h : Changed Json.Rearranged l l') :
    ofJson? (.object l') = ofJson? (.object l) := by
  cases h with
  | fields h => rw [ofJson?_eq_ofFields, ofJson?_eq_ofFields, h.record?_eq]
  | @constraint as bs k k' is js h =>
    obtain ⟨others, hothers⟩ := exists_record_constraints as bs
    have hread : Constraint.ofJson? (.object k') = Constraint.ofJson? (.object k) := by
      rw [Constraint.ofJson?_eq_ofFields, Constraint.ofJson?_eq_ofFields, h.record?_eq]
    have hlist : (Json.array (is ++ .object k' :: js)).list? Constraint.ofJson? =
        (Json.array (is ++ .object k :: js)).list? Constraint.ofJson? := by
      simp only [Json.list?, List.mapM_append, List.mapM_cons, hread]
    rw [ofJson?_eq_ofFields, ofJson?_eq_ofFields, hothers, hothers]
    cases others with
    | none => rfl
    | some p => exact ofFields?_congr hlist

/-- **A field that occurs twice is an error.** -/
theorem ofJson?_of_doubled (h : Changed Json.Doubled l l') : ofJson? (.object l') = none := by
  cases h with
  | fields h => rw [ofJson?_eq_ofFields, h.record?_eq]; rfl
  | @constraint as bs k k' is js h =>
    obtain ⟨others, hothers⟩ := exists_record_constraints as bs
    have hread : Constraint.ofJson? (.object k') = none := by
      rw [Constraint.ofJson?_eq_ofFields, h.record?_eq]
      rfl
    have hlist : (Json.array (is ++ .object k' :: js)).list? Constraint.ofJson? = none :=
      Json.mapM_eq_none (by simp) hread
    rw [ofJson?_eq_ofFields, hothers]
    cases others with
    | none => rfl
    | some p => exact ofFields?_eq_none hlist

end Config

/-! ## The fields in an array -/

/-- The value of a member, or `default` if there is no such member. -/
def Json.memberOr (default : Json) (l : Members) (name : String) : Json :=
  ((l.find? fun m => m.1 == some name).map Prod.snd).getD default

theorem Json.find?_readable (l : Members) (name : String) :
    ((readable l).find? fun m => m.1 == name).map Prod.snd =
      (l.find? fun m => m.1 == some name).map Prod.snd := by
  induction l with
  | nil => rfl
  | cons m l ih =>
    obtain ⟨k, v⟩ := m
    cases k with
    | none => exact ih
    | some k =>
      have hcons : readable ((some k, v) :: l) = (k, v) :: readable l := rfl
      have hsame : (some k == some name) = (k == name) := rfl
      rw [hcons, List.find?_cons, List.find?_cons, hsame]
      cases k == name with
      | false => exact ih
      | true => rfl

theorem Json.memberOr_of_field {name : String} {o : Option Json}
    (h : field? (readable l) name = some o) (default : Json) :
    memberOr default l name = o.getD default := by
  have hfirst : ((readable l).find? fun m => m.1 == name).map Prod.snd = o := by
    rw [← List.head?_filter]
    unfold field? at h
    split at h
    · rename_i hnone
      rw [hnone]
      exact Option.some.inj h
    · rename_i m hone
      rw [hone]
      exact Option.some.inj h
    · exact absurd h (by simp)
  rw [memberOr, ← find?_readable, hfirst]

namespace Config

/-- The fields of a configuration in an array. -/
def positional (l : Json.Members) : Json :=
  .array [Json.memberOr .null l "name", Json.memberOr .null l "profile",
    Json.memberOr (.array []) l "constraints"]

theorem ofJson?_positional {c : Config} (h : ofJson? (.object l) = some c) :
    ofJson? (positional l) = some c := by
  rw [ofJson?_eq_ofFields, Json.record?_object] at h
  obtain ⟨name, profile, constraints, hfields⟩ := exists_of_ofFields h
  rw [hfields] at h
  split at hfields
  · have hvalues := Json.map_eq_of_mapM hfields
    simp only [fieldNames, List.map_cons, List.cons.injEq] at hvalues
    obtain ⟨hname, hprofile, hconstraints, -⟩ := hvalues
    rw [positional, Json.memberOr_of_field hname, Json.memberOr_of_field hprofile,
      Json.memberOr_of_field hconstraints, ← h]
    cases name <;> cases profile <;> cases constraints <;> rfl
  · exact absurd hfields (by simp)

/-! ## Texts -/

/-- **The presentation of a document means nothing.**  Let a text be read as a configuration, and
let it write an object.

* It may have more blanks between any two tokens, before the first and after the last one.
* Whatever text writes the object, or another one with its members or those of constraints in
  another order and with more members that are no fields, is read as the same configuration.
* So is whatever text writes its three fields in an array.
* No text is read that writes a field once more. -/
theorem ofText?_presentation {text : String} {c : Config} (h : ofText? text = some c)
    (hl : Json.Writes text (.object l)) :
    (∀ cs ds ts us blanks, text.toList = cs ++ ds → Json.tokens (.object l) = ts ++ us →
      Json.Spells cs ts → Json.Spells ds us → (∀ b ∈ blanks, Json.Token.isBlank b = true) →
      ofText? (String.ofList (cs ++ (blanks ++ ds))) = some c) ∧
    (∀ l', Relation.ReflTransGen (Changed Json.Rearranged) l l' →
      ∀ text', Json.Writes text' (.object l') → ofText? text' = some c) ∧
    (∀ text', Json.Writes text' (positional l) → ofText? text' = some c) ∧
    (∀ l', Changed Json.Doubled l l' →
      ∀ text', Json.Writes text' (.object l') → ofText? text' = none) := by
  have hread {text : String} {v : Json} (hv : Json.Writes text v) : ofText? text = ofJson? v := by
    rw [ofText?, Json.parse_eq_some_iff.mpr hv, Option.bind_some]
  have hobject : ofJson? (.object l) = some c := (hread hl).symm.trans h
  have hsame {l' : Json.Members} (hl' : Relation.ReflTransGen (Changed Json.Rearranged) l l') :
      ofJson? (.object l') = some c := by
    induction hl' with
    | refl => exact hobject
    | tail _ hchanged ih => exact (ofJson?_of_rearranged hchanged).trans ih
  refine ⟨fun cs ds ts us blanks _ htokens hcs hds hblanks => ?_, fun l' hl' text' htext' => ?_,
    fun text' htext' => ?_, fun l' hl' text' htext' => ?_⟩
  · have hwrites : Json.Writes (String.ofList (cs ++ (blanks ++ ds))) (.object l) := by
      rw [Json.Writes, String.toList_ofList, htokens]
      exact hcs.append (hds.blanks_append hblanks)
    rw [hread hwrites, hobject]
  · rw [hread htext', hsame hl']
  · rw [hread htext', ofJson?_positional hobject]
  · rw [hread htext', ofJson?_of_doubled hl']

/-- A document with a name and a constraint. -/
def plain : Json.Members :=
  [(some "name", .ofString "batch"),
    (some "constraints", .array [.object [(some "resource", .ofString "pids"),
      (some "value", .ofNat 16)]])]

/-- The same with the constraint first, and with members that are no fields. -/
def busy : Json.Members :=
  [(some "constraints", .array [.object [(some "resource", .ofString "pids"),
      (some "unit", .string none), (some "value", .ofNat 16)]]),
    (some "note", .array [.array [.number none], .object []]), (some "name", .ofString "batch")]

theorem ofText?_presentation_busy :
    ofText? (String.ofList (Json.object plain).compact) = some ⟨some "batch", none, [⟨.pids, 16⟩]⟩ ∧
      ofText? (Json.object busy).pretty = some ⟨some "batch", none, [⟨.pids, 16⟩]⟩ ∧
      ofText? (positional plain).pretty = some ⟨some "batch", none, [⟨.pids, 16⟩]⟩ ∧
      ofText? (Json.object ((some "name", .null) :: plain)).pretty = none := by
  have hplain : ofText? (String.ofList (Json.object plain).compact) =
      some ⟨some "batch", none, [⟨.pids, 16⟩]⟩ := by
    rw [ofText?, Json.parse_compact]
    decide
  obtain ⟨-, hrearranged, hpositional, hdoubled⟩ :=
    ofText?_presentation hplain (Json.writes_compact _)
  have hbusy : Relation.ReflTransGen (Changed Json.Rearranged) plain busy :=
    ((Relation.ReflTransGen.refl.tail (.fields (.permute (List.Perm.swap ..)))).tail
      (.fields (@Json.Rearranged.insert _ [_] [_] "note" _ (by decide)))).tail
      (@Changed.constraint _ [] _ _ _ [] []
        (@Json.Rearranged.insert _ [_] [_] "unit" _ (by decide)))
  have hname : Changed Json.Doubled plain ((some "name", .null) :: plain) :=
    .fields (@Json.Doubled.intro _ [] plain "name" _ _ (by decide) (List.mem_cons_self ..))
  exact ⟨hplain, hrearranged busy hbusy _ (Json.writes_pretty _),
    hpositional _ (Json.writes_pretty _), hdoubled _ hname _ (Json.writes_pretty _)⟩

end Config

end ResourceContainers
