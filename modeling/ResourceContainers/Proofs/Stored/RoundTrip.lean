import ResourceContainers.Proofs.Json.Layouts
import ResourceContainers.Proofs.Json.Records
import ResourceContainers.Proofs.Tables
import ResourceContainers.Stored

/-!
# Reading what was stored

Whatever is stored is read back.  The entries of a custom profile may be stored in any order, since
a document has to write them in some order and the amounts themselves have none.

* `Profile.Stored`, `Config.Stored`: the values under which a profile and a configuration may be
  stored.
* `Resource.ofJson?_toJson`, `Phase.ofJson?_toJson`, `Constraint.ofJson?_toJson`,
  `Profile.ofJson?_of_stored`, `Config.ofJson?_of_stored`: they are read back from such values.
* `readBack_of_stored`: they are read back from the texts of such values.
-/

namespace ResourceContainers

theorem Json.amount?_ofNat (a : UInt64) : (Json.ofNat a.toNat).amount? = some a := by
  show (if a.toNat < UInt64.size then some (UInt64.ofNat a.toNat) else none) = some a
  rw [if_pos a.toNat_lt_size, UInt64.ofNat_toNat]

theorem Resource.ofJson?_toJson (r : Resource) : Resource.ofJson? r.toJson = some r :=
  r.ofLabel?_label

theorem Phase.ofJson?_toJson (p : Phase) : Phase.ofJson? p.toJson = some p := by
  cases p <;> decide

theorem Constraint.ofJson?_toJson (c : Constraint) : Constraint.ofJson? c.toJson = some c := by
  have hrecord : c.toJson.record? ["resource", "value"] =
      some [some c.resource.toJson, some (Json.ofNat c.amount.toNat)] :=
    Json.record?_ofFields (by simp)
  simp only [Constraint.ofJson?, hrecord, c.resource.ofJson?_toJson, Json.amount?_ofNat]

/-! ## Profiles -/

/-- The values under which amounts of the user's choice may be stored: their entries in some
order. -/
def CustomAmounts.Stored (amounts : CustomAmounts) (v : Json) : Prop :=
  ∃ l : List (String × UInt64), l.Perm amounts.entries ∧
    v = .ofFields (l.map fun p => (p.1, .ofNat p.2.toNat))

/-- The values under which a profile may be stored. -/
def Profile.Stored : Profile → Json → Prop
  | .custom amounts, v => ∃ w, amounts.Stored w ∧ v = .ofFields [("custom", w)]
  | p, v => v = p.toJson

theorem Profile.stored_toJson (p : Profile) : p.Stored p.toJson := by
  cases p with
  | custom amounts => exact ⟨_, ⟨amounts.entries, .refl _, rfl⟩, rfl⟩
  | _ => rfl

theorem CustomAmounts.ofJson?_of_stored {amounts : CustomAmounts} {v : Json}
    (h : amounts.Stored v) : CustomAmounts.ofJson? v = some amounts := by
  obtain ⟨l, hl, rfl⟩ := h
  have hnamed := Json.named?_map_named (l.map fun p => (p.1, Json.ofNat p.2.toNat))
  have hentries : (l.map fun p => (p.1, Json.ofNat p.2.toNat)).mapM entry? = some l := by
    rw [List.mapM_map]
    refine (Json.mapM_eq_some_map (g := id) fun p _ => ?_).trans (congrArg some (List.map_id l))
    simp [ entry?, Json.amount?_ofNat]
  calc CustomAmounts.ofJson? (.ofFields (l.map fun p => (p.1, .ofNat p.2.toNat)))
    _ = (some (l.map fun p => (p.1, Json.ofNat p.2.toNat))).bind fun ms =>
        (ms.mapM entry?).map Table.ofList := congrArg (Option.bind · _) hnamed
    _ = some (Table.ofList l) := by rw [Option.bind_some, hentries, Option.map_some]
    _ = some amounts := by rw [Table.ofList_of_perm amounts hl]

theorem Profile.ofJson?_of_stored {p : Profile} {v : Json} (h : p.Stored v) :
    Profile.ofJson? v = some p := by
  cases p with
  | custom amounts =>
    obtain ⟨w, hw, rfl⟩ := h
    have hread := CustomAmounts.ofJson?_of_stored hw
    obtain ⟨l, -, rfl⟩ := hw
    show (CustomAmounts.ofJson? _).map custom = _
    rw [hread]
    rfl
  | minimal => obtain rfl := h; rfl
  | standard => obtain rfl := h; rfl
  | performance => obtain rfl := h; rfl

/-! ## Configurations -/

/-- The values under which a configuration may be stored. -/
def Config.Stored (c : Config) (v : Json) : Prop :=
  ∃ profile, (c.profile = none → profile = .null) ∧ (∀ p, c.profile = some p → p.Stored profile) ∧
    v = .ofFields [("name", .ofString? c.name), ("profile", profile),
      ("constraints", .array (c.constraints.map Constraint.toJson))]

theorem Config.stored_toJson (c : Config) : c.Stored c.toJson := by
  refine ⟨(c.profile.map Profile.toJson).getD .null, fun h => ?_, fun p h => ?_, rfl⟩
  · rw [h]
    rfl
  · rw [h]
    exact p.stored_toJson

theorem Profile.Stored.ne_null {p : Profile} {v : Json} (h : p.Stored v) : v ≠ .null := by
  rintro rfl
  exact absurd (Profile.ofJson?_of_stored h) (by simp [Profile.ofJson?, Json.choice?])

theorem Json.optional?_of_ne_null {α : Type} {read : Json → Option α} {v : Json} (h : v ≠ .null) :
    optional? read v = (read v).map some := by
  cases v <;> first | rfl | exact absurd rfl h

theorem Config.ofJson?_of_stored {c : Config} {v : Json} (h : c.Stored v) :
    Config.ofJson? v = some c := by
  obtain ⟨profile, hnone, hsome, rfl⟩ := h
  have hrecord : (Json.ofFields [("name", .ofString? c.name), ("profile", profile),
      ("constraints", .array (c.constraints.map Constraint.toJson))]).record?
      ["name", "profile", "constraints"] = some [some (Json.ofString? c.name), some profile,
        some (.array (c.constraints.map Constraint.toJson))] :=
    Json.record?_ofFields (by simp)
  have hname : Json.optional? Json.text? (.ofString? c.name) = some c.name := by
    cases c.name <;> rfl
  have hconstraints : Json.list? Constraint.ofJson?
      (.array (c.constraints.map Constraint.toJson)) = some c.constraints :=
    Json.list?_map Constraint.ofJson?_toJson c.constraints
  have hread : Json.optional? Profile.ofJson? profile = some c.profile := by
    cases hp : c.profile with
    | none =>
      rw [hnone hp]
      rfl
    | some p =>
      have hstored := hsome p hp
      rw [Json.optional?_of_ne_null hstored.ne_null, Profile.ofJson?_of_stored hstored]
      rfl
  simp only [Config.ofJson?, hrecord, fieldOr, hname, hconstraints, hread]
  rfl

/-! ## Texts -/

/-- The layouts in which a value is written. -/
def Json.layouts : List (Json → String) := [fun v => String.ofList v.compact, Json.pretty]

theorem Json.parse_layout {layout : Json → String} (h : layout ∈ layouts) (v : Json) :
    parse (layout v) = some v := by
  simp only [layouts, List.mem_cons, List.not_mem_nil, or_false] at h
  rcases h with rfl | rfl
  · exact parse_compact v
  · exact parse_pretty v

/-- **Whatever is stored is read back** from its text, in every layout: configurations, with the
entries of a custom profile in any order, and with them the limits they stand for; and constraints,
profiles, resources and phases by themselves. -/
theorem readBack_of_stored {layout : Json → String} (h : layout ∈ Json.layouts) :
    (∀ c : Config, c.Stored c.toJson ∧ ∀ v, c.Stored v →
      Config.ofText? (layout v) = some c ∧
      (Config.ofText? (layout v)).map Config.effective = some c.effective) ∧
    (∀ c : Constraint, (Json.parse (layout c.toJson)).bind Constraint.ofJson? = some c) ∧
    (∀ (p : Profile) (v : Json), p.Stored v →
      (Json.parse (layout v)).bind Profile.ofJson? = some p) ∧
    (∀ r : Resource, (Json.parse (layout r.toJson)).bind Resource.ofJson? = some r) ∧
    (∀ p : Phase, (Json.parse (layout p.toJson)).bind Phase.ofJson? = some p) := by
  have hread {α : Type} {read : Json → Option α} {v : Json} {a : α} (hv : read v = some a) :
      (Json.parse (layout v)).bind read = some a := by
    rw [Json.parse_layout h, Option.bind_some, hv]
  refine ⟨fun c => ⟨c.stored_toJson, fun v hv => ?_⟩, fun c => hread c.ofJson?_toJson,
    fun p v hv => hread (Profile.ofJson?_of_stored hv), fun r => hread r.ofJson?_toJson,
    fun p => hread p.ofJson?_toJson⟩
  have htext : Config.ofText? (layout v) = some c := hread (Config.ofJson?_of_stored hv)
  exact ⟨htext, by rw [htext]; rfl⟩

/-- A configuration with characters to be escaped, the largest amount and a resource that is limited
twice. -/
def awkward : Config :=
  ⟨some "a\"\\\n\x01😀", some (.custom (Table.ofList [("gpu.max", 0),
    ("memory.max", 18446744073709551615)])), [⟨.pids, 16⟩, ⟨.pids, 8⟩]⟩

/-- Its document, with the entries of the profile against their order. -/
def awkwardDocument : Json :=
  .ofFields [("name", .ofString "a\"\\\n\x01😀"),
    ("profile", .ofFields [("custom", .ofFields [("memory.max", .ofNat 18446744073709551615),
      ("gpu.max", .ofNat 0)])]),
    ("constraints", .array [Constraint.toJson ⟨.pids, 16⟩, Constraint.toJson ⟨.pids, 8⟩])]

theorem readBack_of_stored_awkward :
    awkward.Stored awkwardDocument ∧
      Config.ofText? (String.ofList awkwardDocument.compact) = some awkward := by
  have hstored : awkward.Stored awkwardDocument := by
    refine ⟨_, fun h => absurd h (by simp [awkward]), fun p h => ?_, rfl⟩
    obtain rfl := Option.some.inj h
    exact ⟨_, ⟨[("memory.max", 18446744073709551615), ("gpu.max", 0)], List.Perm.swap .., rfl⟩, rfl⟩
  have hlayout : (fun v : Json => String.ofList v.compact) ∈ Json.layouts := List.mem_cons_self ..
  exact ⟨hstored, (((readBack_of_stored hlayout).1 awkward).2 _ hstored).1⟩

end ResourceContainers
