import ResourceContainers.Config
import ResourceContainers.Json.Document
import ResourceContainers.Json.Printer
import ResourceContainers.Json.Schema
import ResourceContainers.Phase

/-!
# Stored forms

How resources, phases, constraints, profiles and configurations are written as JSON and read from
it.  Each type has a `toJson` and an `ofJson?`; `Config.ofText` and `Config.toText` go all the way
to the text of a document.
-/

namespace ResourceContainers

namespace Resource

def toJson (r : Resource) : Json := .ofString r.label

def ofJson? (v : Json) : Option Resource := v.plainChoice?.bind ofLabel?

end Resource

namespace Phase

def toJson (p : Phase) : Json := .ofString p.label

def ofJson? (v : Json) : Option Phase := v.plainChoice?.bind ofLabel?

end Phase

namespace Constraint

/-- A constraint is stored as a record of its resource and its amount. -/
def toJson (c : Constraint) : Json :=
  .ofFields [("resource", c.resource.toJson), ("value", .ofNat c.amount.toNat)]

/-- Reads a constraint; it has to have both fields. -/
def ofJson? (v : Json) : Option Constraint :=
  match v.record? ["resource", "value"] with
  | some [some r, some a] =>
    match Resource.ofJson? r, a.amount? with
    | some r, some a => some ⟨r, a⟩
    | _, _ => none
  | _ => none

end Constraint

namespace CustomAmounts

def toJson (t : CustomAmounts) : Json :=
  .ofFields (t.entries.map fun p => (p.1, .ofNat p.2.toNat))

/-- One amount under its name. -/
def entry? (m : String × Json) : Option (String × UInt64) := m.2.amount?.map fun a => (m.1, a)

/-- Reads amounts; where a name repeats, its last amount stays. -/
def ofJson? : Json → Option CustomAmounts
  | .object members =>
    (Json.named? members).bind fun ms => (ms.mapM entry?).map Table.ofList
  | _ => none

end CustomAmounts

namespace Profile

/-- A preset is stored by its name, amounts of the user's choice under the name `custom`. -/
def toJson : Profile → Json
  | minimal => .ofString "minimal"
  | standard => .ofString "standard"
  | performance => .ofString "performance"
  | custom amounts => .ofFields [("custom", amounts.toJson)]

def preset? (name : String) : Option Profile :=
  (presets.find? fun p => p.1 == name).map (·.2)

/-- Reads a profile.  A preset has no content and `custom` has to have some. -/
def ofJson? (v : Json) : Option Profile :=
  match v.choice? with
  | some (k, none) => preset? k
  | some (k, some .null) => preset? k
  | some (k, some content) =>
    if k = "custom" then (CustomAmounts.ofJson? content).map custom else none
  | none => none

end Profile

namespace Config

/-- A configuration is stored as a record of its name, its profile and its constraints. -/
def toJson (c : Config) : Json :=
  .ofFields
    [("name", .ofString? c.name),
      ("profile", (c.profile.map Profile.toJson).getD .null),
      ("constraints", .array (c.constraints.map Constraint.toJson))]

/-- What `read` makes of a field, or `default` if the field is left out. -/
def fieldOr {α : Type} (default : α) (read : Json → Option α) : Option Json → Option α
  | some v => read v
  | none => some default

/-- Reads a configuration.  Every field may be left out. -/
def ofJson? (v : Json) : Option Config :=
  match v.record? ["name", "profile", "constraints"] with
  | some [name, profile, constraints] => do
    let name ← fieldOr none (Json.optional? Json.text?) name
    let profile ← fieldOr none (Json.optional? Profile.ofJson?) profile
    let constraints ← fieldOr [] (Json.list? Constraint.ofJson?) constraints
    return ⟨name, profile, constraints⟩
  | _ => none

def toText (c : Config) : String := String.ofList c.toJson.compact

def ofText? (text : String) : Option Config := (Json.parse text).bind ofJson?

end Config

/-- Why no configuration could be had: a text is not the document of one, or a step of a
construction limits something that is no resource. -/
inductive ConfigError
  | unreadable
  | unknownResource (e : UnknownResource)
  deriving DecidableEq

def ConfigError.message : ConfigError → String
  | unreadable => "Failed to parse container configuration"
  | unknownResource e => e.message

/-- Where a configuration comes from: it is put together step by step, or read from a document. -/
inductive ConfigSource
  | built (steps : List Config.BuildStep)
  | document (text : String)

/-- The configuration of a source. -/
def ConfigSource.config : ConfigSource → Except ConfigError Config
  | built steps => (Config.build steps).mapError .unknownResource
  | document text =>
    match Config.ofText? text with
    | some c => .ok c
    | none => .error .unreadable

end ResourceContainers
