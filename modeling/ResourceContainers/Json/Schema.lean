import ResourceContainers.Json.Value

/-!
# Reading typed values out of JSON

The rules by which records, choices and amounts are stored in documents.

* A record is an object with its fields as members, or an array of its fields in order.  As an
  object it may have further members, which mean nothing; a field may occur only once.
* A choice without content is a string, or an object with that one member and `null` under it.  A
  choice with content is an object with one member.
* An amount is a natural number below `2 ^ 64`, written as digits alone.
-/

namespace ResourceContainers.Json

/-- A text. -/
def text? : Json → Option String
  | string s => s
  | _ => none

def amount? : Json → Option UInt64
  | number (some n) => if n < UInt64.size then some (UInt64.ofNat n) else none
  | _ => none

/-- `null`, or what `read` accepts. -/
def optional? {α : Type} (read : Json → Option α) : Json → Option (Option α)
  | null => some none
  | v => (read v).map some

/-- An array of what `read` accepts. -/
def list? {α : Type} (read : Json → Option α) : Json → Option (List α)
  | array items => items.mapM read
  | _ => none

/-- The members of an object, if every name denotes a text. -/
def named? (members : List (Option String × Json)) : Option (List (String × Json)) :=
  members.mapM fun m => m.1.map fun k => (k, m.2)

/-- The value of a field that occurs at most once: `some none` if it does not occur, `none` if it
occurs more often. -/
def field? (members : List (String × Json)) (name : String) : Option (Option Json) :=
  match members.filter fun m => m.1 == name with
  | [] => some none
  | [m] => some (some m.2)
  | _ => none

/-- The values of the fields of a record, in the order of `names`; `none` for a field that is left
out.  An array may leave out the last ones. -/
def record? (names : List String) : Json → Option (List (Option Json))
  | object members => (named? members).bind fun ms => names.mapM (field? ms)
  | array items =>
    if items.length ≤ names.length then
      some (items.map some ++ List.replicate (names.length - items.length) none)
    else none
  | _ => none

/-- The name of a choice, and its content if it is written as an object. -/
def choice? : Json → Option (String × Option Json)
  | string s => s.map fun k => (k, none)
  | object [(k, v)] => k.map fun k => (k, some v)
  | _ => none

/-- The name of a choice without content. -/
def plainChoice? (v : Json) : Option String :=
  match choice? v with
  | some (k, none) => some k
  | some (k, some null) => some k
  | _ => none

end ResourceContainers.Json
