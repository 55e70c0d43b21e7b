/-!
# JSON values

What a JSON text denotes, kept as far as a reader of configurations can tell values apart: numbers
that are no natural numbers are all alike, and so are strings that denote no text.
-/

namespace ResourceContainers

/-- A JSON value.  Members of an object keep their order, and a name may repeat.  There is no number
if it is written with a sign, a fraction or an exponent, and no text if it is written with a
surrogate that has no partner. -/
inductive Json
  | null
  | bool (b : Bool)
  | number (natural : Option Nat)
  | string (text : Option String)
  | array (items : List Json)
  | object (members : List (Option String × Json))

namespace Json

instance : Inhabited Json := ⟨null⟩

def ofNat (n : Nat) : Json := number (some n)

def ofString (s : String) : Json := string (some s)

/-- The string `s`, or `null` in its place. -/
def ofString? : Option String → Json
  | some s => ofString s
  | none => null

/-- The object with the given names and values. -/
def ofFields (fields : List (String × Json)) : Json :=
  object (fields.map fun p => (some p.1, p.2))

end Json

end ResourceContainers
