import ResourceContainers.Json.Token
import ResourceContainers.Json.Value

/-!
# JSON documents

A pushdown machine reads a document token by token.  What has been read of the arrays and objects
that are still open lies on a stack of frames, so a document may nest to any depth and reading is
one pass over its tokens.

* `Reading.step`: what one token does.
* `ofTokens?`: the value of a document, if its tokens are one.
* `Json.parse`: the value that a text denotes.
-/

namespace ResourceContainers.Json

/-- An array or object that is still open, with a value about to come inside it.  What is in it so
far is listed with the newest first, and an object has the name of the value about to come. -/
inductive Frame
  | array (items : List Json)
  | object (members : List (Option String × Json)) (name : Option String)

/-- What the machine waits for, and what is open around it (the innermost frame first).  After a
value it waits for a comma, for the end of what is around it, or for the end of the document. -/
inductive Reading
  | value (around : List Frame)
  | firstItem (around : List Frame)
  | firstName (around : List Frame)
  | name (around : List Frame) (members : List (Option String × Json))
  | colon (around : List Frame) (members : List (Option String × Json)) (name : Option String)
  | after (around : List Frame) (v : Json)

namespace Reading

def startValue (fs : List Frame) : Token → Option Reading
  | .null => some (after fs .null)
  | .bool b => some (after fs (.bool b))
  | .number n => some (after fs (.number n))
  | .string s => some (after fs (.string s))
  | .openArray => some (firstItem fs)
  | .openObject => some (firstName fs)
  | _ => none

/-- A token after the value `v` in what is open around it. -/
def afterValue (v : Json) : List Frame → Token → Option Reading
  | .array items :: fs, .comma => some (value (.array (v :: items) :: fs))
  | .array items :: fs, .closeArray => some (after fs (.array (v :: items).reverse))
  | .object members k :: fs, .comma => some (name fs ((k, v) :: members))
  | .object members k :: fs, .closeObject => some (after fs (.object ((k, v) :: members).reverse))
  | _, _ => none

/-- What one token does; `none` if it may not come here. -/
def step : Reading → Token → Option Reading
  | value fs, t => startValue fs t
  | firstItem fs, .closeArray => some (after fs (.array []))
  | firstItem fs, t => startValue (.array [] :: fs) t
  | firstName fs, .closeObject => some (after fs (.object []))
  | firstName fs, .string k => some (colon fs [] k)
  | firstName _, _ => none
  | name fs members, .string k => some (colon fs members k)
  | name _ _, _ => none
  | colon fs members k, .colon => some (value (.object members k :: fs))
  | colon _ _ _, _ => none
  | after fs v, t => afterValue v fs t

/-- The document's value, if nothing is open any more. -/
def finish : Reading → Option Json
  | after [] v => some v
  | _ => none

end Reading

/-- The value of a document that consists of these tokens. -/
def ofTokens? (ts : List Token) : Option Json :=
  (ts.foldlM Reading.step (.value [])).bind Reading.finish

/-- The value that a text denotes; `none` if it is no JSON document. -/
def parse (text : String) : Option Json :=
  (Token.ofText? text.toList).bind ofTokens?

end ResourceContainers.Json
