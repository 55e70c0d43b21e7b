import ResourceContainers.Json.Token
import ResourceContainers.Json.Value

/-!
# Writing JSON

Two layouts of one value: `Json.compact` writes its tokens without blanks, `Json.pretty` puts each
item and member on a line of its own, indented by two blanks for each level.

Quotation marks, backslashes and control characters are escaped, all else stands for itself.
-/

namespace ResourceContainers.Json

/-! ## Scalars -/

def hexDigit (n : Nat) : Char :=
  if n < 10 then Char.ofNat ('0'.toNat + n) else Char.ofNat ('a'.toNat + (n - 10))

def escape (c : Char) : List Char :=
  if c = '"' then ['\\', '"']
  else if c = '\\' then ['\\', '\\']
  else if c = '\n' then ['\\', 'n']
  else if c = '\r' then ['\\', 'r']
  else if c = '\t' then ['\\', 't']
  else if c = '\x08' then ['\\', 'b']
  else if c = '\x0c' then ['\\', 'f']
  else if c.toNat < 0x20 then
    ['\\', 'u', '0', '0', hexDigit (c.toNat / 16), hexDigit (c.toNat % 16)]
  else [c]

def quote (cs : List Char) : List Char := '"' :: cs.flatMap escape ++ ['"']

/-- A literal that denotes no text: a surrogate without its partner. -/
def textless : List Char := '"' :: '\\' :: 'u' :: 'd' :: '8' :: '0' :: '0' :: ['"']

/-- How a token is written. -/
def Token.spelling : Token → List Char
  | comma => [',']
  | colon => [':']
  | openArray => ['[']
  | closeArray => [']']
  | openObject => ['\x7b']
  | closeObject => ['\x7d']
  | null => ['n', 'u', 'l', 'l']
  | bool true => ['t', 'r', 'u', 'e']
  | bool false => ['f', 'a', 'l', 's', 'e']
  | number (some n) => Nat.toDigits 10 n
  | number none => ['-', '0']
  | string (some s) => quote s.toList
  | string none => textless

/-! ## Compact layout -/

mutual

def tokens : Json → List Token
  | null => [.null]
  | bool b => [.bool b]
  | number n => [.number n]
  | string s => [.string s]
  | array items => .openArray :: itemTokens items ++ [.closeArray]
  | object members => .openObject :: memberTokens members ++ [.closeObject]

def itemTokens : List Json → List Token
  | [] => []
  | [v] => tokens v
  | v :: w :: vs => tokens v ++ .comma :: itemTokens (w :: vs)

def memberTokens : List (Option String × Json) → List Token
  | [] => []
  | [(k, v)] => .string k :: .colon :: tokens v
  | (k, v) :: m :: ms => .string k :: .colon :: tokens v ++ .comma :: memberTokens (m :: ms)

end

def compact (v : Json) : List Char := (tokens v).flatMap Token.spelling

/-! ## Indented layout -/

/-- A line break and the indentation of a level. -/
def newLine (level : Nat) : List Char := '\n' :: List.replicate (2 * level) ' '

mutual

/-- A value whose closing bracket stands at a level. -/
def prettyAt (level : Nat) : Json → List Char
  | array [] => ['[', ']']
  | array (v :: vs) => '[' :: prettyItems (level + 1) (v :: vs) ++ newLine level ++ [']']
  | object [] => ['\x7b', '\x7d']
  | object (m :: ms) =>
    '\x7b' :: prettyMembers (level + 1) (m :: ms) ++ newLine level ++ ['\x7d']
  | null => Token.null.spelling
  | bool b => (Token.bool b).spelling
  | number n => (Token.number n).spelling
  | string s => (Token.string s).spelling

/-- The items of an array, each on a line of its own. -/
def prettyItems (level : Nat) : List Json → List Char
  | [] => []
  | [v] => newLine level ++ prettyAt level v
  | v :: w :: vs => newLine level ++ prettyAt level v ++ ',' :: prettyItems level (w :: vs)

/-- The members of an object, each on a line of its own. -/
def prettyMembers (level : Nat) : List (Option String × Json) → List Char
  | [] => []
  | [(k, v)] => newLine level ++ (Token.string k).spelling ++ ':' :: ' ' :: prettyAt level v
  | (k, v) :: m :: ms =>
    newLine level ++ (Token.string k).spelling ++ ':' :: ' ' :: prettyAt level v ++
      ',' :: prettyMembers level (m :: ms)

end

def pretty (v : Json) : String := String.ofList (prettyAt 0 v)

end ResourceContainers.Json
