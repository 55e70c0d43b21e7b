import ResourceContainers.Text.Blank

/-!
# Atoms of patterns

An atom is a part of a pattern that has no parts of its own: a character, a class of characters by
name, or a place in the text.  Whether an atom may stand somewhere depends on the flags that hold
there.  Filters match without tables of Unicode, so what needs one is refused: the classes by
property, the named classes unless they are of ASCII, matching without regard to case, and the edges
of words.  A pattern has to match whole characters, so what could match a single byte beyond ASCII
is refused as well.

* `Atom.read`: the atom at the front of a pattern.
* `Atom.fits`, `Atom.fitsSet`: whether it may stand there, on its own or in a set.
-/

namespace ResourceContainers.LogFilter

/-- The flags that make a difference to which texts are patterns.  Characters are matched, or bytes;
blanks and comments between the parts of a pattern mean nothing, or something. -/
structure Flags where
  ignoreCase : Bool
  unicode : Bool
  spaced : Bool
  deriving DecidableEq, Repr

def Flags.standard : Flags := ⟨false, true, false⟩

/-- A text after the first end of a line in it. -/
def afterLine (cs : List Char) : List Char := (cs.dropWhile (· ≠ '\n')).drop 1

theorem length_afterLine_le (cs : List Char) : (afterLine cs).length ≤ cs.length := by
  have h := (List.dropWhile_suffix (fun c : Char => decide (c ≠ '\n')) (l := cs)).length_le
  simp only [afterLine, List.length_drop]
  omega

/-- A text without the blanks and comments before it.  A comment goes from a number sign to the end
of the line. -/
def skipSpace : List Char → List Char
  | [] => []
  | c :: rest =>
    if isBlank c then skipSpace rest
    else if c = '#' then skipSpace (afterLine rest)
    else c :: rest
termination_by cs => cs.length
decreasing_by
  · simp
  · have := length_afterLine_le rest
    simp only [List.length_cons]
    omega

/-- What is left of a pattern after blanks and comments, where they mean nothing. -/
def Flags.skip (f : Flags) (cs : List Char) : List Char := if f.spaced then skipSpace cs else cs

/-- An atom of a pattern.  A character may be written by a code of two digits.  A border is the
beginning or the end of a line or of the text.  The named classes are the digits, the blanks and the
word characters, and all but those. -/
inductive Atom
  | char (c : Char) (byCode : Bool)
  | any
  | border
  | wordEdge
  | named (negated : Bool)
  deriving DecidableEq, Repr

namespace Atom

def digit? (c : Char) : Option Nat :=
  if c.isDigit then some (c.toNat - '0'.toNat)
  else if 'a' ≤ c ∧ c ≤ 'f' then some (c.toNat - 'a'.toNat + 10)
  else if 'A' ≤ c ∧ c ≤ 'F' then some (c.toNat - 'A'.toNat + 10)
  else none

/-- Reads a number of hexadecimal digits, to be put after those that were read before. -/
def readDigits (f : Flags) : Nat → Nat → List Char → Option (Nat × List Char)
  | 0, value, cs => some (value, cs)
  | count + 1, value, cs =>
    match cs with
    | [] => none
    | c :: rest => do readDigits f count (16 * value + (← digit? c)) (f.skip rest)

/-- Reads a character by its code. -/
def readCode (f : Flags) (digits : Nat) (byCode : Bool) (cs : List Char) :
    Option (Atom × List Char) := do
  let (n, rest) ← readDigits f digits 0 (f.skip cs)
  if n.isValidChar then return (char (Char.ofNat n) byCode, rest) else none

/-- The control characters that a letter after a backslash stands for. -/
def control? : Char → Option Char
  | 'a' => some '\x07'
  | 'f' => some '\x0c'
  | 'n' => some '\n'
  | 'r' => some '\r'
  | 't' => some '\t'
  | 'v' => some '\x0b'
  | _ => none

/-- Whether a backslash takes the meaning from a character and leaves the character itself. -/
def isQuotable (c : Char) : Bool := c.toNat < 0x80 && !c.isAlphanum && c != '<' && c != '>'

/-- Reads what follows a backslash. -/
def readEscaped (f : Flags) : List Char → Option (Atom × List Char)
  | [] => none
  | c :: rest =>
    if c = 'x' then readCode f 2 true rest
    else if c = 'u' then readCode f 4 false rest
    else if c = 'U' then readCode f 8 false rest
    else if ['d', 's', 'w'].contains c then some (named false, rest)
    else if ['D', 'S', 'W'].contains c then some (named true, rest)
    else if ['A', 'z'].contains c then some (border, rest)
    else if ['b', 'B', '<', '>'].contains c then some (wordEdge, rest)
    else if isQuotable c then some (char c false, rest)
    else (control? c).map fun c => (char c false, rest)

def read (f : Flags) : List Char → Option (Atom × List Char)
  | [] => none
  | '\\' :: rest => readEscaped f rest
  | '.' :: rest => some (any, rest)
  | '^' :: rest => some (border, rest)
  | '$' :: rest => some (border, rest)
  | c :: rest => some (char c false, rest)

/-- Reads an atom inside a set, where most characters stand for themselves. -/
def readInSet (f : Flags) : List Char → Option (Atom × List Char)
  | [] => none
  | '\\' :: rest => readEscaped f rest
  | c :: rest => some (char c false, rest)

/-- Whether an atom may stand on its own. -/
def fits (f : Flags) : Atom → Bool
  | char c byCode => if f.unicode then !f.ignoreCase else !byCode || c.toNat < 0x80
  | any => f.unicode
  | border => true
  | wordEdge => !f.unicode
  | named negated => !f.unicode && !negated

/-- Whether an atom may stand in a set. -/
def fitsSet (f : Flags) : Atom → Bool
  | char c _ => if f.unicode then !f.ignoreCase else c.toNat < 0x80
  | named negated => !f.unicode && !negated
  | any | border | wordEdge => false

end Atom

end ResourceContainers.LogFilter
