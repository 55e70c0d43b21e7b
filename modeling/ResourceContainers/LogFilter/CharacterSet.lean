import ResourceContainers.LogFilter.Atom

/-!
# Sets of characters

A set stands in brackets: characters, ranges of characters, classes of ASCII by name and further
sets, with operators between them.  It is read with a stack of the sets that are open.  What has
been read of a set is known by its depth alone, since a pattern must not be nested too deeply.

* `joinedDepth`: the depth of parts that stand side by side.
* `CharacterSet.read`: the set at the front of a pattern, as its depth.
-/

namespace ResourceContainers.LogFilter

/-- The depth of parts side by side: one part is no deeper than it was by itself. -/
def joinedDepth : List Nat → Nat
  | [] => 0
  | [d] => d
  | ds => ds.foldr max 0 + 1

/-- A set that is open: the depth of what stands before the last operator, if there was one, and the
depths of the items since. -/
structure CharacterSet where
  left : Option Nat
  items : List Nat
  deriving DecidableEq, Repr

namespace CharacterSet

/-- The depth of all that was read of a set. -/
def depth (s : CharacterSet) : Nat :=
  match s.left with
  | none => joinedDepth s.items
  | some d => max d (joinedDepth s.items) + 1

def add (s : CharacterSet) (d : Nat) : CharacterSet := { s with items := d :: s.items }

/-- A set after an operator. -/
def operated (s : CharacterSet) : CharacterSet := ⟨some s.depth, []⟩

def classNames : List String :=
  ["alnum", "alpha", "ascii", "blank", "cntrl", "digit", "graph", "lower", "print", "punct",
   "space", "upper", "word", "xdigit"]

/-- Reads a class of ASCII after its opening bracket; tells whether the class is negated. -/
def readClass : List Char → Option (Bool × List Char)
  | ':' :: rest =>
    let negated := rest.head? == some '^'
    let name := (if negated then rest.drop 1 else rest).takeWhile (· ≠ ':')
    match (if negated then rest.drop 1 else rest).dropWhile (· ≠ ':') with
    | ':' :: ']' :: rest =>
      if classNames.contains (String.ofList name) then some (negated, rest) else none
    | _ => none
  | _ => none

/-- Whether a class of ASCII may stand in a set. -/
def classFits (f : Flags) (negated : Bool) : Bool :=
  if f.unicode then !f.ignoreCase else !negated

/-- Reads the hyphens at the beginning of a set. -/
def readHyphens (f : Flags) : Nat → CharacterSet → List Char → CharacterSet × List Char
  | fuel + 1, s, '-' :: rest => readHyphens f fuel (s.add 0) (f.skip rest)
  | _, s, cs => (s, cs)

/-- Reads the beginning of a set after its opening bracket.  Hyphens stand for themselves here, and
a closing bracket does if it comes first. -/
def readOpening (f : Flags) (cs : List Char) : Option (CharacterSet × List Char) :=
  let cs := f.skip cs
  let negated := cs.head? == some '^'
  let cs := if negated then f.skip (cs.drop 1) else cs
  let (s, cs) := readHyphens f cs.length ⟨none, []⟩ cs
  let (s, cs) := match s.items, cs with
    | [], ']' :: rest => (s.add 0, f.skip rest)
    | _, _ => (s, cs)
  if (negated && !f.unicode) || (!s.items.isEmpty && !(Atom.char '-' false).fitsSet f) then none
  else some (s, cs)

/-- The character that comes next after blanks and a comment sign, where those mean nothing.  Of the
comment itself the first character that is no blank comes next. -/
def glance (f : Flags) (cs : List Char) : Option Char :=
  if f.spaced then
    match cs.dropWhile isBlank with
    | [] => cs.head?
    | '#' :: rest => (rest.dropWhile isBlank).head?.or cs.head?
    | c :: _ => some c
  else cs.head?

/-- Reads an item of a set: an atom or a range of characters.  A hyphen makes a range unless a
closing bracket or another hyphen comes next. -/
def readItem (f : Flags) (cs : List Char) : Option (List Char) := do
  let (a, cs) ← Atom.readInSet f cs
  match f.skip cs with
  | [] => none
  | '-' :: rest =>
    if glance f rest = some ']' ∨ glance f rest = some '-' then
      if a.fitsSet f then return '-' :: rest else none
    else
      let (b, rest) ← Atom.readInSet f (f.skip rest)
      match a, b with
      | .char low _, .char high _ =>
        if low ≤ high ∧ a.fitsSet f ∧ b.fitsSet f then return rest else none
      | _, _ => none
  | cs => if a.fitsSet f then return cs else none

/-- Reads sets until the outermost of those that are open is closed; gives its depth. -/
def readOpen (f : Flags) :
    Nat → CharacterSet → List CharacterSet → List Char → Option (Nat × List Char)
  | 0, _, _, _ => none
  | fuel + 1, s, around, cs =>
    match f.skip cs with
    | [] => none
    | '[' :: rest =>
      match readClass rest with
      | some (negated, rest) =>
        if classFits f negated then readOpen f fuel (s.add 0) around rest else none
      | none =>
        match readOpening f rest with
        | some (inner, rest) => readOpen f fuel inner (s :: around) rest
        | none => none
    | ']' :: rest =>
      match around with
      | [] => some (s.depth + 1, rest)
      | outer :: around => readOpen f fuel (outer.add (s.depth + 1)) around rest
    | '&' :: '&' :: rest => readOpen f fuel s.operated around rest
    | '-' :: '-' :: rest => readOpen f fuel s.operated around rest
    | '~' :: '~' :: rest => readOpen f fuel s.operated around rest
    | cs =>
      match readItem f cs with
      | some rest => readOpen f fuel (s.add 0) around rest
      | none => none

/-- Reads a set after its opening bracket; gives its depth. -/
def read (f : Flags) (cs : List Char) : Option (Nat × List Char) := do
  let (s, rest) ← readOpening f cs
  readOpen f (rest.length + 1) s [] rest

end CharacterSet

end ResourceContainers.LogFilter
