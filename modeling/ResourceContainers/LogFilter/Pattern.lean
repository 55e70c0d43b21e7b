import ResourceContainers.LogFilter.CharacterSet
import ResourceContainers.Text.Alphanumeric

/-!
# Patterns

A value in a filter may be a pattern that describes the values it stands for: atoms, sets and groups
one after another, perhaps repeated, with bars between alternatives.  Here it matters only which
texts are patterns.  A pattern is read with a stack of the groups that are open.

* `Pattern.Reading.step?`: reads one part.
* `LogFilter.isPattern`: whether a text is a pattern.
-/

namespace ResourceContainers.LogFilter

/-- The letters of the flags. -/
def flagLetters : List Char := ['i', 'm', 's', 'U', 'u', 'R', 'x']

/-- Whether a text turns flags on and, after a hyphen, others off: none twice, and the hyphen is not
the last. -/
def isChange (cs : List Char) : Bool :=
  cs.all (fun c => c == '-' || flagLetters.contains c) && decide cs.Nodup &&
    cs.getLast? != some '-'

/-- What a change makes of the flag of a letter. -/
def changed (cs : List Char) (letter : Char) (flag : Bool) : Bool :=
  if cs.contains letter then (cs.takeWhile (· ≠ '-')).contains letter else flag

def Flags.change (f : Flags) (cs : List Char) : Flags :=
  ⟨changed cs 'i' f.ignoreCase, changed cs 'u' f.unicode, changed cs 'x' f.spaced⟩

namespace Pattern

/-- A part of a pattern that was read: how deep it is, and whether it may be repeated. -/
structure Part where
  depth : Nat
  repeatable : Bool
  deriving DecidableEq, Repr

/-- What was read of a group, or of the whole pattern: the depths of the alternatives before the
last, and the parts of the last one, the last first. -/
structure Level where
  branches : List Nat
  parts : List Part
  deriving DecidableEq, Repr

namespace Level

def empty : Level := ⟨[], []⟩

/-- How deep the last alternative is. -/
def lastDepth (l : Level) : Nat := joinedDepth (l.parts.map Part.depth)

/-- How deep a level is. -/
def depth (l : Level) : Nat := joinedDepth (l.lastDepth :: l.branches)

def add (l : Level) (p : Part) : Level := { l with parts := p :: l.parts }

/-- A level after a bar. -/
def branched (l : Level) : Level := ⟨l.lastDepth :: l.branches, []⟩

/-- A level whose last part is repeated, if that can be. -/
def repeated? (l : Level) : Option Level :=
  match l.parts with
  | ⟨d, true⟩ :: rest => some { l with parts := ⟨d + 1, true⟩ :: rest }
  | _ => none

end Level

/-- How far a pattern was read.  The levels around are listed with the innermost first, with the
flags that hold again there. -/
structure Reading where
  flags : Flags
  names : List (List Char)
  level : Level
  around : List (Flags × Level)
  deriving DecidableEq, Repr

/-- Whether a text may be the name of a group. -/
def isGroupName : List Char → Bool
  | [] => false
  | c :: rest =>
    (c == '_' || isLetter c) &&
      rest.all fun c => ['_', '.', '[', ']'].contains c || isAlphanumeric c

namespace Reading

def start : Reading := ⟨.standard, [], .empty, []⟩

def add (r : Reading) (depth : Nat) : Reading := { r with level := r.level.add ⟨depth, true⟩ }

/-- Goes on inside a new group, where the flags may be others. -/
def opened (r : Reading) (f : Flags) : Reading :=
  { r with flags := f, level := .empty, around := (r.flags, r.level) :: r.around }

/-- Goes on after the innermost group, if one is open. -/
def closed? (r : Reading) : Option Reading :=
  match r.around with
  | [] => none
  | (f, outer) :: around =>
    some { r with flags := f, level := outer.add ⟨r.level.depth + 1, true⟩, around := around }

/-- Reads the name of a group. -/
def readName? (r : Reading) (cs : List Char) : Option (Reading × List Char) :=
  let name := cs.takeWhile (· ≠ '>')
  match cs.dropWhile (· ≠ '>') with
  | _ :: rest =>
    if isGroupName name ∧ !r.names.contains name then
      some ({ r.opened r.flags with names := name :: r.names }, rest)
    else none
  | [] => none

/-- Reads a change of the flags, for the group that it opens or for what follows. -/
def readChange? (r : Reading) (cs : List Char) : Option (Reading × List Char) :=
  let change := cs.takeWhile fun c => c ≠ ':' && c ≠ ')'
  match cs.dropWhile fun c => c ≠ ':' && c ≠ ')' with
  | [] => none
  | c :: rest =>
    if !isChange change then none
    else if c = ':' then some (r.opened (r.flags.change change), rest)
    else if change.isEmpty then none
    else some ({ r with flags := r.flags.change change, level := r.level.add ⟨0, false⟩ }, rest)

/-- Reads what follows the parenthesis that opens a group.  A group cannot ask what comes before or
after it. -/
def readGroup? (r : Reading) (cs : List Char) : Option (Reading × List Char) :=
  match r.flags.skip cs with
  | '?' :: '=' :: _ => none
  | '?' :: '!' :: _ => none
  | '?' :: '<' :: '=' :: _ => none
  | '?' :: '<' :: '!' :: _ => none
  | '?' :: 'P' :: '<' :: rest => r.readName? rest
  | '?' :: '<' :: rest => r.readName? rest
  | '?' :: rest => r.readChange? rest
  | rest => some (r.opened r.flags, rest)

/-- Repeats the last part; a question mark after that changes only what is preferred. -/
def repeat? (r : Reading) (cs : List Char) : Option (Reading × List Char) := do
  let level ← r.level.repeated?
  return ({ r with level := level }, if cs.head? = some '?' then cs.drop 1 else cs)

/-- Reads one part of a pattern, given its first character.  A number of repetitions would need a
closing brace, where the field around the pattern ends. -/
def step? (r : Reading) (c : Char) (rest : List Char) : Option (Reading × List Char) :=
  if c = '(' then r.readGroup? rest
  else if c = ')' then r.closed?.map (·, rest)
  else if c = '|' then some ({ r with level := r.level.branched }, rest)
  else if c = '[' then (CharacterSet.read r.flags rest).map fun p => (r.add p.1, p.2)
  else if c = '?' ∨ c = '*' ∨ c = '+' then r.repeat? rest
  else if c = '\x7b' then none
  else do
    let (a, rest) ← Atom.read r.flags (c :: rest)
    if a.fits r.flags then return (r.add 0, rest) else none

def depthLimit : Nat := 250

/-- Whether a pattern may end here. -/
def isFinal (r : Reading) : Bool := r.around.isEmpty && r.level.depth ≤ depthLimit

/-- Whether what follows completes a pattern.  Every part takes a character at least. -/
def completes : Nat → Reading → List Char → Bool
  | 0, _, _ => false
  | fuel + 1, r, cs =>
    match r.flags.skip cs with
    | [] => r.isFinal
    | c :: rest =>
      match r.step? c rest with
      | some (r, rest) => completes fuel r rest
      | none => false

end Reading

end Pattern

/-- Whether a text is a pattern. -/
def isPattern (cs : List Char) : Bool := Pattern.Reading.start.completes (cs.length + 1) cs

end ResourceContainers.LogFilter
