import ResourceContainers.LogFilter.Field

/-!
# Log filters

A log filter says what is logged: a list of directives with commas between them.  A directive is a
level, or a target, or a target with a level; a target may name a span in brackets and a field of
the span in braces.  Here it matters only which texts are filters.

A directive is read without the blanks at its ends, but the places of its fields are looked up in
the text that still has them: blanks before a directive shift its fields to the front.

* `LogFilter.Stage`: how far a directive was read.
* `LogFilter.isFilter`: whether a text is a filter.
-/

namespace ResourceContainers.LogFilter

/-- How far a directive was read.  A word is a level or a target, and a field starts at a place.
After the fields the brackets have to end, and what was read since an equals sign is kept, the last
first. -/
inductive Stage
  | start
  | word
  | span
  | inField (first : Nat)
  | fields
  | target
  | level (read : List Char)
  deriving DecidableEq

/-- Whether a word may begin with a character: letters and numbers of any script may, and three
marks that are common in the names of modules. -/
def beginsWord (c : Char) : Bool :=
  c == '-' || c == ':' || c == '_' || isAlphanumeric c

/-- A text from a place on; places are counted in bytes, and none is inside a character. -/
def fromPlace? : Nat → List Char → Option (List Char)
  | 0, cs => some cs
  | _ + 1, [] => none
  | n + 1, c :: cs => if c.utf8Size ≤ n + 1 then fromPlace? (n + 1 - c.utf8Size) cs else none

/-- A text up to a place. -/
def upToPlace? : Nat → List Char → Option (List Char)
  | 0, _ => some []
  | _ + 1, [] => none
  | n + 1, c :: cs =>
    if c.utf8Size ≤ n + 1 then (upToPlace? (n + 1 - c.utf8Size) cs).map (c :: ·) else none

/-- The characters of a text with their places, the first of them at the place `n`. -/
def placed : Nat → List Char → List (Nat × Char)
  | _, [] => []
  | n, c :: cs => (n, c) :: placed (n + c.utf8Size) cs

/-- What stands in a text between two places. -/
def between? (cs : List Char) (start stop : Nat) : Option (List Char) :=
  (fromPlace? start cs).bind (upToPlace? (stop - start))

/-- Reads one more character of a directive, given its place and the text that has the fields. -/
def Stage.next (text : List Char) (place : Nat) (c : Char) : Stage → Option Stage
  | start => if c = '[' then some span else if beginsWord c then some word else none
  | word => if c = '=' then some (level []) else if c = '[' then some span else some word
  | span =>
    if c = ']' then some target
    else if c = '\x7b' then some (inField (place + c.utf8Size))
    else some span
  | inField first =>
    if c ≠ '\x7d' then some (inField first)
    else if (between? text first place).any isField then some fields
    else none
  | fields => if c = ']' then some target else none
  | target => if c = '=' then some (level []) else none
  | level read => some (level (c :: read))

def levelNames : List String := ["off", "error", "warn", "info", "debug", "trace"]

/-- Whether a text writes one of the numbers from 0 to 5, perhaps after a plus sign. -/
def isLevelNumber (cs : List Char) : Bool :=
  let digits := match cs with
    | '+' :: rest => rest
    | cs => cs
  !digits.isEmpty && digits.all Char.isDigit && Nat.ofDigitChars 10 digits 0 ≤ 5

/-- Whether a text is a level: a name in any case, or the number of one, or nothing. -/
def isLevel (cs : List Char) : Bool :=
  cs.isEmpty || isLevelNumber cs || levelNames.contains (String.ofList (smallLetters cs))

/-- Whether a directive may end at a stage.  A level has to stand flush: the blanks at the ends of
a directive are overlooked only where there is none. -/
def Stage.final (flush : Bool) : Stage → Bool
  | word | target => true
  | level read => flush && isLevel read.reverse
  | start | span | inField _ | fields => false

/-- Whether a text is a directive. -/
def isDirective (cs : List Char) : Bool :=
  match (placed 0 (trimmed cs)).foldlM (fun s p => s.next cs p.1 p.2) Stage.start with
  | some s => s.final (trimmed cs == cs)
  | none => false

/-- The pieces of a text between commas. -/
def pieces : List Char → List (List Char)
  | [] => [[]]
  | c :: cs =>
    match pieces cs with
    | [] => [[c]]
    | p :: ps => if c = ',' then [] :: p :: ps else (c :: p) :: ps

/-- Whether a text is a filter: every piece that is not empty has to be a directive. -/
def isFilter (text : String) : Bool :=
  (pieces text.toList).all fun p => p.isEmpty || isDirective p

end ResourceContainers.LogFilter
