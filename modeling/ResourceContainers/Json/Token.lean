/-!
# Tokens of JSON texts

A JSON text is first split into tokens; blanks between tokens carry no meaning and disappear here.

* `Piece.text`: what a string literal denotes.  An escaped surrogate without its partner denotes no
  character, so such a literal is well-formed but denotes no text.
* `Token.next`: the token at the front of a text, and what is left after it.
* `Token.ofText?`: all tokens of a text.
* `length_lt_of_next`: a token takes at least one character, which is why splitting ends.
-/

namespace ResourceContainers.Json

/-- A token of a JSON text.  There is no number if the literal has a sign, a fraction or an
exponent, and no text if the literal denotes none. -/
inductive Token
  | comma
  | colon
  | openArray
  | closeArray
  | openObject
  | closeObject
  | null
  | bool (b : Bool)
  | number (natural : Option Nat)
  | string (text : Option String)
  deriving DecidableEq, Repr

/-! ## Numbers -/

def digitValue (c : Char) : Nat := c.toNat - '0'.toNat

def ofDigits (cs : List Char) : Nat := cs.foldl (fun n c => 10 * n + digitValue c) 0

/-- The part of a number before its point: no digits follow a leading zero. -/
def whole? : List Char → Option (Nat × List Char)
  | [] => none
  | c :: rest =>
    if c = '0' then some (0, rest)
    else if c.isDigit then
      some (ofDigits (c :: rest.takeWhile Char.isDigit), rest.dropWhile Char.isDigit)
    else none

/-- A run of at least one digit, left out. -/
def skipDigits? : List Char → Option (List Char)
  | [] => none
  | c :: rest => if c.isDigit then some (rest.dropWhile Char.isDigit) else none

def fraction? : List Char → Option (Bool × List Char)
  | '.' :: rest => (skipDigits? rest).map (true, ·)
  | rest => some (false, rest)

/-- Leaves out one sign. -/
def skipSign : List Char → List Char
  | '+' :: rest => rest
  | '-' :: rest => rest
  | rest => rest

def exponent? : List Char → Option (Bool × List Char)
  | [] => some (false, [])
  | c :: rest =>
    if c = 'e' ∨ c = 'E' then (skipDigits? (skipSign rest)).map (true, ·)
    else some (false, c :: rest)

def unsigned? (cs : List Char) : Option (Option Nat × List Char) := do
  let (n, cs) ← whole? cs
  let (hasFraction, cs) ← fraction? cs
  let (hasExponent, cs) ← exponent? cs
  return (if hasFraction || hasExponent then none else some n, cs)

def number? : List Char → Option (Option Nat × List Char)
  | '-' :: rest => (unsigned? rest).map fun p => (none, p.2)
  | rest => unsigned? rest

/-! ## Strings -/

/-- A piece of a string literal: a character, or an escaped code of sixteen bits, which need not be
one. -/
inductive Piece
  | char (c : Char)
  | code (u : Nat)
  deriving DecidableEq, Repr

def hexValue? (c : Char) : Option Nat :=
  if c.isDigit then some (c.toNat - '0'.toNat)
  else if 'a' ≤ c ∧ c ≤ 'f' then some (c.toNat - 'a'.toNat + 10)
  else if 'A' ≤ c ∧ c ≤ 'F' then some (c.toNat - 'A'.toNat + 10)
  else none

/-- The code that four hexadecimal digits write. -/
def code? (a b c d : Char) : Option Nat := do
  let a ← hexValue? a
  let b ← hexValue? b
  let c ← hexValue? c
  let d ← hexValue? d
  return ((a * 16 + b) * 16 + c) * 16 + d

/-- The character that a backslash and one letter stand for. -/
def escaped? : Char → Option Char
  | '"' => some '"'
  | '\\' => some '\\'
  | '/' => some '/'
  | 'b' => some '\x08'
  | 'f' => some '\x0c'
  | 'n' => some '\n'
  | 'r' => some '\r'
  | 't' => some '\t'
  | _ => none

/-- The pieces of a string literal after its opening quotation mark, and what follows the closing
one.  Control characters have to be escaped. -/
def pieces? : List Char → Option (List Piece × List Char)
  | [] => none
  | '"' :: rest => some ([], rest)
  | '\\' :: 'u' :: a :: b :: c :: d :: rest => do
    let u ← code? a b c d
    let (ps, rest) ← pieces? rest
    return (.code u :: ps, rest)
  | '\\' :: e :: rest => do
    let c ← escaped? e
    let (ps, rest) ← pieces? rest
    return (.char c :: ps, rest)
  | c :: rest =>
    if c.toNat < 0x20 then none
    else do
      let (ps, rest) ← pieces? rest
      return (.char c :: ps, rest)

/-- Codes that open a surrogate pair. -/
def isLeading (u : Nat) : Bool := 0xD800 ≤ u && u ≤ 0xDBFF

/-- Codes that close a surrogate pair. -/
def isTrailing (u : Nat) : Bool := 0xDC00 ≤ u && u ≤ 0xDFFF

/-- The character that a surrogate pair stands for. -/
def pairedChar (u v : Nat) : Char := Char.ofNat (0x10000 + (u - 0xD800) * 0x400 + (v - 0xDC00))

/-- The text that the pieces of a literal denote, if every surrogate has its partner. -/
def Piece.text? : List Piece → Option (List Char)
  | [] => some []
  | .char c :: rest => (text? rest).map (c :: ·)
  | .code u :: .code v :: rest =>
    if isLeading u then
      if isTrailing v then (text? rest).map (pairedChar u v :: ·) else none
    else if isTrailing u then none
    else (text? (.code v :: rest)).map (Char.ofNat u :: ·)
  | .code u :: rest =>
    if isLeading u || isTrailing u then none
    else (text? rest).map (Char.ofNat u :: ·)

/-! ## Splitting -/

namespace Token

def isBlank (c : Char) : Bool := c = ' ' || c = '\t' || c = '\n' || c = '\r'

/-- The token at the front of a text that starts with no blank, and what is left after it. -/
def next : List Char → Option (Token × List Char)
  | ',' :: rest => some (comma, rest)
  | ':' :: rest => some (colon, rest)
  | '[' :: rest => some (openArray, rest)
  | ']' :: rest => some (closeArray, rest)
  | '\x7b' :: rest => some (openObject, rest)
  | '\x7d' :: rest => some (closeObject, rest)
  | 'n' :: 'u' :: 'l' :: 'l' :: rest => some (null, rest)
  | 't' :: 'r' :: 'u' :: 'e' :: rest => some (bool true, rest)
  | 'f' :: 'a' :: 'l' :: 's' :: 'e' :: rest => some (bool false, rest)
  | '"' :: rest => (pieces? rest).map fun p => (string ((Piece.text? p.1).map String.ofList), p.2)
  | rest => (number? rest).map fun p => (number p.1, p.2)

end Token

theorem length_dropWhile_le (p : Char → Bool) (cs : List Char) :
    (cs.dropWhile p).length ≤ cs.length :=
  (List.dropWhile_sublist p).length_le

theorem length_le_of_skipDigits {cs rest : List Char} (h : skipDigits? cs = some rest) :
    rest.length ≤ cs.length := by
  cases cs with
  | nil => simp [skipDigits?] at h
  | cons c cs => grind [skipDigits?, length_dropWhile_le Char.isDigit cs]

theorem length_le_of_fraction {cs : List Char} {p : Bool × List Char} (h : fraction? cs = some p) :
    p.2.length ≤ cs.length := by
  unfold fraction? at h
  split at h
  · obtain ⟨r, hr, rfl⟩ := Option.map_eq_some_iff.mp h
    exact Nat.le_succ_of_le (length_le_of_skipDigits hr)
  · grind

theorem length_skipSign_le (cs : List Char) : (skipSign cs).length ≤ cs.length := by
  unfold skipSign
  split <;> simp

theorem length_le_of_exponent {cs : List Char} {p : Bool × List Char} (h : exponent? cs = some p) :
    p.2.length ≤ cs.length := by
  cases cs with
  | nil => grind [exponent?]
  | cons c cs =>
    simp only [exponent?] at h
    split at h
    · obtain ⟨r, hr, rfl⟩ := Option.map_eq_some_iff.mp h
      exact Nat.le_succ_of_le (Nat.le_trans (length_le_of_skipDigits hr) (length_skipSign_le cs))
    · grind

theorem length_lt_of_whole {cs : List Char} {p : Nat × List Char} (h : whole? cs = some p) :
    p.2.length < cs.length := by
  cases cs with
  | nil => simp [whole?] at h
  | cons c cs => grind [whole?, length_dropWhile_le Char.isDigit cs]

theorem length_lt_of_unsigned {cs : List Char} {p : Option Nat × List Char}
    (h : unsigned? cs = some p) : p.2.length < cs.length := by
  rw [unsigned?, Option.bind_eq_bind, Option.bind_eq_some_iff] at h
  obtain ⟨q, hq, h⟩ := h
  rw [Option.bind_eq_bind, Option.bind_eq_some_iff] at h
  obtain ⟨r, hr, h⟩ := h
  obtain ⟨t, ht, h⟩ := Option.bind_eq_some_iff.mp h
  have h₁ := length_lt_of_whole hq
  have h₂ := length_le_of_fraction hr
  have h₃ := length_le_of_exponent ht
  grind

theorem length_lt_of_number {cs : List Char} {p : Option Nat × List Char}
    (h : number? cs = some p) : p.2.length < cs.length := by
  unfold number? at h
  split at h
  · obtain ⟨q, hq, rfl⟩ := Option.map_eq_some_iff.mp h
    exact Nat.lt_succ_of_lt (length_lt_of_unsigned (p := q) hq)
  · exact length_lt_of_unsigned h

theorem length_lt_of_pieces {cs : List Char} :
    ∀ {p : List Piece × List Char}, pieces? cs = some p → p.2.length < cs.length := by
  fun_induction pieces? cs with
  | case1 => simp
  | case2 => rintro _ ⟨⟩; simp
  | case3 a b c d rest ih =>
    intro p h
    obtain ⟨u, -, h⟩ := Option.bind_eq_some_iff.mp h
    obtain ⟨q, hq, h⟩ := Option.bind_eq_some_iff.mp h
    have := ih hq
    grind
  | case4 e rest _ ih =>
    intro p h
    obtain ⟨u, -, h⟩ := Option.bind_eq_some_iff.mp h
    obtain ⟨q, hq, h⟩ := Option.bind_eq_some_iff.mp h
    have := ih hq
    grind
  | case5 => simp
  | case6 c rest _ _ _ _ ih =>
    intro p h
    obtain ⟨q, hq, h⟩ := Option.bind_eq_some_iff.mp h
    have := ih hq
    grind

namespace Token

/-- **A token takes at least one character.** -/
theorem length_lt_of_next {cs : List Char} {p : Token × List Char} (h : next cs = some p) :
    p.2.length < cs.length := by
  unfold next at h
  split at h
  case h_10 =>
    obtain ⟨q, hq, rfl⟩ := Option.map_eq_some_iff.mp h
    exact Nat.lt_succ_of_lt (length_lt_of_pieces hq)
  case h_11 =>
    obtain ⟨q, hq, rfl⟩ := Option.map_eq_some_iff.mp h
    exact length_lt_of_number hq
  all_goals
    injection h with h
    subst h
    simp only [List.length_cons]
    omega

/-- The tokens of a text; `none` if it cannot be split into tokens. -/
def ofText? (cs : List Char) : Option (List Token) :=
  match _hd : cs.dropWhile isBlank with
  | [] => some []
  | c :: rest =>
    match _hn : next (c :: rest) with
    | none => none
    | some p => (ofText? p.2).map (p.1 :: ·)
termination_by cs.length
decreasing_by
  have h₁ := length_lt_of_next _hn
  have h₂ := length_dropWhile_le isBlank cs
  rw [_hd] at h₂
  omega

end Token

end ResourceContainers.Json
