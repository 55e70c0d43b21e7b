import ResourceContainers.Text.Blank

/-!
# Numbers in filters

A value in a filter may be a number: whole, with a point, with an exponent, infinite, or no number
at all.

* `LogFilter.isNumber`: whether a text is a number.
-/

namespace ResourceContainers.LogFilter

def isDigits (cs : List Char) : Bool := !cs.isEmpty && cs.all Char.isDigit

/-- A text without the sign before it, if there is one. -/
def withoutSign : List Char → List Char
  | '+' :: rest => rest
  | '-' :: rest => rest
  | cs => cs

/-- Whether a text is an exponent, or empty. -/
def isExponent : List Char → Bool
  | [] => true
  | c :: rest => (c == 'e' || c == 'E') && isDigits (withoutSign rest)

/-- Whether a text is a decimal number without a sign.  There may be no digits before the point or
none after it, but not both. -/
def isDecimal (cs : List Char) : Bool :=
  match cs.dropWhile Char.isDigit with
  | '.' :: rest =>
    (cs.head? != some '.' || rest.head?.any Char.isDigit) &&
      isExponent (rest.dropWhile Char.isDigit)
  | rest => cs.head?.any Char.isDigit && isExponent rest

def numberNames : List String := ["inf", "infinity", "nan"]

def isNumber (cs : List Char) : Bool :=
  isDecimal (withoutSign cs) ||
    numberNames.contains (String.ofList (smallLetters (withoutSign cs)))

end ResourceContainers.LogFilter
