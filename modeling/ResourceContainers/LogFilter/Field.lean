import ResourceContainers.LogFilter.Number
import ResourceContainers.LogFilter.Pattern

/-!
# Fields in filters

A field of a span is asked for by its name, perhaps with a value after an equals sign; what follows
a second equals sign does not count.  The value is a number or a pattern.

* `LogFilter.isField`: whether a text asks for a field.
-/

namespace ResourceContainers.LogFilter

/-- The value that a text asks for: what stands after the first equals sign and before the
second. -/
def askedValue? (cs : List Char) : Option (List Char) :=
  match cs.dropWhile (· ≠ '=') with
  | [] => none
  | _ :: rest => some (rest.takeWhile (· ≠ '='))

/-- Whether a text asks for a field.  The name may be anything. -/
def isField (cs : List Char) : Bool :=
  !cs.isEmpty && (askedValue? cs).all fun value => isNumber value || isPattern value

end ResourceContainers.LogFilter
