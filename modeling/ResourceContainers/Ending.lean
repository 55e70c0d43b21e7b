/-!
# Endings

What a piece of code comes to that may panic: its result, or the message of the panic.
-/

namespace ResourceContainers

/-- How something ends that may panic. -/
inductive Ending (α : Type)
  | returned (result : α)
  | panicked (message : String)
  deriving DecidableEq

namespace Ending

variable {α β : Type}

/-- Goes on with what was given back.  A panic stays what it is. -/
def map (f : α → β) : Ending α → Ending β
  | returned result => returned (f result)
  | panicked message => panicked message

theorem map_eq_returned {f : α → β} {e : Ending α} {b : β} :
    e.map f = returned b ↔ ∃ a, e = returned a ∧ f a = b := by
  cases e <;> simp [map]

/-- What was given back, unless there was a panic. -/
def result? : Ending α → Option α
  | returned result => some result
  | panicked _ => none

end Ending

end ResourceContainers
