import ResourceContainers.Passage

/-!
# Where a child starts

A child that starts in root stays there.  A child that starts elsewhere is placed by the policy of
the container its parent is bound to.
-/

namespace ResourceContainers

/-- The container that a child of a thread starts in. -/
def inherited (p : Pool) (s : Slot) (child : Child) : Handle :=
  if s.current.isRoot || p.policy s.current child then s.current else .root

/-- A child starts in the container of its parent or in root. -/
theorem inherited_eq (p : Pool) (s : Slot) (child : Child) :
    inherited p s child = s.current ∨ inherited p s child = .root := by
  unfold inherited
  split
  · exact .inl rfl
  · exact .inr rfl

end ResourceContainers
