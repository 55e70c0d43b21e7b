/-!
# Record locks

A record lock covers the positions of a file from a first to a last one.  What one owner holds is a
list of locks in increasing order that do not overlap; locks of one mode that touch are one lock.
An owner never conflicts with itself: a new lock takes the place of whatever it covers.

* `RecordLock.replace`: puts a lock, or a gap, in the place of whatever it covers.
* `RecordLock.conflict?`: the first lock of somebody else that is in the way.
-/

namespace ResourceContainers

def maxOffset : Nat := 9223372036854775807

/-- A stretch of positions, both ends included. -/
structure Stretch where
  first : Nat
  last : Nat
  deriving DecidableEq, Repr

/-- Whether two stretches have a position in common. -/
def Stretch.overlaps (a b : Stretch) : Bool := a.first ≤ b.last && b.first ≤ a.last

/-- The stretch of `length` positions from `start` on; the length zero means to the end.  There is
none if it would end past the greatest offset. -/
def Stretch.ofLength? (start length : Nat) : Option Stretch :=
  if length = 0 then some ⟨start, maxOffset⟩
  else if start + length - 1 ≤ maxOffset then some ⟨start, start + length - 1⟩
  else none

/-- A lock on a stretch of a file.  It may be shared with others on the same positions. -/
structure RecordLock where
  shared : Bool
  stretch : Stretch
  deriving DecidableEq, Repr

namespace RecordLock

/-- What is left of a lock outside a stretch. -/
def outside (s : Stretch) (l : RecordLock) : List RecordLock :=
  if l.stretch.overlaps s then
    (if l.stretch.first < s.first then [⟨l.shared, ⟨l.stretch.first, s.first - 1⟩⟩] else []) ++
      (if s.last < l.stretch.last then [⟨l.shared, ⟨s.last + 1, l.stretch.last⟩⟩] else [])
  else [l]

/-- Puts a lock in its place among locks that it does not overlap. -/
def insert (new : RecordLock) : List RecordLock → List RecordLock
  | [] => [new]
  | l :: rest =>
    if new.stretch.first < l.stretch.first then new :: l :: rest else l :: insert new rest

/-- Joins a lock to the first of a list if they touch and have one mode. -/
def join (l : RecordLock) : List RecordLock → List RecordLock
  | [] => [l]
  | m :: rest =>
    if l.shared = m.shared ∧ l.stretch.last + 1 = m.stretch.first then
      ⟨l.shared, ⟨l.stretch.first, m.stretch.last⟩⟩ :: rest
    else l :: m :: rest

/-- Makes one lock of those that touch and have one mode. -/
def joinAll (locks : List RecordLock) : List RecordLock := locks.foldr join []

/-- Puts a lock of a mode, or a gap, in the place of whatever covers a stretch. -/
def replace (mode : Option Bool) (s : Stretch) (locks : List RecordLock) : List RecordLock :=
  let rest := locks.flatMap (outside s)
  match mode with
  | none => rest
  | some shared => joinAll (insert ⟨shared, s⟩ rest)

/-- Whether a lock is in the way of somebody else's lock. -/
def blocks (l : RecordLock) (shared : Bool) (s : Stretch) : Bool :=
  l.stretch.overlaps s && !(l.shared && shared)

/-- The first lock of a list that is in the way of somebody else's lock. -/
def conflict? (locks : List RecordLock) (shared : Bool) (s : Stretch) : Option RecordLock :=
  locks.find? fun l => l.blocks shared s

end RecordLock

end ResourceContainers
