/-!
# The content of a file

A file has a size and a byte at every position; past the size the bytes are zero.  Writing past the
end leaves zeros in between, and so does making a file longer.

* `Content.read`, `Content.write`, `Content.resize`.
* `Content.byte_write`, `Content.byte_resize`: what each does to a byte.
-/

namespace ResourceContainers

/-- The content of a file. -/
structure Content where
  size : Nat
  byte : Nat → UInt8
  byte_of_size_le : ∀ i, size ≤ i → byte i = 0

namespace Content

def empty : Content := ⟨0, fun _ => 0, fun _ _ => rfl⟩

instance : Inhabited Content := ⟨empty⟩

def read (c : Content) (position count : Nat) : List UInt8 :=
  (List.range (min count (c.size - position))).map fun i => c.byte (position + i)

/-- The byte at a position after some data was written. -/
def overlay (byte : Nat → UInt8) (position : Nat) (data : Array UInt8) (i : Nat) : UInt8 :=
  if position ≤ i ∧ i < position + data.size then data.getD (i - position) 0 else byte i

/-- Writes data at a position.  Without data nothing happens. -/
def write (c : Content) (position : Nat) (data : Array UInt8) : Content :=
  if data.isEmpty then c
  else
    { size := max c.size (position + data.size)
      byte := overlay c.byte position data
      byte_of_size_le := fun i h => by
        have h' := Nat.max_le.mp h
        rw [overlay, if_neg fun hi => Nat.not_lt.mpr h'.2 hi.2]
        exact c.byte_of_size_le i h'.1 }

def resize (c : Content) (size : Nat) : Content where
  size := size
  byte i := if i < size then c.byte i else 0
  byte_of_size_le i h := by rw [if_neg (Nat.not_lt.mpr h)]

def ofBytes (data : List UInt8) : Content := empty.write 0 data.toArray

theorem byte_write (c : Content) (position : Nat) (data : Array UInt8) (i : Nat) :
    (c.write position data).byte i =
      if position ≤ i ∧ i < position + data.size then data.getD (i - position) 0 else c.byte i := by
  unfold write
  split
  · rename_i h
    rw [if_neg]
    rw [Array.isEmpty_iff.mp h]
    simp only [Array.size_empty]
    omega
  · rfl

theorem byte_resize (c : Content) (size i : Nat) :
    (c.resize size).byte i = if i < size then c.byte i else 0 := rfl

end Content

end ResourceContainers
