import ResourceContainers.Files.System
import ResourceContainers.Io.Gate

/-!
# File primitives

The operations that a program has on its files.  Those that move data or wait for storage pass the
gate; those that only look at or change the state of a descriptor do not.

A primitive makes at most one request.  An offset or a size that the operating system cannot
represent makes none.  A gated primitive repeats its request for as long as it is interrupted, and
so does a lock that waits.

* `Primitive.request`: the request of a primitive.
* `Primitive.operation?`: what the gate sees of a primitive.
* `Primitive.perform`: a primitive, through a gate.
-/

namespace ResourceContainers

/-- An operation on a file.  Reading fills buffers that are part of the state.  The greatest length
of a lock means to the end, however far the file grows. -/
inductive Primitive
  | read (fd : Descriptor)
  | pread (fd : Descriptor) (offset : UInt64)
  | readv (fd : Descriptor)
  | write (fd : Descriptor) (data : List UInt8)
  | pwrite (fd : Descriptor) (data : List UInt8) (offset : UInt64)
  | writev (fd : Descriptor) (buffers : List (List UInt8))
  | force (fd : Descriptor) (metadata : Bool)
  | truncate (fd : Descriptor) (size : UInt64)
  | seek (fd : Descriptor) (offset : UInt64)
  | position (fd : Descriptor)
  | size (fd : Descriptor)
  | lock (fd : Descriptor) (wait : Bool) (position length : UInt64) (shared : Bool)
  | release (fd : Descriptor) (position length : UInt64)
  | close (fd : Descriptor)
  deriving DecidableEq, Repr

/-- What a primitive gives.  A lock is contended if somebody else holds one that is in the way, and
the caller did not want to wait. -/
inductive Primitive.Value
  | nothing
  | number (n : Nat)
  | acquired
  | contended
  deriving DecidableEq, Repr

/-- The files of a process and the buffers that a primitive may fill. -/
structure FileState where
  system : System
  buffers : List (List UInt8)

def maxBuffers : Nat := 1024

/-- Fills buffers with data, one after another; what is not filled stays. -/
def scatter : List (List UInt8) → List UInt8 → List (List UInt8)
  | [], _ => []
  | b :: bs, data => (data.take b.length ++ b.drop data.length) :: scatter bs (data.drop b.length)

namespace Primitive

/-- The number that the operating system gets for an offset, if it can represent it. -/
def offset? (a : UInt64) : Option Nat := if a.toNat ≤ maxOffset then some a.toNat else none

/-- The failure of an offset that the operating system cannot represent. -/
def outOfRange (a : UInt64) : IoError :=
  .words .invalidInput
    ("offset " ++ toString a.toNat ++ " exceeds the platform file offset range")

/-- Makes a request with an offset. -/
def withOffset (a : UInt64) (f : Nat → Request) : Except IoError Request :=
  match offset? a with
  | some n => .ok (f n)
  | none => .error (outOfRange a)

/-- The length that the operating system gets for the length of a lock. -/
def lockLength? (length : UInt64) : Option Nat :=
  if length = UInt64.ofNat (UInt64.size - 1) then some 0 else offset? length

/-- The request for a lock or a gap. -/
def lockRequest (fd : Descriptor) (wait : Bool) (shared : Option Bool) (start length : UInt64) :
    Except IoError Request :=
  match offset? start, lockLength? length with
  | some start, some length => .ok (.lock fd wait shared start length)
  | _, _ => .error (.os .invalid)

/-- The request of a primitive, given the buffers it may fill. -/
def request (p : Primitive) (buffers : List (List UInt8)) : Except IoError Request :=
  match p with
  | read fd => .ok (.read fd buffers.flatten.length)
  | pread fd offset => withOffset offset (.pread fd buffers.flatten.length)
  | readv fd => .ok (.readv fd ((buffers.take maxBuffers).map List.length))
  | write fd data => .ok (.write fd data)
  | pwrite fd data offset => withOffset offset (.pwrite fd data)
  | writev fd buffers => .ok (.writev fd (buffers.take maxBuffers))
  | force fd metadata => .ok (.sync fd metadata)
  | truncate fd newSize => withOffset newSize (.truncate fd)
  | seek fd offset => withOffset offset (.seek fd)
  | position fd => .ok (.tell fd)
  | size fd => .ok (.stat fd)
  | lock fd wait start length shared => lockRequest fd wait (some shared) start length
  | release fd start length => lockRequest fd false none start length
  | close fd => .ok (.close fd)

/-- What the gate sees of a primitive; those that do not pass it show it nothing. -/
def operation? : Primitive → Option Operation
  | read _ => some .read
  | pread _ _ => some .positionalRead
  | readv _ => some .vectoredRead
  | write _ _ => some .write
  | pwrite _ _ _ => some .positionalWrite
  | writev _ _ => some .vectoredWrite
  | force _ _ => some .force
  | truncate _ _ => some .truncate
  | seek _ _ | position _ | size _ | lock _ _ _ _ _ | release _ _ _ | close _ => none

/-- Whether a primitive repeats a request that is interrupted. -/
def persists : Primitive → Bool
  | lock _ wait _ _ _ => wait
  | p => p.operation?.isSome

/-- What a primitive gives for what its request brought. -/
def value : Primitive → Yield → Value
  | force _ _, _ | truncate _ _, _ | release _ _ _, _ | close _, _ => .nothing
  | lock _ _ _ _ _, _ => .acquired
  | _, .number n => .number n
  | _, .bytes data => .number data.length

/-- What a primitive gives for the error its request met. -/
def failure (p : Primitive) (e : Errno) : Except IoError Value :=
  match p with
  | lock _ false _ _ _ =>
    if e = .again ∨ e = .accessDenied then .ok .contended else .error (.os e)
  | _ => .error (.os e)

def submit (p : Primitive) (s : System) (r : Request) : Except Errno Yield × System :=
  if p.persists then s.persist r else s.issue r

/-- Carries out a request. -/
def carryOut (p : Primitive) (r : Request) (st : FileState) : Except IoError Value × FileState :=
  match p.submit st.system r with
  | (.error e, s) => (p.failure e, { st with system := s })
  | (.ok (.bytes data), s) => (.ok (p.value (.bytes data)), ⟨s, scatter st.buffers data⟩)
  | (.ok (.number n), s) => (.ok (p.value (.number n)), { st with system := s })

/-- A request as an operation that the gate can run anywhere. -/
def asCall (p : Primitive) (r : Request) : Call FileState Value := fun _ st =>
  let (result, st) := p.carryOut r st
  (.returned result, st)

/-- Performs a primitive through a gate with the given counters, whose active adapter behaves as
given. -/
def perform (p : Primitive) (m : Metrics) (active : Option Conduct) (st : FileState) :
    Dispatched FileState Value :=
  match p.request st.buffers with
  | .error e => ⟨.returned (.error e), m, st⟩
  | .ok r =>
    if p.operation?.isSome then Gate.dispatch m active (p.asCall r) st
    else
      let (result, st) := p.carryOut r st
      ⟨.returned result, m, st⟩

/-- What a primitive submits to the active adapter of its gate. -/
def submits (p : Primitive) (buffers : List (List UInt8)) : Option Operation :=
  match p.request buffers with
  | .error _ => none
  | .ok _ => p.operation?

end Primitive

end ResourceContainers
