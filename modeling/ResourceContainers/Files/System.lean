import ResourceContainers.Files.Content
import ResourceContainers.Files.RecordLock
import ResourceContainers.Io.Failure
import ResourceContainers.Table

/-!
# Files and the requests to the operating system

Descriptors are names for open descriptions, which have a position and a mode; descriptions are
open on objects, which are files or pipes; record locks belong to objects.  One process and one
stranger hold locks.

A `Request` is one system call.  `System.serve` says what it does.  A request that fails leaves
everything as it was.

A system may be disturbed: `faults` are errors that the next requests meet in place of being
served.  It also keeps a list of the requests it got.

* `System.serve`: a request that nothing disturbs.
* `System.issue`: a request.
* `System.persist`: a request that is repeated for as long as it is interrupted.
-/

namespace ResourceContainers

/-- The number of a descriptor. -/
abbrev Descriptor := Nat

/-- What a descriptor can be open on.  A pipe has the bytes that were written and not read yet. -/
inductive Body
  | file (content : Content)
  | pipe (buffer : List UInt8)

/-- A file or a pipe, with the locks of this process and those of the stranger. -/
structure FileObject where
  body : Body
  ours : List RecordLock
  theirs : List RecordLock

instance : Inhabited FileObject := ⟨⟨.pipe [], [], []⟩⟩

/-- The mode in which an object is open. -/
structure Mode where
  readable : Bool
  writable : Bool
  deriving DecidableEq, Repr

namespace Mode

def readOnly : Mode := ⟨true, false⟩

def writeOnly : Mode := ⟨false, true⟩

def readWrite : Mode := ⟨true, true⟩

end Mode

/-- An open description. -/
structure Description where
  object : Nat
  mode : Mode
  position : Nat
  deriving DecidableEq, Repr

instance : Inhabited Description := ⟨⟨0, .readOnly, 0⟩⟩

/-- One system call.  A lock is set, shared or not, or a gap; the length zero means to the end. -/
inductive Request
  | read (fd : Descriptor) (count : Nat)
  | pread (fd : Descriptor) (count offset : Nat)
  | readv (fd : Descriptor) (counts : List Nat)
  | write (fd : Descriptor) (data : List UInt8)
  | pwrite (fd : Descriptor) (data : List UInt8) (offset : Nat)
  | writev (fd : Descriptor) (buffers : List (List UInt8))
  | sync (fd : Descriptor) (metadata : Bool)
  | truncate (fd : Descriptor) (size : Nat)
  | seek (fd : Descriptor) (offset : Nat)
  | tell (fd : Descriptor)
  | stat (fd : Descriptor)
  | lock (fd : Descriptor) (wait : Bool) (shared : Option Bool) (start length : Nat)
  | close (fd : Descriptor)
  deriving DecidableEq, Repr

/-- What a request brings. -/
inductive Yield
  | bytes (data : List UInt8)
  | number (n : Nat)
  deriving DecidableEq, Repr

/-- The state of the operating system, as far as this process can tell.  The next requests meet the
faults; the requests so far are kept, the last first. -/
structure System where
  descriptors : Table Descriptor Nat
  descriptions : Array Description
  objects : Array FileObject
  nextDescriptor : Nat
  faults : List Errno
  requests : List Request

namespace System

def empty : System := ⟨Table.empty, #[], #[], 0, [], []⟩

instance : Inhabited System := ⟨empty⟩

/-! ## Looking up and changing -/

/-- The description that a descriptor stands for, and its place. -/
def description? (s : System) (fd : Descriptor) : Option (Nat × Description) :=
  (s.descriptors.get? fd).map fun d => (d, s.descriptions.getD d default)

def object (s : System) (o : Nat) : FileObject := s.objects.getD o default

def setBody (s : System) (o : Nat) (body : Body) : System :=
  { s with objects := s.objects.modify o fun x => { x with body := body } }

def setPosition (s : System) (d : Nat) (position : Nat) : System :=
  { s with descriptions := s.descriptions.modify d fun x => { x with position := position } }

def setOurs (s : System) (o : Nat) (locks : List RecordLock) : System :=
  { s with objects := s.objects.modify o fun x => { x with ours := locks } }

def setTheirs (s : System) (o : Nat) (locks : List RecordLock) : System :=
  { s with objects := s.objects.modify o fun x => { x with theirs := locks } }

/-- Whether some descriptor is open on an object in a mode. -/
def isOpen (s : System) (o : Nat) (mode : Mode → Bool) : Bool :=
  s.descriptors.values.any fun d =>
    let x := s.descriptions.getD d default
    x.object == o && mode x.mode

/-- Closes a descriptor.  That gives up every lock of this process on the object, whichever
descriptor it was taken through. -/
def dropDescriptor (s : System) (fd : Descriptor) : System :=
  match s.description? fd with
  | none => s
  | some (_, x) => { s.setOurs x.object [] with descriptors := s.descriptors.erase fd }

/-! ## Opening -/

/-- Opens a description under a new descriptor. -/
def openDescription (s : System) (x : Description) : System × Descriptor :=
  ({ s with
      descriptors := s.descriptors.insert s.nextDescriptor s.descriptions.size
      descriptions := s.descriptions.push x
      nextDescriptor := s.nextDescriptor + 1 },
    s.nextDescriptor)

/-- Makes a new object; gives its place. -/
def newObject (s : System) (body : Body) : System × Nat :=
  ({ s with objects := s.objects.push ⟨body, [], []⟩ }, s.objects.size)

/-- Opens a new file for reading and writing. -/
def openFile (s : System) (data : List UInt8) : System × Descriptor :=
  let (s, o) := s.newObject (.file (.ofBytes data))
  s.openDescription ⟨o, .readWrite, 0⟩

/-- Opens a new pipe: its end for reading, then its end for writing. -/
def openPipe (s : System) : System × Descriptor × Descriptor :=
  let (s, o) := s.newObject (.pipe [])
  let (s, r) := s.openDescription ⟨o, .readOnly, 0⟩
  let (s, w) := s.openDescription ⟨o, .writeOnly, 0⟩
  (s, r, w)

/-- Opens the object of a descriptor once more. -/
def reopen (s : System) (fd : Descriptor) (mode : Mode) : Option (System × Descriptor) :=
  (s.description? fd).map fun x => s.openDescription ⟨x.2.object, mode, 0⟩

/-- Gives the description of a descriptor another descriptor. -/
def duplicate (s : System) (fd : Descriptor) : Option (System × Descriptor) :=
  (s.description? fd).map fun x =>
    ({ s with
        descriptors := s.descriptors.insert s.nextDescriptor x.1
        nextDescriptor := s.nextDescriptor + 1 },
      s.nextDescriptor)

/-! ## Serving requests -/

/-- Reads from an open description at its position, or at an offset of a file. -/
def serveRead (s : System) (d : Nat) (x : Description) (count : Nat) (offset? : Option Nat) :
    Except Errno (Yield × System) :=
  if !x.mode.readable then .error .badDescriptor
  else
    match (s.object x.object).body with
    | .pipe buffer =>
      .ok (.bytes (buffer.take count), s.setBody x.object (.pipe (buffer.drop count)))
    | .file content =>
      let offset := offset?.getD x.position
      if maxOffset < offset + count then .error .invalid
      else
        let data := content.read offset count
        .ok (.bytes data,
          if offset?.isSome then s else s.setPosition d (offset + data.length))

/-- Writes to an open description at its position, or at an offset of a file. -/
def serveWrite (s : System) (d : Nat) (x : Description) (data : List UInt8)
    (offset? : Option Nat) : Except Errno (Yield × System) :=
  if !x.mode.writable then .error .badDescriptor
  else
    match (s.object x.object).body with
    | .pipe buffer =>
      if data.isEmpty then .ok (.number 0, s)
      else if !s.isOpen x.object Mode.readable then .error .brokenPipe
      else .ok (.number data.length, s.setBody x.object (.pipe (buffer ++ data)))
    | .file content =>
      let offset := offset?.getD x.position
      if maxOffset < offset + data.length then .error .invalid
      else
        let s := s.setBody x.object (.file (content.write offset data.toArray))
        .ok (.number data.length,
          if offset?.isSome then s else s.setPosition d (offset + data.length))

/-- Whether the object of a description is a pipe. -/
def isPipe (s : System) (x : Description) : Bool :=
  match (s.object x.object).body with
  | .pipe _ => true
  | .file _ => false

/-- Makes a file shorter or longer. -/
def serveTruncate (s : System) (x : Description) (size : Nat) : Except Errno (Yield × System) :=
  match (s.object x.object).body with
  | .pipe _ => .error .invalid
  | .file content =>
    if x.mode.writable then .ok (.number 0, s.setBody x.object (.file (content.resize size)))
    else .error .invalid

/-- Sets a lock or a gap.  A shared lock needs an object that is open for reading, any other one an
object that is open for writing.

The system does not wait: a lock that is in the way is answered with `again` even where the request
would rather wait, and an operating system would wait until the lock is gone. -/
def serveLock (s : System) (x : Description) (shared : Option Bool) (start length : Nat) :
    Except Errno (Yield × System) :=
  match Stretch.ofLength? start length with
  | none => .error .overflow
  | some stretch =>
    let object := s.object x.object
    let done := Except.ok (Yield.number 0,
      s.setOurs x.object (RecordLock.replace shared stretch object.ours))
    match shared with
    | none => done
    | some shared =>
      if !(if shared then x.mode.readable else x.mode.writable) then .error .badDescriptor
      else if (RecordLock.conflict? object.theirs shared stretch).isSome then .error .again
      else done

/-- The size that the system tells of an object; a pipe has none. -/
def sizeOf (o : FileObject) : Nat :=
  match o.body with
  | .pipe _ => 0
  | .file content => content.size

/-- Serves a request on an open description. -/
def serveOpen (s : System) (d : Nat) (x : Description) : Request → Except Errno (Yield × System)
  | .read _ count => s.serveRead d x count none
  | .readv _ counts => s.serveRead d x (counts.foldr (· + ·) 0) none
  | .pread _ count offset =>
    if s.isPipe x then .error .illegalSeek else s.serveRead d x count (some offset)
  | .write _ data => s.serveWrite d x data none
  | .writev _ buffers => s.serveWrite d x buffers.flatten none
  | .pwrite _ data offset =>
    if s.isPipe x then .error .illegalSeek else s.serveWrite d x data (some offset)
  | .sync _ _ => if s.isPipe x then .error .invalid else .ok (.number 0, s)
  | .truncate _ size => s.serveTruncate x size
  | .seek _ offset =>
    if s.isPipe x then .error .illegalSeek else .ok (.number offset, s.setPosition d offset)
  | .tell _ => if s.isPipe x then .error .illegalSeek else .ok (.number x.position, s)
  | .stat _ => .ok (.number (sizeOf (s.object x.object)), s)
  | .lock _ _ shared start length => s.serveLock x shared start length
  | .close fd => .ok (.number 0, s.dropDescriptor fd)

end System

/-- The descriptor that a request is about. -/
def Request.descriptor : Request → Descriptor
  | read fd _ | pread fd _ _ | readv fd _ | write fd _ | pwrite fd _ _ | writev fd _ | sync fd _
  | truncate fd _ | seek fd _ | tell fd | stat fd | lock fd _ _ _ _ | close fd => fd

namespace System

/-- Serves a request; its descriptor has to be open. -/
def serve (s : System) (r : Request) : Except Errno (Yield × System) :=
  match s.description? r.descriptor with
  | none => .error .badDescriptor
  | some (d, x) => s.serveOpen d x r

/-- What a fault does besides making a request fail: a descriptor is closed all the same. -/
def afterFault (s : System) : Request → System
  | .close fd => s.dropDescriptor fd
  | _ => s

/-- Issues a request. -/
def issue (s : System) (r : Request) : Except Errno Yield × System :=
  let s := { s with requests := r :: s.requests }
  match s.faults with
  | e :: rest => (.error e, { s with faults := rest }.afterFault r)
  | [] =>
    match s.serve r with
    | .ok (y, s) => (.ok y, s)
    | .error e => (.error e, s)

/-- Issues a request again for at most `n` interruptions. -/
def retry : Nat → System → Request → Except Errno Yield × System
  | 0, s, r => s.issue r
  | n + 1, s, r =>
    match s.issue r with
    | (.error e, s) => if e = .interrupted then retry n s r else (.error e, s)
    | (.ok y, s) => (.ok y, s)

/-- Issues a request for as long as it is interrupted.  Only a fault interrupts. -/
def persist (s : System) (r : Request) : Except Errno Yield × System := retry s.faults.length s r

/-! ## What goes on around the requests -/

/-- The first bytes of a file, as somebody reads them who has opened it for reading himself and is
neither interrupted nor watched.  A pipe has no first bytes. -/
def contents (s : System) (fd : Descriptor) (count : Nat) : Except Errno (List UInt8) :=
  match s.description? fd with
  | none => .error .badDescriptor
  | some (_, x) =>
    match (s.object x.object).body with
    | .pipe _ => .error .illegalSeek
    | .file content => .ok (content.read 0 count)

/-- Has the stranger set a lock or a gap. -/
def strangerLock (s : System) (fd : Descriptor) (shared : Option Bool) (start length : Nat) :
    Option (Except Errno System) :=
  (s.description? fd).map fun x =>
    match Stretch.ofLength? start length with
    | none => .error .overflow
    | some stretch =>
      let object := s.object x.2.object
      let done := Except.ok (s.setTheirs x.2.object
        (RecordLock.replace shared stretch object.theirs))
      match shared with
      | none => done
      | some shared =>
        if (RecordLock.conflict? object.ours shared stretch).isSome then .error .again else done

/-- The first lock of this process that would be in the way of the stranger. -/
def probe (s : System) (fd : Descriptor) (shared : Bool) (start length : Nat) :
    Option (Except Errno (Option RecordLock)) :=
  (s.description? fd).map fun x =>
    match Stretch.ofLength? start length with
    | none => .error .overflow
    | some stretch => .ok (RecordLock.conflict? (s.object x.2.object).ours shared stretch)

end System

end ResourceContainers
