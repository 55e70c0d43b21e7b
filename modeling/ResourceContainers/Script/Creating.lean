import ResourceContainers.Script.Machine

/-!
# Creating and dropping containers by name

A created container gets a fresh identity and is then entered into a registry.  Whatever a new
handle takes the place of is let go only after that, so it still lives when the registry sweeps.
-/

namespace ResourceContainers.Script

variable {ω : Type}

/-- Creates a container and enters it into a registry. -/
def create (c : Config) (registry : String) (meter : Meter) : Exec ω Handle := do
  let m ← get
  let (pool, n) := m.pool.create c meter
  let r := (m.registry registry).register m.alive m.pool.nextId n
  set ({ m with pool := pool }.withRegistry registry r)
  return .managed n

def identity (h : Handle) : Exec ω UInt64 := do return (← get).pool.id h

/-- Puts a container under a name. -/
def keep (name : String) (h : Handle) : Exec ω Unit := do
  let id ← identity h
  modify fun m =>
    { m with handles := m.handles.insert name h, known := m.known.insert name id }

/-- Creates containers one after another, and gives their identities. -/
def createEach (count : Nat) (c : Config) (how : Creation) (stem : Option String) :
    Exec ω (List UInt64) :=
  (List.range count).mapM fun i => do
    let h ← create c how.registry how.meter
    match stem with
    | some stem => keep (stem ++ toString i) h
    | none => pure ()
    identity h

/-- Creates containers that all live until the last is there. -/
def createAll : Nat → String → List Handle → Exec ω (List Handle)
  | 0, _, made => return made
  | count + 1, registry, made => do
    let h ← holding made (create Config.empty registry .idle)
    createAll count registry (h :: made)

/-- What there is to say about containers that were created together. -/
def together (registry : String) (made : List Handle) : Exec ω (Answer ω) :=
  holding made do
    let m ← get
    let ids := made.map m.pool.id
    let r := m.registry registry
    return .createdTogether ids.eraseDups.length ids.min? ids.max?
      (r.containers m.alive).length r.size

/-- Creates the container of a command. -/
def createNamed (name : String) (how : Creation) : Exec ω (Answer ω) := do
  match how.source.config with
  | .error why => return .noConfig why
  | .ok c =>
    let h ← create c how.registry how.meter
    keep name h
    return .created (← identity h)

/-- Creates the containers of a command.  Their configuration is looked at only if there are any. -/
def createMany (count : Nat) (stem : Option String) (how : Creation) : Exec ω (Answer ω) := do
  match count, how.source.config with
  | _ + 1, .error why => return .noConfig why
  | 0, _ => return .createdMany none none ((← get).registry how.registry).size
  | count, .ok c =>
    let ids ← createEach count c how stem
    return .createdMany ids.head? ids.getLast? ((← get).registry how.registry).size

/-- Gives another name to a container. -/
def cloneHandle (name : String) (h : Handle) : Exec ω (Answer ω) := do
  keep name h
  return .done

/-- Lets go of a name. -/
def dropHandle (name : String) : Exec ω (Answer ω) := do
  let m ← get
  set { m with handles := m.handles.erase name }
  return .truth (m.handles.contains name)

/-- Looks a container up by the identity that last went by a name. -/
def lookUp (name : String) (registry : String) : Exec ω (Answer ω) := do
  let m ← get
  let id? := if name = "root" then some 0 else m.known.get? name
  match id? with
  | none => return .missing (.handle name)
  | some id =>
    let h? := (m.registry registry).get? m.alive id
    return .found (h?.map fun h => (m.pool.id h, m.pool.phase h))

/-- Takes the dead entries out of a registry. -/
def prune (registry : String) : Exec ω (Answer ω) := do
  let m ← get
  let (r, count) := (m.registry registry).prune m.alive
  set (m.withRegistry registry r)
  return .number count

/-- Answers a question about a container. -/
def respond (p : Pool) (h : Handle) : Question → Answer ω
  | .info => .info (p.info h)
  | .id => .number (p.id h).toNat
  | .name => .name (p.name h)
  | .isRoot => .truth h.isRoot
  | .attached => .number (p.attached h)
  | .constraints => .constraints (p.limits h).toList
  | .phase => .phase (p.phase h)
  | .text => .text (p.text h)
  | .fullText => .text (p.fullText h)

end ResourceContainers.Script
