import ResourceContainers.Script.Threads

/-!
# Running a script

`Script.step` says what each command does.  It runs bodies by a function that it is given; `runBody`
ties the knot.  Every command is run at most once --- a body by the command it belongs to, a
segment by the poll it is used up by --- so bodies are nested no deeper than there are commands,
and that number is fuel enough.

* `Script.step`: one command.
* `Script.report`: what a whole script does.
-/

namespace ResourceContainers.Script

variable {ω : Type}

/-- Goes on with the resource of a display name, if there is one. -/
def onResource (name : String) (f : Resource → Exec ω (Answer ω)) : Exec ω (Answer ω) :=
  match Resource.parse name with
  | .ok r => f r
  | .error e => return .noConfig (.unknownResource e)

/-- Feeds an account. -/
def feed (account : String) : Feed → Exec ω (Answer ω)
  | .add resource amount => onResource resource fun r => fill (·.add r amount)
  | .set resource amount => onResource resource fun r => fill (·.set r amount)
  | .reset => fill fun _ => Usage.zero
where
  fill (f : Usage → Usage) : Exec ω (Answer ω) := do
    modify fun m => { m with pool := m.pool.meter account f }
    return .done

def compareIds (p : Pool) (a b : Handle) : Answer ω :=
  .comparison (compare (p.id a) (p.id b)) (p.id a == 0) (p.id b == 0)

/-- Resolves references in order; the first that stands for nothing is reported. -/
def resolveAll (m : Machine ω) (cs : List Ref) : Except Missing (List Handle) :=
  cs.mapM m.resolve

/-- What one command does at its place in the script. -/
def step (run : Runner ω) (path : Path) : Command ω → Exec ω (Answer ω)
  | .create name how => createNamed name how
  | .createMany count stem how => createMany count stem how
  | .createTogether count registry => do together registry (← createAll count registry [])
  | .clone c name => onHandle c (cloneHandle name)
  | .drop name => dropHandle name
  | .same a b => onHandle a fun a => onHandle b fun b => return .truth (a == b)
  | .ask c question => onHandle c fun h => do return respond (← get).pool h question
  | .consumed c resource => onHandle c fun h => onResource resource fun r => do
      return .number ((← get).pool.consumed h r).toNat
  | .accepts c child => onHandle c fun h => do return .truth ((← get).pool.policy h child)
  | .compareIds a b => onHandle a fun a => onHandle b fun b => do
      return compareIds (← get).pool a b
  | .whereAmI => do
      let m ← get
      return .number (m.pool.id m.here).toNat
  | .whoAmI => do return .name (← get).worker.name
  | .update c resource amount => onResource resource fun r => onHandle c fun h =>
      changing (·.update h ⟨r, amount⟩)
  | .destroy c => onHandle c fun h => changing (·.destroy h)
  | .setPolicy c rule => onHandle c fun h => changing (·.setPolicy h rule.accepts)
  | .meter account f => feed account f
  | .run c body outcome => onHandle c fun h => do
      match ← holding [h] (within h (run path body)) with
      | .ok () => return .ran outcome
      | .error why => return .refused why
  | .nest cs times body => do
      match resolveAll (← get) (List.replicate times cs).flatten with
      | .error what => return .missing what
      | .ok levels =>
        match ← holding levels (withinAll levels (run path body)) with
        | .ok () => return .ranDeep levels.length
        | .error why => return .refused why
  | .panic message => panicking message
  | .guarded body => do
      match ← attempt (run path body) with
      | .ok () => return .noPanic
      | .error message => return .caught message
  | .hammer c threads runs => onHandle c fun h => hammer h threads runs
  | .thread body => runThread (run path body)
  | .spawn name body => spawn name (run path body)
  | .spawnHeld key name body => spawnHeld run path key name body
  | .join key => join run key
  | .teardown c => onHandle c teardown
  | .inherited child => do
      let m ← get
      return .number (m.pool.id (ResourceContainers.inherited m.pool m.worker.slot child)).toNat
  | .compareChildren a b => return .children a.name (a.kind == .task) (a == b)
  | .task key c segments => onHandle c fun h => do
      store key ⟨.ofHandle h, .ofSegments path segments⟩
      return .done
  | .poll key elsewhere => pollStored run key elsewhere
  | .dropTask key => do return .truth (← dropTask key)
  | .taskContainer key => do
      let m ← get
      match m.tasks.get? key with
      | none => return .missing (.task key)
      | some t => return .taskContainer t.scope.container.isRoot (m.pool.attached t.scope.container)
  | .spawnTask flavor segments => spawnTask run path flavor segments
  | .blockOn c segments => blockOn run path c segments
  | .lookUp name registry => lookUp name registry
  | .listed registry => do
      let m ← get
      return .ids (((m.registry registry).containers m.alive).map m.pool.id)
  | .snapshot registry => do
      let m ← get
      return .infos ((m.registry registry).snapshot m.alive m.pool)
  | .registrySize registry => do return .size ((← get).registry registry).size
  | .prune registry => prune registry
  | .unknown name => return .unknown name

/-- Runs the commands of a body one after another, the first of them at the index `i`. -/
def runFrom (run : Runner ω) (path : Path) : Nat → List (Command ω) → Exec ω Unit
  | _, [] => return ()
  | i, c :: cs => do
    noting (path ++ [i]) (step run (path ++ [i]) c)
    runFrom run path (i + 1) cs

/-- Runs a body at its place in the script, whose bodies are nested no deeper than `fuel`. -/
def runBody : Nat → Runner ω
  | 0 => fun _ _ => return ()
  | fuel + 1 => fun path body => runFrom (runBody fuel) path 0 body

/-- Lets held threads run, always the one with the least key, until none is left or `fuel` have
run.  A thread may hold back others in its turn. -/
def finishThreads (run : Runner ω) : Nat → Exec ω Unit
  | 0 => return ()
  | fuel + 1 => do
    match (← get).threads.keys with
    | [] => return ()
    | key :: _ =>
      discard (join run key)
      finishThreads run fuel

/-- Drops every task. -/
def dropTasks : Exec ω Unit := do
  for t in (← get).tasks.keys do
    discard (dropTask t)

/-- Runs a whole script, then what it left behind.  No more threads are held back than there are
commands. -/
def runAll (script : List (Command ω)) : StateM (Machine ω) (Report ω) := do
  let weight := bodyWeight script
  let run := runBody (weight + 1)
  let result ← (run [] script).run
  let m ← get
  discard (finishThreads run weight).run
  let atEnd := (← get).summary
  discard dropTasks.run
  let last ← get
  return {
    events := last.events.reverse
    panic := match result with | .error message => some message | .ok () => none
    current := m.pool.id m.here
    atEnd := atEnd
    withoutTasks := last.summary
  }

/-- What a script does. -/
def report (script : List (Command ω)) : Report ω := ((runAll script).run Machine.start).1

end ResourceContainers.Script
