import ResourceContainers.Scope

/-!
# Threads that step past one another

`Passage.into` and `Scope.enter` take a thread all the way into a container, and `Passage.leave` and
`Scope.leave` take it all the way out.  Other threads do not wait for that.  Here the same ways are
cut into single accesses --- a look at a phase, a look at one's own slot, one change of a counter,
one change of a slot --- and between any two of them every other thread may take steps.

* `Call`: an unfinished run or an unfinished poll, and how far it has come.
* `Call.next`: the next access of a call.
* `World`: the pool, the tasks, and all threads, each with its slot and its unfinished calls.
* `World.step`: one step of one thread.
* `Run`: steps of any threads in any order, with what could be seen of each.

## What code does

A command or a future is code that this library does not know.  While a thread executes code, the
code may start a thread, create, destroy, limit or poll whatever it likes, run into any container,
or end, in one of the ways of `Ending`.  A panic is an ending like any other, and the code around it
goes on or ends in its turn, so a panic that is caught and one that is not are both among the runs.

## Who has a task

A task has one owner.  Whoever polls it has it to himself until the poll is over, so nobody can poll
it or drop it meanwhile: a poll takes the task out of the world and puts it back.
-/

namespace ResourceContainers

/-! ## The ways in, without going them -/

namespace Passage

/-- Where a thread is bound once it has gone a way in. -/
def bind (s : Slot) : Passage → Slot
  | direct => s
  | stepOut _ => s.bind .root
  | attach n => s.bind (.managed n)

/-- Where a thread is bound once it has gone a way back. -/
def unbind (s : Slot) : Passage → Slot
  | direct => s
  | stepOut back => s.bind back
  | attach _ => s.bind .root

end Passage

namespace Scope

/-- Which way leads a thread that is bound to `current` into the container of a task. -/
def choose (t : Scope) (current : Handle) : Except Refusal Visit :=
  match t.container with
  | .root => .ok (if current.isRoot then .direct else .stepOut current)
  | .managed n =>
    if current = .managed n then .ok .direct
    else if current.isRoot then .ok .bound
    else .error .notInRoot

/-- Makes the attachment of a task to its container unless it has one. -/
def attach (t : Scope) (p : Pool) : Except Refusal (Scope × Pool) :=
  match t.container with
  | .root => .ok (t, p)
  | .managed n => t.acquire p n

/-- A task has its attachment already, or needs none, or makes it now. -/
theorem attach_cases {t t' : Scope} {p p' : Pool} (h : t.attach p = .ok (t', p')) :
    (t' = t ∧ p' = p ∧ (t.container = .root ∨ t.attached = true)) ∨
      ∃ n, t.container = .managed n ∧ t.attached = false ∧ p.acquire n = .ok p' ∧
        t' = { t with attached := true } := by
  obtain ⟨container, attached⟩ := t
  cases container with
  | root => obtain ⟨rfl, rfl⟩ := Prod.mk.inj (Except.ok.inj h); exact .inl ⟨rfl, rfl, .inl rfl⟩
  | managed n =>
    cases attached with
    | true => obtain ⟨rfl, rfl⟩ := Prod.mk.inj (Except.ok.inj h); exact .inl ⟨rfl, rfl, .inr rfl⟩
    | false =>
      simp only [attach, acquire] at h
      cases ha : p.acquire n with
      | error why => simp [ha] at h
      | ok q =>
        simp only [ha] at h
        obtain ⟨rfl, rfl⟩ := Prod.mk.inj (Except.ok.inj h)
        exact .inr ⟨n, rfl, rfl, ha, rfl⟩

/-- A task that makes its attachment is refused only for the reason that the container does not
run. -/
theorem acquire_of_attach_eq_error {t : Scope} {p : Pool} {why : Refusal}
    (h : t.attach p = .error why) :
    ∃ n, t.container = .managed n ∧ t.attached = false ∧ p.acquire n = .error why := by
  obtain ⟨container, attached⟩ := t
  cases container with
  | root => exact absurd h (by simp [attach])
  | managed n =>
    cases attached with
    | true => exact absurd h (by simp [attach, acquire])
    | false =>
      simp only [attach, acquire] at h
      cases ha : p.acquire n with
      | ok q => simp [ha] at h
      | error why' =>
        simp only [ha] at h
        obtain rfl := Except.error.inj h
        exact ⟨n, rfl, rfl, ha⟩

theorem release_cases (t : Scope) (p : Pool) :
    (t.release p = (t, p) ∧ (t.container = .root ∨ t.attached = false)) ∨
      ∃ n, t.container = .managed n ∧ t.attached = true ∧
        t.release p = ({ t with attached := false }, p.release n) := by
  obtain ⟨container, attached⟩ := t
  cases container with
  | root => exact .inl ⟨rfl, .inl rfl⟩
  | managed n =>
    cases attached with
    | true => exact .inr ⟨n, rfl, rfl, rfl⟩
    | false => exact .inl ⟨rfl, .inr rfl⟩

/-- Where a thread is bound once it has gone its way to a task. -/
def bind (t : Scope) (s : Slot) : Visit → Slot
  | .direct => s
  | .stepOut _ => s.bind .root
  | .bound => s.bind t.container

/-- Where a thread is bound once it has left a task again. -/
def unbind (s : Slot) : Visit → Slot
  | .direct => s
  | .stepOut back => s.bind back
  | .bound => s.bind .root

/-- A thread enters the container of a task by choosing a way, making the attachment if the way asks
for it, and binding itself. -/
theorem enter_eq_choose (t : Scope) (p : Pool) (s : Slot) :
    t.enter p s =
      match t.choose s.current with
      | .error why => .error why
      | .ok .bound =>
        match t.attach p with
        | .error why => .error why
        | .ok (t, p) => .ok (.bound, t, p, t.bind s .bound)
      | .ok visit => .ok (visit, t, p, t.bind s visit) := by
  obtain ⟨container, attached⟩ := t
  cases container with
  | root => by_cases hr : s.current.isRoot <;> simp [enter, choose, bind, hr]
  | managed n =>
    by_cases hn : s.current = .managed n
    · simp [enter, choose, bind, hn]
    · by_cases hr : s.current.isRoot
      · simp only [enter, choose, attach, hn, hr, if_true, if_false, acquire]
        cases attached with
        | true => rfl
        | false => cases h : p.acquire n <;> simp [bind]
      · simp [enter, choose, hn, hr]

end Scope

namespace Interleaving

/-! ## Calls -/

/-- How code ends.  A command is done when it returns, perhaps with an error of its own, and a
future when it is ready.  A future that is not ready yet is pending. -/
inductive Ending
  | done
  | pending
  | panicked
  deriving DecidableEq, Repr

/-- How far a run has come.  The container was running when it was looked at; the way in is chosen
and not gone yet; the attachment is made and the thread is not bound yet; the command is executed;
the thread is still bound where the command was; and it is bound to root again with the attachment
still there. -/
inductive RunStage
  | checked
  | going (way : Passage)
  | acquired (place : Nat)
  | inside (way : Passage)
  | leaving (way : Passage)
  | unbound (place : Nat)
  deriving DecidableEq, Repr

/-- How far a poll has come, in the same way.  The attachment belongs to the task: it is given up
only when the future is ready. -/
inductive PollStage
  | going (visit : Scope.Visit)
  | acquired
  | inside (visit : Scope.Visit)
  | leaving (visit : Scope.Visit) (ending : Ending)
  | unbound
  deriving DecidableEq, Repr

/-- A task that somebody owns, under a number of its own. -/
structure Job where
  number : Nat
  scope : Scope
  deriving DecidableEq, Repr

/-- A call that is not over. -/
inductive Call
  | run (target : Handle) (stage : RunStage)
  | poll (job : Job) (stage : PollStage)
  deriving DecidableEq, Repr

/-- What can be seen of a step.  A command starts to be executed in a container, and has returned
from it.  The future of a task starts to be executed, and a poll that has executed it is over.  A
poll that has not executed it fails: the task is ready then, with an error. -/
inductive Note
  | quiet
  | created (place : Nat)
  | destroyed (h : Handle)
  | updated (h : Handle) (k : Constraint)
  | refused (h : Handle) (why : Refusal)
  | entered (h : Handle)
  | returned (h : Handle)
  | polled (task : Nat) (h : Handle) (visit : Scope.Visit)
  | ended (task : Nat) (ending : Ending)
  | failed (task : Nat) (why : Refusal)
  deriving DecidableEq, Repr

/-- What a step of a thread leads to, with the call that the thread goes on with, if that is not
over, and the task that it gives back to the world. -/
structure Move where
  pool : Pool
  slot : Slot
  call : Option Call
  job : Option Job
  note : Note

/-- The next access of a run.  While the command is executed there is none. -/
def RunStage.next (target : Handle) (p : Pool) (s : Slot) : RunStage → Option Move
  | .checked =>
    match Passage.choose .running s.current target with
    | .error why => some ⟨p, s, none, none, .refused target why⟩
    | .ok way => some ⟨p, s, some (.run target (.going way)), none, .quiet⟩
  | .going (.attach n) =>
    match p.acquire n with
    | .error why => some ⟨p, s, none, none, .refused target why⟩
    | .ok p => some ⟨p, s, some (.run target (.acquired n)), none, .quiet⟩
  | .going way => some ⟨p, way.bind s, some (.run target (.inside way)), none, .entered target⟩
  | .acquired n =>
    let way := .attach n
    some ⟨p, way.bind s, some (.run target (.inside way)), none, .entered target⟩
  | .inside _ => none
  | .leaving (.attach n) =>
    some ⟨p, Passage.unbind s (.attach n), some (.run target (.unbound n)), none, .quiet⟩
  | .leaving way => some ⟨p, way.unbind s, none, none, .returned target⟩
  | .unbound n => some ⟨p.release n, s, none, none, .returned target⟩

/-- The next access of a poll.  While the future is executed there is none. -/
def PollStage.next (j : Job) (p : Pool) (s : Slot) : PollStage → Option Move
  | .going .bound =>
    match j.scope.attach p with
    | .error why => some ⟨p, s, none, some j, .failed j.number why⟩
    | .ok (t, p) => some ⟨p, s, some (.poll ⟨j.number, t⟩ .acquired), none, .quiet⟩
  | .going visit =>
    some ⟨p, j.scope.bind s visit, some (.poll j (.inside visit)), none,
      .polled j.number j.scope.container visit⟩
  | .acquired =>
    some ⟨p, j.scope.bind s .bound, some (.poll j (.inside .bound)), none,
      .polled j.number j.scope.container .bound⟩
  | .inside _ => none
  | .leaving .bound .done =>
    some ⟨p, Scope.unbind s .bound, some (.poll j .unbound), none, .quiet⟩
  | .leaving visit ending =>
    some ⟨p, Scope.unbind s visit, none, some j, .ended j.number ending⟩
  | .unbound =>
    let r := j.scope.release p
    some ⟨r.2, s, none, some ⟨j.number, r.1⟩, .ended j.number .done⟩

namespace Call

/-- The next access of a call. -/
def next (p : Pool) (s : Slot) : Call → Option Move
  | run target stage => stage.next target p s
  | poll j stage => stage.next j p s

/-- A call whose code ends.  Only a future can be pending. -/
def finish (ending : Ending) : Call → Option Call
  | run target (.inside way) =>
    if ending = .pending then none else some (run target (.leaving way))
  | poll j (.inside visit) => some (poll j (.leaving visit ending))
  | _ => none

/-- Whether the code of a call is being executed. -/
def isInside : Call → Bool
  | run _ (.inside _) | poll _ (.inside _) => true
  | _ => false

/-- The task that a call polls. -/
def job? : Call → Option Job
  | run _ _ => none
  | poll j _ => some j

end Call

/-- A run is started.  The phase of the container is looked at, or, for root, one's own slot. -/
def startRun (p : Pool) (s : Slot) (target : Handle) : Move :=
  match target with
  | .root =>
    match Passage.choose .running s.current .root with
    | .error why => ⟨p, s, none, none, .refused .root why⟩
    | .ok way => ⟨p, s, some (.run .root (.going way)), none, .quiet⟩
  | .managed n =>
    match (p.container n).phase with
    | .destroyed => ⟨p, s, none, none, .refused (.managed n) .notRunning⟩
    | .running => ⟨p, s, some (.run (.managed n) .checked), none, .quiet⟩

/-- A poll is started.  The slot is looked at. -/
def startPoll (p : Pool) (s : Slot) (j : Job) : Move :=
  match j.scope.choose s.current with
  | .error why => ⟨p, s, none, some j, .failed j.number why⟩
  | .ok visit => ⟨p, s, some (.poll j (.going visit)), none, .quiet⟩

/-- A request that changes the pool at once or is refused. -/
def request (p : Pool) (s : Slot) (h : Handle) (note : Note) : Except Refusal Pool → Move
  | .ok p => ⟨p, s, none, none, note⟩
  | .error why => ⟨p, s, none, none, .refused h why⟩

/-! ## The world -/

/-- A thread, with its unfinished calls, the innermost first. -/
structure Thread where
  slot : Slot
  calls : List Call

namespace Thread

def fresh : Thread := ⟨.fresh, []⟩

/-- Whether a thread is executing code, that of its innermost call or its own. -/
def isFree (th : Thread) : Bool := th.calls.head?.all Call.isInside

end Thread

/-- All there is.  The tasks are those that are not being polled. -/
structure World where
  pool : Pool
  tasks : List Job
  nextTask : Nat
  threads : List Thread

/-- What code can do.  It starts threads and puts new tasks inside containers. -/
inductive Deed
  | spawn
  | create (c : Config) (m : Meter)
  | destroy (h : Handle)
  | update (h : Handle) (k : Constraint)
  | setPolicy (h : Handle) (policy : Policy)
  | scope (h : Handle)
  | drop (task : Nat)
  | run (h : Handle)
  | poll (task : Nat)

/-- A step that a thread can take.  Its innermost call makes its next access, or the code of that
call ends, or does something. -/
inductive Act
  | next
  | finish (ending : Ending)
  | perform (deed : Deed)

/-- Takes the task with a number out of a list. -/
def takeJob (number : Nat) : List Job → Option (Job × List Job)
  | [] => none
  | j :: js =>
    if j.number = number then some (j, js)
    else (takeJob number js).map fun r => (r.1, j :: r.2)

namespace World

def start : World := ⟨Pool.empty, [], 0, [.fresh]⟩

/-- All unfinished calls. -/
def calls (w : World) : List Call := w.threads.flatMap Thread.calls

/-- All tasks that are not dropped, also those that are being polled. -/
def jobs (w : World) : List Job := w.tasks ++ w.calls.filterMap Call.job?

/-- The world after a move of the thread `k`, whose calls around the one that moved are `calls`. -/
def after (w : World) (k : Nat) (calls : List Call) (m : Move) : World :=
  { w with
    pool := m.pool
    tasks := m.job.toList ++ w.tasks
    threads := w.threads.set k ⟨m.slot, m.call.toList ++ calls⟩ }

/-- A deed of the thread `k`. -/
def perform (w : World) (k : Nat) (th : Thread) : Deed → Option (World × Note)
  | .spawn => some ({ w with threads := w.threads ++ [.fresh] }, .quiet)
  | .create c m =>
    let (p, n) := w.pool.create c m
    some (w.after k th.calls ⟨p, th.slot, none, none, .created n⟩, .created n)
  | .destroy h =>
    let m := request w.pool th.slot h (.destroyed h) (w.pool.destroy h)
    some (w.after k th.calls m, m.note)
  | .update h c =>
    let m := request w.pool th.slot h (.updated h c) (w.pool.update h c)
    some (w.after k th.calls m, m.note)
  | .setPolicy h policy =>
    let m := request w.pool th.slot h .quiet (w.pool.setPolicy h policy)
    some (w.after k th.calls m, m.note)
  | .scope h =>
    let m : Move := ⟨w.pool, th.slot, none, some ⟨w.nextTask, .ofHandle h⟩, .quiet⟩
    some ({ w with nextTask := w.nextTask + 1 }.after k th.calls m, m.note)
  | .drop task =>
    (takeJob task w.tasks).map fun (j, tasks) =>
      let m : Move := ⟨(j.scope.release w.pool).2, th.slot, none, none, .quiet⟩
      ({ w with tasks := tasks }.after k th.calls m, m.note)
  | .run h =>
    let m := startRun w.pool th.slot h
    some (w.after k th.calls m, m.note)
  | .poll task =>
    (takeJob task w.tasks).map fun (j, tasks) =>
      let m := startPoll w.pool th.slot j
      ({ w with tasks := tasks }.after k th.calls m, m.note)

/-- One step of the thread `k`, if it can take that step. -/
def step (w : World) (k : Nat) (a : Act) : Option (World × Note) :=
  match w.threads[k]? with
  | none => none
  | some th =>
    match a, th.calls with
    | .next, c :: calls => (c.next w.pool th.slot).map fun m => (w.after k calls m, m.note)
    | .finish ending, c :: calls =>
      (c.finish ending).map fun c =>
        (w.after k calls ⟨w.pool, th.slot, some c, none, .quiet⟩, .quiet)
    | .perform deed, _ => if th.isFree then w.perform k th deed else none
    | _, [] => none

end World

/-- A step that was taken. -/
structure Event where
  thread : Nat
  act : Act
  note : Note

/-- Takes steps one after another, if they can be taken, and gives the events, the newest first. -/
def World.replay (w : World) : List (Nat × Act) → Option (List Event × World)
  | [] => some ([], w)
  | (k, a) :: steps =>
    match w.step k a with
    | none => none
    | some (w', note) => (w'.replay steps).map fun r => (r.1 ++ [⟨k, a, note⟩], r.2)

/-- `Run w es w'`: the steps `es`, the newest first, lead from `w` to `w'`. -/
inductive Run (w : World) : List Event → World → Prop
  | nil : Run w [] w
  | cons {es : List Event} {v v' : World} {k : Nat} {a : Act} {note : Note}
      (h : Run w es v) (hs : v.step k a = some (v', note)) : Run w (⟨k, a, note⟩ :: es) v'

end Interleaving

end ResourceContainers
