import ResourceContainers.Script.Machine

/-!
# Programs of one thread

A thread that runs into containers, out of them and into them again writes its slot each time and
relies on writing it back.  A reader of such code has a simpler picture: the binding belongs to the
text, like a variable that a block declares.  Here are both pictures.

* `Program`: what a thread may do, with everything it does later given by what it has seen so far.
* `exec`: the program on the state of a script, with the slot, `within` and `attempt`.
* `Position`: where in the text a part of a program stands --- in which container, and inside which
  attachments.
* `eval`: the program with its position as a parameter, on a `Store` that no run ever changes the
  counters of.

A program is a tree that may branch over infinitely many answers, and each way through it is finite.
So the programs are all those whose runs are nested to some depth, whatever they compute.
-/

namespace ResourceContainers

/-- The pool as it is inside further attachments to the containers at some places. -/
def Pool.counting (p : Pool) : List Nat → Pool
  | [] => p
  | n :: ns => (p.counting ns).change n fun c => { c with attached := c.attached + 1 }

namespace Lexical

open Script

/-- What a thread does until it gives back an `α` or panics.  It asks what it is bound to or
anything else that can be asked of containers, leaves events, and changes containers.  It runs
commands in containers, and parts of its own whose panics it catches. -/
inductive Program (ω : Type) : Type → Type 1
  | done {α : Type} (a : α) : Program ω α
  | panic {α : Type} (message : String) : Program ω α
  | current {α : Type} (next : Handle → Program ω α) : Program ω α
  | look {α : Type} (next : Pool → Program ω α) : Program ω α
  | note {α : Type} (e : Event ω) (next : Program ω α) : Program ω α
  | destroy {α : Type} (h : Handle) (next : Answer ω → Program ω α) : Program ω α
  | update {α : Type} (h : Handle) (k : Constraint) (next : Answer ω → Program ω α) : Program ω α
  | run {α β : Type} (h : Handle) (command : Program ω β)
      (next : Except Refusal β → Program ω α) : Program ω α
  | guarded {α β : Type} (part : Program ω β) (next : Except String β → Program ω α) : Program ω α

variable {ω α β : Type}

/-- Goes on with the result of a program. -/
def Program.bind : {α : Type} → Program ω α → (α → Program ω β) → Program ω β
  | _, .done a, f => f a
  | _, .panic message, _ => .panic message
  | _, .current next, f => .current fun h => (next h).bind f
  | _, .look next, f => .look fun p => (next p).bind f
  | _, .note e next, f => .note e (next.bind f)
  | _, .destroy h next, f => .destroy h fun a => (next a).bind f
  | _, .update h k next, f => .update h k fun a => (next a).bind f
  | _, .run h command next, f => .run h command fun r => (next r).bind f
  | _, .guarded part next, f => .guarded part fun r => (next r).bind f

/-! ## With a slot -/

/-- A program on the state of a script. -/
def exec : {α : Type} → Program ω α → Exec ω α
  | _, .done a => return a
  | _, .panic message => panicking message
  | _, .current next => do exec (next (← get).here)
  | _, .look next => do exec (next (← get).pool)
  | _, .note e next => do
    modify fun m => { m with events := e :: m.events }
    exec next
  | _, .destroy h next => do exec (next (← changing (·.destroy h)))
  | _, .update h k next => do exec (next (← changing (·.update h k)))
  | _, .run h command next => do exec (next (← within h (exec command)))
  | _, .guarded part next => do exec (next (← attempt (exec part)))

/-! ## With a parameter -/

/-- Where a part of a program stands: the container that it is executed in, and the attachments
around it that were made since the program started, the innermost first. -/
structure Position where
  here : Handle
  entered : List Nat

/-- What a program can change for good: the containers, with the attachments that were there before,
and the events. -/
structure Store (ω : Type) where
  pool : Pool
  events : List (Event ω)

/-- The position of a command that is run in the container `target`. -/
def Position.into (pos : Position) (p : Pool) (target : Handle) : Except Refusal Position :=
  match target with
  | .root => .ok { pos with here := .root }
  | .managed n =>
    match (p.container n).phase with
    | .destroyed => .error .notRunning
    | .running =>
      if pos.here = .managed n then .ok pos
      else if pos.here = .root then .ok ⟨.managed n, n :: pos.entered⟩
      else .error .notInRoot

/-- The answer to a request, and the pool after it. -/
def answer (p : Pool) : Except Refusal Pool → Answer ω × Pool
  | .ok p' => (.done, p')
  | .error why => (.refused why, p)

/-- Destroys a container, unless it is attached to before the program or around the position. -/
def destroyAt (pos : Position) (p : Pool) (h : Handle) : Except Refusal Pool :=
  match (p.counting pos.entered).destroy h with
  | .ok _ => p.destroy h
  | .error why => .error why

/-- A program at a position: the binding is a parameter, and so are the attachments. -/
def eval : {α : Type} → Program ω α → Position → Store ω → Except String α × Store ω
  | _, .done a, _, s => (.ok a, s)
  | _, .panic message, _, s => (.error message, s)
  | _, .current next, pos, s => eval (next pos.here) pos s
  | _, .look next, pos, s => eval (next (s.pool.counting pos.entered)) pos s
  | _, .note e next, pos, s => eval next pos { s with events := e :: s.events }
  | _, .destroy h next, pos, s =>
    let (a, p) := answer s.pool (destroyAt pos s.pool h)
    eval (next a) pos { s with pool := p }
  | _, .update h k next, pos, s =>
    let (a, p) := answer s.pool (s.pool.update h k)
    eval (next a) pos { s with pool := p }
  | _, .run h command next, pos, s =>
    match pos.into s.pool h with
    | .error why => eval (next (.error why)) pos s
    | .ok inside =>
      match eval command inside s with
      | (.error message, s) => (.error message, s)
      | (.ok b, s) => eval (next (.ok b)) pos s
  | _, .guarded part next, pos, s =>
    let (result, s) := eval part pos s
    eval (next result) pos s

/-- What follows a program starts where the program ended, unless it panicked. -/
theorem eval_bind (program : Program ω α) (f : α → Program ω β) (pos : Position) (s : Store ω) :
    eval (program.bind f) pos s =
      match eval program pos s with
      | (.ok a, s') => eval (f a) pos s'
      | (.error message, s') => (.error message, s') := by
  induction program generalizing pos s with
  | done a => rfl
  | panic message => rfl
  | current next ih => exact ih _ f pos s
  | look next ih => exact ih _ f pos s
  | note e next ih => exact ih f pos _
  | destroy h next ih => exact ih _ f pos _
  | update h k next ih => exact ih _ f pos _
  | run h command next ihcommand ihnext =>
    rw [Program.bind, eval, eval]
    cases pos.into s.pool h with
    | error why => exact ihnext _ f pos s
    | ok inside =>
      simp only
      cases eval command inside s with
      | mk result s' =>
        cases result with
        | error message => rfl
        | ok b => exact ihnext _ f pos s'
  | guarded part next ihpart ihnext => exact ihnext _ f pos _

end Lexical

end ResourceContainers
