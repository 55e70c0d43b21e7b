import ResourceContainers.Proofs.Lexical.Refinement
import ResourceContainers.Script.Run

/-!
# Bodies of scripts are programs

A script runs its bodies with `runBody`, by fuel and through names.  Those of them that only run
into containers, ask, limit, destroy and panic are programs in the sense of `Program`, so what is
proved of programs holds of them as they are run.

* `Step`: a command of that kind; `Step.command` is the command of the script.
* `Step.program`, `bodyProgram`: what a step and a body do, as programs.
* `follows_step`, `follows_runFrom`: one step, and steps one after another.
* `runBody_refines_eval`: a body, as scripts run it, does what its text says.
-/

namespace ResourceContainers.Lexical

open Script

variable {ω α : Type}

/-- A command that runs into containers, asks about them, changes them or panics. -/
inductive Step (ω : Type)
  | whereAmI
  | ask (c : Ref) (question : Question)
  | update (c : Ref) (resource : String) (amount : UInt64)
  | destroy (c : Ref)
  | run (c : Ref) (body : List (Step ω)) (outcome : ω)
  | panic (message : String)
  | guarded (body : List (Step ω))

/-! ## Steps as commands -/

mutual

/-- The command of a script that a step is. -/
def Step.command : Step ω → Command ω
  | .whereAmI => .whereAmI
  | .ask c question => .ask c question
  | .update c resource amount => .update c resource amount
  | .destroy c => .destroy c
  | .run c body outcome => .run c (commands body) outcome
  | .panic message => .panic message
  | .guarded body => .guarded (commands body)

/-- The commands that steps are. -/
def commands : List (Step ω) → List (Command ω)
  | [] => []
  | c :: cs => c.command :: commands cs

end

/-! ## Steps as programs -/

/-- Goes on with the container of a reference, if there is one. -/
def onRef (names : Table String Handle) (c : Ref) (next : Handle → Program ω (Answer ω)) :
    Program ω (Answer ω) :=
  match c with
  | .root => next .root
  | .current => .current next
  | .named name =>
    match names.get? name with
    | some h => next h
    | none => .done (.missing (.handle name))

/-- Leaves the event of a step and goes on, unless the step panicked. -/
def noted (path : Path) (step : Program ω (Answer ω)) (rest : Program ω Unit) : Program ω Unit :=
  .guarded step fun result => .current fun h => .look fun p =>
    .note ⟨path, result, p.id h⟩
      (match result with
      | .ok _ => rest
      | .error message => .panic message)

mutual

/-- What a step does at its place in the script. -/
def Step.program (names : Table String Handle) (path : Path) : Step ω → Program ω (Answer ω)
  | .whereAmI => .current fun h => .look fun p => .done (.number (p.id h).toNat)
  | .ask c question => onRef names c fun h => .look fun p => .done (respond p h question)
  | .update c resource amount =>
    match Resource.parse resource with
    | .ok r => onRef names c fun h => .update h ⟨r, amount⟩ .done
    | .error e => .done (.noConfig (.unknownResource e))
  | .destroy c => onRef names c fun h => .destroy h .done
  | .run c body outcome => onRef names c fun h =>
    .run h (bodyProgram names path 0 body) fun
      | .ok () => .done (.ran outcome)
      | .error why => .done (.refused why)
  | .panic message => .panic message
  | .guarded body => .guarded (bodyProgram names path 0 body) fun
    | .ok () => .done .noPanic
    | .error message => .done (.caught message)

/-- What a body does, the first of its steps at the index `i`. -/
def bodyProgram (names : Table String Handle) (path : Path) : Nat → List (Step ω) → Program ω Unit
  | _, [] => .done ()
  | i, c :: cs =>
    noted (path ++ [i]) (c.program names (path ++ [i])) (bodyProgram names path (i + 1) cs)

end

/-! ## One step -/

section Follows

variable {names : Table String Handle}

/-- A name stands for the same container in the script and in the program. -/
theorem Follows.onHandle {f : Handle → Exec ω (Answer ω)} {next : Handle → Program ω (Answer ω)}
    (hf : ∀ h, Follows names (f h) (next h)) (c : Ref) :
    Follows names (onHandle c f) (onRef names c next) := by
  intro pos s m hm
  rw [outcome_onHandle]
  cases c with
  | root => exact hf .root pos s m hm
  | current => exact hf pos.here pos s m hm
  | named name =>
    have hnames : (s.machine pos m).handles = names := hm
    simp only [Machine.resolve, hnames, onRef]
    cases names.get? name with
    | some h => exact hf h pos s m hm
    | none => rfl

theorem follows_destroy (names : Table String Handle) (h : Handle) :
    Follows names (changing (ω := ω) (·.destroy h)) (.destroy h .done) := fun pos s m _ =>
  outcome_changing_of_counting (g := (destroyAt pos · h)) (destroyAt_counting pos s.pool h) m

theorem follows_update (names : Table String Handle) (h : Handle) (k : Constraint) :
    Follows names (changing (ω := ω) (·.update h k)) (.update h k .done) := fun pos s m _ =>
  outcome_changing_of_counting (g := (·.update h k))
    (Pool.update_counting s.pool h k pos.entered) m

theorem follows_within {x : Exec ω α} {command : Program ω α} (hx : Follows names x command)
    (h : Handle) : Follows names (within h x) (.run h command .done) := by
  intro pos s m hm
  rw [hx.within h pos s hm, eval]
  cases pos.into s.pool h with
  | error why => rfl
  | ok inside =>
    simp only
    cases eval command inside s with
    | mk result s' => cases result <;> rfl

/-- A step leaves its event in the program as in the script. -/
theorem follows_noting {x : Exec ω (Answer ω)} {step : Program ω (Answer ω)} {y : Exec ω Unit}
    {rest : Program ω Unit} (hx : Follows names x step) (hy : Follows names y rest)
    (path : Path) : Follows names (do noting path x; y) (noted path step rest) := by
  intro pos s m hm
  rw [outcome_bind, outcome_noting, hx pos s m hm, noted, eval]
  cases eval step pos s with
  | mk result s' =>
    cases result with
    | error message => rfl
    | ok a =>
      exact hy pos
        ⟨s'.pool, ⟨path, .ok a, (s'.pool.counting pos.entered).id pos.here⟩ :: s'.events⟩ m hm

/-- One step does what its program does, if bodies that are small enough do. -/
theorem follows_step {run : Runner ω} {fuel : Nat}
    (hrun : ∀ path (body : List (Step ω)), bodyWeight (commands body) ≤ fuel →
      Follows names (run path (commands body)) (bodyProgram names path 0 body))
    (path : Path) (c : Step ω) (hc : c.command.weight ≤ fuel + 1) :
    Follows names (Script.step run path c.command) (c.program names path) := by
  cases c with
  | whereAmI => exact fun pos s m hm => rfl
  | ask c question =>
    rw [Step.command, Script.step, Step.program]
    exact Follows.onHandle (fun h pos s m hm => rfl) c
  | update c resource amount =>
    rw [Step.command, Script.step, onResource, Step.program]
    cases Resource.parse resource with
    | error e => exact fun pos s m hm => rfl
    | ok r => exact Follows.onHandle (fun h => follows_update names h ⟨r, amount⟩) c
  | destroy c =>
    rw [Step.command, Script.step, Step.program]
    exact Follows.onHandle (follows_destroy names) c
  | run c body outcome =>
    have hbody : Follows names (run path (commands body)) (bodyProgram names path 0 body) := by
      refine hrun path body ?_
      simp only [Step.command, Command.weight] at hc
      omega
    rw [Step.command, Script.step, Step.program]
    refine Follows.onHandle (fun h => ?_) c
    refine ((follows_within hbody h).holding [h]).bind fun r pos s m hm => ?_
    cases r <;> rfl
  | panic message => exact fun pos s m hm => rfl
  | guarded body =>
    have hbody : Follows names (run path (commands body)) (bodyProgram names path 0 body) := by
      refine hrun path body ?_
      simp only [Step.command, Command.weight] at hc
      omega
    intro pos s m hm
    have hstep : outcome (Script.step run path (Step.guarded body).command) (s.machine pos m) =
        (.ok (match (eval (bodyProgram names path 0 body) pos s).1 with
          | .ok () => .noPanic
          | .error message => .caught message),
          (eval (bodyProgram names path 0 body) pos s).2.machine pos m) := by
      simp only [Step.command, Script.step, outcome_bind, outcome_attempt, hbody pos s m hm]
      cases (eval (bodyProgram names path 0 body) pos s).1 <;> rfl
    rw [hstep, Step.program, eval]
    cases eval (bodyProgram names path 0 body) pos s with
    | mk result s' => cases result <;> rfl

/-! ## Bodies -/

theorem Step.weight_pos (c : Step ω) : 0 < c.command.weight := by
  cases c <;> simp only [Step.command, Command.weight] <;> omega

/-- Steps one after another do what their program does. -/
theorem follows_runFrom {run : Runner ω} {fuel : Nat}
    (hrun : ∀ path (body : List (Step ω)), bodyWeight (commands body) ≤ fuel →
      Follows names (run path (commands body)) (bodyProgram names path 0 body))
    (path : Path) (i : Nat) (body : List (Step ω))
    (hbody : bodyWeight (commands body) ≤ fuel + 1) :
    Follows names (runFrom run path i (commands body)) (bodyProgram names path i body) := by
  induction body generalizing i with
  | nil => exact fun pos s m hm => rfl
  | cons c cs ih =>
    rw [commands, bodyWeight] at hbody
    rw [commands, runFrom, bodyProgram]
    exact follows_noting (follows_step hrun (path ++ [i]) c (by omega)) (ih (i + 1) (by omega))
      (path ++ [i])

/-- A body does what its program does, with fuel for as many levels as it has commands. -/
theorem follows_runBody (fuel : Nat) (path : Path) (body : List (Step ω))
    (hfuel : bodyWeight (commands body) ≤ fuel) :
    Follows names (runBody fuel path (commands body)) (bodyProgram names path 0 body) := by
  induction fuel generalizing path body with
  | zero =>
    cases body with
    | nil => exact fun pos s m hm => rfl
    | cons c cs =>
      have hpos := c.weight_pos
      rw [commands, bodyWeight] at hfuel
      omega
  | succ fuel ih => exact follows_runFrom ih path 0 body hfuel

end Follows

/-- **A body, as scripts run it, does what its text says.**  From any machine whose thread has a
slot, it has the result and leaves the containers and the events that the reference evaluator gives
its program; everything else of the machine, the slot included, is as it was. -/
theorem runBody_refines_eval {m : Machine ω} {h : Handle} (hslot : m.worker.slot = .bound h)
    (path : Path) (body : List (Step ω)) {fuel : Nat}
    (hfuel : bodyWeight (commands body) ≤ fuel) :
    outcome (runBody fuel path (commands body)) m =
      ((eval (bodyProgram m.handles path 0 body) ⟨h, []⟩ ⟨m.pool, m.events⟩).1,
        { m with
          pool := (eval (bodyProgram m.handles path 0 body) ⟨h, []⟩ ⟨m.pool, m.events⟩).2.pool
          events :=
            (eval (bodyProgram m.handles path 0 body) ⟨h, []⟩ ⟨m.pool, m.events⟩).2.events }) :=
  (follows_runBody fuel path body hfuel).outcome_eq hslot

end ResourceContainers.Lexical
