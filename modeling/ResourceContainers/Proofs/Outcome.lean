import ResourceContainers.Script.Machine

/-!
# What a computation leads to

An `Exec` is a function from machines to a result or a panic, and a machine.  Here is what each of
the combinators of `ResourceContainers.Script.Machine` does as such a function, so that nothing
further on has to look through the monads that they are written in.

* `outcome`: the result and the machine that a computation leads to.
* `outcome_bind`: a panic ends a computation, and what was done before it stays.
* `outcome_holding`, `outcome_onWorker`, `outcome_within`: what is undone on the way out is undone
  after a panic too.
* `outcome_changing`, `outcome_noting`, `outcome_onHandle`: what commands are made of.
-/

namespace ResourceContainers.Script

variable {ω α β : Type}

/-- The result or the panic of a computation, and the machine afterwards. -/
def outcome (x : Exec ω α) (m : Machine ω) : Except String α × Machine ω := x.run.run m

@[simp] theorem outcome_pure (a : α) (m : Machine ω) :
    outcome (pure a : Exec ω α) m = (.ok a, m) := rfl

@[simp] theorem outcome_panicking (message : String) (m : Machine ω) :
    outcome (panicking message : Exec ω α) m = (.error message, m) := rfl

/-- The second computation starts where the first one ended, unless that one panicked. -/
theorem outcome_bind (x : Exec ω α) (f : α → Exec ω β) (m : Machine ω) :
    outcome (x >>= f) m =
      match outcome x m with
      | (.ok a, m') => outcome (f a) m'
      | (.error message, m') => (.error message, m') := by
  have hbind : outcome (x >>= f) m =
      (ExceptT.bindCont f (outcome x m).1).run (outcome x m).2 := rfl
  rw [hbind]
  obtain ⟨result, m'⟩ := outcome x m
  cases result <;> rfl

@[simp] theorem outcome_get (m : Machine ω) : outcome get m = (.ok m, m) := rfl

@[simp] theorem outcome_set (m m' : Machine ω) : outcome (set m') m = (.ok ⟨⟩, m') := rfl

@[simp] theorem outcome_modify (f : Machine ω → Machine ω) (m : Machine ω) :
    outcome (modify f) m = (.ok ⟨⟩, f m) := rfl

@[simp] theorem outcome_attempt (x : Exec ω α) (m : Machine ω) :
    outcome (attempt x) m = (.ok (outcome x m).1, (outcome x m).2) := rfl

@[simp] theorem outcome_resume (result : Except String α) (m : Machine ω) :
    outcome (resume result : Exec ω α) m = (result, m) := by
  cases result <;> rfl

/-- What held on to containers lets go of them again. -/
theorem outcome_holding (hs : List Handle) (x : Exec ω α) (m : Machine ω) :
    outcome (holding hs x) m =
      ((outcome x { m with held := hs ++ m.held }).1,
        { (outcome x { m with held := hs ++ m.held }).2 with held := m.held }) := by
  simp [holding, outcome_bind]

/-- The thread that waits goes on where it was, whatever became of the other one. -/
theorem outcome_onWorker (w : Worker) (x : Exec ω α) (m : Machine ω) :
    outcome (onWorker w x) m =
      (.ok (outcome x { m with worker := w }).1,
        { (outcome x { m with worker := w }).2 with worker := m.worker }) := by
  simp only [onWorker, outcome_bind, outcome_get, outcome_modify, outcome_attempt, outcome_pure]

theorem outcome_changing (f : Pool → Except Refusal Pool) (m : Machine ω) :
    outcome (changing f) m =
      match f m.pool with
      | .ok p => (.ok .done, { m with pool := p })
      | .error why => (.ok (.refused why), m) := by
  simp only [changing, outcome_bind, outcome_get]
  cases f m.pool <;> rfl

theorem outcome_enter (h : Handle) (m : Machine ω) :
    outcome (enter h) m =
      match Passage.into m.pool m.worker.slot h with
      | .error why => (.ok (.error why), m)
      | .ok (way, p, s) => (.ok (.ok way), { m with pool := p }.withSlot s) := by
  simp only [enter, outcome_bind, outcome_get]
  cases Passage.into m.pool m.worker.slot h <;> rfl

/-- The machine once its running thread has gone its way back out. -/
def Machine.left (m : Machine ω) (way : Passage) : Machine ω :=
  { m with pool := (way.leave m.pool m.worker.slot).1 }.withSlot
    (way.leave m.pool m.worker.slot).2

theorem outcome_leave (way : Passage) (m : Machine ω) :
    outcome (leave way) m = (.ok ⟨⟩, m.left way) := rfl

/-- A computation inside a container: the way in, the computation, and the way out, which is gone
after a panic too. -/
theorem outcome_within (h : Handle) (x : Exec ω α) (m : Machine ω) :
    outcome (within h x) m =
      match Passage.into m.pool m.worker.slot h with
      | .error why => (.ok (.error why), m)
      | .ok (way, p, s) =>
        let r := outcome (holding [h] x) ({ m with pool := p }.withSlot s)
        (r.1.map .ok, r.2.left way) := by
  simp only [within, outcome_bind, outcome_enter]
  cases Passage.into m.pool m.worker.slot h with
  | error why => rfl
  | ok entry =>
    obtain ⟨way, p, s⟩ := entry
    simp only [outcome_bind, outcome_attempt, outcome_leave, outcome_resume]
    generalize outcome (holding [h] x) ({ m with pool := p }.withSlot s) = r
    obtain ⟨result, m'⟩ := r
    cases result <;> rfl

theorem outcome_noting (path : Path) (x : Exec ω (Answer ω)) (m : Machine ω) :
    outcome (noting path x) m =
      ((outcome x m).1.map fun _ => ⟨⟩,
        { (outcome x m).2 with
          events := ⟨path, (outcome x m).1, (outcome x m).2.pool.id (outcome x m).2.here⟩ ::
            (outcome x m).2.events }) := by
  simp only [noting, outcome_bind, outcome_attempt, outcome_modify]
  cases (outcome x m).1 <;> rfl

theorem outcome_onHandle (c : Ref) (f : Handle → Exec ω (Answer ω)) (m : Machine ω) :
    outcome (onHandle c f) m =
      match m.resolve c with
      | .ok h => outcome (f h) m
      | .error what => (.ok (.missing what), m) := by
  simp only [onHandle, outcome_bind, outcome_get]
  cases m.resolve c <;> rfl

end ResourceContainers.Script
