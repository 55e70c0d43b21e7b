import ResourceContainers.Proofs.OneShot
import ResourceContainers.Script.Threads

/-!
# How a script starts children

`Script.spawn` and `Script.spawnTask` start a thread or a task and go on when it is over.  Here is
what they come to, told by what becomes of the body of the child, or of its segments.

* `outcome_spawn`: a thread runs its body in the container that it inherits.
* `outcome_taskPoll_of_enter`: a poll executes the work where the task is.
* `outcome_drive_of_pending`, `outcome_drive_of_through`: a task is polled as long as it is pending.
* `outcome_complete`: a task that is through is dropped.
* `outcome_spawnTask_calling`, `outcome_spawnTask_worker`: who polls the task.
-/

namespace ResourceContainers.Script

variable {ω : Type}

/-- The thread that is about to run the body of a thread with a given name. -/
def Machine.inherits (m : Machine ω) (name : Option String) (home : Handle) (p : Pool)
    (s : Slot) : Machine ω :=
  { m with pool := p, worker := ⟨s, name, false⟩, held := home :: home :: m.held }

/-- No thread is started whose name is none. -/
theorem outcome_spawn_of_fault {name : Option String} {message : String}
    (hname : nameFault? name = some message) (x : Exec ω Unit) (m : Machine ω) :
    outcome (spawn name x) m = (.error message, m) := by
  simp only [spawn, threadHome, checkName, hname, outcome_bind, outcome_get, outcome_pure,
    outcome_panicking]

/-- A thread that inherits a container which lets it in runs its body there. -/
theorem outcome_spawn {name : Option String} (hname : nameFault? name = none) (x : Exec ω Unit)
    {m : Machine ω} {home : Handle} (hhome : home = inherited m.pool m.worker.slot ⟨name, .thread⟩)
    {way : Passage} {p : Pool} {s : Slot}
    (hinto : Passage.into m.pool .fresh home = .ok (way, p, s)) :
    let r := outcome x (m.inherits name home p s)
    outcome (spawn name x) m = (.ok (threadAnswer (r.1.map .ok)),
      { r.2.left way with held := m.held, worker := m.worker }) := by
  subst hhome
  simp only [spawn, threadHome, checkName, hname, outcome_bind, outcome_get, outcome_pure,
    outcome_onWorker, outcome_holding, outcome_within, Worker.fresh, hinto]
  rfl

/-- A poll of work executes a segment of it, or nothing; it refuses nothing and does not panic. -/
theorem exists_outcome_workPoll (run : Runner ω) (w : Work ω) (m : Machine ω) :
    ∃ w' polled, (outcome (w.poll run) m).1 = .ok (w', polled) ∧
      (∀ segment ∈ w'.rest, segment ∈ w.rest) ∧ (∀ why, polled ≠ .refused why) ∧
      ((outcome (w.poll run) m).2 = m ∨ ∃ place, ∃ segment ∈ w.rest,
        (outcome (w.poll run) m).2 = (outcome (run place segment) m).2) := by
  obtain ⟨path, total, rest, finished⟩ := w
  cases finished with
  | true => exact ⟨_, _, rfl, fun _ h => h, by simp, .inl rfl⟩
  | false =>
    cases rest with
    | nil => exact ⟨_, _, rfl, fun _ h => h, by simp, .inl rfl⟩
    | cons segment rest =>
      have hsub : ∀ s ∈ rest, s ∈ segment :: rest := fun _ h => List.mem_cons_of_mem _ h
      rw [outcome_poll_cons]
      cases hr : outcome (run (path ++ [total - (rest.length + 1)]) segment) m with
      | mk result m' =>
        have hstate : ∃ place, ∃ s ∈ segment :: rest, m' = (outcome (run place s) m).2 :=
          ⟨_, segment, List.mem_cons_self .., (congrArg Prod.snd hr).symm⟩
        cases result with
        | error message => exact ⟨_, _, rfl, hsub, by simp, .inr hstate⟩
        | ok result => exact ⟨_, _, rfl, hsub, by split <;> simp, .inr hstate⟩

/-- The machine once its running thread has left a task for this time. -/
def Machine.suspended (m : Machine ω) (t : Scope) (visit : Scope.Visit) (finished : Bool) :
    Machine ω :=
  let (_, p, s) := t.leave m.pool m.worker.slot visit finished
  { m with pool := p }.withSlot s

/-- The machine whose running thread has come to a task. -/
def Machine.visiting (m : Machine ω) (t : Scope) (p : Pool) (s : Slot) : Machine ω :=
  { ({ m with pool := p }.withSlot s) with held := t.container :: m.held }

theorem outcome_taskPoll_of_enter {run : Runner ω} {t : Task ω} {m : Machine ω}
    {visit : Scope.Visit} {scope : Scope} {p : Pool} {s : Slot}
    (henter : t.scope.enter m.pool m.worker.slot = .ok (visit, scope, p, s)) {w : Work ω}
    {polled : Polled}
    (hwork : (outcome (t.work.poll run) (m.visiting scope p s)).1 = .ok (w, polled)) :
    let m' := (outcome (t.work.poll run) (m.visiting scope p s)).2
    outcome (t.poll run) m =
      (.ok (⟨(scope.leave m'.pool m'.worker.slot visit polled.isReady).1, w⟩, polled),
        { m'.suspended scope visit polled.isReady with held := m.held }) := by
  have hheld : { ({ m with pool := p } : Machine ω).withSlot s with
      held := [scope.container] ++ (({ m with pool := p } : Machine ω).withSlot s).held } =
        m.visiting scope p s := rfl
  rw [outcome_taskPoll, henter]
  simp only [outcome_holding, hheld]
  generalize outcome (t.work.poll run) (m.visiting scope p s) = r at hwork
  obtain ⟨result, m'⟩ := r
  obtain rfl : result = .ok (w, polled) := hwork
  rfl

/-- A task that is pending is polled again, as often as is allowed. -/
theorem outcome_drive_of_pending {run : Runner ω} {t t' : Task ω} {m : Machine ω}
    (h : (outcome (t.poll run) m).1 = .ok (t', .pending)) (count : Nat) :
    outcome (t.drive run (count + 1)) m =
      outcome (t'.drive run count) (outcome (t.poll run) m).2 := by
  simp only [Task.drive, outcome_bind]
  generalize outcome (t.poll run) m = r at h ⊢
  obtain ⟨result, m'⟩ := r
  obtain rfl : result = .ok (t', .pending) := h
  rfl

theorem outcome_drive_of_through {run : Runner ω} {t t' : Task ω} {m : Machine ω} {polled : Polled}
    (h : (outcome (t.poll run) m).1 = .ok (t', polled)) (hpolled : polled ≠ .pending)
    (count : Nat) : outcome (t.drive run (count + 1)) m = outcome (t.poll run) m := by
  simp only [Task.drive, outcome_bind]
  generalize outcome (t.poll run) m = r at h ⊢
  obtain ⟨result, m'⟩ := r
  obtain rfl : result = .ok (t', polled) := h
  cases polled with
  | pending => exact absurd rfl hpolled
  | _ => rfl

theorem outcome_complete {run : Runner ω} {t t' : Task ω} {m : Machine ω} {polled : Polled}
    (h : (outcome (t.drive run t.work.rest.length)
      { m with held := [t.scope.container] ++ m.held }).1 = .ok (t', polled)) :
    let m' := (outcome (t.drive run t.work.rest.length)
      { m with held := [t.scope.container] ++ m.held }).2
    outcome (t.complete run) m =
      (.ok polled, { m' with held := m.held, pool := (t'.scope.release m'.pool).2 }) := by
  simp only [Task.complete, outcome_bind, outcome_holding]
  generalize outcome (t.drive run t.work.rest.length) _ = r at h
  obtain ⟨result, m'⟩ := r
  obtain rfl : result = .ok (t', polled) := h
  rfl

theorem outcome_spawnTask_insideExecutor {m : Machine ω} (hexecutor : m.worker.inExecutor = true)
    (run : Runner ω) (path : Path) (flavor : Flavor) (segments : List (List (Command ω))) :
    outcome (spawnTask run path flavor segments) m = (.ok .insideExecutor, m) := by
  simp only [spawnTask, outcome_bind, outcome_get, hexecutor, if_true, outcome_pure]

/-- The running thread polls a task for an executor. -/
theorem outcome_spawnTask_calling {run : Runner ω} {path : Path}
    {segments : List (List (Command ω))} {m : Machine ω} (hexecutor : m.worker.inExecutor = false)
    {home : Handle} (hhome : home = inherited m.pool m.worker.slot ⟨none, .task⟩) {polled : Polled}
    (h : (outcome ((⟨.ofHandle home, .ofSegments path segments⟩ : Task ω).complete run)
      { m with worker := { m.worker with inExecutor := true } }).1 = .ok polled) :
    let m' := (outcome ((⟨.ofHandle home, .ofSegments path segments⟩ : Task ω).complete run)
      { m with worker := { m.worker with inExecutor := true } }).2
    outcome (spawnTask run path .calling segments) m =
      (.ok polled.caught, { m' with worker := { m'.worker with inExecutor := false } }) := by
  subst hhome
  simp only [spawnTask, asExecutor, outcome_bind, outcome_get, hexecutor, Bool.false_eq_true,
    if_false, outcome_modify, outcome_attempt, outcome_resume, outcome_pure]
  generalize outcome (Task.complete run _) _ = r at h ⊢
  obtain ⟨result, m'⟩ := r
  obtain rfl : result = .ok polled := h
  rfl

theorem outcome_spawnTask_worker {run : Runner ω} {path : Path}
    {segments : List (List (Command ω))} {m : Machine ω} (hexecutor : m.worker.inExecutor = false)
    {home : Handle} (hhome : home = inherited m.pool m.worker.slot ⟨none, .task⟩) {polled : Polled}
    (h : (outcome ((⟨.ofHandle home, .ofSegments path segments⟩ : Task ω).complete run)
      { m with worker := ⟨.fresh, some "worker", true⟩ }).1 = .ok polled) :
    let m' := (outcome ((⟨.ofHandle home, .ofSegments path segments⟩ : Task ω).complete run)
      { m with worker := ⟨.fresh, some "worker", true⟩ }).2
    outcome (spawnTask run path .worker segments) m =
      (.ok polled.caught, { m' with worker := m.worker }) := by
  subst hhome
  simp only [spawnTask, outcome_bind, outcome_get, hexecutor, Bool.false_eq_true, if_false,
    outcome_onWorker, outcome_resume, outcome_pure]
  generalize outcome (Task.complete run _) _ = r at h ⊢
  obtain ⟨result, m'⟩ := r
  obtain rfl : result = .ok polled := h
  rfl

end ResourceContainers.Script
