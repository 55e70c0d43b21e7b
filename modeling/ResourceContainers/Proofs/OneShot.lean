import ResourceContainers.Proofs.Outcome
import ResourceContainers.Proofs.Interleaving.Lifecycle
import ResourceContainers.Script.Tasks

/-!
# A task that is polled once is a run

A task that is ready at its first poll, and is dropped then, does what a run does: it executes a
computation inside a container.  It has its own way in, its own way out and its own drop, and it
tries the rules in an order of its own.  A run looks at the phase of the container before it looks
at the binding of the thread, and a task does the opposite.

* `scopedOnce`: a computation as such a task.
* `pollOnce`, `outcome_pollOnce`: the same for a task with one segment.
* `Passage.scoped`: what becomes of a new task on the way that a run would go.
* `enter_ofHandle`, `left_scoped`: the ways in and out are the same.
* `scopedOnce_agrees_unless_destroyed`: the main statement.
* `scopedOnce_destroyed`: a run and a task that are refused for different reasons.

## Which states can tell the orders apart

Both orders come to the same reason unless two rules are broken at once: the container is destroyed,
and the thread is bound to a container that is not root.  That happens.  But the thread is never
bound to the destroyed container itself, in which a task would be polled and a run refused.
-/

namespace ResourceContainers

/-! ## Ways in and out -/

/-- What becomes of a new task inside `h`, and how it is visited, when a thread that would go a way
into `h` polls it. -/
def Passage.scoped (h : Handle) : Passage → Scope.Visit × Scope
  | direct => (.direct, ⟨h, false⟩)
  | stepOut back => (.stepOut back, ⟨h, false⟩)
  | attach _ => (.bound, ⟨h, true⟩)

/-- A thread enters the container of a new task by the way of a run, and is refused for the same
reason, unless a run finds the container destroyed and a task finds the thread elsewhere. -/
theorem Scope.enter_ofHandle {p : Pool} {s : Slot} {h : Handle}
    (hrules : p.phase h = .destroyed → s.current = .root) :
    (Scope.ofHandle h).enter p s =
      match Passage.into p s h with
      | .error why => .error why
      | .ok (way, p', s') => .ok ((way.scoped h).1, (way.scoped h).2, p', s') := by
  cases h with
  | root =>
    by_cases hroot : s.current.isRoot <;>
      simp [enter, ofHandle, Passage.into, Passage.choose, Passage.enter, Passage.scoped, hroot]
  | managed n =>
    cases hphase : (p.container n).phase with
    | destroyed =>
      have hroot : s.current = .root := hrules hphase
      have hrefused : p.acquire n = .error .notRunning :=
        Pool.acquire_eq_error_iff.mpr ⟨hphase, rfl⟩
      simp [enter, ofHandle, acquire, Passage.into, Passage.choose, Pool.phase, hphase, hroot,
        hrefused, Handle.isRoot]
    | running =>
      obtain ⟨q, hq⟩ : ∃ q, p.acquire n = .ok q := ⟨_, Pool.acquire_eq_ok_iff.mpr ⟨hphase, rfl⟩⟩
      by_cases hthere : s.current = .managed n
      · simp [enter, ofHandle, Passage.into, Passage.choose, Passage.enter, Passage.scoped,
          Pool.phase, hphase, hthere]
      · by_cases hroot : s.current.isRoot <;>
          simp [enter, ofHandle, acquire, Passage.into, Passage.choose, Passage.enter,
            Passage.scoped, Pool.phase, hphase, hthere, hroot, hq]

/-- Once two rules are broken, a run gives the first reason and a task the second one. -/
theorem Scope.enter_ofHandle_of_destroyed {p : Pool} {s : Slot} {h : Handle}
    (hphase : p.phase h = .destroyed) (hroot : s.current ≠ .root) (hthere : s.current ≠ h) :
    Passage.into p s h = .error .notRunning ∧
      (Scope.ofHandle h).enter p s = .error .notInRoot := by
  cases h with
  | root => exact absurd hphase (by simp [Pool.phase])
  | managed n =>
    cases hcur : s.current with
    | root => exact absurd hcur hroot
    | managed k =>
      rw [hcur] at hthere
      refine ⟨?_, ?_⟩
      · simp [Passage.into, Passage.choose, hphase]
      · simp [enter, ofHandle, hcur, hthere, Handle.isRoot]

theorem Scope.container_of_enter {t t' : Scope} {p p' : Pool} {s s' : Slot} {visit : Visit}
    (h : t.enter p s = .ok (visit, t', p', s')) : t'.container = t.container := by
  rw [enter_eq_choose] at h
  split at h
  · exact absurd h (by simp)
  · split at h
    · exact absurd h (by simp)
    · next hattach =>
      obtain ⟨-, h⟩ := Prod.mk.inj (Except.ok.inj h)
      obtain ⟨rfl, -⟩ := Prod.mk.inj h
      obtain ⟨rfl, -⟩ | ⟨n, -, -, -, rfl⟩ := attach_cases hattach
      · rfl
      · rfl
  · obtain ⟨-, h⟩ := Prod.mk.inj (Except.ok.inj h)
    obtain ⟨rfl, -⟩ := Prod.mk.inj h
    rfl

/-- A way into a container attaches to that container, if it attaches. -/
theorem Passage.place_of_into {p p' : Pool} {s s' : Slot} {h : Handle} {n : Nat}
    (hinto : Passage.into p s h = .ok (.attach n, p', s')) : h = .managed n := by
  have hchoose : choose (p.phase h) s.current h = .ok (.attach n) := by
    simp only [into] at hinto
    split at hinto
    · exact absurd hinto (by simp)
    · next way hchoose =>
      split at hinto
      · exact absurd hinto (by simp)
      · obtain ⟨rfl, -⟩ := Prod.mk.inj (Except.ok.inj hinto)
        exact hchoose
  have hfits : Passage.Fits h s.current (.attach n) := fits_of_choose hchoose
  exact hfits.1

namespace Script

open Interleaving (World Thread)

variable {ω α : Type}

/-! ## Tasks that are polled once -/

/-- The machine once its running thread has left a task, which is dropped then. -/
def Machine.dropped (m : Machine ω) (t : Scope) (visit : Scope.Visit) (finished : Bool) :
    Machine ω :=
  let (t, p, s) := t.leave m.pool m.worker.slot visit finished
  { m with pool := (t.release p).2 }.withSlot s

/-- Whether there was no panic. -/
def returned : Except String α → Bool
  | .ok _ => true
  | .error _ => false

/-- A computation as a task inside a container: it is polled once, which executes the computation,
and dropped. -/
def scopedOnce (h : Handle) (x : Exec ω α) : Exec ω (Except Refusal α) := do
  let m ← get
  match (Scope.ofHandle h).enter m.pool m.worker.slot with
  | .error why => return .error why
  | .ok (visit, t, p, s) =>
    set ({ m with pool := p }.withSlot s)
    let result ← attempt (holding [h] x)
    modify (·.dropped t visit (returned result))
    return .ok (← resume result)

theorem outcome_scopedOnce (h : Handle) (x : Exec ω α) (m : Machine ω) :
    outcome (scopedOnce h x) m =
      match (Scope.ofHandle h).enter m.pool m.worker.slot with
      | .error why => (.ok (.error why), m)
      | .ok (visit, t, p, s) =>
        let r := outcome (holding [h] x) ({ m with pool := p }.withSlot s)
        (r.1.map .ok, r.2.dropped t visit (returned r.1)) := by
  simp only [scopedOnce, outcome_bind, outcome_get]
  cases (Scope.ofHandle h).enter m.pool m.worker.slot with
  | error why => rfl
  | ok entry =>
    obtain ⟨visit, t, p, s⟩ := entry
    simp only [outcome_bind, outcome_set, outcome_attempt, outcome_modify, outcome_resume]
    generalize outcome (holding [h] x) ({ m with pool := p }.withSlot s) = r
    obtain ⟨result, m'⟩ := r
    cases result <;> rfl

/-- A new task with one segment that is polled once and dropped. -/
def pollOnce (run : Runner ω) (path : Path) (h : Handle) (body : List (Command ω)) :
    Exec ω Polled := do
  let (t, polled) ← (⟨.ofHandle h, .ofSegments path [body]⟩ : Task ω).poll run
  t.discard
  return polled

/-- What a poll of a task with one segment brings. -/
def Polled.ofOnce : Except String (Except Refusal Unit) → Polled
  | .ok (.ok ()) => .ready 1
  | .ok (.error why) => .refused why
  | .error message => .panicked message

/-- Work executes its next segment, which is used up, and is done after the last one. -/
theorem outcome_poll_cons (run : Runner ω) (path : Path) (total : Nat)
    (segment : List (Command ω)) (rest : List (List (Command ω))) (m : Machine ω) :
    outcome ((⟨path, total, segment :: rest, false⟩ : Work ω).poll run) m =
      match outcome (run (path ++ [total - (rest.length + 1)]) segment) m with
      | (.ok (), m') =>
        (.ok (⟨path, total, rest, rest.isEmpty⟩,
          if rest.isEmpty then .ready total else .pending), m')
      | (.error message, m') => (.ok (⟨path, total, rest, false⟩, .panicked message), m') := by
  simp only [Work.poll, Bool.false_eq_true, if_false, outcome_bind, outcome_attempt,
    List.length_cons]
  generalize outcome (run (path ++ [total - (rest.length + 1)]) segment) m = r
  obtain ⟨result, m'⟩ := r
  cases result with
  | error message => rfl
  | ok result => cases rest <;> rfl

theorem outcome_taskPoll (run : Runner ω) (t : Task ω) (m : Machine ω) :
    outcome (t.poll run) m =
      match t.scope.enter m.pool m.worker.slot with
      | .error why => (.ok (t, .refused why), m)
      | .ok (visit, scope, p, s) =>
        match outcome (holding [scope.container] (t.work.poll run))
          ({ m with pool := p }.withSlot s) with
        | (.error message, m') => (.error message, m')
        | (.ok (work, polled), m') =>
          let r := scope.leave m'.pool m'.worker.slot visit polled.isReady
          (.ok (⟨r.1, work⟩, polled), { m' with pool := r.2.1 }.withSlot r.2.2) := by
  simp only [Task.poll, outcome_bind, outcome_get]
  cases t.scope.enter m.pool m.worker.slot with
  | error why => rfl
  | ok entry =>
    obtain ⟨visit, scope, p, s⟩ := entry
    simp only [outcome_bind, outcome_set]
    generalize outcome (holding [scope.container] (t.work.poll run)) _ = r
    obtain ⟨result, m'⟩ := r
    cases result <;> rfl

/-- A new task has nothing to give back. -/
theorem release_ofHandle (h : Handle) (p : Pool) :
    (Scope.ofHandle h).release p = (Scope.ofHandle h, p) := by
  cases h <;> rfl

theorem outcome_pollOnce (run : Runner ω) (path : Path) (h : Handle) (body : List (Command ω))
    (m : Machine ω) :
    outcome (pollOnce run path h body) m =
      (.ok (.ofOnce (outcome (scopedOnce h (run (path ++ [0]) body)) m).1),
        (outcome (scopedOnce h (run (path ++ [0]) body)) m).2) := by
  simp only [pollOnce, Task.discard, outcome_bind, outcome_taskPoll, outcome_scopedOnce]
  cases hentry : (Scope.ofHandle h).enter m.pool m.worker.slot with
  | error why =>
    simp only [outcome_modify, outcome_pure, release_ofHandle]
    rfl
  | ok entry =>
    obtain ⟨visit, t, p, s⟩ := entry
    have hcontainer : t.container = h := Scope.container_of_enter hentry
    simp only [Work.ofSegments, List.length_singleton, outcome_holding, outcome_poll_cons,
      List.length_nil, Nat.zero_add, Nat.sub_self, hcontainer]
    generalize outcome (run (path ++ [0]) body) _ = r
    obtain ⟨result, m'⟩ := r
    cases result <;> rfl

/-! ## Runs and tasks -/

/-- A thread leaves a task that was new as it leaves a run, panic or not. -/
theorem Machine.dropped_scoped (m : Machine ω) {h : Handle} {way : Passage}
    (hplace : ∀ n, way = .attach n → h = .managed n) (finished : Bool) :
    m.dropped (way.scoped h).2 (way.scoped h).1 finished = m.left way := by
  have hnothing (p : Pool) : (⟨h, false⟩ : Scope).release p = (⟨h, false⟩, p) :=
    release_ofHandle h p
  cases way with
  | direct => simp [dropped, left, Passage.scoped, Passage.leave, Scope.leave, hnothing]
  | stepOut back => simp [dropped, left, Passage.scoped, Passage.leave, Scope.leave, hnothing]
  | attach n =>
    obtain rfl := hplace n rfl
    cases finished <;> rfl

/-- A task that is polled once does what a run does, unless the container is destroyed and the
thread is not in root. -/
theorem outcome_scopedOnce_eq_within {h : Handle} {m : Machine ω}
    (hrules : m.pool.phase h = .destroyed → m.here = .root) (x : Exec ω α) :
    outcome (scopedOnce h x) m = outcome (within h x) m := by
  rw [outcome_scopedOnce, outcome_within, Scope.enter_ofHandle hrules]
  cases hinto : Passage.into m.pool m.worker.slot h with
  | error why => rfl
  | ok entry =>
    obtain ⟨way, p, s⟩ := entry
    have hplace : ∀ n, way = .attach n → h = .managed n := by
      rintro n rfl
      exact Passage.place_of_into hinto
    simp only [Machine.dropped_scoped _ hplace]

/-- **A task that is polled once and dropped is a run, but for one reason to be refused.**

After any steps of any threads, let a thread run a computation in a container, or put it into that
container as a task, poll that task once and drop it.

* Unless the container is destroyed while the thread is bound to a container that is not root, both
  come to the same: the computation is executed by both or by none, on the same machine, both have
  its result, its panic or the same refusal, and both leave the same machine.
* In that case both are refused and change nothing, but the run says that the container does not
  run, and the task says that the thread is not in root.
* A task with one segment that is polled once is such a task. -/
theorem scopedOnce_agrees_unless_destroyed {es : List Interleaving.Event} {w : World}
    (h : Interleaving.Run World.start es w) {th : Thread} (hth : th ∈ w.threads) (target : Handle)
    (x : Exec ω α) {m : Machine ω} (hpool : m.pool = w.pool) (hslot : m.worker.slot = th.slot) :
    (¬ (w.pool.phase target = .destroyed ∧ th.slot.current ≠ .root) →
      outcome (scopedOnce target x) m = outcome (within target x) m) ∧
    (w.pool.phase target = .destroyed → th.slot.current ≠ .root →
      outcome (within target x) m = (.ok (.error .notRunning), m) ∧
        outcome (scopedOnce target x) m = (.ok (.error .notInRoot), m)) ∧
    ∀ run path body, outcome (pollOnce run path target body) m =
      (.ok (.ofOnce (outcome (scopedOnce target (run (path ++ [0]) body)) m).1),
        (outcome (scopedOnce target (run (path ++ [0]) body)) m).2) := by
  have hhere : m.here = th.slot.current := congrArg Slot.current hslot
  refine ⟨fun hone => ?_, fun hphase hroot => ?_, fun run path body =>
    outcome_pollOnce run path target body m⟩
  · refine outcome_scopedOnce_eq_within (fun hphase => ?_) x
    rw [hhere]
    refine Decidable.byContradiction fun hroot => ?_
    exact hone ⟨hpool ▸ hphase, hroot⟩
  · have hthere : th.slot.current ≠ target := by
      rintro rfl
      cases hcur : th.slot.current with
      | root => exact hroot hcur
      | managed n =>
        have hrunning :=
          ((h.sound World.sound_start).running_of_bound hth (.inl hcur)).1
        rw [hcur, hrunning] at hphase
        exact absurd hphase (by decide)
    rw [← hslot] at hroot hthere
    rw [← hpool] at hphase
    obtain ⟨hrun, htask⟩ := Scope.enter_ofHandle_of_destroyed hphase hroot hthere
    rw [outcome_within, outcome_scopedOnce, hrun, htask]
    exact ⟨rfl, rfl⟩

/-- The machine of a thread in a world, before it is a script of its own. -/
def machineAt (w : World) (th : Thread) : Machine Unit :=
  { Machine.start with pool := w.pool, worker := ⟨th.slot, none, false⟩ }

/-- How many attachments a computation finds where it is executed. -/
def countHere : Exec ω Nat := do
  let m ← get
  return m.pool.attached m.here

/-- A run and a task count themselves alike. -/
theorem scopedOnce_agrees_unless_destroyed_counting : ∃ es w th,
    Interleaving.Run World.start es w ∧ th ∈ w.threads ∧ w.pool.phase (.managed 0) = .running ∧
      (outcome (within (.managed 0) countHere) (machineAt w th)).1 = .ok (.ok 1) ∧
      outcome (scopedOnce (.managed 0) countHere) (machineAt w th) =
        outcome (within (.managed 0) countHere) (machineAt w th) := by
  obtain ⟨es, w, th, hr, hth, hphase, hone⟩ : ∃ es w th,
      World.start.replay [(0, .perform (.create Config.empty .idle))] = some (es, w) ∧
        w.threads = [th] ∧ w.pool.phase (.managed 0) = .running ∧
        (outcome (within (.managed 0) countHere) (machineAt w th)).1 = .ok (.ok 1) :=
    ⟨_, _, _, rfl, rfl, rfl, rfl⟩
  have hrun := Interleaving.Run.of_replay hr
  have hmem : th ∈ w.threads := by simp [hth]
  refine ⟨es, w, th, hrun, hmem, hphase, hone, ?_⟩
  refine (scopedOnce_agrees_unless_destroyed hrun hmem _ _ rfl rfl).1 ?_
  rintro ⟨hdestroyed, -⟩
  rw [hphase] at hdestroyed
  exact absurd hdestroyed (by decide)

/-- **Of two reasons to be refused, a run gives one and a task the other.**  The container 1 is
destroyed, and a thread that is bound to the container 0 wants to go there. -/
theorem scopedOnce_destroyed : ∃ es w th,
    Interleaving.Run World.start es w ∧ th ∈ w.threads ∧ th.slot.current = .managed 0 ∧
      w.pool.phase (.managed 1) = .destroyed ∧
      (outcome (within (.managed 1) (pure ())) (machineAt w th)).1 =
        .ok (.error .notRunning) ∧
      (outcome (scopedOnce (.managed 1) (pure ())) (machineAt w th)).1 =
        .ok (.error .notInRoot) ∧
      Refusal.notRunning.report.message ≠ Refusal.notInRoot.report.message := by
  obtain ⟨es, w, th, hr, hth, hview⟩ : ∃ es w th,
      World.start.replay
        [(0, .perform (.create Config.empty .idle)), (0, .perform (.create Config.empty .idle)),
         (0, .perform (.destroy (.managed 1))), (0, .perform (.run (.managed 0))), (0, .next),
         (0, .next), (0, .next)] = some (es, w) ∧
        w.threads = [th] ∧ th.slot.current = .managed 0 ∧
        w.pool.phase (.managed 1) = .destroyed ∧
        (outcome (within (.managed 1) (pure ())) (machineAt w th)).1 =
          .ok (.error .notRunning) ∧
        (outcome (scopedOnce (.managed 1) (pure ())) (machineAt w th)).1 =
          .ok (.error .notInRoot) :=
    ⟨_, _, _, rfl, rfl, rfl, rfl, rfl, rfl⟩
  obtain ⟨hcur, hphase, hrun, htask⟩ := hview
  exact ⟨es, w, th, Interleaving.Run.of_replay hr, by simp [hth], hcur, hphase, hrun, htask,
    by decide⟩

end Script

end ResourceContainers
