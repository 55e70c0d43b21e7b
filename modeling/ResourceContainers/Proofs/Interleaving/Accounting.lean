import ResourceContainers.Proofs.Interleaving.Nesting
import ResourceContainers.Proofs.PoolEffects

/-!
# What a counter counts

The counter of a container is changed in four places: a run attaches and detaches, a task makes its
attachment at a poll and gives it back at another poll or when it is dropped.  Each place does its
part and nobody adds them up.  This file adds them up.

* `Call.holds`, `Job.holds`: a run, or a task, has an attachment to a container.
* `World.runsOn`, `World.tasksOn`: how many runs and how many tasks have one.
* `Moves.conserved`: a move changes the counter by as much as it changes what calls and tasks have.
* `World.Counts`: a counter shows what calls and tasks have.  `Counts.moved`: every move keeps that.
* `World.Sound`: the counters are exact, destroyed containers have no attachment, threads are sound.
* `Run.sound`: every reachable world is sound.
* `attached_exact`: the main statement.

## Why the counter does not stop at zero

`Pool.release` takes one off a number that may be zero, and then leaves it there.  That would break
the balance, so `Moves.conserved` asks that what a move gives back is still counted.  In a sound
world it is, since the counter is the sum over all calls and tasks, and the move has its share.
-/

namespace ResourceContainers

/-! ## Who has an attachment -/

/-- Whether a task has an attachment to the container at `n`. -/
def Scope.holds (n : Nat) (t : Scope) : Bool := t.attached && t.container == .managed n

namespace Interleaving

/-- Whether a run that has come so far has an attachment to the container at `n`: it is past its
acquisition and not yet past its release. -/
def RunStage.holds (n : Nat) : RunStage → Bool
  | .acquired m | .inside (.attach m) | .leaving (.attach m) | .unbound m => m == n
  | _ => false

/-- Whether a call is a run that has an attachment to the container at `n`. -/
def Call.holds (n : Nat) : Call → Bool
  | .run _ stage => stage.holds n
  | .poll _ _ => false

/-- Whether a task has an attachment to the container at `n`. -/
def Job.holds (n : Nat) (j : Job) : Bool := j.scope.holds n

/-- How many attachments to the container at `n` some calls and some tasks have, the tasks that the
calls poll included. -/
def units (n : Nat) (calls : List Call) (jobs : List Job) : Nat :=
  calls.countP (·.holds n) + (jobs ++ calls.filterMap Call.job?).countP (·.holds n)

namespace World

/-- How many unfinished runs have an attachment to the container at `n`. -/
def runsOn (w : World) (n : Nat) : Nat := w.calls.countP (·.holds n)

/-- How many tasks that are not dropped have an attachment to the container at `n`. -/
def tasksOn (w : World) (n : Nat) : Nat := w.jobs.countP (·.holds n)

theorem units_calls (w : World) (n : Nat) : units n w.calls w.tasks = w.runsOn n + w.tasksOn n :=
  rfl

end World

theorem units_perm (n : Nat) (calls : List Call) {j₁ j₂ : List Job} (h : j₁.Perm j₂) :
    units n calls j₁ = units n calls j₂ := by
  simp only [units, List.countP_append, h.countP_eq]

theorem units_run (n : Nat) (target : Handle) (stage : RunStage) :
    units n [.run target stage] [] = if stage.holds n then 1 else 0 := by
  simp [units, Call.holds, Call.job?, List.countP_cons]

theorem units_poll (n : Nat) (j : Job) (stage : PollStage) :
    units n [.poll j stage] [] = if j.holds n then 1 else 0 := by
  simp [units, Call.holds, Call.job?, List.countP_cons]

theorem units_job (n : Nat) (j : Job) : units n [] [j] = if j.holds n then 1 else 0 := by
  simp [units, List.countP_cons]

@[simp] theorem units_nil (n : Nat) : units n [] [] = 0 := rfl

/-! ## Moves -/

/-- The balance of a move, for the container at `n`: the counter and what calls and tasks have of it
change alike. -/
def Move.Balanced (p : Pool) (n before : Nat) (m : Move) : Prop :=
  (m.pool.container n).attached + before =
    (p.container n).attached + units n m.call.toList m.job.toList

section Next

variable {p : Pool} {s : Slot} {n : Nat} {m : Move}

theorem attach_balanced {t t' : Scope} {p' : Pool} (h : t.attach p = .ok (t', p')) (n : Nat) :
    (p'.container n).attached + (if t.holds n then 1 else 0) =
      (p.container n).attached + if t'.holds n then 1 else 0 := by
  obtain ⟨rfl, rfl, -⟩ | ⟨k, hc, hf, ha, rfl⟩ := Scope.attach_cases h
  · rfl
  · simp [Pool.attached_acquire ha, Scope.holds, hc, hf]

/-- The attachment of a task is taken off when it is given back, if it was counted. -/
theorem release_balanced (t : Scope) (p : Pool) (n : Nat)
    (hle : (if t.holds n then 1 else 0) ≤ (p.container n).attached) :
    ((t.release p).2.container n).attached + (if t.holds n then 1 else 0) =
      (p.container n).attached + if (t.release p).1.holds n then 1 else 0 := by
  obtain ⟨hr, -⟩ | ⟨k, hc, hf, hr⟩ := Scope.release_cases t p
  · rw [hr]
  · simp only [hr, Scope.holds, hc, hf, Bool.true_and, Bool.false_and, beq_iff_eq,
      Handle.managed.injEq, Pool.attached_release] at hle ⊢
    split at hle <;> simp_all

theorem RunStage.holds_inside {way : Passage} (hway : ∀ k, way ≠ .attach k) :
    holds n (.inside way) = false := by
  cases way with
  | direct => rfl
  | stepOut back => rfl
  | attach k => exact absurd rfl (hway k)

theorem RunStage.holds_leaving (n : Nat) (way : Passage) :
    holds n (.leaving way) = holds n (.inside way) := by
  cases way <;> rfl

theorem RunStage.Access.balanced {target : Handle} {stage : RunStage}
    (h : RunStage.Access target p s stage m)
    (hle : (if stage.holds n then 1 else 0) ≤ (p.container n).attached) :
    m.Balanced p n (if stage.holds n then 1 else 0) := by
  cases h with
  | refused e => simp [Move.Balanced, holds]
  | chosen e => simp [Move.Balanced, units_run, holds]
  | unacquired e => simp [Move.Balanced, holds]
  | acquired e => simp [Move.Balanced, units_run, holds, Pool.attached_acquire e]
  | entered hway =>
    simp only [Move.Balanced, Option.toList_some, Option.toList_none, units_run,
      holds_inside hway]
    rfl
  | bound k => simp [Move.Balanced, units_run, holds]
  | left hway => simp [Move.Balanced, holds_leaving, holds_inside hway]
  | unbound k => simp [Move.Balanced, units_run, holds]
  | released k =>
    simp only [holds, beq_iff_eq] at hle
    simp only [Move.Balanced, holds, beq_iff_eq, Pool.attached_release, Option.toList_none,
      units_nil]
    omega

theorem PollStage.Access.balanced {j : Job} {stage : PollStage}
    (h : PollStage.Access j p s stage m)
    (hle : (if j.holds n then 1 else 0) ≤ (p.container n).attached) :
    m.Balanced p n (if j.holds n then 1 else 0) := by
  cases h with
  | failed e => simp [Move.Balanced, units_job]
  | @acquired t q e =>
    show _ = _ + units n [.poll ⟨j.number, t⟩ .acquired] []
    rw [units_poll]
    exact attach_balanced e n
  | polled hvisit => simp [Move.Balanced, units_poll]
  | bound => simp [Move.Balanced, units_poll]
  | left hleft => simp [Move.Balanced, units_job]
  | unbound => simp [Move.Balanced, units_poll]
  | released =>
    show _ = _ + units n [] [⟨j.number, (j.scope.release p).1⟩]
    rw [units_job]
    exact release_balanced j.scope p n hle

/-- Code that ends gives nothing back yet. -/
theorem Call.Finish.units {c c' : Call} {ending : Ending} (h : Call.Finish ending c c')
    (n : Nat) : units n [c'] [] = units n [c] [] := by
  cases h with
  | run hending => rw [units_run, units_run, RunStage.holds_leaving]
  | poll => rw [units_poll, units_poll]

theorem RunStart.balanced {target : Handle} (h : RunStart p s target m) (n : Nat) :
    m.Balanced p n 0 := by
  cases h <;> simp [Move.Balanced, units_run, RunStage.holds]

theorem PollStart.balanced {j : Job} (h : PollStart p s j m) (n : Nat) :
    m.Balanced p n (if j.holds n then 1 else 0) := by
  cases h <;> simp [Move.Balanced, units_job, units_poll]

end Next

theorem Request.attached {p p' : Pool} {note : Note} (h : Request p p' note) (n : Nat) :
    (p'.container n).attached = (p.container n).attached := by
  cases h with
  | create c meter =>
    rw [Pool.container_create]
    split
    · next hn => rw [Pool.container_of_size_le (Nat.le_of_eq hn.symm)]; rfl
    · rfl
  | destroy e => exact Pool.attached_destroy e n
  | update e => exact Pool.attached_update e n
  | @setPolicy h policy p' e =>
    cases h with
    | root => exact absurd e (by simp [Pool.setPolicy])
    | managed k => rw [Pool.container_setPolicy e]; split <;> rfl
  | refused h why => rfl

/-- **A move conserves.**  The counter and what calls and tasks have of it change alike, as long as
what they have is counted. -/
theorem Moves.conserved {p : Pool} {s : Slot} {number number' n : Nat} {c : Option Call}
    {j : Option Job} {m : Move} (hm : Moves p s number c j m number')
    (hle : units n c.toList j.toList ≤ (p.container n).attached) :
    m.Balanced p n (units n c.toList j.toList) := by
  cases hm with
  | run ha =>
    rw [Option.toList_some, Option.toList_none, units_run] at hle ⊢
    exact ha.balanced hle
  | poll ha =>
    rw [Option.toList_some, Option.toList_none, units_poll] at hle ⊢
    exact ha.balanced hle
  | finish hc => exact congrArg (_ + ·) (hc.units n).symm
  | request hq => exact congrArg (· + _) (hq.attached n)
  | scope h =>
    simp [Move.Balanced, units_job, Job.holds, Scope.holds, Scope.ofHandle]
  | drop j =>
    rw [Option.toList_some, Option.toList_none, units_job] at hle ⊢
    have hb := release_balanced j.scope p n hle
    have hreleased : (j.scope.release p).1.holds n = false := by
      obtain ⟨number, container, attached⟩ := j
      cases container <;> cases attached <;> simp [Scope.release, Scope.holds]
    rw [hreleased] at hb
    exact hb
  | startRun hr => exact hr.balanced n
  | startPoll hp =>
    rw [Option.toList_some, Option.toList_none, units_job]
    exact hp.balanced n

theorem Request.settled {p p' : Pool} {note : Note} (h : Request p p' note) (hs : p.Settled) :
    p'.Settled := by
  intro n hn
  rw [h.attached n]
  cases h with
  | create c meter =>
    rw [Pool.container_create] at hn
    split at hn
    · exact absurd hn (by simp [Container.ofConfig])
    · exact hs n hn
  | @destroy h p' e =>
    cases h with
    | root => exact absurd e (by simp)
    | managed k =>
      rw [Pool.container_destroy e] at hn
      split at hn
      · next hkn => exact hkn ▸ (Pool.destroy_eq_ok_iff.mp e).2.1
      · exact hs n hn
  | @update h c p' e =>
    cases h with
    | root => exact absurd e (by simp [Pool.update])
    | managed k => rw [Pool.container_update e] at hn; exact hs n (by split at hn <;> exact hn)
  | @setPolicy h policy p' e =>
    cases h with
    | root => exact absurd e (by simp [Pool.setPolicy])
    | managed k => rw [Pool.container_setPolicy e] at hn; exact hs n (by split at hn <;> exact hn)
  | refused h why => exact hs n hn

theorem Moves.settled {p : Pool} {s : Slot} {number number' : Nat} {c : Option Call}
    {j : Option Job} {m : Move} (hm : Moves p s number c j m number') (hs : p.Settled) :
    m.pool.Settled := by
  rcases hm.pool_cases with h | ⟨n, h⟩ | ⟨n, h⟩ | h
  · exact h ▸ hs
  · exact hs.acquire h
  · exact h ▸ hs.release n
  · exact h.settled hs

/-! ## Worlds -/

/-- The counter of each container counts the runs and the tasks that have an attachment to it, and
what was lost. -/
def World.Counts (w : World) (lost : Nat → Nat) : Prop :=
  ∀ n, w.pool.attached (.managed n) = w.runsOn n + w.tasksOn n + lost n

/-- What holds in every reachable world.  The counter of a container counts the runs and the tasks
that have an attachment to it. -/
structure World.Sound (w : World) : Prop where
  exact : ∀ n, w.pool.attached (.managed n) = w.runsOn n + w.tasksOn n
  settled : w.pool.Settled
  threads : ∀ th ∈ w.threads, th.Sound

/-- What calls and tasks have in a world is what the call and the task that move have, and what the
surroundings have. -/
theorem Surroundings.units_world (Γ : Surroundings) (p : Pool) (number : Nat) (s : Slot)
    (c : Option Call) (j : Option Job) (n : Nat) :
    units n (Γ.world p number s c j).calls (Γ.world p number s c j).tasks =
      units n c.toList j.toList +
        units n (Γ.before.flatMap Thread.calls ++ Γ.calls ++ Γ.behind.flatMap Thread.calls)
          Γ.tasks := by
  simp only [units, world, World.calls, List.flatMap_append, List.flatMap_cons, List.countP_append,
    List.filterMap_append]
  omega

namespace World

variable {w w' : World} {k : Nat} {a : Act} {note : Note} {lost : Nat → Nat}

theorem sound_start : start.Sound where
  exact n := by
    show (Pool.empty.container n).attached = 0
    rw [Pool.container_of_size_le (Nat.zero_le n)]
    rfl
  settled := Pool.settled_empty
  threads th hth := by
    obtain rfl := List.mem_singleton.mp hth
    exact Thread.sound_fresh

theorem Counts.spawn (hw : w.Counts lost) :
    { w with threads := w.threads ++ [.fresh] : World }.Counts lost := by
  intro n
  have hcalls : ({ w with threads := w.threads ++ [.fresh] } : World).calls = w.calls := by
    simp [calls, Thread.fresh]
  rw [← units_calls, hcalls]
  exact hw n

/-- A move of one thread changes the counters by as much as what calls and tasks have. -/
theorem Counts.moved (hw : w.Counts lost) (h : w.Moved k w' note) : w'.Counts lost := by
  cases h with
  | intro Γ hk hm hthreads htasks =>
  rename_i s c j m number
  intro n
  -- the units of the old world, with its tasks in the order of the surroundings
  have hunits : (w.pool.container n).attached = units n c.toList j.toList +
      units n (Γ.before.flatMap Thread.calls ++ Γ.calls ++ Γ.behind.flatMap Thread.calls)
        Γ.tasks + lost n := by
    rw [← Γ.units_world w.pool w.nextTask s c j n, ← units_perm n _ htasks, World.calls,
      ← hthreads]
    exact hw n
  have hbalance := hm.conserved (n := n) (by omega)
  unfold Move.Balanced at hbalance
  rw [← units_calls, Γ.units_world]
  show (m.pool.container n).attached = _
  omega

theorem Sound.spawn (hw : w.Sound) : { w with threads := w.threads ++ [.fresh] : World }.Sound where
  exact :=
    have hexact : w.Counts fun _ => 0 := hw.exact
    hexact.spawn
  settled := hw.settled
  threads th hth := by
    rcases List.mem_append.mp hth with h | h
    · exact hw.threads th h
    · obtain rfl := List.mem_singleton.mp h
      exact Thread.sound_fresh

/-- A move of one thread keeps a world sound. -/
theorem Sound.moved (hw : w.Sound) (h : w.Moved k w' note) : w'.Sound := by
  have hexact : w'.Counts fun _ => 0 := Counts.moved hw.exact h
  cases h with
  | intro Γ hk hm hthreads htasks =>
  refine ⟨hexact, hm.settled hw.settled, fun th hth => ?_⟩
  rcases List.mem_append.mp hth with hb | hb
  · exact hw.threads th (hthreads ▸ List.mem_append_left _ hb)
  · rcases List.mem_cons.mp hb with rfl | hb
    · exact hm.sound (hw.threads _ (hthreads ▸ List.mem_append_right _ (List.mem_cons_self ..)))
    · exact hw.threads th
        (hthreads ▸ List.mem_append_right _ (List.mem_cons_of_mem _ hb))

/-- **Every step keeps a world sound.** -/
theorem Sound.step (hw : w.Sound) (h : w.step k a = some (w', note)) : w'.Sound := by
  rcases step_cases h with ⟨rfl, -⟩ | h
  · exact hw.spawn
  · exact hw.moved h

end World

/-- **Every reachable world is sound.** -/
theorem Run.sound {w w' : World} {es : List Event} (h : Run w es w') (hw : w.Sound) : w'.Sound :=
  h.invariant hw World.Sound.step

namespace World.Sound

variable {w : World} {n : Nat}

/-- Whoever has an attachment finds it counted: a run. -/
theorem attached_pos_of_call (hw : w.Sound) {c : Call} (hc : c ∈ w.calls) (hn : c.holds n = true) :
    0 < w.pool.attached (.managed n) := by
  have hpos : 0 < w.runsOn n := List.countP_pos_iff.mpr ⟨c, hc, hn⟩
  rw [hw.exact n]
  omega

theorem attached_pos_of_job (hw : w.Sound) {j : Job} (hj : j ∈ w.jobs) (hn : j.holds n = true) :
    0 < w.pool.attached (.managed n) := by
  have hpos : 0 < w.tasksOn n := List.countP_pos_iff.mpr ⟨j, hj, hn⟩
  rw [hw.exact n]
  omega

/-- A container that no run and no task has an attachment to can be destroyed if it runs. -/
theorem destroy_of_unattached (hw : w.Sound) (hruns : w.runsOn n = 0) (htasks : w.tasksOn n = 0)
    (hn : w.pool.phase (.managed n) = .running) : ∃ p, w.pool.destroy (.managed n) = .ok p := by
  have hzero : (w.pool.container n).attached = 0 := by
    rw [show (w.pool.container n).attached = _ from hw.exact n, hruns, htasks]
  exact ⟨_, Pool.destroy_eq_ok_iff.mpr ⟨hn, hzero, rfl⟩⟩

end World.Sound

/-- **Attachments are counted exactly**, after any steps of any threads.

* The counter of a container is the number of runs that are past their acquisition and not past
  their release, and of tasks, not dropped, that hold an attachment.
* So every attachment that is about to be given back, by a run, by a poll or by a drop, is still
  counted, and the counter is never taken below zero.
* A run that goes back to root is bound to the container that it attached to.
* Once no run is under way and all tasks are dropped, every counter is zero, and whatever container
  runs can be destroyed. -/
theorem attached_exact {es : List Event} {w : World} (h : Run World.start es w) :
    (∀ n, w.pool.attached (.managed n) = w.runsOn n + w.tasksOn n) ∧
    (∀ n, ∀ c ∈ w.calls, c.holds n = true → 0 < w.pool.attached (.managed n)) ∧
    (∀ n, ∀ j ∈ w.jobs, j.holds n = true → 0 < w.pool.attached (.managed n)) ∧
    (∀ th ∈ w.threads, ∀ target n calls,
      th.calls = .run target (.leaving (.attach n)) :: calls → th.slot.current = .managed n) ∧
    ((∀ c ∈ w.calls, ∀ target stage, c ≠ .run target stage) → w.jobs = [] →
      ∀ n, w.pool.attached (.managed n) = 0 ∧
        (w.pool.phase (.managed n) = .running → ∃ p, w.pool.destroy (.managed n) = .ok p)) := by
  have hw := h.sound World.sound_start
  refine ⟨hw.exact, fun n c hc => hw.attached_pos_of_call hc,
    fun n j hj => hw.attached_pos_of_job hj, ?_, ?_⟩
  · intro th hth target n calls hcalls
    rw [(hw.threads th hth).slot_eq, hcalls]
    rfl
  · intro hruns hjobs n
    have hr : w.runsOn n = 0 := by
      refine List.countP_eq_zero.mpr fun c hc => ?_
      cases c with
      | run target stage => exact absurd rfl (hruns _ hc target stage)
      | poll j stage => exact Bool.false_ne_true
    have ht : w.tasksOn n = 0 := by rw [World.tasksOn, hjobs]; rfl
    exact ⟨by rw [hw.exact n, hr, ht], hw.destroy_of_unattached hr ht⟩

/-- One thread inside a container, while a task of another thread waits there for its next poll. -/
def runBesideTask : List (Nat × Act) :=
  [(0, .perform (.create Config.empty .idle)), (0, .perform .spawn),
   (0, .perform (.run (.managed 0))), (0, .next),
   (1, .perform (.scope (.managed 0))), (1, .perform (.poll 0)), (1, .next), (1, .next),
   (0, .next), (1, .finish .pending), (0, .next), (1, .next)]

/-- Both are counted. -/
theorem attached_exact_runBesideTask : ∃ es w, Run World.start es w ∧ w.runsOn 0 = 1 ∧
    w.tasksOn 0 = 1 ∧ w.pool.attached (.managed 0) = 1 + 1 := by
  obtain ⟨⟨es, w⟩, hr⟩ := Option.isSome_iff_exists.mp
    (show (World.start.replay runBesideTask).isSome = true by decide)
  have hcounts : (World.start.replay runBesideTask).map
      (fun r => (r.2.runsOn 0, r.2.tasksOn 0)) = some (1, 1) := by decide
  rw [hr] at hcounts
  obtain ⟨hruns, htasks⟩ : w.runsOn 0 = 1 ∧ w.tasksOn 0 = 1 :=
    Prod.mk.inj (Option.some.inj hcounts)
  have hrun := Run.of_replay hr
  exact ⟨es, w, hrun, hruns, htasks, by rw [(attached_exact hrun).1 0, hruns, htasks]⟩

end Interleaving

end ResourceContainers
