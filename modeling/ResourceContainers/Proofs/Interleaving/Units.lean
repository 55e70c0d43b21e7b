import ResourceContainers.Proofs.Interleaving.Lifecycle

/-!
# Execution units and attachments

A container tells how many execution units are attached to it, and a refusal to destroy it says the
same number.  What is counted is attachments (`attached_exact`), and a thread that steps out to root
and runs into the container again from there makes another one.  Here the number is compared with
the number of threads that are in the container.

* `World.Quiet`: nobody is in the middle of an attach or a detach.
* `World.unitsIn`: how many threads are in an unfinished run of a container.
* `Thread.stays`, `World.stays`: how often threads are in a container.
* `countP_holds`: the attachments that the calls of a thread have are its stays.
* `attached_eq_stays`: the main statement.

## Why a slot cannot tell

A run looks at the slot of its thread to see whether the thread is in the container already.  The
slot holds the innermost binding and nothing else.  So a thread is recognised that runs into a
container from inside, and one is not that stepped out to root in between, although it is still in
the run that it stepped out of.
-/

namespace ResourceContainers.Interleaving

/-! ## Threads that are in a container -/

namespace Call

/-- Whether a run is in the middle of an attach or a detach: it has an attachment, and its thread is
not bound yet or not bound any more. -/
def isBetween : Call → Bool
  | run _ (.acquired _) | run _ (.unbound _) => true
  | _ => false

/-- A call is a run that is not in the middle of an attach or a detach. -/
def IsPlain (c : Call) : Prop := c.isBetween = false ∧ c.job? = none

/-- Whether a call is a run of the container at `n` that is in it. -/
def isIn (n : Nat) : Call → Bool
  | run target (.inside _) | run target (.leaving _) => target == .managed n
  | _ => false

end Call

namespace Thread

/-- Whether a thread is in some unfinished run of the container at `n`. -/
def isIn (n : Nat) (th : Thread) : Bool := th.calls.any (·.isIn n)

/-- How often a thread is in the container at `n`: each time that it has stepped out of it and will
go back counts, and so does being bound to it. -/
def stays (n : Nat) (th : Thread) : Nat :=
  th.calls.countP (·.guards == some (.managed n)) + if th.slot.current = .managed n then 1 else 0

end Thread

namespace World

/-- Nobody is in the middle of an attach or a detach. -/
def Quiet (w : World) : Prop := ∀ c ∈ w.calls, c.isBetween = false

/-- How many threads are in some unfinished run of the container at `n`. -/
def unitsIn (w : World) (n : Nat) : Nat := w.threads.countP (·.isIn n)

/-- How often threads are in the container at `n`. -/
def stays (w : World) (n : Nat) : Nat := (w.threads.map (·.stays n)).foldr (· + ·) 0

end World

/-! ## One thread -/

/-- A run adds as much to the attachments of its thread as to the stays of the thread. -/
theorem Call.holds_add_bound {c : Call} {outer : Handle} (hf : c.Fits outer) (hc : c.IsPlain)
    (n : Nat) :
    (if c.holds n then 1 else 0) + (if outer = .managed n then 1 else 0) =
      (if c.guards == some (.managed n) then 1 else 0) +
        if c.binding outer = .managed n then 1 else 0 := by
  -- A thread that steps out keeps the stay that it had by being bound; one that attaches gets one.
  have hway {target : Handle} {way : Passage} (h : way.Fits target outer) :
      (if RunStage.holds n (.inside way) then 1 else 0) + (if outer = .managed n then 1 else 0) =
        (if (run target (.inside way)).guards == some (.managed n) then 1 else 0) +
          if way.inside outer = .managed n then 1 else 0 := by
    cases way with
    | direct => rfl
    | stepOut back =>
      obtain ⟨-, rfl, -⟩ := h
      simp [RunStage.holds, guards, Passage.inside]
    | attach m =>
      obtain ⟨-, rfl⟩ := h
      simp [RunStage.holds, guards, Passage.inside]
  cases c with
  | poll j stage => exact absurd hc.2 (by simp [job?])
  | run target stage =>
    cases stage with
    | checked => rfl
    | going way => rfl
    | acquired m => exact absurd hc.1 (by simp [isBetween])
    | inside way => exact hway hf
    | leaving way =>
      have hguards : (run target (.leaving way)).guards = (run target (.inside way)).guards := by
        cases way <;> rfl
      rw [hguards, holds, RunStage.holds_leaving]
      exact hway hf
    | unbound m => exact absurd hc.1 (by simp [isBetween])

section OneThread

variable {calls : List Call} {n : Nat}

/-- **The attachments that the calls of a thread have** are one for each time that the thread has
stepped out of the container, and one if it is bound to it. -/
theorem countP_holds (hn : Nested calls) (hplain : ∀ c ∈ calls, c.IsPlain) (n : Nat) :
    calls.countP (·.holds n) = calls.countP (·.guards == some (.managed n)) +
      if binding calls = .managed n then 1 else 0 := by
  induction calls with
  | nil => rfl
  | cons c calls ih =>
    obtain ⟨hfit, hn⟩ := hn
    obtain ⟨hc, hplain⟩ := List.forall_mem_cons.mp hplain
    have hcalls := ih hn hplain
    have hcall := Call.holds_add_bound hfit hc n
    rw [List.countP_cons, List.countP_cons, hcalls, binding]
    omega

theorem exists_holds_of_isIn (hn : Nested calls) (hplain : ∀ c ∈ calls, c.IsPlain) {c : Call}
    (hc : c ∈ calls) (hin : c.isIn n = true) : ∃ c' ∈ calls, c'.holds n = true := by
  induction calls with
  | nil => exact absurd hc (by simp)
  | cons d calls ih =>
    rcases List.mem_cons.mp hc with rfl | hmem
    · have hbinding : binding (c :: calls) = .managed n := by
        cases c with
        | poll j stage => exact absurd hin (by simp [Call.isIn])
        | run target stage =>
          cases stage with
          | inside way => exact (Passage.Fits.inside_eq hn.1).trans (eq_of_beq hin)
          | leaving way => exact (Passage.Fits.inside_eq hn.1).trans (eq_of_beq hin)
          | _ => exact absurd hin (by simp [Call.isIn])
      have hpos : 0 < (c :: calls).countP (·.holds n) := by
        rw [countP_holds hn hplain, if_pos hbinding]
        exact Nat.succ_pos _
      exact List.countP_pos_iff.mp hpos
    · obtain ⟨c', hc', hholds⟩ := ih hn.2 (List.forall_mem_cons.mp hplain).2 hmem
      exact ⟨c', List.mem_cons_of_mem d hc', hholds⟩

/-- A run that has an attachment to a container is in it, unless it is in the middle of an attach
or a detach. -/
theorem Call.isIn_of_holds {c : Call} {outer : Handle} (hf : c.Fits outer) (hc : c.IsPlain)
    (hholds : c.holds n = true) : c.isIn n = true := by
  have hattach {target : Handle} {way : Passage} (hf : way.Fits target outer)
      (hholds : RunStage.holds n (.inside way) = true) : target = .managed n := by
    cases way with
    | attach m => exact hf.1.trans (congrArg Handle.managed (eq_of_beq hholds))
    | direct => exact absurd hholds (by simp [RunStage.holds])
    | stepOut back => exact absurd hholds (by simp [RunStage.holds])
  cases c with
  | poll j stage => exact absurd hholds (by simp [Call.holds])
  | run target stage =>
    cases stage with
    | inside way => exact beq_iff_eq.mpr (hattach hf hholds)
    | leaving way => exact beq_iff_eq.mpr (hattach hf (RunStage.holds_leaving n way ▸ hholds))
    | acquired m => exact absurd hc.1 (by simp [isBetween])
    | unbound m => exact absurd hc.1 (by simp [isBetween])
    | checked => exact absurd hholds (by simp [holds, RunStage.holds])
    | going way => exact absurd hholds (by simp [holds, RunStage.holds])

theorem isIn_of_mem_of_holds (hn : Nested calls) (hplain : ∀ c ∈ calls, c.IsPlain) {c : Call}
    (hc : c ∈ calls) (hholds : c.holds n = true) : c.isIn n = true := by
  induction calls with
  | nil => exact absurd hc (by simp)
  | cons d calls ih =>
    rcases List.mem_cons.mp hc with rfl | hmem
    · exact Call.isIn_of_holds hn.1 (hplain c hc) hholds
    · exact ih hn.2 (List.forall_mem_cons.mp hplain).2 hmem

end OneThread

namespace Thread

variable {th : Thread}

/-- A thread has as many attachments as it has stays. -/
theorem Sound.countP_holds (h : th.Sound) (hplain : ∀ c ∈ th.calls, c.IsPlain) (n : Nat) :
    th.calls.countP (·.holds n) = th.stays n := by
  rw [Interleaving.countP_holds h.nested hplain, stays, h.slot_eq]
  rfl

theorem Sound.isIn_iff (h : th.Sound) (hplain : ∀ c ∈ th.calls, c.IsPlain) (n : Nat) :
    th.isIn n = true ↔ 0 < th.stays n := by
  rw [← h.countP_holds hplain, List.countP_pos_iff, isIn, List.any_eq_true]
  constructor
  · rintro ⟨c, hc, hin⟩
    exact exists_holds_of_isIn h.nested hplain hc hin
  · rintro ⟨c, hc, hholds⟩
    exact ⟨c, hc, isIn_of_mem_of_holds h.nested hplain hc hholds⟩

end Thread

/-! ## All threads -/

/-- The number of threads with a property is at most a sum over threads, if exactly those with the
property contribute to it; it is the sum exactly if none of them contributes more than one. -/
theorem countP_le_sum {threads : List Thread} {p : Thread → Bool} {f : Thread → Nat}
    (h : ∀ th ∈ threads, p th = true ↔ 0 < f th) :
    threads.countP p ≤ (threads.map f).foldr (· + ·) 0 ∧
      ((threads.map f).foldr (· + ·) 0 = 0 ↔ threads.countP p = 0) ∧
      ((threads.map f).foldr (· + ·) 0 = threads.countP p ↔ ∀ th ∈ threads, f th ≤ 1) := by
  induction threads with
  | nil => simp
  | cons th threads ih =>
    obtain ⟨hle, hzero, heq⟩ := ih fun th hth => h th (List.mem_cons_of_mem _ hth)
    have hth := h th (List.mem_cons_self ..)
    rw [List.countP_cons, List.map_cons, List.foldr_cons, List.forall_mem_cons, ← heq]
    by_cases hp : p th = true
    · have hpos := hth.mp hp
      rw [if_pos hp]
      omega
    · have hzero := mt hth.mpr hp
      rw [if_neg hp]
      omega

namespace World

/-- The calls of all threads that satisfy something, counted thread by thread. -/
theorem countP_calls (w : World) (p : Call → Bool) :
    w.calls.countP p = (w.threads.map (·.calls.countP p)).foldr (· + ·) 0 := by
  unfold calls
  induction w.threads with
  | nil => rfl
  | cons th threads ih =>
    rw [List.flatMap_cons, List.countP_append, ih, List.map_cons, List.foldr_cons]

variable {w : World}

theorem Quiet.isPlain (hquiet : w.Quiet) (hjobs : w.jobs = []) {th : Thread}
    (hth : th ∈ w.threads) {c : Call} (hc : c ∈ th.calls) : c.IsPlain := by
  have hmem : c ∈ w.calls := List.mem_flatMap.mpr ⟨th, hth, hc⟩
  obtain ⟨-, hcalls⟩ := List.append_eq_nil_iff.mp hjobs
  exact ⟨hquiet c hmem, List.filterMap_eq_nil_iff.mp hcalls c hmem⟩

theorem Sound.attached_eq_of_quiet (hw : w.Sound) (hquiet : w.Quiet) (hjobs : w.jobs = [])
    (n : Nat) : w.pool.attached (.managed n) = w.stays n := by
  have htasks : w.tasksOn n = 0 := by rw [tasksOn, hjobs]; rfl
  have hstays : ∀ th ∈ w.threads, th.calls.countP (·.holds n) = th.stays n := fun th hth =>
    (hw.threads th hth).countP_holds (fun _ => hquiet.isPlain hjobs hth) n
  rw [hw.exact n, htasks, Nat.add_zero, runsOn, countP_calls, stays, List.map_congr_left hstays]

end World

/-- **Attachments are stays, not units.**

Take any steps of any threads, no task left, and nobody in the middle of an attach or a detach.

* What a container tells as the number of its units is how often threads are in it: once for each
  time that a thread has stepped out of it to root and will go back, and once for each thread that
  is bound to it.  The refusal to destroy it says the same number.
* The number is never less than that of the threads that are in the container, and a thread is in it
  exactly if it has a stay there.  So it is zero exactly if no thread is.
* It is the number of threads exactly if no thread has two stays, that is, if none that has stepped
  out of the container is bound to it again or has stepped out of it once more. -/
theorem attached_eq_stays {es : List Event} {w : World} (h : Run World.start es w)
    (hquiet : w.Quiet) (hjobs : w.jobs = []) (n : Nat) :
    w.pool.attached (.managed n) = w.stays n ∧
    (∀ k, w.pool.destroy (.managed n) = .error (.stillAttached k) ↔ k = w.stays n ∧ 0 < k) ∧
    (∀ th ∈ w.threads, th.isIn n = true ↔ 0 < th.stays n) ∧
    w.unitsIn n ≤ w.pool.attached (.managed n) ∧
    (w.pool.attached (.managed n) = 0 ↔ w.unitsIn n = 0) ∧
    (w.pool.attached (.managed n) = w.unitsIn n ↔ ∀ th ∈ w.threads, th.stays n ≤ 1) := by
  have hw := h.sound World.sound_start
  have hattached := hw.attached_eq_of_quiet hquiet hjobs n
  have hin : ∀ th ∈ w.threads, th.isIn n = true ↔ 0 < th.stays n := fun th hth =>
    (hw.threads th hth).isIn_iff (fun _ => hquiet.isPlain hjobs hth) n
  obtain ⟨hle, hzero, heq⟩ := countP_le_sum hin
  refine ⟨hattached, fun k => ?_, hin, hattached ▸ hle, ?_, ?_⟩
  · rw [← hattached, Pool.destroy_eq_stillAttached_iff]
    constructor
    · rintro ⟨-, hpos, rfl⟩
      exact ⟨rfl, hpos⟩
    · rintro ⟨rfl, hpos⟩
      exact ⟨hw.settled.running hpos, hpos, rfl⟩
  · rw [hattached]
    exact hzero
  · rw [hattached]
    exact heq

/-- One thread runs into a container, steps out of it to root, and runs into it again from there. -/
def reentry : List (Nat × Act) :=
  [(0, .perform (.create Config.empty .idle)), (0, .perform (.run (.managed 0))), (0, .next),
   (0, .next), (0, .next), (0, .perform (.run .root)), (0, .next),
   (0, .perform (.run (.managed 0))), (0, .next), (0, .next), (0, .next)]

/-- Another thread is started and runs into the same container. -/
def reentryBesideEntry : List (Nat × Act) :=
  reentry ++ [(0, .perform .spawn), (1, .perform (.run (.managed 0))), (1, .next), (1, .next),
    (1, .next)]

/-- Whether a world is quiet and without tasks. -/
def World.isCalm (w : World) : Bool := w.calls.all (!·.isBetween) && w.jobs.isEmpty

theorem World.quiet_of_isCalm {w : World} (h : w.isCalm = true) : w.Quiet ∧ w.jobs = [] := by
  simpa [isCalm, Quiet] using h

/-- Three attachments of two threads: the container tells of three units. -/
theorem attached_eq_stays_reentryBesideEntry : ∃ es w, Run World.start es w ∧ w.Quiet ∧
    w.jobs = [] ∧ w.unitsIn 0 = 2 ∧ w.pool.attached (.managed 0) = 3 ∧
    w.pool.destroy (.managed 0) = .error (.stillAttached 3) := by
  obtain ⟨⟨es, w⟩, hr⟩ := Option.isSome_iff_exists.mp
    (show (World.start.replay reentryBesideEntry).isSome = true by decide)
  have hview : (World.start.replay reentryBesideEntry).map (fun r =>
      (r.2.isCalm, r.2.unitsIn 0, r.2.stays 0)) = some (true, 2, 3) := by decide
  rw [hr] at hview
  obtain ⟨hcalm, hunits, hstays⟩ : w.isCalm = true ∧ w.unitsIn 0 = 2 ∧ w.stays 0 = 3 := by
    simpa using hview
  obtain ⟨hquiet, hjobs⟩ := World.quiet_of_isCalm hcalm
  obtain ⟨hattached, hrefused, -⟩ := attached_eq_stays (Run.of_replay hr) hquiet hjobs 0
  exact ⟨es, w, Run.of_replay hr, hquiet, hjobs, hunits, hattached.trans hstays,
    (hrefused 3).mpr ⟨hstays.symm, by decide⟩⟩

/-- **One thread is counted as two units** that is in a container a second time through root. -/
theorem attached_two_of_reentry : ∃ es w, Run World.start es w ∧ w.Quiet ∧ w.jobs = [] ∧
    w.threads.length = 1 ∧ w.unitsIn 0 = 1 ∧ w.pool.attached (.managed 0) = 2 ∧
    w.pool.destroy (.managed 0) = .error (.stillAttached 2) := by
  obtain ⟨⟨es, w⟩, hr⟩ := Option.isSome_iff_exists.mp
    (show (World.start.replay reentry).isSome = true by decide)
  have hview : (World.start.replay reentry).map (fun r =>
      (r.2.isCalm, r.2.threads.length, r.2.unitsIn 0, r.2.pool.phase (.managed 0),
        r.2.pool.attached (.managed 0))) = some (true, 1, 1, .running, 2) := by decide
  rw [hr] at hview
  obtain ⟨hcalm, hthreads, hunits, hphase, hattached⟩ : w.isCalm = true ∧
      w.threads.length = 1 ∧ w.unitsIn 0 = 1 ∧ w.pool.phase (.managed 0) = .running ∧
        w.pool.attached (.managed 0) = 2 := by
    simpa using hview
  obtain ⟨hquiet, hjobs⟩ := World.quiet_of_isCalm hcalm
  have htwo : (w.pool.container 0).attached = 2 := hattached
  exact ⟨es, w, Run.of_replay hr, hquiet, hjobs, hthreads, hunits, hattached,
    Pool.destroy_eq_stillAttached_iff.mpr ⟨hphase, by omega, htwo.symm⟩⟩

end ResourceContainers.Interleaving
