import Mathlib.Data.List.Nodup
import ResourceContainers.Proofs.Interleaving.Accounting

/-!
# What protects the container of a task

A task that was started and is not ready yet may be polled again at any time, and should find its
container as it left it.  An attachment would see to that.  But a poll makes an attachment only if
the polling thread is bound to root.  A thread that is in the container already polls the task as it
is, and nothing remains of such a poll when the thread leaves.  So whether the container is
protected depends on where the task was polled from.

* `PolledFromRoot`, `Completed`: what the steps so far say about a task.
* `Tracked`: a task, with the stage of its poll if it is being polled.
* `Tracked.Recorded`: the task has an attachment exactly if the steps so far say so.
* `Numbered`: the numbers of tasks tell them apart, also from those that are not there any more.
* `World.Recorded`: the tasks of a world are recorded and numbered.
* `protected_iff_polledFromRoot`: the main statement.
* `pollInside_unprotected`: a task that was started and lost its container.
-/

namespace ResourceContainers

/-- The only way to refuse a thread that wants to a task before anything else is looked at. -/
theorem Scope.choose_eq_error {t : Scope} {current : Handle} {why : Refusal}
    (h : t.choose current = .error why) : why = .notInRoot := by
  obtain ⟨container, attached⟩ := t
  cases container with
  | root => exact absurd h (by simp [choose])
  | managed n =>
    simp only [choose] at h
    split at h
    · exact absurd h (by simp)
    · split at h
      · exact absurd h (by simp)
      · exact (Except.error.inj h).symm

namespace Interleaving

/-! ## What steps say about a task -/

/-- The task that is seen in a step. -/
def Note.task? : Note → Option Nat
  | .polled i _ _ | .ended i _ | .failed i _ => some i
  | _ => none

/-- Some poll from root executed the future of the task. -/
def PolledFromRoot (i : Nat) (es : List Event) : Prop :=
  ∃ e ∈ es, ∃ h, e.note = .polled i h .bound

/-- The future of the task was ready, and a poll said so. -/
def Completed (i : Nat) (es : List Event) : Prop :=
  ∃ e ∈ es, e.note = .ended i .done

theorem polledFromRoot_cons {i : Nat} {e : Event} {es : List Event} :
    PolledFromRoot i (e :: es) ↔ (∃ h, e.note = .polled i h .bound) ∨ PolledFromRoot i es := by
  simp [PolledFromRoot]

theorem completed_cons {i : Nat} {e : Event} {es : List Event} :
    Completed i (e :: es) ↔ e.note = .ended i .done ∨ Completed i es := by
  simp [Completed]

/-! ## Tasks and what is known of them -/

/-- A task, with how far its poll has come if it is being polled. -/
structure Tracked where
  job : Job
  stage : Option PollStage

namespace Tracked

/-- The number of the task. -/
def number (t : Tracked) : Nat := t.job.number

/-- Unless it is completed, the task has an attachment exactly if it was polled from root before, or
is about to be. -/
def Recorded (es : List Event) (t : Tracked) : Prop :=
  ¬ Completed t.number es →
    (t.job.scope.attached = true ↔ PolledFromRoot t.number es ∨ t.stage = some .acquired)

variable {es : List Event} {e : Event} {t t' : Tracked}

/-- A step that shows nothing new of a task and leaves it as it is. -/
theorem Recorded.keep (h : t.Recorded es) (hnumber : t'.number = t.number)
    (hattached : t'.job.scope.attached = t.job.scope.attached)
    (hstage : t'.stage = some .acquired ↔ t.stage = some .acquired)
    (hpolled : ∀ h, e.note ≠ .polled t.number h .bound) : t'.Recorded (e :: es) := by
  intro hc
  rw [hnumber, completed_cons] at hc
  have hold := h fun hcompleted => hc (.inr hcompleted)
  rw [hattached, hnumber, hstage, polledFromRoot_cons, hold]
  constructor
  · rintro (hroot | hacquired)
    · exact .inl (.inr hroot)
    · exact .inr hacquired
  · rintro ((⟨place, hnote⟩ | hroot) | hacquired)
    · exact absurd hnote (hpolled place)
    · exact .inl hroot
    · exact .inr hacquired

/-- A task that has an attachment, for a reason. -/
theorem recorded_of_attached (h : t.job.scope.attached = true)
    (hwhy : PolledFromRoot t.number es ∨ t.stage = some .acquired) : t.Recorded es :=
  fun _ => ⟨fun _ => hwhy, fun _ => h⟩

theorem recorded_of_completed (h : e.note = .ended t.number .done) : t.Recorded (e :: es) :=
  fun hc => absurd (completed_cons.mpr (.inl h)) hc

theorem Recorded.keep_other (h : t.Recorded es) (hnote : e.note.task? ≠ some t.number) :
    t.Recorded (e :: es) := by
  refine h.keep rfl rfl Iff.rfl fun place hpolled => hnote ?_
  rw [hpolled]
  rfl

end Tracked

/-- The task of a call that polls one. -/
def Call.tracked? : Call → Option Tracked
  | run _ _ => none
  | poll j stage => some ⟨j, some stage⟩

/-- The tasks that calls poll, and those that nobody polls. -/
def tracked (calls : List Call) (jobs : List Job) : List Tracked :=
  jobs.map (⟨·, none⟩) ++ calls.filterMap Call.tracked?

/-- All tasks of a world. -/
def World.tracked (w : World) : List Tracked := Interleaving.tracked w.calls w.tasks

/-- The tasks that a move leaves its thread with, or gives back. -/
def Move.tracked (m : Move) : List Tracked := Interleaving.tracked m.call.toList m.job.toList

theorem tracked_job (calls : List Call) (jobs : List Job) :
    (tracked calls jobs).map Tracked.job = jobs ++ calls.filterMap Call.job? := by
  rw [tracked, List.map_append, List.map_map, List.map_filterMap]
  congr 1
  · exact List.map_id' jobs
  · congr 1
    funext c
    cases c <;> rfl

/-- Tasks are told apart by their numbers, and no number from `next` on was ever given to one. -/
structure Numbered (next : Nat) (l : List Tracked) (es : List Event) : Prop where
  distinct : (l.map Tracked.number).Nodup
  below : ∀ t ∈ l, t.number < next
  seen : ∀ e ∈ es, ∀ i, e.note.task? = some i → i < next

namespace Numbered

variable {next : Nat} {l l' rest : List Tracked} {es : List Event}

theorem perm (h : Numbered next l es) (hl : l.Perm l') : Numbered next l' es where
  distinct := (hl.map _).nodup_iff.mp h.distinct
  below t ht := h.below t (hl.mem_iff.mpr ht)
  seen := h.seen

theorem number_ne (h : Numbered next (l ++ rest) es) {i : Nat} (hi : i ∈ l.map Tracked.number)
    {t : Tracked} (ht : t ∈ rest) : i ≠ t.number := by
  have hdistinct := h.distinct
  rw [List.map_append] at hdistinct
  exact (List.nodup_append.mp hdistinct).2.2 i hi _ (List.mem_map_of_mem ht)

/-- Whatever is left of one part, with a step in which a task of that part is seen or none. -/
theorem sublist (h : Numbered next (l ++ rest) es)
    (hsub : (l'.map Tracked.number).Sublist (l.map Tracked.number)) {e : Event}
    (he : ∀ i, e.note.task? = some i → i ∈ l.map Tracked.number) :
    Numbered next (l' ++ rest) (e :: es) := by
  have hold {i : Nat} (hi : i ∈ l.map Tracked.number) : i < next := by
    obtain ⟨t, ht, rfl⟩ := List.mem_map.mp hi
    exact h.below t (List.mem_append_left _ ht)
  refine ⟨?_, fun t ht => ?_, fun e' he' i hi => ?_⟩
  · have hdistinct := h.distinct
    rw [List.map_append] at hdistinct ⊢
    exact (hsub.append_right _).nodup hdistinct
  · rcases List.mem_append.mp ht with ht | ht
    · exact hold (hsub.subset (List.mem_map_of_mem ht))
    · exact h.below t (List.mem_append_right _ ht)
  · rcases List.mem_cons.mp he' with rfl | he'
    · exact hold (he i hi)
    · exact h.seen e' he' i hi

theorem cons (h : Numbered next rest es) (hl : l.map Tracked.number = [next]) {e : Event}
    (he : e.note.task? = none) : Numbered (next + 1) (l ++ rest) (e :: es) := by
  refine ⟨?_, fun t ht => ?_, fun e' he' i hi => ?_⟩
  · rw [List.map_append, hl]
    refine List.nodup_cons.mpr ⟨fun hin => ?_, h.distinct⟩
    obtain ⟨t, ht, heq⟩ := List.mem_map.mp hin
    exact absurd heq (Nat.ne_of_lt (h.below t ht))
  · rcases List.mem_append.mp ht with ht | ht
    · have hin : t.number ∈ l.map Tracked.number := List.mem_map_of_mem ht
      rw [hl, List.mem_singleton] at hin
      omega
    · exact Nat.lt_succ_of_lt (h.below t ht)
  · rcases List.mem_cons.mp he' with rfl | he'
    · rw [he] at hi
      exact absurd hi (by simp)
    · exact Nat.lt_succ_of_lt (h.seen e' he' i hi)

end Numbered

/-! ## Moves -/

section Moves

variable {p : Pool} {s : Slot} {m : Move} {es : List Event} {k : Nat} {a : Act}

theorem RunStage.Access.tracked {target : Handle} {stage : RunStage}
    (h : RunStage.Access target p s stage m) : m.tracked = [] ∧ m.note.task? = none := by
  cases h <;> exact ⟨rfl, rfl⟩

theorem RunStart.tracked {target : Handle} (h : RunStart p s target m) :
    m.tracked = [] ∧ m.note.task? = none := by
  cases h <;> exact ⟨rfl, rfl⟩

theorem PollStage.Access.tracked {j : Job} {stage : PollStage}
    (h : PollStage.Access j p s stage m) :
    m.tracked.map Tracked.number = [j.number] ∧ ∀ i, m.note.task? = some i → i = j.number := by
  cases h <;> exact ⟨rfl, by simp [Note.task?, eq_comm]⟩

theorem PollStart.tracked {j : Job} (h : PollStart p s j m) :
    m.tracked.map Tracked.number = [j.number] ∧ ∀ i, m.note.task? = some i → i = j.number := by
  cases h <;> exact ⟨rfl, by simp [Note.task?, eq_comm]⟩

/-- A poll keeps its record. -/
theorem PollStage.Access.recorded {j : Job} {stage : PollStage} {outer : Handle}
    (h : PollStage.Access j p s stage m) (hf : (Call.poll j stage).Fits outer)
    (hr : Tracked.Recorded es ⟨j, some stage⟩) :
    ∀ t ∈ m.tracked, t.Recorded (⟨k, a, m.note⟩ :: es) := by
  intro t ht
  cases h with
  | failed e =>
    obtain rfl := List.mem_singleton.mp ht
    exact hr.keep rfl rfl (by simp) (by simp)
  | acquired e =>
    obtain rfl := List.mem_singleton.mp ht
    exact Tracked.recorded_of_attached (Scope.attached_of_attach hf.2 e).2 (.inr rfl)
  | polled hvisit =>
    obtain rfl := List.mem_singleton.mp ht
    exact hr.keep rfl rfl (by simp) (by simp [hvisit])
  | bound =>
    obtain rfl := List.mem_singleton.mp ht
    exact Tracked.recorded_of_attached hf.2 (.inl (polledFromRoot_cons.mpr (.inl ⟨_, rfl⟩)))
  | @left visit ending hleft =>
    obtain rfl := List.mem_singleton.mp ht
    exact hr.keep rfl rfl (by simp) (by simp)
  | unbound =>
    obtain rfl := List.mem_singleton.mp ht
    exact hr.keep rfl rfl (by simp) (by simp)
  | released =>
    obtain rfl := List.mem_singleton.mp ht
    exact Tracked.recorded_of_completed rfl

theorem PollStart.recorded {j : Job} (h : PollStart p s j m)
    (hr : Tracked.Recorded es ⟨j, none⟩) :
    ∀ t ∈ m.tracked, t.Recorded (⟨k, a, m.note⟩ :: es) := by
  intro t ht
  cases h <;>
    (obtain rfl := List.mem_singleton.mp ht; exact hr.keep rfl rfl (by simp) (by simp))

variable {number number' : Nat} {c : Option Call} {j : Option Job}

/-- A move keeps its tasks, or drops one, or makes one with a new number. -/
theorem Moves.numbers (hm : Moves p s number c j m number') :
    (number' = number ∧ (m.tracked.map Tracked.number).Sublist
        ((tracked c.toList j.toList).map Tracked.number)) ∨
      (number' = number + 1 ∧ tracked c.toList j.toList = [] ∧
        m.tracked.map Tracked.number = [number]) := by
  cases hm with
  | run h =>
    rw [h.tracked.1]
    exact .inl ⟨rfl, List.nil_sublist _⟩
  | poll h =>
    rw [h.tracked.1]
    exact .inl ⟨rfl, List.Sublist.refl _⟩
  | finish h => cases h <;> exact .inl ⟨rfl, List.Sublist.refl _⟩
  | request h => exact .inl ⟨rfl, List.Sublist.refl _⟩
  | scope h => exact .inr ⟨rfl, rfl, rfl⟩
  | drop j => exact .inl ⟨rfl, List.nil_sublist _⟩
  | startRun h =>
    rw [h.tracked.1]
    exact .inl ⟨rfl, List.nil_sublist _⟩
  | startPoll h =>
    rw [h.tracked.1]
    exact .inl ⟨rfl, List.Sublist.refl _⟩

theorem Moves.mem_of_note (hm : Moves p s number c j m number') {i : Nat}
    (hi : m.note.task? = some i) : i ∈ (tracked c.toList j.toList).map Tracked.number := by
  cases hm with
  | run h =>
    rw [h.tracked.2] at hi
    exact absurd hi (by simp)
  | poll h =>
    obtain rfl := h.tracked.2 i hi
    exact List.mem_singleton_self _
  | finish h => exact absurd hi (by simp [Note.task?])
  | request h => cases h <;> exact absurd hi (by simp [Note.task?])
  | scope h => exact absurd hi (by simp [Note.task?])
  | drop j => exact absurd hi (by simp [Note.task?])
  | startRun h =>
    rw [h.tracked.2] at hi
    exact absurd hi (by simp)
  | startPoll h =>
    obtain rfl := h.tracked.2 i hi
    exact List.mem_singleton_self _

/-- Every move keeps tasks numbered, its own and others. -/
theorem Moves.numbered (hm : Moves p s number c j m number') {rest : List Tracked}
    (h : Numbered number (tracked c.toList j.toList ++ rest) es) :
    Numbered number' (m.tracked ++ rest) (⟨k, a, m.note⟩ :: es) := by
  rcases hm.numbers with ⟨rfl, hsub⟩ | ⟨rfl, hnone, hnew⟩
  · exact h.sublist hsub fun i hi => hm.mem_of_note hi
  · rw [hnone, List.nil_append] at h
    refine h.cons hnew (Option.eq_none_iff_forall_ne_some.mpr fun i hi => ?_)
    have hin := hm.mem_of_note hi
    rw [hnone] at hin
    exact absurd hin (by simp)

/-- **A move keeps the record of its tasks.**  A new task has none, and needs none as long as its
number was not seen before. -/
theorem Moves.recorded {calls : List Call} (hm : Moves p s number c j m number')
    (hn : Nested (c.toList ++ calls)) (hr : ∀ t ∈ tracked c.toList j.toList, t.Recorded es)
    (hes : ∀ e ∈ es, ∀ i, e.note.task? = some i → i < number) :
    ∀ t ∈ m.tracked, t.Recorded (⟨k, a, m.note⟩ :: es) := by
  cases hm with
  | run h =>
    rw [h.tracked.1]
    exact fun t ht => absurd ht (by simp)
  | poll h => exact h.recorded hn.1 (hr _ (List.mem_singleton_self _))
  | finish h =>
    cases h with
    | run hending => exact fun t ht => absurd ht (by simp [Move.tracked, tracked, Call.tracked?])
    | poll =>
      intro t ht
      obtain rfl := List.mem_singleton.mp ht
      exact (hr _ (List.mem_singleton_self _)).keep rfl rfl (by simp) (by simp)
  | request h => exact fun t ht => absurd ht (by simp [Move.tracked, tracked])
  | scope h =>
    intro t ht
    obtain rfl := List.mem_singleton.mp ht
    refine fun _ => ⟨fun hattached => absurd hattached (by simp [Scope.ofHandle]), ?_⟩
    rintro (hroot | hacquired)
    · rcases polledFromRoot_cons.mp hroot with ⟨place, hnote⟩ | ⟨e, he, place, hnote⟩
      · exact absurd hnote (by simp)
      · exact absurd (hes e he number (by rw [hnote]; rfl)) (Nat.lt_irrefl number)
    · exact absurd hacquired (by simp)
  | drop j => exact fun t ht => absurd ht (by simp [Move.tracked, tracked])
  | startRun h =>
    rw [h.tracked.1]
    exact fun t ht => absurd ht (by simp)
  | startPoll h => exact h.recorded (hr _ (List.mem_singleton_self _))

/-- A task is refused its container only if it has no attachment to it. -/
theorem Moves.unattached_of_failed (hm : Moves p s number c j m number') {i : Nat}
    (hnote : m.note = .failed i .notRunning) :
    ∃ t ∈ tracked c.toList j.toList, t.number = i ∧ t.job.scope.attached = false := by
  cases hm with
  | run h =>
    have htask := h.tracked.2
    rw [hnote] at htask
    exact absurd htask (by simp [Note.task?])
  | @poll j stage m h =>
    refine ⟨⟨j, some stage⟩, List.mem_singleton_self _, ?_⟩
    cases h with
    | failed e =>
      obtain ⟨n, -, hunattached, -⟩ := Scope.acquire_of_attach_eq_error e
      exact ⟨(Note.failed.inj hnote).1, hunattached⟩
    | _ => exact absurd hnote (by simp)
  | request h => cases h <;> exact absurd hnote (by simp)
  | startRun h =>
    have htask := h.tracked.2
    rw [hnote] at htask
    exact absurd htask (by simp [Note.task?])
  | startPoll h =>
    cases h with
    | failed e =>
      obtain rfl := Scope.choose_eq_error e
      exact absurd hnote (by simp)
    | chosen e => exact absurd hnote (by simp)
  | _ => exact absurd hnote (by simp)

end Moves

/-! ## Worlds -/

/-- The tasks of the surroundings. -/
def Surroundings.tracked (Γ : Surroundings) : List Tracked :=
  Interleaving.tracked
    (Γ.before.flatMap Thread.calls ++ Γ.calls ++ Γ.behind.flatMap Thread.calls) Γ.tasks

theorem Surroundings.tracked_world (Γ : Surroundings) (p : Pool) (number : Nat) (s : Slot)
    (c : Option Call) (j : Option Job) :
    (Γ.world p number s c j).tracked.Perm
      (Interleaving.tracked c.toList j.toList ++ Γ.tracked) := by
  simp only [World.tracked, Surroundings.tracked, Interleaving.tracked, world, World.calls,
    List.flatMap_append, List.flatMap_cons, List.filterMap_append, List.map_append,
    List.append_assoc]
  -- the call is behind the tasks of the surroundings and behind the threads before its own
  refine List.Perm.append_left _ ?_
  exact ((List.perm_append_comm_assoc ..).append_left _).trans (List.perm_append_comm_assoc ..)

/-- The tasks of a world that is, but for their order, inside surroundings. -/
theorem Surroundings.tracked_perm (Γ : Surroundings) {w : World} {s : Slot} {c : Option Call}
    {j : Option Job} (hthreads : w.threads = (Γ.world w.pool w.nextTask s c j).threads)
    (htasks : w.tasks.Perm (Γ.world w.pool w.nextTask s c j).tasks) :
    w.tracked.Perm (Interleaving.tracked c.toList j.toList ++ Γ.tracked) := by
  refine List.Perm.trans ?_ (Γ.tracked_world w.pool w.nextTask s c j)
  rw [World.tracked, World.calls, hthreads]
  exact (htasks.map _).append_right _

/-- **What a step does to tasks.**  It does nothing, or it is a move that is about some of them and
leaves the rest alone. -/
theorem World.tracked_cases {w w' : World} {k : Nat} {a : Act} {note : Note}
    (h : w.step k a = some (w', note)) :
    (w'.tracked = w.tracked ∧ w'.nextTask = w.nextTask ∧ note = .quiet) ∨
      ∃ s c j m calls rest, Moves w.pool s w.nextTask c j m w'.nextTask ∧ note = m.note ∧
        ⟨s, c.toList ++ calls⟩ ∈ w.threads ∧
        w.tracked.Perm (Interleaving.tracked c.toList j.toList ++ rest) ∧
        w'.tracked.Perm (m.tracked ++ rest) := by
  rcases step_cases h with ⟨rfl, rfl⟩ | hmoved
  · refine .inl ⟨?_, rfl, rfl⟩
    simp [World.tracked, calls, Thread.fresh]
  · cases hmoved with
    | @intro Γ s c j m number hk hm hthreads htasks =>
    have hmem : ⟨s, c.toList ++ Γ.calls⟩ ∈ w.threads :=
      hthreads ▸ List.mem_append_right _ (List.mem_cons_self ..)
    exact .inr ⟨s, c, j, m, Γ.calls, Γ.tracked, hm, rfl, hmem,
      Γ.tracked_perm hthreads htasks, Γ.tracked_world m.pool number m.slot m.call m.job⟩

/-- What the steps `es` say about the tasks of a world. -/
structure World.Recorded (es : List Event) (w : World) : Prop where
  told : ∀ t ∈ w.tracked, t.Recorded es
  numbered : Numbered w.nextTask w.tracked es

namespace World

variable {w w' : World} {es : List Event} {k : Nat} {a : Act} {note : Note}

theorem recorded_start : start.Recorded [] where
  told t ht := absurd ht (by simp [start, World.tracked, Interleaving.tracked, calls, Thread.fresh])
  numbered :=
    ⟨List.nodup_nil, fun t ht => absurd ht List.not_mem_nil, fun e he => absurd he List.not_mem_nil⟩

/-- **Every step keeps the record of a world.** -/
theorem Recorded.step (hr : w.Recorded es) (hw : w.Sound) (h : w.step k a = some (w', note)) :
    w'.Recorded (⟨k, a, note⟩ :: es) := by
  rcases tracked_cases h with
    ⟨htracked, hnext, rfl⟩ | ⟨s, c, j, m, calls, rest, hm, rfl, hth, hperm, hperm'⟩
  · refine ⟨fun t ht => (hr.told t (htracked ▸ ht)).keep_other (by simp [Note.task?]), ?_⟩
    have hnumbered : Numbered w.nextTask (w.tracked ++ []) es := by
      rw [List.append_nil]
      exact hr.numbered
    rw [htracked, hnext, ← List.append_nil w.tracked]
    exact hnumbered.sublist (List.Sublist.refl _) (by simp [Note.task?])
  · have hnumbered := hr.numbered.perm hperm
    have hnested : Nested (c.toList ++ calls) := (hw.threads _ hth).nested
    have htold {t : Tracked} (ht : t ∈ Interleaving.tracked c.toList j.toList ++ rest) :
        t.Recorded es := hr.told t (hperm.mem_iff.mpr ht)
    refine ⟨fun t ht => ?_, (hm.numbered hnumbered).perm hperm'.symm⟩
    rcases List.mem_append.mp (hperm'.mem_iff.mp ht) with ht | ht
    · exact hm.recorded hnested (fun t ht => htold (List.mem_append_left _ ht))
        hr.numbered.seen t ht
    · -- a task of the rest is not the one that is seen
      refine (htold (List.mem_append_right _ ht)).keep_other fun hnote => ?_
      exact hnumbered.number_ne (hm.mem_of_note hnote) ht rfl

end World

/-- **The steps that led to a world tell which tasks have an attachment.** -/
theorem Run.recorded {w : World} {es : List Event} (h : Run World.start es w) : w.Recorded es := by
  induction h with
  | nil => exact World.recorded_start
  | cons h hs ih => exact ih.step (h.sound World.sound_start) hs

/-! ## What protects a container -/

namespace World

variable {w w' : World} {es : List Event} {j : Job}

theorem mem_tracked_of_mem_jobs (hj : j ∈ w.jobs) : ∃ t ∈ w.tracked, t.job = j :=
  List.mem_map.mp (tracked_job w.calls w.tasks ▸ hj)

theorem Recorded.holds_of_polledFromRoot (hr : w.Recorded es) (hj : j ∈ w.jobs) {n : Nat}
    (hn : j.scope.container = .managed n) (hc : ¬ Completed j.number es)
    (hroot : PolledFromRoot j.number es) : j.holds n = true := by
  obtain ⟨t, ht, rfl⟩ := mem_tracked_of_mem_jobs hj
  simp [Job.holds, Scope.holds, (hr.told t ht hc).mpr (.inl hroot), hn]

theorem Recorded.unattached (hr : w.Recorded es) (hj : j ∈ w.tasks)
    (hc : ¬ Completed j.number es) (hroot : ¬ PolledFromRoot j.number es) :
    j.scope.attached = false := by
  have ht : (⟨j, none⟩ : Tracked) ∈ w.tracked :=
    List.mem_append_left _ (List.mem_map.mpr ⟨j, hj, rfl⟩)
  refine Bool.eq_false_iff.mpr fun hattached => ?_
  rcases (hr.told _ ht hc).mp hattached with h | h
  · exact hroot h
  · exact absurd h (by simp)

/-- No step refuses a task its container once the task was polled from root. -/
theorem Recorded.not_failed (hr : w.Recorded es) {i k : Nat} {a : Act} (hc : ¬ Completed i es)
    (hroot : PolledFromRoot i es) : w.step k a ≠ some (w', .failed i .notRunning) := by
  intro hs
  rcases step_cases hs with ⟨-, hnote⟩ | hmoved
  · exact absurd hnote (by simp)
  · generalize hnote : Note.failed i .notRunning = note at hmoved
    cases hmoved with
    | @intro Γ s c j m number hk hm hthreads htasks =>
    obtain ⟨t, ht, rfl, hunattached⟩ := hm.unattached_of_failed hnote.symm
    have hmem : t ∈ w.tracked :=
      (Γ.tracked_perm hthreads htasks).mem_iff.mpr (List.mem_append_left _ ht)
    rw [(hr.told t hmem hc).mpr (.inl hroot)] at hunattached
    exact absurd hunattached (by simp)

theorem Recorded.destroy_of_unattached (hr : w.Recorded es) (hw : w.Sound) (hj : j ∈ w.tasks)
    {n : Nat} (hunattached : j.scope.attached = false)
    (hothers : ∀ i ∈ w.jobs, i.number ≠ j.number → i.holds n = false) (hruns : w.runsOn n = 0)
    (hn : w.pool.phase (.managed n) = .running) : ∃ p, w.pool.destroy (.managed n) = .ok p := by
  refine hw.destroy_of_unattached hruns (List.countP_eq_zero.mpr fun i hi => ?_) hn
  by_cases hnumber : i.number = j.number
  · obtain ⟨t, ht, rfl⟩ := mem_tracked_of_mem_jobs hi
    have htj : (⟨j, none⟩ : Tracked) ∈ w.tracked :=
      List.mem_append_left _ (List.mem_map.mpr ⟨j, hj, rfl⟩)
    obtain rfl : t = ⟨j, none⟩ := List.inj_on_of_nodup_map hr.numbered.distinct ht htj hnumber
    simp [Job.holds, Scope.holds, hunattached]
  · exact Bool.eq_false_iff.mp (hothers i hi hnumber)

end World

/-- **A task protects its container exactly if it was polled from root.**

After any steps of any threads, take a task inside a managed container that is neither dropped nor
completed.

* If some poll from root has executed its future, then the task has an attachment.  Its container
  runs, whoever destroys it is refused because of that attachment, and no step refuses the task its
  container.
* If none has, then between two polls the task has no attachment, and what it did in polls from
  inside the container makes no difference.  Once no run and no other task is attached to the
  container, the container can be destroyed, and then a poll from root is refused. -/
theorem protected_iff_polledFromRoot {es : List Event} {w : World} (h : Run World.start es w)
    {j : Job} {n : Nat} (hj : j ∈ w.jobs) (hn : j.scope.container = .managed n)
    (hc : ¬ Completed j.number es) :
    (PolledFromRoot j.number es →
      j.holds n = true ∧ w.pool.phase (.managed n) = .running ∧
        w.pool.destroy (.managed n) = .error (.stillAttached (w.pool.attached (.managed n))) ∧
        0 < w.pool.attached (.managed n) ∧
        ∀ k a w', w.step k a ≠ some (w', .failed j.number .notRunning)) ∧
    (¬ PolledFromRoot j.number es → j ∈ w.tasks →
      j.holds n = false ∧
        ((∀ i ∈ w.jobs, i.number ≠ j.number → i.holds n = false) → w.runsOn n = 0 →
          w.pool.phase (.managed n) = .running → ∃ p, w.pool.destroy (.managed n) = .ok p) ∧
        (w.pool.phase (.managed n) = .destroyed →
          j.scope.enter w.pool .fresh = .error .notRunning)) := by
  have hw := h.sound World.sound_start
  have hr := h.recorded
  refine ⟨fun hroot => ?_, fun hroot hidle => ?_⟩
  · have hholds := hr.holds_of_polledFromRoot hj hn hc hroot
    have hpos := hw.attached_pos_of_job hj hholds
    have hrunning := hw.settled.running hpos
    exact ⟨hholds, hrunning, Pool.destroy_of_attached hrunning hpos, hpos,
      fun k a w' => hr.not_failed hc hroot⟩
  · have hunattached := hr.unattached hidle hc hroot
    refine ⟨by simp [Job.holds, Scope.holds, hunattached], fun hothers hruns hrunning => ?_,
      fun hdestroyed => ?_⟩
    · exact hr.destroy_of_unattached hw hidle hunattached hothers hruns hrunning
    · have hrefused : w.pool.acquire n = .error .notRunning :=
        Pool.acquire_eq_error_iff.mpr ⟨hdestroyed, rfl⟩
      simp [Scope.enter, Scope.acquire, hn, hunattached, hrefused, Slot.fresh, Slot.current,
        Handle.isRoot]

/-- One thread that polls a task from root, and then another task from inside its container, which
it leaves again.  Both tasks are pending. -/
def pollFromRootAndInside : List (Nat × Act) :=
  [(0, .perform (.create Config.empty .idle)), (0, .perform (.create Config.empty .idle)),
   (0, .perform (.scope (.managed 0))), (0, .perform (.scope (.managed 1))),
   (0, .perform (.poll 0)), (0, .next), (0, .next), (0, .finish .pending), (0, .next),
   (0, .perform (.run (.managed 1))), (0, .next), (0, .next), (0, .next),
   (0, .perform (.poll 1)), (0, .next), (0, .finish .pending), (0, .next),
   (0, .finish .done), (0, .next), (0, .next)]

/-- The thread goes on: it destroys the container of the second task and polls that task. -/
def destroyAndPollAgain : List (Nat × Act) :=
  [(0, .perform (.destroy (.managed 1))), (0, .perform (.poll 1)), (0, .next)]

/-- What the thread sees, the newest first. -/
def notesFromRootAndInside : List Note :=
  [.returned (.managed 1), .quiet, .quiet, .ended 1 .pending, .quiet,
   .polled 1 (.managed 1) .direct, .quiet, .entered (.managed 1), .quiet, .quiet, .quiet,
   .ended 0 .pending, .quiet, .polled 0 (.managed 0) .bound, .quiet, .quiet, .quiet, .quiet,
   .created 1, .created 0]

theorem replay_pollFromRootAndInside :
    (World.start.replay pollFromRootAndInside).map (fun r =>
      (r.2.tasks, r.2.calls, r.2.pool.phase (.managed 1), r.1.map Event.note,
        (r.2.replay destroyAndPollAgain).map (·.1.map Event.note))) =
    some ([⟨1, ⟨.managed 1, false⟩⟩, ⟨0, ⟨.managed 0, true⟩⟩], [], .running,
      notesFromRootAndInside,
      some [.failed 1 .notRunning, .quiet, .destroyed (.managed 1)]) := rfl

/-- What the thread comes to. -/
theorem exists_pollFromRootAndInside : ∃ es w, Run World.start es w ∧
    w.tasks = [⟨1, ⟨.managed 1, false⟩⟩, ⟨0, ⟨.managed 0, true⟩⟩] ∧ w.calls = [] ∧
    w.pool.phase (.managed 1) = .running ∧
    es.map Event.note = notesFromRootAndInside ∧
    ∃ es' w', Run w es' w' ∧
      es'.map Event.note = [.failed 1 .notRunning, .quiet, .destroyed (.managed 1)] := by
  obtain ⟨⟨es, w⟩, hr, hview⟩ := Option.map_eq_some_iff.mp replay_pollFromRootAndInside
  simp only [Prod.mk.injEq] at hview
  obtain ⟨htasks, hcalls, hphase, hnotes, hlater⟩ := hview
  obtain ⟨⟨es', w'⟩, hr', hnotes'⟩ := Option.map_eq_some_iff.mp hlater
  exact ⟨es, w, Run.of_replay hr, htasks, hcalls, hphase, hnotes, es', w', Run.of_replay hr',
    hnotes'⟩

theorem not_completed_of_notes {es : List Event} {notes : List Note} {i : Nat}
    (hnotes : es.map Event.note = notes) (h : .ended i .done ∉ notes) : ¬ Completed i es := by
  rintro ⟨e, he, hnote⟩
  exact h (hnotes ▸ List.mem_map.mpr ⟨e, he, hnote⟩)

/-- The first task is protected and the second one is not. -/
theorem protected_iff_polledFromRoot_firstOnly : ∃ es w, Run World.start es w ∧
    (∃ j ∈ w.jobs, j.number = 0 ∧ PolledFromRoot 0 es ∧ j.holds 0 = true ∧
      ∀ p, w.pool.destroy (.managed 0) ≠ .ok p) ∧
    ∃ j ∈ w.jobs, j.number = 1 ∧ ¬ PolledFromRoot 1 es ∧ j.holds 1 = false ∧
      ∃ p, w.pool.destroy (.managed 1) = .ok p := by
  obtain ⟨es, w, hrun, htasks, hcalls, hphase, hnotes, -⟩ := exists_pollFromRootAndInside
  have hjobs : w.jobs = [⟨1, ⟨.managed 1, false⟩⟩, ⟨0, ⟨.managed 0, true⟩⟩] := by
    rw [World.jobs, htasks, hcalls]
    rfl
  have hfirst : (⟨0, ⟨.managed 0, true⟩⟩ : Job) ∈ w.jobs := by simp [hjobs]
  have hsecond : (⟨1, ⟨.managed 1, false⟩⟩ : Job) ∈ w.jobs := by simp [hjobs]
  have hroot : PolledFromRoot 0 es := by
    have hmem : Note.polled 0 (.managed 0) .bound ∈ es.map Event.note := by
      simp [hnotes, notesFromRootAndInside]
    obtain ⟨e, he, hnote⟩ := List.mem_map.mp hmem
    exact ⟨e, he, _, hnote⟩
  have hinside : ¬ PolledFromRoot 1 es := by
    rintro ⟨e, he, place, hnote⟩
    have hmem : Note.polled 1 place .bound ∈ es.map Event.note :=
      List.mem_map.mpr ⟨e, he, hnote⟩
    simp [hnotes, notesFromRootAndInside] at hmem
  obtain ⟨hholds, -, hdestroy, -⟩ := (protected_iff_polledFromRoot hrun hfirst rfl
    (not_completed_of_notes hnotes (by simp [notesFromRootAndInside]))).1 hroot
  obtain ⟨hfree, hdestroyed, -⟩ := (protected_iff_polledFromRoot hrun hsecond rfl
    (not_completed_of_notes hnotes (by simp [notesFromRootAndInside]))).2 hinside (by simp [htasks])
  refine ⟨es, w, hrun, ⟨_, hfirst, rfl, hroot, hholds, fun p hp => ?_⟩,
    _, hsecond, rfl, hinside, hfree, hdestroyed ?_ ?_ hphase⟩
  · rw [hdestroy] at hp
    exact absurd hp (by simp)
  · intro i hi hne
    rw [hjobs] at hi
    obtain rfl | rfl : i = ⟨1, ⟨.managed 1, false⟩⟩ ∨ i = ⟨0, ⟨.managed 0, true⟩⟩ := by
      simpa using hi
    · exact absurd rfl hne
    · rfl
  · rw [World.runsOn, hcalls]
    rfl

/-- **A poll from inside protects nothing.**  A task was started, is pending and is neither dropped
nor completed, and yet it has no attachment: its container is destroyed, and the next poll is
refused. -/
theorem pollInside_unprotected : ∃ es w es' w', Run World.start es w ∧ Run w es' w' ∧
    ∃ j ∈ w.tasks, j.scope = ⟨.managed 1, false⟩ ∧
      (∃ e ∈ es, e.note = .polled j.number (.managed 1) .direct) ∧
      (∃ e ∈ es, e.note = .ended j.number .pending) ∧ ¬ Completed j.number es ∧
      es'.map Event.note = [.failed j.number .notRunning, .quiet, .destroyed (.managed 1)] := by
  obtain ⟨es, w, hrun, htasks, -, -, hnotes, es', w', hrun', hnotes'⟩ :=
    exists_pollFromRootAndInside
  refine ⟨es, w, es', w', hrun, hrun', ⟨1, ⟨.managed 1, false⟩⟩, by simp [htasks], rfl, ?_, ?_,
    not_completed_of_notes hnotes (by simp [notesFromRootAndInside]), hnotes'⟩
  · have hmem : Note.polled 1 (.managed 1) .direct ∈ es.map Event.note := by
      simp [hnotes, notesFromRootAndInside]
    exact List.mem_map.mp hmem
  · have hmem : Note.ended 1 .pending ∈ es.map Event.note := by
      simp [hnotes, notesFromRootAndInside]
    exact List.mem_map.mp hmem

end Interleaving

end ResourceContainers
