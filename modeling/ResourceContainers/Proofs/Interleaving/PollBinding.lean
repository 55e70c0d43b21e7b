import ResourceContainers.Proofs.Interleaving.TaskProtection
import ResourceContainers.Proofs.Interleaving.Undisturbed

/-!
# A poll leaves its thread where it found it

A task is polled by whatever thread comes along, and that thread may be bound anywhere.  There are
three ways to the container of a task, and each has a way back of its own.  One does nothing, one
puts back the container that the thread stepped out of, and one writes root without having looked.
Between the way there and the way back the future does what it likes: it runs into containers, polls
other tasks and panics, while other threads go on.

* `Note.over?`: the task whose poll is over by a step.
* `World.Polling`: a thread is still busy with a poll, or with something that the future does.
* `Polling.step`, `Polling.run`: it stays so until the poll is over.
* `World.Houses`: a task is inside a container.
* `poll_binds_exactly`: the main statement.

## Why the calls are enough

The binding of a thread is read off its unfinished calls, by `Thread.Sound`.  So it is not necessary
to follow the slot through a poll.  Once the poll is over, the thread has the calls that it had
before, and that says where it is bound.
-/

namespace ResourceContainers.Interleaving

/-! ## Surroundings -/

namespace Surroundings

variable (Γ : Surroundings) {p : Pool} {number : Nat} {s : Slot} {c : Option Call} {j : Option Job}

theorem getElem?_world :
    (Γ.world p number s c j).threads[Γ.before.length]? = some ⟨s, c.toList ++ Γ.calls⟩ := by
  simp [world]

/-- A thread that does not move is one before or one behind that which does. -/
theorem getElem?_world_of_ne {k : Nat} (hk : k ≠ Γ.before.length) :
    (Γ.world p number s c j).threads[k]? =
      if k < Γ.before.length then Γ.before[k]? else Γ.behind[k - Γ.before.length - 1]? := by
  simp only [world]
  split
  · next hlt => exact List.getElem?_append_left hlt
  · next hge =>
    rw [List.getElem?_append_right (Nat.le_of_not_lt hge)]
    obtain ⟨d, hd⟩ : ∃ d, k - Γ.before.length = d + 1 := ⟨k - Γ.before.length - 1, by omega⟩
    rw [hd]
    rfl

/-- What the other threads poll belongs to the surroundings. -/
theorem mem_tracked_of_ne {k : Nat} (hk : k ≠ Γ.before.length) {th : Thread}
    (hth : (Γ.world p number s c j).threads[k]? = some th) {i : Job} {stage : PollStage}
    (hi : .poll i stage ∈ th.calls) : ⟨i, some stage⟩ ∈ Γ.tracked := by
  refine List.mem_append_right _ (List.mem_filterMap.mpr ⟨.poll i stage, ?_, rfl⟩)
  rw [Γ.getElem?_world_of_ne hk] at hth
  split at hth
  · have hbefore : th ∈ Γ.before := List.mem_of_getElem? hth
    exact List.mem_append_left _ (List.mem_append_left _ (List.mem_flatMap.mpr ⟨th, hbefore, hi⟩))
  · have hbehind : th ∈ Γ.behind := List.mem_of_getElem? hth
    exact List.mem_append_right _ (List.mem_flatMap.mpr ⟨th, hbehind, hi⟩)

/-- What the calls around the one that moves poll belongs to the surroundings. -/
theorem mem_tracked_of_calls {i : Job} {stage : PollStage} (hi : .poll i stage ∈ Γ.calls) :
    ⟨i, some stage⟩ ∈ Γ.tracked :=
  List.mem_append_right _ (List.mem_filterMap.mpr
    ⟨.poll i stage, List.mem_append_left _ (List.mem_append_right _ hi), rfl⟩)

end Surroundings

/-! ## Polls -/

/-- The task whose poll is over by a step: its future was executed, or it was refused. -/
def Note.over? : Note → Option Nat
  | .ended i _ | .failed i _ => some i
  | _ => none

theorem Note.task?_of_over {note : Note} {i : Nat} (h : note.over? = some i) :
    note.task? = some i := by
  cases note with
  | ended k ending => exact h
  | failed k why => exact h
  | _ => exact absurd h (by simp [over?])

/-- A move that goes on with a poll of the task `i`, or ends it. -/
def Move.Polls (i : Nat) (m : Move) : Prop :=
  (∃ j stage, m.call = some (.poll j stage) ∧ j.number = i ∧ m.note.over? = none) ∨
    (m.call = none ∧ m.note.over? = some i)

section Moves

variable {p : Pool} {s : Slot} {m : Move}

theorem PollStage.Access.polls {j : Job} {stage : PollStage} (h : PollStage.Access j p s stage m) :
    m.Polls j.number := by
  cases h with
  | failed e => exact .inr ⟨rfl, rfl⟩
  | left hleft => exact .inr ⟨rfl, rfl⟩
  | released => exact .inr ⟨rfl, rfl⟩
  | _ => exact .inl ⟨_, _, rfl, rfl, rfl⟩

theorem PollStart.polls {j : Job} (h : PollStart p s j m) : m.Polls j.number := by
  cases h with
  | failed e => exact .inr ⟨rfl, rfl⟩
  | chosen e => exact .inl ⟨_, _, rfl, rfl, rfl⟩

variable {number number' : Nat} {j : Option Job}

/-- A thread whose innermost call is a poll goes on with that poll, or is done with it. -/
theorem Moves.polls {i : Job} {stage : PollStage}
    (hm : Moves p s number (some (.poll i stage)) j m number') : m.Polls i.number := by
  cases hm with
  | poll h => exact h.polls
  | finish h =>
    cases h with
    | poll => exact .inl ⟨_, _, rfl, rfl, rfl⟩

end Moves

/-- Of the call that moves and those around it, every call is either the first or one of the
others. -/
theorem around_or_innermost {c : Option Call} {d : Call} {around inner calls : List Call}
    (h : c.toList ++ around = inner ++ d :: calls) :
    (∃ inner', around = inner' ++ d :: calls) ∨ (c = some d ∧ around = calls) := by
  cases c with
  | none => exact .inl ⟨inner, h⟩
  | some c =>
    cases inner with
    | nil =>
      obtain ⟨rfl, rfl⟩ := List.cons.inj h
      exact .inr ⟨rfl, rfl⟩
    | cons e inner => exact .inl ⟨inner, (List.cons.inj h).2⟩

namespace World

variable {w w' : World} {es : List Event} {k i : Nat} {calls : List Call}

/-- The thread `k`, whose unfinished calls were `calls`, has started a poll of the task `i` that is
not over. -/
def Polling (w : World) (k i : Nat) (calls : List Call) : Prop :=
  ∃ s inner j stage, w.threads[k]? = some ⟨s, inner ++ .poll j stage :: calls⟩ ∧ j.number = i

/-- **A poll stays a poll until it is over.**  Then its thread has the calls that it had before, and
only that thread can end it. -/
theorem Polling.step (hp : w.Polling k i calls) (hn : Numbered w.nextTask w.tracked es)
    {l : Nat} {a : Act} {note : Note} (h : w.step l a = some (w', note)) :
    (w'.Polling k i calls ∧ note.over? ≠ some i) ∨
      (l = k ∧ note.over? = some i ∧ ∃ s, w'.threads[k]? = some ⟨s, calls⟩) := by
  obtain ⟨s₀, inner, j₀, stage, hth, rfl⟩ := hp
  rcases step_cases h with ⟨rfl, rfl⟩ | hmoved
  · have hlt : k < w.threads.length := (List.getElem?_eq_some_iff.mp hth).1
    refine .inl ⟨⟨s₀, inner, j₀, stage, ?_, rfl⟩, by simp [Note.over?]⟩
    show (w.threads ++ [.fresh])[k]? = _
    rw [List.getElem?_append_left hlt]
    exact hth
  cases hmoved with
  | @intro Γ s c j m number hk hm hthreads htasks =>
  have hnumbered := hn.perm (Γ.tracked_perm hthreads htasks)
  -- a poll of the surroundings is not ended by this move, because its task is not that of the move
  have hothers (hmem : ⟨j₀, some stage⟩ ∈ Γ.tracked) : m.note.over? ≠ some j₀.number := by
    intro hover
    exact hnumbered.number_ne (hm.mem_of_note (Note.task?_of_over hover)) hmem rfl
  rw [hthreads] at hth
  by_cases hkl : k = Γ.before.length
  · subst hkl
    rw [Γ.getElem?_world] at hth
    have hcalls : c.toList ++ Γ.calls = inner ++ .poll j₀ stage :: calls :=
      (Thread.mk.inj (Option.some.inj hth)).2
    rcases around_or_innermost hcalls with ⟨inner', haround⟩ | ⟨rfl, rfl⟩
    · -- the move is one of the future
      have hpoll : .poll j₀ stage ∈ Γ.calls := by simp [haround]
      refine .inl ⟨⟨m.slot, m.call.toList ++ inner', j₀, stage, ?_, rfl⟩,
        hothers (Γ.mem_tracked_of_calls hpoll)⟩
      rw [Γ.getElem?_world, haround, List.append_assoc]
    · -- the move is one of the poll itself
      rcases hm.polls with ⟨j', stage', hcall, hnumber, hover⟩ | ⟨hcall, hover⟩
      · refine .inl ⟨⟨m.slot, [], j', stage', ?_, hnumber⟩, by simp [hover]⟩
        rw [Γ.getElem?_world, hcall]
        rfl
      · refine .inr ⟨hk.symm, hover, m.slot, ?_⟩
        rw [Γ.getElem?_world, hcall]
        rfl
  · have hpoll : ⟨j₀, some stage⟩ ∈ Γ.tracked := Γ.mem_tracked_of_ne hkl hth (by simp)
    refine .inl ⟨⟨s₀, inner, j₀, stage, ?_, rfl⟩, hothers hpoll⟩
    rw [Γ.getElem?_world_of_ne hkl] at hth ⊢
    exact hth

theorem Polling.run {es' : List Event} (h : Run start es w) (hp : w.Polling k i calls)
    (h' : Run w es' w') (hover : ∀ e ∈ es', e.note.over? ≠ some i) : w'.Polling k i calls := by
  induction h' with
  | nil => exact hp
  | @cons es' v v' l a note h' hs ih =>
    have hv : v.Polling k i calls := ih fun e he => hover e (List.mem_cons_of_mem _ he)
    have hn := (h.trans h').recorded.numbered
    rcases hv.step hn hs with ⟨hpolling, -⟩ | ⟨-, hended, -⟩
    · exact hpolling
    · exact absurd hended (hover _ (List.mem_cons_self ..))

end World

/-! ## Polls that start -/

theorem takeJob_number {i : Nat} {j : Job} {l rest : List Job}
    (h : takeJob i l = some (j, rest)) : j.number = i := by
  induction l generalizing rest with
  | nil => exact absurd h (by simp [takeJob])
  | cons d l ih =>
    rw [takeJob] at h
    split at h
    · next hd =>
      obtain ⟨rfl, -⟩ := Prod.mk.inj (Option.some.inj h)
      exact hd
    · obtain ⟨⟨j', rest'⟩, ht, he⟩ := Option.map_eq_some_iff.mp h
      obtain ⟨rfl, -⟩ := Prod.mk.inj he
      exact ih ht

theorem exists_takeJob {i : Nat} {l : List Job} (h : ∃ j ∈ l, j.number = i) :
    ∃ j rest, takeJob i l = some (j, rest) := by
  induction l with
  | nil => exact absurd h (by simp)
  | cons d l ih =>
    rw [takeJob]
    by_cases hd : d.number = i
    · exact ⟨d, l, if_pos hd⟩
    · obtain ⟨j, hj, hnumber⟩ := h
      have hmem : j ∈ l := by
        rcases List.mem_cons.mp hj with rfl | hmem
        · exact absurd hnumber hd
        · exact hmem
      obtain ⟨j', rest, ht⟩ := ih ⟨j, hmem, hnumber⟩
      exact ⟨j', d :: rest, by rw [if_neg hd, ht]; rfl⟩

namespace World

variable {w w' : World} {es : List Event} {k i : Nat} {th : Thread}

/-- A thread that starts a poll is busy with it, or the poll is over and the thread has the calls
that it had before. -/
theorem polling_of_start (hth : w.threads[k]? = some th) {note : Note}
    (h : w.step k (.perform (.poll i)) = some (w', note)) :
    (w'.Polling k i th.calls ∧ note.over? ≠ some i) ∨
      (note.over? = some i ∧ ∃ s, w'.threads[k]? = some ⟨s, th.calls⟩) := by
  have hk : k < w.threads.length := (List.getElem?_eq_some_iff.mp hth).1
  have hfree : th.isFree = true := by
    by_contra hbusy
    simp [step, hth, hbusy] at h
  have htask : ∃ j tasks, takeJob i w.tasks = some (j, tasks) := by
    cases ht : takeJob i w.tasks with
    | none => simp [step, hth, hfree, perform, ht] at h
    | some r => exact ⟨r.1, r.2, rfl⟩
  obtain ⟨j, tasks, ht⟩ := htask
  rw [step_poll hth hfree ht] at h
  obtain ⟨rfl, rfl⟩ := Prod.mk.inj (Option.some.inj h)
  have hthread : ({ w with tasks := tasks }.after k th.calls
      (startPoll w.pool th.slot j)).threads[k]? =
        some ⟨(startPoll w.pool th.slot j).slot,
          (startPoll w.pool th.slot j).call.toList ++ th.calls⟩ := getElem?_after hk
  obtain rfl := takeJob_number ht
  rcases (pollStart w.pool th.slot j).polls with
    ⟨j', stage, hcall, hnumber, hover⟩ | ⟨hcall, hover⟩
  · rw [hcall] at hthread
    exact .inl ⟨⟨_, [], j', stage, hthread, hnumber⟩, by simp [hover]⟩
  · rw [hcall] at hthread
    exact .inr ⟨hover, _, hthread⟩

end World

/-! ## The container of a task -/

section Moves

variable {p : Pool} {s : Slot} {m : Move}

theorem PollStage.Access.container {j : Job} {stage : PollStage}
    (h : PollStage.Access j p s stage m) :
    ∀ t ∈ m.tracked, t.number = j.number ∧ t.job.scope.container = j.scope.container := by
  intro t ht
  cases h with
  | acquired e =>
    obtain rfl := List.mem_singleton.mp ht
    obtain ⟨rfl, -⟩ | ⟨n, -, -, -, rfl⟩ := Scope.attach_cases e
    · exact ⟨rfl, rfl⟩
    · exact ⟨rfl, rfl⟩
  | released =>
    obtain rfl := List.mem_singleton.mp ht
    obtain ⟨hr, -⟩ | ⟨n, -, -, hr⟩ := Scope.release_cases j.scope p
    · exact ⟨rfl, by rw [hr]⟩
    · exact ⟨rfl, by rw [hr]⟩
  | _ =>
    obtain rfl := List.mem_singleton.mp ht
    exact ⟨rfl, rfl⟩

theorem PollStart.container {j : Job} (h : PollStart p s j m) :
    ∀ t ∈ m.tracked, t.number = j.number ∧ t.job.scope.container = j.scope.container := by
  intro t ht
  cases h with
  | failed e =>
    obtain rfl := List.mem_singleton.mp ht
    exact ⟨rfl, rfl⟩
  | chosen e =>
    obtain rfl := List.mem_singleton.mp ht
    exact ⟨rfl, rfl⟩

/-- A move leaves its tasks in their containers, and gives no old number to a new task. -/
theorem Moves.container {number number' : Nat} {c : Option Call} {j : Option Job}
    (hm : Moves p s number c j m number') {i : Nat} {place : Handle} (hi : i < number)
    (h : ∀ t ∈ tracked c.toList j.toList, t.number = i → t.job.scope.container = place) :
    i < number' ∧ ∀ t ∈ m.tracked, t.number = i → t.job.scope.container = place := by
  cases hm with
  | run h =>
    rw [h.tracked.1]
    exact ⟨hi, fun t ht => absurd ht (by simp)⟩
  | @poll j stage m ha =>
    refine ⟨hi, fun t ht hnumber => ?_⟩
    obtain ⟨hsame, hcontainer⟩ := ha.container t ht
    exact hcontainer.trans (h ⟨j, stage⟩ (List.mem_singleton_self _) (hsame.symm.trans hnumber))
  | finish hc =>
    cases hc with
    | run hending =>
      exact ⟨hi, fun t ht => absurd ht (by simp [Move.tracked, tracked, Call.tracked?])⟩
    | @poll j visit =>
      refine ⟨hi, fun t ht hnumber => ?_⟩
      obtain rfl := List.mem_singleton.mp ht
      exact h ⟨j, some (.inside visit)⟩ (List.mem_singleton_self _) hnumber
  | request hq => exact ⟨hi, fun t ht => absurd ht (by simp [Move.tracked, tracked])⟩
  | scope target =>
    refine ⟨Nat.lt_succ_of_lt hi, fun t ht hnumber => ?_⟩
    obtain rfl := List.mem_singleton.mp ht
    exact absurd hnumber (Nat.ne_of_gt hi)
  | drop j => exact ⟨hi, fun t ht => absurd ht (by simp [Move.tracked, tracked])⟩
  | startRun hr =>
    rw [hr.tracked.1]
    exact ⟨hi, fun t ht => absurd ht (by simp)⟩
  | @startPoll j m hs =>
    refine ⟨hi, fun t ht hnumber => ?_⟩
    obtain ⟨hsame, hcontainer⟩ := hs.container t ht
    exact hcontainer.trans (h ⟨j, none⟩ (List.mem_singleton_self _) (hsame.symm.trans hnumber))

end Moves

namespace World

variable {w w' : World} {es : List Event} {i : Nat} {place : Handle}

/-- The task `i` is inside a container, or is dropped. -/
structure Houses (w : World) (i : Nat) (place : Handle) : Prop where
  used : i < w.nextTask
  container : ∀ t ∈ w.tracked, t.number = i → t.job.scope.container = place

theorem Recorded.houses (hr : w.Recorded es) {j : Job} (hj : j ∈ w.jobs) :
    w.Houses j.number j.scope.container := by
  obtain ⟨t, ht, rfl⟩ := mem_tracked_of_mem_jobs hj
  refine ⟨hr.numbered.below t ht, fun t' ht' hnumber => ?_⟩
  obtain rfl : t' = t := List.inj_on_of_nodup_map hr.numbered.distinct ht' ht hnumber
  rfl

/-- **No step takes a task out of its container.** -/
theorem Houses.step (hh : w.Houses i place) {k : Nat} {a : Act} {note : Note}
    (h : w.step k a = some (w', note)) : w'.Houses i place := by
  rcases tracked_cases h with
    ⟨htracked, hnext, -⟩ | ⟨s, c, j, m, calls, rest, hm, -, -, hperm, hperm'⟩
  · exact ⟨hnext ▸ hh.used, htracked ▸ hh.container⟩
  · obtain ⟨hused, hown⟩ := hm.container hh.used fun t ht =>
      hh.container t (hperm.mem_iff.mpr (List.mem_append_left _ ht))
    refine ⟨hused, fun t ht => ?_⟩
    rcases List.mem_append.mp (hperm'.mem_iff.mp ht) with ht | ht
    · exact hown t ht
    · exact hh.container t (hperm.mem_iff.mpr (List.mem_append_right _ ht))

theorem Houses.run (hh : w.Houses i place) (h : Run w es w') : w'.Houses i place :=
  h.invariant (P := fun v => v.Houses i place) hh fun hv hs => hv.step hs

theorem Houses.of_call (hh : w.Houses i place) {th : Thread} (hth : th ∈ w.threads) {j : Job}
    {stage : PollStage} (hj : .poll j stage ∈ th.calls) (hnumber : j.number = i) :
    j.scope.container = place := by
  have hmem : .poll j stage ∈ w.calls := List.mem_flatMap.mpr ⟨th, hth, hj⟩
  have htracked : (⟨j, some stage⟩ : Tracked) ∈ w.tracked :=
    List.mem_append_right _ (List.mem_filterMap.mpr ⟨_, hmem, rfl⟩)
  exact hh.container _ htracked hnumber

/-- A future is executed by a thread that is bound to the container of its task. -/
theorem Houses.current (hh : w.Houses i place) (hw : w.Sound) {th : Thread} (hth : th ∈ w.threads)
    {j : Job} {visit : Scope.Visit} {calls : List Call}
    (hcalls : th.calls = .poll j (.inside visit) :: calls) (hnumber : j.number = i) :
    th.slot.current = place := by
  rw [(hw.threads th hth).current_of_poll hcalls]
  exact hh.of_call hth (hcalls ▸ List.mem_cons_self ..) hnumber

/-- A step in which a future starts to be executed leaves a thread with that future. -/
theorem exists_thread_of_polled {k : Nat} {a : Act} {visit : Scope.Visit}
    (h : w.step k a = some (w', .polled i place visit)) :
    ∃ s j calls, w'.threads[k]? = some ⟨s, .poll j (.inside visit) :: calls⟩ ∧ j.number = i ∧
      j.scope.container = place := by
  rcases step_cases h with ⟨-, hnote⟩ | hmoved
  · exact absurd hnote (by simp)
  · generalize hnote : Note.polled i place visit = note at hmoved
    cases hmoved with
    | @intro Γ s c j m number hk hm hthreads htasks =>
    have htrue := hm.truthful
    rw [Move.Truthful, ← hnote] at htrue
    obtain ⟨j', hnumber, hcontainer, hcall⟩ := htrue
    refine ⟨m.slot, j', Γ.calls, ?_, hnumber, hcontainer⟩
    rw [← hk, Γ.getElem?_world, hcall]
    rfl

/-- A thread that is bound to a container is refused a task of another one, and nothing changes. -/
theorem Houses.step_poll_refused {n : Nat} (hh : w.Houses i (.managed n)) {k : Nat} {th : Thread}
    (hth : w.threads[k]? = some th) (hfree : th.isFree = true) {m : Nat}
    (hcur : th.slot.current = .managed m) (hmn : m ≠ n) (hi : ∃ j ∈ w.tasks, j.number = i) :
    ∃ w', w.step k (.perform (.poll i)) = some (w', .failed i .notInRoot) ∧
      w'.pool = w.pool ∧ w'.threads = w.threads ∧ w'.tasks.Perm w.tasks := by
  obtain ⟨j, rest, ht⟩ := exists_takeJob hi
  have hperm := takeJob_perm ht
  obtain rfl := takeJob_number ht
  have htracked : (⟨j, none⟩ : Tracked) ∈ w.tracked :=
    List.mem_append_left _ (List.mem_map.mpr ⟨j, hperm.mem_iff.mpr (List.mem_cons_self ..), rfl⟩)
  have hcontainer : j.scope.container = .managed n := hh.container _ htracked rfl
  have hchoose : j.scope.choose th.slot.current = .error .notInRoot := by
    simp [Scope.choose, hcontainer, hcur, hmn, Handle.isRoot]
  have hstep := step_poll hth hfree ht
  rw [startPoll, hchoose] at hstep
  refine ⟨_, hstep, rfl, ?_, hperm.symm⟩
  -- the thread is put back as it was
  obtain ⟨hk, rfl⟩ := List.getElem?_eq_some_iff.mp hth
  exact List.set_getElem_self hk

theorem Sound.eq_of_calls (hw : w.Sound) (hw' : w'.Sound) {k : Nat} {th : Thread}
    (hth : w.threads[k]? = some th) {s : Slot} (h : w'.threads[k]? = some ⟨s, th.calls⟩) :
    w'.threads[k]? = some th := by
  have hslot : th.slot = .bound (binding th.calls) :=
    (hw.threads th (List.mem_of_getElem? hth)).slot_eq
  have hslot' : s = .bound (binding th.calls) :=
    (hw'.threads _ (List.mem_of_getElem? h)).slot_eq
  rw [h, hslot', ← hslot]

end World

/-- **Each poll binds its thread to the container of the task, and no longer than it lasts.**

After any steps of any threads take a task, whatever its container, and let there be any further
steps.

* Whoever starts to execute the future of the task is bound to the container of the task, and so is
  whoever is executing it.
* A thread that is bound to another container than root and the one of the task is refused if it
  polls the task.  The future is not executed, and neither threads nor containers change.
* A thread that polls the task is busy with that poll, whatever it and other threads do, until a
  step of its own ends the poll: the future was pending, was ready or panicked, or the thread was
  refused.  After that step the thread has the binding and the calls that it had before. -/
theorem poll_binds_exactly {es es' : List Event} {w v : World} (h : Run World.start es w) {j : Job}
    (hj : j ∈ w.jobs) (h' : Run w es' v) :
    (∀ k a v' place visit, v.step k a = some (v', .polled j.number place visit) →
      place = j.scope.container ∧
        ∃ th, v'.threads[k]? = some th ∧ th.slot.current = j.scope.container) ∧
    (∀ th ∈ v.threads, ∀ i visit calls, th.calls = .poll i (.inside visit) :: calls →
      i.number = j.number → th.slot.current = j.scope.container) ∧
    (∀ k th n m, v.threads[k]? = some th → th.isFree = true → j.scope.container = .managed n →
      th.slot.current = .managed m → m ≠ n → (∃ i ∈ v.tasks, i.number = j.number) →
        ∃ v', v.step k (.perform (.poll j.number)) = some (v', .failed j.number .notInRoot) ∧
          v'.pool = v.pool ∧ v'.threads = v.threads ∧ v'.tasks.Perm v.tasks) ∧
    (∀ k th v' note, v.threads[k]? = some th →
      v.step k (.perform (.poll j.number)) = some (v', note) →
        (note.over? = some j.number → v'.threads[k]? = some th) ∧
        (note.over? ≠ some j.number → ∀ es'' u, Run v' es'' u →
          (∀ e ∈ es'', e.note.over? ≠ some j.number) →
            u.Polling k j.number th.calls ∧
              ∀ l a u' note', u.step l a = some (u', note') → note'.over? = some j.number →
                l = k ∧ u'.threads[k]? = some th)) := by
  have hv := h.trans h'
  have hsound := hv.sound World.sound_start
  have hhouses : v.Houses j.number j.scope.container :=
    (h.recorded.houses hj).run h'
  refine ⟨fun k a v' place visit hs => ?_, fun th hth i visit calls hcalls hi => ?_,
    fun k th n m hth hfree hn hcur hmn hi => ?_, fun k th v' note hth hs => ?_⟩
  · have hhouses' := hhouses.step hs
    obtain ⟨s, i, calls, hthread, hnumber, hplace⟩ := World.exists_thread_of_polled hs
    have hmem := List.mem_of_getElem? hthread
    refine ⟨?_, _, hthread, hhouses'.current (hsound.step hs) hmem rfl hnumber⟩
    exact hplace.symm.trans (hhouses'.of_call hmem (List.mem_cons_self ..) hnumber)
  · exact hhouses.current hsound hth hcalls hi
  · exact (hn ▸ hhouses).step_poll_refused hth hfree hcur hmn hi
  · have hsound' := hsound.step hs
    rcases World.polling_of_start hth hs with ⟨hpolling, hgoes⟩ | ⟨hover, s, hthread⟩
    · refine ⟨fun hover => absurd hover hgoes, fun _ es'' u hu hquiet => ?_⟩
      have hv' := hv.cons hs
      have hpolling' := hpolling.run hv' hu hquiet
      refine ⟨hpolling', fun l a u' note' hs' hover => ?_⟩
      have hnumbered := (hv'.trans hu).recorded.numbered
      rcases hpolling'.step hnumbered hs' with ⟨-, hgoes'⟩ | ⟨hl, -, s, hthread⟩
      · exact absurd hover hgoes'
      · exact ⟨hl, hsound.eq_of_calls ((hu.sound hsound').step hs') hth hthread⟩
    · exact ⟨fun _ => hsound.eq_of_calls hsound' hth hthread, fun hgoes => absurd hover hgoes⟩

/-- One thread makes two containers and two tasks, one on root and one inside the container 0. -/
def twoTasks : List (Nat × Act) :=
  [(0, .perform (.create Config.empty .idle)), (0, .perform (.create Config.empty .idle)),
   (0, .perform (.scope .root)), (0, .perform (.scope (.managed 0)))]

/-- It runs into the container 1. -/
def intoAnother : List (Nat × Act) :=
  [(0, .perform (.run (.managed 1))), (0, .next), (0, .next), (0, .next)]

/-- From there the thread polls the task on root, whose future panics. -/
theorem replay_pollFromAnother : ∃ es w es' v v' es'' u u',
    World.start.replay twoTasks = some (es, w) ∧
    w.tasks = [⟨1, ⟨.managed 0, false⟩⟩, ⟨0, ⟨.root, false⟩⟩] ∧
    w.replay intoAnother = some (es', v) ∧ v.tasks = w.tasks ∧
    v.threads = [⟨.bound (.managed 1), [.run (.managed 1) (.inside (.attach 1))]⟩] ∧
    v.step 0 (.perform (.poll 0)) = some (v', .quiet) ∧
    v'.replay [(0, .next), (0, .finish .panicked)] = some (es'', u) ∧
    es''.map Event.note = [.quiet, .polled 0 .root (.stepOut (.managed 1))] ∧
    u.step 0 .next = some (u', .ended 0 .panicked) :=
  ⟨_, _, _, _, _, _, _, _, rfl, rfl, rfl, rfl, rfl, rfl, rfl, rfl, rfl⟩

/-- The future panics in root, and the poll leaves the thread in the container 1, where it is
refused the other task. -/
theorem poll_binds_exactly_fromAnother : ∃ es w es' v th, Run World.start es w ∧ Run w es' v ∧
    v.threads[0]? = some th ∧ th.slot.current = .managed 1 ∧
    (∃ v', v.step 0 (.perform (.poll 1)) = some (v', .failed 1 .notInRoot) ∧
      v'.threads = v.threads) ∧
    ∃ v' es'' u u', v.step 0 (.perform (.poll 0)) = some (v', .quiet) ∧ Run v' es'' u ∧
      (∃ e ∈ es'', e.note = .polled 0 .root (.stepOut (.managed 1))) ∧
      u.step 0 .next = some (u', .ended 0 .panicked) ∧ u'.threads[0]? = some th := by
  obtain ⟨es, w, es', v, v', es'', u, u', hw, hjobs, hv, htasks, hthreads, hstart, hu, hnotes,
    hend⟩ := replay_pollFromAnother
  have hrun := Run.of_replay hw
  have hrun' := Run.of_replay hv
  have hrun'' := Run.of_replay hu
  have hth : v.threads[0]? =
      some ⟨.bound (.managed 1), [.run (.managed 1) (.inside (.attach 1))]⟩ := by
    rw [hthreads]
    rfl
  have hroot : (⟨0, ⟨.root, false⟩⟩ : Job) ∈ w.jobs :=
    List.mem_append_left _ (by simp [hjobs])
  have hinside : (⟨1, ⟨.managed 0, false⟩⟩ : Job) ∈ w.jobs :=
    List.mem_append_left _ (by simp [hjobs])
  obtain ⟨-, -, hrefused, -⟩ := poll_binds_exactly hrun hinside hrun'
  obtain ⟨-, -, -, hpoll⟩ := poll_binds_exactly hrun hroot hrun'
  have hquiet : ∀ e ∈ es'', e.note.over? ≠ some 0 := by
    intro e he
    have hmem : e.note ∈ es''.map Event.note := List.mem_map_of_mem he
    rw [hnotes] at hmem
    rcases List.mem_cons.mp hmem with h | hmem
    · simp [h, Note.over?]
    · simp [List.mem_singleton.mp hmem, Note.over?]
  have hpolled : .polled 0 .root (.stepOut (.managed 1)) ∈ es''.map Event.note := by simp [hnotes]
  obtain ⟨v'', hfailed, -, hsame, -⟩ := hrefused 0 _ 0 1 hth rfl rfl rfl (by decide)
    ⟨⟨1, ⟨.managed 0, false⟩⟩, by simp [htasks, hjobs], rfl⟩
  obtain ⟨-, hgoes⟩ := hpoll 0 _ v' .quiet hth hstart
  obtain ⟨-, hleft⟩ := hgoes (by simp [Note.over?]) es'' u hrun'' hquiet
  exact ⟨es, w, es', v, _, hrun, hrun', hth, rfl, ⟨v'', hfailed, hsame⟩, v', es'', u, u', hstart,
    hrun'', List.mem_map.mp hpolled, hend, (hleft 0 .next u' _ hend rfl).2⟩

end ResourceContainers.Interleaving
