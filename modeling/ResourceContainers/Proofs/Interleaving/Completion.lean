import ResourceContainers.Proofs.Interleaving.TaskProtection

/-!
# What a finished task keeps

A task that is finished needs its container no longer, and the place to give an attachment back is
the poll that says so.  A poll has several ways to say so, and each would have to see to the
attachment, which may have been made by an earlier poll, on another thread and in another container.

Only one of them does: the poll of a thread that came from root.  A thread that is in the container
already finds the task ready and leaves it what it has, and a thread that is in another container is
refused and does the same.  So whoever keeps a finished task may keep its container with it.

* `lastSeen`, `lastVisit`: the last that was seen of a task, and how its future was last executed.
* `owes`: what the steps say about the attachment of a task.
* `Tracked.Accounted`: the task has an attachment exactly if the steps say so.
* `Run.forall_tracked`: what every move keeps of its own tasks holds of all tasks.
* `held_iff_owes`: the main statement.
* `finishedInside_attached`: two tasks that are finished and keep their containers.
-/

namespace ResourceContainers.Interleaving

/-! ## What steps say about an attachment -/

/-- The last that was seen of a task. -/
def lastSeen (i : Nat) (es : List Event) : Option Note :=
  (es.map Event.note).find? fun note => note.task? == some i

/-- How the future of a task was executed the last time. -/
def lastVisit (i : Nat) : List Event → Option Scope.Visit
  | [] => none
  | e :: es =>
    match e.note with
    | .polled k _ visit => if k = i then some visit else lastVisit i es
    | _ => lastVisit i es

/-- Some poll from root executed the future of the task, and no poll from root has found it ready
since. -/
def owes (i : Nat) : List Event → Bool
  | [] => false
  | e :: es =>
    match e.note with
    | .polled k _ .bound => k == i || owes i es
    | .ended k .done => !(k == i && lastVisit i es == some .bound) && owes i es
    | _ => owes i es

section Cons

variable {i : Nat} {e : Event} {es : List Event}

theorem lastSeen_cons_self (h : e.note.task? = some i) : lastSeen i (e :: es) = some e.note := by
  simp [lastSeen, h]

theorem lastSeen_cons_other (h : e.note.task? ≠ some i) :
    lastSeen i (e :: es) = lastSeen i es := by
  simp [lastSeen, h]

theorem lastVisit_cons_other (h : e.note.task? ≠ some i) :
    lastVisit i (e :: es) = lastVisit i es := by
  rw [lastVisit]
  split
  · next k place visit hnote =>
    have hk : k ≠ i := by
      rintro rfl
      exact h (by rw [hnote]; rfl)
    rw [if_neg hk]
  · rfl

theorem owes_cons_other (h : e.note.task? ≠ some i) : owes i (e :: es) = owes i es := by
  have hne {k : Nat} (hk : e.note.task? = some k) : (k == i) = false := by
    refine beq_false_of_ne ?_
    rintro rfl
    exact h hk
  rw [owes]
  split
  · next k place hnote => rw [hne (by rw [hnote]; rfl), Bool.false_or]
  · next k hnote => rw [hne (by rw [hnote]; rfl), Bool.false_and, Bool.not_false, Bool.true_and]
  · rfl

/-- A poll that goes another way than from root changes nothing. -/
theorem owes_cons_polled {visit : Scope.Visit} {h : Handle} (hnote : e.note = .polled i h visit)
    (hvisit : visit ≠ .bound) : owes i (e :: es) = owes i es := by
  rw [owes, hnote]
  cases visit with
  | direct => rfl
  | stepOut back => rfl
  | bound => exact absurd rfl hvisit

/-- A poll that is over changes nothing, unless it came from root and found the task ready. -/
theorem owes_cons_ended {visit : Scope.Visit} {ending : Ending} (hnote : e.note = .ended i ending)
    (hlast : lastVisit i es = some visit) (hleft : visit = .bound → ending ≠ .done) :
    owes i (e :: es) = owes i es := by
  rw [owes, hnote]
  cases ending with
  | done =>
    have hvisit : visit ≠ .bound := fun hbound => hleft hbound rfl
    simp [hlast, hvisit]
  | pending => rfl
  | panicked => rfl

theorem exists_of_owes (h : owes i es = true) : ∃ e ∈ es, e.note.task? = some i := by
  induction es with
  | nil => exact absurd h (by simp [owes])
  | cons e es ih =>
    by_cases he : e.note.task? = some i
    · exact ⟨e, List.mem_cons_self .., he⟩
    · rw [owes_cons_other he] at h
      obtain ⟨e', he', hi⟩ := ih h
      exact ⟨e', List.mem_cons_of_mem e he', hi⟩

/-- A poll from root that finds the task ready settles whatever was owed. -/
theorem owes_of_readyFromRoot (hlast : lastSeen i es = some (.ended i .done))
    (hvisit : lastVisit i es = some .bound) : owes i es = false := by
  induction es with
  | nil => rfl
  | cons e es ih =>
    by_cases he : e.note.task? = some i
    · rw [lastSeen_cons_self he] at hlast
      have hnote : e.note = .ended i .done := Option.some.inj hlast
      rw [lastVisit, hnote] at hvisit
      rw [owes, hnote]
      simp [show lastVisit i es = some .bound from hvisit]
    · rw [lastSeen_cons_other he] at hlast
      rw [lastVisit_cons_other he] at hvisit
      rw [owes_cons_other he]
      exact ih hlast hvisit

theorem exists_of_lastSeen {note : Note} (h : lastSeen i es = some note) :
    ∃ e ∈ es, e.note.task? = some i := by
  have hmem : note ∈ es.map Event.note := List.mem_of_find?_eq_some h
  have htask : note.task? = some i := by simpa using List.find?_some h
  obtain ⟨e, he, rfl⟩ := List.mem_map.mp hmem
  exact ⟨e, he, htask⟩

end Cons

/-! ## Tasks and their attachments -/

/-- How the future is executed at a stage of a poll, or was executed when it has passed that. -/
def PollStage.visit? : PollStage → Option Scope.Visit
  | .inside visit | .leaving visit _ => some visit
  | .unbound => some .bound
  | .going _ | .acquired => none

/-- The steps say of a task whether it has an attachment, how the poll that is under way executes
its future, and that it has none after it was refused its container. -/
structure Tracked.Accounted (es : List Event) (t : Tracked) : Prop where
  attached_iff : t.job.scope.attached = true ↔
    owes t.number es = true ∨ t.stage = some .acquired
  visit : ∀ visit, t.stage.bind PollStage.visit? = some visit →
    lastVisit t.number es = some visit
  refused : lastSeen t.number es = some (.failed t.number .notRunning) → owes t.number es = false

namespace Tracked

variable {es : List Event} {e : Event} {t t' : Tracked}

/-- Unless a poll has just made the attachment, a task has one exactly if the steps say so. -/
theorem Accounted.attached_iff_owes (h : t.Accounted es) (hstage : t.stage ≠ some .acquired) :
    t.job.scope.attached = true ↔ owes t.number es = true := by
  rw [h.attached_iff]
  exact or_iff_left hstage

/-- A step in which another task is seen, or none, while the task goes on to a stage that asks for
nothing more. -/
theorem Accounted.keep (h : t.Accounted es) (hnote : e.note.task? ≠ some t.number)
    (hnumber : t'.number = t.number)
    (hattached : t'.job.scope.attached = t.job.scope.attached)
    (hstage : t'.stage = some .acquired ↔ t.stage = some .acquired)
    (hvisit : ∀ visit, t'.stage.bind PollStage.visit? = some visit →
      t.stage.bind PollStage.visit? = some visit) : t'.Accounted (e :: es) where
  attached_iff := by
    rw [hattached, hnumber, owes_cons_other hnote, hstage]
    exact h.attached_iff
  visit visit hv := by
    rw [hnumber, lastVisit_cons_other hnote]
    exact h.visit visit (hvisit visit hv)
  refused hlast := by
    rw [hnumber, lastSeen_cons_other hnote] at hlast
    rw [hnumber, owes_cons_other hnote]
    exact h.refused hlast

theorem accounted_of_idle (hstage : t.stage = none) (hseen : e.note.task? = some t.number)
    (hattached : t.job.scope.attached = true ↔ owes t.number (e :: es) = true)
    (hrefused : e.note = .failed t.number .notRunning → owes t.number (e :: es) = false) :
    t.Accounted (e :: es) where
  attached_iff := by rw [hattached, hstage]; simp
  visit visit hv := absurd hv (by simp [hstage])
  refused hlast := by
    rw [lastSeen_cons_self hseen] at hlast
    exact hrefused (Option.some.inj hlast)

end Tracked

/-! ## Moves -/

section Moves

variable {p : Pool} {s : Slot} {m : Move} {es : List Event} {k : Nat} {a : Act}

theorem PollStage.Access.accounted {j : Job} {stage : PollStage} {outer : Handle}
    (h : PollStage.Access j p s stage m) (hf : (Call.poll j stage).Fits outer)
    (ht : Tracked.Accounted es ⟨j, some stage⟩) :
    ∀ t ∈ m.tracked, t.Accounted (⟨k, a, m.note⟩ :: es) := by
  intro t hmem
  cases h with
  | @failed why e =>
    obtain rfl := List.mem_singleton.mp hmem
    have hiff : j.scope.attached = true ↔ owes j.number es = true :=
      ht.attached_iff_owes (by simp)
    refine Tracked.accounted_of_idle rfl rfl hiff fun _ => ?_
    obtain ⟨n, -, hunattached, -⟩ := Scope.acquire_of_attach_eq_error e
    refine Bool.eq_false_iff.mpr fun howes => ?_
    rw [hiff.mpr howes] at hunattached
    exact absurd hunattached (by simp)
  | acquired e =>
    obtain rfl := List.mem_singleton.mp hmem
    have hattached := (Scope.attached_of_attach hf.2 e).2
    have hunseen : Tracked.Accounted (⟨k, a, .quiet⟩ :: es) ⟨j, some (.going .bound)⟩ :=
      ht.keep (by simp [Note.task?]) rfl rfl Iff.rfl fun _ hv => hv
    exact ⟨⟨fun _ => .inr rfl, fun _ => hattached⟩, by simp [PollStage.visit?], hunseen.refused⟩
  | @polled visit hvisit =>
    obtain rfl := List.mem_singleton.mp hmem
    have howes : owes j.number (⟨k, a, .polled j.number j.scope.container visit⟩ :: es) =
        owes j.number es := owes_cons_polled rfl hvisit
    refine ⟨?_, fun visit' hv => ?_, fun hlast => ?_⟩
    · have hiff : j.scope.attached = true ↔ owes j.number es = true :=
        ht.attached_iff_owes (by simp)
      show j.scope.attached = true ↔ owes j.number (_ :: es) = true ∨ _
      rw [howes, hiff]
      simp
    · obtain rfl : visit = visit' := by simpa [PollStage.visit?] using hv
      simp [lastVisit, Tracked.number]
    · rw [lastSeen_cons_self rfl] at hlast
      exact absurd (Option.some.inj hlast) (by simp)
  | bound =>
    obtain rfl := List.mem_singleton.mp hmem
    refine ⟨⟨fun _ => .inl (by simp [owes, Tracked.number]), fun _ => hf.2⟩, fun visit' hv => ?_,
      fun hlast => ?_⟩
    · obtain rfl : Scope.Visit.bound = visit' := by simpa [PollStage.visit?] using hv
      simp [lastVisit, Tracked.number]
    · rw [lastSeen_cons_self rfl] at hlast
      exact absurd (Option.some.inj hlast) (by simp)
  | @left visit ending hleft =>
    obtain rfl := List.mem_singleton.mp hmem
    have hlast : lastVisit j.number es = some visit := ht.visit visit rfl
    have howes : owes j.number (⟨k, a, .ended j.number ending⟩ :: es) = owes j.number es :=
      owes_cons_ended rfl hlast hleft
    refine Tracked.accounted_of_idle rfl rfl ?_ (by simp)
    show j.scope.attached = true ↔ owes j.number (_ :: es) = true
    rw [howes]
    exact ht.attached_iff_owes (by simp)
  | unbound =>
    obtain rfl := List.mem_singleton.mp hmem
    exact ht.keep (by simp [Note.task?]) rfl rfl (by simp) (by simp [PollStage.visit?])
  | released =>
    obtain rfl := List.mem_singleton.mp hmem
    have hlast : lastVisit j.number es = some .bound := ht.visit .bound rfl
    have hunattached : (j.scope.release p).1.attached = false := by
      obtain ⟨hr, hroot | hfree⟩ | ⟨n, -, -, hr⟩ := Scope.release_cases j.scope p
      · exact absurd hroot hf.1.2
      · rw [hr]; exact hfree
      · rw [hr]
    refine Tracked.accounted_of_idle rfl rfl ?_ (by simp)
    simp [owes, Tracked.number, hlast, hunattached]

theorem PollStart.accounted {j : Job} (h : PollStart p s j m)
    (ht : Tracked.Accounted es ⟨j, none⟩) :
    ∀ t ∈ m.tracked, t.Accounted (⟨k, a, m.note⟩ :: es) := by
  intro t hmem
  have hiff : j.scope.attached = true ↔ owes j.number es = true :=
    ht.attached_iff_owes (by simp)
  cases h with
  | failed e =>
    obtain rfl := List.mem_singleton.mp hmem
    obtain rfl := Scope.choose_eq_error e
    exact Tracked.accounted_of_idle rfl rfl hiff (by simp)
  | chosen e =>
    obtain rfl := List.mem_singleton.mp hmem
    exact ht.keep (by simp [Note.task?]) rfl rfl (by simp) (by simp [PollStage.visit?])

variable {number number' : Nat} {c : Option Call} {j : Option Job}

/-- **A move keeps the account of its tasks.** -/
theorem Moves.accounted {calls : List Call} (hm : Moves p s number c j m number')
    (hn : Nested (c.toList ++ calls)) (hes : ∀ e ∈ es, ∀ i, e.note.task? = some i → i < number)
    (ht : ∀ t ∈ tracked c.toList j.toList, t.Accounted es) :
    ∀ t ∈ m.tracked, t.Accounted (⟨k, a, m.note⟩ :: es) := by
  cases hm with
  | run h =>
    rw [h.tracked.1]
    exact fun t hmem => absurd hmem (by simp)
  | poll h => exact h.accounted hn.1 (ht _ (List.mem_singleton_self _))
  | finish h =>
    cases h with
    | run hending =>
      exact fun t hmem => absurd hmem (by simp [Move.tracked, tracked, Call.tracked?])
    | poll =>
      intro t hmem
      obtain rfl := List.mem_singleton.mp hmem
      exact (ht _ (List.mem_singleton_self _)).keep (by simp [Note.task?]) rfl rfl (by simp)
        (by simp [PollStage.visit?])
  | request h => exact fun t hmem => absurd hmem (by simp [Move.tracked, tracked])
  | scope h =>
    -- the number is new, so nothing was ever seen of it
    intro t hmem
    obtain rfl := List.mem_singleton.mp hmem
    have hfresh : ¬ ∃ e ∈ ((⟨k, a, .quiet⟩ : Event) :: es), e.note.task? = some number := by
      rintro ⟨e, he, htask⟩
      rcases List.mem_cons.mp he with rfl | he
      · exact absurd htask (by simp [Note.task?])
      · exact absurd (hes e he number htask) (Nat.lt_irrefl number)
    refine ⟨⟨fun hattached => absurd hattached (by simp [Scope.ofHandle]), ?_⟩,
      fun visit hv => absurd hv (by simp), fun hlast => absurd (exists_of_lastSeen hlast) hfresh⟩
    rintro (howes | hacquired)
    · exact absurd (exists_of_owes howes) hfresh
    · exact absurd hacquired (by simp)
  | drop j => exact fun t hmem => absurd hmem (by simp [Move.tracked, tracked])
  | startRun h =>
    rw [h.tracked.1]
    exact fun t hmem => absurd hmem (by simp)
  | startPoll h => exact h.accounted (ht _ (List.mem_singleton_self _))

end Moves

/-! ## Worlds -/

/-- **What every move keeps of its own tasks, and every step of all others, holds of all tasks**
after any steps of any threads. -/
theorem Run.forall_tracked {P : List Event → Tracked → Prop}
    (hown : ∀ {p : Pool} {s : Slot} {number number' : Nat} {c : Option Call} {j : Option Job}
      {m : Move} {calls : List Call} {es : List Event} {k : Nat} {a : Act},
      Moves p s number c j m number' → Nested (c.toList ++ calls) →
      (∀ e ∈ es, ∀ i, e.note.task? = some i → i < number) →
      (∀ t ∈ tracked c.toList j.toList, P es t) → ∀ t ∈ m.tracked, P (⟨k, a, m.note⟩ :: es) t)
    (hother : ∀ {es : List Event} {e : Event} {t : Tracked}, P es t →
      e.note.task? ≠ some t.number → P (e :: es) t)
    {w : World} {es : List Event} (h : Run World.start es w) : ∀ t ∈ w.tracked, P es t := by
  induction h with
  | nil =>
    intro t ht
    exact absurd ht (by simp [World.start, World.tracked, tracked, World.calls, Thread.fresh])
  | @cons es v v' k a note h hs ih =>
    have hnumbered := h.recorded.numbered
    intro t ht
    rcases World.tracked_cases hs with
      ⟨htracked, -, rfl⟩ | ⟨s, c, j, m, calls, rest, hm, rfl, hth, hperm, hperm'⟩
    · exact hother (ih t (htracked ▸ ht)) (by simp [Note.task?])
    · have hnested : Nested (c.toList ++ calls) :=
        ((h.sound World.sound_start).threads _ hth).nested
      have hold {t : Tracked} (ht : t ∈ tracked c.toList j.toList ++ rest) : P es t :=
        ih t (hperm.mem_iff.mpr ht)
      rcases List.mem_append.mp (hperm'.mem_iff.mp ht) with ht | ht
      · exact hown hm hnested hnumbered.seen (fun t ht => hold (List.mem_append_left _ ht)) t ht
      · -- a task of the rest is not the one that is seen
        refine hother (hold (List.mem_append_right _ ht)) fun hnote => ?_
        exact (hnumbered.perm hperm).number_ne (hm.mem_of_note hnote) ht rfl

theorem Run.accounted {w : World} {es : List Event} (h : Run World.start es w) :
    ∀ t ∈ w.tracked, t.Accounted es :=
  h.forall_tracked Moves.accounted fun ht hnote =>
    ht.keep hnote rfl rfl Iff.rfl fun _ hvisit => hvisit

/-- A task that nobody polls has an attachment exactly if the steps say so. -/
theorem Run.holds_iff_owes {w : World} {es : List Event} (h : Run World.start es w) {j : Job}
    {n : Nat} (hj : j ∈ w.tasks) (hn : j.scope.container = .managed n) :
    j.holds n = true ↔ owes j.number es = true := by
  have hmem : (⟨j, none⟩ : Tracked) ∈ w.tracked :=
    List.mem_append_left _ (List.mem_map.mpr ⟨j, hj, rfl⟩)
  have hholds : j.holds n = j.scope.attached := by simp [Job.holds, Scope.holds, hn]
  rw [hholds]
  exact (h.accounted _ hmem).attached_iff_owes (by simp)

/-- **What a task that is kept holds is what the steps say it owes**, after any steps of any
threads.  Take a task inside a managed container that nobody is polling, finished or not.

* It has an attachment exactly if some poll from root has executed its future and no poll from root
  has found it ready since.
* In particular it has none if a poll from root was the last to execute its future and found it
  ready, or if it was refused its container.
* If it has none, and no other task and no run has one, then its container can be destroyed.
* If it has one, whoever destroys the container is refused, also when the task is finished. -/
theorem held_iff_owes {es : List Event} {w : World} (h : Run World.start es w) {j : Job} {n : Nat}
    (hj : j ∈ w.tasks) (hn : j.scope.container = .managed n) :
    (j.holds n = true ↔ owes j.number es = true) ∧
    (lastSeen j.number es = some (.ended j.number .done) →
      lastVisit j.number es = some .bound → j.holds n = false) ∧
    (lastSeen j.number es = some (.failed j.number .notRunning) → j.holds n = false) ∧
    (j.holds n = false → (∀ i ∈ w.jobs, i.number ≠ j.number → i.holds n = false) →
      w.runsOn n = 0 → w.pool.phase (.managed n) = .running →
        ∃ p, w.pool.destroy (.managed n) = .ok p) ∧
    (j.holds n = true →
      w.pool.destroy (.managed n) = .error (.stillAttached (w.pool.attached (.managed n))) ∧
        0 < w.pool.attached (.managed n)) := by
  have hw := h.sound World.sound_start
  have hiff := h.holds_iff_owes hj hn
  have hfree (howes : owes j.number es = false) : j.holds n = false := by
    refine Bool.eq_false_iff.mpr fun hholds => ?_
    rw [hiff.mp hholds] at howes
    exact absurd howes (by simp)
  refine ⟨hiff, fun hlast hvisit => hfree (owes_of_readyFromRoot hlast hvisit), fun hlast => ?_,
    fun hnone hothers hruns hrunning => ?_, fun hholds => ?_⟩
  · have hmem : (⟨j, none⟩ : Tracked) ∈ w.tracked :=
      List.mem_append_left _ (List.mem_map.mpr ⟨j, hj, rfl⟩)
    exact hfree ((h.accounted _ hmem).refused hlast)
  · have hunattached : j.scope.attached = false := by
      simpa [Job.holds, Scope.holds, hn] using hnone
    exact h.recorded.destroy_of_unattached hw hj hunattached hothers hruns hrunning
  · have hpos := hw.attached_pos_of_job (List.mem_append_left _ hj) hholds
    exact ⟨Pool.destroy_of_attached (hw.settled.running hpos) hpos, hpos⟩

/-- One thread with three tasks, each in a container of its own, and each polled from root first.
The task in the container 0 is ready at once.  From inside the container 1 the thread finds the
second task ready, and is refused the third one. -/
def finishFromRootAndInside : List (Nat × Act) :=
  [(0, .perform (.create Config.empty .idle)), (0, .perform (.create Config.empty .idle)),
   (0, .perform (.create Config.empty .idle)), (0, .perform (.scope (.managed 0))),
   (0, .perform (.scope (.managed 1))), (0, .perform (.scope (.managed 2))),
   (0, .perform (.poll 0)), (0, .next), (0, .next), (0, .finish .done), (0, .next), (0, .next),
   (0, .perform (.poll 1)), (0, .next), (0, .next), (0, .finish .pending), (0, .next),
   (0, .perform (.poll 2)), (0, .next), (0, .next), (0, .finish .pending), (0, .next),
   (0, .perform (.run (.managed 1))), (0, .next), (0, .next), (0, .next),
   (0, .perform (.poll 1)), (0, .next), (0, .finish .done), (0, .next), (0, .perform (.poll 2)),
   (0, .finish .done), (0, .next), (0, .next)]

theorem replay_finishFromRootAndInside :
    (World.start.replay finishFromRootAndInside).map (fun r =>
      (r.2.tasks, r.2.calls, [0, 1, 2].map fun n => r.2.pool.phase (.managed n))) =
      some ([⟨2, ⟨.managed 2, true⟩⟩, ⟨1, ⟨.managed 1, true⟩⟩, ⟨0, ⟨.managed 0, false⟩⟩], [],
        [.running, .running, .running]) ∧
    (World.start.replay finishFromRootAndInside).map (fun r =>
      [0, 1, 2].map fun i => (lastSeen i r.1, lastVisit i r.1)) =
      some [(some (.ended 0 .done), some .bound), (some (.ended 1 .done), some .direct),
        (some (.failed 2 .notInRoot), some .bound)] := ⟨rfl, rfl⟩

/-- What the thread comes to. -/
theorem exists_finishFromRootAndInside : ∃ es w, Run World.start es w ∧
    w.tasks = [⟨2, ⟨.managed 2, true⟩⟩, ⟨1, ⟨.managed 1, true⟩⟩, ⟨0, ⟨.managed 0, false⟩⟩] ∧
    w.calls = [] ∧ (∀ n < 3, w.pool.phase (.managed n) = .running) ∧
    lastSeen 0 es = some (.ended 0 .done) ∧ lastVisit 0 es = some .bound ∧
    lastSeen 1 es = some (.ended 1 .done) ∧ lastSeen 2 es = some (.failed 2 .notInRoot) := by
  obtain ⟨hworld, hseen⟩ := replay_finishFromRootAndInside
  obtain ⟨⟨es, w⟩, hr, hview⟩ := Option.map_eq_some_iff.mp hworld
  rw [hr] at hseen
  simp only [Prod.mk.injEq, List.map_cons, List.map_nil, List.cons.injEq, Option.map_some,
    Option.some.injEq] at hview hseen
  obtain ⟨htasks, hcalls, hphase₀, hphase₁, hphase₂, -⟩ := hview
  obtain ⟨⟨hlast₀, hvisit₀⟩, ⟨hlast₁, -⟩, ⟨hlast₂, -⟩, -⟩ := hseen
  refine ⟨es, w, Run.of_replay hr, htasks, hcalls, fun n hn => ?_, hlast₀, hvisit₀, hlast₁, hlast₂⟩
  obtain rfl | rfl | rfl : n = 0 ∨ n = 1 ∨ n = 2 := by omega
  · exact hphase₀
  · exact hphase₁
  · exact hphase₂

/-- The first task has nothing left, and its container is destroyed. -/
theorem held_iff_owes_readyFromRoot : ∃ es w, Run World.start es w ∧
    ∃ j ∈ w.tasks, j.scope.container = .managed 0 ∧
      lastSeen j.number es = some (.ended j.number .done) ∧ j.holds 0 = false ∧
      ∃ p, w.pool.destroy (.managed 0) = .ok p := by
  obtain ⟨es, w, hrun, htasks, hcalls, hphase, hlast, hvisit, -⟩ := exists_finishFromRootAndInside
  have hmem : (⟨0, ⟨.managed 0, false⟩⟩ : Job) ∈ w.tasks := by simp [htasks]
  obtain ⟨-, hready, -, hdestroy, -⟩ := held_iff_owes hrun hmem rfl
  have hfree := hready hlast hvisit
  refine ⟨es, w, hrun, _, hmem, rfl, hlast, hfree, hdestroy hfree ?_ ?_ (hphase 0 (by omega))⟩
  · intro i hi hne
    rw [World.jobs, htasks, hcalls] at hi
    obtain rfl | rfl | rfl : i = ⟨2, ⟨.managed 2, true⟩⟩ ∨ i = ⟨1, ⟨.managed 1, true⟩⟩ ∨
        i = ⟨0, ⟨.managed 0, false⟩⟩ := by simpa using hi
    · rfl
    · rfl
    · rfl
  · rw [World.runsOn, hcalls]
    rfl

/-- **A task that is finished may keep its container.**  Two tasks are finished: one was ready when
it was polled from inside its container, one was refused from inside another container.  Nobody
polls them any more, no run is under way and the containers run, but each keeps its attachment, and
neither container can be destroyed. -/
theorem finishedInside_attached : ∃ es w, Run World.start es w ∧ w.calls = [] ∧
    ∃ j ∈ w.tasks, ∃ j' ∈ w.tasks,
      j.scope.container = .managed 1 ∧ j'.scope.container = .managed 2 ∧
      lastSeen j.number es = some (.ended j.number .done) ∧
      lastSeen j'.number es = some (.failed j'.number .notInRoot) ∧
      (∀ i ∈ w.jobs, i ≠ j → i.holds 1 = false) ∧ (∀ i ∈ w.jobs, i ≠ j' → i.holds 2 = false) ∧
      w.pool.destroy (.managed 1) = .error (.stillAttached 1) ∧
      w.pool.destroy (.managed 2) = .error (.stillAttached 1) := by
  obtain ⟨es, w, hrun, htasks, hcalls, hphase, -, -, hlast₁, hlast₂⟩ :=
    exists_finishFromRootAndInside
  have hjobs : w.jobs =
      [⟨2, ⟨.managed 2, true⟩⟩, ⟨1, ⟨.managed 1, true⟩⟩, ⟨0, ⟨.managed 0, false⟩⟩] := by
    rw [World.jobs, htasks, hcalls]
    rfl
  have hexact := (hrun.sound World.sound_start).exact
  have hdestroy {n : Nat} (hn : n < 3) (hcount : w.tasksOn n = 1) :
      w.pool.destroy (.managed n) = .error (.stillAttached 1) := by
    have hruns : w.runsOn n = 0 := by rw [World.runsOn, hcalls]; rfl
    have hone : w.pool.attached (.managed n) = 1 := by
      rw [hexact n, hruns, hcount]
    have hpos : 0 < w.pool.attached (.managed n) := by omega
    rw [← hone]
    exact Pool.destroy_of_attached (hphase n hn) hpos
  refine ⟨es, w, hrun, hcalls, ⟨1, ⟨.managed 1, true⟩⟩, by simp [htasks],
    ⟨2, ⟨.managed 2, true⟩⟩, by simp [htasks], rfl, rfl, hlast₁, hlast₂, ?_, ?_,
    hdestroy (by omega) ?_, hdestroy (by omega) ?_⟩
  · rw [hjobs]; decide
  · rw [hjobs]; decide
  · rw [World.tasksOn, hjobs]; rfl
  · rw [World.tasksOn, hjobs]; rfl

end ResourceContainers.Interleaving
