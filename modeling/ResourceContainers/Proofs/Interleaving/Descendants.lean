import ResourceContainers.Proofs.Interleaving.Trees

/-!
# Whoever is started is in its place

A started thread enters its container once, on a thread of its own.  A started task enters it again
and again, each time on a thread that happens to poll it.  Still both obey one law: they are
executed where their parent placed them, or nowhere.

* `Family.replay`: a way to make families.
* `Family.heir_over`: what is left of a started thread when its body is over.
* `descendants_placed`: the main statement.
-/

namespace ResourceContainers.Interleaving

open Script (Machine Exec Polled Runner outcome)

/-! ## Making families -/

/-- Steps that start nothing, are no steps of started threads and poll no task are orderly. -/
theorem Family.replay {f : Family} {es : List Event} {w : World} {steps : List (Nat × Act)}
    (hr : f.world.replay steps = some (es, w))
    (hsteps : ∀ step ∈ steps, (∀ d ∈ f.born, d.child.kind = .thread → d.number ≠ step.1) ∧
      ∀ i, step.2 ≠ .perform (.poll i)) :
    ∃ g, f.Leads g ∧ g.events = es ++ f.events ∧ g.world = w ∧ g.born = f.born := by
  induction steps generalizing f es w with
  | nil =>
    obtain ⟨rfl, rfl⟩ := Prod.mk.inj (Option.some.inj hr)
    exact ⟨f, .refl, rfl, rfl, rfl⟩
  | cons step steps ih =>
    obtain ⟨k, a⟩ := step
    simp only [World.replay] at hr
    split at hr
    · exact absurd hr (by simp)
    · next v note hs =>
      obtain ⟨⟨es', w'⟩, hr', he⟩ := Option.map_eq_some_iff.mp hr
      obtain ⟨rfl, rfl⟩ := Prod.mk.inj he
      obtain ⟨hothers, hpoll⟩ := hsteps _ (List.mem_cons_self ..)
      have hfirst : f.Step (f.after k a note v []) :=
        .act ⟨fun d hd hkind hk => absurd hk (hothers d hd hkind),
          fun d _ _ ha => absurd ha (hpoll d.number)⟩ (.none a) hs
      obtain ⟨g, hg, hevents, hworld, hborn⟩ := ih (f := f.after k a note v []) hr'
        fun step hstep => hsteps step (List.mem_cons_of_mem _ hstep)
      exact ⟨g, .head hfirst hg, by rw [hevents, List.append_assoc]; rfl, hworld, hborn⟩

/-! ## When a body is over -/

theorem flatMap_calls_eraseIdx {threads : List Thread} {k : Nat} {s : Slot}
    (h : threads[k]? = some ⟨s, []⟩) :
    (threads.eraseIdx k).flatMap Thread.calls = threads.flatMap Thread.calls := by
  obtain ⟨hk, hget⟩ := List.getElem?_eq_some_iff.mp h
  have hsplit : threads = threads.take k ++ ⟨s, []⟩ :: threads.drop (k + 1) := by
    rw [← hget, ← List.drop_eq_getElem_cons hk, List.take_append_drop]
  rw [List.eraseIdx_eq_take_drop_succ]
  conv => rhs; rw [hsplit]
  simp

section Families

variable {f : Family} {d : Descendant}

theorem World.calls_unique {w : World} {k : Nat} {s s' : Slot} {calls calls' : List Call}
    (h : w.threads[k]? = some ⟨s, calls⟩) (h' : w.threads[k]? = some ⟨s', calls'⟩) :
    calls = calls' :=
  (Thread.mk.inj (Option.some.inj (h.symm.trans h'))).2

/-- **The body of a started thread is executed in its place.** -/
theorem Family.heir_inside (h : f.Reachable) (hd : d ∈ f.born) (hkind : d.child.kind = .thread)
    {s : Slot} {place : Handle} {way : Passage}
    (hth : f.world.threads[d.number]? = some ⟨s, [.run place (.inside way)]⟩) :
    place = d.home ∧ s.current = d.home := by
  have hsame : place = d.home := by
    rcases heir h d hd hkind with hout | hin
    · cases hout with
      | waiting hth' => exact absurd (World.calls_unique hth hth') (by simp)
      | entering hth' hc =>
        have hinside := hc.isInside
        rw [← (List.cons.inj (World.calls_unique hth hth')).1] at hinside
        exact absurd hinside (by simp [Call.isInside])
      | refused hth' => exact absurd (World.calls_unique hth hth') (by simp)
    · cases hin with
      | acquired hth' => exact absurd (World.calls_unique hth hth') (by simp)
      | @running s' inner c hth' hc =>
        obtain ⟨stage, rfl, -⟩ := hc
        have hlast := congrArg List.getLast? (World.calls_unique hth hth')
        simp at hlast
        exact hlast.1
      | ended hth' => exact absurd (World.calls_unique hth hth') (by simp)
  exact ⟨hsame, hsame ▸ (h.sound.threads _ (List.mem_of_getElem? hth)).current_of_run rfl⟩

/-- **When the body of a started thread is over**, however it ended, the thread is bound to root and
has no attachment.  The body was executed, or the container had been destroyed before. -/
theorem Family.heir_over (h : f.Reachable) (hd : d ∈ f.born) (hkind : d.child.kind = .thread)
    {s : Slot} (hth : f.world.threads[d.number]? = some ⟨s, []⟩)
    (hes : ∃ e ∈ f.events, e.thread = d.number) :
    s = .fresh ∧
      (∀ n, f.world.pool.attached (.managed n) =
        ((f.world.threads.eraseIdx d.number).flatMap Thread.calls).countP (·.holds n) +
          f.world.tasksOn n) ∧
      ((¬ Idle d.number f.events ∧ lastOf d.number f.events = some (.returned d.home)) ∨
        (Idle d.number f.events ∧
          lastOf d.number f.events = some (.refused d.home .notRunning) ∧
          ∃ n, d.home = .managed n ∧ f.world.Destroyed n)) := by
  refine ⟨(h.sound.threads _ (List.mem_of_getElem? hth)).slot_eq, fun n => ?_, ?_⟩
  · rw [flatMap_calls_eraseIdx hth]
    exact h.sound.exact n
  · rcases heir h d hd hkind with hout | hin
    · cases hout with
      | waiting hth' hnone =>
        obtain ⟨e, he, hk⟩ := hes
        exact absurd hk (hnone e he)
      | entering hth' => exact absurd (World.calls_unique hth hth') (by simp)
      | refused hth' hidle hlast hhome hn => exact .inr ⟨hidle, hlast, _, hhome, hn⟩
    · cases hin with
      | acquired hth' => exact absurd (World.calls_unique hth hth') (by simp)
      | running hth' => exact absurd (World.calls_unique hth hth') (by simp)
      | ended hth' hlast hran => exact .inl ⟨hran, hlast⟩

end Families

/-- **Whoever is started is in its place**, after any orderly steps of any threads.

Every descendant was given the container of its parent, the one that the starting thread was bound
to, if that is root or its policy accepted the descendant at that moment, and root otherwise.

A started thread:

* It executes its body only in that container, and is bound to it.
* If it has executed nothing yet, then it comes to its body or is refused after at most four steps
  of its own, whatever other threads do, unless it was refused already.
* When it is over, however its body ended, it is bound to root, and whatever is attached to any
  container is a call of another thread or a task.  Either its body was executed and it returned, or
  its body was not executed and it was refused, because the container was destroyed.
* If the container is destroyed before the thread has executed anything, then it never executes
  anything, and it is refused.

A started task that is polled by threads that are bound to root:

* Whoever starts to execute its future, or is executing it, is bound to that container.
* Whoever polls it comes to the future or is refused after at most two more steps, whatever other
  threads do.
* It is refused only if the container was destroyed, and unless it is completed its future was never
  executed before.
* If the container is destroyed, the future is not executed any more, and whoever polls it is
  refused.

The refusal in question is an illegal state.

Threads and tasks are started in this way by `Script.spawn` and `Script.spawnTask`.  Let a thread
execute code, and let a script be where that thread is.

* `Script.spawn` fails if the name of the thread is none.  Otherwise let the body be performed
  wherever the thread begins to execute it.  Then the steps of a family lead to where the script is
  when it has waited for the thread, by way of the thread beginning to execute its body.  The answer
  is what becomes of the body there, and the thread has returned from its container.
* `Script.spawnTask` fails inside an executor.  Otherwise let the segments be performed wherever a
  thread begins to execute the task, and if the calling thread is to poll it let that be bound to
  root.  Then the steps of a family lead to where the script is when the executor is through with
  the task, and the answer is what was seen of a poll.

A script whose commands create and change containers, run into them and start children, with scripts
of the same kind inside, is performed by whoever begins to execute it as the body of a child, and
enacted by whoever executes code. -/
theorem descendants_placed {ω : Type} {f : Family} (h : f.Reachable) :
    (∀ d ∈ f.born, d.Placed f.events) ∧
    (∀ d ∈ f.born, d.child.kind = .thread →
      (∀ s place way, f.world.threads[d.number]? = some ⟨s, [.run place (.inside way)]⟩ →
        place = d.home ∧ s.current = d.home) ∧
      (Idle d.number f.events →
        lastOf d.number f.events = some (.refused d.home .notRunning) ∨
          f.world.Yields d.number
            (fun note => note = .entered d.home ∨ note = .refused d.home .notRunning) 4) ∧
      (∀ s, f.world.threads[d.number]? = some ⟨s, []⟩ → (∃ e ∈ f.events, e.thread = d.number) →
        s = .fresh ∧
        (∀ n, f.world.pool.attached (.managed n) =
          ((f.world.threads.eraseIdx d.number).flatMap Thread.calls).countP (·.holds n) +
            f.world.tasksOn n) ∧
        ((¬ Idle d.number f.events ∧ lastOf d.number f.events = some (.returned d.home)) ∨
          (Idle d.number f.events ∧
            lastOf d.number f.events = some (.refused d.home .notRunning) ∧
            ∃ n, d.home = .managed n ∧ f.world.Destroyed n))) ∧
      ∀ n, d.home = .managed n → f.world.Destroyed n → Idle d.number f.events →
        ∀ g, f.Leads g →
          Idle d.number g.events ∧
            (lastOf d.number g.events = some (.refused d.home .notRunning) ∨
              g.world.Yields d.number (· = .refused d.home .notRunning) 4)) ∧
    (∀ d ∈ f.born, d.child.kind = .task →
      (∀ k a v place visit, f.world.step k a = some (v, .polled d.number place visit) →
        place = d.home ∧ ∃ th, v.threads[k]? = some th ∧ th.slot.current = d.home) ∧
      (∀ th ∈ f.world.threads, ∀ j visit calls, th.calls = .poll j (.inside visit) :: calls →
        j.number = d.number → th.slot.current = d.home) ∧
      (∀ k th, f.world.threads[k]? = some th → th.isFree = true → th.slot.current = .root →
        (∃ j ∈ f.world.tasks, j.number = d.number) →
          ∃ u, f.world.step k (.perform (.poll d.number)) = some (u, .quiet) ∧
            ∀ es v, Run u es v → (∀ e ∈ es, e.thread ≠ k) →
              v.Yields k (fun note => note = .failed d.number .notRunning ∨
                ∃ visit, note = .polled d.number d.home visit) 2) ∧
      (∀ k a v why, f.Orderly k a → f.world.step k a = some (v, .failed d.number why) →
        why = .notRunning ∧ (∃ n, d.home = .managed n ∧ f.world.Destroyed n) ∧
          (¬ Completed d.number f.events →
            ∀ e ∈ f.events, ∀ place visit, e.note ≠ .polled d.number place visit)) ∧
      ∀ n, d.home = .managed n → f.world.Destroyed n → ∀ es w, Run f.world es w →
        (∀ e ∈ es, ∀ place visit, e.note ≠ .polled d.number place visit) ∧
          ∀ k th, w.threads[k]? = some th → th.isFree = true → th.slot.current = .root →
            (∃ j ∈ w.tasks, j.number = d.number) →
              ∃ u, w.step k (.perform (.poll d.number)) = some (u, .quiet) ∧
                ∀ es' v, Run u es' v → (∀ e ∈ es', e.thread ≠ k) →
                  v.Yields k (· = .failed d.number .notRunning) 2) ∧
    Refusal.notRunning.report.kind = .illegalState ∧
    (∀ k calls (m : Machine ω), f.Executing k calls → f.At k calls m →
      (∀ name (x : Exec ω Unit),
        let d : Descendant :=
          ⟨⟨⟨name, .thread⟩, inherited m.pool m.worker.slot ⟨name, .thread⟩⟩,
            f.world.threads.length⟩
        (∀ message, Script.nameFault? name = some message →
          outcome (Script.spawn name x) m = (.error message, m)) ∧
        (Script.nameFault? name = none → f.Performs d x →
          ∃ v calls' m' g, f.Leads v ∧ v.Begins d d.number calls' ∧ v.At d.number calls' m' ∧
            v.Leads g ∧ f.Enacts k calls (outcome (Script.spawn name x) m).2 g ∧
            lastOf d.number g.events = some (.returned d.home) ∧
            (outcome (Script.spawn name x) m).1 =
              .ok (Script.threadAnswer ((outcome x m').1.map .ok)))) ∧
      ∀ (run : Runner ω) path flavor segments,
        let d : Descendant :=
          ⟨⟨⟨none, .task⟩, inherited m.pool m.worker.slot ⟨none, .task⟩⟩, f.world.nextTask⟩
        (m.worker.inExecutor = true →
          outcome (Script.spawnTask run path flavor segments) m = (.ok .insideExecutor, m)) ∧
        (m.worker.inExecutor = false → (flavor = .calling → m.worker.slot.current = .root) →
          (∀ place, ∀ segment ∈ segments, f.Performs d (run place segment)) →
          ∃ (polled : Polled) (g : Family),
            f.Enacts k calls (outcome (Script.spawnTask run path flavor segments) m).2 g ∧
            d ∈ g.born ∧ (∃ e ∈ g.events, e.note = .ofPoll d.number polled) ∧
            (outcome (Script.spawnTask run path flavor segments) m).1 = .ok polled.caught)) ∧
    ∀ fuel path (body : List (Script.Command ω)), (∀ c ∈ body, c.InTree) →
      (∀ d, f.Performs d (Script.runBody fuel path body)) ∧
      ∀ k calls (m : Machine ω), f.Executing k calls → f.At k calls m →
        ∃ g, f.Enacts k calls (outcome (Script.runBody fuel path body) m).2 g := by
  refine ⟨Family.placed h, fun d hd hkind => ⟨?_, ?_, ?_, ?_⟩,
    fun d hd hkind => ⟨?_, ?_, ?_, ?_, ?_⟩, rfl,
    fun k calls m hexec hat => ⟨fun name x => ⟨?_, ?_⟩, fun run path flavor segments => ⟨?_, ?_⟩⟩,
    fun fuel path body hbody => ⟨?_, ?_⟩⟩
  · intro s place way hth
    exact Family.heir_inside h hd hkind hth
  · intro hidle
    exact Family.yields h hd hkind hidle
  · intro s hth hes
    exact Family.heir_over h hd hkind hth hes
  · intro n hhome hn hidle g hg
    obtain ⟨hout, hn'⟩ := Family.outside h hd hkind hhome hn
      (Family.outside_of_idle h hd hkind hhome hn hidle) hg
    exact ⟨hout.idle, hout.yields (h.trans hg).sound rfl fun hopen => absurd hn' (hopen n hhome)⟩
  · intro k a v place visit hs
    have hhouses := (Family.entrusted h d hd hkind).houses.step hs
    obtain ⟨hplace, s, j, calls, hthread, hnumber⟩ := hhouses.of_polled hs
    exact ⟨hplace, _, hthread, hhouses.current (h.sound.step hs) (List.mem_of_getElem? hthread) rfl
      hnumber⟩
  · intro th hth j visit calls hcalls hi
    exact (Family.entrusted h d hd hkind).houses.current h.sound hth hcalls hi
  · intro k th hth hfree hcur hi
    exact (Family.entrusted h d hd hkind).houses.poll_answered h.sound hth hfree hcur hi (.inl rfl)
      fun _ visit => .inr ⟨visit, rfl⟩
  · intro k a v why ho hs
    exact (Family.entrusted h d hd hkind).of_failed h.run (Family.home_lt h d hd)
      (fun ha => ho.poll d hd hkind ha) hs
  · intro n hhome hn es w hrun
    have hhouses := (Family.entrusted h d hd hkind).houses
    obtain ⟨hn', -, havoids⟩ := hrun.destroyed h.sound hn
    refine ⟨fun e he place visit hnote => ?_, fun k th hth hfree hcur hi => ?_⟩
    · obtain rfl := (hhouses.polled_run hrun e he place visit hnote).trans hhome
      exact (havoids e he).2.2 _ _ hnote
    · exact (hhouses.run hrun).poll_answered (hrun.sound h.sound) hth hfree hcur hi rfl
        fun hopen => absurd hn' (hopen n hhome)
  · intro message hname
    exact Script.outcome_spawn_of_fault hname x m
  · intro hname hx
    exact Family.spawn_enacted h hexec hat hname rfl hx
  · intro hexecutor
    exact Script.outcome_spawnTask_insideExecutor hexecutor run path flavor segments
  · intro hexecutor hflavor hrun
    exact Family.spawnTask_enacted h hexec hat hexecutor hflavor rfl hrun
  · intro d
    exact (Family.enactable_runBody fuel path hbody).performs h d
  · intro k calls m hexec hat
    exact Family.enactable_runBody fuel path hbody f k calls m h hexec hat

/-- One thread that makes a container and runs into it. -/
def intoContainer : List (Nat × Act) :=
  [(0, .perform (.create Config.empty .idle)), (0, .perform (.run (.managed 0))), (0, .next),
   (0, .next), (0, .next)]

/-- It leaves the container again and destroys it. -/
def leaveAndDestroy : List (Nat × Act) :=
  [(0, .finish .done), (0, .next), (0, .next), (0, .perform (.destroy (.managed 0)))]

/-- Then it is inside the container, and so may a script be. -/
theorem exists_inside : ∃ (f : Family) (calls : List Call) (m : Machine Unit), f.Reachable ∧
    f.Executing 0 calls ∧ f.At 0 calls m ∧ f.world.threads.length = 1 ∧
    ∀ child, inherited m.pool m.worker.slot child = .managed 0 := by
  obtain ⟨es, u, hu, s, c, hth, hinside, hlength, hinherited⟩ :
      ∃ es u, World.start.replay intoContainer = some (es, u) ∧
        ∃ s c, u.threads[0]? = some ⟨s, [c]⟩ ∧ c.isInside = true ∧ u.threads.length = 1 ∧
          ∀ child, inherited u.pool s child = .managed 0 :=
    ⟨_, _, rfl, _, _, rfl, rfl, rfl, fun _ => rfl⟩
  obtain ⟨f, hf, -, rfl, -⟩ := Family.replay (f := .start) hu fun step hstep =>
    ⟨by simp [Family.start], by revert step; simp [intoContainer]⟩
  exact ⟨f, [c], { Machine.start with pool := f.world.pool, worker := ⟨s, none, false⟩ }, hf,
    ⟨by simp [hinside], by simp⟩, ⟨rfl, hth⟩, hlength, hinherited⟩

/-- Inside the container it starts a thread and a task.  The started thread wants to run its body
only when the container is destroyed. -/
theorem exists_destroyedBefore : ∃ f : Family, f.Reachable ∧
    f.born = [⟨⟨⟨none, .task⟩, .managed 0⟩, 0⟩, ⟨⟨⟨some "worker", .thread⟩, .managed 0⟩, 1⟩] ∧
    f.world.threads = [.fresh, .fresh] ∧ f.world.tasks = [⟨0, .ofHandle (.managed 0)⟩] ∧
    f.world.Destroyed 0 ∧ lastOf 1 f.events = some (.refused (.managed 0) .notRunning) := by
  obtain ⟨es, u, hu, th, hth, hfree, hinherited, hlength, u', hspawn, th', hth', hfree',
      hinherited', hnext, v, hscope, es', v', hv, hzero, w, hbody, hthreads, htasks, hsize,
      hphase⟩ :
      ∃ es u, World.start.replay intoContainer = some (es, u) ∧
        ∃ th, u.threads[0]? = some th ∧ th.isFree = true ∧
          inherited u.pool th.slot ⟨some "worker", .thread⟩ = .managed 0 ∧ u.threads.length = 1 ∧
        ∃ u', u.step 0 (.perform .spawn) = some (u', .quiet) ∧
          ∃ th', u'.threads[0]? = some th' ∧ th'.isFree = true ∧
          inherited u'.pool th'.slot ⟨none, .task⟩ = .managed 0 ∧ u'.nextTask = 0 ∧
        ∃ v, u'.step 0 (.perform (.scope (.managed 0))) = some (v, .quiet) ∧
        ∃ es' v', v.replay leaveAndDestroy = some (es', v') ∧
          (es' ++ es).map Event.thread = List.replicate 9 0 ∧
        ∃ w, v'.step 1 (.perform (.run (.managed 0))) =
            some (w, .refused (.managed 0) .notRunning) ∧
          w.threads = [.fresh, .fresh] ∧ w.tasks = [⟨0, .ofHandle (.managed 0)⟩] ∧
          w.pool.containers.size = 1 ∧ w.pool.phase (.managed 0) = .destroyed :=
    ⟨_, _, rfl, _, rfl, rfl, rfl, rfl, _, rfl, _, rfl, rfl, rfl, rfl, _, rfl, _, _, rfl, rfl, _,
      rfl, rfl, rfl, rfl, rfl⟩
  obtain ⟨f, hf, hevents, rfl, hborn⟩ := Family.replay (f := .start) hu fun step hstep =>
    ⟨by simp [Family.start], by revert step; simp [intoContainer]⟩
  obtain ⟨g, hg, rfl, hborn', hevents'⟩ := Family.exists_started (f := f)
    (c := ⟨⟨some "worker", .thread⟩, .managed 0⟩) hth hfree hinherited.symm
    ⟨by simp [hborn, Family.start], by simp [hborn, Family.start]⟩ hspawn
  obtain ⟨g', hg', rfl, hborn'', hevents''⟩ := Family.exists_started (f := g)
    (c := ⟨⟨none, .task⟩, .managed 0⟩) hth' hfree' hinherited'.symm
    ⟨by simp [hborn', hborn, Choice.born, hlength, Family.start], by simp [Choice.act]⟩ hscope
  have hnew : g'.born =
      [⟨⟨⟨none, .task⟩, .managed 0⟩, 0⟩, ⟨⟨⟨some "worker", .thread⟩, .managed 0⟩, 1⟩] := by
    rw [hborn'', hborn', hborn]
    simp [Choice.born, hnext, hlength, Family.start]
  obtain ⟨f', hf', hlater, rfl, hsame⟩ := Family.replay (f := g') hv fun step hstep =>
    ⟨by revert step; simp [hnew, leaveAndDestroy], by revert step; simp [leaveAndDestroy]⟩
  -- up to now the first thread took all steps
  have hothers : ∀ e ∈ f'.events, e.thread = 0 := by
    intro e he
    rw [hlater, hevents'', hevents', hevents] at he
    simp only [List.mem_append, List.mem_cons, Family.start, List.not_mem_nil, or_false] at he
    have hold (h : e ∈ es' ++ es) : e.thread = 0 :=
      List.eq_of_mem_replicate (hzero ▸ List.mem_map_of_mem h)
    rcases he with he | rfl | rfl | he
    · exact hold (List.mem_append_left _ he)
    · rfl
    · rfl
    · exact hold (List.mem_append_right _ he)
  have horderly : f'.Orderly 1 (.perform (.run (.managed 0))) := by
    refine ⟨fun d hd hkind hk s _ => ?_, by simp⟩
    rw [hsame, hnew] at hd
    obtain rfl | rfl : d = ⟨⟨⟨none, .task⟩, .managed 0⟩, 0⟩ ∨
        d = ⟨⟨⟨some "worker", .thread⟩, .managed 0⟩, 1⟩ := by simpa using hd
    · exact absurd hkind (by simp)
    · exact ⟨rfl, fun e he => by simp [hothers e he]⟩
  have hreach : f'.Reachable := ((hf.trans hg).trans hg').trans hf'
  exact ⟨_, hreach.trans (.single (.act horderly (.none _) hbody)), hsame.trans hnew, hthreads,
    htasks, ⟨by simp [Family.after, hsize], hphase⟩, lastOf_cons_self rfl⟩

/-- The script of a thread that starts another thread, and a task from outside its container. -/
def childrenOfChild : List (Script.Command Unit) :=
  [.spawn none [.whereAmI], .run .root [.spawnTask .worker [[.whereAmI]]] ()]

theorem inTree_childrenOfChild : ∀ c ∈ childrenOfChild, c.InTree := by
  have hask : ∀ c ∈ [(.whereAmI : Script.Command Unit)], c.InTree :=
    List.forall_mem_singleton.mpr .whereAmI
  have htask : ∀ c ∈ [(.spawnTask .worker [[.whereAmI]] : Script.Command Unit)], c.InTree :=
    List.forall_mem_singleton.mpr (.spawnTask (List.forall_mem_singleton.mpr hask))
  exact List.forall_mem_cons.mpr
    ⟨.spawn hask none, List.forall_mem_singleton.mpr (.run htask .root ())⟩

/-- The thread has executed nothing and is refused, and so is whoever polls the task from root.
Before that, a script inside the container may start a thread that starts children. -/
theorem descendants_placed_destroyedBefore : (∃ f : Family, f.Reachable ∧ f.world.Destroyed 0 ∧
      (∃ d ∈ f.born, d.number = 1 ∧ d.child = ⟨some "worker", .thread⟩ ∧ d.home = .managed 0 ∧
        d.Placed f.events ∧ Idle 1 f.events ∧
        lastOf 1 f.events = some (.refused (.managed 0) .notRunning)) ∧
      ∃ d ∈ f.born, d.number = 0 ∧ d.child = ⟨none, .task⟩ ∧ d.home = .managed 0 ∧
        d.Placed f.events ∧ ∃ u, f.world.step 0 (.perform (.poll 0)) = some (u, .quiet) ∧
          u.Yields 0 (· = .failed 0 .notRunning) 2) ∧
    ∃ (f : Family) (calls : List Call) (m : Machine Unit), f.Reachable ∧ f.Executing 0 calls ∧
      f.At 0 calls m ∧ ∃ g,
        f.Enacts 0 calls (outcome (Script.spawn none (Script.runBody 3 [] childrenOfChild)) m).2 g ∧
        lastOf 1 g.events = some (.returned (.managed 0)) := by
  constructor
  · obtain ⟨f, h, hborn, hthreads, htasks, hn, hlast⟩ := exists_destroyedBefore
    obtain ⟨hplaced, hthread, htask, -⟩ := @descendants_placed Unit f h
    have hd : ⟨⟨⟨some "worker", .thread⟩, .managed 0⟩, 1⟩ ∈ f.born := by simp [hborn]
    have hd' : ⟨⟨⟨none, .task⟩, .managed 0⟩, 0⟩ ∈ f.born := by simp [hborn]
    obtain ⟨-, -, hover, -⟩ := hthread _ hd rfl
    obtain ⟨-, -, -, -, hpoll⟩ := htask _ hd' rfl
    refine ⟨f, h, hn, ⟨_, hd, rfl, rfl, rfl, hplaced _ hd, ?_, hlast⟩,
      ⟨_, hd', rfl, rfl, rfl, hplaced _ hd', ?_⟩⟩
    · obtain ⟨-, -, ⟨-, hreturned⟩ | ⟨hidle, -⟩⟩ :=
        hover .fresh (by rw [hthreads]; rfl) (exists_of_lastOf hlast)
      · exact absurd (hlast.symm.trans hreturned) (by simp)
      · exact hidle
    · obtain ⟨-, hrefused⟩ := hpoll 0 rfl hn [] f.world .nil
      obtain ⟨u, hu, hyields⟩ := hrefused 0 .fresh (by rw [hthreads]; rfl) rfl rfl
        ⟨_, by rw [htasks]; exact List.mem_cons_self .., rfl⟩
      exact ⟨u, hu, hyields [] u .nil (by simp)⟩
  · obtain ⟨f, calls, m, h, hexec, hat, hlength, hinherited⟩ := exists_inside
    obtain ⟨-, -, -, -, hscript, hbody⟩ := @descendants_placed Unit f h
    obtain ⟨-, hspawn⟩ :=
      (hscript 0 calls m hexec hat).1 none (Script.runBody 3 [] childrenOfChild)
    obtain ⟨hperforms, -⟩ := hbody 3 [] childrenOfChild inTree_childrenOfChild
    obtain ⟨v, calls', m', g, -, -, -, -, hg, hlast, -⟩ := hspawn rfl (hperforms _)
    rw [hlength, hinherited] at hlast
    exact ⟨f, calls, m, h, hexec, hat, g, hg, hlast⟩

end ResourceContainers.Interleaving
