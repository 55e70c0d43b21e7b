import ResourceContainers.Proofs.Interleaving.Heirs

/-!
# Tasks that start inside a container

A started task comes to its container once for each poll, on whatever thread polls it.  If the
polling threads are bound to root, then each poll binds its thread to the container, and the first
one makes the attachment.

* `World.Did`: what a step does, told by its act.
* `PollStage.way`, `World.FromRoot`: whoever polls a task has come to it from root.
* `Entrusted`: a started task is in its container.  `Entrusted.step`: one step.
  `Family.entrusted`: all steps.
* `World.Houses.polled_run`: its future is executed only there.
* `Entrusted.of_failed`: a task is refused its container only if that was destroyed before any poll.
* `World.Houses.poll_answered`: a poll from root comes to the future, or is refused.
-/

namespace ResourceContainers.Interleaving

/-! ## What an act does -/

/-- What the step `a` of the thread `k`, which is `th`, does.  Polls are told apart from other
deeds. -/
inductive World.Did (w : World) (k : Nat) (th : Thread) : Act → World → Note → Prop
  | next {c : Call} {calls : List Call} {m : Move} (hc : th.calls = c :: calls)
      (hm : c.next w.pool th.slot = some m) : Did w k th .next (w.after k calls m) m.note
  | finish {c c' : Call} {calls : List Call} {ending : Ending} (hc : th.calls = c :: calls)
      (hf : Call.Finish ending c c') :
      Did w k th (.finish ending) (w.after k calls ⟨w.pool, th.slot, some c', none, .quiet⟩) .quiet
  | spawn : Did w k th (.perform .spawn) { w with threads := w.threads ++ [.fresh] } .quiet
  | poll {i : Nat} {j : Job} {tasks : List Job} (ht : takeJob i w.tasks = some (j, tasks)) :
      Did w k th (.perform (.poll i))
        ({ w with tasks := tasks }.after k th.calls (startPoll w.pool th.slot j))
        (startPoll w.pool th.slot j).note
  | other {d : Deed} {tasks : List Job} {number : Nat} {m : Move}
      (hcall : ∀ c, m.call = some c → c.job? = none) (hnote : ∀ i why, m.note ≠ .failed i why) :
      Did w k th (.perform d)
        ({ w with tasks := tasks, nextTask := number }.after k th.calls m) m.note

section Steps

variable {w v : World} {k i n : Nat} {a : Act} {note : Note} {th : Thread}

theorem World.did_of_step (hth : w.threads[k]? = some th) (hs : w.step k a = some (v, note)) :
    w.Did k th a v note := by
  cases a with
  | next =>
    cases hc : th.calls with
    | nil => simp [step, hth, hc] at hs
    | cons c calls =>
      simp only [step, hth, hc] at hs
      obtain ⟨m, hm, he⟩ := Option.map_eq_some_iff.mp hs
      obtain ⟨rfl, rfl⟩ := Prod.mk.inj he
      exact .next hc hm
  | finish ending =>
    cases hc : th.calls with
    | nil => simp [step, hth, hc] at hs
    | cons c calls =>
      simp only [step, hth, hc] at hs
      obtain ⟨c', hc', he⟩ := Option.map_eq_some_iff.mp hs
      obtain ⟨rfl, rfl⟩ := Prod.mk.inj he
      exact .finish hc (Call.finish_of_eq_some hc')
  | perform d =>
    have hfree := isFree_of_perform hth hs
    have hperform : w.perform k th d = some (v, note) := by simpa [step, hth, hfree] using hs
    have hrequest {h : Handle} {seen : Note} {result : Except Refusal Pool}
        (hseen : ∀ i why, seen ≠ .failed i why) :
        w.Did k th (.perform d) (w.after k th.calls (request w.pool th.slot h seen result))
          (request w.pool th.slot h seen result).note := by
      cases result with
      | ok p => exact .other (by simp [request]) hseen
      | error why => exact .other (by simp [request]) (by simp [request])
    cases d with
    | spawn =>
      obtain ⟨rfl, rfl⟩ := Prod.mk.inj (Option.some.inj hperform)
      exact .spawn
    | create c m =>
      obtain ⟨rfl, rfl⟩ := Prod.mk.inj (Option.some.inj hperform)
      exact .other (by simp) (by simp)
    | destroy h =>
      obtain ⟨rfl, rfl⟩ := Prod.mk.inj (Option.some.inj hperform)
      exact hrequest (by simp)
    | update h c =>
      obtain ⟨rfl, rfl⟩ := Prod.mk.inj (Option.some.inj hperform)
      exact hrequest (by simp)
    | setPolicy h policy =>
      obtain ⟨rfl, rfl⟩ := Prod.mk.inj (Option.some.inj hperform)
      exact hrequest (by simp)
    | scope h =>
      obtain ⟨rfl, rfl⟩ := Prod.mk.inj (Option.some.inj hperform)
      exact .other (by simp) (by simp)
    | drop task =>
      obtain ⟨⟨j, tasks⟩, ht, he⟩ := Option.map_eq_some_iff.mp hperform
      obtain ⟨rfl, rfl⟩ := Prod.mk.inj he
      exact .other (by simp) (by simp)
    | run h =>
      obtain ⟨rfl, rfl⟩ := Prod.mk.inj (Option.some.inj hperform)
      have hstart := runStart w.pool th.slot h
      generalize startRun w.pool th.slot h = m at hstart
      exact .other (by cases hstart <;> simp [Call.job?]) (by cases hstart <;> simp)
    | poll task =>
      obtain ⟨⟨j, tasks⟩, ht, he⟩ := Option.map_eq_some_iff.mp hperform
      obtain ⟨rfl, rfl⟩ := Prod.mk.inj he
      exact .poll ht

/-! ## Polls from root -/

/-- The way to a task that a poll has chosen. -/
def PollStage.way : PollStage → Scope.Visit
  | .going visit | .inside visit | .leaving visit _ => visit
  | .acquired | .unbound => .bound

theorem PollStage.Access.way {j : Job} {stage : PollStage} {p : Pool} {s : Slot} {m : Move}
    (h : PollStage.Access j p s stage m) {j' : Job} {stage' : PollStage}
    (hcall : m.call = some (.poll j' stage')) : j'.number = j.number ∧ stage'.way = stage.way := by
  cases h with
  | failed e => exact absurd hcall (by simp)
  | left hleft => exact absurd hcall (by simp)
  | released => exact absurd hcall (by simp)
  | _ =>
    obtain ⟨rfl, rfl⟩ := Call.poll.inj (Option.some.inj hcall)
    exact ⟨rfl, rfl⟩

/-- Whoever polls the task `i` has come to it from root, and uses or makes its attachment. -/
def World.FromRoot (w : World) (i : Nat) : Prop :=
  ∀ th ∈ w.threads, ∀ j stage, .poll j stage ∈ th.calls → j.number = i → stage.way = .bound

/-- A step that starts no poll of the task, or starts one from root. -/
theorem World.FromRoot.step (h : w.FromRoot i) (hth : w.threads[k]? = some th)
    (hpoll : a = .perform (.poll i) → ∀ j ∈ w.tasks, j.number = i →
      j.scope.choose th.slot.current = .ok .bound)
    (hs : w.step k a = some (v, note)) : v.FromRoot i := by
  have hmem : th ∈ w.threads := List.mem_of_getElem? hth
  -- only the call that is left of the thread is new
  have hafter {tasks : List Job} {number : Nat} {calls : List Call} {m : Move}
      (hcalls : ∀ c ∈ calls, c ∈ th.calls)
      (hcall : ∀ j stage, m.call = some (.poll j stage) → j.number = i → stage.way = .bound) :
      ({ w with tasks := tasks, nextTask := number }.after k calls m).FromRoot i := by
    intro th' hth' j stage hj hi
    rcases List.mem_or_eq_of_mem_set hth' with hold | rfl
    · exact h th' hold j stage hj hi
    · rcases List.mem_append.mp hj with hnew | hold
      · exact hcall j stage (by simpa [eq_comm] using hnew) hi
      · exact h th hmem j stage (hcalls _ hold) hi
  cases World.did_of_step hth hs with
  | @next c calls m hc hm =>
    refine hafter (fun c' hc' => hc ▸ List.mem_cons_of_mem c hc') fun j stage hj hi => ?_
    cases c with
    | run target stage =>
      cases RunStage.access_of_next hm <;> exact absurd hj (by simp)
    | poll j' stage' =>
      obtain ⟨hnumber, hway⟩ := (PollStage.access_of_next hm).way hj
      rw [hway]
      exact h th hmem j' stage' (hc ▸ List.mem_cons_self ..) (hnumber.symm.trans hi)
  | @finish c c' calls ending hc hf =>
    refine hafter (fun c' hc' => hc ▸ List.mem_cons_of_mem c hc') fun j stage hj hi => ?_
    cases hf with
    | run hending => exact absurd hj (by simp)
    | @poll j' visit =>
      obtain ⟨rfl, rfl⟩ := Call.poll.inj (Option.some.inj hj)
      exact h th hmem j' (.inside visit) (hc ▸ List.mem_cons_self ..) hi
  | spawn =>
    intro th' hth' j stage hj hi
    rcases List.mem_append.mp hth' with hold | hnew
    · exact h th' hold j stage hj hi
    · obtain rfl := List.mem_singleton.mp hnew
      exact absurd hj (by simp [Thread.fresh])
  | @poll i' j tasks ht =>
    refine hafter (fun c hc => hc) fun j' stage hj hi => ?_
    have hstart := pollStart w.pool th.slot j
    generalize startPoll w.pool th.slot j = m at hstart hj
    cases hstart with
    | failed e => exact absurd hj (by simp)
    | chosen e =>
      obtain ⟨rfl, rfl⟩ := Call.poll.inj (Option.some.inj hj)
      obtain rfl : i = i' := hi.symm.trans (takeJob_number ht)
      have hin : j ∈ w.tasks := mem_of_takeJob ht
      exact Except.ok.inj (e.symm.trans (hpoll rfl j hin hi))
  | other hcall hnote =>
    exact hafter (fun c hc => hc) fun j stage hj _ => absurd (hcall _ hj) (by simp [Call.job?])

/-- How a poll that does not come to the future ends: the container did not want the thread, or did
not run any more. -/
theorem World.did_of_failed {why : Refusal} (hth : w.threads[k]? = some th)
    (hs : w.step k a = some (v, .failed i why)) :
    (a = .perform (.poll i) ∧ ∃ j ∈ w.tasks, j.number = i ∧
        j.scope.choose th.slot.current = .error why) ∨
      ∃ j calls, th.calls = .poll j (.going .bound) :: calls ∧ j.number = i ∧
        j.scope.attach w.pool = .error why := by
  have hdid := World.did_of_step hth hs
  generalize hnote : Note.failed i why = note at hdid
  cases hdid with
  | @next c calls m hc hm =>
    cases c with
    | run target stage => cases RunStage.access_of_next hm <;> exact absurd hnote (by simp)
    | poll j stage =>
      cases PollStage.access_of_next hm with
      | failed e =>
        obtain ⟨rfl, rfl⟩ := Note.failed.inj hnote
        exact .inr ⟨j, calls, hc, rfl, e⟩
      | _ => exact absurd hnote (by simp)
  | finish hc hf => exact absurd hnote (by simp)
  | spawn => exact absurd hnote (by simp)
  | @poll i' j tasks ht =>
    have hstart := pollStart w.pool th.slot j
    generalize startPoll w.pool th.slot j = m at hstart hnote
    cases hstart with
    | failed e =>
      obtain ⟨rfl, rfl⟩ := Note.failed.inj hnote
      have hin : j ∈ w.tasks := mem_of_takeJob ht
      exact .inl ⟨by rw [takeJob_number ht], j, hin, rfl, e⟩
    | chosen e => exact absurd hnote (by simp)
  | other hcall hother => exact absurd hnote.symm (hother i why)

/-! ## Tasks in their containers -/

theorem World.mem_of_poll {j : Job} {stage : PollStage} (hth : th ∈ w.threads)
    (hj : .poll j stage ∈ th.calls) : j ∈ w.jobs ∧ ⟨j, some stage⟩ ∈ w.tracked := by
  have hmem : .poll j stage ∈ w.calls := List.mem_flatMap.mpr ⟨th, hth, hj⟩
  exact ⟨List.mem_append_right _ (List.mem_filterMap.mpr ⟨_, hmem, rfl⟩),
    List.mem_append_right _ (List.mem_filterMap.mpr ⟨_, hmem, rfl⟩)⟩

theorem World.Houses.of_task {home : Handle} (h : w.Houses i home) {j : Job} (hj : j ∈ w.tasks)
    (hi : j.number = i) : j.scope.container = home :=
  h.container ⟨j, none⟩ (List.mem_append_left _ (List.mem_map.mpr ⟨j, hj, rfl⟩)) hi

/-- The task `d` is in its container, or is dropped, and has been executed only there. -/
structure Entrusted (es : List Event) (w : World) (d : Descendant) : Prop where
  houses : w.Houses d.number d.home
  fromRoot : ∀ n, d.home = .managed n → w.FromRoot d.number
  polled : ∀ e ∈ es, ∀ place visit, e.note = .polled d.number place visit →
    place = d.home ∧ (d.home ≠ .root → visit = .bound)

variable {es : List Event} {d : Descendant}

/-- A future that starts to be executed is one that a thread executes in its container. -/
theorem World.Houses.of_polled {home place : Handle} {visit : Scope.Visit} (hh : v.Houses i home)
    (hs : w.step k a = some (v, .polled i place visit)) :
    place = home ∧ ∃ s j calls, v.threads[k]? = some ⟨s, .poll j (.inside visit) :: calls⟩ ∧
      j.number = i := by
  obtain ⟨s, j, calls, hthread, hnumber, hplace⟩ := exists_thread_of_polled hs
  have hcontainer := hh.of_call (List.mem_of_getElem? hthread) (List.mem_cons_self ..) hnumber
  exact ⟨hplace.symm.trans hcontainer, s, j, calls, hthread, hnumber⟩

/-- However long it takes, a future is executed only in its container. -/
theorem World.Houses.polled_run {home : Handle} {es : List Event} (hh : w.Houses i home)
    (h : Run w es v) : ∀ e ∈ es, ∀ place visit, e.note = .polled i place visit → place = home := by
  induction h with
  | nil => exact fun e he => absurd he (by simp)
  | cons h hs ih =>
    intro e he place visit hnote
    rcases List.mem_cons.mp he with rfl | he
    · subst hnote
      exact (((hh.run h).step hs).of_polled hs).1
    · exact ih e he place visit hnote

/-- **A task that is polled from root stays entrusted.** -/
theorem Entrusted.step (h : Entrusted es w d)
    (hpoll : a = .perform (.poll d.number) → ∀ th, w.threads[k]? = some th →
      th.slot.current = .root)
    (hs : w.step k a = some (v, note)) : Entrusted (⟨k, a, note⟩ :: es) v d := by
  have hhouses := h.houses.step hs
  obtain ⟨th, hth⟩ := World.exists_thread hs
  have hroot (n : Nat) (hn : d.home = .managed n) : v.FromRoot d.number := by
    refine (h.fromRoot n hn).step hth (fun ha j hj hi => ?_) hs
    have hcontainer : j.scope.container = .managed n := (h.houses.of_task hj hi).trans hn
    simp [Scope.choose, hcontainer, hpoll ha th hth, Handle.isRoot]
  refine ⟨hhouses, hroot, fun e he place visit hnote => ?_⟩
  rcases List.mem_cons.mp he with rfl | he
  · subst hnote
    obtain ⟨hplace, s, j, calls, hthread, hnumber⟩ := hhouses.of_polled hs
    refine ⟨hplace, fun hmanaged => ?_⟩
    cases hhome : d.home with
    | root => exact absurd hhome hmanaged
    | managed n =>
      exact hroot n hhome _ (List.mem_of_getElem? hthread) j (.inside visit)
        (List.mem_cons_self ..) hnumber
  · exact h.polled e he place visit hnote

theorem World.of_scope {h : Handle} (hs : w.step k (.perform (.scope h)) = some (v, note)) :
    note = .quiet ∧ ⟨w.nextTask, .ofHandle h⟩ ∈ v.jobs := by
  obtain ⟨th, hth⟩ := exists_thread hs
  have hfree := isFree_of_perform hth hs
  simp only [step, hth, hfree, if_true, perform] at hs
  obtain ⟨rfl, rfl⟩ := Prod.mk.inj (Option.some.inj hs)
  exact ⟨rfl, List.mem_append_left _ (List.mem_cons_self ..)⟩

theorem Numbered.fromRoot (h : Numbered w.nextTask w.tracked es) : w.FromRoot w.nextTask := by
  intro th hth j stage hj hnumber
  exact absurd hnumber (Nat.ne_of_lt (h.below _ (World.mem_of_poll hth hj).2))

theorem entrusted_of_scope (h : Run .start es w)
    (hs : w.step k (.perform (.scope d.home)) = some (v, note)) (hnumber : d.number = w.nextTask) :
    Entrusted (⟨k, .perform (.scope d.home), note⟩ :: es) v d := by
  obtain ⟨rfl, hjob⟩ := World.of_scope hs
  have hnumbered := h.recorded.numbered
  obtain ⟨th, hth⟩ := World.exists_thread hs
  refine ⟨?_, fun _ _ => ?_, fun e he place visit hnote => ?_⟩
  · rw [hnumber]
    exact (h.cons hs).recorded.houses hjob
  · rw [hnumber]
    exact hnumbered.fromRoot.step hth (fun ha => absurd ha (by simp)) hs
  · rcases List.mem_cons.mp he with rfl | he
    · exact absurd hnote (by simp)
    · have hseen := hnumbered.seen e he d.number (by rw [hnote]; rfl)
      omega

/-- **Every started task is entrusted.** -/
theorem Family.entrusted {f : Family} (h : f.Reachable) :
    ∀ d ∈ f.born, d.child.kind = .task → Entrusted f.events f.world d := by
  induction h with
  | refl => exact fun d hd => absurd hd (by simp [start])
  | @tail f g h hs ih =>
    cases hs with
    | choose child hth hfree => exact ih
    | @act k a w note new ho hb hs =>
      intro d hd hkind
      rcases List.mem_append.mp hd with hnew | hold
      · have hborn := (hb.of_mem hnew).2
        rw [hkind] at hborn
        obtain ⟨rfl, hnumber⟩ := hborn
        exact entrusted_of_scope (Reachable.run h) hs hnumber
      · exact (ih d hold hkind).step (fun ha => ho.poll d hold hkind ha) hs

/-! ## Tasks that are refused -/

/-- **A task that is polled from root is refused its container only if that is destroyed**, and
unless the task is completed its future was never executed. -/
theorem Entrusted.of_failed {why : Refusal} (h : Entrusted es w d) (hrun : Run .start es w)
    (hsize : ∀ n, d.home = .managed n → n < w.pool.containers.size)
    (hpoll : a = .perform (.poll d.number) → ∀ th, w.threads[k]? = some th →
      th.slot.current = .root)
    (hs : w.step k a = some (v, .failed d.number why)) :
    why = .notRunning ∧ (∃ n, d.home = .managed n ∧ w.Destroyed n) ∧
      (¬ Completed d.number es → ∀ e ∈ es, ∀ place visit,
        e.note ≠ .polled d.number place visit) := by
  obtain ⟨th, hth⟩ := World.exists_thread hs
  rcases World.did_of_failed hth hs with ⟨ha, j, hj, hi, hchoose⟩ | ⟨j, calls, hcalls, hi, hattach⟩
  · -- a thread that is bound to root is always let on its way
    rw [hpoll ha th hth] at hchoose
    cases hcontainer : j.scope.container <;>
      simp [Scope.choose, hcontainer, Handle.isRoot] at hchoose
  · obtain ⟨n, hn, -, hacquire⟩ := Scope.acquire_of_attach_eq_error hattach
    obtain ⟨hphase, rfl⟩ := Pool.acquire_eq_error_iff.mp hacquire
    have hhome : d.home = .managed n := by
      rw [← hn, h.houses.of_call (List.mem_of_getElem? hth) (hcalls ▸ List.mem_cons_self ..) hi]
    refine ⟨rfl, ⟨n, hhome, hsize n hhome, hphase⟩, fun hc e he place visit hnote => ?_⟩
    obtain rfl := (h.polled e he place visit hnote).2 (by simp [hhome])
    exact hrun.recorded.not_failed hc ⟨e, he, place, hnote⟩ hs

/-! ## Tasks that are polled -/

/-- A container that a thread comes to with a task, and has or makes the attachment to, is not
destroyed. -/
theorem World.Sound.open_of_attach (hw : w.Sound) {j : Job} (hj : j ∈ w.jobs) {t : Scope} {q : Pool}
    (h : j.scope.attach w.pool = .ok (t, q)) : w.Open j.scope.container := by
  intro n hn
  have hrunning : w.pool.phase (.managed n) = .running := by
    obtain ⟨-, -, hroot | hattached⟩ | ⟨m, hm, -, hacquire, -⟩ := Scope.attach_cases h
    · exact absurd (hroot.symm.trans hn) (by simp)
    · exact hw.settled.running (hw.attached_pos_of_job hj
        (by simp [Job.holds, Scope.holds, hattached, hn]))
    · obtain rfl := Handle.managed.inj (hm.symm.trans hn)
      exact (Pool.acquire_eq_ok_iff.mp hacquire).1
  exact World.open_of_running hrunning n rfl

/-- A poll on its way to a task comes to the future or is refused. -/
theorem World.yields_of_going {P : Note → Prop} (hw : w.Sound) {s : Slot} {j : Job}
    {visit : Scope.Visit} {calls : List Call}
    (hth : w.threads[k]? = some ⟨s, .poll j (.going visit) :: calls⟩)
    (hvisit : visit ≠ .bound → j.scope.container = .root)
    (hfailed : P (.failed j.number .notRunning))
    (hpolled : w.Open j.scope.container → ∀ visit, P (.polled j.number j.scope.container visit)) :
    w.Yields k P 2 := by
  by_cases hbound : visit = .bound
  · subst hbound
    cases hattach : j.scope.attach w.pool with
    | error why =>
      obtain ⟨n, -, -, hacquire⟩ := Scope.acquire_of_attach_eq_error hattach
      obtain ⟨-, rfl⟩ := Pool.acquire_eq_error_iff.mp hacquire
      have hnext : Call.next w.pool s (.poll j (.going .bound)) =
          some ⟨w.pool, s, none, some j, .failed j.number .notRunning⟩ := by
        simp [Call.next, PollStage.next, hattach]
      exact yields_of_note hth hnext hfailed
    | ok r =>
      obtain ⟨t, q⟩ := r
      obtain ⟨hj, -⟩ := mem_of_poll (List.mem_of_getElem? hth) (List.mem_cons_self ..)
      have hsame : t.container = j.scope.container := by
        obtain ⟨rfl, -⟩ | ⟨n, -, -, -, rfl⟩ := Scope.attach_cases hattach
        · rfl
        · rfl
      have hnext : Call.next w.pool s (.poll j (.going .bound)) =
          some ⟨q, s, some (.poll ⟨j.number, t⟩ .acquired), none, .quiet⟩ := by
        simp [Call.next, PollStage.next, hattach]
      have hanswer := hpolled (hw.open_of_attach hj hattach) .bound
      rw [← hsame] at hanswer
      exact yields_of_next hth hnext fun es v _ hth' => yields_of_note hth' rfl hanswer
  · have hopen : w.Open j.scope.container := by
      rw [hvisit hbound]
      exact w.open_root
    have hnext : Call.next w.pool s (.poll j (.going visit)) =
        some ⟨w.pool, j.scope.bind s visit, some (.poll j (.inside visit)), none,
          .polled j.number j.scope.container visit⟩ := by
      cases visit with
      | bound => exact absurd rfl hbound
      | _ => rfl
    exact yields_of_note hth hnext (hpolled hopen visit)

/-- **Whoever polls a task from root** comes to the future or is refused, whatever other threads do
meanwhile.  It does not come to the future once the container is destroyed. -/
theorem World.Houses.poll_answered {home : Handle} {P : Note → Prop} (h : w.Houses i home)
    (hw : w.Sound) (hth : w.threads[k]? = some th) (hfree : th.isFree = true)
    (hcur : th.slot.current = .root) (hi : ∃ j ∈ w.tasks, j.number = i)
    (hfailed : P (.failed i .notRunning))
    (hpolled : w.Open home → ∀ visit, P (.polled i home visit)) :
    ∃ u, w.step k (.perform (.poll i)) = some (u, .quiet) ∧
      ∀ es v, Run u es v → (∀ e ∈ es, e.thread ≠ k) → v.Yields k P 2 := by
  obtain ⟨j, tasks, ht⟩ := exists_takeJob hi
  obtain rfl := takeJob_number ht
  obtain rfl := h.of_task (mem_of_takeJob ht) rfl
  obtain ⟨visit, hchoose, hvisit⟩ : ∃ visit, j.scope.choose th.slot.current = .ok visit ∧
      (visit ≠ .bound → j.scope.container = .root) := by
    rw [hcur]
    cases hcontainer : j.scope.container <;> simp [Scope.choose, hcontainer, Handle.isRoot]
  have hstart : startPoll w.pool th.slot j =
      ⟨w.pool, th.slot, some (.poll j (.going visit)), none, .quiet⟩ := by
    simp [startPoll, hchoose]
  have hstep := step_poll hth hfree ht
  rw [hstart] at hstep
  refine ⟨_, hstep, fun es v hrun hothers => ?_⟩
  have hlater := (Run.nil.cons hstep).trans hrun
  have hthread := getElem?_run_of_ne hrun
    (getElem?_after (List.getElem?_eq_some_iff.mp hth).1) hothers
  exact yields_of_going (hlater.sound hw) hthread hvisit hfailed fun hopen =>
    hpolled (hopen.of_run hlater hw)

end Steps

end ResourceContainers.Interleaving
