import ResourceContainers.Proofs.Interleaving.Undisturbed
import ResourceContainers.Proofs.Interleaving.Wards
import ResourceContainers.Proofs.Starting

/-!
# Scripts as families

A script runs one command after the other: it waits for the threads that it starts, and goes on when
an executor is through with a task.  In a family the same is done by single steps, and nobody waits.
Here a family takes the steps of a script, one after the other, while no thread steps in that the
script does not start itself.

* `Family.At`: a thread of a family is where the running thread of a machine is.
* `Family.Enacts`: the steps that lead from one machine to another.
* `Family.Begins`, `Family.Performs`: a body is executed where it belongs.
* `Family.spawn_enacted`: a thread is started by `Script.spawn`.
* `Family.poll_enacted`, `Family.drive_enacted`: a task is polled again and again.
* `Family.spawnTask_enacted`: a task is started by `Script.spawnTask`.

The code that the child executes is any computation.  All that is asked of it is that a family can
go on as it does, wherever it begins to be executed as the body of that child.
-/

namespace ResourceContainers

open Script (Machine Exec Polled Runner Work Worker outcome)

variable {ω α : Type}

namespace Interleaving

/-! ## What is seen of a poll -/

/-- What is seen of a poll of a task when it is over. -/
def Note.ofPoll (task : Nat) : Polled → Note
  | .pending => .ended task .pending
  | .ready _ => .ended task .done
  | .refused why => .failed task why
  | .panicked _ => .ended task .panicked

theorem Note.exists_ending {polled : Polled} (h : ∀ why, polled ≠ .refused why) (task : Nat) :
    ∃ ending : Ending,
      ofPoll task polled = .ended task ending ∧ (ending == .done) = polled.isReady := by
  cases polled with
  | refused why => exact absurd rfl (h why)
  | _ => exact ⟨_, rfl, rfl⟩

/-! ## A thread of a family and the thread of a machine -/

theorem Straight.getElem?_of_ne {w v : World} {k l : Nat} {a : Act} {note : Note}
    (h : Straight w k a note v) (hl : l ≠ k) {th : Thread} (hth : w.threads[l]? = some th) :
    v.threads[l]? = some th := by
  induction h with
  | once hs => exact World.getElem?_step_of_ne hs (Ne.symm hl) hth
  | next h hs ih => exact World.getElem?_step_of_ne hs (Ne.symm hl) ih

namespace Family

/-- The thread `k` is bound as the running thread of the machine is, and the pool is the same. -/
structure At (f : Family) (k : Nat) (calls : List Call) (m : Machine ω) : Prop where
  pool : f.world.pool = m.pool
  thread : f.world.threads[k]? = some ⟨m.worker.slot, calls⟩

/-- A thread that executes code.  The only code of a started thread is that of its body. -/
structure Executing (f : Family) (k : Nat) (calls : List Call) : Prop where
  free : calls.head?.all Call.isInside = true
  body : calls = [] → ∀ d ∈ f.born, d.child.kind = .thread → d.number ≠ k

/-- The family `f` goes on to `g`, where the thread `k` is at the machine `m`.  The other threads
that were there are as they were. -/
structure Enacts (f : Family) (k : Nat) (calls : List Call) (m : Machine ω) (g : Family) :
    Prop where
  leads : f.Leads g
  arrives : g.At k calls m
  others : ∀ l th, l ≠ k → f.world.threads[l]? = some th → g.world.threads[l]? = some th

/-- The thread `k` has just begun to execute the descendant `d`, and is bound to its container. -/
structure Begins (f : Family) (d : Descendant) (k : Nat) (calls : List Call) : Prop where
  born : d ∈ f.born
  bound : ∃ s, f.world.threads[k]? = some ⟨s, calls⟩ ∧ s.current = d.home
  last : match d.child.kind with
    | .thread => k = d.number ∧ lastOf k f.events = some (.entered d.home) ∧
        ∃ way, calls = [.run d.home (.inside way)]
    | .task => ∃ visit j outer, lastOf k f.events = some (.polled d.number d.home visit) ∧
        calls = .poll j (.inside visit) :: outer ∧ j.number = d.number

/-- Wherever a thread begins to execute `d`, the family can go on as the computation does. -/
def Performs (f : Family) (d : Descendant) (x : Exec ω α) : Prop :=
  ∀ g k calls (m : Machine ω), f.Leads g → g.Begins d k calls → g.At k calls m →
    ∃ g', g.Enacts k calls (outcome x m).2 g'

variable {f g g' : Family} {k : Nat} {a : Act} {note : Note} {calls calls' : List Call} {s : Slot}
  {v : World} {m m' : Machine ω} {d : Descendant}

theorem At.lt (hat : f.At k calls m) : k < f.world.threads.length :=
  (List.getElem?_eq_some_iff.mp hat.thread).1

theorem Enacts.refl (hat : f.At k calls m) : f.Enacts k calls m f :=
  ⟨.refl, hat, fun _ _ _ hth => hth⟩

theorem Enacts.trans (h : f.Enacts k calls m g) (h' : g.Enacts k calls' m' g') :
    f.Enacts k calls' m' g' :=
  ⟨h.leads.trans h'.leads, h'.arrives,
    fun l th hl hth => h'.others l th hl (h.others l th hl hth)⟩

/-- Only the pool and the slot of the running thread matter. -/
theorem Enacts.congr (h : f.Enacts k calls m g) (hpool : m.pool = m'.pool)
    (hslot : m.worker.slot = m'.worker.slot) : f.Enacts k calls m' g :=
  ⟨h.leads, ⟨h.arrives.pool.trans hpool, hslot ▸ h.arrives.thread⟩, h.others⟩

/-- A thread that waits for another one goes on where it was, with the pool that the other one
leaves. -/
theorem Enacts.of_worker {v : Family} {l : Nat} (hat : f.At k calls m) (hleads : f.Leads v)
    (hwaits : ∀ (i : Nat) (th : Thread), f.world.threads[i]? = some th →
      i ≠ l ∧ v.world.threads[i]? = some th)
    (h : v.Enacts l calls' m' g) : f.Enacts k calls { m' with worker := m.worker } g := by
  have hstay (i : Nat) (th : Thread) (hth : f.world.threads[i]? = some th) :
      g.world.threads[i]? = some th := by
    obtain ⟨hi, hthread⟩ := hwaits i th hth
    exact h.others i th hi hthread
  exact ⟨hleads.trans h.leads, ⟨h.arrives.pool, hstay k _ hat.thread⟩,
    fun i th _ hth => hstay i th hth⟩

theorem Performs.of_leads {x : Exec ω α} (h : f.Performs d x) (hleads : f.Leads g) :
    g.Performs d x :=
  fun v k calls m hv => h v k calls m (hleads.trans hv)

/-- Whatever code does is orderly, except for a poll that is not made from root. -/
theorem Executing.orderly (h : f.Executing k calls) (hth : f.world.threads[k]? = some ⟨s, calls⟩)
    {deed : Deed} (hpoll : ∀ i, deed = .poll i → s.current = .root) :
    f.Orderly k (.perform deed) where
  body d hd hkind hk s' hth' := by
    have hcalls : calls = [] := (Thread.mk.inj (Option.some.inj (hth.symm.trans hth'))).2
    exact absurd hk (h.body hcalls d hd hkind)
  poll d hd hkind ha th hth' := by
    obtain rfl := Option.some.inj (hth.symm.trans hth')
    exact hpoll d.number (Act.perform.inj ha)

theorem Executing.step_perform (h : f.Executing k calls) (hat : f.At k calls m) (deed : Deed) :
    f.world.step k (.perform deed) = f.world.perform k ⟨m.worker.slot, calls⟩ deed := by
  simp [World.step, hat.thread, Thread.isFree, h.free]

theorem orderly_of_call {c : Call} (hth : f.world.threads[k]? = some ⟨s, c :: calls⟩)
    (ha : ∀ i, a ≠ .perform (.poll i)) : f.Orderly k a where
  body d hd hkind hk s' hth' := by
    have hcalls : c :: calls = [] := (Thread.mk.inj (Option.some.inj (hth.symm.trans hth'))).2
    exact absurd hcalls (by simp)
  poll d hd hkind h := absurd h (ha d.number)

/-- A thread that takes its accesses one after the other takes them in a family. -/
theorem exists_leads (ho : f.Orderly k a) (h : Straight f.world k a note v) :
    ∃ g, f.Leads g ∧ g.world = v ∧ g.born = f.born ∧ lastOf k g.events = some note := by
  induction h with
  | once hs =>
    exact ⟨_, .single (.act ho (.none a) hs), rfl, rfl, lastOf_cons_self rfl⟩
  | @next note note' u v h hs ih =>
    obtain ⟨g, hleads, rfl, hborn, -⟩ := ih
    obtain ⟨⟨s, calls⟩, hth⟩ := World.exists_thread hs
    cases calls with
    | nil => exact absurd hs (by simp [World.step, hth])
    | cons c calls =>
      have ho' : g.Orderly k .next := orderly_of_call hth (by simp)
      exact ⟨_, hleads.tail (.act ho' (.none .next) hs), rfl, hborn, lastOf_cons_self rfl⟩

theorem exists_enacts {u : World} {mv : Move} (ho : f.Orderly k a)
    (h : Straight f.world k a note (u.after k calls mv)) (hk : k < u.threads.length)
    (hpool : mv.pool = m.pool) (hslot : mv.slot = m.worker.slot) :
    ∃ g, f.Enacts k (mv.call.toList ++ calls) m g ∧ g.world = u.after k calls mv ∧
      g.born = f.born ∧ lastOf k g.events = some note := by
  obtain ⟨g, hleads, hworld, hborn, hlast⟩ := exists_leads ho h
  have hthread := @World.getElem?_after u k calls mv hk
  rw [hslot, ← hworld] at hthread
  have hpool' : g.world.pool = m.pool := (congrArg World.pool hworld).trans hpool
  exact ⟨g, ⟨hleads, ⟨hpool', hthread⟩, fun l th hl hth => hworld ▸ h.getElem?_of_ne hl hth⟩,
    hworld, hborn, hlast⟩

/-! ## Into a container and back -/

/-- A run goes in as the running thread of the machine does. -/
theorem exists_entered (hat : f.At k calls m) (hfree : calls.head?.all Call.isInside = true)
    {h : Handle} (ho : f.Orderly k (.perform (.run h))) {way : Passage} {p : Pool}
    (hinto : Passage.into m.pool m.worker.slot h = .ok (way, p, s)) :
    ∃ g, f.Enacts k (.run h (.inside way) :: calls) ({ m with pool := p }.withSlot s) g ∧
      g.born = f.born ∧ lastOf k g.events = some (.entered h) := by
  have hstraight := World.run_undisturbed hat.thread hfree h
  rw [entered, hat.pool, hinto] at hstraight
  obtain ⟨g, henacts, -, hrest⟩ :=
    exists_enacts (m := { m with pool := p }.withSlot s) ho hstraight hat.lt rfl rfl
  exact ⟨g, henacts, hrest⟩

theorem exists_left {h : Handle} {way : Passage}
    (hat : f.At k (.run h (.inside way) :: calls) m) :
    ∃ g, f.Enacts k calls (m.left way) g ∧ lastOf k g.events = some (.returned h) := by
  have hstraight := World.return_undisturbed hat.thread (by simp : Ending.done ≠ .pending)
  rw [hat.pool] at hstraight
  obtain ⟨g, henacts, -, -, hlast⟩ := exists_enacts (m := m.left way)
    (orderly_of_call hat.thread (by simp)) hstraight hat.lt rfl rfl
  exact ⟨g, henacts, hlast⟩

/-! ## Threads that are started -/

/-- Where a thread is bound, it may start a child, because the container that the child inherits
runs. -/
theorem phase_inherited {w : World} (hw : w.Sound) {th : Thread} (hth : th ∈ w.threads)
    (child : Child) : w.pool.phase (inherited w.pool th.slot child) = .running := by
  rcases inherited_eq w.pool th.slot child with hsame | hroot
  · rw [hsame]
    cases hcur : th.slot.current with
    | root => rfl
    | managed n => exact (hw.running_of_bound hth (.inl hcur)).1
  · rw [hroot]
    rfl

theorem exists_into {p : Pool} {h : Handle} (hphase : p.phase h = .running) :
    ∃ way q s, Passage.into p .fresh h = .ok (way, q, s) ∧ s.current = h := by
  cases h with
  | root => exact ⟨_, _, _, rfl, rfl⟩
  | managed n =>
    obtain ⟨q, hacquire⟩ : ∃ q, p.acquire n = .ok q :=
      ⟨_, Pool.acquire_eq_ok_iff.mpr ⟨hphase, rfl⟩⟩
    refine ⟨.attach n, q, .bound (.managed n), ?_, rfl⟩
    simp [Passage.into, Passage.choose, Passage.enter, hphase, hacquire, Slot.fresh, Slot.current,
      Handle.isRoot, Slot.bind]

theorem number_lt (h : f.Reachable) (hd : d ∈ f.born) (hkind : d.child.kind = .thread) :
    d.number < f.world.threads.length := by
  have hthread : ∃ th, f.world.threads[d.number]? = some th := by
    rcases heir h d hd hkind with hout | hin
    · cases hout with
      | waiting hth => exact ⟨_, hth⟩
      | entering hth => exact ⟨_, hth⟩
      | refused hth => exact ⟨_, hth⟩
    · cases hin with
      | acquired hth => exact ⟨_, hth⟩
      | running hth => exact ⟨_, hth⟩
      | ended hth => exact ⟨_, hth⟩
  obtain ⟨th, hth⟩ := hthread
  exact (List.getElem?_eq_some_iff.mp hth).1

/-- A thread that is started begins to execute its body at once, if it is not disturbed. -/
theorem exists_begins (h : f.Reachable) (hexec : f.Executing k calls) (hat : f.At k calls m)
    {name : Option String} {home : Handle}
    (hhome : home = inherited m.pool m.worker.slot ⟨name, .thread⟩) {n : Nat}
    (hn : n = f.world.threads.length) :
    ∃ (v : Family) (way : Passage) (p : Pool) (s : Slot),
      Passage.into m.pool .fresh home = .ok (way, p, s) ∧ f.Leads v ∧
      v.Begins ⟨⟨⟨name, .thread⟩, home⟩, n⟩ n [.run home (.inside way)] ∧
      v.At n [.run home (.inside way)] (m.inherits name home p s) ∧
      ∀ (i : Nat) (th : Thread), f.world.threads[i]? = some th →
        i ≠ n ∧ v.world.threads[i]? = some th := by
  subst hn
  have hspawn : f.world.step k (.perform .spawn) =
      some ({ f.world with threads := f.world.threads ++ [.fresh] }, .quiet) :=
    hexec.step_perform hat .spawn
  obtain ⟨u, hleads, hworld, hborn, hevents⟩ := exists_started (c := ⟨⟨name, .thread⟩, home⟩)
    hat.thread hexec.free (hat.pool ▸ hhome) (hexec.orderly hat.thread (by simp)) hspawn
  have hfresh : u.At f.world.threads.length []
      ({ m with worker := .fresh name } : Machine ω) := by
    refine ⟨hworld ▸ hat.pool, ?_⟩
    rw [hworld]
    exact List.getElem?_concat_length
  -- all that it does of itself is to run its body
  have horderly : u.Orderly f.world.threads.length (.perform (.run home)) := by
    refine ⟨fun d hd hkind hnumber s _ => ?_, by simp⟩
    rw [hborn] at hd
    rcases List.mem_cons.mp hd with rfl | hd
    · refine ⟨rfl, fun e he => ?_⟩
      rw [hevents] at he
      rcases List.mem_cons.mp he with rfl | he
      · exact Nat.ne_of_lt hat.lt
      · exact Nat.ne_of_lt (h.run.thread_lt e he)
    · exact absurd hnumber (Nat.ne_of_lt (number_lt h hd hkind))
  have hphase : m.pool.phase home = .running := by
    rw [hhome, ← hat.pool]
    exact phase_inherited h.sound (List.mem_of_getElem? hat.thread) _
  obtain ⟨way, p, s, hinto, hcurrent⟩ := exists_into hphase
  obtain ⟨v, hv, hvborn, hlast⟩ := exists_entered hfresh rfl horderly hinto
  refine ⟨v, way, p, s, hinto, hleads.trans hv.leads, ?_,
    ⟨hv.arrives.pool, hv.arrives.thread⟩, fun i th hth => ?_⟩
  · exact ⟨by rw [hvborn, hborn]; exact List.mem_cons_self .., ⟨_, hv.arrives.thread, hcurrent⟩,
      rfl, hlast, way, rfl⟩
  · have hi : i ≠ f.world.threads.length := Nat.ne_of_lt (List.getElem?_eq_some_iff.mp hth).1
    refine ⟨hi, hv.others i th hi ?_⟩
    rw [hworld]
    exact World.getElem?_spawned hth

/-- **A thread that `Script.spawn` starts is a descendant.**  Let a thread execute code, and let the
script be where that thread is.

If its body is performed wherever it begins, then the family goes on to where the script is when it
has waited for the thread.  On the way, the descendant begins to execute its body in the container
that it inherits; the script runs the body from there, and answers what becomes of it.  In the end
the descendant has returned from its container. -/
theorem spawn_enacted (h : f.Reachable) (hexec : f.Executing k calls) (hat : f.At k calls m)
    {name : Option String} (hname : Script.nameFault? name = none) {x : Exec ω Unit}
    (hd : d = ⟨⟨⟨name, .thread⟩, inherited m.pool m.worker.slot ⟨name, .thread⟩⟩,
      f.world.threads.length⟩)
    (hx : f.Performs d x) :
    ∃ v calls' m' g, f.Leads v ∧ v.Begins d d.number calls' ∧ v.At d.number calls' m' ∧
      v.Leads g ∧ f.Enacts k calls (outcome (Script.spawn name x) m).2 g ∧
      lastOf d.number g.events = some (.returned d.home) ∧
      (outcome (Script.spawn name x) m).1 =
        .ok (Script.threadAnswer ((outcome x m').1.map .ok)) := by
  obtain ⟨home, hhome⟩ : ∃ home, home = inherited m.pool m.worker.slot ⟨name, .thread⟩ := ⟨_, rfl⟩
  rw [← hhome] at hd
  subst hd
  obtain ⟨v, way, p, s, hinto, hleads, hbegins, hthere, hwaits⟩ :=
    exists_begins h hexec hat hhome rfl
  obtain ⟨g, hg⟩ := hx v _ _ _ hleads hbegins hthere
  obtain ⟨g', hg', hreturned⟩ := exists_left hg.arrives
  have hback := hg.trans hg'
  refine ⟨v, _, _, g', hleads, hbegins, hthere, hback.leads, ?_, hreturned, ?_⟩
  · rw [Script.outcome_spawn hname x hhome hinto]
    exact (Enacts.of_worker hat hleads hwaits hback).congr rfl rfl
  · rw [Script.outcome_spawn hname x hhome hinto]

/-! ## Tasks that are started -/

/-- Other threads may have been started meanwhile, but each of them is one that was not there. -/
theorem Leads.born_cases (h : f.Leads g) : ∀ d ∈ g.born, d.child.kind = .thread →
    d ∈ f.born ∨ f.world.threads.length ≤ d.number := by
  induction h with
  | refl => exact fun d hd _ => .inl hd
  | @tail g g' h hs ih =>
    cases hs with
    | choose child hth hfree => exact ih
    | @act l a w note new ho hb hs =>
      intro d hd hkind
      rcases List.mem_append.mp hd with hnew | hold
      · have hborn := (hb.of_mem hnew).2
        rw [hkind] at hborn
        obtain ⟨es, -, -, hrun, -⟩ := Leads.exists_run h
        rw [hborn.2]
        exact .inr hrun.length_le
      · exact ih d hold hkind

theorem Executing.of_leads (hexec : f.Executing k calls) (hat : f.At k calls m) (h : f.Leads g) :
    g.Executing k calls where
  free := hexec.free
  body hcalls d hd hkind := by
    rcases Leads.born_cases h d hd hkind with hold | hnew
    · exact hexec.body hcalls d hold hkind
    · exact Nat.ne_of_gt (Nat.lt_of_lt_of_le hat.lt hnew)

theorem Enacts.slot_eq (h : f.Reachable) (hat : f.At k calls m) (he : f.Enacts k calls m' g) :
    m'.worker.slot = m.worker.slot := by
  have hbefore := (h.sound.threads _ (List.mem_of_getElem? hat.thread)).slot_eq
  have hafter := ((h.trans he.leads).sound.threads _
    (List.mem_of_getElem? he.arrives.thread)).slot_eq
  exact hafter.trans hbefore.symm

theorem takeJob_head (j : Job) (tasks : List Job) :
    takeJob j.number (j :: tasks) = some (j, tasks) := by
  simp [takeJob]

section Polls

variable {j : Job} {tasks : List Job} {visit : Scope.Visit} {t : Scope} {p : Pool}

/-- A poll is refused where the running thread of the machine is refused. -/
theorem exists_failed (hat : f.At k calls m) (hfree : calls.head?.all Call.isInside = true)
    (ho : f.Orderly k (.perform (.poll j.number)))
    (hj : takeJob j.number f.world.tasks = some (j, tasks)) {why : Refusal}
    (henter : j.scope.enter m.pool m.worker.slot = .error why) :
    ∃ g tasks', f.Enacts k calls m g ∧ takeJob j.number g.world.tasks = some (j, tasks') ∧
      lastOf k g.events = some (.failed j.number why) := by
  have hstraight := World.poll_undisturbed hat.thread hfree hj
  have hlt : k < ({ f.world with tasks := tasks } : World).threads.length := hat.lt
  rw [visited, hat.pool, henter] at hstraight
  obtain ⟨g, hg, hworld, -, hlast⟩ := exists_enacts (m := m) ho hstraight hlt rfl rfl
  exact ⟨g, tasks, hg, by rw [hworld]; exact takeJob_head j tasks, hlast⟩

/-- A poll goes to its task as the running thread of the machine does. -/
theorem exists_visited (hat : f.At k calls m) (hfree : calls.head?.all Call.isInside = true)
    (ho : f.Orderly k (.perform (.poll j.number)))
    (hj : takeJob j.number f.world.tasks = some (j, tasks))
    (henter : j.scope.enter m.pool m.worker.slot = .ok (visit, t, p, s)) :
    ∃ g, f.Enacts k (.poll ⟨j.number, t⟩ (.inside visit) :: calls)
        ({ m with pool := p }.withSlot s) g ∧
      g.born = f.born ∧ lastOf k g.events = some (.polled j.number t.container visit) := by
  have hstraight := World.poll_undisturbed hat.thread hfree hj
  have hlt : k < ({ f.world with tasks := tasks } : World).threads.length := hat.lt
  rw [visited, hat.pool, henter] at hstraight
  obtain ⟨g, hg, -, hrest⟩ :=
    exists_enacts (m := { m with pool := p }.withSlot s) ho hstraight hlt rfl rfl
  exact ⟨g, hg, hrest⟩

theorem exists_suspended (hat : f.At k (.poll j (.inside visit) :: calls) m) (ending : Ending) :
    ∃ g tasks, f.Enacts k calls (m.suspended j.scope visit (ending == .done)) g ∧
      takeJob j.number g.world.tasks = some
        (⟨j.number, (j.scope.leave m.pool m.worker.slot visit (ending == .done)).1⟩, tasks) ∧
      lastOf k g.events = some (.ended j.number ending) := by
  have hstraight := World.suspend_undisturbed hat.thread ending
  rw [hat.pool] at hstraight
  obtain ⟨g, hg, hworld, -, hlast⟩ :=
    exists_enacts (m := m.suspended j.scope visit (ending == .done))
      (orderly_of_call hat.thread (by simp)) hstraight hat.lt rfl rfl
  exact ⟨g, _, hg, by rw [hworld]; exact takeJob_head _ _, hlast⟩

end Polls

/-- A thread that comes to the future of a started task begins to execute it. -/
theorem begins_of_polled (h : f.Reachable) (hd : d ∈ f.born) (hkind : d.child.kind = .task)
    {t : Scope} {visit : Scope.Visit}
    (hth : f.world.threads[k]? = some ⟨s, .poll ⟨d.number, t⟩ (.inside visit) :: calls⟩)
    (hlast : lastOf k f.events = some (.polled d.number t.container visit)) :
    f.Begins d k (.poll ⟨d.number, t⟩ (.inside visit) :: calls) := by
  have hhouses := (entrusted h d hd hkind).houses
  have hmem := List.mem_of_getElem? hth
  have hcontainer : t.container = d.home := hhouses.of_call hmem (List.mem_cons_self ..) rfl
  refine ⟨hd, ⟨s, hth, hhouses.current h.sound hmem rfl rfl⟩, ?_⟩
  rw [hkind]
  exact ⟨visit, _, calls, hcontainer ▸ hlast, rfl, rfl⟩

/-- **One poll of a started task from root.**  The future is performed where it begins, if it is
executed, and what is seen of the poll is what the script learns from it. -/
theorem poll_enacted (h : f.Reachable) (hd : d ∈ f.born) (hkind : d.child.kind = .task)
    (hexec : f.Executing k calls) (hat : f.At k calls m) (hroot : m.worker.slot.current = .root)
    {t : Script.Task ω} {tasks : List Job}
    (ht : takeJob d.number f.world.tasks = some (⟨d.number, t.scope⟩, tasks)) {run : Runner ω}
    (hrun : ∀ place, ∀ segment ∈ t.work.rest, f.Performs d (run place segment)) :
    ∃ t' polled g tasks', (outcome (t.poll run) m).1 = .ok (t', polled) ∧
      f.Enacts k calls (outcome (t.poll run) m).2 g ∧
      takeJob d.number g.world.tasks = some (⟨d.number, t'.scope⟩, tasks') ∧
      (∀ segment ∈ t'.work.rest, segment ∈ t.work.rest) ∧
      lastOf k g.events = some (.ofPoll d.number polled) := by
  have horderly : f.Orderly k (.perform (.poll d.number)) :=
    hexec.orderly hat.thread fun _ _ => hroot
  cases henter : t.scope.enter m.pool m.worker.slot with
  | error why =>
    obtain ⟨g, tasks', hg, hj, hlast⟩ :=
      exists_failed (j := ⟨d.number, t.scope⟩) hat hexec.free horderly ht henter
    rw [Script.outcome_taskPoll, henter]
    exact ⟨t, .refused why, g, tasks', rfl, hg, hj, fun _ h => h, hlast⟩
  | ok entry =>
    obtain ⟨visit, scope, p, s⟩ := entry
    obtain ⟨u, hu, hborn, hlast⟩ :=
      exists_visited (j := ⟨d.number, t.scope⟩) hat hexec.free horderly ht henter
    have hbegins : u.Begins d k (.poll ⟨d.number, scope⟩ (.inside visit) :: calls) :=
      begins_of_polled (h.trans hu.leads) (hborn ▸ hd) hkind hu.arrives.thread hlast
    have hthere : u.At k (.poll ⟨d.number, scope⟩ (.inside visit) :: calls)
        (m.visiting scope p s) := ⟨hu.arrives.pool, hu.arrives.thread⟩
    obtain ⟨w, polled, hwork, hrest, hpolled, hstate⟩ :=
      Script.exists_outcome_workPoll run t.work (m.visiting scope p s)
    -- a segment is performed, or nothing is executed
    have hperformed : ∃ v, u.Enacts k (.poll ⟨d.number, scope⟩ (.inside visit) :: calls)
        (outcome (t.work.poll run) (m.visiting scope p s)).2 v := by
      rcases hstate with hsame | ⟨place, segment, hsegment, hsame⟩
      · rw [hsame]
        exact ⟨u, .refl hthere⟩
      · rw [hsame]
        exact hrun place segment hsegment u k _ _ hu.leads hbegins hthere
    obtain ⟨v, hv⟩ := hperformed
    obtain ⟨ending, hnote, hready⟩ := Note.exists_ending hpolled d.number
    obtain ⟨g, tasks', hg, hj, hended⟩ := exists_suspended hv.arrives ending
    rw [hready] at hg hj
    rw [Script.outcome_taskPoll_of_enter henter hwork]
    exact ⟨_, polled, g, tasks', rfl, ((hu.trans hv).trans hg).congr rfl rfl, hj, hrest,
      hnote ▸ hended⟩

theorem exists_event {es : List Event} (h : lastOf k es = some note) : ∃ e ∈ es, e.note = note := by
  obtain ⟨e, he, hnote⟩ := Option.map_eq_some_iff.mp h
  exact ⟨e, List.mem_of_find?_eq_some he, hnote⟩

/-- **A started task that is polled from root until it is through.** -/
theorem drive_enacted (h : f.Reachable) (hd : d ∈ f.born) (hkind : d.child.kind = .task)
    (hexec : f.Executing k calls) (hat : f.At k calls m) (hroot : m.worker.slot.current = .root)
    {t : Script.Task ω} {tasks : List Job}
    (ht : takeJob d.number f.world.tasks = some (⟨d.number, t.scope⟩, tasks)) {run : Runner ω}
    (hrun : ∀ place, ∀ segment ∈ t.work.rest, f.Performs d (run place segment)) (count : Nat) :
    ∃ t' polled g tasks', (outcome (t.drive run count) m).1 = .ok (t', polled) ∧
      f.Enacts k calls (outcome (t.drive run count) m).2 g ∧
      takeJob d.number g.world.tasks = some (⟨d.number, t'.scope⟩, tasks') ∧
      ∃ e ∈ g.events, e.note = .ofPoll d.number polled := by
  induction count generalizing f m t tasks with
  | zero =>
    obtain ⟨t', polled, g, tasks', hresult, hg, hj, -, hlast⟩ :=
      poll_enacted h hd hkind hexec hat hroot ht hrun
    exact ⟨t', polled, g, tasks', hresult, hg, hj, exists_event hlast⟩
  | succ count ih =>
    obtain ⟨t', polled, u, tasks', hresult, hu, hj, hrest, hlast⟩ :=
      poll_enacted h hd hkind hexec hat hroot ht hrun
    by_cases hpending : polled = .pending
    · subst hpending
      have hroot' : (outcome (t.poll run) m).2.worker.slot.current = .root :=
        (congrArg Slot.current (hu.slot_eq h hat)).trans hroot
      obtain ⟨t'', polled, g, tasks'', hresult', hg, hrest'⟩ := ih (h.trans hu.leads)
        (Leads.mem_born hu.leads hd) (hexec.of_leads hat hu.leads) hu.arrives hroot' hj
        fun place segment hsegment =>
          (hrun place segment (hrest segment hsegment)).of_leads hu.leads
      rw [Script.outcome_drive_of_pending hresult]
      exact ⟨t'', polled, g, tasks'', hresult', hu.trans hg, hrest'⟩
    · rw [Script.outcome_drive_of_through hresult hpending]
      exact ⟨t', polled, u, tasks', hresult, hu, hj, exists_event hlast⟩

/-- **A started task that an executor polls from root until it is through, and drops.** -/
theorem complete_enacted (h : f.Reachable) (hd : d ∈ f.born) (hkind : d.child.kind = .task)
    (hexec : f.Executing k calls) (hat : f.At k calls m) (hroot : m.worker.slot.current = .root)
    {t : Script.Task ω} {tasks : List Job}
    (ht : takeJob d.number f.world.tasks = some (⟨d.number, t.scope⟩, tasks)) {run : Runner ω}
    (hrun : ∀ place, ∀ segment ∈ t.work.rest, f.Performs d (run place segment)) :
    ∃ polled g, (outcome (t.complete run) m).1 = .ok polled ∧
      f.Enacts k calls (outcome (t.complete run) m).2 g ∧
      ∃ e ∈ g.events, e.note = .ofPoll d.number polled := by
  have hat' : f.At k calls { m with held := [t.scope.container] ++ m.held } :=
    ⟨hat.pool, hat.thread⟩
  obtain ⟨t', polled, u, tasks', hresult, hu, hj, e, he, hnote⟩ :=
    drive_enacted h hd hkind hexec hat' hroot ht hrun t.work.rest.length
  rw [Script.outcome_complete hresult]
  generalize (outcome (t.drive run t.work.rest.length)
    { m with held := [t.scope.container] ++ m.held }).2 = m' at hu ⊢
  have hexec' : u.Executing k calls := hexec.of_leads hat hu.leads
  have hdrop : u.world.step k (.perform (.drop d.number)) = some
      ({ u.world with tasks := tasks' }.after k calls
        ⟨(t'.scope.release m'.pool).2, m'.worker.slot, none, none, .quiet⟩, .quiet) := by
    rw [hexec'.step_perform hu.arrives]
    simp [World.perform, hj, hu.arrives.pool]
  have horderly : u.Orderly k (.perform (.drop d.number)) :=
    hexec'.orderly hu.arrives.thread (by simp)
  have hlt : k < ({ u.world with tasks := tasks' } : World).threads.length := hu.arrives.lt
  obtain ⟨g, hg, -, -, -⟩ := exists_enacts
    (m := { m' with held := m.held, pool := (t'.scope.release m'.pool).2 })
    horderly (.once hdrop) hlt rfl rfl
  obtain ⟨es, -, hevents, -, -⟩ := Leads.exists_run hg.leads
  exact ⟨polled, g, rfl, hu.trans hg, e, hevents ▸ List.mem_append_right _ he, hnote⟩

/-- A task that is started can be polled at once. -/
theorem exists_started_task (hexec : f.Executing k calls) (hat : f.At k calls m) {home : Handle}
    (hhome : home = inherited m.pool m.worker.slot ⟨none, .task⟩) {i : Nat}
    (hi : i = f.world.nextTask) :
    ∃ u tasks, f.Enacts k calls m u ∧ ⟨⟨⟨none, .task⟩, home⟩, i⟩ ∈ u.born ∧
      takeJob i u.world.tasks = some (⟨i, .ofHandle home⟩, tasks) := by
  subst hi
  have hscope : f.world.step k (.perform (.scope home)) = some
      ({ f.world with nextTask := f.world.nextTask + 1 }.after k calls
        ⟨f.world.pool, m.worker.slot, none, some ⟨f.world.nextTask, .ofHandle home⟩, .quiet⟩,
        .quiet) :=
    hexec.step_perform hat (.scope home)
  obtain ⟨u, hleads, hworld, hborn, -⟩ := exists_started (c := ⟨⟨none, .task⟩, home⟩)
    hat.thread hexec.free (hat.pool ▸ hhome) (hexec.orderly hat.thread (by simp)) hscope
  have hothers (l : Nat) (th : Thread) (hl : l ≠ k) (hth : f.world.threads[l]? = some th) :
      u.world.threads[l]? = some th := by
    rw [hworld]
    exact World.getElem?_step_of_ne hscope (Ne.symm hl) hth
  have hthread : u.world.threads[k]? = some ⟨m.worker.slot, calls⟩ := by
    rw [hworld]
    exact World.getElem?_after hat.lt
  refine ⟨u, f.world.tasks, ⟨hleads, ⟨hworld ▸ hat.pool, hthread⟩, hothers⟩, ?_, ?_⟩
  · rw [hborn]
    exact List.mem_cons_self ..
  · rw [hworld]
    exact takeJob_head ..

/-- An executor starts a worker thread of its own, which inherits nothing. -/
theorem exists_worker (h : f.Reachable) (hexec : f.Executing k calls) (hat : f.At k calls m)
    (worker : Worker) (hworker : worker.slot = .fresh) :
    ∃ (g : Family) (l : Nat), f.Leads g ∧ g.born = f.born ∧ g.world.tasks = f.world.tasks ∧
      g.At l [] { m with worker := worker } ∧ g.Executing l [] ∧
      ∀ (i : Nat) (th : Thread), f.world.threads[i]? = some th →
        i ≠ l ∧ g.world.threads[i]? = some th := by
  have hspawn : f.world.step k (.perform .spawn) =
      some ({ f.world with threads := f.world.threads ++ [.fresh] }, .quiet) :=
    hexec.step_perform hat .spawn
  refine ⟨_, f.world.threads.length,
    .single (.act (hexec.orderly hat.thread (by simp)) (.none _) hspawn), rfl, rfl,
    ⟨hat.pool, ?_⟩, ⟨rfl, fun _ d hd hkind => Nat.ne_of_lt (number_lt h hd hkind)⟩,
    fun i th hth => ⟨Nat.ne_of_lt (List.getElem?_eq_some_iff.mp hth).1,
      World.getElem?_spawned hth⟩⟩
  rw [hworker]
  exact List.getElem?_concat_length

/-- **A task that `Script.spawnTask` starts is a descendant.**  Let a thread execute code, and let
the script be where that thread is; if it is to poll the task itself, let it be bound to root.

If the segments of the task are performed wherever it begins, then the family goes on to where the
script is when the executor is through with the task.  On the way the task is started, in the
container that it inherits, and what is seen of its last poll is what the script answers. -/
theorem spawnTask_enacted (h : f.Reachable) (hexec : f.Executing k calls) (hat : f.At k calls m)
    (hexecutor : m.worker.inExecutor = false) {run : Runner ω} {path : Script.Path}
    {flavor : Script.Flavor} {segments : List (List (Script.Command ω))}
    (hflavor : flavor = .calling → m.worker.slot.current = .root)
    (hd : d = ⟨⟨⟨none, .task⟩, inherited m.pool m.worker.slot ⟨none, .task⟩⟩, f.world.nextTask⟩)
    (hrun : ∀ place, ∀ segment ∈ segments, f.Performs d (run place segment)) :
    ∃ (polled : Polled) (g : Family),
      f.Enacts k calls (outcome (Script.spawnTask run path flavor segments) m).2 g ∧
      d ∈ g.born ∧ (∃ e ∈ g.events, e.note = .ofPoll d.number polled) ∧
      (outcome (Script.spawnTask run path flavor segments) m).1 = .ok polled.caught := by
  obtain ⟨home, hhome⟩ : ∃ home, home = inherited m.pool m.worker.slot ⟨none, .task⟩ := ⟨_, rfl⟩
  rw [← hhome] at hd
  obtain ⟨u, tasks, hu, hborn, ht⟩ := exists_started_task hexec hat hhome rfl
  rw [← hd] at hborn
  have hnumber : d.number = f.world.nextTask := by rw [hd]
  have hkind : d.child.kind = .task := by rw [hd]
  rw [← hnumber] at ht
  have hreach : u.Reachable := h.trans hu.leads
  have hperforms (place : Script.Path) (segment : List (Script.Command ω))
      (hsegment : segment ∈ segments) : u.Performs d (run place segment) :=
    (hrun place segment hsegment).of_leads hu.leads
  cases flavor with
  | calling =>
    have hthere : u.At k calls { m with worker := { m.worker with inExecutor := true } } :=
      ⟨hu.arrives.pool, hu.arrives.thread⟩
    obtain ⟨polled, g, hresult, hg, hseen⟩ := complete_enacted
      (t := ⟨.ofHandle home, .ofSegments path segments⟩) hreach hborn hkind
      (hexec.of_leads hat hu.leads) hthere (hflavor rfl) ht hperforms
    rw [Script.outcome_spawnTask_calling hexecutor hhome hresult]
    exact ⟨polled, g, (hu.trans hg).congr rfl rfl, Leads.mem_born hg.leads hborn, hseen, rfl⟩
  | worker =>
    obtain ⟨v, e, hleads, hborn', htasks, hthere, hexec', hwaits⟩ := exists_worker hreach
      (hexec.of_leads hat hu.leads) hu.arrives ⟨.fresh, some "worker", true⟩ rfl
    obtain ⟨polled, g, hresult, hg, hseen⟩ := complete_enacted
      (t := ⟨.ofHandle home, .ofSegments path segments⟩) (hreach.trans hleads) (hborn' ▸ hborn)
      hkind hexec' hthere rfl (htasks ▸ ht) fun place segment hsegment =>
        (hperforms place segment hsegment).of_leads hleads
    rw [Script.outcome_spawnTask_worker hexecutor hhome hresult]
    exact ⟨polled, g, hu.trans (Enacts.of_worker hu.arrives hleads hwaits hg),
      Leads.mem_born (hleads.trans hg.leads) hborn, hseen, rfl⟩

end Family

end Interleaving

end ResourceContainers
