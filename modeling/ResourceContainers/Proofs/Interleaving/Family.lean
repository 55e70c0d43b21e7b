import ResourceContainers.Inheritance
import ResourceContainers.Proofs.Interleaving.Lifecycle
import ResourceContainers.Proofs.Interleaving.Refusals
import Mathlib.Logic.Relation

/-!
# Children of children

Code starts a thread or a task by describing it.  The container for it is chosen at once, by the
thread that executes that code.  The child is there a little later, and enters its container later
still, on a thread of its own or on one that polls it.  In between anybody may leave the container,
destroy it, replace its policy, or start further children.

* `Family`: the steps so far, the world, what threads have chosen, and what was started.
* `Family.Step`: a choice, or a step of a thread, which may start what was chosen.
* `Family.Orderly`: a started thread does nothing but run its body in its container, and a started
  task is polled by threads that are bound to root.
* `Family.chosen`: what a thread has chosen, it has chosen since its last step.
* `Family.placed`: how the containers were chosen.

Nothing says who starts a child: a thread that was there from the beginning, the body of another
child, a command in root in the middle of a run, a future that is being polled.  So a family is a
tree of any depth.
-/

namespace ResourceContainers.Interleaving

/-! ## Families -/

/-- The container that a thread has chosen for a child. -/
structure Choice where
  child : Child
  home : Handle

/-- A thread or a task that was started, with its number. -/
structure Descendant extends Choice where
  number : Nat

/-- The step that starts a child. -/
def Choice.act (c : Choice) : Act :=
  match c.child.kind with
  | .thread => .perform .spawn
  | .task => .perform (.scope c.home)

/-- The child, once it is started. -/
def Choice.born (c : Choice) (w : World) : Descendant :=
  match c.child.kind with
  | .thread => ⟨c, w.threads.length⟩
  | .task => ⟨c, w.nextTask⟩

/-- Steps of threads, the newest first, and what they led to.  A thread that has made a choice has
it at hand until its next step. -/
structure Family where
  events : List Event
  world : World
  choices : Nat → Option Choice
  born : List Descendant

namespace Family

def start : Family := ⟨[], .start, fun _ => none, []⟩

/-- The thread `k` has chosen. -/
def choose (f : Family) (k : Nat) (c : Choice) : Family :=
  { f with choices := Function.update f.choices k (some c) }

/-- The thread `k` has taken a step. -/
def after (f : Family) (k : Nat) (a : Act) (note : Note) (w : World) (new : List Descendant) :
    Family :=
  ⟨⟨k, a, note⟩ :: f.events, w, Function.update f.choices k none, new ++ f.born⟩

/-- What the step `a` of the thread `k` must be like for the sake of what was started.  All that a
started thread does of itself is to run its body, once.  A started task is polled by threads that
are bound to root. -/
structure Orderly (f : Family) (k : Nat) (a : Act) : Prop where
  body : ∀ d ∈ f.born, d.child.kind = .thread → d.number = k →
    ∀ s, f.world.threads[k]? = some ⟨s, []⟩ →
      a = .perform (.run d.home) ∧ ∀ e ∈ f.events, e.thread ≠ k
  poll : ∀ d ∈ f.born, d.child.kind = .task → a = .perform (.poll d.number) →
    ∀ th, f.world.threads[k]? = some th → th.slot.current = .root

/-- What the thread `k` starts by a step: nothing, or the child that it has chosen a container
for. -/
inductive Births (f : Family) (k : Nat) : Act → List Descendant → Prop
  | none (a : Act) : Births f k a []
  | chosen {c : Choice} (hc : f.choices k = some c) : Births f k c.act [c.born f.world]

/-- A thread that executes code chooses a container for a child, or any thread takes a step. -/
inductive Step (f : Family) : Family → Prop
  | choose {k : Nat} {th : Thread} (child : Child) (hth : f.world.threads[k]? = some th)
      (hfree : th.isFree = true) :
      Step f (f.choose k ⟨child, inherited f.world.pool th.slot child⟩)
  | act {k : Nat} {a : Act} {w : World} {note : Note} {new : List Descendant}
      (ho : f.Orderly k a) (hb : f.Births k a new) (hs : f.world.step k a = some (w, note)) :
      Step f (f.after k a note w new)

/-- Steps of any threads in any order. -/
abbrev Leads : Family → Family → Prop := Relation.ReflTransGen Step

/-- What there is from the first step on. -/
def Reachable (f : Family) : Prop := start.Leads f

variable {f g : Family}

/-- A family is a run, and nothing that was started is forgotten. -/
theorem Leads.exists_run (h : f.Leads g) :
    ∃ es ds, g.events = es ++ f.events ∧ Run f.world es g.world ∧ g.born = ds ++ f.born := by
  induction h with
  | refl => exact ⟨[], [], rfl, .nil, rfl⟩
  | @tail g g' _ hs ih =>
    obtain ⟨es, ds, hevents, hrun, hborn⟩ := ih
    cases hs with
    | choose child hth hfree => exact ⟨es, ds, hevents, hrun, hborn⟩
    | @act k a w note new ho hb hs =>
      exact ⟨⟨k, a, note⟩ :: es, new ++ ds, congrArg (_ :: ·) hevents, hrun.cons hs,
        (congrArg (new ++ ·) hborn).trans (List.append_assoc ..).symm⟩

theorem Leads.mem_born (h : f.Leads g) {d : Descendant} (hd : d ∈ f.born) : d ∈ g.born := by
  obtain ⟨-, ds, -, -, hborn⟩ := h.exists_run
  exact hborn ▸ List.mem_append_right _ hd

theorem Reachable.trans (h : f.Reachable) (h' : f.Leads g) : g.Reachable :=
  Relation.ReflTransGen.trans h h'

theorem Reachable.run (h : f.Reachable) : Run .start f.events f.world := by
  obtain ⟨es, -, hevents, hrun, -⟩ := Leads.exists_run h
  rw [hevents]
  simpa [start] using hrun

theorem Reachable.sound (h : f.Reachable) : f.world.Sound := h.run.sound World.sound_start

end Family

/-- A thread that executes code chooses a container and starts a child at once. -/
theorem Family.exists_started {f : Family} {k : Nat} {th : Thread} {c : Choice} {w : World}
    {note : Note} (hth : f.world.threads[k]? = some th) (hfree : th.isFree = true)
    (hc : c.home = inherited f.world.pool th.slot c.child) (ho : f.Orderly k c.act)
    (hs : f.world.step k c.act = some (w, note)) :
    ∃ g, f.Leads g ∧ g.world = w ∧ g.born = c.born f.world :: f.born ∧
      g.events = ⟨k, c.act, note⟩ :: f.events := by
  have hchoose : f.Step (f.choose k c) := by
    obtain ⟨child, home⟩ := c
    obtain rfl : home = inherited f.world.pool th.slot child := hc
    exact .choose child hth hfree
  have hstart : (f.choose k c).Step ((f.choose k c).after k c.act note w [c.born f.world]) :=
    .act ⟨ho.body, ho.poll⟩ (.chosen (by simp [choose])) hs
  exact ⟨_, .tail (.single hchoose) hstart, rfl, rfl, rfl⟩

/-! ## How a container is chosen -/

theorem inherited_eq_ite (p : Pool) (s : Slot) (child : Child) :
    inherited p s child = if s.current = .root ∨ p.policy s.current child = true
      then s.current else .root := by
  have hroot : s.current.isRoot = true ↔ s.current = .root := by
    cases s.current <;> simp [Handle.isRoot]
  simp [inherited, hroot]

theorem World.exists_thread {w v : World} {k : Nat} {a : Act} {note : Note}
    (hs : w.step k a = some (v, note)) : ∃ th, w.threads[k]? = some th := by
  cases hth : w.threads[k]? with
  | none => simp [step, hth] at hs
  | some th => exact ⟨th, rfl⟩

theorem World.isFree_of_perform {w v : World} {k : Nat} {d : Deed} {note : Note} {th : Thread}
    (hth : w.threads[k]? = some th) (hs : w.step k (.perform d) = some (v, note)) :
    th.isFree = true := by
  by_contra hbusy
  simp [step, hth, hbusy] at hs

/-- The thread `k` made the choice while it was executing code, and has taken no step since.  It
chose the container that it was bound to, if that is root or its policy at that moment accepted the
child, and root otherwise. -/
def Chosen (es : List Event) (w : World) (k : Nat) (c : Choice) : Prop :=
  ∃ meanwhile before v th, es = meanwhile ++ before ∧ Run .start before v ∧ Run v meanwhile w ∧
    (∀ e ∈ meanwhile, e.thread ≠ k) ∧ v.threads[k]? = some th ∧ th.isFree = true ∧
    c.home = if th.slot.current = .root ∨ v.pool.policy th.slot.current c.child = true
      then th.slot.current else .root

theorem Chosen.step_other {es : List Event} {w v : World} {k l : Nat} {a : Act} {note : Note}
    {c : Choice} (h : Chosen es w k c) (hl : l ≠ k) (hs : w.step l a = some (v, note)) :
    Chosen (⟨l, a, note⟩ :: es) v k c := by
  obtain ⟨meanwhile, before, u, th, rfl, hbefore, hmeanwhile, hothers, hrest⟩ := h
  refine ⟨⟨l, a, note⟩ :: meanwhile, before, u, th, rfl, hbefore, hmeanwhile.cons hs, ?_, hrest⟩
  intro e he
  rcases List.mem_cons.mp he with rfl | he
  · exact hl
  · exact hothers e he

/-- **What a thread has at hand, it has chosen since its last step.** -/
theorem Family.chosen {f : Family} (h : f.Reachable) {k : Nat} {c : Choice}
    (hc : f.choices k = some c) : Chosen f.events f.world k c := by
  induction h generalizing c with
  | refl => exact absurd hc (by simp [start])
  | @tail f g h hs ih =>
    cases hs with
    | @choose l th child hth hfree =>
      have hrun : Run .start f.events f.world := Family.Reachable.run h
      by_cases hl : l = k
      · subst hl
        obtain rfl : ⟨child, inherited f.world.pool th.slot child⟩ = c := by
          simpa [choose] using hc
        exact ⟨[], f.events, f.world, th, rfl, hrun, .nil, by simp, hth, hfree,
          inherited_eq_ite ..⟩
      · have hold : f.choices k = some c := by
          simpa [choose, Function.update_of_ne (Ne.symm hl)] using hc
        exact ih hold
    | @act l a w note new ho hb hs =>
      -- a step of a thread takes away what it has at hand, and only that
      by_cases hl : l = k
      · subst hl
        exact absurd hc (by simp [after])
      · have hold : f.choices k = some c := by
          simpa [after, Function.update_of_ne (Ne.symm hl)] using hc
        exact (ih hold).step_other hl hs

/-- The descendant was started by a thread that was executing code and had chosen the container for
it. -/
def Descendant.Placed (es : List Event) (d : Descendant) : Prop :=
  ∃ later e before w, es = later ++ e :: before ∧ Chosen before w e.thread d.toChoice ∧
    match d.child.kind with
    | .thread => e.act = .perform .spawn ∧ d.number = w.threads.length
    | .task => e.act = .perform (.scope d.home) ∧ d.number = w.nextTask

theorem Descendant.Placed.cons {es : List Event} {d : Descendant} (h : d.Placed es) (e : Event) :
    d.Placed (e :: es) := by
  obtain ⟨later, e', before, w, rfl, hrest⟩ := h
  exact ⟨e :: later, e', before, w, rfl, hrest⟩

/-- What is known of a descendant from the moment on when it is started. -/
theorem Family.Births.of_mem {f : Family} {k : Nat} {a : Act} {new : List Descendant}
    (hb : f.Births k a new) {d : Descendant} (hd : d ∈ new) :
    f.choices k = some d.toChoice ∧
      match d.child.kind with
      | .thread => a = .perform .spawn ∧ d.number = f.world.threads.length
      | .task => a = .perform (.scope d.home) ∧ d.number = f.world.nextTask := by
  cases hb with
  | none => exact absurd hd (by simp)
  | @chosen c hc =>
    obtain rfl := List.mem_singleton.mp hd
    obtain ⟨⟨name, kind⟩, home⟩ := c
    cases kind <;> exact ⟨hc, rfl, rfl⟩

/-- **Every descendant is placed by its parent.** -/
theorem Family.placed {f : Family} (h : f.Reachable) : ∀ d ∈ f.born, d.Placed f.events := by
  induction h with
  | refl => exact fun d hd => absurd hd (by simp [start])
  | @tail f g h hs ih =>
    cases hs with
    | choose child hth hfree => exact ih
    | @act k a w note new ho hb hs =>
      intro d hd
      rcases List.mem_append.mp hd with hnew | hold
      · obtain ⟨hc, hborn⟩ := hb.of_mem hnew
        exact ⟨[], ⟨k, a, note⟩, f.events, f.world, rfl, chosen h hc, hborn⟩
      · exact (ih d hold).cons _

/-! ## What only grows -/

theorem Request.size_le {p p' : Pool} {note : Note} (h : Request p p' note) :
    p.containers.size ≤ p'.containers.size := by
  cases h with
  | create c meter => simp [Pool.create]
  | destroy e => exact Nat.le_of_eq (Pool.Change.destroy e).sameIds.size.symm
  | update e => exact Nat.le_of_eq (Pool.Change.update e).sameIds.size.symm
  | setPolicy e => exact Nat.le_of_eq (Pool.Change.setPolicy e).sameIds.size.symm
  | refused h why => exact Nat.le_refl _

theorem Moves.size_le {p : Pool} {s : Slot} {number number' : Nat} {c : Option Call}
    {j : Option Job} {m : Move} (hm : Moves p s number c j m number') :
    p.containers.size ≤ m.pool.containers.size := by
  rcases hm.pool_cases with h | ⟨n, h⟩ | ⟨n, h⟩ | h
  · exact Nat.le_of_eq (congrArg (·.containers.size) h.symm)
  · exact Nat.le_of_eq (Pool.Change.acquire h).sameIds.size.symm
  · rw [h]
    exact Nat.le_of_eq (Pool.Change.release n).sameIds.size.symm
  · exact h.size_le

section Growing

variable {w w' : World} {es : List Event} {k : Nat} {a : Act} {note : Note}

theorem World.size_le_step (hs : w.step k a = some (w', note)) :
    w.pool.containers.size ≤ w'.pool.containers.size := by
  rcases step_cases hs with ⟨rfl, -⟩ | hmoved
  · exact Nat.le_refl _
  · cases hmoved with
    | intro Γ hk hm hthreads htasks => exact hm.size_le

theorem Run.size_le (h : Run w es w') : w.pool.containers.size ≤ w'.pool.containers.size :=
  h.invariant (P := fun v => w.pool.containers.size ≤ v.pool.containers.size) (Nat.le_refl _)
    fun hv hs => Nat.le_trans hv (World.size_le_step hs)

theorem World.length_le_step (hs : w.step k a = some (w', note)) :
    w.threads.length ≤ w'.threads.length := by
  rcases step_cases hs with ⟨rfl, -⟩ | hmoved
  · simp
  · cases hmoved with
    | intro Γ hk hm hthreads htasks =>
      rw [hthreads]
      simp [Surroundings.world]

theorem Run.length_le (h : Run w es w') : w.threads.length ≤ w'.threads.length :=
  h.invariant (P := fun v => w.threads.length ≤ v.threads.length) (Nat.le_refl _)
    fun hv hs => Nat.le_trans hv (World.length_le_step hs)

theorem Run.thread_lt (h : Run .start es w) : ∀ e ∈ es, e.thread < w.threads.length := by
  induction h with
  | nil => exact fun e he => absurd he (by simp)
  | @cons es v v' k a note _ hs ih =>
    have hlength := World.length_le_step hs
    intro e he
    rcases List.mem_cons.mp he with rfl | he
    · obtain ⟨th, hth⟩ := World.exists_thread hs
      exact Nat.lt_of_lt_of_le (List.getElem?_eq_some_iff.mp hth).1 hlength
    · exact Nat.lt_of_lt_of_le (ih e he) hlength

theorem Chosen.home_lt {c : Choice} (h : Chosen es w k c) {n : Nat} (hn : c.home = .managed n) :
    n < w.pool.containers.size := by
  obtain ⟨meanwhile, before, v, th, rfl, hbefore, hmeanwhile, -, hth, -, hhome⟩ := h
  rw [hhome] at hn
  split at hn
  · have hbound := (hbefore.sound World.sound_start).running_of_bound (List.mem_of_getElem? hth)
      (.inl hn)
    exact Nat.lt_of_lt_of_le (Pool.lt_size_of_running hbound.1) hmeanwhile.size_le
  · exact absurd hn (by simp)

theorem Family.home_lt {f : Family} (h : f.Reachable) :
    ∀ d ∈ f.born, ∀ n, d.home = .managed n → n < f.world.pool.containers.size := by
  induction h with
  | refl => exact fun d hd => absurd hd (by simp [start])
  | @tail f g h hs ih =>
    cases hs with
    | choose child hth hfree => exact ih
    | @act k a w note new ho hb hs =>
      intro d hd n hn
      refine Nat.lt_of_lt_of_le ?_ (World.size_le_step hs)
      rcases List.mem_append.mp hd with hnew | hold
      · exact (chosen h (hb.of_mem hnew).1).home_lt hn
      · exact ih d hold n hn

end Growing

end ResourceContainers.Interleaving
