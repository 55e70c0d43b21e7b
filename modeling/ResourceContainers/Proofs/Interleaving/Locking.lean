import ResourceContainers.Proofs.Interleaving.Limiting

/-!
# Updates that take their locks one after the other

In a `World` an update is one step: the phase is looked at and the limit is set, and nothing falls
in between.  Two locks make it so.  One guards the phase of a container and the counter of its
attachments, the other one guards its limits.  An update takes the first lock, looks at the phase,
takes the second lock while it keeps the first, writes, and gives both back.  Here these are steps
of their own, and between any two of them every thread may do what the locks let it do.

The limits of a container are not stored in the order of the resources either.  They are stored in
whatever order the store happens to have, which may change with every write, and are sorted whenever
they are read.

* `Update`, `UpdateStage`: an update that a thread is making, and how far it has come.
* `Guarded`: a world with the updates that are being made and with what is stored.
* `Guarded.Step`: one step of one thread.
* `Guarded.Sound`: what the locks achieve.  `Guarded.Step.sound`: every step keeps it.
* `Guarded.Step.world`: a step of a guarded world is a step of the world, or none.
* `Guarded.Run.world`: so the steps of a guarded world are a run of the world, in which an update is
  one step, taken when it writes or when it is turned away.

## Why one lock is held while the other one is taken

An update that gave the first lock back after its look could be overtaken.  Another thread destroys
the container, and then the update writes: the limits of a destroyed container would change.  As it
is, the phase can not change until the update has written, because whoever wants to change it needs
the first lock.

## What other steps do about locks

Every other step that changes what the first lock guards takes that lock for the step.  So it is not
taken while an update has the lock.  A step that only looks at what is guarded would have to wait as
well; it is let through here, which makes for more runs and not for fewer.
-/

namespace ResourceContainers

/-- What the first lock of a container guards. -/
def Pool.lifecycle (p : Pool) (n : Nat) : Phase × Nat :=
  ((p.container n).phase, (p.container n).attached)

namespace Interleaving

/-! ## Updates that are being made -/

/-- An update, with a number that tells it from every other one. -/
structure Update where
  ticket : Nat
  place : Nat
  constraint : Constraint
  deriving DecidableEq

/-- How far an update has come.  It waits for the first lock, and has it from `looking` on.  While
it is `writing` it has the second one as well, and it has written when it gives that one back. -/
inductive UpdateStage
  | waiting
  | looking
  | allowed
  | writing
  | written
  | turnedAway
  deriving DecidableEq

/-- Whether an update at that stage has the first lock. -/
def UpdateStage.locksPhase : UpdateStage → Bool
  | waiting => false
  | _ => true

/-- Whether an update at that stage has the second lock. -/
def UpdateStage.locksLimits : UpdateStage → Bool
  | writing => true
  | _ => false

/-- A world with locks.  The limits of each container are stored in an order.  Every thread may be
making an update, and updates have numbers. -/
structure Guarded where
  world : World
  store : Nat → List Constraint
  making : Nat → Option (Update × UpdateStage)
  tickets : Nat

/-- What can be seen of a step.  An update writes, or it finds that the container does not run, and
then it returns with success or with a refusal. -/
inductive Happening
  | quiet
  | event (e : Event)
  | wrote (thread : Nat) (u : Update)
  | turnedAway (thread : Nat) (u : Update)
  | answered (u : Update) (granted : Bool)
  | read (n : Nat) (cs : List Constraint)

/-- The step of the world that there is to be seen.  An update is one step, taken when it writes or
when it is turned away. -/
def Happening.event? : Happening → Option Event
  | .event e => some e
  | .wrote k u => some ⟨k, .perform (.update (.managed u.place) u.constraint),
      .updated (.managed u.place) u.constraint⟩
  | .turnedAway k u => some ⟨k, .perform (.update (.managed u.place) u.constraint),
      .refused (.managed u.place) .notRunning⟩
  | .quiet | .answered _ _ | .read _ _ => none

/-- The steps of the world among what happened. -/
def events (hs : List Happening) : List Event := hs.filterMap Happening.event?

namespace Guarded

def start : Guarded := ⟨.start, fun _ => [], fun _ => none, 0⟩

/-- The thread `k` is making that update, or none. -/
def put (g : Guarded) (k : Nat) (o : Option (Update × UpdateStage)) : Guarded :=
  { g with making := fun j => if j = k then o else g.making j }

/-- Somebody has the first lock of the container `n`. -/
def PhaseLocked (g : Guarded) (n : Nat) : Prop :=
  ∃ k u s, g.making k = some (u, s) ∧ u.place = n ∧ s.locksPhase = true

/-- Somebody has the second lock of the container `n`. -/
def LimitsLocked (g : Guarded) (n : Nat) : Prop :=
  ∃ k u s, g.making k = some (u, s) ∧ u.place = n ∧ s.locksLimits = true

/-- The limits of a container as they are read. -/
def constraints (g : Guarded) (n : Nat) : List Constraint := Constraint.sort (g.store n)

/-- What is stored once the thread `k` has made its update, in some order. -/
def write (g : Guarded) (k : Nat) (u : Update) (order : List Constraint) : Guarded :=
  { g.put k (some (u, .written)) with
    world := { g.world with
      pool := g.world.pool.change u.place fun c => { c with limits := c.limits.set u.constraint } }
    store := fun n => if n = u.place then order else g.store n }

/-- **A step of one thread.**  A step of the world that is no update does not change what somebody
else has locked, and stores the limits of a new container in some order.  Code that is executed asks
for an update of a container that there is.  A constraint replaces the one on the same resource; the
order of the store may change. -/
inductive Step (g : Guarded) : Happening → Guarded → Prop
  | event {k : Nat} {a : Act} {note : Note} {w : World} {store : Nat → List Constraint}
      (hs : g.world.step k a = some (w, note)) (hk : g.making k = none)
      (ha : ∀ n c, a ≠ .perform (.update (.managed n) c))
      (hlocked : ∀ n, g.PhaseLocked n → w.pool.lifecycle n = g.world.pool.lifecycle n)
      (hnew : ∀ n, note = .created n → (store n).Perm (w.pool.limits (.managed n)).toList)
      (hold : ∀ n, note ≠ .created n → store n = g.store n) :
      Step g (.event ⟨k, a, note⟩) { g with world := w, store := store }
  | ask {k n : Nat} {th : Thread} (c : Constraint) (hth : g.world.threads[k]? = some th)
      (hfree : th.isFree = true) (hk : g.making k = none) (hn : n < g.world.pool.containers.size) :
      Step g .quiet { g.put k (some (⟨g.tickets, n, c⟩, .waiting)) with tickets := g.tickets + 1 }
  | lockPhase {k : Nat} {u : Update} (hk : g.making k = some (u, .waiting))
      (hlock : ¬g.PhaseLocked u.place) : Step g .quiet (g.put k (some (u, .looking)))
  | allow {k : Nat} {u : Update} (hk : g.making k = some (u, .looking))
      (hphase : g.world.pool.phase (.managed u.place) = .running) :
      Step g .quiet (g.put k (some (u, .allowed)))
  | turnAway {k : Nat} {u : Update} (hk : g.making k = some (u, .looking))
      (hphase : g.world.pool.phase (.managed u.place) = .destroyed) :
      Step g (.turnedAway k u) (g.put k (some (u, .turnedAway)))
  | lockLimits {k : Nat} {u : Update} (hk : g.making k = some (u, .allowed))
      (hlock : ¬g.LimitsLocked u.place) : Step g .quiet (g.put k (some (u, .writing)))
  | write {k : Nat} {u : Update} {order : List Constraint}
      (hk : g.making k = some (u, .writing))
      (horder : order.Perm (Constraint.replace u.constraint (g.store u.place))) :
      Step g (.wrote k u) (g.write k u order)
  | grant {k : Nat} {u : Update} (hk : g.making k = some (u, .written)) :
      Step g (.answered u true) (g.put k none)
  | refuse {k : Nat} {u : Update} (hk : g.making k = some (u, .turnedAway)) :
      Step g (.answered u false) (g.put k none)
  | read {n : Nat} (hlock : ¬g.LimitsLocked n) : Step g (.read n (g.constraints n)) g

/-- `Run g hs g'`: the steps `hs`, the newest first, lead from `g` to `g'`. -/
inductive Run (g : Guarded) : List Happening → Guarded → Prop
  | nil : Run g [] g
  | cons {hs : List Happening} {h : Happening} {v v' : Guarded} (hrun : Run g hs v)
      (hstep : v.Step h v') : Run g (h :: hs) v'

/-! ## What the locks achieve -/

/-- The locks keep their promises.  Whoever makes an update is executing code, and does nothing
else.  A container that an update was allowed on runs until the update has written.  What is stored
are the limits. -/
structure Sound (g : Guarded) : Prop where
  free : ∀ k u s, g.making k = some (u, s) →
    ∃ th, g.world.threads[k]? = some th ∧ th.isFree = true
  running : ∀ k u s, g.making k = some (u, s) → s = .allowed ∨ s = .writing →
    g.world.pool.phase (.managed u.place) = .running
  store : ∀ n, n < g.world.pool.containers.size →
    (g.store n).Perm (g.world.pool.limits (.managed n)).toList

theorem sound_start : start.Sound where
  free _ _ _ h := absurd h (by simp [start])
  running _ _ _ h := absurd h (by simp [start])
  store _ h := absurd h (by simp [start, World.start, Pool.empty])

section Steps

variable {g g' : Guarded} {h : Happening} {hs : List Happening}

/-- Who makes an update after another one has gone on with his. -/
theorem making_put {k j : Nat} {o : Option (Update × UpdateStage)} {u : Update} {s : UpdateStage}
    (hj : (g.put k o).making j = some (u, s)) :
    (j = k ∧ o = some (u, s)) ∨ (j ≠ k ∧ g.making j = some (u, s)) := by
  by_cases hjk : j = k
  · exact .inl ⟨hjk, (if_pos hjk).symm.trans hj⟩
  · exact .inr ⟨hjk, (if_neg hjk).symm.trans hj⟩

/-- An update goes on: it comes to a stage at which the container has to run only if it runs. -/
theorem Sound.put (hg : g.Sound) {k : Nat} {u : Update} {s s' : UpdateStage}
    (hk : g.making k = some (u, s))
    (hrun : s' = .allowed ∨ s' = .writing → g.world.pool.phase (.managed u.place) = .running) :
    (g.put k (some (u, s'))).Sound where
  free j v t hj := by
    rcases making_put hj with ⟨rfl, -⟩ | ⟨-, hj⟩
    · exact hg.free _ u s hk
    · exact hg.free j v t hj
  running j v t hj ht := by
    rcases making_put hj with ⟨rfl, heq⟩ | ⟨-, hj⟩
    · obtain ⟨rfl, rfl⟩ := Prod.mk.inj (Option.some.inj heq)
      exact hrun ht
    · exact hg.running j v t hj ht
  store := hg.store

theorem Sound.answer (hg : g.Sound) (k : Nat) : (g.put k none).Sound where
  free j v t hj := by
    rcases making_put hj with ⟨-, heq⟩ | ⟨-, hj⟩
    · exact absurd heq (by simp)
    · exact hg.free j v t hj
  running j v t hj ht := by
    rcases making_put hj with ⟨-, heq⟩ | ⟨-, hj⟩
    · exact absurd heq (by simp)
    · exact hg.running j v t hj ht
  store := hg.store

theorem lt_size_of_step {w w' : World} {k n : Nat} {a : Act} {note : Note}
    (hs : w.step k a = some (w', note)) (hn : n < w'.pool.containers.size) :
    n < w.pool.containers.size ∨ note = .created n := by
  rcases World.step_cases hs with ⟨rfl, -⟩ | hmoved
  · exact .inl hn
  · cases hmoved with
    | @intro Γ s c j m number hk hm hthreads htasks =>
    have hsize : n < m.pool.containers.size := hn
    rcases hm.pool_cases with h | ⟨i, h⟩ | ⟨i, h⟩ | h
    · exact .inl (h ▸ hsize)
    · exact .inl ((Pool.Change.acquire h).sameIds.size ▸ hsize)
    · rw [h] at hsize
      exact .inl ((Pool.Change.release i).sameIds.size ▸ hsize)
    · generalize m.pool = p' at h hsize
      generalize m.note = note at h
      cases h with
      | create c meter =>
        have hle : n < w.pool.containers.size + 1 := by
          rw [← Array.size_push (Container.ofConfig w.pool.nextId c meter)]
          exact hsize
        rcases Nat.lt_succ_iff_lt_or_eq.mp hle with hlt | rfl
        · exact .inl hlt
        · exact .inr rfl
      | destroy e => exact .inl ((Pool.Change.destroy e).sameIds.size ▸ hsize)
      | update e => exact .inl ((Pool.Change.update e).sameIds.size ▸ hsize)
      | setPolicy e => exact .inl ((Pool.Change.setPolicy e).sameIds.size ▸ hsize)
      | refused h why => exact .inl hsize

theorem perform_of_updated {w w' : World} {k : Nat} {a : Act} {i : Handle} {c : Constraint}
    (hs : w.step k a = some (w', .updated i c)) : a = .perform (.update i c) := by
  obtain ⟨th, hth⟩ := World.exists_thread hs
  cases a with
  | next =>
    cases hc : th.calls with
    | nil => simp [World.step, hth, hc] at hs
    | cons d calls =>
      simp only [World.step, hth, hc] at hs
      obtain ⟨m, hm, he⟩ := Option.map_eq_some_iff.mp hs
      have hnote : m.note = .updated i c := (Prod.mk.inj he).2
      cases d with
      | run target stage =>
        cases RunStage.access_of_next hm <;> exact absurd hnote (by simp)
      | poll j stage => cases PollStage.access_of_next hm <;> exact absurd hnote (by simp)
  | finish ending =>
    cases hc : th.calls with
    | nil => simp [World.step, hth, hc] at hs
    | cons d calls =>
      simp only [World.step, hth, hc] at hs
      obtain ⟨d', -, he⟩ := Option.map_eq_some_iff.mp hs
      exact absurd (Prod.mk.inj he).2 (by simp)
  | perform d =>
    have hfree := World.isFree_of_perform hth hs
    have hperform : w.perform k th d = some (w', .updated i c) := by
      simpa [World.step, hth, hfree] using hs
    have hrequest {seen : Note} {j : Handle} {result : Except Refusal Pool}
        (he : (request w.pool th.slot j seen result).note = .updated i c) :
        seen = .updated i c := by
      cases result with
      | ok p => exact he
      | error why => exact absurd he (by simp [request])
    cases d with
    | update j c' =>
      obtain ⟨rfl, rfl⟩ := Note.updated.inj (hrequest (Prod.mk.inj (Option.some.inj hperform)).2)
      rfl
    | destroy j =>
      exact absurd (hrequest (Prod.mk.inj (Option.some.inj hperform)).2) (by simp)
    | setPolicy j policy =>
      exact absurd (hrequest (Prod.mk.inj (Option.some.inj hperform)).2) (by simp)
    | run j =>
      have hnote := (Prod.mk.inj (Option.some.inj hperform)).2
      have hstart := runStart w.pool th.slot j
      generalize startRun w.pool th.slot j = m at hstart hnote
      cases hstart <;> exact absurd hnote (by simp)
    | drop task =>
      obtain ⟨r, -, he⟩ := Option.map_eq_some_iff.mp hperform
      exact absurd (Prod.mk.inj he).2 (by simp)
    | poll task =>
      obtain ⟨r, -, he⟩ := Option.map_eq_some_iff.mp hperform
      have hnote := (Prod.mk.inj he).2
      have hstart := pollStart w.pool th.slot r.1
      generalize startPoll w.pool th.slot r.1 = m at hstart hnote
      cases hstart <;> exact absurd hnote (by simp)
    | _ => exact absurd (Prod.mk.inj (Option.some.inj hperform)).2 (by simp)

theorem Step.sound (hstep : g.Step h g') (hg : g.Sound) : g'.Sound := by
  cases hstep with
  | @event k a note w store hs hk ha hlocked hnew hold =>
    refine ⟨fun j u s hj => ?_, fun j u s hj hstage => ?_, fun n hn => ?_⟩
    · have hne : k ≠ j := fun heq => by
        rw [heq] at hk
        rw [hk] at hj
        exact absurd hj (by simp)
      obtain ⟨th, hth, hfree⟩ := hg.free j u s hj
      exact ⟨th, World.getElem?_step_of_ne hs hne hth, hfree⟩
    · have hlock : g.PhaseLocked u.place := by
        refine ⟨j, u, s, hj, rfl, ?_⟩
        rcases hstage with rfl | rfl <;> rfl
      exact (congrArg Prod.fst (hlocked u.place hlock)).trans (hg.running j u s hj hstage)
    · by_cases hcreated : note = .created n
      · exact hnew n hcreated
      · have hlt := (lt_size_of_step hs hn).resolve_right hcreated
        have hnone : note.update? n = none := by
          cases hc : note.update? n with
          | none => rfl
          | some c =>
            obtain rfl := Note.update?_eq_some.mp hc
            exact absurd (perform_of_updated hs) (ha n c)
        show (store n).Perm (w.pool.limits (.managed n)).toList
        rw [hold n hcreated, World.limits_step hs hlt, hnone]
        exact hg.store n hlt
  | @ask k n th c hth hfree hk hn =>
    refine ⟨fun j u s hj => ?_, fun j u s hj hstage => ?_, hg.store⟩
    · rcases making_put (g := g) hj with ⟨rfl, -⟩ | ⟨-, hj⟩
      · exact ⟨th, hth, hfree⟩
      · exact hg.free j u s hj
    · rcases making_put (g := g) hj with ⟨-, heq⟩ | ⟨-, hj⟩
      · obtain ⟨-, rfl⟩ := Prod.mk.inj (Option.some.inj heq)
        exact absurd hstage (by simp)
      · exact hg.running j u s hj hstage
  | lockPhase hk hlock => exact hg.put hk (by simp)
  | allow hk hphase => exact hg.put hk fun _ => hphase
  | turnAway hk hphase => exact hg.put hk (by simp)
  | lockLimits hk hlock => exact hg.put hk fun _ => hg.running _ _ _ hk (.inl rfl)
  | @write k u order hk horder =>
    have hphase (n : Nat) : (g.write k u order).world.pool.phase (.managed n) =
        g.world.pool.phase (.managed n) := by
      show ((g.world.pool.change u.place _).container n).phase = (g.world.pool.container n).phase
      rw [Pool.container_change]
      split <;> rfl
    have hput : (g.put k (some (u, .written))).Sound := hg.put hk (by simp)
    refine ⟨hput.free, fun j v s hj hstage => ?_, fun n hn => ?_⟩
    · rw [hphase]
      exact hput.running j v s hj hstage
    · have hlt : n < g.world.pool.containers.size := by
        rw [← Pool.size_change g.world.pool u.place]
        exact hn
      show (if n = u.place then order else g.store n).Perm
        ((g.world.pool.change u.place _).container n).limits.toList
      rw [Pool.container_change]
      by_cases hplace : n = u.place
      · subst hplace
        rw [if_pos rfl, if_pos ⟨rfl, hlt⟩]
        refine horder.trans ?_
        exact Limits.perm_replace (hg.store _ hlt) u.constraint
      · rw [if_neg hplace, if_neg fun h => hplace h.1.symm]
        exact hg.store n hlt
  | @grant k u hk => exact hg.answer k
  | @refuse k u hk => exact hg.answer k
  | read hlock => exact hg

end Steps

/-! ## A guarded world is a world -/

section World

variable {w : World} {k : Nat} {th : Thread} {i : Handle} {c : Constraint}

theorem set_of_getElem? {l : List Thread} (h : l[k]? = some th) : l.set k th = l := by
  obtain ⟨hk, rfl⟩ := List.getElem?_eq_some_iff.mp h
  exact List.set_getElem_self hk

theorem step_update_of_ok (hth : w.threads[k]? = some th) (hfree : th.isFree = true) {p : Pool}
    (he : w.pool.update i c = .ok p) :
    w.step k (.perform (.update i c)) = some ({ w with pool := p }, .updated i c) := by
  simp [World.step, hth, hfree, World.perform, he, request, World.after, set_of_getElem? hth]

theorem step_update_of_error (hth : w.threads[k]? = some th) (hfree : th.isFree = true)
    {why : Refusal} (he : w.pool.update i c = .error why) :
    w.step k (.perform (.update i c)) = some (w, .refused i why) := by
  simp [World.step, hth, hfree, World.perform, he, request, World.after, set_of_getElem? hth]

end World

section Steps

variable {g g' : Guarded} {h : Happening} {hs : List Happening}

/-- **A step of a guarded world is a step of the world, or none.** -/
theorem Step.world (hstep : g.Step h g') (hg : g.Sound) :
    (h.event? = none ∧ g'.world = g.world) ∨
      ∃ e, h.event? = some e ∧ g.world.step e.thread e.act = some (g'.world, e.note) := by
  cases hstep with
  | event hs hk ha hlocked hnew hold => exact .inr ⟨_, rfl, hs⟩
  | @turnAway k u hk hphase =>
    obtain ⟨th, hth, hfree⟩ := hg.free k u _ hk
    have he : g.world.pool.update (.managed u.place) u.constraint = .error .notRunning := by
      rw [Pool.update, show (g.world.pool.container u.place).phase = .destroyed from hphase]
    exact .inr ⟨_, rfl, step_update_of_error hth hfree he⟩
  | @write k u order hk horder =>
    obtain ⟨th, hth, hfree⟩ := hg.free k u _ hk
    -- the container still runs, because nobody else could have destroyed it
    have hrun := hg.running k u _ hk (.inr rfl)
    exact .inr ⟨_, rfl, step_update_of_ok hth hfree (Pool.update_eq_ok_iff.mpr ⟨hrun, rfl⟩)⟩
  | _ => exact .inl ⟨rfl, rfl⟩

/-- **The steps of a guarded world are a run of the world.** -/
theorem Run.world (hrun : Run g hs g') (hg : g.Sound) :
    Interleaving.Run g.world (events hs) g'.world ∧ g'.Sound := by
  induction hrun with
  | nil => exact ⟨.nil, hg⟩
  | @cons hs h v v' hrun hstep ih =>
    obtain ⟨hw, hv⟩ := ih
    refine ⟨?_, hstep.sound hv⟩
    rcases hstep.world hv with ⟨hnone, hsame⟩ | ⟨e, he, hs⟩
    · rw [events, List.filterMap_cons_none hnone, hsame]
      exact hw
    · rw [events, List.filterMap_cons_some he]
      exact hw.cons hs

theorem Sound.constraints_eq (hg : g.Sound) {n : Nat} (hn : n < g.world.pool.containers.size) :
    g.constraints n = (g.world.pool.limits (.managed n)).toList :=
  Limits.sort_of_perm (hg.store n hn)

theorem Sound.not_limitsLocked (hg : g.Sound) {n : Nat} (hd : g.world.Destroyed n) :
    ¬g.LimitsLocked n := by
  rintro ⟨k, u, s, hk, rfl, hlock⟩
  have hstage : s = .writing := by
    cases s <;> first | rfl | exact absurd hlock (by simp [UpdateStage.locksLimits])
  have hrun := hg.running k u s hk (.inr hstage)
  exact absurd (hd.2.symm.trans hrun) (by decide)

/-- The steps up to some moment, and those since then. -/
theorem Run.split {newer older : List Happening} (hrun : Run g (newer ++ older) g') :
    ∃ v, Run g older v ∧ Run v newer g' := by
  induction newer generalizing g' with
  | nil => exact ⟨g', hrun, .nil⟩
  | cons h newer ih =>
    cases hrun with
    | cons hrun hstep =>
      obtain ⟨v, hold, hnew⟩ := ih hrun
      exact ⟨v, hold, hnew.cons hstep⟩

end Steps

end Guarded

end Interleaving

end ResourceContainers
