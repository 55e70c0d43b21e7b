import ResourceContainers.Proofs.Interleaving.Updating
import ResourceContainers.Registry

/-!
# Views that are put together from several looks

`Pool.info` looks at a container once.  Whoever monitors a container looks three times, at its
phase, then at its limits and then at its counter, each time under the lock that guards what it
looks at, and without a lock in between.  Other threads run, poll, update and destroy meanwhile, so
the three parts of a view may be from three different moments.  A registry is viewed by viewing the
containers that it lists, one after another.

* `View`: a view that somebody has begun, with what it has read so far.
* `Monitored`: a guarded world with the views that are being made.
* `Monitored.Step`: one step of one thread or of one view.
* `Guarded.Keeps`: what every step leaves as it is.  `Monitored.Sound`: what views can rely on.
* `view_of_destroyed`: the main statement.
* `exists_view`: a view that nothing falls into is `Pool.info`.

## Why the order of the looks matters

The phase is read first.  Once it is read as destroyed, the container is destroyed, and it stays so.
Nobody can attach to it any more and nobody can limit it, so the limits and the counter that are
read afterwards are the last ones.  A view that read the limits first could show limits that an
update replaced before the container was destroyed, and one that read the counter first could show
attachments that were given back before.

## Who makes views

Here a view is made by somebody who needs nothing but the locks.  A thread that makes one does
nothing else until it has its answer, which makes for fewer runs and not for more.
-/

namespace ResourceContainers.Interleaving

/-! ## Views -/

/-- What a view has read of the container that it is at. -/
inductive Glance
  | nothing
  | phase (p : Phase)
  | limits (p : Phase) (cs : List Constraint)

/-- A view that is being made.  It is at the first of the containers that are left, has read
something of that one, and all of those that are done. -/
structure View where
  rest : List Handle
  glance : Glance
  done : List (Handle × Info)

/-- What can be seen of a step: a step that is no part of a view, a view that reads a phase, limits
or a counter, or a view that is complete. -/
inductive Sight
  | quiet
  | happened (h : Happening)
  | phase (viewer : Nat) (h : Handle) (p : Phase)
  | limits (viewer : Nat) (h : Handle) (cs : List Constraint)
  | attached (viewer : Nat) (h : Handle) (count : Nat)
  | answered (viewer : Nat) (entries : List (Handle × Info))

/-- The limits that are read in a step, and of which container, by a view or by itself. -/
def Sight.limits? : Sight → Option (Handle × List Constraint)
  | .happened (.read n cs) => some (.managed n, cs)
  | .limits _ h cs => some (h, cs)
  | _ => none

namespace Guarded

/-- The limits of a container as they are read; the root container has none. -/
def limits (g : Guarded) : Handle → List Constraint
  | .root => []
  | .managed n => g.constraints n

/-- There is such a container. -/
def Known (g : Guarded) (h : Handle) : Prop :=
  ∀ n, h = .managed n → n < g.world.pool.containers.size

/-- Nobody has the first lock of a container; the root container has no locks. -/
def PhaseFree (g : Guarded) (h : Handle) : Prop := ∀ n, h = .managed n → ¬g.PhaseLocked n

/-- Nobody has the second lock of a container. -/
def LimitsFree (g : Guarded) (h : Handle) : Prop := ∀ n, h = .managed n → ¬g.LimitsLocked n

/-- A container is destroyed, for whoever has a handle on it. -/
def Destroyed (g : Guarded) (h : Handle) : Prop := ∃ n, h = .managed n ∧ g.world.Destroyed n

end Guarded

/-- A guarded world with the view that each viewer is making of it. -/
structure Monitored where
  guarded : Guarded
  views : Nat → Option View

namespace Monitored

def start : Monitored := ⟨.start, fun _ => none⟩

/-- The pool as it is. -/
def pool (m : Monitored) : Pool := m.guarded.world.pool

/-- The viewer `i` is making that view, or none. -/
def put (m : Monitored) (i : Nat) (o : Option View) : Monitored :=
  { m with views := fun j => if j = i then o else m.views j }

/-- **One step**, of a thread or of a view.  Somebody begins a view of containers that there are: of
one, or of all that a registry lists. -/
inductive Step (m : Monitored) : Sight → Monitored → Prop
  | act {h : Happening} {g : Guarded} (hstep : m.guarded.Step h g) :
      Step m (.happened h) { m with guarded := g }
  | ask {i : Nat} {hs : List Handle} (hi : m.views i = none)
      (hknown : ∀ h ∈ hs, m.guarded.Known h) :
      Step m .quiet (m.put i (some ⟨hs, .nothing, []⟩))
  | phase {i : Nat} {h : Handle} {rest : List Handle} {done : List (Handle × Info)}
      (hi : m.views i = some ⟨h :: rest, .nothing, done⟩) (hlock : m.guarded.PhaseFree h) :
      Step m (.phase i h (m.pool.phase h))
        (m.put i (some ⟨h :: rest, .phase (m.pool.phase h), done⟩))
  | limits {i : Nat} {h : Handle} {rest : List Handle} {done : List (Handle × Info)} {p : Phase}
      (hi : m.views i = some ⟨h :: rest, .phase p, done⟩) (hlock : m.guarded.LimitsFree h) :
      Step m (.limits i h (m.guarded.limits h))
        (m.put i (some ⟨h :: rest, .limits p (m.guarded.limits h), done⟩))
  | attached {i : Nat} {h : Handle} {rest : List Handle} {done : List (Handle × Info)} {p : Phase}
      {cs : List Constraint} (hi : m.views i = some ⟨h :: rest, .limits p cs, done⟩)
      (hlock : m.guarded.PhaseFree h) :
      Step m (.attached i h (m.pool.attached h))
        (m.put i (some ⟨rest, .nothing,
          done ++ [(h, ⟨m.pool.id h, m.pool.name h, p, cs, m.pool.attached h⟩)]⟩))
  | answer {i : Nat} {done : List (Handle × Info)}
      (hi : m.views i = some ⟨[], .nothing, done⟩) :
      Step m (.answered i done) (m.put i none)

/-- `Run m es m'`: the steps `es`, the newest first, lead from `m` to `m'`. -/
inductive Run (m : Monitored) : List Sight → Monitored → Prop
  | nil : Run m [] m
  | cons {es : List Sight} {e : Sight} {v v' : Monitored} (hrun : Run m es v)
      (hstep : v.Step e v') : Run m (e :: es) v'

end Monitored

/-! ## Destroyed containers -/

namespace Guarded

variable {g g' : Guarded} {h : Handle}

/-- A container that there is and whose phase is read as destroyed is destroyed.  The phase of the
root container is never read so. -/
theorem Known.destroyed (hk : g.Known h) (hp : g.world.pool.phase h = .destroyed) :
    g.Destroyed h := by
  cases h with
  | root => exact absurd hp (by simp [Pool.phase])
  | managed n => exact ⟨n, rfl, hk n rfl, hp⟩

theorem Destroyed.attached (hd : g.Destroyed h) (hw : g.world.Sound) :
    g.world.pool.attached h = 0 := by
  obtain ⟨n, rfl, hd⟩ := hd
  exact hw.settled n hd.2

/-- What every step leaves as it is: containers stay, destroyed ones stay destroyed, and the limits
of destroyed ones stay the same. -/
structure Keeps (g g' : Guarded) : Prop where
  size : g.world.pool.containers.size ≤ g'.world.pool.containers.size
  destroyed : ∀ h, g.Destroyed h → g'.Destroyed h
  limits : ∀ h, g.Destroyed h → g'.limits h = g.limits h

theorem Keeps.refl (g : Guarded) : g.Keeps g := ⟨Nat.le_refl _, fun _ => id, fun _ _ => rfl⟩

theorem Keeps.trans {g'' : Guarded} (h : g.Keeps g') (h' : g'.Keeps g'') : g.Keeps g'' where
  size := Nat.le_trans h.size h'.size
  destroyed i hd := h'.destroyed i (h.destroyed i hd)
  limits i hd := (h'.limits i (h.destroyed i hd)).trans (h.limits i hd)

theorem Keeps.known (hkeep : g.Keeps g') (hk : g.Known h) : g'.Known h :=
  fun n hn => Nat.lt_of_lt_of_le (hk n hn) hkeep.size

theorem Step.keeps {i : Happening} (hstep : g.Step i g') (hg : g.Sound) (hw : g.world.Sound) :
    g.Keeps g' := by
  have hgrows := hstep.grows hg hw
  refine ⟨hgrows.size, ?_, ?_⟩
  · rintro h ⟨n, hn, hd⟩
    exact ⟨n, hn, hgrows.destroyed n hd⟩
  · rintro h ⟨n, rfl, hd⟩
    obtain ⟨hrun, hg'⟩ := (Run.nil.cons hstep).world hg
    show g'.constraints n = g.constraints n
    rw [hg'.constraints_eq (hgrows.destroyed n hd).1, hg.constraints_eq hd.1,
      hrun.limits_of_destroyed hw hd]

theorem Sound.limits_eq (hg : g.Sound) (hk : g.Known h) :
    g.limits h = (g.world.pool.limits h).toList := by
  cases h with
  | root => rfl
  | managed n => exact hg.constraints_eq (hk n rfl)

end Guarded

/-! ## What views can rely on -/

/-- What is known of a container, once it is viewed, if the view shows it destroyed. -/
def Final (g : Guarded) (e : Handle × Info) : Prop :=
  e.2.phase = .destroyed → g.Destroyed e.1 ∧ e.2.constraints = g.limits e.1 ∧ e.2.attached = 0

/-- The same while the container is being viewed. -/
def Glance.Final (g : Guarded) (h : Handle) : Glance → Prop
  | .nothing => True
  | .phase p => p = .destroyed → g.Destroyed h
  | .limits p cs => p = .destroyed → g.Destroyed h ∧ cs = g.limits h

/-- The same of what a view was seen to read or to answer. -/
def Sight.Final (g : Guarded) : Sight → Prop
  | .phase _ h p => p = .destroyed → g.Destroyed h
  | .answered _ entries => ∀ e ∈ entries, Interleaving.Final g e
  | _ => True

section Keeps

variable {g g' : Guarded}

theorem Final.keep {e : Handle × Info} (he : Final g e) (hkeep : g.Keeps g') : Final g' e := by
  intro hp
  obtain ⟨hd, hcs, hzero⟩ := he hp
  exact ⟨hkeep.destroyed _ hd, hcs.trans (hkeep.limits _ hd).symm, hzero⟩

theorem Glance.Final.keep {h : Handle} {s : Glance} (hs : s.Final g h) (hkeep : g.Keeps g') :
    s.Final g' h := by
  cases s with
  | nothing => trivial
  | phase p => exact fun hp => hkeep.destroyed _ (hs hp)
  | limits p cs =>
    intro hp
    obtain ⟨hd, hcs⟩ := hs hp
    exact ⟨hkeep.destroyed _ hd, hcs.trans (hkeep.limits _ hd).symm⟩

theorem Sight.Final.keep {e : Sight} (he : e.Final g) (hkeep : g.Keeps g') : e.Final g' := by
  cases e with
  | phase i h p => exact fun hp => hkeep.destroyed _ (he hp)
  | answered i entries => exact fun e hmem => (he e hmem).keep hkeep
  | _ => trivial

end Keeps

/-- A view has read what will last, of every container that it shows destroyed. -/
structure View.Sound (g : Guarded) (v : View) : Prop where
  known : ∀ h ∈ v.rest, g.Known h
  glance : ∀ h ∈ v.rest.head?, v.glance.Final g h
  done : ∀ e ∈ v.done, Final g e

theorem View.Sound.keep {g g' : Guarded} {v : View} (hv : v.Sound g) (hkeep : g.Keeps g') :
    v.Sound g' :=
  ⟨fun h hh => hkeep.known (hv.known h hh), fun h hh => (hv.glance h hh).keep hkeep,
    fun e he => (hv.done e he).keep hkeep⟩

namespace Monitored

variable {m m' : Monitored} {es : List Sight} {e : Sight}

/-- The locks keep their promises, and so do the views. -/
structure Sound (m : Monitored) : Prop where
  world : m.guarded.world.Sound
  guarded : m.guarded.Sound
  views : ∀ i v, m.views i = some v → v.Sound m.guarded

theorem sound_start : start.Sound where
  world := World.sound_start
  guarded := Guarded.sound_start
  views _ _ h := absurd h (by simp [start])

theorem Sound.put (hm : m.Sound) {i : Nat} {o : Option View}
    (ho : ∀ v, o = some v → v.Sound m.guarded) : (m.put i o).Sound where
  world := hm.world
  guarded := hm.guarded
  views j v hj := by
    by_cases hji : j = i
    · exact ho v ((if_pos hji).symm.trans hj)
    · exact hm.views j v ((if_neg hji).symm.trans hj)

theorem Sound.put_some (hm : m.Sound) {i : Nat} {v : View} (hv : v.Sound m.guarded) :
    (m.put i (some v)).Sound :=
  hm.put fun _ h => Option.some.inj h ▸ hv

theorem Step.keeps (hstep : m.Step e m') (hm : m.Sound) : m.guarded.Keeps m'.guarded := by
  cases hstep with
  | act hstep => exact hstep.keeps hm.guarded hm.world
  | _ => exact .refl _

/-- **One step.**  Views can still be relied on, and so can what was seen. -/
theorem Step.sound (hstep : m.Step e m') (hm : m.Sound) : m'.Sound ∧ e.Final m'.guarded := by
  have hkeep := hstep.keeps hm
  cases hstep with
  | @act i g hstep =>
    have hworld : g.world.Sound := by
      rcases hstep.world hm.guarded with ⟨-, hsame⟩ | ⟨e, -, hs⟩
      · rw [hsame]
        exact hm.world
      · exact hm.world.step hs
    exact ⟨⟨hworld, hstep.sound hm.guarded, fun j v hj => (hm.views j v hj).keep hkeep⟩, trivial⟩
  | ask hi hknown =>
    exact ⟨hm.put_some ⟨hknown, fun _ _ => trivial, by simp⟩, trivial⟩
  | @phase i h rest done hi hlock =>
    have hv := hm.views _ _ hi
    have hphase : m.pool.phase h = .destroyed → m.guarded.Destroyed h :=
      (hv.known h (List.mem_cons_self ..)).destroyed
    refine ⟨hm.put_some ⟨hv.known, fun j hj => ?_, hv.done⟩, hphase⟩
    obtain rfl := Option.some.inj hj
    exact hphase
  | @limits i h rest done p hi hlock =>
    have hv := hm.views _ _ hi
    refine ⟨hm.put_some ⟨hv.known, fun j hj hp => ?_, hv.done⟩, trivial⟩
    obtain rfl := Option.some.inj hj
    exact ⟨hv.glance h rfl hp, rfl⟩
  | @attached i h rest done p cs hi hlock =>
    have hv := hm.views _ _ hi
    have hrest : ∀ j ∈ rest, m.guarded.Known j := fun j hj =>
      hv.known j (List.mem_cons_of_mem h hj)
    refine ⟨hm.put_some ⟨hrest, fun _ _ => trivial, fun e he => ?_⟩, trivial⟩
    rcases List.mem_append.mp he with he | he
    · exact hv.done e he
    · obtain rfl := List.mem_singleton.mp he
      intro hp
      -- the container was destroyed before its counter was read, so that nothing is attached
      obtain ⟨hd, hcs⟩ := hv.glance h rfl hp
      exact ⟨hd, hcs, hd.attached hm.world⟩
  | answer hi => exact ⟨hm.put (by simp), (hm.views _ _ hi).done⟩

/-- **All steps.** -/
theorem Run.sound (hrun : Run m es m') (hm : m.Sound) :
    m'.Sound ∧ m.guarded.Keeps m'.guarded ∧ ∀ e ∈ es, e.Final m'.guarded := by
  induction hrun with
  | nil => exact ⟨hm, .refl _, by simp⟩
  | cons hrun hstep ih =>
    obtain ⟨hv, hkeep, hes⟩ := ih
    obtain ⟨hv', he⟩ := hstep.sound hv
    have hkeep' := hstep.keeps hv
    refine ⟨hv', hkeep.trans hkeep', fun i hi => ?_⟩
    rcases List.mem_cons.mp hi with rfl | hi
    · exact he
    · exact (hes i hi).keep hkeep'

theorem Step.limits_eq (hstep : m.Step e m') {h : Handle} {cs : List Constraint}
    (he : e.limits? = some (h, cs)) : cs = m.guarded.limits h := by
  cases hstep with
  | act hstep =>
    cases hstep with
    | read hlock =>
      obtain ⟨rfl, rfl⟩ := Prod.mk.inj (Option.some.inj he)
      rfl
    | _ => exact absurd he (by simp [Sight.limits?])
  | limits hi hlock =>
    obtain ⟨rfl, rfl⟩ := Prod.mk.inj (Option.some.inj he)
    rfl
  | _ => exact absurd he (by simp [Sight.limits?])

/-- Whatever is read of the limits of a destroyed container is what is read at first. -/
theorem Run.limits_eq (hrun : Run m es m') (hm : m.Sound) {h : Handle}
    (hd : m.guarded.Destroyed h) {cs : List Constraint}
    (hread : ∃ e ∈ es, e.limits? = some (h, cs)) : cs = m.guarded.limits h := by
  induction hrun with
  | nil => exact absurd hread (by simp)
  | cons hrun hstep ih =>
    obtain ⟨e, hmem, he⟩ := hread
    rcases List.mem_cons.mp hmem with rfl | hmem
    · exact (hstep.limits_eq he).trans ((hrun.sound hm).2.1.limits h hd)
    · exact ih ⟨e, hmem, he⟩

/-! ## Views that nothing falls into -/

/-- Nobody has a lock of a container. -/
def Idle (m : Monitored) : Prop := ∀ h, m.guarded.PhaseFree h ∧ m.guarded.LimitsFree h

theorem views_put (m : Monitored) (i : Nat) (o : Option View) : (m.put i o).views i = o :=
  if_pos rfl

theorem Run.trans {es' : List Sight} {m'' : Monitored} (hrun : Run m es m')
    (hrun' : Run m' es' m'') : Run m (es' ++ es) m'' := by
  induction hrun' with
  | nil => exact hrun
  | cons _ hstep ih => exact ih.cons hstep

/-- A view that is at a container reads what there is to be read, and goes on to the next one. -/
theorem exists_read {i : Nat} {h : Handle} {rest : List Handle} {done : List (Handle × Info)}
    (hi : m.views i = some ⟨h :: rest, .nothing, done⟩) (hidle : m.Idle) (hg : m.guarded.Sound)
    (hknown : m.guarded.Known h) :
    ∃ es m', Run m es m' ∧ m'.guarded = m.guarded ∧
      m'.views i = some ⟨rest, .nothing, done ++ [(h, m.pool.info h)]⟩ := by
  obtain ⟨hphase, hlimits⟩ := hidle h
  have first := Run.nil.cons (.phase hi hphase)
  have second := first.cons (.limits (views_put ..) hlimits)
  have third := second.cons (.attached (views_put ..) hphase)
  refine ⟨_, _, third, rfl, (views_put ..).trans ?_⟩
  show some (View.mk rest .nothing (done ++ [(h, ⟨m.pool.id h, m.pool.name h, m.pool.phase h,
    m.guarded.limits h, m.pool.attached h⟩)])) = _
  rw [hg.limits_eq hknown]
  rfl

/-- A view that is not at the end yet comes there. -/
theorem exists_read_all {i : Nat} {rest : List Handle} {done : List (Handle × Info)}
    (hi : m.views i = some ⟨rest, .nothing, done⟩) (hidle : m.Idle) (hg : m.guarded.Sound)
    (hknown : ∀ h ∈ rest, m.guarded.Known h) :
    ∃ es m', Run m es m' ∧ m'.guarded = m.guarded ∧
      m'.views i = some ⟨[], .nothing, done ++ rest.map fun h => (h, m.pool.info h)⟩ := by
  induction rest generalizing m done with
  | nil => exact ⟨[], m, .nil, rfl, by rw [hi, List.map_nil, List.append_nil]⟩
  | cons h rest ih =>
    obtain ⟨es, v, hrun, hsame, hv⟩ := exists_read hi hidle hg (hknown h (List.mem_cons_self ..))
    obtain ⟨es', m', hrun', hsame', hm'⟩ := ih hv (by rw [Idle, hsame]; exact hidle)
      (hsame ▸ hg) fun j hj => hsame ▸ hknown j (List.mem_cons_of_mem h hj)
    refine ⟨es' ++ es, m', hrun.trans hrun', hsame'.trans hsame, hm'.trans ?_⟩
    have hpool : v.pool = m.pool := congrArg (fun g : Guarded => g.world.pool) hsame
    rw [hpool, List.append_assoc]
    rfl

/-- **A view that nothing falls into is what `Pool.info` gives**, of every container that is
viewed. -/
theorem exists_view {i : Nat} {hs : List Handle} (hi : m.views i = none) (hidle : m.Idle)
    (hg : m.guarded.Sound) (hknown : ∀ h ∈ hs, m.guarded.Known h) :
    ∃ es m', Run m (.answered i (hs.map fun h => (h, m.pool.info h)) :: es) m' ∧
      m'.guarded = m.guarded := by
  have asked := Run.nil.cons (.ask hi hknown)
  obtain ⟨es, v, hrun, hsame, hv⟩ := exists_read_all (views_put ..) hidle hg hknown
  exact ⟨_, _, (asked.trans hrun).cons (.answer hv), hsame⟩

/-- A view of all that a registry lists is its snapshot, if nothing falls into it. -/
theorem exists_snapshot {i : Nat} (r : Registry) (alive : Nat → Bool) (hi : m.views i = none)
    (hidle : m.Idle) (hg : m.guarded.Sound)
    (hknown : ∀ h ∈ r.containers alive, m.guarded.Known h) :
    ∃ es m' entries, Run m (.answered i entries :: es) m' ∧ m'.guarded = m.guarded ∧
      entries.map Prod.snd = r.snapshot alive m.pool := by
  obtain ⟨es, m', hrun, hsame⟩ := exists_view hi hidle hg hknown
  exact ⟨es, m', _, hrun, hsame, List.map_map⟩

/-! ## Views of destroyed containers -/

/-- **A view that shows a container destroyed shows its last state**, after any steps of any threads
and any views, however they fall into one another.

* In a view that is complete, a container that is shown destroyed is destroyed; it is shown without
  attachments and with the limits that it has.
* A container whose phase a view has read as destroyed is destroyed.
* The limits of a destroyed container are the same after any further steps.  They can be read then,
  and they are what every read of them returns, whether a view makes it or not.  There is no
  attachment to it.
* At any moment at which nobody has a lock, a view that nothing falls into is `Pool.info` of the
  container, and one of what a registry lists is `Registry.snapshot`. -/
theorem view_of_destroyed (hrun : Run start es m) :
    (∀ i entries, .answered i entries ∈ es → ∀ h info, (h, info) ∈ entries →
      info.phase = .destroyed →
        ∃ n, h = .managed n ∧ m.guarded.world.Destroyed n ∧ info.attached = 0 ∧
          info.constraints = m.guarded.constraints n) ∧
    (∀ i h, .phase i h .destroyed ∈ es → ∃ n, h = .managed n ∧ m.guarded.world.Destroyed n) ∧
    (∀ n, m.guarded.world.Destroyed n → ∀ es' m', Run m es' m' →
      m'.guarded.constraints n = m.guarded.constraints n ∧
      m'.Step (.happened (.read n (m.guarded.constraints n))) m' ∧
      (∀ e ∈ es', ∀ cs, e.limits? = some (.managed n, cs) → cs = m.guarded.constraints n) ∧
      m'.pool.attached (.managed n) = 0) ∧
    ∀ i, m.views i = none → m.Idle →
      (∀ h, m.guarded.Known h → ∃ es' m', Run m (.answered i [(h, m.pool.info h)] :: es') m' ∧
        m'.guarded = m.guarded) ∧
      ∀ (r : Registry) (alive : Nat → Bool), (∀ h ∈ r.containers alive, m.guarded.Known h) →
        ∃ es' m' entries, Run m (.answered i entries :: es') m' ∧ m'.guarded = m.guarded ∧
          entries.map Prod.snd = r.snapshot alive m.pool := by
  obtain ⟨hm, -, hes⟩ := hrun.sound sound_start
  refine ⟨fun i entries hmem h info he hp => ?_, fun i h hmem => hes _ hmem rfl,
    fun n hd es' m' hrun' => ?_, fun i hi hidle => ⟨fun h hknown => ?_, fun r alive hknown =>
      exists_snapshot r alive hi hidle hm.guarded hknown⟩⟩
  · obtain ⟨⟨n, rfl, hd⟩, hcs, hzero⟩ := hes _ hmem _ he hp
    exact ⟨n, rfl, hd, hzero, hcs⟩
  · obtain ⟨hm', hkeep, -⟩ := hrun'.sound hm
    have hhandle : m.guarded.Destroyed (.managed n) := ⟨n, rfl, hd⟩
    have hsame : m'.guarded.constraints n = m.guarded.constraints n := hkeep.limits _ hhandle
    obtain ⟨k, hk, hd'⟩ := hkeep.destroyed _ hhandle
    obtain rfl := Handle.managed.inj hk
    exact ⟨hsame, .act (hsame ▸ .read (hm'.guarded.not_limitsLocked hd')),
      fun e he cs hcs => hrun'.limits_eq hm hhandle ⟨e, he, hcs⟩, hm'.world.settled n hd'.2⟩
  · have hall : ∀ h' ∈ [h], m.guarded.Known h' := by simpa using hknown
    exact exists_view hi hidle hm.guarded hall

/-- The second thread updates the container and destroys it, while a view of the root container and
of that container is being made. -/
def viewedLate : List Sight :=
  [.answered 0 [(.root, ⟨0, some "root", .running, [], 0⟩),
      (.managed 0, ⟨1, none, .destroyed, [⟨.pids, 32⟩], 0⟩)],
    .attached 0 (.managed 0) 0, .limits 0 (.managed 0) [⟨.pids, 32⟩],
    .phase 0 (.managed 0) .destroyed,
    .happened (.event ⟨1, .perform (.destroy (.managed 0)), .destroyed (.managed 0)⟩),
    .happened (.answered ⟨0, 0, ⟨.pids, 32⟩⟩ true), .happened (.wrote 1 ⟨0, 0, ⟨.pids, 32⟩⟩),
    .happened .quiet, .happened .quiet,
    .attached 0 .root 0, .limits 0 .root [], .phase 0 .root .running, .quiet,
    .happened .quiet, .happened .quiet, .happened (.event ⟨0, .perform .spawn, .quiet⟩),
    .happened (.event ⟨0, .perform (.create Config.empty .idle), .created 0⟩)]

theorem exists_run_viewedLate : ∃ m, Run start viewedLate m := by
  -- the second thread is the only one that updates, so that locks are free unless it has them
  have h0 : Guarded.start.Alone 1 := fun _ _ => rfl
  have created := Run.nil.cons (@Step.act start _ _ (@Guarded.Step.event _ 0
    (.perform (.create Config.empty .idle)) _ _ (fun _ => []) rfl rfl (by simp)
    (fun n hn => absurd hn (h0.not_locked rfl n))
    (fun n hn => by obtain rfl := Note.created.inj hn; exact .refl _) (fun _ _ => rfl)))
  have spawned := created.cons (.act (@Guarded.Step.event _ 0 (.perform .spawn) .quiet _ _ rfl rfl
    (by simp) (fun n hn => absurd hn (h0.not_locked rfl n)) (by simp) (fun _ _ => rfl)))
  have asked := spawned.cons (.act (@Guarded.Step.ask _ 1 0 _ ⟨.pids, 32⟩ rfl rfl rfl (by decide)))
  have h1 := h0.put (some (⟨0, 0, ⟨.pids, 32⟩⟩, .waiting))
  have locked := asked.cons (.act (.lockPhase (k := 1) rfl (h1.not_locked rfl 0)))
  have begun := locked.cons (@Step.ask _ 0 [.root, .managed 0] rfl
    (by simp [Guarded.Known]; decide))
  have root := ((begun.cons (.phase (i := 0) rfl (by simp [Guarded.PhaseFree]))).cons
    (.limits (i := 0) rfl (by simp [Guarded.LimitsFree]))).cons
    (.attached (i := 0) rfl (by simp [Guarded.PhaseFree]))
  have allowed := root.cons (.act (.allow (k := 1) rfl rfl))
  have h2 := (h1.put (some (⟨0, 0, ⟨.pids, 32⟩⟩, .looking))).put
    (some (⟨0, 0, ⟨.pids, 32⟩⟩, .allowed))
  have locked' := allowed.cons (.act (.lockLimits (k := 1) rfl (h2.not_locked rfl 0)))
  have granted := (locked'.cons (.act (.write (k := 1) rfl (List.reverse_perm _)))).cons
    (.act (.grant (k := 1) rfl))
  have h3 := ((h2.put (some (⟨0, 0, ⟨.pids, 32⟩⟩, .writing))).put
    (some (⟨0, 0, ⟨.pids, 32⟩⟩, .written))).put none
  have destroyed := granted.cons (.act (@Guarded.Step.event _ 1 (.perform (.destroy (.managed 0)))
    (.destroyed (.managed 0)) _ _ rfl rfl (by simp)
    (fun n hn => absurd hn (h3.not_locked rfl n)) (by simp) (fun _ _ => rfl)))
  have viewed := (((destroyed.cons (.phase (i := 0) rfl (fun n _ => h3.not_locked rfl n))).cons
    (.limits (i := 0) rfl (fun n _ => h3.not_locked rfl n))).cons
    (.attached (i := 0) rfl (fun n _ => h3.not_locked rfl n))).cons (.answer (i := 0) rfl)
  have hsort : Constraint.sort [⟨.pids, 32⟩] = [⟨.pids, 32⟩] := List.mergeSort_singleton _
  rw [viewedLate, ← hsort]
  exact ⟨_, viewed⟩

theorem view_of_destroyed_viewedLate :
    ∃ m, Run start viewedLate m ∧ m.guarded.constraints 0 = [⟨.pids, 32⟩] ∧
      ∀ es' m', Run m es' m' → m'.guarded.constraints 0 = [⟨.pids, 32⟩] := by
  obtain ⟨m, viewed⟩ := exists_run_viewedLate
  obtain ⟨hanswered, -, hfrozen, -⟩ := view_of_destroyed viewed
  obtain ⟨n, hn, hd, -, hcs⟩ := hanswered 0 _ (List.mem_cons_self ..) (.managed 0) _
    (List.mem_cons_of_mem _ (List.mem_cons_self ..)) rfl
  obtain rfl := Handle.managed.inj hn
  exact ⟨m, viewed, hcs.symm, fun es' m' hrun => (hfrozen 0 hd es' m' hrun).1.trans hcs.symm⟩

end Monitored

end ResourceContainers.Interleaving
