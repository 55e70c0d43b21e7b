import ResourceContainers.Proofs.Lexical.Program
import ResourceContainers.Proofs.Outcome
import ResourceContainers.Proofs.PoolEffects

/-!
# The slot refines the parameter

A program that writes its slot does what the program with its binding as a parameter does.  The two
states are related by `Store.machine`: the slot holds the binding of the position, and every counter
is what it was before, plus the attachments around the position.

* `Pool.counting`: what each request does to a pool inside further attachments.
* `Store.machine`: the machine that a store stands for at a position.
* `Follows`: a computation does what the reference evaluator does with a program.
* `Follows.within`: a run leaves the machine that its command leaves, at the position outside.
* `exec_eq_eval`: the refinement, by induction over the program.
* `exec_refines_eval`: the main statement.

## Why writing root is right

On its way out of an attachment a thread writes root, and not what it found.  At that moment the
position outside is in root: `Position.into` adds an attachment only from there.
-/

namespace ResourceContainers

/-! ## Pools inside attachments -/

namespace Pool

variable {p p' q : Pool} {n m : Nat} {ns : List Nat}

theorem ext_container (hsize : p.containers.size = q.containers.size)
    (hcontainer : ∀ n, p.container n = q.container n) (haccounts : p.accounts = q.accounts)
    (hid : p.nextId = q.nextId) : p = q := by
  obtain ⟨containers, accounts, nextId⟩ := p
  obtain ⟨containers', accounts', nextId'⟩ := q
  obtain rfl : accounts = accounts' := haccounts
  obtain rfl : nextId = nextId' := hid
  congr 1
  refine Array.ext hsize fun i hi hi' => ?_
  have hi := hcontainer i
  simp only [container, Array.getD_eq_getD_getElem?] at hi
  rwa [Array.getElem?_eq_getElem, Array.getElem?_eq_getElem] at hi

@[simp] theorem size_counting (p : Pool) (ns : List Nat) :
    (p.counting ns).containers.size = p.containers.size := by
  induction ns with
  | nil => rfl
  | cons n ns ih => rw [counting, size_change, ih]

@[simp] theorem accounts_counting (p : Pool) (ns : List Nat) :
    (p.counting ns).accounts = p.accounts := by
  induction ns with
  | nil => rfl
  | cons n ns ih => exact ih

@[simp] theorem nextId_counting (p : Pool) (ns : List Nat) :
    (p.counting ns).nextId = p.nextId := by
  induction ns with
  | nil => rfl
  | cons n ns ih => exact ih

/-- Inside attachments every container of the pool counts its own. -/
theorem container_counting (p : Pool) (ns : List Nat) (m : Nat) :
    (p.counting ns).container m =
      if m < p.containers.size then
        { p.container m with attached := (p.container m).attached + ns.count m }
      else p.container m := by
  induction ns with
  | nil => split <;> rfl
  | cons n ns ih =>
    rw [counting, container_change, size_counting, ih, List.count_cons]
    by_cases hm : m < p.containers.size
    · by_cases hn : n = m <;> simp [hm, hn, Nat.add_assoc]
    · simp [hm]

@[simp] theorem phase_counting (p : Pool) (ns : List Nat) (m : Nat) :
    ((p.counting ns).container m).phase = (p.container m).phase := by
  rw [container_counting]
  split <;> rfl

/-- A change that has nothing to do with counters may as well be made outside. -/
theorem change_counting (p : Pool) (n : Nat) (ns : List Nat) {f : Container → Container}
    (hf : ∀ c k, f { c with attached := c.attached + k } =
      { f c with attached := (f c).attached + k }) :
    (p.counting ns).change n f = (p.change n f).counting ns := by
  refine ext_container (by simp) (fun m => ?_) (by simp [change]) (by simp [change])
  simp only [container_change, container_counting, size_counting, size_change]
  by_cases hm : m < p.containers.size
  · by_cases hn : n = m <;> simp [hm, hn, hf]
  · simp [hm]

theorem release_counting (p : Pool) (n : Nat) (ns : List Nat) :
    (p.counting (n :: ns)).release n = p.counting ns := by
  refine ext_container (by simp [release]) (fun m => ?_) rfl rfl
  rw [release, container_change, counting, container_change, size_change]
  by_cases hn : n = m ∧ m < (p.counting ns).containers.size
  · rw [if_pos hn, if_pos hn, Nat.add_sub_cancel]
  · rw [if_neg hn, if_neg hn]

theorem destroy_counting {h : Handle} (hd : (p.counting ns).destroy h = .ok q) :
    ∃ p', p.destroy h = .ok p' ∧ q = p'.counting ns := by
  cases h with
  | root => exact absurd hd (by simp)
  | managed n =>
    obtain ⟨hrunning, hattached, rfl⟩ := destroy_eq_ok_iff.mp hd
    rw [phase_counting] at hrunning
    rw [container_counting, if_pos (lt_size_of_running hrunning)] at hattached
    have hzero : (p.container n).attached = 0 := Nat.eq_zero_of_add_eq_zero_right hattached
    exact ⟨_, destroy_eq_ok_iff.mpr ⟨hrunning, hzero, rfl⟩,
      change_counting p n ns fun c k => rfl⟩

theorem update_counting (p : Pool) (h : Handle) (k : Constraint) (ns : List Nat) :
    (p.counting ns).update h k = (p.update h k).map (·.counting ns) := by
  cases h with
  | root => rfl
  | managed n =>
    simp only [update, phase_counting]
    cases (p.container n).phase with
    | destroyed => rfl
    | running => exact congrArg Except.ok (change_counting p n ns fun c k => rfl)

end Pool

namespace Lexical

open Script

variable {ω α β : Type}

/-! ## Ways in -/

namespace Position

variable {pos inside : Position} {p : Pool} {target : Handle} {why : Refusal}

theorem into_error (h : pos.into p target = .error why) :
    Passage.into (p.counting pos.entered) (.bound pos.here) target = .error why := by
  cases target with
  | root => exact absurd h (by simp [into])
  | managed n =>
    simp only [into] at h
    simp only [Passage.into, Passage.choose, Pool.phase, Pool.phase_counting, Slot.current]
    cases hphase : (p.container n).phase with
    | destroyed => rw [hphase] at h; exact congrArg _ (Except.error.inj h)
    | running =>
      rw [hphase] at h
      simp only at h
      split at h
      · exact absurd h (by simp)
      · next hhere =>
        split at h
        · exact absurd h (by simp)
        · next hroot =>
          obtain ⟨k, hk⟩ : ∃ k, pos.here = .managed k := by
            cases hpos : pos.here with
            | root => exact absurd hpos hroot
            | managed k => exact ⟨k, rfl⟩
          have hkn : k ≠ n := fun heq => hhere (by rw [hk, heq])
          simp [hk, hkn, Handle.isRoot, Except.error.inj h]

/-- A thread gets where the text says, and what it does on its way out takes it back. -/
theorem into_ok (h : pos.into p target = .ok inside) :
    ∃ way, Passage.into (p.counting pos.entered) (.bound pos.here) target =
        .ok (way, p.counting inside.entered, .bound inside.here) ∧
      ∀ q : Pool, way.leave (q.counting inside.entered) (.bound inside.here) =
        (q.counting pos.entered, .bound pos.here) := by
  obtain ⟨here, entered⟩ := pos
  cases target with
  | root =>
    obtain rfl := Except.ok.inj h
    cases here with
    | root => exact ⟨.direct, rfl, fun q => rfl⟩
    | managed k => exact ⟨.stepOut (.managed k), rfl, fun q => rfl⟩
  | managed n =>
    simp only [into] at h
    cases hphase : (p.container n).phase with
    | destroyed => rw [hphase] at h; exact absurd h (by simp)
    | running =>
      rw [hphase] at h
      simp only at h
      split at h
      · next hhere =>
        obtain rfl := Except.ok.inj h
        refine ⟨.direct, ?_, fun q => rfl⟩
        simp [Passage.into, Passage.choose, Passage.enter, Pool.phase, hphase, Slot.current, hhere]
      · split at h
        · next hroot =>
          obtain rfl := Except.ok.inj h
          obtain rfl : here = .root := hroot
          refine ⟨.attach n, ?_, fun q => ?_⟩
          · simp [Passage.into, Passage.choose, Passage.enter, Pool.phase, hphase, Slot.current,
              Handle.isRoot, Pool.acquire, Pool.counting, Slot.bind]
          · simp [Passage.leave, Pool.release_counting, Slot.bind]
        · exact absurd h (by simp)

end Position

/-! ## Machines and stores -/

/-- The machine `m`, with the binding of a position and the pool and the events of a store. -/
def Store.machine (s : Store ω) (pos : Position) (m : Machine ω) : Machine ω :=
  { m with pool := s.pool.counting pos.entered, events := s.events }.withSlot (.bound pos.here)

/-- A thread that goes back from one position to another one. -/
theorem Store.machine_left {pos inside : Position} {way : Passage}
    (hleave : ∀ q : Pool, way.leave (q.counting inside.entered) (.bound inside.here) =
      (q.counting pos.entered, .bound pos.here)) (s : Store ω) (m : Machine ω) :
    (s.machine inside m).left way = s.machine pos m := by
  show { m with pool := (way.leave (s.pool.counting inside.entered) (.bound inside.here)).1,
                events := s.events }.withSlot
    (way.leave (s.pool.counting inside.entered) (.bound inside.here)).2 = _
  rw [hleave]
  rfl

/-- With a slot, a computation does what a program does with a parameter, on every machine on which
the names of containers stand for what they stand for in `names`. -/
def Follows (names : Table String Handle) (x : Exec ω α) (program : Program ω α) : Prop :=
  ∀ (pos : Position) (s : Store ω) (m : Machine ω), m.handles = names →
    outcome x (s.machine pos m) =
      ((eval program pos s).1, (eval program pos s).2.machine pos m)

section Follows

variable {names : Table String Handle} {x : Exec ω β} {command : Program ω β} {m : Machine ω}

theorem Follows.holding (hx : Follows names x command) (hs : List Handle) :
    Follows names (holding hs x) command := by
  intro pos s m hm
  rw [outcome_holding]
  exact congrArg (fun r : Except String β × Machine ω => (r.1, { r.2 with held := m.held }))
    (hx pos s { m with held := hs ++ m.held } hm)

/-- A run is refused, or leaves what its command leaves, at the position outside. -/
theorem Follows.within (hx : Follows names x command) (target : Handle) (pos : Position)
    (s : Store ω) (hm : m.handles = names) :
    outcome (within target x) (s.machine pos m) =
      match pos.into s.pool target with
      | .error why => (.ok (.error why), s.machine pos m)
      | .ok inside =>
        ((eval command inside s).1.map .ok, (eval command inside s).2.machine pos m) := by
  have hentry : Passage.into (s.machine pos m).pool (s.machine pos m).worker.slot target =
      Passage.into (s.pool.counting pos.entered) (.bound pos.here) target := rfl
  rw [outcome_within, hentry]
  cases hpos : pos.into s.pool target with
  | error why => rw [Position.into_error hpos]
  | ok inside =>
    obtain ⟨way, hway, hleave⟩ := Position.into_ok hpos
    rw [hway]
    have hinside := hx.holding [target] inside s m hm
    refine (congrArg (fun r : Except String β × Machine ω => (r.1.map Except.ok, r.2.left way))
      hinside).trans ?_
    exact congrArg _ (Store.machine_left hleave (eval command inside s).2 m)

theorem Follows.bind {f : β → Exec ω α} {next : β → Program ω α} (hx : Follows names x command)
    (hf : ∀ b, Follows names (f b) (next b)) : Follows names (x >>= f) (command.bind next) := by
  intro pos s m hm
  rw [outcome_bind, hx pos s m hm, eval_bind]
  cases eval command pos s with
  | mk result s' =>
    cases result with
    | error message => rfl
    | ok b => exact hf b pos s' m hm

end Follows

/-- A request answers the same with a slot and with a parameter. -/
theorem outcome_changing_of_counting {f g : Pool → Except Refusal Pool} {pos : Position}
    {s : Store ω} (hfg : f (s.pool.counting pos.entered) =
      (g s.pool).map (·.counting pos.entered)) (m : Machine ω) :
    outcome (changing f) (s.machine pos m) =
      (.ok (answer s.pool (g s.pool)).1,
        ({ s with pool := (answer (ω := ω) s.pool (g s.pool)).2 } : Store ω).machine pos m) := by
  have hpool : f (s.machine pos m).pool = f (s.pool.counting pos.entered) := rfl
  rw [outcome_changing, hpool, hfg]
  cases g s.pool <;> rfl

/-- Destroying is decided by the attachments before the program and those around the position. -/
theorem destroyAt_counting (pos : Position) (p : Pool) (h : Handle) :
    (p.counting pos.entered).destroy h =
      (destroyAt pos p h).map (·.counting pos.entered) := by
  unfold destroyAt
  cases hd : (p.counting pos.entered).destroy h with
  | error why => rfl
  | ok q =>
    obtain ⟨p', hp', rfl⟩ := Pool.destroy_counting hd
    rw [hp']
    rfl

/-- **The slot refines the parameter**, for every program. -/
theorem exec_eq_eval (names : Table String Handle) (program : Program ω α) :
    Follows names (exec program) program := by
  induction program with
  | done a => exact fun pos s m hm => rfl
  | panic message => exact fun pos s m hm => rfl
  | current next ih =>
    intro pos s m hm
    rw [exec, outcome_bind, outcome_get]
    exact ih pos.here pos s m hm
  | look next ih =>
    intro pos s m hm
    rw [exec, outcome_bind, outcome_get]
    exact ih (s.pool.counting pos.entered) pos s m hm
  | note e next ih =>
    intro pos s m hm
    rw [exec, outcome_bind, outcome_modify]
    exact ih pos { s with events := e :: s.events } m hm
  | destroy h next ih =>
    intro pos s m hm
    rw [exec, outcome_bind, outcome_changing_of_counting (g := (destroyAt pos · h))
      (destroyAt_counting pos s.pool h)]
    exact ih _ pos _ m hm
  | update h k next ih =>
    intro pos s m hm
    rw [exec, outcome_bind, outcome_changing_of_counting (g := (·.update h k))
      (Pool.update_counting s.pool h k pos.entered)]
    exact ih _ pos _ m hm
  | run h command next ihcommand ihnext =>
    intro pos s m hm
    rw [exec, outcome_bind, ihcommand.within h pos s hm, eval]
    cases pos.into s.pool h with
    | error why => exact ihnext (.error why) pos s m hm
    | ok inside =>
      simp only
      cases eval command inside s with
      | mk result s' =>
        cases result with
        | error message => rfl
        | ok b => exact ihnext (.ok b) pos s' m hm
  | guarded part next ihpart ihnext =>
    intro pos s m hm
    rw [exec, outcome_bind, outcome_attempt, ihpart pos s m hm]
    exact ihnext _ pos _ m hm

/-! ## Counters -/

theorem attached_of_destroyAt {pos : Position} {p p' : Pool} {h : Handle}
    (hd : destroyAt pos p h = .ok p') (n : Nat) :
    (p'.container n).attached = (p.container n).attached := by
  unfold destroyAt at hd
  split at hd
  · exact Pool.attached_destroy hd n
  · exact absurd hd (by simp)

/-- The reference evaluator changes no counter. -/
theorem eval_attached (program : Program ω α) (pos : Position) (s : Store ω) (n : Nat) :
    ((eval program pos s).2.pool.container n).attached = (s.pool.container n).attached := by
  induction program generalizing pos s with
  | done a => rfl
  | panic message => rfl
  | current next ih => exact ih _ pos s
  | look next ih => exact ih _ pos s
  | note e next ih => exact ih pos _
  | destroy h next ih =>
    refine (ih _ pos _).trans ?_
    cases hd : destroyAt pos s.pool h with
    | error why => rfl
    | ok p => exact attached_of_destroyAt hd n
  | update h k next ih =>
    refine (ih _ pos _).trans ?_
    cases hu : s.pool.update h k with
    | error why => rfl
    | ok p => exact Pool.attached_update hu n
  | run h command next ihcommand ihnext =>
    rw [eval]
    cases pos.into s.pool h with
    | error why => exact ihnext _ pos s
    | ok inside =>
      have hcommand := ihcommand inside s
      simp only
      cases he : eval command inside s with
      | mk result s' =>
        rw [he] at hcommand
        cases result with
        | error message => exact hcommand
        | ok b => exact (ihnext _ pos s').trans hcommand
  | guarded part next ihpart ihnext => exact (ihnext _ pos _).trans (ihpart pos s)

/-! ## From any machine -/

/-- A machine whose thread has a slot is the one that its own pool and events stand for. -/
theorem Store.machine_of_slot {m : Machine ω} {h : Handle} (hslot : m.worker.slot = .bound h)
    (s : Store ω) : s.machine ⟨h, []⟩ m = { m with pool := s.pool, events := s.events } := by
  show { m with pool := s.pool, events := s.events, worker := _ } = _
  congr 1
  rw [← hslot]

theorem Follows.outcome_eq {m : Machine ω} {x : Exec ω α} {program : Program ω α}
    (hx : Follows m.handles x program) {h : Handle} (hslot : m.worker.slot = .bound h) :
    outcome x m =
      ((eval program ⟨h, []⟩ ⟨m.pool, m.events⟩).1,
        { m with
          pool := (eval program ⟨h, []⟩ ⟨m.pool, m.events⟩).2.pool
          events := (eval program ⟨h, []⟩ ⟨m.pool, m.events⟩).2.events }) := by
  have hprogram := hx ⟨h, []⟩ ⟨m.pool, m.events⟩ m rfl
  rwa [Store.machine_of_slot hslot, Store.machine_of_slot hslot] at hprogram

/-- **What a thread does is what its text says**, whatever state it starts in.

* With a slot, a program has the result or the panic, and leaves the containers and the events, that
  the reference evaluator gives it, which passes the binding as a parameter.  The slot is as it was.
* No counter is changed.
* After a run into any container, whether it was refused, returned or panicked, the slot and every
  counter are as they were before the run. -/
theorem exec_refines_eval (program : Program ω α) {m : Machine ω} {h : Handle}
    (hslot : m.worker.slot = .bound h) :
    outcome (exec program) m =
      ((eval program ⟨h, []⟩ ⟨m.pool, m.events⟩).1,
        { m with
          pool := (eval program ⟨h, []⟩ ⟨m.pool, m.events⟩).2.pool
          events := (eval program ⟨h, []⟩ ⟨m.pool, m.events⟩).2.events }) ∧
    (∀ c, (eval program ⟨h, []⟩ ⟨m.pool, m.events⟩).2.pool.attached c = m.pool.attached c) ∧
    ∀ target,
      (outcome (within target (exec program)) m).2.worker.slot = m.worker.slot ∧
      ∀ c, (outcome (within target (exec program)) m).2.pool.attached c = m.pool.attached c := by
  have hprogram := exec_eq_eval m.handles program
  have hattached (pos : Position) (c : Handle) :
      (eval program pos ⟨m.pool, m.events⟩).2.pool.attached c = m.pool.attached c := by
    cases c with
    | root => rfl
    | managed n => exact eval_attached program pos _ n
  refine ⟨hprogram.outcome_eq hslot, hattached _, fun target => ?_⟩
  have hwithin := hprogram.within target ⟨h, []⟩ ⟨m.pool, m.events⟩ rfl
  rw [Store.machine_of_slot hslot] at hwithin
  rw [hwithin]
  cases Position.into ⟨h, []⟩ m.pool target with
  | error why => exact ⟨rfl, fun c => rfl⟩
  | ok inside =>
    simp only [Store.machine_of_slot hslot]
    exact ⟨trivial, hattached inside⟩

/-- Into a container, out to root, into the container again to destroy it, and a panic there that is
caught outside. -/
def inAndOutAndIn : Program ω (Handle × Except String (Except Refusal Nat)) :=
  .guarded
    (.run (.managed 0)
      (.run .root
        (.run (.managed 0)
          (.destroy (.managed 0) fun
            | .refused (.stillAttached 2) => .panic "attached twice"
            | _ => .look fun p => .done (p.attached (.managed 0)))
          .done)
        .done)
      fun
        | .ok (.ok result) => .done result
        | .ok (.error why) | .error why => .done (.error why))
    fun result => .current fun h => .done (h, result)

/-- Both attachments are in the way, and none is left. -/
theorem exec_refines_eval_inAndOutAndIn : ∃ m : Machine Unit, m.worker.slot = .bound .root ∧
    (outcome (exec inAndOutAndIn) m).1 = .ok (.root, .error "attached twice") ∧
    (outcome (exec inAndOutAndIn) m).2.worker.slot = .bound .root ∧
    (outcome (exec inAndOutAndIn) m).2.pool.attached (.managed 0) = 0 := by
  let m : Machine Unit := { Machine.start with pool := (Pool.empty.create Config.empty .idle).1 }
  obtain ⟨hexec, hattached, -⟩ := exec_refines_eval inAndOutAndIn (m := m) (h := .root) rfl
  refine ⟨m, rfl, ?_, ?_, ?_⟩
  · rw [hexec]
    rfl
  · rw [hexec]
    rfl
  · rw [hexec]
    exact hattached (.managed 0)

end Lexical

end ResourceContainers
