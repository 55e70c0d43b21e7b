import ResourceContainers.Proofs.Interleaving.Enactment
import ResourceContainers.Script.Run

/-!
# Whole trees

`Family.spawn_enacted` and `Family.spawnTask_enacted` ask that a family can go on as the child does
wherever it begins.  The child may start children of its own, inside the container or out of it
again, and they may do the same.  A computation that keeps to what threads of a family can do is
enacted from wherever a thread executes code, so the depth of the tree does not matter.

* `Family.Enactable`: what any thread of any family can take the steps of.
* `Family.Enactable.bind`, `.within`, `.onWorker`, `.spawn`, `.spawnTask`: how such computations are
  made of others.
* `Script.Command.InTree`: commands that create and change containers, run into them and start
  children.
* `Family.enactable_runBody`: a script of such commands.

Left out are the commands about names, accounts and registries, those that keep a thread or a task
under a key for later, and those that poll a task where they are themselves: whether they are bound
to root is known only when they are run.
-/

namespace ResourceContainers

open Script (Answer Exec Machine Path Ref Runner Worker outcome)

variable {ω α β : Type}

namespace Script

/-- Commands that start children at once, and what may happen on the way. -/
inductive Command.InTree : Command ω → Prop
  | create (name : String) (how : Creation) : InTree (.create name how)
  | ask (c : Ref) (question : Question) : InTree (.ask c question)
  | accepts (c : Ref) (child : Child) : InTree (.accepts c child)
  | inherited (child : Child) : InTree (.inherited child)
  | whereAmI : InTree .whereAmI
  | whoAmI : InTree .whoAmI
  | update (c : Ref) (resource : String) (amount : UInt64) : InTree (.update c resource amount)
  | destroy (c : Ref) : InTree (.destroy c)
  | setPolicy (c : Ref) (rule : Rule) : InTree (.setPolicy c rule)
  | panic (message : String) : InTree (.panic message)
  | run {body : List (Command ω)} (h : ∀ d ∈ body, InTree d) (c : Ref) (result : ω) :
      InTree (.run c body result)
  | nest {body : List (Command ω)} (h : ∀ d ∈ body, InTree d) (cs : List Ref) (times : Nat) :
      InTree (.nest cs times body)
  | guarded {body : List (Command ω)} (h : ∀ d ∈ body, InTree d) : InTree (.guarded body)
  | thread {body : List (Command ω)} (h : ∀ d ∈ body, InTree d) : InTree (.thread body)
  | spawn {body : List (Command ω)} (h : ∀ d ∈ body, InTree d) (name : Option String) :
      InTree (.spawn name body)
  | spawnTask {segments : List (List (Command ω))} (h : ∀ body ∈ segments, ∀ d ∈ body, InTree d) :
      InTree (.spawnTask .worker segments)

end Script

namespace Interleaving.Family

variable {f : Family} {k : Nat} {calls : List Call} {d : Descendant}

theorem Begins.executing (h : f.Begins d k calls) : f.Executing k calls := by
  have hlast := h.last
  split at hlast
  · obtain ⟨-, -, way, rfl⟩ := hlast
    exact ⟨rfl, nofun⟩
  · obtain ⟨visit, j, outer, -, rfl, -⟩ := hlast
    exact ⟨rfl, nofun⟩

/-- A computation that any thread of any family may take the steps of while it executes code. -/
def Enactable (x : Exec ω α) : Prop :=
  ∀ f k calls (m : Machine ω), Reachable f → f.Executing k calls → f.At k calls m →
    ∃ g, f.Enacts k calls (outcome x m).2 g

variable {x : Exec ω α}

theorem Enactable.performs (hx : Enactable x) (h : f.Reachable) (d : Descendant) :
    f.Performs d x :=
  fun g k calls m hg hbegins hat => hx g k calls m (h.trans hg) hbegins.executing hat

/-! ## What changes no container -/

/-- The pool and the slot of the running thread stay as they are. -/
theorem enactable_of_still (hpool : ∀ m, (outcome x m).2.pool = m.pool)
    (hslot : ∀ m, (outcome x m).2.worker.slot = m.worker.slot) : Enactable x :=
  fun f _ _ m _ _ hat => ⟨f, (Enacts.refl hat).congr (hpool m).symm (hslot m).symm⟩

theorem enactable_pure (a : α) : Enactable (pure a : Exec ω α) :=
  enactable_of_still (fun _ => rfl) fun _ => rfl

theorem enactable_get : Enactable (get : Exec ω (Machine ω)) :=
  enactable_of_still (fun _ => rfl) fun _ => rfl

theorem enactable_panicking (message : String) :
    Enactable (Script.panicking message : Exec ω α) :=
  enactable_of_still (fun _ => rfl) fun _ => rfl

theorem Enactable.bind {y : α → Exec ω β} (hx : Enactable x) (hy : ∀ a, Enactable (y a)) :
    Enactable (x >>= y) := by
  intro f k calls m h hexec hat
  obtain ⟨g, hg⟩ := hx f k calls m h hexec hat
  rw [Script.outcome_bind]
  generalize outcome x m = r at hg
  obtain ⟨result, m'⟩ := r
  cases result with
  | error message => exact ⟨g, hg⟩
  | ok a =>
    obtain ⟨g', hg'⟩ := hy a g k calls m' (h.trans hg.leads) (hexec.of_leads hat hg.leads)
      hg.arrives
    exact ⟨g', hg.trans hg'⟩

/-- Looking at the machine is no step. -/
theorem enactable_looking (y : Machine ω → α) : Enactable (do return y (← get) : Exec ω α) :=
  enactable_get.bind fun m => enactable_pure (y m)

theorem Enactable.attempt (hx : Enactable x) : Enactable (Script.attempt x) :=
  fun f k calls m h hexec hat => hx f k calls m h hexec hat

theorem Enactable.holding (hx : Enactable x) (hs : List Handle) :
    Enactable (Script.holding hs x) := by
  intro f k calls m h hexec hat
  obtain ⟨g, hg⟩ := hx f k calls { m with held := hs ++ m.held } h hexec ⟨hat.pool, hat.thread⟩
  rw [Script.outcome_holding]
  exact ⟨g, hg.congr rfl rfl⟩

theorem Enactable.noting {x : Exec ω (Answer ω)} (hx : Enactable x) (path : Path) :
    Enactable (Script.noting path x) := by
  intro f k calls m h hexec hat
  obtain ⟨g, hg⟩ := hx f k calls m h hexec hat
  rw [Script.outcome_noting]
  exact ⟨g, hg.congr rfl rfl⟩

theorem Enactable.onHandle {y : Handle → Exec ω (Answer ω)} (hy : ∀ h, Enactable (y h))
    (c : Ref) : Enactable (Script.onHandle c y) := by
  intro f k calls m h hexec hat
  rw [Script.outcome_onHandle]
  cases m.resolve c with
  | ok target => exact hy target f k calls m h hexec hat
  | error what => exact ⟨f, .refl hat⟩

theorem Enactable.onResource {y : Resource → Exec ω (Answer ω)} (hy : ∀ r, Enactable (y r))
    (name : String) : Enactable (Script.onResource name y) := by
  unfold Script.onResource
  split
  · exact hy _
  · exact enactable_pure _

/-! ## Requests -/

/-- A deed that makes the request is taken for a command that does. -/
theorem enactable_changing {change : Pool → Except Refusal Pool} (deed : Deed) {h : Handle}
    {note : Note} (hpoll : ∀ i, deed ≠ .poll i)
    (hdeed : ∀ (w : World) k th, w.perform k th deed =
      some (w.after k th.calls (request w.pool th.slot h note (change w.pool)),
        (request w.pool th.slot h note (change w.pool)).note)) :
    Enactable (Script.changing change : Exec ω (Answer ω)) := by
  intro f k calls m hf hexec hat
  have horderly : f.Orderly k (.perform deed) :=
    hexec.orderly hat.thread fun i hi => absurd hi (hpoll i)
  have hs := (hexec.step_perform hat deed).trans (hdeed f.world k _)
  rw [hat.pool] at hs
  rw [Script.outcome_changing]
  cases hchange : change m.pool with
  | ok p =>
    rw [hchange] at hs
    obtain ⟨g, hg, -⟩ :=
      exists_enacts (m := { m with pool := p }) horderly (.once hs) hat.lt rfl rfl
    exact ⟨g, hg⟩
  | error why =>
    rw [hchange] at hs
    obtain ⟨g, hg, -⟩ := exists_enacts (m := m) horderly (.once hs) hat.lt rfl rfl
    exact ⟨g, hg⟩

theorem enactable_create (c : Config) (registry : String) (meter : Meter) :
    Enactable (Script.create c registry meter : Exec ω Handle) := by
  intro f k calls m hf hexec hat
  have hs : f.world.step k (.perform (.create c meter)) = some
      (f.world.after k calls ⟨(f.world.pool.create c meter).1, m.worker.slot, none, none,
        .created (f.world.pool.create c meter).2⟩, .created (f.world.pool.create c meter).2) :=
    hexec.step_perform hat (.create c meter)
  rw [hat.pool] at hs
  have horderly : f.Orderly k (.perform (.create c meter)) := hexec.orderly hat.thread (by simp)
  obtain ⟨g, hg, -⟩ := exists_enacts (m := (outcome (Script.create c registry meter) m).2)
    horderly (.once hs) hat.lt rfl rfl
  exact ⟨g, hg⟩

theorem enactable_createNamed (name : String) (how : Script.Creation) :
    Enactable (Script.createNamed name how : Exec ω (Answer ω)) := by
  unfold Script.createNamed
  split
  · exact enactable_pure _
  · have hkeep (h : Handle) : Enactable (Script.keep name h : Exec ω Unit) :=
      enactable_of_still (fun _ => rfl) fun _ => rfl
    have hidentity (h : Handle) : Enactable (Script.identity h : Exec ω UInt64) :=
      enactable_of_still (fun _ => rfl) fun _ => rfl
    exact (enactable_create _ _ _).bind fun h => (hkeep h).bind fun _ =>
      (hidentity h).bind fun _ => enactable_pure _

/-! ## Containers and threads -/

theorem Enactable.within (hx : Enactable x) (h : Handle) : Enactable (Script.within h x) := by
  intro f k calls m hf hexec hat
  rw [Script.outcome_within]
  cases hinto : Passage.into m.pool m.worker.slot h with
  | error why => exact ⟨f, .refl hat⟩
  | ok entry =>
    obtain ⟨way, p, s⟩ := entry
    obtain ⟨u, hu, -, -⟩ :=
      exists_entered hat hexec.free (hexec.orderly hat.thread (by simp)) hinto
    obtain ⟨v, hv⟩ := hx.holding [h] u k (.run h (.inside way) :: calls)
      (({ m with pool := p } : Machine ω).withSlot s) (hf.trans hu.leads) ⟨rfl, nofun⟩ hu.arrives
    obtain ⟨g, hg, -⟩ := exists_left hv.arrives
    exact ⟨g, (hu.trans hv).trans hg⟩

theorem Enactable.withinAll (hx : Enactable x) (hs : List Handle) :
    Enactable (Script.withinAll hs x) := by
  induction hs with
  | nil => exact hx.bind fun _ => enactable_pure _
  | cons h hs ih =>
    refine (ih.within h).bind fun result => ?_
    cases result <;> exact enactable_pure _

theorem Enactable.onWorker (hx : Enactable x) {worker : Worker} (hworker : worker.slot = .fresh) :
    Enactable (Script.onWorker worker x) := by
  intro f k calls m h hexec hat
  obtain ⟨v, l, hleads, -, -, hthere, hexec', hwaits⟩ := exists_worker h hexec hat worker hworker
  obtain ⟨g, hg⟩ := hx v l [] _ (h.trans hleads) hexec' hthere
  rw [Script.outcome_onWorker]
  exact ⟨g, Enacts.of_worker hat hleads hwaits hg⟩

theorem Enactable.spawn {x : Exec ω Unit} (hx : Enactable x) (name : Option String) :
    Enactable (Script.spawn name x) := by
  intro f k calls m h hexec hat
  cases hname : Script.nameFault? name with
  | some message =>
    rw [Script.outcome_spawn_of_fault hname]
    exact ⟨f, .refl hat⟩
  | none =>
    obtain ⟨-, -, -, g, -, -, -, -, hg, -⟩ :=
      spawn_enacted h hexec hat hname rfl (hx.performs h _)
    exact ⟨g, hg⟩

theorem Enactable.spawnTask {run : Runner ω} {path : Path}
    {segments : List (List (Script.Command ω))}
    (hrun : ∀ place, ∀ segment ∈ segments, Enactable (run place segment)) :
    Enactable (Script.spawnTask run path .worker segments) := by
  intro f k calls m h hexec hat
  cases hexecutor : m.worker.inExecutor with
  | true =>
    rw [Script.outcome_spawnTask_insideExecutor hexecutor]
    exact ⟨f, .refl hat⟩
  | false =>
    have hflavor : Script.Flavor.worker = .calling → m.worker.slot.current = .root := nofun
    obtain ⟨-, g, hg, -⟩ := spawnTask_enacted h hexec hat hexecutor hflavor rfl
      fun place segment hsegment => (hrun place segment hsegment).performs h _
    exact ⟨g, hg⟩

/-! ## Scripts -/

/-- A command is taken the steps of if the bodies in it are. -/
theorem enactable_step {run : Runner ω}
    (hrun : ∀ path body, (∀ c ∈ body, c.InTree) → Enactable (run path body)) (path : Path)
    {c : Script.Command ω} (hc : c.InTree) : Enactable (Script.step run path c) := by
  cases hc with
  | create name how => exact enactable_createNamed name how
  | ask c question => exact .onHandle (fun _ => enactable_looking _) c
  | accepts c child => exact .onHandle (fun _ => enactable_looking _) c
  | inherited child => exact enactable_looking _
  | whereAmI => exact enactable_looking _
  | whoAmI => exact enactable_looking _
  | update c resource amount =>
    refine .onResource (fun r => .onHandle (fun h => ?_) c) resource
    exact enactable_changing (.update h ⟨r, amount⟩) (by simp) fun _ _ _ => rfl
  | destroy c =>
    refine .onHandle (fun h => ?_) c
    exact enactable_changing (.destroy h) (by simp) fun _ _ _ => rfl
  | setPolicy c rule =>
    refine .onHandle (fun h => ?_) c
    exact enactable_changing (.setPolicy h rule.accepts) (by simp) fun _ _ _ => rfl
  | panic message => exact enactable_panicking message
  | run hbody c result =>
    refine .onHandle (fun h => ?_) c
    refine (((hrun path _ hbody).within h).holding [h]).bind fun answer => ?_
    cases answer <;> exact enactable_pure _
  | nest hbody cs times =>
    refine enactable_get.bind fun m => ?_
    split
    · exact enactable_pure _
    · next levels _ =>
      refine (((hrun path _ hbody).withinAll levels).holding levels).bind fun answer => ?_
      cases answer <;> exact enactable_pure _
  | guarded hbody =>
    refine (hrun path _ hbody).attempt.bind fun answer => ?_
    cases answer <;> exact enactable_pure _
  | thread hbody => exact ((hrun path _ hbody).onWorker rfl).bind fun _ => enactable_pure _
  | spawn hbody name => exact (hrun path _ hbody).spawn name
  | spawnTask hsegments =>
    exact .spawnTask fun place segment hsegment => hrun place segment (hsegments segment hsegment)

theorem enactable_runFrom {run : Runner ω}
    (hrun : ∀ path body, (∀ c ∈ body, c.InTree) → Enactable (run path body)) (path : Path)
    {body : List (Script.Command ω)} (hbody : ∀ c ∈ body, c.InTree) (i : Nat) :
    Enactable (Script.runFrom run path i body) := by
  induction body generalizing i with
  | nil => exact enactable_pure _
  | cons c cs ih =>
    obtain ⟨hc, hcs⟩ := List.forall_mem_cons.mp hbody
    exact ((enactable_step hrun _ hc).noting _).bind fun _ => ih hcs (i + 1)

/-- **A script that starts children is enacted**, however deep they are nested. -/
theorem enactable_runBody (fuel : Nat) (path : Path) {body : List (Script.Command ω)}
    (hbody : ∀ c ∈ body, c.InTree) : Enactable (Script.runBody fuel path body) := by
  induction fuel generalizing path body with
  | zero => exact enactable_pure _
  | succ fuel ih => exact enactable_runFrom (fun path body h => ih path h) path hbody 0

end Interleaving.Family

end ResourceContainers
