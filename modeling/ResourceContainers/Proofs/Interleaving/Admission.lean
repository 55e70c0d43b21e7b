import ResourceContainers.Proofs.Interleaving.PollBinding

/-!
# Calls that are let in

A container is asked to run a command, to be destroyed, to be limited or to take another policy, or
a task is polled.  The answer may be a refusal.  Some refusals come at once.  Others come late: the
container ran when it was looked at, the way in was chosen, and only the attachment is refused,
because another thread has destroyed the container in the meantime.

* `Note.refusal?`, `Note.executes`, `World.receiver?`: what is seen of a deed, and who is asked.
* `Deed.Suits`: a refusal is of the right kind for the one who is asked.
* `Call.Entering`, `Call.isAdmitted`: a call before and after the step that lets it in.
* `Call.next_of_entering`, `Moves.of_admitted`: what one access does to a call of either sort.
* `World.Spares`: two worlds that differ at most in how far one thread has come with its calls.
* `World.step_perform_cases`: how a deed starts.

## Why a late refusal has nothing to undo

A call takes several steps, and each of them could leave something behind.  But the only step before
the code of the call that changes anything shared is the one that makes the attachment, and this is
the last one that can be refused.  So a call either is still on its way in, and then it has changed
nothing but its own progress, or it is let in, and then it is not refused any more.
-/

namespace ResourceContainers

/-- A container that runs is refused to a thread only because of where the thread is bound. -/
theorem Passage.eq_notInRoot_of_choose {current target : Handle} {why : Refusal}
    (h : choose .running current target = .error why) : why = .notInRoot := by
  cases target with
  | root => exact absurd h (by simp [choose])
  | managed n =>
    simp only [choose] at h
    split at h
    · exact absurd h (by simp)
    · split at h
      · exact absurd h (by simp)
      · exact (Except.error.inj h).symm

namespace Interleaving

/-! ## Refusals that are seen -/

/-- The refusal that a step ends with. -/
def Note.refusal? : Note → Option Refusal
  | .refused _ why | .failed _ why => some why
  | _ => none

/-- Whether code starts to be executed in a step: the command of a run or the future of a task. -/
def Note.executes : Note → Bool
  | .entered _ | .polled _ _ _ => true
  | _ => false

/-- The container that is asked for something by a deed. -/
def World.receiver? (w : World) : Deed → Option Handle
  | .destroy h | .update h _ | .setPolicy h _ | .run h => some h
  | .poll task => (takeJob task w.tasks).map fun r => r.1.scope.container
  | .spawn | .create _ _ | .scope _ | .drop _ => none

/-- Whether a deed is one of those that the root container does not support. -/
def Deed.isAdministrative : Deed → Bool
  | .destroy _ | .update _ _ | .setPolicy _ _ => true
  | _ => false

/-- The refusal of a deed is of the right kind for its receiver: unsupported if that is root, which
then was asked for an administrative deed, and an illegal state otherwise. -/
structure Deed.Suits (d : Deed) (receiver : Handle) (why : Refusal) : Prop where
  unsupported_iff : why.report.kind = .unsupported ↔ receiver = .root
  illegalState_iff : why.report.kind = .illegalState ↔ receiver ≠ .root
  administrative : receiver = .root → d.isAdministrative = true

theorem Deed.suits_of_illegalState {d : Deed} {receiver : Handle} {why : Refusal}
    (hwhy : why.report.kind = .illegalState) (hr : receiver ≠ .root) : d.Suits receiver why :=
  ⟨by simp [hwhy, hr], by simp [hwhy, hr], fun h => absurd h hr⟩

theorem Deed.suits_of_unsupported {d : Deed} {why : Refusal}
    (hwhy : why.report.kind = .unsupported) (hd : d.isAdministrative = true) :
    d.Suits .root why :=
  ⟨by simp [hwhy], by simp [hwhy], fun _ => hd⟩

/-! ## Calls on their way in -/

/-- A call of the container `h` that is not let in yet. -/
inductive Call.Entering (h : Handle) : Call → Prop
  | checked (hmanaged : h ≠ .root) : Entering h (.run h .checked)
  | going {way : Passage} (hway : ∀ n, way = .attach n → h ≠ .root) :
      Entering h (.run h (.going way))
  | polling {j : Job} {visit : Scope.Visit} (hj : j.scope.container = h) :
      Entering h (.poll j (.going visit))

theorem Call.Entering.isInside {h : Handle} {c : Call} (hc : c.Entering h) :
    c.isInside = false := by
  cases hc <;> rfl

/-- Whether a call is let in: it has made its attachment, or is past the place where it would. -/
def Call.isAdmitted : Call → Bool
  | .run _ .checked | .run _ (.going _) | .poll _ (.going _) => false
  | _ => true

/-- The tasks that a move leaves its thread with, or gives back, are those that it started with. -/
def Move.KeepsJobs (c : Option Call) (j : Option Job) (m : Move) : Prop :=
  m.tracked.map Tracked.job = (Interleaving.tracked c.toList j.toList).map Tracked.job

section Moves

variable {p : Pool} {s : Slot} {m : Move} {h : Handle}

/-- **A call on its way in** is let in, or it goes on or is refused and nothing has changed. -/
theorem Call.next_of_entering {c : Call} (hc : c.Entering h) (hm : c.next p s = some m) :
    (∃ c', m.call = some c' ∧ c'.isAdmitted = true) ∨
      ((m.pool = p ∧ m.slot = s ∧ m.KeepsJobs (some c) none ∧ m.note.executes = false) ∧
        ((∃ c', m.call = some c' ∧ c'.Entering h) ∨
          m.call = none ∧ h ≠ .root ∧
            ∃ why, m.note.refusal? = some why ∧ why.report.kind = .illegalState)) := by
  cases hc with
  | checked hmanaged =>
    have ha : RunStage.next h p s .checked = some m := hm
    cases RunStage.access_of_next ha with
    | refused e =>
      refine .inr ⟨⟨rfl, rfl, rfl, rfl⟩, .inr ⟨rfl, hmanaged, _, rfl, ?_⟩⟩
      obtain rfl := Passage.eq_notInRoot_of_choose e
      rfl
    | chosen e => exact .inr ⟨⟨rfl, rfl, rfl, rfl⟩, .inl ⟨_, rfl, .going fun n _ => hmanaged⟩⟩
  | @going way hway =>
    have ha : RunStage.next h p s (.going way) = some m := hm
    cases RunStage.access_of_next ha with
    | @unacquired n why e =>
      obtain ⟨-, rfl⟩ := Pool.acquire_eq_error_iff.mp e
      exact .inr ⟨⟨rfl, rfl, rfl, rfl⟩, .inr ⟨rfl, hway n rfl, _, rfl, rfl⟩⟩
    | acquired e => exact .inl ⟨_, rfl, rfl⟩
    | entered hnot => exact .inl ⟨_, rfl, rfl⟩
  | @polling j visit hj =>
    have ha : PollStage.next j p s (.going visit) = some m := hm
    cases PollStage.access_of_next ha with
    | failed e =>
      obtain ⟨n, hn, -, hacquire⟩ := Scope.acquire_of_attach_eq_error e
      obtain ⟨-, rfl⟩ := Pool.acquire_eq_error_iff.mp hacquire
      refine .inr ⟨⟨rfl, rfl, rfl, rfl⟩, .inr ⟨rfl, ?_, _, rfl, rfl⟩⟩
      rw [← hj, hn]
      simp
    | acquired e => exact .inl ⟨_, rfl, rfl⟩
    | polled hvisit => exact .inl ⟨_, rfl, rfl⟩

/-- **A call that is let in is not refused any more.** -/
theorem Moves.of_admitted {number number' : Nat} {c : Call} {j : Option Job}
    (hc : c.isAdmitted = true) (hm : Moves p s number (some c) j m number') :
    (∃ c', m.call = some c' ∧ c'.isAdmitted = true) ∨
      (m.call = none ∧ m.note.refusal? = none) := by
  cases hm with
  | run ha =>
    cases ha with
    | bound n => exact .inl ⟨_, rfl, rfl⟩
    | unbound n => exact .inl ⟨_, rfl, rfl⟩
    | left hway => exact .inr ⟨rfl, rfl⟩
    | released n => exact .inr ⟨rfl, rfl⟩
    | _ => exact absurd hc (by simp [Call.isAdmitted])
  | poll ha =>
    cases ha with
    | bound => exact .inl ⟨_, rfl, rfl⟩
    | unbound => exact .inl ⟨_, rfl, rfl⟩
    | left hleft => exact .inr ⟨rfl, rfl⟩
    | released => exact .inr ⟨rfl, rfl⟩
    | _ => exact absurd hc (by simp [Call.isAdmitted])
  | finish hf => cases hf <;> exact .inl ⟨_, rfl, rfl⟩

end Moves

/-! ## Worlds that a step spares -/

/-- Two worlds that differ at most in how far the thread `k` has come with its calls: the containers
are the same, with their phases, counters, limits and policies, every thread is bound where it was,
and every task has the attachment that it had, whether somebody polls it or not. -/
structure World.Spares (k : Nat) (w w' : World) : Prop where
  pool : w'.pool = w.pool
  slots : w'.threads.map Thread.slot = w.threads.map Thread.slot
  others : ∀ l, l ≠ k → w'.threads[l]? = w.threads[l]?
  jobs : w'.jobs.Perm w.jobs
  nextTask : w'.nextTask = w.nextTask

namespace World

variable {k l : Nat} {u v w : World}

theorem Spares.refl (k : Nat) (w : World) : w.Spares k w :=
  ⟨rfl, rfl, fun _ _ => rfl, .refl _, rfl⟩

theorem Spares.trans (h : u.Spares k v) (h' : v.Spares k w) : u.Spares k w where
  pool := h'.pool.trans h.pool
  slots := h'.slots.trans h.slots
  others l hl := (h'.others l hl).trans (h.others l hl)
  jobs := h'.jobs.trans h.jobs
  nextTask := h'.nextTask.trans h.nextTask

/-- A world that is spared by a thread which is where it was is the same world. -/
theorem Spares.eq (h : w.Spares k v) (hk : v.threads[k]? = w.threads[k]?) :
    v.pool = w.pool ∧ v.threads = w.threads ∧ v.tasks.Perm w.tasks ∧ v.nextTask = w.nextTask := by
  have hthreads : v.threads = w.threads := by
    refine List.ext_getElem? fun l => ?_
    by_cases hl : l = k
    · exact hl ▸ hk
    · exact h.others l hl
  have hjobs := h.jobs
  rw [World.jobs, World.jobs, calls, calls, hthreads] at hjobs
  exact ⟨h.pool, hthreads, (List.perm_append_right_iff _).mp hjobs, h.nextTask⟩

/-- A move that changes no container and no binding, and keeps its tasks, spares the world. -/
theorem spares_after {th : Thread} (hth : w.threads[k]? = some th) {c : Option Call}
    {calls : List Call} (hc : th.calls = c.toList ++ calls) {j : Option Job} {tasks : List Job}
    (ht : w.tasks.Perm (j.toList ++ tasks)) {m : Move} (hpool : m.pool = w.pool)
    (hslot : m.slot = th.slot) (hjobs : m.KeepsJobs c j) :
    w.Spares k ({ w with tasks := tasks }.after k calls m) := by
  obtain ⟨Γ, hk, hthreads, htasks, hafter⟩ := exists_surroundings hth hc ht
  have hworld : ({ w with tasks := tasks } : World).after k calls m =
      Γ.world m.pool w.nextTask m.slot m.call m.job := hafter m w.nextTask
  rw [hworld]
  refine ⟨hpool, ?_, fun l hl => ?_, ?_, rfl⟩
  · rw [hthreads, hslot]
    simp [Surroundings.world]
  · have hne : l ≠ Γ.before.length := hk ▸ hl
    rw [hthreads, Γ.getElem?_world_of_ne hne, Γ.getElem?_world_of_ne hne]
  · have hbefore := (Γ.tracked_perm hthreads htasks).map Tracked.job
    have hmoved := (Γ.tracked_world m.pool w.nextTask m.slot m.call m.job).map Tracked.job
    rw [List.map_append] at hbefore hmoved
    rw [World.jobs, World.jobs, ← tracked_job, ← tracked_job]
    rw [Move.KeepsJobs, Move.tracked] at hjobs
    rw [hjobs] at hmoved
    exact hmoved.trans hbefore.symm

end World

/-! ## Deeds that start -/

/-- The refusals of an administrative deed are of the right kind. -/
theorem suits_of_destroy {p : Pool} {h : Handle} {why : Refusal} (e : p.destroy h = .error why) :
    (Deed.destroy h).Suits h why := by
  cases h with
  | root =>
    obtain rfl := Except.error.inj e
    exact Deed.suits_of_unsupported rfl rfl
  | managed n =>
    refine Deed.suits_of_illegalState ?_ (by simp)
    simp only [Pool.destroy] at e
    split at e
    · obtain rfl := Except.error.inj e
      rfl
    · split at e
      · exact absurd e (by simp)
      · obtain rfl := Except.error.inj e
        rfl

theorem suits_of_update {p : Pool} {h : Handle} {k : Constraint} {why : Refusal}
    (e : p.update h k = .error why) : (Deed.update h k).Suits h why := by
  cases h with
  | root =>
    obtain rfl := Except.error.inj e
    exact Deed.suits_of_unsupported rfl rfl
  | managed n =>
    refine Deed.suits_of_illegalState ?_ (by simp)
    simp only [Pool.update] at e
    split at e
    · obtain rfl := Except.error.inj e
      rfl
    · exact absurd e (by simp)

theorem suits_of_setPolicy {p : Pool} {h : Handle} {policy : Policy} {why : Refusal}
    (e : p.setPolicy h policy = .error why) : (Deed.setPolicy h policy).Suits h why := by
  cases h with
  | root =>
    obtain rfl := Except.error.inj e
    exact Deed.suits_of_unsupported rfl rfl
  | managed n => exact absurd e (by simp [Pool.setPolicy])

namespace World

variable {k : Nat} {w v : World} {th : Thread} {note : Note}

theorem getElem?_spawned (hth : w.threads[k]? = some th) :
    (w.threads ++ [.fresh])[k]? = some th := by
  rw [List.getElem?_append_left (List.getElem?_eq_some_iff.mp hth).1, hth]

/-- How a deed starts that is asked of the container `r`: on its way in, or refused at once. -/
def Starts (w : World) (k : Nat) (th : Thread) (d : Deed) (r : Handle) (v : World) (note : Note) :
    Prop :=
  w.Spares k v ∧ note.executes = false ∧
    ((∃ c, c.Entering r ∧ v.threads[k]? = some ⟨th.slot, c :: th.calls⟩) ∨
      (v.threads[k]? = some th ∧ ∃ why, note.refusal? = some why ∧ d.Suits r why))

/-- A move that a deed starts with and that changes nothing but the calls of its thread. -/
theorem starts_after (hth : w.threads[k]? = some th) {d : Deed} {r : Handle} {j : Option Job}
    {tasks : List Job} (ht : w.tasks.Perm (j.toList ++ tasks)) {m : Move} (hpool : m.pool = w.pool)
    (hslot : m.slot = th.slot) (hjobs : m.KeepsJobs none j) (hnote : m.note.executes = false)
    (hm : (∃ c, m.call = some c ∧ c.Entering r) ∨
      (m.call = none ∧ ∃ why, m.note.refusal? = some why ∧ d.Suits r why)) :
    w.Starts k th d r ({ w with tasks := tasks }.after k th.calls m) m.note := by
  have hk : k < w.threads.length := (List.getElem?_eq_some_iff.mp hth).1
  have hthread : ({ w with tasks := tasks }.after k th.calls m).threads[k]? =
      some ⟨m.slot, m.call.toList ++ th.calls⟩ := getElem?_after hk
  refine ⟨spares_after hth rfl ht hpool hslot hjobs, hnote, ?_⟩
  rcases hm with ⟨c, hcall, hc⟩ | ⟨hcall, hwhy⟩
  · exact .inl ⟨c, hc, by rw [hthread, hcall, hslot]; rfl⟩
  · exact .inr ⟨by rw [hthread, hcall, hslot]; rfl, hwhy⟩

theorem request_starts (hth : w.threads[k]? = some th) {d : Deed} {h : Handle}
    {result : Except Refusal Pool} (hnote : note.refusal? = none)
    (hsuits : ∀ why, result = .error why → d.Suits h why) :
    let m := request w.pool th.slot h note result
    w.Starts k th d h (w.after k th.calls m) m.note ∨
      (m.note.refusal? = none ∧ ∃ s, (w.after k th.calls m).threads[k]? = some ⟨s, th.calls⟩) := by
  cases result with
  | ok p => exact .inr ⟨hnote, _, getElem?_after (List.getElem?_eq_some_iff.mp hth).1⟩
  | error why =>
    exact .inl (starts_after hth (j := none) (.refl _) rfl rfl rfl rfl
      (.inr ⟨rfl, why, rfl, hsuits why rfl⟩))

/-- **How a deed starts.**  Whatever is not refused at once and not on its way in is over. -/
theorem step_perform_cases (hth : w.threads[k]? = some th) {d : Deed}
    (hs : w.step k (.perform d) = some (v, note)) :
    (∃ r, w.receiver? d = some r ∧ w.Starts k th d r v note) ∨
      (note.refusal? = none ∧ ∃ s, v.threads[k]? = some ⟨s, th.calls⟩) := by
  have hk : k < w.threads.length := (List.getElem?_eq_some_iff.mp hth).1
  have hperform : w.perform k th d = some (v, note) := by
    simp only [step, hth] at hs
    split at hs
    · exact hs
    · exact absurd hs (by simp)
  cases d with
  | spawn =>
    obtain ⟨rfl, rfl⟩ := Prod.mk.inj (Option.some.inj hperform)
    exact .inr ⟨rfl, th.slot, getElem?_spawned hth⟩
  | create c m =>
    obtain ⟨rfl, rfl⟩ := Prod.mk.inj (Option.some.inj hperform)
    exact .inr ⟨rfl, _, getElem?_after hk⟩
  | scope h =>
    obtain ⟨rfl, rfl⟩ := Prod.mk.inj (Option.some.inj hperform)
    exact .inr ⟨rfl, _, getElem?_after hk⟩
  | drop task =>
    obtain ⟨⟨j, tasks⟩, -, he⟩ := Option.map_eq_some_iff.mp hperform
    obtain ⟨rfl, rfl⟩ := Prod.mk.inj he
    exact .inr ⟨rfl, _, getElem?_after hk⟩
  | destroy h =>
    obtain ⟨rfl, rfl⟩ := Prod.mk.inj (Option.some.inj hperform)
    exact (request_starts hth rfl fun _ => suits_of_destroy).imp_left fun hst => ⟨h, rfl, hst⟩
  | update h c =>
    obtain ⟨rfl, rfl⟩ := Prod.mk.inj (Option.some.inj hperform)
    exact (request_starts hth rfl fun _ => suits_of_update).imp_left fun hst => ⟨h, rfl, hst⟩
  | setPolicy h policy =>
    obtain ⟨rfl, rfl⟩ := Prod.mk.inj (Option.some.inj hperform)
    exact (request_starts hth rfl fun _ => suits_of_setPolicy).imp_left fun hst => ⟨h, rfl, hst⟩
  | run h =>
    obtain ⟨rfl, rfl⟩ := Prod.mk.inj (Option.some.inj hperform)
    refine .inl ⟨h, rfl, ?_⟩
    cases h with
    | root =>
      exact starts_after hth (j := none) (.refl _) rfl rfl rfl rfl
        (.inl ⟨_, rfl, .going fun n hn => by split at hn <;> exact absurd hn (by simp)⟩)
    | managed n =>
      cases hphase : (w.pool.container n).phase with
      | destroyed =>
        simp only [startRun, hphase]
        exact starts_after hth (j := none) (.refl _) rfl rfl rfl rfl
          (.inr ⟨rfl, _, rfl, Deed.suits_of_illegalState rfl (by simp)⟩)
      | running =>
        simp only [startRun, hphase]
        exact starts_after hth (j := none) (.refl _) rfl rfl rfl rfl
          (.inl ⟨_, rfl, .checked (by simp)⟩)
  | poll task =>
    obtain ⟨⟨j, tasks⟩, ht, he⟩ := Option.map_eq_some_iff.mp hperform
    obtain ⟨rfl, rfl⟩ := Prod.mk.inj he
    have hreceiver : w.receiver? (.poll task) = some j.scope.container := by
      simp [receiver?, ht]
    refine .inl ⟨_, hreceiver, ?_⟩
    cases hchoose : j.scope.choose th.slot.current with
    | ok visit =>
      simp only [startPoll, hchoose]
      exact starts_after hth (j := some j) (takeJob_perm ht) rfl rfl rfl rfl
        (.inl ⟨_, rfl, .polling rfl⟩)
    | error why =>
      have hmanaged : j.scope.container ≠ .root := fun hroot => by
        simp [Scope.choose, hroot] at hchoose
      obtain rfl := Scope.choose_eq_error hchoose
      simp only [startPoll, hchoose]
      exact starts_after hth (j := some j) (takeJob_perm ht) rfl rfl rfl rfl
        (.inr ⟨rfl, _, rfl, Deed.suits_of_illegalState rfl hmanaged⟩)

end World

end Interleaving

end ResourceContainers
