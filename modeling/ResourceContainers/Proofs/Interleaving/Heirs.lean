import ResourceContainers.Proofs.Interleaving.Family

/-!
# Threads that start inside a container

A started thread runs its body in the container that was chosen for it.  It begins in root, like
every thread, and comes to its body by a run like any other.  But that run starts at a time of its
own choosing, and each of its accesses may come late.

* `Idle`, `lastOf`: what the steps say about a thread.
* `World.Yields`: a thread comes to an answer in a few steps, whatever other threads do.
* `World.Open`: a container is not destroyed.
* `Outside`, `Inside`: a started thread before and after it made its attachment.
* `Outside.step_own`, `Inside.step_own`: one step of that thread.  `Family.heir`: all steps.
* `Outside.yields`: a thread that is outside comes to its body, or is refused.
* `Family.outside`: if the container is destroyed while the thread is outside, the thread stays
  outside.

## Why it cannot lose its container halfway

Of the two looks at the phase that a run takes, the second one makes the attachment.  A container is
not destroyed as long as there is an attachment to it.  So destroying the container comes before
that second look, and the body is not executed, or it comes after the attachment is released, and
the body is over.
-/

namespace ResourceContainers.Interleaving

/-! ## What steps say about a thread -/

/-- The thread `k` has executed no command and no future. -/
def Idle (k : Nat) (es : List Event) : Prop :=
  ∀ e ∈ es, e.thread = k → e.note.executes = false

/-- The last that was seen of the thread `k`. -/
def lastOf (k : Nat) (es : List Event) : Option Note :=
  (es.find? (·.thread == k)).map Event.note

section Cons

variable {k : Nat} {e : Event} {es : List Event}

theorem idle_cons : Idle k (e :: es) ↔ (e.thread = k → e.note.executes = false) ∧ Idle k es := by
  simp [Idle]

theorem idle_of_forall_ne (h : ∀ e ∈ es, e.thread ≠ k) : Idle k es :=
  fun e he hk => absurd hk (h e he)

theorem lastOf_cons_self (h : e.thread = k) : lastOf k (e :: es) = some e.note := by
  simp [lastOf, h]

theorem lastOf_cons_other (h : e.thread ≠ k) : lastOf k (e :: es) = lastOf k es := by
  simp [lastOf, h]

theorem exists_of_lastOf {note : Note} (h : lastOf k es = some note) : ∃ e ∈ es, e.thread = k := by
  obtain ⟨e, he, -⟩ := Option.map_eq_some_iff.mp h
  exact ⟨e, List.mem_of_find?_eq_some he, by simpa using List.find?_some he⟩

end Cons

/-- The thread `k` comes to an answer of a certain sort after at most so many steps of its own,
whatever other threads do in between. -/
def World.Yields (k : Nat) (P : Note → Prop) : Nat → World → Prop
  | 0, _ => False
  | n + 1, w => ∃ a u note, w.step k a = some (u, note) ∧
      (P note ∨ ∀ es v, Run u es v → (∀ e ∈ es, e.thread ≠ k) → Yields k P n v)

/-! ## Containers that are open -/

namespace World

variable {w v : World} {home : Handle}

/-- A container that is not destroyed. -/
def Open (w : World) (home : Handle) : Prop := ∀ n, home = .managed n → ¬ w.Destroyed n

theorem open_root (w : World) : w.Open .root := fun n hn => absurd hn (by simp)

theorem open_of_running {n : Nat} (h : w.pool.phase (.managed n) = .running) :
    w.Open (.managed n) := by
  intro m hm hd
  obtain rfl := Handle.managed.inj hm
  rw [hd.2] at h
  exact absurd h (by decide)

theorem Open.of_run {es : List Event} (h : v.Open home) (hrun : Run w es v) (hw : w.Sound) :
    w.Open home :=
  fun n hn hd => h n hn (hrun.destroyed hw hd).1

end World

/-! ## Before and after the attachment -/

/-- The first steps of a run from root into a container, up to the one that makes the attachment or
finds that there is none to make. -/
inductive Call.Homeward : Handle → Call → Prop
  | checked (n : Nat) : Homeward (.managed n) (.run (.managed n) .checked)
  | attaching (n : Nat) : Homeward (.managed n) (.run (.managed n) (.going (.attach n)))
  | staying : Homeward .root (.run .root (.going .direct))

theorem Call.Homeward.isInside {home : Handle} {c : Call} (h : c.Homeward home) :
    c.isInside = false := by
  cases h <;> rfl

/-- A thread that is to run its body in `home` has not come there, or never will. -/
inductive Outside (es : List Event) (w : World) (k : Nat) (home : Handle) : Prop
  | waiting (hth : w.threads[k]? = some .fresh) (hes : ∀ e ∈ es, e.thread ≠ k)
  | entering {c : Call} (hth : w.threads[k]? = some ⟨.fresh, [c]⟩) (hc : c.Homeward home)
      (hidle : Idle k es)
  | refused {n : Nat} (hth : w.threads[k]? = some .fresh) (hidle : Idle k es)
      (hlast : lastOf k es = some (.refused home .notRunning)) (hhome : home = .managed n)
      (hd : w.Destroyed n)

/-- A run into `home` that is let in. -/
def Call.RunsIn (home : Handle) (c : Call) : Prop :=
  ∃ stage, c = .run home stage ∧ c.isAdmitted = true

/-- A thread has come to `home`, where it runs its body. -/
inductive Inside (es : List Event) (w : World) (k : Nat) (home : Handle) : Prop
  | acquired {n : Nat} (hth : w.threads[k]? = some ⟨.fresh, [.run home (.acquired n)]⟩)
      (hhome : home = .managed n)
  | running {s : Slot} {inner : List Call} {c : Call}
      (hth : w.threads[k]? = some ⟨s, inner ++ [c]⟩) (hc : c.RunsIn home) (hran : ¬ Idle k es)
  | ended (hth : w.threads[k]? = some .fresh) (hlast : lastOf k es = some (.returned home))
      (hran : ¬ Idle k es)

section Steps

variable {es : List Event} {w v : World} {k l : Nat} {home : Handle} {a : Act} {note : Note}

theorem Outside.idle (h : Outside es w k home) : Idle k es := by
  cases h with
  | waiting hth hes => exact idle_of_forall_ne hes
  | entering hth hc hidle => exact hidle
  | refused hth hidle hlast hhome hd => exact hidle

theorem Outside.step_other (h : Outside es w k home) (hw : w.Sound) (hl : l ≠ k)
    (hs : w.step l a = some (v, note)) : Outside (⟨l, a, note⟩ :: es) v k home := by
  have hidle : Idle k (⟨l, a, note⟩ :: es) := idle_cons.mpr ⟨fun hk => absurd hk hl, h.idle⟩
  cases h with
  | waiting hth hes =>
    refine .waiting (World.getElem?_step_of_ne hs hl hth) fun e he => ?_
    rcases List.mem_cons.mp he with rfl | he
    · exact hl
    · exact hes e he
  | entering hth hc _ => exact .entering (World.getElem?_step_of_ne hs hl hth) hc hidle
  | refused hth _ hlast hhome hd =>
    have hlast' : lastOf k (⟨l, a, note⟩ :: es) = lastOf k es := lastOf_cons_other hl
    exact .refused (World.getElem?_step_of_ne hs hl hth) hidle (hlast'.trans hlast) hhome
      (hd.step hw hs).1

theorem Inside.step_other (h : Inside es w k home) (hl : l ≠ k)
    (hs : w.step l a = some (v, note)) : Inside (⟨l, a, note⟩ :: es) v k home := by
  cases h with
  | acquired hth hhome => exact .acquired (World.getElem?_step_of_ne hs hl hth) hhome
  | running hth hc hran =>
    exact .running (World.getElem?_step_of_ne hs hl hth) hc fun hidle =>
      hran (idle_cons.mp hidle).2
  | ended hth hlast hran =>
    have hlast' : lastOf k (⟨l, a, note⟩ :: es) = lastOf k es := lastOf_cons_other hl
    exact .ended (World.getElem?_step_of_ne hs hl hth) (hlast'.trans hlast) fun hidle =>
      hran (idle_cons.mp hidle).2

theorem World.step_run {th : Thread} (hth : w.threads[k]? = some th) (hfree : th.isFree = true)
    (target : Handle) :
    w.step k (.perform (.run target)) = some (w.after k th.calls (startRun w.pool th.slot target),
      (startRun w.pool th.slot target).note) := by
  simp [step, hth, hfree, perform]

/-- What an access of a thread that is outside can come to. -/
inductive Approach (p : Pool) (home : Handle) : Move → Prop
  | nearer {c : Call} (hc : c.Homeward home) : Approach p home ⟨p, .fresh, some c, none, .quiet⟩
  | refused {n : Nat} (hhome : home = .managed n) (hd : (p.container n).phase = .destroyed) :
      Approach p home ⟨p, .fresh, none, none, .refused home .notRunning⟩
  | acquired {n : Nat} {q : Pool} (hhome : home = .managed n) (e : p.acquire n = .ok q) :
      Approach p home ⟨q, .fresh, some (.run home (.acquired n)), none, .quiet⟩
  | stayed (hhome : home = .root) :
      Approach p home ⟨p, .fresh, some (.run home (.inside .direct)), none, .entered home⟩

theorem startRun_approach (p : Pool) (home : Handle) :
    Approach p home (startRun p .fresh home) := by
  cases home with
  | root => exact .nearer .staying
  | managed n =>
    cases hphase : (p.container n).phase with
    | running =>
      simp only [startRun, hphase]
      exact .nearer (.checked n)
    | destroyed =>
      simp only [startRun, hphase]
      exact .refused rfl hphase

theorem Call.Homeward.approach {c : Call} (h : c.Homeward home) {p : Pool} {m : Move}
    (hm : c.next p .fresh = some m) : Approach p home m := by
  cases h with
  | checked n =>
    obtain rfl := Option.some.inj hm
    exact .nearer (.attaching n)
  | attaching n =>
    have ha : RunStage.next (.managed n) p .fresh (.going (.attach n)) = some m := hm
    cases RunStage.access_of_next ha with
    | unacquired e =>
      obtain ⟨hd, rfl⟩ := Pool.acquire_eq_error_iff.mp e
      exact .refused rfl hd
    | acquired e => exact .acquired rfl e
    | entered hway => exact absurd rfl (hway n)
  | staying =>
    obtain rfl := Option.some.inj hm
    exact .stayed rfl

/-- Where a thread is after an access from outside.  It is inside only if the container is not
destroyed. -/
theorem Approach.after {m : Move} (h : Approach w.pool home m) (hk : k < w.threads.length)
    (hidle : Idle k es) (hsize : ∀ n, home = .managed n → n < w.pool.containers.size) :
    Outside (⟨k, a, m.note⟩ :: es) (w.after k [] m) k home ∨
      (Inside (⟨k, a, m.note⟩ :: es) (w.after k [] m) k home ∧ w.Open home) := by
  have hthread : (w.after k [] m).threads[k]? = some ⟨m.slot, m.call.toList ++ []⟩ :=
    World.getElem?_after hk
  have hidle' (hnote : m.note.executes = false) : Idle k (⟨k, a, m.note⟩ :: es) :=
    idle_cons.mpr ⟨fun _ => hnote, hidle⟩
  cases h with
  | nearer hc => exact .inl (.entering hthread hc (hidle' rfl))
  | refused hhome hd =>
    exact .inl (.refused hthread (hidle' rfl) (lastOf_cons_self rfl) hhome ⟨hsize _ hhome, hd⟩)
  | acquired hhome e =>
    have hopen : w.Open home := hhome ▸ World.open_of_running (Pool.acquire_eq_ok_iff.mp e).1
    exact .inr ⟨.acquired hthread hhome, hopen⟩
  | stayed hhome =>
    have hinside : (w.after k [] _).threads[k]? =
        some ⟨_, [] ++ [.run home (.inside .direct)]⟩ := hthread
    refine .inr ⟨.running hinside ⟨_, rfl, rfl⟩ fun hidle => ?_, hhome ▸ w.open_root⟩
    exact absurd ((idle_cons.mp hidle).1 rfl) (by simp [Note.executes])

/-- **One step of a thread that is outside.** -/
theorem Outside.step_own (h : Outside es w k home)
    (hbody : ∀ s, w.threads[k]? = some ⟨s, []⟩ →
      a = .perform (.run home) ∧ ∀ e ∈ es, e.thread ≠ k)
    (hsize : ∀ n, home = .managed n → n < w.pool.containers.size)
    (hs : w.step k a = some (v, note)) :
    Outside (⟨k, a, note⟩ :: es) v k home ∨
      (Inside (⟨k, a, note⟩ :: es) v k home ∧ w.Open home) := by
  have hidle := h.idle
  cases h with
  | waiting hth hes =>
    obtain ⟨rfl, -⟩ := hbody .fresh hth
    obtain ⟨rfl, rfl⟩ := Prod.mk.inj (Option.some.inj
      ((World.step_run hth rfl home).symm.trans hs))
    exact (startRun_approach w.pool home).after (List.getElem?_eq_some_iff.mp hth).1 hidle hsize
  | entering hth hc _ =>
    obtain ⟨-, m, hm, rfl, rfl⟩ := World.step_of_not_inside hth hc.isInside hs
    exact (hc.approach hm).after (List.getElem?_eq_some_iff.mp hth).1 hidle hsize
  | refused hth _ hlast hhome hd =>
    obtain ⟨e, he, hk⟩ := exists_of_lastOf hlast
    exact absurd hk ((hbody .fresh hth).2 e he)

/-- A run that is let in stays so until it returns. -/
theorem Moves.of_runsIn {p : Pool} {s : Slot} {number number' : Nat} {c : Call}
    {j : Option Job} {m : Move} (hc : c.RunsIn home) (hm : Moves p s number (some c) j m number') :
    (∃ c', m.call = some c' ∧ c'.RunsIn home) ∨ (m.call = none ∧ m.note = .returned home) := by
  obtain ⟨stage, rfl, hstage⟩ := hc
  cases hm with
  | run ha =>
    cases ha with
    | bound n => exact .inl ⟨_, rfl, _, rfl, rfl⟩
    | unbound n => exact .inl ⟨_, rfl, _, rfl, rfl⟩
    | left hway => exact .inr ⟨rfl, rfl⟩
    | released n => exact .inr ⟨rfl, rfl⟩
    | _ => exact absurd hstage (by simp [Call.isAdmitted])
  | finish hf =>
    cases hf with
    | run hending => exact .inl ⟨_, rfl, _, rfl, rfl⟩

/-- **One step of a thread that is inside.** -/
theorem Inside.step_own (h : Inside es w k home) (hw : w.Sound)
    (hbody : ∀ s, w.threads[k]? = some ⟨s, []⟩ → ∀ e ∈ es, e.thread ≠ k)
    (hs : w.step k a = some (v, note)) : Inside (⟨k, a, note⟩ :: es) v k home := by
  cases h with
  | @acquired n hth hhome =>
    obtain ⟨-, m, hm, rfl, rfl⟩ := World.step_of_not_inside hth rfl hs
    have hthread : (w.after k [] m).threads[k]? = some ⟨m.slot, m.call.toList ++ []⟩ :=
      World.getElem?_after (List.getElem?_eq_some_iff.mp hth).1
    obtain rfl := Option.some.inj hm
    have hinside : (w.after k [] _).threads[k]? =
        some ⟨_, [] ++ [.run home (.inside (.attach n))]⟩ := hthread
    refine .running hinside ⟨_, rfl, rfl⟩ fun hidle => ?_
    exact absurd ((idle_cons.mp hidle).1 rfl) (by simp [Note.executes])
  | running hth hc hran =>
    have hran' : ¬ Idle k (⟨k, a, note⟩ :: es) := fun hidle => hran (idle_cons.mp hidle).2
    rcases World.step_of_call (·.RunsIn home) (· = .returned home) Moves.of_runsIn hth hc hs with
      ⟨s', inner', c', hth', hc'⟩ | ⟨⟨s', hth'⟩, rfl⟩
    · exact .running hth' hc' hran'
    · -- without calls the thread is bound to root again
      obtain rfl : s' = .fresh := ((hw.step hs).threads _ (List.mem_of_getElem? hth')).slot_eq
      exact .ended hth' (lastOf_cons_self rfl) hran'
  | ended hth hlast hran =>
    obtain ⟨e, he, hk⟩ := exists_of_lastOf hlast
    exact absurd hk (hbody .fresh hth e he)

/-! ## Threads that come to an answer -/

section Answers

variable {P : Note → Prop} {s : Slot} {c : Call} {calls : List Call} {m : Move} {bound : Nat}

theorem World.Yields.succ (h : w.Yields k P bound) : w.Yields k P (bound + 1) := by
  induction bound generalizing w with
  | zero => exact h.elim
  | succ bound ih =>
    obtain ⟨a, u, note, hs, hnote | hlater⟩ := h
    · exact ⟨a, u, note, hs, .inl hnote⟩
    · exact ⟨a, u, note, hs, .inr fun es v hrun hothers => ih (hlater es v hrun hothers)⟩

theorem World.yields_of_note (hth : w.threads[k]? = some ⟨s, c :: calls⟩)
    (hm : c.next w.pool s = some m) (hnote : P m.note) : w.Yields k P (bound + 1) :=
  ⟨.next, _, _, step_next_of_run .nil hth (by simp) hm, .inl hnote⟩

theorem World.yields_of_next (hth : w.threads[k]? = some ⟨s, c :: calls⟩)
    (hm : c.next w.pool s = some m)
    (hlater : ∀ es v, Run w es v → v.threads[k]? = some ⟨m.slot, m.call.toList ++ calls⟩ →
      v.Yields k P bound) : w.Yields k P (bound + 1) := by
  have hstep := step_next_of_run .nil hth (by simp) hm
  refine ⟨.next, _, _, hstep, .inr fun es v hrun hothers => ?_⟩
  exact hlater _ v ((Run.nil.cons hstep).trans hrun)
    (getElem?_run_of_ne hrun (getElem?_after (List.getElem?_eq_some_iff.mp hth).1) hothers)

/-- The step that makes the attachment, and the one after it. -/
theorem World.yields_of_attaching {n : Nat}
    (hth : w.threads[k]? = some ⟨.fresh, [.run (.managed n) (.going (.attach n))]⟩)
    (hrefused : P (.refused (.managed n) .notRunning))
    (hentered : w.Open (.managed n) → P (.entered (.managed n))) : w.Yields k P 2 := by
  cases hacquire : w.pool.acquire n with
  | error why =>
    obtain ⟨-, rfl⟩ := Pool.acquire_eq_error_iff.mp hacquire
    have hnext : Call.next w.pool .fresh (.run (.managed n) (.going (.attach n))) =
        some ⟨w.pool, .fresh, none, none, .refused (.managed n) .notRunning⟩ := by
      simp [Call.next, RunStage.next, hacquire]
    exact yields_of_note hth hnext hrefused
  | ok q =>
    have hopen : w.Open (.managed n) := open_of_running (Pool.acquire_eq_ok_iff.mp hacquire).1
    have hnext : Call.next w.pool .fresh (.run (.managed n) (.going (.attach n))) =
        some ⟨q, .fresh, some (.run (.managed n) (.acquired n)), none, .quiet⟩ := by
      simp [Call.next, RunStage.next, hacquire]
    exact yields_of_next hth hnext fun es v _ hth' => yields_of_note hth' rfl (hentered hopen)

/-- A run on its way into a container comes there or is refused. -/
theorem Call.Homeward.yields (hc : c.Homeward home) (hw : w.Sound)
    (hth : w.threads[k]? = some ⟨.fresh, [c]⟩) (hrefused : P (.refused home .notRunning))
    (hentered : w.Open home → P (.entered home)) : w.Yields k P 3 := by
  cases hc with
  | staying => exact World.yields_of_note hth rfl (hentered w.open_root)
  | attaching n => exact (World.yields_of_attaching hth hrefused hentered).succ
  | checked n =>
    exact World.yields_of_next hth rfl fun es v hrun hth' =>
      World.yields_of_attaching hth' hrefused fun hopen => hentered (hopen.of_run hrun hw)

theorem Approach.yields (h : Approach w.pool home m) (hw : w.Sound)
    (hs : w.step k a = some (w.after k [] m, m.note)) (hrefused : P (.refused home .notRunning))
    (hentered : w.Open home → P (.entered home)) :
    P m.note ∨ ∀ es v, Run (w.after k [] m) es v → (∀ e ∈ es, e.thread ≠ k) → v.Yields k P 3 := by
  obtain ⟨th, hth⟩ := World.exists_thread hs
  have hthread : (w.after k [] m).threads[k]? = some ⟨m.slot, m.call.toList ++ []⟩ :=
    World.getElem?_after (List.getElem?_eq_some_iff.mp hth).1
  cases h with
  | nearer hc =>
    right
    intro es v hrun hothers
    have hlater := (Run.nil.cons hs).trans hrun
    exact hc.yields (hlater.sound hw) (World.getElem?_run_of_ne hrun hthread hothers) hrefused
      fun hopen => hentered (hopen.of_run hlater hw)
  | refused hhome hd => exact .inl hrefused
  | acquired hhome e =>
    right
    intro es v hrun hothers
    have hopen : w.Open home := hhome ▸ World.open_of_running (Pool.acquire_eq_ok_iff.mp e).1
    exact World.yields_of_note (World.getElem?_run_of_ne hrun hthread hothers) rfl (hentered hopen)
  | stayed hhome => exact .inl (hentered (hhome ▸ w.open_root))

/-- **A thread that is outside comes to its body or is refused.**  It does not come to its body once
the container is destroyed. -/
theorem Outside.yields (h : Outside es w k home) (hw : w.Sound)
    (hrefused : P (.refused home .notRunning)) (hentered : w.Open home → P (.entered home)) :
    lastOf k es = some (.refused home .notRunning) ∨ w.Yields k P 4 := by
  cases h with
  | waiting hth hes =>
    have hstep := World.step_run hth rfl home
    have hstart := startRun_approach w.pool home
    exact .inr ⟨_, _, _, hstep, hstart.yields hw hstep hrefused hentered⟩
  | entering hth hc hidle => exact .inr (hc.yields hw hth hrefused hentered).succ
  | refused hth hidle hlast hhome hd => exact .inl hlast

/-- A thread that is inside and has executed nothing executes its body next. -/
theorem Inside.yields (h : Inside es w k home) (hidle : Idle k es)
    (hentered : P (.entered home)) : w.Yields k P 1 := by
  cases h with
  | acquired hth hhome => exact World.yields_of_note hth rfl hentered
  | running hth hc hran => exact absurd hidle hran
  | ended hth hlast hran => exact absurd hidle hran

end Answers

end Steps

/-! ## Families -/

section Family

variable {f g : Family} {d : Descendant} {n : Nat}

theorem World.threads_of_spawn {w v : World} {k : Nat} {note : Note}
    (hs : w.step k (.perform .spawn) = some (v, note)) :
    k < w.threads.length ∧ v.threads = w.threads ++ [.fresh] := by
  obtain ⟨th, hth⟩ := exists_thread hs
  have hfree := isFree_of_perform hth hs
  simp only [step, hth, hfree, if_true, perform] at hs
  obtain ⟨rfl, -⟩ := Prod.mk.inj (Option.some.inj hs)
  exact ⟨(List.getElem?_eq_some_iff.mp hth).1, rfl⟩

theorem outside_of_spawn {es : List Event} {w v : World} {k : Nat} {note : Note}
    (h : Run .start es w) (hs : w.step k (.perform .spawn) = some (v, note)) (home : Handle) :
    Outside (⟨k, .perform .spawn, note⟩ :: es) v w.threads.length home := by
  obtain ⟨hk, hthreads⟩ := World.threads_of_spawn hs
  refine .waiting (by simp [hthreads]) fun e he => ?_
  rcases List.mem_cons.mp he with rfl | he
  · exact Nat.ne_of_lt hk
  · exact Nat.ne_of_lt (h.thread_lt e he)

/-- **Every started thread is outside or inside.** -/
theorem Family.heir (h : f.Reachable) : ∀ d ∈ f.born, d.child.kind = .thread →
    Outside f.events f.world d.number d.home ∨ Inside f.events f.world d.number d.home := by
  induction h with
  | refl => exact fun d hd => absurd hd (by simp [start])
  | @tail f g h hs ih =>
    have hreach : f.Reachable := h
    cases hs with
    | choose child hth hfree => exact ih
    | @act k a w note new ho hb hs =>
      intro d hd hkind
      rcases List.mem_append.mp hd with hnew | hold
      · have hborn := (hb.of_mem hnew).2
        rw [hkind] at hborn
        obtain ⟨rfl, hnumber⟩ := hborn
        rw [hnumber]
        exact .inl (outside_of_spawn hreach.run hs d.home)
      · by_cases hk : k = d.number
        · subst hk
          have hbody := ho.body d hold hkind rfl
          rcases ih d hold hkind with hout | hin
          · exact (hout.step_own hbody (home_lt h d hold) hs).imp_right And.left
          · exact .inr (hin.step_own hreach.sound (fun s hth => (hbody s hth).2) hs)
        · exact (ih d hold hkind).imp (fun hout => hout.step_other hreach.sound hk hs)
            fun hin => hin.step_other hk hs

/-- The container of a thread that is inside and has executed nothing is not destroyed. -/
theorem Inside.open_of_idle {es : List Event} {w : World} {k : Nat} {home : Handle}
    (h : Inside es w k home) (hidle : Idle k es) (hw : w.Sound) : w.Open home := by
  cases h with
  | @acquired n hth hhome =>
    have hcall : .run home (.acquired n) ∈ w.calls :=
      List.mem_flatMap.mpr ⟨_, List.mem_of_getElem? hth, List.mem_singleton_self _⟩
    have hholds : (Call.run home (.acquired n)).holds n = true := by
      simp [Call.holds, RunStage.holds]
    have hrunning := hw.settled.running (hw.attached_pos_of_call hcall hholds)
    rw [hhome]
    exact World.open_of_running hrunning
  | running hth hc hran => exact absurd hidle hran
  | ended hth hlast hran => exact absurd hidle hran

/-- **A thread that has executed nothing comes to its body, or is refused**, whatever other threads
do. -/
theorem Family.yields (h : f.Reachable) (hd : d ∈ f.born) (hkind : d.child.kind = .thread)
    (hidle : Idle d.number f.events) :
    lastOf d.number f.events = some (.refused d.home .notRunning) ∨
      f.world.Yields d.number
        (fun note => note = .entered d.home ∨ note = .refused d.home .notRunning) 4 := by
  rcases heir h d hd hkind with hout | hin
  · exact hout.yields h.sound (.inr rfl) fun _ => .inl rfl
  · exact .inr (hin.yields hidle (.inl rfl)).succ.succ.succ

/-- A thread that has executed nothing when its container is destroyed is outside. -/
theorem Family.outside_of_idle (h : f.Reachable) (hd : d ∈ f.born)
    (hkind : d.child.kind = .thread) (hhome : d.home = .managed n) (hn : f.world.Destroyed n)
    (hidle : Idle d.number f.events) : Outside f.events f.world d.number d.home := by
  rcases heir h d hd hkind with hout | hin
  · exact hout
  · exact absurd hn (hin.open_of_idle hidle h.sound n hhome)

/-- **A thread whose container is destroyed while it is outside stays outside.** -/
theorem Family.outside (h : f.Reachable) (hd : d ∈ f.born) (hkind : d.child.kind = .thread)
    (hhome : d.home = .managed n) (hn : f.world.Destroyed n)
    (hout : Outside f.events f.world d.number d.home) (h' : f.Leads g) :
    Outside g.events g.world d.number d.home ∧ g.world.Destroyed n := by
  induction h' with
  | refl => exact ⟨hout, hn⟩
  | @tail g g' h' hs ih =>
    obtain ⟨hout, hn⟩ := ih
    have hreach : g.Reachable := h.trans h'
    cases hs with
    | choose child hth hfree => exact ⟨hout, hn⟩
    | @act k a w note new ho hb hs =>
      refine ⟨?_, (hn.step hreach.sound hs).1⟩
      have hmem := Leads.mem_born h' hd
      by_cases hk : k = d.number
      · subst hk
        rcases hout.step_own (ho.body d hmem hkind rfl) (home_lt hreach d hmem) hs with
          hout | ⟨-, hopen⟩
        · exact hout
        · exact absurd hn (hopen n hhome)
      · exact hout.step_other hreach.sound hk hs

end Family

end ResourceContainers.Interleaving
