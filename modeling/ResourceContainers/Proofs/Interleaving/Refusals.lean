import ResourceContainers.Proofs.Interleaving.Admission

/-!
# A refused call leaves no trace

A deed of a thread may end with a refusal, at once or after several steps, with other threads
stepping in between.

* `World.Making`: a deed from its start on, with the steps that were taken meanwhile.
* `World.Harmless`: no step of the thread did anything that can be seen from outside the thread.
* `World.Standing`: how far a deed has come.  `Standing.step`: one step further.
* `World.run_root_entered`, `World.poll_root_polled`: root lets every call in.
* `refused_unchanged`: the main statement.

A deed that ends with a refusal has never been let in, so it stood at `Standing.entering` all the
time, and there each of its steps is harmless.  What other threads do does not matter: a step of
another thread leaves a thread and its calls where they are.
-/

namespace ResourceContainers.Interleaving

/-! ## Deeds under way -/

/-- A step that was taken, with the worlds before and after it. -/
structure Taken where
  thread : Nat
  before : World
  note : Note
  after : World

namespace World

variable {k l : Nat} {u v w : World} {th : Thread} {d : Deed} {steps : List Taken} {a : Act}
  {note : Note}

/-- The thread `k`, whose unfinished calls were `calls`, has a further one. -/
def Busy (w : World) (k : Nat) (calls : List Call) : Prop :=
  ∃ s inner c, w.threads[k]? = some ⟨s, inner ++ c :: calls⟩

/-- From `w` on the thread `k`, whose unfinished calls were `calls`, does the deed `d`, and other
threads take steps of their own until it is over; the steps are the newest first. -/
inductive Making (w : World) (k : Nat) (calls : List Call) (d : Deed) : List Taken → World → Prop
  | start {v : World} {note : Note} (hs : w.step k (.perform d) = some (v, note)) :
      Making w k calls d [⟨k, w, note, v⟩] v
  | step {steps : List Taken} {u v : World} {l : Nat} {a : Act} {note : Note}
      (h : Making w k calls d steps u) (hbusy : u.Busy k calls)
      (hs : u.step l a = some (v, note)) : Making w k calls d (⟨l, u, note, v⟩ :: steps) v

/-- No step of the thread `k` among some steps has done anything that can be seen from outside that
thread: it executed no code, and it spared the world. -/
structure Harmless (w : World) (k : Nat) (steps : List Taken) (v : World) : Prop where
  own : ∀ t ∈ steps, t.thread = k → t.note.executes = false ∧ t.before.Spares k t.after
  alone : (∀ t ∈ steps, t.thread = k) → w.Spares k v

theorem harmless_start (hspares : w.Spares k v) (hnote : note.executes = false) :
    w.Harmless k [⟨k, w, note, v⟩] v := by
  refine ⟨fun t ht _ => ?_, fun _ => hspares⟩
  obtain rfl := List.mem_singleton.mp ht
  exact ⟨hnote, hspares⟩

theorem Harmless.step_own (h : w.Harmless k steps u) (hspares : u.Spares k v)
    (hnote : note.executes = false) : w.Harmless k (⟨k, u, note, v⟩ :: steps) v where
  own t ht hk := by
    rcases List.mem_cons.mp ht with rfl | ht
    · exact ⟨hnote, hspares⟩
    · exact h.own t ht hk
  alone hall := (h.alone fun t ht => hall t (List.mem_cons_of_mem _ ht)).trans hspares

theorem Harmless.step_other (h : w.Harmless k steps u) (hl : l ≠ k) :
    w.Harmless k (⟨l, u, note, v⟩ :: steps) v where
  own t ht hk := by
    rcases List.mem_cons.mp ht with rfl | ht
    · exact absurd hk hl
    · exact h.own t ht hk
  alone hall := absurd (hall _ (List.mem_cons_self ..)) hl

theorem getElem?_step_of_ne (hs : w.step l a = some (v, note)) (hl : l ≠ k)
    (hth : w.threads[k]? = some th) : v.threads[k]? = some th := by
  rcases step_cases hs with ⟨rfl, -⟩ | hmoved
  · exact getElem?_spawned hth
  · cases hmoved with
    | @intro Γ s c j m number hlen hm hthreads htasks =>
    have hne : k ≠ Γ.before.length := fun h => hl (hlen.symm.trans h.symm)
    rw [hthreads, Γ.getElem?_world_of_ne hne] at hth
    rw [Γ.getElem?_world_of_ne hne, hth]

/-- A thread whose innermost call does not execute code can only go on with that call. -/
theorem step_of_not_inside {s : Slot} {c : Call} {calls : List Call}
    (hth : w.threads[k]? = some ⟨s, c :: calls⟩) (hc : c.isInside = false)
    (hs : w.step k a = some (v, note)) :
    a = .next ∧ ∃ m, c.next w.pool s = some m ∧ v = w.after k calls m ∧ note = m.note := by
  cases a with
  | next =>
    simp only [step, hth] at hs
    obtain ⟨m, hm, he⟩ := Option.map_eq_some_iff.mp hs
    obtain ⟨rfl, rfl⟩ := Prod.mk.inj he
    exact ⟨rfl, m, hm, rfl, rfl⟩
  | finish ending =>
    simp only [step, hth] at hs
    obtain ⟨c', hc', -⟩ := Option.map_eq_some_iff.mp hs
    cases Call.finish_of_eq_some hc' <;> exact absurd hc (by simp [Call.isInside])
  | perform deed => simp [step, hth, Thread.isFree, hc] at hs

/-- What the moves of a call keep of it is kept by every step of its thread, until the call is over.
Whatever the code of the call does makes no difference. -/
theorem step_of_call (P : Call → Prop) (Q : Note → Prop)
    (hP : ∀ {p : Pool} {s : Slot} {number number' : Nat} {c : Call} {j : Option Job} {m : Move},
      P c → Moves p s number (some c) j m number' →
        (∃ c', m.call = some c' ∧ P c') ∨ (m.call = none ∧ Q m.note))
    {s : Slot} {inner : List Call} {c : Call} {calls : List Call}
    (hth : w.threads[k]? = some ⟨s, inner ++ c :: calls⟩) (hc : P c)
    (hs : w.step k a = some (v, note)) :
    (∃ s' inner' c', v.threads[k]? = some ⟨s', inner' ++ c' :: calls⟩ ∧ P c') ∨
      ((∃ s', v.threads[k]? = some ⟨s', calls⟩) ∧ Q note) := by
  rcases step_cases hs with ⟨rfl, -⟩ | hmoved
  · exact .inl ⟨s, inner, c, getElem?_spawned hth, hc⟩
  · cases hmoved with
    | @intro Γ s₀ c₀ j m number hlen hm hthreads htasks =>
    rw [hthreads, ← hlen, Γ.getElem?_world] at hth
    have hcalls : c₀.toList ++ Γ.calls = inner ++ c :: calls :=
      (Thread.mk.inj (Option.some.inj hth)).2
    rw [← hlen, Γ.getElem?_world]
    rcases around_or_innermost hcalls with ⟨inner', haround⟩ | ⟨rfl, rfl⟩
    · -- the move is one of the code of the call
      exact .inl ⟨m.slot, m.call.toList ++ inner', c, by rw [haround, List.append_assoc], hc⟩
    · rcases hP hc hm with ⟨c', hcall, hc'⟩ | ⟨hcall, hnote⟩
      · exact .inl ⟨m.slot, [], c', by rw [hcall]; rfl, hc'⟩
      · exact .inr ⟨⟨m.slot, by rw [hcall]; rfl⟩, hnote⟩

/-- A call that is let in is still there after a step of its thread, or is over without a
refusal. -/
theorem step_of_admitted {s : Slot} {inner : List Call} {c : Call} {calls : List Call}
    (hth : w.threads[k]? = some ⟨s, inner ++ c :: calls⟩) (hc : c.isAdmitted = true)
    (hs : w.step k a = some (v, note)) :
    (∃ s' inner' c', v.threads[k]? = some ⟨s', inner' ++ c' :: calls⟩ ∧ c'.isAdmitted = true) ∨
      ((∃ s', v.threads[k]? = some ⟨s', calls⟩) ∧ note.refusal? = none) :=
  step_of_call (·.isAdmitted = true) (·.refusal? = none) Moves.of_admitted hth hc hs

/-- How far a deed has come that the thread `k`, which was `th`, does from `w` on. -/
inductive Standing (w : World) (k : Nat) (th : Thread) (d : Deed) : List Taken → World → Prop
  | entering {steps : List Taken} {v : World} {r : Handle} {c : Call}
      (hth : v.threads[k]? = some ⟨th.slot, c :: th.calls⟩) (hr : w.receiver? d = some r)
      (hc : c.Entering r) (h : w.Harmless k steps v) : Standing w k th d steps v
  | admitted {steps : List Taken} {v : World} {s : Slot} {inner : List Call} {c : Call}
      (hth : v.threads[k]? = some ⟨s, inner ++ c :: th.calls⟩) (hc : c.isAdmitted = true) :
      Standing w k th d steps v
  | refused {t : Taken} {steps : List Taken} {v : World} {r : Handle} {why : Refusal}
      (hth : v.threads[k]? = some th) (hr : w.receiver? d = some r)
      (hwhy : t.note.refusal? = some why) (hsuits : d.Suits r why)
      (h : w.Harmless k (t :: steps) v) : Standing w k th d (t :: steps) v
  | ended {t : Taken} {steps : List Taken} {v : World} {s : Slot}
      (hth : v.threads[k]? = some ⟨s, th.calls⟩) (hnote : t.note.refusal? = none) :
      Standing w k th d (t :: steps) v

/-- A thread with a further call is not one that has come to the end of it. -/
theorem Busy.ne (h : w.Busy k th.calls) {s : Slot} : w.threads[k]? ≠ some ⟨s, th.calls⟩ := by
  obtain ⟨s', inner, c, hth⟩ := h
  rw [hth]
  intro he
  have hlength := congrArg List.length (Thread.mk.inj (Option.some.inj he)).2
  simp at hlength
  omega

/-- **One step further.** -/
theorem Standing.step (h : w.Standing k th d steps u) (hbusy : u.Busy k th.calls)
    (hs : u.step l a = some (v, note)) : w.Standing k th d (⟨l, u, note, v⟩ :: steps) v := by
  cases h with
  | entering hth hr hc hharmless =>
    by_cases hl : l = k
    · subst hl
      obtain ⟨-, m, hm, rfl, rfl⟩ := step_of_not_inside hth hc.isInside hs
      have hk := (List.getElem?_eq_some_iff.mp hth).1
      have hthread : (u.after l th.calls m).threads[l]? =
          some ⟨m.slot, m.call.toList ++ th.calls⟩ := getElem?_after hk
      rcases Call.next_of_entering hc hm with
        ⟨c', hcall, hc'⟩ | ⟨⟨hpool, hslot, hjobs, hnote⟩, hgoes⟩
      · have hthread' : (u.after l th.calls m).threads[l]? =
            some ⟨m.slot, [] ++ c' :: th.calls⟩ := by rw [hthread, hcall]; rfl
        exact .admitted hthread' hc'
      · have hspares : u.Spares l (u.after l th.calls m) :=
          spares_after hth (j := none) rfl (.refl _) hpool hslot hjobs
        have hharmless' := hharmless.step_own hspares hnote
        rcases hgoes with ⟨c', hcall, hc'⟩ | ⟨hcall, hmanaged, why, hwhy, hkind⟩
        · refine .entering ?_ hr hc' hharmless'
          rw [hthread, hcall, hslot]
          rfl
        · refine .refused ?_ hr hwhy (Deed.suits_of_illegalState hkind hmanaged) hharmless'
          rw [hthread, hcall, hslot]
          rfl
    · exact .entering (getElem?_step_of_ne hs hl hth) hr hc (hharmless.step_other hl)
  | admitted hth hc =>
    by_cases hl : l = k
    · subst hl
      rcases step_of_admitted hth hc hs with ⟨s', inner', c', hth', hc'⟩ | ⟨⟨s', hth'⟩, hnote⟩
      · exact .admitted hth' hc'
      · exact .ended hth' hnote
    · exact .admitted (getElem?_step_of_ne hs hl hth) hc
  | refused hth => exact absurd hth hbusy.ne
  | ended hth => exact absurd hth hbusy.ne

/-- **However long it takes, a deed is on its way in and has done no harm, or is let in, or is
over.** -/
theorem Making.standing (h : w.Making k th.calls d steps v) (hth : w.threads[k]? = some th) :
    w.Standing k th d steps v := by
  induction h with
  | start hs =>
    rcases step_perform_cases hth hs with
      ⟨r, hr, hspares, hnote, ⟨c, hc, hthread⟩ | ⟨hthread, why, hwhy, hsuits⟩⟩ | ⟨hnote, s, hthread⟩
    · exact .entering hthread hr hc (harmless_start hspares hnote)
    · exact .refused hthread hr hwhy hsuits (harmless_start hspares hnote)
    · exact .ended hthread hnote
  | step _ hbusy hs ih => exact ih.step hbusy hs

/-! ## What root refuses -/

theorem administrative_root_refused (hth : w.threads[k]? = some th) (hfree : th.isFree = true)
    (hd : d.isAdministrative = true) (hr : w.receiver? d = some .root) :
    ∃ v why, w.step k (.perform d) = some (v, .refused .root why) ∧
      why.report.kind = .unsupported := by
  have hstep (d : Deed) : w.step k (.perform d) = w.perform k th d := by simp [step, hth, hfree]
  cases d with
  | destroy h =>
    obtain rfl := Option.some.inj hr
    exact ⟨_, .destroyRoot, hstep _, rfl⟩
  | update h c =>
    obtain rfl := Option.some.inj hr
    exact ⟨_, .limitRoot, hstep _, rfl⟩
  | setPolicy h policy =>
    obtain rfl := Option.some.inj hr
    exact ⟨_, .policyOfRoot, hstep _, rfl⟩
  | _ => exact absurd hd (by simp [Deed.isAdministrative])

theorem getElem?_run_of_ne {es : List Event} (h : Run w es v) (hth : w.threads[k]? = some th)
    (hes : ∀ e ∈ es, e.thread ≠ k) : v.threads[k]? = some th := by
  induction h with
  | nil => exact hth
  | cons _ hs ih =>
    have hu := ih fun e he => hes e (List.mem_cons_of_mem _ he)
    exact getElem?_step_of_ne hs (hes _ (List.mem_cons_self ..)) hu

/-- A call that waits takes its next access, whatever the others did meanwhile. -/
theorem step_next_of_run {es : List Event} (h : Run w es v) {s : Slot} {c : Call}
    {calls : List Call} (hth : w.threads[k]? = some ⟨s, c :: calls⟩)
    (hes : ∀ e ∈ es, e.thread ≠ k) {m : Move} (hm : c.next v.pool s = some m) :
    v.step k .next = some (v.after k calls m, m.note) := by
  simp [step, getElem?_run_of_ne h hth hes, hm]

/-- **Root accepts every run**, and the run comes to its command whatever other threads do. -/
theorem run_root_entered (hth : w.threads[k]? = some th) (hfree : th.isFree = true) :
    ∃ u, w.step k (.perform (.run .root)) = some (u, .quiet) ∧
      ∀ es v, Run u es v → (∀ e ∈ es, e.thread ≠ k) →
        ∃ v', v.step k .next = some (v', .entered .root) := by
  have hk := (List.getElem?_eq_some_iff.mp hth).1
  obtain ⟨way, hchoose, hway⟩ : ∃ way, Passage.choose .running th.slot.current .root = .ok way ∧
      ∀ n, way ≠ .attach n := by
    simp only [Passage.choose]
    split
    · exact ⟨_, rfl, by simp⟩
    · exact ⟨_, rfl, by simp⟩
  have hstart : startRun w.pool th.slot .root =
      ⟨w.pool, th.slot, some (.run .root (.going way)), none, .quiet⟩ := by
    simp [startRun, hchoose]
  refine ⟨w.after k th.calls (startRun w.pool th.slot .root), ?_, fun es v h hes => ?_⟩
  · simp [step, hth, hfree, perform, hstart]
  · have hthread : (w.after k th.calls (startRun w.pool th.slot .root)).threads[k]? = _ :=
      getElem?_after hk
    rw [hstart] at hthread h
    have hnext : Call.next v.pool th.slot (.run .root (.going way)) =
        some ⟨v.pool, way.bind th.slot, some (.run .root (.inside way)), none, .entered .root⟩ := by
      cases way with
      | attach n => exact absurd rfl (hway n)
      | _ => rfl
    exact ⟨_, step_next_of_run h hthread hes hnext⟩

/-- **Root accepts every poll**, and the poll comes to its future whatever other threads do. -/
theorem poll_root_polled (hth : w.threads[k]? = some th) (hfree : th.isFree = true) {i : Nat}
    (hr : w.receiver? (.poll i) = some .root) :
    ∃ u, w.step k (.perform (.poll i)) = some (u, .quiet) ∧
      ∀ es v, Run u es v → (∀ e ∈ es, e.thread ≠ k) →
        ∃ v' visit, v.step k .next = some (v', .polled i .root visit) := by
  have hk := (List.getElem?_eq_some_iff.mp hth).1
  obtain ⟨⟨j, tasks⟩, ht, hplace⟩ := Option.map_eq_some_iff.mp hr
  have hroot : j.scope.container = .root := hplace
  obtain rfl := takeJob_number ht
  obtain ⟨visit, hchoose, hvisit⟩ : ∃ visit, j.scope.choose th.slot.current = .ok visit ∧
      visit ≠ .bound := by
    rw [Scope.choose, hroot]
    refine ⟨_, rfl, ?_⟩
    split <;> simp
  have hstart : startPoll w.pool th.slot j =
      ⟨w.pool, th.slot, some (.poll j (.going visit)), none, .quiet⟩ := by
    simp [startPoll, hchoose]
  have hpoll := step_poll hth hfree ht
  rw [hstart] at hpoll
  refine ⟨_, hpoll, fun es v h hes => ?_⟩
  have hthread : (({ w with tasks := tasks } : World).after k th.calls
      ⟨w.pool, th.slot, some (.poll j (.going visit)), none, .quiet⟩).threads[k]? =
        some ⟨th.slot, .poll j (.going visit) :: th.calls⟩ := getElem?_after hk
  have hnext : Call.next v.pool th.slot (.poll j (.going visit)) =
      some ⟨v.pool, j.scope.bind th.slot visit, some (.poll j (.inside visit)), none,
        .polled j.number j.scope.container visit⟩ := by
    cases visit with
    | bound => exact absurd rfl hvisit
    | _ => rfl
  have hstep := step_next_of_run h hthread hes hnext
  rw [hroot] at hstep
  exact ⟨_, _, hstep⟩

end World

/-- **A refused call leaves no trace, and root refuses no code.**

In any world a thread does a deed, and other threads take whatever steps they like until the deed is
over.  If it ends with a refusal, then

* the thread executed no command and no future for it, and each of its steps left every container,
  every binding, every task and all other threads as they were;
* the thread has the binding and the calls that it had before;
* if no other thread took a step, then nothing at all has changed;
* the refusal is an unsupported request if the receiver is root, which happens with administrative
  deeds only, and an illegal state if it is any other container.

Administrative deeds on root are always refused.  A run into root and a poll of a task on root are
accepted, and their next access executes the command or the future, whatever other threads have done
in between. -/
theorem refused_unchanged {w : World} {k : Nat} {th : Thread} (hth : w.threads[k]? = some th) :
    (∀ d t steps v s why, w.Making k th.calls d (t :: steps) v →
      v.threads[k]? = some ⟨s, th.calls⟩ → t.note.refusal? = some why →
        (∀ t' ∈ t :: steps, t'.thread = k →
          t'.note.executes = false ∧ t'.before.Spares k t'.after) ∧
        v.threads[k]? = some th ∧
        ((∀ t' ∈ t :: steps, t'.thread = k) →
          v.pool = w.pool ∧ v.threads = w.threads ∧ v.tasks.Perm w.tasks ∧
            v.nextTask = w.nextTask) ∧
        ∃ r, w.receiver? d = some r ∧ d.Suits r why) ∧
    (∀ d, th.isFree = true → d.isAdministrative = true → w.receiver? d = some .root →
      ∃ v why, w.step k (.perform d) = some (v, .refused .root why) ∧
        why.report.kind = .unsupported) ∧
    (th.isFree = true → ∃ u, w.step k (.perform (.run .root)) = some (u, .quiet) ∧
      ∀ es v, Run u es v → (∀ e ∈ es, e.thread ≠ k) →
        ∃ v', v.step k .next = some (v', .entered .root)) ∧
    (∀ i, th.isFree = true → w.receiver? (.poll i) = some .root →
      ∃ u, w.step k (.perform (.poll i)) = some (u, .quiet) ∧
        ∀ es v, Run u es v → (∀ e ∈ es, e.thread ≠ k) →
          ∃ v' visit, v.step k .next = some (v', .polled i .root visit)) := by
  refine ⟨fun d t steps v s why h hover hwhy => ?_,
    fun d hfree hd hr => World.administrative_root_refused hth hfree hd hr,
    World.run_root_entered hth, fun i hfree hr => World.poll_root_polled hth hfree hr⟩
  cases h.standing hth with
  | entering hth' =>
    have hbusy : v.Busy k th.calls := ⟨_, [], _, hth'⟩
    exact absurd hover hbusy.ne
  | admitted hth' =>
    have hbusy : v.Busy k th.calls := ⟨_, _, _, hth'⟩
    exact absurd hover hbusy.ne
  | refused hth' hr hwhy' hsuits hharmless =>
    obtain rfl := Option.some.inj (hwhy.symm.trans hwhy')
    have hsame (hall : ∀ t' ∈ t :: steps, t'.thread = k) := (hharmless.alone hall).eq
      (hth'.trans hth.symm)
    exact ⟨hharmless.own, hth', hsame, _, hr, hsuits⟩
  | ended _ hnote => exact absurd (hwhy.symm.trans hnote) (by simp)

/-- A thread chose its way into the container 0, another thread destroys the container, and the
attachment is refused. -/
theorem refused_unchanged_afterDestroy : ∃ es w th t steps v,
    World.start.replay [(0, .perform (.create Config.empty .idle)), (0, .perform .spawn)] =
      some (es, w) ∧ w.threads[0]? = some th ∧
    w.Making 0 th.calls (.run (.managed 0)) (t :: steps) v ∧
    t.note = .refused (.managed 0) .notRunning ∧
    (∃ t' ∈ steps, t'.thread = 1 ∧ t'.note = .destroyed (.managed 0)) ∧
    (∀ t' ∈ t :: steps, t'.thread = 0 → t'.note.executes = false ∧ t'.before.Spares 0 t'.after) ∧
    v.threads[0]? = some th := by
  obtain ⟨es, w, u₁, u₂, u₃, v, hw, hth, h₁, h₂, h₃, h₄, hb₁, hb₂, hb₃, hv⟩ :
      ∃ es w u₁ u₂ u₃ v,
        World.start.replay [(0, .perform (.create Config.empty .idle)), (0, .perform .spawn)] =
          some (es, w) ∧ w.threads[0]? = some .fresh ∧
        w.step 0 (.perform (.run (.managed 0))) = some (u₁, .quiet) ∧
        u₁.step 0 .next = some (u₂, .quiet) ∧
        u₂.step 1 (.perform (.destroy (.managed 0))) = some (u₃, .destroyed (.managed 0)) ∧
        u₃.step 0 .next = some (v, .refused (.managed 0) .notRunning) ∧
        u₁.Busy 0 [] ∧ u₂.Busy 0 [] ∧ u₃.Busy 0 [] ∧ v.threads[0]? = some .fresh :=
    ⟨_, _, _, _, _, _, rfl, rfl, rfl, rfl, rfl, rfl, ⟨_, [], _, rfl⟩, ⟨_, [], _, rfl⟩,
      ⟨_, [], _, rfl⟩, rfl⟩
  have hmaking := (((World.Making.start h₁).step hb₁ h₂).step hb₂ h₃).step hb₃ h₄
  obtain ⟨hown, hsame, -, -⟩ := (refused_unchanged hth).1 _ _ _ _ _ _ hmaking hv rfl
  exact ⟨es, w, _, _, _, v, hw, hth, hmaking, rfl, ⟨_, List.mem_cons_self .., rfl, rfl⟩, hown,
    hsame⟩

end ResourceContainers.Interleaving
