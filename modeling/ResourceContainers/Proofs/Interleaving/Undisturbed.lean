import ResourceContainers.Proofs.Interleaving.Locality

/-!
# A thread that nobody disturbs

Cut into single accesses, a way into a container is still that way.  If a thread takes its accesses
one after the other and no other thread steps in between, then it comes to where `Passage.into` and
`Scope.enter` take it at once, and back to where `Passage.leave` and `Scope.leave` take it.

* `Move.onward`: the accesses of a call, one after the other.
* `startRun_onward`, `leaving_onward`: a run goes in and out as a passage does.
* `startPoll_onward`, `suspending_onward`: a poll goes in and out as a scope does.
* `Straight`: the steps of a thread among others that take none.
* `run_undisturbed`, `return_undisturbed`, `poll_undisturbed`, `suspend_undisturbed`: the same of
  such a thread.
-/

namespace ResourceContainers.Interleaving

/-! ## One access after the other -/

/-- The thread goes on by at most so many accesses, until code is executed or the call is over. -/
def Move.onward : Nat → Move → Move
  | 0, m => m
  | n + 1, m =>
    match m.call.bind (·.next m.pool m.slot) with
    | none => m
    | some m' => m'.onward n

/-- Where a run comes to at once: it is refused, or its command starts to be executed. -/
def entered (p : Pool) (s : Slot) (target : Handle) : Move :=
  match Passage.into p s target with
  | .error why => ⟨p, s, none, none, .refused target why⟩
  | .ok (way, p, s) => ⟨p, s, some (.run target (.inside way)), none, .entered target⟩

/-- Where a run comes to at once whose command is over. -/
def returned (p : Pool) (s : Slot) (target : Handle) (way : Passage) : Move :=
  ⟨(way.leave p s).1, (way.leave p s).2, none, none, .returned target⟩

/-- Where a poll comes to at once: it is refused, or the future starts to be executed. -/
def visited (p : Pool) (s : Slot) (j : Job) : Move :=
  match j.scope.enter p s with
  | .error why => ⟨p, s, none, some j, .failed j.number why⟩
  | .ok (visit, t, p, s) =>
    ⟨p, s, some (.poll ⟨j.number, t⟩ (.inside visit)), none,
      .polled j.number t.container visit⟩

/-- Where a poll comes to at once whose future is over for this time. -/
def suspended (p : Pool) (s : Slot) (j : Job) (visit : Scope.Visit) (ending : Ending) : Move :=
  let r := j.scope.leave p s visit (ending == .done)
  ⟨r.2.1, r.2.2, none, some ⟨j.number, r.1⟩, .ended j.number ending⟩

/-- A run that goes on without being disturbed goes the way in. -/
theorem startRun_onward (p : Pool) (s : Slot) (target : Handle) :
    (startRun p s target).onward 3 = entered p s target := by
  cases target with
  | root =>
    by_cases hroot : s.current.isRoot <;>
      simp [startRun, entered, Passage.into, Passage.choose, hroot, Move.onward, Call.next,
        RunStage.next, Passage.bind, Passage.enter]
  | managed n =>
    cases hphase : (p.container n).phase with
    | destroyed =>
      simp [startRun, entered, Passage.into, Passage.choose, Pool.phase, hphase, Move.onward]
    | running =>
      by_cases hthere : s.current = .managed n
      · simp [startRun, entered, Passage.into, Passage.choose, Pool.phase, hphase, hthere,
          Move.onward, Call.next, RunStage.next, Passage.bind, Passage.enter]
      · by_cases hroot : s.current.isRoot
        · -- the attachment and the binding are two accesses
          obtain ⟨q, hq⟩ : ∃ q, p.acquire n = .ok q := ⟨_, by rw [Pool.acquire, hphase]⟩
          simp [startRun, entered, Passage.into, Passage.choose, Pool.phase, hphase, hthere, hroot,
            Move.onward, Call.next, RunStage.next, Passage.bind, Passage.enter, hq]
        · simp [startRun, entered, Passage.into, Passage.choose, Pool.phase, hphase, hthere, hroot,
            Move.onward, Call.next, RunStage.next]

theorem leaving_onward (p : Pool) (s : Slot) (target : Handle) (way : Passage) (note : Note) :
    (⟨p, s, some (.run target (.leaving way)), none, note⟩ : Move).onward 2 =
      returned p s target way := by
  cases way <;> rfl

theorem startPoll_onward (p : Pool) (s : Slot) (j : Job) :
    (startPoll p s j).onward 3 = visited p s j := by
  rw [visited, Scope.enter_eq_choose, startPoll]
  cases hchoose : j.scope.choose s.current with
  | error why => rfl
  | ok visit =>
    cases visit with
    | direct => rfl
    | stepOut back => rfl
    | bound =>
      cases hattach : j.scope.attach p with
      | error why => simp [Move.onward, Call.next, PollStage.next, hattach]
      | ok r => simp [Move.onward, Call.next, PollStage.next, hattach]

theorem suspending_onward (p : Pool) (s : Slot) (j : Job) (visit : Scope.Visit) (ending : Ending)
    (note : Note) :
    (⟨p, s, some (.poll j (.leaving visit ending)), none, note⟩ : Move).onward 2 =
      suspended p s j visit ending := by
  cases visit <;> cases ending <;> rfl

/-! ## Among other threads -/

/-- The thread `k` takes the step `a`, and then one access after the other.  No other thread takes a
step in between.  The last that is seen is `note`. -/
inductive Straight (w : World) (k : Nat) (a : Act) : Note → World → Prop
  | once {note : Note} {v : World} (hs : w.step k a = some (v, note)) : Straight w k a note v
  | next {note note' : Note} {u v : World} (h : Straight w k a note u)
      (hs : u.step k .next = some (v, note')) : Straight w k a note' v

theorem Call.next_job {c : Call} {p : Pool} {s : Slot} {m : Move} (h : c.next p s = some m)
    (hcall : m.call ≠ none) : m.job = none := by
  cases c with
  | run target stage => cases RunStage.access_of_next h <;> rfl
  | poll j stage =>
    cases PollStage.access_of_next h with
    | failed e => exact absurd rfl hcall
    | left hleft => exact absurd rfl hcall
    | released => exact absurd rfl hcall
    | _ => rfl

section Among

variable {w u v : World} {k : Nat} {a : Act} {note : Note} {calls : List Call} {m m' : Move}

theorem World.getElem?_after (hk : k < w.threads.length) :
    (w.after k calls m).threads[k]? = some ⟨m.slot, m.call.toList ++ calls⟩ := by
  simp [after, hk]

/-- Of two moves of a thread, the first of which gives no task back, only the second one shows. -/
theorem World.after_after (hm : m.job = none) : (w.after k calls m).after k calls m' =
    w.after k calls m' := by
  simp [after, hm]

/-- A thread that takes its accesses one after the other. -/
theorem Straight.onward (h : Straight w k a m.note (u.after k calls m))
    (hk : k < u.threads.length) (hjob : m.call ≠ none → m.job = none) (n : Nat) :
    Straight w k a (m.onward n).note (u.after k calls (m.onward n)) := by
  induction n generalizing m with
  | zero => exact h
  | succ n ih =>
    rw [Move.onward]
    cases hnext : m.call.bind (·.next m.pool m.slot) with
    | none => exact h
    | some m' =>
      obtain ⟨c, hc, hm'⟩ := Option.bind_eq_some_iff.mp hnext
      have hstep : (u.after k calls m).step k .next = some (u.after k calls m', m'.note) := by
        have hnone : m.job = none := hjob (by simp [hc])
        have hpool : (u.after k calls m).pool = m.pool := rfl
        rw [World.step, World.getElem?_after hk]
        simp [hc, hpool, hm', World.after_after hnone]
      exact ih (h.next hstep) (Call.next_job hm')

namespace World

/-- **A run that nobody disturbs** goes the way in that `Passage.into` goes at once. -/
theorem run_undisturbed {th : Thread} (hth : w.threads[k]? = some th) (hfree : th.isFree = true)
    (target : Handle) :
    Straight w k (.perform (.run target)) (entered w.pool th.slot target).note
      (w.after k th.calls (entered w.pool th.slot target)) := by
  have hstep : w.step k (.perform (.run target)) = some
      (w.after k th.calls (startRun w.pool th.slot target),
        (startRun w.pool th.slot target).note) := by
    simp [step, hth, hfree, perform]
  have hjob : (startRun w.pool th.slot target).job = none := by
    cases target <;> simp only [startRun] <;> split <;> rfl
  rw [← startRun_onward]
  exact (Straight.once hstep).onward (List.getElem?_eq_some_iff.mp hth).1 (fun _ => hjob) 3

/-- **A run that nobody disturbs** on its way out goes the way back of `Passage.leave`. -/
theorem return_undisturbed {s : Slot} {target : Handle} {way : Passage} {ending : Ending}
    (hth : w.threads[k]? = some ⟨s, .run target (.inside way) :: calls⟩)
    (hending : ending ≠ .pending) :
    Straight w k (.finish ending) (.returned target)
      (w.after k calls (returned w.pool s target way)) := by
  have hstep : w.step k (.finish ending) = some
      (w.after k calls ⟨w.pool, s, some (.run target (.leaving way)), none, .quiet⟩, .quiet) := by
    simp [step, hth, Call.finish, hending]
  have hstraight := Straight.onward
    (m := ⟨w.pool, s, some (.run target (.leaving way)), none, .quiet⟩)
    (.once hstep) (List.getElem?_eq_some_iff.mp hth).1 (fun _ => rfl) 2
  rwa [leaving_onward] at hstraight

theorem step_poll {th : Thread} (hth : w.threads[k]? = some th) (hfree : th.isFree = true)
    {i : Nat} {j : Job} {tasks : List Job} (hj : takeJob i w.tasks = some (j, tasks)) :
    w.step k (.perform (.poll i)) = some
      ({ w with tasks := tasks }.after k th.calls (startPoll w.pool th.slot j),
        (startPoll w.pool th.slot j).note) := by
  simp [step, hth, hfree, perform, hj]

/-- **A poll that nobody disturbs** goes the way to its task that `Scope.enter` goes at once. -/
theorem poll_undisturbed {th : Thread} (hth : w.threads[k]? = some th) (hfree : th.isFree = true)
    {i : Nat} {j : Job} {tasks : List Job} (hj : takeJob i w.tasks = some (j, tasks)) :
    Straight w k (.perform (.poll i)) (visited w.pool th.slot j).note
      ({ w with tasks := tasks }.after k th.calls (visited w.pool th.slot j)) := by
  have hjob : (startPoll w.pool th.slot j).call ≠ none →
      (startPoll w.pool th.slot j).job = none := by
    simp only [startPoll]
    split
    · exact fun hcall => absurd rfl hcall
    · exact fun _ => rfl
  rw [← startPoll_onward]
  exact (Straight.once (step_poll hth hfree hj)).onward (List.getElem?_eq_some_iff.mp hth).1 hjob 3

/-- **A poll that nobody disturbs** on its way out goes the way back of `Scope.leave`. -/
theorem suspend_undisturbed {s : Slot} {j : Job} {visit : Scope.Visit}
    (hth : w.threads[k]? = some ⟨s, .poll j (.inside visit) :: calls⟩) (ending : Ending) :
    Straight w k (.finish ending) (.ended j.number ending)
      (w.after k calls (suspended w.pool s j visit ending)) := by
  have hstep : w.step k (.finish ending) = some
      (w.after k calls ⟨w.pool, s, some (.poll j (.leaving visit ending)), none, .quiet⟩,
        .quiet) := by
    simp [step, hth, Call.finish]
  have hstraight := Straight.onward
    (m := ⟨w.pool, s, some (.poll j (.leaving visit ending)), none, .quiet⟩)
    (.once hstep) (List.getElem?_eq_some_iff.mp hth).1 (fun _ => rfl) 2
  rwa [suspending_onward] at hstraight

end World

end Among

end ResourceContainers.Interleaving
