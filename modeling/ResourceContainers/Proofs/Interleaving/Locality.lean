import ResourceContainers.Proofs.Interleaving.World

/-!
# A step is the step of one thread

Whatever a thread does in one step, it does to the pool, to its own slot, to its innermost call and
to at most one task.  All other threads, all calls around the innermost one and all other tasks are
`Surroundings`, and stay as they are.

* `RunStage.Access`, `PollStage.Access`: what one access does, one case for each way it can go.
* `Moves`: what a thread can do, with nothing else in sight.
* `Moves.pool_cases`, `Moves.truthful`: what a move does to the pool, and what is seen of it.
* `World.step_cases`: every step is a move inside some surroundings, or starts a thread.
* `Run.invariant`: what holds at the start and is kept by every step holds in every reachable world.

So an invariant is checked move by move, on a pool, a slot, a call and a task, and `step_cases`
carries it over to the world.
-/

namespace ResourceContainers.Interleaving

/-! ## Accesses -/

/-- The accesses of a run into `target`: what each stage leads to, and when. -/
inductive RunStage.Access (target : Handle) (p : Pool) (s : Slot) : RunStage → Move → Prop
  | refused {why : Refusal} (e : Passage.choose .running s.current target = .error why) :
      Access target p s .checked ⟨p, s, none, none, .refused target why⟩
  | chosen {way : Passage} (e : Passage.choose .running s.current target = .ok way) :
      Access target p s .checked ⟨p, s, some (.run target (.going way)), none, .quiet⟩
  | unacquired {n : Nat} {why : Refusal} (e : p.acquire n = .error why) :
      Access target p s (.going (.attach n)) ⟨p, s, none, none, .refused target why⟩
  | acquired {n : Nat} {q : Pool} (e : p.acquire n = .ok q) :
      Access target p s (.going (.attach n))
        ⟨q, s, some (.run target (.acquired n)), none, .quiet⟩
  | entered {way : Passage} (hway : ∀ n, way ≠ .attach n) :
      Access target p s (.going way)
        ⟨p, way.bind s, some (.run target (.inside way)), none, .entered target⟩
  | bound (n : Nat) :
      Access target p s (.acquired n)
        ⟨p, Passage.bind s (.attach n), some (.run target (.inside (.attach n))), none,
          .entered target⟩
  | left {way : Passage} (hway : ∀ n, way ≠ .attach n) :
      Access target p s (.leaving way) ⟨p, way.unbind s, none, none, .returned target⟩
  | unbound (n : Nat) :
      Access target p s (.leaving (.attach n))
        ⟨p, Passage.unbind s (.attach n), some (.run target (.unbound n)), none, .quiet⟩
  | released (n : Nat) :
      Access target p s (.unbound n) ⟨p.release n, s, none, none, .returned target⟩

/-- The accesses of a poll of the task `j`: what each stage leads to, and when. -/
inductive PollStage.Access (j : Job) (p : Pool) (s : Slot) : PollStage → Move → Prop
  | failed {why : Refusal} (e : j.scope.attach p = .error why) :
      Access j p s (.going .bound) ⟨p, s, none, some j, .failed j.number why⟩
  | acquired {t : Scope} {q : Pool} (e : j.scope.attach p = .ok (t, q)) :
      Access j p s (.going .bound) ⟨q, s, some (.poll ⟨j.number, t⟩ .acquired), none, .quiet⟩
  | polled {visit : Scope.Visit} (hvisit : visit ≠ .bound) :
      Access j p s (.going visit)
        ⟨p, j.scope.bind s visit, some (.poll j (.inside visit)), none,
          .polled j.number j.scope.container visit⟩
  | bound :
      Access j p s .acquired
        ⟨p, j.scope.bind s .bound, some (.poll j (.inside .bound)), none,
          .polled j.number j.scope.container .bound⟩
  | left {visit : Scope.Visit} {ending : Ending} (hleft : visit = .bound → ending ≠ .done) :
      Access j p s (.leaving visit ending)
        ⟨p, Scope.unbind s visit, none, some j, .ended j.number ending⟩
  | unbound :
      Access j p s (.leaving .bound .done)
        ⟨p, Scope.unbind s .bound, some (.poll j .unbound), none, .quiet⟩
  | released :
      Access j p s .unbound
        ⟨(j.scope.release p).2, s, none, some ⟨j.number, (j.scope.release p).1⟩,
          .ended j.number .done⟩

/-- How a run into `target` starts: it is refused, or goes on. -/
inductive RunStart (p : Pool) (s : Slot) : Handle → Move → Prop
  | refused (target : Handle) (why : Refusal) :
      RunStart p s target ⟨p, s, none, none, .refused target why⟩
  | checked {n : Nat} (h : (p.container n).phase = .running) :
      RunStart p s (.managed n) ⟨p, s, some (.run (.managed n) .checked), none, .quiet⟩
  | chosen {way : Passage} (e : Passage.choose .running s.current .root = .ok way) :
      RunStart p s .root ⟨p, s, some (.run .root (.going way)), none, .quiet⟩

/-- How a poll of the task `j` starts: it is refused, or goes on. -/
inductive PollStart (p : Pool) (s : Slot) (j : Job) : Move → Prop
  | failed {why : Refusal} (e : j.scope.choose s.current = .error why) :
      PollStart p s j ⟨p, s, none, some j, .failed j.number why⟩
  | chosen {visit : Scope.Visit} (e : j.scope.choose s.current = .ok visit) :
      PollStart p s j ⟨p, s, some (.poll j (.going visit)), none, .quiet⟩

/-- A call whose code ends. -/
inductive Call.Finish (ending : Ending) : Call → Call → Prop
  | run {target : Handle} {way : Passage} (h : ending ≠ .pending) :
      Finish ending (.run target (.inside way)) (.run target (.leaving way))
  | poll {j : Job} {visit : Scope.Visit} :
      Finish ending (.poll j (.inside visit)) (.poll j (.leaving visit ending))

section Access

variable {p : Pool} {s : Slot} {m : Move}

theorem RunStage.access_of_next {target : Handle} {stage : RunStage}
    (h : stage.next target p s = some m) : RunStage.Access target p s stage m := by
  cases stage with
  | checked =>
    simp only [next] at h
    split at h
    · next why e => obtain rfl := Option.some.inj h; exact .refused e
    · next way e => obtain rfl := Option.some.inj h; exact .chosen e
  | going way =>
    cases way with
    | direct => obtain rfl := Option.some.inj h; exact .entered (by simp)
    | stepOut back => obtain rfl := Option.some.inj h; exact .entered (by simp)
    | attach n =>
      simp only [next] at h
      split at h
      · next why e => obtain rfl := Option.some.inj h; exact .unacquired e
      · next q e => obtain rfl := Option.some.inj h; exact .acquired e
  | acquired n => obtain rfl := Option.some.inj h; exact .bound n
  | inside way => exact absurd h (by simp [next])
  | leaving way =>
    cases way with
    | direct => obtain rfl := Option.some.inj h; exact .left (by simp)
    | stepOut back => obtain rfl := Option.some.inj h; exact .left (by simp)
    | attach n => obtain rfl := Option.some.inj h; exact .unbound n
  | unbound n => obtain rfl := Option.some.inj h; exact .released n

theorem PollStage.access_of_next {j : Job} {stage : PollStage} (h : stage.next j p s = some m) :
    PollStage.Access j p s stage m := by
  cases stage with
  | going visit =>
    cases visit with
    | direct => obtain rfl := Option.some.inj h; exact .polled (by simp)
    | stepOut back => obtain rfl := Option.some.inj h; exact .polled (by simp)
    | bound =>
      simp only [next] at h
      split at h
      · next why e => obtain rfl := Option.some.inj h; exact .failed e
      · next t q e => obtain rfl := Option.some.inj h; exact .acquired e
  | acquired => obtain rfl := Option.some.inj h; exact .bound
  | inside visit => exact absurd h (by simp [next])
  | leaving visit ending =>
    cases visit with
    | direct => obtain rfl := Option.some.inj h; exact .left (by simp)
    | stepOut back => obtain rfl := Option.some.inj h; exact .left (by simp)
    | bound =>
      cases ending with
      | done => obtain rfl := Option.some.inj h; exact .unbound
      | pending => obtain rfl := Option.some.inj h; exact .left (by simp)
      | panicked => obtain rfl := Option.some.inj h; exact .left (by simp)
  | unbound => obtain rfl := Option.some.inj h; exact .released

theorem runStart (p : Pool) (s : Slot) (target : Handle) :
    RunStart p s target (startRun p s target) := by
  cases target with
  | root =>
    simp only [startRun]
    split
    · next why e => exact .refused .root why
    · next way e => exact .chosen e
  | managed n =>
    simp only [startRun]
    split
    · exact .refused (.managed n) .notRunning
    · next h => exact .checked h

theorem pollStart (p : Pool) (s : Slot) (j : Job) : PollStart p s j (startPoll p s j) := by
  simp only [startPoll]
  split
  · next why e => exact .failed e
  · next visit e => exact .chosen e

theorem Call.finish_of_eq_some {c c' : Call} {ending : Ending} (h : c.finish ending = some c') :
    Call.Finish ending c c' := by
  cases c with
  | run target stage =>
    cases stage <;> simp only [Call.finish] at h
    case inside way =>
      split at h
      · exact absurd h (by simp)
      · next hpending => obtain rfl := Option.some.inj h; exact .run hpending
    all_goals exact absurd h (by simp)
  | poll j stage =>
    cases stage <;> simp only [Call.finish] at h
    case inside visit => obtain rfl := Option.some.inj h; exact .poll
    all_goals exact absurd h (by simp)

end Access

/-! ## Moves -/

/-- A request of the pool, and what can be seen of it. -/
inductive Request (p : Pool) : Pool → Note → Prop
  | create (c : Config) (m : Meter) : Request p (p.create c m).1 (.created (p.create c m).2)
  | destroy {h : Handle} {p' : Pool} (e : p.destroy h = .ok p') : Request p p' (.destroyed h)
  | update {h : Handle} {k : Constraint} {p' : Pool} (e : p.update h k = .ok p') :
      Request p p' (.updated h k)
  | setPolicy {h : Handle} {policy : Policy} {p' : Pool} (e : p.setPolicy h policy = .ok p') :
      Request p p' .quiet
  | refused (h : Handle) (why : Refusal) : Request p p (.refused h why)

/-- `Moves p s number c j m number'`: a thread whose slot is `s` and whose innermost call is `c` can
make the move `m`, for which it takes the task `j` out of the world.  New tasks are numbered from
`number` before and from `number'` afterwards. -/
inductive Moves (p : Pool) (s : Slot) (number : Nat) :
    Option Call → Option Job → Move → Nat → Prop
  | run {target : Handle} {stage : RunStage} {m : Move} (h : RunStage.Access target p s stage m) :
      Moves p s number (some (.run target stage)) none m number
  | poll {j : Job} {stage : PollStage} {m : Move} (h : PollStage.Access j p s stage m) :
      Moves p s number (some (.poll j stage)) none m number
  | finish {c c' : Call} {ending : Ending} (h : Call.Finish ending c c') :
      Moves p s number (some c) none ⟨p, s, some c', none, .quiet⟩ number
  | request {p' : Pool} {note : Note} (h : Request p p' note) :
      Moves p s number none none ⟨p', s, none, none, note⟩ number
  | scope (h : Handle) :
      Moves p s number none none ⟨p, s, none, some ⟨number, .ofHandle h⟩, .quiet⟩ (number + 1)
  | drop (j : Job) :
      Moves p s number none (some j) ⟨(j.scope.release p).2, s, none, none, .quiet⟩ number
  | startRun {target : Handle} {m : Move} (h : RunStart p s target m) :
      Moves p s number none none m number
  | startPoll {j : Job} {m : Move} (h : PollStart p s j m) :
      Moves p s number none (some j) m number

section Moves

variable {p : Pool} {s : Slot} {number number' : Nat} {c : Option Call} {j : Option Job} {m : Move}

/-- What a move does to the pool: it makes an attachment, or gives one back, or is a request of
code, or leaves the pool alone. -/
theorem Moves.pool_cases (hm : Moves p s number c j m number') :
    m.pool = p ∨ (∃ n, p.acquire n = .ok m.pool) ∨ (∃ n, m.pool = p.release n) ∨
      Request p m.pool m.note := by
  have hrelease (t : Scope) : (t.release p).2 = p ∨ ∃ n, (t.release p).2 = p.release n := by
    obtain ⟨hr, -⟩ | ⟨n, -, -, hr⟩ := Scope.release_cases t p
    · exact .inl (congrArg Prod.snd hr)
    · exact .inr ⟨n, congrArg Prod.snd hr⟩
  cases hm with
  | run h =>
    cases h with
    | @acquired n q e => exact .inr (.inl ⟨n, e⟩)
    | released n => exact .inr (.inr (.inl ⟨n, rfl⟩))
    | _ => exact .inl rfl
  | @poll j stage m h =>
    cases h with
    | acquired e =>
      obtain ⟨-, hp, -⟩ | ⟨n, -, -, ha, -⟩ := Scope.attach_cases e
      · exact .inl hp
      · exact .inr (.inl ⟨n, ha⟩)
    | released => exact (hrelease j.scope).imp_right fun hn => .inr (.inl hn)
    | _ => exact .inl rfl
  | request h => exact .inr (.inr (.inr h))
  | drop j => exact (hrelease j.scope).imp_right fun hn => .inr (.inl hn)
  | startRun h => cases h <;> exact .inl rfl
  | startPoll h => cases h <;> exact .inl rfl
  | _ => exact .inl rfl

/-- What can be seen of a move is what the move does. -/
def Move.Truthful (p : Pool) (m : Move) : Prop :=
  match m.note with
  | .destroyed h => p.destroy h = .ok m.pool
  | .updated h k => p.update h k = .ok m.pool
  | .entered h => ∃ way, m.call = some (.run h (.inside way))
  | .polled i h visit =>
    ∃ j : Job, j.number = i ∧ j.scope.container = h ∧ m.call = some (.poll j (.inside visit))
  | _ => True

theorem Moves.truthful (hm : Moves p s number c j m number') : m.Truthful p := by
  cases hm with
  | run h =>
    cases h with
    | entered hway => exact ⟨_, rfl⟩
    | bound n => exact ⟨_, rfl⟩
    | _ => trivial
  | @poll j stage m h =>
    cases h with
    | polled hvisit => exact ⟨j, rfl, rfl, rfl⟩
    | bound => exact ⟨j, rfl, rfl, rfl⟩
    | _ => trivial
  | request h =>
    cases h with
    | destroy e => exact e
    | update e => exact e
    | _ => trivial
  | startRun h => cases h <;> trivial
  | startPoll h => cases h <;> trivial
  | _ => trivial

end Moves

/-- What a move leaves alone: tasks, other threads, and the calls around the one that moves. -/
structure Surroundings where
  tasks : List Job
  before : List Thread
  calls : List Call
  behind : List Thread

/-- The world with a thread, and perhaps a call and a task of it, inside surroundings. -/
def Surroundings.world (Γ : Surroundings) (p : Pool) (number : Nat) (s : Slot) (c : Option Call)
    (j : Option Job) : World :=
  ⟨p, j.toList ++ Γ.tasks, number, Γ.before ++ ⟨s, c.toList ++ Γ.calls⟩ :: Γ.behind⟩

/-! ## Steps -/

theorem takeJob_perm {number : Nat} {j : Job} {l rest : List Job}
    (h : takeJob number l = some (j, rest)) : l.Perm (j :: rest) := by
  induction l generalizing rest with
  | nil => exact absurd h (by simp [takeJob])
  | cons i l ih =>
    rw [takeJob] at h
    split at h
    · obtain ⟨rfl, rfl⟩ := Prod.mk.inj (Option.some.inj h)
      exact List.Perm.refl _
    · obtain ⟨⟨j', rest'⟩, ht, he⟩ := Option.map_eq_some_iff.mp h
      obtain ⟨rfl, rfl⟩ := Prod.mk.inj he
      exact ((ih ht).cons i).trans (List.Perm.swap ..)

theorem mem_of_takeJob {number : Nat} {j : Job} {l rest : List Job}
    (h : takeJob number l = some (j, rest)) : j ∈ l :=
  (takeJob_perm h).mem_iff.mpr (List.mem_cons_self ..)

/-- A request moves the pool or is refused. -/
theorem request_moves {p : Pool} {h : Handle} {note : Note} {result : Except Refusal Pool}
    (s : Slot) (number : Nat) (he : ∀ p', result = .ok p' → Request p p' note) :
    Moves p s number none none (request p s h note result) number := by
  cases result with
  | ok p' => exact .request (he p' rfl)
  | error why => exact .request (.refused h why)

/-- A thread made a move: the world is what it was but for what the move did. -/
inductive World.Moved (w : World) (k : Nat) : World → Note → Prop
  | intro (Γ : Surroundings) {s : Slot} {c : Option Call} {j : Option Job} {m : Move}
      {number : Nat} (hk : Γ.before.length = k) (hm : Moves w.pool s w.nextTask c j m number)
      (hthreads : w.threads = (Γ.world w.pool w.nextTask s c j).threads)
      (htasks : w.tasks.Perm (Γ.world w.pool w.nextTask s c j).tasks) :
      Moved w k (Γ.world m.pool number m.slot m.call m.job) m.note

namespace World

variable {w w' : World} {k : Nat} {a : Act} {note : Note}

/-- What is around a call and a task of a thread, with the world that a move of that thread leads
to. -/
theorem exists_surroundings {th : Thread} (hth : w.threads[k]? = some th) {c : Option Call}
    {calls : List Call} (hc : th.calls = c.toList ++ calls) {j : Option Job} {tasks : List Job}
    (ht : w.tasks.Perm (j.toList ++ tasks)) :
    ∃ Γ : Surroundings, Γ.before.length = k ∧
      w.threads = (Γ.world w.pool w.nextTask th.slot c j).threads ∧
      w.tasks.Perm (Γ.world w.pool w.nextTask th.slot c j).tasks ∧
      ∀ (m : Move) (number : Nat), ({ w with tasks := tasks, nextTask := number }.after k calls m) =
        Γ.world m.pool number m.slot m.call m.job := by
  obtain ⟨hk, rfl⟩ := List.getElem?_eq_some_iff.mp hth
  let Γ : Surroundings := ⟨tasks, w.threads.take k, calls, w.threads.drop (k + 1)⟩
  refine ⟨Γ, List.length_take_of_le (Nat.le_of_lt hk), ?_, ht, fun m number => ?_⟩
  · show w.threads = w.threads.take k ++ ⟨_, c.toList ++ calls⟩ :: w.threads.drop (k + 1)
    rw [← hc, ← List.drop_eq_getElem_cons hk, List.take_append_drop]
  · rw [after, List.set_eq_take_append_cons_drop, if_pos hk]
    rfl

/-- What a thread does to the world by a move, once the task that it takes is taken. -/
theorem moved_after {th : Thread} (hth : w.threads[k]? = some th) {c : Option Call}
    {calls : List Call} (hc : th.calls = c.toList ++ calls) {j : Option Job} {tasks : List Job}
    (ht : w.tasks.Perm (j.toList ++ tasks)) {m : Move} {number : Nat}
    (hm : Moves w.pool th.slot w.nextTask c j m number) :
    w.Moved k ({ w with tasks := tasks, nextTask := number }.after k calls m) m.note := by
  obtain ⟨Γ, hk, hthreads, htasks, hafter⟩ := exists_surroundings hth hc ht
  rw [hafter]
  exact .intro Γ hk hm hthreads htasks

/-- **What a deed can do.** -/
theorem perform_cases {th : Thread} (hth : w.threads[k]? = some th) {deed : Deed}
    (h : w.perform k th deed = some (w', note)) :
    (w' = { w with threads := w.threads ++ [.fresh] } ∧ note = .quiet) ∨ w.Moved k w' note := by
  have hmoved {j : Option Job} {tasks : List Job} (ht : w.tasks.Perm (j.toList ++ tasks))
      {m : Move} {number : Nat} (hm : Moves w.pool th.slot w.nextTask none j m number)
      (he : some ({ w with tasks := tasks, nextTask := number }.after k th.calls m, m.note) =
        some (w', note)) : w.Moved k w' note := by
    obtain ⟨rfl, rfl⟩ := Prod.mk.inj (Option.some.inj he)
    exact moved_after hth rfl ht hm
  have htaken {task : Nat} {f : Job → Move} (hf : ∀ j, Moves w.pool th.slot w.nextTask none (some j)
      (f j) w.nextTask)
      (he : ((takeJob task w.tasks).map fun r =>
        ({ w with tasks := r.2 }.after k th.calls (f r.1), (f r.1).note)) = some (w', note)) :
      w.Moved k w' note := by
    obtain ⟨⟨j, tasks⟩, ht, he⟩ := Option.map_eq_some_iff.mp he
    exact hmoved (takeJob_perm ht) (hf j) (congrArg some he)
  have hsame : w.tasks.Perm ((none : Option Job).toList ++ w.tasks) := List.Perm.refl _
  cases deed with
  | spawn =>
    obtain ⟨rfl, rfl⟩ := Prod.mk.inj (Option.some.inj h)
    exact .inl ⟨rfl, rfl⟩
  | create c meter => exact .inr (hmoved hsame (.request (.create c meter)) h)
  | destroy h' => exact .inr (hmoved hsame (request_moves _ _ fun _ e => .destroy e) h)
  | update h' c => exact .inr (hmoved hsame (request_moves _ _ fun _ e => .update e) h)
  | setPolicy h' policy => exact .inr (hmoved hsame (request_moves _ _ fun _ e => .setPolicy e) h)
  | scope h' => exact .inr (hmoved hsame (.scope h') h)
  | drop task => exact .inr (htaken .drop h)
  | run h' => exact .inr (hmoved hsame (.startRun (runStart w.pool th.slot h')) h)
  | poll task => exact .inr (htaken (fun j => .startPoll (pollStart w.pool th.slot j)) h)

/-- **What a step can do.**  It starts a thread, or it is a move of one thread. -/
theorem step_cases (h : w.step k a = some (w', note)) :
    (w' = { w with threads := w.threads ++ [.fresh] } ∧ note = .quiet) ∨ w.Moved k w' note := by
  unfold step at h
  cases hth : w.threads[k]? with
  | none => rw [hth] at h; exact absurd h (by simp)
  | some th =>
    have hsame : w.tasks.Perm ((none : Option Job).toList ++ w.tasks) := List.Perm.refl _
    rw [hth] at h
    cases a with
    | perform deed =>
      simp only at h
      split at h
      · exact perform_cases hth h
      · exact absurd h (by simp)
    | next =>
      cases hc : th.calls with
      | nil => simp [hc] at h
      | cons c calls =>
        simp only [hc] at h
        obtain ⟨m, hm, he⟩ := Option.map_eq_some_iff.mp h
        obtain ⟨rfl, rfl⟩ := Prod.mk.inj he
        refine .inr (moved_after hth (c := some c) hc hsame ?_)
        cases c with
        | run target stage => exact .run (RunStage.access_of_next hm)
        | poll j stage => exact .poll (PollStage.access_of_next hm)
    | finish ending =>
      cases hc : th.calls with
      | nil => simp [hc] at h
      | cons c calls =>
        simp only [hc] at h
        obtain ⟨c', hc', he⟩ := Option.map_eq_some_iff.mp h
        obtain ⟨rfl, rfl⟩ := Prod.mk.inj he
        exact .inr (moved_after hth (c := some c) hc hsame
          (.finish (Call.finish_of_eq_some hc')))

end World

/-! ## Runs -/

namespace Run

theorem invariant {P : World → Prop} {w w' : World} {es : List Event} (h : Run w es w')
    (h₀ : P w)
    (hstep : ∀ {v v' : World} {k : Nat} {a : Act} {note : Note}, P v →
      v.step k a = some (v', note) → P v') : P w' := by
  induction h with
  | nil => exact h₀
  | cons _ hs ih => exact hstep ih hs

theorem trans {u v w : World} {es es' : List Event} (h : Run u es v) (h' : Run v es' w) :
    Run u (es' ++ es) w := by
  induction h' with
  | nil => exact h
  | cons _ hs ih => exact ih.cons hs

theorem of_replay {w w' : World} {steps : List (Nat × Act)} {es : List Event}
    (h : w.replay steps = some (es, w')) : Run w es w' := by
  induction steps generalizing w es with
  | nil =>
    obtain ⟨rfl, rfl⟩ := Prod.mk.inj (Option.some.inj h)
    exact .nil
  | cons step steps ih =>
    obtain ⟨k, a⟩ := step
    simp only [World.replay] at h
    split at h
    · exact absurd h (by simp)
    · next v note hs =>
      obtain ⟨⟨es', w''⟩, hr, he⟩ := Option.map_eq_some_iff.mp h
      obtain ⟨rfl, rfl⟩ := Prod.mk.inj he
      exact (Run.nil.cons hs).trans (ih hr)

end Run

end ResourceContainers.Interleaving
