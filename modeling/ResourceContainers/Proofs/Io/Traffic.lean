import ResourceContainers.Proofs.Io.Flight
import ResourceContainers.Proofs.Io.Offloading

/-!
# Dispatches that run past one another

All dispatches of a gate, those that are over and those that are not, and the counters that they
share.  In one step somebody starts a dispatch, or one dispatch takes a step of its own.  So between
two steps of a dispatch anything may happen in all others, and more may be started: by other
threads, by an adapter that has the work of the dispatch, by the operation that the dispatch
executes.

* `Gate.Traffic`, `Gate.Traffic.Step`, `Gate.Traffic.Steps`: what there is, and what can happen.
* `Gate.Traffic.Answers`: what a dispatch comes to, whatever happens elsewhere.
* `Gate.Traffic.Steps.counter_eq`: the counters show the charges of all dispatches.
* `Gate.Traffic.steps_dispatch`: a dispatch that nothing comes in between of is what `Gate.dispatch`
  does.
-/

namespace ResourceContainers.Gate

variable {α : Type}

/-- What an act does to the counters. -/
def Act.addTo (m : Metrics) : Act α → Metrics
  | charged c => c.addTo m
  | _ => m

/-- The dispatches of a gate in the order in which they were started, and the counters. -/
structure Traffic (α : Type) where
  metrics : Metrics
  flights : List (Flight α)

namespace Traffic

/-- A step that can be taken at a gate: a dispatch is started, which finds an active adapter or does
not, or the dispatch with the number `i` takes a step. -/
inductive Step : Traffic α → Traffic α → Prop
  | begin (w : Traffic α) (path : DispatchPath) :
      Step w ⟨w.metrics, w.flights ++ [.begin path]⟩
  | act {w : Traffic α} {i : Nat} {x : Flight α} (hx : w.flights[i]? = some x) {a : Act α}
      {stage : Stage α} (h : Stage.Step x.path x.stage a stage) :
      Step w ⟨a.addTo w.metrics, w.flights.set i (x.act h)⟩

/-- `Steps w w'`: steps lead from `w` to `w'`. -/
inductive Steps (w : Traffic α) : Traffic α → Prop
  | refl : Steps w w
  | tail {v v' : Traffic α} (h : Steps w v) (hs : Step v v') : Steps w v'

theorem Step.steps {w v : Traffic α} (h : Step w v) : w.Steps v := .tail .refl h

theorem Steps.trans {u v w : Traffic α} (h : u.Steps v) (h' : v.Steps w) : u.Steps w := by
  induction h' with
  | refl => exact h
  | tail _ hs ih => exact .tail ih hs

/-! ## Answers -/

/-- The dispatch with the number `i` is over. -/
def Answered (w : Traffic α) (i : Nat) (ending : Ending (Except IoError α)) : Prop :=
  ∃ x, w.flights[i]? = some x ∧ x.stage = .closed ending

/-- The answer of the dispatch with the number `i` is settled. -/
def Settled (w : Traffic α) (i : Nat) (ending : Ending (Except IoError α)) : Prop :=
  ∃ x, w.flights[i]? = some x ∧ x.stage.answer? = some ending

/-- The dispatch with the number `i` can be over with `ending`, and whenever it is over, now or
later, it is with `ending`. -/
def Answers (w : Traffic α) (i : Nat) (ending : Ending (Except IoError α)) : Prop :=
  (∃ w', w.Steps w' ∧ w'.Answered i ending) ∧
    ∀ w' ending', w.Steps w' → w'.Answered i ending' → ending' = ending

theorem Answered.settled {w : Traffic α} {i : Nat} {ending : Ending (Except IoError α)}
    (h : w.Answered i ending) : w.Settled i ending := by
  obtain ⟨x, hx, hstage⟩ := h
  exact ⟨x, hx, by rw [hstage]; rfl⟩

theorem Settled.step {w v : Traffic α} (hs : Step w v) {i : Nat}
    {ending : Ending (Except IoError α)} (h : w.Settled i ending) : v.Settled i ending := by
  obtain ⟨x, hx, hanswer⟩ := h
  have hi : i < w.flights.length := (List.getElem?_eq_some_iff.mp hx).1
  cases hs with
  | begin path => exact ⟨x, by rw [List.getElem?_append_left hi, hx], hanswer⟩
  | @act j y hy a stage hstep =>
    by_cases hij : j = i
    · subst hij
      obtain rfl := Option.some.inj (hx.symm.trans hy)
      exact ⟨x.act hstep, List.getElem?_set_self hi, hstep.answer_stays hanswer⟩
    · exact ⟨x, by rw [List.getElem?_set_ne hij, hx], hanswer⟩

theorem Settled.steps {w v : Traffic α} (hs : w.Steps v) {i : Nat}
    {ending : Ending (Except IoError α)} (h : w.Settled i ending) : v.Settled i ending := by
  induction hs with
  | refl => exact h
  | tail _ hs ih => exact ih.step hs

/-- A dispatch whose answer is settled needs nobody else to be over. -/
theorem Settled.exists_answered {w : Traffic α} {i : Nat} {ending : Ending (Except IoError α)}
    (h : w.Settled i ending) : ∃ w', w.Steps w' ∧ w'.Answered i ending := by
  obtain ⟨⟨path, past, stage, after⟩, hx, hanswer⟩ := h
  have hi : i < w.flights.length := (List.getElem?_eq_some_iff.mp hx).1
  cases stage with
  | closed e =>
    obtain rfl : e = ending := Option.some.inj hanswer
    exact ⟨w, .refl, _, hx, rfl⟩
  | closing rest =>
    obtain ⟨charges, e⟩ := rest
    obtain rfl : e = ending := Option.some.inj hanswer
    induction charges generalizing w past with
    | nil =>
      have hstep := Step.act hx (.answer e)
      exact ⟨_, hstep.steps, _, List.getElem?_set_self hi, rfl⟩
    | cons c charges ih =>
      have hstep := Step.act hx (.charge c charges e)
      obtain ⟨w', hsteps, hanswered⟩ := ih (w := ⟨c.addTo w.metrics, w.flights.set i _⟩)
        (.charged c :: past) (by rw [List.length_set]; exact hi) (after.act (.charge c charges e))
        (List.getElem?_set_self hi) rfl
      exact ⟨w', hstep.steps.trans hsteps, hanswered⟩
  | _ => exact absurd hanswer (by simp [Stage.answer?])

/-- **What is settled is what the caller gets.** -/
theorem Settled.answers {w : Traffic α} {i : Nat} {ending : Ending (Except IoError α)}
    (h : w.Settled i ending) : w.Answers i ending := by
  refine ⟨h.exists_answered, fun w' ending' hsteps hanswered => ?_⟩
  obtain ⟨x, hx, hanswer⟩ := h.steps hsteps
  obtain ⟨y, hy, hstage⟩ := hanswered
  obtain rfl := Option.some.inj (hx.symm.trans hy)
  rw [hstage] at hanswer
  exact Option.some.inj hanswer

end Traffic

/-! ## Counters -/

/-- How many charges of a dispatch went to a counter. -/
def Flight.charged (x : Flight α) (k : Metrics.Counter) : Nat := x.charges.countP (·.counter = k)

theorem Flight.charged_act (m : Metrics) {x : Flight α} {a : Act α} {stage : Stage α}
    (h : Stage.Step x.path x.stage a stage) (k : Metrics.Counter) :
    ∃ n, (x.act h).charged k = x.charged k + n ∧
      (a.addTo m).counter k = m.counter k + UInt64.ofNat n := by
  cases a with
  | charged c =>
    refine ⟨if c.counter = k then 1 else 0, ?_, ?_⟩
    · simp [charged, charges, act, Act.charge?, List.countP_cons]
    · rw [Act.addTo, c.counter_addTo m k]
      split <;> rfl
  | _ => exact ⟨0, rfl, by simp [Act.addTo]⟩

namespace Traffic

/-- How many charges went to a counter. -/
def charged (w : Traffic α) (k : Metrics.Counter) : Nat :=
  w.flights.foldr (fun x n => x.charged k + n) 0

end Traffic

theorem foldr_set {β : Type} (f : β → Nat) {l : List β} {i : Nat} {x y : β} {n : Nat}
    (hx : l[i]? = some x) (hy : f y = f x + n) :
    (l.set i y).foldr (fun x n => f x + n) 0 = l.foldr (fun x n => f x + n) 0 + n := by
  induction l generalizing i with
  | nil => exact absurd hx (by simp)
  | cons b l ih =>
    cases i with
    | zero =>
      obtain rfl := Option.some.inj hx
      simp only [List.set_cons_zero, List.foldr_cons, hy]
      omega
    | succ i =>
      simp only [List.set_cons_succ, List.foldr_cons, ih (i := i) hx]
      omega

namespace Traffic

theorem Step.counter {w v : Traffic α} (h : Step w v) (k : Metrics.Counter) :
    ∃ n, v.charged k = w.charged k + n ∧
      v.metrics.counter k = w.metrics.counter k + UInt64.ofNat n := by
  cases h with
  | begin path =>
    exact ⟨0, by simp [charged, Flight.charged, Flight.charges, Flight.begin], by simp⟩
  | @act i x hx a stage hstep =>
    obtain ⟨n, hcharged, hcounter⟩ := Flight.charged_act w.metrics hstep k
    exact ⟨n, foldr_set (Flight.charged · k) hx hcharged, hcounter⟩

/-- **A counter shows the charges that went to it**, and what it showed before the first
dispatch. -/
theorem Steps.counter_eq {m : Metrics} {w : Traffic α} (h : Steps ⟨m, []⟩ w)
    (k : Metrics.Counter) : w.metrics.counter k = m.counter k + UInt64.ofNat (w.charged k) := by
  induction h with
  | refl => simp [charged]
  | tail _ hs ih =>
    obtain ⟨n, hcharged, hcounter⟩ := hs.counter k
    rw [hcounter, ih, hcharged, UInt64.ofNat_add, UInt64.add_assoc]

/-! ## Undisturbed dispatches -/

theorem Step.last (m : Metrics) (before : List (Flight α)) {x : Flight α} {a : Act α}
    {stage : Stage α} (h : Stage.Step x.path x.stage a stage) :
    Step ⟨m, before ++ [x]⟩ ⟨a.addTo m, before ++ [x.act h]⟩ := by
  have hx : (before ++ [x])[before.length]? = some x := by simp
  have hstep := Step.act (w := ⟨m, before ++ [x]⟩) hx h
  rwa [List.set_append_right _ _ (Nat.le_refl _), Nat.sub_self, List.set_cons_zero] at hstep

theorem exists_steps_last (m : Metrics) (before : List (Flight α)) (x : Flight α) :
    ∃ m', Steps ⟨m, before ++ [.begin x.path]⟩ ⟨m', before ++ [x]⟩ := by
  obtain ⟨path, past, stage, after⟩ := x
  induction after with
  | waiting => exact ⟨m, .refl⟩
  | act h hstep ih =>
    obtain ⟨m', hsteps⟩ := ih
    exact ⟨_, hsteps.tail (Step.last m' before hstep)⟩

/-- Any dispatches can come about at a gate. -/
theorem exists_steps (m : Metrics) (before after : List (Flight α)) :
    ∃ m', Steps ⟨m, before⟩ ⟨m', before ++ after⟩ := by
  induction after generalizing m before with
  | nil => exact ⟨m, by rw [List.append_nil]; exact .refl⟩
  | cons x after ih =>
    have hbegin := (Step.begin ⟨m, before⟩ x.path).steps
    obtain ⟨m', hlast⟩ := exists_steps_last m before x
    obtain ⟨m'', hrest⟩ := ih m' (before ++ [x])
    rw [List.append_assoc, List.singleton_append] at hrest
    exact ⟨m'', hbegin.trans (hlast.trans hrest)⟩

end Traffic

/-- `x.Continues y`: the dispatch `y` comes after `x`, and nothing was executed meanwhile. -/
structure Flight.Continues (x y : Flight α) : Prop where
  path : y.path = x.path
  executions : y.executions = x.executions
  endings : y.endings = x.endings

namespace Traffic

/-- The last dispatch makes its charges and is over. -/
theorem steps_closing (before : List (Flight α)) (x : Flight α) (c : Closing α)
    (hstage : x.stage = .closing c) (m : Metrics) :
    ∃ y : Flight α, x.Continues y ∧ y.verdicts = x.verdicts ∧ y.stage = .closed c.ending ∧
      Steps ⟨m, before ++ [x]⟩ ⟨c.charges.foldl Charge.addTo m, before ++ [y]⟩ := by
  obtain ⟨charges, ending⟩ := c
  induction charges generalizing x m with
  | nil =>
    have h : Stage.Step x.path x.stage (.answered ending) (.closed ending) := by
      rw [hstage]
      exact .answer ending
    exact ⟨x.act h, ⟨rfl, rfl, rfl⟩, rfl, rfl, (Step.last m before h).steps⟩
  | cons c charges ih =>
    have h : Stage.Step x.path x.stage (.charged c) (.closing ⟨charges, ending⟩) := by
      rw [hstage]
      exact .charge c charges ending
    obtain ⟨y, hy, hverdicts, hover, hsteps⟩ := ih (x.act h) (c.addTo m) rfl
    exact ⟨y, ⟨hy.path, hy.executions, hy.endings⟩, hverdicts, hover,
      (Step.last m before h).steps.trans hsteps⟩

end Traffic

section Undisturbed

variable {σ : Type}

/-- An operation that notes where it is executed. -/
def noted (op : Call σ α) : Call (List Place × σ) α :=
  fun place s => ((op place s.2).1, (place :: s.1, (op place s.2).2))

/-- The path of a dispatch. -/
def pathOf : Option Conduct → DispatchPath
  | none => .direct
  | some _ => .offloaded

/-- How an adapter goes on when the work has ended. -/
def next (returned : Conduct) (panicked : String → Conduct) : Ending (Except IoError α) → Conduct
  | .returned _ => returned
  | .panicked message => panicked message

/-- Work that is called is executed, and calling it again does nothing. -/
theorem follow_call (place : Place) (returned : Conduct) (panicked : String → Conduct)
    (op : Call σ α) (s : σ) :
    (Conduct.call place returned panicked).follow (.ofCall op s) =
      ((next returned panicked (op place s).1).verdict,
        ⟨none, (op place s).1.result?, (op place s).2⟩) := by
  rw [Conduct.follow]
  rcases hop : op place s with ⟨result | message, s'⟩
  · have hrun : (Submission.ofCall op s).run place = (none, ⟨none, some result, s'⟩) := by
      simp [Submission.run, Submission.ofCall, hop]
    rw [hrun]
    exact returned.follow_of_done rfl
  · have hrun : (Submission.ofCall op s).run place = (some message, ⟨none, none, s'⟩) := by
      simp [Submission.run, Submission.ofCall, hop]
    rw [hrun]
    exact (panicked message).follow_of_done rfl

namespace Traffic

variable (m : Metrics) (before : List (Flight α))

/-- The adapter of the last dispatch has executed the operation, and does what is left to do. -/
theorem steps_verdict (c : Conduct) {x : Flight α} {ending : Ending (Except IoError α)}
    (hpath : x.path = .offloaded) (hstage : x.stage = .executed ending) :
    ∃ y : Flight α, x.Continues y ∧ y.verdicts = c.verdict :: x.verdicts ∧
      y.stage = .closing (closeOffloaded c.verdict ending.result?) ∧
      Steps ⟨m, before ++ [x]⟩ ⟨m, before ++ [y]⟩ := by
  induction c generalizing x with
  | give result =>
    have h : Stage.Step x.path x.stage (.judged (.returned result))
        (.closing (closeOffloaded (.returned result) ending.result?)) := by
      rw [hpath, hstage]
      exact .judgeExecuted ending _
    exact ⟨x.act h, ⟨rfl, rfl, rfl⟩, rfl, rfl, (Step.last m before h).steps⟩
  | panic message =>
    have h : Stage.Step x.path x.stage (.judged (.panicked message))
        (.closing (closeOffloaded (.panicked message) ending.result?)) := by
      rw [hpath, hstage]
      exact .judgeExecuted ending _
    exact ⟨x.act h, ⟨rfl, rfl, rfl⟩, rfl, rfl, (Step.last m before h).steps⟩
  | call place returned panicked ih _ =>
    have h : Stage.Step x.path x.stage (.recalled place) (.executed ending) := by
      rw [hpath, hstage]
      exact .again ending place
    obtain ⟨y, hy, hverdicts, hclosing, hsteps⟩ := ih (x := x.act h) hpath rfl
    exact ⟨y, ⟨hy.path, hy.executions, hy.endings⟩, hverdicts, hclosing,
      (Step.last m before h).steps.trans hsteps⟩

/-- The adapter of a new dispatch has the work, and does all it does. -/
theorem steps_follow (c : Conduct) (op : Call σ α) (s : σ) :
    ∃ y : Flight α, y.path = .offloaded ∧
      y.executions = (c.follow (.ofCall (noted op) ([], s))).2.state.1 ∧
      y.endings = y.executions.map (fun place => (op place s).1) ∧
      y.verdicts = [(c.follow (.ofCall op s)).1] ∧
      y.stage = .closing (closeOffloaded (c.follow (.ofCall op s)).1
        (c.follow (.ofCall op s)).2.outcome) ∧
      Steps ⟨m, before ++ [.begin .offloaded]⟩ ⟨m, before ++ [y]⟩ := by
  let x : Flight α := .begin .offloaded
  have hjudge (verdict : Ending (Except IoError Unit)) : Stage.Step x.path x.stage
      (.judged verdict) (.closing (closeOffloaded verdict none)) := .judgeWaiting verdict
  cases c with
  | give result =>
    have hstep := hjudge (.returned result)
    exact ⟨x.act hstep, rfl, rfl, rfl, rfl, rfl, (Step.last m before hstep).steps⟩
  | panic message =>
    have hstep := hjudge (.panicked message)
    exact ⟨x.act hstep, rfl, rfl, rfl, rfl, rfl, (Step.last m before hstep).steps⟩
  | call place returned panicked =>
    have hstart : Stage.Step x.path x.stage (.started place) .executing := .start nofun
    have hfinish : Stage.Step (x.act hstart).path (x.act hstart).stage
        (.finished (op place s).1) (.executed (op place s).1) := .finishOffloaded _
    obtain ⟨y, hy, hverdicts, hclosing, hsteps⟩ := steps_verdict m before
      (next returned panicked (op place s).1) (x := (x.act hstart).act hfinish) rfl rfl
    refine ⟨y, hy.path, ?_, ?_, ?_, ?_, (Step.last m before hstart).steps.trans
      ((Step.last m before hfinish).steps.trans hsteps)⟩
    · rw [hy.executions, follow_call]
      rfl
    · rw [hy.executions, hy.endings]
      rfl
    · rw [hverdicts, follow_call]
      rfl
    · rw [follow_call]
      exact hclosing

/-- **An undisturbed dispatch.**  What `Gate.dispatch` does to an operation, to the counters and to
its caller is what happens in a new dispatch that nothing comes in between of.  Its adapter, if it
has one, ends as it is told to. -/
theorem steps_dispatch (w : Traffic α) (active : Option Conduct) (op : Call σ α) (s : σ) :
    ∃ x : Flight α, x.path = pathOf active ∧
      x.executions = (dispatch w.metrics active (noted op) ([], s)).state.1 ∧
      x.endings = x.executions.map (fun place => (op place s).1) ∧
      x.verdicts = (active.map fun c => (c.follow (.ofCall op s)).1).toList ∧
      x.stage = .closed (dispatch w.metrics active op s).ending ∧
      w.Steps ⟨(dispatch w.metrics active op s).metrics, w.flights ++ [x]⟩ := by
  have hbegin := (Step.begin w (pathOf active)).steps
  cases active with
  | none =>
    let start : Flight α := .begin .direct
    have hstart : Stage.Step start.path start.stage (.started .same) .executing :=
      .start fun _ => rfl
    have hfinish : Stage.Step (start.act hstart).path .executing (.finished (op .same s).1)
        (.closing (closeDirect (op .same s).1)) := .finishDirect _
    let x := (start.act hstart).act hfinish
    obtain ⟨y, hy, hverdicts, hover, hsteps⟩ :=
      steps_closing w.flights x (closeDirect (op .same s).1) rfl w.metrics
    have hexecuted : Steps ⟨w.metrics, w.flights ++ [start]⟩ ⟨w.metrics, w.flights ++ [x]⟩ :=
      (Step.last w.metrics w.flights hstart).steps.trans
        (Step.last w.metrics w.flights (x := start.act hstart) hfinish).steps
    simp only [dispatch, direct_eq_closed]
    exact ⟨y, hy.path, hy.executions, by rw [hy.endings, hy.executions]; rfl, hverdicts, hover,
      hbegin.trans (hexecuted.trans hsteps)⟩
  | some c =>
    obtain ⟨x, hpath, hruns, hends, hjudged, hclosing, hfollow⟩ :=
      steps_follow w.metrics w.flights c op s
    obtain ⟨y, hy, hverdicts, hover, hsteps⟩ := steps_closing w.flights x _ hclosing w.metrics
    simp only [dispatch, offload_eq_closed]
    exact ⟨y, hy.path.trans hpath, hy.executions.trans hruns,
      by rw [hy.endings, hends, hy.executions], hverdicts.trans hjudged, hover,
      hbegin.trans (hfollow.trans hsteps)⟩

end Traffic

end Undisturbed

end ResourceContainers.Gate
