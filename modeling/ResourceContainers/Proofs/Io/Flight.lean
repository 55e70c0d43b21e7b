import ResourceContainers.Io.Gate

/-!
# One dispatch, step by step

`Gate.dispatch` lets an operation run, or lets an adapter do all it wants with the work, and then
counts and gives back an answer.  Nothing comes in between.  In a gate that is in use a lot does: an
adapter that has the work of one dispatch may start others, use the work inside their operations,
put other adapters in its place, and other threads use the gate meanwhile.

So here a dispatch is cut into single steps, and it carries the history of what happened in it.  An
adapter is code that this library does not know, and nothing is said about which steps it takes.
What the language says is said: the work is lent to one caller at a time and only until the adapter
is through, and without an adapter the operation is executed on the calling thread.

* `Gate.Charge`, `Gate.Closing`: what is added to a counter, and what is left to do for a dispatch
  once everything is executed.
* `Gate.direct_eq_closed`, `Gate.offload_eq_closed`: `Gate.dispatch` ends with such a closing.
* `Gate.Stage.Step`: a step of a dispatch.
* `Gate.Flight`: a dispatch with its history.
* `Gate.After.history`: what histories look like.
-/

namespace ResourceContainers

variable {α : Type}

/-- What a counter shows. -/
def Metrics.counter (m : Metrics) : Counter → UInt64
  | .directOperations => m.direct.operations
  | .directNanoseconds => m.direct.nanoseconds
  | .offloadedOperations => m.offloaded.operations
  | .offloadedNanoseconds => m.offloaded.nanoseconds
  | .adapterFailures => m.adapterFailures
  | .ioErrors => m.ioErrors

namespace Gate

/-! ## What is counted -/

/-- What a dispatch adds to the counters of its gate. -/
inductive Charge
  | operation (path : DispatchPath)
  | adapterFailure
  | ioError
  deriving DecidableEq, Repr

namespace Charge

/-- The counter that a charge goes to. -/
def counter : Charge → Metrics.Counter
  | operation .direct => .directOperations
  | operation .offloaded => .offloadedOperations
  | adapterFailure => .adapterFailures
  | ioError => .ioErrors

/-- Adds a charge to the counters. -/
def addTo (m : Metrics) : Charge → Metrics
  | operation path => m.clock path
  | adapterFailure => m.adapterFailure
  | ioError => m.ioError

theorem counter_addTo (m : Metrics) (c : Charge) (k : Metrics.Counter) :
    (c.addTo m).counter k = m.counter k + if c.counter = k then 1 else 0 := by
  cases c with
  | operation path => cases path <;> cases k <;> simp [addTo, counter, Metrics.counter,
      Metrics.clock, Metrics.onPath, PathMetrics.clock]
  | adapterFailure => cases k <;> simp [addTo, counter, Metrics.counter, Metrics.adapterFailure]
  | ioError => cases k <;> simp [addTo, counter, Metrics.counter, Metrics.ioError]

end Charge

/-! ## How a dispatch is closed -/

/-- What is left to do for a dispatch: charges to make, and then an answer to give. -/
structure Closing (α : Type) where
  charges : List Charge
  ending : Ending (Except IoError α)

/-- The charges for what an operation gave. -/
def chargesFor : Except IoError α → List Charge
  | .ok _ => []
  | .error _ => [.ioError]

/-- What is left to do when the calling thread has executed the operation. -/
def closeDirect : Ending (Except IoError α) → Closing α
  | .returned result => ⟨.operation .direct :: chargesFor result, .returned result⟩
  | .panicked message => ⟨[.operation .direct], .panicked message⟩

/-- What is left to do when the adapter is through, given what it says and what the operation gave,
if it gave anything. -/
def closeOffloaded : Ending (Except IoError Unit) → Option (Except IoError α) → Closing α
  | .panicked message, _ => ⟨[.operation .offloaded], .panicked message⟩
  | .returned (.error e), _ => ⟨[.operation .offloaded, .adapterFailure], .returned (.error e)⟩
  | .returned (.ok ()), some result =>
    ⟨.operation .offloaded :: chargesFor result, .returned result⟩
  | .returned (.ok ()), none =>
    ⟨[.operation .offloaded, .adapterFailure, .ioError], .returned (.error notRun)⟩

/-- What a dispatch leaves behind that is closed at once. -/
def Closing.dispatched {σ : Type} (c : Closing α) (m : Metrics) (s : σ) : Dispatched σ α :=
  ⟨c.ending, c.charges.foldl Charge.addTo m, s⟩

theorem direct_eq_closed {σ : Type} (m : Metrics) (op : Call σ α) (s : σ) :
    direct m op s = (closeDirect (op .same s).1).dispatched m (op .same s).2 := by
  unfold direct
  split
  · next message s' hop => simp [hop, closeDirect, Closing.dispatched, Charge.addTo]
  · next result s' hop =>
    cases result <;>
      simp [hop, closeDirect, chargesFor, countFailure, Closing.dispatched, Charge.addTo]

theorem offload_eq_closed {σ : Type} (m : Metrics) (c : Conduct) (op : Call σ α) (s : σ) :
    offload m c op s =
      (closeOffloaded (c.follow (.ofCall op s)).1 (c.follow (.ofCall op s)).2.outcome).dispatched m
        (c.follow (.ofCall op s)).2.state := by
  unfold offload
  split
  · next message w hw => simp [hw, closeOffloaded, Closing.dispatched, Charge.addTo]
  · next e w hw => simp [hw, closeOffloaded, Closing.dispatched, Charge.addTo]
  · next w hw =>
    cases hout : w.outcome with
    | none => simp [hw, hout, closeOffloaded, Closing.dispatched, Charge.addTo]
    | some result =>
      cases result <;>
        simp [hw, hout, closeOffloaded, chargesFor, countFailure, Closing.dispatched, Charge.addTo]

/-! ## Steps -/

/-- How far a dispatch has come.  When the operation is over the adapter still has the work; then
the gate has all it needs, and in the end the caller has the answer. -/
inductive Stage (α : Type)
  | waiting
  | executing
  | executed (ending : Ending (Except IoError α))
  | closing (rest : Closing α)
  | closed (ending : Ending (Except IoError α))

/-- What can happen in a dispatch.  The operation starts to be executed and ends, the adapter calls
the work when the operation is over, and the adapter ends with a verdict. -/
inductive Act (α : Type)
  | started (place : Place)
  | finished (ending : Ending (Except IoError α))
  | recalled (place : Place)
  | judged (verdict : Ending (Except IoError Unit))
  | charged (c : Charge)
  | answered (ending : Ending (Except IoError α))

/-- A step of a dispatch that took the path `path`. -/
inductive Stage.Step : DispatchPath → Stage α → Act α → Stage α → Prop
  | start {path : DispatchPath} {place : Place} (h : path = .direct → place = .same) :
      Step path .waiting (.started place) .executing
  | finishDirect (ending : Ending (Except IoError α)) :
      Step .direct .executing (.finished ending) (.closing (closeDirect ending))
  | finishOffloaded (ending : Ending (Except IoError α)) :
      Step .offloaded .executing (.finished ending) (.executed ending)
  | again (ending : Ending (Except IoError α)) (place : Place) :
      Step .offloaded (.executed ending) (.recalled place) (.executed ending)
  | judgeWaiting (verdict : Ending (Except IoError Unit)) :
      Step .offloaded .waiting (.judged verdict) (.closing (closeOffloaded verdict none))
  | judgeExecuted (ending : Ending (Except IoError α)) (verdict : Ending (Except IoError Unit)) :
      Step .offloaded (.executed ending) (.judged verdict)
        (.closing (closeOffloaded verdict ending.result?))
  | charge {path : DispatchPath} (c : Charge) (charges : List Charge)
      (ending : Ending (Except IoError α)) :
      Step path (.closing ⟨c :: charges, ending⟩) (.charged c) (.closing ⟨charges, ending⟩)
  | answer {path : DispatchPath} (ending : Ending (Except IoError α)) :
      Step path (.closing ⟨[], ending⟩) (.answered ending) (.closed ending)

/-- What the caller gets, once that is settled. -/
def Stage.answer? : Stage α → Option (Ending (Except IoError α))
  | .closing rest => some rest.ending
  | .closed ending => some ending
  | _ => none

theorem Stage.Step.answer_stays {path : DispatchPath} {stage stage' : Stage α} {a : Act α}
    (h : Stage.Step path stage a stage') {ending : Ending (Except IoError α)}
    (hanswer : stage.answer? = some ending) : stage'.answer? = some ending := by
  cases h with
  | charge c charges e => exact hanswer
  | answer e => exact hanswer
  | _ => exact absurd hanswer (by simp [Stage.answer?])

/-! ## Courses -/

/-- What can happen in a dispatch until the gate has all it needs.  The calling thread executes the
operation, or the adapter ends and has not used the work, or it uses the work, which executes the
operation, uses it again perhaps, and ends. -/
inductive Course (α : Type)
  | direct (ending : Ending (Except IoError α))
  | unused (verdict : Ending (Except IoError Unit))
  | used (place : Place) (ending : Ending (Except IoError α)) (again : List Place)
      (verdict : Ending (Except IoError Unit))

namespace Course

/-- The path of a dispatch that takes a course. -/
def path : Course α → DispatchPath
  | direct _ => .direct
  | unused _ | used _ _ _ _ => .offloaded

/-- What has happened when a course is taken, the newest first. -/
def acts : Course α → List (Act α)
  | direct ending => [.finished ending, .started .same]
  | unused verdict => [.judged verdict]
  | used place ending again verdict =>
    .judged verdict :: (again.map .recalled ++ [.finished ending, .started place])

/-- What is left to do when a course is taken. -/
def closing : Course α → Closing α
  | direct ending => closeDirect ending
  | unused verdict => closeOffloaded verdict none
  | used _ ending _ verdict => closeOffloaded verdict ending.result?

/-- Where the operation is executed. -/
def executions : Course α → List Place
  | direct _ => [.same]
  | unused _ => []
  | used place _ _ _ => [place]

/-- How the operation ends, if it is executed. -/
def ending? : Course α → Option (Ending (Except IoError α))
  | direct ending | used _ ending _ _ => some ending
  | unused _ => none

/-- How the adapter ends, if there is one. -/
def verdict? : Course α → Option (Ending (Except IoError Unit))
  | direct _ => none
  | unused verdict | used _ _ _ verdict => some verdict

end Course

/-! ## Histories -/

/-- `After path past stage`: the steps `past`, the newest first, lead a dispatch that took the path
`path` to `stage`. -/
inductive After (path : DispatchPath) : List (Act α) → Stage α → Prop
  | waiting : After path [] .waiting
  | act {past : List (Act α)} {stage stage' : Stage α} {a : Act α} (h : After path past stage)
      (hstep : Stage.Step path stage a stage') : After path (a :: past) stage'

/-- What has happened in a dispatch that has come to a stage. -/
inductive History (path : DispatchPath) : List (Act α) → Stage α → Prop
  | waiting : History path [] .waiting
  | executing {place : Place} (h : path = .direct → place = .same) :
      History path [.started place] .executing
  | executed (place : Place) (ending : Ending (Except IoError α)) (again : List Place)
      (h : path = .offloaded) :
      History path (again.map .recalled ++ [.finished ending, .started place]) (.executed ending)
  | closing (c : Course α) {made left : List Charge} (h : path = c.path)
      (hcharges : c.closing.charges = made ++ left) :
      History path (made.reverse.map .charged ++ c.acts) (.closing ⟨left, c.closing.ending⟩)
  | closed (c : Course α) (h : path = c.path) :
      History path
        (.answered c.closing.ending :: (c.closing.charges.reverse.map .charged ++ c.acts))
        (.closed c.closing.ending)

/-- A course was taken, and no charge was made yet. -/
theorem History.settled {path : DispatchPath} (c : Course α) (h : path = c.path) :
    History path c.acts (.closing c.closing) :=
  .closing c h (List.nil_append _).symm

/-- The operation is executed once, if it is executed at all, then come the charges that are due,
and then the answer. -/
theorem After.history {path : DispatchPath} {past : List (Act α)} {stage : Stage α}
    (h : After path past stage) : History path past stage := by
  induction h with
  | waiting => exact .waiting
  | act h hstep ih =>
    cases hstep with
    | start hplace =>
      cases ih with
      | waiting => exact .executing hplace
    | finishDirect ending =>
      cases ih with
      | executing hplace =>
        obtain rfl := hplace rfl
        exact .settled (.direct ending) rfl
    | finishOffloaded ending =>
      cases ih with
      | executing hplace => exact .executed _ ending [] rfl
    | again ending place =>
      cases ih with
      | executed start ending again hpath => exact .executed start ending (place :: again) hpath
    | judgeWaiting verdict =>
      cases ih with
      | waiting => exact .settled (.unused verdict) rfl
    | judgeExecuted ending verdict =>
      cases ih with
      | executed start ending again =>
        exact .settled (.used start ending again verdict) rfl
    | charge c charges ending =>
      cases ih with
      | @closing course made _ hpath hcharges =>
        have hmade : course.closing.charges = (made ++ [c]) ++ charges := by simp [hcharges]
        simpa using History.closing course hpath hmade
    | answer ending =>
      cases ih with
      | @closing course made _ hpath hcharges =>
        obtain rfl : course.closing.charges = made := by simpa using hcharges
        exact .closed course hpath

/-! ## Dispatches -/

/-- A dispatch: the path that it took, what has happened in it, the newest first, and how far it has
come. -/
structure Flight (α : Type) where
  path : DispatchPath
  past : List (Act α)
  stage : Stage α
  after : After path past stage

namespace Act

/-- Where the operation starts to be executed, if an act is that. -/
def start? : Act α → Option Place
  | started place => some place
  | _ => none

/-- How the operation ends, if an act is that. -/
def ending? : Act α → Option (Ending (Except IoError α))
  | finished ending => some ending
  | _ => none

/-- How the adapter ends, if an act is that. -/
def verdict? : Act α → Option (Ending (Except IoError Unit))
  | judged verdict => some verdict
  | _ => none

/-- The charge that is made, if an act is that. -/
def charge? : Act α → Option Charge
  | charged c => some c
  | _ => none

end Act

namespace Flight

/-- A dispatch that has just looked for an active adapter. -/
def begin (path : DispatchPath) : Flight α := ⟨path, [], .waiting, .waiting⟩

/-- A dispatch after one more step. -/
def act (x : Flight α) {a : Act α} {stage : Stage α} (h : Stage.Step x.path x.stage a stage) :
    Flight α :=
  ⟨x.path, a :: x.past, stage, x.after.act h⟩

/-- Where the operation was executed, once for each time. -/
def executions (x : Flight α) : List Place := x.past.filterMap Act.start?

/-- How the operation ended, once for each time. -/
def endings (x : Flight α) : List (Ending (Except IoError α)) := x.past.filterMap Act.ending?

/-- How the adapter ended, once for each time. -/
def verdicts (x : Flight α) : List (Ending (Except IoError Unit)) :=
  x.past.filterMap Act.verdict?

/-- The charges that were made, the newest first. -/
def charges (x : Flight α) : List Charge := x.past.filterMap Act.charge?

/-- A dispatch took a course, and its answer is settled. -/
structure Took (x : Flight α) (c : Course α) : Prop where
  path : x.path = c.path
  executions : x.executions = c.executions
  endings : x.endings = c.ending?.toList
  verdicts : x.verdicts = c.verdict?.toList
  answer : x.stage.answer? = some c.closing.ending
  charges : ∀ ending, x.stage = .closed ending → x.charges = c.closing.charges.reverse

/-- The answer of a dispatch is not settled yet. -/
structure Open (x : Flight α) : Prop where
  executions : x.executions.length ≤ 1
  unfinished : x.path = .direct → x.endings = []
  unjudged : x.verdicts = []
  unanswered : x.stage.answer? = none

end Flight

section

variable {β γ : Type} {f : Act α → Option γ}

/-- Nothing is read off acts of a kind that shows nothing. -/
theorem filterMap_map_append {g : β → Act α} (h : ∀ b, f (g b) = none) (l : List β)
    (past : List (Act α)) : (l.map g ++ past).filterMap f = past.filterMap f := by
  induction l with
  | nil => rfl
  | cons b l ih => rw [List.map_cons, List.cons_append, List.filterMap_cons_none (h b), ih]

/-- What is read off a course in which the adapter uses the work. -/
theorem Course.filterMap_acts_used (h : ∀ place, f (.recalled place) = none) (place : Place)
    (ending : Ending (Except IoError α)) (again : List Place)
    (verdict : Ending (Except IoError Unit)) :
    (used place ending again verdict).acts.filterMap f =
      [.judged verdict, .finished ending, .started place].filterMap f := by
  rw [acts, List.filterMap_cons, filterMap_map_append h, ← List.filterMap_cons]

end

theorem filterMap_charged_append (made : List Charge) (past : List (Act α)) :
    (made.map Act.charged ++ past).filterMap Act.charge? = made ++ past.filterMap Act.charge? := by
  induction made with
  | nil => rfl
  | cons c made ih =>
    rw [List.map_cons, List.cons_append, List.filterMap_cons_some (f := Act.charge?) rfl, ih,
      List.cons_append]

namespace Course

theorem filterMap_start?_acts (c : Course α) : c.acts.filterMap Act.start? = c.executions := by
  cases c with
  | direct ending => rfl
  | unused verdict => rfl
  | used place ending again verdict => exact filterMap_acts_used (fun _ => rfl) ..

theorem filterMap_ending?_acts (c : Course α) :
    c.acts.filterMap Act.ending? = c.ending?.toList := by
  cases c with
  | direct ending => rfl
  | unused verdict => rfl
  | used place ending again verdict => exact filterMap_acts_used (fun _ => rfl) ..

theorem filterMap_verdict?_acts (c : Course α) :
    c.acts.filterMap Act.verdict? = c.verdict?.toList := by
  cases c with
  | direct ending => rfl
  | unused verdict => rfl
  | used place ending again verdict => exact filterMap_acts_used (fun _ => rfl) ..

theorem filterMap_charge?_acts (c : Course α) : c.acts.filterMap Act.charge? = [] := by
  cases c with
  | direct ending => rfl
  | unused verdict => rfl
  | used place ending again verdict => exact filterMap_acts_used (fun _ => rfl) ..

end Course

namespace Flight

/-- **A dispatch is open, or it took a course.** -/
theorem open_or_took (x : Flight α) : x.Open ∨ ∃ c, x.Took c := by
  obtain ⟨path, past, stage, after⟩ := x
  cases after.history with
  | waiting => exact .inl ⟨Nat.zero_le _, fun _ => rfl, rfl, rfl⟩
  | executing hplace => exact .inl ⟨Nat.le_refl 1, fun _ => rfl, rfl, rfl⟩
  | executed place ending again hpath =>
    refine .inl ⟨?_, fun h => absurd (hpath.symm.trans h) (by simp), ?_, rfl⟩
    · rw [executions, filterMap_map_append fun _ => rfl]
      exact Nat.le_refl 1
    · exact filterMap_map_append (fun _ => rfl) ..
  | @closing c made left hpath hcharges =>
    refine .inr ⟨c, hpath, ?_, ?_, ?_, rfl, by simp⟩
    · exact (filterMap_map_append (fun _ => rfl) ..).trans c.filterMap_start?_acts
    · exact (filterMap_map_append (fun _ => rfl) ..).trans c.filterMap_ending?_acts
    · exact (filterMap_map_append (fun _ => rfl) ..).trans c.filterMap_verdict?_acts
  | closed c hpath =>
    refine .inr ⟨c, hpath, ?_, ?_, ?_, rfl, fun _ _ => ?_⟩
    · exact (filterMap_map_append (fun _ => rfl) ..).trans c.filterMap_start?_acts
    · exact (filterMap_map_append (fun _ => rfl) ..).trans c.filterMap_ending?_acts
    · exact (filterMap_map_append (fun _ => rfl) ..).trans c.filterMap_verdict?_acts
    · rw [charges, List.filterMap_cons_none rfl, filterMap_charged_append,
        c.filterMap_charge?_acts, List.append_nil]

end Flight

end Gate

end ResourceContainers
