import ResourceContainers.Files.Session
import ResourceContainers.Proofs.Io.Traffic

/-!
# What callers of a gate get

The caller of a gate gets an answer for an operation, which may have been executed or not, on the
calling thread or on another one, while all sorts of things happened at the gate.  What can be said
about the answer depends on the adapter, of which nothing is known.

* `executed_once_and_answered`: an operation is executed at most once, and what an adapter does not
  do is never reported as done.
* `answer_is_result_iff`: an operation that was executed has its own result as the answer, except
  where the adapter fails.

## What decides

A dispatch whose answer is settled took one of three courses (`Flight.open_or_took`), and the answer
is a function of the course.  So each statement is about courses first.
-/

namespace ResourceContainers

theorem Ending.result?_eq_some {α : Type} {e : Ending α} {result : α} :
    e.result? = some result ↔ e = .returned result := by
  cases e <;> simp [Ending.result?]

namespace Gate

variable {α : Type}

/-! ## Answers of courses -/

theorem closeDirect_ending (ending : Ending (Except IoError α)) :
    (closeDirect ending).ending = ending := by
  cases ending <;> rfl

/-- Only what an operation gave is reported as done, and only if all is well with the adapter. -/
theorem closeOffloaded_ok {verdict : Ending (Except IoError Unit)}
    {given : Option (Except IoError α)} {v : α}
    (h : (closeOffloaded verdict given).ending = .returned (.ok v)) :
    verdict = .returned (.ok ()) ∧ given = some (.ok v) := by
  match verdict, given, h with
  | .returned (.ok ()), some result, h => exact ⟨rfl, congrArg some (Ending.returned.inj h)⟩
  | .returned (.ok ()), none, h => exact absurd h (by simp [closeOffloaded])
  | .returned (.error e), _, h => exact absurd h (by simp [closeOffloaded])
  | .panicked message, _, h => exact absurd h (by simp [closeOffloaded])

namespace Course

theorem executions_length_le (c : Course α) : c.executions.length ≤ 1 := by
  cases c <;> simp [executions]

theorem ok {c : Course α} {v : α} (h : c.closing.ending = .returned (.ok v)) :
    c.executions.length = 1 ∧ c.ending? = some (.returned (.ok v)) := by
  cases c with
  | direct ending => exact ⟨rfl, congrArg some ((closeDirect_ending ending).symm.trans h)⟩
  | unused verdict => exact absurd (closeOffloaded_ok h).2 (by simp)
  | used place ending again verdict =>
    exact ⟨rfl, congrArg some (Ending.result?_eq_some.mp (closeOffloaded_ok h).2)⟩

theorem closing_of_unused {c : Course α} (h : c.executions = [])
    {verdict : Ending (Except IoError Unit)} (hverdict : c.verdict? = some verdict) :
    c.closing = closeOffloaded verdict none := by
  cases c with
  | direct ending => exact absurd h (by simp [executions])
  | unused v =>
    obtain rfl : v = verdict := Option.some.inj hverdict
    rfl
  | used place ending again v => exact absurd h (by simp [executions])

theorem of_direct {c : Course α} (h : c.path = .direct) :
    c.executions = [.same] ∧ c.ending? = some c.closing.ending := by
  cases c with
  | direct ending => exact ⟨rfl, congrArg some (closeDirect_ending ending).symm⟩
  | unused verdict => exact absurd h (by simp [path])
  | used place ending again verdict => exact absurd h (by simp [path])

/-- Both the operation and the adapter of a dispatch gave something back. -/
theorem closing_of_used {c : Course α} {result : Except IoError α} {verdict : Except IoError Unit}
    (h : c.ending? = some (.returned result)) (hverdict : c.verdict? = some (.returned verdict)) :
    c.closing = closeOffloaded (.returned verdict) (some result) := by
  cases c with
  | direct ending => exact absurd hverdict (by simp [verdict?])
  | unused v => exact absurd h (by simp [ending?])
  | used place ending again v =>
    obtain rfl : ending = .returned result := Option.some.inj h
    obtain rfl : v = .returned verdict := Option.some.inj hverdict
    rfl

end Course

/-! ## Answers of dispatches -/

section

variable {w : Traffic α} {i : Nat} {x : Flight α} (hx : w.flights[i]? = some x)
include hx

theorem Flight.Took.answers {c : Course α} (h : x.Took c) : w.Answers i c.closing.ending :=
  Traffic.Settled.answers ⟨x, hx, h.answer⟩

theorem Flight.Open.not_answered (h : x.Open) (ending : Ending (Except IoError α)) :
    ¬ w.Answered i ending := by
  rintro ⟨y, hy, hover⟩
  obtain rfl := Option.some.inj (hx.symm.trans hy)
  exact absurd h.unanswered (by simp [hover, Stage.answer?])

end

namespace Traffic

/-- **A gate is sound with every adapter.**

Look at any dispatch at any moment, whatever is going on at its gate.  Its operation has been
executed at most once.  If it is over and says that all is well, with a value, then the operation
has been executed and gave that value.  If the adapter is through and the operation was never
executed, then the answer is the panic of the adapter, or the failure that the adapter gave, or a
failure of the kind `other` if the adapter says that all is well.  If there is no adapter, then the
answer is how the operation ends, which is executed on the calling thread.

What `Gate.dispatch` does is such a dispatch, from the start to the end, and its adapter is through
with what `Conduct.follow` says. -/
theorem executed_once_and_answered {w : Traffic α} {i : Nat} {x : Flight α}
    (hx : w.flights[i]? = some x) :
    x.executions.length ≤ 1 ∧
    (∀ v, w.Answered i (.returned (.ok v)) →
      x.executions.length = 1 ∧ x.endings = [.returned (.ok v)]) ∧
    (x.executions = [] →
      (∀ message, .panicked message ∈ x.verdicts → w.Answers i (.panicked message)) ∧
      (∀ e, .returned (.error e) ∈ x.verdicts → w.Answers i (.returned (.error e))) ∧
      (.returned (.ok ()) ∈ x.verdicts →
        ∃ e, e.kind = .other ∧ w.Answers i (.returned (.error e)))) ∧
    (x.path = .direct →
      (∀ ending ∈ x.endings, x.executions = [.same] ∧ w.Answers i ending) ∧
      ∀ ending, w.Answered i ending → x.executions = [.same] ∧ x.endings = [ending]) ∧
    ∀ {σ : Type} (active : Option Conduct) (op : Call σ α) (s : σ), ∃ y : Flight α,
      y.path = pathOf active ∧
      y.executions = (dispatch w.metrics active (noted op) ([], s)).state.1 ∧
      y.endings = y.executions.map (fun place => (op place s).1) ∧
      y.verdicts = (active.map fun c => (c.follow (.ofCall op s)).1).toList ∧
      y.stage = .closed (dispatch w.metrics active op s).ending ∧
      w.Steps ⟨(dispatch w.metrics active op s).metrics, w.flights ++ [y]⟩ := by
  have hdispatch {σ : Type} (active : Option Conduct) (op : Call σ α) (s : σ) :=
    steps_dispatch w active op s
  obtain hopen | ⟨c, hc⟩ := x.open_or_took
  · have hover (ending : Ending (Except IoError α)) : ¬ w.Answered i ending :=
      hopen.not_answered hx ending
    refine ⟨hopen.executions, fun v h => absurd h (hover _), fun _ => ?_, fun hpath => ?_,
      hdispatch⟩
    · simp [hopen.unjudged]
    · simp [hopen.unfinished hpath, hover]
  · have hanswers : w.Answers i c.closing.ending := hc.answers hx
    have hover {ending : Ending (Except IoError α)} (h : w.Answered i ending) :
        c.closing.ending = ending := (hanswers.2 w ending .refl h).symm
    rw [hc.executions, hc.endings, hc.verdicts, hc.path]
    refine ⟨c.executions_length_le, fun v h => ?_, fun hnone => ?_, fun hpath => ?_, hdispatch⟩
    · obtain ⟨hruns, hending⟩ := Course.ok (hover h)
      exact ⟨hruns, by rw [hending, Option.toList_some]⟩
    · have hunused {verdict : Ending (Except IoError Unit)} (h : verdict ∈ c.verdict?.toList) :
          w.Answers i (closeOffloaded verdict (none : Option (Except IoError α))).ending := by
        rw [← Course.closing_of_unused hnone (Option.mem_toList.mp h)]
        exact hanswers
      exact ⟨fun _ h => hunused h, fun _ h => hunused h, fun h => ⟨notRun, rfl, hunused h⟩⟩
    · obtain ⟨hruns, hending⟩ := Course.of_direct hpath
      rw [hending, Option.toList_some]
      refine ⟨fun ending h => ?_, fun ending h => ⟨hruns, by rw [hover h]⟩⟩
      obtain rfl := List.mem_singleton.mp h
      exact ⟨hruns, hanswers⟩

/-- A dispatch whose operation gives 5 on another thread.  The adapter uses the work once more. -/
def usedTwice : Flight Nat where
  path := .offloaded
  past := [.answered (.returned (.ok 5)), .charged (.operation .offloaded),
    .judged (.returned (.ok ())), .recalled .same, .finished (.returned (.ok 5)), .started .other]
  stage := .closed (.returned (.ok 5))
  after := (((((After.waiting.act (.start (by simp))).act (.finishOffloaded _)).act
    (.again _ .same)).act (.judgeExecuted _ _)).act (.charge _ _ _)).act (.answer _)

/-- A dispatch without an adapter whose operation panics. -/
def panicking : Flight Nat where
  path := .direct
  past := [.finished (.panicked "p"), .started .same]
  stage := .closing (closeDirect (.panicked "p"))
  after := (After.waiting.act (.start fun _ => rfl)).act (.finishDirect _)

/-- A dispatch whose adapter does nothing and says that all is well. -/
def skipped : Flight Nat where
  path := .offloaded
  past := [.answered (.returned (.error notRun)), .charged .ioError, .charged .adapterFailure,
    .charged (.operation .offloaded), .judged (.returned (.ok ()))]
  stage := .closed (.returned (.error notRun))
  after := ((((After.waiting.act (.judgeWaiting _)).act (.charge _ _ _)).act (.charge _ _ _)).act
    (.charge _ _ _)).act (.answer _)

/-- Each of the three can happen at a gate, and its caller gets what it should. -/
theorem executed_once_and_answered_threeWays :
    ∃ w : Traffic Nat, Steps ⟨.zero, []⟩ w ∧ w.flights = [usedTwice, panicking, skipped] ∧
      usedTwice.executions.length ≤ 1 ∧ usedTwice.endings = [.returned (.ok 5)] ∧
      panicking.executions = [.same] ∧ w.Answers 1 (.panicked "p") ∧
      ∃ e, e.kind = .other ∧ w.Answers 2 (.returned (.error e)) := by
  obtain ⟨m, hsteps⟩ := exists_steps .zero [] [usedTwice, panicking, skipped]
  let w : Traffic Nat := ⟨m, [usedTwice, panicking, skipped]⟩
  obtain ⟨honce, hok, -⟩ := executed_once_and_answered (w := w) (i := 0) rfl
  obtain ⟨-, -, -, hdirect, -⟩ := executed_once_and_answered (w := w) (i := 1) rfl
  obtain ⟨-, -, hunused, -⟩ := executed_once_and_answered (w := w) (i := 2) rfl
  obtain ⟨hsame, hpanicked⟩ := (hdirect rfl).1 (.panicked "p") (List.mem_singleton_self _)
  exact ⟨w, hsteps, rfl, honce, (hok 5 ⟨usedTwice, rfl, rfl⟩).2, hsame, hpanicked,
    (hunused rfl).2.2 (List.mem_singleton_self _)⟩

/-- **Where the result of an operation goes.**

Take a dispatch whose adapter used the work, so that the operation gave a result, and then gave
something back itself.  The caller gets an answer, and it is the result of the operation unless the
adapter failed with a failure that is not the operation's own.  Where the adapter failed, its
failure is the answer, whatever the operation did. -/
theorem answer_is_result_iff {w : Traffic α} {i : Nat} {x : Flight α} (hx : w.flights[i]? = some x)
    {result : Except IoError α} {verdict : Except IoError Unit}
    (hresult : .returned result ∈ x.endings) (hverdict : .returned verdict ∈ x.verdicts) :
    ∃ ending, w.Answers i ending ∧
      (ending = .returned result ↔ ∀ e, verdict = .error e → result = .error e) ∧
      ∀ e, verdict = .error e → ending = .returned (.error e) := by
  obtain hopen | ⟨c, hc⟩ := x.open_or_took
  · exact absurd hverdict (by simp [hopen.unjudged])
  · rw [hc.endings, Option.mem_toList] at hresult
    rw [hc.verdicts, Option.mem_toList] at hverdict
    have hclosing : c.closing = closeOffloaded (.returned verdict) (some result) :=
      Course.closing_of_used hresult hverdict
    refine ⟨c.closing.ending, hc.answers hx, ?_, ?_⟩ <;> rw [hclosing]
    · cases verdict with
      | ok u => simp [closeOffloaded]
      | error e => simp [closeOffloaded, eq_comm]
    · rintro e rfl
      rfl

/-- A dispatch whose operation gives 5, and whose adapter fails after that. -/
def failedAfterwards : Flight Nat where
  path := .offloaded
  past := [.judged (.returned (.error (.os .brokenPipe))), .finished (.returned (.ok 5)),
    .started .other]
  stage := .closing (closeOffloaded (.returned (.error (.os .brokenPipe))) (some (.ok 5)))
  after := ((After.waiting.act (.start (by simp))).act (.finishOffloaded _)).act
    (.judgeExecuted _ _)

/-- An operation that gives 5 both times, and has that for an answer once. -/
theorem answer_is_result_iff_bothWays :
    ∃ w : Traffic Nat, Steps ⟨.zero, []⟩ w ∧ w.flights = [usedTwice, failedAfterwards] ∧
      w.Answers 0 (.returned (.ok 5)) ∧ w.Answers 1 (.returned (.error (.os .brokenPipe))) := by
  obtain ⟨m, hsteps⟩ := exists_steps .zero [] [usedTwice, failedAfterwards]
  let w : Traffic Nat := ⟨m, [usedTwice, failedAfterwards]⟩
  have hresult : .returned (.ok 5) ∈ usedTwice.endings := List.mem_singleton_self _
  have hverdict : .returned (.ok ()) ∈ usedTwice.verdicts := List.mem_singleton_self _
  have hresult' : .returned (.ok 5) ∈ failedAfterwards.endings := List.mem_singleton_self _
  have hverdict' : .returned (.error (.os .brokenPipe)) ∈ failedAfterwards.verdicts :=
    List.mem_singleton_self _
  obtain ⟨ending, hanswers, hkept, -⟩ :=
    answer_is_result_iff (w := w) (i := 0) rfl hresult hverdict
  obtain ⟨ending', hanswers', -, hfailure⟩ :=
    answer_is_result_iff (w := w) (i := 1) rfl hresult' hverdict'
  obtain rfl : ending = .returned (.ok 5) := hkept.mpr (by simp)
  obtain rfl : ending' = .returned (.error (.os .brokenPipe)) := hfailure _ rfl
  exact ⟨w, hsteps, rfl, hanswers, hanswers'⟩

end Traffic

end Gate

namespace Session

/-- A session that gets some commands, and then writes to a new file and looks at it. -/
def writeAndLook (before : List (Command Unit)) : List (Surroundings × Command Unit) :=
  before.map (.plain, ·) ++ [(.plain, .openFile "f" []),
    (.plain, .file "f" [] (.write · [97, 98, 99])), (.plain, .contents "f")]

/-- **A write that succeeded is reported as failed**: the bytes are in the file, and the caller gets
the failure of the adapter.  Without an adapter the same write gives the number of bytes. -/
theorem write_reported_as_failed :
    ((start false).runAll (writeAndLook
        [.install "x" true (.runThenFail (.words .brokenPipe "adapter shut down"))])).map (·.1) =
      [.replaced none, .done,
        .performed (.returned (.error (.words .brokenPipe "adapter shut down"))) [],
        .bytes [97, 98, 99]] ∧
    ((start false).runAll (writeAndLook [])).map (·.1) =
      [.done, .performed (.returned (.ok (.number 3))) [], .bytes [97, 98, 99]] :=
  ⟨rfl, rfl⟩

end Session

end ResourceContainers
