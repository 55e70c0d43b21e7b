import ResourceContainers.Proofs.Io.Answers

/-!
# What the failure counters of a gate show

A gate has two counters for what goes wrong: one for operations that fail and one for adapters that
do not do their work.  Here is which dispatches each of them counts, as long as an adapter either
uses the work and says that all is well, or does not use it and gives back whatever it likes.

* `Flight.failed`, `Flight.unexecuted`, `Flight.empty`: what can go wrong in a dispatch.
* `Flight.Counted`: what one dispatch is counted as.
* `Traffic.failure_counters_eq`: what the counters show in the end.

## Why one dispatch can be counted twice

A gate keeps the result of the operation aside until the adapter is through.  If there is none, and
the adapter says that all is well, then the gate makes up a failure for its caller.  It counts a
failure of the adapter, and then the failure that it has made up as one of an operation.
-/

namespace ResourceContainers

variable {α : Type}

namespace Ending

/-- Something was given back. -/
def isResult : Ending α → Bool
  | returned _ => true
  | panicked _ => false

/-- A failure was given back. -/
def isFailure : Ending (Except IoError α) → Bool
  | returned (.error _) => true
  | _ => false

/-- A success was given back. -/
def isSuccess : Ending (Except IoError α) → Bool
  | returned (.ok _) => true
  | _ => false

end Ending

namespace Gate

/-! ## What can go wrong -/

namespace Flight

/-- The operation was executed and failed. -/
def failed (x : Flight α) : Bool := x.endings.any Ending.isFailure

/-- The dispatch went to an adapter, and the operation was not executed. -/
def unexecuted (x : Flight α) : Bool := x.path = .offloaded && x.executions.isEmpty

/-- The adapter says that all is well, but the operation gave nothing back. -/
def empty (x : Flight α) : Bool :=
  x.verdicts.any Ending.isSuccess && !x.endings.any Ending.isResult

/-- The adapter uses the work and says that all is well, or does not use it and gives back whatever
it likes. -/
structure Orderly (x : Flight α) : Prop where
  returns : ∀ message, .panicked message ∉ x.verdicts
  stands : x.executions ≠ [] → ∀ e, .returned (.error e) ∉ x.verdicts

/-- The courses that orderly adapters leave. -/
theorem Took.course_of_orderly {x : Flight α} {c : Course α} (h : x.Took c) (ho : x.Orderly) :
    (∃ ending, c = .direct ending) ∨ (∃ verdict, c = .unused (.returned verdict)) ∨
      ∃ place ending again, c = .used place ending again (.returned (.ok ())) := by
  obtain ⟨hreturns, hstands⟩ := ho
  rw [h.verdicts] at hreturns
  rw [h.executions, h.verdicts] at hstands
  match c with
  | .direct ending => exact .inl ⟨ending, rfl⟩
  | .unused (.returned verdict) => exact .inr (.inl ⟨verdict, rfl⟩)
  | .unused (.panicked message) => exact absurd (List.mem_singleton_self _) (hreturns message)
  | .used place ending again (.returned (.ok ())) =>
    exact .inr (.inr ⟨place, ending, again, rfl⟩)
  | .used place ending again (.returned (.error e)) =>
    exact absurd (List.mem_singleton_self _) (hstands (List.cons_ne_nil _ _) e)
  | .used place ending again (.panicked message) =>
    exact absurd (List.mem_singleton_self _) (hreturns message)

/-- What a dispatch is counted as: as a failure of an operation, if the operation failed or there is
nothing to give to the caller, and as a failure of an adapter, if the operation was not executed or
there is nothing to give to the caller. -/
structure Counted (x : Flight α) : Prop where
  ioErrors : x.charged .ioErrors = x.failed.toNat + x.empty.toNat
  adapterFailures :
    x.charged .adapterFailures = x.unexecuted.toNat + (x.empty && !x.unexecuted).toNat
  both : (decide (0 < x.charged .ioErrors) && decide (0 < x.charged .adapterFailures)) = x.empty

theorem counted_of_orderly {x : Flight α} (ho : x.Orderly) {ending : Ending (Except IoError α)}
    (hover : x.stage = .closed ending) : x.Counted := by
  obtain hopen | ⟨c, h⟩ := x.open_or_took
  · exact absurd hopen.unanswered (by simp [hover, Stage.answer?])
  have hcharged (k : Metrics.Counter) :
      x.charged k = c.closing.charges.countP (·.counter = k) := by
    rw [charged, h.charges ending hover, List.countP_reverse]
  have hcourse := h.course_of_orderly ho
  constructor <;>
    simp only [hcharged, failed, empty, unexecuted, h.endings, h.verdicts, h.executions, h.path] <;>
    obtain ⟨ending, rfl⟩ | ⟨verdict, rfl⟩ | ⟨place, ending, again, rfl⟩ := hcourse
  all_goals first
    | rcases ending with ⟨result | e⟩ | message <;> rfl
    | cases verdict <;> rfl

end Flight

/-! ## The counters -/

theorem foldr_eq_countP {β : Type} {f : β → Nat} {p q : β → Bool} {l : List β}
    (h : ∀ b ∈ l, f b = (p b).toNat + (q b).toNat) :
    l.foldr (fun b n => f b + n) 0 = l.countP p + l.countP q := by
  induction l with
  | nil => rfl
  | cons b l ih =>
    rw [List.foldr_cons, h b List.mem_cons_self, ih fun b hb => h b (List.mem_cons_of_mem _ hb),
      List.countP_cons, List.countP_cons]
    cases p b <;> cases q b <;> simp <;> omega

namespace Traffic

/-- **What the failure counters show.**

Take a gate all of whose dispatches are over, since its counters were at zero, and whose adapters
are orderly.  The counter for operations shows how many operations failed, and how often an adapter
said that all was well and there was nothing to give to the caller.  The counter for adapters shows
how many operations were not executed, and how often there was nothing to give although the
operation was executed.  A dispatch is counted by both exactly if an adapter said that all was well
and there was nothing to give. -/
theorem failure_counters_eq {w : Traffic α} (h : Steps ⟨.zero, []⟩ w)
    (hover : ∀ x ∈ w.flights, ∃ ending, x.stage = .closed ending)
    (ho : ∀ x ∈ w.flights, x.Orderly) :
    w.metrics.ioErrors =
        .ofNat (w.flights.countP Flight.failed + w.flights.countP Flight.empty) ∧
      w.metrics.adapterFailures = .ofNat (w.flights.countP Flight.unexecuted +
        w.flights.countP fun x => x.empty && !x.unexecuted) ∧
      ∀ x ∈ w.flights,
        (0 < x.charged .ioErrors ∧ 0 < x.charged .adapterFailures) ↔ x.empty = true := by
  have hcounted (x : Flight α) (hx : x ∈ w.flights) : x.Counted := by
    obtain ⟨ending, hending⟩ := hover x hx
    exact Flight.counted_of_orderly (ho x hx) hending
  refine ⟨?_, ?_, fun x hx => ?_⟩
  · have hcounter := h.counter_eq .ioErrors
    rw [charged, foldr_eq_countP fun x hx => (hcounted x hx).ioErrors] at hcounter
    exact hcounter.trans (UInt64.zero_add _)
  · have hcounter := h.counter_eq .adapterFailures
    rw [charged, foldr_eq_countP fun x hx => (hcounted x hx).adapterFailures] at hcounter
    exact hcounter.trans (UInt64.zero_add _)
  · rw [← (hcounted x hx).both, Bool.and_eq_true, decide_eq_true_eq, decide_eq_true_eq]

/-- A dispatch without an adapter whose operation fails. -/
def failing : Flight Nat where
  path := .direct
  past := [.answered (.returned (.error (.os .brokenPipe))), .charged .ioError,
    .charged (.operation .direct), .finished (.returned (.error (.os .brokenPipe))),
    .started .same]
  stage := .closed (.returned (.error (.os .brokenPipe)))
  after := ((((After.waiting.act (.start fun _ => rfl)).act (.finishDirect _)).act
    (.charge _ _ _)).act (.charge _ _ _)).act (.answer _)

/-- A dispatch whose adapter does nothing and fails. -/
def refused : Flight Nat where
  path := .offloaded
  past := [.answered (.returned (.error (.os .brokenPipe))), .charged .adapterFailure,
    .charged (.operation .offloaded), .judged (.returned (.error (.os .brokenPipe)))]
  stage := .closed (.returned (.error (.os .brokenPipe)))
  after := (((After.waiting.act (.judgeWaiting _)).act (.charge _ _ _)).act (.charge _ _ _)).act
    (.answer _)

/-- One operation of four failed and two were not executed, and one dispatch was counted twice. -/
theorem failure_counters_eq_mixed :
    ∃ w : Traffic Nat, Steps ⟨.zero, []⟩ w ∧ w.flights = [usedTwice, failing, refused, skipped] ∧
      w.metrics.ioErrors = 2 ∧ w.metrics.adapterFailures = 2 ∧
      0 < skipped.charged .ioErrors ∧ 0 < skipped.charged .adapterFailures := by
  obtain ⟨m, hsteps⟩ := exists_steps .zero [] [usedTwice, failing, refused, skipped]
  obtain ⟨hio, hadapter, hboth⟩ := failure_counters_eq hsteps
    (by simp [usedTwice, failing, refused, skipped])
    (by
      simp only [List.nil_append, List.forall_mem_cons]
      refine ⟨⟨?_, ?_⟩, ⟨?_, ?_⟩, ⟨?_, ?_⟩, ⟨?_, ?_⟩, ?_⟩ <;>
        simp [usedTwice, failing, refused, skipped, Flight.executions, Flight.verdicts,
          Act.start?, Act.verdict?])
  obtain ⟨htwice, htwice'⟩ := (hboth skipped (by simp)).mpr rfl
  exact ⟨_, hsteps, rfl, hio, hadapter, htwice, htwice'⟩

end Traffic

end Gate

namespace Session

/-- A session that hands a write that would give 7 to an adapter that does nothing. -/
def skippedWrite : List (Surroundings × Command Nat) :=
  [(.plain, .install "x" true .skip), (.plain, .dispatch "write" (.returned (.ok 7)))]

/-- **An operation that was never executed is counted as a failed one**, and its dispatch is counted
twice. -/
theorem skipped_write_counted_twice :
    ((start false).runAll skippedWrite).map
        (fun r => (r.1, r.2.adapterFailures, r.2.ioErrors)) =
      [(.replaced none, 0, 0), (.dispatched (.returned (.error Gate.notRun)) [], 1, 1)] :=
  rfl

end Session

end ResourceContainers
