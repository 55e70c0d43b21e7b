import ResourceContainers.Io.Gate

/-!
# Offloading an operation

An adapter gets a piece of work and may call it as often as it likes, wherever it likes.  The first
call runs the operation and keeps what it gave, and all further calls do nothing.  So what a caller
gets back depends on whether the work was called at all, and on what the adapter says in the end.

* `Conduct.calls`, `Conduct.verdict`: how often an adapter calls work that does not panic, and what
  it says in the end.
* `Conduct.Diligent`: it calls the work and says that all is well.
* `Conduct.follow_of_calm`: what becomes of work that does not panic.
* `Gate.dispatch_of_calm`: a gate without an adapter and a gate whose adapter is diligent give the
  same.
-/

namespace ResourceContainers

namespace Conduct

/-- How often an adapter calls work that does not panic. -/
def calls : Conduct → Nat
  | give _ | panic _ => 0
  | call _ returned _ => returned.calls + 1

/-- What an adapter says in the end about work that does not panic. -/
def verdict : Conduct → Ending (Except IoError Unit)
  | give result => .returned result
  | panic message => .panicked message
  | call _ returned _ => returned.verdict

/-- An adapter that runs the work, once or more often, and says that all is well. -/
structure Diligent (c : Conduct) : Prop where
  runs : 0 < c.calls
  succeeds : c.verdict = .returned (.ok ())

theorem diligent_run : run.Diligent := ⟨by decide, rfl⟩

theorem diligent_inline : inline.Diligent := ⟨by decide, rfl⟩

theorem diligent_twice : twice.Diligent := ⟨by decide, rfl⟩

variable {σ α : Type}

theorem follow_of_done (c : Conduct) {w : Submission σ α} (hw : w.call = none) :
    c.follow w = (c.verdict, w) := by
  induction c with
  | give result => rfl
  | panic message => rfl
  | call place returned panicked ih _ =>
    have hrun : w.run place = (none, w) := by rw [Submission.run, hw]
    rw [follow, hrun]
    exact ih

/-- Work that does not panic, and does the same on every thread, is run at most once. -/
theorem follow_of_calm (c : Conduct) {op : Call σ α} {s s' : σ} {result : Except IoError α}
    (hop : ∀ place, op place s = (.returned result, s')) :
    c.follow (.ofCall op s) =
      (c.verdict, if 0 < c.calls then ⟨none, some result, s'⟩ else .ofCall op s) := by
  cases c with
  | give result => rfl
  | panic message => rfl
  | call place returned panicked =>
    have hrun : (Submission.ofCall op s).run place = (none, ⟨none, some result, s'⟩) := by
      simp [Submission.run, Submission.ofCall, hop place]
    rw [follow, hrun]
    exact follow_of_done returned rfl

end Conduct

namespace Gate

variable {σ α : Type}

/-- The caller of an adapter that is diligent gets what the operation gave. -/
theorem offload_of_calm (m : Metrics) {c : Conduct} (hc : c.Diligent) {op : Call σ α} {s s' : σ}
    {result : Except IoError α} (hop : ∀ place, op place s = (.returned result, s')) :
    offload m c op s = ⟨.returned result, countFailure (m.clock .offloaded) result, s'⟩ := by
  simp only [offload, c.follow_of_calm hop, hc.succeeds, if_pos hc.runs]

/-- **A gate does not show whether an operation was offloaded**, except in its counters.  The
operation may fail, but it does not panic and does not mind where it runs. -/
theorem dispatch_of_calm (m : Metrics) {active : Option Conduct}
    (hactive : ∀ c, active = some c → c.Diligent) {op : Call σ α} {s s' : σ}
    {result : Except IoError α} (hop : ∀ place, op place s = (.returned result, s')) :
    (dispatch m active op s).ending = .returned result ∧ (dispatch m active op s).state = s' := by
  cases active with
  | none => simp [dispatch, direct, hop]
  | some c =>
    rw [dispatch, offload_of_calm m (hactive c rfl) hop]
    exact ⟨rfl, rfl⟩

end Gate

end ResourceContainers
