import ResourceContainers.Proofs.Io.FailureCounters

/-!
# Every dispatch is counted once

A gate counts the operations of each path when they are over, however that comes about.  In between
it does not know how many dispatches there are: they nest, run on several threads, panic, and their
adapters are put in and taken out.  Here is the whole life of a gate: dispatches, resets, and calls
that never get as far as a path because the adapter panics when it is asked whether it is active.

* `Gate.Service`, `Gate.Service.Step`, `Gate.Service.Run`: a gate in use, and what can happen to it.
* `Gate.checks`: the paths that the dispatches since the last reset took, read off the history.
* `Gate.Course.charges_eq`: the charges of one dispatch.
* `Gate.Flight.charged_operation`, `Gate.dispatch_oneMore`: one dispatch is counted once, on its
  path.
* `Gate.Service.operations_eq`: what the counters of the two paths show.

## Why nothing gets lost

Whether an operation returns, fails or panics, and whatever its adapter does, the closing of its
dispatch has one charge for an operation and no second one, and no dispatch ends before its closing
is done.  Between the check and the closing there is no way out: a panic of the operation is an
ending, and so is one of the adapter that has the work.  The lines that are logged on the way do not
count as steps, for all they print is data, the name of the adapter included.
-/

namespace ResourceContainers.Gate

variable {α : Type}

/-! ## A gate in use -/

/-- What is remembered of the use of a gate.  Somebody calls for a dispatch, which asks for an
active adapter.  If the adapter panics when it is asked, then so does the call. -/
inductive Occasion
  | called
  | unanswered
  | checked (path : DispatchPath)
  | reset
  deriving DecidableEq, Repr

/-- The paths that were found since the last reset, the last one first. -/
def checks : List Occasion → List DispatchPath
  | .checked path :: es => path :: checks es
  | .called :: es | .unanswered :: es => checks es
  | .reset :: _ | [] => []

/-- A dispatch is over, for good or ill. -/
def Flight.IsOver (x : Flight α) : Prop := ∃ ending, x.stage = .closed ending

/-- A gate in use: the counters, the dispatches since the last reset that know their path, and how
many calls are asking for an active adapter. -/
structure Service (α : Type) where
  traffic : Traffic α
  asking : Nat

namespace Service

def fresh : Service α := ⟨⟨.zero, []⟩, 0⟩

/-- What can happen to a gate, with what is remembered of it.  Which path is found is anybody's
choice, because adapters come and go.  A reset falls between dispatches. -/
inductive Step : Service α → List Occasion → Service α → Prop
  | call (g : Service α) : Step g [.called] ⟨g.traffic, g.asking + 1⟩
  | panic {g : Service α} {n : Nat} (hn : g.asking = n + 1) : Step g [.unanswered] ⟨g.traffic, n⟩
  | check {g : Service α} {n : Nat} (hn : g.asking = n + 1) (path : DispatchPath) :
      Step g [.checked path] ⟨⟨g.traffic.metrics, g.traffic.flights ++ [.begin path]⟩, n⟩
  | act {g : Service α} {i : Nat} {x : Flight α} (hx : g.traffic.flights[i]? = some x) {a : Act α}
      {stage : Stage α} (h : Stage.Step x.path x.stage a stage) :
      Step g [] ⟨⟨a.addTo g.traffic.metrics, g.traffic.flights.set i (x.act h)⟩, g.asking⟩
  | reset {g : Service α} (hover : ∀ x ∈ g.traffic.flights, x.IsOver) :
      Step g [.reset] ⟨⟨.zero, []⟩, g.asking⟩

/-- `Run es g`: a gate comes to be `g`, and `es` is remembered of it, the last first. -/
inductive Run : List Occasion → Service α → Prop
  | nil : Run [] fresh
  | cons {es new : List Occasion} {g g' : Service α} (h : Run es g) (hs : Step g new g') :
      Run (new ++ es) g'

end Service

/-! ## One dispatch -/

/-- However a dispatch goes, there is one charge for an operation, on its path, and at most one for
each kind of failure. -/
theorem Course.charges_eq (c : Course α) :
    ∃ rest ∈ [[], [.ioError], [.adapterFailure], [.adapterFailure, .ioError]],
      c.closing.charges = .operation c.path :: rest := by
  have hfor (result : Except IoError α) : chargesFor result ∈
      [[], [.ioError], [.adapterFailure], [.adapterFailure, .ioError]] := by
    cases result <;> simp [chargesFor]
  cases c with
  | direct ending =>
    cases ending with
    | returned result => exact ⟨_, hfor result, rfl⟩
    | panicked message => exact ⟨[], by simp, rfl⟩
  | unused verdict =>
    obtain ⟨e | ⟨⟩⟩ | message := verdict
    · exact ⟨[.adapterFailure], by simp, rfl⟩
    · exact ⟨[.adapterFailure, .ioError], by simp, rfl⟩
    · exact ⟨[], by simp, rfl⟩
  | used place ending again verdict =>
    obtain ⟨e | ⟨⟩⟩ | message := verdict
    · exact ⟨[.adapterFailure], by simp, rfl⟩
    · cases ending with
      | returned result => exact ⟨_, hfor result, rfl⟩
      | panicked message => exact ⟨[.adapterFailure, .ioError], by simp, rfl⟩
    · exact ⟨[], by simp, rfl⟩

theorem Course.countP_operation (c : Course α) (path : DispatchPath) :
    c.closing.charges.countP (·.counter = (Charge.operation path).counter) =
      (decide (c.path = path)).toNat := by
  obtain ⟨rest, hrest, hcharges⟩ := c.charges_eq
  simp only [List.mem_cons, List.not_mem_nil, or_false] at hrest
  rw [hcharges]
  generalize c.path = taken
  obtain rfl | rfl | rfl | rfl := hrest <;> cases taken <;> cases path <;> rfl

theorem Course.countP_ioErrors_le (c : Course α) :
    c.closing.charges.countP (·.counter = .ioErrors) ≤ 1 := by
  obtain ⟨rest, hrest, hcharges⟩ := c.charges_eq
  simp only [List.mem_cons, List.not_mem_nil, or_false] at hrest
  rw [hcharges]
  generalize c.path = taken
  obtain rfl | rfl | rfl | rfl := hrest <;> cases taken <;> decide

/-- **A dispatch that is over is counted once, on the path it took.** -/
theorem Flight.charged_operation {x : Flight α} (hover : x.IsOver) (path : DispatchPath) :
    x.charged (Charge.operation path).counter = (decide (x.path = path)).toNat := by
  obtain ⟨ending, hstage⟩ := hover
  obtain hopen | ⟨c, hc⟩ := x.open_or_took
  · exact absurd hopen.unanswered (by simp [hstage, Stage.answer?])
  · rw [charged, hc.charges ending hstage, List.countP_reverse, c.countP_operation, hc.path]

theorem counter_operation (m : Metrics) (path : DispatchPath) :
    m.counter (Charge.operation path).counter = (m.path path).operations := by cases path <;> rfl

/-! ## One call -/

/-- Charges that are made add up. -/
theorem counter_foldl_addTo (m : Metrics) (charges : List Charge) (k : Metrics.Counter) :
    (charges.foldl Charge.addTo m).counter k =
      m.counter k + .ofNat (charges.countP (·.counter = k)) := by
  induction charges generalizing m with
  | nil => exact (UInt64.add_zero _).symm
  | cons c charges ih =>
    rw [List.foldl_cons, ih, c.counter_addTo, List.countP_cons, Nat.add_comm, UInt64.ofNat_add,
      UInt64.add_assoc]
    by_cases hk : c.counter = k <;> simp [hk]

/-- What a call leaves behind is what a course leaves behind, on the path of its adapter. -/
theorem exists_course {σ : Type} (m : Metrics) (active : Option Conduct) (op : Call σ α) (s : σ) :
    ∃ (c : Course α) (s' : σ), c.path = pathOf active ∧
      dispatch m active op s = c.closing.dispatched m s' := by
  cases active with
  | none => exact ⟨.direct (op .same s).1, _, rfl, direct_eq_closed m op s⟩
  | some conduct =>
    rw [dispatch, offload_eq_closed]
    cases (conduct.follow (.ofCall op s)).2.outcome with
    | none => exact ⟨.unused _, _, rfl, rfl⟩
    | some result => exact ⟨.used .same (.returned result) [] _, _, rfl, rfl⟩

/-- One operation more, on one path, and at most one failure of an operation. -/
structure OneMore (m m' : Metrics) (path : DispatchPath) : Prop where
  operations : ∀ path', (m'.path path').operations =
    (m.path path').operations + if path = path' then 1 else 0
  ioErrors : m'.ioErrors = m.ioErrors ∨ m'.ioErrors = m.ioErrors + 1

/-- **A call is counted as one operation**, whatever becomes of it. -/
theorem dispatch_oneMore {σ : Type} (m : Metrics) (active : Option Conduct) (op : Call σ α)
    (s : σ) : OneMore m (dispatch m active op s).metrics (pathOf active) := by
  obtain ⟨c, s', hpath, hdispatch⟩ := exists_course m active op s
  have hcounter (k : Metrics.Counter) : (dispatch m active op s).metrics.counter k =
      m.counter k + .ofNat (c.closing.charges.countP (·.counter = k)) := by
    rw [hdispatch]
    exact counter_foldl_addTo m _ k
  refine ⟨fun path => ?_, ?_⟩
  · rw [← counter_operation, hcounter, counter_operation, c.countP_operation, ← hpath]
    by_cases h : c.path = path <;> simp [h]
  · have hle := c.countP_ioErrors_le
    have hio := hcounter .ioErrors
    obtain hzero | hone : c.closing.charges.countP (·.counter = .ioErrors) = 0 ∨
        c.closing.charges.countP (·.counter = .ioErrors) = 1 := by omega
    · rw [hzero] at hio
      exact .inl (hio.trans (UInt64.add_zero _))
    · rw [hone] at hio
      exact .inr hio

/-! ## All dispatches -/

theorem count_direct_add_count_offloaded (paths : List DispatchPath) :
    paths.count .direct + paths.count .offloaded = paths.length := by
  induction paths with
  | nil => rfl
  | cons path paths ih =>
    rw [List.count_cons, List.count_cons, List.length_cons, ← ih]
    cases path
    · show _ + 1 + (_ + 0) = _
      omega
    · show _ + 0 + (_ + 1) = _
      omega

namespace Service

variable {es new : List Occasion} {g g' : Service α}

/-- The dispatches of a gate are those that were found a path for, and all charges are theirs. -/
structure Sound (es : List Occasion) (g : Service α) : Prop where
  steps : Traffic.Steps ⟨.zero, []⟩ g.traffic
  paths : g.traffic.flights.map Flight.path = (checks es).reverse

theorem sound_fresh : Sound [] (fresh : Service α) := ⟨.refl, rfl⟩

theorem map_path_set {flights : List (Flight α)} {i : Nat} {x y : Flight α}
    (hx : flights[i]? = some x) (hpath : y.path = x.path) :
    (flights.set i y).map Flight.path = flights.map Flight.path := by
  obtain ⟨hi, rfl⟩ := List.getElem?_eq_some_iff.mp hx
  have hi' : i < (flights.map Flight.path).length := by simpa using hi
  have hsame : (flights.map Flight.path)[i] = y.path := by simp [hpath]
  rw [List.map_set, ← hsame, List.set_getElem_self]

theorem Sound.step (hs : Sound es g) (h : Step g new g') : Sound (new ++ es) g' := by
  cases h with
  | call => exact ⟨hs.steps, hs.paths⟩
  | panic hn => exact ⟨hs.steps, hs.paths⟩
  | check hn path =>
    refine ⟨hs.steps.tail (.begin g.traffic path), ?_⟩
    rw [List.map_append, hs.paths, List.singleton_append, checks, List.reverse_cons]
    rfl
  | @act i x hx a stage hstep =>
    exact ⟨hs.steps.tail (.act hx hstep), (map_path_set (y := x.act hstep) hx rfl).trans hs.paths⟩
  | reset hover => exact ⟨.refl, rfl⟩

theorem Run.sound (h : Run es g) : Sound es g := by
  induction h with
  | nil => exact sound_fresh
  | cons _ hs ih => exact ih.step hs

theorem Sound.operations (hs : Sound es g) (hover : ∀ x ∈ g.traffic.flights, x.IsOver)
    (path : DispatchPath) :
    (g.traffic.metrics.path path).operations = .ofNat ((checks es).count path) := by
  have hcharged (x : Flight α) (hx : x ∈ g.traffic.flights) :
      x.charged (Charge.operation path).counter = (decide (x.path = path)).toNat + false.toNat :=
    Flight.charged_operation (hover x hx) path
  have hcount : g.traffic.flights.countP (·.path = path) = (checks es).count path := by
    rw [← List.count_reverse, ← hs.paths, List.count, List.countP_map]
    rfl
  have hsum : g.traffic.charged (Charge.operation path).counter = (checks es).count path := by
    rw [Traffic.charged, foldr_eq_countP hcharged, hcount, List.countP_false]
    rfl
  have hzero : (Metrics.zero.path path).operations = 0 := by cases path <;> rfl
  rw [← counter_operation, hs.steps.counter_eq, hsum, counter_operation, hzero, UInt64.zero_add]

/-! ## Dispatches that nothing comes in between of -/

/-- Whatever dispatches can do, they can do at a gate in use. -/
theorem Run.steps (h : Run es g) {w : Traffic α} (hw : g.traffic.Steps w) :
    ∃ new, Run (new ++ es) ⟨w, g.asking⟩ := by
  induction hw with
  | refl => exact ⟨[], h⟩
  | tail _ hs ih =>
    obtain ⟨new, hrun⟩ := ih
    cases hs with
    | «begin» path =>
      exact ⟨[.checked path] ++ ([.called] ++ new), (hrun.cons (.call _)).cons (.check rfl path)⟩
    | act hx hstep => exact ⟨new, hrun.cons (.act hx hstep)⟩

/-- What `Gate.dispatch` does is one more dispatch, on the path of its adapter. -/
theorem Run.dispatch (h : Run es g) (hover : ∀ x ∈ g.traffic.flights, x.IsOver) {σ : Type}
    (active : Option Conduct) (op : Call σ α) (s : σ) :
    ∃ (new : List Occasion) (g' : Service α), Run (new ++ es) g' ∧
      (∀ x ∈ g'.traffic.flights, x.IsOver) ∧ checks (new ++ es) = pathOf active :: checks es ∧
      g'.traffic.metrics = (Gate.dispatch g.traffic.metrics active op s).metrics := by
  obtain ⟨x, hpath, -, -, -, hstage, hsteps⟩ := g.traffic.steps_dispatch active op s
  obtain ⟨new, hrun⟩ := h.steps hsteps
  refine ⟨new, _, hrun, ?_, ?_, rfl⟩
  · intro y hy
    obtain hy | rfl : y ∈ g.traffic.flights ∨ y = x := by simpa using hy
    · exact hover y hy
    · exact ⟨_, hstage⟩
  · have hpaths := hrun.sound.paths
    rw [List.map_append, h.sound.paths] at hpaths
    rw [← List.reverse_reverse (checks (new ++ es)), ← hpaths]
    simp [hpath]

/-- **Every dispatch is counted once, on the path it took.**

Take a gate in use, whose dispatches nest and run past one another, and are left by results,
failures and panics, and let all that began since the last reset be over.  The counter of each path
shows how often the path was found since then, and both together show how often somebody asked for
an active adapter and got an answer.  One more call of `Gate.dispatch` adds one to the path it
takes. -/
theorem operations_eq (h : Run es g) (hover : ∀ x ∈ g.traffic.flights, x.IsOver) :
    (∀ path, (g.traffic.metrics.path path).operations = .ofNat ((checks es).count path)) ∧
      g.traffic.metrics.operations = .ofNat (checks es).length ∧
      ∀ (σ : Type) (active : Option Conduct) (op : Call σ α) (s : σ),
        ∃ (new : List Occasion) (g' : Service α), Run (new ++ es) g' ∧
          (∀ x ∈ g'.traffic.flights, x.IsOver) ∧ checks (new ++ es) = pathOf active :: checks es ∧
          g'.traffic.metrics = (Gate.dispatch g.traffic.metrics active op s).metrics := by
  have hpath := h.sound.operations hover
  refine ⟨hpath, ?_, fun σ active op s => h.dispatch hover active op s⟩
  rw [← count_direct_add_count_offloaded, UInt64.ofNat_add, ← hpath .direct, ← hpath .offloaded]
  rfl

/-- A dispatch that fails, a reset, a call whose adapter panics when it is asked, and a dispatch
whose operation makes another dispatch, the last first. -/
def nested : List Occasion :=
  [.checked .direct, .called, .checked .offloaded, .called, .unanswered, .called, .reset,
    .checked .direct, .called]

/-- The inner dispatch fails, and then the operation of the outer one panics. -/
theorem exists_run_nested :
    ∃ g : Service Nat, Run nested g ∧ ∀ x ∈ g.traffic.flights, x.IsOver := by
  have hfirst : Run (α := Nat) [.checked .direct, .called] _ :=
    ((((((Run.nil.cons (.call _)).cons (.check rfl .direct)).cons
      (.act (i := 0) rfl (.start fun _ => rfl))).cons
      (.act (i := 0) rfl (.finishDirect (.returned (.error (.os .brokenPipe)))))).cons
      (.act (i := 0) rfl (.charge ..))).cons (.act (i := 0) rfl (.charge ..))).cons
      (.act (i := 0) rfl (.answer _))
  have hreset := hfirst.cons (.reset (List.forall_mem_cons.mpr ⟨⟨_, rfl⟩, nofun⟩))
  have houter := ((((hreset.cons (.call _)).cons (.panic rfl)).cons (.call _)).cons
    (.check rfl .offloaded)).cons (.act (i := 0) rfl (@Stage.Step.start _ .offloaded .other nofun))
  have hinner := ((((((houter.cons (.call _)).cons (.check rfl .direct)).cons
    (.act (i := 1) rfl (.start fun _ => rfl))).cons
    (.act (i := 1) rfl (.finishDirect (.returned (.error (.os .brokenPipe)))))).cons
    (.act (i := 1) rfl (.charge ..))).cons (.act (i := 1) rfl (.charge ..))).cons
    (.act (i := 1) rfl (.answer _))
  have hlast := (((hinner.cons (.act (i := 0) rfl (.finishOffloaded (.panicked "p")))).cons
    (.act (i := 0) rfl (.judgeExecuted _ (.panicked "p")))).cons
    (.act (i := 0) rfl (.charge ..))).cons (.act (i := 0) rfl (.answer _))
  exact ⟨_, hlast, List.forall_mem_cons.mpr ⟨⟨_, rfl⟩, List.forall_mem_cons.mpr ⟨⟨_, rfl⟩, nofun⟩⟩⟩

/-- Both dispatches since the reset are counted; the one before it is not, and neither is the call
that got no answer. -/
theorem operations_eq_nested :
    ∃ g : Service Nat, Run nested g ∧ (∀ x ∈ g.traffic.flights, x.IsOver) ∧
      (g.traffic.metrics.path .direct).operations = 1 ∧
      (g.traffic.metrics.path .offloaded).operations = 1 ∧ g.traffic.metrics.operations = 2 := by
  obtain ⟨g, hrun, hover⟩ := exists_run_nested
  obtain ⟨hpath, hboth, -⟩ := operations_eq hrun hover
  exact ⟨g, hrun, hover, hpath .direct, hpath .offloaded, hboth⟩

end Service

end ResourceContainers.Gate
