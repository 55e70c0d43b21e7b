import ResourceContainers.Ending

/-!
# Dispatch metrics

How many operations took which path through a gate, what each path cost, and what failed.  Every
counter is a word of 64 bits and wraps around.

A path is charged with a duration that somebody measured, or by a timer.  What a timer reads is not
the business of this library, so a path that a timer charged has no average until it is reset.

* `Metrics.record`, `Metrics.clock`, `Metrics.adapterFailure`, `Metrics.ioError`, `Metrics.store`.
* `Metrics.snapshot`: counters, averages and the share of offloaded operations.

Unlike the counters, the sum that the share is one of does not wrap around: where it is too large
for a word, `Metrics.snapshot` panics.
-/

namespace ResourceContainers

/-- The way that an operation takes through a gate. -/
inductive DispatchPath
  | direct
  | offloaded
  deriving DecidableEq, Repr

/-- A duration. -/
structure Duration where
  seconds : Nat
  nanoseconds : Nat
  deriving DecidableEq, Repr

/-- The nanoseconds of a duration. -/
def Duration.total (d : Duration) : Nat := d.seconds * 1000000000 + d.nanoseconds

/-- What is counted of one path, and whether a timer charged it. -/
structure PathMetrics where
  operations : UInt64
  nanoseconds : UInt64
  clocked : Bool
  deriving DecidableEq, Repr

/-- What a gate counts: two paths, adapters that failed to run an operation, and operations that
failed themselves. -/
structure Metrics where
  direct : PathMetrics
  offloaded : PathMetrics
  adapterFailures : UInt64
  ioErrors : UInt64
  deriving DecidableEq, Repr

/-- One of the six counters. -/
inductive Metrics.Counter
  | directOperations
  | directNanoseconds
  | offloadedOperations
  | offloadedNanoseconds
  | adapterFailures
  | ioErrors
  deriving DecidableEq, Repr

/-- What a gate shows of its counters: averages are microseconds for each operation, and the rate is
the offloaded operations in a hundred. -/
structure Metrics.Snapshot where
  directOperations : UInt64
  directAverage : Option Float
  offloadedOperations : UInt64
  offloadedAverage : Option Float
  offloadRate : Float
  adapterFailures : UInt64
  ioErrors : UInt64

namespace PathMetrics

def zero : PathMetrics := ⟨0, 0, false⟩

/-- Charges an operation that took a duration. -/
def record (p : PathMetrics) (d : Duration) : PathMetrics :=
  { p with operations := p.operations + 1, nanoseconds := p.nanoseconds + UInt64.ofNat d.total }

/-- Charges an operation by a timer. -/
def clock (p : PathMetrics) : PathMetrics :=
  { p with operations := p.operations + 1, clocked := true }

/-- Microseconds for each operation; zero if there was none. -/
def average (p : PathMetrics) : Option Float :=
  if p.clocked then none
  else if p.operations = 0 then some 0
  else some (p.nanoseconds.toFloat / p.operations.toFloat / 1000)

end PathMetrics

namespace Metrics

def zero : Metrics := ⟨.zero, .zero, 0, 0⟩

instance : Inhabited Metrics := ⟨zero⟩

def path (m : Metrics) : DispatchPath → PathMetrics
  | .direct => m.direct
  | .offloaded => m.offloaded

/-- Changes what is counted of a path. -/
def onPath (m : Metrics) (path : DispatchPath) (f : PathMetrics → PathMetrics) : Metrics :=
  match path with
  | .direct => { m with direct := f m.direct }
  | .offloaded => { m with offloaded := f m.offloaded }

/-- Charges a path with an operation that took a duration. -/
def record (m : Metrics) (path : DispatchPath) (d : Duration) : Metrics :=
  m.onPath path (·.record d)

/-- Charges a path with an operation by a timer. -/
def clock (m : Metrics) (path : DispatchPath) : Metrics := m.onPath path PathMetrics.clock

/-- Counts an adapter that failed to run an operation. -/
def adapterFailure (m : Metrics) : Metrics := { m with adapterFailures := m.adapterFailures + 1 }

/-- Counts an operation that failed. -/
def ioError (m : Metrics) : Metrics := { m with ioErrors := m.ioErrors + 1 }

/-- Sets a counter. -/
def store (m : Metrics) (c : Counter) (a : UInt64) : Metrics :=
  match c with
  | .directOperations => m.onPath .direct fun p => { p with operations := a }
  | .directNanoseconds => m.onPath .direct fun p => { p with nanoseconds := a }
  | .offloadedOperations => m.onPath .offloaded fun p => { p with operations := a }
  | .offloadedNanoseconds => m.onPath .offloaded fun p => { p with nanoseconds := a }
  | .adapterFailures => { m with adapterFailures := a }
  | .ioErrors => { m with ioErrors := a }

/-- The share of `part` in a total, in hundredths; zero if the total is. -/
def rate (part total : UInt64) : Float :=
  if total = 0 then 0 else part.toFloat / total.toFloat * 100

/-- How many operations there were, as a word like the counters. -/
def operations (m : Metrics) : UInt64 := m.direct.operations + m.offloaded.operations

/-- The message of a sum that is no word. -/
def overflow : String := "attempt to add with overflow"

/-- What the share of offloaded operations is one of: the sum of the two counters. -/
def total (m : Metrics) : Ending UInt64 :=
  if m.direct.operations.toNat + m.offloaded.operations.toNat < UInt64.size then
    .returned m.operations
  else .panicked overflow

/-- The share of offloaded operations. -/
def offloadRate (m : Metrics) : Ending Float := m.total.map (rate m.offloaded.operations)

def snapshot (m : Metrics) : Ending Snapshot :=
  m.offloadRate.map fun share =>
    { directOperations := m.direct.operations
      directAverage := m.direct.average
      offloadedOperations := m.offloaded.operations
      offloadedAverage := m.offloaded.average
      offloadRate := share
      adapterFailures := m.adapterFailures
      ioErrors := m.ioErrors }

/-- Something that happens to the counters of a gate, or does not concern them (`idle`). -/
inductive Step
  | record (path : DispatchPath) (d : Duration)
  | clock (path : DispatchPath)
  | adapterFailure
  | ioError
  | store (c : Counter) (a : UInt64)
  | reset
  | idle
  deriving DecidableEq, Repr

/-- Lets something happen to the counters. -/
def step (m : Metrics) : Step → Metrics
  | .record path d => m.record path d
  | .clock path => m.clock path
  | .adapterFailure => m.adapterFailure
  | .ioError => m.ioError
  | .store c a => m.store c a
  | .reset => zero
  | .idle => m

/-- The counters after each of some steps. -/
def history (m : Metrics) : List Step → List Metrics
  | [] => []
  | s :: rest => m.step s :: (m.step s).history rest

end Metrics

end ResourceContainers
