import ResourceContainers.Proofs.Io.Flight

/-!
# The divisions of a snapshot

A snapshot shows the costs of the two paths and the share of offloaded operations.  Each of these
is a division, and each is made only if what it divides by is not zero.  The counters are words that
may hold anything, and a snapshot loads them one after the other while others change them.

* `Metrics.Ratio`: a division that is made.  `Metrics.quotient?`: one that is made unless it is by
  zero.
* `Metrics.division`: the divisions of a snapshot.  `snapshot_eq_returned`: what it shows of them.
* `Metrics.seen`: the counters as a snapshot finds them.  `exists_seen`: they can be any words.
* `offloadRate_denominator`: what the share of offloaded operations is a share of.

## What goes wrong at the top

The share is one of a sum, and a sum of two words need not be a word.  Nothing looks at the sum
before it is made, neither the test for zero nor the division, so a snapshot of counters that are
too large together shows none of them.
-/

namespace ResourceContainers.Metrics

/-! ## Divisions -/

/-- A division of two counters that is made. -/
structure Ratio where
  numerator : UInt64
  denominator : UInt64
  deriving DecidableEq, Repr

/-- What a division comes to. -/
def Ratio.value (q : Ratio) : Float := q.numerator.toFloat / q.denominator.toFloat

/-- A division that is made unless it is by zero. -/
def quotient? (numerator denominator : UInt64) : Option Ratio :=
  if denominator = 0 then none else some ⟨numerator, denominator⟩

theorem quotient?_eq_some {a b : UInt64} {q : Ratio} :
    quotient? a b = some q ↔ q = ⟨a, b⟩ ∧ b ≠ 0 := by
  unfold quotient?
  split <;> simp [*, eq_comm]

theorem quotient?_eq_none {a b : UInt64} : quotient? a b = none ↔ b = 0 := by
  unfold quotient?
  split <;> simp [*]

/-- The three numbers of a snapshot that are divisions. -/
inductive Figure
  | average (path : DispatchPath)
  | offloadRate
  deriving DecidableEq, Repr

/-- The number that a division is shown as: nanoseconds as microseconds, a share in hundredths. -/
def Figure.value : Figure → Ratio → Float
  | average _, q => q.value / 1000
  | offloadRate, q => q.value * 100

/-- The division that a number of a snapshot is, if it is made. -/
def division (m : Metrics) : Figure → Ending (Option Ratio)
  | .average path => .returned (quotient? (m.path path).nanoseconds (m.path path).operations)
  | .offloadRate => m.total.map (quotient? m.offloaded.operations)

/-- A number of a snapshot. -/
def Snapshot.figure (shown : Snapshot) : Figure → Option Float
  | .average .direct => shown.directAverage
  | .average .offloaded => shown.offloadedAverage
  | .offloadRate => some shown.offloadRate

/-- No timer charged what the number is about. -/
def Measured (m : Metrics) : Figure → Prop
  | .average path => (m.path path).clocked = false
  | .offloadRate => True

theorem average_eq {p : PathMetrics} (h : p.clocked = false) (path : DispatchPath) :
    p.average =
      some ((quotient? p.nanoseconds p.operations).elim 0 (Figure.average path).value) := by
  rw [PathMetrics.average, h, if_neg Bool.false_ne_true]
  unfold quotient?
  split <;> rfl

theorem rate_eq (part whole : UInt64) :
    rate part whole = (quotient? part whole).elim 0 Figure.offloadRate.value := by
  unfold rate quotient?
  split <;> rfl

/-- **No snapshot divides by zero.** -/
theorem denominator_ne_zero {m : Metrics} {f : Figure} {q : Ratio}
    (h : m.division f = .returned (some q)) : q.denominator ≠ 0 := by
  cases f with
  | average path =>
    obtain ⟨rfl, hne⟩ := quotient?_eq_some.mp (Ending.returned.inj h)
    exact hne
  | offloadRate =>
    obtain ⟨whole, -, hq⟩ := Ending.map_eq_returned.mp h
    obtain ⟨rfl, hne⟩ := quotient?_eq_some.mp hq
    exact hne

/-! ## Counters that change while they are loaded -/

/-- The counters as a snapshot finds them that loads one after the other.  Before it loads a counter
`c`, others do what is in `between c`. -/
def seen (m : Metrics) (between : Counter → List Step) : Metrics :=
  let first := (between .directOperations).foldl step m
  let second := (between .offloadedOperations).foldl step first
  let third := (between .directNanoseconds).foldl step second
  let fourth := (between .offloadedNanoseconds).foldl step third
  let fifth := (between .adapterFailures).foldl step fourth
  let last := (between .ioErrors).foldl step fifth
  ⟨⟨first.direct.operations, third.direct.nanoseconds, third.direct.clocked⟩,
    ⟨second.offloaded.operations, fourth.offloaded.nanoseconds, fourth.offloaded.clocked⟩,
    fifth.adapterFailures, last.ioErrors⟩

theorem seen_undisturbed (m : Metrics) : m.seen (fun _ => []) = m := rfl

/-- A snapshot may find any words in the counters. -/
theorem exists_seen (m : Metrics) (load : Counter → UInt64) :
    ∃ between, ∀ c, (m.seen between).counter c = load c :=
  ⟨fun c => [.store c (load c)], fun c => by cases c <;> rfl⟩

/-! ## The sum -/

/-- The sum of the two counters, which need not be a word. -/
def sum (m : Metrics) : Nat := m.direct.operations.toNat + m.offloaded.operations.toNat

theorem toNat_operations {m : Metrics} (h : m.sum < UInt64.size) : m.operations.toNat = m.sum :=
  (UInt64.toNat_add ..).trans (Nat.mod_eq_of_lt h)

theorem total_of_lt {m : Metrics} (h : m.sum < UInt64.size) : m.total = .returned m.operations :=
  if_pos h

theorem total_of_le {m : Metrics} (h : UInt64.size ≤ m.sum) : m.total = .panicked overflow :=
  if_neg (Nat.not_lt.mpr h)

theorem total_eq_returned {m : Metrics} {whole : UInt64} :
    m.total = .returned whole ↔ m.sum < UInt64.size ∧ whole = m.operations := by
  rcases Nat.lt_or_ge m.sum UInt64.size with h | h
  · simp [total_of_lt h, h, eq_comm]
  · simp [total_of_le h, Nat.not_lt.mpr h]

theorem snapshot_eq_panicked {m : Metrics} (h : UInt64.size ≤ m.sum) :
    m.snapshot = .panicked overflow := by
  rw [snapshot, offloadRate, total_of_le h]
  rfl

/-- A snapshot of counters whose sum is a word shows the divisions, and zero for those that are not
made. -/
theorem snapshot_eq_returned {m : Metrics} (h : m.sum < UInt64.size) :
    ∃ shown, m.snapshot = .returned shown ∧ ∀ f, m.Measured f →
      ∃ q?, m.division f = .returned q? ∧ shown.figure f = some (q?.elim 0 f.value) := by
  have htotal := total_of_lt h
  refine ⟨_, by rw [snapshot, offloadRate, htotal]; rfl, fun f hf => ?_⟩
  match f with
  | .average .direct => exact ⟨_, rfl, average_eq hf .direct⟩
  | .average .offloaded => exact ⟨_, rfl, average_eq hf .offloaded⟩
  | .offloadRate => exact ⟨_, by rw [division, htotal]; rfl, congrArg some (rate_eq ..)⟩

/-- **The share of offloaded operations is one of their sum, or there is no snapshot.**  Take any
counters, and anything that happens between the loads of a snapshot.

* No division by zero is made.
* If the sum of the two counters is a word, the snapshot shows the divisions.
* If it is not, the snapshot panics.
* The share divides by the sum itself, and the part is no more than the whole.
* No division is made for the share only if both counters are zero. -/
theorem offloadRate_denominator (m : Metrics) (between : Counter → List Step) :
    let s := m.seen between
    (∀ f q, s.division f = .returned (some q) → q.denominator ≠ 0) ∧
    (s.sum < UInt64.size → ∃ shown, s.snapshot = .returned shown ∧ ∀ f, s.Measured f →
      ∃ q?, s.division f = .returned q? ∧ shown.figure f = some (q?.elim 0 f.value)) ∧
    (UInt64.size ≤ s.sum → s.snapshot = .panicked "attempt to add with overflow") ∧
    (∀ q, s.division .offloadRate = .returned (some q) →
      q.numerator = s.offloaded.operations ∧ q.denominator.toNat = s.sum ∧
      q.numerator ≤ q.denominator) ∧
    (s.division .offloadRate = .returned none ↔
      s.direct.operations = 0 ∧ s.offloaded.operations = 0) := by
  intro s
  refine ⟨fun f q => denominator_ne_zero, snapshot_eq_returned, snapshot_eq_panicked,
    fun q hq => ?_, ?_⟩
  · obtain ⟨whole, hwhole, hq⟩ := Ending.map_eq_returned.mp hq
    obtain ⟨hsum, rfl⟩ := total_eq_returned.mp hwhole
    obtain ⟨rfl, -⟩ := quotient?_eq_some.mp hq
    have hdenominator : s.operations.toNat = s.sum := toNat_operations hsum
    refine ⟨rfl, hdenominator, UInt64.le_iff_toNat_le.mpr ?_⟩
    exact hdenominator ▸ Nat.le_add_left ..
  · rw [← UInt64.toNat_inj, ← UInt64.toNat_inj, UInt64.toNat_zero]
    constructor
    · intro hnone
      obtain ⟨whole, hwhole, hq⟩ := Ending.map_eq_returned.mp hnone
      obtain ⟨hsum, rfl⟩ := total_eq_returned.mp hwhole
      have hzero : s.sum = 0 := by
        rw [← toNat_operations hsum, quotient?_eq_none.mp hq, UInt64.toNat_zero]
      exact Nat.add_eq_zero_iff.mp hzero
    · rintro ⟨hdirect, hoffloaded⟩
      have hzero : s.sum = 0 := by rw [sum, hdirect, hoffloaded]
      have hsum : s.sum < UInt64.size := hzero ▸ by decide
      refine Ending.map_eq_returned.mpr ⟨_, total_of_lt hsum, quotient?_eq_none.mpr ?_⟩
      exact UInt64.toNat_inj.mp ((toNat_operations hsum).trans hzero)

/-- **Two paths that were used equally often, and no share.**  Half of the operations were
offloaded, and their number is the first one that is no word. -/
theorem snapshot_panicked :
    let m := (zero.store .directOperations 9223372036854775808).store .offloadedOperations
      9223372036854775808
    m.sum = UInt64.size ∧ m.snapshot = .panicked "attempt to add with overflow" :=
  ⟨rfl, rfl⟩

end ResourceContainers.Metrics
