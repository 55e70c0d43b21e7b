import Mathlib.Algebra.Ring.Nat
import ResourceContainers.Proofs.Io.Flight
import ResourceContainers.Proofs.Weaving

/-!
# Counting without loss

Many threads count at one gate, without a lock.  A recording of an operation is two accesses, one to
the number of operations and one to the time they took, and a reset is one access to each counter.
Between any two accesses of a thread the others may make theirs.

* `Metrics.Touch`: an access to one counter.  `Metrics.touch`: what it does.
* `Metrics.Recording`: a call that counts something, with its `touches`; `Metrics.resetTouches`.
* `foldl_touches`, `counter_foldl_resetTouches`: a call that nothing falls into is a step of the
  counters.
* `foldl_woven`: recordings that fall into one another come to the same as recordings that follow
  one another.
* `Metrics.Accumulated`: the counters once some recordings are made that began after the last reset
  was complete.  `accumulated_steps`: there are such counters.
* `counters_of_accumulated`: what they show.

## Why nothing is lost

An access that adds to a counter reads it and writes it at once, so no two of them can overwrite one
another, and it does not matter which of two additions comes first, whether they go to one counter
or to two.  The sums are words, and what a word has lost is a multiple of `UInt64.size`.  So it does
not matter either that a duration is made a word before it is added.

A reset is no addition.  A recording that a reset falls into is counted in part only, so all that is
said here is said of recordings that begin when a reset is complete.
-/

namespace ResourceContainers.Metrics

/-! ## Accesses -/

/-- An access to one counter. -/
inductive Touch
  | add (k : Counter) (a : UInt64)
  | zero (k : Counter)
  deriving DecidableEq, Repr

/-- Makes an access. -/
def touch (m : Metrics) : Touch → Metrics
  | .add k a => m.store k (m.counter k + a)
  | .zero k => m.store k 0

section Touch

variable (m : Metrics) (j k : Counter) (a : UInt64)

theorem counter_store : (m.store j a).counter k = if j = k then a else m.counter k := by
  cases j <;> cases k <;> rfl

/-- Whether a timer was used is none of the counters. -/
theorem clocked_store (path : DispatchPath) :
    ((m.store j a).path path).clocked = (m.path path).clocked := by
  cases j <;> cases path <;> rfl

theorem counter_touch_add :
    (m.touch (.add j a)).counter k = m.counter k + if j = k then a else 0 := by
  rw [touch, counter_store]
  by_cases h : j = k
  · rw [if_pos h, if_pos h, h]
  · rw [if_neg h, if_neg h, UInt64.add_zero]

theorem counter_touch_zero :
    (m.touch (.zero j)).counter k = if j = k then 0 else m.counter k :=
  counter_store m j k 0

theorem eq_of_counter {m n : Metrics} (hcounter : ∀ k, m.counter k = n.counter k)
    (hclocked : ∀ path, (m.path path).clocked = (n.path path).clocked) : m = n := by
  obtain ⟨⟨dops, dns, dclock⟩, ⟨oops, ons, oclock⟩, fails, errs⟩ := m
  obtain rfl : dops = _ := hcounter .directOperations
  obtain rfl : dns = _ := hcounter .directNanoseconds
  obtain rfl : oops = _ := hcounter .offloadedOperations
  obtain rfl : ons = _ := hcounter .offloadedNanoseconds
  obtain rfl : fails = _ := hcounter .adapterFailures
  obtain rfl : errs = _ := hcounter .ioErrors
  obtain rfl : dclock = _ := hclocked .direct
  obtain rfl : oclock = _ := hclocked .offloaded
  rfl

/-- **It does not matter which of two additions comes first.** -/
theorem touch_add_comm (b : UInt64) :
    (m.touch (.add j a)).touch (.add k b) = (m.touch (.add k b)).touch (.add j a) := by
  refine eq_of_counter (fun i => ?_) fun path => ?_
  · simp only [counter_touch_add, UInt64.add_assoc]
    rw [UInt64.add_comm (if j = i then a else 0)]
  · simp only [touch, clocked_store]

end Touch

/-! ## Calls -/

/-- The counter of the operations on a path. -/
def operationsOf : DispatchPath → Counter
  | .direct => .directOperations
  | .offloaded => .offloadedOperations

/-- The counter of the time that the operations on a path took. -/
def nanosecondsOf : DispatchPath → Counter
  | .direct => .directNanoseconds
  | .offloaded => .offloadedNanoseconds

/-- A call that counts something.  A timer makes one with whatever it has measured. -/
inductive Recording
  | operation (path : DispatchPath) (d : Duration)
  | adapterFailure
  | ioError
  deriving DecidableEq, Repr

namespace Recording

/-- The step of the counters that a recording is. -/
def toStep : Recording → Step
  | operation path d => .record path d
  | adapterFailure => .adapterFailure
  | ioError => .ioError

/-- The accesses of a recording. -/
def touches : Recording → List Touch
  | operation path d => [.add (operationsOf path) 1, .add (nanosecondsOf path) (.ofNat d.total)]
  | adapterFailure => [.add .adapterFailures 1]
  | ioError => [.add .ioErrors 1]

/-- What a recording adds to a counter, as a number and not as a word. -/
def amount (k : Counter) : Recording → Nat
  | operation path d =>
    if operationsOf path = k then 1 else if nanosecondsOf path = k then d.total else 0
  | adapterFailure => if .adapterFailures = k then 1 else 0
  | ioError => if .ioErrors = k then 1 else 0

theorem exists_add_of_mem_touches {r : Recording} {t : Touch} (h : t ∈ r.touches) :
    ∃ k a, t = .add k a := by
  cases r with
  | operation path d =>
    rcases List.mem_cons.mp h with rfl | h
    · exact ⟨_, _, rfl⟩
    · exact ⟨_, _, List.mem_singleton.mp h⟩
  | adapterFailure | ioError => exact ⟨_, _, List.mem_singleton.mp h⟩

end Recording

/-- The counters, in the order in which a reset comes to them. -/
def allCounters : List Counter :=
  [.directOperations, .directNanoseconds, .offloadedOperations, .offloadedNanoseconds,
    .adapterFailures, .ioErrors]

theorem mem_allCounters (k : Counter) : k ∈ allCounters := by cases k <;> decide

/-- The accesses of a reset. -/
def resetTouches : List Touch := allCounters.map .zero

section Calls

variable (m : Metrics)

/-- A recording that nothing falls into is a step of the counters. -/
theorem foldl_touches (r : Recording) : r.touches.foldl touch m = m.step r.toStep := by
  cases r with
  | operation path d => cases path <;> rfl
  | adapterFailure => rfl
  | ioError => rfl

theorem counter_step (r : Recording) (k : Counter) :
    (m.step r.toStep).counter k = m.counter k + .ofNat (r.amount k) := by
  rw [← foldl_touches]
  cases r with
  | operation path d =>
    simp only [Recording.touches, List.foldl_cons, List.foldl_nil, counter_touch_add,
      UInt64.add_assoc, Recording.amount]
    cases path <;> cases k <;> simp [operationsOf, nanosecondsOf]
  | adapterFailure | ioError =>
    simp only [Recording.touches, List.foldl_cons, List.foldl_nil, counter_touch_add,
      Recording.amount]
    split <;> rfl

theorem counter_foldl_step (rs : List Recording) (k : Counter) :
    (rs.foldl (fun m r => m.step r.toStep) m).counter k =
      m.counter k + .ofNat ((rs.map (Recording.amount k)).sum) := by
  induction rs generalizing m with
  | nil => exact (UInt64.add_zero _).symm
  | cons r rs ih =>
    rw [List.foldl_cons, ih, counter_step, List.map_cons, List.sum_cons, UInt64.ofNat_add,
      UInt64.add_assoc]

/-- **Recordings that fall into one another come to the same as recordings that follow one
another.** -/
theorem foldl_woven {rs : List Recording} {ts : List Touch}
    (h : Woven (rs.map Recording.touches) ts) :
    ts.foldl touch m = rs.foldl (fun m r => m.step r.toStep) m := by
  have hadd : ∀ t ∈ ts, ∃ k a, t = .add k a := by
    intro t ht
    obtain ⟨l, hl, htl⟩ := List.mem_flatten.mp (h.perm_flatten.mem_iff.mp ht)
    obtain ⟨r, -, rfl⟩ := List.mem_map.mp hl
    exact Recording.exists_add_of_mem_touches htl
  have hcomm : ∀ t ∈ ts, ∀ t' ∈ ts, ∀ n : Metrics, (n.touch t).touch t' = (n.touch t').touch t := by
    intro t ht t' ht' n
    obtain ⟨j, a, rfl⟩ := hadd t ht
    obtain ⟨k, b, rfl⟩ := hadd t' ht'
    exact touch_add_comm n j k a b
  calc ts.foldl touch m
    _ = (rs.map Recording.touches).flatten.foldl touch m := h.perm_flatten.foldl_eq' hcomm m
    _ = rs.foldl (fun m r => r.touches.foldl touch m) m := by
      rw [List.foldl_flatten, List.foldl_map]
    _ = rs.foldl (fun m r => m.step r.toStep) m := by simp only [foldl_touches]

/-- A counter that is zero, or is set to zero on the way, is zero if nothing is added. -/
theorem counter_foldl_zero {ts : List Touch} (hzero : ∀ t ∈ ts, ∃ j, t = .zero j) {k : Counter}
    (hk : .zero k ∈ ts ∨ m.counter k = 0) : (ts.foldl touch m).counter k = 0 := by
  induction ts generalizing m with
  | nil => exact hk.resolve_left (by simp)
  | cons t ts ih =>
    obtain ⟨j, rfl⟩ := hzero t (List.mem_cons_self ..)
    refine ih _ (fun t ht => hzero t (List.mem_cons_of_mem _ ht)) ?_
    rw [counter_touch_zero]
    rcases hk with hk | hk
    · rcases List.mem_cons.mp hk with heq | hk
      · exact .inr (if_pos (Touch.zero.inj heq).symm)
      · exact .inl hk
    · refine .inr ?_
      split
      · rfl
      · exact hk

/-- **Resets that fall into one another leave nothing.** -/
theorem counter_foldl_resets {n : Nat} {ts : List Touch}
    (h : Woven (List.replicate (n + 1) resetTouches) ts) (k : Counter) :
    (ts.foldl touch m).counter k = 0 := by
  have hmem (t : Touch) : t ∈ ts ↔ t ∈ resetTouches := by
    rw [h.perm_flatten.mem_iff, List.mem_flatten]
    constructor
    · rintro ⟨l, hl, ht⟩
      exact (List.mem_replicate.mp hl).2 ▸ ht
    · exact fun ht => ⟨_, List.mem_replicate.mpr ⟨Nat.succ_ne_zero n, rfl⟩, ht⟩
  refine counter_foldl_zero m (fun t ht => ?_) (.inl ?_)
  · obtain ⟨j, -, rfl⟩ := List.mem_map.mp ((hmem t).mp ht)
    exact ⟨j, rfl⟩
  · exact (hmem _).mpr (List.mem_map_of_mem (mem_allCounters k))

theorem counter_foldl_resetTouches (k : Counter) :
    (resetTouches.foldl touch m).counter k = (m.step .reset).counter k := by
  have hone : Woven (List.replicate 1 resetTouches) resetTouches := by
    simpa using woven_flatten [resetTouches]
  exact (counter_foldl_resets m hone k).trans (by cases k <;> rfl)

end Calls

/-! ## What was recorded -/

/-- `Accumulated rs m`: the counters show `m` once the recordings `rs` are made, in any order and
however they fall into one another, that began after the last reset was complete.

Either nobody has ever reset the counters.  Or they showed anything and were reset, perhaps by
several who did not wait for one another, and when all of these were through the recordings
began. -/
inductive Accumulated (rs : List Recording) : Metrics → Prop
  | fresh {counting : List Touch} (h : Woven (rs.map Recording.touches) counting) :
      Accumulated rs (counting.foldl touch zero)
  | reset (m : Metrics) {n : Nat} {clearing counting : List Touch}
      (hreset : Woven (List.replicate (n + 1) resetTouches) clearing)
      (h : Woven (rs.map Recording.touches) counting) :
      Accumulated rs (counting.foldl touch (clearing.foldl touch m))

section Accumulated

variable {rs : List Recording} {m : Metrics}

/-- Recordings that follow one another are one of the ways. -/
theorem accumulated_steps (rs : List Recording) :
    Accumulated rs (rs.foldl (fun m r => m.step r.toStep) zero) := by
  rw [← foldl_woven zero (woven_flatten _)]
  exact .fresh (woven_flatten _)

theorem Accumulated.counter_eq (h : Accumulated rs m) (k : Counter) :
    m.counter k = .ofNat ((rs.map (Recording.amount k)).sum) := by
  cases h with
  | fresh h =>
    have hzero : zero.counter k = 0 := by cases k <;> rfl
    rw [foldl_woven _ h, counter_foldl_step, hzero, UInt64.zero_add]
  | reset m hreset h =>
    rw [foldl_woven _ h, counter_foldl_step, counter_foldl_resets m hreset, UInt64.zero_add]

end Accumulated

/-- A recording that a reset falls into leaves its duration without its operation. -/
example :
    (weave [0, 1, 1, 1, 1, 1, 1, 0]
        [(Recording.operation .direct ⟨0, 5⟩).touches, resetTouches]).map
      (fun r => (r.1.foldl touch zero).direct) = some ⟨0, 5, false⟩ := rfl

end ResourceContainers.Metrics
