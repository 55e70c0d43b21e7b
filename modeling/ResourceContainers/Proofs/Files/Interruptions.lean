import ResourceContainers.Files.Session
import ResourceContainers.Proofs.Files.Kernel
import ResourceContainers.Proofs.Io.Tally

/-!
# Interrupted primitives

A signal may interrupt a request before anything is done.  Primitives that move data, or wait for
storage or for somebody else's lock, repeat their request then; the others do not.  Here is what
their callers see of it, on any operating system and through any gate.

* `Primitive.MayWait`, `Primitive.Controls`: the primitives that repeat requests, and those that do
  not.
* `Gate.dispatch_of_result`: a gate and its adapter see of an operation nothing but its result.
* `Session.submitted_perform`: a primitive is at most one piece of work for adapters.
* `Primitive.perform_interrupted`: interruptions of the former do not show.
* `Primitive.perform_control_interrupted`: one interruption of the latter is an answer.

## Why a gate cannot tell

The repetition is inside the operation that the gate lets run, so to the gate it is one operation
with one result.  It counts one operation, its adapter gets one piece of work, and what they do
depends on the result alone.
-/

namespace ResourceContainers

/-! ## Operations that give a result -/

namespace Gate

variable {σ α : Type}

/-- An active adapter, if there is one, calls the work that it gets. -/
def Runs (active : Option Conduct) : Prop := ∀ c, active = some c → 0 < c.calls

/-- How a call is closed whose operation gives a result wherever it is executed. -/
def closing (result : Except IoError α) : Option Conduct → Closing α
  | none => closeDirect (.returned result)
  | some c => closeOffloaded c.verdict (if 0 < c.calls then some result else none)

/-- What is left after such a call: the operation was executed, unless the adapter did not call the
work. -/
def left (s s' : σ) : Option Conduct → σ
  | none => s'
  | some c => if 0 < c.calls then s' else s

theorem left_of_runs {active : Option Conduct} (h : Runs active) (s s' : σ) :
    left s s' active = s' := by
  cases active with
  | none => rfl
  | some c => exact if_pos (h c rfl)

theorem left_of_not_runs {active : Option Conduct} (h : ¬ Runs active) (s s' : σ) :
    left s s' active = s := by
  cases active with
  | none => exact absurd nofun h
  | some c =>
    refine if_neg fun hc => h ?_
    rintro _ ⟨⟩
    exact hc

/-- A call of a gate, given the result of the operation. -/
theorem dispatch_eq_of_result (m : Metrics) (active : Option Conduct) {op : Call σ α} {s s' : σ}
    {result : Except IoError α} (hop : ∀ place, op place s = (.returned result, s')) :
    dispatch m active op s = (closing result active).dispatched m (left s s' active) := by
  cases active with
  | none =>
    rw [dispatch, direct_eq_closed, hop]
    rfl
  | some c =>
    rw [dispatch, offload_eq_closed, c.follow_of_calm hop, closing, left]
    by_cases hc : 0 < c.calls
    · simp only [if_pos hc]
    · simp only [if_neg hc]
      rfl

/-- **A gate sees nothing but the result** of an operation that gives one, and executes it if there
is no adapter or the adapter calls the work. -/
theorem dispatch_of_result (m : Metrics) (active : Option Conduct) {op : Call σ α} {s s' : σ}
    {result : Except IoError α} (hop : ∀ place, op place s = (.returned result, s')) :
    ∃ left, dispatch m active op s = (closing result active).dispatched m left ∧
      (Runs active → left = s') :=
  ⟨_, dispatch_eq_of_result m active hop, fun hruns => left_of_runs hruns s s'⟩

end Gate

/-! ## What adapters get -/

namespace Session

variable {ω : Type}

/-- The adapters of a session got nothing, or one of them got one operation. -/
def Submitted (p : Primitive) (t t' : Session) : Prop :=
  t'.adapters = t.adapters ∨ ∃ o key a, p.operation? = some o ∧ t.adapters.get? key = some a ∧
    t'.adapters = t.adapters.insert key (a.submit o)

theorem adapters_submitting (t : Session) (around : Surroundings) (o : Operation) :
    (t.submitting around o).adapters = t.adapters ∨ ∃ key a, t.adapters.get? key = some a ∧
      (t.submitting around o).adapters = t.adapters.insert key (a.submit o) := by
  unfold submitting
  split
  · next key a hinstalled hactive =>
    obtain ⟨hadapter, -⟩ := Option.filter_eq_some_iff.mp hactive
    rw [adapter?, hinstalled] at hadapter
    exact .inr ⟨key, a, hadapter, rfl⟩
  · exact .inl rfl

/-- **A primitive is at most one piece of work** for the adapters of a session. -/
theorem submitted_perform (t : Session) (around : Surroundings) (buffers : List (List UInt8))
    (p : Primitive) : t.Submitted p (t.perform around buffers p : Session × Answer ω).1 := by
  unfold perform
  cases hsubmits : p.submits buffers with
  | none => exact .inl rfl
  | some o =>
    have ho : p.operation? = some o := by
      unfold Primitive.submits at hsubmits
      split at hsubmits
      · exact absurd hsubmits (by simp)
      · exact hsubmits
    obtain hnone | ⟨key, a, ha, hone⟩ := t.adapters_submitting around o
    · exact .inl hnone
    · exact .inr ⟨o, key, a, ho, ha, hone⟩

end Session

namespace Primitive

/-! ## Primitives that repeat requests -/

/-- The primitives that move data, wait for storage or wait for somebody else's lock. -/
def MayWait : Primitive → Prop
  | read _ | pread _ _ | readv _ | write _ _ | pwrite _ _ _ | writev _ _ | force _ _ | truncate _ _
  | lock _ true _ _ _ => True
  | seek _ _ | position _ | size _ | lock _ false _ _ _ | release _ _ _ | close _ => False

/-- The primitives that look at the state of a descriptor or change it, and do not close it. -/
def Controls : Primitive → Prop
  | seek _ _ | position _ | size _ | lock _ false _ _ _ | release _ _ _ => True
  | read _ | pread _ _ | readv _ | write _ _ | pwrite _ _ _ | writev _ _ | force _ _ | truncate _ _
  | lock _ true _ _ _ | close _ => False

variable {σ : Type} {p : Primitive}

theorem MayWait.persists (hp : p.MayWait) : p.persists = true := by
  cases p with
  | lock fd wait position length shared =>
    cases wait with
    | true => rfl
    | false => exact hp.elim
  | seek fd offset | position fd | size fd | release fd position length | close fd =>
    exact hp.elim
  | _ => rfl

theorem Controls.not_persists (hp : p.Controls) : p.persists = false := by
  cases p with
  | lock fd wait position length shared =>
    cases wait with
    | true => exact hp.elim
    | false => rfl
  | seek fd offset | position fd | size fd | release fd position length => rfl
  | _ => exact hp.elim

theorem Controls.operation? (hp : p.Controls) : p.operation? = none := by
  cases p with
  | seek fd offset | position fd | size fd | lock fd wait position length shared
  | release fd position length => rfl
  | _ => exact hp.elim

/-- An error is the answer, unless a lock is in the way of one that does not wait. -/
theorem answer_error (p : Primitive) (e : Errno) :
    p.answer (.error e) = .error (.os e) ∨ p.answer (.error e) = .ok .contended := by
  cases p with
  | lock fd wait position length shared =>
    cases wait with
    | true => exact .inl rfl
    | false =>
      rw [answer, failure]
      split
      · exact .inr rfl
      · exact .inl rfl
  | _ => exact .inl rfl

theorem MayWait.answer_error (hp : p.MayWait) (e : Errno) :
    p.answer (.error e) = .error (.os e) := by
  cases p with
  | lock fd wait position length shared =>
    cases wait with
    | true => rfl
    | false => exact hp.elim
  | _ => rfl

theorem answer_ne_interrupted {out : Except Errno Yield} (hne : out ≠ .error .interrupted) :
    p.answer out ≠ .error (.os .interrupted) := by
  cases out with
  | ok y => simp [answer]
  | error e =>
    obtain h | h := p.answer_error e <;> rw [h]
    · simpa using hne
    · simp

/-! ## What callers get -/

/-- How a primitive is closed whose request got an answer. -/
def closing (p : Primitive) (out : Except Errno Yield) (active : Option Conduct) :
    Gate.Closing Value :=
  if p.operation?.isSome then Gate.closing (p.answer out) active
  else ⟨[], .returned (p.answer out)⟩

variable {K : Kernel σ} {patience : σ → Nat} {buffers : List (List UInt8)} {r : Request} {k : Nat}
  {s s' s'' : σ} {out : Except Errno Yield}

/-- **Callers see nothing but the answer** that the request of a primitive got in the end. -/
theorem performOn_of_submitOn (patience : σ → Nat) (hr : p.request buffers = .ok r)
    (hout : p.submitOn K (patience s) r s = (out, s')) (m : Metrics) (active : Option Conduct) :
    ∃ left, p.performOn K patience buffers m active s = (p.closing out active).dispatched m left ∧
      (Gate.Runs active → left = s') := by
  have hcall (place : Place) :
      p.asCallOn K patience r place s = (.returned (p.answer out), s') := by rw [asCallOn, hout]
  simp only [performOn, hr, closing]
  by_cases hgated : p.operation?.isSome
  · simp only [if_pos hgated]
    exact Gate.dispatch_of_result m active hcall
  · simp only [if_neg hgated, hcall]
    exact ⟨s', rfl, fun _ => rfl⟩

/-- Nothing is lost on the way to the caller if the adapter is diligent. -/
theorem ending_closing {active : Option Conduct} (hactive : ∀ c, active = some c → c.Diligent) :
    (p.closing out active).ending = .returned (p.answer out) := by
  unfold closing
  split
  · cases active with
    | none => rfl
    | some c =>
      have hc := hactive c rfl
      rw [Gate.closing, hc.succeeds, if_pos hc.runs]
      rfl
  · rfl

/-- A primitive that passes the gate is one operation to it, and any other one is none. -/
theorem metrics_performOn (hr : p.request buffers = .ok r) (m : Metrics) (active : Option Conduct) :
    if p.operation?.isSome then
      Gate.OneMore m (p.performOn K patience buffers m active s).metrics (Gate.pathOf active)
    else (p.performOn K patience buffers m active s).metrics = m := by
  unfold performOn
  rw [hr]
  by_cases hgated : p.operation?.isSome
  · simp only [if_pos hgated]
    exact Gate.dispatch_oneMore m active _ s
  · simp only [if_neg hgated]

/-- What there is to see of a primitive whose request `r` was interrupted `k` times, which led from
`s` to `s'`, and was answered then with `out`, which led to `s''`.

Adapters that do their work bring the answer to the caller.  The request is issued once more than it
was interrupted, and nothing else is.  Whatever the adapter does, caller and counters get what they
get without interruptions, and all requests are one operation to the gate.  What a request brought
is given as a value, an error that it met is given as it is, and an interruption is never given. -/
structure Seamless (p : Primitive) (K : Kernel σ) (patience : σ → Nat) (buffers : List (List UInt8))
    (m : Metrics) (active : Option Conduct) (r : Request) (k : Nat) (s s' s'' : σ)
    (out : Except Errno Yield) : Prop where
  answered : (∀ c, active = some c → c.Diligent) →
    (p.performOn K patience buffers m active s).ending = .returned (p.answer out)
  requests : Gate.Runs active → (p.performOn K patience buffers m active s).state = s'' ∧
    (p.performOn K.noted (patience ·.2) buffers m active ([], s)).state =
      (List.replicate (k + 1) r, s'')
  alone : (p.performOn K patience buffers m active s).ending =
      (p.performOn K patience buffers m active s').ending ∧
    (p.performOn K patience buffers m active s).metrics =
      (p.performOn K patience buffers m active s').metrics
  counted : if p.operation?.isSome then
      Gate.OneMore m (p.performOn K patience buffers m active s).metrics (Gate.pathOf active)
    else (p.performOn K patience buffers m active s).metrics = m
  answers : (∀ y, p.answer (.ok y) = .ok (p.value y)) ∧
    (∀ e, p.answer (.error e) = .error (.os e)) ∧ p.answer out ≠ .error (.os .interrupted)

theorem MayWait.submitOn (hp : p.MayWait) {n : Nat} (hk : K.Interrupted r k s s') (hn : k ≤ n)
    (hout : K r s' = (out, s'')) (hne : out ≠ .error .interrupted) :
    p.submitOn K n r s = (out, s'') := by
  rw [Primitive.submitOn, if_pos hp.persists]
  exact hk.retry hn hout hne

theorem MayWait.seamless (hp : p.MayWait) (hr : p.request buffers = .ok r)
    (hk : K.Interrupted r k s s') (hpatience : k ≤ patience s) (hout : K r s' = (out, s''))
    (hne : out ≠ .error .interrupted) (m : Metrics) (active : Option Conduct) :
    p.Seamless K patience buffers m active r k s s' s'' out := by
  have hnoted : K.noted r (List.replicate k r ++ [], s') =
      (out, (List.replicate (k + 1) r, s'')) := by
    rw [Kernel.noted, hout, List.append_nil, List.replicate_succ]
  obtain ⟨left, hd, hleft⟩ := performOn_of_submitOn patience hr
    (hp.submitOn hk hpatience hout hne) m active
  obtain ⟨left', hd', -⟩ := performOn_of_submitOn patience hr
    (hp.submitOn (.zero s') (Nat.zero_le _) hout hne) m active
  obtain ⟨left'', hd'', hleft''⟩ := performOn_of_submitOn (patience ·.2) hr
    (hp.submitOn (hk.noted []) hpatience hnoted hne) m active
  refine ⟨fun hactive => ?_, fun hruns => ?_, ?_, metrics_performOn hr m active, ?_⟩
  · rw [hd]
    exact ending_closing hactive
  · rw [hd, hd'']
    exact ⟨hleft hruns, hleft'' hruns⟩
  · rw [hd, hd']
    exact ⟨rfl, rfl⟩
  · exact ⟨fun _ => rfl, hp.answer_error, answer_ne_interrupted hne⟩

/-- **Interruptions do not show.**

Take a primitive that may wait, on any operating system and through a gate with any adapter or none.
Its request is interrupted `k` times in a row, and then answered, with whatever the system likes
except an interruption.  The caller gets what the answer alone would have brought, after `k + 1`
requests that are all the same, and to the gate and its adapters it is one operation. -/
theorem perform_interrupted {σ : Type} {p : Primitive} (hp : p.MayWait) {K : Kernel σ}
    {patience : σ → Nat} {buffers : List (List UInt8)} {r : Request}
    (hr : p.request buffers = .ok r) {k : Nat} {s s' s'' : σ} (hk : K.Interrupted r k s s')
    (hpatience : k ≤ patience s) {out : Except Errno Yield} (hout : K r s' = (out, s''))
    (hne : out ≠ .error .interrupted) (m : Metrics) (active : Option Conduct) :
    p.Seamless K patience buffers m active r k s s' s'' out ∧
      (∀ st, p.perform m active st =
        p.performOn FileState.kernel FileState.patience st.buffers m active st) ∧
      ∀ (ω : Type) (t : Session) (around : Surroundings),
        t.Submitted p (t.perform around buffers p : Session × Session.Answer ω).1 :=
  ⟨hp.seamless hr hk hpatience hout hne m active, p.perform_eq_performOn m active,
    fun _ t around => t.submitted_perform around buffers p⟩

/-- An operating system that interrupts as many requests as its state says, and then transfers two
bytes. -/
def twoBytes : Kernel Nat
  | _, 0 => (.ok (.number 2), 0)
  | _, n + 1 => (.error .interrupted, n)

/-- A write of three bytes, handed to an adapter that calls its work twice, is interrupted three
times and then writes two bytes: it is one operation with four requests. -/
theorem perform_interrupted_shortWrite :
    let p : Primitive := .write 1 [7, 8, 9]
    let d := p.performOn twoBytes id [] .zero (some .twice) 3
    p.MayWait ∧ p.request [] = .ok (.write 1 [7, 8, 9]) ∧
      twoBytes.Interrupted (.write 1 [7, 8, 9]) 3 3 0 ∧ d.ending = .returned (.ok (.number 2)) ∧
      (p.performOn twoBytes.noted (·.2) [] .zero (some .twice) ([], 3)).state.1 =
        List.replicate 4 (.write 1 [7, 8, 9]) ∧
      (d.metrics.path .offloaded).operations = 1 := by
  have hk : twoBytes.Interrupted (.write 1 [7, 8, 9]) 3 3 0 :=
    .succ rfl (.succ rfl (.succ rfl (.zero 0)))
  obtain ⟨hseamless, -, -⟩ := @perform_interrupted Nat (.write 1 [7, 8, 9]) trivial twoBytes id [] _
    rfl 3 3 0 0 hk (Nat.le_refl 3) (.ok (.number 2)) rfl nofun .zero (some .twice)
  refine ⟨trivial, rfl, hk, hseamless.answered ?_, ?_, hseamless.counted.operations .offloaded⟩
  · rintro c ⟨⟩
    exact Conduct.diligent_twice
  · have hruns : Gate.Runs (some .twice) := by
      rintro c ⟨⟩
      exact Conduct.diligent_twice.runs
    exact congrArg Prod.fst (hseamless.requests hruns).2

/-! ## Primitives that do not repeat requests -/

theorem answer_interrupted (p : Primitive) :
    p.answer (.error .interrupted) = .error (.os .interrupted) := by
  cases p with
  | lock fd wait position length shared => cases wait <;> rfl
  | _ => rfl

/-- A primitive that controls issues its request on the spot, once. -/
theorem Controls.performOn_eq (hp : p.Controls) (hr : p.request buffers = .ok r) (m : Metrics)
    (active : Option Conduct) : p.performOn K patience buffers m active s =
      ⟨.returned (p.answer (K r s).1), m, (K r s).2⟩ := by
  simp [performOn, hr, hp.operation?, asCallOn, submitOn, hp.not_persists]

/-- **One interruption is an answer.**

Take a primitive that controls a descriptor, on any operating system and through a gate with any
adapter or none.  If its request would be interrupted `k` times in a row and then answered, then the
caller gets that answer exactly if there is no interruption.  Otherwise the interruption is what he
gets.  Either way there is one request, and the gate has nothing to do with it. -/
theorem perform_control_interrupted {σ : Type} {p : Primitive} (hp : p.Controls) {K : Kernel σ}
    {patience : σ → Nat} {buffers : List (List UInt8)} {r : Request}
    (hr : p.request buffers = .ok r) {k : Nat} {s s' s'' : σ} (hk : K.Interrupted r k s s')
    {out : Except Errno Yield} (hout : K r s' = (out, s'')) (hne : out ≠ .error .interrupted)
    (m : Metrics) (active : Option Conduct) :
    ((p.performOn K patience buffers m active s).ending = .returned (p.answer out) ↔ k = 0) ∧
      (0 < k → (p.performOn K patience buffers m active s).ending =
        .returned (.error (.os .interrupted))) ∧
      (p.performOn K patience buffers m active s).metrics = m ∧
      (p.performOn K.noted (patience ·.2) buffers m active ([], s)).state.1 = [r] ∧
      ∀ st, p.perform m active st =
        p.performOn FileState.kernel FileState.patience st.buffers m active st := by
  rw [hp.performOn_eq hr, hp.performOn_eq hr]
  refine ⟨?_, fun hpos => ?_, rfl, rfl, p.perform_eq_performOn m active⟩
  · cases hk with
    | zero => simp [hout]
    | succ h hrest =>
      have hanswer : p.answer out ≠ .error (.os .interrupted) := answer_ne_interrupted hne
      simp [h, answer_interrupted, hanswer.symm]
  · cases hk with
    | zero => exact absurd hpos (Nat.lt_irrefl 0)
    | succ h hrest => rw [h, answer_interrupted]

/-- A file of three bytes behind the descriptor 1, the first ten positions of which are locked, and
the errors that the next requests meet. -/
def disturbedFile (faults : List Errno) : FileState :=
  let (system, fd) := { System.empty with nextDescriptor := 1 }.openFile [1, 2, 3]
  ⟨{ (system.issue (.lock fd false (some false) 0 10)).2 with faults := faults }, []⟩

/-- A release that would succeed at the second request fails at the first one. -/
theorem perform_control_interrupted_release :
    let p : Primitive := .release 1 0 10
    let r : Request := .lock 1 false none 0 10
    ∃ s' s'', p.Controls ∧ p.request [] = .ok r ∧
      FileState.kernel.Interrupted r 1 (disturbedFile [.interrupted]) s' ∧
      FileState.kernel r s' = (.ok (.number 0), s'') ∧
      (p.performOn FileState.kernel FileState.patience [] .zero none
        (disturbedFile [.interrupted])).ending = .returned (.error (.os .interrupted)) ∧
      (p.performOn FileState.kernel.noted (·.2.patience) [] .zero none
        ([], disturbedFile [.interrupted])).state.1 = [r] := by
  have hk : FileState.kernel.Interrupted (.lock 1 false none 0 10) 1
      (disturbedFile [.interrupted]) _ := .succ rfl (.zero _)
  obtain ⟨-, hinterrupted, -, hrequests, -⟩ :=
    @perform_control_interrupted FileState (.release 1 0 10) trivial FileState.kernel
      FileState.patience [] _ rfl 1 _ _ _ hk (.ok (.number 0)) rfl nofun .zero none
  exact ⟨_, _, trivial, rfl, hk, rfl, hinterrupted Nat.one_pos, hrequests⟩

/-- One of each of the primitives that control a descriptor. -/
def controlling : List Primitive :=
  [.seek 1 2, .position 1, .size 1, .lock 1 false 0 10 false, .release 1 0 10]

/-- The locks that a release leaves on a locked file. -/
def locksAfterRelease (faults : List Errno) : List RecordLock :=
  let d := (Primitive.release 1 0 10).perform .zero none (disturbedFile faults)
  (d.state.system.object 0).ours

/-- **An interrupted release keeps the lock**, and the other primitives that control a descriptor
fail as well, although each of them would succeed if its request were issued again. -/
theorem release_interrupted_keeps_lock :
    (controlling.map fun p => (p.perform .zero none (disturbedFile [.interrupted])).ending) =
        List.replicate 5 (.returned (.error (.os .interrupted))) ∧
      (controlling.map fun p => (p.perform .zero none (disturbedFile [])).ending) =
        [.returned (.ok (.number 2)), .returned (.ok (.number 0)), .returned (.ok (.number 3)),
          .returned (.ok .acquired), .returned (.ok .nothing)] ∧
      locksAfterRelease [.interrupted] = [⟨false, ⟨0, 9⟩⟩] ∧ locksAfterRelease [] = [] :=
  ⟨rfl, rfl, rfl, rfl⟩

end Primitive

end ResourceContainers
