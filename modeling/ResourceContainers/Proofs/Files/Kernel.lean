import ResourceContainers.Files.Primitive

/-!
# Primitives on any operating system

The operating system of this library serves its requests as files and pipes do, and meets errors
that were laid out beforehand.  Others transfer fewer bytes than they were asked for, or fail when
they like.  What a primitive makes of the answers to its requests has nothing to do with where they
come from, so here are the primitives on an operating system that answers as it likes.

* `Kernel`: an operating system, with the buffers that it fills.  `Kernel.filling`: one that fills
  the buffers of its caller.
* `Kernel.retry`: a request that is repeated for as long as it is interrupted.
* `Primitive.answer`: what a primitive gives for the answer to its request.
* `Primitive.performOn`: a primitive on any operating system.
* `Primitive.perform_eq_performOn`: the operating system of this library is one of them.
* `Kernel.Interrupted`: a request that is interrupted several times in a row.

## How long a request is repeated

A request that is interrupted for ever is repeated for ever.  As in `System.persist`, whoever
repeats a request does so for a number of interruptions that is fixed when he starts.  It does not
show in what he gets, as long as it is no less than the number of interruptions that there are.
-/

namespace ResourceContainers

/-- What an operating system answers to a request, and the state that it leaves. -/
abbrev Kernel (σ : Type) := Request → σ → Except Errno Yield × σ

namespace Kernel

variable {σ : Type}

/-- Issues a request again for at most `n` interruptions. -/
def retry (K : Kernel σ) : Nat → Request → σ → Except Errno Yield × σ
  | 0, r, s => K r s
  | n + 1, r, s =>
    match K r s with
    | (.error e, s) => if e = .interrupted then retry K n r s else (.error e, s)
    | (.ok y, s) => (.ok y, s)

/-- An operating system that notes its requests, the last first. -/
def noted (K : Kernel σ) : Kernel (List Request × σ) :=
  fun r s => ((K r s.2).1, (r :: s.1, (K r s.2).2))

end Kernel

/-- Puts what a request brought into buffers. -/
def FileState.fill (buffers : List (List UInt8)) : Except Errno Yield → List (List UInt8)
  | .ok (.bytes data) => scatter buffers data
  | .ok (.number _) | .error _ => buffers

/-- An operating system that fills the buffers of its caller with what it brings. -/
def Kernel.filling {σ : Type} (K : Kernel σ) : Kernel (σ × List (List UInt8)) :=
  fun r s => ((K r s.1).1, (K r s.1).2, FileState.fill s.2 (K r s.1).1)

namespace Primitive

variable {σ : Type}

/-- What a primitive gives for the answer to its request. -/
def answer (p : Primitive) : Except Errno Yield → Except IoError Value
  | .ok y => .ok (p.value y)
  | .error e => p.failure e

/-- Issues a request in the way of a primitive. -/
def submitOn (p : Primitive) (K : Kernel σ) (n : Nat) (r : Request) (s : σ) :
    Except Errno Yield × σ :=
  if p.persists then K.retry n r s else K r s

/-- A request as an operation that the gate can run anywhere. -/
def asCallOn (p : Primitive) (K : Kernel σ) (patience : σ → Nat) (r : Request) : Call σ Value :=
  fun _ s => (.returned (p.answer (p.submitOn K (patience s) r s).1),
    (p.submitOn K (patience s) r s).2)

/-- Performs a primitive on an operating system, with buffers of the lengths given. -/
def performOn (p : Primitive) (K : Kernel σ) (patience : σ → Nat) (buffers : List (List UInt8))
    (m : Metrics) (active : Option Conduct) (s : σ) : Dispatched σ Value :=
  match p.request buffers with
  | .error e => ⟨.returned (.error e), m, s⟩
  | .ok r =>
    if p.operation?.isSome then Gate.dispatch m active (p.asCallOn K patience r) s
    else
      let (ending, s) := p.asCallOn K patience r .same s
      ⟨ending, m, s⟩

end Primitive

/-! ## The operating system of this library -/

namespace FileState

/-- Files and pipes as an operating system. -/
def kernel : Kernel FileState :=
  fun r st => ((st.system.issue r).1,
    ⟨(st.system.issue r).2, fill st.buffers (st.system.issue r).1⟩)

/-- How often a request to files and pipes can be interrupted. -/
def patience (st : FileState) : Nat := st.system.faults.length

theorem retry_kernel (n : Nat) (r : Request) (st : FileState) :
    kernel.retry n r st = ((System.retry n st.system r).1,
      ⟨(System.retry n st.system r).2, fill st.buffers (System.retry n st.system r).1⟩) := by
  induction n generalizing st with
  | zero => rfl
  | succ n ih =>
    obtain ⟨out, s, hissue⟩ : ∃ out s, st.system.issue r = (out, s) := ⟨_, _, rfl⟩
    have hkernel : kernel r st = (out, ⟨s, fill st.buffers out⟩) := by rw [kernel, hissue]
    rw [Kernel.retry, System.retry, hkernel, hissue]
    cases out with
    | ok y => rfl
    | error e =>
      by_cases he : e = .interrupted
      · simp only [if_pos he]
        exact ih _
      · simp only [if_neg he]

end FileState

namespace Primitive

/-- A primitive submits its request to files and pipes as it does to any operating system. -/
theorem submitOn_kernel (p : Primitive) (r : Request) (st : FileState) :
    p.submitOn FileState.kernel st.patience r st = ((p.submit st.system r).1,
      ⟨(p.submit st.system r).2, FileState.fill st.buffers (p.submit st.system r).1⟩) := by
  unfold submitOn submit
  split
  · exact FileState.retry_kernel st.system.faults.length r st
  · rfl

theorem carryOut_eq_asCallOn (p : Primitive) (r : Request) (place : Place) (st : FileState) :
    p.asCallOn FileState.kernel FileState.patience r place st =
      (.returned (p.carryOut r st).1, (p.carryOut r st).2) := by
  rw [asCallOn, submitOn_kernel, carryOut]
  split <;> next hsubmit => rw [hsubmit]; rfl

/-- **A primitive on files and pipes** is one on an operating system. -/
theorem perform_eq_performOn (p : Primitive) (m : Metrics) (active : Option Conduct)
    (st : FileState) :
    p.perform m active st =
      p.performOn FileState.kernel FileState.patience st.buffers m active st := by
  unfold perform performOn
  cases p.request st.buffers with
  | error e => rfl
  | ok r =>
    have hcall : p.asCallOn FileState.kernel FileState.patience r = p.asCall r :=
      funext fun place => funext fun st => p.carryOut_eq_asCallOn r place st
    simp only [hcall]
    rfl

end Primitive

/-! ## Interruptions -/

namespace Kernel

variable {σ : Type} {K : Kernel σ} {r : Request} {k n : Nat} {s s' s'' : σ}
  {out : Except Errno Yield}

/-- `K.Interrupted r k s s'`: the request is issued `k` times in a row and interrupted each time,
which leads from `s` to `s'`. -/
inductive Interrupted (K : Kernel σ) (r : Request) : Nat → σ → σ → Prop
  | zero (s : σ) : Interrupted K r 0 s s
  | succ {k : Nat} {s s' s'' : σ} (h : K r s = (.error .interrupted, s'))
      (hrest : Interrupted K r k s' s'') : Interrupted K r (k + 1) s s''

theorem retry_of_answered (n : Nat) (hout : K r s = (out, s')) (hne : out ≠ .error .interrupted) :
    K.retry n r s = (out, s') := by
  cases n with
  | zero => exact hout
  | succ n =>
    rw [retry, hout]
    cases out with
    | ok y => rfl
    | error e => exact if_neg fun he => hne (congrArg Except.error he)

/-- **Interruptions do not show**: whoever repeats a request that is interrupted gets the first
answer that is none. -/
theorem Interrupted.retry (h : K.Interrupted r k s s') (hn : k ≤ n) (hout : K r s' = (out, s''))
    (hne : out ≠ .error .interrupted) : K.retry n r s = (out, s'') := by
  induction h generalizing n with
  | zero s => exact retry_of_answered n hout hne
  | succ h hrest ih =>
    obtain ⟨n, rfl⟩ : ∃ n', n = n' + 1 := ⟨n - 1, by omega⟩
    rw [Kernel.retry, h]
    exact ih (Nat.le_of_succ_le_succ hn) hout

/-- Each interruption is noted as one request. -/
theorem Interrupted.noted (h : K.Interrupted r k s s') (log : List Request) :
    K.noted.Interrupted r k (log, s) (List.replicate k r ++ log, s') := by
  induction h generalizing log with
  | zero s => exact .zero _
  | @succ k s s' s'' h hrest ih =>
    have hnoted : K.noted r (log, s) = (.error .interrupted, (r :: log, s')) := by
      rw [Kernel.noted, h]
    have hlog : List.replicate (k + 1) r ++ log = List.replicate k r ++ r :: log := by
      rw [List.replicate_succ', List.append_assoc, List.singleton_append]
    rw [hlog]
    exact .succ hnoted (ih (r :: log))

end Kernel

end ResourceContainers
