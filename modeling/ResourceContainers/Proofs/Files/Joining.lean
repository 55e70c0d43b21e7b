import ResourceContainers.Proofs.Files.Kernel

/-!
# Operating systems that join buffers

A request may come with several buffers.  A vectored read asks for the bytes of all of them at once,
and a vectored write hands all of them over.  On files, operating systems treat these buffers like
one buffer that joins them.

* `Kernel.Alike`, `Kernel.Alike.retry`: requests that are answered alike, also if they are repeated.
* `Kernel.Joins`: an operating system that joins buffers.
* `System.joins_asKernel`: the operating system of this library is one of them.

## What is the same

Two runs are compared, one of which makes vectored requests.  `Joins` leaves it open what they have
in common in the end: it may be the files and the positions in them, or whatever else somebody takes
an interest in, as long as no request of either kind tells states apart that have it in common.  The
operating system of this library notes its requests, and there the runs differ.
-/

namespace ResourceContainers

/-! ## Operating systems that join buffers -/

namespace Kernel

variable {σ σ' : Type} {K : Kernel σ} {K' : Kernel σ'} {r r' : Request} {R : σ → σ' → Prop}
  {s : σ} {s' : σ'}

/-- Two requests are answered alike in states that are alike, and leave such states. -/
def Alike (K : Kernel σ) (r : Request) (K' : Kernel σ') (r' : Request) (R : σ → σ' → Prop) : Prop :=
  ∀ s s', R s s' → (K r s).1 = (K' r' s').1 ∧ R (K r s).2 (K' r' s').2

theorem Alike.retry (h : K.Alike r K' r' R) (n : Nat) (hs : R s s') :
    (K.retry n r s).1 = (K'.retry n r' s').1 ∧ R (K.retry n r s).2 (K'.retry n r' s').2 := by
  induction n generalizing s s' with
  | zero => exact h s s' hs
  | succ n ih =>
    obtain ⟨hout, hstate⟩ := h s s' hs
    obtain ⟨out, t, ht⟩ : ∃ out t, K r s = (out, t) := ⟨_, _, rfl⟩
    obtain ⟨out', t', ht'⟩ : ∃ out t, K' r' s' = (out, t) := ⟨_, _, rfl⟩
    rw [ht, ht'] at hout hstate
    obtain rfl : out = out' := hout
    rw [Kernel.retry, Kernel.retry, ht, ht']
    cases out with
    | ok y => exact ⟨rfl, hstate⟩
    | error e =>
      by_cases he : e = .interrupted
      · simp only [if_pos he]
        exact ih hstate
      · simp only [if_neg he, true_and]
        exact hstate

theorem Alike.submitOn {p p' : Primitive} (h : K.Alike r K' r' R)
    (hp : p.persists = p'.persists) (n : Nat) (hs : R s s') :
    (p.submitOn K n r s).1 = (p'.submitOn K' n r' s').1 ∧
      R (p.submitOn K n r s).2 (p'.submitOn K' n r' s').2 := by
  unfold Primitive.submitOn
  rw [hp]
  split
  · exact h.retry n hs
  · exact h s s' hs

theorem Alike.filling (h : K.Alike r K' r' R) :
    K.filling.Alike r K'.filling r' fun x y => R x.1 y.1 ∧ x.2 = y.2 := by
  rintro ⟨s, buffers⟩ ⟨s', _⟩ ⟨hs, rfl⟩
  obtain ⟨hout, hstate⟩ := h s s' hs
  exact ⟨hout, hstate, congrArg (FileState.fill buffers) hout⟩

/-- Repeating a request does nothing to buffers before it is served. -/
theorem retry_filling (n : Nat) (r : Request) (s : σ × List (List UInt8)) :
    K.filling.retry n r s = ((K.retry n r s.1).1, (K.retry n r s.1).2,
      FileState.fill s.2 (K.retry n r s.1).1) := by
  induction n generalizing s with
  | zero => rfl
  | succ n ih =>
    obtain ⟨out, t, ht⟩ : ∃ out t, K r s.1 = (out, t) := ⟨_, _, rfl⟩
    have hfilling : K.filling r s = (out, t, FileState.fill s.2 out) := by rw [filling, ht]
    rw [Kernel.retry, Kernel.retry, hfilling, ht]
    cases out with
    | ok y => rfl
    | error e =>
      by_cases he : e = .interrupted
      · simp only [if_pos he]
        exact ih _
      · simp only [if_neg he]

theorem submitOn_filling (p : Primitive) (n : Nat) (r : Request) (s : σ × List (List UInt8)) :
    p.submitOn K.filling n r s = ((p.submitOn K n r s.1).1, (p.submitOn K n r s.1).2,
      FileState.fill s.2 (p.submitOn K n r s.1).1) := by
  unfold Primitive.submitOn
  split
  · exact retry_filling n r s
  · rfl

theorem exists_of_retry {n : Nat} {y : Yield} (h : (K.retry n r s).1 = .ok y) :
    ∃ t, (K r t).1 = .ok y := by
  induction n generalizing s with
  | zero => exact ⟨s, h⟩
  | succ n ih =>
    obtain ⟨out, t, ht⟩ : ∃ out t, K r s = (out, t) := ⟨_, _, rfl⟩
    rw [retry, ht] at h
    cases out with
    | ok z => exact ⟨s, by rw [ht]; exact h⟩
    | error e =>
      by_cases he : e = .interrupted
      · simp only [if_pos he] at h
        exact ih h
      · simp only [if_neg he] at h
        exact absurd h (by simp)

/-- **An operating system joins buffers** if a request with at most 1024 of them acts like the plain
one on the joined buffers, for all that is the same to whoever looks at the files.  What a read
brings is data that fits. -/
structure Joins (K : Kernel σ) (fd : Descriptor) (Same : σ → σ → Prop) : Prop where
  readv : ∀ counts : List Nat, counts.length ≤ maxBuffers →
    K.Alike (.readv fd counts) K (.read fd (counts.foldr (· + ·) 0)) Same
  writev : ∀ buffers : List (List UInt8), buffers.length ≤ maxBuffers →
    K.Alike (.writev fd buffers) K (.write fd buffers.flatten) Same
  brings : ∀ count s y, (K (.read fd count) s).1 = .ok y →
    ∃ data, y = .bytes data ∧ data.length ≤ count

theorem Joins.submitOn_brings {fd : Descriptor} {Same : σ → σ → Prop} (h : K.Joins fd Same)
    {p : Primitive} {n count : Nat} {y : Yield}
    (hy : (p.submitOn K n (.read fd count) s).1 = .ok y) :
    ∃ data, y = .bytes data ∧ data.length ≤ count := by
  unfold Primitive.submitOn at hy
  split at hy
  · obtain ⟨t, ht⟩ := exists_of_retry hy
    exact h.brings count t y ht
  · exact h.brings count s y hy

end Kernel

/-! ## The operating system of this library -/

namespace System

/-- A system with other requests noted. -/
def noting (s : System) (q : List Request) : System := { s with requests := q }

/-- Two systems that differ in nothing but the requests that they noted. -/
def SameFiles (s t : System) : Prop := s.noting [] = t.noting []

theorem SameFiles.refl (s : System) : s.SameFiles s := rfl

theorem SameFiles.faults_eq {s t : System} (h : s.SameFiles t) : s.faults = t.faults := by
  have hfaults : (s.noting []).faults = (t.noting []).faults := congrArg System.faults h
  exact hfaults

/-- What a request brings, and what it leaves with other requests noted. -/
def served (q : List Request) : Except Errno (Yield × System) → Except Errno (Yield × System)
  | .ok (y, s) => .ok (y, s.noting q)
  | .error e => .error e

theorem serveRead_noting (s : System) (q : List Request) (d : Nat) (x : Description) (count : Nat)
    (offset? : Option Nat) :
    (s.noting q).serveRead d x count offset? = served q (s.serveRead d x count offset?) := by
  unfold serveRead
  split
  · rfl
  · have hobject : (s.noting q).object x.object = s.object x.object := rfl
    rw [hobject]
    cases (s.object x.object).body with
    | pipe buffer => rfl
    | file content =>
      dsimp only
      split
      · rfl
      · cases offset? <;> rfl

theorem serveWrite_noting (s : System) (q : List Request) (d : Nat) (x : Description)
    (data : List UInt8) (offset? : Option Nat) :
    (s.noting q).serveWrite d x data offset? = served q (s.serveWrite d x data offset?) := by
  unfold serveWrite
  split
  · rfl
  · have hobject : (s.noting q).object x.object = s.object x.object := rfl
    rw [hobject]
    cases (s.object x.object).body with
    | pipe buffer =>
      dsimp only
      have hopen : (s.noting q).isOpen x.object Mode.readable = s.isOpen x.object Mode.readable :=
        rfl
      rw [hopen]
      split
      · rfl
      · split <;> rfl
    | file content =>
      dsimp only
      split
      · rfl
      · cases offset? <;> rfl

/-- A request is served alike, whatever was noted before, if open descriptions serve it so. -/
theorem serve_noting {s : System} {r : Request}
    (h : ∀ q d x, (s.noting q).serveOpen d x r = served q (s.serveOpen d x r)) (q : List Request) :
    (s.noting q).serve r = served q (s.serve r) := by
  have hdescription : (s.noting q).description? r.descriptor = s.description? r.descriptor := rfl
  unfold serve
  rw [hdescription]
  cases s.description? r.descriptor with
  | none => rfl
  | some x => exact h q x.1 x.2

theorem serve_read_noting (fd : Descriptor) (count : Nat) (s : System) (q : List Request) :
    (s.noting q).serve (.read fd count) = served q (s.serve (.read fd count)) :=
  serve_noting (r := .read fd count) (fun q d x => serveRead_noting s q d x count none) q

theorem serve_write_noting (fd : Descriptor) (data : List UInt8) (s : System) (q : List Request) :
    (s.noting q).serve (.write fd data) = served q (s.serve (.write fd data)) :=
  serve_noting (r := .write fd data) (fun q d x => serveWrite_noting s q d x data none) q

/-- Files and pipes as an operating system that leaves it to others to fill buffers. -/
def asKernel : Kernel System := fun r s => s.issue r

/-- What a request meets that would be served as given: a fault that is due, or else that. -/
def met (s : System) (out : Except Errno (Yield × System)) : Except Errno Yield × System :=
  match s.faults with
  | e :: rest => (.error e, { s with faults := rest })
  | [] =>
    match out with
    | .ok (y, s) => (.ok y, s)
    | .error e => (.error e, s)

theorem issue_noting {s : System} {r : Request} {out : Except Errno (Yield × System)}
    (hserve : ∀ q, (s.noting q).serve r = served q out)
    (hfault : ∀ t : System, t.afterFault r = t) (q : List Request) :
    (s.noting q).issue r = ((s.met out).1, (s.met out).2.noting (r :: q)) := by
  have hissue : (s.noting q).issue r = match s.faults with
      | e :: rest => (.error e, (noting { s with faults := rest } (r :: q)).afterFault r)
      | [] =>
        match (s.noting (r :: q)).serve r with
        | .ok (y, t) => (.ok y, t)
        | .error e => (.error e, s.noting (r :: q)) := rfl
  rw [hissue, hserve]
  unfold met
  cases s.faults with
  | cons e rest => simp only [hfault]
  | nil => cases out <;> rfl

/-- Requests that are served alike, whatever was noted before, are answered alike. -/
theorem alike_issue {r r' : Request} (hserve : ∀ s : System, s.serve r = s.serve r')
    (hnoting : ∀ (s : System) q, (s.noting q).serve r' = served q (s.serve r'))
    (hfault : ∀ s : System, s.afterFault r = s ∧ s.afterFault r' = s) :
    asKernel.Alike r asKernel r' SameFiles := by
  intro s t h
  -- Both systems are one and the same, with different requests noted.
  obtain ⟨u, hs, ht⟩ : ∃ u : System, u.noting s.requests = s ∧ u.noting t.requests = t :=
    ⟨s.noting [], rfl, by rw [show s.noting [] = t.noting [] from h]; rfl⟩
  have hissue := issue_noting (fun q => (hserve _).trans (hnoting u q)) (fun v => (hfault v).1)
    s.requests
  have hissue' := issue_noting (hnoting u) (fun v => (hfault v).2) t.requests
  rw [hs] at hissue
  rw [ht] at hissue'
  unfold asKernel
  rw [hissue, hissue']
  exact ⟨rfl, rfl⟩

theorem serveRead_brings {s s' : System} {d : Nat} {x : Description} {count : Nat}
    {offset? : Option Nat} {y : Yield} (h : s.serveRead d x count offset? = .ok (y, s')) :
    ∃ data, y = .bytes data ∧ data.length ≤ count := by
  unfold serveRead at h
  split at h
  · exact absurd h (by simp)
  · split at h
    · next buffer _ =>
      simp only [Except.ok.injEq, Prod.mk.injEq] at h
      exact ⟨_, h.1.symm, by rw [List.length_take]; omega⟩
    · next content _ =>
      dsimp only at h
      split at h
      · exact absurd h (by simp)
      · simp only [Except.ok.injEq, Prod.mk.injEq] at h
        exact ⟨_, h.1.symm, by rw [Content.read, List.length_map, List.length_range]; omega⟩

/-- **The operating system of this library joins buffers.** -/
theorem joins_asKernel (fd : Descriptor) : asKernel.Joins fd SameFiles where
  readv counts _ := alike_issue (fun _ => rfl) (serve_read_noting fd _) fun _ => ⟨rfl, rfl⟩
  writev buffers _ := alike_issue (fun _ => rfl) (serve_write_noting fd _) fun _ => ⟨rfl, rfl⟩
  brings count s y hy := by
    have hissue := issue_noting (serve_read_noting fd count s) (fun _ => rfl) s.requests
    rw [show s.noting s.requests = s from rfl] at hissue
    rw [asKernel, hissue] at hy
    unfold met at hy
    split at hy
    · exact absurd hy (by simp)
    · cases hserve : s.serve (.read fd count) with
      | error e => rw [hserve] at hy; exact absurd hy (by simp)
      | ok a =>
        obtain ⟨y', s'⟩ := a
        rw [hserve] at hy
        obtain rfl : y' = y := Except.ok.inj hy
        unfold serve at hserve
        split at hserve
        · exact absurd hserve (by simp)
        · exact serveRead_brings hserve

end System

end ResourceContainers
