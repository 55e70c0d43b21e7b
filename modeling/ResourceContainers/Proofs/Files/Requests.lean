import ResourceContainers.Proofs.Files.Kernel

/-!
# The requests that a system gets

A system keeps a list of its requests.  Serving a request leaves the list alone, so a request that
is issued is one more entry, and a request that is issued again for as long as it is interrupted is
a number of equal entries.

* `Kernel.Notes`: an operating system that keeps such a list.  `Kernel.Notes.submitOn`: what a
  primitive leaves on it.
* `System.requests_issue`: the operating system of this library keeps one.
* `Primitive.requests_carryOut`: the request of a primitive.
-/

namespace ResourceContainers

namespace Kernel

variable {σ : Type} {K : Kernel σ} {log : σ → List Request}

/-- An operating system keeps a list of its requests, the last first. -/
def Notes (K : Kernel σ) (log : σ → List Request) : Prop := ∀ r s, log (K r s).2 = r :: log s

theorem notes_noted (K : Kernel σ) : K.noted.Notes Prod.fst := fun _ _ => rfl

/-- A request that is repeated is issued once more than it was interrupted. -/
theorem Notes.retry (h : K.Notes log) (n : Nat) (r : Request) (s : σ) :
    ∃ k, log (K.retry n r s).2 = List.replicate (k + 1) r ++ log s := by
  induction n generalizing s with
  | zero => exact ⟨0, h r s⟩
  | succ n ih =>
    have hissue := h r s
    rw [Kernel.retry]
    split
    · next e t ht =>
      rw [ht] at hissue
      split
      · obtain ⟨k, hk⟩ := ih t
        have hlast : List.replicate (k + 1 + 1) r = List.replicate (k + 1) r ++ [r] :=
          List.replicate_succ'
        refine ⟨k + 1, ?_⟩
        rw [hk, hissue, hlast, List.append_assoc, List.singleton_append]
      · exact ⟨0, hissue⟩
    · next y t ht =>
      rw [ht] at hissue
      exact ⟨0, hissue⟩

theorem Notes.submitOn (h : K.Notes log) (p : Primitive) (n : Nat) (r : Request) (s : σ) :
    ∃ k, log (p.submitOn K n r s).2 = List.replicate (k + 1) r ++ log s := by
  unfold Primitive.submitOn
  split
  · exact h.retry n r s
  · exact ⟨0, h r s⟩

end Kernel

namespace System

theorem requests_dropDescriptor (s : System) (fd : Descriptor) :
    (s.dropDescriptor fd).requests = s.requests := by
  unfold dropDescriptor
  split <;> rfl

variable {s s' : System} {y : Yield}

theorem requests_serveRead {d : Nat} {x : Description} {count : Nat} {offset? : Option Nat}
    (h : s.serveRead d x count offset? = .ok (y, s')) : s'.requests = s.requests := by
  unfold serveRead at h
  split at h
  · exact absurd h (by simp)
  split at h
  · cases h
    rfl
  · dsimp only at h
    split at h
    · exact absurd h (by simp)
    · cases h
      split <;> rfl

theorem requests_serveWrite {d : Nat} {x : Description} {data : List UInt8} {offset? : Option Nat}
    (h : s.serveWrite d x data offset? = .ok (y, s')) : s'.requests = s.requests := by
  unfold serveWrite at h
  split at h
  · exact absurd h (by simp)
  split at h
  · split at h
    · cases h
      rfl
    split at h
    · exact absurd h (by simp)
    · cases h
      rfl
  · dsimp only at h
    split at h
    · exact absurd h (by simp)
    · cases h
      split <;> rfl

theorem requests_serveTruncate {x : Description} {size : Nat}
    (h : s.serveTruncate x size = .ok (y, s')) : s'.requests = s.requests := by
  unfold serveTruncate at h
  split at h
  · exact absurd h (by simp)
  split at h
  · cases h
    rfl
  · exact absurd h (by simp)

/-- A lock or a gap that was set has taken the place of what was there. -/
theorem serveLock_ok {x : Description} {shared : Option Bool} {start length : Nat}
    (h : s.serveLock x shared start length = .ok (y, s')) :
    ∃ stretch, Stretch.ofLength? start length = some stretch ∧
      s' = s.setOurs x.object (RecordLock.replace shared stretch (s.object x.object).ours) := by
  unfold serveLock at h
  cases hstretch : Stretch.ofLength? start length with
  | none => simp [hstretch] at h
  | some stretch =>
    simp only [hstretch] at h
    cases shared with
    | none =>
      cases h
      exact ⟨stretch, rfl, rfl⟩
    | some shared =>
      dsimp only at h
      generalize (if shared then x.mode.readable else x.mode.writable) = permitted at h
      cases permitted with
      | false => exact absurd h (by simp)
      | true =>
        simp only [Bool.not_true, Bool.false_eq_true, if_false] at h
        split at h
        · exact absurd h (by simp)
        · cases h
          exact ⟨stretch, rfl, rfl⟩

theorem requests_serveLock {x : Description} {shared : Option Bool} {start length : Nat}
    (h : s.serveLock x shared start length = .ok (y, s')) : s'.requests = s.requests := by
  obtain ⟨stretch, -, rfl⟩ := serveLock_ok h
  rfl

theorem requests_serve {r : Request} (h : s.serve r = .ok (y, s')) :
    s'.requests = s.requests := by
  unfold serve at h
  split at h
  · exact absurd h (by simp)
  · cases r with
    | read fd count => exact requests_serveRead h
    | readv fd counts => exact requests_serveRead h
    | pread fd count offset =>
      simp only [serveOpen] at h
      split at h
      · exact absurd h (by simp)
      · exact requests_serveRead h
    | write fd data => exact requests_serveWrite h
    | writev fd buffers => exact requests_serveWrite h
    | pwrite fd data offset =>
      simp only [serveOpen] at h
      split at h
      · exact absurd h (by simp)
      · exact requests_serveWrite h
    | truncate fd size => exact requests_serveTruncate h
    | lock fd wait shared start length => exact requests_serveLock h
    | stat fd =>
      cases h
      rfl
    | close fd =>
      cases h
      exact requests_dropDescriptor s fd
    | sync fd metadata | seek fd offset | tell fd =>
      simp only [serveOpen] at h
      split at h
      · exact absurd h (by simp)
      · cases h
        rfl

theorem requests_afterFault (s : System) (r : Request) :
    (s.afterFault r).requests = s.requests := by
  unfold afterFault
  split
  · exact requests_dropDescriptor s _
  · rfl

/-- **A request is one entry**, whatever becomes of it. -/
theorem requests_issue (s : System) (r : Request) :
    (s.issue r).2.requests = r :: s.requests := by
  unfold issue
  dsimp only
  split
  · rw [requests_afterFault]
  · cases hserve : ({ s with requests := r :: s.requests } : System).serve r with
    | ok result => exact requests_serve hserve
    | error e => rfl

end System

theorem FileState.notes_kernel : kernel.Notes (·.system.requests) :=
  fun r st => System.requests_issue st.system r

namespace Primitive

theorem system_carryOut (p : Primitive) (r : Request) (st : FileState) :
    (p.carryOut r st).2.system = (p.submit st.system r).2 := by
  unfold carryOut
  split <;> next hsubmit => rw [hsubmit]

/-- A primitive whose request is carried out issues it once, and again for as long as it is
interrupted. -/
theorem requests_carryOut (p : Primitive) (r : Request) (st : FileState) :
    ∃ k, (p.carryOut r st).2.system.requests = List.replicate (k + 1) r ++ st.system.requests := by
  obtain ⟨k, hk⟩ := FileState.notes_kernel.submitOn p st.patience r st
  have hstate : (p.submitOn FileState.kernel st.patience r st).2 = (p.carryOut r st).2 :=
    congrArg Prod.snd (p.carryOut_eq_asCallOn r .same st)
  exact ⟨k, hstate ▸ hk⟩

end Primitive

end ResourceContainers
