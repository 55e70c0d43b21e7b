import ResourceContainers.Proofs.Interleaving.Locality

/-!
# Calls are nested, and the slot says where

A thread that goes into a container writes its slot, and on its way back it does not put back what
it found there: after an attachment it writes root, whatever was there before.  That this is right
anyway is a property of how calls are nested.  A call that attaches was started in root, and a call
that stepped out was started in what it goes back to.

* `Call.Fits`: what a call relies on about the binding around it.
* `binding`: the binding of a thread, read off its unfinished calls alone.
* `Thread.Sound`: the calls fit into one another, and the slot holds the binding.
* `Moves.sound`: every move keeps that, whatever other threads do to the pool.
-/

namespace ResourceContainers

/-! ## The ways in -/

namespace Passage

/-- The binding of a thread inside, where `outer` is its binding outside. -/
def inside (outer : Handle) : Passage → Handle
  | direct => outer
  | stepOut _ => .root
  | attach n => .managed n

/-- A way leads from `outer` into `target`. -/
def Fits (target outer : Handle) : Passage → Prop
  | direct => outer = target
  | stepOut back => target = .root ∧ outer = back ∧ back ≠ .root
  | attach n => target = .managed n ∧ outer = .root

theorem fits_of_choose {phase : Phase} {current target : Handle} {way : Passage}
    (h : choose phase current target = .ok way) : way.Fits target current := by
  cases target with
  | root =>
    cases current with
    | root => obtain rfl := Except.ok.inj h; rfl
    | managed n => obtain rfl := Except.ok.inj h; exact ⟨rfl, rfl, by simp⟩
  | managed n =>
    cases phase with
    | destroyed => exact absurd h (by simp [choose])
    | running =>
      simp only [choose] at h
      split at h
      · next hc => obtain rfl := Except.ok.inj h; exact hc
      · cases current with
        | root => obtain rfl := Except.ok.inj h; exact ⟨rfl, rfl⟩
        | managed m => exact absurd h (by simp [Handle.isRoot])

theorem Fits.inside_eq {target outer : Handle} {way : Passage} (h : way.Fits target outer) :
    way.inside outer = target := by
  cases way with
  | direct => exact h
  | stepOut back => exact h.1.symm
  | attach n => exact h.1.symm

theorem bind_bound (outer : Handle) (way : Passage) :
    way.bind (.bound outer) = .bound (way.inside outer) := by
  cases way <;> rfl

theorem Fits.unbind_bound {target outer : Handle} {way : Passage} (h : way.Fits target outer) :
    way.unbind (.bound (way.inside outer)) = .bound outer := by
  cases way with
  | direct => rfl
  | stepOut back => rw [h.2.1]; rfl
  | attach n => rw [h.2]; rfl

end Passage

namespace Scope

/-- The binding of a thread that is with a task, where `outer` is its binding outside. -/
def inside (t : Scope) (outer : Handle) : Visit → Handle
  | .direct => outer
  | .stepOut _ => .root
  | .bound => t.container

/-- A way leads from `outer` to a task. -/
def Fits (t : Scope) (outer : Handle) : Visit → Prop
  | .direct => outer = t.container
  | .stepOut back => t.container = .root ∧ outer = back ∧ back ≠ .root
  | .bound => outer = .root ∧ t.container ≠ .root

theorem fits_of_choose {t : Scope} {current : Handle} {visit : Visit}
    (h : t.choose current = .ok visit) : t.Fits current visit := by
  obtain ⟨container, attached⟩ := t
  cases container with
  | root =>
    cases current with
    | root => obtain rfl := Except.ok.inj h; rfl
    | managed n => obtain rfl := Except.ok.inj h; exact ⟨rfl, rfl, by simp⟩
  | managed n =>
    simp only [choose] at h
    split at h
    · next hc => obtain rfl := Except.ok.inj h; exact hc
    · cases current with
      | root => obtain rfl := Except.ok.inj h; exact ⟨rfl, by simp⟩
      | managed m => exact absurd h (by simp [Handle.isRoot])

theorem Fits.inside_eq {t : Scope} {outer : Handle} {visit : Visit} (h : t.Fits outer visit) :
    t.inside outer visit = t.container := by
  cases visit with
  | direct => exact h
  | stepOut back => exact h.1.symm
  | bound => rfl

theorem bind_bound (t : Scope) (outer : Handle) (visit : Visit) :
    t.bind (.bound outer) visit = .bound (t.inside outer visit) := by
  cases visit <;> rfl

theorem Fits.unbind_bound {t : Scope} {outer : Handle} {visit : Visit} (h : t.Fits outer visit) :
    unbind (.bound (t.inside outer visit)) visit = .bound outer := by
  cases visit with
  | direct => rfl
  | stepOut back => rw [h.2.1]; rfl
  | bound => rw [h.1]; rfl

theorem attached_of_attach {t t' : Scope} {p p' : Pool} (ht : t.container ≠ .root)
    (h : t.attach p = .ok (t', p')) : t'.container = t.container ∧ t'.attached = true := by
  obtain ⟨rfl, -, hroot | hattached⟩ | ⟨n, -, -, -, rfl⟩ := attach_cases h
  · exact absurd hroot ht
  · exact ⟨rfl, hattached⟩
  · exact ⟨rfl, rfl⟩

end Scope

namespace Interleaving

/-! ## Calls inside calls -/

namespace Call

/-- The binding of a thread whose innermost call this is, where `outer` is its binding outside. -/
def binding (outer : Handle) : Call → Handle
  | run _ (.inside way) | run _ (.leaving way) => way.inside outer
  | poll j (.inside visit) | poll j (.leaving visit _) => j.scope.inside outer visit
  | _ => outer

/-- What a call relies on about the binding outside.  A poll that goes to a task by making or using
its attachment relies on that as well. -/
def Fits (outer : Handle) : Call → Prop
  | run _ .checked => True
  | run target (.going way) | run target (.inside way) | run target (.leaving way) =>
    way.Fits target outer
  | run target (.acquired n) | run target (.unbound n) => Passage.Fits target outer (.attach n)
  | poll j (.going visit) => j.scope.Fits outer visit
  | poll j (.inside visit) | poll j (.leaving visit _) =>
    j.scope.Fits outer visit ∧ (visit = .bound → j.scope.attached = true)
  | poll j .acquired | poll j .unbound =>
    j.scope.Fits outer .bound ∧ j.scope.attached = true

end Call

/-- The binding of a thread, read off its unfinished calls. -/
def binding : List Call → Handle
  | [] => .root
  | c :: calls => c.binding (binding calls)

/-- Each call fits into those around it. -/
def Nested : List Call → Prop
  | [] => True
  | c :: calls => c.Fits (binding calls) ∧ Nested calls

/-- The calls of a thread are nested, and its slot holds the binding that they say. -/
structure Thread.Sound (th : Thread) : Prop where
  slot_eq : th.slot = .bound (binding th.calls)
  nested : Nested th.calls

namespace Thread

theorem sound_fresh : fresh.Sound := ⟨rfl, trivial⟩

/-- A command is executed in the container that its run is a run of. -/
theorem Sound.current_of_run {th : Thread} (h : th.Sound) {target : Handle} {way : Passage}
    {calls : List Call} (hc : th.calls = .run target (.inside way) :: calls) :
    th.slot.current = target := by
  have hfit : way.Fits target (binding calls) := (hc ▸ h.nested).1
  rw [h.slot_eq, hc]
  exact hfit.inside_eq

theorem Sound.current_of_poll {th : Thread} (h : th.Sound) {j : Job} {visit : Scope.Visit}
    {calls : List Call} (hc : th.calls = .poll j (.inside visit) :: calls) :
    th.slot.current = j.scope.container := by
  have hfit : j.scope.Fits (binding calls) visit := (hc ▸ h.nested).1.1
  rw [h.slot_eq, hc]
  exact hfit.inside_eq

end Thread

/-! ## Moves -/

/-- What a move leaves of the thread that makes it: the call that goes on fits into the calls around
it, and the slot holds the binding. -/
def Move.Sound (outer : Handle) (m : Move) : Prop :=
  match m.call with
  | some c => c.Fits outer ∧ m.slot = .bound (c.binding outer)
  | none => m.slot = .bound outer

section Moves

variable {p : Pool} {s : Slot} {outer : Handle} {m : Move}

theorem RunStage.Access.sound {target : Handle} {stage : RunStage}
    (h : RunStage.Access target p s stage m) (hf : (Call.run target stage).Fits outer)
    (hs : s = .bound ((Call.run target stage).binding outer)) : m.Sound outer := by
  subst hs
  cases h with
  | refused e => rfl
  | chosen e => exact ⟨Passage.fits_of_choose e, rfl⟩
  | unacquired e => rfl
  | acquired e => exact ⟨hf, rfl⟩
  | @entered way hway => exact ⟨hf, Passage.bind_bound outer way⟩
  | bound n => exact ⟨hf, Passage.bind_bound outer (.attach n)⟩
  | left hway => exact Passage.Fits.unbind_bound hf
  | unbound n =>
    have hattach : Passage.Fits target outer (.attach n) := hf
    exact ⟨hf, hattach.unbind_bound⟩
  | released n => rfl

theorem PollStage.Access.sound {j : Job} {stage : PollStage} (h : PollStage.Access j p s stage m)
    (hf : (Call.poll j stage).Fits outer) (hs : s = .bound ((Call.poll j stage).binding outer)) :
    m.Sound outer := by
  subst hs
  cases h with
  | failed e => rfl
  | acquired e =>
    obtain ⟨hcontainer, hattached⟩ := Scope.attached_of_attach hf.2 e
    exact ⟨⟨⟨hf.1, hcontainer ▸ hf.2⟩, hattached⟩, rfl⟩
  | @polled visit hvisit =>
    exact ⟨⟨hf, fun hbound => absurd hbound hvisit⟩, Scope.bind_bound j.scope outer visit⟩
  | bound => exact ⟨⟨hf.1, fun _ => hf.2⟩, Scope.bind_bound j.scope outer .bound⟩
  | left hleft => exact Scope.Fits.unbind_bound hf.1
  | unbound => exact ⟨⟨hf.1, hf.2 rfl⟩, Scope.Fits.unbind_bound hf.1⟩
  | released => rfl

theorem Call.Finish.sound {c c' : Call} {ending : Ending} (h : Call.Finish ending c c')
    (hf : c.Fits outer) : c'.Fits outer ∧ c'.binding outer = c.binding outer := by
  cases h with
  | run hending => exact ⟨hf, rfl⟩
  | poll => exact ⟨hf, rfl⟩

theorem RunStart.sound {target : Handle} (h : RunStart p (.bound outer) target m) :
    m.Sound outer := by
  cases h with
  | refused target why => rfl
  | checked hrunning => exact ⟨trivial, rfl⟩
  | chosen e => exact ⟨Passage.fits_of_choose e, rfl⟩

theorem PollStart.sound {j : Job} (h : PollStart p (.bound outer) j m) : m.Sound outer := by
  cases h with
  | failed e => rfl
  | chosen e => exact ⟨Scope.fits_of_choose e, rfl⟩

/-- **Every move keeps a thread sound.**  Nothing is asked of the pool. -/
theorem Moves.sound {number number' : Nat} {c : Option Call} {j : Option Job} {calls : List Call}
    (hm : Moves p s number c j m number') (h : Thread.Sound ⟨s, c.toList ++ calls⟩) :
    Thread.Sound ⟨m.slot, m.call.toList ++ calls⟩ := by
  obtain ⟨hs, hn⟩ := h
  have hfinal (hn : Nested calls) (hm : m.Sound (binding calls)) :
      Thread.Sound ⟨m.slot, m.call.toList ++ calls⟩ := by
    unfold Move.Sound at hm
    cases hc : m.call with
    | none => rw [hc] at hm; exact ⟨hm, hn⟩
    | some c' => rw [hc] at hm; exact ⟨hm.2, hm.1, hn⟩
  cases hm with
  | run ha => exact hfinal hn.2 (ha.sound hn.1 hs)
  | poll ha => exact hfinal hn.2 (ha.sound hn.1 hs)
  | finish hc =>
    obtain ⟨hf, hb⟩ := hc.sound hn.1
    exact ⟨hs.trans (congrArg Slot.bound hb.symm), hf, hn.2⟩
  | request hq => exact ⟨hs, hn⟩
  | scope h => exact ⟨hs, hn⟩
  | drop j => exact ⟨hs, hn⟩
  | startRun hr =>
    obtain rfl : s = .bound (binding calls) := hs
    exact hfinal hn hr.sound
  | startPoll hp =>
    obtain rfl : s = .bound (binding calls) := hs
    exact hfinal hn hp.sound

end Moves

end Interleaving

end ResourceContainers
