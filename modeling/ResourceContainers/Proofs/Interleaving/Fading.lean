import ResourceContainers.Proofs.Interleaving.Accounting
import ResourceContainers.Proofs.Interleaving.Refusals

/-!
# Threads whose slots go

A thread that ends loses its slot before it is over.  What it executes after that, while it puts
away what belongs to it, may still run into containers.  It finds itself in root whatever it does,
because a slot that is gone reads as root and keeps nothing that is written to it.

The rule that nobody goes from one container straight into another one is read off the slot.  So
there are two kinds of thread, and every step leaves a thread of its kind or ends its slot.

* `Fading.Unfounded`: a run is about to detach from a container that its thread is not bound to.
* `Fading.Step`: a step of the world, or a thread that has come to its end loses its slot, or a run
  cannot detach.
* `Thread.Steady`: the slot holds the binding that the calls say, or is gone.
* `Within`: code is executed inside a command, and has not stepped out to root.
* `nesting_by_slot`: the rule holds for a thread as long as it has its slot, and after that every
  container that runs lets it in, for a command that is executed in root and a run that does not
  return.
* `nested_without_slot`: two commands, one inside the other, in two containers and both in root.
* `attached_of_failed`: what a run holds that cannot detach is never given back.

## How a run ends without a slot

Before a run writes root to the slot and gives its attachment back, it asserts that its thread is
bound to the container.  Without a slot that is false, and the run ends with a panic, before it has
undone anything.  If its command has panicked already, then this is a panic on the way out of a
panic, which ends the process; `Step` leads to no world then.
-/

namespace ResourceContainers

/-! ## What is written to a slot that is gone -/

theorem Passage.bind_gone (way : Passage) : way.bind .gone = .gone := by cases way <;> rfl

theorem Passage.unbind_gone (way : Passage) : way.unbind .gone = .gone := by cases way <;> rfl

theorem Scope.bind_gone (t : Scope) (visit : Scope.Visit) : t.bind .gone visit = .gone := by
  cases visit <;> rfl

theorem Scope.unbind_gone (visit : Scope.Visit) : Scope.unbind .gone visit = .gone := by
  cases visit <;> rfl

theorem Passage.Fits.eq_attach {way : Passage} {b : Nat} (h : way.Fits (.managed b) .root) :
    way = .attach b := by
  cases way with
  | direct => exact absurd h (by simp [Fits])
  | stepOut back => exact absurd h.1 (by simp)
  | attach n => rw [Handle.managed.inj h.1]

namespace Interleaving

/-! ## Slots that go -/

namespace Fading

/-- What happens in a world in which slots can go: a step of the world, a thread loses its slot, a
run fails to detach from a container, or the process ends because it does so in a panic. -/
inductive Happening
  | event (e : Event)
  | faded (thread : Nat)
  | failed (thread : Nat) (place : Nat)
  | aborted (thread : Nat) (place : Nat)

/-- The thread that something happens to. -/
def Happening.thread : Happening → Nat
  | .event e => e.thread
  | .faded k | .failed k _ | .aborted k _ => k

/-- The thread is about to detach from the container at `n`, after its command has ended or because
its command panics, and is not bound to that container. -/
inductive Unfounded (n : Nat) : Thread → Act → Prop
  | ended {s : Slot} {target : Handle} {calls : List Call} (hs : s.current ≠ .managed n) :
      Unfounded n ⟨s, .run target (.leaving (.attach n)) :: calls⟩ .next
  | panicked {s : Slot} {target : Handle} {calls : List Call} (hs : s.current ≠ .managed n) :
      Unfounded n ⟨s, .run target (.inside (.attach n)) :: calls⟩ (.finish .panicked)

/-- The thread `k` is left with some calls, and nothing else is changed. -/
def left (w : World) (k : Nat) (s : Slot) (calls : List Call) : World :=
  w.after k calls ⟨w.pool, s, none, none, .quiet⟩

/-- **One step**, and the world that it leads to, if the process goes on.  A thread loses its slot
when all its calls are over. -/
inductive Step (w : World) : Happening → Option World → Prop
  | event {k : Nat} {th : Thread} {a : Act} {note : Note} {v : World}
      (hth : w.threads[k]? = some th) (hfounded : ∀ n, ¬Unfounded n th a)
      (hs : w.step k a = some (v, note)) : Step w (.event ⟨k, a, note⟩) (some v)
  | fade {k : Nat} {s : Slot} (hth : w.threads[k]? = some ⟨s, []⟩) :
      Step w (.faded k) (some (left w k .gone []))
  | fail {k n : Nat} {s : Slot} {target : Handle} {calls : List Call}
      (hth : w.threads[k]? = some ⟨s, .run target (.leaving (.attach n)) :: calls⟩)
      (hs : s.current ≠ .managed n) : Step w (.failed k n) (some (left w k s calls))
  | abort {k n : Nat} {s : Slot} {target : Handle} {calls : List Call}
      (hth : w.threads[k]? = some ⟨s, .run target (.inside (.attach n)) :: calls⟩)
      (hs : s.current ≠ .managed n) : Step w (.aborted k n) none

/-- `Run w es v?`: what happened is `es`, the newest first, and led from `w` to `v?`. -/
inductive Run (w : World) : List Happening → Option World → Prop
  | nil : Run w [] (some w)
  | cons {es : List Happening} {e : Happening} {u : World} {v? : Option World}
      (hrun : Run w es (some u)) (hstep : Step u e v?) : Run w (e :: es) v?

end Fading

/-! ## Threads without a slot -/

/-- **A slot that is gone stays so**, whatever its thread does. -/
theorem Moves.slot_gone {p : Pool} {number number' : Nat} {c : Option Call} {j : Option Job}
    {m : Move} (hm : Moves p .gone number c j m number') : m.slot = .gone := by
  cases hm with
  | run h =>
    cases h with
    | entered hway => exact Passage.bind_gone _
    | left hway => exact Passage.unbind_gone _
    | _ => rfl
  | poll h =>
    cases h with
    | polled hvisit => exact Scope.bind_gone ..
    | left hleft => exact Scope.unbind_gone _
    | _ => rfl
  | startRun h => cases h <;> rfl
  | startPoll h => cases h <;> rfl
  | _ => rfl

/-- A run that was started in root and has not detached. -/
def Call.IsAdrift : Call → Prop
  | run target stage => (run target stage).Fits .root ∧ ∀ n, stage ≠ .unbound n
  | poll _ _ => True

/-- What a thread without a slot does, unless it detaches: the call that it goes on with is one that
was started in root, and it does not return from a managed container. -/
theorem Moves.adrift {p : Pool} {number number' : Nat} {c : Option Call} {j : Option Job}
    {m : Move} (hm : Moves p .gone number c j m number') (hc : ∀ c' ∈ c, c'.IsAdrift)
    (hstays : ∀ target n, c ≠ some (.run target (.leaving (.attach n)))) :
    (∀ c' ∈ m.call, c'.IsAdrift) ∧ ∀ b, m.note ≠ .returned (.managed b) := by
  have hgoes {c' : Call} {o : Option Call} (ho : o = some c') (h : c'.IsAdrift) :
      ∀ d ∈ o, d.IsAdrift := by
    rintro d hd
    obtain rfl : c' = d := Option.some.inj (ho.symm.trans hd)
    exact h
  cases hm with
  | @run target stage m h =>
    obtain ⟨hfit, hunbound⟩ : (Call.run target stage).IsAdrift := hc _ rfl
    cases h with
    | refused e => exact ⟨nofun, by simp⟩
    | chosen e => exact ⟨hgoes rfl ⟨Passage.fits_of_choose e, by simp⟩, by simp⟩
    | unacquired e => exact ⟨nofun, by simp⟩
    | acquired e => exact ⟨hgoes rfl ⟨hfit, by simp⟩, by simp⟩
    | entered hway => exact ⟨hgoes rfl ⟨hfit, by simp⟩, by simp⟩
    | bound n => exact ⟨hgoes rfl ⟨hfit, by simp⟩, by simp⟩
    | @left way hway =>
      refine ⟨nofun, fun b hb => ?_⟩
      obtain rfl : target = .managed b := Note.returned.inj hb
      exact hway b (Passage.Fits.eq_attach hfit)
    | unbound n => exact absurd rfl (hstays target n)
    | released n => exact absurd rfl (hunbound n)
  | poll h =>
    cases h with
    | failed e => exact ⟨nofun, by simp⟩
    | left hleft => exact ⟨nofun, by simp⟩
    | released => exact ⟨nofun, by simp⟩
    | _ => exact ⟨hgoes rfl trivial, by simp⟩
  | finish h =>
    cases h with
    | run hending => exact ⟨hgoes rfl ⟨(hc _ rfl).1, by simp⟩, by simp⟩
    | poll => exact ⟨hgoes rfl trivial, by simp⟩
  | request h => exact ⟨nofun, by cases h <;> simp⟩
  | scope h => exact ⟨nofun, by simp⟩
  | drop j => exact ⟨nofun, by simp⟩
  | startRun h =>
    cases h with
    | refused target why => exact ⟨nofun, by simp⟩
    | checked h => exact ⟨hgoes rfl ⟨trivial, by simp⟩, by simp⟩
    | chosen e => exact ⟨hgoes rfl ⟨Passage.fits_of_choose e, by simp⟩, by simp⟩
  | startPoll h =>
    cases h with
    | failed e => exact ⟨nofun, by simp⟩
    | chosen e => exact ⟨hgoes rfl trivial, by simp⟩

/-- The slot of a thread holds the binding that its calls say; or it is gone, and all runs of the
thread were started in root. -/
def Thread.Steady (th : Thread) : Prop :=
  th.Sound ∨ (th.slot = .gone ∧ ∀ c ∈ th.calls, c.IsAdrift)

namespace Fading

theorem not_unfounded {th : Thread} (h : th.Sound) (n : Nat) (a : Act) : ¬Unfounded n th a := by
  rintro (@⟨s, target, calls, hs⟩ | @⟨s, target, calls, hs⟩)
  · exact hs (congrArg Slot.current h.slot_eq)
  · exact hs (congrArg Slot.current h.slot_eq)

end Fading

/-! ## Inside a command -/

/-- The container in which the code of a call is executed. -/
def Call.target : Call → Handle
  | run target _ => target
  | poll j _ => j.scope.container

/-- Code that is executed inside these calls is executed inside the command of a run into the
container at `a`, and none of the calls since then is one of root. -/
inductive Within (a : Nat) : List Call → Prop
  | command (way : Passage) (outer : List Call) :
      Within a (.run (.managed a) (.inside way) :: outer)
  | deeper {c : Call} {calls : List Call} (h : Within a calls) (hc : c.target ≠ .root) :
      Within a (c :: calls)

/-- A call that does not step out to root leaves a thread in the container that it is in: it goes
straight on, or waits outside, because it attaches to a container only from root. -/
theorem Call.binding_of_target {c : Call} {a : Nat} (hf : c.Fits (.managed a))
    (hc : c.target ≠ .root) : c.binding (.managed a) = .managed a := by
  have hway {target : Handle} {way : Passage} (hfit : way.Fits target (.managed a))
      (htarget : target ≠ .root) : way.inside (.managed a) = .managed a := by
    cases way with
    | direct => rfl
    | stepOut back => exact absurd hfit.1 htarget
    | attach n => exact absurd hfit.2 (by simp)
  have hvisit {t : Scope} {visit : Scope.Visit} (hfit : t.Fits (.managed a) visit)
      (htarget : t.container ≠ .root) : t.inside (.managed a) visit = .managed a := by
    cases visit with
    | direct => rfl
    | stepOut back => exact absurd hfit.1 htarget
    | bound => exact absurd hfit.1 (by simp)
  cases c with
  | run target stage =>
    cases stage with
    | inside way => exact hway hf hc
    | leaving way => exact hway hf hc
    | _ => rfl
  | poll j stage =>
    cases stage with
    | inside visit => exact hvisit hf.1 hc
    | leaving visit ending => exact hvisit hf.1 hc
    | _ => rfl

/-- **Inside a command, nested calls are bound to its container** until they step out to root. -/
theorem Within.binding_eq {a : Nat} {calls : List Call} (h : Within a calls) (hn : Nested calls) :
    binding calls = .managed a := by
  induction h with
  | command way outer =>
    have hfit : way.Fits (.managed a) (binding outer) := hn.1
    exact hfit.inside_eq
  | @deeper c calls h hc ih =>
    have houter := ih hn.2
    show c.binding (binding calls) = .managed a
    rw [houter]
    exact Call.binding_of_target (houter ▸ hn.1) hc

theorem Within.current_eq {a : Nat} {th : Thread} (h : Within a th.calls) (hth : th.Sound) :
    th.slot.current = .managed a := by
  rw [hth.slot_eq]
  exact h.binding_eq hth.nested

/-- No command of another container is executed inside a command. -/
theorem Within.eq_of_run {a b : Nat} {th : Thread} (h : Within a th.calls) (hth : th.Sound)
    {way : Passage} {calls : List Call}
    (hcalls : th.calls = .run (.managed b) (.inside way) :: calls) : b = a :=
  Handle.managed.inj ((hth.current_of_run hcalls).symm.trans (h.current_eq hth))

namespace Fading

section Steps

variable {w u v : World} {e : Happening} {es : List Happening} {v? : Option World} {k : Nat}
  {th : Thread} {s : Slot} {calls : List Call} {a : Act} {note : Note}

theorem getElem?_left (hth : w.threads[k]? = some th) :
    (left w k s calls).threads[k]? = some ⟨s, calls⟩ :=
  World.getElem?_after (List.getElem?_eq_some_iff.mp hth).1

theorem getElem?_left_of_ne {l : Nat} (hl : l ≠ k) (hth : w.threads[k]? = some th) :
    (left w l s calls).threads[k]? = some th :=
  (List.getElem?_set_ne hl).trans hth

theorem not_detaching {c : Option Call} (hth : w.threads[k]? = some ⟨.gone, c.toList ++ calls⟩)
    (hfounded : ∀ n, ¬Unfounded n ⟨.gone, c.toList ++ calls⟩ a)
    (hs : w.step k a = some (v, note)) (target : Handle) (n : Nat) :
    c ≠ some (.run target (.leaving (.attach n))) := by
  rintro rfl
  obtain ⟨rfl, -⟩ := World.step_of_not_inside hth rfl hs
  exact hfounded n (.ended (by simp [Slot.current]))

/-- **One step of a thread without a slot.** -/
theorem step_adrift (hth : w.threads[k]? = some ⟨.gone, calls⟩)
    (hadrift : ∀ c ∈ calls, c.IsAdrift) (hfounded : ∀ n, ¬Unfounded n ⟨.gone, calls⟩ a)
    (hs : w.step k a = some (v, note)) :
    (∃ calls', v.threads[k]? = some ⟨.gone, calls'⟩) ∧ ∀ b, note ≠ .returned (.managed b) := by
  rcases World.step_cases hs with ⟨rfl, rfl⟩ | hmoved
  · exact ⟨⟨calls, World.getElem?_spawned hth⟩, by simp⟩
  · cases hmoved with
    | @intro Γ s c j m number hlen hm hthreads htasks =>
    have hmover := hth
    rw [hthreads, ← hlen, Γ.getElem?_world] at hmover
    obtain ⟨rfl, rfl⟩ := Thread.mk.inj (Option.some.inj hmover)
    have hc : ∀ c' ∈ c, c'.IsAdrift := fun c' hc' =>
      hadrift c' (List.mem_append_left _ (Option.mem_toList.mpr hc'))
    refine ⟨⟨m.call.toList ++ Γ.calls, ?_⟩, (hm.adrift hc (not_detaching hth hfounded hs)).2⟩
    rw [← hlen, Γ.getElem?_world, hm.slot_gone]

end Steps

/-! ## Steady threads -/

/-- All threads are steady. -/
def Steady (w : World) : Prop := ∀ th ∈ w.threads, th.Steady

section Steady

variable {w u v : World} {e : Happening} {es : List Happening} {v? : Option World} {k : Nat}
  {th : Thread} {s : Slot} {calls : List Call} {a : Act} {note : Note}

theorem steady_start : Steady .start := by
  intro th hth
  obtain rfl := List.mem_singleton.mp hth
  exact .inl Thread.sound_fresh

theorem Steady.left (hw : Steady w) (h : Thread.Steady ⟨s, calls⟩) :
    Steady (left w k s calls) := by
  intro th hth
  rcases List.mem_or_eq_of_mem_set hth with hth | rfl
  · exact hw th hth
  · exact h

/-- A steady thread that cannot detach has lost its slot. -/
theorem Steady.gone_of_unfounded (hw : Steady w) (hth : w.threads[k]? = some th) {n : Nat}
    (h : Unfounded n th a) : th.slot = .gone ∧ ∀ c ∈ th.calls, c.IsAdrift :=
  (hw th (List.mem_of_getElem? hth)).resolve_left fun hsound => not_unfounded hsound n a h

theorem Steady.event (hw : Steady w) (hth : w.threads[k]? = some th)
    (hfounded : ∀ n, ¬Unfounded n th a) (hs : w.step k a = some (v, note)) : Steady v := by
  rcases World.step_cases hs with ⟨rfl, -⟩ | hmoved
  · intro th hth
    rcases List.mem_append.mp hth with hth | hth
    · exact hw th hth
    · obtain rfl := List.mem_singleton.mp hth
      exact .inl Thread.sound_fresh
  · cases hmoved with
    | @intro Γ s c j m number hlen hm hthreads htasks =>
    have hmover := hth
    rw [hthreads, ← hlen, Γ.getElem?_world] at hmover
    obtain rfl := Option.some.inj hmover
    rw [Steady, hthreads] at hw
    obtain ⟨hbefore, hthread, hbehind⟩ := List.forall_mem_append.mp hw |>.imp_right
      List.forall_mem_cons.mp
    refine List.forall_mem_append.mpr ⟨hbefore, List.forall_mem_cons.mpr ⟨?_, hbehind⟩⟩
    rcases hthread with hsound | ⟨hgone, hadrift⟩
    · exact .inl (hm.sound hsound)
    · obtain rfl : s = .gone := hgone
      obtain ⟨hcall, hcalls⟩ := List.forall_mem_append.mp hadrift
      obtain ⟨hgoes, -⟩ := hm.adrift (fun c' hc' => hcall c' (Option.mem_toList.mpr hc'))
        (not_detaching hth hfounded hs)
      exact .inr ⟨hm.slot_gone, List.forall_mem_append.mpr
        ⟨fun c' hc' => hgoes c' (Option.mem_toList.mp hc'), hcalls⟩⟩

theorem Step.steady (hstep : Step w e (some v)) (hw : Steady w) : Steady v := by
  cases hstep with
  | event hth hfounded hs => exact hw.event hth hfounded hs
  | fade hth => exact hw.left (.inr ⟨rfl, nofun⟩)
  | fail hth hs =>
    obtain ⟨hgone, hadrift⟩ := hw.gone_of_unfounded hth (.ended hs)
    exact hw.left (.inr ⟨hgone, fun c hc => hadrift c (List.mem_cons_of_mem _ hc)⟩)

theorem Run.steady (hrun : Run .start es (some w)) : Steady w := by
  generalize hw : some w = w? at hrun
  induction hrun generalizing w with
  | nil =>
    obtain rfl := Option.some.inj hw
    exact steady_start
  | cons _ hstep ih => exact (hw ▸ hstep).steady (ih rfl)

theorem Run.trans {es' : List Happening} (hrun : Run w es (some u)) (hrun' : Run u es' v?) :
    Run w (es' ++ es) v? := by
  induction hrun' with
  | nil => exact hrun
  | cons _ hstep ih => exact .cons ih hstep

theorem Run.sound_of_slot (hrun : Run .start es (some w)) (hth : w.threads[k]? = some th)
    (hslot : th.slot ≠ .gone) : th.Sound :=
  (hrun.steady th (List.mem_of_getElem? hth)).resolve_right fun h => hslot h.1

/-- The runs of a thread without a slot were all started in root. -/
theorem Run.adrift (hrun : Run .start es (some w)) (hth : w.threads[k]? = some ⟨.gone, calls⟩) :
    ∀ c ∈ calls, c.IsAdrift := by
  rcases hrun.steady _ (List.mem_of_getElem? hth) with hsound | ⟨-, hadrift⟩
  · exact absurd hsound.slot_eq (by simp)
  · exact hadrift

theorem Step.getElem?_of_ne (hstep : Step w e (some v)) (he : e.thread ≠ k)
    (hth : w.threads[k]? = some th) : v.threads[k]? = some th := by
  cases hstep with
  | event _ _ hs => exact World.getElem?_step_of_ne hs he hth
  | fade _ => exact getElem?_left_of_ne he hth
  | fail _ _ => exact getElem?_left_of_ne he hth

/-- A thread without a slot is without a slot after every step, and no run of it returns from a
managed container. -/
theorem Step.gone (hstep : Step w e v?) (hth : w.threads[k]? = some ⟨.gone, calls⟩)
    (hadrift : ∀ c ∈ calls, c.IsAdrift) :
    (∀ v, v? = some v → ∃ calls', v.threads[k]? = some ⟨.gone, calls'⟩) ∧
      ∀ a b, e ≠ .event ⟨k, a, .returned (.managed b)⟩ := by
  by_cases he : e.thread = k
  · cases hstep with
    | @event l th a note v hl hfounded hs =>
      obtain rfl : l = k := he
      obtain rfl := Option.some.inj (hth.symm.trans hl)
      obtain ⟨hleft, hnote⟩ := step_adrift hth hadrift hfounded hs
      refine ⟨?_, fun a b h => hnote b ?_⟩
      · rintro v ⟨⟩
        exact hleft
      · exact congrArg Event.note (Happening.event.inj h)
    | @fade l s hl =>
      obtain rfl : l = k := he
      exact ⟨by rintro v ⟨⟩; exact ⟨[], getElem?_left hl⟩, by simp⟩
    | @fail l n s target outer hl hs =>
      obtain rfl : l = k := he
      obtain ⟨rfl, -⟩ := Thread.mk.inj (Option.some.inj (hl.symm.trans hth))
      exact ⟨by rintro v ⟨⟩; exact ⟨outer, getElem?_left hl⟩, by simp⟩
    | abort hl hs => exact ⟨nofun, by simp⟩
  · refine ⟨?_, ?_⟩
    · rintro v rfl
      exact ⟨calls, hstep.getElem?_of_ne he hth⟩
    · rintro a b rfl
      exact he rfl

/-- **A thread that has lost its slot**, at any later time. -/
theorem Run.gone {es' : List Happening} (hrun : Run .start es (some w))
    (hth : w.threads[k]? = some ⟨.gone, calls⟩) (hrun' : Run w es' v?) :
    (∀ v, v? = some v → ∃ calls', v.threads[k]? = some ⟨.gone, calls'⟩) ∧
      ∀ a b, .event ⟨k, a, .returned (.managed b)⟩ ∉ es' := by
  induction hrun' with
  | nil =>
    refine ⟨?_, by simp⟩
    rintro v ⟨⟩
    exact ⟨calls, hth⟩
  | cons hrun' hstep ih =>
    obtain ⟨hslot, hes⟩ := ih
    obtain ⟨calls', hu⟩ := hslot _ rfl
    obtain ⟨hleft, he⟩ := hstep.gone hu ((hrun.trans hrun').adrift hu)
    refine ⟨hleft, fun a b hmem => ?_⟩
    rcases List.mem_cons.mp hmem with h | h
    · exact he a b h.symm
    · exact hes a b h

end Steady

/-! ## Runs that are refused -/

/-- A run that the thread `k`, which was `th`, has started is refused for the reason `why`, whatever
other threads do meanwhile: it waits for that, or that was the next step of the thread, or the
process ended before. -/
inductive Refused (k : Nat) (th : Thread) (target : Handle) (why : Refusal) (w : World) :
    List Happening → Option World → Prop
  | waiting {es : List Happening} {u v : World} (hes : ∀ e ∈ es, e.thread ≠ k)
      (hth : u.threads[k]? = some ⟨th.slot, .run target .checked :: th.calls⟩)
      (hs : Step u (.event ⟨k, .next, .refused target why⟩) (some v)) :
      Refused k th target why w es (some u)
  | answered {newer older : List Happening} {u : World} {v? : Option World}
      (hes : ∀ e ∈ older, e.thread ≠ k)
      (hbefore : Run w (.event ⟨k, .next, .refused target why⟩ :: older) (some u))
      (hth : u.threads[k]? = some th) (hafter : Run u newer v?) :
      Refused k th target why w (newer ++ .event ⟨k, .next, .refused target why⟩ :: older) v?
  | aborted {es : List Happening} (hes : ∀ e ∈ es, e.thread ≠ k) :
      Refused k th target why w es none

section Refused

variable {w u v : World} {e : Happening} {es : List Happening} {v? : Option World} {k : Nat}
  {th : Thread} {calls : List Call}

theorem founded_perform (th : Thread) (d : Deed) (n : Nat) : ¬Unfounded n th (.perform d) := nofun

theorem founded_inward {s : Slot} {target : Handle} {stage : RunStage}
    (hstage : ∀ way, stage ≠ .leaving way) (calls : List Call) (n : Nat) :
    ¬Unfounded n ⟨s, .run target stage :: calls⟩ .next := by
  rintro ⟨⟩
  exact hstage _ rfl

/-- The next access of a run on its way in. -/
theorem step_inward {s : Slot} {target : Handle} {stage : RunStage} {m : Move}
    (hth : w.threads[k]? = some ⟨s, .run target stage :: calls⟩)
    (hm : stage.next target w.pool s = some m) (hstage : ∀ way, stage ≠ .leaving way) :
    Step w (.event ⟨k, .next, m.note⟩) (some (w.after k calls m)) ∧
      (w.after k calls m).threads[k]? = some ⟨m.slot, m.call.toList ++ calls⟩ := by
  exact ⟨.event hth (founded_inward hstage calls) (World.step_next_of_run .nil hth (by simp) hm),
    World.getElem?_after (List.getElem?_eq_some_iff.mp hth).1⟩

/-- A run that has looked at its container waits for a look at the slot. -/
theorem step_checked {s : Slot} {target : Handle} {why : Refusal}
    (hth : w.threads[k]? = some ⟨s, .run target .checked :: calls⟩)
    (hchoose : Passage.choose .running s.current target = .error why) :
    ∃ v, Step w (.event ⟨k, .next, .refused target why⟩) (some v) ∧
      v.threads[k]? = some ⟨s, calls⟩ :=
  ⟨_, step_inward hth (m := ⟨w.pool, s, none, none, .refused target why⟩)
    (by simp [RunStage.next, hchoose]) (by simp)⟩

theorem Step.eq_of_checked {s : Slot} {target : Handle} {why : Refusal}
    (hth : w.threads[k]? = some ⟨s, .run target .checked :: calls⟩)
    (hchoose : Passage.choose .running s.current target = .error why) (hstep : Step w e v?)
    (he : e.thread = k) : e = .event ⟨k, .next, .refused target why⟩ ∧
      ∃ v, v? = some v ∧ v.threads[k]? = some ⟨s, calls⟩ := by
  have hother {s' : Slot} {calls' : List Call} (h : w.threads[k]? = some ⟨s', calls'⟩) :
      calls' = .run target .checked :: calls :=
    (Thread.mk.inj (Option.some.inj (h.symm.trans hth))).2
  cases hstep with
  | @event l th a note v hl hfounded hs =>
    obtain rfl : l = k := he
    obtain ⟨v', hstep', hv'⟩ := step_checked hth hchoose
    obtain ⟨rfl, -⟩ := World.step_of_not_inside hth rfl hs
    cases hstep' with
    | event _ _ hs' =>
    obtain ⟨rfl, rfl⟩ := Prod.mk.inj (Option.some.inj (hs.symm.trans hs'))
    exact ⟨rfl, _, rfl, hv'⟩
  | @fade l s hl =>
    obtain rfl : l = k := he
    exact absurd (hother hl) (by simp)
  | @fail l n s target outer hl hs =>
    obtain rfl : l = k := he
    exact absurd (hother hl) (by simp)
  | @abort l n s target outer hl hs =>
    obtain rfl : l = k := he
    exact absurd (hother hl) (by simp)

/-- **A run that is going to be refused is refused**, however long it takes. -/
theorem Run.refused {target : Handle} {why : Refusal} (hrun : Run w es v?)
    (hth : w.threads[k]? = some ⟨th.slot, .run target .checked :: th.calls⟩)
    (hchoose : Passage.choose .running th.slot.current target = .error why) :
    Refused k th target why w es v? := by
  induction hrun with
  | nil =>
    obtain ⟨v, hs, -⟩ := step_checked hth hchoose
    exact .waiting (by simp) hth hs
  | @cons es e u v? hrun hstep ih =>
    cases ih with
    | answered hes hbefore hu' hafter => exact .answered hes hbefore hu' (hafter.cons hstep)
    | waiting hes hu hs =>
      by_cases he : e.thread = k
      · obtain ⟨rfl, v, rfl, hv⟩ := hstep.eq_of_checked hu hchoose he
        exact .answered hes (hrun.cons hstep) hv .nil
      · cases v? with
        | none => exact .aborted (List.forall_mem_cons.mpr ⟨he, hes⟩)
        | some v =>
          have hv := hstep.getElem?_of_ne he hu
          obtain ⟨v', hs', -⟩ := step_checked hv hchoose
          exact .waiting (List.forall_mem_cons.mpr ⟨he, hes⟩) hv hs'

theorem step_run {b : Nat} (hth : w.threads[k]? = some th) (hfree : th.isFree = true) :
    ∃ v note, Step w (.event ⟨k, .perform (.run (.managed b)), note⟩) (some v) ∧
      ((note = .refused (.managed b) .notRunning ∧ w.pool.phase (.managed b) = .destroyed ∧
          v.threads[k]? = some th) ∨
        (note = .quiet ∧ v.pool = w.pool ∧
          v.threads[k]? = some ⟨th.slot, .run (.managed b) .checked :: th.calls⟩)) := by
  have hk := (List.getElem?_eq_some_iff.mp hth).1
  have hstep : w.step k (.perform (.run (.managed b))) = some
      (w.after k th.calls (startRun w.pool th.slot (.managed b)),
        (startRun w.pool th.slot (.managed b)).note) := by
    simp [World.step, hth, hfree, World.perform]
  refine ⟨_, _, .event hth (founded_perform _ _) hstep, ?_⟩
  simp only [startRun]
  split
  · next hphase => exact .inl ⟨rfl, hphase, World.getElem?_after hk⟩
  · exact .inr ⟨rfl, rfl, World.getElem?_after hk⟩

/-- A run without a slot that nobody disturbs comes to its command. -/
theorem exists_entered {b : Nat} (hth : w.threads[k]? = some ⟨.gone, calls⟩)
    (hfree : Thread.isFree ⟨.gone, calls⟩ = true)
    (hphase : w.pool.phase (.managed b) = .running) :
    ∃ es v, Run w es (some v) ∧ v.threads[k]? =
      some ⟨.gone, .run (.managed b) (.inside (.attach b)) :: calls⟩ := by
  obtain ⟨q, hq⟩ : ∃ q, w.pool.acquire b = .ok q :=
    ⟨_, by rw [Pool.acquire, show (w.pool.container b).phase = .running from hphase]⟩
  obtain ⟨v, note, started, ⟨-, hdestroyed, -⟩ | ⟨-, hpool, hchecked⟩⟩ :=
    step_run (b := b) hth hfree
  · exact absurd (hphase.symm.trans hdestroyed) (by simp)
  · obtain ⟨chosen, hchosen⟩ := step_inward hchecked
      (m := ⟨v.pool, .gone, some (.run (.managed b) (.going (.attach b))), none, .quiet⟩)
      (by simp [RunStage.next, Passage.choose, Slot.current, Handle.isRoot]) (by simp)
    obtain ⟨acquired, hacquired⟩ := step_inward hchosen
      (m := ⟨q, .gone, some (.run (.managed b) (.acquired b)), none, .quiet⟩)
      (by simp [RunStage.next, World.after, hpool, hq]) (by simp)
    obtain ⟨entered, hentered⟩ := step_inward hacquired rfl (by simp)
    exact ⟨_, _, (((Run.nil.cons started).cons chosen).cons acquired).cons entered, hentered⟩

/-! ## Runs that do not return -/

theorem step_finished {s : Slot} {target : Handle} {way : Passage}
    (hth : w.threads[k]? = some ⟨s, .run target (.inside way) :: calls⟩) :
    ∃ v, Step w (.event ⟨k, .finish .done, .quiet⟩) (some v) ∧
      v.threads[k]? = some ⟨s, .run target (.leaving way) :: calls⟩ := by
  have hstep : w.step k (.finish .done) = some
      (w.after k calls ⟨w.pool, s, some (.run target (.leaving way)), none, .quiet⟩, .quiet) := by
    simp [World.step, hth, Call.finish]
  have hfounded (n : Nat) : ¬ Unfounded n ⟨s, .run target (.inside way) :: calls⟩
      (.finish .done) := by
    intro h
    cases h
  exact ⟨_, .event hth hfounded hstep, World.getElem?_after (List.getElem?_eq_some_iff.mp hth).1⟩

/-- The command of a run into a managed container is over, and the thread has no slot: the run fails
to detach, and nothing else can happen to the thread. -/
theorem step_iff_failed {b : Nat} {way : Passage} {outer : List Call}
    (hth : w.threads[k]? = some ⟨.gone, .run (.managed b) (.leaving way) :: outer⟩)
    (hadrift : (Call.run (.managed b) (.leaving way)).IsAdrift) (he : e.thread = k) :
    Step w e v? ↔ e = .failed k b ∧ v? = some (left w k .gone outer) := by
  obtain rfl : way = .attach b := Passage.Fits.eq_attach hadrift.1
  have hbound : Slot.gone.current ≠ .managed b := by simp [Slot.current]
  constructor
  · intro hstep
    cases hstep with
    | @event l th a note v hl hfounded hs =>
      obtain rfl : l = k := he
      obtain rfl := Option.some.inj (hl.symm.trans hth)
      obtain ⟨rfl, -⟩ := World.step_of_not_inside hth rfl hs
      exact absurd (.ended hbound) (hfounded b)
    | @fade l s hl =>
      obtain rfl : l = k := he
      exact absurd (hl.symm.trans hth) (by simp)
    | @fail l n s target calls hl hs =>
      obtain rfl : l = k := he
      obtain ⟨rfl, hcalls⟩ := Thread.mk.inj (Option.some.inj (hl.symm.trans hth))
      obtain ⟨hcall, rfl⟩ := List.cons.inj hcalls
      obtain ⟨-, hstage⟩ := Call.run.inj hcall
      obtain rfl := Passage.attach.inj (RunStage.leaving.inj hstage)
      exact ⟨rfl, rfl⟩
    | @abort l n s target calls hl hs =>
      obtain rfl : l = k := he
      exact absurd (hl.symm.trans hth) (by simp)
  · rintro ⟨rfl, rfl⟩
    exact .fail hth hbound

/-- The command of such a run cannot panic without ending the process. -/
theorem aborted_of_inside {b : Nat} {way : Passage} {outer : List Call}
    (hth : w.threads[k]? = some ⟨.gone, .run (.managed b) (.inside way) :: outer⟩)
    (hadrift : (Call.run (.managed b) (.inside way)).IsAdrift) :
    Step w (.aborted k b) none ∧
      ∀ note v?, ¬Step w (.event ⟨k, .finish .panicked, note⟩) v? := by
  obtain rfl : way = .attach b := Passage.Fits.eq_attach hadrift.1
  have hbound : Slot.gone.current ≠ .managed b := by simp [Slot.current]
  refine ⟨.abort hth hbound, ?_⟩
  rintro note v? ⟨hl, hfounded, -⟩
  obtain rfl := Option.some.inj (hl.symm.trans hth)
  exact hfounded b (.panicked hbound)

end Refused

/-! ## What is never given back -/

/-- How many runs failed to detach from the container at `n`. -/
def failures (n : Nat) (es : List Happening) : Nat :=
  es.countP fun
    | .failed _ m => m == n
    | _ => false

section Lost

variable {w v : World} {e : Happening} {es : List Happening} {k n : Nat} {s s' : Slot}

theorem units_left {c : Option Call} {calls : List Call}
    (hth : w.threads[k]? = some ⟨s, c.toList ++ calls⟩) (s' : Slot) (n : Nat) :
    w.runsOn n + w.tasksOn n =
      units n c.toList [] + ((left w k s' calls).runsOn n + (left w k s' calls).tasksOn n) := by
  obtain ⟨Γ, -, hthreads, htasks, hleft⟩ :=
    World.exists_surroundings hth rfl (j := none) (List.Perm.refl w.tasks)
  rw [← World.units_calls, ← World.units_calls, World.calls, hthreads, units_perm n _ htasks,
    show left w k s' calls = _ from hleft _ w.nextTask]
  exact (Γ.units_world w.pool w.nextTask s c none n).trans
    (congrArg _ (by simpa using (Γ.units_world w.pool w.nextTask s' none none n).symm))

theorem Step.counts (hstep : Step w e (some v)) (hw : w.Counts fun n => failures n es) :
    v.Counts fun n => failures n (e :: es) := by
  cases hstep with
  | @event k th a note v hth hfounded hs =>
    have hsame : (fun n => failures n (.event ⟨k, a, note⟩ :: es)) = fun n => failures n es := rfl
    rw [hsame]
    rcases World.step_cases hs with ⟨rfl, -⟩ | hmoved
    · exact hw.spawn
    · exact hw.moved hmoved
  | @fade k s hth =>
    intro n
    have hunits := units_left (c := none) hth .gone n
    rw [Option.toList_none, units_nil, Nat.zero_add] at hunits
    show w.pool.attached (.managed n) = _ + failures n es
    rw [← hunits]
    exact hw n
  | @fail k m s target calls hth hs =>
    intro n
    have hunits := units_left (c := some _) hth s n
    have hn : w.pool.attached (.managed n) = w.runsOn n + w.tasksOn n + failures n es := hw n
    rw [Option.toList_some, units_run] at hunits
    have hfailures : failures n (.failed k m :: es) =
        failures n es + if (RunStage.leaving (.attach m)).holds n then 1 else 0 := by
      simp [failures, List.countP_cons, RunStage.holds]
    show w.pool.attached (.managed n) = _ + failures n (.failed k m :: es)
    rw [hfailures]
    omega

theorem Step.settled (hstep : Step w e (some v)) (hw : w.pool.Settled) : v.pool.Settled := by
  cases hstep with
  | event hth hfounded hs =>
    rcases World.step_cases hs with ⟨rfl, -⟩ | hmoved
    · exact hw
    · cases hmoved with
      | intro Γ hk hm hthreads htasks => exact hm.settled hw
  | fade hth => exact hw
  | fail hth hs => exact hw

/-- **What a run holds that cannot detach is never given back.**  The counter of a container shows
the runs and the tasks that have an attachment, and all runs that failed to detach.  If there is one
of these, then the container runs, and it cannot be destroyed. -/
theorem attached_of_failed (hrun : Run .start es (some w)) :
    (∀ n, w.pool.attached (.managed n) = w.runsOn n + w.tasksOn n + failures n es) ∧
      ∀ n, 0 < failures n es → w.pool.phase (.managed n) = .running ∧
        ∀ p, w.pool.destroy (.managed n) ≠ .ok p := by
  obtain ⟨hcounts, hsettled⟩ : (w.Counts fun n => failures n es) ∧ w.pool.Settled := by
    generalize hw : some w = w? at hrun
    induction hrun generalizing w with
    | nil =>
      obtain rfl := Option.some.inj hw
      exact ⟨World.sound_start.exact, World.sound_start.settled⟩
    | cons _ hstep ih =>
      obtain ⟨hcounts, hsettled⟩ := ih rfl
      exact ⟨(hw ▸ hstep).counts hcounts, (hw ▸ hstep).settled hsettled⟩
  refine ⟨hcounts, fun n hn => ?_⟩
  have hpos : 0 < (w.pool.container n).attached :=
    Nat.lt_of_lt_of_le hn (Nat.le_trans (Nat.le_add_left ..) (Nat.le_of_eq (hcounts n).symm))
  refine ⟨hsettled.running hpos, fun p hp => ?_⟩
  exact Nat.ne_of_gt hpos (Pool.destroy_eq_ok_iff.mp hp).2.1

end Lost

/-- **Nobody goes from one container straight into another one, as long as he has his slot**, after
any steps of any threads, some of which may have lost theirs.

* A thread that has its slot and is inside the command of a run into a container, and has not
  stepped out to root, is bound to that container.  A command that it executes there is one of a run
  into that container.  A run into another one is refused as an illegal state: at once if that
  container does not run, and otherwise, whatever other threads do, before anything else happens to
  the thread.
* A thread without a slot is in root for good, also inside commands, and a container that runs lets
  it in, also inside the command of another one.  None of its runs into managed containers returns
  after that: when the command is over, the run fails to detach and ends with a panic, and nothing
  else can happen to the thread; and when the command panics, the process ends. -/
theorem nesting_by_slot {w : World} {es : List Happening} {k : Nat} {th : Thread}
    (hrun : Run .start es (some w)) (hth : w.threads[k]? = some th) :
    (th.slot ≠ .gone → ∀ a, Within a th.calls →
      th.slot.current = .managed a ∧
      (∀ b way calls, th.calls = .run (.managed b) (.inside way) :: calls → b = a) ∧
      (th.isFree = true → ∀ b, b ≠ a → ∃ v note,
        Step w (.event ⟨k, .perform (.run (.managed b)), note⟩) (some v) ∧
        ∃ why : Refusal, why.report.kind = .illegalState ∧
          ((note = .refused (.managed b) why ∧ v.threads[k]? = some th) ∨
            ∀ es' v?, Run v es' v? → Refused k th (.managed b) why v es' v?))) ∧
    (th.slot = .gone → ∀ es' v?, Run w es' v? →
      (∀ a b, .event ⟨k, a, .returned (.managed b)⟩ ∉ es') ∧
      ∀ v, v? = some v → ∃ th', v.threads[k]? = some th' ∧ th'.slot = .gone ∧
        th'.slot.current = .root ∧
        (th'.isFree = true → ∀ b, v.pool.phase (.managed b) = .running → ∃ es'' v',
          Run v es'' (some v') ∧
          v'.threads[k]? = some ⟨.gone, .run (.managed b) (.inside (.attach b)) :: th'.calls⟩) ∧
        (∀ b way outer, th'.calls = .run (.managed b) (.leaving way) :: outer →
          ∀ e u?, e.thread = k →
            (Step v e u? ↔ e = .failed k b ∧ u? = some (left v k .gone outer))) ∧
        ∀ b way outer, th'.calls = .run (.managed b) (.inside way) :: outer →
          Step v (.aborted k b) none ∧
          ∀ note u?, ¬Step v (.event ⟨k, .finish .panicked, note⟩) u?) := by
  refine ⟨fun hslot a hwithin => ?_, fun hgone es' v? hrun' => ?_⟩
  · have hsound := hrun.sound_of_slot hth hslot
    have hcurrent := hwithin.current_eq hsound
    refine ⟨hcurrent, fun b way calls hcalls => hwithin.eq_of_run hsound hcalls,
      fun hfree b hb => ?_⟩
    obtain ⟨v, note, hstep, ⟨rfl, -, hv⟩ | ⟨rfl, -, hv⟩⟩ := step_run (b := b) hth hfree
    · exact ⟨v, _, hstep, .notRunning, rfl, .inl ⟨rfl, hv⟩⟩
    · have hchoose : Passage.choose .running th.slot.current (.managed b) = .error .notInRoot := by
        have hne : a ≠ b := Ne.symm hb
        simp [Passage.choose, hcurrent, hne, Handle.isRoot]
      exact ⟨v, _, hstep, .notInRoot, rfl, .inr fun es' v? hrun' => hrun'.refused hv hchoose⟩
  · obtain ⟨s, calls⟩ := th
    obtain rfl : s = .gone := hgone
    obtain ⟨hlater, hreturned⟩ := hrun.gone hth hrun'
    refine ⟨hreturned, ?_⟩
    rintro v rfl
    obtain ⟨calls', hv⟩ := hlater v rfl
    have hadrift := (hrun.trans hrun').adrift hv
    refine ⟨_, hv, rfl, rfl, fun hfree b hphase => exists_entered hv hfree hphase, ?_, ?_⟩
    · rintro b way outer rfl e u? he
      exact step_iff_failed hv (hadrift _ (List.mem_cons_self ..)) he
    · rintro b way outer rfl
      exact aborted_of_inside hv (hadrift _ (List.mem_cons_self ..))

/-- One thread runs into the first container, and the other one, which has lost its slot, runs into
the first container and from there into the second one. -/
theorem exists_run_besideFaded : ∃ es w, Run .start es (some w) ∧
    w.threads[0]? = some ⟨.bound (.managed 0), [.run (.managed 0) (.inside (.attach 0))]⟩ ∧
    w.threads[1]? = some ⟨.gone, [.run (.managed 1) (.inside (.attach 1)),
      .run (.managed 0) (.inside (.attach 0))]⟩ ∧
    .event ⟨1, .next, .entered (.managed 1)⟩ ∈ es := by
  have created := (Run.nil.cons (@Step.event .start 0 _ (.perform (.create Config.empty .idle)) _ _
    rfl (founded_perform _ _) rfl)).cons (@Step.event _ 0 _
    (.perform (.create Config.empty .idle)) _ _ rfl (founded_perform _ _) rfl)
  have faded := (created.cons
    (@Step.event _ 0 _ (.perform .spawn) _ _ rfl (founded_perform _ _) rfl)).cons
    (@Step.fade _ 1 _ rfl)
  have entered := (((faded.cons
    (@Step.event _ 0 _ (.perform (.run (.managed 0))) _ _ rfl (founded_perform _ _) rfl)).cons
    (@Step.event _ 0 _ .next _ _ rfl (founded_inward (by simp) _) rfl)).cons
    (@Step.event _ 0 _ .next _ _ rfl (founded_inward (by simp) _) rfl)).cons
    (@Step.event _ 0 _ .next _ _ rfl (founded_inward (by simp) _) rfl)
  have outer := (((entered.cons
    (@Step.event _ 1 _ (.perform (.run (.managed 0))) _ _ rfl (founded_perform _ _) rfl)).cons
    (@Step.event _ 1 _ .next _ _ rfl (founded_inward (by simp) _) rfl)).cons
    (@Step.event _ 1 _ .next _ _ rfl (founded_inward (by simp) _) rfl)).cons
    (@Step.event _ 1 _ .next _ _ rfl (founded_inward (by simp) _) rfl)
  have inner := (((outer.cons
    (@Step.event _ 1 _ (.perform (.run (.managed 1))) _ _ rfl (founded_perform _ _) rfl)).cons
    (@Step.event _ 1 _ .next _ _ rfl (founded_inward (by simp) _) rfl)).cons
    (@Step.event _ 1 _ .next _ _ rfl (founded_inward (by simp) _) rfl)).cons
    (@Step.event _ 1 _ .next _ _ rfl (founded_inward (by simp) _) rfl)
  exact ⟨_, _, inner, rfl, rfl, List.mem_cons_self ..⟩

theorem nesting_by_slot_besideFaded : ∃ es w, Run .start es (some w) ∧
    (∃ th, w.threads[0]? = some th ∧ th.slot.current = .managed 0 ∧
      ∃ v note, Step w (.event ⟨0, .perform (.run (.managed 1)), note⟩) (some v) ∧
        ∃ why : Refusal, why.report.kind = .illegalState ∧
          ((note = .refused (.managed 1) why ∧ v.threads[0]? = some th) ∨
            ∀ es' v?, Run v es' v? → Refused 0 th (.managed 1) why v es' v?)) ∧
    ∃ th, w.threads[1]? = some th ∧ th.slot.current = .root ∧
      ∃ v, Run w [.event ⟨1, .finish .done, .quiet⟩] (some v) ∧ ∀ e u?, e.thread = 1 →
        (Step v e u? ↔ e = .failed 1 1 ∧
          u? = some (left v 1 .gone [.run (.managed 0) (.inside (.attach 0))])) := by
  obtain ⟨es, w, hrun, hslot, hgone, -⟩ := exists_run_besideFaded
  obtain ⟨hcurrent, -, hrefused⟩ := (nesting_by_slot hrun hslot).1 (by simp) 0 (.command ..)
  obtain ⟨v, finished, hv⟩ := step_finished hgone
  have hover : Run w [.event ⟨1, .finish .done, .quiet⟩] (some v) := Run.nil.cons finished
  obtain ⟨-, hlater⟩ := (nesting_by_slot hrun hgone).2 rfl _ _ hover
  obtain ⟨th, hth, -, -, -, hfailed, -⟩ := hlater v rfl
  obtain rfl := Option.some.inj (hv.symm.trans hth)
  exact ⟨es, w, hrun, ⟨_, hslot, hcurrent, hrefused rfl 1 (by simp)⟩,
    ⟨_, hgone, rfl, v, hover, hfailed 1 _ _ rfl⟩⟩

/-- **Without a slot, one command is executed inside another one in another container**, and neither
is in its container.  When the inner one is over, its run fails, and its container cannot be
destroyed any more. -/
theorem nested_without_slot : ∃ es w th, Run .start es (some w) ∧ w.threads[1]? = some th ∧
    th.calls = [.run (.managed 1) (.inside (.attach 1)), .run (.managed 0) (.inside (.attach 0))] ∧
    .event ⟨1, .next, .entered (.managed 1)⟩ ∈ es ∧ th.slot.current = .root ∧
    ∃ v, Run w [.failed 1 1, .event ⟨1, .finish .done, .quiet⟩] (some v) ∧
      ∀ p, v.pool.destroy (.managed 1) ≠ .ok p := by
  obtain ⟨es, w, hrun, -, hgone, hentered⟩ := exists_run_besideFaded
  obtain ⟨v, finished, hv⟩ := step_finished hgone
  have hfailed : Run w [.failed 1 1, .event ⟨1, .finish .done, .quiet⟩] (some _) :=
    (Run.nil.cons finished).cons (.fail hv (by simp [Slot.current]))
  obtain ⟨-, hlost⟩ := attached_of_failed (hrun.trans hfailed)
  refine ⟨es, w, _, hrun, hgone, rfl, hentered, rfl, _, hfailed, (hlost 1 ?_).2⟩
  simp [failures]

end Fading

end Interleaving

end ResourceContainers
