import ResourceContainers.Proofs.Interleaving.Accounting

/-!
# Nobody is bound to a destroyed container

A container is destroyed only while its counter is zero.  That protects threads, which do not look
at the phase again once they are inside, because a thread that is bound to a container has an
attachment to it: not always one of its own call, but one of a call further out, or of a task that
it polls further out.

* `exists_attachment_of_binding`: calls that bind a thread to a container have an attachment to it.
* `Call.guards`: the container that a call has stepped out of and will go back to.
* `World.Destroyed`: a container is destroyed.
* `Destroyed.step`: it stays so, nobody destroys it again, and no code is let into it.
* `bound_running`: the main statement.
-/

namespace ResourceContainers.Interleaving

/-! ## Bound threads have attachments -/

/-- Whether a call has an attachment to the container at `n`, of its own or through its task. -/
def Call.Has (n : Nat) (c : Call) : Prop :=
  c.holds n = true ∨ ∃ j, c.job? = some j ∧ j.holds n = true

/-- The container that a call has stepped out of and will bind its thread to again. -/
def Call.guards : Call → Option Handle
  | .run _ (.inside (.stepOut back)) | .run _ (.leaving (.stepOut back)) => some back
  | .poll _ (.inside (.stepOut back)) | .poll _ (.leaving (.stepOut back) _) => some back
  | _ => none

/-- A call leaves its thread bound where it was, or to root, or to a container that it has an
attachment to. -/
theorem Call.binding_cases {c : Call} {outer : Handle} (hf : c.Fits outer) :
    c.binding outer = outer ∨ c.binding outer = .root ∨
      ∃ n, c.binding outer = .managed n ∧ c.Has n := by
  have hway {way : Passage} (hhas : ∀ n, way = .attach n → Call.Has n c) :
      way.inside outer = outer ∨ way.inside outer = .root ∨
        ∃ n, way.inside outer = .managed n ∧ c.Has n := by
    cases way with
    | direct => exact .inl rfl
    | stepOut back => exact .inr (.inl rfl)
    | attach n => exact .inr (.inr ⟨n, rfl, hhas n rfl⟩)
  have hvisit {j : Job} {visit : Scope.Visit} (hj : c.job? = some j)
      (hfit : j.scope.Fits outer visit) (ha : visit = .bound → j.scope.attached = true) :
      j.scope.inside outer visit = outer ∨ j.scope.inside outer visit = .root ∨
        ∃ n, j.scope.inside outer visit = .managed n ∧ c.Has n := by
    cases visit with
    | direct => exact .inl rfl
    | stepOut back => exact .inr (.inl rfl)
    | bound =>
      cases hc : j.scope.container with
      | root => exact absurd hc hfit.2
      | managed n =>
        have hholds : j.holds n = true := by simp [Job.holds, Scope.holds, ha rfl, hc]
        exact .inr (.inr ⟨n, hc, .inr ⟨j, hj, hholds⟩⟩)
  cases c with
  | run target stage =>
    cases stage with
    | inside way => exact hway fun n hn => .inl (by simp [holds, hn, RunStage.holds])
    | leaving way => exact hway fun n hn => .inl (by simp [holds, hn, RunStage.holds])
    | _ => exact .inl rfl
  | poll j stage =>
    cases stage with
    | inside visit => exact hvisit rfl hf.1 hf.2
    | leaving visit ending => exact hvisit rfl hf.1 hf.2
    | _ => exact .inl rfl

/-- Calls that bind their thread to a container have an attachment to it. -/
theorem exists_attachment_of_binding {calls : List Call} (hn : Nested calls) {n : Nat}
    (hb : binding calls = .managed n) : ∃ c ∈ calls, c.Has n := by
  induction calls with
  | nil => exact absurd hb (by simp [binding])
  | cons c calls ih =>
    rcases Call.binding_cases hn.1 with h | h | ⟨m, h, hhas⟩
    · obtain ⟨c', hc', hhas⟩ := ih hn.2 (h ▸ hb)
      exact ⟨c', List.mem_cons_of_mem c hc', hhas⟩
    · exact absurd (h.symm.trans hb) (by simp)
    · obtain rfl : m = n := Handle.managed.inj (h.symm.trans hb)
      exact ⟨c, List.mem_cons_self .., hhas⟩

/-- A call that stepped out will go back to where the calls around it are bound. -/
theorem Call.guards_eq {c : Call} {outer back : Handle} (hf : c.Fits outer)
    (hg : c.guards = some back) : outer = back := by
  cases c with
  | run target stage =>
    cases stage with
    | inside way => cases way <;> simp [guards] at hg; exact hf.2.1.trans hg
    | leaving way => cases way <;> simp [guards] at hg; exact hf.2.1.trans hg
    | _ => exact absurd hg (by simp [guards])
  | poll j stage =>
    cases stage with
    | inside visit => cases visit <;> simp [guards] at hg; exact hf.1.2.1.trans hg
    | leaving visit ending => cases visit <;> simp [guards] at hg; exact hf.1.2.1.trans hg
    | _ => exact absurd hg (by simp [guards])

/-- Calls of which one will go back to a container have an attachment to it. -/
theorem exists_attachment_of_guards {calls : List Call} (hn : Nested calls) {c : Call}
    (hc : c ∈ calls) {n : Nat} (hg : c.guards = some (.managed n)) : ∃ c' ∈ calls, c'.Has n := by
  induction calls with
  | nil => exact absurd hc (by simp)
  | cons d calls ih =>
    have houter : ∃ c' ∈ calls, c'.Has n := by
      rcases List.mem_cons.mp hc with rfl | hc
      · exact exists_attachment_of_binding hn.2 (Call.guards_eq hn.1 hg)
      · exact ih hn.2 hc
    obtain ⟨c', hc', hhas⟩ := houter
    exact ⟨c', List.mem_cons_of_mem d hc', hhas⟩

namespace World

variable {w w' : World} {k n : Nat} {a : Act} {note : Note}

theorem Sound.attached_pos_of_has (hw : w.Sound) {th : Thread} (hth : th ∈ w.threads) {c : Call}
    (hc : c ∈ th.calls) (hhas : c.Has n) : 0 < w.pool.attached (.managed n) := by
  have hmem : c ∈ w.calls := List.mem_flatMap.mpr ⟨th, hth, hc⟩
  rcases hhas with h | ⟨j, hj, h⟩
  · exact hw.attached_pos_of_call hmem h
  · exact hw.attached_pos_of_job
      (List.mem_append_right _ (List.mem_filterMap.mpr ⟨c, hmem, hj⟩)) h

/-- **A container that a thread is bound to, or will go back to, runs and is attached to.** -/
theorem Sound.running_of_bound (hw : w.Sound) {th : Thread} (hth : th ∈ w.threads)
    (h : th.slot.current = .managed n ∨ ∃ c ∈ th.calls, c.guards = some (.managed n)) :
    w.pool.phase (.managed n) = .running ∧ 0 < w.pool.attached (.managed n) := by
  have hsound := hw.threads th hth
  have hhas : ∃ c ∈ th.calls, c.Has n := by
    rcases h with hslot | ⟨c, hc, hg⟩
    · rw [hsound.slot_eq] at hslot
      exact exists_attachment_of_binding hsound.nested hslot
    · exact exists_attachment_of_guards hsound.nested hc hg
  obtain ⟨c, hc, hhas⟩ := hhas
  have hpos := hw.attached_pos_of_has hth hc hhas
  exact ⟨hw.settled.running hpos, hpos⟩

/-! ## Destroyed containers -/

/-- The container at `n` is destroyed. -/
def Destroyed (w : World) (n : Nat) : Prop :=
  n < w.pool.containers.size ∧ w.pool.phase (.managed n) = .destroyed

end World

theorem Request.destroyed {p p' : Pool} {note : Note} (h : Request p p' note) {n : Nat}
    (hn : n < p.containers.size) (hd : (p.container n).phase = .destroyed) :
    n < p'.containers.size ∧ (p'.container n).phase = .destroyed := by
  cases h with
  | create c meter =>
    refine ⟨by simp [Pool.create]; omega, ?_⟩
    rw [Pool.container_create, if_neg (Nat.ne_of_lt hn)]
    exact hd
  | @destroy h p' e =>
    cases h with
    | root => exact absurd e (by simp)
    | managed k =>
      refine ⟨?_, ?_⟩
      · rw [(Pool.destroy_eq_ok_iff.mp e).2.2, Pool.size_change]
        exact hn
      · rw [Pool.container_destroy e]
        split
        · rfl
        · exact hd
  | @update h c p' e =>
    cases h with
    | root => exact absurd e (by simp [Pool.update])
    | managed k =>
      refine ⟨?_, ?_⟩
      · rw [(Pool.update_eq_ok_iff.mp e).2, Pool.size_change]
        exact hn
      · rw [Pool.container_update e]
        split <;> exact hd
  | @setPolicy h policy p' e =>
    cases h with
    | root => exact absurd e (by simp [Pool.setPolicy])
    | managed k =>
      refine ⟨?_, ?_⟩
      · obtain rfl : p.change k _ = p' := Except.ok.inj e
        rw [Pool.size_change]
        exact hn
      · rw [Pool.container_setPolicy e]
        split <;> exact hd
  | refused h why => exact ⟨hn, hd⟩

theorem Moves.destroyed {p : Pool} {s : Slot} {number number' : Nat} {c : Option Call}
    {j : Option Job} {m : Move} (hm : Moves p s number c j m number') {n : Nat}
    (hn : n < p.containers.size) (hd : (p.container n).phase = .destroyed) :
    n < m.pool.containers.size ∧ (m.pool.container n).phase = .destroyed := by
  rcases hm.pool_cases with h | ⟨i, h⟩ | ⟨i, h⟩ | h
  · rw [h]
    exact ⟨hn, hd⟩
  · refine ⟨?_, (Pool.phase_acquire h n).trans hd⟩
    rw [(Pool.acquire_eq_ok_iff.mp h).2, Pool.size_change]
    exact hn
  · rw [h, Pool.phase_release, Pool.release, Pool.size_change]
    exact ⟨hn, hd⟩
  · exact h.destroyed hn hd

/-- What a step is not once the container at `n` is destroyed: it does not destroy it, and it starts
no command and no future in it. -/
def Note.Avoids (n : Nat) (note : Note) : Prop :=
  note ≠ .destroyed (.managed n) ∧ note ≠ .entered (.managed n) ∧
    ∀ i visit, note ≠ .polled i (.managed n) visit

namespace World

variable {w w' : World} {k n : Nat} {a : Act} {note : Note}

theorem destroyed_of_note (h : w.step k a = some (w', .destroyed (.managed n))) :
    w'.Destroyed n := by
  rcases step_cases h with ⟨-, hnote⟩ | hmoved
  · exact absurd hnote (by simp)
  · generalize hnote : Note.destroyed (.managed n) = note at hmoved
    cases hmoved with
    | intro Γ hk hm hthreads htasks =>
    rename_i s c j m number
    have he : w.pool.destroy (.managed n) = .ok m.pool := by
      have htrue := hm.truthful
      rw [Move.Truthful, ← hnote] at htrue
      exact htrue
    refine ⟨?_, ?_⟩
    · show n < m.pool.containers.size
      rw [(Pool.destroy_eq_ok_iff.mp he).2.2, Pool.size_change]
      exact Pool.lt_size_of_running (Pool.destroy_eq_ok_iff.mp he).1
    · show (m.pool.container n).phase = .destroyed
      rw [Pool.container_destroy he, if_pos rfl]

theorem Destroyed.not_bound (hd : w.Destroyed n) (hw : w.Sound) {th : Thread}
    (hth : th ∈ w.threads) : th.slot.current ≠ .managed n := by
  intro hcur
  have hrun := (hw.running_of_bound hth (.inl hcur)).1
  rw [hd.2] at hrun
  exact absurd hrun (by decide)

/-- **A destroyed container stays destroyed**, and a step lets no code into it. -/
theorem Destroyed.step (hd : w.Destroyed n) (hw : w.Sound) (h : w.step k a = some (w', note)) :
    w'.Destroyed n ∧ note.Avoids n := by
  have hw' := hw.step h
  rcases step_cases h with ⟨rfl, rfl⟩ | hmoved
  · exact ⟨hd, by simp, by simp, by simp⟩
  · cases hmoved with
    | intro Γ hk hm hthreads htasks =>
    rename_i s c j m number
    have hd' : (Γ.world m.pool number m.slot m.call m.job).Destroyed n := hm.destroyed hd.1 hd.2
    -- the thread that moved, and where it is bound now
    have hth : (⟨m.slot, m.call.toList ++ Γ.calls⟩ : Thread) ∈
        (Γ.world m.pool number m.slot m.call m.job).threads :=
      List.mem_append_right _ (List.mem_cons_self ..)
    have hout := hd'.not_bound hw' hth
    have htrue := hm.truthful
    refine ⟨hd', fun hnote => ?_, fun hnote => ?_, fun i visit hnote => ?_⟩
    · rw [Move.Truthful, hnote] at htrue
      have hrun := (Pool.destroy_eq_ok_iff.mp htrue).1
      rw [show (w.pool.container n).phase = .destroyed from hd.2] at hrun
      exact absurd hrun (by decide)
    · rw [Move.Truthful, hnote] at htrue
      obtain ⟨way, hcall⟩ := htrue
      exact hout ((hw'.threads _ hth).current_of_run (by rw [hcall]; rfl))
    · rw [Move.Truthful, hnote] at htrue
      obtain ⟨i, -, hcontainer, hcall⟩ := htrue
      exact hout (((hw'.threads _ hth).current_of_poll (by rw [hcall]; rfl)).trans hcontainer)

end World

namespace Run

variable {w w' : World} {es : List Event} {n : Nat}

/-- **Nothing brings a destroyed container back.**  It stays destroyed and unattached, and no step
destroys it again or lets code into it. -/
theorem destroyed (h : Run w es w') (hw : w.Sound) (hd : w.Destroyed n) :
    w'.Destroyed n ∧ w'.pool.attached (.managed n) = 0 ∧ ∀ e ∈ es, e.note.Avoids n := by
  suffices w'.Destroyed n ∧ ∀ e ∈ es, e.note.Avoids n from
    ⟨this.1, (h.sound hw).settled n this.1.2, this.2⟩
  induction h with
  | nil => exact ⟨hd, by simp⟩
  | cons h hs ih =>
    obtain ⟨hv, hes⟩ := ih
    obtain ⟨hv', hnote⟩ := hv.step (h.sound hw) hs
    refine ⟨hv', fun e he => ?_⟩
    rcases List.mem_cons.mp he with rfl | he
    · exact hnote
    · exact hes e he

theorem destroyed_of_mem (h : Run w es w') (hw : w.Sound)
    (hes : ∃ e ∈ es, e.note = .destroyed (.managed n)) : w'.Destroyed n := by
  induction h with
  | nil => exact absurd hes (by simp)
  | @cons es v v' k a note h hs ih =>
    obtain ⟨e, he, hnote⟩ := hes
    rcases List.mem_cons.mp he with rfl | he
    · obtain rfl : note = .destroyed (.managed n) := hnote
      exact World.destroyed_of_note hs
    · exact ((ih ⟨e, he, hnote⟩).step (h.sound hw) hs).1

/-- A container is destroyed at most once. -/
theorem destroyed_once (h : Run w es w') (hw : w.Sound) :
    es.countP (·.note == .destroyed (.managed n)) ≤ 1 := by
  induction h with
  | nil => exact Nat.zero_le 1
  | @cons es v v' k a note h hs ih =>
    rw [List.countP_cons]
    split
    · next hnote =>
      have hfirst : es.countP (·.note == .destroyed (.managed n)) = 0 := by
        refine List.countP_eq_zero.mpr fun e he hdestroyed => ?_
        have hd := h.destroyed_of_mem hw ⟨e, he, eq_of_beq hdestroyed⟩
        exact (hd.step (h.sound hw) hs).2.1 (eq_of_beq hnote)
      omega
    · exact ih

end Run

/-- **Nobody is ever bound to a destroyed container**, after any steps of any threads.

* A container that a thread is bound to, or that one of its calls has stepped out of and will go
  back to, runs and is attached to.
* A destroyed container has no attachment, now and after any further steps; it never runs again, it
  is not destroyed again, and no command and no future is let into it.
* A container is destroyed at most once. -/
theorem bound_running {es : List Event} {w : World} (h : Run World.start es w) :
    (∀ th ∈ w.threads, ∀ n,
      (th.slot.current = .managed n ∨ ∃ c ∈ th.calls, c.guards = some (.managed n)) →
        w.pool.phase (.managed n) = .running ∧ 0 < w.pool.attached (.managed n)) ∧
    (∀ n, w.Destroyed n → w.pool.attached (.managed n) = 0 ∧
      ∀ es' w', Run w es' w' → w'.Destroyed n ∧ w'.pool.attached (.managed n) = 0 ∧
        ∀ e ∈ es', e.note.Avoids n) ∧
    ∀ n, es.countP (·.note == .destroyed (.managed n)) ≤ 1 := by
  have hw := h.sound World.sound_start
  refine ⟨fun th hth n hb => hw.running_of_bound hth hb, fun n hd => ⟨?_, ?_⟩, fun n => ?_⟩
  · exact hw.settled n hd.2
  · exact fun es' w' h' => h'.destroyed hw hd
  · exact h.destroyed_once World.sound_start

/-- One thread that has stepped out of a container, while another thread destroys another one. -/
def stepOutBesideDestroy : List (Nat × Act) :=
  [(0, .perform (.create Config.empty .idle)), (0, .perform (.create Config.empty .idle)),
   (0, .perform .spawn), (0, .perform (.run (.managed 0))), (0, .next), (0, .next), (0, .next),
   (0, .perform (.run .root)), (1, .perform (.destroy (.managed 1))), (0, .next),
   (1, .perform (.destroy (.managed 0)))]

/-- The first runs and is attached to, and the second is destroyed for good. -/
theorem bound_running_stepOutBesideDestroy : ∃ es w, Run World.start es w ∧
    (w.pool.phase (.managed 0) = .running ∧ 0 < w.pool.attached (.managed 0)) ∧
    (w.Destroyed 1 ∧ ∀ es' w', Run w es' w' → w'.Destroyed 1) ∧
    es.countP (·.note == .destroyed (.managed 1)) ≤ 1 := by
  obtain ⟨⟨es, w⟩, hr⟩ := Option.isSome_iff_exists.mp
    (show (World.start.replay stepOutBesideDestroy).isSome = true by decide)
  have hview : (World.start.replay stepOutBesideDestroy).map (fun r =>
      (r.2.pool.containers.size, r.2.pool.phase (.managed 1),
        r.2.threads.map fun th => th.calls.map Call.guards)) =
      some (2, .destroyed, [[some (.managed 0), none], []]) := by decide
  rw [hr] at hview
  obtain ⟨hsize, hphase, hguards⟩ : w.pool.containers.size = 2 ∧
      w.pool.phase (.managed 1) = .destroyed ∧
      w.threads.map (fun th => th.calls.map Call.guards) = [[some (.managed 0), none], []] := by
    simpa using hview
  have hrun := Run.of_replay hr
  obtain ⟨hbound, hdestroyed, honce⟩ := bound_running hrun
  have hd : w.Destroyed 1 := ⟨by omega, hphase⟩
  obtain ⟨th, hth, hcalls⟩ : ∃ th ∈ w.threads,
      th.calls.map Call.guards = [some (.managed 0), none] :=
    List.mem_map.mp (hguards ▸ List.mem_cons_self ..)
  obtain ⟨c, hc, hg⟩ : ∃ c ∈ th.calls, c.guards = some (.managed 0) :=
    List.mem_map.mp (hcalls ▸ List.mem_cons_self ..)
  exact ⟨es, w, hrun, hbound th hth 0 (.inr ⟨c, hc, hg⟩),
    ⟨hd, fun es' w' h' => ((hdestroyed 1 hd).2 es' w' h').1⟩, honce 1⟩

end ResourceContainers.Interleaving
