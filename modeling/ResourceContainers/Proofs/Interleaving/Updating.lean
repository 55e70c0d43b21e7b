import ResourceContainers.Proofs.Interleaving.Locking

/-!
# What updates come to

An update that takes its locks one after the other ends in one of two ways.  It writes and returns
with success, or it finds that the container does not run and returns with a refusal.  What all
updates come to, together with the configuration that the container was created from, are its
limits.

* `applied`: the constraints that updates have written on a container, in the order in which they
  were written.
* `Ledger`: what each update has done so far and what it has been answered.
  `Ledger.step`: one step.  `Run.ledger`: all steps.
* `overlay_of_history`: the limits of a container, at any time.
-/

namespace ResourceContainers.Interleaving

/-! ## What updates have written -/

/-- The constraint that an update writes on the container `n`. -/
def Happening.written? (n : Nat) : Happening → Option Constraint
  | .wrote _ u => if u.place = n then some u.constraint else none
  | _ => none

/-- The constraints that updates have written on the container `n`, in the order in which they were
written. -/
def applied (n : Nat) (hs : List Happening) : List Constraint :=
  hs.reverse.filterMap (Happening.written? n)

theorem applied_cons (n : Nat) (h : Happening) (hs : List Happening) :
    applied n (h :: hs) = applied n hs ++ (h.written? n).toList := by
  rw [applied, applied, List.reverse_cons, List.filterMap_append]
  rfl

/-- The update that a happening belongs to. -/
def Happening.update? : Happening → Option Update
  | .wrote _ u | .turnedAway _ u | .answered u _ => some u
  | .quiet | .event _ | .read _ _ => none

namespace Guarded

variable {g g' : Guarded} {h : Happening} {hs : List Happening} {n : Nat}

/-- What a step of the world puts on a container is what an update writes. -/
theorem Step.written (hstep : g.Step h g') (n : Nat) :
    (h.event?.bind fun e => e.note.update? n) = h.written? n := by
  cases hstep with
  | @event k a note w store hs hk ha hlocked hnew hold =>
    show note.update? n = none
    cases hc : note.update? n with
    | none => rfl
    | some c =>
      obtain rfl := Note.update?_eq_some.mp hc
      exact absurd (perform_of_updated hs) (ha n c)
  | _ => rfl

theorem updates_events_cons (n : Nat) (h : Happening) (hs : List Happening) :
    updates n (events (h :: hs)) =
      updates n (events hs) ++ (h.event?.bind fun e => e.note.update? n).toList := by
  cases he : h.event? with
  | none => simp [events, he]
  | some e => simp [events, he, updates_cons]

theorem Run.updates_eq_applied (hrun : Run start hs g) (n : Nat) :
    updates n (events hs) = applied n hs := by
  induction hrun with
  | nil => rfl
  | cons hrun hstep ih => rw [updates_events_cons, hstep.written, ih, applied_cons]

/-! ## Destroyed containers -/

theorem Step.destroyed (hstep : g.Step h g') (hg : g.Sound) (hw : g.world.Sound)
    (hd : g.world.Destroyed n) : g'.world.Destroyed n := by
  rcases hstep.world hg with ⟨-, hsame⟩ | ⟨e, -, hs⟩
  · rw [hsame]
    exact hd
  · exact (hd.step hw hs).1

theorem Run.destroyed_of_mem (hrun : Run start hs g)
    (hmem : ∃ e ∈ events hs, e.note = .destroyed (.managed n)) : g.world.Destroyed n :=
  (hrun.world sound_start).1.destroyed_of_mem World.sound_start hmem

/-! ## The ledger of updates -/

theorem mem_cons_of_other {i : Happening} {u : Update} (hi : i.update? = some u)
    (hh : h.update? ≠ some u) : i ∈ h :: hs ↔ i ∈ hs := by
  rw [List.mem_cons, or_iff_right]
  rintro rfl
  exact hh hi

/-- Whether the update `u` has written. -/
def Wrote (hs : List Happening) (u : Update) : Prop := ∃ j, .wrote j u ∈ hs

theorem wrote_cons_of_other {u : Update} (hh : h.update? ≠ some u) :
    Wrote (h :: hs) u ↔ Wrote hs u :=
  exists_congr fun _ => mem_cons_of_other rfl hh

/-- Where the update `u` is that is being made and has come to the stage `s`. -/
structure Pending (g : Guarded) (hs : List Happening) (u : Update) (s : UpdateStage) : Prop where
  ticket_lt : u.ticket < g.tickets
  place_lt : u.place < g.world.pool.containers.size
  unanswered : ∀ granted, .answered u granted ∉ hs
  wrote_iff : Wrote hs u ↔ s = .written
  destroyed : s = .turnedAway → g.world.Destroyed u.place

/-- What each update has done and what it has been answered, after `hs`.  The next ticket was not
given out yet, and nobody else makes the same update.  An update is granted if it has written, and
refused only if its container is destroyed.  One that has written is granted, or is about to be. -/
structure Ledger (g : Guarded) (hs : List Happening) : Prop where
  fresh : ∀ h ∈ hs, ∀ u, h.update? = some u → u.ticket < g.tickets
  pending : ∀ k u s, g.making k = some (u, s) → Pending g hs u s
  alone : ∀ k j u s t, g.making k = some (u, s) → g.making j = some (u, t) → k = j
  answered : ∀ u granted, .answered u granted ∈ hs →
    (granted = true ↔ Wrote hs u) ∧ (granted = false → g.world.Destroyed u.place)
  written : ∀ u, Wrote hs u → .answered u true ∈ hs ∨ ∃ k, g.making k = some (u, .written)

theorem ledger_start : Ledger start [] where
  fresh _ h := absurd h (by simp)
  pending _ _ _ h := absurd h (by simp [start])
  alone _ _ _ _ _ h := absurd h (by simp [start])
  answered _ _ h := absurd h (by simp)
  written _ h := h.elim fun _ h => absurd h (by simp)

/-- What a step leaves as it is, or makes larger. -/
structure Grows (g g' : Guarded) : Prop where
  tickets : g.tickets ≤ g'.tickets
  size : g.world.pool.containers.size ≤ g'.world.pool.containers.size
  destroyed : ∀ n, g.world.Destroyed n → g'.world.Destroyed n

theorem Step.grows (hstep : g.Step h g') (hg : g.Sound) (hw : g.world.Sound) : g.Grows g' where
  tickets := by cases hstep <;> first | exact Nat.le_refl _ | exact Nat.le_succ _
  size := by
    rcases hstep.world hg with ⟨-, hsame⟩ | ⟨e, -, hs⟩
    · exact Nat.le_of_eq (by rw [hsame])
    · exact World.size_le_step hs
  destroyed n hd := hstep.destroyed hg hw hd

section Ledger

variable {k : Nat} {u : Update} {s s' : UpdateStage}

theorem Pending.grows (hp : Pending g hs u s) (hgrows : g.Grows g') (hh : h.update? ≠ some u) :
    Pending g' (h :: hs) u s where
  ticket_lt := Nat.lt_of_lt_of_le hp.ticket_lt hgrows.tickets
  place_lt := Nat.lt_of_lt_of_le hp.place_lt hgrows.size
  unanswered granted hmem := hp.unanswered granted ((mem_cons_of_other rfl hh).mp hmem)
  wrote_iff := (wrote_cons_of_other hh).trans hp.wrote_iff
  destroyed hs := hgrows.destroyed _ (hp.destroyed hs)

theorem making_put_of_unlike {k j : Nat} {u v : Update} {s t : UpdateStage}
    {o : Option (Update × UpdateStage)} (hk : g.making k = some (u, s)) (hv : u ≠ v)
    (hj : g.making j = some (v, t)) : (g.put k o).making j = some (v, t) := by
  have hjk : j ≠ k := by
    rintro rfl
    exact hv (Prod.mk.inj (Option.some.inj (hk.symm.trans hj))).1
  exact (if_neg hjk).trans hj

/-- The answers that were given stay right if the updates that have them write nothing more. -/
theorem Ledger.answered_grows (hl : Ledger g hs) (hgrows : g.Grows g')
    (hh : ∀ granted, .answered u granted ∈ hs → h.update? ≠ some u) {granted : Bool}
    (hmem : .answered u granted ∈ hs) :
    (granted = true ↔ Wrote (h :: hs) u) ∧ (granted = false → g'.world.Destroyed u.place) :=
  ⟨(hl.answered u granted hmem).1.trans (wrote_cons_of_other (hh granted hmem)).symm,
    fun hrefused => hgrows.destroyed _ ((hl.answered u granted hmem).2 hrefused)⟩

theorem Ledger.written_grows (hl : Ledger g hs) (hh : h.update? ≠ some u) (hw : Wrote (h :: hs) u) :
    .answered u true ∈ h :: hs ∨ ∃ k, g.making k = some (u, .written) :=
  (hl.written u ((wrote_cons_of_other hh).mp hw)).imp_left (List.mem_cons_of_mem _)

theorem Ledger.fresh_grows (hl : Ledger g hs) (hgrows : g.Grows g')
    (hh : ∀ v, h.update? = some v → v.ticket < g.tickets) :
    ∀ i ∈ h :: hs, ∀ v, i.update? = some v → v.ticket < g'.tickets := by
  intro i hi v hv
  refine Nat.lt_of_lt_of_le ?_ hgrows.tickets
  rcases List.mem_cons.mp hi with rfl | hi
  · exact hh v hv
  · exact hl.fresh i hi v hv

/-- A step that has nothing to do with updates. -/
theorem Ledger.keep (hl : Ledger g hs) (hgrows : g.Grows g') (hnone : h.update? = none)
    (hmaking : g'.making = g.making) : Ledger g' (h :: hs) where
  fresh := hl.fresh_grows hgrows (by simp [hnone])
  pending k u s hk := (hl.pending k u s (hmaking ▸ hk)).grows hgrows (by simp [hnone])
  alone k j u s t hk hj := hl.alone k j u s t (hmaking ▸ hk) (hmaking ▸ hj)
  answered u granted hmem := by
    have hold : .answered u granted ∈ hs := (mem_cons_of_other rfl (by simp [hnone])).mp hmem
    exact hl.answered_grows hgrows (by simp [hnone]) hold
  written u hw := by
    rw [hmaking]
    exact hl.written_grows (by simp [hnone]) hw

/-- An update that comes to its next stage, without being answered. -/
theorem Ledger.put (hl : Ledger g hs) (hgrows : g.Grows g') (hk : g.making k = some (u, s))
    (hmaking : g'.making = (g.put k (some (u, s'))).making)
    (hh : ∀ v, h.update? = some v → v = u) (hunanswered : ∀ granted, h ≠ .answered u granted)
    (hwrote : Wrote (h :: hs) u ↔ s' = .written)
    (hdestroyed : s' = .turnedAway → g'.world.Destroyed u.place) : Ledger g' (h :: hs) where
  fresh := hl.fresh_grows hgrows fun v hv => (hh v hv) ▸ (hl.pending k u s hk).ticket_lt
  pending j v t hj := by
    rw [hmaking] at hj
    rcases making_put hj with ⟨rfl, heq⟩ | ⟨hjk, hj⟩
    · obtain ⟨rfl, rfl⟩ := Prod.mk.inj (Option.some.inj heq)
      have hp := hl.pending j u s hk
      refine ⟨Nat.lt_of_lt_of_le hp.ticket_lt hgrows.tickets,
        Nat.lt_of_lt_of_le hp.place_lt hgrows.size, fun granted hmem => ?_, hwrote, hdestroyed⟩
      rcases List.mem_cons.mp hmem with heq | hmem
      · exact hunanswered granted heq.symm
      · exact hp.unanswered granted hmem
    · refine (hl.pending j v t hj).grows hgrows fun hv => hjk ?_
      rw [hh v hv] at hj
      exact hl.alone j k u t s hj hk
  alone i j v t t' hi hj := by
    rw [hmaking] at hi hj
    rcases making_put hi with ⟨rfl, heq⟩ | ⟨-, hi'⟩ <;>
      rcases making_put hj with ⟨rfl, heq'⟩ | ⟨-, hj'⟩
    · rfl
    · obtain ⟨rfl, -⟩ := Prod.mk.inj (Option.some.inj heq)
      exact hl.alone _ _ _ _ _ hk hj'
    · obtain ⟨rfl, -⟩ := Prod.mk.inj (Option.some.inj heq')
      exact hl.alone _ _ _ _ _ hi' hk
    · exact hl.alone i j v t t' hi' hj'
  answered v granted hmem := by
    have hother (b : Bool) (hb : .answered v b ∈ hs) : h.update? ≠ some v := fun hv => by
      rw [hh v hv] at hb
      exact (hl.pending k u s hk).unanswered b hb
    rcases List.mem_cons.mp hmem with rfl | hmem
    · obtain rfl := hh v rfl
      exact absurd rfl (hunanswered granted)
    · exact hl.answered_grows hgrows hother hmem
  written v hw := by
    rw [hmaking]
    by_cases hv : v = u
    · subst hv
      exact .inr ⟨k, by rw [hwrote.mp hw]; exact if_pos rfl⟩
    · have hother : h.update? ≠ some v := fun he => hv (hh v he)
      refine (hl.written_grows hother hw).imp_right fun ⟨j, hj⟩ => ⟨j, ?_⟩
      exact making_put_of_unlike hk (Ne.symm hv) hj

theorem Ledger.answer (hl : Ledger g hs) (hgrows : g.Grows (g.put k none))
    (hk : g.making k = some (u, s)) {granted : Bool} (hgranted : granted = true ↔ s = .written)
    (hrefused : granted = false → s = .turnedAway) :
    Ledger (g.put k none) (.answered u granted :: hs) where
  fresh := hl.fresh_grows hgrows fun v hv => by
    obtain rfl := Option.some.inj hv
    exact (hl.pending k u s hk).ticket_lt
  pending j v t hj := by
    rcases making_put hj with ⟨-, heq⟩ | ⟨hjk, hj⟩
    · exact absurd heq (by simp)
    · refine (hl.pending j v t hj).grows hgrows fun hv => hjk ?_
      obtain rfl := Option.some.inj hv
      exact hl.alone j k u t s hj hk
  alone i j v t t' hi hj := by
    rcases making_put hi with ⟨-, heq⟩ | ⟨-, hi⟩
    · exact absurd heq (by simp)
    · rcases making_put hj with ⟨-, heq⟩ | ⟨-, hj⟩
      · exact absurd heq (by simp)
      · exact hl.alone i j v t t' hi hj
  answered v b hmem := by
    have hp := hl.pending k u s hk
    rcases List.mem_cons.mp hmem with heq | hmem
    · obtain ⟨rfl, rfl⟩ := Happening.answered.inj heq
      have hwrote : Wrote (.answered v b :: hs) v ↔ Wrote hs v :=
        exists_congr fun j => by simp
      exact ⟨hgranted.trans (hwrote.trans hp.wrote_iff).symm,
        fun hb => hp.destroyed (hrefused hb)⟩
    · refine hl.answered_grows hgrows (fun b' hb' hv => ?_) hmem
      obtain rfl := Option.some.inj hv
      exact hp.unanswered b' hb'
  written v hw := by
    by_cases hv : v = u
    · subst hv
      have hwrote : Wrote hs v := hw.imp fun j hj => (List.mem_cons.mp hj).resolve_left (by simp)
      have hs := (hl.pending k v s hk).wrote_iff.mp hwrote
      exact .inl (hgranted.mpr hs ▸ List.mem_cons_self ..)
    · have hother : (Happening.answered u granted).update? ≠ some v := fun he =>
        hv (Option.some.inj he).symm
      refine (hl.written_grows hother hw).imp_right fun ⟨j, hj⟩ => ⟨j, ?_⟩
      exact making_put_of_unlike hk (Ne.symm hv) hj

theorem Ledger.ask (hl : Ledger g hs) {n : Nat} (c : Constraint) (hk : g.making k = none)
    (hn : n < g.world.pool.containers.size)
    (hgrows : g.Grows { g.put k (some (⟨g.tickets, n, c⟩, .waiting)) with
      tickets := g.tickets + 1 }) :
    Ledger { g.put k (some (⟨g.tickets, n, c⟩, .waiting)) with tickets := g.tickets + 1 }
      (.quiet :: hs) := by
  -- nothing has happened to the new update, because nobody has had its ticket
  have hnew {i : Happening} (hi : i.update? = some ⟨g.tickets, n, c⟩) : i ∉ hs := fun hmem =>
    absurd (hl.fresh i hmem _ hi) (Nat.lt_irrefl _)
  have hunlike {j : Nat} {v : Update} {t : UpdateStage} (hj : g.making j = some (v, t)) :
      v ≠ ⟨g.tickets, n, c⟩ := by
    rintro rfl
    exact absurd (hl.pending j _ t hj).ticket_lt (Nat.lt_irrefl _)
  refine ⟨hl.fresh_grows hgrows (by simp [Happening.update?]), fun j v t hj => ?_,
    fun i j v t t' hi hj => ?_, fun v granted hmem => ?_, fun v hw => ?_⟩
  · rcases making_put (g := g) hj with ⟨-, heq⟩ | ⟨-, hj⟩
    · obtain ⟨rfl, rfl⟩ := Prod.mk.inj (Option.some.inj heq)
      refine ⟨Nat.lt_succ_self _, hn, fun granted hmem => ?_, ?_, by simp⟩
      · have hother : Happening.update? .quiet ≠ some ⟨g.tickets, n, c⟩ := by
          simp [Happening.update?]
        exact hnew rfl ((mem_cons_of_other rfl hother).mp hmem)
      · rw [wrote_cons_of_other (by simp [Happening.update?])]
        exact iff_of_false (fun hw => hw.elim fun _ hmem => hnew rfl hmem) (by simp)
    · exact (hl.pending j v t hj).grows hgrows (by simp [Happening.update?])
  · rcases making_put (g := g) hi with ⟨rfl, heq⟩ | ⟨-, hi'⟩ <;>
      rcases making_put (g := g) hj with ⟨rfl, heq'⟩ | ⟨-, hj'⟩
    · rfl
    · obtain ⟨rfl, -⟩ := Prod.mk.inj (Option.some.inj heq)
      exact absurd rfl (hunlike hj')
    · obtain ⟨rfl, -⟩ := Prod.mk.inj (Option.some.inj heq')
      exact absurd rfl (hunlike hi')
    · exact hl.alone i j v t t' hi' hj'
  · have hold := (mem_cons_of_other (h := .quiet) rfl (by simp [Happening.update?])).mp hmem
    exact hl.answered_grows hgrows (by simp [Happening.update?]) hold
  · refine (hl.written_grows (by simp [Happening.update?]) hw).imp_right fun ⟨j, hj⟩ => ⟨j, ?_⟩
    have hjk : j ≠ k := by
      rintro rfl
      exact absurd (hj.symm.trans hk) (by simp)
    exact (if_neg hjk).trans hj

end Ledger

/-- **The ledger stays right.** -/
theorem Ledger.step (hl : Ledger g hs) (hstep : g.Step h g') (hg : g.Sound)
    (hw : g.world.Sound) : Ledger g' (h :: hs) := by
  have hgrows := hstep.grows hg hw
  -- an update that does not write has written if it had
  have hquiet {k : Nat} {u : Update} {s s' : UpdateStage} {i : Happening}
      (hk : g.making k = some (u, s)) (hbefore : s ≠ .written) (hafter : s' ≠ .written)
      (hi : ∀ j, i ≠ .wrote j u) : Wrote (i :: hs) u ↔ s' = .written := by
    refine iff_of_false ?_ hafter
    rintro ⟨j, hmem⟩
    rcases List.mem_cons.mp hmem with heq | hmem
    · exact hi j heq.symm
    · exact hbefore ((hl.pending k u s hk).wrote_iff.mp ⟨j, hmem⟩)
  cases hstep with
  | event hs hk ha hlocked hnew hold => exact hl.keep hgrows rfl rfl
  | read hlock => exact hl.keep hgrows rfl rfl
  | ask c hth hfree hk hn => exact hl.ask c hk hn hgrows
  | lockPhase hk hlock =>
    exact hl.put hgrows hk rfl (by simp [Happening.update?]) (by simp)
      (hquiet hk (by simp) (by simp) (by simp)) (by simp)
  | allow hk hphase =>
    exact hl.put hgrows hk rfl (by simp [Happening.update?]) (by simp)
      (hquiet hk (by simp) (by simp) (by simp)) (by simp)
  | turnAway hk hphase =>
    exact hl.put hgrows hk rfl (by simp [Happening.update?]) (by simp)
      (hquiet hk (by simp) (by simp) (by simp))
      fun _ => ⟨(hl.pending _ _ _ hk).place_lt, hphase⟩
  | lockLimits hk hlock =>
    exact hl.put hgrows hk rfl (by simp [Happening.update?]) (by simp)
      (hquiet hk (by simp) (by simp) (by simp)) (by simp)
  | @write k u order hk horder =>
    exact hl.put hgrows hk rfl (by simp [Happening.update?]) (by simp)
      (iff_of_true ⟨k, List.mem_cons_self ..⟩ rfl) (by simp)
  | grant hk => exact hl.answer hgrows hk (by simp) (by simp)
  | refuse hk => exact hl.answer hgrows hk (by simp) (by simp)

theorem Run.ledger (hrun : Run start hs g) : Ledger g hs := by
  induction hrun with
  | nil => exact ledger_start
  | cons hrun hstep ih =>
    obtain ⟨hw, hg⟩ := hrun.world sound_start
    exact ih.step hstep hg (hw.sound World.sound_start)

/-! ## Free locks -/

/-- Nobody but the thread `k` makes an update. -/
def Alone (g : Guarded) (k : Nat) : Prop := ∀ j, j ≠ k → g.making j = none

theorem Alone.put {k : Nat} (hg : g.Alone k) (o : Option (Update × UpdateStage)) :
    (g.put k o).Alone k := fun j hj => (if_neg hj).trans (hg j hj)

theorem Alone.not_locked {k : Nat} (hg : g.Alone k) {lock : UpdateStage → Bool}
    (hk : (g.making k).any (fun r => lock r.2) = false) (n : Nat) :
    ¬∃ j u s, g.making j = some (u, s) ∧ u.place = n ∧ lock s = true := by
  rintro ⟨j, u, s, hj, -, hs⟩
  by_cases hjk : j = k
  · subst hjk
    rw [hj] at hk
    exact absurd (hs.symm.trans hk) (by simp)
  · exact absurd (hj.symm.trans (hg j hjk)) (by simp)

/-! ## The limits of a container -/

/-- **The limits of a container are the overlay of its whole history**, after any steps of any
threads, however they step past one another.

* What is read are the limits of the configuration that the container was created from, with all
  constraints that updates have written appended in the order in which they were written: one
  constraint for each resource, in increasing order of the resources.
* An update that returns is granted exactly if it has written, and refused only if the container is
  destroyed by then.  An update that has written has nothing left to do but to return.  No update
  writes after the container is destroyed.
* Once a container is destroyed, what is read stays the same, and it can always be read.
* The root container has no limits. -/
theorem overlay_of_history (hrun : Run start hs g) :
    (∀ n c, Created n c (events hs) →
      g.constraints n = (c.withConstraints (applied n hs)).effective.toList ∧
      (g.constraints n).Pairwise fun j k => j.resource.rank < k.resource.rank) ∧
    (∀ u granted, .answered u granted ∈ hs →
      (granted = true ↔ Wrote hs u) ∧ (granted = false → g.world.Destroyed u.place)) ∧
    (∀ u, Wrote hs u → .answered u true ∈ hs ∨ ∃ k, g.making k = some (u, .written)) ∧
    (∀ newer older k u, hs = newer ++ .wrote k u :: older →
      ∀ e ∈ events older, e.note ≠ .destroyed (.managed u.place)) ∧
    (∀ n, (∃ e ∈ events hs, e.note = .destroyed (.managed n)) → ∀ hs' g', Run g hs' g' →
      g'.constraints n = g.constraints n ∧ g'.Step (.read n (g.constraints n)) g') ∧
    (g.world.pool.limits .root).toList = [] := by
  obtain ⟨hw, hg⟩ := hrun.world sound_start
  refine ⟨fun n c hc => ?_, hrun.ledger.answered, hrun.ledger.written,
    fun newer older k u heq e he hnote => ?_, fun n hmem hs' g' hrun' => ?_, rfl⟩
  · have hlimits := hw.limits hc
    rw [hrun.updates_eq_applied] at hlimits
    rw [hg.constraints_eq (hw.limited.born n c hc), hlimits]
    exact ⟨rfl, Limits.pairwise_toList _⟩
  · -- the container ran when the update wrote, so that it was not destroyed before
    subst heq
    obtain ⟨v, hupto, -⟩ := hrun.split
    cases hupto with
    | cons hbefore hstep =>
      have hd := hbefore.destroyed_of_mem ⟨e, he, hnote⟩
      cases hstep with
      | write hk horder =>
        have hrunning := (hbefore.world sound_start).2.running _ _ _ hk (.inr rfl)
        exact absurd (hd.2.symm.trans hrunning) (by decide)
  · have hd := hrun.destroyed_of_mem hmem
    have hsound := hw.sound World.sound_start
    obtain ⟨hw', hg'⟩ := hrun'.world hg
    have hd' := (hw'.destroyed hsound hd).1
    have hsame : g'.constraints n = g.constraints n := by
      rw [hg'.constraints_eq hd'.1, hg.constraints_eq hd.1, hw'.limits_of_destroyed hsound hd]
    exact ⟨hsame, hsame ▸ .read (hg'.not_limitsLocked hd')⟩

/-- A configuration that limits the number of execution units twice. -/
def batch : Config := ⟨some "batch", some .minimal, [⟨.pids, 16⟩]⟩

/-- The second thread updates the first container, which the first thread looks at in the middle of
that, destroys the container and asks for another update. -/
def lateUpdate : List Happening :=
  [.answered ⟨1, 0, ⟨.pids, 8⟩⟩ false, .turnedAway 1 ⟨1, 0, ⟨.pids, 8⟩⟩, .quiet, .quiet,
    .event ⟨1, .perform (.destroy (.managed 0)), .destroyed (.managed 0)⟩,
    .answered ⟨0, 0, ⟨.pids, 32⟩⟩ true, .wrote 1 ⟨0, 0, ⟨.pids, 32⟩⟩, .quiet,
    .event ⟨0, .perform (.run (.managed 0)), .quiet⟩, .quiet, .quiet, .quiet,
    .event ⟨0, .perform .spawn, .quiet⟩,
    .event ⟨0, .perform (.create batch .idle), .created 0⟩]

theorem overlay_of_history_lateUpdate :
    ∃ g, Run start lateUpdate g ∧
      g.constraints 0 = (batch.withConstraints [⟨.pids, 32⟩]).effective.toList ∧
      ∀ hs' g', Run g hs' g' →
        g'.constraints 0 = (batch.withConstraints [⟨.pids, 32⟩]).effective.toList := by
  -- the second thread is the only one that updates, so that it finds the locks free
  have h0 : start.Alone 1 := fun _ _ => rfl
  have created := Run.nil.cons (@Step.event start 0 (.perform (.create batch .idle)) _ _
    (fun n => if n = 0 then batch.effective.toList else []) rfl rfl (by simp)
    (fun n hn => absurd hn (h0.not_locked rfl n))
    (fun n hn => by obtain rfl := Note.created.inj hn; exact .refl _)
    (fun n hn => if_neg fun h => hn (congrArg Note.created h.symm)))
  have spawned := created.cons (@Step.event _ 0 (.perform .spawn) .quiet _ _ rfl rfl (by simp)
    (fun n hn => absurd hn (h0.not_locked rfl n)) (by simp) (fun _ _ => rfl))
  have asked := spawned.cons (@Step.ask _ 1 0 _ ⟨.pids, 32⟩ rfl rfl rfl (by decide))
  have h1 := h0.put (some (⟨0, 0, ⟨.pids, 32⟩⟩, .waiting))
  have locked := asked.cons (.lockPhase (k := 1) rfl (h1.not_locked rfl 0))
  have allowed := locked.cons (.allow (k := 1) rfl rfl)
  have looked := allowed.cons (@Step.event _ 0 (.perform (.run (.managed 0))) .quiet _ _ rfl rfl
    (by simp) (fun _ _ => rfl) (by simp) (fun _ _ => rfl))
  have h2 := (h1.put (some (⟨0, 0, ⟨.pids, 32⟩⟩, .looking))).put
    (some (⟨0, 0, ⟨.pids, 32⟩⟩, .allowed))
  have locked' := looked.cons (.lockLimits (k := 1) rfl (h2.not_locked rfl 0))
  have granted := (locked'.cons (.write (k := 1) rfl (List.reverse_perm _))).cons
    (.grant (k := 1) rfl)
  have h3 := ((h2.put (some (⟨0, 0, ⟨.pids, 32⟩⟩, .writing))).put
    (some (⟨0, 0, ⟨.pids, 32⟩⟩, .written))).put none
  have destroyed := granted.cons (@Step.event _ 1 (.perform (.destroy (.managed 0)))
    (.destroyed (.managed 0)) _ _ rfl rfl (by simp)
    (fun n hn => absurd hn (h3.not_locked rfl n)) (by simp) (fun _ _ => rfl))
  have asked' := destroyed.cons (@Step.ask _ 1 0 _ ⟨.pids, 8⟩ rfl rfl rfl (by decide))
  have h4 := h3.put (some (⟨1, 0, ⟨.pids, 8⟩⟩, .waiting))
  have locked'' := asked'.cons (.lockPhase (k := 1) rfl (h4.not_locked rfl 0))
  have refused : Run start lateUpdate _ :=
    (locked''.cons (.turnAway (k := 1) rfl rfl)).cons (.refuse (k := 1) rfl)
  obtain ⟨hlimits, -, -, -, hfrozen, -⟩ := overlay_of_history refused
  have hnow := (hlimits 0 batch ⟨0, .idle, by simp [lateUpdate, events, Happening.event?]⟩).1
  have hdestroyed : (⟨1, .perform (.destroy (.managed 0)), .destroyed (.managed 0)⟩ : Event) ∈
      events lateUpdate := by simp [lateUpdate, events, Happening.event?]
  exact ⟨_, refused, hnow, fun hs' g' hrun =>
    (hfrozen 0 ⟨_, hdestroyed, rfl⟩ hs' g' hrun).1.trans hnow⟩

end Guarded

end ResourceContainers.Interleaving
