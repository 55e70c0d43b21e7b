import ResourceContainers.Files.Session
import ResourceContainers.Proofs.Files.Kernel
import ResourceContainers.Proofs.Io.Offloading

/-!
# Sessions do not show where their primitives run

A session works with files through a gate, and adapters come and go at that gate.  What the session
sees of its files --- the answers, the buffers, what the files hold, where the descriptors stand and
who has locks --- should not depend on the adapters, as long as each of them does its work while it
is active.

* `Kernel.observe`: what a program sees of its primitives on any operating system.
* `Command.isFile`: the commands that have to do with files.
* `Session.view`: what there is of files in a session.
* `Session.observe`: what each file command answers, and what there is of files after it.
* `Dependable`: adapters, sessions and commands with no other than diligent conduct.
* `run_file`, `run_gate`: one command, one case for each.
* `observe_eq_unaided`: what a session observes is what a session without adapters observes.
* `observe_eq`: the main statement.

## Commands that differ

Two sessions are compared that get the same file commands in the same order.  Before, between and
after these each of them may get whatever commands it likes that have to do with the gate, and each
may be inside another executor at each command, which is what some adapters are active or inactive
by.
-/

namespace ResourceContainers

/-! ## Primitives -/

/-- **A primitive ends alike through every gate**, and leaves the same state, whatever the counters
of the gate and whether it has an adapter. -/
theorem Primitive.performOn_eq {σ : Type} (p : Primitive) (K : Kernel σ) (patience : σ → Nat)
    (buffers : List (List UInt8)) (m m' : Metrics) {active active' : Option Conduct}
    (hactive : ∀ c, active = some c → c.Diligent) (hactive' : ∀ c, active' = some c → c.Diligent)
    (s : σ) :
    (p.performOn K patience buffers m active s).ending =
        (p.performOn K patience buffers m' active' s).ending ∧
      (p.performOn K patience buffers m active s).state =
        (p.performOn K patience buffers m' active' s).state := by
  unfold performOn
  cases p.request buffers with
  | error e => exact ⟨rfl, rfl⟩
  | ok r =>
    by_cases hgated : p.operation?.isSome
    · have hcall (place : Place) : p.asCallOn K patience r place s =
        (.returned (p.answer (p.submitOn K (patience s) r s).1),
          (p.submitOn K (patience s) r s).2) := rfl
      obtain ⟨hending, hstate⟩ := Gate.dispatch_of_calm m hactive hcall
      obtain ⟨hending', hstate'⟩ := Gate.dispatch_of_calm m' hactive' hcall
      simp only [if_pos hgated]
      exact ⟨hending.trans hending'.symm, hstate.trans hstate'.symm⟩
    · simp [hgated]

theorem Primitive.perform_eq (p : Primitive) (m m' : Metrics) {active active' : Option Conduct}
    (hactive : ∀ c, active = some c → c.Diligent) (hactive' : ∀ c, active' = some c → c.Diligent)
    (st : FileState) :
    (p.perform m active st).ending = (p.perform m' active' st).ending ∧
      (p.perform m active st).state = (p.perform m' active' st).state := by
  rw [perform_eq_performOn, perform_eq_performOn]
  exact p.performOn_eq _ _ _ m m' hactive hactive' st

/-- A primitive that a program performs with some buffers, and what the active adapter of its gate
does at that time, if it has one. -/
structure Kernel.Use where
  active : Option Conduct
  buffers : List (List UInt8)
  primitive : Primitive

namespace Kernel

variable {σ : Type} (K : Kernel σ) (patience : σ → Nat)

/-- How the primitives of a program end on an operating system, with what there is of files after
each, and of the buffers. -/
def observe (m : Metrics) (s : σ) :
    List Use → List (Ending (Except IoError Primitive.Value) × σ × List (List UInt8))
  | [] => []
  | u :: rest =>
    let d := u.primitive.performOn K.filling (fun s => patience s.1) u.buffers m u.active
      (s, u.buffers)
    (d.ending, d.state) :: observe d.metrics d.state.1 rest

/-- **Programs do not see the gate on any operating system**: if adapters are diligent, primitives
end alike with any of them and without, and leave the same files and buffers. -/
theorem observe_eq_of_diligent {us us' : List Use}
    (h : ∀ u ∈ us, ∀ c, u.active = some c → c.Diligent)
    (h' : ∀ u ∈ us', ∀ c, u.active = some c → c.Diligent)
    (hsame : us.map (fun u => (u.buffers, u.primitive)) =
      us'.map fun u => (u.buffers, u.primitive)) (m m' : Metrics) (s : σ) :
    K.observe patience m s us = K.observe patience m' s us' := by
  induction us generalizing us' m m' s with
  | nil =>
    obtain rfl := List.map_eq_nil_iff.mp hsame.symm
    rfl
  | cons u us ih =>
    obtain ⟨u', us', rfl, hu, hus⟩ := List.map_eq_cons_iff.mp hsame.symm
    obtain ⟨hbuffers, hprimitive⟩ := Prod.mk.inj hu
    obtain ⟨hending, hstate⟩ := u.primitive.performOn_eq K.filling (fun s => patience s.1) u.buffers
      m m' (h u (List.mem_cons_self ..)) (h' u' (List.mem_cons_self ..)) (s, u.buffers)
    have hrest := ih (fun v hv => h v (List.mem_cons_of_mem u hv))
      (fun v hv => h' v (List.mem_cons_of_mem u' hv)) hus.symm
    simp only [observe, hbuffers, hprimitive, hending, hstate]
    exact congrArg _ (hrest ..)

end Kernel

/-! ## Adapters -/

/-- An adapter that is diligent whenever it takes operations. -/
def Adapter.Dependable : Adapter → Prop
  | scripted active conduct _ => active = true → conduct.Diligent
  | blocking _ => True

theorem Adapter.Dependable.diligent {a : Adapter} (h : a.Dependable) {around : Surroundings}
    (hactive : a.isActive around = true) : a.conduct.Diligent := by
  cases a with
  | scripted active conduct submitted => exact h hactive
  | blocking enabled => exact Conduct.diligent_inline

theorem Adapter.Dependable.submit {a : Adapter} (h : a.Dependable) (o : Operation) :
    (a.submit o).Dependable := by
  cases a with
  | scripted active conduct submitted => exact h
  | blocking enabled => trivial

namespace Session

/-! ## Commands -/

/-- Whether a command has to do with files. -/
def Command.isFile {ω : Type} : Command ω → Bool
  | openFile _ _ | reopen _ _ _ | duplicate _ _ | pipe _ _ | contents _ | file _ _ _ | close _
  | interrupted _ _ _ _ _ | strangerLock _ _ _ _ | probe _ _ _ _ => true
  | _ => false

/-- Whether the adapters that a command makes or changes are dependable. -/
def Command.Dependable {ω : Type} : Command ω → Prop
  | install _ active conduct | script _ active conduct => active = true → conduct.Diligent
  | _ => True

/-- All adapters of a session are dependable. -/
def Dependable (s : Session) : Prop := ∀ key a, s.adapters.get? key = some a → a.Dependable

/-- What there is of files in a session: files, descriptors, positions and locks, and the names. -/
def view (s : Session) : System × Table String Descriptor := (s.system, s.files)

/-- A session without adapters. -/
def unaided (v : System × Table String Descriptor) : Session :=
  { start false with system := v.1, files := v.2 }

/-- What each file command answers, and what there is of files after it. -/
def observe {ω : Type} (s : Session) :
    List (Surroundings × Command ω) → List (Answer ω × System × Table String Descriptor)
  | [] => []
  | (around, c) :: rest =>
    let r := s.run around c
    if c.isFile then (r.2, r.1.view) :: r.1.observe rest else r.1.observe rest

variable {ω : Type} {s s' : Session} {around around' : Surroundings}

/-- Whether a session is dependable depends on its adapters alone. -/
theorem Dependable.of_adapters (h : s.Dependable) (hadapters : s'.adapters = s.adapters) :
    s'.Dependable :=
  fun key a ha => h key a (hadapters ▸ ha)

theorem dependable_start (onProcessGate : Bool) : (start onProcessGate).Dependable :=
  fun _ _ h => absurd h (by simp [start])

theorem dependable_unaided (v : System × Table String Descriptor) : (unaided v).Dependable :=
  (dependable_start false).of_adapters rfl

theorem Dependable.active (h : s.Dependable) (around : Surroundings) :
    ∀ c, (s.active? around).map Adapter.conduct = some c → c.Diligent := by
  intro c hc
  obtain ⟨a, ha, rfl⟩ := Option.map_eq_some_iff.mp hc
  obtain ⟨hadapter, hactive⟩ := Option.filter_eq_some_iff.mp ha
  obtain ⟨r, -, hlook⟩ := Option.bind_eq_some_iff.mp hadapter
  have hdependable : a.Dependable := by
    cases r with
    | named key => exact h key a hlook
    | standard =>
      obtain rfl := Option.some.inj hlook
      trivial
  exact hdependable.diligent hactive

/-! ## One command -/

theorem Dependable.withInstalled (h : s.Dependable) (a : Option AdapterRef) :
    (s.withInstalled a).Dependable := by
  intro key b hb
  refine h key b ?_
  unfold Session.withInstalled at hb
  split at hb
  · exact hb
  · exact hb

theorem Dependable.withAdapter (h : s.Dependable) {key : String} {a : Adapter}
    (ha : a.Dependable) : (s.withAdapter key a).Dependable := by
  intro key' b hb
  simp only [Session.withAdapter, Table.get?_insert] at hb
  split at hb
  · obtain rfl := Option.some.inj hb
    exact ha
  · exact h key' b hb

theorem Dependable.submitting (h : s.Dependable) (o : Operation) :
    (s.submitting around o).Dependable := by
  unfold Session.submitting
  split
  · next key a hinstalled hactive =>
    refine h.withAdapter (Adapter.Dependable.submit ?_ o)
    obtain ⟨hadapter, -⟩ := Option.filter_eq_some_iff.mp hactive
    rw [adapter?, hinstalled] at hadapter
    exact h key a hadapter
  · exact h

/-- Handing an operation to an adapter does nothing to files. -/
theorem view_submitting (o : Operation) : (s.submitting around o).view = s.view := by
  unfold submitting
  split
  · rfl
  · rfl

theorem view_withInstalled (a : Option AdapterRef) : (s.withInstalled a).view = s.view := by
  unfold withInstalled
  split
  · rfl
  · rfl

theorem view_perform (buffers : List (List UInt8)) (p : Primitive) :
    (s.perform around buffers p : Session × Answer ω).1.view =
      ((p.perform s.metrics ((s.active? around).map Adapter.conduct)
        ⟨s.system, buffers⟩).state.system, s.files) := by
  unfold perform
  cases p.submits buffers with
  | none => rfl
  | some o => exact congrArg (Prod.mk _) (congrArg Prod.snd (view_submitting o))

/-- A primitive answers alike in all dependable sessions with the same files, and leaves the same
files. -/
theorem perform_alike (h : s.Dependable) (h' : s'.Dependable) (hview : s.view = s'.view)
    (buffers : List (List UInt8)) (p : Primitive) :
    (s.perform around buffers p : Session × Answer ω).2 = (s'.perform around' buffers p).2 ∧
      (s.perform around buffers p : Session × Answer ω).1.view =
        (s'.perform around' buffers p : Session × Answer ω).1.view := by
  obtain ⟨hsystem, hfiles⟩ := Prod.mk.inj hview
  obtain ⟨hending, hstate⟩ :=
    p.perform_eq s.metrics s'.metrics (h.active around) (h'.active around') ⟨s.system, buffers⟩
  refine ⟨?_, ?_⟩
  · simp only [perform, ← hsystem, hending, hstate]
  · rw [view_perform, view_perform, ← hsystem, hfiles, hstate]

theorem Dependable.perform (h : s.Dependable) (around : Surroundings)
    (buffers : List (List UInt8)) (p : Primitive) :
    (s.perform around buffers p : Session × Answer ω).1.Dependable := by
  unfold Session.perform
  cases p.submits buffers with
  | none => exact h
  | some o => exact h.submitting o

/-- **Commands that have nothing to do with files** leave them alone. -/
theorem run_gate {c : Command ω} (hc : c.isFile = false) : (s.run around c).1.view = s.view := by
  cases c with
  | install key active conduct => exact view_withInstalled _
  | installBlocking key enabled => exact view_withInstalled _
  | reinstall key =>
    simp only [run]
    split
    · exact view_withInstalled _
    · rfl
  | uninstall => exact view_withInstalled _
  | showAdapter => rfl
  | script key active conduct => simp only [run]; split <;> rfl
  | submitted key => simp only [run]; split <;> rfl
  | enable key enabled => simp only [run]; split <;> rfl
  | resetMetrics => rfl
  | setUp settings => simp only [run]; split <;> rfl
  | dispatch operation ending =>
    simp only [run]
    split
    · exact view_submitting _
    · rfl
  | unknown name => rfl
  | _ => exact absurd hc (by simp [Command.isFile])

theorem view_withFile (hview : s.view = s'.view) (key : String) (fd : Descriptor) :
    (s.withFile key fd).view = (s'.withFile key fd).view := by
  obtain ⟨hsystem, hfiles⟩ := Prod.mk.inj hview
  simp only [view, withFile, hsystem, hfiles]

/-- **File commands** answer alike in all dependable sessions with the same files, and leave the
same files. -/
theorem run_file (h : s.Dependable) (h' : s'.Dependable) (hview : s.view = s'.view) {c : Command ω}
    (hc : c.isFile = true) :
    (s.run around c).2 = (s'.run around' c).2 ∧
      (s.run around c).1.view = (s'.run around' c).1.view := by
  obtain ⟨adapters, own, process, onProcessGate, metrics, system, files⟩ := s
  obtain ⟨adapters', own', process', onProcessGate', metrics', system', files'⟩ := s'
  obtain ⟨rfl, rfl⟩ := Prod.mk.inj hview
  cases c with
  | openFile key data => exact ⟨rfl, view_withFile rfl key _⟩
  | reopen key source mode =>
    simp only [run]
    split
    · exact ⟨rfl, view_withFile rfl key _⟩
    · exact ⟨rfl, rfl⟩
  | duplicate key source =>
    simp only [run]
    split
    · exact ⟨rfl, view_withFile rfl key _⟩
    · exact ⟨rfl, rfl⟩
  | pipe reader writer => exact ⟨rfl, view_withFile (view_withFile rfl reader _) writer _⟩
  | contents key =>
    simp only [run]
    split <;> exact ⟨rfl, rfl⟩
  | file key buffers primitive =>
    simp only [run, descriptor?]
    split
    · exact perform_alike h h' rfl buffers _
    · exact ⟨rfl, rfl⟩
  | close key =>
    simp only [run, descriptor?]
    split
    · next fd _ =>
      obtain ⟨hanswer, hleft⟩ := perform_alike h h' rfl [] (.close fd)
      exact ⟨hanswer, congrArg (fun v => (v.1, v.2.erase key)) hleft⟩
    · exact ⟨rfl, rfl⟩
  | interrupted key writer data buffers primitive =>
    simp only [run, descriptor?]
    split
    · exact ⟨rfl, rfl⟩
    · exact ⟨rfl, rfl⟩
    · next fd w _ _ =>
      -- the adapters of a session do not change with its faults
      let disturbed : System := { (system.issue (.write w data)).2 with faults := interruptions }
      have hs : Dependable ⟨adapters, own, process, onProcessGate, metrics, disturbed, files⟩ :=
        h.of_adapters rfl
      have hs' : Dependable ⟨adapters', own', process', onProcessGate', metrics', disturbed,
        files⟩ := h'.of_adapters rfl
      obtain ⟨hanswer, hleft⟩ := perform_alike hs hs' rfl buffers (primitive fd)
      exact ⟨hanswer, congrArg (fun v => ({ v.1 with faults := [] }, v.2)) hleft⟩
  | strangerLock key shared start length =>
    simp only [run]
    split
    · exact ⟨rfl, rfl⟩
    · exact ⟨rfl, rfl⟩
    · split <;> exact ⟨rfl, rfl⟩
  | probe key shared start length =>
    simp only [run]
    split
    · exact ⟨rfl, rfl⟩
    · exact ⟨rfl, rfl⟩
    · split <;> exact ⟨rfl, rfl⟩
  | _ => exact absurd hc (by simp [Command.isFile])

/-- **A dependable command keeps a session dependable.** -/
theorem Dependable.run (h : s.Dependable) {c : Command ω} (hc : c.Dependable) :
    (s.run around c).1.Dependable := by
  cases c with
  | install key active conduct =>
    exact (h.withInstalled _).withAdapter (a := .ofConduct active conduct) hc
  | installBlocking key enabled => exact (h.withInstalled _).withAdapter trivial
  | reinstall key =>
    simp only [Session.run]
    split
    · exact h.withInstalled _
    · exact h
  | uninstall => exact h.withInstalled none
  | script key active conduct =>
    simp only [Session.run]
    split
    · exact h.withAdapter hc
    · exact h
  | submitted key => simp only [Session.run]; split <;> exact h
  | enable key enabled =>
    simp only [Session.run]
    split
    · exact h.withAdapter trivial
    · exact h
  | setUp settings => simp only [Session.run]; split <;> exact h
  | dispatch operation ending =>
    simp only [Session.run]
    split
    · exact h.submitting _
    · exact h
  | reopen key source mode => simp only [Session.run]; split <;> exact h
  | duplicate key source => simp only [Session.run]; split <;> exact h
  | contents key => simp only [Session.run]; split <;> exact h
  | file key buffers primitive =>
    simp only [Session.run]
    split
    · exact h.perform around buffers _
    · exact h
  | close key =>
    simp only [Session.run]
    split
    · next fd _ => exact (h.perform (ω := ω) around [] (.close fd)).of_adapters rfl
    · exact h
  | interrupted key writer data buffers primitive =>
    simp only [Session.run]
    split
    · exact h
    · exact h
    · next fd w _ _ =>
      let disturbed : System := { (s.system.issue (.write w data)).2 with faults := interruptions }
      have hs : Dependable { s with system := disturbed } := h.of_adapters rfl
      exact (hs.perform (ω := ω) around buffers (primitive fd)).of_adapters rfl
  | strangerLock key shared start length =>
    simp only [Session.run]
    split
    · exact h
    · exact h
    · split <;> exact h
  | probe key shared start length =>
    simp only [Session.run]
    split
    · exact h
    · exact h
    · split <;> exact h
  | _ => exact h

/-! ## Whole sessions -/

/-- What a session without adapters answers to file commands, and what there is of files after
each. -/
def unaidedAnswers (v : System × Table String Descriptor) :
    List (Command ω) → List (Answer ω × System × Table String Descriptor)
  | [] => []
  | c :: rest =>
    let r := (unaided v).run .plain c
    (r.2, r.1.view) :: unaidedAnswers r.1.view rest

/-- **What a dependable session observes of files** is what a session observes that has no adapters
and gets the file commands alone. -/
theorem observe_eq_unaided (h : s.Dependable) {cs : List (Surroundings × Command ω)}
    (hcs : ∀ c ∈ cs, c.2.Dependable) :
    s.observe cs = unaidedAnswers s.view ((cs.map Prod.snd).filter Command.isFile) := by
  induction cs generalizing s with
  | nil => rfl
  | cons c cs ih =>
    obtain ⟨around, c⟩ := c
    have hdependable : (s.run around c).1.Dependable :=
      h.run (hcs _ (List.mem_cons_self ..))
    have hrest := ih hdependable fun c hc => hcs c (List.mem_cons_of_mem _ hc)
    cases hc : c.isFile with
    | true =>
      obtain ⟨hanswer, hleft⟩ :
          (s.run around c).2 = ((unaided s.view).run .plain c).2 ∧
            (s.run around c).1.view = ((unaided s.view).run .plain c).1.view :=
        run_file h (dependable_unaided s.view) rfl hc
      simp only [observe, List.map_cons, List.filter_cons, hc, if_true, unaidedAnswers]
      rw [hrest, hanswer, hleft]
    | false =>
      simp only [observe, List.map_cons, List.filter_cons, hc, Bool.false_eq_true, if_false]
      rw [hrest, run_gate hc]

/-- **Direct and offloaded sessions are indistinguishable.**

Take two sessions with the same files, descriptors and locks, whatever adapters are lent to their
gates, and two sequences of commands that contain the same file commands in the same order.  They
may install, replace, switch and remove adapters in different ways and at different times, and be
given inside different executors.  As long as every adapter that takes an operation runs it, once or
more often, and says that all is well, every file command has the same answer in both --- the same
value or the same failure, and the same contents of the buffers --- and leaves the same files,
descriptors, positions and locks.

The same holds of primitives on any operating system, whatever it answers, as long as that does not
depend on where they run. -/
theorem observe_eq (h : s.Dependable) (h' : s'.Dependable) (hsystem : s.system = s'.system)
    (hfiles : s.files = s'.files) {cs cs' : List (Surroundings × Command ω)}
    (hcs : ∀ c ∈ cs, c.2.Dependable) (hcs' : ∀ c ∈ cs', c.2.Dependable)
    (hsame : (cs.map Prod.snd).filter Command.isFile = (cs'.map Prod.snd).filter Command.isFile) :
    s.observe cs = s'.observe cs' ∧
      ∀ {σ : Type} (K : Kernel σ) (patience : σ → Nat) (us us' : List Kernel.Use),
        (∀ u ∈ us, ∀ c, u.active = some c → c.Diligent) →
        (∀ u ∈ us', ∀ c, u.active = some c → c.Diligent) →
        us.map (fun u => (u.buffers, u.primitive)) =
          us'.map (fun u => (u.buffers, u.primitive)) →
        ∀ m m' t, K.observe patience m t us = K.observe patience m' t us' := by
  have hview : s.view = s'.view := by rw [view, view, hsystem, hfiles]
  refine ⟨?_, fun K patience us us' => K.observe_eq_of_diligent patience⟩
  rw [observe_eq_unaided h hcs, observe_eq_unaided h' hcs', hview, hsame]

/-- A session that writes to a file and reads it again. -/
def directCommands : List (Surroundings × Command Unit) :=
  [(.plain, .openFile "f" [1, 2, 3]), (.plain, .file "f" [] (.pwrite · [7] 1)),
   (.plain, .file "f" [[0, 0], [0]] .readv), (.plain, .file "g" [] .size),
   (.plain, .close "f")]

/-- The same with adapters, which come, change and go. -/
def offloadedCommands : List (Surroundings × Command Unit) :=
  [(.plain, .install "a" true .run), (.oneThread, .openFile "f" [1, 2, 3]),
   (.plain, .file "f" [] (.pwrite · [7] 1)), (.plain, .script "a" true .twice),
   (.plain, .file "f" [[0, 0], [0]] .readv), (.plain, .installBlocking "b" true),
   (.manyThreads, .file "g" [] .size), (.plain, .uninstall), (.oneThread, .close "f")]

/-- The five file commands show the same, although two of them were offloaded in the second
session. -/
theorem observe_eq_offloaded :
    (start false).observe directCommands = (start true).observe offloadedCommands ∧
      ((start false).observe directCommands).length = 5 ∧
      ((start true).runAll offloadedCommands).map (·.2.offloaded.operations) =
        [0, 0, 1, 1, 2, 2, 2, 2, 2] := by
  have hdirect : ∀ c ∈ directCommands, c.2.Dependable := by
    simp [directCommands, Command.Dependable]
  have hoffloaded : ∀ c ∈ offloadedCommands, c.2.Dependable := by
    simp [offloadedCommands, Command.Dependable, Conduct.diligent_run, Conduct.diligent_twice]
  obtain ⟨hobserve, -⟩ := observe_eq (dependable_start false) (dependable_start true) rfl rfl
    hdirect hoffloaded rfl
  exact ⟨hobserve, rfl, rfl⟩

end Session

end ResourceContainers
