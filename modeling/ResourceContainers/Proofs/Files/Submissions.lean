import ResourceContainers.Proofs.Files.Interruptions
import ResourceContainers.Proofs.Files.Requests

/-!
# What adapters are given

An adapter learns of an operation by its name and gets the work along with it.  Fourteen primitives
share one gate, each with a name, an operation and perhaps an offset or a size of its own, and an
offset or a size may be more than the operating system can represent.  Here is what an adapter gets
to see of any commands of a session, as long as it is lent to the gate and active.

* `Primitive.name`, `Primitive.gatedNames`, `Primitive.place?`: what primitives are called, which of
  them pass the gate, and the offset or the size that they are given.
* `Primitive.isSubmitted`: a primitive passes the gate and is not out of range.
* `Primitive.label_submits`: an adapter gets a primitive under its name exactly if that is so.
* `Primitive.requests_of_inRange`: an offset that can be represented goes into the request as it is.
* `Session.perform_of_outOfRange`: one that cannot leaves a session as it was.
* `Session.Lent`, `Session.Lent.after`: an adapter that is lent, and what commands give to it.
* `Session.submissions_eq`: the main statement.

## Where the range is checked

The offset is looked at before the gate is.  So a primitive that is out of range is no dispatch at
all: neither a counter nor an adapter nor the operating system hears of it, on either path.
-/

namespace ResourceContainers

/-! ## Primitives -/

namespace Primitive

def name : Primitive → String
  | read _ => "read"
  | pread _ _ => "pread"
  | readv _ => "readv"
  | write _ _ => "write"
  | pwrite _ _ _ => "pwrite"
  | writev _ _ => "writev"
  | force _ _ => "force"
  | truncate _ _ => "truncate"
  | seek _ _ => "seek"
  | position _ => "position"
  | size _ => "size"
  | lock _ _ _ _ _ => "lock"
  | release _ _ _ => "release"
  | close _ => "close"

/-- What the primitives are called that pass the gate. -/
def gatedNames : List String :=
  ["read", "pread", "readv", "write", "pwrite", "writev", "force", "truncate"]

/-- The offset or the size that a primitive is given for a file. -/
def place? : Primitive → Option UInt64
  | pread _ place | pwrite _ _ place | seek _ place | truncate _ place => some place
  | _ => none

/-- Whether the operating system can represent the offset or the size of a primitive. -/
def isInRange (p : Primitive) : Bool := p.place?.all (·.toNat ≤ maxOffset)

/-- Whether a primitive is handed to an active adapter. -/
def isSubmitted (p : Primitive) : Bool := gatedNames.contains p.name && p.isInRange

end Primitive

/-- The offset or the size in a request. -/
def Request.place? : Request → Option Nat
  | pread _ _ place | pwrite _ _ place | seek _ place | truncate _ place => some place
  | _ => none

namespace Primitive

variable {p : Primitive} {a : UInt64} {buffers : List (List UInt8)}

theorem label_operation? (p : Primitive) :
    p.operation?.map Operation.label =
      if gatedNames.contains p.name then some p.name else none := by
  cases p <;> rfl

theorem withOffset_of_le (h : a.toNat ≤ maxOffset) (f : Nat → Request) :
    withOffset a f = .ok (f a.toNat) := by
  rw [withOffset, offset?, if_pos h]

theorem withOffset_of_lt (h : maxOffset < a.toNat) (f : Nat → Request) :
    withOffset a f = .error (outOfRange a) := by
  rw [withOffset, offset?, if_neg (Nat.not_le.mpr h)]

theorem isSubmitted_eq (p : Primitive) : p.isSubmitted = (p.operation?.isSome && p.isInRange) := by
  cases p <;> rfl

/-- What is not in range is an offset or a size that is too great. -/
theorem exists_of_not_inRange (hp : ¬ p.isInRange = true) :
    ∃ a, p.place? = some a ∧ maxOffset < a.toNat := by
  unfold isInRange at hp
  cases hplace : p.place? with
  | none => exact absurd (by rw [hplace]; rfl) hp
  | some a =>
    rw [hplace] at hp
    exact ⟨a, rfl, Nat.not_le.mp fun hle => hp (decide_eq_true hle)⟩

theorem request_of_outOfRange (hp : p.place? = some a) (ha : maxOffset < a.toNat) :
    p.request buffers = .error (outOfRange a) := by
  cases p with
  | pread fd offset | pwrite fd data offset | seek fd offset | truncate fd offset =>
    obtain rfl := Option.some.inj hp
    exact withOffset_of_lt ha _
  | _ => exact absurd hp (by simp [place?])

theorem request_of_inRange (buffers : List (List UInt8)) (hp : p.place? = some a)
    (ha : a.toNat ≤ maxOffset) :
    ∃ r, p.request buffers = .ok r ∧ r.place? = some a.toNat := by
  cases p with
  | pread fd offset | pwrite fd data offset | seek fd offset | truncate fd offset =>
    obtain rfl := Option.some.inj hp
    exact ⟨_, withOffset_of_le ha _, rfl⟩
  | _ => exact absurd hp (by simp [place?])

/-- A primitive that passes the gate makes a request if it is in range. -/
theorem exists_request (buffers : List (List UInt8)) (ho : p.operation?.isSome = true)
    (hp : p.isInRange = true) :
    ∃ r, p.request buffers = .ok r := by
  cases hplace : p.place? with
  | some a =>
    rw [isInRange, hplace] at hp
    obtain ⟨r, hr, -⟩ := request_of_inRange buffers hplace (of_decide_eq_true hp)
    exact ⟨r, hr⟩
  | none =>
    cases p with
    | read fd | readv fd | write fd data | writev fd data | force fd metadata => exact ⟨_, rfl⟩
    | pread fd offset | pwrite fd data offset | truncate fd offset =>
      exact absurd hplace (by simp [place?])
    | _ => exact absurd ho (by simp [operation?])

/-- **An adapter gets a primitive under its name** if the primitive passes the gate and is in range,
and otherwise it gets nothing. -/
theorem label_submits (p : Primitive) (buffers : List (List UInt8)) :
    (p.submits buffers).map Operation.label = if p.isSubmitted then some p.name else none := by
  have hlabel := p.label_operation?
  by_cases hrange : p.isInRange = true
  · cases ho : p.operation? with
    | none =>
      have hnone : p.submits buffers = none := by
        unfold submits
        split
        · rfl
        · exact ho
      rw [hnone, isSubmitted, hrange, Bool.and_true, ← hlabel, ho]
    | some o =>
      obtain ⟨r, hr⟩ := exists_request buffers (by rw [ho]; rfl) hrange
      have hsome : p.submits buffers = p.operation? := by rw [submits, hr]
      rw [hsome, isSubmitted, hrange, Bool.and_true, hlabel]
  · obtain ⟨a, hplace, ha⟩ := exists_of_not_inRange hrange
    rw [submits, request_of_outOfRange hplace ha, isSubmitted, Bool.eq_false_iff.mpr hrange,
      Bool.and_false]
    rfl

section Performed

variable {σ : Type} {K : Kernel σ}

/-- The requests of a primitive are copies of its one request.  There is at least one, unless the
primitive passes the gate and an adapter does not call its work. -/
theorem requests_performOn {log : σ → List Request} (h : K.Notes log) {r : Request}
    (patience : σ → Nat) (hr : p.request buffers = .ok r) (m : Metrics) (active : Option Conduct)
    (s : σ) :
    ∃ n, log (p.performOn K patience buffers m active s).state = List.replicate n r ++ log s ∧
      (p.operation? = none ∨ Gate.Runs active → 0 < n) := by
  obtain ⟨k, hk⟩ := h.submitOn p (patience s) r s
  unfold performOn
  rw [hr]
  cases ho : p.operation? with
  | none => exact ⟨k + 1, hk, fun _ => Nat.succ_pos k⟩
  | some o =>
    have hcall (place : Place) : p.asCallOn K patience r place s =
      (.returned (p.answer (p.submitOn K (patience s) r s).1),
        (p.submitOn K (patience s) r s).2) := rfl
    simp only [Option.isSome_some, if_true]
    rw [Gate.dispatch_eq_of_result m active hcall]
    by_cases hruns : Gate.Runs active
    · rw [Gate.left_of_runs hruns]
      exact ⟨k + 1, hk, fun _ => Nat.succ_pos k⟩
    · rw [Gate.left_of_not_runs hruns]
      exact ⟨0, rfl, fun h => absurd h (by simp [hruns])⟩

theorem requests_perform {r : Request} (m : Metrics) (active : Option Conduct) (st : FileState)
    (hr : p.request st.buffers = .ok r) :
    ∃ n, (p.perform m active st).state.system.requests =
        List.replicate n r ++ st.system.requests ∧
      (p.operation? = none ∨ Gate.Runs active → 0 < n) := by
  rw [perform_eq_performOn]
  exact requests_performOn FileState.notes_kernel _ hr m active st

theorem performOn_of_outOfRange (hp : p.place? = some a) (ha : maxOffset < a.toNat)
    (patience : σ → Nat) (m : Metrics) (active : Option Conduct) (s : σ) :
    p.performOn K patience buffers m active s = ⟨.returned (.error (outOfRange a)), m, s⟩ := by
  rw [performOn, request_of_outOfRange hp ha]

end Performed

/-- A primitive that an adapter would get is one operation to the gate, and any other is none. -/
theorem metrics_perform (p : Primitive) (m : Metrics) (active : Option Conduct) (st : FileState) :
    if p.isSubmitted then Gate.OneMore m (p.perform m active st).metrics (Gate.pathOf active)
    else (p.perform m active st).metrics = m := by
  rw [isSubmitted_eq]
  by_cases hrange : p.isInRange = true
  · cases hr : p.request st.buffers with
    | ok r =>
      rw [hrange, Bool.and_true, perform_eq_performOn]
      exact metrics_performOn hr m active
    | error why =>
      have hnone : p.operation?.isSome = false :=
        Bool.eq_false_iff.mpr fun ho => by
          obtain ⟨r, hr'⟩ := exists_request st.buffers ho hrange
          exact absurd (hr.symm.trans hr') (by simp)
      rw [hnone, perform, hr]
      rfl
  · obtain ⟨a, hplace, ha⟩ := exists_of_not_inRange hrange
    rw [Bool.eq_false_iff.mpr hrange, Bool.and_false, perform, request_of_outOfRange hplace ha]
    rfl

end Primitive

/-! ## Sessions -/

namespace Session

/-- The primitive that a command performs in a session. -/
def performed? {ω : Type} (s : Session) : Command ω → Option Primitive
  | .file key _ primitive => (s.descriptor? key).map primitive
  | .close key => (s.descriptor? key).map .close
  | .interrupted key writer _ _ primitive =>
    (s.descriptor? key).bind fun fd => (s.files.get? writer).map fun _ => primitive fd
  | _ => none

/-- The state after commands. -/
def after {ω : Type} (s : Session) : List (Surroundings × Command ω) → Session
  | [] => s
  | (around, c) :: rest => (s.run around c).1.after rest

/-- The primitives that commands perform, in order. -/
def performed {ω : Type} (s : Session) : List (Surroundings × Command ω) → List Primitive
  | [] => []
  | (around, c) :: rest => (s.performed? c).toList ++ (s.run around c).1.performed rest

/-- A command leaves an adapter lent and active, and hands it no operation that is no primitive.  It
may have the adapter follow another conduct. -/
def Command.Spares {ω : Type} (key : String) : Command ω → Prop
  | install _ _ _ | installBlocking _ _ | uninstall | dispatch _ _ => False
  | reinstall key' => key' = key
  | script key' active _ => key' = key → active = true
  | _ => True

/-- An adapter is lent to the gate in use and active, and was given these operations, the last
first.  What it does with them is up to it. -/
structure Lent (s : Session) (key : String) (given : List Operation) : Prop where
  installed : s.installed = some (.named key)
  adapter : ∃ conduct, s.adapters.get? key = some (.scripted true conduct given)

variable {ω : Type} {s s' : Session} {key : String} {given : List Operation}
  {around : Surroundings}

/-- **A primitive that is out of range leaves a session as it was**, with its adapters, counters,
files and requests, and the caller learns why. -/
theorem perform_of_outOfRange {p : Primitive} {a : UInt64} (hp : p.place? = some a)
    (ha : maxOffset < a.toNat) (buffers : List (List UInt8)) :
    s.perform around buffers p =
      (s, (.performed (.returned (.error (Primitive.outOfRange a))) buffers : Answer ω)) := by
  have hrequest : p.request buffers = .error (Primitive.outOfRange a) :=
    Primitive.request_of_outOfRange hp ha
  have hsubmits : p.submits buffers = none := by rw [Primitive.submits, hrequest]
  have hperform (m : Metrics) (active : Option Conduct) : p.perform m active ⟨s.system, buffers⟩ =
      ⟨.returned (.error (Primitive.outOfRange a)), m, ⟨s.system, buffers⟩⟩ := by
    rw [Primitive.perform_eq_performOn]
    exact Primitive.performOn_of_outOfRange hp ha _ m active _
  simp only [perform, hsubmits, hperform]

/-- Whether an adapter is lent depends on the gate and the adapters alone. -/
theorem Lent.of_eq (h : s.Lent key given) (hinstalled : s'.installed = s.installed)
    (hadapters : s'.adapters = s.adapters) : s'.Lent key given :=
  ⟨hinstalled.trans h.installed, hadapters ▸ h.adapter⟩

/-- The adapter that is lent is the active one. -/
theorem Lent.active? (h : s.Lent key given) (around : Surroundings) :
    ∃ conduct, s.active? around = some (.scripted true conduct given) := by
  obtain ⟨conduct, hadapter⟩ := h.adapter
  refine ⟨conduct, ?_⟩
  rw [Session.active?, adapter?, h.installed, Option.bind_some, lookUp, hadapter]
  rfl

theorem Lent.withAdapter_of_ne (h : s.Lent key given) {key' : String} (hne : key' ≠ key)
    (a : Adapter) : (s.withAdapter key' a).Lent key given := by
  obtain ⟨conduct, hadapter⟩ := h.adapter
  refine ⟨h.installed, conduct, ?_⟩
  have hkey : compare key key' ≠ .eq := fun he => hne (Std.LawfulEqCmp.eq_of_compare he).symm
  rw [withAdapter, Table.get?_insert, if_neg hkey, hadapter]

theorem Lent.withAdapter_self (h : s.Lent key given) (conduct : Conduct)
    (given' : List Operation) :
    (s.withAdapter key (.scripted true conduct given')).Lent key given' := by
  exact ⟨h.installed, conduct, Table.get?_insert_self ..⟩

theorem Lent.withInstalled_self (h : s.Lent key given) :
    (s.withInstalled (some (.named key))).Lent key given := by
  have hadapter := h.adapter
  unfold withInstalled
  split
  · next hgate => exact ⟨if_pos hgate, hadapter⟩
  · next hgate => exact ⟨if_neg hgate, hadapter⟩

theorem Lent.submitting (h : s.Lent key given) (around : Surroundings) (o : Operation) :
    (s.submitting around o).Lent key (o :: given) := by
  obtain ⟨conduct, hactive⟩ := h.active? around
  rw [Session.submitting, h.installed, hactive]
  exact h.withAdapter_self conduct _

/-- **A primitive is given to the adapter** that is lent, under its name, if it passes the gate and
is in range. -/
theorem Lent.perform (h : s.Lent key given) (around : Surroundings) (buffers : List (List UInt8))
    (p : Primitive) : ∃ new : List Operation,
      new.map Operation.label = ([p].filter Primitive.isSubmitted).map Primitive.name ∧
      (s.perform around buffers p : Session × Answer ω).1.Lent key (new.reverse ++ given) := by
  have hlabel := p.label_submits buffers
  unfold Session.perform
  cases hsubmits : p.submits buffers with
  | none =>
    refine ⟨[], ?_, h.of_eq rfl rfl⟩
    rw [hsubmits] at hlabel
    split at hlabel
    · exact absurd hlabel (by simp)
    · next hp => simp [hp]
  | some o =>
    refine ⟨[o], ?_, (h.submitting around o).of_eq rfl rfl⟩
    rw [hsubmits] at hlabel
    split at hlabel
    · next hp => simpa [hp] using hlabel
    · exact absurd hlabel (by simp)

theorem Lent.setUp (h : s.Lent key given) {settings : Settings} {process : Process AdapterRef}
    (hprocess : s.process.setUp settings Table.empty .standard = .ok process) :
    { s with process := process : Session }.Lent key given := by
  refine ⟨?_, h.adapter⟩
  have hinstalled := h.installed
  unfold Session.installed at hinstalled ⊢
  dsimp only
  split at hinstalled
  · next hgate =>
    rw [if_pos hgate]
    unfold Process.setUp at hprocess
    cases hfilter : settings.filter Table.empty with
    | error why => exact absurd (hfilter ▸ hprocess) (by simp [Except.map])
    | ok filter =>
      rw [hfilter] at hprocess
      obtain rfl := Except.ok.inj hprocess
      split <;> simp [Process.lend, Process.startLogging, hinstalled]
  · next hgate =>
    rw [if_neg hgate]
    exact hinstalled

/-- **What a command gives to an adapter that is lent**: the primitive that the command performs. -/
theorem Lent.run (h : s.Lent key given) {c : Command ω} (hc : c.Spares key)
    (around : Surroundings) : ∃ new : List Operation,
      new.map Operation.label =
        ((s.performed? c).toList.filter Primitive.isSubmitted).map Primitive.name ∧
      (s.run around c).1.Lent key (new.reverse ++ given) := by
  have hnothing {s' : Session} (hs' : s'.Lent key given) : ∃ new : List Operation,
      new.map Operation.label = ([].filter Primitive.isSubmitted).map Primitive.name ∧
        s'.Lent key (new.reverse ++ given) := ⟨[], rfl, hs'⟩
  cases c with
  | install key' active conduct | installBlocking key' enabled | uninstall
  | dispatch operation ending => exact hc.elim
  | reinstall key' =>
    obtain rfl : key' = key := hc
    refine hnothing ?_
    simp only [Session.run]
    split
    · exact h.withInstalled_self
    · exact h
  | script key' active conduct =>
    refine hnothing ?_
    simp only [Session.run]
    split
    · next _ submitted hadapter =>
      by_cases hkey : key' = key
      · subst hkey
        obtain ⟨conduct', hadapter'⟩ := h.adapter
        obtain ⟨-, -, rfl⟩ : _ ∧ _ ∧ submitted = given := by
          simpa using hadapter.symm.trans hadapter'
        rw [hc rfl]
        exact h.withAdapter_self conduct _
      · exact h.withAdapter_of_ne hkey _
    · exact h
  | submitted key' => exact hnothing (by simp only [Session.run]; split <;> exact h)
  | enable key' enabled =>
    refine hnothing ?_
    simp only [Session.run]
    split
    · next was hadapter =>
      refine h.withAdapter_of_ne ?_ _
      rintro rfl
      obtain ⟨conduct, hadapter'⟩ := h.adapter
      exact absurd (hadapter.symm.trans hadapter') (by simp)
    · exact h
  | setUp settings =>
    refine hnothing ?_
    simp only [Session.run]
    split
    · next process hprocess => exact h.setUp hprocess
    · exact h
  | file key' buffers primitive =>
    simp only [Session.run, performed?]
    cases s.descriptor? key' with
    | none => exact hnothing h
    | some fd => exact h.perform around buffers (primitive fd)
  | close key' =>
    simp only [Session.run, performed?]
    cases s.descriptor? key' with
    | none => exact hnothing h
    | some fd =>
      obtain ⟨new, hnew, hlent⟩ := h.perform (ω := ω) around [] (.close fd)
      exact ⟨new, hnew, hlent.of_eq rfl rfl⟩
  | interrupted key' writer data buffers primitive =>
    simp only [Session.run, performed?]
    cases s.descriptor? key' with
    | none => exact hnothing h
    | some fd =>
      cases s.files.get? writer with
      | none => exact hnothing h
      | some w =>
        let written := (s.system.issue (.write w data)).2
        let disturbed : System := { written with faults := interruptions }
        have hs : { s with system := disturbed : Session }.Lent key given := h.of_eq rfl rfl
        obtain ⟨new, hnew, hlent⟩ := hs.perform (ω := ω) around buffers (primitive fd)
        exact ⟨new, hnew, hlent.of_eq rfl rfl⟩
  | reopen key' source mode =>
    refine hnothing ?_
    simp only [Session.run]
    split <;> exact h.of_eq rfl rfl
  | duplicate key' source =>
    refine hnothing ?_
    simp only [Session.run]
    split <;> exact h.of_eq rfl rfl
  | contents key' => exact hnothing (by simp only [Session.run]; split <;> exact h)
  | strangerLock key' shared start length =>
    refine hnothing ?_
    simp only [Session.run]
    split
    · exact h
    · exact h
    · split <;> exact h.of_eq rfl rfl
  | probe key' shared start length =>
    refine hnothing ?_
    simp only [Session.run]
    split
    · exact h
    · exact h
    · split <;> exact h
  | _ => exact hnothing (h.of_eq rfl rfl)

/-- What commands give to an adapter that is lent. -/
theorem Lent.after (h : s.Lent key given) {cs : List (Surroundings × Command ω)}
    (hcs : ∀ c ∈ cs, c.2.Spares key) : ∃ new : List Operation,
      new.map Operation.label =
        ((s.performed cs).filter Primitive.isSubmitted).map Primitive.name ∧
      (s.after cs).Lent key (new.reverse ++ given) := by
  induction cs generalizing s given with
  | nil => exact ⟨[], rfl, h⟩
  | cons c cs ih =>
    obtain ⟨around, c⟩ := c
    obtain ⟨new, hnew, hlent⟩ := h.run (hcs _ (List.mem_cons_self ..)) around
    obtain ⟨rest, hrest, hlent'⟩ := ih hlent fun c hc => hcs c (List.mem_cons_of_mem _ hc)
    refine ⟨new ++ rest, ?_, ?_⟩
    · rw [List.map_append, hnew, hrest, performed, List.filter_append, List.map_append]
    · rw [List.reverse_append, List.append_assoc]
      exact hlent'

/-- **Adapters are given exactly the primitives that pass the gate and are in range.**

Take a session whose gate has an active adapter, and any commands that leave it there: primitives,
commands that open and close files, and commands that have the adapter do other things with the work
that it gets.  What the adapter was given since is one entry for each primitive that passes the gate
and is in range, under its name and in order, and each of them is one operation on the adapter's
path to the counters of the gate.

In every session, with or without an adapter, a primitive whose offset or size is out of range fails
as an invalid input and leaves everything as it was, and any other offset or size is what the
operating system is asked for.  Neither has to do with what the operating system answers: on any
other one, whose requests are noted, it is the same. -/
theorem submissions_eq (h : s.Lent key given) {cs : List (Surroundings × Command ω)}
    (hcs : ∀ c ∈ cs, c.2.Spares key) :
    (∃ new : List Operation,
      new.map Operation.label =
        ((s.performed cs).filter Primitive.isSubmitted).map Primitive.name ∧
      ∀ around, ((s.after cs).run around (.submitted key : Command ω)).2 =
        .operations (given.reverse ++ new)) ∧
    (∀ around buffers p,
      if p.isSubmitted then
        Gate.OneMore s.metrics (s.perform around buffers p : Session × Answer ω).1.metrics
          .offloaded
      else (s.perform around buffers p : Session × Answer ω).1.metrics = s.metrics) ∧
    (∀ (t : Session) around buffers (p : Primitive) a, p.place? = some a → maxOffset < a.toNat →
      (Primitive.outOfRange a).kind = .invalidInput ∧
      t.perform around buffers p =
        (t, (.performed (.returned (.error (Primitive.outOfRange a))) buffers : Answer ω))) ∧
    (∀ (p : Primitive) a, p.place? = some a → a.toNat ≤ maxOffset → ∀ m active st,
      ∃ r n, p.request st.buffers = .ok r ∧ r.place? = some a.toNat ∧
        (p.perform m active st).state.system.requests =
          List.replicate n r ++ st.system.requests ∧
        (p.operation? = none ∨ Gate.Runs active → 0 < n)) ∧
    ∀ {σ : Type} (K : Kernel σ) (patience : List Request × σ → Nat) (p : Primitive) a,
      p.place? = some a → ∀ m active buffers log t,
        let d := p.performOn K.noted patience buffers m active (log, t)
        (maxOffset < a.toNat →
          d = ⟨.returned (.error (Primitive.outOfRange a)), m, log, t⟩) ∧
        (a.toNat ≤ maxOffset → ∃ r n, p.request buffers = .ok r ∧ r.place? = some a.toNat ∧
          d.state.1 = List.replicate n r ++ log ∧
          (p.operation? = none ∨ Gate.Runs active → 0 < n)) := by
  refine ⟨?_, fun around buffers p => ?_, fun t around buffers p a hp ha => ?_,
    fun p a hp ha m active st => ?_, fun K patience p a hp m active buffers log t =>
      ⟨fun ha => ?_, fun ha => ?_⟩⟩
  · obtain ⟨new, hnew, hlent⟩ := h.after hcs
    obtain ⟨conduct, hadapter⟩ := hlent.adapter
    refine ⟨new, hnew, fun around => ?_⟩
    simp [run, hadapter]
  · obtain ⟨conduct, hactive⟩ := h.active? around
    have hmetrics := p.metrics_perform s.metrics (some conduct) ⟨s.system, buffers⟩
    simpa [perform, hactive, Adapter.conduct, Gate.pathOf] using hmetrics
  · exact ⟨rfl, perform_of_outOfRange hp ha buffers⟩
  · obtain ⟨r, hr, hplace⟩ := Primitive.request_of_inRange st.buffers hp ha
    obtain ⟨n, hrequests, hpos⟩ := Primitive.requests_perform m active st hr
    exact ⟨r, n, hr, hplace, hrequests, hpos⟩
  · exact Primitive.performOn_of_outOfRange hp ha patience m active _
  · obtain ⟨r, hr, hplace⟩ := Primitive.request_of_inRange buffers hp ha
    obtain ⟨n, hrequests, hpos⟩ :=
      Primitive.requests_performOn K.notes_noted patience hr m active (log, t)
    exact ⟨r, n, hr, hplace, hrequests, hpos⟩

/-- A session with an adapter that fails whatever becomes of the work. -/
def lentToFailing : Session :=
  ((start false).run .plain
    (.install "a" true (.runThenFail (.os .brokenPipe)) : Command Unit)).1

/-- Primitives on both sides of the greatest offset, with and without the gate, while the adapter
comes to do nothing at all. -/
def aroundTheGreatestOffset : List (Surroundings × Command Unit) :=
  [(.plain, .openFile "f" [1, 2, 3]), (.plain, .file "f" [[0, 0]] (.pread · 1)),
   (.plain, .file "f" [] (.pwrite · [7] 9223372036854775808)),
   (.plain, .file "f" [] (.seek · 9223372036854775807)), (.plain, .script "a" true .skip),
   (.plain, .file "f" [] (.writev · [[8], [9]])), (.plain, .file "f" [] .size),
   (.plain, .file "f" [] (.truncate · 9223372036854775807)), (.plain, .close "f")]

/-- The adapter is given three of the seven primitives; a write one byte too far leaves the session
as it was. -/
theorem submissions_eq_aroundTheGreatestOffset :
    lentToFailing.Lent "a" [] ∧ (∀ c ∈ aroundTheGreatestOffset, c.2.Spares "a") ∧
      (lentToFailing.performed aroundTheGreatestOffset).length = 7 ∧
      (∃ new : List Operation, new.map Operation.label = ["pread", "writev", "truncate"] ∧
        ((lentToFailing.after aroundTheGreatestOffset).run .plain
          (.submitted "a" : Command Unit)).2 = .operations new) ∧
      lentToFailing.perform .plain [[5]] (.pwrite 1 [7] 9223372036854775808) =
        (lentToFailing, (.performed (.returned (.error
          (Primitive.outOfRange 9223372036854775808))) [[5]] : Answer Unit)) := by
  have hlent : lentToFailing.Lent "a" [] := ⟨rfl, _, rfl⟩
  have hspares : ∀ c ∈ aroundTheGreatestOffset, c.2.Spares "a" := by
    simp [aroundTheGreatestOffset, Command.Spares]
  obtain ⟨⟨new, hnew, hanswer⟩, -, hrange, -, -⟩ := submissions_eq hlent hspares
  refine ⟨hlent, hspares, rfl, ⟨new, hnew, hanswer .plain⟩, ?_⟩
  exact (hrange lentToFailing .plain [[5]] (.pwrite 1 [7] 9223372036854775808) _ rfl
    (by decide)).2

end Session

end ResourceContainers
