import ResourceContainers.Startup

/-!
# Several threads at the adapter of one gate

`Process.setUp` lends a gate an adapter unless it has one.  That is a look at the gate and then,
if it has none, a change of the gate, and while a thread is between the two every other thread may
lend an adapter, take one back, or set the process up as well.

* `Lending`: a process, and the calls that set it up.
* `Lending.Step`, `Lending.Run`: steps of any threads in any order, each at most one access to the
  gate.
* `Lending.held`: the adapter of the gate, read off what could be seen of the steps.
* `Lending.run_setUp`: a call that nobody interferes with does what `Process.setUp` does.
* `Lending.lent_replaced`: the main statement.

## What the look is worth

A call puts its adapter into the gate without looking again.  So all that its look settles is that
the gate was empty once, and whatever was lent to it since then is what the call takes away.
-/

namespace ResourceContainers

/-- How far a call has come that sets the process up with an adapter.  The process logs, and the
call has not looked at the gate yet; or it has found the gate without an adapter. -/
inductive Lending.Stage (κ : Type)
  | started (adapter : κ)
  | cleared (adapter : κ)
  | over

/-- A process, and the calls that set it up, in the order in which they were made.  Whoever else
uses the gate needs no state. -/
structure Lending (κ : Type) where
  process : Process κ
  calls : List (Lending.Stage κ)

namespace Lending

variable {κ : Type}

/-- What can be seen of a step.  A call goes by its place among all calls. -/
inductive Event (κ : Type)
  | failed (call : Nat) (why : SettingsError)
  | started (call : Nat)
  | looked (call : Nat) (found : Option κ)
  | lent (call : Nat) (adapter : κ) (replaced : Option κ)
  | installed (adapter : κ) (replaced : Option κ)
  | uninstalled (removed : Option κ)

namespace Event

/-- The call that an event is a step of. -/
def call? : Event κ → Option Nat
  | failed i _ | started i | looked i _ | lent i _ _ => some i
  | installed _ _ | uninstalled _ => none

/-- What an event leaves in the gate, if it changes the gate. -/
def leaves? : Event κ → Option (Option κ)
  | lent _ a _ | installed a _ => some (some a)
  | uninstalled _ => some none
  | failed _ _ | started _ | looked _ _ => none

end Event

/-- One step of some thread.  Somebody tries to set the process up: there is no filter to log by, or
the call goes on and looks at the gate, unless no adapter is wanted.  A call that has found no
adapter puts its own into the gate.  Anybody may lend the gate an adapter or take it back at any
time. -/
inductive Step (w : Lending κ) : Event κ → Lending κ → Prop
  | failed {s : Settings} {env : Environment} {why : SettingsError}
      (h : s.filter env = .error why) :
      Step w (.failed w.calls.length why) ⟨w.process, w.calls ++ [.over]⟩
  | started {s : Settings} {env : Environment} {filter : String} (h : s.filter env = .ok filter)
      (a : κ) :
      Step w (.started w.calls.length)
        ⟨w.process.startLogging filter, w.calls ++ [if s.offload then .started a else .over]⟩
  | found {i : Nat} {a x : κ} (h : w.calls[i]? = some (.started a))
      (hx : w.process.adapter = some x) :
      Step w (.looked i (some x)) ⟨w.process, w.calls.set i .over⟩
  | cleared {i : Nat} {a : κ} (h : w.calls[i]? = some (.started a))
      (hnone : w.process.adapter = none) :
      Step w (.looked i none) ⟨w.process, w.calls.set i (.cleared a)⟩
  | lent {i : Nat} {a : κ} (h : w.calls[i]? = some (.cleared a)) :
      Step w (.lent i a w.process.adapter)
        ⟨{ w.process with adapter := some a }, w.calls.set i .over⟩
  | installed (a : κ) :
      Step w (.installed a w.process.adapter) ⟨{ w.process with adapter := some a }, w.calls⟩
  | uninstalled :
      Step w (.uninstalled w.process.adapter) ⟨{ w.process with adapter := none }, w.calls⟩

/-- `Run w es w'`: steps that were seen as `es`, the newest first, lead from `w` to `w'`. -/
inductive Run (w : Lending κ) : List (Event κ) → Lending κ → Prop
  | nil : Run w [] w
  | cons {es : List (Event κ)} {v v' : Lending κ} {e : Event κ} (h : Run w es v)
      (hs : v.Step e v') : Run w (e :: es) v'

/-- The adapter of a gate after some events, the newest first. -/
def held (before : Option κ) : List (Event κ) → Option κ
  | [] => before
  | e :: es => e.leaves?.getD (held before es)

/-- What a gate holds that was empty was put there. -/
theorem exists_of_held {es : List (Event κ)} {x : κ} (h : held none es = some x) :
    ∃ e ∈ es, e.leaves? = some (some x) := by
  induction es with
  | nil => exact absurd h (by simp [held])
  | cons e es ih =>
    cases he : e.leaves? with
    | some left =>
      rw [held, he] at h
      obtain rfl : left = some x := h
      exact ⟨e, List.mem_cons_self .., he⟩
    | none =>
      rw [held, he] at h
      obtain ⟨e', he', hx⟩ := ih h
      exact ⟨e', List.mem_cons_of_mem e he', hx⟩

theorem held_append (before : Option κ) (es es' : List (Event κ)) :
    held before (es ++ es') = held (held before es') es := by
  induction es with
  | nil => rfl
  | cons e es ih => rw [List.cons_append, held, held, ih]

/-! ## Steps -/

section Steps

variable {w w' : Lending κ} {e : Event κ} {i : Nat} {a : κ}

theorem Step.adapter_eq (h : w.Step e w') :
    w'.process.adapter = e.leaves?.getD w.process.adapter := by
  cases h <;> rfl

/-- A call that lends an adapter was about to, and takes away what is in the gate. -/
theorem Step.of_lent {replaced : Option κ} (h : w.Step (.lent i a replaced) w') :
    w.calls[i]? = some (.cleared a) ∧ replaced = w.process.adapter := by
  cases h with
  | lent h => exact ⟨h, rfl⟩

/-- A call that is new and not about to lend is none of those that are. -/
theorem getElem?_of_append {calls : List (Stage κ)} {c : Stage κ} (hc : c ≠ .cleared a)
    (h : (calls ++ [c])[i]? = some (.cleared a)) :
    calls[i]? = some (.cleared a) ∧ i ≠ calls.length := by
  obtain hlt | rfl | hlt := Nat.lt_trichotomy i calls.length
  · rw [List.getElem?_append_left hlt] at h
    exact ⟨h, Nat.ne_of_lt hlt⟩
  · rw [List.getElem?_concat_length] at h
    exact absurd (Option.some.inj h) hc
  · rw [List.getElem?_eq_none (by rw [List.length_append, List.length_singleton]; omega)] at h
    exact absurd h (by simp)

theorem getElem?_of_set {calls : List (Stage κ)} {c : Stage κ} {j : Nat} (hc : c ≠ .cleared a)
    (h : (calls.set j c)[i]? = some (.cleared a)) :
    calls[i]? = some (.cleared a) ∧ i ≠ j := by
  rw [List.getElem?_set] at h
  split at h
  · split at h
    · exact absurd (Option.some.inj h) hc
    · exact absurd h (by simp)
  · next hne => exact ⟨h, Ne.symm hne⟩

/-- A call that is about to lend an adapter has just found the gate without one, or was about to
lend before, and then the step is not one of its own. -/
theorem Step.of_cleared (h : w.Step e w') (hi : w'.calls[i]? = some (.cleared a)) :
    e = .looked i none ∧ w.process.adapter = none ∨
      w.calls[i]? = some (.cleared a) ∧ e.call? ≠ some i := by
  have hother {j : Nat} (hcall : w.calls[i]? = some (.cleared a) ∧ i ≠ j) :
      w.calls[i]? = some (.cleared a) ∧ some j ≠ some i :=
    ⟨hcall.1, fun h => hcall.2 (Option.some.inj h).symm⟩
  cases h with
  | failed hfilter => exact .inr (hother (getElem?_of_append (c := .over) nofun hi))
  | @started s env filter hfilter b =>
    have hnew : (if s.offload then Stage.started b else .over) ≠ .cleared a := by split <;> nofun
    exact .inr (hother (getElem?_of_append hnew hi))
  | found hcall hx => exact .inr (hother (getElem?_of_set (c := .over) nofun hi))
  | @cleared j b hcall hnone =>
    by_cases hij : i = j
    · exact .inl ⟨by rw [hij], hnone⟩
    · have hi : (w.calls.set j (.cleared b))[i]? = some (.cleared a) := hi
      rw [List.getElem?_set_ne (Ne.symm hij)] at hi
      exact .inr (hother ⟨hi, hij⟩)
  | lent hcall => exact .inr (hother (getElem?_of_set (c := .over) nofun hi))
  | installed b => exact .inr ⟨hi, nofun⟩
  | uninstalled => exact .inr ⟨hi, nofun⟩

end Steps

/-! ## Runs -/

namespace Run

variable {w w' : Lending κ} {es : List (Event κ)} {i : Nat} {a : κ}

theorem adapter_eq (h : Run w es w') : w'.process.adapter = held w.process.adapter es := by
  induction h with
  | nil => rfl
  | cons h hs ih => rw [hs.adapter_eq, ih, held]

/-- Before every event there is a run, and the event is a step from there. -/
theorem exists_step {later earlier : List (Event κ)} {e : Event κ}
    (h : Run w (later ++ e :: earlier) w') : ∃ v v', Run w earlier v ∧ v.Step e v' := by
  induction later generalizing w' with
  | nil =>
    cases h with
    | cons h hs => exact ⟨_, _, h, hs⟩
  | cons e' later ih =>
    cases h with
    | cons h hs => exact ih h

/-- **A call that is about to lend has found the gate without an adapter**, and has taken no step
since. -/
theorem exists_look (h : Run w es w') (hw : w.calls = [])
    (hi : w'.calls[i]? = some (.cleared a)) : ∃ between before,
      es = between ++ .looked i none :: before ∧ (∀ e ∈ between, e.call? ≠ some i) ∧
        held w.process.adapter before = none := by
  induction h with
  | nil => exact absurd hi (by simp [hw])
  | @cons es v v' e h hs ih =>
    -- The last step was the look itself, or the look is further back.
    obtain ⟨rfl, hnone⟩ | ⟨hcall, hne⟩ := hs.of_cleared hi
    · exact ⟨[], es, rfl, by simp, h.adapter_eq ▸ hnone⟩
    · obtain ⟨between, before, rfl, hbetween, hnone⟩ := ih hcall
      exact ⟨e :: between, before, rfl, List.forall_mem_cons.mpr ⟨hne, hbetween⟩, hnone⟩

end Run

theorem set_length_append {calls : List (Stage κ)} (c c' : Stage κ) :
    (calls ++ [c]).set calls.length c' = calls ++ [c'] := by
  simp

/-- **A call that nobody interferes with** does what `Process.setUp` does. -/
theorem run_setUp (w : Lending κ) (s : Settings) (env : Environment) (a : κ) :
    (∀ why, w.process.setUp s env a = .error why →
      w.Step (.failed w.calls.length why) ⟨w.process, w.calls ++ [.over]⟩) ∧
    ∀ p, w.process.setUp s env a = .ok p → ∃ es, Run w es ⟨p, w.calls ++ [.over]⟩ ∧
      ∀ e ∈ es, e.call? = some w.calls.length := by
  unfold Process.setUp
  cases hfilter : s.filter env with
  | error why =>
    refine ⟨?_, nofun⟩
    rintro _ ⟨⟩
    exact .failed hfilter
  | ok filter =>
    refine ⟨nofun, ?_⟩
    rintro p ⟨⟩
    have hstart := Step.started (w := w) hfilter a
    cases hoffload : s.offload with
    | false =>
      rw [hoffload] at hstart
      exact ⟨_, .cons .nil hstart, by simp [Event.call?]⟩
    | true =>
      rw [hoffload] at hstart
      let logging := w.process.startLogging filter
      have hcall : (w.calls ++ [Stage.started a])[w.calls.length]? = some (.started a) :=
        List.getElem?_concat_length ..
      cases hadapter : w.process.adapter with
      | some x =>
        have hlook : Step ⟨logging, w.calls ++ [.started a]⟩ _ _ := .found hcall hadapter
        rw [set_length_append] at hlook
        have hlend : logging.lend a = logging := by
          simp [Process.lend, logging, Process.startLogging, hadapter]
        exact ⟨_, hlend ▸ (Run.nil.cons hstart).cons hlook, by simp [Event.call?]⟩
      | none =>
        have hlook : Step ⟨logging, w.calls ++ [.started a]⟩ _ _ := .cleared hcall hadapter
        rw [set_length_append] at hlook
        have hcall' : (w.calls ++ [Stage.cleared a])[w.calls.length]? = some (.cleared a) :=
          List.getElem?_concat_length ..
        have hput : Step ⟨logging, w.calls ++ [.cleared a]⟩ _ _ := .lent hcall'
        rw [set_length_append] at hput
        have hlend : logging.lend a = { logging with adapter := some a } := by
          simp [Process.lend, logging, Process.startLogging, hadapter]
        exact ⟨_, hlend ▸ ((Run.nil.cons hstart).cons hlook).cons hput, by simp [Event.call?]⟩

/-- **A call takes away what was lent since it looked**, and nothing else.

Take any steps of any threads from a process that nobody is setting up: calls that set it up, each
with its own settings, and others that lend the gate adapters and take them back.  If a call puts
its adapter into the gate, it has found the gate empty, and has taken no step since.

* What it takes away is what the gate holds after the steps that others took in between.
* If nobody changed the gate in between, it takes nothing away.
* If it takes an adapter away, somebody else lent that adapter in between.

And a call that is not interrupted is `Process.setUp`. -/
theorem lent_replaced {p : Process κ} {es : List (Event κ)} {w : Lending κ}
    (h : Run ⟨p, []⟩ es w) :
    (∀ later earlier i a replaced, es = later ++ .lent i a replaced :: earlier →
      ∃ between before, earlier = between ++ .looked i none :: before ∧
        held p.adapter before = none ∧ (∀ e ∈ between, e.call? ≠ some i) ∧
        replaced = held none between ∧
        ((∀ e ∈ between, e.leaves? = none) → replaced = none) ∧
        ∀ x, replaced = some x → ∃ e ∈ between, e.leaves? = some (some x)) ∧
    ∀ (v : Lending κ) s env a,
      (∀ why, v.process.setUp s env a = .error why →
        v.Step (.failed v.calls.length why) ⟨v.process, v.calls ++ [.over]⟩) ∧
      ∀ p', v.process.setUp s env a = .ok p' → ∃ es', Run v es' ⟨p', v.calls ++ [.over]⟩ ∧
        ∀ e ∈ es', e.call? = some v.calls.length := by
  refine ⟨?_, run_setUp⟩
  rintro later earlier i a replaced rfl
  obtain ⟨v, v', hv, hstep⟩ := h.exists_step
  obtain ⟨hcleared, rfl⟩ := hstep.of_lent
  obtain ⟨between, before, rfl, hbetween, hnone⟩ := hv.exists_look rfl hcleared
  have hheld : v.process.adapter = held none between := by
    rw [hv.adapter_eq, held_append, held]
    exact congrArg (held · between) hnone
  refine ⟨between, before, rfl, hnone, hbetween, hheld, fun hkept => ?_, fun x hx => ?_⟩
  · rw [hheld]
    cases hlast : held none between with
    | none => rfl
    | some x =>
      obtain ⟨e, he, hx⟩ := exists_of_held hlast
      exact absurd ((hkept e he).symm.trans hx) (by simp)
  · exact exists_of_held (hheld ▸ hx)

/-- Two calls look at an empty gate before either of them lends its adapter, and the one that lends
last takes away what the other one lent. -/
theorem lent_replaced_twoCalls : ∃ w between before, Run ⟨(.bare : Process String), []⟩
      [.lent 0 "first" (some "second"), .lent 1 "second" none, .looked 1 none, .looked 0 none,
        .started 1, .started 0] w ∧
    [.lent 1 "second" none, .looked 1 none, .looked 0 none, .started 1, .started 0] =
      between ++ .looked 0 none :: before ∧
    (∀ e ∈ between, e.call? ≠ some 0) ∧ some "second" = held none between := by
  have hfilter : Settings.standard.filter Table.empty = .ok "info" := rfl
  have hrun : Run ⟨(.bare : Process String), []⟩
      [.lent 0 "first" (some "second"), .lent 1 "second" none, .looked 1 none, .looked 0 none,
        .started 1, .started 0] ⟨⟨some "info", some "first"⟩, [.over, .over]⟩ :=
    ((((((Run.nil.cons (.started hfilter "first")).cons (.started hfilter "second")).cons
      (.cleared (i := 0) rfl rfl)).cons (.cleared (i := 1) rfl rfl)).cons
      (.lent (i := 1) rfl)).cons (.lent (i := 0) rfl))
  obtain ⟨between, before, hearlier, -, hothers, hheld, -⟩ :=
    (lent_replaced hrun).1 [] _ 0 "first" (some "second") rfl
  exact ⟨_, between, before, hrun, hearlier, hothers, hheld⟩

/-- **A call takes away an adapter that another thread lent** after the call looked at the gate. -/
theorem lent_displaces : ∃ w, Run ⟨(.bare : Process String), []⟩
    [.lent 0 "standard" (some "own"), .installed "own" none, .looked 0 none, .started 0] w ∧
    w.process.adapter = some "standard" := by
  have hfilter : Settings.standard.filter Table.empty = .ok "info" := rfl
  have hlooked : Run ⟨(.bare : Process String), []⟩ [.looked 0 none, .started 0]
      ⟨⟨some "info", none⟩, [.cleared "standard"]⟩ :=
    (Run.nil.cons (.started hfilter "standard")).cons (.cleared (i := 0) rfl rfl)
  exact ⟨_, (hlooked.cons (.installed "own")).cons (.lent (i := 0) rfl), rfl⟩

end Lending

end ResourceContainers
