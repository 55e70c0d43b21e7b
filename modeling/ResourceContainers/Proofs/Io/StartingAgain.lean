import ResourceContainers.Startup

/-!
# Starting up again and again

A process may be set up by several of its parts, each with its own settings.  Whoever comes first
decides what is logged, and whoever asks first for an adapter lends it.

* `Settings.filterBy`: the filter to log by, if somebody else says which texts are filters.
* `Startup.call`: a call that sets a process up, with what it has done when it fails.
* `Startup.call_eq_setUp`: it is `Process.setUp`.
* `Startup.Calls`: one call after another.
* `Startup.settled_of_success`: what later calls leave as it is.

## What a call looks at

A call looks for a filter before it asks whether anybody logs already, and it looks at the gate
whether or not anybody was set up before.  So a call after the first one is no idle one by itself:
it still puts an adapter into a gate that has none, and what it makes of a text that is no filter
has nothing to do with the calls before it.
-/

namespace ResourceContainers

/-! ## Filters -/

namespace Settings

/-- The filter to log by, where `accepts` says which texts are filters. -/
def filterBy (accepts : String → Bool) (s : Settings) (env : Environment) :
    Except SettingsError String :=
  match (env.text? "RUST_LOG").filter accepts with
  | some filter => .ok filter
  | none => if accepts s.logFilter then .ok s.logFilter else .error (.notAFilter s.logFilter)

theorem filterBy_isFilter (s : Settings) (env : Environment) :
    s.filterBy LogFilter.isFilter env = s.filter env := rfl

/-- There is a filter to log by: the one of the environment, or that of the settings. -/
def Accepted (accepts : String → Bool) (s : Settings) (env : Environment) : Prop :=
  (∃ text, env.text? "RUST_LOG" = some text ∧ accepts text = true) ∨ accepts s.logFilter = true

theorem filterBy_of_accepted {accepts : String → Bool} {s : Settings} {env : Environment}
    (h : s.Accepted accepts env) : ∃ filter, s.filterBy accepts env = .ok filter := by
  rcases hfilter : (env.text? "RUST_LOG").filter accepts with _ | filter
  · rcases h with ⟨text, htext, haccepts⟩ | haccepts
    · exact absurd hfilter (by simp [htext, haccepts])
    · exact ⟨s.logFilter, by simp [filterBy, hfilter, haccepts]⟩
  · exact ⟨filter, by simp [filterBy, hfilter]⟩

end Settings

/-! ## Processes that are set up -/

namespace Process

variable {κ : Type} {p : Process κ}

theorem startLogging_of_logging (h : p.logging.isSome = true) (filter : String) :
    p.startLogging filter = p := by
  obtain ⟨logging, adapter⟩ := p
  obtain ⟨before, rfl⟩ := Option.isSome_iff_exists.mp h
  rfl

theorem lend_of_adapter (h : p.adapter.isSome = true) (a : κ) : p.lend a = p := by
  obtain ⟨logging, adapter⟩ := p
  obtain ⟨before, rfl⟩ := Option.isSome_iff_exists.mp h
  rfl

end Process

namespace Startup

variable {κ : Type}

/-- What a call that sets a process up is given, with the adapter for the case that one is
wanted. -/
structure Request (κ : Type) where
  settings : Settings
  env : Environment
  adapter : κ

/-- A call that sets a process up.  What it has done when it fails stays done. -/
def call (accepts : String → Bool) (r : Request κ) :
    ExceptT SettingsError (StateM (Process κ)) Unit := do
  let filter ← ExceptT.mk (pure (r.settings.filterBy accepts r.env))
  modify fun p => p.startLogging filter
  if r.settings.offload then
    let p ← get
    if p.adapter.isNone then
      set { p with adapter := some r.adapter }

/-- What a call answers, and the process after it. -/
def answer (accepts : String → Bool) (r : Request κ) (p : Process κ) :
    Except SettingsError Unit × Process κ :=
  ((call accepts r).run.run p).run

section Calls

variable {accepts : String → Bool} {r : Request κ} {p q q' : Process κ}
  {rs rs' : List (Request κ × Except SettingsError Unit)}

theorem answer_eq (accepts : String → Bool) (r : Request κ) (p : Process κ) :
    answer accepts r p =
      match r.settings.filterBy accepts r.env with
      | .error why => (.error why, p)
      | .ok filter =>
        (.ok (), if r.settings.offload then (p.startLogging filter).lend r.adapter
          else p.startLogging filter) := by
  obtain ⟨logging, adapter⟩ := p
  rw [answer, call]
  cases r.settings.filterBy accepts r.env with
  | error why => rfl
  | ok filter =>
    cases r.settings.offload with
    | false => rfl
    | true => cases adapter <;> rfl

/-- **A call is `Process.setUp`**: a call that fails has done nothing. -/
theorem answer_eq_setUp (r : Request κ) (p : Process κ) :
    answer LogFilter.isFilter r p =
      match p.setUp r.settings r.env r.adapter with
      | .error why => (.error why, p)
      | .ok q => (.ok (), q) := by
  rw [answer_eq, Settings.filterBy_isFilter, Process.setUp]
  cases r.settings.filter r.env <;> rfl

/-- A call fails and does nothing, or it succeeds and everything is set up that it asked for. -/
theorem answer_cases (accepts : String → Bool) (r : Request κ) (p : Process κ) :
    (∃ why, answer accepts r p = (.error why, p)) ∨
      ∃ filter, answer accepts r p =
        (.ok (), if r.settings.offload then (p.startLogging filter).lend r.adapter
          else p.startLogging filter) := by
  rw [answer_eq]
  cases r.settings.filterBy accepts r.env with
  | error why => exact .inl ⟨why, rfl⟩
  | ok filter => exact .inr ⟨filter, rfl⟩

theorem answer_of_accepted (hp : p.logging.isSome = true)
    (h : r.settings.Accepted accepts r.env) :
    answer accepts r p = (.ok (), if r.settings.offload then p.lend r.adapter else p) := by
  obtain ⟨filter, hfilter⟩ := Settings.filterBy_of_accepted h
  simp only [answer_eq, hfilter, Process.startLogging_of_logging hp]

theorem adapter_answer (h : p.adapter.isSome = true) :
    (answer accepts r p).2.adapter = p.adapter := by
  obtain ⟨why, hp⟩ | ⟨filter, hp⟩ := answer_cases accepts r p
  · rw [hp]
  · rw [hp]
    cases r.settings.offload with
    | false => rfl
    | true =>
      obtain ⟨x, hx⟩ := Option.isSome_iff_exists.mp h
      show some (p.adapter.getD r.adapter) = p.adapter
      rw [hx]
      rfl

/-- In a process that logs, a call does nothing but lend an adapter, if it wants one. -/
theorem answer_of_logging (accepts : String → Bool) (r : Request κ)
    (h : p.logging.isSome = true) :
    (answer accepts r p).2 = p ∨ r.settings.offload = true ∧
      answer accepts r p = (.ok (), p.lend r.adapter) := by
  obtain ⟨why, hp⟩ | ⟨filter, hp⟩ := answer_cases accepts r p
  · exact .inl (by rw [hp])
  · rw [hp, Process.startLogging_of_logging h]
    cases hoffload : r.settings.offload with
    | false => exact .inl rfl
    | true => exact .inr ⟨rfl, rfl⟩

/-- What a call that succeeds was asked for is there. -/
theorem complete_of_success (h : (answer accepts r p).1 = .ok ()) :
    (answer accepts r p).2.logging.isSome = true ∧
      (r.settings.offload = true → (answer accepts r p).2.adapter.isSome = true) := by
  obtain ⟨why, hp⟩ | ⟨filter, hp⟩ := answer_cases accepts r p
  · exact absurd h (by simp [hp])
  · rw [hp]
    cases r.settings.offload with
    | false => exact ⟨rfl, nofun⟩
    | true => exact ⟨rfl, fun _ => rfl⟩

/-! ## One call after the other -/

/-- `Calls accepts p rs q`: the calls with the requests and answers `rs`, the newest first, lead
from `p` to `q`. -/
inductive Calls (accepts : String → Bool) (p : Process κ) :
    List (Request κ × Except SettingsError Unit) → Process κ → Prop
  | nil : Calls accepts p [] p
  | cons {rs : List (Request κ × Except SettingsError Unit)} {q : Process κ}
      (h : Calls accepts p rs q) (r : Request κ) :
      Calls accepts p ((r, (answer accepts r q).1) :: rs) (answer accepts r q).2

theorem Calls.logging_eq (h : Calls accepts p rs q) (hp : p.logging.isSome = true) :
    q.logging = p.logging := by
  induction h with
  | nil => rfl
  | @cons rs q h r ih =>
    obtain hq | ⟨-, hq⟩ := answer_of_logging accepts r (ih ▸ hp)
    · rw [hq, ih]
    · rw [hq, ← ih]
      rfl

theorem Calls.adapter_eq (h : Calls accepts p rs q) (hp : p.adapter.isSome = true) :
    q.adapter = p.adapter := by
  induction h with
  | nil => rfl
  | cons h r ih => rw [adapter_answer (ih ▸ hp), ih]

/-- Calls that find a process logging and want no adapter, or find one, do nothing. -/
theorem Calls.eq_of_complete (h : Calls accepts p rs q) (hp : p.logging.isSome = true)
    (hwant : (∀ e ∈ rs, e.1.settings.offload = false) ∨ p.adapter.isSome = true) : q = p := by
  induction h with
  | nil => rfl
  | @cons rs q h r ih =>
    have hq : q = p := ih (hwant.imp_left fun hes e he => hes e (List.mem_cons_of_mem _ he))
    rw [hq]
    obtain hidle | ⟨hoffload, hlent⟩ := answer_of_logging accepts r hp
    · exact hidle
    · rcases hwant with hnone | hadapter
      · exact absurd (hnone _ (List.mem_cons_self ..)) (by simp [hoffload])
      · rw [hlent, Process.lend_of_adapter hadapter]

/-- What some call that succeeded was asked for is there in the end. -/
theorem Calls.complete (h : Calls accepts p rs q) (hok : (r, .ok ()) ∈ rs) :
    q.logging.isSome = true ∧ (r.settings.offload = true → q.adapter.isSome = true) := by
  induction h with
  | nil => exact absurd hok (by simp)
  | @cons rs q h r' ih =>
    have hlast : Calls accepts q [(r', (answer accepts r' q).1)] (answer accepts r' q).2 :=
      .cons .nil r'
    rcases List.mem_cons.mp hok with heq | hmem
    · obtain ⟨rfl, hanswer⟩ := Prod.mk.inj heq
      exact complete_of_success hanswer.symm
    · obtain ⟨hlogging, hadapter⟩ := ih hmem
      refine ⟨(hlast.logging_eq hlogging).symm ▸ hlogging, fun hoffload => ?_⟩
      exact (hlast.adapter_eq (hadapter hoffload)).symm ▸ hadapter hoffload

/-- **A call that succeeds settles what is logged, and one that wants an adapter settles
everything**, whatever texts are filters and whatever the calls are given.

* A call that fails does nothing.
* After a call that has succeeded, what is logged stays the same, and calls that want no adapter, or
  find one, do nothing.  A call that finds a filter succeeds, and all that it does is to lend an
  adapter, if it wants one and the gate has none.
* After a call that wanted an adapter and has succeeded, the gate has one. -/
theorem settled_of_success (h : Calls accepts p rs q) :
    (∀ r why, (answer accepts r q).1 = .error why → (answer accepts r q).2 = q) ∧
    ((∃ r, (r, .ok ()) ∈ rs) → ∀ rs' q', Calls accepts q rs' q' →
      q'.logging = q.logging ∧
      ((∀ e ∈ rs', e.1.settings.offload = false) ∨ q.adapter.isSome = true → q' = q) ∧
      ∀ r, r.settings.Accepted accepts r.env →
        answer accepts r q' = (.ok (), if r.settings.offload then q'.lend r.adapter else q')) ∧
    ∀ r, (r, .ok ()) ∈ rs → r.settings.offload = true → q.adapter.isSome = true := by
  refine ⟨fun r why hwhy => ?_, ?_, fun r hok => (h.complete hok).2⟩
  · obtain ⟨why, hq⟩ | ⟨filter, hq⟩ := answer_cases accepts r q
    · rw [hq]
    · exact absurd hwhy (by simp [hq])
  · rintro ⟨r, hok⟩ rs' q' h'
    have hlogging := (h.complete hok).1
    have hsame := h'.logging_eq hlogging
    exact ⟨hsame, h'.eq_of_complete hlogging,
      fun r hr => answer_of_accepted (hsame.symm ▸ hlogging) hr⟩

/-- What a call is given that wants an adapter, or none, and has no variables set. -/
def plain (filter : String) (offload : Bool) : Request String :=
  ⟨⟨filter, offload⟩, Table.empty, "standard"⟩

/-- Two calls, of which the second one lends an adapter, and a third one that does nothing. -/
theorem settled_of_success_twice : ∃ q, Calls LogFilter.isFilter .bare
      [(plain "rescon=debug" true, .ok ()), (plain "info" false, .ok ())] q ∧
    q.adapter = some "standard" ∧
    answer LogFilter.isFilter (plain "warn" true) q = (.ok (), q) := by
  have hcalls : Calls LogFilter.isFilter .bare
      [(plain "rescon=debug" true, .ok ()), (plain "info" false, .ok ())]
      ⟨some "info", some "standard"⟩ := (Calls.nil.cons (plain "info" false)).cons _
  obtain ⟨-, hsettled, -⟩ := settled_of_success hcalls
  exact ⟨_, hcalls, rfl, (hsettled ⟨_, List.mem_cons_self ..⟩ [] _ .nil).2.2 _ (.inr rfl)⟩

/-- **A call after one that has succeeded can lend an adapter, and can fail.** -/
theorem lent_and_failed_after_success : ∃ p q : Process String,
    answer LogFilter.isFilter (plain "info" false) .bare = (.ok (), p) ∧
    answer LogFilter.isFilter (plain "info" true) p = (.ok (), q) ∧ q.adapter ≠ p.adapter ∧
    answer LogFilter.isFilter (plain "rescon=loud" true) q =
      (.error (.notAFilter "rescon=loud"), q) :=
  ⟨⟨some "info", none⟩, ⟨some "info", some "standard"⟩, rfl, rfl, by simp, rfl⟩

end Calls

end Startup

end ResourceContainers
