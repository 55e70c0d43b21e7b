import ResourceContainers.Settings

/-!
# Starting up

Starting up sets the process up for logging and lends its gate an adapter.  It may be done again:
whoever logs already keeps logging as before, and an adapter is lent only to a gate that has none.

* `Process.setUp`: what starting up does to a process.
* `Process.setUp_eq_error`: it fails exactly if there is no filter to log by, and then does nothing.
-/

namespace ResourceContainers

/-- What starting up sets up: the filter that the process logs by, and the adapter of its gate.  `κ`
is the type of adapters. -/
structure Process (κ : Type) where
  logging : Option String
  adapter : Option κ

namespace Process

/-- Nothing is set up. -/
def bare {κ : Type} : Process κ := ⟨none, none⟩

/-- Sets a process up for logging, unless it logs already. -/
def startLogging {κ : Type} (p : Process κ) (filter : String) : Process κ :=
  { p with logging := some (p.logging.getD filter) }

/-- Lends the gate of a process an adapter, unless it has one. -/
def lend {κ : Type} (p : Process κ) (a : κ) : Process κ :=
  { p with adapter := some (p.adapter.getD a) }

/-- Sets a process up.  The adapter is for the case that one is wanted. -/
def setUp {κ : Type} (p : Process κ) (s : Settings) (env : Environment) (a : κ) :
    Except SettingsError (Process κ) :=
  (s.filter env).map fun filter =>
    if s.offload then (p.startLogging filter).lend a else p.startLogging filter

/-- Setting up fails exactly if there is no filter to log by. -/
theorem setUp_eq_error {κ : Type} (p : Process κ) (s : Settings) (env : Environment) (a : κ)
    (e : SettingsError) : p.setUp s env a = .error e ↔ s.filter env = .error e := by
  unfold setUp
  cases s.filter env <;> simp [Except.map]

end Process

end ResourceContainers
