/-!
# Refusals

Why a container refuses what it is asked for.  Every refusal is a mistake of the caller: it used a
container that no longer runs, it tried to go from one container straight into another, or it asked
the root container for something that the root container never does.

* `Refusal`: the causes.
* `Refusal.report`: a cause as its caller sees it, a kind and a sentence.
* `Refusal.report_kind`: the causes that concern the root container are the unsupported ones.
-/

namespace ResourceContainers

/-- The two kinds of mistake.  The container or the caller is not in a state that allows the
request, or the request is never valid for the root container. -/
inductive Refusal.Kind
  | illegalState
  | unsupported
  deriving DecidableEq, Repr

/-- What the caller is told about a mistake. -/
structure Refusal.Report where
  kind : Kind
  detail : String
  deriving DecidableEq, Repr

def Refusal.Report.message (r : Report) : String :=
  match r.kind with
  | .illegalState => "illegal state: " ++ r.detail
  | .unsupported => "unsupported: " ++ r.detail

/-- Why a container refuses a request.  The caller is bound to another container and has not stepped
out to root; execution units are attached to a container that is to be destroyed; or it is the root
container, which cannot be destroyed, has no limits and has a fixed policy. -/
inductive Refusal
  | notRunning
  | notInRoot
  | stillAttached (units : Nat)
  | destroyRoot
  | limitRoot
  | policyOfRoot
  deriving DecidableEq, Repr

namespace Refusal

/-- What the caller is told about a refusal. -/
def report : Refusal → Report
  | notRunning => ⟨.illegalState, "container not running"⟩
  | notInRoot =>
    ⟨.illegalState, "must be in root container before running into non-root container"⟩
  | stillAttached units =>
    ⟨.illegalState, "container still attached to " ++ toString units ++ " execution unit(s)"⟩
  | destroyRoot => ⟨.unsupported, "destroy() is not supported by root container"⟩
  | limitRoot => ⟨.unsupported, "updateConstraint() is not supported by root container"⟩
  | policyOfRoot => ⟨.unsupported, "inheritance predicate of root container is fixed"⟩

def message (r : Refusal) : String := r.report.message

/-- Whether the request was made of the root container. -/
def concernsRoot : Refusal → Bool
  | destroyRoot | limitRoot | policyOfRoot => true
  | notRunning | notInRoot | stillAttached _ => false

/-- A refusal is of the unsupported kind exactly when the request was made of the root container. -/
theorem report_kind (r : Refusal) : r.report.kind = .unsupported ↔ r.concernsRoot = true := by
  cases r <;> simp [report, concernsRoot]

end Refusal

end ResourceContainers
