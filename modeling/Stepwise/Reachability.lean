/-
Module: Stepwise.Reachability
Purpose: Validation of a workflow and the steps reachable from its entry.
Main exports: Reachability.explore, Workflow.misnamed?, Workflow.targets, Workflow.validate
-/
import Stepwise.Workflow

namespace Stepwise

/-!
Validation has three stages, each of which may rely on the ones before it:
every step bears its positional name, every connection resolves, and then the
steps reachable from the entry are listed breadth first.  Cycles are allowed.

The search works on indices of one workflow.  It keeps the indices it has
finished and a queue of indices it has found and not finished; an index enters
the queue when it is first found, so the order of finishing is the order of
finding.  Each round finishes one index, and no index is found twice, which is
why as many rounds as there are steps are enough.
-/

namespace Reachability

/-- The targets that are not known yet, each once, in order of appearance. -/
def fresh {n : Nat} (known : List (Fin n)) : List (Fin n) → List (Fin n)
  | [] => []
  | target :: rest =>
      if target ∈ known then fresh known rest
      else target :: fresh (target :: known) rest

/-- Breadth-first search: the indices already finished, then those the queue
leads to.  The first argument bounds the number of rounds. -/
def explore {n : Nat} (targets : Fin n → List (Fin n)) :
    Nat → List (Fin n) → List (Fin n) → List (Fin n)
  | _, finished, [] => finished
  | 0, finished, _ :: _ => finished
  | rounds + 1, finished, index :: queue =>
      explore targets rounds (finished ++ [index])
        (queue ++ fresh (finished ++ index :: queue) (targets index))

end Reachability

namespace Workflow

/-- The fault of the first step that does not bear its positional name. -/
def misnamed? (w : Workflow) : Option WorkflowFault :=
  (w.steps.zipIdx.find? fun (step, index) => step.name != Step.nameOf (index + 1)).map
    fun (step, index) => .misnamedStep index step.name

/-- The indices that each step leads to, or the fault of the first connection
that leads nowhere. -/
def targets (w : Workflow) : Except WorkflowFault (List (List (Fin w.length))) :=
  w.steps.mapM fun step => step.connections.mapM (w.resolve step.name)

/-- The indices reachable from the entry over the given targets, breadth
first. -/
def reachable (w : Workflow) (targets : List (List (Fin w.length))) :
    List (Fin w.length) :=
  if nonempty : 0 < w.length then
    Reachability.explore (fun index => targets.getD index.val []) w.length [] [⟨0, nonempty⟩]
  else []

/-- Checks the names and the connections of a workflow and lists the names of
the steps reachable from its entry, breadth first over all connections. -/
def validate (w : Workflow) : Except WorkflowFault (List String) :=
  match w.misnamed? with
  | some fault => .error fault
  | none => do
      let targets ← w.targets
      return (w.reachable targets).map fun index => Step.nameOf (index.val + 1)

end Workflow

end Stepwise
