/-
Module: Stepwise.Proofs.Workflow.Append
Purpose: A workflow in front of further steps: its steps and its references.
Main exports: Workflow.embed, Workflow.get_embed, Workflow.locate_append_of_ok,
  Workflow.locate_append_of_error
-/
import Mathlib.Order.Fin.Basic
import Stepwise.Proofs.Workflow.Resolution

namespace Stepwise.Workflow

/-!
Steps that are put behind a workflow move none of its steps.  A reference that
leads somewhere leads there as before, and one that spells no ordinal from one on
leads nowhere as before.  Only references past the end may come to lead to one
of the further steps.
-/

variable {w : Workflow} {further : List Step} {reference : String}

theorem length_append (w : Workflow) (further : List Step) :
    (w.append further).length = w.length + further.length :=
  List.length_append

theorem length_le_append (w : Workflow) (further : List Step) :
    w.length ≤ (w.append further).length :=
  (length_append w further).symm ▸ Nat.le_add_right _ _

/-- An index keeps its number when steps are put behind the workflow. -/
def embed (w : Workflow) (further : List Step) (index : Fin w.length) :
    Fin (w.append further).length :=
  index.castLE (length_le_append w further)

theorem embed_injective (w : Workflow) (further : List Step) :
    Function.Injective (w.embed further) :=
  Fin.castLE_injective (length_le_append w further)

theorem get_embed (w : Workflow) (further : List Step) (index : Fin w.length) :
    (w.append further).get (w.embed further index) = w.get index :=
  List.getElem_append_left index.isLt

/-- A reference that leads somewhere still leads there. -/
theorem locate_append_of_ok {index : Fin w.length} (located : w.locate reference = .ok index) :
    (w.append further).locate reference = .ok (w.embed further index) := by
  rw [locate_eq_ok_iff] at located ⊢
  exact located

/-- A reference that leads nowhere still does, unless it leads past the end. -/
theorem locate_append_of_error {why : ReferenceFault} (malformed : w.locate reference = .error why)
    (spelt : why ≠ .pastTheEnd) : (w.append further).locate reference = .error why := by
  rw [locate_eq_error_iff] at malformed ⊢
  cases why with
  | notAReference => exact malformed
  | zeroOrdinal => exact malformed
  | pastTheEnd => exact absurd rfl spelt

end Stepwise.Workflow
