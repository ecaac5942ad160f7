import Mathlib.Algebra.BigOperators.Group.Finset.Basic
import Mathlib.Algebra.BigOperators.Group.List.Basic
import ParentalCoord.Expenses.Service

/-!
The balance of a bond, as each of its members is shown it.

One statement computes it for the viewer: of every expense that counts, the share of the
requester less the share of the other, with the sign of the viewer's side.  Whoever has not
requested an expense is taken for its other side, whether it is the counterpart or not.
-/

namespace ParentalCoord.Expenses

open Interleaving

variable {world : World} {bondId viewerId member one other : Uuid} {row : ExpenseEntity}

/-! ## The summary -/

/-- The status is one of `'approved'` and `'paid'`. -/
def settles (status : ExpenseStatus) : Bool := status ∈ [ExpenseStatus.approved, .paid]

namespace World.Parties

end World.Parties

/-- The coordinator of a bond of two parents. -/
def coordinated : World :=
  { start with
    directory :=
      { start.directory with
        isActiveBondForMember := fun _ userId => userId ∈ ["mother", "father", "coordinator"]
        findActiveMemberIds := fun _ => ["mother", "father", "coordinator"] }
    expenses :=
      ⟨[{ id := "shoes"
          bondId := "bond"
          categoryId := none
          concept := "Shoes"
          description := none
          amount := 4000
          expenseDate := "2026-01-10"
          splitRatioPayer := 7500
          splitRatioOther := 2500
          status := .approved
          requestedBy := "mother"
          createdAt := 0
          updatedAt := 0 }], by simp⟩ }

end ParentalCoord.Expenses
