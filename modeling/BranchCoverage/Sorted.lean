/-
Finite sets as strictly ascending lists.
-/
namespace BranchCoverage.Sorted

variable {α : Type} [LT α] [DecidableRel (α := α) (· < ·)] [DecidableEq α]

/-- Puts an element into its place, unless it is there already. -/
def insert (x : α) : List α → List α
  | [] => [x]
  | y :: rest => if x = y then y :: rest else if x < y then x :: y :: rest else y :: insert x rest

/-- The elements of a list in ascending order, each once. -/
def ofList (xs : List α) : List α :=
  xs.foldr insert []

end BranchCoverage.Sorted
