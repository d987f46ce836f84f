/-
Which branch identifiers were hit under which label during a test.
-/
import BranchCoverage.Sorted

namespace BranchCoverage

/-- The labels in ascending order, each with its identifiers in ascending
order. -/
abbrev LocationTable := List (String × List UInt32)

namespace LocationTable

/-- Adds an identifier under a label. -/
def record (id : UInt32) (label : String) : LocationTable → LocationTable
  | [] => [(label, [id])]
  | (other, ids) :: rest =>
    if label = other then (other, Sorted.insert id ids) :: rest
    else if label < other then (label, [id]) :: (other, ids) :: rest
    else (other, ids) :: record id label rest

/-- What is done to a table. -/
inductive Change where
  /-- An identifier was hit under a label. -/
  | record (id : UInt32) (label : String)
  /-- A test begins. -/
  | clear
  deriving DecidableEq

/-- The table behind a change. -/
def apply (table : LocationTable) : Change → LocationTable
  | .record id label => table.record id label
  | .clear => []

/-- The table behind changes of one that holds nothing. -/
def ofChanges (changes : List Change) : LocationTable :=
  changes.foldl apply []

/-- The line of a label: the label and the number of its identifiers. -/
def line (entry : String × List UInt32) : String :=
  entry.1 ++ ";" ++ toString entry.2.length

/-- The lines of all labels. -/
def render (table : LocationTable) : String :=
  String.intercalate "\n" (table.map line)

end LocationTable

end BranchCoverage
