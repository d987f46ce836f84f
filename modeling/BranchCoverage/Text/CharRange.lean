/-
Sets of characters as sorted lists of closed ranges of code points: the form
in which the tables of the character properties are kept.
-/
namespace BranchCoverage.Text

/-- A closed range of code points. -/
abbrev CharRange := Nat × Nat

/-- Whether some range of the table holds the character.  Tables are sorted,
so the first range that does not end before it decides. -/
def CharRange.contain : List CharRange → Char → Bool
  | [], _ => false
  | (low, high) :: rest, c =>
    if high < c.toNat then contain rest c else low ≤ c.toNat

end BranchCoverage.Text
