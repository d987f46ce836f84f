/-
Prefixes that count.

A prefix is compared in lower case and without the white space around it.  Lower
case keeps a text from becoming empty (`lower_eq_nil_iff`), so the prefixes that
do not count are those of white space alone (`hasIncludes_ofPrefixes`).
-/
import BranchCoverage.Selection.Matcher
import BranchCoverage.Proofs.Text.Whitespace

namespace BranchCoverage

namespace Text

theorem lower_eq_nil_iff {cs : List Char} : lower cs = [] ↔ cs = [] := by
  cases cs with
  | nil => simp [lower, lowerAfter]
  | cons c after =>
    have hne : lowerIn [] c after ≠ [] := by
      rw [lowerIn]
      split
      · split <;> simp
      · split <;> simp
    simp [lower, lowerAfter, hne]

end Text

/-- A prefix of white space alone. -/
def Blank (p : String) : Prop :=
  ∀ c ∈ p.toList, Text.isSpace c = true

namespace Matcher

theorem normalize_eq_nil_iff {p : String} : normalize p = [] ↔ Blank p := by
  rw [normalize, Text.lower_eq_nil_iff, Text.trimmed_eq_nil_iff, Blank]

/-- Something in particular is to be instrumented if a prefix is not blank. -/
theorem hasIncludes_ofPrefixes {included excluded : List String} :
    (ofPrefixes included excluded).hasIncludes = true ↔ ∃ p ∈ included, ¬ Blank p := by
  simp [hasIncludes, ofPrefixes, normalize_eq_nil_iff]

end Matcher

end BranchCoverage
