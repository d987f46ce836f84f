/-
Selection by name.

Types and methods are selected by prefixes of their names, without regard to
case.  A method's name counts from behind its first blank, so that a prefix
that selects a type can select its methods too.  Exclusion wins.
-/
import BranchCoverage.Log
import BranchCoverage.Text.Lowercase
import BranchCoverage.Text.Whitespace

namespace BranchCoverage

/-- The prefixes of what is to be instrumented and of what is not, in lower
case. -/
structure Matcher where
  included : List (List Char)
  excluded : List (List Char)

namespace Matcher

/-- A prefix as it is compared. -/
def normalize (p : String) : List Char :=
  Text.lower (Text.trimmed p.toList)

/-- The matcher for prefixes as they are given.  Blank ones do not count. -/
def ofPrefixes (included excluded : List String) : Matcher where
  included := (included.map normalize).filter (!·.isEmpty)
  excluded := (excluded.map normalize).filter (!·.isEmpty)

/-- Whether anything in particular is to be instrumented. -/
def hasIncludes (m : Matcher) : Bool :=
  !m.included.isEmpty

/-- A name from behind its first blank, or all of it. -/
def subject (name : List Char) : List Char :=
  match name.dropWhile (· ≠ ' ') with
  | [] => name
  | _ :: rest => rest

/-- Whether the name begins with one of the prefixes. -/
def hasPrefix (prefixes : List (List Char)) (name : List Char) : Bool :=
  prefixes.any (·.isPrefixOf name)

/-- Whether a name is excluded. -/
def excludes (m : Matcher) (name : String) : Bool :=
  hasPrefix m.excluded (Text.lower (subject name.toList))

/-- Whether a name is selected.  Without prefixes to include, all are. -/
def accepts (m : Matcher) (name : String) : Bool :=
  !m.excludes name &&
    (m.included.isEmpty || hasPrefix m.included (Text.lower (subject name.toList)))

/-- What asking for a name leaves in the log. -/
def log (m : Matcher) (name : String) : List LogLine :=
  if m.excludes name then
    [⟨.info, "Excluded: " ++ String.ofList (subject name.toList)⟩]
  else []

end Matcher

end BranchCoverage
