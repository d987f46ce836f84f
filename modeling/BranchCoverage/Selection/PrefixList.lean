/-
Lists of prefixes: one a line, with a comment behind a blank and a colon.
-/
import BranchCoverage.Text.Whitespace

namespace BranchCoverage.PrefixList

/-- The lines of a text, without the line feeds that end them and without a
carriage return before that.  Nothing stands behind the last line feed. -/
def lines (text : List Char) : List (List Char) :=
  match text with
  | [] => []
  | c :: rest =>
    if c = '\n' then [] :: lines rest
    else if c = '\r' ∧ rest.head? = some '\n' then lines rest
    else
      match lines rest with
      | [] => [[c]]
      | line :: more => (c :: line) :: more

/-- A line up to its comment. -/
def uncommented : List Char → List Char
  | [] => []
  | ' ' :: ':' :: _ => []
  | c :: rest => c :: uncommented rest

/-- The prefixes of a list. -/
def parse (text : String) : List String :=
  ((lines text.toList).map fun line => Text.trimmed (uncommented line)).filter (!·.isEmpty)
    |>.map String.ofList

end BranchCoverage.PrefixList
