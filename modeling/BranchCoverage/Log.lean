/-
Log lines.
-/
namespace BranchCoverage

/-- How important a log line is, the most important first. -/
inductive Level where
  | error | warn | info | debug | trace
  deriving DecidableEq

/-- A line for the log. -/
structure LogLine where
  level : Level
  message : String
  deriving DecidableEq

end BranchCoverage
