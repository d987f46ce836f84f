/-
What is wrong with a regular expression as it is written, and the report that
shows it: the expression line by line, marks below the part that is meant, and
the reason.
-/
namespace BranchCoverage.Pattern

/-- A place in an expression: its line and its column, both from one on. -/
structure Position where
  line : Nat
  column : Nat
  deriving DecidableEq

/-- A part of an expression, up to the place behind it. -/
structure Span where
  start : Position
  stop : Position
  deriving DecidableEq

/-- The reasons to refuse an expression. -/
inductive Reason where
  | classEscapeInvalid
  | classRangeInvalid
  | classRangeLiteral
  | classUnclosed
  | decimalInvalid
  | escapeHexEmpty
  | escapeHexInvalid
  | escapeHexInvalidDigit
  | escapeUnexpectedEnd
  | escapeUnrecognized
  | flagDanglingNegation
  | flagDuplicate
  | flagRepeatedNegation
  | flagUnexpectedEnd
  | flagUnrecognized
  | groupNameDuplicate
  | groupNameEmpty
  | groupNameInvalid
  | groupNameUnexpectedEnd
  | groupUnclosed
  | groupUnopened
  | nestedTooDeep (limit : Nat)
  | countInvalid
  | countEmpty
  | countUnclosed
  | repetitionMissing
  | wordBoundaryUnclosed
  | wordBoundaryUnrecognized
  | wordBoundaryOrCountUnexpectedEnd
  | propertyInvalid
  | backreference
  | lookAround
  | unicodeNotAllowed
  | invalidText
  | propertyNotFound
  | propertyValueNotFound
  | unicodeClassUnavailable
  | unicodeCaseUnavailable
  deriving DecidableEq

/-- A reason in words. -/
def Reason.message : Reason → String
  | classEscapeInvalid => "invalid escape sequence found in character class"
  | classRangeInvalid => "invalid character class range, the start must be <= the end"
  | classRangeLiteral => "invalid range boundary, must be a literal"
  | classUnclosed => "unclosed character class"
  | decimalInvalid => "decimal literal invalid"
  | escapeHexEmpty => "hexadecimal literal empty"
  | escapeHexInvalid => "hexadecimal literal is not a Unicode scalar value"
  | escapeHexInvalidDigit => "invalid hexadecimal digit"
  | escapeUnexpectedEnd => "incomplete escape sequence, reached end of pattern prematurely"
  | escapeUnrecognized => "unrecognized escape sequence"
  | flagDanglingNegation => "dangling flag negation operator"
  | flagDuplicate => "duplicate flag"
  | flagRepeatedNegation => "flag negation operator repeated"
  | flagUnexpectedEnd => "expected flag but got end of regex"
  | flagUnrecognized => "unrecognized flag"
  | groupNameDuplicate => "duplicate capture group name"
  | groupNameEmpty => "empty capture group name"
  | groupNameInvalid => "invalid capture group character"
  | groupNameUnexpectedEnd => "unclosed capture group name"
  | groupUnclosed => "unclosed group"
  | groupUnopened => "unopened group"
  | nestedTooDeep limit =>
    s!"exceed the maximum number of nested parentheses/brackets ({limit})"
  | countInvalid => "invalid repetition count range, the start must be <= the end"
  | countEmpty => "repetition quantifier expects a valid decimal"
  | countUnclosed => "unclosed counted repetition"
  | repetitionMissing => "repetition operator missing expression"
  | wordBoundaryUnclosed =>
    "special word boundary assertion is either unclosed or contains an invalid character"
  | wordBoundaryUnrecognized =>
    "unrecognized special word boundary assertion, valid choices are: start, end, " ++
      "start-half or end-half"
  | wordBoundaryOrCountUnexpectedEnd =>
    "found either the beginning of a special word boundary or a bounded repetition on a " ++
      "\\b with an opening brace, but no closing brace"
  | propertyInvalid => "invalid Unicode character class"
  | backreference => "backreferences are not supported"
  | lookAround => "look-around, including look-ahead and look-behind, is not supported"
  | unicodeNotAllowed => "Unicode not allowed here"
  | invalidText => "pattern can match invalid UTF-8"
  | propertyNotFound => "Unicode property not found"
  | propertyValueNotFound => "Unicode property value not found"
  | unicodeClassUnavailable =>
    "Unicode-aware Perl class not found (make sure the unicode-perl feature is enabled)"
  | unicodeCaseUnavailable =>
    "Unicode-aware case insensitivity matching is not available (make sure the " ++
      "unicode-case feature is enabled)"

/-- A reason to refuse an expression, the part that is meant, and an earlier
part that it conflicts with. -/
structure Flaw where
  reason : Reason
  span : Span
  earlier : Option Span := none
  deriving DecidableEq

/-! ### The report -/

/-- The lines of an expression.  A line feed at its end opens one more line
only where `openEnd` asks for it. -/
def linesOf (openEnd : Bool) (expression : String) : List String :=
  let lines := expression.splitOn "\n"
  if lines.getLast? = some "" ∧ !(openEnd ∧ expression ≠ "") then lines.dropLast else lines

/-- A line without the carriage return at its end. -/
def withoutReturn (line : String) : String :=
  if line.toList.getLast? = some '\r' then String.ofList line.toList.dropLast else line

/-- A text of so many equal characters. -/
def run (n : Nat) (c : Char) : String :=
  String.ofList (List.replicate n c)

/-- The marks below a line: one run for each part on it, from left to right. -/
def marks (spans : List Span) : String :=
  (spans.foldl (fun (text, column) span =>
    let gap := span.start.column - 1 - column
    let width := max 1 (span.stop.column - span.start.column)
    (text ++ run gap ' ' ++ run width '^', column + gap + width)) ("", 0)).1

/-- Whether a place stands before another. -/
def Position.precedes (a b : Position) : Bool :=
  a.line < b.line || (a.line = b.line && a.column < b.column)

/-- Whether a part begins before another, or ends first if both begin in one
place. -/
def Span.precedes (a b : Span) : Bool :=
  a.start.precedes b.start || (a.start = b.start && !b.stop.precedes a.stop)

namespace Flaw

/-- The parts that the report marks, in the order of the expression. -/
def spans (f : Flaw) : List Span :=
  match f.earlier with
  | none => [f.span]
  | some other => if f.span.precedes other then [f.span, other] else [other, f.span]

/-- The parts that lie on one line. -/
def spansOn (f : Flaw) (line : Nat) : List Span :=
  f.spans.filter fun s => s.start.line = line ∧ s.stop.line = line

/-- The lines of an expression with the marks below them.  Where there are
several lines they are numbered. -/
def marked (f : Flaw) (expression : String) : String :=
  let count := (linesOf true expression).length
  let width := if count ≤ 1 then 0 else (toString count).length
  String.join <| ((linesOf false expression).zipIdx 1).map fun (line, n) =>
    let number := toString n
    let head := if width = 0 then "    " else run (width - number.length) ' ' ++ number ++ ": "
    let below := match f.spansOn n with
      | [] => ""
      | spans => run (if width = 0 then 4 else width + 2) ' ' ++ marks spans ++ "\n"
    head ++ withoutReturn line ++ "\n" ++ below

/-- Where a part lies that goes over several lines. -/
def extent (s : Span) : String :=
  s!"on line {s.start.line} (column {s.start.column}) through line {s.stop.line} " ++
    s!"(column {s.stop.column - 1})\n"

/-- The report on an expression. -/
def report (f : Flaw) (expression : String) : String :=
  let body :=
    if expression.contains '\n' then
      let divider := run 79 '~' ++ "\n"
      divider ++ f.marked expression ++ divider ++
        String.join ((f.spans.filter fun s => s.start.line ≠ s.stop.line).map extent)
    else f.marked expression
  "regex parse error:\n" ++ body ++ "error: " ++ f.reason.message

end Flaw

end BranchCoverage.Pattern
