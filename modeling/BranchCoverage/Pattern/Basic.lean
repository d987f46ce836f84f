/-
Patterns: what a regular expression asks of a text.
-/
import BranchCoverage.Pattern.CharSet

namespace BranchCoverage

namespace Pattern

/-- A condition on a place in a text, told by the characters beside it. -/
inductive Look where
  | textStart
  | textEnd
  | lineStart
  | lineEnd
  /-- A line start where lines end with a carriage return, a line feed or both. -/
  | anyLineStart
  | anyLineEnd
  | wordBoundary
  | noWordBoundary
  | wordStart
  | wordEnd
  | noWordBefore
  | noWordAfter
  deriving DecidableEq

/-- Whether an ASCII word character stands on one side of a place. -/
def isWord (c : Option Char) : Bool :=
  c.any AsciiClass.word.set.contains

/-- Whether the condition holds between two characters; at an end of the text
one is missing. -/
def Look.holds (l : Look) (before after : Option Char) : Bool :=
  match l with
  | textStart => before.isNone
  | textEnd => after.isNone
  | lineStart => before.all (· = '\n')
  | lineEnd => after.all (· = '\n')
  | anyLineStart => before.all (· = '\n') || (before = some '\r' && after ≠ some '\n')
  | anyLineEnd => after.all (· = '\r') || (after = some '\n' && before ≠ some '\r')
  | wordBoundary => isWord before != isWord after
  | noWordBoundary => isWord before == isWord after
  | wordStart => !isWord before && isWord after
  | wordEnd => isWord before && !isWord after
  | noWordBefore => !isWord before
  | noWordAfter => !isWord after

end Pattern

open Pattern in
/-- A regular expression. -/
inductive Pattern where
  /-- The empty text. -/
  | empty
  /-- One character of a set. -/
  | one (s : CharSet)
  | look (l : Look)
  | seq (a b : Pattern)
  | alt (a b : Pattern)
  /-- A pattern so many times in a row, without end if `most` is missing. -/
  | times (p : Pattern) (least : Nat) (most : Option Nat)
  deriving DecidableEq

namespace Pattern

/-- One pattern behind another; the empty one is left out. -/
def follow (a b : Pattern) : Pattern :=
  if a = empty then b else if b = empty then a else seq a b

/-- A pattern so many times; no times at all is the empty text. -/
def repeated (p : Pattern) (least : Nat) (most : Option Nat) : Pattern :=
  if p = empty ∨ most = some 0 then empty else times p least most

end Pattern

end BranchCoverage
