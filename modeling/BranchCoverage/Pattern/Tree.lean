/-
Regular expressions as they are written, with the parts that their pieces take.
-/
import BranchCoverage.Pattern.Basic
import BranchCoverage.Pattern.Flaw

namespace BranchCoverage.Pattern

/-- What can be turned on and off. -/
inductive Flag where
  | ignoreCase
  | manyLines
  | dotMatchesAll
  | preferFewer
  | unicode
  | carriageReturns
  | ignoreSpace
  deriving DecidableEq

/-- The flag that a letter stands for. -/
def Flag.ofChar? : Char → Option Flag
  | 'i' => some ignoreCase
  | 'm' => some manyLines
  | 's' => some dotMatchesAll
  | 'U' => some preferFewer
  | 'u' => some unicode
  | 'R' => some carriageReturns
  | 'x' => some ignoreSpace
  | _ => none

/-- What a list of flags says about one flag: those behind a minus sign, given
as `none`, are turned off. -/
def Flag.stateIn (f : Flag) (items : List (Option Flag)) : Option Bool :=
  match items.span (· ≠ some f) with
  | (_, []) => none
  | (earlier, _ :: _) => some (!earlier.contains none)

/-- A character, and whether it is written as two hexadecimal digits. -/
structure Literal where
  span : Span
  char : Char
  asByte : Bool := false
  deriving DecidableEq

/-- The conditions on a place that can be written.  What some of them mean
depends on the flags. -/
inductive Condition where
  | caret
  | dollar
  | textStart
  | textEnd
  | wordBoundary
  | noWordBoundary
  | wordStart
  | wordEnd
  | noWordBefore
  | noWordAfter
  deriving DecidableEq

/-- The classes with a letter. -/
inductive Shorthand where
  | digit | space | word
  deriving DecidableEq

/-- The class of ASCII characters that a letter stands for. -/
def Shorthand.ascii : Shorthand → AsciiClass
  | digit => .digit
  | space => .space
  | word => .word

/-- The operators between the sets of a bracket. -/
inductive SetOperator where
  | intersection | difference | symmetricDifference
  deriving DecidableEq

/-- What stands between brackets. -/
inductive SetTree where
  | empty (span : Span)
  | literal (l : Literal)
  | range (span : Span) (low high : Literal)
  | ascii (span : Span) (kind : AsciiClass) (negated : Bool)
  | shorthand (span : Span) (kind : Shorthand) (negated : Bool)
  | property (span : Span) (name : String)
  | bracket (span : Span) (negated : Bool) (inner : SetTree)
  | union (span : Span) (items : List SetTree)
  | combine (op : SetOperator) (left right : SetTree)

/-- The part that a set takes. -/
def SetTree.span : SetTree → Span
  | empty span | range span _ _ | ascii span _ _ | shorthand span _ _ | property span _
  | bracket span _ _ | union span _ => span
  | literal l => l.span
  | combine _ left right => ⟨left.span.start, right.span.stop⟩

/-- A regular expression. -/
inductive Tree where
  | empty (span : Span)
  | flags (span : Span) (items : List (Option Flag))
  | literal (l : Literal)
  | dot (span : Span)
  | condition (span : Span) (kind : Condition)
  | shorthand (span : Span) (kind : Shorthand) (negated : Bool)
  | property (span : Span) (name : String)
  | bracket (span : Span) (negated : Bool) (inner : SetTree)
  | repetition (span : Span) (least : Nat) (most : Option Nat) (inner : Tree)
  | group (span : Span) (flags : List (Option Flag)) (inner : Tree)
  | alternation (span : Span) (items : List Tree)
  | concat (span : Span) (items : List Tree)

namespace Tree

/-- The part that an expression takes. -/
def span : Tree → Span
  | empty span | flags span _ | dot span | condition span _ | shorthand span _ _
  | property span _ | bracket span _ _ | repetition span _ _ _ | group span _ _
  | alternation span _ | concat span _ => span
  | literal l => l.span

/-- Expressions in a row. -/
def ofConcat (span : Span) : List Tree → Tree
  | [] => empty span
  | [t] => t
  | items => concat span items

/-- Expressions to choose from. -/
def ofAlternation (span : Span) : List Tree → Tree
  | [] => empty span
  | [t] => t
  | items => alternation span items

end Tree

/-! ### How deep expressions nest -/

/-- The number of levels that an expression may have. -/
def maxNesting : Nat := 250

/-- One level down, which `span` leads to. -/
def deeper (depth : Nat) (span : Span) : Except Flaw Nat :=
  if depth < maxNesting then .ok (depth + 1)
  else .error ⟨.nestedTooDeep maxNesting, span, none⟩

mutual

/-- Refuses a set with too many levels, given the number of those around it. -/
def SetTree.checkDepth (depth : Nat) : SetTree → Except Flaw Unit
  | .bracket span _ inner => do inner.checkDepth (← deeper depth span)
  | .union span items => do SetTree.checkDepths (← deeper depth span) items
  | .combine op left right => do
    let depth ← deeper depth (SetTree.combine op left right).span
    left.checkDepth depth
    right.checkDepth depth
  | _ => .ok ()

/-- Refuses sets with too many levels. -/
def SetTree.checkDepths (depth : Nat) : List SetTree → Except Flaw Unit
  | [] => .ok ()
  | t :: rest => do
    t.checkDepth depth
    SetTree.checkDepths depth rest

end

mutual

/-- Refuses an expression with too many levels, given the number of those
around it. -/
def Tree.checkDepth (depth : Nat) : Tree → Except Flaw Unit
  | .bracket span _ inner => do inner.checkDepth (← deeper depth span)
  | .repetition span _ _ inner => do inner.checkDepth (← deeper depth span)
  | .group span _ inner => do inner.checkDepth (← deeper depth span)
  | .alternation span items => do Tree.checkDepths (← deeper depth span) items
  | .concat span items => do Tree.checkDepths (← deeper depth span) items
  | _ => .ok ()

/-- Refuses expressions with too many levels. -/
def Tree.checkDepths (depth : Nat) : List Tree → Except Flaw Unit
  | [] => .ok ()
  | t :: rest => do
    t.checkDepth depth
    Tree.checkDepths depth rest

end

end BranchCoverage.Pattern
