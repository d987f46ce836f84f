/-
Patterns from regular expressions.

A pattern may take ten mebibytes, counted in the states of an automaton that
reads it byte by byte.
-/
import BranchCoverage.Pattern.Meaning
import BranchCoverage.Pattern.Search

namespace BranchCoverage.Pattern

/-! ### The room a pattern takes -/

/-- The bytes for a state of the automaton. -/
def stateSize : Nat := 32

/-- The number of runs of equal answers that begin with a yes. -/
def runs (before : Bool) : List Bool → Nat
  | [] => 0
  | b :: rest => (b && !before).toNat + runs b rest

namespace CharSet

/-- Whether a set may hold characters outside ASCII. -/
def isWide : CharSet → Bool
  | none => false
  | range _ high => 0x7f < high
  | union a b => a.isWide || b.isWide
  | inter a b => a.isWide && b.isWide
  | compl _ => true
  | eitherCase a => a.isWide

/-- The bytes for a set. -/
def room (s : CharSet) : Nat :=
  let narrow := 2 * stateSize + 8 * runs false ((List.range 0x80).map s.holds)
  match s with
  | range low high =>
    if low = high then stateSize * (Char.ofNat low).utf8Size
    else if s.isWide then narrow + 14 * stateSize else narrow
  | _ => if s.isWide then narrow + 14 * stateSize else narrow

end CharSet

/-- The bytes for a pattern. -/
def room : Pattern → Nat
  | empty | look _ => stateSize
  | one s => s.room
  | seq a b => a.room + b.room
  | alt a b => a.room + b.room + stateSize
  | times p least none => max least 1 * p.room + 2 * stateSize
  | times p least (some most) =>
    least * p.room + (most - least) * (p.room + stateSize + 8) + stateSize

/-- The bytes that a pattern may take. -/
def maxRoom : Nat := 10 <<< 20

/-! ### Reading -/

/-- Why a text is no pattern. -/
inductive PatternError where
  | flaw (f : Flaw) (text : String)
  /-- The pattern asks for the words of all scripts. -/
  | needsWords
  | tooBig
  deriving DecidableEq

/-- The error in words. -/
def PatternError.message : PatternError → String
  | flaw f text => f.report text
  | needsWords => "error building NFA"
  | tooBig => s!"Compiled regex exceeds size limit of {maxRoom} bytes."

/-- The pattern that a regular expression asks for. -/
def ofText (text : String) : Except PatternError Pattern :=
  match do (← Tree.parse text).read {} with
  | .error f => .error (.flaw f text)
  | .ok (r, _) =>
    if r.needsWords then .error .needsWords
    else if maxRoom < r.pattern.room then .error .tooBig
    else .ok r.pattern

end BranchCoverage.Pattern
