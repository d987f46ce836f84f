/-
Searching a text for a pattern.

A text of `n` characters has `n + 1` places, one before each character and one
at its end.  A set of places is a number whose bit `i` stands for place `i`.
A pattern is understood as a walk: the places that can be reached by matching
it once, beginning at any place of a set.  A text holds a pattern if the walk
from all places leads anywhere.
-/
import BranchCoverage.Pattern.Basic

namespace BranchCoverage.Pattern

/-- The number with the bits that a list tells, the lowest first. -/
def bits : List Bool → Nat
  | [] => 0
  | b :: rest => b.toNat + 2 * bits rest

/-- What a condition is at each place from one on; `before` stands before it. -/
def lookAlong (l : Look) (before : Option Char) : List Char → List Bool
  | [] => [l.holds before none]
  | c :: rest => l.holds before (some c) :: lookAlong l (some c) rest

/-- From the places where a match begins to those where it ends. -/
structure Walk where
  reach : Nat → Nat

namespace Walk

/-- The walk a number of times in a row; it stops early where it leads to the
places it came from. -/
def again (w : Walk) : Nat → Nat → Nat
  | 0, places => places
  | n + 1, places =>
    let further := w.reach places
    if further = places then places else again w n further

/-- The places passed by the walk within a number of times. -/
def upTo (w : Walk) : Nat → Nat → Nat
  | 0, places => places
  | n + 1, places =>
    let further := places ||| w.reach places
    if further = places then places else upTo w n further

end Walk

/-- The walk of a pattern through a text.  Matches do not go back, so as many
rounds as there are places reach all that any number of rounds would. -/
def walk (text : List Char) : Pattern → Walk
  | empty => ⟨id⟩
  | one s =>
    let fitting := bits (text.map s.contains)
    ⟨fun places => (places &&& fitting) <<< 1⟩
  | look l =>
    let fitting := bits (lookAlong l none text)
    ⟨fun places => places &&& fitting⟩
  | seq a b =>
    let first := walk text a
    let second := walk text b
    ⟨fun places => second.reach (first.reach places)⟩
  | alt a b =>
    let left := walk text a
    let right := walk text b
    ⟨fun places => left.reach places ||| right.reach places⟩
  | times p least most =>
    let once := walk text p
    let all := text.length + 1
    ⟨fun places =>
      once.upTo (match most with
        | none => all
        | some most => min (most - least) all) (once.again (min least all) places)⟩

/-- Whether some part of a text matches the pattern. -/
def occursIn (p : Pattern) (text : String) : Bool :=
  let text := text.toList
  (walk text p).reach ((1 <<< (text.length + 1)) - 1) ≠ 0

end BranchCoverage.Pattern
