/-
A small target: a parser of decimal numbers with a probe at every branch site.

It reads an optional minus and digits into a signed 64-bit integer.  A value
that does not fit makes it panic, in the multiplication or in the addition.
-/
import BranchCoverage.Harness
import BranchCoverage.Text.Numeral
import BranchCoverage.Text.Whitespace

namespace BranchCoverage.NumberHarness

/-- How parsing ended. -/
inductive Outcome where
  | value (n : Int)
  /-- The text is no number. -/
  | nothing
  | multiplyOverflow
  | addOverflow
  deriving DecidableEq

/-- The greatest value that fits. -/
def greatest : Nat := (1 <<< 63) - 1

/-- Reads the digits behind `count` digits that have the value `seen`, and
counts the characters looked at. -/
def readDigits (seen count : Nat) : List Char → Nat × Except Outcome Nat
  | [] => (count, .ok seen)
  | c :: rest =>
    match Text.digitValue? c with
    | none => (count + 1, .error .nothing)
    | some digit =>
      if greatest < seen * 10 then (count + 1, .error .multiplyOverflow)
      else if greatest < seen * 10 + digit then (count + 1, .error .addOverflow)
      else readDigits (seen * 10 + digit) (count + 1) rest

/-- Splits a minus off. -/
def splitSign : List Char → Bool × List Char
  | '-' :: digits => (true, digits)
  | digits => (false, digits)

/-! ### The identifiers of the branch sites -/

/-- The site at the entry. -/
def enterSite : UInt32 := 0x17

/-- The site behind a minus. -/
def minusSite : UInt32 := 0x4c

/-- The site where there is no minus. -/
def plainSite : UInt32 := 0x91

/-- The site where no digits follow. -/
def emptySite : UInt32 := 0x2e

/-- The site of every character behind the sign. -/
def digitSite : UInt32 := 0xb3

/-- The site where the value is negated. -/
def negateSite : UInt32 := 0xd8

/-! ### Parsing -/

/-- Parses a text: the sites that are hit, in order, and the outcome. -/
def parse (text : String) : List UInt32 × Outcome :=
  let (negative, digits) := splitSign (Text.trimmed text.toList)
  let before := [enterSite, if negative then minusSite else plainSite]
  if digits.isEmpty then (before ++ [emptySite], .nothing)
  else
    let (count, result) := readDigits 0 0 digits
    let hits := before ++ List.replicate count digitSite
    match result with
    | .error outcome => (hits, outcome)
    | .ok value =>
      if negative then (hits ++ [negateSite], .value (-(value : Int)))
      else (hits, .value value)

/-- The name of the method that the sites are in. -/
def label : String := "System.Int64 Demo.Number::Parse(System.String)"

/-- Parsing as an execution. -/
def execution (text : String) : Execution :=
  let (sites, outcome) := parse text
  { hits := sites.map (.call .counter · label)
    panic := match outcome with
      | .value _ | .nothing => none
      | .multiplyOverflow => some (.text "attempt to multiply with overflow")
      | .addOverflow => some (.text "attempt to add with overflow") }

/-- The value that parsing gives. -/
def value? (text : String) : Option Int :=
  match (parse text).2 with
  | .value n => some n
  | _ => none

end BranchCoverage.NumberHarness
