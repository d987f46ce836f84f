/-
Decimal numerals: digits, with a sign in front of them if there is one, and
nothing else.
-/
namespace BranchCoverage.Text

/-- The value of a decimal digit. -/
def digitValue? (c : Char) : Option Nat :=
  if c.isDigit then some (c.toNat - '0'.toNat) else none

/-- The value of a run of decimal digits that follows digits of value `seen`. -/
def digitsAfter (seen : Nat) : List Char → Option Nat
  | [] => some seen
  | c :: rest =>
    match digitValue? c with
    | some d => digitsAfter (10 * seen + d) rest
    | none => none

/-- The value of a text that consists of decimal digits, at least one. -/
def digits? : List Char → Option Nat
  | [] => none
  | cs => digitsAfter 0 cs

/-- The value of a numeral with or without a sign. -/
def numeral? : List Char → Option Int
  | '-' :: cs => (digits? cs).map fun n => -(n : Int)
  | '+' :: cs => (digits? cs).map Int.ofNat
  | cs => (digits? cs).map Int.ofNat

/-- The value of a numeral that lies between two bounds. -/
def numeralWithin? (low high : Int) (s : String) : Option Int :=
  (numeral? s.toList).filter fun n => low ≤ n && n ≤ high

end BranchCoverage.Text
