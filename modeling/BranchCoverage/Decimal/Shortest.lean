/-
The shortest decimal of a floating-point number.

Of the decimals that lie between the midpoints to the neighbouring numbers
(the midpoints included when the mantissa is even), one with the fewest digits
is taken, and of those the one nearest to the number, or the greater one if two
are equally near.  It is found on decimal grids, from the coarsest on: if any
point of a grid lies in the interval, one of the two points around the number
does.
-/
import BranchCoverage.Decimal.Binary

namespace BranchCoverage.Decimal

/-- The decimal `digits * 10 ^ exponent`. -/
structure Scaled where
  digits : Nat
  exponent : Int
  deriving DecidableEq

/-- The numbers that read back as a given one: those between `low` and `high`,
in units of `1 / unit`, the ends included if `closed`.  `value` is the number
itself. -/
structure Neighbourhood where
  low : Nat
  value : Nat
  high : Nat
  unit : Nat
  closed : Bool

/-- The neighbourhood of `mantissa * 2 ^ exponent`, a positive number.  Below
the least mantissa of a binade the neighbour is half as far away. -/
def Neighbourhood.of (mantissa : Nat) (exponent : Int) : Neighbourhood :=
  let below := if mantissa = 1 <<< 52 ∧ exponent ≠ -1074 then 1 else 2
  let up := 1 <<< (exponent - 2).toNat
  { low := (4 * mantissa - below) * up
    value := 4 * mantissa * up
    high := (4 * mantissa + 2) * up
    unit := 1 <<< (2 - exponent).toNat
    closed := mantissa % 2 = 0 }

/-- The point of the neighbourhood nearest to the number on the grid of the
multiples of `10 ^ exponent`, if there is one. -/
def Neighbourhood.onGrid? (n : Neighbourhood) (exponent : Int) : Option Scaled :=
  let fine := Nat.pow 10 (-exponent).toNat
  let step := Nat.pow 10 exponent.toNat * n.unit
  let inside (d : Nat) : Bool :=
    if n.closed then n.low * fine ≤ d * step && d * step ≤ n.high * fine
    else n.low * fine < d * step && d * step < n.high * fine
  let under := n.value * fine / step
  let past := n.value * fine - under * step
  match inside under, inside (under + 1) with
  | true, true => some ⟨if past * 2 < step then under else under + 1, exponent⟩
  | true, false => some ⟨under, exponent⟩
  | false, true => some ⟨under + 1, exponent⟩
  | false, false => none

/-- The exponent of ten of the leading digit of the number. -/
def Neighbourhood.magnitude (n : Neighbourhood) : Int :=
  if n.unit ≤ n.value then ((Nat.toDigits 10 (n.value / n.unit)).length : Int) - 1
  else
    match (List.range 330).find? fun places => n.unit ≤ n.value * Nat.pow 10 places with
    | some places => -places
    | none => -330

/-- The shortest decimal in the neighbourhood. -/
def Neighbourhood.shortest (n : Neighbourhood) : Scaled :=
  let magnitude := n.magnitude
  match (List.range 18).findSome? fun (k : Nat) => n.onGrid? (magnitude + 1 - k) with
  | some decimal => decimal
  | none => ⟨0, 0⟩

/-- A decimal written out, with at least one digit on both sides of the point. -/
def Scaled.positional (d : Scaled) : List Char :=
  let digits := Nat.toDigits 10 d.digits
  let places := (-d.exponent).toNat
  if places = 0 then
    digits ++ List.replicate d.exponent.toNat '0' ++ ['.', '0']
  else
    let padded := List.replicate (places + 1 - digits.length) '0' ++ digits
    padded.take (padded.length - places) ++ '.' :: padded.drop (padded.length - places)

/-- A floating-point number written out with the fewest digits that read back. -/
def Binary.render : Binary → String
  | .notANumber => "NaN"
  | .infinite negative => if negative then "-inf" else "inf"
  | .finite negative mantissa exponent =>
    let magnitude :=
      if mantissa = 0 then ['0', '.', '0']
      else (Neighbourhood.of mantissa exponent).shortest.positional
    String.ofList (if negative then '-' :: magnitude else magnitude)

end BranchCoverage.Decimal
