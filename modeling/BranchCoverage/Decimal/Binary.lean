/-
Binary floating-point numbers, read from their interchange format.

A finite number is `mantissa * 2 ^ exponent` with a sign.  The three formats
that occur differ in the widths of their fields only; a number of a narrower
format is kept as the double-precision number of the same value, so that its
neighbours are those of that format.
-/
namespace BranchCoverage.Decimal

/-- The value of a double-precision number.  A finite one has a mantissa below
`2 ^ 53`, and one from `2 ^ 52` on unless the exponent is the least, -1074. -/
inductive Binary where
  | notANumber
  | infinite (negative : Bool)
  | finite (negative : Bool) (mantissa : Nat) (exponent : Int)
  deriving DecidableEq

/-- The widths of a format's exponent and fraction. -/
structure BinaryFormat where
  exponentBits : Nat
  fractionBits : Nat

/-- The format of two bytes. -/
def half : BinaryFormat := ⟨5, 10⟩
/-- The format of four bytes. -/
def single : BinaryFormat := ⟨8, 23⟩
/-- The format of eight bytes. -/
def double : BinaryFormat := ⟨11, 52⟩

/-- Moves the leading digit of the mantissa to its place in a double-precision
number, or as far as the least exponent lets it move. -/
def Binary.normal (negative : Bool) (mantissa : Nat) (exponent : Int) : Binary :=
  if mantissa = 0 then .finite negative 0 (-1074)
  else
    let room := min (52 - mantissa.log2) (exponent + 1074).toNat
    .finite negative (mantissa <<< room) (exponent - room)

/-- The number with the given bits. -/
def BinaryFormat.decode (format : BinaryFormat) (bits : Nat) : Binary :=
  let fraction := bits % (1 <<< format.fractionBits)
  let field := (bits >>> format.fractionBits) % (1 <<< format.exponentBits)
  let negative := bits.testBit (format.fractionBits + format.exponentBits)
  let bias : Int := (1 <<< (format.exponentBits - 1) : Nat) - 1 + format.fractionBits
  if field = (1 <<< format.exponentBits) - 1 then
    if fraction = 0 then .infinite negative else .notANumber
  else if field = 0 then Binary.normal negative fraction (1 - bias)
  else Binary.normal negative ((1 <<< format.fractionBits) + fraction) (field - bias)

end BranchCoverage.Decimal
