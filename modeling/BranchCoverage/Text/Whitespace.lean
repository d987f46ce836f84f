/-
White space as the Unicode property `White_Space` has it, and the cut of it
from both ends of a text.
-/
namespace BranchCoverage.Text

/-- The characters with the property `White_Space`. -/
def isSpace (c : Char) : Bool :=
  let n := c.toNat
  (9 ≤ n && n ≤ 13) || n == 0x20 || n == 0x85 || n == 0xa0 || n == 0x1680 ||
    (0x2000 ≤ n && n ≤ 0x200a) || n == 0x2028 || n == 0x2029 || n == 0x202f ||
    n == 0x205f || n == 0x3000

/-- The characters without the white space in front of them and behind them. -/
def trimmed (cs : List Char) : List Char :=
  ((cs.dropWhile isSpace).reverse.dropWhile isSpace).reverse

/-- The text without the white space in front of it and behind it. -/
def trim (s : String) : String :=
  String.ofList (trimmed s.toList)

end BranchCoverage.Text
