/-
Sets of characters, as patterns write them: built from ranges by union,
intersection and complement.
-/
namespace BranchCoverage.Pattern

/-- A set of characters, given by their code points. -/
inductive CharSet where
  | none
  | range (low high : Nat)
  | union (a b : CharSet)
  | inter (a b : CharSet)
  | compl (a : CharSet)
  /-- The set with the other case of each ASCII letter in it. -/
  | eitherCase (a : CharSet)
  deriving DecidableEq

/-- The other case of an ASCII letter; any other code point stays. -/
def otherCase (n : Nat) : Nat :=
  if 0x41 ≤ n ∧ n ≤ 0x5a then n + 0x20
  else if 0x61 ≤ n ∧ n ≤ 0x7a then n - 0x20
  else n

namespace CharSet

/-- Whether a code point is in the set. -/
def holds : CharSet → Nat → Bool
  | none, _ => false
  | range low high, n => low ≤ n && n ≤ high
  | union a b, n => a.holds n || b.holds n
  | inter a b, n => a.holds n && b.holds n
  | compl a, n => !a.holds n
  | eitherCase a, n => a.holds n || a.holds (otherCase n)

/-- Whether a character is in the set. -/
def contains (s : CharSet) (c : Char) : Bool :=
  s.holds c.toNat

/-- The set of one character. -/
def single (c : Char) : CharSet :=
  range c.toNat c.toNat

/-- The union of ranges. -/
def ofRanges (ranges : List (Nat × Nat)) : CharSet :=
  ranges.foldr (fun (low, high) s =>
    if s = none then range low high else union (range low high) s) none

/-- Either of two sets; the empty set adds nothing. -/
def join (a b : CharSet) : CharSet :=
  if a = none then b else if b = none then a else union a b

/-- Both of two sets; nothing is in both if one is empty. -/
def meet (a b : CharSet) : CharSet :=
  if a = none ∨ b = none then none else inter a b

/-- One set without another. -/
def minus (a b : CharSet) : CharSet :=
  if a = none ∨ b = none then a else inter a (compl b)

/-- Whether no code point of a byte outside ASCII is in the set. -/
def isAscii (s : CharSet) : Bool :=
  (List.range 0x80).all fun i => !s.holds (0x80 + i)

end CharSet

/-! ### Classes of ASCII characters -/

/-- A class of ASCII characters with a name. -/
inductive AsciiClass where
  | alnum | alpha | ascii | blank | cntrl | digit | graph | lower | print | punct | space
  | upper | word | xdigit
  deriving DecidableEq

namespace AsciiClass

/-- The classes and their names. -/
def names : List (String × AsciiClass) :=
  [("alnum", alnum), ("alpha", alpha), ("ascii", ascii), ("blank", blank), ("cntrl", cntrl),
    ("digit", digit), ("graph", graph), ("lower", lower), ("print", print), ("punct", punct),
    ("space", space), ("upper", upper), ("word", word), ("xdigit", xdigit)]

/-- The class with a name. -/
def ofName? (name : String) : Option AsciiClass :=
  names.lookup name

/-- The ranges of code points in a class. -/
def ranges : AsciiClass → List (Nat × Nat)
  | alnum => [(0x30, 0x39), (0x41, 0x5a), (0x61, 0x7a)]
  | alpha => [(0x41, 0x5a), (0x61, 0x7a)]
  | ascii => [(0x00, 0x7f)]
  | blank => [(0x09, 0x09), (0x20, 0x20)]
  | cntrl => [(0x00, 0x1f), (0x7f, 0x7f)]
  | digit => [(0x30, 0x39)]
  | graph => [(0x21, 0x7e)]
  | lower => [(0x61, 0x7a)]
  | print => [(0x20, 0x7e)]
  | punct => [(0x21, 0x2f), (0x3a, 0x40), (0x5b, 0x60), (0x7b, 0x7e)]
  | space => [(0x09, 0x0d), (0x20, 0x20)]
  | upper => [(0x41, 0x5a)]
  | word => [(0x30, 0x39), (0x41, 0x5a), (0x5f, 0x5f), (0x61, 0x7a)]
  | xdigit => [(0x30, 0x39), (0x41, 0x46), (0x61, 0x66)]

/-- The characters of a class. -/
def set (k : AsciiClass) : CharSet :=
  CharSet.ofRanges k.ranges

end AsciiClass

end BranchCoverage.Pattern
