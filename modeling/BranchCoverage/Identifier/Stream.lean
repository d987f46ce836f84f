/-
The pseudorandom words that branch identifiers are taken from.

A seed is stretched to a key of eight words by a permuted congruential
generator, and the key drives ChaCha with twelve rounds: block `n` of sixteen
words is the block function at counter `n`, with a zero nonce.
-/
namespace BranchCoverage.Identifier

/-- A source of 32-bit words, each drawn once. -/
class WordSource (ω : Type) where
  next : ω → UInt32 × ω

/-! ### Key stretching -/

/-- A word turned right by some of its 32 places. -/
def rotateRight (x n : UInt32) : UInt32 :=
  (x >>> n) ||| (x <<< (32 - n))

/-- A word turned left by some of its 32 places. -/
def rotateLeft (x n : UInt32) : UInt32 :=
  (x <<< n) ||| (x >>> (32 - n))

/-- One step of the congruential generator. -/
def stretchStep (state : UInt64) : UInt64 :=
  state * 6364136223846793005 + 11634580027462260723

/-- The word a state of the congruential generator stands for. -/
def stretchWord (state : UInt64) : UInt32 :=
  let mixed := (((state >>> 18) ^^^ state) >>> 27).toUInt32
  let turn := (state >>> 59).toUInt32
  if turn = 0 then mixed else rotateRight mixed turn

/-- Words of key material behind a state. -/
def stretch : Nat → UInt64 → List UInt32
  | 0, _ => []
  | n + 1, state => stretchWord (stretchStep state) :: stretch n (stretchStep state)

/-! ### The block function -/

/-- One row of the four by four matrix of words. -/
structure Row where
  a : UInt32
  b : UInt32
  c : UInt32
  d : UInt32

namespace Row

/-- Combines two rows word by word. -/
def zip (f : UInt32 → UInt32 → UInt32) (r s : Row) : Row :=
  ⟨f r.a s.a, f r.b s.b, f r.c s.c, f r.d s.d⟩

/-- Changes every word. -/
def map (f : UInt32 → UInt32) (r : Row) : Row :=
  ⟨f r.a, f r.b, f r.c, f r.d⟩

/-- Moves every word one column to the left. -/
def shift (r : Row) : Row :=
  ⟨r.b, r.c, r.d, r.a⟩

/-- The words of a row. -/
def toList (r : Row) : List UInt32 :=
  [r.a, r.b, r.c, r.d]

end Row

/-- The matrix of words that the rounds work on. -/
structure Block where
  first : Row
  second : Row
  third : Row
  fourth : Row

namespace Block

/-- The quarter round, on all four columns at once. -/
def columns (m : Block) : Block :=
  let first := m.first.zip (· + ·) m.second
  let fourth := (m.fourth.zip (· ^^^ ·) first).map (rotateLeft · 16)
  let third := m.third.zip (· + ·) fourth
  let second := (m.second.zip (· ^^^ ·) third).map (rotateLeft · 12)
  let first := first.zip (· + ·) second
  let fourth := (fourth.zip (· ^^^ ·) first).map (rotateLeft · 8)
  let third := third.zip (· + ·) fourth
  let second := (second.zip (· ^^^ ·) third).map (rotateLeft · 7)
  ⟨first, second, third, fourth⟩

/-- Brings the diagonals into the columns. -/
def skew (m : Block) : Block :=
  ⟨m.first, m.second.shift, m.third.shift.shift, m.fourth.shift.shift.shift⟩

/-- Brings the columns back into the diagonals. -/
def unskew (m : Block) : Block :=
  ⟨m.first, m.second.shift.shift.shift, m.third.shift.shift, m.fourth.shift⟩

/-- A round on the columns and one on the diagonals. -/
def doubleRound (m : Block) : Block :=
  m.columns.skew.columns.unskew

/-- Word by word sum. -/
def add (m n : Block) : Block :=
  ⟨m.first.zip (· + ·) n.first, m.second.zip (· + ·) n.second,
    m.third.zip (· + ·) n.third, m.fourth.zip (· + ·) n.fourth⟩

/-- The words of a matrix, row by row. -/
def toList (m : Block) : List UInt32 :=
  m.first.toList ++ m.second.toList ++ m.third.toList ++ m.fourth.toList

/-- Twelve rounds, and the matrix they began with added. -/
def scramble (m : Block) : Block :=
  let m2 := m.doubleRound.doubleRound
  let m4 := m2.doubleRound.doubleRound
  m4.doubleRound.doubleRound.add m

end Block

/-! ### The stream -/

/-- A position in a key's stream of words: the words of the current block not
drawn yet, and the number of the next block. -/
structure Stream where
  low : Row
  high : Row
  block : UInt64
  pending : List UInt32

namespace Stream

/-- The beginning of the stream of a seed. -/
def ofSeed (seed : UInt64) : Stream :=
  match stretch 8 seed with
  | [a, b, c, d, e, f, g, h] => ⟨⟨a, b, c, d⟩, ⟨e, f, g, h⟩, 0, []⟩
  | _ => ⟨⟨0, 0, 0, 0⟩, ⟨0, 0, 0, 0⟩, 0, []⟩

/-- The words of the next block. -/
def blockWords (s : Stream) : List UInt32 :=
  (Block.scramble
    ⟨⟨0x61707865, 0x3320646e, 0x79622d32, 0x6b206574⟩, s.low, s.high,
      ⟨s.block.toUInt32, (s.block >>> 32).toUInt32, 0, 0⟩⟩).toList

/-- Draws the next word. -/
def next (s : Stream) : UInt32 × Stream :=
  match s.pending with
  | word :: pending => (word, { s with pending })
  | [] =>
    match s.blockWords with
    | word :: pending => (word, { s with block := s.block + 1, pending })
    | [] => (0, s)

instance : WordSource Stream where
  next := next

end Stream

end BranchCoverage.Identifier
