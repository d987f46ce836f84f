/-
Words of four bytes, the least significant first: the integers of every
protocol here.
-/
namespace BranchCoverage.Word

/-- The bytes of a word. -/
def encode (word : Int32) : List UInt8 :=
  let u := word.toUInt32
  [u.toUInt8, (u >>> 8).toUInt8, (u >>> 16).toUInt8, (u >>> 24).toUInt8]

/-- The word of four bytes. -/
def ofBytes (a b c d : UInt8) : Int32 :=
  (a.toUInt32 ||| (b.toUInt32 <<< 8) ||| (c.toUInt32 <<< 16) ||| (d.toUInt32 <<< 24)).toInt32

/-- The word of bytes, if there are four. -/
def ofList? : List UInt8 → Option Int32
  | [a, b, c, d] => some (ofBytes a b c d)
  | _ => none

end BranchCoverage.Word
