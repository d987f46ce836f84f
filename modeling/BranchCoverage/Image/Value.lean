/-
The values that module images are made of, and how they are written.

A value begins with a head: three bits for its kind, and a number in the
shortest of five widths.  Lengths are written in front of what they count.
-/
import BranchCoverage.Text.Utf8

namespace BranchCoverage.Image

/-- A value of an image. -/
inductive Value where
  | integer (n : Int)
  | boolean (b : Bool)
  | null
  | text (s : String)
  | array (items : List Value)
  | map (entries : List (String × Value))

/-- The last `n` bytes of a number, the most significant first. -/
def bigEndian : Nat → Nat → List UInt8
  | 0, _ => []
  | n + 1, number => UInt8.ofNat (number >>> (8 * n)) :: bigEndian n number

/-- The number that bytes stand for, the most significant first. -/
def ofBigEndian (bytes : List UInt8) : Nat :=
  bytes.foldl (fun number b => 256 * number + b.toNat) 0

/-! ### The kinds of values, each a number -/

/-- Integers from zero on. -/
def unsignedKind : Nat := 0

/-- Integers below zero, by their distance from -1. -/
def negativeKind : Nat := 1

/-- Byte strings. -/
def bytesKind : Nat := 2

/-- Texts. -/
def textKind : Nat := 3

/-- Arrays. -/
def arrayKind : Nat := 4

/-- Maps. -/
def mapKind : Nat := 5

/-- Tags, which say something about the value behind them. -/
def tagKind : Nat := 6

/-- Truth values, nothing, and floating-point numbers. -/
def simpleKind : Nat := 7

/-! ### Writing -/

/-- The head of a value of a kind, with its number. -/
def head (kind number : Nat) : List UInt8 :=
  if number < 24 then [UInt8.ofNat (32 * kind + number)]
  else if number < 1 <<< 8 then UInt8.ofNat (32 * kind + 24) :: bigEndian 1 number
  else if number < 1 <<< 16 then UInt8.ofNat (32 * kind + 25) :: bigEndian 2 number
  else if number < 1 <<< 32 then UInt8.ofNat (32 * kind + 26) :: bigEndian 4 number
  else UInt8.ofNat (32 * kind + 27) :: bigEndian 8 number

/-- A text behind its length. -/
def writeText (s : String) : List UInt8 :=
  head textKind s.utf8ByteSize ++ Text.Utf8.encode s

/-- An integer: from zero on as itself, below zero as its distance from -1. -/
def writeInteger (n : Int) : List UInt8 :=
  if 0 ≤ n then head unsignedKind n.toNat else head negativeKind (-1 - n).toNat

mutual

/-- The bytes of a value. -/
def Value.write : Value → List UInt8
  | .integer n => writeInteger n
  | .boolean b => head simpleKind (if b then 21 else 20)
  | .null => head simpleKind 22
  | .text s => writeText s
  | .array items => head arrayKind items.length ++ writeItems items
  | .map entries => head mapKind entries.length ++ writeEntries entries

/-- The bytes of values one after another. -/
def writeItems : List Value → List UInt8
  | [] => []
  | item :: rest => item.write ++ writeItems rest

/-- The bytes of keys, each with its value behind it. -/
def writeEntries : List (String × Value) → List UInt8
  | [] => []
  | (key, value) :: rest => writeText key ++ (value.write ++ writeEntries rest)

end

end BranchCoverage.Image
