/-
Reading an image: positions, heads, and the tokens that values begin with.

A reader gives a value and the position behind it, or the first error it
meets.  Every array, map, variant and tag that is entered takes one level of
nesting; `depth` is the number of levels left.
-/
import BranchCoverage.Image.Error
import BranchCoverage.Image.Value

namespace BranchCoverage.Image

/-- A position in an image: how many bytes are behind it, and those ahead. -/
structure Position where
  offset : Nat
  rest : List UInt8

/-- A computation that reads on from a position. -/
abbrev Reader (α : Type) := StateT Position (Except ImageError) α

/-- The number of levels that values may nest. -/
def maxDepth : Nat := 127

namespace Reader

variable {α σ : Type}

/-! ### Bytes -/

/-- Refuses the value read last. -/
def mismatch (m : Mismatch) : Reader α :=
  fun _ => .error (.mismatch m)

/-- Refuses the image at this position. -/
def grammar (flaw : Flaw) : Reader α :=
  fun p => .error (.grammar flaw p.offset)

/-- Reports that the image breaks off. -/
def ended (inside : Inside) : Reader α :=
  fun p => .error (.ended inside (p.offset + p.rest.length))

/-- The next byte, left where it is. -/
def peek : Reader (Option UInt8) :=
  fun p => .ok (p.rest.head?, p)

/-- The next byte. -/
def byte (inside : Inside := .value) : Reader UInt8 := fun p =>
  match p.rest with
  | [] => .error (.ended inside (p.offset + p.rest.length))
  | b :: rest => .ok (b, ⟨p.offset + 1, rest⟩)

/-- The next bytes, so many of them. -/
def bytes (n : Nat) : Reader (List UInt8) := fun p =>
  let taken := p.rest.take n
  if taken.length = n then .ok (taken, ⟨p.offset + n, p.rest.drop n⟩)
  else .error (.ended .value (p.offset + p.rest.length))

/-- A number in so many bytes. -/
def number (n : Nat) : Reader Nat := do
  return ofBigEndian (← bytes n)

/-- Repeats a step while it asks for more, `limit` times at most. -/
def repeatWhile (step : σ → Reader (σ × Bool)) : Nat → σ → Reader σ
  | 0, s => pure s
  | limit + 1, s => do
    let (s, more) ← step s
    if more then repeatWhile step limit s else pure s

/-- Repeats a step while it asks for more.  Every step is to take a byte at
least, so what is left of the image bounds their number. -/
def repeatFully (step : σ → Reader (σ × Bool)) (s : σ) : Reader σ :=
  fun p => repeatWhile step (p.rest.length + 1) s p

end Reader

/-! ### Heads -/

/-- How many elements an array or map has: a count, or as many as come before
the closing byte. -/
inductive Extent where
  | counted (n : Nat)
  | open

/-- The head of a value. -/
inductive Head where
  | unsigned (n : Nat)
  | negative (n : Nat)
  | bytes (extent : Extent)
  | text (extent : Extent)
  | array (extent : Extent)
  | map (extent : Extent)
  | tag
  | boolean (b : Bool)
  | null
  | float (value : Decimal.Binary)

namespace Reader

/-- The number of a head whose low five bits are `info`. -/
def argument (info : Nat) : Reader Nat :=
  if info < 24 then pure info
  else if info = 24 then number 1
  else if info = 25 then number 2
  else if info = 26 then number 4
  else if info = 27 then number 8
  else grammar .unassigned

/-- The length in a head, or the mark that there is none. -/
def extent (info : Nat) : Reader Extent :=
  if info = 31 then pure .open else .counted <$> argument info

/-- The head of a simple value. -/
def simple (info : Nat) : Reader Head :=
  if info = 20 then pure (.boolean false)
  else if info = 21 then pure (.boolean true)
  else if info = 22 ∨ info = 23 then pure .null
  else if info = 25 then (.float ∘ Decimal.half.decode) <$> number 2
  else if info = 26 then (.float ∘ Decimal.single.decode) <$> number 4
  else if info = 27 then (.float ∘ Decimal.double.decode) <$> number 8
  else if info = 31 then grammar .unexpected
  else grammar .unassigned

/-- The head of the next value. -/
def head : Reader Head := do
  let first := (← byte).toNat
  let kind := first / 32
  let info := first % 32
  if kind = unsignedKind then .unsigned <$> argument info
  else if kind = negativeKind then .negative <$> argument info
  else if kind = bytesKind then .bytes <$> extent info
  else if kind = textKind then .text <$> extent info
  else if kind = arrayKind then .array <$> extent info
  else if kind = mapKind then .map <$> extent info
  else if kind = tagKind then (fun _ => .tag) <$> argument info
  else simple info

/-! ### Strings -/

/-- The next piece of a string that comes in pieces of one kind, in front of the
pieces before it, or the end of the string. -/
def chunk (kind : Nat) (pieces : List (List UInt8)) : Reader (List (List UInt8) × Bool) := do
  let first := (← byte).toNat
  if first = 0xff then pure (pieces, false)
  else if first / 32 = kind ∧ first % 32 < 28 then
    let piece ← bytes (← argument (first % 32))
    pure (piece :: pieces, true)
  else grammar .unexpected

/-- The bytes of a string that comes in pieces of one kind. -/
def chunks (kind : Nat) : Reader (List UInt8) := do
  let pieces ← repeatFully (chunk kind) []
  pure pieces.reverse.flatten

/-- The bytes of a byte string. -/
def byteString : Extent → Reader (List UInt8)
  | .counted n => bytes n
  | .open => chunks bytesKind

/-- The text of bytes that end at this position. -/
def decodeText (content : List UInt8) : Reader String := fun p =>
  match Text.Utf8.decode content with
  | .ok text => .ok (text, p)
  | .error flaw =>
    .error (.grammar .invalidUtf8 (p.offset - (content.length - flaw.validUpTo)))

/-- The text of a text string. -/
def textString : Extent → Reader String
  | .counted n => do
    let content ← fun p =>
      if 1 <<< 64 ≤ p.offset + n then grammar .lengthOutOfRange p else bytes n p
    decodeText content
  | .open => do
    let content ← chunks textKind
    decodeText content

end Reader

/-! ### Tokens -/

/-- What a value is: all of a simple one, the beginning of a nested one with
the levels left inside it. -/
inductive Token where
  | integer (n : Int)
  | wideInteger (n : Int)
  | boolean (b : Bool)
  | null
  | float (value : Decimal.Binary)
  | bytes (content : List UInt8)
  | text (content : String)
  | sequence (extent : Extent) (depth : Nat)
  | mapping (extent : Extent) (depth : Nat)

/-- The token as a message mentions it. -/
def Token.met : Token → Met
  | .integer n => .integer n
  | .wideInteger n => .wideInteger n
  | .boolean b => .boolean b
  | .null => .null
  | .float value => .float value
  | .bytes _ => .bytes
  | .text content => .text content
  | .sequence _ _ => .sequence
  | .mapping _ _ => .mapping

namespace Reader

variable {α σ : Type}

/-- Goes one level deeper. -/
def enter (depth : Nat) (inside : Nat → Reader α) : Reader α :=
  match depth with
  | 0 => grammar .tooDeep
  | depth + 1 => inside depth

/-- The token of a value whose head has been read, tags apart. -/
def tokenOf (depth : Nat) : Head → Reader Token
  | .unsigned n => pure (.integer n)
  | .negative n =>
    pure (if n < 1 <<< 63 then .integer (-1 - (n : Int)) else .wideInteger (-1 - (n : Int)))
  | .bytes extent => .bytes <$> byteString extent
  | .text extent => .text <$> textString extent
  | .array extent => enter depth fun depth => pure (.sequence extent depth)
  | .map extent => enter depth fun depth => pure (.mapping extent depth)
  | .tag => grammar .tooDeep
  | .boolean b => pure (.boolean b)
  | .null => pure .null
  | .float value => pure (.float value)

/-- The next token.  Tags in front of a value are passed over. -/
def token : Nat → Reader Token
  | 0 => do tokenOf 0 (← head)
  | depth + 1 => do
    match ← head with
    | .tag => token depth
    | h => tokenOf (depth + 1) h

/-- Refuses a token. -/
def unwanted (t : Token) (wanted : String) : Reader α :=
  mismatch (.type t.met wanted)

end Reader

/-! ### Elements -/

namespace Extent

variable {σ : Type}

/-- Whether another element follows, and what is left behind it. -/
def next? (inside : Inside) : Extent → Reader (Option Extent)
  | .counted 0 => pure none
  | .counted (n + 1) => pure (some (.counted n))
  | .open => do
    match ← Reader.peek with
    | none => Reader.ended inside
    | some b => pure (if b = 0xff then none else some .open)

/-- The end of an array or map. -/
def close (inside : Inside) : Extent → Reader Unit
  | .counted 0 => pure ()
  | .counted (_ + 1) => Reader.grammar .trailing
  | .open => do
    if (← Reader.byte inside) = 0xff then pure () else Reader.grammar .trailing

/-- Applies a step so many times. -/
def times (step : σ → Reader σ) : Nat → σ → Reader σ
  | 0, s => pure s
  | n + 1, s => do times step n (← step s)

/-- Applies a step to every element, up to the end of the array or map. -/
def fold (inside : Inside) (step : σ → Reader σ) : Extent → σ → Reader σ
  | .counted n, s => times step n s
  | .open, s => do
    let s ← Reader.repeatFully (fun s => do
      match ← Extent.open.next? inside with
      | none => pure (s, false)
      | some _ => pure (← step s, true)) s
    Extent.open.close inside
    pure s

end Extent

namespace Reader

/-- Reads a value of any kind and forgets it. -/
def ignored : Nat → Nat → Reader Unit
  | 0, _ => grammar .tooDeep
  | limit + 1, depth => do
    match ← token depth with
    | .sequence extent depth => extent.fold .array (fun _ => ignored limit depth) ()
    | .mapping extent depth =>
      extent.fold .map (fun _ => do ignored limit depth; ignored limit depth) ()
    | _ => pure ()

/-- Reads a value of any kind and forgets it. -/
def ignore (depth : Nat) : Reader Unit :=
  ignored (depth + 1) depth

end Reader

end BranchCoverage.Image
