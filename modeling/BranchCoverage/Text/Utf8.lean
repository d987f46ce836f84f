/-
UTF-8 read strictly and read with replacements.

A maximal scan finds how far a byte sequence is well formed and, behind that,
how many bytes belong to the first ill-formed piece.  Strict reading reports
that piece; lossy reading puts one replacement character in its place and
goes on behind it.
-/
namespace BranchCoverage.Text.Utf8

/-- How a byte sequence fails to be UTF-8: the bytes up to `validUpTo` are
well formed, and behind them stand `length` bytes that no continuation can
make a character, or, where there is no length, the beginning of a character
that the input breaks off. -/
structure Flaw where
  validUpTo : Nat
  length : Option Nat
  deriving DecidableEq

/-- The wording of a flaw. -/
def Flaw.message (flaw : Flaw) : String :=
  match flaw.length with
  | some length =>
    s!"invalid utf-8 sequence of {length} bytes from index {flaw.validUpTo}"
  | none => s!"incomplete utf-8 byte sequence from index {flaw.validUpTo}"

/-- What the bytes at one position are. -/
inductive Piece where
  /-- A whole character of so many bytes. -/
  | whole (length : Nat)
  /-- Bytes that cannot begin a character, so many of them. -/
  | broken (length : Nat)
  /-- A character that ends too early, with so many of its bytes present. -/
  | cut (length : Nat)

/-- Whether a byte continues a character. -/
def isContinuation (b : UInt8) : Bool :=
  b &&& 0xc0 == 0x80

/-- The bytes that may follow a leading byte of a three-byte character. -/
def second3 (lead b : UInt8) : Bool :=
  if lead == 0xe0 then 0xa0 ≤ b && b ≤ 0xbf
  else if lead == 0xed then 0x80 ≤ b && b ≤ 0x9f
  else isContinuation b

/-- The bytes that may follow a leading byte of a four-byte character. -/
def second4 (lead b : UInt8) : Bool :=
  if lead == 0xf0 then 0x90 ≤ b && b ≤ 0xbf
  else if lead == 0xf4 then 0x80 ≤ b && b ≤ 0x8f
  else isContinuation b

/-- The piece at the beginning of a byte sequence that begins with `lead`. -/
def piece (lead : UInt8) (rest : List UInt8) : Piece :=
  if lead < 0x80 then .whole 1
  else if 0xc2 ≤ lead && lead ≤ 0xdf then
    match rest with
    | [] => .cut 1
    | b :: _ => if isContinuation b then .whole 2 else .broken 1
  else if 0xe0 ≤ lead && lead ≤ 0xef then
    match rest with
    | [] => .cut 1
    | [b] => if second3 lead b then .cut 2 else .broken 1
    | b :: c :: _ =>
      if !second3 lead b then .broken 1
      else if isContinuation c then .whole 3 else .broken 2
  else if 0xf0 ≤ lead && lead ≤ 0xf4 then
    match rest with
    | [] => .cut 1
    | [b] => if second4 lead b then .cut 2 else .broken 1
    | [b, c] =>
      if !second4 lead b then .broken 1
      else if isContinuation c then .cut 3 else .broken 2
    | b :: c :: d :: _ =>
      if !second4 lead b then .broken 1
      else if !isContinuation c then .broken 2
      else if isContinuation d then .whole 4 else .broken 3
  else .broken 1

/-- Walks over the whole characters at the beginning of `bytes`, of which the
first `skip` bytes belong to the character before, and reports the first flaw
behind them, `index` being the position of the byte at hand. -/
def firstFlaw (skip index : Nat) : List UInt8 → Option Flaw
  | [] => none
  | lead :: rest =>
    match skip with
    | skip + 1 => firstFlaw skip (index + 1) rest
    | 0 =>
      match piece lead rest with
      | .whole length => firstFlaw (length - 1) (index + 1) rest
      | .broken length => some ⟨index, some length⟩
      | .cut _ => some ⟨index, none⟩

/-- The text of a byte sequence, or what is wrong with it. -/
def decode (bytes : List UInt8) : Except Flaw String :=
  match String.fromUTF8? ⟨bytes.toArray⟩ with
  | some text => .ok text
  | none => .error ((firstFlaw 0 0 bytes).getD ⟨0, none⟩)

/-- The bytes of a text. -/
def encode (text : String) : List UInt8 :=
  text.toUTF8.data.toList

/-- Writes the bytes behind `written`, the replacement character in the place
of each ill-formed piece.  The first `skip` bytes belong to the piece before
and are kept or dropped as that piece was. -/
def replaceFlaws (skip : Nat) (keep : Bool) (written : ByteArray) : List UInt8 → ByteArray
  | [] => written
  | lead :: rest =>
    match skip with
    | skip + 1 => replaceFlaws skip keep (if keep then written.push lead else written) rest
    | 0 =>
      match piece lead rest with
      | .whole length => replaceFlaws (length - 1) true (written.push lead) rest
      | .broken length | .cut length =>
        replaceFlaws (length - 1) false (((written.push 0xef).push 0xbf).push 0xbd) rest

/-- The text of a byte sequence, every ill-formed piece of which becomes one
replacement character. -/
def decodeLossy (bytes : ByteArray) : String :=
  match String.fromUTF8? bytes with
  | some text => text
  | none => (String.fromUTF8? (replaceFlaws 0 true ByteArray.empty bytes.data.toList)).getD ""

end BranchCoverage.Text.Utf8
