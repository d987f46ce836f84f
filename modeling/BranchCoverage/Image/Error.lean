/-
What can be wrong with a module image.

The errors of the grammar carry the offset behind the last byte read; those of
an image that breaks off carry its length; a value of the wrong shape carries
no offset.
-/
import BranchCoverage.Decimal.Shortest
import BranchCoverage.Text.Quoted

namespace BranchCoverage.Image

/-- What the reader met where it wanted something else. -/
inductive Met where
  | integer (value : Int)
  /-- An integer below the range of 64 bits. -/
  | wideInteger (value : Int)
  | boolean (value : Bool)
  | float (value : Decimal.Binary)
  | text (value : String)
  | bytes
  | null
  | sequence
  | mapping
  /-- The name of a variant without its value. -/
  | bareVariant
  deriving DecidableEq

/-- What was met, as a message mentions it. -/
def Met.describe : Met → String
  | .integer value => s!"integer `{value}`"
  | .wideInteger value => s!"integer `{value}` as i128"
  | .boolean value => s!"boolean `{value}`"
  | .float value => "floating point `" ++ value.render ++ "`"
  | .text value => "string " ++ Text.quoted value
  | .bytes => "byte array"
  | .null => "null"
  | .sequence => "sequence"
  | .mapping => "map"
  | .bareVariant => "unit variant"

/-- A value that is not what its place wants. -/
inductive Mismatch where
  | type (met : Met) (wanted : String)
  | value (met : Met) (wanted : String)
  /-- A record written as an array of too few elements. -/
  | length (found : Nat) (record : String) (fields : Nat)
  | missingField (name : String)
  | duplicateField (name : String)
  | unknownVariant (name : String) (known : List String)
  deriving DecidableEq

/-- A choice of names. -/
def oneOf : List String → String
  | [] => "there are no variants"
  | [a] => s!"expected `{a}`"
  | [a, b] => s!"expected `{a}` or `{b}`"
  | names => "expected one of " ++ String.intercalate ", " (names.map fun n => s!"`{n}`")

/-- The text of a mismatch. -/
def Mismatch.describe : Mismatch → String
  | .type met wanted => "invalid type: " ++ met.describe ++ ", expected " ++ wanted
  | .value met wanted => "invalid value: " ++ met.describe ++ ", expected " ++ wanted
  | .length found record fields =>
    s!"invalid length {found}, expected struct {record} with {fields} elements"
  | .missingField name => s!"missing field `{name}`"
  | .duplicateField name => s!"duplicate field `{name}`"
  | .unknownVariant name known => s!"unknown variant `{name}`, " ++ oneOf known

/-- A rule of the grammar that is broken. -/
inductive Flaw where
  | lengthOutOfRange
  | invalidUtf8
  /-- A head that has no meaning. -/
  | unassigned
  /-- A head that has no meaning where it stands. -/
  | unexpected
  | trailing
  | tooShort
  | tooLong
  | tooDeep
  deriving DecidableEq

/-- The text of a flaw. -/
def Flaw.describe : Flaw → String
  | .lengthOutOfRange => "length out of range"
  | .invalidUtf8 => "invalid UTF-8"
  | .unassigned => "unassigned type"
  | .unexpected => "unexpected code"
  | .trailing => "trailing data"
  | .tooShort => "array too short"
  | .tooLong => "array too long"
  | .tooDeep => "recursion limit exceeded"

/-- What was being read when the image broke off. -/
inductive Inside where
  | value
  | array
  | map
  deriving DecidableEq

/-- What the image breaks off in, as a message mentions it. -/
def Inside.describe : Inside → String
  | .value => "EOF while parsing a value"
  | .array => "EOF while parsing an array"
  | .map => "EOF while parsing a map"

end BranchCoverage.Image

namespace BranchCoverage

/-- Why a byte sequence is not a module image. -/
inductive ImageError where
  | grammar (flaw : Image.Flaw) (offset : Nat)
  | mismatch (mismatch : Image.Mismatch)
  | ended (inside : Image.Inside) (offset : Nat)
  deriving DecidableEq

namespace ImageError

/-- A text with the offset it is about, the offset 0 standing for none. -/
def located (text : String) (offset : Nat) : String :=
  if offset = 0 then text else text ++ s!" at offset {offset}"

/-- The wording of the error. -/
def message : ImageError → String
  | .grammar flaw offset => located flaw.describe offset
  | .mismatch m => m.describe
  | .ended inside offset => located inside.describe offset

end ImageError

end BranchCoverage
