/-
Codecs: how a type is written as a value, and read back.

A codec reads more than it writes.  It takes integers of any width, byte
strings for texts, and fields in any order or without their names.
-/
import BranchCoverage.Image.Reader

namespace BranchCoverage.Image

/-- How values of a type are written and read.  `absent` is what a record
field that is not there stands for. -/
structure Codec (α : Type) where
  toValue : α → Value
  read : Nat → Reader α
  absent : Option α := none

namespace Codec

variable {α : Type}

/-! ### Simple values -/

/-- A text, which may also be written as bytes. -/
def text : Codec String where
  toValue := .text
  read depth := do
    match ← Reader.token depth with
    | .text content => pure content
    | .bytes content =>
      match Text.Utf8.decode content with
      | .ok s => pure s
      | .error _ => Reader.mismatch (.value .bytes "a string")
    | t => Reader.unwanted t "a string"

/-- A truth value. -/
def boolean : Codec Bool where
  toValue := .boolean
  read depth := do
    match ← Reader.token depth with
    | .boolean b => pure b
    | t => Reader.unwanted t "a boolean"

/-- An integer of a range, whose name messages use. -/
def readInteger (name : String) (low high : Int) (depth : Nat) : Reader Int := do
  match ← Reader.token depth with
  | .integer n =>
    if low ≤ n ∧ n ≤ high then pure n else Reader.mismatch (.value (.integer n) name)
  | t => Reader.unwanted t name

/-- A natural number below `2 ^ 16`. -/
def uint16 : Codec UInt16 where
  toValue n := .integer n.toNat
  read depth := (fun n => UInt16.ofNat n.toNat) <$> readInteger "u16" 0 0xffff depth

/-- A natural number below `2 ^ 32`. -/
def uint32 : Codec UInt32 where
  toValue n := .integer n.toNat
  read depth := (fun n => UInt32.ofNat n.toNat) <$> readInteger "u32" 0 0xffffffff depth

/-- An integer from `-2 ^ 31` to below `2 ^ 31`. -/
def int32 : Codec Int32 where
  toValue n := .integer n.toInt
  read depth := Int32.ofInt <$> readInteger "i32" (-0x80000000) 0x7fffffff depth

/-- The index of an instruction. -/
def index : Codec Nat where
  toValue n := .integer n
  read depth := Int.toNat <$> readInteger "usize" 0 0xffffffffffffffff depth

/-! ### Composite values -/

/-- A value or nothing. -/
def optional (c : Codec α) : Codec (Option α) where
  toValue
    | none => .null
    | some x => c.toValue x
  read depth := do
    if (← Reader.peek) = some 0xf6 then
      let _ ← Reader.byte
      pure none
    else some <$> c.read depth
  absent := some none

/-- Values one after another. -/
def list (c : Codec α) : Codec (List α) where
  toValue xs := .array (xs.map c.toValue)
  read depth := do
    match ← Reader.token depth with
    | .sequence extent depth =>
      let reversed ← extent.fold .array (fun xs => return (← c.read depth) :: xs) []
      pure reversed.reverse
    | t => Reader.unwanted t "a sequence"

end Codec

/-! ### Records -/

/-- The fields of a record, in order, each with the codec of its type. -/
inductive Fields : List Type → Type 1
  | nil : Fields []
  | cons {α : Type} {αs : List Type} (name : String) (codec : Codec α) (rest : Fields αs) :
      Fields (α :: αs)

/-- A value for every field. -/
def Row : List Type → Type
  | [] => Unit
  | α :: αs => α × Row αs

/-- Values for the fields read so far. -/
def Slots : List Type → Type
  | [] => Unit
  | α :: αs => Option α × Slots αs

/-- Nothing read yet. -/
def Slots.empty : (αs : List Type) → Slots αs
  | [] => ()
  | _ :: αs => (none, Slots.empty αs)

namespace Fields

/-- The names of the fields. -/
def names : {αs : List Type} → Fields αs → List String
  | _, .nil => []
  | _, .cons name _ rest => name :: rest.names

/-- The fields with their values, as they are written. -/
def entries : {αs : List Type} → Fields αs → Row αs → List (String × Value)
  | _, .nil, _ => []
  | _, .cons name codec rest, (x, row) => (name, codec.toValue x) :: rest.entries row

/-- Reads fields without names, `found` of them being read already. -/
def readRow (record : String) (count : Nat) (depth : Nat) :
    {αs : List Type} → Fields αs → Nat → Extent → Reader (Row αs × Extent)
  | _, .nil, _, extent => pure ((), extent)
  | _, .cons _ codec rest, found, extent => do
    match ← extent.next? .array with
    | none => Reader.mismatch (.length found record count)
    | some extent =>
      let x ← codec.read depth
      let (row, extent) ← rest.readRow record count depth (found + 1) extent
      pure ((x, row), extent)

/-- Reads the value of a field into its slot, which must be empty. -/
def readSlot (depth : Nat) :
    {αs : List Type} → Fields αs → Nat → Slots αs → Reader (Slots αs)
  | _, .nil, _, slots => pure slots
  | _, .cons name codec _, 0, (slot, slots) => do
    match slot with
    | some _ => Reader.mismatch (.duplicateField name)
    | none => pure (some (← codec.read depth), slots)
  | _, .cons _ _ rest, i + 1, (slot, slots) => do
    pure (slot, ← rest.readSlot depth i slots)

/-- The values of all fields, once the record has been read to its end. -/
def complete : {αs : List Type} → Fields αs → Slots αs → Reader (Row αs)
  | _, .nil, _ => pure ()
  | _, .cons name codec rest, (slot, slots) => do
    match slot.or codec.absent with
    | none => Reader.mismatch (.missingField name)
    | some x => pure (x, ← rest.complete slots)

end Fields

/-- Reads the name or number of a field and gives its place among the names,
if it has one. -/
def readField (names : List String) (depth : Nat) : Reader (Option Nat) := do
  match ← Reader.token depth with
  | .text name => pure (names.findIdx? (· = name))
  | .bytes name => pure (names.findIdx? (Text.Utf8.encode · = name))
  | .integer n =>
    if n < 0 then Reader.mismatch (.type (.integer n) "field identifier")
    else pure (if n.toNat < names.length then some n.toNat else none)
  | t => Reader.unwanted t "field identifier"

/-- A record: a map from the names of its fields, or an array of their values. -/
def Codec.record {α : Type} {αs : List Type} (name : String) (fields : Fields αs)
    (toRow : α → Row αs) (ofRow : Row αs → α) : Codec α where
  toValue x := .map (fields.entries (toRow x))
  read depth := do
    match ← Reader.token depth with
    | .sequence extent depth =>
      let (row, extent) ← fields.readRow name fields.names.length depth 0 extent
      extent.close .array
      pure (ofRow row)
    | .mapping extent depth =>
      let slots ← extent.fold .map (fun slots => do
        match ← readField fields.names depth with
        | some i => fields.readSlot depth i slots
        | none =>
          Reader.ignore depth
          pure slots) (Slots.empty αs)
      ofRow <$> fields.complete slots
    | t => Reader.unwanted t s!"struct {name}"

/-! ### Choices -/

/-- One form that a value can take. -/
inductive Variant (α : Type) where
  /-- A value that is written as its name. -/
  | plain (name : String) (value : α)
  /-- A name with something else behind it, read at a depth. -/
  | carrying (name : String) (read : Nat → Reader α)

namespace Variant

variable {α : Type}

/-- A name with a value of another type behind it. -/
def of {β : Type} (name : String) (codec : Codec β) (wrap : β → α) : Variant α :=
  .carrying name fun depth => wrap <$> codec.read depth

/-- The name of a variant. -/
def name : Variant α → String
  | .plain name _ => name
  | .carrying name _ => name

/-- The variant when only its name is written. -/
def bare : Variant α → Reader α
  | .plain _ value => pure value
  | .carrying _ _ => Reader.mismatch (.type .bareVariant "newtype variant")

/-- The variant when a value is written behind its name. -/
def valued (depth : Nat) : Variant α → Reader α
  | .plain _ value => do
    match ← Reader.token depth with
    | .null => pure value
    | t => Reader.unwanted t "unit"
  | .carrying _ read => read depth

/-- What is wrong when no value follows the name in an array. -/
def lonely : Variant α → Flaw
  | .plain _ _ => .tooLong
  | .carrying _ _ => .tooShort

end Variant

/-- Reads the name or number of a variant. -/
def readVariant {α : Type} (variants : List (Variant α)) (depth : Nat) :
    Reader (Variant α) := do
  let unknown (name : String) : Reader (Variant α) :=
    Reader.mismatch (.unknownVariant name (variants.map Variant.name))
  match ← Reader.token depth with
  | .text name =>
    match variants.find? (·.name = name) with
    | some v => pure v
    | none => unknown name
  | .bytes name =>
    match variants.find? (Text.Utf8.encode ·.name = name) with
    | some v => pure v
    | none => unknown (Text.Utf8.decodeLossy ⟨name.toArray⟩)
  | .integer n =>
    if n < 0 then Reader.mismatch (.type (.integer n) "variant identifier")
    else
      match variants[n.toNat]? with
      | some v => pure v
      | none =>
        Reader.mismatch (.value (.integer n) s!"variant index 0 <= i < {variants.length}")
  | t => Reader.unwanted t "variant identifier"

/-- A choice of variants: the name alone, a map from the name to a value, or an
array of the name and a value. -/
def Codec.choice {α : Type} (variants : List (Variant α)) (toValue : α → Value) : Codec α where
  toValue := toValue
  read depth := do
    match ← Reader.peek with
    | none => Reader.ended .value
    | some first =>
      if 0x80 ≤ first ∧ first ≤ 0x9f then
        match ← Reader.head with
        | .array extent =>
          Reader.enter depth fun depth => do
            match ← extent.next? .array with
            | none => Reader.grammar .tooShort
            | some extent =>
              let v ← readVariant variants depth
              match ← extent.next? .array with
              | none => Reader.grammar v.lonely
              | some extent =>
                let x ← v.valued depth
                extent.close .array
                pure x
        | _ => Reader.grammar .unexpected
      else if first = 0xa1 then
        let _ ← Reader.head
        Reader.enter depth fun depth => do
          let v ← readVariant variants depth
          v.valued depth
      else
        let v ← readVariant variants depth
        v.bare

/-! ### Whole images -/

/-- The bytes of an image. -/
def Codec.encode {α : Type} (c : Codec α) (x : α) : List UInt8 :=
  (c.toValue x).write

/-- Reads an image up to its end. -/
def Codec.decode {α : Type} (c : Codec α) (image : List UInt8) : Except ImageError α :=
  match c.read maxDepth ⟨0, image⟩ with
  | .error e => .error e
  | .ok (x, p) => if p.rest.isEmpty then .ok x else .error (.grammar .trailing (p.offset + 1))

end BranchCoverage.Image
