/-
Heads and texts, as they are written and read.

A reader takes bytes if it gives the same value and stops behind them wherever
they stand in an image (`Takes`).  What one reader takes after another is taken
by both in turn (`Takes.bind`), so everything here comes down to numbers, which
are written in one of five widths and read in the same (`exists_argument`).
From there it goes up to heads, texts and tokens.
-/
import BranchCoverage.Image.Codec
import BranchCoverage.Proofs.Text.Utf8
import Mathlib.Tactic.Ring

namespace BranchCoverage

namespace Image

/-! ### Numbers -/

theorem length_bigEndian (width number : Nat) : (bigEndian width number).length = width := by
  induction width with
  | zero => rfl
  | succ width ih => rw [bigEndian, List.length_cons, ih]

/-- The bytes of a number stand for as much of it as has room in them. -/
theorem ofBigEndian_bigEndian (width number : Nat) :
    ofBigEndian (bigEndian width number) = number % 256 ^ width := by
  have hfold : ∀ start, (bigEndian width number).foldl (fun n b => 256 * n + b.toNat) start
      = start * 256 ^ width + number % 256 ^ width := by
    induction width with
    | zero => simp [bigEndian, Nat.mod_one]
    | succ width ih =>
      intro start
      have hbyte : (UInt8.ofNat (number >>> (8 * width))).toNat = number / 256 ^ width % 256 := by
        rw [UInt8.toNat_ofNat', Nat.shiftRight_eq_div_pow, Nat.pow_mul]
      rw [bigEndian, List.foldl_cons, ih, hbyte, Nat.mod_pow_succ, Nat.pow_succ]
      ring
  have hzero := hfold 0
  rw [Nat.zero_mul, Nat.zero_add] at hzero
  exact hzero

namespace Reader

variable {α β : Type} {x : α} {y : β} {reader : Reader α} {bytes bytes' : List UInt8}

/-! ### Taking bytes -/

/-- Wherever these bytes stand, the reader gives the value and stops behind
them. -/
def Takes (reader : Reader α) (bytes : List UInt8) (x : α) : Prop :=
  ∀ offset rest, offset + bytes.length < 2 ^ 64 →
    reader ⟨offset, bytes ++ rest⟩ = .ok (x, ⟨offset + bytes.length, rest⟩)

/-- An image has fewer bytes than a word of 64 bits can count. -/
theorem Takes.of_lt (h : bytes.length < 2 ^ 64 → Takes reader bytes x) : Takes reader bytes x :=
  fun offset rest hlt => h (by omega) offset rest hlt

theorem Takes.pure (x : α) : Takes (Pure.pure x) [] x :=
  fun _ _ _ => rfl

theorem Takes.bind {next : α → Reader β} (h : Takes reader bytes x)
    (hnext : Takes (next x) bytes' y) : Takes (reader >>= next) (bytes ++ bytes') y := by
  intro offset rest hlt
  rw [List.length_append] at hlt
  have hfirst := h offset (bytes' ++ rest) (by omega)
  have hsecond := hnext (offset + bytes.length) rest (by omega)
  show (reader ⟨offset, bytes ++ bytes' ++ rest⟩ >>= fun p => next p.1 p.2) = _
  rw [List.append_assoc, hfirst, List.length_append, ← Nat.add_assoc]
  exact hsecond

/-- A reader that takes everything may be followed by what reads nothing. -/
theorem Takes.bind_pure {next : α → Reader β} (h : Takes reader bytes x)
    (hnext : Takes (next x) [] y) : Takes (reader >>= next) bytes y := by
  have hboth := h.bind hnext
  rw [List.append_nil] at hboth
  exact hboth

theorem Takes.map (f : α → β) (h : Takes reader bytes x) : Takes (f <$> reader) bytes (f x) := by
  intro offset rest hlt
  show (reader ⟨offset, bytes ++ rest⟩ >>= fun p => Pure.pure (f p.1, p.2)) = _
  rw [h offset rest hlt]
  rfl

/-- A look at the next byte takes nothing. -/
theorem Takes.peek {b : UInt8} {next : Option UInt8 → Reader β}
    (h : Takes (next (some b)) (b :: bytes) y) : Takes (Reader.peek >>= next) (b :: bytes) y :=
  fun offset rest hlt => h offset rest hlt

theorem takes_byte (b : UInt8) : Takes byte [b] b :=
  fun _ _ _ => rfl

theorem takes_bytes {n : Nat} (h : bytes.length = n) : Takes (Reader.bytes n) bytes bytes := by
  intro offset rest _
  have htake : (bytes ++ rest).take n = bytes := List.take_left' h
  have hdrop : (bytes ++ rest).drop n = rest := List.drop_left' h
  rw [Reader.bytes]
  simp only [htake, hdrop, h, if_true]

theorem takes_number {width number : Nat} (h : number < 256 ^ width) :
    Takes (Reader.number width) (bigEndian width number) number := by
  have hnumber := (takes_bytes (length_bigEndian width number)).map ofBigEndian
  rw [ofBigEndian_bigEndian, Nat.mod_eq_of_lt h] at hnumber
  exact hnumber

/-! ### Heads -/

/-- A head begins with a byte of its kind, and its number is read from the rest
if it has room there. -/
theorem exists_argument (number : Nat) : ∃ info tail, info < 28 ∧
    (∀ kind, Image.head kind number = UInt8.ofNat (32 * kind + info) :: tail) ∧
    (number < 2 ^ 64 → Takes (argument info) tail number) := by
  by_cases h5 : number < 24
  · refine ⟨number, [], by omega, fun kind => ?_, fun _ => ?_⟩
    · rw [Image.head, if_pos h5]
    · rw [argument, if_pos h5]
      exact .pure number
  by_cases h8 : number < 1 <<< 8
  · refine ⟨24, bigEndian 1 number, by omega, fun kind => ?_, fun _ => takes_number h8⟩
    rw [Image.head, if_neg h5, if_pos h8]
  by_cases h16 : number < 1 <<< 16
  · refine ⟨25, bigEndian 2 number, by omega, fun kind => ?_, fun _ => takes_number h16⟩
    rw [Image.head, if_neg h5, if_neg h8, if_pos h16]
  by_cases h32 : number < 1 <<< 32
  · refine ⟨26, bigEndian 4 number, by omega, fun kind => ?_, fun _ => takes_number h32⟩
    rw [Image.head, if_neg h5, if_neg h8, if_neg h16, if_pos h32]
  · refine ⟨27, bigEndian 8 number, by omega, fun kind => ?_, fun h64 => takes_number h64⟩
    rw [Image.head, if_neg h5, if_neg h8, if_neg h16, if_neg h32]

/-- The first byte of a head tells its kind. -/
theorem toNat_first {kind info : Nat} (hkind : kind < 8) (hinfo : info < 28) :
    (UInt8.ofNat (32 * kind + info)).toNat = 32 * kind + info := by
  rw [UInt8.toNat_ofNat']
  omega

/-- The head of a kind whose low five bits are `info`. -/
def headOf (kind info : Nat) : Reader Head :=
  if kind = unsignedKind then .unsigned <$> argument info
  else if kind = negativeKind then .negative <$> argument info
  else if kind = bytesKind then .bytes <$> extent info
  else if kind = textKind then .text <$> extent info
  else if kind = arrayKind then .array <$> extent info
  else if kind = mapKind then .map <$> extent info
  else if kind = tagKind then (fun _ => .tag) <$> argument info
  else simple info

theorem head_eq : head = (do
    let first ← byte
    headOf (first.toNat / 32) (first.toNat % 32)) :=
  rfl

/-- A head is read as its kind is. -/
theorem takes_head {kind number : Nat} {h : Head} (hkind : kind < 8) (hnumber : number < 2 ^ 64)
    (hread : ∀ info tail, info < 28 → Takes (argument info) tail number →
      Takes (headOf kind info) tail h) :
    Takes head (Image.head kind number) h := by
  obtain ⟨info, tail, hinfo, hhead, hargument⟩ := exists_argument number
  have hfirst := toNat_first hkind hinfo
  have hhigh : (32 * kind + info) / 32 = kind := by omega
  have hlow : (32 * kind + info) % 32 = info := by omega
  rw [hhead, head_eq]
  refine Takes.bind (takes_byte _) ?_
  rw [hfirst, hhigh, hlow]
  exact hread info tail hinfo (hargument hnumber)

theorem Takes.extent {info n : Nat} (hinfo : info < 28) (h : Takes (argument info) bytes n) :
    Takes (Reader.extent info) bytes (.counted n) := by
  rw [Reader.extent, if_neg (by omega)]
  exact h.map Extent.counted

section

variable {number : Nat} (hnumber : number < 2 ^ 64)

include hnumber

theorem takes_unsigned : Takes head (Image.head unsignedKind number) (.unsigned number) :=
  takes_head (by decide) hnumber fun _ _ _ h => h.map Head.unsigned

theorem takes_negative : Takes head (Image.head negativeKind number) (.negative number) :=
  takes_head (by decide) hnumber fun _ _ _ h => h.map Head.negative

theorem takes_text : Takes head (Image.head textKind number) (.text (.counted number)) :=
  takes_head (by decide) hnumber fun _ _ hinfo h => (h.extent hinfo).map Head.text

theorem takes_array : Takes head (Image.head arrayKind number) (.array (.counted number)) :=
  takes_head (by decide) hnumber fun _ _ hinfo h => (h.extent hinfo).map Head.array

theorem takes_map : Takes head (Image.head mapKind number) (.map (.counted number)) :=
  takes_head (by decide) hnumber fun _ _ hinfo h => (h.extent hinfo).map Head.map

end

/-! ### Tokens -/

/-- A token is read behind its head, whatever levels are left. -/
theorem Takes.token {h : Head} {t : Token} {depth : Nat} (hhead : Takes head bytes h)
    (htag : h ≠ .tag) (hrest : Takes (tokenOf depth h) bytes' t) :
    Takes (token depth) (bytes ++ bytes') t := by
  cases depth with
  | zero => exact hhead.bind hrest
  | succ depth =>
    refine hhead.bind ?_
    cases h with
    | tag => exact absurd rfl htag
    | _ => exact hrest

section

variable (depth : Nat)

theorem takes_token_integer {n : Int} (hlow : -(2 ^ 63) ≤ n) (hhigh : n < 2 ^ 64) :
    Takes (token depth) (writeInteger n) (.integer n) := by
  rw [writeInteger, ← List.append_nil (ite _ _ _)]
  split
  · next hn =>
    have hhead : Takes head (Image.head unsignedKind n.toNat) (.unsigned n.toNat) :=
      takes_unsigned (by omega)
    refine hhead.token Head.noConfusion ?_
    rw [tokenOf, Int.toNat_of_nonneg hn]
    exact .pure _
  · next hn =>
    have hvalue : -1 - ((-1 - n).toNat : Int) = n := by omega
    have hsmall : (-1 - n).toNat < 1 <<< 63 := by omega
    have hhead : Takes head (Image.head negativeKind (-1 - n).toNat) (.negative (-1 - n).toNat) :=
      takes_negative (by omega)
    refine hhead.token Head.noConfusion ?_
    rw [tokenOf, if_pos hsmall, hvalue]
    exact .pure _

theorem takes_token_boolean (b : Bool) :
    Takes (token depth) (Value.boolean b).write (.boolean b) := by
  have hhead : Takes head (Value.boolean b).write (.boolean b) := by
    cases b <;> exact fun _ _ _ => rfl
  rw [← List.append_nil (Value.write _)]
  exact hhead.token Head.noConfusion (.pure _)

/-- A text is read as far as its length says. -/
theorem takes_textString (s : String) :
    Takes (textString (.counted s.utf8ByteSize)) (Text.Utf8.encode s) s := by
  have hbytes : Takes (fun p : Position => if 1 <<< 64 ≤ p.offset + s.utf8ByteSize
      then grammar .lengthOutOfRange p else Reader.bytes s.utf8ByteSize p)
      (Text.Utf8.encode s) (Text.Utf8.encode s) := by
    intro offset rest hlt
    have hroom : ¬ 1 <<< 64 ≤ offset + s.utf8ByteSize := Nat.not_le.mpr hlt
    dsimp only
    rw [if_neg hroom]
    exact takes_bytes rfl offset rest hlt
  refine hbytes.bind_pure fun offset rest _ => ?_
  rw [decodeText, Text.Utf8.decode_encode]
  rfl

theorem takes_token_text (s : String) : Takes (token depth) (writeText s) (.text s) := by
  refine Takes.of_lt fun hlt => ?_
  rw [writeText, List.length_append, Text.Utf8.length_encode_text] at hlt
  exact (takes_text (by omega)).token Head.noConfusion ((takes_textString s).map Token.text)

/-- An array takes one level. -/
theorem takes_token_array {n : Nat} (h : n < 2 ^ 64) :
    Takes (token (depth + 1)) (Image.head arrayKind n) (.sequence (.counted n) depth) := by
  rw [← List.append_nil (Image.head _ _)]
  exact (takes_array h).token Head.noConfusion (.pure _)

/-- A map takes one level. -/
theorem takes_token_map {n : Nat} (h : n < 2 ^ 64) :
    Takes (token (depth + 1)) (Image.head mapKind n) (.mapping (.counted n) depth) := by
  rw [← List.append_nil (Image.head _ _)]
  exact (takes_map h).token Head.noConfusion (.pure _)

end

end Reader

/-! ### First bytes -/

/-- The first byte of a head is one of its kind. -/
theorem exists_head_eq (kind number : Nat) (hkind : kind < 8) : ∃ first tail,
    head kind number = first :: tail ∧ 32 * kind ≤ first.toNat ∧ first.toNat < 32 * kind + 28 := by
  obtain ⟨info, tail, hinfo, hhead, -⟩ := Reader.exists_argument number
  have hfirst := Reader.toNat_first hkind hinfo
  exact ⟨_, tail, hhead kind, by omega, by omega⟩

/-- Only nothing begins with the byte for nothing. -/
theorem Value.exists_write_eq {v : Value} (h : v ≠ .null) :
    ∃ first tail, v.write = first :: tail ∧ first ≠ 0xf6 := by
  have hkind : ∀ kind number more, kind < 7 → ∃ first tail,
      head kind number ++ more = first :: tail ∧ first ≠ 0xf6 := by
    intro kind number more hkind
    obtain ⟨first, tail, hhead, -, hhigh⟩ := exists_head_eq kind number (by omega)
    refine ⟨first, tail ++ more, by rw [hhead, List.cons_append], ?_⟩
    rintro rfl
    have : (0xf6 : UInt8).toNat = 246 := rfl
    omega
  cases v with
  | null => exact absurd rfl h
  | boolean b => cases b <;> exact ⟨_, _, rfl, by decide⟩
  | integer n =>
    rw [Value.write, writeInteger, ← List.append_nil (ite _ _ _)]
    split
    · exact hkind _ _ _ (by decide)
    · exact hkind _ _ _ (by decide)
  | text s =>
    rw [Value.write, writeText]
    exact hkind _ _ _ (by decide)
  | array items =>
    rw [Value.write]
    exact hkind _ _ _ (by decide)
  | map entries =>
    rw [Value.write]
    exact hkind _ _ _ (by decide)

theorem Value.length_write_pos (v : Value) : 0 < v.write.length := by
  by_cases hv : v = .null
  · rw [hv]
    exact Nat.succ_pos 0
  · obtain ⟨first, tail, hwrite, -⟩ := exists_write_eq hv
    rw [hwrite]
    exact Nat.succ_pos _

end Image

end BranchCoverage
