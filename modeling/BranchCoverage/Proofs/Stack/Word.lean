/-
Signed words on the stack against unsigned ones in the trace state.

A word below `2 ^ 31` is the same number with a sign or without one, so
shifting it to the right brings in zeros, and widening it keeps its value.
Identifiers and previous locations are below that bound, hence so are their
hashes (`toNat_xor_lt`).  Of a byte that was widened, changed and cut again,
only the low bits count.
-/
import Mathlib.Algebra.Group.Nat.Defs
import BranchCoverage.Trace.Coverage

namespace BranchCoverage.Word

/-! ### Signs -/

variable {x y n : UInt32}

theorem msb_eq_false_iff : x.toBitVec.msb = false ↔ x.toNat < 2 ^ 31 := by
  rw [BitVec.msb_eq_decide, decide_eq_false_iff_not, Nat.not_le]
  rfl

theorem toNat_xor_lt (hx : x.toNat < 2 ^ 31) (hy : y.toNat < 2 ^ 31) :
    (x ^^^ y).toNat < 2 ^ 31 := by
  rw [UInt32.toNat_xor]
  exact Nat.xor_lt_two_pow hx hy

/-- The count of a shift is taken as it is when it is below the width. -/
theorem smod_count (hn : n.toNat < 32) : n.toBitVec.smod 32 = n.toBitVec % 32 := by
  have hmsb : n.toBitVec.msb = false := msb_eq_false_iff.mpr (by omega)
  rw [BitVec.smod_eq, hmsb]
  rfl

theorem toInt32_shiftRight (hx : x.toNat < 2 ^ 31) (hn : n.toNat < 32) :
    x.toInt32 >>> n.toInt32 = (x >>> n).toInt32 := by
  apply Int32.toBitVec_inj.mp
  show x.toBitVec.sshiftRight (n.toBitVec.smod 32).toNat = x.toBitVec >>> (n.toBitVec % 32).toNat
  rw [smod_count hn, BitVec.sshiftRight_eq_of_msb_false (msb_eq_false_iff.mpr hx)]

theorem toInt32_shiftLeft (hn : n.toNat < 32) :
    x.toInt32 <<< n.toInt32 = (x <<< n).toInt32 := by
  apply Int32.toBitVec_inj.mp
  show x.toBitVec <<< (n.toBitVec.smod 32).toNat = x.toBitVec <<< (n.toBitVec % 32).toNat
  rw [smod_count hn]

/-- Widening keeps the value of a word below `2 ^ 31`. -/
theorem toInt_toInt64 (hx : x.toNat < 2 ^ 31) : x.toInt32.toInt64.toInt = x.toNat := by
  rw [Int32.toInt_toInt64]
  exact BitVec.toInt_eq_toNat_of_msb (msb_eq_false_iff.mpr hx)

/-! ### Masks -/

theorem toNat_and_mapMask_lt (x : UInt32) : (x &&& mapMask).toNat < mapSize := by
  rw [UInt32.toNat_and]
  exact Nat.lt_of_le_of_lt Nat.and_le_right (by decide)

theorem toNat_and_seven_lt (x : UInt32) : (x &&& 7).toNat < 8 := by
  rw [UInt32.toNat_and]
  exact Nat.lt_of_le_of_lt Nat.and_le_right (by decide)

/-! ### Bytes -/

/-- Adding one to a widened byte and cutting it again wraps. -/
theorem cut_succ (byte : UInt8) : (byte.toUInt32.toInt32 + 1).toUInt32.toUInt8 = byte + 1 := by
  show (byte.toUInt32 + 1).toUInt8 = byte + 1
  rw [UInt32.toUInt8_add, UInt8.toUInt8_toUInt32]
  rfl

/-- One bit of a byte may as well be made in a word. -/
theorem cut_bit (h : n.toNat < 8) : ((1 : UInt32) <<< n).toUInt8 = 1 <<< n.toUInt8 := by
  have hall : ∀ k < 8,
      ((1 : UInt32) <<< UInt32.ofNat k).toUInt8 = 1 <<< (UInt32.ofNat k).toUInt8 := by
    decide
  have := hall n.toNat h
  rwa [UInt32.ofNat_toNat] at this

/-- Setting a bit of a widened byte and cutting it again sets that bit. -/
theorem cut_mark (byte : UInt8) (h : n.toNat < 8) :
    (byte.toUInt32.toInt32 ||| 1 <<< n.toInt32).toUInt32.toUInt8 = byte ||| 1 <<< n.toUInt8 := by
  have hword : (1 : Int32) <<< n.toInt32 = ((1 : UInt32) <<< n).toInt32 :=
    toInt32_shiftLeft (by omega)
  rw [hword]
  show (byte.toUInt32 ||| 1 <<< n).toUInt8 = byte ||| 1 <<< n.toUInt8
  rw [UInt32.toUInt8_or, UInt8.toUInt8_toUInt32, cut_bit h]

end BranchCoverage.Word
