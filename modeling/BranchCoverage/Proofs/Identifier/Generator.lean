/-
What generators of identifiers give.

As many identifiers are drawn as are asked for (`length_take`), drawing some and
then others is drawing all of them (`take_add`), and each of them has only the
bits of the generator's width (`lt_of_mem_take`), whatever words the source holds
and whatever was issued before.
-/
import Mathlib.Algebra.Group.Nat.Defs
import BranchCoverage.Identifier.Generator

namespace BranchCoverage.Identifier

/-- The mask of a width has as many bits as the width says. -/
theorem Width.toNat_mask (w : Width) : w.mask.toNat = 2 ^ w.bits - 1 := by
  have hall : ∀ k < 32, (((1 : UInt32) <<< UInt32.ofNat k) - 1).toNat = 2 ^ k - 1 := by decide
  exact hall w.bits (Nat.lt_succ_of_le w.le)

theorem Width.toNat_and_mask_lt (w : Width) (word : UInt32) :
    (word &&& w.mask).toNat < 2 ^ w.bits := by
  rw [UInt32.toNat_and, w.toNat_mask, Nat.and_two_pow_sub_one_eq_mod]
  exact Nat.mod_lt _ (Nat.two_pow_pos _)

namespace Generator

variable {ω : Type} [WordSource ω]

theorem length_take (n : Nat) (g : Generator ω) : (g.take n).1.length = n := by
  induction n generalizing g with
  | zero => rfl
  | succ n ih => exact congrArg (· + 1) (ih g.next.2)

/-- Drawing identifiers does not change their width. -/
theorem width_take (n : Nat) (g : Generator ω) : (g.take n).2.width = g.width := by
  induction n generalizing g with
  | zero => rfl
  | succ n ih => exact ih g.next.2

/-- Identifiers drawn in two parts are drawn one after another. -/
theorem take_add (m n : Nat) (g : Generator ω) :
    g.take (m + n) = ((g.take m).1 ++ ((g.take m).2.take n).1, ((g.take m).2.take n).2) := by
  induction m generalizing g with
  | zero => rw [Nat.zero_add]; rfl
  | succ m ih =>
    rw [Nat.succ_add]
    show (g.next.1 :: (g.next.2.take (m + n)).1, (g.next.2.take (m + n)).2) = _
    rw [ih g.next.2]
    rfl

/-- However often a word is drawn again, an identifier is the low bits of one. -/
theorem draw_lt (width : Width) (issued : Std.HashSet UInt32) (tries : Nat) (source : ω) :
    (draw width issued tries source).1.toNat < 2 ^ width.bits := by
  induction tries generalizing source with
  | zero => exact width.toNat_and_mask_lt _
  | succ tries ih =>
    show (if issued.contains ((WordSource.next source).1 &&& width.mask) then
        draw width issued tries (WordSource.next source).2
      else ((WordSource.next source).1 &&& width.mask, (WordSource.next source).2)).1.toNat < _
    -- a word that was issued already is drawn again
    split
    · exact ih _
    · exact width.toNat_and_mask_lt _

theorem lt_of_mem_take {n : Nat} {g : Generator ω} {id : UInt32} (h : id ∈ (g.take n).1) :
    id.toNat < 2 ^ g.width.bits := by
  induction n generalizing g with
  | zero => cases h
  | succ n ih =>
    have h : id ∈ g.next.1 :: (g.next.2.take n).1 := h
    rcases List.mem_cons.mp h with rfl | hrest
    · exact draw_lt g.width g.issued (attempts - 1) g.source
    · exact ih (g := g.next.2) hrest

end Generator

end BranchCoverage.Identifier
