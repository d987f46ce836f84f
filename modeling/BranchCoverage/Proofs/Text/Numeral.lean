/-
Decimal forms of numbers.

The digits of a number are read as that number (`digits?_toString`), and there is at
least one of them and nothing else (`isDigit_of_mem_toString`), but for the minus of a
number below zero (`toList_toString_int`).
-/
import BranchCoverage.Text.Numeral
import BranchCoverage.Text.Whitespace

namespace BranchCoverage.Text

theorem digitValue?_of_isDigit {c : Char} (h : c.isDigit = true) :
    digitValue? c = some (c.toNat - '0'.toNat) :=
  if_pos h

theorem digitValue?_of_not_isDigit {c : Char} (h : ¬ c.isDigit = true) : digitValue? c = none :=
  if_neg h

theorem isSpace_of_isDigit {c : Char} (h : c.isDigit = true) : isSpace c = false := by
  have hall : ∀ n < 58, 48 ≤ n → isSpace (Char.ofNat n) = false := by decide
  have hbounds : 48 ≤ c.toNat ∧ c.toNat ≤ 57 := by
    simpa [Char.isDigit, UInt32.le_iff_toNat_le] using h
  have hc := hall c.toNat (by omega) hbounds.1
  rwa [Char.ofNat_toNat] at hc

/-- A run of digits has the value that decimal notation gives it. -/
theorem digitsAfter_eq {cs : List Char} (h : ∀ c ∈ cs, c.isDigit = true) (seen : Nat) :
    digitsAfter seen cs = some (Nat.ofDigitChars 10 cs seen) := by
  induction cs generalizing seen with
  | nil => rfl
  | cons c rest ih =>
    obtain ⟨hc, hrest⟩ := List.forall_mem_cons.mp h
    rw [digitsAfter, digitValue?_of_isDigit hc, Nat.ofDigitChars_cons]
    exact ih hrest _

/-! ### Decimal forms -/

theorem toList_toString (n : Nat) : (toString n).toList = Nat.toDigits 10 n :=
  Nat.toList_repr

theorem isDigit_of_mem_toString {n : Nat} {c : Char} (h : c ∈ (toString n).toList) :
    c.isDigit = true := by
  rw [toList_toString] at h
  exact Nat.isDigit_of_mem_toDigits (by decide) (by decide) h

theorem toString_toList_ne_nil (n : Nat) : (toString n).toList ≠ [] := by
  rw [toList_toString]
  exact Nat.toDigits_ne_nil

theorem ofDigitChars_toString (n : Nat) : Nat.ofDigitChars 10 (toString n).toList 0 = n := by
  rw [toList_toString, Nat.ofDigitChars_ten_toDigits]

/-- The decimal form of a number is read as that number. -/
theorem digits?_toString (n : Nat) : digits? (toString n).toList = some n := by
  rcases hdigits : (toString n).toList with - | ⟨c, rest⟩
  · exact absurd hdigits (toString_toList_ne_nil n)
  · rw [digits?, ← hdigits, digitsAfter_eq fun c hc => isDigit_of_mem_toString hc,
      ofDigitChars_toString]
    exact List.cons_ne_nil _ _

/-- The decimal form of a whole number: a minus if it is negative, and digits. -/
theorem toList_toString_int (z : Int) :
    (toString z).toList = (if z < 0 then ['-'] else []) ++ (toString z.natAbs).toList := by
  rw [Int.toString_eq_repr, Int.repr_eq_if]
  by_cases hz : 0 ≤ z
  · have habs : z.toNat = z.natAbs := by omega
    rw [if_pos hz, if_neg (Int.not_lt.mpr hz), habs]
    rfl
  · have habs : (-z).toNat = z.natAbs := by omega
    rw [if_neg hz, if_pos (Int.not_le.mp hz), habs, String.toList_append]
    rfl

end BranchCoverage.Text
