/-
Lower case of a text that goes on.

The lower-case form of a character depends on the text around it, but only that
of the capital sigma does: at the end of a word it has a form of its own.  So the
lower case of a text begins that of a longer one, unless the text ends a word in
a sigma and the longer one goes on with that word (`Reopens`).
`lower_isPrefix_iff` says that this is the only exception.
-/
import Mathlib.Data.List.TakeWhile
import BranchCoverage.Text.Lowercase

namespace BranchCoverage.Text

/-- The characters that are skipped in the search for the end of a word. -/
abbrev isIgnorable (c : Char) : Bool :=
  CharRange.contain caseIgnorableRanges c

/-- Behind `before` (last first), the text `cs` ends a word in a capital sigma, up
to characters that are skipped, and `after` goes on with the word. -/
def Reopens (before cs after : List Char) : Prop :=
  ∃ word rest, cs = word ++ 'Σ' :: rest ∧ (∀ c ∈ rest, isIgnorable c = true) ∧
    reachesCased (word.reverse ++ before) = true ∧ reachesCased after = true

/-- Nothing is found among characters that are skipped. -/
theorem reachesCased_append_of_ignorable {cs : List Char} (h : ∀ c ∈ cs, isIgnorable c = true)
    (after : List Char) : reachesCased (cs ++ after) = reachesCased after := by
  have hskip : cs.dropWhile isIgnorable = [] := List.dropWhile_eq_nil_iff.mpr h
  rw [reachesCased, List.dropWhile_append, hskip]
  rfl

/-- What is found before the end does not depend on what follows. -/
theorem reachesCased_append_of_not_ignorable {cs : List Char}
    (h : ¬ ∀ c ∈ cs, isIgnorable c = true) (after : List Char) :
    reachesCased (cs ++ after) = reachesCased cs := by
  have hskip : cs.dropWhile isIgnorable ≠ [] := mt List.dropWhile_eq_nil_iff.mp h
  rw [reachesCased, reachesCased, List.dropWhile_append, if_neg (by simpa using hskip)]
  rcases hfound : cs.dropWhile isIgnorable with - | ⟨c, rest⟩
  · exact absurd hfound hskip
  · rfl

variable {before cs after : List Char} {c : Char}

/-- Only a sigma at the end of a word has another form if the text goes on. -/
theorem lowerIn_append
    (h : ¬ (c = 'Σ' ∧ reachesCased before = true ∧ (∀ c ∈ cs, isIgnorable c = true) ∧
      reachesCased after = true)) :
    lowerIn before c (cs ++ after) = lowerIn before c cs := by
  rw [lowerIn, lowerIn]
  by_cases hsigma : c = 'Σ'
  · rw [if_pos hsigma, if_pos hsigma]
    by_cases hskip : ∀ c ∈ cs, isIgnorable c = true
    · have hcs : reachesCased cs = false := by
        rw [← List.append_nil cs, reachesCased_append_of_ignorable hskip]
        rfl
      rw [reachesCased_append_of_ignorable hskip, hcs]
      rcases hbefore : reachesCased before with - | -
      · rfl
      · rcases hafter : reachesCased after with - | -
        · rfl
        · exact absurd ⟨hsigma, hbefore, hskip, hafter⟩ h
    · rw [reachesCased_append_of_not_ignorable hskip]
  · rw [if_neg hsigma, if_neg hsigma]

/-- A sigma that ends the first word only in the shorter text. -/
theorem reopens_cons_iff
    (h : ¬ (c = 'Σ' ∧ reachesCased before = true ∧ (∀ c ∈ cs, isIgnorable c = true) ∧
      reachesCased after = true)) :
    Reopens before (c :: cs) after ↔ Reopens (c :: before) cs after := by
  constructor
  · rintro ⟨word, rest, heq, hrest, hword, hafter⟩
    rcases List.cons_eq_append_iff.mp heq with ⟨rfl, hcons⟩ | ⟨word', rfl, rfl⟩
    · cases hcons
      exact absurd ⟨rfl, hword, hrest, hafter⟩ h
    · rw [List.reverse_cons, List.append_assoc] at hword
      exact ⟨word', rest, rfl, hrest, hword, hafter⟩
  · rintro ⟨word, rest, rfl, hrest, hword, hafter⟩
    refine ⟨c :: word, rest, rfl, hrest, ?_, hafter⟩
    rw [List.reverse_cons, List.append_assoc]
    exact hword

theorem lowerAfter_isPrefix_iff (before cs after : List Char) :
    lowerAfter before cs <+: lowerAfter before (cs ++ after) ↔ ¬ Reopens before cs after := by
  induction cs generalizing before with
  | nil =>
    refine iff_of_true List.nil_prefix ?_
    rintro ⟨word, rest, heq, -⟩
    exact List.append_ne_nil_of_right_ne_nil word (List.cons_ne_nil _ _) heq.symm
  | cons c cs ih =>
    rw [List.cons_append, lowerAfter, lowerAfter]
    by_cases h : c = 'Σ' ∧ reachesCased before = true ∧ (∀ c ∈ cs, isIgnorable c = true) ∧
      reachesCased after = true
    · -- the two forms of the sigma are different
      obtain ⟨rfl, hbefore, hskip, hafter⟩ := h
      have hcs : reachesCased cs = false := by
        rw [← List.append_nil cs, reachesCased_append_of_ignorable hskip]
        rfl
      have hshort : lowerIn before 'Σ' cs = ['ς'] := by
        rw [lowerIn, if_pos rfl, hbefore, hcs]
        rfl
      have hlong : lowerIn before 'Σ' (cs ++ after) = ['σ'] := by
        rw [lowerIn, if_pos rfl, reachesCased_append_of_ignorable hskip, hbefore, hafter]
        rfl
      rw [hshort, hlong]
      refine iff_of_false (fun hprefix => ?_) (not_not_intro ⟨[], cs, rfl, hskip, hbefore, hafter⟩)
      exact absurd (List.cons_prefix_cons.mp hprefix).1 (by decide)
    · rw [lowerIn_append h, List.prefix_append_right_inj, ih (c :: before), reopens_cons_iff h]

/-- **The lower case of a text begins that of every longer one**, unless a sigma at
its end ends a word no more. -/
theorem lower_isPrefix_iff (cs after : List Char) :
    lower cs <+: lower (cs ++ after) ↔ ¬ Reopens [] cs after :=
  lowerAfter_isPrefix_iff [] cs after

end BranchCoverage.Text
