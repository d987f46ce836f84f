/-
What trimming leaves.

A text is white space, what trimming leaves of it, and white space again
(`exists_padding`).  What is left is `Bare`: it has no white space at either end
(`bare_trimmed`).  There is only one such middle (`trimmed_pad`), so white space that is
put around a text makes no difference.
-/
import Mathlib.Data.List.TakeWhile
import BranchCoverage.Text.Whitespace

namespace BranchCoverage.Text

/-- White space alone. -/
abbrev IsBlank (cs : List Char) : Prop :=
  ∀ c ∈ cs, isSpace c = true

/-- A text with no white space at either end. -/
structure Bare (cs : List Char) : Prop where
  head : ∀ c, cs.head? = some c → isSpace c = false
  last : ∀ c, cs.getLast? = some c → isSpace c = false

variable {cs before after : List Char}

theorem bare_of_forall (h : ∀ c ∈ cs, isSpace c = false) : Bare cs where
  head _ hc := h _ (List.mem_of_head? hc)
  last _ hc := h _ (List.mem_of_getLast? hc)

/-! ### White space around a text -/

theorem trimmed_append_left (hbefore : IsBlank before) (cs : List Char) :
    trimmed (before ++ cs) = trimmed cs := by
  rw [trimmed, List.dropWhile_append_of_pos hbefore, trimmed]

theorem trimmed_append_right (cs : List Char) (hafter : IsBlank after) :
    trimmed (cs ++ after) = trimmed cs := by
  have hnone : after.dropWhile isSpace = [] := List.dropWhile_eq_nil_iff.mpr hafter
  rw [trimmed, List.dropWhile_append, trimmed]
  split
  · next hempty =>
    rw [hnone, List.isEmpty_iff.mp hempty]
  · rw [List.reverse_append, List.dropWhile_append_of_pos fun c hc =>
      hafter c (List.mem_reverse.mp hc)]

theorem trimmed_eq_self (h : Bare cs) : trimmed cs = cs := by
  have hfront : cs.dropWhile isSpace = cs := by
    cases cs with
    | nil => rfl
    | cons c rest => exact List.dropWhile_cons_of_neg (by simpa using h.head c rfl)
  have hback : cs.reverse.dropWhile isSpace = cs.reverse := by
    rcases hcs : cs.reverse with - | ⟨c, rest⟩
    · rfl
    · have hlast : cs.getLast? = some c := by rw [← List.head?_reverse, hcs]; rfl
      exact List.dropWhile_cons_of_neg (by simpa using h.last c hlast)
  rw [trimmed, hfront, hback, List.reverse_reverse]

/-- There is only one way to take white space away from both ends of a text. -/
theorem trimmed_pad (hbefore : IsBlank before) (h : Bare cs) (hafter : IsBlank after) :
    trimmed (before ++ cs ++ after) = cs := by
  rw [trimmed_append_right _ hafter, trimmed_append_left hbefore, trimmed_eq_self h]

/-! ### What is left -/

theorem exists_padding (cs : List Char) : ∃ before after,
    cs = before ++ trimmed cs ++ after ∧ IsBlank before ∧ IsBlank after := by
  let rest := cs.dropWhile isSpace
  refine ⟨cs.takeWhile isSpace, (rest.reverse.takeWhile isSpace).reverse, ?_, ?_, ?_⟩
  · have hrest : trimmed cs ++ (rest.reverse.takeWhile isSpace).reverse = rest := by
      rw [trimmed, ← List.reverse_append, List.takeWhile_append_dropWhile, List.reverse_reverse]
    rw [List.append_assoc, hrest, List.takeWhile_append_dropWhile]
  · exact fun c hc => List.mem_takeWhile_imp hc
  · exact fun c hc => List.mem_takeWhile_imp (List.mem_reverse.mp hc)

theorem trimmed_infix (cs : List Char) : trimmed cs <:+: cs := by
  obtain ⟨before, after, hcs, -, -⟩ := exists_padding cs
  exact ⟨before, after, hcs.symm⟩

theorem isSpace_of_head?_dropWhile {c : Char} (h : (cs.dropWhile isSpace).head? = some c) :
    isSpace c = false := by
  have hnot := List.head?_dropWhile_not isSpace cs
  rw [h] at hnot
  exact hnot

theorem bare_trimmed (cs : List Char) : Bare (trimmed cs) where
  head := by
    intro c hc
    -- with the white space in front gone, only the end is still to be cut off
    have hprefix : trimmed cs <+: cs.dropWhile isSpace := by
      rw [← List.reverse_reverse (cs.dropWhile isSpace), trimmed]
      exact List.reverse_prefix.mpr (List.dropWhile_suffix _)
    obtain ⟨after, hafter⟩ := hprefix
    have hhead : (cs.dropWhile isSpace).head? = some c := by
      rw [← hafter, List.head?_append, hc, Option.some_or]
    exact isSpace_of_head?_dropWhile hhead
  last := by
    intro c hc
    rw [trimmed, List.getLast?_reverse] at hc
    exact isSpace_of_head?_dropWhile hc

theorem trimmed_eq_nil_iff : trimmed cs = [] ↔ IsBlank cs := by
  constructor
  · intro h
    obtain ⟨before, after, hcs, hbefore, hafter⟩ := exists_padding cs
    rw [hcs, h, List.append_nil]
    exact List.forall_mem_append.mpr ⟨hbefore, hafter⟩
  · intro h
    rw [← List.nil_append cs, trimmed_append_right [] h]
    rfl

end BranchCoverage.Text
