/-
File name patterns: a star stands for any characters, a question mark for one.

The pattern is matched piece by piece, a piece ending at a star.  Once a piece
behind a star has matched, it is never moved on: the next star can cover
whatever that would have gained.
-/
namespace BranchCoverage.Glob

/-- How far a pattern matches up to its next star. -/
inductive Progress where
  /-- The name has ended, and this is left of the pattern. -/
  | ended (pattern : List Char)
  /-- A star has been reached: what follows it, and what is left of the name. -/
  | star (pattern name : List Char)
  | mismatch

/-- Matches a pattern up to its next star against the beginning of a name. -/
def piece : List Char → List Char → Progress
  | pattern, [] => .ended pattern
  | '*' :: pattern, name => .star pattern name
  | p :: pattern, c :: name => if p = '?' ∨ p = c then piece pattern name else .mismatch
  | [], _ :: _ => .mismatch

/-- What follows a star is shorter than the pattern. -/
theorem length_lt_of_piece_eq_star {pattern name pattern' name' : List Char}
    (h : piece pattern name = .star pattern' name') : pattern'.length < pattern.length := by
  fun_induction piece pattern name with
  | case1 => simp at h
  | case2 => simp_all
  | case3 p pattern c name _ hp ih => have := ih h; simp only [List.length_cons]; omega
  | case4 => simp at h
  | case5 => simp at h

/-- Whether all of a pattern is stars, so that it matches the empty name. -/
def allStars (pattern : List Char) : Bool :=
  pattern.all (· = '*')

/-- Whether a star and the pattern behind it match a name: the first place in
the name where the next piece matches is taken. -/
def matchesAfterStar (pattern name : List Char) : Bool :=
  match _h : piece pattern name with
  | .ended rest => allStars rest
  | .star pattern' name' => matchesAfterStar pattern' name'
  | .mismatch =>
    match name with
    | [] => false
    | _ :: name' => matchesAfterStar pattern name'
termination_by (pattern.length, name.length)
decreasing_by
  · exact Prod.Lex.left _ _ (length_lt_of_piece_eq_star _h)
  · exact Prod.Lex.right _ (by simp)

/-- Whether a pattern matches a name. -/
def accepts (pattern name : List Char) : Bool :=
  match piece pattern name with
  | .ended rest => allStars rest
  | .star pattern' name' => matchesAfterStar pattern' name'
  | .mismatch => false

end BranchCoverage.Glob
