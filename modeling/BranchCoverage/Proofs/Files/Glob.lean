/-
The language of a file name pattern, and the scan that decides it.

`Matches` says what a pattern stands for: the name can be split so that each
character of the pattern covers its part.  The matcher never takes back a star
but the last.  That loses nothing, because whatever an earlier star would gain
by covering more, the last one can cover itself (`matches_of_piece_eq_star`);
this makes the pieces between the stars independent of each other, and one
induction over them gives `accepts_iff`.

The same matcher is often written as a loop with an index into the pattern and
one into the name, both of which go back when a star is tried again.  `Scan` is
that loop.  Its turns follow the pieces, so it comes to an end, with both
indices in bounds, and with the same verdict (`ends_scan`).
-/
import Mathlib.Data.List.Forall2
import BranchCoverage.Files.Glob

namespace BranchCoverage.Glob

/-! ### The language -/

/-- What a character of a pattern may stand for: a star for any characters, a
question mark for one, and every other character for itself. -/
def Covers (p : Char) (part : List Char) : Prop :=
  if p = '*' then True else if p = '?' then part.length = 1 else part = [p]

/-- The name can be split into parts, one for each character of the pattern and
in their order, that these stand for. -/
def Matches (pattern name : List Char) : Prop :=
  ∃ parts, List.Forall₂ Covers pattern parts ∧ parts.flatten = name

variable {p c : Char} {pattern name : List Char}

theorem matches_nil : Matches [] name ↔ name = [] := by
  constructor
  · rintro ⟨parts, hparts, rfl⟩
    cases hparts
    rfl
  · rintro rfl
    exact ⟨[], .nil, rfl⟩

theorem matches_cons :
    Matches (p :: pattern) name ↔
      ∃ part rest, name = part ++ rest ∧ Covers p part ∧ Matches pattern rest := by
  constructor
  · rintro ⟨parts, hparts, rfl⟩
    cases hparts with
    | cons hpart hrest => exact ⟨_, _, List.flatten_cons, hpart, _, hrest, rfl⟩
  · rintro ⟨part, rest, rfl, hpart, parts, hparts, rfl⟩
    exact ⟨part :: parts, .cons hpart hparts, List.flatten_cons⟩

theorem matches_star :
    Matches ('*' :: pattern) name ↔ ∃ part rest, name = part ++ rest ∧ Matches pattern rest := by
  simp [matches_cons, Covers]

theorem matches_single (hp : p ≠ '*') :
    Matches (p :: pattern) name ↔
      ∃ c rest, name = c :: rest ∧ (p = '?' ∨ p = c) ∧ Matches pattern rest := by
  have hcovers : ∀ part, Covers p part ↔ ∃ c, part = [c] ∧ (p = '?' ∨ p = c) := by
    intro part
    by_cases hmark : p = '?'
    · simp [Covers, hmark, List.length_eq_one_iff]
    · simp [Covers, hp, hmark]
  simp only [matches_cons, hcovers]
  constructor
  · rintro ⟨_, rest, rfl, ⟨c, rfl, hc⟩, hrest⟩
    exact ⟨c, rest, rfl, hc, hrest⟩
  · rintro ⟨c, rest, rfl, hc, hrest⟩
    exact ⟨[c], rest, rfl, ⟨c, rfl, hc⟩, hrest⟩

theorem matches_single_cons (hp : p ≠ '*') :
    Matches (p :: pattern) (c :: name) ↔ (p = '?' ∨ p = c) ∧ Matches pattern name := by
  simp [matches_single hp]

/-- A star covers nothing, or one character more. -/
theorem matches_star_cons :
    Matches ('*' :: pattern) (c :: name) ↔
      Matches pattern (c :: name) ∨ Matches ('*' :: pattern) name := by
  simp only [matches_star]
  constructor
  · rintro ⟨part, rest, heq, hrest⟩
    cases part with
    | nil => exact .inl (heq ▸ hrest)
    | cons d part => exact .inr ⟨part, rest, (List.cons.inj heq).2, hrest⟩
  · rintro (h | ⟨part, rest, rfl, hrest⟩)
    · exact ⟨[], _, rfl, h⟩
    · exact ⟨c :: part, rest, rfl, hrest⟩

/-- What a pattern matches may have more in front of it if a star stands there. -/
theorem Matches.star_append {part : List Char} (h : Matches ('*' :: pattern) name) :
    Matches ('*' :: pattern) (part ++ name) := by
  rw [matches_star] at h ⊢
  obtain ⟨covered, rest, rfl, hrest⟩ := h
  exact ⟨part ++ covered, rest, (List.append_assoc ..).symm, hrest⟩

/-- Nothing but stars matches the empty name. -/
theorem allStars_iff : allStars pattern = true ↔ Matches pattern [] := by
  induction pattern with
  | nil => simp [allStars, matches_nil]
  | cons p pattern ih =>
    by_cases hp : p = '*'
    · subst hp
      simpa [allStars, matches_star] using ih
    · simp [allStars, hp, matches_single hp]

/-! ### Pieces -/

variable {pattern' name' rest : List Char}

/-- A piece that takes the whole name leaves the rest of its pattern to match
nothing. -/
theorem matches_of_piece_eq_ended (h : piece pattern name = .ended rest) :
    Matches pattern name ↔ Matches rest [] := by
  fun_induction piece pattern name with
  | case1 pattern =>
    cases h
    rfl
  | case2 => cases h
  | case3 p pattern c name hp hpc ih =>
    rw [matches_single_cons (fun heq => hp heq), ih h]
    exact and_iff_right hpc
  | case4 => cases h
  | case5 => cases h

/-- Such a piece is too long for less than the whole name. -/
theorem length_le_of_piece_eq_ended (h : piece pattern name = .ended rest)
    (hmatches : Matches pattern name') : name.length ≤ name'.length := by
  fun_induction piece pattern name generalizing name' with
  | case1 => exact Nat.zero_le _
  | case2 => cases h
  | case3 p pattern c name hp hpc ih =>
    obtain ⟨c', rest', rfl, -, hrest⟩ := (matches_single fun heq => hp heq).mp hmatches
    exact Nat.succ_le_succ (ih h hrest)
  | case4 => cases h
  | case5 => cases h

/-- Up to the next star, a pattern takes exactly the characters of its piece. -/
theorem matches_iff_of_piece_eq_star (h : piece pattern name = .star pattern' name') :
    Matches pattern name ↔ Matches ('*' :: pattern') name' := by
  fun_induction piece pattern name with
  | case1 => cases h
  | case2 =>
    cases h
    rfl
  | case3 p pattern c name hp hpc ih =>
    rw [matches_single_cons (fun heq => hp heq), ih h]
    exact and_iff_right hpc
  | case4 => cases h
  | case5 => cases h

/-- A later match of the piece gains nothing: the next star covers whatever
stands between the two. -/
theorem matches_of_piece_eq_star (h : piece pattern name = .star pattern' name')
    {part later : List Char} (hname : name = part ++ later) (hlater : Matches pattern later) :
    Matches ('*' :: pattern') name' := by
  fun_induction piece pattern name generalizing part later with
  | case1 => cases h
  | case2 =>
    cases h
    exact hname ▸ hlater.star_append
  | case3 p pattern c name hp hpc ih =>
    obtain ⟨c', later', rfl, -, hrest⟩ := (matches_single fun heq => hp heq).mp hlater
    -- both have lost their first character, so what stands between them has moved on by one
    have htail : name = (part ++ [c']).tail ++ later' := by
      have := congrArg List.tail hname
      cases part <;> simpa using this
    exact ih h htail hrest
  | case4 => cases h
  | case5 => cases h

theorem not_matches_of_piece_eq_mismatch (h : piece pattern name = .mismatch) :
    ¬ Matches pattern name := by
  fun_induction piece pattern name with
  | case1 => cases h
  | case2 => cases h
  | case3 p pattern c name hp hpc ih =>
    rw [matches_single_cons fun heq => hp heq]
    exact fun hmatches => ih h hmatches.2
  | case4 p pattern c name hp hpc =>
    rw [matches_single_cons fun heq => hp heq]
    exact fun hmatches => hpc hmatches.1
  | case5 =>
    rw [matches_nil]
    exact List.cons_ne_nil _ _

/-! ### The matcher -/

/-- Behind a star, taking the first place where the next piece matches loses no
match. -/
theorem matchesAfterStar_iff :
    matchesAfterStar pattern name = true ↔ Matches ('*' :: pattern) name := by
  fun_induction matchesAfterStar pattern name with
  | case1 pattern name rest h =>
    rw [allStars_iff, ← matches_of_piece_eq_ended h, matches_star]
    constructor
    · exact fun hmatches => ⟨[], name, rfl, hmatches⟩
    · rintro ⟨part, later, rfl, hlater⟩
      -- the piece is as long as the whole name, so nothing is left for the star
      have hlength := length_le_of_piece_eq_ended h hlater
      rw [List.length_append] at hlength
      obtain rfl : part = [] := List.length_eq_zero_iff.mp (by omega)
      exact hlater
  | case2 pattern name pattern' name' h ih =>
    rw [ih]
    constructor
    · intro hmatches
      exact matches_star.mpr ⟨[], name, rfl, (matches_iff_of_piece_eq_star h).mpr hmatches⟩
    · intro hmatches
      obtain ⟨part, later, hname, hlater⟩ := matches_star.mp hmatches
      exact matches_of_piece_eq_star h hname hlater
  | case3 pattern h =>
    refine iff_of_false Bool.false_ne_true fun hmatches => ?_
    obtain ⟨part, later, hname, hlater⟩ := matches_star.mp hmatches
    obtain ⟨rfl, rfl⟩ := List.append_eq_nil_iff.mp hname.symm
    exact not_matches_of_piece_eq_mismatch h hlater
  | case4 pattern c name h ih =>
    rw [ih, matches_star_cons]
    exact (or_iff_right (not_matches_of_piece_eq_mismatch h)).symm

theorem accepts_iff : accepts pattern name = true ↔ Matches pattern name := by
  rw [accepts]
  split
  · next rest h => rw [allStars_iff, matches_of_piece_eq_ended h]
  · next pattern' name' h => rw [matchesAfterStar_iff, matches_iff_of_piece_eq_star h]
  · next h => exact iff_of_false Bool.false_ne_true (not_matches_of_piece_eq_mismatch h)

/-! ### The scan -/

/-- Where a scan stands: at an index of the pattern and one of the name, and, once
it has met a star, with the index of the last one and the index in the name up to
which that star covers. -/
structure Scan where
  pattern : Nat
  name : Nat
  star : Option (Nat × Nat)

namespace Scan

/-- What a turn of a scan comes to. -/
inductive Turn where
  | verdict (accepted : Bool)
  | next (s : Scan)
  /-- The rest of the pattern is asked for from behind its end. -/
  | outOfBounds

/-- The last star is tried again, with one character more. -/
def back (s : Scan) : Turn :=
  match s.star with
  | none => .verdict false
  | some (star, covered) => .next ⟨star + 1, covered + 1, some (star, covered + 1)⟩

/-- One turn of a scan. -/
def turn (pattern name : List Char) (s : Scan) : Turn :=
  match name[s.name]? with
  | none =>
    if s.pattern ≤ pattern.length then .verdict (allStars (pattern.drop s.pattern))
    else .outOfBounds
  | some c =>
    match pattern[s.pattern]? with
    | none => s.back
    | some p =>
      if p = '*' then .next ⟨s.pattern + 1, s.name, some (s.pattern, s.name)⟩
      else if p = '?' ∨ p = c then .next ⟨s.pattern + 1, s.name + 1, s.star⟩
      else s.back

/-- From here the scan comes to an end with the verdict, and is never out of
bounds on the way. -/
inductive Ends (pattern name : List Char) : Scan → Bool → Prop
  | verdict {s : Scan} {accepted : Bool} (h : s.turn pattern name = .verdict accepted) :
      Ends pattern name s accepted
  | next {s s' : Scan} {accepted : Bool} (h : s.turn pattern name = .next s')
      (hrest : Ends pattern name s' accepted) : Ends pattern name s accepted

variable {i j : Nat} {star : Option (Nat × Nat)} {ps ns ps' ns' : List Char} {accepted : Bool}

theorem getElem?_of_drop {cs : List Char} (h : cs.drop i = c :: rest) :
    cs[i]? = some c ∧ cs.drop (i + 1) = rest ∧ i + 1 ≤ cs.length := by
  have hget : cs[i]? = some c := by rw [← List.head?_drop, h]; rfl
  refine ⟨hget, by rw [← List.tail_drop, h]; rfl, ?_⟩
  exact (List.getElem?_eq_some_iff.mp hget).1

/-- A character that stands for the next one of the name moves both indices. -/
theorem turn_of_covers (hps : pattern.drop i = p :: ps) (hns : name.drop j = c :: ns)
    (hp : p ≠ '*') (hpc : p = '?' ∨ p = c) :
    turn pattern name ⟨i, j, star⟩ = .next ⟨i + 1, j + 1, star⟩ := by
  simp only [turn, (getElem?_of_drop hps).1, (getElem?_of_drop hns).1, if_neg hp, if_pos hpc]

/-- A piece that takes the rest of the name leads to a verdict. -/
theorem ends_of_piece_eq_ended (h : piece ps ns = .ended rest) (hps : pattern.drop i = ps)
    (hi : i ≤ pattern.length) (hns : name.drop j = ns) :
    Ends pattern name ⟨i, j, star⟩ (allStars rest) := by
  fun_induction piece ps ns generalizing i j with
  | case1 ps =>
    cases h
    have hname : name[j]? = none := by rw [← List.head?_drop, hns]; rfl
    exact .verdict (by simp only [turn, hname, if_pos hi, hps])
  | case2 => cases h
  | case3 p ps c ns hp hpc ih =>
    obtain ⟨-, hps', hi'⟩ := getElem?_of_drop hps
    refine .next (turn_of_covers hps hns (fun heq => hp heq) hpc) ?_
    exact ih h hps' hi' (getElem?_of_drop hns).2.1
  | case4 => cases h
  | case5 => cases h

/-- A piece before a star leads to that star. -/
theorem ends_of_piece_eq_star (h : piece ps ns = .star ps' ns') (hps : pattern.drop i = ps)
    (hns : name.drop j = ns)
    (hrest : ∀ i j, pattern.drop (i + 1) = ps' → i + 1 ≤ pattern.length → name.drop j = ns' →
      Ends pattern name ⟨i + 1, j, some (i, j)⟩ accepted) :
    Ends pattern name ⟨i, j, star⟩ accepted := by
  fun_induction piece ps ns generalizing i j with
  | case1 => cases h
  | case2 ps ns hne =>
    cases h
    obtain ⟨hget, hps', hi'⟩ := getElem?_of_drop hps
    obtain ⟨c, ns, rfl⟩ := List.exists_cons_of_ne_nil hne
    refine .next ?_ (hrest i j hps' hi' hns)
    simp only [turn, hget, (getElem?_of_drop hns).1, if_true]
  | case3 p ps c ns hp hpc ih =>
    refine .next (turn_of_covers hps hns (fun heq => hp heq) hpc) ?_
    exact ih h (getElem?_of_drop hps).2.1 (getElem?_of_drop hns).2.1
  | case4 => cases h
  | case5 => cases h

/-- A piece that does not match leads back to the last star. -/
theorem ends_of_piece_eq_mismatch (h : piece ps ns = .mismatch) (hps : pattern.drop i = ps)
    (hns : name.drop j = ns)
    (hback : ∀ i j, turn pattern name ⟨i, j, star⟩ = back ⟨i, j, star⟩ →
      Ends pattern name ⟨i, j, star⟩ accepted) :
    Ends pattern name ⟨i, j, star⟩ accepted := by
  fun_induction piece ps ns generalizing i j with
  | case1 => cases h
  | case2 => cases h
  | case3 p ps c ns hp hpc ih =>
    refine .next (turn_of_covers hps hns (fun heq => hp heq) hpc) ?_
    exact ih h (getElem?_of_drop hps).2.1 (getElem?_of_drop hns).2.1
  | case4 p ps c ns hp hpc =>
    have hne : p ≠ '*' := fun heq => hp heq
    apply hback
    simp only [turn, (getElem?_of_drop hps).1, (getElem?_of_drop hns).1, if_neg hne, if_neg hpc]
  | case5 c ns =>
    have hnone : pattern[i]? = none := by rw [← List.head?_drop, hps]; rfl
    apply hback
    simp only [turn, hnone, (getElem?_of_drop hns).1]

/-- Behind a star the scan ends as the matcher does. -/
theorem ends_afterStar (hps : pattern.drop (i + 1) = ps) (hi : i + 1 ≤ pattern.length)
    (hns : name.drop j = ns) :
    Ends pattern name ⟨i + 1, j, some (i, j)⟩ (matchesAfterStar ps ns) := by
  fun_induction matchesAfterStar ps ns generalizing i j with
  | case1 ps ns rest h => exact ends_of_piece_eq_ended h hps hi hns
  | case2 ps ns ps' ns' h ih =>
    exact ends_of_piece_eq_star h hps hns fun i j hps' hi' hns' => ih hps' hi' hns'
  | case3 ps h => simp [piece] at h
  | case4 ps c ns h ih =>
    refine ends_of_piece_eq_mismatch h hps hns fun i' j' hturn => .next hturn ?_
    exact ih hps hi (getElem?_of_drop hns).2.1

/-- From the beginning the scan ends as the matcher does. -/
theorem ends_scan (pattern name : List Char) :
    Ends pattern name ⟨0, 0, none⟩ (accepts pattern name) := by
  rw [accepts]
  split
  · next rest h => exact ends_of_piece_eq_ended h rfl (Nat.zero_le _) rfl
  · next ps' ns' h =>
    exact ends_of_piece_eq_star h rfl rfl fun i j hps' hi' hns' => ends_afterStar hps' hi' hns'
  · next h => exact ends_of_piece_eq_mismatch h rfl rfl fun i j hturn => .verdict hturn

end Scan

/-- **The matcher decides the language of the pattern**, and so does the scan, which
always comes to an end and never asks for what is behind the pattern. -/
theorem decides_matches (pattern name : List Char) :
    ∃ accepted, Scan.Ends pattern name ⟨0, 0, none⟩ accepted ∧ accepts pattern name = accepted ∧
      (accepted = true ↔ Matches pattern name) :=
  ⟨accepts pattern name, Scan.ends_scan pattern name, rfl, accepts_iff⟩

end BranchCoverage.Glob
