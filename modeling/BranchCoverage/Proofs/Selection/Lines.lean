/-
Lines of a text.

Line feeds divide a text into pieces.  A piece with a line feed behind it is a line, but
for a carriage return at its end, and what stands behind the last line feed is one unless
it is empty (`lines_eq_ofPieces`).  Lines that are joined with line feeds are therefore
found again, if each has something in it and none ends in a carriage return
(`lines_intercalate`).
-/
import BranchCoverage.Selection.PrefixList

namespace BranchCoverage.PrefixList

/-- A piece in front of a line feed, without a carriage return at its end. -/
def chop (piece : List Char) : List Char :=
  if piece.getLast? = some '\r' then piece.dropLast else piece

/-- The lines of a text that is divided into these pieces. -/
def ofPieces : List (List Char) → List (List Char)
  | [] => []
  | [piece] => if piece = [] then [] else [piece]
  | piece :: next :: rest => chop piece :: ofPieces (next :: rest)

variable {piece : List Char} {c : Char}

theorem chop_cons (h : ¬ (c = '\r' ∧ piece = [])) : chop (c :: piece) = c :: chop piece := by
  rcases piece with - | ⟨d, rest⟩
  · have hc : c ≠ '\r' := fun heq => h ⟨heq, rfl⟩
    exact if_neg fun hlast => hc (Option.some.inj hlast)
  · rw [chop, chop, List.getLast?_cons_cons]
    split
    · exact List.dropLast_cons_cons
    · rfl

theorem chop_of_ne (h : piece.getLast? ≠ some '\r') : chop piece = piece :=
  if_neg h

/-! ### Dividing a text -/

/-- A text without line feeds is one line. -/
theorem lines_of_notMem (h : '\n' ∉ piece) :
    lines piece = if piece = [] then [] else [piece] := by
  induction piece with
  | nil => rfl
  | cons c rest ih =>
    have hc : '\n' ≠ c := List.ne_of_not_mem_cons h
    have hrest : '\n' ∉ rest := List.not_mem_of_not_mem_cons h
    have hreturn : ¬ (c = '\r' ∧ rest.head? = some '\n') := by
      rintro ⟨-, hhead⟩
      exact hrest (List.mem_of_head? hhead)
    rw [lines, if_neg (Ne.symm hc), if_neg hreturn, ih hrest]
    by_cases hnil : rest = []
    · subst hnil
      rfl
    · rw [if_neg hnil]
      rfl

/-- A line feed ends the first line. -/
theorem lines_append_feed (h : '\n' ∉ piece) (after : List Char) :
    lines (piece ++ '\n' :: after) = chop piece :: lines after := by
  induction piece with
  | nil => rfl
  | cons c rest ih =>
    have hc : '\n' ≠ c := List.ne_of_not_mem_cons h
    have hrest : '\n' ∉ rest := List.not_mem_of_not_mem_cons h
    rw [List.cons_append, lines, if_neg (Ne.symm hc), ih hrest]
    by_cases hreturn : c = '\r' ∧ rest = []
    · -- the carriage return stands in front of the line feed
      obtain ⟨rfl, rfl⟩ := hreturn
      rfl
    · have hhead : ¬ (c = '\r' ∧ (rest ++ '\n' :: after).head? = some '\n') := by
        rintro ⟨hc, hhead⟩
        refine hreturn ⟨hc, ?_⟩
        cases rest with
        | nil => rfl
        | cons d rest =>
          obtain rfl : d = '\n' := Option.some.inj hhead
          exact absurd List.mem_cons_self hrest
      rw [if_neg hhead, chop_cons hreturn]

/-- **The lines of a text come from the pieces that its line feeds divide it into.** -/
theorem lines_eq_ofPieces (cs : List Char) : lines cs = ofPieces (cs.splitOn '\n') := by
  by_cases hmem : '\n' ∈ cs
  · obtain ⟨piece, after, hcs, hpiece⟩ := List.eq_append_cons_of_mem hmem
    have hshorter : after.length < cs.length := by
      rw [hcs, List.length_append, List.length_cons]
      omega
    rw [hcs, lines_append_feed hpiece, List.splitOn_append_cons_self_of_not_mem hpiece,
      lines_eq_ofPieces after]
    rcases hpieces : after.splitOn '\n' with - | ⟨next, rest⟩
    · exact absurd hpieces (List.splitOn_ne_nil _ _)
    · rfl
  · rw [lines_of_notMem hmem, List.splitOn_eq_singleton hmem]
    rfl
termination_by cs.length

theorem notMem_of_mem_splitOn {cs : List Char} (h : piece ∈ cs.splitOn '\n') : '\n' ∉ piece := by
  induction cs generalizing piece with
  | nil =>
    obtain rfl : piece = [] := List.mem_singleton.mp h
    exact List.not_mem_nil
  | cons c rest ih =>
    rw [List.splitOn_cons_eq_if_modifyHead] at h
    split at h
    · rcases List.mem_cons.mp h with rfl | h
      · exact List.not_mem_nil
      · exact ih h
    · next hc =>
      rcases hpieces : rest.splitOn '\n' with - | ⟨first, more⟩
      · exact absurd hpieces (List.splitOn_ne_nil _ _)
      · rw [hpieces] at h ih
        rcases List.mem_cons.mp h with rfl | h
        · exact List.not_mem_cons_of_ne_of_not_mem (fun heq => hc (by rw [← heq, beq_self_eq_true]))
            (ih List.mem_cons_self)
        · exact ih (List.mem_cons_of_mem _ h)

/-! ### Joining lines -/

theorem ofPieces_eq_self {ls : List (List Char)} (hne : ∀ l ∈ ls, l ≠ [])
    (hlast : ∀ l ∈ ls, l.getLast? ≠ some '\r') : ofPieces ls = ls := by
  induction ls with
  | nil => rfl
  | cons piece rest ih =>
    obtain ⟨hpiece, hne⟩ := List.forall_mem_cons.mp hne
    obtain ⟨hend, hlast⟩ := List.forall_mem_cons.mp hlast
    cases rest with
    | nil => exact if_neg hpiece
    | cons next rest =>
      rw [ofPieces, chop_of_ne hend, ih hne hlast]

/-- Lines that are joined with line feeds are the lines of what results. -/
theorem lines_intercalate {ls : List (List Char)} (hfeed : ∀ l ∈ ls, '\n' ∉ l)
    (hne : ∀ l ∈ ls, l ≠ []) (hlast : ∀ l ∈ ls, l.getLast? ≠ some '\r') :
    lines (['\n'].intercalate ls) = ls := by
  by_cases hnil : ls = []
  · subst hnil
    rfl
  · rw [lines_eq_ofPieces, List.splitOn_intercalate '\n' hfeed hnil, ofPieces_eq_self hne hlast]

end BranchCoverage.PrefixList
