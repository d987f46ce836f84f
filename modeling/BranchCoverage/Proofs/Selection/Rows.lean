/-
Lists of prefixes as rows.

What a list of prefixes gives is read off the pieces that line feeds divide it into, each
on its own (`parse_eq_filterMap`): neither the carriage return that a line loses nor the
line feed that the last one may do without makes a difference.  Lists can therefore be
put behind each other (`parse_append`), and a list can be written with blank rows,
comments and both kinds of line ends, as long as its entries are such as can be read
(`parse_written`).
-/
import BranchCoverage.Proofs.Selection.Lines
import BranchCoverage.Proofs.Text.Whitespace

namespace BranchCoverage.PrefixList

open Text (IsBlank Bare trimmed)

variable {line cs after blank : List Char} {p : String}

/-- What a comment starts with. -/
abbrev mark : List Char := [' ', ':']

/-- Nothing, or a comment. -/
abbrev IsComment (cs : List Char) : Prop :=
  cs = [] ∨ mark <+: cs

/-! ### A line and its comment -/

theorem exists_comment (line : List Char) :
    ∃ after, line = uncommented line ++ after ∧ IsComment after := by
  fun_induction uncommented line with
  | case1 => exact ⟨[], rfl, .inl rfl⟩
  | case2 comment => exact ⟨mark ++ comment, rfl, .inr (List.prefix_append _ _)⟩
  | case3 c rest _ ih =>
    obtain ⟨after, hrest, hafter⟩ := ih
    exact ⟨after, by rw [List.cons_append, ← hrest], hafter⟩

theorem not_mark_infix_uncommented (line : List Char) : ¬ mark <:+: uncommented line := by
  fun_induction uncommented line with
  | case1 => decide
  | case2 => decide
  | case3 c rest hnot ih =>
    rw [List.infix_cons_iff, not_or]
    refine ⟨?_, ih⟩
    -- a colon that is left behind the blank is behind it in the line, too
    obtain ⟨after, hrest, -⟩ := exists_comment rest
    rintro ⟨more, hmore⟩
    obtain ⟨rfl, hcolon⟩ := List.cons.inj hmore
    refine hnot (more ++ after) rfl ?_
    rw [hrest, ← hcolon]
    rfl

/-- A line is cut in front of its first mark. -/
theorem uncommented_append (h : ¬ mark <:+: cs) (hafter : IsComment after) :
    uncommented (cs ++ after) = cs := by
  induction cs with
  | nil =>
    rcases hafter with rfl | ⟨comment, rfl⟩
    · rfl
    · rfl
  | cons c rest ih =>
    obtain ⟨hhere, hrest⟩ := not_or.mp (List.infix_cons_iff.not.mp h)
    rw [List.cons_append, uncommented, ih hrest]
    rintro comment rfl hcolon
    rcases rest with - | ⟨d, rest⟩
    · -- what follows does not start with a colon
      rcases hafter with rfl | ⟨more, rfl⟩
      · exact absurd hcolon (List.cons_ne_nil _ _).symm
      · exact absurd (List.cons.inj hcolon).1 (by decide)
    · obtain ⟨rfl, -⟩ := List.cons.inj hcolon
      exact hhere ⟨rest, rfl⟩

theorem not_mark_infix_append (h : ¬ mark <:+: cs) (hblank : IsBlank blank) :
    ¬ mark <:+: cs ++ blank := by
  rintro ⟨before, after, heq⟩
  rcases List.append_eq_append_iff.mp heq with ⟨more, hcs, -⟩ | ⟨more, hcs, hmore⟩
  · -- the mark ends within the text
    exact h ⟨before, more, hcs.symm⟩
  · rcases List.eq_nil_or_concat more with rfl | ⟨front, c, rfl⟩
    · exact h ⟨before, [], by rw [List.append_nil, hcs, List.append_nil]⟩
    · -- the colon would stand in the white space
      have hc : c = ':' := by
        have hlast := congrArg List.getLast? hcs
        simpa using hlast.symm
      have hspace : Text.isSpace c = true := hblank c (by simp [hmore])
      rw [hc] at hspace
      exact absurd hspace (by decide)

/-! ### What a line gives -/

/-- The entry on a line, if there is one. -/
def nameOn? (line : List Char) : Option String :=
  let name := trimmed (uncommented line)
  if name = [] then none else some (String.ofList name)

theorem parse_eq_filterMap_lines (text : String) :
    parse text = (lines text.toList).filterMap nameOn? := by
  rw [parse]
  induction lines text.toList with
  | nil => rfl
  | cons line rest ih =>
    by_cases hname : trimmed (uncommented line) = []
    · have hentry : nameOn? line = none := if_pos hname
      rw [List.filterMap_cons_none hentry, ← ih, List.map_cons,
        List.filter_cons_of_neg (by simp [hname])]
    · have hentry : nameOn? line = some _ := if_neg hname
      rw [List.filterMap_cons_some hentry, ← ih, List.map_cons,
        List.filter_cons_of_pos (by simp [hname]), List.map_cons]

/-- White space at the end of a line makes no difference, be it in the comment or in
front of it. -/
theorem nameOn?_append_blank (line : List Char) (hblank : IsBlank blank) :
    nameOn? (line ++ blank) = nameOn? line := by
  obtain ⟨after, hline, hafter⟩ := exists_comment line
  have hfree := not_mark_infix_uncommented line
  have hname : trimmed (uncommented (line ++ blank)) = trimmed (uncommented line) := by
    rcases hafter with rfl | hmark
    · -- there is no mark in the white space either, and trimming takes it away
      rw [List.append_nil] at hline
      rw [← hline] at hfree
      have hall := uncommented_append (not_mark_infix_append hfree hblank) (.inl rfl)
      rw [List.append_nil] at hall
      rw [hall, ← hline, Text.trimmed_append_right _ hblank]
    · -- the comment reaches up to the end and takes the white space with it
      have hwhole : line ++ blank = uncommented line ++ (after ++ blank) := by
        rw [← List.append_assoc, ← hline]
      have hcomment : IsComment (after ++ blank) := .inr (hmark.trans (List.prefix_append _ _))
      rw [hwhole, uncommented_append hfree hcomment]
  rw [nameOn?, nameOn?, hname]

theorem isBlank_carriage (carriage : Bool) : IsBlank (if carriage then ['\r'] else []) := by
  cases carriage with
  | false => exact List.forall_mem_nil _
  | true => exact List.forall_mem_singleton.mpr rfl

theorem nameOn?_chop (line : List Char) : nameOn? (chop line) = nameOn? line := by
  rw [chop]
  split
  · next hlast =>
    obtain ⟨front, hline⟩ := List.getLast?_eq_some_iff.mp hlast
    rw [hline, List.dropLast_concat]
    exact (nameOn?_append_blank front (isBlank_carriage true)).symm
  · rfl

theorem filterMap_nameOn?_ofPieces (pieces : List (List Char)) :
    (ofPieces pieces).filterMap nameOn? = pieces.filterMap nameOn? := by
  fun_induction ofPieces pieces with
  | case1 => rfl
  | case2 => rfl
  | case3 => rfl
  | case4 piece next rest ih =>
    rw [List.filterMap_cons, List.filterMap_cons, nameOn?_chop, ih]

theorem parse_eq_filterMap (text : String) :
    parse text = (text.toList.splitOn '\n').filterMap nameOn? := by
  rw [parse_eq_filterMap_lines, lines_eq_ofPieces, filterMap_nameOn?_ofPieces]

/-- A list behind a line feed adds what it gives itself. -/
theorem parse_append (a b : String) : parse (a ++ "\n" ++ b) = parse a ++ parse b := by
  have htext : (a ++ "\n" ++ b).toList = a.toList ++ '\n' :: b.toList := by simp
  rw [parse_eq_filterMap, htext, List.splitOn_append_cons_self, List.filterMap_append,
    ← parse_eq_filterMap, ← parse_eq_filterMap]

/-! ### Entries -/

/-- A prefix that can stand in a list. -/
structure IsEntry (p : String) : Prop where
  nonempty : p ≠ ""
  bare : Bare p.toList
  oneLine : '\n' ∉ p.toList
  unmarked : ¬ mark <:+: p.toList

theorem isEntry_of_nameOn? (h : nameOn? line = some p) (hline : '\n' ∉ line) : IsEntry p := by
  obtain ⟨hname, rfl⟩ : trimmed (uncommented line) ≠ [] ∧
      String.ofList (trimmed (uncommented line)) = p := by simpa [nameOn?] using h
  have hpart := Text.trimmed_infix (uncommented line)
  obtain ⟨after, hafter, -⟩ := exists_comment line
  exact {
    nonempty := by simpa using hname
    bare := by
      rw [String.toList_ofList]
      exact Text.bare_trimmed _
    oneLine := by
      rw [String.toList_ofList]
      intro hmem
      exact hline (by rw [hafter]; exact List.mem_append_left _ (hpart.subset hmem))
    unmarked := by
      rw [String.toList_ofList]
      exact fun hmark => not_mark_infix_uncommented line (hmark.trans hpart) }

theorem nameOn?_of_isEntry (h : IsEntry p) : nameOn? p.toList = some p := by
  have hcut := uncommented_append h.unmarked (.inl rfl)
  rw [List.append_nil] at hcut
  rw [nameOn?, hcut, Text.trimmed_eq_self h.bare]
  simp [h.nonempty]

/-- Only entries are read. -/
theorem isEntry_of_mem_parse {text : String} (h : p ∈ parse text) : IsEntry p := by
  rw [parse_eq_filterMap, List.mem_filterMap] at h
  obtain ⟨piece, hpiece, hentry⟩ := h
  exact isEntry_of_nameOn? hentry (notMem_of_mem_splitOn hpiece)

/-- A row of a list: an entry or none, white space, and a comment or none, in front of a
line feed or of a carriage return and a line feed. -/
structure Row where
  entry : Option {p : String // IsEntry p}
  padding : List Char
  comment : List Char
  carriage : Bool
  blank : IsBlank padding
  isComment : IsComment comment
  oneLine : '\n' ∉ padding ++ comment

namespace Row

/-- The letters of the entry. -/
def name (r : Row) : List Char :=
  match r.entry with
  | none => []
  | some p => p.val.toList

/-- A row as it is written. -/
def text (r : Row) : List Char :=
  r.name ++ r.padding ++ r.comment ++ if r.carriage then ['\r'] else []

variable (r : Row)

theorem bare_name : Bare r.name := by
  rw [name]
  split
  · exact ⟨by simp, by simp⟩
  · next p _ => exact p.property.bare

theorem not_mark_infix_name : ¬ mark <:+: r.name := by
  rw [name]
  split
  · decide
  · next p _ => exact p.property.unmarked

theorem notMem_text : '\n' ∉ r.text := by
  have hname : '\n' ∉ r.name := by
    rw [name]
    split
    · exact List.not_mem_nil
    · next p _ => exact p.property.oneLine
  have hend : '\n' ∉ (if r.carriage then ['\r'] else []) := by
    cases r.carriage <;> decide
  rw [text, List.append_assoc r.name, List.mem_append, List.mem_append, not_or, not_or]
  exact ⟨⟨hname, r.oneLine⟩, hend⟩

theorem nameOn?_text : nameOn? r.text = r.entry.map Subtype.val := by
  have hcut : uncommented (r.name ++ r.padding ++ r.comment) = r.name ++ r.padding :=
    uncommented_append (not_mark_infix_append r.not_mark_infix_name r.blank) r.isComment
  rw [text, nameOn?_append_blank _ (isBlank_carriage _), nameOn?, hcut,
    Text.trimmed_append_right _ r.blank, Text.trimmed_eq_self r.bare_name, name]
  cases r.entry with
  | none => rfl
  | some p => simp [p.property.nonempty]

end Row

/-- Rows, one behind the other. -/
def written (rows : List Row) : String :=
  String.ofList (['\n'].intercalate (rows.map Row.text))

theorem parse_written (rows : List Row) :
    parse (written rows) = rows.filterMap fun r => r.entry.map Subtype.val := by
  by_cases hnil : rows = []
  · subst hnil
    rfl
  · have hfeed : ∀ l ∈ rows.map Row.text, '\n' ∉ l :=
      List.forall_mem_map.mpr fun r _ => r.notMem_text
    rw [parse_eq_filterMap, written, String.toList_ofList,
      List.splitOn_intercalate '\n' hfeed (by simpa using hnil), List.filterMap_map]
    exact congrArg (List.filterMap · rows) (funext Row.nameOn?_text)

/-! ### Joining entries -/

/-- An entry on a line of its own, with what stands behind it in front of the line feed. -/
theorem parse_entry_append (h : IsEntry p) (rest : String) (hrest : IsBlank rest.toList)
    (hfeed : '\n' ∉ rest.toList) : parse (p ++ rest) = [p] := by
  have hline : '\n' ∉ p.toList ++ rest.toList := by
    rw [List.mem_append, not_or]
    exact ⟨h.oneLine, hfeed⟩
  rw [parse_eq_filterMap, String.toList_append, List.splitOn_eq_singleton hline,
    List.filterMap_cons_some (b := p), List.filterMap_nil]
  rw [nameOn?_append_blank _ hrest, nameOn?_of_isEntry h]

theorem parse_intercalate {ps : List String} (h : ∀ p ∈ ps, IsEntry p) (rest : String)
    (hrest : IsBlank rest.toList) (hfeed : '\n' ∉ rest.toList) :
    parse ((rest ++ "\n").intercalate ps) = ps := by
  induction ps with
  | nil => rfl
  | cons p more ih =>
    obtain ⟨hp, hmore⟩ := List.forall_mem_cons.mp h
    cases more with
    | nil =>
      have halone := parse_entry_append hp "" (List.forall_mem_nil _) List.not_mem_nil
      rwa [String.append_empty] at halone
    | cons q more =>
      rw [String.intercalate_cons_cons, ← String.append_assoc, parse_append,
        parse_entry_append hp rest hrest hfeed, ih hmore, List.singleton_append]

/-- What a reader of lists does that takes their rows one by one. -/
structure ReadsRows (read : String → List String) : Prop where
  append : ∀ a b, read (a ++ "\n" ++ b) = read a ++ read b
  entries : ∀ text, ∀ p ∈ read text, IsEntry p
  /-- Rows without an entry, white space behind one, comments and the kind of the line
  ends make no difference. -/
  written : ∀ rows, read (written rows) = rows.filterMap fun r => r.entry.map Subtype.val
  joined : ∀ ps, (∀ p ∈ ps, IsEntry p) →
    read ("\n".intercalate ps) = ps ∧ read ("\r\n".intercalate ps) = ps
  idempotent : ∀ text,
    read ("\n".intercalate (read text)) = read text ∧
      read ("\r\n".intercalate (read text)) = read text

/-- **Lists of prefixes can be put behind each other, commented and written again.** -/
theorem readsRows_parse : ReadsRows parse := by
  have hjoined : ∀ ps, (∀ p ∈ ps, IsEntry p) →
      parse ("\n".intercalate ps) = ps ∧ parse ("\r\n".intercalate ps) = ps := fun ps h =>
    ⟨parse_intercalate h "" (isBlank_carriage false) (by decide),
      parse_intercalate h "\r" (isBlank_carriage true) (by decide)⟩
  exact {
    append := parse_append
    entries := fun _ _ hmem => isEntry_of_mem_parse hmem
    written := parse_written
    joined := hjoined
    idempotent := fun text => hjoined _ fun _ hmem => isEntry_of_mem_parse hmem }

/-- A prefix may start with a colon.  Behind a blank, it is a comment. -/
example : parse ":Acme\n :Acme" = [":Acme"] := by decide

end BranchCoverage.PrefixList
