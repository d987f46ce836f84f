/-
Tables of locations as summaries of the hits.

A table holds what was recorded since it was cleared last, and nothing else
(`holds_ofChanges`).  It keeps labels and identifiers in order, so tables that hold the
same are the same (`Ordered.ext`), however it came about.  Its text is a line for each
label, and as long as no label has a line feed in it, the labels and the numbers of their
identifiers can be read from these lines again (`read?_text`): the count is what stands
behind the last semicolon, whatever the label.
-/
import Mathlib.Data.Finset.Card
import Mathlib.Data.List.Sort
import Mathlib.Data.String.Basic
import BranchCoverage.Remote.Locations
import BranchCoverage.Proofs.Sorted
import BranchCoverage.Proofs.Step
import BranchCoverage.Proofs.Selection.Lines
import BranchCoverage.Proofs.Text.Numeral
import BranchCoverage.Proofs.Text.Order

namespace BranchCoverage.LocationTable

variable {t t' : LocationTable} {id i : UInt32} {label other : String} {ids : List UInt32}

/-! ### What a table holds -/

/-- The identifier is in the table, under the label. -/
def Holds (t : LocationTable) (id : UInt32) (label : String) : Prop :=
  ∃ ids, (label, ids) ∈ t ∧ id ∈ ids

theorem holds_cons :
    Holds ((other, ids) :: t) id label ↔ label = other ∧ id ∈ ids ∨ t.Holds id label := by
  constructor
  · rintro ⟨found, hmem, hid⟩
    rcases List.mem_cons.mp hmem with heq | hmem
    · cases heq
      exact .inl ⟨rfl, hid⟩
    · exact .inr ⟨found, hmem, hid⟩
  · rintro (⟨rfl, hid⟩ | ⟨found, hmem, hid⟩)
    · exact ⟨ids, List.mem_cons_self, hid⟩
    · exact ⟨found, List.mem_cons_of_mem _ hmem, hid⟩

theorem holds_record :
    (t.record id label).Holds i other ↔ i = id ∧ other = label ∨ t.Holds i other := by
  induction t with
  | nil =>
    rw [record, holds_cons, List.mem_singleton, and_comm]
  | cons entry rest ih =>
    obtain ⟨first, ids⟩ := entry
    rw [record]
    split
    · next heq =>
      subst heq
      rw [holds_cons, holds_cons, Sorted.mem_insert, and_or_left, or_assoc, and_comm]
    · split
      · rw [holds_cons, List.mem_singleton, and_comm]
      · rw [holds_cons, ih, holds_cons, or_left_comm]

/-! ### The order of a table -/

/-- Labels ascend, and so do the identifiers of each label, of which there is at least
one. -/
structure Ordered (t : LocationTable) : Prop where
  labels : (t.map Prod.fst).Pairwise (· < ·)
  ids : ∀ entry ∈ t, entry.2.Pairwise (· < ·)
  ne : ∀ entry ∈ t, entry.2 ≠ []

theorem labels_record :
    (t.record id label).map Prod.fst = Sorted.insert label (t.map Prod.fst) := by
  induction t with
  | nil => rfl
  | cons entry rest ih =>
    rw [record, List.map_cons, Sorted.insert]
    split
    · rfl
    · split
      · rfl
      · rw [List.map_cons, ih]

/-- Recording changes the entry of one label, or makes it. -/
theorem mem_record {entry : String × List UInt32} (h : entry ∈ t.record id label) :
    entry ∈ t ∨ ∃ ids, (ids = [] ∨ (label, ids) ∈ t) ∧ entry = (label, Sorted.insert id ids) := by
  induction t with
  | nil => exact .inr ⟨[], .inl rfl, List.mem_singleton.mp h⟩
  | cons first rest ih =>
    rw [record] at h
    split at h
    · next heq =>
      rcases List.mem_cons.mp h with rfl | hrest
      · exact .inr ⟨first.2, .inr (heq ▸ List.mem_cons_self), heq ▸ rfl⟩
      · exact .inl (List.mem_cons_of_mem _ hrest)
    · split at h
      · rcases List.mem_cons.mp h with rfl | hold
        · exact .inr ⟨[], .inl rfl, rfl⟩
        · exact .inl hold
      · rcases List.mem_cons.mp h with rfl | hrest
        · exact .inl List.mem_cons_self
        · rcases ih hrest with hold | ⟨ids, hids, hentry⟩
          · exact .inl (List.mem_cons_of_mem _ hold)
          · exact .inr ⟨ids, hids.imp_right (List.mem_cons_of_mem _), hentry⟩

theorem ordered_nil : Ordered [] :=
  ⟨List.Pairwise.nil, fun _ h => absurd h List.not_mem_nil, fun _ h => absurd h List.not_mem_nil⟩

/-- Recording keeps a table in order. -/
theorem Ordered.record (h : t.Ordered) (id : UInt32) (label : String) :
    (t.record id label).Ordered where
  labels := by
    rw [labels_record]
    exact Sorted.pairwise_insert h.labels
  ids := by
    intro entry hentry
    rcases mem_record hentry with hold | ⟨ids, rfl | hids, rfl⟩
    · exact h.ids entry hold
    · exact List.pairwise_singleton _ _
    · exact Sorted.pairwise_insert (h.ids _ hids)
  ne := by
    intro entry hentry
    rcases mem_record hentry with hold | ⟨ids, -, rfl⟩
    · exact h.ne entry hold
    · exact List.ne_nil_of_mem (Sorted.mem_insert.mpr (.inl rfl))

/-- A label has one entry at most. -/
theorem Ordered.holds_iff (h : t.Ordered) (hmem : (label, ids) ∈ t) :
    t.Holds id label ↔ id ∈ ids := by
  refine ⟨?_, fun hid => ⟨ids, hmem, hid⟩⟩
  rintro ⟨found, hfound, hid⟩
  have hnodup : (t.map Prod.fst).Nodup := h.labels.imp fun hlt => ne_of_lt hlt
  cases List.inj_on_of_nodup_map hnodup hfound hmem rfl
  exact hid

theorem Ordered.mem_of_holds (h : t.Ordered) (h' : t'.Ordered)
    (hsame : ∀ id label, t.Holds id label ↔ t'.Holds id label) {entry : String × List UInt32}
    (hmem : entry ∈ t) : entry ∈ t' := by
  obtain ⟨label, ids⟩ := entry
  obtain ⟨id, hid⟩ := List.exists_mem_of_ne_nil ids (h.ne _ hmem)
  obtain ⟨ids', hmem', -⟩ := (hsame id label).mp ⟨ids, hmem, hid⟩
  have hids : ids = ids' := (h.ids _ hmem).eq_of_mem_iff (h'.ids _ hmem') fun i => by
    rw [← h.holds_iff hmem, hsame, h'.holds_iff hmem']
  exact hids ▸ hmem'

/-- **Tables in order that hold the same are the same.** -/
theorem Ordered.ext (h : t.Ordered) (h' : t'.Ordered)
    (hsame : ∀ id label, t.Holds id label ↔ t'.Holds id label) : t = t' := by
  have hirrefl : Std.Irrefl fun e e' : String × List UInt32 => e.1 < e'.1 :=
    ⟨fun e => lt_irrefl e.1⟩
  have hantisymm : Std.Antisymm fun e e' : String × List UInt32 => e.1 < e'.1 :=
    ⟨fun _ _ hlt hgt => absurd hgt (lt_asymm hlt)⟩
  refine (List.pairwise_map.mp h.labels).eq_of_mem_iff (List.pairwise_map.mp h'.labels) ?_
  exact fun entry =>
    ⟨h.mem_of_holds h' hsame, h'.mem_of_holds h fun id label => (hsame id label).symm⟩

/-! ### What was recorded -/

variable {changes : List Change}

/-- The identifier was recorded under the label, and the table was not cleared since. -/
def Recorded (changes : List Change) (id : UInt32) (label : String) : Prop :=
  ∃ before after, changes = before ++ .record id label :: after ∧ Change.clear ∉ after

theorem not_recorded_nil : ¬ Recorded [] id label := by
  rintro ⟨before, after, heq, -⟩
  exact List.append_ne_nil_of_right_ne_nil before (List.cons_ne_nil _ _) heq.symm

/-- Without a clearing among them, changes only add to what was recorded before. -/
theorem recorded_append {later : List Change} (hclear : Change.clear ∉ later) :
    Recorded (changes ++ later) id label ↔
      Change.record id label ∈ later ∨ Recorded changes id label := by
  constructor
  · rintro ⟨before, after, heq, hafter⟩
    rcases List.append_eq_append_iff.mp heq with ⟨early, rfl, rfl⟩ | ⟨early, rfl, hrest⟩
    · exact .inl (List.mem_append_right _ List.mem_cons_self)
    · rcases List.cons_eq_append_iff.mp hrest with ⟨rfl, hlater⟩ | ⟨between, rfl, rfl⟩
      · exact .inl (hlater ▸ List.mem_cons_self)
      · exact .inr ⟨before, between, rfl, fun hmem => hafter (List.mem_append_left _ hmem)⟩
  · rintro (hmem | ⟨before, after, rfl, hafter⟩)
    · obtain ⟨early, late, rfl⟩ := List.append_of_mem hmem
      refine ⟨changes ++ early, late, (List.append_assoc ..).symm, fun hlate => hclear ?_⟩
      exact List.mem_append_right _ (List.mem_cons_of_mem _ hlate)
    · refine ⟨before, after ++ later, by rw [List.append_assoc, List.cons_append], ?_⟩
      exact fun hmem => (List.mem_append.mp hmem).elim hafter hclear

theorem not_recorded_clear : ¬ Recorded (changes ++ [.clear]) id label := by
  rintro ⟨before, after, heq, hafter⟩
  rcases List.eq_nil_or_concat after with rfl | ⟨after', last, rfl⟩
  · obtain ⟨-, hlast⟩ := List.append_inj' heq rfl
    cases hlast
  · rw [List.concat_eq_append, ← List.cons_append, ← List.append_assoc] at heq
    obtain ⟨-, hlast⟩ := List.append_inj' heq rfl
    cases hlast
    exact hafter (by simp)

theorem ofChanges_append (changes : List Change) (change : Change) :
    ofChanges (changes ++ [change]) = (ofChanges changes).apply change :=
  List.foldl_concat ..

theorem ordered_ofChanges (changes : List Change) : (ofChanges changes).Ordered := by
  -- from the end, where the last change meets the table that the others made
  induction changes using List.reverseRecOn with
  | nil => exact ordered_nil
  | append_singleton changes change ih =>
    rw [ofChanges_append]
    cases change with
    | record id label => exact ih.record id label
    | clear => exact ordered_nil

/-- **A table holds what was recorded since it was cleared.** -/
theorem holds_ofChanges (changes : List Change) :
    (ofChanges changes).Holds id label ↔ Recorded changes id label := by
  induction changes using List.reverseRecOn with
  | nil =>
    refine iff_of_false ?_ not_recorded_nil
    rintro ⟨ids, hmem, -⟩
    cases hmem
  | append_singleton changes change ih =>
    rw [ofChanges_append]
    cases change with
    | record id' label' =>
      have hclear : Change.clear ∉ [Change.record id' label'] := by simp
      rw [recorded_append hclear, List.mem_singleton, Change.record.injEq, ← ih]
      exact holds_record
    | clear =>
      refine iff_of_false ?_ not_recorded_clear
      rintro ⟨ids, hmem, -⟩
      cases hmem

/-! ### The text of a table -/

/-- What a line says: a label and a number of identifiers. -/
abbrev Row := String × Nat

/-- The line that says it. -/
def Row.line (row : Row) : String :=
  row.1 ++ ";" ++ toString row.2

/-- The lines of rows. -/
def text (rows : List Row) : String :=
  "\n".intercalate (rows.map Row.line)

/-- The rows of a table. -/
def rows (t : LocationTable) : List Row :=
  t.map fun entry => (entry.1, entry.2.length)

theorem render_eq (t : LocationTable) : t.render = text t.rows := by
  rw [render, text, rows, List.map_map]
  rfl

/-- A line in front of its last semicolon and behind it. -/
def cut? : List Char → Option (List Char × List Char)
  | [] => none
  | c :: rest =>
    match cut? rest with
    | some (before, after) => some (c :: before, after)
    | none => if c = ';' then some ([], rest) else none

/-- Reads the label and the number that a line says. -/
def readLine? (line : List Char) : Option Row := do
  let (label, count) ← cut? line
  let n ← Text.digits? count
  pure (String.ofList label, n)

/-- Reads what all the lines of a text say. -/
def read? (s : String) : Option (List Row) :=
  (PrefixList.lines s.toList).mapM readLine?

theorem cut?_of_notMem {cs : List Char} (h : ';' ∉ cs) : cut? cs = none := by
  induction cs with
  | nil => rfl
  | cons c rest ih =>
    rw [cut?, ih (List.not_mem_of_not_mem_cons h)]
    exact if_neg (List.ne_of_not_mem_cons h).symm

theorem cut?_append {after : List Char} (h : ';' ∉ after) (before : List Char) :
    cut? (before ++ ';' :: after) = some (before, after) := by
  induction before with
  | nil =>
    rw [List.nil_append, cut?, cut?_of_notMem h]
    rfl
  | cons c before ih => rw [List.cons_append, cut?, ih]

theorem Row.toList_line (row : Row) :
    row.line.toList = row.1.toList ++ ';' :: (toString row.2).toList := by
  rw [line, String.toList_append, String.toList_append, List.append_assoc]
  rfl

theorem readLine?_line (row : Row) : readLine? row.line.toList = some row := by
  have hcount : ';' ∉ (toString row.2).toList := fun hmem =>
    absurd (Text.isDigit_of_mem_toString hmem) (by decide)
  rw [readLine?, row.toList_line, cut?_append hcount]
  show (Text.digits? (toString row.2).toList).bind _ = _
  rw [Text.digits?_toString, String.ofList_toList]
  rfl

/-- A line has a digit at its end. -/
theorem Row.exists_getLast?_line (row : Row) :
    ∃ c, row.line.toList.getLast? = some c ∧ c.isDigit = true := by
  obtain ⟨c, hc⟩ := Option.isSome_iff_exists.mp
    (List.getLast?_isSome.mpr (Text.toString_toList_ne_nil row.2))
  refine ⟨c, ?_, Text.isDigit_of_mem_toString (List.mem_of_getLast? hc)⟩
  rw [row.toList_line, List.getLast?_append, List.getLast?_cons, hc]
  rfl

/-- **The rows can be read from their lines** if no label has a line feed in it. -/
theorem read?_text {rows : List Row} (h : ∀ row ∈ rows, '\n' ∉ row.1.toList) :
    read? (text rows) = some rows := by
  have hlines : PrefixList.lines (text rows).toList = rows.map (·.line.toList) := by
    have htext : (text rows).toList = ['\n'].intercalate (rows.map (·.line.toList)) := by
      rw [text, String.toList_intercalate, List.map_map]
      rfl
    rw [htext]
    refine PrefixList.lines_intercalate ?_ ?_ ?_
    · refine List.forall_mem_map.mpr fun row hrow hmem => ?_
      rw [row.toList_line] at hmem
      rcases List.mem_append.mp hmem with hlabel | hcount
      · exact h row hrow hlabel
      · rcases List.mem_cons.mp hcount with heq | hdigit
        · cases heq
        · exact absurd (Text.isDigit_of_mem_toString hdigit) (by decide)
    · refine List.forall_mem_map.mpr fun row _ => ?_
      rw [row.toList_line]
      exact List.append_ne_nil_of_right_ne_nil _ (List.cons_ne_nil _ _)
    · refine List.forall_mem_map.mpr fun row _ hreturn => ?_
      obtain ⟨c, hlast, hdigit⟩ := row.exists_getLast?_line
      obtain rfl : c = '\r' := Option.some.inj (hlast.symm.trans hreturn)
      exact absurd hdigit (by decide)
  rw [read?, hlines, List.mapM_map]
  exact (mapM_eq_some_map fun row _ => readLine?_line row).trans (congrArg some (List.map_id' rows))

theorem text_eq_empty_iff {rows : List Row} : text rows = "" ↔ rows = [] := by
  refine ⟨fun h => ?_, fun h => h ▸ rfl⟩
  rcases rows with - | ⟨row, rest⟩
  · rfl
  · exfalso
    have hnil := congrArg String.toList h
    rw [text, String.toList_intercalate, List.map_cons, List.map_cons, row.toList_line] at hnil
    cases rest <;> simp at hnil

/-! ### Summaries -/

/-- The rows say of each label under which something was recorded how many identifiers
there were. -/
structure Lists (changes : List Change) (rows : List Row) : Prop where
  /-- The labels ascend, byte by byte. -/
  ascending : (rows.map fun row => Text.Utf8.encode row.1).Pairwise (· < ·)
  label : ∀ label, label ∈ rows.map Prod.fst ↔ ∃ id, Recorded changes id label
  count : ∀ label n, (label, n) ∈ rows →
    ∃ ids : Finset UInt32, (∀ id, id ∈ ids ↔ Recorded changes id label) ∧ ids.card = n

theorem lists_rows (changes : List Change) : Lists changes (ofChanges changes).rows where
  ascending := by
    rw [rows, List.map_map, List.pairwise_map]
    exact (List.pairwise_map.mp (ordered_ofChanges changes).labels).imp Text.Utf8.encode_lt_encode
  label := by
    intro label
    simp only [← holds_ofChanges, rows, List.map_map, List.mem_map, Function.comp_apply]
    constructor
    · rintro ⟨⟨_, ids⟩, hmem, rfl⟩
      obtain ⟨id, hid⟩ := List.exists_mem_of_ne_nil ids ((ordered_ofChanges changes).ne _ hmem)
      exact ⟨id, ids, hmem, hid⟩
    · rintro ⟨id, ids, hmem, -⟩
      exact ⟨(label, ids), hmem, rfl⟩
  count := by
    intro label n hmem
    obtain ⟨⟨_, ids⟩, hentry, heq⟩ := List.mem_map.mp hmem
    cases heq
    have hordered := ordered_ofChanges changes
    refine ⟨ids.toFinset, fun id => ?_, List.toFinset_card_of_nodup ?_⟩
    · rw [List.mem_toFinset, ← holds_ofChanges, hordered.holds_iff hentry]
    · exact (hordered.ids _ hentry).imp UInt32.ne_of_lt

/-- The text is a summary of what was recorded since the table was cleared. -/
structure Summarizes (changes : List Change) (s : String) : Prop where
  /-- Only what was recorded matters, not when and how often. -/
  same : ∀ changes', (∀ id label, Recorded changes id label ↔ Recorded changes' id label) →
    (ofChanges changes').render = s
  /-- So those who record since the table was cleared may do so in any order. -/
  order : ∀ before calls calls', changes = before ++ calls → Change.clear ∉ calls →
    calls.Perm calls' → (ofChanges (before ++ calls')).render = s
  /-- There is a line for each label, and the lines can be told apart. -/
  lines : ∃ rows, Lists changes rows ∧ s = text rows ∧
    ((∀ id label, Recorded changes id label → '\n' ∉ label.toList) → read? s = some rows)
  empty : s = "" ↔ ∀ id label, ¬ Recorded changes id label

theorem render_congr {changes changes' : List Change}
    (h : ∀ id label, Recorded changes id label ↔ Recorded changes' id label) :
    (ofChanges changes).render = (ofChanges changes').render := by
  have hsame := (ordered_ofChanges changes).ext (ordered_ofChanges changes') fun id label => by
    rw [holds_ofChanges, holds_ofChanges, h]
  rw [hsame]

/-- **The text of a table is a faithful summary of the hits.** -/
theorem summarizes_render (changes : List Change) :
    Summarizes changes (ofChanges changes).render where
  same changes' h := (render_congr h).symm
  order := by
    rintro before calls calls' rfl hclear hperm
    refine (render_congr fun id label => ?_).symm
    rw [recorded_append hclear, recorded_append fun hmem => hclear (hperm.mem_iff.mpr hmem),
      hperm.mem_iff]
  lines := by
    have hlists := lists_rows changes
    refine ⟨_, hlists, render_eq _, fun hfeed => ?_⟩
    rw [render_eq]
    refine read?_text fun row hrow => ?_
    obtain ⟨id, hid⟩ := (hlists.label row.1).mp (List.mem_map_of_mem hrow)
    exact hfeed id row.1 hid
  empty := by
    have hlists := lists_rows changes
    rw [render_eq, text_eq_empty_iff, List.eq_nil_iff_forall_not_mem]
    constructor
    · intro hnone id label hid
      obtain ⟨row, hrow, -⟩ := List.mem_map.mp ((hlists.label label).mpr ⟨id, hid⟩)
      exact hnone row hrow
    · intro hnone row hrow
      obtain ⟨id, hid⟩ := (hlists.label row.1).mp (List.mem_map_of_mem hrow)
      exact hnone id row.1 hid

example :
    let t := ofChanges [.record 9 "M", .clear, .record 5 "M;1", .record 7 "", .record 5 "M;1",
      .record 7 "M;1"]
    t.render = ";1\nM;1;2" ∧ read? t.render = some [("", 1), ("M;1", 2)] := by
  decide +kernel

end BranchCoverage.LocationTable
