/-
Where paths lead in a tree, and what is left of that when a file is written.

Names are followed one at a time (`follow_cons`), and what one of them comes to
does not depend on the contents of files (`SameShape.advance_eq`).  So trees
that differ in these alone lead everywhere alike (`SameShape.leadsTo_eq`).  A
path to a directory with a name behind it leads to the entry of that name, or to
nothing at all when the name or the path has grown too long (`leadsTo_join`).
-/
import BranchCoverage.Files.Tree

namespace BranchCoverage

/-! ### Text of paths -/

theorem startsWith_slash {s : String} : s.startsWith "/" = true ↔ ['/'] <+: s.toList := by
  rw [String.startsWith_string_iff]
  rfl

theorem endsWith_slash {s : String} : s.endsWith "/" = true ↔ ['/'] <:+ s.toList := by
  rw [String.endsWith_eq_endsWith_toSlice, String.Slice.endsWith_string_iff]
  simp

namespace Path

theorem pieces_ne_nil (cs : List Char) : pieces cs ≠ [] := by
  cases cs with
  | nil => simp [pieces]
  | cons c rest =>
    rw [pieces]
    split
    · simp
    · split <;> simp

/-- A slash parts the pieces before it from those behind it. -/
theorem pieces_append_slash (front back : List Char) :
    pieces (front ++ '/' :: back) = pieces front ++ pieces back := by
  induction front with
  | nil => simp [pieces]
  | cons c rest ih =>
    rw [List.cons_append, pieces, ih]
    by_cases hc : c = '/'
    · rw [if_pos hc, pieces, if_pos hc]
      rfl
    · rw [if_neg hc, pieces, if_neg hc]
      obtain ⟨piece, more, hrest⟩ := List.exists_cons_of_ne_nil (pieces_ne_nil rest)
      rw [hrest]
      rfl

theorem pieces_of_notMem {name : List Char} (h : '/' ∉ name) : pieces name = [name] := by
  induction name with
  | nil => rfl
  | cons c rest ih =>
    rw [List.mem_cons, not_or] at h
    rw [pieces, if_neg (Ne.symm h.1), ih h.2]

/-- The text of a joined path goes on where that of the directory ends. -/
theorem exists_toList_join (directory name : String) :
    ∃ more ⊆ '/' :: name.toList, (join directory name).toList = directory.toList ++ more := by
  rw [join]
  split
  · exact ⟨name.toList, List.subset_cons_self _ _, String.toList_append⟩
  · exact ⟨'/' :: name.toList, List.Subset.refl _, by simp⟩

end Path

namespace FileTree

/-- What can be the name of an entry. -/
structure IsName (name : String) : Prop where
  ne_empty : name ≠ ""
  ne_dot : name ≠ "."
  ne_dots : name ≠ ".."
  plain : ∀ c ∈ name.toList, c ≠ '/' ∧ c ≠ '\x00'

theorem isName_iff {name : String} :
    IsName name ↔ name ≠ "" ∧ name ≠ "." ∧ name ≠ ".." ∧
      ∀ c ∈ name.toList, c ≠ '/' ∧ c ≠ '\x00' :=
  ⟨fun h => ⟨h.ne_empty, h.ne_dot, h.ne_dots, h.plain⟩,
    fun ⟨hempty, hdot, hdots, hplain⟩ => ⟨hempty, hdot, hdots, hplain⟩⟩

/-- A name behind a directory takes the place of the piece behind the last slash,
or stands behind all pieces. -/
theorem exists_names_join (directory : String) {name : String} (hname : IsName name) :
    ∃ front last, names directory = front ++ last ∧ (last = [] ∨ last = [""]) ∧
      names (Path.join directory name) = front ++ [name] := by
  have hpieces : Path.pieces name.toList = [name.toList] :=
    Path.pieces_of_notMem fun h => (hname.plain _ h).1 rfl
  by_cases hends : directory.endsWith "/" = true
  · obtain ⟨front, hfront⟩ := endsWith_slash.mp hends
    refine ⟨(Path.pieces front).map String.ofList, [""], ?_, .inr rfl, ?_⟩
    · rw [names, ← hfront, Path.pieces_append_slash, List.map_append]
      rfl
    · have hjoin : (Path.join directory name).toList = front ++ '/' :: name.toList := by
        rw [Path.join, if_pos hends, String.toList_append, ← hfront, List.append_assoc]
        rfl
      rw [names, hjoin, Path.pieces_append_slash, hpieces, List.map_append]
      simp
  · refine ⟨names directory, [], (List.append_nil _).symm, .inl rfl, ?_⟩
    have hjoin : (Path.join directory name).toList = directory.toList ++ '/' :: name.toList := by
      rw [Path.join, if_neg hends, String.toList_append, String.toList_append, List.append_assoc]
      rfl
    rw [names, hjoin, Path.pieces_append_slash, hpieces, List.map_append]
    simp [names]

/-! ### Where paths lead -/

variable {tree tree' tree'' : FileTree} {location : Location} {path : String}
  {content : List UInt8}

/-- Where a path leads, whatever is there. -/
def leadsTo (tree : FileTree) (path : String) : Except FileError Location :=
  (tree.place path).map Place.location

/-- Two paths lead to different locations, if they both lead anywhere. -/
def Apart (tree : FileTree) (path path' : String) : Prop :=
  ∀ location, tree.leadsTo path = .ok location → tree.leadsTo path' ≠ .ok location

/-- What one name comes to. -/
inductive Advance where
  | refused (cause : FileError)
  | reached (location : Location)
  | link (target : String)

/-- Follows one name from a location. -/
def advance (tree : FileTree) (location : Location) (name : String) : Advance :=
  match tree.entryAt? location with
  | none => .refused .notFound
  | some (.file _) => .refused .notADirectory
  | some (.link _) => .refused .notADirectory
  | some .directory =>
    if name = "" ∨ name = "." then .reached location
    else if name = ".." then .reached location.dropLast
    else if 255 < name.utf8ByteSize then .refused .nameTooLong
    else
      match tree.entryAt? (location ++ [name]) with
      | some (.link target) => .link target
      | _ => .reached (location ++ [name])

section

variable {onLink onLink' : Location → String → List String → Except FileError Place}

theorem follow_cons (location : Location) (name : String) (rest : List String) :
    tree.follow onLink location (name :: rest) = match tree.advance location name with
      | .refused cause => .error cause
      | .reached there => tree.follow onLink there rest
      | .link target => onLink location target rest := by
  rw [follow, advance]
  rcases tree.entryAt? location with _ | _ | _ | _
  · rfl
  · rfl
  · dsimp only
    split
    · rfl
    · split
      · rfl
      · split
        · rfl
        · rcases tree.entryAt? (location ++ [name]) with _ | _ | _ | _ <;> rfl
  · rfl

/-- What stands at a place is the entry of its location. -/
theorem entry_of_follow
    (hlink : ∀ location target rest p, onLink location target rest = .ok p →
      p.entry = tree.entryAt? p.location) (rest : List String) :
    ∀ location {p}, tree.follow onLink location rest = .ok p →
      p.entry = tree.entryAt? p.location := by
  induction rest with
  | nil =>
    intro location p h
    obtain rfl := Except.ok.inj h
    rfl
  | cons name rest ih =>
    intro location p h
    rw [follow_cons] at h
    split at h
    · cases h
    · exact ih _ h
    · exact hlink _ _ _ _ h

theorem entry_of_walk (links : Nat) (location : Location) (rest : List String) {p : Place}
    (h : tree.walk links location rest = .ok p) : p.entry = tree.entryAt? p.location := by
  induction links generalizing location rest p with
  | zero =>
    refine entry_of_follow (fun _ _ _ _ hlink => ?_) rest location h
    cases hlink
  | succ links ih =>
    refine entry_of_follow (fun location target rest p hlink => ?_) rest location h
    split at hlink
    · cases hlink
    · exact ih _ _ hlink

end

theorem entry_of_place {p : Place} (h : tree.place path = .ok p) :
    p.entry = tree.entryAt? p.location := by
  rw [place] at h
  split at h
  · cases h
  · split at h
    · cases h
    · split at h
      · cases h
      · exact entry_of_walk _ _ _ h

/-- What a path leads to is what stands where it leads. -/
theorem find_eq (tree : FileTree) (path : String) :
    tree.find path = match tree.leadsTo path with
      | .error e => .error e
      | .ok location => match tree.entryAt? location with
        | none => .error .notFound
        | some entry => .ok (location, entry) := by
  rw [find, leadsTo]
  rcases h : tree.place path with e | ⟨location, entry⟩
  · rfl
  · have hentry : entry = tree.entryAt? location := entry_of_place h
    rw [Except.map, hentry]
    dsimp only
    rcases tree.entryAt? location with _ | entry <;> rfl

theorem find_eq_ok_iff {entry : FileEntry} :
    tree.find path = .ok (location, entry) ↔
      tree.leadsTo path = .ok location ∧ tree.entryAt? location = some entry := by
  rw [find_eq]
  constructor
  · intro h
    split at h
    · cases h
    · next hleads =>
      split at h
      · cases h
      · next hentry =>
        obtain ⟨rfl, rfl⟩ := Prod.mk.inj (Except.ok.inj h)
        exact ⟨hleads, hentry⟩
  · rintro ⟨hleads, hentry⟩
    simp [hleads, hentry]

/-- A file is found where the path leads. -/
theorem locate_eq_ok_iff :
    tree.locate path = .ok (location, content) ↔
      tree.leadsTo path = .ok location ∧ tree.entryAt? location = some (.file content) := by
  rw [← find_eq_ok_iff, locate]
  rcases tree.find path with e | ⟨there, old | _ | _⟩ <;> simp

/-- The root is no file. -/
theorem ne_nil_of_file (h : tree.entryAt? location = some (.file content)) : location ≠ [] := by
  rintro rfl
  simp [entryAt?] at h

/-! ### Writing -/

theorem lookup_cons_eq (first : Location × FileEntry) (rest : List (Location × FileEntry))
    (location : Location) : (first :: rest).lookup location
      = if location = first.1 then some first.2 else rest.lookup location := by
  obtain ⟨found, entry⟩ := first
  rw [List.lookup_cons]
  split
  · next h => rw [if_pos (eq_of_beq h)]
  · next h => rw [if_neg (ne_of_beq_false h)]

theorem lookup_put (location other : Location) (entry : FileEntry)
    (entries : List (Location × FileEntry)) :
    (put location entry entries).lookup other
      = if other = location then some entry else entries.lookup other := by
  induction entries with
  | nil => exact lookup_cons_eq _ _ _
  | cons first rest ih =>
    obtain ⟨found, old⟩ := first
    rw [put, lookup_cons_eq (found, old)]
    by_cases hfound : found = location
    · rw [if_pos hfound, lookup_cons_eq, hfound]
      split <;> rfl
    · rw [if_neg hfound, lookup_cons_eq, ih]
      by_cases h : other = location
      · rw [if_neg (by rw [h]; exact Ne.symm hfound), if_pos h, if_pos h]
      · rw [if_neg h, if_neg h]

/-- A file that is written changes, and no other entry does. -/
theorem entry_setFile (h : location ≠ []) (content : List UInt8) (other : Location) :
    entryAt? (tree.setFile location content) other
      = if other = location then some (.file content) else tree.entryAt? other := by
  rw [entryAt?, entryAt?, setFile, lookup_put]
  by_cases hroot : other = []
  · rw [if_pos hroot, if_neg (by rw [hroot]; exact h.symm), if_pos hroot]
  · rw [if_neg hroot, if_neg hroot]

theorem map_fst_put {location : Location} (entry : FileEntry)
    {entries : List (Location × FileEntry)} (h : location ∈ entries.map Prod.fst) :
    (put location entry entries).map Prod.fst = entries.map Prod.fst := by
  induction entries with
  | nil => cases h
  | cons first rest ih =>
    obtain ⟨found, old⟩ := first
    rw [put]
    split
    · next hfound => simp [hfound]
    · next hfound =>
      have hrest : location ∈ rest.map Prod.fst :=
        (List.mem_cons.mp h).resolve_left (Ne.symm hfound)
      rw [List.map_cons, ih hrest]
      rfl

/-- Writing a file adds no entry. -/
theorem map_fst_setFile {old : List UInt8} (h : tree.entryAt? location = some (.file old))
    (content : List UInt8) :
    (tree.setFile location content).entries.map Prod.fst = tree.entries.map Prod.fst := by
  refine map_fst_put _ ?_
  have hentry := h
  rw [entryAt?, if_neg (ne_nil_of_file h)] at hentry
  obtain ⟨front, back, hentries, -⟩ := List.lookup_eq_some_iff.mp hentry
  rw [hentries]
  simp

/-- To write a file that can be read is to set its content. -/
theorem write_of_locate {old : List UInt8} (h : tree.locate path = .ok (location, old))
    (content : List UInt8) : tree.write path content = (.ok (), tree.setFile location content) := by
  obtain ⟨hleads, hentry⟩ := locate_eq_ok_iff.mp h
  rw [leadsTo] at hleads
  rcases hplace : tree.place path with e | ⟨there, entry⟩ <;> rw [hplace] at hleads
  · cases hleads
  · obtain rfl : there = location := Except.ok.inj hleads
    obtain rfl : entry = _ := (entry_of_place hplace).trans hentry
    rw [write, openToWrite, hplace]

/-! ### Shapes -/

/-- Entries that differ in what is in a file at most. -/
inductive AlikeEntries : Option FileEntry → Option FileEntry → Prop where
  | same (entry : Option FileEntry) : AlikeEntries entry entry
  | files (content content' : List UInt8) :
      AlikeEntries (some (.file content)) (some (.file content'))

/-- Two trees differ in the contents of files at most. -/
structure SameShape (tree tree' : FileTree) : Prop where
  home : tree'.home = tree.home
  entries : ∀ location, AlikeEntries (tree.entryAt? location) (tree'.entryAt? location)

namespace SameShape

theorem refl (tree : FileTree) : SameShape tree tree :=
  ⟨rfl, fun _ => .same _⟩

theorem trans (h : SameShape tree tree') (h' : SameShape tree' tree'') : SameShape tree tree'' where
  home := h'.home.trans h.home
  entries location := by
    have hfirst := h.entries location
    have hsecond := h'.entries location
    generalize tree.entryAt? location = entry at hfirst ⊢
    generalize tree'.entryAt? location = entry' at hfirst hsecond
    cases hfirst with
    | same => exact hsecond
    | files content content' =>
      generalize tree''.entryAt? location = entry'' at hsecond ⊢
      cases hsecond with
      | same => exact .files content content'
      | files _ content'' => exact .files content content''

/-- To write a file keeps the shape. -/
theorem setFile {old : List UInt8} (h : tree.entryAt? location = some (.file old))
    (content : List UInt8) : SameShape tree (tree.setFile location content) where
  home := rfl
  entries other := by
    rw [entry_setFile (ne_nil_of_file h)]
    split
    · next hother =>
      rw [hother, h]
      exact .files old content
    · exact .same _

/-- Whatever is no file is the same in both. -/
theorem entry_eq (h : SameShape tree tree') {entry : Option FileEntry}
    (hentry : tree.entryAt? location = entry) (hfile : ∀ content, entry ≠ some (.file content)) :
    tree'.entryAt? location = entry := by
  have halike := h.entries location
  rw [hentry] at halike
  generalize tree'.entryAt? location = entry' at halike ⊢
  cases halike with
  | same => rfl
  | files content _ => exact absurd rfl (hfile content)

theorem exists_file (h : SameShape tree tree')
    (hfile : tree.entryAt? location = some (.file content)) :
    ∃ content', tree'.entryAt? location = some (.file content') := by
  have halike := h.entries location
  rw [hfile] at halike
  generalize tree'.entryAt? location = entry' at halike ⊢
  cases halike with
  | same => exact ⟨content, rfl⟩
  | files _ content' => exact ⟨content', rfl⟩

end SameShape

section

variable {onLink onLink' : Location → String → List String → Except FileError Place}

theorem SameShape.advance_eq (h : SameShape tree tree') (location : Location) (name : String) :
    tree'.advance location name = tree.advance location name := by
  rw [advance, advance]
  rcases hentry : tree.entryAt? location with _ | content | _ | target
  · rw [h.entry_eq hentry (by simp)]
  · obtain ⟨content', hentry'⟩ := h.exists_file hentry
    rw [hentry']
  · -- from a directory, the entry of the name counts as well
    rw [h.entry_eq hentry (by simp)]
    rcases hnext : tree.entryAt? (location ++ [name]) with _ | content | _ | target
    · rw [h.entry_eq hnext (by simp)]
    · obtain ⟨content', hnext'⟩ := h.exists_file hnext
      rw [hnext']
    · rw [h.entry_eq hnext (by simp)]
    · rw [h.entry_eq hnext (by simp)]
  · rw [h.entry_eq hentry (by simp)]

/-- Following names comes to the same location in trees of one shape. -/
theorem SameShape.location_follow (h : SameShape tree tree')
    (hlink : ∀ location target rest, (onLink' location target rest).map Place.location
      = (onLink location target rest).map Place.location) (rest : List String) :
    ∀ location, (tree'.follow onLink' location rest).map Place.location
      = (tree.follow onLink location rest).map Place.location := by
  induction rest with
  | nil =>
    intro location
    rfl
  | cons name rest ih =>
    intro location
    rw [follow_cons, follow_cons, h.advance_eq]
    rcases tree.advance location name with cause | there | target
    · rfl
    · exact ih there
    · exact hlink _ _ _

theorem SameShape.location_walk (h : SameShape tree tree') (links : Nat) (location : Location)
    (rest : List String) : (tree'.walk links location rest).map Place.location
      = (tree.walk links location rest).map Place.location := by
  induction links generalizing location rest with
  | zero => exact h.location_follow (fun _ _ _ => rfl) rest location
  | succ links ih =>
    refine h.location_follow (fun location target rest => ?_) rest location
    split
    · rfl
    · exact ih _ _

end

/-- Paths lead to the same locations in trees of one shape. -/
theorem SameShape.leadsTo_eq (h : SameShape tree tree') (path : String) :
    tree'.leadsTo path = tree.leadsTo path := by
  rw [leadsTo, leadsTo, place, place, h.home]
  split
  · rfl
  · split
    · rfl
    · split
      · rfl
      · exact h.location_walk _ _ _

/-- So a path leads to the same thing, if that is the same in both. -/
theorem SameShape.locate_eq (h : SameShape tree tree')
    (hentry : ∀ location, tree.leadsTo path = .ok location →
      tree'.entryAt? location = tree.entryAt? location) :
    tree'.locate path = tree.locate path := by
  have hfind : tree'.find path = tree.find path := by
    rw [find_eq, find_eq, h.leadsTo_eq]
    rcases hleads : tree.leadsTo path with e | location
    · rfl
    · dsimp only
      rw [hentry location hleads]
  rw [locate, locate, hfind]

/-! ### A name in a directory -/

section

variable {onLink : Location → String → List String → Except FileError Place} {name : String}
  {there : Location}

/-- Where one name more leads from a directory, if not to a link. -/
def entering (there : Location) (name : String) : Except FileError Location :=
  if 255 < name.utf8ByteSize then .error .nameTooLong else .ok (there ++ [name])

theorem advance_of_isName (hname : IsName name)
    (hlink : ∀ target, tree.entryAt? (there ++ [name]) ≠ some (.link target))
    (hthere : tree.entryAt? there = some .directory) :
    tree.advance there name
      = if 255 < name.utf8ByteSize then .refused .nameTooLong else .reached (there ++ [name]) := by
  rw [advance, hthere]
  dsimp only
  rw [if_neg (not_or_intro hname.ne_empty hname.ne_dot), if_neg hname.ne_dots]
  rcases hentry : tree.entryAt? (there ++ [name]) with _ | _ | _ | target
  · rfl
  · rfl
  · rfl
  · exact absurd hentry (hlink target)

theorem location_follow_singleton (hname : IsName name)
    (hlink : ∀ target, tree.entryAt? (there ++ [name]) ≠ some (.link target))
    (hthere : tree.entryAt? there = some .directory) :
    (tree.follow onLink there [name]).map Place.location = entering there name := by
  rw [follow_cons, advance_of_isName hname hlink hthere, entering]
  by_cases hlong : 255 < name.utf8ByteSize
  · rw [if_pos hlong, if_pos hlong]
    rfl
  · rw [if_neg hlong, if_neg hlong]
    rfl

/-- An empty piece stays where it is. -/
theorem eq_of_location_follow {location : Location} {last : List String}
    (hlast : last = [] ∨ last = [""])
    (h : (tree.follow onLink location last).map Place.location = .ok there) : location = there := by
  rcases hlast with rfl | rfl
  · exact Except.ok.inj h
  · rw [follow_cons, advance] at h
    rcases hentry : tree.entryAt? location with _ | _ | _ | _ <;> rw [hentry] at h
    · cases h
    · cases h
    · exact Except.ok.inj h
    · cases h

/-- Following one name more. -/
theorem location_follow_append (hname : IsName name)
    (hlink : ∀ target, tree.entryAt? (there ++ [name]) ≠ some (.link target))
    (hthere : tree.entryAt? there = some .directory) {last : List String}
    (hlast : last = [] ∨ last = [""])
    (honLink : ∀ location target rest,
      (onLink location target (rest ++ last)).map Place.location = .ok there →
      (onLink location target (rest ++ [name])).map Place.location = entering there name)
    (front : List String) :
    ∀ location, (tree.follow onLink location (front ++ last)).map Place.location = .ok there →
      (tree.follow onLink location (front ++ [name])).map Place.location = entering there name := by
  induction front with
  | nil =>
    intro location h
    rw [eq_of_location_follow hlast h]
    exact location_follow_singleton hname hlink hthere
  | cons first front ih =>
    intro location h
    rw [List.cons_append, follow_cons] at h ⊢
    rcases hfirst : tree.advance location first with cause | reached | target <;> rw [hfirst] at h
    · cases h
    · exact ih reached h
    · exact honLink _ _ _ h

theorem location_walk_append (hname : IsName name)
    (hlink : ∀ target, tree.entryAt? (there ++ [name]) ≠ some (.link target))
    (hthere : tree.entryAt? there = some .directory) {last : List String}
    (hlast : last = [] ∨ last = [""]) (links : Nat) (location : Location) (front : List String)
    (h : (tree.walk links location (front ++ last)).map Place.location = .ok there) :
    (tree.walk links location (front ++ [name])).map Place.location = entering there name := by
  induction links generalizing location front with
  | zero =>
    refine location_follow_append hname hlink hthere hlast (fun _ _ _ honLink => ?_) front location
      h
    cases honLink
  | succ links ih =>
    refine location_follow_append hname hlink hthere hlast (fun location target rest honLink => ?_)
      front location h
    split at honLink
    · cases honLink
    · next htarget =>
      rw [if_neg htarget, ← List.append_assoc]
      rw [← List.append_assoc] at honLink
      exact ih _ _ honLink

end

theorem beginning_join {directory name : String} (h : directory ≠ "") (home : Location) :
    beginning home (Path.join directory name) = beginning home directory := by
  have hslash : (Path.join directory name).startsWith "/" = directory.startsWith "/" := by
    obtain ⟨c, rest, hdirectory⟩ :=
      List.exists_cons_of_ne_nil (mt String.toList_eq_nil_iff.mp h)
    obtain ⟨more, -, hjoin⟩ := Path.exists_toList_join directory name
    rw [Bool.eq_iff_iff, startsWith_slash, startsWith_slash, hjoin, hdirectory]
    simp
  rw [beginning, beginning, hslash]

/-- A name in a directory leads to its entry, unless the name or the path is too
long. -/
theorem leadsTo_join {directory name : String} {there : Location} (hname : IsName name)
    (hlink : ∀ target, tree.entryAt? (there ++ [name]) ≠ some (.link target))
    (hfind : tree.find directory = .ok (there, .directory)) :
    tree.leadsTo (Path.join directory name) = .ok (there ++ [name]) ∨
      tree.leadsTo (Path.join directory name) = .error .nameTooLong := by
  obtain ⟨hleads, hthere⟩ := find_eq_ok_iff.mp hfind
  obtain ⟨front, last, hnames, hlast, hjoin⟩ := exists_names_join directory hname
  obtain ⟨more, hmore, htext⟩ := Path.exists_toList_join directory name
  rw [leadsTo, place] at hleads
  split at hleads
  · cases hleads
  · next hnul =>
    split at hleads
    · cases hleads
    · next hempty =>
      split at hleads
      · cases hleads
      · have hnul' : ¬ (Path.join directory name).toList.contains '\x00' = true := by
          rw [List.contains_iff_mem, htext, List.mem_append, not_or]
          refine ⟨by simpa using hnul, fun hin => ?_⟩
          rcases List.mem_cons.mp (hmore hin) with heq | hin
          · cases heq
          · exact (hname.plain _ hin).2 rfl
        have hempty' : Path.join directory name ≠ "" := by
          intro h
          rw [h, String.toList_empty] at htext
          exact hempty (String.toList_eq_nil_iff.mp (List.append_eq_nil_iff.mp htext.symm).1)
        rw [hnames] at hleads
        rw [leadsTo, place, if_neg hnul', if_neg hempty']
        split
        · exact .inr rfl
        · rw [beginning_join hempty, hjoin,
            location_walk_append hname hlink hthere hlast _ _ _ hleads, entering]
          split
          · exact .inr rfl
          · exact .inl rfl

/-! ### What a directory holds -/

/-- A tree as a machine can have it: an entry for each location at most, and names
that are names. -/
structure Proper (tree : FileTree) : Prop where
  distinct : (tree.entries.map Prod.fst).Nodup
  named : ∀ location ∈ tree.entries.map Prod.fst, ∀ name ∈ location, IsName name

theorem lookup_eq_some_iff {entries : List (Location × FileEntry)}
    (h : (entries.map Prod.fst).Nodup) {entry : FileEntry} :
    entries.lookup location = some entry ↔ (location, entry) ∈ entries := by
  induction entries with
  | nil => simp
  | cons first rest ih =>
    obtain ⟨hfirst, hrest⟩ := List.nodup_cons.mp h
    rw [lookup_cons_eq, List.mem_cons]
    split
    · next heq =>
      constructor
      · rintro ⟨rfl⟩
        exact .inl (Prod.ext heq rfl)
      · rintro (rfl | hmem)
        · rfl
        · exact absurd (List.mem_map_of_mem hmem) (heq ▸ hfirst)
    · next hne =>
      rw [ih hrest]
      refine (or_iff_right ?_).symm
      rintro rfl
      exact hne rfl

/-- The entries that are not the root are those of the list. -/
theorem Proper.entry_eq_some_iff (h : tree.Proper) (hlocation : location ≠ [])
    {entry : FileEntry} :
    tree.entryAt? location = some entry ↔ (location, entry) ∈ tree.entries := by
  rw [entryAt?, if_neg hlocation, lookup_eq_some_iff h.distinct]

/-- The names of files that a directory lists are those that lead to files. -/
theorem Proper.mem_children_iff (h : tree.Proper) {name : String} :
    (name, true) ∈ tree.children location ↔
      ∃ content, tree.entryAt? (location ++ [name]) = some (.file content) := by
  simp only [h.entry_eq_some_iff (List.concat_ne_nil _ _)]
  rw [children, List.mem_filterMap]
  constructor
  · rintro ⟨⟨other, entry⟩, hmem, hlisted⟩
    dsimp only at hlisted
    split at hlisted
    · cases hlisted
    · next last hlast =>
      split at hlisted
      · next hlocation =>
        obtain ⟨rfl, hfile⟩ := Prod.mk.inj (Option.some.inj hlisted)
        -- the location is put together again from its two parts
        obtain ⟨front, rfl⟩ := List.getLast?_eq_some_iff.mp hlast
        rw [List.dropLast_concat] at hlocation
        subst hlocation
        split at hfile
        · exact ⟨_, hmem⟩
        · cases hfile
      · cases hlisted
  · rintro ⟨content, hmem⟩
    exact ⟨_, hmem, by simp⟩

end FileTree

end BranchCoverage
