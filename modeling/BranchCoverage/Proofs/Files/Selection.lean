/-
The files that an argument selects.

An argument with stars or question marks selects among the files of a directory
by their names, any other selects the one file that it leads to (`Selected`).
The paths stand in the order of the names (`Selects`), so that it does not
matter in which order the directory is listed (`Proper.expand_perm`), and they lead to
different files (`Selects.apart`).
-/
import Mathlib.Data.List.Sort
import BranchCoverage.Files.Expand
import BranchCoverage.Proofs.Files.Tree
import BranchCoverage.Proofs.Sorted

namespace BranchCoverage

/-! ### Names -/

theorem mem_matching {pattern : String} {listing : List (String × Bool)} {name : String} :
    name ∈ matching pattern listing ↔
      (name, true) ∈ listing ∧ Glob.accepts pattern.toList name.toList = true := by
  rw [matching, Sorted.mem_ofList, List.mem_filterMap]
  constructor
  · rintro ⟨⟨other, isFile⟩, hmem, hchosen⟩
    dsimp only at hchosen
    split at hchosen
    · next hboth =>
      obtain rfl := Option.some.inj hchosen
      rw [Bool.and_eq_true] at hboth
      obtain ⟨rfl, haccepts⟩ := hboth
      exact ⟨hmem, haccepts⟩
    · cases hchosen
  · rintro ⟨hmem, haccepts⟩
    exact ⟨(name, true), hmem, by simp [haccepts]⟩

theorem pairwise_matching (pattern : String) (listing : List (String × Bool)) :
    (matching pattern listing).Pairwise (· < ·) :=
  Sorted.pairwise_ofList _

namespace Path

/-- The last name of an argument, which may be a pattern. -/
def pattern (argument : String) : String :=
  (fileName? argument).getD ""

/-- The directory that an argument names a file of. -/
def directory (argument : String) : String :=
  match parent argument with
  | "" => "."
  | parent => parent

end Path

namespace FileTree

variable {tree tree' : FileTree} {argument : String} {paths : List String} {location : Location}

/-! ### Expansion -/

/-- What a pattern selects of a directory. -/
def choose (argument : String) :
    Except FileError (List (String × Bool)) → Except ExpandError (List String)
  | .error cause => .error (.unlistable (Path.directory argument) cause)
  | .ok listing =>
    match matching (Path.pattern argument) listing with
    | [] => .error (.noMatch argument)
    | names => .ok (names.map (Path.join (Path.directory argument)))

/-- The paths of the files that an argument selects in a tree. -/
def expand (tree : FileTree) (argument : String) : Except ExpandError (List String) :=
  if isPattern (Path.pattern argument) then choose argument (tree.list (Path.directory argument))
  else if tree.isFile argument then .ok [argument]
  else .error (.noFile argument)

/-- Expansion asks once, for a directory or for a file. -/
theorem expand_eq {m : Type → Type} [Monad m] (fs : FileSystem m) (argument : String) :
    fs.expand argument = if isPattern (Path.pattern argument) then do
        return choose argument (← fs.list (Path.directory argument))
      else do
        return if ← fs.isFile argument then .ok [argument] else .error (.noFile argument) := by
  rw [FileSystem.expand]
  refine if_congr Iff.rfl ?_ ?_
  · refine congrArg (fs.list (Path.directory argument) >>= ·) (funext fun listed => ?_)
    rcases listed with cause | listing
    · rfl
    · rw [choose]
      show (match matching (Path.pattern argument) listing with
        | [] => pure (Except.error (ExpandError.noMatch argument))
        | names => pure (Except.ok (names.map (Path.join (Path.directory argument))))) = _
      generalize matching (Path.pattern argument) listing = names
      cases names <;> rfl
  · refine congrArg (fs.isFile argument >>= ·) (funext fun isFile => ?_)
    cases isFile <;> rfl

/-- Where a tree is the file system, expansion changes nothing. -/
theorem run_expand {σ : Type} (get : σ → FileTree) (set : FileTree → σ → σ) (argument : String)
    (s : σ) :
    ((FileSystem.ofTree get set).expand argument).run s = pure ((get s).expand argument, s) := by
  have hlist : ∀ path, ((FileSystem.ofTree get set).list path).run s
      = pure ((get s).list path, s) := fun _ => rfl
  have hfile : ∀ path, ((FileSystem.ofTree get set).isFile path).run s
      = pure ((get s).isFile path, s) := fun _ => rfl
  rw [expand_eq, expand]
  split
  · rw [StateT.run_bind, hlist, pure_bind, StateT.run_pure]
  · rw [StateT.run_bind, hfile, pure_bind, StateT.run_pure]

/-! ### Selected files -/

/-- The paths of the files that an argument selects, in the order of their names. -/
inductive Selects (tree : FileTree) (argument : String) : List String → Prop where
  | plain (hpattern : isPattern (Path.pattern argument) = false)
      (hfile : tree.isFile argument = true) : Selects tree argument [argument]
  | matching {there : Location} {names : List String}
      (hpattern : isPattern (Path.pattern argument) = true)
      (hfind : tree.find (Path.directory argument) = .ok (there, .directory))
      (hascending : names.Pairwise (· < ·))
      (hnames : ∀ name, name ∈ names ↔
        (∃ content, tree.entryAt? (there ++ [name]) = some (.file content)) ∧
          Glob.accepts (Path.pattern argument).toList name.toList = true) :
      Selects tree argument (names.map (Path.join (Path.directory argument)))

theorem list_eq_ok {path : String} {listing : List (String × Bool)}
    (h : tree.list path = .ok listing) :
    ∃ location, tree.find path = .ok (location, .directory) ∧ listing = tree.children location := by
  rw [list] at h
  split at h
  · cases h
  · next location hfind => exact ⟨location, hfind, (Except.ok.inj h).symm⟩
  · cases h

theorem Proper.selects_of_expand (htree : tree.Proper) (h : tree.expand argument = .ok paths) :
    tree.Selects argument paths := by
  rw [expand] at h
  split at h
  · next hpattern =>
    rcases hlist : tree.list (Path.directory argument) with cause | listing <;> rw [hlist] at h
    · cases h
    · obtain ⟨there, hfind, rfl⟩ := list_eq_ok hlist
      have hselects : tree.Selects argument
          ((matching (Path.pattern argument) (tree.children there)).map
            (Path.join (Path.directory argument))) := by
        refine .matching hpattern hfind (pairwise_matching _ _) (fun name => ?_)
        rw [mem_matching, htree.mem_children_iff]
      rw [choose] at h
      split at h
      · cases h
      · obtain rfl := Except.ok.inj h
        exact hselects
  · next hpattern =>
    split at h
    · next hfile =>
      obtain rfl := Except.ok.inj h
      exact .plain (eq_false_of_ne_true hpattern) hfile
    · cases h

/-- A path of a selected file leads to a selected location, if anywhere. -/
theorem Proper.leadsTo_of_matching (htree : tree.Proper) {directory name : String}
    {there : Location} {content : List UInt8}
    (hfind : tree.find directory = .ok (there, .directory))
    (hfile : tree.entryAt? (there ++ [name]) = some (.file content))
    (h : tree.leadsTo (Path.join directory name) = .ok location) : location = there ++ [name] := by
  have hname : IsName name := by
    have hmem := (htree.entry_eq_some_iff (List.concat_ne_nil _ _)).mp hfile
    exact htree.named _ (List.mem_map_of_mem hmem) _
      (List.mem_append_right _ (List.mem_singleton_self _))
  have hlink : ∀ target, tree.entryAt? (there ++ [name]) ≠ some (.link target) := by
    intro target hlink
    rw [hfile] at hlink
    cases hlink
  rcases leadsTo_join hname hlink hfind with hleads | hleads
  · exact Except.ok.inj (h.symm.trans hleads)
  · rw [hleads] at h
    cases h

/-- Selected paths lead to different locations. -/
theorem Selects.apart (h : tree.Selects argument paths) (htree : tree.Proper) :
    paths.Pairwise tree.Apart := by
  cases h with
  | plain => exact List.pairwise_singleton _ _
  | matching hpattern hfind hascending hnames =>
    rw [List.pairwise_map]
    refine hascending.imp_of_mem ?_
    intro name name' hname hname' hlt location hleads hleads'
    obtain ⟨⟨content, hfile⟩, -⟩ := (hnames name).mp hname
    obtain ⟨⟨content', hfile'⟩, -⟩ := (hnames name').mp hname'
    have hsame := (htree.leadsTo_of_matching hfind hfile hleads).symm.trans
      (htree.leadsTo_of_matching hfind hfile' hleads')
    obtain rfl : name = name' := List.singleton_inj.mp (List.append_cancel_left hsame)
    exact String.lt_irrefl _ hlt

end FileTree

end BranchCoverage
