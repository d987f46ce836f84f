/-
Files, directories and symbolic links, and how paths lead to them.

An entry is known by the names that lead to it from the root.  Paths that do
not begin with a slash begin at the working directory.
-/
import BranchCoverage.Files.Basic
import BranchCoverage.Files.Path

namespace BranchCoverage

/-- What a directory holds under a name. -/
inductive FileEntry where
  | file (content : List UInt8)
  | directory
  | link (target : String)
  deriving DecidableEq

/-- The names that lead to an entry from the root. -/
abbrev Location := List String

/-- Entries by their location, and the location of the working directory.  The
directories that lead to an entry have entries of their own. -/
structure FileTree where
  home : Location
  entries : List (Location × FileEntry)
  deriving DecidableEq

namespace FileTree

/-- The entry at a location. -/
def entryAt? (tree : FileTree) (location : Location) : Option FileEntry :=
  if location = [] then some .directory else tree.entries.lookup location

/-! ### Walking -/

/-- Where a path begins. -/
def beginning (location : Location) (path : String) : Location :=
  if path.startsWith "/" then [] else location

/-- The pieces of a path as names. -/
def names (path : String) : List String :=
  (Path.pieces path.toList).map String.ofList

/-- Where a path leads, and what is there. -/
structure Place where
  location : Location
  entry : Option FileEntry
  deriving DecidableEq

/-- Follows names from a location.  A link is handed over with the names behind
it. -/
def follow (tree : FileTree)
    (onLink : Location → String → List String → Except FileError Place) :
    Location → List String → Except FileError Place
  | location, [] => .ok ⟨location, tree.entryAt? location⟩
  | location, name :: rest =>
    match tree.entryAt? location with
    | none => .error .notFound
    | some (.file _) => .error .notADirectory
    | some (.link _) => .error .notADirectory
    | some .directory =>
      if name = "" ∨ name = "." then follow tree onLink location rest
      else if name = ".." then follow tree onLink location.dropLast rest
      else if 255 < name.utf8ByteSize then .error .nameTooLong
      else
        match tree.entryAt? (location ++ [name]) with
        | some (.link target) => onLink location target rest
        | _ => follow tree onLink (location ++ [name]) rest

/-- Follows names through so many links at most. -/
def walk (tree : FileTree) : Nat → Location → List String → Except FileError Place
  | 0 => follow tree fun _ _ _ => .error .tooManyLinks
  | links + 1 => follow tree fun location target rest =>
      if target = "" then .error .notFound
      else walk tree links (beginning location target) (names target ++ rest)

/-- The greatest number of links on a path. -/
def maxLinks : Nat := 40

/-- Where a path leads.  A place where nothing is yet is all right if there is
a directory to hold it. -/
def place (tree : FileTree) (path : String) : Except FileError Place :=
  if path.toList.contains '\x00' then .error .nulInName
  else if path = "" then .error .notFound
  else if 4096 ≤ path.utf8ByteSize then .error .nameTooLong
  else walk tree maxLinks (beginning tree.home path) (names path)

/-- What a path leads to. -/
def find (tree : FileTree) (path : String) : Except FileError (Location × FileEntry) :=
  match tree.place path with
  | .error e => .error e
  | .ok ⟨_, none⟩ => .error .notFound
  | .ok ⟨location, some entry⟩ => .ok (location, entry)

/-! ### Files -/

/-- Whether a path leads to a file. -/
def isFile (tree : FileTree) (path : String) : Bool :=
  match tree.find path with
  | .ok (_, .file _) => true
  | _ => false

/-- The location and the content of a file. -/
def locate (tree : FileTree) (path : String) : Except FileError (Location × List UInt8) :=
  match tree.find path with
  | .error e => .error e
  | .ok (location, .file content) => .ok (location, content)
  | .ok (_, .directory) => .error .isADirectory
  | .ok (_, .link _) => .error .notFound

/-- The content of a file. -/
def read (tree : FileTree) (path : String) : Except FileError (List UInt8) :=
  (tree.locate path).map Prod.snd

/-- Puts an entry in the place of the one at its location, or behind all. -/
def put (location : Location) (entry : FileEntry) :
    List (Location × FileEntry) → List (Location × FileEntry)
  | [] => [(location, entry)]
  | (other, old) :: rest =>
    if other = location then (location, entry) :: rest
    else (other, old) :: put location entry rest

/-- The tree with a file of the given content at a location. -/
def setFile (tree : FileTree) (location : Location) (content : List UInt8) : FileTree :=
  { tree with entries := put location (.file content) tree.entries }

/-- The location of a file to be written, and the tree in which it is there. -/
def openToWrite (tree : FileTree) (path : String) : Except FileError (Location × FileTree) :=
  match tree.place path with
  | .error e => .error e
  | .ok ⟨location, some (.file _)⟩ => .ok (location, tree)
  | .ok ⟨_, some .directory⟩ => .error .isADirectory
  | .ok ⟨_, some (.link _)⟩ => .error .notFound
  | .ok ⟨location, none⟩ => .ok (location, tree.setFile location [])

/-- Gives a file a new content. -/
def write (tree : FileTree) (path : String) (content : List UInt8) :
    Except FileError Unit × FileTree :=
  match tree.openToWrite path with
  | .error e => (.error e, tree)
  | .ok (location, tree) => (.ok (), tree.setFile location content)

/-- Adds to the end of the file at a location. -/
def append (tree : FileTree) (location : Location) (content : List UInt8) : FileTree :=
  match tree.entryAt? location with
  | some (.file old) => tree.setFile location (old ++ content)
  | _ => tree

/-! ### Directories -/

/-- The names in a directory, and whether they are names of files.  Links are
not followed. -/
def children (tree : FileTree) (location : Location) : List (String × Bool) :=
  tree.entries.filterMap fun (other, entry) =>
    match other.getLast? with
    | none => none
    | some name =>
      if other.dropLast = location then
        some (name, match entry with
          | .file _ => true
          | _ => false)
      else none

/-- What a directory holds, in the order of the entries. -/
def list (tree : FileTree) (path : String) : Except FileError (List (String × Bool)) :=
  match tree.find path with
  | .error e => .error e
  | .ok (location, .directory) => .ok (tree.children location)
  | .ok _ => .error .notADirectory

end FileTree

/-- The file system that a tree in the state of a computation is. -/
def FileSystem.ofTree {σ : Type} (get : σ → FileTree) (set : FileTree → σ → σ) :
    FileSystem (StateM σ) where
  isFile path := fun s => ((get s).isFile path, s)
  read path := fun s => ((get s).read path, s)
  write path content := fun s =>
    let (result, tree) := (get s).write path content
    (result, set tree s)
  list path := fun s => ((get s).list path, s)

end BranchCoverage
