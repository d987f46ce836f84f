/-
The files that an argument selects.

Stars and question marks in the last name of the argument select among the
files of a directory.  An argument without them selects one file.
-/
import BranchCoverage.Files.Basic
import BranchCoverage.Files.Glob
import BranchCoverage.Files.Path
import BranchCoverage.Probe.TraceType
import BranchCoverage.Sorted

namespace BranchCoverage

/-- Why an argument selects nothing. -/
inductive ExpandError where
  | noFile (path : String)
  | unlistable (directory : String) (cause : FileError)
  | noMatch (path : String)
  deriving DecidableEq

namespace ExpandError

/-- The message and below it what caused it. -/
def chain : ExpandError → List String
  | .noFile path => [s!"Specified file does not exist: {path}"]
  | .unlistable directory cause => [s!"Failed to list {directory}", cause.message]
  | .noMatch path => [s!"Files were not found: {path}"]

end ExpandError

/-- Whether a name is a pattern. -/
def isPattern (name : String) : Bool :=
  name.toList.any fun c => c = '*' || c = '?'

/-- The names of files in a directory listing that a pattern selects, in
ascending order. -/
def matching (pattern : String) (listing : List (String × Bool)) : List String :=
  Sorted.ofList <| listing.filterMap fun (name, isFile) =>
    if isFile && Glob.accepts pattern.toList name.toList then some name else none

/-- The paths of the files that an argument selects, in the order of names. -/
def FileSystem.expand {m : Type → Type} [Monad m] (fs : FileSystem m) (path : String) :
    m (Except ExpandError (List String)) := do
  let pattern := (Path.fileName? path).getD ""
  if isPattern pattern then
    let directory := match Path.parent path with
      | "" => "."
      | parent => parent
    match ← fs.list directory with
    | .error cause => return .error (.unlistable directory cause)
    | .ok listing =>
      match matching pattern listing with
      | [] => return .error (.noMatch path)
      | names => return .ok (names.map (Path.join directory))
  else if ← fs.isFile path then return .ok [path]
  else return .error (.noFile path)

/-- Whether a path names the core library, by the name without its extension. -/
def isCoreLibrary (path : String) : Bool :=
  (Path.fileName? path).any fun name => Path.stem name = TraceType.coreLibrary

end BranchCoverage
