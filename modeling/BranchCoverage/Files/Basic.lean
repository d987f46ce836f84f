/-
File systems, as far as programs here use them.
-/
import BranchCoverage.Files.Error
import BranchCoverage.Text.Utf8

namespace BranchCoverage

/-- What a program can do with files.  A directory is listed as names, each
with whether it is the name of a file. -/
structure FileSystem (m : Type → Type) where
  isFile : String → m Bool
  read : String → m (Except FileError (List UInt8))
  write : String → List UInt8 → m (Except FileError Unit)
  list : String → m (Except FileError (List (String × Bool)))

/-- The text of a file. -/
def FileSystem.readText {m : Type → Type} [Monad m] (fs : FileSystem m) (path : String) :
    m (Except FileError String) := do
  match ← fs.read path with
  | .error e => return .error e
  | .ok content =>
    match Text.Utf8.decode content with
    | .ok text => return .ok text
    | .error _ => return .error .notUtf8

end BranchCoverage
