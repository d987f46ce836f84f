/-
Paths, as text: names with slashes between them.

A path is taken apart from its end.  Slashes and single dots at the end do not
count, so the last name of `a/b/.` is `b`, and what stands before it is `a`.
-/
namespace BranchCoverage.Path

/-- The pieces between the slashes of a path, empty ones included. -/
def pieces : List Char → List (List Char)
  | [] => [[]]
  | c :: rest =>
    if c = '/' then [] :: pieces rest
    else
      match pieces rest with
      | [] => [[c]]
      | piece :: more => (c :: piece) :: more

/-- The characters of a path, the last first, without the slashes and single
dots at its end.  A dot that is all of the path stays. -/
def trimmedEnd : List Char → List Char
  | '/' :: rest => trimmedEnd rest
  | '.' :: '/' :: rest => trimmedEnd rest
  | reversed => reversed

/-- The last name of a path and what stands before it, both from the end. -/
def splitLast (path : String) : List Char × List Char :=
  (trimmedEnd path.toList.reverse).span (· ≠ '/')

/-- The last name of a path, unless it is a dot or two. -/
def fileName? (path : String) : Option String :=
  match (splitLast path).1.reverse with
  | [] | ['.'] | ['.', '.'] => none
  | name => some (String.ofList name)

/-- The path of what holds the last name: empty for a bare name, and the root
if nothing but slashes stands before the name. -/
def parent (path : String) : String :=
  match (splitLast path).2 with
  | [] => ""
  | reversed =>
    match trimmedEnd reversed with
    | [] => "/"
    | reversed => String.ofList reversed.reverse

/-- The path of a name in a directory. -/
def join (directory name : String) : String :=
  if directory.endsWith "/" then directory ++ name else directory ++ "/" ++ name

/-- A file name without its extension.  A point at the very beginning does not
begin an extension. -/
def stem (name : String) : String :=
  match (name.toList.reverse).dropWhile (· ≠ '.') with
  | [] | [_] => name
  | _ :: reversed => String.ofList reversed.reverse

end BranchCoverage.Path
