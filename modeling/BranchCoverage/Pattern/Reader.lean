/-
Reading a regular expression: the place that has been reached, and the steps
that all parts of the reading share.
-/
import BranchCoverage.Pattern.Tree
import BranchCoverage.Text.Whitespace

namespace BranchCoverage.Pattern

/-- A place in an expression with what follows it, whether blanks and comments
are passed over, and the names of the groups so far. -/
structure Cursor where
  rest : List Char
  place : Position := ⟨1, 1⟩
  ignoreSpace : Bool := false
  names : List (String × Span) := []

/-- A computation that reads on from a place. -/
abbrev Reader (α : Type) := StateT Cursor (Except Flaw) α

/-- The place behind a character. -/
def Position.after (p : Position) (c : Char) : Position :=
  if c = '\n' then ⟨p.line + 1, 1⟩ else ⟨p.line, p.column + 1⟩

/-- The cursor behind the next character. -/
def Cursor.next (c : Cursor) : Cursor :=
  match c.rest with
  | [] => c
  | char :: rest => { c with rest, place := c.place.after char }

namespace Reader

variable {α σ : Type}

/-- Refuses the expression because of a part of it. -/
def refuse (reason : Reason) (span : Span) (earlier : Option Span := none) : Reader α :=
  fun _ => .error ⟨reason, span, earlier⟩

/-- The next character, left where it is. -/
def peek : Reader (Option Char) :=
  fun c => .ok (c.rest.head?, c)

/-- The place that has been reached. -/
def place : Reader Position :=
  fun c => .ok (c.place, c)

/-- The empty part at this place. -/
def here : Reader Span :=
  fun c => .ok (⟨c.place, c.place⟩, c)

/-- The part that the next character takes. -/
def hereChar : Reader Span :=
  fun c => .ok (⟨c.place, c.next.place⟩, c)

/-- The part from a place to this one. -/
def since (start : Position) : Reader Span :=
  fun c => .ok (⟨start, c.place⟩, c)

/-- Goes behind the next character, and tells whether there is one more. -/
def advance : Reader Bool := fun c =>
  let c := c.next
  .ok (!c.rest.isEmpty, c)

/-- Goes behind a text, if it comes next. -/
def skip (text : String) : Reader Bool := fun c =>
  if text.toList.isPrefixOf c.rest then .ok (true, text.toList.foldl (fun c _ => c.next) c)
  else .ok (false, c)

/-- Where blanks and comments end. -/
def passSpace (inComment : Bool) : List Char → Position → List Char × Position
  | [], p => ([], p)
  | c :: rest, p =>
    if inComment then passSpace (c ≠ '\n') rest (p.after c)
    else if Text.isSpace c then passSpace false rest (p.after c)
    else if c = '#' then passSpace true rest (p.after c)
    else (c :: rest, p)

/-- Goes behind blanks and comments, if they are passed over. -/
def skipSpace : Reader Unit := fun c =>
  if c.ignoreSpace then
    let (rest, place) := passSpace false c.rest c.place
    .ok ((), { c with rest, place })
  else .ok ((), c)

/-- Goes behind the next character and the blanks that follow it, and tells
whether there is one more. -/
def advanceFar : Reader Bool := do
  if ← advance then
    skipSpace
    return (← peek).isSome
  else return false

/-- The first character that is no blank, where one number sign counts as one. -/
def firstBehindSpace (signed : Bool) : List Char → Option Char
  | [] => none
  | c :: rest =>
    if Text.isSpace c then firstBehindSpace signed rest
    else if c = '#' ∧ !signed then firstBehindSpace true rest
    else some c

/-- The character behind the next one, blanks not counted if they are passed
over. -/
def peekFar : Reader (Option Char) := fun c =>
  if c.ignoreSpace then .ok ((firstBehindSpace false c.rest.tail).or c.rest.tail.head?, c)
  else .ok (c.rest.tail.head?, c)

/-- Repeats a step while it asks for more, `limit` times at most. -/
def repeatWhile (step : σ → Reader (σ × Bool)) : Nat → σ → Reader σ
  | 0, s => pure s
  | limit + 1, s => do
    let (s, more) ← step s
    if more then repeatWhile step limit s else pure s

/-- Repeats a step while it asks for more.  Every step that does is to take a
character at least, so what is left of the expression bounds their number. -/
def repeatFully (step : σ → Reader (σ × Bool)) (s : σ) : Reader σ :=
  fun c => repeatWhile step (c.rest.length + 1) s c

/-- The characters that pass a test, with `go` to get behind each of them. -/
def collect (go : Reader Bool) (test : Char → Bool) : Reader (List Char) := do
  let cs ← repeatFully (fun cs => do
    match ← peek with
    | some c =>
      if test c then
        discard go
        return (c :: cs, true)
      else return (cs, false)
    | none => return (cs, false)) []
  return cs.reverse

end Reader

end BranchCoverage.Pattern
