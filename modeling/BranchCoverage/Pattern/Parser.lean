/-
Reading a regular expression from its text.

The expression is read from left to right with a stack of what is still open:
the groups around a place, and the choices begun inside of them.
-/
import BranchCoverage.Pattern.Bracket
import BranchCoverage.Text.Alphanumeric

namespace BranchCoverage.Pattern

/-- The expressions read so far in a row, and where the row begins. -/
structure Row where
  start : Position
  items : List Tree := []

/-- A row up to a place. -/
def Row.tree (r : Row) (stop : Position) : Tree :=
  .ofConcat ⟨r.start, stop⟩ r.items

/-- A row with one more expression. -/
def Row.push (r : Row) (t : Tree) : Row :=
  { r with items := r.items ++ [t] }

/-- What a row that is being read is part of. -/
inductive OpenPart where
  /-- A group, the part that opens it, and what stands before it.  At its end
  blanks are passed over again if they were before it. -/
  | group (before : Row) (span : Span) (flags : List (Option Flag)) (ignoreSpace : Bool)
  /-- A choice, where it begins, and what can be chosen so far. -/
  | choice (start : Position) (items : List Tree)

/-- An expression that is being read. -/
structure ParseState where
  stack : List OpenPart := []
  row : Row

/-- Whether a character may stand in the name of a group. -/
def isNameChar (first : Bool) (c : Char) : Bool :=
  if first then c = '_' || Text.isAlphabetic c
  else c = '_' || c = '.' || c = '[' || c = ']' || Text.isAlphanumeric c

/-- What opens a group, or flags that stand alone. -/
inductive Opening where
  | group (span : Span) (flags : List (Option Flag))
  | flags (span : Span) (items : List (Option Flag))

namespace Reader

/-! ### Groups -/

/-- The name of a group, up to its closing bracket. -/
def groupName : Reader Unit := do
  if (← peek).isNone then refuse .groupNameUnexpectedEnd (← here)
  let start ← place
  let name ← repeatFully (fun (name : List Char) => do
    match ← peek with
    | none => return (name, false)
    | some '>' => return (name, false)
    | some c =>
      if !isNameChar name.isEmpty c then refuse .groupNameInvalid (← hereChar)
      return (name ++ [c], ← advance)) []
  let span ← since start
  if (← peek).isNone then refuse .groupNameUnexpectedEnd (← here)
  discard advance
  if name.isEmpty then refuse .groupNameEmpty ⟨start, start⟩
  let name := String.ofList name
  match (← get).names.lookup name with
  | some earlier => refuse .groupNameDuplicate span earlier
  | none => modify fun c => { c with names := (name, span) :: c.names }

/-- The flags up to a colon or a closing bracket, with the part each takes. -/
def flagItems : Reader (List (Option Flag)) := do
  let items ← repeatFully (fun (items : List (Option Flag × Span)) => do
    match ← peek with
    | none => return (items, false)
    | some ':' => return (items, false)
    | some ')' => return (items, false)
    | some c =>
      let span ← hereChar
      let item ← if c = '-' then pure none else
        match Flag.ofChar? c with
        | some f => pure (some f)
        | none => refuse .flagUnrecognized span
      if let some earlier := items.lookup item then
        refuse (if item.isNone then .flagRepeatedNegation else .flagDuplicate) span earlier
      unless ← advance do refuse .flagUnexpectedEnd (← here)
      return (items ++ [(item, span)], true)) []
  if let some (none, span) := items.getLast? then refuse .flagDanglingNegation span
  return items.map (·.1)

/-- What looks ahead or behind. -/
def lookArounds : List String :=
  ["?=", "?!", "?<=", "?<!"]

/-- Goes behind the first of some texts that comes next. -/
def skipAny : List String → Reader Bool
  | [] => return false
  | text :: rest => do
    if ← skip text then return true
    skipAny rest

/-- The opening of a group. -/
def opening : Reader Opening := do
  let span ← hereChar
  discard advance
  skipSpace
  let inner ← here
  if ← skipAny lookArounds then refuse .lookAround (← since span.start)
  if ← skipAny ["?P<", "?<"] then
    groupName
    return .group span []
  unless ← skip "?" do return .group span []
  if (← peek).isNone then refuse .groupUnclosed span
  let items ← flagItems
  let alone := (← peek) = some ')'
  discard advance
  if !alone then return .group span items
  if items.isEmpty then refuse .repetitionMissing inner
  return .flags (← since span.start) items

/-- Begins a group, or lets flags hold from here on. -/
def openGroup (s : ParseState) : Reader ParseState := do
  let ignoreSpace := (← get).ignoreSpace
  match ← opening with
  | .flags span items =>
    modify fun c => { c with ignoreSpace := (Flag.ignoreSpace.stateIn items).getD ignoreSpace }
    return { s with row := s.row.push (.flags span items) }
  | .group span flags =>
    modify fun c => { c with ignoreSpace := (Flag.ignoreSpace.stateIn flags).getD ignoreSpace }
    return { stack := .group s.row span flags ignoreSpace :: s.stack
             row := { start := ← place } }

/-- The row as what a choice that may be open ends with, and what is open
around it. -/
def finishChoice (s : ParseState) (stop : Position) : List OpenPart × Tree :=
  let last := s.row.tree stop
  match s.stack with
  | .choice start items :: stack => (stack, .ofAlternation ⟨start, stop⟩ (items ++ [last]))
  | stack => (stack, last)

/-- Ends a group. -/
def closeGroup (s : ParseState) : Reader ParseState := do
  let (stack, inner) := finishChoice s (← place)
  match stack with
  | .group before span flags ignoreSpace :: stack =>
    discard advance
    modify fun c => { c with ignoreSpace }
    return { stack, row := before.push (.group (← since span.start) flags inner) }
  | _ => refuse .groupUnopened (← hereChar)

/-- Begins the next choice. -/
def nextChoice (s : ParseState) : Reader ParseState := do
  let last := s.row.tree (← place)
  let stack := match s.stack with
    | .choice start items :: stack => .choice start (items ++ [last]) :: stack
    | stack => .choice s.row.start [last] :: stack
  discard advance
  return { stack, row := { start := ← place } }

/-! ### Repetitions -/

/-- The last expression of a row, which is to be repeated, and those before it. -/
def repeatable (row : Row) : Reader (List Tree × Tree) := do
  match row.items.getLast? with
  | none => refuse .repetitionMissing (← here)
  | some (.empty _) => refuse .repetitionMissing (← here)
  | some (.flags _ _) => refuse .repetitionMissing (← here)
  | some t => return (row.items.dropLast, t)

/-- A row whose last expression is repeated. -/
def repeated (row : Row) (earlier : List Tree) (t : Tree) (least : Nat) (most : Option Nat) :
    Reader Row := do
  let span ← since t.span.start
  return { row with items := earlier ++ [.repetition span least most t] }

/-- A sign that repeats, and a question mark that may follow it. -/
def repetitionSign (row : Row) (least : Nat) (most : Option Nat) : Reader Row := do
  let (earlier, t) ← repeatable row
  if (← advance) ∧ (← peek) = some '?' then discard advance
  repeated row earlier t least most

/-- A decimal number of 32 bits at most, or what is wrong with it.  Blanks may
stand around it. -/
def decimal : Reader (Except Flaw Nat) := do
  discard (collect advance Text.isSpace)
  let start ← place
  let digits ← collect advanceFar Char.isDigit
  let span ← since start
  discard (collect advanceFar Text.isSpace)
  if digits.isEmpty then return .error ⟨.countEmpty, span, none⟩
  let n := digits.foldl (fun n c => 10 * n + (c.toNat - 0x30)) 0
  return if n < 1 <<< 32 then .ok n else .error ⟨.decimalInvalid, span, none⟩

/-- A value, or the flaw that is there instead. -/
def settle {α : Type} (result : Except Flaw α) : Reader α :=
  fun c => result.map (·, c)

/-- Counts between braces, and a question mark that may follow them.  That the
braces are closed is found out before the first count is looked at. -/
def repetitionCount (row : Row) : Reader Row := do
  let start ← place
  let (earlier, t) ← repeatable row
  unless ← advanceFar do refuse .countUnclosed (← since start)
  let first ← decimal
  if (← peek).isNone then refuse .countUnclosed (← since start)
  let (least, most) ← if (← peek) = some ',' then do
      unless ← advanceFar do refuse .countUnclosed (← since start)
      let least ← settle first
      if (← peek) = some '\x7d' then pure (least, none)
      else pure (least, some (← settle (← decimal)))
    else do
      let count ← settle first
      pure (count, some count)
  if (← peek) ≠ some '\x7d' then refuse .countUnclosed (← since start)
  if (← advanceFar) ∧ (← peek) = some '?' then discard advance
  if most.any (· < least) then refuse .countInvalid (← since start)
  repeated row earlier t least most

/-! ### The whole -/

/-- A character, or a backslash and what belongs to it. -/
def primitive (c : Char) : Reader Tree := do
  if c = '\\' then return ← escape
  let span ← hereChar
  discard advance
  return match c with
    | '.' => .dot span
    | '^' => .condition span .caret
    | '$' => .condition span .dollar
    | char => .literal { span, char }

/-- One step of reading an expression. -/
def parseStep (s : ParseState) : Reader (ParseState × Bool) := do
  skipSpace
  match ← peek with
  | none => return (s, false)
  | some '(' => return (← openGroup s, true)
  | some ')' => return (← closeGroup s, true)
  | some '|' => return (← nextChoice s, true)
  | some '[' => return ({ s with row := s.row.push (← bracket) }, true)
  | some '?' => return ({ s with row := ← repetitionSign s.row 0 (some 1) }, true)
  | some '*' => return ({ s with row := ← repetitionSign s.row 0 none }, true)
  | some '+' => return ({ s with row := ← repetitionSign s.row 1 none }, true)
  | some '\x7b' => return ({ s with row := ← repetitionCount s.row }, true)
  | some c => return ({ s with row := s.row.push (← primitive c) }, true)

/-- An expression up to the end of the text. -/
def expression : Reader Tree := do
  let s ← repeatFully parseStep { row := { start := ← place } }
  let (stack, t) := finishChoice s (← place)
  match stack with
  | .group _ span _ _ :: _ => refuse .groupUnclosed span
  | _ => return t

end Reader

/-- The expression that a text holds, or what is wrong with it. -/
def Tree.parse (text : String) : Except Flaw Tree := do
  let (t, _) ← Reader.expression { rest := text.toList }
  t.checkDepth 0
  return t

end BranchCoverage.Pattern
