/-
Sets of characters between brackets.

A set is read with a stack of what is still open: the brackets around it, and
the operators whose right side it is.
-/
import BranchCoverage.Pattern.Escape

namespace BranchCoverage.Pattern

/-- The sets read so far between two brackets or operators, and the part that
they take. -/
structure SetUnion where
  span : Span
  items : List SetTree := []

namespace SetUnion

/-- The union with one more set. -/
def push (u : SetUnion) (t : SetTree) : SetUnion :=
  { span := ⟨if u.items.isEmpty then t.span.start else u.span.start, t.span.stop⟩
    items := u.items ++ [t] }

/-- The union as one set. -/
def tree (u : SetUnion) : SetTree :=
  match u.items with
  | [] => .empty u.span
  | [t] => t
  | items => .union u.span items

end SetUnion

/-- What a set that is being read is part of. -/
inductive OpenSet where
  /-- A bracket, the part that opens it, and what stands before it. -/
  | bracket (before : SetUnion) (span : Span) (negated : Bool)
  /-- An operator and its left side. -/
  | operator (op : SetOperator) (left : SetTree)

/-- The innermost bracket that is open. -/
def openBracket? (stack : List OpenSet) : Option Span :=
  stack.findSome? fun
    | .bracket _ span _ => some span
    | .operator _ _ => none

/-- A set as the right side of the operator before it, if there is one. -/
def finishOperator (stack : List OpenSet) (t : SetTree) : List OpenSet × SetTree :=
  match stack with
  | .operator op left :: stack => (stack, .combine op left t)
  | stack => (stack, t)

/-- A set that is being read, or the whole of it. -/
structure SetState where
  stack : List OpenSet := []
  current : SetUnion
  done : Option Tree := none

namespace Reader

/-- The opening bracket and what it takes with it: the circumflex, and hyphens
or a closing bracket that stand for themselves. -/
def bracketOpening : Reader (SetUnion × Span × Bool) := do
  let start ← place
  unless ← advanceFar do refuse .classUnclosed (← since start)
  let negated := (← peek) = some '^'
  if negated then
    unless ← advanceFar do refuse .classUnclosed (← since start)
  let first ← here
  let u ← repeatFully (fun (u : SetUnion) => do
    if (← peek) = some '-' then
      let u := u.push (.literal { span := ← hereChar, char := '-' })
      unless ← advanceFar do refuse .classUnclosed ⟨start, start⟩
      return (u, true)
    else return (u, false)) { span := first }
  if u.items.isEmpty ∧ (← peek) = some ']' then
    let u := u.push (.literal { span := ← hereChar, char := ']' })
    unless ← advanceFar do refuse .classUnclosed (← since start)
    return (u, ← since start, negated)
  return (u, ← since start, negated)

/-- A class of ASCII characters with its brackets and colons.  Anything else
is left where it is. -/
def asciiClass? : Reader (Option SetTree) := do
  let before ← get
  let leave : Reader (Option SetTree) := do
    set before
    return none
  unless ← skip "[:" do return ← leave
  if (← peek).isNone then return ← leave
  let negated ← skip "^"
  let name ← collect advance (· ≠ ':')
  unless ← skip ":]" do return ← leave
  match AsciiClass.ofName? (String.ofList name) with
  | some kind => return some (.ascii (← since before.place) kind negated)
  | none => leave

/-- A character or a class inside of brackets. -/
def setItem : Reader Tree := do
  match ← peek with
  | some '\\' => escape
  | some char =>
    let span ← hereChar
    discard advance
    return .literal { span, char }
  | none => refuse .classUnclosed (← here)

/-- An expression as a set, if it is one. -/
def asSet : Tree → Reader SetTree
  | .literal l => return .literal l
  | .shorthand span kind negated => return .shorthand span kind negated
  | .property span name => return .property span name
  | t => refuse .classEscapeInvalid t.span

/-- An expression as the end of a range, if it is a character. -/
def asBoundary : Tree → Reader Literal
  | .literal l => return l
  | t => refuse .classRangeLiteral t.span

/-- A character, a class or a range inside of brackets that begin with a part. -/
def setRange (unclosed : Span) : Reader SetTree := do
  let low ← setItem
  skipSpace
  if (← peek).isNone then refuse .classUnclosed unclosed
  let behind ← peekFar
  if (← peek) ≠ some '-' ∨ behind = some ']' ∨ behind = some '-' then
    return ← asSet low
  unless ← advanceFar do refuse .classUnclosed unclosed
  let high ← setItem
  let span : Span := ⟨low.span.start, high.span.stop⟩
  let low ← asBoundary low
  let high ← asBoundary high
  if high.char < low.char then refuse .classRangeInvalid span
  return .range span low high

/-- The operator that comes next, if its sign stands there twice. -/
def setOperator? : Reader (Option SetOperator) := do
  if ← skip "&&" then return some .intersection
  if ← skip "--" then return some .difference
  if ← skip "~~" then return some .symmetricDifference
  return none

/-- The closing bracket: the set becomes part of what stands around it. -/
def closeBracket (s : SetState) : Reader (SetState × Bool) := do
  let (stack, inner) := finishOperator s.stack s.current.tree
  match stack with
  | .bracket before span negated :: stack =>
    discard advance
    let span ← since span.start
    if stack.isEmpty then
      return ({ stack, current := before, done := some (.bracket span negated inner) }, false)
    return ({ stack, current := before.push (.bracket span negated inner) }, true)
  | _ => return (s, false)

/-- One step of reading a set. -/
def setStep (s : SetState) : Reader (SetState × Bool) := do
  skipSpace
  let unclosed := (openBracket? s.stack).getD s.current.span
  match ← peek with
  | none => refuse .classUnclosed unclosed
  | some '[' =>
    if !s.stack.isEmpty then
      if let some t ← asciiClass? then
        return ({ s with current := s.current.push t }, true)
    let (inside, span, negated) ← bracketOpening
    return ({ s with stack := .bracket s.current span negated :: s.stack, current := inside }, true)
  | some ']' => closeBracket s
  | some _ =>
    match ← setOperator? with
    | some op =>
      let (stack, left) := finishOperator s.stack s.current.tree
      return ({ s with stack := .operator op left :: stack, current := { span := ← here } }, true)
    | none => return ({ s with current := s.current.push (← setRange unclosed) }, true)

/-- A set of characters between brackets. -/
def bracket : Reader Tree := do
  let s ← repeatFully setStep { current := { span := ← here } }
  match s.done with
  | some t => return t
  | none => refuse .classUnclosed s.current.span

end Reader

end BranchCoverage.Pattern
