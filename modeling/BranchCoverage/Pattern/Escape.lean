/-
What a backslash and the characters behind it mean.
-/
import BranchCoverage.Pattern.Reader

namespace BranchCoverage.Pattern

/-- The characters with a meaning of their own, which a backslash takes away. -/
def metaCharacters : List Char :=
  "\\.+*?()|[]\x7b\x7d^$#&-~".toList

/-- Whether a character may stand behind a backslash for itself: all of ASCII
may, but for letters, digits and angle brackets. -/
def isEscapable (c : Char) : Bool :=
  metaCharacters.contains c || (c.toNat < 0x80 && !c.isAlphanum && c ≠ '<' && c ≠ '>')

/-- The value of a hexadecimal digit. -/
def hexValue? (c : Char) : Option Nat :=
  if c.isDigit then some (c.toNat - 0x30)
  else if 'a' ≤ c ∧ c ≤ 'f' then some (c.toNat - 0x57)
  else if 'A' ≤ c ∧ c ≤ 'F' then some (c.toNat - 0x37)
  else none

/-- The character whose code point has these digits. -/
def charOfHex? (digits : List Char) : Option Char :=
  let n := digits.foldl (fun n c => 16 * n + (hexValue? c).getD 0) 0
  if n.isValidChar then some (Char.ofNat n) else none

namespace Reader

/-- A fixed number of hexadecimal digits. -/
def fixedHex (start : Position) (count : Nat) : Reader Tree := do
  let first ← place
  let mut digits := []
  for i in List.range count do
    if i > 0 then
      unless ← advanceFar do refuse .escapeUnexpectedEnd (← here)
    match ← peek with
    | some c =>
      if (hexValue? c).isNone then refuse .escapeHexInvalidDigit (← hereChar)
      digits := digits ++ [c]
    | none => refuse .escapeUnexpectedEnd (← here)
  discard advanceFar
  match charOfHex? digits with
  | some char => return .literal { span := ← since start, char, asByte := count = 2 }
  | none => refuse .escapeHexInvalid (← since first)

/-- Hexadecimal digits between braces. -/
def bracedHex (start : Position) : Reader Tree := do
  let brace ← place
  let first := (← hereChar).stop
  let more ← advanceFar
  let (digits, _) ← repeatFully (fun (digits, more) => do
    if !more then return ((digits, more), false)
    match ← peek with
    | none => return ((digits, more), false)
    | some '\x7d' => return ((digits, more), false)
    | some c =>
      if (hexValue? c).isNone then refuse .escapeHexInvalidDigit (← hereChar)
      return ((digits ++ [c], ← advanceFar), true)) ([], more)
  if (← peek).isNone then refuse .escapeUnexpectedEnd (← since brace)
  let last ← place
  discard advanceFar
  if digits.isEmpty then refuse .escapeHexEmpty (← since brace)
  match charOfHex? digits with
  | some char => return .literal { span := ← since start, char }
  | none => refuse .escapeHexInvalid ⟨first, last⟩

/-- A character given by its code point, with so many digits unless they stand
between braces. -/
def hex (start : Position) (count : Nat) : Reader Tree := do
  unless ← advanceFar do refuse .escapeUnexpectedEnd (← here)
  if (← peek) = some '\x7b' then bracedHex start else fixedHex start count

/-- A class of characters with a property, named by one letter or between
braces. -/
def property (start : Position) : Reader Tree := do
  unless ← advanceFar do refuse .escapeUnexpectedEnd (← here)
  if (← peek) = some '\x7b' then
    let more ← advanceFar
    let name ← if more then collect advanceFar (· ≠ '\x7d') else pure []
    if (← peek).isNone then refuse .escapeUnexpectedEnd (← here)
    discard advance
    return .property (← since start) (String.ofList name)
  else
    match ← peek with
    | some '\\' => refuse .propertyInvalid (← hereChar)
    | c =>
      discard advanceFar
      return .property (← since start) (String.ofList c.toList)

/-- The kinds of word boundary that have names. -/
def wordBoundaries : List (String × Condition) :=
  [("start", .wordStart), ("end", .wordEnd), ("start-half", .noWordBefore),
    ("end-half", .noWordAfter)]

/-- The kind of word boundary that stands in braces, unless they hold something
else: then they are left to be read as a count. -/
def boundaryKind? (start : Position) : Reader (Option Condition) := do
  let brace ← get
  let isNamed (c : Char) := c.isAlpha || c = '-'
  unless ← advanceFar do refuse .wordBoundaryOrCountUnexpectedEnd (← since start)
  let first ← place
  if !(← peek).any isNamed then
    set brace
    return none
  let name ← collect advanceFar isNamed
  if (← peek) ≠ some '\x7d' then refuse .wordBoundaryUnclosed (← since brace.place)
  let last ← place
  discard advance
  match wordBoundaries.lookup (String.ofList name) with
  | some kind => return some kind
  | none => refuse .wordBoundaryUnrecognized ⟨first, last⟩

/-- The characters that a letter behind a backslash stands for. -/
def specialCharacters : List (Char × Char) :=
  [('a', '\x07'), ('f', '\x0c'), ('t', '\t'), ('n', '\n'), ('r', '\r'), ('v', '\x0b')]

/-- The classes that a letter behind a backslash stands for, and whether the
other characters are meant. -/
def shorthands : List (Char × Shorthand × Bool) :=
  [('d', .digit, false), ('s', .space, false), ('w', .word, false), ('D', .digit, true),
    ('S', .space, true), ('W', .word, true)]

/-- The conditions that a character behind a backslash stands for. -/
def conditions : List (Char × Condition) :=
  [('A', .textStart), ('z', .textEnd), ('B', .noWordBoundary), ('<', .wordStart),
    ('>', .wordEnd)]

/-- A backslash and what belongs to it. -/
def escape : Reader Tree := do
  let start ← place
  unless ← advance do refuse .escapeUnexpectedEnd (← since start)
  let some c ← peek | refuse .escapeUnexpectedEnd (← since start)
  if c.isDigit then refuse .backreference ⟨start, (← hereChar).stop⟩
  if c = 'x' then return ← hex start 2
  if c = 'u' then return ← hex start 4
  if c = 'U' then return ← hex start 8
  if c = 'p' ∨ c = 'P' then return ← property start
  discard advance
  let span ← since start
  if let some (kind, negated) := shorthands.lookup c then return .shorthand span kind negated
  if isEscapable c then return .literal { span, char := c }
  if let some char := specialCharacters.lookup c then return .literal { span, char }
  if let some kind := conditions.lookup c then return .condition span kind
  if c = 'b' then
    if (← peek) = some '\x7b' then
      if let some kind ← boundaryKind? start then return .condition (← since start) kind
    return .condition span .wordBoundary
  refuse .escapeUnrecognized span

end Reader

end BranchCoverage.Pattern
