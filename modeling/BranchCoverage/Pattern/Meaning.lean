/-
What a regular expression as it is written means: the pattern that it asks for.

The flags hold from where they are set to the end of the group around them,
across the choices in between.  As far as Unicode is asked for, a character
may be any; classes that would need its tables are refused, and so is the
search for letters in either case.  Where Unicode is turned off, a set may
hold ASCII characters only, since a pattern is never to match a part of a
character.
-/
import BranchCoverage.Pattern.Parser

namespace BranchCoverage.Pattern

/-- The flags that decide what an expression means. -/
structure Flags where
  ignoreCase : Bool := false
  manyLines : Bool := false
  dotMatchesAll : Bool := false
  unicode : Bool := true
  carriageReturns : Bool := false

namespace Flags

/-- The flags after a list of changes. -/
def change (f : Flags) (items : List (Option Flag)) : Flags where
  ignoreCase := (Flag.ignoreCase.stateIn items).getD f.ignoreCase
  manyLines := (Flag.manyLines.stateIn items).getD f.manyLines
  dotMatchesAll := (Flag.dotMatchesAll.stateIn items).getD f.dotMatchesAll
  unicode := (Flag.unicode.stateIn items).getD f.unicode
  carriageReturns := (Flag.carriageReturns.stateIn items).getD f.carriageReturns

end Flags

/-- Refuses a part of an expression. -/
def refuse {α : Type} (reason : Reason) (span : Span) : Except Flaw α :=
  .error ⟨reason, span, none⟩

/-! ### Sets -/

/-- A set in either case, if the flags ask for it. -/
def inCase (f : Flags) (span : Span) (s : CharSet) : Except Flaw CharSet :=
  if !f.ignoreCase ∨ s = .none then .ok s
  else if f.unicode then refuse .unicodeCaseUnavailable span
  else .ok (.eitherCase s)

/-- A set that may be matched: of ASCII characters, where Unicode is off. -/
def matchable (f : Flags) (span : Span) (s : CharSet) : Except Flaw CharSet :=
  if f.unicode ∨ s.isAscii then .ok s else refuse .invalidText span

/-- A set, or the characters that are not in it, in either case if the flags
ask for it. -/
def setOf (f : Flags) (span : Span) (negated : Bool) (s : CharSet) : Except Flaw CharSet := do
  let s ← inCase f span s
  matchable f span (if negated then .compl s else s)

/-- A character where Unicode is off.  With two hexadecimal digits it stands
for a byte, which has to be an ASCII character. -/
def Literal.checkByte (l : Literal) : Except Flaw Char :=
  if l.asByte ∧ 0x7f < l.char.toNat then refuse .invalidText l.span else .ok l.char

/-- A character in a set. -/
def Literal.inSet (f : Flags) (l : Literal) : Except Flaw Char := do
  if f.unicode then return l.char
  let c ← l.checkByte
  if c.toNat ≤ 0x7f then return c else refuse .unicodeNotAllowed l.span

/-- The class that a letter behind a backslash stands for. -/
def shorthandSet (f : Flags) (span : Span) (kind : Shorthand) (negated : Bool) :
    Except Flaw CharSet :=
  if f.unicode then refuse .unicodeClassUnavailable span
  else matchable f span (if negated then .compl kind.ascii.set else kind.ascii.set)

/-- The names of properties that are also names of their values. -/
def valueNames : List String :=
  ["cf", "sc", "lc"]

/-- The name of a property without what its writing may vary in. -/
def plainName (name : String) : String :=
  let cs := name.toList.map Char.toLower
  let cs := if ['i', 's'].isPrefixOf cs then cs.drop 2 else cs
  String.ofList (cs.filter fun c => c.toNat < 0x80 ∧ c ≠ ' ' ∧ c ≠ '_' ∧ c ≠ '-')

/-- Why a property cannot be asked for. -/
def refuseProperty {α : Type} (f : Flags) (span : Span) (name : String) : Except Flaw α :=
  if !f.unicode then refuse .unicodeNotAllowed span
  else if valueNames.contains (plainName name) then refuse .propertyValueNotFound span
  else refuse .propertyNotFound span

mutual

/-- The characters that a set holds. -/
def SetTree.set (f : Flags) : SetTree → Except Flaw CharSet
  | .empty _ => .ok .none
  | .literal l => do return .single (← l.inSet f)
  | .range _ low high => do
    let low ← low.inSet f
    let high ← high.inSet f
    return .range low.toNat high.toNat
  | .ascii span kind negated => setOf f span negated kind.set
  | .shorthand span kind negated => shorthandSet f span kind negated
  | .property span name => refuseProperty f span name
  | .bracket span negated inner => do setOf f span negated (← inner.set f)
  | .union _ items => SetTree.sets f items
  | .combine op left right => do
    let a ← left.set f
    let b ← right.set f
    let b ← inCase f right.span b
    let a ← inCase f left.span a
    return match op with
      | .intersection => a.meet b
      | .difference => a.minus b
      | .symmetricDifference => (a.minus b).join (b.minus a)

/-- The characters that one of several sets holds. -/
def SetTree.sets (f : Flags) : List SetTree → Except Flaw CharSet
  | [] => .ok .none
  | t :: rest => do
    let a ← t.set f
    let b ← SetTree.sets f rest
    return a.join b

end

/-! ### Expressions -/

/-- A character that stands for itself. -/
def literalPattern (f : Flags) (l : Literal) : Except Flaw Pattern := do
  let c ← if f.unicode then pure l.char else l.checkByte
  if f.ignoreCase ∧ f.unicode then refuse .unicodeCaseUnavailable l.span
  let s := CharSet.single c
  return .one (if f.ignoreCase then .eitherCase s else s)

/-- Any character, or any that does not end a line. -/
def dotPattern (f : Flags) (span : Span) : Except Flaw Pattern :=
  if !f.unicode then refuse .invalidText span
  else
    let lineEnds := CharSet.single '\n'
    .ok <| .one <| .compl <|
      if f.dotMatchesAll then .none
      else if f.carriageReturns then .union lineEnds (.single '\r') else lineEnds

/-- A condition as the flags make it.  Word boundaries are those of ASCII. -/
def Condition.look (f : Flags) : Condition → Look
  | caret =>
    if !f.manyLines then .textStart
    else if f.carriageReturns then .anyLineStart else .lineStart
  | dollar =>
    if !f.manyLines then .textEnd
    else if f.carriageReturns then .anyLineEnd else .lineEnd
  | textStart => .textStart
  | textEnd => .textEnd
  | wordBoundary => .wordBoundary
  | noWordBoundary => .noWordBoundary
  | wordStart => .wordStart
  | wordEnd => .wordEnd
  | noWordBefore => .noWordBefore
  | noWordAfter => .noWordAfter

/-- Whether a condition tells words from other text. -/
def Condition.isAboutWords : Condition → Bool
  | caret | dollar | textStart | textEnd => false
  | _ => true

/-- A pattern, and whether it needs to know the words of all scripts. -/
structure Reading where
  pattern : Pattern
  needsWords : Bool := false

mutual

/-- The pattern that an expression asks for, and the flags behind it. -/
def Tree.read (f : Flags) : Tree → Except Flaw (Reading × Flags)
  | .empty _ => .ok ({ pattern := .empty }, f)
  | .flags _ items => .ok ({ pattern := .empty }, f.change items)
  | .literal l => do return ({ pattern := ← literalPattern f l }, f)
  | .dot span => do return ({ pattern := ← dotPattern f span }, f)
  | .condition _ kind =>
    .ok ({ pattern := .look (kind.look f), needsWords := f.unicode && kind.isAboutWords }, f)
  | .shorthand span kind negated => do
    return ({ pattern := .one (← shorthandSet f span kind negated) }, f)
  | .property span name => refuseProperty f span name
  | .bracket span negated inner => do
    return ({ pattern := .one (← setOf f span negated (← inner.set f)) }, f)
  | .repetition _ least most inner => do
    let (r, f) ← inner.read f
    return ({ pattern := r.pattern.repeated least most
              needsWords := r.needsWords && most ≠ some 0 }, f)
  | .group _ changes inner => do
    let (r, _) ← inner.read (f.change changes)
    return (r, f)
  | .alternation _ items => Tree.readChoices f items
  | .concat _ items => Tree.readRow f items

/-- The pattern of expressions in a row. -/
def Tree.readRow (f : Flags) : List Tree → Except Flaw (Reading × Flags)
  | [] => .ok ({ pattern := .empty }, f)
  | t :: rest => do
    let (a, f) ← t.read f
    let (b, f) ← Tree.readRow f rest
    return ({ pattern := a.pattern.follow b.pattern
              needsWords := a.needsWords || b.needsWords }, f)

/-- The pattern of expressions to choose from. -/
def Tree.readChoices (f : Flags) : List Tree → Except Flaw (Reading × Flags)
  | [] => .ok ({ pattern := .empty }, f)
  | [t] => t.read f
  | t :: rest => do
    let (a, f) ← t.read f
    let (b, f) ← Tree.readChoices f rest
    return ({ pattern := .alt a.pattern b.pattern
              needsWords := a.needsWords || b.needsWords }, f)

end

end BranchCoverage.Pattern
