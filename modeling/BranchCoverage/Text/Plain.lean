/-
Plain text: what is left of a text when the sequences that steer a terminal,
and the control characters that have no place on a page, are taken out.

A sequence begins with the escape character.  What stands behind it says how
the sequence goes on: a bracket opens a control sequence, which a letter ends;
a few letters open strings, which last until their terminator; any other
character ends it at once.  Cancel and substitute end every sequence, and the
escape character begins a new one.

A line break inside a control sequence is shown, and so is the text behind it:
the sequence is taken up again where the next character is left out.  A
character outside ASCII that is shown ends it for good.
-/
namespace BranchCoverage.Text

/-- Where in a sequence a character stands. -/
inductive SequencePart where
  /-- Outside of all sequences. -/
  | outside
  /-- Behind the escape character. -/
  | escape
  /-- Behind a blank or a mark that follows the escape character. -/
  | intermediate
  /-- Behind the bracket of a control sequence. -/
  | control
  /-- Behind the letter that opens a device control string. -/
  | device
  /-- Among the parameters of a device control string. -/
  | deviceParameters
  /-- Behind the parameters of a device control string. -/
  | deviceIntermediate
  /-- In a string that lasts until the string terminator. -/
  | string
  /-- In a string that the bell ends. -/
  | command
  deriving DecidableEq

/-- Whether the code point of a character lies between two others. -/
def isWithin (low high : Nat) (c : Char) : Bool :=
  low ≤ c.toNat && c.toNat ≤ high

/-- White space of ASCII, the vertical tab apart. -/
def isPageSpace (c : Char) : Bool :=
  c = ' ' || c = '\t' || c = '\n' || c = '\x0c' || c = '\r'

/-- Whether a character is written with the byte that terminates strings. -/
def endsString (c : Char) : Bool :=
  (String.utf8EncodeChar c).contains 0x9c

namespace SequencePart

/-- Whether a character is shown where it stands. -/
def shows : SequencePart → Char → Bool
  | outside, c => isPageSpace c || 0x20 ≤ c.toNat && c ≠ '\x7f'
  | escape, c | intermediate, c | control, c => isPageSpace c && c ≠ ' '
  | device, _ | deviceParameters, _ | deviceIntermediate, _ | string, _ | command, _ => false

/-- Where what follows a character of a sequence stands. -/
def next (part : SequencePart) (c : Char) : SequencePart :=
  if c = '\x18' ∨ c = '\x1a' then outside
  else if c = '\x1b' then escape
  else
    match part with
    | outside => outside
    | escape =>
      if isWithin 0x20 0x2f c then intermediate
      else if c = '[' then control
      else if c = ']' then command
      else if c = 'P' then device
      else if c = 'X' ∨ c = '^' ∨ c = '_' then string
      else if isWithin 0x30 0x7e c then outside
      else escape
    | intermediate => if isWithin 0x30 0x7e c then outside else intermediate
    | control => if isWithin 0x40 0x7e c then outside else control
    | device =>
      if isWithin 0x20 0x2f c then deviceIntermediate
      else if isWithin 0x30 0x3f c then deviceParameters
      else if isWithin 0x40 0x7e c then string
      else device
    | deviceParameters =>
      if isWithin 0x20 0x2f c then deviceIntermediate
      else if isWithin 0x3c 0x7e c then string
      else deviceParameters
    | deviceIntermediate => if isWithin 0x30 0x7e c then string else deviceIntermediate
    | string => if endsString c then outside else string
    | command => if c = '\x07' then outside else command

end SequencePart

/-- What is shown of a text that stands in a part of a sequence, or that
follows text which is shown in spite of it. -/
def plainWithin (showing : Bool) (part : SequencePart) : List Char → List Char
  | [] => []
  | c :: rest =>
    if (if showing then .outside else part).shows c then
      c :: plainWithin true (if isWithin 0 0x7f c then part else .outside) rest
    else plainWithin false (part.next c) rest

/-- What is shown of a text. -/
def plain (s : String) : String :=
  String.ofList (plainWithin false .outside s.toList)

end BranchCoverage.Text
