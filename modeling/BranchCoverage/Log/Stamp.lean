/-
How a line stands in a log: the time of day, the process id, and the message,
all as plain text.
-/
import BranchCoverage.Text.Plain

namespace BranchCoverage.Log

/-- When a line was written, and by which process. -/
structure Stamp where
  hour : Nat := 0
  minute : Nat := 0
  second : Nat := 0
  millisecond : Nat := 0
  pid : Nat
  deriving DecidableEq

namespace Stamp

/-- A number with zeros in front of it. -/
def padded (width n : Nat) : String :=
  let digits := (toString n).toList
  String.ofList (List.replicate (width - digits.length) '0' ++ digits)

/-- The beginning of a line, with the blank behind it. -/
def render (s : Stamp) : String :=
  padded 2 s.hour ++ ":" ++ padded 2 s.minute ++ ":" ++ padded 2 s.second ++ "." ++
    padded 3 s.millisecond ++ " " ++ toString s.pid ++ " "

/-- The form of the time of day, with zeros for its digits. -/
def timeForm : List Char :=
  "00:00:00.000 ".toList

/-- Whether a character stands where the form has another. -/
def agrees (form c : Char) : Bool :=
  if form = '0' then c.isDigit else c = form

/-- What follows the time of day. -/
def behindTime? : (form line : List Char) → Option (List Char)
  | [], line => some line
  | _ :: _, [] => none
  | f :: form, c :: line => if agrees f c then behindTime? form line else none

/-- The message of a line that begins with a stamp. -/
def message? (line : List Char) : Option (List Char) := do
  let rest ← behindTime? timeForm line
  match rest.span Char.isDigit with
  | (_ :: _, ' ' :: message) => some message
  | _ => none

end Stamp

/-- A line of a log with its stamp. -/
def stamped (stamp : Stamp) (message : String) : String :=
  Text.plain (stamp.render ++ message ++ "\n")

/-- The messages that lines hold.  A line without a stamp goes on with the
message before it. -/
def messages (lines : List (List Char)) : List (List Char) :=
  (lines.foldl (fun read line =>
    match Stamp.message? line, read with
    | some message, read => message :: read
    | none, [] => [line]
    | none, message :: earlier => (message ++ '\n' :: line) :: earlier) []).reverse

end BranchCoverage.Log
