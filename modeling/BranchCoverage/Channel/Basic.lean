/-
The two ends of a channel, as one process sees them: bytes that will come, and
bytes that have been sent.

A read asks for an exact number of bytes.  If fewer come it takes them all and
fails.  A write that does not fit fails, and sends nothing or, on a torn
channel, what fits.
-/
import BranchCoverage.Channel.Word

namespace BranchCoverage

/-- Why a read or write failed. -/
inductive IoError where
  /-- The channel ended too early. -/
  | endOfInput
  | broken (reason : String)
  deriving DecidableEq

/-- The text that names the reason. -/
def IoError.message : IoError → String
  | .endOfInput => "failed to fill whole buffer"
  | .broken reason => reason

/-- The bytes that a peer will have sent, and what a read beyond them fails
with if the channel does not simply end there. -/
structure Source where
  bytes : List UInt8
  failure : Option String := none
  deriving DecidableEq

namespace Source

/-- What a read beyond the end fails with. -/
def exhausted (s : Source) : IoError :=
  match s.failure with
  | none => .endOfInput
  | some reason => .broken reason

/-- Reads so many bytes. -/
def read (n : Nat) (s : Source) : Except IoError (List UInt8) × Source :=
  if n ≤ s.bytes.length then (.ok (s.bytes.take n), { s with bytes := s.bytes.drop n })
  else (.error s.exhausted, { s with bytes := [] })

/-- Reads a word. -/
def readWord (s : Source) : Except IoError Int32 × Source :=
  match s.bytes with
  | a :: b :: c :: d :: rest => (.ok (Word.ofBytes a b c d), { s with bytes := rest })
  | _ => (.error s.exhausted, { s with bytes := [] })

end Source

/-- How many bytes a channel takes, and what a write fails with after that. -/
structure Limit where
  room : Nat
  reason : String
  torn : Bool := false
  deriving DecidableEq

/-- The bytes sent so far, in order, and the limit of the channel. -/
structure Outlet where
  sent : List UInt8 := []
  limit : Option Limit := none
  deriving DecidableEq

namespace Outlet

/-- Sends bytes. -/
def write (bytes : List UInt8) (o : Outlet) : Except IoError Unit × Outlet :=
  match o.limit with
  | none => (.ok (), { o with sent := o.sent ++ bytes })
  | some limit =>
    if o.sent.length + bytes.length ≤ limit.room then
      (.ok (), { o with sent := o.sent ++ bytes })
    else if limit.torn then
      (.error (.broken limit.reason),
        { o with sent := o.sent ++ bytes.take (limit.room - o.sent.length) })
    else (.error (.broken limit.reason), o)

/-- Sends a word. -/
def writeWord (word : Int32) (o : Outlet) : Except IoError Unit × Outlet :=
  o.write (Word.encode word)

end Outlet

end BranchCoverage
