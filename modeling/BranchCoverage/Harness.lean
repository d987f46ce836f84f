/-
Harnesses: the code under test, as the loops that run it see it.

An execution hits probes and then returns or panics.  A harness may keep a
memory from one execution to the next.
-/
import BranchCoverage.Fault
import BranchCoverage.Log
import BranchCoverage.Text.Utf8
import BranchCoverage.Trace.Tracing

namespace BranchCoverage

/-- What a panic carries. -/
inductive Payload where
  | text (message : String)
  | foreign
  deriving DecidableEq

/-- The message of a panic. -/
def Payload.message : Payload → String
  | .text message => message
  | .foreign => "unknown panic payload"

/-- What code under test did: the probes it hit and the lines it wrote to the
log, in order, and how it ended.  Hits count up to a panic. -/
structure Execution where
  hits : List Hit := []
  lines : List LogLine := []
  panic : Option Payload := none
  deriving DecidableEq

namespace Execution

/-- The outcome of an execution. -/
def fault (e : Execution) : Fault :=
  if e.panic.isSome then .crash else .none

/-- What an execution leaves in the log if its panic is caught. -/
def log (e : Execution) : List LogLine :=
  e.lines ++ e.panic.toList.map fun payload => ⟨.debug, "Harness panicked: " ++ payload.message⟩

end Execution

/-- Code under test with a memory. -/
abbrev Harness (σ : Type) := σ → ByteArray → Execution × σ

/-- The least limit on the length of an input that is read as text. -/
def defaultBufferSize : Nat := 10000000

/-- A harness that takes its input as text.  An input as long as the limit, or
longer, makes it panic. -/
def Harness.ofText {σ : Type} (bufferSize : Nat) (harness : σ → String → Execution × σ) :
    Harness σ :=
  let limit := max bufferSize defaultBufferSize
  fun memory data =>
    if limit ≤ data.size then
      ({ panic := some (.text s!"Input data size must not exceed {limit} bytes") }, memory)
    else harness memory (Text.Utf8.decodeLossy data)

end BranchCoverage
