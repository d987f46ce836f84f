/-
The bench that harnesses are run on: the pipes to the driver, the inputs to
come, the trace states of the process, and a journal of what happened.
-/
import BranchCoverage.Harness
import BranchCoverage.Remote.Protocol

namespace BranchCoverage

/-- What happened during a run, step by step. -/
inductive Act where
  /-- A ping of the driver was read. -/
  | pinged
  /-- A word was written to the status pipe. -/
  | reported (word : Int32)
  /-- An input was read. -/
  | read (data : ByteArray)
  /-- The harness was called. -/
  | called (data : ByteArray)
  /-- A hit was reported to an observer. -/
  | noticed (notice : Notice)
  /-- The harness ended. -/
  | finished (fault : Fault)
  /-- The agent started a test, and answered with its process id. -/
  | started (pid : Int32)
  /-- The agent sent a report. -/
  | answered (report : Report)
  /-- The report of a run was judged. -/
  | judged (run : Nat) (report : Report) (accepted : Bool)
  /-- The coverage of a report was added to the map. -/
  | merged (report : Report)
  /-- A line for the log. -/
  | logged (line : LogLine)

namespace Act

/-- The lines for the log among what happened. -/
def logLines (acts : List Act) : List LogLine :=
  acts.filterMap fun
    | .logged line => some line
    | _ => none

end Act

/-- What a loop over inputs works with: the pipes, the inputs to come (with
failures in the place of those that cannot be read), the trace states, the
memory of the harness, and the journal, the last act first. -/
structure Bench (σ : Type) where
  control : Source
  status : Outlet := {}
  inputs : List (Except String ByteArray)
  tracing : Tracing := {}
  memory : σ
  journal : List Act := []

namespace Bench

variable {σ ε : Type}

/-- Adds to the journal. -/
def record (b : Bench σ) (act : Act) : Bench σ :=
  { b with journal := act :: b.journal }

/-- The journal in order. -/
def acts (b : Bench σ) : List Act :=
  b.journal.reverse

/-- Writes a line to the log. -/
def log (level : Level) (message : String) : EStateM ε (Bench σ) Unit :=
  modify fun b => b.record (.logged ⟨level, message⟩)

/-- Writes a word to the status pipe. -/
def report (fail : IoError → ε) (word : Int32) : EStateM ε (Bench σ) Unit := fun b =>
  match b.status.writeWord word with
  | (.ok (), status) => .ok () ({ b with status }.record (.reported word))
  | (.error e, status) => .error (fail e) { b with status }

/-- Waits for a ping, which does not come once the control pipe has ended. -/
def awaitPing (fail : IoError → ε) : EStateM ε (Bench σ) Bool := fun b =>
  match b.control.readWord with
  | (.ok _, control) => .ok true ({ b with control }.record .pinged)
  | (.error .endOfInput, control) => .ok false { b with control }
  | (.error e, control) => .error (fail e) { b with control }

/-- Reads the next input, which is empty once there are no more. -/
def readInput (fail : IoError → ε) : EStateM ε (Bench σ) ByteArray := fun b =>
  match b.inputs with
  | [] => .ok ByteArray.empty (b.record (.read ByteArray.empty))
  | .ok data :: inputs => .ok data ({ b with inputs }.record (.read data))
  | .error reason :: inputs => .error (fail (.broken reason)) { b with inputs }

/-- The bench after a harness has been called, and what the harness did. -/
def call (harness : Harness σ) (data : ByteArray) (b : Bench σ) : Execution × Bench σ :=
  let (execution, memory) := harness b.memory data
  let (tracing, notices) := b.tracing.play execution.hits
  let journal := (notices.map .noticed).reverse ++ .called data :: b.journal
  (execution, { b with tracing, memory, journal })

/-- Runs a harness on an input.  A panic is an outcome. -/
def execute (harness : Harness σ) (data : ByteArray) : EStateM ε (Bench σ) Fault := fun b =>
  let (execution, b) := b.call harness data
  let journal :=
    .finished execution.fault :: (execution.log.map .logged).reverse ++ b.journal
  .ok execution.fault { b with journal }

/-- Runs a harness on an input.  A panic is not caught. -/
def executeUncaught (fail : Payload → ε) (harness : Harness σ) (data : ByteArray) :
    EStateM ε (Bench σ) Unit := fun b =>
  let (execution, b) := b.call harness data
  let b := { b with journal := (execution.lines.map .logged).reverse ++ b.journal }
  match execution.panic with
  | none => .ok () b
  | some payload => .error (fail payload) b

/-- Changes the trace states. -/
def trace (f : Tracing → Tracing) : EStateM ε (Bench σ) Unit :=
  modify fun b => { b with tracing := f b.tracing }

/-- The number of whole words that are left on the control pipe. -/
def pings (b : Bench σ) : Nat :=
  b.control.bytes.length / 4

end Bench

end BranchCoverage
