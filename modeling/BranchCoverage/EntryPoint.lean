/-
Entry points: how a program under test is run.

A driver hands its coverage map to the process as a memory segment, by its
identifier in a variable, and two pipes on fixed descriptors.  Without a driver
a program runs once on standard input, and then a panic is not caught.
-/
import BranchCoverage.ForkServer
import BranchCoverage.Log.Logger
import BranchCoverage.Remote.Controller
import BranchCoverage.Text.Numeral
import BranchCoverage.Text.Whitespace

namespace BranchCoverage

/-! ### The driver -/

namespace Driver

/-- The variable that holds the identifier of the driver's segment. -/
def segmentVariable : String := "__AFL_SHM_ID"

/-- The descriptor of the control pipe.  The status pipe has the next one. -/
def controlDescriptor : Nat := 198

/-- The identifier that the variable holds.  Without one there is no driver. -/
def segmentId? (value : Option String) : Option Int :=
  value.bind fun text => Text.numeralWithin? (-0x80000000) 0x7fffffff (Text.trim text)

end Driver

/-- A process in which an entry point runs: its id, the value of the driver's
variable, the driver's segment under its identifier, and the bench. -/
structure Host (σ : Type) where
  pid : Int32
  segmentName : Option String := none
  segment : Option (Int × CoverageMap) := none
  bench : Bench σ

/-- Why an entry point failed. -/
inductive EntryError where
  | unattachable (segment : Int)
  | driverRequired
  | input (cause : IoError)
  | serve (cause : ServeError)
  | unreachable (address : String)
  | relay (cause : RelayError)
  | logger (cause : Log.LoggerError)
  /-- A panic that nothing caught. -/
  | uncaught (payload : Payload)
  deriving DecidableEq

namespace EntryError

/-- The message and below it what caused it, as far as it is known. -/
def chain : EntryError → List String
  | .unattachable segment => [s!"Failed to attach shared memory segment {segment}"]
  | .driverRequired => ["This program can only be run under afl-fuzz"]
  | .input cause => [cause.message]
  | .serve cause => cause.chain
  | .unreachable address => [s!"Failed to connect to agent at {address}"]
  | .relay cause => cause.chain
  | .logger cause => cause.chain
  | .uncaught payload => [payload.message]

end EntryError

namespace EntryPoint

variable {σ α : Type}

/-- A step of an entry point. -/
abbrev Entering (σ : Type) := EStateM EntryError (Host σ)

/-- A step on the bench. -/
def onBench (step : EStateM EntryError (Bench σ) α) : Entering σ α := fun h =>
  match step h.bench with
  | .ok x bench => .ok x { h with bench }
  | .error e bench => .error e { h with bench }

/-- Writes a line to the log. -/
def log (level : Level) (message : String) : Entering σ Unit :=
  onBench (Bench.log level message)

/-- The driver's map, if there is a driver. -/
def attach : Entering σ (Option CoverageMap) := fun h =>
  match Driver.segmentId? h.segmentName with
  | none => .ok none h
  | some id =>
    match h.segment with
    | none => .error (.unattachable id) h
    | some (other, map) =>
      if id = other then .ok (some map) h else .error (.unattachable id) h

/-- Leaves a map in the driver's segment. -/
def leave (map : CoverageMap) : Entering σ Unit :=
  modify fun h => { h with segment := h.segment.map fun (id, _) => (id, map) }

/-- Takes a step in the context of a map, and gives the map as it is then. -/
def within (map : CoverageMap) (step : Entering σ α) : Entering σ (α × CoverageMap) := fun h =>
  match h.bench.tracing.install? map none with
  | none => .error (.uncaught (.text Tracing.sizeRefusal)) h
  | some (tracing, token) =>
    let finish (h : Host σ) : Host σ :=
      { h with bench := { h.bench with tracing := h.bench.tracing.drop token } }
    match step { h with bench := { h.bench with tracing } } with
    | .ok x h => .ok (x, h.bench.tracing.map token) (finish h)
    | .error e h => .error e (finish h)

/-- Runs a harness once on standard input.  A panic is not caught. -/
def dryRun (harness : Harness σ) : Entering σ Unit := do
  let data ← onBench (Bench.readInput .input)
  onBench (Bench.executeUncaught .uncaught harness data)

/-- Serves the driver over its map. -/
def serve (harness : Harness σ) (map : CoverageMap) : Entering σ Unit := fun h =>
  match ForkServer.serve? harness h.pid map h.bench with
  | none => .error (.uncaught (.text Tracing.sizeRefusal)) h
  | some outcome =>
    let h := { h with
      bench := outcome.bench
      segment := h.segment.map fun (id, _) => (id, outcome.map) }
    match outcome.result with
    | .ok _ => .ok () h
    | .error e => .error (.serve e) h

/-- Runs a harness under the driver, or once without one. -/
def run (harness : Harness σ) : Entering σ Unit := do
  match ← attach with
  | none =>
    log .debug s!"{Driver.segmentVariable} is not set, running once"
    let _ ← within .zero (dryRun harness)
  | some map =>
    log .info s!"Fork server {(← get).pid} attached to the driver"
    serve harness map

/-- Runs a harness that takes its input as text. -/
def runText (bufferSize : Nat) (harness : σ → String → Execution × σ) : Entering σ Unit :=
  run (.ofText bufferSize harness)

/-- Runs a harness once over the driver's map. -/
def runOnce (harness : Harness σ) : Entering σ Fault := do
  match ← attach with
  | none => throw .driverRequired
  | some map =>
    let (fault, map) ← within map do
      onBench (Bench.trace Tracing.reset)
      let data ← onBench (Bench.readInput .input)
      onBench (Bench.execute harness data)
    leave map
    return fault

/-! ### The controller -/

/-- Where the agent of a controller is, and the connection to it if one can be
made. -/
structure Remote where
  address : String
  link : Option Link := none

/-- Serves the driver as a controller. -/
def relay (harness : Harness σ) (judge : Judge σ) (collect : Bool) (link : Link)
    (map : CoverageMap) : Entering σ Unit := fun h =>
  let (result, r) := Controller.serve harness judge collect ⟨h.bench, link, map⟩
  let h := { h with
    bench := r.bench
    segment := h.segment.map fun (id, _) => (id, r.map) }
  match result with
  | .ok _ => .ok () h
  | .error e => .error (.relay e) h

/-- Runs a controller under the driver, or its half of the test once without
one. -/
def control (harness : Harness σ) (judge : Judge σ) (collect : Bool) (remote : Remote) :
    Entering σ Unit := do
  match ← attach with
  | none =>
    log .info "No driver detected, dry run"
    dryRun harness
  | some map =>
    log .info s!"Connecting to agent at {remote.address}"
    match remote.link with
    | none => throw (.unreachable remote.address)
    | some link => relay harness judge collect link map

end EntryPoint

end BranchCoverage
