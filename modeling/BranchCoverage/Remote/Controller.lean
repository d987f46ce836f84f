/-
The controller: to the driver it is a fork server, and the code under test
runs in an agent's process.

Every run starts a test on the agent, waits for the driver, runs the local
half of the test, and fetches the agent's report.  The report's coverage is
added to the driver's map if the report is accepted; if not, the test is
repeated on the same input.  The first run is made once more at the beginning,
to warm both processes up, and the report on that is thrown away.
-/
import BranchCoverage.Bench
import BranchCoverage.Remote.Client

namespace BranchCoverage

/-- A bench with a connection to an agent, and the driver's coverage map. -/
structure Relay (σ : Type) where
  bench : Bench σ
  link : Link
  map : CoverageMap

/-- Why a controller stopped. -/
inductive RelayError where
  | greeting (cause : IoError)
  | status (cause : IoError)
  | control (cause : IoError)
  | input (cause : IoError)
  | agent (cause : ProtocolError)
  deriving DecidableEq

namespace RelayError

/-- The message and below it what caused it. -/
def chain : RelayError → List String
  | .greeting cause => ["Failed to greet the driver", cause.message]
  | .status cause | .control cause => [cause.message]
  | .input cause => ["Failed to read input", cause.message]
  | .agent cause => [cause.message]

end RelayError

/-- What decides whether the report of a run is accepted, given the number of
the run and the locations.  It shares the memory of the harness. -/
abbrev Judge (σ : Type) := σ → Nat → String → Bool × σ

namespace Controller

variable {σ : Type} {α : Type}

/-- A step of a controller. -/
abbrev Relaying (σ : Type) := EStateM RelayError (Relay σ)

/-- A step on the bench. -/
def onBench (step : EStateM RelayError (Bench σ) α) : Relaying σ α := fun r =>
  match step r.bench with
  | .ok x bench => .ok x { r with bench }
  | .error e bench => .error e { r with bench }

/-- A step of the conversation with the agent. -/
def talk (step : Link.Talk α) : Relaying σ α := fun r =>
  match step r.link with
  | .ok x link => .ok x { r with link }
  | .error e link => .error (.agent e) { r with link }

/-- Adds to the journal. -/
def record (act : Act) : Relaying σ Unit := fun r =>
  .ok () { r with bench := r.bench.record act }

/-- Starts a test on the agent. -/
def start (collect : Bool) : Relaying σ Int32 := do
  let pid ← talk (Link.start collect)
  record (.started pid)
  pure pid

/-- Fetches the report on a test. -/
def fetch : Relaying σ Report := do
  let report ← talk Link.status
  record (.answered report)
  pure report

/-- Has the report of a run judged. -/
def assess (judge : Judge σ) (run : Nat) (report : Report) : Relaying σ Bool := fun r =>
  let (accepted, memory) := judge r.bench.memory run report.locations
  .ok accepted { r with bench := { r.bench with memory }.record (.judged run report accepted) }

/-- Adds the coverage of a report to the driver's map. -/
def mergeReport (report : Report) : Relaying σ Unit := fun r =>
  match merge r.map report.coverage with
  | .ok map => .ok () { r with map, bench := r.bench.record (.merged report) }
  | .error e => .error (.agent e) r

/-- The fault of a run: that of the agent's side if there is one. -/
def worse (localFault : Fault) (report : Report) : Fault :=
  let remote := Fault.ofCode report.fault
  if remote.isFault then remote else localFault

/-- Makes a run until its report is accepted, `limit` times at most, and gives
its fault.  To warm up it is made once more before the first time. -/
def attempt (harness : Harness σ) (judge : Judge σ) (collect : Bool) (run : Nat)
    (data : ByteArray) : (limit : Nat) → (warmUp : Bool) → Relaying σ Fault
  | 0, _ => talk (throw (.io .endOfInput))
  | limit + 1, warmUp => do
    let fault ← onBench (Bench.execute harness data)
    let fault ←
      if warmUp then do
        let _ ← fetch
        let _ ← start collect
        onBench (Bench.execute harness data)
      else pure fault
    let report ← fetch
    if ← assess judge run report then
      mergeReport report
      pure (worse fault report)
    else
      onBench (Bench.log .info s!"Results of run {run} were not accepted, repeating it")
      let _ ← start collect
      attempt harness judge collect run data limit false

/-- Makes runs until there are no more pings, `limit` times at most, and gives
their number, of which `done` have been made already. -/
def rounds (harness : Harness σ) (judge : Judge σ) (collect : Bool) :
    (limit : Nat) → (done : Nat) → Relaying σ Nat
  | 0, _ => talk (throw (.io .endOfInput))
  | limit + 1, done => do
    let run := done + 1
    let pid ← start collect
    onBench (Bench.log .debug s!"Agent {pid} ready for run {run}")
    if ← onBench (Bench.awaitPing .control) then
      onBench (Bench.report .status pid)
      let data ← onBench (Bench.readInput .input)
      let replies := (← get).link.incoming.bytes.length
      let fault ← attempt harness judge collect run data (replies + 1) (done == 0)
      onBench (Bench.log .debug s!"Run {run} finished with fault {fault.name}")
      onBench (Bench.report .status fault.code)
      rounds harness judge collect limit run
    else
      let _ ← fetch
      talk Link.stop
      onBench (Bench.log .info s!"Driver closed the control pipe after {done} run(s)")
      pure done

/-- The controller's side of a session. -/
def session (harness : Harness σ) (judge : Judge σ) (collect : Bool) : Relaying σ Nat := do
  onBench (Bench.report .greeting 0)
  let pings := (← get).bench.pings
  rounds harness judge collect (pings + 1) 0

/-- Serves the driver until it closes the control pipe: the number of runs
reported to it or what stopped the controller, and what is left behind. -/
def serve (harness : Harness σ) (judge : Judge σ) (collect : Bool) (r : Relay σ) :
    Except RelayError Nat × Relay σ :=
  match session harness judge collect r with
  | .ok runs r => (.ok runs, r)
  | .error e r => (.error e, r)

end Controller

end BranchCoverage
