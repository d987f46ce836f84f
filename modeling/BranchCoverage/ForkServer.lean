/-
A fork server that never forks.

The driver pings it for every input, and it answers with its process id before
the run and with the fault after it:

    status   0                       ready
    (a run on the first input to warm up, after which the map is cleared)
    control  four bytes              run the next input
    status   process id
    status   fault

The first input is run twice, once to warm up and once for the first ping.
The loop ends when the driver closes the control pipe.
-/
import BranchCoverage.Bench

namespace BranchCoverage

/-- Why a fork server stopped. -/
inductive ServeError where
  | status (cause : IoError)
  | control (cause : IoError)
  | firstInput (cause : IoError)
  | input (cause : IoError)
  deriving DecidableEq

namespace ServeError

/-- The message and below it what caused it. -/
def chain : ServeError → List String
  | .status cause => ["Failed to write to the status pipe", cause.message]
  | .control cause => ["Failed to read from the control pipe", cause.message]
  | .firstInput cause => ["Failed to read the first input", cause.message]
  | .input cause => ["Failed to read input", cause.message]

end ServeError

namespace ForkServer

variable {σ : Type}

/-- A step of a fork server. -/
abbrev Serving (σ : Type) := EStateM ServeError (Bench σ)

/-- Runs on an input with the previous location reset, and reports the fault. -/
def iterate (harness : Harness σ) (data : ByteArray) : Serving σ Unit := do
  Bench.trace Tracing.reset
  let fault ← Bench.execute harness data
  Bench.report .status fault.code

/-- Answers pings until there are no more, at most `limit` of them, and gives
their number, of which `done` have been answered already.  The first one uses
the input that is pending, if there is one. -/
def answer (harness : Harness σ) (pid : Int32) :
    (limit : Nat) → (pending : Option ByteArray) → (done : Nat) → Serving σ Nat
  | 0, _, done => pure done
  | limit + 1, pending, done => do
    if ← Bench.awaitPing .control then
      Bench.report .status pid
      let data ← match pending with
        | some data => pure data
        | none => Bench.readInput .input
      iterate harness data
      answer harness pid limit none (done + 1)
    else
      Bench.log .info s!"Driver closed the control pipe after {done} iteration(s)"
      pure done

/-- Serves the driver over the map of a context. -/
def session (harness : Harness σ) (pid : Int32) (token : Nat) : Serving σ Nat := do
  Bench.report .status 0
  let warmUp ← Bench.readInput .firstInput
  Bench.trace Tracing.reset
  let fault ← Bench.execute harness warmUp
  Bench.log .debug s!"Warm-up run finished with fault {fault.name}"
  Bench.trace (·.clear token)
  let pings := (← get).pings
  answer harness pid (pings + 1) (some warmUp) 0

/-- How a fork server ended: the number of iterations it reported or what
stopped it, the coverage map, and what the run left behind. -/
structure Outcome (σ : Type) where
  result : Except ServeError Nat
  map : CoverageMap
  bench : Bench σ

/-- Serves the driver until it closes the control pipe.  Probes write to the
given map while the server runs, and to where they wrote before after that.
A map of the wrong size is refused. -/
def serve? (harness : Harness σ) (pid : Int32) (map : CoverageMap) (b : Bench σ) :
    Option (Outcome σ) :=
  (b.tracing.install? map none).map fun (tracing, token) =>
    let (result, b) : Except ServeError Nat × Bench σ :=
      match session harness pid token { b with tracing } with
      | .ok iterations b => (.ok iterations, b)
      | .error e b => (.error e, b)
    { result
      map := b.tracing.map token
      bench := { b with tracing := b.tracing.drop token } }

end ForkServer

end BranchCoverage
