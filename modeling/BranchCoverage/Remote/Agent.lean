/-
The agent: it owns the coverage map of the process under test, and serves one
controller after another.

A start begins a test: the map, the previous locations and the locations
collected so far are cleared.  What the process does until the status request
counts as the test.  An error on a connection, or a panic of a callback, ends
that connection only.
-/
import BranchCoverage.Files.Error
import BranchCoverage.Harness
import BranchCoverage.Remote.Locations
import BranchCoverage.Remote.Protocol

namespace BranchCoverage

/-- Code of the process that the agent calls, with a memory.  It hits probes,
and then gives a value or panics. -/
abbrev Callback (σ α : Type) := σ → List Hit × Except Payload α × σ

/-- What an agent meets while it waits for a controller: bytes sent to it, and
hits of probes in its own process. -/
inductive Arrival where
  | byte (b : UInt8)
  | hit (hit : Hit)

/-- The locations of a test, collected only if the controller asked for them. -/
structure Collector where
  enabled : Bool := false
  locations : LocationTable := []
  deriving DecidableEq

/-- Takes the report of a hit. -/
def Collector.observe (c : Collector) (notice : Notice) : Collector :=
  if c.enabled then { c with locations := c.locations.record notice.id notice.label } else c

/-- The process of an agent: its trace states, the context of the agent, the
collector that observes it, and the memory of the callbacks. -/
structure AgentProcess (σ : Type) where
  tracing : Tracing
  token : Nat
  collector : Collector := {}
  memory : σ

namespace AgentProcess

variable {σ : Type}

/-- Records hits.  Those reported to the agent's context reach the collector. -/
def play (p : AgentProcess σ) (hits : List Hit) : AgentProcess σ :=
  let (tracing, notices) := p.tracing.play hits
  let mine := notices.filter (·.token = p.token)
  { p with tracing, collector := mine.foldl Collector.observe p.collector }

/-- Forgets everything before a test. -/
def begin (p : AgentProcess σ) (collect : Bool) : AgentProcess σ :=
  { p with
    tracing := p.tracing.reset.clear p.token
    collector := ⟨collect, []⟩ }

/-- The report on a test that ended with a fault. -/
def report (p : AgentProcess σ) (fault : Fault) : Report :=
  ⟨fault.code, p.tracing.map p.token, p.collector.locations.render⟩

end AgentProcess

/-- A connection as the agent has it: what arrives, what a read beyond it fails
with, and what is sent. -/
structure Desk (σ : Type) where
  process : AgentProcess σ
  arrivals : List Arrival
  failure : Option String := none
  outgoing : Outlet := {}
  log : List LogLine := []

/-- What ends a connection before its time. -/
inductive Interruption where
  | protocol (cause : ProtocolError)
  | panic (payload : Payload)
  deriving DecidableEq

namespace Agent

variable {σ α : Type}

/-- A step of the agent on a connection. -/
abbrev Serving (σ : Type) := EStateM Interruption (Desk σ)

/-- Writes a line to the log. -/
def log (level : Level) (message : String) : Serving σ Unit :=
  modify fun d => { d with log := ⟨level, message⟩ :: d.log }

/-- Waits for so many bytes, and records the hits that come before the last of
them. -/
def gather : (needed : Nat) → (process : AgentProcess σ) → List Arrival →
    List UInt8 × AgentProcess σ × List Arrival
  | 0, process, arrivals => ([], process, arrivals)
  | _ + 1, process, [] => ([], process, [])
  | needed + 1, process, .hit h :: arrivals => gather (needed + 1) (process.play [h]) arrivals
  | needed + 1, process, .byte b :: arrivals =>
    let (bytes, process, arrivals) := gather needed process arrivals
    (b :: bytes, process, arrivals)

/-- Waits for a word. -/
def receive : Serving σ (Except IoError Int32) := fun d =>
  let (bytes, process, arrivals) := gather 4 d.process d.arrivals
  let d := { d with process, arrivals }
  match Word.ofList? bytes with
  | some word => .ok (.ok word) d
  | none => .ok (.error (Source.exhausted ⟨[], d.failure⟩)) d

/-- Fails for a reason of the protocol. -/
def fail (cause : ProtocolError) : Serving σ α :=
  throw (.protocol cause)

/-- Sends bytes. -/
def send (bytes : List UInt8) : Serving σ Unit := fun d =>
  match d.outgoing.write bytes with
  | (.ok (), outgoing) => .ok () { d with outgoing }
  | (.error e, outgoing) => .error (.protocol (.io e)) { d with outgoing }

/-- Calls code of the process.  Its hits count even if it panics. -/
def call (callback : Callback σ α) : Serving σ α := fun d =>
  let (hits, result, memory) := callback d.process.memory
  let d := { d with process := { d.process.play hits with memory } }
  match result with
  | .ok x => .ok x d
  | .error payload => .error (.panic payload) d

/-- Sends the report on a test. -/
def sendReport (fault : Fault) : Serving σ Unit := do
  match ((← get).process.report fault).encode with
  | .ok bytes => send bytes
  | .error e => fail e

/-- Serves tests until the controller stops or leaves, `limit` of them at most,
and gives their number, of which `done` have been served already.  The
callbacks are asked to wait for the test to settle, and for its fault. -/
def serve (pid : Int32) (guard : Callback σ Unit) (status : Callback σ Fault) :
    (limit : Nat) → (done : Nat) → Serving σ Nat
  | 0, done => pure done
  | limit + 1, done => do
    match ← receive with
    | .error .endOfInput => pure done
    | .error e => fail (.io e)
    | .ok code =>
      match Command.ofCode code with
      | .error e => fail e
      | .ok .stop => pure done
      | .ok command =>
        modify fun d => { d with process := d.process.begin command.collects }
        send (Word.encode pid)
        log .debug s!"Test started, collecting locations: {command.collects}"
        match ← receive with
        | .error e => fail (.io e)
        | .ok request =>
          if request ≠ statusRequest then fail (.unknownCommand request)
          else
            call guard
            let fault ← call status
            sendReport fault
            log .debug s!"Reported fault {fault.name}"
            serve pid guard status limit (done + 1)

/-- How a connection ended: the number of tests served, or what ended it, and
the bytes sent on it. -/
structure Visit where
  result : Except Interruption Nat
  sent : List UInt8

/-- A connection of a controller. -/
structure Connection where
  peer : String
  arrivals : List Arrival
  failure : Option String := none
  limit : Option Limit := none

/-- The line for the log at the end of a connection. -/
def farewell (peer : String) : Except Interruption Nat → LogLine
  | .ok tests => ⟨.info, s!"Controller {peer} left after {tests} test(s)"⟩
  | .error (.protocol e) => ⟨.warn, s!"Dropping controller {peer}: " ++ e.message⟩
  | .error (.panic payload) =>
    ⟨.error, s!"Dropping controller {peer}: status callback panicked: " ++ payload.message⟩

/-- Serves one connection.  Hits that come behind the last byte read are still
recorded. -/
def visit (pid : Int32) (guard : Callback σ Unit) (status : Callback σ Fault)
    (p : AgentProcess σ) (c : Connection) : Visit × AgentProcess σ × List LogLine :=
  let desk : Desk σ := ⟨p, c.arrivals, c.failure, { limit := c.limit }, []⟩
  let (result, desk) : Except Interruption Nat × Desk σ :=
    match serve pid guard status (c.arrivals.length + 1) 0 desk with
    | .ok tests desk => (.ok tests, desk)
    | .error e desk => (.error e, desk)
  let left := desk.arrivals.filterMap fun
    | .hit h => some h
    | .byte _ => none
  (⟨result, desk.outgoing.sent⟩, desk.process.play left,
    ⟨.info, s!"Controller connected from {c.peer}"⟩ :: desk.log.reverse ++
      [farewell c.peer result])

/-- Serves connections one after another. -/
def visits (pid : Int32) (guard : Callback σ Unit) (status : Callback σ Fault) :
    AgentProcess σ → List Connection → List Visit × AgentProcess σ × List LogLine
  | p, [] => ([], p, [])
  | p, c :: rest =>
    let (v, p, log) := visit pid guard status p c
    let (vs, p, logs) := visits pid guard status p rest
    (v :: vs, p, log ++ logs)

/-- How an agent ended.  Without a limit, or with more room than connections,
it stops when no connection can be accepted any more. -/
structure Outcome (σ : Type) where
  result : Except (List String) Unit
  visits : List Visit
  tracing : Tracing
  memory : σ
  log : List LogLine

/-- What accepting a connection fails with once the listening socket has been
shut down. -/
def acceptFailure : List String :=
  ["Failed to accept a controller", FileError.invalidArgument.message]

/-- Serves the connections that come, `limit` of them at most, in a context of
its own with this map. -/
def serveOn (map : CoverageMap) (pid : Int32) (limit : Option Nat) (guard : Callback σ Unit)
    (status : Callback σ Fault) (tracing : Tracing) (memory : σ)
    (connections : List Connection) : Outcome σ :=
  match tracing.install? map (some .attentive) with
  | none => ⟨.error [Tracing.sizeRefusal], [], tracing, memory, []⟩
  | some (tracing, token) =>
    let served := match limit with
      | none => connections
      | some n => connections.take n
    let (visits, p, log) := visits pid guard status ⟨tracing, token, {}, memory⟩ served
    let result := match limit with
      | none => .error acceptFailure
      | some n => if n ≤ connections.length then .ok () else .error acceptFailure
    ⟨result, visits, p.tracing.drop token, p.memory, log⟩

/-- Serves the connections that come, `limit` of them at most.  The map has the
right size, so the context is never refused. -/
def serveConnections (pid : Int32) (limit : Option Nat) (guard : Callback σ Unit)
    (status : Callback σ Fault) (tracing : Tracing) (memory : σ)
    (connections : List Connection) : Outcome σ :=
  serveOn .zero pid limit guard status tracing memory connections

end Agent

end BranchCoverage
