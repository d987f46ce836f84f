/-
An agent that remembers nothing.

It has neither trace states nor a map nor a table of locations.  While a test
runs it notes down the hits, and when it is asked for the report it makes it up
from these alone (`Trial.report`): the map that replaying them leaves of one with
nothing recorded, and the text of the locations among them.  What it keeps from
one test to the next is the memory of the callbacks, which is theirs.

This is what an agent is from the outside, whatever it served before.
-/
import BranchCoverage.Proofs.Trace.Replay
import BranchCoverage.Remote.Agent

namespace BranchCoverage

/-- A test: whether locations are collected, the hits between the start and the
report, in order, and the fault that is reported. -/
structure Trial where
  collect : Bool
  hits : List Hit
  fault : Fault

namespace Trial

/-- The identifiers and labels of the hits that went through the probe methods. -/
def located (hits : List Hit) : List (UInt32 × String) :=
  hits.filterMap fun
    | .call _ id label => some (id, label)
    | .inline .. => none

/-- The table of identifiers and labels. -/
def table (pairs : List (UInt32 × String)) : LocationTable :=
  pairs.foldl (fun table (id, label) => table.record id label) []

/-- The report on a test. -/
def report (registered : Nat → Bool) (t : Trial) : Report where
  fault := t.fault.code
  coverage := (t.hits.foldl (Replay.hit registered) { map := .zero }).map
  locations := if t.collect then (table (located t.hits)).render else ""

end Trial

/-- What arrives, divided behind the last of so many bytes: these bytes, the hits
among them, and the rest. -/
def Arrival.split : (needed : Nat) → List Arrival → List UInt8 × List Hit × List Arrival
  | 0, arrivals => ([], [], arrivals)
  | _ + 1, [] => ([], [], [])
  | needed + 1, .hit x :: arrivals =>
    let (bytes, hits, rest) := split (needed + 1) arrivals
    (bytes, x :: hits, rest)
  | needed + 1, .byte b :: arrivals =>
    let (bytes, hits, rest) := split needed arrivals
    (b :: bytes, hits, rest)

/-- A connection without the process behind it. -/
structure Outline (σ : Type) where
  memory : σ
  arrivals : List Arrival
  failure : Option String := none
  outgoing : Outlet := {}

namespace Outline

open Agent (Visit Connection)

variable {σ α : Type}

abbrev Serving (σ : Type) := EStateM Interruption (Outline σ)

/-- Waits for a word, and notes the hits until then. -/
def receive : Serving σ (Except IoError Int32 × List Hit) := fun o =>
  let (bytes, hits, arrivals) := Arrival.split 4 o.arrivals
  match Word.ofList? bytes with
  | some word => .ok (.ok word, hits) { o with arrivals }
  | none => .ok (.error (Source.exhausted ⟨[], o.failure⟩), hits) { o with arrivals }

def fail (cause : ProtocolError) : Serving σ α :=
  throw (.protocol cause)

def send (bytes : List UInt8) : Serving σ Unit := fun o =>
  match o.outgoing.write bytes with
  | (.ok (), outgoing) => .ok () { o with outgoing }
  | (.error e, outgoing) => .error (.protocol (.io e)) { o with outgoing }

/-- Calls code of the process, and notes its hits. -/
def call (callback : Callback σ α) : Serving σ (α × List Hit) := fun o =>
  match callback o.memory with
  | (hits, .ok x, memory) => .ok (x, hits) { o with memory }
  | (_, .error payload, memory) => .error (.panic payload) { o with memory }

def sendReport (registered : Nat → Bool) (t : Trial) : Serving σ Unit :=
  match (t.report registered).encode with
  | .ok bytes => send bytes
  | .error e => fail e

/-- Serves tests until the controller stops or leaves, `limit` of them at most,
and gives their number, of which `done` have been served already.  A test is
what happens between its start and the report; hits before the start are lost. -/
def serve (registered : Nat → Bool) (pid : Int32) (guard : Callback σ Unit)
    (status : Callback σ Fault) : (limit : Nat) → (done : Nat) → Serving σ Nat
  | 0, done => pure done
  | limit + 1, done => do
    let (word, _) ← receive
    match word with
    | .error .endOfInput => pure done
    | .error e => fail (.io e)
    | .ok code =>
      match Command.ofCode code with
      | .error e => fail e
      | .ok .stop => pure done
      | .ok command =>
        send (Word.encode pid)
        let (word, hits) ← receive
        match word with
        | .error e => fail (.io e)
        | .ok request =>
          if request ≠ statusRequest then fail (.unknownCommand request)
          else
            let (_, settling) ← call guard
            let (fault, last) ← call status
            sendReport registered ⟨command.collects, hits ++ settling ++ last, fault⟩
            serve registered pid guard status limit (done + 1)

/-- Serves one connection: how it ended, and the memory of the callbacks. -/
def visit (registered : Nat → Bool) (pid : Int32) (guard : Callback σ Unit)
    (status : Callback σ Fault) (memory : σ) (c : Connection) : Visit × σ :=
  match serve registered pid guard status (c.arrivals.length + 1) 0
      ⟨memory, c.arrivals, c.failure, { limit := c.limit }⟩ with
  | .ok tests o => (⟨.ok tests, o.outgoing.sent⟩, o.memory)
  | .error e o => (⟨.error e, o.outgoing.sent⟩, o.memory)

/-- Serves connections one after another. -/
def visits (registered : Nat → Bool) (pid : Int32) (guard : Callback σ Unit)
    (status : Callback σ Fault) : σ → List Connection → List Visit
  | _, [] => []
  | memory, c :: rest =>
    let (v, memory) := visit registered pid guard status memory c
    v :: visits registered pid guard status memory rest

end Outline

end BranchCoverage
