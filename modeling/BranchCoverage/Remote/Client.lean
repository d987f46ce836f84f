/-
A controller's connection to an agent.
-/
import BranchCoverage.Remote.Protocol

namespace BranchCoverage

/-- The two directions of a connection. -/
structure Link where
  incoming : Source
  outgoing : Outlet := {}
  deriving DecidableEq

namespace Link

/-- A step of a conversation. -/
abbrev Talk := EStateM ProtocolError Link

/-- Sends a word. -/
def send (word : Int32) : Talk Unit := fun l =>
  match l.outgoing.writeWord word with
  | (.ok (), outgoing) => .ok () { l with outgoing }
  | (.error e, outgoing) => .error (.io e) { l with outgoing }

/-- Receives a word. -/
def receive : Talk Int32 := fun l =>
  match l.incoming.readWord with
  | (.ok word, incoming) => .ok word { l with incoming }
  | (.error e, incoming) => .error (.io e) { l with incoming }

/-- Receives a report. -/
def receiveReport : Talk Report := fun l =>
  match Report.read l.incoming with
  | (.ok report, incoming) => .ok report { l with incoming }
  | (.error e, incoming) => .error e { l with incoming }

/-- Starts a test and learns the agent's process id. -/
def start (collect : Bool) : Talk Int32 := do
  send (Command.starting collect).code
  receive

/-- Asks for the report of the test. -/
def status : Talk Report := do
  send statusRequest
  receiveReport

/-- Ends the conversation. -/
def stop : Talk Unit :=
  send Command.stop.code

end Link

end BranchCoverage
