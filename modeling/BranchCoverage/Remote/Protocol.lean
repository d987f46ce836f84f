/-
The protocol between a controller and the agent in the process under test.

    controller to agent    a command: 0 stop, 1 start and collect, 2 start
    agent to controller    its process id, after a start
    controller to agent    0, a status request
    agent to controller    a report: the fault, the coverage map, the length
                           of the locations, and their text
-/
import BranchCoverage.Channel.Basic
import BranchCoverage.Text.Utf8
import BranchCoverage.Trace.Coverage

namespace BranchCoverage

/-- Why a conversation with the other side failed. -/
inductive ProtocolError where
  | io (cause : IoError)
  | unknownCommand (code : Int32)
  | coverageSize (expected actual : Nat)
  | locationLength (length : Int)
  | locationText (flaw : Text.Utf8.Flaw)
  deriving DecidableEq

/-- The text that names the reason. -/
def ProtocolError.message : ProtocolError → String
  | .io cause => "connection failed: " ++ cause.message
  | .unknownCommand code => s!"unknown command {code}"
  | .coverageSize expected actual =>
    s!"coverage map holds {actual} bytes, expected {expected}"
  | .locationLength length => s!"invalid location payload length {length}"
  | .locationText flaw => "location payload is not UTF-8: " ++ flaw.message

/-! ### Commands -/

/-- What a controller asks for. -/
inductive Command where
  | stop
  | startWithLocations
  | start
  deriving DecidableEq

namespace Command

/-- The command that starts a test. -/
def starting (collect : Bool) : Command :=
  if collect then .startWithLocations else .start

/-- The word that is sent for a command. -/
def code : Command → Int32
  | .stop => 0
  | .startWithLocations => 1
  | .start => 2

/-- The command that a word stands for. -/
def ofCode (code : Int32) : Except ProtocolError Command :=
  if code = 0 then .ok .stop
  else if code = 1 then .ok .startWithLocations
  else if code = 2 then .ok .start
  else .error (.unknownCommand code)

/-- Whether the agent is to collect locations. -/
def collects (c : Command) : Bool :=
  c = .startWithLocations

end Command

/-- The request for a report. -/
def statusRequest : Int32 := 0

/-! ### Reports -/

/-- An agent's report on a test.  The fault is the code as it was sent. -/
structure Report where
  fault : Int32
  coverage : CoverageMap
  locations : String
  deriving DecidableEq

/-- The greatest length of a location text that is read. -/
def maxLocations : Nat := 64 <<< 20

namespace Report

/-- The bytes of a report. -/
def encode (r : Report) : Except ProtocolError (List UInt8) :=
  if r.coverage.size ≠ mapSize then .error (.coverageSize mapSize r.coverage.size)
  else
    let length := r.locations.utf8ByteSize
    if length < 1 <<< 31 then
      .ok (Word.encode r.fault ++ r.coverage.toList ++ Word.encode (Int32.ofNat length) ++
        Text.Utf8.encode r.locations)
    else .error (.locationLength length)

/-- Sends a report. -/
def write (r : Report) (o : Outlet) : Except ProtocolError Unit × Outlet :=
  match r.encode with
  | .error e => (.error e, o)
  | .ok bytes =>
    match o.write bytes with
    | (.ok (), o) => (.ok (), o)
    | (.error e, o) => (.error (.io e), o)

/-- Reads the text of the locations.  A length that is not positive means that
there are none. -/
def readLocations (length : Int32) (s : Source) : Except ProtocolError String × Source :=
  if length.toInt ≤ 0 then (.ok "", s)
  else if maxLocations < length.toInt.toNat then (.error (.locationLength length.toInt), s)
  else
    match s.read length.toInt.toNat with
    | (.error e, s) => (.error (.io e), s)
    | (.ok bytes, s) =>
      match Text.Utf8.decode bytes with
      | .ok text => (.ok text, s)
      | .error flaw => (.error (.locationText flaw), s)

/-- Reads a report. -/
def read (s : Source) : Except ProtocolError Report × Source :=
  match s.readWord with
  | (.error e, s) => (.error (.io e), s)
  | (.ok fault, s) =>
    match s.read mapSize with
    | (.error e, s) => (.error (.io e), s)
    | (.ok coverage, s) =>
      match s.readWord with
      | (.error e, s) => (.error (.io e), s)
      | (.ok length, s) =>
        match readLocations length s with
        | (.error e, s) => (.error e, s)
        | (.ok locations, s) => (.ok ⟨fault, coverage.toArray, locations⟩, s)

end Report

/-- Adds the coverage of a report to a map, cell by cell. -/
def merge (map coverage : CoverageMap) : Except ProtocolError CoverageMap :=
  if map.size = coverage.size then .ok (map.add coverage)
  else .error (.coverageSize map.size coverage.size)

end BranchCoverage
