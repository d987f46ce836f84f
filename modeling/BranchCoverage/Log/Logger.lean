/-
The logger of a process.

A process gets its logger once; later attempts change nothing.  Lines that the
logger's filter admits go to standard error or to the end of a file.
-/
import BranchCoverage.Files.Tree
import BranchCoverage.Log.Filter
import BranchCoverage.Log.Stamp

namespace BranchCoverage.Log

/-- Where lines go. -/
inductive Sink where
  | standardError
  | file (location : Location)
  deriving DecidableEq

/-- What decides which lines are written, and where they go. -/
structure Logger where
  filter : Filter
  sink : Sink
  deriving DecidableEq

/-- Why a log file is not used. -/
inductive LoggerError where
  | unopenable (path : String) (cause : FileError)
  | alreadyInstalled
  deriving DecidableEq

/-- The message and below it what caused it. -/
def LoggerError.chain : LoggerError → List String
  | .unopenable path cause => [s!"Failed to open log file {path}", cause.message]
  | .alreadyInstalled =>
    ["A logger is already installed",
      "attempted to set a logger after the logging system was already initialized"]

/-- What a process logs with: the filter it was asked for, its logger, the
files, and its standard error, as text. -/
structure Session where
  wanted : Option String := none
  logger : Option Logger := none
  files : FileTree
  standardError : String := ""

namespace Session

/-- Warns about a flawed filter. -/
def warn (s : Session) (warnings : List String) : Session :=
  { s with standardError := s.standardError ++ String.join (warnings.map (· ++ "\n")) }

/-- Gives the process its logger, and tells whether it was the first. -/
def install (s : Session) (sink : Sink) : Bool × Session :=
  let (filter, warnings) := Filter.parse (s.wanted.getD Filter.standard)
  let s := s.warn warnings
  match s.logger with
  | some _ => (false, s)
  | none => (true, { s with logger := some ⟨filter, sink⟩ })

/-- Logs to standard error, unless there is a logger already. -/
def init (s : Session) : Session :=
  (s.install .standardError).2

/-- Logs to the end of a file, which is there from then on. -/
def initWithFile (s : Session) (path : String) : Except LoggerError Unit × Session :=
  match s.files.openToWrite path with
  | .error cause => (.error (.unopenable path cause), s)
  | .ok (location, files) =>
    match { s with files }.install (.file location) with
    | (true, s) => (.ok (), s)
    | (false, s) => (.error .alreadyInstalled, s)

/-- Logs a line about a target. -/
def log (s : Session) (stamp : Stamp) (level : Level) (target message : String) : Session :=
  match s.logger with
  | none => s
  | some logger =>
    if logger.filter.admits level target message then
      let line := stamped stamp message
      match logger.sink with
      | .standardError => { s with standardError := s.standardError ++ line }
      | .file location => { s with files := s.files.append location (Text.Utf8.encode line) }
    else s

end Session

end BranchCoverage.Log
