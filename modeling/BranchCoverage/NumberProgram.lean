/-
The number parser as a program of its own.
-/
import BranchCoverage.EntryPoint
import BranchCoverage.NumberHarness

namespace BranchCoverage.NumberProgram

variable {σ : Type}

/-- The variable that holds the path of the log file. -/
def logVariable : String := "PARSE_NUMBER_LOG"

/-- Parses a text, and writes the value to the log. -/
def harness (memory : σ) (text : String) : Execution × σ :=
  let lines := (NumberHarness.value? text).toList.map fun n =>
    (⟨.debug, s!"Parsed {n}"⟩ : LogLine)
  ({ NumberHarness.execution text with lines }, memory)

/-- Starts the log, if a file is given for it, and then parses what the driver
or standard input brings. -/
def start (logFile : Option String) (logging : Log.Session) :
    EntryPoint.Entering σ Log.Session := do
  let logging ← match logFile.map logging.initWithFile with
    | none => pure logging
    | some (.ok (), logging) => pure logging
    | some (.error e, _) => throw (.logger e)
  EntryPoint.runText defaultBufferSize harness
  return logging

end BranchCoverage.NumberProgram
