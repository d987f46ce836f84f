/-
The command line program: its files are those of the machine, and its log goes
to standard error.
-/
import BranchCoverage.CommandLine.Run
import BranchCoverage.Log.Logger
import Std.Time

namespace BranchCoverage.CommandLine

/-- How the machine's refusal reads here. -/
def fileError : IO.Error → FileError
  | .noFileOrDirectory .. => .notFound
  | .inappropriateType _ code _ => if code = 20 then .notADirectory else .isADirectory
  | .invalidArgument .. => .invalidArgument
  | e => .other e.toString

/-- The outcome of an action on a file. -/
def attempt {α : Type} (action : IO α) : IO (Except FileError α) := do
  match ← action.toBaseIO with
  | .ok x => return .ok x
  | .error e => return .error (fileError e)

/-- The file system of the machine. -/
def machine : FileSystem IO where
  isFile path := do
    let asked ← attempt do
      let info ← (← IO.FS.realPath path).metadata
      return info.type == .file
    return asked.toOption.getD false
  read path := attempt do return (← IO.FS.readBinFile path).toList
  write path content := attempt (IO.FS.writeBinFile path ⟨content.toArray⟩)
  list path := attempt do
    let entries ← (← IO.FS.realPath path).readDir
    entries.toList.mapM fun entry => do
      return (entry.fileName, (← entry.path.symlinkMetadata).type == .file)

/-- The id of this process, where the machine tells it. -/
def processId : IO Nat := do
  match ← (IO.FS.readFile "/proc/self/stat").toBaseIO with
  | .ok text => return ((text.splitOn " ").head?.bind String.toNat?).getD 0
  | .error _ => return 0

/-- Writes a line to the log, if it is important enough. -/
def logLine (pid : Nat) (filter : Log.Filter) (line : LogLine) : IO Unit := do
  if filter.admits line.level "" line.message then
    let now ← Std.Time.PlainTime.now
    let stamp : Log.Stamp :=
      { hour := now.hour.val.toNat
        minute := now.minute.val.toNat
        second := now.second.val.toNat
        millisecond := now.nanosecond.val.toNat / 1000000
        pid }
    IO.eprint (Log.stamped stamp line.message)

/-- The text for who asked for help. -/
def help : String :=
  "Instruments managed bytecode modules for fuzzing with afl-fuzz.\n\n" ++
  "Usage: PATH [PREFIX]... [OPTION]...\n\n" ++
  "  PATH                   module to instrument; * and ? select by file name\n" ++
  "  PREFIX                 class or namespace prefixes to instrument\n" ++
  "  --include LIST         comma separated prefixes to instrument\n" ++
  "  --exclude LIST         comma separated prefixes to leave alone\n" ++
  "  --include-file FILE    file with one prefix to instrument per line\n" ++
  "  --exclude-file FILE    file with one prefix to leave alone per line\n" ++
  "  --use-callback         route every probe through the trace observer\n" ++
  "  --alternate-mode       record edges in the bitset map\n" ++
  "  --set-version MAJOR    major version to give the instrumented modules\n" ++
  "  --print                print the instrumented types of every module\n" ++
  "  --reject-mixed-mode    refuse modules that mix native and managed code\n" ++
  "  -h, --help             print this text\n" ++
  "  -V, --version          print the version\n"

/-- What is wrong with the arguments. -/
def Usage.message : Usage → String
  | .unknownArgument => "error: unexpected argument"
  | .tooManyValues => "error: unexpected value for an option that takes none"
  | .invalidValue => "error: a value is required"
  | .valueValidation => "error: invalid version, expected a number from 0 to 65535"
  | .argumentConflict => "error: an option cannot be used multiple times"
  | .missingRequiredArgument => "error: a path is required"
  | .displayHelp | .displayHelpOnMissingArgument => help
  | .displayVersion => "0.6.0"

/-- Says why there is nothing to run, and gives the exit code. -/
def explain (usage : Usage) : IO UInt32 := do
  match usage with
  | .displayHelp | .displayVersion =>
    IO.println usage.message
    return 0
  | _ =>
    IO.eprintln usage.message
    return 2

end BranchCoverage.CommandLine

open BranchCoverage CommandLine in
/-- Runs the command line. -/
def main (arguments : List String) : IO UInt32 := do
  match Arguments.parse arguments with
  | .error usage => explain usage
  | .ok parsed =>
    let names ← Options.environment.names.filterM fun name => return (← IO.getEnv name).isSome
    let pid ← processId
    let filter := (Log.Filter.parse Log.Filter.standard).1
    let surroundings : Surroundings IO :=
      { files := machine
        isSet := names.contains
        print := fun text => IO.print text
        log := logLine pid filter }
    match ← (run surroundings parsed).run with
    | .ok () => return 0
    | .error e =>
      IO.eprint e.line
      return 1
