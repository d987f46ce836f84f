/-
A run of the command line: the files that the path selects are instrumented
one after another, with one sequence of identifiers.
-/
import BranchCoverage.CommandLine.Arguments
import BranchCoverage.Files.Expand
import BranchCoverage.InstrumentFile
import BranchCoverage.Selection.Matcher
import BranchCoverage.Selection.PrefixList

namespace BranchCoverage.CommandLine

/-- Why a run failed. -/
inductive RunError where
  | expand (cause : ExpandError)
  | prefixList (path : String) (cause : FileError)
  | refused (cause : Refusal)
  | file (path : String) (cause : Refusal)
  deriving DecidableEq

namespace RunError

/-- The message and below it, link by link, what caused it. -/
def chain : RunError → List String
  | .expand cause => cause.chain
  | .prefixList path cause => [s!"Failed to read prefix list {path}", cause.message]
  | .refused cause => cause.chain
  | .file path cause => s!"Failed to instrument {path}" :: cause.chain

/-- The line for standard error. -/
def line (e : RunError) : String :=
  String.intercalate ": " e.chain ++ "\n"

end RunError

/-- What a run finds around it: files, variables, an output and a log. -/
structure Surroundings (m : Type → Type) where
  files : FileSystem m
  isSet : String → Bool
  print : String → m Unit
  log : LogLine → m Unit

/-- The options that variables and settings give together.  Modules with native
code are instrumented unless the settings forbid it. -/
def Settings.options (s : Settings) (isSet : String → Bool) : Options :=
  let o := Options.ofPresence isSet
  { callback := o.callback || s.useCallback
    alternate := o.alternate || s.alternateMode
    list := o.list || s.print
    mixed := !s.rejectMixedMode
    version := s.version }

/-- Options as the log shows them. -/
def describe (o : Options) : String :=
  "Effective options: Options \x7b enable_on_branch_callback: " ++ toString o.callback ++
    ", alternate_trace_mode: " ++ toString o.alternate ++
    ", print_instrumented_types: " ++ toString o.list ++
    ", instrument_mixed_mode: " ++ toString o.mixed ++
    ", new_version: " ++ (match o.version with
      | none => "None"
      | some major => s!"Some({major.toNat})") ++ " \x7d"

/-- The listing of the types with probes of a file. -/
def listing (path : String) (types : List String) : String :=
  path ++ ":\n\n" ++ String.join (types.map (· ++ "\n")) ++ "\n"

section

variable {m : Type → Type} [Monad m]

/-- A step of a run. -/
abbrev Running (m : Type → Type) := ExceptT RunError m

/-- The prefixes in list files. -/
def readLists (s : Surroundings m) : List String → Running m (List String)
  | [] => return []
  | path :: rest => do
    match ← ExceptT.lift (s.files.readText path) with
    | .error cause => throw (.prefixList path cause)
    | .ok text => return PrefixList.parse text ++ (← readLists s rest)

/-- The matcher that settings ask for. -/
def Settings.matcher (settings : Settings) (s : Surroundings m) : Running m Matcher := do
  let included ← readLists s settings.includeFiles
  let excluded ← readLists s settings.excludeFiles
  return Matcher.ofPrefixes (settings.prefixes ++ settings.included ++ included)
    (settings.excluded ++ excluded)

/-- Writes lines to the log. -/
def logAll (s : Surroundings m) : List LogLine → m Unit
  | [] => pure ()
  | line :: rest => do
    s.log line
    logAll s rest

variable {ω : Type} [Identifier.WordSource ω]

/-- Instruments files one after another. -/
def instrumentFiles (s : Surroundings m) (matcher : Matcher) :
    Instrumenter ω → List String → Running m Unit
  | _, [] => return
  | i, path :: rest => do
    let a ← ExceptT.lift (i.instrumentFile s.files matcher.accepts path)
    ExceptT.lift (logAll s (a.logWith matcher.log))
    match a.result with
    | .error cause => throw (.file path cause)
    | .ok types =>
      if i.options.list then ExceptT.lift (s.print (listing path types))
      instrumentFiles s matcher a.instrumenter rest

/-- Runs the command line.  All of the core library is never instrumented. -/
def run (s : Surroundings m) (arguments : Arguments) : Running m Unit := do
  match ← ExceptT.lift (s.files.expand arguments.path) with
  | .error cause => throw (.expand cause)
  | .ok paths =>
    let settings := arguments.settings
    let matcher ← settings.matcher s
    if !matcher.hasIncludes && paths.any isCoreLibrary then
      throw (.refused (.missingCorePrefix TraceType.coreLibrary))
    let options := settings.options s.isSet
    ExceptT.lift (s.log ⟨.debug, describe options⟩)
    instrumentFiles s matcher (Instrumenter.fresh options) paths

end

end BranchCoverage.CommandLine
