/-
The options of an instrumentation run, and the environment variables that
switch them on.
-/
import BranchCoverage.Identifier.Generator

namespace BranchCoverage

/-- What an instrumentation run is asked for. -/
structure Options where
  /-- Probes call the trace type instead of updating its fields. -/
  callback : Bool := false
  /-- Edges are recorded in the bitset discipline, under wider identifiers. -/
  alternate : Bool := false
  /-- The instrumented types of every module are listed. -/
  list : Bool := false
  /-- Modules with native code may be instrumented. -/
  mixed : Bool := false
  /-- The major version that instrumented modules get. -/
  version : Option UInt16 := none
  deriving DecidableEq

namespace Options

/-- The variables whose presence, whatever their value, switches a flag on. -/
structure Variables where
  callback : String := "ILFUZZ_ENABLE_ON_BRANCH_CALLBACK"
  alternate : String := "ILFUZZ_ALTER_TRACE_MODE"
  list : String := "ILFUZZ_PRINT_INSTRUMENTED_TYPES"
  mixed : String := "ILFUZZ_INSTRUMENT_MIXED_MODE_ASSEMBLIES"

/-- The variables of every run. -/
def environment : Variables := {}

/-- The names of the variables. -/
def Variables.names (v : Variables) : List String :=
  [v.alternate, v.callback, v.mixed, v.list]

/-- The options that a presence test of the variables gives. -/
def ofPresence (isSet : String → Bool) : Options where
  callback := isSet environment.callback
  alternate := isSet environment.alternate
  list := isSet environment.list
  mixed := isSet environment.mixed

/-- The width of the identifiers that go with the options. -/
def width (options : Options) : Identifier.Width :=
  if options.alternate then .bitset else .counter

end Options

end BranchCoverage
