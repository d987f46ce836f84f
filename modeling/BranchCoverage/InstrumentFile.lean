/-
Instrumentation of module files in place.

A file that cannot be read, is no module image, or holds a module that is
refused is left as it is.
-/
import BranchCoverage.Files.Basic
import BranchCoverage.Instrument

namespace BranchCoverage

open Identifier (WordSource)

/-- What came of an attempt to instrument a file: the names of the types with
probes or a refusal, the instrumenter as it is then, the names that were asked
for, and the lines for the log, those at the end apart. -/
structure FileAttempt (ω : Type) where
  result : Except Refusal (List String)
  instrumenter : Instrumenter ω
  consulted : List String := []
  log : List LogLine := []
  farewell : List LogLine := []

/-- The lines for the log, with those that asking for a name leaves. -/
def FileAttempt.logWith {ω : Type} (a : FileAttempt ω) (asking : String → List LogLine) :
    List LogLine :=
  a.log ++ a.consulted.flatMap asking ++ a.farewell

namespace Instrumenter

variable {ω : Type} [WordSource ω] {m : Type → Type} [Monad m]

/-- The module in a file. -/
def load (fs : FileSystem m) (path : String) : m (Except Refusal Module) := do
  match ← fs.read path with
  | .error cause => return .error (.unreadable path cause)
  | .ok image =>
    match Module.ofImage? image with
    | .error cause => return .error (.malformed cause)
    | .ok module => return .ok module

/-- Instruments the module in a file, of which `select` picks types and methods
by name. -/
def instrumentFile (i : Instrumenter ω) (fs : FileSystem m) (select : String → Bool)
    (path : String) : m (FileAttempt ω) := do
  match ← load fs path with
  | .error refusal => return { result := .error refusal, instrumenter := i }
  | .ok module =>
    let a := i.instrument select module
    let attempt : FileAttempt ω :=
      { result := a.result, instrumenter := a.instrumenter, consulted := a.consulted, log := a.log }
    match a.result with
    | .error _ => return attempt
    | .ok types =>
      match ← fs.write path a.module.toImage with
      | .error cause => return { attempt with result := .error (.unwritable path cause) }
      | .ok () =>
        return { attempt with
          farewell := [⟨.info, s!"Instrumented {types.length} type(s) in {path}"⟩] }

end Instrumenter

end BranchCoverage
