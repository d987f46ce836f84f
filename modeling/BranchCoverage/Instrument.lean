/-
Instrumentation of whole modules.

A module is refused if it carries the trace type or a reference to it already,
if it holds native code and may not, or if one of its bodies is defective.
Otherwise it gets access to the trace type, and a probe at every branch site
of every selected method.  Modules instrumented one after another share one
sequence of identifiers.
-/
import BranchCoverage.Files.Error
import BranchCoverage.Module.Image
import BranchCoverage.Probe.Insertion

namespace BranchCoverage

open Identifier (Generator WordSource)

/-- Why a module is not instrumented. -/
inductive Refusal where
  | alreadyInstrumented
  | mixedMode
  /-- All of the core library was to be instrumented. -/
  | missingCorePrefix (library : String)
  | unreadable (path : String) (cause : FileError)
  | unwritable (path : String) (cause : FileError)
  | malformed (cause : ImageError)
  | defective (method : String) (defect : Defect)
  /-- A body holds an index that has no place in the new body. -/
  | lostIndex (method : String)
  deriving DecidableEq

namespace Refusal

/-- The text that names the reason. -/
def message : Refusal → String
  | alreadyInstrumented => "the specified assembly is already instrumented"
  | mixedMode => "cannot instrument mixed-mode assemblies"
  | missingCorePrefix library =>
    s!"at least one prefix is required when instrumenting {library}"
  | unreadable path cause => s!"failed to read {path}: " ++ cause.message
  | unwritable path cause => s!"failed to write {path}: " ++ cause.message
  | malformed cause => "not a valid module image: " ++ cause.message
  | defective method (.branchTarget index target) =>
    s!"branch at {index} in {method} targets {target}, past the end of the body"
  | defective method (.handlerRange handler) =>
    s!"exception handler #{handler} in {method} has an invalid range"
  | lostIndex method => s!"an index in {method} has no place in the new body"

/-- The message and below it, link by link, what caused it. -/
def chain (r : Refusal) : List String :=
  match r with
  | unreadable _ cause | unwritable _ cause => [r.message, cause.message]
  | malformed cause => [r.message, cause.message]
  | _ => [r.message]

end Refusal

/-! ### The module around the bodies -/

/-- Whether the module has a way to the trace type already. -/
def Module.isInstrumented (m : Module) : Bool :=
  (m.type? TraceType.fullName).isSome || m.refersTo TraceType.assembly

/-- Validates all bodies of a module. -/
def Module.check (m : Module) : Except Refusal Unit :=
  match m.validate with
  | .ok () => .ok ()
  | .error (method, defect) => .error (.defective method defect)

/-- Whether the module may be instrumented. -/
def Module.admission (options : Options) (m : Module) : Except Refusal Unit :=
  if m.isInstrumented then .error .alreadyInstrumented
  else if !m.isIlOnly && !options.mixed then .error .mixedMode
  else m.check

/-- Whether the module is the core library. -/
def Module.isCore (m : Module) : Bool :=
  m.name = TraceType.coreLibrary

/-- The scope in which a module finds the trace type once it is prepared. -/
def Module.traceScope (m : Module) : Scope :=
  if m.isCore then .here else .assembly TraceType.assembly

/-- The module with access to the trace type.  The core library gets the type
itself and keeps its version. -/
def Module.prepare (options : Options) (m : Module) : Module :=
  let flags := if m.isIlOnly then m.flags else m.flags &&& ~~~ilLibraryFlag
  if m.isCore then { m with flags, types := m.types ++ [TraceType.definition] }
  else
    { m with
      flags
      version := match options.version with
        | some major => { major }
        | none => m.version
      references := m.references ++ [TraceType.assemblyRef] }

/-! ### The walk over the methods -/

/-- What a walk over the types of a module has come to: the generator, the
names asked for (the last first), and the names of the types with probes. -/
structure Walk (ω : Type) where
  ids : Generator ω
  consulted : List String := []
  types : List String := []

/-- A step of a walk, which a body with a stray index stops. -/
abbrev Walking (ω : Type) := StateT (Walk ω) (Except Refusal)

namespace Walk

variable {ω : Type} [WordSource ω]

/-- Asks whether a type or method is selected. -/
def ask (select : String → Bool) (name : String) : Walking ω Bool := fun w =>
  .ok (select name, { w with consulted := name :: w.consulted })

/-- Puts probes into a body and notes its type. -/
def probeBody (probe : Probe) (type method : String) (b : MethodBody) : Walking ω MethodBody :=
  fun w =>
    match b.instrument? probe method w.ids with
    | some (b, ids) => .ok (b, { w with ids, types := Sorted.insert type w.types })
    | none => .error (.lostIndex method)

/-- Puts probes into a method that has bytecode and is selected. -/
def visitMethod (probe : Probe) (select : String → Bool) (t : TypeDef) (m : MethodDef) :
    Walking ω MethodDef := do
  match m.body with
  | some b =>
    if m.codeType = .il then
      if ← ask select (t.methodName m) then
        let b ← probeBody probe t.fullName (t.methodName m) b
        return { m with body := some b }
    return m
  | none => return m

/-- Puts probes into the selected methods of one type after another. -/
def visitMethods (probe : Probe) (select : String → Bool) (t : TypeDef) :
    List MethodDef → Walking ω (List MethodDef)
  | [] => pure []
  | m :: rest => do
    let m ← visitMethod probe select t m
    let rest ← visitMethods probe select t rest
    return m :: rest

/-- Puts probes into a type that has methods and is selected.  The trace type
itself is passed over. -/
def visitType (probe : Probe) (select : String → Bool) (t : TypeDef) : Walking ω TypeDef := do
  if t.fullName = TraceType.fullName ∨ !t.hasMethods then return t
  if ← ask select t.fullName then
    let methods ← visitMethods probe select t t.methods
    return { t with methods }
  return t

/-- Puts probes into the selected types. -/
def visitTypes (probe : Probe) (select : String → Bool) :
    List TypeDef → Walking ω (List TypeDef)
  | [] => pure []
  | t :: rest => do
    let t ← visitType probe select t
    let rest ← visitTypes probe select rest
    return t :: rest

end Walk

/-! ### Attempts -/

/-- Instruments modules one after another. -/
structure Instrumenter (ω : Type) where
  options : Options
  ids : Generator ω

/-- What came of an attempt to instrument a module: the names of the types
with probes or a refusal, the module and the instrumenter as they are then,
the names that were asked for, and the lines for the log. -/
structure Attempt (ω : Type) where
  result : Except Refusal (List String)
  module : Module
  instrumenter : Instrumenter ω
  consulted : List String
  log : List LogLine

namespace Instrumenter

variable {ω : Type} [WordSource ω]

/-- Instruments a module, of which `select` picks types and methods by name. -/
def instrument (i : Instrumenter ω) (select : String → Bool) (m : Module) : Attempt ω :=
  match m.admission i.options with
  | .error refusal => ⟨.error refusal, m, i, [], []⟩
  | .ok () =>
    let prepared := m.prepare i.options
    let (probe, warnings) :=
      Probe.select i.options prepared (TraceType.reference m.traceScope)
    let log :=
      (if m.isCore then
        [⟨.debug, s!"Synthesizing {TraceType.fullName} into {m.name}"⟩] else []) ++
      warnings ++ [⟨.debug, s!"Using {probe.kind.name} probes for {m.name}"⟩]
    match Walk.visitTypes probe select prepared.types { ids := i.ids } with
    | .error refusal => ⟨.error refusal, prepared, i, [], log⟩
    | .ok (types, walk) =>
      let changed := { prepared with types }
      { result := match changed.check with
          | .ok () => .ok walk.types
          | .error refusal => .error refusal
        module := changed
        instrumenter := { i with ids := walk.ids }
        consulted := walk.consulted.reverse
        log }

end Instrumenter

/-- An instrumenter at the beginning of the sequence of identifiers. -/
def Instrumenter.fresh (options : Options) : Instrumenter Identifier.Stream :=
  ⟨options, Identifier.fresh options.width⟩

end BranchCoverage
