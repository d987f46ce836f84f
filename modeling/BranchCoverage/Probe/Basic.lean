/-
Probes: the code that is put in front of a branch site.

A probe records the edge from the previous site to its own and makes its own
the previous one.  It either calls the trace type, or does the same on the
fields of the trace type without any call.
-/
import BranchCoverage.Probe.TraceType
import BranchCoverage.Options
import BranchCoverage.Log

namespace BranchCoverage

/-- The shape of a probe. -/
inductive ProbeKind where
  /-- Calls the counter probe of the trace type. -/
  | counter
  /-- Calls the bitset probe of the trace type. -/
  | bitset
  /-- Counts on the fields of the trace type. -/
  | inline
  /-- Sets a bit through the fields of the trace type. -/
  | inlineBitset
  deriving DecidableEq

namespace ProbeKind

/-- The word for a kind. -/
def name : ProbeKind → String
  | .counter => "Counter"
  | .bitset => "Bitset"
  | .inline => "Inline"
  | .inlineBitset => "InlineBitset"

/-- The method of the trace type that a probe of the kind calls. -/
def method? : ProbeKind → Option String
  | .counter => some TraceType.counterMethod
  | .bitset => some TraceType.bitsetMethod
  | .inline | .inlineBitset => none

/-- The kind of the same discipline that calls nothing. -/
def withoutCall : ProbeKind → ProbeKind
  | .bitset | .inlineBitset => .inlineBitset
  | .counter | .inline => .inline

/-- The room that a probe of the kind needs on the evaluation stack. -/
def stackDepth : ProbeKind → UInt16
  | .inlineBitset => 5
  | .inline => 3
  | .counter | .bitset => 2

end ProbeKind

/-- A probe, bound to the members of a trace type. -/
structure Probe where
  kind : ProbeKind
  traceType : TypeRef
  deriving DecidableEq

namespace Probe

/-- The field with the coverage map. -/
def memory (p : Probe) : MemberRef :=
  ⟨p.traceType, TraceType.memoryField, TraceType.memoryType⟩

/-- The field with the previous location. -/
def previous (p : Probe) : MemberRef :=
  ⟨p.traceType, TraceType.previousField, TraceType.previousType⟩

/-- The method that the probe calls. -/
def callback? (p : Probe) : Option MemberRef :=
  p.kind.method?.map (⟨p.traceType, ·, TraceType.probeSignature⟩)

/-! ### Code -/

/-- Pushes the address of the map cell of a hash that is on the stack above the
address of the map, and below it that address once more. -/
def cellAddress (mask : Int32) : List Instruction :=
  [⟨.ldcI4, .int mask⟩, ⟨.and, .none⟩, ⟨.convI, .none⟩, ⟨.add, .none⟩, ⟨.dup, .none⟩,
    ⟨.ldindU1, .none⟩]

/-- Pushes the hash of an edge: the identifier of this site and the previous
location, combined bit by bit. -/
def hash (p : Probe) (id : Int32) : List Instruction :=
  [⟨.ldcI4, .int id⟩, ⟨.ldsfld, .field p.previous⟩, ⟨.xor, .none⟩]

/-- Makes half of the identifier the previous location. -/
def leaveTrace (p : Probe) (id : Int32) : List Instruction :=
  [⟨.ldcI4, .int (id >>> 1)⟩, ⟨.stsfld, .field p.previous⟩]

/-- The code of the probe of one site. -/
def code (p : Probe) (id : UInt32) (method : String) : List Instruction :=
  let id := id.toInt32
  match p.callback? with
  | some callback =>
    [⟨.ldcI4, .int id⟩, ⟨.ldstr, .text method⟩, ⟨.call, .method callback⟩]
  | none =>
    ⟨.ldsfld, .field p.memory⟩ :: p.hash id ++
      (match p.kind with
        | .inlineBitset =>
          [⟨.ldcI4, .int 4⟩, ⟨.shr, .none⟩] ++ cellAddress mapMask.toInt32 ++ [⟨.ldcI4, .int 1⟩] ++
            p.hash id ++
            [⟨.ldcI4, .int 7⟩, ⟨.and, .none⟩, ⟨.shl, .none⟩, ⟨.or, .none⟩, ⟨.stindI1, .none⟩]
        | _ =>
          cellAddress mapMask.toInt32 ++
            [⟨.ldcI4, .int 1⟩, ⟨.add, .none⟩, ⟨.stindI1, .none⟩]) ++
      p.leaveTrace id

/-! ### Choice -/

/-- The kind of probe that the options ask for. -/
def requested (options : Options) : ProbeKind :=
  if options.alternate then .bitset else if options.callback then .counter else .inline

/-- The probe for a whole module, and a warning if it is not the one asked for:
a trace type in the module itself has to declare the method to be called. -/
def select (options : Options) (m : Module) (traceType : TypeRef) : Probe × List LogLine :=
  let probe : Probe := ⟨requested options, traceType⟩
  match probe.callback?, traceType.scope with
  | some callback, .here =>
    if (m.resolveMethod callback).isNone then
      ({ probe with kind := probe.kind.withoutCall },
        [⟨.warn, traceType.fullName ++ " declares no " ++ callback.name ++
          ", falling back to inline probes"⟩])
    else (probe, [])
  | _, _ => (probe, [])

end Probe

end BranchCoverage
