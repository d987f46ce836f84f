/-
The trace type that probes report to.

An ordinary module refers to it in an assembly of its own.  The core library
cannot refer to other assemblies, so it carries a trace type itself: the
fields, and a static constructor that allocates a map.
-/
import BranchCoverage.Module.Basic
import BranchCoverage.Trace.Coverage

namespace BranchCoverage

namespace TraceType

/-- The assembly that ships the trace type. -/
def assembly : String := "IlFuzz.Common"

/-- The namespace of the trace type. -/
def space : String := "IlFuzz.Common"

/-- The simple name of the trace type. -/
def name : String := "Trace"

/-- The name of the trace type with its namespace. -/
def fullName : String := typeName space name

/-- The library that cannot refer to other assemblies. -/
def coreLibrary : String := "System.Private.CoreLib"

/-- The field that holds the coverage map. -/
def memoryField : String := "SharedMem"

/-- The field that holds the previous location. -/
def previousField : String := "PrevLocation"

/-- The field that holds the observer. -/
def observerField : String := "OnBranch"

/-- The probe of the counter discipline. -/
def counterMethod : String := "OnBranchCall"

/-- The probe of the bitset discipline. -/
def bitsetMethod : String := "OnBranchAlter"

/-- The type of the field with the coverage map. -/
def memoryType : String := "System.Byte*"

/-- The type of the field with the previous location. -/
def previousType : String := "System.Int32"

/-- The signature of both probes. -/
def probeSignature : String := "System.Void (System.Int32,System.String)"

/-- The trace type of the given scope. -/
def reference (scope : Scope) : TypeRef :=
  ⟨space, name, scope⟩

/-- The reference that gives a module access to the trace type. -/
def assemblyRef : AssemblyRef :=
  ⟨assembly, { major := 0, minor := 6, build := 0, revision := 0 }⟩

/-- A type of the core library. -/
def coreType (space name : String) : TypeRef :=
  ⟨space, name, .here⟩

/-- Allocates a map and keeps its address. -/
def constructor : MethodDef where
  name := ".cctor"
  returnType := "System.Void"
  parameters := []
  isStatic := true
  codeType := .il
  body := some {
    maxStack := 1
    locals := ["System.IntPtr"]
    instructions := [
      ⟨.ldcI4, .int (Int32.ofNat mapSize)⟩,
      ⟨.call, .method ⟨coreType "System.Runtime.InteropServices" "Marshal", "AllocHGlobal",
        "System.IntPtr (System.Int32)"⟩⟩,
      ⟨.stloc, .variable 0⟩,
      ⟨.ldloca, .variable 0⟩,
      ⟨.call, .method ⟨coreType "System" "IntPtr", "ToPointer", "System.Void* ()"⟩⟩,
      ⟨.stsfld, .field ⟨reference .here, memoryField, memoryType⟩⟩,
      ⟨.ret, .none⟩]
    handlers := [] }

/-- The trace type that the core library carries. -/
def definition : TypeDef where
  space := space
  name := name
  base := some (coreType "System" "Object")
  isAbstract := true
  isSealed := true
  fields := [
    ⟨memoryField, memoryType, true⟩,
    ⟨previousField, previousType, true⟩,
    ⟨observerField, "System.Action`2<System.Int32,System.String>", true⟩]
  methods := [constructor]

end TraceType

end BranchCoverage
