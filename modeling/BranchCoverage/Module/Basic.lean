/-
Modules: types with fields and methods, and references to other assemblies.
-/
import BranchCoverage.Module.Body

namespace BranchCoverage

/-- A version number of four parts. -/
structure Version where
  major : UInt16 := 0
  minor : UInt16 := 0
  build : UInt16 := 0
  revision : UInt16 := 0
  deriving DecidableEq

/-- The version written with points between its parts. -/
def Version.render (v : Version) : String :=
  s!"{v.major}.{v.minor}.{v.build}.{v.revision}"

/-- A reference to another assembly. -/
structure AssemblyRef where
  name : String
  version : Version
  deriving DecidableEq

/-- A field of a type. -/
structure FieldDef where
  name : String
  type : String
  isStatic : Bool
  deriving DecidableEq

/-- What a method's code is written in. -/
inductive CodeType where
  | il | native | runtime
  deriving DecidableEq

/-- A method of a type, with its code if it has any here. -/
structure MethodDef where
  name : String
  returnType : String
  parameters : List String
  isStatic : Bool
  codeType : CodeType
  body : Option MethodBody
  deriving DecidableEq

/-- A type.  The simple name of a nested type holds the name of the outer one,
with a slash between them. -/
structure TypeDef where
  space : String
  name : String
  base : Option TypeRef := none
  isAbstract : Bool := false
  isSealed : Bool := false
  fields : List FieldDef := []
  methods : List MethodDef := []
  deriving DecidableEq

/-- A module: the unit that is stored in one image. -/
structure Module where
  name : String
  version : Version
  flags : UInt32
  references : List AssemblyRef
  types : List TypeDef
  deriving DecidableEq

/-! ### Flags -/

/-- The flag of an image that holds bytecode only. -/
def ilOnlyFlag : UInt32 := 1

/-- The flag of a library that mixes bytecode and native code. -/
def ilLibraryFlag : UInt32 := 4

/-- Whether the module holds bytecode only. -/
def Module.isIlOnly (m : Module) : Bool :=
  m.flags &&& ilOnlyFlag ≠ 0

/-! ### Names and look-up -/

/-- Whether the method has bytecode that can be instrumented. -/
def MethodDef.hasIlBody (m : MethodDef) : Bool :=
  m.codeType = .il && m.body.isSome

namespace TypeDef

/-- The name of the type with its namespace. -/
def fullName (t : TypeDef) : String :=
  typeName t.space t.name

/-- Whether the type has any methods. -/
def hasMethods (t : TypeDef) : Bool :=
  !t.methods.isEmpty

/-- The name of a method with its return type, its type and its parameters. -/
def methodName (t : TypeDef) (m : MethodDef) : String :=
  m.returnType ++ " " ++ t.fullName ++ "::" ++ m.name ++ "(" ++ String.intercalate "," m.parameters
    ++ ")"

/-- The first field of that name. -/
def field? (t : TypeDef) (name : String) : Option FieldDef :=
  t.fields.find? (·.name = name)

/-- The first method of that name. -/
def method? (t : TypeDef) (name : String) : Option MethodDef :=
  t.methods.find? (·.name = name)

end TypeDef

namespace Module

/-- A module of bytecode with nothing in it. -/
def empty (name : String) : Module :=
  ⟨name, {}, ilOnlyFlag, [], []⟩

/-- The first type of that full name. -/
def type? (m : Module) (fullName : String) : Option TypeDef :=
  m.types.find? (·.fullName = fullName)

/-- Whether the module refers to an assembly of that name. -/
def refersTo (m : Module) (name : String) : Bool :=
  m.references.any (·.name = name)

/-- The type that a reference means, if it is one of the module's own. -/
def resolveType (m : Module) (t : TypeRef) : Option TypeDef :=
  match t.scope with
  | .here => m.type? t.fullName
  | .assembly _ => none

/-- The method that a reference means, if it is one of the module's own. -/
def resolveMethod (m : Module) (r : MemberRef) : Option MethodDef :=
  (m.resolveType r.owner).bind (·.method? r.name)

/-- The field that a reference means, if it is one of the module's own. -/
def resolveField (m : Module) (r : MemberRef) : Option FieldDef :=
  (m.resolveType r.owner).bind (·.field? r.name)

/-- The full names of all methods that have a body, each with its body, in
order. -/
def bodies (m : Module) : List (String × MethodBody) :=
  m.types.flatMap fun t => t.methods.filterMap fun d => d.body.map (t.methodName d, ·)

/-- Reports the first defective body and the name of its method. -/
def validate (m : Module) : Except (String × Defect) Unit :=
  m.bodies.forM fun (name, body) =>
    match body.validate with
    | .ok () => .ok ()
    | .error defect => .error (name, defect)

end Module

end BranchCoverage
