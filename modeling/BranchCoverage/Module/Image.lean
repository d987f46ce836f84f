/-
The image of a module.
-/
import BranchCoverage.Image.Codec
import BranchCoverage.Module.Basic

namespace BranchCoverage

open Image (Codec Fields Variant Value)

/-- A codec for a type of names. -/
def Image.Codec.names {α : Type} (all : List α) (name : α → String) : Codec α :=
  .choice (all.map fun x => .plain (name x) x) fun x => .text (name x)

/-- A variant with a value, as it is written. -/
def Image.Value.variant (name : String) (value : Value) : Value :=
  .map [(name, value)]

/-! ### References -/

/-- Scopes: a bare word for the module itself, the name of an assembly otherwise. -/
def Scope.codec : Codec Scope :=
  .choice [.plain "Module" .here, .of "Assembly" .text .assembly] fun
    | .here => .text "Module"
    | .assembly name => .variant "Assembly" (Codec.text.toValue name)

/-- References to types. -/
def TypeRef.codec : Codec TypeRef :=
  .record "TypeRef"
    (.cons "namespace" .text <| .cons "name" .text <| .cons "scope" Scope.codec .nil)
    (fun t => (t.space, t.name, t.scope, ()))
    fun (space, name, scope, ()) => ⟨space, name, scope⟩

/-- References to members. -/
def MemberRef.codec : Codec MemberRef :=
  .record "MemberRef"
    (.cons "declaring_type" TypeRef.codec <| .cons "name" .text <| .cons "signature" .text .nil)
    (fun r => (r.owner, r.name, r.signature, ()))
    fun (owner, name, signature, ()) => ⟨owner, name, signature⟩

/-! ### Bodies -/

/-- Operations, by their names. -/
def OpCode.codec : Codec OpCode :=
  .names OpCode.all OpCode.name

/-- Operands, each under the name of its form. -/
def Operand.codec : Codec Operand :=
  .choice
    [.plain "None" .none, .of "Int32" .int32 .int, .of "String" .text .text,
      .of "Local" .uint16 .variable, .of "Arg" .uint16 .argument,
      .of "Field" MemberRef.codec .field, .of "Method" MemberRef.codec .method,
      .of "Target" .index .target, .of "Targets" (.list .index) .targets] fun
    | .none => .text "None"
    | .int value => .variant "Int32" (Codec.int32.toValue value)
    | .text value => .variant "String" (Codec.text.toValue value)
    | .variable index => .variant "Local" (Codec.uint16.toValue index)
    | .argument index => .variant "Arg" (Codec.uint16.toValue index)
    | .field member => .variant "Field" (MemberRef.codec.toValue member)
    | .method member => .variant "Method" (MemberRef.codec.toValue member)
    | .target index => .variant "Target" (Codec.index.toValue index)
    | .targets indices => .variant "Targets" ((Codec.list .index).toValue indices)

/-- Instructions. -/
def Instruction.codec : Codec Instruction :=
  .record "Instruction" (.cons "opcode" OpCode.codec <| .cons "operand" Operand.codec .nil)
    (fun i => (i.opcode, i.operand, ()))
    fun (opcode, operand, ()) => ⟨opcode, operand⟩

/-- Kinds of handlers, by their names. -/
def HandlerKind.codec : Codec HandlerKind :=
  .names [.catch, .filter, .finally, .fault] fun
    | .catch => "Catch"
    | .filter => "Filter"
    | .finally => "Finally"
    | .fault => "Fault"

/-- Protected regions. -/
def ExceptionHandler.codec : Codec ExceptionHandler :=
  .record "ExceptionHandler"
    (.cons "kind" HandlerKind.codec <| .cons "try_start" .index <| .cons "try_end" .index <|
      .cons "handler_start" .index <| .cons "handler_end" .index <|
      .cons "filter_start" (.optional .index) .nil)
    (fun h => (h.kind, h.tryStart, h.tryEnd, h.handlerStart, h.handlerEnd, h.filterStart, ()))
    fun (kind, tryStart, tryEnd, handlerStart, handlerEnd, filterStart, ()) =>
      ⟨kind, tryStart, tryEnd, handlerStart, handlerEnd, filterStart⟩

/-- Method bodies. -/
def MethodBody.codec : Codec MethodBody :=
  .record "MethodBody"
    (.cons "max_stack" .uint16 <| .cons "locals" (.list .text) <|
      .cons "instructions" (.list Instruction.codec) <|
      .cons "exception_handlers" (.list ExceptionHandler.codec) .nil)
    (fun b => (b.maxStack, b.locals, b.instructions, b.handlers, ()))
    fun (maxStack, locals, instructions, handlers, ()) =>
      ⟨maxStack, locals, instructions, handlers⟩

/-! ### Definitions -/

/-- Version numbers. -/
def Version.codec : Codec Version :=
  .record "Version"
    (.cons "major" .uint16 <| .cons "minor" .uint16 <| .cons "build" .uint16 <|
      .cons "revision" .uint16 .nil)
    (fun v => (v.major, v.minor, v.build, v.revision, ()))
    fun (major, minor, build, revision, ()) => ⟨major, minor, build, revision⟩

/-- References to assemblies. -/
def AssemblyRef.codec : Codec AssemblyRef :=
  .record "AssemblyRef" (.cons "name" .text <| .cons "version" Version.codec .nil)
    (fun r => (r.name, r.version, ()))
    fun (name, version, ()) => ⟨name, version⟩

/-- Fields. -/
def FieldDef.codec : Codec FieldDef :=
  .record "FieldDef"
    (.cons "name" .text <| .cons "field_type" .text <| .cons "is_static" .boolean .nil)
    (fun f => (f.name, f.type, f.isStatic, ()))
    fun (name, type, isStatic, ()) => ⟨name, type, isStatic⟩

/-- Kinds of code, by their names. -/
def CodeType.codec : Codec CodeType :=
  .names [.il, .native, .runtime] fun
    | .il => "Il"
    | .native => "Native"
    | .runtime => "Runtime"

/-- Methods. -/
def MethodDef.codec : Codec MethodDef :=
  .record "MethodDef"
    (.cons "name" .text <| .cons "return_type" .text <| .cons "parameters" (.list .text) <|
      .cons "is_static" .boolean <| .cons "code_type" CodeType.codec <|
      .cons "body" (.optional MethodBody.codec) .nil)
    (fun m => (m.name, m.returnType, m.parameters, m.isStatic, m.codeType, m.body, ()))
    fun (name, returnType, parameters, isStatic, codeType, body, ()) =>
      ⟨name, returnType, parameters, isStatic, codeType, body⟩

/-- Types. -/
def TypeDef.codec : Codec TypeDef :=
  .record "TypeDef"
    (.cons "namespace" .text <| .cons "name" .text <|
      .cons "base_type" (.optional TypeRef.codec) <| .cons "is_abstract" .boolean <|
      .cons "is_sealed" .boolean <| .cons "fields" (.list FieldDef.codec) <|
      .cons "methods" (.list MethodDef.codec) .nil)
    (fun t => (t.space, t.name, t.base, t.isAbstract, t.isSealed, t.fields, t.methods, ()))
    fun (space, name, base, isAbstract, isSealed, fields, methods, ()) =>
      ⟨space, name, base, isAbstract, isSealed, fields, methods⟩

/-- Modules. -/
def Module.codec : Codec Module :=
  .record "Module"
    (.cons "name" .text <| .cons "version" Version.codec <| .cons "flags" .uint32 <|
      .cons "assembly_refs" (.list AssemblyRef.codec) <|
      .cons "types" (.list TypeDef.codec) .nil)
    (fun m => (m.name, m.version, m.flags, m.references, m.types, ()))
    fun (name, version, flags, references, types, ()) =>
      ⟨name, version, flags, references, types⟩

/-! ### Modules -/

/-- The bytes of a module's image. -/
def Module.toImage (m : Module) : List UInt8 :=
  Module.codec.encode m

/-- The module of an image. -/
def Module.ofImage? (image : List UInt8) : Except ImageError Module :=
  Module.codec.decode image

end BranchCoverage
