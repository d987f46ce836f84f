/-
Instructions of a method body and what they refer to.

A branch names its targets by their index in the same body.  An index is any
natural number: whether it lies in the body is for validation to say.
-/
namespace BranchCoverage

/-! ### References -/

/-- Where a type is looked up. -/
inductive Scope where
  /-- In the module that refers to it. -/
  | here
  /-- In a referenced assembly. -/
  | assembly (name : String)
  deriving DecidableEq

/-- The name of a type in a namespace, which may be empty. -/
def typeName (space name : String) : String :=
  if space.isEmpty then name else space ++ "." ++ name

/-- A reference to a type. -/
structure TypeRef where
  space : String
  name : String
  scope : Scope
  deriving DecidableEq

/-- The name of the type with its namespace. -/
def TypeRef.fullName (t : TypeRef) : String :=
  typeName t.space t.name

/-- A reference to a field or method of a type. -/
structure MemberRef where
  owner : TypeRef
  name : String
  signature : String
  deriving DecidableEq

/-! ### Operations -/

/-- How control leaves an instruction. -/
inductive FlowControl where
  | next | call | branch | condBranch | ret | throw
  deriving DecidableEq

/-- The word for a way of leaving. -/
def FlowControl.name : FlowControl → String
  | .next => "Next"
  | .call => "Call"
  | .branch => "Branch"
  | .condBranch => "CondBranch"
  | .ret => "Return"
  | .throw => "Throw"

/-- What an instruction does. -/
inductive OpCode where
  | nop | ldarg | starg | ldloc | stloc | ldloca | ldcI4 | ldstr | ldnull | ldsfld | stsfld
  | ldfld | stfld | call | callvirt | newobj | ret | br | brtrue | brfalse | beq | bneUn | blt
  | ble | bgt | bge | switch | leave | throw | rethrow | endfinally | endfilter | add | sub | mul
  | div | rem | and | or | xor | shl | shr | neg | not | ceq | cgt | clt | dup | pop | convI
  | convU1 | ldindU1 | stindI1
  deriving DecidableEq

namespace OpCode

/-- The name of an operation. -/
def name : OpCode → String
  | nop => "Nop" | ldarg => "Ldarg" | starg => "Starg" | ldloc => "Ldloc" | stloc => "Stloc"
  | ldloca => "Ldloca" | ldcI4 => "LdcI4" | ldstr => "Ldstr" | ldnull => "Ldnull"
  | ldsfld => "Ldsfld" | stsfld => "Stsfld" | ldfld => "Ldfld" | stfld => "Stfld"
  | call => "Call" | callvirt => "Callvirt" | newobj => "Newobj" | ret => "Ret" | br => "Br"
  | brtrue => "Brtrue" | brfalse => "Brfalse" | beq => "Beq" | bneUn => "BneUn" | blt => "Blt"
  | ble => "Ble" | bgt => "Bgt" | bge => "Bge" | switch => "Switch" | leave => "Leave"
  | throw => "Throw" | rethrow => "Rethrow" | endfinally => "Endfinally"
  | endfilter => "Endfilter" | add => "Add" | sub => "Sub" | mul => "Mul" | div => "Div"
  | rem => "Rem" | and => "And" | or => "Or" | xor => "Xor" | shl => "Shl" | shr => "Shr"
  | neg => "Neg" | not => "Not" | ceq => "Ceq" | cgt => "Cgt" | clt => "Clt" | dup => "Dup"
  | pop => "Pop" | convI => "ConvI" | convU1 => "ConvU1" | ldindU1 => "LdindU1"
  | stindI1 => "StindI1"

/-- The operations in their order. -/
def all : List OpCode :=
  [nop, ldarg, starg, ldloc, stloc, ldloca, ldcI4, ldstr, ldnull, ldsfld, stsfld, ldfld, stfld,
    call, callvirt, newobj, ret, br, brtrue, brfalse, beq, bneUn, blt, ble, bgt, bge, switch,
    leave, throw, rethrow, endfinally, endfilter, add, sub, mul, div, rem, and, or, xor, shl, shr,
    neg, not, ceq, cgt, clt, dup, pop, convI, convU1, ldindU1, stindI1]

/-- How control leaves the operation. -/
def flowControl : OpCode → FlowControl
  | call | callvirt | newobj => .call
  | br | leave => .branch
  | brtrue | brfalse | beq | bneUn | blt | ble | bgt | bge | switch => .condBranch
  | ret | endfinally | endfilter => .ret
  | throw | rethrow => .throw
  | _ => .next

end OpCode

/-! ### Instructions -/

/-- What an instruction is applied to. -/
inductive Operand where
  | none
  | int (value : Int32)
  | text (value : String)
  | variable (index : UInt16)
  | argument (index : UInt16)
  | field (member : MemberRef)
  | method (member : MemberRef)
  /-- The index of an instruction of the same body. -/
  | target (index : Nat)
  | targets (indices : List Nat)
  deriving DecidableEq

/-- An operation and its operand. -/
structure Instruction where
  opcode : OpCode
  operand : Operand := .none
  deriving DecidableEq

namespace Operand

/-- The branch targets that an operand holds. -/
def branchTargets : Operand → List Nat
  | .target index => [index]
  | .targets indices => indices
  | _ => []

/-- Sends every branch target through a map; there is no result if one of them
has no image. -/
def retarget? (f : Nat → Option Nat) : Operand → Option Operand
  | .target index => (f index).map .target
  | .targets indices => (indices.mapM f).map .targets
  | operand => some operand

end Operand

namespace Instruction

/-- The branch targets of an instruction. -/
def targets (i : Instruction) : List Nat :=
  i.operand.branchTargets

/-- Sends every branch target through a map. -/
def retarget? (f : Nat → Option Nat) (i : Instruction) : Option Instruction :=
  (i.operand.retarget? f).map fun operand => { i with operand }

end Instruction

end BranchCoverage
