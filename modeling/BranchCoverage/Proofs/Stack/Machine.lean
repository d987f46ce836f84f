/-
The evaluation stack that the code of probes runs on.

Integers on the stack are signed words of 32 bits, or native ones of 64 bits.
The fields and methods of the trace type stand for the primary trace state:
one field is the address of the map that the state writes to, the other one the
previous location, and a probe method records a hit.  Addresses are offsets
from the beginning of that map, and nothing but a cell of it can be read or
written.

An instruction that meets other operands than its own has no result, and
neither has any operation that no probe uses.
-/
import BranchCoverage.Probe.Basic
import BranchCoverage.Proofs.Trace.SharedMap

namespace BranchCoverage

/-- The discipline that a method of the trace type follows. -/
def Discipline.ofMethod? (name : String) : Option Discipline :=
  if name = TraceType.counterMethod then some .counter
  else if name = TraceType.bitsetMethod then some .bitset
  else none

namespace Stack

/-- What a place on the stack holds. -/
inductive Slot where
  | int (value : Int32)
  | native (value : Int64)
  /-- The address of the map, so many bytes on. -/
  | address (offset : Int64)
  | text (value : String)
  deriving DecidableEq

/-- A stack, with its top first, and the trace states that the code works on. -/
structure Machine where
  stack : List Slot
  tracing : Tracing

namespace Machine

variable (traceType : TypeRef) (m : Machine)

def push (s : Slot) : Machine :=
  { m with stack := s :: m.stack }

/-- Applies an operation to the two integers on top, the upper one on the
right. -/
def binary (f : Int32 → Int32 → Option Int32) : Option Machine :=
  match m.stack with
  | .int right :: .int left :: rest =>
    (f left right).map fun value => { m with stack := .int value :: rest }
  | _ => none

/-- A shift, by less than the width of a word. -/
def shift (f : Int32 → Int32 → Int32) (value count : Int32) : Option Int32 :=
  if 0 ≤ count ∧ count < 32 then some (f value count) else none

/-- Adds integers, or goes on from an address. -/
def add : Option Machine :=
  match m.stack with
  | .native n :: .address offset :: rest =>
    some { m with stack := .address (offset + n) :: rest }
  | _ => m.binary fun x y => some (x + y)

/-- The index of the cell at an address. -/
def cell? (offset : Int64) : Option Nat :=
  if 0 ≤ offset.toInt ∧ offset.toInt < m.tracing.sharedMap.size then some offset.toInt.toNat
  else none

/-- Reads a byte, without a sign. -/
def readByte : Option Machine :=
  match m.stack with
  | .address offset :: rest => do
    let byte ← m.tracing.sharedMap[← m.cell? offset]?
    some { m with stack := .int byte.toUInt32.toInt32 :: rest }
  | _ => none

/-- Writes the low byte of an integer. -/
def writeByte : Option Machine :=
  match m.stack with
  | .int value :: .address offset :: rest => do
    let cell ← m.cell? offset
    some ⟨rest, m.tracing.write m.tracing.primary.target
      (·.modify cell fun _ => value.toUInt32.toUInt8)⟩
  | _ => none

/-- Reads a field of the trace type. -/
def readField (f : MemberRef) : Option Machine :=
  if f = ⟨traceType, TraceType.memoryField, TraceType.memoryType⟩ then some (m.push (.address 0))
  else if f = ⟨traceType, TraceType.previousField, TraceType.previousType⟩ then
    some (m.push (.int m.tracing.primary.previous.toInt32))
  else none

/-- Writes the field with the previous location. -/
def writeField (f : MemberRef) : Option Machine :=
  match m.stack with
  | .int value :: rest =>
    if f = ⟨traceType, TraceType.previousField, TraceType.previousType⟩ then
      some ⟨rest, { m.tracing with primary.previous := value.toUInt32 }⟩
    else none
  | _ => none

/-- Calls a probe method of the trace type. -/
def callProbe (f : MemberRef) : Option Machine :=
  match m.stack with
  | .text _ :: .int id :: rest => do
    let d ← Discipline.ofMethod? f.name
    if f = ⟨traceType, f.name, TraceType.probeSignature⟩ then
      some ⟨rest, m.tracing.hitPrimary d id.toUInt32⟩
    else none
  | _ => none

/-- Executes one instruction. -/
def exec (i : Instruction) : Option Machine :=
  match i.opcode, i.operand with
  | .ldcI4, .int value => some (m.push (.int value))
  | .ldstr, .text value => some (m.push (.text value))
  | .ldsfld, .field f => m.readField traceType f
  | .stsfld, .field f => m.writeField traceType f
  | .call, .method f => m.callProbe traceType f
  | .xor, .none => m.binary fun x y => some (x ^^^ y)
  | .and, .none => m.binary fun x y => some (x &&& y)
  | .or, .none => m.binary fun x y => some (x ||| y)
  | .shl, .none => m.binary (shift (· <<< ·))
  | .shr, .none => m.binary (shift (· >>> ·))
  | .add, .none => m.add
  | .convI, .none =>
    match m.stack with
    | .int value :: rest => some { m with stack := .native value.toInt64 :: rest }
    | _ => none
  | .dup, .none =>
    match m.stack with
    | top :: rest => some { m with stack := top :: top :: rest }
    | [] => none
  | .ldindU1, .none => m.readByte
  | .stindI1, .none => m.writeByte
  | _, _ => none

/-- Executes instructions one after another. -/
def run (code : List Instruction) : Option Machine :=
  code.foldlM (exec traceType) m

theorem run_cons (i : Instruction) (code : List Instruction) :
    m.run traceType (i :: code) = (m.exec traceType i).bind (·.run traceType code) :=
  List.foldlM_cons

theorem run_append (first second : List Instruction) :
    m.run traceType (first ++ second) = (m.run traceType first).bind (·.run traceType second) :=
  List.foldlM_append

end Machine

end Stack

end BranchCoverage
