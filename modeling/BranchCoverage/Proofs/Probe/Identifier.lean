/-
The identifier in the code of a probe.

A probe that calls the trace type pushes its identifier first of all.  One that
calls nothing has it in front of every load of the previous location, where a
hash is computed, and half of it in front of the store that ends the probe.
`Carries` says that all of these are one identifier, as they are in the code that
is made for it (`carries_code`).
-/
import BranchCoverage.Probe.Basic

namespace BranchCoverage

/-- The constant that an instruction pushes. -/
def Instruction.constant? : Instruction → Option Int32
  | ⟨.ldcI4, .int n⟩ => some n
  | _ => none

/-- The constants pushed right before one instruction, wherever it stands in the
code; nothing where it is no constant that is pushed. -/
def constantsBefore (i : Instruction) (code : List Instruction) : List (Option Int32) :=
  ((none :: code.map some).zip code).filterMap fun (before, j) =>
    if j = i then some (before.bind Instruction.constant?) else none

/-- How often a probe of the kind computes the hash of an edge itself. -/
def ProbeKind.hashes : ProbeKind → Nat
  | .counter | .bitset => 0
  | .inline => 1
  | .inlineBitset => 2

namespace Probe

/-- The identifiers that are combined with the previous location. -/
def hashed (p : Probe) (code : List Instruction) : List (Option Int32) :=
  constantsBefore ⟨.ldsfld, .field p.previous⟩ code

/-- What becomes the previous location. -/
def left (p : Probe) (code : List Instruction) : List (Option Int32) :=
  constantsBefore ⟨.stsfld, .field p.previous⟩ code

/-- The identifier of the site that the code is for: the argument of a call, or
what the first hash is computed with. -/
def identifier? (p : Probe) (code : List Instruction) : Option UInt32 :=
  (match p.callback? with
    | some _ => code.head?.bind Instruction.constant?
    | none => (p.hashed code).head?.join).map Int32.toUInt32

/-- The code is for one identifier all through. -/
structure Carries (p : Probe) (id : UInt32) (code : List Instruction) : Prop where
  identifier : p.identifier? code = some id
  /-- A call gets it as its argument. -/
  called : ∀ callback, p.callback? = some callback →
    ∃ method, code = [⟨.ldcI4, .int id.toInt32⟩, ⟨.ldstr, .text method⟩, ⟨.call, .method callback⟩]
  /-- Every hash is computed with it. -/
  hashed : p.hashed code = List.replicate p.kind.hashes (some id.toInt32)
  /-- Without a call, half of it is left for the next site. -/
  left : p.callback? = none → p.left code = [some (id.toInt32 >>> 1)]

/-- The code computes as many hashes as its kind does, all with the identifier. -/
theorem hashed_code (p : Probe) (id : UInt32) (method : String) :
    p.hashed (p.code id method) = List.replicate p.kind.hashes (some id.toInt32) := by
  obtain ⟨kind, traceType⟩ := p
  cases kind <;>
    simp [hashed, constantsBefore, code, callback?, ProbeKind.method?, hash, cellAddress,
      leaveTrace, memory, previous, TraceType.memoryField, TraceType.previousField,
      Instruction.constant?, ProbeKind.hashes]

theorem left_code {p : Probe} (h : p.callback? = none) (id : UInt32) (method : String) :
    p.left (p.code id method) = [some (id.toInt32 >>> 1)] := by
  obtain ⟨kind, traceType⟩ := p
  cases kind with
  | counter | bitset => cases h
  | inline | inlineBitset =>
    simp [left, constantsBefore, code, callback?, ProbeKind.method?, hash, cellAddress,
      leaveTrace, memory, previous, Instruction.constant?]

/-- **The code of a probe carries its identifier.** -/
theorem carries_code (p : Probe) (id : UInt32) (method : String) :
    p.Carries id (p.code id method) where
  identifier := by
    rw [identifier?, hashed_code]
    obtain ⟨kind, traceType⟩ := p
    cases kind <;> rfl
  called := by
    intro callback hcallback
    exact ⟨method, by rw [code, hcallback]⟩
  hashed := hashed_code p id method
  left hnone := left_code hnone id method

end Probe

end BranchCoverage
