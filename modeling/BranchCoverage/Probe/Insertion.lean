/-
Probes in a method body.

A branch site is an instruction that control reaches other than by falling
through from the instruction before it: the entry, a branch target, the
beginning of a handler or filter, and also what follows a conditional branch,
so that both of its ways out are told apart.

A probe goes in front of every site, and every index that meant the site then
means its probe.  The index of what stands in front of an instruction grows by
the length of a probe for every site before it.
-/
import BranchCoverage.Probe.Basic
import BranchCoverage.Sorted

namespace BranchCoverage

namespace MethodBody

/-- The indices behind conditional branches. -/
def fallThroughs (b : MethodBody) : List Nat :=
  b.instructions.zipIdx.filterMap fun (instruction, index) =>
    if instruction.opcode.flowControl = .condBranch ∧ index + 1 < b.length then some (index + 1)
    else none

/-- The indices where handlers and their filters begin. -/
def handlerEntries (b : MethodBody) : List Nat :=
  b.handlers.flatMap fun h => h.handlerStart :: h.filterStart.toList

/-- The branch sites in ascending order. -/
def branchSites (b : MethodBody) : List Nat :=
  if b.instructions.isEmpty then []
  else
    Sorted.ofList
      (0 :: b.instructions.flatMap Instruction.targets ++ b.fallThroughs ++ b.handlerEntries)

/-- Where an index leads once code of length `gap` stands in front of every
site: to the code in front of the instruction, if there is any. -/
def entry (sites : List Nat) (gap index : Nat) : Nat :=
  index + gap * sites.countP (· < index)

/-- The instructions, with the code of its own in front of each site. -/
def weave (code : UInt32 → List Instruction) (ids : List (Nat × UInt32))
    (instructions : List Instruction) : List Instruction :=
  instructions.zipIdx.flatMap fun (instruction, index) =>
    match ids.lookup index with
    | some id => code id ++ [instruction]
    | none => [instruction]

end MethodBody

/-- A sum that stops at the greatest value. -/
def saturatingAdd (x y : UInt16) : UInt16 :=
  UInt16.ofNat (min (x.toNat + y.toNat) 65535)

/-- The length of a probe's code. -/
def Probe.length (p : Probe) : Nat :=
  (p.code 0 "").length

open Identifier in
/-- Puts a probe in front of every branch site of a body, with one identifier
for each site in ascending order.  There is no result if the body holds an
index that is not its own. -/
def MethodBody.instrument? {ω : Type} [WordSource ω] (probe : Probe) (method : String)
    (b : MethodBody) (ids : Generator ω) : Option (MethodBody × Generator ω) :=
  let sites := b.branchSites
  let (drawn, ids) := ids.take (sites.countP (· < b.length))
  let place (index : Nat) : Option Nat :=
    if index ≤ b.length then some (entry sites probe.length index) else none
  if sites.isEmpty then some (b, ids)
  else
    (b.reindex? place).map fun moved =>
      ({ moved with
          instructions := weave (probe.code · method) (sites.zip drawn) moved.instructions
          maxStack := saturatingAdd b.maxStack probe.kind.stackDepth }, ids)

/-- How many probes a body gets. -/
def MethodBody.probeCount (b : MethodBody) : Nat :=
  b.branchSites.length

open Identifier in
/-- Puts probes into a body again and again, so many times, with one generator
for all of them.  Besides the body it gives how many probes there were each
time. -/
def MethodBody.instrumentTimes? {ω : Type} [WordSource ω] (probe : Probe) (method : String) :
    Nat → MethodBody → Generator ω → Option (List Nat × MethodBody × Generator ω)
  | 0, b, ids => some ([], b, ids)
  | times + 1, b, ids => do
    let (new, ids) ← b.instrument? probe method ids
    let (counts, last, ids) ← instrumentTimes? probe method times new ids
    pure (b.probeCount :: counts, last, ids)

end BranchCoverage
