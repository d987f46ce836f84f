/-
The control flow of a method body.

The nodes are the indices of the instructions, with the length of the body for
what lies behind its end.  An edge carries the way that control passes: to the
next instruction, to a branch target by its place among the targets, or to the
filter or handler of a protected region.  Exceptions are taken to be possible
everywhere, so a region has an edge from each instruction it protects.

`Bisimilar` is weak bisimulation of two such graphs, in which the second may
take quiet steps that the first does not see.
-/
import BranchCoverage.Module.Body
import Mathlib.Logic.Relation

namespace BranchCoverage

/-- How control passes from one instruction to another. -/
inductive Passage where
  /-- To the instruction behind. -/
  | next
  /-- To a branch target, by its place among the targets. -/
  | target (slot : Nat)
  /-- To the filter of a handler, by the number of the handler. -/
  | filter (handler : Nat)
  /-- To a handler, by its number. -/
  | handler (handler : Nat)
  deriving DecidableEq

/-- Whether an exception makes control pass. -/
def Passage.raises : Passage → Bool
  | .next | .target _ => false
  | .filter _ | .handler _ => true

/-- Whether control can go on behind an operation. -/
def OpCode.fallsThrough (o : OpCode) : Bool :=
  match o.flowControl with
  | .next | .call | .condBranch => true
  | .branch | .ret | .throw => false

namespace ExceptionHandler

/-- The instruction of this index is protected. -/
def Protects (h : ExceptionHandler) (index : Nat) : Prop :=
  h.tryStart ≤ index ∧ index < h.tryEnd

/-- The instruction of this index belongs to the filter, which reaches up to
the handler. -/
def Filters (h : ExceptionHandler) (index : Nat) : Prop :=
  ∃ start, h.filterStart = some start ∧ start ≤ index ∧ index < h.handlerStart

end ExceptionHandler

namespace MethodBody

/-- Control can pass from an instruction to an index in one step. -/
inductive Edge (b : MethodBody) : Nat → Passage → Nat → Prop
  | next {i : Nat} {instruction : Instruction} :
      b.instructions[i]? = some instruction → instruction.opcode.fallsThrough →
      Edge b i .next (i + 1)
  | target {i slot t : Nat} {instruction : Instruction} :
      b.instructions[i]? = some instruction → instruction.targets[slot]? = some t →
      Edge b i (.target slot) t
  | filter {i n start : Nat} {h : ExceptionHandler} :
      b.handlers[n]? = some h → h.filterStart = some start → h.Protects i →
      Edge b i (.filter n) start
  | handler {i n : Nat} {h : ExceptionHandler} :
      b.handlers[n]? = some h → h.Protects i ∨ h.Filters i →
      Edge b i (.handler n) h.handlerStart

/-- A path through the body from an index, as the steps that it takes. -/
inductive Trail (b : MethodBody) : Nat → List (Passage × Nat) → Prop
  | nil (i : Nat) : Trail b i []
  | cons {i j : Nat} {p : Passage} {rest : List (Passage × Nat)} :
      b.Edge i p j → Trail b j rest → Trail b i ((p, j) :: rest)

/-- Steps to the next instruction, so many of them. -/
def straightOn (k : Nat) : Nat → List (Passage × Nat)
  | 0 => []
  | n + 1 => (.next, k + 1) :: straightOn (k + 1) n

/-- One step of the body that is quiet. -/
def QuietStep (b : MethodBody) (quiet : Nat → Passage → Nat → Prop) (k l : Nat) : Prop :=
  ∃ p, b.Edge k p l ∧ quiet k p l

/-- `related` is a weak bisimulation: every step of the first body is one of the
second after quiet ones, and every step of the second is quiet or one of the
first. -/
structure Bisimilar (old new : MethodBody) (quiet : Nat → Passage → Nat → Prop)
    (related : Nat → Nat → Prop) : Prop where
  forth : ∀ {i j k : Nat} {p : Passage}, related i k → old.Edge i p j →
    ∃ m l, Relation.ReflTransGen (new.QuietStep quiet) k m ∧
      new.Edge m p l ∧ ¬ quiet m p l ∧ related j l
  back : ∀ {i k l : Nat} {p : Passage}, related i k → new.Edge k p l →
    (quiet k p l ∧ related i l) ∨ (¬ quiet k p l ∧ ∃ j, old.Edge i p j ∧ related j l)

end MethodBody

end BranchCoverage
