/-
Method bodies: instructions, and the protected regions over them.

A body is valid when every branch target is the index of one of its
instructions and every region is a non-empty stretch of it.  The end of a
region is the index behind its last instruction, so it may be the length of
the body.
-/
import BranchCoverage.Module.Instruction

namespace BranchCoverage

/-- What a handler of a protected region is for. -/
inductive HandlerKind where
  | catch | filter | finally | fault
  deriving DecidableEq

/-- A protected region and the code that handles what leaves it. -/
structure ExceptionHandler where
  kind : HandlerKind
  tryStart : Nat
  tryEnd : Nat
  handlerStart : Nat
  handlerEnd : Nat
  filterStart : Option Nat
  deriving DecidableEq

/-- The code of a method. -/
structure MethodBody where
  maxStack : UInt16
  locals : List String
  instructions : List Instruction
  handlers : List ExceptionHandler
  deriving DecidableEq

/-- What is wrong with a body. -/
inductive Defect where
  /-- The instruction at `index` branches to `target`, where there is none. -/
  | branchTarget (index target : Nat)
  /-- The handler of this number has an improper region. -/
  | handlerRange (handler : Nat)
  deriving DecidableEq

namespace ExceptionHandler

/-- Whether the regions are proper stretches of a body of the given length. -/
def fits (length : Nat) (h : ExceptionHandler) : Bool :=
  h.tryStart < h.tryEnd && h.handlerStart < h.handlerEnd && h.tryEnd ≤ length &&
    h.handlerEnd ≤ length && h.filterStart.all (· < h.handlerStart)

/-- Sends every index through a map; there is no result if one of them has no
image. -/
def reindex? (f : Nat → Option Nat) (h : ExceptionHandler) : Option ExceptionHandler := do
  let tryStart ← f h.tryStart
  let tryEnd ← f h.tryEnd
  let handlerStart ← f h.handlerStart
  let handlerEnd ← f h.handlerEnd
  match h.filterStart with
  | none => pure ⟨h.kind, tryStart, tryEnd, handlerStart, handlerEnd, none⟩
  | some start =>
    let filterStart ← f start
    pure ⟨h.kind, tryStart, tryEnd, handlerStart, handlerEnd, some filterStart⟩

end ExceptionHandler

namespace MethodBody

/-- The number of instructions. -/
def length (b : MethodBody) : Nat :=
  b.instructions.length

/-- The first branch, in order, that leads out of the body. -/
def strayBranch? (b : MethodBody) : Option Defect :=
  b.instructions.zipIdx.findSome? fun (instruction, index) =>
    (instruction.targets.find? (b.length ≤ ·)).map (.branchTarget index)

/-- The first handler whose regions are improper. -/
def strayHandler? (b : MethodBody) : Option Defect :=
  b.handlers.zipIdx.findSome? fun (handler, index) =>
    if handler.fits b.length then none else some (.handlerRange index)

/-- Reports the first defect, branches before handlers. -/
def validate (b : MethodBody) : Except Defect Unit :=
  match b.strayBranch? with
  | some defect => .error defect
  | none =>
    match b.strayHandler? with
    | some defect => .error defect
    | none => .ok ()

/-- Sends every index that branches and handlers hold through a map. -/
def reindex? (f : Nat → Option Nat) (b : MethodBody) : Option MethodBody := do
  let instructions ← b.instructions.mapM (Instruction.retarget? f)
  let handlers ← b.handlers.mapM (ExceptionHandler.reindex? f)
  pure { b with instructions, handlers }

end MethodBody

end BranchCoverage
