/-
Taking the probes out again.

A body with probes still holds all of the body without them.  `unweave` takes
the code in front of the sites away, and `restore?` maps the indices that are
left back through `origin`, which undoes `entry`.  What comes out is the body
that the probes were put into (`restore?_probed`), but for the room on the
stack.
-/
import BranchCoverage.Proofs.Insertion.Layout

namespace BranchCoverage

/-! ### Indices moved twice -/

variable {f : Nat → Nat} {place : Nat → Option Nat}

theorem Instruction.retarget?_retarget (i : Instruction) :
    (i.retarget f).retarget? place = i.retarget? (place ∘ f) := by
  obtain ⟨opcode, operand⟩ := i
  cases operand with
  | targets indices =>
    simp [retarget?, retarget, Operand.retarget?, Operand.retarget, List.mapM_map]
  | _ => rfl

theorem Instruction.retarget_id (i : Instruction) : i.retarget id = i := by
  obtain ⟨opcode, operand⟩ := i
  cases operand with
  | targets indices => simp [retarget, Operand.retarget]
  | _ => rfl

theorem ExceptionHandler.reindex?_reindex (h : ExceptionHandler) :
    (h.reindex f).reindex? place = h.reindex? (place ∘ f) := by
  obtain ⟨kind, tryStart, tryEnd, handlerStart, handlerEnd, filterStart⟩ := h
  cases filterStart <;> rfl

theorem ExceptionHandler.reindex_id (h : ExceptionHandler) : h.reindex id = h := by
  obtain ⟨kind, tryStart, tryEnd, handlerStart, handlerEnd, filterStart⟩ := h
  cases filterStart <;> rfl

namespace MethodBody

/-! ### Taking code away -/

variable {sites : List Nat} {ids : List UInt32} {gap : Nat}

/-- How much code is in front of an instruction. -/
def gapAt (sites : List Nat) (gap index : Nat) : Nat :=
  if index ∈ sites then gap else 0

/-- The instructions from an index on without the code in front of them.  The
first `skip` are code in front of that index. -/
def unweave (sites : List Nat) (gap : Nat) : Nat → Nat → List Instruction → List Instruction
  | _, _, [] => []
  | index, skip + 1, _ :: rest => unweave sites gap index skip rest
  | index, 0, instruction :: rest =>
    instruction :: unweave sites gap (index + 1) (gapAt sites gap (index + 1)) rest

theorem unweave_append (code rest : List Instruction) (index : Nat) :
    unweave sites gap index code.length (code ++ rest) = unweave sites gap index 0 rest := by
  induction code with
  | nil => rfl
  | cons _ code ih => exact ih

section

variable {code : UInt32 → List Instruction} (hnodup : sites.Nodup)
  (hlen : ids.length = sites.length) (hcode : ∀ id, (code id).length = gap)

include hnodup hlen hcode

theorem length_front_eq_gapAt (i : Nat) :
    (front code (sites.zip ids) i).length = gapAt sites gap i := by
  have hfront := length_front hnodup hlen hcode i
  rw [gapAt]
  split
  · next hmem =>
    rw [home_of_mem hnodup hmem] at hfront
    omega
  · next hmem =>
    rw [home_of_notMem hmem] at hfront
    omega

theorem unweave_weave (xs : List Instruction) :
    unweave sites gap 0 (gapAt sites gap 0) (weave code (sites.zip ids) xs) = xs := by
  have hfrom : ∀ n, unweave sites gap n (gapAt sites gap n)
      ((xs.zipIdx n).flatMap fun p => front code (sites.zip ids) p.2 ++ [p.1]) = xs := by
    induction xs with
    | nil =>
      intro n
      rw [List.zipIdx_nil, List.flatMap_nil, unweave]
    | cons x rest ih =>
      intro n
      rw [List.zipIdx_cons, List.flatMap_cons, List.append_assoc,
        ← length_front_eq_gapAt hnodup hlen hcode n, unweave_append]
      exact congrArg (x :: ·) (ih (n + 1))
  rw [weave_eq]
  exact hfrom 0

end

/-! ### Bodies without their probes -/

/-- The new body without the probes in front of the sites of the old one, if
every index in it is the beginning of a stretch. -/
def restore? (b : MethodBody) (probe : Probe) (new : MethodBody) : Option MethodBody :=
  { new with
    instructions := unweave b.branchSites probe.length 0 (gapAt b.branchSites probe.length 0)
      new.instructions }.reindex? (b.origin probe)

/-- **Probes can be taken out again.** -/
theorem restore?_probed {b : MethodBody} {probe : Probe} {method : String} (hv : b.Valid)
    (hlen : ids.length = b.branchSites.length) :
    b.restore? probe (b.probed probe method ids)
      = some { b with maxStack := (b.probed probe method ids).maxStack } := by
  have hback : ∀ i ≤ b.length, (b.origin probe ∘ b.entryOf probe) i = some (id i) :=
    fun i hi => origin_entryOf hi
  have hinstructions : (b.instructions.map (Instruction.retarget (b.entryOf probe))).mapM
      (Instruction.retarget? (b.origin probe)) = some b.instructions := by
    rw [List.mapM_map]
    refine (mapM_eq_some_map fun i hi => ?_).trans (congrArg some (List.map_id _))
    have htargets : ∀ t ∈ i.targets, (b.origin probe ∘ b.entryOf probe) t = some (id t) :=
      fun t ht => hback t (Nat.le_of_lt (hv.target_lt i hi t ht))
    rw [Function.comp_apply, Instruction.retarget?_retarget, Instruction.retarget?_eq htargets,
      Instruction.retarget_id]
    rfl
  have hhandlers : (b.handlers.map (ExceptionHandler.reindex (b.entryOf probe))).mapM
      (ExceptionHandler.reindex? (b.origin probe)) = some b.handlers := by
    rw [List.mapM_map]
    refine (mapM_eq_some_map fun h hh => ?_).trans (congrArg some (List.map_id _))
    rw [Function.comp_apply, ExceptionHandler.reindex?_reindex,
      ExceptionHandler.reindex?_eq (hv.proper h hh) hback, ExceptionHandler.reindex_id]
    rfl
  rw [restore?, probed,
    unweave_weave b.nodup_branchSites hlen fun id => probe.length_code id method]
  simp [reindex?, hinstructions, hhandlers]

end MethodBody

end BranchCoverage
