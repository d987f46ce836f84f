/-
The body that inserting probes gives.

Inserting probes into a valid body always gives a result, and
`instrument?_eq_probed` says which: `MethodBody.probed`, in which every index
has been sent through `entry` and the code of a probe stands in front of every
site.  That no index is lost is where validity is used: every index of a valid
body is at most its length.
-/
import BranchCoverage.Proofs.Insertion.Index
import BranchCoverage.Proofs.Insertion.Sites
import BranchCoverage.Proofs.Step

namespace BranchCoverage

open Identifier (Generator WordSource)

/-! ### Total reindexing -/

/-- Sends every branch target through a map. -/
def Operand.retarget (f : Nat → Nat) : Operand → Operand
  | .target index => .target (f index)
  | .targets indices => .targets (indices.map f)
  | operand => operand

/-- Sends every branch target through a map. -/
def Instruction.retarget (f : Nat → Nat) (i : Instruction) : Instruction :=
  { i with operand := i.operand.retarget f }

/-- Sends every index through a map. -/
def ExceptionHandler.reindex (f : Nat → Nat) (h : ExceptionHandler) : ExceptionHandler where
  kind := h.kind
  tryStart := f h.tryStart
  tryEnd := f h.tryEnd
  handlerStart := f h.handlerStart
  handlerEnd := f h.handlerEnd
  filterStart := h.filterStart.map f

@[simp] theorem Instruction.targets_retarget (f : Nat → Nat) (i : Instruction) :
    (i.retarget f).targets = i.targets.map f := by
  obtain ⟨opcode, operand⟩ := i
  cases operand <;> rfl

variable {place : Nat → Option Nat} {f : Nat → Nat}

theorem Instruction.retarget?_eq {i : Instruction} (h : ∀ t ∈ i.targets, place t = some (f t)) :
    i.retarget? place = some (i.retarget f) := by
  obtain ⟨opcode, operand⟩ := i
  cases operand with
  | target index =>
    have hindex : place index = some (f index) := h index List.mem_cons_self
    simp [retarget?, retarget, Operand.retarget?, Operand.retarget, hindex]
  | targets indices =>
    have hindices : indices.mapM place = some (indices.map f) := mapM_eq_some_map h
    simp [retarget?, retarget, Operand.retarget?, Operand.retarget, hindices]
  | _ => rfl

theorem ExceptionHandler.reindex?_eq {h : ExceptionHandler} {length : Nat} (hp : h.Proper length)
    (hplace : ∀ i ≤ length, place i = some (f i)) : h.reindex? place = some (h.reindex f) := by
  obtain ⟨kind, tryStart, tryEnd, handlerStart, handlerEnd, filterStart⟩ := h
  have htry := hp.tryStart_lt
  have hhandler := hp.handlerStart_lt
  have htryEnd := hp.tryEnd_le
  have hhandlerEnd := hp.handlerEnd_le
  simp only at htry hhandler htryEnd hhandlerEnd
  have h1 := hplace tryStart (by omega)
  have h2 := hplace tryEnd (by omega)
  have h3 := hplace handlerStart (by omega)
  have h4 := hplace handlerEnd (by omega)
  cases filterStart with
  | none => simp [reindex?, reindex, h1, h2, h3, h4]
  | some start =>
    have hfilter : start < handlerStart := hp.filterStart_lt start rfl
    have h5 := hplace start (by omega)
    simp [reindex?, reindex, h1, h2, h3, h4, h5]

/-- Moving the indices with the instructions keeps the regions proper. -/
theorem ExceptionHandler.Proper.reindex {h : ExceptionHandler} {length : Nat}
    (hp : h.Proper length) (sites : List Nat) (gap : Nat) :
    (h.reindex (MethodBody.entry sites gap)).Proper (MethodBody.entry sites gap length) where
  tryStart_lt := MethodBody.entry_lt_entry sites gap hp.tryStart_lt
  handlerStart_lt := MethodBody.entry_lt_entry sites gap hp.handlerStart_lt
  tryEnd_le := MethodBody.within_entry.entry_le_iff.mpr hp.tryEnd_le
  handlerEnd_le := MethodBody.within_entry.entry_le_iff.mpr hp.handlerEnd_le
  filterStart_lt := by
    intro start hstart
    obtain ⟨old, hold, rfl⟩ := Option.map_eq_some_iff.mp hstart
    exact MethodBody.entry_lt_entry sites gap (hp.filterStart_lt old hold)

/-! ### The body with probes -/

namespace MethodBody

/-- The body with probes in it, the identifiers of the sites being given. -/
def probed (probe : Probe) (method : String) (ids : List UInt32) (b : MethodBody) :
    MethodBody where
  maxStack :=
    if b.instructions.isEmpty then b.maxStack
    else saturatingAdd b.maxStack probe.kind.stackDepth
  locals := b.locals
  instructions := weave (probe.code · method) (b.branchSites.zip ids)
    (b.instructions.map (Instruction.retarget (entry b.branchSites probe.length)))
  handlers := b.handlers.map (ExceptionHandler.reindex (entry b.branchSites probe.length))

theorem reindex?_eq {b : MethodBody} (hv : b.Valid)
    (hplace : ∀ i ≤ b.length, place i = some (f i)) :
    b.reindex? place = some { b with
      instructions := b.instructions.map (Instruction.retarget f)
      handlers := b.handlers.map (ExceptionHandler.reindex f) } := by
  have hinstructions : b.instructions.mapM (Instruction.retarget? place)
      = some (b.instructions.map (Instruction.retarget f)) := by
    refine mapM_eq_some_map fun i hi => Instruction.retarget?_eq fun t ht => ?_
    exact hplace t (Nat.le_of_lt (hv.target_lt i hi t ht))
  have hhandlers : b.handlers.mapM (ExceptionHandler.reindex? place)
      = some (b.handlers.map (ExceptionHandler.reindex f)) :=
    mapM_eq_some_map fun h hh => ExceptionHandler.reindex?_eq (hv.proper h hh) hplace
  simp [reindex?, hinstructions, hhandlers]

/-- **Inserting probes into a valid body gives a result**, with one identifier
of the generator for every site. -/
theorem instrument?_eq_probed {ω : Type} [WordSource ω] {b : MethodBody} (hv : b.Valid)
    (probe : Probe) (method : String) (g : Generator ω) :
    b.instrument? probe method g =
      some (b.probed probe method (g.take b.branchSites.length).1,
        (g.take b.branchSites.length).2) := by
  rw [instrument?]
  simp only [countP_branchSites hv]
  rcases hb : b.instructions with - | ⟨first, rest⟩
  · -- nothing is inserted, and nothing has an index
    obtain ⟨maxStack, locals, instructions, handlers⟩ := b
    simp only at hb
    subst hb
    have hhandlers : handlers = [] := handlers_eq_nil hv rfl
    subst hhandlers
    rfl
  · have hne : b.branchSites ≠ [] := by
      intro hnil
      have hstart : 0 ∈ b.branchSites :=
        (mem_branchSites_iff hv).mpr (.start (by rw [hb]; exact List.cons_ne_nil _ _))
      rw [hnil] at hstart
      cases hstart
    rw [if_neg (by simpa using hne), reindex?_eq hv fun i hi => if_pos hi]
    simp [probed, hb]

end MethodBody

end BranchCoverage
