/-
What validation establishes.

Validation searches for the first defect.  Here its verdict is read as a
property of the whole body: `MethodBody.Valid` says that every branch target
is the index of an instruction and that every handler is `Proper`, and
`MethodBody.validate_eq_ok_iff` says that validation finds nothing exactly
then.  `Module.validate_eq_ok_iff` is the same for all bodies of a module.
-/
import BranchCoverage.Module.Basic

namespace BranchCoverage

/-! ### Handlers -/

/-- The regions of the handler are proper stretches of a body of that length. -/
structure ExceptionHandler.Proper (h : ExceptionHandler) (length : Nat) : Prop where
  tryStart_lt : h.tryStart < h.tryEnd
  handlerStart_lt : h.handlerStart < h.handlerEnd
  tryEnd_le : h.tryEnd ≤ length
  handlerEnd_le : h.handlerEnd ≤ length
  filterStart_lt : ∀ start, h.filterStart = some start → start < h.handlerStart

theorem ExceptionHandler.fits_iff {h : ExceptionHandler} {length : Nat} :
    h.fits length = true ↔ h.Proper length := by
  simp only [ExceptionHandler.fits, Bool.and_eq_true, decide_eq_true_eq]
  constructor
  · rintro ⟨⟨⟨⟨htry, hhandler⟩, htryEnd⟩, hhandlerEnd⟩, hfilter⟩
    refine ⟨htry, hhandler, htryEnd, hhandlerEnd, ?_⟩
    intro start hstart
    rw [hstart] at hfilter
    simpa using hfilter
  · intro hp
    refine ⟨⟨⟨⟨hp.tryStart_lt, hp.handlerStart_lt⟩, hp.tryEnd_le⟩, hp.handlerEnd_le⟩, ?_⟩
    rcases e : h.filterStart with - | start
    · rfl
    · simpa using hp.filterStart_lt start e

/-! ### Bodies -/

/-- Every index that a branch or handler of the body holds has its place in the
body. -/
structure MethodBody.Valid (b : MethodBody) : Prop where
  target_lt : ∀ i ∈ b.instructions, ∀ t ∈ i.targets, t < b.length
  proper : ∀ h ∈ b.handlers, h.Proper b.length

namespace MethodBody

theorem strayBranch?_eq_none_iff {b : MethodBody} :
    b.strayBranch? = none ↔ ∀ i ∈ b.instructions, ∀ t ∈ i.targets, t < b.length := by
  simp only [strayBranch?, List.findSome?_eq_none_iff, Option.map_eq_none_iff,
    List.find?_eq_none, decide_eq_true_eq, Nat.not_le]
  constructor
  · intro h i hi t ht
    obtain ⟨k, hk⟩ := List.mem_iff_getElem?.mp hi
    exact h (i, k) (List.mk_mem_zipIdx_iff_getElem?.mpr hk) t ht
  · intro h p hp t ht
    exact h p.1 (List.fst_mem_of_mem_zipIdx hp) t ht

theorem strayHandler?_eq_none_iff {b : MethodBody} :
    b.strayHandler? = none ↔ ∀ h ∈ b.handlers, h.Proper b.length := by
  simp only [strayHandler?, List.findSome?_eq_none_iff]
  constructor
  · intro h handler hmem
    obtain ⟨k, hk⟩ := List.mem_iff_getElem?.mp hmem
    have hfits := h (handler, k) (List.mk_mem_zipIdx_iff_getElem?.mpr hk)
    rw [← ExceptionHandler.fits_iff]
    simpa using hfits
  · intro h p hp
    have hproper := h p.1 (List.fst_mem_of_mem_zipIdx hp)
    rw [← ExceptionHandler.fits_iff] at hproper
    simp [hproper]

/-- Validation finds nothing exactly in valid bodies. -/
theorem validate_eq_ok_iff {b : MethodBody} : b.validate = .ok () ↔ b.Valid := by
  rw [validate]
  rcases hbranch : b.strayBranch? with - | defect
  · rcases hhandler : b.strayHandler? with - | defect
    · simp only [true_iff]
      exact ⟨strayBranch?_eq_none_iff.mp hbranch, strayHandler?_eq_none_iff.mp hhandler⟩
    · simp only [reduceCtorEq, false_iff]
      intro hv
      rw [strayHandler?_eq_none_iff.mpr hv.proper] at hhandler
      cases hhandler
  · simp only [reduceCtorEq, false_iff]
    intro hv
    rw [strayBranch?_eq_none_iff.mpr hv.target_lt] at hbranch
    cases hbranch

end MethodBody

/-! ### Modules -/

namespace Module

/-- A check of all elements in turn passes exactly when it passes for each. -/
theorem forM_eq_ok_iff {α ε : Type} {check : α → Except ε Unit} {xs : List α} :
    xs.forM check = .ok () ↔ ∀ x ∈ xs, check x = .ok () := by
  induction xs with
  | nil => simp [pure, Except.pure]
  | cons x rest ih =>
    rw [List.forall_mem_cons, ← ih]
    show (check x >>= fun _ => rest.forM check) = .ok () ↔ _
    rcases check x with e | ⟨⟩ <;> simp [bind, Except.bind]

/-- A module is validated exactly when all bodies in it are valid. -/
theorem validate_eq_ok_iff {m : Module} :
    m.validate = .ok () ↔ ∀ p ∈ m.bodies, p.2.Valid := by
  rw [validate, forM_eq_ok_iff]
  refine forall₂_congr fun p _ => ?_
  rw [← MethodBody.validate_eq_ok_iff]
  rcases h : p.2.validate with defect | ⟨⟩ <;> simp [h]

/-- A body that is listed belongs to a method of a type of the module. -/
theorem mem_bodies {m : Module} {name : String} {body : MethodBody} :
    (name, body) ∈ m.bodies ↔
      ∃ t ∈ m.types, ∃ d ∈ t.methods, d.body = some body ∧ t.methodName d = name := by
  simp [bodies]

end Module

end BranchCoverage
