/-
The branch sites of a body.

`MethodBody.IsSite` names the ways of being a site one by one.  In a valid
body the computed list holds exactly these indices (`mem_branchSites_iff`),
each once and in ascending order (`pairwise_branchSites`), and all of them are
indices of instructions (`IsSite.lt_length`).
-/
import BranchCoverage.Probe.Insertion
import BranchCoverage.Proofs.Module.Validity
import BranchCoverage.Proofs.Sorted
import Mathlib.Order.Basic

namespace BranchCoverage.MethodBody

variable {b : MethodBody} {i : Nat}

/-- The instruction of this index is a branch site. -/
inductive IsSite (b : MethodBody) : Nat → Prop
  /-- The method begins there. -/
  | start : b.instructions ≠ [] → IsSite b 0
  /-- A branch leads there. -/
  | target {instruction : Instruction} {t : Nat} :
      instruction ∈ b.instructions → t ∈ instruction.targets → IsSite b t
  /-- It is next when the condition of a branch fails. -/
  | fallThrough {k : Nat} {instruction : Instruction} :
      b.instructions[k]? = some instruction →
      instruction.opcode.flowControl = .condBranch → k + 1 < b.length → IsSite b (k + 1)
  /-- A handler begins there. -/
  | handler {h : ExceptionHandler} : h ∈ b.handlers → IsSite b h.handlerStart
  /-- The filter of a handler begins there. -/
  | filter {h : ExceptionHandler} {start : Nat} :
      h ∈ b.handlers → h.filterStart = some start → IsSite b start

/-! ### The computed list -/

theorem mem_fallThroughs :
    i ∈ b.fallThroughs ↔ ∃ k instruction, b.instructions[k]? = some instruction ∧
      instruction.opcode.flowControl = .condBranch ∧ k + 1 < b.length ∧ k + 1 = i := by
  simp only [fallThroughs, List.mem_filterMap, Prod.exists]
  constructor
  · rintro ⟨instruction, k, hk, hsome⟩
    split at hsome
    · next hcond =>
      exact ⟨k, instruction, List.mk_mem_zipIdx_iff_getElem?.mp hk, hcond.1, hcond.2,
        Option.some.inj hsome⟩
    · cases hsome
  · rintro ⟨k, instruction, hk, hcond, hlt, rfl⟩
    exact ⟨instruction, k, List.mk_mem_zipIdx_iff_getElem?.mpr hk, if_pos ⟨hcond, hlt⟩⟩

theorem mem_handlerEntries :
    i ∈ b.handlerEntries ↔
      ∃ h ∈ b.handlers, h.handlerStart = i ∨ h.filterStart = some i := by
  simp only [handlerEntries, List.mem_flatMap, List.mem_cons, Option.mem_toList]
  exact exists_congr fun h => and_congr_right fun _ => or_congr_left eq_comm

theorem pairwise_branchSites (b : MethodBody) : b.branchSites.Pairwise (· < ·) := by
  rw [branchSites]
  split
  · exact List.Pairwise.nil
  · exact Sorted.pairwise_ofList _

theorem nodup_branchSites (b : MethodBody) : b.branchSites.Nodup :=
  b.pairwise_branchSites.imp fun h => Nat.ne_of_lt h

theorem branchSites_eq_nil (h : b.instructions = []) : b.branchSites = [] := by
  rw [branchSites, h]
  rfl

/-- Every body with instructions has a site, at its entry. -/
theorem branchSites_eq_nil_iff : b.branchSites = [] ↔ b.instructions = [] := by
  refine ⟨fun h => ?_, branchSites_eq_nil⟩
  by_contra hne
  have hentry : 0 ∈ b.branchSites := by
    rw [branchSites, if_neg (by simpa using hne), Sorted.mem_ofList]
    exact List.mem_append_left _ (List.mem_append_left _ (List.mem_cons_self ..))
  rw [h] at hentry
  cases hentry

/-! ### Sites of valid bodies -/

theorem handlers_eq_nil (hv : b.Valid) (h : b.instructions = []) : b.handlers = [] := by
  refine List.eq_nil_iff_forall_not_mem.mpr fun handler hmem => ?_
  have hp := hv.proper handler hmem
  have hlen : b.length = 0 := by rw [length, h]; rfl
  have := hp.tryStart_lt
  have := hp.tryEnd_le
  omega

/-- The sites of a valid body are indices of instructions. -/
theorem IsSite.lt_length (h : b.IsSite i) (hv : b.Valid) : i < b.length := by
  cases h with
  | start hne => exact List.length_pos_iff.mpr hne
  | target hmem ht => exact hv.target_lt _ hmem _ ht
  | fallThrough _ _ hlt => exact hlt
  | handler hmem =>
    have hp := hv.proper _ hmem
    exact Nat.lt_of_lt_of_le hp.handlerStart_lt hp.handlerEnd_le
  | filter hmem hstart =>
    have hp := hv.proper _ hmem
    have hlt := hp.filterStart_lt _ hstart
    have := hp.handlerStart_lt
    have := hp.handlerEnd_le
    omega

/-- The computed list holds the sites and nothing else. -/
theorem mem_branchSites_iff (hv : b.Valid) : i ∈ b.branchSites ↔ b.IsSite i := by
  rcases hb : b.instructions with - | ⟨first, rest⟩
  · -- a valid body without instructions has no handlers either
    rw [branchSites_eq_nil hb]
    refine iff_of_false List.not_mem_nil fun h => ?_
    have hlt := h.lt_length hv
    rw [length, hb] at hlt
    exact Nat.not_lt_zero i hlt
  · have hne : b.instructions ≠ [] := by rw [hb]; exact List.cons_ne_nil _ _
    have hempty : b.instructions.isEmpty = false := by rw [hb]; rfl
    rw [branchSites, hempty, if_neg Bool.false_ne_true, Sorted.mem_ofList, List.mem_append,
      List.mem_append, List.mem_cons, List.mem_flatMap, mem_fallThroughs, mem_handlerEntries]
    constructor
    · rintro (((rfl | ⟨instruction, hmem, ht⟩) | ⟨k, instruction, hk, hcond, hlt, rfl⟩) |
        ⟨h, hmem, rfl | hstart⟩)
      · exact .start hne
      · exact .target hmem ht
      · exact .fallThrough hk hcond hlt
      · exact .handler hmem
      · exact .filter hmem hstart
    · intro h
      cases h with
      | start _ => exact .inl (.inl (.inl rfl))
      | target hmem ht => exact .inl (.inl (.inr ⟨_, hmem, ht⟩))
      | fallThrough hk hcond hlt => exact .inl (.inr ⟨_, _, hk, hcond, hlt, rfl⟩)
      | handler hmem => exact .inr ⟨_, hmem, .inl rfl⟩
      | filter hmem hstart => exact .inr ⟨_, hmem, .inr hstart⟩

theorem lt_length_of_mem (hv : b.Valid) (h : i ∈ b.branchSites) : i < b.length :=
  ((mem_branchSites_iff hv).mp h).lt_length hv

/-- All sites of a valid body get a probe. -/
theorem countP_branchSites (hv : b.Valid) :
    b.branchSites.countP (· < b.length) = b.branchSites.length :=
  List.countP_eq_length.mpr fun _ h => decide_eq_true (lt_length_of_mem hv h)

end BranchCoverage.MethodBody
