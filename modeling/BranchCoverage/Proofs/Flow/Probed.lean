/-
Control flow through a body with probes.

From anywhere in the stretch of an instruction, the new body does what the old
one does from that instruction: `edge_probed` moves an edge of the old body to
the new one, and `edge_probed_cases` says that the new body has these edges
and, besides them, only the steps through the code of a probe (`Quiet`).  Both
rest on the fact that a new index is protected exactly if its old one is
(`protects_reindex`).
-/
import BranchCoverage.Proofs.Flow.Graph
import BranchCoverage.Proofs.Insertion.Layout

namespace BranchCoverage

/-! ### Regions -/

section

variable {h : ExceptionHandler} {sites : List Nat} {gap i k : Nat}

theorem protects_reindex (hw : MethodBody.Within sites gap i k) :
    (h.reindex (MethodBody.entry sites gap)).Protects k ↔ h.Protects i :=
  and_congr hw.entry_le_iff hw.lt_entry_iff

theorem filters_reindex (hw : MethodBody.Within sites gap i k) :
    (h.reindex (MethodBody.entry sites gap)).Filters k ↔ h.Filters i := by
  constructor
  · rintro ⟨start, hstart, hle, hlt⟩
    obtain ⟨old, hold, rfl⟩ := Option.map_eq_some_iff.mp hstart
    exact ⟨old, hold, hw.entry_le_iff.mp hle, hw.lt_entry_iff.mp hlt⟩
  · rintro ⟨start, hstart, hle, hlt⟩
    exact ⟨_, Option.map_eq_some_iff.mpr ⟨start, hstart, rfl⟩, hw.entry_le_iff.mpr hle,
      hw.lt_entry_iff.mpr hlt⟩

end

namespace MethodBody

variable {b : MethodBody} {probe : Probe} {method : String} {ids : List UInt32}
  {i j k l : Nat} {p : Passage}

/-- Edges of a valid body stay in it, its end included. -/
theorem Edge.le_length (hv : b.Valid) (h : b.Edge i p j) : j ≤ b.length := by
  cases h with
  | next hi _ => exact (List.getElem?_eq_some_iff.mp hi).1
  | target hi ht =>
    exact Nat.le_of_lt
      (hv.target_lt _ (List.mem_of_getElem? hi) _ (List.mem_of_getElem? ht))
  | filter hn hstart _ =>
    have hp := hv.proper _ (List.mem_of_getElem? hn)
    have := hp.filterStart_lt _ hstart
    have := hp.handlerStart_lt
    have := hp.handlerEnd_le
    omega
  | handler hn _ =>
    have hp := hv.proper _ (List.mem_of_getElem? hn)
    have := hp.handlerStart_lt
    have := hp.handlerEnd_le
    omega

/-- Edges come from instructions. -/
theorem Edge.lt_length (hv : b.Valid) (h : b.Edge i p j) : i < b.length := by
  cases h with
  | next hi _ => exact (List.getElem?_eq_some_iff.mp hi).1
  | target hi _ => exact (List.getElem?_eq_some_iff.mp hi).1
  | filter hn _ hprotects =>
    exact Nat.lt_of_lt_of_le hprotects.2 (hv.proper _ (List.mem_of_getElem? hn)).tryEnd_le
  | handler hn hcovers =>
    have hproper := hv.proper _ (List.mem_of_getElem? hn)
    rcases hcovers with hprotects | ⟨start, -, -, hlt⟩
    · exact Nat.lt_of_lt_of_le hprotects.2 hproper.tryEnd_le
    · have := hproper.handlerStart_lt
      have := hproper.handlerEnd_le
      omega

/-- A step through the code of a probe, to the next instruction of it or to the
site. -/
structure Quiet (b : MethodBody) (probe : Probe) (k : Nat) (p : Passage) (l : Nat) : Prop where
  passage : p = .next
  target : l = k + 1
  inside : ∃ i, b.WithinOf probe i k ∧ k < b.homeOf probe i

theorem not_quiet_home : ¬ b.Quiet probe (b.homeOf probe i) p l := by
  rintro ⟨-, -, j, hw, hlt⟩
  obtain rfl : i = j := within_home.unique hw
  exact Nat.lt_irrefl _ hlt

theorem not_quiet_raise (h : p.raises) : ¬ b.Quiet probe k p l := by
  rintro ⟨rfl, -, -⟩
  cases h

/-- A step through the code of a probe stays in the stretch. -/
theorem Quiet.within (h : b.Quiet probe k p l) (hw : b.WithinOf probe i k) :
    b.WithinOf probe i l := by
  obtain ⟨-, rfl, j, hw', hlt⟩ := h
  obtain rfl : i = j := hw.unique hw'
  exact hw.succ hlt

/-! ### Edges -/

section

variable (hlen : ids.length = b.branchSites.length)

theorem getElem?_handlers_probed (b : MethodBody) (probe : Probe) (method : String)
    (ids : List UInt32) (n : Nat) :
    (b.probed probe method ids).handlers[n]?
      = b.handlers[n]?.map (ExceptionHandler.reindex (b.entryOf probe)) :=
  List.getElem?_map

/-- An exception passes from anywhere in a stretch as it does from the
instruction. -/
theorem edge_probed_raise (hw : b.WithinOf probe i k) (hp : p.raises) :
    (b.probed probe method ids).Edge k p l ↔ ∃ j, b.Edge i p j ∧ l = b.entryOf probe j := by
  constructor
  · intro hedge
    cases hedge with
    | next => cases hp
    | target => cases hp
    | filter hn hstart hprotects =>
      rw [getElem?_handlers_probed] at hn
      obtain ⟨h, hold, rfl⟩ := Option.map_eq_some_iff.mp hn
      obtain ⟨start, hfilter, rfl⟩ := Option.map_eq_some_iff.mp hstart
      exact ⟨start, .filter hold hfilter ((protects_reindex hw).mp hprotects), rfl⟩
    | handler hn hcovers =>
      rw [getElem?_handlers_probed] at hn
      obtain ⟨h, hold, rfl⟩ := Option.map_eq_some_iff.mp hn
      exact ⟨h.handlerStart, .handler hold
        (hcovers.imp (protects_reindex hw).mp (filters_reindex hw).mp), rfl⟩
  · rintro ⟨j, hedge, rfl⟩
    cases hedge with
    | next => cases hp
    | target => cases hp
    | @filter n _ _ hn hstart hprotects =>
      have hnew := getElem?_handlers_probed b probe method ids n
      rw [hn] at hnew
      exact .filter hnew (Option.map_eq_some_iff.mpr ⟨_, hstart, rfl⟩)
        ((protects_reindex hw).mpr hprotects)
    | @handler n _ hn hcovers =>
      have hnew := getElem?_handlers_probed b probe method ids n
      rw [hn] at hnew
      exact .handler hnew (hcovers.imp (protects_reindex hw).mpr (filters_reindex hw).mpr)

include hlen

/-- An edge of the old body is one of the new body, from the instruction itself
to the beginning of what stands for its end. -/
theorem edge_probed (h : b.Edge i p j) :
    (b.probed probe method ids).Edge (b.homeOf probe i) p (b.entryOf probe j) := by
  -- only what the instruction does itself depends on where it stands
  rcases hp : p.raises with - | -
  · cases h with
    | next hi hfalls =>
      have hnew := getElem?_probed_home hlen probe method i
      rw [hi] at hnew
      rw [entryOf, entry_succ]
      exact .next hnew hfalls
    | target hi ht =>
      have hnew := getElem?_probed_home hlen probe method i
      rw [hi] at hnew
      refine .target hnew ?_
      rw [Instruction.targets_retarget, List.getElem?_map, ht]
      rfl
    | filter => cases hp
    | handler => cases hp
  · exact (edge_probed_raise within_home hp).mpr ⟨j, h, rfl⟩

/-- Control runs through the code of a probe. -/
theorem edge_probed_quiet (hv : b.Valid) (hw : b.WithinOf probe i k)
    (hk : k < b.homeOf probe i) : (b.probed probe method ids).Edge k .next (k + 1) := by
  have hi : i < b.length := lt_length_of_mem hv (hw.mem hk)
  obtain ⟨id, instruction, hmem, hget⟩ := exists_mem_code hlen method hw hi hk
  refine .next hget ?_
  rw [OpCode.fallsThrough]
  rcases (Probe.straight_of_mem_code hmem).1 with hflow | hflow <;> rw [hflow]

/-- The new body has no edges but the steps through probes and those of the old
body. -/
theorem edge_probed_cases (hv : b.Valid) (h : (b.probed probe method ids).Edge k p l) :
    ∃ i < b.length, b.WithinOf probe i k ∧
      (b.Quiet probe k p l ∨
        ((k = b.homeOf probe i ∨ p.raises) ∧ ∃ j, b.Edge i p j ∧ l = b.entryOf probe j)) := by
  rcases hp : p.raises with - | -
  · cases h with
    | next hk hfalls =>
      obtain ⟨i, hi, hw, ⟨hlt, -⟩ | ⟨rfl, old, hold, rfl⟩⟩ := getElem?_probed_cases hlen hk
      · exact ⟨i, hi, hw, .inl ⟨rfl, rfl, i, hw, hlt⟩⟩
      · exact ⟨i, hi, hw, .inr ⟨.inl rfl, i + 1, .next hold hfalls, (entry_succ _ _ _).symm⟩⟩
    | target hk ht =>
      obtain ⟨i, hi, hw, ⟨-, id, hcode⟩ | ⟨rfl, old, hold, rfl⟩⟩ :=
        getElem?_probed_cases hlen hk
      · -- the code of a probe does not branch
        rw [(Probe.straight_of_mem_code hcode).2] at ht
        cases ht
      · rw [Instruction.targets_retarget, List.getElem?_map] at ht
        obtain ⟨t, htold, rfl⟩ := Option.map_eq_some_iff.mp ht
        exact ⟨i, hi, hw, .inr ⟨.inl rfl, t, .target hold htold, rfl⟩⟩
    | filter => cases hp
    | handler => cases hp
  · obtain ⟨i, hw⟩ := exists_within b.branchSites probe.length k
    obtain ⟨j, hedge, rfl⟩ := (edge_probed_raise hw hp).mp h
    exact ⟨i, hedge.lt_length hv, hw, .inr ⟨.inr rfl, j, hedge, rfl⟩⟩

end

end MethodBody

end BranchCoverage
