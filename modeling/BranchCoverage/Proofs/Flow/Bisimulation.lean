/-
Probes do not change the control flow of a method.

`Mirrors` collects what it means that a body stands for another one with probes
at its sites: the two index maps `entryOf` and `homeOf` are the ones that the
layout needs, every instruction is found again with its targets moved, every
edge into an instruction has become one to the beginning of what stands for it,
no edge leads into the middle of a probe or past it, and the paths of the two
bodies correspond.

`mirrors_of_instrument?` says that inserting probes into a valid body gives a
body that mirrors it.  The layout fields come from `Insertion/Layout`, the
edges from `Flow/Probed`, the paths from `Flow/Trails`.
-/
import BranchCoverage.Proofs.Flow.Trails
import BranchCoverage.Proofs.Identifier.Generator

namespace BranchCoverage.MethodBody

open Identifier (Generator WordSource)

/-- The body `new` stands for the body `old` with probes at its sites. -/
structure Mirrors (probe : Probe) (method : String) (old new : MethodBody) : Prop where
  /-- The method still begins at the index 0. -/
  entry_start : old.entryOf probe 0 = 0
  /-- Behind an instruction begins what stands for the next one. -/
  entry_next : ∀ i, old.entryOf probe (i + 1) = old.homeOf probe i + 1
  /-- The end of the body is still its end. -/
  entry_end : old.entryOf probe old.length = new.length
  /-- A site has the code of a probe in front of it. -/
  probe_of_site : ∀ i, old.IsSite i →
    old.entryOf probe i < old.homeOf probe i ∧ ∃ id,
      new.instructions.extract (old.entryOf probe i) (old.homeOf probe i) = probe.code id method
  /-- Any other instruction has nothing in front of it. -/
  home_of_not_site : ∀ i, ¬ old.IsSite i → old.homeOf probe i = old.entryOf probe i
  /-- Instructions are kept, with their targets moved. -/
  instruction : ∀ i, new.instructions[old.homeOf probe i]?
    = old.instructions[i]?.map (Instruction.retarget (old.entryOf probe))
  /-- Handlers are kept, with their indices moved. -/
  handlers : new.handlers = old.handlers.map (ExceptionHandler.reindex (old.entryOf probe))
  /-- Edges are kept, and lead to the beginning of what stands for their end. -/
  edge : ∀ {i j : Nat} {p : Passage}, old.Edge i p j →
    new.Edge (old.homeOf probe i) p (old.entryOf probe j)
  /-- Edges lead nowhere else but through probes. -/
  landing : ∀ {k l : Nat} {p : Passage}, new.Edge k p l →
    old.Quiet probe k p l ∨ ∃ j ≤ old.length, l = old.entryOf probe j
  /-- The bodies are bisimilar, the steps through probes being quiet. -/
  bisimilar : Bisimilar old new (old.Quiet probe) (old.WithinOf probe)
  /-- Every path of the old body is one of the new body, through the probe of
  every site on it. -/
  expand : ∀ i steps, old.Trail i steps →
    new.Trail (old.entryOf probe i) (old.expand probe i steps) ∧
      old.collapse probe (old.expand probe i steps) = steps
  /-- Every path of the new body comes from one of the old body, and is its
  expansion as far as it goes. -/
  collapse : ∀ i steps, new.Trail (old.entryOf probe i) steps →
    old.Trail i (old.collapse probe steps) ∧
      (old.Unbroken probe (old.entryOf probe i) steps →
        steps <+: old.expand probe i (old.collapse probe steps))

theorem mirrors_probed {b : MethodBody} (hv : b.Valid) (probe : Probe) (method : String)
    {ids : List UInt32} (hlen : ids.length = b.branchSites.length) :
    Mirrors probe method b (b.probed probe method ids) where
  entry_start := entry_zero _ _
  entry_next := entry_succ _ _
  entry_end := (length_probed hlen).symm
  probe_of_site := fun i => probe_of_isSite hlen hv probe method
  home_of_not_site := by
    intro i hsite
    exact home_of_notMem (mt (mem_branchSites_iff hv).mp hsite)
  instruction := getElem?_probed_home hlen probe method
  handlers := rfl
  edge := edge_probed hlen
  landing := by
    intro k l p hedge
    obtain ⟨i, -, -, hquiet | ⟨-, j, hold, rfl⟩⟩ := edge_probed_cases hlen hv hedge
    · exact .inl hquiet
    · exact .inr ⟨j, hold.le_length hv, rfl⟩
  bisimilar := bisimilar_probed hv hlen
  expand := fun i steps h =>
    ⟨trail_expandFrom hv hlen within_entry h, collapse_expandFrom hv within_entry h⟩
  collapse := fun i steps h =>
    ⟨trail_collapse hv hlen within_entry h,
      prefix_expandFrom_collapse hv hlen within_entry h⟩

/-- **Probes do not change the control flow of a method**: whatever the probe,
the method and the state of the generator, inserting probes into a body that
passes validation gives a body that mirrors it. -/
theorem mirrors_of_instrument? {ω : Type} [WordSource ω] {b : MethodBody}
    (hvalid : b.validate = .ok ()) (probe : Probe) (method : String) (g : Generator ω) :
    ∃ new g', b.instrument? probe method g = some (new, g') ∧ Mirrors probe method b new := by
  have hv : b.Valid := validate_eq_ok_iff.mp hvalid
  refine ⟨_, _, instrument?_eq_probed hv probe method g, mirrors_probed hv probe method ?_⟩
  exact Generator.length_take _ _

/-- A loop back to the beginning in a region that is left over its handler. -/
def guardedLoop : MethodBody where
  maxStack := 2
  locals := []
  instructions := [⟨.ldarg, .argument 0⟩, ⟨.brtrue, .target 0⟩, ⟨.leave, .target 4⟩,
    ⟨.endfinally, .none⟩, ⟨.ldarg, .argument 0⟩, ⟨.switch, .targets [0, 4]⟩]
  handlers := [⟨.finally, 0, 3, 3, 4, none⟩]

theorem guardedLoop_mirrors :
    guardedLoop.validate = .ok () ∧
      ∃ new g', guardedLoop.instrument? ⟨.inline, TraceType.reference .here⟩ "M"
          (Identifier.fresh .counter) = some (new, g') ∧
        Mirrors ⟨.inline, TraceType.reference .here⟩ "M" guardedLoop new :=
  ⟨rfl, mirrors_of_instrument? rfl _ _ _⟩

end BranchCoverage.MethodBody
