/-
The code of probes.

Whatever the identifier and the method, the code of a probe has one length
(`Probe.length_code`), and control enters it only at its beginning and runs
straight through it (`Probe.straight_of_mem_code`).
-/
import BranchCoverage.Probe.Insertion

namespace BranchCoverage.Probe

/-- The code of a probe is as long whatever its identifier and method are. -/
theorem length_code (p : Probe) (id : UInt32) (method : String) :
    (p.code id method).length = p.length := by
  obtain ⟨kind, traceType⟩ := p
  cases kind <;> rfl

theorem length_pos (p : Probe) : 0 < p.length := by
  obtain ⟨kind, traceType⟩ := p
  cases kind <;> exact Nat.succ_pos _

/-- Control runs straight through the code of a probe. -/
theorem straight_of_mem_code {p : Probe} {id : UInt32} {method : String} {i : Instruction}
    (h : i ∈ p.code id method) :
    (i.opcode.flowControl = .next ∨ i.opcode.flowControl = .call) ∧ i.targets = [] := by
  obtain ⟨kind, traceType⟩ := p
  have hall : ∀ i ∈ (⟨kind, traceType⟩ : Probe).code id method,
      (i.opcode.flowControl = .next ∨ i.opcode.flowControl = .call) ∧ i.targets = [] := by
    cases kind <;>
      simp [code, callback?, ProbeKind.method?, hash, cellAddress, leaveTrace,
        OpCode.flowControl, Instruction.targets, Operand.branchTargets]
  exact hall i h

end BranchCoverage.Probe
