/-
How high the code of a probe piles the stack.

An instruction takes some slots from the top of the stack and puts others there.
For the instructions that probes are made of, `Instruction.effect?` says how many.
That is what the machine does (`exec_effect`), and it does the same whatever lies
below (`run_above`).

A probe begins with nothing of its own on the stack.  Before each of its instructions
it has a known number of slots there (`ProbeKind.heights`), the instruction takes only
such slots (`ProbeKind.rise_succ`), and none are left in the end.  The greatest of the
heights is the room that the probe asks for (`ProbeKind.rise_le`,
`ProbeKind.exists_rise_eq`).
-/
import BranchCoverage.Proofs.Stack.Probe
import BranchCoverage.Proofs.Probe.Code

namespace BranchCoverage

/-- How many slots an instruction takes from the stack, and how many it puts on it
then. -/
structure Effect where
  pops : Nat
  pushes : Nat
  deriving DecidableEq

/-- The effect of an instruction that a probe may hold.  A method that is called as a
probe takes two arguments and gives nothing back. -/
def Instruction.effect? (i : Instruction) : Option Effect :=
  match i.opcode, i.operand with
  | .ldcI4, .int _ => some ⟨0, 1⟩
  | .ldstr, .text _ => some ⟨0, 1⟩
  | .ldsfld, .field _ => some ⟨0, 1⟩
  | .stsfld, .field _ => some ⟨1, 0⟩
  | .call, .method f => if f.signature = TraceType.probeSignature then some ⟨2, 0⟩ else none
  | .xor, .none => some ⟨2, 1⟩
  | .and, .none => some ⟨2, 1⟩
  | .or, .none => some ⟨2, 1⟩
  | .shl, .none => some ⟨2, 1⟩
  | .shr, .none => some ⟨2, 1⟩
  | .add, .none => some ⟨2, 1⟩
  | .convI, .none => some ⟨1, 1⟩
  | .dup, .none => some ⟨1, 2⟩
  | .ldindU1, .none => some ⟨1, 1⟩
  | .stindI1, .none => some ⟨2, 0⟩
  | _, _ => none

/-! ### Effects of the machine -/

namespace Stack.Machine

variable {traceType : TypeRef} {m m' : Machine}

/-- What `m` has on its stack, on top of further slots. -/
def above (m : Machine) (below : List Slot) : Machine :=
  { m with stack := m.stack ++ below }

/-- A step goes from one machine to another, taking and putting on so many slots,
and does the same on top of any others. -/
structure Moves (step : Machine → Option Machine) (e : Effect) (m m' : Machine) : Prop where
  le_length : e.pops ≤ m.stack.length
  length : m'.stack.length = m.stack.length - e.pops + e.pushes
  above : ∀ below, step (m.above below) = some (m'.above below)

theorem moves_push (s : Slot) : Moves (fun m => some (m.push s)) ⟨0, 1⟩ m (m.push s) :=
  ⟨Nat.zero_le _, rfl, fun _ => rfl⟩

theorem moves_binary {f : Int32 → Int32 → Option Int32} (h : m.binary f = some m') :
    Moves (·.binary f) ⟨2, 1⟩ m m' := by
  obtain ⟨stack, t⟩ := m
  match stack, h with
  | .int right :: .int left :: rest, h =>
    obtain ⟨value, hvalue, rfl⟩ := Option.map_eq_some_iff.mp h
    refine ⟨Nat.le_add_left 2 _, rfl, ?_⟩
    intro below
    exact Option.map_eq_some_iff.mpr ⟨value, hvalue, rfl⟩

theorem moves_add (h : m.add = some m') : Moves add ⟨2, 1⟩ m m' := by
  obtain ⟨stack, t⟩ := m
  match stack, h with
  | .native n :: .address offset :: rest, h =>
    obtain rfl := Option.some.inj h
    exact ⟨Nat.le_add_left 2 _, rfl, fun _ => rfl⟩
  | .int right :: .int left :: rest, h =>
    obtain rfl := Option.some.inj h
    exact ⟨Nat.le_add_left 2 _, rfl, fun _ => rfl⟩

theorem moves_readByte (h : m.readByte = some m') : Moves readByte ⟨1, 1⟩ m m' := by
  obtain ⟨stack, t⟩ := m
  match stack, h with
  | .address offset :: rest, h =>
    obtain ⟨cell, hcell, h⟩ := Option.bind_eq_some_iff.mp h
    obtain ⟨byte, hbyte, h⟩ := Option.bind_eq_some_iff.mp h
    obtain rfl := Option.some.inj h
    refine ⟨Nat.le_add_left 1 _, rfl, ?_⟩
    intro below
    exact Option.bind_eq_some_iff.mpr ⟨cell, hcell, Option.bind_eq_some_iff.mpr ⟨byte, hbyte, rfl⟩⟩

theorem moves_writeByte (h : m.writeByte = some m') : Moves writeByte ⟨2, 0⟩ m m' := by
  obtain ⟨stack, t⟩ := m
  match stack, h with
  | .int value :: .address offset :: rest, h =>
    obtain ⟨cell, hcell, h⟩ := Option.bind_eq_some_iff.mp h
    obtain rfl := Option.some.inj h
    refine ⟨Nat.le_add_left 2 _, rfl, ?_⟩
    intro below
    exact Option.bind_eq_some_iff.mpr ⟨cell, hcell, rfl⟩

theorem moves_readField {f : MemberRef} (h : m.readField traceType f = some m') :
    Moves (·.readField traceType f) ⟨0, 1⟩ m m' := by
  rw [readField] at h
  split at h
  · next hmemory =>
    obtain rfl := Option.some.inj h
    refine ⟨Nat.zero_le _, rfl, ?_⟩
    intro below
    exact if_pos hmemory
  · next hmemory =>
    split at h
    · next hprevious =>
      obtain rfl := Option.some.inj h
      refine ⟨Nat.zero_le _, rfl, ?_⟩
      intro below
      exact (if_neg hmemory).trans (if_pos hprevious)
    · cases h

theorem moves_writeField {f : MemberRef} (h : m.writeField traceType f = some m') :
    Moves (·.writeField traceType f) ⟨1, 0⟩ m m' := by
  obtain ⟨stack, t⟩ := m
  match stack, h with
  | .int value :: rest, h =>
    rw [writeField] at h
    dsimp only at h
    split at h
    · next hprevious =>
      obtain rfl := Option.some.inj h
      refine ⟨Nat.le_add_left 1 _, rfl, ?_⟩
      intro below
      exact if_pos hprevious
    · cases h

theorem moves_callProbe {f : MemberRef} (h : m.callProbe traceType f = some m') :
    f.signature = TraceType.probeSignature ∧ Moves (·.callProbe traceType f) ⟨2, 0⟩ m m' := by
  obtain ⟨stack, t⟩ := m
  match stack, h with
  | .text label :: .int id :: rest, h =>
    obtain ⟨d, hd, h⟩ := Option.bind_eq_some_iff.mp h
    split at h
    · next hmember =>
      obtain rfl := Option.some.inj h
      refine ⟨congrArg MemberRef.signature hmember, Nat.le_add_left 2 _, rfl, ?_⟩
      intro below
      exact Option.bind_eq_some_iff.mpr ⟨d, hd, if_pos hmember⟩
    · cases h

theorem moves_widen (h : m.exec traceType ⟨.convI, .none⟩ = some m') :
    Moves (·.exec traceType ⟨.convI, .none⟩) ⟨1, 1⟩ m m' := by
  obtain ⟨stack, t⟩ := m
  match stack, h with
  | .int value :: rest, h =>
    obtain rfl := Option.some.inj h
    exact ⟨Nat.le_add_left 1 _, rfl, fun _ => rfl⟩

theorem moves_dup (h : m.exec traceType ⟨.dup, .none⟩ = some m') :
    Moves (·.exec traceType ⟨.dup, .none⟩) ⟨1, 2⟩ m m' := by
  obtain ⟨stack, t⟩ := m
  match stack, h with
  | top :: rest, h =>
    obtain rfl := Option.some.inj h
    exact ⟨Nat.le_add_left 1 _, rfl, fun _ => rfl⟩

/-- An instruction has its effect on the machine, whatever lies below. -/
theorem exec_effect {i : Instruction} (h : m.exec traceType i = some m') :
    ∃ e, i.effect? = some e ∧ Moves (·.exec traceType i) e m m' := by
  obtain ⟨opcode, operand⟩ := i
  have hnot : (none : Option Machine) ≠ some m' := fun hnone => nomatch hnone
  cases operand with
  | none =>
    cases opcode with
    | xor | and | or | shl | shr => exact ⟨_, rfl, moves_binary h⟩
    | add => exact ⟨_, rfl, moves_add h⟩
    | convI => exact ⟨_, rfl, moves_widen h⟩
    | dup => exact ⟨_, rfl, moves_dup h⟩
    | ldindU1 => exact ⟨_, rfl, moves_readByte h⟩
    | stindI1 => exact ⟨_, rfl, moves_writeByte h⟩
    | _ => exact absurd h hnot
  | int value =>
    cases opcode with
    | ldcI4 =>
      obtain rfl := Option.some.inj h
      exact ⟨_, rfl, moves_push (.int value)⟩
    | _ => exact absurd h hnot
  | text value =>
    cases opcode with
    | ldstr =>
      obtain rfl := Option.some.inj h
      exact ⟨_, rfl, moves_push (.text value)⟩
    | _ => exact absurd h hnot
  | field f =>
    cases opcode with
    | ldsfld => exact ⟨_, rfl, moves_readField h⟩
    | stsfld => exact ⟨_, rfl, moves_writeField h⟩
    | _ => exact absurd h hnot
  | method f =>
    cases opcode with
    | call =>
      obtain ⟨hsignature, hmoves⟩ := moves_callProbe h
      exact ⟨_, if_pos hsignature, hmoves⟩
    | _ => exact absurd h hnot
  | _ => cases opcode <;> exact absurd h hnot

/-- Code does the same on top of any further slots. -/
theorem run_above {code : List Instruction} (h : m.run traceType code = some m')
    (below : List Slot) : (m.above below).run traceType code = some (m'.above below) := by
  induction code generalizing m with
  | nil =>
    obtain rfl := Option.some.inj h
    rfl
  | cons i rest ih =>
    rw [run_cons] at h ⊢
    obtain ⟨next, hexec, hrun⟩ := Option.bind_eq_some_iff.mp h
    obtain ⟨e, -, hmoves⟩ := exec_effect hexec
    rw [hmoves.above below]
    exact ih hrun

end Stack.Machine

/-! ### Heights -/

/-- The heights of the stack before each of the instructions and behind the last
one, if it is so high at first.  No instruction may take what was there before. -/
def climb : Nat → List Instruction → Option (List Nat)
  | height, [] => some [height]
  | height, i :: rest => do
    let e ← i.effect?
    if e.pops ≤ height then
      let heights ← climb (height - e.pops + e.pushes) rest
      some (height :: heights)
    else none

/-- How many slots of its own a probe of the kind has on the stack before each of
its instructions, and in the end. -/
def ProbeKind.heights : ProbeKind → List Nat
  | .counter | .bitset => [0, 1, 2, 0]
  | .inline => [0, 1, 2, 3, 2, 3, 2, 2, 1, 2, 2, 3, 2, 0, 1, 0]
  | .inlineBitset =>
    [0, 1, 2, 3, 2, 3, 2, 3, 2, 2, 1, 2, 2, 3, 4, 5, 4, 5, 4, 3, 2, 0, 1, 0]

/-- How many slots of its own a probe of the kind has on the stack when it has
come so far. -/
def ProbeKind.rise (kind : ProbeKind) (n : Nat) : Nat :=
  kind.heights.getD n 0

section

variable {height n : Nat} {heights : List Nat} {code rest : List Instruction} {i : Instruction}

theorem climb_cons (h : climb height (i :: rest) = some heights) :
    ∃ e others, i.effect? = some e ∧ e.pops ≤ height ∧
      climb (height - e.pops + e.pushes) rest = some others ∧ heights = height :: others := by
  rw [climb] at h
  obtain ⟨e, he, h⟩ := Option.bind_eq_some_iff.mp h
  split at h
  · next hle =>
    obtain ⟨others, hothers, h⟩ := Option.bind_eq_some_iff.mp h
    exact ⟨e, others, he, hle, hothers, (Option.some.inj h).symm⟩
  · cases h

theorem getD_climb_zero (h : climb height code = some heights) : heights.getD 0 0 = height := by
  cases code with
  | nil =>
    obtain rfl := Option.some.inj h
    rfl
  | cons i rest =>
    obtain ⟨e, others, -, -, -, rfl⟩ := climb_cons h
    rfl

/-- From one height to the next it is the effect of an instruction. -/
theorem getD_climb_succ (h : climb height code = some heights) (hi : code[n]? = some i) :
    ∃ e, i.effect? = some e ∧ e.pops ≤ heights.getD n 0 ∧
      heights.getD (n + 1) 0 = heights.getD n 0 - e.pops + e.pushes := by
  induction code generalizing height heights n with
  | nil => cases hi
  | cons first rest ih =>
    obtain ⟨e, others, he, hle, hothers, rfl⟩ := climb_cons h
    cases n with
    | zero =>
      obtain rfl := Option.some.inj hi
      exact ⟨e, he, hle, getD_climb_zero hothers⟩
    | succ n =>
      show ∃ e, i.effect? = some e ∧ e.pops ≤ others.getD n 0 ∧
        others.getD (n + 1) 0 = others.getD n 0 - e.pops + e.pushes
      exact ih hothers hi

/-- The machine is as high as the heights say. -/
theorem Stack.Machine.length_run_take {traceType : TypeRef} {m m' : Stack.Machine}
    (h : climb m.stack.length code = some heights)
    (hrun : m.run traceType (code.take n) = some m') (hn : n ≤ code.length) :
    m'.stack.length = heights.getD n 0 := by
  induction code generalizing m heights n with
  | nil =>
    obtain rfl := Nat.le_zero.mp hn
    obtain rfl := Option.some.inj hrun
    exact (getD_climb_zero h).symm
  | cons i rest ih =>
    cases n with
    | zero =>
      obtain rfl := Option.some.inj hrun
      exact (getD_climb_zero h).symm
    | succ n =>
      obtain ⟨e, others, he, -, hothers, rfl⟩ := climb_cons h
      rw [List.take_succ_cons, Stack.Machine.run_cons] at hrun
      obtain ⟨next, hexec, hrun⟩ := Option.bind_eq_some_iff.mp hrun
      obtain ⟨e', he', hmoves⟩ := Stack.Machine.exec_effect hexec
      obtain rfl : e = e' := Option.some.inj (he.symm.trans he')
      rw [← hmoves.length] at hothers
      show m'.stack.length = others.getD n 0
      exact ih hothers hrun (Nat.le_of_succ_le_succ hn)

end

/-! ### Probes -/

section

variable {n : Nat} (kind : ProbeKind) (traceType : TypeRef)

/-- A probe takes nothing from the stack but its own. -/
theorem climb_code (id : UInt32) (method : String) :
    climb 0 ((⟨kind, traceType⟩ : Probe).code id method) = some kind.heights := by
  cases kind <;> rfl

@[simp] theorem ProbeKind.rise_zero : kind.rise 0 = 0 := by
  cases kind <;> rfl

@[simp] theorem ProbeKind.rise_length : kind.rise (⟨kind, traceType⟩ : Probe).length = 0 := by
  cases kind <;> rfl

/-- The room that a probe asks for is enough for it. -/
theorem ProbeKind.rise_le (n : Nat) : kind.rise n ≤ kind.stackDepth.toNat := by
  have hall : ∀ height ∈ kind.heights, height ≤ kind.stackDepth.toNat := by
    cases kind <;> decide
  rw [rise, List.getD_eq_getElem?_getD]
  rcases h : kind.heights[n]? with - | height
  · exact Nat.zero_le _
  · exact hall height (List.mem_of_getElem? h)

/-- The probe needs all of it. -/
theorem ProbeKind.exists_rise_eq :
    ∃ n < (⟨kind, traceType⟩ : Probe).length, kind.rise n = kind.stackDepth.toNat := by
  cases kind with
  | counter => exact ⟨2, Nat.lt_add_one 2, rfl⟩
  | bitset => exact ⟨2, Nat.lt_add_one 2, rfl⟩
  | inline =>
    have hlt : 3 < 15 := by decide
    exact ⟨3, hlt, rfl⟩
  | inlineBitset =>
    have hlt : 15 < 23 := by decide
    exact ⟨15, hlt, rfl⟩

variable {kind traceType}

/-- Each instruction of a probe has its effect on the slots of the probe. -/
theorem ProbeKind.rise_succ {id : UInt32} {method : String} {i : Instruction}
    (h : ((⟨kind, traceType⟩ : Probe).code id method)[n]? = some i) :
    ∃ e, i.effect? = some e ∧ e.pops ≤ kind.rise n ∧
      kind.rise (n + 1) = kind.rise n - e.pops + e.pushes :=
  getD_climb_succ (climb_code kind traceType id method) h

/-- **A probe never touches the slots below it**: wherever it has come to, its own
slots lie on top of what was there, and what these are does not depend on that. -/
theorem Stack.Machine.run_take_code {t : Tracing} (ht : t.Ready) {id : UInt32}
    (hid : id.toNat < 2 ^ 31) (method : String)
    (hn : n ≤ (⟨kind, traceType⟩ : Probe).length) :
    ∃ own t', own.length = kind.rise n ∧ ∀ stack : List Stack.Slot,
      (⟨stack, t⟩ : Stack.Machine).run traceType
          (((⟨kind, traceType⟩ : Probe).code id method).take n)
        = some ⟨own ++ stack, t'⟩ := by
  have hlength := (⟨kind, traceType⟩ : Probe).length_code id method
  -- on an empty stack the probe runs to its end, so also to `n`
  have hrun := run_code ht kind hid traceType method []
  rw [← List.take_append_drop n ((⟨kind, traceType⟩ : Probe).code id method), run_append] at hrun
  obtain ⟨⟨own, t'⟩, htake, -⟩ := Option.bind_eq_some_iff.mp hrun
  refine ⟨own, t', ?_, ?_⟩
  · apply length_run_take (m := ⟨[], t⟩) (climb_code kind traceType id method) htake
    rw [hlength]
    exact hn
  · intro stack
    exact run_above htake stack

end

end BranchCoverage
