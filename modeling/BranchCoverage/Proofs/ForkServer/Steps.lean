/-
The steps of a bench when nothing fails.

Each step has one lemma that says what becomes of the bench.  Of the journal
only the inputs matter, those read (`Bench.reads`) and those that the harness
was called on (`Bench.calls`).
-/
import BranchCoverage.ForkServer
import BranchCoverage.Proofs.Step

namespace BranchCoverage

/-! ### Journals -/

namespace Act

/-- The input that an act reads. -/
def read? : Act → Option ByteArray
  | .read data => some data
  | _ => none

/-- The input that an act calls the harness on. -/
def called? : Act → Option ByteArray
  | .called data => some data
  | _ => none

end Act

namespace Bench

variable {σ ε : Type} {b b' : Bench σ}

/-- The inputs that were read. -/
def reads (b : Bench σ) : List ByteArray :=
  b.acts.filterMap Act.read?

/-- The inputs that the harness was called on. -/
def calls (b : Bench σ) : List ByteArray :=
  b.acts.filterMap Act.called?

/-- A journal that has grown by acts. -/
theorem acts_append (acts : List Act) (h : b'.journal = acts.reverse ++ b.journal) :
    b'.acts = b.acts ++ acts := by
  rw [Bench.acts, Bench.acts, h, List.reverse_append, List.reverse_reverse]

theorem reads_append (acts : List Act) (h : b'.journal = acts.reverse ++ b.journal) :
    b'.reads = b.reads ++ acts.filterMap Act.read? := by
  rw [reads, acts_append acts h, List.filterMap_append]
  rfl

theorem calls_append (acts : List Act) (h : b'.journal = acts.reverse ++ b.journal) :
    b'.calls = b.calls ++ acts.filterMap Act.called? := by
  rw [calls, acts_append acts h, List.filterMap_append]
  rfl

/-- Nothing is read by acts of other kinds. -/
theorem reads_eq (acts : List Act) (h : b'.journal = acts.reverse ++ b.journal)
    (hnone : acts.filterMap Act.read? = []) : b'.reads = b.reads := by
  rw [reads_append acts h, hnone, List.append_nil]

/-- Nothing is called by acts of other kinds. -/
theorem calls_eq (acts : List Act) (h : b'.journal = acts.reverse ++ b.journal)
    (hnone : acts.filterMap Act.called? = []) : b'.calls = b.calls := by
  rw [calls_append acts h, hnone, List.append_nil]

/-! ### Channels -/

theorem report_of_limit (h : b.status.limit = none) (fail : IoError → ε) (word : Int32) :
    report fail word b = .ok ()
      ({ b with status := ⟨b.status.sent ++ Word.encode word, none⟩ }.record (.reported word)) := by
  have hwrite : b.status.writeWord word = (.ok (), ⟨b.status.sent ++ Word.encode word, none⟩) := by
    rw [Outlet.writeWord, Outlet.write, h]
  rw [report, hwrite]

/-- While there are four bytes, there is a ping. -/
theorem awaitPing_of_le (h : 4 ≤ b.control.bytes.length) (fail : IoError → ε) :
    awaitPing fail b = .ok true
      ({ b with control.bytes := b.control.bytes.drop 4 }.record .pinged) := by
  obtain ⟨⟨bytes, failure⟩, status, inputs, tracing, memory, journal⟩ := b
  match bytes, h with
  | x :: y :: z :: w :: rest, _ => rfl

/-- Fewer bytes are the end of the pipe. -/
theorem awaitPing_of_lt (h : b.control.bytes.length < 4) (hfailure : b.control.failure = none)
    (fail : IoError → ε) :
    awaitPing fail b = .ok false { b with control.bytes := [] } := by
  obtain ⟨⟨bytes, failure⟩, status, inputs, tracing, memory, journal⟩ := b
  cases hfailure
  match bytes, h with
  | [], _ => rfl
  | [_], _ => rfl
  | [_, _], _ => rfl
  | [_, _, _], _ => rfl

/-- The next of the inputs is read, or an empty one. -/
theorem readInput_of_ok {inputs : List ByteArray} (h : b.inputs = inputs.map .ok)
    (fail : IoError → ε) :
    readInput fail b = .ok (inputs.headD .empty)
      ({ b with inputs := inputs.tail.map .ok }.record (.read (inputs.headD .empty))) := by
  obtain ⟨control, status, queue, tracing, memory, journal⟩ := b
  cases h
  cases inputs <;> rfl

/-! ### Harnesses -/

/-- What a call of the harness changes. -/
structure Called (harness : Harness σ) (data : ByteArray) (b b' : Bench σ) : Prop where
  control : b'.control = b.control
  status : b'.status = b.status
  inputs : b'.inputs = b.inputs
  tracing : b'.tracing = (b.tracing.play (harness b.memory data).1.hits).1
  memory : b'.memory = (harness b.memory data).2
  reads : b'.reads = b.reads
  calls : b'.calls = b.calls ++ [data]

/-- What is added to the journal between the beginning of a call and its end. -/
def asides (harness : Harness σ) (data : ByteArray) (b : Bench σ) : List Act :=
  (b.tracing.play (harness b.memory data).1.hits).2.map .noticed ++
    (harness b.memory data).1.log.map .logged

/-- These acts are notices and lines for the log. -/
theorem mem_asides {harness : Harness σ} {data : ByteArray} {act : Act}
    (h : act ∈ asides harness data b) :
    (∃ notice, act = .noticed notice) ∨ ∃ line, act = .logged line := by
  rcases List.mem_append.mp h with hnotice | hline
  · obtain ⟨notice, -, rfl⟩ := List.mem_map.mp hnotice
    exact .inl ⟨notice, rfl⟩
  · obtain ⟨line, -, rfl⟩ := List.mem_map.mp hline
    exact .inr ⟨line, rfl⟩

/-- They are not what is looked for elsewhere. -/
theorem filterMap_asides {β : Type} (f : Act → Option β)
    (hnoticed : ∀ notice, f (.noticed notice) = none) (hlogged : ∀ line, f (.logged line) = none)
    (harness : Harness σ) (data : ByteArray) (b : Bench σ) :
    (asides harness data b).filterMap f = [] := by
  refine List.filterMap_eq_nil_iff.mpr fun act hact => ?_
  rcases mem_asides hact with ⟨notice, rfl⟩ | ⟨line, rfl⟩
  · exact hnoticed notice
  · exact hlogged line

theorem execute_eq (harness : Harness σ) (data : ByteArray) (b : Bench σ) :
    (execute harness data b : EStateM.Result ε (Bench σ) Fault)
      = .ok (harness b.memory data).1.fault
        { b with
          tracing := (b.tracing.play (harness b.memory data).1.hits).1
          memory := (harness b.memory data).2
          journal := (Act.called data :: asides harness data b ++
            [Act.finished (harness b.memory data).1.fault]).reverse ++ b.journal } := by
  simp [execute, call, asides]

theorem execute_called (ε : Type) (harness : Harness σ) (data : ByteArray) (b : Bench σ) :
    ∃ b', (execute harness data b : EStateM.Result ε (Bench σ) Fault)
        = .ok (harness b.memory data).1.fault b' ∧ Called harness data b b' := by
  refine ⟨_, execute_eq harness data b, rfl, rfl, rfl, rfl, rfl, ?_, ?_⟩
  · have hside := filterMap_asides Act.read? (fun _ => rfl) (fun _ => rfl) harness data b
    refine Bench.reads_eq _ rfl ?_
    show (asides harness data b ++ [Act.finished _]).filterMap Act.read? = []
    rw [List.filterMap_append, hside]
    rfl
  · have hside := filterMap_asides Act.called? (fun _ => rfl) (fun _ => rfl) harness data b
    refine (Bench.calls_append _ rfl).trans ?_
    show b.calls ++ data :: (asides harness data b ++ [Act.finished _]).filterMap Act.called? = _
    rw [List.filterMap_append, hside]
    rfl

end Bench

end BranchCoverage
