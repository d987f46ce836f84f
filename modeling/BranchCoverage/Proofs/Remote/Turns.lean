/-
A conversation from the agent's point of view.

The agent has the code under test in its process.  A start makes it forget, a run
of the code makes hits, and it is asked for what they come to.  `Answers` says
that the bytes from an agent are the answers to such turns, each report being
about the hits since the last start.  There always are such bytes
(`answers_replies`).
-/
import BranchCoverage.Proofs.ForkServer.Steps
import BranchCoverage.Proofs.Remote.Framing
import BranchCoverage.Proofs.Trace.Merge

namespace BranchCoverage

/-- What a controller does during a conversation. -/
inductive Turn where
  | start
  | run (data : ByteArray)
  | request

namespace Turn

/-- The turns of a test with one run. -/
def test (data : ByteArray) : List Turn :=
  [.start, .run data, .request]

/-- The input of a run. -/
def data? : Turn → Option ByteArray
  | .run data => some data
  | _ => none

/-- The runs of tests are on the inputs that are tested. -/
theorem filterMap_test (inputs : List ByteArray) :
    (inputs.flatMap test).filterMap data? = inputs := by
  induction inputs with
  | nil => rfl
  | cons data rest ih => exact congrArg (data :: ·) ih

end Turn

/-- The map that hits leave of one with nothing recorded. -/
def Replay.coverage (registered : Nat → Bool) (hits : List Hit) : CoverageMap :=
  (hits.foldl (Replay.hit registered) { map := .zero }).map

theorem Replay.size_coverage (registered : Nat → Bool) (hits : List Hit) :
    (coverage registered hits).size = mapSize :=
  (size_foldl_hit hits _).trans Array.size_replicate

section

variable {σ : Type} (harness : Harness σ) (registered : Nat → Bool) (pid : Int32)

/-- What comes from an agent answers the turns: a start with the process id of
the agent, and a request with no fault and the coverage of the hits since the
last start, which so far are these. -/
def Answers : List Turn → σ → List Hit → Source → Prop
  | [], _, _, _ => True
  | .start :: rest, memory, _, s =>
    ∃ s', s.readWord = (.ok pid, s') ∧ Answers rest memory [] s'
  | .run data :: rest, memory, hits, s =>
    Answers rest (harness memory data).2 (hits ++ (harness memory data).1.hits) s
  | .request :: rest, memory, hits, s =>
    ∃ locations s',
      Report.read s = (.ok ⟨0, Replay.coverage registered hits, locations⟩, s') ∧
        Answers rest memory hits s'

/-- The bytes of an agent that has no locations to report. -/
def replies : List Turn → σ → List Hit → List UInt8
  | [], _, _ => []
  | .start :: rest, memory, _ => Word.encode pid ++ replies rest memory []
  | .run data :: rest, memory, hits =>
    replies rest (harness memory data).2 (hits ++ (harness memory data).1.hits)
  | .request :: rest, memory, hits =>
    Word.encode 0 ++ ((Replay.coverage registered hits).toList ++
      (Word.encode 0 ++ replies rest memory hits))

/-- A report without locations is read. -/
theorem read_report {coverage : CoverageMap} (h : coverage.size = mapSize) (rest : List UInt8)
    (failure : Option String) :
    Report.read ⟨Word.encode 0 ++ (coverage.toList ++ (Word.encode 0 ++ rest)), failure⟩
      = (.ok ⟨0, coverage, ""⟩, ⟨rest, failure⟩) := by
  have hreadable : Report.Readable ⟨0, coverage, ""⟩ := ⟨h, Nat.zero_le _⟩
  have hread := (Report.frames_read hreadable (.inl rfl)).takes rest failure
  rw [Report.wire, List.append_assoc, List.append_assoc, List.append_assoc] at hread
  exact hread

/-- **Whatever the turns are, they can be answered.** -/
theorem answers_replies (turns : List Turn) (memory : σ) (hits : List Hit)
    (failure : Option String) :
    Answers harness registered pid turns memory hits
      ⟨replies harness registered pid turns memory hits, failure⟩ := by
  induction turns generalizing memory hits with
  | nil => trivial
  | cons turn rest ih =>
    cases turn with
    | start => exact ⟨_, Source.readWord_encode pid _ failure, ih memory []⟩
    | run data => exact ih _ _
    | request =>
      exact ⟨"", _, read_report (Replay.size_coverage registered hits) _ failure, ih memory hits⟩

end

/-! ### Turns in a journal -/

/-- The turn that an act is. -/
def Act.turn? : Act → Option Turn
  | .started _ => some .start
  | .called data => some (.run data)
  | .answered _ => some .request
  | _ => none

namespace Bench

variable {σ : Type} {b b' : Bench σ}

/-- The turns of the conversation so far. -/
def turns (b : Bench σ) : List Turn :=
  b.acts.filterMap Act.turn?

theorem turns_append (acts : List Act) (h : b'.journal = acts.reverse ++ b.journal) :
    b'.turns = b.turns ++ acts.filterMap Act.turn? := by
  rw [turns, acts_append acts h, List.filterMap_append]
  rfl

/-- Calling the harness is a turn. -/
theorem turns_execute {ε : Type} {harness : Harness σ} {data : ByteArray} {fault : Fault}
    (h : (execute harness data b : EStateM.Result ε (Bench σ) Fault) = .ok fault b') :
    b'.turns = b.turns ++ [.run data] := by
  rw [execute_eq] at h
  cases h
  have hside := filterMap_asides Act.turn? (fun _ => rfl) (fun _ => rfl) harness data b
  refine (turns_append _ rfl).trans ?_
  show b.turns ++ .run data :: (asides harness data b ++ [Act.finished _]).filterMap Act.turn? = _
  rw [List.filterMap_append, hside]
  rfl

/-- The harness was called in the runs of the conversation, and not otherwise. -/
theorem calls_eq_turns (b : Bench σ) : b.calls = b.turns.filterMap Turn.data? := by
  rw [calls, turns, List.filterMap_filterMap]
  refine congrArg (fun f => b.acts.filterMap f) (funext fun act => ?_)
  cases act <;> rfl

end Bench

end BranchCoverage
