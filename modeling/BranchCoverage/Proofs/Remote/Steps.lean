/-
The steps of a controller.

A step is one on the bench, which leaves no trace of the agent in the journal
(`Bench.Local`), or it is one of the conversation.  A run that warms up is one
more test and then a run that does not (`attempt_warmUp`).
-/
import BranchCoverage.Proofs.ForkServer.Steps
import BranchCoverage.Remote.Controller

namespace BranchCoverage

/-! ### Acts of the bench -/

namespace Act

/-- Whether an act is one on the bench, and not one of the conversation with an
agent. -/
def isLocal : Act → Bool
  | .started _ | .answered _ | .judged .. | .merged _ => false
  | _ => true

end Act

namespace Bench

variable {σ α ε : Type} {b b' : Bench σ}

/-- Only acts on the bench have been added to the journal. -/
def Grown (b b' : Bench σ) : Prop :=
  ∃ acts, b'.acts = b.acts ++ acts ∧ ∀ act ∈ acts, act.isLocal

theorem Grown.of_eq (h : b'.journal = b.journal) : b.Grown b' :=
  ⟨[], acts_append [] h, fun _ hact => absurd hact List.not_mem_nil⟩

theorem Grown.of_cons {act : Act} (h : b'.journal = act :: b.journal) (hlocal : act.isLocal) :
    b.Grown b' :=
  ⟨[act], acts_append [act] h, fun _ hact => List.mem_singleton.mp hact ▸ hlocal⟩

/-- A step on the bench adds such acts only, whether it succeeds or fails. -/
def Local (step : EStateM ε (Bench σ) α) : Prop :=
  ∀ b, Ends (fun _ => b.Grown) (fun _ => b.Grown) (step b)

theorem local_log (level : Level) (message : String) :
    Local (log level message : EStateM ε (Bench σ) Unit) :=
  fun _ => .of_cons rfl rfl

theorem local_report (fail : IoError → ε) (word : Int32) :
    Local (report fail word : EStateM ε (Bench σ) Unit) := by
  intro b
  rw [report]
  rcases b.status.writeWord word with ⟨e | -, status⟩
  · exact .of_eq rfl
  · exact .of_cons rfl rfl

theorem local_awaitPing (fail : IoError → ε) :
    Local (awaitPing fail : EStateM ε (Bench σ) Bool) := by
  intro b
  rw [awaitPing]
  rcases b.control.readWord with ⟨(- | reason) | word, control⟩
  · exact .of_eq rfl
  · exact .of_eq rfl
  · exact .of_cons rfl rfl

theorem local_readInput (fail : IoError → ε) :
    Local (readInput fail : EStateM ε (Bench σ) ByteArray) := by
  intro b
  obtain ⟨control, status, inputs, tracing, memory, journal⟩ := b
  rcases inputs with - | ⟨reason | data, inputs⟩
  · exact .of_cons rfl rfl
  · exact .of_eq rfl
  · exact .of_cons rfl rfl

theorem local_execute (harness : Harness σ) (data : ByteArray) :
    Local (execute harness data : EStateM ε (Bench σ) Fault) := by
  intro b
  rw [execute_eq]
  refine ⟨_, acts_append _ rfl, fun act hact => ?_⟩
  rcases List.mem_append.mp hact with hbefore | hlast
  · rcases List.mem_cons.mp hbefore with rfl | haside
    · rfl
    · rcases mem_asides haside with ⟨notice, rfl⟩ | ⟨line, rfl⟩ <;> rfl
  · rw [List.mem_singleton.mp hlast]
    rfl

end Bench

/-! ### Runs -/

namespace Controller

variable {σ : Type}

/-- What follows the local half of a run: its report is fetched and judged, and
merged or the run is made again. -/
def settle (harness : Harness σ) (judge : Judge σ) (collect : Bool) (run : Nat)
    (data : ByteArray) (limit : Nat) (fault : Fault) : Relaying σ Fault := do
  let report ← fetch
  if ← assess judge run report then
    mergeReport report
    pure (worse fault report)
  else
    onBench (Bench.log .info s!"Results of run {run} were not accepted, repeating it")
    let _ ← start collect
    attempt harness judge collect run data limit false

variable (harness : Harness σ) (judge : Judge σ) (collect : Bool) (run : Nat) (data : ByteArray)
  (limit : Nat)

theorem attempt_succ : attempt harness judge collect run data (limit + 1) false = (do
    let fault ← onBench (Bench.execute harness data)
    settle harness judge collect run data limit fault) :=
  rfl

/-- To warm up is to make the run once for nothing. -/
theorem attempt_warmUp : attempt harness judge collect run data (limit + 1) true = (do
    let _ ← onBench (Bench.execute harness data)
    let _ ← fetch
    let _ ← start collect
    attempt harness judge collect run data (limit + 1) false) :=
  rfl

end Controller

end BranchCoverage
