/-
What the driver, the agent and the code under test see of a controller.

What is done between two states of a controller is told by the steps in its
journal, and these are borne out by what was written, read and heard (`Took`): each
step of the program adds one or two of them (`report_took`, `execute_took` and so
on).  Put together they are the steps of a run, which is known by its tests
(`attempt_took`, `attempt_warmUp_took`), and then those of all runs (`rounds_took`).
The tests come about by calls of the harness and of the judge, each on the memory
that the one before has left (`Happen`).

From the steps of a run it can be read off what is told to the driver, how often the
harness is called and what the judge is asked (`conducts_serve`).
-/
import BranchCoverage.Proofs.ForkServer.Script
import BranchCoverage.Proofs.Remote.Refinement

namespace BranchCoverage

/-! ### What steps are borne out by -/

/-- These inputs were read off the inputs to come, and empty ones when no more were
left. -/
structure Fed (reads : List ByteArray) (inputs rest : List (Except String ByteArray)) :
    Prop where
  read : ∀ (i : Nat) (data : ByteArray), reads[i]? = some data →
    inputs[i]?.getD (.ok .empty) = .ok data
  rest : rest = inputs.drop reads.length

theorem Fed.refl (inputs : List (Except String ByteArray)) : Fed [] inputs inputs where
  read := by
    intro i data h
    cases h
  rest := rfl

theorem Fed.singleton {data : ByteArray} {inputs : List (Except String ByteArray)}
    (h : inputs[0]?.getD (.ok .empty) = .ok data) : Fed [data] inputs (inputs.drop 1) where
  read := by
    intro i x hi
    rcases i with - | i
    · cases hi
      exact h
    · cases hi
  rest := rfl

theorem Fed.trans {reads more : List ByteArray} {inputs rest last : List (Except String ByteArray)}
    (h : Fed reads inputs rest) (h' : Fed more rest last) : Fed (reads ++ more) inputs last where
  read := by
    intro i data hi
    rcases Nat.lt_or_ge i reads.length with hlt | hge
    · rw [List.getElem?_append_left hlt] at hi
      exact h.read i data hi
    · rw [List.getElem?_append_right hge] at hi
      have hnext := h'.read _ data hi
      rw [h.rest, List.getElem?_drop, Nat.add_sub_cancel' hge] at hnext
      exact hnext
  rest := by
    rw [h'.rest, h.rest, List.drop_drop, List.length_append]

/-- The agent's side of steps: what it answered to a start, and the reports that it
sent, were read off what comes from it. -/
def Heard : List Act → Source → Source → Prop
  | [], s, s' => s' = s
  | .started pid :: acts, s, s' => ∃ mid, s.readWord = (.ok pid, mid) ∧ Heard acts mid s'
  | .answered report :: acts, s, s' =>
    ∃ mid, Report.read s = (.ok report, mid) ∧ Heard acts mid s'
  | _ :: acts, s, s' => Heard acts s s'

theorem Heard.trans {acts more : List Act} {s s' s'' : Source} (h : Heard acts s s')
    (h' : Heard more s' s'') : Heard (acts ++ more) s s'' := by
  induction acts generalizing s with
  | nil =>
    cases h
    exact h'
  | cons act rest ih =>
    cases act with
    | started pid =>
      obtain ⟨mid, hword, hrest⟩ := h
      exact ⟨mid, hword, ih hrest⟩
    | answered report =>
      obtain ⟨mid, hread, hrest⟩ := h
      exact ⟨mid, hread, ih hrest⟩
    | _ => exact ih h

/-- Acts by which the driver is not concerned. -/
structure Silent (acts : List Act) : Prop where
  words : Act.words acts = []
  pings : Act.pings acts = 0
  reads : Act.reads acts = []

theorem Silent.append {acts more : List Act} (h : Silent acts) (h' : Silent more) :
    Silent (acts ++ more) where
  words := by rw [Act.words_append, h.words, h'.words, List.append_nil]
  pings := by rw [Act.pings_append, h.pings, h'.pings]
  reads := by rw [Act.reads_append, h.reads, h'.reads, List.append_nil]

theorem Silent.flatMap {α : Type} {f : α → List Act} (h : ∀ a, Silent (f a)) (l : List α) :
    Silent (l.flatMap f) := by
  induction l with
  | nil => exact ⟨rfl, rfl, rfl⟩
  | cons a rest ih => exact (h a).append ih

/-- These steps were taken between two states of a relay. -/
structure Took {σ : Type} (acts : List Act) (r r' : Relay σ) : Prop where
  steps : r'.bench.steps = r.bench.steps ++ acts
  sent : r'.bench.status.sent
    = r.bench.status.sent ++ (Act.words acts).flatMap Word.encode
  pings : r.bench.pings = Act.pings acts + r'.bench.pings
  inputs : Fed (Act.reads acts) r.bench.inputs r'.bench.inputs
  heard : Heard acts r.link.incoming r'.link.incoming

namespace Took

variable {σ : Type} {acts more : List Act} {r r' r'' : Relay σ}

theorem trans (h : Took acts r r') (h' : Took more r' r'') : Took (acts ++ more) r r'' where
  steps := by rw [h'.steps, h.steps, List.append_assoc]
  sent := by
    rw [h'.sent, h.sent, List.append_assoc, Act.words_append, List.flatMap_append]
  pings := by
    rw [h.pings, h'.pings, Act.pings_append, Nat.add_assoc]
  inputs := by
    rw [Act.reads_append]
    exact h.inputs.trans h'.inputs
  heard := h.heard.trans h'.heard

/-- Silent steps leave the pipes to the driver and the inputs as they are. -/
theorem of_bench (all : List Act) {tracing : Tracing} {memory : σ}
    (hbench : r'.bench = { r.bench with
      tracing, memory, journal := all.reverse ++ r.bench.journal })
    (hacts : all.filterMap Act.step? = acts) (hsilent : Silent acts)
    (hheard : Heard acts r.link.incoming r'.link.incoming) : Took acts r r' := by
  refine ⟨?_, ?_, ?_, ?_, hheard⟩
  · rw [← hacts]
    exact Bench.steps_append all (congrArg Bench.journal hbench)
  · rw [hsilent.words, hbench, List.flatMap_nil, List.append_nil]
  · rw [hsilent.pings, hbench, Nat.zero_add]
    rfl
  · rw [hsilent.reads, hbench]
    exact Fed.refl _

end Took

namespace Controller

variable {σ : Type} {r : Relay σ}

/-! ### Steps of the program -/

section

variable (harness : Harness σ) (judge : Judge σ) (data : ByteArray) (run : Nat) (report : Report)

theorem log_took (level : Level) (message : String) :
    Ends (fun _ r' => Took [] r r' ∧ r'.bench.memory = r.bench.memory) (fun _ _ => True)
      (onBench (Bench.log level message) r) := by
  show Took [] r { r with bench := r.bench.record (.logged ⟨level, message⟩) } ∧ _
  exact ⟨.of_bench [.logged ⟨level, message⟩] rfl rfl ⟨rfl, rfl, rfl⟩ rfl, rfl⟩

theorem report_took (fail : IoError → RelayError) (word : Int32) :
    Ends (fun _ r' => Took [.reported word] r r' ∧ r'.bench.memory = r.bench.memory)
      (fun _ _ => True) (onBench (Bench.report fail word) r) := by
  rw [onBench, Bench.report]
  rcases Outlet.writeWord_cases word r.bench.status with hwrite | ⟨e, part, -, -, hwrite⟩ <;>
    rw [hwrite]
  · refine ⟨?_, rfl⟩
    exact {
      steps := Bench.steps_append (b := r.bench) [.reported word] rfl
      sent := congrArg (r.bench.status.sent ++ ·) (List.append_nil _).symm
      pings := (Nat.zero_add _).symm
      inputs := Fed.refl _
      heard := rfl }
  · trivial

/-- A ping is read, or there are no more. -/
theorem awaitPing_took (fail : IoError → RelayError) :
    Ends (fun pinged r' => Took (if pinged then [.pinged] else []) r r' ∧
        (pinged = false → r'.bench.pings = 0) ∧ r'.bench.memory = r.bench.memory)
      (fun _ _ => True) (onBench (Bench.awaitPing fail) r) := by
  rcases Nat.lt_or_ge r.bench.control.bytes.length 4 with hlt | hge
  · -- less than a ping is taken off the pipe, and that is its end or the last error
    rcases hfailure : r.bench.control.failure with - | reason
    · rw [onBench, Bench.awaitPing_of_lt hlt hfailure]
      refine ⟨?_, fun _ => Nat.zero_div 4, rfl⟩
      exact {
        steps := (List.append_nil _).symm
        sent := (List.append_nil _).symm
        pings := by
          show r.bench.control.bytes.length / 4 = 0 + 0 / 4
          omega
        inputs := Fed.refl _
        heard := rfl }
    · have hexhausted : r.bench.control.exhausted = .broken reason := by
        rw [Source.exhausted, hfailure]
      rw [onBench, Bench.awaitPing, Source.readWord_of_lt hlt, hexhausted]
      trivial
  · rw [onBench, Bench.awaitPing_of_le hge]
    refine ⟨?_, fun hfalse => absurd hfalse.symm Bool.false_ne_true, rfl⟩
    exact {
      steps := Bench.steps_append (b := r.bench) [.pinged] rfl
      sent := (List.append_nil _).symm
      pings := by
        show r.bench.control.bytes.length / 4 = 1 + (r.bench.control.bytes.drop 4).length / 4
        rw [List.length_drop]
        omega
      inputs := Fed.refl _
      heard := rfl }

theorem readInput_took (fail : IoError → RelayError) :
    Ends (fun data r' => Took [.read data] r r' ∧ r'.bench.memory = r.bench.memory)
      (fun _ _ => True) (onBench (Bench.readInput fail) r) := by
  obtain ⟨⟨control, status, inputs, tracing, memory, journal⟩, link, map⟩ := r
  rcases inputs with - | ⟨reason | data, inputs⟩
  · refine ⟨?_, rfl⟩
    exact {
      steps := Bench.steps_append [.read _] rfl
      sent := (List.append_nil _).symm
      pings := (Nat.zero_add _).symm
      inputs := Fed.singleton rfl
      heard := rfl }
  · trivial
  · refine ⟨?_, rfl⟩
    exact {
      steps := Bench.steps_append [.read _] rfl
      sent := (List.append_nil _).symm
      pings := (Nat.zero_add _).symm
      inputs := Fed.singleton rfl
      heard := rfl }

theorem execute_took :
    Ends (fun fault r' => fault = (harness r.bench.memory data).1.fault ∧
        Took [.called data, .finished fault] r r' ∧
        r'.bench.memory = (harness r.bench.memory data).2)
      (fun _ _ => True) (onBench (Bench.execute harness data) r) := by
  rw [onBench, Bench.execute_eq]
  refine ⟨rfl, ?_, rfl⟩
  refine .of_bench (Act.called data :: Bench.asides harness data r.bench ++
    [Act.finished (harness r.bench.memory data).1.fault]) rfl ?_
    ⟨rfl, rfl, rfl⟩ rfl
  have hside := Bench.filterMap_asides Act.step? (fun _ => rfl) (fun _ => rfl) harness data r.bench
  show Act.called data ::
    (Bench.asides harness data r.bench ++ [Act.finished _]).filterMap Act.step? = _
  rw [List.filterMap_append, hside]
  rfl

theorem send_incoming (word : Int32) (l : Link) :
    Ends (fun _ l' => l'.incoming = l.incoming) (fun _ _ => True) (Link.send word l) := by
  rw [Link.send]
  rcases l.outgoing.writeWord word with ⟨e | -, outgoing⟩
  · trivial
  · rfl

/-- The bench has no part in what is talked. -/
theorem talk_took {α : Type} {heard : α → Link → Prop} {step : Link.Talk α}
    (h : Ends heard (fun _ _ => True) (step r.link)) :
    Ends (fun a r' => ∃ link, heard a link ∧ r' = { r with link }) (fun _ _ => True)
      (talk step r) := by
  rw [talk]
  rcases hrun : step r.link with ⟨a, l⟩ | ⟨e, l⟩ <;> rw [hrun] at h
  · exact ⟨l, h, rfl⟩
  · trivial

theorem start_took (collect : Bool) :
    Ends (fun pid r' => Took [.started pid] r r' ∧ r'.bench.memory = r.bench.memory)
      (fun _ _ => True) (start collect r) := by
  have hword : Ends (fun pid l => r.link.incoming.readWord = (.ok pid, l.incoming))
      (fun _ _ => True) (Link.start collect r.link) := by
    rw [Link.start]
    refine (send_incoming _ r.link).bind ?_
    intro _ l hsame
    rw [Link.receive, hsame]
    rcases r.link.incoming.readWord with ⟨e | word, incoming⟩
    · trivial
    · rfl
  rw [start]
  refine (talk_took hword).bind ?_
  rintro pid _ ⟨link, hheard, rfl⟩
  exact ⟨.of_bench [.started pid] rfl rfl ⟨rfl, rfl, rfl⟩ ⟨_, hheard, rfl⟩, rfl⟩

theorem fetch_took :
    Ends (fun report r' => Took [.answered report] r r' ∧ r'.bench.memory = r.bench.memory)
      (fun _ _ => True) (fetch r) := by
  have hread : Ends (fun report l => Report.read r.link.incoming = (.ok report, l.incoming))
      (fun _ _ => True) (Link.status r.link) := by
    rw [Link.status]
    refine (send_incoming _ r.link).bind ?_
    intro _ l hsame
    rw [Link.receiveReport, hsame]
    rcases Report.read r.link.incoming with ⟨e | report, incoming⟩
    · trivial
    · rfl
  rw [fetch]
  refine (talk_took hread).bind ?_
  rintro report _ ⟨link, hheard, rfl⟩
  exact ⟨.of_bench [.answered report] rfl rfl ⟨rfl, rfl, rfl⟩ ⟨_, hheard, rfl⟩, rfl⟩

theorem stop_took :
    Ends (fun _ r' => Took [] r r' ∧ r'.bench.memory = r.bench.memory)
      (fun _ _ => True) (talk Link.stop r) := by
  refine (talk_took (send_incoming _ r.link)).imp ?_ fun _ _ => id
  rintro _ _ ⟨link, hheard, rfl⟩
  exact ⟨.of_bench [] rfl rfl ⟨rfl, rfl, rfl⟩ hheard, rfl⟩

theorem assess_took :
    Ends (fun accepted r' => Took [.judged run report accepted] r r' ∧
        judge r.bench.memory run report.locations = (accepted, r'.bench.memory))
      (fun _ _ => True) (assess judge run report r) := by
  rw [assess]
  rcases judge r.bench.memory run report.locations with ⟨accepted, memory⟩
  exact ⟨.of_bench [.judged run report accepted] rfl rfl ⟨rfl, rfl, rfl⟩ rfl, rfl⟩

theorem mergeReport_took :
    Ends (fun _ r' => Took [.merged report] r r' ∧ r'.bench.memory = r.bench.memory)
      (fun _ _ => True) (mergeReport report r) := by
  rw [mergeReport]
  rcases merge r.map report.coverage with e | map
  · trivial
  · exact ⟨.of_bench [.merged report] rfl rfl ⟨rfl, rfl, rfl⟩ rfl, rfl⟩

end

/-! ### Tests and runs -/

/-- A test: what the code under test did, and what the agent reported. -/
structure Test where
  execution : Execution
  report : Report

/-- A test that was made again, and what the agent answered to the new start. -/
structure Repeated extends Test where
  restart : Int32

/-- A run: what the agent answered to its first start, its input, the test that warms
up, the tests whose reports were rejected, and the one whose report was accepted. -/
structure Run where
  pid : Int32
  data : ByteArray
  warmUp : Option Repeated
  rejected : List Repeated
  accepted : Test

/-- The code of the fault of a run: that of the fault that the agent reported, if it
reported any, and otherwise a crash if the last execution panicked. -/
def Run.code (run : Run) : Int32 :=
  let remote := Fault.ofCode run.accepted.report.fault
  if remote = .none then
    if run.accepted.execution.panic.isSome then 2 else 0
  else remote.code

theorem code_worse (run : Run) :
    (worse run.accepted.execution.fault run.accepted.report).code = run.code := by
  rw [worse, Run.code, Execution.fault]
  rcases Fault.ofCode run.accepted.report.fault with - | - | -
  · cases run.accepted.execution.panic <;> rfl
  · rfl
  · rfl

/-- The steps of a test behind its start. -/
def Test.steps (data : ByteArray) (test : Test) : List Act :=
  [.called data, .finished test.execution.fault, .answered test.report]

/-- The steps of the test that warms up. -/
def Repeated.warming (data : ByteArray) (test : Repeated) : List Act :=
  test.steps data ++ [.started test.restart]

/-- The steps of a test whose report was rejected. -/
def Repeated.rejection (number : Nat) (data : ByteArray) (test : Repeated) : List Act :=
  test.steps data ++ [.judged number test.report false, .started test.restart]

/-- The steps of the test whose report was accepted. -/
def Test.acceptance (number : Nat) (data : ByteArray) (test : Test) : List Act :=
  test.steps data ++ [.judged number test.report true, .merged test.report]

/-- The steps of the tests of a run. -/
def Run.testing (number : Nat) (run : Run) : List Act :=
  run.warmUp.toList.flatMap (Repeated.warming run.data) ++
    (run.rejected.flatMap (Repeated.rejection number run.data) ++
      run.accepted.acceptance number run.data)

/-- The steps of the run with this number. -/
def Run.steps (number : Nat) (run : Run) : List Act :=
  [.started run.pid, .pinged, .reported run.pid, .read run.data] ++
    (run.testing number ++ [.reported run.code])

/-- The steps of runs, the first of which has this number. -/
def script : (number : Nat) → List Run → List Act
  | _, [] => []
  | number, run :: rest => run.steps number ++ script (number + 1) rest

section

variable (harness : Harness σ) (judge : Judge σ) (number : Nat) (data : ByteArray)

/-- Between these memories the test was made and its report judged so. -/
def Test.Judged (verdict : Bool) (test : Test) (memory after : σ) : Prop :=
  ∃ mid, harness memory data = (test.execution, mid) ∧
    judge mid number test.report.locations = (verdict, after)

/-- Between these memories the tests were made and their reports rejected. -/
def Rejects : List Repeated → σ → σ → Prop
  | [], memory, after => after = memory
  | test :: rest, memory, after =>
    ∃ mid, test.Judged harness judge number data false memory mid ∧ Rejects rest mid after

/-- Between these memories the test was made that warms up, if there was one. -/
def Warms : Option Repeated → σ → σ → Prop
  | none, memory, after => after = memory
  | some test, memory, after => harness memory data = (test.execution, after)

/-- Between these memories the tests of a run were made. -/
structure Run.Happens (run : Run) (memory after : σ) : Prop where
  warm : run.warmUp.isSome ↔ number = 1
  tests : ∃ warmed settled, Warms harness run.data run.warmUp memory warmed ∧
    Rejects harness judge number run.data run.rejected warmed settled ∧
    run.accepted.Judged harness judge number run.data true settled after

end

/-- Between these memories the tests of runs were made, the first of which has this
number. -/
def Happen (harness : Harness σ) (judge : Judge σ) : Nat → List Run → σ → σ → Prop
  | _, [], memory, after => after = memory
  | number, run :: rest, memory, after =>
    ∃ mid, run.Happens harness judge number memory mid ∧
      Happen harness judge (number + 1) rest mid after

/-! ### Runs of the program -/

section

variable (harness : Harness σ) (judge : Judge σ) (collect : Bool) (run : Nat) (data : ByteArray)

/-- **A run is made until its report is accepted.** -/
theorem attempt_took (limit : Nat) :
    Ends (fun fault r' => ∃ (rejected : List Repeated) (accepted : Test),
        fault = worse accepted.execution.fault accepted.report ∧
        Took (rejected.flatMap (Repeated.rejection run data) ++ accepted.acceptance run data)
          r r' ∧
        ∃ settled, Rejects harness judge run data rejected r.bench.memory settled ∧
          accepted.Judged harness judge run data true settled r'.bench.memory)
      (fun _ _ => True) (attempt harness judge collect run data limit false r) := by
  induction limit generalizing r with
  | zero => trivial
  | succ limit ih =>
    rw [attempt_succ]
    refine (execute_took harness data).bind ?_
    rintro _ r₁ ⟨rfl, h₁, hmemory₁⟩
    rw [settle]
    refine fetch_took.bind ?_
    rintro report r₂ ⟨h₂, hmemory₂⟩
    refine (assess_took judge run report).bind ?_
    rintro verdict r₃ ⟨h₃, hjudge⟩
    -- the judge finds the memory that the harness has left
    rw [hmemory₂, hmemory₁] at hjudge
    have htest := h₁.trans (h₂.trans h₃)
    cases verdict with
    | true =>
      refine (mergeReport_took report).bind ?_
      rintro _ r₄ ⟨h₄, hmemory₄⟩
      rw [← hmemory₄] at hjudge
      exact ⟨[], ⟨_, report⟩, rfl, htest.trans h₄, _, rfl, _, rfl, hjudge⟩
    | false =>
      refine (log_took _ _).bind ?_
      rintro _ r₄ ⟨h₄, hmemory₄⟩
      refine (start_took collect).bind ?_
      rintro pid r₅ ⟨h₅, hmemory₅⟩
      rw [← hmemory₄, ← hmemory₅] at hjudge
      -- the rejected test goes in front of those that follow
      refine ih.imp ?_ fun _ _ => id
      rintro fault r' ⟨rejected, accepted, hfault, h₆, settled, hrejects, haccepts⟩
      exact ⟨⟨⟨_, report⟩, pid⟩ :: rejected, accepted, hfault,
        htest.trans (h₄.trans (h₅.trans h₆)), settled, ⟨_, ⟨_, rfl, hjudge⟩, hrejects⟩, haccepts⟩

/-- To warm up is to make one test more. -/
theorem attempt_warmUp_took (limit : Nat) (first : Bool) :
    Ends (fun fault r' => ∃ (warmUp : Option Repeated) (rejected : List Repeated) (accepted : Test),
        fault = worse accepted.execution.fault accepted.report ∧
        Took (warmUp.toList.flatMap (Repeated.warming data) ++
          (rejected.flatMap (Repeated.rejection run data) ++ accepted.acceptance run data)) r r' ∧
        warmUp.isSome = first ∧
        ∃ warmed settled, Warms harness data warmUp r.bench.memory warmed ∧
          Rejects harness judge run data rejected warmed settled ∧
          accepted.Judged harness judge run data true settled r'.bench.memory)
      (fun _ _ => True) (attempt harness judge collect run data limit first r) := by
  cases first with
  | false =>
    refine (attempt_took harness judge collect run data limit).imp ?_ fun _ _ => id
    rintro fault r' ⟨rejected, accepted, hfault, htook, settled, hrejects, haccepts⟩
    exact ⟨none, rejected, accepted, hfault, htook, rfl, _, settled, rfl, hrejects, haccepts⟩
  | true =>
    cases limit with
    | zero => trivial
    | succ limit =>
      rw [attempt_warmUp]
      refine (execute_took harness data).bind ?_
      rintro _ r₁ ⟨rfl, h₁, hmemory₁⟩
      refine fetch_took.bind ?_
      rintro report r₂ ⟨h₂, hmemory₂⟩
      refine (start_took collect).bind ?_
      rintro pid r₃ ⟨h₃, hmemory₃⟩
      have hmemory := hmemory₃.trans (hmemory₂.trans hmemory₁)
      refine (attempt_took harness judge collect run data (limit + 1)).imp ?_ fun _ _ => id
      rintro fault r' ⟨rejected, accepted, hfault, h₄, settled, hrejects, haccepts⟩
      rw [hmemory] at hrejects
      exact ⟨some ⟨⟨_, report⟩, pid⟩, rejected, accepted, hfault,
        h₁.trans (h₂.trans (h₃.trans h₄)), rfl, _, settled, rfl, hrejects, haccepts⟩

/-- **The loop makes runs until there are no more pings**, and starts and fetches one
test more. -/
theorem rounds_took (limit done : Nat) :
    Ends (fun n r' => ∃ runs pid report, n = done + runs.length ∧
        Took (script (done + 1) runs ++ [.started pid, .answered report]) r r' ∧
        r'.bench.pings = 0 ∧
        Happen harness judge (done + 1) runs r.bench.memory r'.bench.memory)
      (fun _ _ => True) (rounds harness judge collect limit done r) := by
  induction limit generalizing done r with
  | zero => trivial
  | succ limit ih =>
    rw [rounds]
    refine (start_took collect).bind ?_
    rintro pid r₁ ⟨h₁, hmemory₁⟩
    refine (log_took _ _).bind ?_
    rintro _ r₂ ⟨h₂, hmemory₂⟩
    refine (awaitPing_took _).bind ?_
    rintro pinged r₃ ⟨h₃, hpings, hmemory₃⟩
    have hopened := h₁.trans (h₂.trans h₃)
    have hmemory := hmemory₃.trans (hmemory₂.trans hmemory₁)
    cases pinged with
    | true =>
      refine (report_took _ _).bind ?_
      rintro _ r₄ ⟨h₄, hmemory₄⟩
      refine (readInput_took _).bind ?_
      rintro data r₅ ⟨h₅, hmemory₅⟩
      have hget : (get : Relaying σ (Relay σ)) r₅ = .ok r₅ r₅ := rfl
      rw [bind_of_ok hget]
      refine (attempt_warmUp_took harness judge collect (done + 1) data _ (done == 0)).bind ?_
      rintro _ r₆ ⟨warmUp, rejected, accepted, rfl, h₆, hwarm, warmed, settled, hwarms, hrejects,
        haccepts⟩
      refine (log_took _ _).bind ?_
      rintro _ r₇ ⟨h₇, hmemory₇⟩
      refine (report_took _ _).bind ?_
      rintro _ r₈ ⟨h₈, hmemory₈⟩
      refine (ih (done + 1)).imp ?_ fun _ _ => id
      rintro n r' ⟨runs, last, report, hn, h₉, hend, hrest⟩
      -- the run goes in front of those that follow
      let made : Run := ⟨pid, data, warmUp, rejected, accepted⟩
      have hcode : (worse accepted.execution.fault accepted.report).code = made.code :=
        code_worse made
      rw [hcode] at h₈
      have hsteps : Took (made.steps (done + 1)) r r₈ :=
        hopened.trans (h₄.trans (h₅.trans (h₆.trans (h₇.trans h₈))))
      have hbegin := hmemory₅.trans (hmemory₄.trans hmemory)
      have hhappens : made.Happens harness judge (done + 1) r.bench.memory r₈.bench.memory := by
        rw [hbegin] at hwarms
        rw [hmemory₈, hmemory₇]
        refine ⟨?_, warmed, settled, hwarms, hrejects, haccepts⟩
        rw [hwarm]
        simp
      refine ⟨made :: runs, last, report, ?_, ?_, hend, _, hhappens, hrest⟩
      · rw [hn, List.length_cons]
        omega
      · rw [script, List.append_assoc]
        exact hsteps.trans h₉
    | false =>
      -- the test that was started for another ping is left open
      refine fetch_took.bind ?_
      rintro report r₄ ⟨h₄, hmemory₄⟩
      refine stop_took.bind ?_
      rintro _ r₅ ⟨h₅, hmemory₅⟩
      refine (log_took _ _).bind ?_
      rintro _ r₆ ⟨h₆, hmemory₆⟩
      have hclosed := h₄.trans (h₅.trans h₆)
      refine ⟨[], pid, report, rfl, hopened.trans hclosed, ?_, ?_⟩
      · have hpings₆ := hclosed.pings
        rw [hpings rfl] at hpings₆
        exact Nat.eq_zero_of_add_eq_zero_left hpings₆.symm
      · exact hmemory₆.trans (hmemory₅.trans (hmemory₄.trans hmemory))

end

/-! ### What can be read off the steps -/

/-- The number of the run and the locations that the judge is asked about. -/
def asked? : Act → Option (Nat × String)
  | .judged run report _ => some (run, report.locations)
  | _ => none

/-- The questions to the judge. -/
def asked (acts : List Act) : List (Nat × String) :=
  acts.filterMap asked?

theorem asked_append (acts more : List Act) : asked (acts ++ more) = asked acts ++ asked more :=
  List.filterMap_append

/-- The questions about a run: one for each of its reports that was not thrown away. -/
def Run.asked (number : Nat) (run : Run) : List (Nat × String) :=
  (run.rejected.map Repeated.toTest ++ [run.accepted]).map fun test =>
    (number, test.report.locations)

/-- The calls for a run: one for each of its tests. -/
def Run.calls (run : Run) : List ByteArray :=
  List.replicate (run.warmUp.toList.length + run.rejected.length + 1) run.data

theorem silent_testing (number : Nat) (run : Run) : Silent (run.testing number) :=
  (Silent.flatMap (fun _ => ⟨rfl, rfl, rfl⟩) _).append
    ((Silent.flatMap (fun _ => ⟨rfl, rfl, rfl⟩) _).append ⟨rfl, rfl, rfl⟩)

theorem words_steps (number : Nat) (run : Run) :
    Act.words (run.steps number) = [run.pid, run.code] := by
  rw [Run.steps, Act.words_append, Act.words_append, (silent_testing number run).words]
  rfl

theorem pings_steps (number : Nat) (run : Run) : Act.pings (run.steps number) = 1 := by
  rw [Run.steps, Act.pings_append, Act.pings_append, (silent_testing number run).pings]
  rfl

theorem reads_steps (number : Nat) (run : Run) : Act.reads (run.steps number) = [run.data] := by
  rw [Run.steps, Act.reads_append, Act.reads_append, (silent_testing number run).reads]
  rfl

/-- Every test of a run is one call. -/
theorem calls_tests {data : ByteArray} {f : Repeated → List Act}
    (h : ∀ test, Act.calls (f test) = [data]) (tests : List Repeated) :
    Act.calls (tests.flatMap f) = List.replicate tests.length data := by
  induction tests with
  | nil => rfl
  | cons test rest ih =>
    rw [List.flatMap_cons, Act.calls_append, h, ih]
    rfl

theorem calls_steps (number : Nat) (run : Run) : Act.calls (run.steps number) = run.calls := by
  have hwarm := calls_tests (f := Repeated.warming run.data) (fun _ => rfl) run.warmUp.toList
  have hrejected :=
    calls_tests (f := Repeated.rejection number run.data) (fun _ => rfl) run.rejected
  have haccepted : Act.calls (run.accepted.acceptance number run.data)
      = List.replicate 1 run.data := rfl
  rw [Run.steps, Run.testing, Act.calls_append, Act.calls_append, Act.calls_append,
    Act.calls_append, hwarm, hrejected, haccepted, List.replicate_append_replicate,
    List.replicate_append_replicate, ← Nat.add_assoc]
  exact List.append_nil _

theorem asked_steps (number : Nat) (run : Run) : asked (run.steps number) = run.asked number := by
  have hwarm : asked (run.warmUp.toList.flatMap (Repeated.warming run.data)) = [] := by
    cases run.warmUp <;> rfl
  have hrejected : asked (run.rejected.flatMap (Repeated.rejection number run.data))
      = (run.rejected.map Repeated.toTest).map fun test => (number, test.report.locations) := by
    induction run.rejected with
    | nil => rfl
    | cons test rest ih => exact congrArg ((number, test.report.locations) :: ·) ih
  rw [Run.steps, Run.testing, asked_append, asked_append, asked_append, asked_append, hwarm,
    hrejected, Run.asked, List.map_append]
  exact List.append_nil _

theorem pings_script (number : Nat) (runs : List Run) :
    Act.pings (script number runs) = runs.length := by
  induction runs generalizing number with
  | nil => rfl
  | cons run rest ih =>
    rw [script, Act.pings_append, pings_steps, ih, List.length_cons, Nat.add_comm]

/-- What the steps of each run show, whatever its number is, is shown by the script. -/
theorem filterMap_script {β : Type} {f : Act → Option β} {shown : Run → List β}
    (h : ∀ number run, (run.steps number).filterMap f = shown run) (number : Nat)
    (runs : List Run) : (script number runs).filterMap f = runs.flatMap shown := by
  induction runs generalizing number with
  | nil => rfl
  | cons run rest ih =>
    rw [script, List.filterMap_append, h, ih]
    rfl

/-- The steps of a controller that makes these runs: at the end there is a test left
open, for a ping that does not come. -/
def conduct (runs : List Run) (pid : Int32) (report : Report) : List Act :=
  .reported 0 :: script 1 runs ++ [.started pid, .answered report]

theorem words_conduct (runs : List Run) (pid : Int32) (report : Report) :
    Act.words (conduct runs pid report) = 0 :: runs.flatMap fun run => [run.pid, run.code] := by
  have hscript := filterMap_script words_steps 1 runs
  rw [conduct, Act.words_append]
  show 0 :: (script 1 runs).filterMap Act.word? ++ [] = _
  rw [hscript, List.append_nil]

theorem pings_conduct (runs : List Run) (pid : Int32) (report : Report) :
    Act.pings (conduct runs pid report) = runs.length := by
  rw [conduct, Act.pings_append]
  exact pings_script 1 runs

theorem reads_conduct (runs : List Run) (pid : Int32) (report : Report) :
    Act.reads (conduct runs pid report) = runs.map Run.data := by
  have hscript := filterMap_script reads_steps 1 runs
  rw [conduct, Act.reads_append]
  show (script 1 runs).filterMap Act.read? ++ [] = _
  rw [hscript, List.append_nil, List.map_eq_flatMap]

theorem calls_conduct (runs : List Run) (pid : Int32) (report : Report) :
    Act.calls (conduct runs pid report) = runs.flatMap Run.calls := by
  have hscript := filterMap_script calls_steps 1 runs
  rw [conduct, Act.calls_append]
  show (script 1 runs).filterMap Act.called? ++ [] = _
  rw [hscript, List.append_nil]

theorem asked_script (number : Nat) (runs : List Run) :
    asked (script number runs)
      = (runs.zipIdx number).flatMap fun numbered => numbered.1.asked numbered.2 := by
  induction runs generalizing number with
  | nil => rfl
  | cons run rest ih =>
    rw [script, asked_append, asked_steps, ih]
    rfl

theorem asked_conduct (runs : List Run) (pid : Int32) (report : Report) :
    asked (conduct runs pid report)
      = (runs.zipIdx 1).flatMap fun numbered => numbered.1.asked numbered.2 := by
  rw [conduct, asked_append]
  show asked (script 1 runs) ++ [] = _
  rw [asked_script, List.append_nil]

/-- Only run 1 warms up. -/
theorem Happen.warm {harness : Harness σ} {judge : Judge σ} {number : Nat} {runs : List Run}
    {memory after : σ} (h : Happen harness judge number runs memory after) (i : Nat) (run : Run)
    (hrun : runs[i]? = some run) : run.warmUp.isSome ↔ number + i = 1 := by
  induction runs generalizing number memory i with
  | nil => cases hrun
  | cons first rest ih =>
    obtain ⟨mid, hfirst, hrest⟩ := h
    cases i with
    | zero =>
      cases hrun
      exact hfirst.warm
    | succ i =>
      rw [ih hrest i hrun]
      omega

/-! ### Conduct -/

/-- What a controller that has made these runs has done from `r` to its end `r'`. -/
structure Conducts (harness : Harness σ) (judge : Judge σ) (r : Relay σ) (runs : List Run)
    (r' : Relay σ) : Prop where
  /-- There was a run for each ping. -/
  pings : runs.length = r.bench.control.bytes.length / 4
  /-- The first run warmed up, and no other one. -/
  warm : ∀ (i : Nat) (run : Run), runs[i]? = some run → (run.warmUp.isSome ↔ i = 0)
  /-- The driver was told 0, and then the process id and the fault of each run. -/
  told : r'.bench.status.sent = r.bench.status.sent ++
    (0 :: runs.flatMap fun run => [run.pid, run.code]).flatMap Word.encode
  /-- One input was read for each run. -/
  reads : r'.bench.reads = r.bench.reads ++ runs.map Run.data
  /-- These were the first ones in order. -/
  inputs : Fed (runs.map Run.data) r.bench.inputs r'.bench.inputs
  /-- The harness was called once for each test. -/
  calls : r'.bench.calls = r.bench.calls ++ runs.flatMap Run.calls
  /-- The judge was asked once about each report but the one on warming up. -/
  asked : asked r'.bench.acts = asked r.bench.acts ++
    (runs.zipIdx 1).flatMap fun numbered => numbered.1.asked numbered.2
  /-- The steps were those of the runs, and the process ids and reports in them are what
  the agent sent. -/
  steps : ∃ (pid : Int32) (report : Report),
    r'.bench.steps = r.bench.steps ++ conduct runs pid report ∧
      Heard (conduct runs pid report) r.link.incoming r'.link.incoming
  /-- The executions and verdicts were those of the harness and the judge. -/
  happen : Happen harness judge 1 runs r.bench.memory r'.bench.memory

/-- Nothing but steps is shown. -/
theorem filterMap_of_took {acts : List Act} {r r' : Relay σ} (h : Took acts r r') {β : Type}
    (f : Act → Option β) (hnoticed : ∀ notice, f (.noticed notice) = none)
    (hlogged : ∀ line, f (.logged line) = none) :
    r'.bench.acts.filterMap f = r.bench.acts.filterMap f ++ acts.filterMap f := by
  have hsteps := congrArg (List.filterMap f) h.steps
  rw [List.filterMap_append, Bench.steps, Bench.steps, Act.filterMap_steps f hnoticed hlogged,
    Act.filterMap_steps f hnoticed hlogged] at hsteps
  exact hsteps

theorem session_took (harness : Harness σ) (judge : Judge σ) (collect : Bool) (r : Relay σ) :
    Ends (fun n r' => ∃ runs pid report, n = runs.length ∧
        Took (conduct runs pid report) r r' ∧
        r'.bench.pings = 0 ∧ Happen harness judge 1 runs r.bench.memory r'.bench.memory)
      (fun _ _ => True) (session harness judge collect r) := by
  rw [session]
  refine (report_took _ _).bind ?_
  rintro _ r₁ ⟨h₁, hmemory₁⟩
  have hget : (get : Relaying σ (Relay σ)) r₁ = .ok r₁ r₁ := rfl
  rw [bind_of_ok hget]
  refine (rounds_took harness judge collect _ 0).imp ?_ fun _ _ => id
  rintro n r' ⟨runs, pid, report, hn, h₂, hend, hhappen⟩
  rw [hmemory₁] at hhappen
  exact ⟨runs, pid, report, hn.trans (Nat.zero_add _), h₁.trans h₂, hend, hhappen⟩

/-- **What is seen of a controller** that ends well, whatever the driver, the agent, the
harness and the judge do. -/
theorem conducts_serve (harness : Harness σ) (judge : Judge σ) (collect : Bool) (r r' : Relay σ)
    (n : Nat) (h : serve harness judge collect r = (.ok n, r')) :
    ∃ runs, runs.length = n ∧ Conducts harness judge r runs r' := by
  have hsession := session_took harness judge collect r
  rw [serve] at h
  rcases hrun : session harness judge collect r with ⟨m, s⟩ | ⟨e, s⟩ <;> rw [hrun] at h hsession
  · cases h
    obtain ⟨runs, pid, report, hn, htook, hend, hhappen⟩ := hsession
    have hpings := htook.pings
    rw [hend, pings_conduct] at hpings
    refine ⟨runs, hn.symm, {
      pings := hpings.symm
      warm := ?_
      told := words_conduct runs pid report ▸ htook.sent
      reads := ?_
      inputs := reads_conduct runs pid report ▸ htook.inputs
      calls := ?_
      asked := ?_
      steps := ⟨pid, report, htook.steps, htook.heard⟩
      happen := hhappen }⟩
    · intro i run hi
      rw [hhappen.warm i run hi]
      omega
    · rw [← reads_conduct runs pid report]
      exact filterMap_of_took htook Act.read? (fun _ => rfl) fun _ => rfl
    · rw [← calls_conduct runs pid report]
      exact filterMap_of_took htook Act.called? (fun _ => rfl) fun _ => rfl
    · rw [← asked_conduct runs pid report]
      exact filterMap_of_took htook asked? (fun _ => rfl) fun _ => rfl
  · cases h

/-- Two runs of a harness that panics in the second one. -/
theorem thirdTimeUnlucky_conducts :
    let judge : Judge Unit := fun memory _ _ => (true, memory)
    let turns := turnsAfter [] 2 ++ [.start, .request]
    let r : Relay (Nat × Unit) :=
      { bench := { control := ⟨[1, 0, 0, 0, 2, 0, 0, 0, 3], none⟩, inputs := [], memory := (0, ()) }
        link := ⟨⟨replies ForkServer.thirdTimeUnlucky (fun _ => true) 9 turns 0 [], none⟩, {}⟩
        map := .zero }
    ∃ r', serve (ForkServer.thirdTimeUnlucky.beside Unit) (judge.beside Nat) true r
        = (.ok 2, r') ∧
      ∃ runs, runs.length = 2 ∧
        Conducts (ForkServer.thirdTimeUnlucky.beside Unit) (judge.beside Nat) r runs r' := by
  intro judge turns r
  obtain ⟨r', hserve⟩ := serve_twoRuns
  exact ⟨r', hserve, conducts_serve _ _ _ r r' 2 hserve⟩

end Controller

end BranchCoverage
