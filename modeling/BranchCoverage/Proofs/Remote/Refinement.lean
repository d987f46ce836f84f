/-
A controller is to its driver what a fork server is.

The controller adds up maps that were recorded one test at a time, where the
fork server lets all executions record on one map; it warms up within its first
run, where the fork server does so before the first ping; and all the time it
talks to an agent.  Still one more ping takes both to the same (`rounds_ping`):
the sheet of the controller is a function of the number of pings alone
(`sheetAfter`), and it shows what the fork server comes to with as many.
-/
import BranchCoverage.Proofs.ForkServer.Serve
import BranchCoverage.Proofs.Remote.Sheet

namespace BranchCoverage

namespace Controller

open ForkServer (inputAt reportedInputs reported reply)

variable {μ ν : Type}

/-! ### What so many runs come to -/

section

variable (harness : Harness μ) (registered : Nat → Bool) (pid : Int32) (inputs : List ByteArray)
  (start : Sheet μ)

/-- The memory of the harness before the first run that is reported, and after
so many of them. -/
def settledMemory (memory : μ) (n : Nat) : μ :=
  (harness.run (harness memory (inputAt inputs 0)).2 (reportedInputs inputs n)).2

/-- The memory of the harness after so many runs, of which the first one warms
up. -/
def memoryAfter (memory : μ) : Nat → μ
  | 0 => memory
  | n + 1 => settledMemory harness inputs memory (n + 1)

/-- The turns of so many runs, of which the first one warms up. -/
def turnsAfter : Nat → List Turn
  | 0 => []
  | n + 1 => turnsAfter n ++
    .start :: (warmUpTurns (n == 0) (inputAt inputs n) ++ [.run (inputAt inputs n), .request])

/-- The turns that are left when so many runs are made and so many are to come. -/
def turnsLeft : (done left : Nat) → List Turn
  | _, 0 => [.start, .request]
  | done, left + 1 =>
    .start :: (warmUpTurns (done == 0) (inputAt inputs done) ++
      .run (inputAt inputs done) :: .request :: turnsLeft (done + 1) left)

/-- The sheet after so many runs, with these pings to come. -/
def sheetAfter (n : Nat) (control : Source) : Sheet μ where
  control := control
  status := ⟨start.status.sent ++
    (0 :: (reported harness start.memory inputs n).flatMap (reply pid)).flatMap Word.encode, none⟩
  inputs := (inputs.drop n).map .ok
  memory := memoryAfter harness inputs start.memory n
  turns := start.turns ++ turnsAfter inputs n
  reads := start.reads ++ reportedInputs inputs n
  map := Replay.executeAll registered (reported harness start.memory inputs n)

theorem warmed_memoryAfter (memory : μ) (n : Nat) :
    warmed harness (n == 0) (memoryAfter harness inputs memory n) (inputAt inputs n)
      = settledMemory harness inputs memory n := by
  cases n <;> rfl

theorem memoryAfter_succ (memory : μ) (n : Nat) :
    memoryAfter harness inputs memory (n + 1)
      = (harness (settledMemory harness inputs memory n) (inputAt inputs n)).2 := by
  rw [memoryAfter, settledMemory, ForkServer.reportedInputs_succ, Harness.run_concat]
  rfl

theorem turnsAfter_append (done left : Nat) :
    turnsAfter inputs done ++ turnsLeft inputs done left
      = turnsAfter inputs (done + left) ++ [.start, .request] := by
  induction left generalizing done with
  | zero => rfl
  | succ left ih =>
    have hcount : done + 1 + left = done + (left + 1) := by omega
    have hrest := ih (done + 1)
    rw [hcount] at hrest
    rw [← hrest, turnsAfter, turnsLeft]
    simp

/-- The turns are tests, the first input being tested twice. -/
theorem turnsAfter_succ (n : Nat) :
    turnsAfter inputs (n + 1)
      = (inputAt inputs 0 :: reportedInputs inputs (n + 1)).flatMap Turn.test := by
  induction n with
  | zero => rfl
  | succ n ih =>
    rw [turnsAfter, ih, ForkServer.reportedInputs_succ inputs (n + 1)]
    simp [warmUpTurns, Turn.test]

/-- One more run takes the sheet one further. -/
theorem sheetAfter_succ (hcounter : ∀ memory data, ∀ x ∈ (harness memory data).1.hits,
      x.discipline = .counter) (n : Nat) (control : Source) :
    let e := (harness (settledMemory harness inputs start.memory n) (inputAt inputs n)).1
    let sheet := sheetAfter harness registered pid inputs start n control
    ({ control := control
       status := ⟨sheet.status.sent ++ Word.encode pid ++ Word.encode e.fault.code, none⟩
       inputs := (inputs.drop n).tail.map .ok
       memory := (harness (settledMemory harness inputs start.memory n) (inputAt inputs n)).2
       turns := sheet.turns ++ [.start] ++
         (warmUpTurns (n == 0) (inputAt inputs n) ++ [.run (inputAt inputs n), .request])
       reads := sheet.reads ++ [inputAt inputs n]
       map := sheet.map.add (Replay.coverage registered e.hits) } : Sheet μ)
      = sheetAfter harness registered pid inputs start (n + 1) control := by
  intro e sheet
  have hreported : reported harness start.memory inputs (n + 1)
      = reported harness start.memory inputs n ++ [e] :=
    ForkServer.reported_succ harness start.memory inputs n
  refine Sheet.ext rfl ?_ ?_ ?_ ?_ ?_ ?_
  · show (⟨_, none⟩ : Outlet) = ⟨start.status.sent ++
      (0 :: (reported harness start.memory inputs (n + 1)).flatMap (reply pid)).flatMap
        Word.encode, none⟩
    rw [hreported]
    simp [sheet, sheetAfter, ForkServer.reply_eq]
  · rw [List.tail_drop]
    rfl
  · exact (memoryAfter_succ harness inputs start.memory n).symm
  · show start.turns ++ turnsAfter inputs n ++ [.start] ++ _ = _
    rw [List.append_assoc, List.append_assoc]
    rfl
  · show start.reads ++ reportedInputs inputs n ++ [inputAt inputs n] = _
    rw [List.append_assoc, ← ForkServer.reportedInputs_succ]
    rfl
  · -- what the fork server records on its one map is added here
    show (Replay.executeAll registered (reported harness start.memory inputs n)).add _
      = Replay.executeAll registered (reported harness start.memory inputs (n + 1))
    rw [hreported, Replay.executeAll_concat,
      Replay.execute_eq_add (Replay.size_executeAll _) (hcounter _ _)]
    rfl

end

/-! ### Pings -/

section

variable {harness : Harness μ} {judge : Judge ν} {registered : Nat → Bool} {pid : Int32}
  {inputs : List ByteArray} {start : Sheet μ} {control : Source} {hits : List Hit}
  {r : Relay (μ × ν)} {done left : Nat}

section

variable (hcounter : ∀ memory data, ∀ x ∈ (harness memory data).1.hits, x.discipline = .counter)
  (hjudge : ∀ memory run locations, (judge memory run locations).1 = true) (collect : Bool)

include hcounter hjudge

/-- **One ping is one more run.** -/
theorem rounds_ping (hle : 4 ≤ control.bytes.length)
    (h : Talks harness registered pid (turnsLeft inputs done (left + 1)) hits
      (sheetAfter harness registered pid inputs start done control) r) :
    ∃ hits' r',
      (∀ limit, rounds (harness.beside ν) (judge.beside μ) collect (limit + 1) done r
        = rounds (harness.beside ν) (judge.beside μ) collect limit (done + 1) r') ∧
      Talks harness registered pid (turnsLeft inputs (done + 1) left) hits'
        (sheetAfter harness registered pid inputs start (done + 1)
          { control with bytes := control.bytes.drop 4 }) r' := by
  -- the agent is started before the ping is waited for
  obtain ⟨r₁, hstart, h₁⟩ := start_talks collect h
  obtain ⟨r₂, hready, h₂⟩ := log_talks .debug s!"Agent {pid} ready for run {done + 1}" h₁
  obtain ⟨r₃, hping, h₃⟩ := awaitPing_talks hle .control h₂
  obtain ⟨r₄, hgreeted, h₄⟩ := report_talks rfl .status pid h₃
  obtain ⟨r₅, hread, h₅⟩ := readInput_talks rfl .input h₄
  rw [ForkServer.headD_drop] at hread h₅
  -- one run, or two if it is the first; the fault of the last one is reported
  obtain ⟨r₆, hattempt, h₆⟩ := attempt_talks_warmUp hjudge collect (done + 1)
    r₅.link.incoming.bytes.length (done == 0) h₅ (warmed_memoryAfter harness inputs _ done)
    (Replay.size_executeAll _)
  let e := (harness (settledMemory harness inputs start.memory done) (inputAt inputs done)).1
  obtain ⟨r₇, hlogged, h₇⟩ :=
    log_talks .debug s!"Run {done + 1} finished with fault {e.fault.name}" h₆
  obtain ⟨r₈, hreported, h₈⟩ := report_talks rfl .status e.fault.code h₇
  have hsucc := sheetAfter_succ harness registered pid inputs start hcounter done
    { control with bytes := control.bytes.drop 4 }
  refine ⟨_, r₈, fun limit => ?_, hsucc ▸ h₈⟩
  have hget : (get : Relaying (μ × ν) (Relay (μ × ν))) r₅ = .ok r₅ r₅ := rfl
  rw [rounds]
  refine (bind_of_ok hstart).trans ((bind_of_ok hready).trans ((bind_of_ok hping).trans ?_))
  rw [if_pos rfl]
  refine (bind_of_ok hgreeted).trans ((bind_of_ok hread).trans ((bind_of_ok hget).trans ?_))
  refine (bind_of_ok hattempt).trans ((bind_of_ok hlogged).trans ?_)
  exact bind_of_ok hreported

/-- **The loop makes a run for every ping**, and takes its leave of the agent. -/
theorem rounds_talks {limit : Nat}
    (h : Talks harness registered pid (turnsLeft inputs done left) hits
      (sheetAfter harness registered pid inputs start done control) r)
    (hfailure : control.failure = none) (hpings : control.bytes.length / 4 = left)
    (hlimit : left < limit) :
    ∃ r', rounds (harness.beside ν) (judge.beside μ) collect limit done r
        = .ok (done + left) r' ∧
      r'.sheet = { sheetAfter harness registered pid inputs start (done + left)
          { control with bytes := [] } with
        turns := start.turns ++ turnsAfter inputs (done + left) ++ [.start] ++ [.request] } := by
  induction limit generalizing done left control hits r with
  | zero => exact absurd hlimit (Nat.not_lt_zero left)
  | succ limit ih =>
    cases left with
    | zero =>
      -- the agent has been started once more for a ping that does not come
      have hlt : control.bytes.length < 4 := by omega
      obtain ⟨r₁, hstart, h₁⟩ := start_talks collect h
      obtain ⟨r₂, hready, h₂⟩ := log_talks .debug s!"Agent {pid} ready for run {done + 1}" h₁
      obtain ⟨r₃, hping, h₃⟩ := awaitPing_talks_of_lt hlt hfailure .control h₂
      obtain ⟨report, r₄, hfetch, -, -, h₄⟩ := fetch_talks h₃
      obtain ⟨r₅, hstop, h₅⟩ := stop_talks h₄
      obtain ⟨r₆, hlogged, h₆⟩ :=
        log_talks .info s!"Driver closed the control pipe after {done} run(s)" h₅
      refine ⟨r₆, ?_, h₆.sheet_eq⟩
      rw [rounds]
      refine (bind_of_ok hstart).trans ((bind_of_ok hready).trans ((bind_of_ok hping).trans ?_))
      rw [if_neg Bool.false_ne_true]
      exact (bind_of_ok hfetch).trans ((bind_of_ok hstop).trans (bind_of_ok hlogged))
    | succ left =>
      have hle : 4 ≤ control.bytes.length := by omega
      obtain ⟨hits', r₁, hrun, h₁⟩ := rounds_ping hcounter hjudge collect hle h
      have hrest : (control.bytes.drop 4).length / 4 = left := by
        rw [List.length_drop]
        omega
      have hcount : done + 1 + left = done + (left + 1) := by omega
      have hdone := ih h₁ hfailure hrest (Nat.lt_of_succ_lt_succ hlimit)
      rw [hcount] at hdone
      rw [hrun]
      exact hdone

/-- The session of a controller whose agent answers. -/
theorem serve_talks {n : Nat} (hinputs : r.bench.inputs = inputs.map .ok)
    (hfailure : r.bench.control.failure = none) (hpings : r.bench.control.bytes.length / 4 = n)
    (hstatus : r.bench.status.limit = none) (hmap : r.map = .zero)
    (hlink : r.link.outgoing.limit = none)
    (hanswers : Answers harness registered pid (turnsAfter inputs n ++ [.start, .request])
      r.bench.memory.1 [] r.link.incoming) :
    ∃ r', serve (harness.beside ν) (judge.beside μ) collect r = (.ok n, r') ∧
      r'.sheet = { sheetAfter harness registered pid inputs r.sheet n
          { r.bench.control with bytes := [] } with
        turns := r.bench.turns ++ turnsAfter inputs n ++ [.start] ++ [.request] } := by
  have hleft := turnsAfter_append inputs 0 n
  rw [Nat.zero_add] at hleft
  rw [← hleft] at hanswers
  have hstart : Talks harness registered pid (turnsLeft inputs 0 n) [] r.sheet r :=
    ⟨rfl, hlink, hanswers⟩
  -- with the greeting sent this is the sheet after no run
  obtain ⟨r₁, hgreeted, h₁⟩ := report_talks hstatus .greeting 0 hstart
  have hsheet : { r.sheet with status := ⟨r.sheet.status.sent ++ Word.encode 0, none⟩ }
      = sheetAfter harness registered pid inputs r.sheet 0 r.bench.control :=
    Sheet.ext rfl (by simp [sheetAfter, reported, reportedInputs, Harness.run]) hinputs rfl
      (List.append_nil _).symm (List.append_nil _).symm hmap
  rw [hsheet] at h₁
  have hcontrol : r₁.bench.control = r.bench.control := congrArg Sheet.control h₁.sheet_eq
  have hlimit : n < r₁.bench.pings + 1 := by
    rw [Bench.pings, hcontrol, hpings]
    exact Nat.lt_succ_self n
  obtain ⟨r', hrun, hend⟩ := rounds_talks hcounter hjudge collect h₁ hfailure hpings hlimit
  rw [Nat.zero_add] at hrun hend
  have hget : (get : Relaying (μ × ν) (Relay (μ × ν))) r₁ = .ok r₁ r₁ := rfl
  have hsession : session (harness.beside ν) (judge.beside μ) collect r = .ok n r' := by
    rw [session]
    exact (bind_of_ok hgreeted).trans ((bind_of_ok hget).trans hrun)
  refine ⟨r', ?_, hend⟩
  rw [serve, hsession]

end

end

/-- A judge that accepts every report. -/
def lenient : Judge Unit := fun memory _ _ => (true, memory)

/-- A driver that asks for two runs, and an agent that answers them. -/
def twoRuns : Relay (Nat × Unit) where
  bench := { control := ⟨[1, 0, 0, 0, 2, 0, 0, 0, 3], none⟩, inputs := [], memory := (0, ()) }
  link := ⟨⟨replies ForkServer.thirdTimeUnlucky (fun _ => true) 9
    (turnsAfter [] 2 ++ [.start, .request]) 0 [], none⟩, {}⟩
  map := .zero

theorem serve_twoRuns :
    ∃ r', serve (ForkServer.thirdTimeUnlucky.beside Unit) (lenient.beside Nat) true twoRuns
      = (.ok 2, r') := by
  have hcounter : ∀ memory data, ∀ x ∈ (ForkServer.thirdTimeUnlucky memory data).1.hits,
      x.discipline = .counter :=
    fun _ _ x hx => List.mem_singleton.mp hx ▸ rfl
  have hjudge : ∀ memory run locations, (lenient memory run locations).1 = true :=
    fun _ _ _ => rfl
  have hanswers := answers_replies ForkServer.thirdTimeUnlucky (fun _ => true) 9
    (turnsAfter [] 2 ++ [.start, .request]) 0 [] none
  have hinputs : twoRuns.bench.inputs = ([] : List ByteArray).map .ok := rfl
  have hpings : twoRuns.bench.control.bytes.length / 4 = 2 := by decide
  obtain ⟨r', hserve, -⟩ :=
    serve_talks hcounter hjudge true hinputs rfl hpings rfl rfl rfl hanswers
  exact ⟨r', hserve⟩

/-! ### Refinement -/

/-- A relay and a bench with the same pipes, inputs and code under test. -/
structure Alike (b : Bench μ) (r : Relay (μ × ν)) : Prop where
  control : r.bench.control = b.control
  status : r.bench.status = b.status
  inputs : r.bench.inputs = b.inputs
  memory : r.bench.memory.1 = b.memory

/-- The words to the driver about runs that ended with these faults. -/
def wordsOf (pid : Int32) (faults : List Fault) : List Int32 :=
  0 :: faults.flatMap fun fault => [pid, fault.code]

/-- With `n` pings a fork server and a controller have come to the same. -/
structure Refines (pid agent : Int32) (b : Bench μ) (r : Relay (μ × ν)) (turns : List Turn)
    (n : Nat) (o : ForkServer.Outcome μ) (o' : Except RelayError Nat × Relay (μ × ν)) :
    Prop where
  count : o.result = .ok n ∧ o'.1 = .ok n
  /-- The harness was called on the same inputs in the same order. -/
  calls : ∃ calls, o.bench.calls = b.calls ++ calls ∧ o'.2.bench.calls = r.bench.calls ++ calls
  /-- The same inputs were read, and the same are left. -/
  reads : ∃ reads, o.bench.reads = b.reads ++ reads ∧ o'.2.bench.reads = r.bench.reads ++ reads
  rest : o'.2.bench.inputs = o.bench.inputs
  /-- The words to the driver differ in the process id alone. -/
  words : ∃ faults : List Fault, faults.length = n ∧
    o.bench.status.sent = b.status.sent ++ (wordsOf pid faults).flatMap Word.encode ∧
    o'.2.bench.status.sent = r.bench.status.sent ++ (wordsOf agent faults).flatMap Word.encode
  map : o'.2.map = o.map
  /-- The turns that the agent answered are those that the controller made. -/
  turns : o'.2.bench.turns = r.bench.turns ++ turns

theorem wordsOf_faults (pid : Int32) (es : List Execution) :
    0 :: es.flatMap (reply pid) = wordsOf pid (es.map Execution.fault) := by
  rw [wordsOf, List.flatMap_map]
  exact congrArg (fun f => 0 :: es.flatMap f) (funext (ForkServer.reply_eq pid))

theorem length_reported (harness : Harness μ) (memory : μ) (inputs : List ByteArray) (n : Nat) :
    (reported harness memory inputs n).length = n := by
  induction n with
  | zero => rfl
  | succ n ih => rw [ForkServer.reported_succ, List.length_append, ih, List.length_singleton]

/-- What a fork server has come to and what a sheet shows, compared. -/
theorem refines_of_served {harness : Harness μ} {registered : Nat → Bool} {pid agent : Int32}
    {inputs : List ByteArray} {b : Bench μ} {r r' : Relay (μ × ν)} {n : Nat} {control : Source}
    {o : ForkServer.Outcome μ} (halike : Alike b r) (hresult : o.result = .ok (n + 1))
    (hserved : ForkServer.Served harness pid inputs b (n + 1) o.bench)
    (hmap : o.map = Replay.executeAll registered (reported harness b.memory inputs (n + 1)))
    (hsheet : r'.sheet = { sheetAfter harness registered agent inputs r.sheet (n + 1) control with
      turns := r.bench.turns ++ turnsAfter inputs (n + 1) ++ [.start] ++ [.request] }) :
    Refines pid agent b r
      ((inputAt inputs 0 :: reportedInputs inputs (n + 1)).flatMap Turn.test ++
        [.start, .request]) (n + 1) o (.ok (n + 1), r') := by
  have hmax : max 1 (n + 1) = n + 1 := Nat.max_eq_right (by omega)
  have hmemory : r.sheet.memory = b.memory := halike.memory
  have hturns : r'.bench.turns = r.bench.turns ++
      ((inputAt inputs 0 :: reportedInputs inputs (n + 1)).flatMap Turn.test ++
        [.start, .request]) := by
    rw [← turnsAfter_succ, ← List.append_assoc]
    exact (congrArg Sheet.turns hsheet).trans (List.append_assoc _ _ _)
  refine ⟨⟨hresult, rfl⟩, ⟨_, hserved.calls, ?_⟩, ⟨_, hserved.reads, ?_⟩, ?_, ?_, ?_, hturns⟩
  · -- the harness is called in the runs of the tests
    rw [Bench.calls_eq_turns, Bench.calls_eq_turns, hturns, List.filterMap_append,
      List.filterMap_append, Turn.filterMap_test]
    exact congrArg (_ ++ ·) (List.append_nil _)
  · rw [hmax]
    exact congrArg Sheet.reads hsheet
  · rw [hserved.rest, hmax]
    exact congrArg Sheet.inputs hsheet
  · refine ⟨(reported harness b.memory inputs (n + 1)).map Execution.fault, ?_, ?_, ?_⟩
    · rw [List.length_map, length_reported]
    · rw [hserved.sent, wordsOf_faults]
    · rw [← wordsOf_faults, ← hmemory]
      exact congrArg (fun sheet => sheet.status.sent) hsheet
  · rw [hmap, ← hmemory]
    exact congrArg Sheet.map hsheet

/-- **A controller refines a fork server** on the same pipes, inputs and harness,
if its agent answers and all reports are accepted. -/
theorem refines_serve? (harness : Harness μ) (judge : Judge ν) (collect : Bool)
    (pid agent : Int32) (b : Bench μ) (r : Relay (μ × ν)) (inputs : List ByteArray) (n : Nat)
    (hcounter : ∀ memory data, ∀ x ∈ (harness memory data).1.hits, x.discipline = .counter)
    (hjudge : ∀ memory run locations, (judge memory run locations).1 = true)
    (htrace : b.tracing.Reachable) (hinputs : b.inputs = inputs.map .ok)
    (hcontrol : b.control.failure = none) (hstatus : b.status.limit = none)
    (hpings : b.control.bytes.length / 4 = n) (hpos : 1 ≤ n) (halike : Alike b r)
    (hmap : r.map = .zero) (hlink : r.link.outgoing.limit = none)
    (hanswers : Answers harness b.tracing.isRegistered agent
      ((inputAt inputs 0 :: reportedInputs inputs n).flatMap Turn.test ++ [.start, .request])
      b.memory [] r.link.incoming) :
    ∃ o, ForkServer.serve? harness pid .zero b = some o ∧
      Refines pid agent b r
        ((inputAt inputs 0 :: reportedInputs inputs n).flatMap Turn.test ++ [.start, .request]) n o
        (serve (harness.beside ν) (judge.beside μ) collect r) := by
  obtain ⟨n, rfl⟩ := Nat.exists_eq_add_of_le' hpos
  -- the fork server warms up and answers its pings
  obtain ⟨⟨tracing, token⟩, hinstall⟩ : ∃ p, b.tracing.install? .zero none = some p :=
    ⟨_, if_pos Array.size_replicate⟩
  obtain ⟨replay, -, hfollows⟩ := Tracing.follows_install htrace.routed hinstall
  obtain ⟨b₀, hsession, hcontrol₀, hstanding₀⟩ :=
    ForkServer.session_warmUp harness pid { b with tracing } hstatus hcontrol hinputs hfollows
  obtain ⟨b₁, hanswer, hstanding₁⟩ :=
    ForkServer.answer_served hstanding₀ (Nat.lt_succ_self b₀.pings)
  have hcount : 0 + b₀.pings = n + 1 := by
    rw [Nat.zero_add, Bench.pings, hcontrol₀]
    exact hpings
  rw [hcount] at hanswer hstanding₁
  obtain ⟨replay₁, hmap₁, hfollows₁⟩ := hstanding₁.trace
  -- the controller makes its runs
  rw [← turnsAfter_succ, ← halike.memory] at hanswers
  obtain ⟨r', hserve, hsheet⟩ := serve_talks hcounter hjudge collect (halike.inputs.trans hinputs)
    (halike.control ▸ hcontrol) (halike.control ▸ hpings) (halike.status ▸ hstatus) hmap hlink
    hanswers
  rw [hserve]
  refine ⟨⟨.ok (n + 1), b₁.tracing.map token, { b₁ with tracing := b₁.tracing.drop token }⟩, ?_,
    refines_of_served halike rfl ?_ ?_ hsheet⟩
  · rw [ForkServer.serve?, hinstall, Option.map_some]
    dsimp only
    rw [hsession, hanswer]
  · obtain ⟨hserved, -, -, -, -⟩ := hstanding₁
    exact ⟨hserved.sent, hserved.calls, hserved.reads, hserved.rest⟩
  · show (b₁.tracing.maps[token]?).getD #[] = _
    rw [hfollows₁.map]
    exact hmap₁

/-- Two tests of a harness that panics in the second one. -/
theorem thirdTimeUnlucky_refines :
    let b : Bench Nat :=
      { control := ⟨[1, 0, 0, 0, 2, 0, 0, 0, 3], none⟩, inputs := [], memory := 0 }
    let judge : Judge Unit := fun memory _ _ => (true, memory)
    let turns := (inputAt [] 0 :: reportedInputs [] 2).flatMap Turn.test ++ [.start, .request]
    let r : Relay (Nat × Unit) :=
      { bench := { control := b.control, inputs := [], memory := (0, ()) }
        link := ⟨⟨replies ForkServer.thirdTimeUnlucky b.tracing.isRegistered 9 turns 0 [], none⟩,
          ⟨[], none⟩⟩
        map := .zero }
    ∃ o o', ForkServer.serve? ForkServer.thirdTimeUnlucky 7 .zero b = some o ∧
      serve (ForkServer.thirdTimeUnlucky.beside Unit) (judge.beside Nat) true r = o' ∧
      o.result = .ok 2 ∧ o'.1 = .ok 2 ∧ o'.2.map = o.map := by
  intro b judge turns r
  have hcounter : ∀ memory data, ∀ x ∈ (ForkServer.thirdTimeUnlucky memory data).1.hits,
      x.discipline = .counter :=
    fun _ _ x hx => List.mem_singleton.mp hx ▸ rfl
  have hanswers := answers_replies ForkServer.thirdTimeUnlucky b.tracing.isRegistered 9 turns 0 []
    none
  obtain ⟨o, hserve, hrefines⟩ := refines_serve? ForkServer.thirdTimeUnlucky judge true 7 9 b r []
    2 hcounter (fun _ _ _ => rfl) .start rfl rfl rfl (by decide) (by decide) ⟨rfl, rfl, rfl, rfl⟩
    rfl rfl hanswers
  exact ⟨o, _, hserve, rfl, hrefines.count.1, hrefines.count.2, hrefines.map⟩

end Controller

end BranchCoverage
