/-
A relay while its agent answers.

What a run of a controller shows is gathered in a `Sheet`.  As long as the agent
answers (`Talks`), no step of the controller fails, and each of them changes the
sheet in a known way; so does a run that is made until its report is accepted
(`attempt_talks`), and one that warms up before (`attempt_talks_warmUp`).
-/
import BranchCoverage.Proofs.Remote.Steps
import BranchCoverage.Proofs.Remote.Turns

namespace BranchCoverage

/-! ### Harness and judge with memories of their own -/

/-- A harness next to something else that has a memory. -/
def Harness.beside {μ : Type} (harness : Harness μ) (ν : Type) : Harness (μ × ν) :=
  fun memory data =>
    let (e, first) := harness memory.1 data
    (e, first, memory.2)

/-- A judge next to something else that has a memory. -/
def Judge.beside {ν : Type} (judge : Judge ν) (μ : Type) : Judge (μ × ν) :=
  fun memory run locations =>
    let (accepted, second) := judge memory.2 run locations
    (accepted, memory.1, second)

/-! ### Sheets -/

/-- What a run of a controller shows, and what its next steps depend on. -/
@[ext]
structure Sheet (μ : Type) where
  control : Source
  status : Outlet
  inputs : List (Except String ByteArray)
  memory : μ
  turns : List Turn
  reads : List ByteArray
  map : CoverageMap

/-- The sheet of a relay. -/
def Relay.sheet {μ ν : Type} (r : Relay (μ × ν)) : Sheet μ where
  control := r.bench.control
  status := r.bench.status
  inputs := r.bench.inputs
  memory := r.bench.memory.1
  turns := r.bench.turns
  reads := r.bench.reads
  map := r.map

namespace Controller

variable {μ ν α : Type} {harness : Harness μ} {judge : Judge ν} {registered : Nat → Bool}
  {pid : Int32} {turns : List Turn} {hits : List Hit} {sheet : Sheet μ}
  {r : Relay (μ × ν)}

/-- A relay shows this, and the agent will answer these turns. -/
structure Talks (harness : Harness μ) (registered : Nat → Bool) (pid : Int32)
    (turns : List Turn) (hits : List Hit) (sheet : Sheet μ) (r : Relay (μ × ν)) : Prop where
  sheet_eq : r.sheet = sheet
  limit : r.link.outgoing.limit = none
  answers : Answers harness registered pid turns sheet.memory hits r.link.incoming

/-- An act for the journal changes nothing but the turns. -/
theorem Talks.record (h : Talks harness registered pid turns hits sheet r) (act : Act)
    (hread : act.read? = none) :
    Talks harness registered pid turns hits
      { sheet with turns := sheet.turns ++ act.turn?.toList }
      { r with bench := r.bench.record act } := by
  obtain ⟨rfl, hlimit, hanswers⟩ := h
  have hreads : [act].filterMap Act.read? = [] := by rw [List.filterMap_cons_none hread]; rfl
  have hturns : [act].filterMap Act.turn? = act.turn?.toList := by
    rcases hact : act.turn? with - | turn
    · rw [List.filterMap_cons_none hact]
      rfl
    · rw [List.filterMap_cons_some hact]
      rfl
  refine ⟨Sheet.ext rfl rfl rfl rfl ?_ ?_ rfl, hlimit, hanswers⟩
  · exact hturns ▸ Bench.turns_append (b := r.bench) [act] rfl
  · exact Bench.reads_eq (b := r.bench) [act] rfl hreads

theorem Talks.record_of_none (h : Talks harness registered pid turns hits sheet r) (act : Act)
    (hread : act.read? = none) (hturn : act.turn? = none) :
    Talks harness registered pid turns hits sheet { r with bench := r.bench.record act } := by
  have hrecord := h.record act hread
  rw [hturn, Option.toList_none, List.append_nil] at hrecord
  exact hrecord

/-! ### Steps of the conversation -/

theorem send_of_limit {l : Link} (h : l.outgoing.limit = none) (word : Int32) :
    Link.send word l = .ok ()
      { l with outgoing := { l.outgoing with sent := l.outgoing.sent ++ Word.encode word } } := by
  rw [Link.send, Outlet.writeWord, Outlet.write_of_limit h]

theorem start_talks (collect : Bool)
    (h : Talks harness registered pid (.start :: turns) hits sheet r) :
    ∃ r', start collect r = .ok pid r' ∧
      Talks harness registered pid turns [] { sheet with turns := sheet.turns ++ [.start] } r' := by
  obtain ⟨hsheet, hlimit, incoming, hword, hanswers⟩ := h
  have htalk : talk (Link.start collect) r = .ok pid { r with link := ⟨incoming,
      { r.link.outgoing with
        sent := r.link.outgoing.sent ++ Word.encode (Command.starting collect).code }⟩ } := by
    rw [talk, Link.start, bind_of_ok (send_of_limit hlimit _), Link.receive]
    dsimp only
    rw [hword]
  have hanswered : Talks harness registered pid turns [] sheet { r with link := ⟨incoming,
      { r.link.outgoing with
        sent := r.link.outgoing.sent ++ Word.encode (Command.starting collect).code }⟩ } :=
    ⟨hsheet, hlimit, hanswers⟩
  exact ⟨_, bind_of_ok htalk, hanswered.record (.started pid) rfl⟩

theorem fetch_talks (h : Talks harness registered pid (.request :: turns) hits sheet r) :
    ∃ report r', fetch r = .ok report r' ∧ report.fault = 0 ∧
      report.coverage = Replay.coverage registered hits ∧
      Talks harness registered pid turns hits
        { sheet with turns := sheet.turns ++ [.request] } r' := by
  obtain ⟨hsheet, hlimit, locations, incoming, hreport, hanswers⟩ := h
  have htalk : talk Link.status r = .ok ⟨0, Replay.coverage registered hits, locations⟩
      { r with link := ⟨incoming,
        { r.link.outgoing with sent := r.link.outgoing.sent ++ Word.encode statusRequest }⟩ } := by
    rw [talk, Link.status, bind_of_ok (send_of_limit hlimit _), Link.receiveReport]
    dsimp only
    rw [hreport]
  have hanswered : Talks harness registered pid turns hits sheet { r with link := ⟨incoming,
      { r.link.outgoing with sent := r.link.outgoing.sent ++ Word.encode statusRequest }⟩ } :=
    ⟨hsheet, hlimit, hanswers⟩
  exact ⟨_, _, bind_of_ok htalk, rfl, rfl, hanswered.record (.answered _) rfl⟩

theorem stop_talks (h : Talks harness registered pid turns hits sheet r) :
    ∃ r', talk Link.stop r = .ok () r' ∧ Talks harness registered pid turns hits sheet r' := by
  obtain ⟨hsheet, hlimit, hanswers⟩ := h
  have htalk : talk Link.stop r = .ok () { r with link := { r.link with outgoing :=
      { r.link.outgoing with
        sent := r.link.outgoing.sent ++ Word.encode Command.stop.code } } } := by
    rw [talk, Link.stop, send_of_limit hlimit]
  exact ⟨_, htalk, hsheet, hlimit, hanswers⟩

theorem assess_talks (hjudge : ∀ memory run locations, (judge memory run locations).1 = true)
    (run : Nat) (report : Report) (h : Talks harness registered pid turns hits sheet r) :
    ∃ r', assess (judge.beside μ) run report r = .ok true r' ∧
      Talks harness registered pid turns hits sheet r' := by
  obtain ⟨rfl, hlimit, hanswers⟩ := h
  have haccepted : (judge.beside μ r.bench.memory run report.locations).1 = true :=
    hjudge r.bench.memory.2 run report.locations
  have hjudged : Talks harness registered pid turns hits r.sheet
      { r with bench :=
        { r.bench with memory := (judge.beside μ r.bench.memory run report.locations).2 } } :=
    ⟨rfl, hlimit, hanswers⟩
  refine ⟨_, ?_, hjudged.record_of_none (.judged run report true) rfl rfl⟩
  rw [assess]
  dsimp only
  rw [haccepted]

theorem mergeReport_talks {report : Report}
    (h : Talks harness registered pid turns hits sheet r)
    (hsize : sheet.map.size = report.coverage.size) :
    ∃ r', mergeReport report r = .ok () r' ∧
      Talks harness registered pid turns hits
        { sheet with map := sheet.map.add report.coverage } r' := by
  obtain ⟨rfl, hlimit, hanswers⟩ := h
  have hmerge : merge r.map report.coverage = .ok (r.map.add report.coverage) := if_pos hsize
  have hmerged : Talks harness registered pid turns hits
      { r.sheet with map := r.map.add report.coverage }
      { r with map := r.map.add report.coverage } := ⟨rfl, hlimit, hanswers⟩
  refine ⟨_, ?_, hmerged.record_of_none (.merged report) rfl rfl⟩
  rw [mergeReport, hmerge]

/-! ### Steps on the bench -/

theorem onBench_of_ok {step : EStateM RelayError (Bench (μ × ν)) α} {x : α} {b : Bench (μ × ν)}
    (h : step r.bench = .ok x b) : onBench step r = .ok x { r with bench := b } := by
  rw [onBench, h]

theorem log_talks (level : Level) (message : String)
    (h : Talks harness registered pid turns hits sheet r) :
    ∃ r', onBench (Bench.log level message) r = .ok () r' ∧
      Talks harness registered pid turns hits sheet r' :=
  ⟨_, onBench_of_ok rfl, h.record_of_none (.logged ⟨level, message⟩) rfl rfl⟩

theorem report_talks (hlimit : sheet.status.limit = none) (fail : IoError → RelayError)
    (word : Int32) (h : Talks harness registered pid turns hits sheet r) :
    ∃ r', onBench (Bench.report fail word) r = .ok () r' ∧
      Talks harness registered pid turns hits
        { sheet with status := ⟨sheet.status.sent ++ Word.encode word, none⟩ } r' := by
  obtain ⟨rfl, hlink, hanswers⟩ := h
  have hreported : Talks harness registered pid turns hits
      { r.sheet with status := ⟨r.bench.status.sent ++ Word.encode word, none⟩ }
      { r with bench :=
        { r.bench with status := ⟨r.bench.status.sent ++ Word.encode word, none⟩ } } :=
    ⟨rfl, hlink, hanswers⟩
  exact ⟨_, onBench_of_ok (Bench.report_of_limit hlimit fail word),
    hreported.record_of_none (.reported word) rfl rfl⟩

theorem awaitPing_talks (hle : 4 ≤ sheet.control.bytes.length) (fail : IoError → RelayError)
    (h : Talks harness registered pid turns hits sheet r) :
    ∃ r', onBench (Bench.awaitPing fail) r = .ok true r' ∧
      Talks harness registered pid turns hits
        { sheet with control.bytes := sheet.control.bytes.drop 4 } r' := by
  obtain ⟨rfl, hlink, hanswers⟩ := h
  have hpinged : Talks harness registered pid turns hits
      { r.sheet with control.bytes := r.bench.control.bytes.drop 4 }
      { r with bench :=
        { r.bench with control.bytes := r.bench.control.bytes.drop 4 } } :=
    ⟨rfl, hlink, hanswers⟩
  exact ⟨_, onBench_of_ok (Bench.awaitPing_of_le hle fail),
    hpinged.record_of_none .pinged rfl rfl⟩

theorem awaitPing_talks_of_lt (hlt : sheet.control.bytes.length < 4)
    (hfailure : sheet.control.failure = none) (fail : IoError → RelayError)
    (h : Talks harness registered pid turns hits sheet r) :
    ∃ r', onBench (Bench.awaitPing fail) r = .ok false r' ∧
      Talks harness registered pid turns hits { sheet with control.bytes := [] } r' := by
  obtain ⟨rfl, hlink, hanswers⟩ := h
  exact ⟨_, onBench_of_ok (Bench.awaitPing_of_lt hlt hfailure fail), rfl, hlink, hanswers⟩

theorem readInput_talks {inputs : List ByteArray} (hinputs : sheet.inputs = inputs.map .ok)
    (fail : IoError → RelayError) (h : Talks harness registered pid turns hits sheet r) :
    ∃ r', onBench (Bench.readInput fail) r = .ok (inputs.headD .empty) r' ∧
      Talks harness registered pid turns hits
        { sheet with
          inputs := inputs.tail.map .ok
          reads := sheet.reads ++ [inputs.headD .empty] } r' := by
  obtain ⟨rfl, hlink, hanswers⟩ := h
  refine ⟨_, onBench_of_ok (Bench.readInput_of_ok hinputs fail), ?_, hlink, hanswers⟩
  exact Sheet.ext rfl rfl rfl rfl
    ((Bench.turns_append (b := r.bench) [.read _] rfl).trans (List.append_nil _))
    (Bench.reads_append (b := r.bench) [.read _] rfl) rfl

/-- A run of the harness is a turn. -/
theorem execute_talks {data : ByteArray}
    (h : Talks harness registered pid (.run data :: turns) hits sheet r) :
    ∃ r', onBench (Bench.execute (harness.beside ν) data) r
        = .ok (harness sheet.memory data).1.fault r' ∧
      Talks harness registered pid turns (hits ++ (harness sheet.memory data).1.hits)
        { sheet with
          memory := (harness sheet.memory data).2
          turns := sheet.turns ++ [.run data] } r' := by
  obtain ⟨rfl, hlink, hanswers⟩ := h
  obtain ⟨b, hrun, hcalled⟩ := Bench.execute_called RelayError (harness.beside ν) data r.bench
  have hmemory : b.memory.1 = (harness r.bench.memory.1 data).2 :=
    congrArg Prod.fst hcalled.memory
  refine ⟨_, onBench_of_ok hrun, ?_, hlink, hanswers⟩
  exact Sheet.ext hcalled.control hcalled.status hcalled.inputs hmemory
    (Bench.turns_execute hrun) hcalled.reads rfl

/-! ### Runs -/

/-- A run whose test has been started adds the coverage of its hits. -/
theorem attempt_talks (hjudge : ∀ memory run locations, (judge memory run locations).1 = true)
    (collect : Bool) (run limit : Nat) {data : ByteArray}
    (h : Talks harness registered pid (.run data :: .request :: turns) [] sheet r)
    (hsize : sheet.map.size = mapSize) :
    ∃ r', attempt (harness.beside ν) (judge.beside μ) collect run data (limit + 1) false r
        = .ok (harness sheet.memory data).1.fault r' ∧
      Talks harness registered pid turns (harness sheet.memory data).1.hits
        { sheet with
          memory := (harness sheet.memory data).2
          turns := sheet.turns ++ [.run data, .request]
          map := sheet.map.add
            (Replay.coverage registered (harness sheet.memory data).1.hits) } r' := by
  obtain ⟨r₁, hrun, h₁⟩ := execute_talks h
  obtain ⟨report, r₂, hfetch, hfault, hcoverage, h₂⟩ := fetch_talks h₁
  obtain ⟨r₃, hassess, h₃⟩ := assess_talks hjudge run report h₂
  obtain ⟨r₄, hmerged, h₄⟩ := mergeReport_talks h₃ (by
    rw [hcoverage, Replay.size_coverage]
    exact hsize)
  -- the agent reports no fault, so that of the harness stands
  have hworse : worse (harness sheet.memory data).1.fault report
      = (harness sheet.memory data).1.fault := by
    rw [worse, hfault]
    rfl
  refine ⟨r₄, ?_, ?_⟩
  · rw [attempt_succ, bind_of_ok hrun, settle, bind_of_ok hfetch, bind_of_ok hassess, if_pos rfl,
      bind_of_ok hmerged, hworse]
    rfl
  · rw [hcoverage, List.append_assoc] at h₄
    exact h₄

/-- The turns of the run that warms up, if there is one. -/
def warmUpTurns (warmUp : Bool) (data : ByteArray) : List Turn :=
  if warmUp then [.run data, .request, .start] else []

/-- The memory of the harness after the run that warms up, if there is one. -/
def warmed (harness : Harness μ) (warmUp : Bool) (memory : μ) (data : ByteArray) : μ :=
  if warmUp then (harness memory data).2 else memory

/-- Warming up leaves nothing but the memory of the harness. -/
theorem attempt_talks_warmUp
    (hjudge : ∀ memory run locations, (judge memory run locations).1 = true)
    (collect : Bool) (run limit : Nat) {data : ByteArray} (warmUp : Bool) {memory : μ}
    (h : Talks harness registered pid
      (warmUpTurns warmUp data ++ .run data :: .request :: turns) [] sheet r)
    (hmemory : warmed harness warmUp sheet.memory data = memory)
    (hsize : sheet.map.size = mapSize) :
    ∃ r', attempt (harness.beside ν) (judge.beside μ) collect run data (limit + 1) warmUp r
        = .ok (harness memory data).1.fault r' ∧
      Talks harness registered pid turns (harness memory data).1.hits
        { sheet with
          memory := (harness memory data).2
          turns := sheet.turns ++ (warmUpTurns warmUp data ++ [.run data, .request])
          map := sheet.map.add (Replay.coverage registered (harness memory data).1.hits) } r' := by
  subst hmemory
  cases warmUp with
  | false => exact attempt_talks hjudge collect run limit h hsize
  | true =>
    -- the first report is fetched and dropped
    obtain ⟨r₁, hrun, h₁⟩ := execute_talks h
    obtain ⟨report, r₂, hfetch, -, -, h₂⟩ := fetch_talks h₁
    obtain ⟨r₃, hstart, h₃⟩ := start_talks collect h₂
    obtain ⟨r₄, hattempt, h₄⟩ := attempt_talks hjudge collect run limit h₃ hsize
    refine ⟨r₄, ?_, ?_⟩
    · rw [attempt_warmUp, bind_of_ok hrun, bind_of_ok hfetch, bind_of_ok hstart, hattempt]
      rfl
    · simp only [List.append_assoc] at h₄
      exact h₄

end Controller

end BranchCoverage
