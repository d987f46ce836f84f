/-
The whole run of a fork server when nothing fails.

`Served` says what a run comes to, as a function of the number of pings alone:
what is sent, what is read, what the harness is called on, and what is on the
map.  It is the invariant of the loop: beginning a session gives it for no
pings (`session_warmUp`), one more ping takes it one further (`answer_step`),
and so the loop ends with it for all of them (`answer_served`).
-/
import BranchCoverage.Proofs.ForkServer.Steps
import BranchCoverage.Proofs.Trace.Replay

namespace BranchCoverage

/-! ### Executions -/

/-- The executions on inputs one after another, and the memory after them. -/
def Harness.run {σ : Type} (harness : Harness σ) : σ → List ByteArray → List Execution × σ
  | memory, [] => ([], memory)
  | memory, data :: rest =>
    let (e, memory) := harness memory data
    let (es, memory) := run harness memory rest
    (e :: es, memory)

theorem Harness.run_concat {σ : Type} (harness : Harness σ) (memory : σ) (inputs : List ByteArray)
    (data : ByteArray) :
    harness.run memory (inputs ++ [data])
      = ((harness.run memory inputs).1 ++ [(harness (harness.run memory inputs).2 data).1],
        (harness (harness.run memory inputs).2 data).2) := by
  induction inputs generalizing memory with
  | nil => rfl
  | cons first rest ih =>
    show (_ :: (harness.run (harness memory first).2 (rest ++ [data])).1,
      (harness.run (harness memory first).2 (rest ++ [data])).2) = _
    rw [ih]
    rfl

namespace ForkServer

variable {σ : Type}

/-- The input of a run by its number, which is empty once there are no more. -/
def inputAt (inputs : List ByteArray) (i : Nat) : ByteArray :=
  inputs[i]?.getD .empty

/-- The inputs of the first `n` runs that are reported. -/
def reportedInputs (inputs : List ByteArray) (n : Nat) : List ByteArray :=
  (List.range n).map (inputAt inputs)

/-- The first `n` executions that are reported: those after the one that warms
up, which has the memory to itself before them. -/
def reported (harness : Harness σ) (memory : σ) (inputs : List ByteArray) (n : Nat) :
    List Execution :=
  (harness.run (harness memory (inputAt inputs 0)).2 (reportedInputs inputs n)).1

/-- The words for an execution: the process id, and 2 if it panicked. -/
def reply (pid : Int32) (e : Execution) : List Int32 :=
  [pid, if e.panic.isSome then 2 else 0]

/-- What a bench has come to since `start` once `n` pings are answered. -/
structure Served (harness : Harness σ) (pid : Int32) (inputs : List ByteArray) (start : Bench σ)
    (n : Nat) (b : Bench σ) : Prop where
  /-- The word 0 was sent, and then the words for each execution. -/
  sent : b.status.sent = start.status.sent ++
    (0 :: (reported harness start.memory inputs n).flatMap (reply pid)).flatMap Word.encode
  /-- The harness was called on the first input, and then on that of each run. -/
  calls : b.calls = start.calls ++ inputAt inputs 0 :: reportedInputs inputs n
  /-- No input was read twice. -/
  reads : b.reads = start.reads ++ reportedInputs inputs (max 1 n)
  rest : b.inputs = (inputs.drop (max 1 n)).map .ok

theorem reportedInputs_succ (inputs : List ByteArray) (n : Nat) :
    reportedInputs inputs (n + 1) = reportedInputs inputs n ++ [inputAt inputs n] := by
  rw [reportedInputs, List.range_succ, List.map_append]
  rfl

theorem reported_succ (harness : Harness σ) (memory : σ) (inputs : List ByteArray) (n : Nat) :
    reported harness memory inputs (n + 1) = reported harness memory inputs n ++
      [(harness (harness.run (harness memory (inputAt inputs 0)).2 (reportedInputs inputs n)).2
        (inputAt inputs n)).1] := by
  rw [reported, reportedInputs_succ, Harness.run_concat]
  rfl

theorem reply_eq (pid : Int32) (e : Execution) : reply pid e = [pid, e.fault.code] := by
  rw [reply, Execution.fault]
  split <;> rfl

/-! ### Iterations -/

/-- What an iteration changes. -/
structure Iterated (harness : Harness σ) (data : ByteArray) (b b' : Bench σ) : Prop where
  control : b'.control = b.control
  status : b'.status
    = ⟨b.status.sent ++ Word.encode (harness b.memory data).1.fault.code, none⟩
  inputs : b'.inputs = b.inputs
  tracing : b'.tracing = (b.tracing.reset.play (harness b.memory data).1.hits).1
  memory : b'.memory = (harness b.memory data).2
  reads : b'.reads = b.reads
  calls : b'.calls = b.calls ++ [data]

theorem iterate_iterated (harness : Harness σ) (data : ByteArray) {b : Bench σ}
    (hlimit : b.status.limit = none) :
    ∃ b', iterate harness data b = .ok () b' ∧ Iterated harness data b b' := by
  obtain ⟨b', hrun, hcalled⟩ := Bench.execute_called ServeError harness data
    { b with tracing := b.tracing.reset }
  have hlimit' : b'.status.limit = none := hcalled.status ▸ hlimit
  have hreport := Bench.report_of_limit hlimit' ServeError.status
    (harness b.memory data).1.fault.code
  refine ⟨_, (bind_of_ok rfl).trans ((bind_of_ok hrun).trans hreport), ?_⟩
  refine ⟨hcalled.control, ?_, hcalled.inputs, hcalled.tracing, hcalled.memory, ?_, ?_⟩
  · show (⟨b'.status.sent ++ _, none⟩ : Outlet) = _
    rw [hcalled.status]
  · exact (Bench.reads_eq [.reported _] rfl rfl).trans hcalled.reads
  · exact (Bench.calls_eq [.reported _] rfl rfl).trans hcalled.calls

/-! ### The loop -/

/-- The invariant of the loop: besides what the run has come to, what the next
iteration depends on. -/
structure Standing (harness : Harness σ) (pid : Int32) (inputs : List ByteArray)
    (start : Bench σ) (registered : Nat → Bool) (token n : Nat) (b : Bench σ) : Prop
    extends Served harness pid inputs start n b where
  limit : b.status.limit = none
  failure : b.control.failure = none
  memory : b.memory
    = (harness.run (harness start.memory (inputAt inputs 0)).2 (reportedInputs inputs n)).2
  trace : ∃ r : Replay,
    r.map = Replay.executeAll registered (reported harness start.memory inputs n) ∧
      Tracing.Follows registered token b.tracing r

section

variable {harness : Harness σ} {pid : Int32} {inputs : List ByteArray} {start b : Bench σ}
  {registered : Nat → Bool} {token n : Nat}

/-- One more execution takes the run one further, once its input is there. -/
theorem Standing.iterate (h : Standing harness pid inputs start registered token n b)
    (b' : Bench σ) (hfailure : b'.control.failure = none)
    (hstatus : b'.status = ⟨b.status.sent ++ Word.encode pid, none⟩)
    (htracing : b'.tracing = b.tracing) (hmemory : b'.memory = b.memory)
    (hcalls : b'.calls = b.calls)
    (hreads : b'.reads = start.reads ++ reportedInputs inputs (max 1 (n + 1)))
    (hrest : b'.inputs = (inputs.drop (max 1 (n + 1))).map .ok) :
    ∃ b'', ForkServer.iterate harness (inputAt inputs n) b' = .ok () b'' ∧
      b''.control = b'.control ∧
      Standing harness pid inputs start registered token (n + 1) b'' := by
  have hlimit : b'.status.limit = none := by rw [hstatus]
  obtain ⟨b'', hrun, hiterated⟩ := iterate_iterated harness (inputAt inputs n) hlimit
  refine ⟨b'', hrun, hiterated.control, ⟨⟨?_, ?_, ?_, ?_⟩, ?_, ?_, ?_, ?_⟩⟩
  · rw [hiterated.status, hstatus, h.sent, reported_succ, hmemory, h.memory]
    simp [reply_eq]
  · rw [hiterated.calls, hcalls, h.calls, reportedInputs_succ, List.append_assoc]
    rfl
  · exact hiterated.reads.trans hreads
  · exact hiterated.inputs.trans hrest
  · rw [hiterated.status]
  · rw [hiterated.control]
    exact hfailure
  · rw [hiterated.memory, hmemory, h.memory, reportedInputs_succ, Harness.run_concat]
  · -- resetting begins the replay of an execution, on the map as it is
    obtain ⟨r, hmap, hfollows⟩ := h.trace
    have hplayed := hfollows.reset.play (harness b.memory (inputAt inputs n)).1.hits
    rw [← hmemory, ← htracing, ← hiterated.tracing] at hplayed
    refine ⟨_, ?_, hplayed⟩
    rw [reported_succ, Replay.executeAll_concat, ← hmap, ← h.memory, hmemory]
    rfl

/-- The bench after a ping was read. -/
def pinged (b : Bench σ) : Bench σ :=
  ({ b with control.bytes := b.control.bytes.drop 4 }).record .pinged

/-- The bench after a ping was read and the process id sent. -/
def greeted (pid : Int32) (b : Bench σ) : Bench σ :=
  ({ pinged b with status := ⟨b.status.sent ++ Word.encode pid, none⟩ }).record (.reported pid)

/-- The bench after the first of the inputs was read, or an empty one. -/
def fetched (inputs : List ByteArray) (b : Bench σ) : Bench σ :=
  ({ b with inputs := inputs.tail.map .ok }).record (.read (inputs.headD .empty))

/-- A ping is answered with the input that is pending. -/
theorem answer_some (hle : 4 ≤ b.control.bytes.length) (hlimit : b.status.limit = none)
    (limit : Nat) (data : ByteArray) :
    answer harness pid (limit + 1) (some data) n b
      = (iterate harness data >>= fun _ => answer harness pid limit none (n + 1))
          (greeted pid b) := by
  have hpinged : (pinged b).status.limit = none := hlimit
  rw [answer, bind_of_ok (Bench.awaitPing_of_le hle ServeError.control), if_pos rfl]
  exact bind_of_ok (Bench.report_of_limit hpinged ServeError.status pid)

/-- Without one, it is answered with the next input. -/
theorem answer_none (hle : 4 ≤ b.control.bytes.length) (hlimit : b.status.limit = none)
    {rest : List ByteArray} (hrest : b.inputs = rest.map .ok) (limit : Nat) :
    answer harness pid (limit + 1) none n b
      = (iterate harness (rest.headD .empty) >>= fun _ => answer harness pid limit none (n + 1))
          (fetched rest (greeted pid b)) := by
  have hpinged : (pinged b).status.limit = none := hlimit
  have hgreeted : (greeted pid b).inputs = rest.map .ok := hrest
  rw [answer, bind_of_ok (Bench.awaitPing_of_le hle ServeError.control), if_pos rfl]
  refine (bind_of_ok (Bench.report_of_limit hpinged ServeError.status pid)).trans ?_
  exact bind_of_ok (Bench.readInput_of_ok hgreeted ServeError.input)

/-- The input that is read already when so many pings are answered: the first
one, which the harness was warmed up on. -/
def pending (inputs : List ByteArray) : Nat → Option ByteArray
  | 0 => some (inputAt inputs 0)
  | _ + 1 => none

theorem headD_drop (inputs : List ByteArray) (n : Nat) :
    (inputs.drop n).headD .empty = inputAt inputs n := by
  rw [List.headD_eq_head?_getD, List.head?_drop]
  rfl

/-- **One ping is answered by one iteration.** -/
theorem answer_step (h : Standing harness pid inputs start registered token n b)
    (hle : 4 ≤ b.control.bytes.length) :
    ∃ b', Standing harness pid inputs start registered token (n + 1) b' ∧
      b'.control.bytes.length = b.control.bytes.length - 4 ∧
      ∀ limit, answer harness pid (limit + 1) (pending inputs n) n b
        = answer harness pid limit (pending inputs (n + 1)) (n + 1) b' := by
  cases n with
  | zero =>
    -- the input of the run that warmed up is still pending
    have hcalls : (greeted pid b).calls = b.calls :=
      Bench.calls_eq [.pinged, .reported pid] rfl rfl
    have hreads : (greeted pid b).reads = b.reads :=
      Bench.reads_eq [.pinged, .reported pid] rfl rfl
    obtain ⟨b', hrun, hcontrol, hstanding⟩ := h.iterate (greeted pid b) h.failure rfl rfl rfl
      hcalls (hreads.trans h.reads) h.rest
    refine ⟨b', hstanding, ?_, fun limit => ?_⟩
    · rw [hcontrol]
      exact List.length_drop
    · exact (answer_some hle h.limit limit _).trans (bind_of_ok hrun)
  | succ n =>
    -- the next input is read, so as many are read as are reported
    have hmax : max 1 (n + 1) = n + 1 := Nat.max_eq_right (by omega)
    have hnext : max 1 (n + 1 + 1) = n + 1 + 1 := Nat.max_eq_right (by omega)
    have hrest : b.inputs = (inputs.drop (n + 1)).map .ok := by rw [h.rest, hmax]
    have hinput := headD_drop inputs (n + 1)
    have hcalls : (fetched (inputs.drop (n + 1)) (greeted pid b)).calls = b.calls :=
      Bench.calls_eq [.pinged, .reported pid, .read _] rfl rfl
    have hreads : (fetched (inputs.drop (n + 1)) (greeted pid b)).reads
        = b.reads ++ [inputAt inputs (n + 1)] :=
      hinput ▸ Bench.reads_append [.pinged, .reported pid, .read _] rfl
    obtain ⟨b', hrun, hcontrol, hstanding⟩ := h.iterate
      (fetched (inputs.drop (n + 1)) (greeted pid b)) h.failure rfl rfl rfl hcalls
      (by rw [hreads, h.reads, hmax, hnext, reportedInputs_succ inputs (n + 1), List.append_assoc])
      (by
        rw [hnext, fetched, List.tail_drop]
        rfl)
    refine ⟨b', hstanding, ?_, fun limit => ?_⟩
    · rw [hcontrol]
      exact List.length_drop
    · refine (answer_none hle h.limit hrest limit).trans ?_
      rw [hinput]
      exact bind_of_ok hrun

/-- **The loop answers all whole pings**, and ends with the control pipe. -/
theorem answer_served {limit : Nat} (h : Standing harness pid inputs start registered token n b)
    (hlimit : b.pings < limit) :
    ∃ b', answer harness pid limit (pending inputs n) n b = .ok (n + b.pings) b' ∧
      Standing harness pid inputs start registered token (n + b.pings) b' := by
  induction limit generalizing n b with
  | zero => exact absurd hlimit (Nat.not_lt_zero _)
  | succ limit ih =>
    by_cases hle : 4 ≤ b.control.bytes.length
    · obtain ⟨b', hstanding, hlength, hrun⟩ := answer_step h hle
      have hpings : b.pings = b'.pings + 1 := by
        rw [Bench.pings, Bench.pings, hlength]
        omega
      obtain ⟨b'', hrest, hserved⟩ := ih hstanding (by omega)
      have hcount : n + 1 + b'.pings = n + b.pings := by omega
      rw [hcount] at hrest hserved
      exact ⟨b'', (hrun limit).trans hrest, hserved⟩
    · -- what is left is no whole ping, and counts as the end
      have hpings : b.pings = 0 := Nat.div_eq_of_lt (Nat.lt_of_not_le hle)
      have hping := Bench.awaitPing_of_lt (Nat.lt_of_not_le hle) h.failure ServeError.control
      rw [hpings, Nat.add_zero, answer, bind_of_ok hping, if_neg Bool.false_ne_true]
      refine ⟨_, rfl, ⟨h.sent, ?_, ?_, h.rest⟩, h.limit, h.failure, h.memory, h.trace⟩
      · exact (Bench.calls_eq [.logged _] rfl rfl).trans h.calls
      · exact (Bench.reads_eq [.logged _] rfl rfl).trans h.reads

/-! ### The session -/

/-- The bench after the word that says that the server is ready. -/
def readied (b : Bench σ) : Bench σ :=
  ({ b with status := ⟨b.status.sent ++ Word.encode 0, none⟩ }).record (.reported 0)

/-- The run that warms up leaves nothing on the map. -/
theorem session_warmUp (harness : Harness σ) (pid : Int32) (start : Bench σ)
    (hlimit : start.status.limit = none) (hfailure : start.control.failure = none)
    (hinputs : start.inputs = inputs.map .ok) {r : Replay}
    (htrace : Tracing.Follows registered token start.tracing r) :
    ∃ b, session harness pid token start = answer harness pid (b.pings + 1) (pending inputs 0) 0 b ∧
      b.control = start.control ∧
      Standing harness pid inputs start registered token 0 b := by
  have hready := Bench.report_of_limit hlimit ServeError.status 0
  have hreadied : (readied start).inputs = inputs.map .ok := hinputs
  have hinput : inputs.headD .empty = inputAt inputs 0 := headD_drop inputs 0
  have hread : Bench.readInput ServeError.firstInput (readied start)
      = .ok (inputAt inputs 0) (fetched inputs (readied start)) := by
    rw [← hinput]
    exact Bench.readInput_of_ok hreadied ServeError.firstInput
  obtain ⟨b, hrun, hcalled⟩ := Bench.execute_called ServeError harness (inputAt inputs 0)
    { fetched inputs (readied start) with tracing := start.tracing.reset }
  have hreads : (fetched inputs (readied start)).reads = start.reads ++ [inputAt inputs 0] :=
    hinput ▸ Bench.reads_append [.reported 0, .read _] rfl
  have hcalls : (fetched inputs (readied start)).calls = start.calls :=
    Bench.calls_eq [.reported 0, .read _] rfl rfl
  refine ⟨_, (bind_of_ok hready).trans ((bind_of_ok hread).trans
    ((bind_of_ok rfl).trans ((bind_of_ok hrun).trans rfl))), hcalled.control, ?_⟩
  refine ⟨⟨?_, ?_, ?_, ?_⟩, ?_, ?_, hcalled.memory, ?_⟩
  · show b.status.sent = _
    rw [hcalled.status]
    rfl
  · apply (Bench.calls_eq [.logged _] rfl rfl).trans
    exact hcalled.calls.trans (congrArg (· ++ _) hcalls)
  · apply (Bench.reads_eq [.logged _] rfl rfl).trans
    exact hcalled.reads.trans hreads
  · show b.inputs = _
    rw [hcalled.inputs]
    show inputs.tail.map Except.ok = (inputs.drop 1).map .ok
    rw [List.drop_one]
  · show b.status.limit = none
    rw [hcalled.status]
    rfl
  · show b.control.failure = none
    rw [hcalled.control]
    exact hfailure
  · -- clearing forgets the hits of this run, whatever the map held before
    have hplayed := (htrace.reset.play (harness start.memory (inputAt inputs 0)).1.hits).clear
    have htracing : b.tracing
        = (start.tracing.reset.play (harness start.memory (inputAt inputs 0)).1.hits).1 :=
      hcalled.tracing
    rw [← htracing] at hplayed
    exact ⟨_, rfl, hplayed⟩

end

/-! ### The whole run -/

/-- What a run with `n` pings comes to: a number of iterations that is `n`, all
that `Served` says, and on the map the hits of the reported executions alone. -/
structure Complete (harness : Harness σ) (pid : Int32) (inputs : List ByteArray) (start : Bench σ)
    (n : Nat) (o : Outcome σ) : Prop where
  result : o.result = .ok n
  served : Served harness pid inputs start n o.bench
  map : o.map = Replay.executeAll start.tracing.isRegistered
    (reported harness start.memory inputs n)

/-- **The run of a fork server is determined by its pings, its inputs and its
harness**, whatever the map held before. -/
theorem serve?_complete (harness : Harness σ) (pid : Int32) (map : CoverageMap) (b : Bench σ)
    (inputs : List ByteArray) (hmap : map.size = mapSize) (htrace : b.tracing.Reachable)
    (hinputs : b.inputs = inputs.map .ok) (hcontrol : b.control.failure = none)
    (hstatus : b.status.limit = none) :
    ∃ o, serve? harness pid map b = some o ∧
      Complete harness pid inputs b (b.control.bytes.length / 4) o := by
  -- the map gets a context of its own, which the session then works on
  obtain ⟨⟨tracing, token⟩, hinstall⟩ : ∃ p, b.tracing.install? map none = some p :=
    ⟨_, if_pos hmap⟩
  obtain ⟨r, -, hfollows⟩ := Tracing.follows_install htrace.routed hinstall
  obtain ⟨b₀, hsession, hcontrol₀, hstanding₀⟩ :=
    session_warmUp harness pid { b with tracing } hstatus hcontrol hinputs hfollows
  obtain ⟨b₁, hanswer, hstanding₁⟩ := answer_served hstanding₀ (Nat.lt_succ_self b₀.pings)
  have hpings : 0 + b₀.pings = b.control.bytes.length / 4 := by
    rw [Nat.zero_add, Bench.pings, hcontrol₀]
  rw [hpings] at hanswer hstanding₁
  refine ⟨⟨.ok (b.control.bytes.length / 4), b₁.tracing.map token,
    { b₁ with tracing := b₁.tracing.drop token }⟩, ?_, rfl, ?_, ?_⟩
  · rw [serve?, hinstall, Option.map_some]
    dsimp only
    rw [hsession, hanswer]
  · obtain ⟨hserved, -, -, -, -⟩ := hstanding₁
    exact ⟨hserved.sent, hserved.calls, hserved.reads, hserved.rest⟩
  · obtain ⟨r', hmap', hfollows'⟩ := hstanding₁.trace
    show (b₁.tracing.maps[token]?).getD #[] = _
    rw [hfollows'.map]
    exact hmap'

/-- A harness that panics when it is called for the third time. -/
def thirdTimeUnlucky : Harness Nat := fun calls _ =>
  ({ hits := [.call .counter 0x17 "M"], panic := if calls = 2 then some .foreign else none },
    calls + 1)

theorem thirdTimeUnlucky_complete :
    ∃ o, serve? thirdTimeUnlucky 7 .zero
        { control := ⟨[1, 0, 0, 0, 2, 0, 0, 0, 3], none⟩, inputs := [], memory := 0 } = some o ∧
      o.result = .ok 2 ∧ o.bench.status.sent = [0, 7, 0, 7, 2].flatMap Word.encode := by
  obtain ⟨o, hserve, hcomplete⟩ := serve?_complete thirdTimeUnlucky 7 .zero
    { control := ⟨[1, 0, 0, 0, 2, 0, 0, 0, 3], none⟩, inputs := [], memory := 0 } []
    Array.size_replicate .start rfl rfl rfl
  exact ⟨o, hserve, hcomplete.result, hcomplete.served.sent⟩

end ForkServer

end BranchCoverage
