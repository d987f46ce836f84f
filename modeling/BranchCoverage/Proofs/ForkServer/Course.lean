/-
The course of a fork server that may fail.

A server takes the steps of its script until one of them fails.  The invariant is
`Came`: the steps taken so far account for all that has changed on the bench
(`Moves`), and none of them has failed (`Passed`).  Each kind of step takes it one
further, or fails for a reason that was there from the beginning (`Strikes`), and
then the server stops where it is (`Struck`).  So a session ends with the whole script
behind it, or with a part that a failing step goes on from (`course_session`).

What has been read of inputs that cannot all be read does not depend on those behind
the first bad one (`Mends`).
-/
import BranchCoverage.Proofs.Channel
import BranchCoverage.Proofs.ForkServer.Script
import BranchCoverage.Proofs.Trace.History

namespace BranchCoverage

namespace ForkServer

variable {σ : Type}

/-! ### Failures -/

/-- Inputs that are those of a queue up to the first that cannot be read, and
otherwise anything. -/
inductive Mends : List (Except String ByteArray) → List ByteArray → Prop
  | done : Mends [] []
  | read {queue : List (Except String ByteArray)} {inputs : List ByteArray} (data : ByteArray)
      (h : Mends queue inputs) : Mends (.ok data :: queue) (data :: inputs)
  | failed (reason : String) (queue : List (Except String ByteArray)) (inputs : List ByteArray) :
      Mends (.error reason :: queue) inputs

theorem mends_map (inputs : List ByteArray) : Mends (inputs.map .ok) inputs := by
  induction inputs with
  | nil => exact .done
  | cons data rest ih => exact .read data ih

theorem Mends.cases {queue : List (Except String ByteArray)} {inputs : List ByteArray}
    (h : Mends queue inputs) : (queue = [] ∧ inputs = []) ∨
      (∃ data queue' inputs', queue = .ok data :: queue' ∧ inputs = data :: inputs' ∧
        Mends queue' inputs') ∨ ∃ reason queue', queue = .error reason :: queue' := by
  cases h with
  | done => exact .inl ⟨rfl, rfl⟩
  | read data h => exact .inr (.inl ⟨data, _, _, rfl, rfl, h⟩)
  | failed reason queue inputs => exact .inr (.inr ⟨reason, queue, rfl⟩)

/-- Something fails before all pings are answered: the status pipe has no room for
the words, the control pipe does not just end, or an input cannot be read. -/
inductive Impeded (b : Bench σ) : Prop
  | status (limit : Limit) (hlimit : b.status.limit = some limit)
      (hroom : limit.room < b.status.sent.length + 4 * (2 * b.pings + 1)) : Impeded b
  | control (reason : String) (hfailure : b.control.failure = some reason) : Impeded b
  | input (i : Nat) (reason : String) (hi : i < max 1 b.pings)
      (hinput : b.inputs[i]? = some (.error reason)) : Impeded b

/-- No step has failed. -/
structure Passed (start : Bench σ) (acts : List Act) : Prop where
  pings : Act.pings acts ≤ start.pings
  fits : ∀ limit, start.status.limit = some limit → Act.words acts ≠ [] →
    start.status.sent.length + 4 * (Act.words acts).length ≤ limit.room
  readable : ∀ i reason, i < (Act.reads acts).length → start.inputs[i]? ≠ some (.error reason)

/-- Behind these steps the next one fails, when some bytes of it may have been sent. -/
inductive Strikes (start : Bench σ) (acts : List Act) : Act → List UInt8 → ServeError → Prop
  | status {limit : Limit} {word : Int32} {part : List UInt8}
      (hlimit : start.status.limit = some limit)
      (hroom : limit.room < start.status.sent.length + 4 * ((Act.words acts).length + 1))
      (hpart : part <+: Word.encode word) (hlength : part.length < 4) :
      Strikes start acts (.reported word) part (.status (.broken limit.reason))
  | control {reason : String} (hfailure : start.control.failure = some reason)
      (hpings : Act.pings acts = start.pings) :
      Strikes start acts .pinged [] (.control (.broken reason))
  | input {reason : String} {data : ByteArray} {fail : IoError → ServeError}
      (hinput : start.inputs[(Act.reads acts).length]? = some (.error reason)) :
      Strikes start acts (.read data) [] (fail (.broken reason))

section

variable {harness : Harness σ} {pid : Int32} {inputs : List ByteArray} {start b : Bench σ}
  {l : Ledger} {acts : List Act} {next : Act} {part : List UInt8} {e : ServeError} {n : Nat}

/-- A step of the script that fails does so before all pings are answered. -/
theorem Strikes.impeded (h : Strikes start acts next part e) (hpassed : Passed start acts)
    (hnext : acts ++ [next] <+: script harness pid start.memory inputs n) : Impeded start := by
  have hscript := isPrefix_script_pings hnext
  have hpings := hpassed.pings
  rcases h with ⟨hlimit, hroom, -, -⟩ | ⟨hfailure, -⟩ | hinput
  · rename_i limit word
    have hwords : (Act.words acts).length + 1 ≤ 2 * Act.pings acts + 1 := by
      have hlength := (hscript.filterMap Act.word?).length_le
      rw [Act.pings_append, ← Act.words, ← Act.words, Act.words_append, List.length_append,
        length_words_script] at hlength
      exact hlength
    exact .status limit hlimit (by omega)
  · exact .control _ hfailure
  · rename_i reason data fail
    have hreads : (Act.reads acts).length + 1 ≤ max 1 (Act.pings acts) := by
      have hlength := (hscript.filterMap Act.read?).length_le
      rw [Act.pings_append, ← Act.reads, ← Act.reads, Act.reads_append, List.length_append,
        length_reads_script] at hlength
      exact hlength
    exact .input _ reason (by omega) hinput

/-- If the whole script was taken, nothing failed. -/
theorem Passed.not_impeded
    (h : Passed start (script harness pid start.memory inputs start.pings))
    (hfailure : start.control.failure = none) : ¬ Impeded start := by
  rintro (⟨limit, hlimit, hroom⟩ | ⟨reason, hbroken⟩ | ⟨i, reason, hi, hinput⟩)
  · have hne : Act.words (script harness pid start.memory inputs start.pings) ≠ [] := by
      rw [words_script]
      exact List.cons_ne_nil _ _
    have hfits := h.fits limit hlimit hne
    rw [length_words_script] at hfits
    omega
  · rw [hfailure] at hbroken
    cases hbroken
  · exact h.readable i reason (length_reads_script start.pings ▸ hi) hinput

/-! ### What steps change -/

/-- What acts change on a bench.  They may change the trace states besides. -/
structure Moves (harness : Harness σ) (acts : List Act) (b b' : Bench σ) : Prop where
  steps : b'.steps = b.steps ++ acts
  sent : b'.status.sent = b.status.sent ++ (Act.words acts).flatMap Word.encode
  limit : b'.status.limit = b.status.limit
  bytes : b'.control.bytes = b.control.bytes.drop (4 * Act.pings acts)
  failure : b'.control.failure = b.control.failure
  queue : b'.inputs = b.inputs.drop (Act.reads acts).length
  memory : b'.memory = (harness.run b.memory (Act.calls acts)).2

theorem memory_run_append (harness : Harness σ) (memory : σ) (inputs more : List ByteArray) :
    (harness.run memory (inputs ++ more)).2
      = (harness.run (harness.run memory inputs).2 more).2 := by
  induction inputs generalizing memory with
  | nil => rfl
  | cons data rest ih => exact ih _

theorem Moves.trans {b' b'' : Bench σ} {more : List Act} (h : Moves harness acts b b')
    (h' : Moves harness more b' b'') : Moves harness (acts ++ more) b b'' where
  steps := by rw [h'.steps, h.steps, List.append_assoc]
  sent := by rw [h'.sent, h.sent, Act.words_append, List.flatMap_append, List.append_assoc]
  limit := h'.limit.trans h.limit
  bytes := by rw [h'.bytes, h.bytes, List.drop_drop, Act.pings_append, Nat.mul_add]
  failure := h'.failure.trans h.failure
  queue := by rw [h'.queue, h.queue, List.drop_drop, Act.reads_append, List.length_append]
  memory := by rw [h'.memory, h.memory, Act.calls_append, memory_run_append]

/-- Changing the trace states is no step. -/
theorem moves_nil (b : Bench σ) (tracing : Tracing) : Moves harness [] b { b with tracing } :=
  ⟨(List.append_nil _).symm, (List.append_nil _).symm, rfl, rfl, rfl, rfl, rfl⟩

theorem moves_log (b : Bench σ) (line : LogLine) : Moves harness [] b (b.record (.logged line)) :=
  ⟨Bench.steps_append [.logged line] rfl, (List.append_nil _).symm, rfl, rfl, rfl, rfl, rfl⟩

theorem moves_report (b : Bench σ) (word : Int32) :
    Moves harness [.reported word] b
      ({ b with status.sent := b.status.sent ++ Word.encode word }.record (.reported word)) :=
  ⟨Bench.steps_append [.reported word] rfl, congrArg (b.status.sent ++ ·) (List.append_nil _).symm,
    rfl, rfl, rfl, rfl, rfl⟩

theorem moves_ping (b : Bench σ) :
    Moves harness [.pinged] b
      ({ b with control.bytes := b.control.bytes.drop 4 }.record .pinged) :=
  ⟨Bench.steps_append [.pinged] rfl, (List.append_nil _).symm, rfl, rfl, rfl, rfl, rfl⟩

theorem moves_read (b : Bench σ) (data : ByteArray) :
    Moves harness [.read data] b ({ b with inputs := b.inputs.tail }.record (.read data)) :=
  ⟨Bench.steps_append [.read data] rfl, (List.append_nil _).symm, rfl, rfl, rfl, List.drop_one.symm,
    rfl⟩

/-- A call that ends has these two steps, with others of no account in between. -/
theorem steps_execute (harness : Harness σ) (data : ByteArray) (b : Bench σ) (fault : Fault) :
    (Act.called data :: Bench.asides harness data b ++ [Act.finished fault]).filterMap Act.step?
      = [.called data, .finished fault] := by
  have hside := Bench.filterMap_asides Act.step? (fun _ => rfl) (fun _ => rfl) harness data b
  show Act.called data ::
    (Bench.asides harness data b ++ [Act.finished fault]).filterMap Act.step? = _
  rw [List.filterMap_append, hside]
  rfl

/-! ### Benches on their way -/

/-- The steps have been taken, and part of a word may have been sent behind them. -/
structure Taken (start : Bench σ) (l : Ledger) (acts : List Act) (part : List UInt8)
    (b : Bench σ) : Prop where
  steps : b.steps = start.steps ++ acts
  sent : b.status.sent
    = start.status.sent ++ ((Act.words acts).flatMap Word.encode ++ part)
  tracing : b.tracing.Matches l
  passed : Passed start acts

/-- The steps have been taken, and the bench is ready for the next one. -/
structure Came (harness : Harness σ) (inputs : List ByteArray) (start : Bench σ) (l : Ledger)
    (acts : List Act) (b : Bench σ) : Prop where
  moves : Moves harness acts start b
  tracing : b.tracing.Matches l
  passed : Passed start acts
  mends : Mends b.inputs (inputs.drop (Act.reads acts).length)

/-- The server has stopped for the reason that the next step of the script fails. -/
def Struck (harness : Harness σ) (pid : Int32) (inputs : List ByteArray) (start : Bench σ)
    (l : Ledger) (e : ServeError) (b : Bench σ) : Prop :=
  ∃ acts next part, Taken start l acts part b ∧ Strikes start acts next part e ∧
    ∃ n, acts ++ [next] <+: script harness pid start.memory inputs n

/-- The control pipe has ended, and all pings have been answered. -/
structure Finished (harness : Harness σ) (pid : Int32) (inputs : List ByteArray) (start : Bench σ)
    (l : Ledger) (n : Nat) (b : Bench σ) : Prop where
  pings : n = start.pings
  failure : start.control.failure = none
  taken : Taken start l (script harness pid start.memory inputs n) [] b

/-- In the beginning nothing has been done, whatever traces there are. -/
theorem came_start (hmends : Mends start.inputs inputs) {tracing : Tracing}
    (htracing : tracing.Matches l) : Came harness inputs start l [] { start with tracing } where
  moves := moves_nil start tracing
  tracing := htracing
  passed := ⟨Nat.zero_le _, fun _ _ hne => absurd rfl hne,
    fun _ _ hi => absurd hi (Nat.not_lt_zero _)⟩
  mends := hmends

theorem Came.taken (h : Came harness inputs start l acts b) : Taken start l acts [] b where
  steps := h.moves.steps
  sent := by rw [h.moves.sent, List.append_nil]
  tracing := h.tracing
  passed := h.passed

/-- Steps that do nothing leave things as they are. -/
theorem Came.idle (h : Came harness inputs start l acts b) {b' : Bench σ}
    (hmoves : Moves harness [] b b') (htracing : b'.tracing.Matches l) :
    Came harness inputs start l acts b' where
  moves := List.append_nil acts ▸ h.moves.trans hmoves
  tracing := htracing
  passed := h.passed
  mends := by
    rw [hmoves.queue]
    exact h.mends

/-- More steps pass if they pass on their own. -/
theorem Passed.append {more : List Act} (h : Passed start acts)
    (hpings : Act.pings acts + Act.pings more ≤ start.pings)
    (hfits : ∀ limit, start.status.limit = some limit → Act.words more ≠ [] →
      start.status.sent.length + 4 * ((Act.words acts).length + (Act.words more).length)
        ≤ limit.room)
    (hreadable : ∀ i reason, i < (Act.reads more).length →
      start.inputs[(Act.reads acts).length + i]? ≠ some (.error reason)) :
    Passed start (acts ++ more) where
  pings := by
    rw [Act.pings_append]
    exact hpings
  fits limit hlimit hne := by
    rw [Act.words_append] at hne ⊢
    rw [List.length_append]
    by_cases hmore : Act.words more = []
    · rw [hmore] at hne ⊢
      exact h.fits limit hlimit fun hnil => hne (by rw [hnil]; rfl)
    · exact hfits limit hlimit hmore
  readable i reason hi := by
    rw [Act.reads_append, List.length_append] at hi
    by_cases hbefore : i < (Act.reads acts).length
    · exact h.readable i reason hbefore
    · have hmore := hreadable (i - (Act.reads acts).length) reason (by omega)
      rwa [Nat.add_sub_of_le (Nat.le_of_not_lt hbefore)] at hmore

/-! ### Steps -/

/-- A change of the trace states that the ledger does not see. -/
theorem Came.trace (h : Came harness inputs start l acts b) {change : Tracing → Tracing}
    (hchange : (change b.tracing).Matches l) {E : ServeError → Bench σ → Prop} :
    Ends (fun _ => Came harness inputs start l acts) E (Bench.trace change b) :=
  h.idle (moves_nil b _) hchange

theorem Came.log (h : Came harness inputs start l acts b) (level : Level) (message : String)
    {E : ServeError → Bench σ → Prop} :
    Ends (fun _ => Came harness inputs start l acts) E (Bench.log level message b) :=
  h.idle (moves_log b _) h.tracing

/-- A word is written, or its write fails. -/
theorem Came.report (h : Came harness inputs start l acts b) {word : Int32}
    (hnext : acts ++ [.reported word] <+: script harness pid start.memory inputs n) :
    Ends (fun _ => Came harness inputs start l (acts ++ [.reported word]))
      (Struck harness pid inputs start l) (Bench.report .status word b) := by
  have hlength : b.status.sent.length + 4
      = start.status.sent.length + 4 * ((Act.words acts).length + 1) := by
    rw [h.moves.sent, List.length_append, Word.length_flatMap_encode]
    omega
  rw [Bench.report]
  rcases Outlet.writeWord_cases word b.status with hwrite | ⟨e, part, hpart, hlt, hwrite⟩
  · rw [hwrite]
    refine ⟨h.moves.trans (moves_report b word), h.tracing, ?_, ?_⟩
    · refine h.passed.append h.passed.pings ?_ fun i _ hi => absurd hi (Nat.not_lt_zero i)
      intro limit hlimit _
      have hroom := Outlet.le_room_of_ok (h.moves.limit.trans hlimit) hwrite
      exact hlength ▸ hroom
    · rw [Act.reads_append, List.length_append]
      exact h.mends
  · rw [hwrite]
    obtain ⟨limit, hlimit, hroom, rfl⟩ := Outlet.exists_limit_of_error hwrite
    refine ⟨acts, _, part, ⟨h.moves.steps, ?_, h.tracing, h.passed⟩,
      .status (h.moves.limit.symm.trans hlimit) (hlength ▸ hroom) hpart hlt, n, hnext⟩
    show b.status.sent ++ part = _
    rw [h.moves.sent, List.append_assoc]

/-- A ping is read, or the control pipe has ended or fails. -/
theorem Came.awaitPing (h : Came harness inputs start l acts b)
    (hnext : acts ++ [.pinged] <+: script harness pid start.memory inputs n) :
    Ends (fun again b' =>
        again = true ∧ Came harness inputs start l (acts ++ [.pinged]) b' ∨
        again = false ∧ Act.pings acts = start.pings ∧ start.control.failure = none ∧
          Taken start l acts [] b')
      (Struck harness pid inputs start l) (Bench.awaitPing .control b) := by
  have hpassed := h.passed.pings
  have hlength : b.control.bytes.length = start.control.bytes.length - 4 * Act.pings acts := by
    rw [h.moves.bytes, List.length_drop]
  rw [Bench.pings] at hpassed
  by_cases hle : 4 ≤ b.control.bytes.length
  · rw [Bench.awaitPing_of_le hle]
    refine .inl ⟨rfl, h.moves.trans (moves_ping b), h.tracing, ?_, ?_⟩
    · refine h.passed.append ?_ (fun _ _ hne => absurd rfl hne)
        fun i _ hi => absurd hi (Nat.not_lt_zero i)
      show Act.pings acts + 1 ≤ start.control.bytes.length / 4
      omega
    · rw [Act.reads_append, List.length_append]
      exact h.mends
  · -- what is left is no whole ping
    have hall : Act.pings acts = start.pings := by
      rw [Bench.pings]
      omega
    have htaken := h.taken
    have hread := Source.readWord_of_lt (Nat.lt_of_not_le hle)
    rw [Bench.awaitPing, hread, Source.exhausted]
    rcases hfailure : b.control.failure with - | reason
    · exact .inr ⟨rfl, hall, h.moves.failure.symm.trans hfailure, htaken.steps, htaken.sent,
        htaken.tracing, htaken.passed⟩
    · exact ⟨acts, .pinged, [], ⟨htaken.steps, htaken.sent, htaken.tracing, htaken.passed⟩,
        .control (h.moves.failure.symm.trans hfailure) hall, n, hnext⟩

/-- The next of the inputs is the first of the queue. -/
theorem Came.head?_inputs (h : Came harness inputs start l acts b) :
    b.inputs.head? = start.inputs[(Act.reads acts).length]? := by
  rw [h.moves.queue, List.head?_drop]

/-- The bench after the next input was read. -/
theorem Came.read (h : Came harness inputs start l acts b)
    (hok : ∀ reason, b.inputs.head? ≠ some (.error reason))
    (hmends : Mends b.inputs.tail (inputs.drop (Act.reads acts).length).tail) (data : ByteArray) :
    Came harness inputs start l (acts ++ [.read data])
      ({ b with inputs := b.inputs.tail }.record (.read data)) := by
  refine ⟨h.moves.trans (moves_read b data), h.tracing, ?_, ?_⟩
  · refine h.passed.append h.passed.pings (fun _ _ hne => absurd rfl hne) fun i reason hi => ?_
    obtain rfl : i = 0 := Nat.lt_one_iff.mp hi
    exact h.head?_inputs ▸ hok reason
  · rw [Act.reads_append, List.length_append]
    exact List.tail_drop ▸ hmends

/-- An input is read, or cannot be. -/
theorem Came.readInput (h : Came harness inputs start l acts b) {data : ByteArray}
    (hdata : data = inputAt inputs (Act.reads acts).length) (fail : IoError → ServeError)
    (hnext : acts ++ [.read data] <+: script harness pid start.memory inputs n) :
    Ends (fun found b' => found = data ∧ Came harness inputs start l (acts ++ [.read data]) b')
      (Struck harness pid inputs start l) (Bench.readInput fail b) := by
  rw [← headD_drop] at hdata
  rw [Bench.readInput]
  rcases h.mends.cases with ⟨hnil, hrest⟩ | ⟨found, queue, rest, hqueue, hrest, hmends⟩ |
    ⟨reason, queue, hqueue⟩
  · -- there are no more inputs, and an empty one is read
    have hread := h.read (by simp [hnil]) (by simpa [hnil, hrest] using Mends.done) data
    have hsame : b.inputs.tail = b.inputs := by rw [hnil]; rfl
    rw [hsame] at hread
    rw [hnil]
    rw [hrest] at hdata
    obtain rfl : data = .empty := hdata
    exact ⟨rfl, hread⟩
  · have hread := h.read (by simp [hqueue]) (by simpa [hqueue, hrest] using hmends) data
    rw [hqueue] at hread ⊢
    rw [hrest] at hdata
    obtain rfl : data = found := hdata
    exact ⟨rfl, hread⟩
  · have htaken := h.taken
    have hinput : start.inputs[(Act.reads acts).length]? = some (.error reason) := by
      rw [← h.head?_inputs, hqueue]
      rfl
    rw [hqueue]
    exact ⟨acts, _, [], ⟨htaken.steps, htaken.sent, htaken.tracing, htaken.passed⟩, .input hinput,
      n, hnext⟩

/-- The harness is called and ends, whatever becomes of it. -/
theorem Came.execute (h : Came harness inputs start l acts b) (data : ByteArray)
    {E : ServeError → Bench σ → Prop} {fault : Fault}
    (hfault : fault = (harness (harness.run start.memory (Act.calls acts)).2 data).1.fault) :
    Ends (fun found b' => found = fault ∧
        Came harness inputs start l (acts ++ [.called data, .finished fault]) b')
      E (Bench.execute harness data b) := by
  rw [← h.moves.memory] at hfault
  rw [Bench.execute_eq, ← hfault]
  refine ⟨rfl, h.moves.trans ⟨?_, (List.append_nil _).symm, rfl, rfl, rfl, rfl, rfl⟩,
    h.tracing.play _, ?_, ?_⟩
  · rw [← steps_execute harness data b fault]
    exact Bench.steps_append _ rfl
  · exact h.passed.append h.passed.pings (fun _ _ hne => absurd rfl hne)
      fun i _ hi => absurd hi (Nat.not_lt_zero i)
  · rw [Act.reads_append, List.length_append]
    exact h.mends

/-! ### Rounds -/

/-- The first steps of a round go on from the rounds before it. -/
theorem append_isPrefix_script (h : acts <+: round harness pid start.memory inputs n) :
    script harness pid start.memory inputs n ++ acts
      <+: script harness pid start.memory inputs (n + 1) :=
  (List.prefix_append_right_inj _).mpr h

/-- An iteration takes the steps of a round from the call on. -/
theorem Came.iterate
    (h : Came harness inputs start l
      (script harness pid start.memory inputs n ++ greeting pid inputs n) b) :
    Ends (fun _ => Came harness inputs start l (script harness pid start.memory inputs (n + 1)))
      (Struck harness pid inputs start l) (iterate harness (inputAt inputs n) b) := by
  have hcalls : Act.calls (script harness pid start.memory inputs n ++ greeting pid inputs n)
      = inputAt inputs 0 :: reportedInputs inputs n := by
    rw [Act.calls_append, calls_script, calls_greeting, List.append_nil]
  have hfault : faultAt harness start.memory inputs n
      = (harness (harness.run start.memory (Act.calls (script harness pid start.memory inputs n ++
          greeting pid inputs n))).2 (inputAt inputs n)).1.fault := by
    rw [hcalls, faultAt]
  refine (h.trace h.tracing.reset).bind fun _ b' hreset => ?_
  refine (hreset.execute (inputAt inputs n) hfault).bind ?_
  rintro found b' ⟨rfl, hended⟩
  have hround : script harness pid start.memory inputs n ++ greeting pid inputs n ++
      [.called (inputAt inputs n), .finished (faultAt harness start.memory inputs n)] ++
        [.reported (faultAt harness start.memory inputs n).code]
      = script harness pid start.memory inputs (n + 1) := by
    rw [script, round, List.append_assoc, List.append_assoc]
    rfl
  rw [← hround]
  exact hended.report ⟨[], (List.append_nil _).trans hround⟩

/-- The input of a round: the first one is pending, the others are read. -/
def receive (inputs : List ByteArray) : Nat → Serving σ ByteArray
  | 0 => pure (inputAt inputs 0)
  | _ + 1 => Bench.readInput .input

theorem answer_succ (limit n : Nat) :
    answer harness pid (limit + 1) (pending inputs n) n = (do
      if ← Bench.awaitPing .control then
        Bench.report .status pid
        let data ← receive inputs n
        iterate harness data
        answer harness pid limit (pending inputs (n + 1)) (n + 1)
      else
        Bench.log .info s!"Driver closed the control pipe after {n} iteration(s)"
        pure n) := by
  cases n <;> rfl

theorem Came.receive
    (h : Came harness inputs start l
      (script harness pid start.memory inputs n ++ [.pinged, .reported pid]) b) :
    Ends (fun data b' => data = inputAt inputs n ∧ Came harness inputs start l
        (script harness pid start.memory inputs n ++ greeting pid inputs n) b')
      (Struck harness pid inputs start l)
      (receive inputs n b) := by
  cases n with
  | zero => exact ⟨rfl, h⟩
  | succ n =>
    have hreads : inputAt inputs (n + 1) = inputAt inputs (Act.reads
        (script harness pid start.memory inputs (n + 1) ++ [.pinged, .reported pid])).length := by
      rw [Act.reads_append, List.length_append, length_reads_script]
      congr 1
    have hgreeting : script harness pid start.memory inputs (n + 1) ++ greeting pid inputs (n + 1)
        = script harness pid start.memory inputs (n + 1) ++ [.pinged, .reported pid] ++
          [.read (inputAt inputs (n + 1))] :=
      (List.append_assoc _ _ _).symm
    have hnext : script harness pid start.memory inputs (n + 1) ++ greeting pid inputs (n + 1)
        <+: script harness pid start.memory inputs (n + 2) :=
      append_isPrefix_script (List.prefix_append _ _)
    rw [hgreeting] at hnext ⊢
    exact h.readInput hreads ServeError.input hnext

/-- **The loop answers ping after ping**, until the control pipe ends or a step
fails. -/
theorem course_answer {limit : Nat}
    (h : Came harness inputs start l (script harness pid start.memory inputs n) b)
    (hlimit : start.pings < n + limit) :
    Ends (Finished harness pid inputs start l) (Struck harness pid inputs start l)
      (answer harness pid limit (pending inputs n) n b) := by
  induction limit generalizing n b with
  | zero =>
    have hpings := h.passed.pings
    rw [pings_script] at hpings
    omega
  | succ limit ih =>
    have hping : script harness pid start.memory inputs n ++ [.pinged]
        <+: script harness pid start.memory inputs (n + 1) :=
      append_isPrefix_script ⟨_, rfl⟩
    have hpid : script harness pid start.memory inputs n ++ [.pinged] ++ [.reported pid]
        <+: script harness pid start.memory inputs (n + 1) := by
      rw [List.append_assoc]
      exact append_isPrefix_script ⟨_, rfl⟩
    rw [answer_succ]
    refine (h.awaitPing hping).bind ?_
    rintro again b' (⟨rfl, hpinged⟩ | ⟨rfl, hpings, hfailure, htaken⟩)
    · rw [if_pos rfl]
      refine (hpinged.report hpid).bind fun _ b' hgreeted => ?_
      rw [List.append_assoc] at hgreeted
      refine hgreeted.receive.bind ?_
      rintro data b' ⟨rfl, hfetched⟩
      refine hfetched.iterate.bind fun _ b' hround => ?_
      exact ih hround (by omega)
    · rw [if_neg Bool.false_ne_true]
      rw [pings_script] at hpings
      refine ⟨hpings, hfailure, ?_, htaken.sent, htaken.tracing, htaken.passed⟩
      rw [← htaken.steps]
      exact (Bench.steps_append [.logged _] rfl).trans (List.append_nil _)

/-- **A session takes the steps of its script**, all of them or up to one that
fails. -/
theorem course_session (hmends : Mends start.inputs inputs) {tracing : Tracing}
    (htracing : tracing.Matches l) (token : Nat) :
    Ends (Finished harness pid inputs start l) (Struck harness pid inputs start l)
      (session harness pid token { start with tracing }) := by
  have hready : [] ++ [.reported 0] <+: script harness pid start.memory inputs 0 := ⟨_, rfl⟩
  have hread : [] ++ [.reported 0] ++ [.read (inputAt inputs 0)]
      <+: script harness pid start.memory inputs 0 := ⟨_, rfl⟩
  have hinput : inputAt inputs 0 = inputAt inputs (Act.reads ([] ++ [.reported 0])).length := rfl
  have hfault : warmUpFault harness start.memory inputs
      = (harness (harness.run start.memory (Act.calls
          ([] ++ [.reported 0] ++ [.read (inputAt inputs 0)]))).2 (inputAt inputs 0)).1.fault :=
    rfl
  rw [session]
  refine ((came_start hmends htracing).report hready).bind fun _ b hreadied => ?_
  refine (hreadied.readInput hinput ServeError.firstInput hread).bind ?_
  rintro data b ⟨rfl, hfound⟩
  refine (hfound.trace hfound.tracing.reset).bind fun _ b hreset => ?_
  refine (hreset.execute (inputAt inputs 0) hfault).bind ?_
  rintro fault b ⟨rfl, hwarm⟩
  refine (hwarm.log _ _).bind fun _ b hlogged => ?_
  refine (hlogged.trace (hlogged.tracing.clear token)).bind fun _ b hcleared => ?_
  have hpings : b.pings = start.pings := congrArg (·.length / 4) hcleared.moves.bytes
  have hlimit : start.pings < 0 + (b.pings + 1) := by omega
  exact course_answer hcleared hlimit

end

end ForkServer

end BranchCoverage
