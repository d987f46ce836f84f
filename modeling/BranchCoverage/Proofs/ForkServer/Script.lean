/-
The steps of a fork server, in the order in which it takes them.

A run in which nothing fails takes the steps of a `script`: those of the run that
warms up, and then one `round` for each ping.  A run that stops early has taken the
first of them.  So what is true of all beginnings of the script is true of all runs:
a call that is reported comes after its ping and its process id, and a fault after
the call that it is the fault of (`inOrder_of_isPrefix`).

By `step_of_script` a step is one of the run that warms up or of one round, with all
earlier rounds in front of it, and then there are few steps to look at.
-/
import BranchCoverage.Proofs.ForkServer.Serve

namespace BranchCoverage

/-! ### Steps in a journal -/

namespace Act

/-- The act if it is a step of a server, and not what is noticed or logged on the
way. -/
def step? : Act → Option Act
  | .noticed _ | .logged _ => none
  | act => some act

/-- The word that an act writes to the status pipe. -/
def word? : Act → Option Int32
  | .reported word => some word
  | _ => none

/-- Whether an act reads a ping. -/
def isPing : Act → Bool
  | .pinged => true
  | _ => false

/-- The words that acts write to the status pipe. -/
def words (acts : List Act) : List Int32 :=
  acts.filterMap word?

/-- The number of pings that acts read. -/
def pings (acts : List Act) : Nat :=
  acts.countP isPing

/-- The inputs that acts read. -/
def reads (acts : List Act) : List ByteArray :=
  acts.filterMap read?

/-- The inputs that acts call the harness on. -/
def calls (acts : List Act) : List ByteArray :=
  acts.filterMap called?

@[simp] theorem words_append (acts more : List Act) :
    words (acts ++ more) = words acts ++ words more :=
  List.filterMap_append

@[simp] theorem pings_append (acts more : List Act) :
    pings (acts ++ more) = pings acts + pings more :=
  List.countP_append

@[simp] theorem reads_append (acts more : List Act) :
    reads (acts ++ more) = reads acts ++ reads more :=
  List.filterMap_append

@[simp] theorem calls_append (acts more : List Act) :
    calls (acts ++ more) = calls acts ++ calls more :=
  List.filterMap_append

/-- What acts do is done by the steps among them. -/
theorem filterMap_steps {β : Type} (f : Act → Option β)
    (hnoticed : ∀ notice, f (.noticed notice) = none) (hlogged : ∀ line, f (.logged line) = none)
    (acts : List Act) : (acts.filterMap step?).filterMap f = acts.filterMap f := by
  have hstep : (fun act => (step? act).bind f) = f := by
    funext act
    cases act with
    | noticed notice => exact (hnoticed notice).symm
    | logged line => exact (hlogged line).symm
    | _ => rfl
  rw [List.filterMap_filterMap, hstep]

end Act

/-- The steps in a journal. -/
def Bench.steps {σ : Type} (b : Bench σ) : List Act :=
  b.acts.filterMap Act.step?

theorem Bench.steps_append {σ : Type} {b b' : Bench σ} (acts : List Act)
    (h : b'.journal = acts.reverse ++ b.journal) :
    b'.steps = b.steps ++ acts.filterMap Act.step? := by
  rw [steps, acts_append acts h, List.filterMap_append]
  rfl

theorem Bench.calls_steps {σ : Type} (b : Bench σ) : Act.calls b.steps = b.calls :=
  Act.filterMap_steps _ (fun _ => rfl) (fun _ => rfl) b.acts

namespace ForkServer

variable {σ : Type} (harness : Harness σ) (pid : Int32) (memory : σ) (inputs : List ByteArray)

/-! ### The script -/

/-- The fault of the run that warms up. -/
def warmUpFault : Fault :=
  (harness memory (inputAt inputs 0)).1.fault

/-- The fault of the reported run with the given number. -/
def faultAt (n : Nat) : Fault :=
  (harness (harness.run memory (inputAt inputs 0 :: reportedInputs inputs n)).2
    (inputAt inputs n)).1.fault

/-- The steps of the run that warms up. -/
def warmUp : List Act :=
  [.reported 0, .read (inputAt inputs 0), .called (inputAt inputs 0),
    .finished (warmUpFault harness memory inputs)]

/-- Reading the input of a reported run.  That of the first one has been read. -/
def fetch : Nat → List Act
  | 0 => []
  | n + 1 => [.read (inputAt inputs (n + 1))]

/-- The steps before the call of a reported run. -/
def greeting (n : Nat) : List Act :=
  [.pinged, .reported pid] ++ fetch inputs n

/-- The steps for one ping. -/
def round (n : Nat) : List Act :=
  greeting pid inputs n ++ [.called (inputAt inputs n),
    .finished (faultAt harness memory inputs n), .reported (faultAt harness memory inputs n).code]

/-- The steps for so many pings. -/
def script : Nat → List Act
  | 0 => warmUp harness memory inputs
  | n + 1 => script n ++ round harness pid memory inputs n

/-- The words that answer a ping. -/
def response (fault : Fault) : List Int32 :=
  [pid, fault.code]

/-- The words that answer so many pings. -/
def responses (n : Nat) : List Int32 :=
  ((List.range n).map (faultAt harness memory inputs)).flatMap (response pid)

variable {harness pid memory inputs} {acts before part : List Act} {act : Act} {n : Nat}

theorem responses_succ (n : Nat) :
    responses harness pid memory inputs (n + 1)
      = responses harness pid memory inputs n ++ [pid, (faultAt harness memory inputs n).code] := by
  rw [responses, List.range_succ, List.map_append, List.flatMap_append]
  rfl

theorem length_responses (n : Nat) : (responses harness pid memory inputs n).length = 2 * n := by
  induction n with
  | zero => rfl
  | succ n ih =>
    rw [responses_succ, List.length_append, ih]
    rfl

theorem words_greeting (n : Nat) : Act.words (greeting pid inputs n) = [pid] := by
  cases n <;> rfl

theorem pings_greeting (n : Nat) : Act.pings (greeting pid inputs n) = 1 := by
  cases n <;> rfl

theorem calls_greeting (n : Nat) : Act.calls (greeting pid inputs n) = [] := by
  cases n <;> rfl

theorem words_script (n : Nat) :
    Act.words (script harness pid memory inputs n)
      = 0 :: responses harness pid memory inputs n := by
  induction n with
  | zero => rfl
  | succ n ih =>
    rw [script, round, Act.words_append, Act.words_append, ih, words_greeting, responses_succ]
    rfl

theorem pings_script (n : Nat) : Act.pings (script harness pid memory inputs n) = n := by
  induction n with
  | zero => rfl
  | succ n ih =>
    rw [script, round, Act.pings_append, Act.pings_append, ih, pings_greeting]
    rfl

theorem calls_script (n : Nat) :
    Act.calls (script harness pid memory inputs n)
      = inputAt inputs 0 :: reportedInputs inputs n := by
  induction n with
  | zero => rfl
  | succ n ih =>
    rw [script, round, Act.calls_append, Act.calls_append, ih, calls_greeting, reportedInputs_succ]
    rfl

theorem length_reads_script (n : Nat) :
    (Act.reads (script harness pid memory inputs n)).length = max 1 n := by
  induction n with
  | zero => rfl
  | succ n ih =>
    rw [script, round, Act.reads_append, Act.reads_append, List.length_append, List.length_append,
      ih]
    cases n with
    | zero => rfl
    | succ n =>
      show max 1 (n + 1) + (1 + 0) = max 1 (n + 1 + 1)
      omega

/-! ### Beginnings of the script -/

theorem script_isPrefix_of_le {m n : Nat} (h : m ≤ n) :
    script harness pid memory inputs m <+: script harness pid memory inputs n := by
  induction h with
  | refl => exact List.prefix_rfl
  | step _ ih => exact ih.trans (List.prefix_append _ _)

/-- **A step is one of the run that warms up, or one of a round** that follows on all
earlier rounds. -/
theorem step_of_script (h : before ++ [act] <+: script harness pid memory inputs n) :
    before ++ [act] <+: warmUp harness memory inputs ∨
      ∃ i part, before = script harness pid memory inputs i ++ part ∧
        part ++ [act] <+: round harness pid memory inputs i := by
  induction n with
  | zero => exact .inl h
  | succ n ih =>
    obtain ⟨rest, hrest⟩ := h
    rcases List.append_eq_append_iff.mp hrest with ⟨gap, hscript, -⟩ | ⟨gap, hsteps, hround⟩
    · exact ih ⟨gap, hscript.symm⟩
    · rcases List.eq_nil_or_concat gap with rfl | ⟨part, last, rfl⟩
      · rw [List.append_nil] at hsteps
        exact ih (hsteps ▸ List.prefix_rfl)
      · rw [List.concat_eq_append, ← List.append_assoc] at hsteps
        obtain ⟨rfl, hlast⟩ := List.append_inj' hsteps rfl
        obtain rfl := (List.cons.inj hlast).1
        rw [List.concat_eq_append] at hround
        exact .inr ⟨n, part, rfl, rest, hround.symm⟩

/-- How much of the script is needed can be told from the pings. -/
theorem isPrefix_script_pings (h : acts <+: script harness pid memory inputs n) :
    acts <+: script harness pid memory inputs (Act.pings acts) := by
  rcases List.eq_nil_or_concat acts with rfl | ⟨before, act, rfl⟩
  · exact List.nil_prefix
  · rw [List.concat_eq_append] at h ⊢
    rcases step_of_script h with hwarm | ⟨i, part, rfl, hround⟩
    · exact hwarm.trans (script_isPrefix_of_le (Nat.zero_le _))
    · -- a round begins with its ping
      have hping : 1 ≤ Act.pings (part ++ [act]) := by
        rcases hsteps : part ++ [act] with - | ⟨first, rest⟩
        · exact absurd hsteps (List.append_ne_nil_of_right_ne_nil part (List.cons_ne_nil _ _))
        · rw [hsteps] at hround
          obtain ⟨rfl, -⟩ := List.cons_prefix_cons.mp hround
          rw [← List.singleton_append, Act.pings_append]
          exact Nat.le_add_right 1 (Act.pings rest)
      rw [List.append_assoc, Act.pings_append, pings_script]
      have hnext : script harness pid memory inputs i ++ (part ++ [act])
          <+: script harness pid memory inputs (i + 1) :=
        (List.prefix_append_right_inj _).mpr hround
      exact hnext.trans (script_isPrefix_of_le (Nat.add_le_add_left hping i))

/-! ### Order -/

/-- Only the call of a round is a call, and all but the fault stands before it. -/
theorem part_of_called {data : ByteArray}
    (h : part ++ [.called data] <+: round harness pid memory inputs n) :
    part = greeting pid inputs n := by
  cases n with
  | zero =>
    rcases part with - | ⟨a, - | ⟨b, - | ⟨c, - | ⟨d, - | ⟨e, part⟩⟩⟩⟩⟩ <;>
      simp_all [round, greeting, fetch]
  | succ n =>
    rcases part with - | ⟨a, - | ⟨b, - | ⟨c, - | ⟨d, - | ⟨e, - | ⟨f, part⟩⟩⟩⟩⟩⟩ <;>
      simp_all [round, greeting, fetch]

/-- A round reports the process id behind the ping, and the fault at its end. -/
theorem part_of_reported {word : Int32}
    (h : part ++ [.reported word] <+: round harness pid memory inputs n) :
    part = [.pinged] ∨ part = greeting pid inputs n ++ [.called (inputAt inputs n),
      .finished (faultAt harness memory inputs n)] ∧
        word = (faultAt harness memory inputs n).code := by
  cases n with
  | zero =>
    rcases part with - | ⟨a, - | ⟨b, - | ⟨c, - | ⟨d, - | ⟨e, part⟩⟩⟩⟩⟩ <;>
      simp_all [round, greeting, fetch]
  | succ n =>
    rcases part with - | ⟨a, - | ⟨b, - | ⟨c, - | ⟨d, - | ⟨e, - | ⟨f, part⟩⟩⟩⟩⟩⟩ <;>
      simp_all [round, greeting, fetch]

/-- The order that a driver relies on. -/
structure InOrder (pid : Int32) (acts : List Act) : Prop where
  /-- Before the harness is called for the run that is reported behind `i` others,
  `i + 1` pings have been read, and written were the word 0, the answers to `i` pings,
  and the process id. -/
  called : ∀ before data after i, acts = before ++ .called data :: after →
    (Act.calls before).length = i + 1 →
    Act.pings before = i + 1 ∧ ∃ faults : List Fault, faults.length = i ∧
      Act.words before = 0 :: (faults.flatMap (response pid) ++ [pid])
  /-- The second word for a ping is written when the call for this ping has ended, and
  is the code of its fault. -/
  reported : ∀ before word after i, acts = before ++ .reported word :: after →
    (Act.words before).length = 2 * (i + 1) →
    ∃ earlier data fault, before = earlier ++ [.called data, .finished fault] ∧
      (Act.calls earlier).length = i + 1 ∧ word = fault.code

theorem length_calls_script (n : Nat) :
    (Act.calls (script harness pid memory inputs n)).length = n + 1 := by
  rw [calls_script, List.length_cons, reportedInputs, List.length_map, List.length_range]

theorem length_words_script (n : Nat) :
    (Act.words (script harness pid memory inputs n)).length = 2 * n + 1 := by
  rw [words_script, List.length_cons, length_responses]

/-- **Whatever part of the script is taken, the order is kept.** -/
theorem inOrder_of_isPrefix (h : acts <+: script harness pid memory inputs n) :
    InOrder pid acts where
  called := by
    rintro before data after i rfl hcalls
    have hstep : before ++ [.called data] <+: before ++ .called data :: after :=
      (List.prefix_append_right_inj before).mpr ⟨after, rfl⟩
    rcases step_of_script (hstep.trans h) with hwarm | ⟨k, part, rfl, hround⟩
    · -- the run that warms up makes one call
      have hone : (Act.calls before).length + 1 ≤ 1 := by
        have hlength := (hwarm.filterMap Act.called?).length_le
        rwa [List.filterMap_append, List.length_append] at hlength
      omega
    · obtain rfl := part_of_called hround
      rw [Act.calls_append, calls_greeting, List.append_nil, length_calls_script] at hcalls
      obtain rfl := Nat.succ.inj hcalls
      refine ⟨?_, (List.range k).map (faultAt harness memory inputs), ?_, ?_⟩
      · rw [Act.pings_append, pings_script, pings_greeting]
      · rw [List.length_map, List.length_range]
      · rw [Act.words_append, words_script, words_greeting]
        rfl
  reported := by
    rintro before word after i rfl hwords
    have hstep : before ++ [.reported word] <+: before ++ .reported word :: after :=
      (List.prefix_append_right_inj before).mpr ⟨after, rfl⟩
    rcases step_of_script (hstep.trans h) with hwarm | ⟨k, part, rfl, hround⟩
    · have hone : (Act.words before).length + 1 ≤ 1 := by
        have hlength := (hwarm.filterMap Act.word?).length_le
        rwa [List.filterMap_append, List.length_append] at hlength
      omega
    · rcases part_of_reported hround with rfl | ⟨rfl, rfl⟩
      · -- behind the ping an odd number of words has been written
        have hodd : (Act.words (script harness pid memory inputs k ++ [.pinged])).length
            = 2 * k + 1 := by
          rw [Act.words_append, List.length_append, length_words_script]
          rfl
        omega
      · have heven : (Act.words (script harness pid memory inputs k ++
            (greeting pid inputs k ++ [.called (inputAt inputs k),
              .finished (faultAt harness memory inputs k)]))).length = 2 * k + 1 + 1 := by
          rw [Act.words_append, Act.words_append, words_greeting, List.length_append,
            length_words_script]
          rfl
        obtain rfl : k = i := by omega
        refine ⟨script harness pid memory inputs k ++ greeting pid inputs k, _, _,
          (List.append_assoc _ _ _).symm, ?_, rfl⟩
        rw [Act.calls_append, calls_greeting, List.append_nil, length_calls_script]

end ForkServer

end BranchCoverage
