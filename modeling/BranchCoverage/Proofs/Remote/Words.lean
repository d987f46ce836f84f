/-
The words that a controller sends.

Starts and requests come from several places of the controller's loops, and the
loops end early in many ways.  What has been sent is at each place known from
the number of tests and of rejected reports alone (`Said`), and whatever fails
then leaves a beginning of a dialogue behind (`Said.cut`).  One run takes both a
step further (`attempt_said`), and so do all of them (`rounds_said`).

What an agent makes of these words is the other half (`inStep_serve`).
-/
import BranchCoverage.Proofs.Remote.Dialogue
import BranchCoverage.Proofs.Remote.Refinement

namespace BranchCoverage

/-! ### Rejections -/

namespace Act

/-- Whether a report was rejected. -/
def isRejection : Act → Bool
  | .judged _ _ accepted => !accepted
  | _ => false

theorem isRejection_of_isLocal {act : Act} (h : act.isLocal) : act.isRejection = false := by
  cases act <;> first | rfl | cases h

end Act

namespace Bench

variable {σ : Type} {b b' : Bench σ}

/-- The number of reports that were rejected. -/
def rejections (b : Bench σ) : Nat :=
  b.acts.countP Act.isRejection

/-- Nothing is rejected on the bench. -/
theorem Grown.rejections (h : b.Grown b') : b'.rejections = b.rejections := by
  obtain ⟨acts, hacts, hlocal⟩ := h
  have hnone : acts.countP Act.isRejection = 0 := by
    refine List.countP_eq_zero.mpr fun act hact => ?_
    rw [Act.isRejection_of_isLocal (hlocal act hact)]
    exact Bool.false_ne_true
  rw [Bench.rejections, Bench.rejections, hacts, List.countP_append, hnone]
  rfl

theorem rejections_record (b : Bench σ) (act : Act) :
    (b.record act).rejections = b.rejections + if act.isRejection then 1 else 0 := by
  rw [rejections, rejections, acts_append [act] rfl, List.countP_append, List.countP_singleton]

end Bench

/-! ### Messages to the agent -/

namespace Link

variable {α : Type}

/-- A step sends a word, or fails and has sent the first bytes of it. -/
def Sends (word : Int32) (step : Talk α) : Prop :=
  ∀ l, Ends (fun _ l' => l'.outgoing.sent = l.outgoing.sent ++ Word.encode word)
    (fun _ l' => ∃ part, part <+: Word.encode word ∧
      l'.outgoing.sent = l.outgoing.sent ++ part) (step l)

theorem sends_send (word : Int32) : Sends word (send word) := by
  intro l
  rw [send, Outlet.writeWord]
  rcases Outlet.write_cases (Word.encode word) l.outgoing with hwrite | ⟨e, part, hpart, hwrite⟩
  · rw [hwrite]
    exact rfl
  · rw [hwrite]
    exact ⟨part, hpart, rfl⟩

/-- What follows the word may be anything that sends nothing. -/
theorem Sends.bind {β : Type} {word : Int32} {step : Talk α} {next : α → Talk β}
    (h : Sends word step)
    (hnext : ∀ a l, Ends (fun _ l' => l'.outgoing = l.outgoing)
      (fun _ l' => l'.outgoing = l.outgoing) (next a l)) : Sends word (step >>= next) := by
  intro l
  refine (h l).bind fun a l' hsent => (hnext a l').imp (fun b l'' hsame => ?_) fun e l'' hsame => ?_
  · rw [hsame, hsent]
  · exact ⟨_, List.prefix_refl _, by rw [hsame, hsent]⟩

theorem sends_start (collect : Bool) : Sends (Command.starting collect).code (start collect) := by
  refine (sends_send _).bind fun _ l => ?_
  rw [receive]
  rcases l.incoming.readWord with ⟨e | word, incoming⟩ <;> rfl

theorem sends_status : Sends statusRequest status := by
  refine (sends_send _).bind fun _ l => ?_
  rw [receiveReport]
  rcases Report.read l.incoming with ⟨e | report, incoming⟩ <;> rfl

theorem sends_stop : Sends Command.stop.code stop :=
  sends_send _

end Link

/-! ### What has been said -/

namespace Controller

variable {σ α : Type} {collect : Bool} {r₀ r : Relay σ} {words : List Int32} {rejected k : Nat}

/-- The word that starts a test. -/
abbrev opening (collect : Bool) : Int32 :=
  (Command.starting collect).code

/-- Since `r₀`, these words have been sent to the agent, and so many reports
have been rejected. -/
structure Said (r₀ : Relay σ) (words : List Int32) (rejected : Nat) (r : Relay σ) : Prop where
  sent : r.link.outgoing.sent = r₀.link.outgoing.sent ++ words.flatMap Word.encode
  rejections : r.bench.rejections = r₀.bench.rejections + rejected

/-- Since `r₀`, the bytes of a dialogue have been sent to the agent up to some
byte. -/
def Cut (collect : Bool) (r₀ r : Relay σ) : Prop :=
  ∃ k bytes, r.link.outgoing.sent = r₀.link.outgoing.sent ++ bytes ∧
    bytes <+: (dialogue (opening collect) k).flatMap Word.encode

/-- The words are the beginning of some dialogue. -/
def Opens (collect : Bool) (words : List Int32) : Prop :=
  ∃ k, words <+: dialogue (opening collect) k

theorem opens_exchanges (collect : Bool) (k : Nat) :
    Opens collect (exchanges (opening collect) k) :=
  ⟨k, List.prefix_append _ _⟩

theorem opens_started (collect : Bool) (k : Nat) :
    Opens collect (exchanges (opening collect) k ++ [opening collect]) := by
  refine ⟨k + 1, ?_⟩
  rw [dialogue, exchanges_succ, List.append_assoc, List.prefix_append_right_inj]
  exact ⟨_, rfl⟩

theorem opens_dialogue (collect : Bool) (k : Nat) :
    Opens collect (dialogue (opening collect) k) :=
  ⟨k, List.prefix_refl _⟩

example : dialogue (opening true) 2 = [1, 0, 1, 0, 0] := by decide

example : dialogue (opening false) 1 = [2, 0, 0] := by decide

/-- Words that have been sent wholly may stay the last ones. -/
theorem Said.cut (h : Said r₀ words rejected r) (hopens : Opens collect words) :
    Cut collect r₀ r := by
  obtain ⟨k, rest, hrest⟩ := hopens
  refine ⟨k, _, h.sent, rest.flatMap Word.encode, ?_⟩
  rw [← List.flatMap_append, hrest]

/-- A word may be cut anywhere. -/
theorem Said.cut_part {r' : Relay σ} {word : Int32} {part : List UInt8}
    (h : Said r₀ words rejected r) (hopens : Opens collect (words ++ [word]))
    (hpart : part <+: Word.encode word)
    (hsent : r'.link.outgoing.sent = r.link.outgoing.sent ++ part) : Cut collect r₀ r' := by
  obtain ⟨k, rest, hrest⟩ := hopens
  refine ⟨k, words.flatMap Word.encode ++ part, ?_, ?_⟩
  · rw [hsent, h.sent, List.append_assoc]
  · rw [← hrest, List.flatMap_append, List.flatMap_append, List.flatMap_singleton,
      List.append_assoc, List.prefix_append_right_inj]
    exact hpart.trans (List.prefix_append _ _)

/-! ### Steps -/

/-- A message is said, or cut. -/
theorem talk_said {word : Int32} {step : Link.Talk α} (hstep : Link.Sends word step)
    (h : Said r₀ words rejected r) (hopens : Opens collect (words ++ [word])) :
    Ends (fun _ => Said r₀ (words ++ [word]) rejected) (fun _ => Cut collect r₀)
      (talk step r) := by
  have hends := hstep r.link
  rw [talk]
  rcases hrun : step r.link with ⟨a, l⟩ | ⟨e, l⟩ <;> rw [hrun] at hends
  · refine ⟨?_, h.rejections⟩
    have hsent : l.outgoing.sent = r.link.outgoing.sent ++ Word.encode word := hends
    show l.outgoing.sent = _
    rw [hsent, h.sent, List.flatMap_append, List.append_assoc, List.flatMap_singleton]
  · obtain ⟨part, hpart, hsent⟩ := hends
    exact h.cut_part hopens hpart hsent

/-- Nothing is said on the bench. -/
theorem onBench_said {step : EStateM RelayError (Bench σ) α} (hstep : Bench.Local step)
    (h : Said r₀ words rejected r) (hopens : Opens collect words) :
    Ends (fun _ => Said r₀ words rejected) (fun _ => Cut collect r₀) (onBench step r) := by
  have hends := hstep r.bench
  rw [onBench]
  rcases hrun : step r.bench with ⟨a, b⟩ | ⟨e, b⟩ <;> rw [hrun] at hends
  · exact ⟨h.sent, hends.rejections.trans h.rejections⟩
  · exact Said.cut ⟨h.sent, hends.rejections.trans h.rejections⟩ hopens

/-- Nor is it by an act that is no rejection. -/
theorem Said.record (h : Said r₀ words rejected r) {act : Act} (hact : act.isRejection = false) :
    Said r₀ words rejected { r with bench := r.bench.record act } := by
  refine ⟨h.sent, ?_⟩
  show (r.bench.record act).rejections = _
  rw [Bench.rejections_record, hact]
  exact h.rejections

theorem start_said (h : Said r₀ (exchanges (opening collect) k) rejected r) :
    Ends (fun _ => Said r₀ (exchanges (opening collect) k ++ [opening collect]) rejected)
      (fun _ => Cut collect r₀) (start collect r) := by
  rw [start]
  refine (talk_said (Link.sends_start collect) h (opens_started collect k)).bind fun pid r h => ?_
  exact h.record rfl

theorem fetch_said
    (h : Said r₀ (exchanges (opening collect) k ++ [opening collect]) rejected r) :
    Ends (fun _ => Said r₀ (exchanges (opening collect) (k + 1)) rejected)
      (fun _ => Cut collect r₀) (fetch r) := by
  have hwords : exchanges (opening collect) (k + 1)
      = exchanges (opening collect) k ++ [opening collect] ++ [statusRequest] := by
    rw [exchanges_succ, List.append_assoc]
    rfl
  have hopens := opens_exchanges collect (k + 1)
  rw [hwords] at hopens ⊢
  rw [fetch]
  exact (talk_said Link.sends_status h hopens).bind fun report r h => h.record rfl

theorem assess_said {E : RelayError → Relay σ → Prop} (judge : Judge σ) (run : Nat)
    (report : Report) (h : Said r₀ words rejected r) :
    Ends (fun accepted => Said r₀ words (if accepted then rejected else rejected + 1)) E
      (assess judge run report r) := by
  rw [assess]
  rcases judge r.bench.memory run report.locations with ⟨accepted, memory⟩
  refine ⟨h.sent, ?_⟩
  show (({ r.bench with memory } : Bench σ).record (.judged run report accepted)).rejections = _
  rw [Bench.rejections_record]
  have hsame : ({ r.bench with memory } : Bench σ).rejections = r.bench.rejections := rfl
  rw [hsame, h.rejections]
  cases accepted <;> rfl

theorem mergeReport_said (report : Report) (h : Said r₀ words rejected r)
    (hopens : Opens collect words) :
    Ends (fun _ => Said r₀ words rejected) (fun _ => Cut collect r₀) (mergeReport report r) := by
  rw [mergeReport]
  rcases merge r.map report.coverage with e | map
  · exact h.cut hopens
  · have hrecord : Said r₀ words rejected { r with bench := r.bench.record (.merged report) } :=
      h.record rfl
    exact ⟨hrecord.sent, hrecord.rejections⟩

/-! ### Loops -/

section

variable (harness : Harness σ) (judge : Judge σ) (run : Nat) (data : ByteArray)

/-- **A run says one test**, and one more for every rejection. -/
theorem attempt_said (limit : Nat)
    (h : Said r₀ (exchanges (opening collect) k ++ [opening collect]) rejected r) :
    Ends (fun _ r => ∃ more,
        Said r₀ (exchanges (opening collect) (k + 1 + more)) (rejected + more) r)
      (fun _ => Cut collect r₀) (attempt harness judge collect run data limit false r) := by
  induction limit generalizing k rejected r with
  | zero => exact h.cut (opens_started collect k)
  | succ limit ih =>
    rw [attempt_succ]
    refine (onBench_said (Bench.local_execute harness data) h (opens_started collect k)).bind
      fun fault r h => ?_
    rw [settle]
    refine (fetch_said h).bind fun report r h => ?_
    refine (assess_said judge run report h).bind fun accepted r h => ?_
    cases accepted with
    | true =>
      refine (mergeReport_said report h (opens_exchanges collect _)).bind fun _ r h => ?_
      exact ⟨0, h⟩
    | false =>
      -- the next round begins where this one did, with one more test and rejection behind it
      have h : Said r₀ (exchanges (opening collect) (k + 1)) (rejected + 1) r := h
      refine (onBench_said (Bench.local_log _ _) h (opens_exchanges collect _)).bind
        fun _ r h => ?_
      refine (start_said h).bind fun _ r h => ?_
      refine (ih h).imp (fun _ r hrest => ?_) fun _ _ => id
      obtain ⟨more, hmore⟩ := hrest
      have htests : k + 1 + 1 + more = k + 1 + (more + 1) := by omega
      have hrejected : rejected + 1 + more = rejected + (more + 1) := by omega
      rw [htests, hrejected] at hmore
      exact ⟨more + 1, hmore⟩

/-- To warm up is one test more. -/
theorem attempt_warmUp_said (limit : Nat) (warmUp : Bool)
    (h : Said r₀ (exchanges (opening collect) k ++ [opening collect]) rejected r) :
    Ends (fun _ r => ∃ more,
        Said r₀ (exchanges (opening collect) (k + (if warmUp then 1 else 0) + 1 + more))
          (rejected + more) r)
      (fun _ => Cut collect r₀) (attempt harness judge collect run data limit warmUp r) := by
  cases warmUp with
  | false => exact attempt_said harness judge run data limit h
  | true =>
    cases limit with
    | zero => exact h.cut (opens_started collect k)
    | succ limit =>
      rw [attempt_warmUp]
      refine (onBench_said (Bench.local_execute harness data) h (opens_started collect k)).bind
        fun fault r h => ?_
      refine (fetch_said h).bind fun _ r h => ?_
      refine (start_said h).bind fun _ r h => ?_
      exact attempt_said harness judge run data (limit + 1) h

/-- The number of tests that are made for so many runs and rejections, if none
is left open. -/
def tests (runs rejected : Nat) : Nat :=
  runs + rejected + if runs = 0 then 0 else 1

/-- **All runs say a dialogue.** -/
theorem rounds_said (limit done : Nat)
    (h : Said r₀ (exchanges (opening collect) (tests done rejected)) rejected r) :
    Ends (fun runs r => ∃ rejected,
        Said r₀ (dialogue (opening collect) (tests runs rejected + 1)) rejected r)
      (fun _ => Cut collect r₀) (rounds harness judge collect limit done r) := by
  induction limit generalizing done rejected r with
  | zero => exact h.cut (opens_exchanges collect _)
  | succ limit ih =>
    rw [rounds]
    refine (start_said h).bind fun pid r h => ?_
    have hstarted := opens_started collect (tests done rejected)
    refine (onBench_said (Bench.local_log _ _) h hstarted).bind fun _ r h => ?_
    refine (onBench_said (Bench.local_awaitPing _) h hstarted).bind fun pinged r h => ?_
    cases pinged with
    | true =>
      refine (onBench_said (Bench.local_report _ _) h hstarted).bind fun _ r h => ?_
      refine (onBench_said (Bench.local_readInput _) h hstarted).bind fun data r h => ?_
      refine (attempt_warmUp_said harness judge (done + 1) data _ (done == 0) h).bind
        fun fault r hmade => ?_
      obtain ⟨more, h⟩ := hmade
      -- only the first run warms up, so from then on there is one test more than runs
      have htests : tests done rejected + (if done == 0 then 1 else 0) + 1 + more
          = tests (done + 1) (rejected + more) := by
        rw [tests, tests]
        cases done with
        | zero => simp; omega
        | succ done => simp; omega
      rw [htests] at h
      have hmade := opens_exchanges collect (tests (done + 1) (rejected + more))
      refine (onBench_said (Bench.local_log _ _) h hmade).bind fun _ r h => ?_
      refine (onBench_said (Bench.local_report _ _) h hmade).bind fun _ r h => ?_
      exact ih (done + 1) h
    | false =>
      -- the test that was started in vain is one as well
      refine (fetch_said h).bind fun _ r h => ?_
      refine (talk_said Link.sends_stop h (opens_dialogue collect _)).bind fun _ r h => ?_
      refine (onBench_said (Bench.local_log _ _) h (opens_dialogue collect _)).bind fun _ r h => ?_
      exact ⟨rejected, h⟩

theorem session_said (r : Relay σ) :
    Ends (fun runs r' => ∃ rejected,
        Said r (dialogue (opening collect) (tests runs rejected + 1)) rejected r')
      (fun _ => Cut collect r) (session harness judge collect r) := by
  have hnothing : Said r (exchanges (opening collect) (tests 0 0)) 0 r :=
    ⟨(List.append_nil _).symm, rfl⟩
  rw [session]
  refine (onBench_said (Bench.local_report _ _) hnothing (opens_exchanges collect 0)).bind
    fun _ r' h => ?_
  exact rounds_said harness judge _ 0 h

/-! ### Both sides -/

/-- A controller and the agents that hear it are in step, from `r` to the end
`o` of the controller. -/
structure InStep (collect : Bool) (r : Relay σ) (o : Except RelayError Nat × Relay σ) : Prop where
  /-- However the controller ends, it has sent the bytes of a dialogue, up to
  some byte. -/
  sent : ∃ k bytes, o.2.link.outgoing.sent = r.link.outgoing.sent ++ bytes ∧
    bytes <+: (dialogue (opening collect) k).flatMap Word.encode
  /-- No agent that these bytes arrive at, or the first of them, hears an unknown
  command. -/
  understood : ∀ {τ : Type} (pid : Int32) (guard : Callback τ Unit) (status : Callback τ Fault)
    (p : AgentProcess τ) (c : Agent.Connection) (code : Int32),
    r.link.outgoing.sent ++ Arrival.payload c.arrivals <+: o.2.link.outgoing.sent →
    (Agent.visit pid guard status p c).1.result ≠ .error (.protocol (.unknownCommand code))
  /-- If it ends well it has sent all of a dialogue, which an undisturbed agent
  serves to its end. -/
  complete : ∀ runs, o.1 = .ok runs → ∃ rejected,
    o.2.bench.rejections = r.bench.rejections + rejected ∧
    let made := runs + 1 + rejected + if 1 ≤ runs then 1 else 0
    o.2.link.outgoing.sent
      = r.link.outgoing.sent ++ (dialogue (opening collect) made).flatMap Word.encode ∧
    ∀ {τ : Type} (possible : Hit → Prop) (pid : Int32) (guard : Callback τ Unit)
      (status : Callback τ Fault) (p : AgentProcess τ) (c : Agent.Connection),
      Agent.Undisturbed possible guard status p c →
      o.2.link.outgoing.sent = r.link.outgoing.sent ++ Arrival.payload c.arrivals →
      (Agent.visit pid guard status p c).1.result = .ok made

/-- **Controller and agent never fall out of step**, whatever the driver, the
harness, the judge and the agent's replies are. -/
theorem inStep_serve (collect : Bool) (r : Relay σ) :
    InStep collect r (serve harness judge collect r) := by
  have hsession : Ends _ (fun _ => Cut collect r) (session harness judge collect r) :=
    session_said harness judge r
  have hstart := Command.starting_ne_stop collect
  -- a dialogue that ends well is cut behind its last byte
  have hcut : Cut collect r (serve harness judge collect r).2 := by
    rw [serve]
    rcases hrun : session harness judge collect r with ⟨runs, r'⟩ | ⟨e, r'⟩ <;>
      rw [hrun] at hsession
    · obtain ⟨rejected, hsaid⟩ := hsession
      exact hsaid.cut (opens_dialogue collect _)
    · exact hsession
  refine ⟨hcut, fun pid guard status p c code harrived => ?_, fun runs hruns => ?_⟩
  · obtain ⟨k, bytes, hsent, hbytes⟩ := hcut
    rw [hsent, List.prefix_append_right_inj] at harrived
    exact Agent.visit_ne_unknownCommand pid guard status p hstart (harrived.trans hbytes) code
  · rw [serve] at hruns ⊢
    rcases hrun : session harness judge collect r with ⟨runs', r'⟩ | ⟨e, r'⟩ <;>
      rw [hrun] at hsession hruns
    · cases hruns
      obtain ⟨rejected, hsaid⟩ := hsession
      have hmade : tests runs rejected + 1 = runs + 1 + rejected + if 1 ≤ runs then 1 else 0 := by
        rw [tests]
        cases runs with
        | zero => simp; omega
        | succ runs => simp; omega
      rw [hmade] at hsaid
      refine ⟨rejected, hsaid.rejections, hsaid.sent, ?_⟩
      intro τ possible pid guard status p c hundisturbed harrived
      have hpayload := List.append_cancel_left (harrived.symm.trans hsaid.sent)
      exact Agent.visit_eq_ok pid hundisturbed hstart hpayload
    · cases hruns

end

/-- A process with one map. -/
def singleMap : AgentProcess Unit where
  tracing := { maps := #[.zero] }
  token := 0
  memory := ()

/-- Two runs of a harness that panics in the second one.  A quiet agent that hears what
has been sent serves a test for each of them, one to warm up, the one that is not needed
any more, and those for rejected reports. -/
theorem thirdTimeUnlucky_inStep :
    ∃ r', serve (ForkServer.thirdTimeUnlucky.beside Unit) (lenient.beside Nat) true twoRuns
        = (.ok 2, r') ∧
      (Agent.visit 9 (Agent.idle ()) (Agent.idle Fault.none) singleMap
        (Agent.lonelyConnection r'.link.outgoing.sent)).1.result
        = .ok (4 + r'.bench.rejections) := by
  obtain ⟨r', hserve⟩ := serve_twoRuns
  refine ⟨r', hserve, ?_⟩
  have hstep := inStep_serve (ForkServer.thirdTimeUnlucky.beside Unit) (lenient.beside Nat) true twoRuns
  rw [hserve] at hstep
  obtain ⟨rejected, hrejections, -, hundisturbed⟩ := hstep.complete 2 rfl
  have hrejected : rejected = r'.bench.rejections := by
    rw [hrejections]
    exact (Nat.zero_add rejected).symm
  have harrived := Agent.payload_lonelyConnection r'.link.outgoing.sent
  have hhits := Agent.hits_lonelyConnection r'.link.outgoing.sent
  have hquiet := Agent.undisturbed_lonelyHit Fault.none (p := singleMap) Array.size_replicate rfl
    fun x hx => List.mem_singleton.mp (hhits ▸ hx)
  have hcount : 2 + 1 + rejected + (if 1 ≤ 2 then 1 else 0) = 4 + rejected := by
    rw [if_pos (by decide)]
    omega
  rw [hundisturbed _ 9 _ _ _ _ hquiet harrived.symm, hcount, hrejected]

end Controller

end BranchCoverage
