/-
What an agent makes of any bytes at all.

Any bytes are a conversation (`Conversation.exists_bytes_eq`), and the conversation on a
connection is a script for the agent: its process id for every start, and behind it the
report on the test, as the process has come to it by then (`Scene.reports`).  The agent
performs it, message by message, and ends as the conclusion of the conversation says
(`visit_eq_performance`).  Only what stands in the script can bring it to another end: a
callback that panics when it is called, a report that has too much text, or a message
that finds no room on the connection (`perform`).

A connection leaves nothing behind that could keep the agent from the next one, so
this holds of each connection in turn (`understands`).
-/
import BranchCoverage.Proofs.Agent.Conversation
import BranchCoverage.Proofs.Remote.Dialogue
import BranchCoverage.Proofs.Remote.Limits

namespace BranchCoverage

namespace Agent

open Arrival

variable {σ α : Type}

/-! ### Scenes -/

/-- A process, and what is still to arrive on its connection. -/
structure Scene (σ : Type) where
  process : AgentProcess σ
  arrivals : List Arrival

/-- A message to a controller, or what has come up instead of it. -/
abbrev Message := Except Interruption (List UInt8)

namespace Scene

/-- Behind the next word, with the hits until then. -/
def heard (s : Scene σ) : Scene σ :=
  ⟨s.process.play (split 4 s.arrivals).2.1, (split 4 s.arrivals).2.2⟩

/-- Behind the two words of a test, with the hits between them. -/
def asked (s : Scene σ) (collect : Bool) : Scene σ :=
  heard ⟨s.heard.process.begin collect, s.heard.arrivals⟩

/-- Behind a call of code of the process. -/
def called (s : Scene σ) (callback : Callback σ α) : Scene σ :=
  let (hits, _, memory) := callback s.process.memory
  { s with process := { s.process.play hits with memory } }

/-- How long the text about the locations is. -/
def textLength (s : Scene σ) : Nat :=
  s.process.collector.locations.render.utf8ByteSize

/-- What the code gives if it is called here. -/
def value (s : Scene σ) (callback : Callback σ α) : Except Interruption α :=
  (callback s.process.memory).2.1.mapError .panic

section

variable (guard : Callback σ Unit) (status : Callback σ Fault)

/-- Behind a test. -/
def tested (s : Scene σ) (collect : Bool) : Scene σ :=
  ((s.asked collect).called guard).called status

/-- The report on a test, made when the test has settled. -/
def report (s : Scene σ) (collect : Bool) : Message := do
  (s.asked collect).value guard
  let fault ← ((s.asked collect).called guard).value status
  ((s.tested guard status collect).process.report fault).encode.mapError .protocol

/-- The reports on tests, one after another. -/
def reports : List Bool → Scene σ → List Message
  | [], _ => []
  | collect :: rest, s =>
    s.report guard status collect :: reports rest (s.tested guard status collect)

variable {guard status} {s : Scene σ} {collect : Bool}

theorem report_of_error {e : Interruption} (h : (s.asked collect).value guard = .error e) :
    s.report guard status collect = .error e := by
  rw [report, h]
  rfl

theorem report_of_ok (h : (s.asked collect).value guard = .ok ()) :
    s.report guard status collect
      = (((s.asked collect).called guard).value status).bind fun fault =>
          ((s.tested guard status collect).process.report fault).encode.mapError .protocol := by
  rw [report, h]
  rfl

end

end Scene

/-! ### Scripts -/

/-- What an agent has to send in a conversation. -/
def script (pid : Int32) (guard : Callback σ Unit) (status : Callback σ Fault) (c : Conversation)
    (s : Scene σ) : List Message :=
  (Scene.reports guard status c.tests s).flatMap (fun report => [.ok (Word.encode pid), report])
    ++ if c.conclusion.starts then [.ok (Word.encode pid)] else []

/-- What comes of a script on a connection with this limit, behind bytes that have been
sent already.  When all of it is sent, the connection ends like this. -/
def perform (limit : Option Limit) (ending : Except Interruption Nat) :
    (sent : List UInt8) → List Message → Visit
  | sent, [] => ⟨ending, sent⟩
  | sent, .error e :: _ => ⟨.error e, sent⟩
  | sent, .ok message :: rest =>
    match Outlet.write message ⟨sent, limit⟩ with
    | (.ok (), o) => perform limit ending o.sent rest
    | (.error e, o) => ⟨.error (.protocol (.io e)), o.sent⟩

/-- A conversation on a connection as it is performed by a process. -/
def performance (pid : Int32) (guard : Callback σ Unit) (status : Callback σ Fault)
    (p : AgentProcess σ) (connection : Connection) (c : Conversation) : Visit :=
  perform connection.limit (c.conclusion.result connection.failure c.tests.length) []
    (script pid guard status c ⟨p, connection.arrivals⟩)

/-- So many bytes find room on a connection. -/
def HasRoom (limit : Option Limit) (length : Nat) : Prop :=
  ∀ l, limit = some l → length ≤ l.room

theorem write_of_hasRoom {limit : Option Limit} {sent message : List UInt8}
    (h : HasRoom limit (sent.length + message.length)) :
    Outlet.write message ⟨sent, limit⟩ = (.ok (), ⟨sent ++ message, limit⟩) := by
  rcases limit with - | l
  · rfl
  · exact if_pos (h l rfl)

/-- Messages that all find room are all sent. -/
theorem perform_of_hasRoom {limit : Option Limit} {ending : Except Interruption Nat}
    {sent : List UInt8} {messages : List (List UInt8)}
    (h : HasRoom limit (sent.length + messages.flatten.length)) :
    perform limit ending sent (messages.map .ok) = ⟨ending, sent ++ messages.flatten⟩ := by
  induction messages generalizing sent with
  | nil =>
    rw [List.flatten_nil, List.append_nil]
    rfl
  | cons message rest ih =>
    rw [List.flatten_cons, List.length_append, ← Nat.add_assoc] at h
    have hfirst : HasRoom limit (sent.length + message.length) := fun l hl =>
      Nat.le_trans (Nat.le_add_right _ _) (h l hl)
    rw [List.map_cons, perform, write_of_hasRoom hfirst]
    dsimp only
    rw [ih (by rwa [List.length_append]), List.flatten_cons, List.append_assoc]

/-- A script without interruptions. -/
theorem script_eq_map (pid : Int32) {guard : Callback σ Unit} {status : Callback σ Fault}
    {c : Conversation} {s : Scene σ} {reports : List (List UInt8)}
    (h : Scene.reports guard status c.tests s = reports.map .ok) :
    ∃ messages : List (List UInt8), script pid guard status c s = messages.map .ok ∧
      messages.flatten = c.answers pid reports := by
  refine ⟨reports.flatMap (fun report => [Word.encode pid, report])
    ++ if c.conclusion.starts then [Word.encode pid] else [], ?_, ?_⟩
  · rw [script, h, List.flatMap_map, List.map_append, List.map_flatMap]
    congr 1
    cases c.conclusion.starts <;> rfl
  · have hpairs : (reports.flatMap fun report => [Word.encode pid, report]).flatten
        = reports.flatMap (Word.encode pid ++ ·) := by
      clear h
      induction reports with
      | nil => rfl
      | cons report rest ih => simp [ih]
    rw [Conversation.answers, List.flatten_append, hpairs]
    congr 1
    cases c.conclusion.starts <;> rfl

/-! ### Steps -/

/-- An agent is at a scene of a connection, and has sent so much. -/
structure Waits (connection : Connection) (s : Scene σ) (sent : List UInt8) (d : Desk σ) :
    Prop where
  scene : s = ⟨d.process, d.arrivals⟩
  failure : d.failure = connection.failure
  outgoing : d.outgoing = ⟨sent, connection.limit⟩
  sized : d.process.Sized

/-- A connection has ended as if the rest of a script had been performed, and the
process is in order. -/
def Closes (connection : Connection) (ending : Except Interruption Nat) (sent : List UInt8)
    (script : List Message) (result : Except Interruption Nat) (d : Desk σ) : Prop :=
  d.process.Sized ∧
    (⟨result, d.outgoing.sent⟩ : Visit) = perform connection.limit ending sent script

/-- Where something has come up instead of a message, the script is over. -/
theorem Closes.stop {connection : Connection} {ending : Except Interruption Nat}
    {sent : List UInt8} {message : Message} {more : List Message} {e : Interruption} {d : Desk σ}
    (hmessage : message = .error e) (hsized : d.process.Sized) (hsent : d.outgoing.sent = sent) :
    Closes connection ending sent (message :: more) (.error e) d := by
  refine ⟨hsized, ?_⟩
  rw [hmessage, hsent]
  rfl

/-- A script ends as that part of it does which is left behind what has been sent. -/
theorem Closes.of_perform_eq {connection : Connection} {ending result : Except Interruption Nat}
    {sent sent' : List UInt8} {script script' : List Message} {d : Desk σ}
    (h : Closes connection ending sent' script' result d)
    (hperform : perform connection.limit ending sent script
      = perform connection.limit ending sent' script') :
    Closes connection ending sent script result d :=
  ⟨h.1, h.2.trans hperform.symm⟩

section

variable {connection : Connection} {s : Scene σ} {bytes rest sent : List UInt8} {d : Desk σ}
  {E : Interruption → Desk σ → Prop} {ending : Except Interruption Nat}

/-- With nothing more to send, a connection ends where it waits. -/
theorem Waits.closes (h : Waits connection s sent d) : Closes connection ending sent [] ending d :=
  ⟨h.sized, congrArg (Visit.mk ending) (congrArg Outlet.sent h.outgoing)⟩

theorem Waits.logged (h : Waits connection s sent d) (line : LogLine) :
    Waits connection s sent { d with log := line :: d.log } :=
  ⟨h.scene, h.failure, h.outgoing, h.sized⟩

theorem Waits.begin (h : Waits connection s sent d) (collect : Bool) :
    Waits connection ⟨s.process.begin collect, s.arrivals⟩ sent
      { d with process := d.process.begin collect } :=
  ⟨h.scene ▸ rfl, h.failure, h.outgoing, h.sized.sized_begin collect⟩

/-- What is left to arrive behind a word. -/
theorem payload_heard {word : Int32} (h : payload s.arrivals = Word.encode word ++ rest) :
    payload s.heard.arrivals = rest := by
  obtain ⟨-, hleft⟩ := payload_split 4 s.arrivals
  rw [h, List.drop_left' (Word.length_encode word)] at hleft
  exact hleft

/-- A word is received if it comes as a whole. -/
theorem receive_waits {word : Int32} (h : Waits connection s sent d)
    (hbytes : payload s.arrivals = Word.encode word ++ rest) :
    Ends (fun result d => result = .ok word ∧ Waits connection s.heard sent d) E (receive d) := by
  obtain ⟨htaken, -⟩ := payload_split 4 s.arrivals
  rw [hbytes, List.take_left' (Word.length_encode word)] at htaken
  obtain ⟨rfl, hfailure, houtgoing, hsized⟩ := h
  rw [receive, gather_eq_split]
  dsimp only
  rw [htaken, Word.ofList?_encode]
  exact ⟨rfl, rfl, hfailure, houtgoing, hsized.play _⟩

/-- Of less than a word nothing is received. -/
theorem receive_short (h : Waits connection s sent d) (hshort : (payload s.arrivals).length < 4) :
    Ends (fun result d => result = .error (Source.exhausted ⟨[], connection.failure⟩) ∧
      Waits connection s.heard sent d) E (receive d) := by
  obtain ⟨htaken, -⟩ := payload_split 4 s.arrivals
  rw [List.take_of_length_le (Nat.le_of_lt hshort)] at htaken
  obtain ⟨rfl, hfailure, houtgoing, hsized⟩ := h
  rw [receive, gather_eq_split]
  dsimp only
  rw [htaken, ofList?_of_length_lt hshort]
  refine ⟨?_, rfl, hfailure, houtgoing, hsized.play _⟩
  rw [hfailure]

/-- The next message of the script is sent, or the script is over. -/
theorem send_goes {message : List UInt8} (h : Waits connection s sent d) (more : List Message) :
    Ends (fun _ d => Waits connection s (sent ++ message) d ∧
        perform connection.limit ending sent (.ok message :: more)
          = perform connection.limit ending (sent ++ message) more)
      (fun e => Closes connection ending sent (.ok message :: more) (.error e))
      (send message d) := by
  rw [send, h.outgoing]
  rcases Outlet.write_cases message ⟨sent, connection.limit⟩ with hwrite | ⟨e, part, -, hwrite⟩
  · rw [hwrite]
    refine ⟨⟨h.scene, h.failure, rfl, h.sized⟩, ?_⟩
    rw [perform, hwrite]
  · rw [hwrite]
    refine ⟨h.sized, ?_⟩
    rw [perform, hwrite]

/-- Code of the process is called, and panics or not. -/
theorem call_goes {callback : Callback σ α} (h : Waits connection s sent d) :
    Ends (fun value d => s.value callback = .ok value ∧ Waits connection (s.called callback) sent d)
      (fun e d => s.value callback = .error e ∧ d.process.Sized ∧ d.outgoing.sent = sent)
      (call callback d) := by
  obtain ⟨rfl, hfailure, houtgoing, hsized⟩ := h
  rw [call, Scene.value, Scene.called]
  rcases callback d.process.memory with ⟨hits, payload | value, memory⟩
  · exact ⟨rfl, hsized.play hits, congrArg Outlet.sent houtgoing⟩
  · exact ⟨rfl, rfl, hfailure, houtgoing, hsized.play hits⟩

end

/-! ### Tests -/

section

variable (pid : Int32) (guard : Callback σ Unit) (status : Callback σ Fault)

/-- What an agent does once it has read a word after a start. -/
def respond (guard : Callback σ Unit) (status : Callback σ Fault) :
    Except IoError Int32 → Serving σ Unit
  | .error e => fail (.io e)
  | .ok request =>
    if request ≠ statusRequest then fail (.unknownCommand request)
    else do
      call guard
      let fault ← call status
      sendReport fault
      log .debug s!"Reported fault {fault.name}"

theorem test_eq_respond (collect : Bool) : test pid guard status collect = (do
    modify fun d => { d with process := d.process.begin collect }
    send (Word.encode pid)
    log .debug s!"Test started, collecting locations: {collect}"
    receive >>= respond guard status) := by
  rw [test]
  refine bind_congr fun _ => bind_congr fun _ => bind_congr fun _ => bind_congr fun word => ?_
  rcases word with e | request <;> rfl

variable {connection : Connection} {s : Scene σ} {bytes rest sent : List UInt8} {d : Desk σ}
  {ending : Except Interruption Nat} {script : List Message}

/-- A start is answered, whatever comes then. -/
theorem test_goes {Q : Unit → Desk σ → Prop} (collect : Bool) (h : Waits connection s sent d)
    (hrest : ∀ d, Waits connection ⟨s.process.begin collect, s.arrivals⟩
        (sent ++ Word.encode pid) d →
      perform connection.limit ending sent (.ok (Word.encode pid) :: script)
        = perform connection.limit ending (sent ++ Word.encode pid) script →
      Ends Q (fun e => Closes connection ending sent (.ok (Word.encode pid) :: script) (.error e))
        ((receive >>= respond guard status) d)) :
    Ends Q (fun e => Closes connection ending sent (.ok (Word.encode pid) :: script) (.error e))
      (test pid guard status collect d) := by
  rw [test_eq_respond, bind_modify]
  refine (send_goes (h.begin collect) script).bind ?_
  rintro _ d ⟨hsent, hperform⟩
  rw [log, bind_modify]
  exact hrest _ (hsent.logged _) hperform

/-- A report is sent, or cannot be made. -/
theorem sendReport_goes {message : Message} (fault : Fault) (h : Waits connection s sent d)
    (hmessage : message = (s.process.report fault).encode.mapError .protocol) :
    Ends (fun _ d => ∃ report, message = .ok report ∧ Waits connection s (sent ++ report) d ∧
        perform connection.limit ending sent (.ok report :: script)
          = perform connection.limit ending (sent ++ report) script)
      (fun e => Closes connection ending sent (message :: script) (.error e))
      (sendReport fault d) := by
  have hget : (get : Serving σ (Desk σ)) d = .ok d d := rfl
  have hprocess : s.process = d.process := congrArg Scene.process h.scene
  rw [hprocess] at hmessage
  rw [sendReport, bind_of_ok hget]
  rcases hencode : (d.process.report fault).encode with e | report
  · rw [hencode] at hmessage
    exact .stop hmessage h.sized (congrArg Outlet.sent h.outgoing)
  · rw [hencode] at hmessage
    rw [hmessage]
    refine (send_goes h script).imp ?_ fun _ _ => id
    rintro - d ⟨hsent, hperform⟩
    exact ⟨report, rfl, hsent, hperform⟩

/-- A request is answered with the report on the test, if it can be made and sent. -/
theorem respond_goes (collect : Bool) (ending : Except Interruption Nat) (script : List Message)
    (h : Waits connection (s.asked collect) sent d) :
    Ends (fun _ d => ∃ report, s.report guard status collect = .ok report ∧
        Waits connection (s.tested guard status collect) (sent ++ report) d ∧
        perform connection.limit ending sent (.ok report :: script)
          = perform connection.limit ending (sent ++ report) script)
      (fun e =>
        Closes connection ending sent (s.report guard status collect :: script) (.error e))
      (respond guard status (.ok statusRequest) d) := by
  rw [respond, if_neg (not_not_intro rfl)]
  refine ((call_goes h).imp (fun _ _ => id) ?_).bind ?_
  · rintro e d ⟨hguard, hsized, hsent⟩
    exact .stop (Scene.report_of_error hguard) hsized hsent
  rintro ⟨⟩ d ⟨hguard, h⟩
  have hreport : s.report guard status collect
      = (((s.asked collect).called guard).value status).bind fun fault =>
          ((s.tested guard status collect).process.report fault).encode.mapError .protocol :=
    Scene.report_of_ok hguard
  refine ((call_goes h).imp (fun _ _ => id) ?_).bind ?_
  · rintro e d ⟨hstatus, hsized, hsent⟩
    rw [hstatus] at hreport
    exact .stop hreport hsized hsent
  rintro fault d ⟨hstatus, h⟩
  rw [hstatus] at hreport
  refine (sendReport_goes fault h hreport).bind ?_
  rintro - d ⟨report, hreport, hsent, hperform⟩
  exact ⟨report, hreport, hsent.logged _, hperform⟩

/-- A start and the request for its report are answered, one message after another. -/
theorem test_answered (collect : Bool) (h : Waits connection s.heard sent d)
    (hrequest : payload s.heard.arrivals = Word.encode statusRequest ++ bytes) :
    Ends (fun _ d => ∃ sent', Waits connection (s.tested guard status collect) sent' d ∧
        perform connection.limit ending sent
            (.ok (Word.encode pid) :: s.report guard status collect :: script)
          = perform connection.limit ending sent' script)
      (fun e => Closes connection ending sent
        (.ok (Word.encode pid) :: s.report guard status collect :: script) (.error e))
      (test pid guard status collect d) := by
  refine test_goes pid guard status collect h fun d h hpid => ?_
  refine (receive_waits h hrequest).bind ?_
  rintro _ d ⟨rfl, h⟩
  refine (respond_goes guard status collect ending script h).imp ?_ ?_
  · rintro - d ⟨report, hreport, h, hperform⟩
    rw [← hreport] at hperform
    exact ⟨_, h, hpid.trans hperform⟩
  · intro e d hcloses
    exact hcloses.of_perform_eq hpid

/-! ### Sessions -/

/-- A session ends as if a script had been performed. -/
abbrev Goes (connection : Connection) (ending : Except Interruption Nat) (sent : List UInt8)
    (script : List Message) : EStateM.Result Interruption (Desk σ) Nat → Prop :=
  Ends (fun tests => Closes connection ending sent script (.ok tests))
    (fun e => Closes connection ending sent script (.error e))

/-- A start is heard wherever a command is due. -/
theorem serve_start {Q : Nat → Desk σ → Prop} {E : Interruption → Desk σ → Prop} {collect : Bool}
    {limit done : Nat} (h : Waits connection s sent d)
    (hbytes : payload s.arrivals = Word.encode (Command.starting collect).code ++ bytes)
    (hrest : ∀ d, Waits connection s.heard sent d → Ends Q E
      ((test pid guard status collect >>= fun _ => serve pid guard status limit (done + 1)) d)) :
    Ends Q E (serve pid guard status (limit + 1) done d) := by
  rw [serve_succ]
  refine (receive_waits h hbytes).bind ?_
  rintro _ d ⟨rfl, hstart⟩
  dsimp only
  rw [Command.ofCode_code]
  cases collect with
  | false => exact hrest d hstart
  | true => exact hrest d hstart

/-- After a start that no request follows, the process id is all that is sent. -/
theorem serve_unanswered {collect : Bool} {e : Interruption} (limit done : Nat)
    (h : Waits connection s sent d)
    (hbytes : payload s.arrivals = Word.encode (Command.starting collect).code ++ bytes)
    (hrespond : ∀ {s : Scene σ} {sent : List UInt8} {d : Desk σ}, Waits connection s sent d →
      payload s.arrivals = bytes →
      Ends (fun _ _ => False) (fun e' d => e' = e ∧ Waits connection s.heard sent d)
        ((receive >>= respond guard status) d)) :
    Goes connection (.error e) sent [.ok (Word.encode pid)]
      (serve pid guard status (limit + 1) done d) := by
  refine serve_start pid guard status h hbytes fun d hstart => ?_
  have htest : Ends (fun _ _ => False)
      (fun e' => Closes connection (.error e) sent [.ok (Word.encode pid)] (.error e'))
      (test pid guard status collect d) := by
    refine test_goes pid guard status collect hstart fun d h hperform => ?_
    refine (hrespond h (payload_heard hbytes)).imp (fun _ _ => False.elim) ?_
    rintro _ d ⟨rfl, h⟩
    exact h.closes.of_perform_eq hperform
  exact htest.bind fun _ _ => False.elim

/-- What a conclusion comes to. -/
theorem serve_conclusion (conclusion : Conclusion) (limit done : Nat)
    (h : Waits connection s sent d) (hbytes : payload s.arrivals = conclusion.bytes) :
    Goes connection (conclusion.result connection.failure done) sent
      (Agent.script pid guard status ⟨[], conclusion⟩ s)
      (serve pid guard status (limit + 1) done d) := by
  cases conclusion with
  | left rest short =>
    rw [serve_succ]
    refine (receive_short h (hbytes ▸ short)).bind ?_
    rintro _ d ⟨rfl, h⟩
    rcases connection.failure with - | reason
    · exact h.closes
    · exact h.closes
  | stopped rest =>
    rw [serve_succ]
    refine (receive_waits h hbytes).bind ?_
    rintro _ d ⟨rfl, h⟩
    exact h.closes
  | unknownCommand code rest unknown =>
    rw [serve_succ]
    refine (receive_waits h hbytes).bind ?_
    rintro _ d ⟨rfl, h⟩
    dsimp only
    rw [Command.ofCode_of_ne unknown]
    exact h.closes
  | cut collect rest short =>
    refine serve_unanswered pid guard status limit done h hbytes fun h hrest => ?_
    refine (receive_short h (hrest ▸ short)).bind ?_
    rintro _ d ⟨rfl, h⟩
    exact ⟨rfl, h⟩
  | unknownRequest collect code rest unknown =>
    refine serve_unanswered pid guard status limit done h hbytes fun h hrest => ?_
    refine (receive_waits h hrest).bind ?_
    rintro _ d ⟨rfl, h⟩
    rw [respond, if_pos unknown]
    exact ⟨rfl, h⟩

/-- **A session performs a script.** -/
theorem serve_goes (c : Conversation) {limit : Nat} (hlimit : c.tests.length < limit) (done : Nat)
    (h : Waits connection s sent d) (hbytes : payload s.arrivals = c.bytes) :
    Goes connection (c.conclusion.result connection.failure (done + c.tests.length)) sent
      (Agent.script pid guard status c s) (serve pid guard status limit done d) := by
  -- by induction on the tests: what is said behind one of them is a conversation again
  obtain ⟨tests, conclusion⟩ := c
  obtain ⟨limit, rfl⟩ := Nat.exists_eq_add_one_of_ne_zero (Nat.ne_zero_of_lt hlimit)
  induction tests generalizing limit done s sent d with
  | nil => exact serve_conclusion pid guard status conclusion limit done h hbytes
  | cons collect rest ih =>
    have hwords : payload s.arrivals = Word.encode (Command.starting collect).code
        ++ (Word.encode statusRequest ++ Conversation.bytes ⟨rest, conclusion⟩) := by
      simp only [hbytes, Conversation.bytes, Conversation.exchange, List.flatMap_cons,
        List.append_assoc]
    have hscript : Agent.script pid guard status ⟨collect :: rest, conclusion⟩ s
        = .ok (Word.encode pid) :: s.report guard status collect
          :: Agent.script pid guard status ⟨rest, conclusion⟩ (s.tested guard status collect) :=
      rfl
    have hrest : rest.length < limit := Nat.lt_of_succ_lt_succ hlimit
    obtain ⟨limit, rfl⟩ := Nat.exists_eq_add_one_of_ne_zero (Nat.ne_zero_of_lt hrest)
    rw [hscript]
    refine serve_start pid guard status h hwords ?_
    intro d hstart
    have hrequest : payload s.heard.arrivals
        = Word.encode statusRequest ++ Conversation.bytes ⟨rest, conclusion⟩ :=
      payload_heard hwords
    have hasked : payload (s.asked collect).arrivals = Conversation.bytes ⟨rest, conclusion⟩ :=
      payload_heard (s := ⟨s.heard.process.begin collect, s.heard.arrivals⟩) hrequest
    refine (test_answered pid guard status collect hstart hrequest).bind ?_
    rintro - d ⟨sent', h, hperform⟩
    have hsession := ih (done + 1) h hasked limit hrest
    rw [Nat.add_right_comm done 1, Nat.add_assoc] at hsession
    exact hsession.imp (fun _ _ hcloses => hcloses.of_perform_eq hperform)
      fun _ _ hcloses => hcloses.of_perform_eq hperform

/-- **A visit is a performance** of the conversation on its connection, and leaves the
process in order. -/
theorem visit_eq_performance {p : AgentProcess σ} (h : p.Sized) {c : Conversation}
    (hbytes : c.bytes = payload connection.arrivals) :
    (visit pid guard status p connection).1 = performance pid guard status p connection c ∧
      (visit pid guard status p connection).2.1.Sized := by
  have hlimit : c.tests.length < connection.arrivals.length + 1 := by
    have harrivals : (payload connection.arrivals).length ≤ connection.arrivals.length :=
      List.length_filterMap_le _ _
    have htests := c.length_tests_le
    rw [hbytes] at htests
    omega
  have hbegin : Waits connection ⟨p, connection.arrivals⟩ [] (⟨p, connection.arrivals,
      connection.failure, { limit := connection.limit }, []⟩ : Desk σ) := ⟨rfl, rfl, rfl, h⟩
  have hserve := serve_goes pid guard status c hlimit 0 hbegin hbytes.symm
  rw [Nat.zero_add] at hserve
  rw [visit, performance]
  rcases hdesk : serve pid guard status (connection.arrivals.length + 1) 0 _
    with ⟨tests, d⟩ | ⟨e, d⟩ <;> rw [hdesk] at hserve
  · exact ⟨hserve.2, hserve.1.play _⟩
  · exact ⟨hserve.2, hserve.1.play _⟩

end

/-! ### Obstacles -/

namespace Scene

variable {possible : Hit → Prop} {guard : Callback σ Unit} {status : Callback σ Fault}
  {s : Scene σ}

/-- A test keeps the process in order. -/
theorem sized_asked (h : s.process.Sized) (collect : Bool) : (s.asked collect).process.Sized :=
  ((h.play _).sized_begin collect).play _

theorem sized_called {callback : Callback σ α} (h : s.process.Sized) :
    (s.called callback).process.Sized :=
  h.play _

theorem sized_tested (h : s.process.Sized) (collect : Bool) :
    (s.tested guard status collect).process.Sized :=
  sized_called (sized_called (sized_asked h collect))

/-- What keeps a report from being made: code that panics when it is called, or the text
about the locations of the test. -/
theorem report_error {collect : Bool} {e : Interruption} (h : s.process.Sized)
    (hreport : s.report guard status collect = .error e) :
    (s.asked collect).value guard = .error e ∨
      ((s.asked collect).called guard).value status = .error e ∨
      1 <<< 31 ≤ (s.tested guard status collect).textLength ∧
        e = .protocol (.locationLength (s.tested guard status collect).textLength) := by
  rcases hguard : (s.asked collect).value guard with e' | ⟨⟩
  · rw [report_of_error hguard] at hreport
    exact .inl (congrArg Except.error (Except.error.inj hreport))
  rw [report_of_ok hguard] at hreport
  rcases hstatus : ((s.asked collect).called guard).value status with e' | fault <;>
    rw [hstatus] at hreport
  · exact .inr (.inl (congrArg Except.error (Except.error.inj hreport)))
  have hsize : ((s.tested guard status collect).process.report fault).coverage.size = mapSize :=
    sized_tested h collect
  dsimp only [Except.bind] at hreport
  rcases Nat.lt_or_ge (s.tested guard status collect).textLength (1 <<< 31) with hlt | hle
  · rw [Report.encode_of_lt hsize hlt] at hreport
    cases hreport
  · rw [Report.encode_of_le hsize hle] at hreport
    exact .inr (.inr ⟨hle, (Except.error.inj hreport).symm⟩)

end Scene

section

variable {possible : Hit → Prop} {guard : Callback σ Unit} {status : Callback σ Fault}
  {p : AgentProcess σ} {c : Connection}

/-- When a test has settled there are only possible hits on its table. -/
theorem Undisturbed.sendable_asked (h : Undisturbed possible guard status p c) (collect : Bool) :
    (Scene.asked ⟨p, c.arrivals⟩ collect).process.Sendable possible ∧
      ∀ x ∈ hits (Scene.asked ⟨p, c.arrivals⟩ collect).arrivals, possible x := by
  have hfirst := hits_split 4 c.arrivals
  have hsecond := hits_split 4 (split 4 c.arrivals).2.2
  have hleft : ∀ x ∈ hits (split 4 c.arrivals).2.2, possible x := fun x hx =>
    h.arriving x (hfirst ▸ List.mem_append_right _ hx)
  rw [← hsecond] at hleft
  have hbegun : ((p.play (split 4 c.arrivals).2.1).begin collect).Sendable possible :=
    (h.sized.play _).begin collect
  exact ⟨hbegun.play fun x hx => hleft x (List.mem_append_left _ hx),
    fun x hx => hleft x (List.mem_append_right _ hx)⟩

theorem Scene.sendable_called {s : Scene σ} {callback : Callback σ α}
    (h : s.process.Sendable possible) (hcalm : Calm possible callback) :
    (s.called callback).process.Sendable possible :=
  have hplayed := h.play (hcalm s.process.memory).1
  ⟨hplayed.size, hplayed.table⟩

theorem Scene.exists_value {s : Scene σ} {callback : Callback σ α}
    (hcalm : Calm possible callback) : ∃ value, s.value callback = .ok value := by
  obtain ⟨-, value, hvalue⟩ := hcalm s.process.memory
  exact ⟨value, congrArg (Except.mapError Interruption.panic) hvalue⟩

/-- An undisturbed test has its report. -/
theorem Undisturbed.exists_report (h : Undisturbed possible guard status p c) (collect : Bool) :
    ∃ report, Scene.report guard status ⟨p, c.arrivals⟩ collect = .ok report := by
  obtain ⟨⟨⟩, hguard⟩ := Scene.exists_value (s := Scene.asked ⟨p, c.arrivals⟩ collect) h.calm_guard
  obtain ⟨fault, hstatus⟩ := Scene.exists_value
    (s := (Scene.asked ⟨p, c.arrivals⟩ collect).called guard) h.calm_status
  have hsendable : (Scene.tested guard status ⟨p, c.arrivals⟩ collect).process.Sendable possible :=
    Scene.sendable_called (Scene.sendable_called (h.sendable_asked collect).1 h.calm_guard)
      h.calm_status
  obtain ⟨report, hencode⟩ := hsendable.encode_report h.short fault
  refine ⟨report, ?_⟩
  rw [Scene.report_of_ok hguard, hstatus]
  exact congrArg (Except.mapError Interruption.protocol) hencode

/-- What follows an undisturbed test is undisturbed. -/
theorem Undisturbed.tested (h : Undisturbed possible guard status p c) (collect : Bool) :
    Undisturbed possible guard status (Scene.tested guard status ⟨p, c.arrivals⟩ collect).process
      { c with arrivals := (Scene.tested guard status ⟨p, c.arrivals⟩ collect).arrivals } where
  sized := Scene.sized_tested (s := ⟨p, c.arrivals⟩) h.sized collect
  unlimited := h.unlimited
  arriving := (h.sendable_asked collect).2
  calm_guard := h.calm_guard
  calm_status := h.calm_status
  short := h.short

/-- If nothing is in their way, all the reports are made. -/
theorem Undisturbed.exists_reports (h : Undisturbed possible guard status p c)
    (tests : List Bool) : ∃ reports : List (List UInt8), reports.length = tests.length ∧
      Scene.reports guard status tests ⟨p, c.arrivals⟩ = reports.map .ok := by
  induction tests generalizing p c with
  | nil => exact ⟨[], rfl, rfl⟩
  | cons collect rest ih =>
    obtain ⟨report, hreport⟩ := h.exists_report collect
    obtain ⟨reports, hlength, hreports⟩ := ih (h.tested collect)
    refine ⟨report :: reports, congrArg Nat.succ hlength, ?_⟩
    rw [Scene.reports, hreport, List.map_cons]
    exact congrArg _ hreports

end

/-! ### Performances without obstacles -/

section

variable {pid : Int32} {guard : Callback σ Unit} {status : Callback σ Fault}
  {p : AgentProcess σ} {connection : Connection} {c : Conversation}

/-- If all the reports are made and find room, the answers are sent to the last one. -/
theorem performance_of_reports {reports : List (List UInt8)}
    (hreports : Scene.reports guard status c.tests ⟨p, connection.arrivals⟩ = reports.map .ok)
    (hroom : HasRoom connection.limit (c.answers pid reports).length) :
    performance pid guard status p connection c
      = ⟨c.conclusion.result connection.failure c.tests.length, c.answers pid reports⟩ := by
  obtain ⟨messages, hscript, hanswers⟩ := script_eq_map pid hreports
  rw [performance, hscript, ← hanswers]
  refine perform_of_hasRoom ?_
  rwa [List.length_nil, Nat.zero_add, hanswers]

theorem performance_of_undisturbed {possible : Hit → Prop}
    (h : Undisturbed possible guard status p connection) :
    ∃ reports : List (List UInt8), reports.length = c.tests.length ∧
      Scene.reports guard status c.tests ⟨p, connection.arrivals⟩ = reports.map .ok ∧
      performance pid guard status p connection c
        = ⟨c.conclusion.result connection.failure c.tests.length, c.answers pid reports⟩ := by
  obtain ⟨reports, hlength, hreports⟩ := h.exists_reports c.tests
  refine ⟨reports, hlength, hreports, performance_of_reports hreports ?_⟩
  rw [h.unlimited]
  exact fun _ hl => by cases hl

end

/-! ### Connections -/

section

variable (pid : Int32) (guard : Callback σ Unit) (status : Callback σ Fault)

/-- A process serves connections one after another.  It is in order for each of them, and
each of the visits is a performance of what is said on the connection. -/
inductive ServesEach : AgentProcess σ → List Connection → List Visit → Prop
  | nil {p : AgentProcess σ} : ServesEach p [] []
  | cons {p : AgentProcess σ} {connection : Connection} {v : Visit} {rest : List Connection}
      {vs : List Visit} (sized : p.Sized)
      (performed : ∀ c : Conversation, c.bytes = payload connection.arrivals →
        v = performance pid guard status p connection c)
      (next : ServesEach (visit pid guard status p connection).2.1 rest vs) :
      ServesEach p (connection :: rest) (v :: vs)

variable {pid guard status} in
theorem ServesEach.of_cons {p : AgentProcess σ} {connection : Connection}
    {rest : List Connection} {vs : List Visit}
    (h : ServesEach pid guard status p (connection :: rest) vs) :
    p.Sized ∧ ∃ v vs', vs = v :: vs' ∧
      (∀ c : Conversation, c.bytes = payload connection.arrivals →
        v = performance pid guard status p connection c) ∧
      ServesEach pid guard status (visit pid guard status p connection).2.1 rest vs' := by
  cases h with
  | cons sized performed next => exact ⟨sized, _, _, rfl, performed, next⟩

variable {pid guard status} in
theorem ServesEach.of_nil {p : AgentProcess σ} {vs : List Visit}
    (h : ServesEach pid guard status p [] vs) : vs = [] := by
  cases h
  rfl

/-- Each of the connections is served, whatever came of those before it. -/
theorem servesEach_visits {p : AgentProcess σ} (h : p.Sized) (connections : List Connection) :
    ServesEach pid guard status p connections (visits pid guard status p connections).1 := by
  induction connections generalizing p with
  | nil => exact .nil
  | cons connection rest ih =>
    obtain ⟨c, hc⟩ := Conversation.exists_bytes_eq (payload connection.arrivals)
    refine .cons h ?_ (ih (visit_eq_performance pid guard status h hc).2)
    intro c hc
    exact (visit_eq_performance pid guard status h hc).1

/-- A context has the map that it was begun with. -/
theorem map_of_install? {t t' : Tracing} {map : CoverageMap} {observer : Option Observer}
    {token : Nat} (hsize : map.size = mapSize)
    (h : t.install? map observer = some (t', token)) : t'.map token = map := by
  rw [Tracing.install?_of_size hsize] at h
  obtain ⟨rfl, rfl⟩ := Prod.mk.inj (Option.some.inj h)
  show (t.maps.push map)[t.maps.size]?.getD #[] = map
  rw [Array.getElem?_push_size]
  rfl

/-- The agent begins a context of its own, serves as many connections in it as it may, and
is done if there were so many. -/
theorem serveConnections_eq (limit : Nat) (tracing : Tracing) (memory : σ)
    (connections : List Connection) :
    ∃ t token, tracing.install? .zero (some .attentive) = some (t, token) ∧
      (serveConnections pid (some limit) guard status tracing memory connections).visits
        = (visits pid guard status ⟨t, token, {}, memory⟩ (connections.take limit)).1 ∧
      (serveConnections pid (some limit) guard status tracing memory connections).result
        = if limit ≤ connections.length then .ok () else .error acceptFailure := by
  obtain ⟨t, token, hinstall⟩ : ∃ t token,
      tracing.install? .zero (some .attentive) = some (t, token) :=
    ⟨_, _, Tracing.install?_of_size Array.size_replicate _⟩
  refine ⟨t, token, hinstall, ?_, ?_⟩
  · rw [serveConnections, serveOn, hinstall]
  · rw [serveConnections, serveOn, hinstall]

/-- An agent understands whatever controllers send. -/
structure Understands : Prop where
  /-- Any bytes are a conversation. -/
  conversation : ∀ bytes, ∃ c : Conversation, c.bytes = bytes
  /-- What is done on a connection is the performance of the conversation on it. -/
  connection : ∀ (p : AgentProcess σ) (connection : Connection) (c : Conversation), p.Sized →
    c.bytes = payload connection.arrivals →
    (visit pid guard status p connection).1 = performance pid guard status p connection c
  /-- If all reports are made and there is room for them, every start is answered with the
  process id and every request with the report, and the conclusion says how it ends. -/
  answers : ∀ (p : AgentProcess σ) (connection : Connection) (c : Conversation)
    (reports : List (List UInt8)),
    Scene.reports guard status c.tests ⟨p, connection.arrivals⟩ = reports.map .ok →
    HasRoom connection.limit (c.answers pid reports).length →
    performance pid guard status p connection c
      = ⟨c.conclusion.result connection.failure c.tests.length, c.answers pid reports⟩
  /-- A report is made, unless a callback panics when it is called for it, or no word can
  hold the length of the text about the locations that were hit. -/
  obstacles : ∀ (s : Scene σ) (collect : Bool) (e : Interruption), s.process.Sized →
    s.report guard status collect = .error e →
    (s.asked collect).value guard = .error e ∨
      ((s.asked collect).called guard).value status = .error e ∨
      1 <<< 31 ≤ (s.tested guard status collect).textLength ∧
        e = .protocol (.locationLength (s.tested guard status collect).textLength)
  /-- So there are all the reports if callbacks never panic and the text is always short. -/
  undisturbed : ∀ (possible : Hit → Prop) (p : AgentProcess σ) (connection : Connection)
    (c : Conversation), Undisturbed possible guard status p connection →
    ∃ reports : List (List UInt8), reports.length = c.tests.length ∧
      Scene.reports guard status c.tests ⟨p, connection.arrivals⟩ = reports.map .ok ∧
      performance pid guard status p connection c
        = ⟨c.conclusion.result connection.failure c.tests.length, c.answers pid reports⟩
  /-- In a context of its own the agent serves as many connections as it may, in the order
  in which they come, however those before them have ended. -/
  connections : ∀ (limit : Nat) (tracing : Tracing) (memory : σ) (connections : List Connection),
    ∃ t token, tracing.install? .zero (some .attentive) = some (t, token) ∧
      ServesEach pid guard status ⟨t, token, {}, memory⟩ (connections.take limit)
        (serveConnections pid (some limit) guard status tracing memory connections).visits
  /-- The agent is done when it has served so many. -/
  done : ∀ (limit : Nat) (tracing : Tracing) (memory : σ) (connections : List Connection),
    (serveConnections pid (some limit) guard status tracing memory connections).result = .ok () ↔
      limit ≤ connections.length

/-- **An agent understands whatever controllers send**, and nothing that one of them
does keeps it from the next. -/
theorem understands : Understands pid guard status where
  conversation := Conversation.exists_bytes_eq
  connection := by
    intro p connection c hsized hbytes
    exact (visit_eq_performance pid guard status hsized hbytes).1
  answers := by
    intro p connection c reports hreports hroom
    exact performance_of_reports hreports hroom
  obstacles := by
    intro s collect e hsized hreport
    exact Scene.report_error hsized hreport
  undisturbed := by
    intro possible p connection c hundisturbed
    exact performance_of_undisturbed hundisturbed
  connections := by
    intro limit tracing memory connections
    obtain ⟨t, token, hinstall, hvisits, -⟩ :=
      serveConnections_eq pid guard status limit tracing memory connections
    refine ⟨t, token, hinstall, ?_⟩
    rw [hvisits]
    refine servesEach_visits pid guard status ?_ _
    exact (congrArg Array.size (map_of_install? Array.size_replicate hinstall)).trans
      Array.size_replicate
  done := by
    intro limit tracing memory connections
    obtain ⟨-, -, -, -, hresult⟩ :=
      serveConnections_eq pid guard status limit tracing memory connections
    rw [hresult]
    split
    · next hle => exact iff_of_true rfl hle
    · next hlt => exact iff_of_false (by simp) hlt

end

/-- Three controllers.  One says nothing that an agent knows, one makes a test, with a hit
in it, and stops, and one starts a test and does not ask for the report. -/
def threeControllers : List Connection :=
  [⟨"127.0.0.1:40001", (Word.encode 9).map .byte, none, none⟩,
    ⟨"127.0.0.1:40002", (Word.encode 1).map .byte ++ .hit lonelyHit ::
      (Word.encode 0 ++ Word.encode 0).map .byte, none, none⟩,
    ⟨"127.0.0.1:40003", (Word.encode 2 ++ Word.encode 5).map .byte, none, none⟩]

/-- What they get, but for the second one. -/
def around (second : Visit) : List Visit :=
  [⟨.error (.protocol (.unknownCommand 9)), []⟩, second,
    ⟨.error (.protocol (.unknownCommand 5)), Word.encode 7⟩]

theorem ServesEach.of_threeControllers {guard : Callback σ Unit} {status : Callback σ Fault}
    {p : AgentProcess σ} {vs : List Visit} (h : ServesEach 7 guard status p threeControllers vs) :
    ∃ p' : AgentProcess σ, p'.Sized ∧ vs = around
      (performance 7 guard status p' threeControllers[1] ⟨[true], .stopped []⟩) := by
  have hnine : ∀ c : Command, c.code ≠ 9 := by
    intro c
    cases c <;> decide
  obtain ⟨-, first, _, rfl, hfirst, h⟩ := h.of_cons
  obtain ⟨hsized, second, _, rfl, hsecond, h⟩ := h.of_cons
  obtain ⟨-, third, _, rfl, hthird, h⟩ := h.of_cons
  obtain rfl := h.of_nil
  refine ⟨_, hsized, ?_⟩
  rw [hfirst ⟨[], .unknownCommand 9 [] hnine⟩ rfl, hsecond ⟨[true], .stopped []⟩ rfl,
    hthird ⟨[], .unknownRequest false 5 [] (by decide)⟩ rfl]
  rfl

/-- A status that panics. -/
def stuck : Callback σ Fault :=
  fun memory => ([], .error (.text "stuck"), memory)

/-- An agent serves the three of them. -/
def serveThree (status : Callback Unit Fault) : Outcome Unit :=
  serveConnections 7 (some 3) (idle ()) status {} () threeControllers

/-- Of three controllers an agent serves the one that it understands.  If its status is
stuck that one gets no report, and the others get what they got. -/
theorem threeControllers_understood :
    (∃ report : List UInt8, (serveThree (idle .none)).visits
      = around ⟨.ok 1, Word.encode 7 ++ report⟩) ∧
    (serveThree stuck).visits = around ⟨.error (.panic (.text "stuck")), Word.encode 7⟩ ∧
    ∀ status, (serveThree status).result = .ok () := by
  refine ⟨?_, ?_, fun status => ?_⟩
  · have h := understands 7 (idle () : Callback Unit Unit) (idle Fault.none)
    obtain ⟨_, _, -, hserves⟩ := h.connections 3 {} () threeControllers
    obtain ⟨p', hsized, hvisits⟩ := hserves.of_threeControllers
    -- nothing is in the way of the second one
    have hlonely := undisturbed_lonelyHit Fault.none (c := threeControllers[1]) hsized rfl
      fun _ => List.mem_singleton.mp
    obtain ⟨reports, hlength, -, hperformance⟩ :=
      h.undisturbed _ _ _ ⟨[true], .stopped []⟩ hlonely
    obtain ⟨report, rfl⟩ : ∃ report, reports = [report] := List.length_eq_one_iff.mp hlength
    rw [Conversation.answers, List.flatMap_singleton] at hperformance
    have hsecond := hperformance.trans (congrArg (Visit.mk (.ok 1)) (List.append_nil _))
    exact ⟨report, hvisits.trans (congrArg around hsecond)⟩
  · obtain ⟨_, _, -, hserves⟩ :=
      (understands 7 (idle () : Callback Unit Unit) stuck).connections 3 {} () threeControllers
    obtain ⟨p', -, hvisits⟩ := hserves.of_threeControllers
    exact hvisits
  · exact ((understands 7 (idle ()) status).done 3 {} () threeControllers).mpr (by decide)

end Agent

end BranchCoverage
