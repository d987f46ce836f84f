/-
What a controller says to an agent, and that the agent understands it.

A dialogue is some tests and then a stop (`dialogue`).  The same word asks for a
report and says stop, and it depends on where the listener is which of the two
it hears.  An agent that is sent a beginning of a dialogue is never at the wrong
place: it can be left, or be disturbed otherwise, but it never hears an unknown
command (`serve_hearing`), and undisturbed it serves every test.

Hits may come anywhere between the bytes of the dialogue, so what is heard are
the bytes that arrive without them (`Arrival.payload`).
-/
import BranchCoverage.Proofs.Agent.Isolation
import BranchCoverage.Proofs.Channel

namespace BranchCoverage

/-! ### Dialogues -/

/-- The words of so many tests: a start and a request for the report each. -/
def exchanges (start : Int32) (k : Nat) : List Int32 :=
  (List.replicate k [start, statusRequest]).flatten

/-- The words of a whole conversation. -/
def dialogue (start : Int32) (k : Nat) : List Int32 :=
  exchanges start k ++ [Command.stop.code]

theorem Command.ofCode_code (c : Command) : ofCode c.code = .ok c := by
  cases c <;> rfl

/-- The command that a controller starts tests with is a start. -/
theorem Command.starting_ne_stop (collect : Bool) : starting collect ≠ .stop := by
  cases collect <;> exact Command.noConfusion

/-- A dialogue has one test more at its beginning. -/
theorem dialogue_succ (start : Int32) (k : Nat) :
    dialogue start (k + 1) = start :: statusRequest :: dialogue start k :=
  rfl

/-- Exchanges have one more at their end. -/
theorem exchanges_succ (start : Int32) (k : Nat) :
    exchanges start (k + 1) = exchanges start k ++ [start, statusRequest] := by
  rw [exchanges, List.replicate_succ', List.flatten_append]
  rfl

/-! ### Arrivals -/

namespace Arrival

/-- The bytes among what arrives. -/
def payload (arrivals : List Arrival) : List UInt8 :=
  arrivals.filterMap fun
    | .byte b => some b
    | .hit _ => none

/-- The hits among what arrives. -/
def hits (arrivals : List Arrival) : List Hit :=
  arrivals.filterMap fun
    | .byte _ => none
    | .hit x => some x

theorem payload_map_byte (bytes : List UInt8) : payload (bytes.map .byte) = bytes := by
  rw [payload, List.filterMap_map]
  exact List.filterMap_some

theorem hits_map_byte (bytes : List UInt8) : hits (bytes.map .byte) = [] := by
  rw [hits, List.filterMap_map]
  exact List.filterMap_eq_nil_iff.mpr fun _ _ => rfl

/-- Dividing what arrives divides the bytes by their number. -/
theorem payload_split (needed : Nat) (arrivals : List Arrival) :
    (split needed arrivals).1 = (payload arrivals).take needed ∧
      payload (split needed arrivals).2.2 = (payload arrivals).drop needed := by
  induction arrivals generalizing needed with
  | nil => cases needed <;> exact ⟨rfl, rfl⟩
  | cons arrival rest ih =>
    cases needed with
    | zero => exact ⟨rfl, rfl⟩
    | succ needed =>
      cases arrival with
      | hit x => exact ih (needed + 1)
      | byte b =>
        obtain ⟨htaken, hleft⟩ := ih needed
        exact ⟨congrArg (b :: ·) htaken, hleft⟩

/-- It loses none of the hits. -/
theorem hits_split (needed : Nat) (arrivals : List Arrival) :
    (split needed arrivals).2.1 ++ hits (split needed arrivals).2.2 = hits arrivals := by
  induction arrivals generalizing needed with
  | nil => cases needed <;> rfl
  | cons arrival rest ih =>
    cases needed with
    | zero => rfl
    | succ needed =>
      cases arrival with
      | hit x => exact congrArg (x :: ·) (ih (needed + 1))
      | byte b => exact ih needed

end Arrival

/-! ### Reports that can be sent -/

namespace Tracing

theorem size_map_write (t : Tracing) (target : Option Nat) (d : Discipline) (hash : UInt32)
    (token : Nat) : ((t.write target (d.record hash)).map token).size = (t.map token).size := by
  cases target with
  | none => rfl
  | some changed =>
    show ((t.maps.modify changed (d.record hash))[token]?.getD #[]).size
      = (t.maps[token]?.getD #[]).size
    rw [Array.getElem?_modify]
    split
    · rcases t.maps[token]? with - | map
      · rfl
      · exact size_record d hash map
    · rfl

theorem size_map_hit (t : Tracing) (x : Hit) (token : Nat) :
    ((t.hit x).1.map token).size = (t.map token).size := by
  cases x with
  | call d id label => exact size_map_write _ _ d _ token
  | inline copy d id =>
    cases copy with
    | none => exact size_map_write _ _ d _ token
    | some index =>
      show ((t.hitCopy index d id).map token).size = _
      rw [Tracing.hitCopy]
      split
      · rfl
      · exact size_map_write _ _ d _ token

/-- Hits keep the size of a map. -/
theorem size_map_play (t : Tracing) (more : List Hit) (token : Nat) :
    ((t.play more).1.map token).size = (t.map token).size := by
  rw [play_eq_foldl]
  induction more generalizing t with
  | nil => rfl
  | cons x rest ih => exact (ih (t.hit x).1).trans (size_map_hit t x token)

theorem notices_play_of_none {t : Tracing} (h : t.observer = none) (more : List Hit) :
    (t.play more).2 = [] := by
  induction more generalizing t with
  | nil => rfl
  | cons x rest ih =>
    rw [play_cons, ih ((observer_hit t x).trans h)]
    cases x with
    | call d id label =>
      show (t.observer.map _).toList ++ _ = _
      rw [h]
      rfl
    | inline copy d id => cases copy <;> rfl

end Tracing

namespace AgentProcess

variable {σ : Type} {possible : Hit → Prop} {p : AgentProcess σ}

/-- The map of a process has the right size. -/
def Sized (p : AgentProcess σ) : Prop :=
  (p.tracing.map p.token).size = mapSize

/-- So it has, and its table is one of possible hits. -/
structure Sendable (possible : Hit → Prop) (p : AgentProcess σ) : Prop where
  size : p.Sized
  table : ∃ hits, (∀ x ∈ hits, possible x) ∧
    p.collector.locations = Trial.table (Trial.located hits)

/-- Hits go on the table as they are, or not at all. -/
theorem locations_play (p : AgentProcess σ) (more : List Hit) :
    (p.play more).collector.locations = p.collector.locations ∨
      (p.play more).collector.locations
        = (Trial.located more).foldl (fun table x => table.record x.1 x.2)
            p.collector.locations := by
  show (((p.tracing.play more).2.filter (·.token = p.token)).foldl
      Collector.observe p.collector).locations = _ ∨
    (((p.tracing.play more).2.filter (·.token = p.token)).foldl
      Collector.observe p.collector).locations = _
  rcases hobserver : p.tracing.observer with - | ⟨token, observer⟩
  · rw [Tracing.notices_play_of_none hobserver]
    exact .inl rfl
  · rw [Tracing.notices_play hobserver, List.filter_map]
    by_cases hmine : token = p.token
    · have hall : (Trial.located more).filter ((fun notice : Notice => decide (notice.token
          = p.token)) ∘ fun x => ⟨token, observer, x.1, x.2⟩) = Trial.located more :=
        List.filter_eq_self.mpr fun _ _ => decide_eq_true hmine
      rw [hall, Collector.foldl_observe]
      cases p.collector.enabled with
      | false => exact .inl rfl
      | true => exact .inr rfl
    · -- the observer is that of another context
      have hnone : (Trial.located more).filter ((fun notice : Notice => decide (notice.token
          = p.token)) ∘ fun x => ⟨token, observer, x.1, x.2⟩) = [] :=
        List.filter_eq_nil_iff.mpr fun _ _ h => hmine (of_decide_eq_true h)
      rw [hnone]
      exact .inl rfl

theorem Sized.play (h : p.Sized) (more : List Hit) : (p.play more).Sized :=
  (Tracing.size_map_play p.tracing more p.token).trans h

theorem Sendable.play (h : p.Sendable possible) {more : List Hit}
    (hmore : ∀ x ∈ more, possible x) : (p.play more).Sendable possible where
  size := h.size.play more
  table := by
    obtain ⟨hits, hpossible, htable⟩ := h.table
    rcases locations_play p more with hsame | hmoved
    · exact ⟨hits, hpossible, hsame.trans htable⟩
    · refine ⟨hits ++ more, fun x hx => ?_, ?_⟩
      · exact (List.mem_append.mp hx).elim (hpossible x) (hmore x)
      · rw [hmoved, htable, Trial.table, Trial.table, Trial.located, Trial.located,
          Trial.located, List.filterMap_append, List.foldl_append]

/-- Whatever was on the table is off it after a start. -/
theorem Sized.begin (h : p.Sized) (collect : Bool) : (p.begin collect).Sendable possible where
  size := by
    have hsize : (p.tracing.maps[p.token]?.getD #[]).size = mapSize := h
    show ((p.tracing.maps.modify p.token fun _ => .zero)[p.token]?.getD #[]).size = mapSize
    rw [Array.getElem?_modify, if_pos rfl]
    rcases hmap : p.tracing.maps[p.token]? with - | map
    · -- without a map there is nothing to clear, and nothing of the right size
      rw [hmap] at hsize
      exact hsize
    · exact Array.size_replicate
  table := ⟨[], fun _ hx => absurd hx List.not_mem_nil, rfl⟩

theorem Sized.sized_begin (h : p.Sized) (collect : Bool) : (p.begin collect).Sized :=
  Sendable.size (h.begin collect : (p.begin collect).Sendable fun _ => True)

/-- The report is sent if its text is short enough. -/
theorem Sendable.encode_report (h : p.Sendable possible)
    (hshort : ∀ hits, (∀ x ∈ hits, possible x) →
      (Trial.table (Trial.located hits)).render.utf8ByteSize < 1 <<< 31) (fault : Fault) :
    ∃ bytes, (p.report fault).encode = .ok bytes := by
  obtain ⟨hits, hpossible, htable⟩ := h.table
  have hlength : (p.report fault).locations.utf8ByteSize < 1 <<< 31 := by
    show p.collector.locations.render.utf8ByteSize < 1 <<< 31
    rw [htable]
    exact hshort hits hpossible
  have hsize : ¬ (p.report fault).coverage.size ≠ mapSize := not_not_intro h.size
  rw [Report.encode, if_neg hsize]
  dsimp only
  rw [if_pos hlength]
  exact ⟨_, rfl⟩

end AgentProcess

namespace Agent

open Arrival

variable {σ α : Type} {possible : Hit → Prop} {C : Prop} {d : Desk σ}

/-! ### Hearing -/

/-- Code that hits possible probes only, and does not panic. -/
def Calm (possible : Hit → Prop) (callback : Callback σ α) : Prop :=
  ∀ memory, (∀ x ∈ (callback memory).1, possible x) ∧ ∃ value, (callback memory).2.1 = .ok value

/-- What is still to be heard on a connection is a first part of these words.
If nothing is disturbed (`C`) it is all of them, hits are possible ones, and the
process is in order. -/
structure Hearing (possible : Hit → Prop) (P : AgentProcess σ → Prop) (C : Prop)
    (words : List Int32) (d : Desk σ) : Prop where
  heard : payload d.arrivals <+: words.flatMap Word.encode
  whole : C → payload d.arrivals = words.flatMap Word.encode
  unlimited : C → d.outgoing.limit = none
  arriving : C → ∀ x ∈ hits d.arrivals, possible x
  process : C → P d.process

/-- What ends a connection early: a disturbance, and never an unknown command. -/
def Disturbed (C : Prop) (e : Interruption) (_ : Desk σ) : Prop :=
  (∀ code, e ≠ .protocol (.unknownCommand code)) ∧ ¬ C

theorem fail_disturbed {Q : α → Desk σ → Prop} (h : ¬ C) (cause : IoError) :
    Ends Q (Disturbed C) (fail (.io cause) d) :=
  ⟨fun _ heq => (by cases heq), h⟩

variable {P : AgentProcess σ → Prop} {word : Int32} {words : List Int32}

/-- The process is at its work, and the connection stays as it is. -/
theorem Hearing.work {Q : AgentProcess σ → Prop} (h : Hearing possible P C words d)
    {p : AgentProcess σ} (hp : C → Q p) :
    Hearing possible Q C words { d with process := p } :=
  ⟨h.heard, h.whole, h.unlimited, h.arriving, hp⟩

theorem Hearing.begin (h : Hearing possible AgentProcess.Sized C words d) (collect : Bool) :
    Hearing possible (AgentProcess.Sendable possible) C words
      { d with process := d.process.begin collect } :=
  h.work fun hC => (h.process hC).begin collect

theorem Hearing.logged (h : Hearing possible P C words d) (line : LogLine) :
    Hearing possible P C words { d with log := line :: d.log } :=
  ⟨h.heard, h.whole, h.unlimited, h.arriving, h.process⟩

theorem ofList?_of_length_lt {bytes : List UInt8} (h : bytes.length < 4) :
    Word.ofList? bytes = none := by
  match bytes, h with
  | [], _ => rfl
  | [_], _ => rfl
  | [_, _], _ => rfl
  | [_, _, _], _ => rfl

/-- The next word is heard, or the connection was cut. -/
theorem receive_hearing {E : Interruption → Desk σ → Prop}
    (hP : ∀ p more, (∀ x ∈ more, possible x) → P p → P (p.play more))
    (h : Hearing possible P C (word :: words) d) :
    Ends (fun result d => (result = .ok word ∧ Hearing possible P C words d) ∨
        ((∃ e, result = .error e) ∧ ¬ C)) E (receive d) := by
  obtain ⟨process, arrivals, failure, outgoing, log⟩ := d
  obtain ⟨htaken, hleft⟩ := payload_split 4 arrivals
  have hhits := hits_split 4 arrivals
  obtain ⟨t, ht⟩ : ∃ t, payload arrivals ++ t = Word.encode word ++ words.flatMap Word.encode :=
    h.heard
  have hlength := Word.length_encode word
  rw [receive, gather_eq_split]
  rcases hsplit : Arrival.split 4 arrivals with ⟨bytes, more, rest⟩
  rw [hsplit] at htaken hleft hhits
  dsimp only at htaken hleft hhits ⊢
  rcases Nat.lt_or_ge (payload arrivals).length 4 with hlt | hle
  · -- too few bytes are left for a word, so some were never sent
    have hshort : bytes.length < 4 := by
      rw [htaken, List.length_take]
      omega
    rw [ofList?_of_length_lt hshort]
    refine .inr ⟨⟨_, rfl⟩, fun hC => ?_⟩
    have hwhole : payload arrivals = Word.encode word ++ words.flatMap Word.encode := h.whole hC
    rw [hwhole, List.length_append] at hlt
    omega
  · have hword : bytes = Word.encode word := by
      have htake := congrArg (List.take 4) ht
      rw [List.take_append_of_le_length hle, List.take_left' hlength] at htake
      exact htaken.trans htake
    have hrest : payload rest ++ t = words.flatMap Word.encode := by
      have hdrop := congrArg (List.drop 4) ht
      rw [List.drop_append_of_le_length hle, List.drop_left' hlength] at hdrop
      rw [hleft, hdrop]
    rw [hword, Word.ofList?_encode]
    refine .inl ⟨rfl, ⟨t, hrest⟩, fun hC => ?_, h.unlimited, fun hC x hx => ?_, fun hC => ?_⟩
    · have hwhole : payload arrivals = Word.encode word ++ words.flatMap Word.encode := h.whole hC
      show payload rest = _
      rw [hleft, hwhole, List.drop_left' hlength]
    · exact h.arriving hC x (hhits ▸ List.mem_append_right more hx)
    · refine hP process more (fun x hx => ?_) (h.process hC)
      exact h.arriving hC x (hhits ▸ List.mem_append_left _ hx)

theorem send_hearing (h : Hearing possible P C words d) (bytes : List UInt8) :
    Ends (fun _ => Hearing possible P C words) (Disturbed C) (send bytes d) := by
  rw [send]
  rcases Outlet.write_cases bytes d.outgoing with hwrite | ⟨e, part, -, hwrite⟩
  · rw [hwrite]
    exact ⟨h.heard, h.whole, h.unlimited, h.arriving, h.process⟩
  · rw [hwrite]
    refine ⟨fun _ heq => (by cases heq), fun hC => ?_⟩
    rw [Outlet.write_of_limit (h.unlimited hC)] at hwrite
    cases hwrite

theorem call_hearing (h : Hearing possible (AgentProcess.Sendable possible) C words d)
    {callback : Callback σ α} (hcalm : C → Calm possible callback) :
    Ends (fun _ => Hearing possible (AgentProcess.Sendable possible) C words) (Disturbed C)
      (call callback d) := by
  have hmemory := fun hC => hcalm hC d.process.memory
  rw [call]
  rcases hcall : callback d.process.memory with ⟨more, payload | value, memory⟩ <;>
    rw [hcall] at hmemory
  · refine ⟨fun code heq => (by cases heq), fun hC => ?_⟩
    obtain ⟨-, value, hvalue⟩ := hmemory hC
    cases hvalue
  · refine h.work fun hC => ?_
    obtain ⟨hsize, htable⟩ := (h.process hC).play (hmemory hC).1
    exact ⟨hsize, htable⟩

theorem sendReport_hearing (h : Hearing possible (AgentProcess.Sendable possible) C words d)
    (hshort : C → ∀ hits, (∀ x ∈ hits, possible x) →
      (Trial.table (Trial.located hits)).render.utf8ByteSize < 1 <<< 31) (fault : Fault) :
    Ends (fun _ => Hearing possible AgentProcess.Sized C words) (Disturbed C)
      (sendReport fault d) := by
  have hget : (get : Serving σ (Desk σ)) d = .ok d d := rfl
  have hsent := fun hC => (h.process hC).encode_report (hshort hC) fault
  rw [sendReport, bind_of_ok hget]
  rcases hencode : (d.process.report fault).encode with e | bytes
  · refine ⟨fun code heq => ?_, fun hC => ?_⟩
    · -- the two reasons not to send a report are others
      cases heq
      rw [Report.encode] at hencode
      split at hencode
      · cases hencode
      · dsimp only at hencode
        split at hencode <;> cases hencode
    · obtain ⟨bytes, hbytes⟩ := hsent hC
      rw [hbytes] at hencode
      cases hencode
  · exact send_hearing (h.work fun hC => (h.process hC).size) bytes

/-! ### Tests and sessions -/

/-- What an agent does from the word of a start until it waits for the next one. -/
def test (pid : Int32) (guard : Callback σ Unit) (status : Callback σ Fault) (collect : Bool) :
    Serving σ Unit := do
  modify fun d => { d with process := d.process.begin collect }
  send (Word.encode pid)
  log .debug s!"Test started, collecting locations: {collect}"
  match ← receive with
  | .error e => fail (.io e)
  | .ok request =>
    if request ≠ statusRequest then fail (.unknownCommand request)
    else
      call guard
      let fault ← call status
      sendReport fault
      log .debug s!"Reported fault {fault.name}"

section

variable (pid : Int32) (guard : Callback σ Unit) (status : Callback σ Fault)

/-- A session is its first test, and the rest of it. -/
theorem serve_succ (limit done : Nat) : serve pid guard status (limit + 1) done = (do
    match ← receive with
    | .error .endOfInput => pure done
    | .error e => fail (.io e)
    | .ok code =>
      match Command.ofCode code with
      | .error e => fail e
      | .ok .stop => pure done
      | .ok command =>
        test pid guard status command.collects
        serve pid guard status limit (done + 1)) := by
  rw [serve]
  refine bind_congr fun word => ?_
  rcases word with (- | reason) | code
  · rfl
  · rfl
  dsimp only
  rcases Command.ofCode code with e | command
  · rfl
  cases command
  case stop => rfl
  all_goals
    simp only [test, bind_assoc]
    refine bind_congr fun _ => bind_congr fun _ => bind_congr fun _ => bind_congr fun word => ?_
    rcases word with e | request
    · rfl
    dsimp only
    split
    · rfl
    · simp only [bind_assoc]

variable (hguard : C → Calm possible guard) (hstatus : C → Calm possible status)
  (hshort : C → ∀ hits, (∀ x ∈ hits, possible x) →
    (Trial.table (Trial.located hits)).render.utf8ByteSize < 1 <<< 31)

include hguard hstatus hshort

/-- The word after a start is heard as the request for the report. -/
theorem test_hearing (collect : Bool)
    (h : Hearing possible AgentProcess.Sized C (statusRequest :: words) d) :
    Ends (fun _ => Hearing possible AgentProcess.Sized C words) (Disturbed C)
      (test pid guard status collect d) := by
  rw [test, bind_modify]
  refine (send_hearing (h.begin collect) _).bind fun _ d h => ?_
  rw [log, bind_modify]
  refine (receive_hearing (fun _ _ hmore hp => hp.play hmore) (h.logged _)).bind ?_
  rintro word d (⟨rfl, h⟩ | ⟨⟨e, rfl⟩, hcut⟩)
  · dsimp only
    rw [if_neg (not_not_intro rfl)]
    refine (call_hearing h hguard).bind fun _ d h => ?_
    refine (call_hearing h hstatus).bind fun fault d h => ?_
    refine (sendReport_hearing h hshort fault).bind fun _ d h => ?_
    exact h.logged _
  · exact fail_disturbed hcut e

/-- **An agent understands a dialogue**, wherever it is cut. -/
theorem serve_hearing {opening : Command} (hopening : opening ≠ .stop) {k : Nat}
    (limit done : Nat) (h : Hearing possible AgentProcess.Sized C (dialogue opening.code k) d)
    (hlimit : C → k < limit) :
    Ends (fun tests _ => C → tests = done + k) (Disturbed C)
      (serve pid guard status limit done d) := by
  induction limit generalizing done k d with
  | zero => exact fun hC => absurd (hlimit hC) (Nat.not_lt_zero k)
  | succ limit ih =>
    rw [serve_succ]
    obtain ⟨word, words, hwords⟩ : ∃ word words, dialogue opening.code k = word :: words := by
      cases k <;> exact ⟨_, _, rfl⟩
    rw [hwords] at h
    refine (receive_hearing (fun _ more _ hp => hp.play more) h).bind ?_
    rintro heard d (⟨rfl, hrest⟩ | ⟨⟨e, rfl⟩, hcut⟩)
    · cases k with
      | zero =>
        obtain ⟨rfl, rfl⟩ := List.cons.inj hwords
        exact fun _ => rfl
      | succ k =>
        rw [dialogue_succ] at hwords
        obtain ⟨rfl, rfl⟩ := List.cons.inj hwords
        dsimp only
        rw [Command.ofCode_code]
        cases opening
        case stop => exact absurd rfl hopening
        all_goals
          refine (test_hearing pid guard status hguard hstatus hshort _ hrest).bind fun _ d h => ?_
          refine (ih (done + 1) h fun hC => ?_).imp (fun tests _ htests hC => ?_) fun _ _ => id
          · exact Nat.lt_of_succ_lt_succ (hlimit hC)
          · rw [htests hC]
            omega
    · -- the connection was cut before the word came
      rcases e with - | reason
      · exact fun hC => absurd hC hcut
      · exact fail_disturbed hcut _

end

/-! ### Connections -/

/-- Nothing is in the way of the tests on a connection: the reports can be sent,
and no callback panics. -/
structure Undisturbed (possible : Hit → Prop) (guard : Callback σ Unit)
    (status : Callback σ Fault) (p : AgentProcess σ) (c : Connection) : Prop where
  sized : p.Sized
  unlimited : c.limit = none
  arriving : ∀ x ∈ hits c.arrivals, possible x
  calm_guard : Calm possible guard
  calm_status : Calm possible status
  /-- The text about possible hits has a length that fits into a word. -/
  short : ∀ hits, (∀ x ∈ hits, possible x) →
    (Trial.table (Trial.located hits)).render.utf8ByteSize < 1 <<< 31

variable {p : AgentProcess σ} {c : Connection} {opening : Command} {k : Nat}

/-- A connection on which a beginning of a dialogue arrives. -/
theorem visit_ne_unknownCommand (pid : Int32) (guard : Callback σ Unit)
    (status : Callback σ Fault) (p : AgentProcess σ) (hopening : opening ≠ .stop)
    (hbytes : payload c.arrivals <+: (dialogue opening.code k).flatMap Word.encode) (code : Int32) :
    (visit pid guard status p c).1.result ≠ .error (.protocol (.unknownCommand code)) := by
  have hhearing : Hearing (fun _ => False) AgentProcess.Sized False (dialogue opening.code k)
      (⟨p, c.arrivals, c.failure, { limit := c.limit }, []⟩ : Desk σ) :=
    ⟨hbytes, False.elim, False.elim, False.elim, False.elim⟩
  have hserve := serve_hearing pid guard status False.elim False.elim False.elim hopening
    (c.arrivals.length + 1) 0 hhearing False.elim
  rw [visit]
  rcases hdesk : serve pid guard status (c.arrivals.length + 1) 0 _ with ⟨tests, d⟩ | ⟨e, d⟩ <;>
    rw [hdesk] at hserve
  · exact fun heq => by cases heq
  · exact fun heq => hserve.1 code (Except.error.inj heq)

/-- A connection on which a whole dialogue arrives, and nothing is disturbed. -/
theorem visit_eq_ok {possible : Hit → Prop} (pid : Int32) {guard : Callback σ Unit}
    {status : Callback σ Fault} (h : Undisturbed possible guard status p c)
    (hopening : opening ≠ .stop)
    (hbytes : payload c.arrivals = (dialogue opening.code k).flatMap Word.encode) :
    (visit pid guard status p c).1.result = .ok k := by
  have hlimit : k < c.arrivals.length + 1 := by
    have hle : (payload c.arrivals).length ≤ c.arrivals.length := List.length_filterMap_le _ _
    have hwords : (dialogue opening.code k).length = 2 * k + 1 := by
      simp [dialogue, exchanges]
      omega
    rw [hbytes, Word.length_flatMap_encode, hwords] at hle
    omega
  have hhearing : Hearing possible AgentProcess.Sized True (dialogue opening.code k)
      (⟨p, c.arrivals, c.failure, { limit := c.limit }, []⟩ : Desk σ) :=
    ⟨hbytes ▸ List.prefix_refl _, fun _ => hbytes, fun _ => h.unlimited, fun _ => h.arriving,
      fun _ => h.sized⟩
  have hserve := serve_hearing pid guard status (fun _ => h.calm_guard) (fun _ => h.calm_status)
    (fun _ => h.short) hopening (c.arrivals.length + 1) 0 hhearing fun _ => hlimit
  rw [visit]
  rcases hdesk : serve pid guard status (c.arrivals.length + 1) 0 _ with ⟨tests, d⟩ | ⟨e, d⟩ <;>
    rw [hdesk] at hserve
  · have htests := hserve trivial
    rw [Nat.zero_add] at htests
    rw [htests]
  · exact absurd trivial hserve.2

/-! ### Quiet processes -/

/-- Code that gives a value, and does nothing else. -/
def idle (value : α) : Callback σ α :=
  fun memory => ([], .ok value, memory)

theorem calm_idle (possible : Hit → Prop) (value : α) :
    Calm possible (idle value : Callback σ α) :=
  fun _ => ⟨fun _ hx => absurd hx List.not_mem_nil, value, rfl⟩

/-- The hit of a process that has one probe. -/
def lonelyHit : Hit :=
  .call .counter 5 "Run"

/-- However often it is hit, there is one location on the table. -/
theorem table_lonelyHit {hits : List Hit} (h : ∀ x ∈ hits, x = lonelyHit) :
    Trial.table (Trial.located hits) = [] ∨ Trial.table (Trial.located hits) = [("Run", [5])] := by
  obtain ⟨n, rfl⟩ : ∃ n, hits = List.replicate n lonelyHit := ⟨_, List.eq_replicate_of_mem h⟩
  clear h
  induction n with
  | zero => exact .inl rfl
  | succ n ih =>
    have hlocated : Trial.located (List.replicate (n + 1) lonelyHit)
        = Trial.located (List.replicate n lonelyHit) ++ [(5, "Run")] := by
      rw [List.replicate_succ', Trial.located, List.filterMap_append]
      rfl
    rw [hlocated, Trial.table, List.foldl_append]
    rw [Trial.table] at ih
    rcases ih with hnone | hone
    · rw [hnone]
      exact .inr rfl
    · rw [hone]
      exact .inr rfl

/-- A connection on which these bytes arrive behind a hit. -/
def lonelyConnection (bytes : List UInt8) : Connection where
  peer := "127.0.0.1:40001"
  arrivals := .hit lonelyHit :: bytes.map .byte

theorem payload_lonelyConnection (bytes : List UInt8) :
    payload (lonelyConnection bytes).arrivals = bytes :=
  payload_map_byte bytes

theorem hits_lonelyConnection (bytes : List UInt8) :
    hits (lonelyConnection bytes).arrivals = [lonelyHit] :=
  congrArg _ (hits_map_byte bytes)

/-- Nothing is in the way of the tests of a process that has one probe and hits it as
often as it likes. -/
theorem undisturbed_lonelyHit (fault : Fault) (hsized : p.Sized) (hlimit : c.limit = none)
    (harriving : ∀ x ∈ hits c.arrivals, x = lonelyHit) :
    Undisturbed (· = lonelyHit) (idle ()) (idle fault) p c where
  sized := hsized
  unlimited := hlimit
  arriving := harriving
  calm_guard := calm_idle _ ()
  calm_status := calm_idle _ fault
  short := by
    intro hits hlonely
    rcases table_lonelyHit hlonely with hnone | hone
    · rw [hnone]
      decide
    · rw [hone]
      decide

end Agent

end BranchCoverage
