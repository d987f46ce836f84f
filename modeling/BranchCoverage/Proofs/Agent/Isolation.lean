/-
Tests of an agent are isolated from each other.

Whatever an agent's process has been through, while the agent's context is the
newest one it serves connections as an agent that remembers nothing does
(`visits_eq_outline`).  The start of a test is where the past is lost: before it
the process only has to be in order (`Attached`), and from then on map, previous
locations and table are those of the hits made since (`Testing`).  Every step of
the process goes along with a step of the outline (`EndAlike`), the hits of the
one being noted by the other.
-/
import BranchCoverage.Proofs.Agent.Outline
import BranchCoverage.Proofs.Step
import BranchCoverage.Proofs.Trace.History

namespace BranchCoverage

namespace Tracing

/-! ### Notices -/

variable {t : Tracing}

theorem observer_write (t : Tracing) (target : Option Nat) (f : CoverageMap → CoverageMap) :
    (t.write target f).observer = t.observer := by
  cases target <;> rfl

theorem observer_hit (t : Tracing) (x : Hit) : (t.hit x).1.observer = t.observer := by
  cases x with
  | call d id label => exact observer_write _ _ _
  | inline copy d id =>
    cases copy with
    | none => exact observer_write _ _ _
    | some index =>
      show (t.hitCopy index d id).observer = t.observer
      rw [Tracing.hitCopy]
      split
      · rfl
      · exact observer_write _ _ _

/-- One more hit, with its notice put before the others. -/
def noting (p : Tracing × List Notice) (x : Hit) : Tracing × List Notice :=
  ((p.1.hit x).1, (p.1.hit x).2.toList ++ p.2)

theorem play_eq_noting (t : Tracing) (hits : List Hit) :
    t.play hits = ((hits.foldl noting (t, [])).1, (hits.foldl noting (t, [])).2.reverse) :=
  rfl

/-- The notices that were there before stay behind those that follow. -/
theorem foldl_noting (hits : List Hit) (t : Tracing) (noted : List Notice) :
    hits.foldl noting (t, noted) = ((t.play hits).1, (t.play hits).2.reverse ++ noted) := by
  induction hits generalizing t noted with
  | nil => rfl
  | cons x rest ih =>
    rw [play_eq_noting, List.foldl_cons, List.foldl_cons, noting, noting, ih, ih]
    simp

theorem play_cons (t : Tracing) (x : Hit) (rest : List Hit) :
    t.play (x :: rest) = (((t.hit x).1.play rest).1,
      (t.hit x).2.toList ++ ((t.hit x).1.play rest).2) := by
  rw [play_eq_noting, List.foldl_cons, noting, foldl_noting]
  rcases (t.hit x).2 with - | notice <;> simp

/-- The notices of hits under one observer. -/
theorem notices_play {token : Nat} {observer : Observer} (h : t.observer = some (token, observer))
    (hits : List Hit) :
    (t.play hits).2 = (Trial.located hits).map fun p => ⟨token, observer, p.1, p.2⟩ := by
  induction hits generalizing t with
  | nil => rfl
  | cons x rest ih =>
    have hrest := ih ((observer_hit t x).trans h)
    rw [play_cons, hrest]
    cases x with
    | call d id label =>
      show (t.observer.map _).toList ++ _ = _
      rw [h]
      rfl
    | inline copy d id => cases copy <;> rfl

end Tracing

/-! ### Processes -/

/-- Taking reports is recording, while locations are collected. -/
theorem Collector.foldl_observe (token : Nat) (observer : Observer) (collect : Bool)
    (pairs : List (UInt32 × String)) (table : LocationTable) :
    (pairs.map fun p => (⟨token, observer, p.1, p.2⟩ : Notice)).foldl Collector.observe
        ⟨collect, table⟩
      = ⟨collect, if collect then pairs.foldl (fun table p => table.record p.1 p.2) table
          else table⟩ := by
  induction pairs generalizing table with
  | nil => cases collect <;> rfl
  | cons p rest ih =>
    rw [List.map_cons, List.foldl_cons]
    cases collect with
    | false => exact ih table
    | true => exact ih (table.record p.1 p.2)

namespace AgentProcess

variable {σ : Type} {registered : Nat → Bool} {collect : Bool} {hits : List Hit}
  {p : AgentProcess σ}

/-- The agent's context is the newest one: hits go to its map and are reported to
its collector. -/
structure Attached (registered : Nat → Bool) (p : AgentProcess σ) : Prop where
  observer : p.tracing.observer = some (p.token, .attentive)
  follows : ∃ r, Tracing.Follows registered p.token p.tracing r

/-- What a test has come to with the hits since its start. -/
structure Testing (registered : Nat → Bool) (collect : Bool) (hits : List Hit)
    (p : AgentProcess σ) : Prop where
  observer : p.tracing.observer = some (p.token, .attentive)
  follows : Tracing.Follows registered p.token p.tracing
    (hits.foldl (Replay.hit registered) { map := .zero })
  collector : p.collector
    = ⟨collect, if collect then Trial.table (Trial.located hits) else []⟩

theorem Testing.attached (h : p.Testing registered collect hits) : p.Attached registered :=
  ⟨h.observer, _, h.follows⟩

/-- A reachable process is attached while its context is the newest one. -/
theorem attached_of_reachable (htrace : p.tracing.Reachable)
    (hnewest : p.tracing.live.head? = some ⟨p.token, some .attentive⟩) :
    p.Attached p.tracing.isRegistered := by
  obtain ⟨l, hmatches⟩ := htrace.exists_matches
  have hlive : l.live.head? = some ⟨p.token, some .attentive⟩ := hmatches.live ▸ hnewest
  obtain ⟨rest, hrest⟩ : ∃ rest, l.live = ⟨p.token, some .attentive⟩ :: rest :=
    List.head?_eq_some_iff.mp hlive
  -- the newest context has an observer, so it is the one that is told
  have hobserver : p.tracing.observer = some (p.token, .attentive) := by
    rw [hmatches.observer, Ledger.listener, hrest]
    rfl
  have hlt : p.token < p.tracing.maps.size := by
    rw [hmatches.begun]
    exact hmatches.token_lt ⟨p.token, some .attentive⟩ (hrest ▸ List.mem_cons_self)
  have hcurrent : p.tracing.current = some p.token := by
    rw [Tracing.current, hnewest]
    rfl
  obtain ⟨r, -, hfollows⟩ := hmatches.routed.follows hcurrent (Array.getElem?_eq_getElem hlt)
  exact ⟨hobserver, r, hfollows⟩

/-! ### Hits and starts -/

/-- Hits are played one after another. -/
theorem play_cons (p : AgentProcess σ) (x : Hit) (rest : List Hit) :
    p.play (x :: rest) = (p.play [x]).play rest := by
  have hone : p.tracing.play [x] = ((p.tracing.hit x).1, (p.tracing.hit x).2.toList) := by
    rw [Tracing.play_cons]
    exact congrArg ((p.tracing.hit x).1, ·) (List.append_nil _)
  rw [play, play, play, hone, Tracing.play_cons]
  dsimp only
  rw [List.filter_append, List.foldl_append]

theorem observer_play (p : AgentProcess σ) (more : List Hit) :
    (p.play more).tracing.observer = p.tracing.observer := by
  show (p.tracing.play more).1.observer = _
  rw [Tracing.play_eq_foldl]
  generalize p.tracing = t
  induction more generalizing t with
  | nil => rfl
  | cons x rest ih => exact (ih (t.hit x).1).trans (Tracing.observer_hit t x)

theorem Attached.play (h : p.Attached registered) (more : List Hit) :
    (p.play more).Attached registered := by
  obtain ⟨r, hfollows⟩ := h.follows
  exact ⟨(observer_play p more).trans h.observer, _, hfollows.play more⟩

/-- Further hits belong to the test. -/
theorem Testing.play (h : p.Testing registered collect hits) (more : List Hit) :
    (p.play more).Testing registered collect (hits ++ more) where
  observer := (observer_play p more).trans h.observer
  follows := by
    rw [List.foldl_append]
    exact h.follows.play more
  collector := by
    -- all notices are for the agent's context, so the collector gets them all
    have hmine : (p.tracing.play more).2.filter (·.token = p.token) = (p.tracing.play more).2 := by
      rw [Tracing.notices_play h.observer, List.filter_eq_self]
      intro notice hnotice
      obtain ⟨pair, -, rfl⟩ := List.mem_map.mp hnotice
      exact decide_eq_true rfl
    show ((p.tracing.play more).2.filter (·.token = p.token)).foldl Collector.observe p.collector
      = _
    rw [hmine, Tracing.notices_play h.observer, h.collector, Collector.foldl_observe]
    cases collect with
    | false => rfl
    | true =>
      show (⟨true, (Trial.located more).foldl _ (Trial.table (Trial.located hits))⟩ : Collector)
        = ⟨true, Trial.table (Trial.located (hits ++ more))⟩
      rw [Trial.located, Trial.located, Trial.located, List.filterMap_append, Trial.table,
        Trial.table, List.foldl_append]

/-- **The start of a test makes a process forget**, whatever it has been through. -/
theorem Attached.begin (h : p.Attached registered) (collect : Bool) :
    (p.begin collect).Testing registered collect [] := by
  obtain ⟨r, hfollows⟩ := h.follows
  refine ⟨h.observer, hfollows.reset.clear, ?_⟩
  cases collect <;> rfl

/-- The report on a test is made up from its hits. -/
theorem Testing.report_eq (h : p.Testing registered collect hits) (fault : Fault) :
    p.report fault = (⟨collect, hits, fault⟩ : Trial).report registered := by
  have hmap : p.tracing.map p.token
      = (hits.foldl (Replay.hit registered) { map := .zero }).map := by
    rw [Tracing.map, h.follows.map]
    rfl
  have hlocations : p.collector.locations.render
      = if collect then (Trial.table (Trial.located hits)).render else "" := by
    rw [h.collector]
    cases collect <;> rfl
  rw [AgentProcess.report, Trial.report, hmap, hlocations]

end AgentProcess

namespace Agent

open AgentProcess

variable {σ α : Type} {registered : Nat → Bool} {collect : Bool} {hits : List Hit}
  {d : Desk σ} {o : Outline σ}

/-! ### Steps -/

/-- Desk and outline are of one connection, and the process has a property. -/
structure Sees (P : AgentProcess σ → Prop) (d : Desk σ) (o : Outline σ) : Prop where
  memory : d.process.memory = o.memory
  arrivals : d.arrivals = o.arrivals
  failure : d.failure = o.failure
  outgoing : d.outgoing = o.outgoing
  process : P d.process

theorem Sees.imp {P Q : AgentProcess σ → Prop} (h : Sees P d o) (hPQ : ∀ p, P p → Q p) :
    Sees Q d o :=
  ⟨h.memory, h.arrivals, h.failure, h.outgoing, hPQ _ h.process⟩

/-- Desk and outline between tests. -/
abbrev Idle (registered : Nat → Bool) : Desk σ → Outline σ → Prop :=
  Sees (Attached registered)

/-- Desk and outline during a test. -/
abbrev Busy (registered : Nat → Bool) (collect : Bool) (hits : List Hit) :
    Desk σ → Outline σ → Prop :=
  Sees (Testing registered collect hits)

theorem Sees.idle (h : Busy registered collect hits d o) : Idle registered d o :=
  h.imp fun _ => Testing.attached

theorem Sees.begin (h : Idle registered d o) (collect : Bool) :
    Busy registered collect [] { d with process := d.process.begin collect } o :=
  ⟨h.memory, h.arrivals, h.failure, h.outgoing, h.process.begin collect⟩

/-- The log is the desk's alone. -/
theorem Sees.logged {P : AgentProcess σ → Prop} (h : Sees P d o) (line : LogLine) :
    Sees P { d with log := line :: d.log } o :=
  ⟨h.memory, h.arrivals, h.failure, h.outgoing, h.process⟩

/-- Waiting for bytes records the hits among them. -/
theorem gather_eq_split (needed : Nat) (p : AgentProcess σ) (arrivals : List Arrival) :
    gather needed p arrivals
      = ((Arrival.split needed arrivals).1, p.play (Arrival.split needed arrivals).2.1,
        (Arrival.split needed arrivals).2.2) := by
  induction arrivals generalizing needed p with
  | nil => cases needed <;> rfl
  | cons arrival rest ih =>
    cases needed with
    | zero => rfl
    | succ needed =>
      cases arrival with
      | hit x =>
        rw [gather, ih, ← play_cons]
        rfl
      | byte b =>
        rw [gather, ih]
        rfl

/-- A word is received alike, and the hits until then are noted. -/
theorem receive_alike {P : AgentProcess σ → Prop} {Q : List Hit → AgentProcess σ → Prop}
    {E : Desk σ → Outline σ → Prop} (h : Sees P d o)
    (hhits : ∀ p more, P p → Q more (p.play more)) :
    EndAlike (fun word noted d o => word = noted.1 ∧ Sees (Q noted.2) d o) E
      (receive d) (Outline.receive o) := by
  obtain ⟨memory, arrivals, failure, outgoing⟩ := o
  obtain ⟨process, arrivals', failure', outgoing', log⟩ := d
  obtain ⟨rfl, rfl, rfl, rfl, hprocess⟩ := h
  have hsees : ∀ (bytes : List UInt8) (more : List Hit) (rest : List Arrival),
      Sees (Q more) ⟨process.play more, rest, failure', outgoing', log⟩
        ⟨process.memory, rest, failure', outgoing'⟩ :=
    fun _ more _ => ⟨rfl, rfl, rfl, rfl, hhits process more hprocess⟩
  rw [receive, Outline.receive, gather_eq_split]
  rcases Arrival.split 4 arrivals' with ⟨bytes, more, rest⟩
  dsimp only
  rcases Word.ofList? bytes with - | word
  · exact ⟨rfl, hsees bytes more rest⟩
  · exact ⟨rfl, hsees bytes more rest⟩

theorem fail_alike {β : Type} {R : α → β → Desk σ → Outline σ → Prop} (cause : ProtocolError)
    (h : Idle registered d o) :
    EndAlike R (Idle registered) (fail cause d) (Outline.fail cause o) :=
  ⟨rfl, h⟩

theorem send_alike {P : AgentProcess σ → Prop} (hP : ∀ p, P p → Attached registered p)
    (h : Sees P d o) (bytes : List UInt8) :
    EndAlike (fun _ _ => Sees P) (Idle registered) (send bytes d) (Outline.send bytes o) := by
  rw [send, Outline.send, h.outgoing]
  rcases o.outgoing.write bytes with ⟨e | -, outgoing⟩
  · exact ⟨rfl, h.memory, h.arrivals, h.failure, rfl, hP _ h.process⟩
  · exact ⟨h.memory, h.arrivals, h.failure, rfl, h.process⟩

/-- Code of the process is called alike, and its hits are noted. -/
theorem call_alike (h : Busy registered collect hits d o) (callback : Callback σ α) :
    EndAlike (fun x noted => fun d o => x = noted.1 ∧
        Busy registered collect (hits ++ noted.2) d o)
      (Idle registered) (call callback d) (Outline.call callback o) := by
  rw [call, Outline.call, h.memory]
  rcases callback o.memory with ⟨more, payload | x, memory⟩
  · have hplayed := (h.process.play more).attached
    exact ⟨rfl, rfl, h.arrivals, h.failure, h.outgoing, hplayed.observer, hplayed.follows⟩
  · have hplayed := h.process.play more
    exact ⟨rfl, rfl, h.arrivals, h.failure, h.outgoing, hplayed.observer, hplayed.follows,
      hplayed.collector⟩

theorem sendReport_alike (h : Busy registered collect hits d o) (fault : Fault) :
    EndAlike (fun _ _ => Idle registered) (Idle registered) (sendReport fault d)
      (Outline.sendReport registered ⟨collect, hits, fault⟩ o) := by
  have hget : (get : Serving σ (Desk σ)) d = .ok d d := rfl
  rw [sendReport, bind_of_ok hget, h.process.report_eq fault, Outline.sendReport]
  rcases ((⟨collect, hits, fault⟩ : Trial).report registered).encode with e | bytes
  · exact fail_alike e h.idle
  · exact send_alike (fun _ => id) h.idle bytes

/-! ### Tests and sessions -/

section

variable (pid : Int32) (guard : Callback σ Unit) (status : Callback σ Fault)

/-- **A session goes as that of an agent that remembers nothing.** -/
theorem serve_alike (limit done : Nat) (h : Idle registered d o) :
    EndAlike (fun tests tests' d o => tests = tests' ∧ Idle registered d o) (Idle registered)
      (serve pid guard status limit done d)
      (Outline.serve registered pid guard status limit done o) := by
  induction limit generalizing done d o with
  | zero => exact ⟨rfl, h⟩
  | succ limit ih =>
    rw [serve, Outline.serve]
    refine (receive_alike h fun _ more hp => hp.play more).bind ?_
    rintro word ⟨_, _⟩ d o ⟨rfl, h⟩
    rcases word with (- | reason) | code
    · exact ⟨rfl, h⟩
    · exact fail_alike _ h
    dsimp only
    rcases hcommand : Command.ofCode code with e | command
    · exact fail_alike e h
    cases command
    case stop => exact ⟨rfl, h⟩
    all_goals
      dsimp only
      -- whichever start it is, the test begins here, and its hits are noted from here on
      rw [bind_modify]
      refine (send_alike (fun _ => Testing.attached) (h.begin _) _).bind fun _ _ d o h => ?_
      rw [log, bind_modify]
      refine (receive_alike (h.logged _) fun _ more hp => hp.play more).bind ?_
      rintro word ⟨_, hits⟩ d o ⟨rfl, h⟩
      rcases word with e | request
      · exact fail_alike _ h.idle
      dsimp only
      split
      · exact fail_alike _ h.idle
      refine (call_alike h guard).bind ?_
      rintro - ⟨_, settling⟩ d o ⟨-, h⟩
      refine (call_alike h status).bind ?_
      rintro fault ⟨_, last⟩ d o ⟨rfl, h⟩
      refine (sendReport_alike h fault).bind fun _ _ d o h => ?_
      rw [log, bind_modify]
      exact ih (done + 1) (h.logged _)

/-! ### Connections -/

/-- A connection goes so too, and leaves the process in order for the next one. -/
theorem visit_alike {p : AgentProcess σ} (h : p.Attached registered) (c : Connection) :
    (visit pid guard status p c).1
        = (Outline.visit registered pid guard status p.memory c).1 ∧
      (visit pid guard status p c).2.1.memory
        = (Outline.visit registered pid guard status p.memory c).2 ∧
      (visit pid guard status p c).2.1.Attached registered := by
  have hbegin : Idle registered (⟨p, c.arrivals, c.failure, { limit := c.limit }, []⟩ : Desk σ)
      ⟨p.memory, c.arrivals, c.failure, { limit := c.limit }⟩ := ⟨rfl, rfl, rfl, rfl, h⟩
  have hserve := serve_alike pid guard status (c.arrivals.length + 1) 0 hbegin
  rw [visit, Outline.visit]
  rcases hdesk : serve pid guard status (c.arrivals.length + 1) 0 _ with ⟨tests, d⟩ | ⟨e, d⟩ <;>
    rcases houtline : Outline.serve registered pid guard status (c.arrivals.length + 1) 0 _
      with ⟨tests', o⟩ | ⟨e', o⟩ <;>
    rw [hdesk, houtline] at hserve
  · obtain ⟨rfl, hend⟩ := hserve
    have hsent := congrArg Outlet.sent hend.outgoing
    exact ⟨congrArg (Visit.mk (.ok tests)) hsent, hend.memory, hend.process.play _⟩
  · exact hserve.elim
  · exact hserve.elim
  · obtain ⟨rfl, hend⟩ := hserve
    have hsent := congrArg Outlet.sent hend.outgoing
    exact ⟨congrArg (Visit.mk (.error e)) hsent, hend.memory, hend.process.play _⟩

/-- **Connections go as those of an agent that remembers nothing.** -/
theorem visits_eq_outline {p : AgentProcess σ} (h : p.Attached registered)
    (connections : List Connection) :
    (visits pid guard status p connections).1
      = Outline.visits registered pid guard status p.memory connections := by
  induction connections generalizing p with
  | nil => rfl
  | cons c rest ih =>
    obtain ⟨hvisit, hmemory, hattached⟩ := visit_alike pid guard status h c
    have hrest := ih hattached
    rw [hmemory] at hrest
    rw [visits, Outline.visits]
    dsimp only
    rw [hvisit, hrest]

/-! ### Isolation -/

/-- The past of a process does not show in what it reports. -/
structure Isolated (p : AgentProcess σ) : Prop where
  /-- The report on a test is a function of its start, its hits and its fault. -/
  report : ∀ (collect : Bool) (hits : List Hit) (fault : Fault),
    ((p.begin collect).play hits).report fault
      = (⟨collect, hits, fault⟩ : Trial).report p.tracing.isRegistered
  /-- The reports that are sent, one after another and on one connection after
  another, are of that kind. -/
  visits : ∀ connections, (Agent.visits pid guard status p connections).1
    = Outline.visits p.tracing.isRegistered pid guard status p.memory connections
  /-- A process with another past sends the same. -/
  alike : ∀ p' : AgentProcess σ, p'.tracing.Reachable →
    p'.tracing.live.head? = some ⟨p'.token, some .attentive⟩ →
    p'.tracing.isRegistered = p.tracing.isRegistered → p'.memory = p.memory →
    ∀ connections, (Agent.visits pid guard status p' connections).1
      = (Agent.visits pid guard status p connections).1

/-- **Tests are isolated from each other**: whatever the process has been
through, while the agent's context is the newest one. -/
theorem isolated_of_newest (p : AgentProcess σ) (htrace : p.tracing.Reachable)
    (hnewest : p.tracing.live.head? = some ⟨p.token, some .attentive⟩) :
    Isolated pid guard status p := by
  have hattached := attached_of_reachable htrace hnewest
  refine ⟨fun collect hits fault => ?_, visits_eq_outline pid guard status hattached, ?_⟩
  · have htesting := (hattached.begin collect).play hits
    exact htesting.report_eq fault
  · intro p' htrace' hnewest' hregistered hmemory connections
    have hattached' := attached_of_reachable htrace' hnewest'
    rw [hregistered] at hattached'
    rw [visits_eq_outline pid guard status hattached',
      visits_eq_outline pid guard status hattached, hmemory]

end

/-- A process that has hit a probe outside of all tests, and has its location
still on the table. -/
def stained : AgentProcess Unit where
  tracing := ((Tracing.redirect
    { maps := #[.zero], live := [⟨0, some .attentive⟩] }).hit (.call .counter 7 "Main")).1
  token := 0
  collector := ⟨true, [("Main", [7])]⟩
  memory := ()

theorem stained_isolated :
    stained.tracing.Reachable ∧
      stained.tracing.live.head? = some ⟨stained.token, some .attentive⟩ ∧
      (((stained.begin true).play [.call .counter 5 "Run", .call .bitset 5 "Run"]).report
        .none).locations = "Run;1" := by
  have htrace : stained.tracing.Reachable :=
    .hit _ (.install (Tracing.install?_of_size Array.size_replicate (some .attentive)) .start)
  have hisolated := isolated_of_newest 1 (fun _ => ([], .ok (), ())) (fun _ => ([], .ok .none, ()))
    stained htrace rfl
  refine ⟨htrace, rfl, ?_⟩
  rw [hisolated.report]
  rfl

end Agent

end BranchCoverage
