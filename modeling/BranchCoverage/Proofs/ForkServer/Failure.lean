/-
Where a fork server stops when something fails.

Compared are a run in which anything may fail and the run in which nothing does, on
the same inputs and with enough pings.  The one takes the first of the steps that
the other takes, and part of a word at most behind them (`course_serve?`).  So the
server stops in good order: what it has written and whom it has called is what the
driver would have seen anyway.  However it ends, its context ends with it, and hits
go where they went before (`Restored`).
-/
import BranchCoverage.Proofs.ForkServer.Course
import BranchCoverage.Proofs.Trace.Confinement

namespace BranchCoverage

/-! ### Contexts that have come and gone -/

namespace Tracing

variable {t t' : Tracing} {l : Ledger}

/-- Hits go where they went in an earlier trace. -/
structure Restored (t t' : Tracing) : Prop where
  live : t'.live = t.live
  observer : t'.observer = t.observer
  /-- A hit is recorded in the map that it would have been recorded in, and in no
  other. -/
  recorded : ∀ x s, t.state? x.copy = some s →
    ∃ s', t'.state? x.copy = some s' ∧ s'.target = s.target ∧
      ∀ target, (t'.hit x).1.map? target
        = if target = s.target then
            (t'.map? target).map (x.discipline.record (edgeHash x.id s'.previous))
          else t'.map? target

/-- There are as many states as the ledger has registrations. -/
theorem Matches.exists_state? (h : t.Matches l) {n : Nat} (h' : t'.Matches { l with begun := n })
    {copy : Option Nat} {s : TraceState} (hs : t.state? copy = some s) :
    ∃ s', t'.state? copy = some s' := by
  cases copy with
  | none => exact ⟨_, rfl⟩
  | some index =>
    obtain ⟨c, hc, -⟩ := Option.map_eq_some_iff.mp hs
    have hregistered : t'.copies.map TraceCopy.registered = t.copies.map TraceCopy.registered :=
      h'.registered.trans h.registered.symm
    have hcopy : (t'.copies.map TraceCopy.registered)[index]? = some c.registered := by
      rw [hregistered, Array.getElem?_map, hc]
      rfl
    rw [Array.getElem?_map] at hcopy
    obtain ⟨c', hc', -⟩ := Option.map_eq_some_iff.mp hcopy
    exact ⟨c'.state, congrArg (Option.map TraceCopy.state) hc'⟩

/-- Only the number of contexts that have begun may differ. -/
theorem Matches.restored (h : t.Matches l) {n : Nat} (h' : t'.Matches { l with begun := n }) :
    t.Restored t' where
  live := h'.live.trans h.live.symm
  observer := h'.observer.trans h.observer.symm
  recorded x s hs := by
    obtain ⟨s', hs'⟩ := h.exists_state? h' hs
    have htarget : s.target = l.destination x.copy := h.target hs
    refine ⟨s', hs', (h'.target hs').trans htarget.symm, fun target => ?_⟩
    rw [h'.map?_hit hs', htarget]
    rfl

/-- A context that ends takes itself off the ledger, and nothing else. -/
theorem Matches.drop_install (h : t.Matches l) {map : CoverageMap} {observer : Option Observer}
    {token : Nat} {begun : Tracing} (hinstall : t.install? map observer = some (begun, token))
    (h' : t'.Matches { l with begun := l.begun + 1, live := ⟨l.begun, observer⟩ :: l.live }) :
    (t'.drop token).Matches { l with begun := l.begun + 1 } := by
  have htoken : token = l.begun := by
    rw [install?] at hinstall
    split at hinstall
    · cases hinstall
      exact h.begun
    · cases hinstall
  have hlive : (⟨l.begun, observer⟩ :: l.live).filter (fun c : Context => c.token ≠ token)
      = l.live := by
    rw [List.filter_cons_of_neg (by simp [htoken])]
    refine List.filter_eq_self.mpr fun c hc => decide_eq_true ?_
    exact htoken ▸ Nat.ne_of_lt (h.token_lt c hc)
  have hdropped := h'.drop token
  rw [hlive] at hdropped
  exact hdropped

end Tracing

namespace ForkServer

variable {σ : Type}

/-! ### The course of a run -/

/-- How a run ends: with the control pipe and the whole script behind it, or where a
step of the script fails. -/
inductive Ending (harness : Harness σ) (pid : Int32) (inputs : List ByteArray) (b : Bench σ) :
    List Act → List UInt8 → Except ServeError Nat → Prop
  | finished (h : ¬ Impeded b) :
      Ending harness pid inputs b (script harness pid b.memory inputs b.pings) [] (.ok b.pings)
  | stopped {acts : List Act} {next : Act} {part : List UInt8} {e : ServeError} {n : Nat}
      (h : Impeded b) (hstrikes : Strikes b acts next part e)
      (hnext : acts ++ [next] <+: script harness pid b.memory inputs n) :
      Ending harness pid inputs b acts part (.error e)

/-- What a run leaves behind when it has taken these steps, and sent part of a word
behind them. -/
structure Left (b : Bench σ) (acts : List Act) (part : List UInt8) (o : Outcome σ) : Prop where
  steps : o.bench.steps = b.steps ++ acts
  sent : o.bench.status.sent
    = b.status.sent ++ ((Act.words acts).flatMap Word.encode ++ part)
  restored : b.tracing.Restored o.bench.tracing

section

variable {harness : Harness σ} {pid : Int32} {inputs : List ByteArray} {map : CoverageMap}
  {b : Bench σ} {l : Ledger} {acts : List Act} {part : List UInt8}

/-- **Every run takes the steps of its script**, all of them or up to one that
fails. -/
theorem course_serve? (harness : Harness σ) (pid : Int32) (hmap : map.size = mapSize)
    (hmatches : b.tracing.Matches l)
    (hmends : Mends b.inputs inputs) :
    ∃ o acts part, serve? harness pid map b = some o ∧ Left b acts part o ∧
      Ending harness pid inputs b acts part o.result := by
  obtain ⟨⟨tracing, token⟩, hinstall⟩ : ∃ p, b.tracing.install? map none = some p :=
    ⟨_, if_pos hmap⟩
  have hends : Ends (Finished harness pid inputs b _) (Struck harness pid inputs b _)
      (session harness pid token { b with tracing }) :=
    course_session hmends (hmatches.install hmap hinstall) token
  rw [serve?, hinstall, Option.map_some]
  dsimp only
  rcases hsession : session harness pid token { b with tracing } with ⟨n, b'⟩ | ⟨e, b'⟩ <;>
    rw [hsession] at hends
  · obtain ⟨rfl, hfailure, htaken⟩ := hends
    have hrestored := hmatches.restored (hmatches.drop_install hinstall htaken.tracing)
    refine ⟨_, _, _, rfl, ⟨htaken.steps, htaken.sent, hrestored⟩, ?_⟩
    exact .finished (htaken.passed.not_impeded hfailure)
  · obtain ⟨acts, next, part, htaken, hstrikes, n, hnext⟩ := hends
    have hrestored := hmatches.restored (hmatches.drop_install hinstall htaken.tracing)
    refine ⟨_, _, _, rfl, ⟨htaken.steps, htaken.sent, hrestored⟩, ?_⟩
    exact .stopped (hstrikes.impeded htaken.passed hnext) hstrikes hnext

/-! ### Comparison with the run in which nothing fails -/

theorem exists_mends (queue : List (Except String ByteArray)) : ∃ inputs, Mends queue inputs := by
  induction queue with
  | nil => exact ⟨[], .done⟩
  | cons input queue ih =>
    cases input with
    | error reason => exact ⟨[], .failed reason queue []⟩
    | ok data =>
      obtain ⟨inputs, h⟩ := ih
      exact ⟨data :: inputs, .read data h⟩

/-- The bench when nothing fails: a control pipe that ends behind these bytes, a
status pipe without a limit, and inputs that can be read. -/
def sound (b : Bench σ) (bytes : List UInt8) (inputs : List ByteArray) : Bench σ :=
  { b with
    control := ⟨bytes, none⟩
    status := { b.status with limit := none }
    inputs := inputs.map .ok }

theorem not_impeded_sound (b : Bench σ) (bytes : List UInt8) (inputs : List ByteArray) :
    ¬ Impeded (sound b bytes inputs) := by
  rintro (⟨limit, hlimit, -⟩ | ⟨reason, hfailure⟩ | ⟨i, reason, -, hinput⟩)
  · cases hlimit
  · cases hfailure
  · have hmap : (inputs.map Except.ok)[i]? = some (Except.error reason) := hinput
    rw [List.getElem?_map] at hmap
    obtain ⟨data, -, hdata⟩ := Option.map_eq_some_iff.mp hmap
    cases hdata

/-- The steps taken begin every script with as many pings. -/
theorem Ending.isPrefix {result : Except ServeError Nat}
    (h : Ending harness pid inputs b acts part result) {n : Nat} (hn : Act.pings acts ≤ n) :
    acts <+: script harness pid b.memory inputs n := by
  cases h with
  | finished h =>
    rw [pings_script] at hn
    exact script_isPrefix_of_le hn
  | stopped h hstrikes hnext =>
    have hacts := (List.prefix_append acts _).trans hnext
    exact (isPrefix_script_pings hacts).trans (script_isPrefix_of_le hn)

/-- So do the words, with what has been sent of the next one. -/
theorem Ending.sent_isPrefix {result : Except ServeError Nat}
    (h : Ending harness pid inputs b acts part result) {n : Nat} (hn : Act.pings acts ≤ n) :
    (Act.words acts).flatMap Word.encode ++ part
      <+: (Act.words (script harness pid b.memory inputs n)).flatMap Word.encode := by
  have hwhole : part = [] → (Act.words acts).flatMap Word.encode ++ part
      <+: (Act.words (script harness pid b.memory inputs n)).flatMap Word.encode := by
    rintro rfl
    obtain ⟨rest, hrest⟩ := h.isPrefix hn
    rw [← hrest, Act.words_append, List.flatMap_append, List.append_nil]
    exact List.prefix_append _ _
  cases h with
  | finished h => exact hwhole rfl
  | stopped h hstrikes hnext =>
    cases hstrikes with
    | @status limit word part hlimit hroom hpart hlength =>
      have hpings : Act.pings (acts ++ [.reported word]) = Act.pings acts :=
        Act.pings_append acts _
      obtain ⟨rest, hrest⟩ := (isPrefix_script_pings hnext).trans
        (script_isPrefix_of_le (hpings ▸ hn))
      rw [← hrest, Act.words_append, Act.words_append, List.flatMap_append, List.flatMap_append,
        List.append_assoc, List.prefix_append_right_inj]
      have hword : (Act.words [.reported word]).flatMap Word.encode = Word.encode word :=
        List.append_nil _
      rw [hword]
      exact hpart.trans (List.prefix_append _ _)
    | control hfailure hpings => exact hwhole rfl
    | input hinput => exact hwhole rfl

theorem Ending.length_part {result : Except ServeError Nat}
    (h : Ending harness pid inputs b acts part result) : part.length < 4 := by
  cases h with
  | finished h => exact Nat.zero_lt_succ 3
  | stopped h hstrikes hnext =>
    cases hstrikes with
    | status hlimit hroom hpart hlength => exact hlength
    | control hfailure hpings => exact Nat.zero_lt_succ 3
    | input hinput => exact Nat.zero_lt_succ 3

theorem Ending.failed_iff {result : Except ServeError Nat}
    (h : Ending harness pid inputs b acts part result) :
    (∃ e, result = .error e) ↔ Impeded b := by
  cases h with
  | finished h => exact iff_of_false (fun ⟨e, he⟩ => nomatch he) h
  | @stopped acts next part e n h hstrikes hnext => exact iff_of_true ⟨e, rfl⟩ h

theorem Ending.inOrder {result : Except ServeError Nat}
    (h : Ending harness pid inputs b acts part result) : InOrder pid acts :=
  inOrder_of_isPrefix (h.isPrefix (Nat.le_refl _))

/-- How a run ends that may fail anywhere, by the steps that it has taken. -/
structure StopsSafely (harness : Harness σ) (pid : Int32) (map : CoverageMap) (b : Bench σ)
    (acts : List Act) (o : Outcome σ) : Prop where
  /-- It ends with an error if something fails before all pings are answered, and
  else with their number. -/
  failed_iff : (∃ e, o.result = .error e) ↔ Impeded b
  finished : ¬ Impeded b → o.result = .ok b.pings
  steps : o.bench.steps = b.steps ++ acts
  /-- The words of the steps are written completely, and at most part of one more. -/
  sent : ∃ part, part.length < 4 ∧
    o.bench.status.sent = b.status.sent ++ ((Act.words acts).flatMap Word.encode ++ part)
  inOrder : InOrder pid acts
  /-- What it has done begins what the run does in which nothing fails, on the same
  inputs and with at least as many pings as were read. -/
  begins : ∀ bytes inputs, Mends b.inputs inputs → Act.pings acts ≤ bytes.length / 4 →
    ∃ o', serve? harness pid map (sound b bytes inputs) = some o' ∧
      o'.result = .ok (bytes.length / 4) ∧
      o.bench.status.sent <+: o'.bench.status.sent ∧
      o.bench.steps <+: o'.bench.steps ∧ o.bench.calls <+: o'.bench.calls
  restored : b.tracing.Restored o.bench.tracing

/-- What a run does begins what it would do if nothing failed. -/
theorem begins_sound {o : Outcome σ} (hmap : map.size = mapSize) (hmatches : b.tracing.Matches l)
    (hleft : Left b acts part o) (hending : Ending harness pid inputs b acts part o.result)
    {bytes : List UInt8} (hpings : Act.pings acts ≤ bytes.length / 4) :
    ∃ o', serve? harness pid map (sound b bytes inputs) = some o' ∧
      o'.result = .ok (bytes.length / 4) ∧
      o.bench.status.sent <+: o'.bench.status.sent ∧
      o.bench.steps <+: o'.bench.steps ∧ o.bench.calls <+: o'.bench.calls := by
  have hsound : (sound b bytes inputs).tracing.Matches l := hmatches
  obtain ⟨o', acts', part', hserve, hleft', hending'⟩ :=
    course_serve? harness pid hmap hsound (mends_map inputs)
  refine ⟨o', hserve, ?_⟩
  generalize hresult : o'.result = result at hending'
  cases hending' with
  | stopped h hstrikes hnext => exact absurd h (not_impeded_sound b bytes inputs)
  | finished h =>
    have hsteps : o.bench.steps <+: o'.bench.steps := by
      rw [hleft.steps, hleft'.steps]
      exact (List.prefix_append_right_inj b.steps).mpr (hending.isPrefix hpings)
    refine ⟨rfl, ?_, hsteps, ?_⟩
    · rw [hleft.sent, hleft'.sent, List.append_nil]
      exact (List.prefix_append_right_inj b.status.sent).mpr (hending.sent_isPrefix hpings)
    · rw [← Bench.calls_steps, ← Bench.calls_steps]
      exact hsteps.filterMap _

/-- **A fork server stops at a safe point**, whatever fails and whenever it does. -/
theorem serve?_stopsSafely (harness : Harness σ) (pid : Int32) (map : CoverageMap) (b : Bench σ)
    (hmap : map.size = mapSize) (htrace : b.tracing.Reachable) :
    ∃ o acts, serve? harness pid map b = some o ∧ StopsSafely harness pid map b acts o := by
  obtain ⟨l, hmatches⟩ := htrace.exists_matches
  obtain ⟨inputs, hmends⟩ := exists_mends b.inputs
  obtain ⟨o, acts, part, hserve, hleft, hending⟩ := course_serve? harness pid hmap hmatches hmends
  refine ⟨o, acts, hserve, hending.failed_iff, ?_, hleft.steps,
    ⟨part, hending.length_part, hleft.sent⟩, hending.inOrder, ?_, hleft.restored⟩
  · intro h
    generalize o.result = result at hending
    cases hending with
    | finished _ => rfl
    | stopped himpeded _ _ => exact absurd himpeded h
  · intro bytes inputs' hmends' hpings
    -- the same run, seen as one on these inputs
    obtain ⟨o', acts', part', hserve', hleft', hending'⟩ :=
      course_serve? harness pid hmap hmatches hmends'
    obtain rfl := Option.some.inj (hserve.symm.trans hserve')
    obtain rfl := List.append_cancel_left (hleft.steps.symm.trans hleft'.steps)
    exact begins_sound hmap hmatches hleft' hending' hpings

/-- The status pipe breaks in the middle of the first fault. -/
theorem torn_stopsSafely :
    let b : Bench Nat :=
      { control := ⟨[1, 0, 0, 0, 2, 0, 0, 0], none⟩
        status := { limit := some ⟨10, "broken pipe", true⟩ }
        inputs := [.ok ⟨#[0x41]⟩, .error "gone"]
        memory := 0 }
    ∃ o acts, serve? thirdTimeUnlucky 7 .zero b = some o ∧ (∃ e, o.result = .error e) ∧
      StopsSafely thirdTimeUnlucky 7 .zero b acts o := by
  intro b
  obtain ⟨o, acts, hserve, hsafe⟩ :=
    serve?_stopsSafely thirdTimeUnlucky 7 .zero b Array.size_replicate .start
  exact ⟨o, acts, hserve, hsafe.failed_iff.mpr (.status _ rfl (by decide)), hsafe⟩

end

end ForkServer

end BranchCoverage
