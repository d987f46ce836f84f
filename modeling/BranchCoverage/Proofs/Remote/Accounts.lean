/-
What becomes of the reports that a controller is sent.

Reports are fetched in three places: on warming up, in every run, and on the
test that is left open at the end.  Books are kept of them beside the controller
(`Books`), and every step that touches a report, the map or the status pipe
makes one entry (`fetch_booked`, `assess_booked`, `mergeReport_booked`,
`report_booked`).  One run adds one report to the merged ones
(`attempt_booked`) and one pair of words to what the driver is told
(`rounds_booked`), so wherever the loops are left the books can be closed
(`Books.Closed`), and closed books are what `Accounts` says.
-/
import Mathlib.Data.UInt
import BranchCoverage.Proofs.Remote.Framing
import BranchCoverage.Proofs.Remote.Steps
import BranchCoverage.Proofs.Trace.Merge

namespace BranchCoverage

/-! ### Sums of maps -/

namespace CoverageMap

/-- A cell of a map. -/
def cell (map : CoverageMap) (i : Nat) : UInt8 :=
  map[i]?.getD 0

/-- A map with others added to it, one after another. -/
def addAll (map : CoverageMap) (others : List CoverageMap) : CoverageMap :=
  others.foldl add map

variable {map other : CoverageMap} {others : List CoverageMap}

theorem size_add (h : other.size = map.size) : (map.add other).size = map.size := by
  rw [add, Array.size_zipWith, h, Nat.min_self]

theorem cell_add (h : other.size = map.size) (i : Nat) :
    (map.add other).cell i = map.cell i + other.cell i := by
  rw [cell, cell, cell, add, Array.getElem?_zipWith]
  rcases Nat.lt_or_ge i map.size with hlt | hge
  · rw [Array.getElem?_eq_getElem hlt, Array.getElem?_eq_getElem (h ▸ hlt)]
    rfl
  · rw [Array.getElem?_eq_none hge, Array.getElem?_eq_none (h ▸ hge)]
    rfl

/-- Maps are added cell by cell. -/
theorem cell_addAll (h : ∀ other ∈ others, other.size = map.size) (i : Nat) :
    (map.addAll others).cell i = map.cell i + (others.map (cell · i)).sum := by
  induction others generalizing map with
  | nil => exact (UInt8.add_zero _).symm
  | cons other rest ih =>
    obtain ⟨hother, hrest⟩ := List.forall_mem_cons.mp h
    have hsize := size_add hother
    have hall : ∀ x ∈ rest, x.size = (map.add other).size :=
      fun x hx => (hrest x hx).trans hsize.symm
    have hsum := ih hall
    rw [cell_add hother] at hsum
    rw [List.map_cons, List.sum_cons, ← UInt8.add_assoc]
    exact hsum

end CoverageMap

/-! ### Acts about reports -/

namespace Act

/-- The report that an act brings. -/
def answer? : Act → Option Report
  | .answered report => some report
  | _ => none

/-- The verdict that an act gives on a report. -/
def verdict? : Act → Option (Report × Bool)
  | .judged _ report accepted => some (report, accepted)
  | _ => none

end Act

namespace Bench

variable {σ α ε : Type} {b b' : Bench σ}

/-- The reports that came. -/
def answers (b : Bench σ) : List Report :=
  b.acts.filterMap Act.answer?

/-- The verdicts on reports. -/
def verdicts (b : Bench σ) : List (Report × Bool) :=
  b.acts.filterMap Act.verdict?

/-- What is not done on the bench is not found among what is. -/
theorem Grown.filterMap {β : Type} (h : b.Grown b') {f : Act → Option β}
    (hf : ∀ act, act.isLocal → f act = none) : b'.acts.filterMap f = b.acts.filterMap f := by
  obtain ⟨acts, hacts, hlocal⟩ := h
  have hnone : acts.filterMap f = [] :=
    List.filterMap_eq_nil_iff.mpr fun act hact => hf act (hlocal act hact)
  rw [hacts, List.filterMap_append, hnone, List.append_nil]

theorem Grown.answers (h : b.Grown b') : b'.answers = b.answers :=
  h.filterMap fun act hlocal => by cases act <;> first | rfl | cases hlocal

theorem Grown.verdicts (h : b.Grown b') : b'.verdicts = b.verdicts :=
  h.filterMap fun act hlocal => by cases act <;> first | rfl | cases hlocal

theorem filterMap_acts_record {β : Type} (f : Act → Option β) (b : Bench σ) (act : Act) :
    (b.record act).acts.filterMap f = b.acts.filterMap f ++ (f act).toList := by
  rw [acts_append [act] rfl, List.filterMap_append]
  rcases hact : f act with - | x <;> simp [hact]

/-- A step leaves the status pipe alone. -/
def Mute (step : EStateM ε (Bench σ) α) : Prop :=
  ∀ b, Ends (fun _ b' => b'.status = b.status) (fun _ b' => b'.status = b.status) (step b)

theorem mute_awaitPing (fail : IoError → ε) :
    Mute (awaitPing fail : EStateM ε (Bench σ) Bool) := by
  intro b
  rw [awaitPing]
  rcases b.control.readWord with ⟨(- | reason) | word, control⟩ <;> exact rfl

theorem mute_readInput (fail : IoError → ε) :
    Mute (readInput fail : EStateM ε (Bench σ) ByteArray) := by
  intro b
  obtain ⟨control, status, inputs, tracing, memory, journal⟩ := b
  rcases inputs with - | ⟨reason | data, inputs⟩ <;> exact rfl

theorem mute_execute (harness : Harness σ) (data : ByteArray) :
    Mute (execute harness data : EStateM ε (Bench σ) Fault) := by
  intro b
  rw [execute_eq]
  exact rfl

end Bench

/-! ### Books -/

namespace Controller

variable {σ α : Type}

/-- The coverage of the reports that were accepted. -/
def accepted (verdicts : List (Report × Bool)) : List CoverageMap :=
  (verdicts.filter Prod.snd).map fun verdict => verdict.1.coverage

/-- The words for the driver: a greeting, and for every run the process id of the
agent and the fault. -/
def wordsFor (runs : List (Int32 × Fault)) : List Int32 :=
  0 :: runs.flatMap fun run => [run.1, run.2.code]

/-- How many whole faults are among the bytes for the driver: behind the greeting
every second word is one. -/
def faultsTold (bytes : List UInt8) : Nat :=
  (bytes.length / 4 - 1) / 2

/-- What has been told to the driver, the reports that came, the verdicts on
them, and the maps that were merged, each in order. -/
structure Books where
  told : List UInt8 := []
  answers : List Report := []
  verdicts : List (Report × Bool) := []
  merged : List CoverageMap := []

/-- The books hold what has happened since `r₀`. -/
structure Booked (r₀ : Relay σ) (k : Books) (r : Relay σ) : Prop where
  told : r.bench.status.sent = r₀.bench.status.sent ++ k.told
  answers : r.bench.answers = r₀.bench.answers ++ k.answers
  verdicts : r.bench.verdicts = r₀.bench.verdicts ++ k.verdicts
  map : r.map = r₀.map.addAll k.merged
  size : r.map.size = mapSize

/-- The merged maps are those of the accepted reports, and the reports that came
are those that were judged, with one before them at most and one behind them. -/
structure Books.Balanced (k : Books) (warmUp last : Option Report) : Prop where
  answers : k.answers = warmUp.toList ++ k.verdicts.map Prod.fst ++ last.toList
  merged : k.merged = accepted k.verdicts
  sized : ∀ map ∈ k.merged, map.size = mapSize

/-- The driver has been told about these runs, and the process id of the agent
for another one if there is one. -/
def Books.Tells (k : Books) (runs : List (Int32 × Fault)) (pid : Option Int32) : Prop :=
  k.told = (wordsFor runs ++ pid.toList).flatMap Word.encode

/-- The books are balanced, and there is a fault for every merged map, the last
one of which may be missing if it could not be told. -/
structure Books.Closed (k : Books) (result : Except RelayError Nat) : Prop where
  balanced : ∃ warmUp last, k.Balanced warmUp last
  told : ∃ runs, k.told <+: (wordsFor runs).flatMap Word.encode
  faults : faultsTold k.told = k.merged.length ∨
    (faultsTold k.told + 1 = k.merged.length ∧ k.told.length / 4 = 2 * k.merged.length ∧
      ∃ cause, result = .error (.status cause))
  count : ∀ runs, result = .ok runs → k.merged.length = runs

variable {r₀ r : Relay σ} {k : Books} {runs : List (Int32 × Fault)} {pid : Option Int32}
  {warmUp last : Option Report}

/-- The books could not be continued. -/
def Stopped (r₀ : Relay σ) (e : RelayError) (r : Relay σ) : Prop :=
  ∃ k, Booked r₀ k r ∧ k.Closed (.error e)

/-! ### What has been told -/

theorem length_wordsFor (runs : List (Int32 × Fault)) :
    (wordsFor runs).length = 2 * runs.length + 1 := by
  induction runs with
  | nil => rfl
  | cons run rest ih =>
    simp only [wordsFor, List.flatMap_cons, List.length_cons, List.length_append,
      List.length_nil] at ih ⊢
    omega

theorem wordsFor_concat (runs : List (Int32 × Fault)) (run : Int32 × Fault) :
    wordsFor (runs ++ [run]) = wordsFor runs ++ [run.1, run.2.code] := by
  rw [wordsFor, wordsFor, List.flatMap_append, List.flatMap_singleton, List.cons_append]

theorem Books.Tells.length_told (h : k.Tells runs pid) :
    k.told.length = 4 * (2 * runs.length + 1 + pid.toList.length) := by
  rw [h, Word.length_flatMap_encode, List.length_append, length_wordsFor]

theorem Books.Tells.tell_pid (h : k.Tells runs none) (p : Int32) :
    ({ k with told := k.told ++ Word.encode p } : Books).Tells runs (some p) := by
  have htold : k.told = (wordsFor runs ++ []).flatMap Word.encode := h
  show k.told ++ Word.encode p = (wordsFor runs ++ [p]).flatMap Word.encode
  rw [htold, List.append_nil, List.flatMap_append, List.flatMap_singleton]

theorem Books.Tells.tell_fault {p : Int32} (h : k.Tells runs (some p)) (fault : Fault) :
    ({ k with told := k.told ++ Word.encode fault.code } : Books).Tells
      (runs ++ [(p, fault)]) none := by
  have htold : k.told = (wordsFor runs ++ [p]).flatMap Word.encode := h
  show k.told ++ Word.encode fault.code
    = (wordsFor (runs ++ [(p, fault)]) ++ []).flatMap Word.encode
  rw [htold, List.append_nil, wordsFor_concat, List.flatMap_append, List.flatMap_append,
    List.append_assoc]
  rfl

/-- The next word is another process id, or the fault of a run that has been
told about otherwise. -/
theorem Books.Tells.prefix_wordsFor (h : k.Tells runs pid) {word : Int32} {part : List UInt8}
    (hpart : part <+: Word.encode word) (hword : ∀ p ∈ pid, ∃ fault : Fault, word = fault.code) :
    ∃ runs, k.told ++ part <+: (wordsFor runs).flatMap Word.encode := by
  have hbegins : ∃ all, wordsFor runs ++ pid.toList ++ [word] <+: wordsFor all := by
    rcases pid with - | p
    · refine ⟨runs ++ [(word, .none)], ?_⟩
      rw [wordsFor_concat, Option.toList_none, List.append_nil, List.prefix_append_right_inj]
      exact ⟨_, rfl⟩
    · obtain ⟨fault, rfl⟩ := hword p rfl
      refine ⟨runs ++ [(p, fault)], ?_⟩
      rw [wordsFor_concat, List.append_assoc]
      exact List.prefix_refl _
  obtain ⟨all, rest, hrest⟩ := hbegins
  refine ⟨all, ?_⟩
  have hall : (wordsFor all).flatMap Word.encode = (wordsFor runs ++ pid.toList).flatMap Word.encode
      ++ (Word.encode word ++ rest.flatMap Word.encode) := by
    rw [← hrest, List.append_assoc, List.flatMap_append, List.singleton_append, List.flatMap_cons]
  rw [h, hall, List.prefix_append_right_inj]
  exact hpart.trans (List.prefix_append _ _)

/-- A part of a word is no fault. -/
theorem Books.Tells.faultsTold_append (h : k.Tells runs pid) {part : List UInt8}
    (hpart : part.length < 4) : faultsTold (k.told ++ part) = runs.length := by
  have hpid : pid.toList.length ≤ 1 := by cases pid <;> simp
  rw [faultsTold, List.length_append, h.length_told]
  omega

/-! ### Books that can be closed -/

/-- Books with as many maps as faults can be closed while a word is told. -/
theorem Books.Balanced.closed_part (hk : k.Balanced warmUp last) (htells : k.Tells runs pid)
    (hcount : k.merged.length = runs.length) {word : Int32} {part : List UInt8}
    (hpart : part <+: Word.encode word) (hshort : part.length < 4)
    (hword : ∀ p ∈ pid, ∃ fault : Fault, word = fault.code) {result : Except RelayError Nat}
    (hresult : ∀ n, result = .ok n → k.merged.length = n) :
    ({ k with told := k.told ++ part } : Books).Closed result where
  balanced := ⟨warmUp, last, hk.answers, hk.merged, hk.sized⟩
  told := htells.prefix_wordsFor hpart hword
  faults := .inl ((htells.faultsTold_append hshort).trans hcount.symm)
  count := hresult

/-- They can be closed between two words as well. -/
theorem Books.Balanced.closed_of (hk : k.Balanced warmUp last) (htells : k.Tells runs pid)
    (hcount : k.merged.length = runs.length) {result : Except RelayError Nat}
    (hresult : ∀ n, result = .ok n → k.merged.length = n) : k.Closed result := by
  have hpart : [] <+: Word.encode Fault.none.code := List.nil_prefix
  have hclosed := hk.closed_part htells hcount hpart (Nat.zero_lt_succ 3)
    (fun _ _ => ⟨.none, rfl⟩) hresult
  rw [List.append_nil] at hclosed
  exact hclosed

theorem Books.Balanced.closed (hk : k.Balanced warmUp last) (htells : k.Tells runs pid)
    (hcount : k.merged.length = runs.length) (e : RelayError) : k.Closed (.error e) :=
  hk.closed_of htells hcount fun _ h => nomatch h

/-- With a map more than faults, it is the fault that is told. -/
theorem Books.Balanced.closed_fault (hk : k.Balanced warmUp last) {p : Int32}
    (htells : k.Tells runs (some p)) (hcount : k.merged.length = runs.length + 1) (fault : Fault)
    {part : List UInt8} (hpart : part <+: Word.encode fault.code) (hshort : part.length < 4)
    (cause : IoError) :
    ({ k with told := k.told ++ part } : Books).Closed (.error (.status cause)) where
  balanced := ⟨warmUp, last, hk.answers, hk.merged, hk.sized⟩
  told := htells.prefix_wordsFor hpart fun _ _ => ⟨fault, rfl⟩
  faults := by
    refine .inr ⟨?_, ?_, cause, rfl⟩
    · rw [htells.faultsTold_append hshort, hcount]
    · rw [List.length_append, htells.length_told, hcount, Option.toList_some, List.length_singleton]
      omega
  count := fun _ h => nomatch h

/-! ### Steps -/

/-- What happens on the bench alone makes no entry. -/
theorem Booked.onBench (h : Booked r₀ k r) {b : Bench σ} (hgrown : r.bench.Grown b)
    (hmute : b.status = r.bench.status) : Booked r₀ k { r with bench := b } where
  told := (congrArg Outlet.sent hmute).trans h.told
  answers := hgrown.answers.trans h.answers
  verdicts := hgrown.verdicts.trans h.verdicts
  map := h.map
  size := h.size

/-- An act makes the entries that it is about. -/
theorem Booked.record (h : Booked r₀ k r) (act : Act) :
    Booked r₀ { k with
        answers := k.answers ++ act.answer?.toList
        verdicts := k.verdicts ++ act.verdict?.toList }
      { r with bench := r.bench.record act } where
  told := h.told
  answers := by
    rw [← List.append_assoc, ← h.answers]
    exact Bench.filterMap_acts_record _ _ _
  verdicts := by
    rw [← List.append_assoc, ← h.verdicts]
    exact Bench.filterMap_acts_record _ _ _
  map := h.map
  size := h.size

theorem onBench_booked {step : EStateM RelayError (Bench σ) α} (hlocal : Bench.Local step)
    (hmute : Bench.Mute step) (h : Booked r₀ k r) (hk : ∀ e, k.Closed (.error e)) :
    Ends (fun _ => Booked r₀ k) (Stopped r₀) (Controller.onBench step r) := by
  have hends := (hlocal r.bench).and (hmute r.bench)
  rw [Controller.onBench]
  rcases hrun : step r.bench with ⟨a, b⟩ | ⟨e, b⟩ <;> rw [hrun] at hends
  · exact h.onBench hends.1 hends.2
  · exact ⟨k, h.onBench hends.1 hends.2, hk e⟩

theorem log_booked {E : RelayError → Relay σ → Prop} (level : Level) (message : String)
    (h : Booked r₀ k r) :
    Ends (fun _ => Booked r₀ k) E (Controller.onBench (Bench.log level message) r) := by
  have hgrown : r.bench.Grown (r.bench.record (.logged ⟨level, message⟩)) := .of_cons rfl rfl
  exact h.onBench hgrown rfl

/-- A word for the driver is an entry, and so are the bytes of it that got
through. -/
theorem report_booked (fail : IoError → RelayError) (word : Int32) (h : Booked r₀ k r)
    (hk : ∀ part, part <+: Word.encode word → part.length < 4 → ∀ cause,
      ({ k with told := k.told ++ part } : Books).Closed (.error (fail cause))) :
    Ends (fun _ => Booked r₀ { k with told := k.told ++ Word.encode word }) (Stopped r₀)
      (Controller.onBench (Bench.report fail word) r) := by
  rw [Controller.onBench, Bench.report]
  rcases Outlet.writeWord_cases word r.bench.status with hwrite | ⟨e, part, hpart, hshort, hwrite⟩
  · have hrecord := h.record (.reported word)
    rw [hwrite]
    refine ⟨?_, ?_, ?_, h.map, h.size⟩
    · show r.bench.status.sent ++ Word.encode word = _
      rw [h.told, List.append_assoc]
    · exact hrecord.answers.trans (congrArg _ (List.append_nil _))
    · exact hrecord.verdicts.trans (congrArg _ (List.append_nil _))
  · rw [hwrite]
    refine ⟨{ k with told := k.told ++ part }, ⟨?_, h.answers, h.verdicts, h.map, h.size⟩,
      hk part hpart hshort e⟩
    show r.bench.status.sent ++ part = _
    rw [h.told, List.append_assoc]

/-- Talking to the agent makes no entry. -/
theorem talk_booked {P : α → Prop} {step : Link.Talk α}
    (hstep : ∀ l, Ends (fun a _ => P a) (fun _ _ => True) (step l))
    (h : Booked r₀ k r) (hk : ∀ e, k.Closed (.error e)) :
    Ends (fun a r => P a ∧ Booked r₀ k r) (Stopped r₀) (talk step r) := by
  have hends := hstep r.link
  rw [talk]
  rcases hrun : step r.link with ⟨a, l⟩ | ⟨e, l⟩ <;> rw [hrun] at hends
  · exact ⟨hends, h.told, h.answers, h.verdicts, h.map, h.size⟩
  · exact ⟨k, ⟨h.told, h.answers, h.verdicts, h.map, h.size⟩, hk _⟩

/-- Nothing is known about what was talked. -/
theorem ends_true (step : Link.Talk α) (l : Link) :
    Ends (fun _ _ => True) (fun _ _ => True) (step l) := by
  rcases step l with ⟨a, l⟩ | ⟨e, l⟩ <;> trivial

theorem start_booked (collect : Bool) (h : Booked r₀ k r) (hk : ∀ e, k.Closed (.error e)) :
    Ends (fun _ => Booked r₀ k) (Stopped r₀) (start collect r) := by
  rw [start]
  refine (talk_booked (ends_true _) h hk).bind fun pid r hr => ?_
  have hrecord := hr.2.record (.started pid)
  exact ⟨hrecord.told, hrecord.answers.trans (congrArg _ (List.append_nil _)),
    hrecord.verdicts.trans (congrArg _ (List.append_nil _)), hrecord.map, hrecord.size⟩

theorem ends_status (l : Link) :
    Ends (fun report _ => report.coverage.size = mapSize) (fun _ _ => True) (Link.status l) := by
  refine Ends.bind (R := fun _ _ => True) (ends_true _ l) fun _ l _ => ?_
  rw [Link.receiveReport]
  rcases hread : Report.read l.incoming with ⟨e | report, incoming⟩
  · trivial
  · obtain ⟨_, -, -, hreadable, -⟩ := Report.spells_read _ report incoming hread
    exact hreadable.size

/-- A report that comes is an entry, and has a map of the right size. -/
theorem fetch_booked (h : Booked r₀ k r) (hk : ∀ e, k.Closed (.error e)) :
    Ends (fun report r => report.coverage.size = mapSize ∧
        Booked r₀ { k with answers := k.answers ++ [report] } r) (Stopped r₀) (fetch r) := by
  rw [fetch]
  refine (talk_booked ends_status h hk).bind fun report r hr => ?_
  have hrecord := hr.2.record (.answered report)
  exact ⟨hr.1, hrecord.told, hrecord.answers,
    hrecord.verdicts.trans (congrArg _ (List.append_nil _)), hrecord.map, hrecord.size⟩

theorem assess_booked {E : RelayError → Relay σ → Prop} (judge : Judge σ) (run : Nat)
    (report : Report) (h : Booked r₀ k r) :
    Ends (fun accepted => Booked r₀ { k with verdicts := k.verdicts ++ [(report, accepted)] }) E
      (assess judge run report r) := by
  rw [assess]
  rcases judge r.bench.memory run report.locations with ⟨accepted, memory⟩
  have hmemory : Booked r₀ k { r with bench := { r.bench with memory } } :=
    ⟨h.told, h.answers, h.verdicts, h.map, h.size⟩
  have hrecord := hmemory.record (.judged run report accepted)
  exact ⟨hrecord.told, hrecord.answers.trans (congrArg _ (List.append_nil _)), hrecord.verdicts,
    hrecord.map, hrecord.size⟩

/-- A map of the right size is merged as a whole, and never refused. -/
theorem mergeReport_booked {E : RelayError → Relay σ → Prop} {report : Report}
    (hsize : report.coverage.size = mapSize) (h : Booked r₀ k r) :
    Ends (fun _ => Booked r₀ { k with merged := k.merged ++ [report.coverage] }) E
      (mergeReport report r) := by
  have hsame : r.map.size = report.coverage.size := h.size.trans hsize.symm
  have hrecord := h.record (.merged report)
  rw [mergeReport, merge, if_pos hsame]
  refine ⟨h.told, hrecord.answers.trans (congrArg _ (List.append_nil _)),
    hrecord.verdicts.trans (congrArg _ (List.append_nil _)), ?_, ?_⟩
  · show r.map.add report.coverage = _
    rw [h.map, CoverageMap.addAll, CoverageMap.addAll, List.foldl_append]
    rfl
  · exact (CoverageMap.size_add hsame.symm).trans h.size

/-! ### Loops -/

/-- The books after a run that began with `k`: nothing has been told since, and
one map more is merged. -/
def Finished (r₀ : Relay σ) (k : Books) (warmUp : Option Report) (r : Relay σ) : Prop :=
  ∃ k', Booked r₀ k' r ∧ k'.Balanced warmUp none ∧ k'.told = k.told ∧
    k'.merged.length = k.merged.length + 1

/-- A report that came and is not judged yet is the last one. -/
theorem Books.Balanced.fetch (hk : k.Balanced warmUp none) (report : Report) :
    ({ k with answers := k.answers ++ [report] } : Books).Balanced warmUp (some report) where
  answers := by
    rw [hk.answers, Option.toList_none, List.append_nil, Option.toList_some]
  merged := hk.merged
  sized := hk.sized

/-- Before any report is judged, it is the one on warming up. -/
theorem Books.Balanced.warm (hk : k.Balanced none none) (hverdicts : k.verdicts = [])
    (report : Report) :
    ({ k with answers := k.answers ++ [report] } : Books).Balanced (some report) none where
  answers := by
    rw [hk.answers, hverdicts]
    rfl
  merged := hk.merged
  sized := hk.sized

/-- A rejected report is judged, and nothing else. -/
theorem Books.Balanced.reject (hk : k.Balanced warmUp none) (report : Report) :
    ({ k with
        answers := k.answers ++ [report]
        verdicts := k.verdicts ++ [(report, false)] } : Books).Balanced warmUp none where
  answers := by
    simp only [hk.answers, List.map_append, Option.toList_none, List.append_nil, List.map_cons,
      List.map_nil, List.append_assoc]
  merged := by
    rw [hk.merged, accepted, accepted, List.filter_append]
    simp
  sized := hk.sized

/-- An accepted report is judged and merged. -/
theorem Books.Balanced.accept (hk : k.Balanced warmUp none) {report : Report}
    (hsize : report.coverage.size = mapSize) :
    ({ k with
        answers := k.answers ++ [report]
        verdicts := k.verdicts ++ [(report, true)]
        merged := k.merged ++ [report.coverage] } : Books).Balanced warmUp none where
  answers := by
    simp only [hk.answers, List.map_append, Option.toList_none, List.append_nil, List.map_cons,
      List.map_nil, List.append_assoc]
  merged := by
    rw [hk.merged, accepted, accepted, List.filter_append]
    simp
  sized := List.forall_mem_append.mpr ⟨hk.sized, List.forall_mem_singleton.mpr hsize⟩

section

variable (harness : Harness σ) (judge : Judge σ) (collect : Bool) (run : Nat) (data : ByteArray)

/-- **A run merges one report**, however many are rejected before. -/
theorem attempt_booked (limit : Nat) {p : Int32} (h : Booked r₀ k r)
    (hk : k.Balanced warmUp none) (htells : k.Tells runs (some p))
    (hcount : k.merged.length = runs.length) :
    Ends (fun _ => Finished r₀ k warmUp) (Stopped r₀)
      (attempt harness judge collect run data limit false r) := by
  induction limit generalizing k r with
  | zero => exact ⟨k, h, hk.closed htells hcount _⟩
  | succ limit ih =>
    rw [attempt_succ]
    refine (onBench_booked (Bench.local_execute harness data) (Bench.mute_execute harness data) h
      (hk.closed htells hcount)).bind fun fault r h => ?_
    rw [settle]
    refine (fetch_booked h (hk.closed htells hcount)).bind fun report r hr => ?_
    obtain ⟨hsize, h⟩ := hr
    refine (assess_booked judge run report h).bind fun accepted r h => ?_
    cases accepted with
    | true =>
      refine (mergeReport_booked hsize h).bind fun _ r h => ?_
      exact ⟨_, h, hk.accept hsize, rfl, List.length_append⟩
    | false =>
      -- the books are where they were, but for one more verdict
      have hk' := hk.reject report
      refine (log_booked _ _ h).bind fun _ r h => ?_
      refine (start_booked collect h (hk'.closed htells hcount)).bind fun _ r h => ?_
      have hrest := ih h hk' htells hcount
      exact hrest

/-- To warm up is to fetch a report that is not judged. -/
theorem attempt_warmUp_booked (limit : Nat) (first : Bool) {p : Int32} (h : Booked r₀ k r)
    (hk : k.Balanced warmUp none) (htells : k.Tells runs (some p))
    (hcount : k.merged.length = runs.length)
    (hfirst : first = true → warmUp = none ∧ k.verdicts = []) :
    Ends (fun _ r => ∃ warmUp, Finished r₀ k warmUp r) (Stopped r₀)
      (attempt harness judge collect run data limit first r) := by
  cases first with
  | false =>
    exact (attempt_booked harness judge collect run data limit h hk htells hcount).imp
      (fun _ _ hr => ⟨warmUp, hr⟩) fun _ _ => id
  | true =>
    obtain ⟨rfl, hverdicts⟩ := hfirst rfl
    cases limit with
    | zero => exact ⟨k, h, hk.closed htells hcount _⟩
    | succ limit =>
      rw [attempt_warmUp]
      refine (onBench_booked (Bench.local_execute harness data) (Bench.mute_execute harness data) h
        (hk.closed htells hcount)).bind fun _ r h => ?_
      refine (fetch_booked h (hk.closed htells hcount)).bind fun report r hr => ?_
      have hk' := hk.warm hverdicts report
      refine (start_booked collect hr.2 (hk'.closed htells hcount)).bind fun _ r h => ?_
      exact (attempt_booked harness judge collect run data (limit + 1) h hk' htells hcount).imp
        (fun _ _ hr => ⟨some report, hr⟩) fun _ _ => id

/-- **Every run adds a fault and a map**, and the test left open adds neither. -/
theorem rounds_booked (limit done : Nat) (h : Booked r₀ k r) (hk : k.Balanced warmUp none)
    (htells : k.Tells runs none) (hcount : k.merged.length = runs.length)
    (hdone : runs.length = done) (hfirst : done = 0 → warmUp = none ∧ k.verdicts = []) :
    Ends (fun n r => ∃ k, Booked r₀ k r ∧ k.Closed (.ok n)) (Stopped r₀)
      (rounds harness judge collect limit done r) := by
  induction limit generalizing k warmUp runs done r with
  | zero => exact ⟨k, h, hk.closed htells hcount _⟩
  | succ limit ih =>
    rw [rounds]
    refine (start_booked collect h (hk.closed htells hcount)).bind fun pid r h => ?_
    refine (log_booked _ _ h).bind fun _ r h => ?_
    refine (onBench_booked (Bench.local_awaitPing _) (Bench.mute_awaitPing _) h
      (hk.closed htells hcount)).bind fun pinged r h => ?_
    cases pinged with
    | true =>
      refine (report_booked .status pid h fun part hpart hshort cause =>
        hk.closed_part htells hcount hpart hshort (fun _ hnone => nomatch hnone)
          fun _ hok => nomatch hok).bind fun _ r h => ?_
      have htells' := htells.tell_pid pid
      have hk' : ({ k with told := k.told ++ Word.encode pid } : Books).Balanced warmUp none :=
        ⟨hk.answers, hk.merged, hk.sized⟩
      refine (onBench_booked (Bench.local_readInput _) (Bench.mute_readInput _) h
        (hk'.closed htells' hcount)).bind fun data r h => ?_
      have hget : (get : Relaying σ (Relay σ)) r = .ok r r := rfl
      rw [bind_of_ok hget]
      refine (attempt_warmUp_booked harness judge collect (done + 1) data _ (done == 0) h hk'
        htells' hcount fun hzero => hfirst (by simpa using hzero)).bind fun fault r hr => ?_
      -- a map more than faults, until the fault is told
      obtain ⟨warmUp', k', h, hk', htold, hmerged⟩ := hr
      have htells' : k'.Tells runs (some pid) := htold.trans htells'
      have hcount' : k'.merged.length = runs.length + 1 := hmerged.trans (congrArg (· + 1) hcount)
      refine (log_booked _ _ h).bind fun _ r h => ?_
      refine (report_booked .status fault.code h fun part hpart hshort cause =>
        hk'.closed_fault htells' hcount' fault hpart hshort cause).bind fun _ r h => ?_
      have hruns : (runs ++ [(pid, fault)]).length = runs.length + 1 := List.length_append
      exact ih (done + 1) h ⟨hk'.answers, hk'.merged, hk'.sized⟩ (htells'.tell_fault fault)
        (hcount'.trans hruns.symm) (hruns.trans (congrArg (· + 1) hdone)) fun hzero => nomatch hzero
    | false =>
      refine (fetch_booked h (hk.closed htells hcount)).bind fun report r hr => ?_
      have hk' := hk.fetch report
      refine (talk_booked (ends_true _) hr.2 (hk'.closed htells hcount)).bind fun _ r hr => ?_
      refine (log_booked _ _ hr.2).bind fun _ r h => ?_
      refine ⟨_, h, hk'.closed_of htells hcount fun n hn => ?_⟩
      cases hn
      exact hcount.trans hdone

theorem session_booked (hmap : r₀.map.size = mapSize) :
    Ends (fun n r => ∃ k, Booked r₀ k r ∧ k.Closed (.ok n)) (Stopped r₀)
      (session harness judge collect r₀) := by
  have hnothing : Booked r₀ {} r₀ :=
    ⟨(List.append_nil _).symm, (List.append_nil _).symm, (List.append_nil _).symm, rfl, hmap⟩
  have hk : ({} : Books).Balanced none none :=
    ⟨rfl, rfl, fun _ hmem => absurd hmem List.not_mem_nil⟩
  rw [session]
  refine (report_booked .greeting 0 hnothing fun part hpart hshort cause => ?_).bind fun _ r h => ?_
  · -- the greeting itself is cut
    refine ⟨⟨none, none, rfl, rfl, hk.sized⟩, ⟨[], ?_⟩, .inl ?_, fun _ hok => nomatch hok⟩
    · rw [List.nil_append]
      exact hpart.trans (List.prefix_append _ _)
    · rw [faultsTold, List.nil_append]
      show (part.length / 4 - 1) / 2 = 0
      omega
  · have hget : (get : Relaying σ (Relay σ)) r = .ok r r := rfl
    rw [bind_of_ok hget]
    have htells : ({ told := [] ++ Word.encode 0 } : Books).Tells [] none := rfl
    exact rounds_booked harness judge collect _ 0 h ⟨rfl, rfl, hk.sized⟩ htells rfl rfl
      fun _ => ⟨rfl, rfl⟩

/-! ### Accounts -/

/-- What became of the reports that a controller was sent, from `r` to its end
`o`, the judge having given these verdicts. -/
structure Accounts (r : Relay σ) (verdicts : List (Report × Bool))
    (o : Except RelayError Nat × Relay σ) : Prop where
  judged : o.2.bench.verdicts = r.bench.verdicts ++ verdicts
  /-- No report came but those that were judged, one on warming up before them, and
  one on the test left open behind them. -/
  answered : ∃ warmUp last : Option Report, o.2.bench.answers
    = r.bench.answers ++ (warmUp.toList ++ verdicts.map Prod.fst ++ last.toList)
  /-- Accepted reports have whole maps. -/
  sized : ∀ map ∈ accepted verdicts, map.size = mapSize
  size : o.2.map.size = mapSize
  /-- Every cell has grown by what the accepted reports say of it, each once. -/
  cell : ∀ i, o.2.map.cell i
    = r.map.cell i + ((accepted verdicts).map fun map => map.cell i).sum
  /-- The driver has been sent a greeting and a process id and a fault for every
  run, up to some byte.  There are as many whole faults as accepted reports, unless
  it was the fault of the last one that could not be written. -/
  told : ∃ runs bytes, o.2.bench.status.sent = r.bench.status.sent ++ bytes ∧
    bytes <+: (wordsFor runs).flatMap Word.encode ∧
    (faultsTold bytes = (accepted verdicts).length ∨
      (faultsTold bytes + 1 = (accepted verdicts).length ∧
        bytes.length / 4 = 2 * (accepted verdicts).length ∧
        ∃ cause, o.1 = .error (.status cause)))
  /-- A controller that ends well has made a run for every accepted report. -/
  count : ∀ runs, o.1 = .ok runs → (accepted verdicts).length = runs

/-- Closed books are the accounts. -/
theorem Booked.accounts (h : Booked r₀ k r) (hmap : r₀.map.size = mapSize)
    {result : Except RelayError Nat} (hk : k.Closed result) :
    Accounts r₀ k.verdicts (result, r) := by
  obtain ⟨warmUp, last, hbalanced⟩ := hk.balanced
  obtain ⟨runs, hruns⟩ := hk.told
  have hsized := hbalanced.sized
  have hfaults := hk.faults
  have hcount := hk.count
  have hcells := h.map
  rw [hbalanced.merged] at hsized hfaults hcount hcells
  refine ⟨h.verdicts, ⟨warmUp, last, ?_⟩, hsized, h.size, fun i => ?_,
    ⟨runs, k.told, h.told, hruns, hfaults⟩, hcount⟩
  · rw [← hbalanced.answers]
    exact h.answers
  · show r.map.cell i = _
    rw [hcells]
    exact CoverageMap.cell_addAll (fun map hmem => (hsized map hmem).trans hmap.symm) i

/-- **Exactly the accepted reports are merged**, and each is told to the driver as
far as that can be written, wherever the controller ends. -/
theorem accounts_serve {r : Relay σ} (hmap : r.map.size = mapSize) :
    ∃ verdicts, Accounts r verdicts (serve harness judge collect r) := by
  have hsession := session_booked harness judge collect hmap
  rw [serve]
  rcases hrun : session harness judge collect r with ⟨runs, r'⟩ | ⟨e, r'⟩ <;>
    rw [hrun] at hsession
  · obtain ⟨k, hbooked, hclosed⟩ := hsession
    exact ⟨k.verdicts, hbooked.accounts hmap hclosed⟩
  · obtain ⟨k, hbooked, hclosed⟩ := hsession
    exact ⟨k.verdicts, hbooked.accounts hmap hclosed⟩

/-- The second test is rejected until the judge has changed its mind, and the
status pipe takes no whole second fault. -/
theorem secondThoughts_accounts :
    let harness : Harness Nat := fun memory data => ({ panic := none }, memory + data.size)
    let judge : Judge Nat := fun memory run _ => (run != 2 || 9 < memory, memory + 4)
    let r : Relay Nat :=
      { bench :=
          { control := ⟨List.replicate 12 0, some "cut"⟩
            status := { limit := some ⟨18, "full", true⟩ }
            inputs := []
            memory := 0 }
        link := ⟨⟨List.replicate 500000 0, none⟩, {}⟩
        map := .zero }
    r.map.size = mapSize ∧ ∃ verdicts, Accounts r verdicts (serve harness judge true r) := by
  intro harness judge r
  have hmap : r.map.size = mapSize := Array.size_replicate
  exact ⟨hmap, accounts_serve harness judge true hmap⟩

end

end Controller

end BranchCoverage
