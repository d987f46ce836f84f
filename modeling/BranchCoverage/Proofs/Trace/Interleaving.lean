/-
Hits of several states, in any order that keeps the order of each of them.

Hits of one state do not commute, because each is hashed with the one before it.
Hits of two states do, even if both are recorded in the same cell: a hit moves its own
state on and no other (`state?_hit_of_ne`), and in one discipline it makes no difference
which of two edges is recorded first (`record_comm`).  So the first hit of a state may be
brought forward over those of other states (`foldl_bring_forward`), and what hits leave
depends only on the row of each state (`play_eq_of_rows`), not on how the rows were
interleaved.
-/
import BranchCoverage.Proofs.Trace.ClosedForm

namespace BranchCoverage

/-! ### Recording in another order -/

/-- Changes may be made in either order, in two places or, if they commute, in one. -/
theorem modify_comm {α : Type} {f g : α → α} {i j : Nat} (h : i = j → ∀ x, f (g x) = g (f x))
    (xs : Array α) : (xs.modify j g).modify i f = (xs.modify i f).modify j g := by
  refine Array.ext_getElem? fun k => ?_
  simp only [Array.getElem?_modify]
  rcases xs[k]? with - | x
  · split <;> split <;> rfl
  · split <;> split
    · next hi hj => exact congrArg some (h (hi.trans hj.symm) x)
    · rfl
    · rfl
    · rfl

/-- Of two edges that are recorded in one discipline, either may come first. -/
theorem Discipline.record_comm (d : Discipline) (hash hash' : UInt32) (map : CoverageMap) :
    d.record hash (d.record hash' map) = d.record hash' (d.record hash map) := by
  cases d with
  | counter => exact modify_comm (fun _ _ => rfl) map
  | bitset =>
    have hbits : ∀ bit bit' byte : UInt8, byte ||| bit' ||| bit = byte ||| bit ||| bit' := by
      intro bit bit' byte
      rw [UInt8.or_assoc, UInt8.or_comm bit', ← UInt8.or_assoc]
    show (map.modify _ (· ||| _)).modify _ (· ||| _) = (map.modify _ (· ||| _)).modify _ (· ||| _)
    exact modify_comm (fun _ => hbits _ _) map

namespace Tracing

variable {t : Tracing} {x y : Hit} {s : TraceState} {d : Discipline}

/-! ### Hits of two states -/

/-- Moving a state on leaves the others where they are. -/
theorem state?_move_of_ne {copy other : Option Nat} (h : other ≠ copy) (t : Tracing)
    (id : UInt32) : (t.move id copy).state? other = t.state? other := by
  cases copy with
  | none =>
    cases other with
    | none => exact absurd rfl h
    | some other => rfl
  | some index =>
    cases other with
    | none => rfl
    | some other =>
      have hne : index ≠ other := fun heq => h (congrArg some heq.symm)
      show ((t.copies.modify index _)[other]?).map _ = (t.copies[other]?).map _
      rw [Array.getElem?_modify, if_neg hne]

/-- A hit of one state leaves the others where they are. -/
theorem state?_hit_of_ne {other : Option Nat} (h : other ≠ x.copy) (t : Tracing) :
    (t.hit x).1.state? other = t.state? other := by
  rcases hs : t.state? x.copy with - | s
  · rw [hit_of_none hs]
  · rw [hit_eq hs, state?_write, state?_move_of_ne h]

theorem move_write (t : Tracing) (target : Option Nat) (f : CoverageMap → CoverageMap)
    (id : UInt32) (copy : Option Nat) :
    (t.write target f).move id copy = (t.move id copy).write target f := by
  cases target <;> cases copy <;> rfl

theorem move_comm {copy other : Option Nat} (h : other ≠ copy) (t : Tracing) (id id' : UInt32) :
    (t.move id copy).move id' other = (t.move id' other).move id copy := by
  cases copy with
  | none =>
    cases other with
    | none => exact absurd rfl h
    | some other => rfl
  | some index =>
    cases other with
    | none => rfl
    | some other =>
      simp only [move, moveCopy]
      rw [modify_comm fun heq => absurd (congrArg some heq) h]

theorem write_comm {f g : CoverageMap → CoverageMap} (h : ∀ map, f (g map) = g (f map))
    (t : Tracing) (target other : Option Nat) :
    (t.write other g).write target f = (t.write target f).write other g := by
  cases target with
  | none =>
    cases other with
    | none => exact congrArg (fun map => ({ t with fallback := map } : Tracing)) (h t.fallback)
    | some other => rfl
  | some token =>
    cases other with
    | none => rfl
    | some other =>
      exact congrArg (fun maps => ({ t with maps := maps } : Tracing))
        (modify_comm (fun _ => h) t.maps)

/-- **Hits of two states commute**, whatever the states write to. -/
theorem hit_comm (hx : x.discipline = d) (hy : y.discipline = d) (h : x.copy ≠ y.copy)
    (t : Tracing) : ((t.hit x).1.hit y).1 = ((t.hit y).1.hit x).1 := by
  have hsx := state?_hit_of_ne (x := y) h t
  have hsy := state?_hit_of_ne (x := x) h.symm t
  rcases hs : t.state? x.copy with - | s
  · -- there is no such state to be hit, neither now nor later
    rw [hit_of_none hs, hit_of_none (hsx.trans hs)]
  rcases hs' : t.state? y.copy with - | s'
  · rw [hit_of_none (hsy.trans hs'), hit_of_none hs']
  rw [hit_eq (hsy.trans hs'), hit_eq hs, hit_eq (hsx.trans hs), hit_eq hs', move_write,
    move_write, move_comm h.symm, hx, hy]
  exact write_comm (d.record_comm _ _) _ _ _

/-- A hit is known by its discipline, its state and its identifier. -/
theorem hit_congr (hdiscipline : x.discipline = y.discipline) (hcopy : x.copy = y.copy)
    (hid : x.id = y.id) (t : Tracing) : (t.hit x).1 = (t.hit y).1 := by
  rcases hs : t.state? x.copy with - | s
  · rw [hit_of_none hs, hit_of_none (hcopy ▸ hs)]
  · rw [hit_eq hs, hit_eq (hcopy ▸ hs), hdiscipline, hcopy, hid]

end Tracing

/-! ### Rows -/

/-- The hits of one state, by their identifiers and in their order. -/
def rowOf (copy : Option Nat) (hits : List Hit) : List UInt32 :=
  (hits.filter (·.copy = copy)).map Hit.id

variable {x : Hit} {hits before after rest : List Hit} {copy : Option Nat}

theorem rowOf_cons_self (x : Hit) (rest : List Hit) :
    rowOf x.copy (x :: rest) = x.id :: rowOf x.copy rest := by
  simp only [rowOf, List.filter_cons, decide_true, if_true, List.map_cons]

theorem rowOf_cons_of_ne (h : x.copy ≠ copy) (rest : List Hit) :
    rowOf copy (x :: rest) = rowOf copy rest := by
  simp only [rowOf, List.filter_cons, h, decide_false, Bool.false_eq_true, if_false]

theorem rowOf_append (copy : Option Nat) (before after : List Hit) :
    rowOf copy (before ++ after) = rowOf copy before ++ rowOf copy after := by
  rw [rowOf, List.filter_append, List.map_append, rowOf, rowOf]

theorem rowOf_eq_nil_iff : rowOf copy hits = [] ↔ ∀ y ∈ hits, y.copy ≠ copy := by
  rw [rowOf, List.map_eq_nil_iff, List.filter_eq_nil_iff]
  simp only [decide_eq_true_eq, ne_eq]

/-- Where a row goes on, its next hit is the first one of its state. -/
theorem exists_of_rowOf_eq_cons {id : UInt32} {row : List UInt32}
    (h : rowOf copy hits = id :: row) : ∃ before y after, hits = before ++ y :: after ∧
      (∀ z ∈ before, z.copy ≠ copy) ∧ y.copy = copy ∧ y.id = id ∧ rowOf copy after = row := by
  obtain ⟨y, after', hfilter, hid, hrow⟩ := List.map_eq_cons_iff.mp h
  obtain ⟨before, after, hsplit, hbefore, hy, hafter⟩ := List.filter_eq_cons_iff.mp hfilter
  refine ⟨before, y, after, hsplit, fun z hz heq => hbefore z hz (decide_eq_true heq),
    of_decide_eq_true hy, hid, ?_⟩
  rw [rowOf, hafter, hrow]

/-- Hits of several states, all in one discipline, with a row for each state. -/
structure Interleaves (d : Discipline) (rows : Option Nat → List UInt32) (hits : List Hit) :
    Prop where
  discipline : ∀ x ∈ hits, x.discipline = d
  row : ∀ copy, rowOf copy hits = rows copy

namespace Tracing

variable {t : Tracing} {d : Discipline}

/-- The first hit of a state may be brought forward over hits of other states. -/
theorem foldl_bring_forward (hx : x.discipline = d) (hbefore : ∀ y ∈ before, y.discipline = d)
    (hother : ∀ y ∈ before, y.copy ≠ x.copy) (t : Tracing) :
    (before ++ x :: after).foldl (fun t x => (t.hit x).1) t
      = (before ++ after).foldl (fun t x => (t.hit x).1) (t.hit x).1 := by
  induction before generalizing t with
  | nil => rfl
  | cons y before ih =>
    obtain ⟨hy, hbefore⟩ := List.forall_mem_cons.mp hbefore
    obtain ⟨hne, hother⟩ := List.forall_mem_cons.mp hother
    rw [List.cons_append, List.foldl_cons, ih hbefore hother, List.cons_append, List.foldl_cons,
      hit_comm hy hx hne]

/-- What hits in one discipline leave depends on the row of each state only. -/
theorem play_eq_of_rows {hits' : List Hit} (hd : ∀ x ∈ hits, x.discipline = d)
    (hd' : ∀ x ∈ hits', x.discipline = d) (hrows : ∀ copy, rowOf copy hits = rowOf copy hits')
    (t : Tracing) : (t.play hits).1 = (t.play hits').1 := by
  rw [play_eq_foldl, play_eq_foldl]
  -- the first hit of the one order is somewhere in the other, behind hits of other states
  induction hits generalizing t hits' with
  | nil =>
    have hnil : hits' = [] := List.eq_nil_iff_forall_not_mem.mpr fun y hy =>
      rowOf_eq_nil_iff.mp (hrows y.copy).symm y hy rfl
    rw [hnil]
  | cons x rest ih =>
    obtain ⟨hx, hrest⟩ := List.forall_mem_cons.mp hd
    obtain ⟨before, y, after, rfl, hother, hcopy, hid, hrow⟩ :=
      exists_of_rowOf_eq_cons ((hrows x.copy).symm.trans (rowOf_cons_self x rest))
    obtain ⟨hbefore, hafter⟩ := List.forall_mem_append.mp hd'
    obtain ⟨hy, hafter⟩ := List.forall_mem_cons.mp hafter
    have hbehind : ∀ copy, rowOf copy rest = rowOf copy (before ++ after) := by
      intro copy
      rw [rowOf_append]
      by_cases heq : x.copy = copy
      · -- nothing of this row stands in front
        subst heq
        rw [rowOf_eq_nil_iff.mpr hother, hrow, List.nil_append]
      · have hall := hrows copy
        rw [rowOf_cons_of_ne heq, rowOf_append, rowOf_cons_of_ne (hcopy ▸ heq)] at hall
        exact hall
    rw [List.foldl_cons, foldl_bring_forward hy hbefore (hcopy ▸ hother),
      hit_congr (hy.trans hx.symm) hcopy hid]
    exact ih hrest (List.forall_mem_append.mpr ⟨hbefore, hafter⟩) hbehind _

/-- Hits leave each state at the location of the last one of its row. -/
theorem state?_play {s : TraceState} (hs : t.state? copy = some s) :
    (t.play hits).1.state? copy
      = some ⟨((rowOf copy hits).map locationOf).getLastD s.previous, s.target⟩ := by
  rw [play_eq_foldl, ← foldl_locationOf]
  induction hits generalizing t s with
  | nil => exact hs
  | cons x rest ih =>
    rw [List.foldl_cons]
    by_cases heq : x.copy = copy
    · subst heq
      have hmoved : (t.hit x).1.state? x.copy = some ⟨locationOf x.id, s.target⟩ := by
        rw [hit_eq hs, state?_write, state?_move hs]
      rw [ih hmoved, rowOf_cons_self]
      rfl
    · rw [ih ((state?_hit_of_ne (Ne.symm heq) t).trans hs), rowOf_cons_of_ne heq]

/-- **Hits of several states may be interleaved in any way.**  Whatever maps the states
write to, one and the same or not, and wherever they are, what is left is the same
to the last byte, and each state stands where the last hit of its row has left it. -/
theorem play_eq_of_interleaves {rows : Option Nat → List UInt32} {hits hits' : List Hit}
    (h : Interleaves d rows hits) (h' : Interleaves d rows hits') (t : Tracing) :
    (t.play hits).1 = (t.play hits').1 ∧ ∀ copy s, t.state? copy = some s →
      (t.play hits).1.state? copy
        = some ⟨((rows copy).map locationOf).getLastD s.previous, s.target⟩ := by
  constructor
  · exact play_eq_of_rows h.discipline h'.discipline
      (fun copy => (h.row copy).trans (h'.row copy).symm) t
  · intro copy s hs
    rw [state?_play hs, h.row]

/-- The primary state and a copy of it share the map of a context, where the first hits
of both of them fall into one cell. -/
theorem sharedCell_play_eq :
    let t : Tracing :=
      { primary := ⟨22, some 0⟩
        copies := #[⟨⟨22, some 0⟩, true⟩]
        maps := #[.zero]
        live := [⟨0, none⟩] }
    let rows : Option Nat → List UInt32
      | none => [45, 26]
      | some 0 => [45, 45]
      | some _ => []
    let hits : List Hit :=
      [.call .counter 45 "Left", .call .counter 26 "Right", .inline (some 0) .counter 45,
        .inline (some 0) .counter 45]
    let hits' : List Hit :=
      [.inline (some 0) .counter 45, .inline none .counter 45, .inline (some 0) .counter 45,
        .call .counter 26 "Right"]
    (Interleaves .counter rows hits ∧ Interleaves .counter rows hits') ∧
      (t.play hits).1 = (t.play hits').1 ∧
      ((t.play hits).1.state? none = some ⟨13, some 0⟩ ∧
        (t.play hits).1.state? (some 0) = some ⟨22, some 0⟩) := by
  intro t rows hits hits'
  have hrows : ∀ copy, rowOf copy hits = rows copy ∧ rowOf copy hits' = rows copy := by
    rintro (- | - | index)
    · exact ⟨rfl, rfl⟩
    · exact ⟨rfl, rfl⟩
    · -- no other copy is hit
      have hne : ∀ x ∈ hits ++ hits', x.copy ≠ some (index + 1) := by
        simp [hits, hits', Hit.copy]
      obtain ⟨hhits, hhits'⟩ := List.forall_mem_append.mp hne
      exact ⟨rowOf_eq_nil_iff.mpr hhits, rowOf_eq_nil_iff.mpr hhits'⟩
  have hhits : Interleaves .counter rows hits := ⟨by decide, fun copy => (hrows copy).1⟩
  have hhits' : Interleaves .counter rows hits' := ⟨by decide, fun copy => (hrows copy).2⟩
  obtain ⟨hsame, hlast⟩ := play_eq_of_interleaves hhits hhits' t
  exact ⟨⟨hhits, hhits'⟩, hsame, hlast none _ rfl, hlast (some 0) _ rfl⟩

end Tracing

end BranchCoverage
