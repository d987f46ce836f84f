/-
Hits of one state in a row, on a map of their own and on another one.

What hits leave of a map depends on the map and on the previous location, not on
the trace that they are made on (`Writes.play`).  In either discipline a hit of a
map that is combined from two may as well be one of the second of them
(`record_combine`), and so may any number of hits (`recordAll_eq_combine`): maps
of counters are combined by adding, maps of bits by uniting them.
-/
import BranchCoverage.Proofs.Trace.Merge

namespace BranchCoverage

/-! ### Hits on a map -/

namespace CoverageMap

/-- Two maps united, bit by bit. -/
def union (map other : CoverageMap) : CoverageMap :=
  Array.zipWith (· ||| ·) map other

theorem union_zero {map : CoverageMap} (h : map.size = mapSize) : map.union .zero = map :=
  zipWith_eq_self (fun _ => UInt8.or_zero) (h.trans Array.size_replicate.symm)
    fun _ _ => getElem?_zero

/-- Setting a bit of one part is setting it in the union. -/
theorem mark_union (map other : CoverageMap) (cell : Nat) (bit : UInt8) :
    (map.union other).mark cell bit = map.union (other.mark cell bit) :=
  modify_zipWith (fun x y => UInt8.or_assoc x y (1 <<< bit)) map other cell

/-- What a bit leaves in its cell of a map with nothing recorded. -/
theorem getElem?_mark_zero {cell : Nat} (h : cell < mapSize) (bit : UInt8) :
    (zero.mark cell bit)[cell]? = some (1 <<< bit) := by
  rw [mark, Array.getElem?_modify, if_pos rfl, zero, Array.getElem?_replicate, if_pos h]
  exact congrArg some UInt8.zero_or

end CoverageMap

namespace Discipline

/-- What hits at these sites make of a map, one after another from a previous
location. -/
def recordAll (d : Discipline) : UInt32 → List UInt32 → CoverageMap → CoverageMap
  | _, [], map => map
  | previous, id :: rest, map =>
    d.recordAll (locationOf id) rest (d.record (edgeHash id previous) map)

theorem recordAll_singleton (d : Discipline) (previous id : UInt32) (map : CoverageMap) :
    d.recordAll previous [id] map = d.record (edgeHash id previous) map :=
  rfl

/-- How maps of what was recorded apart go together. -/
def combine : Discipline → CoverageMap → CoverageMap → CoverageMap
  | .counter => CoverageMap.add
  | .bitset => CoverageMap.union

variable {d : Discipline}

/-- A hit goes to the second of two maps as well as to both together. -/
theorem record_combine (d : Discipline) (hash : UInt32) (map other : CoverageMap) :
    d.record hash (d.combine map other) = d.combine map (d.record hash other) := by
  cases d with
  | counter => exact CoverageMap.bump_add map other _
  | bitset => exact CoverageMap.mark_union map other _ _

theorem recordAll_combine (d : Discipline) (previous : UInt32) (ids : List UInt32)
    (map other : CoverageMap) :
    d.recordAll previous ids (d.combine map other)
      = d.combine map (d.recordAll previous ids other) := by
  -- the first map stays behind all the way, and the second is the one that changes
  induction ids generalizing previous other with
  | nil => rfl
  | cons id rest ih =>
    rw [recordAll, recordAll, record_combine]
    exact ih _ _

theorem combine_zero (d : Discipline) {map : CoverageMap} (h : map.size = mapSize) :
    d.combine map .zero = map := by
  cases d with
  | counter => exact CoverageMap.add_zero h
  | bitset => exact CoverageMap.union_zero h

/-- What is recorded on a map is what is recorded apart, combined with it. -/
theorem recordAll_eq_combine (d : Discipline) (previous : UInt32) (ids : List UInt32)
    {map : CoverageMap} (h : map.size = mapSize) :
    d.recordAll previous ids map = d.combine map (d.recordAll previous ids .zero) := by
  rw [← recordAll_combine, combine_zero d h]

/-- Hits keep the size of the map. -/
theorem size_recordAll (d : Discipline) (previous : UInt32) (ids : List UInt32)
    (map : CoverageMap) : (d.recordAll previous ids map).size = map.size := by
  induction ids generalizing previous map with
  | nil => rfl
  | cons id rest ih => exact (ih _ _).trans (Tracing.size_record d _ map)

end Discipline

/-- Hits of one state, one after another from a previous location. -/
structure Burst where
  previous : UInt32
  ids : List UInt32

/-- The hashes of the edges that hits at these sites take. -/
def hashesFrom : UInt32 → List UInt32 → List UInt32
  | _, [] => []
  | previous, id :: rest => edgeHash id previous :: hashesFrom (locationOf id) rest

/-- The hashes of the edges that the hits take. -/
def Burst.hashes (b : Burst) : List UInt32 :=
  hashesFrom b.previous b.ids

/-- The map that hits leave of one that they are recorded on. -/
def Burst.recordOn (b : Burst) (d : Discipline) (map : CoverageMap) : CoverageMap :=
  d.recordAll b.previous b.ids map

theorem Burst.recordOn_eq_combine (b : Burst) (d : Discipline) {map : CoverageMap}
    (h : map.size = mapSize) : b.recordOn d map = d.combine map (b.recordOn d .zero) :=
  d.recordAll_eq_combine b.previous b.ids h

theorem Burst.size_recordOn (b : Burst) (d : Discipline) (map : CoverageMap) :
    (b.recordOn d map).size = map.size :=
  d.size_recordAll b.previous b.ids map

/-- The map that bursts one after another leave. -/
def recordBursts (d : Discipline) (bursts : List Burst) (map : CoverageMap) : CoverageMap :=
  bursts.foldl (fun map b => b.recordOn d map) map

/-! ### Hits on a trace -/

namespace Tracing

variable {t : Tracing} {copy : Option Nat} {previous : UInt32} {map : CoverageMap}

/-- A state of the trace is at this previous location and writes to this map. -/
def Writes (t : Tracing) (copy : Option Nat) (previous : UInt32) (map : CoverageMap) : Prop :=
  ∃ target, t.state? copy = some ⟨previous, target⟩ ∧ t.map? target = some map

/-- Before anything is installed the primary state writes to the fallback map. -/
theorem writes_fallback (map : CoverageMap) : ({ fallback := map } : Tracing).Writes none 0 map :=
  ⟨none, rfl, rfl⟩

/-- The trace after hits of a state at these sites, one after another. -/
def hitEach (t : Tracing) (copy : Option Nat) (d : Discipline) (ids : List UInt32) : Tracing :=
  (t.play (ids.map (.inline copy d))).1

theorem state?_write (t : Tracing) (target copy : Option Nat) (f : CoverageMap → CoverageMap) :
    (t.write target f).state? copy = t.state? copy := by
  cases target <;> cases copy <;> rfl

theorem state?_move {s : TraceState} (h : t.state? copy = some s) (id : UInt32) :
    (t.move id copy).state? copy = some ⟨locationOf id, s.target⟩ := by
  cases copy with
  | none =>
    cases h
    rfl
  | some index =>
    obtain ⟨c, hc, rfl⟩ := Option.map_eq_some_iff.mp h
    show ((t.copies.modify index _)[index]?).map TraceCopy.state = _
    rw [Array.getElem?_modify, if_pos rfl, hc]
    rfl

theorem Writes.hit (h : t.Writes copy previous map) (d : Discipline) (id : UInt32) :
    (t.hit (.inline copy d id)).1.Writes copy (locationOf id)
      (d.record (edgeHash id previous) map) := by
  obtain ⟨target, hstate, hmap⟩ := h
  have hhit := hit_eq (x := .inline copy d id) hstate
  refine ⟨target, ?_, ?_⟩
  · rw [hhit, state?_write]
    exact state?_move hstate id
  · rw [hhit, map?_write, if_pos rfl, map?_move, hmap]
    rfl

/-- Hits are recorded alike on every trace. -/
theorem Writes.hitEach (h : t.Writes copy previous map) (d : Discipline) (ids : List UInt32) :
    (t.hitEach copy d ids).Writes copy (ids.foldl (fun _ id => locationOf id) previous)
      (d.recordAll previous ids map) := by
  rw [Tracing.hitEach, play_eq_foldl, List.foldl_map]
  induction ids generalizing t previous map with
  | nil => exact h
  | cons id rest ih => exact ih (h.hit d id)

end Tracing

end BranchCoverage
