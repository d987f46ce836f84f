/-
Adding maps up.

With the counter discipline a hit adds one to a byte, so it makes no difference
whether hits are recorded on a map or on one with nothing recorded that is added
to it afterwards (`Replay.execute_eq_add`).  What executions one after another
leave is then the sum of what each of them leaves by itself.
-/
import BranchCoverage.Proofs.Trace.Confinement

namespace BranchCoverage

namespace CoverageMap

/-- Where an operation with 0 changes nothing, one with a map of zeros does not. -/
theorem zipWith_eq_self {op : UInt8 → UInt8 → UInt8} (hop : ∀ x, op x 0 = x)
    {map other : CoverageMap} (h : map.size = other.size)
    (hother : ∀ (i : Nat) (byte : UInt8), other[i]? = some byte → byte = 0) :
    Array.zipWith op map other = map := by
  refine Array.ext_getElem? fun i => ?_
  rw [Array.getElem?_zipWith]
  rcases hi : other[i]? with - | byte
  · have hnone : map[i]? = none :=
      Array.getElem?_eq_none (h ▸ Array.getElem?_eq_none_iff.mp hi)
    rw [hnone]
  · obtain rfl := hother i byte hi
    rcases map[i]? with - | x
    · rfl
    · exact congrArg some (hop x)

theorem getElem?_zero {i : Nat} {byte : UInt8} (h : CoverageMap.zero[i]? = some byte) :
    byte = 0 :=
  (Array.mem_replicate.mp (Array.mem_of_getElem? h)).2

theorem add_zero {map : CoverageMap} (h : map.size = mapSize) : map.add .zero = map :=
  zipWith_eq_self UInt8.add_zero (h.trans Array.size_replicate.symm) fun _ _ => getElem?_zero

/-- Where an operation passes a change of its second operand on, changing a cell
of the second map changes it in both together. -/
theorem modify_zipWith {op : UInt8 → UInt8 → UInt8} {f : UInt8 → UInt8}
    (h : ∀ x y, f (op x y) = op x (f y)) (map other : CoverageMap) (cell : Nat) :
    (Array.zipWith op map other).modify cell f = Array.zipWith op map (other.modify cell f) := by
  refine Array.ext_getElem? fun i => ?_
  rw [Array.getElem?_modify, Array.getElem?_zipWith, Array.getElem?_zipWith, Array.getElem?_modify]
  split
  · rcases map[i]? with - | x <;> rcases other[i]? with - | y
    · rfl
    · rfl
    · rfl
    · exact congrArg some (h x y)
  · rfl

/-- Counting on a summand is counting on the sum. -/
theorem bump_add (map other : CoverageMap) (cell : Nat) :
    (map.add other).bump cell = map.add (other.bump cell) :=
  modify_zipWith (fun x y => UInt8.add_assoc x y 1) map other cell

end CoverageMap

namespace Replay

variable {registered : Nat → Bool}

/-- The replay of the same hits with the map of another added. -/
def onto (map : CoverageMap) (r : Replay) : Replay :=
  { r with map := map.add r.map }

/-- A hit that counts goes to a summand as well as to the sum. -/
theorem hit_onto (map : CoverageMap) (r : Replay) {x : Hit} (hx : x.discipline = .counter) :
    (r.onto map).hit registered x = (r.hit registered x).onto map := by
  have hrecord : ∀ hash, Discipline.counter.record hash (map.add r.map)
      = map.add (Discipline.counter.record hash r.map) :=
    fun _ => CoverageMap.bump_add map r.map _
  cases x with
  | call d id label =>
    obtain rfl : d = .counter := hx
    exact congrArg (fun sum : CoverageMap => (⟨sum, locationOf id, r.copies⟩ : Replay)) (hrecord _)
  | inline copy d id =>
    obtain rfl : d = .counter := hx
    cases copy with
    | none =>
      exact congrArg (fun sum : CoverageMap => (⟨sum, locationOf id, r.copies⟩ : Replay))
        (hrecord _)
    | some index =>
      rw [hit, hit]
      split
      · exact congrArg (fun sum : CoverageMap => (⟨sum, r.primary, _⟩ : Replay)) (hrecord _)
      · rfl

theorem foldl_hit_onto (map : CoverageMap) {hits : List Hit}
    (hhits : ∀ x ∈ hits, x.discipline = .counter) (r : Replay) :
    hits.foldl (hit registered) (r.onto map) = (hits.foldl (hit registered) r).onto map := by
  induction hits generalizing r with
  | nil => rfl
  | cons x rest ih =>
    rw [List.foldl_cons, List.foldl_cons, hit_onto map r (hhits x List.mem_cons_self)]
    exact ih (fun y hy => hhits y (List.mem_cons_of_mem x hy)) _

/-- **What an execution records on a map is what it records by itself, added.** -/
theorem execute_eq_add {map : CoverageMap} (hmap : map.size = mapSize) {e : Execution}
    (he : ∀ x ∈ e.hits, x.discipline = .counter) :
    execute registered map e = map.add (execute registered .zero e) := by
  have hstart : (⟨map, 0, fun _ => 0⟩ : Replay) = onto map { map := .zero } := by
    rw [onto]
    exact congrArg (fun sum => (⟨sum, 0, fun _ => 0⟩ : Replay)) (CoverageMap.add_zero hmap).symm
  rw [execute, hstart, foldl_hit_onto map he]
  rfl

/-- Hits keep the size of the map. -/
theorem size_hit (r : Replay) (x : Hit) : (r.hit registered x).map.size = r.map.size := by
  cases x with
  | call d id label => exact Tracing.size_record d _ _
  | inline copy d id =>
    cases copy with
    | none => exact Tracing.size_record d _ _
    | some index =>
      rw [hit]
      split
      · exact Tracing.size_record d _ _
      · rfl

theorem size_foldl_hit (hits : List Hit) (r : Replay) :
    (hits.foldl (hit registered) r).map.size = r.map.size := by
  induction hits generalizing r with
  | nil => rfl
  | cons x rest ih => exact (ih _).trans (size_hit r x)

theorem size_execute (map : CoverageMap) (e : Execution) :
    (execute registered map e).size = map.size :=
  size_foldl_hit e.hits _

theorem size_executeAll (es : List Execution) : (executeAll registered es).size = mapSize := by
  have hall : ∀ map : CoverageMap, (es.foldl (execute registered) map).size = map.size := by
    induction es with
    | nil => exact fun _ => rfl
    | cons e rest ih => exact fun map => (ih _).trans (size_execute map e)
  exact (hall _).trans Array.size_replicate

end Replay

end BranchCoverage
