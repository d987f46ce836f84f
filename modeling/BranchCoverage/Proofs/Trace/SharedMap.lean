/-
The map that the primary trace state writes to.

A hit of the primary state changes this map and the previous location, and
nothing of it depends on where the map is kept (`hitPrimary_eq`).  `Ready` says
that the map has its size and that the previous location is one that a site
leaves behind; a hit keeps it so (`Ready.hitPrimary`).
-/
import Mathlib.Algebra.Group.Nat.Defs
import BranchCoverage.Trace.Tracing

namespace BranchCoverage

/-- Half of an identifier has no sign bit. -/
theorem toNat_locationOf_lt (id : UInt32) : (locationOf id).toNat < 2 ^ 31 := by
  show (id >>> 1).toNat < 2 ^ 31
  rw [UInt32.toNat_shiftRight]
  show id.toNat >>> 1 < 2 ^ 31
  have := id.toNat_lt
  omega

namespace Tracing

/-- The map that the primary state writes to. -/
def sharedMap (t : Tracing) : CoverageMap :=
  match t.primary.target with
  | none => t.fallback
  | some token => t.map token

/-- The primary state writes to a map of the right size, and its previous
location is one that a site can leave behind. -/
structure Ready (t : Tracing) : Prop where
  size : t.sharedMap.size = mapSize
  previous_lt : t.primary.previous.toNat < 2 ^ 31

theorem primary_write (t : Tracing) (target : Option Nat) (f : CoverageMap → CoverageMap) :
    (t.write target f).primary = t.primary := by
  cases target <;> rfl

theorem sharedMap_write (t : Tracing) (f : CoverageMap → CoverageMap)
    (h : f #[] = #[]) : (t.write t.primary.target f).sharedMap = f t.sharedMap := by
  obtain ⟨⟨previous, target⟩, copies, fallback, maps, live, observer⟩ := t
  cases target with
  | none => rfl
  | some token =>
    show ((maps.modify token f)[token]?).getD #[] = f (maps[token]?.getD #[])
    rw [Array.getElem?_modify, if_pos rfl]
    rcases maps[token]? with - | map
    · exact h.symm
    · rfl

/-- Writing depends on nothing but what becomes of the map. -/
theorem write_congr {t : Tracing} {f g : CoverageMap → CoverageMap}
    (h : f t.sharedMap = g t.sharedMap) :
    t.write t.primary.target f = t.write t.primary.target g := by
  obtain ⟨⟨previous, target⟩, copies, fallback, maps, live, observer⟩ := t
  cases target with
  | none => exact congrArg (fun map => (⟨_, copies, map, maps, live, observer⟩ : Tracing)) h
  | some token =>
    -- the two agree on the one map that is changed
    have hmaps : maps.modify token f = maps.modify token g := by
      refine Array.ext_getElem? fun i => ?_
      rw [Array.getElem?_modify, Array.getElem?_modify]
      split
      · subst token
        have h : f (maps[i]?.getD #[]) = g (maps[i]?.getD #[]) := h
        rcases hi : maps[i]? with - | map
        · rfl
        · rw [hi] at h
          exact congrArg some h
      · rfl
    exact congrArg (fun maps => (⟨_, copies, fallback, maps, live, observer⟩ : Tracing)) hmaps

theorem hitPrimary_eq (t : Tracing) (d : Discipline) (id : UInt32) :
    t.hitPrimary d id
      = { t.write t.primary.target (d.record (edgeHash id t.primary.previous)) with
          primary.previous := locationOf id } := by
  obtain ⟨⟨previous, target⟩, copies, fallback, maps, live, observer⟩ := t
  cases target <;> rfl

/-- A cell may be set to the new value of its byte instead. -/
theorem modify_const {map : CoverageMap} {cell : Nat} {byte : UInt8} (f : UInt8 → UInt8)
    (h : map[cell]? = some byte) : map.modify cell (fun _ => f byte) = map.modify cell f := by
  refine Array.ext_getElem? fun i => ?_
  rw [Array.getElem?_modify, Array.getElem?_modify]
  split
  · subst i
    rw [h]
    rfl
  · rfl

theorem size_record (d : Discipline) (hash : UInt32) (map : CoverageMap) :
    (d.record hash map).size = map.size := by
  cases d <;> exact Array.size_modify

/-- A hit leaves the trace ready for the next one. -/
theorem Ready.hitPrimary {t : Tracing} (h : t.Ready) (d : Discipline) (id : UInt32) :
    (t.hitPrimary d id).Ready where
  size := by
    have hempty : ∀ hash, d.record hash #[] = #[] :=
      fun hash => Array.eq_empty_of_size_eq_zero (size_record d hash #[])
    have hmap := sharedMap_write { t with primary.previous := locationOf id } _
      (hempty (edgeHash id t.primary.previous))
    rw [Tracing.hitPrimary, hmap, size_record]
    exact h.size
  previous_lt := by
    have hprevious : (t.hitPrimary d id).primary.previous = locationOf id :=
      congrArg TraceState.previous (primary_write _ _ _)
    rw [hprevious]
    exact toNat_locationOf_lt id

end Tracing

end BranchCoverage
