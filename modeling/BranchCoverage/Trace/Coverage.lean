/-
Coverage maps, and the two disciplines of recording an edge in one.

The counter discipline adds one to a byte, which wraps.  The bitset discipline
sets a bit, so recording an edge again changes nothing.
-/
namespace BranchCoverage

/-- The number of cells of a coverage map. -/
def mapSize : Nat := 1 <<< 16

/-- The greatest index of a cell. -/
def mapMask : UInt32 := UInt32.ofNat (mapSize - 1)

/-- A coverage map, one byte a cell. -/
abbrev CoverageMap := Array UInt8

namespace CoverageMap

/-- The map with nothing recorded. -/
def zero : CoverageMap :=
  Array.replicate mapSize 0

/-- Adds one to a cell. -/
def bump (map : CoverageMap) (cell : Nat) : CoverageMap :=
  map.modify cell (· + 1)

/-- Sets a bit of a cell. -/
def mark (map : CoverageMap) (cell : Nat) (bit : UInt8) : CoverageMap :=
  map.modify cell (· ||| (1 <<< bit))

/-- Two maps added cell by cell. -/
def add (map other : CoverageMap) : CoverageMap :=
  Array.zipWith (· + ·) map other

end CoverageMap

/-- How an edge is recorded. -/
inductive Discipline where
  | counter
  | bitset
  deriving DecidableEq

namespace Discipline

/-- Records the edge with the given hash. -/
def record (d : Discipline) (hash : UInt32) (map : CoverageMap) : CoverageMap :=
  match d with
  | .counter => map.bump (hash &&& mapMask).toNat
  | .bitset => map.mark ((hash >>> 4) &&& mapMask).toNat (hash &&& 7).toUInt8

end Discipline

/-- The hash of the edge from the previous location to a site. -/
def edgeHash (id previous : UInt32) : UInt32 :=
  id ^^^ previous

/-- The previous location that a site leaves behind. -/
def locationOf (id : UInt32) : UInt32 :=
  id >>> 1

end BranchCoverage
