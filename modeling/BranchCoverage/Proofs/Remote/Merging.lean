/-
Merging maps, and recording locally what was recorded elsewhere.

Merging adds maps cell by cell.  That is how maps of counters are combined, so a
merged map is the one that the hits would have made locally, and merging several
takes no notice of their order (`mergeAll_perm`): `merges_counter`.

Maps of bits are combined by uniting them.  A sum of bytes is their union only
where they have no bit in common (`add_eq_or_iff`), so with the other discipline
merging is recording exactly when the local map shows none of the edges that were
hit elsewhere (`merges_bitset`).  An edge that was seen on both sides is merged
into the bit of another edge (`merge_seen_twice`).
-/
import BranchCoverage.Proofs.Remote.Accounts
import BranchCoverage.Proofs.Stack.Word
import BranchCoverage.Proofs.Trace.Recording

namespace BranchCoverage

/-! ### Sums and unions -/

/-- The sum of two bytes is their union and, once more, what they have in common. -/
theorem add_eq_or_add_and (x y : UInt8) : x + y = (x ||| y) + (x &&& y) := by
  apply UInt8.toBitVec_inj.mp
  rw [UInt8.toBitVec_add, UInt8.toBitVec_add, UInt8.toBitVec_or, UInt8.toBitVec_and]
  generalize x.toBitVec = a
  generalize y.toBitVec = b
  -- what `b` adds to `a`, and what it has in common with it, do not overlap
  have hnew : a + (b &&& ~~~a) = a ||| b := by
    rw [BitVec.add_eq_or_of_and_eq_zero]
    all_goals
      ext i
      simp
      grind
  have hsplit : (b &&& ~~~a) + (a &&& b) = b := by
    rw [BitVec.add_eq_or_of_and_eq_zero]
    all_goals
      ext i
      simp
      grind
  calc a + b = a + ((b &&& ~~~a) + (a &&& b)) := by rw [hsplit]
    _ = (a + (b &&& ~~~a)) + (a &&& b) := (BitVec.add_assoc _ _ _).symm
    _ = (a ||| b) + (a &&& b) := by rw [hnew]

theorem add_eq_or_iff (x y : UInt8) : x + y = x ||| y ↔ x &&& y = 0 := by
  rw [add_eq_or_add_and]
  exact UInt8.add_eq_left

theorem and_or_eq_zero_iff (x y z : UInt8) : x &&& (y ||| z) = 0 ↔ x &&& y = 0 ∧ x &&& z = 0 := by
  have hsplit : x &&& (y ||| z) = (x &&& y) ||| (x &&& z) := by
    apply UInt8.toBitVec_inj.mp
    ext i
    simp [Bool.and_or_distrib_left]
  rw [hsplit, UInt8.or_eq_zero_iff]

namespace CoverageMap

variable {map other : CoverageMap}

/-- No bit is set in both maps. -/
def Apart (map other : CoverageMap) : Prop :=
  ∀ (i : Nat) (x y : UInt8), map[i]? = some x → other[i]? = some y → x &&& y = 0

/-- Adding maps is uniting them just when they have no bit in common. -/
theorem add_eq_union_iff : map.add other = map.union other ↔ map.Apart other := by
  have hcell : ∀ i : Nat, (map.add other)[i]? = (map.union other)[i]? ↔
      ∀ x y, map[i]? = some x → other[i]? = some y → x &&& y = 0 := by
    intro i
    rw [add, union, Array.getElem?_zipWith, Array.getElem?_zipWith]
    rcases map[i]? with - | x <;> rcases other[i]? with - | y <;> simp [add_eq_or_iff]
  constructor
  · intro heq i
    exact (hcell i).mp (congrArg (fun sum : CoverageMap => sum[i]?) heq)
  · intro hapart
    exact Array.ext_getElem? fun i => (hcell i).mpr (hapart i)

theorem add_right_comm (map x y : CoverageMap) : (map.add x).add y = (map.add y).add x := by
  refine Array.ext_getElem? fun i => ?_
  rw [add, add, add, add, Array.getElem?_zipWith, Array.getElem?_zipWith, Array.getElem?_zipWith,
    Array.getElem?_zipWith]
  -- a sum ends where the shortest map does, so there is only one case with bytes in it
  rcases map[i]? with - | a <;> rcases x[i]? with - | b <;> rcases y[i]? with - | c
  case some.some.some =>
    have hbytes : a + b + c = a + c + b := by
      rw [UInt8.add_assoc, UInt8.add_comm b c, ← UInt8.add_assoc]
    exact congrArg some hbytes
  all_goals rfl

theorem addAll_perm {others others' : List CoverageMap} (h : others.Perm others')
    (map : CoverageMap) : map.addAll others = map.addAll others' :=
  h.foldl_eq' (fun x _ y _ map => add_right_comm map x y) map

end CoverageMap

/-! ### Bits of edges -/

namespace CoverageMap

variable {map other : CoverageMap}

/-- In a map of bits the one of an edge is set. -/
def Shows (map : CoverageMap) (hash : UInt32) : Prop :=
  ∃ byte, map[((hash >>> 4) &&& mapMask).toNat]? = some byte ∧
    byte &&& 1 <<< (hash &&& 7).toUInt8 ≠ 0

/-- With a bit more, a map is apart from those that do not have this bit. -/
theorem apart_mark {cell : Nat} (h : cell < other.size) (bit : UInt8) :
    map.Apart (other.mark cell bit) ↔
      map.Apart other ∧ ∀ x, map[cell]? = some x → x &&& 1 <<< bit = 0 := by
  have hcell : ∀ y, other[cell]? = some y →
      (other.mark cell bit)[cell]? = some (y ||| 1 <<< bit) := by
    intro y hy
    rw [mark, Array.getElem?_modify, if_pos rfl, hy]
    rfl
  have hrest : ∀ i, cell ≠ i → (other.mark cell bit)[i]? = other[i]? := by
    intro i hi
    rw [mark, Array.getElem?_modify, if_neg hi]
  constructor
  · intro hapart
    have hboth : ∀ x y, map[cell]? = some x → other[cell]? = some y →
        x &&& y = 0 ∧ x &&& 1 <<< bit = 0 :=
      fun x y hx hy => (and_or_eq_zero_iff x y _).mp (hapart cell x _ hx (hcell y hy))
    refine ⟨fun i x y hx hy => ?_, fun x hx => ?_⟩
    · by_cases hi : cell = i
      · subst hi
        exact (hboth x y hx hy).1
      · exact hapart i x y hx ((hrest i hi).trans hy)
    · -- the other map has the cell, or the bit would not have been set
      exact (hboth x _ hx (Array.getElem?_eq_getElem h)).2
  · rintro ⟨hapart, hbit⟩ i x y hx hy
    by_cases hi : cell = i
    · subst hi
      rw [hcell _ (Array.getElem?_eq_getElem h)] at hy
      obtain rfl := Option.some.inj hy
      exact (and_or_eq_zero_iff x _ _).mpr
        ⟨hapart cell x _ hx (Array.getElem?_eq_getElem h), hbit x hx⟩
    · exact hapart i x y hx ((hrest i hi).symm.trans hy)

theorem apart_record (h : other.size = mapSize) (hash : UInt32) :
    map.Apart (Discipline.bitset.record hash other) ↔ map.Apart other ∧ ¬ map.Shows hash := by
  have hcell : ((hash >>> 4) &&& mapMask).toNat < other.size := h ▸ Word.toNat_and_mapMask_lt _
  rw [Discipline.record, apart_mark hcell]
  refine and_congr_right fun _ => ⟨fun hbit => ?_, fun hhidden x hx => ?_⟩
  · rintro ⟨x, hx, hne⟩
    exact hne (hbit x hx)
  · exact Decidable.of_not_not fun hne => hhidden ⟨x, hx, hne⟩

/-- A map is apart from what hits have left as long as it shows none of their edges. -/
theorem apart_recordAll (h : other.size = mapSize) (previous : UInt32) (ids : List UInt32) :
    map.Apart (Discipline.bitset.recordAll previous ids other) ↔
      map.Apart other ∧ ∀ hash ∈ hashesFrom previous ids, ¬ map.Shows hash := by
  induction ids generalizing previous other with
  | nil => exact ⟨fun hapart => ⟨hapart, fun _ hnil => absurd hnil List.not_mem_nil⟩, And.left⟩
  | cons id rest ih =>
    have hsize := (Tracing.size_record .bitset (edgeHash id previous) other).trans h
    rw [Discipline.recordAll, hashesFrom, ih hsize, apart_record h, List.forall_mem_cons, and_assoc]

theorem apart_zero : map.Apart .zero := by
  intro i x y _ hy
  rw [getElem?_zero hy]
  exact UInt8.and_zero

end CoverageMap

/-! ### Merging -/

/-- Merges maps one after another. -/
def mergeAll (map : CoverageMap) (others : List CoverageMap) : Except ProtocolError CoverageMap :=
  others.foldlM merge map

theorem merge_of_size {map other : CoverageMap} (h : other.size = map.size) :
    merge map other = .ok (map.add other) :=
  if_pos h.symm

theorem mergeAll_of_size {map : CoverageMap} {others : List CoverageMap}
    (h : ∀ other ∈ others, other.size = map.size) :
    mergeAll map others = .ok (map.addAll others) := by
  induction others generalizing map with
  | nil => rfl
  | cons other rest ih =>
    obtain ⟨hother, hrest⟩ := List.forall_mem_cons.mp h
    have hsize : ∀ x ∈ rest, x.size = (map.add other).size :=
      fun x hx => (hrest x hx).trans (CoverageMap.size_add hother).symm
    show (merge map other >>= fun map => mergeAll map rest) = _
    rw [merge_of_size hother]
    exact ih hsize

/-- The order of merged maps makes no difference. -/
theorem mergeAll_perm {map : CoverageMap} {others others' : List CoverageMap}
    (hsize : ∀ other ∈ others, other.size = map.size) (h : others'.Perm others) :
    mergeAll map others' = mergeAll map others := by
  have hsize' : ∀ other ∈ others', other.size = map.size :=
    fun other hother => hsize other (h.mem_iff.mp hother)
  rw [mergeAll_of_size hsize, mergeAll_of_size hsize', CoverageMap.addAll_perm h]

/-! ### Merging and recording -/

section

variable {map : CoverageMap}

theorem size_recordOn_zero (b : Burst) (d : Discipline) (h : map.size = mapSize) :
    (b.recordOn d .zero).size = map.size :=
  (b.size_recordOn d .zero).trans (Array.size_replicate.trans h.symm)

/-- Merging what was counted elsewhere is counting locally, burst by burst. -/
theorem mergeAll_recordOn (bursts : List Burst) (h : map.size = mapSize) :
    mergeAll map (bursts.map (·.recordOn .counter .zero))
      = .ok (recordBursts .counter bursts map) := by
  -- a burst meets the map that those before it have left, which is any map of the size
  induction bursts generalizing map with
  | nil => rfl
  | cons b rest ih =>
    have hlocal : b.recordOn .counter map = map.add (b.recordOn .counter .zero) :=
      b.recordOn_eq_combine .counter h
    have hsize : (b.recordOn .counter map).size = mapSize :=
      (b.size_recordOn .counter map).trans h
    show (merge map (b.recordOn .counter .zero) >>= fun map => mergeAll map _)
      = .ok (recordBursts .counter rest (b.recordOn .counter map))
    rw [merge_of_size (size_recordOn_zero b .counter h), ← hlocal]
    exact ih hsize

/-- Merging bits that were set elsewhere is setting them locally just when the map
shows none of their edges. -/
theorem merge_recordOn_iff (b : Burst) (h : map.size = mapSize) :
    merge map (b.recordOn .bitset .zero) = .ok (b.recordOn .bitset map)
      ↔ ∀ hash ∈ b.hashes, ¬ map.Shows hash := by
  have hlocal : b.recordOn .bitset map = map.union (b.recordOn .bitset .zero) :=
    b.recordOn_eq_combine .bitset h
  have hapart : map.Apart (b.recordOn .bitset .zero) ↔ ∀ hash ∈ b.hashes, ¬ map.Shows hash :=
    (CoverageMap.apart_recordAll Array.size_replicate b.previous b.ids).trans
      (and_iff_right CoverageMap.apart_zero)
  rw [merge_of_size (size_recordOn_zero b .bitset h), hlocal, Except.ok.injEq,
    CoverageMap.add_eq_union_iff, hapart]

end

/-- **With counters, merging is recording locally**: for one map, and for several
in any order.  A map of another size is refused, and the local one left alone. -/
theorem merges_counter :
    (∀ (t : Tracing) (copy : Option Nat) (b : Burst) (map : CoverageMap),
      t.Writes copy b.previous map →
        ∃ last, (t.hitEach copy .counter b.ids).Writes copy last (b.recordOn .counter map)) ∧
    (∀ (map : CoverageMap) (b : Burst), map.size = mapSize →
      merge map (b.recordOn .counter .zero) = .ok (b.recordOn .counter map)) ∧
    (∀ (map : CoverageMap) (bursts : List Burst) (remotes : List CoverageMap),
      map.size = mapSize → remotes.Perm (bursts.map (·.recordOn .counter .zero)) →
        mergeAll map remotes = .ok (recordBursts .counter bursts map)) ∧
    (∀ {σ : Type} (r : Relay σ) (report : Report), r.map.size ≠ report.coverage.size →
      Controller.mergeReport report r
        = .error (.agent (.coverageSize r.map.size report.coverage.size)) r) := by
  refine ⟨fun t copy b map h => ⟨_, h.hitEach .counter b.ids⟩, fun map b h => ?_,
    fun map bursts remotes h hperm => ?_, fun r report hne => ?_⟩
  · rw [merge_of_size (size_recordOn_zero b .counter h), b.recordOn_eq_combine .counter h]
    rfl
  · have hsize : ∀ other ∈ bursts.map (·.recordOn .counter .zero), other.size = map.size := by
      intro other hother
      obtain ⟨b, -, rfl⟩ := List.mem_map.mp hother
      exact size_recordOn_zero b .counter h
    rw [mergeAll_perm hsize hperm]
    exact mergeAll_recordOn bursts h
  · rw [Controller.mergeReport, merge, if_neg hne]

/-- Two agents report in the other order than they were asked, and one of them has
a map of the wrong size. -/
theorem twoAgents_merge_counter :
    let near : Burst := ⟨0, [45, 26, 45]⟩
    let far : Burst := ⟨22, [191]⟩
    let map := near.recordOn .counter .zero
    let remotes := [far.recordOn .counter .zero, near.recordOn .counter .zero]
    let r : Relay Nat :=
      { bench := { control := ⟨[], none⟩, inputs := [], memory := 0 }
        link := ⟨⟨[], none⟩, {}⟩
        map := .zero }
    let cut : Report := ⟨0, #[1, 2, 3], ""⟩
    (({} : Tracing).Writes none 0 .zero ∧
      ∃ last, (({} : Tracing).hitEach none .counter near.ids).Writes none last map) ∧
    (map.size = mapSize ∧
      merge map (far.recordOn .counter .zero) = .ok (far.recordOn .counter map)) ∧
    (remotes.Perm ([near, far].map (·.recordOn .counter .zero)) ∧
      mergeAll map remotes = .ok (recordBursts .counter [near, far] map)) ∧
    (r.map.size ≠ cut.coverage.size ∧
      Controller.mergeReport cut r = .error (.agent (.coverageSize mapSize 3)) r) := by
  intro near far map remotes r cut
  have hwrites : ({} : Tracing).Writes none 0 .zero := Tracing.writes_fallback .zero
  have hmap : map.size = mapSize := (near.size_recordOn .counter .zero).trans Array.size_replicate
  have hperm : remotes.Perm ([near, far].map (·.recordOn .counter .zero)) := List.Perm.swap _ _ []
  have hsize : r.map.size = mapSize := Array.size_replicate
  have hne : r.map.size ≠ cut.coverage.size := by
    rw [hsize]
    decide
  obtain ⟨hlocal, hone, hall, hrefused⟩ := merges_counter
  have hrefused := hrefused r cut hne
  rw [hsize] at hrefused
  exact ⟨⟨hwrites, hlocal {} none near .zero hwrites⟩, ⟨hmap, hone map far hmap⟩,
    ⟨hperm, hall map [near, far] remotes hmap hperm⟩, ⟨hne, hrefused⟩⟩

/-- The bit of edge 16 is the first one in cell 1. -/
theorem getElem?_recordOn_sixteen :
    ((⟨0, [16]⟩ : Burst).recordOn .bitset .zero)[1]? = some 1 := by
  have hcell : ((edgeHash 16 0 >>> 4) &&& mapMask).toNat = 1 := by decide
  rw [Burst.recordOn, Discipline.recordAll_singleton, Discipline.record, hcell]
  exact CoverageMap.getElem?_mark_zero (by decide) _

/-- With bits, recording locally is uniting, and merging is recording locally just
when no edge that was hit elsewhere has been seen. -/
theorem merges_bitset {map : CoverageMap} (h : map.size = mapSize) (b : Burst) :
    (∀ (t : Tracing) (copy : Option Nat), t.Writes copy b.previous map →
      ∃ last, (t.hitEach copy .bitset b.ids).Writes copy last (b.recordOn .bitset map)) ∧
    b.recordOn .bitset map = map.union (b.recordOn .bitset .zero) ∧
    merge map (b.recordOn .bitset .zero) = .ok (map.add (b.recordOn .bitset .zero)) ∧
    (merge map (b.recordOn .bitset .zero) = .ok (b.recordOn .bitset map)
      ↔ ∀ hash ∈ b.hashes, ¬ map.Shows hash) :=
  ⟨fun _ _ hwrites => ⟨_, hwrites.hitEach .bitset b.ids⟩, b.recordOn_eq_combine .bitset h,
    merge_of_size (size_recordOn_zero b .bitset h), merge_recordOn_iff b h⟩

/-- Two edges that share a cell and no bit. -/
theorem neighbours_merge_bitset :
    let near : Burst := ⟨0, [16]⟩
    let far : Burst := ⟨0, [17]⟩
    let map := near.recordOn .bitset .zero
    let t : Tracing := { fallback := map }
    map.size = mapSize ∧
      (t.Writes none 0 map ∧
        ∃ last, (t.hitEach none .bitset far.ids).Writes none last (far.recordOn .bitset map)) ∧
      merge map (far.recordOn .bitset .zero) = .ok (far.recordOn .bitset map) := by
  intro near far map t
  have hwrites : t.Writes none 0 map := Tracing.writes_fallback map
  have hsize : map.size = mapSize := (near.size_recordOn .bitset .zero).trans Array.size_replicate
  have hhashes : far.hashes = [17] := by decide
  have hcell : (((17 : UInt32) >>> 4) &&& mapMask).toNat = 1 := by decide
  have hhidden : ∀ hash ∈ far.hashes, ¬ map.Shows hash := by
    rw [hhashes, List.forall_mem_singleton]
    rintro ⟨byte, hbyte, hne⟩
    rw [hcell, getElem?_recordOn_sixteen] at hbyte
    obtain rfl := Option.some.inj hbyte
    exact hne (by decide)
  obtain ⟨hlocal, -, -, hmerge⟩ := merges_bitset hsize far
  exact ⟨hsize, ⟨hwrites, hlocal t none hwrites⟩, hmerge.mpr hhidden⟩

/-- An edge that was seen on both sides is one bit locally, and merged another. -/
theorem merge_seen_twice :
    let b : Burst := ⟨0, [16]⟩
    let map := b.recordOn .bitset .zero
    merge map (b.recordOn .bitset .zero) ≠ .ok (b.recordOn .bitset map) := by
  intro b map hmerge
  have hsize : map.size = mapSize := (b.size_recordOn .bitset .zero).trans Array.size_replicate
  have hhashes : b.hashes = [16] := by decide
  have hcell : (((16 : UInt32) >>> 4) &&& mapMask).toNat = 1 := by decide
  have hshown : map.Shows 16 := by
    refine ⟨1, ?_, by decide⟩
    rw [hcell]
    exact getElem?_recordOn_sixteen
  exact (merge_recordOn_iff b hsize).mp hmerge 16 (hhashes ▸ List.mem_singleton_self 16) hshown

end BranchCoverage
