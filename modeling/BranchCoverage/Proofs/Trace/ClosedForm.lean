/-
What hits leave of a map, cell by cell and bit by bit.

Each hit is hashed with the one before it, so the cell that it falls into depends on
both.  But the hashes of a row of hits are known in advance (`hashesFrom_eq_zipWith`),
and then the map is a fold over them (`recordAll_eq_foldl`) in which the previous
location is no longer met.  With counters every cell counts the hashes that fall into
it (`counted_foldl`), and with bits every bit tells whether some hash falls on it
(`marked_foldl`).  An account of bits knows the hashes as a set (`Marked.unique`).
-/
import BranchCoverage.Proofs.Stack.Word
import BranchCoverage.Proofs.Trace.Recording

namespace BranchCoverage

/-! ### Masks are remainders -/

namespace Word

theorem toNat_and_mapMask (x : UInt32) : (x &&& mapMask).toNat = x.toNat % mapSize := by
  rw [UInt32.toNat_and]
  exact Nat.and_two_pow_sub_one_eq_mod x.toNat 16

theorem toNat_and_seven (x : UInt32) : (x &&& 7).toNat = x.toNat % 8 := by
  rw [UInt32.toNat_and]
  exact Nat.and_two_pow_sub_one_eq_mod x.toNat 3

/-- A byte with one more bit has that bit, and otherwise those that it had. -/
theorem testBit_or_bit (byte : UInt8) {bit : UInt8} (hbit : bit.toNat < 8) (i : Nat) :
    (byte ||| 1 <<< bit).toNat.testBit i ↔ byte.toNat.testBit i ∨ bit.toNat = i := by
  have hpow : (1 <<< bit : UInt8).toNat = 2 ^ bit.toNat := by
    have hlt : 2 ^ bit.toNat < 2 ^ 8 := Nat.pow_lt_pow_right (by decide) hbit
    rw [UInt8.toNat_shiftLeft, Nat.mod_eq_of_lt hbit, Nat.shiftLeft_eq]
    exact (congrArg (· % 2 ^ 8) (Nat.one_mul _)).trans (Nat.mod_eq_of_lt hlt)
  rw [UInt8.toNat_or, Nat.testBit_or, hpow, Nat.testBit_two_pow, Bool.or_eq_true, decide_eq_true_eq]

/-- A byte is known by its bits. -/
theorem byte_ext {x y : UInt8} (h : ∀ i, x.toNat.testBit i ↔ y.toNat.testBit i) : x = y := by
  apply UInt8.toNat_inj.mp
  apply Nat.eq_of_testBit_eq
  intro i
  exact Bool.eq_iff_iff.mpr (h i)

end Word

/-! ### Hashes of a row of hits -/

/-- The hash of a hit is made with the location that the hit before it left, the first
one with the location at the start. -/
theorem hashesFrom_eq_zipWith (previous : UInt32) (ids : List UInt32) :
    hashesFrom previous ids = List.zipWith edgeHash ids (previous :: ids.map locationOf) := by
  induction ids generalizing previous with
  | nil => rfl
  | cons id rest ih =>
    rw [hashesFrom, ih]
    rfl

/-- The location that a row of hits leaves is that of the last one. -/
theorem foldl_locationOf (previous : UInt32) (ids : List UInt32) :
    ids.foldl (fun _ id => locationOf id) previous = (ids.map locationOf).getLastD previous := by
  induction ids generalizing previous with
  | nil => rfl
  | cons id rest ih =>
    rw [List.foldl_cons, ih, List.map_cons, List.getLastD_cons]

namespace Discipline

/-- With the hashes known, nothing depends on locations any more. -/
theorem recordAll_eq_foldl (d : Discipline) (previous : UInt32) (ids : List UInt32)
    (map : CoverageMap) :
    d.recordAll previous ids map
      = (hashesFrom previous ids).foldl (fun map hash => d.record hash map) map := by
  induction ids generalizing previous map with
  | nil => rfl
  | cons id rest ih => exact ih _ _

end Discipline

/-! ### Counters -/

/-- Every cell of a map has grown by the number of hashes that fall into it, and
wraps. -/
structure Counted (hashes : List UInt32) (map map' : CoverageMap) : Prop where
  size : map'.size = map.size
  cell : ∀ (k : Nat) (x : UInt8), map[k]? = some x → ∃ y, map'[k]? = some y ∧
    y.toNat = (x.toNat + hashes.countP fun hash => hash.toNat % mapSize = k) % 256

theorem counted_record (hash : UInt32) (map : CoverageMap) :
    Counted [hash] map (Discipline.counter.record hash map) where
  size := Tracing.size_record .counter hash map
  cell := by
    intro k x hx
    show ∃ y, (map.modify (hash &&& mapMask).toNat (· + 1))[k]? = some y ∧ _
    rw [Array.getElem?_modify, Word.toNat_and_mapMask, hx, List.countP_singleton]
    by_cases hk : hash.toNat % mapSize = k
    · simp only [hk, if_true, decide_true]
      exact ⟨x + 1, rfl, UInt8.toNat_add x 1⟩
    · simp only [hk, if_false, decide_false, Bool.false_eq_true, Nat.add_zero]
      exact ⟨x, rfl, (Nat.mod_eq_of_lt x.toNat_lt).symm⟩

theorem Counted.trans {first second : List UInt32} {map map' map'' : CoverageMap}
    (h : Counted first map map') (h' : Counted second map' map'') :
    Counted (first ++ second) map map'' where
  size := h'.size.trans h.size
  cell := by
    intro k x hx
    obtain ⟨y, hy, hcount⟩ := h.cell k x hx
    obtain ⟨z, hz, hcount'⟩ := h'.cell k y hy
    refine ⟨z, hz, ?_⟩
    -- wrapping in between makes no difference
    rw [hcount', hcount, List.countP_append, Nat.mod_add_mod, Nat.add_assoc]

/-- **A cell counts the hashes that fall into it.** -/
theorem counted_foldl (hashes : List UInt32) (map : CoverageMap) :
    Counted hashes map (hashes.foldl (fun map hash => Discipline.counter.record hash map) map) := by
  induction hashes generalizing map with
  | nil =>
    refine ⟨rfl, ?_⟩
    intro k x hx
    exact ⟨x, hx, (Nat.mod_eq_of_lt x.toNat_lt).symm⟩
  | cons hash rest ih => exact (counted_record hash map).trans (ih _)

/-! ### Bits -/

/-- The cell and the bit in it that a hash falls on. -/
def markOf (hash : UInt32) : Nat × Nat :=
  ((hash >>> 4).toNat % mapSize, hash.toNat % 8)

/-- A bit of a map is set if it was set before or some hash falls on it. -/
structure Marked (hashes : List UInt32) (map map' : CoverageMap) : Prop where
  size : map'.size = map.size
  bit : ∀ (k : Nat) (x : UInt8), map[k]? = some x → ∃ y, map'[k]? = some y ∧
    ∀ i, y.toNat.testBit i ↔ x.toNat.testBit i ∨ ∃ hash ∈ hashes, markOf hash = (k, i)

theorem marked_record (hash : UInt32) (map : CoverageMap) :
    Marked [hash] map (Discipline.bitset.record hash map) where
  size := Tracing.size_record .bitset hash map
  bit := by
    intro k x hx
    have hbit : (hash &&& 7).toUInt8.toNat = hash.toNat % 8 := by
      rw [UInt32.toNat_toUInt8, Word.toNat_and_seven]
      omega
    show ∃ y, (map.modify ((hash >>> 4) &&& mapMask).toNat
      (· ||| 1 <<< (hash &&& 7).toUInt8))[k]? = some y ∧ _
    rw [Array.getElem?_modify, Word.toNat_and_mapMask, hx]
    by_cases hk : (hash >>> 4).toNat % mapSize = k
    · rw [if_pos hk]
      refine ⟨_, rfl, ?_⟩
      intro i
      rw [Word.testBit_or_bit x (by omega) i, hbit]
      simp only [List.mem_singleton, exists_eq_left, markOf, hk, Prod.mk.injEq, true_and]
    · rw [if_neg hk]
      refine ⟨x, rfl, ?_⟩
      intro i
      simp only [List.mem_singleton, exists_eq_left, markOf, hk, Prod.mk.injEq, false_and, or_false]

theorem Marked.trans {first second : List UInt32} {map map' map'' : CoverageMap}
    (h : Marked first map map') (h' : Marked second map' map'') :
    Marked (first ++ second) map map'' where
  size := h'.size.trans h.size
  bit := by
    intro k x hx
    obtain ⟨y, hy, hbits⟩ := h.bit k x hx
    obtain ⟨z, hz, hbits'⟩ := h'.bit k y hy
    refine ⟨z, hz, ?_⟩
    intro i
    rw [hbits' i, hbits i, or_assoc]
    simp only [List.mem_append, or_and_right, exists_or]

/-- **A bit tells whether a hash falls on it.** -/
theorem marked_foldl (hashes : List UInt32) (map : CoverageMap) :
    Marked hashes map (hashes.foldl (fun map hash => Discipline.bitset.record hash map) map) := by
  induction hashes generalizing map with
  | nil =>
    refine ⟨rfl, ?_⟩
    intro k x hx
    refine ⟨x, hx, ?_⟩
    intro i
    simp
  | cons hash rest ih => exact (marked_record hash map).trans (ih _)

/-- Two maps that have the same bits by two such accounts are the same. -/
theorem Marked.unique {hashes hashes' : List UInt32} {map map' map'' : CoverageMap}
    (h : Marked hashes map map') (h' : Marked hashes' map map'')
    (hsame : ∀ hash, hash ∈ hashes ↔ hash ∈ hashes') : map' = map'' := by
  apply Array.ext_getElem?
  intro k
  rcases hx : map[k]? with - | x
  · -- the maps end together
    have hk : map.size ≤ k := Array.getElem?_eq_none_iff.mp hx
    have hend : map'.size ≤ k := h.size ▸ hk
    have hend' : map''.size ≤ k := h'.size ▸ hk
    rw [Array.getElem?_eq_none hend, Array.getElem?_eq_none hend']
  · obtain ⟨y, hy, hbits⟩ := h.bit k x hx
    obtain ⟨z, hz, hbits'⟩ := h'.bit k x hx
    have hyz : y = z := by
      apply Word.byte_ext
      intro i
      rw [hbits i, hbits' i]
      simp only [hsame]
    rw [hy, hz, hyz]

/-- Hashes that have fallen on a map before change nothing. -/
theorem Marked.again {hashes more : List UInt32} {map map' map'' : CoverageMap}
    (h : Marked hashes map map') (h' : Marked more map' map'')
    (hseen : ∀ hash ∈ more, hash ∈ hashes) : map'' = map' := by
  refine (h.trans h').unique h ?_
  intro hash
  rw [List.mem_append, or_iff_left_of_imp (hseen hash)]

/-- Two hashes fall on the same bit when they differ at most in bit 3, which neither
the cell nor the place in it is made from. -/
theorem markOf_eq_iff {hash hash' : UInt32} (h : hash.toNat < 2 ^ 20) (h' : hash'.toNat < 2 ^ 20) :
    markOf hash = markOf hash' ↔
      ∀ i, i ≠ 3 → (hash.toNat.testBit i ↔ hash'.toNat.testBit i) := by
  have hcell : ∀ {x : UInt32}, x.toNat < 2 ^ 20 → (x >>> 4).toNat % mapSize = x.toNat / 2 ^ 4 := by
    intro x hx
    have hshift : (x >>> 4).toNat = x.toNat / 2 ^ 4 := by
      rw [UInt32.toNat_shiftRight]
      exact Nat.shiftRight_eq_div_pow x.toNat 4
    have hsize : mapSize = 2 ^ 16 := rfl
    rw [hshift, hsize]
    omega
  rw [markOf, markOf, hcell h, hcell h', Prod.mk.injEq]
  constructor
  · rintro ⟨hhigh, hlow⟩ i hi
    rcases Nat.lt_or_ge i 3 with hlt | hge
    · have hbits := congrArg (Nat.testBit · i) hlow
      have hlow : ∀ x : Nat, (x % 8).testBit i = x.testBit i := by
        intro x
        rw [show 8 = 2 ^ 3 from rfl, Nat.testBit_mod_two_pow, decide_eq_true hlt, Bool.true_and]
      simp only [hlow] at hbits
      rw [hbits]
    · have hbits := congrArg (Nat.testBit · (i - 4)) hhigh
      have hplace : i - 4 + 4 = i := by omega
      simp only [Nat.testBit_div_two_pow, hplace] at hbits
      rw [hbits]
  · intro hbits
    constructor
    · apply Nat.eq_of_testBit_eq
      intro i
      rw [Nat.testBit_div_two_pow, Nat.testBit_div_two_pow]
      exact Bool.eq_iff_iff.mpr (hbits (i + 4) (by omega))
    · apply Nat.eq_of_testBit_eq
      intro i
      rw [show 8 = 2 ^ 3 from rfl, Nat.testBit_mod_two_pow, Nat.testBit_mod_two_pow]
      by_cases hi : i < 3
      · rw [Bool.eq_iff_iff.mpr (hbits i (by omega))]
      · rw [decide_eq_false hi, Bool.false_and, Bool.false_and]

/-! ### Closed form -/

namespace Burst

/-- The location that the hits leave. -/
def last (b : Burst) : UInt32 :=
  (b.ids.map locationOf).getLastD b.previous

/-- What the hits leave, as a function of their hashes. -/
structure Closed (b : Burst) (map : CoverageMap) : Prop where
  /-- A hash is made of an identifier and the location before it. -/
  hashes : b.hashes = List.zipWith edgeHash b.ids (b.previous :: b.ids.map locationOf)
  /-- Whatever state makes the hits, it leaves this location and these maps. -/
  written : ∀ (d : Discipline) (t : Tracing) (copy : Option Nat), t.Writes copy b.previous map →
    (t.hitEach copy d b.ids).Writes copy b.last (b.recordOn d map)
  counter : Counted b.hashes map (b.recordOn .counter map)
  bitset : Marked b.hashes map (b.recordOn .bitset map)
  /-- Bits know the hashes as a set. -/
  unordered : ∀ b' : Burst, (∀ hash, hash ∈ b'.hashes ↔ hash ∈ b.hashes) →
    b'.recordOn .bitset map = b.recordOn .bitset map
  /-- Bits that have been set stay as they are. -/
  again : ∀ b' : Burst, (∀ hash ∈ b'.hashes, hash ∈ b.hashes) →
    b'.recordOn .bitset (b.recordOn .bitset map) = b.recordOn .bitset map
  /-- Below `2 ^ 20` hashes are told apart but for bit 3. -/
  told : ∀ hash hash' : UInt32, hash.toNat < 2 ^ 20 → hash'.toNat < 2 ^ 20 →
    (markOf hash = markOf hash' ↔
      ∀ i, i ≠ 3 → (hash.toNat.testBit i ↔ hash'.toNat.testBit i))

theorem counted_recordOn (b : Burst) (map : CoverageMap) :
    Counted b.hashes map (b.recordOn .counter map) := by
  rw [recordOn, Discipline.recordAll_eq_foldl]
  exact counted_foldl b.hashes map

theorem marked_recordOn (b : Burst) (map : CoverageMap) :
    Marked b.hashes map (b.recordOn .bitset map) := by
  rw [recordOn, Discipline.recordAll_eq_foldl]
  exact marked_foldl b.hashes map

/-- **The map after hits is a function of the map before and of their hashes**, a
count in every cell or a set of bits, whatever state they are hits of. -/
theorem closed_recordOn (b : Burst) (map : CoverageMap) : b.Closed map where
  hashes := hashesFrom_eq_zipWith b.previous b.ids
  written := by
    intro d t copy h
    rw [last, ← foldl_locationOf]
    exact h.hitEach d b.ids
  counter := b.counted_recordOn map
  bitset := b.marked_recordOn map
  unordered := by
    intro b' hsame
    exact (b'.marked_recordOn map).unique (b.marked_recordOn map) hsame
  again := by
    intro b' hseen
    exact (b.marked_recordOn map).again (b'.marked_recordOn _) hseen
  told := fun _ _ => markOf_eq_iff

example : (⟨0, [5, 7, 5]⟩ : Burst).hashes = [5, 5, 6] := by decide

end Burst

end BranchCoverage
