/-
The layout of a body with probes.

Code woven into a list of instructions makes each of them a stretch: what is
in front of it, and the instruction itself.  An instruction then stands at its
`home` (`getElem?_weave_home`), between its `entry` and its `home` stands the
code in front of it (`extract_weave`), and the whole is as long as the `entry`
of its end says (`length_weave`).  The second half reads this for
`MethodBody.probed`.
-/
import BranchCoverage.Proofs.Insertion.Probed
import BranchCoverage.Proofs.Probe.Code

namespace BranchCoverage.MethodBody

/-! ### Identifiers of sites -/

variable {sites : List Nat} {ids : List UInt32} {i k : Nat}

theorem lookup_zip_of_notMem (h : i ∉ sites) : (sites.zip ids).lookup i = none := by
  refine List.lookup_eq_none_iff.mpr fun p hp => ?_
  have hne : i ≠ p.1 := fun heq => h (heq ▸ (List.of_mem_zip hp).1)
  simpa using hne

/-- The identifier of a site is the one drawn in its turn. -/
theorem lookup_zip (hnodup : sites.Nodup) {n : Nat} (h : sites[n]? = some i) :
    (sites.zip ids).lookup i = ids[n]? := by
  induction sites generalizing ids n with
  | nil => cases h
  | cons s rest ih =>
    obtain ⟨hs, hrest⟩ := List.nodup_cons.mp hnodup
    cases ids with
    | nil => simp
    | cons id ids =>
      -- the site of the head has the first identifier, and no other site is it
      cases n with
      | zero =>
        obtain rfl : s = i := by simpa using h
        simp
      | succ n =>
        have hi : rest[n]? = some i := h
        have hne : ¬ i = s := fun heq => hs (heq ▸ List.mem_of_getElem? hi)
        rw [List.zip_cons_cons, List.lookup_cons, beq_false_of_ne hne]
        exact ih hrest hi

theorem exists_lookup_zip (hnodup : sites.Nodup) (hlen : ids.length = sites.length)
    (h : i ∈ sites) : ∃ id ∈ ids, (sites.zip ids).lookup i = some id := by
  obtain ⟨n, hn⟩ := List.mem_iff_getElem?.mp h
  have hlt : n < ids.length := hlen ▸ (List.getElem?_eq_some_iff.mp hn).1
  refine ⟨ids[n], List.getElem_mem hlt, ?_⟩
  rw [lookup_zip hnodup hn, List.getElem?_eq_getElem hlt]

/-! ### Stretches of woven code -/

/-- The code in front of an instruction. -/
def front (code : UInt32 → List Instruction) (ids : List (Nat × UInt32)) (index : Nat) :
    List Instruction :=
  match ids.lookup index with
  | some id => code id
  | none => []

theorem weave_eq (code : UInt32 → List Instruction) (ids : List (Nat × UInt32))
    (xs : List Instruction) :
    weave code ids xs = xs.zipIdx.flatMap fun p => front code ids p.2 ++ [p.1] := by
  rw [weave]
  refine congrArg (fun piece => xs.zipIdx.flatMap piece) (funext fun p => ?_)
  show (match ids.lookup p.2 with | some id => code id ++ [p.1] | none => [p.1]) = _
  rw [front]
  cases ids.lookup p.2 <;> rfl

section

variable {code : UInt32 → List Instruction} {gap : Nat} {xs : List Instruction}
  (hnodup : sites.Nodup) (hlen : ids.length = sites.length)
  (hcode : ∀ id, (code id).length = gap)

include hnodup hlen hcode

theorem length_front (i : Nat) :
    entry sites gap i + (front code (sites.zip ids) i).length = home sites gap i := by
  rw [front]
  by_cases h : i ∈ sites
  · obtain ⟨id, -, hid⟩ := exists_lookup_zip hnodup hlen h
    rw [hid, home_of_mem hnodup h, hcode]
  · rw [lookup_zip_of_notMem h, home_of_notMem h]
    rfl

theorem length_stretches (xs : List Instruction) (n : Nat) :
    entry sites gap n
        + ((xs.zipIdx n).flatMap fun p => front code (sites.zip ids) p.2 ++ [p.1]).length
      = entry sites gap (n + xs.length) := by
  induction xs generalizing n with
  | nil => rfl
  | cons x rest ih =>
    have hfront := length_front hnodup hlen hcode n
    have hrest := ih (n + 1)
    rw [entry_succ] at hrest
    have hnext : n + (rest.length + 1) = n + 1 + rest.length := by omega
    simp only [List.zipIdx_cons, List.flatMap_cons, List.length_append, List.length_cons,
      List.length_nil]
    rw [hnext, ← hrest]
    omega

theorem length_weave :
    (weave code (sites.zip ids) xs).length = entry sites gap xs.length := by
  have h := length_stretches hnodup hlen hcode xs 0
  rw [entry_zero, Nat.zero_add, Nat.zero_add] at h
  rw [weave_eq, h]

/-- The stretch of an instruction begins at its `entry`. -/
theorem weave_split {x : Instruction} (h : xs[i]? = some x) :
    ∃ before after, weave code (sites.zip ids) xs
        = before ++ (front code (sites.zip ids) i ++ x :: after) ∧
      before.length = entry sites gap i := by
  obtain ⟨hi, rfl⟩ := List.getElem?_eq_some_iff.mp h
  have htake : (xs.take i).length = i := List.length_take_of_le (Nat.le_of_lt hi)
  have hsplit : xs = xs.take i ++ xs[i] :: xs.drop (i + 1) := by
    rw [← List.drop_eq_getElem_cons hi, List.take_append_drop]
  refine ⟨weave code (sites.zip ids) (xs.take i),
    ((xs.drop (i + 1)).zipIdx (i + 1)).flatMap fun p => front code (sites.zip ids) p.2 ++ [p.1],
    ?_, ?_⟩
  · rw [weave_eq, weave_eq]
    conv => lhs; rw [hsplit]
    rw [List.zipIdx_append, List.flatMap_append, List.zipIdx_cons, List.flatMap_cons, htake,
      Nat.zero_add, List.append_assoc, List.singleton_append]
  · rw [length_weave hnodup hlen hcode, htake]

/-- An instruction stands at its `home`. -/
theorem getElem?_weave_home (i : Nat) :
    (weave code (sites.zip ids) xs)[home sites gap i]? = xs[i]? := by
  rcases h : xs[i]? with - | x
  · rw [List.getElem?_eq_none_iff] at h ⊢
    rw [length_weave hnodup hlen hcode]
    exact within_home.entry_le_iff.mpr h
  · obtain ⟨before, after, hweave, hbefore⟩ := weave_split hnodup hlen hcode h
    rw [hweave, ← length_front hnodup hlen hcode i, ← hbefore,
      List.getElem?_append_right (Nat.le_add_right _ _), Nat.add_sub_cancel_left,
      List.getElem?_append_right (Nat.le_refl _), Nat.sub_self]
    rfl

/-- Between the `entry` and the `home` of an instruction stands the code in
front of it. -/
theorem extract_weave (hi : i < xs.length) :
    (weave code (sites.zip ids) xs).extract (entry sites gap i) (home sites gap i)
      = front code (sites.zip ids) i := by
  obtain ⟨before, after, hweave, hbefore⟩ :=
    weave_split hnodup hlen hcode (List.getElem?_eq_getElem hi)
  have hfront := length_front hnodup hlen hcode i
  rw [List.extract_eq_take_drop, hweave, ← hbefore, List.drop_left,
    show home sites gap i - before.length = (front code (sites.zip ids) i).length by omega,
    List.take_left]

end

/-! ### Bodies with probes -/

variable {b : MethodBody} {probe : Probe} {method : String}

/-- The new index of the first instruction that stands for an instruction: of
its probe, if it has one. -/
abbrev entryOf (b : MethodBody) (probe : Probe) (index : Nat) : Nat :=
  entry b.branchSites probe.length index

/-- The new index of an instruction itself. -/
abbrev homeOf (b : MethodBody) (probe : Probe) (index : Nat) : Nat :=
  home b.branchSites probe.length index

/-- The new index `k` is in the stretch of the instruction `i`. -/
abbrev WithinOf (b : MethodBody) (probe : Probe) (i k : Nat) : Prop :=
  Within b.branchSites probe.length i k

/-- The instruction whose stretch begins at a new index, if there is one. -/
def origin (b : MethodBody) (probe : Probe) (k : Nat) : Option Nat :=
  (List.range (b.length + 1)).find? fun i => b.entryOf probe i = k

theorem origin_entryOf (hi : i ≤ b.length) : b.origin probe (b.entryOf probe i) = some i := by
  rcases h : b.origin probe (b.entryOf probe i) with - | j
  · rw [origin, List.find?_eq_none] at h
    exact absurd (decide_eq_true rfl) (h i (List.mem_range.mpr (Nat.lt_succ_of_le hi)))
  · have hj : b.entryOf probe j = b.entryOf probe i := by simpa using List.find?_some h
    rw [(entry_inj _ _).mp hj]

theorem origin_eq_none (hw : b.WithinOf probe i k) (hne : k ≠ b.entryOf probe i) :
    b.origin probe k = none := by
  rw [origin, List.find?_eq_none]
  intro j _ hj
  obtain rfl : b.entryOf probe j = k := by simpa using hj
  exact hne (hw.eq_of_entry ▸ rfl)

section

variable (hlen : ids.length = b.branchSites.length)

include hlen

/-- The end of the body has moved to the end of the new body. -/
theorem length_probed : (b.probed probe method ids).length = b.entryOf probe b.length := by
  rw [length, probed,
    length_weave b.nodup_branchSites hlen fun id => probe.length_code id method,
    List.length_map, length]

/-- An instruction stands at its `home`, with its targets moved. -/
theorem getElem?_probed_home (probe : Probe) (method : String) (i : Nat) :
    (b.probed probe method ids).instructions[b.homeOf probe i]?
      = b.instructions[i]?.map (Instruction.retarget (b.entryOf probe)) := by
  rw [probed, homeOf,
    getElem?_weave_home b.nodup_branchSites hlen fun id => probe.length_code id method,
    List.getElem?_map]

/-- In front of a site stands the code of its probe. -/
theorem extract_probed {id : UInt32} (hi : i < b.length)
    (hid : (b.branchSites.zip ids).lookup i = some id) :
    (b.probed probe method ids).instructions.extract (b.entryOf probe i) (b.homeOf probe i)
      = probe.code id method := by
  have hmap : i < (b.instructions.map (Instruction.retarget (b.entryOf probe))).length := by
    rw [List.length_map]
    exact hi
  rw [probed, entryOf, homeOf,
    extract_weave b.nodup_branchSites hlen (fun id => probe.length_code id method) hmap, front,
    hid]

/-- A site has a probe in front of it. -/
theorem probe_of_isSite (hv : b.Valid) (probe : Probe) (method : String) (hsite : b.IsSite i) :
    b.entryOf probe i < b.homeOf probe i ∧ ∃ id,
      (b.probed probe method ids).instructions.extract (b.entryOf probe i) (b.homeOf probe i)
        = probe.code id method := by
  have hmem := (mem_branchSites_iff hv).mpr hsite
  have hhome : b.homeOf probe i = b.entryOf probe i + probe.length :=
    home_of_mem b.nodup_branchSites hmem
  obtain ⟨id, -, hid⟩ := exists_lookup_zip b.nodup_branchSites hlen hmem
  refine ⟨?_, id, extract_probed hlen (lt_length_of_mem hv hmem) hid⟩
  have := probe.length_pos
  omega

/-- In front of an instruction stands the code for its identifier, if it has
one. -/
theorem extract_probed_eq_front (hv : b.Valid) (i : Nat) :
    (b.probed probe method ids).instructions.extract (b.entryOf probe i) (b.homeOf probe i)
      = front (probe.code · method) (b.branchSites.zip ids) i := by
  by_cases hsite : i ∈ b.branchSites
  · obtain ⟨id, -, hid⟩ := exists_lookup_zip b.nodup_branchSites hlen hsite
    rw [extract_probed hlen (lt_length_of_mem hv hsite) hid, front, hid]
  · have hhome : b.homeOf probe i = b.entryOf probe i := home_of_notMem hsite
    rw [hhome, front, lookup_zip_of_notMem hsite, List.extract_eq_take_drop, Nat.sub_self]
    rfl

/-- What stands between the `entry` and the `home` of an instruction is code of
a probe. -/
theorem exists_mem_code (method : String) (hw : b.WithinOf probe i k) (hi : i < b.length)
    (hk : k < b.homeOf probe i) :
    ∃ id, ∃ instruction ∈ probe.code id method,
      (b.probed probe method ids).instructions[k]? = some instruction := by
  have hle : b.entryOf probe i ≤ k := hw.entry_le
  have hsite : i ∈ b.branchSites := hw.mem hk
  obtain ⟨id, -, hid⟩ := exists_lookup_zip b.nodup_branchSites hlen hsite
  refine ⟨id, ?_⟩
  have hextract : (b.probed probe method ids).instructions.extract (b.entryOf probe i)
      (b.homeOf probe i) = probe.code id method := extract_probed hlen hi hid
  have hhome : b.homeOf probe i = b.entryOf probe i + probe.length :=
    home_of_mem b.nodup_branchSites hsite
  have hlt : k - b.entryOf probe i < (probe.code id method).length := by
    rw [probe.length_code]
    omega
  refine ⟨_, List.getElem_mem hlt, ?_⟩
  rw [← List.getElem?_eq_getElem hlt, ← hextract, List.extract_eq_take_drop,
    List.getElem?_take_of_lt (by omega), List.getElem?_drop, Nat.add_sub_cancel' hle]

/-- Instructions of the new body are code of a probe or moved instructions. -/
theorem getElem?_probed_cases {instruction : Instruction}
    (h : (b.probed probe method ids).instructions[k]? = some instruction) :
    ∃ i < b.length, b.WithinOf probe i k ∧
      ((k < b.homeOf probe i ∧ ∃ id, instruction ∈ probe.code id method) ∨
        (k = b.homeOf probe i ∧ ∃ old, b.instructions[i]? = some old ∧
          instruction = old.retarget (b.entryOf probe))) := by
  obtain ⟨i, hw⟩ := exists_within b.branchSites probe.length k
  have hi : i < b.length := by
    have hk := (List.getElem?_eq_some_iff.mp h).1
    rw [← length, length_probed hlen] at hk
    exact hw.lt_entry_iff.mp hk
  refine ⟨i, hi, hw, ?_⟩
  rcases Nat.lt_or_eq_of_le hw.le_home with hlt | heq
  · obtain ⟨id, code, hmem, hcode⟩ := exists_mem_code hlen method hw hi hlt
    rw [h] at hcode
    obtain rfl := Option.some.inj hcode
    exact .inl ⟨hlt, id, hmem⟩
  · right
    rw [heq, getElem?_probed_home hlen probe method] at h
    obtain ⟨old, hold, rfl⟩ := Option.map_eq_some_iff.mp h
    exact ⟨heq, old, hold, rfl⟩

/-! ### Validity is kept -/

/-- **Probes keep a body valid**: every index still has its place. -/
theorem Valid.probed (hv : b.Valid) : (b.probed probe method ids).Valid where
  target_lt := by
    intro instruction hmem t ht
    obtain ⟨k, hk⟩ := List.mem_iff_getElem?.mp hmem
    obtain ⟨i, hi, hw, ⟨-, id, hcode⟩ | ⟨-, old, hold, rfl⟩⟩ := getElem?_probed_cases hlen hk
    · -- the code of a probe has no targets
      rw [(Probe.straight_of_mem_code hcode).2] at ht
      cases ht
    · rw [Instruction.targets_retarget] at ht
      obtain ⟨t, htold, rfl⟩ := List.mem_map.mp ht
      rw [length_probed hlen]
      exact entry_lt_entry _ _ (hv.target_lt old (List.mem_of_getElem? hold) t htold)
  proper := by
    intro h hmem
    obtain ⟨old, hold, rfl⟩ := List.mem_map.mp hmem
    rw [length_probed hlen]
    exact (hv.proper old hold).reindex _ _

end

end BranchCoverage.MethodBody
