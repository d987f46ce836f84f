/-
Probes in front of probes.

What begins a site is moved with the instructions, and the code of a probe begins none,
so the sites of a body with probes are the sites of the body without them, each at the
first instruction of its probe (`isSite_probed_iff`, `branchSites_probed`).  A body with
probes may therefore be given probes once more.  Each time it gets as many as the first
time, and after several times its sites are where code of all the lengths together would
have moved them (`entry_map_entry`, `repeats_of_valid`).
-/
import Mathlib.Data.List.Sort
import BranchCoverage.Proofs.Insertion.Layout
import BranchCoverage.Proofs.Identifier.Generator

namespace BranchCoverage.MethodBody

open Identifier (Generator WordSource)

/-! ### Sites of a body with probes -/

section

variable {b : MethodBody} {probe : Probe} {method : String} {ids : List UInt32} {i k : Nat}
  (hlen : ids.length = b.branchSites.length)

include hlen

/-- A site of the old body is one of the new body, at the first instruction of its
probe. -/
theorem IsSite.probed (h : b.IsSite i) :
    (b.probed probe method ids).IsSite (b.entryOf probe i) := by
  cases h with
  | start hne =>
    rw [entryOf, entry_zero]
    refine .start fun hnil => ?_
    have hlength : (b.probed probe method ids).length = b.entryOf probe b.length :=
      length_probed hlen
    rw [length, hnil] at hlength
    have hpos : 0 < b.length := List.length_pos_iff.mpr hne
    have hmoved : b.entryOf probe 0 < b.entryOf probe b.length := entry_lt_entry _ _ hpos
    exact absurd (hlength ▸ hmoved) (Nat.not_lt_zero _)
  | @target instruction t hmem ht =>
    obtain ⟨k, hk⟩ := List.mem_iff_getElem?.mp hmem
    have hnew := getElem?_probed_home hlen probe method k
    rw [hk] at hnew
    refine .target (List.mem_of_getElem? hnew) ?_
    rw [Instruction.targets_retarget]
    exact List.mem_map_of_mem ht
  | @fallThrough k instruction hk hcond hlt =>
    have hnew := getElem?_probed_home hlen probe method k
    rw [hk] at hnew
    have hbound : b.entryOf probe (k + 1) < (b.probed probe method ids).length := by
      rw [length_probed hlen]
      exact entry_lt_entry _ _ hlt
    rw [entryOf, entry_succ] at hbound ⊢
    exact .fallThrough hnew hcond hbound
  | @handler h hmem =>
    exact .handler (h := h.reindex (b.entryOf probe)) (List.mem_map_of_mem hmem)
  | @filter h _ hmem hstart =>
    refine .filter (h := h.reindex (b.entryOf probe)) (List.mem_map_of_mem hmem) ?_
    exact Option.map_eq_some_iff.mpr ⟨i, hstart, rfl⟩

/-- The new body has no other sites: the code of a probe begins none, and every index
that the body holds has been moved to the beginning of what stands for an instruction. -/
theorem IsSite.of_probed (h : (b.probed probe method ids).IsSite k) :
    ∃ i, b.IsSite i ∧ b.entryOf probe i = k := by
  cases h with
  | start hne =>
    refine ⟨0, IsSite.start fun hnil => hne ?_, entry_zero _ _⟩
    have hzero : b.length = 0 := by rw [length, hnil]; rfl
    have hlength : (b.probed probe method ids).length = b.entryOf probe b.length :=
      length_probed hlen
    rw [hzero, entryOf, entry_zero] at hlength
    exact List.eq_nil_iff_length_eq_zero.mpr hlength
  | target hmem ht =>
    obtain ⟨k, hk⟩ := List.mem_iff_getElem?.mp hmem
    obtain ⟨i, -, -, ⟨-, id, hcode⟩ | ⟨-, old, hold, rfl⟩⟩ := getElem?_probed_cases hlen hk
    · rw [(Probe.straight_of_mem_code hcode).2] at ht
      cases ht
    · rw [Instruction.targets_retarget] at ht
      obtain ⟨t, htold, rfl⟩ := List.mem_map.mp ht
      exact ⟨t, .target (List.mem_of_getElem? hold) htold, rfl⟩
  | @fallThrough k _ hk hcond hlt =>
    obtain ⟨i, -, -, ⟨-, id, hcode⟩ | ⟨rfl, old, hold, rfl⟩⟩ := getElem?_probed_cases hlen hk
    · rcases (Probe.straight_of_mem_code hcode).1 with hflow | hflow <;> rw [hflow] at hcond <;>
        cases hcond
    · -- what follows a conditional branch is followed in the old body too
      rw [length_probed hlen, homeOf, ← entry_succ] at hlt
      exact ⟨i + 1, .fallThrough hold hcond ((entry_lt_entry_iff _ _).mp hlt), entry_succ _ _ _⟩
  | handler hmem =>
    obtain ⟨old, hold, rfl⟩ := List.mem_map.mp hmem
    exact ⟨old.handlerStart, .handler hold, rfl⟩
  | filter hmem hstart =>
    obtain ⟨old, hold, rfl⟩ := List.mem_map.mp hmem
    obtain ⟨start, hfilter, rfl⟩ := Option.map_eq_some_iff.mp hstart
    exact ⟨start, .filter hold hfilter, rfl⟩

theorem isSite_probed_iff :
    (b.probed probe method ids).IsSite k ↔ ∃ i, b.IsSite i ∧ b.entryOf probe i = k := by
  refine ⟨IsSite.of_probed hlen, ?_⟩
  rintro ⟨i, hi, rfl⟩
  exact hi.probed hlen

/-- **The sites of a body with probes are the sites of the body without them**, moved to
their probes. -/
theorem branchSites_probed (hv : b.Valid) :
    (b.probed probe method ids).branchSites = b.branchSites.map (b.entryOf probe) := by
  have hmoved : (b.branchSites.map (b.entryOf probe)).Pairwise (· < ·) :=
    List.pairwise_map.mpr (b.pairwise_branchSites.imp fun h => entry_lt_entry _ _ h)
  -- both lists ascend, so it is enough that they have the same members
  refine (pairwise_branchSites _).eq_of_mem_iff hmoved fun k => ?_
  rw [mem_branchSites_iff (hv.probed hlen), isSite_probed_iff hlen, List.mem_map]
  simp only [mem_branchSites_iff hv]

theorem probeCount_probed (hv : b.Valid) :
    (b.probed probe method ids).probeCount = b.probeCount := by
  rw [probeCount, branchSites_probed hlen hv, List.length_map, probeCount]

/-- A body grows by the length of a probe for every site. -/
theorem length_probed_eq (hv : b.Valid) :
    (b.probed probe method ids).length = b.length + b.probeCount * probe.length := by
  rw [length_probed hlen, entryOf, entry, countP_branchSites hv, probeCount, Nat.mul_comm]

end

/-- What is known of the sites of the body `new` that comes of putting probes with these
identifiers into `old`. -/
structure KeepsSites (probe : Probe) (method : String) (ids : List UInt32)
    (old new : MethodBody) : Prop where
  /-- The instructions of the old body stand at their `homeOf`. -/
  instruction : ∀ i, new.instructions[old.homeOf probe i]?
    = old.instructions[i]?.map (Instruction.retarget (old.entryOf probe))
  /-- No site is lost and there is no other: each is now where it is entered. -/
  sites : new.branchSites = old.branchSites.map (old.entryOf probe)
  /-- That is the first instruction of its own probe, which reaches up to the site. -/
  code : ∀ n s : Nat, old.branchSites[n]? = some s → ∃ id, ids[n]? = some id ∧
    new.instructions.extract (old.entryOf probe s) (old.homeOf probe s) = probe.code id method
  /-- Behind the first instruction of a probe there is no site up to the next probe. -/
  inside : ∀ i k, old.WithinOf probe i k → k ≠ old.entryOf probe i → k ∉ new.branchSites

theorem keepsSites_probed {b : MethodBody} (hv : b.Valid) (probe : Probe) (method : String)
    {ids : List UInt32} (hlen : ids.length = b.branchSites.length) :
    KeepsSites probe method ids b (b.probed probe method ids) where
  instruction := getElem?_probed_home hlen probe method
  sites := branchSites_probed hlen hv
  code := by
    intro n s hs
    obtain ⟨hn, -⟩ := List.getElem?_eq_some_iff.mp hs
    have hid : ids[n]? = some ids[n] := List.getElem?_eq_getElem (hlen ▸ hn)
    refine ⟨_, hid, extract_probed hlen (lt_length_of_mem hv (List.mem_of_getElem? hs)) ?_⟩
    rw [lookup_zip b.nodup_branchSites hs, hid]
  inside := by
    intro i k hw hne hk
    rw [branchSites_probed hlen hv] at hk
    obtain ⟨s, -, rfl⟩ := List.mem_map.mp hk
    obtain rfl : i = s := hw.eq_of_entry
    exact hne rfl

/-! ### Probes once more -/

/-- To move indices twice, with the sites in between, is to move them by both lengths at
once. -/
theorem entry_map_entry (sites : List Nat) (gap gap' i : Nat) :
    entry (sites.map (entry sites gap)) gap' (entry sites gap i) = entry sites (gap + gap') i := by
  have hcount : (sites.map (entry sites gap)).countP (· < entry sites gap i)
      = sites.countP (· < i) := by
    rw [List.countP_map]
    refine List.countP_congr fun s _ => ?_
    simp only [Function.comp_apply, decide_eq_true_eq, entry_lt_entry_iff]
  rw [entry, hcount, entry, entry, Nat.add_mul, Nat.add_assoc]

variable {ω : Type} [WordSource ω]

/-- What comes of putting probes into a body so many times: the numbers of probes, the
body, and the generator as it is then. -/
structure Repeats (probe : Probe) (old : MethodBody) (g : Generator ω) (times : Nat)
    (counts : List Nat) (new : MethodBody) (g' : Generator ω) : Prop where
  valid : new.validate = .ok ()
  /-- Every time there are as many probes as the first time. -/
  counts : counts = List.replicate times old.probeCount
  length : new.length = old.length + times * (old.probeCount * probe.length)
  /-- Every time an identifier is drawn for each of them. -/
  generator : g' = (g.take (times * old.probeCount)).2
  /-- The sites are where code as long as all probes of a site would move them. -/
  sites : new.branchSites = old.branchSites.map (entry old.branchSites (times * probe.length))

theorem repeats_of_valid {b : MethodBody} (hv : b.Valid) (probe : Probe) (method : String)
    (g : Generator ω) (times : Nat) : ∃ counts new g',
      b.instrumentTimes? probe method times g = some (counts, new, g') ∧
      Repeats probe b g times counts new g' := by
  -- over all valid bodies and generators, for the first time leaves others to the rest
  induction times generalizing b g with
  | zero =>
    refine ⟨[], b, g, rfl, validate_eq_ok_iff.mpr hv, rfl, ?_, ?_, ?_⟩
    · rw [Nat.zero_mul, Nat.add_zero]
    · rw [Nat.zero_mul]
      rfl
    · have hstay : entry b.branchSites (0 * probe.length) = id := by
        funext i
        rw [entry, Nat.zero_mul, Nat.zero_mul]
        rfl
      rw [hstay, List.map_id]
  | succ times ih =>
    have hlen : (g.take b.branchSites.length).1.length = b.branchSites.length :=
      Generator.length_take _ _
    have hvalid : (b.probed probe method (g.take b.branchSites.length).1).Valid :=
      hv.probed hlen
    have hcount : (b.probed probe method (g.take b.branchSites.length).1).probeCount =
        b.probeCount := probeCount_probed hlen hv
    obtain ⟨counts, new, g', hrun, hrest⟩ := ih hvalid (g.take b.branchSites.length).2
    refine ⟨b.probeCount :: counts, new, g', ?_, hrest.valid, ?_, ?_, ?_, ?_⟩
    · rw [instrumentTimes?, instrument?_eq_probed hv]
      simp [hrun]
    · rw [hrest.counts, hcount, List.replicate_succ]
    · rw [hrest.length, hcount, length_probed_eq hlen hv, Nat.succ_mul]
      omega
    · rw [hrest.generator, hcount, Nat.succ_mul, Nat.add_comm, Generator.take_add]
      rfl
    · rw [hrest.sites, branchSites_probed hlen hv, List.map_map, Nat.succ_mul, Nat.add_comm]
      exact List.map_congr_left fun s _ => entry_map_entry _ _ _ _

/-- **Probes can be put into a body any number of times**, with any generator for all of
them.  The sites are moved to their probes each time, so the body is valid again and the
next time gets as many probes. -/
theorem keepsSites_of_instrument? {b : MethodBody} (hvalid : b.validate = .ok ()) (probe : Probe)
    (method : String) (g : Generator ω) :
    (∃ new, b.instrument? probe method g = some (new, (g.take b.probeCount).2) ∧
        KeepsSites probe method (g.take b.probeCount).1 b new) ∧
      ∀ times, ∃ counts new g', b.instrumentTimes? probe method times g = some (counts, new, g') ∧
        Repeats probe b g times counts new g' := by
  have hv : b.Valid := validate_eq_ok_iff.mp hvalid
  refine ⟨⟨_, instrument?_eq_probed hv probe method g, ?_⟩, repeats_of_valid hv probe method g⟩
  exact keepsSites_probed hv probe method (Generator.length_take _ _)

/-- A conditional branch at the end that leads to itself, a loop back to the entry, and a
handler with a filter where branches lead and fall through. -/
def revolvingDoor : MethodBody where
  maxStack := 2
  locals := []
  instructions := [⟨.ldarg, .argument 0⟩, ⟨.brtrue, .target 3⟩, ⟨.leave, .target 0⟩,
    ⟨.ldloc, .variable 0⟩, ⟨.switch, .targets [0, 3, 5]⟩, ⟨.ldnull, .none⟩, ⟨.brfalse, .target 6⟩]
  handlers := [⟨.filter, 0, 3, 5, 7, some 3⟩]

theorem revolvingDoor_keepsSites :
    let probe : Probe := ⟨.inlineBitset, TraceType.reference .here⟩
    let g := Identifier.fresh .bitset
    revolvingDoor.validate = .ok () ∧
      (∃ new, revolvingDoor.instrument? probe "Turn" g
          = some (new, (g.take revolvingDoor.probeCount).2) ∧
        KeepsSites probe "Turn" (g.take revolvingDoor.probeCount).1 revolvingDoor new) ∧
      ∀ times, ∃ counts new g',
        revolvingDoor.instrumentTimes? probe "Turn" times g = some (counts, new, g') ∧
        Repeats probe revolvingDoor g times counts new g' :=
  ⟨rfl, keepsSites_of_instrument? rfl _ _ _⟩

end BranchCoverage.MethodBody
