/-
Probes with and without a call record the same coverage.

`probesOn` is the code of probes that control runs through on a path, which is
followed in the body that the probes were inserted into.  On a path of a valid
body that is the code for the sites on the path, with the identifiers that were
drawn for them (`probesOn_probed`), so running it records one hit for each
(`run_flatMap_code`).  Neither the identifiers nor the hits depend on whether
the probe makes a call, which gives `agree_of_instrument?`.
-/
import BranchCoverage.Proofs.Stack.Probe
import BranchCoverage.Proofs.Flow.Trails
import BranchCoverage.Proofs.Identifier.Generator

namespace BranchCoverage

theorem ProbeKind.discipline_withoutCall (kind : ProbeKind) :
    kind.withoutCall.discipline = kind.discipline := by
  cases kind <;> rfl

/-! ### Running probe after probe -/

/-- Records hits of the primary state one after another. -/
def Tracing.hitAll (t : Tracing) (d : Discipline) (ids : List UInt32) : Tracing :=
  ids.foldl (·.hitPrimary d ·) t

theorem Tracing.Ready.hitAll {t : Tracing} (h : t.Ready) (d : Discipline) (ids : List UInt32) :
    (t.hitAll d ids).Ready := by
  induction ids generalizing t with
  | nil => exact h
  | cons id rest ih => exact ih (h.hitPrimary d id)

namespace Stack.Machine

theorem run_flatMap_code {t : Tracing} (h : t.Ready) (kind : ProbeKind) {ids : List UInt32}
    (hids : ∀ id ∈ ids, id.toNat < 2 ^ 31) (traceType : TypeRef) (method : String)
    (stack : List Slot) :
    (⟨stack, t⟩ : Machine).run traceType
        (ids.flatMap ((⟨kind, traceType⟩ : Probe).code · method))
      = some ⟨stack, t.hitAll kind.discipline ids⟩ := by
  induction ids generalizing t with
  | nil => rfl
  | cons id rest ih =>
    obtain ⟨hid, hrest⟩ := List.forall_mem_cons.mp hids
    rw [List.flatMap_cons, run_append_of_eq (run_code h kind hid traceType method stack)]
    exact ih (h.hitPrimary _ _) hrest

end Stack.Machine

namespace MethodBody

open Identifier (Generator WordSource)
open Stack (Slot Machine)

/-! ### Code on a path -/

/-- The instructions of probes that a path of the new body from `k` executes:
those from which it goes on inside a stretch. -/
def passed (old new : MethodBody) (probe : Probe) : Nat → List (Passage × Nat) → List Instruction
  | _, [] => []
  | k, (_, l) :: rest =>
    (if (old.origin probe l).isNone then new.instructions[k]?.toList else []) ++
      passed old new probe l rest

/-- The code of probes that control runs through on a path of the old body, if
it is followed in the new one. -/
def probesOn (old new : MethodBody) (probe : Probe) (i : Nat) (steps : List (Passage × Nat)) :
    List Instruction :=
  old.passed new probe (old.entryOf probe i) (old.expand probe i steps)

/-- The identifiers of the sites on a path. -/
def idsOn (b : MethodBody) (ids : List UInt32) (i : Nat) (steps : List (Passage × Nat)) :
    List UInt32 :=
  (i :: steps.map Prod.snd).flatMap fun j => ((b.branchSites.zip ids).lookup j).toList

theorem mem_of_mem_idsOn {b : MethodBody} {ids : List UInt32} {i : Nat}
    {steps : List (Passage × Nat)} {id : UInt32} (h : id ∈ b.idsOn ids i steps) : id ∈ ids := by
  obtain ⟨j, -, hj⟩ := List.mem_flatMap.mp h
  obtain ⟨before, after, hsplit, -⟩ := List.lookup_eq_some_iff.mp (Option.mem_toList.mp hj)
  have hmem : (j, id) ∈ b.branchSites.zip ids := hsplit ▸ List.mem_append_right _ List.mem_cons_self
  exact (List.of_mem_zip hmem).2

section

variable {b new : MethodBody} {probe : Probe} {method : String} {ids : List UInt32} {i k : Nat}
  {rest steps : List (Passage × Nat)}

theorem extract_succ (xs : List Instruction) (k n : Nat) :
    xs.extract k (k + (n + 1)) = xs[k]?.toList ++ xs.extract (k + 1) (k + 1 + n) := by
  rw [List.extract_eq_take_drop, List.extract_eq_take_drop, Nat.add_sub_cancel_left,
    Nat.add_sub_cancel_left, List.drop_eq_getElem?_toList_append]
  rcases h : xs[k]? with - | instruction
  · have hnil : xs.drop (k + 1) = [] :=
      List.drop_eq_nil_of_le (Nat.le_succ_of_le (List.getElem?_eq_none_iff.mp h))
    rw [hnil]
    exact List.take_nil.trans List.take_nil.symm
  · rfl

theorem passed_straightOn_append {n : Nat} (hw : b.WithinOf probe i k)
    (hn : k + n ≤ b.homeOf probe i) :
    b.passed new probe k (straightOn k n ++ rest)
      = new.instructions.extract k (k + n) ++ b.passed new probe (k + n) rest := by
  induction n generalizing k with
  | zero =>
    rw [List.extract_eq_take_drop, Nat.add_zero, Nat.sub_self]
    rfl
  | succ n ih =>
    have hle : b.entryOf probe i ≤ k := hw.entry_le
    have hk : k < b.homeOf probe i := by omega
    have hw' := hw.succ hk
    -- the step stays in the stretch, so it executes an instruction of the probe
    have horigin : b.origin probe (k + 1) = none := origin_eq_none hw' (by omega)
    show (if (b.origin probe (k + 1)).isNone then new.instructions[k]?.toList else []) ++
      b.passed new probe (k + 1) (straightOn (k + 1) n ++ rest) = _
    rw [horigin, ih hw' (by omega), extract_succ, List.append_assoc,
      show k + 1 + n = k + (n + 1) by omega]
    rfl

theorem passed_cons_entryOf {j : Nat} {p : Passage} (hj : j ≤ b.length) :
    b.passed new probe k ((p, b.entryOf probe j) :: rest)
      = b.passed new probe (b.entryOf probe j) rest := by
  rw [passed, origin_entryOf hj]
  rfl

/-- The code on a path is the code for the identifiers on it. -/
theorem probesOn_probed (hv : b.Valid) (hlen : ids.length = b.branchSites.length)
    (h : b.Trail i steps) :
    b.probesOn (b.probed probe method ids) probe i steps
      = (b.idsOn ids i steps).flatMap (probe.code · method) := by
  have hfront : ∀ i, front (probe.code · method) (b.branchSites.zip ids) i
      = ((b.branchSites.zip ids).lookup i).toList.flatMap (probe.code · method) := by
    intro i
    rw [front]
    rcases (b.branchSites.zip ids).lookup i with - | id
    · rfl
    · exact (List.append_nil _).symm
  have hhome : ∀ i, b.entryOf probe i + (b.homeOf probe i - b.entryOf probe i)
      = b.homeOf probe i := fun i => Nat.add_sub_cancel' (entry_le_home _ _ _)
  induction h with
  | nil i =>
    rw [probesOn, expand, expandFrom, ← List.append_nil (straightOn _ _),
      passed_straightOn_append within_entry (Nat.le_of_eq (hhome i)), hhome,
      extract_probed_eq_front hlen hv, hfront]
    show _ = (((b.branchSites.zip ids).lookup i).toList ++ []).flatMap _
    rw [List.append_nil]
    exact List.append_nil _
  | @cons i j p rest hedge _ ih =>
    rw [probesOn, expand, expandFrom,
      passed_straightOn_append within_entry (Nat.le_of_eq (hhome i)), hhome,
      extract_probed_eq_front hlen hv, hfront, passed_cons_entryOf (hedge.le_length hv)]
    show _ = (((b.branchSites.zip ids).lookup i).toList ++ b.idsOn ids j rest).flatMap _
    rw [List.flatMap_append]
    exact congrArg _ ih

/-- Running the code on a path records a hit for each identifier on it. -/
theorem run_probesOn (hv : b.Valid) (hlen : ids.length = b.branchSites.length)
    (hids : ∀ id ∈ ids, id.toNat < 2 ^ 31) (kind : ProbeKind) (traceType : TypeRef)
    (h : b.Trail i steps) {t : Tracing} (ht : t.Ready) (stack : List Slot) :
    (⟨stack, t⟩ : Machine).run traceType
        (b.probesOn (b.probed ⟨kind, traceType⟩ method ids) ⟨kind, traceType⟩ i steps)
      = some ⟨stack, t.hitAll kind.discipline (b.idsOn ids i steps)⟩ := by
  rw [probesOn_probed hv hlen h]
  exact Machine.run_flatMap_code ht kind (fun id hid => hids id (mem_of_mem_idsOn hid)) _ _ _

end

/-! ### Agreement -/

/-- The bodies `called` and `direct` hold probes of a kind and of the kind of the
same discipline that makes no call, and these record the same. -/
structure Agree (b : MethodBody) (kind : ProbeKind) (traceType : TypeRef) (method : String)
    (width : Identifier.Width) (called direct : MethodBody) : Prop where
  /-- A site has one identifier in both, as narrow as it should be. -/
  identifier : ∀ i, b.IsSite i → ∃ id : UInt32, id.toNat < 2 ^ width.bits ∧
    called.instructions.extract (b.entryOf ⟨kind, traceType⟩ i) (b.homeOf ⟨kind, traceType⟩ i)
      = Probe.code ⟨kind, traceType⟩ id method ∧
    direct.instructions.extract (b.entryOf ⟨kind.withoutCall, traceType⟩ i)
        (b.homeOf ⟨kind.withoutCall, traceType⟩ i)
      = Probe.code ⟨kind.withoutCall, traceType⟩ id method
  /-- The probes on a path run to their end in both, on any stack, and leave the
  same trace. -/
  record : ∀ i steps, b.Trail i steps → ∀ (stack : List Slot) (t : Tracing), t.Ready →
    ∃ t', t'.Ready ∧
      (⟨stack, t⟩ : Machine).run traceType (b.probesOn called ⟨kind, traceType⟩ i steps)
        = some ⟨stack, t'⟩ ∧
      (⟨stack, t⟩ : Machine).run traceType
          (b.probesOn direct ⟨kind.withoutCall, traceType⟩ i steps)
        = some ⟨stack, t'⟩

theorem agree_probed {b : MethodBody} (hv : b.Valid) (kind : ProbeKind) (traceType : TypeRef)
    (method : String) (width : Identifier.Width) {ids : List UInt32}
    (hlen : ids.length = b.branchSites.length) (hids : ∀ id ∈ ids, id.toNat < 2 ^ width.bits) :
    Agree b kind traceType method width (b.probed ⟨kind, traceType⟩ method ids)
      (b.probed ⟨kind.withoutCall, traceType⟩ method ids) where
  identifier := by
    intro i hsite
    have hmem := (mem_branchSites_iff hv).mpr hsite
    have hi := hsite.lt_length hv
    obtain ⟨id, hid, hlookup⟩ := exists_lookup_zip b.nodup_branchSites hlen hmem
    exact ⟨id, hids id hid, extract_probed hlen hi hlookup, extract_probed hlen hi hlookup⟩
  record := by
    intro i steps h stack t ht
    -- no width has room for a sign
    have hsmall : ∀ id ∈ ids, id.toNat < 2 ^ 31 := fun id hid =>
      Nat.lt_of_lt_of_le (hids id hid) (Nat.pow_le_pow_right (by decide) width.le)
    refine ⟨_, ht.hitAll _ _, run_probesOn hv hlen hsmall kind traceType h ht stack, ?_⟩
    rw [run_probesOn hv hlen hsmall kind.withoutCall traceType h ht stack,
      kind.discipline_withoutCall]

/-- **Probes with and without a call record the same coverage**: from one state
of the generator, they are inserted into a valid body with the same
identifiers, and leave the same trace on every path. -/
theorem agree_of_instrument? {ω : Type} [WordSource ω] {b : MethodBody}
    (hvalid : b.validate = .ok ()) (kind : ProbeKind) (traceType : TypeRef) (method : String)
    (g : Generator ω) :
    ∃ called direct g',
      b.instrument? ⟨kind, traceType⟩ method g = some (called, g') ∧
      b.instrument? ⟨kind.withoutCall, traceType⟩ method g = some (direct, g') ∧
      Agree b kind traceType method g.width called direct := by
  have hv : b.Valid := validate_eq_ok_iff.mp hvalid
  refine ⟨_, _, _, instrument?_eq_probed hv _ method g, instrument?_eq_probed hv _ method g, ?_⟩
  exact agree_probed hv kind traceType method g.width (Generator.length_take _ _)
    fun id hid => Generator.lt_of_mem_take hid

theorem ready_empty : ({} : Tracing).Ready :=
  ⟨Array.size_replicate, by decide⟩

/-- One branch back to the beginning. -/
def backwardBranch : MethodBody where
  maxStack := 1
  locals := []
  instructions := [⟨.ldarg, .argument 0⟩, ⟨.brtrue, .target 0⟩, ⟨.ret, .none⟩]
  handlers := []

theorem backwardBranch_agree :
    ∃ called direct g' t',
      backwardBranch.instrument? ⟨.bitset, TraceType.reference .here⟩ "M"
        (Identifier.fresh .bitset) = some (called, g') ∧
      backwardBranch.instrument? ⟨.inlineBitset, TraceType.reference .here⟩ "M"
        (Identifier.fresh .bitset) = some (direct, g') ∧
      (⟨[], {}⟩ : Machine).run (TraceType.reference .here)
          (backwardBranch.probesOn called ⟨.bitset, TraceType.reference .here⟩ 0
            [(.next, 1), (.target 0, 0)]) = some ⟨[], t'⟩ ∧
      (⟨[], {}⟩ : Machine).run (TraceType.reference .here)
          (backwardBranch.probesOn direct ⟨.inlineBitset, TraceType.reference .here⟩ 0
            [(.next, 1), (.target 0, 0)]) = some ⟨[], t'⟩ := by
  obtain ⟨called, direct, g', hcalled, hdirect, hagree⟩ :=
    agree_of_instrument? (b := backwardBranch) rfl .bitset (TraceType.reference .here) "M"
      (Identifier.fresh .bitset)
  have htrail : backwardBranch.Trail 0 [(.next, 1), (.target 0, 0)] :=
    .cons (.next rfl rfl) (.cons (.target rfl rfl) (.nil 0))
  obtain ⟨t', -, hrun, hrun'⟩ := hagree.record _ _ htrail [] {} ready_empty
  exact ⟨called, direct, g', t', hcalled, hdirect, hrun, hrun'⟩

end MethodBody

end BranchCoverage
