/-
The depth of the stack on the paths through a body with probes.

A `StackPlan` says what each instruction of a body does to the stack, and how deep
it is at the beginning of each handler.  That fixes the depth on every path
(`Comes`), and the plan fits the body if no depth is above the room that the body
declares (`Bounded`).  With probes in the body, their instructions have the effects
of `Instruction.effect?` and all others those that they had (`around`).

From the stretch of an instruction control goes on as from the instruction itself,
and the depth is what it was there, plus what the probe has on the stack at the time
(`pass_around`).  So the depths of the new body are those of the old one with the
rise of a probe on top (`comes_around_iff`), and `keepsStack_of_instrument?` reads
from this that the new room is enough, and no less of it would be.
-/
import BranchCoverage.Proofs.Flow.Probed
import BranchCoverage.Proofs.Identifier.Generator
import BranchCoverage.Proofs.Stack.Effect

namespace BranchCoverage

open Identifier (Generator WordSource)
open Stack (Slot Machine)

/-! ### Depths on paths -/

/-- What the instructions of a body do to the stack, and how deep it is where a
filter or a handler begins. -/
structure StackPlan where
  effect : Nat → Effect
  /-- By the number of the handler. -/
  filterEntry : Nat → Nat
  /-- By the number of the handler. -/
  handlerEntry : Nat → Nat

namespace StackPlan

/-- The depth behind a step from an instruction, which an exception breaks off.  A
depth below zero means that more was taken than was there. -/
def pass (plan : StackPlan) (i : Nat) (d : Int) : Passage → Int
  | .next | .target _ => d - (plan.effect i).pops + (plan.effect i).pushes
  | .filter n => plan.filterEntry n
  | .handler n => plan.handlerEntry n

/-- Where a path leads, and the depth there. -/
def walk (plan : StackPlan) (i : Nat) (d : Int) : List (Passage × Nat) → Nat × Int
  | [] => (i, d)
  | (p, j) :: rest => walk plan j (plan.pass i d p) rest

/-- On some path from the beginning, with nothing on the stack, control comes to the
instruction with this depth. -/
def Comes (plan : StackPlan) (b : MethodBody) (i : Nat) (d : Int) : Prop :=
  ∃ steps, b.Trail 0 steps ∧ plan.walk 0 0 steps = (i, d)

/-- Every path stays within the room that the body declares. -/
def Bounded (plan : StackPlan) (b : MethodBody) : Prop :=
  ∀ i d, plan.Comes b i d → d ≤ b.maxStack.toNat

/-- On every path an instruction finds as many slots as it takes. -/
def Grounded (plan : StackPlan) (b : MethodBody) : Prop :=
  ∀ i d, plan.Comes b i d → i < b.length → (plan.effect i).pops ≤ d

variable {plan : StackPlan} {b : MethodBody} {i j : Nat} {d : Int} {p : Passage}
  {steps : List (Passage × Nat)}

theorem comes_start (plan : StackPlan) (b : MethodBody) : plan.Comes b 0 0 :=
  ⟨[], .nil 0, rfl⟩

theorem trail_concat (plan : StackPlan) (d : Int) (h : b.Trail i steps)
    (hedge : b.Edge (plan.walk i d steps).1 p j) : b.Trail i (steps ++ [(p, j)]) := by
  induction h generalizing d with
  | nil i => exact .cons hedge (.nil j)
  | cons hfirst _ ih => exact .cons hfirst (ih _ hedge)

theorem walk_concat (plan : StackPlan) (i : Nat) (d : Int) (steps : List (Passage × Nat))
    (p : Passage) (j : Nat) :
    plan.walk i d (steps ++ [(p, j)])
      = (j, plan.pass (plan.walk i d steps).1 (plan.walk i d steps).2 p) := by
  induction steps generalizing i d with
  | nil => rfl
  | cons _ _ ih => exact ih _ _

theorem Comes.step (h : plan.Comes b i d) (hedge : b.Edge i p j) :
    plan.Comes b j (plan.pass i d p) := by
  obtain ⟨steps, htrail, hwalk⟩ := h
  refine ⟨steps ++ [(p, j)], ?_, ?_⟩
  · apply trail_concat plan 0 htrail
    rw [hwalk]
    exact hedge
  · rw [walk_concat, hwalk]

/-- What holds at the beginning and is kept by every step holds on every path. -/
theorem Comes.induct {P : Nat → Int → Prop} (start : P 0 0)
    (step : ∀ {i j : Nat} {d : Int} {p : Passage}, P i d → b.Edge i p j → P j (plan.pass i d p))
    (h : plan.Comes b i d) : P i d := by
  have hwalk : ∀ {i : Nat} {d : Int} {steps : List (Passage × Nat)}, b.Trail i steps → P i d →
      P (plan.walk i d steps).1 (plan.walk i d steps).2 := by
    intro i d steps htrail
    induction htrail generalizing d with
    | nil i => exact id
    | cons hedge _ ih =>
      intro hP
      exact ih (step hP hedge)
  obtain ⟨steps, htrail, heq⟩ := h
  have hend := hwalk htrail start
  rw [heq] at hend
  exact hend

end StackPlan

/-! ### Bodies with probes -/

namespace MethodBody

/-- The instruction that stands at a new index, if it is none of a probe. -/
def resident (b : MethodBody) (probe : Probe) (k : Nat) : Option Nat :=
  (List.range b.length).find? fun i => b.homeOf probe i = k

variable {b : MethodBody} {probe : Probe} {i k : Nat}

theorem resident_homeOf (hi : i < b.length) : b.resident probe (b.homeOf probe i) = some i := by
  rcases h : b.resident probe (b.homeOf probe i) with - | j
  · rw [resident, List.find?_eq_none] at h
    exact absurd (decide_eq_true rfl) (h i (List.mem_range.mpr hi))
  · have hj : b.homeOf probe j = b.homeOf probe i := by simpa using List.find?_some h
    have hwithin : b.WithinOf probe j (b.homeOf probe i) := hj ▸ within_home
    rw [hwithin.unique within_home]

theorem resident_eq_none (hw : b.WithinOf probe i k) (hk : k < b.homeOf probe i) :
    b.resident probe k = none := by
  rw [resident, List.find?_eq_none]
  intro j _ hj
  obtain rfl : b.homeOf probe j = k := by simpa using hj
  obtain rfl : i = j := hw.unique within_home
  exact Nat.lt_irrefl _ hk

end MethodBody

/-- What a probe has on the stack at a new index of the stretch of `i`. -/
def MethodBody.riseAt (b : MethodBody) (probe : Probe) (i k : Nat) : Nat :=
  probe.kind.rise (k - b.entryOf probe i)

/-- Without the probe control comes to the instruction that the new index `k` stands
for, with the depth less what the probe has on the stack there. -/
def StackPlan.ComesUnder (plan : StackPlan) (b : MethodBody) (probe : Probe) (k : Nat) (d : Int) :
    Prop :=
  ∃ i d', plan.Comes b i d' ∧ b.WithinOf probe i k ∧ d = d' + b.riseAt probe i k

/-- The plan for a body with probes, whose instructions have the effects that they
have on the machine. -/
def StackPlan.around (plan : StackPlan) (old new : MethodBody) (probe : Probe) : StackPlan where
  effect k :=
    match old.resident probe k with
    | some i => plan.effect i
    | none => (new.instructions[k]?.bind Instruction.effect?).getD ⟨0, 0⟩
  filterEntry := plan.filterEntry
  handlerEntry := plan.handlerEntry

namespace MethodBody

variable {plan : StackPlan} {b new : MethodBody} {probe : Probe} {method : String}
  {ids : List UInt32} {i k l : Nat} {d : Int} {p : Passage}

theorem riseAt_entryOf : b.riseAt probe i (b.entryOf probe i) = 0 := by
  simp [riseAt]

/-- Behind a probe, or where there is none, nothing is left of it. -/
theorem riseAt_homeOf : b.riseAt probe i (b.homeOf probe i) = 0 := by
  by_cases hsite : i ∈ b.branchSites
  · have hhome : b.homeOf probe i = b.entryOf probe i + probe.length :=
      home_of_mem b.nodup_branchSites hsite
    rw [riseAt, hhome, Nat.add_sub_cancel_left]
    exact probe.kind.rise_length probe.traceType
  · have hhome : b.homeOf probe i = b.entryOf probe i := home_of_notMem hsite
    rw [hhome, riseAt_entryOf]

theorem effect_around_homeOf (hi : i < b.length) :
    (plan.around b new probe).effect (b.homeOf probe i) = plan.effect i := by
  simp only [StackPlan.around, resident_homeOf hi]

theorem pass_around_homeOf (hi : i < b.length) :
    (plan.around b new probe).pass (b.homeOf probe i) d p = plan.pass i d p := by
  cases p with
  | next => simp only [StackPlan.pass, effect_around_homeOf hi]
  | target => simp only [StackPlan.pass, effect_around_homeOf hi]
  | filter => rfl
  | handler => rfl

/-- An exception does not care where it is raised. -/
theorem pass_around_raise (hp : p.raises) (d' : Int) :
    (plan.around b new probe).pass k d' p = plan.pass i d p := by
  cases p with
  | next => cases hp
  | target => cases hp
  | filter => rfl
  | handler => rfl

section

variable (hv : b.Valid) (hlen : ids.length = b.branchSites.length)

include hlen

/-- The instructions of a probe, one by one. -/
theorem getElem?_probed_site {id : UInt32} {n : Nat} (hi : i < b.length)
    (hid : (b.branchSites.zip ids).lookup i = some id)
    (hn : b.entryOf probe i + n < b.homeOf probe i) :
    (b.probed probe method ids).instructions[b.entryOf probe i + n]?
      = (probe.code id method)[n]? := by
  rw [← extract_probed hlen hi hid, List.extract_eq_take_drop,
    List.getElem?_take_of_lt (by omega), List.getElem?_drop]

include hv

/-- Within a probe the depth goes with what the probe has on the stack. -/
theorem effect_around_probe (plan : StackPlan) (method : String) (hw : b.WithinOf probe i k)
    (hk : k < b.homeOf probe i) :
    ((plan.around b (b.probed probe method ids) probe).effect k).pops ≤ b.riseAt probe i k ∧
      b.riseAt probe i (k + 1) = b.riseAt probe i k
        - ((plan.around b (b.probed probe method ids) probe).effect k).pops
        + ((plan.around b (b.probed probe method ids) probe).effect k).pushes := by
  have hsite : i ∈ b.branchSites := hw.mem hk
  have hi : i < b.length := lt_length_of_mem hv hsite
  obtain ⟨id, -, hid⟩ := exists_lookup_zip b.nodup_branchSites hlen hsite
  obtain ⟨n, rfl⟩ := Nat.exists_eq_add_of_le hw.entry_le
  have hhome : b.homeOf probe i = b.entryOf probe i + probe.length :=
    home_of_mem b.nodup_branchSites hsite
  have hn : n < (probe.code id method).length := by
    rw [probe.length_code]
    exact Nat.lt_of_add_lt_add_left (hhome ▸ hk)
  have hget := List.getElem?_eq_getElem hn
  obtain ⟨e, he, hpops, hrise⟩ := ProbeKind.rise_succ hget
  have heffect : (plan.around b (b.probed probe method ids) probe).effect (b.entryOf probe i + n)
      = e := by
    simp only [StackPlan.around, resident_eq_none hw hk]
    rw [getElem?_probed_site hlen hi hid hk, hget]
    show (Instruction.effect? _).getD _ = e
    rw [he]
    rfl
  rw [heffect]
  constructor
  · rw [riseAt, Nat.add_sub_cancel_left]
    exact hpops
  · rw [riseAt, riseAt, Nat.add_assoc, Nat.add_sub_cancel_left, Nat.add_sub_cancel_left]
    exact hrise

theorem pass_around_quiet (hw : b.WithinOf probe i k) (hk : k < b.homeOf probe i) (d : Int) :
    (plan.around b (b.probed probe method ids) probe).pass k (d + b.riseAt probe i k) .next
      = d + b.riseAt probe i (k + 1) := by
  obtain ⟨hpops, hrise⟩ := effect_around_probe hv hlen plan method hw hk
  rw [StackPlan.pass, hrise]
  omega

/-- A step of the new body goes on with the probe, or it is a step of the old body
at the depth without the probe. -/
theorem pass_around (plan : StackPlan) (hw : b.WithinOf probe i k)
    (hedge : (b.probed probe method ids).Edge k p l) (d : Int) :
    (b.WithinOf probe i l ∧
      (plan.around b (b.probed probe method ids) probe).pass k (d + b.riseAt probe i k) p
        = d + b.riseAt probe i l) ∨
    ∃ j, b.Edge i p j ∧ l = b.entryOf probe j ∧
      (plan.around b (b.probed probe method ids) probe).pass k (d + b.riseAt probe i k) p
        = plan.pass i d p := by
  obtain ⟨i', hi, hw', hcases⟩ := edge_probed_cases hlen hv hedge
  obtain rfl := hw.unique hw'
  rcases hcases with hquiet | ⟨hloud, j, hold, rfl⟩
  · left
    refine ⟨hquiet.within hw, ?_⟩
    have hk : k < b.homeOf probe i := by
      have hle := (hquiet.within hw).le_home
      rw [hquiet.target] at hle
      exact hle
    obtain ⟨rfl, rfl, -⟩ := hquiet
    exact pass_around_quiet hv hlen hw hk d
  · right
    refine ⟨j, hold, rfl, ?_⟩
    rcases hloud with rfl | hraises
    · rw [riseAt_homeOf, pass_around_homeOf hi]
      simp
    · exact pass_around_raise hraises _

theorem comesUnder_step {d : Int} (h : plan.ComesUnder b probe k d)
    (hedge : (b.probed probe method ids).Edge k p l) :
    plan.ComesUnder b probe l
      ((plan.around b (b.probed probe method ids) probe).pass k d p) := by
  obtain ⟨i, d, hcomes, hw, rfl⟩ := h
  rcases pass_around hv hlen plan hw hedge d with ⟨hw', hpass⟩ | ⟨j, hold, rfl, hpass⟩
  · exact ⟨i, d, hcomes, hw', hpass⟩
  · refine ⟨j, plan.pass i d p, hcomes.step hold, within_entry, ?_⟩
    rw [hpass, riseAt_entryOf]
    simp

/-- Through the probe control comes to the whole stretch of an instruction. -/
theorem comes_around_within (hw : b.WithinOf probe i k)
    (h : (plan.around b (b.probed probe method ids) probe).Comes (b.probed probe method ids)
      (b.entryOf probe i) d) :
    (plan.around b (b.probed probe method ids) probe).Comes (b.probed probe method ids) k
      (d + b.riseAt probe i k) := by
  -- by induction on how much of the probe control has passed
  obtain ⟨n, rfl⟩ := Nat.exists_eq_add_of_le hw.entry_le
  induction n with
  | zero =>
    rw [Nat.add_zero, riseAt_entryOf, Int.natCast_zero, Int.add_zero]
    exact h
  | succ n ih =>
    have hk : b.entryOf probe i + n < b.homeOf probe i := hw.le_home
    have hbefore : b.WithinOf probe i (b.entryOf probe i + n) :=
      ⟨Nat.le_add_right _ _, Nat.le_of_lt hk⟩
    have hstep := (ih hbefore).step (edge_probed_quiet hlen hv hbefore hk)
    rw [pass_around_quiet hv hlen hbefore hk] at hstep
    exact hstep

/-- **The depths of a body with probes** are those of the body without them, with
what a probe has on the stack on top. -/
theorem comes_around_iff :
    (plan.around b (b.probed probe method ids) probe).Comes (b.probed probe method ids) k d ↔
      plan.ComesUnder b probe k d := by
  constructor
  · intro h
    apply h.induct
    · refine ⟨0, 0, plan.comes_start b, ⟨Nat.le_of_eq (entry_zero _ _), Nat.zero_le _⟩, ?_⟩
      rw [riseAt, Nat.zero_sub, ProbeKind.rise_zero]
      rfl
    · exact comesUnder_step hv hlen
  · rintro ⟨i, d', hcomes, hw, rfl⟩
    apply comes_around_within hv hlen hw
    -- control comes from one beginning of a stretch to the next one
    apply hcomes.induct
      (P := fun i d => (plan.around b (b.probed probe method ids) probe).Comes
        (b.probed probe method ids) (b.entryOf probe i) d)
    · rw [entryOf, entry_zero]
      exact StackPlan.comes_start _ _
    · intro i j d p hentry hedge
      have hhome := comes_around_within hv hlen within_home hentry
      rw [riseAt_homeOf, Int.natCast_zero, Int.add_zero] at hhome
      have hstep := hhome.step (edge_probed hlen hedge)
      rw [pass_around_homeOf (hedge.lt_length hv)] at hstep
      exact hstep

end

end MethodBody

/-! ### Room on the stack -/

/-- The code works on slots of its own, on top of whatever is on the stack. -/
structure Probe.StaysAbove (probe : Probe) (code : List Instruction) : Prop where
  /-- Wherever it has come to, it is known how many slots it has.  Neither they nor
  the trace depend on what is below. -/
  own : ∀ t : Tracing, t.Ready → ∀ n ≤ code.length,
    ∃ own t', own.length = probe.kind.rise n ∧ ∀ stack : List Slot,
      (⟨stack, t⟩ : Machine).run probe.traceType (code.take n) = some ⟨own ++ stack, t'⟩
  /-- In the end none are left. -/
  leaves : ∀ t : Tracing, t.Ready → ∃ t', ∀ stack : List Slot,
    (⟨stack, t⟩ : Machine).run probe.traceType code = some ⟨stack, t'⟩

theorem Probe.staysAbove_code (probe : Probe) {id : UInt32} (hid : id.toNat < 2 ^ 31)
    (method : String) : probe.StaysAbove (probe.code id method) where
  own := by
    intro t ht n hn
    rw [probe.length_code] at hn
    exact Machine.run_take_code ht hid method hn
  leaves := by
    intro t ht
    refine ⟨t.hitPrimary probe.kind.discipline id, ?_⟩
    intro stack
    exact Machine.run_code ht probe.kind hid probe.traceType method stack

/-- With the probes of the body `new`, the stack of `old` needs the room of one probe
more, and nothing else becomes of it. -/
structure MethodBody.KeepsStack (plan : StackPlan) (probe : Probe) (method : String)
    (old new : MethodBody) : Prop where
  /-- The depths are those without the probes, with what a probe has on the stack. -/
  depth : ∀ k d, (plan.around old new probe).Comes new k d ↔ plan.ComesUnder old probe k d
  bounded : plan.Bounded old → (plan.around old new probe).Bounded new
  grounded : plan.Grounded old → (plan.around old new probe).Grounded new
  /-- An instruction of a probe takes nothing but what the probe has put there. -/
  above : ∀ i k, old.WithinOf probe i k → k < old.homeOf probe i →
    ((plan.around old new probe).effect k).pops ≤ old.riseAt probe i k
  /-- Where a probe is met at full depth, no less room would do for it. -/
  least : ∀ i, old.IsSite i → plan.Comes old i old.maxStack.toNat → ∀ room : Nat,
    (∀ k d, (plan.around old new probe).Comes new k d → d ≤ old.maxStack.toNat + room) →
    probe.kind.stackDepth.toNat ≤ room
  /-- The code in front of a site leaves what is on the stack alone. -/
  alone : ∀ i, old.IsSite i → ∃ id,
    new.instructions.extract (old.entryOf probe i) (old.homeOf probe i) = probe.code id method ∧
      probe.StaysAbove (probe.code id method)

namespace MethodBody

variable {plan : StackPlan} {b : MethodBody} {probe : Probe} {method : String}
  {ids : List UInt32} {i k : Nat}

/-- The new body has room for what a probe has on the stack. -/
theorem add_riseAt_le (method : String) (ids : List UInt32) (hw : b.WithinOf probe i k)
    (hroom : b.maxStack.toNat + probe.kind.stackDepth.toNat ≤ 65535) :
    b.maxStack.toNat + b.riseAt probe i k ≤ (b.probed probe method ids).maxStack.toNat := by
  have hsum : (saturatingAdd b.maxStack probe.kind.stackDepth).toNat
      = b.maxStack.toNat + probe.kind.stackDepth.toNat := by
    rw [saturatingAdd, Nat.min_eq_left hroom]
    exact UInt16.toNat_ofNat_of_lt' (Nat.lt_succ_of_le hroom)
  have hrise : b.riseAt probe i k ≤ probe.kind.stackDepth.toNat := ProbeKind.rise_le _ _
  rw [probed]
  split
  · next hempty =>
    -- without instructions there is no probe
    have hnotMem : i ∉ b.branchSites := by
      rw [branchSites_eq_nil (List.isEmpty_iff.mp hempty)]
      exact List.not_mem_nil
    obtain rfl : k = b.homeOf probe i :=
      Nat.le_antisymm hw.le_home (Nat.le_of_not_lt (mt hw.mem hnotMem))
    rw [riseAt_homeOf]
    exact Nat.le_refl _
  · show _ ≤ (saturatingAdd b.maxStack probe.kind.stackDepth).toNat
    omega

/-- Somewhere in its probe a site is as high above its depth as the probe asks for. -/
theorem exists_riseAt_eq (hsite : i ∈ b.branchSites) (probe : Probe) :
    ∃ k, b.WithinOf probe i k ∧ b.riseAt probe i k = probe.kind.stackDepth.toNat := by
  obtain ⟨n, hn, hrise⟩ := probe.kind.exists_rise_eq probe.traceType
  have hhome : b.homeOf probe i = b.entryOf probe i + probe.length :=
    home_of_mem b.nodup_branchSites hsite
  refine ⟨b.entryOf probe i + n, ⟨Nat.le_add_right _ _, ?_⟩, ?_⟩
  · show b.entryOf probe i + n ≤ b.homeOf probe i
    rw [hhome]
    exact Nat.add_le_add_left (Nat.le_of_lt hn) _
  · rw [riseAt, Nat.add_sub_cancel_left]
    exact hrise

/-- What an instruction of the new body takes is there, in the probe or below it. -/
theorem grounded_probed (hv : b.Valid) (hlen : ids.length = b.branchSites.length)
    (h : plan.Grounded b) :
    (plan.around b (b.probed probe method ids) probe).Grounded (b.probed probe method ids) := by
  intro k d hcomes hk
  obtain ⟨i, d, hold, hw, rfl⟩ := (comes_around_iff hv hlen).mp hcomes
  have hi : i < b.length := by
    rw [length_probed hlen] at hk
    exact hw.lt_entry_iff.mp hk
  have hbelow := h i d hold hi
  rcases Nat.lt_or_eq_of_le hw.le_home with hlt | rfl
  · have hpops := (effect_around_probe hv hlen plan method hw hlt).1
    omega
  · rw [effect_around_homeOf hi]
    omega

theorem keepsStack_probed (hv : b.Valid) (plan : StackPlan) (probe : Probe) (method : String)
    (hlen : ids.length = b.branchSites.length) (hids : ∀ id ∈ ids, id.toNat < 2 ^ 31)
    (hroom : b.maxStack.toNat + probe.kind.stackDepth.toNat ≤ 65535) :
    KeepsStack plan probe method b (b.probed probe method ids) where
  depth := by
    intro k d
    exact comes_around_iff hv hlen
  bounded := by
    intro h k d hcomes
    obtain ⟨i, d, hold, hw, rfl⟩ := (comes_around_iff hv hlen).mp hcomes
    have hle := h i d hold
    have hadd := add_riseAt_le method ids hw hroom
    omega
  grounded := grounded_probed hv hlen
  above := by
    intro i k hw hk
    exact (effect_around_probe hv hlen plan method hw hk).1
  least := by
    intro i hsite hfull room hbound
    have hmem := (mem_branchSites_iff hv).mpr hsite
    obtain ⟨k, hw, hrise⟩ := exists_riseAt_eq hmem probe
    have hle := hbound k _ ((comes_around_iff hv hlen).mpr ⟨i, _, hfull, hw, rfl⟩)
    rw [hrise] at hle
    omega
  alone := by
    intro i hsite
    have hmem := (mem_branchSites_iff hv).mpr hsite
    obtain ⟨id, hid, hlookup⟩ := exists_lookup_zip b.nodup_branchSites hlen hmem
    exact ⟨id, extract_probed hlen (hsite.lt_length hv) hlookup,
      probe.staysAbove_code (hids id hid) method⟩

/-- **Probes never overflow the stack**: whatever the instructions of a valid body do
to it, if all paths of the body stay within the room that it declares, then so do all
paths of the body with probes.  A probe leaves what is on the stack alone, and where
the stack is full it needs all the room that it asks for. -/
theorem keepsStack_of_instrument? {ω : Type} [WordSource ω] {b : MethodBody}
    (hvalid : b.validate = .ok ()) (plan : StackPlan) (probe : Probe) (method : String)
    (hroom : b.maxStack.toNat + probe.kind.stackDepth.toNat ≤ 65535) (g : Generator ω) :
    ∃ new g', b.instrument? probe method g = some (new, g') ∧
      KeepsStack plan probe method b new := by
  have hv : b.Valid := validate_eq_ok_iff.mp hvalid
  refine ⟨_, _, instrument?_eq_probed hv probe method g, ?_⟩
  apply keepsStack_probed hv plan probe method (Generator.length_take _ _) ?_ hroom
  intro id hid
  have hlt := Generator.lt_of_mem_take hid
  exact Nat.lt_of_lt_of_le hlt (Nat.pow_le_pow_right (by decide) g.width.le)

/-- A loop that runs on and on with the stack full. -/
def fullLoop : MethodBody where
  maxStack := 1
  locals := []
  instructions := [⟨.ldnull, .none⟩, ⟨.br, .target 1⟩]
  handlers := []

/-- What its instructions do. -/
def fullLoopPlan : StackPlan where
  effect i := if i = 0 then ⟨0, 1⟩ else ⟨0, 0⟩
  filterEntry _ := 1
  handlerEntry _ := 1

theorem fullLoop_bounded : fullLoopPlan.Bounded fullLoop := by
  intro i d hcomes
  have hdepth : i = 0 ∧ d = 0 ∨ i = 1 ∧ d = 1 := by
    apply hcomes.induct (P := fun i d => i = 0 ∧ d = 0 ∨ i = 1 ∧ d = 1) (.inl ⟨rfl, rfl⟩)
    intro i j d p hd hedge
    right
    -- both edges lead to the loop
    rcases hd with ⟨rfl, rfl⟩ | ⟨rfl, rfl⟩
    · cases hedge with
      | next => exact ⟨rfl, rfl⟩
      | target hi ht =>
        cases hi
        cases ht
      | filter hn => cases hn
      | handler hn => cases hn
    · cases hedge with
      | next hi hfalls =>
        cases hi
        cases hfalls
      | target hi ht =>
        cases hi
        exact ⟨List.mem_singleton.mp (List.mem_of_getElem? ht), rfl⟩
      | filter hn => cases hn
      | handler hn => cases hn
  have hle : d ≤ 1 := by omega
  exact hle

theorem fullLoop_keepsStack :
    fullLoop.validate = .ok () ∧ fullLoopPlan.Bounded fullLoop ∧
      ∃ new g', fullLoop.instrument? ⟨.inlineBitset, TraceType.reference .here⟩ "M"
          (Identifier.fresh .bitset) = some (new, g') ∧
        (fullLoopPlan.around fullLoop new ⟨.inlineBitset, TraceType.reference .here⟩).Bounded new ∧
        ∀ room : Nat, (∀ k d, (fullLoopPlan.around fullLoop new
            ⟨.inlineBitset, TraceType.reference .here⟩).Comes new k d → d ≤ 1 + room) →
          5 ≤ room := by
  have hroom : fullLoop.maxStack.toNat + ProbeKind.inlineBitset.stackDepth.toNat ≤ 65535 := by
    decide
  obtain ⟨new, g', hnew, hkeeps⟩ := keepsStack_of_instrument? (b := fullLoop) rfl fullLoopPlan
    ⟨.inlineBitset, TraceType.reference .here⟩ "M" hroom (Identifier.fresh .bitset)
  refine ⟨rfl, fullLoop_bounded, new, g', hnew, hkeeps.bounded fullLoop_bounded, ?_⟩
  have hloop : (⟨.br, .target 1⟩ : Instruction) ∈ fullLoop.instructions :=
    List.mem_cons_of_mem _ List.mem_cons_self
  have hsite : fullLoop.IsSite 1 := .target hloop List.mem_cons_self
  exact hkeeps.least 1 hsite ⟨[(.next, 1)], .cons (.next rfl rfl) (.nil 1), rfl⟩

end MethodBody

end BranchCoverage
