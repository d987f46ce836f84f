/-
Paths through a body and through the same body with probes.

`expand` makes a path of the old body one of the new body: before every visited
instruction come the steps through its probe, and every edge leads to the
beginning of what stands for its end.  `collapse` goes back, by keeping the
steps that begin a stretch.  It undoes `expand` (`collapse_expandFrom`), it
makes a path of the old body of every path of the new one (`trail_collapse`),
and if no exception breaks off a probe, then the path is the expansion of what
it collapses to, up to the last probe perhaps (`prefix_expandFrom_collapse`).
-/
import BranchCoverage.Proofs.Flow.Probed

namespace BranchCoverage.MethodBody

variable {b : MethodBody} {probe : Probe} {method : String} {ids : List UInt32}
  {i j k l : Nat} {p : Passage} {steps rest : List (Passage × Nat)}

/-! ### Quiet runs -/

theorem Trail.straightOn_append {n : Nat} (h : b.Trail (k + n) rest)
    (hstraight : ∀ m, k ≤ m → m < k + n → b.Edge m .next (m + 1)) :
    b.Trail k (straightOn k n ++ rest) := by
  induction n generalizing k with
  | zero => exact h
  | succ n ih =>
    refine .cons (hstraight k (Nat.le_refl k) (by omega)) (ih ?_ ?_)
    · rw [show k + 1 + n = k + (n + 1) by omega]
      exact h
    · intro m hle hlt
      exact hstraight m (by omega) (by omega)

theorem reaches_home (hv : b.Valid) (hlen : ids.length = b.branchSites.length)
    (hw : b.WithinOf probe i k) :
    Relation.ReflTransGen ((b.probed probe method ids).QuietStep (b.Quiet probe)) k
      (b.homeOf probe i) := by
  -- by induction on how much of the probe is left
  obtain ⟨n, hn⟩ := Nat.exists_eq_add_of_le hw.le_home
  induction n generalizing k with
  | zero =>
    obtain rfl : b.homeOf probe i = k := hn
    exact .refl
  | succ n ih =>
    have hlt : k < b.homeOf probe i := by
      have : b.homeOf probe i = k + (n + 1) := hn
      omega
    refine .head ⟨.next, edge_probed_quiet hlen hv hw hlt, rfl, rfl, i, hw, hlt⟩
      (ih (hw.succ hlt) ?_)
    omega

/-- **A body with probes is bisimilar to the body without them**, an instruction
to every index of the stretch that stands for it. -/
theorem bisimilar_probed (hv : b.Valid) (hlen : ids.length = b.branchSites.length) :
    Bisimilar b (b.probed probe method ids) (b.Quiet probe) (b.WithinOf probe) where
  forth := by
    intro i j k p hw hedge
    exact ⟨_, _, reaches_home hv hlen hw, edge_probed hlen hedge,
      not_quiet_home, within_entry⟩
  back := by
    intro i k l p hw hedge
    obtain ⟨i', -, hw', hcases⟩ := edge_probed_cases hlen hv hedge
    obtain rfl := hw.unique hw'
    rcases hcases with hquiet | ⟨hloud, j, hold, rfl⟩
    · exact .inl ⟨hquiet, hquiet.within hw⟩
    · refine .inr ⟨?_, j, hold, within_entry⟩
      rcases hloud with rfl | hraises
      · exact not_quiet_home
      · exact not_quiet_raise hraises

/-! ### Expansion -/

/-- The path of the new body from `k`, which is in the stretch of `i`, that does
what a path of the old body does from `i`. -/
def expandFrom (b : MethodBody) (probe : Probe) :
    Nat → Nat → List (Passage × Nat) → List (Passage × Nat)
  | i, k, [] => straightOn k (b.homeOf probe i - k)
  | i, k, (p, j) :: rest =>
    straightOn k (b.homeOf probe i - k) ++
      (p, b.entryOf probe j) :: expandFrom b probe j (b.entryOf probe j) rest

theorem expandFrom_of_lt (hk : k < b.homeOf probe i) :
    b.expandFrom probe i k steps = (.next, k + 1) :: b.expandFrom probe i (k + 1) steps := by
  have hsub : b.homeOf probe i - k = (b.homeOf probe i - (k + 1)) + 1 := by omega
  cases steps with
  | nil =>
    rw [expandFrom, expandFrom, hsub]
    rfl
  | cons step rest =>
    rw [expandFrom, expandFrom, hsub]
    rfl

/-- The path of the new body that does what a path of the old body does: every
visited instruction is reached through its probe. -/
def expand (b : MethodBody) (probe : Probe) (i : Nat) (steps : List (Passage × Nat)) :
    List (Passage × Nat) :=
  b.expandFrom probe i (b.entryOf probe i) steps

/-- The path of the old body that a path of the new body makes, seen at the
beginnings of stretches. -/
def collapse (b : MethodBody) (probe : Probe) (steps : List (Passage × Nat)) :
    List (Passage × Nat) :=
  steps.filterMap fun (p, k) => (b.origin probe k).map (p, ·)

theorem collapse_cons (p : Passage) (k : Nat) (rest : List (Passage × Nat)) :
    b.collapse probe ((p, k) :: rest)
      = ((b.origin probe k).map (p, ·)).toList ++ b.collapse probe rest := by
  rw [collapse, List.filterMap_cons]
  cases h : b.origin probe k <;> simp [h, collapse]

/-- A step to the beginning of a stretch is a step of the old body. -/
theorem collapse_cons_entryOf (hj : j ≤ b.length) :
    b.collapse probe ((p, b.entryOf probe j) :: rest) = (p, j) :: b.collapse probe rest := by
  rw [collapse_cons, origin_entryOf hj]
  rfl

/-- A step inside a stretch is none. -/
theorem collapse_cons_quiet (hw : b.WithinOf probe i k) (hk : k < b.homeOf probe i) :
    b.collapse probe ((p, k + 1) :: rest) = b.collapse probe rest := by
  have hne : k + 1 ≠ b.entryOf probe i := by
    have hle : b.entryOf probe i ≤ k := hw.entry_le
    omega
  rw [collapse_cons, origin_eq_none (hw.succ hk) hne]
  rfl

theorem collapse_straightOn_append {n : Nat} (hw : b.WithinOf probe i k)
    (hn : k + n ≤ b.homeOf probe i) :
    b.collapse probe (straightOn k n ++ rest) = b.collapse probe rest := by
  induction n generalizing k with
  | zero => rfl
  | succ n ih =>
    have hk : k < b.homeOf probe i := by omega
    show b.collapse probe ((.next, k + 1) :: (straightOn (k + 1) n ++ rest)) = _
    rw [collapse_cons_quiet hw hk]
    exact ih (hw.succ hk) (by omega)

/-! ### Paths of the old body -/

section

variable (hv : b.Valid) (hlen : ids.length = b.branchSites.length)

include hv

/-- Seen at the beginnings of stretches, the expansion of a path is that path. -/
theorem collapse_expandFrom (hw : b.WithinOf probe i k) (h : b.Trail i steps) :
    b.collapse probe (b.expandFrom probe i k steps) = steps := by
  induction h generalizing k with
  | nil i =>
    have hhome := Nat.le_of_eq (Nat.add_sub_cancel' hw.le_home)
    rw [expandFrom, ← List.append_nil (straightOn _ _), collapse_straightOn_append hw hhome]
    rfl
  | @cons i j p rest hedge _ ih =>
    have hhome := Nat.le_of_eq (Nat.add_sub_cancel' hw.le_home)
    rw [expandFrom, collapse_straightOn_append hw hhome,
      collapse_cons_entryOf (hedge.le_length hv), ih within_entry]

include hlen

theorem trail_expandFrom (hw : b.WithinOf probe i k) (h : b.Trail i steps) :
    (b.probed probe method ids).Trail k (b.expandFrom probe i k steps) := by
  have hstraight : ∀ {i k : Nat}, b.WithinOf probe i k →
      ∀ m, k ≤ m → m < k + (b.homeOf probe i - k) →
        (b.probed probe method ids).Edge m .next (m + 1) := by
    intro i k hw m hle hlt
    have hm : m < b.homeOf probe i := by omega
    exact edge_probed_quiet hlen hv
      ⟨Nat.le_trans hw.entry_le hle, Nat.le_of_lt hm⟩ hm
  induction h generalizing k with
  | nil i =>
    rw [expandFrom, ← List.append_nil (straightOn _ _)]
    exact .straightOn_append (.nil _) (hstraight hw)
  | @cons i j p rest hedge _ ih =>
    refine .straightOn_append ?_ (hstraight hw)
    rw [Nat.add_sub_cancel' hw.le_home]
    exact .cons (edge_probed hlen hedge) (ih within_entry)

/-! ### Paths of the new body -/

/-- Every path of the new body makes one of the old body. -/
theorem trail_collapse (hw : b.WithinOf probe i k)
    (h : (b.probed probe method ids).Trail k steps) : b.Trail i (b.collapse probe steps) := by
  induction h generalizing i with
  | nil k => exact .nil i
  | @cons k l p rest hedge _ ih =>
    obtain ⟨i', -, hw', hcases⟩ := edge_probed_cases hlen hv hedge
    obtain rfl := hw.unique hw'
    rcases hcases with hquiet | ⟨-, j, hold, rfl⟩
    · -- the step stays in the stretch, and is dropped
      have hw'' := hquiet.within hw
      obtain ⟨rfl, rfl, -⟩ := hquiet
      rw [collapse_cons_quiet hw hw''.le_home]
      exact ih hw''
    · rw [collapse_cons_entryOf (hold.le_length hv)]
      exact .cons hold (ih within_entry)

end

/-- No exception breaks off a probe on the path. -/
def Unbroken (b : MethodBody) (probe : Probe) : Nat → List (Passage × Nat) → Prop
  | _, [] => True
  | k, (p, l) :: rest => (p.raises → ∃ i, k = b.homeOf probe i) ∧ Unbroken b probe l rest

/-- If no exception breaks off a probe, a path of the new body is the expansion
of the one that it makes, as far as it goes. -/
theorem prefix_expandFrom_collapse (hv : b.Valid) (hlen : ids.length = b.branchSites.length)
    (hw : b.WithinOf probe i k) (h : (b.probed probe method ids).Trail k steps)
    (hunbroken : b.Unbroken probe k steps) :
    steps <+: b.expandFrom probe i k (b.collapse probe steps) := by
  induction h generalizing i with
  | nil k => exact List.nil_prefix
  | @cons k l p rest hedge _ ih =>
    obtain ⟨hraise, hrest⟩ := hunbroken
    obtain ⟨i', -, hw', hcases⟩ := edge_probed_cases hlen hv hedge
    obtain rfl := hw.unique hw'
    rcases hcases with hquiet | ⟨hloud, j, hold, rfl⟩
    · have hw'' := hquiet.within hw
      obtain ⟨rfl, rfl, -⟩ := hquiet
      have hk : k < b.homeOf probe i := hw''.le_home
      rw [collapse_cons_quiet hw hk, expandFrom_of_lt hk]
      exact (List.prefix_cons_inj _).mpr (ih hw'' hrest)
    · -- control leaves the stretch, and did so from the instruction itself
      have hk : k = b.homeOf probe i := by
        rcases hloud with hk | hp
        · exact hk
        · obtain ⟨i', rfl⟩ := hraise hp
          rw [hw.unique within_home]
      rw [collapse_cons_entryOf (hold.le_length hv), expandFrom, hk, Nat.sub_self]
      exact (List.prefix_cons_inj _).mpr (ih within_entry hrest)

end BranchCoverage.MethodBody
