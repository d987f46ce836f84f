/-
Old and new indices.

Once code of length `gap` stands in front of every site, what stands for the
old index `i` is the stretch from `entry sites gap i` to `home sites gap i`:
the code in front of the instruction, if it is a site, and the instruction
itself.  The stretches follow each other without a gap (`entry_succ`), so
every new index is in the stretch of exactly one old one
(`exists_within`, `Within.unique`), and comparing new indices with the
beginnings of stretches is comparing old ones (`Within.entry_le_iff`,
`Within.lt_entry_iff`).

Nothing here depends on what the sites are.  Only `home_of_mem` needs that no
site is listed twice.
-/
import BranchCoverage.Probe.Insertion

namespace BranchCoverage.MethodBody

/-- Where an instruction itself stands once code of length `gap` is in front
of every site. -/
def home (sites : List Nat) (gap index : Nat) : Nat :=
  index + gap * sites.countP (· ≤ index)

/-- The new index `k` is in the stretch that stands for the old index `i`. -/
structure Within (sites : List Nat) (gap i k : Nat) : Prop where
  entry_le : entry sites gap i ≤ k
  le_home : k ≤ home sites gap i

/-! ### Stretches follow each other -/

section

variable (sites : List Nat) (gap : Nat) {i j : Nat}

@[simp] theorem entry_zero : entry sites gap 0 = 0 := by
  simp [entry]

/-- Behind an instruction begins the stretch of the next one. -/
theorem entry_succ (i : Nat) : entry sites gap (i + 1) = home sites gap i + 1 := by
  have hcount : sites.countP (· < i + 1) = sites.countP (· ≤ i) := by
    simp only [Nat.lt_succ_iff]
  rw [entry, home, hcount]
  omega

theorem entry_le_home (i : Nat) : entry sites gap i ≤ home sites gap i := by
  have hcount : sites.countP (· < i) ≤ sites.countP (· ≤ i) := by
    refine List.countP_mono_left fun s _ hs => ?_
    simp only [decide_eq_true_eq] at hs ⊢
    omega
  exact Nat.add_le_add_left (Nat.mul_le_mul_left gap hcount) i

theorem home_lt_entry (h : i < j) : home sites gap i < entry sites gap j := by
  induction j with
  | zero => exact absurd h (Nat.not_lt_zero i)
  | succ j ih =>
    rw [entry_succ]
    rcases Nat.lt_succ_iff_lt_or_eq.mp h with hlt | rfl
    · have hle := entry_le_home sites gap j
      have := ih hlt
      omega
    · exact Nat.lt_succ_self _

theorem entry_lt_entry (h : i < j) : entry sites gap i < entry sites gap j :=
  Nat.lt_of_le_of_lt (entry_le_home sites gap i) (home_lt_entry sites gap h)

theorem entry_lt_entry_iff : entry sites gap i < entry sites gap j ↔ i < j := by
  constructor
  · intro h
    rcases Nat.lt_trichotomy i j with hlt | rfl | hgt
    · exact hlt
    · exact absurd h (Nat.lt_irrefl _)
    · exact absurd h (Nat.lt_asymm (entry_lt_entry sites gap hgt))
  · exact entry_lt_entry sites gap

theorem entry_inj : entry sites gap i = entry sites gap j ↔ i = j := by
  constructor
  · intro h
    rcases Nat.lt_trichotomy i j with hlt | heq | hgt
    · exact absurd h (Nat.ne_of_lt (entry_lt_entry sites gap hlt))
    · exact heq
    · exact absurd h.symm (Nat.ne_of_lt (entry_lt_entry sites gap hgt))
  · rintro rfl
    rfl

end

/-! ### Every new index is in one stretch -/

variable {sites : List Nat} {gap i j k : Nat}

theorem within_entry : Within sites gap i (entry sites gap i) :=
  ⟨Nat.le_refl _, entry_le_home sites gap i⟩

theorem within_home : Within sites gap i (home sites gap i) :=
  ⟨entry_le_home sites gap i, Nat.le_refl _⟩

/-- Before its last index, a stretch goes on. -/
theorem Within.succ (h : Within sites gap i k) (hk : k < home sites gap i) :
    Within sites gap i (k + 1) :=
  ⟨Nat.le_succ_of_le h.entry_le, hk⟩

theorem exists_within (sites : List Nat) (gap k : Nat) : ∃ i, Within sites gap i k := by
  induction k with
  | zero => exact ⟨0, Nat.le_of_eq (entry_zero sites gap), Nat.zero_le _⟩
  | succ k ih =>
    obtain ⟨i, hi⟩ := ih
    rcases Nat.lt_or_ge k (home sites gap i) with hlt | hge
    · exact ⟨i, hi.succ hlt⟩
    · -- the stretch of `i` ends at `k`, so the next one begins behind it
      have hk : k + 1 = entry sites gap (i + 1) := by
        rw [entry_succ, Nat.le_antisymm hi.le_home hge]
      exact ⟨i + 1, hk ▸ within_entry⟩

namespace Within

/-- A stretch begins at or before a new index exactly when it stands for the
index's own old index or one before it. -/
theorem entry_le_iff (h : Within sites gap i k) : entry sites gap j ≤ k ↔ j ≤ i := by
  constructor
  · intro hle
    refine Nat.le_of_not_lt fun hlt => ?_
    have hhome := home_lt_entry sites gap hlt
    have := h.le_home
    omega
  · intro hle
    have hmono : ¬ entry sites gap i < entry sites gap j := by
      rw [entry_lt_entry_iff]
      omega
    have := h.entry_le
    omega

theorem lt_entry_iff (h : Within sites gap i k) : k < entry sites gap j ↔ i < j := by
  rw [← Nat.not_le, h.entry_le_iff, Nat.not_le]

theorem unique (h : Within sites gap i k) (h' : Within sites gap j k) : i = j :=
  Nat.le_antisymm (h'.entry_le_iff.mp h.entry_le) (h.entry_le_iff.mp h'.entry_le)

/-- Within a stretch only its first index is the beginning of one. -/
theorem eq_of_entry (h : Within sites gap i (entry sites gap j)) : i = j :=
  h.unique within_entry

end Within

/-! ### What a site changes -/

/-- The instruction of a site stands behind its code. -/
theorem home_of_mem (hnodup : sites.Nodup) (h : i ∈ sites) :
    home sites gap i = entry sites gap i + gap := by
  have hcount : sites.countP (· ≤ i) = sites.countP (· < i) + 1 := by
    induction sites with
    | nil => cases h
    | cons s rest ih =>
      obtain ⟨hs, hrest⟩ := List.nodup_cons.mp hnodup
      rw [List.countP_cons, List.countP_cons]
      rcases List.mem_cons.mp h with rfl | hmem
      · -- `i` itself is counted once, and it is not met again
        have hne : rest.countP (· ≤ i) = rest.countP (· < i) := by
          refine List.countP_congr fun s hs' => ?_
          have : s ≠ i := fun heq => hs (heq ▸ hs')
          simp only [decide_eq_true_eq]
          omega
        simp [hne]
      · have hne : s ≠ i := fun heq => hs (heq ▸ hmem)
        have hiff : (s ≤ i) ↔ (s < i) := by omega
        rw [ih hrest hmem]
        simp only [hiff]
        omega
  rw [home, entry, hcount, Nat.mul_add]
  omega

/-- In front of any other instruction stands nothing. -/
theorem home_of_notMem (h : i ∉ sites) : home sites gap i = entry sites gap i := by
  have hcount : sites.countP (· ≤ i) = sites.countP (· < i) := by
    refine List.countP_congr fun s hs => ?_
    have : s ≠ i := fun heq => h (heq ▸ hs)
    simp only [decide_eq_true_eq]
    omega
  rw [home, entry, hcount]

/-- Only in front of a site does a stretch hold more than the instruction. -/
theorem Within.mem (h : Within sites gap i k) (hk : k < home sites gap i) : i ∈ sites := by
  refine Decidable.byContradiction fun hmem => ?_
  have hhome : home sites gap i = entry sites gap i := home_of_notMem hmem
  have hle := h.entry_le
  omega

end BranchCoverage.MethodBody
