/-
Ascending lists as finite sets.

Putting an element into its place adds that element and no other
(`mem_insert`, without any law of the order), and keeps a strictly ascending
list strictly ascending (`pairwise_insert`, which needs the order to be
transitive and total on distinct elements).  Building a list from nothing
inherits both (`mem_ofList`, `pairwise_ofList`).
-/
import BranchCoverage.Sorted
import Mathlib.Order.Defs.Unbundled

namespace BranchCoverage.Sorted

variable {α : Type} [LT α] [DecidableRel ((· < ·) : α → α → Prop)] [DecidableEq α]

/-! ### Members -/

@[simp] theorem mem_insert {x y : α} {xs : List α} :
    y ∈ insert x xs ↔ y = x ∨ y ∈ xs := by
  induction xs with
  | nil => simp [insert]
  | cons z rest ih =>
    rw [insert]
    split
    · next h =>
      rw [h, List.mem_cons]
      exact or_self_left.symm
    · split
      · rw [List.mem_cons]
      · rw [List.mem_cons, ih, List.mem_cons]
        exact or_left_comm

@[simp] theorem mem_ofList {y : α} {xs : List α} : y ∈ ofList xs ↔ y ∈ xs := by
  induction xs with
  | nil => rfl
  | cons x rest ih =>
    show y ∈ insert x (ofList rest) ↔ y ∈ x :: rest
    rw [mem_insert, ih, List.mem_cons]

/-! ### Order -/

variable [IsTrans α (· < ·)] [Std.Trichotomous ((· < ·) : α → α → Prop)]

/-- Putting an element into its place keeps the list ascending. -/
theorem pairwise_insert {x : α} {xs : List α} (h : xs.Pairwise (· < ·)) :
    (insert x xs).Pairwise (· < ·) := by
  induction xs with
  | nil => exact List.pairwise_singleton _ _
  | cons y rest ih =>
    obtain ⟨hy, hrest⟩ := List.pairwise_cons.mp h
    rw [insert]
    split
    · exact h
    · next hne =>
      split
      · next hlt =>
        refine List.pairwise_cons.mpr ⟨?_, h⟩
        intro z hz
        rcases List.mem_cons.mp hz with rfl | hz
        · exact hlt
        · exact IsTrans.trans _ _ _ hlt (hy z hz)
      · next hnlt =>
        have hyx : y < x := by
          rcases trichotomous_of (· < ·) x y with hlt | heq | hgt
          · exact absurd hlt hnlt
          · exact absurd heq hne
          · exact hgt
        refine List.pairwise_cons.mpr ⟨?_, ih hrest⟩
        intro z hz
        rcases mem_insert.mp hz with rfl | hz
        · exact hyx
        · exact hy z hz

theorem pairwise_ofList (xs : List α) : (ofList xs).Pairwise (· < ·) := by
  induction xs with
  | nil => exact List.Pairwise.nil
  | cons x rest ih => exact pairwise_insert ih

end BranchCoverage.Sorted
