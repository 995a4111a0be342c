import Mathlib.Data.List.Sort
import Mathlib.Data.List.Destutter

/-!
# Sorting by a flag, and sorting without repetition

Two uses of a stable sort.  By a Boolean it puts one class before the other and keeps the order
inside each (`insertionSort_flag`).  Followed by the removal of equal neighbours it gives the strictly
increasing list of the same elements (`sortDedup`).
-/

namespace Library

variable {α : Type}

/-- An element goes past everything that it is not below. -/
lemma orderedInsert_append {r : α → α → Prop} [DecidableRel r] {x : α} {ys : List α}
    (hys : ∀ y ∈ ys, ¬ r x y) (zs : List α) :
    (ys ++ zs).orderedInsert r x = ys ++ zs.orderedInsert r x := by
  induction ys with
  | nil => rfl
  | cons y ys ih =>
      rw [List.cons_append, List.orderedInsert_of_not_le _ _ (hys y (by simp)),
        ih fun z hz => hys z (by simp [hz]), List.cons_append]

/-- **A stable sort by a flag**: those without it, then those with it, each in the order they
came. -/
theorem insertionSort_flag (flag : α → Bool) (xs : List α) :
    xs.insertionSort (fun a b => flag a ≤ flag b)
      = xs.filter (fun a => !flag a) ++ xs.filter flag := by
  induction xs with
  | nil => rfl
  | cons x xs ih =>
      rw [List.insertionSort_cons, ih]
      cases hx : flag x with
      | false =>
          have hfront : ∀ l : List α, l.orderedInsert (fun a b => flag a ≤ flag b) x = x :: l := by
            intro l
            cases l with
            | nil => rfl
            | cons y l => simp [hx]
          rw [hfront]
          simp [hx]
      | true =>
          have hpast : ∀ y ∈ xs.filter (fun a => !flag a), ¬ flag x ≤ flag y := by
            intro y hy
            simp only [List.mem_filter, Bool.not_eq_true'] at hy
            simp [hx, hy.2]
          have hstay : (xs.filter flag).orderedInsert (fun a b => flag a ≤ flag b) x
              = x :: xs.filter flag := by
            cases hflagged : xs.filter flag with
            | nil => rfl
            | cons y l =>
                have hy : y ∈ xs.filter flag := by simp [hflagged]
                simp [hx, (List.mem_filter.mp hy).2]
          rw [orderedInsert_append hpast, hstay]
          simp [hx]

/-! ## Without repetition

Sorted and without equal neighbours means strictly increasing.
-/

variable [LinearOrder α]

/-- Sort, then drop every element equal to the one before it. -/
def sortDedup (xs : List α) : List α := (xs.insertionSort (· ≤ ·)).destutter (· ≠ ·)

/-- An element that is dropped equals one that stays. -/
lemma mem_destutter'_ne {x y : α} {xs : List α} :
    y ∈ xs.destutter' (· ≠ ·) x ↔ y = x ∨ y ∈ xs := by
  induction xs generalizing x with
  | nil => simp
  | cons z xs ih =>
      by_cases hz : x = z
      · rw [List.destutter'_cons_neg _ (not_not.mpr hz), ih, hz]
        simp
      · rw [List.destutter'_cons_pos _ hz, List.mem_cons, ih, List.mem_cons]

/-- **Nothing is lost.** -/
theorem mem_sortDedup {y : α} {xs : List α} : y ∈ sortDedup xs ↔ y ∈ xs := by
  have hsort : y ∈ xs.insertionSort (· ≤ ·) ↔ y ∈ xs := List.mem_insertionSort _
  rw [sortDedup, ← hsort]
  cases xs.insertionSort (· ≤ ·) with
  | nil => simp
  | cons x l => rw [List.destutter_cons', mem_destutter'_ne, List.mem_cons]

/-- **Nothing comes twice**, and the order is the increasing one. -/
theorem sortDedup_strict (xs : List α) : (sortDedup xs).Pairwise (· < ·) := by
  have hsorted : (sortDedup xs).Pairwise (· ≤ ·) :=
    (List.pairwise_insertionSort (· ≤ ·) xs).sublist (List.destutter_sublist _ _)
  have hne : (sortDedup xs).IsChain (· ≠ ·) := List.isChain_destutter _ _
  have hle := hsorted.isChain
  rw [List.isChain_iff_getElem] at hle hne
  refine List.isChain_iff_pairwise.mp (List.isChain_iff_getElem.mpr fun i hi => ?_)
  exact lt_of_le_of_ne (hle i hi) (hne i hi)

end Library
