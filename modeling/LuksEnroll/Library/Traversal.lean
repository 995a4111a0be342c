import Mathlib.Data.List.Forall2

/-!
# Loops that stop at the first failure

`mapM` in `Except` returns a list exactly when every step returns, and then what each of them returned.
-/

namespace Library

variable {ε α β : Type} {f : α → Except ε β}

/-- What the loop returns is what its steps return. -/
theorem mapM_eq_ok {xs : List α} {ys : List β} :
    xs.mapM f = Except.ok ys ↔ List.Forall₂ (fun x y => f x = Except.ok y) xs ys := by
  induction xs generalizing ys with
  | nil => simp [pure, Except.pure, eq_comm]
  | cons x xs ih =>
      rw [List.mapM_cons, List.forall₂_cons_left_iff]
      simp only [← ih]
      rcases f x with e | y
      · simp [bind, Except.bind]
      · rcases xs.mapM f with e | rest
        · simp [bind, Except.bind]
        · simp [bind, Except.bind, pure, Except.pure, eq_comm]

/-- Results can be put in a list if there is one for each. -/
theorem exists_forall₂ {R : α → β → Prop} {xs : List α} :
    (∃ ys, List.Forall₂ R xs ys) ↔ ∀ x ∈ xs, ∃ y, R x y := by
  induction xs with
  | nil => simp
  | cons x xs ih =>
      rw [List.forall_mem_cons, ← ih]
      constructor
      · rintro ⟨ys, hys⟩
        cases hys with
        | cons hx hrest => exact ⟨⟨_, hx⟩, _, hrest⟩
      · rintro ⟨⟨y, hx⟩, ys, hrest⟩
        exact ⟨y :: ys, List.Forall₂.cons hx hrest⟩

/-- **One failing step fails the loop**, and nothing else does. -/
theorem exists_mapM_eq_ok {xs : List α} :
    (∃ ys, xs.mapM f = Except.ok ys) ↔ ∀ x ∈ xs, ∃ y, f x = Except.ok y := by
  simp only [mapM_eq_ok]
  exact exists_forall₂

/-- Where results are unique, the results in the list are those of its elements. -/
lemma exists_mem_iff_of_forall₂ {R : α → β → Prop} (hR : Relator.RightUnique R) {xs : List α}
    {ys : List β} (h : List.Forall₂ R xs ys) {y : β} : (∃ x ∈ xs, R x y) ↔ y ∈ ys := by
  induction h with
  | nil => simp
  | cons hx _ ih =>
      rw [List.exists_mem_cons_iff, ih, List.mem_cons]
      refine or_congr_left ?_
      constructor
      · intro hy
        exact hR hy hx
      · rintro rfl
        exact hx

lemma mem_of_mapM_eq_ok {xs : List α} {ys : List β} (h : xs.mapM f = Except.ok ys) {x : α}
    (hx : x ∈ xs) {y : β} (hy : f x = Except.ok y) : y ∈ ys := by
  rw [mapM_eq_ok] at h
  induction h with
  | nil => cases hx
  | cons hhead _ ih =>
      rcases List.mem_cons.mp hx with rfl | hx
      · exact Except.ok.inj (hhead.symm.trans hy) ▸ List.mem_cons_self
      · exact List.mem_cons_of_mem _ (ih hx)

lemma mapM_map_eq_ok {g : β → α} {ys : List β} (h : ∀ y ∈ ys, f (g y) = Except.ok y) :
    (ys.map g).mapM f = Except.ok ys := by
  rw [mapM_eq_ok, List.forall₂_map_left_iff, List.forall₂_same]
  exact h

end Library
