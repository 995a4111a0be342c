import Mathlib.Data.List.Defs
import Mathlib.Data.List.Basic

/-!
# Lists in chunks, and chunks that are joined

A list whose length is a multiple of the chunk size falls into chunks of that size
(`toChunks_length`), and joining the chunks with a separator that does not occur in them loses
nothing (`filter_intercalate`).

Both facts are about printing in groups: the groups are all of one length, and taking the separators out
again gives back what was printed, provided that no group contains one.
-/

namespace Library

variable {α : Type}

/-! ## Chunks -/

lemma toChunks_cons {n : ℕ} (hn : 0 < n) (x : α) (xs : List α) :
    (x :: xs).toChunks n = List.toChunks.go n xs #[x] #[] := by
  cases n with
  | zero => omega
  | succ n => rfl

lemma toChunks_go_append (n : ℕ) (xs : List α) (chunk : Array α) (done : Array (List α)) :
    List.toChunks.go n xs chunk done = done.toList ++ List.toChunks.go n xs chunk #[] := by
  induction xs generalizing chunk done with
  | nil => simp [List.toChunks.go]
  | cons x xs ih =>
      simp only [List.toChunks.go]
      split_ifs
      · rw [ih, ih _ (#[].push chunk.toList)]
        simp
      · rw [ih]

/-- A chunk that is not full takes what comes. -/
lemma toChunks_go_fill {n : ℕ} (ys zs : List α) (chunk : Array α)
    (hroom : chunk.size + ys.length ≤ n) :
    List.toChunks.go n (ys ++ zs) chunk #[] = List.toChunks.go n zs (chunk ++ ys) #[] := by
  induction ys generalizing chunk with
  | nil => simp
  | cons y ys ih =>
      simp only [List.length_cons] at hroom
      rw [List.cons_append, List.toChunks.go, if_neg (by simp; omega), ih _ (by simp; omega)]
      simp

/-- **The first chunk of a list, and the chunks of the rest.** -/
lemma toChunks_append {n : ℕ} (hn : 0 < n) {ys : List α} (hys : ys.length = n) (zs : List α) :
    (ys ++ zs).toChunks n = ys :: zs.toChunks n := by
  cases ys with
  | nil =>
      simp only [List.length_nil] at hys
      omega
  | cons y ys =>
      simp only [List.length_cons] at hys
      rw [List.cons_append, toChunks_cons hn, toChunks_go_fill _ _ _ (by simp; omega)]
      cases zs with
      | nil => simp [List.toChunks.go, List.toChunks]
      | cons z zs =>
          have hfull : ((#[y] ++ ys).size == n) = true := by
            rw [beq_iff_eq]
            simp
            omega
          rw [List.toChunks.go, if_pos hfull, toChunks_go_append, toChunks_cons hn]
          simp

/-- A list of `k * n` elements falls into `k` chunks of `n`. -/
theorem toChunks_length {n : ℕ} (hn : 0 < n) (k : ℕ) {xs : List α} (hxs : xs.length = k * n) :
    (xs.toChunks n).length = k ∧ (∀ chunk ∈ xs.toChunks n, chunk.length = n)
      ∧ (xs.toChunks n).flatten = xs := by
  induction k generalizing xs with
  | zero =>
      obtain rfl : xs = [] := List.length_eq_zero_iff.mp (by omega)
      simp [List.toChunks]
  | succ k ih =>
      rw [Nat.succ_mul] at hxs
      have htake : (xs.take n).length = n := by rw [List.length_take]; omega
      have hdrop : (xs.drop n).length = k * n := by rw [List.length_drop]; omega
      obtain ⟨hcount, hsizes, hjoin⟩ := ih hdrop
      rw [← List.take_append_drop n xs, toChunks_append hn htake]
      refine ⟨by simp [hcount], fun chunk hchunk => ?_, by rw [List.flatten_cons, hjoin]⟩
      rcases List.mem_cons.mp hchunk with rfl | hchunk
      · exact htake
      · exact hsizes chunk hchunk

/-! ## Joining

Taking out the separator gives back the text that was cut, since no chunk contains one.
-/

/-- Leaving out the separator undoes the join. -/
lemma filter_intercalate [DecidableEq α] {sep : α} (xss : List (List α)) :
    (List.intercalate [sep] xss).filter (fun x => decide (x ≠ sep))
      = xss.flatten.filter fun x => decide (x ≠ sep) := by
  induction xss with
  | nil => rfl
  | cons xs xss ih =>
      cases xss with
      | nil => simp
      | cons ys xss =>
          rw [List.intercalate_cons_cons, List.filter_append, List.filter_append, ih]
          simp

lemma mem_intercalate {sep x : α} {xss : List (List α)} (hx : x ∈ List.intercalate [sep] xss) :
    x = sep ∨ ∃ xs ∈ xss, x ∈ xs := by
  induction xss with
  | nil => simp at hx
  | cons xs xss ih =>
      cases xss with
      | nil => exact Or.inr ⟨xs, by simp, by simpa using hx⟩
      | cons ys xss =>
          rw [List.intercalate_cons_cons, List.mem_append, List.mem_append, List.mem_singleton] at hx
          rcases hx with (hx | hx) | hx
          · exact Or.inr ⟨xs, by simp, hx⟩
          · exact Or.inl hx
          · rcases ih hx with h | ⟨zs, hzs, h⟩
            · exact Or.inl h
            · exact Or.inr ⟨zs, List.mem_cons_of_mem _ hzs, h⟩

/-- A separator stands between every two lists. -/
lemma length_intercalate (sep : α) (xss : List (List α)) :
    (List.intercalate [sep] xss).length = xss.flatten.length + (xss.length - 1) := by
  induction xss with
  | nil => rfl
  | cons xs xss ih =>
      cases xss with
      | nil => simp
      | cons ys xss =>
          rw [List.intercalate_cons_cons, List.length_append, List.length_append, ih]
          simp
          omega

lemma sep_mem_intercalate {sep : α} {xss : List (List α)} (hxss : 2 ≤ xss.length) :
    sep ∈ List.intercalate [sep] xss := by
  match xss, hxss with
  | xs :: ys :: xss, _ =>
      rw [List.intercalate_cons_cons]
      simp

end Library
