import Mathlib.Data.List.TakeDrop
import Mathlib.Data.List.TakeWhile
import Mathlib.Data.Nat.Notation

/-!
# Scanning characters

A scanner reads characters of a class as long as they come, and goes on with what is left.  On a text
that was put together from such a piece and something that does not continue it, it finds the two
pieces again.
-/

namespace Library

lemma span_append {p : Char → Bool} {cs rest : List Char} (hcs : ∀ c ∈ cs, p c = true)
    (hrest : ∀ c ∈ rest.head?, p c = false) : (cs ++ rest).span p = (cs, rest) := by
  rw [List.span_eq_takeWhile_dropWhile, List.takeWhile_append_of_pos hcs,
    List.dropWhile_append_of_pos hcs]
  cases rest with
  | nil => simp
  | cons c rest =>
      have hc : p c = false := hrest c rfl
      simp [hc]

/-- A text all of whose characters are in the class is read to its end. -/
lemma span_all {p : Char → Bool} {cs : List Char} (hcs : ∀ c ∈ cs, p c = true) :
    cs.span p = (cs, []) := by
  simpa using span_append hcs (by simp : ∀ c ∈ ([] : List Char).head?, p c = false)

lemma span_eq {p : Char → Bool} {cs front rest : List Char} (h : cs.span p = (front, rest)) :
    cs = front ++ rest ∧ ∀ c ∈ front, p c = true := by
  rw [List.span_eq_takeWhile_dropWhile, Prod.mk.injEq] at h
  obtain ⟨rfl, rfl⟩ := h
  exact ⟨(List.takeWhile_append_dropWhile).symm, fun c hc => List.mem_takeWhile_imp hc⟩

/-! ## Classes of ASCII characters

Digits and lower case letters, and what is not among them.
-/

lemma isDigit_iff {c : Char} : c.isDigit = true ↔ 48 ≤ c.toNat ∧ c.toNat ≤ 57 := by
  simp only [Char.isDigit, Bool.and_eq_true, decide_eq_true_eq, ge_iff_le, UInt32.le_iff_toNat_le]
  exact Iff.rfl

lemma isLower_iff {c : Char} : c.isLower = true ↔ 97 ≤ c.toNat ∧ c.toNat ≤ 122 := by
  show (decide (c.val ≥ 97) && decide (c.val ≤ 122)) = true ↔ _
  simp only [Bool.and_eq_true, decide_eq_true_eq, ge_iff_le, UInt32.le_iff_toNat_le]
  exact Iff.rfl

lemma isLower_of_isDigit {c : Char} (hc : c.isDigit = true) : c.isLower = false := by
  rw [isDigit_iff] at hc
  rw [Bool.eq_false_iff, ne_eq, isLower_iff]
  omega

/-! ## Digits

A run of digits is found whole, when no digit follows it.
-/

/-- One or more digits. -/
def Digits (cs : List Char) : Prop := cs ≠ [] ∧ ∀ c ∈ cs, c.isDigit = true

lemma digits_toDigits (n : ℕ) : Digits (Nat.toDigits 10 n) :=
  ⟨Nat.toDigits_ne_nil, fun _ hc => Nat.isDigit_of_mem_toDigits (by omega) (by omega) hc⟩

lemma toDigits_one : Nat.toDigits 10 1 = ['1'] := rfl

end Library
