import LuksEnroll.Library.Scanning
import Mathlib.Computability.RegularExpressions
import Mathlib.Tactic.IntervalCases

/-!
# Patterns

A few regular expressions and the texts they match, for scanners that stand in for one.

The expressions are Mathlib's, with the languages they denote.  What is added is the membership in each of
the pieces that the scanners use: a fixed text, a class of characters, and a run of digits.
-/

namespace Library

namespace Pattern

variable {α : Type*}

/-- These symbols, one after the other. -/
def text (w : List α) : RegularExpression α :=
  w.foldr (fun a r => RegularExpression.char a * r) 1

/-- One of these symbols. -/
def oneOf (w : List α) : RegularExpression α :=
  w.foldr (fun a r => RegularExpression.char a + r) 0

/-- Once or more often. -/
def many1 (r : RegularExpression α) : RegularExpression α := r * RegularExpression.star r

/-- `[0-9]`. -/
def digit : RegularExpression Char := oneOf "0123456789".toList

lemma mem_text {w v : List α} : v ∈ (text w).matches' ↔ v = w := by
  induction w generalizing v with
  | nil => exact Language.mem_one _
  | cons a w ih =>
      show v ∈ (RegularExpression.char a).matches' * (text w).matches' ↔ v = a :: w
      rw [Language.mem_mul]
      constructor
      · rintro ⟨x, hx, y, hy, rfl⟩
        obtain rfl : x = [a] := hx
        rw [ih.mp hy, List.singleton_append]
      · rintro rfl
        exact ⟨[a], rfl, w, ih.mpr rfl, rfl⟩

/-- A class of characters matches its members, one at a time. -/
lemma mem_oneOf {w v : List α} : v ∈ (oneOf w).matches' ↔ ∃ a ∈ w, v = [a] := by
  induction w with
  | nil =>
      constructor
      · intro h
        exact absurd h (Language.notMem_zero v)
      · rintro ⟨a, ha, -⟩
        cases ha
  | cons a w ih =>
      show v ∈ (RegularExpression.char a).matches' + (oneOf w).matches' ↔ _
      rw [Language.mem_add, ih, List.exists_mem_cons_iff]
      exact Iff.rfl

lemma mem_many1_oneOf {w v : List α} : v ∈ (many1 (oneOf w)).matches' ↔ v ≠ [] ∧ ∀ a ∈ v, a ∈ w := by
  show v ∈ (oneOf w).matches' * KStar.kstar (oneOf w).matches' ↔ _
  rw [Language.mem_mul]
  constructor
  · rintro ⟨x, hx, y, hy, rfl⟩
    obtain ⟨a, ha, rfl⟩ := mem_oneOf.mp hx
    obtain ⟨L, rfl, hL⟩ := Language.mem_kstar.mp hy
    refine ⟨List.cons_ne_nil _ _, fun b hb => ?_⟩
    rw [List.singleton_append, List.mem_cons, List.mem_flatten] at hb
    rcases hb with rfl | ⟨z, hz, hbz⟩
    · exact ha
    · obtain ⟨c, hc, rfl⟩ := mem_oneOf.mp (hL z hz)
      rw [List.mem_singleton] at hbz
      exact hbz ▸ hc
  · rintro ⟨hne, hall⟩
    obtain ⟨a, v, rfl⟩ := List.exists_cons_of_ne_nil hne
    refine ⟨[a], mem_oneOf.mpr ⟨a, hall a (by simp), rfl⟩, v, ?_, rfl⟩
    refine Language.mem_kstar.mpr ⟨v.map fun b => [b], ?_, ?_⟩
    · rw [← List.flatMap_def, List.flatMap_singleton']
    · intro z hz
      obtain ⟨b, hb, rfl⟩ := List.mem_map.mp hz
      exact mem_oneOf.mpr ⟨b, hall b (by simp [hb]), rfl⟩

lemma mem_digits {c : Char} : c ∈ "0123456789".toList ↔ c.isDigit = true := by
  constructor
  · intro hc
    exact List.all_eq_true.mp (show "0123456789".toList.all Char.isDigit = true from rfl) c hc
  · intro hc
    obtain ⟨hlow, hhigh⟩ := isDigit_iff.mp hc
    rw [← Char.ofNat_toNat c]
    interval_cases c.toNat <;> simp

lemma mem_many1_digit {v : List Char} : v ∈ (many1 digit).matches' ↔ Digits v := by
  rw [digit, mem_many1_oneOf]
  exact and_congr_right fun _ => forall₂_congr fun _ _ => mem_digits

end Pattern

end Library
