import LuksEnroll.Library.Scanning
import Mathlib.Data.Nat.Notation
import Mathlib.Data.Int.Notation
import Mathlib.Tactic.SplitIfs

/-!
# Decimal text and bounded integers

Reading a bounded integer from text: an optional sign, at least one ASCII digit, and the value
within the bounds.  Printing is `toString`; the two are inverse within the bounds.

Three readers are built on the digits: the plain number, the number with a sign, and the number with a
sign that has to fit into a signed integer of a given width.  A text that is no number in its range is
refused, and none is cut to size.
-/

namespace Library

/-- The value of a non-empty string of ASCII digits. -/
def parseDigits (cs : List Char) : Option ℕ :=
  if cs ≠ [] ∧ cs.all Char.isDigit then some (Nat.ofDigitChars 10 cs 0) else none

/-- An optional sign followed by digits. -/
def parseSigned : List Char → Option ℤ
  | '+' :: cs => (parseDigits cs).map Int.ofNat
  | '-' :: cs => (parseDigits cs).map fun n => -Int.ofNat n
  | cs => (parseDigits cs).map Int.ofNat

/-- Read an integer in `lo ≤ n ≤ hi`. -/
def parseInt (lo hi : ℤ) (s : String) : Option ℤ :=
  (parseSigned s.toList).filter fun n => decide (lo ≤ n ∧ n ≤ hi)

lemma parseDigits_toDigits (n : ℕ) : parseDigits (Nat.toDigits 10 n) = some n := by
  have hne : Nat.toDigits 10 n ≠ [] := Nat.toDigits_ne_nil
  have hall : (Nat.toDigits 10 n).all Char.isDigit = true := by
    rw [List.all_eq_true]
    exact fun c hc => Nat.isDigit_of_mem_toDigits (by omega) (by omega) hc
  rw [parseDigits, if_pos ⟨hne, hall⟩, Nat.ofDigitChars_ten_toDigits]

/-- Digits carry no sign, so they are read as they stand. -/
lemma parseSigned_of_isDigit {c : Char} (hc : c.isDigit = true) (cs : List Char) :
    parseSigned (c :: cs) = (parseDigits (c :: cs)).map Int.ofNat := by
  have hplus : c ≠ '+' := by rintro rfl; exact absurd hc (by decide)
  have hminus : c ≠ '-' := by rintro rfl; exact absurd hc (by decide)
  rw [parseSigned.eq_def]
  split
  · rename_i h; exact absurd (List.cons.inj h).1 hplus
  · rename_i h; exact absurd (List.cons.inj h).1 hminus
  · rfl

lemma exists_digit_cons (n : ℕ) : ∃ c cs, Nat.toDigits 10 n = c :: cs ∧ c.isDigit = true := by
  cases hcs : Nat.toDigits 10 n with
  | nil => exact absurd hcs Nat.toDigits_ne_nil
  | cons c cs =>
      refine ⟨c, cs, rfl, ?_⟩
      exact Nat.isDigit_of_mem_toDigits (b := 10) (n := n) (by omega) (by omega) (by simp [hcs])

lemma parseSigned_toDigits (n : ℕ) : parseSigned (Nat.toDigits 10 n) = some (n : ℤ) := by
  obtain ⟨c, cs, hcs, hc⟩ := exists_digit_cons n
  rw [hcs, parseSigned_of_isDigit hc, ← hcs, parseDigits_toDigits]
  rfl

/-- **Reading inverts printing** for natural numbers within the bounds. -/
lemma parseInt_toString {lo hi : ℤ} {n : ℕ} (hlo : lo ≤ n) (hhi : (n : ℤ) ≤ hi) :
    parseInt lo hi (toString n) = some (n : ℤ) := by
  rw [parseInt, Nat.toString_eq_repr, Nat.toList_repr, parseSigned_toDigits]
  simp [hlo, hhi]

/-- Different numbers are printed differently. -/
lemma toString_injective : Function.Injective (toString : ℕ → String) := by
  intro m n h
  have hm := @parseInt_toString 0 (max m n) m (by omega) (by omega)
  have hn := @parseInt_toString 0 (max m n) n (by omega) (by omega)
  rw [h, hn] at hm
  exact_mod_cast (Option.some.inj hm).symm

/-! ## With a sign

The sign is read first, and the digits after it.  A text that begins with a digit has no sign.
-/

/-- The text of an integer: its digits, after a minus if it is negative. -/
lemma toList_toString_int (n : ℤ) :
    (toString n).toList
      = if n < 0 then '-' :: Nat.toDigits 10 n.natAbs else Nat.toDigits 10 n.natAbs := by
  cases n with
  | ofNat m =>
      have hpos : ¬ (Int.ofNat m < 0) := by simp
      rw [if_neg hpos, show toString (Int.ofNat m) = m.repr from rfl, Nat.toList_repr]
      rfl
  | negSucc m =>
      rw [if_pos (Int.negSucc_lt_zero m), show toString (Int.negSucc m) = "-" ++ (m + 1).repr from rfl,
        String.toList_append, Nat.toList_repr]
      rfl

/-- A printed integer is read back, whatever its sign. -/
lemma parseSigned_toString (n : ℤ) : parseSigned (toString n).toList = some n := by
  rw [toList_toString_int]
  split_ifs with hneg
  · rw [parseSigned, parseDigits_toDigits, Option.map_some]
    have habs : -Int.ofNat n.natAbs = n := by
      show -(n.natAbs : ℤ) = n
      omega
    rw [habs]
  · rw [parseSigned_toDigits, Int.natAbs_of_nonneg (by omega)]

/-- **Reading inverts printing** for integers within the bounds. -/
theorem parseInt_toString_int {lo hi n : ℤ} (hlo : lo ≤ n) (hhi : n ≤ hi) :
    parseInt lo hi (toString n) = some n := by
  rw [parseInt, parseSigned_toString]
  simp [hlo, hhi]

/-- Different integers are printed differently. -/
lemma toString_int_injective : Function.Injective (toString : ℤ → String) := by
  intro m n h
  have hm := parseSigned_toString m
  rw [h, parseSigned_toString n] at hm
  exact (Option.some.inj hm).symm

lemma parseDigits_eq_some {cs : List Char} {n : ℕ} :
    parseDigits cs = some n ↔ Digits cs ∧ n = Nat.ofDigitChars 10 cs 0 := by
  have hiff : Digits cs ↔ cs ≠ [] ∧ cs.all Char.isDigit = true := by rw [Digits, List.all_eq_true]
  rw [parseDigits, hiff]
  split_ifs with h
  · rw [Option.some.injEq, eq_comm, iff_and_self]
    intro _
    exact h
  · constructor
    · intro hn
      cases hn
    · rintro ⟨hcs, -⟩
      exact absurd hcs h

/-- **What a text without a plus says**: digits, after a minus or not. -/
theorem parseSigned_eq_some {cs : List Char} (hplus : '+' ∉ cs) {n : ℤ} :
    parseSigned cs = some n ↔ ∃ ds, Digits ds
      ∧ (cs = ds ∧ n = Nat.ofDigitChars 10 ds 0 ∨ cs = '-' :: ds ∧ n = -Nat.ofDigitChars 10 ds 0) := by
  rw [parseSigned.eq_def]
  split
  · exact absurd List.mem_cons_self hplus
  · rename_i cs
    constructor
    · intro h
      obtain ⟨m, hm, rfl⟩ := Option.map_eq_some_iff.mp h
      obtain ⟨hcs, rfl⟩ := parseDigits_eq_some.mp hm
      exact ⟨cs, hcs, Or.inr ⟨rfl, rfl⟩⟩
    · rintro ⟨ds, hds, ⟨rfl, -⟩ | ⟨hcs, rfl⟩⟩
      · exact absurd (hds.2 '-' List.mem_cons_self) (by decide)
      · obtain rfl : cs = ds := (List.cons.inj hcs).2
        rw [parseDigits_eq_some.mpr ⟨hds, rfl⟩]
        rfl
  · rename_i hminus
    constructor
    · intro h
      obtain ⟨m, hm, rfl⟩ := Option.map_eq_some_iff.mp h
      obtain ⟨hcs, rfl⟩ := parseDigits_eq_some.mp hm
      exact ⟨cs, hcs, Or.inl ⟨rfl, rfl⟩⟩
    · rintro ⟨ds, hds, ⟨rfl, rfl⟩ | ⟨rfl, -⟩⟩
      · rw [parseDigits_eq_some.mpr ⟨hds, rfl⟩]
        rfl
      · exact absurd rfl (hminus ds)

/-- The digits of a positive number do not begin with a zero. -/
lemma head_toDigits {n : ℕ} (hn : 0 < n) : (Nat.toDigits 10 n).head? ≠ some '0' := by
  induction n using Nat.strongRecOn with
  | ind n ih =>
      rw [Nat.toDigits_eq_if (by omega)]
      split_ifs with hlt
      · intro h
        have hdigit : ∀ d < 10, 0 < d → Nat.digitChar d ≠ '0' := by decide
        exact hdigit n hlt hn (Option.some.inj h)
      · have hrest := ih (n / 10) (by omega) (by omega)
        rw [List.head?_append]
        cases hhead : (Nat.toDigits 10 (n / 10)).head? with
        | none => exact absurd (List.head?_eq_none_iff.mp hhead) Nat.toDigits_ne_nil
        | some c => rwa [hhead] at hrest

end Library
