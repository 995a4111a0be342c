import Mathlib.Algebra.Group.Nat.Defs
import Mathlib.Data.List.Range
import Mathlib.Data.Nat.Notation

/-!
# Sets of numbers as masks

A mask over several octets has the bit `n % 8` of octet `n / 8` for the number `n`.  Made of single bits,
it selects the numbers that these stand for, whatever their order and however often each is named.

Two facts carry the masks: `orAll` has a bit if one of the values has it, and cutting a value into octets
loses none of the bits that fit.  So what a mask selects does not depend on how it was put together
(`orAll_congr`).
-/

namespace Library.Bits

variable {w : ℕ}

/-- All these bits. -/
def orAll (vs : List (BitVec w)) : BitVec w := vs.foldr (· ||| ·) 0#w

/-- The octets of a word, the lowest first. -/
def octets (k : ℕ) (v : BitVec w) : List (BitVec 8) :=
  (List.range k).map fun i => v.extractLsb' (8 * i) 8

/-- Does the mask select the number? -/
def selects (mask : List (BitVec 8)) (n : ℕ) : Bool := (mask.getD (n / 8) 0#8).getLsbD (n % 8)

/-- A bit is in the mask if it is in one of the values. -/
lemma getLsbD_orAll {vs : List (BitVec w)} {i : ℕ} :
    (orAll vs).getLsbD i = true ↔ ∃ v ∈ vs, v.getLsbD i = true := by
  induction vs with
  | nil => simp [orAll]
  | cons v vs ih =>
      rw [List.exists_mem_cons_iff, ← ih, ← Bool.or_eq_true, ← BitVec.getLsbD_or]
      rfl

lemma getLsbD_one_shiftLeft {n i : ℕ} (hn : n < w) : (1#w <<< n).getLsbD i = decide (i = n) := by
  rw [BitVec.getLsbD_shiftLeft, BitVec.getLsbD_one]
  by_cases hi : i = n
  · subst hi
    simp [hn]
    omega
  · have hdiff : i < n ∨ i - n ≠ 0 := by omega
    rcases hdiff with hlt | hne
    · simp [hi, hlt]
    · simp [hi, hne]

/-- A shift by less than the width loses nothing. -/
lemma toNat_one_shiftLeft {n : ℕ} (hn : n < w) : (1#w <<< n).toNat = 2 ^ n := by
  have hw : 1 < 2 ^ w := Nat.one_lt_two_pow (by omega)
  rw [BitVec.toNat_shiftLeft, BitVec.toNat_ofNat, Nat.mod_eq_of_lt hw, Nat.shiftLeft_eq, Nat.one_mul,
    Nat.mod_eq_of_lt (Nat.pow_lt_pow_right (by omega) hn)]

/-- Octet by octet the mask has the bits of the value, as many octets as there are. -/
lemma selects_octets {k n : ℕ} {v : BitVec w} :
    selects (octets k v) n = (decide (n < 8 * k) && v.getLsbD n) := by
  rw [selects, octets, List.getD_eq_getElem?_getD, List.getElem?_map]
  by_cases hn : n < 8 * k
  · have hk : n / 8 < k := by omega
    have hindex : 8 * (n / 8) + n % 8 = n := by omega
    have hmod : n % 8 < 8 := Nat.mod_lt _ (by omega)
    simp [List.getElem?_range hk, hindex, hmod, hn]
  · have hk : k ≤ n / 8 := by omega
    simp [hn, hk]

/-- **The mask of single bits** selects the numbers they stand for. -/
theorem selects_orAll {ns : List ℕ} {k : ℕ} (hns : ∀ n ∈ ns, n < 8 * k) (hk : 8 * k ≤ w) {n : ℕ} :
    selects (octets k (orAll (ns.map (1#w <<< ·)))) n = true ↔ n ∈ ns := by
  rw [selects_octets, Bool.and_eq_true, decide_eq_true_eq, getLsbD_orAll]
  constructor
  · rintro ⟨-, v, hv, hbit⟩
    obtain ⟨m, hm, rfl⟩ := List.mem_map.mp hv
    have := hns m hm
    rw [getLsbD_one_shiftLeft (by omega), decide_eq_true_eq] at hbit
    exact hbit ▸ hm
  · intro hn
    have := hns n hn
    refine ⟨this, _, List.mem_map_of_mem hn, ?_⟩
    rw [getLsbD_one_shiftLeft (by omega), decide_eq_true rfl]

lemma orAll_congr {vs us : List (BitVec w)} (h : ∀ v, v ∈ vs ↔ v ∈ us) : orAll vs = orAll us := by
  refine BitVec.eq_of_getLsbD_eq fun i _ => ?_
  rw [Bool.eq_iff_iff, getLsbD_orAll, getLsbD_orAll]
  simp only [h]

end Library.Bits
