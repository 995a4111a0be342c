import Mathlib.Data.List.TakeWhile
import Mathlib.Data.Nat.Notation

/-!
# Reading UTF-8 by index

A loop over the bytes of a text that only looks for ASCII reads the text character by character: an
ASCII character is one byte, and no byte of another character is ASCII.  `At b i cs` says that the index
`i` stands before the characters `cs`; the lemmas say what a loop, a look and a step make of it.

A slice of a text is given by a number of bytes (`takeBytes`).  It has to end where a character does.
-/

namespace Library

/-- The bytes of a text. -/
def utf8 (cs : List Char) : List UInt8 := cs.flatMap String.utf8EncodeChar

/-- The characters in the first `n` bytes, `none` if these end inside a character or past the end. -/
def takeBytes : ℕ → List Char → Option (List Char)
  | 0, _ => some []
  | _ + 1, [] => none
  | n + 1, c :: cs =>
      if c.utf8Size ≤ n + 1 then (takeBytes (n + 1 - c.utf8Size) cs).map (c :: ·) else none

/-- `while i < b.len() && p(b[i]) { i += 1 }`. -/
def loopWhile (p : UInt8 → Bool) (b : List UInt8) (i : ℕ) : ℕ :=
  if h : i < b.length then if p b[i] then loopWhile p b (i + 1) else i else i
  termination_by b.length - i

/-- A class of bytes and a class of characters are the same class of ASCII characters. -/
structure SameAscii (p : UInt8 → Bool) (q : Char → Bool) : Prop where
  ascii : ∀ b, p b = true → b.toNat < 128
  same : ∀ c, q c = (decide (c.toNat < 128) && p (UInt8.ofNat c.toNat))

/-- The index `i` stands before the characters `cs`. -/
def At (b : List UInt8) (i : ℕ) (cs : List Char) : Prop :=
  ∃ front, b = front ++ utf8 cs ∧ front.length = i

/-! ## Characters and bytes

The bytes of an ASCII character are that character, and the bytes of another one are none.
-/

/-- An ASCII character is the one byte of its number. -/
lemma utf8EncodeChar_ascii {c : Char} (hc : c.toNat < 128) :
    String.utf8EncodeChar c = [UInt8.ofNat c.toNat] := by
  have hle : c.val.toNat ≤ 0x7f := by
    have hval : c.val.toNat = c.toNat := rfl
    omega
  rw [String.utf8EncodeChar, if_pos hle]
  rfl

/-- The first byte of another character is not ASCII. -/
lemma utf8EncodeChar_other {c : Char} (hc : ¬ c.toNat < 128) :
    ∃ b bs, String.utf8EncodeChar c = b :: bs ∧ 128 ≤ b.toNat := by
  have hle : ¬ c.val.toNat ≤ 0x7f := by
    have hval : c.val.toNat = c.toNat := rfl
    omega
  rw [String.utf8EncodeChar, if_neg hle]
  split_ifs
  · refine ⟨_, _, rfl, ?_⟩
    rw [UInt8.toNat_ofNat']
    omega
  · refine ⟨_, _, rfl, ?_⟩
    rw [UInt8.toNat_ofNat']
    omega
  · refine ⟨_, _, rfl, ?_⟩
    rw [UInt8.toNat_ofNat']
    omega

/-- The bytes of a text are those of its characters, one after the other. -/
lemma utf8_cons (c : Char) (cs : List Char) : utf8 (c :: cs) = String.utf8EncodeChar c ++ utf8 cs :=
  rfl

/-- A text that begins with an ASCII character begins with its byte. -/
lemma utf8_ascii {c : Char} (hc : c.toNat < 128) (cs : List Char) :
    utf8 (c :: cs) = UInt8.ofNat c.toNat :: utf8 cs := by
  rw [utf8_cons, utf8EncodeChar_ascii hc, List.singleton_append]

@[simp] lemma utf8_nil : utf8 [] = [] := rfl

lemma utf8_eq_nil {cs : List Char} : utf8 cs = [] ↔ cs = [] := by
  constructor
  · intro h
    cases cs with
    | nil => rfl
    | cons c cs =>
        rw [utf8_cons, List.append_eq_nil_iff] at h
        exact absurd h.1 String.utf8EncodeChar_ne_nil
  · rintro rfl
    rfl

/-- A text of ASCII characters has a byte for each of them. -/
lemma length_utf8_of_ascii {cs : List Char} (hcs : ∀ c ∈ cs, c.toNat < 128) :
    (utf8 cs).length = cs.length := by
  induction cs with
  | nil => rfl
  | cons c cs ih =>
      rw [utf8_ascii (hcs c (by simp)), List.length_cons, List.length_cons,
        ih fun d hd => hcs d (by simp [hd])]

/-! ## Slices

A slice that ends between two characters is the text of the characters before it.
-/

/-- A slice that ends where a piece of the text does is that piece. -/
lemma takeBytes_append (front rest : List Char) :
    takeBytes (utf8 front).length (front ++ rest) = some front := by
  induction front with
  | nil => rw [utf8_nil, List.length_nil, takeBytes]
  | cons c front ih =>
      obtain ⟨k, hk⟩ : ∃ k, (utf8 (c :: front)).length = k + 1 := by
        refine Nat.exists_eq_succ_of_ne_zero fun h => ?_
        exact absurd (utf8_eq_nil.mp (List.length_eq_zero_iff.mp h)) (List.cons_ne_nil _ _)
      have hsize : k + 1 = c.utf8Size + (utf8 front).length := by
        rw [← hk, utf8_cons, List.length_append, String.length_utf8EncodeChar]
      have hleft : k + 1 - c.utf8Size = (utf8 front).length := by omega
      rw [hk, List.cons_append, takeBytes, if_pos (by omega), hleft, ih]
      rfl

/-! ## Classes of ASCII characters

What a loop looks for are characters that are told by their byte.
-/

section

variable {p : UInt8 → Bool} {q : Char → Bool}

/-- The class holds of the first byte of a character if and only if it holds of the character. -/
lemma SameAscii.first (h : SameAscii p q) (c : Char) :
    ∃ b bs, String.utf8EncodeChar c = b :: bs ∧ p b = q c ∧ (q c = true → bs = []) := by
  by_cases hc : c.toNat < 128
  · refine ⟨_, _, utf8EncodeChar_ascii hc, ?_, fun _ => rfl⟩
    rw [h.same, decide_eq_true hc, Bool.true_and]
  · obtain ⟨b, bs, henc, hb⟩ := utf8EncodeChar_other hc
    have hq : q c = false := by rw [h.same, decide_eq_false hc, Bool.false_and]
    refine ⟨b, bs, henc, ?_, fun hc' => absurd hc' (by rw [hq]; exact Bool.false_ne_true)⟩
    rw [hq, Bool.eq_false_iff]
    intro hp
    have hlow : b.toNat < 128 := h.ascii b hp
    omega

/-- The class of characters that goes with a class of ASCII bytes is ASCII too. -/
lemma SameAscii.lt (h : SameAscii p q) {c : Char} (hc : q c = true) : c.toNat < 128 := by
  rw [h.same, Bool.and_eq_true, decide_eq_true_eq] at hc
  exact hc.1

end

/-! ## Indices

Where the index of a loop stands, and where it stands after a step.
-/

section

variable {p : UInt8 → Bool} {q : Char → Bool} {b : List UInt8} {i : ℕ} {c : Char} {cs : List Char}

/-- The first index stands before the whole text. -/
lemma At.start (cs : List Char) : At (utf8 cs) 0 cs := ⟨[], rfl, rfl⟩

/-- The index is at the end if and only if no character is left. -/
lemma At.end_iff (h : At b i cs) : b.length ≤ i ↔ cs = [] := by
  obtain ⟨front, rfl, rfl⟩ := h
  rw [List.length_append, ← utf8_eq_nil, ← List.length_eq_zero_iff]
  omega

/-- The index behind the last byte stands before nothing, and no other does. -/
lemma At.length_iff (h : At b i cs) : i = b.length ↔ cs = [] := by
  obtain ⟨front, rfl, rfl⟩ := h
  rw [List.length_append, ← utf8_eq_nil, ← List.length_eq_zero_iff]
  omega

lemma At.next (h : At b i (c :: cs)) (hc : c.toNat < 128) : At b (i + 1) cs := by
  obtain ⟨front, rfl, rfl⟩ := h
  refine ⟨front ++ [UInt8.ofNat c.toNat], ?_, by rw [List.length_append]; rfl⟩
  rw [utf8_ascii hc, List.append_assoc, List.singleton_append]

/-- The loop stops before the first character that is not of the class. -/
lemma At.loop (hpq : SameAscii p q) (h : At b i cs) :
    loopWhile p b i = i + (cs.takeWhile q).length ∧ At b (loopWhile p b i) (cs.dropWhile q) := by
  induction cs generalizing i with
  | nil =>
      have hend : ¬ i < b.length := by
        have := h.end_iff.mpr rfl
        omega
      rw [loopWhile, dif_neg hend]
      exact ⟨rfl, h⟩
  | cons c cs ih =>
      obtain ⟨front, hb, hi⟩ := id h
      obtain ⟨d, ds, henc, hd, hone⟩ := hpq.first c
      have hlt : i < b.length := by
        rw [hb, List.length_append, utf8_cons, henc, ← hi, List.cons_append, List.length_cons]
        omega
      have hget : b[i] = d := by
        subst hi
        simp [hb, utf8_cons, henc]
      rw [loopWhile, dif_pos hlt, hget, hd]
      cases hq : q c with
      | false =>
          rw [List.takeWhile_cons_of_neg (by simp [hq]), List.dropWhile_cons_of_neg (by simp [hq])]
          exact ⟨rfl, h⟩
      | true =>
          obtain ⟨hloop, hat⟩ := ih (h.next (hpq.lt hq))
          rw [if_pos rfl, List.takeWhile_cons_of_pos hq, List.dropWhile_cons_of_pos hq,
            List.length_cons]
          exact ⟨by omega, hat⟩

/-- A look at an ASCII byte finds the character. -/
lemma At.get_iff (h : At b i cs) (hc : c.toNat < 128) :
    b[i]? = some c.toUInt8 ↔ ∃ rest, cs = c :: rest := by
  show b[i]? = some (UInt8.ofNat c.toNat) ↔ _
  obtain ⟨front, rfl, rfl⟩ := h
  rw [List.getElem?_append_right le_rfl, Nat.sub_self]
  constructor
  · intro hget
    cases cs with
    | nil => simp at hget
    | cons d rest =>
        by_cases hd : d.toNat < 128
        · rw [utf8_ascii hd, List.getElem?_cons_zero, Option.some.injEq] at hget
          have hnat := congrArg UInt8.toNat hget
          rw [UInt8.toNat_ofNat', UInt8.toNat_ofNat', Nat.mod_eq_of_lt (by omega),
            Nat.mod_eq_of_lt (by omega)] at hnat
          exact ⟨rest, by rw [Char.toNat_inj.mp hnat]⟩
        · obtain ⟨byte, bytes, henc, hbyte⟩ := utf8EncodeChar_other hd
          rw [utf8_cons, henc, List.cons_append, List.getElem?_cons_zero, Option.some.injEq] at hget
          rw [hget, UInt8.toNat_ofNat', Nat.mod_eq_of_lt (by omega)] at hbyte
          omega
  · rintro ⟨rest, rfl⟩
    rw [utf8_ascii hc, List.getElem?_cons_zero]

/-! A field is one or more characters of a class and a character that is not of it. -/

/-- The loop has gone on and stands before `c`, if and only if the text starts with a field. -/
lemma At.field_iff (hpq : SameAscii p q) (h : At b i cs) (hc : c.toNat < 128) (hq : q c = false) :
    ¬ (loopWhile p b i = i ∨ b.length ≤ loopWhile p b i ∨ b[loopWhile p b i]? ≠ some c.toUInt8)
      ↔ ∃ ds rest, cs = ds ++ c :: rest ∧ ds ≠ [] ∧ ∀ d ∈ ds, q d = true := by
  obtain ⟨hloop, hat⟩ := h.loop hpq
  rw [hat.end_iff, not_or, not_or, not_not, hat.get_iff hc, hloop]
  constructor
  · rintro ⟨hne, -, rest, hrest⟩
    refine ⟨cs.takeWhile q, rest, ?_, ?_, fun d hd => List.mem_takeWhile_imp hd⟩
    · rw [← hrest, List.takeWhile_append_dropWhile]
    · intro hnil
      rw [hnil] at hne
      exact hne rfl
  · rintro ⟨ds, rest, rfl, hne, hds⟩
    rw [List.takeWhile_append_of_pos hds, List.dropWhile_append_of_pos hds,
      List.takeWhile_cons_of_neg (by simp [hq]), List.dropWhile_cons_of_neg (by simp [hq]),
      List.append_nil]
    have hlength : 0 < ds.length := List.length_pos_iff.mpr hne
    exact ⟨by omega, List.cons_ne_nil _ _, rest, rfl⟩

lemma At.field_next (hpq : SameAscii p q) {ds : List Char} (h : At b i (ds ++ c :: cs))
    (hc : c.toNat < 128) (hq : q c = false) (hds : ∀ d ∈ ds, q d = true) :
    loopWhile p b i = i + ds.length ∧ At b (loopWhile p b i + 1) cs := by
  obtain ⟨hloop, hat⟩ := h.loop hpq
  rw [List.dropWhile_append_of_pos hds, List.dropWhile_cons_of_neg (by simp [hq])] at hat
  rw [List.takeWhile_append_of_pos hds, List.takeWhile_cons_of_neg (by simp [hq]),
    List.append_nil] at hloop
  exact ⟨hloop, hat.next hc⟩

/-- The loop has come to the end if and only if all that was left is of the class. -/
lemma At.loop_eq_length_iff (hpq : SameAscii p q) (h : At b i cs) :
    loopWhile p b i = b.length ↔ ∀ d ∈ cs, q d = true := by
  rw [(h.loop hpq).2.length_iff, List.dropWhile_eq_nil_iff]

/-- The loop has not gone on if and only if the first character is not of the class. -/
lemma At.loop_eq_self_iff (hpq : SameAscii p q) (h : At b i cs) :
    loopWhile p b i = i ↔ cs.takeWhile q = [] := by
  rw [(h.loop hpq).1, ← List.length_eq_zero_iff]
  omega

/-- The rest of the text is one or more characters of the class. -/
lemma At.last_iff (hpq : SameAscii p q) (h : At b i cs) :
    ¬ (loopWhile p b i = i ∨ loopWhile p b i ≠ b.length) ↔ cs ≠ [] ∧ ∀ d ∈ cs, q d = true := by
  rw [not_or, not_not, h.loop_eq_length_iff hpq, h.loop_eq_self_iff hpq]
  constructor
  · rintro ⟨hne, hall⟩
    rw [List.takeWhile_eq_self_iff.mpr hall] at hne
    exact ⟨hne, hall⟩
  · rintro ⟨hne, hall⟩
    rw [List.takeWhile_eq_self_iff.mpr hall]
    exact ⟨hne, hall⟩

end

end Library
