import Mathlib.Data.Nat.Notation

/-!
# Standard base64

The alphabet with `+` and `/`, padding required, and the bits that padding stands for required to
be zero, so a byte string has exactly one encoding.

`decode_encode` is what the readers of stored secrets rest on: an encoded byte string is decoded to itself.
The other direction is not needed here and would be false for decoders that are less strict.
-/

namespace Library

namespace Base64

/-- The sixty-four symbols, in order of their value. -/
def alphabet : List Char :=
  "ABCDEFGHIJKLMNOPQRSTUVWXYZabcdefghijklmnopqrstuvwxyz0123456789+/".toList

/-- The symbol of a six-bit value. -/
def symbol (n : ℕ) : Char := alphabet.getD (n % 64) 'A'

/-- The value of a symbol. -/
def value (c : Char) : Option ℕ :=
  if c ∈ alphabet then some (alphabet.idxOf c) else none

/-- Three bytes become four symbols; the last group is padded. -/
def encodeChars : List UInt8 → List Char
  | [] => []
  | [a] => [symbol (a.toNat / 4), symbol (a.toNat % 4 * 16), '=', '=']
  | [a, b] =>
      [symbol (a.toNat / 4), symbol (a.toNat % 4 * 16 + b.toNat / 16), symbol (b.toNat % 16 * 4),
        '=']
  | a :: b :: c :: rest =>
      symbol (a.toNat / 4) :: symbol (a.toNat % 4 * 16 + b.toNat / 16)
        :: symbol (b.toNat % 16 * 4 + c.toNat / 64) :: symbol (c.toNat % 64) :: encodeChars rest

/-- The text of a byte string. -/
def encode (bytes : List UInt8) : String := String.ofList (encodeChars bytes)

/-- Four symbols become three bytes; padding only closes the text. -/
def decodeChars : List Char → Option (List UInt8)
  | [] => some []
  | [a, b, '=', '='] => do
      let x ← value a
      let y ← value b
      if y % 16 = 0 then some [UInt8.ofNat (x * 4 + y / 16)] else none
  | [a, b, c, '='] => do
      let x ← value a
      let y ← value b
      let z ← value c
      if z % 4 = 0 then
        some [UInt8.ofNat (x * 4 + y / 16), UInt8.ofNat (y % 16 * 16 + z / 4)]
      else none
  | a :: b :: c :: d :: rest => do
      let x ← value a
      let y ← value b
      let z ← value c
      let t ← value d
      let bytes ← decodeChars rest
      some (UInt8.ofNat (x * 4 + y / 16) :: UInt8.ofNat (y % 16 * 16 + z / 4)
        :: UInt8.ofNat (z % 4 * 64 + t) :: bytes)
  | _ => none

/-- The byte string of a text, if it is the encoding of one. -/
def decode (text : String) : Option (List UInt8) := decodeChars text.toList

/-! ## Decoding inverts encoding

Three bytes make a group of four characters, and a group is read back as its bytes.  The last group
has one or two bytes and is padded.
-/

/-- The symbol of six bits has them as its value. -/
lemma value_symbol (n : ℕ) : value (symbol n) = some (n % 64) := by
  have hall : ∀ m : Fin 64, value (alphabet.getD m.val 'A') = some m.val := by decide +kernel
  exact hall ⟨n % 64, Nat.mod_lt _ (by omega)⟩

lemma symbol_ne_pad (n : ℕ) : symbol n ≠ '=' := by
  have hall : ∀ m : Fin 64, alphabet.getD m.val 'A' ≠ '=' := by decide +kernel
  exact hall ⟨n % 64, Nat.mod_lt _ (by omega)⟩

/-- A group of four symbols, none of them padding, gives three bytes. -/
lemma decodeChars_group (a b c : Char) {d : Char} (hd : d ≠ '=') (rest : List Char) :
    decodeChars (a :: b :: c :: d :: rest) = (do
      let x ← value a
      let y ← value b
      let z ← value c
      let t ← value d
      let bytes ← decodeChars rest
      some (UInt8.ofNat (x * 4 + y / 16) :: UInt8.ofNat (y % 16 * 16 + z / 4)
        :: UInt8.ofNat (z % 4 * 64 + t) :: bytes)) := by
  rw [decodeChars.eq_def]
  split
  · rename_i h
    simp at h
  · rename_i h
    exact absurd (by simp_all) hd
  · rename_i h
    exact absurd (by simp_all) hd
  · rename_i h
    obtain ⟨rfl, rfl, rfl, rfl, rfl⟩ : _ ∧ _ ∧ _ ∧ _ ∧ _ := by simpa using h
    rfl
  · rename_i h
    exact absurd rfl (h a b c d rest)

lemma ofNat_eq_of_toNat {n : ℕ} {b : UInt8} (h : n = b.toNat) : UInt8.ofNat n = b := by
  rw [h, UInt8.ofNat_toNat]

/-- What was encoded is decoded, for every length modulo three. -/
lemma decodeChars_encodeChars (bytes : List UInt8) :
    decodeChars (encodeChars bytes) = some bytes := by
  induction bytes using encodeChars.induct with
  | case1 => rfl
  | case2 a =>
      have ha := a.toNat_lt
      simp only [encodeChars, decodeChars, value_symbol, Option.bind_eq_bind, Option.bind_some]
      rw [if_pos (by omega), ofNat_eq_of_toNat (b := a) (by omega)]
  | case3 a b =>
      have ha := a.toNat_lt
      have hb := b.toNat_lt
      rw [encodeChars, decodeChars]
      · simp only [value_symbol, Option.bind_eq_bind, Option.bind_some]
        rw [if_pos (by omega), ofNat_eq_of_toNat (b := a) (by omega),
          ofNat_eq_of_toNat (b := b) (by omega)]
      · exact symbol_ne_pad _
  | case4 a b c rest ih =>
      have ha := a.toNat_lt
      have hb := b.toNat_lt
      have hc := c.toNat_lt
      rw [encodeChars, decodeChars_group _ _ _ (symbol_ne_pad _)]
      simp only [value_symbol, ih, Option.bind_eq_bind, Option.bind_some]
      rw [ofNat_eq_of_toNat (b := a) (by omega), ofNat_eq_of_toNat (b := b) (by omega),
        ofNat_eq_of_toNat (b := c) (by omega)]

/-- **Decoding inverts encoding.** -/
theorem decode_encode (bytes : List UInt8) : decode (encode bytes) = some bytes := by
  rw [decode, encode, String.toList_ofList, decodeChars_encodeChars]

end Base64

end Library
