import LuksEnroll.Json
import LuksEnroll.Library.Decimal
import LuksEnroll.Library.OrderedMap
import Mathlib.Data.List.Range
import Mathlib.Data.List.Nodup
import Mathlib.Data.String.Basic
import Mathlib.Logic.Function.Basic

/-!
# The LUKS2 header

What libcryptsetup keeps on disk, as far as the service reads or changes it: the volume key the
header's digest commits to, the table of keyslots and the table of tokens.

A `Header` carries its own validity: indices stay below libcryptsetup's limits, and a token only
lists keyslots that exist (libcryptsetup refuses to write one that does not).  The four mutations
— add a keyslot, add a token, remove a token, destroy a keyslot — are each given with one lemma
saying what the tables are afterwards; nothing else unfolds them.

`Keyslot.creator` and `Token.writer` are ghosts: the number of the request on whose behalf the
entry was written, `none` for what was there before.  No operation reads them.

Two functions of the source read a header as text, and two write tokens to it: the metadata of a header
is printed here (`Header.dump`) with its tables as objects whose keys are the indices, and a token is
read out of such a text again (`Token.ofJson`).
-/

namespace LuksEnroll

open Library

/-- Byte strings: keys, secrets, credentials. -/
abbrev Bytes := List UInt8

/-- `luks::VolumeKey`. -/
structure VolumeKey where
  bytes : Bytes
  deriving DecidableEq

/-- A keyslot.  `secret` opens it; `holdsVolumeKey` is false for unbound and `reencrypt` keyslots,
from which the volume key cannot be obtained. -/
structure Keyslot where
  type : String
  secret : Bytes
  holdsVolumeKey : Bool
  creator : Option ℕ

/-- A token: its `keyslots` list, and every other field of its JSON verbatim. -/
structure Token where
  fields : List (String × Json)
  slots : List ℕ
  writer : Option ℕ

/-- A token without keyslot `s` in its list. -/
def Token.drop (s : ℕ) (t : Token) : Token :=
  { t with slots := t.slots.filter fun k => !decide (k = s) }

/-- libcryptsetup's `LUKS2_KEYSLOTS_MAX`. -/
def keyslotsMax : ℕ := 32

/-- libcryptsetup's `LUKS2_TOKENS_MAX`. -/
def tokensMax : ℕ := 32

/-- A valid LUKS2 header. -/
structure Header where
  volumeKey : VolumeKey
  keyslots : ℕ → Option Keyslot
  tokens : ℕ → Option Token
  keyslots_lt : ∀ i, keyslotsMax ≤ i → keyslots i = none
  tokens_lt : ∀ i, tokensMax ≤ i → tokens i = none
  token_slots : ∀ i t, tokens i = some t → ∀ k ∈ t.slots, (keyslots k).isSome

namespace Header

/-- The indices in use of a keyslot table. -/
def slotIds (h : Header) : List ℕ :=
  (List.range keyslotsMax).filter fun i => (h.keyslots i).isSome

/-- The indices in use of a token table. -/
def tokenIds (h : Header) : List ℕ :=
  (List.range tokensMax).filter fun i => (h.tokens i).isSome

/-- The keyslots that are listed are those that exist. -/
lemma mem_slotIds {h : Header} {i : ℕ} : i ∈ h.slotIds ↔ (h.keyslots i).isSome := by
  simp only [slotIds, List.mem_filter, List.mem_range, and_iff_right_iff_imp]
  intro hi
  by_contra hlt
  rw [h.keyslots_lt i (by omega)] at hi
  exact absurd hi (by simp)

/-- The tokens that are listed are those that exist. -/
lemma mem_tokenIds {h : Header} {i : ℕ} : i ∈ h.tokenIds ↔ (h.tokens i).isSome := by
  simp only [tokenIds, List.mem_filter, List.mem_range, and_iff_right_iff_imp]
  intro hi
  by_contra hlt
  rw [h.tokens_lt i (by omega)] at hi
  exact absurd hi (by simp)

/-- Keyslots stay below libcryptsetup's limit. -/
lemma lt_of_mem_slotIds {h : Header} {i : ℕ} (hi : i ∈ h.slotIds) : i < keyslotsMax := by
  simp only [slotIds, List.mem_filter, List.mem_range] at hi
  exact hi.1

lemma lt_of_mem_tokenIds {h : Header} {i : ℕ} (hi : i ∈ h.tokenIds) : i < tokensMax := by
  simp only [tokenIds, List.mem_filter, List.mem_range] at hi
  exact hi.1

lemma slotIds_nodup (h : Header) : h.slotIds.Nodup := List.Nodup.filter _ List.nodup_range

lemma tokenIds_nodup (h : Header) : h.tokenIds.Nodup := List.Nodup.filter _ List.nodup_range

end Header

/-! ## Allocation

libcryptsetup puts a new entry at a free index; the lowest one unless the environment's `pick`
names another that is free. -/

/-- The lowest free index of a table. -/
def lowestFree {α : Type} (table : ℕ → Option α) (max : ℕ) : Option ℕ :=
  (List.range max).find? fun i => (table i).isNone

/-- A free index of a table, `pick` if that is one. -/
def freeIndex {α : Type} (table : ℕ → Option α) (max : ℕ) : Option ℕ → Option ℕ
  | none => lowestFree table max
  | some i => if i < max ∧ (table i).isNone then some i else lowestFree table max

lemma lowestFree_some {α : Type} {table : ℕ → Option α} {max i : ℕ}
    (h : lowestFree table max = some i) : i < max ∧ table i = none := by
  have hmem := List.mem_of_find?_eq_some h
  have hnone := List.find?_some h
  exact ⟨List.mem_range.mp hmem, Option.isNone_iff_eq_none.mp hnone⟩

/-- An index that libcryptsetup may choose is free, and below the limit. -/
lemma freeIndex_some {α : Type} {table : ℕ → Option α} {max i : ℕ} {pick : Option ℕ}
    (h : freeIndex table max pick = some i) : i < max ∧ table i = none := by
  cases pick with
  | none => exact lowestFree_some h
  | some j =>
      simp only [freeIndex] at h
      split_ifs at h with hj
      · obtain rfl := Option.some.inj h
        exact ⟨hj.1, Option.isNone_iff_eq_none.mp hj.2⟩
      · exact lowestFree_some h

/-- No index is found only when every one is taken. -/
lemma freeIndex_none {α : Type} {table : ℕ → Option α} {max : ℕ} {pick : Option ℕ}
    (h : freeIndex table max pick = none) : ∀ i < max, (table i).isSome := by
  have hlow : lowestFree table max = none := by
    cases pick with
    | none => exact h
    | some j =>
        simp only [freeIndex] at h
        split_ifs at h with hj
        exact h
  intro i hi
  have := List.find?_eq_none.mp hlow i (List.mem_range.mpr hi)
  simpa [Option.isSome_iff_ne_none] using this

namespace Header

/-! ## Mutations

The mutations of libcryptsetup on a header, as far as the service asks for them.
-/

/-- `crypt_format`: a fresh header committing to `vk`, no keyslot, no token. -/
def fresh (vk : VolumeKey) : Header where
  volumeKey := vk
  keyslots := fun _ => none
  tokens := fun _ => none
  keyslots_lt := fun _ _ => rfl
  tokens_lt := fun _ _ => rfl
  token_slots := fun _ _ h => by simp at h

/-- A header with the listed keyslots, from index 0 on, and no token. -/
def ofKeyslots (vk : VolumeKey) (slots : List Keyslot) (hs : slots.length ≤ keyslotsMax) :
    Header where
  volumeKey := vk
  keyslots := fun i => slots[i]?
  tokens := fun _ => none
  keyslots_lt := fun i hi => List.getElem?_eq_none (hs.trans hi)
  tokens_lt := fun _ _ => rfl
  token_slots := fun _ _ h => by simp at h

/-- A header with the listed keyslots and tokens, both from index 0 on. -/
def ofEntries (vk : VolumeKey) (slots : List Keyslot) (tokens : List Token)
    (hs : slots.length ≤ keyslotsMax) (ht : tokens.length ≤ tokensMax)
    (hlisted : ∀ t ∈ tokens, ∀ k ∈ t.slots, k < slots.length) : Header where
  volumeKey := vk
  keyslots := fun i => slots[i]?
  tokens := fun i => tokens[i]?
  keyslots_lt := fun i hi => List.getElem?_eq_none (hs.trans hi)
  tokens_lt := fun i hi => List.getElem?_eq_none (ht.trans hi)
  token_slots := fun i t hi k hk => by
    rw [List.getElem?_eq_getElem (hlisted t (List.mem_of_getElem? hi) k hk)]
    rfl

/-- `crypt_keyslot_add_by_key` at a free index. -/
def addKeyslot (h : Header) (pick : Option ℕ) (ks : Keyslot) : Option (ℕ × Header) :=
  match hi : freeIndex h.keyslots keyslotsMax pick with
  | none => none
  | some i => some (i,
      { h with
        keyslots := Function.update h.keyslots i (some ks)
        keyslots_lt := fun j hj => by
          have hlt := (freeIndex_some hi).1
          rw [Function.update_of_ne (by omega)]
          exact h.keyslots_lt j hj
        token_slots := fun j t ht k hk => by
          by_cases hki : k = i
          · simp [hki]
          · rw [Function.update_of_ne hki]
            exact h.token_slots j t ht k hk })

/-- `crypt_token_json_set` with JSON: refused unless every listed keyslot exists. -/
def addToken (h : Header) (pick : Option ℕ) (t : Token) : Option (ℕ × Header) :=
  if hs : ∀ k ∈ t.slots, (h.keyslots k).isSome then
    match hi : freeIndex h.tokens tokensMax pick with
    | none => none
    | some i => some (i,
        { h with
          tokens := Function.update h.tokens i (some t)
          tokens_lt := fun j hj => by
            have hlt := (freeIndex_some hi).1
            rw [Function.update_of_ne (by omega)]
            exact h.tokens_lt j hj
          token_slots := fun j t' ht k hk => by
            by_cases hji : j = i
            · subst hji
              rw [Function.update_self, Option.some.injEq] at ht
              subst ht
              exact hs k hk
            · rw [Function.update_of_ne hji] at ht
              exact h.token_slots j t' ht k hk })
  else none

/-- `crypt_token_json_set` with no JSON: the token is gone, whether or not it was there. -/
def removeToken (h : Header) (i : ℕ) : Header :=
  { h with
    tokens := Function.update h.tokens i none
    tokens_lt := fun j hj => by
      by_cases hji : j = i
      · rw [hji, Function.update_self]
      · rw [Function.update_of_ne hji]
        exact h.tokens_lt j hj
    token_slots := fun j t ht k hk => by
      by_cases hji : j = i
      · simp [hji] at ht
      · rw [Function.update_of_ne hji] at ht
        exact h.token_slots j t ht k hk }

/-- `crypt_keyslot_destroy`: the keyslot is gone, from the table and from every token's list. -/
def destroyKeyslot (h : Header) (s : ℕ) : Option Header :=
  if (h.keyslots s).isSome then
    some
      { h with
        keyslots := Function.update h.keyslots s none
        tokens := fun i => (h.tokens i).map (Token.drop s)
        keyslots_lt := fun j hj => by
          by_cases hjs : j = s
          · rw [hjs, Function.update_self]
          · rw [Function.update_of_ne hjs]
            exact h.keyslots_lt j hj
        tokens_lt := fun j hj => by rw [h.tokens_lt j hj]; rfl
        token_slots := fun i t ht k hk => by
          rw [Option.map_eq_some_iff] at ht
          obtain ⟨t', ht', rfl⟩ := ht
          simp only [Token.drop, List.mem_filter, Bool.not_eq_true', decide_eq_false_iff_not] at hk
          rw [Function.update_of_ne hk.2]
          exact h.token_slots i t' ht' k hk.1 }
  else none

/-! ## What a mutation does

One lemma for each, which says everything that it changes, and that it changes nothing else.
-/

/-- **Adding a keyslot** fills a free index and touches nothing else. -/
lemma addKeyslot_spec {h h' : Header} {pick : Option ℕ} {ks : Keyslot} {i : ℕ}
    (hadd : h.addKeyslot pick ks = some (i, h')) :
    freeIndex h.keyslots keyslotsMax pick = some i
      ∧ h'.keyslots = Function.update h.keyslots i (some ks)
      ∧ h'.tokens = h.tokens ∧ h'.volumeKey = h.volumeKey := by
  rw [addKeyslot] at hadd
  split at hadd
  · exact absurd hadd (by simp)
  · rename_i j hj
    simp only [Option.some.injEq, Prod.mk.injEq] at hadd
    obtain ⟨rfl, rfl⟩ := hadd
    exact ⟨hj, rfl, rfl, rfl⟩

/-- **Adding a token** fills a free index, provided that the keyslots it lists exist. -/
lemma addToken_spec {h h' : Header} {pick : Option ℕ} {t : Token} {i : ℕ}
    (hadd : h.addToken pick t = some (i, h')) :
    i < tokensMax ∧ h.tokens i = none ∧ (∀ k ∈ t.slots, (h.keyslots k).isSome)
      ∧ h'.tokens = Function.update h.tokens i (some t)
      ∧ h'.keyslots = h.keyslots ∧ h'.volumeKey = h.volumeKey := by
  rw [addToken] at hadd
  split_ifs at hadd with hs
  split at hadd
  · exact absurd hadd (by simp)
  · rename_i j hj
    simp only [Option.some.injEq, Prod.mk.injEq] at hadd
    obtain ⟨rfl, rfl⟩ := hadd
    exact ⟨(freeIndex_some hj).1, (freeIndex_some hj).2, hs, rfl, rfl, rfl⟩

/-- A token over existing keyslots is refused only when the table is full. -/
lemma addToken_none {h : Header} {pick : Option ℕ} {t : Token}
    (hs : ∀ k ∈ t.slots, (h.keyslots k).isSome) (hadd : h.addToken pick t = none) :
    ∀ i < tokensMax, (h.tokens i).isSome := by
  rw [addToken] at hadd
  rw [dif_pos hs] at hadd
  split at hadd
  · rename_i hnone
    exact freeIndex_none hnone
  · exact absurd hadd (by simp)

lemma removeToken_tokens {h : Header} {i j : ℕ} {t : Token}
    (ht : (h.removeToken j).tokens i = some t) : h.tokens i = some t := by
  by_cases hij : i = j
  · simp [removeToken, hij] at ht
  · simpa [removeToken, Function.update_of_ne hij] using ht

/-- **Destroying a keyslot** empties its index, and takes it off the lists of all tokens. -/
lemma destroyKeyslot_spec {h h' : Header} {s : ℕ} (hd : h.destroyKeyslot s = some h') :
    (h.keyslots s).isSome ∧ h'.keyslots = Function.update h.keyslots s none
      ∧ (∀ i, h'.tokens i = (h.tokens i).map (Token.drop s))
      ∧ h'.volumeKey = h.volumeKey := by
  rw [destroyKeyslot] at hd
  split_ifs at hd with hs
  obtain rfl := Option.some.inj hd
  exact ⟨hs, rfl, fun _ => rfl, rfl⟩

end Header

/-! ## The metadata text

`crypt_dump_json`, as far as the service looks at it.  `serde_json` keeps an object's fields in
the order of their names, so slot `10` comes before slot `2`. -/

/-- A table as a JSON object, indices printed. -/
def tableJson (ids : List ℕ) (entry : ℕ → Json) : Json :=
  Json.obj (OrderedMap.ofList (ids.map fun i => (toString i, entry i))).entries

/-- A keyslot in the metadata. -/
def Keyslot.json (ks : Keyslot) : Json := Json.obj [("type", Json.str ks.type)]

/-- A token in the metadata: its fields, and the keyslots it lists as texts. -/
def Token.json (t : Token) : Json :=
  Json.obj (("keyslots", Json.arr (t.slots.map fun k => Json.str (toString k))) :: t.fields)

/-- What libcryptsetup makes of a token's JSON: it must have a type and a list of keyslots. -/
def Token.ofJson (writer : Option ℕ) (j : Json) : Option Token := do
  let fields ← j.asObject
  let _ ← (← j.get "type").asStr
  let items ← (← j.get "keyslots").asArray
  let slots ← items.mapM fun s => do parseDigits (← s.asStr).toList
  return {
    fields := fields.filter fun x => !decide (x.1 = "keyslots")
    slots := slots
    writer := writer }

namespace Header

/-- The keyslot entry of the metadata at `i`. -/
def keyslotJson (h : Header) (i : ℕ) : Json := ((h.keyslots i).map Keyslot.json).getD Json.null

/-- The token entry of the metadata at `i`. -/
def tokenJson (h : Header) (i : ℕ) : Json := ((h.tokens i).map Token.json).getD Json.null

/-- `crypt_dump_json`. -/
def dump (h : Header) : Json :=
  Json.obj [("keyslots", tableJson h.slotIds h.keyslotJson),
    ("tokens", tableJson h.tokenIds h.tokenJson)]

end Header

/-- A table in the metadata has an entry for every index that is in use, under its number. -/
lemma mem_tableJson {ids : List ℕ} (hids : ids.Nodup) {entry : ℕ → Json} {x : String × Json} :
    x ∈ (OrderedMap.ofList (ids.map fun i => (toString i, entry i))).entries
      ↔ ∃ i ∈ ids, x = (toString i, entry i) := by
  rw [OrderedMap.mem_ofList]
  · simp [eq_comm]
  · rw [List.map_map]
    exact hids.map toString_injective

end LuksEnroll
