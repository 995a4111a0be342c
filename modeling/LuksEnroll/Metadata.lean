import LuksEnroll.Header
import LuksEnroll.Library.Base64
import Mathlib.Order.Basic
import Mathlib.Algebra.Order.Ring.Int

/-!
# Reading the metadata

The pure readers of `luks.rs` over the JSON that `crypt_dump_json` returns: which keyslots there
are, which token lists a keyslot, and what the FIDO2 and TPM2 tokens carry.  Each reader takes the
*outcome* of the metadata read, `none` when it failed, since the source folds that case into an
ordinary answer and several properties turn on it.

The second half says what the readers return on the metadata of a header.

`Fido2TokenRef` and `Tpm2TokenRef` are what an unlock takes out of a token.  Their readers fail with the
texts of the source, and fail as a whole: one malformed token of the type is enough.

The theorems on the metadata of a header use `Header.dump`, the printing of a header's tables; those on
any metadata are for the theorems where it may be unreadable or stale.
-/

namespace LuksEnroll

open Library

/-- The type of the tokens that systemd's FIDO2 support reads. -/
def tokenTypeFido2 : String := "systemd-fido2"

/-- The type of the tokens that its TPM2 support reads. -/
def tokenTypeTpm2 : String := "systemd-tpm2"

/-- The type of the tokens that mark a recovery key. -/
def tokenTypeRecovery : String := "systemd-recovery"

/-- `str::parse::<i32>`. -/
def parseI32 (s : String) : Option ℤ := parseInt (-2147483648) 2147483647 s

/-- The fields of an object-valued field, none when it is missing or not an object. -/
def tableOf (key : String) (metadata : Json) : List (String × Json) :=
  ((metadata.get key).bind Json.asObject).getD []

/-! ## Keyslots and tokens

The views of `luks.rs` on parsed metadata, with the defaults for what is missing.
-/

/-- One entry of the loop of `list_keyslots`. -/
def listKeyslot (out : OrderedMap ℤ String) (slot : String × Json) : OrderedMap ℤ String :=
  match parseI32 slot.1 with
  | some n => out.insert n (((slot.2.get "type").bind Json.asStr).getD "unknown")
  | none => out

/-- The answer of `list_keyslots`: nothing when the metadata could not be read. -/
def keyslotsIn : Option Json → OrderedMap ℤ String
  | none => ∅
  | some metadata => (tableOf "keyslots" metadata).foldl listKeyslot ∅

/-- `token_keyslots`: the keyslots that a token lists, entries that are no number left out. -/
def tokenKeyslots (tinfo : Json) : List ℤ :=
  (((tinfo.get "keyslots").bind Json.asArray).map fun a =>
    a.filterMap fun s => s.asStr.bind parseI32).getD []

/-- `tinfo.get("type").and_then(as_str) == Some(token_type)`. -/
def hasType (tokenType : String) (tinfo : Json) : Bool :=
  decide ((tinfo.get "type").bind Json.asStr = some tokenType)

/-- Push each slot that is not there yet. -/
def pushNew (slots new : List ℤ) : List ℤ :=
  new.foldl (fun slots s => if s ∈ slots then slots else slots ++ [s]) slots

/-- `token_type_keyslots`: the keyslots of the tokens of a type, in order, without repetition. -/
def tokenTypeKeyslots (metadata : Json) (tokenType : String) : List ℤ :=
  (tableOf "tokens" metadata).foldl
    (fun slots t => if hasType tokenType t.2 then pushNew slots (tokenKeyslots t.2) else slots) []

/-- The loop of `find_token_for_keyslot`. -/
def findToken (slot : ℤ) : List (String × Json) → ℤ
  | [] => -1
  | t :: tokens =>
      if slot ∈ tokenKeyslots t.2 then
        match parseI32 t.1 with
        | some tid => tid
        | none => findToken slot tokens
      else findToken slot tokens

/-- The answer of `find_token_for_keyslot`: `-1` when there is none, or when the metadata could not be
read. -/
def tokenForKeyslotIn (slot : ℤ) : Option Json → ℤ
  | none => -1
  | some metadata => findToken slot (tableOf "tokens" metadata)

/-! ## Token contents

What the unlock needs of a token, and the text of the error where it is malformed.
-/

/-- What a FIDO2 token holds for an unlock: the credential, and the salt that goes with it. -/
structure Fido2TokenRef where
  credId : Bytes
  salt : Bytes

/-- What a TPM2 token holds for an unlock: the sealed blob, the registers and their bank, and whether a
PIN is asked for. -/
structure Tpm2TokenRef where
  tokenId : String
  blob : Bytes
  pcrs : String
  pcrBank : String
  pinRequired : Bool

/-- `decode_b64`; the decoder's own description of the fault is not carried. -/
def decodeB64 (s : String) : Except String Bytes :=
  match Base64.decode s with
  | some b => Except.ok b
  | none => Except.error "bad base64"

/-- A string field that must be there. -/
def requireStr (tinfo : Json) (key message : String) : Except String String :=
  match (tinfo.get key).bind Json.asStr with
  | some s => Except.ok s
  | none => Except.error message

/-- One FIDO2 token, with the error the service gives for a field that is missing or malformed. -/
def fido2Ref (tinfo : Json) : Except String Fido2TokenRef := do
  let cred ← requireStr tinfo "fido2-credential" "fido2 token missing fido2-credential"
  let salt ← requireStr tinfo "fido2-salt" "fido2 token missing fido2-salt"
  return { credId := ← decodeB64 cred, salt := ← decodeB64 salt }

/-- `fido2_refs_from_meta`: the first malformed token fails the whole read. -/
def fido2RefsFromMeta (metadata : Json) : Except String (List Fido2TokenRef) :=
  ((tableOf "tokens" metadata).filter fun t => hasType tokenTypeFido2 t.2).mapM fun t => fido2Ref t.2

/-- One part of a blob that is stored as an array. -/
def blobPart (p : Json) : Except String Bytes :=
  match p.asStr with
  | some s => decodeB64 s
  | none => Except.error "bad tpm2-blob entry"

/-- The sealed blob: `tpm2_blob` unless it is absent or null, else `tpm2-blob`; a string, or a
list of strings to concatenate. -/
def tpm2Blob (tinfo : Json) : Except String Bytes :=
  let underscore := (tinfo.get "tpm2_blob").filter fun v => v matches Json.null |> not
  match underscore.or (tinfo.get "tpm2-blob") with
  | none => Except.error "tpm2 token missing tpm2-blob"
  | some (Json.arr parts) => do return (← parts.mapM blobPart).flatten
  | some (Json.str s) => decodeB64 s
  | some _ => Except.error "bad tpm2-blob field"

/-- A register, as text: numbers are printed, and what is neither number nor text is dropped. -/
def pcrText : Json → String
  | Json.num n => toString n
  | other => other.asStr.getD ""

/-- The registers of a token, joined with `+`, under whichever key they are stored. -/
def tpm2Pcrs (tinfo : Json) : String :=
  match tinfo.get "tpm2-pcrs" with
  | some (Json.arr a) => String.intercalate "+" (a.map pcrText)
  | some other => other.asStr.getD other.render
  | none => ""

/-- One TPM2 token, with its defaults. -/
def tpm2Ref (tid : String) (tinfo : Json) : Except String Tpm2TokenRef := do
  let blob ← tpm2Blob tinfo
  return {
    tokenId := tid
    blob := blob
    pcrs := tpm2Pcrs tinfo
    pcrBank := ((tinfo.get "tpm2-pcr-bank").bind Json.asStr).getD "sha256"
    pinRequired := ((tinfo.get "tpm2-pin").bind Json.asBool).getD false }

/-- All TPM2 tokens, in the order of the metadata; one that is malformed is an error. -/
def tpm2RefsFromMeta (metadata : Json) : Except String (List Tpm2TokenRef) :=
  ((tableOf "tokens" metadata).filter fun t => hasType tokenTypeTpm2 t.2).mapM fun t => tpm2Ref t.1 t.2

/-! ## On any metadata

What the views say without knowing where the metadata came from.
-/

/-- Keyslots are collected without repeats, and none is lost. -/
lemma mem_pushNew {slots new : List ℤ} {s : ℤ} : s ∈ pushNew slots new ↔ s ∈ slots ∨ s ∈ new := by
  induction new generalizing slots with
  | nil => simp [pushNew]
  | cons a new ih =>
      rw [pushNew, List.foldl_cons, ← pushNew, ih, List.mem_cons]
      split_ifs with ha
      · constructor
        · rintro (hs | hs)
          · exact Or.inl hs
          · exact Or.inr (Or.inr hs)
        · rintro (hs | rfl | hs)
          · exact Or.inl hs
          · exact Or.inl ha
          · exact Or.inr hs
      · rw [List.mem_append, List.mem_singleton, or_assoc]

lemma pushNew_nodup {slots : List ℤ} (h : slots.Nodup) (new : List ℤ) : (pushNew slots new).Nodup := by
  induction new generalizing slots with
  | nil => exact h
  | cons a new ih =>
      rw [pushNew, List.foldl_cons]
      split_ifs with ha
      · exact ih h
      · refine ih (List.nodup_append.mpr ⟨h, List.nodup_singleton a, ?_⟩)
        rintro s hs t ht rfl
        exact ha (List.mem_singleton.mp ht ▸ hs)

/-- **The keyslots of a token type** are those that its tokens list. -/
theorem mem_tokenTypeKeyslots {metadata : Json} {tokenType : String} {s : ℤ} :
    s ∈ tokenTypeKeyslots metadata tokenType
      ↔ ∃ t ∈ tableOf "tokens" metadata, hasType tokenType t.2 = true ∧ s ∈ tokenKeyslots t.2 := by
  have hfold : ∀ (l : List (String × Json)) (slots : List ℤ),
      s ∈ l.foldl (fun slots t => if hasType tokenType t.2 then
        pushNew slots (tokenKeyslots t.2) else slots) slots
      ↔ s ∈ slots ∨ ∃ t ∈ l, hasType tokenType t.2 = true ∧ s ∈ tokenKeyslots t.2 := by
    intro l
    induction l with
    | nil => simp
    | cons t l ih =>
        intro slots
        rw [List.foldl_cons, ih]
        simp only [List.mem_cons, exists_eq_or_imp]
        split_ifs with ht
        · rw [mem_pushNew, or_assoc, eq_true ht, true_and]
        · simp [ht]
  rw [tokenTypeKeyslots, hfold]
  simp

/-- The keyslots of a type are listed once each. -/
lemma tokenTypeKeyslots_nodup (metadata : Json) (tokenType : String) :
    (tokenTypeKeyslots metadata tokenType).Nodup := by
  have hfold : ∀ (l : List (String × Json)) (slots : List ℤ), slots.Nodup →
      (l.foldl (fun slots t => if hasType tokenType t.2 then
        pushNew slots (tokenKeyslots t.2) else slots) slots).Nodup := by
    intro l
    induction l with
    | nil => exact fun _ h => h
    | cons t l ih =>
        intro slots h
        rw [List.foldl_cons]
        split_ifs
        · exact ih _ (pushNew_nodup h _)
        · exact ih _ h
  exact hfold _ [] List.nodup_nil

/-! ## On the metadata of a header

What they say on the metadata that libcryptsetup writes.
-/

/-- The number of a keyslot is read back from its key. -/
lemma parseI32_toString {n : ℕ} (hn : n < 32) : parseI32 (toString n) = some (n : ℤ) :=
  parseInt_toString (by omega) (by omega)

/-- The keyslot table of a dump is the header's. -/
lemma tableOf_keyslots_dump (h : Header) : tableOf "keyslots" h.dump
    = (OrderedMap.ofList (h.slotIds.map fun i => (toString i, h.keyslotJson i))).entries := by
  simp [tableOf, Header.dump, Json.get, tableJson, Json.asObject]

/-- The token table of a dump is the header's. -/
lemma tableOf_tokens_dump (h : Header) : tableOf "tokens" h.dump
    = (OrderedMap.ofList (h.tokenIds.map fun i => (toString i, h.tokenJson i))).entries := by
  simp [tableOf, Header.dump, Json.get, tableJson, Json.asObject]

/-- The keyslots that are listed are those whose keys are numbers. -/
lemma mem_keys_foldl_listKeyslot {l : List (String × Json)} {out : OrderedMap ℤ String} {n : ℤ} :
    n ∈ (l.foldl listKeyslot out).keys ↔ n ∈ out.keys ∨ ∃ x ∈ l, parseI32 x.1 = some n := by
  induction l generalizing out with
  | nil => simp
  | cons x l ih =>
      rw [List.foldl_cons, ih]
      cases hx : parseI32 x.1 with
      | none => simp [listKeyslot, hx]
      | some m =>
          simp only [listKeyslot, hx, OrderedMap.keys, OrderedMap.insert,
            OrderedMap.mem_keys_insertEntry, List.mem_cons, exists_eq_or_imp, Option.some.injEq]
          tauto

/-- **`list_keyslots` lists exactly the keyslots of the header.** -/
theorem mem_keyslotsIn_dump {h : Header} {n : ℤ} :
    n ∈ (keyslotsIn (some h.dump)).keys ↔ ∃ i : ℕ, n = i ∧ (h.keyslots i).isSome := by
  rw [keyslotsIn, mem_keys_foldl_listKeyslot, tableOf_keyslots_dump]
  constructor
  · rintro (hn | ⟨x, hx, hp⟩)
    · exact absurd hn (by simp [OrderedMap.keys, EmptyCollection.emptyCollection])
    · obtain ⟨i, hi, rfl⟩ := (mem_tableJson h.slotIds_nodup).mp hx
      rw [parseI32_toString (Header.lt_of_mem_slotIds hi), Option.some.injEq] at hp
      exact ⟨i, hp.symm, Header.mem_slotIds.mp hi⟩
  · rintro ⟨i, rfl, hi⟩
    have hmem := Header.mem_slotIds.mpr hi
    exact Or.inr ⟨_, (mem_tableJson h.slotIds_nodup).mpr ⟨i, hmem, rfl⟩,
      parseI32_toString (Header.lt_of_mem_slotIds hmem)⟩

lemma filterMap_parseI32 {ks : List ℕ} (hks : ∀ k ∈ ks, k < 32) :
    (ks.map fun k => Json.str (toString k)).filterMap (fun s => s.asStr.bind parseI32)
      = ks.map (Nat.cast : ℕ → ℤ) := by
  induction ks with
  | nil => rfl
  | cons k ks ih =>
      have hk := parseI32_toString (hks k (by simp))
      rw [List.map_cons, List.filterMap_cons_some (by rw [Json.asStr]; exact hk),
        ih fun k' hk' => hks k' (by simp [hk']), List.map_cons]

/-- A token's keyslots are read back as they are. -/
lemma tokenKeyslots_json {h : Header} {i : ℕ} {t : Token} (ht : h.tokens i = some t) :
    tokenKeyslots t.json = t.slots.map (Nat.cast : ℕ → ℤ) := by
  have hlt : ∀ k ∈ t.slots, k < 32 := fun k hk =>
    Header.lt_of_mem_slotIds (Header.mem_slotIds.mpr (h.token_slots i t ht k hk))
  simp only [tokenKeyslots, Token.json, Json.get, Json.field_cons_self, Json.asArray,
    Option.bind_some, Option.map_some, Option.getD_some]
  exact filterMap_parseI32 hlt

/-- A token lists in the metadata what it lists in the header. -/
lemma mem_tokenKeyslots_json {h : Header} {i : ℕ} {t : Token} (ht : h.tokens i = some t)
    {slot : ℤ} : slot ∈ tokenKeyslots t.json ↔ ∃ k ∈ t.slots, slot = (k : ℤ) := by
  simp [tokenKeyslots_json ht, eq_comm]

/-- The search for a token finds one that lists the keyslot, or says `-1` and there is none. -/
lemma findToken_cases (slot : ℤ) (l : List (String × Json))
    (hl : ∀ x ∈ l, (parseI32 x.1).isSome) :
    (findToken slot l = -1 ∧ ∀ x ∈ l, slot ∉ tokenKeyslots x.2)
      ∨ ∃ x ∈ l, parseI32 x.1 = some (findToken slot l) ∧ slot ∈ tokenKeyslots x.2 := by
  induction l with
  | nil => exact Or.inl ⟨rfl, by simp⟩
  | cons x l ih =>
      by_cases hx : slot ∈ tokenKeyslots x.2
      · obtain ⟨tid, htid⟩ := Option.isSome_iff_exists.mp (hl x (by simp))
        exact Or.inr ⟨x, by simp, by simp [findToken, hx, htid], hx⟩
      · have hskip : findToken slot (x :: l) = findToken slot l := by simp [findToken, hx]
        rw [hskip]
        rcases ih fun y hy => hl y (by simp [hy]) with ⟨hf, hall⟩ | ⟨y, hy, hp, hs⟩
        · refine Or.inl ⟨hf, fun y hy => ?_⟩
          rcases List.mem_cons.mp hy with rfl | hy
          · exact hx
          · exact hall y hy
        · exact Or.inr ⟨y, by simp [hy], hp, hs⟩

/-- The entries of the token table are the header's tokens, each under its number. -/
lemma mem_tableOf_tokens_dump {h : Header} {x : String × Json} :
    x ∈ tableOf "tokens" h.dump
      ↔ ∃ i t, i < tokensMax ∧ h.tokens i = some t ∧ x = (toString i, t.json) := by
  rw [tableOf_tokens_dump, mem_tableJson h.tokenIds_nodup]
  constructor
  · rintro ⟨i, hi, rfl⟩
    obtain ⟨t, ht⟩ := Option.isSome_iff_exists.mp (Header.mem_tokenIds.mp hi)
    exact ⟨i, t, Header.lt_of_mem_tokenIds hi, ht, by simp [Header.tokenJson, ht]⟩
  · rintro ⟨i, t, -, ht, rfl⟩
    exact ⟨i, Header.mem_tokenIds.mpr (by simp [ht]), by simp [Header.tokenJson, ht]⟩

/-- **What `find_token_for_keyslot` finds**: a token that lists the keyslot, or `-1` when none
does. -/
theorem tokenForKeyslotIn_dump (h : Header) (slot : ℤ) :
    (tokenForKeyslotIn slot (some h.dump) = -1
        ∧ ∀ i t, h.tokens i = some t → ∀ k ∈ t.slots, slot ≠ (k : ℤ))
      ∨ ∃ (i : ℕ) (t : Token), tokenForKeyslotIn slot (some h.dump) = i ∧ i < tokensMax
        ∧ h.tokens i = some t ∧ ∃ k ∈ t.slots, slot = (k : ℤ) := by
  have hparse : ∀ x ∈ tableOf "tokens" h.dump, (parseI32 x.1).isSome := by
    intro x hx
    obtain ⟨i, t, hi, -, rfl⟩ := mem_tableOf_tokens_dump.mp hx
    rw [parseI32_toString hi]
    rfl
  rcases findToken_cases slot (tableOf "tokens" h.dump) hparse with ⟨hf, hall⟩ | ⟨x, hx, hp, hs⟩
  · refine Or.inl ⟨hf, fun i t ht k hk hslot => ?_⟩
    have hsome : (h.tokens i).isSome := by rw [ht]; rfl
    have hi := Header.lt_of_mem_tokenIds (Header.mem_tokenIds.mpr hsome)
    have hmem := mem_tableOf_tokens_dump.mpr ⟨i, t, hi, ht, rfl⟩
    exact hall _ hmem ((mem_tokenKeyslots_json ht).mpr ⟨k, hk, hslot⟩)
  · obtain ⟨i, t, hi, ht, rfl⟩ := mem_tableOf_tokens_dump.mp hx
    rw [parseI32_toString hi, Option.some.injEq] at hp
    exact Or.inr ⟨i, t, hp.symm, hi, ht, (mem_tokenKeyslots_json ht).mp hs⟩

end LuksEnroll
