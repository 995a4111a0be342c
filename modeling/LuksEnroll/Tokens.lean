import LuksEnroll.Concurrency
import LuksEnroll.Library.Journal
import LuksEnroll.Library.Traversal
import Mathlib.Data.String.Basic

/-!
# What enrollment stores, and what unlocking reads

An enrollment with an authenticator or with the TPM ends by storing a token, and the next unlock
starts from what it reads in the token: the credential and the salt, or the sealed blob and the PCRs
that it is sealed to.  The two sides do not share code.

**The PCRs take the longest way.**  The text that came with the request is parsed once for the
policy that the secret is sealed to, a second time for the token, is stored as a list of numbers and
read as a text again, which is parsed for the policy of the unlock.  The first parse drops repeated
indices and refuses what is out of range, the second one does neither.  All the same the policies
agree (`pcrs_read_back`).

**What is written** is what the authenticator, the TPM and libcryptsetup answered to the same
request, in every interleaving with others (`enrolled_tokens_read_back`).
-/

namespace LuksEnroll

open Library
open Prog (AllCalls Tells)

/-! ## PCR selections

The text of a selection, as the service parses it when it seals and when it unseals.
-/

/-- `str::parse::<i64>`. -/
def parseI64 (s : String) : Option ℤ := parseInt (-9223372036854775808) 9223372036854775807 s

/-- An index is selected once. -/
def pushIndex (out : List ℕ) (n : ℕ) : List ℕ := if n ∈ out then out else out ++ [n]

/-- The loop of `parse_pcr_indices`. -/
def pcrIndices : List String → List ℕ → Except String (List ℕ)
  | [], out => Except.ok out
  | part :: parts, out =>
      if trim part = "" then pcrIndices parts out
      else match parseI64 (trim part) with
        | none => Except.error ("Invalid PCR index '" ++ trim part ++ "'")
        | some n =>
            if 0 ≤ n ∧ n ≤ 23 then pcrIndices parts (pushIndex out n.toNat)
            else Except.error ("PCR index " ++ toString n ++ " out of range (0-23)")

/-- The parts of a text between its plus signs. -/
def pcrParts (pcrs : String) : List String := (splitChar '+' pcrs.toList).map String.ofList

/-- `parse_pcr_indices`. -/
def parsePcrIndices (pcrs : String) : Except String (List ℕ) := do
  let out ← pcrIndices (pcrParts pcrs) []
  if out = [] then throw "PCR selection must not be empty"
  return out

/-- `HashingAlgorithm`, as far as banks are named. -/
inductive HashingAlgorithm : Type
  | sha1
  | sha256
  | sha384
  | sha512
  deriving DecidableEq

/-- `pcr_bank_to_alg`. -/
def pcrBankToAlg (bank : String) : HashingAlgorithm :=
  if bank = "sha1" then HashingAlgorithm.sha1
  else if bank = "sha256" then HashingAlgorithm.sha256
  else if bank = "sha384" then HashingAlgorithm.sha384
  else if bank = "sha512" then HashingAlgorithm.sha512
  else HashingAlgorithm.sha256

/-- A selection of registers in one bank, each as the bit that stands for it. -/
structure PcrSelection where
  bank : HashingAlgorithm
  slots : List ℕ

/-- `build_pcr_selection_list`; every index up to 23 has a slot. -/
def buildPcrSelectionList (bank : HashingAlgorithm) (pcrs : String) : Except String PcrSelection := do
  let indices ← parsePcrIndices pcrs
  return ⟨bank, indices.map fun n => 1 <<< n⟩

/-- The selection that `seal` binds a secret to. -/
def sealSelection (pcrs : String) : Except String PcrSelection :=
  buildPcrSelectionList HashingAlgorithm.sha256 pcrs

/-- The selection by which `try_unseal_token` asks for it back. -/
def unsealSelection (token : Tpm2TokenRef) : Except String PcrSelection :=
  buildPcrSelectionList (pcrBankToAlg token.pcrBank) token.pcrs

/-! ## The text of the PCRs

The numbers are printed and parsed again.
-/

/-- The numbers of the parts that are not blank. -/
def pcrNumbers (parts : List String) : List (Option ℤ) :=
  ((parts.map trim).filter fun p => decide (p ≠ "")).map parseI64

/-- **What the loop accepts**: every part is blank or a number in range. -/
lemma pcrIndices_eq_ok {parts : List String} {out indices : List ℕ}
    (h : pcrIndices parts out = Except.ok indices) :
    ∃ ns : List ℕ, (∀ n ∈ ns, n ≤ 23) ∧ pcrNumbers parts = ns.map (fun n : ℕ => some (n : ℤ)) ∧
      indices = ns.foldl pushIndex out := by
  induction parts generalizing out with
  | nil =>
      rw [pcrIndices, Except.ok.injEq] at h
      exact ⟨[], by simp, rfl, h.symm⟩
  | cons part parts ih =>
      rw [pcrIndices] at h
      by_cases hblank : trim part = ""
      · rw [if_pos hblank] at h
        obtain ⟨ns, hns, hparts, hindices⟩ := ih h
        refine ⟨ns, hns, ?_, hindices⟩
        rw [← hparts]
        simp [pcrNumbers, hblank]
      · rw [if_neg hblank] at h
        cases hn : parseI64 (trim part) with
        | none => simp [hn] at h
        | some n =>
            simp only [hn] at h
            split_ifs at h with hrange
            obtain ⟨ns, hns, hparts, hindices⟩ := ih h
            refine ⟨n.toNat :: ns, ?_, ?_, hindices⟩
            · intro m hm
              rcases List.mem_cons.mp hm with rfl | hm
              · omega
              · exact hns m hm
            · have hcast : ((n.toNat : ℕ) : ℤ) = n := by omega
              rw [pcrNumbers, List.map_cons, List.filter_cons_of_pos (by simpa using hblank),
                List.map_cons, List.map_cons, hn, hcast, ← hparts, pcrNumbers]

/-- The loop on parts that are blank or numbers in range. -/
lemma pcrIndices_of_numbers {parts : List String} {ns : List ℕ}
    (hparts : pcrNumbers parts = ns.map fun n : ℕ => some (n : ℤ)) (hns : ∀ n ∈ ns, n ≤ 23)
    (out : List ℕ) : pcrIndices parts out = Except.ok (ns.foldl pushIndex out) := by
  induction parts generalizing ns out with
  | nil =>
      obtain rfl : ns = [] := by simpa [pcrNumbers] using hparts.symm
      rfl
  | cons part parts ih =>
      by_cases hblank : trim part = ""
      · rw [pcrIndices, if_pos hblank]
        refine ih ?_ hns out
        rw [← hparts]
        simp [pcrNumbers, hblank]
      · rw [pcrNumbers, List.map_cons, List.filter_cons_of_pos (by simpa using hblank),
          List.map_cons] at hparts
        cases ns with
        | nil => simp at hparts
        | cons n ns =>
            simp only [List.map_cons, List.cons.injEq] at hparts
            have hn : n ≤ 23 := hns n (by simp)
            rw [pcrIndices, if_neg hblank, hparts.1]
            simp only
            rw [if_pos (by omega), Int.toNat_natCast,
              ih hparts.2 (fun m hm => hns m (List.mem_cons_of_mem _ hm))]
            rfl

/-- Nothing in the digits of a number is white space or a plus sign. -/
lemma toString_digits {n : ℕ} {c : Char} (hc : c ∈ (toString n).toList) : c.isDigit = true := by
  rw [Nat.toString_eq_repr, Nat.toList_repr] at hc
  exact Nat.isDigit_of_mem_toDigits (by omega) (by omega) hc

/-- A printed number has no blanks around it. -/
lemma trim_toString (n : ℕ) : trim (toString n) = toString n := by
  refine trim_of_all fun c hc => ?_
  have hdigit := isDigit_iff.mp (toString_digits hc)
  simp only [isWhiteSpace]
  simp
  omega

lemma toString_ne_empty (n : ℕ) : toString n ≠ "" := by
  intro h
  have htext := congrArg String.toList h
  rw [Nat.toString_eq_repr, Nat.toList_repr] at htext
  exact absurd htext Nat.toDigits_ne_nil

/-- The parts of a text of numbers are the numbers. -/
lemma pcrParts_intercalate {ns : List ℕ} (hne : ns ≠ []) :
    pcrParts (String.intercalate "+" (ns.map toString)) = ns.map toString := by
  have hplus : ∀ seg ∈ (ns.map toString).map String.toList, '+' ∉ seg := by
    intro seg hseg hmem
    simp only [List.map_map, List.mem_map, Function.comp_apply] at hseg
    obtain ⟨n, -, rfl⟩ := hseg
    exact absurd (toString_digits hmem) (by decide)
  have hback : String.ofList ∘ String.toList = id := funext fun s => String.ofList_toList
  rw [pcrParts, String.toList_intercalate, show "+".toList = ['+'] from rfl,
    splitChar_intercalate (by simpa using hne) hplus, List.map_map, hback, List.map_id]

/-- The second parse of the same text: what the token will list. -/
lemma pcrList_of_numbers {pcrs : String} {ns : List ℕ}
    (h : pcrNumbers (pcrParts pcrs) = ns.map fun n : ℕ => some (n : ℤ)) :
    pcrList pcrs = Except.ok (ns.map (Nat.cast : ℕ → ℤ)) := by
  have hparts : (splitChar '+' pcrs.toList).map (fun p => trim (String.ofList p))
      = (pcrParts pcrs).map trim := by rw [pcrParts, List.map_map]; rfl
  have hread : List.Forall₂ (fun p n => parseI64 p = some n)
      (((pcrParts pcrs).map trim).filter fun p => decide (p ≠ "")) (ns.map (Nat.cast : ℕ → ℤ)) := by
    rw [List.forall₂_map_right_iff]
    rw [pcrNumbers, ← List.forall₂_eq_eq_eq, List.forall₂_map_left_iff, List.forall₂_map_right_iff] at h
    exact h
  rw [pcrList, hparts, mapM_eq_ok]
  refine hread.imp fun p n hp => ?_
  rw [parseI64] at hp
  rw [hp]

/-- What is parsed is what the parts give, if there is anything. -/
lemma parsePcrIndices_eq_ok {pcrs : String} {indices : List ℕ} :
    parsePcrIndices pcrs = Except.ok indices
      ↔ pcrIndices (pcrParts pcrs) [] = Except.ok indices ∧ indices ≠ [] := by
  rw [parsePcrIndices]
  cases hloop : pcrIndices (pcrParts pcrs) [] with
  | error e => simp [bind, Except.bind]
  | ok out =>
      by_cases hout : out = []
      · simp [hout, bind, Except.bind, throw, throwThe, MonadExceptOf.throw, eq_comm]
      · simp only [bind, Except.bind, pure, Except.pure, if_neg hout, Except.ok.injEq]
        rw [iff_self_and]
        rintro rfl
        exact hout

/-- **The PCRs of an accepted text**: the second parse succeeds, and the text that is read back from
the list is accepted with the same indices. -/
lemma pcrs_read_back {pcrs : String} {indices : List ℕ}
    (h : parsePcrIndices pcrs = Except.ok indices) :
    ∃ ns : List ℕ, pcrList pcrs = Except.ok (ns.map (Nat.cast : ℕ → ℤ)) ∧
      parsePcrIndices (String.intercalate "+" (ns.map toString)) = Except.ok indices := by
  obtain ⟨hloop, hne⟩ := parsePcrIndices_eq_ok.mp h
  obtain ⟨ns, hrange, hnumbers, hout⟩ := pcrIndices_eq_ok hloop
  have hnsne : ns ≠ [] := by
    rintro rfl
    exact hne hout
  have hback : pcrNumbers (ns.map toString) = ns.map fun n : ℕ => some (n : ℤ) := by
    have hall : ∀ p ∈ ns.map toString, decide (p ≠ "") = true := by
      intro p hp
      obtain ⟨n, -, rfl⟩ := List.mem_map.mp hp
      exact decide_eq_true (toString_ne_empty n)
    have htrim : (ns.map toString).map trim = ns.map toString := by
      rw [List.map_map]
      exact List.map_congr_left fun n _ => trim_toString n
    rw [pcrNumbers, htrim, List.filter_eq_self.mpr hall, List.map_map]
    refine List.map_congr_left fun n hn => ?_
    have := hrange n hn
    rw [Function.comp_apply, parseI64, parseInt_toString (by omega) (by omega)]
  refine ⟨ns, pcrList_of_numbers hnumbers, ?_⟩
  rw [parsePcrIndices_eq_ok, pcrParts_intercalate hnsne, pcrIndices_of_numbers hback hrange, ← hout]
  exact ⟨rfl, hne⟩

example : (parsePcrIndices " 07+7++11 + -0 ").toOption = some [7, 11, 0] := by decide +kernel

example : (pcrList " 07+7++11 + -0 ").toOption = some [7, 7, 11, 0] := by decide +kernel

/-! ## Reading a token back

The token that the enrollment writes, as the readers of the metadata see it.
-/

/-- A token with its keyslot in it, as `enroll_token` stores it. -/
def withKeyslot (token : Json) (keyslot : ℕ) : Json :=
  token.set "keyslots" (Json.arr [Json.str (toString keyslot)])

/-- Metadata with this token in it. -/
def soleToken (tid : String) (token : Json) : Json :=
  Json.obj [("tokens", Json.obj [(tid, token)])]

/-- A token from which this credential, this salt and this keyslot are read. -/
structure Fido2ReadBack (token : Json) (credId salt : Bytes) (keyslot : ℕ) : Prop where
  refs : ∀ tid, fido2RefsFromMeta (soleToken tid token) = Except.ok [⟨credId, salt⟩]
  keyslots : tokenKeyslots token = [(keyslot : ℤ)]

/-- A token from which this blob, the bank of SHA-256, this demand for a PIN and this keyslot are
read, and a text of PCRs that gives these indices, and so the selection that was sealed to. -/
structure Tpm2ReadBack (token : Json) (blob : Bytes) (pcrs : String) (indices : List ℕ) (pin : Bool)
    (keyslot : ℕ) : Prop where
  refs : ∀ tid, ∃ text, tpm2RefsFromMeta (soleToken tid token)
      = Except.ok [⟨tid, blob, text, "sha256", pin⟩] ∧
    parsePcrIndices text = Except.ok indices ∧
    unsealSelection ⟨tid, blob, text, "sha256", pin⟩ = sealSelection pcrs
  keyslots : tokenKeyslots token = [(keyslot : ℤ)]

lemma decodeB64_encode (bytes : Bytes) : decodeB64 (Base64.encode bytes) = Except.ok bytes := by
  rw [decodeB64, Base64.decode_encode]

/-- A token that was stamped with a keyslot lists it. -/
lemma tokenKeyslots_withKeyslot {fields : List (String × Json)} {keyslot : ℕ}
    (hkeyslot : keyslot < keyslotsMax) :
    tokenKeyslots (withKeyslot (Json.obj fields) keyslot) = [(keyslot : ℤ)] := by
  simp only [tokenKeyslots, withKeyslot, Json.set, Json.get, Json.field_cons_self, Option.bind_some,
    Json.asArray, Option.map_some, Option.getD_some]
  have hks : ∀ k ∈ [keyslot], k < 32 := by simpa [keyslotsMax] using hkeyslot
  exact filterMap_parseI32 hks

lemma hasType_withKeyslot {tokenType : String} {token : Json} (keyslot : ℕ)
    (h : hasType tokenType token = true) :
    hasType tokenType (withKeyslot token keyslot) = true := by
  rw [← h, hasType, hasType, withKeyslot, Json.get_set_ne (by decide)]

/-- What the reader of a type makes of one token of that type. -/
lemma mapM_soleToken {α : Type} {tokenType tid : String} {token : Json} {ref : α}
    {read : String × Json → Except String α} (htype : hasType tokenType token = true)
    (hread : read (tid, token) = Except.ok ref) :
    ((tableOf "tokens" (soleToken tid token)).filter fun t => hasType tokenType t.2).mapM read
      = Except.ok [ref] := by
  have htable : tableOf "tokens" (soleToken tid token) = [(tid, token)] := by
    simp [tableOf, soleToken, Json.get, Json.asObject]
  have hfilter : [(tid, token)].filter (fun t => hasType tokenType t.2) = [(tid, token)] := by
    simpa using htype
  rw [htable, hfilter, List.mapM_cons, hread]
  rfl

/-- **A FIDO2 token**: whatever the credential, the salt and the PIN flag. -/
lemma fido2_read_back (credId salt : Bytes) (pin : Bool) {keyslot : ℕ}
    (hkeyslot : keyslot < keyslotsMax) :
    Fido2ReadBack (withKeyslot (fido2TokenJson credId salt pin) keyslot) credId salt keyslot where
  keyslots := tokenKeyslots_withKeyslot hkeyslot
  refs := by
    intro tid
    have htype : hasType tokenTypeFido2 (fido2TokenJson credId salt pin) = true := by
      simp [hasType, fido2TokenJson, Json.get, Json.asStr]
    refine mapM_soleToken (hasType_withKeyslot keyslot htype) ?_
    simp only [fido2Ref, requireStr, withKeyslot]
    rw [Json.get_set_ne (by decide), Json.get_set_ne (by decide)]
    simp [fido2TokenJson, Json.get, Json.field, Json.asStr, decodeB64_encode, bind, Except.bind,
      pure, Except.pure]

/-- The registers of a stored token are the text that lists them. -/
lemma tpm2Pcrs_withKeyslot (result : SealResult) (ns : List ℕ) (pin : Bool) (keyslot : ℕ) :
    tpm2Pcrs (withKeyslot (tpm2TokenJson result (ns.map (Nat.cast : ℕ → ℤ)) pin) keyslot)
      = String.intercalate "+" (ns.map toString) := by
  have hpcrs : Json.get "tpm2-pcrs" (tpm2TokenJson result (ns.map (Nat.cast : ℕ → ℤ)) pin)
      = some (Json.arr ((ns.map (Nat.cast : ℕ → ℤ)).map Json.num)) := by
    simp [tpm2TokenJson, Json.get, Json.field]
  rw [tpm2Pcrs, withKeyslot, Json.get_set_ne (by decide), hpcrs]
  simp only [List.map_map]
  rfl

/-- The blob of a stored token is the sealed one. -/
lemma tpm2Blob_withKeyslot (result : SealResult) (list : List ℤ) (pin : Bool) (keyslot : ℕ) :
    tpm2Blob (withKeyslot (tpm2TokenJson result list pin) keyslot) = Except.ok result.blob := by
  have hblob : Json.get "tpm2_blob" (tpm2TokenJson result list pin)
      = some (Json.str (Base64.encode result.blob)) := by
    simp [tpm2TokenJson, Json.get, Json.field]
  rw [tpm2Blob, withKeyslot, Json.get_set_ne (by decide), hblob]
  exact decodeB64_encode result.blob

/-- **A TPM2 token**, for every text of PCRs that the policy was made from. -/
lemma tpm2_read_back {pcrs : String} {indices : List ℕ}
    (h : parsePcrIndices pcrs = Except.ok indices) (result : SealResult) (pin : Bool) {keyslot : ℕ}
    (hkeyslot : keyslot < keyslotsMax) :
    ∃ list, pcrList pcrs = Except.ok list ∧
      Tpm2ReadBack (withKeyslot (tpm2TokenJson result list pin) keyslot) result.blob pcrs indices pin
        keyslot := by
  obtain ⟨ns, hlist, hback⟩ := pcrs_read_back h
  refine ⟨_, hlist, fun tid => ⟨String.intercalate "+" (ns.map toString), ?_, hback, ?_⟩,
    tokenKeyslots_withKeyslot hkeyslot⟩
  · have htype : hasType tokenTypeTpm2 (tpm2TokenJson result (ns.map (Nat.cast : ℕ → ℤ)) pin)
        = true := by
      simp [hasType, tpm2TokenJson, Json.get, Json.asStr]
    refine mapM_soleToken (hasType_withKeyslot keyslot htype) ?_
    simp only [tpm2Ref, tpm2Pcrs_withKeyslot, tpm2Blob_withKeyslot]
    rw [withKeyslot, Json.get_set_ne (by decide), Json.get_set_ne (by decide)]
    simp [tpm2TokenJson, Json.get, Json.field, Json.asStr, Json.asBool, bind, Except.bind, pure,
      Except.pure]
  · rw [unsealSelection, sealSelection, buildPcrSelectionList, buildPcrSelectionList, h, hback]
    rfl

/-! ## What a request writes

What a request says of itself: the token it writes has the credential it was given, the salt it
made, or the blob it was sealed.
-/

/-- An answer to a request. -/
abbrev RequestEvent (n : ℕ) := Event (Fin n) Cmd Reply World

/-- What happened, without the thread and the state. -/
def RequestEvent.what {n : ℕ} (e : RequestEvent n) : Answered Cmd Reply := ⟨e.cmd, e.reply⟩

/-- The authenticator's answer to an enrollment. -/
def fido2Enrolled (fido2Device pin : String) (enrollment : Fido2Enrollment) : Answered Cmd Reply :=
  ⟨Cmd.fido2Enroll fido2Device (optionalPin pin), Except.ok enrollment⟩

/-- The TPM's. -/
def tpm2Sealed (secret : Bytes) (pcrs pin : String) (result : SealResult) : Answered Cmd Reply :=
  ⟨Cmd.tpm2Seal secret pcrs pin, Except.ok result⟩

/-- A new keyslot. -/
def keyslotAdded (device : String) (vk : VolumeKey) (pw : Bytes) (keyslot : ℕ) :
    Answered Cmd Reply := ⟨Cmd.addByKey device (some vk) pw, Except.ok keyslot⟩

/-- A new token. -/
def tokenAdded (device : String) (json : Json) (tid : ℕ) : Answered Cmd Reply :=
  ⟨Cmd.tokenJsonSet device (TokenInput.add json), Except.ok tid⟩

/-- A token that the request may have prepared, from what it was answered so far. -/
def SlotRequest.Prepares (past : List (Answered Cmd Reply)) (token : Json) : SlotRequest → Prop
  | enrollFido2 _ _ pin fido2Device _ _ => ∃ enrollment,
      fido2Enrolled fido2Device pin enrollment ∈ past ∧
      token = fido2TokenJson enrollment.credId enrollment.salt (decide (pin ≠ ""))
  | enrollTpm2 _ _ pin pcrs _ _ => ∃ secret result list,
      tpm2Sealed secret pcrs pin result ∈ past ∧ pcrList pcrs = Except.ok list ∧
      token = tpm2TokenJson result list (decide (pin ≠ ""))
  | enrollRecoveryKey _ _ _ _ => token = recoveryTokenJson
  | _ => False

/-- Tokens are written at the end of an enrollment only: the token it prepared, with the keyslot it
added. -/
def TokenRule (r : SlotRequest) (c : Cmd) (past : List (Answered Cmd Reply)) : Prop :=
  ∀ device json, c = Cmd.tokenJsonSet device (TokenInput.add json) → device = r.device ∧
    ∃ token vk pw keyslot, json = withKeyslot token keyslot ∧ r.Prepares past token ∧
      keyslotAdded device vk pw keyslot ∈ past

section Rule

variable {r : SlotRequest} {past past' : List (Answered Cmd Reply)} {device : String} {α : Type}

lemma SlotRequest.Prepares.mono {token : Json} (h : r.Prepares past token) (hsub : past ⊆ past') :
    r.Prepares past' token := by
  cases r with
  | enrollFido2 device passphrase pin fido2Device unlockMethod unlockPin =>
      obtain ⟨enrollment, hmem, htoken⟩ := h
      exact ⟨enrollment, hsub hmem, htoken⟩
  | enrollTpm2 device passphrase pin pcrs unlockMethod unlockPin =>
      obtain ⟨secret, result, list, hmem, hlist, htoken⟩ := h
      exact ⟨secret, result, list, hsub hmem, hlist, htoken⟩
  | enrollRecoveryKey device passphrase unlockMethod unlockPin => exact h
  | enrollPassphrase device existingPassphrase newPassphrase unlockMethod unlockPin => exact h
  | wipeSlot device passphrase unlockMethod pin slot => exact h

/-- Commands that are not about tokens are not restricted. -/
lemma tells_reads {p : Op α} (hp : p.AllCalls (Cmd.ReadsOn device))
    (past : List (Answered Cmd Reply)) :
    p.Tells (TokenRule r) (fun _ past' => past <:+ past') past := by
  refine Tells.of_allCalls (fun c past hc => ?_) hp past
  rintro d json rfl
  exact hc.elim

/-- A failure that is relabelled tells nothing new. -/
lemma tells_orFail {Q : Except String α → List (Answered Cmd Reply) → Prop} {x : Except String α}
    {word : String → String} {P : Cmd → List (Answered Cmd Reply) → Prop}
    (h : Q (x.mapError word) past) : (orFail x word).Tells P Q past := by
  cases x with
  | ok a => exact h
  | error e => exact h

/-- Adding a keyslot tells at which index it was added. -/
lemma tells_addKeyslotByVolumeKey (vk : VolumeKey) (pw : Bytes) (minimalPbkdf : Bool) :
    (addKeyslotByVolumeKey device vk pw minimalPbkdf).Tells (TokenRule r)
      (fun x past' => past <:+ past' ∧ ∀ keyslot, x = Except.ok keyslot →
        keyslotAdded device vk pw keyslot ∈ past') past := by
  refine Tells.bind (Tells.mono (fun x past₁ h₁ => ?_)
    (tells_reads (reads_of_looks (openLuks2_looks device)) past))
  cases x with
  | error e => exact ⟨h₁, by simp⟩
  | ok loaded =>
      have hpbkdf := @choosePbkdf_looks device minimalPbkdf
      refine Tells.bind (Tells.mono (fun x past₂ h₂ => ?_)
        (tells_reads (reads_of_looks hpbkdf) past₁))
      cases x with
      | error e => exact ⟨h₁.trans h₂, by simp⟩
      | ok u =>
          refine ⟨by rintro d json ⟨⟩, fun reply => tells_orFail ⟨?_, fun keyslot hok => ?_⟩⟩
          · exact (h₁.trans h₂).trans (List.suffix_cons _ _)
          · cases reply with
            | error e => simp [Except.mapError] at hok
            | ok s =>
                simp only [Except.mapError, Except.ok.injEq] at hok
                subst hok
                exact List.mem_cons_self ..

/-- Storing a token writes what was prepared, for the keyslot that was added. -/
lemma tells_storeToken {prepared : Prepared} {vk : VolumeKey} {pw : Bytes} {keyslot : ℕ}
    (hdevice : r.device = device) (hprepared : r.Prepares past prepared.token)
    (hkeyslot : keyslotAdded device vk pw keyslot ∈ past) :
    (storeToken device prepared keyslot).Tells (TokenRule r) (fun _ _ => True) past := by
  show Tells _ _ (((openLuks2 device).bind _).bind _) _
  rw [Prog.bind_assoc]
  refine Tells.bind (Tells.mono (fun x past₁ h₁ => ?_)
    (tells_reads (reads_of_looks (openLuks2_looks device)) past))
  cases x with
  | error e => trivial
  | ok loaded =>
      refine ⟨?_, fun reply => ?_⟩
      · rintro d json ⟨⟩
        exact ⟨hdevice.symm, prepared.token, vk, pw, keyslot, rfl, hprepared.mono h₁.subset,
          h₁.subset hkeyslot⟩
      · cases reply with
        | error e => trivial
        | ok s => trivial

/-- The authorised tail of an enrollment: the keyslot is added, then its token is stored. -/
lemma tells_enrollToken {prepare : Op Prepared} (hdevice : r.device = device)
    (hprepare : ∀ past, prepare.Tells (TokenRule r)
      (fun x past' => ∀ prepared, x = Except.ok prepared → r.Prepares past' prepared.token) past)
    (unlockMethod unlockPin passphrase : String) :
    (enrollToken device unlockMethod unlockPin passphrase prepare).Tells (TokenRule r)
      (fun _ _ => True) past := by
  refine Tells.bind (Tells.mono (fun x past₁ h₁ => ?_) (hprepare past))
  cases x with
  | error e => trivial
  | ok prepared =>
      have hprepared := h₁ prepared rfl
      refine Tells.bind (Tells.mono (fun x past₂ h₂ => ?_)
        (tells_reads (getVolumeKey_reads device unlockMethod passphrase unlockPin) past₁))
      cases x with
      | error e => trivial
      | ok vk =>
          refine Tells.bind (Tells.mono (fun x past₃ h₃ => ?_) (tells_addKeyslotByVolumeKey vk
            prepared.keyslotSecret prepared.minimalPbkdf))
          cases x with
          | error e => trivial
          | ok keyslot =>
              exact tells_storeToken hdevice (hprepared.mono (h₂.trans h₃.1).subset)
                (h₃.2 keyslot rfl)

/-- What an authenticator answered is in the token that is prepared from it. -/
lemma tells_prepareFido2 {passphrase pin fido2Device unlockMethod unlockPin : String}
    (past : List (Answered Cmd Reply)) :
    (prepareFido2 fido2Device pin).Tells
      (TokenRule (SlotRequest.enrollFido2 device passphrase pin fido2Device unlockMethod unlockPin))
      (fun x past' => ∀ prepared, x = Except.ok prepared →
        (SlotRequest.enrollFido2 device passphrase pin fido2Device unlockMethod unlockPin).Prepares
          past' prepared.token) past := by
  refine ⟨by rintro d json ⟨⟩, fun reply => ?_⟩
  cases reply with
  | error e => exact fun prepared hok => by simp at hok
  | ok enrollment =>
      intro prepared hok
      obtain rfl := Except.ok.inj hok
      exact ⟨enrollment, List.mem_cons_self .., rfl⟩

/-- What the TPM answered is in the token that is prepared from it. -/
lemma tells_prepareTpm2 {passphrase pin pcrs unlockMethod unlockPin : String}
    (past : List (Answered Cmd Reply)) :
    (prepareTpm2 pcrs pin).Tells
      (TokenRule (SlotRequest.enrollTpm2 device passphrase pin pcrs unlockMethod unlockPin))
      (fun x past' => ∀ prepared, x = Except.ok prepared →
        (SlotRequest.enrollTpm2 device passphrase pin pcrs unlockMethod unlockPin).Prepares
          past' prepared.token) past := by
  refine ⟨by rintro d json ⟨⟩, fun random => ?_⟩
  cases random with
  | error e => exact fun prepared hok => by simp at hok
  | ok secret =>
      refine ⟨by rintro d json ⟨⟩, fun reply => ?_⟩
      cases reply with
      | error e => exact fun prepared hok => by simp at hok
      | ok result =>
          show Tells _ _ ((Prog.ofExcept (pcrList pcrs)).bind _) _
          cases hlist : pcrList pcrs with
          | error e => exact fun prepared hok => by simp at hok
          | ok list =>
              intro prepared hok
              obtain rfl := Except.ok.inj hok
              exact ⟨secret, result, list, List.mem_cons_self .., hlist, rfl⟩

/-- **A request writes no token but the one it has prepared**, for the keyslot it has added. -/
lemma SlotRequest.tells_body (r : SlotRequest) : r.body.Tells (TokenRule r) (fun _ _ => True) past := by
  cases r with
  | enrollFido2 device passphrase pin fido2Device unlockMethod unlockPin =>
      refine tells_runOp (Tells.bind (Tells.mono (fun x past₁ _ => ?_)
        (tells_reads (reads_of_looks (alreadyEnrolled_looks device fido2Device)) past)))
      cases x with
      | error e => trivial
      | ok enrolled =>
          cases enrolled with
          | true => trivial
          | false => exact tells_enrollToken rfl tells_prepareFido2 unlockMethod unlockPin passphrase
  | enrollTpm2 device passphrase pin pcrs unlockMethod unlockPin =>
      exact tells_runOp (tells_enrollToken rfl tells_prepareTpm2 unlockMethod unlockPin passphrase)
  | enrollRecoveryKey device passphrase unlockMethod unlockPin =>
      refine tells_runOp (tells_enrollToken rfl (fun past => ?_) unlockMethod unlockPin passphrase)
      refine ⟨by rintro d json ⟨⟩, fun raw => ?_⟩
      intro prepared hok
      obtain rfl := Except.ok.inj hok
      rfl
  | enrollPassphrase device existingPassphrase newPassphrase unlockMethod unlockPin =>
      have hcalls := (SlotRequest.enrollPassphrase device existingPassphrase newPassphrase unlockMethod
        unlockPin).body_issues
      refine Tells.mono (fun _ _ _ => trivial) (Tells.of_allCalls (fun c past hc => ?_) hcalls past)
      rintro d json rfl
      rcases hc with hread | ⟨vk, pw, hw⟩
      · exact hread.elim
      · cases hw
  | wipeSlot device passphrase unlockMethod pin slot =>
      have hcalls := (SlotRequest.wipeSlot device passphrase unlockMethod pin slot).body_issues
      refine Tells.mono (fun _ _ _ => trivial) (Tells.of_allCalls (fun c past hc => ?_) hcalls past)
      rintro d json rfl
      rcases hc with hread | ⟨id, hw⟩ | hw
      · exact hread.elim
      · cases hw
      · cases hw

end Rule

/-! ## Whole histories

Over every schedule of requests, each token on the header was written by one of them and reads back
as what that one enrolled.
-/

/-- The requests, all of them at their start, and a journal that is still empty. -/
def JournaledRequests {n : ℕ} (reqs : Fin n → SlotRequest) (w : World) :
    Pool (Fin n) Cmd Reply String Triple (Journal (Fin n) Cmd Reply World) where
  threads := fun i => (reqs i).body
  state := ⟨w, []⟩

/-- **What the history says of a token that is written.** -/
structure TokenWritten {n : ℕ} (reqs : Fin n → SlotRequest) (e : RequestEvent n)
    (earlier : List (RequestEvent n)) : Prop where
  /-- By an enrollment with an authenticator: its credential and its salt are read from it. -/
  fido2 : ∀ device passphrase pin fido2Device unlockMethod unlockPin, reqs e.thread =
      SlotRequest.enrollFido2 device passphrase pin fido2Device unlockMethod unlockPin →
    ∀ d json, e.cmd = Cmd.tokenJsonSet d (TokenInput.add json) → d = device ∧
      ∃ enrollment vk pw keyslot,
        fido2Enrolled fido2Device pin enrollment ∈ own e.thread earlier ∧
        keyslotAdded device vk pw keyslot ∈ own e.thread earlier ∧
        Fido2ReadBack json enrollment.credId enrollment.salt keyslot
  /-- By an enrollment with the TPM: what was sealed is read from it. -/
  tpm2 : ∀ device passphrase pin pcrs unlockMethod unlockPin, reqs e.thread =
      SlotRequest.enrollTpm2 device passphrase pin pcrs unlockMethod unlockPin →
    ∀ d json, e.cmd = Cmd.tokenJsonSet d (TokenInput.add json) → d = device ∧
      ∃ secret result vk pw keyslot,
        tpm2Sealed secret pcrs pin result ∈ own e.thread earlier ∧
        keyslotAdded device vk pw keyslot ∈ own e.thread earlier ∧
        ∀ indices, parsePcrIndices pcrs = Except.ok indices →
          Tpm2ReadBack json result.blob pcrs indices (decide (pin ≠ "")) keyslot
  /-- It is stored as it was written. -/
  stored : ∀ device json tid, e.what = tokenAdded device json tid →
    ∃ h, e.state.header device = some h ∧ h.tokenJson tid = json

/-- Numbers of keyslots are small, and every token is accounted for. -/
structure TokensConsistent {n : ℕ} (reqs : Fin n → SlotRequest)
    (j : Journal (Fin n) Cmd Reply World) : Prop where
  keyslots : ∀ e ∈ j.log, ∀ device vk pw keyslot,
    RequestEvent.what e = keyslotAdded device vk pw keyslot → keyslot < keyslotsMax
  written : Throughout (TokenWritten reqs) j.log

section Histories

variable {n : ℕ} {reqs : Fin n → SlotRequest} {i : Fin n} {c : Cmd} {o : Oracle}
  {j : Journal (Fin n) Cmd Reply World}

/-- An index that was given out is below the limit. -/
lemma exec_addByKey_lt {who : Option ℕ} {device : String} {vk : Option VolumeKey} {pw : Bytes}
    {w : World} {keyslot : ℕ}
    (h : (exec who (Cmd.addByKey device vk pw) o w).1 = Except.ok keyslot) :
    keyslot < keyslotsMax := by
  rcases World.update_cases { w with now := w.now + o.elapsed } device o
    (fun h => h.addByKey who o vk pw) with ⟨g, a, g', -, -, hadd, hreply, -⟩ | ⟨e, hres, -⟩
  · obtain rfl : a = keyslot := Except.ok.inj (hreply.symm.trans h)
    obtain ⟨-, hlt, -⟩ := addByKey_ok hadd
    exact hlt
  · have herr : (exec who (Cmd.addByKey device vk pw) o w).1 = Except.error e :=
      congrArg Prod.fst hres
    rw [herr] at h
    cases h

/-- A token that was set is in the header, under its number. -/
lemma exec_tokenJsonSet_stored {who : Option ℕ} {device : String} {token : Json} {keyslot : ℕ}
    {w : World} {tid : ℕ}
    (h : (exec who (Cmd.tokenJsonSet device (TokenInput.add (withKeyslot token keyslot))) o w).1
      = Except.ok tid) :
    ∃ g, (exec who (Cmd.tokenJsonSet device (TokenInput.add (withKeyslot token keyslot))) o
      w).2.header device = some g ∧ g.tokenJson tid = withKeyslot token keyslot := by
  rcases World.update_cases { w with now := w.now + o.elapsed } device o
    (fun h => h.jsonSet who o (TokenInput.add (withKeyslot token keyslot))) with
    ⟨g, a, g', -, -, hset, hreply, hwrote⟩ | ⟨e, hres, -⟩
  · obtain rfl : a = tid := Except.ok.inj (hreply.symm.trans h)
    refine ⟨g', hwrote.header, ?_⟩
    cases ht : Token.ofJson who (withKeyslot token keyslot) with
    | none => simp [Header.jsonSet, ht] at hset
    | some t =>
        obtain ⟨-, htokens, -⟩ := jsonSet_add_ok ht hset
        rw [Header.tokenJson, htokens, Function.update_self]
        exact (ofJson_stamped_inv ht).2.2
  · have herr : (exec who (Cmd.tokenJsonSet device
        (TokenInput.add (withKeyslot token keyslot))) o w).1 = Except.error e :=
      congrArg Prod.fst hres
    rw [herr] at h
    cases h

/-- A keyslot that was added has a number below the limit. -/
lemma TokensConsistent.keyslot_lt (h : TokensConsistent reqs j) {device : String} {vk : VolumeKey}
    {pw : Bytes} {keyslot : ℕ} (hmem : keyslotAdded device vk pw keyslot ∈ own i j.log) :
    keyslot < keyslotsMax := by
  obtain ⟨e, he, -, hwhat⟩ := mem_own.mp hmem
  exact h.keyslots e he device vk pw keyslot hwhat

/-- **One command** keeps the journal consistent, if its thread's history allows it. -/
lemma TokensConsistent.step (h : TokensConsistent reqs j)
    (hrule : TokenRule (reqs i) c (own i j.log)) :
    TokensConsistent reqs (journaled (handlers n) i c o j).2 := by
  refine ⟨?_, throughout_cons.mpr ⟨⟨?_, ?_, ?_⟩, h.written⟩⟩
  · intro e he device vk pw keyslot hwhat
    rcases List.mem_cons.mp he with rfl | he
    · obtain rfl : c = Cmd.addByKey device (some vk) pw := congrArg Sigma.fst hwhat
      exact exec_addByKey_lt (by simpa [RequestEvent.what, keyslotAdded, handlers] using hwhat)
    · exact h.keyslots e he device vk pw keyslot hwhat
  · intro device passphrase pin fido2Device unlockMethod unlockPin hreq d json hc
    change reqs i = _ at hreq
    obtain ⟨hd, token, vk, pw, keyslot, rfl, hprepared, hadded⟩ := hrule d json hc
    rw [hreq] at hd hprepared
    obtain rfl : d = device := hd
    obtain ⟨enrollment, hmem, rfl⟩ := hprepared
    exact ⟨rfl, enrollment, vk, pw, keyslot, hmem, hadded,
      fido2_read_back _ _ _ (h.keyslot_lt hadded)⟩
  · intro device passphrase pin pcrs unlockMethod unlockPin hreq d json hc
    change reqs i = _ at hreq
    obtain ⟨hd, token, vk, pw, keyslot, rfl, hprepared, hadded⟩ := hrule d json hc
    rw [hreq] at hd hprepared
    obtain rfl : d = device := hd
    obtain ⟨secret, result, list, hmem, hlist, rfl⟩ := hprepared
    refine ⟨rfl, secret, result, vk, pw, keyslot, hmem, hadded, fun indices hindices => ?_⟩
    obtain ⟨list', hlist', hback⟩ := tpm2_read_back hindices result (decide (pin ≠ ""))
      (h.keyslot_lt hadded)
    obtain rfl : list = list' := Except.ok.inj (hlist.symm.trans hlist')
    exact hback
  · intro device json tid hwhat
    obtain rfl : c = Cmd.tokenJsonSet device (TokenInput.add json) := congrArg Sigma.fst hwhat
    obtain ⟨-, token, vk, pw, keyslot, rfl, -, -⟩ := hrule device json rfl
    exact exec_tokenJsonSet_stored (by simpa [RequestEvent.what, tokenAdded, handlers] using hwhat)

end Histories

/-- **What was enrolled is what is read.**  The credential and the salt of every FIDO2 token, and the
blob, the bank, the PIN flag and the selection of PCRs of every TPM2 token, are read back as they
went in, with the keyslot; for every text of PCRs that the policy is made from, the second parse
succeeds.  In every run of any requests in any order, the tokens that the enrollments write hold what
the authenticator, the TPM and libcryptsetup answered to the same request, and are stored as they
are. -/
theorem enrolled_tokens_read_back :
    (∀ (credId salt : Bytes) (pin : Bool) (keyslot : ℕ), keyslot < keyslotsMax →
      Fido2ReadBack (withKeyslot (fido2TokenJson credId salt pin) keyslot) credId salt keyslot) ∧
    (∀ pcrs indices, parsePcrIndices pcrs = Except.ok indices →
      ∀ (result : SealResult) (pin : Bool) (keyslot : ℕ), keyslot < keyslotsMax →
        ∃ list, pcrList pcrs = Except.ok list ∧
          Tpm2ReadBack (withKeyslot (tpm2TokenJson result list pin) keyslot) result.blob pcrs indices
            pin keyslot) ∧
    ∀ (n : ℕ) (reqs : Fin n → SlotRequest) (w : World) (sched : List (Fin n × Oracle)),
      Throughout (TokenWritten reqs)
        ((JournaledRequests reqs w).run (journaled (handlers n)) sched).state.log := by
  refine ⟨fun credId salt pin keyslot => fido2_read_back credId salt pin,
    fun pcrs indices h result pin keyslot => tpm2_read_back h result pin, ?_⟩
  intro n reqs w sched
  have hstart : TokensConsistent reqs (JournaledRequests reqs w).state :=
    ⟨by simp [JournaledRequests], throughout_nil _⟩
  exact (Pool.run_journal_all (handlers n) (P := fun i => TokenRule (reqs i))
    (fun i c o j hj hP => hj.step hP) (fun i => (reqs i).tells_body) hstart sched).1.written

end LuksEnroll
