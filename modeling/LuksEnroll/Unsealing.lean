import LuksEnroll.Enrollment
import LuksEnroll.Extraction
import LuksEnroll.Unlocking
import Mathlib.Data.List.Sort

/-!
# Which TPM2 token unlocks

A volume can carry several `systemd-tpm2` tokens.  `unseal_from_tokens` "tries each candidate until
one unseals" and hands over that secret; whether it opens a keyslot is found out later, by
`extract_token_volume_key`, and no other token is tried when it does not.

So an unlock succeeds exactly when the *first* candidate that unseals has a secret that opens a
keyslot: `tpm2_unlock_iff`.  A later token that would have opened one does not help,
`stale_token_blocks_unlock`.

What the TPM does with one token is a parameter: `tryUnseal` gives the outcome of
`try_unseal_token`, which is called at most once for every candidate.

The two methods differ in one thing.  `VerifyTpm2` always asks the TPM; every other method asks the
cache first, so that the condition is about them only while no key is cached for the volume.
-/

namespace LuksEnroll

open Library

/-! ## The tokens tried

The loop with results in place of runs, which is all that the theorem about an unlock needs.
-/

/-- `candidate_tokens`: a stable sort that puts tokens which match the PIN's presence first; without
a PIN those that need one are left out. -/
def candidateTokens (tokens : List Tpm2TokenRef) (pinProvided : Bool) : List Tpm2TokenRef :=
  (tokens.insertionSort fun a b =>
    (a.pinRequired != pinProvided) ≤ (b.pinRequired != pinProvided)).filter
      fun t => !t.pinRequired || pinProvided

section Tpm

variable (tryUnseal : Tpm2TokenRef → String → Except String Bytes)

/-- The loop of `unseal_from_tokens`. -/
def unsealFirst (pin : String) : List Tpm2TokenRef → String → Except String Bytes
  | [], lastError => Except.error lastError
  | token :: rest, _ =>
      match tryUnseal token pin with
      | Except.ok secret => Except.ok secret
      | Except.error e => unsealFirst pin rest ("Token " ++ token.tokenId ++ ": " ++ e)

def unsealFromTokens (tokens : List Tpm2TokenRef) (pin : String) : Except String Bytes :=
  if tokens.isEmpty then Except.error "No systemd-tpm2 token found"
  else unsealFirst tryUnseal pin (candidateTokens tokens (decide (pin ≠ "")))
    "No systemd-tpm2 token could be unsealed"

/-- The secret of the first candidate that unseals. -/
def firstUnsealed (tokens : List Tpm2TokenRef) (pin : String) : Option Bytes :=
  (candidateTokens tokens (decide (pin ≠ ""))).findSome? fun t => (tryUnseal t pin).toOption

lemma unsealFirst_toOption (pin : String) (tokens : List Tpm2TokenRef) (lastError : String) :
    (unsealFirst tryUnseal pin tokens lastError).toOption
      = tokens.findSome? fun t => (tryUnseal t pin).toOption := by
  induction tokens generalizing lastError with
  | nil => rfl
  | cons t tokens ih =>
      simp only [unsealFirst, List.findSome?_cons]
      cases tryUnseal t pin with
      | ok secret => rfl
      | error e => exact ih _

lemma unsealFromTokens_toOption (tokens : List Tpm2TokenRef) (pin : String) :
    (unsealFromTokens tryUnseal tokens pin).toOption = firstUnsealed tryUnseal tokens pin := by
  unfold unsealFromTokens firstUnsealed
  split_ifs with hempty
  · rw [List.isEmpty_iff] at hempty
    simp [hempty, candidateTokens, Except.toOption]
  · exact unsealFirst_toOption tryUnseal pin _ _

/-! ## The service with that TPM

An unlock with a TPM that gives these results, and nothing else that fails.
-/

/-- The world, with this TPM answering. -/
def withTpm (who : Option ℕ) : Handler Cmd Reply Oracle World
  | Cmd.tpm2UnsealFromTokens refs pin, o, w =>
      (unsealFromTokens tryUnseal refs pin, { w with now := w.now + o.elapsed })
  | c, o, w => exec who c o w

/-- The passphrase that the TPM2 tokens of a header give. -/
def tpm2Passphrase (pin : String) (h : Header) : Except String Bytes := do
  let refs ← tpm2RefsFromMeta h.dump
  return asBytes (Base64.encode (← unsealFromTokens tryUnseal refs pin))

/-- **The first token that unseals** has a secret that opens a keyslot. -/
def Tpm2Unlocks (pin : String) (h : Header) : Prop :=
  ∃ refs secret k, tpm2RefsFromMeta h.dump = Except.ok refs
    ∧ firstUnsealed tryUnseal refs pin = some secret
    ∧ h.opens (asBytes (Base64.encode secret)) k = true

lemma tpm2Unlocks_iff {pin : String} {h : Header} : Tpm2Unlocks tryUnseal pin h
    ↔ ∃ pw k, tpm2Passphrase tryUnseal pin h = Except.ok pw ∧ h.opens pw k = true := by
  unfold Tpm2Unlocks tpm2Passphrase
  cases tpm2RefsFromMeta h.dump with
  | error e => simp [bind, Except.bind]
  | ok refs =>
      have hfirst := unsealFromTokens_toOption tryUnseal refs pin
      cases hunseal : unsealFromTokens tryUnseal refs pin with
      | error e =>
          rw [hunseal] at hfirst
          simp [bind, Except.bind, hunseal, ← hfirst, Except.toOption]
      | ok secret =>
          rw [hunseal] at hfirst
          simp [bind, Except.bind, pure, Except.pure, hunseal, ← hfirst, Except.toOption]

variable (who : Option ℕ) {device : String} {w : World} {h : Header}

lemma withTpm_session {c : Cmd} (hc : c.SessionOn device) :
    withTpm tryUnseal who c = exec who c := by
  cases c <;> first | rfl | exact hc.elim

lemma tpm2TokenRefs_run {os : ℕ → Oracle} (hos : ∀ n, Undisturbed (os n))
    (hh : w.header device = some h) :
    ∃ v, (tpm2TokenRefs device).run (withTpm tryUnseal who) os w = (tpm2RefsFromMeta h.dump, v)
      ∧ w.SameDisk v := by
  obtain ⟨v, hv, hsame⟩ := metadataJson_run who device os w
  rw [metadataRead_of_not_faulty not_faulty_undisturbed hos hh,
    ← Prog.run_congr (fun c => withTpm_session tryUnseal who) (metadataJson_session device)] at hv
  refine ⟨v, ?_, hsame⟩
  rw [tpm2TokenRefs, tokenRefs, Prog.bind_def, Prog.run_bind_ok hv]
  exact Prog.run_ofExcept _ _ _ _

/-- Deriving the passphrase: the tokens of the header are read and the TPM is asked. -/
lemma derivePassphrase_run {os : ℕ → Oracle} (hos : ∀ n, Undisturbed (os n))
    (hh : w.header device = some h) (pin : String) :
    ∃ v, (derivePassphraseFromToken device tokenTypeTpm2 pin).run (withTpm tryUnseal who) os w
        = (tpm2Passphrase tryUnseal pin h, v) ∧ w.SameDisk v := by
  obtain ⟨v, hv, hsame⟩ := tpm2TokenRefs_run tryUnseal who hos hh
  have hraw : rawTokenSecret device tokenTypeTpm2 pin = (tpm2TokenRefs device).bind fun refs =>
      (ask (Cmd.tpm2UnsealFromTokens refs pin)).bind fun r => orFail r id := by
    simp [rawTokenSecret, tokenTypeTpm2, tokenTypeFido2]
  rw [derivePassphraseFromToken, Prog.bind_def, hraw, Prog.bind_assoc, tpm2Passphrase]
  cases hrefs : tpm2RefsFromMeta h.dump with
  | error e =>
      rw [hrefs] at hv
      exact ⟨v, Prog.run_bind_error hv, hsame⟩
  | ok refs =>
      rw [hrefs] at hv
      rw [Prog.run_bind_ok hv]
      set os' := Prog.after ((tpm2TokenRefs device).steps (withTpm tryUnseal who) os w) os
      refine ⟨{ v with now := v.now + (os' 0).elapsed }, ?_, hsame.trans ⟨rfl, rfl, rfl⟩⟩
      show ((orFail (unsealFromTokens tryUnseal refs pin) id).bind _).run _ _ _
        = ((unsealFromTokens tryUnseal refs pin).bind fun secret =>
          Except.ok (asBytes (Base64.encode secret)), _)
      cases unsealFromTokens tryUnseal refs pin with
      | error e => rfl
      | ok secret => rfl

/-- Reading the tokens, unsealing and extracting, as `verify_token` and a cold `get_volume_key` do:
it succeeds exactly when the passphrase opens a keyslot. -/
lemma tpm2Extract_run {os : ℕ → Oracle} (hos : ∀ n, Undisturbed (os n))
    (hh : w.header device = some h) (pin : String) (word : String → String) :
    (∃ r, (((derivePassphraseFromToken device tokenTypeTpm2 pin).bind fun pw =>
        (extractTokenVolumeKey device tokenTypeTpm2 pw).mapErr word).run
          (withTpm tryUnseal who) os w).1 = Except.ok r) ↔ Tpm2Unlocks tryUnseal pin h := by
  obtain ⟨v, hv, hsame⟩ := derivePassphrase_run tryUnseal who hos hh pin
  rw [tpm2Unlocks_iff]
  cases hpw : tpm2Passphrase tryUnseal pin h with
  | error e =>
      rw [hpw] at hv
      rw [Prog.run_bind_error hv]
      simp
  | ok pw =>
      rw [hpw] at hv
      rw [Prog.run_bind_ok hv, Prog.run_mapErr]
      set os' := Prog.after
        ((derivePassphraseFromToken device tokenTypeTpm2 pin).steps (withTpm tryUnseal who) os w) os
      have hos' : ∀ n, Undisturbed (os' n) := fun n => hos _
      obtain ⟨v', hopen, -⟩ := openLuks2_run who not_faulty_undisturbed hos'
        ((hsame.header device).trans hh)
      rw [← Prog.run_congr (fun c => withTpm_session tryUnseal who) (openLuks2_session device)]
        at hopen
      have hdump : ∀ (o : Oracle) (w : World), Undisturbed o →
          (withTpm tryUnseal who (Cmd.dumpJson h) o w).1 = Except.ok h.dump := by
        intro o w ho
        simp [withTpm, exec, answer, Oracle.unlessFault, show o.fault = none from ho]
      have hget : ∀ (slot : Option ℕ) (o : Oracle) (w : World), Undisturbed o →
          (withTpm tryUnseal who (Cmd.volumeKeyGet h slot pw) o w).1 = h.keyAt o slot pw := by
        intro slot o w ho
        simp [withTpm, exec, answer, Oracle.unlessFault, show o.fault = none from ho, Except.bind]
      have hend := @extract_spec _ _ _ tokenTypeTpm2 pw os' hos' _ _ _ hopen _ hdump hget
      generalize ((extractTokenVolumeKey device tokenTypeTpm2 pw).run (withTpm tryUnseal who)
        os' v).1 = x at hend
      cases hend with
      | listed hk =>
          refine ⟨fun _ => ⟨pw, _, rfl, List.find?_some hk⟩, fun _ => ⟨_, rfl⟩⟩
      | other _ hi =>
          refine ⟨fun _ => ⟨pw, _, rfl, hi⟩, fun _ => ⟨_, rfl⟩⟩
      | none hall => simp [hall, Except.mapError]

end Tpm

/-! ## Verifying and unlocking

Both methods by the same condition; only the second asks the cache first.
-/

/-- What a sequence returns, if the rest of it always returns something. -/
lemma bind_returns_iff {α β : Type} {H : Handler Cmd Reply Oracle World} {p : Op α} {f : α → Op β}
    (hf : ∀ a os w, ∃ b, ((f a).run H os w).1 = Except.ok b) (os : ℕ → Oracle) (w : World) :
    (∃ b, ((p.bind f).run H os w).1 = Except.ok b) ↔ ∃ a, (p.run H os w).1 = Except.ok a := by
  cases hp : (p.run H os w).1 with
  | error e =>
      rw [Prog.run_bind_error (Prod.ext hp rfl)]
      simp
  | ok a =>
      rw [Prog.run_bind_ok (Prod.ext hp rfl)]
      simpa using hf a _ _

/-- **Several TPM2 tokens.**  Whatever tokens a header carries, whatever the PIN and whatever the
TPM does with each of them: with the device readable, `verify_token` succeeds exactly when the tokens
can be read and the first candidate that unseals has a secret whose base64 form opens a keyslot; and so
does `get_volume_key` when nothing is cached, which it asks first and `verify_token` does not. -/
theorem tpm2_unlock_iff (tryUnseal : Tpm2TokenRef → String → Except String Bytes)
    (device passphrase pin : String) (who : Option ℕ) {os : ℕ → Oracle}
    (hos : ∀ n, Undisturbed (os n)) {w : World} {h : Header} (hh : w.header device = some h) :
    ((∃ slot, ((verifyToken device tokenTypeTpm2 pin).run (withTpm tryUnseal who) os w).1
        = Except.ok slot) ↔ Tpm2Unlocks tryUnseal pin h)
      ∧ (w.cachedKey device = none →
        ((∃ vk, ((getVolumeKey device tokenTypeTpm2 passphrase pin).run
          (withTpm tryUnseal who) os w).1 = Except.ok vk) ↔ Tpm2Unlocks tryUnseal pin h)) := by
  refine ⟨?_, fun hcold => ?_⟩
  · have hverify : verifyToken device tokenTypeTpm2 pin
        = ((derivePassphraseFromToken device tokenTypeTpm2 pin).bind fun pw =>
          (extractTokenVolumeKey device tokenTypeTpm2 pw).mapErr fun e =>
            "Token unlock failed (" ++ e ++ ")").bind fun r =>
              (ask (Cmd.cacheInsert device r.2)).bind fun _ => Prog.ret r.1 := by
      rw [Prog.bind_assoc]
      rfl
    rw [hverify, bind_returns_iff fun r _ _ => ⟨r.1, rfl⟩]
    exact tpm2Extract_run tryUnseal who hos hh pin _
  · have hcache : (withTpm tryUnseal who (Cmd.cacheGet device) (os 0) w).1 = none := by
      by_contra hsome
      obtain ⟨vk, hvk⟩ := Option.ne_none_iff_exists'.mp hsome
      exact absurd (hcold.symm.trans (cacheGet_some hvk)) (by simp)
    have hlookup : ((ask (Cmd.cacheGet device)).run (withTpm tryUnseal who) os w)
        = (Except.ok none, (withTpm tryUnseal who (Cmd.cacheGet device) (os 0) w).2) :=
      Prod.ext (congrArg Except.ok hcache) rfl
    have hsame : w.SameDisk (withTpm tryUnseal who (Cmd.cacheGet device) (os 0) w).2 :=
      exec_readsOn (c := Cmd.cacheGet device) rfl (os 0) w
    have hextract : coldVolumeKey device tokenTypeTpm2 passphrase pin
        = ((derivePassphraseFromToken device tokenTypeTpm2 pin).bind fun pw =>
          (extractTokenVolumeKey device tokenTypeTpm2 pw).mapErr fun e =>
            "Failed to get volume key (" ++ e ++ ")").bind fun r => Prog.ret r.2 := by
      rw [Prog.bind_assoc]
      rfl
    rw [getVolumeKey, if_pos (by decide), Prog.bind_def, Prog.run_bind_ok hlookup]
    refine (bind_returns_iff (fun vk _ _ => ⟨vk, rfl⟩) _ _).trans ?_
    rw [hextract, bind_returns_iff fun r _ _ => ⟨r.2, rfl⟩]
    exact tpm2Extract_run tryUnseal who (fun n => hos _) ((hsame.header device).trans hh) pin _

/-! ## A stale token

A token that unseals to a secret which opens no keyslot any more stands before one that would.
-/

/-- A keyslot for the secret `[2]`, and two tokens: the first is left over from a keyslot that is
gone. -/
def staleToken : Header :=
  Header.ofEntries ⟨[7]⟩ [⟨"luks2", asBytes (Base64.encode [2]), true, none⟩]
    [⟨[("type", Json.str tokenTypeTpm2), ("tpm2-blob", Json.str (Base64.encode [0]))], [], none⟩,
      ⟨[("type", Json.str tokenTypeTpm2), ("tpm2-blob", Json.str (Base64.encode [1]))], [0], none⟩]
    (by decide) (by decide) (by decide)

/-- A TPM that unseals both, to `[9]` and to `[2]`. -/
def unsealsBoth (token : Tpm2TokenRef) (_pin : String) : Except String Bytes :=
  if token.blob = [0] then Except.ok [9] else Except.ok [2]

/-- **The second token would open the keyslot, the first is unsealed**: the unlock fails. -/
theorem stale_token_blocks_unlock :
    (∃ refs, tpm2RefsFromMeta staleToken.dump = Except.ok refs
        ∧ ∃ t ∈ candidateTokens refs false, ∃ secret k, unsealsBoth t "" = Except.ok secret
          ∧ staleToken.opens (asBytes (Base64.encode secret)) k = true)
      ∧ ((verifyToken "/dev/sdb1" tokenTypeTpm2 "").run (withTpm unsealsBoth none)
        (fun _ => Oracle.quiet) (volumeWith staleToken)).1
          = Except.error "Token unlock failed (libcryptsetup: )"
      ∧ ((getVolumeKey "/dev/sdb1" tokenTypeTpm2 "" "").run (withTpm unsealsBoth none)
        (fun _ => Oracle.quiet) (volumeWith staleToken)).1
          = Except.error "Failed to get volume key (libcryptsetup: )" := by
  refine ⟨⟨[⟨"0", [0], "", "sha256", false⟩, ⟨"1", [1], "", "sha256", false⟩], by rfl, ?_⟩,
    by decide +kernel, by decide +kernel⟩
  exact ⟨⟨"1", [1], "", "sha256", false⟩, by simp [candidateTokens], [2], 0, rfl, by decide +kernel⟩

/-- The same volume without the stale token. -/
def freshToken : Header :=
  Header.ofEntries ⟨[7]⟩ [⟨"luks2", asBytes (Base64.encode [2]), true, none⟩]
    [⟨[("type", Json.str tokenTypeTpm2), ("tpm2-blob", Json.str (Base64.encode [1]))], [0], none⟩]
    (by decide) (by decide) (by decide)

/-- It is unlocked by its token. -/
theorem fresh_token_unlocks :
    (∃ slot, ((verifyToken "/dev/sdb1" tokenTypeTpm2 "").run (withTpm unsealsBoth none)
        (fun _ => Oracle.quiet) (volumeWith freshToken)).1 = Except.ok slot)
      ∧ ∃ vk, ((getVolumeKey "/dev/sdb1" tokenTypeTpm2 "" "").run (withTpm unsealsBoth none)
        (fun _ => Oracle.quiet) (volumeWith freshToken)).1 = Except.ok vk := by
  have hunlocks : Tpm2Unlocks unsealsBoth "" freshToken :=
    ⟨[⟨"0", [1], "", "sha256", false⟩], [2], 0, by rfl, by decide +kernel, by decide +kernel⟩
  obtain ⟨hverify, hget⟩ := tpm2_unlock_iff unsealsBoth "/dev/sdb1" "" "" none
    (fun _ => rfl : ∀ _ : ℕ, Undisturbed Oracle.quiet) (w := volumeWith freshToken) (h := freshToken)
    rfl
  exact ⟨hverify.mpr hunlocks, (hget rfl).mpr hunlocks⟩

end LuksEnroll
